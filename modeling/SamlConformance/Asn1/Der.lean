import SamlConformance.Asn1.Header

/-!
# Tagged Values

Values are read in two ways. A certificate is read by the numbers of its kinds
alone, whatever else its headers say. Where one writing of a value is allowed, what
was read has to be what `encode` writes.

## Main definitions

* `Der.element?`: The first value of a list of bytes.
* `Der.content?`: Its content, if it is of a given kind.
* `Der.encode`, `Der.encodeNatural`: The one writing.
* `Der.strict?`, `Der.natural?`, `Der.pair?`: Readers of the one writing.

## Theorems

* `Der.eq_encode_of_strict?`, `Der.eq_encodeNatural_of_natural?`,
  `Der.eq_encodePair_of_pair?`: What these read is what is written.
-/

namespace SamlConformance

namespace Der

/-- A value. -/
structure Element where
  /-- What stands in front of the content. -/
  header : Header
  /-- The bytes of the content. -/
  content : List UInt8
deriving Repr, DecidableEq

/-- The first value, whose length has to be stated, and what follows it. -/
def element? (bytes : List UInt8) : Option (Element × List UInt8) :=
  match header? bytes with
  | none => none
  | some (h, rest) =>
    match h.length with
    | none => none
    | some n => if rest.length < n then none else some (⟨h, rest.take n⟩, rest.drop n)

/-- The content of the first value, if it is of the kind, and what follows it. -/
def content? (kind : Kind) (bytes : List UInt8) : Option (List UInt8 × List UInt8) :=
  match element? bytes with
  | some (e, rest) => if e.header.number = kind then some (e.content, rest) else none
  | none => none

/-- The content of the first value, if it is of the kind and not made of values, and
what follows it. -/
def plain? (kind : Kind) (bytes : List UInt8) : Option (List UInt8 × List UInt8) :=
  match element? bytes with
  | some (e, rest) =>
    if e.header.number = kind ∧ e.header.nested = false then some (e.content, rest) else none
  | none => none

/-- What follows the first value, if it is of the kind. -/
def past? (kind : Kind) (bytes : List UInt8) : Option (List UInt8) :=
  (content? kind bytes).map Prod.snd

/-- The bytes of a string of bits, and what follows it. Bits of the last byte that do
not count are zero. -/
def bits? (bytes : List UInt8) : Option (List UInt8 × List UInt8) :=
  match plain? bitString bytes with
  | some (unused :: data, rest) =>
    let last := (data.getLast?.getD 0).toNat
    if unused.toNat ≤ 8 ∧ (data = [] → unused = 0) ∧ last % Nat.pow 2 unused.toNat = 0 then
      some (data, rest)
    else none
  | _ => none

/-- The one writing of a length. -/
def encodeLength (n : Nat) : List UInt8 :=
  if n < 128 then [UInt8.ofNat n]
  else UInt8.ofNat (128 + BigEndian.size n) :: BigEndian.shortest n

/-- The first byte of the one writing of a value: sequences alone are made of values. -/
def firstByte (kind : Kind) : UInt8 :=
  UInt8.ofNat (if kind = sequence then kind + 0x20 else kind)

/-- The one writing of a value. -/
def encode (kind : Kind) (content : List UInt8) : List UInt8 :=
  firstByte kind :: encodeLength content.length ++ content

/-- The one writing of a whole number that is not negative. -/
def encodeNatural (n : Nat) : List UInt8 :=
  match BigEndian.shortest n with
  | [] => encode integer [0]
  | b :: bs => encode integer (if b < 0x80 then b :: bs else 0 :: b :: bs)

/-- The one writing of two whole numbers in a sequence. -/
def encodePair (a b : Nat) : List UInt8 :=
  encode sequence (encodeNatural a ++ encodeNatural b)

/-- The content of the first value, if it is of the kind and in the one writing, and
what follows it. -/
def strict? (kind : Kind) (bytes : List UInt8) : Option (List UInt8 × List UInt8) :=
  match content? kind bytes with
  | some (content, rest) =>
    if bytes = encode kind content ++ rest then some (content, rest) else none
  | none => none

/-- A whole number in the one writing, and what follows it. -/
def natural? (bytes : List UInt8) : Option (Nat × List UInt8) :=
  match content? integer bytes with
  | some (content, rest) =>
    let n := BigEndian.value content
    if bytes = encodeNatural n ++ rest then some (n, rest) else none
  | none => none

/-- Two whole numbers in a sequence, in the one writing, and what follows it. -/
def pair? (bytes : List UInt8) : Option ((Nat × Nat) × List UInt8) := do
  let (content, rest) ← strict? sequence bytes
  let (a, more) ← natural? content
  let (b, _) ← natural? more
  if bytes = encodePair a b ++ rest then some ((a, b), rest) else none

theorem eq_encode_of_strict? {kind : Kind} {bytes content rest : List UInt8}
    (h : strict? kind bytes = some (content, rest)) : bytes = encode kind content ++ rest := by
  unfold strict? at h
  split at h
  · split at h
    · simp only [Option.some.injEq, Prod.mk.injEq] at h
      obtain ⟨rfl, rfl⟩ := h
      assumption
    · simp at h
  · simp at h

theorem eq_encodeNatural_of_natural? {bytes rest : List UInt8} {n : Nat}
    (h : natural? bytes = some (n, rest)) : bytes = encodeNatural n ++ rest := by
  unfold natural? at h
  split at h
  · dsimp only at h
    split at h
    · simp only [Option.some.injEq, Prod.mk.injEq] at h
      obtain ⟨rfl, rfl⟩ := h
      assumption
    · simp at h
  · simp at h

theorem eq_encodePair_of_pair? {bytes rest : List UInt8} {a b : Nat}
    (h : pair? bytes = some ((a, b), rest)) : bytes = encodePair a b ++ rest := by
  simp only [pair?, Option.bind_eq_bind, Option.bind_eq_some_iff] at h
  obtain ⟨_, _, _, _, _, _, h⟩ := h
  split at h
  · simp only [Option.some.injEq, Prod.mk.injEq] at h
    obtain ⟨⟨rfl, rfl⟩, rfl⟩ := h
    assumption
  · simp at h

end Der

end SamlConformance
