import SamlConformance.Deflate.Huffman

/-!
# Raw DEFLATE Streams

A stream is a series of blocks, the last of which is marked. A block holds
plain bytes, or symbols of two codes: literal bytes mixed with the lengths of
repeats, and the distances the repeats reach back. The codes are fixed or stand
in the block.

Repeats read from a window that holds zeros before anything was written, so a
distance that reaches before the first byte repeats zeros. Whatever follows the
last block does not belong to the stream.

Each step of the loops consumes bits, which is why they end; lemmas such as
`size_symbols` and `size_block` carry that through the steps that a block is
made of.

## Main definitions

* `inflate`: The bytes a stream holds.
* `inflateFrom`: The same with what follows the stream.
* `store`: A stream that holds given bytes, in plain blocks.
-/

namespace SamlConformance

namespace Deflate

/-- Shortest length and number of extra bits of the repeat symbols 257 to 285. -/
def lengthTable : Array (Nat × Nat) :=
  #[(3, 0), (4, 0), (5, 0), (6, 0), (7, 0), (8, 0), (9, 0), (10, 0), (11, 1), (13, 1), (15, 1),
    (17, 1), (19, 2), (23, 2), (27, 2), (31, 2), (35, 3), (43, 3), (51, 3), (59, 3), (67, 4),
    (83, 4), (99, 4), (115, 4), (131, 5), (163, 5), (195, 5), (227, 5), (258, 0)]

/-- Shortest distance and number of extra bits of the distance symbols. -/
def distanceTable : Array (Nat × Nat) :=
  #[(1, 0), (2, 0), (3, 0), (4, 0), (5, 1), (7, 1), (9, 2), (13, 2), (17, 3), (25, 3), (33, 4),
    (49, 4), (65, 5), (97, 5), (129, 6), (193, 6), (257, 7), (385, 7), (513, 8), (769, 8),
    (1025, 9), (1537, 9), (2049, 10), (3073, 10), (4097, 11), (6145, 11), (8193, 12),
    (12289, 12), (16385, 13), (24577, 13)]

/-- Appends `n` bytes, each the one `distance` places before it. -/
def copyBack (distance : Nat) : Nat → Array UInt8 → Array UInt8
  | 0, out => out
  | n + 1, out =>
    let b := if distance ≤ out.size then out[out.size - distance]?.getD 0 else 0
    copyBack distance n (out.push b)

/-- The codes of a block: for literals and lengths, and for distances. -/
structure Codes where
  /-- Literals, the end mark and lengths. -/
  literal : Code
  /-- Distances. -/
  distance : Code

/-- A number with a base and extra bits from a table. -/
def tableNumber (table : Array (Nat × Nat)) (i : Nat) (b : Bits) : Except Fault (Nat × Bits) :=
  match table[i]? with
  | none => .error .corrupt
  | some (base, extra) =>
    match Bits.number extra b with
    | .error f => .error f
    | .ok (v, b') => .ok (base + v, b')

/-- What a symbol of the first code stands for. -/
inductive Item where
  /-- A byte. -/
  | literal (byte : UInt8)
  /-- The end of the block. -/
  | stop
  /-- A repeat, its length by an entry of the length table. -/
  | repetition (lengthEntry : Nat)
deriving Repr, DecidableEq

/-- Bytes come first, then the end mark, then the lengths. -/
def Item.ofSymbol (s : Nat) : Item :=
  if s < 256 then .literal (UInt8.ofNat s) else if s = 256 then .stop else .repetition (s - 257)

/-- Reads what follows the symbol of a repeat: its length and distance. -/
def repetition (codes : Codes) (lengthEntry : Nat) (b : Bits) :
    Except Fault ((Nat × Nat) × Bits) :=
  match tableNumber lengthTable lengthEntry b with
  | .error f => .error f
  | .ok (length, b1) =>
    match codes.distance.symbol b1 with
    | .error f => .error f
    | .ok (d, b2) =>
      match tableNumber distanceTable d b2 with
      | .error f => .error f
      | .ok (distance, b3) => .ok ((length, distance), b3)

theorem size_tableNumber {table : Array (Nat × Nat)} {i n : Nat} {b b' : Bits}
    (h : tableNumber table i b = .ok (n, b')) : b'.size ≤ b.size := by
  simp only [tableNumber] at h
  split at h
  · exact absurd h (by simp)
  · rename_i base extra _
    split at h
    · exact absurd h (by simp)
    · rename_i v b1 h1
      simp only [Except.ok.injEq, Prod.mk.injEq] at h
      obtain ⟨-, rfl⟩ := h
      have := Bits.size_number h1
      omega

theorem size_repetition {codes : Codes} {i : Nat} {r : Nat × Nat} {b b' : Bits}
    (h : repetition codes i b = .ok (r, b')) : b'.size ≤ b.size := by
  simp only [repetition] at h
  split at h
  · exact absurd h (by simp)
  · rename_i length b1 h1
    split at h
    · exact absurd h (by simp)
    · rename_i d b2 h2
      split at h
      · exact absurd h (by simp)
      · rename_i distance b3 h3
        simp only [Except.ok.injEq, Prod.mk.injEq] at h
        obtain ⟨-, rfl⟩ := h
        have := size_tableNumber h1
        have := Code.size_symbol h2
        have := size_tableNumber h3
        omega

/-- Reads the symbols of a block up to its end mark. -/
def symbols (codes : Codes) (out : Array UInt8) (b : Bits) :
    Except Fault (Array UInt8 × Bits) :=
  match _ : codes.literal.symbol b with
  | .error f => .error f
  | .ok (s, b1) =>
    match Item.ofSymbol s with
    | .literal x => symbols codes (out.push x) b1
    | .stop => .ok (out, b1)
    | .repetition i =>
      match _ : repetition codes i b1 with
      | .error f => .error f
      | .ok ((length, distance), b2) => symbols codes (copyBack distance length out) b2
termination_by b.size
decreasing_by
  · exact Code.size_symbol ‹_›
  · have := Code.size_symbol ‹codes.literal.symbol b = _›
    have := size_repetition ‹repetition codes i b1 = _›
    omega

theorem size_symbols {codes : Codes} {out out' : Array UInt8} {b b' : Bits}
    (h : symbols codes out b = .ok (out', b')) : b'.size ≤ b.size := by
  fun_induction symbols codes out b with
  | case1 => exact absurd h (by simp)
  | case2 out b s b1 h1 _ _ ih =>
    have := Code.size_symbol h1
    have := ih h
    omega
  | case3 out b s b1 h1 =>
    simp only [Except.ok.injEq, Prod.mk.injEq] at h
    obtain ⟨-, rfl⟩ := h
    have := Code.size_symbol h1
    omega
  | case4 => exact absurd h (by simp)
  | case5 out b s b1 h1 _ _ length distance b2 h2 ih =>
    have := Code.size_symbol h1
    have := size_repetition h2
    have := ih h
    omega

/-- Word lengths of the fixed codes. -/
def fixedCodes : Codes :=
  { literal := .ofLengths (List.replicate 144 8 ++ List.replicate 112 9 ++ List.replicate 24 7 ++
      List.replicate 8 8)
    distance := .ofLengths (List.replicate 32 5) }

/-- The order in which a block gives the lengths of the code for lengths. -/
def lengthOrder : List Nat :=
  [16, 17, 18, 0, 8, 7, 9, 6, 10, 5, 11, 4, 12, 3, 13, 2, 14, 1, 15]

/-- Reads `n` numbers of three bits. -/
def tripleBits : Nat → Bits → Except Fault (List Nat × Bits)
  | 0, b => .ok ([], b)
  | n + 1, b =>
    match b.number 3 with
    | .error f => .error f
    | .ok (v, b1) =>
      match tripleBits n b1 with
      | .error f => .error f
      | .ok (vs, b2) => .ok (v :: vs, b2)

theorem size_tripleBits {n : Nat} {vs : List Nat} {b b' : Bits}
    (h : tripleBits n b = .ok (vs, b')) : b'.size ≤ b.size := by
  induction n generalizing vs b with
  | zero =>
    simp only [tripleBits, Except.ok.injEq, Prod.mk.injEq] at h
    obtain ⟨-, rfl⟩ := h
    exact Nat.le_refl _
  | succ n ih =>
    simp only [tripleBits] at h
    split at h
    · exact absurd h (by simp)
    · rename_i v b1 h1
      split at h
      · exact absurd h (by simp)
      · rename_i ws b2 h2
        simp only [Except.ok.injEq, Prod.mk.injEq] at h
        obtain ⟨-, rfl⟩ := h
        have := Bits.size_number h1
        have := ih h2
        omega

/-- A symbol of the code for lengths: one length, or a run of them. The last
length read so far is known only after the first. -/
def lengthRun (last : Option Nat) (s : Nat) (b : Bits) : Except Fault (List Nat × Bits) :=
  let run (l bits least : Nat) : Except Fault (List Nat × Bits) :=
    match b.number bits with
    | .error f => .error f
    | .ok (v, b') => .ok (List.replicate (least + v) l, b')
  if s < 16 then .ok ([s], b)
  else if s = 16 then
    match last with
    | none => .error .corrupt
    | some l => run l 2 3
  else if s = 17 then run 0 3 3
  else run 0 7 11

theorem size_lengthRun {last : Option Nat} {s : Nat} {ls : List Nat} {b b' : Bits}
    (h : lengthRun last s b = .ok (ls, b')) : b'.size ≤ b.size := by
  have run : ∀ {l bits least : Nat}, (match b.number bits with
      | .error f => Except.error f
      | .ok (v, b') => .ok (List.replicate (least + v) l, b')) = .ok (ls, b') →
      b'.size ≤ b.size := by
    intro l bits least h
    split at h
    · exact absurd h (by simp)
    · rename_i v b1 h1
      simp only [Except.ok.injEq, Prod.mk.injEq] at h
      obtain ⟨-, rfl⟩ := h
      have := Bits.size_number h1
      omega
  simp only [lengthRun] at h
  split at h
  · simp only [Except.ok.injEq, Prod.mk.injEq] at h
    obtain ⟨-, rfl⟩ := h
    exact Nat.le_refl _
  · split at h
    · split at h
      · exact absurd h (by simp)
      · exact run h
    · split at h
      · exact run h
      · exact run h

/-- Reads word lengths until there are `need`. -/
def wordLengths (code : Code) (need : Nat) (got : List Nat) (b : Bits) :
    Except Fault (List Nat × Bits) :=
  if need ≤ got.length then
    if got.length = need then .ok (got, b) else .error .corrupt
  else
    match _ : code.symbol b with
    | .error f => .error f
    | .ok (s, b1) =>
      match _ : lengthRun got.getLast? s b1 with
      | .error f => .error f
      | .ok (ls, b2) => wordLengths code need (got ++ ls) b2
termination_by b.size
decreasing_by
  have := Code.size_symbol ‹code.symbol b = _›
  have := size_lengthRun ‹lengthRun _ s b1 = _›
  omega

theorem size_wordLengths {code : Code} {need : Nat} {got ls : List Nat} {b b' : Bits}
    (h : wordLengths code need got b = .ok (ls, b')) : b'.size ≤ b.size := by
  fun_induction wordLengths code need got b with
  | case1 =>
    simp only [Except.ok.injEq, Prod.mk.injEq] at h
    obtain ⟨-, rfl⟩ := h
    exact Nat.le_refl _
  | case2 => exact absurd h (by simp)
  | case3 => exact absurd h (by simp)
  | case4 => exact absurd h (by simp)
  | case5 got b _ s b1 h1 ls b2 h2 ih =>
    have := Code.size_symbol h1
    have := size_lengthRun h2
    have := ih h
    omega

/-- The codes with given word lengths, the first `literals` of which belong to
literals. -/
def codesOfLengths (literals : Nat) (lengths : List Nat) : Except Fault Codes :=
  let codes : Codes := ⟨.ofLengths (lengths.take literals), .ofLengths (lengths.drop literals)⟩
  if codes.literal.isUsable && codes.distance.isUsable then .ok codes else .error .corrupt

/-- The numbers that open a block with codes of its own: how many literal and
distance symbols it has, and how many lengths describe the code for lengths. -/
def codeSizes (b : Bits) : Except Fault ((Nat × Nat × Nat) × Bits) :=
  match b.number 14 with
  | .error f => .error f
  | .ok (v, b') =>
    let literals := 257 + v % 32
    let distances := 1 + v / 32 % 32
    if literals > 286 || distances > 30 then .error .corrupt
    else .ok ((literals, distances, 4 + v / 1024), b')

/-- Reads the codes that stand in a block. -/
def ownCodes (b : Bits) : Except Fault (Codes × Bits) :=
  match codeSizes b with
  | .error f => .error f
  | .ok ((literals, distances, described), b1) =>
    match tripleBits described b1 with
    | .error f => .error f
    | .ok (ls, b2) =>
      let code := Code.ofLengths
        ((List.range 19).map fun s => ((lengthOrder.zip ls).lookup s).getD 0)
      if !code.isComplete then .error .corrupt
      else
        match wordLengths code (literals + distances) [] b2 with
        | .error f => .error f
        | .ok (lengths, b3) =>
          match codesOfLengths literals lengths with
          | .error f => .error f
          | .ok codes => .ok (codes, b3)

theorem size_codeSizes {r : Nat × Nat × Nat} {b b' : Bits} (h : codeSizes b = .ok (r, b')) :
    b'.size ≤ b.size := by
  simp only [codeSizes] at h
  split at h
  · exact absurd h (by simp)
  · rename_i v b1 h1
    split at h
    · exact absurd h (by simp)
    · simp only [Except.ok.injEq, Prod.mk.injEq] at h
      obtain ⟨-, rfl⟩ := h
      have := Bits.size_number h1
      omega

theorem size_ownCodes {codes : Codes} {b b' : Bits} (h : ownCodes b = .ok (codes, b')) :
    b'.size ≤ b.size := by
  simp only [ownCodes] at h
  split at h
  · exact absurd h (by simp)
  · rename_i literals distances described b1 h1
    split at h
    · exact absurd h (by simp)
    · rename_i ls b2 h2
      split at h
      · exact absurd h (by simp)
      · split at h
        · exact absurd h (by simp)
        · rename_i lengths b3 h3
          split at h
          · exact absurd h (by simp)
          · simp only [Except.ok.injEq, Prod.mk.injEq] at h
            obtain ⟨-, rfl⟩ := h
            have := size_codeSizes h1
            have := size_tripleBits h2
            have := size_wordLengths h3
            omega

/-- A number of two bytes, the lower first. -/
def twoBytes (b : Bits) : Except Fault (Nat × Bits) :=
  match b.byte with
  | .error f => .error f
  | .ok (lo, b1) =>
    match b1.byte with
    | .error f => .error f
    | .ok (hi, b2) => .ok (lo.toNat + 256 * hi.toNat, b2)

/-- Reads a block of plain bytes: their number, its complement, the bytes. -/
def plainBlock (out : Array UInt8) (b : Bits) : Except Fault (Array UInt8 × Bits) :=
  match twoBytes b.align with
  | .error f => .error f
  | .ok (n, b1) =>
    match twoBytes b1 with
    | .error f => .error f
    | .ok (m, b2) =>
      if n + m ≠ 65535 then .error .corrupt
      else if b2.bytes.length < n then .error .truncated
      else .ok (out ++ b2.bytes.take n, ⟨[], b2.bytes.drop n⟩)

theorem size_twoBytes {n : Nat} {b b' : Bits} (h : twoBytes b = .ok (n, b')) :
    b'.size ≤ b.size := by
  simp only [twoBytes] at h
  split at h
  · exact absurd h (by simp)
  · rename_i lo b1 h1
    split at h
    · exact absurd h (by simp)
    · rename_i hi b2 h2
      simp only [Except.ok.injEq, Prod.mk.injEq] at h
      obtain ⟨-, rfl⟩ := h
      have := Bits.size_byte h1
      have := Bits.size_byte h2
      omega

theorem size_plainBlock {out out' : Array UInt8} {b b' : Bits}
    (h : plainBlock out b = .ok (out', b')) : b'.size ≤ b.size := by
  simp only [plainBlock] at h
  split at h
  · exact absurd h (by simp)
  · rename_i n b1 h1
    split at h
    · exact absurd h (by simp)
    · rename_i m b2 h2
      split at h
      · exact absurd h (by simp)
      · split at h
        · exact absurd h (by simp)
        · simp only [Except.ok.injEq, Prod.mk.injEq] at h
          obtain ⟨-, rfl⟩ := h
          have := size_twoBytes h1
          have := size_twoBytes h2
          have := Bits.size_align b
          simp only [Bits.size, List.length_nil, List.length_drop] at *
          omega

/-- Reads one block of a given kind. -/
def block (kind : Nat) (out : Array UInt8) (b : Bits) : Except Fault (Array UInt8 × Bits) :=
  if kind = 0 then plainBlock out b
  else if kind = 1 then symbols fixedCodes out b
  else if kind = 2 then
    match ownCodes b with
    | .error f => .error f
    | .ok (codes, b1) => symbols codes out b1
  else .error .corrupt

theorem size_block {kind : Nat} {out out' : Array UInt8} {b b' : Bits}
    (h : block kind out b = .ok (out', b')) : b'.size ≤ b.size := by
  simp only [block] at h
  split at h
  · exact size_plainBlock h
  · split at h
    · exact size_symbols h
    · split at h
      · split at h
        · exact absurd h (by simp)
        · rename_i codes b1 h1
          have := size_ownCodes h1
          have := size_symbols h
          omega
      · exact absurd h (by simp)

/-- Reads blocks up to the one marked as the last. -/
def blocks (out : Array UInt8) (b : Bits) : Except Fault (Array UInt8 × Bits) :=
  match _ : b.number 3 with
  | .error f => .error f
  | .ok (v, b1) =>
    match _ : block (v / 2) out b1 with
    | .error f => .error f
    | .ok (out', b2) => if v % 2 = 1 then .ok (out', b2) else blocks out' b2
termination_by b.size
decreasing_by
  have := Bits.size_number ‹b.number 3 = _›
  have := size_block ‹block _ out b1 = _›
  omega

/-- The bytes a stream holds, and the bytes that follow its last block. -/
def inflateFrom (stream : List UInt8) : Except Fault (List UInt8 × List UInt8) :=
  match blocks #[] (.ofBytes stream) with
  | .error f => .error f
  | .ok (out, b) => .ok (out.toList, b.bytes)

/-- The bytes a stream holds. -/
def inflate (stream : List UInt8) : Except Fault (List UInt8) :=
  (inflateFrom stream).map Prod.fst

/-- The most bytes a plain block holds. -/
def plainLimit : Nat := 65535

/-- A plain block. -/
def plain (last : Bool) (bytes : List UInt8) : List UInt8 :=
  let n := bytes.length
  let m := plainLimit - n
  [if last then 1 else 0, UInt8.ofNat n, UInt8.ofNat (n / 256), UInt8.ofNat m,
    UInt8.ofNat (m / 256)] ++ bytes

/-- A stream that holds the given bytes in plain blocks. -/
def store (bytes : List UInt8) : List UInt8 :=
  if bytes.length ≤ plainLimit then plain true bytes
  else plain false (bytes.take plainLimit) ++ store (bytes.drop plainLimit)
termination_by bytes.length
decreasing_by simp only [List.length_drop, plainLimit] at *; omega

end Deflate

end SamlConformance
