import SamlConformance.Xml.Error

/-!
# Markup

A text is cut into tags, character data and text before any of it is
understood. Comments, processing instructions and document type declarations
are dropped on the way, but they have to be closed.

Markup is found from the left, and a fault ends the sequence: what was found
before it still counts, because a fault found earlier in the tree is the one to
report.

## Main definitions

* `Markup`: The pieces a document is made of.
* `scan`: The pieces of a text, the last of which may be a fault.
-/

namespace SamlConformance

namespace Xml

/-- A piece of a document as it stands in the text. -/
inductive Markup where
  /-- Text with its references. -/
  | text (raw : List Char)
  /-- A section of literal text. -/
  | literal (content : List Char)
  /-- A tag that opens an element. -/
  | opening (inside : List Char)
  /-- A tag that is an element without content. -/
  | single (inside : List Char)
  /-- A tag that closes an element; the inside without its slash. -/
  | closing (inside : List Char)
deriving Repr, DecidableEq

/-- The blanks that separate words inside a tag. -/
def isBlank (c : Char) : Bool :=
  c == ' ' || c == '\t' || c == '\r' || c == '\n'

/-- The inside of a tag and what follows it. Quotes hide closing brackets; the
argument is the quote that is open. -/
def cutTag : Option Char → List Char → Option (List Char × List Char)
  | _, [] => none
  | none, c :: cs =>
    if c = '>' then some ([], cs)
    else
      (cutTag (if c = '"' ∨ c = '\x27' then some c else none) cs).map fun r => (c :: r.1, r.2)
  | some q, c :: cs =>
    (cutTag (if c = q then none else some q) cs).map fun r => (c :: r.1, r.2)

/-- The inside of a declaration and what follows it. Brackets inside nest; the
argument counts those that are open. -/
def cutDeclaration : Nat → List Char → Option (List Char × List Char)
  | _, [] => none
  | depth, c :: cs =>
    if c = '<' then (cutDeclaration (depth + 1) cs).map fun r => (c :: r.1, r.2)
    else if c = '>' then
      match depth with
      | 0 => some ([], cs)
      | d + 1 => (cutDeclaration d cs).map fun r => (c :: r.1, r.2)
    else (cutDeclaration depth cs).map fun r => (c :: r.1, r.2)

/-- A tag by its inside: a slash at the end makes it a whole element. -/
def Markup.ofTag (inside : List Char) : Markup :=
  if inside.getLast? = some '/' then .single inside.dropLast else .opening inside

/-- What follows `<!-`: a comment. One character at least is read before the end
is looked for, which must be the second hyphen. -/
def comment : List Char → Except MarkupFault (List Char)
  | c :: cs =>
    match Text.cutAt "-->".toList cs with
    | some (_, rest) => if c = '-' then .ok rest else .error .openComment
    | none => .error .openComment
  | [] => .error .openComment

/-- What follows `<![`: a section of literal text. -/
def literal (cs : List Char) : Except MarkupFault (List Char × List Char) :=
  if "CDATA[".toList.isPrefixOf cs then
    match Text.cutAt "]]>".toList (cs.drop 6) with
    | some r => .ok r
    | none => .error .openCharacterData
  else .error .openCharacterData

/-- What follows `<!` where a document type is declared. -/
def doctype (cs : List Char) : Except MarkupFault (List Char) :=
  match cutDeclaration 0 cs with
  | none => .error .openDoctype
  | some (inside, rest) =>
    if (inside.take 7).map Char.toUpper = "DOCTYPE".toList then
      if (inside.drop 7).all isBlank then .error .unnamedDoctype else .ok rest
    else .error .openDoctype

/-- What follows `<?`: a processing instruction. -/
def instruction : List Char → Except MarkupFault (List Char)
  | '>' :: _ => .error .openInstruction
  | cs =>
    match Text.cutAt "?>".toList cs with
    | some (_, rest) => .ok rest
    | none => .error .openInstruction

/-- One piece of markup after its opening bracket, if it is one that counts, and
what follows it. -/
def piece : List Char → Except MarkupFault (Option Markup × List Char)
  | '!' :: '[' :: cs => (literal cs).map fun r => (some (.literal r.1), r.2)
  | '!' :: '-' :: cs => (comment cs).map fun rest => (none, rest)
  | '!' :: 'D' :: cs => (doctype ('D' :: cs)).map fun rest => (none, rest)
  | '!' :: 'd' :: cs => (doctype ('d' :: cs)).map fun rest => (none, rest)
  | '!' :: _ => .error .unknownMarkup
  | '?' :: cs => (instruction cs).map fun rest => (none, rest)
  | '/' :: cs =>
    match cutTag none cs with
    | some (inside, rest) => .ok (some (.closing inside), rest)
    | none => .error .openTag
  | cs =>
    match cutTag none cs with
    | some (inside, rest) => .ok (some (.ofTag inside), rest)
    | none => .error .openTag

theorem length_cutTag {q : Option Char} {cs inside rest : List Char}
    (h : cutTag q cs = some (inside, rest)) : rest.length ≤ cs.length := by
  induction cs generalizing q inside with
  | nil => cases q <;> simp [cutTag] at h
  | cons c cs ih =>
    cases q with
    | none =>
      simp only [cutTag] at h
      split at h
      · simp only [Option.some.injEq, Prod.mk.injEq] at h
        rw [← h.2]
        exact Nat.le_succ _
      · obtain ⟨⟨i, r⟩, hr, heq⟩ := Option.map_eq_some_iff.1 h
        simp only [Prod.mk.injEq] at heq
        obtain ⟨-, rfl⟩ := heq
        exact Nat.le_succ_of_le (ih hr)
    | some q =>
      simp only [cutTag] at h
      obtain ⟨⟨i, r⟩, hr, heq⟩ := Option.map_eq_some_iff.1 h
      simp only [Prod.mk.injEq] at heq
      obtain ⟨-, rfl⟩ := heq
      exact Nat.le_succ_of_le (ih hr)

theorem length_cutDeclaration {depth : Nat} {cs inside rest : List Char}
    (h : cutDeclaration depth cs = some (inside, rest)) : rest.length ≤ cs.length := by
  induction cs generalizing depth inside with
  | nil => simp [cutDeclaration] at h
  | cons c cs ih =>
    have step : ∀ {d}, (cutDeclaration d cs).map (fun r => (c :: r.1, r.2)) =
        some (inside, rest) → rest.length ≤ (c :: cs).length := by
      intro d h
      obtain ⟨⟨i, r⟩, hr, heq⟩ := Option.map_eq_some_iff.1 h
      simp only [Prod.mk.injEq] at heq
      obtain ⟨-, rfl⟩ := heq
      exact Nat.le_succ_of_le (ih hr)
    simp only [cutDeclaration] at h
    split at h
    · exact step h
    · split at h
      · split at h
        · simp only [Option.some.injEq, Prod.mk.injEq] at h
          rw [← h.2]
          exact Nat.le_succ _
        · exact step h
      · exact step h

theorem length_cutAt {word cs before rest : List Char}
    (h : Text.cutAt word cs = some (before, rest)) : rest.length ≤ cs.length := by
  induction cs generalizing before with
  | nil =>
    simp only [Text.cutAt] at h
    split at h
    · simp only [Option.some.injEq, Prod.mk.injEq] at h
      exact Nat.le_of_eq (congrArg List.length h.2.symm)
    · exact absurd h (by simp)
  | cons c cs ih =>
    simp only [Text.cutAt] at h
    split at h
    · simp only [Option.some.injEq, Prod.mk.injEq] at h
      rw [← h.2, List.length_drop]
      exact Nat.sub_le _ _
    · obtain ⟨⟨i, r⟩, hr, heq⟩ := Option.map_eq_some_iff.1 h
      simp only [Prod.mk.injEq] at heq
      obtain ⟨-, rfl⟩ := heq
      exact Nat.le_succ_of_le (ih hr)

theorem length_comment {cs rest : List Char} (h : comment cs = .ok rest) :
    rest.length ≤ cs.length := by
  unfold comment at h
  split at h
  · split at h
    · split at h
      · simp only [Except.ok.injEq] at h
        subst h
        exact Nat.le_succ_of_le (length_cutAt ‹_›)
      · exact absurd h (by simp)
    · exact absurd h (by simp)
  · exact absurd h (by simp)

theorem length_literal {cs : List Char} {r : List Char × List Char} (h : literal cs = .ok r) :
    r.2.length ≤ cs.length := by
  unfold literal at h
  split at h
  · split at h
    · rename_i r' hr
      simp only [Except.ok.injEq] at h
      subst h
      have hr : Text.cutAt _ _ = some (r'.1, r'.2) := hr
      have := length_cutAt hr
      rw [List.length_drop] at this
      omega
    · exact absurd h (by simp)
  · exact absurd h (by simp)

theorem length_doctype {cs rest : List Char} (h : doctype cs = .ok rest) :
    rest.length ≤ cs.length := by
  unfold doctype at h
  split at h
  · exact absurd h (by simp)
  · split at h
    · split at h
      · exact absurd h (by simp)
      · simp only [Except.ok.injEq] at h
        subst h
        exact length_cutDeclaration ‹_›
    · exact absurd h (by simp)

theorem length_instruction {cs rest : List Char} (h : instruction cs = .ok rest) :
    rest.length ≤ cs.length := by
  unfold instruction at h
  split at h
  · exact absurd h (by simp)
  · split at h
    · simp only [Except.ok.injEq] at h
      subst h
      exact length_cutAt ‹_›
    · exact absurd h (by simp)

/-- Reading a piece of markup leaves no more than there was. -/
theorem length_piece {cs rest : List Char} {m : Option Markup} (h : piece cs = .ok (m, rest)) :
    rest.length ≤ cs.length := by
  have mapped : ∀ {α : Type} {x : Except MarkupFault α} {f : α → Option Markup × List Char},
      x.map f = .ok (m, rest) → ∃ a, x = .ok a ∧ f a = (m, rest) := by
    intro α x f hx
    cases x with
    | error e => exact absurd hx (by simp [Except.map])
    | ok a => exact ⟨a, rfl, by simpa [Except.map] using hx⟩
  unfold piece at h
  split at h
  · obtain ⟨r, hr, heq⟩ := mapped h
    simp only [Prod.mk.injEq] at heq
    have := length_literal hr
    rw [← heq.2, List.length_cons, List.length_cons]
    omega
  · obtain ⟨r, hr, heq⟩ := mapped h
    simp only [Prod.mk.injEq] at heq
    have := length_comment hr
    rw [← heq.2, List.length_cons, List.length_cons]
    omega
  · obtain ⟨r, hr, heq⟩ := mapped h
    simp only [Prod.mk.injEq] at heq
    have := length_doctype hr
    rw [← heq.2, List.length_cons]
    omega
  · obtain ⟨r, hr, heq⟩ := mapped h
    simp only [Prod.mk.injEq] at heq
    have := length_doctype hr
    rw [← heq.2, List.length_cons]
    omega
  · exact absurd h (by simp)
  · obtain ⟨r, hr, heq⟩ := mapped h
    simp only [Prod.mk.injEq] at heq
    have := length_instruction hr
    rw [← heq.2, List.length_cons]
    omega
  · split at h
    · rename_i hr
      simp only [Except.ok.injEq, Prod.mk.injEq] at h
      have := length_cutTag hr
      rw [← h.2, List.length_cons]
      omega
    · exact absurd h (by simp)
  · split at h
    · rename_i hr
      simp only [Except.ok.injEq, Prod.mk.injEq] at h
      rw [← h.2]
      exact length_cutTag hr
    · exact absurd h (by simp)

/-- The pieces of a text in order. A fault stands last. -/
def scan (cs : List Char) : List (Except MarkupFault Markup) :=
  match cs with
  | [] => []
  | c :: cs =>
    if c = '<' then
      match _ : piece cs with
      | .error f => [.error f]
      | .ok (m, rest) => (m.map .ok).toList ++ scan rest
    else
      .ok (.text (c :: cs.takeWhile (· ≠ '<'))) :: scan (cs.dropWhile (· ≠ '<'))
termination_by cs.length
decreasing_by
  · have := length_piece ‹piece cs = _›
    simp only [List.length_cons]
    omega
  · have := (List.dropWhile_suffix (l := cs) (· ≠ '<')).length_le
    simp only [List.length_cons]
    omega

end Xml

end SamlConformance
