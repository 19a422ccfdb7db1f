import SamlConformance.Proofs.Report.Printing

/-!
# Dotted Names

A section is written as its document and its numbers with dots between them, and a clause is
written as the section it stands in with letters behind an underscore. Both ways of reading such
a name cut it at the dots again, but they do so differently. The name of a section is cut as a
whole. The identifier of a clause loses its letters from the right, then its document from the
left, and of what is left only the first numbers are looked at.

Nothing gets mixed up because no piece holds a separator: neither a document nor a number has a
dot or an underscore in it, and letters have no underscore. So all cuts are where they were
joined, and one description of the written name (`toList_name`) serves both readers. Without it
the identifier would not be safe to read from the right, since any underscore further left would
take a part of the section with it.

## Theorems

* `Text.decimal?_toDigits`: Decimal digits are read back.
* `Section.number?_digits`: So is a number of a path, the greatest one included.
* `Section.toList_name`: The pieces of a dotted name.
* `Section.ofName?_name`: A dotted name is read back.
* `Section.withoutLetter_letters`, `Section.withoutLetter_name`: What letters leave behind.
* `Section.ofClauseId?_of_name`: What an identifier is counted against.
* `Section.names_converted`: The two readers together.
-/

namespace SamlConformance

namespace Text

theorem isDigit_of_mem_toDigits (n : Nat) (c : Char) (h : c ∈ Nat.toDigits 10 n) :
    isDigit c = true := by
  have hdigit : c.isDigit = true := Nat.isDigit_of_mem_toDigits (by decide) (by decide) h
  rwa [Char.isDigit] at hdigit

/-- A number in decimal digits is read back. -/
theorem decimal?_toDigits (n : Nat) : decimal? (Nat.toDigits 10 n) = some n := by
  have hall : (Nat.toDigits 10 n).all isDigit = true :=
    List.all_eq_true.mpr (isDigit_of_mem_toDigits n)
  have hvalue : decimalOnto 0 (Nat.toDigits 10 n) = Nat.ofDigitChars 10 (Nat.toDigits 10 n) 0 := by
    simp only [decimalOnto, Nat.ofDigitChars, digitValue, Nat.mul_comm]
  rw [decimal?, List.isEmpty_eq_false_iff.mpr Nat.toDigits_ne_nil, hall, hvalue,
    Nat.ofDigitChars_toDigits (by decide) (by decide)]
  rfl

/-- No sign is needed to do so. -/
theorem signedDecimal?_toDigits (n : Nat) : signedDecimal? (Nat.toDigits 10 n) = some n := by
  unfold signedDecimal?
  split
  · rename_i ds hds
    have hsign := isDigit_of_mem_toDigits n '+' (hds ▸ List.mem_cons_self)
    exact absurd hsign (by decide)
  · exact decimal?_toDigits n

theorem cutLast_append (sep : Char) (before after : List Char) (h : sep ∉ after) :
    cutLast sep (before ++ sep :: after) = some (before, after) := by
  have hreverse : (before ++ sep :: after).reverse = after.reverse ++ sep :: before.reverse := by
    simp only [List.reverse_append, List.reverse_cons, List.append_assoc, List.singleton_append]
  have hcut := cutFirst_append before.reverse (fun hmem => h (List.mem_reverse.mp hmem))
  simp only [cutLast, hreverse, hcut, List.reverse_reverse]

theorem cutLast_of_not_mem (sep : Char) (cs : List Char) (h : sep ∉ cs) :
    cutLast sep cs = none := by
  simp only [cutLast, cutFirst_of_not_mem fun hmem => h (List.mem_reverse.mp hmem)]

end Text

namespace Section

/-- A number of a path as it is written. -/
def digits (n : UInt16) : List Char :=
  Nat.toDigits 10 n.toNat

theorem number?_digits (n : UInt16) : number? (digits n) = some n := by
  have hlt : n.toNat < 65536 := n.toNat_lt
  simp only [number?, digits, Text.signedDecimal?_toDigits, if_pos hlt, UInt16.ofNat_toNat]

theorem mapM_number?_digits (path : List UInt16) :
    (path.map digits).mapM number? = some path := by
  have hread : number? ∘ digits = fun n => pure n := funext number?_digits
  rw [List.mapM_map, hread, List.mapM_pure, List.map_id_fun']
  rfl

theorem not_mem_digits (c : Char) (hc : Text.isDigit c = false) (n : UInt16) : c ∉ digits n := by
  intro hmem
  rw [Text.isDigit_of_mem_toDigits n.toNat c hmem] at hc
  exact Bool.false_ne_true hc.symm

/-- The pieces of a dotted name are the document and the numbers. -/
theorem toList_name (s : Section) :
    s.name.toList = ['.'].intercalate (s.document.name.toList :: s.path.map digits) := by
  have hpath : ∀ (path : List UInt16) (front : String),
      (path.foldl (fun acc n => acc ++ "." ++ toString n.toNat) front).toList =
        ['.'].intercalate (front.toList :: path.map digits) := by
    intro path
    induction path with
    | nil => exact fun front => List.intercalate_singleton.symm
    | cons n path ih =>
        intro front
        have hnumber : (toString n.toNat).toList = digits n := by
          rw [Nat.toString_eq_ofList_toDigits, String.toList_ofList, digits]
        rw [List.foldl_cons, ih, List.map_cons, List.intercalate_cons_cons, String.toList_append,
          String.toList_append, hnumber]
        -- What is written so far counts as the first piece, whichever dots are in it.
        cases path with
        | nil => rw [List.map_nil, List.intercalate_singleton, List.intercalate_singleton]; rfl
        | cons m path =>
            rw [List.map_cons, List.intercalate_cons_cons, List.intercalate_cons_cons]
            simp only [List.append_assoc]
            rfl
  exact hpath s.path s.document.name

/-- Cutting a dotted name at its dots gives these pieces. -/
theorem splitOn_intercalate_digits (piece : List Char) (path : List UInt16) (h : '.' ∉ piece) :
    (['.'].intercalate (piece :: path.map digits)).splitOn '.' = piece :: path.map digits := by
  refine List.splitOn_intercalate '.' ?_ (List.cons_ne_nil _ _)
  rw [List.forall_mem_cons, List.forall_mem_map]
  exact ⟨h, fun n _ => not_mem_digits '.' (by decide) n⟩

theorem dot_not_mem_name (d : Document) : '.' ∉ d.name.toList := by
  cases d <;> decide

/-- A dotted name is read as the section it was written for. -/
theorem ofName?_name (s : Section) : ofName? s.name = some s := by
  rw [ofName?, toList_name, splitOn_intercalate_digits _ _ (dot_not_mem_name s.document)]
  simp only [String.ofList_toList, Document.ofName?_name, mapM_number?_digits]
  rfl

theorem underscore_not_mem_name (s : Section) : '_' ∉ s.name.toList := by
  refine not_mem_name '_' (by decide) (by decide) s ?_
  cases s.document <;> decide

/-- A name without letters is left as it is. -/
theorem withoutLetter_name (s : Section) : withoutLetter s.name.toList = s.name.toList := by
  rw [withoutLetter, Text.cutLast_of_not_mem '_' _ (underscore_not_mem_name s)]

/-- Letters behind an underscore are taken off, and the underscore with them. -/
theorem withoutLetter_letters (before letters : List Char) (hne : letters ≠ [])
    (hlower : ∀ c ∈ letters, c.isLower = true) :
    withoutLetter (before ++ '_' :: letters) = before := by
  -- The last underscore is the one in front of the letters.
  have hno : '_' ∉ letters := fun hmem => absurd (hlower '_' hmem) (by decide)
  have hall : (!letters.isEmpty && letters.all Char.isLower) = true := by
    rw [List.isEmpty_eq_false_iff.mpr hne, List.all_eq_true.mpr hlower]
    rfl
  simp only [withoutLetter, Text.cutLast_append '_' before letters hno, if_pos hall]

/-- Of a dotted name with its letters taken off, the document counts and two numbers at most. -/
theorem ofClauseId?_of_name (id : String) (s : Section)
    (h : withoutLetter id.toList = s.name.toList) :
    ofClauseId? id = some ⟨s.document, s.path.take 2⟩ := by
  have hdot := dot_not_mem_name s.document
  rw [ofClauseId?, h, toList_name]
  cases hpath : s.path with
  | nil =>
      -- Without numbers there is no dot, and the name is the document.
      rw [List.map_nil, List.intercalate_singleton, Text.cutFirst_of_not_mem hdot]
      simp only [String.ofList_toList, Document.ofName?_name, List.take_nil]
      rfl
  | cons n path =>
      -- The first dot ends the document, and what is behind it is cut into all the numbers.
      rw [List.map_cons, List.intercalate_cons_cons, List.append_assoc, List.singleton_append,
        Text.cutFirst_append _ hdot]
      have hsplit := splitOn_intercalate_digits (digits n) path (not_mem_digits '.' (by decide) n)
      have hread : (((digits n :: path.map digits)).take depth).mapM number? =
          some ((n :: path).take 2) := by
        rw [← List.map_cons, ← List.map_take, mapM_number?_digits, depth]
      simp only [hsplit, hread, String.ofList_toList, Document.ofName?_name]
      rfl

/-- A section is read back from its dotted name, so that no two sections share a name. As the
identifier of a clause, with letters behind an underscore or without, the name counts against
the section with the first two numbers of its path, and the section is within that one. -/
theorem names_converted (s : Section) :
    ofName? s.name = some s ∧ (∀ t : Section, t.name = s.name → t = s) ∧
    ofClauseId? s.name = some ⟨s.document, s.path.take 2⟩ ∧
    (∀ letters : String, letters ≠ "" → (∀ c ∈ letters.toList, c.isLower = true) →
      ofClauseId? (s.name ++ "_" ++ letters) = some ⟨s.document, s.path.take 2⟩) ∧
    s.isWithin ⟨s.document, s.path.take 2⟩ = true := by
  refine ⟨ofName?_name s, ?_, ofClauseId?_of_name _ s (withoutLetter_name s), ?_, ?_⟩
  · intro t ht
    -- Both are what is read from the one name.
    have hread := ofName?_name t
    rw [ht, ofName?_name s] at hread
    exact (Option.some.inj hread).symm
  · intro letters hne hlower
    have hletters : letters.toList ≠ [] := fun hnil => hne (String.toList_eq_nil_iff.mp hnil)
    refine ofClauseId?_of_name _ s ?_
    rw [String.toList_append, String.toList_append, List.append_assoc]
    exact withoutLetter_letters s.name.toList letters.toList hletters hlower
  · exact (isWithin_iff _ _).mpr ⟨rfl, List.take_prefix 2 s.path⟩

/-- A path with the least and the greatest number, and more of them than count. -/
theorem names_converted_boundaries :
    "ab" ≠ "" ∧ (∀ c ∈ "ab".toList, c.isLower = true) ∧
    (Section.mk .core [0, 65535, 10]).name = "Core.0.65535.10" ∧
    ofClauseId? ("Core.0.65535.10" ++ "_" ++ "ab") = some ⟨.core, [0, 65535]⟩ := by
  have hletters : ∀ c ∈ "ab".toList, c.isLower = true := List.all_eq_true.mp (by decide)
  have hname : (Section.mk .core [0, 65535, 10]).name = "Core.0.65535.10" := by decide
  have hread := (names_converted ⟨.core, [0, 65535, 10]⟩).2.2.2.1 "ab" (by decide) hletters
  rw [hname] at hread
  exact ⟨by decide, hletters, hname, hread⟩

end Section

end SamlConformance
