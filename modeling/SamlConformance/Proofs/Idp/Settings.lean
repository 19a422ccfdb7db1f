import SamlConformance.Idp.Form
import SamlConformance.Proofs.Xml.Scanning
import SamlConformance.Proofs.Xml.WrittenTag

/-!
# Reading a Written Attribute

The inside of a tag is read from left to right, and the only thing that is carried on is the
place. An attribute leaves the reader behind its second quote, where the next one may begin
without a blank between them. So one step of the reader does not depend on what follows the
attribute, whatever is in its value: blanks, equals signs, and other attributes that are
quoted in it.

If the second quote is missing, the value takes the rest of the tag. This is what becomes of a
tag that is cut in a value, and the reason why nothing of the value before the cut is lost.

## Main definitions

* `isName`: A word that can be a name.
* `Setting`: An attribute in writing.

## Theorems

* `attributes_start`: What is read once the quotes are open.
* `attributes_written`, `attributes_unclosed`: The quotes are closed, and they are not.
-/

namespace SamlConformance

namespace Form

/-- A word that can stand for the name of an attribute. -/
def isName (cs : List Char) : Bool :=
  cs.head?.any (· != '/') && cs.all fun c => isNameChar c && c != '>'

/-- An attribute in writing: what stands before its name, the name, the blanks around the
equals sign, and a raw value between quotes of either kind. Blanks and slashes may stand
before the name, or nothing at all. -/
structure Setting where
  gap : List Char
  name : List Char
  before : List Char
  after : List Char
  quote : Char
  raw : List Char
  gap_filler : ∀ c ∈ gap, isFiller c = true
  isName_name : isName name = true
  before_blank : ∀ c ∈ before, Text.isAsciiBlank c = true
  after_blank : ∀ c ∈ after, Text.isAsciiBlank c = true
  quote_mem : quote ∈ ['"', '\x27']
  quote_not_mem : quote ∉ raw

namespace Setting

/-- Everything up to the value. -/
def start (s : Setting) : List Char :=
  s.gap ++ (s.name ++ (s.before ++ '=' :: (s.after ++ [s.quote])))

/-- The attribute in writing. -/
def written (s : Setting) : List Char :=
  s.start ++ (s.raw ++ [s.quote])

/-- The attribute has this name, in any letter case. -/
def isNamed (s : Setting) (key : String) : Bool :=
  s.name.map Char.toLower == key.toList

theorem quote_cases (s : Setting) : s.quote = '"' ∨ s.quote = '\x27' := by
  simpa only [List.mem_cons, List.not_mem_nil, or_false] using s.quote_mem

theorem name_chars (s : Setting) : ∀ c ∈ s.name, isNameChar c = true ∧ c ≠ '>' := by
  have hname := s.isName_name
  simp only [isName, Bool.and_eq_true, List.all_eq_true, bne_iff_ne] at hname
  exact hname.2

theorem exists_name (s : Setting) : ∃ c cs, s.name = c :: cs ∧ isFiller c = false := by
  have hhead := s.isName_name
  cases hname : s.name with
  | nil =>
      rw [hname] at hhead
      exact absurd hhead (by decide)
  | cons c cs =>
      have hchar := (s.name_chars c (hname ▸ List.mem_cons_self)).1
      simp only [hname, isName, List.head?_cons, Option.any_some, Bool.and_eq_true,
        bne_iff_ne] at hhead
      simp only [isNameChar, Bool.and_eq_true, Bool.not_eq_true'] at hchar
      refine ⟨c, cs, rfl, ?_⟩
      rw [isFiller, hchar.1, Bool.false_or]
      exact beq_eq_false_iff_ne.mpr hhead.1

end Setting

theorem attributes_nil : attributes [] = [] := by
  rw [attributes]
  rfl

theorem attributes_filler (cs : List Char) (h : ∀ c ∈ cs, isFiller c = true) :
    attributes cs = [] := by
  rw [attributes]
  split
  · rfl
  · rename_i c rest hfront
    have hnil := List.dropWhile_eq_nil_iff.mpr h
    exact absurd (hnil.symm.trans hfront) (List.cons_ne_nil c rest).symm

/-- An attribute with an equals sign, and those behind its value. -/
theorem attributes_equals (cs name after : List Char) (hname : name ≠ [])
    (hread : cs.dropWhile isFiller = name ++ after)
    (htake : (name ++ after).takeWhile isNameChar = name) (rest : List Char)
    (hrest : ((name ++ after).dropWhile isNameChar).dropWhile Text.isAsciiBlank = '=' :: rest) :
    attributes cs = (name, (value (rest.dropWhile Text.isAsciiBlank)).1) ::
      attributes (value (rest.dropWhile Text.isAsciiBlank)).2 := by
  rw [attributes]
  split
  · rename_i hnil
    rw [hread] at hnil
    exact absurd (List.append_eq_nil_iff.mp hnil).1 hname
  · rename_i c front hfront
    rw [hread] at hfront
    split
    · rename_i hnil
      rw [← hfront, hrest] at hnil
      exact absurd hnil (List.cons_ne_nil _ _)
    · rename_i d tail htail
      rw [← hfront, hrest] at htail
      obtain ⟨rfl, rfl⟩ := List.cons.inj htail
      rw [if_pos rfl, ← hfront, htake]

/-- Up to the value, an attribute is read as it is written. The value goes up to the next
quote of its kind, or as far as the tag. -/
theorem attributes_start (s : Setting) (cs : List Char) :
    attributes (s.start ++ cs) = (s.name, cs.takeWhile (· ≠ s.quote)) ::
      attributes ((cs.dropWhile (· ≠ s.quote)).drop 1) := by
  have hquote : Text.isAsciiBlank s.quote = false := by
    rcases s.quote_cases with h | h
    · rw [h]; decide
    · rw [h]; decide
  -- What comes behind the name is a blank or the equals sign.
  obtain ⟨d, ds, hbehind, hd⟩ : ∃ d ds,
      s.before ++ '=' :: (s.after ++ s.quote :: cs) = d :: ds ∧ isNameChar d = false := by
    cases hbefore : s.before with
    | nil => exact ⟨_, _, rfl, by decide⟩
    | cons b bs =>
        have hblank := s.before_blank b (hbefore ▸ List.mem_cons_self)
        exact ⟨b, _, rfl, by rw [isNameChar, hblank]; rfl⟩
  have hstart : s.start ++ cs = s.gap ++ (s.name ++ d :: ds) := by
    rw [← hbehind, Setting.start]
    simp only [List.append_assoc, List.cons_append, List.nil_append]
  obtain ⟨c, name, hname, hc⟩ := s.exists_name
  have hread : (s.start ++ cs).dropWhile isFiller = s.name ++ d :: ds := by
    rw [hstart, hname]
    exact (Xml.takeWhile_word isFiller s.gap (name ++ d :: ds) c s.gap_filler hc).2
  obtain ⟨htake, hdrop⟩ := Xml.takeWhile_word isNameChar s.name ds d
    (fun c hc => (s.name_chars c hc).1) hd
  have hrest : ((s.name ++ d :: ds).dropWhile isNameChar).dropWhile Text.isAsciiBlank =
      '=' :: (s.after ++ s.quote :: cs) := by
    rw [hdrop, ← hbehind]
    exact (Xml.takeWhile_word Text.isAsciiBlank s.before _ '=' s.before_blank (by decide)).2
  have hvalue : (s.after ++ s.quote :: cs).dropWhile Text.isAsciiBlank = s.quote :: cs :=
    (Xml.takeWhile_word Text.isAsciiBlank s.after cs s.quote s.after_blank hquote).2
  have hne : s.name ≠ [] := hname ▸ List.cons_ne_nil c name
  rw [attributes_equals _ s.name (d :: ds) hne hread htake _ hrest, hvalue, value,
    if_pos s.quote_cases]

/-- An attribute is read as it is written, whatever follows it. -/
theorem attributes_written (s : Setting) (rest : List Char) :
    attributes (s.written ++ rest) = (s.name, s.raw) :: attributes rest := by
  have hwritten : s.written ++ rest = s.start ++ (s.raw ++ s.quote :: rest) := by
    simp only [Setting.written, List.append_assoc, List.cons_append, List.nil_append]
  obtain ⟨htake, hdrop⟩ := Text.span_at s.quote s.raw rest s.quote_not_mem
  rw [hwritten, attributes_start, htake, hdrop, List.drop_one, List.tail_cons]

/-- A value whose quotes are not closed goes as far as the tag. -/
theorem attributes_unclosed (s : Setting) (cut : List Char) (h : s.quote ∉ cut) :
    attributes (s.start ++ cut) = [(s.name, cut)] := by
  obtain ⟨htake, hdrop⟩ := Text.span_all s.quote cut h
  rw [attributes_start, htake, hdrop, List.drop_nil, attributes_nil]

namespace Setting

theorem quote_ne_bracket (s : Setting) : s.quote ≠ '>' := by
  intro heq
  have hmark := s.quote_mem
  rw [heq] at hmark
  exact absurd hmark (by decide)

/-- Up to the value there is no bracket. -/
theorem not_mem_start (s : Setting) : '>' ∉ s.start := by
  have hblank : ∀ cs : List Char, (∀ c ∈ cs, Text.isAsciiBlank c = true) → '>' ∉ cs :=
    fun cs hcs hmem => absurd (hcs '>' hmem) (by decide)
  intro hmem
  simp only [start, List.mem_append, List.mem_cons, List.not_mem_nil, or_false] at hmem
  rcases hmem with hgap | hname | hbefore | hequals | hafter | hquote
  · exact absurd (s.gap_filler '>' hgap) (by decide)
  · exact (s.name_chars '>' hname).2 rfl
  · exact hblank s.before s.before_blank hbefore
  · exact absurd hequals (by decide)
  · exact hblank s.after s.after_blank hafter
  · exact s.quote_ne_bracket hquote.symm

end Setting

end Form

end SamlConformance
