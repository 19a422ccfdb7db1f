import SamlConformance.Message.Fields
import SamlConformance.Text.Blank
import SamlConformance.Xml.Reference

/-!
# Forms

A provider that answers by form renders a page whose controls carry the fields.
The page is not read as a document: input tags are found wherever they stand, in
any letter case, and each ends at the next closing bracket.

## Main definitions

* `Form.inputTags`: The insides of the input tags of a page.
* `Form.attributes`: The attributes in the inside of a tag.
* `Form.fields`: The fields of a page.
-/

namespace SamlConformance

namespace Form

/-- The text after the first opening of an input tag. -/
def afterInput? : List Char → Option (List Char)
  | [] => none
  | c :: cs =>
    if ((c :: cs).take 6).map Char.toLower = "<input".toList then some ((c :: cs).drop 6)
    else afterInput? cs

theorem length_afterInput? {cs rest : List Char} (h : afterInput? cs = some rest) :
    rest.length < cs.length := by
  induction cs with
  | nil => simp [afterInput?] at h
  | cons c cs ih =>
    simp only [afterInput?] at h
    split at h
    · simp only [Option.some.injEq] at h
      rw [← h, List.length_drop, List.length_cons]
      omega
    · have := ih h
      rw [List.length_cons]
      omega

/-- The insides of the input tags of a page, up to their closing brackets. -/
def inputTags (page : List Char) : List (List Char) :=
  match _ : afterInput? page with
  | none => []
  | some rest => rest.takeWhile (· ≠ '>') :: inputTags (rest.dropWhile (· ≠ '>'))
termination_by page.length
decreasing_by
  have h1 := length_afterInput? ‹afterInput? page = some rest›
  have h2 := (List.dropWhile_suffix (l := rest) (· ≠ '>')).length_le
  omega

/-- What may stand before the name of an attribute. -/
def isFiller (c : Char) : Bool :=
  Text.isAsciiBlank c || c == '/'

/-- A character inside the name of an attribute. -/
def isNameChar (c : Char) : Bool :=
  !Text.isAsciiBlank c && c != '='

/-- The value after an equals sign, and what follows it. A value in quotes goes
up to the next quote of its kind, any other one up to a blank. -/
def value : List Char → List Char × List Char
  | [] => ([], [])
  | c :: cs =>
    if c = '"' ∨ c = '\x27' then (cs.takeWhile (· ≠ c), (cs.dropWhile (· ≠ c)).drop 1)
    else
      ((c :: cs).takeWhile fun d => !Text.isAsciiBlank d,
        (c :: cs).dropWhile fun d => !Text.isAsciiBlank d)

theorem length_value (cs : List Char) : (value cs).2.length ≤ cs.length := by
  unfold value
  split
  · exact Nat.le_refl _
  · rename_i c cs
    split
    · have := (List.dropWhile_suffix (l := cs) (· ≠ c)).length_le
      simp only [List.length_drop, List.length_cons]
      omega
    · exact (List.dropWhile_suffix _).length_le

/-- The attributes in the inside of a tag. One without an equals sign has an
empty value. -/
def attributes (cs : List Char) : List (List Char × List Char) :=
  match _ : cs.dropWhile isFiller with
  | [] => []
  | c :: rest =>
    let name := (c :: rest).takeWhile isNameChar
    match _ : ((c :: rest).dropWhile isNameChar).dropWhile Text.isAsciiBlank with
    | [] => [(name, [])]
    | d :: after =>
      if d = '=' then
        let r := value (after.dropWhile Text.isAsciiBlank)
        (name, r.1) :: attributes r.2
      else (name, []) :: attributes (d :: after)
termination_by cs.length
decreasing_by
  · have h1 := (List.dropWhile_suffix (l := cs) isFiller).length_le
    have h2 := (List.dropWhile_suffix (l := c :: rest) isNameChar).length_le
    have h3 := (List.dropWhile_suffix (l := (c :: rest).dropWhile isNameChar)
      Text.isAsciiBlank).length_le
    have h4 := (List.dropWhile_suffix (l := after) Text.isAsciiBlank).length_le
    have h5 := length_value (after.dropWhile Text.isAsciiBlank)
    rw [‹cs.dropWhile isFiller = _›] at h1
    rw [‹((c :: rest).dropWhile isNameChar).dropWhile Text.isAsciiBlank = _›,
      List.length_cons] at h3
    omega
  · rename_i hcs hname hd
    have h1 := (List.dropWhile_suffix (l := cs) isFiller).length_le
    have h3 := (List.dropWhile_suffix (l := (c :: rest).dropWhile isNameChar)
      Text.isAsciiBlank).length_le
    rw [hcs] at h1
    rw [hname] at h3
    have hc : isFiller c = false := by
      have := List.head?_dropWhile_not isFiller cs
      rw [hcs] at this
      simpa using this
    by_cases hk : isNameChar c = true
    · have h2 := (List.dropWhile_suffix (l := rest) isNameChar).length_le
      rw [List.dropWhile_cons_of_pos hk] at h3
      simp only [List.length_cons] at h1 h3 ⊢
      omega
    · exfalso
      have hb : Text.isAsciiBlank c = false := by
        simp only [isFiller, Bool.or_eq_false_iff] at hc
        exact hc.1
      rw [List.dropWhile_cons_of_neg hk, List.dropWhile_cons_of_neg (by simp [hb])] at hname
      have heq : c = '=' := by simpa [isNameChar, hb] using hk
      simp only [List.cons.injEq] at hname
      exact hd (hname.1 ▸ heq)

/-- The value of the first attribute of that name, in any letter case. -/
def attribute? (tag : List Char) (name : String) : Option (List Char) :=
  ((attributes tag).find? fun a => a.1.map Char.toLower == name.toList).map Prod.snd

/-- A value with its references resolved; one that is faulty stays as it is. -/
def resolved (raw : List Char) : List Char :=
  match Xml.unescape raw with
  | .ok cs => cs
  | .error _ => raw

/-- The field an input tag carries; none without a name. -/
def field? (tag : List Char) : Option (String × String) :=
  (attribute? tag "name").map fun name =>
    (String.ofList name, String.ofList (resolved ((attribute? tag "value").getD [])))

/-- The fields of a page, in order. -/
def fields (page : String) : Fields :=
  (inputTags page.toList).filterMap field?

end Form

end SamlConformance
