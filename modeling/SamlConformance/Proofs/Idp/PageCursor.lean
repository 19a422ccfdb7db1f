import Mathlib
import SamlConformance.Proofs.Idp.TagCursor
import SamlConformance.Proofs.Idp.WrittenForm

/-!
# Forms by Places

Openings and brackets are searched in a copy of the page in small letters, but the tags are taken
from the page as it is, and the places go from one to the other. This is right only because
each letter of the copy is as wide as the one it stands for. It is so as long as no letters but
those of ASCII are replaced. There are others whose small form is wider or narrower, and with
these the stretches could cut characters in two.

All else is as in a tag. The cursor has a rest, and each turn takes one tag off it. The new
place is at the bracket of the tag, not behind it, but there is an opening in front of the
bracket, so the rest gets shorter all the same.

A turn finds one opening and yields one field or none. So there are no more fields than
openings, also when an opening is inside of another tag and is never found.

## Main definitions

* `tagFrom`, `inputsFrom`, `inputs`: One tag, and the loop.
* `openings`: How often an input tag is opened.

## Theorems

* `size_map_toLower`, `rest_lower`: The places in the copy.
* `tagFrom_none`, `tagFrom_some`: What one turn does.
* `inputsFrom_eq`: What the loop finds.
* `length_inputTags`: There are no more tags than openings.
* `post_total`: No page makes the reader fail.
-/

namespace SamlConformance

namespace Form

open Scan

/-- The inside of the next input tag, and the place of its bracket. -/
def tagFrom (page lower : List Char) (cursor : Nat) : Scan (Option (List Char × Nat)) := do
  let ahead ← slice lower cursor (size lower)
  match find? "<input".toList ahead with
  | none => pure none
  | some offset =>
    let start := cursor + offset + size "<input".toList
    let behind ← slice lower start (size lower)
    let stop := match find? ['>'] behind with
      | some offset => start + offset
      | none => size page
    let tag ← slice page start stop
    pure (some (tag, stop))

/-- The field of an input tag. -/
def fieldOf (tag : List Char) : Scan (Option (String × String)) := do
  match ← attributeFrom tag "name".toList 0 with
  | none => pure none
  | some name =>
    let raw ← attributeFrom tag "value".toList 0
    pure (some (String.ofList name, String.ofList (resolved (raw.getD []))))

/-- The fields from a place on, behind those that were found before. -/
def inputsFrom (page lower : List Char) : Nat × Fields → Scan Fields :=
  loop fun (cursor, found) => do
    match ← tagFrom page lower cursor with
    | none => pure (.done found)
    | some (tag, stop) =>
      let field? ← fieldOf tag
      pure (.next (stop, found ++ field?.toList))

/-- The fields of a page. -/
def inputs (page : List Char) : Scan Fields :=
  inputsFrom page (page.map Char.toLower) (0, [])

/-- How often an input tag is opened, in any letter case. -/
def openings (page : List Char) : Nat :=
  page.tails.countP fun cs => "<input".toList.isPrefixOf (cs.map Char.toLower)

theorem fieldOf_eq (tag : List Char) : fieldOf tag = pure (field? tag) := by
  have hname := attributeFrom_attribute? tag "name" (by decide) (by decide)
  have hvalue := attributeFrom_attribute? tag "value" (by decide) (by decide)
  rw [fieldOf, hname, pure_bind, field?]
  cases attribute? tag "name" with
  | none => rfl
  | some name =>
      dsimp only
      rw [hvalue, pure_bind]
      rfl

/-- Only capital letters of ASCII are replaced, and by letters of ASCII. -/
theorem toLower_cases (c : Char) :
    c.toLower = c ∨ 65 ≤ c.toNat ∧ c.toNat ≤ 90 ∧ c.toLower.toNat = c.toNat + 32 := by
  by_cases hupper : c.isUpper = true
  · have hsmall := Char.toLower_eq_of_isUpper hupper
    simp only [Char.isUpper, decide_eq_true_eq] at hupper
    have hlow : 65 ≤ c.toNat := hupper.1
    have hhigh : c.toNat ≤ 90 := hupper.2
    refine Or.inr ⟨hlow, hhigh, ?_⟩
    rw [hsmall, Char.toNat_ofNat, if_pos (Or.inl (by omega))]
  · exact Or.inl (Char.toLower_eq_of_not_isUpper hupper)

/-- A place in a text is a place in the text in small letters. -/
theorem size_map_toLower (cs : List Char) : size (cs.map Char.toLower) = size cs := by
  induction cs with
  | nil => rfl
  | cons c cs ih =>
      rw [List.map_cons]
      -- Either the character is the same, or it is one byte wide before and after.
      rcases toLower_cases c with heq | ⟨_, hhigh, hsmall⟩
      · rw [heq, size_cons, size_cons, ih]
      · rw [size_cons_ascii _ (by omega), size_cons_ascii c (by omega), ih]

theorem toLower_eq_bracket_iff (c : Char) : c.toLower = '>' ↔ c = '>' := by
  rcases toLower_cases c with heq | ⟨hlow, _, hsmall⟩
  · rw [heq]
  · have hbracket : '>'.toNat = 62 := rfl
    constructor
    · intro h
      rw [h] at hsmall
      omega
    · rintro rfl
      omega

/-- The search for a bracket is the same in both. -/
theorem find?_bracket (cs : List Char) :
    find? ['>'] (cs.map Char.toLower) =
      if '>' ∈ cs then some (size (cs.takeWhile (· ≠ '>'))) else none := by
  have hmem : '>' ∈ cs.map Char.toLower ↔ '>' ∈ cs := by
    simp only [List.mem_map, toLower_eq_bracket_iff, exists_eq_right]
  have htake : (cs.map Char.toLower).takeWhile (· ≠ '>') =
      (cs.takeWhile (· ≠ '>')).map Char.toLower := by
    rw [List.takeWhile_map]
    congr 2
    funext c
    simp only [Function.comp_apply, ne_eq, toLower_eq_bracket_iff]
  rw [find?_singleton, htake, size_map_toLower]
  exact if_congr hmem rfl rfl

theorem isPrefixOf_opening_iff (cs : List Char) :
    "<input".toList.isPrefixOf (cs.map Char.toLower) = true ↔
      (cs.take 6).map Char.toLower = "<input".toList := by
  rw [List.isPrefixOf_iff_prefix, List.prefix_iff_eq_take, ← List.map_take]
  exact eq_comm

theorem find?_opening_none (cs : List Char) (h : afterInput? cs = none) :
    find? "<input".toList (cs.map Char.toLower) = none := by
  induction cs with
  | nil => rfl
  | cons c cs ih =>
      rw [afterInput?] at h
      split at h
      · exact absurd h (Option.some_ne_none _)
      · rename_i hword
        have hnot := mt (isPrefixOf_opening_iff (c :: cs)).mp hword
        rw [List.map_cons] at hnot ⊢
        rw [find?_cons_neg _ _ _ hnot, ih h]
        rfl

/-- The search in small letters finds the place of the first opening. -/
theorem find?_opening_some (cs rest : List Char) (h : afterInput? cs = some rest) :
    ∃ before word, cs = before ++ word ++ rest ∧ word.map Char.toLower = "<input".toList ∧
      find? "<input".toList (cs.map Char.toLower) = some (size before) := by
  induction cs with
  | nil => exact absurd h.symm (Option.some_ne_none _)
  | cons c cs ih =>
      rw [afterInput?] at h
      have hopens := isPrefixOf_opening_iff (c :: cs)
      rw [List.map_cons] at hopens ⊢
      by_cases hword : ((c :: cs).take 6).map Char.toLower = "<input".toList
      · rw [if_pos hword, Option.some.injEq] at h
        refine ⟨[], (c :: cs).take 6, ?_, hword, find?_cons_pos _ _ _ (hopens.mpr hword)⟩
        rw [List.nil_append, ← h, List.take_append_drop]
      · -- It is further on, and its place is moved by the width of the first character.
        rw [if_neg hword] at h
        obtain ⟨before, word, hcs, hopening, hfind⟩ := ih h
        have hsize : size [c.toLower] + size before = size (c :: before) := by
          rw [← List.map_singleton, size_map_toLower, ← size_append, List.singleton_append]
        refine ⟨c :: before, word, by rw [hcs]; rfl, hopening, ?_⟩
        rw [find?_cons_neg _ _ _ (mt hopens.mp hword), hfind, Option.map_some, hsize]

variable {page rest : List Char} {cursor : Nat}

/-- A boundary in the page is one in the copy, with the same rest. -/
theorem rest_lower (h : Rest page cursor rest) :
    Rest (page.map Char.toLower) cursor (rest.map Char.toLower) := by
  obtain ⟨before, rfl, rfl⟩ := h
  exact ⟨before.map Char.toLower, List.map_append, size_map_toLower before⟩

theorem tagFrom_none (h : Rest page cursor rest) (hrest : afterInput? rest = none) :
    tagFrom page (page.map Char.toLower) cursor = pure none := by
  rw [tagFrom, (rest_lower h).slice_end, pure_bind, find?_opening_none rest hrest]

/-- The next tag is taken from the page as it is, between places found in the copy. -/
theorem tagFrom_some (after : List Char) (h : Rest page cursor rest)
    (hrest : afterInput? rest = some after) :
    ∃ stop, tagFrom page (page.map Char.toLower) cursor =
        pure (some (after.takeWhile (· ≠ '>'), stop)) ∧
      Rest page stop (after.dropWhile (· ≠ '>')) := by
  obtain ⟨front, word, rfl, hword, hfind⟩ := find?_opening_some rest after hrest
  have hstart : Rest page (cursor + size front + size "<input".toList) after := by
    rw [List.append_assoc] at h
    rw [← hword, size_map_toLower]
    exact h.move.move
  -- Without a bracket, the end of the page is the place behind all that is passed over.
  have hstop : (match find? ['>'] (after.map Char.toLower) with
      | some offset => cursor + size front + size "<input".toList + offset
      | none => size page) =
        cursor + size front + size "<input".toList + size (after.takeWhile (· ≠ '>')) := by
    rw [find?_bracket]
    by_cases hbracket : '>' ∈ after
    · rw [if_pos hbracket]
    · rw [if_neg hbracket, (Text.span_all '>' after hbracket).1, hstart.add_size]
  refine ⟨_, ?_, hstart.skipped _⟩
  rw [tagFrom, (rest_lower h).slice_end, pure_bind, hfind]
  dsimp only
  rw [(rest_lower hstart).slice_end, pure_bind, hstop, hstart.slice_skipped, pure_bind]

/-- Each turn reads one tag, and the next one goes on from its bracket. -/
theorem inputsFrom_eq (found : Fields) (h : Rest page cursor rest) :
    inputsFrom page (page.map Char.toLower) (cursor, found) =
      pure (found ++ (inputTags rest).filterMap field?) := by
  -- By induction on the length of the rest. The bracket stays, but the opening goes.
  induction hlength : rest.length using Nat.strongRecOn generalizing cursor rest found with
  | ind n ih =>
      cases hrest : afterInput? rest with
      | none =>
          rw [inputTags_of_none rest hrest, List.filterMap_nil, List.append_nil]
          refine loop_done _ (cursor, found) found ?_
          dsimp only
          rw [tagFrom_none h hrest, pure_bind]
      | some after =>
          obtain ⟨stop, htag, hstop⟩ := tagFrom_some after h hrest
          have hshorter := length_afterInput? hrest
          have hsuffix := (List.dropWhile_suffix (l := after) (· ≠ '>')).length_le
          have hnext := ih _ (by omega) (found ++ (field? (after.takeWhile (· ≠ '>'))).toList)
            hstop rfl
          have hfields : (inputTags rest).filterMap field? =
              (field? (after.takeWhile (· ≠ '>'))).toList ++
                (inputTags (after.dropWhile (· ≠ '>'))).filterMap field? := by
            rw [inputTags_of_some rest after hrest]
            cases hfield : field? (after.takeWhile (· ≠ '>')) with
            | none => rw [List.filterMap_cons_none hfield]; rfl
            | some field => rw [List.filterMap_cons_some hfield]; rfl
          rw [hfields, ← List.append_assoc, ← hnext]
          refine loop_next _ (cursor, found) _ ?_
          dsimp only
          rw [htag, pure_bind]
          dsimp only
          rw [fieldOf_eq, pure_bind]

theorem openings_cons (c : Char) (cs : List Char) : openings (c :: cs) =
    openings cs + if "<input".toList.isPrefixOf ((c :: cs).map Char.toLower) then 1 else 0 := by
  rw [openings, List.tails_cons, List.countP_cons]
  rfl

theorem openings_append (front rest : List Char) : openings rest ≤ openings (front ++ rest) := by
  induction front with
  | nil => exact Nat.le_refl _
  | cons c front ih =>
      rw [List.cons_append, openings_cons]
      exact Nat.le_add_right_of_le ih

theorem openings_of_afterInput? (cs rest : List Char) (h : afterInput? cs = some rest) :
    openings rest + 1 ≤ openings cs := by
  obtain ⟨before, word, hcs, hword⟩ := exists_of_afterInput? cs rest h
  cases word with
  | nil => exact absurd hword (by decide)
  | cons c word =>
      -- The opening counts at its angle. What stands around it can only add to the count.
      have hhere : "<input".toList.isPrefixOf ((c :: (word ++ rest)).map Char.toLower) = true := by
        refine List.isPrefixOf_iff_prefix.mpr ⟨rest.map Char.toLower, ?_⟩
        rw [← hword, ← List.map_append, List.cons_append]
      have hopening := openings_cons c (word ++ rest)
      have hinside := openings_append word rest
      have hbefore := openings_append before (c :: (word ++ rest))
      rw [if_pos hhere] at hopening
      rw [hcs, List.append_assoc, List.cons_append]
      omega

/-- Every tag that is read has an opening of its own. -/
theorem length_inputTags (page : List Char) : (inputTags page).length ≤ openings page := by
  cases h : afterInput? page with
  | none =>
      rw [inputTags_of_none page h]
      exact Nat.zero_le _
  | some rest =>
      have hopening := openings_of_afterInput? page rest h
      have hshorter := length_afterInput? h
      have hsuffix := List.dropWhile_suffix (l := rest) (· ≠ '>')
      have hleft := length_inputTags (rest.dropWhile (· ≠ '>'))
      have hrest := openings_append (rest.takeWhile (· ≠ '>')) (rest.dropWhile (· ≠ '>'))
      rw [List.takeWhile_append_dropWhile] at hrest
      rw [inputTags_of_some page rest h, List.length_cons]
      omega
termination_by page.length
decreasing_by
  have := hsuffix.length_le
  omega

/-- Whatever a provider sends as a page, the loops come to an end without a fault, so every
stretch they take is there and cuts no character. What they find are the fields of the page,
which are no more than there are openings of input tags in it. -/
theorem post_total (page : String) :
    inputs page.toList = pure (fields page) ∧
      (∀ (status : Nat) (location : Option String) (given : Bool),
        Responder.generic .post ⟨status, location, some page⟩ given =
          .ok ⟨.post, status, fields page, given⟩) ∧
      (∀ tag name : List Char, ∃ value, attributeFrom tag name 0 = pure value) ∧
      (fields page).length ≤ openings page.toList := by
  refine ⟨?_, fun status location given => generic_post status location page given, ?_, ?_⟩
  · exact inputsFrom_eq [] (Rest.start page.toList)
  · intro tag name
    obtain ⟨trail, -, hread⟩ := attributeFrom_eq name (Rest.start tag)
    exact ⟨_, hread⟩
  · exact (List.length_filterMap_le field? _).trans (length_inputTags page.toList)

end Form

end SamlConformance
