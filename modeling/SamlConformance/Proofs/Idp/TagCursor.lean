import SamlConformance.Proofs.Idp.Settings
import SamlConformance.Proofs.Text.Offsets

/-!
# Attributes by Places

The attributes of a tag are found by a loop inside of which there are five more. A place is
carried through all of them, and stretches of the tag are taken from one place to another. The
places count bytes, and the loops look at bytes, so a name or a value could be cut in the middle
of a character, and a place could be behind the end.

None of this happens. The invariant is that the place has a rest. A turn of the loop takes one
attribute off the rest, as a reader of characters would, and the new place has what is left. A
turn takes at least one character, so the loop comes to an end: a name may be empty only in
front of an equals sign, or where just blanks and slashes are left. The last of these turns is
the only one that a reader of characters does not have.

## Main definitions

* `settingAt`, `attributeFrom`: One turn of the loop, and the loop.
* `setting`: One attribute, and the characters behind it.

## Theorems

* `settingAt_eq`: What one turn does.
* `length_setting`: It makes the rest shorter.
* `attributeFrom_eq`: What the loop finds, for any name.
* `attributeFrom_attribute?`: It is the value of the attribute, if names are not empty.
-/

namespace SamlConformance

namespace Form

open Scan

/-- The name of an attribute, and the place behind the blanks that follow it. -/
def keyAt (tag : List Char) (place : Nat) : Scan (List Char × Nat) := do
  let start ← skip isFiller tag place
  let stop ← skip isNameChar tag start
  let key ← slice tag start stop
  let sign ← skip Text.isAsciiBlank tag stop
  pure (key, sign)

/-- There is an equals sign at the place. -/
def signAt (tag : List Char) (place : Nat) : Scan Bool := do
  if place < size tag then
    let b ← byteAt tag place
    pure (asChar b == '=')
  else pure false

/-- The value that begins at a place, and the place behind it. -/
def valueAt (tag : List Char) (place : Nat) : Scan (List Char × Nat) := do
  match (bytes tag)[place]?.map asChar with
  | some '"' => quotedAt '"'
  | some '\x27' => quotedAt '\x27'
  | _ =>
    let stop ← skip (fun c => !Text.isAsciiBlank c) tag place
    let value ← slice tag place stop
    pure (value, stop)
where
  /-- The value behind a quote. If it is not closed, it goes to the end. -/
  quotedAt (quote : Char) : Scan (List Char × Nat) := do
    let start := place + 1
    let behind ← slice tag start (size tag)
    let stop := match find? [quote] behind with
      | some offset => start + offset
      | none => size tag
    let value ← slice tag start stop
    pure (value, min (stop + 1) (size tag))

/-- One turn of the loop: the name and the value of an attribute, and the place behind it. -/
def settingAt (tag : List Char) (place : Nat) : Scan (List Char × List Char × Nat) := do
  let (key, sign) ← keyAt tag place
  if ← signAt tag sign then
    let start ← skip Text.isAsciiBlank tag (sign + 1)
    let (value, next) ← valueAt tag start
    pure (key, value, next)
  else pure (key, [], sign)

/-- The value of the first attribute of a name, in any letter case, from a place on. -/
def attributeFrom (tag name : List Char) : Nat → Scan (Option (List Char)) :=
  loop fun place => do
    if place < size tag then
      let (key, value, next) ← settingAt tag place
      if key.map Char.toLower == name.map Char.toLower then pure (.done (some value))
      else pure (.next next)
    else pure (.done none)

/-- One attribute, and what is left behind it. -/
def setting (cs : List Char) : (List Char × List Char) × List Char :=
  let key := (cs.dropWhile isFiller).takeWhile isNameChar
  match ((cs.dropWhile isFiller).dropWhile isNameChar).dropWhile Text.isAsciiBlank with
  | [] => ((key, []), [])
  | d :: after =>
    if d = '=' then
      let r := value (after.dropWhile Text.isAsciiBlank)
      ((key, r.1), r.2)
    else ((key, []), d :: after)

/-- What is read where only blanks and slashes are left. -/
def nothing : List Char × List Char :=
  ([], [])

section

theorem isAsciiBlank_high (c : Char) (h : 128 ≤ c.toNat) : Text.isAsciiBlank c = false := by
  have hne : ∀ d : Char, d.toNat < 128 → (c == d) = false := by
    intro d hd
    rw [beq_eq_false_iff_ne]
    rintro rfl
    omega
  rw [Text.isAsciiBlank, hne ' ' (by decide), hne '\t' (by decide), hne '\n' (by decide),
    hne '\x0c' (by decide), hne '\r' (by decide)]
  rfl

theorem uniform_isAsciiBlank : Uniform Text.isAsciiBlank := by
  intro c d hc hd
  rw [isAsciiBlank_high c hc, isAsciiBlank_high d hd]

theorem uniform_isFiller : Uniform isFiller := by
  intro c d hc hd
  have hslash := uniform_beq '/' (by decide) c d hc hd
  rw [isFiller, isFiller, uniform_isAsciiBlank c d hc hd]
  exact congrArg _ hslash

theorem uniform_isNameChar : Uniform isNameChar := by
  intro c d hc hd
  have hsign : (c == '=') = (d == '=') := uniform_beq '=' (by decide) c d hc hd
  rw [isNameChar, isNameChar, uniform_isAsciiBlank c d hc hd, bne, bne, hsign]

variable {tag rest : List Char} {place : Nat}

/-- The name, and what is left behind the blanks that follow it. -/
theorem keyAt_eq (h : Rest tag place rest) :
    ∃ next, keyAt tag place = pure ((rest.dropWhile isFiller).takeWhile isNameChar, next) ∧
      Rest tag next
        (((rest.dropWhile isFiller).dropWhile isNameChar).dropWhile Text.isAsciiBlank) := by
  have hname := h.skipped isFiller
  have hblank := hname.skipped isNameChar
  refine ⟨_, ?_, hblank.skipped Text.isAsciiBlank⟩
  -- The name is what the second loop passes over.
  rw [keyAt, h.skip_eq_pure _ uniform_isFiller, pure_bind,
    hname.skip_eq_pure _ uniform_isNameChar, pure_bind, hname.slice_skipped isNameChar, pure_bind,
    hblank.skip_eq_pure _ uniform_isAsciiBlank, pure_bind]

theorem signAt_eq (h : Rest tag place rest) :
    signAt tag place = pure (rest.head? == some '=') := by
  rw [signAt]
  cases rest with
  | nil =>
      -- The end is checked for before a byte is looked at.
      rw [if_neg fun hlt => h.lt_iff.mp hlt rfl]
      rfl
  | cons c cs =>
      obtain ⟨b, hget, hb⟩ := h.getElem?_bytes c
      have hsign : (asChar b == '=') = (c == '=') := hb _ (uniform_beq '=' (by decide))
      rw [if_pos (h.lt_iff.mpr (List.cons_ne_nil c cs)), byteAt_of_getElem? tag place b hget,
        pure_bind, hsign]
      rfl

/-- Behind a quote, the search for the next one begins. -/
theorem quotedAt_eq (quote : Char) (hquote : quote.toNat < 128) (cs raw : List Char) (stop : Nat)
    (h : Rest tag place (quote :: cs))
    (hstop : (match find? [quote] cs with
      | some offset => place + 1 + offset
      | none => size tag) = stop)
    (hraw : slice tag (place + 1) stop = pure raw) :
    valueAt.quotedAt tag place quote = pure (raw, min (stop + 1) (size tag)) := by
  rw [valueAt.quotedAt, (h.move_ascii quote hquote).slice_end, pure_bind]
  dsimp only
  rw [hstop, hraw, pure_bind]

/-- A value in quotes ends at the next quote of its kind. -/
theorem quotedAt_closed (quote : Char) (hquote : quote.toNat < 128) (raw left : List Char)
    (hraw : quote ∉ raw) (h : Rest tag place (quote :: (raw ++ quote :: left))) :
    ∃ next, valueAt.quotedAt tag place quote = pure (raw, next) ∧ Rest tag next left := by
  have hopen := h.move_ascii quote hquote
  have hclose := hopen.move.move_ascii quote hquote
  have hfind : find? [quote] (raw ++ quote :: left) = some (size raw) := by
    rw [find?_singleton, if_pos (List.mem_append_right _ List.mem_cons_self),
      (Text.span_at quote raw left hraw).1]
  -- The closing quote is in the tag, so the place behind it is not behind the end.
  have hend : place + 1 + size raw + 1 ≤ size tag := Nat.le.intro hclose.add_size
  refine ⟨_, ?_, hclose⟩
  rw [quotedAt_eq quote hquote _ raw _ h (by rw [hfind]) hopen.slice_eq, Nat.min_eq_left hend]

/-- Without one, it takes the rest. -/
theorem quotedAt_open (quote : Char) (hquote : quote.toNat < 128) (raw : List Char)
    (hraw : quote ∉ raw) (h : Rest tag place (quote :: raw)) :
    ∃ next, valueAt.quotedAt tag place quote = pure (raw, next) ∧ Rest tag next [] := by
  have hopen := h.move_ascii quote hquote
  have hfind : find? [quote] raw = none := by
    rw [find?_singleton, if_neg hraw]
  refine ⟨size tag, ?_, tag, (List.append_nil tag).symm, rfl⟩
  -- There is nothing to step over, and the place stays at the end.
  rw [quotedAt_eq quote hquote _ raw _ h (by rw [hfind]) hopen.slice_end,
    Nat.min_eq_right (Nat.le_succ _)]

/-- The two together: the value is what stands before the next quote, and what is left comes
behind it. -/
theorem quotedAt_span (quote : Char) (hquote : quote.toNat < 128) (cs : List Char)
    (h : Rest tag place (quote :: cs)) :
    ∃ next, valueAt.quotedAt tag place quote = pure (cs.takeWhile (· ≠ quote), next) ∧
      Rest tag next ((cs.dropWhile (· ≠ quote)).drop 1) := by
  by_cases hmem : quote ∈ cs
  · obtain ⟨raw, left, rfl, hraw⟩ := List.eq_append_cons_of_mem hmem
    obtain ⟨htake, hdrop⟩ := Text.span_at quote raw left hraw
    rw [htake, hdrop]
    exact quotedAt_closed quote hquote raw left hraw h
  · obtain ⟨htake, hdrop⟩ := Text.span_all quote cs hmem
    rw [htake, hdrop]
    exact quotedAt_open quote hquote cs hmem h

/-- A value without quotes ends at the next blank. -/
theorem valueAt_unquoted (h : Rest tag place rest)
    (hdouble : (bytes tag)[place]?.map asChar ≠ some '"')
    (hsingle : (bytes tag)[place]?.map asChar ≠ some '\x27') :
    valueAt tag place = pure (rest.takeWhile fun c => !Text.isAsciiBlank c,
        place + size (rest.takeWhile fun c => !Text.isAsciiBlank c)) := by
  have huniform : Uniform fun c => !Text.isAsciiBlank c := fun c d hc hd =>
    congrArg _ (uniform_isAsciiBlank c d hc hd)
  rw [valueAt]
  split
  · exact absurd ‹_› hdouble
  · exact absurd ‹_› hsingle
  · rw [h.skip_eq_pure _ huniform, pure_bind, h.slice_skipped, pure_bind]

theorem value_unquoted (hhead : ∀ quote ∈ rest.head?, quote ≠ '"' ∧ quote ≠ '\x27') :
    value rest = (rest.takeWhile fun c => !Text.isAsciiBlank c,
      rest.dropWhile fun c => !Text.isAsciiBlank c) := by
  cases rest with
  | nil => rfl
  | cons c cs =>
      obtain ⟨hdouble, hsingle⟩ := hhead c rfl
      rw [value, if_neg (not_or.mpr ⟨hdouble, hsingle⟩)]

/-- The value, and what is left behind it. -/
theorem valueAt_eq (h : Rest tag place rest) :
    ∃ next, valueAt tag place = pure ((value rest).1, next) ∧ Rest tag next (value rest).2 := by
  have hdouble := h.map_asChar_iff '"' (by decide)
  have hsingle := h.map_asChar_iff '\x27' (by decide)
  by_cases hquote : ∀ quote ∈ rest.head?, quote ≠ '"' ∧ quote ≠ '\x27'
  · -- A byte that is a quote would be one of these characters, also if it is high.
    rw [value_unquoted hquote]
    refine ⟨_, valueAt_unquoted h (fun hget => ?_) (fun hget => ?_), h.skipped _⟩
    · exact (hquote _ (hdouble.mp hget)).1 rfl
    · exact (hquote _ (hsingle.mp hget)).2 rfl
  · cases rest with
    | nil => exact absurd (fun quote hmem => absurd hmem (Option.not_mem_none quote)) hquote
    | cons c cs =>
        have hc : c = '"' ∨ c = '\x27' := by
          by_contra hneither
          refine hquote fun quote hmem => ?_
          obtain rfl := Option.some.inj hmem
          exact not_or.mp hneither
        rw [value, if_pos hc]
        rcases hc with rfl | rfl
        · rw [valueAt, hdouble.mpr rfl]
          exact quotedAt_span '"' (by decide) cs h
        · rw [valueAt, hsingle.mpr rfl]
          exact quotedAt_span '\x27' (by decide) cs h

theorem attributes_setting (cs : List Char) (h : cs.dropWhile isFiller ≠ []) :
    attributes cs = (setting cs).1 :: attributes (setting cs).2 := by
  rw [attributes, setting]
  split
  · exact absurd ‹_› h
  · rename_i c rest hfront
    rw [hfront]
    dsimp only
    split
    · rename_i hleft
      rw [hleft, attributes_nil]
    · rename_i d after hleft
      rw [hleft]
      dsimp only
      split
      · rfl
      · rfl

theorem length_setting_le (cs : List Char) :
    (setting cs).2.length ≤
      (((cs.dropWhile isFiller).dropWhile isNameChar).dropWhile Text.isAsciiBlank).length := by
  rw [setting]
  split
  · rename_i hleft
    rw [hleft]
  · rename_i d after hleft
    rw [hleft]
    dsimp only
    split
    · have hblank := (List.dropWhile_suffix (l := after) Text.isAsciiBlank).length_le
      have hvalue := length_value (after.dropWhile Text.isAsciiBlank)
      exact Nat.le_succ_of_le (hvalue.trans hblank)
    · exact Nat.le_refl _

theorem setting_filler (cs : List Char) (h : cs.dropWhile isFiller = []) :
    setting cs = (([], []), []) := by
  rw [setting, h]
  rfl

/-- An attribute takes at least one character. Its name may be empty, but then there is an
equals sign. -/
theorem length_setting (cs : List Char) (h : cs ≠ []) : (setting cs).2.length < cs.length := by
  cases hfront : cs.dropWhile isFiller with
  | nil =>
      -- What is passed over is all there is.
      rw [setting_filler cs hfront]
      exact List.length_pos_of_ne_nil h
  | cons c front =>
      have hfiller : isFiller c = false := by
        have hhead := List.head?_dropWhile_not isFiller cs
        rw [hfront] at hhead
        exact hhead
      have hshort : front.length < cs.length := by
        have hsuffix := (List.dropWhile_suffix (l := cs) isFiller).length_le
        rw [hfront, List.length_cons] at hsuffix
        exact hsuffix
      by_cases hname : isNameChar c = true
      · -- The name takes this character at least.
        have hrest := (List.dropWhile_suffix (l := front) isNameChar).length_le
        have hblank := (List.dropWhile_suffix (l := front.dropWhile isNameChar)
          Text.isAsciiBlank).length_le
        have hle := length_setting_le cs
        rw [hfront, List.dropWhile_cons_of_pos hname] at hle
        omega
      · -- The name is empty, and it is the sign that is taken.
        have hsign : c = '=' := by
          rw [isFiller, Bool.or_eq_false_iff] at hfiller
          rw [isNameChar, hfiller.1, Bool.not_false, Bool.true_and, bne_iff_ne, not_not] at hname
          exact hname
        subst hsign
        have hblank := (List.dropWhile_suffix (l := front) Text.isAsciiBlank).length_le
        have hvalue := length_value (front.dropWhile Text.isAsciiBlank)
        have hleft : (('=' :: front).dropWhile isNameChar).dropWhile Text.isAsciiBlank =
            '=' :: front := by
          rw [List.dropWhile_cons_of_neg hname, List.dropWhile_cons_of_neg (by decide)]
        rw [setting, hfront, hleft]
        exact lt_of_le_of_lt (hvalue.trans hblank) hshort

/-- A turn reads one attribute, and leaves the place behind it. -/
theorem settingAt_eq (h : Rest tag place rest) :
    ∃ next, settingAt tag place = pure ((setting rest).1.1, (setting rest).1.2, next) ∧
      Rest tag next (setting rest).2 := by
  obtain ⟨sign, hkey, hsign⟩ := keyAt_eq h
  rw [settingAt, hkey, pure_bind, setting]
  dsimp only
  rw [signAt_eq hsign, pure_bind]
  cases hleft : ((rest.dropWhile isFiller).dropWhile isNameChar).dropWhile Text.isAsciiBlank with
  | nil =>
      rw [hleft] at hsign
      exact ⟨sign, rfl, hsign⟩
  | cons d after =>
      rw [hleft] at hsign
      by_cases hd : d = '='
      · subst hd
        have hafter := hsign.move_ascii '=' (by decide)
        obtain ⟨next, hvalue, hnext⟩ := valueAt_eq (hafter.skipped Text.isAsciiBlank)
        refine ⟨next, ?_, hnext⟩
        simp only [List.head?_cons, beq_self_eq_true, if_true,
          hafter.skip_eq_pure _ uniform_isAsciiBlank, pure_bind, hvalue]
      · have hno : (some d == some '=') = false := by
          rw [beq_eq_false_iff_ne]
          exact fun heq => hd (Option.some.inj heq)
        refine ⟨sign, ?_, ?_⟩
        · simp only [List.head?_cons, hno, if_neg hd, Bool.false_eq_true, if_false]
        · simp only [if_neg hd]
          exact hsign

/-- The attributes, with the turn at the end in which no attribute is left. -/
theorem exists_trail (cs : List Char) (trail : List (List Char × List Char))
    (htrail : ∀ a ∈ trail, a = nothing) :
    ∃ trail', (∀ a ∈ trail', a = nothing) ∧
      attributes cs ++ trail' = (setting cs).1 :: (attributes (setting cs).2 ++ trail) := by
  by_cases hfront : cs.dropWhile isFiller = []
  · -- There is no attribute left, and yet there is a turn.
    refine ⟨nothing :: trail, List.forall_mem_cons.mpr ⟨rfl, htrail⟩, ?_⟩
    rw [attributes_filler cs (List.dropWhile_eq_nil_iff.mp hfront), setting_filler cs hfront,
      attributes_nil]
    rfl
  · exact ⟨trail, htrail, by rw [attributes_setting cs hfront, List.cons_append]⟩

/-- The attributes in front of a name are passed over, one in each turn. Blanks and slashes at
the end make for a last turn, in which an attribute without a name is read. -/
theorem attributeFrom_eq (name : List Char) (h : Rest tag place rest) :
    ∃ trail, (∀ a ∈ trail, a = nothing) ∧ attributeFrom tag name place =
      pure (((attributes rest ++ trail).find? fun a =>
        a.1.map Char.toLower == name.map Char.toLower).map Prod.snd) := by
  -- By induction on the length of the rest, which each turn makes shorter.
  induction hlength : rest.length using Nat.strongRecOn generalizing place rest with
  | ind n ih =>
      by_cases hrest : rest = []
      · refine ⟨[], fun a ha => absurd ha List.not_mem_nil, loop_done _ place _ ?_⟩
        rw [if_neg fun hlt => h.lt_iff.mp hlt hrest, hrest, attributes_nil]
        rfl
      · obtain ⟨next, hread, hnext⟩ := settingAt_eq h
        have hshorter := length_setting rest hrest
        obtain ⟨trail, htrail, hback⟩ := ih _ (by omega) hnext rfl
        obtain ⟨trail', htrail', hattributes⟩ := exists_trail rest trail htrail
        refine ⟨trail', htrail', ?_⟩
        rw [hattributes, List.find?_cons]
        -- Either the attribute of this turn has the name, or the loop goes on.
        cases hname : (setting rest).1.1.map Char.toLower == name.map Char.toLower with
        | true =>
            refine loop_done _ place _ ?_
            rw [if_pos (h.lt_iff.mpr hrest), hread, pure_bind]
            dsimp only
            rw [hname]
            rfl
        | false =>
            dsimp only
            rw [← hback]
            refine loop_next _ place next ?_
            rw [if_pos (h.lt_iff.mpr hrest), hread, pure_bind]
            dsimp only
            rw [hname]
            rfl

end

/-- A name that is not empty is not found in the last turn. -/
theorem attributeFrom_attribute? (tag : List Char) (name : String) (hname : name.toList ≠ [])
    (hlower : name.toList.map Char.toLower = name.toList) :
    attributeFrom tag name.toList 0 = pure (attribute? tag name) := by
  obtain ⟨trail, htrail, hread⟩ := attributeFrom_eq name.toList (Rest.start tag)
  have hnone : trail.find? (fun a => a.1.map Char.toLower == name.toList) = none := by
    refine List.find?_eq_none.mpr fun a ha hfound => ?_
    rw [htrail a ha, beq_iff_eq] at hfound
    exact hname hfound.symm
  rw [hlower, List.find?_append, hnone, Option.or_none] at hread
  exact hread

end Form

end SamlConformance
