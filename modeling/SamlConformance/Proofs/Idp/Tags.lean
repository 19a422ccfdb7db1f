import SamlConformance.Idp.Form
import SamlConformance.Proofs.Xml.Scanning

/-!
# Where Input Tags End

A page is not read as a document, and an input tag ends at the next closing bracket, whatever
stands around it. This makes the tags of a page a matter of its pieces: cut the page at every
bracket, and each piece holds one tag or none, namely the text behind the first opening in
it. No piece depends on another one.

What makes this work is that an opening cannot run across a bracket. For the same reason it
cannot run into the next opening: only its first character is an angle.

## Theorems

* `afterInput?_eq_none_iff`: Nothing is found exactly where there is no opening.
* `afterInput?_append_of_some`, `afterInput?_append_of_none`: What comes behind a text.
* `inputTags_eq_splitOn`: The tags of a page are those of its pieces.
* `inputTags_append`: A page can be read in two parts, cut at any bracket.
* `inputTags_opening`: What is read from one tag.
-/

namespace SamlConformance

namespace Form

theorem opening_eq : "<input".toList = '<' :: "input".toList := by
  decide

theorem length_opening (word : List Char)
    (h : word.map Char.toLower = "<input".toList) : word.length = 6 := by
  rw [← List.length_map Char.toLower, h]
  rfl

/-- At an opening, the search ends. -/
theorem afterInput?_here (word rest : List Char)
    (h : word.map Char.toLower = "<input".toList) : afterInput? (word ++ rest) = some rest := by
  have hlength := length_opening word h
  cases word with
  | nil => exact absurd hlength (by decide)
  | cons c cs =>
      have htake : (c :: (cs ++ rest)).take 6 = c :: cs := by
        rw [← List.cons_append, ← hlength, List.take_left']
        rfl
      have hdrop : (c :: (cs ++ rest)).drop 6 = rest := by
        rw [← List.cons_append, ← hlength, List.drop_left']
        rfl
      rw [List.cons_append, afterInput?, htake, if_pos h, hdrop]

/-- What is found stands behind an opening. -/
theorem exists_of_afterInput? (cs rest : List Char) (h : afterInput? cs = some rest) :
    ∃ before word, cs = before ++ word ++ rest ∧ word.map Char.toLower = "<input".toList := by
  induction cs with
  | nil => exact absurd h.symm (Option.some_ne_none _)
  | cons c cs ih =>
      rw [afterInput?] at h
      by_cases hword : ((c :: cs).take 6).map Char.toLower = "<input".toList
      · rw [if_pos hword, Option.some.injEq] at h
        refine ⟨[], (c :: cs).take 6, ?_, hword⟩
        rw [List.nil_append, ← h, List.take_append_drop]
      · rw [if_neg hword] at h
        obtain ⟨before, word, hcs, hopening⟩ := ih h
        exact ⟨c :: before, word, by rw [hcs]; rfl, hopening⟩

/-- Nothing is found exactly where there is no opening, in any letter case. -/
theorem afterInput?_eq_none_iff (cs : List Char) :
    afterInput? cs = none ↔ ¬ "<input".toList <:+: cs.map Char.toLower := by
  constructor
  · -- An opening in the text in small letters is one in the text as it is.
    rintro h ⟨s, t, hst⟩
    obtain ⟨front, rest, hcs, hfront, -⟩ := List.map_eq_append_iff.mp hst.symm
    obtain ⟨before, word, rfl, -, hword⟩ := List.map_eq_append_iff.mp hfront
    subst hcs
    clear hst hfront
    induction before with
    | nil =>
        rw [List.nil_append, afterInput?_here word rest hword] at h
        exact absurd h (Option.some_ne_none rest)
    | cons c before ih =>
        rw [List.cons_append, List.cons_append, afterInput?] at h
        split at h
        · exact absurd h (Option.some_ne_none _)
        · exact ih h
  · intro h
    by_contra hfound
    obtain ⟨rest, hrest⟩ := Option.ne_none_iff_exists'.mp hfound
    obtain ⟨before, word, rfl, hword⟩ := exists_of_afterInput? cs rest hrest
    refine h ⟨before.map Char.toLower, rest.map Char.toLower, ?_⟩
    rw [List.map_append, List.map_append, hword]

/-- What was found stays found, whatever comes behind the text. -/
theorem afterInput?_append_of_some (cs rest more : List Char) (h : afterInput? cs = some rest) :
    afterInput? (cs ++ more) = some (rest ++ more) := by
  induction cs with
  | nil => exact absurd h.symm (Option.some_ne_none _)
  | cons c cs ih =>
      -- The opening is here or further on, so there is room for it in the text.
      have hroom : 6 ≤ (c :: cs).length := by
        obtain ⟨before, word, hcs, hword⟩ := exists_of_afterInput? _ rest h
        rw [hcs, List.length_append, List.length_append, length_opening word hword]
        omega
      have htake : (c :: (cs ++ more)).take 6 = (c :: cs).take 6 := by
        rw [← List.cons_append, List.take_append_of_le_length hroom]
      have hdrop : (c :: (cs ++ more)).drop 6 = (c :: cs).drop 6 ++ more := by
        rw [← List.cons_append, List.drop_append_of_le_length hroom]
      rw [afterInput?] at h
      rw [List.cons_append, afterInput?, htake, hdrop]
      by_cases hword : ((c :: cs).take 6).map Char.toLower = "<input".toList
      · rw [if_pos hword, Option.some.injEq] at h
        rw [if_pos hword, h]
      · rw [if_neg hword] at h
        rw [if_neg hword, ih h]

/-- No opening runs from a text into a character that is none of its letters. -/
theorem afterInput?_append_of_none (cs : List Char) (d : Char) (more : List Char)
    (hd : d.toLower ∉ "input".toList) (h : afterInput? cs = none) :
    afterInput? (cs ++ d :: more) = afterInput? (d :: more) := by
  induction cs with
  | nil => rfl
  | cons c cs ih =>
      rw [afterInput?] at h
      split at h
      · exact absurd h (Option.some_ne_none _)
      rename_i hword
      have hacross : ¬ ((c :: (cs ++ d :: more)).take 6).map Char.toLower = "<input".toList := by
        intro hopening
        by_cases hroom : 5 ≤ cs.length
        · rw [← List.cons_append, List.take_append_of_le_length (Nat.succ_le_succ hroom)]
            at hopening
          exact hword hopening
        · -- There is no room before the character, so it would be one of the letters.
          obtain ⟨k, hk⟩ : ∃ k, 5 - cs.length = k + 1 := ⟨4 - cs.length, by omega⟩
          have htake : (c :: (cs ++ d :: more)).take 6 = c :: (cs ++ d :: more.take k) := by
            rw [List.take_succ_cons, List.take_append, hk, List.take_succ_cons,
              List.take_of_length_le (by omega)]
          rw [htake, opening_eq, List.map_cons, List.map_append, List.map_cons,
            List.cons.injEq] at hopening
          rw [← hopening.2] at hd
          exact hd (List.mem_append_right _ List.mem_cons_self)
      rw [List.cons_append, afterInput?, if_neg hacross, ih h]

theorem afterInput?_bracket (more : List Char) : afterInput? ('>' :: more) = afterInput? more := by
  rw [afterInput?, if_neg]
  intro hopening
  rw [opening_eq, List.take_succ_cons, List.map_cons, List.cons.injEq] at hopening
  exact absurd hopening.1 (by decide)

theorem inputTags_of_none (page : List Char) (h : afterInput? page = none) :
    inputTags page = [] := by
  rw [inputTags]
  split
  · rfl
  · rename_i rest hrest
    exact absurd (h.symm.trans hrest).symm (Option.some_ne_none rest)

theorem inputTags_of_some (page rest : List Char) (h : afterInput? page = some rest) :
    inputTags page = rest.takeWhile (· ≠ '>') :: inputTags (rest.dropWhile (· ≠ '>')) := by
  rw [inputTags]
  split
  · rename_i hnone
    exact absurd (h.symm.trans hnone) (Option.some_ne_none rest)
  · rename_i rest' hrest
    rw [Option.some.inj (h.symm.trans hrest)]

/-- The tags depend only on what is behind the first opening. -/
theorem inputTags_congr (page page' : List Char) (h : afterInput? page = afterInput? page') :
    inputTags page = inputTags page' := by
  cases hpage : afterInput? page with
  | none => rw [inputTags_of_none page hpage, inputTags_of_none page' (h ▸ hpage)]
  | some rest =>
      rw [inputTags_of_some page rest hpage, inputTags_of_some page' rest (h ▸ hpage)]

theorem not_mem_of_afterInput? (cs rest : List Char) (h : afterInput? cs = some rest)
    (hcs : '>' ∉ cs) : '>' ∉ rest := by
  obtain ⟨before, word, rfl, -⟩ := exists_of_afterInput? cs rest h
  exact fun hmem => hcs (List.mem_append_right _ hmem)

/-- If there is no bracket behind the first opening, the rest of the page is in the tag. -/
theorem inputTags_of_last (page rest : List Char) (h : afterInput? page = some rest)
    (hrest : '>' ∉ rest) : inputTags page = [rest] := by
  obtain ⟨htake, hdrop⟩ := Text.span_all '>' rest hrest
  rw [inputTags_of_some page rest h, htake, hdrop, inputTags_of_none [] rfl]

/-- A page without brackets holds one tag or none. -/
theorem inputTags_of_not_mem (page : List Char) (h : '>' ∉ page) :
    inputTags page = (afterInput? page).toList := by
  cases hpage : afterInput? page with
  | none => exact inputTags_of_none page hpage
  | some rest => exact inputTags_of_last page rest hpage (not_mem_of_afterInput? page rest hpage h)

/-- So does the piece of a page before its first bracket, and the rest is read on its own. -/
theorem inputTags_piece (piece more : List Char) (h : '>' ∉ piece) :
    inputTags (piece ++ '>' :: more) = (afterInput? piece).toList ++ inputTags more := by
  cases hpiece : afterInput? piece with
  | none =>
      refine inputTags_congr _ _ ?_
      rw [afterInput?_append_of_none piece '>' more (by decide) hpiece, afterInput?_bracket]
  | some rest =>
      have hrest := not_mem_of_afterInput? piece rest hpiece h
      obtain ⟨htake, hdrop⟩ := Text.span_at '>' rest more hrest
      rw [inputTags_of_some _ _ (afterInput?_append_of_some piece rest ('>' :: more) hpiece),
        htake, hdrop, inputTags_congr _ _ (afterInput?_bracket more)]
      rfl

/-- The tags of a page are those of its pieces between brackets. -/
theorem inputTags_eq_splitOn (page : List Char) :
    inputTags page = (page.splitOn '>').filterMap afterInput? := by
  have hne : ∀ cs : List Char, '>' ∉ cs → ∀ c ∈ cs, (c == '>') = false := by
    intro cs hcs c hc
    exact beq_eq_false_iff_ne.mpr fun heq => hcs (heq ▸ hc)
  have hcons : ∀ piece pieces, (piece :: pieces).filterMap afterInput? =
      (afterInput? piece).toList ++ pieces.filterMap afterInput? := by
    intro piece pieces
    rw [List.filterMap_eq_flatMap_toList, List.flatMap_cons, ← List.filterMap_eq_flatMap_toList]
  by_cases hbracket : '>' ∈ page
  · -- The first bracket is the end of the first piece.
    obtain ⟨piece, more, hpage, hpiece⟩ := List.eq_append_cons_of_mem hbracket
    have hshorter : more.length < page.length := by
      rw [hpage, List.length_append, List.length_cons]
      omega
    have hsplit : page.splitOn '>' = piece :: more.splitOn '>' := by
      rw [hpage]
      exact List.splitOnP_append_cons_of_forall_mem (hne piece hpiece) '>' rfl more
    rw [hsplit, hcons, hpage, inputTags_piece piece more hpiece, inputTags_eq_splitOn more]
  · have hsplit : page.splitOn '>' = [page] := List.splitOnP_eq_singleton (hne page hbracket)
    rw [hsplit, hcons, inputTags_of_not_mem page hbracket, List.filterMap_nil, List.append_nil]
termination_by page.length

/-- The two sides of a bracket are read on their own. -/
theorem inputTags_append (page more : List Char) :
    inputTags (page ++ '>' :: more) = inputTags page ++ inputTags more := by
  have hsplit : (page ++ '>' :: more).splitOn '>' = page.splitOn '>' ++ more.splitOn '>' :=
    List.splitOnP_append_cons page more rfl
  rw [inputTags_eq_splitOn, hsplit, List.filterMap_append, ← inputTags_eq_splitOn,
    ← inputTags_eq_splitOn]

/-- One tag is read behind a text without an opening, whatever brackets the text has. -/
theorem inputTags_opening (before word inside : List Char)
    (hbefore : ¬ "<input".toList <:+: before.map Char.toLower)
    (hword : word.map Char.toLower = "<input".toList) (hinside : '>' ∉ inside) :
    inputTags (before ++ (word ++ inside)) = [inside] := by
  -- The search passes over the text, in which it finds nothing, to the angle of the tag.
  have hfound : afterInput? (before ++ (word ++ inside)) = some inside := by
    have hnone := (afterInput?_eq_none_iff before).mpr hbefore
    have hhere := afterInput?_here word inside hword
    cases word with
    | nil => exact absurd hword (by decide)
    | cons d word =>
        have hangle : d.toLower = '<' := (List.cons.inj hword).1
        rw [List.cons_append, afterInput?_append_of_none before d (word ++ inside)
          (by rw [hangle]; decide) hnone]
        exact hhere
  exact inputTags_of_last _ inside hfound hinside

end Form

end SamlConformance
