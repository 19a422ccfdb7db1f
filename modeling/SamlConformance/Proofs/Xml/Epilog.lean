import SamlConformance.Proofs.Coding.Prefix
import SamlConformance.Proofs.Xml.Splitting

/-!
# What Stands behind the Document Element

The document element of a text is closed by one of its tags, and this tag by a bracket. What
stands behind the bracket is the epilog of the text: blanks, comments and instructions, or
something that does not belong there. Whether it belongs there is left to the reader; here it
is only found where it begins.

A text that holds a document has an epilog, and the place where this begins depends on nothing
that is in it. So if a text is cut off in its epilog, or has more put behind it, the epilog
still begins where it began. A text whose epilog is empty can therefore not be cut short: a
beginning of it that holds a document would have an epilog too, and the one of the whole text
would go on behind this one.

Stretches of text need some care, since they go up to the next tag and so do look ahead. But
no stretch of text closes the document element, so there is a tag behind each of them.

## Main definitions

* `Xml.epilog?`: What follows the document element.

## Theorems

* `piece_split`: Every piece of markup ends at a bracket.
* `epilog?_split`: So does the document element.
* `epilog?_append`: What is put behind a text is put behind its epilog.
* `isSome_epilog?_of_parseChars`: A text that holds a document has an epilog.
* `exists_error_of_cutShort`: A text that ends with the document element cannot be cut short.
-/

namespace SamlConformance

namespace Text

/-- A text is cut at a word. -/
theorem cutAt_split (word cs before rest : List Char) (h : cutAt word cs = some (before, rest)) :
    cs = before ++ (word ++ rest) := by
  induction cs generalizing before with
  | nil =>
      rw [cutAt] at h
      by_cases hword : word.isEmpty = true
      · rw [if_pos hword] at h
        obtain ⟨rfl, rfl⟩ := Prod.mk.inj (Option.some.inj h)
        rw [List.isEmpty_iff.mp hword]
        rfl
      · rw [if_neg hword] at h
        exact absurd h.symm (Option.some_ne_none _)
  | cons c cs ih =>
      rw [cutAt] at h
      by_cases hword : word.isPrefixOf (c :: cs) = true
      · rw [if_pos hword] at h
        obtain ⟨rfl, rfl⟩ := Prod.mk.inj (Option.some.inj h)
        rw [List.nil_append]
        exact (List.prefix_iff_eq_append.mp (List.isPrefixOf_iff_prefix.mp hword)).symm
      · rw [if_neg hword] at h
        obtain ⟨⟨before', rest'⟩, hcut, heq⟩ := Option.map_eq_some_iff.mp h
        obtain ⟨rfl, rfl⟩ := Prod.mk.inj heq
        exact congrArg (c :: ·) (ih before' hcut)

end Text

namespace Xml

theorem cutTag_split (quote : Option Char) (cs inside rest : List Char)
    (h : cutTag quote cs = some (inside, rest)) : cs = inside ++ '>' :: rest := by
  induction cs generalizing quote inside with
  | nil => cases quote <;> exact absurd h.symm (Option.some_ne_none _)
  | cons c cs ih =>
      have hgoes (quote : Option Char)
          (h : (cutTag quote cs).map (fun r => (c :: r.1, r.2)) = some (inside, rest)) :
          c :: cs = inside ++ '>' :: rest := by
        obtain ⟨⟨inside', rest'⟩, hcut, heq⟩ := Option.map_eq_some_iff.mp h
        obtain ⟨rfl, rfl⟩ := Prod.mk.inj heq
        exact congrArg (c :: ·) (ih quote inside' hcut)
      cases quote with
      | none =>
          rw [cutTag] at h
          split at h
          · rename_i hc
            obtain ⟨rfl, rfl⟩ := Prod.mk.inj (Option.some.inj h)
            rw [hc, List.nil_append]
          · exact hgoes _ h
      | some q =>
          rw [cutTag] at h
          exact hgoes _ h

theorem cutDeclaration_split (depth : Nat) (cs inside rest : List Char)
    (h : cutDeclaration depth cs = some (inside, rest)) : cs = inside ++ '>' :: rest := by
  induction cs generalizing depth inside with
  | nil => exact absurd h.symm (Option.some_ne_none _)
  | cons c cs ih =>
      have hgoes (depth : Nat)
          (h : (cutDeclaration depth cs).map (fun r => (c :: r.1, r.2)) = some (inside, rest)) :
          c :: cs = inside ++ '>' :: rest := by
        obtain ⟨⟨inside', rest'⟩, hcut, heq⟩ := Option.map_eq_some_iff.mp h
        obtain ⟨rfl, rfl⟩ := Prod.mk.inj heq
        exact congrArg (c :: ·) (ih depth inside' hcut)
      unfold cutDeclaration at h
      split at h
      · exact hgoes _ h
      split at h
      · rename_i hc
        cases depth with
        | zero =>
            obtain ⟨rfl, rfl⟩ := Prod.mk.inj (Option.some.inj h)
            rw [hc, List.nil_append]
        | succ d => exact hgoes d h
      · exact hgoes _ h

/-- A bracket stands in front of what is left. -/
def EndsAtBracket (cs rest : List Char) : Prop :=
  ∃ before, cs = before ++ '>' :: rest

theorem EndsAtBracket.behind {cs rest : List Char} (h : EndsAtBracket cs rest)
    (before : List Char) : EndsAtBracket (before ++ cs) rest := by
  obtain ⟨before', rfl⟩ := h
  exact ⟨before ++ before', (List.append_assoc _ _ _).symm⟩

theorem endsAtBracket_cutAt (word cs before rest : List Char)
    (h : Text.cutAt (word ++ ['>']) cs = some (before, rest)) : EndsAtBracket cs rest := by
  refine ⟨before ++ word, ?_⟩
  rw [Text.cutAt_split _ cs before rest h, List.append_assoc, List.append_assoc,
    List.singleton_append]

theorem comment_split (cs rest : List Char) (h : comment cs = .ok rest) :
    EndsAtBracket cs rest := by
  rcases cs with _ | ⟨c, cs⟩
  · exact absurd h (by simp only [comment, reduceCtorEq, not_false_eq_true])
  cases hcut : Text.cutAt "-->".toList cs with
  | none => exact absurd h (by simp only [comment, hcut, reduceCtorEq, not_false_eq_true])
  | some r =>
      simp only [comment, hcut] at h
      split at h
      · rw [← Except.ok.inj h]
        exact (endsAtBracket_cutAt ['-', '-'] cs r.1 r.2 hcut).behind [c]
      · exact absurd h (by simp only [reduceCtorEq, not_false_eq_true])

theorem literal_split (cs content rest : List Char) (h : literal cs = .ok (content, rest)) :
    EndsAtBracket cs rest := by
  unfold literal at h
  split at h
  · split at h
    · rename_i r hcut
      rw [Except.ok.inj h] at hcut
      rw [← List.take_append_drop 6 cs]
      exact (endsAtBracket_cutAt [']', ']'] _ content rest hcut).behind _
    · exact absurd h (by simp only [reduceCtorEq, not_false_eq_true])
  · exact absurd h (by simp only [reduceCtorEq, not_false_eq_true])

theorem doctype_split (cs rest : List Char) (h : doctype cs = .ok rest) :
    EndsAtBracket cs rest := by
  unfold doctype at h
  split at h
  · exact absurd h (by simp only [reduceCtorEq, not_false_eq_true])
  · rename_i inside rest' hcut
    have hends : EndsAtBracket cs rest' := ⟨inside, cutDeclaration_split 0 cs inside rest' hcut⟩
    split at h
    · split at h
      · exact absurd h (by simp only [reduceCtorEq, not_false_eq_true])
      · exact Except.ok.inj h ▸ hends
    · exact absurd h (by simp only [reduceCtorEq, not_false_eq_true])

theorem instruction_split (cs rest : List Char) (h : instruction cs = .ok rest) :
    EndsAtBracket cs rest := by
  unfold instruction at h
  split at h
  · exact absurd h (by simp only [reduceCtorEq, not_false_eq_true])
  · split at h
    · rename_i before rest' hcut
      exact Except.ok.inj h ▸ endsAtBracket_cutAt ['?'] _ before rest' hcut
    · exact absurd h (by simp only [reduceCtorEq, not_false_eq_true])

/-- Every piece of markup ends at a bracket. -/
theorem piece_split (cs rest : List Char) (m : Option Markup) (h : piece cs = .ok (m, rest)) :
    EndsAtBracket cs rest := by
  unfold piece at h
  split at h
  · obtain ⟨⟨content, rest'⟩, hread, heq⟩ := exists_of_map_eq_ok h
    obtain ⟨-, rfl⟩ := Prod.mk.inj heq
    exact (literal_split _ content rest' hread).behind ['!', '[']
  · obtain ⟨rest', hread, heq⟩ := exists_of_map_eq_ok h
    obtain ⟨-, rfl⟩ := Prod.mk.inj heq
    exact (comment_split _ rest' hread).behind ['!', '-']
  iterate 2
    obtain ⟨rest', hread, heq⟩ := exists_of_map_eq_ok h
    obtain ⟨-, rfl⟩ := Prod.mk.inj heq
    exact (doctype_split _ rest' hread).behind ['!']
  · exact absurd h (by simp only [reduceCtorEq, not_false_eq_true])
  · obtain ⟨rest', hread, heq⟩ := exists_of_map_eq_ok h
    obtain ⟨-, rfl⟩ := Prod.mk.inj heq
    exact (instruction_split _ rest' hread).behind ['?']
  · split at h
    · rename_i inside rest' hcut
      obtain ⟨-, rfl⟩ := Prod.mk.inj (Except.ok.inj h)
      exact EndsAtBracket.behind ⟨inside, cutTag_split none _ inside rest' hcut⟩ ['/']
    · exact absurd h (by simp only [reduceCtorEq, not_false_eq_true])
  · split at h
    · rename_i inside rest' hcut
      obtain ⟨-, rfl⟩ := Prod.mk.inj (Except.ok.inj h)
      exact ⟨inside, cutTag_split none _ inside rest' hcut⟩
    · exact absurd h (by simp only [reduceCtorEq, not_false_eq_true])

namespace Builder

/-- A piece is put in place, if it is one that counts. -/
def place (b : Builder) : Option Markup → Except Error Builder
  | none => .ok b
  | some m => b.step (.ok m)

/-- The first piece of a text that is not empty: what is known behind it, and what is left of
the text. -/
def advance (b : Builder) (c : Char) (cs : List Char) : Except Error (Builder × List Char) :=
  if c = '<' then
    match piece cs with
    | .error f => .error (.badMarkup f)
    | .ok (m, rest) => (b.place m).map (·, rest)
  else
    (b.step (.ok (.text (c :: cs.takeWhile (· ≠ '<'))))).map (·, cs.dropWhile (· ≠ '<'))

/-- The first piece is markup or a stretch of text. -/
theorem advance_cases (b next : Builder) (c : Char) (cs rest : List Char)
    (h : b.advance c cs = .ok (next, rest)) :
    (c = '<' ∧ ∃ m, piece cs = .ok (m, rest) ∧ b.place m = .ok next) ∨
    (c ≠ '<' ∧ b.step (.ok (.text (c :: cs.takeWhile (· ≠ '<')))) = .ok next ∧
      rest = cs.dropWhile (· ≠ '<')) := by
  unfold advance at h
  split at h
  · rename_i hc
    split at h
    · exact absurd h (by simp only [reduceCtorEq, not_false_eq_true])
    · rename_i m rest' hpiece
      obtain ⟨next', hplace, heq⟩ := exists_of_map_eq_ok h
      obtain ⟨rfl, rfl⟩ := Prod.mk.inj heq
      exact Or.inl ⟨hc, m, hpiece, hplace⟩
  · rename_i hc
    obtain ⟨next', hstep, heq⟩ := exists_of_map_eq_ok h
    obtain ⟨rfl, rfl⟩ := Prod.mk.inj heq
    exact Or.inr ⟨hc, hstep, rfl⟩

theorem advance_markup (b next : Builder) (cs rest : List Char) (m : Option Markup)
    (hpiece : piece cs = .ok (m, rest)) (hplace : b.place m = .ok next) :
    b.advance '<' cs = .ok (next, rest) := by
  rw [advance, if_pos rfl, hpiece]
  exact congrArg (Except.map (·, rest)) hplace

theorem advance_text (b next : Builder) (c : Char) (cs : List Char) (hc : c ≠ '<')
    (hstep : b.step (.ok (.text (c :: cs.takeWhile (· ≠ '<')))) = .ok next) :
    b.advance c cs = .ok (next, cs.dropWhile (· ≠ '<')) := by
  rw [advance, if_neg hc, hstep]
  rfl

/-- No text closes the document element. -/
theorem root_of_step_text (b next : Builder) (raw : List Char)
    (h : b.step (.ok (.text raw)) = .ok next) : next.root = b.root := by
  rw [step] at h
  split at h
  · exact absurd h (by simp only [reduceCtorEq, not_false_eq_true])
  rw [addText] at h
  split at h
  · split at h <;> rw [← Except.ok.inj h]
  · simp only at h
    split at h
    · rw [← Except.ok.inj h]
    · exact absurd h (by simp only [reduceCtorEq, not_false_eq_true])

theorem length_advance (b next : Builder) (c : Char) (cs rest : List Char)
    (h : b.advance c cs = .ok (next, rest)) : rest.length ≤ cs.length := by
  rcases advance_cases b next c cs rest h with ⟨-, m, hpiece, -⟩ | ⟨-, -, rfl⟩
  · exact length_piece hpiece
  · exact (List.dropWhile_suffix (· ≠ '<')).length_le

/-- What is left is the end of the text. -/
theorem advance_split (b next : Builder) (c : Char) (cs rest : List Char)
    (h : b.advance c cs = .ok (next, rest)) : ∃ front, c :: cs = front ++ rest := by
  rcases advance_cases b next c cs rest h with ⟨-, m, hpiece, -⟩ | ⟨-, -, rfl⟩
  · obtain ⟨before, rfl⟩ := piece_split cs rest m hpiece
    exact ⟨c :: before ++ ['>'], by rw [List.append_assoc, List.singleton_append, List.cons_append]⟩
  · exact ⟨c :: cs.takeWhile (· ≠ '<'),
      by rw [List.cons_append, List.takeWhile_append_dropWhile]⟩

/-- The pieces of a text are put in place from the first one on. -/
theorem exists_advance_of_run (b b' : Builder) (c : Char) (cs : List Char)
    (h : b.run (scan (c :: cs)) = .ok b') :
    ∃ next rest, b.advance c cs = .ok (next, rest) ∧ next.run (scan rest) = .ok b' := by
  by_cases hc : c = '<'
  · rw [hc] at h ⊢
    rcases hpiece : piece cs with f | ⟨m, rest⟩
    · rw [scan_fault cs f hpiece] at h
      exact absurd h (by simp only [run, step, reduceCtorEq, not_false_eq_true])
    · rw [scan_markup cs rest m hpiece] at h
      cases m with
      | none => exact ⟨b, rest, advance_markup b b cs rest none hpiece rfl, h⟩
      | some m =>
          obtain ⟨next, hstep, hrun⟩ := exists_step_of_run b b' _ _ h
          exact ⟨next, rest, advance_markup b next cs rest (some m) hpiece hstep, hrun⟩
  · rw [scan, if_neg hc] at h
    obtain ⟨next, hstep, hrun⟩ := exists_step_of_run b b' _ _ h
    exact ⟨next, _, advance_text b next c cs hc hstep, hrun⟩

/-- A piece stays the same whatever is put behind the text, unless it is text and nothing comes
behind it. -/
theorem advance_append (b next : Builder) (c : Char) (cs rest more : List Char)
    (h : b.advance c cs = .ok (next, rest)) (hrest : c = '<' ∨ rest ≠ []) :
    b.advance c (cs ++ more) = .ok (next, rest ++ more) := by
  rcases advance_cases b next c cs rest h with ⟨rfl, m, hpiece, hplace⟩ | ⟨hc, hstep, htext⟩
  · exact advance_markup b next _ _ m (piece_append cs rest more m hpiece) hplace
  · have hne := hrest.resolve_left hc
    have hbracket : ∀ d ∈ (rest ++ more).head?, d = '<' := by
      rw [List.head?_append_of_ne_nil rest hne, htext]
      exact eq_of_mem_head?_dropWhile cs
    obtain ⟨htake, hdrop⟩ := Text.span_separator '<' (cs.takeWhile (· ≠ '<')) (rest ++ more)
      (not_mem_takeWhile cs) hbracket
    have hcs : cs ++ more = cs.takeWhile (· ≠ '<') ++ (rest ++ more) := by
      rw [← List.append_assoc, htext, List.takeWhile_append_dropWhile]
    rw [hcs]
    have hlonger := advance_text b next c (cs.takeWhile (· ≠ '<') ++ (rest ++ more)) hc
      (by rw [htake]; exact hstep)
    rwa [hdrop] at hlonger

/-- What follows the tag that closes the document element, if there is one. -/
def epilog? (b : Builder) (cs : List Char) : Option (List Char) :=
  if b.root.isSome then some cs
  else
    match cs with
    | [] => none
    | c :: cs =>
      match _ : b.advance c cs with
      | .error _ => none
      | .ok (next, rest) => next.epilog? rest
termination_by cs.length
decreasing_by exact Nat.lt_succ_of_le (length_advance b next c _ rest ‹_›)

theorem epilog?_closed (b : Builder) (cs : List Char) (hroot : b.root.isSome = true) :
    b.epilog? cs = some cs := by
  unfold epilog?
  exact if_pos hroot

theorem epilog?_nil (b : Builder) (hroot : ¬ b.root.isSome = true) : b.epilog? [] = none := by
  rw [epilog?, if_neg hroot]

theorem epilog?_cons (b : Builder) (c : Char) (cs : List Char) (hroot : ¬ b.root.isSome = true) :
    b.epilog? (c :: cs) =
      match b.advance c cs with
      | .error _ => none
      | .ok (next, rest) => next.epilog? rest := by
  rw [epilog?, if_neg hroot]
  cases b.advance c cs <;> rfl

theorem epilog?_append (b : Builder) (cs rest more : List Char) (h : b.epilog? cs = some rest) :
    b.epilog? (cs ++ more) = some (rest ++ more) := by
  induction b, cs using epilog?.induct with
  | case1 b cs hroot =>
      rw [epilog?_closed b cs hroot] at h
      rw [epilog?_closed b _ hroot, Option.some.inj h]
  | case2 b hroot =>
      rw [epilog?_nil b hroot] at h
      exact absurd h.symm (Option.some_ne_none _)
  | case3 b hroot c cs e hadvance =>
      rw [epilog?_cons b c cs hroot, hadvance] at h
      exact absurd h.symm (Option.some_ne_none _)
  | case4 b hroot c cs next rest' hadvance ih =>
      rw [epilog?_cons b c cs hroot, hadvance] at h
      -- The last piece is no text, since the document element would still be open behind it.
      have hbehind : c = '<' ∨ rest' ≠ [] := by
        by_contra! hnot
        obtain ⟨hc, rfl⟩ := hnot
        rcases advance_cases b next c cs [] hadvance with ⟨hc', -⟩ | ⟨-, hstep, -⟩
        · exact hc hc'
        · rw [← root_of_step_text b next _ hstep] at hroot
          exact absurd (h.symm.trans (epilog?_nil next hroot)) (Option.some_ne_none _)
      rw [List.cons_append, epilog?_cons b c _ hroot,
        advance_append b next c cs rest' more hadvance hbehind]
      exact ih h

/-- If all pieces of a text fit, and the document element is among them, it has an epilog. -/
theorem isSome_epilog?_of_run (b b' : Builder) (cs : List Char) (h : b.run (scan cs) = .ok b')
    (hroot' : b'.root.isSome = true) : (b.epilog? cs).isSome = true := by
  induction b, cs using epilog?.induct with
  | case1 b cs hroot => rw [epilog?_closed b cs hroot, Option.isSome_some]
  | case2 b hroot =>
      rw [scan, run] at h
      exact absurd (Except.ok.inj h ▸ hroot') hroot
  | case3 b hroot c cs e hadvance =>
      obtain ⟨next, rest, hnext, -⟩ := exists_advance_of_run b b' c cs h
      exact absurd (hadvance.symm.trans hnext) (by simp only [reduceCtorEq, not_false_eq_true])
  | case4 b hroot c cs next rest hadvance ih =>
      obtain ⟨next', rest', hnext, hrun⟩ := exists_advance_of_run b b' c cs h
      obtain ⟨rfl, rfl⟩ := Prod.mk.inj (Except.ok.inj (hadvance.symm.trans hnext))
      rw [epilog?_cons b c cs hroot, hadvance]
      exact ih hrun

theorem epilog?_split (b : Builder) (cs rest : List Char) (hroot : ¬ b.root.isSome = true)
    (h : b.epilog? cs = some rest) : EndsAtBracket cs rest := by
  induction b, cs using epilog?.induct with
  | case1 b cs hclosed => exact absurd hclosed hroot
  | case2 b _ =>
      rw [epilog?_nil b hroot] at h
      exact absurd h.symm (Option.some_ne_none _)
  | case3 b _ c cs e hadvance =>
      rw [epilog?_cons b c cs hroot, hadvance] at h
      exact absurd h.symm (Option.some_ne_none _)
  | case4 b _ c cs next rest' hadvance ih =>
      rw [epilog?_cons b c cs hroot, hadvance] at h
      by_cases hclosed : next.root.isSome = true
      · -- This piece closes the document element, and so it is markup.
        simp only [epilog?_closed next rest' hclosed] at h
        obtain rfl := Option.some.inj h
        rcases advance_cases b next c cs rest' hadvance with ⟨rfl, m, hpiece, -⟩ | ⟨-, hstep, -⟩
        · exact (piece_split cs rest' m hpiece).behind ['<']
        · exact absurd (root_of_step_text b next _ hstep ▸ hclosed) hroot
      · obtain ⟨front, hfront⟩ := advance_split b next c cs rest' hadvance
        exact hfront ▸ (ih hclosed h).behind front

end Builder

/-- What follows the document element of a text, if there is one. -/
def epilog? (cs : List Char) : Option (List Char) :=
  Builder.start.epilog? (withoutMark cs)

/-- A text that holds a document has an epilog. -/
theorem isSome_epilog?_of_parseChars (cs : List Char) (root : Element)
    (h : parseChars cs = .ok root) : (epilog? cs).isSome = true := by
  unfold parseChars at h
  split at h
  · exact absurd h (by simp only [reduceCtorEq, not_false_eq_true])
  · rename_i b hrun
    refine Builder.isSome_epilog?_of_run _ b _ hrun ?_
    unfold Builder.finish at h
    split at h
    · exact absurd h (by simp only [reduceCtorEq, not_false_eq_true])
    · rename_i e _ hroot
      rw [hroot, Option.isSome_some]
    · exact absurd h (by simp only [reduceCtorEq, not_false_eq_true])

/-- The document element ends at a bracket. -/
theorem epilog?_split (cs rest : List Char) (h : epilog? cs = some rest) :
    EndsAtBracket cs rest := by
  have hmark : ∃ mark, cs = mark ++ withoutMark cs := by
    unfold withoutMark
    split
    · exact ⟨['\uFEFF'], rfl⟩
    · exact ⟨[], rfl⟩
  obtain ⟨mark, hmark⟩ := hmark
  rw [hmark]
  exact (Builder.start.epilog?_split _ rest Bool.false_ne_true h).behind mark

/-- What is put behind a text is put behind its epilog. -/
theorem epilog?_append (cs rest more : List Char) (hne : cs ≠ []) (h : epilog? cs = some rest) :
    epilog? (cs ++ more) = some (rest ++ more) := by
  rw [epilog?, withoutMark_append cs more hne]
  exact Builder.epilog?_append _ _ rest more h

/-- There is no document in nothing. -/
theorem parseChars_nil : parseChars [] = .error .empty := by
  unfold parseChars withoutMark
  rw [scan]
  rfl

/-- What is left of a text that ends with its document element is no document. -/
theorem exists_error_of_cutShort (cut whole : List Char) (h : CutShort cut whole)
    (hends : epilog? whole = some []) : ∃ e, parseChars cut = .error e := by
  cases hparse : parseChars cut with
  | error e => exact ⟨e, rfl⟩
  | ok root =>
      have hne : cut ≠ [] := by
        rintro rfl
        rw [parseChars_nil] at hparse
        exact absurd hparse (by simp only [reduceCtorEq, not_false_eq_true])
      have hsome := isSome_epilog?_of_parseChars cut root hparse
      obtain ⟨rest, hrest⟩ := Option.isSome_iff_exists.mp hsome
      -- What was cut off would be in the epilog of the whole text.
      obtain ⟨⟨more, rfl⟩, hdiffers⟩ := h
      have hbehind := Option.some.inj (hends.symm.trans (epilog?_append cut rest more hne hrest))
      have hmore := (List.append_eq_nil_iff.mp hbehind.symm).2
      exact absurd (by rw [hmore, List.append_nil]) hdiffers

end Xml

end SamlConformance
