import Mathlib.Data.List.Infix
import SamlConformance.Xml.Markup

/-!
# Scanning Goes from Left to Right

A piece of markup is read up to where it ends, and no character behind its end is looked
at. So whatever is put behind a text, the pieces that end inside stay what they are; only
a piece that was not closed yet, or a stretch of text at the very end, can go on into what
is put there.

Comments and sections of literal text can hold anything but the three characters that
close them. The first two of these are equal and differ from the third, so that the
closing characters cannot begin inside the content and end outside.

## Theorems

* `cutAt_append`, `cutTag_append`, `cutDeclaration_append`: What was cut off stays cut off.
* `piece_append`: A piece of markup stays the same whatever follows it.
* `cutAt_closing`: Content is cut off at the characters that close it.
* `scan_markup`, `scan_fault`, `scan_text`: The pieces of a text from its front.
* `scan_comment`, `scan_literal`: A comment is no piece, a section of literal text is one.
-/

namespace SamlConformance

namespace Text

theorem length_le_of_cutAt (word cs before rest : List Char)
    (h : cutAt word cs = some (before, rest)) : word.length ≤ cs.length := by
  induction cs generalizing before with
  | nil =>
      rw [cutAt] at h
      by_cases hword : word.isEmpty = true
      · exact Nat.le_of_eq (congrArg List.length (List.isEmpty_iff.mp hword))
      · rw [if_neg hword] at h
        exact absurd h.symm (Option.some_ne_none _)
  | cons c cs ih =>
      rw [cutAt] at h
      by_cases hword : word.isPrefixOf (c :: cs) = true
      · exact (List.isPrefixOf_iff_prefix.mp hword).length_le
      · rw [if_neg hword] at h
        obtain ⟨⟨before', rest'⟩, hcut, heq⟩ := Option.map_eq_some_iff.mp h
        obtain ⟨-, rfl⟩ := Prod.mk.inj heq
        exact Nat.le_succ_of_le (ih before' hcut)

/-- The first occurrence of a word is found whatever follows it. -/
theorem cutAt_append (word cs before rest more : List Char)
    (h : cutAt word cs = some (before, rest)) :
    cutAt word (cs ++ more) = some (before, rest ++ more) := by
  induction cs generalizing before with
  | nil =>
      rw [cutAt] at h
      by_cases hword : word.isEmpty = true
      · rw [if_pos hword] at h
        obtain ⟨rfl, rfl⟩ := Prod.mk.inj (Option.some.inj h)
        rw [List.isEmpty_iff.mp hword]
        cases more <;> rfl
      · rw [if_neg hword] at h
        exact absurd h.symm (Option.some_ne_none _)
  | cons c cs ih =>
      rw [cutAt] at h
      rw [List.cons_append, cutAt]
      by_cases hword : word.isPrefixOf (c :: cs) = true
      · have hlonger : word.isPrefixOf (c :: (cs ++ more)) = true := by
          rw [← List.cons_append]
          exact List.isPrefixOf_iff_prefix.mpr
            ((List.isPrefixOf_iff_prefix.mp hword).trans (List.prefix_append _ _))
        rw [if_pos hword] at h
        obtain ⟨rfl, rfl⟩ := Prod.mk.inj (Option.some.inj h)
        rw [if_pos hlonger, ← List.cons_append, List.drop_append_of_le_length
          (List.isPrefixOf_iff_prefix.mp hword).length_le]
      · rw [if_neg hword] at h
        obtain ⟨⟨before', rest'⟩, hcut, heq⟩ := Option.map_eq_some_iff.mp h
        obtain ⟨rfl, rfl⟩ := Prod.mk.inj heq
        -- The word is found further on, so there is room for it here already.
        have hroom := length_le_of_cutAt word cs before' rest' hcut
        have hshorter : ¬ word.isPrefixOf (c :: (cs ++ more)) = true := by
          intro hlonger
          rw [← List.cons_append] at hlonger
          exact hword (List.isPrefixOf_iff_prefix.mpr (List.prefix_of_prefix_length_le
            (List.isPrefixOf_iff_prefix.mp hlonger) (List.prefix_append _ _)
            (Nat.le_succ_of_le hroom)))
        rw [if_neg hshorter, ih before' hcut, Option.map_some]

/-- Content is cut off at the characters that close it. -/
theorem cutAt_closing (a z : Char) (haz : a ≠ z) (content rest : List Char)
    (h : ¬ [a, a, z] <:+: content) :
    cutAt [a, a, z] (content ++ a :: a :: z :: rest) = some (content, rest) := by
  induction content with
  | nil =>
      have hhere : [a, a, z].isPrefixOf (a :: a :: z :: rest) = true :=
        List.isPrefixOf_iff_prefix.mpr ⟨rest, rfl⟩
      rw [List.nil_append, cutAt, if_pos hhere]
      rfl
  | cons c content ih =>
      have hclosed : ¬ [a, a, z].isPrefixOf (c :: (content ++ a :: a :: z :: rest)) = true := by
        intro hbegins
        obtain ⟨more, hmore⟩ := List.isPrefixOf_iff_prefix.mp hbegins
        simp only [List.cons_append, List.nil_append, List.cons.injEq] at hmore
        -- Either all three characters are content, or the last of them is one of the first.
        rcases content with _ | ⟨d, _ | ⟨e, content⟩⟩
        · simp only [List.nil_append, List.cons.injEq] at hmore
          exact haz hmore.2.2.1.symm
        · simp only [List.cons_append, List.nil_append, List.cons.injEq] at hmore
          exact haz hmore.2.2.1.symm
        · simp only [List.cons_append, List.cons.injEq] at hmore
          obtain ⟨rfl, rfl, rfl, -⟩ := hmore
          exact h (List.prefix_append [a, a, z] content).isInfix
      rw [List.cons_append, cutAt, if_neg hclosed,
        ih fun hcontent => h (hcontent.trans (List.suffix_cons c content).isInfix), Option.map_some]

/-- A stretch of text and what follows it are told apart by the first separator. -/
theorem span_separator (sep : Char) (cs rest : List Char) (hcs : sep ∉ cs)
    (hrest : ∀ c ∈ rest.head?, c = sep) :
    (cs ++ rest).takeWhile (· ≠ sep) = cs ∧ (cs ++ rest).dropWhile (· ≠ sep) = rest := by
  have hall : ∀ d ∈ cs, decide (d ≠ sep) = true := by
    intro d hd
    exact decide_eq_true fun heq => hcs (heq ▸ hd)
  have hstop : rest.takeWhile (· ≠ sep) = [] ∧ rest.dropWhile (· ≠ sep) = rest := by
    cases rest with
    | nil => exact ⟨rfl, rfl⟩
    | cons d rest =>
        have hsep : ¬ decide (sep ≠ sep) = true := fun h => of_decide_eq_true h rfl
        rw [hrest d rfl]
        exact ⟨List.takeWhile_cons_of_neg hsep, List.dropWhile_cons_of_neg hsep⟩
  rw [List.takeWhile_append_of_pos hall, List.dropWhile_append_of_pos hall, hstop.1, hstop.2,
    List.append_nil]
  exact ⟨rfl, rfl⟩

theorem span_at (sep : Char) (cs rest : List Char) (hcs : sep ∉ cs) :
    (cs ++ sep :: rest).takeWhile (· ≠ sep) = cs ∧
      (cs ++ sep :: rest).dropWhile (· ≠ sep) = sep :: rest :=
  span_separator sep cs (sep :: rest) hcs fun _ hc => (Option.some.inj hc).symm

theorem span_all (sep : Char) (cs : List Char) (hcs : sep ∉ cs) :
    cs.takeWhile (· ≠ sep) = cs ∧ cs.dropWhile (· ≠ sep) = [] := by
  have hspan := span_separator sep cs [] hcs fun c hc => absurd hc (Option.not_mem_none c)
  rwa [List.append_nil] at hspan

end Text

namespace Xml

theorem cutTag_append (quote : Option Char) (cs inside rest more : List Char)
    (h : cutTag quote cs = some (inside, rest)) :
    cutTag quote (cs ++ more) = some (inside, rest ++ more) := by
  induction cs generalizing quote inside with
  | nil => cases quote <;> exact absurd h.symm (Option.some_ne_none _)
  | cons c cs ih =>
      -- Inside and outside of quotes the rest of the tag is cut in the same way.
      have hgo : ∀ q, (cutTag q cs).map (fun r => (c :: r.1, r.2)) = some (inside, rest) →
          (cutTag q (cs ++ more)).map (fun r => (c :: r.1, r.2)) =
            some (inside, rest ++ more) := by
        intro q hq
        obtain ⟨⟨inside', rest'⟩, hcut, heq⟩ := Option.map_eq_some_iff.mp hq
        obtain ⟨rfl, rfl⟩ := Prod.mk.inj heq
        rw [ih q inside' hcut, Option.map_some]
      cases quote with
      | none =>
          rw [cutTag] at h
          rw [List.cons_append, cutTag]
          by_cases hc : c = '>'
          · rw [if_pos hc] at h
            obtain ⟨rfl, rfl⟩ := Prod.mk.inj (Option.some.inj h)
            rw [if_pos hc]
          · rw [if_neg hc] at h
            rw [if_neg hc]
            exact hgo _ h
      | some q =>
          rw [cutTag] at h
          rw [List.cons_append, cutTag]
          exact hgo _ h

theorem cutDeclaration_append (depth : Nat) (cs inside rest more : List Char)
    (h : cutDeclaration depth cs = some (inside, rest)) :
    cutDeclaration depth (cs ++ more) = some (inside, rest ++ more) := by
  induction cs generalizing depth inside with
  | nil => exact absurd h.symm (Option.some_ne_none _)
  | cons c cs ih =>
      have hgo : ∀ d, (cutDeclaration d cs).map (fun r => (c :: r.1, r.2)) = some (inside, rest) →
          (cutDeclaration d (cs ++ more)).map (fun r => (c :: r.1, r.2)) =
            some (inside, rest ++ more) := by
        intro d hd
        obtain ⟨⟨inside', rest'⟩, hcut, heq⟩ := Option.map_eq_some_iff.mp hd
        obtain ⟨rfl, rfl⟩ := Prod.mk.inj heq
        rw [ih d inside' hcut, Option.map_some]
      rw [List.cons_append]
      unfold cutDeclaration at h ⊢
      by_cases hopen : c = '<'
      · rw [if_pos hopen] at h
        rw [if_pos hopen]
        exact hgo _ h
      · rw [if_neg hopen] at h
        rw [if_neg hopen]
        by_cases hclose : c = '>'
        · rw [if_pos hclose] at h
          rw [if_pos hclose]
          cases depth with
          | zero =>
              obtain ⟨rfl, rfl⟩ := Prod.mk.inj (Option.some.inj h)
              rfl
          | succ d => exact hgo d h
        · rw [if_neg hclose] at h
          rw [if_neg hclose]
          exact hgo _ h

theorem comment_append (cs rest more : List Char) (h : comment cs = .ok rest) :
    comment (cs ++ more) = .ok (rest ++ more) := by
  cases cs with
  | nil => exact absurd h (by simp only [comment, reduceCtorEq, not_false_eq_true])
  | cons c cs =>
      rw [comment] at h
      rw [List.cons_append, comment]
      cases hcut : Text.cutAt "-->".toList cs with
      | none =>
          rw [hcut] at h
          exact absurd h (by simp only [reduceCtorEq, not_false_eq_true])
      | some r =>
          rw [hcut] at h
          rw [Text.cutAt_append _ _ _ _ more hcut]
          by_cases hc : c = '-'
          · simp only [if_pos hc] at h ⊢
            rw [Except.ok.inj h]
          · simp only [if_neg hc] at h
            exact absurd h (by simp only [reduceCtorEq, not_false_eq_true])

theorem literal_append (cs content rest more : List Char) (h : literal cs = .ok (content, rest)) :
    literal (cs ++ more) = .ok (content, rest ++ more) := by
  unfold literal at h ⊢
  by_cases hword : "CDATA[".toList.isPrefixOf cs = true
  · have hbegins := List.isPrefixOf_iff_prefix.mp hword
    have hlonger : "CDATA[".toList.isPrefixOf (cs ++ more) = true :=
      List.isPrefixOf_iff_prefix.mpr (hbegins.trans (List.prefix_append _ _))
    have hlength : 6 ≤ cs.length := hbegins.length_le
    rw [if_pos hword] at h
    rw [if_pos hlonger, List.drop_append_of_le_length hlength]
    cases hcut : Text.cutAt "]]>".toList (cs.drop 6) with
    | none =>
        rw [hcut] at h
        exact absurd h (by simp only [reduceCtorEq, not_false_eq_true])
    | some r =>
        rw [hcut] at h
        obtain ⟨rfl, rfl⟩ := Prod.mk.inj (Except.ok.inj h)
        rw [Text.cutAt_append _ _ _ _ more hcut]
  · rw [if_neg hword] at h
    exact absurd h (by simp only [reduceCtorEq, not_false_eq_true])

theorem doctype_append (cs rest more : List Char) (h : doctype cs = .ok rest) :
    doctype (cs ++ more) = .ok (rest ++ more) := by
  unfold doctype at h ⊢
  cases hcut : cutDeclaration 0 cs with
  | none =>
      rw [hcut] at h
      exact absurd h (by simp only [reduceCtorEq, not_false_eq_true])
  | some r =>
      obtain ⟨inside, rest'⟩ := r
      rw [cutDeclaration_append 0 cs inside rest' more hcut]
      simp only [hcut] at h ⊢
      by_cases hword : (inside.take 7).map Char.toUpper = "DOCTYPE".toList
      · rw [if_pos hword] at h ⊢
        by_cases hblank : (inside.drop 7).all isBlank = true
        · rw [if_pos hblank] at h
          exact absurd h (by simp only [reduceCtorEq, not_false_eq_true])
        · rw [if_neg hblank] at h ⊢
          rw [Except.ok.inj h]
      · rw [if_neg hword] at h
        exact absurd h (by simp only [reduceCtorEq, not_false_eq_true])

theorem instruction_cons (c : Char) (cs : List Char) (hc : c ≠ '>') :
    instruction (c :: cs) = match Text.cutAt "?>".toList (c :: cs) with
      | some (_, rest) => .ok rest
      | none => .error .openInstruction := by
  unfold instruction
  split
  · rename_i heq
    exact absurd (List.cons.inj heq).1 hc
  · rfl

theorem instruction_append (cs rest more : List Char) (h : instruction cs = .ok rest) :
    instruction (cs ++ more) = .ok (rest ++ more) := by
  rcases cs with _ | ⟨c, cs⟩
  · exact absurd h (by simp [instruction, Text.cutAt])
  by_cases hc : c = '>'
  · subst hc
    exact absurd h (by simp only [instruction, reduceCtorEq, not_false_eq_true])
  rw [instruction_cons c cs hc] at h
  rw [List.cons_append, instruction_cons c _ hc, ← List.cons_append]
  cases hcut : Text.cutAt "?>".toList (c :: cs) with
  | none =>
      rw [hcut] at h
      exact absurd h (by simp only [reduceCtorEq, not_false_eq_true])
  | some r =>
      simp only [hcut] at h
      rw [Text.cutAt_append _ _ _ _ more hcut, ← Except.ok.inj h]

theorem piece_tag (c : Char) (cs : List Char) (hdeclaration : c ≠ '!') (hinstruction : c ≠ '?')
    (hclosing : c ≠ '/') :
    piece (c :: cs) = match cutTag none (c :: cs) with
      | some (inside, rest) => .ok (some (.ofTag inside), rest)
      | none => .error .openTag := by
  unfold piece
  split <;> rename_i heq
  iterate 5 exact absurd (List.cons.inj heq).1 hdeclaration
  · exact absurd (List.cons.inj heq).1 hinstruction
  · exact absurd (List.cons.inj heq).1 hclosing
  · rfl

theorem exists_of_map_eq_ok {α β ε : Type} {x : Except ε α} {f : α → β} {b : β}
    (h : x.map f = .ok b) : ∃ a, x = .ok a ∧ f a = b := by
  cases x with
  | error e => exact absurd h (by simp only [Except.map, reduceCtorEq, not_false_eq_true])
  | ok a => exact ⟨a, rfl, Except.ok.inj h⟩

theorem tag_append (f : List Char → Markup) (cs rest more : List Char) (m : Option Markup)
    (h : (match cutTag none cs with
      | some (inside, rest) => Except.ok (some (f inside), rest)
      | none => .error MarkupFault.openTag) = .ok (m, rest)) :
    (match cutTag none (cs ++ more) with
      | some (inside, rest) => Except.ok (some (f inside), rest)
      | none => .error MarkupFault.openTag) = .ok (m, rest ++ more) := by
  cases hcut : cutTag none cs with
  | none =>
      rw [hcut] at h
      exact absurd h (by simp only [reduceCtorEq, not_false_eq_true])
  | some r =>
      obtain ⟨inside, rest'⟩ := r
      simp only [hcut] at h
      rw [cutTag_append none cs inside rest' more hcut]
      obtain ⟨rfl, rfl⟩ := Prod.mk.inj (Except.ok.inj h)
      rfl

/-- A piece of markup stays the same whatever follows it. -/
theorem piece_append (cs rest more : List Char) (m : Option Markup)
    (h : piece cs = .ok (m, rest)) : piece (cs ++ more) = .ok (m, rest ++ more) := by
  -- The first characters tell what the piece is, and these are there in any case.
  unfold piece at h
  split at h
  · rename_i cs
    obtain ⟨⟨content, rest'⟩, hread, heq⟩ := exists_of_map_eq_ok h
    obtain ⟨rfl, rfl⟩ := Prod.mk.inj heq
    exact congrArg (Except.map _) (literal_append cs content rest' more hread)
  · rename_i cs
    obtain ⟨rest', hread, heq⟩ := exists_of_map_eq_ok h
    obtain ⟨rfl, rfl⟩ := Prod.mk.inj heq
    exact congrArg (Except.map _) (comment_append cs rest' more hread)
  · rename_i cs
    obtain ⟨rest', hread, heq⟩ := exists_of_map_eq_ok h
    obtain ⟨rfl, rfl⟩ := Prod.mk.inj heq
    exact congrArg (Except.map _) (doctype_append ('D' :: cs) rest' more hread)
  · rename_i cs
    obtain ⟨rest', hread, heq⟩ := exists_of_map_eq_ok h
    obtain ⟨rfl, rfl⟩ := Prod.mk.inj heq
    exact congrArg (Except.map _) (doctype_append ('d' :: cs) rest' more hread)
  · exact absurd h (by simp only [reduceCtorEq, not_false_eq_true])
  · rename_i cs
    obtain ⟨rest', hread, heq⟩ := exists_of_map_eq_ok h
    obtain ⟨rfl, rfl⟩ := Prod.mk.inj heq
    exact congrArg (Except.map _) (instruction_append cs rest' more hread)
  · rename_i cs
    exact tag_append .closing cs rest more m h
  · rename_i hliteral hcomment hD hd hdeclaration hinstruction hclosing
    rcases cs with _ | ⟨c, cs⟩
    · exact absurd h (by simp only [cutTag, reduceCtorEq, not_false_eq_true])
    rw [List.cons_append, piece_tag c (cs ++ more) (fun hc => hdeclaration cs (hc ▸ rfl))
      (fun hc => hinstruction cs (hc ▸ rfl)) (fun hc => hclosing cs (hc ▸ rfl))]
    exact tag_append .ofTag (c :: cs) rest more m h

theorem scan_markup (cs rest : List Char) (m : Option Markup) (h : piece cs = .ok (m, rest)) :
    scan ('<' :: cs) = (m.map Except.ok).toList ++ scan rest := by
  rw [scan, if_pos rfl]
  split
  · rename_i f hf
    exact absurd (hf.symm.trans h) (by simp only [reduceCtorEq, not_false_eq_true])
  · rename_i m' rest' hok
    obtain ⟨rfl, rfl⟩ := Prod.mk.inj (Except.ok.inj (hok.symm.trans h))
    rfl

theorem scan_fault (cs : List Char) (f : MarkupFault) (h : piece cs = .error f) :
    scan ('<' :: cs) = [.error f] := by
  rw [scan, if_pos rfl]
  split
  · rename_i f' hf
    rw [Except.error.inj (hf.symm.trans h)]
  · rename_i m rest hok
    exact absurd (hok.symm.trans h) (by simp only [reduceCtorEq, not_false_eq_true])

/-- Text goes up to the next markup. -/
theorem scan_text (cs rest : List Char) (hcs : cs ≠ []) (htext : '<' ∉ cs)
    (hrest : ∀ c ∈ rest.head?, c = '<') : scan (cs ++ rest) = .ok (.text cs) :: scan rest := by
  rcases cs with _ | ⟨c, cs⟩
  · exact absurd rfl hcs
  have hc : c ≠ '<' := fun heq => htext (heq ▸ List.mem_cons_self)
  obtain ⟨htake, hdrop⟩ :=
    Text.span_separator '<' cs rest (fun hmem => htext (List.mem_cons_of_mem c hmem)) hrest
  rw [List.cons_append, scan, if_neg hc, htake, hdrop]

/-- A comment is no piece. -/
theorem scan_comment (content rest : List Char) (h : ¬ "-->".toList <:+: content) :
    scan ("<!--".toList ++ content ++ "-->".toList ++ rest) = scan rest := by
  have hopen : "<!--".toList = ['<', '!', '-', '-'] := rfl
  have hclose : "-->".toList = ['-', '-', '>'] := rfl
  have hcut := Text.cutAt_closing '-' '>' (by decide) content rest h
  have hcomment : comment ('-' :: (content ++ '-' :: '-' :: '>' :: rest)) = .ok rest := by
    simp only [comment, hclose, hcut, if_true]
  have hpiece : piece ('!' :: '-' :: '-' :: (content ++ '-' :: '-' :: '>' :: rest)) =
      .ok (none, rest) :=
    congrArg (Except.map _) hcomment
  have hscan := scan_markup _ rest none hpiece
  rw [hopen, hclose]
  simp only [List.cons_append, List.nil_append, List.append_assoc]
  exact hscan

/-- A section of literal text is a piece. -/
theorem scan_literal (content rest : List Char) (h : ¬ "]]>".toList <:+: content) :
    scan ("<![CDATA[".toList ++ content ++ "]]>".toList ++ rest) =
      .ok (.literal content) :: scan rest := by
  have hopen : "<![CDATA[".toList = ['<', '!', '[', 'C', 'D', 'A', 'T', 'A', '['] := rfl
  have hword : "CDATA[".toList = ['C', 'D', 'A', 'T', 'A', '['] := rfl
  have hclose : "]]>".toList = [']', ']', '>'] := rfl
  have hcut := Text.cutAt_closing ']' '>' (by decide) content rest h
  have hliteral : literal ("CDATA[".toList ++ (content ++ ']' :: ']' :: '>' :: rest)) =
      .ok (content, rest) := by
    have hbegins : "CDATA[".toList.isPrefixOf
        ("CDATA[".toList ++ (content ++ ']' :: ']' :: '>' :: rest)) = true :=
      List.isPrefixOf_iff_prefix.mpr (List.prefix_append _ _)
    have hdrop : ("CDATA[".toList ++ (content ++ ']' :: ']' :: '>' :: rest)).drop 6 =
        content ++ ']' :: ']' :: '>' :: rest := rfl
    rw [literal, if_pos hbegins, hdrop, hclose, hcut]
  have hpiece : piece ('!' :: '[' :: ("CDATA[".toList ++ (content ++ ']' :: ']' :: '>' :: rest))) =
      .ok (some (.literal content), rest) :=
    congrArg (Except.map _) hliteral
  have hscan := scan_markup _ rest _ hpiece
  rw [hword] at hscan
  rw [hopen, hclose]
  simp only [List.cons_append, List.nil_append, List.append_assoc] at hscan ⊢
  exact hscan

end Xml

end SamlConformance
