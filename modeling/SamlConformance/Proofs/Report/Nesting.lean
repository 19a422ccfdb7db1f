import Mathlib.Data.Prod.Lex
import SamlConformance.Proofs.Report.Views

/-!
# Nested Sections Side by Side

A report asks again and again for what is nested in a section, and it goes through its sections
in order. The two fit together: what is nested in a section stands next to it, so that a list of
sections in report order is the text of a document with its chapters, and a chapter is a stretch
of it.

This is not so for every order and every kind of nesting. It needs a section to stand before
what is nested in it, and it needs a section between two others to be nested wherever both of
them are. The second is where the order of paths comes in. Paths are compared number by number,
not as they are written, and two paths with the same beginning leave no room between them for a
path with another one.

From there on, sections are not needed. A list that is sorted in any way is cut in three by a
property that holds between any two elements for which it holds.

## Theorems

* `exists_block`: What a sorted list is cut into by such a property.
* `Section.le_iff_toLex_le`: The report order is lexicographic.
* `Section.le_of_isWithin`: A section stands before what is nested in it.
* `Section.isWithin_of_between`: Between two sections of a third, all are nested in that one.
* `Section.exists_block_within`: The same of lists that are sorted by their sections.
* `Report.lines_within`: The lines of a report about one section and what is nested in it.
* `Section.nested_in_order`: Nesting is an order, and sorting keeps together what is nested.
-/

namespace SamlConformance

/-- A property that holds between any two elements for which it holds cuts a sorted list into
what comes before, the elements for which it holds, and what comes behind. -/
theorem exists_block {α : Type} (r : α → α → Prop) (p : α → Bool)
    (hbetween : ∀ x y z, r x y → r y z → p x = true → p z = true → p y = true)
    (xs : List α) (h : xs.Pairwise r) :
    ∃ before behind, xs = before ++ xs.filter p ++ behind ∧
      ∀ x ∈ before ++ behind, p x = false := by
  induction xs with
  | nil => exact ⟨[], [], rfl, fun x hx => absurd hx List.not_mem_nil⟩
  | cons x xs ih =>
      rw [List.pairwise_cons] at h
      obtain ⟨before, behind, hxs, hothers⟩ := ih h.2
      cases hx : p x with
      | false =>
          -- The block is where it was, and the element comes before it.
          refine ⟨x :: before, behind, ?_, List.forall_mem_cons.mpr ⟨hx, hothers⟩⟩
          rw [List.filter_cons_of_neg (by rw [hx]; exact Bool.false_ne_true), List.cons_append,
            List.cons_append, ← hxs]
      | true =>
          rw [List.filter_cons_of_pos hx]
          cases hblock : xs.filter p with
          | nil =>
              -- Nothing else has the property, so it does not matter where the list is cut.
              rw [List.filter_eq_nil_iff] at hblock
              exact ⟨[], xs, rfl, fun y hy => Bool.eq_false_iff.mpr (hblock y hy)⟩
          | cons z zs =>
              -- What comes before the others that have it would stand between two that do.
              have hnone : before = [] := by
                rw [List.eq_nil_iff_forall_not_mem]
                intro y hy
                have hz : z ∈ xs.filter p := hblock ▸ List.mem_cons_self
                have hyz : r y z := by
                  have hsorted := h.2
                  rw [hxs, List.append_assoc, List.pairwise_append] at hsorted
                  exact hsorted.2.2 y hy z (List.mem_append_left behind hz)
                have hyxs : y ∈ xs := by
                  rw [hxs, List.append_assoc]
                  exact List.mem_append_left _ hy
                have hpy := hbetween x y z (h.1 y hyxs) hyz hx (List.mem_filter.mp hz).2
                exact absurd (hothers y (List.mem_append_left behind hy))
                  (Bool.eq_false_iff.not.mpr (not_not.mpr hpy))
              rw [hnone, List.nil_append, hblock] at hxs
              rw [hnone] at hothers
              refine ⟨[], behind, ?_, hothers⟩
              rw [List.nil_append, List.cons_append, ← hxs]

namespace Section

theorem pathLe_iff_le (as bs : List UInt16) : pathLe as bs = true ↔ as ≤ bs := by
  induction as generalizing bs with
  | nil => exact iff_of_true rfl (List.nil_le bs)
  | cons a as ih =>
      cases bs with
      | nil => exact iff_of_false Bool.false_ne_true (List.not_le.mpr (List.nil_lt_cons a as))
      | cons b bs => rw [pathLe_cons_iff, List.cons_le_cons_iff, ih]

/-- Sections are compared as pairs of a document and a path, each of them lexicographically. -/
theorem le_iff_toLex_le (s t : Section) : s.le t = true ↔
    toLex (s.document.rank, s.path) ≤ toLex (t.document.rank, t.path) := by
  have hrank : s.document = t.document ↔ s.document.rank = t.document.rank :=
    ⟨congrArg Document.rank, Document.rank_inj⟩
  rw [le_iff, Prod.Lex.toLex_le_toLex, pathLe_iff_le, hrank]

/-- Paths between two with the same beginning begin like these. -/
theorem prefix_of_between (common as bs cs : List UInt16) (hab : pathLe as bs = true)
    (hbc : pathLe bs cs = true) (has : common <+: as) (hcs : common <+: cs) : common <+: bs := by
  -- By induction on the beginning, of which each number is compared with one in between.
  induction common generalizing as bs cs with
  | nil => exact List.nil_prefix
  | cons n common ih =>
      obtain ⟨as, rfl⟩ := has
      obtain ⟨cs, rfl⟩ := hcs
      cases bs with
      | nil => exact absurd hab Bool.false_ne_true
      | cons b bs =>
          rw [List.cons_append, pathLe_cons_iff] at hab hbc
          -- The number of the path in between is neither smaller nor greater.
          rcases hab with hlt | ⟨rfl, hab⟩
          · rcases hbc with hgt | ⟨rfl, -⟩
            · exact absurd hgt (UInt16.lt_asymm hlt)
            · exact absurd hlt (UInt16.lt_irrefl _)
          · rcases hbc with hgt | ⟨-, hbc⟩
            · exact absurd hgt (UInt16.lt_irrefl _)
            · exact List.cons_prefix_cons.mpr ⟨rfl, ih _ bs _ hab hbc (List.prefix_append _ _)
                (List.prefix_append _ _)⟩

/-- Two sections that are nested in one another are the same. -/
theorem isWithin_antisymm (s t : Section) (hst : s.isWithin t = true)
    (hts : t.isWithin s = true) : s = t := by
  rcases s with ⟨d, path⟩
  rcases t with ⟨e, path'⟩
  rw [isWithin_iff] at hst hts
  have hdocument : d = e := hst.1
  have hpath : path = path' := hts.2.eq_of_length (Nat.le_antisymm hts.2.length_le hst.2.length_le)
  rw [hdocument, hpath]

/-- A section stands before what is nested in it. -/
theorem le_of_isWithin (t s : Section) (h : t.isWithin s = true) : s.le t = true := by
  rw [isWithin_iff] at h
  exact (le_iff s t).mpr (Or.inr ⟨h.1.symm, (pathLe_iff_le _ _).mpr h.2.le⟩)

/-- Between two sections that are nested in a third, all are nested in that one. -/
theorem isWithin_of_between (x y z a : Section) (hxy : x.le y = true) (hyz : y.le z = true)
    (hx : x.isWithin a = true) (hz : z.isWithin a = true) : y.isWithin a = true := by
  rw [isWithin_iff] at hx hz ⊢
  rw [le_iff] at hxy hyz
  have hranks : x.document.rank = z.document.rank := by rw [hx.1, hz.1]
  rcases hxy with hxy | ⟨hdocument, hxy⟩
  · -- The document would have to come behind that of the one and not behind that of the other.
    rcases hyz with hyz | ⟨hdocument, -⟩
    · omega
    · rw [hdocument] at hxy
      omega
  · rcases hyz with hyz | ⟨-, hyz⟩
    · rw [← hdocument] at hyz
      omega
    · exact ⟨hdocument.symm.trans hx.1, prefix_of_between _ _ _ _ hxy hyz hx.2 hz.2⟩

/-- In a list that is sorted by section, what is about one section and those nested in it stands
together. -/
theorem exists_block_within {α : Type} (place : α → Section) (xs : List α)
    (h : xs.Pairwise fun x y => (place x).le (place y) = true) (a : Section) :
    ∃ before behind, xs = before ++ (xs.filter fun x => (place x).isWithin a) ++ behind ∧
      ∀ x ∈ before ++ behind, (place x).isWithin a = false :=
  exists_block _ _ (fun x y z => isWithin_of_between (place x) (place y) (place z) a) xs h

/-- If the section itself is in the list, it is the first of them. -/
theorem head?_within (ss : List Section) (h : ss.Pairwise fun s t => s.le t = true) (a : Section)
    (ha : a ∈ ss) : (ss.filter fun s => s.isWithin a).head? = some a := by
  have hself : a.isWithin a = true := (isWithin_iff a a).mpr ⟨rfl, List.prefix_rfl⟩
  have hmem : a ∈ ss.filter fun s => s.isWithin a := List.mem_filter.mpr ⟨ha, hself⟩
  have hsorted := h.filter fun s => s.isWithin a
  cases hblock : ss.filter fun s => s.isWithin a with
  | nil =>
      rw [hblock] at hmem
      exact absurd hmem List.not_mem_nil
  | cons s block =>
      rw [hblock] at hmem hsorted
      rcases List.mem_cons.mp hmem with rfl | hlater
      · rfl
      · -- The first one is nested in the section, and so not before it either.
        have hs : s ∈ ss.filter fun s => s.isWithin a := hblock ▸ List.mem_cons_self
        have hsa := (List.pairwise_cons.mp hsorted).1 a hlater
        rw [le_antisymm a s (le_of_isWithin s a (List.mem_filter.mp hs).2) hsa, List.head?_cons]

end Section

/-- The lines of a report about a section and what is nested in it stand together, and that of
the section itself is the first of them if there is one. -/
theorem Report.lines_within (r : Report) (a : Section) :
    let block := r.lines.filter fun l => l.place.isWithin a
    (∃ before behind, r.lines = before ++ block ++ behind ∧
      ∀ l ∈ before ++ behind, l.place.isWithin a = false) ∧
    (a ∈ r.knownSections → block.head?.map Line.place = some a) := by
  intro block
  have hsorted : r.lines.Pairwise fun l m => l.place.le m.place = true :=
    (List.pairwise_map.mp r.places_before).imp And.left
  refine ⟨Section.exists_block_within Line.place r.lines hsorted a, ?_⟩
  intro ha
  have hplaces : r.knownSections.Pairwise fun s t => s.le t = true :=
    r.places_eq ▸ List.pairwise_map.mpr hsorted
  have hhead := Section.head?_within r.knownSections hplaces a ha
  rw [← r.places_eq, List.filter_map, List.head?_map] at hhead
  exact hhead

/-- Nesting is an order of its own, and it goes with the report order, which is lexicographic: a
section stands before what is nested in it, and between two sections of a third there are only
sections of that one. So in every sorted list of distinct sections, those of any section form one
block, and it begins with the section itself if that is in the list. -/
theorem Section.nested_in_order :
    (∀ s t : Section, s.le t = true ↔
      toLex (s.document.rank, s.path) ≤ toLex (t.document.rank, t.path)) ∧
    (∀ s : Section, s.isWithin s = true) ∧
    (∀ t s a : Section, t.isWithin s = true → s.isWithin a = true → t.isWithin a = true) ∧
    (∀ s t : Section, s.isWithin t = true → t.isWithin s = true → s = t) ∧
    (∀ t s : Section, t.isWithin s = true → s.le t = true) ∧
    (∀ x y z a : Section, x.le y = true → y.le z = true → x.isWithin a = true →
      z.isWithin a = true → y.isWithin a = true) ∧
    ∀ ss : List Section, (ss.Pairwise fun s t => s.le t = true) → ss.Nodup → ∀ a : Section,
      ∃ before block behind, ss = before ++ block ++ behind ∧
        (∀ s ∈ block, s.isWithin a = true) ∧ (∀ s ∈ before ++ behind, s.isWithin a = false) ∧
        (a ∈ ss → ∃ rest, block = a :: rest ∧ a ∉ rest) := by
  refine ⟨le_iff_toLex_le, fun s => (isWithin_iff s s).mpr ⟨rfl, List.prefix_rfl⟩, isWithin_trans,
    isWithin_antisymm, le_of_isWithin, isWithin_of_between, ?_⟩
  intro ss hsorted hdistinct a
  obtain ⟨before, behind, hss, hothers⟩ := exists_block_within id ss hsorted a
  refine ⟨before, ss.filter fun s => s.isWithin a, behind, hss, ?_, hothers, ?_⟩
  · exact fun s hs => (List.mem_filter.mp hs).2
  · intro ha
    obtain ⟨rest, hrest⟩ := List.head?_eq_some_iff.mp (head?_within ss hsorted a ha)
    refine ⟨rest, hrest, ?_⟩
    have hnodup := hdistinct.filter fun s => s.isWithin a
    rw [hrest, List.nodup_cons] at hnodup
    exact hnodup.1

/-- A chapter with the least and the greatest number in it, between its neighbours. -/
def Section.aroundChapter : List Section :=
  [⟨.core, []⟩, ⟨.core, [2, 65535]⟩, ⟨.core, [3]⟩, ⟨.core, [3, 0]⟩, ⟨.core, [3, 65535, 1]⟩,
    ⟨.core, [4]⟩, ⟨.bindings, [3]⟩]

theorem Section.nested_in_order_aroundChapter :
    (Section.mk .core [3]).le ⟨.core, [3, 0]⟩ = true ∧
    (Section.mk .core [3, 0]).isWithin ⟨.core, [3]⟩ = true ∧
    (Section.mk .core [3, 65535, 1]).isWithin ⟨.core, []⟩ = true ∧
    (aroundChapter.Pairwise fun s t => s.le t = true) ∧ aroundChapter.Nodup ∧
    ∃ before block behind, aroundChapter = before ++ block ++ behind ∧
      (∀ s ∈ block, s.isWithin ⟨.core, [3]⟩ = true) ∧
      (∀ s ∈ before ++ behind, s.isWithin ⟨.core, [3]⟩ = false) ∧
      ∃ rest, block = ⟨.core, [3]⟩ :: rest ∧ ⟨.core, [3]⟩ ∉ rest := by
  obtain ⟨-, -, htrans, -, hbefore, hbetween, hblock⟩ := nested_in_order
  have hsorted : aroundChapter.Pairwise fun s t => s.le t = true := by decide
  have hdistinct : aroundChapter.Nodup := by decide
  obtain ⟨before, block, behind, hall, hin, hout, hfirst⟩ :=
    hblock aroundChapter hsorted hdistinct ⟨.core, [3]⟩
  exact ⟨hbefore ⟨.core, [3, 0]⟩ ⟨.core, [3]⟩ (by decide),
    hbetween ⟨.core, [3]⟩ ⟨.core, [3, 0]⟩ ⟨.core, [3, 65535, 1]⟩ ⟨.core, [3]⟩ (by decide)
      (by decide) (by decide) (by decide),
    htrans ⟨.core, [3, 65535, 1]⟩ ⟨.core, [3]⟩ ⟨.core, []⟩ (by decide) (by decide),
    hsorted, hdistinct, before, block, behind, hall, hin, hout, hfirst (by decide)⟩

end SamlConformance
