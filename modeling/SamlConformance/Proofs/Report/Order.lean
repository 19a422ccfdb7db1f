import Mathlib.Data.List.Nodup
import SamlConformance.Proofs.Report.Recording

/-!
# Sections in Report Order

The views of a report sort sections, drop repeated ones and pick out those that are nested
in a section. What they show can be compared because the order is a total one: a list of
sections without repetitions can be sorted in one way only, and what is taken out of a sorted
list is sorted. A report is printed document by document, which is a way to write a sorted
list in pieces.

Nesting is an order as well, and a section counts for all that it is nested in.

## Main definitions

* `Section.Before`: A section stands before another in the report order.

## Theorems

* `Section.isWithin_trans`: What is nested in a nested section is nested.
* `Section.le_trans`, `Section.le_antisymm`, `Section.le_total`: The report order is total.
* `pairwise_before`: Sorted and without repetitions, sections stand before one another.
* `eq_of_before`: There is one way to sort sections.
* `flatMap_documents`: A sorted list is the lists of its documents, one behind the other.
-/

namespace SamlConformance

namespace Section

theorem isWithin_iff (s outer : Section) :
    s.isWithin outer = true ↔ s.document = outer.document ∧ outer.path <+: s.path := by
  rw [isWithin, Bool.and_eq_true, beq_iff_eq, List.isPrefixOf_iff_prefix]

/-- What is nested in a nested section is nested. -/
theorem isWithin_trans (t s outer : Section) (hts : t.isWithin s = true)
    (hs : s.isWithin outer = true) : t.isWithin outer = true := by
  rw [isWithin_iff] at hts hs ⊢
  exact ⟨hts.1.trans hs.1, hs.2.trans hts.2⟩

theorem pathLe_cons_iff (a b : UInt16) (as bs : List UInt16) :
    pathLe (a :: as) (b :: bs) = true ↔ a < b ∨ a = b ∧ pathLe as bs = true := by
  simp only [pathLe, Bool.or_eq_true, decide_eq_true_eq, Bool.and_eq_true, beq_iff_eq]

theorem pathLe_trans (as bs cs : List UInt16) (hab : pathLe as bs = true)
    (hbc : pathLe bs cs = true) : pathLe as cs = true := by
  induction as generalizing bs cs with
  | nil => rfl
  | cons a as ih =>
      rcases bs with _ | ⟨b, bs⟩
      · exact absurd hab Bool.false_ne_true
      rcases cs with _ | ⟨c, cs⟩
      · exact absurd hbc Bool.false_ne_true
      rw [pathLe_cons_iff] at hab hbc ⊢
      -- The first difference of either pair is the first of the outer one.
      rcases hab with hab | ⟨rfl, hab⟩
      · rcases hbc with hbc | ⟨rfl, -⟩
        · exact Or.inl (UInt16.lt_trans hab hbc)
        · exact Or.inl hab
      · rcases hbc with hbc | ⟨rfl, hbc⟩
        · exact Or.inl hbc
        · exact Or.inr ⟨rfl, ih bs cs hab hbc⟩

theorem pathLe_antisymm (as bs : List UInt16) (hab : pathLe as bs = true)
    (hba : pathLe bs as = true) : as = bs := by
  induction as generalizing bs with
  | nil =>
      rcases bs with _ | ⟨b, bs⟩
      · rfl
      · exact absurd hba Bool.false_ne_true
  | cons a as ih =>
      rcases bs with _ | ⟨b, bs⟩
      · exact absurd hab Bool.false_ne_true
      rw [pathLe_cons_iff] at hab hba
      rcases hab with hlt | ⟨rfl, hab⟩
      · rcases hba with hgt | ⟨rfl, -⟩
        · exact absurd hgt (UInt16.lt_asymm hlt)
        · exact absurd hlt (UInt16.lt_irrefl _)
      · rcases hba with hgt | ⟨-, hba⟩
        · exact absurd hgt (UInt16.lt_irrefl _)
        · rw [ih bs hab hba]

theorem pathLe_total (as bs : List UInt16) : pathLe as bs = true ∨ pathLe bs as = true := by
  induction as generalizing bs with
  | nil => exact Or.inl rfl
  | cons a as ih =>
      rcases bs with _ | ⟨b, bs⟩
      · exact Or.inr rfl
      rw [pathLe_cons_iff, pathLe_cons_iff]
      by_cases hlt : a < b
      · exact Or.inl (Or.inl hlt)
      · rcases UInt16.lt_or_eq_of_le (UInt16.not_lt.mp hlt) with hgt | rfl
        · exact Or.inr (Or.inl hgt)
        · rcases ih bs with hle | hle
          · exact Or.inl (Or.inr ⟨rfl, hle⟩)
          · exact Or.inr (Or.inr ⟨rfl, hle⟩)

theorem le_iff (s t : Section) : s.le t = true ↔
    s.document.rank < t.document.rank ∨ s.document = t.document ∧ pathLe s.path t.path = true := by
  rw [le, Bool.or_eq_true, decide_eq_true_eq, Bool.and_eq_true, beq_iff_eq]

theorem le_trans (s t u : Section) (hst : s.le t = true) (htu : t.le u = true) :
    s.le u = true := by
  rw [le_iff] at hst htu ⊢
  rcases hst with hst | ⟨hdocument, hst⟩
  · rcases htu with htu | ⟨hdocument, -⟩
    · exact Or.inl (Nat.lt_trans hst htu)
    · exact Or.inl (hdocument ▸ hst)
  · rcases htu with htu | ⟨hdocument', htu⟩
    · exact Or.inl (hdocument ▸ htu)
    · exact Or.inr ⟨hdocument.trans hdocument', pathLe_trans _ _ _ hst htu⟩

theorem le_antisymm (s t : Section) (hst : s.le t = true) (hts : t.le s = true) : s = t := by
  rw [le_iff] at hst hts
  rcases hst with hst | ⟨hdocument, hst⟩
  · rcases hts with hts | ⟨hdocument, -⟩
    · exact absurd hts (Nat.lt_asymm hst)
    · exact absurd hst (by rw [hdocument]; exact Nat.lt_irrefl _)
  · rcases hts with hts | ⟨-, hts⟩
    · exact absurd hts (by rw [hdocument]; exact Nat.lt_irrefl _)
    · rcases s with ⟨document, path⟩
      rcases t with ⟨document', path'⟩
      have hpath : path = path' := pathLe_antisymm path path' hst hts
      have hsame : document = document' := hdocument
      rw [hpath, hsame]

theorem le_total (s t : Section) : (s.le t || t.le s) = true := by
  rw [Bool.or_eq_true, le_iff, le_iff]
  rcases Nat.lt_trichotomy s.document.rank t.document.rank with hlt | heq | hgt
  · exact Or.inl (Or.inl hlt)
  · have hdocument := Document.rank_inj heq
    rcases pathLe_total s.path t.path with hle | hle
    · exact Or.inl (Or.inr ⟨hdocument, hle⟩)
    · exact Or.inr (Or.inr ⟨hdocument.symm, hle⟩)
  · exact Or.inr (Or.inl hgt)

/-- The section stands before another in the report order. -/
def Before (s t : Section) : Prop :=
  s.le t = true ∧ s ≠ t

theorem not_before_of_before (s t : Section) (hst : s.Before t) : ¬ t.Before s := by
  intro hts
  exact hst.2 (le_antisymm s t hst.1 hts.1)

end Section

/-- Sections without repetitions stand before one another once they are sorted. -/
theorem pairwise_before (ss : List Section) (h : ss.Nodup) :
    (ss.mergeSort Section.le).Pairwise Section.Before :=
  (List.pairwise_mergeSort Section.le_trans Section.le_total ss).and
    ((List.mergeSort_perm ss Section.le).nodup_iff.mpr h)

theorem nodup_of_before (ss : List Section) (h : ss.Pairwise Section.Before) : ss.Nodup :=
  h.imp And.right

/-- There is one way to sort sections. -/
theorem eq_of_before (ss ts : List Section) (hss : ss.Pairwise Section.Before)
    (hts : ts.Pairwise Section.Before) (h : ∀ s, s ∈ ss ↔ s ∈ ts) : ss = ts := by
  have hperm := (List.perm_ext_iff_of_nodup (nodup_of_before ss hss) (nodup_of_before ts hts)).mpr h
  refine hperm.eq_of_pairwise ?_ hss hts
  intro s t _ _ hst hts
  exact absurd hts (Section.not_before_of_before s t hst)

/-- A sorted list is the lists of its documents, one behind the other. -/
theorem flatMap_documents (ss : List Section) (h : ss.Pairwise Section.Before) :
    (Document.all.flatMap fun d => ss.filter fun s => s.document == d) = ss := by
  refine eq_of_before _ _ (List.pairwise_flatMap.mpr ⟨fun d _ => h.filter _, ?_⟩) h ?_
  · -- Documents are listed by rank, and the rank comes first in the order.
    have hranks : Document.all.Pairwise fun d e => d.rank < e.rank := by decide
    refine hranks.imp ?_
    intro d e hrank s hs t ht
    have hsd := beq_iff_eq.mp (List.mem_filter.mp hs).2
    have hte := beq_iff_eq.mp (List.mem_filter.mp ht).2
    rw [← hsd, ← hte] at hrank
    refine ⟨(Section.le_iff s t).mpr (Or.inl hrank), ?_⟩
    rintro rfl
    exact absurd hrank (Nat.lt_irrefl _)
  · intro s
    have hall : ∀ d : Document, d ∈ Document.all := by
      intro d
      cases d <;> decide
    rw [List.mem_flatMap]
    constructor
    · rintro ⟨d, -, hs⟩
      exact (List.mem_filter.mp hs).1
    · intro hs
      exact ⟨s.document, hall _, List.mem_filter.mpr ⟨hs, beq_self_eq_true _⟩⟩

theorem nodup_eraseDups {α : Type} [BEq α] [LawfulBEq α] (xs : List α) : xs.eraseDups.Nodup := by
  induction hn : xs.length using Nat.strongRecOn generalizing xs with
  | ind n ih =>
      cases xs with
      | nil => exact List.nodup_nil
      | cons x xs =>
          rw [List.eraseDups_cons, List.nodup_cons, List.mem_eraseDups]
          refine ⟨?_, ?_⟩
          · intro hmem
            have hx := (List.mem_filter.mp hmem).2
            rw [beq_self_eq_true, Bool.not_true] at hx
            exact absurd hx Bool.false_ne_true
          · refine ih _ ?_ _ rfl
            have hlength := List.length_filter_le (fun b => !b == x) xs
            rw [List.length_cons] at hn
            omega

end SamlConformance
