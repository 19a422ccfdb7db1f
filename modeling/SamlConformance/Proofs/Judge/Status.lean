import SamlConformance.Proofs.Judge.Accounting
import SamlConformance.Proofs.Report.History

/-!
# What a Judgment Does to a Status

The outcome of a section is read off what a report holds and what was checked, nested
sections included. Two questions decide it, whether anything within the section holds a
violation and whether anything within it was checked, and both are answered anew by each
judgment. So a judgment alone gives every section an outcome, as if it were a report of its
own, and adding it to a report leaves the graver of two outcomes: of the one that was there
and the one that the judgment gives.

Gravity is also what makes a status depend on so little. A judgment that neither finds nor
checks anything within a section gives the outcome that is less than any other, and leaves
the section as it was.

## Main definitions

* `SectionStatus.graver`: The graver of two outcomes.
* `Judgment.status`: The outcome that a judgment gives a section.

## Theorems

* `Violation.any_within_iff`: Whether violations count within a section.
* `mem_keys_recordAll`: The sections that hold an entry after recording.
* `status_add`: After an addition a section has the graver of the two outcomes.
* `status_add_of_skipped`, `recordingFor?_add_of_skipped`: What an addition leaves alone.
* `Judgment.status_eq_failed_iff`, `Judgment.status_eq_skipped_iff`: The outcomes that a
  judgment gives.
-/

namespace SamlConformance

theorem Section.isWithin_self (s : Section) : s.isWithin s = true := by
  rw [isWithin, beq_self_eq_true, Bool.true_and, List.isPrefixOf_iff_prefix]

namespace SectionStatus

/-- The outcome from the two questions that decide it. -/
def ofAnswers (holds checked : Bool) : SectionStatus :=
  if holds then failed else if checked then successful else skipped

/-- The graver of two outcomes: a failure counts most, and no check least. -/
def graver : SectionStatus → SectionStatus → SectionStatus
  | failed, _ => failed
  | successful, failed => failed
  | successful, _ => successful
  | skipped, s => s

theorem ofAnswers_or (holds checked holds' checked' : Bool) :
    ofAnswers (holds || holds') (checked || checked') =
      (ofAnswers holds checked).graver (ofAnswers holds' checked') := by
  revert holds checked holds' checked'
  decide

theorem graver_skipped (s : SectionStatus) : s.graver skipped = s := by
  cases s <;> rfl

theorem graver_failed (s : SectionStatus) : s.graver failed = failed := by
  cases s <;> rfl

end SectionStatus

namespace Violation

/-- The sections of a violation are those of its clauses. -/
theorem mem_sections (v : Violation) (s : Section) :
    s ∈ v.sections ↔ ∃ c ∈ v.clauses, c.toSection = s := by
  rw [sections, List.mem_eraseDups, List.mem_map]

/-- Violations count within a section if one of their clauses does. -/
theorem any_within_iff (vs : List Violation) (s : Section) :
    (vs.any fun v => v.sections.any fun t => t.isWithin s) = true ↔
      ∃ v ∈ vs, ∃ c ∈ v.clauses, c.toSection.isWithin s = true := by
  simp only [List.any_eq_true, mem_sections, exists_exists_and_eq_and]

end Violation

namespace Judgment

/-- The outcome that the judgment gives a section. -/
def status (j : Judgment) (s : Section) : SectionStatus :=
  .ofAnswers (j.violations.any fun v => v.sections.any fun t => t.isWithin s)
    (j.sections.any fun t => t.isWithin s)

/-- A section fails by a violation that counts against it or within it. -/
theorem status_eq_failed_iff (j : Judgment) (s : Section) :
    j.status s = .failed ↔ ∃ v ∈ j.violations, ∃ c ∈ v.clauses, c.toSection.isWithin s = true := by
  rw [← Violation.any_within_iff, status, SectionStatus.ofAnswers]
  split
  · rename_i hfound
    exact ⟨fun _ => hfound, fun _ => rfl⟩
  · rename_i hnone
    refine ⟨fun h => ?_, fun h => absurd h hnone⟩
    split at h <;> exact absurd h (by simp only [reduceCtorEq, not_false_eq_true])

/-- A section is left out if nothing within it was checked or found at fault. -/
theorem status_eq_skipped_iff (j : Judgment) (s : Section) :
    j.status s = .skipped ↔
      (∀ v ∈ j.violations, ∀ c ∈ v.clauses, ¬ c.toSection.isWithin s = true) ∧
        ∀ t ∈ j.sections, ¬ t.isWithin s = true := by
  have hfailed := j.status_eq_failed_iff s
  have hchecked : (j.sections.any fun t => t.isWithin s) = true ↔
      ∃ t ∈ j.sections, t.isWithin s = true := List.any_eq_true
  constructor
  · intro h
    refine ⟨?_, ?_⟩
    · intro v hv c hc hwithin
      rw [hfailed.mpr ⟨v, hv, c, hc, hwithin⟩] at h
      exact absurd h (by simp only [reduceCtorEq, not_false_eq_true])
    · intro t ht hwithin
      rw [status, hchecked.mpr ⟨t, ht, hwithin⟩] at h
      unfold SectionStatus.ofAnswers at h
      split at h <;> exact absurd h (by simp only [if_true, reduceCtorEq, not_false_eq_true])
  · rintro ⟨hviolations, hsections⟩
    have hnone : (j.sections.any fun t => t.isWithin s) = false := by
      rw [List.any_eq_false]
      exact hsections
    -- Either of the other outcomes has a reason, and there is none.
    cases hs : j.status s with
    | skipped => rfl
    | failed =>
        rcases hfailed.mp hs with ⟨v, hv, c, hc, hwithin⟩
        exact absurd hwithin (hviolations v hv c hc)
    | successful =>
        rw [status, hnone, SectionStatus.ofAnswers] at hs
        split at hs <;>
          exact absurd hs (by simp only [Bool.false_eq_true, if_false, reduceCtorEq,
            not_false_eq_true])

end Judgment

namespace Report

/-- After recording, a section holds an entry if it held one or a violation counts
against it. -/
theorem mem_keys_recordAll (r : Report) (w : Worker) (vs : List Violation) (s : Section) :
    s ∈ (r.recordAll w vs).keys ↔ s ∈ r.keys ∨ ∃ v ∈ vs, s ∈ v.sections := by
  have hkeys : ∀ x : Report, s ∈ x.keys ↔ (x.violationFor? s).isSome = true := by
    intro x
    rw [violationFor?, Option.isSome_map]
    exact Ledger.mem_keys_iff x.toLedger s
  rw [hkeys, hkeys, violationFor?_recordAll, Option.isSome_or, Bool.or_eq_true,
    List.find?_isSome]
  simp only [Violation.mem_sections_iff]

/-- Something within a section holds an entry. -/
theorem any_entries_add (r : Report) (w : Worker) (j : Judgment) (s : Section) :
    ((r.add w j).entries.any fun e => e.1.isWithin s) =
      ((r.entries.any fun e => e.1.isWithin s) ||
        j.violations.any fun v => v.sections.any fun t => t.isWithin s) := by
  have hkeys : ∀ x : Report, (x.entries.any fun e => e.1.isWithin s) =
      x.keys.any fun t => t.isWithin s := by
    intro x
    rw [Ledger.keys, List.any_map]
    rfl
  have hmarked : (r.exerciseAll j.sections).keys = r.keys := by
    rw [Ledger.keys, entries_exerciseAll, Ledger.keys]
  rw [Bool.eq_iff_iff, hkeys, hkeys, Bool.or_eq_true]
  simp only [List.any_eq_true, add, mem_keys_recordAll, hmarked]
  constructor
  · rintro ⟨t, ht | ⟨v, hv, ht⟩, hwithin⟩
    · exact Or.inl ⟨t, ht, hwithin⟩
    · exact Or.inr ⟨v, hv, t, ht, hwithin⟩
  · rintro (⟨t, ht, hwithin⟩ | ⟨v, hv, t, ht, hwithin⟩)
    · exact ⟨t, Or.inl ht, hwithin⟩
    · exact ⟨t, Or.inr ⟨v, hv, ht⟩, hwithin⟩

/-- Something within a section was checked. -/
theorem any_exercised_add (r : Report) (w : Worker) (j : Judgment) (s : Section) :
    ((r.add w j).exercised.any fun t => t.isWithin s) =
      ((r.exercised.any fun t => t.isWithin s) || j.sections.any fun t => t.isWithin s) := by
  rw [Bool.eq_iff_iff, Bool.or_eq_true]
  simp only [List.any_eq_true, (r.gained_add w j).exercised]
  constructor
  · rintro ⟨t, ht | ht, hwithin⟩
    · exact Or.inl ⟨t, ht, hwithin⟩
    · exact Or.inr ⟨t, ht, hwithin⟩
  · rintro (⟨t, ht, hwithin⟩ | ⟨t, ht, hwithin⟩)
    · exact ⟨t, Or.inl ht, hwithin⟩
    · exact ⟨t, Or.inr ht, hwithin⟩

/-- After an addition a section has the graver of the outcome that it had and the outcome
that the judgment gives it. -/
theorem status_add (r : Report) (w : Worker) (j : Judgment) (s : Section) :
    (r.add w j).status s = (r.status s).graver (j.status s) := by
  have hstatus : ∀ x : Report, x.status s = .ofAnswers (x.entries.any fun e => e.1.isWithin s)
      (x.exercised.any fun t => t.isWithin s) := fun _ => rfl
  -- Each of the two questions is answered by the report or by the judgment.
  rw [hstatus, hstatus, any_entries_add, any_exercised_add, SectionStatus.ofAnswers_or]
  rfl

/-- An outcome that a judgment does not speak about stays. -/
theorem status_add_of_skipped (r : Report) (w : Worker) (j : Judgment) (s : Section)
    (h : j.status s = .skipped) : (r.add w j).status s = r.status s := by
  rw [status_add, h, SectionStatus.graver_skipped]

/-- Violations that count against other sections leave what a section holds. -/
theorem recordingFor?_recordAll_of_free (r : Report) (w : Worker) (vs : List Violation)
    (s : Section) (h : ∀ v ∈ vs, s ∉ v.sections) :
    (r.recordAll w vs).recordingFor? s = r.recordingFor? s := by
  induction vs generalizing r with
  | nil => rfl
  | cons v vs ih =>
      rw [recordAll_cons, ih _ fun u hu => h u (List.mem_cons_of_mem v hu), recordingFor?_record,
        if_neg (h v List.mem_cons_self), Option.or_none]

/-- What a section holds stays with its outcome. -/
theorem recordingFor?_add_of_skipped (r : Report) (w : Worker) (j : Judgment) (s : Section)
    (h : j.status s = .skipped) : (r.add w j).recordingFor? s = r.recordingFor? s := by
  rw [Judgment.status_eq_skipped_iff] at h
  have hfree : ∀ v ∈ j.violations, s ∉ v.sections := by
    intro v hv hs
    rcases (v.mem_sections s).mp hs with ⟨c, hc, rfl⟩
    exact h.1 v hv c hc c.toSection.isWithin_self
  rw [add, recordingFor?_recordAll_of_free _ w _ s hfree, recordingFor?_exerciseAll]

end Report

end SamlConformance
