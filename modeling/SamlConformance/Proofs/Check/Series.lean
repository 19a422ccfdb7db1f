import SamlConformance.Proofs.Check.Apart
import SamlConformance.Proofs.Judge.Status
import SamlConformance.Report.Render

/-!
# A Series of Tests

What a series of tests leaves in a fresh report, read off the list of captures. The report
takes the judgments in order, and there is none from a capture that could not be judged: to
the report it is as if such a capture was not in the list.

Order matters in one place only. Where several captures count against one section, the
section shows the violation that came first. Which sections show one does not depend on
this, and neither does which sections were checked: these are the sections of any violation,
and of any check, in any of the captures. Outcomes and the number of sections follow from
the two alone.

## Main definitions

* `Checkup.found?`: The judgment that a capture adds to a report.
* `Ledger.add`: A ledger with a judgment added.

## Theorems

* `Report.toLedger_add`: A judgment is added to the ledger alone.
* `Checkup.toLedger_report`: The report takes the judgments in order.
* `Checkup.toLedger_report_filter`: What could not be judged may as well be left out.
* `Checkup.report_iff`: What holds after a series, from what each test brings about.
* `Checkup.mem_keys_report`, `mem_exercised_report`: Which sections show something.
* `Report.status_congr`, `sectionCount_congr`: What follows from these sections.
* `Checkup.series`: All of it, for any list of captures.
-/

namespace SamlConformance

namespace Ledger

/-- The ledger with a judgment added: checked sections first, then the violations. -/
def add (l : Ledger) (j : Judgment) : Ledger :=
  j.violations.foldl record (j.sections.foldl exercise l)

theorem keys_foldl_exercise (l : Ledger) (ss : List Section) :
    (ss.foldl exercise l).keys = l.keys := by
  induction ss generalizing l with
  | nil => rfl
  | cons s ss ih =>
      rw [List.foldl_cons, ih]
      unfold exercise
      split
      · rfl
      · rfl

theorem nodup_keys_foldl_record (l : Ledger) (vs : List Violation) (h : l.keys.Nodup) :
    (vs.foldl record l).keys.Nodup := by
  induction vs generalizing l with
  | nil => exact h
  | cons v vs ih => exact ih _ (nodup_keys_record l v h)

/-- No section gets a second entry. -/
theorem nodup_keys_add (l : Ledger) (j : Judgment) (h : l.keys.Nodup) : (l.add j).keys.Nodup :=
  nodup_keys_foldl_record _ _ ((keys_foldl_exercise l j.sections).symm ▸ h)

end Ledger

namespace Report

theorem toLedger_exerciseAll (r : Report) (ss : List Section) :
    (r.exerciseAll ss).toLedger = ss.foldl Ledger.exercise r.toLedger := by
  induction ss generalizing r with
  | nil => rfl
  | cons s ss ih => exact ih (r.exercise s)

theorem toLedger_recordAll (r : Report) (w : Worker) (vs : List Violation) :
    (r.recordAll w vs).toLedger = vs.foldl Ledger.record r.toLedger := by
  induction vs generalizing r with
  | nil => rfl
  | cons v vs ih => exact ih (r.record w v)

/-- A judgment is added to the ledger, whatever the lists of the workers are. -/
theorem toLedger_add (r : Report) (w : Worker) (j : Judgment) :
    (r.add w j).toLedger = r.toLedger.add j := by
  rw [add, toLedger_recordAll, toLedger_exerciseAll, Ledger.add]

/-- What is printed is in the ledger. -/
theorem render_congr (r r' : Report) (h : r.toLedger = r'.toLedger) (quiet : Bool) :
    r.render quiet = r'.render quiet := by
  rcases r with ⟨l, current⟩
  rcases r' with ⟨l', current'⟩
  have hl : l = l' := h
  subst hl
  rfl

/-- Outcomes follow from the sections that show something. -/
theorem status_congr (r r' : Report) (hkeys : ∀ s, s ∈ r.keys ↔ s ∈ r'.keys)
    (hexercised : ∀ s, s ∈ r.exercised ↔ s ∈ r'.exercised) (s : Section) :
    r.status s = r'.status s := by
  have hstatus : ∀ x : Report, x.status s = .ofAnswers (x.keys.any fun t => t.isWithin s)
      (x.exercised.any fun t => t.isWithin s) := by
    intro x
    rw [Ledger.keys, List.any_map]
    rfl
  have hholds : (r.keys.any fun t => t.isWithin s) = r'.keys.any fun t => t.isWithin s := by
    rw [Bool.eq_iff_iff, List.any_eq_true, List.any_eq_true]
    simp only [hkeys]
  have hchecked : (r.exercised.any fun t => t.isWithin s) =
      r'.exercised.any fun t => t.isWithin s := by
    rw [Bool.eq_iff_iff, List.any_eq_true, List.any_eq_true]
    simp only [hexercised]
  rw [hstatus, hstatus, hholds, hchecked]

theorem sectionCount_congr (r r' : Report) (h : r.keys.Nodup) (h' : r'.keys.Nodup)
    (hkeys : ∀ s, s ∈ r.keys ↔ s ∈ r'.keys) : r.sectionCount = r'.sectionCount := by
  have hlength := ((List.perm_ext_iff_of_nodup h h').mpr hkeys).length_eq
  rwa [Ledger.keys, Ledger.keys, List.length_map, List.length_map] at hlength

end Report

namespace Checkup

section

variable (u : Checkup)

/-- The judgment that a capture adds to a report. -/
def found? (f : CaptureFile) : Option Judgment :=
  (u.examine f).toOption.map Prod.snd

theorem found?_eq_none_iff (f : CaptureFile) :
    u.found? f = none ↔ (u.row f).verdict = .error := by
  unfold found? row
  cases u.examine f with
  | error e => exact ⟨fun _ => rfl, fun _ => rfl⟩
  | ok examined =>
      rcases examined with ⟨name, j⟩
      cases hempty : j.violations.isEmpty with
      | true => simp only [hempty, Except.toOption, Option.map_some, reduceCtorEq, if_true]
      | false =>
          simp only [hempty, Except.toOption, Option.map_some, reduceCtorEq, Bool.false_eq_true,
            if_false]

theorem recordTest_eq (w : Worker) (r : Report) (f : CaptureFile) :
    u.recordTest w r f = match u.found? f with
      | some j => (r.beginTest w).add w j
      | none => r.beginTest w := by
  unfold recordTest found?
  cases u.examine f with
  | error e => rfl
  | ok examined => rfl

theorem toLedger_recordTest (w : Worker) (r : Report) (f : CaptureFile) :
    (u.recordTest w r f).toLedger = match u.found? f with
      | some j => r.toLedger.add j
      | none => r.toLedger := by
  rw [recordTest_eq]
  cases u.found? f with
  | none => rfl
  | some j => exact (r.beginTest w).toLedger_add w j

/-- A capture that could not be judged leaves the ledger as it was. -/
theorem toLedger_recordTest_of_error (w : Worker) (r : Report) (f : CaptureFile)
    (h : (u.row f).verdict = .error) : (u.recordTest w r f).toLedger = r.toLedger := by
  rw [toLedger_recordTest, (u.found?_eq_none_iff f).mpr h]

/-- The report takes the judgments in order. -/
theorem toLedger_report (w : Worker) (r : Report) (fs : List CaptureFile) :
    (u.report w r fs).toLedger = (fs.filterMap u.found?).foldl Ledger.add r.toLedger := by
  unfold report
  induction fs generalizing r with
  | nil => rfl
  | cons f fs ih =>
      rw [List.foldl_cons, ih, toLedger_recordTest]
      cases hfound : u.found? f with
      | none => rw [List.filterMap_cons_none hfound]
      | some j => rw [List.filterMap_cons_some hfound, List.foldl_cons]

/-- What could not be judged may as well be left out. -/
theorem toLedger_report_filter (w : Worker) (r : Report) (fs : List CaptureFile)
    (keep : CaptureFile → Bool) (h : ∀ f ∈ fs, keep f = false → (u.row f).verdict = .error) :
    (u.report w r (fs.filter keep)).toLedger = (u.report w r fs).toLedger := by
  rw [toLedger_report, toLedger_report, List.filterMap_filter]
  congr 1
  refine List.filterMap_congr fun f hf => ?_
  cases hkeep : keep f with
  | true => rfl
  | false => exact ((u.found?_eq_none_iff f).mpr (h f hf hkeep)).symm

/-- What each test can bring about holds after a series if it held before or one of the
captures brought it about. -/
theorem report_iff (w : Worker) (P : Report → Prop) (Q : CaptureFile → Prop)
    (hstep : ∀ r f, P (u.recordTest w r f) ↔ P r ∨ Q f) (r : Report) (fs : List CaptureFile) :
    P (u.report w r fs) ↔ P r ∨ ∃ f ∈ fs, Q f := by
  unfold report
  induction fs generalizing r with
  | nil => simp only [List.foldl_nil, List.not_mem_nil, false_and, exists_false, or_false]
  | cons f fs ih => rw [List.foldl_cons, ih, hstep, List.exists_mem_cons_iff, or_assoc]

/-- The sections that hold an entry after a series of tests. -/
theorem mem_keys_report (w : Worker) (r : Report) (fs : List CaptureFile) (s : Section) :
    s ∈ (u.report w r fs).keys ↔
      s ∈ r.keys ∨ ∃ f ∈ fs, ∃ j ∈ u.found? f, ∃ v ∈ j.violations, s ∈ v.sections := by
  refine u.report_iff w (fun r => s ∈ r.keys) _ ?_ r fs
  intro r f
  rw [recordTest_eq]
  cases u.found? f with
  | none =>
      simp only [Option.not_mem_none, false_and, exists_false, or_false]
      exact Iff.rfl
  | some j =>
      have hmarked : ((r.beginTest w).exerciseAll j.sections).keys = r.keys := by
        rw [Ledger.keys, Report.entries_exerciseAll]
        rfl
      simp only [Report.add, Report.mem_keys_recordAll, hmarked, Option.mem_def,
        Option.some.injEq, exists_eq_left']

/-- The sections that are checked after a series of tests. -/
theorem mem_exercised_report (w : Worker) (r : Report) (fs : List CaptureFile) (s : Section) :
    s ∈ (u.report w r fs).exercised ↔
      s ∈ r.exercised ∨ ∃ f ∈ fs, ∃ j ∈ u.found? f, s ∈ j.sections := by
  refine u.report_iff w (fun r => s ∈ r.exercised) _ ?_ r fs
  intro r f
  rw [recordTest_eq]
  cases u.found? f with
  | none =>
      simp only [Option.not_mem_none, false_and, exists_false, or_false]
      exact Iff.rfl
  | some j =>
      simp only [((r.beginTest w).gained_add w j).exercised, Option.mem_def,
        Option.some.injEq, exists_eq_left']
      exact Iff.rfl

theorem nodup_keys_report (w : Worker) (r : Report) (fs : List CaptureFile)
    (h : r.keys.Nodup) : (u.report w r fs).keys.Nodup := by
  have hledger : ∀ (js : List Judgment) (l : Ledger), l.keys.Nodup →
      (js.foldl Ledger.add l).keys.Nodup := by
    intro js
    induction js with
    | nil => exact fun l hl => hl
    | cons j js ih => exact fun l hl => ih _ (l.nodup_keys_add j hl)
  rw [toLedger_report]
  exact hledger _ r.toLedger h

end

/-- Tests of any captures, one after another on one report. There is one row for each, which
depends on its file and on nothing that was tested before; its verdict tells whether nothing
was found, something was found, or a step failed. Captures that could not be judged leave
the ledger as it was, so that without them the report comes out the same, in print as well.
And where the captures are tested in another order, the rows are in that order, and as many
sections hold a violation, and all sections have the same outcome. -/
theorem series (u : Checkup) (w : Worker) (fs : List CaptureFile) :
    (∀ w' r, (u.check w' r fs).1 = fs.map fun f => (u.test w .empty f).1) ∧
    (∀ r f,
      ((u.test w r f).1.verdict = .pass ↔ ∃ c request received, u.Ready f c request received ∧
        (Session.run { report := r.beginTest w } u.judge w received request).1 = .ok []) ∧
      ((u.test w r f).1.verdict = .fail ↔ ∃ c request received, u.Ready f c request received ∧
        ∃ v vs, (Session.run { report := r.beginTest w } u.judge w received request).1 =
          .ok (v :: vs)) ∧
      ((u.test w r f).1.verdict = .error ↔ u.Unready f ∨
        ∃ c request received, u.Ready f c request received ∧
          ∃ e, (Session.run { report := r.beginTest w } u.judge w received request).1 =
            .error e) ∧
      ((u.test w r f).1.verdict = .error → (u.test w r f).2.toLedger = r.toLedger)) ∧
    (∀ keep : CaptureFile → Bool,
      (∀ f ∈ fs, keep f = false → (u.test w .empty f).1.verdict = .error) →
        (u.check w .empty (fs.filter keep)).2.toLedger = (u.check w .empty fs).2.toLedger ∧
        ∀ quiet, (u.check w .empty (fs.filter keep)).2.render quiet =
          (u.check w .empty fs).2.render quiet) ∧
    ∀ gs, fs.Perm gs →
      (u.check w .empty fs).1.Perm (u.check w .empty gs).1 ∧
      (u.check w .empty fs).2.sectionCount = (u.check w .empty gs).2.sectionCount ∧
      ∀ s, (u.check w .empty fs).2.status s = (u.check w .empty gs).2.status s := by
  refine ⟨?_, ?_, ?_, ?_⟩
  · intro w' r
    rw [check_eq]
    simp only [test_eq]
    rfl
  · intro r f
    refine ⟨u.verdict_pass_iff w r f, u.verdict_fail_iff w r f, u.verdict_error_iff w r f, ?_⟩
    rw [test_eq]
    exact u.toLedger_recordTest_of_error w r f
  · intro keep hkeep
    simp only [test_eq] at hkeep
    have hledger := u.toLedger_report_filter w .empty fs keep hkeep
    rw [check_eq, check_eq]
    exact ⟨hledger, Report.render_congr _ _ hledger⟩
  · intro gs hperm
    have hkeys : ∀ s, s ∈ (u.report w .empty fs).keys ↔ s ∈ (u.report w .empty gs).keys := by
      intro s
      simp only [mem_keys_report, hperm.mem_iff]
    have hexercised : ∀ s,
        s ∈ (u.report w .empty fs).exercised ↔ s ∈ (u.report w .empty gs).exercised := by
      intro s
      simp only [mem_exercised_report, hperm.mem_iff]
    have hempty : Report.empty.keys.Nodup := List.nodup_nil
    rw [check_eq, check_eq]
    exact ⟨hperm.map u.row, Report.sectionCount_congr _ _ (u.nodup_keys_report w _ fs hempty)
      (u.nodup_keys_report w _ gs hempty) hkeys, Report.status_congr _ _ hkeys hexercised⟩

/-- A checkup without an address for responses, which passes over error pages. -/
def lenientCheckup : Checkup where
  config := { lenient := true }
  metadata := { entityId := "https://idp.example.com" }
  responder := .generic

/-- Files whose tests fail in each of the four steps, behind one that finds something and one
that is passed over. -/
def captureFiles : List CaptureFile :=
  [⟨"empty.json", .ok "\x7b\"binding\":\"redirect\",\"status\":302,\"request_id\":\"_1\",\"acs_url\":\"/\"\x7d"⟩,
    ⟨"page.json", .ok "\x7b\"binding\":\"post\",\"status\":500,\"request_id\":\"_2\",\"acs_url\":\"/\"\x7d"⟩,
    ⟨"gone.json", .error .notFound⟩, ⟨"broken.json", .ok "\x7bnot json"⟩,
    ⟨"nowhere.json", .ok "\x7b\"binding\":\"post\",\"status\":200,\"request_id\":\"_3\"\x7d"⟩,
    ⟨"encoded.json", .ok "\x7b\"binding\":\"redirect\",\"status\":302,\"request_id\":\"_4\",\"acs_url\":\"/\",\"location\":\"?SAMLEncoding=a:b&SAMLResponse=AA\"\x7d"⟩]

/-- The last four leave nothing behind, and the report is the one without them; tested in the
opposite order, all of them come out the same. -/
theorem series_captureFiles :
    (lenientCheckup.check 0 .empty captureFiles).1.map CheckRow.verdict =
        [.fail, .pass, .error, .error, .error, .error] ∧
      (lenientCheckup.check 0 .empty (captureFiles.take 2)).2.toLedger =
        (lenientCheckup.check 0 .empty captureFiles).2.toLedger ∧
      (lenientCheckup.check 0 .empty captureFiles.reverse).1.Perm
        (lenientCheckup.check 0 .empty captureFiles).1 ∧
      (lenientCheckup.check 0 .empty captureFiles.reverse).2.sectionCount = 1 := by
  rcases lenientCheckup.series 0 captureFiles with ⟨hrows, -, hfilter, hperm⟩
  have hverdicts : ∀ f ∈ captureFiles, (lenientCheckup.test 0 .empty f).1.verdict =
      if f.path = "empty.json" then .fail else if f.path = "page.json" then .pass
        else .error := by decide +kernel
  have hkept : captureFiles.take 2 = captureFiles.filter fun f =>
      f.path = "empty.json" ∨ f.path = "page.json" := by rfl
  have hledger := (hfilter (fun f => f.path = "empty.json" ∨ f.path = "page.json") (by
    intro f hf hkeep
    have hneither := not_or.mp (of_decide_eq_false hkeep)
    rw [hverdicts f hf, if_neg hneither.1, if_neg hneither.2])).1
  rw [← hkept] at hledger
  have hreversed := hperm captureFiles.reverse captureFiles.reverse_perm.symm
  refine ⟨?_, hledger, hreversed.1.symm, ?_⟩
  · rw [hrows, List.map_map]
    exact List.map_congr_left hverdicts
  · rw [← hreversed.2.1, Report.sectionCount, ← hledger]
    decide +kernel

end Checkup

end SamlConformance
