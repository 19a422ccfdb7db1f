import Mathlib.Data.List.Destutter
import SamlConformance.Check
import SamlConformance.Proofs.Judge.Accounting

/-!
# Captures Are Tested Apart

Tests run one after another and write to one report, in which the first violation against a
section stays. So what a test leaves behind could show in those that follow it: in their
rows, if they read the report, and in the report, if a test that fails halfway has written to
it already. Neither happens. A test reads nothing but its own file, and it writes nothing
before it has succeeded, because what was found is handed to the report only once there is a
message to find it in.

So a test on a report is the row of its file together with the judgment on it, added to the
report whatever the report was. The verdict in the row can be told from what judging the
response gave, or from the step before it that failed.

## Main definitions

* `Checkup.Ready`: The steps before judging went well, with these results.
* `Checkup.Unready`: One of these steps failed.
* `Verdict.ofAnswer`: The verdict on what judging a response gave.

## Theorems

* `Checkup.attempt_eq`, `test_eq`, `check_eq`: Tests on a report, said without the report.
* `Checkup.verdict_of_ready`, `verdict_of_unready`: How a test comes out.
* `Checkup.verdict_pass_iff`, `verdict_fail_iff`, `verdict_error_iff`: What verdicts mean.
-/

namespace SamlConformance

/-- Leaving out repetitions is leaving out what is equal to its neighbour. -/
theorem eraseReps_eq_destutter {α : Type} [DecidableEq α] (as : List α) :
    as.eraseReps = as.destutter (· ≠ ·) := by
  -- The loop carries the element it saw last, and what it kept before that in reverse.
  have hloop : ∀ (as kept : List α) (a : α),
      List.eraseRepsBy.loop (fun x y => x == y) a as kept =
        kept.reverse ++ as.destutter' (· ≠ ·) a := by
    intro as
    induction as with
    | nil => intro kept a; rw [List.eraseRepsBy.loop, List.reverse_cons, List.destutter'_nil]
    | cons b as ih =>
        intro kept a
        rw [List.eraseRepsBy.loop]
        by_cases hab : a = b
        · rw [beq_iff_eq.mpr hab, List.destutter'_cons_neg _ (not_not.mpr hab)]
          exact ih kept a
        · rw [beq_eq_false_iff_ne.mpr hab, List.destutter'_cons_pos _ hab]
          refine (ih (a :: kept) b).trans ?_
          rw [List.reverse_cons, List.append_assoc, List.singleton_append]
  cases as with
  | nil => rfl
  | cons a as => exact hloop as [] a

namespace Checkup

/-- Every violation breaches something. -/
theorem breached_eq_nil_iff (vs : List Violation) : breached vs = [] ↔ vs = [] := by
  rw [breached, eraseReps_eq_destutter, List.destutter_eq_nil, List.flatMap_eq_nil_iff]
  constructor
  · intro h
    cases vs with
    | nil => rfl
    | cons v vs => exact absurd (h v List.mem_cons_self) (List.cons_ne_nil _ _)
  · rintro rfl v hv
    exact absurd hv List.not_mem_nil

section

variable (u : Checkup)

/-- The file holds a capture, it is known what was requested, and the response has been
taken apart. -/
structure Ready (f : CaptureFile) (c : Capture) (request : Request) (received : Received) :
    Prop where
  /-- The file holds a capture. -/
  captured : Capture.ofFile f = .ok c
  /-- The request is known. -/
  requested : c.request u.config = .ok request
  /-- The fields have been found. -/
  extracted : u.responder c.binding c.exchange c.relayStateGiven = .ok received

/-- The file cannot be read or holds no capture, the request is not known, or the fields
cannot be found. -/
def Unready (f : CaptureFile) : Prop :=
  (∃ e, Capture.ofFile f = .error e) ∨
    ∃ c, Capture.ofFile f = .ok c ∧
      ((∃ e, c.request u.config = .error e) ∨
        ∃ e, u.responder c.binding c.exchange c.relayStateGiven = .error e)

theorem ready_or_unready (f : CaptureFile) :
    (∃ c request received, u.Ready f c request received) ∨ u.Unready f := by
  cases hcapture : Capture.ofFile f with
  | error e => exact Or.inr (Or.inl ⟨e, hcapture⟩)
  | ok c =>
      cases hrequest : c.request u.config with
      | error e => exact Or.inr (Or.inr ⟨c, hcapture, Or.inl ⟨e, hrequest⟩⟩)
      | ok request =>
          cases hreceived : u.responder c.binding c.exchange c.relayStateGiven with
          | error e => exact Or.inr (Or.inr ⟨c, hcapture, Or.inr ⟨e, hreceived⟩⟩)
          | ok received => exact Or.inl ⟨c, request, received, hcapture, hrequest, hreceived⟩

theorem attempt_of_ready {f : CaptureFile} {c : Capture} {request : Request}
    {received : Received} (h : u.Ready f c request received) (w : Worker) (r : Report) :
    u.attempt w r f = match Session.run { report := r } u.judge w received request with
      | (.error e, s) => (.error (.environment e), s.report)
      | (.ok found, s) => (.ok (c.testName, breached found), s.report) := by
  rcases hrun : Session.run { report := r } u.judge w received request with ⟨answer, s⟩
  cases answer with
  | error e => simp only [attempt, h.captured, h.requested, h.extracted, hrun]
  | ok found => simp only [attempt, h.captured, h.requested, h.extracted, hrun]

/-- What fails before judging leaves the report alone, whatever it holds. -/
theorem attempt_of_unready {f : CaptureFile} (h : u.Unready f) :
    ∃ e, ∀ w r, u.attempt w r f = (.error e, r) := by
  rcases h with ⟨e, he⟩ | ⟨c, hcaptured, ⟨e, he⟩ | ⟨e, he⟩⟩
  · exact ⟨e, fun w r => by simp only [attempt, he]⟩
  · exact ⟨.environment e, fun w r => by simp only [attempt, hcaptured, he]⟩
  · cases hrequest : c.request u.config with
    | error e' =>
        exact ⟨.environment e', fun w r => by simp only [attempt, hcaptured, hrequest]⟩
    | ok request =>
        exact ⟨.environment e.toEnvironment, fun w r => by
          simp only [attempt, hcaptured, hrequest, he]⟩

/-- An attempt on a report is the judgment on the file, added to the report if there is
one. -/
theorem attempt_eq (w : Worker) (r : Report) (f : CaptureFile) :
    u.attempt w r f = match u.examine f with
      | .ok (name, j) => (.ok (name, breached j.violations), r.add w j)
      | .error e => (.error e, r) := by
  unfold attempt examine judgment
  cases hcapture : Capture.ofFile f with
  | error e => rfl
  | ok c =>
      simp only [bind, Except.bind]
      cases hrequest : c.request u.config with
      | error e => rfl
      | ok request =>
          cases hreceived : u.responder c.binding c.exchange c.relayStateGiven with
          | error e => rfl
          | ok received =>
              simp only [Session.run_eq]
              cases u.judge.judge received request with
              | error e => rfl
              | ok j => rfl

/-- A test on a report gives the row of its file, and the report that the judgment on the
file is added to. -/
theorem test_eq (w : Worker) (r : Report) (f : CaptureFile) :
    u.test w r f = (u.row f, u.recordTest w r f) := by
  rw [test, attempt_eq, row, recordTest]
  cases u.examine f with
  | error e => rfl
  | ok examined =>
      rcases examined with ⟨name, j⟩
      cases hids : breached j.violations with
      | nil =>
          have hviolations := (breached_eq_nil_iff _).mp hids
          simp only [hviolations, List.isEmpty_nil, if_true]
          rfl
      | cons id ids =>
          have hviolations : j.violations.isEmpty = false := by
            rw [List.isEmpty_eq_false_iff]
            intro hnil
            rw [(breached_eq_nil_iff _).mpr hnil] at hids
            exact absurd hids.symm (List.cons_ne_nil id ids)
          simp only [hids, hviolations, Bool.false_eq_true, if_false]

/-- A series of tests gives the rows of its files, one by one, and the report that takes the
judgments in order. -/
theorem check_eq (w : Worker) (r : Report) (fs : List CaptureFile) :
    u.check w r fs = (u.rows fs, u.report w r fs) := by
  induction fs generalizing r with
  | nil => rfl
  | cons f fs ih =>
      simp only [check, test_eq, ih]
      rfl

theorem verdict_eq (w : Worker) (r : Report) (f : CaptureFile) :
    (u.test w r f).1.verdict = match (u.attempt w (r.beginTest w) f).1 with
      | .ok (_, []) => .pass
      | .ok (_, _ :: _) => .fail
      | .error _ => .error := by
  unfold test
  rcases u.attempt w (r.beginTest w) f with ⟨answer, r'⟩
  rcases answer with e | ⟨name, _ | ⟨id, ids⟩⟩
  · rfl
  · rfl
  · rfl

end

end Checkup

/-- The verdict on what judging a response gave. -/
def Verdict.ofAnswer : Except EnvironmentError (List Violation) → Verdict
  | .ok [] => .pass
  | .ok (_ :: _) => .fail
  | .error _ => .error

namespace Verdict

theorem ofAnswer_eq_pass_iff (answer : Except EnvironmentError (List Violation)) :
    ofAnswer answer = .pass ↔ answer = .ok [] := by
  rcases answer with e | _ | ⟨v, vs⟩
  · simp only [ofAnswer, reduceCtorEq]
  · simp only [ofAnswer]
  · simp only [ofAnswer, reduceCtorEq, Except.ok.injEq, List.cons_ne_nil]

theorem ofAnswer_eq_fail_iff (answer : Except EnvironmentError (List Violation)) :
    ofAnswer answer = .fail ↔ ∃ v vs, answer = .ok (v :: vs) := by
  rcases answer with e | _ | ⟨v, vs⟩
  · simp only [ofAnswer, reduceCtorEq, exists_false]
  · simp only [ofAnswer, reduceCtorEq, Except.ok.injEq, exists_false]
  · exact ⟨fun _ => ⟨v, vs, rfl⟩, fun _ => rfl⟩

theorem ofAnswer_eq_error_iff (answer : Except EnvironmentError (List Violation)) :
    ofAnswer answer = .error ↔ ∃ e, answer = .error e := by
  rcases answer with e | _ | ⟨v, vs⟩
  · exact ⟨fun _ => ⟨e, rfl⟩, fun _ => rfl⟩
  · simp only [ofAnswer, reduceCtorEq, exists_false]
  · simp only [ofAnswer, reduceCtorEq, exists_false]

end Verdict

namespace Checkup

section

variable (u : Checkup)

/-- The verdict on a response that could be judged is by what was found. -/
theorem verdict_of_ready {f : CaptureFile} {c : Capture} {request : Request}
    {received : Received} (h : u.Ready f c request received) (w : Worker) (r : Report) :
    (u.test w r f).1.verdict = .ofAnswer
      (Session.run { report := r.beginTest w } u.judge w received request).1 := by
  rw [verdict_eq, attempt_of_ready u h]
  rcases Session.run { report := r.beginTest w } u.judge w received request with ⟨answer, s⟩
  rcases answer with e | _ | ⟨v, vs⟩
  · rfl
  · rfl
  · cases hids : breached (v :: vs) with
    | nil => exact absurd ((breached_eq_nil_iff _).mp hids) (List.cons_ne_nil v vs)
    | cons id ids => simp only [hids, Verdict.ofAnswer]

theorem verdict_of_unready {f : CaptureFile} (h : u.Unready f) (w : Worker) (r : Report) :
    (u.test w r f).1.verdict = .error := by
  rcases u.attempt_of_unready h with ⟨e, he⟩
  rw [verdict_eq, he]

/-- Every verdict but an error is on a response that could be judged. -/
theorem verdict_eq_iff (w : Worker) (r : Report) (f : CaptureFile) (v : Verdict)
    (hv : v ≠ .error) :
    (u.test w r f).1.verdict = v ↔ ∃ c request received, u.Ready f c request received ∧
      .ofAnswer (Session.run { report := r.beginTest w } u.judge w received request).1 = v := by
  constructor
  · intro hverdict
    rcases u.ready_or_unready f with ⟨c, request, received, hready⟩ | hunready
    · exact ⟨c, request, received, hready, (u.verdict_of_ready hready w r).symm.trans hverdict⟩
    · exact absurd (hverdict.symm.trans (u.verdict_of_unready hunready w r)) hv
  · rintro ⟨c, request, received, hready, hanswer⟩
    exact (u.verdict_of_ready hready w r).trans hanswer

/-- A test passes if its response was judged and nothing was found. -/
theorem verdict_pass_iff (w : Worker) (r : Report) (f : CaptureFile) :
    (u.test w r f).1.verdict = .pass ↔ ∃ c request received, u.Ready f c request received ∧
      (Session.run { report := r.beginTest w } u.judge w received request).1 = .ok [] := by
  rw [u.verdict_eq_iff w r f .pass (by decide)]
  simp only [Verdict.ofAnswer_eq_pass_iff]

/-- A test fails if its response was judged and something was found. -/
theorem verdict_fail_iff (w : Worker) (r : Report) (f : CaptureFile) :
    (u.test w r f).1.verdict = .fail ↔ ∃ c request received, u.Ready f c request received ∧
      ∃ v vs, (Session.run { report := r.beginTest w } u.judge w received request).1 =
        .ok (v :: vs) := by
  rw [u.verdict_eq_iff w r f .fail (by decide)]
  simp only [Verdict.ofAnswer_eq_fail_iff]

/-- A test ends in an error if one of its steps did. -/
theorem verdict_error_iff (w : Worker) (r : Report) (f : CaptureFile) :
    (u.test w r f).1.verdict = .error ↔ u.Unready f ∨
      ∃ c request received, u.Ready f c request received ∧
        ∃ e, (Session.run { report := r.beginTest w } u.judge w received request).1 =
          .error e := by
  constructor
  · intro herror
    rcases u.ready_or_unready f with ⟨c, request, received, hready⟩ | hunready
    · rw [u.verdict_of_ready hready, Verdict.ofAnswer_eq_error_iff] at herror
      exact Or.inr ⟨c, request, received, hready, herror⟩
    · exact Or.inl hunready
  · rintro (hunready | ⟨c, request, received, hready, hrun⟩)
    · exact u.verdict_of_unready hunready w r
    · rw [u.verdict_of_ready hready, Verdict.ofAnswer_eq_error_iff]
      exact hrun

end

end Checkup

end SamlConformance
