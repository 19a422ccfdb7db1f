import SamlConformance.Judge
import SamlConformance.Proofs.Message.Decoding
import SamlConformance.Proofs.Report.Recording

/-!
# Sessions Record Judgments

A session goes through the groups of rules one by one, and marks the sections of a
group and records its violations before it comes to the next. A judgment lists all
sections and all violations, and is added to a report at once. Both come to the
same, because recording and marking do not meet: every mark can be moved in front
of everything that is recorded (`recordAll_exerciseAll`).

So the answer of a session is read off the judgment, in which the report does not
occur, and what became of the report is read off `Report.add`. What an addition
does is collected in `Report.Gained`.

## Main definitions

* `Report.Gained`: What a report has gained over an earlier one.

## Theorems

* `gained_add`: Adding a judgment gains its sections and its violations.
* `checkAll_eq`: Running groups of rules, as one addition to the report.
* `run_eq`: A session records the judgment on a response and is done.
* `violation?_of_not_environmental`: Any other failure to decode is one violation.
* `run_accounts`: What a session answers, and what is then in the report.
-/

namespace SamlConformance

/-- What worker `w` has added to a report: the violations `vs`, in order, and the
sections `ss` as checked. -/
structure Report.Gained (before after : Report) (w : Worker) (vs : List Violation)
    (ss : List Section) : Prop where
  /-- The worker's current test goes on with the violations. -/
  current : after.current w = before.current w ++ vs
  /-- The tests of other workers are as they were. -/
  others : ∀ u, u ≠ w → after.current u = before.current u
  /-- No entry was replaced. -/
  kept : ∀ s x, before.recordingFor? s = some x → after.recordingFor? s = some x
  /-- A section that held none holds the first of the violations against it, if there
  is one. -/
  held : ∀ s, after.violationFor? s =
    (before.violationFor? s).or (vs.find? fun v => v.countsAgainst s)
  /-- The sections are marked, and no others. -/
  exercised : ∀ s, s ∈ after.exercised ↔ s ∈ before.exercised ∨ s ∈ ss

namespace Report

/-- Marking sections changes no entry. -/
theorem recordingFor?_exerciseAll (r : Report) (ss : List Section) (s : Section) :
    (r.exerciseAll ss).recordingFor? s = r.recordingFor? s := by
  rw [recordingFor?, entries_exerciseAll, recordingFor?]

theorem violationFor?_exerciseAll (r : Report) (ss : List Section) (s : Section) :
    (r.exerciseAll ss).violationFor? s = r.violationFor? s := by
  rw [violationFor?, recordingFor?_exerciseAll, violationFor?]

/-- An entry stays whatever is recorded. -/
theorem recordingFor?_recordAll_of_some (r : Report) (w : Worker) (vs : List Violation)
    (s : Section) (x : Recording) (h : r.recordingFor? s = some x) :
    (r.recordAll w vs).recordingFor? s = some x := by
  induction vs generalizing r with
  | nil => exact h
  | cons v vs ih =>
      rw [recordAll_cons]
      refine ih (r.record w v) ?_
      rw [recordingFor?_record, h, Option.some_or]

theorem gained_add (r : Report) (w : Worker) (j : Judgment) :
    Gained r (r.add w j) w j.violations j.sections where
  current := by rw [add, current_recordAll, current_exerciseAll]
  others u hu := by rw [add, current_recordAll_other _ _ hu, current_exerciseAll]
  kept s x h := by
    refine recordingFor?_recordAll_of_some _ w _ s x ?_
    rw [recordingFor?_exerciseAll]
    exact h
  held s := by rw [add, violationFor?_recordAll, violationFor?_exerciseAll]
  exercised s := by rw [add, exercised_recordAll, mem_exercised_exerciseAll]

end Report

namespace Session

/-- Running groups of rules finds what they find one by one, and leaves a report to
which all their sections and all their findings were added. -/
theorem checkAll_eq (s : Session) (w : Worker) (r : Reply) (number : Nat)
    (gs : List RuleGroup) :
    (s.checkAll w r number gs).1 = gs.flatMap (fun g => g.run r) ∧
      (s.checkAll w r number gs).2.report =
        s.report.add w ⟨gs.flatMap RuleGroup.sections, gs.flatMap fun g => g.run r⟩ := by
  induction gs generalizing s number with
  | nil => exact ⟨rfl, rfl⟩
  | cons g gs ih =>
      rcases ih (s.check w r number g).2 (number + 1) with ⟨hfound, hreport⟩
      refine ⟨?_, ?_⟩
      · rw [List.flatMap_cons, ← hfound]
        rfl
      · have hrest : (s.checkAll w r number (g :: gs)).2.report =
            ((s.check w r number g).2.checkAll w r (number + 1) gs).2.report := rfl
        have hfirst : (s.check w r number g).2.report =
            (s.report.exerciseAll g.sections).recordAll w (g.run r) := rfl
        -- The marks of the later groups move in front of what the first one recorded.
        rw [hrest, hreport, hfirst]
        simp only [Report.add, List.flatMap_cons, Report.exerciseAll_append,
          Report.recordAll_append, Report.recordAll_exerciseAll]

/-- Verifying a message records the judgment on it. -/
theorem verify_eq (s : Session) (j : Judge) (w : Worker) (m : Message) (request : Request) :
    s.verify j w m request =
      ((Judgment.ofReply ⟨m, request, j.metadata⟩).violations,
        ⟨s.report.add w (.ofReply ⟨m, request, j.metadata⟩), .done⟩) := by
  rcases checkAll_eq (s.emit w m.findings) w ⟨m, request, j.metadata⟩ 0
    (RuleGroup.groups m.received.binding) with ⟨hfound, hreport⟩
  unfold verify moveTo
  simp only [hfound, hreport]
  refine congrArg (Prod.mk _) (congrArg (fun report => (⟨report, .done⟩ : Session)) ?_)
  -- The findings of the decoder were recorded before anything was marked.
  simp only [emit, Report.add, Judgment.ofReply, Report.recordAll_append,
    Report.recordAll_exerciseAll]

/-- A session answers with the judgment on a response, records it and is done. -/
theorem run_eq (s : Session) (j : Judge) (w : Worker) (received : Received)
    (request : Request) :
    s.run j w received request =
      match j.judge received request with
      | .ok judgment => (.ok judgment.violations, ⟨s.report.add w judgment, .done⟩)
      | .error e => (.error e, ⟨s.report, .done⟩) := by
  -- Both go through the same decisions; the session also keeps the report.
  unfold run Judge.judge
  by_cases hpass : j.passesOver received.status = true
  · rw [if_pos hpass, if_pos hpass]
    rfl
  · rw [if_neg hpass, if_neg hpass]
    unfold decode
    cases hd : Message.decode j.signatureCheck? received with
    | ok m => simp only [verify_eq]; rfl
    | error e =>
        by_cases henv : e.isEnvironmental = true
        · simp only [if_pos henv]
          rfl
        · have hbinding := Message.decode_error_binding _ received e hd
          simp only [if_neg henv, Judgment.ofDecodeError, hbinding]
          rfl

/-- A response that is passed over leaves nothing behind. -/
theorem run_of_passesOver (s : Session) (j : Judge) (w : Worker) (received : Received)
    (request : Request) (h : j.passesOver received.status = true) :
    s.run j w received request = (.ok [], ⟨s.report, .done⟩) := by
  rw [run_eq, Judge.judge, if_pos h]
  rfl

section

variable (s : Session) (j : Judge) (w : Worker) (received : Received) (request : Request)
variable (hpass : ¬ j.passesOver received.status = true)

include hpass

/-- A message adds the judgment on it. -/
theorem run_of_message (m : Message)
    (h : Message.decode j.signatureCheck? received = .ok m) :
    s.run j w received request =
      (.ok (Judgment.ofReply ⟨m, request, j.metadata⟩).violations,
        ⟨s.report.add w (.ofReply ⟨m, request, j.metadata⟩), .done⟩) := by
  rw [run_eq, Judge.judge, if_neg hpass, h]

/-- An unknown encoding is an error of its own and leaves nothing behind. -/
theorem run_of_environmental (e : DecodeError)
    (h : Message.decode j.signatureCheck? received = .error e)
    (henv : e.isEnvironmental = true) :
    s.run j w received request =
      (.error (.unsupportedEncoding e.detail), ⟨s.report, .done⟩) := by
  rw [run_eq, Judge.judge, if_neg hpass, h]
  simp only [if_pos henv]

/-- Any other failure to decode adds the one violation that it is. -/
theorem run_of_decodeError (e : DecodeError)
    (h : Message.decode j.signatureCheck? received = .error e)
    (henv : ¬ e.isEnvironmental = true) :
    s.run j w received request =
      (.ok e.violation?.toList, ⟨s.report.add w (.ofDecodeError e), .done⟩) := by
  rw [run_eq, Judge.judge, if_neg hpass, h]
  simp only [if_neg henv]
  rfl

end

/-- A failure to decode that lies with the provider is one violation, of exactly the
clauses that go with its kind and binding. -/
theorem violation?_of_not_environmental (e : DecodeError) (h : ¬ e.isEnvironmental = true) :
    ∃ v, e.violation? = some v ∧ v.clauses = e.clauses := by
  rcases e with ⟨kind, binding, detail⟩
  cases kind with
  | unsupportedEncoding => exact absurd rfl h
  | missingPayload => cases binding <;> exact ⟨_, rfl, rfl⟩
  | malformed => cases binding <;> exact ⟨_, rfl, rfl⟩
  | inflateFailed => exact ⟨_, rfl, rfl⟩
  | whitespaceDetected => exact ⟨_, rfl, rfl⟩
  | malformedXml => exact ⟨_, rfl, rfl⟩

/-- What a session answers to a response and what its report has gained then. The
answer does not depend on the session or the worker, and the session is done in any
case. A response that is passed over or cannot be judged leaves the report as it
was; any other adds to it exactly the violations in the answer. -/
theorem run_accounts (s s₀ : Session) (j : Judge) (w w₀ : Worker) (received : Received)
    (request : Request) :
    let run := s.run j w received request
    run.1 = (s₀.run j w₀ received request).1 ∧ run.2.progress = .done ∧
      if j.passesOver received.status then run.1 = .ok [] ∧ run.2.report = s.report
      else match Message.decode j.signatureCheck? received with
        | .error e =>
          if e.isEnvironmental then
            run.1 = .error (.unsupportedEncoding e.detail) ∧ run.2.report = s.report
          else ∃ v, run.1 = .ok [v] ∧ v.clauses = e.kind.clauses received.binding ∧
            s.report.Gained run.2.report w [v] (RuleGroup.binding received.binding).sections
        | .ok m =>
          let groups := RuleGroup.groups received.binding
          let found := m.findings ++ groups.flatMap fun g => g.run ⟨m, request, j.metadata⟩
          run.1 = .ok found ∧
            s.report.Gained run.2.report w found (groups.flatMap RuleGroup.sections) := by
  intro run
  -- A run ends in one of four ways, and each has its own equation above; the other
  -- session ends in the same way, because none of the conditions mentions a session.
  by_cases hpass : j.passesOver received.status = true
  · have hrun : run = _ := run_of_passesOver s j w received request hpass
    rw [hrun, run_of_passesOver s₀ j w₀ received request hpass, if_pos hpass]
    exact ⟨rfl, rfl, rfl, rfl⟩
  rw [if_neg hpass]
  cases hd : Message.decode j.signatureCheck? received with
  | ok m =>
      have hrun : run = _ := run_of_message s j w received request hpass m hd
      rw [hrun, run_of_message s₀ j w₀ received request hpass m hd]
      have hm := Message.received_of_decode _ received m hd
      have hgained := s.report.gained_add w (.ofReply ⟨m, request, j.metadata⟩)
      rw [Judgment.ofReply, hm] at hgained ⊢
      exact ⟨rfl, rfl, rfl, hgained⟩
  | error e =>
      by_cases henv : e.isEnvironmental = true
      · have hrun : run = _ := run_of_environmental s j w received request hpass e hd henv
        rw [hrun, run_of_environmental s₀ j w₀ received request hpass e hd henv]
        refine ⟨rfl, rfl, ?_⟩
        simp only [if_pos henv]
        exact ⟨trivial, trivial⟩
      · have hrun : run = _ := run_of_decodeError s j w received request hpass e hd henv
        rw [hrun, run_of_decodeError s₀ j w₀ received request hpass e hd henv]
        refine ⟨rfl, rfl, ?_⟩
        rcases violation?_of_not_environmental e henv with ⟨v, hv, hclauses⟩
        have hbinding := Message.decode_error_binding _ received e hd
        have hkind : e.clauses = e.kind.clauses received.binding := by
          rw [DecodeError.clauses, hbinding]
        -- The judgment speaks of the binding of the failure, the statement of the response's.
        have hgained := s.report.gained_add w (.ofDecodeError e)
        rw [Judgment.ofDecodeError, hv, hbinding] at hgained ⊢
        simp only [if_neg henv]
        exact ⟨v, rfl, hclauses.trans hkind, hgained⟩

end Session

end SamlConformance
