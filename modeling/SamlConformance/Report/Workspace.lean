import SamlConformance.Report.Basic

/-!
# Reports Side by Side

A workspace holds any number of reports, and any number of workers write to them.
The ledger of a report is one for all workers. The violations of a current test
are kept by the worker that runs it, apart for each report, so that adding to
them never waits for another worker. Ending a test therefore takes the worker's
own list for that report away and nothing else; forgetting the sections of a
report empties its ledger for all workers, but the lists of the others stay.

What the workers do is a history of events, one completed before the next. Seen
from a single report, only the events on it count, and each of them is the
operation of that name on the report.

## Main definitions

* `Workspace`: Ledgers by report, and lists by worker and report.
* `Workspace.report`: A report as its workers see it.
* `Event`: An operation of a worker on a report.
* `Workspace.apply`, `Workspace.run`: What an event does, and what a history does.

## Theorems

* `report_apply`: An event acts on its own report and leaves the others alone.
-/

namespace SamlConformance

/-- Names one of the reports of a workspace. -/
abbrev ReportId := Nat

/-- The reports of a workspace and the lists its workers keep. -/
structure Workspace where
  /-- The ledger of each report. -/
  ledgers : ReportId → Ledger
  /-- What each worker keeps for itself: the violations of its current test, by report. -/
  lists : Worker → ReportId → List Violation

/-- What a worker can do to a report. -/
inductive Action where
  /-- Records a violation. -/
  | record (v : Violation)
  /-- Notes that a section was checked. -/
  | exercise (s : Section)
  /-- Begins a new test. -/
  | beginTest
  /-- Forgets all sections and begins a new test. -/
  | clear
deriving Repr, DecidableEq

/-- An action of a worker on a report. -/
structure Event where
  /-- Who acts. -/
  worker : Worker
  /-- The report that is acted on. -/
  report : ReportId
  /-- What is done. -/
  action : Action
deriving Repr, DecidableEq

/-- What an action of a worker does to a single report. -/
def Report.act (r : Report) (w : Worker) : Action → Report
  | .record v => r.record w v
  | .exercise s => r.exercise s
  | .beginTest => r.beginTest w
  | .clear => r.clear w

namespace Workspace

/-- No report was written to. -/
def start : Workspace :=
  ⟨fun _ => .empty, fun _ _ => []⟩

/-- A report as its workers see it. -/
def report (p : Workspace) (i : ReportId) : Report :=
  ⟨p.ledgers i, fun w => p.lists w i⟩

/-- Changes the ledger of a report. -/
def setLedger (p : Workspace) (i : ReportId) (l : Ledger) : Workspace :=
  { p with ledgers := setAt p.ledgers i l }

/-- Changes the list a worker keeps for a report. -/
def setList (p : Workspace) (w : Worker) (i : ReportId) (vs : List Violation) : Workspace :=
  { p with lists := setAt p.lists w (setAt (p.lists w) i vs) }

/-- What an event does. -/
def apply (p : Workspace) (e : Event) : Workspace :=
  match e.action with
  | .record v =>
    (p.setLedger e.report ((p.ledgers e.report).record v)).setList e.worker e.report
      (p.lists e.worker e.report ++ [v])
  | .exercise s => p.setLedger e.report ((p.ledgers e.report).exercise s)
  | .beginTest => p.setList e.worker e.report []
  | .clear =>
    (p.setLedger e.report (p.ledgers e.report).clear).setList e.worker e.report []

/-- What a history does to a workspace in which nothing was written. -/
def run (h : List Event) : Workspace :=
  h.foldl apply start

/-- One more event comes after all others. -/
theorem run_concat (h : List Event) (e : Event) : run (h ++ [e]) = (run h).apply e := by
  rw [run, List.foldl_append]
  rfl

/-- A changed ledger shows in its own report only. -/
theorem report_setLedger (p : Workspace) (i j : ReportId) (l : Ledger) :
    (p.setLedger j l).report i = if j = i then ⟨l, (p.report i).current⟩ else p.report i := by
  by_cases hij : j = i
  · simp only [report, setLedger, hij, setAt_self, if_true]
  · simp only [report, setLedger, setAt_other p.ledgers l (Ne.symm hij), if_neg hij]

/-- A changed list shows in its own report only, and only at its own worker. -/
theorem report_setList (p : Workspace) (w : Worker) (i j : ReportId) (vs : List Violation) :
    (p.setList w j vs).report i =
      if j = i then ⟨(p.report i).toLedger, setAt (p.report i).current w vs⟩
      else p.report i := by
  -- A report sees one place of the list of each worker, so the change is followed
  -- worker by worker.
  have hlist : ∀ u, setAt p.lists w (setAt (p.lists w) j vs) u i =
      if j = i then setAt (p.report i).current w vs u else p.lists u i := by
    intro u
    by_cases hu : u = w
    · by_cases hij : j = i
      · rw [hu, hij, setAt_self, setAt_self, if_pos rfl, setAt_self]
      · rw [hu, setAt_self, setAt_other _ _ (Ne.symm hij), if_neg hij]
    · rw [setAt_other _ _ hu]
      by_cases hij : j = i
      · rw [if_pos hij, setAt_other _ _ hu]
        rfl
      · rw [if_neg hij]
  by_cases hij : j = i
  · simp only [if_pos hij] at hlist ⊢
    exact congrArg (Report.mk (p.ledgers i)) (funext hlist)
  · simp only [if_neg hij] at hlist ⊢
    exact congrArg (Report.mk (p.ledgers i)) (funext hlist)

/-- An event is the operation of that name on its own report, and nothing on any
other: neither a ledger nor a list is found under the name of a wrong report. -/
theorem report_apply (p : Workspace) (e : Event) (i : ReportId) :
    (p.apply e).report i =
      if e.report = i then (p.report i).act e.worker e.action else p.report i := by
  rcases e with ⟨w, j, action⟩
  by_cases hij : j = i
  · subst hij
    rw [if_pos rfl]
    cases action with
    | record v => simp only [apply, report_setList, report_setLedger, if_true]; rfl
    | exercise s => simp only [apply, report_setLedger, if_true]; rfl
    | beginTest => simp only [apply, report_setList, if_true]; rfl
    | clear => simp only [apply, report_setList, report_setLedger, if_true]; rfl
  · rw [if_neg hij]
    cases action with
    | record v => simp only [apply, report_setList, report_setLedger, if_neg hij]
    | exercise s => simp only [apply, report_setLedger, if_neg hij]
    | beginTest => simp only [apply, report_setList, if_neg hij]
    | clear => simp only [apply, report_setList, report_setLedger, if_neg hij]

end Workspace

end SamlConformance
