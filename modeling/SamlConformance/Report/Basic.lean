import SamlConformance.Spec.Violation

/-!
# Reports

A report collects violations over a whole series of tests. For each section it
keeps the first violation ever recorded there, and never replaces it. It also
keeps, for every worker that runs tests, the violations of the worker's current
test in full; workers do not see each other's lists.

One recorded violation may fill several sections. Which entries stem from the
same recording is remembered by numbering the recordings, so that a summary can
print the violation once although another one may read exactly the same.

What all workers see alike, entries and checked sections, is the ledger of the
report. It is a part of its own because a workspace may hold several reports, each
with one ledger, while the lists of current tests belong to the workers.

## Main definitions

* `Ledger`: Entries and exercised sections, which all workers share.
* `Report`: A ledger with the current test of each worker.
* `Report.record`: Adds a violation.
* `Report.exercise`: Notes that a section was checked.
* `Report.violationFor?`: The violation a section holds.
* `Report.status`: Failed, successful or skipped, nested sections included.
* `Report.knownSections`: Every section a report speaks of, in order.
-/

namespace SamlConformance

/-- Names one of the workers that run tests side by side. -/
abbrev Worker := Nat

/-- The outcome of a section. -/
inductive SectionStatus where
  /-- The section, or one nested in it, holds a violation. -/
  | failed
  /-- It was checked and holds none. -/
  | successful
  /-- It was not checked. -/
  | skipped
deriving Repr, DecidableEq

/-- The word reports print for an outcome. -/
def SectionStatus.label : SectionStatus → String
  | failed => "FAILED"
  | successful => "SUCCESSFUL"
  | skipped => "SKIPPED"

/-- A violation with the number of its recording. -/
structure Recording where
  /-- Counts the recordings of one report. -/
  number : Nat
  /-- What was recorded. -/
  violation : Violation
deriving Repr, DecidableEq

/-- What all workers see of a report. -/
structure Ledger where
  /-- The first recording of each section that has one, in order of arrival. -/
  entries : List (Section × Recording)
  /-- The sections that were checked. -/
  exercised : List Section
  /-- How many violations were recorded. -/
  recordings : Nat
deriving Repr, DecidableEq

namespace Ledger

/-- Nothing recorded, nothing checked. -/
def empty : Ledger :=
  ⟨[], [], 0⟩

/-- Fills a section unless it is filled already. -/
def fill (entries : List (Section × Recording)) (s : Section) (x : Recording) :
    List (Section × Recording) :=
  if (entries.lookup s).isSome then entries else entries ++ [(s, x)]

/-- Records a violation: it fills those of its sections that are still free. -/
def record (l : Ledger) (v : Violation) : Ledger :=
  { l with
    entries := v.sections.foldl (fun es s => fill es s ⟨l.recordings, v⟩) l.entries
    recordings := l.recordings + 1 }

/-- Notes that a section was checked. -/
def exercise (l : Ledger) (s : Section) : Ledger :=
  if l.exercised.contains s then l else { l with exercised := l.exercised ++ [s] }

/-- Forgets all sections. -/
def clear (l : Ledger) : Ledger :=
  { l with entries := [], exercised := [] }

end Ledger

/-- A function changed at one place. -/
def setAt {α β : Type} [DecidableEq α] (f : α → β) (a : α) (b : β) : α → β :=
  fun x => if x = a then b else f x

theorem setAt_self {α β : Type} [DecidableEq α] (f : α → β) (a : α) (b : β) :
    setAt f a b a = b := by
  rw [setAt, if_pos rfl]

theorem setAt_other {α β : Type} [DecidableEq α] (f : α → β) {a x : α} (b : β) (h : x ≠ a) :
    setAt f a b x = f x := by
  rw [setAt, if_neg h]

/-- The violations collected over a series of tests. -/
structure Report extends Ledger where
  /-- The violations of each worker's current test, in order. -/
  current : Worker → List Violation

namespace Report

/-- Nothing recorded, nothing checked. -/
def empty : Report :=
  ⟨.empty, fun _ => []⟩

/-- The recording a section holds. -/
def recordingFor? (r : Report) (s : Section) : Option Recording :=
  r.entries.lookup s

/-- The violation a section holds. -/
def violationFor? (r : Report) (s : Section) : Option Violation :=
  (r.recordingFor? s).map Recording.violation

/-- Records a violation found by worker `w`: it fills those of its sections that
are still free and joins the worker's current test. -/
def record (r : Report) (w : Worker) (v : Violation) : Report :=
  ⟨r.toLedger.record v, setAt r.current w (r.current w ++ [v])⟩

/-- Records violations in order. -/
def recordAll (r : Report) (w : Worker) (vs : List Violation) : Report :=
  vs.foldl (fun r v => r.record w v) r

/-- Notes that a section was checked. -/
def exercise (r : Report) (s : Section) : Report :=
  ⟨r.toLedger.exercise s, r.current⟩

/-- Notes that several sections were checked. -/
def exerciseAll (r : Report) (ss : List Section) : Report :=
  ss.foldl exercise r

/-- Begins a new test of worker `w`. -/
def beginTest (r : Report) (w : Worker) : Report :=
  ⟨r.toLedger, setAt r.current w []⟩

/-- Forgets all sections, and the current test of worker `w` alone. -/
def clear (r : Report) (w : Worker) : Report :=
  ⟨r.toLedger.clear, setAt r.current w []⟩

/-- How many sections hold a violation. -/
def sectionCount (r : Report) : Nat :=
  r.entries.length

/-- The outcome of a section, counting what is nested in it. -/
def status (r : Report) (s : Section) : SectionStatus :=
  if r.entries.any fun e => e.1.isWithin s then .failed
  else if r.exercised.any fun t => t.isWithin s then .successful
  else .skipped

/-- The entries within a section, in section order. -/
def entriesWithin (r : Report) (s : Section) : List (Section × Recording) :=
  (r.entries.filter fun e => e.1.isWithin s).mergeSort fun a b => a.1.le b.1

/-- The violations within a section: each recording once, at its first section. -/
def violationsWithin (r : Report) (s : Section) : List Violation :=
  ((r.entriesWithin s).map Prod.snd).eraseDupsBy (fun a b => a.number == b.number)
    |>.map Recording.violation

/-- The texts of the violations within a section, set apart by blank lines. -/
def sectionMessages (r : Report) (s : Section) : String :=
  "\n\n".intercalate ((r.violationsWithin s).map Violation.text)

/-- The sections of all clauses and all that was recorded or checked, each once,
in report order. -/
def knownSections (r : Report) : List Section :=
  (Clause.all.map Clause.toSection ++ r.entries.map Prod.fst ++ r.exercised).eraseDups.mergeSort
    Section.le

/-- What a report says of one section. -/
structure Line where
  /-- The section. -/
  place : Section
  /-- Its heading, where one is known. -/
  title : Option String
  /-- Its outcome. -/
  status : SectionStatus
  /-- The violation it holds itself. -/
  violation : Option Violation
deriving Repr, DecidableEq

/-- One line for each known section. -/
def lines (r : Report) : List Line :=
  r.knownSections.map fun s => ⟨s, s.title?, r.status s, r.violationFor? s⟩

/-- The sections that are not skipped, with their outcomes. -/
def touched (r : Report) : List (Section × SectionStatus) :=
  (r.lines.filter fun l => l.status != .skipped).map fun l => (l.place, l.status)

end Report

end SamlConformance
