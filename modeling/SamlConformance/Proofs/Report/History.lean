import Mathlib.Data.Finset.Card
import Mathlib.Data.List.DropRight
import SamlConformance.Proofs.Report.Recording
import SamlConformance.Report.Workspace

/-!
# Reports and Their History

What a report shows at the end of a history of events, read off the history alone.
Only its end counts, the part behind the last event that wiped the thing in
question: for the ledger of a report that is the last clearing by any worker, for
the list a worker keeps for a report it is the last time this worker began a test
there or cleared it. The two ends differ, and that is the point: a worker that
clears a report takes the entries from all others but not their lists.

Each statement is an induction on the history from its end. One more event either
wipes, so that the end of the history becomes empty, or it does not, and then the
end grows by this event. What the event does to the report is `report_apply`, so
that reports other than its own never come into it.

## Main definitions

* `Event.clears`, `Event.wipes`: An event empties a ledger, or a worker's list.
* `Event.recorded?`: The violation an event records on a report.
* `Report.Grows`: One report holds what another does.
* `recorded`, `recordedBy`: The violations recorded since a ledger, or a list, was
  last emptied.
* `Shows`: A report shows what its history says.

## Theorems

* `grows_act`, `grows_run`: Until it is cleared, a report only gains.
* `failed_of_grows`, `not_skipped_of_grows`: What only gains moves on in its statuses.
* `shows_apply`, `shows_run`: What a report shows is said by its history.
* `sectionCount_run`: How many sections hold an entry.
* `history_accounts`: All of it, for any history and any report.
-/

namespace SamlConformance

namespace Event

/-- The event empties the ledger of a report. -/
def clears (i : ReportId) (e : Event) : Bool :=
  e.report == i && e.action == .clear

/-- The event empties the list that a worker keeps for a report. -/
def wipes (w : Worker) (i : ReportId) (e : Event) : Bool :=
  e.worker == w && e.report == i && (e.action == .clear || e.action == .beginTest)

/-- The violation that the event records on a report. -/
def recorded? (i : ReportId) (e : Event) : Option Violation :=
  if e.report = i then
    match e.action with
    | .record v => some v
    | _ => none
  else none

end Event

namespace Report

/-- One report holds what another does, and possibly more. -/
structure Grows (r r' : Report) : Prop where
  /-- Entries stay, down to the recording they stem from. -/
  entry : ∀ s x, r.recordingFor? s = some x → r'.recordingFor? s = some x
  /-- Checked sections stay checked. -/
  exercised : ∀ s ∈ r.exercised, s ∈ r'.exercised

theorem grows_refl (r : Report) : Grows r r where
  entry _ _ hx := hx
  exercised _ hs := hs

theorem grows_trans {a b c : Report} (hab : Grows a b) (hbc : Grows b c) : Grows a c where
  entry s x hx := hbc.entry s x (hab.entry s x hx)
  exercised s hs := hbc.exercised s (hab.exercised s hs)

/-- Nothing but clearing takes anything away. -/
theorem grows_act (r : Report) (w : Worker) (action : Action) (h : action ≠ .clear) :
    Grows r (r.act w action) := by
  cases action with
  | record v =>
      refine ⟨?_, fun s hs => hs⟩
      intro s x hx
      rw [act, recordingFor?_record, hx, Option.some_or]
  | exercise s =>
      refine ⟨?_, ?_⟩
      · intro t x hx
        rw [act, recordingFor?, entries_exercise]
        exact hx
      · intro t ht
        exact (mem_exercised_exercise r s t).mpr (Or.inl ht)
  | beginTest => exact ⟨fun s x hx => hx, fun s hs => hs⟩
  | clear => exact absurd rfl h

theorem violationFor?_of_grows {r r' : Report} (h : Grows r r') {s : Section} {v : Violation}
    (hv : r.violationFor? s = some v) : r'.violationFor? s = some v := by
  rcases Option.map_eq_some_iff.mp hv with ⟨x, hx, hxv⟩
  rw [violationFor?, h.entry s x hx, Option.map_some, hxv]

theorem keys_of_grows {r r' : Report} (h : Grows r r') {s : Section} (hs : s ∈ r.keys) :
    s ∈ r'.keys := by
  rw [Ledger.mem_keys_iff] at hs ⊢
  rcases Option.isSome_iff_exists.mp hs with ⟨x, hx⟩
  exact Option.isSome_iff_exists.mpr ⟨x, h.entry s x hx⟩

/-- A section failed if an entry lies within it. -/
theorem status_eq_failed_iff (r : Report) (s : Section) :
    r.status s = .failed ↔ ∃ t ∈ r.keys, t.isWithin s = true := by
  have hany : (r.entries.any fun e => e.1.isWithin s) = r.keys.any fun t => t.isWithin s := by
    rw [Ledger.keys, List.any_map]
    rfl
  rw [status, hany, ← List.any_eq_true]
  by_cases hs : (r.keys.any fun t => t.isWithin s) = true
  · rw [if_pos hs]
    exact ⟨fun _ => hs, fun _ => rfl⟩
  · rw [if_neg hs]
    constructor
    · intro hfailed
      by_cases he : (r.exercised.any fun t => t.isWithin s) = true
      · rw [if_pos he] at hfailed
        exact absurd hfailed (by simp only [reduceCtorEq, not_false_eq_true])
      · rw [if_neg he] at hfailed
        exact absurd hfailed (by simp only [reduceCtorEq, not_false_eq_true])
    · intro h
      exact absurd h hs

theorem failed_of_grows {r r' : Report} (h : Grows r r') (s : Section)
    (hs : r.status s = .failed) : r'.status s = .failed := by
  rw [status_eq_failed_iff] at hs ⊢
  rcases hs with ⟨t, ht, hts⟩
  exact ⟨t, keys_of_grows h ht, hts⟩

/-- A section that was checked is not skipped, whether or not it failed. -/
theorem not_skipped_of_exercised (r : Report) {s t : Section} (ht : t ∈ r.exercised)
    (hts : t.isWithin s = true) : r.status s ≠ .skipped := by
  have hany : (r.exercised.any fun t => t.isWithin s) = true := List.any_eq_true.mpr ⟨t, ht, hts⟩
  rw [status, if_pos hany]
  split <;> simp only [ne_eq, reduceCtorEq, not_false_eq_true]

theorem not_skipped_of_grows {r r' : Report} (h : Grows r r') (s : Section)
    (hs : r.status s = .successful) : r'.status s ≠ .skipped := by
  -- Without a checked section within it, it would be failed or skipped.
  have hany : ∃ t ∈ r.exercised, t.isWithin s = true := by
    rw [← List.any_eq_true]
    by_contra hnone
    rw [status, if_neg hnone] at hs
    split at hs <;> exact absurd hs (by simp only [reduceCtorEq, not_false_eq_true])
  rcases hany with ⟨t, ht, hts⟩
  exact not_skipped_of_exercised r' (h.exercised t ht) hts

end Report

namespace Workspace

/-- What a history picks out behind the last event that stops it. -/
def since (h : List Event) (stops : Event → Bool) (pick : Event → Option Violation) :
    List Violation :=
  (h.rtakeWhile fun e => !stops e).filterMap pick

/-- The violations that were recorded on a report, by any worker, since it was last
cleared. -/
def recorded (h : List Event) (i : ReportId) : List Violation :=
  since h (Event.clears i) (Event.recorded? i)

/-- The violations that a worker recorded on a report since it last began a test
there or cleared it. -/
def recordedBy (h : List Event) (w : Worker) (i : ReportId) : List Violation :=
  since h (Event.wipes w i) fun e => if e.worker = w then e.recorded? i else none

/-- A further event either stops everything before it or comes behind it. -/
theorem since_concat (h : List Event) (e : Event) (stops : Event → Bool)
    (pick : Event → Option Violation) :
    since (h ++ [e]) stops pick =
      if stops e then [] else since h stops pick ++ (pick e).toList := by
  unfold since
  by_cases hs : stops e = true
  · have hneg : ¬ (!stops e) = true := by rw [hs, Bool.not_true]; exact Bool.false_ne_true
    rw [List.rtakeWhile_concat_neg (fun x => !stops x) h e hneg, List.filterMap_nil, if_pos hs]
  · have hpos : (!stops e) = true := by rw [Bool.eq_false_iff.mpr hs, Bool.not_false]
    rw [List.rtakeWhile_concat_pos (fun x => !stops x) h e hpos, List.filterMap_append, if_neg hs]
    cases hp : pick e with
    | none => rw [List.filterMap_cons_none hp]; rfl
    | some v => rw [List.filterMap_cons_some hp]; rfl

/-- A report shows what its history says. -/
structure Shows (r : Report) (h : List Event) (i : ReportId) : Prop where
  /-- Each section holds the first violation against it. -/
  held : ∀ s, r.violationFor? s = (recorded h i).find? fun v => v.countsAgainst s
  /-- No section has two entries. -/
  nodup : r.keys.Nodup
  /-- Each list holds what its worker recorded. -/
  current : ∀ w, r.current w = recordedBy h w i

theorem shows_start (i : ReportId) : Shows (start.report i) [] i where
  held _ := rfl
  nodup := List.nodup_nil
  current _ := rfl

/-- An event on another report does not count. -/
theorem shows_other (r : Report) (h : List Event) (e : Event) (i : ReportId)
    (hi : e.report ≠ i) (hr : Shows r h i) : Shows r (h ++ [e]) i := by
  -- An event is looked at only through its report.
  have hclears : ¬ e.clears i = true := by
    simp only [Event.clears, beq_false_of_ne hi, Bool.false_and, Bool.false_eq_true,
      not_false_eq_true]
  have hwipes : ∀ w, ¬ e.wipes w i = true := by
    intro w
    simp only [Event.wipes, beq_false_of_ne hi, Bool.and_false, Bool.false_and,
      Bool.false_eq_true, not_false_eq_true]
  have hnone : e.recorded? i = none := if_neg hi
  refine ⟨?_, hr.nodup, ?_⟩
  · intro s
    rw [recorded, since_concat, if_neg hclears, hnone, Option.toList_none, List.append_nil]
    exact hr.held s
  · intro w
    rw [recordedBy, since_concat, if_neg (hwipes w), hnone, ite_self, Option.toList_none,
      List.append_nil]
    exact hr.current w

/-- Recording puts the violation behind all that is recorded, and behind what its
worker recorded. -/
theorem shows_record (r : Report) (h : List Event) (w : Worker) (i : ReportId) (v : Violation)
    (hr : Shows r h i) : Shows (r.record w v) (h ++ [⟨w, i, .record v⟩]) i := by
  have hclears : ¬ Event.clears i ⟨w, i, .record v⟩ = true := by
    simp only [Event.clears, beq_iff_eq, reduceCtorEq, Bool.and_eq_true, and_false,
      not_false_eq_true]
  have hwipes : ∀ u, ¬ Event.wipes u i ⟨w, i, .record v⟩ = true := by
    intro u
    simp only [Event.wipes, beq_iff_eq, reduceCtorEq, Bool.and_eq_true, Bool.or_eq_true, or_self,
      and_false, not_false_eq_true]
  have hsome : Event.recorded? i ⟨w, i, .record v⟩ = some v := if_pos rfl
  refine ⟨?_, Ledger.nodup_keys_record r.toLedger v hr.nodup, ?_⟩
  · intro s
    rw [recorded, since_concat, if_neg hclears, hsome, Option.toList_some, List.find?_append,
      Report.violationFor?_record, hr.held s, List.find?_singleton]
    rfl
  · intro u
    -- The violation joins one list, and all others stay.
    rw [recordedBy, since_concat, if_neg (hwipes u), hsome]
    by_cases hu : u = w
    · rw [hu, Report.current_record, hr.current w, if_pos rfl, Option.toList_some]
      rfl
    · rw [Report.current_record_other r v hu, hr.current u, if_neg (Ne.symm hu),
        Option.toList_none, List.append_nil]
      rfl

/-- Events that record nothing and clear nothing leave all entries as they are. -/
theorem recorded_concat_of_quiet (h : List Event) (e : Event) (i : ReportId)
    (hclears : e.clears i = false) (hnone : e.recorded? i = none) :
    recorded (h ++ [e]) i = recorded h i := by
  rw [recorded, since_concat, hclears, hnone, Option.toList_none, List.append_nil]
  rfl

/-- Marking a section changes no entry and no list. -/
theorem shows_exercise (r : Report) (h : List Event) (w : Worker) (i : ReportId) (s : Section)
    (hr : Shows r h i) : Shows (r.exercise s) (h ++ [⟨w, i, .exercise s⟩]) i := by
  have hclears : Event.clears i ⟨w, i, .exercise s⟩ = false := by
    simp only [Event.clears, beq_self_eq_true, Bool.true_and]
    rfl
  have hwipes : ∀ u, Event.wipes u i ⟨w, i, .exercise s⟩ = false := by
    intro u
    simp only [Event.wipes, beq_self_eq_true, Bool.and_true]
    exact Bool.and_false _
  have hnone : Event.recorded? i ⟨w, i, .exercise s⟩ = none := if_pos rfl
  refine ⟨?_, ?_, ?_⟩
  · intro t
    rw [recorded_concat_of_quiet h _ i hclears hnone, ← hr.held t, Report.violationFor?,
      Report.recordingFor?, Report.entries_exercise]
    rfl
  · rw [Ledger.keys, Report.entries_exercise]
    exact hr.nodup
  · intro u
    rw [recordedBy, since_concat, hwipes u, hnone, ite_self, Option.toList_none, List.append_nil]
    exact hr.current u

/-- A list that its worker empties starts again, and no other does. -/
theorem current_wiped (current : Worker → List Violation) (h : List Event) (w : Worker)
    (i : ReportId) (action : Action) (haction : action = .clear ∨ action = .beginTest)
    (hcurrent : ∀ u, current u = recordedBy h u i) (u : Worker) :
    setAt current w [] u = recordedBy (h ++ [⟨w, i, action⟩]) u i := by
  rw [recordedBy, since_concat]
  -- The event wipes the list of its own worker and is nothing to any other.
  by_cases hu : u = w
  · have hwipes : Event.wipes u i ⟨w, i, action⟩ = true := by
      simp only [Event.wipes, hu, beq_self_eq_true, Bool.and_true, Bool.true_and, Bool.or_eq_true,
        beq_iff_eq]
      exact haction
    rw [if_pos hwipes, hu, setAt_self]
  · have hwipes : ¬ Event.wipes u i ⟨w, i, action⟩ = true := by
      simp only [Event.wipes, beq_false_of_ne (Ne.symm hu), Bool.false_and, Bool.false_eq_true,
        not_false_eq_true]
    rw [setAt_other _ _ hu, if_neg hwipes, if_neg (Ne.symm hu), Option.toList_none,
      List.append_nil]
    exact hcurrent u

/-- Beginning a test empties one list. -/
theorem shows_beginTest (r : Report) (h : List Event) (w : Worker) (i : ReportId)
    (hr : Shows r h i) : Shows (r.beginTest w) (h ++ [⟨w, i, .beginTest⟩]) i := by
  have hclears : Event.clears i ⟨w, i, .beginTest⟩ = false := by
    simp only [Event.clears, beq_self_eq_true, Bool.true_and]
    rfl
  have hnone : Event.recorded? i ⟨w, i, .beginTest⟩ = none := if_pos rfl
  refine ⟨?_, hr.nodup, ?_⟩
  · intro t
    rw [recorded_concat_of_quiet h _ i hclears hnone]
    exact hr.held t
  · exact current_wiped r.current h w i _ (Or.inr rfl) hr.current

/-- Clearing empties the ledger and one list. -/
theorem shows_clear (r : Report) (h : List Event) (w : Worker) (i : ReportId)
    (hr : Shows r h i) : Shows (r.clear w) (h ++ [⟨w, i, .clear⟩]) i := by
  have hclears : Event.clears i ⟨w, i, .clear⟩ = true := by
    simp only [Event.clears, beq_self_eq_true, Bool.and_self]
  refine ⟨?_, List.nodup_nil, ?_⟩
  · intro t
    rw [recorded, since_concat, if_pos hclears]
    rfl
  · exact current_wiped r.current h w i _ (Or.inl rfl) hr.current

/-- One more event, whatever it does and wherever. -/
theorem shows_apply (p : Workspace) (h : List Event) (e : Event) (i : ReportId)
    (hr : Shows (p.report i) h i) : Shows ((p.apply e).report i) (h ++ [e]) i := by
  rw [report_apply]
  by_cases hi : e.report = i
  · -- One case for each action, and each has its lemma.
    rw [if_pos hi]
    rcases e with ⟨w, j, action⟩
    have hj : j = i := hi
    subst hj
    cases action with
    | record v => exact shows_record (p.report j) h w j v hr
    | exercise s => exact shows_exercise (p.report j) h w j s hr
    | beginTest => exact shows_beginTest (p.report j) h w j hr
    | clear => exact shows_clear (p.report j) h w j hr
  · rw [if_neg hi]
    exact shows_other (p.report i) h e i hi hr

/-- Every report shows what its history says, at the end of any history. -/
theorem shows_run (h : List Event) (i : ReportId) : Shows ((run h).report i) h i := by
  -- From the end, because events are appended; `Shows` is the invariant.
  induction h using List.reverseRecOn with
  | nil => exact shows_start i
  | append_singleton h e ih =>
      rw [run_concat]
      exact shows_apply (run h) h e i ih

/-- The sections that hold an entry are those of the violations recorded. -/
theorem mem_keys_run (h : List Event) (i : ReportId) (s : Section) :
    s ∈ ((run h).report i).keys ↔ ∃ v ∈ recorded h i, v.countsAgainst s = true := by
  have hheld := (shows_run h i).held s
  rw [Ledger.mem_keys_iff, ← List.find?_isSome, ← hheld, Report.violationFor?,
    Option.isSome_map, Report.recordingFor?]

/-- As many sections hold an entry as the recorded violations have sections. -/
theorem sectionCount_run (h : List Event) (i : ReportId) :
    ((run h).report i).sectionCount =
      ((recorded h i).flatMap Violation.sections).toFinset.card := by
  have hkeys : ((run h).report i).keys.toFinset =
      ((recorded h i).flatMap Violation.sections).toFinset := by
    ext s
    rw [List.mem_toFinset, List.mem_toFinset, mem_keys_run, List.mem_flatMap]
    simp only [Violation.mem_sections_iff]
  rw [← hkeys, List.toFinset_card_of_nodup (shows_run h i).nodup, Ledger.keys, List.length_map]
  rfl

/-- A report that is never cleared only gains. -/
theorem grows_run (h more : List Event) (i : ReportId)
    (hmore : ∀ e ∈ more, e.clears i = false) :
    Report.Grows ((run h).report i) ((run (h ++ more)).report i) := by
  induction more using List.reverseRecOn with
  | nil =>
      rw [List.append_nil]
      exact Report.grows_refl _
  | append_singleton more e ih =>
      have hbefore := ih fun x hx => hmore x (List.mem_append_left _ hx)
      refine Report.grows_trans hbefore ?_
      rw [← List.append_assoc, run_concat, report_apply]
      by_cases hi : e.report = i
      · rw [if_pos hi]
        refine Report.grows_act _ e.worker e.action ?_
        intro hclear
        -- The event would be one of those that are excluded.
        have hclears := hmore e (List.mem_append_right _ (List.mem_singleton_self e))
        rw [Event.clears, hi, hclear, beq_self_eq_true, beq_self_eq_true] at hclears
        exact absurd hclears (by simp only [Bool.and_self, Bool.true_eq_false, not_false_eq_true])
      · rw [if_neg hi]
        exact Report.grows_refl _

/-- After any history, and for any report: every section holds the first violation
recorded against it since the report was last cleared; the count of sections is
that of the sections of these violations; every worker's list is what the worker
recorded itself since it last began a test or cleared the report; and until the
report is cleared, entries stay, failed sections stay failed and checked sections
are not skipped again. -/
theorem history_accounts (h : List Event) (i : ReportId) :
    let r := (run h).report i
    (∀ s, r.violationFor? s = (recorded h i).find? fun v => v.countsAgainst s) ∧
    r.sectionCount = ((recorded h i).flatMap Violation.sections).toFinset.card ∧
    (∀ w, r.current w = recordedBy h w i) ∧
    ∀ more, (∀ e ∈ more, e.clears i = false) →
      let r' := (run (h ++ more)).report i
      (∀ s v, r.violationFor? s = some v → r'.violationFor? s = some v) ∧
      (∀ s, r.status s = .failed → r'.status s = .failed) ∧
      ∀ s, r.status s = .successful → r'.status s ≠ .skipped := by
  intro r
  refine ⟨(shows_run h i).held, sectionCount_run h i, (shows_run h i).current, ?_⟩
  intro more hmore r'
  have hgrows := grows_run h more i hmore
  refine ⟨?_, Report.failed_of_grows hgrows, Report.not_skipped_of_grows hgrows⟩
  intro s v hv
  exact Report.violationFor?_of_grows hgrows hv

end Workspace

end SamlConformance
