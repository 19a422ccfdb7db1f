import Mathlib.Data.List.Nodup
import SamlConformance.Report.Basic

/-!
# What Recording Does

The effect of every operation of a report on what can be seen of it: on the entry
of each section, on the sections that hold one, on the checked sections and on the
lists of the workers.

Recording fills a section only where it is free. Said of a lookup this is `Option.or`:
what a section held before comes first, and what is recorded now stands behind it.
In this form the effect of a whole list of recordings needs no case distinction
either, since the first violation of a list with a given section is `List.find?`,
which is `Option.or` along the list.

The sections that hold an entry are the keys of an association list. They are
distinct as long as every entry got in through `fill`, so that their number is the
number of entries.

## Main definitions

* `Violation.countsAgainst`: A violation counts against a section.
* `Ledger.keys`: The sections that hold an entry.

## Theorems

* `recordingFor?_record`, `violationFor?_recordAll`: What a section holds after recording.
* `current_recordAll`: What the lists of the workers hold after recording.
* `mem_keys_iff`, `nodup_keys_record`: The sections that hold an entry.
* `mem_exercised_exerciseAll`: The sections that were checked.
* `record_exercise`, `recordAll_exerciseAll`: Recording and checking do not meet.
-/

namespace SamlConformance

namespace Violation

/-- The violation counts against a section: one of the clauses it breaches is
counted there. -/
def countsAgainst (v : Violation) (s : Section) : Bool :=
  v.clauses.any fun c => c.toSection == s

theorem mem_sections_iff (v : Violation) (s : Section) :
    s ∈ v.sections ↔ v.countsAgainst s = true := by
  rw [sections, List.mem_eraseDups, List.mem_map, countsAgainst, List.any_eq_true]
  constructor
  · intro ⟨c, hc, hs⟩
    exact ⟨c, hc, beq_iff_eq.mpr hs⟩
  · intro ⟨c, hc, hs⟩
    exact ⟨c, hc, beq_iff_eq.mp hs⟩

end Violation

namespace Ledger

/-- Filling puts the new entry behind the one that is there. -/
theorem lookup_fill (entries : List (Section × Recording)) (s t : Section) (x : Recording) :
    (fill entries s x).lookup t = (entries.lookup t).or (if t = s then some x else none) := by
  unfold fill
  by_cases hs : (entries.lookup s).isSome
  · rw [if_pos hs]
    by_cases hts : t = s
    · rw [hts, Option.or_of_isSome hs]
    · rw [if_neg hts, Option.or_none]
  · rw [if_neg hs, List.lookup_append]
    by_cases hts : t = s
    · rw [hts, if_pos rfl, List.lookup_cons_self]
    · rw [if_neg hts, List.lookup_cons, beq_false_of_ne hts]
      rfl

/-- Filling several sections with one entry. -/
theorem lookup_foldl_fill (ss : List Section) (entries : List (Section × Recording))
    (t : Section) (x : Recording) :
    (ss.foldl (fun es s => fill es s x) entries).lookup t =
      (entries.lookup t).or (if t ∈ ss then some x else none) := by
  -- The entries grow along the list, so they have to vary.
  induction ss generalizing entries with
  | nil => rw [if_neg List.not_mem_nil, Option.or_none, List.foldl_nil]
  | cons s ss ih =>
      rw [List.foldl_cons, ih, lookup_fill, Option.or_assoc]
      -- What was there comes first on both sides; the rest is membership.
      congr 1
      by_cases hts : t = s
      · rw [if_pos hts, if_pos (List.mem_cons.mpr (Or.inl hts)), Option.some_or]
      · have hmem : (t ∈ s :: ss) = (t ∈ ss) := by simp only [List.mem_cons, hts, false_or]
        rw [if_neg hts, Option.none_or]
        simp only [hmem]

/-- The sections that hold an entry. -/
def keys (l : Ledger) : List Section :=
  l.entries.map Prod.fst

theorem mem_keys_iff (l : Ledger) (s : Section) :
    s ∈ l.keys ↔ (l.entries.lookup s).isSome = true := by
  rw [keys, List.mem_map, List.lookup_isSome_iff]
  constructor
  · intro ⟨e, he, hs⟩
    exact ⟨e, he, beq_iff_eq.mpr hs.symm⟩
  · intro ⟨e, he, hs⟩
    exact ⟨e, he, (beq_iff_eq.mp hs).symm⟩

theorem nodup_keys_fill (entries : List (Section × Recording)) (s : Section) (x : Recording)
    (h : (entries.map Prod.fst).Nodup) : ((fill entries s x).map Prod.fst).Nodup := by
  unfold fill
  by_cases hs : (entries.lookup s).isSome
  · rw [if_pos hs]
    exact h
  · rw [if_neg hs, List.map_append, List.nodup_append]
    refine ⟨h, List.nodup_singleton s, ?_⟩
    intro a ha b hb hab
    have hbs : b = s := List.mem_singleton.mp hb
    -- A section among the keys would have been looked up.
    rw [hab, hbs] at ha
    exact hs ((mem_keys_iff ⟨entries, [], 0⟩ s).mp ha)

theorem nodup_keys_record (l : Ledger) (v : Violation) (h : l.keys.Nodup) :
    (l.record v).keys.Nodup := by
  -- The number of the recording is the same throughout and plays no part.
  unfold keys record
  generalize v.sections = ss
  have hentries : (l.entries.map Prod.fst).Nodup := h
  generalize l.entries = entries at hentries
  induction ss generalizing entries with
  | nil => exact hentries
  | cons s ss ih => exact ih _ (nodup_keys_fill entries s _ hentries)

theorem mem_exercised_exercise (l : Ledger) (s t : Section) :
    t ∈ (l.exercise s).exercised ↔ t ∈ l.exercised ∨ t = s := by
  unfold exercise
  by_cases hs : l.exercised.contains s
  · rw [if_pos hs]
    constructor
    · exact Or.inl
    · rintro (ht | rfl)
      · exact ht
      · exact List.contains_iff_mem.mp hs
  · rw [if_neg hs, List.mem_append, List.mem_singleton]

end Ledger

namespace Report

/-- A section holds what it held, or else what is recorded for it. -/
theorem recordingFor?_record (r : Report) (w : Worker) (v : Violation) (s : Section) :
    (r.record w v).recordingFor? s =
      (r.recordingFor? s).or (if s ∈ v.sections then some ⟨r.recordings, v⟩ else none) :=
  Ledger.lookup_foldl_fill v.sections r.entries s ⟨r.recordings, v⟩

theorem violationFor?_record (r : Report) (w : Worker) (v : Violation) (s : Section) :
    (r.record w v).violationFor? s =
      (r.violationFor? s).or (if v.countsAgainst s then some v else none) := by
  unfold violationFor?
  rw [recordingFor?_record, Option.map_or]
  by_cases hs : v.countsAgainst s = true
  · rw [if_pos hs, if_pos ((v.mem_sections_iff s).mpr hs), Option.map_some]
  · rw [if_neg hs, if_neg (fun h => hs ((v.mem_sections_iff s).mp h)), Option.map_none]

theorem recordAll_cons (r : Report) (w : Worker) (v : Violation) (vs : List Violation) :
    r.recordAll w (v :: vs) = (r.record w v).recordAll w vs :=
  rfl

theorem recordAll_append (r : Report) (w : Worker) (vs us : List Violation) :
    r.recordAll w (vs ++ us) = (r.recordAll w vs).recordAll w us :=
  List.foldl_append

theorem exerciseAll_cons (r : Report) (s : Section) (ss : List Section) :
    r.exerciseAll (s :: ss) = (r.exercise s).exerciseAll ss :=
  rfl

theorem exerciseAll_append (r : Report) (ss ts : List Section) :
    r.exerciseAll (ss ++ ts) = (r.exerciseAll ss).exerciseAll ts :=
  List.foldl_append

/-- After a list of recordings a section holds what it held, or else the first
violation of the list that counts against it. -/
theorem violationFor?_recordAll (r : Report) (w : Worker) (vs : List Violation) (s : Section) :
    (r.recordAll w vs).violationFor? s =
      (r.violationFor? s).or (vs.find? fun v => v.countsAgainst s) := by
  induction vs generalizing r with
  | nil => rw [List.find?_nil, Option.or_none]; rfl
  | cons v vs ih =>
      -- The first violation of the list is asked before the others, as by a search.
      rw [recordAll_cons, ih, violationFor?_record, Option.or_assoc, List.find?_cons]
      cases v.countsAgainst s with
      | true => rfl
      | false => rfl

theorem current_record (r : Report) (w : Worker) (v : Violation) :
    (r.record w v).current w = r.current w ++ [v] :=
  setAt_self _ _ _

theorem current_record_other (r : Report) {w u : Worker} (v : Violation) (h : u ≠ w) :
    (r.record w v).current u = r.current u :=
  setAt_other _ _ h

theorem current_recordAll (r : Report) (w : Worker) (vs : List Violation) :
    (r.recordAll w vs).current w = r.current w ++ vs := by
  induction vs generalizing r with
  | nil => exact (List.append_nil _).symm
  | cons v vs ih =>
      rw [recordAll_cons, ih, current_record, List.append_assoc, List.singleton_append]

/-- Nobody else's list changes. -/
theorem current_recordAll_other (r : Report) {w u : Worker} (vs : List Violation) (h : u ≠ w) :
    (r.recordAll w vs).current u = r.current u := by
  induction vs generalizing r with
  | nil => rfl
  | cons v vs ih => rw [recordAll_cons, ih, current_record_other r v h]

theorem exercised_recordAll (r : Report) (w : Worker) (vs : List Violation) :
    (r.recordAll w vs).exercised = r.exercised := by
  induction vs generalizing r with
  | nil => rfl
  | cons v vs ih => exact ih (r.record w v)

theorem mem_exercised_exercise (r : Report) (s t : Section) :
    t ∈ (r.exercise s).exercised ↔ t ∈ r.exercised ∨ t = s :=
  Ledger.mem_exercised_exercise r.toLedger s t

theorem mem_exercised_exerciseAll (r : Report) (ss : List Section) (t : Section) :
    t ∈ (r.exerciseAll ss).exercised ↔ t ∈ r.exercised ∨ t ∈ ss := by
  induction ss generalizing r with
  | nil => rw [List.mem_nil_iff, or_false]; rfl
  | cons s ss ih => rw [exerciseAll_cons, ih, mem_exercised_exercise, List.mem_cons, or_assoc]

theorem entries_exercise (r : Report) (s : Section) : (r.exercise s).entries = r.entries := by
  unfold exercise Ledger.exercise
  by_cases hs : r.exercised.contains s
  · rw [if_pos hs]
  · rw [if_neg hs]

theorem entries_exerciseAll (r : Report) (ss : List Section) :
    (r.exerciseAll ss).entries = r.entries := by
  induction ss generalizing r with
  | nil => rfl
  | cons s ss ih => rw [exerciseAll_cons, ih, entries_exercise]

theorem current_exerciseAll (r : Report) (ss : List Section) :
    (r.exerciseAll ss).current = r.current := by
  induction ss generalizing r with
  | nil => rfl
  | cons s ss ih => exact ih (r.exercise s)

/-- Recording leaves the checked sections alone, and checking everything else, so
that neither has to wait for the other. -/
theorem record_exercise (r : Report) (w : Worker) (v : Violation) (s : Section) :
    (r.exercise s).record w v = (r.record w v).exercise s := by
  unfold exercise Ledger.exercise
  by_cases hs : r.exercised.contains s
  · have hs' : (r.record w v).exercised.contains s := hs
    rw [if_pos hs, if_pos hs']
  · have hs' : ¬ (r.record w v).exercised.contains s := hs
    rw [if_neg hs, if_neg hs']
    rfl

theorem recordAll_exercise (r : Report) (w : Worker) (vs : List Violation) (s : Section) :
    (r.exercise s).recordAll w vs = (r.recordAll w vs).exercise s := by
  induction vs generalizing r with
  | nil => rfl
  | cons v vs ih => rw [recordAll_cons, recordAll_cons, record_exercise, ih]

theorem recordAll_exerciseAll (r : Report) (w : Worker) (vs : List Violation)
    (ss : List Section) :
    (r.exerciseAll ss).recordAll w vs = (r.recordAll w vs).exerciseAll ss := by
  induction ss generalizing r with
  | nil => rfl
  | cons s ss ih => rw [exerciseAll_cons, exerciseAll_cons, ih, recordAll_exercise]

end Report

end SamlConformance
