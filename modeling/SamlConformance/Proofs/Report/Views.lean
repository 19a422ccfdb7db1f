import SamlConformance.Proofs.Report.History
import SamlConformance.Proofs.Report.Order

/-!
# What a Report Shows of Its Sections

Outcomes, messages and lines of a report are computed from its entries one by one, each by
its own look at the sections. Here they are brought together: a section failed if and only
if there are messages for it, and that is the case if something nested in it holds a
violation.

Messages are listed by recording. One violation can be found twice and then is recorded
twice, and one recording can fill several sections. So the list of messages goes by the
number of a recording, and the number has to tell which recording it is, whatever happened
to the report in between. It does: the numbers count the violations that were ever recorded
on the report, and clearing does not start the count again.

## Main definitions

* `Workspace.everRecorded`: The violations recorded on a report, cleared or not.
* `Report.Numbered`: Entries carry the numbers of what was recorded.
* `Report.FirstWithin`: The first section that holds a recording.
* `Report.Lists`: The recordings within a section, each once and in order.

## Theorems

* `numbered_run`: Numbers identify recordings, in any history.
* `Report.failed_iff_message`, `failed_iff_violation`: When a section failed.
* `Report.failed_of_within`, `not_skipped_of_within`: Outcomes count for what is around.
* `Report.exists_lists`: The messages of a section.
* `Report.places_before`, `Report.mem_places_iff`: The lines of a report.
-/

namespace SamlConformance

/-- The place of a recording in a list of entries is the first section that it fills. -/
def FirstIn (es : List (Section × Recording)) (x : Recording) (t : Section) : Prop :=
  (t, x) ∈ es ∧ ∀ u, (u, x) ∈ es → t.le u = true

theorem exists_firstIn (es : List (Section × Recording)) (x : Recording)
    (h : es.Pairwise fun a b => a.1.Before b.1) (hx : x ∈ es.map Prod.snd) :
    ∃ t, FirstIn es x t := by
  induction es with
  | nil => exact absurd hx List.not_mem_nil
  | cons e es ih =>
      rw [List.pairwise_cons] at h
      by_cases he : e.2 = x
      · refine ⟨e.1, by rw [← he]; exact List.mem_cons_self, ?_⟩
        intro u hu
        rcases List.mem_cons.mp hu with rfl | hmem
        · exact (Bool.or_self _).symm.trans (Section.le_total u u)
        · exact (h.1 _ hmem).1
      · rw [List.map_cons] at hx
        rcases List.mem_cons.mp hx with heq | hmem
        · exact absurd heq.symm he
        · rcases ih h.2 hmem with ⟨t, ht, hfirst⟩
          refine ⟨t, List.mem_cons_of_mem e ht, ?_⟩
          intro u hu
          rcases List.mem_cons.mp hu with rfl | hu
          · exact absurd rfl he
          · exact hfirst u hu

/-- Keeping each recording once leaves them in the order of their first sections. -/
theorem pairwise_eraseDups (es : List (Section × Recording))
    (h : es.Pairwise fun a b => a.1.Before b.1) :
    (es.map Prod.snd).eraseDups.Pairwise
      fun x y => ∃ t u, FirstIn es x t ∧ FirstIn es y u ∧ t.Before u := by
  induction hn : es.length using Nat.strongRecOn generalizing es with
  | ind n ih =>
      rcases es with _ | ⟨⟨t, a⟩, es⟩
      · exact List.Pairwise.nil
      rw [List.pairwise_cons] at h
      -- What is left behind the first entry are the entries of other recordings.
      let others := es.filter fun e => !e.2 == a
      have hothers : others.Pairwise fun a b => a.1.Before b.1 := h.2.filter _
      have hmem : ∀ e, e ∈ others ↔ e ∈ es ∧ e.2 ≠ a := by
        intro e
        rw [List.mem_filter, Bool.not_eq_true', beq_eq_false_iff_ne]
      have hfirst : ∀ x u, FirstIn others x u → FirstIn ((t, a) :: es) x u := by
        rintro x u ⟨hu, hleast⟩
        rcases (hmem _).mp hu with ⟨hes, hne⟩
        refine ⟨List.mem_cons_of_mem _ hes, ?_⟩
        intro w hw
        rcases List.mem_cons.mp hw with heq | hw
        · exact absurd (congrArg Prod.snd heq) hne
        · exact hleast w ((hmem _).mpr ⟨hw, hne⟩)
      have hlength : others.length < n := by
        have hle : others.length ≤ es.length := List.length_filter_le _ es
        rw [List.length_cons] at hn
        omega
      have hfilter : (es.map Prod.snd).filter (fun b => !b == a) = others.map Prod.snd := by
        rw [List.filter_map]
        rfl
      rw [List.map_cons, List.eraseDups_cons, hfilter, List.pairwise_cons]
      refine ⟨?_, (ih _ hlength others hothers rfl).imp ?_⟩
      · intro y hy
        rcases exists_firstIn others y hothers (List.mem_eraseDups.mp hy) with ⟨u, hu⟩
        refine ⟨t, u, ⟨List.mem_cons_self, ?_⟩, hfirst y u hu, h.1 _ ((hmem _).mp hu.1).1⟩
        intro w hw
        rcases List.mem_cons.mp hw with heq | hw
        · rw [(Prod.mk.inj heq).1]
          exact (Bool.or_self _).symm.trans (Section.le_total t t)
        · exact (h.1 _ hw).1
      · rintro x y ⟨u, w, hu, hw, hbefore⟩
        exact ⟨u, w, hfirst x u hu, hfirst y w hw, hbefore⟩

/-- Where numbers tell recordings apart, they can stand for them. -/
theorem eraseDupsBy_number (xs : List Recording)
    (h : ∀ x ∈ xs, ∀ y ∈ xs, x.number = y.number → x = y) :
    xs.eraseDupsBy (fun a b => a.number == b.number) = xs.eraseDups := by
  induction hn : xs.length using Nat.strongRecOn generalizing xs with
  | ind n ih =>
      rcases xs with _ | ⟨x, xs⟩
      · rfl
      have hfilter : xs.filter (fun b => decide ((b.number == x.number) = false)) =
          xs.filter fun b => !b == x := by
        refine List.filter_congr fun b hb => ?_
        by_cases hbx : b = x
        · rw [hbx, beq_self_eq_true, beq_self_eq_true]
          rfl
        · have hnumber : b.number ≠ x.number := fun heq =>
            hbx (h b (List.mem_cons_of_mem x hb) x List.mem_cons_self heq)
          rw [beq_false_of_ne hbx, beq_false_of_ne hnumber]
          rfl
      have hlength := List.length_filter_le (fun b => !b == x) xs
      rw [List.length_cons] at hn
      rw [List.eraseDupsBy_cons, List.eraseDups_cons, hfilter]
      congr 1
      refine ih _ (by omega) _ ?_ rfl
      intro y hy z hz
      exact h y (List.mem_cons_of_mem x (List.mem_filter.mp hy).1) z
        (List.mem_cons_of_mem x (List.mem_filter.mp hz).1)

namespace Report

/-- The entries carry the numbers that their recordings have among `vs`. -/
structure Numbered (r : Report) (vs : List Violation) : Prop where
  /-- All of them were counted. -/
  count : r.recordings = vs.length
  /-- A number tells what was recorded. -/
  number : ∀ e ∈ r.entries, vs[e.2.number]? = some e.2.violation

theorem mem_foldl_fill (ss : List Section) (es : List (Section × Recording)) (x : Recording)
    (e : Section × Recording) (he : e ∈ ss.foldl (fun es s => Ledger.fill es s x) es) :
    e ∈ es ∨ e.2 = x := by
  induction ss generalizing es with
  | nil => exact Or.inl he
  | cons s ss ih =>
      rcases ih (Ledger.fill es s x) he with hfill | hx
      · unfold Ledger.fill at hfill
        split at hfill
        · exact Or.inl hfill
        · rcases List.mem_append.mp hfill with hmem | hnew
          · exact Or.inl hmem
          · rw [List.mem_singleton.mp hnew]
            exact Or.inr rfl
      · exact Or.inr hx

/-- A violation that is recorded gets the next number. -/
theorem numbered_record (r : Report) (w : Worker) (v : Violation) (vs : List Violation)
    (h : r.Numbered vs) : (r.record w v).Numbered (vs ++ [v]) where
  count := by
    have hcount : (r.record w v).recordings = r.recordings + 1 := rfl
    rw [hcount, h.count, List.length_append, List.length_singleton]
  number := by
    intro e he
    rcases mem_foldl_fill v.sections r.entries ⟨r.recordings, v⟩ e he with hold | hnew
    · have hnumber := h.number e hold
      rcases List.getElem?_eq_some_iff.mp hnumber with ⟨hlt, -⟩
      rw [List.getElem?_append_left hlt, hnumber]
    · rw [hnew, h.count, List.getElem?_append_right (Nat.le_refl _), Nat.sub_self]
      rfl

/-- Nothing else adds an entry or counts. -/
theorem numbered_act (r : Report) (w : Worker) (action : Action) (vs : List Violation)
    (h : r.Numbered vs) : (r.act w action).Numbered
      (vs ++ match action with | .record v => [v] | _ => []) := by
  cases action with
  | record v => exact numbered_record r w v vs h
  | exercise s =>
      rw [List.append_nil]
      have hcount : (r.exercise s).recordings = r.recordings := by
        unfold exercise Ledger.exercise
        split
        · rfl
        · rfl
      refine ⟨hcount.trans h.count, ?_⟩
      rw [act, entries_exercise]
      exact h.number
  | beginTest => exact (List.append_nil vs).symm ▸ ⟨h.count, h.number⟩
  | clear =>
      exact (List.append_nil vs).symm ▸ ⟨h.count, fun e he => absurd he List.not_mem_nil⟩

/-- The number tells the recording. -/
theorem eq_of_number (r : Report) (vs : List Violation) (h : r.Numbered vs)
    (e e' : Section × Recording) (he : e ∈ r.entries) (he' : e' ∈ r.entries)
    (hnumber : e.2.number = e'.2.number) : e.2 = e'.2 := by
  have hviolation : some e.2.violation = some e'.2.violation := by
    rw [← h.number e he, ← h.number e' he', hnumber]
  rcases e with ⟨s, n, v⟩
  rcases e' with ⟨s', n', v'⟩
  have hn : n = n' := hnumber
  have hv : v = v' := Option.some.inj hviolation
  rw [hn, hv]

theorem recordingFor?_eq_some_iff (r : Report) (h : r.keys.Nodup) (t : Section) (x : Recording) :
    r.recordingFor? t = some x ↔ (t, x) ∈ r.entries := by
  unfold recordingFor? Ledger.keys at *
  generalize r.entries = es at h
  induction es with
  | nil =>
      exact ⟨fun hx => absurd hx.symm (Option.some_ne_none x),
        fun hx => absurd hx List.not_mem_nil⟩
  | cons e es ih =>
      rcases e with ⟨s, y⟩
      rw [List.map_cons, List.nodup_cons] at h
      rw [List.lookup_cons, List.mem_cons, Prod.mk.injEq]
      by_cases hts : t = s
      · -- No other entry has this section.
        have hnone : (t, x) ∉ es := fun hmem => h.1 (List.mem_map.mpr ⟨(t, x), hmem, hts⟩)
        simp only [hts, beq_self_eq_true, Option.some.injEq, true_and]
        exact ⟨fun heq => Or.inl heq.symm, fun hor =>
          hor.elim Eq.symm fun hmem => absurd (hts ▸ hmem) hnone⟩
      · rw [beq_false_of_ne hts]
        simp only [hts, false_and, false_or]
        exact ih h.2

theorem violationFor?_isSome_iff (r : Report) (t : Section) :
    (r.violationFor? t).isSome = true ↔ t ∈ r.keys := by
  rw [violationFor?, Option.isSome_map, Ledger.mem_keys_iff]
  rfl

/-- A section failed if something nested in it holds a violation. -/
theorem failed_iff_violation (r : Report) (s : Section) :
    r.status s = .failed ↔ ∃ t, t.isWithin s = true ∧ (r.violationFor? t).isSome = true := by
  rw [status_eq_failed_iff]
  constructor
  · rintro ⟨t, ht, hts⟩
    exact ⟨t, hts, (r.violationFor?_isSome_iff t).mpr ht⟩
  · rintro ⟨t, hts, ht⟩
    exact ⟨t, (r.violationFor?_isSome_iff t).mp ht, hts⟩

/-- A section is skipped unless something nested in it was found or checked. -/
theorem not_skipped_iff (r : Report) (s : Section) :
    r.status s ≠ .skipped ↔
      (∃ t ∈ r.keys, t.isWithin s = true) ∨ ∃ t ∈ r.exercised, t.isWithin s = true := by
  rw [← status_eq_failed_iff]
  constructor
  · intro h
    by_cases hchecked : (r.exercised.any fun t => t.isWithin s) = true
    · exact Or.inr (List.any_eq_true.mp hchecked)
    · refine Or.inl ?_
      unfold status at h ⊢
      rw [if_neg hchecked] at h ⊢
      split
      · rfl
      · rename_i hnone
        rw [if_neg hnone] at h
        exact absurd rfl h
  · rintro (hfailed | ⟨t, ht, hts⟩)
    · rw [hfailed]
      simp only [ne_eq, reduceCtorEq, not_false_eq_true]
    · exact r.not_skipped_of_exercised ht hts

/-- What failed in a section failed the section. -/
theorem failed_of_within (r : Report) (s t : Section) (hts : t.isWithin s = true)
    (h : r.status t = .failed) : r.status s = .failed := by
  rw [status_eq_failed_iff] at h ⊢
  rcases h with ⟨u, hu, hut⟩
  exact ⟨u, hu, Section.isWithin_trans u t s hut hts⟩

/-- What was not skipped in a section did not skip the section. -/
theorem not_skipped_of_within (r : Report) (s t : Section) (hts : t.isWithin s = true)
    (h : r.status t ≠ .skipped) : r.status s ≠ .skipped := by
  rw [not_skipped_iff] at h ⊢
  rcases h with ⟨u, hu, hut⟩ | ⟨u, hu, hut⟩
  · exact Or.inl ⟨u, hu, Section.isWithin_trans u t s hut hts⟩
  · exact Or.inr ⟨u, hu, Section.isWithin_trans u t s hut hts⟩

/-- The first section within `s` that holds a recording. -/
def FirstWithin (r : Report) (s : Section) (x : Recording) (t : Section) : Prop :=
  (t.isWithin s = true ∧ r.recordingFor? t = some x) ∧
    ∀ u, u.isWithin s = true → r.recordingFor? u = some x → t.le u = true

/-- The recordings within a section, each once and at the place of its first section. -/
structure Lists (r : Report) (s : Section) (xs : List Recording) : Prop where
  /-- No recording is listed twice. -/
  once : (xs.map Recording.number).Nodup
  /-- The recordings are those that some section within `s` holds. -/
  members : ∀ x, x ∈ xs ↔ ∃ t, t.isWithin s = true ∧ r.recordingFor? t = some x
  /-- They are in the order of their first sections. -/
  ordered : xs.Pairwise fun x y =>
    ∃ t u, r.FirstWithin s x t ∧ r.FirstWithin s y u ∧ t.Before u

theorem mem_entriesWithin_iff (r : Report) (h : r.keys.Nodup) (s t : Section) (x : Recording) :
    (t, x) ∈ r.entriesWithin s ↔ t.isWithin s = true ∧ r.recordingFor? t = some x := by
  rw [entriesWithin, List.mem_mergeSort, List.mem_filter, recordingFor?_eq_some_iff r h, and_comm]

theorem entriesWithin_before (r : Report) (h : r.keys.Nodup) (s : Section) :
    (r.entriesWithin s).Pairwise fun a b => a.1.Before b.1 := by
  have hsorted : (r.entriesWithin s).Pairwise fun a b => a.1.le b.1 = true :=
    List.pairwise_mergeSort (fun a b c => Section.le_trans a.1 b.1 c.1)
      (fun a b => Section.le_total a.1 b.1) _
  have hkeys : ((r.entries.filter fun e => e.1.isWithin s).map Prod.fst).Nodup :=
    h.sublist (List.filter_sublist.map Prod.fst)
  have hnodup := ((List.mergeSort_perm _ fun a b : Section × Recording =>
    a.1.le b.1).map Prod.fst).nodup_iff.mpr hkeys
  exact hsorted.and (List.pairwise_map.mp hnodup)

/-- The violations within a section are those of the recordings there. -/
theorem exists_lists (r : Report) (vs : List Violation) (hkeys : r.keys.Nodup)
    (hnumbered : r.Numbered vs) (s : Section) :
    ∃ xs, r.Lists s xs ∧ r.violationsWithin s = xs.map Recording.violation := by
  have hbefore := r.entriesWithin_before hkeys s
  have hidentify : ∀ x ∈ (r.entriesWithin s).map Prod.snd,
      ∀ y ∈ (r.entriesWithin s).map Prod.snd, x.number = y.number → x = y := by
    have hentry : ∀ e ∈ r.entriesWithin s, e ∈ r.entries :=
      fun e he => (List.mem_filter.mp (List.mem_mergeSort.mp he)).1
    intro x hx y hy hnumber
    rcases List.mem_map.mp hx with ⟨e, he, rfl⟩
    rcases List.mem_map.mp hy with ⟨e', he', rfl⟩
    exact r.eq_of_number vs hnumbered e e' (hentry e he) (hentry e' he') hnumber
  have hfirst : ∀ x t, FirstIn (r.entriesWithin s) x t → r.FirstWithin s x t := by
    rintro x t ⟨ht, hleast⟩
    refine ⟨(r.mem_entriesWithin_iff hkeys s t x).mp ht, ?_⟩
    intro u hus hu
    exact hleast u ((r.mem_entriesWithin_iff hkeys s u x).mpr ⟨hus, hu⟩)
  refine ⟨((r.entriesWithin s).map Prod.snd).eraseDups, ⟨?_, ?_, ?_⟩, ?_⟩
  · refine (nodup_eraseDups _).map_on ?_
    intro x hx y hy
    exact hidentify x (List.mem_eraseDups.mp hx) y (List.mem_eraseDups.mp hy)
  · intro x
    rw [List.mem_eraseDups, List.mem_map]
    constructor
    · rintro ⟨⟨t, y⟩, he, rfl⟩
      exact ⟨t, (r.mem_entriesWithin_iff hkeys s t y).mp he⟩
    · rintro ⟨t, ht⟩
      exact ⟨(t, x), (r.mem_entriesWithin_iff hkeys s t x).mpr ht, rfl⟩
  · refine (pairwise_eraseDups _ hbefore).imp ?_
    rintro x y ⟨t, u, ht, hu, htu⟩
    exact ⟨t, u, hfirst x t ht, hfirst y u hu, htu⟩
  · rw [violationsWithin, eraseDupsBy_number _ hidentify]

/-- No violation is without words. -/
theorem text_ne_empty (v : Violation) : v.text ≠ "" := by
  intro h
  have hlength := congrArg String.length h
  have hline : "\n".length = 1 := rfl
  have hempty : "".length = 0 := rfl
  simp only [Violation.text, String.length_append, hline, hempty] at hlength
  omega

theorem intercalate_eq_empty_iff (separator : String) (texts : List String)
    (h : ∀ text ∈ texts, text ≠ "") : separator.intercalate texts = "" ↔ texts = [] := by
  constructor
  · intro hempty
    rcases texts with _ | ⟨text, _ | ⟨text', texts⟩⟩
    · rfl
    · rw [String.intercalate_singleton] at hempty
      exact absurd hempty (h text List.mem_cons_self)
    · rw [String.intercalate_cons_cons, String.append_assoc] at hempty
      exact absurd (String.append_eq_empty_iff.mp hempty).1 (h text List.mem_cons_self)
  · rintro rfl
    exact String.intercalate_nil

/-- A section failed if there are messages for it. -/
theorem failed_iff_message (r : Report) (vs : List Violation) (hkeys : r.keys.Nodup)
    (hnumbered : r.Numbered vs) (s : Section) :
    r.status s = .failed ↔ r.sectionMessages s ≠ "" := by
  rcases r.exists_lists vs hkeys hnumbered s with ⟨xs, hlists, hxs⟩
  have htexts : ∀ text ∈ (r.violationsWithin s).map Violation.text, text ≠ "" := by
    intro text htext
    rcases List.mem_map.mp htext with ⟨v, -, rfl⟩
    exact text_ne_empty v
  rw [failed_iff_violation, sectionMessages, ne_eq, intercalate_eq_empty_iff _ _ htexts, hxs,
    List.map_eq_nil_iff, List.map_eq_nil_iff, List.eq_nil_iff_forall_not_mem, not_forall]
  constructor
  · rintro ⟨t, hts, ht⟩
    rw [violationFor?, Option.isSome_map] at ht
    rcases Option.isSome_iff_exists.mp ht with ⟨x, hx⟩
    exact ⟨x, not_not.mpr ((hlists.members x).mpr ⟨t, hts, hx⟩)⟩
  · rintro ⟨x, hx⟩
    rcases (hlists.members x).mp (not_not.mp hx) with ⟨t, hts, ht⟩
    refine ⟨t, hts, ?_⟩
    rw [violationFor?, ht]
    rfl

theorem places_eq (r : Report) : r.lines.map Line.place = r.knownSections := by
  rw [lines, List.map_map]
  exact List.map_id _

/-- The lines of a report are in order, and none is repeated. -/
theorem places_before (r : Report) : (r.lines.map Line.place).Pairwise Section.Before := by
  rw [places_eq]
  exact pairwise_before _ (nodup_eraseDups _)

/-- There is a line for every section of a clause, every section that holds a violation, and
every section that was checked. -/
theorem mem_places_iff (r : Report) (s : Section) :
    s ∈ r.lines.map Line.place ↔
      (∃ c : Clause, c.toSection = s) ∨ (r.violationFor? s).isSome = true ∨ s ∈ r.exercised := by
  rw [places_eq, knownSections, List.mem_mergeSort, List.mem_eraseDups, List.mem_append,
    List.mem_append, List.mem_map, violationFor?_isSome_iff, or_assoc]
  simp only [Clause.mem_all, true_and]
  rfl

/-- A line shows what the report says of its section. -/
theorem line_shows (r : Report) (l : Line) (hl : l ∈ r.lines) :
    l = ⟨l.place, l.place.title?, r.status l.place, r.violationFor? l.place⟩ := by
  rcases List.mem_map.mp hl with ⟨s, -, rfl⟩
  rfl

end Report

namespace Workspace

/-- The violations recorded on a report by any worker, cleared or not. -/
def everRecorded (h : List Event) (i : ReportId) : List Violation :=
  h.filterMap (Event.recorded? i)

/-- Numbers identify recordings, in any history. -/
theorem numbered_run (h : List Event) (i : ReportId) :
    ((run h).report i).Numbered (everRecorded h i) := by
  induction h using List.reverseRecOn with
  | nil => exact ⟨rfl, fun e he => absurd he List.not_mem_nil⟩
  | append_singleton h e ih =>
      have hever : everRecorded (h ++ [e]) i =
          everRecorded h i ++ (e.recorded? i).toList := by
        rw [everRecorded, List.filterMap_append, List.filterMap_cons, List.filterMap_nil]
        cases e.recorded? i with
        | none => rfl
        | some v => rfl
      rw [run_concat, report_apply, hever]
      by_cases hi : e.report = i
      · rw [if_pos hi, Event.recorded?, if_pos hi]
        have hact := Report.numbered_act _ e.worker e.action _ ih
        cases haction : e.action with
        | record v => rw [haction] at hact; exact hact
        | exercise s => rw [haction] at hact; exact hact
        | beginTest => rw [haction] at hact; exact hact
        | clear => rw [haction] at hact; exact hact
      · rw [if_neg hi, Event.recorded?, if_neg hi, Option.toList_none, List.append_nil]
        exact ih

end Workspace

end SamlConformance
