import SamlConformance.Proofs.Check.Apart
import SamlConformance.Proofs.Report.Printing

/-!
# The Clauses in a Failed Row

A row that failed names the clauses that were breached. Violations come from several groups
of rules, and one clause can be breached by many of them, so the row would name it many times
over. It leaves out what it has just named, and nothing else: a clause that comes back after
another one is named again (`details_repeated`).

Dropping neighbours that are equal loses no clause and changes no order, and what is left is
as long as it can be without naming a clause right after itself. Therefore a row names each
clause once if and only if the clauses come in runs, that is, none of them stands on both
sides of another.

## Main definitions

* `CheckRow.named`: The parts of the details between commas.
* `Checkup.clauseIds`: All clauses that violations breach, with repetitions.

## Theorems

* `sublist_destutter`: What has no equal neighbours is found in what is left.
* `destutter_eq_eraseDups_iff`: When leaving out neighbours is enough.
* `Checkup.named_test`: The details can be taken apart again.
* `Checkup.details_named`: What a failed row names.
-/

namespace SamlConformance

/-- Where no element stands next to itself, one that comes back has another in between. -/
theorem exists_between {α : Type} {l : List α} (hchain : l.IsChain (· ≠ ·)) (h : ¬ l.Nodup) :
    ∃ a b, a ≠ b ∧ [a, b, a].Sublist l := by
  induction l with
  | nil => exact absurd List.nodup_nil h
  | cons a l ih =>
      by_cases ha : a ∈ l
      · cases l with
        | nil => exact absurd ha List.not_mem_nil
        | cons b l =>
            have hab := (List.isChain_cons_cons.mp hchain).1
            have hlater : a ∈ l := (List.mem_cons.mp ha).resolve_left hab
            exact ⟨a, b, hab, ((List.singleton_sublist.mpr hlater).cons_cons b).cons_cons a⟩
      · have hl : ¬ l.Nodup := fun hl => h (List.nodup_cons.mpr ⟨ha, hl⟩)
        obtain ⟨x, y, hxy, hsub⟩ := ih hchain.tail hl
        exact ⟨x, y, hxy, hsub.cons a⟩

section

variable {α : Type} [DecidableEq α]

/-- A part of a list in which no element stands next to itself is still there when equal
neighbours are left out. -/
theorem sublist_destutter {s l : List α} (hchain : s.IsChain (· ≠ ·)) (h : s.Sublist l) :
    s.Sublist (l.destutter (· ≠ ·)) := by
  have hrest : ∀ (l s : List α) (a : α), s.IsChain (· ≠ ·) → s.Sublist (a :: l) →
      s.Sublist (l.destutter' (· ≠ ·) a) := by
    intro l
    induction l with
    | nil => exact fun s a _ h => h
    | cons b l ih =>
        intro s a hs h
        by_cases hab : a = b
        · -- The second of two equal neighbours goes; no part of the kind needs both.
          subst hab
          rw [List.destutter'_cons_neg _ (not_not.mpr rfl)]
          refine ih s a hs ?_
          rcases List.sublist_cons_iff.mp h with hl | ⟨s', rfl, hs'⟩
          · exact hl
          · rcases List.sublist_cons_iff.mp hs' with hl | ⟨s'', rfl, -⟩
            · exact hl.cons_cons a
            · exact absurd rfl (List.isChain_cons_cons.mp hs).1
        · rw [List.destutter'_cons_pos _ hab]
          rcases List.sublist_cons_iff.mp h with hl | ⟨s', rfl, hs'⟩
          · exact (ih s b hs hl).cons a
          · exact (ih s' b hs.tail hs').cons_cons a
  cases l with
  | nil => exact h
  | cons a l => exact hrest l s a hchain h

theorem nodup_destutter_iff (l : List α) :
    (l.destutter (· ≠ ·)).Nodup ↔ ∀ a b, a ≠ b → ¬ [a, b, a].Sublist l := by
  constructor
  · intro hnodup a b hab hsub
    have hchain : [a, b, a].IsChain (· ≠ ·) :=
      List.isChain_cons_cons.mpr ⟨hab, List.isChain_cons_cons.mpr
        ⟨hab.symm, List.isChain_singleton a⟩⟩
    have htwice : [a, a].Sublist (l.destutter (· ≠ ·)) :=
      (((List.Sublist.refl [a]).cons b).cons_cons a).trans (sublist_destutter hchain hsub)
    exact List.nodup_iff_sublist.mp hnodup a htwice
  · intro hruns
    by_contra hnodup
    obtain ⟨a, b, hab, hsub⟩ := exists_between (List.isChain_destutter _ l) hnodup
    exact hruns a b hab (hsub.trans (List.destutter_sublist _ l))

end

section

variable {α : Type} [BEq α] [LawfulBEq α]

theorem filter_eraseDups (p : α → Bool) (l : List α) :
    (l.filter p).eraseDups = l.eraseDups.filter p := by
  induction hn : l.length using Nat.strongRecOn generalizing l with
  | ind n ih =>
      cases l with
      | nil => rfl
      | cons a l =>
          -- The repetitions of the first element are as good as gone.
          have hshorter : (l.filter fun b => !b == a).length < n := by
            have hlength := List.length_filter_le (fun b => !b == a) l
            rw [List.length_cons] at hn
            omega
          have hothers := ih _ hshorter (l.filter fun b => !b == a) rfl
          by_cases hp : p a = true
          · rw [List.filter_cons_of_pos hp, List.eraseDups_cons, List.eraseDups_cons,
              List.filter_cons_of_pos hp, ← hothers, List.filter_filter, List.filter_filter]
            simp only [Bool.and_comm]
          · have hgone : l.filter p = (l.filter fun b => !b == a).filter p := by
              rw [List.filter_filter]
              refine List.filter_congr fun b _ => ?_
              by_cases hb : b = a
              · rw [hb, Bool.eq_false_iff.mpr hp, Bool.false_and]
              · rw [beq_eq_false_iff_ne.mpr hb, Bool.not_false, Bool.and_true]
            rw [List.filter_cons_of_neg hp, List.eraseDups_cons, List.filter_cons_of_neg hp,
              hgone, hothers]

theorem eraseDups_cons_eq (a : α) (l : List α) :
    (a :: l).eraseDups = a :: l.eraseDups.filter fun b => !b == a := by
  rw [List.eraseDups_cons, filter_eraseDups]

theorem eraseDups_of_nodup {l : List α} (h : l.Nodup) : l.eraseDups = l := by
  induction l with
  | nil => rfl
  | cons a l ih =>
      obtain ⟨ha, hl⟩ := List.nodup_cons.mp h
      rw [eraseDups_cons_eq, ih hl, List.filter_eq_self.mpr]
      intro b hb
      rw [Bool.not_eq_true', beq_eq_false_iff_ne]
      rintro rfl
      exact ha hb

variable [DecidableEq α]

/-- The order in which elements come up first does not depend on equal neighbours. -/
theorem eraseDups_destutter (l : List α) :
    (l.destutter (· ≠ ·)).eraseDups = l.eraseDups := by
  have hrest : ∀ (l : List α) (a : α),
      (l.destutter' (· ≠ ·) a).eraseDups = (a :: l).eraseDups := by
    intro l
    induction l with
    | nil => exact fun a => rfl
    | cons b l ih =>
        intro a
        by_cases hab : a = b
        · subst hab
          rw [List.destutter'_cons_neg _ (not_not.mpr rfl), ih, eraseDups_cons_eq a (a :: l),
            eraseDups_cons_eq, List.filter_cons_of_neg (by simp), List.filter_filter]
          simp only [Bool.and_self]
        · rw [List.destutter'_cons_pos _ hab, eraseDups_cons_eq, ih, ← eraseDups_cons_eq]
  cases l with
  | nil => rfl
  | cons a l => exact hrest l a

/-- Leaving out equal neighbours leaves each element once if and only if none stands on both
sides of another. -/
theorem destutter_eq_eraseDups_iff (l : List α) :
    l.destutter (· ≠ ·) = l.eraseDups ↔ ∀ a b, a ≠ b → ¬ [a, b, a].Sublist l := by
  rw [← nodup_destutter_iff]
  constructor
  · intro h
    rw [h]
    exact nodup_eraseDups l
  · intro h
    rw [← eraseDups_destutter l, eraseDups_of_nodup h]

end

/-- The parts of a text between commas with a space behind them. -/
def Text.listed : List Char → List (List Char)
  | [] => [[]]
  | ',' :: ' ' :: cs => [] :: listed cs
  | c :: cs => (listed cs).modifyHead (c :: ·)

namespace Text

theorem listed_cons (c : Char) (cs : List Char) (hc : c ≠ ',') :
    listed (c :: cs) = (listed cs).modifyHead (c :: ·) := by
  rw [listed]
  rintro _ rfl
  exact absurd rfl hc

theorem listed_of_not_mem {part : List Char} (h : ',' ∉ part) : listed part = [part] := by
  induction part with
  | nil => rfl
  | cons c part ih =>
      have hc : c ≠ ',' := fun hc => h (hc ▸ List.mem_cons_self)
      rw [listed_cons c part hc, ih fun hmem => h (List.mem_cons_of_mem c hmem)]
      rfl

theorem listed_append {part : List Char} (rest : List Char) (h : ',' ∉ part) :
    listed (part ++ ',' :: ' ' :: rest) = part :: listed rest := by
  induction part with
  | nil => rw [List.nil_append, listed]
  | cons c part ih =>
      have hc : c ≠ ',' := fun hc => h (hc ▸ List.mem_cons_self)
      rw [List.cons_append, listed_cons c _ hc, ih fun hmem => h (List.mem_cons_of_mem c hmem)]
      rfl

/-- A list without commas in its parts can be taken apart again. -/
theorem listed_intercalate (parts : List (List Char)) (hparts : parts ≠ [])
    (h : ∀ part ∈ parts, ',' ∉ part) : listed (", ".toList.intercalate parts) = parts := by
  induction parts with
  | nil => exact absurd rfl hparts
  | cons part parts ih =>
      have hpart := h part List.mem_cons_self
      cases parts with
      | nil => rw [List.intercalate_singleton, listed_of_not_mem hpart]
      | cons next parts =>
          have hrest := ih (List.cons_ne_nil next parts)
            fun p hp => h p (List.mem_cons_of_mem part hp)
          rw [List.intercalate_cons_cons, List.append_assoc]
          exact (listed_append _ hpart).trans (congrArg (part :: ·) hrest)

end Text

theorem Clause.comma_not_mem_id (c : Clause) : ',' ∉ c.id.toList := by
  have hdocument : ∀ d : Document, ',' ∉ d.name.toList := by
    intro d
    cases d <;> decide
  have hletter : ∀ c ∈ Clause.all, c.place.letter ≠ some ',' := by decide
  have hname := Section.not_mem_name ',' (by decide) (by decide)
    ⟨c.place.document, c.place.paragraph⟩ (hdocument _)
  rw [id]
  split
  · rename_i l hl
    rw [String.toList_push, String.toList_push, List.append_assoc, List.mem_append]
    rintro (hmem | hmem)
    · exact hname hmem
    · rcases List.mem_cons.mp hmem with hunderscore | hlast
      · exact absurd hunderscore (by decide)
      · exact hletter c (Clause.mem_all c) (List.mem_singleton.mp hlast ▸ hl)
  · exact hname

/-- What a row names. -/
def CheckRow.named (row : CheckRow) : List String :=
  (Text.listed row.details.toList).map String.ofList

namespace Checkup

/-- The clauses that violations breach, in order and with all repetitions. -/
def clauseIds (vs : List Violation) : List String :=
  vs.flatMap fun v => v.clauses.map Clause.id

theorem breached_eq (vs : List Violation) :
    breached vs = (clauseIds vs).destutter (· ≠ ·) :=
  eraseReps_eq_destutter (clauseIds vs)

theorem mem_breached_iff (vs : List Violation) (id : String) :
    id ∈ breached vs ↔ ∃ v ∈ vs, ∃ c ∈ v.clauses, c.id = id := by
  rw [breached_eq, ← List.mem_eraseDups, eraseDups_destutter, List.mem_eraseDups, clauseIds]
  simp only [List.mem_flatMap, List.mem_map]

section

variable (u : Checkup)

/-- A row that failed names what was breached. -/
theorem named_test {f : CaptureFile} {c : Capture} {request : Request} {received : Received}
    (h : u.Ready f c request received) (w : Worker) (r : Report) (v : Violation)
    (vs : List Violation)
    (hrun : (Session.run { report := r.beginTest w } u.judge w received request).1 =
      .ok (v :: vs)) :
    (u.test w r f).1.named = breached (v :: vs) := by
  have hne : breached (v :: vs) ≠ [] :=
    fun hnil => absurd ((breached_eq_nil_iff _).mp hnil) (List.cons_ne_nil v vs)
  have hdetails : (u.test w r f).1.details = String.intercalate ", " (breached (v :: vs)) := by
    rw [test, attempt_of_ready u h]
    rcases hsession : Session.run { report := r.beginTest w } u.judge w received request with
      ⟨answer, s⟩
    rw [hsession] at hrun
    obtain rfl : answer = .ok (v :: vs) := hrun
    cases hids : breached (v :: vs) with
    | nil => exact absurd hids hne
    | cons id ids => simp only [hids]
  have hcommas : ∀ part ∈ (breached (v :: vs)).map String.toList, ',' ∉ part := by
    intro part hpart
    obtain ⟨id, hid, rfl⟩ := List.mem_map.mp hpart
    obtain ⟨_, -, c, -, rfl⟩ := (mem_breached_iff _ id).mp hid
    exact c.comma_not_mem_id
  rw [CheckRow.named, hdetails, String.toList_intercalate,
    Text.listed_intercalate _ (fun hnil => hne (List.map_eq_nil_iff.mp hnil)) hcommas,
    List.map_map]
  refine List.map_id'' (fun id => ?_) _
  exact String.ofList_toList

end

/-- A row that failed names nothing but clauses that were breached, and all of them, in the
order in which they first come up. It leaves out what it has just named; so it names each
clause once if and only if no clause is breached before and after another one. -/
theorem details_named (u : Checkup) (w : Worker) (r : Report) (f : CaptureFile)
    (h : (u.test w r f).1.verdict = .fail) :
    ∃ c request received vs, u.Ready f c request received ∧
      (Session.run { report := r.beginTest w } u.judge w received request).1 = .ok vs ∧
      (u.test w r f).1.named = (clauseIds vs).destutter (· ≠ ·) ∧
      (∀ id, id ∈ (u.test w r f).1.named ↔ ∃ v ∈ vs, ∃ c ∈ v.clauses, c.id = id) ∧
      (u.test w r f).1.named.eraseDups = (clauseIds vs).eraseDups ∧
      ((u.test w r f).1.named = (clauseIds vs).eraseDups ↔
        ∀ a b, a ≠ b → ¬ [a, b, a].Sublist (clauseIds vs)) := by
  obtain ⟨c, request, received, hready, v, vs, hrun⟩ := (u.verdict_fail_iff w r f).mp h
  have hnamed := u.named_test hready w r v vs hrun
  have hkept := hnamed.trans (breached_eq (v :: vs))
  refine ⟨c, request, received, v :: vs, hready, hrun, hkept, ?_, ?_, ?_⟩
  · intro id
    rw [hnamed]
    exact mem_breached_iff (v :: vs) id
  · rw [hkept]
    exact eraseDups_destutter (clauseIds (v :: vs))
  · rw [hkept]
    exact destutter_eq_eraseDups_iff (clauseIds (v :: vs))

/-- A checkup with the configuration as it is without a file. -/
def plainCheckup : Checkup where
  config := {}
  metadata := { entityId := "https://idp.example.com" }
  responder := .generic

/-- A captured form with a response that names an empty destination. -/
def misdirectedFile : CaptureFile :=
  ⟨"a.json", .ok "\x7b\"binding\":\"post\",\"status\":200,\"request_id\":\"_1\",\"acs_url\":\"/\",\"body\":\"<input name=SAMLResponse value=PFJlc3BvbnNlIHhtbG5zPSJ1cm46b2FzaXM6bmFtZXM6dGM6U0FNTDoyLjA6cHJvdG9jb2wiIElEPSIiIERlc3RpbmF0aW9uPSIiLz4=>\"\x7d"⟩

theorem test_misdirectedFile :
    (plainCheckup.test 0 .empty misdirectedFile).1 = ⟨"a", .fail,
      "Core.3.2.2_b, Core.3.2.2_c, Core.3.2.2_d, Core.3.2.2_e, Core.1.3.2_a, Core.3.2.2_e, Core.3.2.2.2_a, Profiles.4.1.4.2_b"⟩ := by
  decide +kernel

/-- Its clauses do not come in runs. -/
theorem details_named_misdirectedFile :
    (plainCheckup.test 0 .empty misdirectedFile).1.verdict = .fail ∧
      ∃ vs, (plainCheckup.test 0 .empty misdirectedFile).1.named =
          (clauseIds vs).destutter (· ≠ ·) ∧
        ∃ a b, a ≠ b ∧ [a, b, a].Sublist (clauseIds vs) := by
  have hfail : (plainCheckup.test 0 .empty misdirectedFile).1.verdict = .fail := by
    rw [test_misdirectedFile]
  obtain ⟨_, _, _, vs, -, -, hnamed, -, -, honce⟩ :=
    details_named plainCheckup 0 .empty misdirectedFile hfail
  refine ⟨hfail, vs, hnamed, ?_⟩
  by_contra hruns
  push Not at hruns
  have hnodup := nodup_eraseDups (clauseIds vs)
  rw [← honce.mpr hruns, test_misdirectedFile] at hnodup
  exact absurd hnodup (by decide +kernel)

/-- One of them is named twice. -/
theorem details_repeated :
    (plainCheckup.test 0 .empty misdirectedFile).1.verdict = .fail ∧
      (plainCheckup.test 0 .empty misdirectedFile).1.named.count Clause.core_3_2_2_e.id = 2 := by
  rw [test_misdirectedFile]
  exact ⟨rfl, by decide +kernel⟩

end Checkup

end SamlConformance
