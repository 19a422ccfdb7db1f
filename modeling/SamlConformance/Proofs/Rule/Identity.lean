import Mathlib.Data.List.Nodup
import SamlConformance.Proofs.Rule.Breaches.Core

/-!
# Identifiers That Are Not Unique

An identifier that stands on several elements is reported once, at the second of them. What is
reported is therefore a matter of counting, and the order of the reports is one of places: an
identifier that stands on three elements comes before one whose second element is behind its
own second, wherever the first elements of the two are.

Elements without an identifier take up places too. So the places are counted over what each
element carries, which may be nothing, while the rule looks through the identifiers alone. The
induction below runs over the elements and keeps the two in step: what has been seen is what
the elements so far carry.

To find the second occurrences, it is enough to remember the values that were seen and those
that were reported, each without saying how often (`repeatedWith`). A value that was seen twice
has been reported, which is what the two sets together know.

## Main definitions

* `repeatedWith`: The repeated values, found with one set of seen and one of reported values.
* `IsSecond`: The place at which a value stands for the second time.
* `DataTypes.carried`: What the elements of a document carry as their identifiers.

## Theorems

* `repeatedWith_eq`: The two sets find the repeated values.
* `nodup_repeatedAfter`: No value is repeated twice.
* `exists_places`: The repeated values stand in the order of their second places.
* `DataTypes.filter_breaches`: The reports of a rule that are about identifiers.
* `DataTypes.repeated_reported`: Each identifier of several elements is reported once.
-/

namespace SamlConformance

open Xml (Element)

section

variable {α : Type} [BEq α] [LawfulBEq α]

/-- The repeated values, by means of those that were seen and those that were reported. -/
def repeatedWith (seen reported : List α) : List α → List α
  | [] => []
  | x :: xs =>
    if seen.contains x then
      if reported.contains x then repeatedWith seen reported xs
      else x :: repeatedWith seen (x :: reported) xs
    else repeatedWith (x :: seen) reported xs

/-- Two sets find what counting finds, as long as they hold what has been counted once and
what has been counted twice. -/
theorem repeatedWith_eq (seen reported counted xs : List α)
    (hseen : ∀ x, x ∈ seen ↔ 1 ≤ counted.count x)
    (hreported : ∀ x, x ∈ reported ↔ 2 ≤ counted.count x) :
    repeatedWith seen reported xs = repeatedAfter counted xs := by
  induction xs generalizing seen reported counted with
  | nil => rfl
  | cons x xs ih =>
      have hself : (x :: counted).count x = counted.count x + 1 := List.count_cons_self
      have hother : ∀ y, y ≠ x → (x :: counted).count y = counted.count y :=
        fun y hy => List.count_cons_of_ne hy.symm
      have hx := hseen x
      have hx2 := hreported x
      rw [repeatedWith, repeatedAfter]
      by_cases hold : x ∈ seen
      · rw [if_pos (List.contains_iff_mem.mpr hold)]
        have hseen' : ∀ y, y ∈ seen ↔ 1 ≤ (x :: counted).count y := by
          intro y
          by_cases hy : y = x
          · subst hy
            exact iff_of_true hold (by omega)
          · rw [hother y hy, hseen y]
        by_cases htold : x ∈ reported
        · rw [if_pos (List.contains_iff_mem.mpr htold), if_neg (by rw [hx2] at htold; omega)]
          refine ih seen reported (x :: counted) hseen' ?_
          intro y
          by_cases hy : y = x
          · subst hy
            exact iff_of_true htold (by rw [hx2] at htold; omega)
          · rw [hother y hy, hreported y]
        · -- Seen and not reported: this is the second occurrence.
          rw [if_neg (fun h => htold (List.contains_iff_mem.mp h)),
            if_pos (by rw [hx] at hold; rw [hx2] at htold; omega)]
          refine congrArg (x :: ·) (ih seen (x :: reported) (x :: counted) hseen' ?_)
          intro y
          rw [List.mem_cons]
          by_cases hy : y = x
          · subst hy
            exact iff_of_true (Or.inl rfl) (by rw [hx] at hold; omega)
          · rw [hother y hy, or_iff_right hy, hreported y]
      · have hnone : counted.count x = 0 := by rw [hx] at hold; omega
        rw [if_neg (fun h => hold (List.contains_iff_mem.mp h)), if_neg (by omega)]
        refine ih (x :: seen) reported (x :: counted) ?_ ?_
        · intro y
          rw [List.mem_cons]
          by_cases hy : y = x
          · subst hy
            exact iff_of_true (Or.inl rfl) (by omega)
          · rw [hother y hy, or_iff_right hy, hseen y]
        · intro y
          by_cases hy : y = x
          · subst hy
            rw [hx2, hself]
            omega
          · rw [hother y hy, hreported y]

/-- No value is repeated twice. -/
theorem nodup_repeatedAfter (seen xs : List α) : (repeatedAfter seen xs).Nodup := by
  induction xs generalizing seen with
  | nil => exact List.nodup_nil
  | cons x xs ih =>
      rw [repeatedAfter]
      by_cases hone : seen.count x = 1
      · rw [if_pos hone, List.nodup_cons]
        refine ⟨?_, ih (x :: seen)⟩
        -- Once it has been seen twice, it is not looked for any more.
        intro hmem
        have htwice := ((mem_repeatedAfter (x :: seen) xs x).mp hmem).1
        rw [List.count_cons_self] at htwice
        omega
      · rw [if_neg hone]
        exact ih (x :: seen)

/-- The value stands at that place, and at one place before it. -/
def IsSecond (xs : List (Option α)) (x : α) (place : Nat) : Prop :=
  xs[place]? = some (some x) ∧ (xs.take place).count (some x) = 1

omit [LawfulBEq α] in
/-- Behind some others, the repeated values stand in the order of their second places. -/
theorem exists_places (before xs : List (Option α)) (seen : List α)
    (hseen : ∀ x, seen.count x = before.count (some x)) :
    ∃ places : List Nat,
      List.Forall₂ (IsSecond (before ++ xs)) (repeatedAfter seen (xs.filterMap id)) places ∧
        places.Pairwise (· < ·) ∧ ∀ place ∈ places, before.length ≤ place := by
  induction xs generalizing before seen with
  | nil => exact ⟨[], List.Forall₂.nil, List.Pairwise.nil, fun _ h => absurd h List.not_mem_nil⟩
  | cons o xs ih =>
      have hsplit : before ++ o :: xs = (before ++ [o]) ++ xs := by
        rw [List.append_assoc, List.singleton_append]
      cases o with
      | none =>
          -- A place that is taken up, and nothing to be seen.
          have hnone : ∀ x, seen.count x = (before ++ [none]).count (some x) := by
            intro x
            rw [hseen, List.count_append, List.count_singleton]
            rfl
          rcases ih (before ++ [none]) seen hnone with ⟨places, hplaces, hsorted, hbound⟩
          refine ⟨places, hsplit ▸ hplaces, hsorted, ?_⟩
          intro place hplace
          have := hbound place hplace
          rw [List.length_append, List.length_singleton] at this
          omega
      | some x =>
          have hcounted : ∀ y, (x :: seen).count y = (before ++ [some x]).count (some y) := by
            intro y
            rw [List.count_cons, hseen, List.count_append, List.count_singleton]
            rfl
          rcases ih (before ++ [some x]) (x :: seen) hcounted with
            ⟨places, hplaces, hsorted, hbound⟩
          rw [← hsplit] at hplaces
          have hbehind : ∀ place ∈ places, before.length < place := by
            intro place hplace
            have := hbound place hplace
            rw [List.length_append, List.length_singleton] at this
            omega
          have hvalues : (some x :: xs).filterMap id = x :: xs.filterMap id := rfl
          rw [hvalues, repeatedAfter]
          by_cases hone : seen.count x = 1
          · rw [if_pos hone]
            refine ⟨before.length :: places, List.Forall₂.cons ⟨?_, ?_⟩ hplaces,
              List.pairwise_cons.mpr ⟨hbehind, hsorted⟩, ?_⟩
            · rw [List.getElem?_append_right (Nat.le_refl _), Nat.sub_self, List.getElem?_cons_zero]
            · rw [List.take_left, ← hseen, hone]
            · intro place hplace
              rcases List.mem_cons.mp hplace with rfl | hplace
              · exact Nat.le_refl _
              · exact Nat.le_of_lt (hbehind place hplace)
          · rw [if_neg hone]
            exact ⟨places, hplaces, hsorted,
              fun place hplace => Nat.le_of_lt (hbehind place hplace)⟩

/-- Of two values, the one whose second occurrence comes first. -/
example : repeatedAfter [] ["a", "b", "b", "a", "b"] = ["b", "a"] := by decide

end

namespace DataTypes

/-- What the elements carry as their identifiers, in document order. -/
def carried (root : Element) : List (Option String) :=
  root.self.map fun e => e.attribute? "ID"

theorem ids_eq (root : Element) : ids root = (carried root).filterMap id := by
  rw [ids, carried, List.filterMap_map]
  rfl

theorem count_ids (root : Element) (id : String) :
    (ids root).count id = (carried root).count (some id) := by
  rw [ids, carried, List.count_filterMap, List.count, List.countP_map]
  rfl

/-- The findings about identifiers name them. -/
theorem notUnique_injective : Function.Injective notUnique := by
  intro a b h
  have hmessage : "The ID value of [" ++ a ++ "] is not unique." =
      "The ID value of [" ++ b ++ "] is not unique." := congrArg Violation.message h
  rwa [String.append_left_inj, String.append_right_inj] at hmessage

/-- What a single value breaches is not the clause about identifiers. -/
theorem filter_breaches_of_values (vs : List Violation) (h : OnlyBreach vs breachedByValues) :
    vs.filter (·.breaches .core_1_3_4_a) = [] := by
  rw [List.filter_eq_nil_iff]
  intro v hv hbreach
  have hclause : Clause.core_1_3_4_a ∈ breachedByValues := h v hv (List.contains_iff_mem.mp hbreach)
  exact absurd hclause (by decide)

/-- Of what the rule reports, only the findings about identifiers are about their clause. -/
theorem filter_breaches (r : Reply) :
    (rule.check r).violations.filter (·.breaches .core_1_3_4_a) = idFindings r.root := by
  have htyped := filter_breaches_of_values _
    (onlyBreach_flatMap r.root.self onlyBreach_typedFindings)
  have htimes := filter_breaches_of_values _
    (onlyBreach_flatMap r.root.descendants onlyBreach_timesFindings)
  have hids : (idFindings r.root).filter (·.breaches .core_1_3_4_a) = idFindings r.root := by
    rw [List.filter_eq_self]
    intro v hv
    rcases List.mem_map.mp hv with ⟨id, -, rfl⟩
    exact List.contains_iff_mem.mpr List.mem_cons_self
  have hreport : (rule.check r).violations = r.root.self.flatMap typedFindings ++
      r.root.descendants.flatMap timesFindings ++ idFindings r.root :=
    Outcome.violations_report _
  rw [hreport, List.filter_append, List.filter_append, htyped, htimes, hids]
  rfl

/-- Each identifier that two or more elements carry, the document element included, is
reported once and by name, and no other is reported. The reports stand in the order of the
places at which the identifiers stand for the second time. -/
theorem repeated_reported (r : Reply) :
    let reports := (rule.check r).violations.filter (·.breaches .core_1_3_4_a)
    (∀ id, reports.count (notUnique id) =
        if 2 ≤ (carried r.root).count (some id) then 1 else 0) ∧
      ∃ ids places, reports = ids.map notUnique ∧
        List.Forall₂ (IsSecond (carried r.root)) ids places ∧ places.Pairwise (· < ·) := by
  intro reports
  have hreports : reports = (repeatedValues (ids r.root)).map notUnique := filter_breaches r
  constructor
  · intro id
    have hnodup : reports.Nodup := by
      rw [hreports, List.nodup_map_iff notUnique_injective]
      exact nodup_repeatedAfter [] (ids r.root)
    have hmem : notUnique id ∈ reports ↔ 2 ≤ (carried r.root).count (some id) := by
      rw [hreports, List.mem_map_of_injective notUnique_injective, mem_repeatedValues, count_ids]
    rw [hnodup.count]
    by_cases htwice : 2 ≤ (carried r.root).count (some id)
    · rw [if_pos htwice, if_pos (hmem.mpr htwice)]
    · rw [if_neg htwice, if_neg fun h => htwice (hmem.mp h)]
  · rcases exists_places [] (carried r.root) [] (fun _ => rfl) with ⟨places, hplaces, hsorted, -⟩
    rw [List.nil_append, ← ids_eq] at hplaces
    exact ⟨repeatedValues (ids r.root), places, hreports, hplaces, hsorted⟩

end DataTypes

end SamlConformance
