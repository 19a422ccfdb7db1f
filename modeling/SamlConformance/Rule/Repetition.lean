/-!
# Repetitions

Values that must be unique are looked at in document order. A value is repeated
at its second occurrence, and later ones add nothing.

## Main definitions

* `repeatedValues`: The repeated values, in the order of their second occurrences.

## Theorems

* `mem_repeatedValues`: The repeated values are those that occur twice or more.
* `repeatedValues_eq_nil_iff`: There are none if and only if all values differ.
-/

namespace SamlConformance

variable {α : Type} [BEq α]

/-- The values that occur for the second time, after some that were seen. -/
def repeatedAfter (seen : List α) : List α → List α
  | [] => []
  | x :: xs =>
    let more := repeatedAfter (x :: seen) xs
    if seen.count x = 1 then x :: more else more

/-- The repeated values, in the order of their second occurrences. -/
def repeatedValues (xs : List α) : List α :=
  repeatedAfter [] xs

section

variable [LawfulBEq α]

/-- A value is repeated if it has been seen once at most and occurs twice in all. -/
theorem mem_repeatedAfter (seen xs : List α) (x : α) :
    x ∈ repeatedAfter seen xs ↔ seen.count x ≤ 1 ∧ 2 ≤ seen.count x + xs.count x := by
  induction xs generalizing seen with
  | nil =>
      rw [repeatedAfter, List.count_nil]
      exact ⟨fun h => absurd h List.not_mem_nil, fun ⟨hone, htwo⟩ => by omega⟩
  | cons y ys ih =>
      have hmore := ih (y :: seen)
      by_cases hxy : y = x
      · subst hxy
        rw [List.count_cons_self] at hmore
        rw [repeatedAfter, List.count_cons_self]
        by_cases hone : seen.count y = 1
        · rw [if_pos hone]
          exact ⟨fun _ => by omega, fun _ => List.mem_cons_self⟩
        · rw [if_neg hone, hmore]
          omega
      · rw [List.count_cons_of_ne hxy] at hmore
        rw [repeatedAfter, List.count_cons_of_ne hxy]
        by_cases hone : seen.count y = 1
        · rw [if_pos hone, List.mem_cons, hmore, or_iff_right (Ne.symm hxy)]
        · rw [if_neg hone, hmore]

/-- The repeated values are those that occur twice or more. -/
theorem mem_repeatedValues (xs : List α) (x : α) : x ∈ repeatedValues xs ↔ 2 ≤ xs.count x := by
  rw [repeatedValues, mem_repeatedAfter, List.count_nil, Nat.zero_add]
  exact and_iff_right (Nat.zero_le 1)

/-- Nothing is repeated if and only if all values differ. -/
theorem repeatedValues_eq_nil_iff (xs : List α) : repeatedValues xs = [] ↔ xs.Nodup := by
  rw [List.eq_nil_iff_forall_not_mem, List.nodup_iff_count]
  refine forall_congr' fun x => ?_
  rw [mem_repeatedValues]
  omega

end

end SamlConformance
