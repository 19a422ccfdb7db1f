import SamlConformance.Message.Received

/-!
# Queries and Their Parameters

Writing parameters one after the other, with an ampersand between them and an
equals sign inside each, and reading them again gives the parameters back. This
takes no care about what a value holds, except that an ampersand would end it:
values are cut off at the first equals sign only, so that they may hold others. The
names have to be free of both, and must not begin with a question mark, which is
dropped in front of a query.

## Main definitions

* `Fields.segment`: The text of one parameter.
* `Fields.join`: The text of a query.
* `Fields.Separable`: A parameter that can be told from its neighbours.
* `Fields.without`: The fields that are left without some names.

## Theorems

* `ofQueryChars_join`: Reading a query inverts writing it.
* `get?_cons`: The first parameter of a name is the one that is read.
* `get?_without`: What is left without some names.
* `separable_parameter`: The names that responses use are fit for queries.
-/

namespace SamlConformance

namespace Fields

/-- The text of one parameter. -/
def segment (field : String × String) : List Char :=
  field.1.toList ++ '=' :: field.2.toList

/-- The text of a query. -/
def join (fields : Fields) : List Char :=
  ['&'].intercalate (fields.map segment)

/-- A parameter that can be told from its neighbours, and its name from its value. -/
structure Separable (field : String × String) : Prop where
  /-- The name goes up to the first equals sign. -/
  name : '=' ∉ field.1.toList
  /-- The parameter does not end in its name. -/
  nameEnd : '&' ∉ field.1.toList
  /-- Nor does it end in its value. -/
  valueEnd : '&' ∉ field.2.toList
  /-- Nothing of the name is dropped. -/
  front : '?' ∉ field.1.toList

theorem parameter_segment (field : String × String) (h : Separable field) :
    parameter (segment field) = field := by
  rw [parameter, segment, Text.cutFirst_append _ h.name]
  simp only [Option.getD_some, String.ofList_toList]

theorem not_mem_segment (field : String × String) (h : Separable field) :
    '&' ∉ segment field := by
  intro hmem
  rcases List.mem_append.mp hmem with hname | hvalue
  · exact h.nameEnd hname
  · rcases List.mem_cons.mp hvalue with heq | hvalue
    · exact absurd heq (by decide)
    · exact h.valueEnd hvalue

/-- A query does not begin with a question mark. -/
theorem dropWhile_join (fields : Fields) (h : ∀ f ∈ fields, Separable f) :
    (join fields).dropWhile (· == '?') = join fields := by
  match fields with
  | [] => rfl
  | field :: rest =>
      have hfield := h field List.mem_cons_self
      -- What follows the first parameter plays no part.
      obtain ⟨tail, htail⟩ : ∃ tail, join (field :: rest) = segment field ++ tail := by
        cases rest with
        | nil => exact ⟨[], by simp only [join, List.map_cons, List.map_nil,
            List.intercalate_singleton, List.append_nil]⟩
        | cons next rest => exact ⟨_, List.intercalate_cons_cons.trans (List.append_assoc _ _ _)⟩
      rw [htail, segment]
      cases hname : field.1.toList with
      | nil => rw [List.nil_append, List.cons_append, List.dropWhile_cons_of_neg (by decide)]
      | cons c cs =>
          have hc : c ≠ '?' := by
            rintro rfl
            exact hfield.front (hname ▸ List.mem_cons_self)
          rw [List.cons_append, List.cons_append, List.dropWhile_cons_of_neg
            (by rw [beq_false_of_ne hc]; exact Bool.false_ne_true)]

/-- The pieces of a query are the texts of its parameters. -/
theorem splitOn_join (fields : Fields) (h : ∀ f ∈ fields, Separable f) (hfields : fields ≠ []) :
    (join fields).splitOn '&' = fields.map segment := by
  refine List.splitOn_intercalate '&' ?_ (by simpa only [ne_eq, List.map_eq_nil_iff])
  intro l hl
  rcases List.mem_map.mp hl with ⟨field, hfield, rfl⟩
  exact not_mem_segment field (h field hfield)

/-- The texts of parameters are read as these parameters. -/
theorem map_parameter_segment (fields : Fields) (h : ∀ f ∈ fields, Separable f) :
    (fields.map segment).map parameter = fields := by
  rw [List.map_map]
  refine (List.map_congr_left ?_).trans (List.map_id fields)
  intro field hfield
  exact parameter_segment field (h field hfield)

/-- Reading a query gives the parameters that it was written for, in order. -/
theorem ofQueryChars_join (fields : Fields) (h : ∀ f ∈ fields, Separable f) :
    ofQueryChars (join fields) = fields := by
  rw [ofQueryChars, dropWhile_join fields h]
  by_cases hfields : fields = []
  · subst hfields
    rfl
  -- No parameter is empty, as each has an equals sign in it.
  have hkeep : (fields.map segment).filter (fun s => !s.isEmpty) = fields.map segment := by
    rw [List.filter_eq_self]
    intro l hl
    rcases List.mem_map.mp hl with ⟨field, -, rfl⟩
    cases hname : field.1.toList with
    | nil => rw [segment, hname]; rfl
    | cons c cs => rw [segment, hname]; rfl
  rw [splitOn_join fields h hfields, hkeep, map_parameter_segment fields h]

/-- Different parameters have different names. -/
theorem name_injective (p q : Saml.Parameter) (h : p.name = q.name) : p = q := by
  revert h
  cases p <;> cases q <;> decide

/-- The first parameter either has the name or is passed over. -/
theorem get?_cons (p q : Saml.Parameter) (value : String) (rest : Fields) :
    get? ((p.name, value) :: rest) q.name = if p = q then some value else rest.get? q.name := by
  rw [get?, List.lookup_cons]
  by_cases hpq : p = q
  · rw [if_pos hpq, hpq, beq_self_eq_true]
  · have hname : q.name ≠ p.name := fun h => hpq (name_injective q p h).symm
    rw [if_neg hpq, beq_false_of_ne hname]
    rfl

/-- The fields that have none of these names. -/
def without (names : List String) (fields : Fields) : Fields :=
  fields.filter fun field => !names.contains field.1

/-- Leaving out fields leaves those of other names. -/
theorem get?_without (names : List String) (fields : Fields) (name : String) :
    (fields.without names).get? name = if name ∈ names then none else fields.get? name := by
  unfold without get?
  induction fields with
  | nil => rw [List.filter_nil, List.lookup_nil, ite_self]
  | cons field rest ih =>
      rcases field with ⟨key, value⟩
      by_cases hkey : key ∈ names
      · -- The field is left out, and its name is not the one that is asked for.
        have hout : (!names.contains key) = false := by
          rw [List.contains_iff_mem.mpr hkey, Bool.not_true]
        simp only [List.filter_cons, hout, Bool.false_eq_true, if_false]
        rw [ih]
        by_cases hname : name ∈ names
        · rw [if_pos hname, if_pos hname]
        · have hne : name ≠ key := fun h => hname (h ▸ hkey)
          rw [if_neg hname, if_neg hname, List.lookup_cons, beq_false_of_ne hne]
      · have hin : (!names.contains key) = true := by
          rw [Bool.not_eq_true', ← Bool.not_eq_true, List.contains_iff_mem]
          exact hkey
        simp only [List.filter_cons, hin, if_true]
        rw [List.lookup_cons, List.lookup_cons, ih]
        cases heq : name == key with
        | true =>
            have hname : name ∉ names := by
              rw [beq_iff_eq.mp heq]
              exact hkey
            exact (if_neg hname).symm
        | false => rfl

/-- The names that responses use are fit for queries. -/
theorem separable_parameter (p : Saml.Parameter) (value : String) (h : '&' ∉ value.toList) :
    Separable (p.name, value) := by
  have hname : '=' ∉ p.name.toList ∧ '&' ∉ p.name.toList ∧ '?' ∉ p.name.toList := by
    cases p <;> decide
  exact ⟨hname.1, hname.2.1, h, hname.2.2⟩

end Fields

end SamlConformance
