import SamlConformance.Idp.Responder
import SamlConformance.Proofs.Message.Fields

/-!
# Reading the Location of a Redirect

A message that comes by redirect stands in an address, between the first question mark and
the fragment. Signatures are made over the octets that were sent, so the fields have to be
taken out of the address as they stand: cut apart and not decoded.

Four separators are at work, and each is looked for in a text that may hold the others. The
fragment may hold question marks and ampersands, because it is cut off before they are looked
for. A value may hold question marks and equals signs, because of these only the first one
counts, and that stands in front of the value. All that a value cannot hold is an ampersand or
a number sign.

Reading goes over an ampersand: the parameters of two stretches of a query with an ampersand
between them are those of the first and those of the second (`parameters_append`). An empty
stretch has none, and so it does not matter how many ampersands stand side by side. All that
is said here about ampersands in front of, between and behind the parameters follows from this
one equation.

## Main definitions

* `Fields.parameters`: The parameters in a stretch of a query.
* `Fields.Raw`: A field that can be sent as it stands.
* `Fields.Padded`: Fields with any number of ampersands around them.
* `Responder.address`: The address that holds a query.

## Theorems

* `parameters_append`: Reading goes over an ampersand.
* `parameters_behind`: What is read of fields behind one another.
* `ofQueryChars_padded`: Ampersands beside the fields of a query change nothing.
* `locationQuery_address`: The query of an address.
* `extract_redirected`: The fields of a redirect are those its address was written for.
-/

namespace SamlConformance

namespace Fields

/-- The parameters in a stretch of a query. -/
def parameters (cs : List Char) : Fields :=
  ((cs.splitOn '&').filter fun s => !s.isEmpty).map parameter

theorem ofQueryChars_eq (cs : List Char) :
    ofQueryChars cs = parameters (cs.dropWhile (· == '?')) :=
  rfl

/-- Reading goes over an ampersand. -/
theorem parameters_append (before after : List Char) :
    parameters (before ++ '&' :: after) = parameters before ++ parameters after := by
  unfold parameters
  rw [List.splitOn, List.splitOnP_append_cons before after rfl, List.filter_append,
    List.map_append]
  rfl

/-- A field that can be sent as it stands. Its name may be empty, and may hold a question
mark. -/
structure Raw (field : String × String) : Prop where
  /-- The name goes up to the first equals sign. -/
  name : '=' ∉ field.1.toList
  /-- The parameter does not end in its name. -/
  nameEnd : '&' ∉ field.1.toList
  /-- Nor does it end in its value. -/
  valueEnd : '&' ∉ field.2.toList
  /-- The fragment does not begin in the name. -/
  nameHash : '#' ∉ field.1.toList
  /-- Nor does it begin in the value. -/
  valueHash : '#' ∉ field.2.toList

theorem parameters_segment (field : String × String) (h : Raw field) :
    parameters (segment field) = [field] := by
  have hplain : ∀ c ∈ segment field, (c == '&') = false := by
    intro c hc
    rw [beq_eq_false_iff_ne]
    rintro rfl
    rcases List.mem_append.mp hc with hname | hvalue
    · exact h.nameEnd hname
    · rcases List.mem_cons.mp hvalue with heq | hvalue
      · exact absurd heq (by decide)
      · exact h.valueEnd hvalue
  -- The equals sign alone keeps the parameter from being dropped.
  have hkept : (segment field).isEmpty = false :=
    List.isEmpty_eq_false_iff.mpr (List.append_ne_nil_of_right_ne_nil _ (List.cons_ne_nil _ _))
  unfold parameters
  rw [List.splitOn, List.splitOnP_eq_singleton hplain,
    List.filter_cons_of_pos (by rw [hkept]; rfl), List.filter_nil, List.map_singleton, parameter,
    segment, Text.cutFirst_append _ h.name]
  simp only [Option.getD_some, String.ofList_toList]

/-- Ampersands one behind the other. -/
def ampersands (n : Nat) : List Char :=
  List.replicate n '&'

theorem parameters_ampersands (n : Nat) (cs : List Char) :
    parameters (ampersands n ++ cs) = parameters cs := by
  induction n with
  | zero => rfl
  | succ n ih =>
      have hone : ampersands (n + 1) ++ cs = [] ++ '&' :: (ampersands n ++ cs) := rfl
      rw [hone, parameters_append, ih]
      rfl

/-- Fields behind another one, each behind the ampersand that divides the two and as many
more as are given with it. -/
def behind : List (Nat × String × String) → List Char
  | [] => []
  | (extra, field) :: rest => ampersands (extra + 1) ++ (segment field ++ behind rest)

/-- What is read of fields behind one another, and of ampersands behind the last. -/
theorem parameters_behind (first : String × String) (rest : List (Nat × String × String))
    (after : Nat) (hfirst : Raw first) (hrest : ∀ p ∈ rest, Raw p.2) :
    parameters (segment first ++ (behind rest ++ ampersands after)) =
      first :: rest.map Prod.snd := by
  induction rest generalizing first with
  | nil =>
      rw [behind, List.nil_append]
      cases after with
      | zero =>
          rw [ampersands, List.replicate_zero, List.append_nil, parameters_segment first hfirst,
            List.map_nil]
      | succ n =>
          have hnone : parameters (ampersands n) = [] := by
            rw [← List.append_nil (ampersands n), parameters_ampersands]
            rfl
          rw [ampersands, List.replicate_succ, parameters_append, parameters_segment first hfirst,
            ← ampersands, hnone, List.append_nil, List.map_nil]
  | cons p rest ih =>
      rcases p with ⟨extra, field⟩
      have hfield := hrest (extra, field) List.mem_cons_self
      -- The first ampersand divides the two fields, and the extra ones are passed over.
      have htext : segment first ++ (behind ((extra, field) :: rest) ++ ampersands after) =
          segment first ++ '&' :: (ampersands extra ++
            (segment field ++ (behind rest ++ ampersands after))) := by
        simp only [behind, ampersands, List.replicate_succ, List.cons_append, List.append_assoc]
      rw [htext, parameters_append, parameters_ampersands, parameters_segment first hfirst,
        ih field hfield fun q hq => hrest q (List.mem_cons_of_mem _ hq)]
      rfl

/-- Fields of a query with any number of ampersands in front of the first, between any two,
and behind the last. -/
structure Padded where
  /-- How many stand in front. -/
  before : Nat
  /-- The first field. -/
  first : String × String
  /-- The other fields, each with how many stand before it beside the one that has to. -/
  rest : List (Nat × String × String)
  /-- How many stand behind the last. -/
  after : Nat

namespace Padded

/-- The fields without the ampersands. -/
def fields (q : Padded) : Fields :=
  q.first :: q.rest.map Prod.snd

/-- The text of the query. -/
def text (q : Padded) : List Char :=
  ampersands q.before ++ (segment q.first ++ (behind q.rest ++ ampersands q.after))

end Padded

/-- No question mark is dropped in front of a query. -/
theorem dropWhile_padded (q : Padded) (hfront : q.first.1.toList.head? ≠ some '?') :
    q.text.dropWhile (· == '?') = q.text := by
  have hhead : q.text.head? ≠ some '?' := by
    rw [Padded.text]
    cases q.before with
    | zero =>
        rw [ampersands, List.replicate_zero, List.nil_append, segment]
        cases hname : q.first.1.toList with
        | nil => exact fun h => absurd (Option.some.inj h) (by decide)
        | cons c cs =>
            rw [hname] at hfront
            exact hfront
    | succ n =>
        rw [ampersands, List.replicate_succ]
        exact fun h => absurd (Option.some.inj h) (by decide)
  cases htext : q.text with
  | nil => rfl
  | cons c cs =>
      rw [htext, List.head?_cons, ne_eq, Option.some.injEq] at hhead
      rw [List.dropWhile_cons_of_neg (by rwa [beq_iff_eq])]

/-- Ampersands beside the fields of a query change nothing. -/
theorem ofQueryChars_padded (q : Padded) (h : ∀ f ∈ q.fields, Raw f)
    (hfront : q.first.1.toList.head? ≠ some '?') : ofQueryChars q.text = q.fields := by
  rw [ofQueryChars_eq, dropWhile_padded q hfront, Padded.text, parameters_ampersands]
  refine parameters_behind q.first q.rest q.after (h _ List.mem_cons_self) ?_
  intro p hp
  exact h p.2 (List.mem_cons_of_mem _ (List.mem_map_of_mem hp))

/-- A query of such fields does not begin the fragment. -/
theorem not_mem_text (q : Padded) (h : ∀ f ∈ q.fields, Raw f) : '#' ∉ q.text := by
  have hampersands : ∀ n, '#' ∉ ampersands n := fun n hmem =>
    absurd (List.eq_of_mem_replicate hmem) (by decide)
  have hsegment : ∀ f, Raw f → '#' ∉ segment f := by
    intro f hf hmem
    rcases List.mem_append.mp hmem with hname | hvalue
    · exact hf.nameHash hname
    · rcases List.mem_cons.mp hvalue with heq | hvalue
      · exact absurd heq (by decide)
      · exact hf.valueHash hvalue
  have hbehind : ∀ rest : List (Nat × String × String), (∀ p ∈ rest, Raw p.2) →
      '#' ∉ behind rest := by
    intro rest hrest
    induction rest with
    | nil => exact List.not_mem_nil
    | cons p rest ih =>
        rw [behind, List.mem_append, List.mem_append, not_or, not_or]
        exact ⟨hampersands _, hsegment p.2 (hrest p List.mem_cons_self),
          ih fun r hr => hrest r (List.mem_cons_of_mem _ hr)⟩
  rw [Padded.text, List.mem_append, List.mem_append, List.mem_append, not_or, not_or, not_or]
  refine ⟨hampersands _, hsegment _ (h _ List.mem_cons_self), hbehind _ ?_, hampersands _⟩
  intro p hp
  exact h p.2 (List.mem_cons_of_mem _ (List.mem_map_of_mem hp))

/-- A query without ampersands beside its fields. -/
theorem join_eq_text (first : String × String) (rest : Fields) :
    join (first :: rest) = (Padded.mk 0 first (rest.map (0, ·)) 0).text := by
  unfold Padded.text
  rw [ampersands, List.replicate_zero, List.nil_append, List.append_nil]
  induction rest generalizing first with
  | nil =>
      rw [join, List.map_singleton, List.intercalate_singleton, List.map_nil, behind,
        List.append_nil]
  | cons field rest ih =>
      have hstep : join (first :: field :: rest) =
          segment first ++ ['&'] ++ join (field :: rest) := List.intercalate_cons_cons
      rw [hstep, ih field, List.append_assoc]
      rfl

end Fields

namespace Responder

/-- The address that holds a query behind the first question mark, and may have a fragment
behind that. -/
def address (base : String) (query : List Char) (fragment : Option String) : String :=
  match fragment with
  | none => base ++ "?" ++ String.ofList query
  | some text => base ++ "?" ++ String.ofList query ++ "#" ++ text

/-- The query of an address is what was put there, whatever the fragment holds. -/
theorem locationQuery_address (base : String) (query : List Char) (fragment : Option String)
    (hmark : '?' ∉ base.toList) (hhash : '#' ∉ base.toList) (hquery : '#' ∉ query) :
    locationQuery (address base query fragment).toList = query := by
  have hfront : '#' ∉ base.toList ++ '?' :: query := by
    rw [List.mem_append, List.mem_cons, not_or, not_or]
    exact ⟨hhash, by decide, hquery⟩
  -- The fragment is cut off before the question mark is looked for.
  have hcut : (Text.cutFirst '#' (address base query fragment).toList).1 =
      base.toList ++ '?' :: query := by
    cases fragment with
    | none =>
        have htext : (address base query none).toList = base.toList ++ '?' :: query := by
          simp only [address, String.toList_append, String.toList_ofList, List.append_assoc]
          rfl
        rw [htext, Text.cutFirst_of_not_mem hfront]
    | some text =>
        have htext : (address base query (some text)).toList =
            (base.toList ++ '?' :: query) ++ '#' :: text.toList := by
          simp only [address, String.toList_append, String.toList_ofList, List.append_assoc]
          rfl
        rw [htext, Text.cutFirst_append _ hfront]
  rw [locationQuery, hcut, Text.cutFirst_append _ hmark, Option.getD_some]

/-- What is cut off at a separator is all that stands before it. -/
theorem fst_cutFirst (sep : Char) (cs : List Char) :
    (Text.cutFirst sep cs).1 = cs.takeWhile (· ≠ sep) := by
  induction cs with
  | nil => rfl
  | cons c cs ih =>
      rw [Text.cutFirst, List.takeWhile_cons]
      by_cases hc : c = sep
      · subst hc
        rw [if_pos rfl, if_neg (by simp only [ne_eq, not_true_eq_false, decide_false,
          Bool.false_eq_true, not_false_eq_true])]
      · rw [if_neg hc, if_pos (decide_eq_true hc), ← ih]

/-- An address without a question mark before its fragment has no query. -/
theorem locationQuery_eq_nil (location : List Char)
    (h : '?' ∉ location.takeWhile (· ≠ '#')) : locationQuery location = [] := by
  rw [locationQuery, fst_cutFirst, Text.cutFirst_of_not_mem h]
  rfl

theorem generic_redirect (status : Nat) (location : String) (body : Option String)
    (given : Bool) : generic .redirect ⟨status, some location, body⟩ given =
      .ok ⟨.redirect, status, Fields.ofQueryChars (locationQuery location.toList), given⟩ :=
  rfl

/-- Of a redirect, the fields are read that its address was written for: in order, with
repetitions, and as they stand. Ampersands beside them change nothing, and neither does the
fragment. An address without a question mark before its fragment gives no fields. -/
theorem extract_redirected (status : Nat) (body : Option String) (given : Bool) :
    (∀ (base : String) (fields : Fields) (fragment : Option String),
      '?' ∉ base.toList → '#' ∉ base.toList → (∀ f ∈ fields, Fields.Raw f) →
      (∀ first ∈ fields.head?, first.1.toList.head? ≠ some '?') →
      generic .redirect ⟨status, some (address base (Fields.join fields) fragment), body⟩ given =
          .ok ⟨.redirect, status, fields, given⟩ ∧
        ∀ q : Fields.Padded, q.fields = fields →
          generic .redirect ⟨status, some (address base q.text fragment), body⟩ given =
            .ok ⟨.redirect, status, fields, given⟩) ∧
    ∀ location : String, '?' ∉ location.toList.takeWhile (· ≠ '#') →
      generic .redirect ⟨status, some location, body⟩ given =
        .ok ⟨.redirect, status, [], given⟩ := by
  constructor
  · intro base fields fragment hmark hhash hraw hfront
    have hpadded : ∀ q : Fields.Padded, q.fields = fields →
        generic .redirect ⟨status, some (address base q.text fragment), body⟩ given =
          .ok ⟨.redirect, status, fields, given⟩ := by
      intro q hq
      subst hq
      have hread := Fields.ofQueryChars_padded q hraw (hfront q.first rfl)
      rw [generic_redirect, locationQuery_address base q.text fragment hmark hhash
        (Fields.not_mem_text q hraw), hread]
    refine ⟨?_, hpadded⟩
    cases fields with
    | nil =>
        have hjoin : Fields.join [] = [] := rfl
        rw [generic_redirect, hjoin,
          locationQuery_address base [] fragment hmark hhash List.not_mem_nil]
        rfl
    | cons first rest =>
        rw [Fields.join_eq_text]
        refine hpadded _ (congrArg (first :: ·) ?_)
        rw [List.map_map]
        exact List.map_id rest
  · intro location hlocation
    rw [generic_redirect, locationQuery_eq_nil location.toList hlocation]
    rfl

/-- A name that stands twice, values that hold question marks, equals signs and escapes,
ampersands that divide nothing, and a fragment that looks like a query. -/
theorem extract_redirected_doubledName :
    Responder.generic .redirect
        ⟨302, some "https://sp/acs?&&RelayState=a%2B=?&&&RelayState=+#?x=1&y#", none⟩ true =
      .ok ⟨.redirect, 302, [("RelayState", "a%2B=?"), ("RelayState", "+")], true⟩ := by
  have hall := (extract_redirected 302 none true).1 "https://sp/acs"
    [("RelayState", "a%2B=?"), ("RelayState", "+")] (some "?x=1&y#")
    (by decide) (by decide)
    (List.forall_mem_cons.mpr ⟨⟨by decide, by decide, by decide, by decide, by decide⟩,
      List.forall_mem_singleton.mpr ⟨by decide, by decide, by decide, by decide, by decide⟩⟩)
    (by decide)
  exact hall.2 ⟨2, ("RelayState", "a%2B=?"), [(2, ("RelayState", "+"))], 0⟩ rfl

end Responder

end SamlConformance
