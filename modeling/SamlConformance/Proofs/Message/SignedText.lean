import Mathlib.Data.List.Nodup
import SamlConformance.Message.QuerySignature
import SamlConformance.Proofs.Message.Fields

/-!
# What a Signed Text Stands For

The text that a signature covers is put together from raw values, and raw values may
hold anything that a sender puts into them: equals signs, and text that looks like
further parameters. Still no two messages share a signed text. The values come from a
query, and a query is cut at every ampersand, so that no value has one in it; the
signed text is therefore itself a query, and reading it gives back what it was made
of (`ofQuery_signedText`).

The other way round, a query that has the parameters of a signature once each is
signed over the same text in whatever order they come and whatever else stands between
them, because each parameter is looked up by its name.

## Main definitions

* `signedFields`: The parameters that a signed text is made of.
* `Fields.inPieces`: A query text made of pieces, behind question marks.

## Theorems

* `not_mem_value`: A value that was read from a query has no ampersand in it.
* `ofQuery_signedText`: A signed text is a query that has these parameters.
* `get?_eq_head?_filter`: Only the parameters of its name decide on a value.
* `get?_inPieces`: Where a name stands once, order and surroundings do not matter.
* `signed_text_identifies`: Equal signed texts have equal parts, and a query is signed
  over the part before its signature.
-/

namespace SamlConformance

namespace Text

/-- No part has the separator in it. -/
theorem not_mem_of_mem_splitOn (sep : Char) (cs part : List Char) (h : part ∈ cs.splitOn sep) :
    sep ∉ part := by
  induction cs generalizing part with
  | nil =>
      rw [List.splitOn_nil, List.mem_singleton] at h
      rw [h]
      exact List.not_mem_nil
  | cons c cs ih =>
      rw [List.splitOn_cons_eq_if_modifyHead] at h
      by_cases hc : (c == sep) = true
      · rw [if_pos hc] at h
        rcases List.mem_cons.mp h with rfl | hpart
        · exact List.not_mem_nil
        · exact ih part hpart
      · rw [if_neg hc] at h
        -- The character goes to the front of the first part.
        cases hparts : cs.splitOn sep with
        | nil => exact absurd hparts (List.splitOn_ne_nil sep cs)
        | cons first parts =>
            rw [hparts, List.modifyHead_cons] at h
            rcases List.mem_cons.mp h with rfl | hpart
            · intro hmem
              rcases List.mem_cons.mp hmem with rfl | hfirst
              · exact hc (beq_self_eq_true sep)
              · exact ih first (hparts ▸ List.mem_cons_self) hfirst
            · exact ih part (hparts ▸ List.mem_cons_of_mem _ hpart)

/-- What stands behind the first separator is part of the text. -/
theorem mem_of_mem_cutFirst (sep : Char) (cs after : List Char)
    (h : (cutFirst sep cs).2 = some after) (c : Char) (hc : c ∈ after) : c ∈ cs := by
  induction cs with
  | nil => exact absurd h (by simp only [cutFirst, reduceCtorEq, not_false_eq_true])
  | cons d cs ih =>
      unfold cutFirst at h
      by_cases hd : d = sep
      · rw [if_pos hd] at h
        rw [Option.some.inj h]
        exact List.mem_cons_of_mem d hc
      · rw [if_neg hd] at h
        exact List.mem_cons_of_mem d (ih h)

end Text

namespace Fields

/-- A value has only characters of the piece it was read from. -/
theorem mem_of_mem_value (piece : List Char) (c : Char)
    (hc : c ∈ (parameter piece).2.toList) : c ∈ piece := by
  rw [parameter, String.toList_ofList] at hc
  cases hcut : (Text.cutFirst '=' piece).2 with
  | none =>
      rw [hcut, Option.getD_none] at hc
      exact absurd hc List.not_mem_nil
  | some value =>
      rw [hcut, Option.getD_some] at hc
      exact Text.mem_of_mem_cutFirst '=' piece value hcut c hc

/-- A value that was read from a query has no ampersand in it. -/
theorem not_mem_value (query : String) (field : String × String) (h : field ∈ ofQuery query) :
    '&' ∉ field.2.toList := by
  rcases List.mem_map.mp h with ⟨piece, hpiece, rfl⟩
  intro hmem
  exact Text.not_mem_of_mem_splitOn '&' _ piece (List.mem_filter.mp hpiece).1
    (mem_of_mem_value piece '&' hmem)

/-- Only the parameters of its name decide on a value. -/
theorem get?_eq_head?_filter (fields : Fields) (name : String) :
    fields.get? name = ((fields.filter fun f => f.1 == name).head?).map Prod.snd := by
  induction fields with
  | nil => rfl
  | cons field rest ih =>
      rw [get?, List.lookup_cons, List.filter_cons, Bool.beq_comm]
      cases field.1 == name with
      | true => rfl
      | false => exact ih

/-- A query is written part by part. -/
theorem join_append (before after : Fields) (hbefore : before ≠ []) (hafter : after ≠ []) :
    join (before ++ after) = join before ++ '&' :: join after := by
  induction before with
  | nil => exact absurd rfl hbefore
  | cons field rest ih =>
      unfold join at ih ⊢
      rw [List.cons_append, List.map_cons, List.map_cons, List.intercalate_cons_of_ne_nil
        (by simp only [List.map_append, ne_eq, List.append_eq_nil_iff, List.map_eq_nil_iff,
          hafter, and_false, not_false_eq_true])]
      by_cases hrest : rest = []
      · subst hrest
        rw [List.nil_append, List.map_nil, List.intercalate_singleton, List.append_assoc]
        rfl
      · rw [ih hrest, List.intercalate_cons_of_ne_nil (by rwa [ne_eq, List.map_eq_nil_iff])]
        simp only [List.append_assoc]

theorem mem_of_get? (fields : Fields) (name value : String) (h : fields.get? name = some value) :
    ∃ field ∈ fields, field.2 = value := by
  rw [get?_eq_head?_filter] at h
  obtain ⟨field, hfield, rfl⟩ := Option.map_eq_some_iff.mp h
  exact ⟨field, (List.mem_filter.mp (List.mem_of_mem_head? hfield)).1, rfl⟩

/-- A query text made of pieces, with any number of question marks in front. -/
def inPieces (marks : Nat) (pieces : List (List Char)) : List Char :=
  List.replicate marks '?' ++ ['&'].intercalate pieces

/-- The question marks in front of a query are dropped, and no more than these. -/
theorem dropWhile_inPieces (marks : Nat) (pieces : List (List Char))
    (hfront : (['&'].intercalate pieces).head? ≠ some '?') :
    (inPieces marks pieces).dropWhile (· == '?') = ['&'].intercalate pieces := by
  induction marks with
  | zero =>
      rw [inPieces, List.replicate_zero, List.nil_append]
      cases htext : ['&'].intercalate pieces with
      | nil => rfl
      | cons c cs =>
          rw [htext, List.head?_cons] at hfront
          have hc : c ≠ '?' := fun h => hfront (congrArg some h)
          rw [List.dropWhile_cons_of_neg (by rw [beq_false_of_ne hc]; exact Bool.false_ne_true)]
  | succ marks ih =>
      rw [inPieces, List.replicate_succ, List.cons_append, List.dropWhile_cons_of_pos (by decide)]
      exact ih

/-- A query is read piece by piece. -/
theorem ofQueryChars_inPieces (marks : Nat) (pieces : List (List Char))
    (hpieces : pieces ≠ []) (hcut : ∀ piece ∈ pieces, '&' ∉ piece)
    (hfront : (['&'].intercalate pieces).head? ≠ some '?') :
    ofQueryChars (inPieces marks pieces) =
      (pieces.filter fun piece => !piece.isEmpty).map parameter := by
  rw [ofQueryChars, dropWhile_inPieces marks pieces hfront,
    List.splitOn_intercalate '&' hcut hpieces]

/-- Where a piece with some name stands among pieces with others, it does not matter in
which order they are and what the others say. -/
theorem get?_inPieces (marks : Nat) (pieces own others : List (List Char)) (name : String)
    (hname : name ≠ "") (hperm : pieces.Perm (own ++ others)) (hpieces : pieces ≠ [])
    (hcut : ∀ piece ∈ pieces, '&' ∉ piece)
    (hfront : (['&'].intercalate pieces).head? ≠ some '?')
    (hothers : ∀ piece ∈ others, (parameter piece).1 ≠ name)
    (honce : ((own.map parameter).map Prod.fst).Nodup) :
    (ofQueryChars (inPieces marks pieces)).get? name = get? (own.map parameter) name := by
  rw [ofQueryChars_inPieces marks pieces hpieces hcut hfront, get?_eq_head?_filter,
    get?_eq_head?_filter]
  -- Empty pieces have no name, and so are passed over anyway.
  have hempty : ((pieces.filter fun piece => !piece.isEmpty).map parameter).filter
      (fun f => f.1 == name) = (pieces.map parameter).filter fun f => f.1 == name := by
    rw [List.filter_map, List.filter_map, List.filter_filter]
    refine congrArg (List.map parameter) (List.filter_congr ?_)
    intro piece _
    cases piece with
    | nil =>
        have hnil : (parameter []).1 = "" := rfl
        simp only [Function.comp_apply, hnil, beq_false_of_ne hname.symm, Bool.false_and]
    | cons c cs => simp only [List.isEmpty_cons, Bool.not_false, Bool.and_true]
  -- Of the rest only the piece of that name is left, so that there is one order.
  have hrest : (others.map parameter).filter (fun f => f.1 == name) = [] := by
    rw [List.filter_eq_nil_iff]
    intro field hfield
    rcases List.mem_map.mp hfield with ⟨piece, hpiece, rfl⟩
    rw [beq_false_of_ne (hothers piece hpiece)]
    exact Bool.false_ne_true
  have hleft := (hperm.map parameter).filter fun f => f.1 == name
  rw [List.map_append, List.filter_append, hrest, List.append_nil] at hleft
  have hsingle : ((own.map parameter).filter fun f => f.1 == name).length ≤ 1 := by
    have hcount := List.nodup_iff_count_le_one.mp honce name
    rw [List.count, List.countP_map, List.countP_eq_length_filter] at hcount
    exact hcount
  rw [hempty]
  generalize (own.map parameter).filter (fun f => f.1 == name) = owned at hleft hsingle ⊢
  rcases owned with _ | ⟨field, _ | ⟨second, rest⟩⟩
  · rw [List.perm_nil.mp hleft]
  · rw [List.perm_singleton.mp hleft]
  · rw [List.length_cons, List.length_cons] at hsingle
    omega

end Fields

/-- The parameters that a signed text is made of, in its order. -/
def signedFields (kind : MessageKind) (payload : String) (relayState : Option String)
    (algorithm : String) : Fields :=
  (kind.parameter.name, payload) ::
    ((relayState.map fun rs => (Saml.Parameter.relayState.name, rs)).toList ++
      [(Saml.Parameter.signatureAlgorithm.name, algorithm)])

section

variable (kind : MessageKind) (payload : String) (relayState : Option String)
  (algorithm : String)

/-- A signed text is the query text of its parameters. -/
theorem toList_signedText :
    (signedText kind payload relayState algorithm).toList =
      Fields.join (signedFields kind payload relayState algorithm) := by
  have hequals : "=".toList = ['='] := rfl
  have hampersand : "&".toList = ['&'] := rfl
  cases relayState with
  | none =>
      simp only [signedText, signedFields, Fields.join, Fields.segment, Option.map_none,
        Option.toList_none, List.nil_append, List.map_cons, List.map_nil,
        List.intercalate_cons_cons, List.intercalate_singleton, String.toList_append, hequals,
        hampersand, String.toList_empty, List.append_assoc, List.cons_append]
  | some rs =>
      simp only [signedText, signedFields, Fields.join, Fields.segment, Option.map_some,
        Option.toList_some, List.map_cons, List.map_nil, List.intercalate_cons_cons,
        List.intercalate_singleton, String.toList_append, hequals, hampersand,
        List.append_assoc, List.cons_append, List.nil_append]

theorem separable_signedFields (hpayload : '&' ∉ payload.toList)
    (hrelayState : ∀ rs, relayState = some rs → '&' ∉ rs.toList)
    (halgorithm : '&' ∉ algorithm.toList) :
    ∀ field ∈ signedFields kind payload relayState algorithm, Fields.Separable field := by
  intro field hfield
  rcases List.mem_cons.mp hfield with rfl | hfield
  · exact Fields.separable_parameter kind.parameter payload hpayload
  rcases List.mem_append.mp hfield with hfield | hfield
  · obtain ⟨rs, hrs, rfl⟩ := Option.map_eq_some_iff.mp (Option.mem_toList.mp hfield)
    exact Fields.separable_parameter .relayState rs (hrelayState rs hrs)
  · rw [List.mem_singleton.mp hfield]
    exact Fields.separable_parameter .signatureAlgorithm algorithm halgorithm

/-- A signed text can be read again, as a query that has its parameters and no others. -/
theorem ofQuery_signedText (hpayload : '&' ∉ payload.toList)
    (hrelayState : ∀ rs, relayState = some rs → '&' ∉ rs.toList)
    (halgorithm : '&' ∉ algorithm.toList) :
    Fields.ofQuery (signedText kind payload relayState algorithm) =
      signedFields kind payload relayState algorithm := by
  rw [Fields.ofQuery, toList_signedText]
  exact Fields.ofQueryChars_join _
    (separable_signedFields kind payload relayState algorithm hpayload hrelayState halgorithm)

/-- Which parameters a signed text has. -/
theorem get?_signedFields (p : Saml.Parameter) (rest : Fields) :
    Fields.get? (signedFields kind payload relayState algorithm ++ rest) p.name =
      if kind.parameter = p then some payload
      else if Saml.Parameter.relayState = p ∧ relayState.isSome then relayState
      else if Saml.Parameter.signatureAlgorithm = p then some algorithm
      else rest.get? p.name := by
  rw [signedFields, List.cons_append, Fields.get?_cons]
  cases relayState with
  | none =>
      rw [Option.map_none, Option.toList_none, List.nil_append, List.singleton_append,
        Fields.get?_cons]
      simp only [Option.isSome_none, Bool.false_eq_true, and_false, if_false]
  | some rs =>
      rw [Option.map_some, Option.toList_some, List.singleton_append, List.cons_append,
        List.singleton_append, Fields.get?_cons, Fields.get?_cons]
      simp only [Option.isSome_some, and_true]

end

/-- The parts of a signed text are the first values in the fields, where these have a
payload of the kind and an algorithm. -/
theorem signedQuery?_eq_some_iff (fields : Fields) (kind : MessageKind) (text : String) :
    signedQuery? fields kind = some text ↔ ∃ payload algorithm,
      fields.get? kind.parameter.name = some payload ∧
      fields.get? Saml.Parameter.signatureAlgorithm.name = some algorithm ∧
      text = signedText kind payload (fields.get? Saml.Parameter.relayState.name) algorithm := by
  constructor
  · intro h
    unfold signedQuery? at h
    split at h
    · rename_i payload algorithm hpayload halgorithm
      exact ⟨payload, algorithm, hpayload, halgorithm, (Option.some.inj h).symm⟩
    · exact absurd h (by simp only [reduceCtorEq, not_false_eq_true])
  · rintro ⟨payload, algorithm, hpayload, halgorithm, rfl⟩
    simp only [signedQuery?, hpayload, halgorithm]

/-- The signed text of a query begins with the payload, and read as a query it has the
payload, the relay state and the algorithm of the whole query. -/
theorem ofQuery_of_signedQuery? (query : String) (kind : MessageKind) (text : String)
    (h : signedQuery? (Fields.ofQuery query) kind = some text) :
    (Fields.ofQuery text).head?.map Prod.fst = some kind.parameter.name ∧
      ∀ p ∈ [kind.parameter, .relayState, .signatureAlgorithm],
        (Fields.ofQuery text).get? p.name = (Fields.ofQuery query).get? p.name := by
  rcases (signedQuery?_eq_some_iff _ kind text).mp h
    with ⟨payload, algorithm, hpayload, halgorithm, rfl⟩
  -- Values that come from a query have no ampersand, so that the text can be read.
  have hcut : ∀ name value, (Fields.ofQuery query).get? name = some value →
      '&' ∉ value.toList := by
    intro name value hvalue
    rcases Fields.mem_of_get? _ name value hvalue with ⟨field, hfield, rfl⟩
    exact Fields.not_mem_value query field hfield
  rw [ofQuery_signedText kind payload _ algorithm (hcut _ payload hpayload)
    (fun rs hrs => hcut _ rs hrs) (hcut _ algorithm halgorithm)]
  refine ⟨rfl, ?_⟩
  intro p hp
  rw [← List.append_nil (signedFields _ _ _ _), get?_signedFields]
  simp only [List.mem_cons, List.not_mem_nil, or_false] at hp
  rcases hp with rfl | rfl | rfl
  · rw [if_pos rfl, hpayload]
  · have hkind : kind.parameter ≠ .relayState := by cases kind <;> decide
    rw [if_neg hkind]
    cases (Fields.ofQuery query).get? Saml.Parameter.relayState.name <;> rfl
  · have hkind : kind.parameter ≠ .signatureAlgorithm := by cases kind <;> decide
    rw [if_neg hkind, if_neg (by simp only [reduceCtorEq, false_and, not_false_eq_true]),
      if_pos rfl, halgorithm]

/-- The name of a payload tells its kind. -/
theorem kind_of_parameter_name (kind kind' : MessageKind)
    (h : kind.parameter.name = kind'.parameter.name) : kind = kind' := by
  have hparameter := Fields.name_injective _ _ h
  cases kind with
  | request =>
      cases kind' with
      | request => rfl
      | response => exact absurd hparameter (by decide)
  | response =>
      cases kind' with
      | request => exact absurd hparameter (by decide)
      | response => rfl

section

variable (kind : MessageKind) (payload : String) (relayState : Option String)
  (algorithm signature : String)

/-- The parameters of a signed query: those of its signed text, and the signature. -/
def signedParameters : Fields :=
  signedFields kind payload relayState algorithm ++ [(Saml.Parameter.signature.name, signature)]

theorem nodup_signedParameters :
    ((signedParameters kind payload relayState algorithm signature).map Prod.fst).Nodup := by
  cases kind <;> cases relayState <;>
    simp only [signedParameters, signedFields, Option.map_none, Option.map_some,
      Option.toList_none, Option.toList_some, List.cons_append, List.nil_append, List.map_cons,
      List.map_nil] <;>
    decide

theorem separable_signedParameters (hpayload : '&' ∉ payload.toList)
    (hrelayState : ∀ rs, relayState = some rs → '&' ∉ rs.toList)
    (halgorithm : '&' ∉ algorithm.toList) (hsignature : '&' ∉ signature.toList) :
    ∀ field ∈ signedParameters kind payload relayState algorithm signature,
      Fields.Separable field := by
  intro field hfield
  rcases List.mem_append.mp hfield with hfield | hfield
  · exact separable_signedFields kind payload relayState algorithm hpayload hrelayState
      halgorithm field hfield
  · rw [List.mem_singleton.mp hfield]
    exact Fields.separable_parameter .signature signature hsignature

/-- Fields with the values of a signed query are signed over their signed text. -/
theorem signedQuery?_of_get? (fields : Fields)
    (h : ∀ p ∈ [kind.parameter, .relayState, .signatureAlgorithm], fields.get? p.name =
      (signedParameters kind payload relayState algorithm signature).get? p.name) :
    signedQuery? fields kind = some (signedText kind payload relayState algorithm) := by
  have hkind : kind.parameter ≠ .relayState ∧ kind.parameter ≠ .signatureAlgorithm := by
    cases kind <;> decide
  have hpayload := h kind.parameter List.mem_cons_self
  have hrelayState := h .relayState (List.mem_cons_of_mem _ List.mem_cons_self)
  have halgorithm := h .signatureAlgorithm
    (List.mem_cons_of_mem _ (List.mem_cons_of_mem _ List.mem_cons_self))
  rw [signedParameters, get?_signedFields, if_pos rfl] at hpayload
  rw [signedParameters, get?_signedFields, if_neg hkind.1] at hrelayState
  rw [signedParameters, get?_signedFields, if_neg hkind.2,
    if_neg (by simp only [reduceCtorEq, false_and, not_false_eq_true]), if_pos rfl] at halgorithm
  refine (signedQuery?_eq_some_iff fields kind _).mpr
    ⟨payload, algorithm, hpayload, halgorithm, ?_⟩
  rw [hrelayState]
  cases relayState <;> rfl

end

/-- The signed text, written out. -/
theorem signedText_eq (kind : MessageKind) (payload : String) (relayState : Option String)
    (algorithm : String) :
    signedText kind payload relayState algorithm = kind.parameter.name ++ "=" ++ payload ++
      relayState.elim "" ("&RelayState=" ++ ·) ++ "&SigAlg=" ++ algorithm := by
  have hrelayState : "&RelayState=" = "&" ++ Saml.Parameter.relayState.name ++ "=" := by decide
  have halgorithm : "&SigAlg=" = "&" ++ Saml.Parameter.signatureAlgorithm.name ++ "=" := by decide
  cases relayState with
  | none => simp only [signedText, Option.elim_none, halgorithm, String.append_assoc]
  | some rs =>
      simp only [signedText, Option.elim_some, hrelayState, halgorithm, String.append_assoc]

/-- A signed query is its signed text and the signature behind it. -/
theorem toList_signedQuery (kind : MessageKind) (payload : String) (relayState : Option String)
    (algorithm signature : String) :
    (signedText kind payload relayState algorithm ++ "&Signature=" ++ signature).toList =
      Fields.join (signedParameters kind payload relayState algorithm signature) := by
  have hname : "&Signature=".toList = '&' :: (Saml.Parameter.signature.name.toList ++ ['=']) := by
    decide
  rw [String.toList_append, String.toList_append, toList_signedText, hname, signedParameters,
    Fields.join_append (signedFields kind payload relayState algorithm) [_]
      (List.cons_ne_nil _ _) (List.cons_ne_nil _ _)]
  simp only [Fields.join, List.map_cons, List.map_nil, List.intercalate_singleton, Fields.segment,
    List.append_assoc, List.cons_append, List.nil_append]

/-- What a signature covers says what was signed, and is the query in front of the
signature. Queries with the same signed text have payloads of the same kind, and the
same first values of the payload, the relay state and the algorithm. Where the
parameters of a signature stand once each, free of ampersands, the signed text is the
query text up to the signature; and it stays the same if the pieces of the query are
reordered, if pieces with other names are put anywhere among them, and if question
marks are put in front. -/
theorem signed_text_identifies :
    (∀ (query query' : String) (kind kind' : MessageKind) (text : String),
      signedQuery? (Fields.ofQuery query) kind = some text →
      signedQuery? (Fields.ofQuery query') kind' = some text →
      kind = kind' ∧ ∀ p ∈ [kind.parameter, .relayState, .signatureAlgorithm],
        (Fields.ofQuery query).get? p.name = (Fields.ofQuery query').get? p.name) ∧
    ∀ (kind : MessageKind) (payload : String) (relayState : Option String)
      (algorithm signature : String),
      '&' ∉ payload.toList → (∀ rs, relayState = some rs → '&' ∉ rs.toList) →
      '&' ∉ algorithm.toList → '&' ∉ signature.toList →
      let signed := kind.parameter.name ++ "=" ++ payload ++
        relayState.elim "" ("&RelayState=" ++ ·) ++ "&SigAlg=" ++ algorithm
      let query := signed ++ "&Signature=" ++ signature
      signedQuery? (Fields.ofQuery query) kind = some signed ∧
      ∀ (marks : Nat) (pieces others : List (List Char)),
        pieces.Perm (query.toList.splitOn '&' ++ others) →
        (∀ piece ∈ others, '&' ∉ piece) →
        (∀ piece ∈ others, ∀ p ∈ [kind.parameter, .relayState, .signatureAlgorithm],
          (Fields.parameter piece).1 ≠ p.name) →
        (['&'].intercalate pieces).head? ≠ some '?' →
        signedQuery? (Fields.ofQueryChars (Fields.inPieces marks pieces)) kind = some signed := by
  refine ⟨?_, ?_⟩
  · intro query query' kind kind' text h h'
    -- Both are compared with what the signed text says when it is read.
    rcases ofQuery_of_signedQuery? query kind text h with ⟨hhead, hvalues⟩
    rcases ofQuery_of_signedQuery? query' kind' text h' with ⟨hhead', hvalues'⟩
    obtain rfl := kind_of_parameter_name kind kind' (Option.some.inj (hhead.symm.trans hhead'))
    exact ⟨rfl, fun p hp => (hvalues p hp).symm.trans (hvalues' p hp)⟩
  · intro kind payload relayState algorithm signature hpayload hrelayState halgorithm hsignature
      signed query
    have hsigned : signed = signedText kind payload relayState algorithm :=
      (signedText_eq kind payload relayState algorithm).symm
    have hseparable := separable_signedParameters kind payload relayState algorithm signature
      hpayload hrelayState halgorithm hsignature
    have hquery : query.toList =
        Fields.join (signedParameters kind payload relayState algorithm signature) := by
      rw [← toList_signedQuery, ← hsigned]
    rw [hsigned]
    refine ⟨?_, ?_⟩
    · refine signedQuery?_of_get? kind payload relayState algorithm signature _ ?_
      rw [Fields.ofQuery, hquery, Fields.ofQueryChars_join _ hseparable]
      exact fun p _ => rfl
    · intro marks pieces others hperm hcut hothers hfront
      -- The pieces of the query are the texts of its parameters.
      have hown : query.toList.splitOn '&' =
          (signedParameters kind payload relayState algorithm signature).map Fields.segment := by
        rw [hquery, Fields.splitOn_join _ hseparable (List.cons_ne_nil _ _)]
      have hread : (query.toList.splitOn '&').map Fields.parameter =
          signedParameters kind payload relayState algorithm signature := by
        rw [hown, Fields.map_parameter_segment _ hseparable]
      have hpieces : pieces ≠ [] := by
        rintro rfl
        have hnil := List.nil_perm.mp hperm
        exact List.splitOn_ne_nil '&' _ (List.append_eq_nil_iff.mp hnil).1
      have hcuts : ∀ piece ∈ pieces, '&' ∉ piece := by
        intro piece hpiece
        rcases List.mem_append.mp (hperm.subset hpiece) with hmem | hmem
        · exact Text.not_mem_of_mem_splitOn '&' _ piece hmem
        · exact hcut piece hmem
      refine signedQuery?_of_get? kind payload relayState algorithm signature _ ?_
      intro p hp
      rw [Fields.get?_inPieces marks pieces _ others p.name (by cases p <;> decide) hperm hpieces
        hcuts hfront (fun piece hpiece => hothers piece hpiece p hp)
        (by rw [hread]; exact nodup_signedParameters kind payload relayState algorithm signature),
        hread]

/-- A relay state that reads like an algorithm: the query is signed over its text before
the signature, another order with one more parameter over the same text, and the two
have the same relay state. -/
theorem signed_text_identifies_lookalike :
    let signed := "SAMLResponse=p=1&RelayState=SigAlg=b&SigAlg=a"
    let query := signed ++ "&Signature=s"
    let other := "?SigAlg=a&Signature=s&SAMLEncoding=x&RelayState=SigAlg=b&SAMLResponse=p=1"
    signedQuery? (Fields.ofQuery query) .response = some signed ∧
      signedQuery? (Fields.ofQuery other) .response = some signed ∧
      (Fields.ofQuery query).get? Saml.Parameter.relayState.name =
        (Fields.ofQuery other).get? Saml.Parameter.relayState.name := by
  intro signed query other
  have hwritten : MessageKind.response.parameter.name ++ "=" ++ "p=1" ++
      (some "SigAlg=b").elim "" ("&RelayState=" ++ ·) ++ "&SigAlg=" ++ "a" = signed := by
    decide +kernel
  let pieces := ["SigAlg=a".toList, "Signature=s".toList, "SAMLEncoding=x".toList,
    "RelayState=SigAlg=b".toList, "SAMLResponse=p=1".toList]
  have hpieces : other.toList = Fields.inPieces 1 pieces := by decide +kernel
  rcases signed_text_identifies with ⟨hvalues, hquery⟩
  have hread := hquery .response "p=1" (some "SigAlg=b") "a" "s" (by decide +kernel)
    (fun rs hrs => by rw [← Option.some.inj hrs]; decide +kernel) (by decide +kernel)
    (by decide +kernel)
  simp only [hwritten] at hread
  have hother : signedQuery? (Fields.ofQuery other) .response = some signed := by
    rw [Fields.ofQuery, hpieces]
    exact hread.2 1 pieces ["SAMLEncoding=x".toList] (by decide +kernel) (by decide +kernel)
      (by decide +kernel) (by decide +kernel)
  exact ⟨hread.1, hother, (hvalues query other .response .response signed hread.1 hother).2
    .relayState (by decide)⟩

end SamlConformance
