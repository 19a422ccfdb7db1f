import Mathlib.Data.List.Infix
import SamlConformance.Proofs.Message.Decoding
import SamlConformance.Rule.DataTypes

/-!
# Content of a Stated Type

An element may state the type of its content by a name with a prefix. Which prefix stands for
the namespace of the types is up to the message, so the prefix should not count. The rule
looks for three words in the whole name, one after the other, and takes the first that it
finds. None of the words holds a colon, so a word stands in the name if and only if it stands
in the prefix or in the local name (`occursIn_typeName`). A prefix without any of the words
plays no part, and two messages that differ in such prefixes are judged alike.

A prefix that holds a word does no harm either if the local name is recognized by that word or
an earlier one. All other prefixes mask the type: a URI that is typed by a prefix named
`string` passes for a text (`prefix_masks_type`).

Two messages are compared here that differ in one attribute somewhere in the tree. The
elements around that one are different elements too, as they hold it, but the rule looks at
nothing of an element except its tag and the text directly in it. So the two trees, listed in
document order, give the same findings one by one (`map_elements_of_retagged`).

## Main definitions

* `Xml.Node.Retagged`: Trees that differ in the tag of one element.
* `Xml.Tag.Retyped`: Tags that differ in the type they state.
* `ValueType`: The types of content, with the words by which they are recognized.
* `ValueType.Masks`: A prefix is taken for a type.
* `DataTypes.typeName`: The name of a type with its prefix.

## Theorems

* `Text.occursIn_iff`: A word stands in a text.
* `Text.infix_append_cons_iff`: A word that holds no separator stands on one side of it.
* `named?_typeName_iff`: The prefixes that do not count are those that mask nothing.
* `DataTypes.typedFindings_eq`: Content is judged by the type that is recognized.
* `DataTypes.prefix_ignored`: Prefixes that mask nothing do not count.
* `DataTypes.prefix_masks_type`: Other prefixes do.
-/

namespace SamlConformance

open Xml (Element Node Tag)

namespace Text

/-- A word that holds no separator stands on one side of it. -/
theorem infix_append_cons_iff {word before after : List Char} {sep : Char} (h : sep ∉ word) :
    word <:+: before ++ sep :: after ↔ word <:+: before ∨ word <:+: after := by
  -- A word without the separator that starts at the separator is empty.
  have hnil : ∀ part, sep ∉ part → part <+: sep :: after → part = [] := by
    intro part hpart hfront
    cases part with
    | nil => rfl
    | cons c cs =>
        rw [List.cons_prefix_cons] at hfront
        exact absurd (hfront.1 ▸ List.mem_cons_self) hpart
  rw [List.infix_append_iff]
  constructor
  · rintro (hbefore | hafter | ⟨front, back, rfl, hfront, hback⟩)
    · exact Or.inl hbefore
    · rcases List.infix_cons_iff.mp hafter with hfront | hinside
      · rw [hnil word h hfront]
        exact Or.inl (List.nil_infix)
      · exact Or.inr hinside
    · rw [hnil back (fun hmem => h (List.mem_append_right _ hmem)) hback, List.append_nil]
      exact Or.inl hfront.isInfix
  · rintro (hbefore | hafter)
    · exact Or.inl hbefore
    · exact Or.inr (Or.inl (List.infix_cons hafter))

theorem isSome_cutAt_iff (word cs : List Char) : (cutAt word cs).isSome ↔ word <:+: cs := by
  induction cs with
  | nil =>
      rw [cutAt, List.infix_nil]
      cases word with
      | nil => exact iff_of_true rfl rfl
      | cons c word => exact iff_of_false Bool.false_ne_true (List.cons_ne_nil c word)
  | cons c cs ih =>
      rw [cutAt, List.infix_cons_iff, ← ih]
      by_cases hhere : word.isPrefixOf (c :: cs)
      · rw [if_pos hhere]
        exact iff_of_true rfl (Or.inl (List.isPrefixOf_iff_prefix.mp hhere))
      · rw [if_neg hhere, Option.isSome_map,
          or_iff_right fun hfront => hhere (List.isPrefixOf_iff_prefix.mpr hfront)]

/-- A word stands in a text. -/
theorem occursIn_iff (word s : String) : occursIn word s = true ↔ word.toList <:+: s.toList :=
  isSome_cutAt_iff word.toList s.toList

end Text

namespace Xml

/-- The trees differ in the tag of one element. -/
inductive Node.Retagged (t t' : Tag) : Node → Node → Prop
  | here (children : List Node) : Retagged t t' (.element t children) (.element t' children)
  | inside (tag : Tag) (before after : List Node) (n n' : Node) (h : Retagged t t' n n') :
      Retagged t t' (.element tag (before ++ n :: after)) (.element tag (before ++ n' :: after))

theorem elementsOfAll_append (ns ms : List Node) :
    Node.elementsOfAll (ns ++ ms) = Node.elementsOfAll ns ++ Node.elementsOfAll ms := by
  induction ns with
  | nil => rfl
  | cons n ns ih =>
      rw [List.cons_append, Node.elementsOfAll, ih, Node.elementsOfAll, List.append_assoc]

/-- The text directly in an element stays when an element in it changes. -/
theorem textOf_retagged {t t' : Tag} {n n' : Node} (h : n.Retagged t t' n')
    (before after : List Node) :
    textOf (before ++ n :: after) = textOf (before ++ n' :: after) := by
  -- Neither node is a text.
  cases h <;> simp only [textOf, List.filterMap_append, List.filterMap_cons_none]

/-- What depends only on the tag of an element and on the text directly in it, and is the same
for the two tags, is the same all over the two trees. -/
theorem map_elements_of_retagged {β : Type} (f : Element → β) {t t' : Tag} {n n' : Node}
    (htag : ∀ children, f ⟨t, children⟩ = f ⟨t', children⟩)
    (htext : ∀ tag children children', textOf children = textOf children' →
      f ⟨tag, children⟩ = f ⟨tag, children'⟩)
    (h : n.Retagged t t' n') : n.elements.map f = n'.elements.map f := by
  induction h with
  | here children => rw [Node.elements, Node.elements, List.map_cons, List.map_cons, htag]
  | inside tag before after n n' hinner ih =>
      have hsame := htext tag _ _ (textOf_retagged hinner before after)
      simp only [Node.elements, Node.elementsOfAll, elementsOfAll_append, List.map_cons,
        List.map_append, hsame, ih]

/-- The tags differ in the value of one attribute that states a type. -/
def Tag.Retyped (t t' : Tag) (type type' : String) : Prop :=
  ∃ before name after, name.is Saml.instanceNs "type" = true ∧
    t.attributes = before ++ ⟨name, type⟩ :: after ∧
    t' = { t with attributes := before ++ ⟨name, type'⟩ :: after }

namespace Tag.Retyped

variable {t t' : Tag} {type type' : String} (h : t.Retyped t' type type')

include h

/-- Attributes in no namespace are the same. -/
theorem attribute?_eq (children : List Node) (name : String) :
    Element.attribute? ⟨t, children⟩ name = Element.attribute? ⟨t', children⟩ name := by
  rcases h with ⟨before, typeName, after, hname, hattributes, rfl⟩
  have huri : (typeName.uri == none) = false := by
    rw [QName.is, Bool.and_eq_true, beq_iff_eq, beq_iff_eq] at hname
    rw [hname.2]
    rfl
  simp only [Element.attribute?, hattributes, List.find?_append, List.find?_cons, huri,
    Bool.false_and]

/-- If an attribute that states a type is found, it is the same one or has the two values. -/
theorem attributeIn?_cases (children : List Node) :
    Element.attributeIn? ⟨t, children⟩ Saml.instanceNs "type" =
        Element.attributeIn? ⟨t', children⟩ Saml.instanceNs "type" ∨
      Element.attributeIn? ⟨t, children⟩ Saml.instanceNs "type" = some type ∧
        Element.attributeIn? ⟨t', children⟩ Saml.instanceNs "type" = some type' := by
  rcases h with ⟨before, typeName, after, hname, hattributes, rfl⟩
  simp only [Element.attributeIn?, hattributes, List.find?_append, List.find?_cons, hname]
  cases before.find? fun a => a.name.is Saml.instanceNs "type" with
  | none => exact Or.inr ⟨rfl, rfl⟩
  | some a => exact Or.inl rfl

end Tag.Retyped

end Xml

/-- The types of content that are recognized. -/
inductive ValueType where
  | text
  | uri
  | time
deriving DecidableEq

namespace ValueType

/-- The word by which a type is recognized. -/
def word : ValueType → String
  | text => "string"
  | uri => "anyURI"
  | time => "dateTime"

/-- The types in the order in which their words are looked for. -/
def all : List ValueType :=
  [text, uri, time]

/-- The types whose words are looked for no later than that of a type. -/
def upTo : ValueType → List ValueType
  | text => [text]
  | uri => [text, uri]
  | time => [text, uri, time]

/-- What is wrong with a text of the type. -/
def findings : ValueType → String → List Violation
  | text, value => Values.textFindings value
  | uri, value => Values.uriFindings (some value) none
  | time, value => Values.timeFindings value none

/-- The type that is recognized in a name. -/
def named? (name : String) : Option ValueType :=
  all.find? fun t => Text.occursIn t.word name

/-- The prefix holds the word of a type, and the local name neither holds that nor a word that
is looked for earlier. -/
def Masks (nsPrefix : Option String) (localName : String) : Prop :=
  ∃ p ∈ nsPrefix, ∃ t : ValueType, Text.occursIn t.word p = true ∧
    ∀ u ∈ t.upTo, Text.occursIn u.word localName = false

/-- Where one of two tests may pass a type, the first type that passes is that of the second
test alone, unless the first one passes a type before the second passes any. -/
theorem find?_or_eq_iff (a b : ValueType → Bool) :
    (all.find? fun t => a t || b t) = all.find? b ↔
      ¬ ∃ t : ValueType, a t = true ∧ ∀ u ∈ t.upTo, b u = false := by
  have hexists : (∃ t : ValueType, a t = true ∧ ∀ u ∈ t.upTo, b u = false) ↔
      a text = true ∧ b text = false ∨ a uri = true ∧ b text = false ∧ b uri = false ∨
        a time = true ∧ b text = false ∧ b uri = false ∧ b time = false := by
    constructor
    · rintro ⟨t, ht, hnone⟩
      cases t with
      | text => exact Or.inl ⟨ht, hnone text (by decide)⟩
      | uri => exact Or.inr (Or.inl ⟨ht, hnone text (by decide), hnone uri (by decide)⟩)
      | time => exact Or.inr (Or.inr ⟨ht, hnone text (by decide), hnone uri (by decide),
          hnone time (by decide)⟩)
    · rintro (⟨ht, hnone⟩ | ⟨ht, hnone⟩ | ⟨ht, hnone⟩)
      · exact ⟨text, ht, List.forall_mem_singleton.mpr hnone⟩
      · exact ⟨uri, ht, by simpa only [upTo, List.forall_mem_cons, List.not_mem_nil,
          false_implies, implies_true, and_true] using hnone⟩
      · exact ⟨time, ht, by simpa only [upTo, List.forall_mem_cons, List.not_mem_nil,
          false_implies, implies_true, and_true] using hnone⟩
  rw [hexists, all, List.find?_cons, List.find?_cons, List.find?_cons, List.find?_cons,
    List.find?_cons, List.find?_cons, List.find?_nil, List.find?_nil]
  -- Six answers are left, two for each type.
  generalize a text = aText, a uri = aUri, a time = aTime, b text = bText, b uri = bUri,
    b time = bTime
  revert aText aUri aTime bText bUri bTime
  decide

end ValueType

namespace DataTypes

/-- The name of a type with the prefix it may have. -/
def typeName (nsPrefix : Option String) (localName : String) : String :=
  match nsPrefix with
  | none => localName
  | some p => p ++ ":" ++ localName

/-- A word stands in the name of a type if it stands in the prefix or in the local name. -/
theorem occursIn_typeName (t : ValueType) (p localName : String) :
    Text.occursIn t.word (typeName (some p) localName) =
      (Text.occursIn t.word p || Text.occursIn t.word localName) := by
  have hcolon : ':' ∉ t.word.toList := by cases t <;> decide
  have hname : (typeName (some p) localName).toList = p.toList ++ ':' :: localName.toList := by
    simp only [typeName, String.toList_append, List.append_assoc]
    rfl
  rw [Bool.eq_iff_iff, Bool.or_eq_true, Text.occursIn_iff, Text.occursIn_iff, Text.occursIn_iff,
    hname, Text.infix_append_cons_iff hcolon]

/-- The prefixes that do not count are those that mask nothing. -/
theorem named?_typeName_iff (nsPrefix : Option String) (localName : String) :
    ValueType.named? (typeName nsPrefix localName) = ValueType.named? localName ↔
      ¬ ValueType.Masks nsPrefix localName := by
  cases nsPrefix with
  | none =>
      refine iff_of_true rfl ?_
      rintro ⟨p, hp, -⟩
      exact absurd hp (Option.not_mem_none p)
  | some p =>
      have hname : ValueType.named? (typeName (some p) localName) = ValueType.all.find?
          fun t => Text.occursIn t.word p || Text.occursIn t.word localName := by
        simp only [ValueType.named?, occursIn_typeName]
      rw [hname, ValueType.named?, ValueType.find?_or_eq_iff, ValueType.Masks]
      simp only [Option.mem_some_iff, exists_eq_left']

/-- Content is judged by the type that is recognized. -/
theorem typedFindings_eq (e : Element) (name : String)
    (h : e.attributeIn? Saml.instanceNs "type" = some name) :
    typedFindings e = match ValueType.named? name with
      | none => []
      | some t => t.findings e.text := by
  simp only [typedFindings, h, ValueType.named?, ValueType.all, List.find?_cons, List.find?_nil,
    ValueType.word]
  by_cases htext : Text.occursIn "string" name
  · rw [if_pos htext, htext]
    rfl
  by_cases huri : Text.occursIn "anyURI" name
  · rw [if_neg htext, if_pos huri, Bool.eq_false_iff.mpr htext, huri]
    rfl
  by_cases htime : Text.occursIn "dateTime" name
  · rw [if_neg htext, if_neg huri, if_pos htime, Bool.eq_false_iff.mpr htext,
      Bool.eq_false_iff.mpr huri, htime]
    rfl
  · rw [if_neg htext, if_neg huri, if_neg htime, Bool.eq_false_iff.mpr htext,
      Bool.eq_false_iff.mpr huri, Bool.eq_false_iff.mpr htime]

/-- All that the rule looks at in one element. -/
def lookedAt (e : Element) : List Violation × List Violation × Option String :=
  (typedFindings e, timesFindings e, e.attribute? "ID")

/-- The rule finds the same in replies in whose elements it looks at the same. -/
theorem check_eq_of_lookedAt (r r' : Reply)
    (h : r.root.self.map lookedAt = r'.root.self.map lookedAt) : check r = check r' := by
  have htyped : r.root.self.map typedFindings = r'.root.self.map typedFindings := by
    have hfst := congrArg (List.map Prod.fst) h
    rwa [List.map_map, List.map_map] at hfst
  have htimes : r.root.descendants.map timesFindings = r'.root.descendants.map timesFindings := by
    -- The document element is left out.
    have hsnd := congrArg (fun xs => (xs.map fun x => x.2.1).tail) h
    simp only [List.map_map, Element.self, List.map_cons, List.tail_cons] at hsnd
    exact hsnd
  have hids : ids r.root = ids r'.root := by
    have hthird := congrArg (List.filterMap fun x => x.2.2) h
    rwa [List.filterMap_map, List.filterMap_map] at hthird
  rw [check, check, idFindings, idFindings, List.flatMap_def, List.flatMap_def, List.flatMap_def,
    List.flatMap_def, htyped, htimes, hids]

/-- Two tags that state one local name with prefixes that mask nothing are looked at alike. -/
theorem lookedAt_retyped {t t' : Tag} {p q : Option String} {localName : String}
    (h : t.Retyped t' (typeName p localName) (typeName q localName))
    (hp : ¬ ValueType.Masks p localName) (hq : ¬ ValueType.Masks q localName)
    (children : List Node) : lookedAt ⟨t, children⟩ = lookedAt ⟨t', children⟩ := by
  have htyped : typedFindings ⟨t, children⟩ = typedFindings ⟨t', children⟩ := by
    rcases h.attributeIn?_cases children with hsame | ⟨htype, htype'⟩
    · unfold typedFindings
      rw [hsame]
      rfl
    · rw [typedFindings_eq _ _ htype, typedFindings_eq _ _ htype',
        (named?_typeName_iff p localName).mpr hp, (named?_typeName_iff q localName).mpr hq]
      rfl
  have htimes : timesFindings ⟨t, children⟩ = timesFindings ⟨t', children⟩ := by
    have hname : Element.is ⟨t, children⟩ = Element.is ⟨t', children⟩ := by
      rcases h with ⟨before, name, after, -, -, rfl⟩
      rfl
    have hone : timeFindings ⟨t, children⟩ = timeFindings ⟨t', children⟩ := by
      funext name
      rw [timeFindings, timeFindings, h.attribute?_eq children name]
    rw [timesFindings, timesFindings, hname, hone]
  rw [lookedAt, lookedAt, htyped, htimes, h.attribute?_eq children "ID"]

/-- Where one attribute that states a type is written with another prefix, the rule finds the
same, codes, messages and all, if neither prefix masks the local name. Content is then judged
by the type that the local name is recognized as, whatever the prefix. -/
theorem prefix_ignored (r r' : Reply) (t t' : Tag) (p q : Option String) (localName : String)
    (hroot : r.root.node.Retagged t t' r'.root.node)
    (htype : t.Retyped t' (typeName p localName) (typeName q localName))
    (hp : ¬ ValueType.Masks p localName) (hq : ¬ ValueType.Masks q localName) :
    rule.check r = rule.check r' ∧
      ∀ e : Element, e.attributeIn? Saml.instanceNs "type" = some (typeName q localName) →
        typedFindings e = match ValueType.named? localName with
          | none => []
          | some type => type.findings e.text := by
  constructor
  · refine check_eq_of_lookedAt r r' ?_
    refine Xml.map_elements_of_retagged lookedAt (lookedAt_retyped htype hp hq) ?_ hroot
    intro tag children children' htext
    have htyped : typedFindings ⟨tag, children⟩ = typedFindings ⟨tag, children'⟩ := by
      unfold typedFindings
      simp only [Element.attributeIn?, Element.text, htext]
    rw [lookedAt, lookedAt, htyped]
    rfl
  · intro e he
    rw [typedFindings_eq e _ he, (named?_typeName_iff q localName).mpr hq]

/-- The tag of an element that states a type. -/
def typedTag (type : String) : Tag where
  name := ⟨none, none, "e"⟩
  attributes := [⟨⟨some Saml.instanceNs, some "xsi", "type"⟩, type⟩]
  declarations := [⟨some "xsi", Saml.instanceNs⟩, ⟨some "xs", "http://www.w3.org/2001/XMLSchema"⟩,
    ⟨some "string", "http://www.w3.org/2001/XMLSchema"⟩]

theorem typedTag_retyped (type type' : String) :
    (typedTag type).Retyped (typedTag type') type type' :=
  ⟨[], _, [], by decide, rfl, rfl⟩

/-- A reply that is one such element below another, and no URI in it. -/
def typedReply (type : String) : Reply where
  message := ⟨.posted "", .response, "",
    ⟨{ name := ⟨none, none, "r"⟩ }, [.element (typedTag type) [.text "a"]]⟩, []⟩
  request := { id := "_0", acsUrl := "https://sp" }
  metadata := { entityId := "idp" }

/-- Two prefixes, of which the second holds a word that does no harm here. -/
theorem prefix_ignored_laterWord :
    rule.check (typedReply "xs:anyURI") = rule.check (typedReply "dateTime:anyURI") ∧
      (rule.check (typedReply "xs:anyURI")).violations =
        [.of .core_1_3_2_a "The URI value of [a] is invalid."] := by
  have hroot := Node.Retagged.inside { name := ⟨none, none, "r"⟩ } [] [] _ _
    (@Node.Retagged.here (typedTag "xs:anyURI") (typedTag "dateTime:anyURI") [.text "a"])
  have hxs : ¬ ValueType.Masks (some "xs") "anyURI" := by
    rintro ⟨p, hp, t, ht, -⟩
    obtain rfl : "xs" = p := Option.some.inj hp
    cases t <;> exact absurd ht (by decide)
  have hdate : ¬ ValueType.Masks (some "dateTime") "anyURI" := by
    rintro ⟨p, hp, t, ht, hnone⟩
    obtain rfl : "dateTime" = p := Option.some.inj hp
    cases t with
    | text => exact absurd ht (by decide)
    | uri => exact absurd ht (by decide)
    | time => exact absurd (hnone .uri (by decide)) (by decide)
  refine ⟨(prefix_ignored (typedReply "xs:anyURI") (typedReply "dateTime:anyURI") _ _ (some "xs")
    (some "dateTime") "anyURI" hroot (typedTag_retyped _ _) hxs hdate).1, ?_⟩
  decide +kernel

/-- A text that is no URI, typed as one. -/
def typedByXs : String :=
  "<e xmlns:xsi=\"http://www.w3.org/2001/XMLSchema-instance\"
    xmlns:xs=\"http://www.w3.org/2001/XMLSchema\"
    xmlns:string=\"http://www.w3.org/2001/XMLSchema\" xsi:type=\"xs:anyURI\">a</e>"

/-- The same with the other prefix that is declared for the namespace of the types. -/
def typedByString : String :=
  "<e xmlns:xsi=\"http://www.w3.org/2001/XMLSchema-instance\"
    xmlns:xs=\"http://www.w3.org/2001/XMLSchema\"
    xmlns:string=\"http://www.w3.org/2001/XMLSchema\" xsi:type=\"string:anyURI\">a</e>"

/-- A document that is one such element is decoded as it stands. -/
theorem decode_typed (text type : String) (h : ∃ root ∈ (Xml.parse text).toOption,
      root.tag = typedTag type ∧ (root.children.map fun
        | .text s => some s
        | .element .. => none) = [some "a"]) :
    Message.decode none (.posted text) =
      .ok ⟨.posted text, .response, text, ⟨typedTag type, [.text "a"]⟩, []⟩ := by
  rcases Xml.exists_parse_eq_ok text _ h with ⟨⟨tag, children⟩, hparse, htag, hchildren⟩
  rcases List.map_eq_singleton_iff.mp hchildren with ⟨n, hone, hn⟩
  cases n with
  | element => exact absurd hn.symm (Option.some_ne_none _)
  | text s =>
      obtain rfl : s = "a" := Option.some.inj hn
      obtain rfl : tag = typedTag type := htag
      obtain rfl : children = [.text "a"] := hone
      exact Message.decode_posted none text _ hparse

/-- The two documents differ in the prefix of a type alone, and both prefixes stand for the
namespace of the types, but only in one of them is the text seen not to be a URI. -/
theorem prefix_masks_type : ∃ m m' t t',
    Message.decode none (.posted typedByXs) = .ok m ∧
      Message.decode none (.posted typedByString) = .ok m' ∧
      m.root.node.Retagged t t' m'.root.node ∧
      t.Retyped t' (typeName (some "xs") "anyURI") (typeName (some "string") "anyURI") ∧
      let request : Request := { id := "_0", acsUrl := "https://sp" }
      let metadata : IdpMetadata := { entityId := "idp" }
      (rule.check ⟨m, request, metadata⟩).violations =
          [.of .core_1_3_2_a "The URI value of [a] is invalid."] ∧
        (rule.check ⟨m', request, metadata⟩).violations = [] := by
  have hxs := decode_typed typedByXs "xs:anyURI" (by
    rw [typedByXs, Xml.parse_ofList]
    decide +kernel)
  have hstring := decode_typed typedByString "string:anyURI" (by
    rw [typedByString, Xml.parse_ofList]
    decide +kernel)
  exact ⟨_, _, _, _, hxs, hstring, .here [.text "a"], typedTag_retyped _ _, by decide +kernel,
    by decide +kernel⟩

end DataTypes

end SamlConformance
