import Mathlib.Data.List.Forall2
import SamlConformance.Xml.Tree

/-!
# What an Element Says

One document can be written in many ways: with other prefixes, with namespaces declared
elsewhere, with attributes in another order, with text in other pieces or in other places
between the child elements. None of this is meant to count.

What counts is collected in `Content`: the expanded name, the values that are found by the
expanded names of attributes, the joined text and the contents of the child elements. Two
elements are alike if they have the same content. This is coarser than what is usually
called equivalent (`Equivalent`), because an attribute that stands behind another one of
the same expanded name is never found.

Elements that are alike answer every question in the same way: the lookups give equal
values, and the lists of child elements and descendants are alike one by one.

## Main definitions

* `Content`, `Element.content`: What an element says.
* `Element.Alike`: Two elements say the same.
* `Element.Equivalent`: Two elements differ only in spelling, attributes and all.

## Theorems

* `value?_eq_some_iff`: Where expanded names differ, a value is found if it is there.
* `alike_of_equivalent`: Equivalent elements are alike.
* `map_content_self`: The contents of all elements are determined by that of the root.
* `Alike.self`, `Alike.childrenNamed`, `Alike.descendantsNamed`: Lists of elements.
* `map_eq_of_alike`, `any_eq_of_alike`, `flatMap_eq_of_alike`, `findSome?_eq_of_alike`:
  What is computed from lists that are alike one by one.
-/

namespace SamlConformance

namespace Xml

/-- What an element says, whatever way it is written. -/
inductive Content where
  /-- The expanded name, the values by the expanded names of attributes, the text and the
  contents of the child elements. -/
  | mk (uri : Option String) (localName : String) (value? : Option String → String → Option String)
      (text : String) (children : List Content)

/-- The value of the first attribute of that expanded name. -/
def Tag.value? (t : Tag) (uri : Option String) (name : String) : Option String :=
  (t.attributes.find? fun a => a.name.uri == uri && a.name.localName == name).map Attribute.value

mutual

/-- The content of a node, if it is an element. -/
def Node.contents : Node → List Content
  | .text _ => []
  | .element t cs => [.mk t.name.uri t.name.localName t.value? (textOf cs) (Node.contentsOfAll cs)]

/-- The contents of the elements directly in several nodes. -/
def Node.contentsOfAll : List Node → List Content
  | [] => []
  | n :: ns => n.contents ++ Node.contentsOfAll ns

end

mutual

/-- A content and all contents below, in document order. -/
def Content.self : Content → List Content
  | .mk uri localName value? text children =>
    .mk uri localName value? text children :: Content.selfOfAll children

/-- Several contents and all below. -/
def Content.selfOfAll : List Content → List Content
  | [] => []
  | c :: cs => c.self ++ Content.selfOfAll cs

end

theorem Content.selfOfAll_append (cs ds : List Content) :
    selfOfAll (cs ++ ds) = selfOfAll cs ++ selfOfAll ds := by
  induction cs with
  | nil => rfl
  | cons c cs ih => rw [List.cons_append, selfOfAll, selfOfAll, ih, List.append_assoc]

namespace Element

/-- What an element says. -/
def content (e : Element) : Content :=
  .mk e.tag.name.uri e.tag.name.localName e.tag.value? e.text (Node.contentsOfAll e.children)

/-- Two elements say the same. -/
def Alike (a b : Element) : Prop :=
  a.content = b.content

end Element

theorem contentsOfAll_eq_map (ns : List Node) :
    Node.contentsOfAll ns = (elementsOf ns).map Element.content := by
  induction ns with
  | nil => rfl
  | cons n ns ih =>
      cases n with
      | text s =>
          rw [Node.contentsOfAll, ih]
          rfl
      | element t cs =>
          rw [Node.contentsOfAll, ih]
          rfl

mutual

/-- The contents of the elements of a node are determined by what its own content is. -/
theorem map_content_elements : ∀ n : Node,
    n.elements.map Element.content = Content.selfOfAll n.contents
  | .text _ => rfl
  | .element t cs => by
      rw [Node.elements, Node.contents, Content.selfOfAll, Content.selfOfAll, Content.self,
        List.append_nil, List.map_cons, map_content_elementsOfAll cs]
      rfl

/-- The same of several nodes. -/
theorem map_content_elementsOfAll : ∀ ns : List Node,
    (Node.elementsOfAll ns).map Element.content = Content.selfOfAll (Node.contentsOfAll ns)
  | [] => rfl
  | n :: ns => by
      rw [Node.elementsOfAll, Node.contentsOfAll, List.map_append, map_content_elements n,
        map_content_elementsOfAll ns, Content.selfOfAll_append]

end

/-- The contents of all elements are determined by that of the root. -/
theorem map_content_self (e : Element) : e.self.map Element.content = e.content.self := by
  rw [Element.self, Element.descendants, List.map_cons, map_content_elementsOfAll, Element.content,
    Content.self]

/-- Lists are alike one by one if and only if they have the same contents. -/
theorem forall₂_alike_iff (es fs : List Element) :
    List.Forall₂ Element.Alike es fs ↔ es.map Element.content = fs.map Element.content := by
  rw [← List.forall₂_eq_eq_eq, List.forall₂_map_left_iff, List.forall₂_map_right_iff]
  rfl

namespace Element.Alike

variable {a b : Element} (h : a.Alike b)

include h

theorem uri : a.tag.name.uri = b.tag.name.uri :=
  (Content.mk.inj h).1

theorem localName : a.tag.name.localName = b.tag.name.localName :=
  (Content.mk.inj h).2.1

theorem value? : a.tag.value? = b.tag.value? :=
  (Content.mk.inj h).2.2.1

theorem text : a.text = b.text :=
  (Content.mk.inj h).2.2.2.1

theorem elements : List.Forall₂ Element.Alike a.elements b.elements := by
  rw [forall₂_alike_iff, Element.elements, Element.elements, ← contentsOfAll_eq_map,
    ← contentsOfAll_eq_map]
  exact (Content.mk.inj h).2.2.2.2

theorem self : List.Forall₂ Element.Alike a.self b.self := by
  rw [forall₂_alike_iff, map_content_self, map_content_self]
  exact congrArg Content.self h

theorem descendants : List.Forall₂ Element.Alike a.descendants b.descendants :=
  (List.forall₂_cons.mp h.self).2

theorem attribute? (name : String) : a.attribute? name = b.attribute? name :=
  congrFun (congrFun h.value? none) name

theorem attributeIn? (uri name : String) : a.attributeIn? uri name = b.attributeIn? uri name := by
  have hvalue := congrFun (congrFun h.value? (some uri)) name
  have hswap : ∀ e : Element, e.attributeIn? uri name = e.tag.value? (some uri) name := by
    intro e
    unfold Element.attributeIn? Tag.value? QName.is
    simp only [Bool.and_comm]
  rw [hswap, hswap, hvalue]

theorem is (uri name : String) : a.is uri name = b.is uri name := by
  rw [Element.is, Element.is, QName.is, QName.is, h.uri, h.localName]

end Element.Alike

/-- The attributes of two tags are the same: neither has two of one expanded name, and
those of the one have the same expanded names and values as those of the other, in
whatever order and with whatever prefixes. -/
structure Tag.SameAttributes (t u : Tag) : Prop where
  /-- The first has each expanded name once. -/
  distinct : (t.attributes.map fun a => (a.name.uri, a.name.localName)).Nodup
  /-- The second has each expanded name once. -/
  distinct' : (u.attributes.map fun a => (a.name.uri, a.name.localName)).Nodup
  /-- Both have the same set of names and values. -/
  same : ∀ uri name value,
    (∃ a ∈ t.attributes, a.name.uri = uri ∧ a.name.localName = name ∧ a.value = value) ↔
      ∃ a ∈ u.attributes, a.name.uri = uri ∧ a.name.localName = name ∧ a.value = value

/-- Two elements differ only in spelling: in prefixes, declarations, the order of
attributes, and the way text is cut and placed. -/
inductive Element.Equivalent : Element → Element → Prop where
  /-- They agree on their expanded names, attributes and texts, and their child elements
  agree one by one. -/
  | intro {a b : Element} (uri : a.tag.name.uri = b.tag.name.uri)
      (localName : a.tag.name.localName = b.tag.name.localName)
      (attributes : a.tag.SameAttributes b.tag) (text : a.text = b.text)
      (elements : List.Forall₂ Element.Equivalent a.elements b.elements) : Equivalent a b

/-- Where expanded names differ, the value that is found is the one that is there. -/
theorem value?_eq_some_iff (t : Tag)
    (h : (t.attributes.map fun a => (a.name.uri, a.name.localName)).Nodup)
    (uri : Option String) (name value : String) :
    t.value? uri name = some value ↔
      ∃ a ∈ t.attributes, a.name.uri = uri ∧ a.name.localName = name ∧ a.value = value := by
  unfold Tag.value?
  generalize t.attributes = attributes at h
  induction attributes with
  | nil => exact iff_of_false (Option.some_ne_none value).symm (by rintro ⟨a, ha, _⟩; cases ha)
  | cons a rest ih =>
      rw [List.map_cons, List.nodup_cons] at h
      by_cases hname : a.name.uri = uri ∧ a.name.localName = name
      · rw [List.find?_cons_of_pos (by simp only [hname, beq_self_eq_true, Bool.and_self]),
          Option.map_some, Option.some.injEq]
        constructor
        · intro hvalue
          exact ⟨a, List.mem_cons_self, hname.1, hname.2, hvalue⟩
        · rintro ⟨a', ha', huri, hlocal, hvalue⟩
          rcases List.mem_cons.mp ha' with rfl | hrest
          · exact hvalue
          · -- The name of the first stands nowhere else.
            refine absurd (List.mem_map.mpr ⟨a', hrest, ?_⟩) h.1
            rw [huri, hlocal, hname.1, hname.2]
      · have hmiss : ¬ (a.name.uri == uri && a.name.localName == name) = true := by
          rw [Bool.and_eq_true, beq_iff_eq, beq_iff_eq]
          exact hname
        simp only [List.find?_cons, hmiss]
        rw [ih h.2]
        constructor
        · rintro ⟨a', ha', hfound⟩
          exact ⟨a', List.mem_cons_of_mem a ha', hfound⟩
        · rintro ⟨a', ha', huri, hlocal, hvalue⟩
          rcases List.mem_cons.mp ha' with rfl | hrest
          · exact absurd ⟨huri, hlocal⟩ hname
          · exact ⟨a', hrest, huri, hlocal, hvalue⟩

/-- The same attributes are found by the same names. -/
theorem Tag.SameAttributes.value?_eq {t u : Tag} (h : t.SameAttributes u) :
    t.value? = u.value? := by
  funext uri name
  refine Option.ext fun value => ?_
  rw [value?_eq_some_iff t h.distinct, value?_eq_some_iff u h.distinct', h.same]

/-- Equivalent elements are alike. -/
theorem alike_of_equivalent {a b : Element} (h : a.Equivalent b) : a.Alike b := by
  -- The induction goes over the trees, and over the lists of child elements in them.
  refine @Element.Equivalent.rec (fun a b _ => a.Alike b)
    (fun es fs _ => es.map Element.content = fs.map Element.content) ?_ rfl ?_ a b h
  · intro a b huri hlocal hattributes htext _ helements
    rw [Element.elements, Element.elements, ← contentsOfAll_eq_map, ← contentsOfAll_eq_map]
      at helements
    rw [Element.Alike, Element.content, Element.content, huri, hlocal, hattributes.value?_eq,
      htext, helements]
  · intro e f es fs _ _ hhead hrest
    rw [List.map_cons, List.map_cons, hrest]
    exact congrArg (· :: fs.map Element.content) hhead

section

variable {es fs : List Element} (h : List.Forall₂ Element.Alike es fs)

include h

theorem isEmpty_eq_of_alike : es.isEmpty = fs.isEmpty := by
  cases h with
  | nil => rfl
  | cons _ _ => rfl

theorem map_eq_of_alike {β : Type} {f g : Element → β} (hf : ∀ a b, a.Alike b → f a = g b) :
    es.map f = fs.map g := by
  induction h with
  | nil => rfl
  | cons hhead _ ih => rw [List.map_cons, List.map_cons, hf _ _ hhead, ih]

theorem any_eq_of_alike {p q : Element → Bool} (hp : ∀ a b, a.Alike b → p a = q b) :
    es.any p = fs.any q := by
  induction h with
  | nil => rfl
  | cons hhead _ ih => rw [List.any_cons, List.any_cons, hp _ _ hhead, ih]

theorem flatMap_eq_of_alike {β : Type} {f g : Element → List β}
    (hf : ∀ a b, a.Alike b → f a = g b) : es.flatMap f = fs.flatMap g := by
  rw [List.flatMap_def, List.flatMap_def, map_eq_of_alike h hf]

theorem findSome?_eq_of_alike {β : Type} {f g : Element → Option β}
    (hf : ∀ a b, a.Alike b → f a = g b) : es.findSome? f = fs.findSome? g := by
  induction h with
  | nil => rfl
  | cons hhead _ ih => rw [List.findSome?_cons, List.findSome?_cons, hf _ _ hhead, ih]

theorem filterMap_eq_of_alike {β : Type} {f g : Element → Option β}
    (hf : ∀ a b, a.Alike b → f a = g b) : es.filterMap f = fs.filterMap g := by
  induction h with
  | nil => rfl
  | cons hhead _ ih => rw [List.filterMap_cons, List.filterMap_cons, hf _ _ hhead, ih]

theorem filter_alike {p q : Element → Bool} (hp : ∀ a b, a.Alike b → p a = q b) :
    List.Forall₂ Element.Alike (es.filter p) (fs.filter q) := by
  induction h with
  | nil => exact .nil
  | @cons a b es fs hhead _ ih =>
      rw [List.filter_cons, List.filter_cons, hp a b hhead]
      cases q b with
      | true => exact .cons hhead ih
      | false => exact ih

theorem head?_alike : Option.Rel Element.Alike es.head? fs.head? := by
  cases h with
  | nil => exact .none
  | cons hhead _ => exact .some hhead

theorem flatMap_alike {f g : Element → List Element}
    (hf : ∀ a b, a.Alike b → List.Forall₂ Element.Alike (f a) (g b)) :
    List.Forall₂ Element.Alike (es.flatMap f) (fs.flatMap g) := by
  rw [forall₂_alike_iff, List.map_flatMap, List.map_flatMap]
  exact flatMap_eq_of_alike h fun a b hab => (forall₂_alike_iff _ _).mp (hf a b hab)

theorem find?_alike {p q : Element → Bool} (hp : ∀ a b, a.Alike b → p a = q b) :
    Option.Rel Element.Alike (es.find? p) (fs.find? q) := by
  induction h with
  | nil => exact .none
  | @cons a b es fs hhead _ ih =>
      rw [List.find?_cons, List.find?_cons, hp a b hhead]
      cases q b with
      | true => exact .some hhead
      | false => exact ih

end

/-- Both are there or none is. -/
theorem isSome_eq_of_alike {x y : Option Element} (h : Option.Rel Element.Alike x y) :
    x.isSome = y.isSome := by
  cases h with
  | none => rfl
  | some _ => rfl

namespace Element.Alike

variable {a b : Element} (h : a.Alike b)

include h

theorem childrenNamed (uri name : String) :
    List.Forall₂ Element.Alike (a.childrenNamed uri name) (b.childrenNamed uri name) :=
  filter_alike h.elements fun _ _ hc => hc.is uri name

theorem descendantsNamed (uri name : String) :
    List.Forall₂ Element.Alike (a.descendantsNamed uri name) (b.descendantsNamed uri name) :=
  filter_alike h.descendants fun _ _ hc => hc.is uri name

theorem child? (uri name : String) :
    Option.Rel Element.Alike (a.child? uri name) (b.child? uri name) :=
  find?_alike h.elements fun _ _ hc => hc.is uri name

/-- Either both have a child element of that name, and the first ones are alike, or
neither has. -/
theorem child?_cases (uri name : String) :
    (a.child? uri name = none ∧ b.child? uri name = none) ∨
      ∃ c d, a.child? uri name = some c ∧ b.child? uri name = some d ∧ c.Alike d := by
  have hchild := h.child? uri name
  generalize a.child? uri name = x at hchild
  generalize b.child? uri name = y at hchild
  cases hchild with
  | none => exact .inl ⟨rfl, rfl⟩
  | @some c d hcd => exact .inr ⟨c, d, rfl, rfl, hcd⟩

theorem hasChild (uri name : String) : a.hasChild uri name = b.hasChild uri name :=
  isSome_eq_of_alike (h.child? uri name)

end Element.Alike

end Xml

end SamlConformance
