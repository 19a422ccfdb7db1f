import Mathlib.Data.List.Nodup
import SamlConformance.Xml.Printer
import SamlConformance.Xml.Scope

/-!
# Trees That Can Be Written

An element tree keeps what was written beside what it means, and so it can contradict
itself: a name can carry a namespace that its prefix is not declared for, two pieces of
text can stand side by side, a declaration can bind what must not be bound. Writing such a
tree and reading it again cannot give it back. The trees collected here agree with
themselves. They say nothing about values and texts, which may hold any characters.

Whether a name agrees with the declarations around it depends on these, so that all
conditions are relative to a list of declarations in force, the nearest first. Names that
begin with `xmlns` are special: `xmlns` and `xmlns:p` stand for declarations in writing,
and neither is the name of an attribute.

The reader keeps the declarations in force as a scope. A scope reflects a list of
declarations if looking up any prefix gives the same in both, and it still does after a
tag has added its own.

## Main definitions

* `isNcName`: A name without a colon.
* `declared?`: The namespace that the nearest declaration gives a prefix.
* `Declaration.Legal`: A declaration that may be made.
* `QName.NamesElement`, `QName.NamesAttribute`: Names that agree with the declarations.
* `Tag.WellFormed`, `Node.WellFormed`, `Element.WellFormed`: Trees that can be written.
* `Scope.Reflects`: A scope of the reader stands for a list of declarations.

## Theorems

* `isWordChar_ne`: The characters of written names are no markup.
* `declaredPrefix?_attribute`: The name of an attribute declares nothing.
* `resolve_element`, `resolve_attribute`: Written names are resolved to what they were.
* `exists_extend`: The scope inside a tag reflects its declarations and those around it.
-/

namespace SamlConformance

namespace Xml

/-- Code points a name may begin with. The colon is not among them: it sets a prefix
apart. -/
def nameStartIntervals : List (Nat × Nat) :=
  [(0x41, 0x5A), (0x5F, 0x5F), (0x61, 0x7A), (0xC0, 0xD6), (0xD8, 0xF6), (0xF8, 0x2FF),
    (0x370, 0x37D), (0x37F, 0x1FFF), (0x200C, 0x200D), (0x2070, 0x218F), (0x2C00, 0x2FEF),
    (0x3001, 0xD7FF), (0xF900, 0xFDCF), (0xFDF0, 0xFFFD), (0x10000, 0xEFFFF)]

/-- Code points that may stand in a name, but not at its beginning. -/
def nameTailIntervals : List (Nat × Nat) :=
  [(0x2D, 0x2E), (0x30, 0x39), (0xB7, 0xB7), (0x300, 0x36F), (0x203F, 0x2040)]

/-- A character by intervals of code points. -/
def isAmong (intervals : List (Nat × Nat)) (c : Char) : Bool :=
  intervals.any fun i => i.1 ≤ c.toNat && c.toNat ≤ i.2

/-- A character that may stand in a name. -/
def isNameChar (c : Char) : Bool :=
  isAmong nameStartIntervals c || isAmong nameTailIntervals c

/-- A name without a colon. -/
def isNcName (s : String) : Bool :=
  match s.toList with
  | [] => false
  | c :: cs => isAmong nameStartIntervals c && cs.all isNameChar

/-- The namespace that the nearest of several declarations gives a prefix. -/
def declared? (ds : List Declaration) (p : Option String) : Option String :=
  (ds.find? fun d => d.nsPrefix == p).map Declaration.uri

/-- What is declared outside of all elements. -/
def builtIn : List Declaration :=
  [⟨some "xml", xmlNamespace⟩]

/-- A declaration that may be made: a named prefix is not withdrawn, the two special
prefixes stay what they are, and their namespaces are used for nothing else. The
namespace is written as it is, without any references. -/
structure Declaration.Legal (d : Declaration) : Prop where
  /-- A named prefix is a name, and bound to something. -/
  named : ∀ p ∈ d.nsPrefix, isNcName p = true ∧ p ≠ "xml" ∧ p ≠ "xmlns" ∧ d.uri ≠ ""
  /-- The namespace is none of the special prefixes. -/
  unreserved : d.uri ≠ xmlNamespace ∧ d.uri ≠ xmlnsNamespace
  /-- The namespace has no characters that are written by name. -/
  verbatim : ∀ c ∈ d.uri.toList, c ∉ ['&', '<', '>', '\x27', '"']

namespace QName

/-- The name has the prefix `p`, and is in the namespace that the nearest declaration
gives this prefix. Nothing can be declared for `xmlns`. -/
structure Bound (ds : List Declaration) (n : QName) (p : String) : Prop where
  /-- The prefix is a name. -/
  ncName : isNcName p = true
  /-- It is none that declares. -/
  notDeclaring : p ≠ "xmlns"
  /-- Its namespace is that of the name. -/
  declared : n.uri = declared? ds (some p)
  /-- There is one. -/
  present : ∃ uri ∈ n.uri, uri ≠ ""

/-- The name can be that of an element where the declarations are in force. Without a
prefix it is in the default namespace, of which an empty one is none. -/
def NamesElement (ds : List Declaration) (n : QName) : Prop :=
  isNcName n.localName = true ∧
    (n.nsPrefix = none → n.uri = (declared? ds none).filter (· ≠ "")) ∧
    ∀ p ∈ n.nsPrefix, n.Bound ds p

/-- The name can be that of an attribute where the declarations are in force. Without a
prefix it is in no namespace, and it is not the name by which the default namespace is
declared. -/
def NamesAttribute (ds : List Declaration) (n : QName) : Prop :=
  isNcName n.localName = true ∧
    (n.nsPrefix = none → n.uri = none ∧ n.localName ≠ "xmlns") ∧
    ∀ p ∈ n.nsPrefix, n.Bound ds p

end QName

/-- The tag can be written inside of the declarations `outer`. Those it makes itself are
in force for its own names already. -/
structure Tag.WellFormed (outer : List Declaration) (t : Tag) : Prop where
  /-- The name of the element agrees with the declarations. -/
  name : t.name.NamesElement (t.declarations ++ outer)
  /-- So do those of the attributes. -/
  attributes : ∀ a ∈ t.attributes, a.name.NamesAttribute (t.declarations ++ outer)
  /-- The declarations may be made. -/
  declarations : ∀ d ∈ t.declarations, d.Legal
  /-- Nothing is set twice. -/
  distinct : (t.declarations.map Declaration.key ++ t.attributes.map (·.name.written)).Nodup

/-- The node is a text. -/
def Node.isText : Node → Bool
  | .text _ => true
  | .element .. => false

mutual

/-- The node can be written inside of the declarations `outer`. Texts are not empty and
do not touch each other. -/
def Node.WellFormed (outer : List Declaration) : Node → Prop
  | .text s => s ≠ ""
  | .element t cs => t.WellFormed outer ∧
    cs.IsChain (fun m n => ¬ (m.isText = true ∧ n.isText = true)) ∧
    Node.AllWellFormed (t.declarations ++ outer) cs

/-- Each of several nodes can be written there. -/
def Node.AllWellFormed (outer : List Declaration) : List Node → Prop
  | [] => True
  | n :: ns => n.WellFormed outer ∧ Node.AllWellFormed outer ns

end

/-- The element can be written as a document. -/
def Element.WellFormed (e : Element) : Prop :=
  e.node.WellFormed builtIn

section

variable (outer : List Declaration)

instance (d : Declaration) : Decidable d.Legal :=
  have : Decidable (∀ c ∈ d.uri.toList, c ∉ ['&', '<', '>', '\x27', '"']) :=
    List.decidableBAll _ _
  decidable_of_iff
    ((∀ p ∈ d.nsPrefix, isNcName p = true ∧ p ≠ "xml" ∧ p ≠ "xmlns" ∧ d.uri ≠ "") ∧
      (d.uri ≠ xmlNamespace ∧ d.uri ≠ xmlnsNamespace) ∧
      ∀ c ∈ d.uri.toList, c ∉ ['&', '<', '>', '\x27', '"'])
    ⟨fun ⟨hnamed, hunreserved, hverbatim⟩ => ⟨hnamed, hunreserved, hverbatim⟩,
      fun h => ⟨h.named, h.unreserved, h.verbatim⟩⟩

instance (n : QName) (p : String) : Decidable (n.Bound outer p) :=
  decidable_of_iff (isNcName p = true ∧ p ≠ "xmlns" ∧ n.uri = declared? outer (some p) ∧
      ∃ uri ∈ n.uri, uri ≠ "")
    ⟨fun ⟨hncName, hdeclaring, hdeclared, hpresent⟩ =>
        ⟨hncName, hdeclaring, hdeclared, hpresent⟩,
      fun h => ⟨h.ncName, h.notDeclaring, h.declared, h.present⟩⟩

instance (n : QName) : Decidable (n.NamesElement outer) :=
  inferInstanceAs (Decidable (_ ∧ _ ∧ _))

instance (n : QName) : Decidable (n.NamesAttribute outer) :=
  inferInstanceAs (Decidable (_ ∧ _ ∧ _))

instance (t : Tag) : Decidable (t.WellFormed outer) :=
  decidable_of_iff (t.name.NamesElement (t.declarations ++ outer) ∧
      (∀ a ∈ t.attributes, a.name.NamesAttribute (t.declarations ++ outer)) ∧
      (∀ d ∈ t.declarations, d.Legal) ∧
      (t.declarations.map Declaration.key ++ t.attributes.map (·.name.written)).Nodup)
    ⟨fun ⟨hname, hattributes, hdeclarations, hdistinct⟩ =>
        ⟨hname, hattributes, hdeclarations, hdistinct⟩,
      fun h => ⟨h.name, h.attributes, h.declarations, h.distinct⟩⟩

end

mutual

instance Node.decidableWellFormed (outer : List Declaration) :
    (n : Node) → Decidable (n.WellFormed outer)
  | .text s => inferInstanceAs (Decidable (s ≠ ""))
  | .element t cs =>
    have := Node.decidableAllWellFormed (t.declarations ++ outer) cs
    inferInstanceAs (Decidable (t.WellFormed outer ∧
      cs.IsChain (fun m n => ¬ (m.isText = true ∧ n.isText = true)) ∧
      Node.AllWellFormed (t.declarations ++ outer) cs))

instance Node.decidableAllWellFormed (outer : List Declaration) :
    (ns : List Node) → Decidable (Node.AllWellFormed outer ns)
  | [] => isTrue trivial
  | n :: ns =>
    have := Node.decidableWellFormed outer n
    have := Node.decidableAllWellFormed outer ns
    inferInstanceAs (Decidable (n.WellFormed outer ∧ Node.AllWellFormed outer ns))

end

instance (e : Element) : Decidable e.WellFormed :=
  Node.decidableWellFormed builtIn e.node

/-- A character of a name in writing, in which a colon may stand. -/
def isWordChar (c : Char) : Bool :=
  isNameChar c || c == ':'

/-- No character of a written name means anything to a reader of tags. -/
theorem isWordChar_ne (c d : Char) (hc : isWordChar c = true)
    (hd : d ∈ [' ', '\t', '\r', '\n', '<', '>', '&', '\x27', '"', '/', '=', '!', '?']) :
    c ≠ d := by
  have hmarkup : ([' ', '\t', '\r', '\n', '<', '>', '&', '\x27', '"', '/', '=', '!', '?'].all
      fun d => !isWordChar d) = true := by decide
  rintro rfl
  have hnone := List.all_eq_true.mp hmarkup c hd
  rw [hc] at hnone
  exact Bool.false_ne_true hnone

theorem isBlank_of_isWordChar (c : Char) (hc : isWordChar c = true) : isBlank c = false := by
  have hne := isWordChar_ne c
  simp only [isBlank, beq_false_of_ne (hne ' ' hc (by decide)),
    beq_false_of_ne (hne '\t' hc (by decide)), beq_false_of_ne (hne '\r' hc (by decide)),
    beq_false_of_ne (hne '\n' hc (by decide)), Bool.or_self]

theorem isKeyChar_of_isWordChar (c : Char) (hc : isWordChar c = true) : isKeyChar c = true := by
  rw [isKeyChar, isBlank_of_isWordChar c hc, bne_iff_ne.mpr (isWordChar_ne c '=' hc (by decide))]
  rfl

theorem isNameChar_of_mem (s : String) (hs : isNcName s = true) (c : Char) (hc : c ∈ s.toList) :
    isNameChar c = true := by
  unfold isNcName at hs
  cases hlist : s.toList with
  | nil =>
      rw [hlist] at hc
      exact absurd hc List.not_mem_nil
  | cons d ds =>
      simp only [hlist, Bool.and_eq_true, List.all_eq_true] at hs
      rw [hlist] at hc
      rcases List.mem_cons.mp hc with rfl | hmem
      · rw [isNameChar, hs.1, Bool.true_or]
      · exact hs.2 c hmem

theorem ne_nil_of_isNcName (s : String) (hs : isNcName s = true) : s.toList ≠ [] := by
  intro hnil
  simp only [isNcName, hnil, Bool.false_eq_true] at hs

theorem colon_not_mem (s : String) (hs : isNcName s = true) : ':' ∉ s.toList := by
  intro hmem
  have hcolon : isNameChar ':' = false := by decide
  rw [isNameChar_of_mem s hs ':' hmem] at hcolon
  exact Bool.false_ne_true hcolon.symm

theorem toList_written (n : QName) : n.written.toList =
    match n.nsPrefix with
    | none => n.localName.toList
    | some p => p.toList ++ ':' :: n.localName.toList := by
  unfold QName.written
  cases n.nsPrefix with
  | none => rfl
  | some p =>
      have hcolon : ":".toList = [':'] := rfl
      simp only [String.toList_append, hcolon, List.append_assoc, List.singleton_append]

/-- A written name is made of name characters and a colon, and is not empty. -/
theorem word_written (n : QName) (hlocal : isNcName n.localName = true)
    (hnamed : ∀ p ∈ n.nsPrefix, isNcName p = true) :
    n.written.toList ≠ [] ∧ ∀ c ∈ n.written.toList, isWordChar c = true := by
  have hchars : ∀ s, isNcName s = true → ∀ c ∈ s.toList, isWordChar c = true := by
    intro s hs c hc
    rw [isWordChar, isNameChar_of_mem s hs c hc, Bool.true_or]
  rw [toList_written]
  cases hp : n.nsPrefix with
  | none => exact ⟨ne_nil_of_isNcName _ hlocal, hchars _ hlocal⟩
  | some p =>
      refine ⟨fun hnil => absurd (List.append_eq_nil_iff.mp hnil).2 (List.cons_ne_nil _ _), ?_⟩
      intro c hc
      rcases List.mem_append.mp hc with hc | hc
      · exact hchars p (hnamed p hp) c hc
      · rcases List.mem_cons.mp hc with rfl | hc
        · decide
        · exact hchars _ hlocal c hc

theorem word_element (ds : List Declaration) (n : QName) (h : n.NamesElement ds) :
    n.written.toList ≠ [] ∧ ∀ c ∈ n.written.toList, isWordChar c = true :=
  word_written n h.1 fun p hp => (h.2.2 p hp).ncName

theorem word_attribute (ds : List Declaration) (n : QName) (h : n.NamesAttribute ds) :
    n.written.toList ≠ [] ∧ ∀ c ∈ n.written.toList, isWordChar c = true :=
  word_written n h.1 fun p hp => (h.2.2 p hp).ncName

theorem toList_key (d : Declaration) : d.key.toList =
    match d.nsPrefix with
    | none => "xmlns".toList
    | some p => "xmlns".toList ++ ':' :: p.toList := by
  unfold Declaration.key
  cases d.nsPrefix with
  | none => rfl
  | some p => rw [String.toList_append]; rfl

theorem word_key (d : Declaration) (h : d.Legal) :
    d.key.toList ≠ [] ∧ ∀ c ∈ d.key.toList, isWordChar c = true := by
  have hxmlns : ∀ c ∈ "xmlns".toList, isWordChar c = true := List.all_eq_true.mp (by decide)
  rw [toList_key]
  cases hp : d.nsPrefix with
  | none => exact ⟨by decide, hxmlns⟩
  | some p =>
      refine ⟨fun hnil => absurd (List.append_eq_nil_iff.mp hnil).2 (List.cons_ne_nil _ _), ?_⟩
      intro c hc
      rcases List.mem_append.mp hc with hc | hc
      · exact hxmlns c hc
      · rcases List.mem_cons.mp hc with rfl | hc
        · decide
        · rw [isWordChar, isNameChar_of_mem p (h.named p hp).1 c hc, Bool.true_or]

/-- What is written for a declaration declares its prefix. -/
theorem declaredPrefix?_key (d : Declaration) :
    declaredPrefix? d.key.toList = some (d.nsPrefix.map String.toList) := by
  rw [toList_key]
  cases d.nsPrefix with
  | none => rfl
  | some p => rfl

/-- Only `xmlns` and what begins with `xmlns:` declares. -/
theorem eq_of_declaredPrefix? (key : List Char) (p : Option (List Char))
    (h : declaredPrefix? key = some p) :
    key = "xmlns".toList ∨ ∃ q, key = "xmlns".toList ++ ':' :: q := by
  unfold declaredPrefix? at h
  by_cases hbegins : "xmlns".toList.isPrefixOf key = true
  · rw [if_pos hbegins] at h
    rcases List.isPrefixOf_iff_prefix.mp hbegins with ⟨tail, rfl⟩
    have hdrop : ("xmlns".toList ++ tail).drop 5 = tail := rfl
    rw [hdrop] at h
    rcases tail with _ | ⟨c, q⟩
    · exact Or.inl (List.append_nil _)
    · by_cases hc : c = ':'
      · exact Or.inr ⟨q, by rw [hc]⟩
      · simp only [if_neg hc] at h
        exact absurd h.symm (Option.some_ne_none _)
  · rw [if_neg hbegins] at h
    exact absurd h.symm (Option.some_ne_none _)

/-- The name of an attribute declares nothing. -/
theorem declaredPrefix?_attribute (ds : List Declaration) (n : QName)
    (h : n.NamesAttribute ds) : declaredPrefix? n.written.toList = none := by
  rcases h with ⟨hlocal, hunprefixed, hprefixed⟩
  have hcolon := colon_not_mem n.localName hlocal
  cases hdeclared : declaredPrefix? n.written.toList with
  | none => rfl
  | some p =>
      have hkey := eq_of_declaredPrefix? _ p hdeclared
      rw [toList_written] at hkey
      cases hp : n.nsPrefix with
      | none =>
          simp only [hp] at hkey
          rcases hkey with hkey | ⟨q, hkey⟩
          · exact absurd (String.toList_inj.mp hkey) (hunprefixed hp).2
          · rw [hkey] at hcolon
            exact absurd (List.mem_append_right _ List.mem_cons_self) hcolon
      | some q =>
          -- The first colon ends the prefix, so the prefix would be `xmlns`.
          have hbound := hprefixed q hp
          have hcut := Text.cutFirst_append n.localName.toList (colon_not_mem q hbound.ncName)
          simp only [hp] at hkey
          rcases hkey with hkey | ⟨name, hkey⟩
          · have hmem : ':' ∈ "xmlns".toList := hkey ▸ List.mem_append_right _ List.mem_cons_self
            exact absurd hmem (by decide)
          · have hxmlns := Text.cutFirst_append name (show ':' ∉ "xmlns".toList by decide)
            rw [hkey, hxmlns] at hcut
            exact absurd (String.toList_inj.mp (Prod.mk.inj hcut).1).symm hbound.notDeclaring

/-- Each side of a list of declarations is asked in turn. -/
theorem declared?_append (ds es : List Declaration) (p : Option String) :
    declared? (ds ++ es) p = (declared? ds p).or (declared? es p) := by
  rw [declared?, List.find?_append, Option.map_or]
  rfl

theorem declared?_eq_none (ds : List Declaration) (p : Option String)
    (h : p ∉ ds.map Declaration.nsPrefix) : declared? ds p = none := by
  rw [declared?, Option.map_eq_none_iff, List.find?_eq_none]
  intro d hd hp
  exact h (List.mem_map.mpr ⟨d, hd, beq_iff_eq.mp hp⟩)

/-- Where a prefix is declared once only, the declaration can stand anywhere. -/
theorem declared?_middle (d : Declaration) (ds outer : List Declaration)
    (h : d.nsPrefix ∉ ds.map Declaration.nsPrefix) (p : Option String) :
    declared? (ds ++ d :: outer) p = declared? (d :: (ds ++ outer)) p := by
  have hsplit : ∀ es, declared? (d :: es) p = (declared? [d] p).or (declared? es p) :=
    fun es => declared?_append [d] es p
  rw [declared?_append, hsplit outer, hsplit (ds ++ outer), declared?_append]
  by_cases hp : d.nsPrefix = p
  · have hnone := declared?_eq_none ds p (hp ▸ h)
    rw [hnone, Option.none_or, Option.none_or]
  · have hnone := declared?_eq_none [d] p
      (by rw [List.map_singleton, List.mem_singleton]; exact fun heq => hp heq.symm)
    rw [hnone, Option.none_or, Option.none_or]

namespace Scope

/-- The scope gives every prefix the namespace that the declarations do. -/
structure Reflects (scope : Scope) (ds : List Declaration) : Prop where
  /-- Names without a prefix. -/
  unprefixed : (scope.lookup []).map String.ofList = declared? ds none
  /-- Names with a prefix, which can be declared unless it is `xmlns`. -/
  prefixed : ∀ p, p ≠ "" → p ≠ "xmlns" →
    (scope.lookup p.toList).map String.ofList = declared? ds (some p)

theorem reflects_outermost : outermost.Reflects builtIn where
  unprefixed := by decide
  prefixed := by
    intro p hempty hxmlns
    have hbuiltIn : declared? builtIn (some p) =
        if "xml" = p then some xmlNamespace else none := by
      rw [declared?, builtIn, List.find?_singleton]
      by_cases hp : "xml" = p
      · simp only [hp, beq_self_eq_true, if_true, Option.map_some]
      · have hne : (some "xml" == some p) = false :=
          beq_false_of_ne fun heq => hp (Option.some.inj heq)
        simp only [hne, Bool.false_eq_true, if_false, if_neg hp, Option.map_none]
    rw [hbuiltIn, outermost, List.lookup_cons]
    by_cases hp : "xml" = p
    · rw [if_pos hp, ← hp]
      rfl
    · have hxml : (p.toList == "xml".toList) = false :=
        beq_false_of_ne fun heq => hp (String.toList_inj.mp heq).symm
      have hxmlns' : (p.toList == "xmlns".toList) = false :=
        beq_false_of_ne fun heq => hxmlns (String.toList_inj.mp heq)
      rw [hxml, if_neg hp, List.lookup_cons, hxmlns']
      rfl

/-- One more declaration that may be made. -/
theorem exists_declare (scope : Scope) (ds : List Declaration) (d : Declaration)
    (hscope : scope.Reflects ds) (hd : d.Legal) :
    ∃ scope', scope.declare (d.nsPrefix.map String.toList) d.uri.toList = .ok scope' ∧
      scope'.Reflects (d :: ds) := by
  have hcons : ∀ p, declared? (d :: ds) p =
      if d.nsPrefix = p then some d.uri else declared? ds p := by
    intro p
    rw [declared?, List.find?_cons]
    by_cases hp : d.nsPrefix = p
    · rw [hp, beq_self_eq_true, if_pos rfl]
      rfl
    · rw [beq_false_of_ne hp, if_neg hp]
      rfl
  have hne : ∀ s t : String, s ≠ t → ¬ s.toList = t.toList :=
    fun s t h heq => h (String.toList_inj.mp heq)
  cases hp : d.nsPrefix with
  | none =>
      refine ⟨([], d.uri.toList) :: scope, rfl, ?_, ?_⟩
      · rw [hcons, if_pos hp, List.lookup_cons_self, Option.map_some, String.ofList_toList]
      · intro q hempty hxmlns
        have hq : (q.toList == []) = false := beq_false_of_ne (hne q "" hempty)
        rw [hcons, if_neg (hp ▸ fun h => absurd h (Option.some_ne_none q).symm),
          List.lookup_cons, hq]
        exact hscope.prefixed q hempty hxmlns
  | some p =>
      rcases hd.named p hp with ⟨hncName, hxml, hxmlns, -⟩
      rcases hd.unreserved with ⟨huri, huri'⟩
      refine ⟨(p.toList, d.uri.toList) :: scope, ?_, ?_, ?_⟩
      · simp only [Option.map_some, declare, if_neg (hne _ _ hxml), if_neg (hne _ _ hxmlns),
          if_neg (hne _ _ huri), if_neg (hne _ _ huri')]
      · have hnil : ([] == p.toList) = false :=
          beq_false_of_ne (Ne.symm (ne_nil_of_isNcName p hncName))
        rw [hcons, if_neg (hp ▸ fun h => absurd h (Option.some_ne_none p)), List.lookup_cons, hnil]
        exact hscope.unprefixed
      · intro q hempty hxmlns'
        rw [hcons, hp]
        by_cases hq : p = q
        · rw [hq, if_pos rfl, List.lookup_cons_self, Option.map_some, String.ofList_toList]
        · have hkey : (q.toList == p.toList) = false := beq_false_of_ne (hne q p (Ne.symm hq))
          rw [if_neg fun heq => hq (Option.some.inj heq), List.lookup_cons, hkey]
          exact hscope.prefixed q hempty hxmlns'

/-- The scope inside a tag reflects the declarations in the tag and those around it.
Settings that declare nothing can follow. -/
theorem exists_extend (scope : Scope) (ds outer : List Declaration)
    (settings : List (List Char × List Char)) (hscope : scope.Reflects outer)
    (hlegal : ∀ d ∈ ds, d.Legal) (hdistinct : (ds.map Declaration.nsPrefix).Nodup)
    (hsettings : ∀ s ∈ settings, declaredPrefix? s.1 = none) :
    ∃ scope', scope.extend (ds.map (fun d => (d.key.toList, d.uri.toList)) ++ settings) =
      .ok scope' ∧ scope'.Reflects (ds ++ outer) := by
  -- Along the declarations, each of which stands around all that follow.
  induction ds generalizing scope outer with
  | nil =>
      refine ⟨scope, ?_, hscope⟩
      rw [List.map_nil, List.nil_append]
      induction settings with
      | nil => rfl
      | cons s settings ih =>
          simp only [extend, hsettings s List.mem_cons_self]
          exact ih fun t ht => hsettings t (List.mem_cons_of_mem s ht)
  | cons d ds ih =>
      rw [List.map_cons, List.nodup_cons] at hdistinct
      rcases exists_declare scope outer d hscope (hlegal d List.mem_cons_self)
        with ⟨scope₁, hdeclare, hscope₁⟩
      rcases ih scope₁ (d :: outer) hscope₁ (fun e he => hlegal e (List.mem_cons_of_mem d he))
        hdistinct.2 with ⟨scope', hextend, hscope'⟩
      refine ⟨scope', ?_, ?_, ?_⟩
      · simp only [List.map_cons, List.cons_append, extend, declaredPrefix?_key, hdeclare]
        exact hextend
      · rw [hscope'.unprefixed, declared?_middle d ds outer hdistinct.1]
        rfl
      · intro p hempty hxmlns
        rw [hscope'.prefixed p hempty hxmlns, declared?_middle d ds outer hdistinct.1]
        rfl

section

variable {scope : Scope} {ds : List Declaration} (hscope : scope.Reflects ds)

include hscope

/-- A declared prefix is bound to its namespace. -/
theorem bound?_of_bound (n : QName) (p : String) (hn : n.Bound ds p) :
    ∃ uri, scope.bound? p.toList = some uri ∧ n.uri = some (String.ofList uri) := by
  have hnil := ne_nil_of_isNcName p hn.ncName
  have hempty : p ≠ "" := fun heq => hnil (heq ▸ rfl)
  rcases hn.present with ⟨uri, huri, hne⟩
  have hlookup := hscope.prefixed p hempty hn.notDeclaring
  rw [← hn.declared, Option.mem_def.mp huri] at hlookup
  rcases Option.map_eq_some_iff.mp hlookup with ⟨cs, hcs, rfl⟩
  refine ⟨cs, ?_, huri⟩
  rcases hp : p.toList with _ | ⟨c, tail⟩
  · exact absurd hp hnil
  rw [hp] at hcs
  -- The namespace is not empty, which would be as good as none.
  rcases cs with _ | ⟨d, cs⟩
  · exact absurd rfl hne
  · simp only [bound?, hcs]

/-- A name with a prefix is resolved to what it was. -/
theorem resolve_of_bound (n : QName) (p : String) (hlocal : isNcName n.localName = true)
    (hp : n.nsPrefix = some p) (hn : n.Bound ds p) (useDefault : Bool) :
    scope.resolve useDefault n.written.toList = .ok n := by
  rcases bound?_of_bound hscope n p hn with ⟨uri, hbound, huri⟩
  have hcut := Text.cutFirst_append n.localName.toList (colon_not_mem p hn.ncName)
  rcases n with ⟨nuri, nprefix, localName⟩
  simp only at hp huri hcut
  subst hp huri
  rw [resolve, toList_written]
  simp only [hcut, hbound, String.ofList_toList]

/-- The written name of an element is resolved to what it was. -/
theorem resolve_element (n : QName) (hn : n.NamesElement ds) :
    scope.resolve true n.written.toList = .ok n := by
  rcases hn with ⟨hlocal, hunprefixed, hprefixed⟩
  cases hp : n.nsPrefix with
  | some p => exact resolve_of_bound hscope n p hlocal hp (hprefixed p hp) true
  | none =>
      have hcut := Text.cutFirst_of_not_mem (colon_not_mem n.localName hlocal)
      have hdefault : scope.default?.map String.ofList = n.uri := by
        rw [hunprefixed hp, ← hscope.unprefixed, default?]
        rcases scope.lookup [] with _ | _ | ⟨c, uri⟩
        · rfl
        · rfl
        · have hne : String.ofList (c :: uri) ≠ "" := by
            intro heq
            have hlist := congrArg String.toList heq
            rw [String.toList_ofList] at hlist
            exact absurd hlist (List.cons_ne_nil _ _)
          rw [Option.map_some, Option.filter_some, if_pos (decide_eq_true hne)]
      rcases n with ⟨uri, nprefix, localName⟩
      simp only at hp hcut hdefault
      subst hp hdefault
      rw [resolve, toList_written]
      simp only [hcut, if_true, String.ofList_toList]

/-- The written name of an attribute is resolved to what it was. -/
theorem resolve_attribute (n : QName) (hn : n.NamesAttribute ds) :
    scope.resolve false n.written.toList = .ok n := by
  rcases hn with ⟨hlocal, hunprefixed, hprefixed⟩
  cases hp : n.nsPrefix with
  | some p => exact resolve_of_bound hscope n p hlocal hp (hprefixed p hp) false
  | none =>
      have hcut := Text.cutFirst_of_not_mem (colon_not_mem n.localName hlocal)
      have huri := (hunprefixed hp).1
      rcases n with ⟨uri, nprefix, localName⟩
      simp only at hp hcut huri
      rw [resolve, toList_written, hp, huri]
      simp only [hcut, Bool.false_eq_true, if_false, Option.map_none, String.ofList_toList]

end

end Scope

end Xml

end SamlConformance
