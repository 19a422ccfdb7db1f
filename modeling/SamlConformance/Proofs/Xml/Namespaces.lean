import SamlConformance.Proofs.Xml.Splitting
import SamlConformance.Proofs.Xml.WellFormed
import SamlConformance.Saml.Vocabulary

/-!
# Names Are in the Namespaces That Are Written

A declaration is read twice. The scope takes the namespace as it is written, with its
references, and gives it to the names; the tree shows it without references. So each list of
declarations exists in two versions, side by side: as written, and as shown. Every name of a
tree is in the namespace that the nearest declaration *as written* gives its prefix, whatever
is declared around it, is declared again further inside or is withdrawn there. Of the two
versions the tree has the second one only, and it says the same about a name if and only if
the namespace of the name is written without references: resolving a reference makes a text
shorter, so that no namespace with a reference is the one that is shown.

The reader builds the tree from inside out, and an element is only closed when everything in
it is. So the invariant is about the open elements as well: each of them has the declarations
around it, and what it holds so far agrees with them.

Three corners of the format show here. The prefix `xmlns` is in force without being
declared, a declaration for an empty prefix is one for names without a prefix, and the last
of two such declarations in one tag counts.

## Main definitions

* `Declaration.Writes`: One declaration as written, and as shown.
* `inForce?`: The namespace that declarations give a prefix.
* `QName.InForce`: A name is in the namespace that declarations give its prefix.
* `QName.Resolved`, `Tag.Resolved`, `Node.Resolved`: What holds for the names in a tree.
* `Scope.Shows`, `Frame.Open`: The invariant of the reader.

## Theorems

* `unescape_eq_self_iff`: Texts without references are those that stand for themselves.
* `QName.resolved_of_inForce`: When the tree shows the namespace of a name.
* `readTag_resolved`: One tag.
* `Builder.step_resolved`, `Builder.run_resolved`: One piece of a document, and all of them.
* `namespaces_resolved`: All names of a document.
-/

namespace SamlConformance

namespace Xml

/-- Resolving references never makes a text longer, and the first one makes it shorter. -/
theorem length_of_unescapeFrom (total pos : Nat) (cs out : List Char)
    (h : unescapeFrom total pos cs = .ok out) :
    out.length ≤ cs.length ∧ ('&' ∈ cs → out.length < cs.length) := by
  replace h := resolves_of_unescapeFrom total pos cs out h
  induction h with
  | nil pos => exact ⟨Nat.le_refl _, fun hmem => absurd hmem List.not_mem_nil⟩
  | reference hclose _ _ ih =>
      -- One character stands for a whole reference, which has its semicolon at least.
      have hrest := ih.1
      have hshorter := length_closeReference hclose
      simp only [List.length_cons]
      omega
  | char hc _ ih =>
      obtain ⟨hle, hlt⟩ := ih
      simp only [List.length_cons, List.mem_cons]
      exact ⟨Nat.succ_le_succ hle,
        fun hmem => Nat.succ_lt_succ (hlt (hmem.resolve_left (Ne.symm hc)))⟩

theorem unescapeFrom_verbatim (total pos : Nat) (cs : List Char) (h : '&' ∉ cs) :
    unescapeFrom total pos cs = .ok cs := by
  induction cs generalizing pos with
  | nil => rw [unescapeFrom]
  | cons c cs ih =>
      have hc : c ≠ '&' := fun heq => h (heq ▸ List.mem_cons_self)
      rw [unescapeFrom_char total pos c cs hc, ih _ fun hmem => h (List.mem_cons_of_mem c hmem)]
      rfl

/-- The texts without references are those that stand for themselves. -/
theorem unescape_eq_self_iff (cs : List Char) : unescape cs = .ok cs ↔ '&' ∉ cs :=
  ⟨fun h hmem => Nat.lt_irrefl _ ((length_of_unescapeFrom _ _ _ _ h).2 hmem),
    unescapeFrom_verbatim _ 0 cs⟩

/-- Nothing but the empty text stands for it. -/
theorem eq_nil_of_unescape (cs : List Char) (h : unescape cs = .ok []) : cs = [] := by
  cases resolves_of_unescapeFrom _ _ cs [] h with
  | nil => rfl

/-- The declaration `d` of a tree is written as `w`: for the same prefix, with a namespace
that has its references yet. -/
structure Declaration.Writes (w d : Declaration) : Prop where
  /-- Prefixes have no references. -/
  nsPrefix : w.nsPrefix = d.nsPrefix
  /-- Namespaces can have some. -/
  uri : unescape w.uri.toList = .ok d.uri.toList

/-- The namespace that the nearest of several declarations gives a prefix; names without one
have the empty prefix. -/
def nearest? (ds : List Declaration) (p : String) : Option String :=
  (ds.find? fun d => d.nsPrefix.getD "" == p).map Declaration.uri

/-- The namespace in force for a prefix. The empty namespace is none. -/
def inForce? (ds : List Declaration) (p : String) : Option String :=
  (nearest? ds p).filter (· ≠ "")

/-- What is in force outside of all elements. -/
def outermost : List Declaration :=
  [⟨some "xml", xmlNamespace⟩, ⟨some "xmlns", xmlnsNamespace⟩]

/-- The name is in the namespace in force for its prefix, and has one if it has a prefix.
Without a prefix it is in the default namespace where `useDefault` says so, and in none
otherwise. -/
def QName.InForce (ds : List Declaration) (useDefault : Bool) (n : QName) : Prop :=
  match n.nsPrefix with
  | none => n.uri = if useDefault then inForce? ds "" else none
  | some p => n.uri.isSome ∧ n.uri = inForce? ds p

/-- What holds for a name inside of declarations which are written as `ws` and shown as
`ds`. -/
structure QName.Resolved (ws ds : List Declaration) (useDefault : Bool) (n : QName) : Prop where
  /-- It is in the namespace that is written. -/
  written : n.InForce ws useDefault
  /-- It is in the one that is shown if there are no references in it. -/
  shown_iff : n.InForce ds useDefault ↔ ∀ uri ∈ n.uri, '&' ∉ uri.toList

/-- What holds for the names in a tag. -/
structure Tag.Resolved (ws ds : List Declaration) (t : Tag) : Prop where
  /-- Elements use the default namespace. -/
  name : t.name.Resolved ws ds true
  /-- Attributes do not. -/
  attributes : ∀ a ∈ t.attributes, a.name.Resolved ws ds false

mutual

/-- What holds for the names in a tree inside of declarations which are written as `ws` and
shown as `ds`: the declarations of each tag are written in some way, and are the nearest ones
for its own names and for all that is in it. -/
def Node.Resolved (ws ds : List Declaration) : Node → Prop
  | .text _ => True
  | .element t cs => ∃ written, List.Forall₂ Declaration.Writes written t.declarations ∧
    t.Resolved (written.reverse ++ ws) (t.declarations.reverse ++ ds) ∧
    Node.AllResolved (written.reverse ++ ws) (t.declarations.reverse ++ ds) cs

/-- The same for each of several trees. -/
def Node.AllResolved (ws ds : List Declaration) : List Node → Prop
  | [] => True
  | n :: ns => n.Resolved ws ds ∧ Node.AllResolved ws ds ns

end

theorem Node.allResolved_iff (ws ds : List Declaration) (ns : List Node) :
    Node.AllResolved ws ds ns ↔ ∀ n ∈ ns, n.Resolved ws ds := by
  induction ns with
  | nil => exact iff_of_true trivial (List.forall_mem_nil _)
  | cons n ns ih => rw [Node.AllResolved, ih, List.forall_mem_cons]

theorem nearest?_cons (d : Declaration) (ds : List Declaration) (p : String) :
    nearest? (d :: ds) p = if d.nsPrefix.getD "" = p then some d.uri else nearest? ds p := by
  rw [nearest?, List.find?_cons]
  by_cases hp : d.nsPrefix.getD "" = p
  · rw [hp, beq_self_eq_true, if_pos rfl]
    rfl
  · rw [beq_false_of_ne hp, if_neg hp]
    rfl

section

variable {ws ds : List Declaration} (h : List.Forall₂ Declaration.Writes ws ds)

include h

/-- The two versions of declarations are about the same prefixes. -/
theorem nearest?_of_writes (p : String) : (nearest? ws p = none ∧ nearest? ds p = none) ∨
    ∃ w d, nearest? ws p = some w ∧ nearest? ds p = some d ∧ unescape w.toList = .ok d.toList := by
  induction h with
  | nil => exact Or.inl ⟨rfl, rfl⟩
  | @cons w d _ _ hd _ ih =>
      rw [nearest?_cons, nearest?_cons, hd.nsPrefix]
      by_cases hp : d.nsPrefix.getD "" = p
      · rw [if_pos hp, if_pos hp]
        exact Or.inr ⟨w.uri, d.uri, rfl, rfl, hd.uri⟩
      · rw [if_neg hp, if_neg hp]
        exact ih

/-- In both of them a prefix is withdrawn, or in none. -/
theorem inForce?_of_writes (p : String) : (inForce? ws p = none ∧ inForce? ds p = none) ∨
    ∃ w d, inForce? ws p = some w ∧ inForce? ds p = some d ∧ unescape w.toList = .ok d.toList := by
  unfold inForce?
  rcases nearest?_of_writes h p with ⟨hws, hds⟩ | ⟨w, d, hws, hds, huri⟩
  · rw [hws, hds]
    exact Or.inl ⟨rfl, rfl⟩
  · rw [hws, hds, Option.filter_some, Option.filter_some]
    by_cases hw : w = ""
    · have hd : d = "" := by
        rw [hw] at huri
        exact String.toList_inj.mp (Except.ok.inj (unescape_nil.symm.trans huri)).symm
      rw [hw, hd]
      exact Or.inl ⟨rfl, rfl⟩
    · have hd : d ≠ "" := by
        rintro rfl
        exact hw (String.toList_inj.mp (eq_nil_of_unescape w.toList huri))
      rw [if_pos (decide_eq_true hw), if_pos (decide_eq_true hd)]
      exact Or.inr ⟨w, d, rfl, rfl, huri⟩

/-- What is written for a prefix is what is shown, unless there are references in it. -/
theorem inForce?_eq_iff (p : String) :
    inForce? ws p = inForce? ds p ↔ ∀ uri ∈ inForce? ws p, '&' ∉ uri.toList := by
  rcases inForce?_of_writes h p with ⟨hws, hds⟩ | ⟨w, d, hws, hds, huri⟩
  · rw [hws, hds]
    exact iff_of_true rfl fun uri huri => absurd huri (Option.not_mem_none uri)
  · have hall : (∀ uri ∈ some w, '&' ∉ uri.toList) ↔ '&' ∉ w.toList :=
      ⟨fun hmem => hmem w rfl, fun hw uri huri => Option.some.inj huri ▸ hw⟩
    rw [hws, hds, hall, ← unescape_eq_self_iff, huri, Option.some.injEq, Except.ok.injEq,
      String.toList_inj]
    exact eq_comm

/-- A name in the namespace that is written is in the one that is shown if and only if it is
written without references. -/
theorem QName.resolved_of_inForce (useDefault : Bool) (n : QName) (hn : n.InForce ws useDefault) :
    n.Resolved ws ds useDefault := by
  refine ⟨hn, ?_⟩
  unfold QName.InForce at hn ⊢
  cases hp : n.nsPrefix with
  | none =>
      simp only [hp] at hn ⊢
      rw [hn]
      cases useDefault with
      | true => exact inForce?_eq_iff h ""
      | false => exact iff_of_true rfl fun uri huri => absurd huri (Option.not_mem_none uri)
  | some p =>
      simp only [hp] at hn ⊢
      rw [and_iff_right hn.1, hn.2]
      exact inForce?_eq_iff h p

end

theorem writes_outermost : List.Forall₂ Declaration.Writes outermost outermost := by
  have hverbatim : ∀ d : Declaration, '&' ∉ d.uri.toList → d.Writes d :=
    fun d hd => ⟨rfl, (unescape_eq_self_iff _).mpr hd⟩
  exact .cons (hverbatim _ (by decide)) (.cons (hverbatim _ (by decide)) .nil)

namespace Scope

/-- The scope gives every prefix what the declarations as written do. -/
structure Shows (scope : Scope) (ws : List Declaration) : Prop where
  /-- They agree on every prefix. -/
  lookup : ∀ p : String, (scope.lookup p.toList).map String.ofList = nearest? ws p
  /-- One of the two special prefixes can be declared, but only to be what it is. -/
  xml : nearest? ws "xml" = some xmlNamespace

theorem shows_outermost : Scope.outermost.Shows Xml.outermost where
  xml := by decide
  lookup := by
    intro p
    have hkey : ∀ name : String, (p.toList == name.toList) = decide (name = p) := by
      intro name
      rw [Bool.eq_iff_iff, beq_iff_eq, decide_eq_true_iff, String.toList_inj]
      exact eq_comm
    rw [Scope.outermost, Xml.outermost, nearest?_cons, nearest?_cons, List.lookup_cons,
      List.lookup_cons, hkey, hkey]
    by_cases hxml : "xml" = p
    · simp only [Option.getD_some, hxml, decide_true, if_true]
      rfl
    · by_cases hxmlns : "xmlns" = p
      · simp only [Option.getD_some, hxml, decide_false, hxmlns, decide_true, if_true, if_false]
        rfl
      · simp only [Option.getD_some, hxml, hxmlns, decide_false, if_false]
        rfl

section

variable {scope : Scope} {ws : List Declaration} (h : scope.Shows ws)

include h

/-- A declaration that is added is the nearest one for its prefix. -/
theorem shows_cons (nsPrefix : Option (List Char)) (uri : List Char)
    (hxml : nsPrefix ≠ some "xml".toList) : Scope.Shows ((nsPrefix.getD [], uri) :: scope)
      (⟨nsPrefix.map String.ofList, String.ofList uri⟩ :: ws) := by
  have hkey : (nsPrefix.map String.ofList).getD "" = String.ofList (nsPrefix.getD []) := by
    cases nsPrefix <;> rfl
  constructor
  · intro p
    rw [nearest?_cons, hkey, List.lookup_cons]
    by_cases hp : String.ofList (nsPrefix.getD []) = p
    · rw [if_pos hp, ← hp, String.toList_ofList, beq_self_eq_true]
      rfl
    · have hne : (p.toList == nsPrefix.getD []) = false := by
        refine beq_false_of_ne fun heq => hp ?_
        rw [← heq, String.ofList_toList]
      rw [if_neg hp, hne]
      exact h.lookup p
  · rw [nearest?_cons, hkey, if_neg]
    · exact h.xml
    intro heq
    cases nsPrefix with
    | none => exact absurd heq (by decide)
    | some p => exact hxml (congrArg some (by rw [← heq, Option.getD_some, String.toList_ofList]))

theorem shows_declare (scope' : Scope) (nsPrefix : Option (List Char)) (uri : List Char)
    (hscope : scope.declare nsPrefix uri = .ok scope') :
    scope'.Shows (⟨nsPrefix.map String.ofList, String.ofList uri⟩ :: ws) := by
  cases nsPrefix with
  | none =>
      rw [← Except.ok.inj hscope]
      exact shows_cons h none uri (Option.some_ne_none _).symm
  | some p =>
      simp only [declare] at hscope
      split at hscope
      · -- The prefix `xml` may be declared to be what it is already.
        rename_i hp
        split at hscope
        · rename_i huri
          rw [← Except.ok.inj hscope, hp, huri, Option.map_some, String.ofList_toList,
            String.ofList_toList]
          refine ⟨fun q => ?_, by rw [nearest?_cons]; rfl⟩
          rw [nearest?_cons, Option.getD_some]
          by_cases hq : "xml" = q
          · rw [if_pos hq, ← hq, h.lookup, h.xml]
          · rw [if_neg hq]
            exact h.lookup q
        · exact absurd hscope (by simp only [reduceCtorEq, not_false_eq_true])
      · rename_i hp
        split at hscope
        · exact absurd hscope (by simp only [reduceCtorEq, not_false_eq_true])
        split at hscope
        · exact absurd hscope (by simp only [reduceCtorEq, not_false_eq_true])
        split at hscope
        · exact absurd hscope (by simp only [reduceCtorEq, not_false_eq_true])
        rw [← Except.ok.inj hscope]
        exact shows_cons h (some p) uri fun heq => hp (Option.some.inj heq)

end

/-- A setting in a tag as the declaration it makes, if it makes one. -/
def written? (setting : List Char × List Char) : Option Declaration :=
  (declaredPrefix? setting.1).map fun p => ⟨p.map String.ofList, String.ofList setting.2⟩

/-- Inside of a tag the scope has what the settings declare, the last of them first. -/
theorem shows_extend (settings : List (List Char × List Char)) {scope scope' : Scope}
    {ws : List Declaration} (h : scope.Shows ws) (hscope : scope.extend settings = .ok scope') :
    scope'.Shows ((settings.filterMap written?).reverse ++ ws) := by
  induction settings generalizing scope ws with
  | nil =>
      rw [← Except.ok.inj hscope]
      exact h
  | cons setting settings ih =>
      obtain ⟨key, value⟩ := setting
      simp only [extend] at hscope
      rw [List.filterMap_cons, written?]
      cases hkey : declaredPrefix? key with
      | none =>
          simp only [hkey] at hscope
          exact ih h hscope
      | some p =>
          simp only [hkey] at hscope
          cases hdeclare : scope.declare p value with
          | error f =>
              simp only [hdeclare] at hscope
              exact absurd hscope (by simp only [reduceCtorEq, not_false_eq_true])
          | ok inner =>
              simp only [hdeclare] at hscope
              have hinner := ih (shows_declare h inner p value hdeclare) hscope
              simp only [Option.map_some, List.reverse_cons, List.append_assoc,
                List.singleton_append]
              exact hinner

section

variable {scope : Scope} {ws : List Declaration} (h : scope.Shows ws)

include h

theorem default?_eq : scope.default?.map String.ofList = inForce? ws "" := by
  rw [inForce?, ← h.lookup, default?]
  have hempty : ("" : String).toList = [] := rfl
  rw [hempty]
  rcases scope.lookup [] with _ | _ | ⟨c, uri⟩
  · rfl
  · rfl
  · have hne : String.ofList (c :: uri) ≠ "" := fun heq =>
      absurd (String.toList_ofList.symm.trans (congrArg String.toList heq)) (List.cons_ne_nil c uri)
    rw [Option.map_some, Option.filter_some, if_pos (decide_eq_true hne)]

theorem bound?_eq (p uri : List Char) (hp : scope.bound? p = some uri) :
    inForce? ws (String.ofList p) = some (String.ofList uri) := by
  rw [inForce?, ← h.lookup, String.toList_ofList]
  rcases p with _ | ⟨c, p⟩
  · exact absurd hp.symm (Option.some_ne_none _)
  · simp only [bound?] at hp
    split at hp
    · rename_i d uri' hlookup
      have hne : String.ofList (d :: uri') ≠ "" := fun heq => absurd
        (String.toList_ofList.symm.trans (congrArg String.toList heq)) (List.cons_ne_nil d uri')
      rw [hlookup, ← Option.some.inj hp, Option.map_some, Option.filter_some,
        if_pos (decide_eq_true hne)]
    · exact absurd hp.symm (Option.some_ne_none _)

/-- A name that can be resolved is in the namespace that is written for its prefix. -/
theorem resolve_inForce (useDefault : Bool) (key : List Char) (n : QName)
    (hn : scope.resolve useDefault key = .ok n) : n.InForce ws useDefault := by
  unfold resolve at hn
  split at hn
  · rw [← Except.ok.inj hn]
    cases useDefault with
    | true => exact default?_eq h
    | false => rfl
  · rename_i p name hkey
    split at hn
    · exact absurd hn (by simp only [reduceCtorEq, not_false_eq_true])
    · rename_i uri hp
      rw [← Except.ok.inj hn]
      exact ⟨rfl, (bound?_eq h p uri hp).symm⟩

end

end Scope

/-- The setting is read at some place, with its value in writing. -/
def Assignment.Sets (a : Assignment) (setting : List Char × List Char) : Prop :=
  ∃ place, a = .complete place setting.1 setting.2

theorem bindings_of_sets (inside : List Char) (settings : List (List Char × List Char))
    (h : List.Forall₂ Assignment.Sets (assignments inside) settings) :
    bindings inside = settings := by
  unfold bindings
  generalize assignments inside = as at h
  induction h with
  | nil => rfl
  | cons ha _ ih =>
      obtain ⟨place, rfl⟩ := ha
      rw [List.takeWhile_cons_of_pos rfl, List.filterMap_cons, ih]

/-- Reading the settings of a tag adds declarations, which are written in the settings, and
attributes, which the scope resolves. It never changes the name. -/
theorem exists_of_readAttributes (scope : Scope) (as : List Assignment) (ws : List Declaration)
    (hscope : scope.Shows ws) (seen : List (List Char × Nat)) (tag tag' : Tag)
    (h : readAttributes scope seen tag as = .ok tag') :
    ∃ settings ds attributes, List.Forall₂ Assignment.Sets as settings ∧
      tag' = ⟨tag.name, tag.attributes ++ attributes, tag.declarations ++ ds⟩ ∧
      List.Forall₂ Declaration.Writes (settings.filterMap Scope.written?) ds ∧
      ∀ a ∈ attributes, a.name.InForce ws false := by
  induction as generalizing seen tag with
  | nil =>
      refine ⟨[], [], [], .nil, ?_, .nil, List.forall_mem_nil _⟩
      rw [← Except.ok.inj h, List.append_nil, List.append_nil]
  | cons a as ih =>
      cases a with
      | noEquals f =>
          exact absurd h (by simp only [readAttributes, reduceCtorEq, not_false_eq_true])
      | noValue place key f =>
          simp only [readAttributes] at h
          split at h <;> exact absurd h (by simp only [reduceCtorEq, not_false_eq_true])
      | complete place key raw =>
          simp only [readAttributes] at h
          split at h
          · exact absurd h (by simp only [reduceCtorEq, not_false_eq_true])
          split at h
          · exact absurd h (by simp only [reduceCtorEq, not_false_eq_true])
          rename_i cs hraw
          split at h
          · rename_i p hkey
            obtain ⟨settings, ds, attributes, hsets, rfl, hwrites, hattributes⟩ := ih _ _ h
            refine ⟨(key, raw) :: settings, ⟨p.map String.ofList, String.ofList cs⟩ :: ds,
              attributes, .cons ⟨place, rfl⟩ hsets, ?_, ?_, hattributes⟩
            · rw [List.append_assoc, List.singleton_append]
            · rw [List.filterMap_cons, Scope.written?, hkey]
              refine .cons ⟨rfl, ?_⟩ hwrites
              rw [String.toList_ofList, String.toList_ofList]
              exact hraw
          · rename_i hkey
            split at h
            · exact absurd h (by simp only [reduceCtorEq, not_false_eq_true])
            rename_i name hname
            obtain ⟨settings, ds, attributes, hsets, rfl, hwrites, hattributes⟩ := ih _ _ h
            refine ⟨(key, raw) :: settings, ds, ⟨name, String.ofList cs⟩ :: attributes,
              .cons ⟨place, rfl⟩ hsets, ?_, ?_, ?_⟩
            · rw [List.append_assoc, List.singleton_append]
            · rw [List.filterMap_cons, Scope.written?, hkey]
              exact hwrites
            · exact List.forall_mem_cons.mpr
                ⟨Scope.resolve_inForce hscope false key name hname, hattributes⟩

/-- The names in a tag are resolved by its own declarations first, as they are written. -/
theorem readTag_resolved (scope inner : Scope) (ws ds : List Declaration) (inside : List Char)
    (tag : Tag) (hscope : scope.Shows ws) (hwrites : List.Forall₂ Declaration.Writes ws ds)
    (h : readTag scope inside = .ok (tag, inner)) :
    ∃ written, List.Forall₂ Declaration.Writes written tag.declarations ∧
      tag.Resolved (written.reverse ++ ws) (tag.declarations.reverse ++ ds) ∧
      inner.Shows (written.reverse ++ ws) := by
  unfold readTag at h
  split at h
  · exact absurd h (by simp only [reduceCtorEq, not_false_eq_true])
  rename_i inner' hextend
  split at h
  · exact absurd h (by simp only [reduceCtorEq, not_false_eq_true])
  rename_i name hname
  obtain ⟨tag', hread, heq⟩ := exists_of_map_eq_ok h
  obtain ⟨rfl, rfl⟩ := Prod.mk.inj heq
  have hinner := Scope.shows_extend (bindings inside) hscope hextend
  obtain ⟨settings, ds', attributes, hsets, rfl, hmade, hattributes⟩ :=
    exists_of_readAttributes inner' _ _ hinner [] _ tag' hread
  rw [bindings_of_sets inside settings hsets] at hinner hattributes
  have hall := List.rel_append (List.rel_reverse hmade) hwrites
  exact ⟨settings.filterMap Scope.written?, hmade,
    ⟨QName.resolved_of_inForce hall true name (Scope.resolve_inForce hinner true _ name hname),
      fun a ha => QName.resolved_of_inForce hall false a.name (hattributes a ha)⟩, hinner⟩

/-- The names in open elements, and what they hold so far. The innermost element is inside
of declarations that are written as `ws` and shown as `ds`, its own among them. -/
inductive Frame.Open : List Frame → List Declaration → List Declaration → Prop where
  /-- Outside of all elements. -/
  | outside : Open [] outermost outermost
  /-- Inside of one more. -/
  | inside {fs : List Frame} {ws ds : List Declaration} (f : Frame) (written : List Declaration)
      (around : Open fs ws ds)
      (declarations : List.Forall₂ Declaration.Writes written f.tag.declarations)
      (tag : f.tag.Resolved (written.reverse ++ ws) (f.tag.declarations.reverse ++ ds))
      (scope : f.scope.Shows (written.reverse ++ ws))
      (content : ∀ n ∈ f.content,
        n.Resolved (written.reverse ++ ws) (f.tag.declarations.reverse ++ ds)) :
      Open (f :: fs) (written.reverse ++ ws) (f.tag.declarations.reverse ++ ds)

theorem Frame.Open.writes {fs : List Frame} {ws ds : List Declaration} (h : Frame.Open fs ws ds) :
    List.Forall₂ Declaration.Writes ws ds := by
  induction h with
  | outside => exact writes_outermost
  | inside f written _ declarations _ _ _ ih =>
      exact List.rel_append (List.rel_reverse declarations) ih

namespace Builder

/-- The names in all that a reader has so far. -/
structure Resolved (b : Builder) : Prop where
  /-- In the document element. -/
  root : ∀ e ∈ b.root, e.node.Resolved outermost outermost
  /-- In the open elements. -/
  frames : ∃ ws ds, Frame.Open b.frames ws ds

theorem scope_shows (b : Builder) (ws ds : List Declaration) (h : Frame.Open b.frames ws ds) :
    b.scope.Shows ws := by
  obtain ⟨root, frames⟩ := b
  cases h with
  | outside => exact Scope.shows_outermost
  | inside f written _ _ _ scope _ => exact scope

/-- The innermost element can hold one more node whose names agree with what is around. -/
theorem open_push {f : Frame} {fs : List Frame} {ws ds : List Declaration}
    (h : Frame.Open (f :: fs) ws ds) (n : Node) (hn : n.Resolved ws ds) :
    Frame.Open ({ f with content := n :: f.content } :: fs) ws ds := by
  cases h with
  | inside _ written around declarations tag scope content =>
      exact .inside { f with content := n :: f.content } written around declarations tag scope
        (List.forall_mem_cons.mpr ⟨hn, content⟩)

/-- An element that agrees with what is around it can be added there. -/
theorem attach_resolved (b b' : Builder) (ws ds : List Declaration)
    (hroot : ∀ e ∈ b.root, e.node.Resolved outermost outermost)
    (hopen : Frame.Open b.frames ws ds) (e : Element) (he : e.node.Resolved ws ds)
    (hattach : b.attach e = .ok b') : b'.Resolved := by
  obtain ⟨root, frames⟩ := b
  cases frames with
  | nil =>
      cases hopen with
      | outside =>
          cases root with
          | none =>
              rw [← Except.ok.inj hattach]
              refine ⟨fun e' he' => ?_, _, _, .outside⟩
              rw [← Option.some.inj he']
              exact he
          | some _ => exact absurd hattach (by simp only [attach, reduceCtorEq, not_false_eq_true])
  | cons f fs =>
      rw [← Except.ok.inj hattach]
      exact ⟨hroot, ws, ds, open_push hopen e.node he⟩

section

variable (b b' : Builder) (h : b.Resolved)

include h

theorem addText_resolved (cs : List Char) (htext : b.addText cs = .ok b') : b'.Resolved := by
  obtain ⟨root, frames⟩ := b
  obtain ⟨ws, ds, hopen⟩ := h.frames
  cases frames with
  | nil =>
      simp only [addText] at htext
      split at htext
      · rw [← Except.ok.inj htext]
        exact h
      · exact absurd htext (by simp only [reduceCtorEq, not_false_eq_true])
  | cons f fs =>
      simp only [addText] at htext
      split at htext
      · rw [← Except.ok.inj htext]
        exact h
      · rw [← Except.ok.inj htext]
        exact ⟨h.root, ws, ds, open_push hopen _ trivial⟩

/-- What was known of an element while it was open is known when it is closed. -/
theorem close_resolved (inside : List Char) (hclose : b.close inside = .ok b') :
    b'.Resolved := by
  obtain ⟨root, frames⟩ := b
  obtain ⟨_, _, hopen⟩ := h.frames
  cases hopen with
  | outside => exact absurd hclose (by simp only [close, reduceCtorEq, not_false_eq_true])
  | @inside fs ws ds f written around declarations tag scope content =>
      simp only [close] at hclose
      split at hclose
      · refine attach_resolved ⟨root, fs⟩ b' ws ds h.root around _ ?_ hclose
        exact ⟨written, declarations, tag, (Node.allResolved_iff _ _ _).mpr fun n hn =>
          content n (List.mem_reverse.mp hn)⟩
      · exact absurd hclose (by simp only [reduceCtorEq, not_false_eq_true])

/-- One more piece of a document keeps all names in their namespaces. -/
theorem step_resolved (m : Except MarkupFault Markup) (hstep : b.step m = .ok b') :
    b'.Resolved := by
  obtain ⟨ws, ds, hopen⟩ := h.frames
  have hscope := scope_shows b ws ds hopen
  rcases m with f | raw | content | inside | inside | inside
  · exact absurd hstep (by simp only [step, reduceCtorEq, not_false_eq_true])
  · simp only [step] at hstep
    split at hstep
    · exact absurd hstep (by simp only [reduceCtorEq, not_false_eq_true])
    · exact addText_resolved b b' h _ hstep
  · exact addText_resolved b b' h content hstep
  · simp only [step] at hstep
    split at hstep
    · exact absurd hstep (by simp only [reduceCtorEq, not_false_eq_true])
    rename_i tag inner hread
    obtain ⟨written, hwritten, htag, hinner⟩ :=
      readTag_resolved b.scope inner ws ds inside tag hscope hopen.writes hread
    rw [← Except.ok.inj hstep]
    exact ⟨h.root, _, _, .inside ⟨tag, inner, []⟩ written hopen hwritten htag hinner
      (List.forall_mem_nil _)⟩
  · simp only [step] at hstep
    split at hstep
    · exact absurd hstep (by simp only [reduceCtorEq, not_false_eq_true])
    rename_i tag inner hread
    obtain ⟨written, hwritten, htag, -⟩ :=
      readTag_resolved b.scope inner ws ds inside tag hscope hopen.writes hread
    exact attach_resolved b b' ws ds h.root hopen ⟨tag, []⟩ ⟨written, hwritten, htag, trivial⟩
      hstep
  · exact close_resolved b b' h inside hstep

end

/-- So does a whole document. -/
theorem run_resolved (ms : List (Except MarkupFault Markup)) (b b' : Builder) (h : b.Resolved)
    (hrun : b.run ms = .ok b') : b'.Resolved := by
  induction ms generalizing b with
  | nil => exact Except.ok.inj hrun ▸ h
  | cons m ms ih =>
      obtain ⟨next, hstep, hrest⟩ := exists_step_of_run b b' m ms hrun
      exact ih next (step_resolved b next h m hstep) hrest

end Builder

/-- In every document the names are in the namespaces that are written for their prefixes in
the nearest declarations, and in those that the tree shows for them if and only if they are
written without references. -/
theorem namespaces_resolved (text : String) (root : Element) (h : parse text = .ok root) :
    root.node.Resolved outermost outermost := by
  rw [parse, parseChars] at h
  split at h
  · exact absurd h (by simp only [reduceCtorEq, not_false_eq_true])
  rename_i b hrun
  have hstart : Builder.start.Resolved :=
    ⟨fun e he => absurd he (Option.not_mem_none e), _, _, .outside⟩
  have hend := Builder.run_resolved _ _ b hstart hrun
  unfold Builder.finish at h
  split at h
  · exact absurd h (by simp only [reduceCtorEq, not_false_eq_true])
  · rename_i e _ hroot
    exact Except.ok.inj h ▸ hend.root e hroot
  · exact absurd h (by simp only [reduceCtorEq, not_false_eq_true])

/-- Two elements, of which the inner one declares the namespace of the outer one again, with
a character by its number. -/
def redeclared : String :=
  "<a xmlns=\"u:v\"><b xmlns=\"u&#58;v\" c=\"\"/></a>"

/-- The tree shows the same declaration twice, but the two elements are in different
namespaces. Both are those that are written. -/
theorem namespaces_resolved_redeclared :
    ∃ root, parse redeclared = .ok root ∧ root.tag.declarations = [⟨none, "u:v"⟩] ∧
      root.tag.name.uri = some "u:v" ∧
      (∃ inner, root.elements = [inner] ∧ inner.tag.declarations = [⟨none, "u:v"⟩] ∧
        inner.tag.name.uri = some "u&#58;v") ∧
      root.node.Resolved outermost outermost := by
  obtain ⟨root, hparse, hdeclared, huri, hinner⟩ : ∃ root, parse redeclared = .ok root ∧
      root.tag.declarations = [⟨none, "u:v"⟩] ∧ root.tag.name.uri = some "u:v" ∧
      root.elements.map Element.tag =
        [⟨⟨some "u&#58;v", none, "b"⟩, [⟨⟨none, none, "c"⟩, ""⟩], [⟨none, "u:v"⟩]⟩] := by
    refine exists_parse_eq_ok _ _ ?_
    rw [redeclared, parse_ofList]
    decide +kernel
  obtain ⟨inner, hone, htag⟩ := List.map_eq_singleton_iff.mp hinner
  exact ⟨root, hparse, hdeclared, huri, ⟨inner, hone, by rw [htag], by rw [htag]⟩,
    namespaces_resolved redeclared root hparse⟩

/-- A response whose namespace is declared with a character by its number. -/
def spelledResponse : String :=
  "<Response xmlns=\"urn:oasis:names:tc:SAML:2&#46;0:protocol\"/>"

/-- The tree shows the namespace of the protocol for names without a prefix, but the element,
which has none, is not in it. -/
theorem spelled_not_in_shown :
    ∃ root, parse spelledResponse = .ok root ∧ root.tag.declarations = [⟨none, Saml.protocolNs⟩] ∧
      ¬ root.is Saml.protocolNs "Response" = true ∧
      ¬ root.tag.name.InForce (root.tag.declarations.reverse ++ outermost) true := by
  obtain ⟨root, hparse, hdeclared, hname⟩ : ∃ root, parse spelledResponse = .ok root ∧
      root.tag.declarations = [⟨none, Saml.protocolNs⟩] ∧
      root.tag.name = ⟨some "urn:oasis:names:tc:SAML:2&#46;0:protocol", none, "Response"⟩ := by
    refine exists_parse_eq_ok _ _ ?_
    rw [spelledResponse, parse_ofList]
    decide +kernel
  refine ⟨root, hparse, hdeclared, ?_, ?_⟩
  · rw [Element.is, hname]
    decide
  · rw [hdeclared, hname]
    intro hshown
    have huri : some "urn:oasis:names:tc:SAML:2&#46;0:protocol" =
        inForce? ([⟨none, Saml.protocolNs⟩].reverse ++ outermost) "" := hshown
    exact absurd huri (by decide)

end Xml

end SamlConformance
