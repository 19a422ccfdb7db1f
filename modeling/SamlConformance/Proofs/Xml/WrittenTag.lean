import Mathlib.Data.List.TakeWhile
import SamlConformance.Proofs.Xml.WellFormed
import SamlConformance.Xml.Document

/-!
# Reading a Written Tag

A written tag is a word and a sequence of settings, each of them a word and a quoted
value. Reading it takes several passes: the end of the tag is looked for, the settings are
told apart, the declarations among them are put into the scope, and at last each setting
becomes a declaration or an attribute of the tag. For each pass there is one fact about
what is written, and together they give the tag back.

The values are what could go wrong, since they may hold anything. They are written between
quotes and without quotes inside, so that neither the end of the tag nor that of the value
is ever looked for within them. A value that declares a namespace is compared as it is
written, and written as it is.

## Main definitions

* `Tag.settings`: What is set in a tag, names and values in order.
* `writeSettings`: Settings in writing.
* `Closed`: A stretch of a tag in which every quote is closed.

## Theorems

* `Tag.write_eq`: A written tag is its name and its settings.
* `closed_tag`: The end of a tag is looked for behind everything that is written in it.
* `assignments_write`: The settings that are read are those that were written.
* `readAttributes_declarations`, `readAttributes_attributes`: Each becomes what it was.
* `bindings_tag`, `exists_assignments_tag`: The two ways in which settings are read.
* `readTag_write`: A written tag is read as the tag that it was.
-/

namespace SamlConformance

namespace Xml

/-- The names and values that are set in a tag, in the order of writing. -/
def Tag.settings (t : Tag) : List (List Char × List Char) :=
  t.declarations.map (fun d => (d.key.toList, d.uri.toList)) ++
    t.attributes.map fun a => (a.name.written.toList, a.value.toList)

/-- Settings in writing. -/
def writeSettings (settings : List (List Char × List Char)) : List Char :=
  settings.flatMap fun s => ' ' :: (s.1 ++ '=' :: '"' :: (escape s.2 ++ ['"']))

/-- One setting in front of others. -/
theorem writeSettings_cons (s : List Char × List Char) (settings : List (List Char × List Char)) :
    writeSettings (s :: settings) =
      ' ' :: (s.1 ++ '=' :: '"' :: (escape s.2 ++ '"' :: writeSettings settings)) := by
  simp only [writeSettings, List.flatMap_cons, List.cons_append, List.append_assoc,
    List.nil_append]

/-- What is set by a list of anything that has a name and a value. -/
theorem foldr_writeAttribute {α : Type} (key value : α → String) (xs : List α)
    (rest : List Char) : xs.foldr (fun x r => writeAttribute (key x) (value x) r) rest =
      writeSettings (xs.map fun x => ((key x).toList, (value x).toList)) ++ rest := by
  induction xs with
  | nil => rfl
  | cons x xs ih =>
      rw [List.foldr_cons, ih, writeAttribute, List.map_cons, writeSettings_cons]
      simp only [List.cons_append, List.append_assoc]

/-- A written tag is its name and its settings. -/
theorem Tag.write_eq (t : Tag) (rest : List Char) :
    t.write rest = t.name.written.toList ++ writeSettings t.settings ++ rest := by
  rw [Tag.write, foldr_writeAttribute (fun a : Attribute => a.name.written) Attribute.value,
    foldr_writeAttribute Declaration.key Declaration.uri, Tag.settings, writeSettings,
    writeSettings, writeSettings, List.flatMap_append, List.append_assoc, List.append_assoc]

/-- The characters that are written by name do not occur in what is written. -/
theorem ne_of_mem_escape (cs : List Char) (c : Char) (hc : c ∈ escape cs) :
    c ∉ ['<', '>', '\x27', '"'] := by
  have hverbatim : ∀ name ∈ ["&lt;", "&gt;", "&amp;", "&apos;", "&quot;"],
      (name.toList.all fun c => c ∉ ['<', '>', '\x27', '"']) = true := by decide
  have hreference : ∀ name ∈ ["&lt;", "&gt;", "&amp;", "&apos;", "&quot;"],
      c ∈ name.toList → c ∉ ['<', '>', '\x27', '"'] := fun name hname hc =>
    of_decide_eq_true (List.all_eq_true.mp (hverbatim name hname) c hc)
  rcases List.mem_flatMap.mp hc with ⟨d, -, hd⟩
  unfold escapeChar at hd
  -- One case for each character that has a name, and one for all others.
  split at hd
  · exact hreference "&lt;" (by decide) hd
  rename_i hlt
  split at hd
  · exact hreference "&gt;" (by decide) hd
  rename_i hgt
  split at hd
  · exact hreference "&amp;" (by decide) hd
  split at hd
  · exact hreference "&apos;" (by decide) hd
  rename_i hapos
  split at hd
  · exact hreference "&quot;" (by decide) hd
  rename_i hquot
  rw [List.mem_singleton.mp hd]
  simp only [List.mem_cons, hlt, hgt, hapos, hquot, List.not_mem_nil, or_self, not_false_eq_true]

/-- What has no characters with names is written as it is. -/
theorem escape_verbatim (cs : List Char) (h : ∀ c ∈ cs, c ∉ ['&', '<', '>', '\x27', '"']) :
    escape cs = cs := by
  induction cs with
  | nil => rfl
  | cons c cs ih =>
      have hc := h c List.mem_cons_self
      simp only [List.mem_cons, List.not_mem_nil, or_false, not_or] at hc
      have hchar : escapeChar c = [c] := by
        rw [escapeChar, if_neg hc.2.1, if_neg hc.2.2.1, if_neg hc.1, if_neg hc.2.2.2.1,
          if_neg hc.2.2.2.2]
      have hrest := ih fun d hd => h d (List.mem_cons_of_mem c hd)
      rw [escape, List.flatMap_cons, hchar, ← escape, hrest, List.singleton_append]

/-- Every quote in a stretch of a tag is closed: the end of the tag is not in it, and is
looked for behind it. -/
def Closed (cs : List Char) : Prop :=
  ∀ more, cutTag none (cs ++ more) = (cutTag none more).map fun r => (cs ++ r.1, r.2)

theorem closed_nil : Closed [] := by
  intro more
  cases hcut : cutTag none more with
  | none => exact hcut
  | some r => exact hcut

theorem closed_append (cs ds : List Char) (hcs : Closed cs) (hds : Closed ds) :
    Closed (cs ++ ds) := by
  intro more
  rw [List.append_assoc, hcs, hds, Option.map_map]
  cases cutTag none more with
  | none => rfl
  | some r => simp only [Option.map_some, Function.comp_apply, List.append_assoc]

/-- A character that neither opens quotes nor ends the tag. -/
theorem closed_singleton (c : Char) (hc : c ∉ ['>', '"', '\x27']) : Closed [c] := by
  intro more
  simp only [List.mem_cons, List.not_mem_nil, or_false, not_or] at hc
  rw [List.singleton_append, cutTag, if_neg hc.1, if_neg (not_or.mpr ⟨hc.2.1, hc.2.2⟩)]
  rfl

theorem closed_word (cs : List Char) (h : ∀ c ∈ cs, isWordChar c = true) : Closed cs := by
  induction cs with
  | nil => exact closed_nil
  | cons c cs ih =>
      have hc : c ∉ ['>', '"', '\x27'] := by
        have hne := isWordChar_ne c
        have hword := h c List.mem_cons_self
        simp only [List.mem_cons, List.not_mem_nil, or_false, not_or]
        exact ⟨hne '>' hword (by decide), hne '"' hword (by decide),
          hne '\x27' hword (by decide)⟩
      exact closed_append [c] cs (closed_singleton c hc)
        (ih fun d hd => h d (List.mem_cons_of_mem c hd))

/-- A value between quotes, whatever it holds but quotes. -/
theorem closed_quoted (value : List Char) (h : '"' ∉ value) :
    Closed ('"' :: (value ++ ['"'])) := by
  intro more
  have hinside : cutTag (some '"') (value ++ '"' :: more) =
      (cutTag none more).map fun r => (value ++ '"' :: r.1, r.2) := by
    induction value with
    | nil => rw [List.nil_append, cutTag, if_pos rfl]; rfl
    | cons c value ih =>
        have hc : c ≠ '"' := fun heq => h (heq ▸ List.mem_cons_self)
        have hvalue := ih fun hmem => h (List.mem_cons_of_mem c hmem)
        rw [List.cons_append, cutTag, if_neg hc, hvalue, Option.map_map]
        rfl
  rw [List.cons_append, List.append_assoc, List.singleton_append, cutTag,
    if_neg (by decide), if_pos (Or.inl rfl), hinside, Option.map_map]
  cases cutTag none more with
  | none => rfl
  | some r =>
      simp only [Option.map_some, Function.comp_apply, List.cons_append, List.append_assoc,
        List.nil_append]

/-- The words that name settings. -/
def Worded (settings : List (List Char × List Char)) : Prop :=
  ∀ s ∈ settings, s.1 ≠ [] ∧ ∀ c ∈ s.1, isWordChar c = true

theorem closed_writeSettings (settings : List (List Char × List Char)) (h : Worded settings) :
    Closed (writeSettings settings) := by
  induction settings with
  | nil => exact closed_nil
  | cons s settings ih =>
      have hkey := closed_word s.1 (h s List.mem_cons_self).2
      have hvalue := closed_quoted (escape s.2) fun hmem =>
        ne_of_mem_escape s.2 '"' hmem (by decide)
      have hrest := ih fun t ht => h t (List.mem_cons_of_mem s ht)
      have hsplit : writeSettings (s :: settings) =
          [' '] ++ (s.1 ++ (['='] ++
            ('"' :: (escape s.2 ++ ['"']) ++ writeSettings settings))) := by
        simp only [writeSettings_cons, List.cons_append, List.nil_append, List.append_assoc]
      rw [hsplit]
      exact closed_append _ _ (closed_singleton ' ' (by decide)) (closed_append _ _ hkey
        (closed_append _ _ (closed_singleton '=' (by decide)) (closed_append _ _ hvalue hrest)))

/-- The settings of a tag that can be written are named by words. -/
theorem worded_settings (outer : List Declaration) (t : Tag) (h : t.WellFormed outer) :
    Worded t.settings := by
  intro s hs
  rcases List.mem_append.mp hs with hs | hs
  · rcases List.mem_map.mp hs with ⟨d, hd, rfl⟩
    exact word_key d (h.declarations d hd)
  · rcases List.mem_map.mp hs with ⟨a, ha, rfl⟩
    exact word_attribute _ a.name (h.attributes a ha)

/-- The end of a tag is looked for behind everything that is written in it. -/
theorem closed_tag (outer : List Declaration) (t : Tag) (h : t.WellFormed outer) :
    Closed (t.name.written.toList ++ writeSettings t.settings) :=
  closed_append _ _ (closed_word _ (word_element _ t.name h.name).2)
    (closed_writeSettings t.settings (worded_settings outer t h))

/-- The setting is read at some place, with its value in writing. -/
def Assigns (a : Assignment) (s : List Char × List Char) : Prop :=
  ∃ place, a = .complete place s.1 (escape s.2)

theorem takeWhile_word (p : Char → Bool) (word rest : List Char) (c : Char)
    (hword : ∀ d ∈ word, p d = true) (hc : p c = false) :
    (word ++ c :: rest).takeWhile p = word ∧ (word ++ c :: rest).dropWhile p = c :: rest := by
  rw [List.takeWhile_append_of_pos hword, List.dropWhile_append_of_pos hword,
    List.takeWhile_cons_of_neg (by rw [hc]; exact Bool.false_ne_true),
    List.dropWhile_cons_of_neg (by rw [hc]; exact Bool.false_ne_true), List.append_nil]
  exact ⟨rfl, rfl⟩

/-- A value between quotes is read up to the second quote. -/
theorem quotedValue_quoted (place : Nat) (value rest : List Char) (h : '"' ∉ value) :
    quotedValue place ('"' :: (value ++ '"' :: rest)) = .ok (value, rest) := by
  have hblank : isBlank '"' = false := by decide
  have hcut := Text.cutFirst_append rest h
  simp only [quotedValue, List.dropWhile_cons, hblank, Bool.false_eq_true, if_false, true_or,
    if_true, hcut]

/-- The settings that are read are those that were written. -/
theorem assignmentsFrom_write (settings : List (List Char × List Char)) (h : Worded settings)
    (place : Nat) :
    List.Forall₂ Assigns (assignmentsFrom place (writeSettings settings)) settings := by
  -- The place moves along with the settings, and does not matter.
  induction settings generalizing place with
  | nil =>
      rw [writeSettings, List.flatMap_nil, assignmentsFrom]
      exact .nil
  | cons s settings ih =>
      rcases s with ⟨key, value⟩
      rcases h (key, value) List.mem_cons_self with ⟨hnil, hword⟩
      rcases key with _ | ⟨k, key⟩
      · exact absurd rfl hnil
      have hk : isBlank k = false := isBlank_of_isWordChar k (hword k List.mem_cons_self)
      have hkey := takeWhile_word isKeyChar key ('"' :: (escape value ++ '"' ::
        writeSettings settings)) '=' (fun d hd =>
          isKeyChar_of_isWordChar d (hword d (List.mem_cons_of_mem k hd))) (by decide)
      have hquote := fun n => quotedValue_quoted n (escape value) (writeSettings settings)
        fun hmem => ne_of_mem_escape value '"' hmem (by decide)
      have hspace : isBlank ' ' = true := by decide
      have hequals : isBlank '=' = false := by decide
      have hrest := ih fun t ht => h t (List.mem_cons_of_mem _ ht)
      rw [writeSettings_cons, assignmentsFrom]
      simp only [List.cons_append]
      split
      · rename_i hdrop
        simp only [List.dropWhile_cons, hspace, if_true, hk, Bool.false_eq_true, if_false] at hdrop
        exact absurd hdrop (List.cons_ne_nil _ _)
      · rename_i k' tail hdrop
        simp only [List.dropWhile_cons, hspace, if_true, hk, Bool.false_eq_true, if_false] at hdrop
        rcases List.cons.inj hdrop with ⟨rfl, rfl⟩
        split
        · rename_i valued hvalued
          rw [hkey.2, List.dropWhile_cons, hequals] at hvalued
          rcases List.cons.inj hvalued with ⟨-, rfl⟩
          split
          · rename_i f hf
            rw [hquote] at hf
            exact absurd hf (by simp only [reduceCtorEq, not_false_eq_true])
          · rename_i value' more hok
            rw [hquote] at hok
            rcases Prod.mk.inj (Except.ok.inj hok) with ⟨rfl, rfl⟩
            rw [hkey.1]
            exact .cons ⟨_, rfl⟩ (hrest _)
        · rename_i hnone
          rw [hkey.2, List.dropWhile_cons, hequals] at hnone
          exact absurd rfl (hnone _)

theorem tagName_write (name : List Char) (settings : List (List Char × List Char))
    (h : ∀ c ∈ name, isWordChar c = true) : tagName (name ++ writeSettings settings) = name := by
  have hblank : ∀ c ∈ name, (!isBlank c) = true := by
    intro c hc
    rw [isBlank_of_isWordChar c (h c hc)]
    rfl
  unfold tagName
  cases settings with
  | nil =>
      rw [writeSettings, List.flatMap_nil, List.append_nil]
      exact List.takeWhile_eq_self_iff.mpr hblank
  | cons s settings =>
      rw [writeSettings_cons]
      exact (takeWhile_word (fun c => !isBlank c) name _ ' ' hblank (by decide)).1

/-- The settings in a written tag. -/
theorem assignments_write (name : List Char) (settings : List (List Char × List Char))
    (hname : ∀ c ∈ name, isWordChar c = true) (h : Worded settings) :
    List.Forall₂ Assigns (assignments (name ++ writeSettings settings)) settings := by
  rw [assignments, tagName_write name settings hname, List.drop_left]
  exact assignmentsFrom_write settings h _

theorem bindings_write (name : List Char) (settings : List (List Char × List Char))
    (hname : ∀ c ∈ name, isWordChar c = true) (h : Worded settings) :
    bindings (name ++ writeSettings settings) = settings.map fun s => (s.1, escape s.2) := by
  have hassigns := assignments_write name settings hname h
  unfold bindings
  generalize assignments (name ++ writeSettings settings) = as at hassigns
  induction hassigns with
  | nil => rfl
  | cons ha _ ih =>
      rcases ha with ⟨place, rfl⟩
      simp only [List.takeWhile_cons, if_true, List.filterMap_cons, List.map_cons]
      rw [ih fun s hs => h s (List.mem_cons_of_mem _ hs)]

/-- Names that were not seen before are not among those seen. -/
theorem lookup_cons_of_ne (seen : List (List Char × Nat)) (key key' : List Char) (place : Nat)
    (hne : key' ≠ key) (h : seen.lookup key' = none) :
    ((key, place) :: seen).lookup key' = none := by
  rw [List.lookup_cons, beq_false_of_ne hne]
  exact h

/-- Declarations in a tag are added to it, and reading goes on behind them with names seen
that none of the others has. -/
theorem readAttributes_declarations (scope : Scope) (ds : List Declaration) (tag : Tag)
    (seen : List (List Char × Nat)) (as more : List Assignment)
    (others : List (List Char × List Char))
    (has : List.Forall₂ Assigns as (ds.map fun d => (d.key.toList, d.uri.toList)))
    (hdistinct : ((ds.map fun d => d.key.toList) ++ others.map Prod.fst).Nodup)
    (hseen : ∀ k ∈ (ds.map fun d => d.key.toList) ++ others.map Prod.fst,
      seen.lookup k = none) :
    ∃ seen', readAttributes scope seen tag (as ++ more) = readAttributes scope seen'
        { tag with declarations := tag.declarations ++ ds } more ∧
      ∀ k ∈ others.map Prod.fst, seen'.lookup k = none := by
  induction ds generalizing tag seen as with
  | nil =>
      cases has with
      | nil => exact ⟨seen, by rw [List.append_nil]; rfl, hseen⟩
  | cons d ds ih =>
      cases has with
      | @cons a _ as _ ha has =>
          rcases ha with ⟨place, rfl⟩
          rw [List.map_cons, List.cons_append, List.nodup_cons] at hdistinct
          have hnone := hseen d.key.toList List.mem_cons_self
          have hothers : ∀ k ∈ (ds.map fun d => d.key.toList) ++ others.map Prod.fst,
              ((d.key.toList, place) :: seen).lookup k = none := by
            intro k hk
            refine lookup_cons_of_ne seen _ k place ?_ (hseen k (List.mem_cons_of_mem _ hk))
            exact fun heq => hdistinct.1 (heq ▸ hk)
          rcases ih { tag with declarations := tag.declarations ++ [d] }
            ((d.key.toList, place) :: seen) as has hdistinct.2 hothers with ⟨seen', hread, hseen'⟩
          refine ⟨seen', ?_, hseen'⟩
          have hd : (⟨(d.nsPrefix.map String.toList).map String.ofList,
              String.ofList d.uri.toList⟩ : Declaration) = d := by
            rw [Option.map_map, String.ofList_toList]
            have hid : (String.ofList ∘ String.toList) = id := funext fun s => String.ofList_toList
            rw [hid, Option.map_id]
            rfl
          simp only [List.cons_append, readAttributes, hnone, unescape_escape,
            declaredPrefix?_key, hd]
          rw [hread, List.append_assoc, List.singleton_append]

/-- Attributes in a tag are added to it. -/
theorem readAttributes_attributes (scope : Scope) (ds : List Declaration)
    (hscope : scope.Reflects ds) (attributes : List Attribute) (tag : Tag)
    (seen : List (List Char × Nat)) (as : List Assignment)
    (hnames : ∀ a ∈ attributes, a.name.NamesAttribute ds)
    (has : List.Forall₂ Assigns as
      (attributes.map fun a => (a.name.written.toList, a.value.toList)))
    (hdistinct : (attributes.map fun a => a.name.written.toList).Nodup)
    (hseen : ∀ k ∈ attributes.map fun a => a.name.written.toList, seen.lookup k = none) :
    readAttributes scope seen tag as =
      .ok { tag with attributes := tag.attributes ++ attributes } := by
  induction attributes generalizing tag seen as with
  | nil =>
      cases has with
      | nil => rw [List.append_nil]; rfl
  | cons a attributes ih =>
      cases has with
      | @cons b _ as _ hb has =>
          rcases hb with ⟨place, rfl⟩
          rw [List.map_cons, List.nodup_cons] at hdistinct
          have hname := hnames a List.mem_cons_self
          have hnone := hseen a.name.written.toList List.mem_cons_self
          have hothers : ∀ k ∈ attributes.map fun a => a.name.written.toList,
              ((a.name.written.toList, place) :: seen).lookup k = none := by
            intro k hk
            refine lookup_cons_of_ne seen _ k place ?_ (hseen k (List.mem_cons_of_mem _ hk))
            exact fun heq => hdistinct.1 (heq ▸ hk)
          have hrest := ih { tag with attributes := tag.attributes ++ [a] }
            ((a.name.written.toList, place) :: seen) as
            (fun b hb => hnames b (List.mem_cons_of_mem a hb)) has hdistinct.2 hothers
          simp only [readAttributes, hnone, unescape_escape,
            declaredPrefix?_attribute ds a.name hname,
            Scope.resolve_attribute hscope a.name hname, String.ofList_toList]
          rw [hrest, List.append_assoc, List.singleton_append]

section

variable {outer : List Declaration} {t : Tag} (h : t.WellFormed outer)

include h

theorem nodup_keys_tag : ((t.declarations.map fun d => d.key.toList) ++
    t.attributes.map fun a => a.name.written.toList).Nodup := by
  have hinjective : Function.Injective String.toList := fun a b => String.toList_inj.mp
  have hnodup := h.distinct.map hinjective
  rw [List.map_append, List.map_map, List.map_map] at hnodup
  exact hnodup

/-- No prefix is declared twice, since the declarations would be written alike. -/
theorem nodup_prefixes_tag : (t.declarations.map Declaration.nsPrefix).Nodup := by
  refine List.Nodup.of_map (fun p => (⟨p, ""⟩ : Declaration).key.toList) ?_
  rw [List.map_map]
  exact (List.nodup_append.mp (nodup_keys_tag h)).1

/-- What the scope is extended by: the declarations as they are, and behind them the
attributes with their values in writing. -/
theorem bindings_tag : bindings (t.name.written.toList ++ writeSettings t.settings) =
    t.declarations.map (fun d => (d.key.toList, d.uri.toList)) ++
      t.attributes.map fun a => (a.name.written.toList, escape a.value.toList) := by
  rw [bindings_write _ _ (word_element _ t.name h.name).2 (worded_settings outer t h),
    Tag.settings, List.map_append, List.map_map, List.map_map]
  congr 1
  refine List.map_congr_left fun d hd => ?_
  rw [Function.comp_apply, escape_verbatim _ (h.declarations d hd).verbatim]

/-- The settings that are read in a tag are its declarations and then its attributes. -/
theorem exists_assignments_tag : ∃ as bs,
    assignments (t.name.written.toList ++ writeSettings t.settings) = as ++ bs ∧
    List.Forall₂ Assigns as (t.declarations.map fun d => (d.key.toList, d.uri.toList)) ∧
    List.Forall₂ Assigns bs
      (t.attributes.map fun a => (a.name.written.toList, a.value.toList)) := by
  have hassigns := assignments_write _ _ (word_element _ t.name h.name).2
    (worded_settings outer t h)
  exact ⟨_, _, (List.take_append_drop _ _).symm, List.forall₂_take_append _ _ _ hassigns,
    List.forall₂_drop_append _ _ _ hassigns⟩

/-- A written tag is read as the tag that it was, and the scope inside reflects its
declarations and those around it. -/
theorem readTag_write (scope : Scope) (hscope : scope.Reflects outer) :
    ∃ inner, readTag scope (t.name.written.toList ++ writeSettings t.settings) = .ok (t, inner) ∧
      inner.Reflects (t.declarations ++ outer) := by
  have hattributes : ∀ s ∈ t.attributes.map fun a =>
      (a.name.written.toList, escape a.value.toList), declaredPrefix? s.1 = none := by
    intro s hs
    rcases List.mem_map.mp hs with ⟨a, ha, rfl⟩
    exact declaredPrefix?_attribute _ a.name (h.attributes a ha)
  rcases Scope.exists_extend scope t.declarations outer _ hscope h.declarations
    (nodup_prefixes_tag h) hattributes with ⟨inner, hextend, hinner⟩
  refine ⟨inner, ?_, hinner⟩
  rcases exists_assignments_tag h with ⟨as, bs, hsplit, has, hbs⟩
  have hkeys := nodup_keys_tag h
  have hothers : (t.attributes.map fun a => (a.name.written.toList, a.value.toList)).map Prod.fst =
      t.attributes.map fun a => a.name.written.toList := by
    rw [List.map_map]
    rfl
  -- Declarations come first, and leave the names of the attributes unseen.
  rcases readAttributes_declarations inner t.declarations ⟨t.name, [], []⟩ [] as bs _ has
    (hothers ▸ hkeys) (fun _ _ => rfl) with ⟨seen, hdeclarations, hseen⟩
  have hread : readAttributes inner [] ⟨t.name, [], []⟩ (as ++ bs) = .ok t :=
    hdeclarations.trans (readAttributes_attributes inner _ hinner t.attributes _ seen bs
      h.attributes hbs (List.nodup_append.mp hkeys).2.1 (hothers ▸ hseen))
  have hname := tagName_write _ t.settings (word_element _ t.name h.name).2
  rw [readTag, bindings_tag h, hextend]
  simp only [hname, Scope.resolve_element hinner t.name h.name, hsplit, hread, Except.map]

end

end Xml

end SamlConformance
