import SamlConformance.Proofs.Idp.WrittenForm
import SamlConformance.Proofs.Xml.Splitting

/-!
# Brackets in Values

Between quotes a closing bracket is a character like any other, and a form may hold it
as it is. But tags are cut before anyone looks for quotes, at the first bracket of any kind.
So a value with a bracket ends there, and what comes behind it in the tag is lost: the rest
of the value, and every attribute after it. References do not help a value across the
cut and are not harmed by it, since a bracket never stands inside of one; what is left is
the beginning of the value, resolved like the whole.

The field itself is found as long as its name comes before the bracket. Then the loss shows
in no other way than in the value (`value_not_complete`). It would be wrong to say that forms
with such values are never read right: an attribute behind the bracket can hold text that is
taken for a tag, with another name and another value in it. Therefore the converse is about
forms in which only values hold brackets, and each behind its name.

## Main definitions

* `Tag.NameFirst`: A tag in which a bracket costs nothing but the rest of the value.
* `Tag.Cut`: A field that is found with a part of its value.

## Theorems

* `Xml.unescape_bracket`: References on the two sides of a bracket.
* `Tag.cut_of_not_closed`: One tag with a bracket in its value.
* `closed_of_found`: If every field is found as it is, there was no bracket.
* `extract_cut`: What is read of a form, and when it is complete.
-/

namespace SamlConformance

namespace Xml

theorem not_mem_of_digits (base : Nat) (value? : Char → Option Nat) (acc n : Nat) (c : Char)
    (cs : List Char) (hc : value? c = none)
    (h : Reference.digits base value? acc cs = .ok n) : c ∉ cs := by
  induction cs generalizing acc with
  | nil => exact List.not_mem_nil
  | cons d cs ih =>
      rw [Reference.digits] at h
      cases hd : value? d with
      | none =>
          simp only [hd] at h
          exact absurd h (by simp only [reduceCtorEq, not_false_eq_true])
      | some v =>
          simp only [hd] at h
          by_cases hlt : acc * base + v < 0x100000000
          · rw [if_pos hlt] at h
            rw [List.mem_cons, not_or]
            refine ⟨?_, ih _ h⟩
            rintro rfl
            exact absurd (hd.symm.trans hc) (Option.some_ne_none v)
          · rw [if_neg hlt] at h
            exact absurd h (by simp only [reduceCtorEq, not_false_eq_true])

/-- No bracket stands in the number of a reference. -/
theorem not_mem_of_numberOf (cs : List Char) (n : Nat) (h : Reference.numberOf cs = .ok n) :
    '>' ∉ cs := by
  unfold Reference.numberOf at h
  split at h
  · rename_i ds base value? hsplit
    have hdigits : Reference.digits base value? 0 ds = .ok n := by
      split at h
      · exact absurd h (by simp only [reduceCtorEq, not_false_eq_true])
      · exact absurd h (by simp only [reduceCtorEq, not_false_eq_true])
      · exact absurd h (by simp only [reduceCtorEq, not_false_eq_true])
      · exact h
    split at hsplit
    · rename_i number
      simp only [Prod.mk.injEq] at hsplit
      obtain ⟨rfl, -, rfl⟩ := hsplit
      rw [List.mem_cons, not_or]
      exact ⟨by decide, not_mem_of_digits _ _ 0 n '>' _ (by decide) hdigits⟩
    · simp only [Prod.mk.injEq] at hsplit
      obtain ⟨rfl, -, rfl⟩ := hsplit
      exact not_mem_of_digits _ _ 0 n '>' _ (by decide) hdigits

/-- No bracket stands in a reference that is right. -/
theorem not_mem_of_resolve (start : Nat) (inside : List Char) (c : Char)
    (h : resolve start inside = .ok c) : '>' ∉ inside := by
  unfold resolve at h
  split at h
  · rename_i number
    cases hcharacter : Reference.character number with
    | error f =>
        simp only [hcharacter] at h
        exact absurd h (by simp only [reduceCtorEq, not_false_eq_true])
    | ok x =>
        unfold Reference.character at hcharacter
        cases hnumber : Reference.numberOf number with
        | error f =>
            simp only [hnumber] at hcharacter
            exact absurd hcharacter (by simp only [reduceCtorEq, not_false_eq_true])
        | ok n =>
            rw [List.mem_cons, not_or]
            exact ⟨by decide, not_mem_of_numberOf number n hnumber⟩
  · cases hname : Reference.named? inside with
    | none =>
        simp only [hname] at h
        exact absurd h (by simp only [reduceCtorEq, not_false_eq_true])
    | some x =>
        have hnames : ∀ name : String, String.ofList inside = name →
            ('>' ∉ name.toList) → '>' ∉ inside := by
          rintro name rfl hmem
          rwa [String.toList_ofList] at hmem
        unfold Reference.named? at hname
        split at hname
        · rename_i heq; exact hnames _ heq (by decide)
        · rename_i heq; exact hnames _ heq (by decide)
        · rename_i heq; exact hnames _ heq (by decide)
        · rename_i heq; exact hnames _ heq (by decide)
        · rename_i heq; exact hnames _ heq (by decide)
        · exact absurd hname.symm (Option.some_ne_none x)

theorem closeReference_bracket (cs more inside rest : List Char)
    (h : closeReference (cs ++ '>' :: more) = some (inside, rest)) (hinside : '>' ∉ inside) :
    ∃ tail, closeReference cs = some (inside, tail) ∧ rest = tail ++ '>' :: more := by
  induction cs generalizing inside with
  | nil =>
      rw [List.nil_append, closeReference, if_neg (by decide), if_neg (by decide)] at h
      obtain ⟨r, -, heq⟩ := Option.map_eq_some_iff.mp h
      obtain ⟨rfl, -⟩ := Prod.mk.inj heq
      exact absurd List.mem_cons_self hinside
  | cons c cs ih =>
      rw [List.cons_append] at h
      unfold closeReference at h ⊢
      by_cases hend : c = ';'
      · rw [if_pos hend] at h ⊢
        obtain ⟨rfl, rfl⟩ := Prod.mk.inj (Option.some.inj h)
        exact ⟨cs, rfl, rfl⟩
      · rw [if_neg hend] at h ⊢
        by_cases hstart : c = '&'
        · rw [if_pos hstart] at h
          exact absurd h.symm (Option.some_ne_none _)
        · rw [if_neg hstart] at h ⊢
          obtain ⟨⟨inside', rest'⟩, hclose, heq⟩ := Option.map_eq_some_iff.mp h
          obtain ⟨rfl, rfl⟩ := Prod.mk.inj heq
          obtain ⟨tail, htail, hrest⟩ :=
            ih inside' hclose fun hmem => hinside (List.mem_cons_of_mem c hmem)
          exact ⟨tail, by rw [htail, Option.map_some], hrest⟩

/-- A bracket never stands inside of a reference. So what comes before it is resolved on its
own, and is the beginning of what the whole stands for. -/
theorem unescapeFrom_bracket (total total' pos : Nat) (cut more out : List Char)
    (h : unescapeFrom total pos (cut ++ '>' :: more) = .ok out) :
    ∃ front back, unescapeFrom total' pos cut = .ok front ∧ out = front ++ '>' :: back := by
  generalize hwhole : cut ++ '>' :: more = whole at h
  replace h := resolves_of_unescapeFrom total pos whole out h
  induction h generalizing cut with
  | nil pos =>
      exact absurd hwhole (List.append_ne_nil_of_right_ne_nil _ (List.cons_ne_nil _ _))
  | @reference pos cs inside rest out x hclose hx _ ih =>
      rcases cut with _ | ⟨c, cut⟩
      · exact absurd (List.cons.inj hwhole).1 (by decide)
      obtain ⟨rfl, rfl⟩ := List.cons.inj hwhole
      -- The reference is closed before the bracket.
      obtain ⟨tail, htail, hrest⟩ :=
        closeReference_bracket cut more inside rest hclose (not_mem_of_resolve pos inside x hx)
      obtain ⟨front, back, hfront, rfl⟩ := ih tail hrest.symm
      refine ⟨x :: front, back, ?_, rfl⟩
      rw [unescapeFrom_reference total' pos cut inside tail x htail hx, hfront]
      rfl
  | @char pos c cs out hc _ ih =>
      rcases cut with _ | ⟨d, cut⟩
      · obtain ⟨rfl, rfl⟩ := List.cons.inj hwhole
        exact ⟨[], out, by rw [unescapeFrom], rfl⟩
      · obtain ⟨rfl, rfl⟩ := List.cons.inj hwhole
        obtain ⟨front, back, hfront, rfl⟩ := ih cut rfl
        refine ⟨d :: front, back, ?_, rfl⟩
        rw [unescapeFrom_char total' pos d cut hc, hfront]
        rfl

theorem unescape_bracket (cut more out : List Char)
    (h : unescape (cut ++ '>' :: more) = .ok out) :
    ∃ front back, unescape cut = .ok front ∧ out = front ++ '>' :: back :=
  unescapeFrom_bracket _ _ 0 cut more out h

end Xml

namespace Form

/-- The value comes behind the name, and there is no bracket in anything else. -/
structure Tag.NameFirst (t : Tag) : Prop where
  order : ∃ ahead v behind, t.settings = ahead ++ v :: behind ∧ v.isNamed "value" = true ∧
    ∃ n ∈ ahead, n.isNamed "name" = true
  others_closed : ∀ s ∈ t.settings, s.isNamed "value" = false → '>' ∉ s.raw

/-- The field is found first, but its value ends before a bracket. -/
def Tag.Cut (t : Tag) (field : String × String) : Prop :=
  ∃ front back, field.2.toList = front ++ '>' :: back ∧
    t.found.head? = some (field.1, String.ofList front)

theorem shown_append (ahead ss : List Setting) (h : ∀ s ∈ ahead, '>' ∉ s.raw) :
    shown (ahead ++ ss) = (ahead.map fun s => (s.name, s.raw)) ++ shown ss := by
  induction ahead with
  | nil => rfl
  | cons s ahead ih =>
      rw [List.cons_append, shown, if_neg (h s List.mem_cons_self), List.map_cons,
        ih fun s' hs' => h s' (List.mem_cons_of_mem s hs'), List.cons_append]

/-- What is looked up among attributes and one more behind them. -/
theorem lookup?_snoc (ahead : List Setting) (v : Setting) (raw : List Char) (key : String) :
    lookup? ((ahead.map fun s => (s.name, s.raw)) ++ [(v.name, raw)]) key =
      ((ahead.find? fun s => s.isNamed key).map Setting.raw).or
        (if v.isNamed key = true then some raw else none) := by
  have hlast : lookup? [(v.name, raw)] key = if v.isNamed key = true then some raw else none := by
    rw [lookup?, Setting.isNamed, List.find?_cons, List.find?_nil]
    cases v.name.map Char.toLower == key.toList <;> rfl
  rw [← lookup?_map, ← hlast, lookup?, lookup?, lookup?, List.find?_append, Option.map_or]

/-- What is set once, and last, is not set before. -/
theorem not_isNamed_of_filter (ahead behind : List Setting) (v : Setting) (key : String)
    (raw : List Char) (hv : v.isNamed key = true)
    (h : ((ahead ++ v :: behind).filter fun s => s.isNamed key).map Setting.raw = [raw]) :
    ∀ s ∈ ahead, s.isNamed key = false := by
  have hlength := congrArg List.length h
  simp only [List.filter_append, List.filter_cons, hv, if_true, List.map_append, List.map_cons,
    List.length_append, List.length_map, List.length_cons, List.length_nil] at hlength
  have hempty : ahead.filter (fun s => s.isNamed key) = [] :=
    List.eq_nil_of_length_eq_zero (by omega)
  intro s hs
  exact Bool.eq_false_iff.mpr (List.filter_eq_nil_iff.mp hempty s hs)

/-- A tag ends in the first value with a bracket. What is read from it are the attributes
before this value, and the value up to the bracket. -/
theorem shown_of_bracket (ahead behind : List Setting) (v : Setting) (cut more : List Char)
    (hahead : ∀ s ∈ ahead, '>' ∉ s.raw) (hraw : v.raw = cut ++ '>' :: more) (hcut : '>' ∉ cut) :
    shown (ahead ++ v :: behind) = (ahead.map fun s => (s.name, s.raw)) ++ [(v.name, cut)] := by
  have hopen : '>' ∈ v.raw := hraw ▸ List.mem_append_right _ List.mem_cons_self
  rw [shown_append ahead _ hahead, shown, if_pos hopen, hraw, (Text.span_at '>' cut more hcut).1]

/-- The field of such a tag has its name, and the value up to the bracket. -/
theorem fieldOf?_of_bracket (t : Tag) (name raw cut more : List Char) (hsets : t.Sets name raw)
    (hfirst : t.NameFirst) (hraw : raw = cut ++ '>' :: more) (hcut : '>' ∉ cut) :
    fieldOf? (shown t.settings) = some (String.ofList name, String.ofList (resolved cut)) := by
  obtain ⟨⟨ahead, v, behind, hsettings, hv, n, hn, hname⟩, hothers⟩ := hfirst
  have hahead : ∀ s ∈ ahead, s.isNamed "value" = false :=
    not_isNamed_of_filter ahead behind v "value" raw hv (hsettings ▸ hsets.valued)
  have hmem : ∀ s ∈ ahead, s ∈ t.settings := fun s hs =>
    hsettings ▸ List.mem_append_left _ hs
  have hvalue : v.raw = raw := raw_of_filter _ _ raw hsets.valued v
    (hsettings ▸ List.mem_append_right _ List.mem_cons_self) hv
  have hshown : shown t.settings = (ahead.map fun s => (s.name, s.raw)) ++ [(v.name, cut)] := by
    rw [hsettings]
    exact shown_of_bracket ahead behind v cut more
      (fun s hs => hothers s (hmem s hs) (hahead s hs)) (hvalue.trans hraw) hcut
  -- The name stands before the cut, and the value is what is left of it.
  have hlookupName : lookup? (shown t.settings) "name" = some name := by
    obtain ⟨n', hn'⟩ : ∃ n', ahead.find? (fun s => s.isNamed "name") = some n' :=
      Option.isSome_iff_exists.mp (List.find?_isSome.mpr ⟨n, hn, hname⟩)
    have hnamed := List.find?_some hn'
    rw [hshown, lookup?_snoc, hn', Option.map_some, Option.some_or,
      raw_of_filter _ _ _ hsets.named n' (hmem n' (List.mem_of_find?_eq_some hn')) hnamed]
  have hlookupValue : lookup? (shown t.settings) "value" = some cut := by
    have hbefore : ahead.find? (fun s => s.isNamed "value") = none :=
      List.find?_eq_none.mpr fun s hs => Bool.eq_false_iff.mp (hahead s hs)
    rw [hshown, lookup?_snoc, hbefore, Option.map_none, Option.none_or, if_pos hv]
  rw [fieldOf?, hlookupName, hlookupValue, Option.map_some, Option.getD_some]

/-- A tag whose value holds a bracket ends there. -/
theorem Tag.cut_of_not_closed (t : Tag) (field : String × String) (hholds : t.Holds field)
    (hfirst : t.NameFirst) (hopen : ¬ t.Closed) : t.Cut field := by
  obtain ⟨raw, hsets, hvalue⟩ := hholds
  obtain ⟨s, hs, hbracket⟩ : ∃ s ∈ t.settings, '>' ∈ s.raw := by
    by_contra hnone
    push Not at hnone
    exact hopen hnone
  -- The value is the only place for it.
  have hkey : s.isNamed "value" = true := by
    by_contra hother
    exact hfirst.others_closed s hs (Bool.eq_false_iff.mpr hother) hbracket
  rw [raw_of_filter _ _ raw hsets.valued s hs hkey] at hbracket
  obtain ⟨cut, more, hcut, hnone⟩ := List.eq_append_cons_of_mem hbracket
  obtain ⟨front, back, hfront, hback⟩ :=
    Xml.unescape_bracket cut more field.2.toList (by rw [← hcut, hvalue])
  have hresolved : resolved cut = front := by
    rw [resolved, hfront]
  refine ⟨front, back, hback, ?_⟩
  rw [Tag.found, fieldOf?_of_bracket t _ raw cut more hsets hfirst hcut hnone, hresolved,
    String.ofList_toList]
  rfl

/-- Where the value of a field is cut, the field is not found. -/
theorem Tag.Cut.head?_ne {t : Tag} {field : String × String} (h : t.Cut field) :
    t.found.head? ≠ some field := by
  obtain ⟨front, back, hvalue, hhead⟩ := h
  rw [hhead]
  intro heq
  have hsame : String.ofList front = field.2 := congrArg Prod.snd (Option.some.inj heq)
  rw [← hsame, String.toList_ofList] at hvalue
  exact absurd (congrArg List.length hvalue) (by simp)

/-- If the fields that are found are those that the tags hold, no value was cut. -/
theorem closed_of_found (tags : List Tag) (fs : Fields) (h : List.Forall₂ Tag.Holds tags fs)
    (hfirst : ∀ t ∈ tags, t.NameFirst) (hfound : tags.flatMap Tag.found = fs) :
    ∀ t ∈ tags, t.Closed := by
  induction h with
  | nil => exact fun t ht => absurd ht List.not_mem_nil
  | @cons t field tags fs hholds _ ih =>
      have hhere : t.Closed := by
        by_contra hopen
        have hcut := t.cut_of_not_closed field hholds (hfirst t List.mem_cons_self) hopen
        -- The tag gives a first field, which would be the one that it holds.
        refine hcut.head?_ne ?_
        obtain ⟨front, back, -, hhead⟩ := hcut
        obtain ⟨more, hmore⟩ := List.head?_eq_some_iff.mp hhead
        rw [List.flatMap_cons, hmore, List.cons_append, List.cons.injEq] at hfound
        rw [hhead, hfound.1]
      -- So it gives exactly this one, and the tags behind it give the others.
      rw [List.flatMap_cons, hholds.found hhere, List.singleton_append,
        List.cons.injEq] at hfound
      intro t' ht'
      rcases List.mem_cons.mp ht' with rfl | ht'
      · exact hhere
      · exact ih (fun t ht => hfirst t (List.mem_cons_of_mem _ ht)) hfound.2 t' ht'

/-- Forms are read up to the first bracket of each tag. What is found in this way are the
fields of the form, each with all of its value, if no value holds a bracket. If the names come
before the values and brackets are in values only, then this is the only case, and every field
whose value holds a bracket is found without the rest of it. -/
theorem extract_cut (page : Page) (fs : Fields) (h : List.Forall₂ Tag.Holds page.tags fs)
    (status : Nat) (location : Option String) (given : Bool) :
    let extracted := Responder.generic .post ⟨status, location, some page.text⟩ given
    extracted = .ok ⟨.post, status, page.tags.flatMap Tag.found, given⟩ ∧
      ((∀ t ∈ page.tags, t.Closed) → extracted = .ok ⟨.post, status, fs, given⟩) ∧
      ((∀ t ∈ page.tags, t.NameFirst) →
        (extracted = .ok ⟨.post, status, fs, given⟩ ↔ ∀ t ∈ page.tags, t.Closed) ∧
        List.Forall₂ (fun t field => ¬ t.Closed → t.Cut field) page.tags fs) := by
  intro extracted
  have hextracted : extracted = .ok ⟨.post, status, page.tags.flatMap Tag.found, given⟩ := by
    rw [← fields_text]
    rfl
  have hclosed : (∀ t ∈ page.tags, t.Closed) → extracted = .ok ⟨.post, status, fs, given⟩ := by
    intro hall
    have hboth := (List.forall₂_and_left page.tags fs).mpr ⟨hall, h⟩
    rw [hextracted, found_of_holds page.tags fs hboth]
  refine ⟨hextracted, hclosed, fun hfirst => ⟨⟨?_, hclosed⟩, ?_⟩⟩
  · intro hsame
    rw [hextracted] at hsame
    exact closed_of_found page.tags fs h hfirst (congrArg Received.fields (Except.ok.inj hsame))
  · exact ((List.forall₂_and_left page.tags fs).mpr ⟨hfirst, h⟩).imp fun t field ⟨hfirst, hholds⟩ =>
      t.cut_of_not_closed field hholds hfirst

/-- A form of one tag with this value between quotes of this kind. -/
def relayForm (quote : Char) (raw : String)
    (h : quote ∈ ['"', '\x27'] ∧ quote ∉ raw.toList) : Page where
  pieces := [⟨[], .plain [.relayState, .spaced "value" quote raw isName_value h],
    by decide +kernel⟩]
  rest := []
  rest_plain := by decide +kernel

/-- A value with an angle, quotes of the other kind and an ampersand is read with all that is
in it. One with a closing bracket is not. -/
theorem extract_cut_relayForm :
    let quoted := relayForm '\x27' "a < \"b\" &amp; c" (by decide +kernel)
    let bracketed := relayForm '"' "a>b" (by decide +kernel)
    quoted.text = "<input name=\"RelayState\" value='a < \"b\" &amp; c'/>" ∧
      Responder.generic .post ⟨200, none, some quoted.text⟩ false =
        .ok ⟨.post, 200, [("RelayState", "a < \"b\" & c")], false⟩ ∧
      bracketed.text = "<input name=\"RelayState\" value=\"a>b\"/>" ∧
      Responder.generic .post ⟨200, none, some bracketed.text⟩ false ≠
        .ok ⟨.post, 200, [("RelayState", "a>b")], false⟩ := by
  intro quoted bracketed
  have hquoted : List.Forall₂ Tag.Holds quoted.tags [("RelayState", "a < \"b\" & c")] :=
    .cons ⟨_, ⟨rfl, rfl⟩, by decide +kernel⟩ .nil
  have hbracketed : List.Forall₂ Tag.Holds bracketed.tags [("RelayState", "a>b")] :=
    .cons ⟨_, ⟨rfl, rfl⟩, by decide +kernel⟩ .nil
  have hfirst : ∀ t ∈ bracketed.tags, t.NameFirst := by
    refine List.forall_mem_singleton.mpr ⟨?_, by decide +kernel⟩
    exact ⟨[_], _, [], rfl, by decide +kernel, _, List.mem_singleton_self _, by decide +kernel⟩
  refine ⟨by decide +kernel, (extract_cut quoted _ hquoted 200 none false).2.1 (by decide +kernel),
    by decide +kernel, fun hcomplete => ?_⟩
  have hclosed := ((extract_cut bracketed _ hbracketed 200 none false).2.2 hfirst).1.mp hcomplete
  exact absurd hclosed (by decide +kernel)

/-- The tag holds a field of which only the first character is read. -/
theorem value_not_complete :
    let bracketed := relayForm '"' "a>b" (by decide +kernel)
    bracketed.text = "<input name=\"RelayState\" value=\"a>b\"/>" ∧
      List.Forall₂ Tag.Holds bracketed.tags [("RelayState", "a>b")] ∧
      Responder.generic .post ⟨200, none, some bracketed.text⟩ false =
        .ok ⟨.post, 200, [("RelayState", "a")], false⟩ := by
  intro bracketed
  refine ⟨by decide +kernel, .cons ⟨_, ⟨rfl, rfl⟩, by decide +kernel⟩ .nil, ?_⟩
  rw [generic_post, fields_text]
  decide +kernel

end Form

end SamlConformance
