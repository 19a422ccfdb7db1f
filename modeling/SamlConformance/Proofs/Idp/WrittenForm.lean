import Mathlib.Data.List.Forall2
import SamlConformance.Idp.Responder
import SamlConformance.Proofs.Idp.Settings
import SamlConformance.Proofs.Idp.Tags

/-!
# Reading a Written Form

A form is a page in which input tags stand between other text. Four passes lie between the
page and its fields: the tags are found, each is cut into names and values, two of the values
are looked up, and references in one of them are resolved. Each pass looks at the text again
and knows nothing of the others, so that a value can be taken for an attribute, or a bracket
in it for the end of the tag. The first cannot happen, because quotes are told apart from
what is in them as long as they are all in one tag. The second can.

So the written side comes first, with all that it leaves open: letter case, order, blanks,
the kind of quotes, and anything else that stands in a tag or between tags. For every such
page there is an exact account of what is read, in which a tag gives the field of the
attributes that are shown up to its first bracket, and the rest of the tag is spilled over the
page. Nothing is spilled if no value holds a bracket, and values that are written with
references in place of brackets do not.

## Main definitions

* `Tag`, `Page`: An input tag and a page in writing.
* `shown`, `spilled`: The two parts of a tag that the first bracket in a value makes.
* `Tag.found`: The fields that are found in a tag.
* `Tag.Holds`: The field that a tag is written for.
* `Tag.Carries`: The same, with the five named characters of its value written by name.

## Theorems

* `exists_front`: What is read of a tag up to its first bracket.
* `fields_text`: What is read of a page.
* `found_of_holds`: If nothing is spilled, each tag gives the field that it holds.
* `extract_written`: A form is read as the fields that its tags carry.
-/

namespace SamlConformance

namespace Form

/-- An input tag in writing: its opening in any letter case, its attributes, and what
stands between them and the bracket. -/
structure Tag where
  word : List Char
  settings : List Setting
  trail : List Char
  word_opening : word.map Char.toLower = "<input".toList
  trail_filler : ∀ c ∈ trail, isFiller c = true

namespace Tag

/-- The text between the opening and the bracket at the end. -/
def inside (t : Tag) : List Char :=
  t.settings.flatMap Setting.written ++ t.trail

/-- The tag in writing. -/
def written (t : Tag) : List Char :=
  t.word ++ (t.inside ++ ['>'])

/-- No value in the tag holds a bracket. -/
def Closed (t : Tag) : Prop :=
  ∀ s ∈ t.settings, '>' ∉ s.raw

instance (t : Tag) : Decidable t.Closed :=
  inferInstanceAs (Decidable (∀ s ∈ t.settings, '>' ∉ s.raw))

end Tag

/-- A tag and the text that comes before it, in which there is no opening. -/
structure Piece where
  before : List Char
  tag : Tag
  before_plain : ¬ "<input".toList <:+: before.map Char.toLower

/-- A page in which input tags stand between stretches of any other text. -/
structure Page where
  pieces : List Piece
  rest : List Char
  rest_plain : ¬ "<input".toList <:+: rest.map Char.toLower

namespace Page

/-- The tags of a page. -/
def tags (page : Page) : List Tag :=
  page.pieces.map Piece.tag

/-- The page in writing. -/
def text (page : Page) : String :=
  String.ofList (page.pieces.flatMap (fun p => p.before ++ p.tag.written) ++ page.rest)

end Page

/-- The attributes up to the first bracket in a value, which is where the value ends. -/
def shown : List Setting → List (List Char × List Char)
  | [] => []
  | s :: ss =>
    if '>' ∈ s.raw then [(s.name, s.raw.takeWhile (· ≠ '>'))] else (s.name, s.raw) :: shown ss

/-- What is left of a tag behind the first bracket in a value. -/
def spilled (trail : List Char) : List Setting → List Char
  | [] => []
  | s :: ss =>
    if '>' ∈ s.raw then
      (s.raw.dropWhile (· ≠ '>')).drop 1 ++ s.quote :: (ss.flatMap Setting.written ++ trail)
    else spilled trail ss

theorem shown_of_closed (ss : List Setting) (h : ∀ s ∈ ss, '>' ∉ s.raw) :
    shown ss = ss.map fun s => (s.name, s.raw) := by
  induction ss with
  | nil => rfl
  | cons s ss ih =>
      rw [shown, if_neg (h s List.mem_cons_self), List.map_cons,
        ih fun s' hs' => h s' (List.mem_cons_of_mem s hs')]

theorem spilled_of_closed (trail : List Char) (ss : List Setting) (h : ∀ s ∈ ss, '>' ∉ s.raw) :
    spilled trail ss = [] := by
  induction ss with
  | nil => rfl
  | cons s ss ih =>
      rw [spilled, if_neg (h s List.mem_cons_self),
        ih fun s' hs' => h s' (List.mem_cons_of_mem s hs')]

/-- The inside of a tag ends at the first bracket. What is before it is read as the
attributes that are shown, and what is behind it is spilled. -/
theorem exists_front (trail : List Char) (ss : List Setting)
    (htrail : ∀ c ∈ trail, isFiller c = true) : ∃ front, '>' ∉ front ∧
      attributes front = shown ss ∧
      (ss.flatMap Setting.written ++ trail = front ∧ spilled trail ss = [] ∨
        ss.flatMap Setting.written ++ trail = front ++ '>' :: spilled trail ss) := by
  induction ss with
  | nil =>
      refine ⟨trail, fun hmem => absurd (htrail '>' hmem) (by decide),
        attributes_filler trail htrail, Or.inl ⟨rfl, rfl⟩⟩
  | cons s ss ih =>
      by_cases hbracket : '>' ∈ s.raw
      · -- The tag ends in this value: up to there the value is read without its second quote.
        obtain ⟨cut, more, hraw, hcut⟩ := List.eq_append_cons_of_mem hbracket
        obtain ⟨htake, hdrop⟩ := Text.span_at '>' cut more hcut
        have hquote : s.quote ∉ cut := fun hmem =>
          s.quote_not_mem (hraw ▸ List.mem_append_left _ hmem)
        refine ⟨s.start ++ cut, ?_, ?_, Or.inr ?_⟩
        · rw [List.mem_append, not_or]
          exact ⟨s.not_mem_start, hcut⟩
        · rw [attributes_unclosed s cut hquote, shown, if_pos hbracket, hraw, htake]
        · rw [spilled, if_pos hbracket, List.flatMap_cons, Setting.written, hraw, hdrop]
          simp only [List.append_assoc, List.cons_append, List.nil_append, List.drop_one,
            List.tail_cons]
      · obtain ⟨front, hfront, hread, hinside⟩ := ih
        refine ⟨s.written ++ front, ?_, ?_, ?_⟩
        · simp only [Setting.written, List.mem_append, List.mem_singleton, not_or]
          exact ⟨⟨s.not_mem_start, hbracket, s.quote_ne_bracket.symm⟩, hfront⟩
        · rw [attributes_written, hread, shown, if_neg hbracket]
        · rw [spilled, if_neg hbracket, List.flatMap_cons, List.append_assoc, List.append_assoc]
          rcases hinside with ⟨hall, hnone⟩ | hcut
          · exact Or.inl ⟨by rw [hall], hnone⟩
          · exact Or.inr (by rw [hcut])

/-- The value of the first of some attributes that has that name, in any letter case. -/
def lookup? (attrs : List (List Char × List Char)) (key : String) : Option (List Char) :=
  (attrs.find? fun a => a.1.map Char.toLower == key.toList).map Prod.snd

/-- The field that some attributes make; none without a name. -/
def fieldOf? (attrs : List (List Char × List Char)) : Option (String × String) :=
  (lookup? attrs "name").map fun name =>
    (String.ofList name, String.ofList (resolved ((lookup? attrs "value").getD [])))

theorem field?_eq (inside : List Char) : field? inside = fieldOf? (attributes inside) :=
  rfl

theorem lookup?_map (ss : List Setting) (key : String) :
    lookup? (ss.map fun s => (s.name, s.raw)) key =
      (ss.find? fun s => s.isNamed key).map Setting.raw := by
  rw [lookup?, List.find?_map, Option.map_map]
  rfl

namespace Tag

/-- The fields that are found in a tag: the one of the attributes that are shown, and those
in the text that is spilled. -/
def found (t : Tag) : Fields :=
  (fieldOf? (shown t.settings)).toList ++
    (inputTags (spilled t.trail t.settings)).filterMap field?

end Tag

/-- A tag is read up to its first bracket, then what is spilled, and then the rest. -/
theorem inputTags_tag (p : Piece) (more : List Char) :
    ∃ front, attributes front = shown p.tag.settings ∧
      inputTags (p.before ++ p.tag.written ++ more) =
        [front] ++ inputTags (spilled p.tag.trail p.tag.settings) ++ inputTags more := by
  obtain ⟨front, hfront, hread, hinside⟩ :=
    exists_front p.tag.trail p.tag.settings p.tag.trail_filler
  have hone := inputTags_opening p.before p.tag.word front p.before_plain p.tag.word_opening hfront
  refine ⟨front, hread, ?_⟩
  rcases hinside with ⟨hall, hnone⟩ | hcut
  · have hwritten : p.before ++ p.tag.written ++ more =
        (p.before ++ (p.tag.word ++ front)) ++ '>' :: more := by
      rw [← hall]
      simp only [Tag.written, Tag.inside, List.append_assoc, List.cons_append, List.nil_append]
    rw [hwritten, inputTags_append, hone, hnone, inputTags_of_none [] rfl, List.append_nil]
  · -- What is spilled stands between two brackets.
    have hwritten : p.before ++ p.tag.written ++ more =
        (p.before ++ (p.tag.word ++ front)) ++
          '>' :: (spilled p.tag.trail p.tag.settings ++ '>' :: more) := by
      rw [Tag.written, Tag.inside, hcut]
      simp only [List.append_assoc, List.cons_append, List.nil_append]
    rw [hwritten, inputTags_append, inputTags_append, hone, List.append_assoc]

/-- The tags of a page are read one after the other. -/
theorem filterMap_inputTags (pieces : List Piece) (rest : List Char)
    (hrest : ¬ "<input".toList <:+: rest.map Char.toLower) :
    (inputTags (pieces.flatMap (fun p => p.before ++ p.tag.written) ++ rest)).filterMap field? =
      (pieces.map Piece.tag).flatMap Tag.found := by
  induction pieces with
  | nil =>
      rw [List.flatMap_nil, List.nil_append,
        inputTags_of_none rest ((afterInput?_eq_none_iff rest).mpr hrest)]
      rfl
  | cons p pieces ih =>
      obtain ⟨front, hread, htags⟩ :=
        inputTags_tag p (pieces.flatMap (fun p => p.before ++ p.tag.written) ++ rest)
      -- One tag gives one field at most; all others of it come from what is spilled.
      have hfront : [front].filterMap field? = (fieldOf? (shown p.tag.settings)).toList := by
        rw [List.filterMap_eq_flatMap_toList, List.flatMap_singleton, field?_eq, hread]
      rw [List.flatMap_cons, List.append_assoc, htags, List.filterMap_append,
        List.filterMap_append, hfront, ih, List.map_cons, List.flatMap_cons, Tag.found]

/-- Of a page in writing, the fields that are found in its tags are read. -/
theorem fields_text (page : Page) : fields page.text = page.tags.flatMap Tag.found := by
  rw [fields, Page.text, String.toList_ofList]
  exact filterMap_inputTags page.pieces page.rest page.rest_plain

namespace Tag

/-- The tag sets the name and the value to these texts, each of them once. -/
structure Sets (t : Tag) (name raw : List Char) : Prop where
  named : (t.settings.filter fun s => s.isNamed "name").map Setting.raw = [name]
  valued : (t.settings.filter fun s => s.isNamed "value").map Setting.raw = [raw]

/-- The tag holds a field: the name as it is, and a value in quotes that stands for this one.
Any character may be written by a reference or, if it is neither an ampersand nor the quote,
as it is. -/
def Holds (t : Tag) (field : String × String) : Prop :=
  ∃ raw, t.Sets field.1.toList raw ∧ Xml.unescape raw = .ok field.2.toList

/-- The tag carries a field: the name as it is, and the value with its five named characters
written by name. Nothing else in the tag holds a bracket. -/
structure Carries (t : Tag) (field : String × String) : Prop where
  sets : t.Sets field.1.toList (Xml.escape field.2.toList)
  name_closed : '>' ∉ field.1.toList
  others_closed : ∀ s ∈ t.settings, s.isNamed "name" = false → s.isNamed "value" = false →
    '>' ∉ s.raw

end Tag

theorem find?_of_filter (ss : List Setting) (key : String) (raw : List Char)
    (h : (ss.filter fun s => s.isNamed key).map Setting.raw = [raw]) :
    (ss.find? fun s => s.isNamed key).map Setting.raw = some raw := by
  rw [← List.head?_filter, ← List.head?_map, h]
  rfl

/-- What is set once is set nowhere else. -/
theorem raw_of_filter (ss : List Setting) (key : String) (raw : List Char)
    (h : (ss.filter fun s => s.isNamed key).map Setting.raw = [raw]) (s : Setting) (hs : s ∈ ss)
    (hkey : s.isNamed key = true) : s.raw = raw := by
  have hmem : s.raw ∈ (ss.filter fun s => s.isNamed key).map Setting.raw :=
    List.mem_map_of_mem (List.mem_filter.mpr ⟨hs, hkey⟩)
  rwa [h, List.mem_singleton] at hmem

/-- A tag without a bracket in its values gives the field that it holds, and nothing else. -/
theorem Tag.Holds.found {t : Tag} {field : String × String} (h : t.Holds field)
    (hclosed : t.Closed) : t.found = [field] := by
  obtain ⟨raw, hsets, hvalue⟩ := h
  have hname := find?_of_filter t.settings "name" _ hsets.named
  have hraw := find?_of_filter t.settings "value" raw hsets.valued
  have hresolved : resolved raw = field.2.toList := by
    rw [resolved, hvalue]
  rw [Tag.found, shown_of_closed _ hclosed, spilled_of_closed _ _ hclosed, fieldOf?, lookup?_map,
    lookup?_map, hname, hraw, Option.map_some, Option.getD_some, hresolved, String.ofList_toList,
    String.ofList_toList, inputTags_of_none [] rfl]
  rfl

theorem found_of_holds (tags : List Tag) (fs : Fields)
    (h : List.Forall₂ (fun t field => t.Closed ∧ t.Holds field) tags fs) :
    tags.flatMap Tag.found = fs := by
  induction h with
  | nil => rfl
  | @cons t field tags fs hfield _ ih =>
      rw [List.flatMap_cons, hfield.2.found hfield.1, ih, List.singleton_append]

/-- A value of a tag that carries a field holds no bracket. -/
theorem Tag.Carries.closed {t : Tag} {field : String × String} (h : t.Carries field) :
    t.Closed := by
  intro s hs
  -- The name is as it is, the value is escaped, and of all others it is assumed.
  cases hname : s.isNamed "name" with
  | true =>
      rw [raw_of_filter t.settings "name" _ h.sets.named s hs hname]
      exact h.name_closed
  | false =>
      cases hvalue : s.isNamed "value" with
      | true =>
          rw [raw_of_filter t.settings "value" _ h.sets.valued s hs hvalue]
          exact fun hbracket => Xml.ne_of_mem_escape _ '>' hbracket (by decide)
      | false => exact h.others_closed s hs hname hvalue

/-- The body of a form is all that the generic responder looks at. -/
theorem generic_post (status : Nat) (location : Option String) (body : String) (given : Bool) :
    Responder.generic .post ⟨status, location, some body⟩ given =
      .ok ⟨.post, status, fields body, given⟩ :=
  rfl

/-- A form is read as the fields that its tags carry: all of them and no others, in the
order of the page, with every value as it was before it was written. -/
theorem extract_written (page : Page) (fs : Fields)
    (h : List.Forall₂ Tag.Carries page.tags fs) (status : Nat) (location : Option String)
    (given : Bool) :
    Responder.generic .post ⟨status, location, some page.text⟩ given =
      .ok ⟨.post, status, fs, given⟩ := by
  have hfound : page.tags.flatMap Tag.found = fs := by
    refine found_of_holds page.tags fs (h.imp fun t field hcarries => ⟨hcarries.closed, ?_⟩)
    exact ⟨_, hcarries.sets, Xml.unescape_escape field.2.toList⟩
  rw [generic_post, fields_text, hfound]

/-- An attribute with a space in front and no blanks at the equals sign. -/
def Setting.spaced (name : String) (quote : Char) (raw : String)
    (hname : isName name.toList = true) (hquote : quote ∈ ['"', '\x27'] ∧ quote ∉ raw.toList) :
    Setting where
  gap := [' ']
  name := name.toList
  before := []
  after := []
  quote := quote
  raw := raw.toList
  gap_filler := List.forall_mem_singleton.mpr rfl
  isName_name := hname
  before_blank := List.forall_mem_nil _
  after_blank := List.forall_mem_nil _
  quote_mem := hquote.1
  quote_not_mem := hquote.2

theorem isName_value : isName "value".toList = true := by
  decide +kernel

/-- The name under which a relay state is sent. -/
def Setting.relayState : Setting :=
  .spaced "name" '"' "RelayState" (by decide +kernel) (by decide +kernel)

/-- A tag that closes itself. -/
def Tag.plain (settings : List Setting) : Tag where
  word := "<input".toList
  settings := settings
  trail := ['/']
  word_opening := by decide +kernel
  trail_filler := List.forall_mem_singleton.mpr rfl

/-- A form with a name twice, in two ways of writing. -/
def mixedForm : Page where
  pieces := [
    ⟨"<form>".toList, { Tag.plain [
        .spaced "VALUE" '\x27' "&lt;a name=&quot;b&quot;&gt;" (by decide +kernel)
          (by decide +kernel),
        { Setting.relayState with
          name := "Name".toList, isName_name := by decide +kernel
          before := [' '], before_blank := List.forall_mem_singleton.mpr rfl }] with
      word := "<INPUT".toList, word_opening := by decide +kernel }, by decide +kernel⟩,
    ⟨"–".toList, { Tag.plain [
        .spaced "type" '"' "hidden" (by decide +kernel) (by decide +kernel),
        .relayState,
        .spaced "value" '"' "ü&amp;" isName_value (by decide +kernel)] with
      trail := [], trail_filler := List.forall_mem_nil _ }, by decide +kernel⟩]
  rest := "</form>".toList
  rest_plain := by decide +kernel

/-- Both fields are read. -/
theorem extract_written_mixedForm :
    mixedForm.text = "<form><INPUT VALUE='&lt;a name=&quot;b&quot;&gt;' Name =\"RelayState\"/>–<input type=\"hidden\" name=\"RelayState\" value=\"ü&amp;\"></form>" ∧
      Responder.generic .post ⟨200, none, some mixedForm.text⟩ true = .ok ⟨.post, 200,
        [("RelayState", "<a name=\"b\">"), ("RelayState", "ü&")], true⟩ := by
  refine ⟨by decide +kernel, extract_written mixedForm _ ?_ 200 none true⟩
  refine .cons ⟨⟨rfl, rfl⟩, by decide +kernel, ?_⟩ (.cons ⟨⟨rfl, rfl⟩, by decide +kernel, ?_⟩ .nil)
  · decide +kernel
  · decide +kernel

end Form

end SamlConformance
