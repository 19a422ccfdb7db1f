import SamlConformance.Xml.Scope
import SamlConformance.Text.Blank

/-!
# Documents

The pieces of a text are put together to a tree from left to right. The open
elements form a stack, innermost first, each with the content it has so far and
the namespaces in force inside it. A text is a document if every piece fits and
exactly one element is left when all are used up.

## Main definitions

* `readTag`: A tag with its names resolved.
* `Builder`: What is known after some of the pieces.
* `Builder.step`: One more piece.
* `parse`: The document element of a text.
-/

namespace SamlConformance

namespace Xml

/-- Adds attributes to a tag in order. `seen` holds the names that stood before
and their places. -/
def readAttributes (scope : Scope) (seen : List (List Char × Nat)) (tag : Tag) :
    List Assignment → Except Error Tag
  | [] => .ok tag
  | .noEquals f :: _ => .error (.badTag f)
  | .noValue place key f :: _ =>
    match seen.lookup key with
    | some previous => .error (.badTag (.repeated place previous))
    | none => .error (.badTag f)
  | .complete place key raw :: rest =>
    match seen.lookup key with
    | some previous => .error (.badTag (.repeated place previous))
    | none =>
      match unescape raw with
      | .error f => .error (.badReference f)
      | .ok cs =>
        let value := String.ofList cs
        let seen := (key, place) :: seen
        match declaredPrefix? key with
        | some p =>
          readAttributes scope seen
            { tag with declarations := tag.declarations ++ [⟨p.map String.ofList, value⟩] } rest
        | none =>
          match scope.resolve false key with
          | .error e => .error e
          | .ok name =>
            readAttributes scope seen
              { tag with attributes := tag.attributes ++ [⟨name, value⟩] } rest

/-- The tag with a given inside, and the scope inside the element it opens.
Declarations are read first, then the name is resolved, then the attributes. -/
def readTag (scope : Scope) (inside : List Char) : Except Error (Tag × Scope) :=
  match scope.extend (bindings inside) with
  | .error f => .error (.badDeclaration f)
  | .ok inner =>
    match inner.resolve true (tagName inside) with
    | .error e => .error e
    | .ok name => (readAttributes inner [] ⟨name, [], []⟩ (assignments inside)).map (·, inner)

/-- An element that is not closed yet. -/
structure Frame where
  /-- Its tag. -/
  tag : Tag
  /-- The namespaces in force inside it. -/
  scope : Scope
  /-- Its content so far, the last piece first. -/
  content : List Node

/-- What is known after some of the pieces. -/
structure Builder where
  /-- The document element, once it is closed. -/
  root : Option Element
  /-- The open elements, innermost first. -/
  frames : List Frame

namespace Builder

/-- Before the first piece. -/
def start : Builder := ⟨none, []⟩

/-- The namespaces in force where the next piece stands. -/
def scope (b : Builder) : Scope :=
  match b.frames with
  | [] => .outermost
  | f :: _ => f.scope

/-- Adds a closed element to the innermost open one, or makes it the root. -/
def attach (b : Builder) (e : Element) : Except Error Builder :=
  match b.frames with
  | f :: fs => .ok { b with frames := { f with content := e.node :: f.content } :: fs }
  | [] =>
    match b.root with
    | none => .ok ⟨some e, []⟩
    | some _ => .error (.outsideRoot e.written)

/-- Adds text. Outside of all elements only blanks may stand. -/
def addText (b : Builder) (cs : List Char) : Except Error Builder :=
  match b.frames with
  | f :: fs =>
    if cs.isEmpty then .ok b
    else .ok { b with frames := { f with content := .text (String.ofList cs) :: f.content } :: fs }
  | [] =>
    let content := Text.trimmed cs
    if content.isEmpty then .ok b else .error (.outsideRoot (String.ofList content))

/-- The name in a closing tag, without the blanks after it. -/
def closedName (inside : List Char) : List Char :=
  match (inside.reverse.dropWhile isBlank).reverse with
  | [] => inside
  | name => name

/-- Closes the innermost open element. -/
def close (b : Builder) (inside : List Char) : Except Error Builder :=
  let name := String.ofList (closedName inside)
  match b.frames with
  | [] => .error (.badMarkup (.unmatchedClose name))
  | f :: fs =>
    if name = f.tag.name.written then
      attach { b with frames := fs } ⟨f.tag, f.content.reverse⟩
    else .error (.badMarkup (.mismatchedClose f.tag.name.written name))

/-- One more piece. -/
def step (b : Builder) : Except MarkupFault Markup → Except Error Builder
  | .error f => .error (.badMarkup f)
  | .ok (.text raw) =>
    match unescape raw with
    | .error f => .error (.badReference f)
    | .ok cs => b.addText cs
  | .ok (.literal cs) => b.addText cs
  | .ok (.opening inside) =>
    match readTag b.scope inside with
    | .error e => .error e
    | .ok (tag, inner) => .ok { b with frames := ⟨tag, inner, []⟩ :: b.frames }
  | .ok (.single inside) =>
    match readTag b.scope inside with
    | .error e => .error e
    | .ok (tag, _) => b.attach ⟨tag, []⟩
  | .ok (.closing inside) => b.close inside

/-- Several pieces in order, up to the first that does not fit. -/
def run (b : Builder) : List (Except MarkupFault Markup) → Except Error Builder
  | [] => .ok b
  | m :: ms =>
    match b.step m with
    | .error e => .error e
    | .ok b' => run b' ms

/-- The document element, if nothing is left open. -/
def finish (b : Builder) : Except Error Element :=
  match b.frames, b.root with
  | f :: _, _ => .error (.unbalanced f.tag.name.written)
  | [], some e => .ok e
  | [], none => .error .empty

end Builder

/-- A text without the byte order mark it may begin with. -/
def withoutMark : List Char → List Char
  | '\uFEFF' :: cs => cs
  | cs => cs

/-- The document element of a text given as characters. -/
def parseChars (cs : List Char) : Except Error Element :=
  match Builder.start.run (scan (withoutMark cs)) with
  | .error e => .error e
  | .ok b => b.finish

/-- The document element of a text. -/
def parse (text : String) : Except Error Element :=
  parseChars text.toList

theorem parse_ofList (cs : List Char) : parse (String.ofList cs) = parseChars cs :=
  congrArg parseChars String.toList_ofList

/-- A text holds a document of which something is true, if that is what reading it gives. -/
theorem exists_parse_eq_ok (text : String) (p : Element → Prop)
    (h : ∃ root ∈ (parse text).toOption, p root) : ∃ root, parse text = .ok root ∧ p root := by
  obtain ⟨root, hroot, hp⟩ := h
  refine ⟨root, ?_, hp⟩
  cases hparse : parse text with
  | error e =>
    rw [hparse] at hroot
    exact absurd hroot.symm (Option.some_ne_none root)
  | ok root' =>
    rw [hparse] at hroot
    rw [Option.some.inj hroot]

end Xml

end SamlConformance
