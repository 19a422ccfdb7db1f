import SamlConformance.Xml.Tree
import SamlConformance.Xml.Reference

/-!
# Writing Element Trees

An element is written with its declarations first, then its attributes, then
its content; one without content is a single tag. Everything is written in front
of what follows it, so that the writer composes the way the reader consumes.

## Main definitions

* `Tag.write`: The inside of an opening tag.
* `Node.write`: A node in front of a text.
* `Element.toXml`: The written element.
-/

namespace SamlConformance

namespace Xml

/-- One attribute, with the blank before it, in front of `rest`. -/
def writeAttribute (key value : String) (rest : List Char) : List Char :=
  ' ' :: (key.toList ++ '=' :: '"' :: (escape value.toList ++ '"' :: rest))

/-- The attribute name that declares a prefix. -/
def Declaration.key (d : Declaration) : String :=
  match d.nsPrefix with
  | some p => "xmlns:" ++ p
  | none => "xmlns"

/-- The inside of the tag that opens an element, in front of `rest`. -/
def Tag.write (t : Tag) (rest : List Char) : List Char :=
  t.name.written.toList ++
    t.declarations.foldr (fun d r => writeAttribute d.key d.uri r)
      (t.attributes.foldr (fun a r => writeAttribute a.name.written a.value r) rest)

mutual

/-- A node in front of `rest`. -/
def Node.write (rest : List Char) : Node → List Char
  | .text s => escape s.toList ++ rest
  | .element t [] => '<' :: t.write ('/' :: '>' :: rest)
  | .element t (c :: cs) =>
    '<' :: t.write ('>' :: Node.writeAll
      ('<' :: '/' :: (t.name.written.toList ++ '>' :: rest)) (c :: cs))

/-- Several nodes in front of `rest`. -/
def Node.writeAll (rest : List Char) : List Node → List Char
  | [] => rest
  | n :: ns => n.write (Node.writeAll rest ns)

end

/-- The written element. -/
def Element.toXml (e : Element) : String :=
  String.ofList (e.node.write [])

end Xml

end SamlConformance
