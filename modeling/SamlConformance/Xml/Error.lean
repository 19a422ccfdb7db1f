import SamlConformance.Xml.Reference

/-!
# Errors of Documents

A text can fail to be a document in its markup, in the attributes of a tag, in
a character reference, in the declaration of a namespace, and as a whole. Each
cause is a constructor; the wording of all of them stands here.

## Main definitions

* `MarkupFault`, `AttributeFault`, `DeclarationFault`: The causes by origin.
* `Error`: All causes, with those that concern the document as a whole.
* `Error.message`: The wording.
-/

namespace SamlConformance

namespace Xml

/-- What is wrong with the markup. -/
inductive MarkupFault where
  /-- An exclamation mark opens nothing known. -/
  | unknownMarkup
  /-- A processing instruction has no end. -/
  | openInstruction
  /-- A comment has no end, or no proper beginning. -/
  | openComment
  /-- A document type declaration has no end, or no proper beginning. -/
  | openDoctype
  /-- A character data section has no end, or no proper beginning. -/
  | openCharacterData
  /-- A tag has no end. -/
  | openTag
  /-- A document type declaration names no type. -/
  | unnamedDoctype
  /-- A closing tag closes nothing. -/
  | unmatchedClose (name : String)
  /-- A closing tag closes another element than the open one. -/
  | mismatchedClose (expected found : String)
deriving Repr, DecidableEq

/-- The wording of a fault in the markup. -/
def MarkupFault.message : MarkupFault → String
  | unknownMarkup => "syntax error: unknown or missed symbol in markup"
  | openInstruction =>
    "syntax error: processing instruction or xml declaration not closed: " ++
      "`?>` not found before end of input"
  | openComment => "syntax error: comment not closed: `-->` not found before end of input"
  | openDoctype => "syntax error: DOCTYPE not closed: `>` not found before end of input"
  | openCharacterData => "syntax error: CDATA not closed: `]]>` not found before end of input"
  | openTag => "syntax error: tag not closed: `>` not found before end of input"
  | unnamedDoctype =>
    "ill-formed document: `<!DOCTYPE>` declaration does not contain a name of a document type"
  | unmatchedClose name =>
    s!"ill-formed document: close tag `</{name}>` does not match any open tag"
  | mismatchedClose expected found =>
    s!"ill-formed document: expected `</{expected}>`, but `</{found}>` was found"

/-- What is wrong with the attributes of a tag. Places count bytes from the
opening bracket of the tag on. -/
inductive AttributeFault where
  /-- Neither an equals sign nor a blank follows a name. -/
  | noEquals (place : Nat)
  /-- Nothing follows the equals sign. -/
  | noValue (place : Nat)
  /-- The value is not quoted. -/
  | unquoted (place : Nat)
  /-- The value is not closed. -/
  | unclosed (place : Nat) (quote : Char)
  /-- The name stood before. -/
  | repeated (place previous : Nat)
deriving Repr, DecidableEq

/-- The wording of a fault in attributes. -/
def AttributeFault.message : AttributeFault → String
  | noEquals p => s!"position {p}: attribute key must be directly followed by `=` or space"
  | noValue p => s!"position {p}: `=` must be followed by an attribute value"
  | unquoted p => s!"position {p}: attribute value must be enclosed in `\"` or `'`"
  | unclosed p q => s!"position {p}: missing closing quote `{q}` in attribute value"
  | repeated p q => s!"position {p}: duplicated attribute, previous declaration at position {q}"

/-- What is wrong with the declaration of a namespace. -/
inductive DeclarationFault where
  /-- The prefix `xml` is bound to another namespace. -/
  | xmlRebound (uri : List Char)
  /-- The prefix `xmlns` is bound. -/
  | xmlnsBound (uri : List Char)
  /-- Another prefix is bound to the namespace of `xml`. -/
  | xmlNamespace (nsPrefix : List Char)
  /-- Another prefix is bound to the namespace of `xmlns`. -/
  | xmlnsNamespace (nsPrefix : List Char)
deriving Repr, DecidableEq

/-- The namespace of the prefix `xml`. -/
def xmlNamespace : String := "http://www.w3.org/XML/1998/namespace"

/-- The namespace of the prefix `xmlns`. -/
def xmlnsNamespace : String := "http://www.w3.org/2000/xmlns/"

/-- One byte as error texts show it. -/
def shownByte (b : UInt8) : List Char :=
  if b = 34 then ['\\', '"']
  else if 32 ≤ b ∧ b ≤ 126 then [Char.ofNat b.toNat]
  else '0' :: 'x' :: Text.hexPadded 1 b.toNat

/-- A text as error texts show it: in quotes, with other bytes than printable
ASCII by their numbers. -/
def shownBytes (cs : List Char) : String :=
  String.ofList ('"' :: (Utf8.encode (String.ofList cs)).flatMap shownByte ++ ['"'])

/-- The wording of a fault in a declaration. -/
def DeclarationFault.message : DeclarationFault → String
  | xmlRebound uri => s!"the namespace prefix 'xml' cannot be bound to '{shownBytes uri}'"
  | xmlnsBound uri => s!"the namespace prefix 'xmlns' cannot be bound to '{shownBytes uri}'"
  | xmlNamespace p =>
    s!"the namespace prefix '{shownBytes p}' cannot be bound to '{Xml.xmlNamespace}'"
  | xmlnsNamespace p =>
    s!"the namespace prefix '{shownBytes p}' cannot be bound to '{Xml.xmlnsNamespace}'"

/-- Why a text is no document. -/
inductive Error where
  /-- Its markup is broken. -/
  | badMarkup (fault : MarkupFault)
  /-- A tag is broken. -/
  | badTag (fault : AttributeFault)
  /-- A reference is broken. -/
  | badReference (fault : Reference.Fault)
  /-- A namespace declaration is not allowed. -/
  | badDeclaration (fault : DeclarationFault)
  /-- A prefix is not declared. -/
  | unknownPrefix (nsPrefix : String)
  /-- An element is not closed. -/
  | unbalanced (name : String)
  /-- There is a second root element, or text beside the root. -/
  | outsideRoot (content : String)
  /-- There is no element. -/
  | empty
deriving Repr, DecidableEq

/-- The wording of an error. -/
def Error.message : Error → String
  | badMarkup f => "XML parsing error: " ++ f.message
  | badTag f => "XML parsing error: " ++ f.message
  | badReference f => "XML parsing error: " ++ f.message
  | badDeclaration f => "XML parsing error: " ++ f.message
  | unknownPrefix p => "undeclared namespace prefix: " ++ p
  | unbalanced n => "unbalanced element: " ++ n
  | outsideRoot c => "content outside the root element: " ++ c
  | empty => "document has no root element"

end Xml

end SamlConformance
