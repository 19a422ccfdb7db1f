import SamlConformance.Domain.Repertoire
import SamlConformance.Domain.Composition
import SamlConformance.Domain.Punycode
import SamlConformance.Domain.Bidi
import SamlConformance.Domain.Joining

/-!
# Domain Names

A domain name is brought to one form before it is judged: its characters are
replaced as the repertoire demands, accents are composed, and labels in ASCII
spelling are read. What comes out must obey the rules for labels; a label in
ASCII spelling must moreover stand for one that is in this form already.

Hyphens may stand anywhere. A label in ASCII may have any length; others are limited,
far above what a name that is in use can have, so that a name is judged in little
time.

## Main definitions

* `isDenied`: ASCII characters no name may hold.
* `label?`: A label in its one form.
* `labels?`: The labels of a name.
-/

namespace SamlConformance

namespace Domain

/-- ASCII characters that a name in an address must not hold. -/
def isDenied (c : Char) : Bool :=
  c.toNat ≤ 0x20 || c.toNat == 0x7F || "#/:<>?@[\\]^|%".toList.contains c

/-- The character is in ASCII. -/
def isAscii (c : Char) : Bool :=
  c.toNat < 0x80

/-- The greatest length of a label with other characters than ASCII. -/
def maxLength : Nat := 1000

/-- The greatest length of an ASCII spelling without its beginning `xn--`. -/
def maxSpelling : Nat := 2000

/-- The rules for a label with other characters than ASCII. -/
def isSound (label : List Char) : Bool :=
  label.length ≤ maxLength &&
    (match label with
      | c :: _ => !isMark c
      | [] => true) && joinersAllowed label

/-- The label whose ASCII spelling goes on with `spelling`. -/
def spelledLabel? (spelling : List Char) : Option (List Char) :=
  match if spelling.length ≤ maxSpelling && spelling.all isAscii then
    Punycode.decode? spelling else none with
  | none => none
  | some label =>
    if !label.all isAscii && label.all isValid && composed label == label && isSound label then
      some label
    else none

/-- A label in its one form, after replacement and composition. -/
def label? (label : List Char) : Option (List Char) :=
  if "xn--".toList.isPrefixOf label then spelledLabel? (label.drop 4)
  else if label.all isAscii || isSound label then some label
  else none

/-- The labels of a name in their one form; none if the name is not allowed. -/
def labels? (name : List Char) : Option (List (List Char)) :=
  match mapped? name with
  | none => none
  | some cs =>
    let cs := composed cs
    if cs.any isDenied then none
    else
      match (cs.splitOn '.').mapM label? with
      | none => none
      | some labels =>
        if labels.any isBidi && !labels.all keepsDirection then none else some labels

end Domain

end SamlConformance
