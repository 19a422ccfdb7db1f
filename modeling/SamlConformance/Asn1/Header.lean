import SamlConformance.Crypto.BigEndian

/-!
# Headers of Tagged Values

Certificates, keys and some signatures are nested values. In front of the content of
each stand the number of its kind and how long the content is. Both are read
generously: a number in one byte or in several, a length in as many bytes as it was
written with, and also one that is left open, when the content lasts until it is
closed.

## Main definitions

* `Der.Kind`: The kinds by their numbers.
* `Der.Header`: What stands in front of the content.
* `Der.header?`: Reads a header.
* `Der.pastOpen?`: What follows the end of a content whose length was left open.
-/

namespace SamlConformance

namespace Der

/-- A kind of value by its number. -/
abbrev Kind := Nat

/-- A value that is true or false. -/
def boolean : Kind := 1

/-- A whole number. -/
def integer : Kind := 2

/-- Bits, after the number of those that do not count. -/
def bitString : Kind := 3

/-- Bytes. -/
def octetString : Kind := 4

/-- The absence of a value. -/
def null : Kind := 5

/-- A registered name. -/
def objectId : Kind := 6

/-- A sequence. -/
def sequence : Kind := 16

/-- A time with two digits for the year. -/
def shortTime : Kind := 23

/-- A time with four digits for the year. -/
def longTime : Kind := 24

/-- What stands in front of the content of a value. -/
structure Header where
  /-- Whether the number means a place among others, and not a kind. -/
  byPlace : Bool
  /-- Whether the content is said to be made of values. -/
  nested : Bool
  /-- The number of the kind or place. -/
  number : Nat
  /-- How many bytes the content has, unless it lasts until it is closed. -/
  length : Option Nat
deriving Repr, DecidableEq

/-- A number of 32 bits in bytes of seven bits each, of which there are `n` at most.
All but the last are marked. -/
def longNumber? : Nat → Nat → List UInt8 → Option (Nat × List UInt8)
  | 0, _, _ => none
  | _, _, [] => none
  | n + 1, acc, b :: bs =>
    let number := (acc * 128 + b.toNat % 128) % 0x100000000
    if b < 128 then some (number, bs) else longNumber? n number bs

/-- The number of a kind, which a first byte holds if it is small. -/
def number? (first : UInt8) (bytes : List UInt8) : Option (Nat × List UInt8) :=
  let small := first.toNat % 32
  if small = 31 then longNumber? 5 0 bytes else some (small, bytes)

/-- A length. Where values are nested it may be left open. -/
def length? (nested : Bool) : List UInt8 → Option (Option Nat × List UInt8)
  | [] => none
  | b :: bs =>
    let n := b.toNat
    if n < 128 then some (some n, bs)
    else if n = 128 then if nested then some (none, bs) else none
    else if n = 255 ∨ bs.length < n - 128 then none
    else some (some (BigEndian.value (bs.take (n - 128))), bs.drop (n - 128))

/-- A header, and what follows it. -/
def header? : List UInt8 → Option (Header × List UInt8)
  | [] => none
  | first :: bytes => do
    let nested := first &&& 0x20 ≠ 0
    let (number, rest) ← number? first bytes
    let (length, rest) ← length? nested rest
    return (⟨first &&& 0xc0 = 0x80, nested, number, length⟩, rest)

/-- The mark that closes a content whose length was left open. -/
def Header.isEnd (h : Header) : Bool :=
  h.number == 0 && h.length == some 0

/-- How deep contents of open length may lie in one another. -/
def deepest : Nat := 49

/-- What follows the ends of `depth` contents of open length, within `n` headers. -/
def pastOpen? : Nat → Nat → List UInt8 → Option (List UInt8)
  | 0, _, _ => none
  | _, 0, bytes => some bytes
  | n + 1, depth + 1, bytes =>
    if deepest ≤ depth then none
    else
      match header? bytes with
      | none => none
      | some (h, rest) =>
        match h.length with
        | none => pastOpen? n (depth + 2) rest
        | some length =>
          if h.isEnd then pastOpen? n depth rest
          else if rest.length < length then none
          else pastOpen? n (depth + 1) (rest.drop length)

end Der

end SamlConformance
