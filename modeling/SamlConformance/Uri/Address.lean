import SamlConformance.Text.Hex
import SamlConformance.Text.Decimal

/-!
# Internet Addresses

A host can be given by its address instead of a name. Addresses of version 4 are
one to four numbers, each decimal, octal after a zero or hexadecimal after `0x`;
the last number fills all bytes that the others leave. Addresses of version 6
are eight groups of hexadecimal digits, a run of which may be left out once, and
the last two of which may be written as an address of version 4.

## Main definitions

* `ipv4Number?`, `isIpv4`: Numbers and addresses of version 4.
* `endsInNumber`: A name that has to be an address.
* `isIpv6`: Addresses of version 6.
-/

namespace SamlConformance

namespace Uri

/-- The number written in base eight. -/
def octal? (cs : List Char) : Option Nat :=
  if cs.all fun c => '0' ≤ c && c ≤ '7' then
    some (cs.foldl (fun n c => n * 8 + Text.digitValue c) 0)
  else none

/-- One number of an address of version 4. -/
def ipv4Number? : List Char → Option Nat
  | [] => none
  | ['0', 'x'] => some 0
  | ['0', 'X'] => some 0
  | '0' :: 'x' :: ds => Text.hexNumber? ds
  | '0' :: 'X' :: ds => Text.hexNumber? ds
  | ['0'] => some 0
  | '0' :: ds => octal? ds
  | ds => Text.decimal? ds

/-- The parts of a name between full stops; an empty last part does not count. -/
def dottedParts (labels : List (List Char)) : List (List Char) :=
  if labels.getLast? = some [] then labels.dropLast else labels

/-- The last part of a name is a number, so that the name has to be an address. -/
def endsInNumber (labels : List (List Char)) : Bool :=
  match (dottedParts labels).getLast? with
  | none => false
  | some part => (!part.isEmpty && part.all Text.isDigit) || (ipv4Number? part).isSome

/-- The parts of a name are an address of version 4. -/
def isIpv4 (labels : List (List Char)) : Bool :=
  let parts := dottedParts labels
  match parts.mapM ipv4Number? with
  | none => false
  | some numbers =>
    match numbers.getLast? with
    | none => false
    | some last =>
      parts.length ≤ 4 && last < Nat.pow 256 (5 - parts.length) &&
        numbers.dropLast.all fun n => n ≤ 255

/-- A byte in decimal, without zeros in front. -/
def isDecimalByte (cs : List Char) : Bool :=
  match Text.decimal? cs with
  | none => false
  | some n => n ≤ 255 && (cs.length == 1 || cs.head? != some '0')

/-- Four bytes between full stops. -/
def isDottedQuad (cs : List Char) : Bool :=
  let parts := cs.splitOn '.'
  parts.length == 4 && parts.all isDecimalByte

/-- Reads the groups of an address of version 6. `count` groups were read, a run
left out counting as one, and `shortened` says whether there was one. -/
def ipv6Groups (count : Nat) (shortened : Bool) (cs : List Char) : Bool :=
  match cs with
  | [] => shortened || count == 8
  | c :: cs =>
    if count = 8 then false
    else if c = ':' then !shortened && ipv6Groups (count + 1) true cs
    else
      let group := ((c :: cs).take 4).takeWhile fun d => (Text.hexValue? d).isSome
      match _ : (c :: cs).drop group.length with
      | [] => ipv6Groups (count + 1) shortened []
      | d :: rest =>
        if d = ':' then !rest.isEmpty && ipv6Groups (count + 1) shortened rest
        else
          d == '.' && !group.isEmpty && count ≤ 6 && isDottedQuad (c :: cs) &&
            (shortened || count == 6)
termination_by cs.length
decreasing_by
  · simp
  · simp
  · have := congrArg List.length ‹(c :: cs).drop group.length = _›
    simp only [List.length_drop, List.length_cons] at this ⊢
    omega

/-- The text is an address of version 6. -/
def isIpv6 : List Char → Bool
  | ':' :: ':' :: cs => ipv6Groups 1 true cs
  | ':' :: _ => false
  | [_] => false
  | cs => !cs.isEmpty && ipv6Groups 0 false cs

end Uri

end SamlConformance
