import SamlConformance.Text.Utf8

/-!
# Base64

The standard alphabet with mandatory padding and no spare bits set, so that a
byte string has exactly one accepted spelling. Texts are handled as bytes, in
which the positions of faults are counted.

All groups of four but the last hold plain symbols. The last group decides
about padding, and its faults have a fixed order: symbols from the left, then
padding that comes too early or is interrupted, then too few symbols, then a
missing padding, then spare bits.

## Main definitions

* `Base64.encode`: The text of a byte string.
* `Base64.decode`: The byte string of a text, or the first fault.
* `Base64.Fault`: What is wrong with a text.
-/

namespace SamlConformance

namespace Base64

/-- The padding character. -/
def pad : UInt8 := 61

/-- The symbol of a value below sixty-four. -/
def symbol (n : Nat) : UInt8 :=
  if n < 26 then UInt8.ofNat (65 + n)
  else if n < 52 then UInt8.ofNat (71 + n)
  else if n < 62 then UInt8.ofNat (n - 4)
  else if n = 62 then 43
  else 47

/-- The value of a symbol. -/
def value? (b : UInt8) : Option Nat :=
  let n := b.toNat
  if 65 ≤ n ∧ n ≤ 90 then some (n - 65)
  else if 97 ≤ n ∧ n ≤ 122 then some (n - 71)
  else if 48 ≤ n ∧ n ≤ 57 then some (n + 4)
  else if n = 43 then some 62
  else if n = 47 then some 63
  else none

theorem value?_symbol : ∀ n < 64, value? (symbol n) = some n := by
  decide

/-- The symbols of a byte string. -/
def encodeBytes : List UInt8 → List UInt8
  | [] => []
  | [a] =>
    let a := a.toNat
    [symbol (a / 4), symbol (a % 4 * 16), pad, pad]
  | [a, b] =>
    let a := a.toNat
    let b := b.toNat
    [symbol (a / 4), symbol (a % 4 * 16 + b / 16), symbol (b % 16 * 4), pad]
  | a :: b :: c :: rest =>
    let a := a.toNat
    let b := b.toNat
    let c := c.toNat
    symbol (a / 4) :: symbol (a % 4 * 16 + b / 16) :: symbol (b % 16 * 4 + c / 64) ::
      symbol (c % 64) :: encodeBytes rest

/-- The text of a byte string. -/
def encode (bytes : List UInt8) : String :=
  String.ofList ((encodeBytes bytes).map fun b => Char.ofNat b.toNat)

/-- What is wrong with a text. -/
inductive Fault where
  /-- A byte that must not stand at an offset. -/
  | symbol (byte : UInt8) (offset : Nat)
  /-- A single symbol is left over; the number of symbols so far. -/
  | length (count : Nat)
  /-- The last symbol sets bits that belong to no byte. -/
  | lastSymbol (byte : UInt8) (offset : Nat)
  /-- Padding is missing. -/
  | padding
deriving Repr, DecidableEq

/-- The wording of a fault. -/
def Fault.message : Fault → String
  | symbol b o => s!"Invalid symbol {b}, offset {o}."
  | length n => s!"Invalid input length: {n}"
  | lastSymbol b o => s!"Invalid last symbol {b}, offset {o}."
  | padding => "Invalid padding"

/-- The values of consecutive symbols, the first of which stands at `offset`. -/
def values (offset : Nat) : List UInt8 → Except Fault (List Nat)
  | [] => .ok []
  | b :: bs =>
    match value? b with
    | none => .error (.symbol b offset)
    | some v => (values (offset + 1) bs).map (v :: ·)

/-- The bytes of two to four values; what is left over must be zero. -/
def assemble : List Nat → Option (List UInt8)
  | [v, w] =>
    if w % 16 = 0 then some [UInt8.ofNat (v * 4 + w / 16)] else none
  | [v, w, x] =>
    if x % 4 = 0 then
      some [UInt8.ofNat (v * 4 + w / 16), UInt8.ofNat (w % 16 * 16 + x / 4)]
    else none
  | [v, w, x, y] =>
    some [UInt8.ofNat (v * 4 + w / 16), UInt8.ofNat (w % 16 * 16 + x / 4),
      UInt8.ofNat (x % 4 * 64 + y)]
  | _ => none

/-- Reads a group that is not the last. -/
def fullGroup (offset : Nat) (group : List UInt8) : Except Fault (List UInt8) := do
  let vs ← values offset group
  return (assemble vs).getD []

/-- Reads the last group, which holds one to four bytes. -/
def lastGroup (offset : Nat) (group : List UInt8) : Except Fault (List UInt8) :=
  let symbols := group.takeWhile (· != pad)
  let padding := group.dropWhile (· != pad)
  let count := symbols.length
  match values offset symbols with
  | .error f => .error f
  | .ok vs =>
    if !padding.isEmpty && (count < 2 || padding.any (· != pad)) then
      .error (.symbol pad (offset + count))
    else if count < 2 then .error (.length (offset + count))
    else if group.length ≠ 4 then .error .padding
    else
      match assemble vs with
      | some bytes => .ok bytes
      | none => .error (.lastSymbol (symbols.getLast?.getD pad) (offset + count - 1))

/-- Reads a text whose first byte stands at `offset`. -/
def decodeFrom (offset : Nat) : List UInt8 → Except Fault (List UInt8)
  | [] => .ok []
  | a :: b :: c :: d :: e :: rest =>
    match fullGroup offset [a, b, c, d] with
    | .error f => .error f
    | .ok bytes => (decodeFrom (offset + 4) (e :: rest)).map (bytes ++ ·)
  | group => lastGroup offset group
termination_by text => text.length

/-- A last byte that is no symbol and stands alone in its group is found first. -/
def strayLast? (text : List UInt8) : Option Fault :=
  if text.length % 4 = 1 then
    match text.getLast? with
    | some b => if b != pad && (value? b).isNone then some (.symbol b (text.length - 1)) else none
    | none => none
  else none

/-- The byte string of a text given as bytes. -/
def decodeBytes (text : List UInt8) : Except Fault (List UInt8) :=
  match strayLast? text with
  | some f => .error f
  | none => decodeFrom 0 text

/-- The byte string of a text. -/
def decode (text : String) : Except Fault (List UInt8) :=
  decodeBytes (Utf8.encode text)

end Base64

end SamlConformance
