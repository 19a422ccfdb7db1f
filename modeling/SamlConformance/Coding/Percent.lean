import SamlConformance.Text.Hex
import SamlConformance.Text.Utf8

/-!
# Percent Encoding

Bytes in a query or a host name are written as a percent sign with two
hexadecimal digits. A percent sign without two digits after it stands for
itself. Form data write a space as a plus sign besides.

## Main definitions

* `Percent.escape`: Escapes all but the unreserved bytes.
* `Percent.unescape`: Resolves escapes.
* `Percent.encode`, `Percent.decode`: The same between texts.
* `Percent.decodeForm`: `decode` for form data.
-/

namespace SamlConformance

namespace Percent

/-- The percent sign. -/
def sign : UInt8 := 37

/-- Letters, digits, hyphen, full stop, low line and tilde. -/
def isUnreserved (b : UInt8) : Bool :=
  let n := b.toNat
  (48 ≤ n && n ≤ 57) || (65 ≤ n && n ≤ 90) || (97 ≤ n && n ≤ 122) ||
    n == 45 || n == 46 || n == 95 || n == 126

/-- The digit of a value below sixteen, as a byte. -/
def digit (n : Nat) : UInt8 :=
  UInt8.ofNat (Text.hexDigit n).toNat

/-- The value of a digit. -/
def digitValue? (b : UInt8) : Option Nat :=
  Text.hexValue? (Char.ofNat b.toNat)

/-- The three bytes that stand for one. -/
def escaped (b : UInt8) : List UInt8 :=
  [sign, digit (b.toNat / 16), digit (b.toNat % 16)]

/-- Escapes every byte that is not unreserved. -/
def escape (bytes : List UInt8) : List UInt8 :=
  bytes.flatMap fun b => if isUnreserved b then [b] else escaped b

/-- Resolves every percent sign that two digits follow. -/
def unescape : List UInt8 → List UInt8
  | a :: x :: y :: more =>
    match a == sign, digitValue? x, digitValue? y with
    | true, some h, some l => UInt8.ofNat (h * 16 + l) :: unescape more
    | _, _, _ => a :: unescape (x :: y :: more)
  | short => short
termination_by bytes => bytes.length

/-- The escaped form of a text. -/
def encode (s : String) : String :=
  String.ofList ((escape (Utf8.encode s)).map fun b => Char.ofNat b.toNat)

/-- The text an escaped form stands for, unless the bytes encode none. -/
def decode (s : String) : Except Utf8.Fault String :=
  Utf8.decode (unescape (Utf8.encode s))

/-- `decode`, with a plus sign standing for a space. -/
def decodeForm (s : String) : Except Utf8.Fault String :=
  Utf8.decode (unescape ((Utf8.encode s).map fun b => if b = 43 then 32 else b))

end Percent

end SamlConformance
