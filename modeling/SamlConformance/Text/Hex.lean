/-!
# Hexadecimal Digits

The digit values shared by percent escapes, character references and code
point tables.

## Main definitions

* `hexValue?`: The value of a digit in either letter case.
* `hexDigit`: The capital digit of a value below sixteen.
* `hexNumber?`: The number a run of digits writes, of any length.
-/

namespace SamlConformance

namespace Text

/-- The value of a hexadecimal digit, capital or small. -/
def hexValue? (c : Char) : Option Nat :=
  if '0' ≤ c ∧ c ≤ '9' then some (c.toNat - '0'.toNat)
  else if 'a' ≤ c ∧ c ≤ 'f' then some (c.toNat - 'a'.toNat + 10)
  else if 'A' ≤ c ∧ c ≤ 'F' then some (c.toNat - 'A'.toNat + 10)
  else none

/-- The digit of a value below sixteen; letters are capital. -/
def hexDigit (n : Nat) : Char :=
  if n < 10 then Char.ofNat (48 + n) else Char.ofNat (55 + n)

/-- The number written by one or more digits. -/
def hexNumber? (cs : List Char) : Option Nat :=
  if cs.isEmpty then none
  else cs.foldl (fun acc c => do return (← acc) * 16 + (← hexValue? c)) (some 0)

/-- A number in capital digits, with zeros in front up to `width`. -/
def hexPadded (width n : Nat) : List Char :=
  let ds := (Nat.toDigits 16 n).map Char.toUpper
  List.replicate (width - ds.length) '0' ++ ds

theorem hexValue?_hexDigit : ∀ n < 16, hexValue? (hexDigit n) = some n := by
  decide

end Text

end SamlConformance
