import SamlConformance.Text.Hex
import SamlConformance.Text.Decimal
import SamlConformance.Text.Utf8
import SamlConformance.Text.Cut

/-!
# Character References

In text and in attribute values five characters are written by name, and any
character may be written by its number. Reading resolves both; writing uses the
five names wherever they apply, so that no written text can be taken for markup.

## Main definitions

* `escape`: Writes the five named characters by name.
* `unescape`: Resolves references.
* `Reference.Fault`: What can be wrong with one.

## Theorems

* `unescape_escape`: Reading inverts writing.
-/

namespace SamlConformance

namespace Xml

/-- What is wrong with the number of a reference. -/
inductive Reference.NumberFault where
  /-- It has a sign. -/
  | sign
  /-- It has no digits. -/
  | empty
  /-- A character is no digit. -/
  | digit
  /-- It exceeds thirty-two bits. -/
  | overflow
  /-- It is zero. -/
  | zero
  /-- It numbers no character. -/
  | codePoint (n : Nat)
deriving Repr, DecidableEq

/-- What is wrong with a reference. Places count bytes. -/
inductive Reference.Fault where
  /-- No semicolon closes it. -/
  | unclosed (start stop : Nat)
  /-- Its name is none of the five. -/
  | unknownName (start stop : Nat) (name : String)
  /-- Its number is unusable. -/
  | number (fault : NumberFault)
deriving Repr, DecidableEq

namespace Reference

/-- The wording of a fault in a number. -/
def NumberFault.message : NumberFault → String
  | sign => "unexpected number sign"
  | empty => "cannot parse integer from empty string"
  | digit => "invalid digit found in string"
  | overflow => "number too large to fit in target type"
  | zero => "0x0 character is not permitted in XML"
  | codePoint n => s!"`{n}` is not a valid codepoint"

/-- The wording of a fault. -/
def Fault.message : Fault → String
  | unclosed a b =>
    s!"Error while escaping character at range {a}..{b}: Cannot find ';' after '&'"
  | unknownName a b name => s!"at {a}..{b}: unrecognized entity `{name}`"
  | number f => "invalid character reference: " ++ f.message

/-- The value of a digit in base ten. -/
def decimalValue? (c : Char) : Option Nat :=
  if Text.isDigit c then some (Text.digitValue c) else none

/-- Reads the digits of a number of at most thirty-two bits. -/
def digits (base : Nat) (value? : Char → Option Nat) (acc : Nat) :
    List Char → Except NumberFault Nat
  | [] => .ok acc
  | c :: cs =>
    match value? c with
    | none => .error .digit
    | some v =>
      let n := acc * base + v
      if n < 0x100000000 then digits base value? n cs else .error .overflow

/-- The number of a reference: decimal, or hexadecimal after an `x`. -/
def numberOf (cs : List Char) : Except NumberFault Nat :=
  let (ds, base, value?) := match cs with
    | 'x' :: ds => (ds, 16, Text.hexValue?)
    | ds => (ds, 10, decimalValue?)
  match ds with
  | [] => .error .empty
  | '+' :: _ => .error .sign
  | '-' :: _ => .error .sign
  | ds => digits base value? 0 ds

/-- The character a number stands for. -/
def character (cs : List Char) : Except NumberFault Char :=
  match numberOf cs with
  | .error f => .error f
  | .ok n =>
    if n = 0 then .error .zero
    else if n.isValidChar then .ok (Char.ofNat n)
    else .error (.codePoint n)

/-- The character a name stands for. -/
def named? (name : List Char) : Option Char :=
  match String.ofList name with
  | "lt" => some '<'
  | "gt" => some '>'
  | "amp" => some '&'
  | "apos" => some '\x27'
  | "quot" => some '"'
  | _ => none

end Reference

/-- Reads the inside of a reference whose ampersand stands at `start`. -/
def resolve (start : Nat) (inside : List Char) : Except Reference.Fault Char :=
  match inside with
  | '#' :: number =>
    match Reference.character number with
    | .ok c => .ok c
    | .error f => .error (.number f)
  | name =>
    match Reference.named? name with
    | some c => .ok c
    | none =>
      .error (.unknownName (start + 1) (start + 1 + Utf8.width name) (String.ofList name))

/-- The inside of a reference and what follows it: up to a semicolon, before
which no other ampersand may stand. -/
def closeReference : List Char → Option (List Char × List Char)
  | [] => none
  | c :: cs =>
    if c = ';' then some ([], cs)
    else if c = '&' then none
    else (closeReference cs).map fun r => (c :: r.1, r.2)

theorem length_closeReference {cs inside rest : List Char}
    (h : closeReference cs = some (inside, rest)) : rest.length < cs.length := by
  induction cs generalizing inside with
  | nil => simp [closeReference] at h
  | cons c cs ih =>
    simp only [closeReference] at h
    split at h
    · simp only [Option.some.injEq, Prod.mk.injEq] at h
      rw [← h.2, List.length_cons]
      exact Nat.lt_succ_self _
    · split at h
      · simp at h
      · obtain ⟨⟨i, r⟩, hr, heq⟩ := Option.map_eq_some_iff.1 h
        simp only [Prod.mk.injEq] at heq
        obtain ⟨-, rfl⟩ := heq
        have := ih hr
        rw [List.length_cons]
        omega

/-- Resolves the references of a text of which `pos` bytes were read. -/
def unescapeFrom (total pos : Nat) (cs : List Char) : Except Reference.Fault (List Char) :=
  match cs with
  | [] => .ok []
  | c :: cs =>
    if c = '&' then
      match _ : closeReference cs with
      | none => .error (.unclosed pos total)
      | some (inside, rest) =>
        match resolve pos inside with
        | .error f => .error f
        | .ok x => (unescapeFrom total (pos + Utf8.width inside + 2) rest).map (x :: ·)
    else (unescapeFrom total (pos + c.utf8Size) cs).map (c :: ·)
termination_by cs.length
decreasing_by
  · have := length_closeReference ‹closeReference cs = _›
    simp only [List.length_cons]
    omega
  · simp

/-- The text with its references resolved. -/
def unescape (cs : List Char) : Except Reference.Fault (List Char) :=
  unescapeFrom (Utf8.width cs) 0 cs

/-- One character as it is written in text and values. -/
def escapeChar (c : Char) : List Char :=
  if c = '<' then "&lt;".toList
  else if c = '>' then "&gt;".toList
  else if c = '&' then "&amp;".toList
  else if c = '\x27' then "&apos;".toList
  else if c = '"' then "&quot;".toList
  else [c]

/-- A text as it is written in text and values. -/
def escape (cs : List Char) : List Char :=
  cs.flatMap escapeChar

theorem unescapeFrom_char (total pos : Nat) (c : Char) (cs : List Char) (hc : c ≠ '&') :
    unescapeFrom total pos (c :: cs) =
      (unescapeFrom total (pos + c.utf8Size) cs).map (c :: ·) := by
  rw [unescapeFrom, if_neg hc]

theorem unescapeFrom_reference (total pos : Nat) (cs inside rest : List Char) (x : Char)
    (hclose : closeReference cs = some (inside, rest)) (hx : resolve pos inside = .ok x) :
    unescapeFrom total pos ('&' :: cs) =
      (unescapeFrom total (pos + Utf8.width inside + 2) rest).map (x :: ·) := by
  rw [unescapeFrom, if_pos rfl]
  split
  · rename_i hnone
    exact absurd (hclose.symm.trans hnone) (Option.some_ne_none _)
  · rename_i inside' rest' hsome
    obtain ⟨rfl, rfl⟩ := Prod.mk.inj (Option.some.inj (hsome.symm.trans hclose))
    simp only [hx]

/-- Reading one written character gives it back, wherever reading goes on. -/
theorem unescapeFrom_escapeChar (total pos : Nat) (c : Char) (rest : List Char) :
    ∃ next, unescapeFrom total pos (escapeChar c ++ rest) =
      (unescapeFrom total next rest).map (c :: ·) := by
  unfold escapeChar
  by_cases hless : c = '<'
  · rw [if_pos hless, hless]
    exact ⟨_, unescapeFrom_reference total pos _ "lt".toList rest '<' rfl rfl⟩
  rw [if_neg hless]
  by_cases hgreater : c = '>'
  · rw [if_pos hgreater, hgreater]
    exact ⟨_, unescapeFrom_reference total pos _ "gt".toList rest '>' rfl rfl⟩
  rw [if_neg hgreater]
  by_cases hampersand : c = '&'
  · rw [if_pos hampersand, hampersand]
    exact ⟨_, unescapeFrom_reference total pos _ "amp".toList rest '&' rfl rfl⟩
  rw [if_neg hampersand]
  by_cases hsingle : c = '\x27'
  · rw [if_pos hsingle, hsingle]
    exact ⟨_, unescapeFrom_reference total pos _ "apos".toList rest '\x27' rfl rfl⟩
  rw [if_neg hsingle]
  by_cases hdouble : c = '"'
  · rw [if_pos hdouble, hdouble]
    exact ⟨_, unescapeFrom_reference total pos _ "quot".toList rest '"' rfl rfl⟩
  -- Any other character is written as it is, and is no ampersand.
  rw [if_neg hdouble]
  exact ⟨_, unescapeFrom_char total pos c rest hampersand⟩

theorem unescapeFrom_escape (total pos : Nat) (cs : List Char) :
    unescapeFrom total pos (escape cs) = .ok cs := by
  induction cs generalizing pos with
  | nil => simp [escape, unescapeFrom]
  | cons c cs ih =>
    obtain ⟨next, h⟩ := unescapeFrom_escapeChar total pos c (escape cs)
    have hcons : escape (c :: cs) = escapeChar c ++ escape cs := by simp [escape]
    rw [hcons, h, ih]
    rfl

theorem unescape_escape (cs : List Char) : unescape (escape cs) = .ok cs :=
  unescapeFrom_escape _ _ cs

end Xml

end SamlConformance
