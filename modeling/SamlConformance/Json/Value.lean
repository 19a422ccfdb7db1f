/-!
# JSON Values

Numbers are kept as they are written, since whether a number is an integer is a
question of its spelling: `200` is one and `200.0` is not. Members of an object
keep their order and may repeat.

## Main definitions

* `Value`: The values.
* `Value.members`, `Value.member?`: Access to objects.
-/

namespace SamlConformance

namespace Json

/-- A JSON value. -/
inductive Value where
  /-- The null value. -/
  | null
  /-- A truth value. -/
  | bool (b : Bool)
  /-- A number in writing. -/
  | number (written : String)
  /-- A text. -/
  | string (s : String)
  /-- A list. -/
  | array (items : List Value)
  /-- Named members in order. -/
  | object (members : List (String × Value))
deriving Repr, Inhabited

namespace Value

/-- The members of an object; none for other values. -/
def members : Value → List (String × Value)
  | object ms => ms
  | _ => []

/-- The first member of a name. -/
def member? (v : Value) (name : String) : Option Value :=
  v.members.lookup name

/-- The member of a name that may stand once at most: none if it is repeated, and
null if it is missing. -/
def single? (v : Value) (name : String) : Option Value :=
  match v.members.filter fun m => m.1 == name with
  | [] => some null
  | [m] => some m.2
  | _ => none

/-- A natural number as a value. -/
def nat (n : Nat) : Value := number (toString n)

/-- A text, or null for none. -/
def optional : Option String → Value
  | some s => string s
  | none => null

end Value

end Json

end SamlConformance
