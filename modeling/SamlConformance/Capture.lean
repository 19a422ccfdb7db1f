import SamlConformance.Idp.Responder
import SamlConformance.Json.Wanted

/-!
# Captures

A capture is one recorded exchange with what is needed to judge it: the binding,
and what the request said. Captures are kept in JSON files.

Members that are not known are ignored, known ones must not be repeated. The members
of the exchange stand among the others; what is wrong with their values shows when
all has been read. An exchange alone can also be given as a list of its parts.

## Main definitions

* `Capture`: A recorded exchange.
* `Exchange.ofJson?`: Reading an exchange from JSON.
* `Capture.parse`: Reading a capture from the text of a file.
-/

namespace SamlConformance

/-- A recorded exchange. -/
structure Capture where
  /-- The name of the test. -/
  name : Option String
  /-- The binding the response arrived on. -/
  binding : Saml.Binding
  /-- The response. -/
  exchange : Exchange
  /-- The identifier of the request that was answered. -/
  requestId : String
  /-- The address the request named. -/
  acsUrl : Option String
  /-- The request carried a relay state. -/
  relayStateGiven : Bool
deriving Repr, DecidableEq

/-- An exchange while its members are read. -/
structure Exchange.Draft where
  /-- The status. -/
  status : Option Nat := none
  /-- Where to go next, if that was said. -/
  location : Option (Option String) := none
  /-- The body, if it was given. -/
  body : Option (Option String) := none

namespace Exchange

/-- Takes a member in. Members that are not known are ignored. -/
def Draft.add (d : Draft) (m : String × Json.Value) : Except Json.Problem Draft := do
  match m.1 with
  | "status" =>
    if d.status.isSome then .error (.repeated m.1)
    else return { d with status := some (← m.2.toWord) }
  | "location" =>
    if d.location.isSome then .error (.repeated m.1)
    else return { d with location := some (← m.2.toOptionalText) }
  | "body" =>
    if d.body.isSome then .error (.repeated m.1)
    else return { d with body := some (← m.2.toOptionalText) }
  | _ => return d

/-- An exchange by its members. -/
def ofMembers (ms : List (String × Json.Value)) : Except Json.Problem Exchange := do
  let d ← ms.foldlM Draft.add {}
  match d.status with
  | none => .error (.missing "status")
  | some status => return ⟨status, d.location.join, d.body.join⟩

/-- An exchange by its parts in order, of which only the status has to be there. -/
def ofParts? : List Json.Value → Option Exchange
  | [s] => ofMembers [("status", s)] |>.toOption
  | [s, l] => ofMembers [("status", s), ("location", l)] |>.toOption
  | [s, l, b] => ofMembers [("status", s), ("location", l), ("body", b)] |>.toOption
  | _ => none

/-- An exchange by its members, or by its parts. -/
def ofJson? : Json.Value → Option Exchange
  | .object ms => (ofMembers ms).toOption
  | .array vs => ofParts? vs
  | _ => none

end Exchange

namespace Capture

/-- A capture while its members are read. -/
structure Draft where
  /-- The name of the test, if it was given. -/
  name : Option (Option String) := none
  /-- The binding. -/
  binding : Option Saml.Binding := none
  /-- The identifier of the request. -/
  requestId : Option String := none
  /-- The address the request named, if it was given. -/
  acsUrl : Option (Option String) := none
  /-- The request carried a relay state. -/
  relayStateGiven : Option Bool := none
  /-- All other members, the last first. -/
  others : List (String × Json.Value) := []

/-- The bindings, by name. -/
def bindings : List (String × Saml.Binding) :=
  [Saml.Binding.redirect, .post].map fun b => (b.name, b)

/-- A binding, and what follows it. -/
def readBinding (cs : List Char) : Except Json.Fault (Option Saml.Binding × List Char) :=
  (Json.choice (bindings.map Prod.fst) cs).map fun r => (bindings.lookup r.1, r.2)

/-- Reads the value of a member whose name was read, unless it has one already. -/
def Draft.once {α : Type} (known : Option α) (name : String) (cs : List Char)
    (read : List Char → Except Json.Fault (α × List Char)) :
    Except Json.Fault (α × List Char) :=
  if known.isSome then .error (.before (.repeated name) (Json.givenUp cs))
  else (Json.pastColon cs).bind read

/-- Reads a member whose name was read. -/
def Draft.member (d : Draft) (name : String) (cs : List Char) :
    Except Json.Fault (Draft × List Char) := do
  match name with
  | "name" =>
    let (v, rest) ← once d.name name cs Json.optionalText
    return ({ d with name := some v }, rest)
  | "binding" =>
    let (v, rest) ← once (d.binding.map some) name cs readBinding
    return ({ d with binding := v }, rest)
  | "request_id" =>
    let (v, rest) ← once d.requestId name cs Json.text
    return ({ d with requestId := some v }, rest)
  | "acs_url" =>
    let (v, rest) ← once d.acsUrl name cs Json.optionalText
    return ({ d with acsUrl := some v }, rest)
  | "relay_state_given" =>
    let (v, rest) ← once d.relayStateGiven name cs Json.flag
    return ({ d with relayStateGiven := some v }, rest)
  | _ =>
    let (v, rest) ← Json.anyValue 1 (← Json.pastColon cs)
    return ({ d with others := (name, v) :: d.others }, rest)

/-- Reads members up to the closing brace, `n` at most. -/
def Draft.members : (n : Nat) → (first : Bool) → Draft → List Char →
    Except Json.Fault (Draft × List Char)
  | 0, _, _, cs => .error (.before .objectEnds cs)
  | n + 1, first, d, cs => do
    match ← Json.nextName first cs with
    | (none, rest) => return (d, rest)
    | (some name, rest) =>
      let (d, rest) ← d.member name rest
      Draft.members n false d rest

/-- The capture, if nothing is missing. -/
def Draft.capture (d : Draft) : Except Json.Problem Capture :=
  match d.binding, d.requestId with
  | none, _ => .error (.missing "binding")
  | _, none => .error (.missing "request_id")
  | some binding, some requestId =>
    (Exchange.ofMembers d.others.reverse).map fun exchange =>
      { name := d.name.join, binding, exchange, requestId, acsUrl := d.acsUrl.join,
        relayStateGiven := d.relayStateGiven.getD false }

/-- A capture in the text of a file. What is missing shows at the end of it. -/
def parse (content : String) : Except Json.Fault Capture := do
  match Json.skipBlanks content.toList with
  | [] => .error (.before .valueEnds [])
  | '\x7b' :: cs =>
    let (d, rest) ← Draft.members (cs.length + 1) true {} cs
    let c ← d.capture.mapError fun p => .before p rest
    Json.ending rest
    return c
  | cs => .error (Json.unexpected "struct Capture" cs)

end Capture

end SamlConformance
