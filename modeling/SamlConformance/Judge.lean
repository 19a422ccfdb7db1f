import SamlConformance.EnvironmentError
import SamlConformance.Report.Basic
import SamlConformance.Rule.Groups

/-!
# Judging Responses

Taking a captured response through decoding and all groups of rules.

What is found depends on the response, the request, the provider and the way of
checking, and on nothing else. Keeping it is another matter: a judgment lists the
sections that were checked and the violations that were found, and can be added
to any report. A response that could not be judged yields no judgment, so that it
leaves no trace.

A session judges one response after another into one report, and records each
violation as soon as it is found. It stands in decoding, in one of the groups of
rules, or is done; `decode` and `verify` are its two halves.

## Main definitions

* `Judge`: How responses of a provider are judged.
* `Judgment`: The sections that were checked, and what was found.
* `Judge.judge`: The judgment on a captured response.
* `Session`: A report with the step in which its latest response is.
* `Session.run`: Judges one more response, recording as it goes.
-/

namespace SamlConformance

/-- How the responses of a provider are judged. -/
structure Judge where
  /-- What is known of the provider. -/
  metadata : IdpMetadata
  /-- How signatures of redirects are checked; not at all if there is none. -/
  verifier : Option Verifier := none
  /-- Responses with an error status are passed over. -/
  lenient : Bool := false

/-- What came of judging a response. -/
structure Judgment where
  /-- The sections that were checked. -/
  sections : List Section
  /-- The violations that were found, in order. -/
  violations : List Violation
deriving Repr, DecidableEq

namespace Judgment

/-- The judgment on a response that is passed over. -/
def passedOver : Judgment := ⟨[], []⟩

/-- The judgment on a response that holds no message. -/
def ofDecodeError (e : DecodeError) : Judgment :=
  ⟨(RuleGroup.binding e.binding).sections, e.violation?.toList⟩

/-- The judgment on a message: what was found in decoding it, then what each group
of rules finds. -/
def ofReply (r : Reply) : Judgment :=
  let groups := RuleGroup.groups r.message.received.binding
  ⟨groups.flatMap RuleGroup.sections, r.message.findings ++ groups.flatMap fun g => g.run r⟩

end Judgment

/-- Adds a judgment to a report, for a worker. -/
def Report.add (r : Report) (w : Worker) (j : Judgment) : Report :=
  (r.exerciseAll j.sections).recordAll w j.violations

namespace Judge

/-- How signatures are checked: with the certificate of the provider. -/
def signatureCheck? (j : Judge) : Option SignatureCheck :=
  match j.verifier, j.metadata.certificate with
  | some verifier, some key => some ⟨verifier, key⟩
  | _, _ => none

/-- A response with this status is passed over. -/
def passesOver (j : Judge) (status : Nat) : Bool :=
  j.lenient && 400 ≤ status && status < 600

/-- The judgment on a captured response to a request. -/
def judge (j : Judge) (received : Received) (request : Request) :
    Except EnvironmentError Judgment :=
  if j.passesOver received.status then .ok .passedOver
  else
    match Message.decode j.signatureCheck? received with
    | .ok message => .ok (.ofReply ⟨message, request, j.metadata⟩)
    | .error e =>
      if e.isEnvironmental then .error (.unsupportedEncoding e.detail)
      else .ok (.ofDecodeError e)

end Judge

/-- Where a session stands. -/
inductive Progress where
  /-- No response was handled yet. -/
  | pending
  /-- A response is turned into a message. -/
  | decoding
  /-- The group of rules with this number runs. -/
  | checking (group : Nat)
  /-- The last response is handled. -/
  | done
deriving Repr, DecidableEq

/-- The progress in writing. -/
def Progress.text : Progress → String
  | pending => "pending"
  | decoding => "decoding"
  | checking group => s!"checking({group})"
  | done => "done"

/-- A series of responses judged into one report. -/
structure Session where
  /-- The report. -/
  report : Report := .empty
  /-- Where the session stands. -/
  progress : Progress := .pending

namespace Session

/-- Begins a new test of a worker. -/
def beginTest (s : Session) (w : Worker) : Session :=
  { s with report := s.report.beginTest w }

/-- Goes on to another step. -/
def moveTo (s : Session) (p : Progress) : Session :=
  { s with progress := p }

/-- Notes that sections were checked. -/
def exercise (s : Session) (ss : List Section) : Session :=
  { s with report := s.report.exerciseAll ss }

/-- Hands violations to the report, one at a time. -/
def emit (s : Session) (w : Worker) (vs : List Violation) : Session :=
  { s with report := s.report.recordAll w vs }

/-- Decodes a response. Where that fails the session is done with it. -/
def decode (s : Session) (j : Judge) (received : Received) :
    Except DecodeError Message × Session :=
  match Message.decode j.signatureCheck? received with
  | .ok m => (.ok m, s.moveTo .decoding)
  | .error e => (.error e, s.moveTo .done)

/-- Runs a group of rules: its sections count as checked, and what it finds is
recorded. -/
def check (s : Session) (w : Worker) (r : Reply) (number : Nat) (g : RuleGroup) :
    List Violation × Session :=
  let found := g.run r
  (found, ((s.moveTo (.checking number)).exercise g.sections).emit w found)

/-- Runs groups of rules in order, the first of which has the given number. -/
def checkAll (s : Session) (w : Worker) (r : Reply) (number : Nat) :
    List RuleGroup → List Violation × Session
  | [] => ([], s)
  | g :: gs =>
    let (found, s') := s.check w r number g
    let (more, s'') := checkAll s' w r (number + 1) gs
    (found ++ more, s'')

/-- Records what was found in decoding a message, then runs all groups of rules on
it. -/
def verify (s : Session) (j : Judge) (w : Worker) (m : Message) (request : Request) :
    List Violation × Session :=
  let (found, s') := (s.emit w m.findings).checkAll w ⟨m, request, j.metadata⟩ 0
    (RuleGroup.groups m.received.binding)
  (m.findings ++ found, s'.moveTo .done)

/-- Judges one more response: passes it over, or decodes and verifies it. One that
holds no message counts against the binding it arrived on, unless its encoding is
unknown, which is no fault of the provider. -/
def run (s : Session) (j : Judge) (w : Worker) (received : Received) (request : Request) :
    Except EnvironmentError (List Violation) × Session :=
  if j.passesOver received.status then (.ok [], s.moveTo .done)
  else
    match s.decode j received with
    | (.ok m, s') =>
      let (found, s'') := s'.verify j w m request
      (.ok found, s'')
    | (.error e, s') =>
      if e.isEnvironmental then (.error (.unsupportedEncoding e.detail), s')
      else
        let found := e.violation?.toList
        (.ok found, (s'.exercise (RuleGroup.binding received.binding).sections).emit w found)

end Session

end SamlConformance
