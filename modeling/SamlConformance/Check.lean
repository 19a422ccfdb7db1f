import SamlConformance.Capture
import SamlConformance.Config.Request
import SamlConformance.Files.Basic
import SamlConformance.Files.Path
import SamlConformance.Idp.Registry
import SamlConformance.Judge
import SamlConformance.Signature.Certified

/-!
# Checking Captures

Each captured response is a test of its own. What came of it is one row: it passed,
it failed with the clauses it breaches, or it could not be judged.

The tests run one after another and share a report. Each reads its file, works out what
was requested, has the fields taken out of the response and then judges it into the report
as the tests before have left it. It can fail in any of these steps.

What this comes to can be said without the report. A row depends on one capture, the
configuration and the provider, and the report takes the judgments in order, and nothing
from a capture that could not be judged.

## Main definitions

* `Checkup`: What all tests have in common.
* `Checkup.attempt`, `Checkup.test`: One test on a report.
* `Checkup.check`: All tests on a report, one after another.
* `Checkup.examine`: The judgment on one capture.
* `Checkup.row`: What came of one capture.
* `Checkup.rows`, `Checkup.report`: All rows, and the report after them.
-/

namespace SamlConformance

/-- A file at a path, or why it cannot be read. -/
structure CaptureFile where
  /-- The path as it was given. -/
  path : String
  /-- The content. -/
  content : Except FileError String

/-- Why a capture could not be judged. -/
inductive CheckError where
  /-- The file cannot be read. -/
  | file (e : FileError)
  /-- The file at a path with a content is no capture. -/
  | notACapture (path content : String) (fault : Json.Fault)
  /-- The response cannot be judged. -/
  | environment (e : EnvironmentError)
deriving Repr, DecidableEq

/-- The wording of an error. -/
def CheckError.message : CheckError → String
  | file e => "IO error: " ++ e.message
  | notACapture path content fault =>
    "invalid capture " ++ path ++ ": " ++ fault.message content
  | environment e => e.message

/-- What came of a test. -/
inductive Verdict where
  /-- Nothing was found. -/
  | pass
  /-- Violations were found. -/
  | fail
  /-- The response could not be judged. -/
  | error
deriving Repr, DecidableEq

/-- The word for a verdict. -/
def Verdict.label : Verdict → String
  | pass => "PASS"
  | fail => "FAIL"
  | error => "ERROR"

/-- What came of one capture. -/
structure CheckRow where
  /-- The name of the test. -/
  name : String
  /-- The verdict. -/
  verdict : Verdict
  /-- The clauses that are breached, or the error. -/
  details : String
deriving Repr, DecidableEq

namespace Capture

/-- A capture without a name has that of its file. -/
def named (c : Capture) (path : String) : Capture :=
  { c with name := c.name.orElse fun _ => Path.fileStem? path }

/-- The name of the test. -/
def testName (c : Capture) : String :=
  c.name.getD "unnamed"

/-- The capture in a file. -/
def ofFile (f : CaptureFile) : Except CheckError Capture :=
  match f.content with
  | .error e => .error (.file e)
  | .ok content =>
    match parse content with
    | .ok c => .ok (c.named f.path)
    | .error fault => .error (.notACapture f.path content fault)

/-- The request that a capture answers. It names its own address for responses, or
the configuration does. -/
def request (c : Capture) (config : Config) : Except EnvironmentError Request :=
  let config := { config with acsUrl := c.acsUrl.orElse fun _ => config.acsUrl }
  (config.request c.requestId).map fun r => { r with relayStateGiven := c.relayStateGiven }

end Capture

/-- What all tests have in common. -/
structure Checkup where
  /-- The configuration. -/
  config : Config
  /-- What is known of the provider. -/
  metadata : IdpMetadata
  /-- Finds the fields in a response. -/
  responder : Responder

namespace Checkup

/-- How responses are judged: signatures with the certificate of the provider. -/
def judge (u : Checkup) : Judge :=
  { metadata := u.metadata, verifier := some certifiedVerifier, lenient := u.config.lenient }

/-- The clauses that violations breach, in order. One that follows itself is named
once. -/
def breached (vs : List Violation) : List String :=
  (vs.flatMap fun v => v.clauses.map Clause.id).eraseReps

/-- Judges the response in a file into a report, for a worker. Gives the name of the test
with the clauses that are breached, or the step that failed, and the report as it is
then. -/
def attempt (u : Checkup) (w : Worker) (r : Report) (f : CaptureFile) :
    Except CheckError (String × List String) × Report :=
  match Capture.ofFile f with
  | .error e => (.error e, r)
  | .ok c =>
    match c.request u.config with
    | .error e => (.error (.environment e), r)
    | .ok request =>
      match u.responder c.binding c.exchange c.relayStateGiven with
      | .error e => (.error (.environment e.toEnvironment), r)
      | .ok received =>
        match Session.run { report := r } u.judge w received request with
        | (.error e, s) => (.error (.environment e), s.report)
        | (.ok found, s) => (.ok (c.testName, breached found), s.report)

/-- Tests the response in a file: what came of it, and the report after the test. -/
def test (u : Checkup) (w : Worker) (r : Report) (f : CaptureFile) : CheckRow × Report :=
  match u.attempt w (r.beginTest w) f with
  | (.ok (name, []), r') => (⟨name, .pass, ""⟩, r')
  | (.ok (name, ids), r') => (⟨name, .fail, String.intercalate ", " ids⟩, r')
  | (.error e, r') => (⟨f.path, .error, e.message⟩, r')

/-- Tests the responses in files, one after another on the same report. -/
def check (u : Checkup) (w : Worker) (r : Report) :
    List CaptureFile → List CheckRow × Report
  | [] => ([], r)
  | f :: fs =>
    let (row, r') := u.test w r f
    let (rows, r'') := check u w r' fs
    (row :: rows, r'')

/-- The judgment on a capture. -/
def judgment (u : Checkup) (c : Capture) : Except EnvironmentError Judgment := do
  let request ← c.request u.config
  match u.responder c.binding c.exchange c.relayStateGiven with
  | .ok received => u.judge.judge received request
  | .error e => .error e.toEnvironment

/-- The name of the test in a file, and the judgment. -/
def examine (u : Checkup) (f : CaptureFile) : Except CheckError (String × Judgment) := do
  let c ← Capture.ofFile f
  match u.judgment c with
  | .ok j => .ok (c.testName, j)
  | .error e => .error (.environment e)

/-- What came of a file. -/
def row (u : Checkup) (f : CaptureFile) : CheckRow :=
  match u.examine f with
  | .ok (name, j) =>
    if j.violations.isEmpty then ⟨name, .pass, ""⟩
    else ⟨name, .fail, String.intercalate ", " (breached j.violations)⟩
  | .error e => ⟨f.path, .error, e.message⟩

/-- What came of each file. -/
def rows (u : Checkup) (fs : List CaptureFile) : List CheckRow :=
  fs.map u.row

/-- The report after one more test. -/
def recordTest (u : Checkup) (w : Worker) (r : Report) (f : CaptureFile) : Report :=
  match u.examine f with
  | .ok (_, j) => (r.beginTest w).add w j
  | .error _ => r.beginTest w

/-- The report after all tests. -/
def report (u : Checkup) (w : Worker) (r : Report) (fs : List CaptureFile) : Report :=
  fs.foldl (u.recordTest w) r

end Checkup

/-- The checkup that a configuration asks for, with the responder it names. -/
def Config.checkup (config : Config) (metadata : IdpMetadata) :
    Except ProviderError Checkup :=
  (Registry.builtin.resolve (some config.responder)).map fun responder =>
    { config, metadata, responder }

end SamlConformance
