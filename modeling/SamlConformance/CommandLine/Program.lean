import SamlConformance.CommandLine.Listing
import SamlConformance.Config.Printer
import SamlConformance.Config.Reader
import SamlConformance.Report.Render

/-!
# The Program

What the toolkit does when it is called: it reads the command line, loads the
configuration and follows the command. All it has to do with its surroundings goes
through a `Host`; what it prints is collected in the `Ending`.

## Main definitions

* `Ending`: What is printed, and what went wrong.
* `Config.load`: The configuration from file, environment and switches.
* `Program.run`: The program.
-/

namespace SamlConformance

/-- What went wrong. -/
inductive Failure where
  /-- The configuration cannot be loaded. -/
  | configuration (e : EnvironmentError)
  /-- The toolkit cannot do what is asked. -/
  | environment (e : EnvironmentError)
  /-- The report cannot be written. -/
  | report (e : FileError)
  /-- Some tests did not pass. -/
  | tests (failed total : Nat)
deriving Repr, DecidableEq

/-- The wording of a failure. -/
def Failure.message : Failure → String
  | configuration e => "Failed to load configuration: " ++ e.message
  | environment e => e.message
  | report e => "IO error: " ++ e.message
  | tests failed total => s!"{failed} of {total} tests failed"

/-- How a call of the program ends. -/
structure Ending where
  /-- What is printed. -/
  output : String := ""
  /-- What went wrong, if anything did. -/
  failure : Option Failure := none
deriving Repr, DecidableEq

/-- The exit code. -/
def Ending.exitCode (e : Ending) : Nat :=
  if e.failure.isSome then 1 else 0

/-- A call that ends because something went wrong. -/
def Ending.failed (f : Failure) : Ending :=
  { failure := some f }

section Loading

variable {m : Type → Type} [Monad m]

namespace Config

/-- The name of configuration files. -/
def fileName : String := "ctk.toml"

/-- The variable that names a configuration file. -/
def pathVariable : String := "CTK_CONFIG"

/-- The configuration in a file. -/
def ofFile (host : Host m) (path : String) : m (Except EnvironmentError Config) := do
  match ← host.read path with
  | .error e => return .error (.io e.message)
  | .ok content =>
    match parse content with
    | .ok c => return .ok c
    | .error e => return .error (.config (path ++ ": " ++ e.message))

/-- The path of a configuration file that nobody named: one in the working
directory, or else one at home. -/
def discover (host : Host m) : m (Option String) := do
  if ← host.holds fileName then return some fileName
  else
    match ← host.home? with
    | none => return none
    | some home =>
      let path := Path.join (Path.join home ".ctk") fileName
      return if ← host.holds path then some path else none

/-- The values of the variables that override settings. -/
def environment (host : Host m) : m (List (String × String)) := do
  let values ← variableNames.mapM fun name => do
    return (← host.variableNamed? name).map fun value => (name, value)
  return values.filterMap id

/-- The settings after a switch of the command line. -/
def switched (c : Config) : CommandLine.Switch → Config
  | .debug => { c with logLevel := "debug" }
  | .quiet => { c with quiet := true }
  | .lenient => { c with lenient := true }

/-- The configuration from a file, which need not be named, the variables of the
environment and the switches of the command line. -/
def load (host : Host m) (named : Option String) (switches : List CommandLine.Switch) :
    m (Except EnvironmentError Config) := do
  let path ← match named with
    | some path => pure (some path)
    | none => discover host
  let base ← match path with
    | some path => ofFile host path
    | none => pure (.ok {})
  match base with
  | .error e => return .error e
  | .ok c =>
    let values ← environment host
    return .ok (switches.foldl switched (c.overridden fun name => values.lookup name))

end Config

end Loading

namespace Program

variable {m : Type → Type} [Monad m]

/-- Lists clauses. -/
def codes (document : Option String) (format : CommandLine.Format) : Ending :=
  match document with
  | none => { output := (Listing.ofClauses (Listing.clauses none)).text format }
  | some name =>
    match Document.ofName? name with
    | some d => { output := (Listing.ofClauses (Listing.clauses (some d))).text format }
    | none =>
      let known := String.intercalate ", " (Document.all.map Document.name)
      .failed (.environment (.config s!"unknown document {name}, expected one of {known}"))

/-- Shows the configuration. -/
def showConfig (config : Config) : CommandLine.Format → Ending
  | .table => { output := config.toToml }
  | .json => { output := config.toJson.pretty ++ "\n" }

/-- The checkup that a configuration asks for, with the metadata in its file. -/
def checkup (host : Host m) (config : Config) : m (Except EnvironmentError Checkup) := do
  match config.requiredMetadataPath with
  | .error e => return .error e
  | .ok path =>
    match ← host.read path with
    | .error e => return .error (.io e.message)
    | .ok content =>
      match (IdpMetadata.ofXml content).bind config.checkup with
      | .ok u => return .ok u
      | .error e => return .error e.toEnvironment

/-- How a checkup ends whose report is written. -/
def checked (rows : List CheckRow) (reportPath : String) (format : CommandLine.Format) :
    Ending :=
  let listing := (Listing.ofRows rows).text format
  let failed := (rows.filter fun r => r.verdict != .pass).length
  let total := rows.length
  if 0 < failed then { output := listing, failure := some (.tests failed total) }
  else { output := listing ++ s!"✓ {total} tests passed, report written to {reportPath}\n" }

/-- Checks captures and writes the report. -/
def check (host : Host m) (config : Config) (captures : List String) (report : Option String)
    (format : CommandLine.Format) : m Ending := do
  match ← checkup host config with
  | .error e => return .failed (.environment e)
  | .ok u =>
    let files ← captures.mapM fun path => do
      return { path, content := ← host.read path : CaptureFile }
    let path := report.getD config.reportPath
    let (rows, results) := u.check 0 .empty files
    match ← host.write path (results.render config.quiet) with
    | .error e => return .failed (.report e)
    | .ok () => return checked rows path format

/-- Follows a command. -/
def follow (host : Host m) (config : Config) (format : CommandLine.Format) :
    Command → m Ending
  | .check captures report => check host config captures report format
  | .codes document => pure (codes document format)
  | .showConfig => pure (showConfig config format)

/-- The program, called with arguments. -/
def run (host : Host m) (arguments : List String) :
    m (Except CommandLine.UsageError Ending) := do
  match Invocation.ofArguments (← host.variableNamed? Config.pathVariable) arguments with
  | .error e => return .error e
  | .ok call =>
    match ← Config.load host call.config call.switches with
    | .error e => return .ok (.failed (.configuration e))
    | .ok config => return .ok (← follow host config call.format call.command)

end Program

end SamlConformance
