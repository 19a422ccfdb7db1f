/-!
# Options

The commands, and the options that may stand with them. Options that say how the
toolkit works are taken before and after the name of a command, others only with
the one command they belong to.

## Main definitions

* `Level`: A command, as far as it is named.
* `Switch`, `Setting`: Options without and with a value.
* `Mark`: What an option on the command line means.
* `UsageError`: Why a command line cannot be followed.
-/

namespace SamlConformance

namespace CommandLine

/-- A command, as far as it is named. -/
inductive Level where
  /-- No command yet. -/
  | top
  /-- Checking captures. -/
  | check
  /-- Listing clauses. -/
  | codes
  /-- The configuration, with a command of its own to follow. -/
  | config
  /-- Showing the configuration. -/
  | showConfig
  /-- Help on the commands that follow. -/
  | help
deriving Repr, DecidableEq

/-- The commands that may be named next. -/
def Level.commands : Level → List (String × Level)
  | .top => [("check", .check), ("codes", .codes), ("config", .config), ("help", .help)]
  | .config => [("show", .showConfig), ("help", .help)]
  | _ => []

/-- The command of a name. -/
def Level.command? (l : Level) (name : String) : Option Level :=
  l.commands.lookup name

/-- An option without a value. -/
inductive Switch where
  /-- Log everything. -/
  | debug
  /-- The report lists no violations. -/
  | quiet
  /-- Responses with an error status are passed over. -/
  | lenient
deriving Repr, DecidableEq

/-- An option with a value. -/
inductive Setting where
  /-- The path of the configuration. -/
  | config
  /-- The format of the output. -/
  | output
  /-- The path of the report. -/
  | report
  /-- The document whose clauses are listed. -/
  | document
deriving Repr, DecidableEq

/-- What an option on the command line means. -/
inductive Mark where
  /-- A switch. -/
  | switch (s : Switch)
  /-- A setting, whose value follows. -/
  | setting (s : Setting)
  /-- Help is asked for. -/
  | help
  /-- The version is asked for. -/
  | version
deriving Repr, DecidableEq

/-- The option of a long name. -/
def Level.long? (l : Level) (name : String) : Option Mark :=
  match name with
  | "config" => some (.setting .config)
  | "debug" => some (.switch .debug)
  | "quiet" => some (.switch .quiet)
  | "lenient" => some (.switch .lenient)
  | "output" => some (.setting .output)
  | "help" => some .help
  | "version" => some .version
  | "report" => if l = .check then some (.setting .report) else none
  | "document" => if l = .codes then some (.setting .document) else none
  | _ => none

/-- The option of a letter. -/
def short? (letter : Char) : Option Mark :=
  match letter with
  | 'c' => some (.setting .config)
  | 'q' => some (.switch .quiet)
  | 'l' => some (.switch .lenient)
  | 'o' => some (.setting .output)
  | 'h' => some .help
  | 'V' => some .version
  | _ => none

/-- Why a command line cannot be followed. -/
inductive UsageError where
  /-- Help is asked for. -/
  | helpAsked
  /-- The version is asked for. -/
  | versionAsked
  /-- Nothing is given where a command is needed. -/
  | nothingGiven
  /-- Options are given, but no command. -/
  | commandMissing
  /-- There is no such command. -/
  | commandUnknown
  /-- There is no such option, or no place for another argument. -/
  | argumentUnknown
  /-- A value is missing, empty or not among those allowed. -/
  | valueUnusable
  /-- An option has a value that takes none. -/
  | valueUnexpected
  /-- An option is given twice. -/
  | argumentRepeated
  /-- An argument is missing that a command needs. -/
  | argumentMissing
deriving Repr, DecidableEq

/-- Asking for help or the version is no failure. -/
def UsageError.exitCode : UsageError → Nat
  | helpAsked => 0
  | versionAsked => 0
  | _ => 2

end CommandLine

end SamlConformance
