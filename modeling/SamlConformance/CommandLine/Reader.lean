import SamlConformance.CommandLine.Option

/-!
# Reading a Command Line

A command line is read from left to right. An argument is the name of a command,
one or several options, the value of the option before it, or a path; after a
lone pair of hyphens it can only be a path.

Faults show in the order in which arguments are understood, and that is not
always the order in which they stand: a value that is an argument of its own is
only looked at when the next argument has been taken, and the arguments of an
outer command after those of the inner one.

## Main definitions

* `Given`: The arguments that belong to one command.
* `Progress`: The arguments taken so far, and what is still open.
* `take`: Takes one more argument.
* `read`: The arguments by command.
* `Invocation.ofArguments`: What a command line asks for.
-/

namespace SamlConformance

namespace CommandLine

/-- The arguments that belong to one command. -/
structure Given where
  /-- The switches. -/
  switches : List Switch := []
  /-- The settings with their values. -/
  settings : List (Setting × String) := []
  /-- The paths of captures. -/
  captures : List String := []
deriving Repr, DecidableEq

/-- What is not yet settled. -/
inductive Open where
  /-- Nothing. -/
  | nothing
  /-- A setting that waits for its value. -/
  | waiting (s : Setting)
  /-- A setting with its value. -/
  | value (s : Setting) (v : String)
  /-- Paths, to which more may come. -/
  | paths (ps : List String)
deriving Repr, DecidableEq

/-- The arguments taken so far. -/
structure Progress where
  /-- What is settled. -/
  given : Given := {}
  /-- What is not. -/
  rest : Open := .nothing
  /-- Only paths can follow. -/
  escaped : Bool := false
deriving Repr, DecidableEq

/-- The formats of the output. -/
inductive Format where
  /-- A table. -/
  | table
  /-- A JSON value. -/
  | json
deriving Repr, DecidableEq

/-- The format of a name. -/
def Format.ofName? : String → Option Format
  | "table" => some .table
  | "json" => some .json
  | _ => none

/-- A value that a setting can have. Paths are not empty. -/
def Setting.admits : Setting → String → Bool
  | .output, v => (Format.ofName? v).isSome
  | .document, _ => true
  | .config, v => !v.isEmpty
  | .report, v => !v.isEmpty

namespace Given

/-- The value of a setting. -/
def value? (g : Given) (s : Setting) : Option String :=
  g.settings.lookup s

/-- One more switch, which must not be on already. -/
def turnOn (g : Given) (s : Switch) : Except UsageError Given :=
  if g.switches.contains s then .error .argumentRepeated
  else .ok { g with switches := g.switches ++ [s] }

/-- One more setting, which must not have a value already. -/
def choose (g : Given) (s : Setting) (v : String) : Except UsageError Given :=
  if (g.value? s).isSome then .error .argumentRepeated
  else if s.admits v then .ok { g with settings := g.settings ++ [(s, v)] }
  else .error .valueUnusable

/-- Nothing is given that says how the toolkit works. -/
def isEmpty (g : Given) : Bool :=
  g.switches.isEmpty && g.settings.isEmpty

end Given

namespace Progress

/-- Settles what is open. -/
def settled (p : Progress) : Except UsageError Progress :=
  match p.rest with
  | .nothing => .ok p
  | .waiting _ => .error .valueUnusable
  | .value s v => do return { p with given := ← p.given.choose s v, rest := .nothing }
  | .paths ps =>
    if ps.any String.isEmpty then .error .valueUnusable
    else
      let captures := p.given.captures ++ ps
      .ok { p with given := { p.given with captures }, rest := .nothing }

/-- Takes a switch, or a request that ends the reading. -/
def takeSwitch (p : Progress) (m : Mark) : Except UsageError Progress := do
  let p ← p.settled
  match m with
  | .switch s => return { p with given := ← p.given.turnOn s }
  | .help => .error .helpAsked
  | .version => .error .versionAsked
  | .setting s => return { p with rest := .waiting s }

/-- Takes a setting with its value attached. -/
def takeAttached (p : Progress) (s : Setting) (v : String) : Except UsageError Progress := do
  let p ← p.settled
  return { p with given := ← p.given.choose s v }

/-- Takes an option by its long name, with a value attached or none. -/
def takeLong (p : Progress) (l : Level) (name : String) (attached : Option String) :
    Except UsageError Progress :=
  match l.long? name, attached with
  | none, _ => .error .argumentUnknown
  | some (.setting s), some v => p.takeAttached s v
  | some _, some _ => .error .valueUnexpected
  | some m, none => p.takeSwitch m

/-- A value behind a letter, in front of which an equals sign may stand. -/
def attachedValue : List Char → String
  | '=' :: v => String.ofList v
  | v => String.ofList v

/-- Takes options by their letters. Behind the letter of a setting comes its
value. -/
def takeLetters (p : Progress) : List Char → Except UsageError Progress
  | [] => .ok p
  | c :: cs =>
    match short? c with
    | none => .error .argumentUnknown
    | some (.setting s) =>
      if cs.isEmpty then p.takeSwitch (.setting s) else p.takeAttached s (attachedValue cs)
    | some m => do (← p.takeSwitch m).takeLetters cs

/-- Takes a path. -/
def takePath (p : Progress) (path : String) : Except UsageError Progress :=
  match p.rest with
  | .paths ps => .ok { p with rest := .paths (ps ++ [path]) }
  | _ => do return { (← p.settled) with rest := .paths [path] }

/-- Whether the next argument can be the name of a command. -/
def expectsCommand (p : Progress) : Bool :=
  match p.rest with
  | .waiting _ => false
  | .paths _ => false
  | _ => !p.escaped

end Progress

/-- Takes an argument that is neither an option nor a value. -/
def takePlain (l : Level) (p : Progress) (argument : String) : Except UsageError Progress :=
  if l = .check then p.takePath argument
  else if p.escaped && (l.command? argument).isSome then .error .argumentUnknown
  else if l.commands.isEmpty then .error .argumentUnknown
  else .error .commandUnknown

/-- Takes one more argument that is not the name of a command. -/
def take (l : Level) (p : Progress) (argument : String) : Except UsageError Progress :=
  if p.escaped then takePlain l p argument
  else
    match argument.toList, p.rest with
    | ['-', '-'], _ => .ok { p with escaped := true }
    | '-' :: '-' :: cs, _ =>
      let name := String.ofList (cs.takeWhile (· != '='))
      match cs.dropWhile (· != '=') with
      | _ :: v => p.takeLong l name (some (String.ofList v))
      | [] => p.takeLong l name none
    | '-' :: c :: cs, _ => p.takeLetters (c :: cs)
    | _, .waiting s => .ok { p with rest := .value s argument }
    | _, _ => takePlain l p argument

/-- What a level is given once all of its arguments are there. The path of the
configuration may come from the environment, and has to be usable then. -/
def finish (l : Level) (fromEnvironment : Option String) (hasCommand : Bool) (p : Progress) :
    Except UsageError Given := do
  let g := (← p.settled).given
  let fallback := if (g.value? .config).isSome then none else fromEnvironment
  if fallback.any fun path => !Setting.config.admits path then .error .valueUnusable
  else if hasCommand then return g
  else if !l.commands.isEmpty then
    .error (if g.isEmpty && fallback.isNone then .nothingGiven else .commandMissing)
  else if l = .check ∧ g.captures.isEmpty then .error .argumentMissing
  else return g

/-- What comes of asking for help on commands by their names. -/
def helpOn (l : Level) : List String → UsageError
  | [] => .helpAsked
  | name :: names =>
    match l.command? name with
    | some inner => helpOn inner names
    | none => .commandUnknown

/-- The arguments by command, the outermost first. -/
def read (fromEnvironment : Option String) :
    Level → Progress → List String → Except UsageError (List (Level × Given))
  | l, p, [] => do return [(l, ← finish l fromEnvironment false p)]
  | l, p, argument :: arguments =>
    match if p.expectsCommand then l.command? argument else none with
    | some .help => .error (helpOn l arguments)
    | some inner => do
      let more ← read fromEnvironment inner {} arguments
      return (l, ← finish l fromEnvironment true p) :: more
    | none =>
      match take l p argument with
      | .ok p => read fromEnvironment l p arguments
      | .error e => .error e

end CommandLine

/-- What the toolkit is asked to do. -/
inductive Command where
  /-- Check captures, and write the report to a path if one is named. -/
  | check (captures : List String) (report : Option String)
  /-- List the clauses, of one document if one is named. -/
  | codes (document : Option String)
  /-- Show the configuration. -/
  | showConfig
deriving Repr, DecidableEq

/-- What a command line asks for. -/
structure Invocation where
  /-- The path of the configuration. -/
  config : Option String
  /-- The switches. -/
  switches : List CommandLine.Switch
  /-- The format of the output. -/
  format : CommandLine.Format
  /-- The command. -/
  command : Command
deriving Repr, DecidableEq

namespace Invocation

open CommandLine

/-- The innermost value of a setting. -/
def setting? (levels : List (Level × Given)) (s : Setting) : Option String :=
  levels.reverse.findSome? fun l => l.2.value? s

/-- The command that the arguments of a level describe. -/
def command? (l : Level) (g : Given) : Option Command :=
  match l with
  | .check => some (.check g.captures (g.value? .report))
  | .codes => some (.codes (g.value? .document))
  | .showConfig => some .showConfig
  | _ => none

/-- What a command line asks for. The path of the configuration may come from the
environment. -/
def ofArguments (fromEnvironment : Option String) (arguments : List String) :
    Except UsageError Invocation := do
  let levels ← read fromEnvironment .top {} arguments
  match levels.getLast?.bind fun l => command? l.1 l.2 with
  | none => .error .commandMissing
  | some command =>
    return {
      config := (setting? levels .config).orElse fun _ => fromEnvironment
      switches := levels.flatMap fun l => l.2.switches
      format := ((setting? levels .output).bind Format.ofName?).getD .table
      command }

end Invocation

end SamlConformance
