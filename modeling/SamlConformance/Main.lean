import SamlConformance.CommandLine.Program
import SamlConformance.CommandLine.Usage

/-!
# The Command

The program on a real disk: files and variables are those of the process, output
goes to standard output, and what went wrong to standard error.
-/

namespace SamlConformance

/-- The cause of an error of the system. -/
def FileError.ofSystem : IO.Error → FileError
  | .noFileOrDirectory .. => .notFound
  | .inappropriateType _ code _ => if code = 20 then .notADirectory else .isADirectory
  | e => .other (toString e)

/-- An action with its errors as causes. -/
def attempt {α : Type} (action : IO α) : IO (Except FileError α) := do
  try return .ok (← action)
  catch e => return .error (.ofSystem e)

/-- The text in the bytes of a file. -/
def FileError.textOf : Except FileError ByteArray → Except FileError String
  | .ok bytes =>
    match String.fromUTF8? bytes with
    | some s => .ok s
    | none => .error .notText
  | .error e => .error e

/-- The process as surroundings of the program. -/
def processHost : Host IO where
  read path := do return FileError.textOf (← attempt (IO.FS.readBinFile path))
  write path content := attempt (IO.FS.writeFile path content)
  holds path := do
    match ← attempt (IO.FS.Handle.mk path .read) with
    | .error .notFound => return false
    | .error .notADirectory => return false
    | _ => return true
  variableNamed? name := IO.getEnv name
  home? := do return (← IO.getEnv "HOME").filter fun home => !home.isEmpty

/-- Runs the program and gives its exit code. -/
def runProcess (arguments : List String) : IO UInt32 := do
  match ← Program.run processHost arguments with
  | .error e =>
    if e.exitCode = 0 then IO.print e.message else IO.eprint e.message
    return e.exitCode.toUInt32
  | .ok ending =>
    IO.print ending.output
    match ending.failure with
    | some f => IO.eprintln ("✗ " ++ f.message)
    | none => pure ()
    return ending.exitCode.toUInt32

end SamlConformance

/-- The program of this project. -/
def main (arguments : List String) : IO UInt32 :=
  SamlConformance.runProcess arguments
