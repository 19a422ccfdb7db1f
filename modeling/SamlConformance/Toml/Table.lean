import SamlConformance.Toml.Scalar

/-!
# Tables

A configuration is a table of values by name, and tables hold tables. The parts of
a table may be written in several places; what must not happen is that one part is
written twice, or that a table is added to after it was closed.

So a table remembers how it came to be: a header opens it, a longer header implies
it, a dotted key makes it, or it stands as a value and is closed. Each addition
follows a path of names from the outermost table.

## Main definitions

* `Toml.Value`, `Toml.Entries`: The values.
* `Toml.openTable?`, `Toml.openItem?`: What headers do.
* `Toml.insert?`: What a key with a value does.
-/

namespace SamlConformance

namespace Toml

/-- How a table came to be. -/
inductive Origin where
  /-- A header opened it. -/
  | opened
  /-- A longer header implies it. -/
  | implied
  /-- A dotted key made it. -/
  | dotted
  /-- It stands as a value. -/
  | inline
deriving Repr, DecidableEq

/-- The values. -/
inductive Value where
  /-- A text. -/
  | string (s : String)
  /-- A truth value. -/
  | boolean (b : Bool)
  /-- A number or a time. -/
  | scalar (kind : Scalar)
  /-- A list. -/
  | array (items : List Value)
  /-- A table. -/
  | table (origin : Origin) (entries : List (String × Value))
  /-- A list of tables, written one after another. -/
  | tables (items : List (List (String × Value)))
deriving Repr

/-- Values by name, in the order in which they were written. -/
abbrev Entries := List (String × Value)

/-- Another value for a name that is there. -/
def replaced (es : Entries) (name : String) (v : Value) : Entries :=
  es.map fun e => if e.1 = name then (name, v) else e

/-- Changes the table at the end of a path. Tables that are missing on the way are
made; of a list of tables the last one counts. -/
def change? (byDots : Bool) (f : Origin → Entries → Option Entries) :
    Origin → List String → Entries → Option Entries
  | origin, [], es => f origin es
  | _, name :: path, es =>
    match es.lookup name with
    | none =>
      let made := if byDots then Origin.dotted else .implied
      (change? byDots f made path []).map fun inner => es ++ [(name, .table made inner)]
    | some (.table .inline _) => none
    | some (.table origin inner) =>
      if byDots && origin == .opened then none
      else (change? byDots f origin path inner).map fun r => replaced es name (.table origin r)
    | some (.tables items) =>
      match items.getLast? with
      | none => none
      | some last =>
        (change? byDots f .opened path last).map fun r =>
          replaced es name (.tables (items.dropLast ++ [r]))
    | some _ => none

/-- Opens the table that a header names. -/
def openTable? (path : List String) (root : Entries) : Option Entries :=
  match path.getLast? with
  | none => none
  | some name =>
    change? false (fun _ es =>
      match es.lookup name with
      | none => some (es ++ [(name, .table .opened [])])
      | some (.table .implied inner) => some (replaced es name (.table .opened inner))
      | some _ => none) .opened path.dropLast root

/-- Opens one more table in the list that a header names. -/
def openItem? (path : List String) (root : Entries) : Option Entries :=
  match path.getLast? with
  | none => none
  | some name =>
    change? false (fun _ es =>
      match es.lookup name with
      | none => some (es ++ [(name, .tables [[]])])
      | some (.tables items) => some (replaced es name (.tables (items ++ [[]])))
      | some _ => none) .opened path.dropLast root

/-- Adds a value to a table, under a key that may be dotted. A dotted key adds to
tables that dotted keys made, and to no others. -/
def insert? (key : List String) (v : Value) (es : Entries) : Option Entries :=
  match key.getLast? with
  | none => none
  | some name =>
    change? true (fun origin es =>
      if (origin == .dotted) == key.dropLast.isEmpty then none
      else
        match es.lookup name with
        | none => some (es ++ [(name, v)])
        | some _ => none) .opened key.dropLast es

/-- Adds a value to the table that the last header opened. -/
def insertAt? (header key : List String) (v : Value) (root : Entries) : Option Entries :=
  change? false (fun _ es => insert? key v es) .opened header root

end Toml

end SamlConformance
