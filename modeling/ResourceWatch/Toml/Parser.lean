import ResourceWatch.Json.Basic
import ResourceWatch.Toml.Scalar

/-!
The tables of a configuration file while it is read. A table can be opened by its own heading once,
can come about on the way to another one, or can be written by keys with points; a table may be
extended only in the way in which it came about, and no value is ever replaced.

Values and whole configuration files. Lists may stretch over several lines, tables in braces stay on
one. A file is a sequence of lines, each with a heading, a key with its value, or neither.
-/

namespace ResourceWatch.Toml

inductive Origin where
  | heading
  | passage
  | points
  deriving DecidableEq, Repr

/-- What stands under a name: a value, a table, or a list of tables with the latest in front. -/
inductive Node where
  | value (content : Json)
  | table (origin : Origin) (entries : List (String × Node))
  | tables (items : List (List (String × Node)))

abbrev Entries := List (String × Node)

namespace Entries

def get? (entries : Entries) (name : String) : Option Node := entries.lookup name

def put (entries : Entries) (name : String) (node : Node) : Entries :=
  (name, node) :: entries.filter (·.1 != name)

abbrev Change := Origin → Entries → Option (Origin × Entries)

/-- Changes the table at a path, whose missing tables come about. A path of points passes no table
that a heading opened; a path of a heading passes the latest of a list of tables. -/
def update (points : Bool) (change : Change) : List String → Change
  | [], origin, entries => change origin entries
  | name :: rest, origin, entries =>
      match entries.get? name with
      | none => do
          let (inner, below) ←
            update points change rest (if points then .points else .passage) []
          return (origin, entries.put name (.table inner below))
      | some (.table inner below) =>
          if points && inner == .heading then none
          else do
            let (inner, below) ← update points change rest inner below
            return (origin, entries.put name (.table inner below))
      | some (.tables (latest :: before)) => do
          let (_, below) ← update points change rest .heading latest
          return (origin, entries.put name (.tables (below :: before)))
      | some (.tables []) | some (.value _) => none

def openTable (name : String) : Change := fun origin entries =>
  match entries.get? name with
  | none => some (origin, entries.put name (.table .heading []))
  | some (.table .passage below) => some (origin, entries.put name (.table .heading below))
  | some _ => none

def openItem (name : String) : Change := fun origin entries =>
  match entries.get? name with
  | none => some (origin, entries.put name (.tables [[]]))
  | some (.tables items) => some (origin, entries.put name (.tables ([] :: items)))
  | some _ => none

def addValue (key : List String) (content : Json) : Change := fun origin entries =>
  match key.getLast? with
  | none => none
  | some name =>
      let path := key.dropLast
      update true (fun inner below =>
        if (inner == .points) == path.isEmpty then none
        else match below.get? name with
          | none => some (inner, below.put name (.value content))
          | some _ => none) path origin entries

end Entries

mutual

def Node.toJson : Node → Json
  | .value content => content
  | .table _ entries => .object (fieldsOf entries)
  | .tables items => .array (itemsOf items)

def fieldsOf : List (String × Node) → Fields
  | [] => []
  | (name, node) :: rest => Fields.insert name node.toJson (fieldsOf rest)

def itemsOf : List (List (String × Node)) → List Json
  | [] => []
  | entries :: rest => itemsOf rest ++ [.object (fieldsOf entries)]

end

open Text (Reader)

namespace Reader

open Text.Reader

def scalar : Reader Json := do
  match ← peek with
  | some '"' | some '\'' => return .string (← string)
  | _ => Scalar.read

def items (item : Reader Json) : Nat → Reader (List Json)
  | 0 => fun _ => none
  | more + 1 => do
      space
      if ← accept ']' then return []
      else
        let head ← item
        space
        if ← accept ',' then return head :: (← items item more)
        else
          expect ']'
          return [head]

def pair (value : Reader Json) : Reader (List String × Json) := do
  let name ← key
  expect '='
  blanks
  return (name, ← value)

def added (path : List String) (pair : List String × Json) (entries : Entries) :
    Reader Entries :=
  fun chars =>
    (Entries.update false (Entries.addValue pair.1 pair.2) path .heading entries).map
      fun changed => (changed.2, chars)

def pairs (value : Reader Json) : Nat → Entries → Reader Entries
  | 0, _ => fun _ => none
  | more + 1, entries => do
      let entries ← added [] (← pair value) entries
      blanks
      if ← accept ',' then pairs value more entries
      else
        expect '\x7d'
        return entries

def value (limit : Nat) : Nat → Reader Json
  | 0 => scalar
  | below + 1 => do
      match ← peek with
      | some '[' => do
          expect '['
          return .array (← items (value limit below) limit)
      | some '\x7b' => do
          expect '\x7b'
          blanks
          if ← accept '\x7d' then return .object []
          else return .object (fieldsOf (← pairs (value limit below) limit []))
      | _ => scalar

def headed (path : List String) (change : String → Entries.Change) (entries : Entries) :
    Reader Entries :=
  fun chars => do
    let changed ← Entries.update false (change (← path.getLast?)) path.dropLast .heading entries
    return (changed.2, chars)

/-- One line: the path of the table at hand and the tables afterwards. -/
def line (limit : Nat) (path : List String) (entries : Entries) : Reader (List String × Entries) := do
  blanks
  let result ← show Reader (List String × Entries) from do
    match ← peek with
    | some '[' => do
        expect '['
        if ← accept '[' then
          let name ← key
          expect ']'
          expect ']'
          return (name, ← headed name Entries.openItem entries)
        else
          let name ← key
          expect ']'
          return (name, ← headed name Entries.openTable entries)
    | some char =>
        if char == '#' || char == '\n' || char == '\r' then return (path, entries)
        else return (path, ← added path (← pair (value limit levelLimit)) entries)
    | none => return (path, entries)
  blanks
  comment
  lineEnd
  return result

def lines (limit : Nat) : Nat → List String → Entries → Reader Entries
  | 0, _, _ => fun _ => none
  | more + 1, path, entries => do
      let (path, entries) ← line limit path entries
      if (← peek).isNone then return entries else lines limit more path entries

end Reader

def parse (text : String) : Option Json :=
  let chars := match text.toList with
    | '\uFEFF' :: rest => rest
    | all => all
  let limit := chars.length + 1
  ((Reader.lines limit limit [] []).run chars).map fun result =>
    .object (fieldsOf result.1)

end ResourceWatch.Toml
