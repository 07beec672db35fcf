import ResourceWatch.Config.Arguments
import ResourceWatch.Config.Basic
import ResourceWatch.Json5
import ResourceWatch.Text
import ResourceWatch.Toml.Parser

/-!
Files with settings. A path is walked from directory to directory, each of which has to be there. A
file may name another one that it extends, by a path from its own directory; its settings then stand
over those of that file. A file is at fault when its text is, and when the file that it extends is
missing or at fault, as it is when files extend each other in a ring.

A configuration from all its sources: the built-in settings, one file, the environment and the
arguments, each later one over those before. The file is the first of the usual places that can be
read. A file that is at fault is passed over; it is an error only when no other file is found, or when
an argument names it. What the settings are is checked when all sources are put together.
-/

namespace ResourceWatch.Config

abbrev Place := List String

/-- Files by their places, and directories that are there without a file in them. -/
structure FileTree where
  files : List (Place × String)
  directories : List Place := []

namespace FileTree

def text? (tree : FileTree) (place : Place) : Option String := tree.files.lookup place

def hasDirectory (tree : FileTree) (place : Place) : Bool :=
  place.isEmpty || tree.directories.any (place.isPrefixOf ·) ||
    tree.files.any fun file => place.isPrefixOf file.1.dropLast

def follow? (tree : FileTree) (directory : Place) : List String → Option Place
  | [] => none
  | [name] =>
      let place := directory ++ [name]
      if (tree.text? place).isSome then some place else none
  | piece :: rest =>
      if piece.isEmpty || piece == "." then tree.follow? directory rest
      else if piece == ".." then tree.follow? directory.dropLast rest
      else if tree.hasDirectory (directory ++ [piece]) then tree.follow? (directory ++ [piece]) rest
      else none

def pieces (path : List Char) : List String :=
  (Text.splitOn (· == '/') path).map String.ofList

def find? (tree : FileTree) (directory : Place) (path : String) : Option Place :=
  match path.toList with
  | '/' :: rest => tree.follow? [] (pieces rest)
  | chars => tree.follow? directory (pieces chars)

end FileTree

def ending? (name : String) : Option (List Char) :=
  match Text.cutAtLast? '.' name.toList with
  | some ([], _) | none => none
  | some (_, ending) => some (ending.map Char.toLower)

def writtenFields? (name text : String) : Option Fields :=
  let isJson := match ending? name with
    | some ending => ending == "json".toList || ending == "json5".toList
    | none => false
  match if isJson then Json5.parse text else Toml.parse text with
  | some (.object fields) => some fields
  | _ => none

def layered (upper lower : Fields) : Fields :=
  upper.foldl (fun fields pair => Fields.insert pair.1 pair.2 fields) lower

def extensionField : String := "extends"

/-- The settings of the file at a place and of those that it extends, all of them no more than so
many; nothing when one of them is at fault. -/
def extendedFields? (tree : FileTree) : Nat → Place → Option Fields
  | 0, _ => none
  | more + 1, place => do
      let own ← writtenFields? (place.getLast?.getD "") (← tree.text? place)
      match Fields.get? own extensionField with
      | none => return own
      | some (.string path) =>
          if path.isEmpty then none
          else return layered own (← extendedFields? tree more (← tree.find? place.dropLast path))
      | some _ => none

/-- The settings of the file at a place. Files that do not extend each other in a ring are no more
than all files. -/
def fileFields? (tree : FileTree) (place : Place) : Option Fields :=
  extendedFields? tree tree.files.length place

/-- Where a configuration is looked for: files, variables of which the later of two counts, and the
working directory. -/
structure Surroundings where
  tree : FileTree
  assignments : List (String × String)
  directory : Place

def Surroundings.lookup? (around : Surroundings) (name : String) : Option String :=
  (around.assignments.reverse.lookup name).filter (!·.isEmpty)

inductive Found where
  | missing
  | faulty
  | settings (fields : Fields)

def look (around : Surroundings) (path : String) : Found :=
  match around.tree.find? around.directory path with
  | none => .missing
  | some place =>
      match fileFields? around.tree place with
      | some fields => .settings fields
      | none => .faulty

def placesIn (directory : String) : List String :=
  ["/cloudreel/cloudreel.toml", "/.cloudreel.toml", "/cloudreel/cloudreel.json",
    "/cloudreel/cloudreel.json5"].map (directory ++ ·)

def places (around : Surroundings) : List String :=
  let named (name : String) : List String := (around.lookup? name).toList
  let shared := (named "XDG_CONFIG_DIRS").flatMap fun value =>
    (Text.splitOn (· == ':') value.toList).map String.ofList
  let homes := named "HOME"
  let directories := named "XDG_CONFIG_HOME" ++ shared.filter (!·.isEmpty) ++
    homes.map (· ++ "/.config")
  named "CLOUDREEL_CONFIG_PATH" ++ directories.flatMap placesIn ++
    homes.map (· ++ "/.cloudreel.toml") ++ ["cloudreel.toml"]

/-- The settings of the first file that can be read. No file is as good as an empty one. -/
def search (around : Surroundings) (faulty : Bool) : List String → Except SettingError Fields
  | [] => if faulty then .error .unreadable else .ok []
  | path :: rest =>
      match look around path with
      | .settings fields => .ok fields
      -- A faulty file is passed over, but then some later one has to be readable.
      | .faulty => search around true rest
      | .missing => search around faulty rest

def fromFile (around : Surroundings) (given : Arguments) : Except SettingError Fields :=
  match given.configPath? with
  | some path =>
      match look around path with
      | .settings fields => .ok fields
      | _ => .error .unreadable
  | none => search around false (places around)

def builtIn : Fields :=
  Fields.ofList
    [ ("poll_interval_secs", Json.integer 60), ("wait_timeout_secs", Json.integer 1800),
      ("default_page_size", .null), ("default_order_by", .null),
      ("keep_polling_on_unknown", .boolean false) ]

def load (around : Surroundings) (arguments : List String) : Except SettingError Config :=
  match Arguments.parse arguments with
  | none => .error .unreadable
  | some given => do
      let file ← fromFile around given
      -- Each layer covers those before it, so arguments count before variables and these before files.
      let layers := [file, Environment.fields around.assignments, given.fields]
      let merged := layers.foldl (fun lower upper => layered upper lower) builtIn
      (decode (.object merged)).mapError fun _ => .unreadable

end ResourceWatch.Config
