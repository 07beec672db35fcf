import ResourceWatch.Json.Basic
import ResourceWatch.Json.Reader

/-!
The shapes that values are decoded into: scalars, and records whose columns are scalars. A record
is written as an object, whose other fields are ignored, or as an array of its columns in order.
Decoding gives the row of the columns' contents. The same shapes are read from text directly by
the readers beside this module.

Scalars and records from text, without building a value in between. A fault is found as soon as its
place is reached, so it can come before a later error of syntax; a fault of a whole record gets the
place behind it.
-/

namespace ResourceWatch.Json

inductive Scalar where
  | unsigned (bits : Nat)
  | signed (bits : Nat)
  | text
  | boolean
  deriving DecidableEq, Repr

inductive Datum where
  | integer (value : Int)
  | text (value : String)
  | boolean (value : Bool)
  deriving DecidableEq, Repr

/-- A column of a record. An optional one may be `null`, and may be left out of an object; one with
a fallback may be left out of either form. -/
structure Column where
  name : String
  scalar : Scalar
  optional : Bool
  fallback : Option Datum := none

structure Record where
  name : String
  columns : List Column

abbrev Row := List (Option Datum)

namespace Scalar

def expected : Scalar → String
  | .unsigned bits => s!"u{bits}"
  | .signed bits => s!"i{bits}"
  | .text => "a string"
  | .boolean => "a boolean"

def least : Scalar → Int
  | .signed bits => -Int.ofNat (Nat.pow 2 (bits - 1))
  | _ => 0

def greatest : Scalar → Int
  | .signed bits => Int.ofNat (Nat.pow 2 (bits - 1)) - 1
  | .unsigned bits => Int.ofNat (Nat.pow 2 bits) - 1
  | _ => 0

def ofNumber (scalar : Scalar) : Number → Except Fault Datum
  | .integer value =>
      if scalar.least ≤ value ∧ value ≤ scalar.greatest then .ok (.integer value)
      else .error (.invalidValue (.number (.integer value)) scalar.expected)
  | .double value => .error (.invalidType (.number (.double value)) scalar.expected)

def decode (scalar : Scalar) (value : Json) : Except Fault Datum :=
  match scalar, value with
  | .text, .string content => .ok (.text content)
  | .boolean, .boolean content => .ok (.boolean content)
  | .unsigned bits, .number content => ofNumber (.unsigned bits) content
  | .signed bits, .number content => ofNumber (.signed bits) content
  | _, _ => .error (.invalidType value.found scalar.expected)

end Scalar

namespace Column

def decode (column : Column) (value : Json) : Except Fault (Option Datum) :=
  match column.optional, value with
  | true, .null => .ok none
  | _, _ => (column.scalar.decode value).map some

def absent (column : Column) : Except Fault (Option Datum) :=
  match column.fallback, column.optional with
  | some datum, _ => .ok (some datum)
  | none, true => .ok none
  | none, false => .error (.missingField column.name)

end Column

namespace Record

def expected (record : Record) : String := "struct " ++ record.name

def expectedElements (record : Record) : String :=
  s!"struct {record.name} with {record.columns.length} elements"

def fill (columns : List Column) : Fields → Except Fault (List (String × Option Datum))
  | [] => .ok []
  | (name, value) :: rest =>
      match columns.find? (·.name == name) with
      | some column => do
          let datum ← column.decode value
          return (name, datum) :: (← fill columns rest)
      | none => fill columns rest

def complete (columns : List Column) (filled : List (String × Option Datum)) :
    Except Fault Row :=
  columns.mapM fun column =>
    match filled.find? (·.1 == column.name) with
    | some (_, datum) => .ok datum
    | none => column.absent

def fillInOrder (record : Record) : Nat → List Column → List Json →
    Except Fault (Row × List Json)
  | _, [], rest => .ok ([], rest)
  | position, column :: columns, [] =>
      match column.fallback with
      | some datum => do
          let (row, rest) ← fillInOrder record (position + 1) columns []
          return (some datum :: row, rest)
      | none => .error (.invalidLength position record.expectedElements)
  | position, column :: columns, item :: items => do
      let datum ← column.decode item
      let (row, rest) ← fillInOrder record (position + 1) columns items
      return (datum :: row, rest)

def decode (record : Record) (value : Json) : Except Fault Row :=
  match value with
  | .object fields => do
      let filled ← fill record.columns fields
      complete record.columns filled
  | .array items => do
      let (row, rest) ← record.fillInOrder 0 record.columns items
      if rest.isEmpty then return row
      else .error (.invalidLength items.length "fewer elements in array")
  | other => .error (.invalidType other.found record.expected)

end Record

namespace Reader

inductive Frame where
  | list
  | object
  deriving DecidableEq

def skipName : Reader Unit := do
  match ← token with
  | none => failPeek .endInObject
  | some octet =>
      if octet == 0x22 then do
        skip
        skipString ((← get).left + 1)
        colon
      else failPeek .keyNotString

/-- After an item of a value that is passed over: closes frames until a comma asks for another item
or no frame is left. Nothing may follow an opening bracket but an item or its closing bracket. -/
def closeFrames : Nat → Bool → List Frame → Reader (List Frame)
  | 0, _, _ => failPeek .endInList
  | _, _, [] => pure []
  | more + 1, complete, frame :: outer => do
      match ← token with
      | none =>
          failPeek (match frame with | .list => .endInList | .object => .endInObject)
      | some octet =>
          if octet == 0x2C && complete then do
            skip
            return frame :: outer
          else if (octet == 0x5D && frame == .list) || (octet == 0x7D && frame == .object) then do
            skip
            closeFrames more true outer
          else if complete then
            failPeek (match frame with
              | .list => .listCommaOrEndExpected
              | .object => .objectCommaOrEndExpected)
          else return frame :: outer

def skipFrames : Nat → List Frame → Reader Unit
  | 0, _ => failPeek .endInValue
  | more + 1, frames => do
      let (complete, frames) ← show Reader (Bool × List Frame) from do
        match ← token with
        | none => failPeek .endInValue
        | some octet =>
            if octet == 0x6E then do
              skip; letters ['u', 'l', 'l']
              return (true, frames)
            else if octet == 0x74 then do
              skip; letters ['r', 'u', 'e']
              return (true, frames)
            else if octet == 0x66 then do
              skip; letters ['a', 'l', 's', 'e']
              return (true, frames)
            else if octet == 0x2D then do
              skip; skipNumber
              return (true, frames)
            else if isDigit octet then do
              skipNumber
              return (true, frames)
            else if octet == 0x22 then do
              skip; skipString ((← get).left + 1)
              return (true, frames)
            else if octet == 0x5B then do
              skip
              return (false, .list :: frames)
            else if octet == 0x7B then do
              skip
              return (false, .object :: frames)
            else failPeek .valueExpected
      match ← closeFrames ((← get).left + 1) complete frames with
      | [] => pure ()
      | .list :: outer => skipFrames more (.list :: outer)
      | .object :: outer => do
          skipName
          skipFrames more (.object :: outer)

def skipValue : Reader Unit := do
  skipFrames ((← get).left + 1) []

def mismatch (expected : String) : Reader α := do
  match ← peek with
  | none => failPeek .valueExpected
  | some octet =>
      if octet == 0x6E then do
        skip; letters ['u', 'l', 'l']
        fail (.invalidType .null expected)
      else if octet == 0x74 then do
        skip; letters ['r', 'u', 'e']
        fail (.invalidType (.boolean true) expected)
      else if octet == 0x66 then do
        skip; letters ['a', 'l', 's', 'e']
        fail (.invalidType (.boolean false) expected)
      else if octet == 0x2D then do
        skip
        fail (.invalidType (.number (← number true)) expected)
      else if isDigit octet then do
        fail (.invalidType (.number (← number false)) expected)
      else if octet == 0x22 then do
        skip
        fail (.invalidType (.string (← string)) expected)
      else if octet == 0x5B then fail (.invalidType .sequence expected)
      else if octet == 0x7B then fail (.invalidType .map expected)
      else failPeek .valueExpected

def expectString (expected : String) : Reader String := do
  match ← token with
  | none => failPeek .endInValue
  | some octet =>
      if octet == 0x22 then do
        skip
        string
      else mismatch expected

def integral (scalar : Scalar) : Reader Datum := do
  match ← token with
  | none => failPeek .endInValue
  | some octet =>
      if octet == 0x2D then do
        skip
        settle (← number true)
      else if isDigit octet then do
        settle (← number false)
      else mismatch scalar.expected
where
  settle (content : Number) : Reader Datum :=
    match scalar.ofNumber content with
    | .ok datum => return datum
    | .error fault => fail fault

def scalar : Scalar → Reader Datum
  | .text => return .text (← expectString Scalar.text.expected)
  | .boolean => do
      match ← token with
      | none => failPeek .endInValue
      | some octet =>
          if octet == 0x74 then do
            skip; letters ['r', 'u', 'e']
            return .boolean true
          else if octet == 0x66 then do
            skip; letters ['a', 'l', 's', 'e']
            return .boolean false
          else mismatch Scalar.boolean.expected
  | shape => integral shape

def column (shape : Column) : Reader (Option Datum) := do
  if shape.optional && (← token) == some 0x6E then do
    skip; letters ['u', 'l', 'l']
    return none
  else return some (← scalar shape.scalar)

def filledColumns (columns : List Column) :
    Nat → Bool → List (String × Option Datum) → Reader (List (String × Option Datum))
  | 0, _, _ => failPeek .endInObject
  | more + 1, first, filled => do
      if ← fieldFollows first then
        skip
        let name ← string
        match columns.find? (·.name == name) with
        | some shape =>
            if filled.any (·.1 == name) then throw (.ofFault (.duplicateField name))
            else do
              colon
              let datum ← column shape
              filledColumns columns more false (filled ++ [(name, datum)])
        | none => do
            colon
            skipValue
            filledColumns columns more false filled
      else return filled

def columnsInOrder (shape : Record) : Nat → Bool → List Column → Reader Row
  | _, _, [] => return []
  | position, first, head :: rest => do
      if ← itemFollows first then
        let datum ← column head
        return datum :: (← columnsInOrder shape (position + 1) false rest)
      else
        match head.fallback with
        | some datum => return some datum :: (← columnsInOrder shape (position + 1) first rest)
        | none => throw (.ofFault (.invalidLength position shape.expectedElements))

/-- A part of a value between brackets, then its closing bracket. When the part is at fault, what
closes it is consumed nevertheless, as far as it is there. -/
def closed (content : Reader α) (close : Reader Unit) : Reader α := do
  match ← outcome content with
  | .ok result => do
      close
      return result
  | .error error => do
      let _ ← outcome close
      placed error

def record (shape : Record) : Reader Row := do
  match ← token with
  | none => failPeek .endInValue
  | some octet =>
      if octet == 0x5B then do
        skip
        closed (columnsInOrder shape 0 true shape.columns) listEnd
      else if octet == 0x7B then do
        skip
        let content : Reader Row := do
          let filled ← filledColumns shape.columns ((← get).left + 1) true []
          match Record.complete shape.columns filled with
          | .ok row => return row
          | .error fault => throw (.ofFault fault)
        closed content objectEnd
      else mismatch shape.expected

/-- The name of a choice among names: a string, or an object that has the name as its only field,
with `null` as content. -/
def choice (names : List String) : Reader String := do
  match ← token with
  | none => failPeek .endInValue
  | some octet =>
      if octet == 0x22 then known
      else if octet == 0x7B then do
        skip
        let name ← fieldName
        colon
        match ← token with
        | none => failPeek .endInValue
        | some after =>
            if after == 0x6E then do
              skip; letters ['u', 'l', 'l']
            else mismatch "unit"
        match ← token with
        | none => fail .endInObject
        | some after =>
            if after == 0x7D then do
              skip
              return name
            else fail .valueExpected
      else failPeek .valueExpected
where
  known : Reader String := do
    let name ← expectString "variant identifier"
    if names.contains name then return name
    else fail (.unknownVariant name names)
  fieldName : Reader String := do
    match ← token with
    | none => failPeek .endInObject
    | some octet => if octet == 0x22 then known else failPeek .keyNotString

end Reader

def decodeChoice (names : List String) (value : Json) : Except Fault String :=
  match value with
  | .string name => known name
  | .object [(name, content)] => do
      let name ← known name
      match content with
      | .null => return name
      | other => .error (.invalidType other.found "unit")
  | .object _ => .error (.invalidValue .map "map with a single key")
  | other => .error (.invalidType other.found "string or map")
where
  known (name : String) : Except Fault String :=
    if names.contains name then .ok name else .error (.unknownVariant name names)

end ResourceWatch.Json
