import ResourceWatch.Decimal
import ResourceWatch.Text

/-!
JSON values. Integers and floating-point numbers are kept apart, as `5` and `5.0` decode
differently. The fields of an object are a list in ascending order of their names, each name once;
names compare by code points, which is also the order of their octets.

The compact text of a JSON value: no blanks, and in strings only the escapes that JSON demands.

Why a JSON text cannot be read, or a value does not have the expected shape, and what is said about
it. A fault found in a text also has a place: the line, from one, and the octets of that line that
were consumed.
-/

namespace ResourceWatch

/-- A JSON number: an integer of 64 bits, signed or unsigned, or a double. -/
inductive Number where
  | integer (value : Int)
  | double (value : Decimal.Double)
  deriving DecidableEq, Repr

inductive Json where
  | null
  | boolean (value : Bool)
  | number (value : Number)
  | string (value : String)
  | array (items : List Json)
  | object (fields : List (String × Json))
  deriving BEq, Repr, Inhabited

abbrev Fields := List (String × Json)

namespace Fields

def get? (fields : Fields) (name : String) : Option Json :=
  (fields.find? (·.1 == name)).map (·.2)

def insert (name : String) (value : Json) : Fields → Fields
  | [] => [(name, value)]
  | field :: rest =>
      if name < field.1 then (name, value) :: field :: rest
      else if name = field.1 then (name, value) :: rest
      else field :: insert name value rest

def erase (fields : Fields) (name : String) : Fields :=
  fields.filter (·.1 != name)

/-- The fields of a list of pairs; of two with one name the later counts. -/
def ofList (pairs : List (String × Json)) : Fields :=
  pairs.foldl (fun fields pair => insert pair.1 pair.2 fields) []

end Fields

namespace Json

def integer (value : Int) : Json := .number (.integer value)

def ofOption (encode : α → Json) : Option α → Json
  | none => .null
  | some value => encode value

def ofFields (pairs : List (String × Json)) : Json := .object (Fields.ofList pairs)

end Json

end ResourceWatch

namespace ResourceWatch.Json

def hexDigit (value : Nat) : Char := Nat.digitChar (value % 16)

def escaped (char : Char) : List Char :=
  if char == '"' then ['\\', '"']
  else if char == '\\' then ['\\', '\\']
  else if char == '\x08' then ['\\', 'b']
  else if char == '\x0c' then ['\\', 'f']
  else if char == '\n' then ['\\', 'n']
  else if char == '\r' then ['\\', 'r']
  else if char == '\t' then ['\\', 't']
  else if char.toNat < 0x20 then
    ['\\', 'u', '0', '0', hexDigit (char.toNat / 16), hexDigit char.toNat]
  else [char]

def quotedText (text : String) : String :=
  String.ofList ('"' :: text.toList.flatMap escaped ++ ['"'])

def Number.text : Number → String
  | .integer value => toString value
  | .double value => value.text

mutual

def text : Json → String
  | .null => "null"
  | .boolean true => "true"
  | .boolean false => "false"
  | .number value => Number.text value
  | .string value => quotedText value
  | .array items => "[" ++ String.intercalate "," (itemTexts items) ++ "]"
  | .object fields => "\x7b" ++ String.intercalate "," (fieldTexts fields) ++ "\x7d"

def itemTexts : List Json → List String
  | [] => []
  | item :: rest => text item :: itemTexts rest

def fieldTexts : List (String × Json) → List String
  | [] => []
  | (name, value) :: rest => (quotedText name ++ ":" ++ text value) :: fieldTexts rest

end

inductive Found where
  | null
  | boolean (value : Bool)
  | number (value : Number)
  | string (value : String)
  | sequence
  | map
  deriving DecidableEq, Repr

def found : Json → Found
  | .null => .null
  | .boolean value => .boolean value
  | .number value => .number value
  | .string value => .string value
  | .array _ => .sequence
  | .object _ => .map

def Found.text : Found → String
  | .null => "null"
  | .boolean true => "boolean `true`"
  | .boolean false => "boolean `false`"
  | .number (.integer value) => s!"integer `{value}`"
  | .number (.double value) => "floating point `" ++ value.text ++ "`"
  | .string value => "string " ++ Text.quoted value
  | .sequence => "sequence"
  | .map => "map"

inductive Fault where
  | endInValue
  | endInObject
  | endInList
  | endInString
  | valueExpected
  | identExpected
  | colonExpected
  | listCommaOrEndExpected
  | objectCommaOrEndExpected
  | trailingComma
  | trailingCharacters
  | keyNotString
  | invalidNumber
  | numberOutOfRange
  | invalidEscape
  | hexEscapeCut
  | loneSurrogate
  | invalidCodePoint
  | controlCharacter
  | tooDeep
  | invalidType (found : Found) (expected : String)
  | invalidValue (found : Found) (expected : String)
  | invalidLength (length : Nat) (expected : String)
  | missingField (name : String)
  | duplicateField (name : String)
  | unknownVariant (name : String) (known : List String)
  deriving DecidableEq, Repr

def Fault.text : Fault → String
  | .endInValue => "EOF while parsing a value"
  | .endInObject => "EOF while parsing an object"
  | .endInList => "EOF while parsing a list"
  | .endInString => "EOF while parsing a string"
  | .valueExpected => "expected value"
  | .identExpected => "expected ident"
  | .colonExpected => "expected `:`"
  | .listCommaOrEndExpected => "expected `,` or `]`"
  | .objectCommaOrEndExpected => "expected `,` or `\x7d`"
  | .trailingComma => "trailing comma"
  | .trailingCharacters => "trailing characters"
  | .keyNotString => "key must be a string"
  | .invalidNumber => "invalid number"
  | .numberOutOfRange => "number out of range"
  | .invalidEscape => "invalid escape"
  | .hexEscapeCut => "unexpected end of hex escape"
  | .loneSurrogate => "lone leading surrogate in hex escape"
  | .invalidCodePoint => "invalid unicode code point"
  | .controlCharacter => "control character (\\u0000-\\u001F) found while parsing a string"
  | .tooDeep => "recursion limit exceeded"
  | .invalidType found expected => "invalid type: " ++ found.text ++ ", expected " ++ expected
  | .invalidValue found expected => "invalid value: " ++ found.text ++ ", expected " ++ expected
  | .invalidLength length expected => s!"invalid length {length}, expected {expected}"
  | .missingField name => s!"missing field `{name}`"
  | .duplicateField name => s!"duplicate field `{name}`"
  | .unknownVariant name known =>
      s!"unknown variant `{name}`, expected one of " ++
        String.intercalate ", " (known.map fun variant => s!"`{variant}`")

structure Error where
  fault : Fault
  place : Option (Nat × Nat)
  deriving DecidableEq, Repr

namespace Error

def ofFault (fault : Fault) : Error := ⟨fault, none⟩

def message (error : Error) : String :=
  match error.place with
  | none => error.fault.text
  | some (line, column) => error.fault.text ++ s!" at line {line} column {column}"

end Error

end ResourceWatch.Json
