import ResourceWatch.Counter
import ResourceWatch.Json.Basic
import ResourceWatch.Text
import ResourceWatch.Toml.Scalar

/-!
Settings from environment variables. A variable's value is read as what it looks like: a boolean, a
number, a quoted string, a list or a table, and else as the string that it is. A value that only
begins like one of these is a string, too.
-/

namespace ResourceWatch.Config.Environment

def isGap (char : Char) : Bool := " \t\n\x0c\r".toList.contains char

def separates (char : Char) : Bool := ",[]\x7b\x7d".toList.contains char

def natural? (digits : List Char) : Option Nat :=
  if digits.isEmpty ∨ !digits.all Char.isDigit then none
  else some (digits.foldl (fun sum digit => sum * 10 + (digit.toNat - 0x30)) 0)

def unsigned? (chars : List Char) : Option Int :=
  let digits := match chars with
    | '+' :: rest => rest
    | _ => chars
  ((natural? digits).filter (· ≤ largestWord)).map Int.ofNat

def signed? (chars : List Char) : Option Int :=
  match chars with
  | '-' :: digits => ((natural? digits).filter (· ≤ 9223372036854775808)).map fun value => -Int.ofNat value
  | _ => (unsigned? chars).filter (· ≤ 9223372036854775807)

def exponent? (chars : List Char) : Option Int :=
  match chars with
  | [] => some 0
  | _ :: '-' :: digits => (natural? digits).map fun value => -Int.ofNat value
  | _ :: '+' :: digits => (natural? digits).map Int.ofNat
  | _ :: digits => (natural? digits).map Int.ofNat

def pointed? (chars : List Char) : Option Json := do
  let (negative, magnitude) := match chars with
    | '-' :: rest => (true, rest)
    | '+' :: rest => (false, rest)
    | rest => (false, rest)
  let (mantissa, power) := Text.cutAt (fun char => char == 'e' || char == 'E') magnitude
  let (whole, fraction) := Text.cutAt (· == '.') mantissa
  if fraction.isEmpty then none
  else
    let places := fraction.drop 1
    let significand ← natural? (whole ++ places)
    let exponent ← exponent? power
    return .number (.double (.nearest negative significand (exponent - places.length)))

def word (chars : List Char) : Json :=
  let trimmed := Text.stripList Text.isBlank chars
  match pointed? trimmed, unsigned? trimmed, signed? trimmed with
  | some value, _, _ => value
  | none, some value, _ => Json.integer value
  | none, none, some value => Json.integer value
  | none, none, none => .string (String.ofList trimmed)

def withinOctets (room : Nat) : List Char → List Char
  | [] => []
  | char :: rest =>
      if char.utf8Size ≤ room then char :: withinOctets (room - char.utf8Size) rest else []

/-- The string behind an opening quote and what is left. Of what stands before its first escape, only
as many octets are kept as it has characters. -/
def quotedString (chars : List Char) : Option (List Char × List Char) :=
  let (front, behind) := Text.cutAt (fun char => char == '"' || char == '\\') chars
  (Toml.quoted chars).map fun found =>
    if behind.head? == some '\\' then
      (withinOctets front.length front ++ found.1.drop front.length, found.2)
    else found

abbrev Read := List Char → Option (Json × List Char)

def items (item : Read) : Nat → List Char → Option (List Json × List Char)
  | _, ']' :: rest => some ([], rest)
  | 0, _ => none
  | more + 1, chars => do
      let (head, rest) ← item chars
      match rest with
      | ',' :: rest => (items item more rest).map fun found => (head :: found.1, found.2)
      | ']' :: rest => some ([head], rest)
      | _ => none

def key? (chars : List Char) : Option (String × List Char) :=
  match chars with
  | '"' :: rest => (Toml.quoted rest).map fun found => (String.ofList found.1, found.2)
  | _ =>
      let inKey (char : Char) : Bool := char.isAlphanum || char == '_' || char == '-'
      let name := chars.takeWhile inKey
      if name.isEmpty then none else some (String.ofList name, chars.dropWhile inKey)

def pairs (value : Read) : Nat → List Char → Option (Fields × List Char)
  | _, '\x7d' :: rest => some ([], rest)
  | 0, _ => none
  | more + 1, chars => do
      let (name, rest) ← key? (chars.dropWhile isGap)
      match rest.dropWhile isGap with
      | '=' :: rest => do
          let (content, rest) ← value (rest.dropWhile isGap)
          match rest.dropWhile isGap with
          | ',' :: rest =>
              (pairs value more rest).map fun found =>
                (Fields.ofList ((name, content) :: found.1), found.2)
          | '\x7d' :: rest => some ([(name, content)], rest)
          | _ => none
      | _ => none

def value (levels : Nat) : Read := fun chars =>
  let start := chars.dropWhile isGap
  let found : Option (Json × List Char) :=
    if "true".toList.isPrefixOf start then some (.boolean true, start.drop 4)
    else if "false".toList.isPrefixOf start then some (.boolean false, start.drop 5)
    else match start with
      | '\x7b' :: rest =>
          match levels with
          | 0 => none
          | below + 1 =>
              (pairs (value below) (rest.length + 1) rest).map fun found =>
                (.object found.1, found.2)
      | '[' :: rest =>
          match levels with
          | 0 => none
          | below + 1 =>
              (items (value below) (rest.length + 1) rest).map fun found => (.array found.1, found.2)
      | '"' :: rest =>
          (quotedString rest).map fun found => (.string (String.ofList found.1), found.2)
      | '\'' :: rest =>
          match rest with
          | char :: '\'' :: behind => some (.string (String.singleton char), behind)
          | _ => none
      | _ => some (word (start.takeWhile (!separates ·)), start.dropWhile (!separates ·))
  found.map fun pair => (pair.1, pair.2.dropWhile isGap)

/-- The value of a variable. One that holds a comma and does not begin as a list, a table or a quoted
string is a list of strings. -/
def ofText (text : String) : Json :=
  let chars := Text.stripList Text.isBlank text.toList
  -- A comma makes a list only of what does not begin as something else.
  let opens := match chars with
    | first :: _ => "[\x7b\"'".toList.contains first
    | [] => false
  if chars.contains ',' && !opens then
    .array ((Text.splitOn (· == ',') chars).map fun piece =>
      .string (String.ofList (Text.stripList Text.isBlank piece)))
  else match value chars.length chars with
    | some (content, []) => content
    | _ => .string (String.ofList chars)

def mark : List Char := "cloudreel_".toList

def pointedName : List Char → List Char
  | [] => []
  | '_' :: '_' :: rest => '.' :: pointedName rest
  | char :: rest => char :: pointedName rest

/-- The parts of a setting's name in small letters, if the variable is for a setting. Blanks around the
name do not count, also those behind its mark. -/
def nameParts? (name : String) : Option (List (List Char)) :=
  let chars := (Text.stripList Text.isBlank name.toList).map Char.toLower
  if mark.isPrefixOf chars then
    let parts := Text.splitOn (· == '.')
      (pointedName (Text.stripList Text.isBlank (chars.drop mark.length)))
    if parts.any List.isEmpty then none else some parts
  else none

/-- The setting that a variable is for. A name of several parts reaches into a table. -/
def setting? (name content : String) : Option (String × Json) := do
  -- No setting is a table, so what one would hold makes no difference.
  match ← nameParts? name with
  | [] => none
  | [single] => return (String.ofList single, ofText content)
  | table :: _ => return (String.ofList table, .object [])

def fields (assignments : List (String × String)) : Fields :=
  Fields.ofList (assignments.filterMap fun pair => setting? pair.1 pair.2)

end ResourceWatch.Config.Environment
