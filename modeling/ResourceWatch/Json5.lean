import ResourceWatch.Json.Basic
import ResourceWatch.Text
import ResourceWatch.Unicode.Property

/-!
Blanks, comments, strings and names of JSON5 texts. Strings and names are read as parts, since an
escape may be one half of a pair of surrogates.

Values from JSON5 texts: JSON with comments, names without quotes, strings in single quotes, commas
behind the last item, and more forms of numbers. Integers have 64 bits with a sign, those in
hexadecimal digits 32 bits without one.
-/

namespace ResourceWatch.Json5

open Text (Reader)

def isLineEnd (char : Char) : Bool := ['\n', '\r', '\u2028', '\u2029'].contains char

def isBlank (char : Char) : Bool :=
  isLineEnd char || ['\t', '\x0b', '\x0c', ' ', '\u00A0', '\u1680', '\u202F', '\u205F', '\u3000',
    '\uFEFF'].contains char || ('\u2000' ≤ char && char ≤ '\u200A')

/-- Where blanks and comments stand: between the parts of a text, in a comment up to the end of its
line, or in one up to its closing mark. -/
inductive Spacing where
  | outside
  | inLine
  | inMarks
  deriving DecidableEq, Repr

def afterSpace? : Spacing → List Char → Option (List Char)
  | .outside, '/' :: '/' :: rest => afterSpace? .inLine rest
  | .outside, '/' :: '*' :: rest => afterSpace? .inMarks rest
  | .outside, char :: rest => if isBlank char then afterSpace? .outside rest else some (char :: rest)
  | .inLine, char :: rest => afterSpace? (if isLineEnd char then .outside else .inLine) rest
  | .inMarks, '*' :: '/' :: rest => afterSpace? .outside rest
  | .inMarks, _ :: rest => afterSpace? .inMarks rest
  | .inMarks, [] => none
  | _, [] => some []

def space : Reader Unit := fun chars => (afterSpace? .outside chars).map fun rest => ((), rest)

/-- A part of a string or of a name: a character, or the number that an escape writes. -/
inductive Part where
  | char (char : Char)
  | unit (code : Nat)
  deriving DecidableEq, Repr

def isLead (code : Nat) : Bool := 0xD800 ≤ code && code ≤ 0xDBFF

def isTrail (code : Nat) : Bool := 0xDC00 ≤ code && code ≤ 0xDFFF

def joined : List Part → Option (List Char)
  | [] => some []
  | .char char :: rest => (joined rest).map (char :: ·)
  | .unit lead :: rest =>
      if isTrail lead then none
      else if isLead lead then
        match rest with
        | .unit trail :: rest =>
            if isTrail trail then
              let code := (lead - 0xD800) * 0x400 + (trail - 0xDC00) + 0x10000
              (joined rest).map (Char.ofNat code :: ·)
            else none
        | _ => none
      else (joined rest).map (Char.ofNat lead :: ·)

/-- What a character behind a backslash stands for: most stand for themselves, and digits other than
zero for nothing. -/
def escaped? (char : Char) : Option Char :=
  match char with
  | 'b' => some '\x08'
  | 'f' => some '\x0c'
  | 'n' => some '\n'
  | 'r' => some '\r'
  | 't' => some '\t'
  | 'v' => some '\x0b'
  | '0' => some '\x00'
  | 'x' | 'u' => none
  | other => if other.isDigit then none else some other

abbrev Parts := Option (List Part × List Char)

def Parts.after (part : Part) (parts : Parts) : Parts :=
  parts.map fun pair => (part :: pair.1, pair.2)

def stringParts (quote : Char) : List Char → Parts
  | [] => none
  | '\\' :: '\r' :: '\n' :: rest => stringParts quote rest
  | '\\' :: 'x' :: a :: b :: rest =>
      match Text.hexNumber? [a, b] with
      | some code => (stringParts quote rest).after (.char (Char.ofNat code))
      | none => none
  | '\\' :: 'u' :: a :: b :: c :: d :: rest =>
      match Text.hexNumber? [a, b, c, d] with
      | some code => (stringParts quote rest).after (.unit code)
      | none => none
  | '\\' :: char :: rest =>
      if isLineEnd char then stringParts quote rest
      else match escaped? char with
        | some meant => (stringParts quote rest).after (.char meant)
        | none => none
  | char :: rest =>
      if char == quote then some ([], rest)
      else if char == '\\' || isLineEnd char then none
      else (stringParts quote rest).after (.char char)

def startsName (char : Char) : Bool :=
  char == '$' || char == '_' || Unicode.letters.contains char

def isInName (char : Char) : Bool :=
  startsName char || char == '\u200C' || char == '\u200D' ||
    Unicode.nonspacing.contains char || Unicode.continuing.contains char

def nameParts (allowed : Char → Bool) : List Char → List Part × List Char
  | [] => ([], [])
  | '\\' :: 'u' :: a :: b :: c :: d :: rest =>
      match Text.hexNumber? [a, b, c, d] with
      | some code =>
          let (parts, behind) := nameParts isInName rest
          (.unit code :: parts, behind)
      | none => ([], '\\' :: 'u' :: a :: b :: c :: d :: rest)
  | char :: rest =>
      if allowed char then
        let (parts, behind) := nameParts isInName rest
        (.char char :: parts, behind)
      else ([], char :: rest)

def string : Reader String := fun chars =>
  match chars with
  | quote :: rest =>
      if quote == '"' || quote == '\'' then do
        let (parts, behind) ← stringParts quote rest
        return (String.ofList (← joined parts), behind)
      else none
  | [] => none

def name : Reader String := fun chars =>
  match nameParts startsName chars with
  | ([], _) => string chars
  | (parts, behind) => (joined parts).map fun found => (String.ofList found, behind)

def decimal (digits : List Char) : Nat :=
  digits.foldl (fun sum digit => sum * 10 + (digit.toNat - 0x30)) 0

def digitsIn (chars : List Char) : List Char × List Char :=
  (chars.takeWhile Char.isDigit, chars.dropWhile Char.isDigit)

def wholeIn (chars : List Char) : List Char × List Char :=
  match chars with
  | '0' :: rest => (['0'], rest)
  | _ => digitsIn chars

def exponentIn (chars : List Char) : Option Int × List Char :=
  match chars with
  | mark :: rest =>
      let (negative, behind) := match rest with
        | '-' :: behind => (true, behind)
        | '+' :: behind => (false, behind)
        | _ => (false, rest)
      let (digits, left) := digitsIn behind
      if (mark == 'e' || mark == 'E') && !digits.isEmpty then
        let value := Int.ofNat (decimal digits)
        (some (if negative then -value else value), left)
      else (none, chars)
  | [] => (none, [])

def bounded? (value : Int) : Option Json :=
  if -9223372036854775808 ≤ value ∧ value ≤ 9223372036854775807 then some (Json.integer value) else none

def decimalNumber (negative : Bool) : Reader Json := fun chars => do
  let (whole, rest) := wholeIn chars
  let (places, rest) : Option (List Char) × List Char := match rest with
    | '.' :: behind =>
        let (digits, left) := digitsIn behind
        if whole.isEmpty && digits.isEmpty then (none, rest) else (some digits, left)
    | _ => (none, rest)
  if whole.isEmpty && places.isNone then none
  else
    let (exponent, rest) := exponentIn rest
    match places, exponent with
    | none, none =>
        let value := Int.ofNat (decimal whole)
        return (← bounded? (if negative then -value else value), rest)
    | _, _ =>
        let fraction := places.getD []
        let value := Decimal.Double.nearest negative (decimal (whole ++ fraction))
          (exponent.getD 0 - fraction.length)
        if value.isInfinite then none else return (.number (.double value), rest)

def hexadecimal : Reader Json := fun chars => do
  let digits := chars.takeWhile Text.isHexDigit
  let value ← Text.hexNumber? digits
  if digits.isEmpty || 4294967295 < value then none
  else return (Json.integer value, chars.dropWhile Text.isHexDigit)

/-- A number. Only what has decimal digits may have a plus sign, and what has hexadecimal digits no
sign at all. -/
def number : Reader Json := fun chars =>
  match chars with
  | '0' :: 'x' :: digits | '0' :: 'X' :: digits => hexadecimal digits
  | '+' :: rest => decimalNumber false rest
  | '-' :: rest => unsigned true rest
  | _ => unsigned false chars
where
  unsigned (negative : Bool) : Reader Json := fun chars =>
    if "Infinity".toList.isPrefixOf chars then
      some (.number (.double (.infinity negative)), chars.drop 8)
    else if "NaN".toList.isPrefixOf chars then some (.number (.double .nan), chars.drop 3)
    else decimalNumber negative chars

namespace Reader

open Text.Reader

def items (item : Reader Json) : Nat → Reader (List Json)
  | 0 => fun _ => none
  | more + 1 => do
      space
      if ← accept ']' then return []
      else
        let head ← item
        space
        if ← accept ',' then return head :: (← items item more)
        else
          expect ']'
          return [head]

def fields (content : Reader Json) : Nat → Reader (List (String × Json))
  | 0 => fun _ => none
  | more + 1 => do
      space
      if ← accept '\x7d' then return []
      else
        let key ← name
        space
        expect ':'
        space
        let value ← content
        space
        if ← accept ',' then return (key, value) :: (← fields content more)
        else
          expect '\x7d'
          return [(key, value)]

/-- A value with at most so many levels inside one another, each with at most as many parts as the
limit. Of two fields with one name the later counts. -/
def value (limit : Nat) : Nat → Reader Json
  | 0 => fun _ => none
  | below + 1 => do
      match ← peek with
      | some 'n' => do
          word "null".toList
          return .null
      | some 't' => do
          word "true".toList
          return .boolean true
      | some 'f' => do
          word "false".toList
          return .boolean false
      | some '"' | some '\'' => return .string (← string)
      | some '[' => do
          expect '['
          return .array (← items (value limit below) limit)
      | some '\x7b' => do
          expect '\x7b'
          return .object (Fields.ofList (← fields (value limit below) limit))
      | _ => number

end Reader

def parse (text : String) : Option Json :=
  let chars := text.toList
  let limit := chars.length + 1
  let whole : Reader Json := do
    space
    let value ← Reader.value limit limit
    space
    Text.Reader.finish
    return value
  (whole.run chars).map (·.1)

end ResourceWatch.Json5
