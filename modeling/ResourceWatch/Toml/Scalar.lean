import ResourceWatch.Json.Basic
import ResourceWatch.Text

/-!
Keys and strings of configuration files.

Numbers, booleans, dates and times of configuration files. Integers have 64 bits with a sign. A
number above all doubles is refused, and one below all of them is infinite. A date or a time reads as
an object of its text, so that it is neither a number nor a string.
-/

namespace ResourceWatch.Toml

open Text (Reader)

def isBlank (char : Char) : Bool := char == ' ' || char == '\t'

def isPlain (char : Char) : Bool :=
  char == '\t' || (0x20 ≤ char.toNat && char.toNat != 0x7F)

def afterBreak? : List Char → Option (List Char)
  | '\n' :: rest => some rest
  | '\r' :: '\n' :: rest => some rest
  | _ => none

def afterSpace (inComment : Bool) : List Char → List Char
  | '\n' :: rest | '\r' :: '\n' :: rest => afterSpace false rest
  | char :: rest =>
      if inComment && isPlain char then afterSpace true rest
      else if !inComment && isBlank char then afterSpace false rest
      else if !inComment && char == '#' then afterSpace true rest
      else char :: rest
  | [] => []

def codePoint? (digits : List Char) : Option Char :=
  match Text.hexNumber? digits with
  | some code => if code.isValidChar then some (Char.ofNat code) else none
  | none => none

def shortEscape? (letter : Char) : Option Char :=
  [('b', '\x08'), ('t', '\t'), ('n', '\n'), ('f', '\x0c'), ('r', '\r'), ('"', '"'),
    ('\\', '\\')].lookup letter

abbrev Content := Option (List Char × List Char)

def Content.after (chars : List Char) (content : Content) : Content :=
  content.map fun pair => (chars ++ pair.1, pair.2)

def literal : List Char → Content
  | [] => none
  | '\'' :: rest => some ([], rest)
  | char :: rest => if isPlain char then (literal rest).after [char] else none

def quoted : List Char → Content
  | [] => none
  | '"' :: rest => some ([], rest)
  | '\\' :: 'u' :: a :: b :: c :: d :: rest =>
      match codePoint? [a, b, c, d] with
      | some char => (quoted rest).after [char]
      | none => none
  | '\\' :: 'U' :: a :: b :: c :: d :: e :: f :: g :: h :: rest =>
      match codePoint? [a, b, c, d, e, f, g, h] with
      | some char => (quoted rest).after [char]
      | none => none
  | '\\' :: letter :: rest =>
      match shortEscape? letter with
      | some char => (quoted rest).after [char]
      | none => none
  | char :: rest => if isPlain char && char != '\\' then (quoted rest).after [char] else none

/-- A string of several lines without escapes, up to its three closing quotes; up to two further
quotes in front of them belong to it. -/
def longLiteral : List Char → Content
  | [] => none
  | '\'' :: '\'' :: '\'' :: '\'' :: '\'' :: rest => some (['\'', '\''], rest)
  | '\'' :: '\'' :: '\'' :: '\'' :: rest => some (['\''], rest)
  | '\'' :: '\'' :: '\'' :: rest => some ([], rest)
  | '\r' :: '\n' :: rest => (longLiteral rest).after ['\n']
  | char :: rest =>
      if isPlain char || char == '\n' then (longLiteral rest).after [char] else none

def lineEnds (chars : List Char) : Bool := (afterBreak? (chars.dropWhile isBlank)).isSome

/-- A string of several lines with escapes. Behind a backslash at the end of a line the blanks and
line breaks up to the next other character are skipped. -/
def longQuoted (skipping : Bool) : List Char → Content
  | [] => none
  | '"' :: '"' :: '"' :: '"' :: '"' :: rest => some (['"', '"'], rest)
  | '"' :: '"' :: '"' :: '"' :: rest => some (['"'], rest)
  | '"' :: '"' :: '"' :: rest => some ([], rest)
  | '\\' :: 'u' :: a :: b :: c :: d :: rest =>
      match codePoint? [a, b, c, d] with
      | some char => (longQuoted false rest).after [char]
      | none => none
  | '\\' :: 'U' :: a :: b :: c :: d :: e :: f :: g :: h :: rest =>
      match codePoint? [a, b, c, d, e, f, g, h] with
      | some char => (longQuoted false rest).after [char]
      | none => none
  | '\\' :: letter :: rest =>
      match shortEscape? letter with
      | some char => (longQuoted false rest).after [char]
      | none => if lineEnds (letter :: rest) then longQuoted true (letter :: rest) else none
  | '\r' :: '\n' :: rest =>
      if skipping then longQuoted true rest else (longQuoted false rest).after ['\n']
  | char :: rest =>
      if skipping && (isBlank char || char == '\n') then longQuoted true rest
      else if (isPlain char || char == '\n') && char != '\\' then
        (longQuoted false rest).after [char]
      else none

def withoutFirstBreak (chars : List Char) : List Char := (afterBreak? chars).getD chars

namespace Reader

open Text.Reader

def blanks : Reader Unit := do
  let _ ← takeWhile isBlank

def comment : Reader Unit := do
  if ← accept '#' then
    let _ ← takeWhile isPlain

def lineEnd : Reader Unit := fun chars =>
  match chars with
  | [] => some ((), [])
  | _ => (afterBreak? chars).map fun rest => ((), rest)

def space : Reader Unit := fun chars => some ((), afterSpace false chars)

def string : Reader String := fun chars =>
  let content : Content := match chars with
    | '"' :: '"' :: '"' :: rest => longQuoted false (withoutFirstBreak rest)
    | '\'' :: '\'' :: '\'' :: rest => longLiteral (withoutFirstBreak rest)
    | '"' :: rest => quoted rest
    | '\'' :: rest => literal rest
    | _ => none
  content.map fun pair => (String.ofList pair.1, pair.2)

def inBareKey (char : Char) : Bool := char.isAlphanum || char == '_' || char == '-'

def keyPart : Reader String := fun chars =>
  match chars with
  | '"' :: rest => (quoted rest).map fun pair => (String.ofList pair.1, pair.2)
  | '\'' :: rest => (literal rest).map fun pair => (String.ofList pair.1, pair.2)
  | _ =>
      let name := chars.takeWhile inBareKey
      if name.isEmpty then none
      else some (String.ofList name, chars.dropWhile inBareKey)

def keyParts : Nat → Reader (List String)
  | 0 => fun _ => none
  | more + 1 => do
      blanks
      let part ← keyPart
      blanks
      if ← accept '.' then return part :: (← keyParts more)
      else return [part]

def levelLimit : Nat := 79

def key : Reader (List String) := keyParts levelLimit

end Reader

end ResourceWatch.Toml

namespace ResourceWatch.Toml.Scalar

def digits? (isDigit : Char → Bool) : List Char → Option (List Char)
  | [] => none
  | [digit] => if isDigit digit then some [digit] else none
  | digit :: '_' :: rest => if isDigit digit then (digits? isDigit rest).map (digit :: ·) else none
  | digit :: rest => if isDigit digit then (digits? isDigit rest).map (digit :: ·) else none

def number (base : Nat) (digits : List Char) : Nat :=
  digits.foldl (fun sum char =>
    sum * base + (if char.isDigit then char.toNat - 0x30 else char.toLower.toNat - 0x57)) 0

def whole? (chars : List Char) : Option (List Char) :=
  match chars with
  | ['0'] => some ['0']
  | '0' :: _ => none
  | _ => digits? Char.isDigit chars

def signed : List Char → Bool × List Char
  | '-' :: rest => (true, rest)
  | '+' :: rest => (false, rest)
  | rest => (false, rest)

def bounded? (value : Int) : Option Json :=
  if -9223372036854775808 ≤ value ∧ value ≤ 9223372036854775807 then some (Json.integer value) else none

def integer? (chars : List Char) : Option Json :=
  let based (base : Nat) (isDigit : Char → Bool) (rest : List Char) : Option Json := do
    bounded? (number base (← digits? isDigit rest))
  match chars with
  | '0' :: 'x' :: rest =>
      based 16 (fun char => char.isDigit || ('a' ≤ char.toLower && char.toLower ≤ 'f')) rest
  | '0' :: 'o' :: rest => based 8 (fun char => '0' ≤ char && char ≤ '7') rest
  | '0' :: 'b' :: rest => based 2 (fun char => char == '0' || char == '1') rest
  | _ => do
      let (negative, rest) := signed chars
      let value : Int := number 10 (← whole? rest)
      bounded? (if negative then -value else value)

def fraction? : List Char → Option (List Char)
  | [] => some []
  | '.' :: digits => digits? Char.isDigit digits
  | _ => none

def exponent? : List Char → Option Int
  | [] => some 0
  | _ :: rest => do
      let (negative, chars) := signed rest
      let value : Int := number 10 (← digits? Char.isDigit chars)
      return if negative then -value else value

def float? (chars : List Char) : Option Json := do
  let (negative, rest) := signed chars
  if rest == "inf".toList then return .number (.double (.infinity negative))
  else if rest == "nan".toList then return .number (.double .nan)
  else
    let isMark (char : Char) : Bool := char == 'e' || char == 'E'
    let front := rest.takeWhile (!isMark ·)
    let power := rest.dropWhile (!isMark ·)
    let wholePart := front.takeWhile (· != '.')
    let fractionPart := front.dropWhile (· != '.')
    if power.isEmpty && fractionPart.isEmpty then none
    else
      let before ← whole? wholePart
      let places ← fraction? fractionPart
      let exponent ← exponent? power
      let value := Decimal.Double.nearest negative (number 10 (before ++ places))
        (exponent - places.length)
      if value == .infinity false then none else return .number (.double value)

def fixed? (count : Nat) (chars : List Char) : Option (Nat × List Char) :=
  let front := chars.take count
  if front.length = count ∧ front.all Char.isDigit then some (number 10 front, chars.drop count)
  else none

def behind? (mark : Char) : List Char → Option (List Char)
  | first :: rest => if first == mark then some rest else none
  | [] => none

def daysOf (year month : Nat) : Nat :=
  if month = 2 then
    if (year % 4 = 0 ∧ year % 100 ≠ 0) ∨ year % 400 = 0 then 29 else 28
  else if [4, 6, 9, 11].contains month then 30
  else 31

def afterDate? (chars : List Char) : Option (List Char) := do
  let (year, rest) ← fixed? 4 chars
  let (month, rest) ← fixed? 2 (← behind? '-' rest)
  let (day, rest) ← fixed? 2 (← behind? '-' rest)
  if 1 ≤ month ∧ month ≤ 12 ∧ 1 ≤ day ∧ day ≤ daysOf year month then some rest else none

def afterTime? (chars : List Char) : Option (List Char) := do
  let (hour, rest) ← fixed? 2 chars
  let (minute, rest) ← fixed? 2 (← behind? ':' rest)
  let (second, rest) ← fixed? 2 (← behind? ':' rest)
  if 23 < hour ∨ 59 < minute ∨ 60 < second then none
  else match rest with
    | '.' :: digits =>
        if (digits.takeWhile Char.isDigit).isEmpty then none
        else some (digits.dropWhile Char.isDigit)
    | _ => some rest

def endsWithZone : List Char → Bool
  | [] => true
  | ['Z'] | ['z'] => true
  | sign :: rest =>
      (sign == '+' || sign == '-') &&
        match fixed? 2 rest with
        | some (hour, ':' :: minutes) =>
            match fixed? 2 minutes with
            | some (minute, []) => hour ≤ 23 && minute ≤ 59
            | _ => false
        | _ => false

def moment? (chars : List Char) : Option Json :=
  let accepted : Bool := match afterDate? chars with
    | some [] => true
    | some (mark :: time) =>
        (mark == 'T' || mark == 't' || mark == ' ') &&
          match afterTime? time with
          | some rest => endsWithZone rest
          | none => false
    | none => afterTime? chars == some []
  if accepted then some (Json.ofFields [("moment", .string (String.ofList chars))]) else none

def value? (chars : List Char) : Option Json :=
  if chars == "true".toList then some (.boolean true)
  else if chars == "false".toList then some (.boolean false)
  else (integer? chars).or ((float? chars).or (moment? chars))

def inWord (char : Char) : Bool := char.isAlphanum || "_+-.:".toList.contains char

/-- The word in front and the rest. A blank between a date and a time is part of the word. -/
def word (chars : List Char) : List Char × List Char :=
  let first := chars.takeWhile inWord
  let rest := chars.dropWhile inWord
  match rest with
  | ' ' :: digit :: _ =>
      if afterDate? first == some [] && digit.isDigit then
        (first ++ ' ' :: (rest.drop 1).takeWhile inWord, (rest.drop 1).dropWhile inWord)
      else (first, rest)
  | _ => (first, rest)

def read : Text.Reader Json := fun chars =>
  let (front, rest) := word chars
  (value? front).map fun value => (value, rest)

end ResourceWatch.Toml.Scalar
