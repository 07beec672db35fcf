import ResourceWatch.Counter
import ResourceWatch.Json.Basic
import ResourceWatch.Text

/-!
Reading the small parts of JSON texts: blanks, literals, numbers and strings. A reader consumes
octets and keeps count of the line and of the octets consumed on it, so that a fault knows its
place. Loops over octets count down the octets left when they start, and each turn consumes one.

JSON values from text. A value recurs on the levels of nesting that are still allowed; the loops
over items and fields count down the octets left when they start.
-/

namespace ResourceWatch.Json

structure Cursor where
  rest : List UInt8
  left : Nat
  line : Nat
  column : Nat

namespace Cursor

def start (octets : List UInt8) : Cursor := ⟨octets, octets.length, 1, 0⟩

def advance (cursor : Cursor) : Cursor :=
  match cursor.rest with
  | [] => cursor
  | octet :: rest =>
      if octet == 0x0A then ⟨rest, cursor.left - 1, cursor.line + 1, 0⟩
      else ⟨rest, cursor.left - 1, cursor.line, cursor.column + 1⟩

def place (cursor : Cursor) : Nat × Nat := (cursor.line, cursor.column)

end Cursor

/-- A computation over a cursor that may end in an error; the cursor survives the error. -/
abbrev Reader := ExceptT Error (StateM Cursor)

namespace Reader

def peek : Reader (Option UInt8) := do
  return (← get).rest.head?

def skip : Reader Unit := modify Cursor.advance

def next : Reader (Option UInt8) := do
  let octet ← peek
  skip
  return octet

def fail (fault : Fault) : Reader α := do
  throw ⟨fault, some (← get).place⟩

def failPeek (fault : Fault) : Reader α := do
  throw ⟨fault, some (← get).advance.place⟩

def placed (error : Error) : Reader α := do
  match error.place with
  | some _ => throw error
  | none => throw ⟨error.fault, some (← get).place⟩

def outcome (reader : Reader α) : Reader (Except Error α) :=
  fun cursor => let (result, after) := reader cursor; (.ok result, after)

def isBlank (octet : UInt8) : Bool :=
  octet == 0x20 || octet == 0x0A || octet == 0x09 || octet == 0x0D

def isDigit (octet : UInt8) : Bool := 0x30 ≤ octet && octet ≤ 0x39

def digitValue (octet : UInt8) : Nat := octet.toNat - 0x30

def skipBlanks : Nat → Reader Unit
  | 0 => pure ()
  | more + 1 => do
      match ← peek with
      | some octet => if isBlank octet then do skip; skipBlanks more else pure ()
      | none => pure ()

def token : Reader (Option UInt8) := do
  skipBlanks (← get).left
  peek

def letters : List Char → Reader Unit
  | [] => pure ()
  | letter :: rest => do
      match ← next with
      | none => fail .endInValue
      | some octet => if octet.toNat = letter.toNat then letters rest else fail .identExpected

def digits : Nat → Reader (List Nat)
  | 0 => pure []
  | more + 1 => do
      match ← peek with
      | some octet =>
          if isDigit octet then do
            skip
            return digitValue octet :: (← digits more)
          else pure []
      | none => pure []

def allDigits : Reader (List Nat) := do
  digits (← get).left

/-! Numbers. The significand takes digits while it fits into 64 bits. Digits of the integer part
after that count into the exponent; digits of the fraction after that are dropped. -/

/-- Adds integer digits to a significand; gives what was taken and the number of digits left over. -/
def gather (significand : Nat) : List Nat → Nat × Nat
  | [] => (significand, 0)
  | digit :: rest =>
      if significand * 10 + digit ≤ largestWord then gather (significand * 10 + digit) rest
      else (significand, rest.length + 1)

def gatherFraction (significand taken : Nat) : List Nat → Nat × Nat
  | [] => (significand, taken)
  | digit :: rest =>
      if significand * 10 + digit ≤ largestWord then
        gatherFraction (significand * 10 + digit) (taken + 1) rest
      else (significand, taken)

def double (negative : Bool) (significand : Nat) (exponent : Int) : Reader Number := do
  match Decimal.Double.ofScaled? negative significand exponent with
  | some value => return .double value
  | none => fail .numberOutOfRange

def maxExponent : Nat := 2147483647

def exponentDigits : Nat → Nat → Reader (Option Nat)
  | 0, value => pure (some value)
  | more + 1, value => do
      match ← peek with
      | some octet =>
          if isDigit octet then do
            skip
            let sum := value * 10 + digitValue octet
            if sum ≤ maxExponent then exponentDigits more sum else pure none
          else pure (some value)
      | none => pure (some value)

def exponentPart (negative : Bool) (significand : Nat) (shift : Int) : Reader Number := do
  skip
  let sign ← peek
  if sign == some 0x2B || sign == some 0x2D then skip
  let down := sign == some 0x2D
  match ← next with
  | none => fail .endInValue
  | some octet =>
      if isDigit octet then
        match ← exponentDigits (← get).left (digitValue octet) with
        | some value =>
            double negative significand (if down then shift - value else shift + value)
        | none =>
            if significand ≠ 0 ∧ down = false then fail .numberOutOfRange
            else do
              let _ ← allDigits
              double negative 0 0
      else fail .invalidNumber

def isExponentMark (octet : Option UInt8) : Bool := octet == some 0x65 || octet == some 0x45

def fractionPart (negative : Bool) (significand : Nat) (shift : Int) : Reader Number := do
  skip
  let places ← allDigits
  if places.isEmpty then
    match ← peek with
    | some _ => failPeek .invalidNumber
    | none => failPeek .endInValue
  else
    let (sum, taken) := gatherFraction significand 0 places
    if isExponentMark (← peek) then exponentPart negative sum (shift - taken)
    else double negative sum (shift - taken)

/-- A number after its sign. Minus zero is a double, and so is an integer below the range of 64
bits. -/
def number (negative : Bool) : Reader Number := do
  match ← next with
  | none => fail .endInValue
  | some octet =>
      if octet == 0x30 then
        if ((← peek).map isDigit).getD false then failPeek .invalidNumber
        else finish 0 0
      else if isDigit octet then do
        let (significand, left) := gather (digitValue octet) (← allDigits)
        finish significand left
      else fail .invalidNumber
where
  finish (significand left : Nat) : Reader Number := do
    let mark ← peek
    if mark == some 0x2E then fractionPart negative significand left
    else if isExponentMark mark then exponentPart negative significand left
    else if left ≠ 0 then double negative significand left
    else if !negative then return .integer significand
    else if significand = 0 ∨ 9223372036854775808 < significand then double true significand 0
    else return .integer (-significand)

def skipNumber : Reader Unit := do
  match ← next with
  | some octet =>
      if octet == 0x30 then
        if ((← peek).map isDigit).getD false then failPeek .invalidNumber else finish
      else if isDigit octet then do
        let _ ← allDigits
        finish
      else fail .invalidNumber
  | none => fail .invalidNumber
where
  skipExponent : Reader Unit := do
    skip
    let sign ← peek
    if sign == some 0x2B || sign == some 0x2D then skip
    if ((← next).map isDigit).getD false then
      let _ ← allDigits
      pure ()
    else fail .invalidNumber
  finish : Reader Unit := do
    let mark ← peek
    if mark == some 0x2E then do
      skip
      let places ← allDigits
      if places.isEmpty then failPeek .invalidNumber
      else if isExponentMark (← peek) then skipExponent
    else if isExponentMark mark then skipExponent

/-! Strings, from the octet after the opening quote. -/

def hexValue? (octet : UInt8) : Option Nat :=
  if isDigit octet then some (digitValue octet)
  else if 0x61 ≤ octet && octet ≤ 0x66 then some (octet.toNat - 0x57)
  else if 0x41 ≤ octet && octet ≤ 0x46 then some (octet.toNat - 0x37)
  else none

def hexFour : Reader Nat := do
  match (← get).rest with
  | first :: second :: third :: fourth :: _ => do
      skip; skip; skip; skip
      match hexValue? first, hexValue? second, hexValue? third, hexValue? fourth with
      | some a, some b, some c, some d => return ((a * 16 + b) * 16 + c) * 16 + d
      | _, _, _, _ => fail .invalidEscape
  | short => do
      for _ in short do skip
      fail .endInString

def encoded (code : Nat) : List UInt8 :=
  Text.octets (String.singleton (Char.ofNat code))

/-- Consumes an octet that has to be there; any other one is consumed too. -/
def pairMark (expected : UInt8) : Reader Unit := do
  match ← peek with
  | none => fail .endInString
  | some octet => do
      skip
      if octet == expected then pure () else fail .hexEscapeCut

def hexEscape : Reader (List UInt8) := do
  let lead ← hexFour
  if 0xDC00 ≤ lead ∧ lead ≤ 0xDFFF then fail .loneSurrogate
  else if lead < 0xD800 ∨ 0xDBFF < lead then return encoded lead
  else do
    pairMark 0x5C
    pairMark 0x75
    let trail ← hexFour
    if trail < 0xDC00 ∨ 0xDFFF < trail then fail .loneSurrogate
    else return encoded ((lead - 0xD800) * 0x400 + (trail - 0xDC00) + 0x10000)

def escape : Reader (List UInt8) := do
  match ← next with
  | none => fail .endInString
  | some octet =>
      if octet == 0x22 || octet == 0x5C || octet == 0x2F then return [octet]
      else if octet == 0x62 then return [0x08]
      else if octet == 0x66 then return [0x0C]
      else if octet == 0x6E then return [0x0A]
      else if octet == 0x72 then return [0x0D]
      else if octet == 0x74 then return [0x09]
      else if octet == 0x75 then hexEscape
      else fail .invalidEscape

def stringOctets : Nat → List UInt8 → Reader (List UInt8)
  | 0, _ => fail .endInString
  | more + 1, taken => do
      match ← next with
      | none => fail .endInString
      | some octet =>
          if octet == 0x22 then return taken
          else if octet == 0x5C then do
            let octets ← escape
            stringOctets more (octets.reverse ++ taken)
          else if octet < 0x20 then fail .controlCharacter
          else stringOctets more (octet :: taken)

def string : Reader String := do
  let taken ← stringOctets ((← get).left + 1) []
  match Text.strictText taken.reverse with
  | some text => return text
  | none => fail .invalidCodePoint

def skipString : Nat → Reader Unit
  | 0 => fail .endInString
  | more + 1 => do
      match ← peek with
      | none => fail .endInString
      | some octet =>
          if octet == 0x22 then skip
          else if octet == 0x5C then do
            skip
            match ← next with
            | none => fail .endInString
            | some mark =>
                if mark == 0x75 then do
                  let _ ← hexFour
                  skipString more
                else if [0x22, 0x5C, 0x2F, 0x62, 0x66, 0x6E, 0x72, 0x74].contains mark then
                  skipString more
                else fail .invalidEscape
          else if octet < 0x20 then fail .controlCharacter
          else do
            skip
            skipString more

/-! Lists and objects, from the octet after the opening bracket. -/

def itemFollows (first : Bool) : Reader Bool := do
  match ← token with
  | none => failPeek .endInList
  | some octet =>
      if octet == 0x5D then return false
      else if first then return true
      else if octet == 0x2C then do
        skip
        match ← token with
        | some after => if after == 0x5D then failPeek .trailingComma else return true
        | none => failPeek .endInValue
      else failPeek .listCommaOrEndExpected

def listEnd : Reader Unit := do
  match ← token with
  | none => failPeek .endInList
  | some octet =>
      if octet == 0x5D then skip
      else if octet == 0x2C then do
        skip
        match ← token with
        | some after =>
            if after == 0x5D then failPeek .trailingComma else failPeek .trailingCharacters
        | none => failPeek .trailingCharacters
      else failPeek .trailingCharacters

def fieldFollows (first : Bool) : Reader Bool := do
  match ← token with
  | none => failPeek .endInObject
  | some octet =>
      if octet == 0x7D then return false
      else if first then
        if octet == 0x22 then return true else failPeek .keyNotString
      else if octet == 0x2C then do
        skip
        match ← token with
        | some after =>
            if after == 0x22 then return true
            else if after == 0x7D then failPeek .trailingComma
            else failPeek .keyNotString
        | none => failPeek .endInValue
      else failPeek .objectCommaOrEndExpected

def objectEnd : Reader Unit := do
  match ← token with
  | none => failPeek .endInObject
  | some octet =>
      if octet == 0x7D then skip
      else if octet == 0x2C then failPeek .trailingComma
      else failPeek .trailingCharacters

def colon : Reader Unit := do
  match ← token with
  | none => failPeek .endInObject
  | some octet => if octet == 0x3A then skip else failPeek .colonExpected

def finish : Reader Unit := do
  match ← token with
  | none => pure ()
  | some _ => failPeek .trailingCharacters

end Reader

namespace Reader

def items (item : Reader α) : Nat → Bool → Reader (List α)
  | 0, _ => failPeek .endInList
  | more + 1, first => do
      if ← itemFollows first then
        let head ← item
        return head :: (← items item more false)
      else return []

def fields (value : Reader α) : Nat → Bool → Reader (List (String × α))
  | 0, _ => failPeek .endInObject
  | more + 1, first => do
      if ← fieldFollows first then
        skip
        let name ← string
        colon
        let content ← value
        return (name, content) :: (← fields value more false)
      else return []

def value (levels : Nat) : Reader Json := do
  match ← token with
  | none => failPeek .endInValue
  | some octet =>
      if octet == 0x6E then do
        skip; letters ['u', 'l', 'l']
        return .null
      else if octet == 0x74 then do
        skip; letters ['r', 'u', 'e']
        return .boolean true
      else if octet == 0x66 then do
        skip; letters ['a', 'l', 's', 'e']
        return .boolean false
      else if octet == 0x2D then do
        skip
        return .number (← number true)
      else if isDigit octet then
        return .number (← number false)
      else if octet == 0x22 then do
        skip
        return .string (← string)
      else if octet == 0x5B then
        match levels with
        | 0 => failPeek .tooDeep
        | below + 1 => do
            skip
            let content ← items (value below) ((← get).left + 1) true
            listEnd
            return .array content
      else if octet == 0x7B then
        match levels with
        | 0 => failPeek .tooDeep
        | below + 1 => do
            skip
            let content ← fields (value below) ((← get).left + 1) true
            objectEnd
            return .object (Fields.ofList content)
      else failPeek .valueExpected

def run (reader : Reader α) (octets : List UInt8) : Except Error α :=
  ((do let result ← reader; finish; return result : Reader α) (Cursor.start octets)).1

end Reader

def levelLimit : Nat := 127

def parseWithin (levels : Nat) (octets : List UInt8) : Except Error Json :=
  (Reader.value levels).run octets

def parse (octets : List UInt8) : Except Error Json := parseWithin levelLimit octets

end ResourceWatch.Json
