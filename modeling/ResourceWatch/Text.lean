import ResourceWatch.Unicode.Property

/-!
Texts: blanks and cuts, digits, readers, octets and quotes.
-/

namespace ResourceWatch.Text

/-!
Blank characters and trimming. A character is blank when Unicode gives it the property White_Space:
the ASCII controls from tab to carriage return, the space, and the wider spaces and line breaks.
-/

def isBlank (char : Char) : Bool :=
  let code := char.toNat
  (0x09 ≤ code && code ≤ 0x0D) || code == 0x20 || code == 0x85 || code == 0xA0 ||
    code == 0x1680 || (0x2000 ≤ code && code ≤ 0x200A) || code == 0x2028 || code == 0x2029 ||
    code == 0x202F || code == 0x205F || code == 0x3000

def stripList (test : Char → Bool) (chars : List Char) : List Char :=
  ((chars.dropWhile test).reverse.dropWhile test).reverse

def trim (text : String) : String :=
  String.ofList (stripList isBlank text.toList)

def trimEnd (char : Char) (text : String) : String :=
  String.ofList ((text.toList.reverse.dropWhile (· == char)).reverse)

def capital (char : Char) : Char :=
  if 'a' ≤ char ∧ char ≤ 'z' then Char.ofNat (char.toNat - 32) else char

/-!
Cutting lists of characters at separators.
-/

/-- The pieces between separators; there is one more of them than separators. -/
def splitOn (separates : Char → Bool) : List Char → List (List Char)
  | [] => [[]]
  | char :: rest =>
      if separates char then [] :: splitOn separates rest
      else match splitOn separates rest with
        | [] => [[char]]
        | piece :: pieces => (char :: piece) :: pieces

def cutAt (test : Char → Bool) (chars : List Char) : List Char × List Char :=
  (chars.takeWhile (!test ·), chars.dropWhile (!test ·))

def cutAtLast? (separator : Char) (chars : List Char) : Option (List Char × List Char) :=
  if chars.contains separator then
    let behind := (chars.reverse.takeWhile (· != separator)).reverse
    some (chars.take (chars.length - behind.length - 1), behind)
  else none

/-!
Hexadecimal digits, capital or not.
-/

def hexValue? (char : Char) : Option Nat :=
  if '0' ≤ char ∧ char ≤ '9' then some (char.toNat - 0x30)
  else if 'a' ≤ char ∧ char ≤ 'f' then some (char.toNat - 0x57)
  else if 'A' ≤ char ∧ char ≤ 'F' then some (char.toNat - 0x37)
  else none

def isHexDigit (char : Char) : Bool := (hexValue? char).isSome

def hexNumber? (digits : List Char) : Option Nat :=
  digits.foldlM (fun sum char => (hexValue? char).map (sum * 16 + ·)) 0

/-!
Readers take characters from the front of a text and give nothing when the text does not have the
expected form.
-/

abbrev Reader := StateT (List Char) Option

namespace Reader

def peek : Reader (Option Char) := fun chars => some (chars.head?, chars)

def expect (char : Char) : Reader Unit := fun chars =>
  match chars with
  | first :: rest => if first == char then some ((), rest) else none
  | [] => none

def accept (char : Char) : Reader Bool := fun chars =>
  match chars with
  | first :: rest => if first == char then some (true, rest) else some (false, chars)
  | [] => some (false, [])

def word (chars : List Char) : Reader Unit := chars.forM expect

def takeWhile (test : Char → Bool) : Reader (List Char) := fun chars =>
  some (chars.takeWhile test, chars.dropWhile test)

def finish : Reader Unit := fun chars => if chars.isEmpty then some ((), []) else none

end Reader

/-!
Reading octets as UTF-8 without ever refusing them. Well-formed characters are read as they are;
each longest start of a character that the next octet breaks off, and each octet that starts none,
reads as one replacement character.
-/

def replacement : Char := '\uFFFD'

/-- How many octets follow a lead octet, and the range its second octet has to lie in. The range is
narrower than that of the later octets where a wider one would allow overlong forms, surrogates or
values past the last code point. -/
def leadShape (lead : UInt8) : Option (Nat × Nat × Nat) :=
  let value := lead.toNat
  if 0xC2 ≤ value && value ≤ 0xDF then some (1, 0x80, 0xBF)
  else if value == 0xE0 then some (2, 0xA0, 0xBF)
  else if value == 0xED then some (2, 0x80, 0x9F)
  else if 0xE1 ≤ value && value ≤ 0xEF then some (2, 0x80, 0xBF)
  else if value == 0xF0 then some (3, 0x90, 0xBF)
  else if 0xF1 ≤ value && value ≤ 0xF3 then some (3, 0x80, 0xBF)
  else if value == 0xF4 then some (3, 0x80, 0x8F)
  else none

def leadBits (following : Nat) (lead : UInt8) : Nat :=
  lead.toNat % Nat.pow 2 (6 - following)

/-- Where a reader stands: between characters, or inside one with its bits so far, the number of
octets it still owes and the range of the next of them. -/
inductive Pending where
  | none
  | inside (bits owed low high : Nat)

def startOctet (octet : UInt8) : List Char × Pending :=
  if octet.toNat < 0x80 then ([Char.ofNat octet.toNat], .none)
  else match leadShape octet with
    | some (following, low, high) => ([], .inside (leadBits following octet) following low high)
    | Option.none => ([replacement], .none)

def lossyChars : Pending → List UInt8 → List Char
  | .none, [] => []
  | .inside .., [] => [replacement]
  | .none, octet :: rest =>
      let next := startOctet octet
      next.1 ++ lossyChars next.2 rest
  | .inside bits owed low high, octet :: rest =>
      if low ≤ octet.toNat && octet.toNat ≤ high then
        let sum := bits * 64 + octet.toNat % 64
        if owed ≤ 1 then Char.ofNat sum :: lossyChars .none rest
        else lossyChars (.inside sum (owed - 1) 0x80 0xBF) rest
      else
        let next := startOctet octet
        replacement :: next.1 ++ lossyChars next.2 rest

def lossyText (octets : List UInt8) : String :=
  String.ofList (lossyChars .none octets)

def octets (text : String) : List UInt8 :=
  text.toUTF8.toList

theorem loop_drops (bytes : ByteArray) (start : Nat) (before : List UInt8) :
    ByteArray.toList.loop bytes start before = before.reverse ++ bytes.data.toList.drop start := by
  fun_induction ByteArray.toList.loop bytes start before with
  | case1 start before more ih =>
      have inside : start < bytes.data.toList.length := more
      have here : bytes.get! start = bytes.data.toList[start] := by
        show bytes.data[start]! = _
        rw [getElem!_pos bytes.data start more, Array.getElem_toList]
      rw [ih, List.drop_eq_getElem_cons inside, here]
      simp
  | case2 start before more =>
      have outside : bytes.data.toList.length ≤ start := Nat.not_lt.mp more
      simp [List.drop_eq_nil_of_le outside]

theorem octets_eq (text : String) : octets text = text.toByteArray.data.toList :=
  loop_drops text.toByteArray 0 []

theorem octets_append (front back : String) :
    octets (front ++ back) = octets front ++ octets back := by
  simp [octets_eq, String.toByteArray_append, ByteArray.data_append]

theorem octets_cons (char : Char) (rest : List Char) :
    octets (String.ofList (char :: rest)) =
      octets (String.singleton char) ++ octets (String.ofList rest) := by
  rw [← octets_append, String.singleton_eq_ofList, ← String.ofList_append]
  rfl

theorem octets_inj {text other : String} (same : octets text = octets other) : text = other := by
  rw [octets_eq, octets_eq] at same
  rw [← String.toByteArray_inj]
  exact ByteArray.ext (Array.toList_inj.mp same)

@[simp] theorem octets_empty : octets "" = [] := by
  simp [octets_eq]

def strictText (octets : List UInt8) : Option String :=
  String.fromUTF8? ⟨octets.toArray⟩

/-!
Characters with no visible form of their own: controls, format characters, separators other than
the space, private-use and unassigned code points, fillers, and the marks that extend the character
before them. Quoted text writes them as escapes, since a reader could not tell them apart on the page.
-/

def isHidden (char : Char) : Bool :=
  let code := char.toNat
  if 0x20 ≤ code ∧ code < 0x7F then false
  else Unicode.unassigned.contains char || Unicode.nonspacing.contains char ||
    Unicode.veiled.contains char

/-!
Quoted text: a string between double quotes in which every character that is not plainly visible is
an escape, so that two different strings never look the same.
-/

def hex (value : Nat) : String :=
  String.ofList (Nat.toDigits 16 value)

def quotedChar (char : Char) : String :=
  if char == '\x00' then "\\0"
  else if char == '\t' then "\\t"
  else if char == '\r' then "\\r"
  else if char == '\n' then "\\n"
  else if char == '"' then "\\\""
  else if char == '\\' then "\\\\"
  else if isHidden char then "\\u\x7b" ++ hex char.toNat ++ "\x7d"
  else char.toString

def quoted (text : String) : String :=
  "\"" ++ String.join (text.toList.map quotedChar) ++ "\""

end ResourceWatch.Text
