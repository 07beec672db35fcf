import ResourceWatch.Text
import ResourceWatch.Url.Basic

/-!
Percent-encoding. A character of the set to encode is written as a percent sign and two capital
hexadecimal digits for each octet of its UTF-8 form. Each part of an address has a set of its own;
every set holds the controls and all characters beyond ASCII.

Paths of segments. Segments of dots walk along the path: one dot stays, two go back. A drive letter
at the head of a file's path is written with a colon, and no segment that looks like a drive is ever
gone back over. Tabs and line breaks do not count, except that one of them behind the drive letter at
the head of a file's path cuts the letter off from what follows.
-/

namespace ResourceWatch.Url.Percent

abbrev CharSet := Char → Bool

def controls : CharSet := fun char => char.toNat < 0x20 || 0x7E < char.toNat

def CharSet.adding (set : CharSet) (more : String) : CharSet :=
  fun char => set char || more.toList.contains char

def inFragment : CharSet := controls.adding " \"<>`"

def inQuery : CharSet := controls.adding " \"#<>"

def inSpecialQuery : CharSet := inQuery.adding "'"

def inPath : CharSet := inFragment.adding "#?\x7b\x7d"

def inUserInfo : CharSet := inPath.adding "/:;=@[\\]^|"

/-- What a single segment of a path encodes, so that it stays one segment and decodes to itself. -/
def inSegment : CharSet := inPath.adding "/%"

def inSpecialSegment : CharSet := inSegment.adding "\\"

def hexDigit (value : Nat) : Char :=
  if value < 10 then Char.ofNat (0x30 + value) else Char.ofNat (0x37 + value)

def ofOctet (octet : UInt8) : List Char :=
  ['%', hexDigit (octet.toNat / 16), hexDigit (octet.toNat % 16)]

def ofChar (set : CharSet) (char : Char) : List Char :=
  if set char then (Text.octets (String.singleton char)).flatMap ofOctet else [char]

def encode (set : CharSet) (chars : List Char) : List Char := chars.flatMap (ofChar set)

def octetOf? (high low : Char) : Option UInt8 :=
  match Text.hexValue? high, Text.hexValue? low with
  | some first, some second => some (UInt8.ofNat (first * 16 + second))
  | _, _ => none

def decode : List Char → List UInt8
  | [] => []
  | '%' :: high :: low :: rest =>
      match octetOf? high low with
      | some octet => octet :: decode rest
      | none => 0x25 :: decode (high :: low :: rest)
  | char :: rest => Text.octets (String.singleton char) ++ decode rest

end ResourceWatch.Url.Percent

namespace ResourceWatch.Url

def isBreak (char : Char) : Bool := char == '\t' || char == '\n' || char == '\r'

def withoutBreaks (chars : List Char) : List Char := chars.filter (!isBreak ·)

def isDriveLetter : List Char → Bool
  | [letter, mark] => letter.isAlpha && (mark == ':' || mark == '|')
  | _ => false

namespace Path

def dotForms : List (List Char) := [['.'], "%2e".toList, "%2E".toList]

def isSingleDot (piece : List Char) : Bool := dotForms.contains piece

def isDoubleDot (piece : List Char) : Bool :=
  dotForms.any fun first => dotForms.any fun second => piece == first ++ second

def isDrive (name : List Char) : Bool :=
  isDriveLetter (name.take 2) && (name.length == 2 || (name.drop 2).head? == some '\\')

/-- Names from the latest on without the latest one, which stays when it looks like a drive. -/
def back : List String → List String
  | last :: before => if isDrive last.toList then last :: before else before
  | [] => []

/-- The drive letter in front of a piece and what it is cut off from by a tab or a line break, if
that is anything. -/
def cutDrive? (piece : List Char) : Option (List Char × List Char) :=
  match withoutBreaks piece with
  | letter :: ':' :: next :: rest =>
      let behind := (piece.dropWhile (· != ':')).drop 1
      if letter.isAlpha && (behind.head?.map isBreak).getD false then
        some ([letter, ':'], next :: rest)
      else none
  | _ => none

/-- The segments walked over from the latest on, and whether a drive letter of its own was found at
their head. -/
structure Walk where
  latest : List String := []
  onDrive : Bool := false

def Walk.names (walk : Walk) : List String := walk.latest.reverse

def Walk.along (names : List String) : Walk := ⟨names.reverse, false⟩

/-- The segments behind one more piece. A piece that is written as dots walks, and at the end leaves
an empty segment. -/
def Walk.plain (walk : Walk) (name : List Char) (isLast : Bool) : Walk :=
  let trail := if isLast then [""] else []
  if isDoubleDot name then { walk with latest := trail ++ back walk.latest }
  else if isSingleDot name then { walk with latest := trail ++ walk.latest }
  else { walk with latest := String.ofList name :: walk.latest }

def Walk.step (encoded : Percent.CharSet) (ofFile : Bool) (walk : Walk) (piece : List Char)
    (isLast : Bool) : Walk :=
  let counted := withoutBreaks piece
  if ofFile && walk.latest.isEmpty then
    if isDriveLetter counted then ⟨[String.ofList (counted.take 1 ++ [':'])], true⟩
    else match cutDrive? piece with
      | some (drive, rest) =>
          { walk with
            latest := [String.ofList (Percent.encode encoded rest), String.ofList drive] }
      | none => walk.plain (Percent.encode encoded counted) isLast
  else walk.plain (Percent.encode encoded counted) isLast

def Walk.all (encoded : Percent.CharSet) (ofFile : Bool) : Walk → List (List Char) → Walk
  | walk, [] => walk
  | walk, [piece] => walk.step encoded ofFile piece true
  | walk, piece :: rest => Walk.all encoded ofFile (walk.step encoded ofFile piece false) rest

def separates (scheme : String) (char : Char) : Bool :=
  char == '/' || (isSpecialScheme scheme && char == '\\')

def walkOver (scheme : String) (chars : List Char) : Walk :=
  Walk.all Percent.inPath (scheme == "file") {} (Text.splitOn (separates scheme) chars)

/-- The walk over a text. The slash at its head, if there is one, belongs to the first segment. -/
def walkFromRoot (scheme : String) (chars : List Char) : Walk :=
  match chars.dropWhile isBreak with
  | first :: rest => walkOver scheme (if separates scheme first then rest else chars)
  | [] => walkOver scheme []

def withoutEmptyHead (names : List String) : List String :=
  match names.dropWhile String.isEmpty with
  | [] => [""]
  | kept => kept

end Path

end ResourceWatch.Url
