import ResourceWatch.Text
import ResourceWatch.Unicode.Folding
import ResourceWatch.Unicode.Property

/-!
The ASCII form of a host label: its ASCII characters, and after a hyphen the other characters in
ascending order, each as the distance from the one before. A distance is written in digits of a
variable base whose thresholds adapt to the distances so far.

Domain names in ASCII. A name is folded first; then each label with a character beyond ASCII is written
in its ASCII form, and a label that comes in that form is read, to see that it is the form of a folded
label. No label begins with a mark, joiners stand only where they change how letters join, and in a
name with letters written from right to left no label mixes the directions.
-/

namespace ResourceWatch.Url.Punycode

def digit (value : Nat) : Char :=
  if value < 26 then Char.ofNat (0x61 + value) else Char.ofNat (0x30 + value - 26)

def digitValue? (char : Char) : Option Nat :=
  if 'a' ≤ char ∧ char ≤ 'z' then some (char.toNat - 0x61)
  else if 'A' ≤ char ∧ char ≤ 'Z' then some (char.toNat - 0x41)
  else if '0' ≤ char ∧ char ≤ '9' then some (char.toNat - 0x30 + 26)
  else none

def threshold (position bias : Nat) : Nat :=
  if position ≤ bias then 1 else if bias + 26 ≤ position then 26 else position - bias

theorem threshold_pos (position bias : Nat) : 1 ≤ threshold position bias := by
  unfold threshold
  split
  · omega
  · split <;> omega

def settle (distance positions : Nat) : Nat × Nat :=
  if 455 < distance then settle (distance / 35) (positions + 36) else (distance, positions)
termination_by distance
decreasing_by omega

def adapt (distance count : Nat) (first : Bool) : Nat :=
  let halved := if first then distance / 700 else distance / 2
  let (rest, positions) := settle (halved + halved / count) 0
  positions + 36 * rest / (rest + 38)

def distanceDigits (bias position distance : Nat) : List Char :=
  let limit := threshold position bias
  if distance < limit then [digit distance]
  else
    digit (limit + (distance - limit) % (36 - limit)) ::
      distanceDigits bias (position + 36) ((distance - limit) / (36 - limit))
termination_by distance
decreasing_by
  have low := threshold_pos position bias
  calc (distance - threshold position bias) / (36 - threshold position bias)
      ≤ distance - threshold position bias := Nat.div_le_self ..
    _ < distance := by omega

/-- A writer: what is written, the distance gathered, the bias, and the characters handled. -/
structure Writer where
  written : List Char
  distance : Nat
  bias : Nat
  handled : Nat

/-- Passes one character of the label while the given code point is being written. -/
def Writer.pass (plain code : Nat) (writer : Writer) (char : Char) : Writer :=
  if char.toNat < code then { writer with distance := writer.distance + 1 }
  else if char.toNat = code then
    { written := writer.written ++ distanceDigits writer.bias 36 writer.distance
      distance := 0
      bias := adapt writer.distance (writer.handled + 1) (writer.handled == plain)
      handled := writer.handled + 1 }
  else writer

def writeAll (label : List Char) (plain : Nat) : List Nat → Nat → Writer → Writer
  | [], _, writer => writer
  | code :: rest, next, writer =>
      -- Each code point that is stepped over passes all places between the characters handled.
      let moved := { writer with
        distance := writer.distance + (code - next) * (writer.handled + 1) }
      let passed := label.foldl (Writer.pass plain code) moved
      writeAll label plain rest (code + 1) { passed with distance := passed.distance + 1 }

def isWide (char : Char) : Bool := 0x80 ≤ char.toNat

def encode (label : List Char) : List Char :=
  let plain := label.filter (!isWide ·)
  let codes := ((label.filter isWide).map Char.toNat).mergeSort.eraseDups
  let writer := writeAll label plain.length codes 0x80 ⟨[], 0, 72, plain.length⟩
  plain ++ (if plain.isEmpty then [] else ['-']) ++ writer.written

def readDistance (bias : Nat) : List Char → Nat → Nat → Nat → Option (Nat × List Char)
  | [], _, _, _ => none
  | char :: rest, position, weight, sum =>
      match digitValue? char with
      | none => none
      | some value =>
          let limit := threshold position bias
          if value < limit then some (sum + value * weight, rest)
          else readDistance bias rest (position + 36) (weight * (36 - limit)) (sum + value * weight)

/-- Reads distances and puts each character where its distance says, as often as told. -/
def readAll : Nat → List Char → Nat → Nat → Nat → List Char → Option (List Char)
  | _, [], _, _, _, label => some label
  | 0, _ :: _, _, _, _, _ => none
  | more + 1, digits, code, place, bias, label =>
      match readDistance bias digits 36 1 place with
      | none => none
      | some (sum, rest) =>
          let count := label.length + 1
          let found := code + sum / count
          -- A distance counts the places in the label first and the code points in rounds of them.
          let position := sum % count
          if found.isValidChar then
            readAll more rest found (position + 1) (adapt (sum - place) count (place == 0))
              (label.take position ++ Char.ofNat found :: label.drop position)
          else none

def decode (form : List Char) : Option (List Char) :=
  let (plain, digits) := match Text.cutAtLast? '-' form with
    | some (first :: plain, digits) => (first :: plain, digits)
    | _ => ([], form)
  if plain.any isWide then none
  else readAll digits.length digits 0x80 0 72 plain

end ResourceWatch.Url.Punycode

namespace ResourceWatch.Url.Domain

open ResourceWatch.Unicode

def isForbidden (char : Char) : Bool :=
  char.toNat ≤ 0x20 || char.toNat == 0x7F || "%#/:<>?@[\\]^|".toList.contains char

def asciiMark : List Char := "xn--".toList

def longestLabel : Nat := 1000

def longestForm : Nat := 2000

def isMark (char : Char) : Bool := nonspacing.contains char || spacing.contains char

def zeroWidthNonJoiner : Char := '\u200c'

def zeroWidthJoiner : Char := '\u200d'

/-- The class of the marks that take the vowel from a letter, so that it joins to the next one. -/
def viramaClass : Nat := 9

def reaches (set : CodeSet) (chars : List Char) : Bool :=
  match chars.dropWhile fun char => nonspacing.contains char || char == joiningLetter with
  | char :: _ => set.contains char
  | [] => false

/-- Whether each joiner in a label changes how letters join, given what comes before it from the nearest
character on: it follows a virama, or it parts two letters that would join. -/
def joinsWell (before : List Char) : List Char → Bool
  | [] => true
  | char :: rest =>
      let sound : Bool :=
        if char == zeroWidthNonJoiner || char == zeroWidthJoiner then
          match before with
          | [] => false
          | previous :: _ =>
              markClass previous == viramaClass ||
                (char == zeroWidthNonJoiner && reaches joinsNext before && reaches joinsPrevious rest)
        else true
      sound && joinsWell (char :: before) rest

inductive Direction where
  | rightward
  | leftward
  | western
  | eastern
  | neutral
  | mark
  deriving DecidableEq, Repr

def direction (char : Char) : Direction :=
  if leftward.contains char then .leftward
  else if westernDigits.contains char then .western
  else if easternDigits.contains char then .eastern
  else if neutral.contains char then .neutral
  else if nonspacing.contains char && !upright.contains char then .mark
  else .rightward

/-- Whether a label keeps to the direction of its first letter: it has letters of that direction alone,
ends in one of them or in a digit, marks apart, and one from right to left has digits of one kind. -/
def keepsDirection (label : List Char) : Bool :=
  match label.map direction with
  | [] => true
  | first :: others =>
      let last := (others.reverse.dropWhile (· == .mark)).head?
      match first with
      | .rightward =>
          (last.map fun last => last == .rightward || last == .western).getD true &&
            others.all fun other => other != .leftward && other != .eastern
      | .leftward =>
          (last.map fun last => last == .leftward || last == .western || last == .eastern).getD true &&
            others.all (· != .rightward) && !(others.contains .western && others.contains .eastern)
      | _ => false

structure Label where
  chars : List Char
  form : Option (List Char) := none

def read? (form : List Char) : Option (List Char) := do
  let chars ← if form.length ≤ longestForm then Punycode.decode form else none
  let sound := chars.any Punycode.isWide && !chars.any (fun char => isForbidden char || char == '.')
  if sound && foldedText? chars == some chars then some chars else none

def label? (folded : List Char) : Option Label := do
  let label : Label ←
    if asciiMark.isPrefixOf folded then
      (read? (folded.drop asciiMark.length)).map fun chars => ⟨chars, some folded⟩
    else some { chars := folded }
  let chars := label.chars
  let sound := !(chars.head?.map isMark).getD false && joinsWell [] chars &&
    (chars.all (!Punycode.isWide ·) || chars.length ≤ longestLabel)
  if sound then some label else none

def Label.ascii (label : Label) : List Char :=
  match label.form with
  | some form => form
  | none =>
      if label.chars.any Punycode.isWide then asciiMark ++ Punycode.encode label.chars
      else label.chars

def ofChars? (name : List Char) : Option (List Char) := do
  let folded ← foldedText? name
  if folded.any isForbidden then none
  else
    let labels ← (Text.splitOn (· == '.') folded).mapM label?
    let leftwards := labels.any fun label => label.chars.any fun char =>
      direction char == .leftward || direction char == .eastern
    if leftwards && !labels.all (keepsDirection ·.chars) then none
    else return List.intercalate ['.'] (labels.map (·.ascii))

def ofOctets? (octets : List UInt8) : Option (List Char) := do
  ofChars? (← Text.strictText octets).toList

end ResourceWatch.Url.Domain
