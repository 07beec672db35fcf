import ResourceWatch.Text

/-!
Numeric hosts. An address of four octets is up to four numbers between points, each decimal, octal
or hexadecimal, of which the last fills all octets that are left. An address of eight groups is
written in hexadecimal between colons; a double colon stands for one or more groups of zero, and the
last two groups may be written as four decimal octets.

Addresses of resources, in parts: a scheme, an authority with a host and what belongs to it, a path,
a query and a fragment. All parts are kept in the form in which they are written, so the text of an
address is its parts between their separators.
-/

namespace ResourceWatch.Url.Address

def numeral (base : Nat) (value? : Char → Option Nat) (digits : List Char) : Option Nat :=
  digits.foldlM (fun sum char => (value? char).map (sum * base + ·)) 0

def digitValue? (base : Nat) (char : Char) : Option Nat :=
  let value? :=
    if '0' ≤ char ∧ char ≤ '9' then some (char.toNat - 0x30)
    else if 'a' ≤ char ∧ char ≤ 'f' then some (char.toNat - 0x57)
    else if 'A' ≤ char ∧ char ≤ 'F' then some (char.toNat - 0x37)
    else none
  value?.filter (· < base)

/-- A number of a pointed address: hexadecimal after `0x`, octal after another zero, else decimal. -/
def pointedNumber? : List Char → Option Nat
  | [] => none
  | '0' :: 'x' :: digits | '0' :: 'X' :: digits => numeral 16 (digitValue? 16) digits
  | '0' :: digit :: digits => numeral 8 (digitValue? 8) (digit :: digits)
  | digits => numeral 10 (digitValue? 10) digits

def parts (name : List Char) : List (List Char) :=
  let all := Text.splitOn (· == '.') name
  if 1 < all.length && all.getLast? == some [] then all.dropLast else all

def endsInNumber (name : List Char) : Bool :=
  match (parts name).getLast? with
  | some last =>
      (!last.isEmpty && last.all fun char => '0' ≤ char ∧ char ≤ '9') ||
        (pointedNumber? last).isSome
  | none => false

/-- The address of numbers: each but the last is one octet, and the last is all the others. -/
def ofNumbers? (numbers : List Nat) : Option Nat :=
  match numbers.getLast? with
  | some last =>
      let before := numbers.dropLast
      if 3 < before.length ∨ before.any (255 < ·) ∨ Nat.pow 256 (4 - before.length) ≤ last then none
      else some (before.foldr (fun octet place => octet * 16777216 + place / 256) 0 + last)
  | none => none

def pointed? (name : List Char) : Option Nat :=
  ((parts name).mapM pointedNumber?).bind ofNumbers?

def pointedText (address : Nat) : String :=
  String.intercalate "." ([3, 2, 1, 0].map fun place => toString (address / Nat.pow 256 place % 256))

def group? (digits : List Char) : Option Nat :=
  if digits.isEmpty ∨ 4 < digits.length then none else numeral 16 (digitValue? 16) digits

def octet? (digits : List Char) : Option Nat :=
  match digits with
  | [] => none
  | '0' :: _ :: _ => none
  | _ => (numeral 10 (digitValue? 10) digits).filter (· ≤ 255)

def groups? : List (List Char) → Option (List Nat)
  | [] => some []
  | [last] =>
      if last.contains '.' then
        match (Text.splitOn (· == '.') last).mapM octet? with
        | some [a, b, c, d] => some [a * 256 + b, c * 256 + d]
        | _ => none
      else (group? last).map fun value => [value]
  | head :: rest => do return (← group? head) :: (← groups? rest)

def side? (text : List Char) : Option (List Nat) :=
  if text.isEmpty then some [] else groups? (Text.splitOn (· == ':') text)

def cutAtGap? : List Char → Option (List Char × List Char)
  | ':' :: ':' :: rest => some ([], rest)
  | char :: rest => (cutAtGap? rest).map fun sides => (char :: sides.1, sides.2)
  | [] => none

def grouped? (text : List Char) : Option (List Nat) :=
  match cutAtGap? text with
  | none => (side? text).filter (·.length == 8)
  | some (front, back) =>
      if front.contains '.' then none
      else do
        let left ← side? front
        let right ← side? back
        if 7 < left.length + right.length then none
        else some (left ++ List.replicate (8 - left.length - right.length) 0 ++ right)

def longestGap (position : Nat) : List Nat → Nat × Nat
  | [] => (position, 0)
  | group :: rest =>
      let run := ((group :: rest).takeWhile (· == 0)).length
      let later := longestGap (position + 1) rest
      if later.2 ≤ run then (position, run) else later

def groupedText (groups : List Nat) : String :=
  let written (part : List Nat) : String := String.intercalate ":" (part.map Text.hex)
  let (position, length) := longestGap 0 groups
  if length < 2 then written groups
  else written (groups.take position) ++ "::" ++ written (groups.drop (position + length))

end ResourceWatch.Url.Address

namespace ResourceWatch

namespace Url

inductive Host where
  | domain (name : String)
  | pointed (address : Nat)
  | grouped (groups : List Nat)
  deriving DecidableEq, Repr

def Host.text : Host → String
  | .domain name => name
  | .pointed address => Address.pointedText address
  | .grouped groups => "[" ++ Address.groupedText groups ++ "]"

structure Authority where
  username : String := ""
  password : String := ""
  host : Option Host := none
  port : Option UInt16 := none
  deriving DecidableEq, Repr

inductive Path where
  | segments (names : List String)
  | whole (text : String)
  deriving DecidableEq, Repr

end Url

structure Url where
  scheme : String
  authority : Option Url.Authority
  path : Url.Path
  query : Option String := none
  fragment : Option String := none
  /-- Whether a dot stands in front of the path, so that the two slashes at its head do not begin an
  authority. -/
  guarded : Bool := false
  deriving DecidableEq, Repr

namespace Url

def specialPort? (scheme : String) : Option UInt16 :=
  [("http", 80), ("https", 443), ("ws", 80), ("wss", 443), ("ftp", 21)].lookup scheme

def isSpecialScheme (scheme : String) : Bool :=
  scheme == "file" || (specialPort? scheme).isSome

def Authority.text (authority : Authority) : String :=
  let user :=
    if authority.username.isEmpty && authority.password.isEmpty then ""
    else if authority.password.isEmpty then authority.username ++ "@"
    else authority.username ++ ":" ++ authority.password ++ "@"
  user ++ ((authority.host.map Host.text).getD "") ++
    ((authority.port.map fun port => s!":{port}").getD "")

def Path.text : Path → String
  | .segments names => String.join (names.map ("/" ++ ·))
  | .whole text => text

def Path.startsDoubly : Path → Bool
  | .segments ("" :: _ :: _) => true
  | _ => false

def text (url : Url) : String :=
  url.scheme ++ ":" ++ ((url.authority.map fun authority => "//" ++ authority.text).getD "") ++
    (if url.guarded then "/." else "") ++ url.path.text ++ ((url.query.map ("?" ++ ·)).getD "") ++
    ((url.fragment.map ("#" ++ ·)).getD "")

def anonymous (url : Url) : Url :=
  { url with authority := url.authority.map fun authority =>
      { authority with username := "", password := "" } }

def hasHost (url : Url) : Bool := (url.authority.bind (·.host)).isSome

end Url

end ResourceWatch
