import ResourceWatch.Url.Domain
import ResourceWatch.Url.Path

/-!
Addresses from text. Blanks and controls around the text and line breaks and tabs anywhere in it do
not count. Special schemes have a host whatever number of slashes stands before it; others have one
only after two slashes, and a path with structure only after at least one.

Addresses extended by one more segment or by parameters. A segment is encoded so that it decodes to
the text it was made of and never is a separator; query parameters are encoded as forms are.
-/

namespace ResourceWatch.Url

inductive Fault where
  | noScheme
  | emptyHost
  | invalidPort
  | invalidPointed
  | invalidGrouped
  | invalidDomain
  | invalidName
  deriving DecidableEq, Repr

def Fault.message : Fault → String
  | .noScheme => "relative URL without a base"
  | .emptyHost => "empty host"
  | .invalidPort => "invalid port number"
  | .invalidPointed => "invalid IPv4 address"
  | .invalidGrouped => "invalid IPv6 address"
  | .invalidDomain => "invalid international domain name"
  | .invalidName => "invalid domain character"

namespace Parser

def stripped (text : String) : List Char :=
  let inner := (text.toList.dropWhile (· ≤ ' ')).reverse.dropWhile (· ≤ ' ')
  inner.reverse

def scheme? (chars : List Char) : Option (String × List Char) :=
  let (front, rest) := Text.cutAt (· == ':') chars
  let name := withoutBreaks front
  let inName (char : Char) : Bool := char.isAlphanum || "+-.".toList.contains char
  match name, rest with
  | first :: _, _ :: behind =>
      if first.isAlpha && name.all inName then some (String.ofList (name.map Char.toLower), behind)
      else none
  | _, _ => none

def isSlash (special : Bool) (char : Char) : Bool := char == '/' || (special && char == '\\')

def endsPath (char : Char) : Bool := char == '?' || char == '#'

def bracketed? (name : List Char) : Option (Except Fault Host) :=
  match name with
  | '[' :: inner =>
      some <| if inner.getLast? == some ']' then
        match Address.grouped? inner.dropLast with
        | some groups => .ok (.grouped groups)
        | none => .error .invalidGrouped
      else .error .invalidGrouped
  | _ => none

def specialHost (name : List Char) : Except Fault Host :=
  match bracketed? name with
  | some host => host
  | none =>
      match Domain.ofOctets? (Percent.decode name) with
      | none => .error .invalidDomain
      | some domain =>
          if domain.isEmpty then .error .emptyHost
          else if Address.endsInNumber domain then
            match Address.pointed? domain with
            | some address => .ok (.pointed address)
            | none => .error .invalidPointed
          else .ok (.domain (String.ofList domain))

def plainHost (name : List Char) : Except Fault (Option Host) :=
  match bracketed? name with
  | some host => host.map some
  | none =>
      if name.any fun char => "\x00 #/:<>?@[\\]^|".toList.contains char then .error .invalidName
      else if name.isEmpty then .ok none
      else .ok (some (.domain (String.ofList (Percent.encode Percent.controls name))))

def hostName (inside : Bool) : List Char → List Char × List Char
  | [] => ([], [])
  | char :: rest =>
      if char == ':' && !inside then ([], char :: rest)
      else
        let (name, behind) := hostName (char == '[' || (inside && char != ']')) rest
        (char :: name, behind)

def portNumber? (digits : List Char) : Except Fault (Option UInt16) :=
  if digits.isEmpty then .ok none
  else
    let number := digits.foldl (fun sum digit => sum * 10 + (digit.toNat - 0x30)) 0
    if 65535 < number then .error .invalidPort else .ok (some (UInt16.ofNat number))

def port (scheme : String) : List Char → Except Fault (Option UInt16 × List Char)
  | [] => .ok (none, [])
  | _ :: chars => do
      let (digits, rest) := Text.cutAt (!Char.isDigit ·) chars
      let number ← portNumber? digits
      match rest with
      | [] | '\\' :: _ =>
          .ok (if number == specialPort? scheme then none else number, rest)
      | _ => .error .invalidPort

def userInfo (chars : List Char) : String × String :=
  let (name, rest) := Text.cutAt (· == ':') chars
  let written (part : List Char) := String.ofList (Percent.encode Percent.inUserInfo part)
  (written name, written (rest.drop 1))

def authority (scheme : String) (chars : List Char) :
    Except Fault (Authority × List Char) := do
  let special := isSpecialScheme scheme
  let (front, behind) := Text.cutAt (fun char => isSlash special char || endsPath char) chars
  -- The last at sign parts the user from the host; any before it belong to the user.
  let (user, place) ← match Text.cutAtLast? '@' front with
    | none => pure ([], front)
    | some (user, place) =>
        if user.isEmpty && place.isEmpty && !behind.isEmpty then throw .emptyHost
        else pure (user, place)
  let (name, rest) := hostName false place
  let (username, password) := userInfo user
  let host ← if special then
      if name.isEmpty then throw .emptyHost else (specialHost name).map some
    else plainHost name
  if host.isNone && (!rest.isEmpty && rest.head? == some ':') then throw .emptyHost
  let (number, left) ← port scheme rest
  if host.isNone && !(username.isEmpty && password.isEmpty) then throw .emptyHost
  return (⟨username, password, host, number⟩, left ++ behind)

def tails (chars : List Char) : List Char × Option (List Char) × Option (List Char) :=
  let (front, fragment) := Text.cutAt (· == '#') chars
  let (path, query) := Text.cutAt (· == '?') front
  let behind (part : List Char) := if part.isEmpty then none else some (part.drop 1)
  (path, behind query, behind fragment)

def finish (scheme : String) (authority : Option Authority) (path : Path)
    (query fragment : Option (List Char)) : Url :=
  let queryChars := if isSpecialScheme scheme then Percent.inSpecialQuery else Percent.inQuery
  let written (set : Percent.CharSet) (part : List Char) :=
    String.ofList (Percent.encode set (withoutBreaks part))
  { scheme, authority, path
    query := query.map (written queryChars)
    fragment := fragment.map (written Percent.inFragment)
    guarded := authority.isNone && path.startsDoubly }

def withAuthority (scheme : String) (chars : List Char) : Except Fault Url := do
  let (authority, rest) ← authority scheme chars
  let (path, query, fragment) := tails rest
  let names :=
    if path.isEmpty && !isSpecialScheme scheme then [] else (Path.walkFromRoot scheme path).names
  return finish scheme (some authority) (.segments names) query fragment

/-- The host of a file and what is left for the path. A drive letter is no host, and neither is the
machine itself. -/
def fileHost (chars : List Char) : Except Fault (Option Host × List Char) := do
  let (front, rest) := Text.cutAt (fun char => isSlash true char || endsPath char) chars
  let name := withoutBreaks front
  if isDriveLetter name then return (none, chars)
  else if name.isEmpty then return (none, rest)
  else
    let host ← specialHost name
    return (if host == .domain "localhost" then none else some host, rest)

def behindSlashes? (chars : List Char) : Option (List Char) :=
  match chars.dropWhile isBreak with
  | first :: rest =>
      match rest.dropWhile isBreak with
      | second :: behind => if isSlash true first && isSlash true second then some behind else none
      | [] => none
  | [] => none

/-- The address of a file. A host counts only in front of a path that does not begin with a drive
letter; without a host in its place, the slash that would end it begins a segment. -/
def file (chars : List Char) : Except Fault Url := do
  let (host, rest) ← match behindSlashes? chars with
    | some behind => fileHost behind
    | none => pure (none, chars)
  let (path, query, fragment) := tails rest
  let walk :=
    if (behindSlashes? chars).isSome && host.isNone then Path.walkOver "file" path
    else Path.walkFromRoot "file" path
  -- A drive letter that the path itself brings leaves no host.
  let authority : Authority := { host := if walk.onDrive then none else host }
  return finish "file" (some authority) (.segments (Path.withoutEmptyHead walk.names)) query fragment

def bare (scheme : String) (chars : List Char) : Url :=
  let (path, query, fragment) := tails chars
  let parsed : Path := match path with
    | '/' :: _ => .segments (Path.walkFromRoot scheme path).names
    | _ => .whole (String.ofList (Percent.encode Percent.controls path))
  finish scheme none parsed query fragment

end Parser

def parse (text : String) : Except Fault Url :=
  match Parser.scheme? (Parser.stripped text) with
  | none => .error .noScheme
  | some (scheme, rest) =>
      if scheme == "file" then Parser.file rest
      else
        let counted := withoutBreaks rest
        -- A special scheme has a host behind any number of slashes, others behind exactly two.
        if isSpecialScheme scheme then
          Parser.withAuthority scheme (counted.dropWhile (Parser.isSlash true))
        else match counted with
          | '/' :: '/' :: behind => Parser.withAuthority scheme behind
          | _ => .ok (Parser.bare scheme counted)

def withoutEmptyEnd (names : List String) : List String :=
  if 1 < names.length && names.getLast? == some "" then names.dropLast else names

/-- The segments with one more at the end. The path of a root alone has an empty segment, which the
new one replaces. A dot and two dots are no segments and add none. -/
def extended (scheme : String) (names : List String) (text : String) : List String :=
  if text == "." || text == ".." then names
  else
    let encoded :=
      if isSpecialScheme scheme then Percent.inSpecialSegment else Percent.inSegment
    let before := if names == [""] then [] else names
    (Path.Walk.step encoded (scheme == "file") (.along before) text.toList true).names

def item? (url : Url) (text : String) : Option Url :=
  match url.path with
  | .segments names =>
      some { url with path := .segments (extended url.scheme (withoutEmptyEnd names) text) }
  | .whole _ => none

def formChar (char : Char) : List Char :=
  if char == ' ' then ['+']
  else if char.isAlphanum || "*-._".toList.contains char then [char]
  else (Text.octets (String.singleton char)).flatMap Percent.ofOctet

def formText (text : String) : String := String.ofList (text.toList.flatMap formChar)

def form (pairs : List (String × String)) : String :=
  String.intercalate "&" (pairs.map fun pair => formText pair.1 ++ "=" ++ formText pair.2)

def withParameters (url : Url) (pairs : List (String × String)) : Url :=
  match url.query with
  | some query =>
      if query.isEmpty then { url with query := some (form pairs) }
      else { url with query := some (query ++ "&" ++ form pairs) }
  | none => { url with query := some (form pairs) }

end ResourceWatch.Url
