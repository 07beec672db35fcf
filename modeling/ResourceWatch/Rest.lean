import ResourceWatch.Json.Reader
import ResourceWatch.Listing.Page
import ResourceWatch.Resource
import ResourceWatch.Text
import ResourceWatch.Url.Parser
import ResourceWatch.World

/-!
Collections over HTTP: headers, links, and what is fetched over them.
-/

namespace ResourceWatch.Rest

/-!
Headers that go with every request. Names are tokens whose case does not matter; they are kept in
small letters. A header that is set again keeps its place and takes the new value.
-/

structure Header where
  name : String
  value : String
  deriving DecidableEq, Repr

namespace Header

inductive Fault where
  | invalidName (name : String)
  | invalidValue (name : String)
  deriving DecidableEq, Repr

def Fault.message : Fault → String
  | .invalidName name => s!"invalid header name '{name}': invalid HTTP header name"
  | .invalidValue name => s!"invalid value for header '{name}': failed to parse header value"

def maxNameLength : Nat := 65535

def inName (char : Char) : Bool :=
  char.isAlphanum || "!#$%&'*+-.^_`|~".toList.contains char

def inValue (octet : UInt8) : Bool :=
  octet == 0x09 || (0x20 ≤ octet.toNat && octet != 0x7F)

def make? (name value : String) : Except Fault Header :=
  let chars := name.toList
  if chars.isEmpty ∨ maxNameLength < chars.length ∨ !chars.all inName then
    .error (.invalidName name)
  else if !(Text.octets value).all inValue then .error (.invalidValue name)
  else .ok ⟨String.ofList (chars.map Char.toLower), value⟩

def set (header : Header) : List Header → List Header
  | [] => [header]
  | first :: rest =>
      if first.name = header.name then header :: rest else first :: set header rest

end Header

/-!
What goes over the wire: a request for an address with headers, and a response of a status and a
body. A link delivers the one for the other, or says why it cannot.
-/

structure Call where
  url : Url
  headers : List Header
  deriving DecidableEq, Repr

structure Response where
  status : UInt16
  body : List UInt8
  deriving DecidableEq, Repr

/-- A way to the provider, with the provider's own state passed along. -/
abbrev Link (Provider : Type) := Call → Provider → Except String Response × Provider

def Response.isSuccess (response : Response) : Bool :=
  200 ≤ response.status.toNat && response.status.toNat < 300

/-- The address of a call as it is sent: nobody but the provider is named, and no fragment. -/
def Call.target (call : Call) : Url := { call.url.anonymous with fragment := none }

/-!
A collection behind an address: its pages are at the address itself, its items one segment below.
A response that does not report success is no data: a missing one is told apart from all others, and
a body is read only after its status has been found to be one of success.
-/

structure Collection where
  base : String
  key : String
  headers : List Header
  deriving DecidableEq, Repr

namespace Collection

/-- A collection at an address; slashes at the end of the address do not count. -/
def ofAddress (base key : String) : Collection := ⟨Text.trimEnd '/' base, key, []⟩

def withHeader (collection : Collection) (name value : String) : Except FetchError Collection :=
  match Header.make? name value with
  | .ok header => .ok { collection with headers := header.set collection.headers }
  | .error fault => .error (.transport fault.message)

def itemUrl (collection : Collection) (resource : String) : Except FetchError Url :=
  match Url.parse collection.base with
  | .error fault =>
      .error (.transport s!"invalid collection URL '{collection.base}': {fault.message}")
  | .ok url =>
      match url.item? resource with
      | some item => .ok item
      | none => .error (.transport s!"collection URL '{collection.base}' cannot take a path")

def pageUrl (collection : Collection) (request : Listing.Request) : Except FetchError Url :=
  match Url.parse collection.base with
  | .error fault => .error (.transport s!"builder error: {fault.message}")
  | .ok url =>
      if url.hasHost then .ok (url.withParameters request.query)
      else .error (.transport s!"builder error for url ({url.text}): URL scheme is not allowed")

def read (response : Response) (resource : String) : Except FetchError Json :=
  if response.isSuccess then
    (Json.parse response.body).mapError fun error => .decode error.message
  else if response.status = 404 then .error (.notFound resource)
  else .error (.provider response.status (Text.lossyText response.body))

variable {Provider Item : Type}

def get (collection : Collection) (link : Link Provider) (url : Url) (resource : String)
    (provider : Provider) : Except FetchError Json × Provider :=
  match link ⟨url, collection.headers⟩ provider with
  | (.ok response, after) => (read response resource, after)
  | (.error detail, after) =>
      (.error (.transport
        s!"error sending request for url ({url.anonymous.text}): {detail}"), after)

def pageFetcher (collection : Collection) (link : Link Provider)
    (decodeItem : Json → Except Json.Fault Item) :
    Fetcher Provider Listing.Request (Listing.Page Item) :=
  fun request provider =>
    let notes := [Event.getPage collection.base request.pageNumber]
    match collection.pageUrl request with
    | .error error => ({ answer := .error error, notes }, provider)
    | .ok url =>
        let (body, after) := collection.get link url collection.base provider
        let answer := do
          Listing.Envelope.fetched decodeItem (← body) collection.key
        ({ answer, notes }, after)

def stateFetcher (collection : Collection) (link : Link Provider) :
    Fetcher Provider String Snapshot :=
  fun resource provider =>
    match collection.itemUrl resource with
    | .error error => ({ answer := .error error }, provider)
    | .ok url =>
        let notes := [Event.getState url.text]
        let (body, after) := collection.get link url url.text provider
        let answer := do
          Snapshot.decode resource (← body)
        ({ answer, notes }, after)

end Collection

end ResourceWatch.Rest
