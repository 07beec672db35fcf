import ResourceWatch.Listing.Page
import ResourceWatch.Resource
import ResourceWatch.Rest
import ResourceWatch.World

/-!
Providers that play a part written beforehand.
-/

namespace ResourceWatch.Script

/-!
Scripted providers: answers queued beforehand and given in that order, each once. Once the queue is
empty, a script of states repeats the answer it gave last and a script of pages has no answer. Each
keeps the requests it was sent.
-/

structure Queue (Request Answer : Type) where
  waiting : List (Except FetchError Answer) := []
  last : Option (Except FetchError Answer) := none
  requests : Array Request := #[]

def exhausted (kind : String) : FetchError :=
  .transport s!"no scripted {kind} response left"

namespace Queue

variable {Request Answer : Type}

def push (queue : Queue Request Answer) (answer : Except FetchError Answer) :
    Queue Request Answer :=
  { queue with waiting := queue.waiting ++ [answer] }

/-- Answers in order; the last one is repeated when no other is left. -/
def serveRepeating (kind : String) (request : Request) (queue : Queue Request Answer) :
    Except FetchError Answer × Queue Request Answer :=
  let requests := queue.requests.push request
  match queue.waiting with
  | answer :: waiting => (answer, ⟨waiting, some answer, requests⟩)
  | [] => (queue.last.getD (.error (exhausted kind)), { queue with requests })

def serveOnce (kind : String) (request : Request) (queue : Queue Request Answer) :
    Except FetchError Answer × Queue Request Answer :=
  let requests := queue.requests.push request
  match queue.waiting with
  | answer :: waiting => (answer, { queue with waiting, requests })
  | [] => (.error (exhausted kind), { queue with requests })

end Queue

abbrev States := Queue String Snapshot

abbrev Pages (Item : Type) := Queue Listing.Request (Listing.Page Item)

namespace States

def ofStates (resource : String) (states : List State) : States :=
  { waiting := states.map fun state => .ok (.bare resource state) }

def serve (resource : String) (states : States) : Except FetchError Snapshot × States :=
  Queue.serveRepeating "state" resource states

end States

namespace Pages

variable {Item : Type}

def serve (request : Listing.Request) (pages : Pages Item) :
    Except FetchError (Listing.Page Item) × Pages Item :=
  Queue.serveOnce "page" request pages

end Pages

/-!
A collection in memory that is served page by page, as a provider would. It can be told to be
missing, or to fail on some pages.
-/

def standardPageSize : UInt32 := 250

structure Collection (Item : Type) where
  items : Array Item
  reportsTotal : Bool := true
  missing : Bool := false
  /-- Failures by page number; of two for one page the first counts. -/
  failures : List (UInt32 × FetchError) := []
  requests : Array Listing.Request := #[]

namespace Collection

variable {Item : Type}

def page (collection : Collection Item) (options : Listing.Options) : Listing.Page Item :=
  let size := options.explicitSize.getD standardPageSize
  let start := (options.pageNumber.toNat - 1) * size.toNat
  { items := (collection.items.extract start (start + size.toNat)).toList
    pageNumber := options.pageNumber
    pageSize := size
    totalCount := if collection.reportsTotal then some (UInt64.ofNat collection.items.size) else none
    nextMarker := none }

def answer (collection : Collection Item) (request : Listing.Request) :
    Except FetchError (Listing.Page Item) :=
  if collection.missing then .error (.notFound "collection")
  else match collection.failures.find? (·.1 == request.pageNumber) with
    | some (_, failure) => .error failure
    | none => .ok (collection.page request.options)

def serve (request : Listing.Request) (collection : Collection Item) :
    Except FetchError (Listing.Page Item) × Collection Item :=
  (collection.answer request,
    { collection with requests := collection.requests.push request })

def asked (collection : Collection Item) (requests : List Listing.Request) : Collection Item :=
  { collection with requests := collection.requests ++ requests.toArray }

def fetcher : Fetcher (Collection Item) Listing.Request (Listing.Page Item) :=
  fun request collection =>
    let (answer, served) := collection.serve request
    ({ answer }, served)

end Collection

/-!
A provider whose calls take time. The n-th call takes what the n-th timing says, and fires the
caller's token if that says so; calls beyond the timings take no time.
-/

structure Timing where
  delay : Duration := .zero
  cancels : Bool := false
  deriving DecidableEq, Repr

structure Timed (Provider : Type) where
  provider : Provider
  timings : Array Timing := #[]
  calls : Nat := 0

namespace Timed

variable {Provider Request Answer : Type}

def fetcher (serve : Request → Provider → Except FetchError Answer × Provider) :
    Fetcher (Timed Provider) Request Answer :=
  fun request timed =>
    let timing := timed.timings[timed.calls]?.getD {}
    let (answer, provider) := serve request timed.provider
    ({ answer, delay := timing.delay, cancels := timing.cancels },
      { timed with provider, calls := timed.calls + 1 })

end Timed

/-!
Links with responses prepared beforehand, given in order to the requests that arrive. When none is
left, every further request is answered by a failure of the provider. No request arrives over a
network that cannot be reached. For statements about whole runs there is a link that never runs out.
-/

structure Network where
  reachable : Bool := true
  responses : List Rest.Response := []
  seen : Array Rest.Call := #[]

namespace Network

def unreachable : String :=
  "error trying to connect: tcp connect error: Network is unreachable (os error 101)"

def emptyHanded : Rest.Response := ⟨500, Text.octets "no scripted response left"⟩

def link : Rest.Link Network := fun call network =>
  if network.reachable then
    (.ok (network.responses.head?.getD emptyHanded),
      { network with
        responses := network.responses.tail
        seen := network.seen.push call })
  else (.error unreachable, network)

end Network

/-- The link of a sequence of responses: the n-th call is answered by the n-th of them, whatever it
asks. Its provider is the calls so far. -/
def responding (responses : Nat → Rest.Response) : Rest.Link (List Rest.Call) :=
  fun call calls => (.ok (responses calls.length), calls ++ [call])

end ResourceWatch.Script
