import ResourceWatch.Clock
import ResourceWatch.Error
import ResourceWatch.Listing.Options
import ResourceWatch.Resource
import ResourceWatch.Text

/-!
The events that waits and listings leave in the log. Each has a level, a message and named fields.

What a wait or a listing runs in: the time, the token of its caller, the provider behind its fetch
function, and the log. Time moves only while someone sleeps or a fetch takes its time.
-/

namespace ResourceWatch

inductive Event where
  | fetchingState (resource : String) (attempt : UInt32)
  | converged (resource : String) (attempts : UInt32) (state : State) (target : String)
  | reachedFailure (resource : String) (attempts : UInt32) (reason : String)
  | timedOut (resource : String) (attempts : UInt32) (state : State) (elapsedMillis : Nat)
  | stillPending (resource : String) (attempt : UInt32) (state : State)
  | stateFetchFailed (resource : String) (attempt : UInt32) (error : FetchError)
  | waitCancelled (resource : String) (attempts : UInt32)
  | resourceGone (resource : String)
  | fetchingPage (page : UInt32) (marker : Option Listing.Marker)
  | pageFetched (page : UInt32) (items : Nat)
  | endOfCollection (pages : UInt32) (total : Option UInt64)
  | collectionMissing (page : UInt32) (error : FetchError)
  | pageFetchFailed (page : UInt32) (error : FetchError)
  | listingCancelled (page : UInt32)
  | getPage (url : String) (page : UInt32)
  | getState (url : String)
  deriving DecidableEq, Repr

namespace Event

inductive Level where
  | debug
  | info
  | warn
  deriving DecidableEq, Repr

def Level.name : Level → String
  | .debug => "DEBUG"
  | .info => "INFO"
  | .warn => "WARN"

inductive Content where
  | text (value : String)
  | count (value : Nat)
  deriving DecidableEq, Repr

def level : Event → Level
  | .converged .. | .endOfCollection .. => .info
  | .reachedFailure .. | .timedOut .. | .stateFetchFailed .. | .waitCancelled ..
  | .collectionMissing .. | .pageFetchFailed .. | .listingCancelled .. => .warn
  | _ => .debug

def message : Event → String
  | .fetchingState .. => "fetching resource state"
  | .converged .. => "resource converged"
  | .reachedFailure .. => "resource reached failure state"
  | .timedOut .. => "timed out waiting for resource"
  | .stillPending .. => "resource pending"
  | .stateFetchFailed .. => "state fetch failed"
  | .waitCancelled .. => "wait cancelled"
  | .resourceGone .. => "resource gone; treating as deleted"
  | .fetchingPage .. => "fetching page"
  | .pageFetched .. => "page fetched"
  | .endOfCollection .. => "reached end of collection"
  | .collectionMissing .. => "collection not found; treating as empty"
  | .pageFetchFailed .. => "page fetch failed"
  | .listingCancelled .. => "pagination cancelled"
  | .getPage .. => "GET page"
  | .getState .. => "GET state"

def ofCount (count : UInt32) : Content := .count count.toNat

def markerText : Option Listing.Marker → String
  | none => "None"
  | some marker => "Some(Marker(" ++ Text.quoted marker.token ++ "))"

def totalText : Option UInt64 → String
  | none => "None"
  | some total => s!"Some({total})"

def fields : Event → List (String × Content)
  | .fetchingState resource attempt =>
      [("resource_id", .text resource), ("attempt", ofCount attempt)]
  | .converged resource attempts state target =>
      [("resource_id", .text resource), ("attempts", ofCount attempts),
        ("state", .text state.text), ("target", .text target)]
  | .reachedFailure resource attempts reason =>
      [("resource_id", .text resource), ("attempts", ofCount attempts), ("reason", .text reason)]
  | .timedOut resource attempts state elapsed =>
      [("resource_id", .text resource), ("attempts", ofCount attempts),
        ("state", .text state.text), ("elapsed_ms", .count elapsed)]
  | .stillPending resource attempt state =>
      [("resource_id", .text resource), ("attempt", ofCount attempt), ("state", .text state.text)]
  | .stateFetchFailed resource attempt error =>
      [("resource_id", .text resource), ("attempt", ofCount attempt),
        ("error", .text error.message)]
  | .waitCancelled resource attempts =>
      [("resource_id", .text resource), ("attempts", ofCount attempts)]
  | .resourceGone resource => [("resource_id", .text resource)]
  | .fetchingPage page marker =>
      [("page_number", ofCount page), ("marker", .text (markerText marker))]
  | .pageFetched page items => [("page_number", ofCount page), ("items", .count items)]
  | .endOfCollection pages total =>
      [("pages", ofCount pages), ("total_count", .text (totalText total))]
  | .collectionMissing page error | .pageFetchFailed page error =>
      [("page_number", ofCount page), ("error", .text error.message)]
  | .listingCancelled page => [("page_number", ofCount page)]
  | .getPage url page => [("url", .text url), ("page_number", ofCount page)]
  | .getState url => [("url", .text url)]

end Event

structure World (Provider : Type) where
  provider : Provider
  now : Instant := .origin
  token : Token := {}
  log : Array Event := #[]

/-- How a provider reacts to one call of a fetch function: what it answers, how long that takes,
whether the call itself fires the caller's token, and what it logs along with its answer. -/
structure Reply (Answer : Type) where
  answer : Except FetchError Answer
  delay : Duration := .zero
  cancels : Bool := false
  notes : List Event := []

abbrev Fetcher (Provider Request Answer : Type) := Request → Provider → Reply Answer × Provider

namespace World

variable {Provider : Type}

def record (world : World Provider) (event : Event) : World Provider :=
  { world with log := world.log.push event }

def sleepUntil (world : World Provider) (wake : Instant) : Bool × World Provider :=
  match world.token.firedBy? world.now wake with
  | some instant => (true, { world with now := instant, token := world.token.fire })
  | none => (false, { world with now := wake })

def passUntil (world : World Provider) (wake : Instant) : World Provider :=
  { world with now := wake, token := world.token.passed world.now wake }

/-- Calls a fetch function and waits for its answer. One who heeds the token gets none when the
token fires before the answer is there; the call has been made nevertheless. -/
def fetch {Request Answer : Type} (world : World Provider)
    (fetcher : Fetcher Provider Request Answer) (request : Request) (heeds : Bool) :
    Option (Except FetchError Answer) × World Provider :=
  let (reply, provider) := fetcher request world.provider
  let token := if reply.cancels then world.token.fire else world.token
  -- The call is made before the token is looked at again, so it counts even when it is cut.
  let called := { world with provider, token }
  let ready := called.now.after reply.delay
  if heeds then
    match called.sleepUntil ready with
    | (true, cut) => (none, cut)
    | (false, answered) =>
        (some reply.answer, { answered with log := answered.log ++ reply.notes.toArray })
  else
    let answered := called.passUntil ready
    (some reply.answer, { answered with log := answered.log ++ reply.notes.toArray })

theorem sleep_later (world : World Provider) (wake : Instant)
    (forward : world.now.nanos ≤ wake.nanos) :
    world.now.nanos ≤ (world.sleepUntil wake).2.now.nanos := by
  unfold sleepUntil
  split
  · rename_i instant fires
    exact world.token.now_le_fired_by world.now wake instant fires
  · exact forward

theorem fetch_later {Request Answer : Type} (world : World Provider)
    (fetcher : Fetcher Provider Request Answer) (request : Request) (heeds : Bool) :
    world.now.nanos ≤ (world.fetch fetcher request heeds).2.now.nanos := by
  unfold fetch
  cases heeds with
  | true =>
      simp only [↓reduceIte]
      have later := sleep_later
        { world with
          provider := (fetcher request world.provider).2
          token := if (fetcher request world.provider).1.cancels then world.token.fire
            else world.token }
        (world.now.after (fetcher request world.provider).1.delay)
        (Nat.le_add_right ..)
      split
      · rename_i cut
        rw [cut] at later
        exact later
      · rename_i answered
        rw [answered] at later
        exact later
  | false => exact Nat.le_add_right ..

end World

end ResourceWatch
