import ResourceWatch.Listing.Page
import ResourceWatch.World

/-!
Going through a listing item by item. Pages are fetched in order, each only when the items of the
page before have all been handed over, so a reader who stops early causes no fetch he did not need.
A collection that does not exist reads as an empty one when the first page says so. After its end or
an error a traversal gives nothing more and fetches nothing more.

A listing in hand while its surroundings live on. A traversal keeps the token that it was started
with, and a fetch that cancels fires that one: when the caller takes a new token, neither token's
firing concerns the other.
-/

namespace ResourceWatch.Listing

inductive Interruption where
  | fetch (page : UInt32) (source : FetchError)
  | cancelled (page : UInt32)
  deriving DecidableEq, Repr

def Interruption.message : Interruption → String
  | .fetch page source => s!"failed to fetch page {page}: {source.message}"
  | .cancelled page => s!"pagination cancelled before page {page}"

/-- Where a traversal stands: the request to make next if there is one, the items fetched and not
handed over, the pages fetched and the items seen so far, and whether it heeds the token. -/
structure Cursor (Item : Type) where
  next : Option Request
  buffered : List Item := []
  fetchedPages : UInt32 := 0
  seen : Nat := 0
  heedsToken : Bool := true

inductive Pull (Item : Type) where
  | item (value : Item)
  | failed (error : Interruption)
  | ended
  deriving DecidableEq, Repr

inductive Stop where
  | paused
  | ended
  | failed (error : Interruption)
  deriving DecidableEq, Repr

namespace Cursor

variable {Item Provider : Type}

def start (options : Options) (heedsToken : Bool := true) : Cursor Item :=
  { next := some (.first options), heedsToken }

def closed (cursor : Cursor Item) : Cursor Item := { cursor with next := none, buffered := [] }

inductive Advance (Item : Type) where
  | ended
  | failed (error : Interruption)
  | page (items : List Item) (cursor : Cursor Item)

def behind (cursor : Cursor Item) (request : Request) (page : Page Item) : Cursor Item :=
  let seen := min (cursor.seen + page.items.length) largestWord
  { cursor with
    next := if page.hasMore request.options seen then
        some ⟨request.options.nextPage, page.nextMarker⟩
      else none
    buffered := []
    fetchedPages := nextCount cursor.fetchedPages
    seen }

def advance (cursor : Cursor Item) (fetcher : Fetcher Provider Request (Page Item))
    (request : Request) (world : World Provider) : Advance Item × World Provider :=
  let number := request.pageNumber
  let announced := world.record (.fetchingPage number request.marker)
  let cancelled (world : World Provider) :=
    (Advance.failed (.cancelled number), world.record (.listingCancelled number))
  if cursor.heedsToken && announced.token.fired then cancelled announced
  else match announced.fetch fetcher request cursor.heedsToken with
    | (none, cut) => cancelled cut
    | (some (.error source), answered) =>
        -- Behind the first page a missing one is a failure like any other.
        if cursor.fetchedPages = 0 ∧ source.isNotFound then
          (.ended, answered.record (.collectionMissing number source))
        else
          (.failed (.fetch number source), answered.record (.pageFetchFailed number source))
    | (some (.ok page), answered) =>
        let rest := cursor.behind request page
        let counted := if rest.next.isSome then answered
          else answered.record (.endOfCollection rest.fetchedPages page.totalCount)
        (.page page.items rest, counted.record (.pageFetched number page.items.length))

/-- Hands over the next item, fetching a page for it when none is left of the page before. Only the
last page of a traversal can be empty, so one fetch is enough. -/
def pull (cursor : Cursor Item) (fetcher : Fetcher Provider Request (Page Item))
    (world : World Provider) : Pull Item × Cursor Item × World Provider :=
  match cursor.buffered, cursor.next with
  | value :: buffered, _ => (.item value, { cursor with buffered }, world)
  | [], none => (.ended, cursor, world)
  | [], some request =>
      match cursor.advance fetcher request world with
      | (.ended, after) => (.ended, cursor.closed, after)
      | (.failed error, after) => (.failed error, cursor.closed, after)
      | (.page [] rest, after) => (.ended, rest, after)
      | (.page (value :: buffered) rest, after) => (.item value, { rest with buffered }, after)

def pulls (fetcher : Fetcher Provider Request (Page Item)) :
    Nat → Cursor Item → World Provider → Array Item →
      Array Item × Stop × Cursor Item × World Provider
  | 0, cursor, world, taken => (taken, .paused, cursor, world)
  | more + 1, cursor, world, taken =>
      match cursor.pull fetcher world with
      | (.item value, cursor, world) => pulls fetcher more cursor world (taken.push value)
      | (.failed error, cursor, world) => (taken, .failed error, cursor, world)
      | (.ended, cursor, world) => (taken, .ended, cursor, world)

end Cursor

/-- The surroundings with the current token, and the traversal in hand, if there is one, with the
token it was started with when that is no longer the current one. -/
structure Session (Item Provider : Type) where
  world : World Provider
  traversal : Option (Cursor Item × Option Token) := none

namespace Session

variable {Item Provider : Type}

def start (session : Session Item Provider) (options : Options) (heedsToken : Bool) :
    Session Item Provider :=
  { session with traversal := some (.start options heedsToken, none) }

def renewToken (session : Session Item Provider) : Session Item Provider :=
  { world := { session.world with token := {} }
    traversal := session.traversal.map fun pair =>
      (pair.1, some (pair.2.getD session.world.token)) }

/-- Pulls up to so many times from the traversal in hand; without one there is nothing to pull. While
a traversal with a token of its own is pulled, the current token fires only by the time it is due. -/
def pulls (session : Session Item Provider) (fetcher : Fetcher Provider Request (Page Item))
    (times : Nat) : Array Item × Stop × Session Item Provider :=
  let world := session.world
  match session.traversal with
  | none => (#[], .ended, session)
  | some (cursor, none) =>
      let (items, stop, cursor, after) := cursor.pulls fetcher times world #[]
      (items, stop, ⟨after, some (cursor, none)⟩)
  | some (cursor, some own) =>
      let (items, stop, cursor, after) :=
        cursor.pulls fetcher times { world with token := own } #[]
      let token := world.token.passed world.now after.now
      (items, stop, ⟨{ after with token }, some (cursor, some after.token)⟩)

def collect (session : Session Item Provider) (fetcher : Fetcher Provider Request (Page Item))
    (options : Options) (heedsToken : Bool) (times : Nat) :
    Array Item × Stop × Session Item Provider :=
  let (items, stop, after) := (session.start options heedsToken).pulls fetcher times
  (items, stop, { after with traversal := session.traversal })

def buffered (session : Session Item Provider) : Nat :=
  (session.traversal.map fun pair => pair.1.buffered.length).getD 0

end Session

end ResourceWatch.Listing
