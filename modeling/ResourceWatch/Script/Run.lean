import ResourceWatch.Listing.Traversal
import ResourceWatch.Script.Provider
import ResourceWatch.World

/-!
Whole runs to state theorems about: providers that keep what they hear, and those who pull, wait and
use handles in any order.
-/

namespace ResourceWatch.Script

/-!
Providers for statements about whole runs: one that answers its n-th call by the n-th reply of a
sequence, whatever is asked of it, and ones that stand for another and keep what is asked, or what
is asked and answered.
-/

section Sequence

variable {Provider Request Answer : Type}

/-- The fetch function of a sequence of replies; its provider is the requests so far. -/
def sequence (replies : Nat → Reply Answer) : Fetcher (List Request) Request Answer :=
  fun request calls => (replies calls.length, calls ++ [request])

structure Recorded (Provider Request : Type) where
  provider : Provider
  requests : List Request := []

def recording (fetcher : Fetcher Provider Request Answer) :
    Fetcher (Recorded Provider Request) Request Answer :=
  fun request recorded =>
    let (reply, provider) := fetcher request recorded.provider
    (reply, ⟨provider, recorded.requests ++ [request]⟩)

structure Exchange (Request Answer : Type) where
  request : Request
  answer : Except FetchError Answer

structure Transcribed (Provider Request Answer : Type) where
  provider : Provider
  exchanges : List (Exchange Request Answer) := []

def transcribing (fetcher : Fetcher Provider Request Answer) :
    Fetcher (Transcribed Provider Request Answer) Request Answer :=
  fun request transcribed =>
    let (reply, provider) := fetcher request transcribed.provider
    (reply, ⟨provider, transcribed.exchanges ++ [⟨request, reply.answer⟩]⟩)

def untold (world : World Provider) : World (Transcribed Provider Request Answer) :=
  { world with provider := ⟨world.provider, []⟩ }

/-- The providers that a fetch function can leave behind, by any requests. -/
inductive Reached (fetcher : Fetcher Provider Request Answer) (provider : Provider) :
    Provider → Prop where
  | start : Reached fetcher provider provider
  | call {before : Provider} (request : Request) :
      Reached fetcher provider before → Reached fetcher provider (fetcher request before).2

end Sequence

/-!
A reader of a listing for statements about whole runs: one who pulls and rests in any order. Time
and the token go on while he rests. He keeps the answers to his pulls, and when the fetches behind
them began and were over.
-/

open ResourceWatch.Listing

inductive Act where
  | pull
  | rest (length : Duration)
  deriving DecidableEq, Repr

structure Span where
  began : Instant
  done : Instant
  deriving DecidableEq, Repr

structure Reader (Item : Type) where
  cursor : Cursor Item
  world : World (List Request)
  given : List (Pull Item) := []
  spans : List Span := []

namespace Reader

variable {Item : Type}

def withToken (reader : Reader Item) (token : Token) : Reader Item :=
  { reader with world := { reader.world with token } }

def doneBefore (reader : Reader Item) (instant : Instant) : Nat :=
  (reader.spans.filter fun span => span.done.nanos < instant.nanos).length

def begunBefore (reader : Reader Item) (instant : Instant) : Nat :=
  (reader.spans.filter fun span => span.began.nanos < instant.nanos).length

variable (fetcher : Fetcher (List Request) Request (Page Item))

def act (reader : Reader Item) : Act → Reader Item
  | .pull =>
      let (answer, cursor, world) := reader.cursor.pull fetcher reader.world
      -- A pull that made a call took as long as the fetch.
      let fetched := reader.world.provider.length < world.provider.length
      let span : Span := ⟨reader.world.now, world.now⟩
      { cursor, world
        given := reader.given ++ [answer]
        spans := if fetched then reader.spans ++ [span] else reader.spans }
  | .rest length =>
      { reader with world := reader.world.passUntil (reader.world.now.after length) }

def acts (reader : Reader Item) (acts : List Act) : Reader Item := acts.foldl (act fetcher) reader

end Reader

/-!
Traversals that share a provider, for statements about whole runs. They have names and take turns in
any order, and each turn is one pull. None of them heeds a token.
-/

structure Sharing (Name Item Provider : Type) where
  cursors : Name → Cursor Item
  world : World Provider
  given : List (Name × Pull Item) := []

namespace Sharing

variable {Name Item Provider : Type} [DecidableEq Name]

def opened (options : Name → Options) (world : World Provider) : Sharing Name Item Provider :=
  { cursors := fun name => .start (options name) false, world }

def givenTo (sharing : Sharing Name Item Provider) (name : Name) : List (Pull Item) :=
  (sharing.given.filter (·.1 = name)).map (·.2)

variable (fetcher : Fetcher Provider Request (Page Item))

def turn (sharing : Sharing Name Item Provider) (name : Name) : Sharing Name Item Provider :=
  let (answer, rest, world) := (sharing.cursors name).pull fetcher sharing.world
  { cursors := fun other => if other = name then rest else sharing.cursors other
    world
    given := sharing.given ++ [(name, answer)] }

def turns (sharing : Sharing Name Item Provider) (names : List Name) :
    Sharing Name Item Provider :=
  names.foldl (turn fetcher) sharing

end Sharing

/-- So many pulls of a traversal that has a provider to itself, whatever they give. -/
def alone {Item Provider : Type} (fetcher : Fetcher Provider Request (Page Item)) :
    Nat → Cursor Item → World Provider → List (Pull Item) × Cursor Item × World Provider
  | 0, cursor, world => ([], cursor, world)
  | more + 1, cursor, world =>
      let (answer, rest, between) := cursor.pull fetcher world
      let (answers, last, after) := alone fetcher more rest between
      (answer :: answers, last, after)

end ResourceWatch.Script

namespace ResourceWatch

/-!
A traversal under watch, for statements about whole runs. It is pulled, time passes, and someone
fires the token, in any order. What its pulls gave is kept, and what it heard to give it.
-/

def Listing.Pull.item? {Item : Type} : Listing.Pull Item → Option Item
  | .item value => some value
  | .failed _ | .ended => none

namespace Script

open Listing

inductive Occurrence where
  | pull
  | rest (length : Duration)
  | cancel
  deriving DecidableEq, Repr

structure Heard (Item : Type) where
  request : Request
  reply : Reply (Page Item)

structure Watched (Item Provider : Type) where
  cursor : Cursor Item
  world : World Provider
  given : List (Pull Item) := []
  heard : List (Heard Item) := []

namespace Heard

variable {Item : Type}

def page? (heard : Heard Item) : Option (Page Item) := heard.reply.answer.toOption

def items (heard : Heard Item) : List Item :=
  match heard.page? with
  | some page => page.items
  | none => []

def silenced (heard : Heard Item) : Heard Item :=
  { heard with reply := { heard.reply with notes := [] } }

end Heard

/-- What the next pull of a traversal will hear: nothing when it has no need to ask, and nothing
when it is called off before the answer is there. -/
def hearing? {Item Provider : Type} (fetcher : Fetcher Provider Request (Page Item))
    (cursor : Cursor Item) (world : World Provider) : Option (Heard Item) :=
  match cursor.buffered, cursor.next with
  | [], some request =>
      (world.fetch fetcher request cursor.heedsToken).1.map fun _ =>
        ⟨request, (fetcher request world.provider).1⟩
  | _, _ => none

namespace Watched

variable {Item Provider : Type}

def opened (options : Options) (heedsToken : Bool) (world : World Provider) :
    Watched Item Provider :=
  { cursor := .start options heedsToken, world }

variable (fetcher : Fetcher Provider Request (Page Item))

def occur (watched : Watched Item Provider) : Occurrence → Watched Item Provider
  | .pull =>
      let (answer, cursor, world) := watched.cursor.pull fetcher watched.world
      { cursor, world
        given := watched.given ++ [answer]
        heard := watched.heard ++ (hearing? fetcher watched.cursor watched.world).toList }
  | .rest length =>
      { watched with world := watched.world.passUntil (watched.world.now.after length) }
  | .cancel =>
      { watched with world := { watched.world with token := watched.world.token.fire } }

def course (watched : Watched Item Provider) (occurrences : List Occurrence) :
    Watched Item Provider :=
  occurrences.foldl (occur fetcher) watched

def items (watched : Watched Item Provider) : List Item :=
  watched.given.filterMap Pull.item?

def close? (watched : Watched Item Provider) : Option (Pull Item) :=
  watched.given.find? (·.item?.isNone)

end Watched

end Script

end ResourceWatch

namespace ResourceWatch.Script

/-!
Scripts in many hands, for statements about whole runs. A handle is a copy of a script or a fetch
function made of it. It is for one script from its beginning to its end, and whatever is done with it
is done to that script. Handles are used in any order.
-/

inductive Use (Handle Request Answer : Type) where
  | push (handle : Handle) (answer : Except FetchError Answer)
  | fetch (handle : Handle) (request : Request)

/-- A request that was made with a handle, its answer, and whether that was taken from the queue. -/
structure Served (Handle Request Answer : Type) where
  handle : Handle
  request : Request
  answer : Except FetchError Answer
  taken : Bool

namespace Use

variable {Handle Request Answer : Type}

def handle : Use Handle Request Answer → Handle
  | push handle _ => handle
  | fetch handle _ => handle

def pushed? : Use Handle Request Answer → Option (Except FetchError Answer)
  | push _ answer => some answer
  | fetch _ _ => none

def asked? : Use Handle Request Answer → Option Request
  | push _ _ => none
  | fetch _ request => some request

end Use

structure Held (Name Handle Request Answer : Type) where
  scripts : Name → Queue Request Answer := fun _ => {}
  served : List (Served Handle Request Answer) := []

namespace Held

variable {Name Handle Request Answer : Type} [DecidableEq Name]
variable (serve : Request → Queue Request Answer → Except FetchError Answer × Queue Request Answer)
variable (script : Handle → Name)

def set (held : Held Name Handle Request Answer) (name : Name) (queue : Queue Request Answer) :
    Held Name Handle Request Answer :=
  { held with scripts := fun other => if other = name then queue else held.scripts other }

def use (held : Held Name Handle Request Answer) :
    Use Handle Request Answer → Held Name Handle Request Answer
  | .push handle answer => held.set (script handle) ((held.scripts (script handle)).push answer)
  | .fetch handle request =>
      let before := held.scripts (script handle)
      let (answer, after) := serve request before
      { held.set (script handle) after with
        served := held.served ++ [⟨handle, request, answer, !before.waiting.isEmpty⟩] }

def uses (held : Held Name Handle Request Answer) (uses : List (Use Handle Request Answer)) :
    Held Name Handle Request Answer :=
  uses.foldl (use serve script) held

end Held

end ResourceWatch.Script
