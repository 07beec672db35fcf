import ResourceWatch.Listing.Traversal
import ResourceWatch.Proofs.Surroundings

/-!
What one pull of a listing can do. It hands over an item that is left, or finds the listing over, or
asks for a page. What it asks for is called off before the call or during it, or it is answered, and
then the answer alone decides what the pull gives and what becomes of the traversal. All that a pull
can do to a provider is to call it once.

Providers that a traversal cannot tell apart. A fetch function imitates another when, in states that
belong together, both reply the same to the same request and are left in states that belong
together. A traversal over the one then gives, pull by pull, what it gives over the other. Remarks
that come along with an answer are no part of this.
-/

namespace ResourceWatch.Listing

variable {Item Provider : Type}

section Turn

variable (cursor : Cursor Item) (request : Request)

def Cursor.turn : Except FetchError (Page Item) → Pull Item × Cursor Item
  | .ok page =>
      match page.items with
      | [] => (.ended, cursor.behind request page)
      | value :: buffered => (.item value, { cursor.behind request page with buffered })
  | .error source =>
      if cursor.fetchedPages = 0 ∧ source.isNotFound then (.ended, cursor.closed)
      else (.failed (.fetch request.pageNumber source), cursor.closed)

def Cursor.remarks : Except FetchError (Page Item) → List Event
  | .ok page =>
      let rest := cursor.behind request page
      let counted : Event := .pageFetched request.pageNumber page.items.length
      if rest.next.isSome then [counted]
      else [.endOfCollection rest.fetchedPages page.totalCount, counted]
  | .error source =>
      if cursor.fetchedPages = 0 ∧ source.isNotFound then
        [.collectionMissing request.pageNumber source]
      else [.pageFetchFailed request.pageNumber source]

theorem Cursor.turn_heeds (answer : Except FetchError (Page Item)) :
    (cursor.turn request answer).2.heedsToken = cursor.heedsToken := by
  cases answer with
  | ok page =>
      simp only [turn]
      split <;> rfl
  | error source =>
      simp only [turn]
      split <;> rfl

end Turn

section Pull

variable {cursor : Cursor Item} (fetcher : Fetcher Provider Request (Page Item))
variable (world : World Provider)

theorem pull_buffered {value : Item} {rest : List Item} (left : cursor.buffered = value :: rest) :
    cursor.pull fetcher world = (.item value, { cursor with buffered := rest }, world) := by
  simp only [Cursor.pull, left]

theorem pull_over (handed : cursor.buffered = []) (spent : cursor.next = none) :
    cursor.pull fetcher world = (.ended, cursor, world) := by
  simp only [Cursor.pull, handed, spent]

theorem pulls_over (handed : cursor.buffered = []) (spent : cursor.next = none) (more : Nat)
    (taken : Array Item) :
    Cursor.pulls fetcher (more + 1) cursor world taken = (taken, .ended, cursor, world) := by
  simp only [Cursor.pulls, pull_over fetcher world handed spent]

section Ask

variable {request : Request} (handed : cursor.buffered = []) (asked : cursor.next = some request)
include handed asked

theorem pull_fired (fired : (cursor.heedsToken && world.token.fired) = true) :
    cursor.pull fetcher world =
      (.failed (.cancelled request.pageNumber), cursor.closed,
        (world.record (.fetchingPage request.pageNumber request.marker)).record
          (.listingCancelled request.pageNumber)) := by
  simp [Cursor.pull, handed, asked, Cursor.advance, World.record, fired]

variable (unfired : (cursor.heedsToken && world.token.fired) = false)
include unfired

theorem pull_cut (cut : World Provider)
    (fetched : (world.record (.fetchingPage request.pageNumber request.marker)).fetch fetcher
      request cursor.heedsToken = (none, cut)) :
    cursor.pull fetcher world =
      (.failed (.cancelled request.pageNumber), cursor.closed,
        cut.record (.listingCancelled request.pageNumber)) := by
  simp only [World.record] at fetched
  simp [Cursor.pull, handed, asked, Cursor.advance, World.record, unfired, fetched]

theorem pull_heard (answer : Except FetchError (Page Item)) (answered : World Provider)
    (fetched : (world.record (.fetchingPage request.pageNumber request.marker)).fetch fetcher
      request cursor.heedsToken = (some answer, answered)) :
    cursor.pull fetcher world =
      ((cursor.turn request answer).1, (cursor.turn request answer).2,
        { answered with log := answered.log ++ (cursor.remarks request answer).toArray }) := by
  simp only [World.record] at fetched
  simp only [Cursor.pull, handed, asked, Cursor.advance, World.record, unfired, fetched,
    Bool.false_eq_true, ↓reduceIte]
  cases answer with
  | ok page =>
      cases items : page.items <;> cases more : (cursor.behind request page).next <;>
        simp [Cursor.turn, Cursor.remarks, items, more, ← Array.toList_inj]
  | error source =>
      by_cases missing : cursor.fetchedPages = 0 ∧ source.isNotFound = true <;>
        simp [Cursor.turn, Cursor.remarks, missing]

end Ask

theorem pull_answered {request : Request} (handed : cursor.buffered = [])
    (asked : cursor.next = some request) {reply : Reply (Page Item)} {provider : Provider}
    (called : fetcher request world.provider = (reply, provider))
    (undisturbed : World.Undisturbed cursor.heedsToken world.token world.now reply) :
    ∃ kept, (cursor.heedsToken = true → kept = world.token) ∧
      cursor.pull fetcher world =
        ((cursor.turn request reply.answer).1, (cursor.turn request reply.answer).2, { world with
          provider, now := world.now.after reply.delay, token := kept
          log := world.log.push (.fetchingPage request.pageNumber request.marker) ++
            reply.notes.toArray ++ (cursor.remarks request reply.answer).toArray }) := by
  have unfired : (cursor.heedsToken && world.token.fired) = false := by
    cases heeds : cursor.heedsToken with
    | true => exact (undisturbed heeds).2.1
    | false => rfl
  obtain ⟨kept, same, fetched⟩ := World.fetch_answered
    (world.record (.fetchingPage request.pageNumber request.marker))
    fetcher request cursor.heedsToken reply provider called undisturbed
  exact ⟨kept, same, pull_heard fetcher world handed asked unfired _ _ fetched⟩

end Pull

/-- What a pull gives, what it makes of a traversal, and what of the provider. -/
inductive PullDoes (fetcher : Fetcher Provider Request (Page Item)) (cursor : Cursor Item)
    (provider : Provider) : Pull Item → Cursor Item → Provider → Prop where
  | handed {value : Item} {rest : List Item} (left : cursor.buffered = value :: rest) :
      PullDoes fetcher cursor provider (.item value) { cursor with buffered := rest } provider
  | finished (handed : cursor.buffered = []) (spent : cursor.next = none) :
      PullDoes fetcher cursor provider .ended cursor provider
  | refused {request : Request} (handed : cursor.buffered = [])
      (asked : cursor.next = some request) :
      PullDoes fetcher cursor provider (.failed (.cancelled request.pageNumber)) cursor.closed
        provider
  | cut {request : Request} (handed : cursor.buffered = []) (asked : cursor.next = some request) :
      PullDoes fetcher cursor provider (.failed (.cancelled request.pageNumber)) cursor.closed
        (fetcher request provider).2
  | heard {request : Request} (handed : cursor.buffered = []) (asked : cursor.next = some request) :
      PullDoes fetcher cursor provider
        (cursor.turn request (fetcher request provider).1.answer).1
        (cursor.turn request (fetcher request provider).1.answer).2
        (fetcher request provider).2

theorem pull_does (fetcher : Fetcher Provider Request (Page Item)) (cursor : Cursor Item)
    (world : World Provider) :
    let pulled := cursor.pull fetcher world
    PullDoes fetcher cursor world.provider pulled.1 pulled.2.1 pulled.2.2.provider := by
  intro pulled
  cases left : cursor.buffered with
  | cons value rest =>
      simp only [pulled, pull_buffered _ world left]
      exact .handed left
  | nil =>
      cases asked : cursor.next with
      | none =>
          simp only [pulled, pull_over _ world left asked]
          exact .finished left asked
      | some request =>
          cases fired : cursor.heedsToken && world.token.fired with
          | true =>
              simp only [pulled, pull_fired _ world left asked fired]
              exact .refused left asked
          | false =>
              let announced := world.record (.fetchingPage request.pageNumber request.marker)
              have called := announced.fetch_provider fetcher request cursor.heedsToken
              have answers := announced.fetch_answer fetcher request cursor.heedsToken
              generalize fetched : announced.fetch fetcher request cursor.heedsToken = result
                at called answers
              obtain ⟨answer, after⟩ := result
              rcases answers with rfl | rfl
              · simp only [pulled, pull_cut _ world left asked fired after fetched, World.record]
                rw [called]
                exact .cut left asked
              · simp only [pulled, pull_heard _ world left asked fired _ after fetched]
                rw [called]
                exact .heard left asked

theorem PullDoes.spent {fetcher : Fetcher Provider Request (Page Item)} {cursor rest : Cursor Item}
    {before after : Provider} {given : Pull Item}
    (does : PullDoes fetcher cursor before given rest after)
    (none_given : ∀ value, given ≠ .item value) : rest.next = none ∧ rest.buffered = [] := by
  cases does with
  | handed => exact absurd rfl (none_given _)
  | finished handed spent => exact ⟨spent, handed⟩
  | refused => exact ⟨rfl, rfl⟩
  | cut => exact ⟨rfl, rfl⟩
  | @heard request =>
      cases answered : (fetcher request before).1.answer with
      | error source =>
          simp only [Cursor.turn]
          split <;> exact ⟨rfl, rfl⟩
      | ok page =>
          rw [answered] at none_given
          cases items : page.items with
          | cons value rest => simp [Cursor.turn, items] at none_given
          | nil => simp [Cursor.turn, items, Cursor.behind, Page.hasMore]

end ResourceWatch.Listing

namespace ResourceWatch

variable {Provider Model : Type}

section Fetch

variable {Request Answer : Type}

structure Imitates (belong : Provider → Model → Prop) (fetcher : Fetcher Provider Request Answer)
    (model : Fetcher Model Request Answer) : Prop where
  replies : ∀ request provider state, belong provider state →
    (model request state).1.SameButNotes (fetcher request provider).1
  keeps : ∀ request provider state, belong provider state →
    belong (fetcher request provider).2 (model request state).2

namespace World

/-- Two worlds with providers that belong together, and for one who heeds the token with one time
and one token. -/
structure Beside (belong : Provider → Model → Prop) (heeds : Bool) (world : World Provider)
    (other : World Model) : Prop where
  providers : belong world.provider other.provider
  now : heeds = true → world.now = other.now
  token : heeds = true → world.token = other.token

variable {belong : Provider → Model → Prop} {heeds : Bool}
variable {world : World Provider} {other : World Model}

theorem Beside.heedless (providers : belong world.provider other.provider) :
    Beside belong false world other := by
  constructor
  · exact providers
  · intro heeded
    cases heeded
  · intro heeded
    cases heeded

theorem Beside.relogged (beside : Beside belong heeds world other) (log otherLog : Array Event) :
    Beside belong heeds { world with log } { other with log := otherLog } :=
  ⟨beside.providers, beside.now, beside.token⟩

theorem Beside.fetch {fetcher : Fetcher Provider Request Answer}
    {model : Fetcher Model Request Answer} (imitates : Imitates belong fetcher model)
    (beside : Beside belong heeds world other) (request : Request) :
    (world.fetch fetcher request heeds).1 = (other.fetch model request heeds).1 ∧
      Beside belong heeds (world.fetch fetcher request heeds).2
        (other.fetch model request heeds).2 := by
  obtain ⟨notes, same⟩ := imitates.replies request _ _ beside.providers
  have kept := imitates.keeps request _ _ beside.providers
  cases heeds with
  | false =>
      simp only [World.fetch, same, passUntil, Bool.false_eq_true, ↓reduceIte]
      exact ⟨trivial, Beside.heedless kept⟩
  | true =>
      have now := beside.now rfl
      have token := beside.token rfl
      simp only [World.fetch, same, sleepUntil, now, token, ↓reduceIte]
      cases Token.firedBy? _ _ _ with
      | some instant => exact ⟨rfl, kept, fun _ => rfl, fun _ => rfl⟩
      | none => exact ⟨rfl, kept, fun _ => rfl, fun _ => rfl⟩

end World

end Fetch

namespace Listing

variable {Item : Type} {belong : Provider → Model → Prop}
variable {fetcher : Fetcher Provider Request (Page Item)}
variable {model : Fetcher Model Request (Page Item)}
variable (imitates : Imitates belong fetcher model)
include imitates

theorem pull_imitated (cursor : Cursor Item) {world : World Provider} {other : World Model}
    (beside : World.Beside belong cursor.heedsToken world other) :
    ∃ given rest after otherAfter,
      cursor.pull fetcher world = (given, rest, after) ∧
      cursor.pull model other = (given, rest, otherAfter) ∧
      rest.heedsToken = cursor.heedsToken ∧
      World.Beside belong cursor.heedsToken after otherAfter := by
  cases left : cursor.buffered with
  | cons value rest =>
      exact ⟨_, _, _, _, pull_buffered fetcher world left, pull_buffered model other left, rfl,
        beside⟩
  | nil =>
      cases asked : cursor.next with
      | none =>
          exact ⟨_, _, _, _, pull_over fetcher world left asked, pull_over model other left asked,
            rfl, beside⟩
      | some request =>
          -- Only who heeds the token needs both tokens to be one.
          have same : (cursor.heedsToken && other.token.fired) =
              (cursor.heedsToken && world.token.fired) := by
            cases heeds : cursor.heedsToken with
            | false => rfl
            | true => rw [beside.token heeds]
          cases fired : cursor.heedsToken && world.token.fired with
          | true =>
              exact ⟨_, _, _, _, pull_fired fetcher world left asked fired,
                pull_fired model other left asked (same.trans fired), rfl, beside.relogged _ _⟩
          | false =>
              let event : Event := .fetchingPage request.pageNumber request.marker
              obtain ⟨answers, later⟩ := World.Beside.fetch imitates
                (beside.relogged (world.log.push event) (other.log.push event)) request
              generalize one : World.fetch _ fetcher request cursor.heedsToken = fetched
                at answers later
              generalize two : World.fetch _ model request cursor.heedsToken = modelled
                at answers later
              obtain ⟨answer, after⟩ := fetched
              obtain ⟨otherAnswer, otherAfter⟩ := modelled
              obtain rfl : answer = otherAnswer := answers
              cases answer with
              | none =>
                  exact ⟨_, _, _, _, pull_cut fetcher world left asked fired after one,
                    pull_cut model other left asked (same.trans fired) otherAfter two, rfl,
                    later.relogged _ _⟩
              | some answer =>
                  exact ⟨_, _, _, _, pull_heard fetcher world left asked fired answer after one,
                    pull_heard model other left asked (same.trans fired) answer otherAfter two,
                    cursor.turn_heeds request answer, later.relogged _ _⟩

theorem pulls_imitated (times : Nat) (cursor : Cursor Item) (taken : Array Item)
    {world : World Provider} {other : World Model}
    (beside : World.Beside belong cursor.heedsToken world other) :
    ∃ items stop last after otherAfter,
      Cursor.pulls fetcher times cursor world taken = (items, stop, last, after) ∧
      Cursor.pulls model times cursor other taken = (items, stop, last, otherAfter) ∧
      World.Beside belong cursor.heedsToken after otherAfter := by
  induction times generalizing cursor taken world other with
  | zero => exact ⟨taken, .paused, cursor, world, other, rfl, rfl, beside⟩
  | succ times ih =>
      obtain ⟨given, rest, after, otherAfter, pulled, modelled, heeds, later⟩ :=
        pull_imitated imitates cursor beside
      simp only [Cursor.pulls, pulled, modelled]
      cases given with
      | ended => exact ⟨_, _, _, _, _, rfl, rfl, later⟩
      | failed error => exact ⟨_, _, _, _, _, rfl, rfl, later⟩
      | item value =>
          rw [← heeds] at later ⊢
          exact ih rest (taken.push value) later

end Listing

end ResourceWatch
