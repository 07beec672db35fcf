import ResourceWatch.Proofs.Listing.Pull
import ResourceWatch.Script.Run

/-!
Pulling a traversal page by page. A traversal passes a list of items when as many pulls hand over
just these and leave it at the place behind them. It drains to a list of items when further pulls
add nothing to them and find it over. One fetched page is passed at a time, and passes chain.
-/

namespace ResourceWatch.Listing

variable {Item Provider : Type}

/-- As many pulls as there are items hand these over in order and lead to another traversal. -/
def Passes (fetcher : Fetcher Provider Request (Page Item)) (cursor : Cursor Item)
    (world : World Provider) (items : List Item) (rest : Cursor Item)
    (after : World Provider) : Prop :=
  ∀ times taken, Cursor.pulls fetcher (items.length + times) cursor world taken =
    Cursor.pulls fetcher times rest after (taken ++ items.toArray)

/-- Any more pulls than there are items hand these over in order, stop for a given reason and leave
a traversal that neither gives nor fetches anything. -/
def Drains (fetcher : Fetcher Provider Request (Page Item)) (cursor : Cursor Item)
    (world : World Provider) (items : List Item) (stop : Stop) (after : World Provider) : Prop :=
  ∃ last : Cursor Item, last.next = none ∧ last.buffered = [] ∧
    ∀ times taken, items.length < times →
      Cursor.pulls fetcher times cursor world taken = (taken ++ items.toArray, stop, last, after)

variable {fetcher : Fetcher Provider Request (Page Item)} {cursor : Cursor Item}
variable {world : World Provider}

theorem pulls_buffered (items : List Item) (times : Nat) (cursor : Cursor Item)
    (world : World Provider) (taken : Array Item) :
    Cursor.pulls fetcher (items.length + times) { cursor with buffered := items } world taken =
      Cursor.pulls fetcher times { cursor with buffered := [] } world
        (taken ++ items.toArray) := by
  induction items generalizing taken with
  | nil => simp
  | cons value rest ih =>
      have split : (value :: rest).length + times = rest.length + times + 1 := by
        simp only [List.length_cons]
        omega
      rw [split, Cursor.pulls]
      simp only [Cursor.pull]
      rw [ih]
      simp

theorem Passes.trans {middle rest : Cursor Item} {between after : World Provider}
    {first second : List Item} (one : Passes fetcher cursor world first middle between)
    (two : Passes fetcher middle between second rest after) :
    Passes fetcher cursor world (first ++ second) rest after := by
  intro times taken
  rw [List.length_append, Nat.add_assoc, one, two]
  simp

theorem Passes.drains {rest : Cursor Item} {between after : World Provider}
    {first later : List Item} {stop : Stop} (one : Passes fetcher cursor world first rest between)
    (drains : Drains fetcher rest between later stop after) :
    Drains fetcher cursor world (first ++ later) stop after := by
  obtain ⟨last, spent, handed, drained⟩ := drains
  refine ⟨last, spent, handed, ?_⟩
  intro times taken enough
  obtain ⟨more, rfl⟩ := Nat.exists_eq_add_of_le (Nat.le_of_lt
    (Nat.lt_of_le_of_lt (by simp : first.length ≤ (first ++ later).length) enough))
  rw [one, drained more _ (by rw [List.length_append] at enough; omega)]
  simp

theorem Passes.outlasts {rest : Cursor Item} {between after : World Provider}
    {items longer : List Item} (passed : Passes fetcher cursor world longer rest between)
    (more : items.length < longer.length) :
    ¬ Drains fetcher cursor world items .ended after := by
  rintro ⟨last, _, _, drained⟩
  have paused := (passed 0 #[]).symm.trans (drained longer.length #[] more)
  simp [Cursor.pulls] at paused

theorem drains_at_once {stop : Stop} {rest : Cursor Item} {after : World Provider}
    (spent : rest.next = none) (handed : rest.buffered = [])
    (stops : ∀ more taken,
      Cursor.pulls fetcher (more + 1) cursor world taken = (taken, stop, rest, after)) :
    Drains fetcher cursor world [] stop after := by
  refine ⟨rest, spent, handed, ?_⟩
  intro times taken enough
  obtain ⟨more, rfl⟩ := Nat.exists_eq_add_of_lt enough
  rw [stops]
  simp

theorem drains_over (spent : cursor.next = none) (handed : cursor.buffered = []) :
    Drains fetcher cursor world [] .ended world :=
  drains_at_once spent handed (pulls_over fetcher world handed spent)

theorem Drains.cons {value : Item} {rest : Cursor Item} {between after : World Provider}
    {items : List Item} {stop : Stop}
    (pulled : cursor.pull fetcher world = (.item value, rest, between))
    (drains : Drains fetcher rest between items stop after) :
    Drains fetcher cursor world (value :: items) stop after := by
  obtain ⟨last, spent, handed, drained⟩ := drains
  refine ⟨last, spent, handed, ?_⟩
  intro times taken enough
  cases times with
  | zero => cases enough
  | succ times =>
      simp only [Cursor.pulls, pulled]
      rw [drained times (taken.push value) (Nat.lt_of_succ_lt_succ enough)]
      simp

theorem drains_of_stop (times : Nat) (cursor : Cursor Item) (world : World Provider)
    (taken : Array Item)
    (stopped : (Cursor.pulls fetcher times cursor world taken).2.1 ≠ .paused) :
    ∃ items stop after, Drains fetcher cursor world items stop after := by
  -- The first pull that gives no item ends the list; those before put their items in front.
  induction times generalizing cursor world taken with
  | zero => exact absurd rfl stopped
  | succ times ih =>
      have does := pull_does fetcher cursor world
      cases pulled : cursor.pull fetcher world with
      | mk given result =>
          obtain ⟨rest, after⟩ := result
          rw [pulled] at does
          cases given with
          | ended =>
              obtain ⟨spent, handed⟩ := does.spent (by simp)
              exact ⟨[], .ended, after, drains_at_once spent handed fun more taken => by
                simp only [Cursor.pulls, pulled]⟩
          | failed error =>
              obtain ⟨spent, handed⟩ := does.spent (by simp)
              exact ⟨[], .failed error, after, drains_at_once spent handed fun more taken => by
                simp only [Cursor.pulls, pulled]⟩
          | item value =>
              simp only [Cursor.pulls, pulled] at stopped
              obtain ⟨items, stop, last, drains⟩ := ih rest after _ stopped
              exact ⟨value :: items, stop, last, drains.cons pulled⟩

/-- A traversal that heeds no token has handed over all that it fetched and is about to ask for a
page. -/
structure Asks (cursor : Cursor Item) (request : Request) : Prop where
  next : cursor.next = some request
  handed : cursor.buffered = []
  free : cursor.heedsToken = false

section Fetch

variable {request : Request} {page : Page Item}

variable (asks : Asks cursor request)
include asks

theorem Asks.behind
    (more : page.hasMore request.options
      (min (cursor.seen + page.items.length) largestWord) = true) :
    Asks (cursor.behind request page) ⟨request.options.nextPage, page.nextMarker⟩ := by
  refine ⟨?_, rfl, asks.free⟩
  simp [Cursor.behind, more]

variable (answered : (fetcher request world.provider).1.answer = .ok page)
include answered

theorem Asks.pulls :
    ∃ after : World Provider, after.provider = (fetcher request world.provider).2 ∧
      cursor.pull fetcher world =
        ((cursor.turn request (.ok page)).1, (cursor.turn request (.ok page)).2, after) := by
  have free : ¬ cursor.heedsToken = true := by simp [asks.free]
  obtain ⟨_, _, pulled⟩ := pull_answered fetcher world asks.handed asks.next rfl
    fun heeded => absurd heeded free
  rw [answered] at pulled
  exact ⟨_, rfl, pulled⟩

theorem Asks.passes (filled : page.items ≠ []) :
    ∃ after : World Provider, after.provider = (fetcher request world.provider).2 ∧
      Passes fetcher cursor world page.items (cursor.behind request page) after := by
  obtain ⟨after, moved, pulled⟩ := asks.pulls answered
  refine ⟨after, moved, ?_⟩
  intro times taken
  cases items : page.items with
  | nil => exact absurd items filled
  | cons value rest =>
      have split : (value :: rest).length + times = rest.length + times + 1 := by
        simp only [List.length_cons]
        omega
      rw [split, Cursor.pulls, pulled]
      simp only [Cursor.turn, items]
      rw [pulls_buffered]
      simp [Cursor.behind]

theorem Asks.drains_empty (empty : page.items = []) :
    ∃ after : World Provider, after.provider = (fetcher request world.provider).2 ∧
      Drains fetcher cursor world [] .ended after := by
  obtain ⟨after, moved, pulled⟩ := asks.pulls answered
  have spent : (cursor.behind request page).next = none := by
    simp [Cursor.behind, Page.hasMore, empty]
  refine ⟨after, moved, drains_at_once spent rfl ?_⟩
  intro more taken
  simp only [Cursor.pulls, pulled, Cursor.turn, empty]

theorem Asks.drains
    (complete : page.hasMore request.options
      (min (cursor.seen + page.items.length) largestWord) = false) :
    ∃ after : World Provider, after.provider = (fetcher request world.provider).2 ∧
      Drains fetcher cursor world page.items .ended after := by
  -- A page without items cannot be passed by pulls: the pull that fetches it finds the end.
  by_cases empty : page.items = []
  · rw [empty]
    exact asks.drains_empty answered empty
  · obtain ⟨after, moved, passed⟩ := asks.passes answered empty
    have ended : (cursor.behind request page).next = none := by simp [Cursor.behind, complete]
    refine ⟨after, moved, ?_⟩
    simpa using passed.drains (drains_over ended rfl)

end Fetch

end ResourceWatch.Listing
