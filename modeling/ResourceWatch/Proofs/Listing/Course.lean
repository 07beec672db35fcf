import ResourceWatch.Proofs.Listing.Pull
import ResourceWatch.Script.Run

/-!
The course of a listing, told without a cursor. A sequence of replies determines the requests one
after the other, the items received by each, and the failure that may end them. A cursor stands at a
place of this course: so many fetches made and so many pulls. One pull takes it to a next place, and
what it gives is the item at that place or the end.

What a listing comes to when nobody calls it off. Any number of pulls hands over the items of the
course in order and makes the requests of the course in order, no more of them than the items pulled
need. Pulling stops where the course ends, with its failure if it has one, and a listing that has
stopped gives and asks nothing more.
-/

namespace ResourceWatch.Listing

variable {Item Provider : Type}

theorem Page.has_more_capped (page : Page Item) (options : Options) (seen : Nat) :
    page.hasMore options (min seen largestWord) = page.hasMore options seen := by
  have capped (total : UInt64) :
      (min seen largestWord < total.toNat) = (seen < total.toNat) := by
    have bound := total.toNat_lt
    simp only [largestWord]
    apply propext
    omega
  simp only [hasMore, capped]

section Course

variable (replies : Nat → Reply (Page Item)) (options : Options)

def itemsOf : Except FetchError (Page Item) → List Item
  | .ok page => page.items
  | .error _ => []

def received (count : Nat) : List Item :=
  (List.range count).flatMap fun i => itemsOf (replies i).answer

/-- The request that an answer leads to when so many items were received by then. -/
def following? (request : Request) (seen : Nat) : Except FetchError (Page Item) → Option Request
  | .ok page =>
      if page.hasMore request.options seen then
        let number := ResourceWatch.countOf (request.pageNumber.toNat + 1)
        some ⟨{ request.options with pageNumber := number }, page.nextMarker⟩
      else none
  | .error _ => none

theorem following_page {request later : Request} {seen : Nat}
    {answer : Except FetchError (Page Item)}
    (follows : following? request seen answer = some later) :
    ∃ page, answer = .ok page ∧ page.hasMore request.options seen = true ∧
      later = ⟨request.options.nextPage, page.nextMarker⟩ := by
  cases answer with
  | error source => cases follows
  | ok page =>
      simp only [following?] at follows
      split at follows
      · rename_i more
        refine ⟨page, rfl, more, ?_⟩
        rw [← Option.some.inj follows, Options.nextPage, next_count_eq]
        rfl
      · cases follows

theorem following_filled {request later : Request} {seen : Nat}
    {answer : Except FetchError (Page Item)}
    (follows : following? request seen answer = some later) : itemsOf answer ≠ [] := by
  obtain ⟨page, rfl, more, _⟩ := following_page follows
  exact page.has_more_nonempty _ _ more

theorem Cursor.behind_follows (cursor : Cursor Item) (request : Request) (page : Page Item)
    {seen : Nat} (counted : cursor.seen = min seen largestWord) :
    (cursor.behind request page).next =
        following? request (seen + page.items.length) (.ok page) ∧
      (cursor.behind request page).seen = min (seen + page.items.length) largestWord := by
  have total : min (cursor.seen + page.items.length) largestWord =
      min (seen + page.items.length) largestWord := by
    rw [counted]
    omega
  refine ⟨?_, total⟩
  simp only [behind, following?, total, page.has_more_capped, Options.nextPage, next_count_eq]
  rfl

/-- The requests of the listing in order, counted from zero, as far as it goes. -/
def request? : Nat → Option Request
  | 0 => some ⟨options, none⟩
  | n + 1 => (request? n).bind fun request =>
      following? request (received replies (n + 1)).length (replies n).answer

theorem request_number {n : Nat} {request : Request}
    (asks : request? replies options n = some request) :
    request.pageNumber = ResourceWatch.countOf (options.pageNumber.toNat + n) := by
  induction n generalizing request with
  | zero =>
      cases asks
      exact (count_of_self _).symm
  | succ n ih =>
      obtain ⟨before, asked, follows⟩ := Option.bind_eq_some_iff.mp asks
      obtain ⟨page, _, _, rfl⟩ := following_page follows
      have number : before.options.pageNumber = _ := ih asked
      simp only [Request.pageNumber, Options.nextPage, number, next_count_of]
      rfl

/-- What the listing fails with when it has ended after so many fetches. A collection that is
missing from the first fetch on is an empty one, and a failure on any other. -/
def failure? : Nat → Option Interruption
  | 0 => none
  | n + 1 => (request? replies options n).bind fun request =>
      match (replies n).answer with
      | .ok _ => none
      | .error source =>
          if n = 0 ∧ source.isNotFound then none else some (.fetch request.pageNumber source)

theorem received_succ (n : Nat) :
    received replies (n + 1) = received replies n ++ itemsOf (replies n).answer := by
  simp [received, List.range_succ]

theorem received_within {early late : Nat} (order : early ≤ late) :
    received replies early <+: received replies late := by
  induction order with
  | refl => exact List.prefix_rfl
  | step _ ih =>
      rw [received_succ]
      exact ih.trans (List.prefix_append _ _)

theorem received_item {early late : Nat} (order : early ≤ late) {place : Nat} {value : Item}
    (here : (received replies early)[place]? = some value) :
    (received replies late)[place]? = some value := by
  obtain ⟨rest, whole⟩ := received_within replies order
  have inside := (List.getElem?_eq_some_iff.mp here).1
  rw [← whole, List.getElem?_append_left inside]
  exact here

theorem received_grows (n : Nat) (going : (request? replies options (n + 1)).isSome) :
    (received replies n).length < (received replies (n + 1)).length := by
  rw [received_succ, List.length_append]
  obtain ⟨later, asks⟩ := Option.isSome_iff_exists.mp going
  obtain ⟨request, _, follows⟩ := Option.bind_eq_some_iff.mp asks
  exact Nat.lt_add_of_pos_right (List.length_pos_iff.mpr (following_filled follows))

end Course

section Stands

variable (replies : Nat → Reply (Page Item)) (options : Options)

/-- A traversal has made so many fetches and so many pulls of a listing. -/
structure Stands (fetched pulled : Nat) (cursor : Cursor Item) (calls : List Request) : Prop where
  calls : calls.map some = (List.range fetched).map (request? replies options)
  next : cursor.next = request? replies options fetched
  buffered : cursor.buffered = (received replies fetched).drop pulled
  counted : cursor.next.isSome → pulled ≤ (received replies fetched).length ∧
    cursor.fetchedPages = ResourceWatch.countOf fetched ∧
    cursor.seen = min (received replies fetched).length largestWord
  /-- A failure takes a pull for itself. -/
  sound : pulled ≤ (received replies fetched).length → failure? replies options fetched = none

def Pull.close : Option Interruption → Pull Item
  | none => .ended
  | some error => .failed error

theorem start_stands (heeds : Bool) : Stands replies options 0 0 (.start options heeds) [] :=
  ⟨rfl, rfl, rfl, fun _ => ⟨Nat.le_refl 0, rfl, rfl⟩, fun _ => rfl⟩

variable {replies options} {fetched pulled : Nat} {cursor : Cursor Item} {calls : List Request}
variable (stands : Stands replies options fetched pulled cursor calls)
include stands

theorem Stands.calls_length : calls.length = fetched := by
  have same := congrArg List.length stands.calls
  simpa using same

theorem Stands.call (request : Request)
    (asks : request? replies options fetched = some request) :
    (calls ++ [request]).map some = (List.range (fetched + 1)).map (request? replies options) := by
  rw [List.range_succ, List.map_append, List.map_append, stands.calls, List.map_singleton,
    List.map_singleton, asks]

theorem Stands.turn_page (request : Request) (page : Page Item)
    (asks : request? replies options fetched = some request)
    (here : pulled = (received replies fetched).length)
    (answered : (replies fetched).answer = .ok page) :
    Stands replies options (fetched + 1) (pulled + 1)
      { cursor.behind request page with buffered := page.items.tail } (calls ++ [request]) := by
  obtain ⟨_, pages, seen⟩ := stands.counted (by rw [stands.next, asks]; rfl)
  have more : received replies (fetched + 1) = received replies fetched ++ page.items := by
    rw [received_succ, answered]
    rfl
  have counted : (received replies (fetched + 1)).length =
      (received replies fetched).length + page.items.length := by
    rw [more, List.length_append]
  obtain ⟨follows, total⟩ := cursor.behind_follows request page seen
  rw [← counted] at follows total
  have next : (cursor.behind request page).next = request? replies options (fetched + 1) := by
    rw [follows]
    simp only [request?, asks, answered, Option.bind_some]
  refine ⟨stands.call request asks, next, ?_, fun going => ⟨?_, ?_, total⟩, fun _ => ?_⟩
  · rw [more, here, List.drop_append, List.drop_eq_nil_of_le (Nat.le_succ _),
      Nat.add_sub_cancel_left, List.drop_one, List.nil_append]
  · have grown := received_grows replies options fetched (by rw [← next]; exact going)
    omega
  · rw [← next_count_of, ← pages]
    rfl
  · simp only [failure?, asks, answered, Option.bind_some]

theorem Stands.turn (request : Request) (asks : request? replies options fetched = some request)
    (here : pulled = (received replies fetched).length) :
    Stands replies options (fetched + 1) (pulled + 1)
      (cursor.turn request (replies fetched).answer).2 (calls ++ [request]) := by
  cases answer : (replies fetched).answer with
  | error source =>
      have finished : request? replies options (fetched + 1) = none := by
        simp only [request?, asks, answer, Option.bind_some, following?]
      have left : (received replies (fetched + 1)).length = pulled := by
        rw [received_succ, answer, here]
        simp [itemsOf]
      have closed : (cursor.turn request (.error source)).2 = cursor.closed := by
        simp only [Cursor.turn]
        split <;> rfl
      rw [closed]
      refine ⟨stands.call request asks, finished.symm, ?_, fun going => ?_, fun behind => ?_⟩
      · rw [List.drop_eq_nil_of_le (by omega)]
        rfl
      · cases going
      · omega
  | ok page =>
      have tail : (cursor.turn request (.ok page)).2 =
          { cursor.behind request page with buffered := page.items.tail } := by
        simp only [Cursor.turn]
        split <;> rename_i items <;> rw [items] <;> rfl
      rw [tail]
      exact stands.turn_page request page asks here answer

end Stands

section Step

variable (replies : Nat → Reply (Page Item)) (options : Options)

/-- What a pull gives that comes behind so many others, by so many fetches when it ends. -/
inductive Gives (fetched pulled : Nat) : Pull Item → Prop where
  | item (value : Item) (here : (received replies fetched)[pulled]? = some value) :
      Gives fetched pulled (.item value)
  | closes (finished : request? replies options fetched = none)
      (here : pulled = (received replies fetched).length) :
      Gives fetched pulled (.close (failure? replies options fetched))
  | nothing (finished : request? replies options fetched = none)
      (behind : (received replies fetched).length < pulled) : Gives fetched pulled .ended

structure Steps (fetched pulled later : Nat) (cursor : Cursor Item) (world : World (List Request))
    (result : Pull Item × Cursor Item × World (List Request)) : Prop where
  stands : Stands replies options later (pulled + 1) result.2.1 result.2.2.provider
  gives : Gives replies options later pulled result.1
  fetches : later = fetched ∨ later = fetched + 1 ∧ (received replies fetched).length = pulled
  heeds : result.2.1.heedsToken = cursor.heedsToken
  token : cursor.heedsToken = true → result.2.2.token = world.token

variable {replies options} {fetched pulled : Nat} {cursor : Cursor Item}
variable {world : World (List Request)}

section After

variable {later : Nat} {result : Pull Item × Cursor Item × World (List Request)}
variable (step : Steps replies options fetched pulled later cursor world result)
include step

theorem Steps.order : fetched ≤ later := by
  rcases step.fetches with same | ⟨grown, _⟩
  · exact Nat.le_of_eq same.symm
  · exact grown ▸ Nat.le_succ fetched

theorem Steps.items {given : List (Pull Item)}
    (before : pulled ≤ (received replies fetched).length →
      given = ((received replies fetched).take pulled).map .item)
    (inside : pulled < (received replies later).length) :
    given ++ [result.1] = ((received replies later).take (pulled + 1)).map .item := by
  have earlier : pulled ≤ (received replies fetched).length := by
    rcases step.fetches with same | ⟨_, here⟩
    · exact Nat.le_of_lt (same ▸ inside)
    · exact Nat.le_of_eq here.symm
  have kept : (received replies later).take pulled = (received replies fetched).take pulled := by
    obtain ⟨rest, whole⟩ := received_within replies step.order
    rw [← whole, List.take_append_of_le_length earlier]
  have gives := step.gives
  generalize result.1 = answer at gives ⊢
  cases gives with
  | item value here =>
      rw [List.take_add_one, here, kept, List.map_append, ← before earlier]
      rfl
  | closes _ here => exact absurd inside (Nat.not_lt.mpr (Nat.le_of_eq here.symm))
  | nothing _ behind => exact absurd inside (Nat.lt_asymm behind)

end After

variable (stands : Stands replies options fetched pulled cursor world.provider)
include stands

theorem Stands.hands_over {value : Item} {rest : List Item}
    (left : cursor.buffered = value :: rest) :
    Steps replies options fetched pulled fetched cursor world
      (.item value, { cursor with buffered := rest }, world) := by
  have split : value :: rest = (received replies fetched).drop pulled :=
    left.symm.trans stands.buffered
  have here : (received replies fetched)[pulled]? = some value := by
    rw [← List.head?_drop, ← split]
    rfl
  have inside := (List.getElem?_eq_some_iff.mp here).1
  refine ⟨⟨stands.calls, stands.next, ?_, fun going => ⟨inside, (stands.counted going).2⟩, fun _ =>
    stands.sound (Nat.le_of_lt inside)⟩, .item value here, Or.inl rfl, rfl, fun _ => rfl⟩
  rw [← List.tail_drop, ← split]
  rfl

theorem Stands.stays_over (handed : cursor.buffered = []) (spent : cursor.next = none) :
    Steps replies options fetched pulled fetched cursor world (.ended, cursor, world) := by
  have finished : request? replies options fetched = none := stands.next.symm.trans spent
  have behind : (received replies fetched).length ≤ pulled :=
    List.drop_eq_nil_iff.mp (stands.buffered.symm.trans handed)
  refine ⟨⟨stands.calls, stands.next, ?_, ?_, ?_⟩, ?_, Or.inl rfl, rfl, fun _ => rfl⟩
  · rw [handed, List.drop_eq_nil_of_le (Nat.le_succ_of_le behind)]
  · intro going
    rw [spent] at going
    cases going
  · intro inside
    exact stands.sound (Nat.le_of_succ_le inside)
  · rcases Nat.eq_or_lt_of_le behind with same | later
    · have closes : Gives replies options fetched pulled _ := .closes finished same.symm
      rw [stands.sound (Nat.le_of_eq same.symm)] at closes
      exact closes
    · exact .nothing finished later

theorem Stands.turn_gives (request : Request)
    (asks : request? replies options fetched = some request)
    (here : pulled = (received replies fetched).length) :
    Gives replies options (fetched + 1) pulled
      (cursor.turn request (replies fetched).answer).1 := by
  obtain ⟨_, pages, _⟩ := stands.counted (by rw [stands.next, asks]; rfl)
  cases answer : (replies fetched).answer with
  | error source =>
      have finished : request? replies options (fetched + 1) = none := by
        simp only [request?, asks, answer, Option.bind_some, following?]
      have left : pulled = (received replies (fetched + 1)).length := by
        rw [received_succ, answer, here]
        simp [itemsOf]
      have closes := Gives.closes finished left
      simp only [failure?, asks, answer, Option.bind_some] at closes
      simp only [Cursor.turn, pages, count_of_zero_iff]
      by_cases missing : fetched = 0 ∧ source.isNotFound = true
      · rw [if_pos missing] at closes ⊢
        exact closes
      · rw [if_neg missing] at closes ⊢
        exact closes
  | ok page =>
      have more : received replies (fetched + 1) = received replies fetched ++ page.items := by
        rw [received_succ, answer]
        rfl
      cases items : page.items with
      -- An empty page ends a listing whatever it says, so this pull already finds the end.
      | nil =>
          have finished : request? replies options (fetched + 1) = none := by
            simp [request?, asks, answer, following?, Page.hasMore, items]
          have left : pulled = (received replies (fetched + 1)).length := by
            rw [more, items, List.append_nil]
            exact here
          have closes := Gives.closes finished left
          simp only [failure?, asks, answer, Option.bind_some] at closes
          simp only [Cursor.turn, items]
          exact closes
      | cons value rest =>
          simp only [Cursor.turn, items]
          exact .item value (by simp [more, items, here])

theorem Stands.pull
    (undisturbed : World.Undisturbed cursor.heedsToken world.token world.now (replies fetched)) :
    ∃ later, Steps replies options fetched pulled later cursor world
      (cursor.pull (Script.sequence replies) world) := by
  cases left : cursor.buffered with
  | cons value rest =>
      rw [pull_buffered _ world left]
      exact ⟨fetched, stands.hands_over left⟩
  | nil =>
      cases asked : cursor.next with
      | none =>
          rw [pull_over _ world left asked]
          exact ⟨fetched, stands.stays_over left asked⟩
      | some request =>
          have asks : request? replies options fetched = some request :=
            stands.next.symm.trans asked
          have called : Script.sequence replies request world.provider =
              (replies fetched, world.provider ++ [request]) := by
            simp only [Script.sequence, stands.calls_length]
          obtain ⟨kept, same, pulls⟩ := pull_answered _ world left asked called undisturbed
          rw [pulls]
          -- What was received and is not buffered any more was handed over.
          have here : pulled = (received replies fetched).length :=
            Nat.le_antisymm (stands.counted (by rw [asked]; rfl)).1
              (List.drop_eq_nil_iff.mp (stands.buffered.symm.trans left))
          refine ⟨fetched + 1, stands.turn request asks here, stands.turn_gives request asks here,
            Or.inr ⟨rfl, here.symm⟩, cursor.turn_heeds request _, same⟩

end Step

variable {replies : Nat → Reply (Page Item)} {options : Options}

def Stop.close : Option Interruption → Stop
  | none => .ended
  | some error => .failed error

def Uncancelled (replies : Nat → Reply (Page Item)) (heeds : Bool) (token : Token) : Prop :=
  heeds = true → token = {} ∧ ∀ i, (replies i).cancels = false

theorem Uncancelled.undisturbed {heeds : Bool} {token : Token}
    (uncancelled : Uncancelled replies heeds token) (now : Instant) (n : Nat) :
    World.Undisturbed heeds token now (replies n) := by
  intro heeded
  obtain ⟨idle, calm⟩ := uncancelled heeded
  exact ⟨calm n, idle ▸ Token.idle_spares _⟩

/-- So many pulls in all came to a stop, or to the item behind the last of them, by no more fetches
than they needed. -/
structure Reaches (replies : Nat → Reply (Page Item)) (options : Options) (pulls fetched : Nat)
    (stop : Stop) (last : Cursor Item) (after : World (List Request)) : Prop where
  calls : after.provider.map some = (List.range fetched).map (request? replies options)
  needed : ∀ n < fetched, (received replies n).length < pulls
  stops : stop = .paused ∧ pulls ≤ (received replies fetched).length ∨
    stop = .close (failure? replies options fetched) ∧
      (received replies fetched).length < pulls ∧
      request? replies options fetched = none ∧ last.next = none ∧ last.buffered = []

theorem Steps.needed {fetched pulled later : Nat} {cursor : Cursor Item}
    {world : World (List Request)} {result : Pull Item × Cursor Item × World (List Request)}
    (step : Steps replies options fetched pulled later cursor world result) {pulls : Nat}
    (enough : pulled < pulls) (needed : ∀ n < fetched, (received replies n).length < pulls) :
    ∀ n < later, (received replies n).length < pulls := by
  intro n below
  rcases step.fetches with same | ⟨grown, here⟩
  · exact needed n (same ▸ below)
  · rcases Nat.lt_succ_iff_lt_or_eq.mp (grown ▸ below) with earlier | now
    · exact needed n earlier
    · rw [now, here]
      exact enough

theorem Stands.pulls (times fetched pulled : Nat) (cursor : Cursor Item)
    (world : World (List Request)) (taken : Array Item)
    (stands : Stands replies options fetched pulled cursor world.provider)
    (inside : pulled ≤ (received replies fetched).length)
    (needed : ∀ n < fetched, (received replies n).length < pulled + times)
    (uncancelled : Uncancelled replies cursor.heedsToken world.token) :
    ∃ later stop last after, fetched ≤ later ∧
      Cursor.pulls (Script.sequence replies) times cursor world taken =
        (taken ++ (((received replies later).drop pulled).take times).toArray, stop, last, after) ∧
      Reaches replies options (pulled + times) later stop last after := by
  induction times generalizing fetched pulled cursor world taken with
  | zero =>
      exact ⟨fetched, .paused, cursor, world, Nat.le_refl _, by simp [Cursor.pulls],
        stands.calls, needed, Or.inl ⟨rfl, inside⟩⟩
  | succ times ih =>
      obtain ⟨next, step⟩ := stands.pull (uncancelled.undisturbed world.now fetched)
      have order := step.order
      have neededNext := step.needed (Nat.lt_add_of_pos_right (Nat.succ_pos times)) needed
      simp only [Cursor.pulls]
      generalize cursor.pull (Script.sequence replies) world = result at step
      obtain ⟨answer, rest, between⟩ := result
      obtain ⟨reached, gives, _, heeds, token⟩ := step
      cases gives with
      | item value here =>
          have stillUncancelled : Uncancelled replies rest.heedsToken between.token := by
            intro heeded
            rw [heeds] at heeded
            exact ⟨(token heeded).trans (uncancelled heeded).1, (uncancelled heeded).2⟩
          have pulledOn : pulled + (times + 1) = pulled + 1 + times := by omega
          rw [pulledOn] at neededNext ⊢
          obtain ⟨later, stop, last, after, orderLater, pulls, reaches⟩ :=
            ih next (pulled + 1) rest between (taken.push value) reached
              (List.getElem?_eq_some_iff.mp here).1 neededNext stillUncancelled
          refine ⟨later, stop, last, after, Nat.le_trans order orderLater, ?_, reaches⟩
          obtain ⟨inLater, item⟩ :=
            List.getElem?_eq_some_iff.mp (received_item replies orderLater here)
          dsimp only
          rw [pulls, List.drop_eq_getElem_cons inLater, item]
          simp
      | closes finished here =>
          refine ⟨next, .close (failure? replies options next), rest, between, order, ?_,
            reached.calls, neededNext,
            Or.inr ⟨rfl, by omega, finished, reached.next.trans finished, ?_⟩⟩
          · rw [List.drop_eq_nil_of_le (Nat.le_of_eq here.symm)]
            cases failure? replies options next <;> simp [Stop.close]
          · rw [reached.buffered, List.drop_eq_nil_of_le (by omega)]
      | nothing finished behind =>
          -- Pulling stops with the first pull that gives no item, so none comes behind it.
          have grown := (received_within replies order).length_le
          omega

/-- The stream of a listing over any sequence of replies: it asks what the course asks, hands over
what the course receives, stops as the course ends, and stays so. -/
theorem stream_follows_course (replies : Nat → Reply (Page Item)) (options : Options) (heeds : Bool)
    (world : World (List Request)) (unasked : world.provider = [])
    (uncancelled : Uncancelled replies heeds world.token) (times : Nat) :
    ∃ fetched stop last after,
      Cursor.pulls (Script.sequence replies) times (.start options heeds) world #[] =
        (((received replies fetched).take times).toArray, stop, last, after) ∧
      after.provider.map some = (List.range fetched).map (request? replies options) ∧
      (∀ n < fetched, (received replies n).length < times) ∧
      (stop = .paused ∧ times ≤ (received replies fetched).length ∨
        stop = .close (failure? replies options fetched) ∧
          (received replies fetched).length < times ∧
          request? replies options fetched = none ∧
          ∀ more taken, Cursor.pulls (Script.sequence replies) (more + 1) last after taken =
            (taken, .ended, last, after)) := by
  have stands : Stands replies options 0 0 (.start options heeds) world.provider :=
    unasked ▸ start_stands replies options heeds
  obtain ⟨fetched, stop, last, after, _, pulls, calls, needed, stops⟩ :=
    stands.pulls times 0 0 _ world #[] (Nat.le_refl 0)
      (fun n below => absurd below (Nat.not_lt_zero n)) uncancelled
  rw [Nat.zero_add] at needed stops
  refine ⟨fetched, stop, last, after, ?_, calls, needed, ?_⟩
  · rw [pulls, List.drop_zero, Array.empty_append]
  · rcases stops with paused | ⟨closed, short, finished, spent, handed⟩
    · exact Or.inl paused
    · exact Or.inr ⟨closed, short, finished, fun more taken =>
        pulls_over _ after handed spent more taken⟩

def missingBehind : Nat → Reply (Page Nat)
  | 0 => { answer := .ok ⟨[1, 2], 1, 2, none, none⟩ }
  | _ => { answer := .error (.notFound "servers") }

/-- The items of the first page stay handed over, and the missing one behind it is a failure. -/
theorem missing_behind_fails :
    Uncancelled missingBehind true {} ∧ ∃ last after,
      Cursor.pulls (Script.sequence missingBehind) 3 (.start .initial true) { provider := [] } #[] =
        (#[1, 2], .failed (.fetch 2 (.notFound "servers")), last, after) ∧
      after.provider = [⟨.initial, none⟩, ⟨⟨2, none, none⟩, none⟩] := by
  have uncancelled : Uncancelled missingBehind true {} :=
    fun _ => ⟨rfl, fun i => by cases i <;> rfl⟩
  refine ⟨uncancelled, ?_⟩
  obtain ⟨fetched, stop, last, after, pulls, calls, _, stops⟩ :=
    stream_follows_course missingBehind .initial true { provider := [] } rfl uncancelled 3
  have few : fetched ≤ 2 := by
    apply Nat.le_of_not_lt
    intro third
    have none_made : none ∈ after.provider.map some := by
      rw [calls]
      exact List.mem_map.mpr ⟨2, List.mem_range.mpr third, rfl⟩
    simp at none_made
  have made : fetched = 0 ∨ fetched = 1 ∨ fetched = 2 := by omega
  rcases stops with ⟨_, enough⟩ | ⟨closed, _, finished, _⟩
  · rcases made with rfl | rfl | rfl <;> exact absurd enough (by decide)
  · rcases made with rfl | rfl | rfl
    · cases finished
    · cases finished
    · subst closed
      exact ⟨last, after, pulls, (List.map_inj_right fun _ _ => Option.some.inj).mp calls⟩

end ResourceWatch.Listing
