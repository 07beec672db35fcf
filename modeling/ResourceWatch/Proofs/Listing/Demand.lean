import ResourceWatch.Proofs.Listing.Course

/-!
A listing that is fetched ahead of its reader. What a provider of any kind answered so far
determines the request that follows, so the pages of a listing can be fetched one after the other
with no regard to what is handed over. Every page that another follows has items. So many fetches
tell as many items at least, and fetches behind the end tell nothing.

How much a listing fetches for the items that are drawn from it. Beside the listing that is fetched
ahead, a traversal has fetched the first so many pages of it, and the last of these only because the
items of those before did not suffice. So a page is fetched when its first item is asked for and not
before, and the pull that finds no item has asked once for one, or not at all where the page before
was known to be the last.
-/

namespace ResourceWatch.Listing

variable {Item Provider : Type}

def itemsTold (exchanges : List (Script.Exchange Request (Page Item))) : List Item :=
  exchanges.flatMap fun exchange => itemsOf exchange.answer

def leadsTo? (options : Options) (exchanges : List (Script.Exchange Request (Page Item))) :
    Option Request :=
  match exchanges.getLast? with
  | none => some (.first options)
  | some last => following? last.request (itemsTold exchanges).length last.answer

/-- What a provider has told after so many fetches ahead, and what has become of it. -/
def eagerly (fetcher : Fetcher Provider Request (Page Item)) (provider : Provider)
    (options : Options) : Nat → Script.Transcribed Provider Request (Page Item)
  | 0 => ⟨provider, []⟩
  | fetches + 1 =>
      let told := eagerly fetcher provider options fetches
      match leadsTo? options told.exchanges with
      | none => told
      | some request => (Script.transcribing fetcher request told).2

theorem items_told_append (before after : List (Script.Exchange Request (Page Item))) :
    itemsTold (before ++ after) = itemsTold before ++ itemsTold after :=
  List.flatMap_append

theorem items_told_behind (told : List (Script.Exchange Request (Page Item)))
    (last : Script.Exchange Request (Page Item)) :
    itemsTold (told ++ [last]) = itemsTold told ++ itemsOf last.answer := by
  rw [items_told_append]
  exact congrArg (itemsTold told ++ ·) (List.flatMap_singleton ..)

theorem leads_to_behind (options : Options)
    (told : List (Script.Exchange Request (Page Item)))
    (last : Script.Exchange Request (Page Item)) :
    leadsTo? options (told ++ [last]) =
      following? last.request (itemsTold (told ++ [last])).length last.answer := by
  simp only [leadsTo?, List.getLast?_concat]

section Eager

variable (fetcher : Fetcher Provider Request (Page Item)) (provider : Provider) (options : Options)

theorem eagerly_asks {fetches : Nat} {request : Request}
    (led : leadsTo? options (eagerly fetcher provider options fetches).exchanges = some request) :
    eagerly fetcher provider options (fetches + 1) =
      (Script.transcribing fetcher request (eagerly fetcher provider options fetches)).2 := by
  simp only [eagerly, led]

theorem eagerly_over {fetches : Nat}
    (spent : leadsTo? options (eagerly fetcher provider options fetches).exchanges = none)
    (more : Nat) :
    eagerly fetcher provider options (fetches + more) =
      eagerly fetcher provider options fetches := by
  induction more with
  | zero => rfl
  | succ more ih =>
      rw [← Nat.add_assoc]
      simp only [eagerly, ih, spent]

theorem eagerly_within {early late : Nat} (order : early ≤ late) :
    (eagerly fetcher provider options early).exchanges <+:
      (eagerly fetcher provider options late).exchanges := by
  induction order with
  | refl => exact List.prefix_rfl
  | step _ ih =>
      apply ih.trans
      simp only [eagerly]
      split
      · exact List.prefix_rfl
      · exact List.prefix_append _ _

theorem eagerly_told_within {early late : Nat} (order : early ≤ late) :
    itemsTold (eagerly fetcher provider options early).exchanges <+:
      itemsTold (eagerly fetcher provider options late).exchanges := by
  obtain ⟨rest, whole⟩ := eagerly_within fetcher provider options order
  rw [← whole, items_told_append]
  exact List.prefix_append _ _

theorem eagerly_all {fetches : Nat}
    (spent : leadsTo? options (eagerly fetcher provider options fetches).exchanges = none)
    (other : Nat) :
    itemsTold (eagerly fetcher provider options other).exchanges <+:
      itemsTold (eagerly fetcher provider options fetches).exchanges := by
  rcases Nat.le_total other fetches with early | late
  · exact eagerly_told_within fetcher provider options early
  · obtain ⟨more, rfl⟩ := Nat.exists_eq_add_of_le late
    simp only [eagerly_over fetcher provider options spent more, List.prefix_rfl]

theorem eagerly_keeps (Kept : Script.Transcribed Provider Request (Page Item) → Prop)
    (start : Kept ⟨provider, []⟩)
    (call : ∀ told request, Kept told → leadsTo? options told.exchanges = some request →
      Kept (Script.transcribing fetcher request told).2) (fetches : Nat) :
    Kept (eagerly fetcher provider options fetches) := by
  induction fetches with
  | zero => exact start
  | succ fetches ih =>
      simp only [eagerly]
      split
      · exact ih
      · rename_i request led
        exact call _ request ih led

theorem eagerly_answered (fetches : Nat) :
    let told := eagerly fetcher provider options fetches
    Script.Reached fetcher provider told.provider ∧ ∀ exchange ∈ told.exchanges,
      ∃ state, Script.Reached fetcher provider state ∧
        (fetcher exchange.request state).1.answer = exchange.answer := by
  apply eagerly_keeps fetcher provider options fun told =>
    Script.Reached fetcher provider told.provider ∧ ∀ exchange ∈ told.exchanges,
      ∃ state, Script.Reached fetcher provider state ∧
        (fetcher exchange.request state).1.answer = exchange.answer
  · exact ⟨.start, fun exchange none_told => by cases none_told⟩
  · rintro told request ⟨reached, answered⟩ _
    refine ⟨reached.call request, ?_⟩
    intro exchange member
    rcases List.mem_append.mp member with earlier | last
    · exact answered exchange earlier
    · rw [List.mem_singleton.mp last]
      exact ⟨told.provider, reached, rfl⟩

theorem eagerly_fills (fetches : Nat) :
    let told := (eagerly fetcher provider options fetches).exchanges
    (leadsTo? options told).isSome → told.length ≤ (itemsTold told).length := by
  apply eagerly_keeps fetcher provider options fun told =>
    (leadsTo? options told.exchanges).isSome →
      told.exchanges.length ≤ (itemsTold told.exchanges).length
  · intro _
    exact Nat.le_refl 0
  · intro told request filled led going
    have before := filled (by rw [led]; rfl)
    simp only [Script.transcribing] at going ⊢
    rw [leads_to_behind] at going
    obtain ⟨later, follows⟩ := Option.isSome_iff_exists.mp going
    have brought := List.length_pos_iff.mpr (following_filled follows)
    rw [items_told_behind, List.length_append, List.length_append]
    exact Nat.add_le_add before brought

end Eager

section Drawn

variable (fetcher : Fetcher Provider Request (Page Item)) (provider : Provider) (options : Options)

/-- Some items were drawn from a listing, and no page was fetched that they could do without. -/
structure Drawn (taken : List Item) (cursor : Cursor Item)
    (told : Script.Transcribed Provider Request (Page Item)) : Prop where
  ahead : told = eagerly fetcher provider options told.exchanges.length
  next : cursor.next = leadsTo? options told.exchanges
  whole : taken ++ cursor.buffered = itemsTold told.exchanges
  seen : cursor.seen = min (itemsTold told.exchanges).length largestWord
  needed : ∀ fewer < told.exchanges.length,
    (itemsTold (eagerly fetcher provider options fewer).exchanges).length < taken.length

/-- What pulling up to so many items comes to: they were drawn, or fewer were all there are, or it
was called off. -/
inductive Draws (count : Nat) (taken : List Item) (cursor : Cursor Item)
    (told : Script.Transcribed Provider Request (Page Item)) : Stop → Prop where
  | paused (enough : taken.length = count)
      (drawn : Drawn fetcher provider options taken cursor told) :
      Draws count taken cursor told .paused
  | finished {stop : Stop} (going : stop ≠ .paused) (short : taken.length < count)
      (ahead : told = eagerly fetcher provider options told.exchanges.length)
      (spent : leadsTo? options told.exchanges = none) (all : taken = itemsTold told.exchanges) :
      Draws count taken cursor told stop
  | calledOff {page : UInt32}
      (ahead : told = eagerly fetcher provider options told.exchanges.length)
      (handed : taken <+: itemsTold told.exchanges) :
      Draws count taken cursor told (.failed (.cancelled page))

theorem start_drawn (heeds : Bool) :
    Drawn fetcher provider options [] (.start options heeds) ⟨provider, []⟩ :=
  ⟨rfl, rfl, rfl, rfl, fun _ fewer => by cases fewer⟩

end Drawn

section Step

variable {fetcher : Fetcher Provider Request (Page Item)} {provider : Provider} {options : Options}
variable {taken : List Item} {cursor rest : Cursor Item} {given : Pull Item}
variable {before after : Script.Transcribed Provider Request (Page Item)}
variable (drawn : Drawn fetcher provider options taken cursor before)
include drawn

theorem Drawn.within : taken <+: itemsTold before.exchanges := by
  rw [← drawn.whole]
  exact List.prefix_append _ _

theorem Drawn.exhausted (handed : cursor.buffered = []) : taken = itemsTold before.exchanges := by
  have whole := drawn.whole
  rw [handed, List.append_nil] at whole
  exact whole

theorem Drawn.asks {request : Request} (asked : cursor.next = some request) :
    (Script.transcribing fetcher request before).2 = eagerly fetcher provider options
      (Script.transcribing fetcher request before).2.exchanges.length := by
  have led : leadsTo? options before.exchanges = some request := drawn.next.symm.trans asked
  have count : (Script.transcribing fetcher request before).2.exchanges.length =
      before.exchanges.length + 1 := List.length_append
  rw [drawn.ahead] at led
  rw [count, eagerly_asks fetcher provider options led, ← drawn.ahead]

theorem Drawn.behind (request : Request) (page : Page Item) :
    let told := before.exchanges ++ [⟨request, .ok page⟩]
    (cursor.behind request page).next = leadsTo? options told ∧
      (cursor.behind request page).seen = min (itemsTold told).length largestWord := by
  intro told
  have counted : (itemsTold told).length =
      (itemsTold before.exchanges).length + page.items.length := by
    rw [items_told_behind, List.length_append]
    rfl
  rw [leads_to_behind, counted]
  exact cursor.behind_follows request page drawn.seen

theorem Drawn.fetches
    (does : PullDoes (Script.transcribing fetcher) cursor before given rest after) :
    after = before ∨ taken = itemsTold before.exchanges ∧
      (leadsTo? options before.exchanges).isSome ∧
      after.exchanges.length = before.exchanges.length + 1 ∧
      after = eagerly fetcher provider options after.exchanges.length := by
  cases does with
  | handed => exact Or.inl rfl
  | finished => exact Or.inl rfl
  | refused => exact Or.inl rfl
  | cut handed asked =>
      exact Or.inr ⟨drawn.exhausted handed, by rw [← drawn.next, asked]; rfl, List.length_append,
        drawn.asks asked⟩
  | heard handed asked =>
      exact Or.inr ⟨drawn.exhausted handed, by rw [← drawn.next, asked]; rfl, List.length_append,
        drawn.asks asked⟩

theorem Drawn.hands_over {value : Item} {left : List Item}
    (buffered : cursor.buffered = value :: left) :
    Drawn fetcher provider options (taken ++ [value]) { cursor with buffered := left } before := by
  have whole := drawn.whole
  rw [buffered] at whole
  refine ⟨drawn.ahead, drawn.next, ?_, drawn.seen, ?_⟩
  · rw [List.append_assoc]
    exact whole
  · intro fewer inside
    rw [List.length_append]
    exact Nat.lt_succ_of_lt (drawn.needed fewer inside)

theorem Drawn.opens {request : Request} {page : Page Item} {value : Item} {left : List Item}
    (handed : cursor.buffered = []) (asked : cursor.next = some request)
    (answered : (fetcher request before.provider).1.answer = .ok page)
    (items : page.items = value :: left) :
    Drawn fetcher provider options (taken ++ [value])
      { cursor.behind request page with buffered := left }
      (Script.transcribing fetcher request before).2 := by
  have transcribed : (Script.transcribing fetcher request before).2.exchanges =
      before.exchanges ++ [⟨request, .ok page⟩] := by
    simp only [Script.transcribing, answered]
  obtain ⟨next, seen⟩ := drawn.behind request page
  have drawn_all := drawn.exhausted handed
  refine ⟨drawn.asks asked, ?_, ?_, ?_, ?_⟩
  · rw [transcribed]
    exact next
  · rw [transcribed, items_told_behind, ← drawn_all, List.append_assoc]
    exact congrArg (taken ++ ·) items.symm
  · rw [transcribed]
    exact seen
  · intro fewer inside
    rw [transcribed, List.length_append] at inside
    rw [List.length_append, drawn_all, drawn.ahead]
    exact Nat.lt_succ_of_le
      (eagerly_told_within fetcher provider options (Nat.le_of_lt_succ inside)).length_le

theorem Drawn.item {value : Item}
    (does : PullDoes (Script.transcribing fetcher) cursor before (.item value) rest after) :
    Drawn fetcher provider options (taken ++ [value]) rest after := by
  generalize item : Pull.item value = given at does
  cases does with
  | handed left =>
      cases item
      exact drawn.hands_over left
  | finished => cases item
  | refused => cases item
  | cut => cases item
  | @heard request handed asked =>
      cases answered : (fetcher request before.provider).1.answer with
      | error source =>
          simp only [Script.transcribing, answered, Cursor.turn] at item
          split at item <;> cases item
      | ok page =>
          cases items : page.items with
          | nil => simp [Script.transcribing, answered, Cursor.turn, items] at item
          | cons first left =>
              simp only [Script.transcribing, answered, Cursor.turn, items] at item
              cases item
              have opened := drawn.opens handed asked answered items
              simp only [Script.transcribing, answered, Cursor.turn, items] at opened ⊢
              exact opened

theorem Drawn.finished (does : PullDoes (Script.transcribing fetcher) cursor before given rest after)
    (none_given : ∀ value, given ≠ .item value)
    (uncancelled : ∀ page, given ≠ .failed (.cancelled page)) :
    after = eagerly fetcher provider options after.exchanges.length ∧
      leadsTo? options after.exchanges = none ∧ taken = itemsTold after.exchanges := by
  cases does with
  | handed => exact absurd rfl (none_given _)
  | refused => exact absurd rfl (uncancelled _)
  | cut => exact absurd rfl (uncancelled _)
  | finished handed spent => exact ⟨drawn.ahead, drawn.next.symm.trans spent, drawn.exhausted handed⟩
  | @heard request handed asked =>
      have transcribed : (Script.transcribing fetcher request before).2.exchanges =
          before.exchanges ++ [⟨request, (fetcher request before.provider).1.answer⟩] := rfl
      -- An answer that gives no item to hand over tells none.
      have barren : itemsOf (fetcher request before.provider).1.answer = [] := by
        cases answered : (fetcher request before.provider).1.answer with
        | error source => rfl
        | ok page =>
            cases items : page.items with
            | nil => exact items
            | cons first left =>
                simp [Script.transcribing, answered, Cursor.turn, items] at none_given
      refine ⟨drawn.asks asked, ?_, ?_⟩
      · rw [transcribed, leads_to_behind]
        cases follows : following? _ _ _ with
        | none => rfl
        | some later => exact absurd barren (following_filled follows)
      · rw [transcribed, items_told_behind, ← drawn.exhausted handed, barren, List.append_nil]

theorem Drawn.called_off
    (does : PullDoes (Script.transcribing fetcher) cursor before given rest after) :
    after = eagerly fetcher provider options after.exchanges.length ∧
      taken <+: itemsTold after.exchanges := by
  rcases drawn.fetches does with rfl | ⟨_, _, count, ahead⟩
  · exact ⟨drawn.ahead, drawn.within⟩
  · have within := drawn.within
    rw [drawn.ahead] at within
    constructor
    · exact ahead
    · rw [ahead, count]
      exact within.trans (eagerly_told_within fetcher provider options (Nat.le_succ _))

end Step

section Run

variable {fetcher : Fetcher Provider Request (Page Item)} {provider : Provider} {options : Options}

theorem Drawn.pulls (times : Nat) {taken : Array Item} {cursor : Cursor Item}
    {world : World (Script.Transcribed Provider Request (Page Item))}
    (drawn : Drawn fetcher provider options taken.toList cursor world.provider) :
    let pulled := Cursor.pulls (Script.transcribing fetcher) times cursor world taken
    Draws fetcher provider options (taken.size + times) pulled.1.toList pulled.2.2.1
      pulled.2.2.2.provider pulled.2.1 := by
  -- The items drawn so far grow with each pull, until one gives none.
  induction times generalizing taken cursor world with
  | zero => exact .paused rfl drawn
  | succ times ih =>
      have does := pull_does (Script.transcribing fetcher) cursor world
      simp only [Cursor.pulls]
      generalize cursor.pull (Script.transcribing fetcher) world = result at does
      obtain ⟨given, rest, after⟩ := result
      cases given with
      | item value =>
          have further := drawn.item does
          rw [← Array.toList_push] at further
          have drawn_on := ih further
          rw [Array.size_push, Nat.add_right_comm] at drawn_on
          exact drawn_on
      | ended =>
          obtain ⟨ahead, spent, all⟩ := drawn.finished does (by simp) (by simp)
          exact .finished (by simp) (by simp) ahead spent all
      | failed error =>
          cases error with
          | cancelled page =>
              obtain ⟨ahead, handed⟩ := drawn.called_off does
              exact .calledOff ahead handed
          | fetch page source =>
              obtain ⟨ahead, spent, all⟩ := drawn.finished does (by simp) (by simp)
              exact .finished (by simp) (by simp) ahead spent all

theorem start_draws (fetcher : Fetcher Provider Request (Page Item)) (options : Options)
    (heeds : Bool) (world : World Provider) (count : Nat) :
    let pulled := Cursor.pulls (Script.transcribing fetcher) count (.start options heeds)
      (Script.untold world) #[]
    Draws fetcher world.provider options count pulled.1.toList pulled.2.2.1 pulled.2.2.2.provider
      pulled.2.1 := by
  have drawn : Drawn fetcher world.provider options (#[] : Array Item).toList
      (.start options heeds) (Script.untold world).provider :=
    start_drawn fetcher world.provider options heeds
  have draws := drawn.pulls count
  rw [Array.size_empty, Nat.zero_add] at draws
  exact draws

variable {count : Nat} {taken : List Item} {cursor : Cursor Item} {stop : Stop}
variable {told : Script.Transcribed Provider Request (Page Item)}

theorem Draws.paused_iff (draws : Draws fetcher provider options count taken cursor told stop)
    (uncancelled : ∀ page, stop ≠ .failed (.cancelled page)) :
    stop = .paused ↔
      ∃ n, count ≤ (itemsTold (eagerly fetcher provider options n).exchanges).length := by
  cases draws with
  | calledOff => exact absurd rfl (uncancelled _)
  | paused enough drawn =>
      refine ⟨fun _ => ⟨told.exchanges.length, ?_⟩, fun _ => rfl⟩
      rw [← drawn.ahead, ← drawn.whole, List.length_append, enough]
      exact Nat.le_add_right _ _
  | finished going short ahead spent all =>
      refine ⟨fun paused => absurd paused going, ?_⟩
      rintro ⟨n, enough⟩
      rw [ahead] at spent
      have most := (eagerly_all fetcher provider options spent n).length_le
      rw [← ahead, ← all] at most
      omega

theorem Draws.handed (draws : Draws fetcher provider options count taken cursor told stop) :
    told = eagerly fetcher provider options told.exchanges.length ∧
      taken <+: itemsTold told.exchanges := by
  cases draws with
  | paused enough drawn => exact ⟨drawn.ahead, drawn.within⟩
  | finished _ _ ahead _ all => exact ⟨ahead, all ▸ List.prefix_rfl⟩
  | calledOff ahead handed => exact ⟨ahead, handed⟩

theorem Draws.drawn (draws : Draws fetcher provider options count taken cursor told stop)
    (paused : stop = .paused) :
    taken.length = count ∧ Drawn fetcher provider options taken cursor told := by
  cases draws with
  | paused enough drawn => exact ⟨enough, drawn⟩
  | finished going => exact absurd paused going
  | calledOff => cases paused

theorem Drawn.enough_iff (drawn : Drawn fetcher provider options taken cursor told) (n : Nat) :
    taken.length ≤ (itemsTold (eagerly fetcher provider options n).exchanges).length ↔
      told.exchanges.length ≤ n := by
  constructor
  · intro enough
    apply Nat.le_of_not_lt
    intro fewer
    exact Nat.not_lt.mpr enough (drawn.needed n fewer)
  · intro fetched
    have told_more := (eagerly_told_within fetcher provider options fetched).length_le
    rw [← drawn.ahead, ← drawn.whole, List.length_append] at told_more
    omega

theorem Drawn.first_items (drawn : Drawn fetcher provider options taken cursor told) :
    taken = (itemsTold told.exchanges).take taken.length := by
  rw [← drawn.whole, List.take_left]

theorem Drawn.last_known {before after : Script.Transcribed Provider Request (Page Item)}
    {rest : Cursor Item} {given : Pull Item}
    (drawn : Drawn fetcher provider options taken cursor before)
    (does : PullDoes (Script.transcribing fetcher) cursor before given rest after)
    {last : Script.Exchange Request (Page Item)} {page : Page Item}
    (ends : before.exchanges.getLast? = some last) (answered : last.answer = .ok page)
    (complete : page.hasMore last.request.options (itemsTold before.exchanges).length = false) :
    after = before := by
  rcases drawn.fetches does with same | ⟨_, going, _⟩
  · exact same
  · simp [leadsTo?, ends, answered, following?, complete] at going

end Run

section Loop

/-- The pull that goes on fetching pages until one of them has an item or there is none to fetch. -/
inductive Loops (fetcher : Fetcher Provider Request (Page Item)) :
    Cursor Item → World Provider → Pull Item × Cursor Item × World Provider → Prop where
  | item {cursor : Cursor Item} {world : World Provider} {value : Item} {rest : List Item}
      (left : cursor.buffered = value :: rest) :
      Loops fetcher cursor world (.item value, { cursor with buffered := rest }, world)
  | finished {cursor : Cursor Item} {world : World Provider} (handed : cursor.buffered = [])
      (spent : cursor.next = none) : Loops fetcher cursor world (.ended, cursor, world)
  | missing {cursor : Cursor Item} {world after : World Provider} {request : Request}
      (handed : cursor.buffered = []) (asked : cursor.next = some request)
      (advanced : cursor.advance fetcher request world = (.ended, after)) :
      Loops fetcher cursor world (.ended, cursor.closed, after)
  | failed {cursor : Cursor Item} {world after : World Provider} {request : Request}
      {error : Interruption} (handed : cursor.buffered = []) (asked : cursor.next = some request)
      (advanced : cursor.advance fetcher request world = (.failed error, after)) :
      Loops fetcher cursor world (.failed error, cursor.closed, after)
  | page {cursor rest : Cursor Item} {world after : World Provider} {request : Request}
      {items : List Item} {result : Pull Item × Cursor Item × World Provider}
      (handed : cursor.buffered = []) (asked : cursor.next = some request)
      (advanced : cursor.advance fetcher request world = (.page items rest, after))
      (onward : Loops fetcher { rest with buffered := items } after result) :
      Loops fetcher cursor world result

variable {fetcher : Fetcher Provider Request (Page Item)}

theorem advance_page {cursor rest : Cursor Item} {request : Request} {items : List Item}
    {world after : World Provider}
    (advanced : cursor.advance fetcher request world = (.page items rest, after)) :
    ∃ page : Page Item, page.items = items ∧ rest = cursor.behind request page := by
  simp only [Cursor.advance] at advanced
  split at advanced
  · cases advanced
  · split at advanced
    · cases advanced
    · split at advanced <;> cases advanced
    · rename_i page answered fetched
      cases advanced
      exact ⟨page, rfl, rfl⟩

theorem loops_iff_pull (cursor : Cursor Item) (world : World Provider)
    (result : Pull Item × Cursor Item × World Provider) :
    Loops fetcher cursor world result ↔ cursor.pull fetcher world = result := by
  constructor
  · intro loops
    induction loops with
    | item left => exact pull_buffered fetcher _ left
    | finished handed spent => exact pull_over fetcher _ handed spent
    | missing handed asked advanced => simp only [Cursor.pull, handed, asked, advanced]
    | failed handed asked advanced => simp only [Cursor.pull, handed, asked, advanced]
    | @page cursor rest world after request items result handed asked advanced onward ih =>
        obtain ⟨page, rfl, rfl⟩ := advance_page advanced
        rw [← ih]
        cases items : page.items with
        | nil =>
            -- The loop goes round once more behind an empty page, and finds nothing to ask for.
            have spent : (cursor.behind request page).next = none := by
              simp [Cursor.behind, Page.hasMore, items]
            refine Eq.trans ?_ (pull_over fetcher after rfl spent).symm
            simp only [Cursor.pull, handed, asked, advanced, items]
        | cons value left => simp only [Cursor.pull, handed, asked, advanced, items]
  · rintro rfl
    cases left : cursor.buffered with
    | cons value rest =>
        rw [pull_buffered fetcher world left]
        exact .item left
    | nil =>
        cases asked : cursor.next with
        | none =>
            rw [pull_over fetcher world left asked]
            exact .finished left asked
        | some request =>
            cases advanced : cursor.advance fetcher request world with
            | mk advance after =>
                simp only [Cursor.pull, left, asked, advanced]
                cases advance with
                | ended => exact .missing left asked advanced
                | failed error => exact .failed left asked advanced
                | page items rest =>
                    obtain ⟨page, rfl, rfl⟩ := advance_page advanced
                    apply Loops.page left asked advanced
                    cases items : page.items with
                    | cons value rest => exact .item rfl
                    | nil => exact .finished rfl (by simp [Cursor.behind, Page.hasMore, items])

end Loop

/-- A listing is as lazy as can be. It has fetched no more pages than hold the items pulled so far,
none before the first pull. The next pull fetches a page only if all items were handed over, one page
even where it finds no item on it, and none behind a page that is known to be the last. -/
theorem fetches_follow_demand (fetcher : Fetcher Provider Request (Page Item)) (options : Options)
    (heeds : Bool) (world : World Provider) (count : Nat) :
    let ahead := eagerly fetcher world.provider options
    let pulled := Cursor.pulls (Script.transcribing fetcher) count (.start options heeds)
      (Script.untold world) #[]
    let told := pulled.2.2.2.provider
    let again := pulled.2.2.1.pull (Script.transcribing fetcher) pulled.2.2.2
    ((∀ page, pulled.2.1 ≠ .failed (.cancelled page)) →
      (pulled.2.1 = .paused ↔ ∃ n, count ≤ (itemsTold (ahead n).exchanges).length)) ∧
    (pulled.2.1 = .paused →
      told = ahead told.exchanges.length ∧
      pulled.1.toList = (itemsTold told.exchanges).take count ∧
      (∀ n, count ≤ (itemsTold (ahead n).exchanges).length ↔ told.exchanges.length ≤ n) ∧
      (∀ result, Loops (Script.transcribing fetcher) pulled.2.2.1 pulled.2.2.2 result ↔
        again = result) ∧
      (again.2.2.provider = told ∨
        (itemsTold told.exchanges).length = count ∧
          again.2.2.provider.exchanges.length = told.exchanges.length + 1 ∧
          again.2.2.provider = ahead again.2.2.provider.exchanges.length) ∧
      (∀ last page, told.exchanges.getLast? = some last → last.answer = .ok page →
        page.hasMore last.request.options (itemsTold told.exchanges).length = false →
        again.2.2.provider = told)) := by
  intro ahead pulled told again
  have draws := start_draws fetcher options heeds world count
  constructor
  · exact draws.paused_iff
  · intro paused
    obtain ⟨enough, drawn⟩ := draws.drawn paused
    have does := pull_does (Script.transcribing fetcher) pulled.2.2.1 pulled.2.2.2
    refine ⟨drawn.ahead, ?_, ?_, ?_, ?_, ?_⟩
    · rw [← enough]
      exact drawn.first_items
    · intro n
      rw [← enough]
      exact drawn.enough_iff n
    · exact loops_iff_pull pulled.2.2.1 pulled.2.2.2
    · rcases drawn.fetches does with same | ⟨all, _, count_grown, ahead_still⟩
      · exact Or.inl same
      · exact Or.inr ⟨by rw [← enough, all], count_grown, ahead_still⟩
    · intro last page ends answered complete
      exact drawn.last_known does ends answered complete

def pairsThenOne : Fetcher Unit Request (Page Nat) := fun request _ =>
  let items := if request.pageNumber < 3 then [1, 2] else [3]
  ({ answer := .ok ⟨items, request.pageNumber, 2, none, none⟩ }, ())

/-- The third item is the first of the second page, and the third page is left alone. -/
theorem third_item_by_two_fetches :
    let pulled := Cursor.pulls (Script.transcribing pairsThenOne) 3 (.start .initial)
      (Script.untold { provider := () }) #[]
    pulled.2.1 = .paused ∧ pulled.1 = #[1, 2, 1] ∧ pulled.2.2.2.provider.exchanges.length = 2 ∧
      ∀ n, 3 ≤ (itemsTold (eagerly pairsThenOne () .initial n).exchanges).length ↔ 2 ≤ n := by
  intro pulled
  have paused : pulled.2.1 = .paused := by decide
  have fetched : pulled.2.2.2.provider.exchanges.length = 2 := by decide
  obtain ⟨_, _, enough, _⟩ :=
    (fetches_follow_demand pairsThenOne .initial true { provider := () } 3).2 paused
  refine ⟨paused, by decide, fetched, ?_⟩
  intro n
  rw [← fetched]
  exact enough n

end ResourceWatch.Listing
