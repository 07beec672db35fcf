import ResourceWatch.Proofs.Listing.Demand
import ResourceWatch.Proofs.Listing.Marked

/-!
The page numbers of a listing without markers. They count up by one from the number that it starts
with, and stay at the largest once they have come to it. So no page is asked for twice up to there,
and a listing that goes on behind it asks for the same page again and hands over what it gets.

What a total is good for. Behind a page without a marker another is fetched only if the total is
more than the number of the page, or more than the items seen, whichever rule the page is judged by.
Both are at least as many as the pages fetched. So totals bound the fetches of a listing, whatever
else the pages say, and a listing of which the fetches are bounded ends.
-/

namespace ResourceWatch.Listing

variable {Item Provider : Type}

theorem Options.pages_on_eq (options : Options) (pages : Nat) :
    options.pagesOn pages =
      { options with pageNumber := ResourceWatch.countOf (options.pageNumber.toNat + pages) } := by
  induction pages with
  | zero => simp only [pagesOn, Nat.add_zero, count_of_self]
  | succ pages ih =>
      rw [← options.pages_on_next, ih]
      simp only [nextPage, next_count_of]
      rfl

def Unmarked (fetcher : Fetcher Provider Request (Page Item)) (provider : Provider) : Prop :=
  ∀ state, Script.Reached fetcher provider state → ∀ request page,
    (fetcher request state).1.answer = .ok page → page.nextMarker = none

section Requests

variable {fetcher : Fetcher Provider Request (Page Item)} {provider : Provider}
variable (unmarked : Unmarked fetcher provider) (options : Options)
include unmarked

theorem eagerly_requests (fetches : Nat) :
    let told := (eagerly fetcher provider options fetches).exchanges
    told.map (·.request) = (List.range told.length).map (fun i => ⟨options.pagesOn i, none⟩) ∧
      ∀ request, leadsTo? options told = some request →
        request = ⟨options.pagesOn told.length, none⟩ := by
  induction fetches with
  | zero => exact ⟨rfl, fun request led => (Option.some.inj led).symm⟩
  | succ fetches ih =>
      obtain ⟨before, leads⟩ := ih
      simp only [eagerly]
      cases led : leadsTo? options (eagerly fetcher provider options fetches).exchanges with
      | none => exact ⟨before, leads⟩
      | some request =>
          obtain rfl := leads request led
          have reached := (eagerly_answered fetcher provider options fetches).1
          simp only [Script.transcribing, List.map_append, List.map_singleton, before,
            leads_to_behind, List.length_append, List.length_singleton, List.range_succ]
          refine ⟨trivial, ?_⟩
          intro later follows
          obtain ⟨page, answered, _, rfl⟩ := following_page follows
          rw [unmarked _ reached _ page answered, Options.pages_on_next]

theorem eagerly_last (fetches : Nat) {last : Script.Exchange Request (Page Item)} :
    let told := (eagerly fetcher provider options fetches).exchanges
    told.getLast? = some last → last.request = ⟨options.pagesOn (told.length - 1), none⟩ := by
  intro told ends
  have requests := congrArg List.getLast? (eagerly_requests unmarked options fetches).1
  rw [List.getLast?_map, List.getLast?_map, List.getLast?_range,
    show (eagerly fetcher provider options fetches).exchanges.getLast? = some last from ends]
    at requests
  split at requests
  · cases requests
  · exact Option.some.inj requests

end Requests

theorem page_numbers_nodup_iff (options : Options) (count : Nat) :
    ((List.range count).map fun i => (options.pagesOn i).pageNumber).Nodup ↔
      options.pageNumber.toNat + count ≤ 4294967296 := by
  have bound := options.pageNumber.toNat_lt
  rw [List.Nodup, List.pairwise_map, List.pairwise_iff_getElem]
  simp only [List.length_range, List.getElem_range, ne_eq, ← UInt32.toNat_inj,
    options.pages_on_number]
  constructor
  · intro apart
    apply Nat.le_of_not_lt
    intro beyond
    -- The last two of so many pages have the largest number both.
    exact apart (count - 2) (count - 1) (by omega) (by omega) (by omega) (by omega)
  · intro inside early late _ last order
    omega

/-- The requests of a listing without markers, whatever it is told: the page numbers count up, to
the largest at most. They do not repeat exactly as long as they have not gone on behind the largest.
The items handed over are those of the answers, one answer after the other. -/
theorem requests_count_up_to_largest (fetcher : Fetcher Provider Request (Page Item))
    (options : Options) (heeds : Bool) (world : World Provider) (count : Nat)
    (unmarked : Unmarked fetcher world.provider) :
    let pulled := Cursor.pulls (Script.transcribing fetcher) count (.start options heeds)
      (Script.untold world) #[]
    let told := pulled.2.2.2.provider.exchanges
    told.map (·.request) = ((List.range told.length).map fun i =>
      ⟨{ options with pageNumber := ResourceWatch.countOf (options.pageNumber.toNat + i) }, none⟩) ∧
    ((told.map (·.request.pageNumber)).Nodup ↔
      options.pageNumber.toNat + told.length ≤ 4294967296) ∧
    pulled.1.toList <+: itemsTold told := by
  intro pulled told
  obtain ⟨ahead, handed⟩ := (start_draws fetcher options heeds world count).handed
  have requests : told.map (·.request) =
      (List.range told.length).map (fun i => ⟨options.pagesOn i, none⟩) := by
    have asked := (eagerly_requests unmarked options told.length).1
    rw [← ahead] at asked
    exact asked
  have numbers : told.map (·.request.pageNumber) =
      (List.range told.length).map fun i => (options.pagesOn i).pageNumber := by
    have numbered := congrArg (List.map Request.pageNumber) requests
    rw [List.map_map, List.map_map] at numbered
    exact numbered
  refine ⟨?_, ?_, handed⟩
  · simp only [← options.pages_on_eq]
    exact requests
  · rw [numbers]
    exact page_numbers_nodup_iff options told.length

theorem pairs_unmarked : Unmarked pairsThenOne () := by
  rintro state _ request page answered
  cases answered
  rfl

theorem pairs_asked_for_once :
    let pulled := Cursor.pulls (Script.transcribing pairsThenOne) 6 (.start .initial)
      (Script.untold { provider := () }) #[]
    Unmarked pairsThenOne () ∧
      (pulled.2.2.2.provider.exchanges.map (·.request.pageNumber)).Nodup := by
  intro pulled
  obtain ⟨_, once, _⟩ :=
    requests_count_up_to_largest pairsThenOne .initial true { provider := () } 6 pairs_unmarked
  exact ⟨pairs_unmarked, once.mpr (by decide)⟩

def oneByOne : Fetcher Unit Request (Page Nat) := fun request _ =>
  ({ answer := .ok ⟨[7], request.pageNumber, 1, none, none⟩ }, ())

/-- A listing that starts at the largest page goes on at the largest page. -/
theorem largest_page_asked_twice :
    (Draft.applyAll {} [.pageNumber 4294967295]).build = .ok ⟨4294967295, none, none⟩ ∧
      Unmarked oneByOne () ∧
      let pulled := Cursor.pulls (Script.transcribing oneByOne) 2
        (.start ⟨4294967295, none, none⟩) (Script.untold { provider := () }) #[]
      pulled.1 = #[7, 7] ∧
        pulled.2.2.2.provider.exchanges.map (·.request.pageNumber) = [4294967295, 4294967295] ∧
        ¬ (pulled.2.2.2.provider.exchanges.map (·.request.pageNumber)).Nodup := by
  refine ⟨rfl, ?_, by decide, by decide, by decide⟩
  rintro state _ request page answered
  cases answered
  rfl

theorem Page.effective_size_pos {page : Page Item} {options : Options} {size : Nat}
    (sized : page.effectiveSize options = some size) : 0 < size := by
  simp only [effectiveSize] at sized
  split at sized
  · rename_i reported
    cases sized
    exact UInt32.lt_iff_toNat_lt.mp reported
  · obtain ⟨asked, explicit, rfl⟩ := Option.map_eq_some_iff.mp sized
    have positive := (Option.filter_eq_some_iff.mp explicit).2
    exact UInt32.lt_iff_toNat_lt.mp (of_decide_eq_true positive)

theorem Page.more_below_total {page : Page Item} {options : Options} {seen least : Nat}
    {total : UInt64} (unmarked : page.nextMarker = none) (totalled : page.totalCount = some total)
    (numbered : least ≤ options.pageNumber.toNat) (counted : least ≤ seen)
    (more : page.hasMore options seen = true) : least < total.toNat := by
  have filled := page.has_more_nonempty options seen more
  cases sized : page.effectiveSize options with
  | none =>
      have open_total : seen < total.toNat := by
        simpa [hasMore, filled, unmarked, sized, totalled] using more
      exact Nat.lt_of_le_of_lt counted open_total
  | some size =>
      have positive := effective_size_pos sized
      have open_total : options.pageNumber.toNat * size < total.toNat := by
        simp [hasMore, filled, unmarked, sized, totalled] at more
        exact more.2
      have covered := Nat.le_mul_of_pos_right options.pageNumber.toNat positive
      omega

def TotalsUpTo (most : Nat) (fetcher : Fetcher Provider Request (Page Item))
    (provider : Provider) : Prop :=
  ∀ state, Script.Reached fetcher provider state → ∀ request page,
    (fetcher request state).1.answer = .ok page →
      ∃ total, page.totalCount = some total ∧ total.toNat ≤ most

section Bound

variable {fetcher : Fetcher Provider Request (Page Item)} {provider : Provider}
variable {options : Options} {most : Nat}
variable (numbered : 1 ≤ options.pageNumber.toNat) (fits : most ≤ 4294967295)
variable (unmarked : Unmarked fetcher provider) (totalled : TotalsUpTo most fetcher provider)
include numbered fits unmarked totalled

theorem eagerly_below_total (fetches : Nat) {request : Request} :
    let told := (eagerly fetcher provider options fetches).exchanges
    leadsTo? options told = some request → told = [] ∨ told.length < most := by
  intro told led
  have filled : told.length ≤ (itemsTold told).length :=
    eagerly_fills fetcher provider options fetches (by rw [led]; rfl)
  cases ends : told.getLast? with
  | none => exact Or.inl (List.getLast?_eq_none_iff.mp ends)
  | some last =>
      obtain ⟨state, reached, answered⟩ :=
        (eagerly_answered fetcher provider options fetches).2 last (List.mem_of_getLast? ends)
      simp only [leadsTo?, ends] at led
      obtain ⟨page, heard, more, _⟩ := following_page led
      rw [heard] at answered
      obtain ⟨total, given, bounded⟩ := totalled state reached _ page answered
      have asked : last.request = ⟨options.pagesOn (told.length - 1), none⟩ :=
        eagerly_last unmarked options fetches ends
      -- Page numbers count up with the fetches, so the last one is at least their count.
      have least : min told.length 4294967295 ≤ last.request.options.pageNumber.toNat := by
        rw [asked, Options.pages_on_number]
        omega
      have below := Page.more_below_total (unmarked state reached _ page answered) given least
        (Nat.le_trans (Nat.min_le_left _ _) filled) more
      right
      omega

theorem eagerly_bounded (fetches : Nat) :
    (eagerly fetcher provider options fetches).exchanges.length ≤ max 1 most := by
  induction fetches with
  | zero => exact Nat.zero_le _
  | succ fetches ih =>
      simp only [eagerly]
      cases led : leadsTo? options (eagerly fetcher provider options fetches).exchanges with
      | none => exact ih
      | some request =>
          have below := eagerly_below_total numbered fits unmarked totalled fetches led
          simp only [Script.transcribing, List.length_append, List.length_singleton]
          rcases below with none_told | below
          · simp only [none_told, List.length_nil]
            omega
          · omega

end Bound

/-- Totals bound a listing, be the pages otherwise what they may: it makes no more fetches than the
largest total, or one, and then it ends. -/
theorem total_bounds_fetches (fetcher : Fetcher Provider Request (Page Item)) (options : Options)
    (heeds : Bool) (world : World Provider) (most : Nat)
    (numbered : 1 ≤ options.pageNumber.toNat) (fits : most ≤ 4294967295)
    (unmarked : Unmarked fetcher world.provider)
    (totalled : TotalsUpTo most fetcher world.provider) :
    let pulled := fun count => Cursor.pulls (Script.transcribing fetcher) count
      (.start options heeds) (Script.untold world) #[]
    (∀ count, (pulled count).2.2.2.provider.exchanges.length ≤ max 1 most) ∧
      ∃ items stop after, Drains (Script.transcribing fetcher) (.start options heeds)
        (Script.untold world) items stop after ∧ after.provider.exchanges.length ≤ max 1 most := by
  intro pulled
  have bounded (fetches : Nat) := eagerly_bounded numbered fits unmarked totalled fetches
  have fetched (count : Nat) : (pulled count).2.2.2.provider.exchanges.length ≤ max 1 most := by
    rw [(start_draws fetcher options heeds world count).handed.1]
    exact bounded _
  refine ⟨fetched, ?_⟩
  -- The items of so many fetches are all there are, so one more pull than that is not paused.
  let all := itemsTold (eagerly fetcher world.provider options (max 1 most)).exchanges
  have stopped : (pulled (all.length + 1)).2.1 ≠ .paused := by
    intro paused
    have draws := start_draws fetcher options heeds world (all.length + 1)
    obtain ⟨enough, drawn⟩ := draws.drawn paused
    have held := (drawn.enough_iff (max 1 most)).mpr (fetched (all.length + 1))
    rw [enough] at held
    exact Nat.not_succ_le_self _ held
  obtain ⟨items, stop, after, drains⟩ := drains_of_stop _ _ _ _ stopped
  refine ⟨items, stop, after, drains, ?_⟩
  obtain ⟨last, _, _, drained⟩ := drains
  have count := fetched (items.length + 1)
  simp only [pulled, drained _ #[] (Nat.lt_succ_self _)] at count
  exact count

def misnumbered : Fetcher Unit Request (Page Nat) := fun request _ =>
  let size := if request.pageNumber = 2 then 1 else 0
  ({ answer := .ok ⟨[7], 9 - request.pageNumber, size, some 3, none⟩ }, ())

theorem misnumbered_unmarked : Unmarked misnumbered () := by
  rintro state _ request page answered
  cases answered
  rfl

theorem misnumbered_totals : TotalsUpTo 3 misnumbered () := by
  rintro state _ request page answered
  cases answered
  exact ⟨3, rfl, Nat.le_refl 3⟩

/-- It takes all of the three fetches that its totals allow. -/
theorem misnumbered_ends :
    let pulled := fun count => Cursor.pulls (Script.transcribing misnumbered) count
      (.start .initial) (Script.untold { provider := () }) #[]
    Unmarked misnumbered () ∧ TotalsUpTo 3 misnumbered () ∧
      (pulled 9).2.1 = .ended ∧ (pulled 9).2.2.2.provider.exchanges.length = 3 ∧
      ∀ count, (pulled count).2.2.2.provider.exchanges.length ≤ 3 := by
  intro pulled
  obtain ⟨bounded, _⟩ := total_bounds_fetches misnumbered .initial true { provider := () } 3
    (by decide) (by decide) misnumbered_unmarked misnumbered_totals
  exact ⟨misnumbered_unmarked, misnumbered_totals, by decide, by decide, bounded⟩

end ResourceWatch.Listing
