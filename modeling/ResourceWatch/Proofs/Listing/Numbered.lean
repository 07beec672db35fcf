import ResourceWatch.Proofs.Listing.Drain
import ResourceWatch.Script.Provider

/-!
Listing by page numbers. A provider that serves a list in slices of one size may keep the size or
the total to itself, and misreport the number of a page, as long as each page leaves one of the two
known. What a page then says about another behind it is right or errs towards one fetch too many, so
every slice is passed in turn and no item is lost or seen twice.
-/

namespace ResourceWatch.Listing

variable {Item Provider : Type}

/-- A page is the slice of a list that was asked for. The size to go by is the one on the page or
else the one in the options. -/
structure HonestPage (items : List Item) (size : UInt32) (options : Options) (page : Page Item) :
    Prop where
  slice : page.items =
    (items.drop ((options.pageNumber.toNat - 1) * size.toNat)).take size.toNat
  sized : page.pageSize = size ∨ page.pageSize = 0
  counted : ∀ total, page.totalCount = some total → total.toNat = items.length
  unmarked : page.nextMarker = none
  known : page.pageSize = size ∨ options.explicitSize.isSome ∨ page.totalCount.isSome

def Honest (items : List Item) (size : UInt32) (options : Options)
    (fetcher : Fetcher Provider Request (Page Item)) (provider : Provider) : Prop :=
  ∀ state, Script.Reached fetcher provider state → ∀ number : UInt32, 0 < number →
    ∃ page, (fetcher ⟨{ options with pageNumber := number }, none⟩ state).1.answer = .ok page ∧
      HonestPage items size { options with pageNumber := number } page

def Totals (given : Bool) (options : Options) (fetcher : Fetcher Provider Request (Page Item))
    (provider : Provider) : Prop :=
  ∀ state, Script.Reached fetcher provider state → ∀ (number : UInt32) (page : Page Item),
    (fetcher ⟨{ options with pageNumber := number }, none⟩ state).1.answer = .ok page →
      page.totalCount.isSome = given

theorem slice_end {number : UInt32} (numbered : 0 < number) (size : Nat) :
    (number.toNat - 1) * size + size = number.toNat * size := by
  have first : 1 ≤ number.toNat := numbered
  rw [← Nat.add_one_mul, Nat.sub_add_cancel first]

section Page

variable {items : List Item} {size : UInt32} {options : Options} {page : Page Item} {seen : Nat}
variable (honest : HonestPage items size options page)
include honest

theorem HonestPage.item_count : page.items.length =
    min size.toNat (items.length - (options.pageNumber.toNat - 1) * size.toNat) := by
  rw [honest.slice, List.length_take, List.length_drop]

theorem HonestPage.effective_size (positive : 0 < size)
    (asked : ∀ explicit, options.explicitSize = some explicit → explicit = size) :
    page.effectiveSize options = some size.toNat ∨
      page.effectiveSize options = none ∧ page.totalCount.isSome := by
  rcases honest.sized with told | untold
  · left
    simp [Page.effectiveSize, told, positive]
  -- A page without its size is measured by the size asked for, and that is the right one.
  · cases explicit : options.explicitSize with
    | some wanted =>
        left
        simp [Page.effectiveSize, untold, explicit, asked wanted explicit]
    | none =>
        right
        constructor
        · simp [Page.effectiveSize, untold, explicit]
        · rcases honest.known with told | wanted | counted
          · rw [untold] at told
            rw [← told] at positive
            exact absurd positive (by decide)
          · rw [explicit] at wanted
            cases wanted
          · exact counted

variable (positive : 0 < size) (numbered : 0 < options.pageNumber)
  (asked : ∀ explicit, options.explicitSize = some explicit → explicit = size)
include positive numbered asked

theorem HonestPage.has_more :
    page.hasMore options seen = true ↔
      (options.pageNumber.toNat - 1) * size.toNat < items.length ∧
        (page.effectiveSize options = some size.toNat ∧
            options.pageNumber.toNat * size.toNat ≤ items.length ∧
            (page.totalCount.isSome → options.pageNumber.toNat * size.toNat < items.length) ∨
          page.effectiveSize options = none ∧ page.totalCount.isSome ∧ seen < items.length) := by
  have count := honest.item_count
  have some_size : 0 < size.toNat := positive
  have behind := slice_end numbered size.toNat
  have empty : page.items.isEmpty = true ↔
      items.length ≤ (options.pageNumber.toNat - 1) * size.toNat := by
    rw [List.isEmpty_iff_length_eq_zero]
    omega
  by_cases none_left : items.length ≤ (options.pageNumber.toNat - 1) * size.toNat
  · simp only [Page.hasMore, empty.mpr none_left, ↓reduceIte]
    constructor
    · intro more
      cases more
    · rintro ⟨inside, _⟩
      omega
  · have filled : page.items.isEmpty = false := by
      rw [Bool.eq_false_iff, ne_eq, empty]
      exact none_left
    -- With a size the position on the page decides, without one the items seen against the total.
    rcases honest.effective_size positive asked with sized | ⟨unsized, totalled⟩
    · cases total : page.totalCount with
      | none =>
          simp [Page.hasMore, filled, honest.unmarked, sized, total]
          omega
      | some count =>
          have same := honest.counted count total
          simp [Page.hasMore, filled, honest.unmarked, sized, total]
          omega
    · obtain ⟨count, total⟩ := Option.isSome_iff_exists.mp totalled
      have same := honest.counted count total
      simp [Page.hasMore, filled, honest.unmarked, unsized, total]
      omega

theorem HonestPage.more_by_total (totalled : page.totalCount.isSome = true)
    (exact : seen = min (options.pageNumber.toNat * size.toNat) items.length) :
    page.hasMore options seen = true ↔ options.pageNumber.toNat * size.toNat < items.length := by
  have before : (options.pageNumber.toNat - 1) * size.toNat ≤
      options.pageNumber.toNat * size.toNat := Nat.mul_le_mul_right _ (Nat.sub_le _ _)
  rw [honest.has_more positive numbered asked]
  constructor
  · rintro ⟨_, ⟨_, _, inside⟩ | ⟨_, _, unseen⟩⟩
    · exact inside totalled
    · omega
  · intro inside
    refine ⟨Nat.lt_of_le_of_lt before inside, ?_⟩
    rcases honest.effective_size positive asked with sized | ⟨unsized, _⟩
    · exact Or.inl ⟨sized, Nat.le_of_lt inside, fun _ => inside⟩
    · exact Or.inr ⟨unsized, totalled, by omega⟩

theorem HonestPage.more_by_fullness (untotalled : page.totalCount.isSome = false) :
    page.hasMore options seen = true ↔ options.pageNumber.toNat * size.toNat ≤ items.length := by
  rw [honest.has_more positive numbered asked]
  constructor
  · rintro ⟨_, ⟨_, full, _⟩ | ⟨_, totalled, _⟩⟩
    · exact full
    · rw [untotalled] at totalled
      cases totalled
  · intro full
    have before : (options.pageNumber.toNat - 1) * size.toNat <
        options.pageNumber.toNat * size.toNat :=
      Nat.mul_lt_mul_of_pos_right (Nat.sub_lt numbered Nat.one_pos) positive
    refine ⟨Nat.lt_of_lt_of_le before full, Or.inl ⟨?_, full, ?_⟩⟩
    · rcases honest.effective_size positive asked with sized | ⟨_, totalled⟩
      · exact sized
      · rw [untotalled] at totalled
        cases totalled
    · intro totalled
      rw [untotalled] at totalled
      cases totalled

theorem HonestPage.covers_at_end (last : page.hasMore options seen = false)
    (bounded : seen ≤ options.pageNumber.toNat * size.toNat) :
    items.length ≤ options.pageNumber.toNat * size.toNat := by
  apply Nat.le_of_not_lt
  intro inside
  have before : (options.pageNumber.toNat - 1) * size.toNat ≤
      options.pageNumber.toNat * size.toNat := Nat.mul_le_mul_right _ (Nat.sub_le _ _)
  have more : page.hasMore options seen = true := by
    rw [honest.has_more positive numbered asked]
    refine ⟨Nat.lt_of_le_of_lt before inside, ?_⟩
    rcases honest.effective_size positive asked with sized | ⟨unsized, totalled⟩
    · exact Or.inl ⟨sized, Nat.le_of_lt inside, fun _ => inside⟩
    · exact Or.inr ⟨unsized, totalled, Nat.lt_of_le_of_lt bounded inside⟩
  rw [last] at more
  cases more

end Page

structure FirstFrom (more : Nat → Prop) (first last : Nat) : Prop where
  inside : first ≤ last
  before : ∀ i, first ≤ i → i < last → more i
  fails : ¬ more last

theorem FirstFrom.here {more : Nat → Prop} {first : Nat} (fails : ¬ more first) :
    FirstFrom more first first :=
  ⟨Nat.le_refl first, fun _ from_first below => absurd below (Nat.not_lt.mpr from_first), fails⟩

theorem FirstFrom.later {more : Nat → Prop} {first last : Nat} (here : more first)
    (rest : FirstFrom more (first + 1) last) : FirstFrom more first last := by
  refine ⟨Nat.le_of_succ_le rest.inside, ?_, rest.fails⟩
  intro i from_first below
  rcases Nat.eq_or_lt_of_le from_first with same | later
  · subst same
    exact here
  · exact rest.before i later below

theorem FirstFrom.enough {count size last : Nat} (positive : 0 < size)
    (found : FirstFrom (fun pages => pages * size < count) 1 last) :
    last = max 1 ((count + size - 1) / size) := by
  obtain ⟨inside, before, fails⟩ := found
  obtain ⟨others, rfl⟩ := Nat.exists_eq_add_of_le' inside
  have holds : count ≤ (others + 1) * size := Nat.le_of_not_lt fails
  rcases Nat.eq_zero_or_pos others with only | several
  · subst only
    have one : (count + size - 1) / size < 2 := by
      apply Nat.div_lt_of_lt_mul
      omega
    omega
  · have short : others * size < count := before others several (Nat.lt_succ_self others)
    have next := Nat.add_one_mul (others + 1) size
    have here := Nat.add_one_mul others size
    have ceiling : (count + size - 1) / size = others + 1 := by
      apply Nat.div_eq_of_lt_le <;> omega
    omega

theorem FirstFrom.unfilled {count size last : Nat}
    (found : FirstFrom (fun pages => pages * size ≤ count) 1 last) : last = count / size + 1 := by
  obtain ⟨inside, before, fails⟩ := found
  obtain ⟨others, rfl⟩ := Nat.exists_eq_add_of_le' inside
  have filled : others * size ≤ count := by
    rcases Nat.eq_zero_or_pos others with none | several
    · rw [none, Nat.zero_mul]
      exact Nat.zero_le count
    · exact before others several (Nat.lt_succ_self others)
  rw [Nat.div_eq_of_lt_le filled (Nat.lt_of_not_le fails)]

section Walk

variable (size : UInt32) (options : Options)
variable (fetcher : Fetcher Provider Request (Page Item)) (provider : Provider)

/-- A traversal is about to ask for a page of a listing, and has seen no more than the slices of the
pages before. -/
structure AtPage (number : UInt32) (cursor : Cursor Item)
    (world : World (Script.Recorded Provider Request)) : Prop where
  numbered : 0 < number
  asks : Asks cursor ⟨{ options with pageNumber := number }, none⟩
  seen : cursor.seen ≤ (number.toNat - 1) * size.toNat
  reached : Script.Reached fetcher provider world.provider.provider

variable {size options fetcher provider} {number : UInt32} {cursor : Cursor Item}
variable {world : World (Script.Recorded Provider Request)} {items : List Item} {page : Page Item}

theorem AtPage.seen_inside (here : AtPage size options fetcher provider number cursor world)
    (honest : HonestPage items size { options with pageNumber := number } page) :
    min (cursor.seen + page.items.length) largestWord ≤ number.toNat * size.toNat := by
  have seen := here.seen
  have count := honest.item_count
  have behind := slice_end here.numbered size.toNat
  omega

section Fetch

variable (here : AtPage size options fetcher provider number cursor world)
  (answered : (fetcher ⟨{ options with pageNumber := number }, none⟩
    world.provider.provider).1.answer = .ok page)
  (honest : HonestPage items size { options with pageNumber := number } page)
  (positive : 0 < size)
  (asked : ∀ explicit, options.explicitSize = some explicit → explicit = size)
include here answered honest positive asked

theorem AtPage.drains
    (complete : page.hasMore { options with pageNumber := number }
      (min (cursor.seen + page.items.length) largestWord) = false) :
    ∃ after : World (Script.Recorded Provider Request),
      after.provider.requests.length = world.provider.requests.length + 1 ∧
      Drains (Script.recording fetcher) cursor world
        (items.drop ((number.toNat - 1) * size.toNat)) .ended after := by
  have recorded : (Script.recording fetcher ⟨{ options with pageNumber := number }, none⟩
    world.provider).1.answer = .ok page := answered
  obtain ⟨after, moved, drained⟩ := here.asks.drains recorded complete
  have covered := honest.covers_at_end positive here.numbered asked complete
    (here.seen_inside honest)
  have behind := slice_end here.numbered size.toNat
  -- The end of the slice is not before the end of the list, so the slice is not cut off.
  have all : page.items = items.drop ((number.toNat - 1) * size.toNat) := by
    rw [honest.slice]
    apply List.take_of_length_le
    rw [List.length_drop]
    simp only at covered ⊢
    omega
  refine ⟨after, ?_, ?_⟩
  · rw [moved]
    simp [Script.recording]
  · rw [← all]
    exact drained

theorem AtPage.passes (room : items.length / size.toNat + 1 ≤ 4294967294)
    (more : page.hasMore { options with pageNumber := number }
      (min (cursor.seen + page.items.length) largestWord) = true) :
    ∃ (rest : Cursor Item) (after : World (Script.Recorded Provider Request)),
      after.provider.requests.length = world.provider.requests.length + 1 ∧
      Passes (Script.recording fetcher) cursor world page.items rest after ∧
      AtPage size options fetcher provider (nextCount number) rest after ∧
      (nextCount number).toNat = number.toNat + 1 ∧
      rest.seen = min (cursor.seen + page.items.length) largestWord := by
  have recorded : (Script.recording fetcher ⟨{ options with pageNumber := number }, none⟩
    world.provider).1.answer = .ok page := answered
  obtain ⟨after, moved, passed⟩ := here.asks.passes recorded (Page.has_more_nonempty _ _ _ more)
  have inside := ((honest.has_more positive here.numbered asked).mp more).1
  -- A page with items has a number that can still be counted on from.
  have below : number.toNat - 1 ≤ items.length / size.toNat :=
    (Nat.le_div_iff_mul_le positive).mpr (Nat.le_of_lt inside)
  have counted : (nextCount number).toNat = number.toNat + 1 := by
    rw [next_count_value]
    omega
  have onward := here.asks.behind more
  rw [honest.unmarked] at onward
  refine ⟨_, after, ?_, passed, ⟨?_, onward, ?_, ?_⟩, counted, rfl⟩
  · rw [moved]
    simp [Script.recording]
  · show 0 < (nextCount number).toNat
    omega
  · rw [counted]
    exact here.seen_inside honest
  · rw [moved]
    exact here.reached.call _

end Fetch

section Count

variable (positive : 0 < size) (room : items.length / size.toNat + 1 ≤ 4294967294)
include positive room

theorem room_for_seen : items.length ≤ largestWord := by
  have short : items.length < size.toNat * (items.length / size.toNat + 1) :=
    Nat.lt_mul_div_succ items.length positive
  -- Page numbers and sizes of 32 bits leave no more items than the count of those seen can hold.
  have product : size.toNat * (items.length / size.toNat + 1) ≤ 4294967295 * 4294967294 :=
    Nat.mul_le_mul (Nat.le_of_lt_succ size.toNat_lt) room
  unfold largestWord
  omega

theorem AtPage.seen_exact (here : AtPage size options fetcher provider number cursor world)
    (honest : HonestPage items size { options with pageNumber := number } page)
    (begun : (number.toNat - 1) * size.toNat ≤ items.length)
    (exact : cursor.seen = (number.toNat - 1) * size.toNat) :
    min (cursor.seen + page.items.length) largestWord =
      min (number.toNat * size.toNat) items.length := by
  have fits := room_for_seen positive room
  have count := honest.item_count
  have behind := slice_end here.numbered size.toNat
  dsimp only at count
  omega

end Count

/-- A traversal of an honest provider drains to what is left of the list. The page it ends with is
known when all pages give the total, and when none does. -/
theorem AtPage.walks (positive : 0 < size)
    (asked : ∀ explicit, options.explicitSize = some explicit → explicit = size)
    (room : items.length / size.toNat + 1 ≤ 4294967294)
    (honest : Honest items size options fetcher provider) (remaining : Nat)
    (here : AtPage size options fetcher provider number cursor world)
    (enough : items.length ≤ (number.toNat - 1) * size.toNat + remaining) :
    ∃ (after : World (Script.Recorded Provider Request)) (last : Nat),
      Drains (Script.recording fetcher) cursor world
        (items.drop ((number.toNat - 1) * size.toNat)) .ended after ∧
      after.provider.requests.length + number.toNat = world.provider.requests.length + last + 1 ∧
      (Totals true options fetcher provider → (number.toNat - 1) * size.toNat ≤ items.length →
        cursor.seen = (number.toNat - 1) * size.toNat →
          FirstFrom (fun pages => pages * size.toNat < items.length) number.toNat last) ∧
      (Totals false options fetcher provider →
        FirstFrom (fun pages => pages * size.toNat ≤ items.length) number.toNat last) := by
  -- The items behind the page asked for get fewer with each page that has another behind it.
  induction remaining using Nat.strongRecOn generalizing number cursor world with
  | ind remaining ih =>
      obtain ⟨page, answered, slice⟩ := honest _ here.reached number here.numbered
      have by_total (totals : Totals true options fetcher provider)
          (begun : (number.toNat - 1) * size.toNat ≤ items.length)
          (exact : cursor.seen = (number.toNat - 1) * size.toNat) :=
        slice.more_by_total positive here.numbered asked (totals _ here.reached _ page answered)
          (here.seen_exact positive room slice begun exact)
      have by_fullness (untotalled : Totals false options fetcher provider) :
          page.hasMore { options with pageNumber := number }
            (min (cursor.seen + page.items.length) largestWord) = true ↔
              number.toNat * size.toNat ≤ items.length :=
        slice.more_by_fullness positive here.numbered asked
          (untotalled _ here.reached _ page answered)
      cases more : page.hasMore { options with pageNumber := number }
          (min (cursor.seen + page.items.length) largestWord) with
      | false =>
          obtain ⟨after, asks, drained⟩ := here.drains answered slice positive asked more
          refine ⟨after, number.toNat, drained, by omega, ?_, ?_⟩
          · intro totals begun exact
            apply FirstFrom.here
            rw [← by_total totals begun exact, more]
            exact Bool.false_ne_true
          · intro untotalled
            apply FirstFrom.here
            rw [← by_fullness untotalled, more]
            exact Bool.false_ne_true
      | true =>
          obtain ⟨rest, between, asks, passed, there, counted, seen⟩ :=
            here.passes answered slice positive asked room more
          have inside := ((slice.has_more positive here.numbered asked).mp more).1
          have behind := slice_end here.numbered size.toNat
          dsimp only at inside
          obtain ⟨after, last, drained, fetched, totalled, untotalled⟩ :=
            ih (remaining - 1) (by omega) there (by
              rw [counted, Nat.add_sub_cancel]
              have some_size : 0 < size.toNat := positive
              omega)
          rw [counted] at fetched totalled untotalled drained
          rw [Nat.add_sub_cancel] at totalled drained
          have pieces : page.items ++ items.drop (number.toNat * size.toNat) =
              items.drop ((number.toNat - 1) * size.toNat) := by
            rw [slice.slice, ← behind, ← List.drop_drop]
            exact List.take_append_drop _ _
          refine ⟨after, last, ?_, by omega, ?_, ?_⟩
          · rw [← pieces]
            exact passed.drains drained
          · intro totals begun exact
            have full := (by_total totals begun exact).mp more
            refine FirstFrom.later full (totalled totals (Nat.le_of_lt full) ?_)
            rw [seen, here.seen_exact positive room slice begun exact]
            exact Nat.min_eq_left (Nat.le_of_lt full)
          · intro none_totalled
            exact FirstFrom.later ((by_fullness none_totalled).mp more) (untotalled none_totalled)

end Walk

section Collection

variable (timed : Script.Timed (Script.Collection Item))

theorem collection_reached (state : Script.Timed (Script.Collection Item))
    (reached : Script.Reached (Script.Timed.fetcher Script.Collection.serve) timed state) :
    { state.provider with requests := timed.provider.requests } = timed.provider := by
  induction reached with
  | start => rfl
  | call request _ ih => exact ih

variable (present : timed.provider.missing = false) (sound : timed.provider.failures = [])
include present sound

theorem collection_answers (state : Script.Timed (Script.Collection Item))
    (reached : Script.Reached (Script.Timed.fetcher Script.Collection.serve) timed state)
    (request : Request) :
    (Script.Timed.fetcher Script.Collection.serve request state).1.answer =
      .ok (timed.provider.page request.options) := by
  have same := collection_reached timed state reached
  have unchanged : state.provider.answer request = timed.provider.answer request :=
    congrArg (fun collection => collection.answer request) same
  show state.provider.answer request = _
  rw [unchanged]
  simp [Script.Collection.answer, present, sound]

theorem collection_honest (size : UInt32) (options : Options)
    (served : options.explicitSize.getD Script.standardPageSize = size)
    (countable : timed.provider.items.size ≤ largestWord) :
    Honest timed.provider.items.toList size options
      (Script.Timed.fetcher Script.Collection.serve) timed := by
  intro state reached number numbered
  refine ⟨_, collection_answers timed present sound state reached _, ?_⟩
  have same : { options with pageNumber := number }.explicitSize.getD Script.standardPageSize =
      size := served
  constructor
  · simp [Script.Collection.page, same, List.take_drop]
  · exact Or.inl same
  · intro total given
    simp only [Script.Collection.page] at given
    split at given
    · cases given
      exact UInt64.toNat_ofNat_of_lt' (Nat.lt_succ_of_le countable)
    · cases given
  · rfl
  · exact Or.inl same

theorem collection_totals (options : Options) :
    Totals timed.provider.reportsTotal options (Script.Timed.fetcher Script.Collection.serve)
      timed := by
  intro state reached number page answered
  rw [collection_answers timed present sound state reached] at answered
  cases answered
  cases given : timed.provider.reportsTotal <;> simp [Script.Collection.page, given]

end Collection

/-- Listing by page numbers hands over every item from the first page asked for on, in order and
once, and asks for no page in vain but the one that shows the end when no page tells it. A
collection in memory is a provider of this kind. -/
theorem numbered_listing_complete (items : List Item) (size : UInt32) (positive : 0 < size)
    (options : Options) (numbered : 0 < options.pageNumber)
    (asked : ∀ explicit, options.explicitSize = some explicit → explicit = size)
    (room : items.length / size.toNat + 1 ≤ 4294967294) :
    (∀ {Provider : Type} (fetcher : Fetcher Provider Request (Page Item))
      (world : World (Script.Recorded Provider Request)), world.provider.requests = [] →
      Honest items size options fetcher world.provider.provider →
        ∃ after : World (Script.Recorded Provider Request),
          Drains (Script.recording fetcher) (.start options false) world
            (items.drop ((options.pageNumber.toNat - 1) * size.toNat)) .ended after ∧
          (options.pageNumber = 1 →
            (Totals true options fetcher world.provider.provider → after.provider.requests.length =
              max 1 ((items.length + size.toNat - 1) / size.toNat)) ∧
            (Totals false options fetcher world.provider.provider →
              after.provider.requests.length = items.length / size.toNat + 1))) ∧
    (∀ timed : Script.Timed (Script.Collection Item), timed.provider.items.toList = items →
      timed.provider.missing = false → timed.provider.failures = [] →
      options.explicitSize.getD Script.standardPageSize = size →
        Honest items size options (Script.Timed.fetcher Script.Collection.serve) timed ∧
        Totals timed.provider.reportsTotal options (Script.Timed.fetcher Script.Collection.serve)
          timed) := by
  constructor
  · intro Provider fetcher world unasked honest
    have here : AtPage size options fetcher world.provider.provider options.pageNumber
        (.start options false) world := ⟨numbered, ⟨rfl, rfl, rfl⟩, Nat.zero_le _, .start⟩
    obtain ⟨after, last, drained, fetched, totalled, untotalled⟩ :=
      here.walks positive asked room honest items.length (Nat.le_add_left _ _)
    refine ⟨after, drained, ?_⟩
    intro from_first
    have first : options.pageNumber.toNat = 1 := by rw [from_first]; rfl
    have asks : after.provider.requests.length = last := by
      rw [unasked, first] at fetched
      simpa using fetched
    rw [first, Nat.sub_self, Nat.zero_mul] at totalled
    rw [first] at untotalled
    rw [asks]
    constructor
    · intro totals
      exact (totalled totals (Nat.zero_le _) rfl).enough positive
    · intro none_totalled
      exact (untotalled none_totalled).unfilled
  · intro timed same present sound served
    subst same
    exact ⟨collection_honest timed present sound size options served
      (room_for_seen positive room), collection_totals timed present sound options⟩

/-- Three items in memory, by twos and without the total: the second page shows the end. -/
theorem three_items_by_twos :
    let threes : Script.Timed (Script.Collection Nat) :=
      { provider := { items := #[1, 2, 3], reportsTotal := false } }
    ∃ after : World (Script.Recorded (Script.Timed (Script.Collection Nat)) Request),
      Drains (Script.recording (Script.Timed.fetcher Script.Collection.serve))
        (.start ⟨1, some 2, none⟩ false) { provider := ⟨threes, []⟩ } [1, 2, 3] .ended after ∧
      after.provider.requests.length = 2 := by
  intro threes
  have complete := numbered_listing_complete [1, 2, 3] 2 (by decide) ⟨1, some 2, none⟩ (by decide)
    (by intro explicit same; cases same; rfl) (by decide)
  obtain ⟨honest, untotalled⟩ := complete.2 threes rfl rfl rfl rfl
  obtain ⟨after, drained, fetched⟩ := complete.1 _ { provider := ⟨threes, []⟩ } rfl honest
  exact ⟨after, drained, (fetched rfl).2 untotalled⟩

end ResourceWatch.Listing
