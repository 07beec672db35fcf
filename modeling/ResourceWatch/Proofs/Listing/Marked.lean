import ResourceWatch.Proofs.Listing.Drain

/-!
Listing by markers. Each page of a chain but the last issues the marker that leads to the next, so
the pages before the last are passed in turn whatever they say about sizes and totals. The last page
has no marker to tell that it is the last. It is taken for one of a numbered listing, and unless its
size or the total speaks against it, the listing goes on without a marker: at the head of the chain.
-/

namespace ResourceWatch.Listing

variable {Item Provider : Type}

def Options.pagesOn (options : Options) : Nat → Options
  | 0 => options
  | pages + 1 => options.nextPage.pagesOn pages

theorem Options.pages_on_size (options : Options) (pages : Nat) :
    (options.pagesOn pages).pageSize = options.pageSize := by
  induction pages generalizing options with
  | zero => rfl
  | succ pages ih => exact ih options.nextPage

theorem Options.pages_on_number (options : Options) (pages : Nat) :
    (options.pagesOn pages).pageNumber.toNat =
      min (options.pageNumber.toNat + pages) 4294967295 := by
  induction pages generalizing options with
  | zero =>
      have bound := options.pageNumber.toNat_lt
      simp only [pagesOn]
      omega
  | succ pages ih =>
      simp only [pagesOn, ih, nextPage, next_count_value]
      omega

theorem Options.pages_on_next (options : Options) (pages : Nat) :
    (options.pagesOn pages).nextPage = options.pagesOn (pages + 1) := by
  induction pages generalizing options with
  | zero => rfl
  | succ pages ih => exact ih options.nextPage

/-- The pages that markers lead to from one marker on: those that issue another, and the last. -/
inductive Chain (answer : Option Marker → Page Item) :
    Option Marker → List (Page Item) → Page Item → Prop where
  | last {marker : Option Marker} (unmarked : (answer marker).nextMarker = none) :
      Chain answer marker [] (answer marker)
  | next {marker : Option Marker} (issued : Marker) {pages : List (Page Item)} {last : Page Item}
      (marked : (answer marker).nextMarker = some issued)
      (rest : Chain answer (some issued) pages last) :
      Chain answer marker (answer marker :: pages) last

theorem Chain.head_mem {answer : Option Marker → Page Item} {marker : Option Marker}
    {pages : List (Page Item)} {last : Page Item} (chain : Chain answer marker pages last) :
    answer marker ∈ pages ++ [last] := by
  cases chain with
  | last => exact List.mem_singleton_self _
  | next => exact List.mem_cons_self

def chainRequests (options : Options) (marker : Option Marker) : List (Page Item) → List Request
  | [] => []
  | page :: rest => ⟨options, marker⟩ :: chainRequests options.nextPage page.nextMarker rest

/-- The page with a number shows that it is the last of a listing: there is no size to go by, or it
is short, or the pages up to it hold the total. -/
def Page.ShowsEnd (page : Page Item) (options : Options) (number : Nat) : Prop :=
  ∀ size, page.effectiveSize options = some size →
    page.items.length < size ∨
      ∃ total, page.totalCount = some total ∧ total.toNat ≤ number * size

theorem Page.effective_size_pages_on (page : Page Item) (options : Options) (pages : Nat) :
    page.effectiveSize (options.pagesOn pages) = page.effectiveSize options := by
  simp only [effectiveSize, Options.explicitSize, Options.pages_on_size]

theorem Page.has_more_unmarked (page : Page Item) (options : Options) (seen : Nat)
    (filled : page.items ≠ []) (unmarked : page.nextMarker = none)
    (counted : ∀ total, page.totalCount = some total → total.toNat ≤ seen) :
    page.hasMore options seen = false ↔ page.ShowsEnd options options.pageNumber.toNat := by
  have nonempty : page.items.isEmpty = false := by simp [filled]
  cases sized : page.effectiveSize options with
  | none =>
      cases totalled : page.totalCount with
      | none => simp [ShowsEnd, hasMore, nonempty, unmarked, sized, totalled]
      | some total =>
          have all := counted total totalled
          simp [ShowsEnd, hasMore, nonempty, unmarked, sized, totalled, all]
  | some size =>
      by_cases short : page.items.length < size
      · simp [ShowsEnd, hasMore, nonempty, unmarked, sized, short]
      · cases totalled : page.totalCount with
        | none => simp [ShowsEnd, hasMore, nonempty, unmarked, sized, totalled, short]
        | some total => simp [ShowsEnd, hasMore, nonempty, unmarked, sized, totalled, short]

theorem Page.has_more_on (page : Page Item) (options : Options) (pages seen : Nat)
    (filled : page.items ≠ []) (unmarked : page.nextMarker = none)
    (counted : ∀ total, page.totalCount = some total → total.toNat ≤ seen) :
    page.hasMore (options.pagesOn pages) seen = false ↔
      page.ShowsEnd options (min (options.pageNumber.toNat + pages) 4294967295) := by
  rw [page.has_more_unmarked _ seen filled unmarked counted, Options.pages_on_number]
  simp only [ShowsEnd, effective_size_pages_on]

theorem Page.has_more_marked (page : Page Item) (options : Options) (seen : Nat) {issued : Marker}
    (filled : page.items ≠ []) (marked : page.nextMarker = some issued) :
    page.hasMore options seen = true := by
  simp [hasMore, filled, marked]

section Walk

/-- A provider in a state answers by the marker alone, whatever it was asked before. -/
def AnswersByMarker (answer : Option Marker → Page Item)
    (fetcher : Fetcher Provider Request (Page Item)) (provider : Provider) : Prop :=
  ∀ state, Script.Reached fetcher provider state → ∀ request,
    (fetcher request state).1.answer = .ok (answer request.marker)

variable {answer : Option Marker → Page Item}
variable {fetcher : Fetcher Provider Request (Page Item)} {provider : Provider}
variable {cursor : Cursor Item} {world : World (Script.Recorded Provider Request)}
variable {marker : Option Marker} {pages : List (Page Item)} {last : Page Item}

theorem Chain.passes (chain : Chain answer marker pages last)
    (answers : AnswersByMarker answer fetcher provider) (filled : ∀ page ∈ pages, page.items ≠ [])
    (options : Options) (asks : Asks cursor ⟨options, marker⟩)
    (reached : Script.Reached fetcher provider world.provider.provider) :
    ∃ (rest : Cursor Item) (between : World (Script.Recorded Provider Request))
      (issued : Option Marker),
      Passes (Script.recording fetcher) cursor world (pages.flatMap (·.items)) rest between ∧
      Asks rest ⟨options.pagesOn pages.length, issued⟩ ∧
      Script.Reached fetcher provider between.provider.provider ∧
      answer issued = last ∧ last.nextMarker = none ∧
      between.provider.requests ++ [⟨options.pagesOn pages.length, issued⟩] =
        world.provider.requests ++ chainRequests options marker (pages ++ [last]) ∧
      min (cursor.seen + (pages.flatMap (·.items)).length) largestWord ≤ rest.seen := by
  -- Along the chain only what is asked next and how much was seen so far change.
  induction chain generalizing options cursor world with
  | @last marker unmarked =>
      refine ⟨cursor, world, marker, ?_, asks, reached, rfl, unmarked, rfl, Nat.min_le_left _ _⟩
      intro times taken
      simp
  | @next marker issued pages last marked _ ih =>
      have here : answer marker ∈ answer marker :: pages := List.mem_cons_self
      have recorded : (Script.recording fetcher ⟨options, marker⟩ world.provider).1.answer =
          .ok (answer marker) := answers _ reached ⟨options, marker⟩
      obtain ⟨after, moved, passed⟩ := asks.passes recorded (filled _ here)
      have onward := asks.behind (Page.has_more_marked (answer marker) options
        (min (cursor.seen + (answer marker).items.length) largestWord) (filled _ here) marked)
      rw [marked] at onward
      obtain ⟨rest, between, at_last, walked, waiting, later, answered, unmarked, requests, seen⟩ :=
        ih (fun page inside => filled page (List.mem_cons_of_mem _ inside)) options.nextPage
          onward (by rw [moved]; exact reached.call _)
      refine ⟨rest, between, at_last, ?_, waiting, later, answered, unmarked, ?_, ?_⟩
      · rw [List.flatMap_cons]
        exact passed.trans walked
      · rw [moved] at requests
        simpa [Script.recording, chainRequests, Options.pagesOn, marked] using requests
      · simp only [Cursor.behind] at seen
        rw [List.flatMap_cons, List.length_append]
        omega

end Walk

theorem items_with_last (pages : List (Page Item)) (last : Page Item) :
    (pages ++ [last]).flatMap (·.items) = pages.flatMap (·.items) ++ last.items := by
  rw [List.flatMap_append, List.flatMap_singleton]

section Listing

variable {answer : Option Marker → Page Item} {pages : List (Page Item)} {last : Page Item}
variable {fetcher : Fetcher Provider Request (Page Item)}
variable {world : World (Script.Recorded Provider Request)}
variable (chain : Chain answer none pages last)
  (filled : ∀ page ∈ pages ++ [last], page.items ≠ [])
  (counted : ∀ total, last.totalCount = some total →
    total.toNat = ((pages ++ [last]).flatMap (·.items)).length)
  (options : Options) (unasked : world.provider.requests = [])
  (answers : AnswersByMarker answer fetcher world.provider.provider)
include chain filled counted unasked answers

theorem Chain.reaches_last :
    ∃ (rest : Cursor Item) (between : World (Script.Recorded Provider Request)) (request : Request),
      Passes (Script.recording fetcher) (.start options false) world (pages.flatMap (·.items)) rest
        between ∧
      Asks rest request ∧
      Script.Reached fetcher world.provider.provider between.provider.provider ∧
      (Script.recording fetcher request between.provider).1.answer = .ok last ∧
      last.nextMarker = none ∧
      request.options.nextPage = options.pagesOn (pages.length + 1) ∧
      between.provider.requests ++ [request] = chainRequests options none (pages ++ [last]) ∧
      (last.hasMore request.options (min (rest.seen + last.items.length) largestWord) = false ↔
        last.ShowsEnd options (min (options.pageNumber.toNat + pages.length) 4294967295)) := by
  have first : Asks (.start options false : Cursor Item) ⟨options, none⟩ := ⟨rfl, rfl, rfl⟩
  obtain ⟨rest, between, issued, walked, waiting, reached, answered, unmarked, asked, seen⟩ :=
    chain.passes answers (fun page inside => filled page (List.mem_append_left _ inside)) options
      first .start
  refine ⟨rest, between, ⟨options.pagesOn pages.length, issued⟩, walked, waiting, reached, ?_,
    unmarked, options.pages_on_next pages.length, ?_, ?_⟩
  · rw [← answered]
    exact answers _ reached ⟨options.pagesOn pages.length, issued⟩
  · rw [asked, unasked, List.nil_append]
  · apply last.has_more_on options pages.length _ (filled last (by simp)) unmarked
    -- A total counts the items of the whole chain, all of which are seen by now.
    intro total given
    have all := counted total given
    have fits := total.toNat_lt
    have unseen : (Cursor.start options false : Cursor Item).seen = 0 := rfl
    rw [items_with_last, List.length_append] at all
    simp only [largestWord] at seen ⊢
    omega

theorem Chain.listed_once
    (shown : last.ShowsEnd options (min (options.pageNumber.toNat + pages.length) 4294967295)) :
    ∃ after : World (Script.Recorded Provider Request),
      Drains (Script.recording fetcher) (.start options false) world
        ((pages ++ [last]).flatMap (·.items)) .ended after ∧
      after.provider.requests = chainRequests options none (pages ++ [last]) := by
  obtain ⟨rest, between, request, walked, waiting, _, recorded, _, _, asked, ends⟩ :=
    chain.reaches_last filled counted options unasked answers
  obtain ⟨after, moved, drained⟩ := waiting.drains recorded (ends.mpr shown)
  refine ⟨after, ?_, ?_⟩
  · rw [items_with_last]
    exact walked.drains drained
  · rw [moved]
    exact asked

theorem Chain.listed_again
    (unshown : ¬ last.ShowsEnd options
      (min (options.pageNumber.toNat + pages.length) 4294967295)) :
    ∃ (rest : Cursor Item) (after : World (Script.Recorded Provider Request)),
      Passes (Script.recording fetcher) (.start options false) world
        ((pages ++ [last]).flatMap (·.items) ++ (answer none).items) rest after ∧
      after.provider.requests = chainRequests options none (pages ++ [last]) ++
        [⟨options.pagesOn (pages.length + 1), none⟩] := by
  obtain ⟨rest, between, request, walked, waiting, reached, recorded, unmarked, next, asked,
    ends⟩ := chain.reaches_last filled counted options unasked answers
  have more : last.hasMore request.options
      (min (rest.seen + last.items.length) largestWord) = true := by
    rw [← Bool.not_eq_false, ends]
    exact unshown
  obtain ⟨middle, moved, passed⟩ := waiting.passes recorded (filled last (by simp))
  -- The last page issues no marker, so the request behind it carries none.
  have onward := waiting.behind more
  rw [unmarked, next] at onward
  have recorded_again : (Script.recording fetcher ⟨options.pagesOn (pages.length + 1), none⟩
      middle.provider).1.answer = .ok (answer none) := by
    rw [moved]
    exact answers _ (reached.call _) ⟨options.pagesOn (pages.length + 1), none⟩
  obtain ⟨after, moved_again, passed_again⟩ := onward.passes recorded_again
    (filled _ chain.head_mem)
  have handed := (walked.trans passed).trans passed_again
  rw [← items_with_last] at handed
  refine ⟨_, after, handed, ?_⟩
  rw [moved_again, moved]
  exact congrArg (· ++ [_]) asked

end Listing

/-- A chain is listed once, by one fetch for each of its pages, exactly when its last page shows
that it is the last. Otherwise the first page is fetched once more behind it and handed over again. -/
theorem marked_listing_once_iff_end_shown (answer : Option Marker → Page Item)
    (pages : List (Page Item)) (last : Page Item) (chain : Chain answer none pages last)
    (filled : ∀ page ∈ pages ++ [last], page.items ≠ [])
    (counted : ∀ total, last.totalCount = some total →
      total.toNat = ((pages ++ [last]).flatMap (·.items)).length)
    (options : Options) (fetcher : Fetcher Provider Request (Page Item))
    (world : World (Script.Recorded Provider Request)) (unasked : world.provider.requests = [])
    (answers : AnswersByMarker answer fetcher world.provider.provider) :
    let items := (pages ++ [last]).flatMap (·.items)
    let requests := chainRequests options none (pages ++ [last])
    let shown := last.ShowsEnd options (min (options.pageNumber.toNat + pages.length) 4294967295)
    (shown ↔ ∃ after : World (Script.Recorded Provider Request),
      Drains (Script.recording fetcher) (.start options false) world items .ended after ∧
        after.provider.requests = requests) ∧
    (¬ shown → ∃ (rest : Cursor Item) (after : World (Script.Recorded Provider Request)),
      Passes (Script.recording fetcher) (.start options false) world
        (items ++ (answer none).items) rest after ∧
      after.provider.requests = requests ++ [⟨options.pagesOn (pages.length + 1), none⟩]) := by
  intro items requests shown
  refine ⟨⟨chain.listed_once filled counted options unasked answers, ?_⟩,
    chain.listed_again filled counted options unasked answers⟩
  rintro ⟨after, drained, _⟩
  by_cases shows : shown
  · exact shows
  · -- A listing that hands over the first page again cannot have ended before.
    obtain ⟨rest, later, passed, _⟩ :=
      chain.listed_again filled counted options unasked answers shows
    have first_filled := List.length_pos_iff.mpr (filled _ chain.head_mem)
    refine absurd drained (passed.outlasts ?_)
    rw [List.length_append]
    exact Nat.lt_add_of_pos_right first_filled

def byMarker (answer : Option Marker → Page Item) : Fetcher Unit Request (Page Item) :=
  fun request _ => ({ answer := .ok (answer request.marker) }, ())

theorem by_marker_answers (answer : Option Marker → Page Item) :
    AnswersByMarker answer (byMarker answer) () :=
  fun _ _ _ => rfl

def sizeless : Option Marker → Page Nat
  | none => ⟨[1, 2], 1, 0, none, some ⟨"more"⟩⟩
  | some _ => ⟨[3], 2, 0, none, none⟩

theorem sizeless_listed_once :
    ∃ after : World (Script.Recorded Unit Request),
      Drains (Script.recording (byMarker sizeless)) (.start .initial false) { provider := ⟨(), []⟩ }
        [1, 2, 3] .ended after ∧
      after.provider.requests = [⟨.initial, none⟩, ⟨⟨2, none, none⟩, some ⟨"more"⟩⟩] := by
  have listed := marked_listing_once_iff_end_shown sizeless [sizeless none]
    (sizeless (some ⟨"more"⟩)) (.next ⟨"more"⟩ rfl (.last rfl)) (by decide)
    (by intro total given; cases given) .initial (byMarker sizeless) { provider := ⟨(), []⟩ } rfl
    (by_marker_answers sizeless)
  apply listed.1.mp
  intro size sized
  cases sized

def fullPages : Option Marker → Page Nat
  | none => ⟨[1, 2], 1, 2, none, some ⟨"more"⟩⟩
  | some _ => ⟨[3, 4], 2, 2, none, none⟩

/-- The second page ends the chain and not the listing: the fifth item is the first one again. -/
theorem full_pages_listed_again :
    Chain fullPages none [fullPages none] (fullPages (some ⟨"more"⟩)) ∧
      (∀ page ∈ [fullPages none, fullPages (some ⟨"more"⟩)],
        page.items ≠ [] ∧ page.items.length ≤ page.pageSize.toNat ∧ page.totalCount = none) ∧
      AnswersByMarker fullPages (byMarker fullPages) () ∧
      ¬ ∃ after : World (Script.Recorded Unit Request),
        Drains (Script.recording (byMarker fullPages)) (.start .initial false)
          { provider := ⟨(), []⟩ } [1, 2, 3, 4] .ended after := by
  refine ⟨.next ⟨"more"⟩ rfl (.last rfl), by decide, by_marker_answers fullPages, ?_⟩
  rintro ⟨after, last, _, _, drained⟩
  have fifth : (Cursor.pulls (Script.recording (byMarker fullPages)) 5 (.start .initial false)
      { provider := ⟨(), []⟩ } #[]).1 = #[1, 2, 3, 4, 1] := by decide
  rw [drained 5 #[] (by decide)] at fifth
  exact absurd fifth (show ¬ #[] ++ #[1, 2, 3, 4] = #[1, 2, 3, 4, 1] by decide)

end ResourceWatch.Listing
