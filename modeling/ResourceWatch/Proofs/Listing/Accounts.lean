import ResourceWatch.Proofs.Listing.Log
import ResourceWatch.Proofs.Listing.Succession
import ResourceWatch.Script.Run

/-!
The log of a listing accounts for its pages. Each page that was heard has its line, in order, and as
soon as it is known what the listing comes to there is one line that says so. For a listing that is
complete this is when its last page arrives, while items of that page are still to be handed over;
whether the listing is called off behind that makes no difference.
-/

namespace ResourceWatch.Listing

open Event (Line line)
open Script (Heard Occurrence Watched)

variable {Item Provider : Type}

section Course

/-- Where a listing under watch stands, with the log that it began with: it will ask for a page, it
knows its end, or it is over. -/
inductive Stage (options : Options) (before : List Line) (watched : Watched Item Provider) :
    Prop where
  | going (marker : Option Marker)
      (next : watched.cursor.next = some ⟨options.pagesOn watched.heard.length, marker⟩)
      (counted : watched.cursor.fetchedPages = ResourceWatch.countOf watched.heard.length)
      (told : ∀ page ∈ watched.heard, page.page?.isSome) (unclosed : watched.close? = none)
      (said : watched.world.lines = before ++ watched.heard.flatMap (heardLines []))
  | ending (closing : Line) (spent : watched.cursor.next = none)
      (closes : Closes watched.heard .ended closing none) (unclosed : watched.close? = none)
      (said : watched.world.lines = before ++ tale watched.heard closing none)
  | closed (close : Pull Item) (closing : Line) (calledOff : Option Request)
      (spent : watched.cursor.next = none) (handed : watched.cursor.buffered = [])
      (closes : Closes watched.heard close closing calledOff)
      (numbered : ∀ request, calledOff = some request →
        request.options = options.pagesOn watched.heard.length)
      (gave : watched.close? = some close)
      (said : watched.world.lines = before ++ tale watched.heard closing calledOff)

/-- A listing accounts for what it heard: all items were handed over or wait for it, page numbers
count up, and the log says as much as is known. -/
structure Accounts (options : Options) (before : List Line) (watched : Watched Item Provider) :
    Prop where
  numbered : watched.heard.map (·.request.options) =
    (List.range watched.heard.length).map options.pagesOn
  whole : watched.items ++ watched.cursor.buffered = watched.heard.flatMap Heard.items
  stage : Stage options before watched

structure Pulled (watched after : Watched Item Provider) (answer : Pull Item)
    (rest : Cursor Item) (heard : Option (Heard Item)) (added : List Line) : Prop where
  cursor : after.cursor = rest
  given : after.given = watched.given ++ [answer]
  heard : after.heard = watched.heard ++ heard.toList
  said : after.world.lines = watched.world.lines ++ added

variable {options : Options} {before : List Line} {watched after : Watched Item Provider}
variable {answer : Pull Item} {rest : Cursor Item} {heard : Option (Heard Item)}
variable {added : List Line}

theorem Pulled.items (pulled : Pulled watched after answer rest heard added) :
    after.items = watched.items ++ answer.item?.toList := by
  rw [Watched.items, Watched.items, pulled.given, List.filterMap_append]
  cases answer <;> rfl

theorem Pulled.close (pulled : Pulled watched after answer rest heard added) :
    after.close? = watched.close?.or (if answer.item?.isNone then some answer else none) := by
  rw [Watched.close?, Watched.close?, pulled.given, List.find?_append, List.find?_singleton]

theorem Pulled.heard_same (pulled : Pulled watched after answer rest none added) :
    after.heard = watched.heard := by
  rw [pulled.heard, Option.toList_none, List.append_nil]

theorem Stage.kept (stage : Stage options before watched)
    (next : after.cursor.next = watched.cursor.next)
    (pages : after.cursor.fetchedPages = watched.cursor.fetchedPages)
    (handed : watched.cursor.buffered = [] → after.cursor.buffered = [])
    (heard : after.heard = watched.heard) (close : after.close? = watched.close?)
    (said : after.world.lines = watched.world.lines) : Stage options before after := by
  cases stage with
  | going marker asks counted told unclosed before_said =>
      rw [← heard] at asks counted told before_said
      exact .going marker (next.trans asks) (pages.trans counted) told (close.trans unclosed)
        (said.trans before_said)
  | ending closing spent closes unclosed before_said =>
      rw [← heard] at closes before_said
      exact .ending closing (next.trans spent) closes (close.trans unclosed)
        (said.trans before_said)
  | closed gives closing calledOff spent empty closes numbered gave before_said =>
      rw [← heard] at closes numbered before_said
      exact .closed gives closing calledOff (next.trans spent) (handed empty) closes numbered
        (close.trans gave) (said.trans before_said)

theorem Accounts.elsewhere (accounts : Accounts options before watched) {world : World Provider}
    (same : world.lines = watched.world.lines) :
    Accounts options before { watched with world } :=
  ⟨accounts.numbered, accounts.whole, accounts.stage.kept rfl rfl id rfl rfl same⟩

theorem Accounts.hands_over (accounts : Accounts options before watched) {value : Item}
    {left : List Item} (buffered : watched.cursor.buffered = value :: left)
    (pulled : Pulled watched after (.item value) { watched.cursor with buffered := left } none
      []) : Accounts options before after := by
  have heard := pulled.heard_same
  constructor
  · rw [heard]
    exact accounts.numbered
  · rw [heard, pulled.items, pulled.cursor, ← accounts.whole, buffered, List.append_assoc]
    rfl
  · apply accounts.stage.kept
    · rw [pulled.cursor]
    · rw [pulled.cursor]
    · intro handed
      rw [handed] at buffered
      cases buffered
    · exact heard
    · rw [pulled.close]
      exact Option.or_none
    · rw [pulled.said, List.append_nil]

theorem Accounts.stays_over (accounts : Accounts options before watched)
    (handed : watched.cursor.buffered = []) (spent : watched.cursor.next = none)
    (pulled : Pulled watched after .ended watched.cursor none []) :
    Accounts options before after := by
  have heard := pulled.heard_same
  have close : after.close? = watched.close?.or (some .ended) := pulled.close
  have said := pulled.said
  rw [List.append_nil] at said
  constructor
  · rw [heard]
    exact accounts.numbered
  · rw [heard, pulled.items, pulled.cursor, ← accounts.whole]
    exact congrArg (· ++ _) (List.append_nil _)
  · cases accounts.stage with
    | going _ next =>
        rw [spent] at next
        cases next
    -- This pull is the first that gives no item, and finds what the log has said before.
    | ending closing _ closes unclosed before_said =>
        rw [← heard] at closes before_said
        apply Stage.closed .ended closing none
        · rw [pulled.cursor, spent]
        · rw [pulled.cursor, handed]
        · exact closes
        · intro request absent
          cases absent
        · rw [close, unclosed, Option.none_or]
        · rw [said, before_said]
    | closed gives closing calledOff _ _ closes numbered gave before_said =>
        apply accounts.stage.kept
        · rw [pulled.cursor]
        · rw [pulled.cursor]
        · rw [pulled.cursor]
          exact id
        · exact heard
        · rw [close, gave, Option.some_or]
        · exact said

theorem Accounts.asks (accounts : Accounts options before watched) {request : Request}
    (asked : watched.cursor.next = some request) :
    request.options = options.pagesOn watched.heard.length ∧
      watched.cursor.fetchedPages = ResourceWatch.countOf watched.heard.length ∧
      (∀ page ∈ watched.heard, page.page?.isSome) ∧ watched.close? = none ∧
      watched.world.lines = before ++ watched.heard.flatMap (heardLines []) := by
  cases accounts.stage with
  | going marker next counted told unclosed said =>
      have same := Option.some.inj (asked.symm.trans next)
      exact ⟨by rw [same], counted, told, unclosed, said⟩
  | ending _ spent =>
      rw [asked] at spent
      cases spent
  | closed _ _ _ spent =>
      rw [asked] at spent
      cases spent

theorem Accounts.called_off (accounts : Accounts options before watched) {request : Request}
    (handed : watched.cursor.buffered = []) (asked : watched.cursor.next = some request)
    (pulled : Pulled watched after (.failed (.cancelled request.pageNumber)) watched.cursor.closed
      none [askingLine request, calledOffLine request.pageNumber]) :
    Accounts options before after := by
  obtain ⟨number, _, told, unclosed, said⟩ := accounts.asks asked
  have heard := pulled.heard_same
  constructor
  · rw [heard]
    exact accounts.numbered
  · rw [heard, pulled.items, pulled.cursor, ← accounts.whole, handed]
    exact congrArg (· ++ _) (List.append_nil _)
  · apply Stage.closed _ _ (some request)
    · rw [pulled.cursor]
      rfl
    · rw [pulled.cursor]
      rfl
    · rw [heard]
      exact .calledOff request told
    · intro other same
      cases same
      rw [heard, number]
    · rw [pulled.close, unclosed, Option.none_or]
      rfl
    · rw [pulled.said, said, heard, List.append_assoc]
      rfl

theorem items_of_page {told : Heard Item} {page : Page Item} (shown : told.page? = some page) :
    told.items = page.items := by
  rw [Heard.items, shown]

theorem items_of_error {told : Heard Item} {source : FetchError}
    (answered : told.reply.answer = .error source) : told.items = [] := by
  rw [Heard.items, Heard.page?, answered]
  rfl

section Heard

variable {told : Heard Item} (accounts : Accounts options before watched)
variable (pulled : Pulled watched after answer rest (some told) added)
variable (handed : watched.cursor.buffered = [])
variable (asked : watched.cursor.next = some told.request)
include accounts pulled

include asked in
theorem Accounts.numbered_on :
    after.heard.map (·.request.options) =
      (List.range after.heard.length).map options.pagesOn := by
  obtain ⟨number, _⟩ := accounts.asks asked
  rw [pulled.heard, Option.toList_some, List.map_append, accounts.numbered, List.length_append,
    List.length_singleton, List.range_succ, List.map_append, List.map_singleton, List.map_singleton,
    number]

include handed in
theorem Accounts.whole_on (whole : answer.item?.toList ++ rest.buffered = told.items) :
    after.items ++ after.cursor.buffered = after.heard.flatMap Heard.items := by
  have all := accounts.whole
  rw [handed, List.append_nil] at all
  rw [pulled.items, pulled.cursor, pulled.heard, Option.toList_some, List.append_assoc, whole, all,
    List.flatMap_append, List.flatMap_singleton]

include handed asked

theorem Accounts.closed_by {closing : Line}
    (closes : Closes (watched.heard ++ [told]) answer closing none)
    (given : answer.item? = none) (spent : rest.next = none) (left : rest.buffered = [])
    (barren : told.items = []) (said : added = heardLines [closing] told) :
    Accounts options before after := by
  obtain ⟨_, _, _, unclosed, said_so⟩ := accounts.asks asked
  constructor
  · exact accounts.numbered_on pulled asked
  · apply accounts.whole_on pulled handed
    rw [given, left, barren]
    rfl
  · apply Stage.closed answer closing none
    · rw [pulled.cursor, spent]
    · rw [pulled.cursor, left]
    · rw [pulled.heard]
      exact closes
    · intro request absent
      cases absent
    · rw [pulled.close, unclosed, given, Option.none_or]
      rfl
    · rw [pulled.said, said_so, said, pulled.heard, Option.toList_some, tale_behind,
        List.append_assoc]

end Heard

section Page

variable {told : Heard Item} {page : Page Item} (accounts : Accounts options before watched)
variable (handed : watched.cursor.buffered = [])
variable (asked : watched.cursor.next = some told.request) (shown : told.page? = some page)
variable {value : Item} {left : List Item} (items : page.items = value :: left)
variable (pulled : Pulled watched after (.item value)
  { watched.cursor.behind told.request page with buffered := left } (some told) added)
include accounts handed asked shown items pulled

theorem Accounts.ends (last : (watched.cursor.behind told.request page).next = none)
    (said : added = heardLines [endLine (nextCount watched.cursor.fetchedPages) page] told) :
    Accounts options before after := by
  obtain ⟨_, counted, pages, unclosed, said_so⟩ := accounts.asks asked
  constructor
  · exact accounts.numbered_on pulled asked
  · apply accounts.whole_on pulled handed
    rw [items_of_page shown, items]
    rfl
  · apply Stage.ending (endLine (ResourceWatch.countOf (watched.heard.length + 1)) page)
    · rw [pulled.cursor, ← last]
    · rw [pulled.heard]
      exact .complete pages shown
    · rw [pulled.close, unclosed]
      rfl
    · rw [pulled.said, said_so, said, pulled.heard, Option.toList_some, tale_behind,
        List.append_assoc, counted, next_count_of]

theorem Accounts.goes_on
    (more : (watched.cursor.behind told.request page).next.isSome)
    (said : added = heardLines [] told) : Accounts options before after := by
  obtain ⟨number, counted, pages, unclosed, said_so⟩ := accounts.asks asked
  constructor
  · exact accounts.numbered_on pulled asked
  · apply accounts.whole_on pulled handed
    rw [items_of_page shown, items]
    rfl
  · have longer : after.heard.length = watched.heard.length + 1 := by
      rw [pulled.heard]
      exact List.length_append
    apply Stage.going page.nextMarker
    · rw [pulled.cursor, longer, ← options.pages_on_next, ← number]
      simp only [Cursor.behind] at more ⊢
      split at more
      · rename_i goes
        rw [if_pos goes]
      · cases more
    · rw [pulled.cursor, longer, ← next_count_of, ← counted]
      rfl
    · rw [pulled.heard]
      intro heard member
      rcases List.mem_append.mp member with early | last
      · exact pages heard early
      · cases List.mem_singleton.mp last
        rw [shown]
        rfl
    · rw [pulled.close, unclosed]
      rfl
    · rw [pulled.said, said_so, said, pulled.heard, List.flatMap_append, List.append_assoc]
      exact congrArg _ (congrArg _ (List.flatMap_singleton ..).symm)

end Page

theorem Accounts.page (accounts : Accounts options before watched) {told : Heard Item}
    {page : Page Item} (handed : watched.cursor.buffered = [])
    (asked : watched.cursor.next = some told.request) (shown : told.page? = some page)
    (pulled : Pulled watched after (watched.cursor.turn told.request (.ok page)).1
      (watched.cursor.turn told.request (.ok page)).2 (some told)
      (heardLines (if (watched.cursor.behind told.request page).next.isSome then []
        else [endLine (nextCount watched.cursor.fetchedPages) page]) told)) :
    Accounts options before after := by
  cases items : page.items with
  -- Behind a page without items nothing is asked for, whatever totals and markers it has.
  | nil =>
      obtain ⟨_, counted, pages, _⟩ := accounts.asks asked
      have last : (watched.cursor.behind told.request page).next = none := by
        simp [Cursor.behind, Page.hasMore, items]
      simp only [Cursor.turn, items] at pulled
      apply accounts.closed_by pulled handed asked (.complete pages shown) rfl last rfl
      · rw [items_of_page shown, items]
      · rw [last, counted, next_count_of]
        rfl
  | cons value left =>
      simp only [Cursor.turn, items] at pulled
      cases more : (watched.cursor.behind told.request page).next with
      | none =>
          apply accounts.ends handed asked shown items pulled more
          rw [more]
          rfl
      | some request =>
          apply accounts.goes_on handed asked shown items pulled
          · rw [more]
            rfl
          · rw [more]
            rfl

theorem Accounts.pull (accounts : Accounts options before watched)
    (fetcher : Fetcher Provider Request (Page Item)) :
    Accounts options before (watched.occur fetcher .pull) := by
  obtain ⟨added, said, adds⟩ := pull_adds fetcher watched.cursor watched.world
  have pulled : Pulled watched (watched.occur fetcher .pull)
      (watched.cursor.pull fetcher watched.world).1 (watched.cursor.pull fetcher watched.world).2.1
      (Script.hearing? fetcher watched.cursor watched.world) added := ⟨rfl, rfl, rfl, said⟩
  -- Nothing is used of the pull but what it gave, made, heard and added.
  generalize watched.occur fetcher .pull = after at pulled
  generalize (watched.cursor.pull fetcher watched.world).1 = answer at adds pulled
  generalize (watched.cursor.pull fetcher watched.world).2.1 = rest at adds pulled
  generalize Script.hearing? fetcher watched.cursor watched.world = heard at adds pulled
  cases adds with
  | handed left => exact accounts.hands_over left pulled
  | finished handed spent => exact accounts.stays_over handed spent pulled
  | calledOff handed asked => exact accounts.called_off handed asked pulled
  | page told page handed asked shown => exact accounts.page handed asked shown pulled
  | missing told source handed asked answered first absent =>
      obtain ⟨_, counted, _⟩ := accounts.asks asked
      -- Counts of pages stop at the largest word, but none of them comes back to zero.
      have unheard : watched.heard = [] := by
        rw [first] at counted
        exact List.eq_nil_of_length_eq_zero ((count_of_zero_iff _).mp counted.symm)
      apply accounts.closed_by pulled handed asked _ rfl rfl rfl (items_of_error answered) rfl
      rw [unheard]
      exact .missing answered absent
  | failed told source handed asked answered present =>
      obtain ⟨_, counted, pages, _⟩ := accounts.asks asked
      apply accounts.closed_by pulled handed asked _ rfl rfl rfl (items_of_error answered) rfl
      apply Closes.failed pages answered
      intro unheard
      apply present
      rw [counted, unheard]
      rfl

theorem Accounts.occur (accounts : Accounts options before watched)
    (fetcher : Fetcher Provider Request (Page Item)) (occurrence : Occurrence) :
    Accounts options before (watched.occur fetcher occurrence) := by
  cases occurrence with
  | pull => exact accounts.pull fetcher
  | rest length => exact accounts.elsewhere rfl
  | cancel => exact accounts.elsewhere rfl

theorem Accounts.course (accounts : Accounts options before watched)
    (fetcher : Fetcher Provider Request (Page Item)) (occurrences : List Occurrence) :
    Accounts options before (watched.course fetcher occurrences) := by
  induction occurrences generalizing watched with
  | nil => exact accounts
  | cons occurrence later ih => exact ih (accounts.occur fetcher occurrence)

theorem opened_accounts (options : Options) (heeds : Bool) (world : World Provider) :
    Accounts options world.lines (Watched.opened options heeds world : Watched Item Provider) := by
  constructor
  · rfl
  · rfl
  · apply Stage.going none
    · rfl
    · rfl
    · intro page absent
      cases absent
    · rfl
    · exact (List.append_nil _).symm

end Course

section Own

variable {test : Line → Bool} (asks : ∀ request, test (askingLine request) = false)
include asks

theorem filter_lines (closing : List Line) (heard : Heard Item) :
    (heardLines closing heard.silenced).filter test =
      closing.filter test ++ (fetchedLines heard).filter test := by
  have silent : heardLines closing heard.silenced =
      askingLine heard.request :: closing ++ fetchedLines heard := rfl
  rw [silent, List.cons_append, List.filter_cons_of_neg (by rw [asks]; exact Bool.false_ne_true),
    List.filter_append]

theorem filter_earlier (heard : List (Heard Item)) :
    ((heard.map Heard.silenced).flatMap (heardLines [])).filter test =
      heard.flatMap fun page => (fetchedLines page).filter test := by
  rw [List.filter_flatMap, List.flatMap_map]
  simp only [filter_lines asks, List.filter_nil, List.nil_append]

variable {heard : List (Heard Item)} {closing : Line} {calledOff : Option Request}

theorem filter_tale (closed : calledOff = none → heard ≠ []) :
    ∃ earlier later, earlier ++ later = heard ∧
      (tale (heard.map Heard.silenced) closing calledOff).filter test =
        (earlier.flatMap fun page => (fetchedLines page).filter test) ++
          [closing].filter test ++ later.flatMap fun page => (fetchedLines page).filter test := by
  cases calledOff with
  | some request =>
      refine ⟨heard, [], List.append_nil _, ?_⟩
      rw [tale, List.filter_append, filter_earlier asks,
        List.filter_cons_of_neg (by rw [asks]; exact Bool.false_ne_true), List.flatMap_nil,
        List.append_nil]
  | none =>
      rcases List.eq_nil_or_concat heard with empty | ⟨earlier, last, rfl⟩
      · exact absurd empty (closed rfl)
      · refine ⟨earlier, [last], List.concat_eq_append.symm, ?_⟩
        rw [List.concat_eq_append, List.map_append, List.map_singleton, tale_behind,
          List.filter_append, filter_earlier asks, filter_lines asks, List.flatMap_singleton,
          List.append_assoc]

theorem filter_tale_closing (closed : calledOff = none → heard ≠ [])
    (counts : ∀ request (page : Page Item), test (fetchedLine request page) = false)
    (closes : test closing = true) :
    (tale (heard.map Heard.silenced) closing calledOff).filter test = [closing] := by
  have unfound (page : Heard Item) : (fetchedLines page).filter test = [] := by
    cases shown : page.page? with
    | none => rw [fetchedLines, shown]; rfl
    | some shown => simp [fetchedLines, *]
  have none_found (pages : List (Heard Item)) :
      (pages.flatMap fun page => (fetchedLines page).filter test) = [] :=
    List.flatMap_eq_nil_iff.mpr fun page _ => unfound page
  obtain ⟨earlier, later, _, found⟩ := filter_tale asks closed
  rw [found, none_found, none_found, List.filter_cons_of_pos closes]
  rfl

theorem filter_tale_fetched (closed : calledOff = none → heard ≠ [])
    (counts : ∀ request (page : Page Item), test (fetchedLine request page) = true)
    (closes : test closing = false) :
    (tale (heard.map Heard.silenced) closing calledOff).filter test =
      heard.flatMap fetchedLines := by
  have all (page : Heard Item) : (fetchedLines page).filter test = fetchedLines page := by
    cases shown : page.page? with
    | none => rw [fetchedLines, shown]; rfl
    | some shown => simp [fetchedLines, *]
  obtain ⟨earlier, later, whole, found⟩ := filter_tale asks closed
  rw [found, ← whole, List.flatMap_append]
  simp [all, closes]

end Own

section Closes

variable {heard : List (Heard Item)} {close : Pull Item} {closing : Line}
variable {calledOff : Option Request} (closes : Closes heard close closing calledOff)
include closes

theorem Closes.is_closing : isClosing closing = true ∧ isFetched closing = false := by
  cases closes with
  | complete | missing | failed | calledOff => exact ⟨rfl, rfl⟩

theorem Closes.heard_some : calledOff = none → heard ≠ [] := by
  cases closes with
  | complete | missing | failed => simp
  | calledOff request => simp

theorem Closes.complete_iff :
    closing.message = "reached end of collection" ↔
      close = .ended ∧ heard.filterMap Heard.page? ≠ [] := by
  cases closes with
  | complete told shown => simp [endLine, shown]
  | @missing only source answered => simp [missingLine, Heard.page?, answered, Except.toOption]
  | failed => simp [failedLine]
  | calledOff => simp [calledOffLine]

end Closes

def countIn (name : String) (said : Line) : Nat :=
  match said.fields.lookup name with
  | some (.count count) => count
  | _ => 0

def totalIn (name : String) : List Line → Nat
  | [] => 0
  | said :: later => countIn name said + totalIn name later

theorem counted_items (heard : List (Heard Item)) :
    totalIn "items" (heard.flatMap fetchedLines) = (heard.flatMap Heard.items).length := by
  induction heard with
  | nil => rfl
  | cons told later ih =>
      rw [List.flatMap_cons, List.flatMap_cons, List.length_append, ← ih]
      cases shown : told.page? with
      | none => simp [fetchedLines, Heard.items, shown]
      | some page =>
          rw [fetchedLines, items_of_page shown, shown]
          rfl

theorem asked_numbers {options : Options} {heard : List (Heard Item)} {calledOff : Option Request}
    (numbered : heard.map (·.request.options) = (List.range heard.length).map options.pagesOn)
    (last : ∀ request, calledOff = some request → request.options = options.pagesOn heard.length) :
    let asked := heard.map (·.request) ++ calledOff.toList
    asked.map (·.pageNumber.toNat) =
      (List.range asked.length).map fun k => min (options.pageNumber.toNat + k) 4294967295 := by
  intro asked
  have ordered : asked.map (·.options) = (List.range asked.length).map options.pagesOn := by
    cases calledOff with
    | none => simpa [asked, Function.comp_def] using numbered
    | some request =>
        simp only [asked, Option.toList_some, List.map_append, List.map_map, List.map_singleton,
          List.length_append, List.length_map, List.length_singleton, List.range_succ]
        rw [last request rfl, ← numbered]
        rfl
  have numbers := congrArg (List.map fun asked : Options => asked.pageNumber.toNat) ordered
  simpa [Function.comp_def, Options.pages_on_number, Request.pageNumber] using numbers

/-- The log of a listing accounts for every page. Whatever is behind it, and whenever it is called
off, a listing that was pulled to its end has said just once how it ended, as its pulls have told
it. Its log has one line for each page, in the order of the pages, and the items counted there are
the items that were handed over. Beside that the log has what the provider remarks on its answers,
and nothing else. -/
theorem log_accounts_for_pages (fetcher : Fetcher Provider Request (Page Item)) (options : Options)
    (heeds : Bool) (world : World Provider) (occurrences : List Occurrence) (close : Pull Item)
    (closed : ((Watched.opened options heeds world).course fetcher occurrences).close? =
      some close) :
    let watched := (Watched.opened options heeds world).course fetcher occurrences
    ∃ closing calledOff,
      let own := tale (watched.heard.map Heard.silenced) closing calledOff
      let fetched := own.filter isFetched
      let asked := watched.heard.map (·.request) ++ calledOff.toList
      (Closes watched.heard close closing calledOff ∧
        watched.world.lines = world.lines ++ tale watched.heard closing calledOff) ∧
      own.filter isClosing = [closing] ∧
      (closing.message = "reached end of collection" ↔
        close = .ended ∧ watched.heard.filterMap Heard.page? ≠ []) ∧
      (fetched = watched.heard.flatMap fetchedLines ∧
        watched.items = watched.heard.flatMap Heard.items ∧
        totalIn "items" fetched = watched.items.length) ∧
      asked.map (·.pageNumber.toNat) =
        (List.range asked.length).map fun k => min (options.pageNumber.toNat + k) 4294967295 := by
  intro watched
  have accounts : Accounts options world.lines watched :=
    (opened_accounts options heeds world).course fetcher occurrences
  cases accounts.stage with
  | going _ _ _ _ unclosed =>
      rw [show watched.close? = some close from closed] at unclosed
      cases unclosed
  | ending _ _ _ unclosed =>
      rw [show watched.close? = some close from closed] at unclosed
      cases unclosed
  | closed other closing calledOff _ handed closes numbered gave said =>
      cases gave.symm.trans closed
      have asks (request : Request) :
          isClosing (askingLine request) = false ∧ isFetched (askingLine request) = false :=
        ⟨rfl, rfl⟩
      have once := filter_tale_closing (fun request => (asks request).1) closes.heard_some
        (fun _ _ => rfl) closes.is_closing.1
      have fetched := filter_tale_fetched (fun request => (asks request).2) closes.heard_some
        (fun _ _ => rfl) closes.is_closing.2
      have whole : watched.items = watched.heard.flatMap Heard.items := by
        rw [← accounts.whole, handed, List.append_nil]
      have counted := counted_items watched.heard
      rw [← fetched, ← whole] at counted
      exact ⟨closing, calledOff, ⟨closes, said⟩, once, closes.complete_iff,
        ⟨fetched, whole, counted⟩, asked_numbers accounts.numbered numbered⟩

def onePair : Nat → Reply (Page Nat)
  | _ => { answer := .ok ⟨[1, 2], 1, 5, some 2, none⟩ }

/-- The token fires when one of the two items is handed over. The listing has said by then that it
is complete, and ends as it said. -/
theorem called_off_behind_last_page :
    let watched := (Watched.opened .initial true { provider := [] }).course
      (Script.sequence onePair) [.pull, .cancel, .pull, .pull]
    watched.close? = some .ended ∧ watched.items = [1, 2] ∧ watched.world.token.fired = true ∧
      ∃ closing calledOff, Closes watched.heard .ended closing calledOff ∧
        watched.world.lines.filter isClosing = [closing] ∧
        closing.fields = [("pages", .count 1), ("total_count", .text "Some(2)")] := by
  intro watched
  have closed : watched.close? = some .ended := rfl
  obtain ⟨closing, calledOff, ⟨closes, said⟩, once, _⟩ := log_accounts_for_pages
    (Script.sequence onePair) .initial true { provider := [] } [.pull, .cancel, .pull, .pull] .ended
    closed
  have told : watched.world.lines.filter isClosing = [closing] := by
    rw [said]
    exact once
  have last : watched.world.lines.filter isClosing =
      [⟨.info, "reached end of collection",
        [("pages", .count 1), ("total_count", .text "Some(2)")]⟩] := by
    decide +kernel
  have same := List.singleton_inj.mp (told.symm.trans last)
  exact ⟨closed, rfl, rfl, closing, calledOff, closes, told, congrArg Line.fields same⟩

end ResourceWatch.Listing
