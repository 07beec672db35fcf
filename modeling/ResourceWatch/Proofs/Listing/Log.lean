import ResourceWatch.Proofs.Listing.Pull
import ResourceWatch.Proofs.Surroundings
import ResourceWatch.Script.Run

/-!
What a listing says in the log. It announces each request, says of each page how many items it has,
and once what it came to. What one pull says follows from what it hears.
-/

namespace ResourceWatch.Listing

open Event (Line line)
open Script (Heard)

variable {Item Provider : Type}

section Lines

def askingLine (request : Request) : Line :=
  ⟨.debug, "fetching page", [("page_number", .count request.pageNumber.toNat),
    ("marker", .text (Event.markerText request.marker))]⟩

def fetchedLine (request : Request) (page : Page Item) : Line :=
  ⟨.debug, "page fetched", [("page_number", .count request.pageNumber.toNat),
    ("items", .count page.items.length)]⟩

def endLine (pages : UInt32) (page : Page Item) : Line :=
  ⟨.info, "reached end of collection", [("pages", .count pages.toNat),
    ("total_count", .text (Event.totalText page.totalCount))]⟩

def missingLine (page : UInt32) (source : FetchError) : Line :=
  ⟨.warn, "collection not found; treating as empty", [("page_number", .count page.toNat),
    ("error", .text source.message)]⟩

def failedLine (page : UInt32) (source : FetchError) : Line :=
  ⟨.warn, "page fetch failed", [("page_number", .count page.toNat),
    ("error", .text source.message)]⟩

def calledOffLine (page : UInt32) : Line :=
  ⟨.warn, "pagination cancelled", [("page_number", .count page.toNat)]⟩

def isClosing (said : Line) : Bool :=
  ["reached end of collection", "collection not found; treating as empty", "page fetch failed",
    "pagination cancelled"].contains said.message

def isFetched (said : Line) : Bool := said.message == "page fetched"

def fetchedLines (heard : Heard Item) : List Line :=
  (heard.page?.map (fetchedLine heard.request)).toList

/-- The lines about one page. A closing line stands before the one that counts the items. -/
def heardLines (closing : List Line) (heard : Heard Item) : List Line :=
  askingLine heard.request :: heard.reply.notes.map line ++ closing ++ fetchedLines heard

/-- The lines of a listing that is closed: by the last answer that it heard, or by a request that
was called off. -/
def tale (heard : List (Heard Item)) (closing : Line) : Option Request → List Line
  | none => heard.dropLast.flatMap (heardLines []) ++
      heard.getLast?.toList.flatMap (heardLines [closing])
  | some request => heard.flatMap (heardLines []) ++ [askingLine request, closing]

/-- What the first pull gives that gives no item, and the line that says why, by what was heard and
the request that was called off. -/
inductive Closes : List (Heard Item) → Pull Item → Line → Option Request → Prop where
  | complete {earlier : List (Heard Item)} {last : Heard Item} {page : Page Item}
      (told : ∀ heard ∈ earlier, heard.page?.isSome) (shown : last.page? = some page) :
      Closes (earlier ++ [last]) .ended
        (endLine (ResourceWatch.countOf (earlier.length + 1)) page) none
  | missing {only : Heard Item} {source : FetchError}
      (answered : only.reply.answer = .error source) (absent : source.isNotFound = true) :
      Closes [only] .ended (missingLine only.request.pageNumber source) none
  | failed {earlier : List (Heard Item)} {last : Heard Item} {source : FetchError}
      (told : ∀ heard ∈ earlier, heard.page?.isSome) (answered : last.reply.answer = .error source)
      (present : earlier = [] → source.isNotFound = false) :
      Closes (earlier ++ [last]) (.failed (.fetch last.request.pageNumber source))
        (failedLine last.request.pageNumber source) none
  | calledOff {heard : List (Heard Item)} (request : Request)
      (told : ∀ page ∈ heard, page.page?.isSome) :
      Closes heard (.failed (.cancelled request.pageNumber)) (calledOffLine request.pageNumber)
        (some request)

theorem tale_behind (earlier : List (Heard Item)) (last : Heard Item) (closing : Line) :
    tale (earlier ++ [last]) closing none =
      earlier.flatMap (heardLines []) ++ heardLines [closing] last := by
  simp [tale]

end Lines

section Pull

inductive Adds (cursor : Cursor Item) :
    Pull Item → Cursor Item → Option (Heard Item) → List Line → Prop where
  | handed {value : Item} {rest : List Item} (left : cursor.buffered = value :: rest) :
      Adds cursor (.item value) { cursor with buffered := rest } none []
  | finished (handed : cursor.buffered = []) (spent : cursor.next = none) :
      Adds cursor .ended cursor none []
  | calledOff {request : Request} (handed : cursor.buffered = [])
      (asked : cursor.next = some request) :
      Adds cursor (.failed (.cancelled request.pageNumber)) cursor.closed none
        [askingLine request, calledOffLine request.pageNumber]
  | page (heard : Heard Item) (page : Page Item) (handed : cursor.buffered = [])
      (asked : cursor.next = some heard.request) (shown : heard.page? = some page) :
      Adds cursor (cursor.turn heard.request (.ok page)).1
        (cursor.turn heard.request (.ok page)).2 (some heard)
        (heardLines (if (cursor.behind heard.request page).next.isSome then []
          else [endLine (nextCount cursor.fetchedPages) page]) heard)
  | missing (heard : Heard Item) (source : FetchError) (handed : cursor.buffered = [])
      (asked : cursor.next = some heard.request) (answered : heard.reply.answer = .error source)
      (first : cursor.fetchedPages = 0) (absent : source.isNotFound = true) :
      Adds cursor .ended cursor.closed (some heard)
        (heardLines [missingLine heard.request.pageNumber source] heard)
  | failed (heard : Heard Item) (source : FetchError) (handed : cursor.buffered = [])
      (asked : cursor.next = some heard.request) (answered : heard.reply.answer = .error source)
      (present : cursor.fetchedPages = 0 → source.isNotFound = false) :
      Adds cursor (.failed (.fetch heard.request.pageNumber source)) cursor.closed (some heard)
        (heardLines [failedLine heard.request.pageNumber source] heard)

theorem heard_lines_of_error {heard : Heard Item} {source : FetchError}
    (answered : heard.reply.answer = .error source) (closing : List Line) :
    heardLines closing heard =
      askingLine heard.request :: heard.reply.notes.map line ++ closing := by
  simp [heardLines, fetchedLines, Heard.page?, answered, Except.toOption]

theorem heard_adds (cursor : Cursor Item) (heard : Heard Item) (handed : cursor.buffered = [])
    (asked : cursor.next = some heard.request) :
    Adds cursor (cursor.turn heard.request heard.reply.answer).1
      (cursor.turn heard.request heard.reply.answer).2 (some heard)
      (askingLine heard.request :: heard.reply.notes.map line ++
        (cursor.remarks heard.request heard.reply.answer).map line) := by
  cases answered : heard.reply.answer with
  | ok page =>
      have shown : heard.page? = some page := by rw [Heard.page?, answered]; rfl
      have lines : askingLine heard.request :: heard.reply.notes.map line ++
          (cursor.remarks heard.request (.ok page)).map line =
          heardLines (if (cursor.behind heard.request page).next.isSome then []
            else [endLine (nextCount cursor.fetchedPages) page]) heard := by
        simp only [Cursor.remarks, heardLines, fetchedLines, shown]
        split
        · simp [line, fetchedLine, Event.level, Event.message, Event.fields, Event.ofCount]
        · simp [line, fetchedLine, endLine, Event.level, Event.message, Event.fields,
            Event.ofCount, Cursor.behind]
      rw [lines]
      exact .page heard page handed asked shown
  | error source =>
      simp only [Cursor.turn, Cursor.remarks]
      by_cases missing : cursor.fetchedPages = 0 ∧ source.isNotFound = true
      · rw [if_pos missing, if_pos missing]
        have adds := Adds.missing heard source handed asked answered missing.1 missing.2
        rw [heard_lines_of_error answered] at adds
        exact adds
      · rw [if_neg missing, if_neg missing]
        have present (first : cursor.fetchedPages = 0) : source.isNotFound = false :=
          Bool.eq_false_iff.mpr fun absent => missing ⟨first, absent⟩
        have adds := Adds.failed heard source handed asked answered present
        rw [heard_lines_of_error answered] at adds
        exact adds

theorem pull_adds (fetcher : Fetcher Provider Request (Page Item)) (cursor : Cursor Item)
    (world : World Provider) :
    let pulled := cursor.pull fetcher world
    ∃ added, pulled.2.2.lines = world.lines ++ added ∧
      Adds cursor pulled.1 pulled.2.1 (Script.hearing? fetcher cursor world) added := by
  intro pulled
  cases left : cursor.buffered with
  | cons value rest =>
      simp only [pulled, pull_buffered _ world left, Script.hearing?, left]
      exact ⟨[], (List.append_nil _).symm, .handed left⟩
  | nil =>
      cases asked : cursor.next with
      | none =>
          simp only [pulled, pull_over _ world left asked, Script.hearing?, left, asked]
          exact ⟨[], (List.append_nil _).symm, .finished left asked⟩
      | some request =>
          let announced := world.record (.fetchingPage request.pageNumber request.marker)
          have heard := world.fetch_record_answer
            (.fetchingPage request.pageNumber request.marker) fetcher request cursor.heedsToken
          simp only [Script.hearing?, left, asked, ← heard]
          -- A token that has fired lets the request be announced, and no call be made.
          by_cases fired : (cursor.heedsToken && world.token.fired) = true
          · rw [Bool.and_eq_true] at fired
            have unheard := announced.fetch_fired fetcher request fired.2
            rw [fired.1, unheard]
            simp only [pulled, pull_fired _ world left asked (Bool.and_eq_true_iff.mpr fired)]
            refine ⟨_, ?_, .calledOff left asked⟩
            simp only [World.lines_record, List.append_assoc]
            rfl
          · have unfired := Bool.eq_false_iff.mpr fired
            have started : announced.lines = world.lines ++ [askingLine request] :=
              world.lines_record _
            have answers := announced.fetch_answer fetcher request cursor.heedsToken
            cases fetched : announced.fetch fetcher request cursor.heedsToken with
            | mk answer after =>
                have said := World.lines_fetch fetched
                rw [started] at said
                rw [fetched] at answers
                rcases answers with rfl | rfl
                · simp only [pulled, pull_cut _ world left asked unfired after fetched]
                  refine ⟨_, ?_, .calledOff left asked⟩
                  rw [World.lines_record, said, List.append_assoc, List.append_assoc]
                  rfl
                · simp only [pulled, pull_heard _ world left asked unfired _ after fetched]
                  refine ⟨_, ?_, heard_adds cursor
                    ⟨request, (fetcher request world.provider).1⟩ left asked⟩
                  rw [World.lines_append, said]
                  simp only [List.append_assoc]
                  rfl

end Pull

end ResourceWatch.Listing
