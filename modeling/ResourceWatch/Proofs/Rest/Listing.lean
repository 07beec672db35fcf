import ResourceWatch.Proofs.Listing.Course
import ResourceWatch.Proofs.Listing.Pull
import ResourceWatch.Rest
import ResourceWatch.Script.Provider

/-!
Listings of a collection behind an address. A response is a page only when its status is one of
success and its body an envelope that can be decoded; any other says why it is none. A listing over
a link that delivers hands over the items of the pages and ends with the first response that is no
page, which it fails with; only a missing collection at the very first request is an empty one.
-/

namespace ResourceWatch.Rest

open ResourceWatch.Listing

variable {Item : Type}

section Says

variable (collection : Collection) (decodeItem : Json → Except Json.Fault Item)

def Response.Succeeds (response : Response) : Prop :=
  200 ≤ response.status.toNat ∧ response.status.toNat < 300

/-- What a response to a request for a page says: the page, or why there is none. The status decides
before the body is looked at. -/
inductive Says (response : Response) : Except FetchError (Page Item) → Prop where
  | page {body : Json} {page : Page Item} (success : response.Succeeds)
      (readable : Json.parse response.body = .ok body)
      (decodes : Envelope.decode decodeItem body collection.key = .ok page) :
      Says response (.ok page)
  | missing (absent : response.status = 404) : Says response (.error (.notFound collection.base))
  | refused (failure : ¬ response.Succeeds) (present : response.status ≠ 404) :
      Says response (.error (.provider response.status (Text.lossyText response.body)))
  | unreadable {error : Json.Error} (success : response.Succeeds)
      (garbled : Json.parse response.body = .error error) :
      Says response (.error (.decode error.message))
  | misshapen {body : Json} {fault : Json.Fault} (success : response.Succeeds)
      (readable : Json.parse response.body = .ok body)
      (faulty : Envelope.decode decodeItem body collection.key = .error fault) :
      Says response (.error (.decode fault.text))

def Collection.pageOf (response : Response) : Except FetchError (Page Item) := do
  Envelope.fetched decodeItem (← Collection.read response collection.base) collection.key

variable {collection decodeItem} (response : Response)

theorem succeeds_iff : response.isSuccess = true ↔ response.Succeeds := by
  simp [Response.isSuccess, Response.Succeeds]

theorem says_page_of :
    Says collection decodeItem response (collection.pageOf decodeItem response) := by
  unfold Collection.pageOf Collection.read
  by_cases success : response.Succeeds
  · rw [if_pos ((succeeds_iff response).mpr success)]
    cases parsed : Json.parse response.body with
    | error error => exact .unreadable success parsed
    | ok body =>
        show Says collection decodeItem response (Envelope.fetched decodeItem body collection.key)
        cases decoded : Envelope.decode decodeItem body collection.key with
        | error fault =>
            rw [Envelope.fetched_of_fault decoded]
            exact .misshapen success parsed decoded
        | ok page =>
            rw [Envelope.fetched_of_decoded decoded]
            exact .page success parsed decoded
  · rw [if_neg (mt (succeeds_iff response).mp success)]
    by_cases absent : response.status = 404
    · rw [if_pos absent]
      exact .missing absent
    · rw [if_neg absent]
      exact .refused success absent

theorem says_iff {answer : Except FetchError (Page Item)} :
    Says collection decodeItem response answer ↔
      collection.pageOf decodeItem response = answer := by
  constructor
  · intro saying
    unfold Collection.pageOf Collection.read
    cases saying with
    | page success readable decodes =>
        rw [if_pos ((succeeds_iff response).mpr success), readable]
        exact Envelope.fetched_of_decoded decodes
    | missing absent =>
        have failure : response.isSuccess = false := by
          simp [Response.isSuccess, absent]
        simp [failure, absent, bind, Except.bind]
    | refused failure present =>
        have failure : response.isSuccess = false :=
          Bool.eq_false_iff.mpr (mt (succeeds_iff response).mp failure)
        simp [failure, present, bind, Except.bind]
    | unreadable success garbled =>
        rw [if_pos ((succeeds_iff response).mpr success), garbled]
        rfl
    | misshapen success readable faulty =>
        rw [if_pos ((succeeds_iff response).mpr success), readable]
        exact Envelope.fetched_of_fault faulty
  · rintro rfl
    exact says_page_of response

theorem Says.missing_iff {error : FetchError}
    (saying : Says collection decodeItem response (.error error)) :
    error.isNotFound = true ↔ response.status = 404 := by
  have present (success : response.Succeeds) : response.status ≠ 404 := by
    intro absent
    rw [Response.Succeeds, absent] at success
    exact absurd success (by decide)
  cases saying with
  | missing absent => simp [FetchError.isNotFound, absent]
  | refused failure present => simp [FetchError.isNotFound, present]
  | unreadable success garbled => simp [FetchError.isNotFound, present success]
  | misshapen success readable faulty => simp [FetchError.isNotFound, present success]

end Says

section Delivered

variable (collection : Collection) (decodeItem : Json → Except Json.Fault Item)
variable (responses : Nat → Response) (options : Options)

def Collection.call (url : Url) (request : Request) : Call :=
  ⟨url.withParameters request.query, collection.headers⟩

def Collection.replies : Nat → Reply (Page Item) :=
  fun n => { answer := collection.pageOf decodeItem (responses n) }

/-- Over a link that delivers, a collection is the sequence of its responses. -/
theorem pages_imitate {url : Url} (addressed : Url.parse collection.base = .ok url)
    (hosted : url.hasHost = true) :
    Imitates (fun calls requests => calls = requests.map (collection.call url))
      (collection.pageFetcher (Script.responding responses) decodeItem)
      (Script.sequence (collection.replies decodeItem responses)) := by
  have asks (request : Request) :
      collection.pageUrl request = .ok (url.withParameters request.query) := by
    simp only [Collection.pageUrl, addressed, hosted, ↓reduceIte]
  constructor
  · rintro request calls requests rfl
    simp only [Collection.pageFetcher, asks, Collection.get, Script.responding, Script.sequence,
      List.length_map]
    exact ⟨_, rfl⟩
  · rintro request calls requests rfl
    simp only [Collection.pageFetcher, asks, Collection.get, Script.responding, Script.sequence,
      List.map_append, List.map_singleton, Collection.call]

theorem leading_pages (count : Nat) (leading : ∀ n < count, ∃ page : Page Item,
    collection.pageOf decodeItem (responses n) = .ok page) :
    ∃ pages : List (Page Item), pages.length = count ∧
      (∀ n page, pages[n]? = some page → Says collection decodeItem (responses n) (.ok page)) ∧
      pages.flatMap (·.items) = received (collection.replies decodeItem responses) count := by
  induction count with
  | zero =>
      refine ⟨[], rfl, ?_, rfl⟩
      intro n page here
      cases here
  | succ count ih =>
      obtain ⟨pages, counted, say, items⟩ := ih fun n early => leading n (Nat.lt_succ_of_lt early)
      obtain ⟨last, shown⟩ := leading count (Nat.lt_succ_self count)
      refine ⟨pages ++ [last], by simp [counted], ?_, ?_⟩
      · intro n page here
        rcases Nat.lt_trichotomy n count with early | rfl | late
        · rw [List.getElem?_append_left (counted ▸ early)] at here
          exact say n page here
        · rw [← counted, List.getElem?_concat_length] at here
          cases here
          exact shown ▸ says_page_of _
        · rw [List.getElem?_eq_none (by simp [counted]; omega)] at here
          cases here
      · rw [received_succ, ← items, List.flatMap_append, List.flatMap_singleton]
        simp only [Collection.replies, shown, itemsOf]

/-- How a listing stands when pulling stops, by the pages it was given and the requests it made. -/
inductive Concludes (times : Nat) (pages : List (Page Item)) (requests : List Request) :
    Stop → Prop where
  | paused (answered : requests.length = pages.length)
      (enough : times ≤ (pages.flatMap (·.items)).length) : Concludes times pages requests .paused
  | complete {page : Page Item} {request : Request} (answered : requests.length = pages.length)
      (short : (pages.flatMap (·.items)).length < times) (last : pages.getLast? = some page)
      (asked : requests.getLast? = some request)
      (nothing : page.hasMore request.options (pages.flatMap (·.items)).length = false) :
      Concludes times pages requests .ended
  | empty (asked : requests.length = 1) (first : pages = []) (short : 0 < times)
      (absent : (responses 0).status = 404) : Concludes times pages requests .ended
  | failed {source : FetchError} (asked : requests.length = pages.length + 1)
      (short : (pages.flatMap (·.items)).length < times)
      (saying : Says collection decodeItem (responses pages.length) (.error source))
      (later : ¬ (pages = [] ∧ (responses 0).status = 404)) :
      Concludes times pages requests
        (.failed (.fetch (countOf (options.pageNumber.toNat + pages.length)) source))

def LedBy (times fetched : Nat) (requests : List Request) (stop : Stop) : Prop :=
  ∃ pages : List (Page Item),
    (∀ n page, pages[n]? = some page → Says collection decodeItem (responses n) (.ok page)) ∧
      pages.flatMap (·.items) = received (collection.replies decodeItem responses) fetched ∧
      Concludes collection decodeItem responses options times pages requests stop

variable {collection decodeItem responses options}
variable {times fetched : Nat} {stop : Stop} {last : Cursor Item} {after : World (List Request)}

section Reached

variable (reaches :
  Reaches (collection.replies decodeItem responses) options times fetched stop last after)
include reaches

theorem requests_made : after.provider.length = fetched ∧ ∀ n < fetched, ∃ request,
    after.provider[n]? = some request ∧
      request? (collection.replies decodeItem responses) options n = some request := by
  have counted : after.provider.length = fetched := by
    have lengths := congrArg List.length reaches.calls
    simpa using lengths
  refine ⟨counted, ?_⟩
  intro n early
  have inside : n < after.provider.length := counted ▸ early
  refine ⟨after.provider[n], List.getElem?_eq_getElem inside, ?_⟩
  have here := congrArg (·[n]?) reaches.calls
  simpa [inside, early, eq_comm] using here

theorem leading_answered (n : Nat) (early : n + 1 < fetched) : ∃ page : Page Item,
    collection.pageOf decodeItem (responses n) = .ok page := by
  obtain ⟨later, _, asks⟩ := (requests_made reaches).2 (n + 1) early
  obtain ⟨request, _, follows⟩ := Option.bind_eq_some_iff.mp asks
  obtain ⟨page, answered, _⟩ := following_page follows
  exact ⟨page, answered⟩

end Reached

variable {count : Nat}

theorem led_to_page {page : Page Item}
    (answered : collection.pageOf decodeItem (responses count) = .ok page)
    (reaches : Reaches (collection.replies decodeItem responses) options times (count + 1) stop last
      after) :
    LedBy collection decodeItem responses options times (count + 1) after.provider stop := by
  obtain ⟨counted, made⟩ := requests_made reaches
  obtain ⟨request, here, asks⟩ := made count (Nat.lt_succ_self count)
  have leading (n : Nat) (early : n < count + 1) : ∃ page : Page Item,
      collection.pageOf decodeItem (responses n) = .ok page := by
    rcases Nat.lt_succ_iff_lt_or_eq.mp early with before | rfl
    · exact leading_answered reaches n (Nat.succ_lt_succ before)
    · exact ⟨page, answered⟩
  obtain ⟨pages, length, say, items⟩ :=
    leading_pages collection decodeItem responses (count + 1) leading
  refine ⟨pages, say, items, ?_⟩
  rcases reaches.stops with ⟨rfl, enough⟩ | ⟨closed, short, finished, _⟩
  · exact .paused (counted.trans length.symm) (items ▸ enough)
  · have stopped : stop = .ended := by
      rw [closed]
      simp only [failure?, asks, Option.bind_some, Collection.replies, answered, Stop.close]
    have lastPage : pages.getLast? = some page := by
      have inside : count < pages.length := length ▸ Nat.lt_succ_self count
      have shown := say count pages[count] (List.getElem?_eq_getElem inside)
      rw [says_iff, answered] at shown
      rw [List.getLast?_eq_getElem?, length, Nat.add_sub_cancel, List.getElem?_eq_getElem inside,
        ← Except.ok.inj shown]
    have lastRequest : after.provider.getLast? = some request := by
      rw [List.getLast?_eq_getElem?, counted, Nat.add_sub_cancel, here]
    -- The course ends behind a page only if the page has no other behind it.
    have nothing : page.hasMore request.options (pages.flatMap (·.items)).length = false := by
      simp only [request?, asks, Option.bind_some, Collection.replies, answered, following?]
        at finished
      split at finished
      · cases finished
      · rename_i noMore
        rw [items]
        exact Bool.eq_false_iff.mpr noMore
    rw [stopped]
    exact .complete (counted.trans length.symm) (items ▸ short) lastPage lastRequest nothing

theorem led_to_failure {source : FetchError}
    (answered : collection.pageOf decodeItem (responses count) = .error source)
    (reaches : Reaches (collection.replies decodeItem responses) options times (count + 1) stop last
      after) :
    LedBy collection decodeItem responses options times (count + 1) after.provider stop := by
  obtain ⟨counted, made⟩ := requests_made reaches
  obtain ⟨request, _, asks⟩ := made count (Nat.lt_succ_self count)
  obtain ⟨pages, length, say, items⟩ := leading_pages collection decodeItem responses count
    fun n early => leading_answered reaches n (Nat.succ_lt_succ early)
  have barren : pages.flatMap (·.items) =
      received (collection.replies decodeItem responses) (count + 1) := by
    rw [received_succ, items]
    simp only [Collection.replies, answered, itemsOf, List.append_nil]
  refine ⟨pages, say, barren, ?_⟩
  have short := reaches.needed count (Nat.lt_succ_self count)
  rw [← items] at short
  have asked : after.provider.length = pages.length + 1 := counted.trans (congrArg _ length.symm)
  have saying : Says collection decodeItem (responses pages.length) (.error source) := by
    rw [length]
    exact (says_iff _).mpr answered
  -- A missing collection is told by its status, and counts as empty at the first request alone.
  have first_missing : count = 0 ∧ source.isNotFound = true ↔
      pages = [] ∧ (responses 0).status = 404 := by
    rw [← length, List.length_eq_zero_iff]
    constructor
    · rintro ⟨rfl, missing⟩
      exact ⟨rfl, saying.missing_iff.mp missing⟩
    · rintro ⟨rfl, absent⟩
      exact ⟨rfl, saying.missing_iff.mpr absent⟩
  rcases reaches.stops with ⟨_, enough⟩ | ⟨closed, _⟩
  · rw [← barren] at enough
    exact absurd short (Nat.not_lt.mpr enough)
  · rw [closed]
    simp only [failure?, asks, Option.bind_some, Collection.replies, answered, first_missing]
    by_cases missing : pages = [] ∧ (responses 0).status = 404
    · rw [if_pos missing]
      have first : after.provider.length = 1 := by rw [asked, missing.1]; rfl
      exact .empty first missing.1 (Nat.zero_lt_of_lt short) missing.2
    · rw [if_neg missing, request_number _ _ asks, ← length]
      exact .failed asked short saying missing

theorem reaches_led
    (reaches : Reaches (collection.replies decodeItem responses) options times fetched stop last
      after) :
    LedBy collection decodeItem responses options times fetched after.provider stop := by
  cases fetched with
  | zero =>
      refine ⟨[], ?_, rfl, ?_⟩
      · intro n page here
        cases here
      · rcases reaches.stops with ⟨rfl, enough⟩ | ⟨_, _, finished, _⟩
        · exact .paused (requests_made reaches).1 enough
        · cases finished
  | succ count =>
      cases answered : collection.pageOf decodeItem (responses count) with
      | ok page => exact led_to_page answered reaches
      | error source => exact led_to_failure answered reaches

end Delivered

/-- Listing a collection over a link that delivers: the items handed over are those of the leading
pages, in order, by one request for each. The first response that is no page ends the listing, with
nothing more to give and no request behind it. The listing fails with what that response says,
except that a missing collection at the very first request is an empty one. -/
theorem first_failure_ends_listing (collection : Collection)
    (decodeItem : Json → Except Json.Fault Item) (responses : Nat → Response) (options : Options)
    {url : Url} (addressed : Url.parse collection.base = .ok url) (hosted : url.hasHost = true)
    (heeds : Bool) (world : World (List Call)) (uncalled : world.provider = [])
    (uncancelled : heeds = true → world.token = {}) (times : Nat) :
    let fetcher := collection.pageFetcher (Script.responding responses) decodeItem
    ∃ (pages : List (Page Item)) (requests : List Request) (stop : Stop) (last : Cursor Item)
      (after : World (List Call)),
      Cursor.pulls fetcher times (.start options heeds) world #[] =
        (((pages.flatMap (·.items)).take times).toArray, stop, last, after) ∧
      after.provider = requests.map (collection.call url) ∧
      (∀ n page, pages[n]? = some page → Says collection decodeItem (responses n) (.ok page)) ∧
      (∀ n request, requests[n]? = some request →
        request.pageNumber = countOf (options.pageNumber.toNat + n)) ∧
      Concludes collection decodeItem responses options times pages requests stop ∧
      (stop ≠ .paused → ∀ more taken,
        Cursor.pulls fetcher (more + 1) last after taken = (taken, .ended, last, after)) := by
  intro fetcher
  let replies := collection.replies decodeItem responses
  let told : World (List Request) := { provider := [], now := world.now, token := world.token }
  have imitates := pages_imitate collection decodeItem responses addressed hosted
  have beside : World.Beside (fun calls requests => calls = requests.map (collection.call url))
      (.start options heeds : Cursor Item).heedsToken world told :=
    ⟨uncalled, fun _ => rfl, fun _ => rfl⟩
  -- The course of a listing is known for a provider that replies by call number, and this one does
  -- as that one does, but for its log.
  obtain ⟨fetched, stop, last, toldAfter, _, toldPulls, reaches⟩ :=
    (start_stands replies options heeds).pulls times 0 0 _ told #[] (Nat.le_refl 0)
      (fun n early => absurd early (Nat.not_lt_zero n))
      (fun heeded => ⟨uncancelled heeded, fun _ => rfl⟩)
  rw [Nat.zero_add] at reaches
  obtain ⟨pages, say, items, concludes⟩ := reaches_led reaches
  obtain ⟨_, _, _, after, _, pulls, samePulls, later⟩ := pulls_imitated imitates times _ #[] beside
  obtain ⟨rfl, rfl, rfl, rfl⟩ := toldPulls.symm.trans samePulls
  refine ⟨pages, toldAfter.provider, stop, last, after, ?_, later.providers, say, ?_, concludes, ?_⟩
  · rw [items]
    simpa using pulls
  · intro n request here
    have early : n < fetched := by
      rw [← (requests_made reaches).1]
      exact (List.getElem?_eq_some_iff.mp here).1
    obtain ⟨made, there, asks⟩ := (requests_made reaches).2 n early
    rw [Option.some.inj (here.symm.trans there)]
    exact request_number _ _ asks
  · intro going more taken
    rcases reaches.stops with ⟨paused, _⟩ | ⟨_, _, _, spent, handed⟩
    · exact absurd paused going
    · exact pulls_over fetcher after handed spent more taken

def servers : Collection := .ofAddress "http://[::1]/servers" "server"

def serversUrl : Url :=
  { scheme := "http"
    authority := some { host := some (.grouped [0, 0, 0, 0, 0, 0, 0, 1]) }
    path := .segments ["servers"] }

def decodeName : Json → Except Json.Fault String
  | .string name => .ok name
  | other => .error (.invalidType other.found "a string")

def goneBehind : Nat → Response
  | 0 => ⟨200, Text.octets "\x7b\"server\":[\"a\"],\"pageSize\":1\x7d"⟩
  | _ => ⟨404, []⟩

theorem gone_behind_told :
    servers.pageOf decodeName (goneBehind 0) = .ok ⟨["a"], 1, 1, none, none⟩ ∧
      ∀ n, servers.pageOf decodeName (goneBehind (n + 1)) = .error (.notFound servers.base) := by
  constructor
  · have told : (servers.pageOf decodeName (goneBehind 0)).toOption =
        some ⟨["a"], 1, 1, none, none⟩ := by decide +kernel
    cases said : servers.pageOf decodeName (goneBehind 0) with
    | error source => rw [said] at told; cases told
    | ok page => rw [said] at told; cases told; rfl
  · intro n
    rfl

/-- The server of the first page stays handed over; the missing page behind it is a failure, and the
third request is never made. -/
theorem missing_behind_page_fails :
    Url.parse servers.base = .ok serversUrl ∧ serversUrl.hasHost = true ∧ ∃ last after,
      Cursor.pulls (servers.pageFetcher (Script.responding goneBehind) decodeName) 3
          (.start .initial) { provider := [] } #[] =
        (#["a"], .failed (.fetch 2 (.notFound "http://[::1]/servers")), last, after) ∧
      after.provider.length = 2 := by
  have addressed : Url.parse servers.base = .ok serversUrl := rfl
  have hosted : serversUrl.hasHost = true := rfl
  refine ⟨addressed, hosted, ?_⟩
  obtain ⟨first, later⟩ := gone_behind_told
  obtain ⟨pages, requests, stop, last, after, pulls, calls, say, _, concludes, _⟩ :=
    first_failure_ends_listing servers decodeName goneBehind .initial addressed hosted true
      { provider := [] } rfl (fun _ => rfl) 3
  have led : pages = [] ∨ pages = [⟨["a"], 1, 1, none, none⟩] := by
    match pages, say with
    | [], _ => exact Or.inl rfl
    | [page], say =>
        have said := (says_iff _).mp (say 0 page rfl)
        rw [first] at said
        cases said
        exact Or.inr rfl
    | _ :: second :: _, say =>
        have said := (says_iff _).mp (say 1 second rfl)
        rw [later] at said
        cases said
  cases concludes with
  | paused _ enough => rcases led with rfl | rfl <;> exact absurd enough (by decide)
  | complete _ _ ends _ nothing =>
      rcases led with rfl | rfl
      · cases ends
      · cases ends
        cases nothing
  | empty _ _ _ absent => exact absurd absent (by decide)
  | failed asked _ saying _ =>
      have said := (says_iff _).mp saying
      rcases led with rfl | rfl
      · rw [List.length_nil, first] at said
        cases said
      · rw [List.length_singleton, later] at said
        cases said
        refine ⟨last, after, pulls, ?_⟩
        rw [calls, List.length_map, asked]
        rfl

end ResourceWatch.Rest
