import ResourceWatch.Proofs.Url.Below
import ResourceWatch.Proofs.Url.Percent
import ResourceWatch.Rest

/-!
The addresses of the items of a collection. An item that has an address one segment below that of
the collection shares it with no other such item, and with the collection itself only where both end
with a slash.

The query of a request for a page. Each of its parameters stands there once or not at all, in a fixed
order, and what is not set has none, so the request can be read back by the names. Different requests
have different queries and, at one collection, different addresses.
-/

namespace ResourceWatch.Rest

theorem item_url_of_segments (collection : Collection) {url : Url} {names : List String}
    (addressed : Url.parse collection.base = .ok url) (path : url.path = .segments names)
    (id : String) : collection.itemUrl id = .ok (url.itemOf names id) := by
  simp only [Collection.itemUrl, addressed, Url.item_of_segments path]

theorem segments_of_item_url {collection : Collection} {id : String} {item : Url}
    (accepted : collection.itemUrl id = .ok item) :
    ∃ url names, Url.parse collection.base = .ok url ∧ url.path = .segments names := by
  unfold Collection.itemUrl at accepted
  split at accepted
  · cases accepted
  · rename_i url addressed
    cases path : url.path with
    | segments names => exact ⟨url, names, addressed, path⟩
    | whole text =>
        simp only [Url.item?, path] at accepted
        cases accepted

/-- Every identifier leads to an address that differs from that of its collection in the path only.
It is one segment below just when the identifier is addressable, and then no other addressable
identifier leads to it. -/
theorem addressable_items_apart {collection : Collection} {sample : String} {first : Url}
    (accepted : collection.itemUrl sample = .ok first) :
    ∃ (url : Url) (names : List String) (item : String → Url),
      Url.parse collection.base = .ok url ∧ url.path = .segments names ∧
      (∀ id, collection.itemUrl id = .ok (item id) ∧
        item id = { url with path := (item id).path }) ∧
      (∀ id, Url.IsOneBelow url names id (item id) ↔ Url.Addressable url.scheme names id) ∧
      (∀ id other, Url.Addressable url.scheme names id → Url.Addressable url.scheme names other →
        (item id).text = (item other).text → id = other) ∧
      ∀ id, Url.Addressable url.scheme names id →
        ((item id).text = url.text ↔ id = "" ∧ names.getLast? = some "") := by
  obtain ⟨url, names, addressed, path⟩ := segments_of_item_url accepted
  refine ⟨url, names, url.itemOf names, addressed, path, ?_, Url.one_below_iff, ?_, ?_⟩
  · intro id
    exact ⟨item_url_of_segments collection addressed path id, rfl⟩
  · intro id other addressable otherAddressable same
    exact ((Url.one_below_iff id).mpr addressable).id_inj
      ((Url.one_below_iff other).mpr otherAddressable) same
  · intro id addressable
    exact ((Url.one_below_iff id).mpr addressable).itself_iff path

def nodes : Collection := .ofAddress "http://[::1]/node" "node"

def nodesUrl : Url :=
  { scheme := "http"
    authority := some { host := some (.grouped [0, 0, 0, 0, 0, 0, 0, 1]) }
    path := .segments ["node"] }

theorem slashed_node_below :
    nodes.itemUrl "west" = .ok (nodesUrl.itemOf ["node"] "west") ∧
      ∃ item, nodes.itemUrl "west/1%" = .ok item ∧
        Url.IsOneBelow nodesUrl ["node"] "west/1%" item ∧ item.text ≠ nodesUrl.text := by
  have addressed : Url.parse nodes.base = .ok nodesUrl := rfl
  have accepted := item_url_of_segments nodes addressed rfl "west"
  obtain ⟨url, names, item, parsed, path, leads, below, _, itself⟩ :=
    addressable_items_apart accepted
  cases parsed.symm.trans addressed
  cases path
  have addressable : Url.Addressable nodesUrl.scheme ["node"] "west/1%" := by
    refine ⟨by decide, by simp [Url.isBreak], by decide, ?_⟩
    intro file
    simp [nodesUrl] at file
  refine ⟨accepted, item "west/1%", (leads _).1, (below _).mpr addressable, ?_⟩
  intro same
  exact absurd ((itself _ addressable).mp same).1 (by decide)

/-- A tab in an identifier gets lost: two identifiers lead to one address. -/
theorem tabbed_node_shares_address :
    ∃ item, nodes.itemUrl "a\tb" = .ok item ∧ nodes.itemUrl "ab" = .ok item ∧
      ¬Url.IsOneBelow nodesUrl ["node"] "a\tb" item := by
  have addressed : Url.parse nodes.base = .ok nodesUrl := rfl
  have path : nodesUrl.path = .segments ["node"] := rfl
  have same : nodesUrl.itemOf ["node"] "a\tb" = nodesUrl.itemOf ["node"] "ab" := by decide
  refine ⟨nodesUrl.itemOf ["node"] "ab", ?_, item_url_of_segments nodes addressed path "ab", ?_⟩
  · rw [← same]
    exact item_url_of_segments nodes addressed path "a\tb"
  · rw [← same, Url.one_below_iff]
    intro addressable
    exact absurd (addressable.unbroken '\t' (by decide)) (by decide)

end ResourceWatch.Rest

namespace ResourceWatch.Listing

def wordOf (digits : String) : UInt32 := UInt32.ofNat (Nat.ofDigitChars 10 digits.toList 0)

theorem word_of_written (word : UInt32) : wordOf (toString word.toNat) = word := by
  have digits : (toString word.toNat).toList = Nat.toDigits 10 word.toNat := String.toList_ofList
  rw [wordOf, digits, Nat.ofDigitChars_ten_toDigits, UInt32.ofNat_toNat]

section Optional

variable {Value : Type} (value : Option Value) (write : Value → String)

theorem lookup_optional (name key : String) :
    (value.map fun value => (key, write value)).toList.lookup name =
      if name = key then value.map write else none := by
  cases value with
  | none => simp
  | some value =>
      by_cases same : name = key
      · simp [same]
      · have apart : (name == key) = false := beq_false_of_ne same
        simp [same, List.lookup_cons, apart]

theorem optional_name (key : String) :
    ((value.map fun value => (key, write value)).toList.map Prod.fst).Sublist [key] := by
  cases value with
  | none => exact List.nil_sublist _
  | some value => exact List.Sublist.refl _

end Optional

namespace Request

theorem query_names (request : Request) :
    (request.query.map Prod.fst).Sublist ["pageNumber", "pageSize", "orderBy", "marker"] := by
  have size := optional_name request.options.pageSize (fun size => toString size.toNat) "pageSize"
  have order := optional_name request.options.orderBy id "orderBy"
  have marker := optional_name request.marker Marker.token "marker"
  simp only [query, Options.query, List.map_append]
  exact (((List.Sublist.refl ["pageNumber"]).append size).append order).append marker

theorem query_lookup (request : Request) (name : String) :
    request.query.lookup name =
      if name = "pageNumber" then some (toString request.pageNumber.toNat)
      else if name = "pageSize" then request.options.pageSize.map fun size => toString size.toNat
      else if name = "orderBy" then request.options.orderBy
      else if name = "marker" then request.marker.map Marker.token
      else none := by
  have number : List.lookup name [("pageNumber", toString request.options.pageNumber.toNat)] =
      if name = "pageNumber" then some (toString request.options.pageNumber.toNat) else none :=
    lookup_optional (some request.options.pageNumber) (fun word => toString word.toNat) name
      "pageNumber"
  have order : (request.options.orderBy.map fun field => ("orderBy", field)).toList.lookup name =
      if name = "orderBy" then request.options.orderBy else none := by
    rw [lookup_optional request.options.orderBy (fun field => field), Option.map_id']
  simp only [query, Options.query, List.lookup_append, number, order, lookup_optional]
  by_cases isNumber : name = "pageNumber"
  · simp [isNumber, Request.pageNumber]
  by_cases isSize : name = "pageSize"
  · simp [isSize]
  by_cases isOrder : name = "orderBy"
  · simp [isOrder]
  · simp [isNumber, isSize, isOrder]

theorem query_read_back (request : Request) :
    (request.query.lookup "pageNumber").map wordOf = some request.options.pageNumber ∧
      (request.query.lookup "pageSize").map wordOf = request.options.pageSize ∧
      request.query.lookup "orderBy" = request.options.orderBy ∧
      (request.query.lookup "marker").map Marker.mk = request.marker := by
  have words (word : Option UInt32) :
      (word.map fun word => toString word.toNat).map wordOf = word := by
    cases word <;> simp only [Option.map_none, Option.map_some, word_of_written]
  refine ⟨?_, ?_, ?_, ?_⟩
  · rw [query_lookup]
    exact words (some request.options.pageNumber)
  · rw [query_lookup]
    exact words request.options.pageSize
  · rw [query_lookup]
    rfl
  · rw [query_lookup]
    cases request.marker <;> rfl

theorem query_inj {request other : Request} (same : request.query = other.query) :
    request = other := by
  obtain ⟨number, size, order, marker⟩ := request.query_read_back
  obtain ⟨otherNumber, otherSize, otherOrder, otherMarker⟩ := other.query_read_back
  rw [same] at number size order marker
  obtain ⟨⟨_, _, _⟩, _⟩ := request
  obtain ⟨⟨_, _, _⟩, _⟩ := other
  cases Option.some.inj (number.symm.trans otherNumber)
  cases size.symm.trans otherSize
  cases order.symm.trans otherOrder
  cases marker.symm.trans otherMarker
  rfl

theorem query_ne_nil (request : Request) : request.query ≠ [] := by
  simp [query, Options.query]

end Request

end ResourceWatch.Listing

namespace ResourceWatch.Rest

open Listing (Request Marker wordOf)

theorem Collection.page_url_extends {collection : Collection} {request : Request} {url : Url}
    (asked : collection.pageUrl request = .ok url) :
    ∃ base, Url.parse collection.base = .ok base ∧ url = base.withParameters request.query := by
  unfold Collection.pageUrl at asked
  split at asked
  · cases asked
  · rename_i base parsed
    split at asked
    · cases asked
      exact ⟨base, parsed, rfl⟩
    · cases asked

theorem Collection.page_url_inj {collection : Collection} {request other : Request} {url : Url}
    (asked : collection.pageUrl request = .ok url) (also : collection.pageUrl other = .ok url) :
    request = other := by
  obtain ⟨base, parsed, same⟩ := page_url_extends asked
  obtain ⟨again, parsedAgain, sameAgain⟩ := page_url_extends also
  cases Except.ok.inj (parsed.symm.trans parsedAgain)
  have forms := Url.with_parameters_form (same.symm.trans sameAgain)
  exact Request.query_inj (Url.form_inj request.query_ne_nil other.query_ne_nil forms)

/-- The parameters of a request stand in its query in a fixed order, each once at most, and say what
is set and what is not. So requests with one query are one request, and so are requests with one
address at a collection, whatever their texts look like. -/
theorem query_determines_request (request : Request) :
    (request.query.map Prod.fst).Sublist ["pageNumber", "pageSize", "orderBy", "marker"] ∧
    ((request.query.lookup "pageNumber").map wordOf = some request.options.pageNumber ∧
      (request.query.lookup "pageSize").map wordOf = request.options.pageSize ∧
      request.query.lookup "orderBy" = request.options.orderBy ∧
      (request.query.lookup "marker").map Marker.mk = request.marker) ∧
    ∀ other : Request, (request.query = other.query → request = other) ∧
      ∀ (collection : Collection) (url : Url), collection.pageUrl request = .ok url →
        collection.pageUrl other = .ok url → request = other :=
  ⟨request.query_names, request.query_read_back, fun _ => ⟨Request.query_inj, fun _ _ asked also =>
    Collection.page_url_inj asked also⟩⟩

/-- An ordering that is spelled like an ordering and a marker is told apart from the two. -/
theorem disguised_marker_told_apart :
    let disguised : Request := ⟨⟨1, some 0, some "name&marker=x"⟩, none⟩
    let marked : Request := ⟨⟨1, some 0, some "name"⟩, some ⟨"x"⟩⟩
    disguised.query ≠ marked.query ∧ disguised.query.lookup "marker" = none ∧
      ∃ url, nodes.pageUrl disguised = .ok url ∧ nodes.pageUrl marked ≠ .ok url := by
  intro disguised marked
  obtain ⟨_, ⟨_, _, _, unmarked⟩, apart⟩ := query_determines_request disguised
  have differ : disguised ≠ marked := by decide
  have addressed : Url.parse nodes.base = .ok nodesUrl := rfl
  have asked : nodes.pageUrl disguised = .ok (nodesUrl.withParameters disguised.query) := by
    rw [Collection.pageUrl, addressed]
    rfl
  refine ⟨fun same => ?_, Option.map_eq_none_iff.mp unmarked, _, asked, fun also => ?_⟩
  · exact differ ((apart marked).1 same)
  · exact differ ((apart marked).2 nodes _ asked also)

end ResourceWatch.Rest
