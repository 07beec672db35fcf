import ResourceWatch.Proofs.Listing.Envelope

/-!
Pages written as envelopes and read again. A page is written as an entry under the collection's name
and one under each of the fixed names, in any order and among any other entries. Entries that are
left out read as what a page has without them.
-/

namespace ResourceWatch.Listing

variable {Item : Type}

def Page.entries (encodeItem : Item → Json) (key : String) (page : Page Item) :
    List (String × Json) :=
  [ (key, .array (page.items.map encodeItem)),
    ("pageNumber", .integer page.pageNumber.toNat),
    ("pageSize", .integer page.pageSize.toNat),
    ("totalCount", .ofOption (fun total => .integer total.toNat) page.totalCount),
    ("nextMarker", .ofOption (fun marker => .string marker.token) page.nextMarker) ]

theorem Page.entries_hold (encodeItem : Item → Json) (key : String) (page : Page Item) :
    let entries := page.entries encodeItem key
    (key, .array (page.items.map encodeItem)) ∈ entries ∧
      ("pageNumber", .integer page.pageNumber.toNat) ∈ entries ∧
      ("pageSize", .integer page.pageSize.toNat) ∈ entries ∧
      ("totalCount", .ofOption (fun total => .integer total.toNat) page.totalCount) ∈ entries ∧
      ("nextMarker", .ofOption (fun marker => .string marker.token) page.nextMarker) ∈ entries := by
  simp [entries]

def Page.shownBy (shown : String → Bool) (key : String) (page : Page Item) : Page Item :=
  { items := if shown key then page.items else []
    pageNumber := if shown "pageNumber" then page.pageNumber else 1
    pageSize := if shown "pageSize" then page.pageSize else 0
    totalCount := if shown "totalCount" then page.totalCount else none
    nextMarker := if shown "nextMarker" then page.nextMarker else none }

/-- Nothing is left out but options that are unset. -/
structure Page.ShownWhole (shown : String → Bool) (key : String) (page : Page Item) : Prop where
  items : shown key = true
  pageNumber : shown "pageNumber" = true
  pageSize : shown "pageSize" = true
  totalCount : page.totalCount.isSome → shown "totalCount" = true
  nextMarker : page.nextMarker.isSome → shown "nextMarker" = true

theorem Page.shown_by_of_whole {shown : String → Bool} {key : String} {page : Page Item}
    (whole : page.ShownWhole shown key) : page.shownBy shown key = page := by
  obtain ⟨items, number, size, total, marker⟩ := page
  have totalShown := whole.totalCount
  have markerShown := whole.nextMarker
  simp only [shownBy, whole.items, whole.pageNumber, whole.pageSize, if_true, Page.mk.injEq,
    true_and]
  constructor
  · cases total with
    | none => simp
    | some count => simp [totalShown rfl]
  · cases marker with
    | none => simp
    | some token => simp [markerShown rfl]

namespace Envelope

def ownNames (key : String) : List String :=
  [key, "pageNumber", "pageSize", "totalCount", "nextMarker"]

/-- Pairs in any order, of which those with names of the envelope's own are the entries of a page
that are shown. -/
def Writes (encodeItem : Item → Json) (key : String) (shown : String → Bool) (page : Page Item)
    (pairs : List (String × Json)) : Prop :=
  ∃ further : List (String × Json), (∀ field ∈ further, field.1 ∉ ownNames key) ∧
    pairs.Perm ((page.entries encodeItem key).filter (shown ·.1) ++ further)

theorem columns_named :
    ∀ column ∈ record.columns, record.columns.find? (·.name == column.name) = some column := by
  intro column known
  simp only [record, List.mem_cons, List.not_mem_nil, or_false] at known
  rcases known with rfl | rfl | rfl | rfl
  · rfl
  · rfl
  · rfl
  · rfl

section Cells

theorem word_cell {name : String} (word fallback : UInt32) (seen : Bool) :
    Json.Column.content ⟨name, .unsigned 32, false, some (.integer fallback.toNat)⟩
        (if seen then some (.integer word.toNat) else none) =
      .ok (some (.integer (if seen then word else fallback).toNat)) := by
  cases seen with
  | false => rfl
  | true => exact congrArg (Except.map some) (Json.Scalar.unsigned_decodes word.toNat_lt)

theorem total_cell {name : String} (total : Option UInt64) (seen : Bool) :
    Json.Column.content ⟨name, .unsigned 64, true, none⟩
        (if seen then some (.ofOption (fun total => .integer total.toNat) total) else none) =
      .ok ((if seen then total else none).map fun total => .integer total.toNat) := by
  cases seen with
  | false => rfl
  | true =>
      cases total with
      | none => rfl
      | some total =>
          exact congrArg (Except.map some) (Json.Scalar.unsigned_decodes total.toNat_lt)

theorem marker_cell {name : String} (marker : Option Marker) (seen : Bool) :
    Json.Column.content ⟨name, .text, true, none⟩
        (if seen then some (.ofOption (fun marker => .string marker.token) marker) else none) =
      .ok ((if seen then marker else none).map fun marker => .text marker.token) := by
  cases seen with
  | false => rfl
  | true => cases marker <;> rfl

end Cells

section Lookup

variable {encodeItem : Item → Json} {key : String} {shown : String → Bool} {page : Page Item}
  {pairs : List (String × Json)}
  (own : key ∉ ["pageNumber", "pageSize", "totalCount", "nextMarker"])
  (writes : Writes encodeItem key shown page pairs)

include own

theorem own_names_apart : (ownNames key).Nodup := List.nodup_cons.mpr ⟨own, by decide⟩

include writes

theorem pair_iff {name : String} {value : Json}
    (entry : (name, value) ∈ page.entries encodeItem key) (other : Json) :
    (name, other) ∈ pairs ↔ other = value ∧ shown name = true := by
  obtain ⟨further, foreign, order⟩ := writes
  have named : name ∈ (page.entries encodeItem key).map (·.1) := List.mem_map.mpr ⟨_, entry, rfl⟩
  rw [order.mem_iff, List.mem_append, List.mem_filter]
  constructor
  · rintro (⟨again, seen⟩ | behind)
    · have apart : ((page.entries encodeItem key).map (·.1)).Nodup := own_names_apart own
      exact ⟨Fields.value_unique apart entry again, seen⟩
    · exact absurd named (foreign _ behind)
  · rintro ⟨rfl, seen⟩
    exact .inl ⟨entry, seen⟩

theorem get_entry {name : String} {value : Json}
    (entry : (name, value) ∈ page.entries encodeItem key) :
    (Fields.ofList pairs).get? name = if shown name then some value else none := by
  rw [Fields.get_of_list]
  split
  · rename_i seen
    apply Fields.get_of_only
    · exact List.mem_reverse.mpr ((pair_iff own writes entry value).mpr ⟨rfl, seen⟩)
    · intro other inside
      exact ((pair_iff own writes entry other).mp (List.mem_reverse.mp inside)).1
  · rename_i hidden
    rw [Fields.get_none_iff]
    intro other inside
    exact hidden ((pair_iff own writes entry other).mp (List.mem_reverse.mp inside)).2

theorem written_describes : Describes (Fields.ofList pairs) := by
  have written {name : String} {value other : Json}
      (entry : (name, value) ∈ page.entries encodeItem key)
      (inside : (name, other) ∈ Fields.ofList pairs) : other = value :=
    ((pair_iff own writes entry other).mp (Fields.mem_of_mem_of_list inside)).1
  obtain ⟨_, number, size, total, marker⟩ := page.entries_hold encodeItem key
  constructor
  · intro value inside
    rw [written number inside]
    exact ⟨_, page.pageNumber.toNat_lt, rfl⟩
  · intro value inside
    rw [written size inside]
    exact ⟨_, page.pageSize.toNat_lt, rfl⟩
  · intro value inside
    rw [written total inside]
    cases page.totalCount with
    | none => exact .inl rfl
    | some total => exact .inr ⟨_, total.toNat_lt, rfl⟩
  · intro value inside
    rw [written marker inside]
    cases page.nextMarker with
    | none => exact .inl rfl
    | some marker => exact .inr ⟨_, rfl⟩

theorem record_reads :
    record.decode (.object (Fields.ofList pairs)) =
      .ok [some (.integer (page.shownBy shown key).pageNumber.toNat),
        some (.integer (page.shownBy shown key).pageSize.toNat),
        (page.shownBy shown key).totalCount.map fun total => .integer total.toNat,
        (page.shownBy shown key).nextMarker.map fun marker => .text marker.token] := by
  obtain ⟨_, number, size, total, marker⟩ := page.entries_hold encodeItem key
  have fits := (fits_columns_iff _).mpr (written_describes own writes)
  have numbered : Json.Column.content ⟨"pageNumber", .unsigned 32, false, some (.integer 1)⟩ _ = _ :=
    word_cell page.pageNumber 1 (shown "pageNumber")
  have sized : Json.Column.content ⟨"pageSize", .unsigned 32, false, some (.integer 0)⟩ _ = _ :=
    word_cell page.pageSize 0 (shown "pageSize")
  rw [record.decode_fitting_object columns_named fits]
  simp only [record, List.mapM_cons, List.mapM_nil, get_entry own writes number,
    get_entry own writes size, get_entry own writes total, get_entry own writes marker,
    numbered, sized, total_cell, marker_cell]
  rfl

theorem items_read {decodeItem : Json → Except Json.Fault Item}
    (faithful : ∀ item ∈ page.items, decodeItem (encodeItem item) = .ok item) :
    itemsUnder decodeItem ((Fields.ofList pairs).get? key) =
      .ok (page.shownBy shown key).items := by
  obtain ⟨items, _⟩ := page.entries_hold encodeItem key
  rw [get_entry own writes items]
  cases seen : shown key with
  | false => simp [itemsUnder, Page.shownBy, seen]
  | true =>
      simp only [if_true, itemsUnder, decodeItems, Page.shownBy, seen]
      exact Json.map_all_encoded faithful

theorem decode_written {decodeItem : Json → Except Json.Fault Item}
    (faithful : ∀ item ∈ page.items, decodeItem (encodeItem item) = .ok item) :
    decode decodeItem (Json.ofFields pairs) key = .ok (page.shownBy shown key) := by
  rw [Json.ofFields, decode_object decodeItem own, items_read own writes faithful,
    record_reads own writes]
  obtain ⟨items, number, size, total, marker⟩ := page.shownBy shown key
  cases total <;> cases marker <;> simp [bind, Except.bind, pure, Except.pure, pageOfRow]

end Lookup

theorem decode_insert (decodeItem : Json → Except Json.Fault Item) {key name : String}
    (own : key ∉ ["pageNumber", "pageSize", "totalCount", "nextMarker"])
    (foreign : name ∉ ownNames key) (value : Json) (fields : Fields) :
    decode decodeItem (.object (Fields.insert name value fields)) key =
      decode decodeItem (.object fields) key := by
  rw [ownNames, List.mem_cons, not_or] at foreign
  obtain ⟨other, behind⟩ := foreign
  have unread : record.decode (.object (Fields.insert name value fields)) =
      record.decode (.object fields) := by
    simp only [Json.Record.decode, Json.Record.fill_insert (no_column behind)]
  rw [decode_object decodeItem own, decode_object decodeItem own, Fields.get_insert,
    if_neg other, unread]

/-- A page is read back from what it is written as, also when options that are unset are left out.
Without their entries the number reads as one, the size as zero and the items as none. Entries that
an envelope is not asked for never matter. -/
theorem written_page_read_back {encodeItem : Item → Json}
    {decodeItem : Json → Except Json.Fault Item} {key : String}
    (own : key ∉ ["pageNumber", "pageSize", "totalCount", "nextMarker"]) (page : Page Item)
    (faithful : ∀ item ∈ page.items, decodeItem (encodeItem item) = .ok item) :
    (∀ shown pairs, page.ShownWhole shown key → Writes encodeItem key shown page pairs →
        fetched decodeItem (Json.ofFields pairs) key = .ok page) ∧
      (∀ shown pairs, Writes encodeItem key shown page pairs →
        fetched decodeItem (Json.ofFields pairs) key = .ok (page.shownBy shown key)) ∧
      ∀ fields name value, name ∉ ownNames key →
        fetched decodeItem (.object (Fields.insert name value fields)) key =
          fetched decodeItem (.object fields) key := by
  have reads {shown : String → Bool} {pairs : List (String × Json)}
      (writes : Writes encodeItem key shown page pairs) :
      fetched decodeItem (Json.ofFields pairs) key = .ok (page.shownBy shown key) :=
    fetched_of_decoded (decode_written own writes faithful)
  refine ⟨?_, fun shown pairs writes => reads writes, ?_⟩
  · intro shown pairs whole writes
    rw [reads writes, Page.shown_by_of_whole whole]
  · intro fields name value foreign
    rw [fetched, fetched, decode_insert decodeItem own foreign]

def thirdPage : Page Json := ⟨[.string "e", .string "f"], 3, 2, some 7, none⟩

theorem third_page_read_back :
    "node" ∉ ["pageNumber", "pageSize", "totalCount", "nextMarker"] ∧
      (∀ item ∈ thirdPage.items, anyItem (id item) = .ok item) ∧
      fetched anyItem
          (Json.ofFields
            [ ("pageCount", .integer 4), ("node", .array [.string "e", .string "f"]),
              ("pageNumber", .integer 3), ("pageSize", .integer 2), ("totalCount", .integer 7) ])
          "node" = .ok thirdPage ∧
      fetched anyItem
          (Json.ofFields [("pageCount", .integer 4), ("pageSize", .integer 2)]) "node" =
        .ok ⟨[], 1, 2, none, none⟩ := by
  have own : "node" ∉ ["pageNumber", "pageSize", "totalCount", "nextMarker"] := by decide
  have faithful : ∀ item ∈ thirdPage.items, anyItem (id item) = .ok item := fun _ _ => rfl
  obtain ⟨whole, parts, _⟩ := written_page_read_back own thirdPage faithful
  have foreign : ∀ field ∈ [("pageCount", Json.integer 4)], field.1 ∉ ownNames "node" := by
    simp [ownNames]
  refine ⟨own, faithful, ?_, ?_⟩
  · have written : Writes id "node" (· != "nextMarker") thirdPage
        [ ("pageCount", .integer 4), ("node", .array [.string "e", .string "f"]),
          ("pageNumber", .integer 3), ("pageSize", .integer 2), ("totalCount", .integer 7) ] :=
      ⟨_, foreign, (List.perm_append_singleton ..).symm⟩
    exact whole _ _ ⟨by decide, by decide, by decide, by decide, by decide⟩ written
  · have written : Writes id "node" (· == "pageSize") thirdPage
        [("pageCount", .integer 4), ("pageSize", .integer 2)] :=
      ⟨_, foreign, (List.perm_append_singleton ..).symm⟩
    exact parts _ _ written

end Envelope

end ResourceWatch.Listing
