import ResourceWatch.Listing.Page
import ResourceWatch.Proofs.Json.Schema

/-!
Which bodies are taken for an envelope. Items and data of an object are decoded apart, but as the
collection's name is none of the fixed ones, neither sees what the other looks at. Besides objects,
the arrays that fit the fixed fields in order are taken, and read as pages without items.
-/

namespace ResourceWatch.Listing.Envelope

open Json.Scalar (IsWord)

variable {Item : Type} (decodeItem : Json → Except Json.Fault Item)

def HoldsItems (key : String) (fields : Fields) : Prop :=
  fields.get? key = none ∨ fields.get? key = some .null ∨
    ∃ items, fields.get? key = some (.array items) ∧
      ∀ item ∈ items, ∃ value, decodeItem item = .ok value

def IsTotal (value : Json) : Prop := value = .null ∨ IsWord 64 value

def IsMarker (value : Json) : Prop := value = .null ∨ ∃ text, value = .string text

/-- What an object has under the fixed names, where it has them. -/
structure Describes (fields : Fields) : Prop where
  pageNumber : ∀ value, ("pageNumber", value) ∈ fields → IsWord 32 value
  pageSize : ∀ value, ("pageSize", value) ∈ fields → IsWord 32 value
  totalCount : ∀ value, ("totalCount", value) ∈ fields → IsTotal value
  nextMarker : ∀ value, ("nextMarker", value) ∈ fields → IsMarker value

inductive Accepted (key : String) : Json → Prop where
  | object (fields : Fields) (items : HoldsItems decodeItem key fields)
      (data : Describes fields) : Accepted key (.object fields)
  | array (number size total marker : Json) (counted : IsWord 32 number) (sized : IsWord 32 size)
      (totalled : IsTotal total) (marked : IsMarker marker) :
      Accepted key (.array [number, size, total, marker])

section Columns

variable {name : String} {fallback : Option Json.Datum} {value : Json}

theorem word_column {bits : Nat} :
    Json.Column.Takes ⟨name, .unsigned bits, false, fallback⟩ value ↔ IsWord bits value := by
  simp [Json.Column.takes_iff, Json.Scalar.unsigned_takes]

theorem total_column :
    Json.Column.Takes ⟨name, .unsigned 64, true, fallback⟩ value ↔ IsTotal value := by
  simp [Json.Column.takes_iff, Json.Scalar.unsigned_takes, IsTotal]

theorem marker_column :
    Json.Column.Takes ⟨name, .text, true, fallback⟩ value ↔ IsMarker value := by
  simp [Json.Column.takes_iff, Json.Scalar.text_takes, IsMarker]

end Columns

def FitsColumns (fields : Fields) : Prop :=
  ∀ field ∈ fields, ∀ column, record.columns.find? (·.name == field.1) = some column →
    column.Takes field.2

theorem fits_columns_iff (fields : Fields) : FitsColumns fields ↔ Describes fields := by
  constructor
  · intro fits
    constructor
    · intro value inside
      exact word_column.mp (fits _ inside
        ⟨"pageNumber", .unsigned 32, false, some (.integer 1)⟩ (by simp [record]))
    · intro value inside
      exact word_column.mp (fits _ inside
        ⟨"pageSize", .unsigned 32, false, some (.integer 0)⟩ (by simp [record]))
    · intro value inside
      exact total_column.mp (fits _ inside
        ⟨"totalCount", .unsigned 64, true, none⟩ (by simp [record]))
    · intro value inside
      exact marker_column.mp (fits _ inside ⟨"nextMarker", .text, true, none⟩ (by simp [record]))
  · rintro ⟨pageNumber, pageSize, totalCount, nextMarker⟩ ⟨name, value⟩ inside column found
    have named : column.name = name := by simpa using List.find?_some found
    have known := List.mem_of_find?_eq_some found
    simp only [record, List.mem_cons, List.not_mem_nil, or_false] at known
    subst named
    -- A field with the name of a column is one of four.
    rcases known with rfl | rfl | rfl | rfl
    · exact word_column.mpr (pageNumber value inside)
    · exact word_column.mpr (pageSize value inside)
    · exact total_column.mpr (totalCount value inside)
    · exact marker_column.mpr (nextMarker value inside)

theorem columns_may_miss : ∀ column ∈ record.columns, column.MayMiss := by
  intro column known
  simp only [record, List.mem_cons, List.not_mem_nil, or_false] at known
  rcases known with rfl | rfl | rfl | rfl
  · exact ⟨_, rfl⟩
  · exact ⟨_, rfl⟩
  · exact ⟨_, rfl⟩
  · exact ⟨_, rfl⟩

theorem four_in_order (number size total marker : Json) :
    Json.Record.TakesInOrder record.columns [number, size, total, marker] ↔
      IsWord 32 number ∧ IsWord 32 size ∧ IsTotal total ∧ IsMarker marker := by
  simp only [record, Json.Record.TakesInOrder, word_column, total_column, marker_column, and_true]

theorem in_order_iff (items : List Json) :
    Json.Record.TakesInOrder record.columns items ↔
      ∃ number size total marker, items = [number, size, total, marker] ∧
        IsWord 32 number ∧ IsWord 32 size ∧ IsTotal total ∧ IsMarker marker := by
  constructor
  · intro takes
    -- The last two columns have no fallback, so a shorter list is refused as a longer one is.
    match items with
    | [] | [_] | [_, _] | [_, _, _] | _ :: _ :: _ :: _ :: _ :: _ =>
        simp [record, Json.Record.TakesInOrder] at takes
    | [number, size, total, marker] =>
        exact ⟨number, size, total, marker, rfl, (four_in_order number size total marker).mp takes⟩
  · rintro ⟨number, size, total, marker, rfl, shapes⟩
    exact (four_in_order number size total marker).mpr shapes

section Key

variable {key : String} (own : key ∉ ["pageNumber", "pageSize", "totalCount", "nextMarker"])

def itemsUnder : Option Json → Except Json.Fault (List Item)
  | none => .ok []
  | some .null => .ok []
  | some value => decodeItems decodeItem value

def cleared (key : String) (fields : Fields) : Fields :=
  fields.map fun field => if field.1 == key then (key, .null) else field

include own

theorem no_column : record.columns.find? (·.name == key) = none := by
  rw [List.find?_eq_none]
  intro column known same
  simp only [record, List.mem_cons, List.not_mem_nil, or_false] at known
  rw [← beq_iff_eq.mp same] at own
  rcases known with rfl | rfl | rfl | rfl
  · exact own (by simp)
  · exact own (by simp)
  · exact own (by simp)
  · exact own (by simp)

/-- The items are under a name that no column has, so what stands there does not matter. -/
theorem cleared_reads (fields : Fields) :
    record.decode (.object (cleared key fields)) = record.decode (.object fields) := by
  have fills : Json.Record.fill record.columns (cleared key fields) =
      Json.Record.fill record.columns fields := by
    induction fields with
    | nil => rfl
    | cons field rest ih =>
        rw [cleared, List.map_cons, ← cleared]
        by_cases items : field.1 = key
        · simp only [items, beq_self_eq_true, if_true, Json.Record.fill, no_column own, ih]
        · simp only [beq_iff_eq, items, if_false, Json.Record.fill, ih]
  simp only [Json.Record.decode, fills]

theorem decode_object (fields : Fields) :
    decode decodeItem (.object fields) key = (do
      let items ← itemsUnder decodeItem (fields.get? key)
      let row ← record.decode (.object fields)
      return pageOfRow items row) := by
  unfold decode
  cases held : fields.get? key with
  | none => simp [takeItems, held, itemsUnder, bind, Except.bind]
  | some value =>
      by_cases nothing : value = .null
      · subst nothing
        simp [takeItems, held, itemsUnder, bind, Except.bind]
      · have taken : takeItems decodeItem (.object fields) key =
            (decodeItems decodeItem value).map fun items =>
              (items, .object (cleared key fields)) := by
          simp only [takeItems, held, cleared]
        rw [taken, itemsUnder]
        · cases decodeItems decodeItem value with
          | error fault => rfl
          | ok items => simp only [Except.map, bind, Except.bind, cleared_reads own]
        · exact nothing

end Key

theorem record_decodes (fields : Fields) :
    (∃ row, record.decode (.object fields) = .ok row) ↔ FitsColumns fields :=
  record.decode_object_succeeds columns_may_miss fields

theorem decodes_iff (body : Json) (key : String) :
    (∃ page, decode decodeItem body key = .ok page) ↔
      ∃ taken, takeItems decodeItem body key = .ok taken ∧
        ∃ row, record.decode taken.2 = .ok row := by
  unfold decode
  rw [Json.bind_succeeds]
  simp only [Json.bind_succeeds, pure, Except.pure]
  simp

theorem list_decodes (value : Json) :
    (∃ items, decodeItems decodeItem value = .ok items) ↔
      ∃ items, value = .array items ∧ ∀ item ∈ items, ∃ content, decodeItem item = .ok content := by
  cases value with
  | array items => simp [decodeItems, Json.map_all_succeeds]
  | _ => simp [decodeItems]

theorem items_under_decode (key : String) (fields : Fields) :
    (∃ items, itemsUnder decodeItem (fields.get? key) = .ok items) ↔
      HoldsItems decodeItem key fields := by
  unfold HoldsItems itemsUnder
  split
  · simp_all
  · simp_all
  · simp_all [list_decodes]

theorem object_decodes {key : String}
    (own : key ∉ ["pageNumber", "pageSize", "totalCount", "nextMarker"]) (fields : Fields) :
    (∃ page, decode decodeItem (.object fields) key = .ok page) ↔
      HoldsItems decodeItem key fields ∧ Describes fields := by
  rw [decode_object decodeItem own, ← fits_columns_iff, ← record_decodes, ← items_under_decode]
  simp only [Json.bind_succeeds, pure, Except.pure, Except.ok.injEq, exists_eq', and_true,
    exists_and_right]

theorem array_decodes (items : List Json) (key : String) :
    (∃ page, decode decodeItem (.array items) key = .ok page) ↔
      Json.Record.TakesInOrder record.columns items := by
  rw [decodes_iff, ← record.decode_array_succeeds]
  simp [takeItems]

theorem accepted_iff (body : Json) {key : String}
    (own : key ∉ ["pageNumber", "pageSize", "totalCount", "nextMarker"]) :
    (∃ page, decode decodeItem body key = .ok page) ↔ Accepted decodeItem key body := by
  cases body with
  | object fields =>
      rw [object_decodes decodeItem own]
      constructor
      · rintro ⟨items, data⟩
        exact .object fields items data
      · rintro (⟨_, items, data⟩ | _)
        exact ⟨items, data⟩
  | array items =>
      rw [array_decodes, in_order_iff]
      constructor
      · rintro ⟨number, size, total, marker, rfl, counted, sized, totalled, marked⟩
        exact .array number size total marker counted sized totalled marked
      · rintro (_ | ⟨number, size, total, marker, counted, sized, totalled, marked⟩)
        exact ⟨number, size, total, marker, rfl, counted, sized, totalled, marked⟩
  | _ =>
      constructor
      · rintro ⟨_, decoded⟩
        cases decoded
      · intro accepted
        cases accepted

theorem row_items (items : List Item) (row : Json.Row) : (pageOfRow items row).items = items := by
  unfold pageOfRow
  split <;> rfl

theorem array_without_items {items : List Json} {key : String} {page : Page Item}
    (decoded : decode decodeItem (.array items) key = .ok page) : page.items = [] := by
  simp only [decode, takeItems, bind, Except.bind, pure, Except.pure] at decoded
  split at decoded
  · cases decoded
  · cases decoded
    exact row_items [] _

/-- Just the objects that hold items and describe a page are pages, and besides them the arrays of
the four descriptions in order, as pages without items. All else is refused as undecodable. -/
theorem pages_are_fitting_envelopes (body : Json) {key : String}
    (own : key ∉ ["pageNumber", "pageSize", "totalCount", "nextMarker"]) :
    ((∃ page, fetched decodeItem body key = .ok page) ↔ Accepted decodeItem key body) ∧
      (∀ error, fetched decodeItem body key = .error error → ∃ text, error = .decode text) ∧
      ∀ items page, body = .array items → fetched decodeItem body key = .ok page →
        page.items = [] := by
  rw [← accepted_iff decodeItem body own]
  cases told : decode decodeItem body key with
  | error fault =>
      rw [fetched_of_fault told]
      refine ⟨by simp, ?_, by simp⟩
      rintro _ ⟨⟩
      exact ⟨fault.text, rfl⟩
  | ok page =>
      rw [fetched_of_decoded told]
      refine ⟨by simp, by simp, ?_⟩
      rintro items _ rfl ⟨⟩
      exact array_without_items decodeItem told

def anyItem : Json → Except Json.Fault Json := .ok

theorem named_page_accepted :
    "node" ∉ ["pageNumber", "pageSize", "totalCount", "nextMarker"] ∧
      (∃ page, fetched anyItem (.object [("node", .array [.string "a"]), ("pageSize", .integer 1)])
        "node" = .ok page) ∧
      ¬∃ page, fetched anyItem (.string "node") "node" = .ok page := by
  have own : "node" ∉ ["pageNumber", "pageSize", "totalCount", "nextMarker"] := by decide
  have items : HoldsItems anyItem "node"
      [("node", .array [.string "a"]), ("pageSize", .integer 1)] :=
    .inr (.inr ⟨[.string "a"], rfl, fun item _ => ⟨item, rfl⟩⟩)
  have data : Describes [("node", .array [.string "a"]), ("pageSize", .integer 1)] := by
    constructor
    · simp
    · intro value inside
      obtain rfl : value = .integer 1 := by simpa using inside
      exact ⟨1, by decide, rfl⟩
    · simp
    · simp
  refine ⟨own, (pages_are_fitting_envelopes anyItem _ own).1.mpr (.object _ items data), ?_⟩
  rw [(pages_are_fitting_envelopes anyItem _ own).1]
  intro accepted
  cases accepted

/-- An array is no object, and yet four fitting elements are read as a page without items. -/
theorem four_elements_read_as_page :
    ∃ page, fetched anyItem (.array [.integer 1, .integer 2, .null, .null]) "node" = .ok page ∧
      page.items = [] :=
  ⟨_, rfl, rfl⟩

end ResourceWatch.Listing.Envelope
