import ResourceWatch.Json.Basic
import ResourceWatch.Json.Schema

/-!
Fields as a map from names to values: what stands under a name after a field was set or taken out,
and after fields were set one by one.

Which values a shape takes. A column takes what its scalar takes, and `null` when it is optional. A
record takes an object when every field that is named like a column fits it and no column misses
that must be there, and an array of what its columns take in order. Of an object that it takes it
reads what stands under the names of its columns, and nothing else.
-/

namespace ResourceWatch.Fields

section Lookup

theorem get_cons (field : String × Json) (rest : Fields) (name : String) :
    Fields.get? (field :: rest) name = if field.1 = name then some field.2 else rest.get? name := by
  by_cases same : field.1 = name
  · simp [get?, same]
  · simp [get?, List.find?_cons_of_neg, same]

theorem mem_of_get {fields : Fields} {name : String} {value : Json}
    (found : fields.get? name = some value) : (name, value) ∈ fields := by
  obtain ⟨⟨_, _⟩, first, rfl⟩ := Option.map_eq_some_iff.mp found
  obtain rfl : _ = name := by simpa using List.find?_some first
  exact List.mem_of_find?_eq_some first

theorem get_none_iff (fields : Fields) (name : String) :
    fields.get? name = none ↔ ∀ value, (name, value) ∉ fields := by
  constructor
  · intro absent value inside
    simp only [get?, Option.map_eq_none_iff, List.find?_eq_none] at absent
    simpa using absent _ inside
  · intro absent
    cases found : fields.get? name with
    | none => rfl
    | some value => exact absurd (mem_of_get found) (absent value)

theorem get_of_only {fields : Fields} {name : String} {value : Json}
    (inside : (name, value) ∈ fields) (only : ∀ other, (name, other) ∈ fields → other = value) :
    fields.get? name = some value := by
  cases found : fields.get? name with
  | none => exact absurd inside ((get_none_iff fields name).mp found value)
  | some other => rw [only other (mem_of_get found)]

theorem value_unique {fields : Fields} (apart : (fields.map (·.1)).Nodup) {name : String}
    {value other : Json} (one : (name, value) ∈ fields) (two : (name, other) ∈ fields) :
    other = value := by
  induction fields with
  | nil => cases one
  | cons field rest ih =>
      rw [List.map_cons, List.nodup_cons] at apart
      have elsewhere {value : Json} (behind : (name, value) ∈ rest) : field.1 ≠ name := by
        rintro rfl
        exact apart.1 (List.mem_map.mpr ⟨_, behind, rfl⟩)
      rcases List.mem_cons.mp one with rfl | behind
      · rcases List.mem_cons.mp two with same | also
        · exact (Prod.mk.inj same).2
        · exact absurd rfl (elsewhere also)
      · rcases List.mem_cons.mp two with rfl | also
        · exact absurd rfl (elsewhere behind)
        · exact ih apart.2 behind also

end Lookup

section Change

theorem get_insert (name : String) (value : Json) (fields : Fields) (other : String) :
    (insert name value fields).get? other =
      if name = other then some value else fields.get? other := by
  induction fields with
  | nil => exact get_cons ..
  | cons field rest ih =>
      rw [insert]
      split
      · exact get_cons ..
      · split
        · rename_i same
          rw [get_cons, get_cons, ← same]
          by_cases asked : name = other
          · simp only [asked, if_true]
          · simp only [asked, if_false]
        · rename_i different
          rw [get_cons, get_cons, ih]
          by_cases asked : field.1 = other
          · have apart : name ≠ other := asked ▸ different
            simp only [asked, apart, if_true, if_false]
          · simp only [asked, if_false]

theorem mem_of_mem_insert {name : String} {value : Json} {fields : Fields} {field : String × Json}
    (inside : field ∈ insert name value fields) : field = (name, value) ∨ field ∈ fields := by
  induction fields with
  | nil => exact .inl (by simpa [insert] using inside)
  | cons first rest ih =>
      rw [insert] at inside
      split at inside
      · exact List.mem_cons.mp inside
      · split at inside
        · rcases List.mem_cons.mp inside with set | behind
          · exact .inl set
          · exact .inr (List.mem_cons_of_mem _ behind)
        · rcases List.mem_cons.mp inside with rfl | behind
          · exact .inr List.mem_cons_self
          · exact (ih behind).imp id (List.mem_cons_of_mem _)

theorem get_erase (fields : Fields) (name other : String) :
    (erase fields name).get? other = if name = other then none else fields.get? other := by
  split
  · rename_i same
    rw [get_none_iff]
    intro value inside
    simp [erase, same] at inside
  · rename_i different
    have still : (fun field : String × Json =>
        decide ((field.1 != name) = true ∧ (field.1 == other) = true)) = (·.1 == other) := by
      funext field
      by_cases asked : field.1 = other
      · simp [asked, Ne.symm different]
      · simp [asked]
    rw [get?, erase, List.find?_filter, still, get?]

theorem erase_insert (name : String) (value : Json) (fields : Fields) :
    erase (insert name value fields) name = erase fields name := by
  induction fields with
  | nil => simp [erase, insert]
  | cons field rest ih =>
      rw [insert]
      split
      · simp [erase]
      · split
        · rename_i same
          simp [erase, ← same]
        · simp only [erase, List.filter_cons] at ih ⊢
          rw [ih]

theorem erase_erase (fields : Fields) (name : String) :
    erase (erase fields name) name = erase fields name := by
  simp [erase]

end Change

section Pairs

theorem get_append (front back : Fields) (name : String) :
    Fields.get? (front ++ back) name = (front.get? name).or (back.get? name) := by
  simp only [get?, List.find?_append, Option.map_or]

theorem get_of_list (pairs : List (String × Json)) (name : String) :
    (ofList pairs).get? name = Fields.get? pairs.reverse name := by
  have folded (pairs : List (String × Json)) (fields : Fields) :
      Fields.get? (pairs.foldl (fun fields pair => insert pair.1 pair.2 fields) fields) name =
        Fields.get? (pairs.reverse ++ fields) name := by
    induction pairs generalizing fields with
    | nil => rfl
    | cons pair rest ih =>
        rw [List.foldl_cons, ih, List.reverse_cons, List.append_assoc, get_append, get_append,
          List.singleton_append, get_insert, get_cons]
  simpa [ofList] using folded pairs []

theorem mem_of_mem_of_list {pairs : List (String × Json)} {field : String × Json}
    (inside : field ∈ ofList pairs) : field ∈ pairs := by
  have kept (pairs : List (String × Json)) (fields : Fields)
      (inside : field ∈ pairs.foldl (fun fields pair => insert pair.1 pair.2 fields) fields) :
      field ∈ fields ∨ field ∈ pairs := by
    induction pairs generalizing fields with
    | nil => exact .inl inside
    | cons pair rest ih =>
        rcases ih _ inside with set | later
        · rcases mem_of_mem_insert set with rfl | before
          · exact .inr List.mem_cons_self
          · exact .inl before
        · exact .inr (List.mem_cons_of_mem _ later)
  simpa using kept pairs [] inside

end Pairs

end ResourceWatch.Fields

namespace ResourceWatch.Json

section Success

variable {Error Source Value Result : Type}

theorem bind_succeeds {first : Except Error Value} {next : Value → Except Error Result} :
    (∃ result, first >>= next = .ok result) ↔
      ∃ value, first = .ok value ∧ ∃ result, next value = .ok result := by
  cases first with
  | error fault => simp [bind, Except.bind]
  | ok value => simp [bind, Except.bind]

theorem map_succeeds {first : Except Error Value} {made : Value → Result} :
    (∃ result, first.map made = .ok result) ↔ ∃ value, first = .ok value := by
  cases first with
  | error fault => simp [Except.map]
  | ok value => simp [Except.map]

theorem map_all_succeeds {decode : Source → Except Error Value}
    (items : List Source) :
    (∃ values, items.mapM decode = .ok values) ↔
      ∀ item ∈ items, ∃ value, decode item = .ok value := by
  induction items with
  | nil => simp [pure, Except.pure]
  | cons item rest ih =>
      rw [List.mapM_cons, bind_succeeds, List.forall_mem_cons]
      have later (value : Value) :
          (∃ result, (do return value :: (← rest.mapM decode)) = Except.ok result) ↔
            ∀ item ∈ rest, ∃ value, decode item = .ok value := by
        rw [bind_succeeds, ← ih]
        constructor
        · rintro ⟨values, decoded, _⟩
          exact ⟨values, decoded⟩
        · rintro ⟨values, decoded⟩
          exact ⟨values, decoded, _, rfl⟩
      constructor
      · rintro ⟨value, decoded, more⟩
        exact ⟨⟨value, decoded⟩, (later value).mp more⟩
      · rintro ⟨⟨value, decoded⟩, more⟩
        exact ⟨value, decoded, (later value).mpr more⟩

theorem map_all_congr {decode other : Source → Except Error Value} {items : List Source}
    (same : ∀ item ∈ items, decode item = other item) : items.mapM decode = items.mapM other := by
  induction items with
  | nil => rfl
  | cons item rest ih =>
      rw [List.mapM_cons, List.mapM_cons, same item (by simp),
        ih fun later inside => same later (by simp [inside])]

theorem map_all_encoded {encode : Value → Source} {decode : Source → Except Error Value}
    {values : List Value} (faithful : ∀ value ∈ values, decode (encode value) = .ok value) :
    (values.map encode).mapM decode = .ok values := by
  induction values with
  | nil => rfl
  | cons value rest ih =>
      rw [List.map_cons, List.mapM_cons, faithful value (by simp),
        ih fun later inside => faithful later (by simp [inside])]
      rfl

end Success

namespace Scalar

def Takes (scalar : Scalar) (value : Json) : Prop := ∃ datum, scalar.decode value = .ok datum

def IsWord (bits : Nat) (value : Json) : Prop :=
  ∃ n : Nat, n < Nat.pow 2 bits ∧ value = .integer n

theorem unsigned_decodes {bits n : Nat} (bound : n < Nat.pow 2 bits) :
    (Scalar.unsigned bits).decode (.integer n) = .ok (.integer n) := by
  have fits : (Scalar.unsigned bits).least ≤ (n : Int) ∧
      (n : Int) ≤ (Scalar.unsigned bits).greatest := by
    simp only [least, greatest, Int.ofNat_eq_natCast]
    omega
  exact if_pos fits

theorem unsigned_takes {bits : Nat} {value : Json} :
    (Scalar.unsigned bits).Takes value ↔ IsWord bits value := by
  constructor
  · rintro ⟨datum, decoded⟩
    cases value with
    | number content =>
        cases content with
        | integer value =>
            simp only [decode, ofNumber] at decoded
            split at decoded
            · rename_i fits
              simp only [least, greatest, Int.ofNat_eq_natCast] at fits
              refine ⟨value.toNat, by omega, ?_⟩
              rw [integer, Int.toNat_of_nonneg fits.1]
            · cases decoded
        | double value => cases decoded
    | _ => cases decoded
  · rintro ⟨n, bound, rfl⟩
    exact ⟨.integer n, unsigned_decodes bound⟩

theorem text_takes {value : Json} :
    Scalar.text.Takes value ↔ ∃ content, value = .string content := by
  constructor
  · rintro ⟨datum, decoded⟩
    cases value with
    | string content => exact ⟨content, rfl⟩
    | _ => cases decoded
  · rintro ⟨content, rfl⟩
    exact ⟨_, rfl⟩

end Scalar

namespace Column

def Takes (column : Column) (value : Json) : Prop := ∃ datum, column.decode value = .ok datum

theorem takes_iff {column : Column} {value : Json} :
    column.Takes value ↔
      column.optional = true ∧ value = .null ∨ column.scalar.Takes value := by
  unfold Takes Column.decode
  split
  · rename_i optional
    simp [optional]
  · rename_i plain
    rw [map_succeeds]
    constructor
    · exact .inr
    · rintro (⟨optional, rfl⟩ | takes)
      · exact absurd rfl (plain optional)
      · exact takes

def MayMiss (column : Column) : Prop := ∃ datum, column.absent = .ok datum

def content (column : Column) : Option Json → Except Fault (Option Datum)
  | some value => column.decode value
  | none => column.absent

end Column

namespace Record

theorem fill_succeeds (columns : List Column) (fields : Fields) :
    (∃ filled, fill columns fields = .ok filled) ↔
      ∀ field ∈ fields, ∀ column, columns.find? (·.name == field.1) = some column →
        column.Takes field.2 := by
  induction fields with
  | nil => simp [fill]
  | cons field rest ih =>
      obtain ⟨name, value⟩ := field
      rw [List.forall_mem_cons, ← ih]
      cases found : columns.find? (·.name == name) with
      | none => simp [fill, found]
      | some column =>
          simp only [fill, found, bind_succeeds, pure, Except.pure]
          constructor
          · rintro ⟨datum, decoded, filled, later, _⟩
            refine ⟨?_, filled, later⟩
            intro other same
            cases same
            exact ⟨datum, decoded⟩
          · rintro ⟨takes, filled, later⟩
            obtain ⟨datum, decoded⟩ := takes column rfl
            exact ⟨datum, decoded, filled, later, _, rfl⟩

theorem fill_insert {columns : List Column} {name : String}
    (foreign : columns.find? (·.name == name) = none) (value : Json) (fields : Fields) :
    fill columns (Fields.insert name value fields) = fill columns fields := by
  induction fields with
  | nil => simp [Fields.insert, fill, foreign]
  | cons field rest ih =>
      rw [Fields.insert]
      split
      · simp [fill, foreign]
      · split
        · rename_i same
          rw [fill, foreign, fill, ← same, foreign]
        · simp only [fill, ih]

theorem fill_reads {columns : List Column} {fields : Fields}
    {filled : List (String × Option Datum)} (fills : fill columns fields = .ok filled)
    {column : Column} (own : columns.find? (·.name == column.name) = some column) :
    (match filled.find? (·.1 == column.name) with
      | some (_, datum) => .ok datum
      | none => column.absent) = column.content (fields.get? column.name) := by
  induction fields generalizing filled with
  | nil =>
      cases fills
      rfl
  | cons field rest ih =>
      obtain ⟨name, value⟩ := field
      rw [Fields.get_cons]
      cases found : columns.find? (·.name == name) with
      | none =>
          have other : name ≠ column.name := by
            rintro rfl
            rw [own] at found
            cases found
          rw [fill, found] at fills
          rw [if_neg other]
          exact ih fills
      | some known =>
          simp only [fill, found, bind, Except.bind, pure, Except.pure] at fills
          cases decoded : known.decode value with
          | error fault =>
              rw [decoded] at fills
              cases fills
          | ok datum =>
              cases later : fill columns rest with
              | error fault =>
                  rw [decoded, later] at fills
                  cases fills
              | ok more =>
                  rw [decoded, later] at fills
                  cases fills
                  by_cases same : name = column.name
                  · rw [same, own] at found
                    cases found
                    simp [same, Column.content, decoded]
                  · rw [if_neg same, ← ih later, List.find?_cons_of_neg (by simpa using same)]

theorem complete_succeeds {columns : List Column} (may : ∀ column ∈ columns, column.MayMiss)
    (filled : List (String × Option Datum)) : ∃ row, complete columns filled = .ok row := by
  unfold complete
  rw [map_all_succeeds]
  intro column inside
  split
  · exact ⟨_, rfl⟩
  · exact may column inside

/-- What the columns take in order; columns with a fallback need not be reached. -/
def TakesInOrder : List Column → List Json → Prop
  | [], items => items = []
  | column :: columns, [] => column.fallback.isSome ∧ TakesInOrder columns []
  | column :: columns, item :: items => column.Takes item ∧ TakesInOrder columns items

theorem row_grows {filled : Except Fault (Row × List Json)} {datum : Option Datum} :
    (∃ row, (do
      let (row, rest) ← filled
      return (datum :: row, rest)) = Except.ok (row, ([] : List Json))) ↔
      ∃ row, filled = .ok (row, []) := by
  cases filled with
  | error fault => simp [bind, Except.bind]
  | ok pair => simp [bind, Except.bind, pure, Except.pure, Prod.ext_iff]

theorem fill_in_order_succeeds (record : Record) (position : Nat) (columns : List Column)
    (items : List Json) :
    (∃ row, record.fillInOrder position columns items = .ok (row, [])) ↔
      TakesInOrder columns items := by
  induction columns generalizing position items with
  | nil => simp [fillInOrder, TakesInOrder]
  | cons column columns ih =>
      cases items with
      | nil =>
          cases fallback : column.fallback with
          | none => simp [fillInOrder, TakesInOrder, fallback]
          | some datum =>
              simp only [fillInOrder, fallback, row_grows, ih]
              simp [TakesInOrder, fallback]
      | cons item items =>
          simp only [fillInOrder, TakesInOrder]
          cases decoded : column.decode item with
          | error fault => simp [Column.Takes, decoded, bind, Except.bind]
          | ok datum =>
              have takes : column.Takes item := ⟨datum, decoded⟩
              simp only [takes, true_and, ← ih (position + 1)]
              exact row_grows

theorem decode_array_succeeds (record : Record) (items : List Json) :
    (∃ row, record.decode (.array items) = .ok row) ↔ TakesInOrder record.columns items := by
  rw [← fill_in_order_succeeds record 0]
  simp only [decode, bind_succeeds]
  constructor
  · rintro ⟨⟨row, rest⟩, filled, _, finished⟩
    cases rest with
    | nil => exact ⟨row, filled⟩
    | cons item more => cases finished
  · rintro ⟨row, filled⟩
    exact ⟨(row, []), filled, row, rfl⟩

theorem decode_object_succeeds (record : Record)
    (may : ∀ column ∈ record.columns, column.MayMiss) (fields : Fields) :
    (∃ row, record.decode (.object fields) = .ok row) ↔
      ∀ field ∈ fields, ∀ column, record.columns.find? (·.name == field.1) = some column →
        column.Takes field.2 := by
  rw [← fill_succeeds]
  simp only [decode, bind_succeeds]
  constructor
  · rintro ⟨filled, fills, _⟩
    exact ⟨filled, fills⟩
  · rintro ⟨filled, fills⟩
    exact ⟨filled, fills, complete_succeeds may filled⟩

/-- A record whose fields all fit is read column by column from what stands under their names. -/
theorem decode_fitting_object (record : Record) {fields : Fields}
    (own : ∀ column ∈ record.columns,
      record.columns.find? (·.name == column.name) = some column)
    (fits : ∀ field ∈ fields, ∀ column,
      record.columns.find? (·.name == field.1) = some column → column.Takes field.2) :
    record.decode (.object fields) =
      record.columns.mapM fun column => column.content (fields.get? column.name) := by
  obtain ⟨filled, fills⟩ := (fill_succeeds record.columns fields).mpr fits
  simp only [decode, fills, bind, Except.bind, complete]
  exact map_all_congr fun column inside => fill_reads fills (own column inside)

end Record

end ResourceWatch.Json
