import ResourceWatch.Config.Basic
import ResourceWatch.Proofs.Json.Schema
import ResourceWatch.Proofs.Listing.Pull
import ResourceWatch.Script.Provider
import ResourceWatch.Script.Run

/-!
Which page numbers and sizes reach a provider. Options that a draft or a configuration made, and
those of the pages behind them, are in bounds, and a listing that starts in bounds asks for nothing
out of bounds. Options that were decoded are whatever was written, and a listing sends them as they
are.
-/

namespace ResourceWatch.Listing

variable {Item Provider : Type}

section Options

def Options.InBounds (options : Options) : Prop :=
  1 ≤ options.pageNumber.toNat ∧
    ∀ size, options.pageSize = some size → size.toNat ≤ maxPageSize

theorem Options.InBounds.next_page {options : Options} (inside : options.InBounds) :
    options.nextPage.InBounds := by
  refine ⟨?_, inside.2⟩
  simp only [nextPage, next_count_value]
  omega

def Draft.options (draft : Draft) : Options := ⟨draft.pageNumber, draft.pageSize, draft.orderBy⟩

theorem Draft.build_iff (draft : Draft) (made : Options) :
    draft.build = .ok made ↔ made = draft.options ∧ draft.options.InBounds := by
  have positive : draft.pageNumber = 0 ↔ ¬ 1 ≤ draft.pageNumber.toNat := by
    rw [← UInt32.toNat_inj]
    have : (0 : UInt32).toNat = 0 := rfl
    omega
  simp only [build, positive]
  by_cases numbered : 1 ≤ draft.pageNumber.toNat
  · rw [if_neg (not_not_intro numbered)]
    cases sized : draft.pageSize with
    | none => simp [options, Options.InBounds, numbered, sized, eq_comm]
    | some size =>
        by_cases large : maxPageSize < size.toNat
        · simp [options, Options.InBounds, sized, large]
        · simp [options, Options.InBounds, numbered, sized, large, Nat.le_of_not_lt large, eq_comm]
  · simp [options, Options.InBounds, numbered]

theorem validated_size (config : Config) (valid : config.validate = .ok ()) (size : Int64)
    (sized : config.pageSize = some size) : 0 ≤ size.toInt ∧ size.toInt ≤ maxPageSize := by
  simp only [Config.validate, sized] at valid
  split at valid
  · cases valid
  · split at valid
    · cases valid
    · split at valid
      · assumption
      · cases valid

theorem configured_built (config : Config) (options : Options)
    (configured : config.listingOptions = .ok options) :
    config.validate = .ok () ∧ ∃ draft : Draft, draft.build = .ok options := by
  simp only [Config.listingOptions, bind, Except.bind] at configured
  split at configured
  · cases configured
  · rename_i valid
    refine ⟨valid, ?_⟩
    split at configured
    · cases configured
    · split at configured
      · exact ⟨_, configured⟩
      · exact ⟨_, configured⟩

theorem word_decoded (value : UInt32) :
    Json.Scalar.decode (.unsigned 32) (Json.integer value.toNat) =
      .ok (.integer value.toNat) :=
  Json.Scalar.unsigned_decodes value.toNat_lt

theorem size_decoded (name : String) (size : Option UInt32) :
    Json.Column.decode { name, scalar := .unsigned 32, optional := true }
        (Json.ofOption (fun size => Json.integer size.toNat) size) =
      .ok (size.map fun value => .integer value.toNat) := by
  cases size with
  | none => rfl
  | some value => exact congrArg (Except.map some) (word_decoded value)

theorem order_decoded (name : String) (order : Option String) :
    Json.Column.decode { name, scalar := .text, optional := true } (Json.ofOption .string order) =
      .ok (order.map .text) := by
  cases order <;> rfl

theorem written_fields (number size order : Json) :
    Json.ofFields [("page_number", number), ("page_size", size), ("order_by", order)] =
      .object [("order_by", order), ("page_number", number), ("page_size", size)] := by
  have size_behind : ¬ "page_size" < "page_number" := by decide
  have size_apart : "page_size" ≠ "page_number" := by decide
  have order_before : "order_by" < "page_number" := by decide
  have sized : Fields.insert "page_size" size [("page_number", number)] =
      [("page_number", number), ("page_size", size)] := by
    rw [Fields.insert, if_neg size_behind, if_neg size_apart, Fields.insert]
  have ordered : Fields.insert "order_by" order [("page_number", number), ("page_size", size)] =
      [("order_by", order), ("page_number", number), ("page_size", size)] := by
    rw [Fields.insert, if_pos order_before]
  simp only [Json.ofFields, Fields.ofList, List.foldl]
  rw [Fields.insert, sized, ordered]

theorem Options.decode_json (options : Options) : Options.decode options.toJson = .ok options := by
  obtain ⟨number, size, order⟩ := options
  rw [toJson, written_fields]
  have numbered (name : String) :
      Json.Column.decode { name, scalar := .unsigned 32, optional := false }
        (Json.integer number.toNat) = .ok (some (.integer number.toNat)) :=
    congrArg (Except.map some) (word_decoded number)
  cases size <;> cases order <;>
    simp [Options.decode, Options.record, Options.ofRow, Json.Record.decode, Json.Record.fill,
      Json.Record.complete, bind, Except.bind, pure, Except.pure, Except.map, numbered,
      size_decoded, order_decoded]

/-- The options that come out of a check, and those of the pages behind them. -/
inductive Checked : Options → Prop where
  | initial : Checked .initial
  | built (calls : List Draft.Call) {options : Options}
      (made : (Draft.applyAll {} calls).build = .ok options) : Checked options
  | configured (config : Config) {options : Options}
      (made : config.listingOptions = .ok options) : Checked options
  | next {options : Options} (before : Checked options) : Checked options.nextPage

theorem Checked.in_bounds {options : Options} (checked : Checked options) : options.InBounds := by
  induction checked with
  | initial => exact ⟨Nat.le_refl 1, fun _ sized => by cases sized⟩
  | built calls made =>
      obtain ⟨rfl, inside⟩ := (Draft.build_iff _ _).mp made
      exact inside
  | configured config made =>
      obtain ⟨_, draft, built⟩ := configured_built config _ made
      obtain ⟨rfl, inside⟩ := (draft.build_iff _).mp built
      exact inside
  | next _ ih => exact ih.next_page

end Options

section Requests

/-- What a pull does to the requests of a listing: none is added, or the one that was next, and only
behind that one another may come, for the page behind. -/
inductive PullAsks (cursor : Cursor Item) (before : List Request) :
    Cursor Item → List Request → Prop where
  | none {rest : Cursor Item} (same : rest.next = cursor.next ∨ rest.next = none) :
      PullAsks cursor before rest before
  | one {rest : Cursor Item} (request : Request) (asked : cursor.next = some request)
      (onward : ∀ later, rest.next = some later → later.options = request.options.nextPage) :
      PullAsks cursor before rest (before ++ [request])

theorem Cursor.turn_next (cursor : Cursor Item) (request later : Request)
    (answer : Except FetchError (Page Item))
    (next : (cursor.turn request answer).2.next = some later) :
    later.options = request.options.nextPage := by
  cases answer with
  | error source =>
      simp only [turn] at next
      split at next <;> cases next
  | ok page =>
      have behind : (cursor.behind request page).next = some later := by
        simp only [turn] at next
        split at next <;> exact next
      simp only [Cursor.behind] at behind
      split at behind
      · cases behind
        rfl
      · cases behind

theorem PullDoes.asks {fetcher : Fetcher Provider Request (Page Item)} {cursor rest : Cursor Item}
    {before after : Script.Recorded Provider Request} {given : Pull Item}
    (does : PullDoes (Script.recording fetcher) cursor before given rest after) :
    PullAsks cursor before.requests rest after.requests := by
  cases does with
  | handed => exact .none (Or.inl rfl)
  | finished => exact .none (Or.inl rfl)
  | refused => exact .none (Or.inr rfl)
  | cut _ asked => exact .one _ asked fun later next => by cases next
  | heard _ asked => exact .one _ asked fun later next => cursor.turn_next _ later _ next

theorem pull_asks (fetcher : Fetcher Provider Request (Page Item)) (cursor : Cursor Item)
    (world : World (Script.Recorded Provider Request)) :
    let pulled := cursor.pull (Script.recording fetcher) world
    PullAsks cursor world.provider.requests pulled.2.1 pulled.2.2.provider.requests :=
  (pull_does (Script.recording fetcher) cursor world).asks

theorem pulls_keep (Kept : Cursor Item → List Request → Prop)
    (step : ∀ cursor before rest after, Kept cursor before →
      PullAsks cursor before rest after → Kept rest after)
    (fetcher : Fetcher Provider Request (Page Item)) (times : Nat) (cursor : Cursor Item)
    (world : World (Script.Recorded Provider Request)) (taken : Array Item)
    (start : Kept cursor world.provider.requests) :
    let pulled := Cursor.pulls (Script.recording fetcher) times cursor world taken
    Kept pulled.2.2.1 pulled.2.2.2.provider.requests := by
  induction times generalizing cursor world taken with
  | zero => exact start
  | succ times ih =>
      have kept := step _ _ _ _ start (pull_asks fetcher cursor world)
      simp only [Cursor.pulls]
      generalize cursor.pull (Script.recording fetcher) world = result at kept
      obtain ⟨answer, rest, after⟩ := result
      cases answer with
      | item value => exact ih rest after (taken.push value) kept
      | failed error => exact kept
      | ended => exact kept

theorem asked_in_bounds (fetcher : Fetcher Provider Request (Page Item)) (options : Options)
    (heeds : Bool) (world : World (Script.Recorded Provider Request)) (times : Nat)
    (unasked : world.provider.requests = []) (inside : options.InBounds) :
    ∀ request ∈ (Cursor.pulls (Script.recording fetcher) times (.start options heeds) world
      #[]).2.2.2.provider.requests, request.options.InBounds := by
  -- Kept: all that was sent is in bounds, and so is what would be sent next.
  have kept := pulls_keep
    (fun (cursor : Cursor Item) requests =>
      (∀ request, cursor.next = some request → request.options.InBounds) ∧
        ∀ request ∈ requests, request.options.InBounds)
    ?step fetcher times (.start options heeds) world #[] ?start
  · exact kept.2
  case start =>
    rw [unasked]
    refine ⟨fun request first => ?_, fun request none => by cases none⟩
    cases first
    exact inside
  case step =>
    rintro cursor before rest after ⟨next, sent⟩ asks
    cases asks with
    | none same =>
        refine ⟨fun request asked => ?_, sent⟩
        rcases same with same | spent
        · exact next request (same ▸ asked)
        · rw [spent] at asked
          cases asked
    | one request asked onward =>
        have now := next request asked
        refine ⟨fun later behind => onward later behind ▸ now.next_page, fun other member => ?_⟩
        rcases List.mem_append.mp member with earlier | last
        · exact sent other earlier
        · rw [List.mem_singleton.mp last]
          exact now

theorem first_asked (fetcher : Fetcher Provider Request (Page Item)) (options : Options)
    (heeds : Bool) (world : World (Script.Recorded Provider Request)) (times : Nat)
    (unasked : world.provider.requests = []) :
    let sent := (Cursor.pulls (Script.recording fetcher) times (.start options heeds) world
      (#[] : Array Item)).2.2.2.provider.requests
    sent = [] ∨ ⟨options, none⟩ ∈ sent := by
  -- Kept: nothing was sent yet and the first request is still next, or it was sent.
  have kept := pulls_keep
    (fun (cursor : Cursor Item) requests =>
      requests = [] ∧ (∀ request, cursor.next = some request → request = ⟨options, none⟩) ∨
        ⟨options, none⟩ ∈ requests)
    ?step fetcher times (.start options heeds) world #[] ?start
  · exact kept.imp_left And.left
  case start =>
    refine Or.inl ⟨unasked, fun request first => ?_⟩
    cases first
    rfl
  case step =>
    rintro cursor before rest after (⟨none_sent, first⟩ | sent) asks
    · cases asks with
      | none same =>
          refine Or.inl ⟨none_sent, fun request asked => ?_⟩
          rcases same with same | spent
          · exact first request (same ▸ asked)
          · rw [spent] at asked
            cases asked
      | one request asked =>
          rw [first request asked]
          exact Or.inr (List.mem_append_right _ (List.mem_singleton_self _))
    · cases asks with
      | none => exact Or.inr sent
      | one => exact Or.inr (List.mem_append_left _ sent)

end Requests

/-- A listing that asks at all stays in bounds exactly when its options are. Those that come out of
a check are, and so are those behind them; drafts and configurations out of bounds are refused.
Decoding refuses none. -/
theorem requests_in_bounds_iff_options (fetcher : Fetcher Provider Request (Page Item))
    (options : Options) (heeds : Bool) (world : World (Script.Recorded Provider Request))
    (times : Nat) (unasked : world.provider.requests = []) :
    let sent := (Cursor.pulls (Script.recording fetcher) times (.start options heeds) world
      #[]).2.2.2.provider.requests
    ((∀ request ∈ sent, request.options.InBounds) ↔ sent = [] ∨ options.InBounds) ∧
    (Checked options → options.InBounds) ∧
    (∀ draft : Draft, (∃ built, draft.build = .ok built) ↔ draft.options.InBounds) ∧
    (∀ (config : Config) (built : Options), config.listingOptions = .ok built →
      ∀ size, config.pageSize = some size → 0 ≤ size.toInt ∧ size.toInt ≤ maxPageSize) ∧
    Options.decode options.toJson = .ok options := by
  intro sent
  refine ⟨?_, fun checked => checked.in_bounds, ?_, ?_, options.decode_json⟩
  · constructor
    · intro inside
      rcases first_asked fetcher options heeds world times unasked with none_sent | first
      · exact Or.inl none_sent
      · exact Or.inr (inside _ first)
    · rintro (none_sent | inside)
      · rw [none_sent]
        exact fun request none => by cases none
      · exact asked_in_bounds fetcher options heeds world times unasked inside
  · intro draft
    constructor
    · rintro ⟨built, made⟩
      exact ((draft.build_iff built).mp made).2
    · intro inside
      exact ⟨draft.options, (draft.build_iff _).mpr ⟨rfl, inside⟩⟩
  · intro config built configured
    exact validated_size config (configured_built config built configured).1

/-- The largest size that a draft may have, from the third page of a collection on. -/
theorem drafted_requests_in_bounds :
    Checked ⟨3, some 10000, none⟩ ∧
      let threes : Script.Timed (Script.Collection Nat) := { provider := { items := #[1, 2, 3] } }
      let sent := (Cursor.pulls (Script.recording (Script.Timed.fetcher Script.Collection.serve)) 5
        (.start ⟨3, some 10000, none⟩ true) { provider := ⟨threes, []⟩ }
        #[]).2.2.2.provider.requests
      sent.length = 1 ∧ ∀ request ∈ sent, request.options.InBounds := by
  have checked : Checked ⟨3, some 10000, none⟩ := .built [.pageNumber 3, .pageSize 10000] rfl
  refine ⟨checked, rfl, ?_⟩
  obtain ⟨sent, inside, _⟩ := requests_in_bounds_iff_options
    (Script.Timed.fetcher Script.Collection.serve) ⟨3, some 10000, none⟩ true
    { provider := ⟨{ provider := { items := #[1, 2, 3] } }, []⟩ } 5 rfl
  exact sent.mpr (Or.inr (inside checked))

/-- Options that were never checked: the page before the first, by twice the largest size. -/
theorem decoded_page_zero_asked :
    Options.decode (.object [("page_number", .integer 0), ("page_size", .integer 20000)]) =
        .ok ⟨0, some 20000, none⟩ ∧
      ¬ Options.InBounds ⟨0, some 20000, none⟩ ∧
      let threes : Script.Timed (Script.Collection Nat) := { provider := { items := #[1, 2, 3] } }
      (Cursor.pulls (Script.recording (Script.Timed.fetcher Script.Collection.serve)) 1
        (.start ⟨0, some 20000, none⟩) { provider := ⟨threes, []⟩ } #[]).2.2.2.provider.requests =
          [⟨⟨0, some 20000, none⟩, none⟩] := by
  refine ⟨rfl, ?_, rfl⟩
  rintro ⟨numbered, _⟩
  exact absurd numbered (by decide)

end ResourceWatch.Listing
