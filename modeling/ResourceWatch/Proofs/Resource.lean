import ResourceWatch.Proofs.Json.Schema
import ResourceWatch.Proofs.Text.Blank
import ResourceWatch.Resource
import ResourceWatch.Wait.Basic

/-!
States and snapshots: how they are spelled, what is told of them, and how they are read.
-/

namespace ResourceWatch.State

/-!
Which texts are read as which state. The texts of a known state are a grammar: a word with blanks
around it, which has joints anywhere and the letters of the state's name in either case. A text that
is in the grammar of no state is kept as it is.
-/

def letters (state : State) : List Char := state.text.toList.filter (· != '_')

def Spells (raw : String) (state : State) : Prop :=
  ∃ before word after : List Char,
    raw.toList = before ++ word ++ after ∧
      (∀ char ∈ before, Text.isBlank char = true) ∧ (∀ char ∈ after, Text.isBlank char = true) ∧
      (word.filter (!isJoint ·)).map Char.toLower = state.letters.map Char.toLower

/-- A text has a character in its word that is neither a joint nor an ASCII letter. A blank is in
the word when there are other characters than blanks on both sides of it. -/
def Strays (raw : String) : Prop :=
  ∃ before char after, raw.toList = before ++ char :: after ∧
    isJoint char = false ∧ char.isAlpha = false ∧
      (Text.isBlank char = true →
        (∃ other ∈ before, Text.isBlank other = false) ∧
          ∃ other ∈ after, Text.isBlank other = false)

section Names

theorem mem_named_iff (state : State) : state ∈ named ↔ state.isUnrecognized = false := by
  cases state <;> simp [named, isUnrecognized]

theorem letters_of_named :
    named.map letters =
      ["NORMAL", "PENDINGADD", "PENDINGCHANGE", "PENDINGDELETE", "FAILEDADD", "FAILEDCHANGE",
        "FAILEDDELETE", "DELETED", "REQUIRESSUPPORT"].map String.toList := by
  decide +kernel

theorem letters_apart :
    ∀ state ∈ named, ∀ other ∈ named, state.letters = other.letters → state = other := by
  decide +kernel

theorem letters_upper : ∀ state ∈ named, ∀ letter ∈ state.letters, letter.isUpper = true := by
  have upper : ∀ state ∈ named, state.letters.all Char.isUpper = true := by
    decide +kernel
  intro state known
  exact List.all_eq_true.mp (upper state known)

theorem letters_of_text : ∀ state ∈ named, lettersOf state.text = state.letters := by
  decide +kernel

end Names

section Reading

theorem find_cons_or {Value : Type} (test : Value → Bool) (first : Value) (rest : List Value)
    (otherwise : Value) :
    ((first :: rest).find? test).getD otherwise =
      if test first then first else (rest.find? test).getD otherwise := by
  rw [List.find?_cons]
  cases test first <;> rfl

theorem parse_eq_find (raw : String) :
    parse raw =
      (named.find? fun state => lettersOf raw = state.letters).getD (unrecognized raw) := by
  have table := letters_of_named
  simp only [named, List.map_cons, List.map_nil, List.cons.injEq, and_true] at table
  simp only [named, find_cons_or, decide_eq_true_eq, table, parse, List.find?_nil, Option.getD_none]

theorem parse_iff_letters {state : State} (known : state ∈ named) (raw : String) :
    parse raw = state ↔ lettersOf raw = state.letters := by
  rw [parse_eq_find]
  cases found : named.find? fun state => lettersOf raw = state.letters with
  | none =>
      rw [List.find?_eq_none] at found
      have differs : lettersOf raw ≠ state.letters := by simpa using found state known
      rw [mem_named_iff] at known
      constructor
      · rintro rfl
        cases known
      · intro same
        exact absurd same differs
  | some other =>
      have same : lettersOf raw = other.letters := by simpa using List.find?_some found
      have also := List.mem_of_find?_eq_some found
      rw [same, Option.getD_some]
      exact ⟨fun one => one ▸ rfl, letters_apart other also state known⟩

theorem parse_text {state : State} (known : state ∈ named) : parse state.text = state :=
  (parse_iff_letters known state.text).mpr (letters_of_text state known)

theorem parse_text_of_parsed (raw : String) : parse (parse raw).text = parse raw := by
  rcases parse_named_or_kept raw with known | kept
  · exact parse_text known
  · rw [kept]
    exact kept

theorem parse_unrecognized_iff (raw : String) :
    parse raw = unrecognized raw ↔ ∀ state ∈ named, lettersOf raw ≠ state.letters := by
  constructor
  · intro kept state known same
    rw [← parse_iff_letters known, kept] at same
    rw [mem_named_iff, ← same] at known
    cases known
  · intro differs
    rcases parse_named_or_kept raw with known | kept
    · exact absurd ((parse_iff_letters known raw).mp rfl) (differs _ known)
    · exact kept

end Reading

section Grammar

theorem joint_not_blank {char : Char} (joint : isJoint char = true) :
    Text.isBlank char = false := by
  simp only [isJoint, Bool.or_eq_true, beq_iff_eq] at joint
  rcases joint with rfl | rfl
  · decide
  · decide

theorem word_not_blank {state : State} (known : state ∈ named) {word : List Char}
    (spelled : (word.filter (!isJoint ·)).map Text.capital = state.letters) :
    ∀ char ∈ word, Text.isBlank char = false := by
  intro char inside
  cases joint : isJoint char with
  | true => exact joint_not_blank joint
  | false =>
      have letter : Text.capital char ∈ state.letters := by
        rw [← spelled]
        exact List.mem_map_of_mem (List.mem_filter.mpr ⟨inside, by simp [joint]⟩)
      exact Text.not_blank_of_capital (letters_upper state known _ letter)

theorem letters_iff_spells {state : State} (known : state ∈ named) (raw : String) :
    lettersOf raw = state.letters ↔ Spells raw state := by
  have cased (word : List Char) : (word.filter (!isJoint ·)).map Text.capital = state.letters ↔ _ :=
    Text.capitals_eq_iff (letters_upper state known)
  constructor
  · intro same
    obtain ⟨before, after, whole, front, back⟩ := Text.strip_list_inside Text.isBlank raw.toList
    exact ⟨before, _, after, whole, front, back, (cased _).mp same⟩
  · rintro ⟨before, word, after, whole, front, back, spelled⟩
    have letters := (cased word).mpr spelled
    have inner := word_not_blank known letters
    have stripped : Text.stripList Text.isBlank raw.toList = word := by
      rw [whole]
      apply Text.strip_list_of_around front back
      · intro char first
        exact inner char (List.mem_of_mem_head? first)
      · intro char last
        exact inner char (List.mem_of_getLast? last)
    rw [lettersOf, stripped]
    exact letters

theorem stray_not_letters {raw : String} (stray : Strays raw) {state : State}
    (known : state ∈ named) : lettersOf raw ≠ state.letters := by
  obtain ⟨before, char, after, whole, joint, other, inner⟩ := stray
  intro same
  have small : char.isUpper = false ∧ char.isLower = false := Bool.or_eq_false_iff.mp other
  have kept : char ∈ Text.stripList Text.isBlank raw.toList := by
    rw [whole]
    exact Text.mem_strip_list inner
  have letter : Text.capital char ∈ state.letters := by
    rw [← same]
    exact List.mem_map_of_mem (List.mem_filter.mpr ⟨kept, by simp [joint]⟩)
  have upper := letters_upper state known _ letter
  rw [Text.capital_eq_self small.2, small.1] at upper
  cases upper

/-- A text is read as a known state just when it is a spelling of its name, and it is a spelling of
no two. Every other text is kept as it is, and so is each that has a stray character. -/
theorem parse_iff_spells (raw : String) :
    (∀ state, state.isUnrecognized = false → (parse raw = state ↔ Spells raw state)) ∧
      ((∀ state, state.isUnrecognized = false → ¬Spells raw state) →
        parse raw = unrecognized raw) ∧
      (∀ state other, state.isUnrecognized = false → other.isUnrecognized = false →
        Spells raw state → Spells raw other → state = other) ∧
      (Strays raw → parse raw = unrecognized raw) := by
  simp only [← mem_named_iff]
  have reads {state : State} (known : state ∈ named) : parse raw = state ↔ Spells raw state := by
    rw [parse_iff_letters known, letters_iff_spells known]
  refine ⟨fun state known => reads known, ?_, ?_, ?_⟩
  · intro none
    rw [parse_unrecognized_iff]
    intro state known same
    exact none state known ((letters_iff_spells known raw).mp same)
  · intro state other known also spelled otherwise
    rw [← (reads known).mpr spelled, (reads also).mpr otherwise]
  · intro stray
    rw [parse_unrecognized_iff]
    intro state known
    exact stray_not_letters stray known

theorem spaced_name_read :
    pendingAdd.isUnrecognized = false ∧ Spells " _pending-Add\u00a0" pendingAdd ∧
      parse " _pending-Add\u00a0" = pendingAdd ∧
      Strays "_ NORMAL" ∧ parse "_ NORMAL" = unrecognized "_ NORMAL" := by
  have spelled : Spells " _pending-Add\u00a0" pendingAdd :=
    ⟨[' '], "_pending-Add".toList, ['\u00a0'], by decide +kernel, List.all_eq_true.mp rfl,
      List.all_eq_true.mp rfl, by decide +kernel⟩
  have stray : Strays "_ NORMAL" :=
    ⟨['_'], ' ', ['N', 'O', 'R', 'M', 'A', 'L'], by decide +kernel, rfl, rfl,
      fun _ => ⟨⟨'_', .head _, rfl⟩, 'N', .head _, rfl⟩⟩
  have known : pendingAdd.isUnrecognized = false := rfl
  obtain ⟨reads, _⟩ := parse_iff_spells " _pending-Add\u00a0"
  obtain ⟨_, _, _, kept⟩ := parse_iff_spells "_ NORMAL"
  exact ⟨known, spelled, (reads pendingAdd known).mpr spelled, stray, kept stray⟩

end Grammar

end ResourceWatch.State

namespace ResourceWatch

/-!
What is told of a state. Whether it is one of failure is told by its case when it is known and by
the letters of its text when it is not, and for texts that were read the letters alone decide it.
Phases, node statuses and the failures that a policy asks for follow it.
-/

namespace State

theorem failed_iff_letters_of_named :
    ∀ state ∈ named, state.isFailed = true ↔
      "FAILED".toList <+: state.letters ∨ state.letters = "REQUIRESSUPPORT".toList := by
  decide +kernel

theorem parse_failed_iff (raw : String) :
    (parse raw).isFailed = true ↔
      "FAILED".toList <+: lettersOf raw ∨ lettersOf raw = "REQUIRESSUPPORT".toList := by
  rcases parse_named_or_kept raw with known | kept
  · rw [(parse_iff_letters known raw).mp rfl]
    exact failed_iff_letters_of_named _ known
  · have support : requiresSupport ∈ named := by simp [named]
    have differs : lettersOf raw ≠ "REQUIRESSUPPORT".toList :=
      (parse_unrecognized_iff raw).mp kept requiresSupport support
    rw [kept, isFailed, List.isPrefixOf_iff_prefix]
    simp only [differs, or_false]

theorem parse_of_same_letters {raw other : String} (same : lettersOf raw = lettersOf other) :
    parse raw = parse other ∨
      parse raw = unrecognized raw ∧ parse other = unrecognized other := by
  rcases parse_named_or_kept other with known | kept
  · left
    rw [parse_iff_letters known, same]
    exact (parse_iff_letters known other).mp rfl
  · right
    rw [parse_unrecognized_iff, same, ← parse_unrecognized_iff]
    exact ⟨kept, kept⟩

theorem classes_of_same_letters {raw other : String} (same : lettersOf raw = lettersOf other) :
    (parse raw).isFailed = (parse other).isFailed ∧
      (parse raw).phase = (parse other).phase ∧
        (parse raw).nodeStatus = (parse other).nodeStatus := by
  rcases parse_of_same_letters same with equal | ⟨kept, also⟩
  · simp only [equal, and_self]
  · have failed : (unrecognized raw).isFailed = (unrecognized other).isFailed := by
      simp only [isFailed, same]
    simp only [kept, also, phase, nodeStatus, failed, and_self]

end State

namespace Convergence

theorem tolerant_failure_iff (snapshot : Snapshot) :
    (failureFor .keepPolling).holds snapshot = true ↔ snapshot.state.phase = .failed :=
  (State.phase_failed_iff snapshot.state).symm

theorem strict_failure_iff (snapshot : Snapshot) :
    (failureFor .fail).holds snapshot = true ↔
      snapshot.state.phase = .failed ∨ snapshot.state.phase = .unknown := by
  rw [State.phase_failed_iff, State.phase_unknown_iff]
  simp only [failureFor, Predicate.or, Predicate.anyFailed, Predicate.unrecognized, Bool.or_eq_true]
  cases snapshot.state.isFailed with
  | true => simp
  | false => simp

end Convergence

/-- Of a text that was read, failure and all classes are told by its letters alone. Of any state
phase, node status and failure predicates agree on which states are of failure and which are not
known. -/
theorem classes_agree_on_failure :
    (∀ raw, (State.parse raw).isFailed = true ↔
        "FAILED".toList <+: State.lettersOf raw ∨
          State.lettersOf raw = "REQUIRESSUPPORT".toList) ∧
      (∀ raw other, State.lettersOf raw = State.lettersOf other →
        (State.parse raw).isFailed = (State.parse other).isFailed ∧
          (State.parse raw).phase = (State.parse other).phase ∧
            (State.parse raw).nodeStatus = (State.parse other).nodeStatus) ∧
      (∀ state : State,
        (state.phase = .failed ↔ state.isFailed = true) ∧
          (state.nodeStatus = .error ↔ state.isFailed = true) ∧
          (state.phase = .unknown ↔ state.isUnrecognized = true ∧ state.isFailed = false) ∧
          (state.nodeStatus = .unrecognized ↔
            state.isUnrecognized = true ∧ state.isFailed = false)) ∧
      ∀ snapshot,
        ((Convergence.failureFor .fail).holds snapshot = true ↔
            snapshot.state.phase = .failed ∨ snapshot.state.phase = .unknown) ∧
          ((Convergence.failureFor .keepPolling).holds snapshot = true ↔
            snapshot.state.phase = .failed) :=
  ⟨State.parse_failed_iff, fun _ _ same => State.classes_of_same_letters same,
    fun state => ⟨state.phase_failed_iff, state.node_status_error_iff, state.phase_unknown_iff,
      state.node_status_unrecognized_iff⟩,
    fun snapshot => ⟨Convergence.strict_failure_iff snapshot,
      Convergence.tolerant_failure_iff snapshot⟩⟩

/-- Two spellings of a failure that is not known are classified as one. -/
theorem failed_restore_classified :
    State.lettersOf " failed-Restore " = State.lettersOf "FAILED_RESTORE" ∧
      (State.parse "FAILED_RESTORE").isFailed = true ∧
      (State.parse " failed-Restore ").nodeStatus = .error := by
  have same : State.lettersOf " failed-Restore " = State.lettersOf "FAILED_RESTORE" := by
    decide +kernel
  obtain ⟨failed, classes, agree, _⟩ := classes_agree_on_failure
  have fails : (State.parse "FAILED_RESTORE").isFailed = true :=
    (failed _).mpr (.inl (by decide +kernel))
  refine ⟨same, fails, ?_⟩
  rw [(classes _ _ same).2.2, (agree _).2.1]
  exact fails

/-!
Snapshots and states and their JSON. A snapshot is read from the objects that have a string for
their state, and of such an object nothing gets lost but how the state was spelled. What was read
once is read again from what it is written as.
-/

theorem State.decode_to_json (state : State) :
    State.decode state.toJson = .ok (State.parse state.text) := rfl

theorem State.decode_unrecognized_iff (text : String) :
    State.decode (State.unrecognized text).toJson = .ok (State.unrecognized text) ↔
      (State.parse text).isUnrecognized = true := by
  rw [State.decode_to_json]
  constructor
  · intro same
    have kept : State.parse text = .unrecognized text := Except.ok.inj same
    rw [kept]
    rfl
  · intro unknown
    exact congrArg Except.ok (State.parse_of_unrecognized unknown)

namespace Snapshot

theorem decode_iff (resource : String) (body : Json) (snapshot : Snapshot) :
    decode resource body = .ok snapshot ↔
      ∃ (fields : Fields) (raw : String), body = .object fields ∧
        fields.get? stateField = some (.string raw) ∧
          snapshot = ⟨resource, .parse raw, fields.erase stateField⟩ := by
  constructor
  · intro decoded
    unfold decode ofJson? at decoded
    split at decoded
    · rename_i fields
      split at decoded
      · rename_i raw stated
        cases decoded
        exact ⟨fields, raw, rfl, stated, rfl⟩
      · cases decoded
    · cases decoded
  · rintro ⟨fields, raw, rfl, stated, rfl⟩
    simp only [decode, ofJson?, stated]
    rfl

theorem decode_to_json (resource : String) (snapshot : Snapshot) :
    decode resource snapshot.toJson =
      .ok ⟨resource, .parse snapshot.state.text, snapshot.attributes.erase stateField⟩ := by
  rw [decode_iff]
  refine ⟨Fields.insert stateField (.string snapshot.state.text) snapshot.attributes,
    snapshot.state.text, rfl, ?_, ?_⟩
  · rw [Fields.get_insert, if_pos rfl]
  · rw [Fields.erase_insert]

theorem decoded_again {resource : String} {body : Json} {snapshot : Snapshot}
    (decoded : decode resource body = .ok snapshot) :
    decode resource snapshot.toJson = .ok snapshot := by
  obtain ⟨fields, raw, _, _, rfl⟩ := (decode_iff ..).mp decoded
  rw [decode_to_json, State.parse_text_of_parsed, Fields.erase_erase]

/-- Just the objects with a string for their state are read. The other fields are the attributes,
each with its value. What was read, a snapshot or the state of any text, is read again from what it
is written as. A state that was made unknown is read again just when its text is not known. -/
theorem reading_exact_and_stable (resource : String) :
    (∀ body, (∃ snapshot, decode resource body = .ok snapshot) ↔
        ∃ (fields : Fields) (raw : String), body = .object fields ∧
          fields.get? "state" = some (.string raw)) ∧
      (∀ (fields : Fields) (raw : String), fields.get? "state" = some (.string raw) →
        ∃ attributes : Fields,
          decode resource (.object fields) = .ok ⟨resource, .parse raw, attributes⟩ ∧
            attributes.Sublist fields ∧
              ∀ name, attributes.get? name = if name = "state" then none else fields.get? name) ∧
      (∀ body snapshot, decode resource body = .ok snapshot →
        decode resource snapshot.toJson = .ok snapshot) ∧
      (∀ raw, State.parse (State.parse raw).text = State.parse raw) ∧
      (∀ raw, State.decode (State.parse raw).toJson = .ok (State.parse raw)) ∧
      ∀ text, State.decode (State.unrecognized text).toJson = .ok (State.unrecognized text) ↔
        (State.parse text).isUnrecognized = true := by
  refine ⟨?_, ?_, fun _ _ decoded => decoded_again decoded, State.parse_text_of_parsed, ?_,
    State.decode_unrecognized_iff⟩
  · intro body
    simp only [decode_iff]
    constructor
    · rintro ⟨_, fields, raw, same, stated, _⟩
      exact ⟨fields, raw, same, stated⟩
    · rintro ⟨fields, raw, same, stated⟩
      exact ⟨_, fields, raw, same, stated, rfl⟩
  · intro fields raw stated
    refine ⟨fields.erase stateField, ?_, List.filter_sublist, ?_⟩
    · exact (decode_iff ..).mpr ⟨fields, raw, rfl, stated, rfl⟩
    · intro name
      rw [Fields.get_erase, stateField]
      simp only [eq_comm]
  · intro raw
    rw [State.decode_to_json, State.parse_text_of_parsed]

def spacedServer : Fields :=
  [("id", .string "srv-1"), ("started", .boolean true), ("state", .string " normal ")]

theorem spaced_server_read_again :
    Fields.get? spacedServer "state" = some (.string " normal ") ∧
      ∃ attributes : Fields,
        decode "srv-1" (.object spacedServer) = .ok ⟨"srv-1", .normal, attributes⟩ ∧
          attributes.get? "started" = some (.boolean true) ∧ attributes.get? "state" = none ∧
          decode "srv-1" (toJson ⟨"srv-1", .normal, attributes⟩) =
            .ok ⟨"srv-1", .normal, attributes⟩ := by
  have stated : Fields.get? spacedServer "state" = some (.string " normal ") := rfl
  have normal : State.parse " normal " = .normal := by decide +kernel
  obtain ⟨_, reads, again, _⟩ := reading_exact_and_stable "srv-1"
  obtain ⟨attributes, decoded, _, named⟩ := reads spacedServer " normal " stated
  rw [normal] at decoded
  refine ⟨stated, attributes, decoded, ?_, ?_, again _ _ decoded⟩
  · rw [named]
    rfl
  · rw [named]
    rfl

end Snapshot

end ResourceWatch
