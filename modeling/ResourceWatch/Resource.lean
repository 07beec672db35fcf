import ResourceWatch.Error
import ResourceWatch.Json.Basic
import ResourceWatch.Json.Schema
import ResourceWatch.Text

/-!
Lifecycle states of a provisioned resource. Providers spell them in upper-case words joined by
underscores, or in other cases and with other joints; reading ignores blanks around the text, joints
anywhere in it and the case of ASCII letters. A text that names no known state is kept verbatim. The
written form of a state is a string with its text.

What one fetch shows of a resource: its state, and the provider's other fields as attributes.
-/

namespace ResourceWatch

inductive State where
  | normal
  | pendingAdd
  | pendingChange
  | pendingDelete
  | failedAdd
  | failedChange
  | failedDelete
  | deleted
  | requiresSupport
  | unrecognized (raw : String)
  deriving DecidableEq, Repr, Inhabited

inductive Phase where
  | pending
  | succeeded
  | failed
  | unknown
  deriving DecidableEq, Repr

inductive NodeStatus where
  | running
  | pending
  | error
  | terminated
  | unrecognized
  deriving DecidableEq, Repr

namespace State

def isJoint (char : Char) : Bool := char == '_' || char == '-'

/-- The letters of a spelling: outer blanks and then all joints removed, ASCII letters in capitals. -/
def lettersOf (raw : String) : List Char :=
  ((Text.stripList Text.isBlank raw.toList).filter (!isJoint ·)).map Text.capital

def named : List State :=
  [normal, pendingAdd, pendingChange, pendingDelete, failedAdd, failedChange, failedDelete, deleted,
    requiresSupport]

def text : State → String
  | normal => "NORMAL"
  | pendingAdd => "PENDING_ADD"
  | pendingChange => "PENDING_CHANGE"
  | pendingDelete => "PENDING_DELETE"
  | failedAdd => "FAILED_ADD"
  | failedChange => "FAILED_CHANGE"
  | failedDelete => "FAILED_DELETE"
  | deleted => "DELETED"
  | requiresSupport => "REQUIRES_SUPPORT"
  | unrecognized raw => raw

def parse (raw : String) : State :=
  let letters := lettersOf raw
  if letters = "NORMAL".toList then normal
  else if letters = "PENDINGADD".toList then pendingAdd
  else if letters = "PENDINGCHANGE".toList then pendingChange
  else if letters = "PENDINGDELETE".toList then pendingDelete
  else if letters = "FAILEDADD".toList then failedAdd
  else if letters = "FAILEDCHANGE".toList then failedChange
  else if letters = "FAILEDDELETE".toList then failedDelete
  else if letters = "DELETED".toList then deleted
  else if letters = "REQUIRESSUPPORT".toList then requiresSupport
  else unrecognized raw

def toJson (state : State) : Json := .string state.text

def decode : Json → Except Json.Fault State
  | .string raw => .ok (parse raw)
  | other => .error (.invalidType other.found Json.Scalar.text.expected)

/-- Whether the state is one of failure; a text that is not known is when its letters begin so. -/
def isFailed : State → Bool
  | failedAdd | failedChange | failedDelete | requiresSupport => true
  | unrecognized raw => "FAILED".toList.isPrefixOf (lettersOf raw)
  | _ => false

def isUnrecognized : State → Bool
  | unrecognized _ => true
  | _ => false

def phase (state : State) : Phase :=
  if state.isFailed then .failed
  else match state with
    | normal | deleted => .succeeded
    | pendingAdd | pendingChange | pendingDelete => .pending
    | _ => .unknown

theorem phase_failed_iff (state : State) : state.phase = .failed ↔ state.isFailed = true := by
  cases failed : state.isFailed with
  | true => simp [phase, failed]
  | false => cases state <;> simp [phase, failed]

theorem phase_unknown_iff (state : State) :
    state.phase = .unknown ↔ state.isUnrecognized = true ∧ state.isFailed = false := by
  cases failed : state.isFailed with
  | true => simp [phase, failed]
  | false => cases state <;> simp_all [phase, isUnrecognized, isFailed]

theorem parse_named_or_kept (raw : String) : parse raw ∈ named ∨ parse raw = unrecognized raw := by
  simp only [parse]
  repeat' split
  all_goals simp [named]

theorem parse_of_unrecognized {raw : String} (unknown : (parse raw).isUnrecognized = true) :
    parse raw = unrecognized raw := by
  rcases parse_named_or_kept raw with known | kept
  · cases state : parse raw with
    | unrecognized text => simp [state, named] at known
    | _ => simp [state, isUnrecognized] at unknown
  · exact kept

def nodeStatus (state : State) : NodeStatus :=
  if state.isFailed then .error
  else match state with
    | normal => .running
    | pendingAdd | pendingChange | pendingDelete => .pending
    | deleted => .terminated
    | _ => .unrecognized

theorem node_status_error_iff (state : State) :
    state.nodeStatus = .error ↔ state.isFailed = true := by
  cases failed : state.isFailed with
  | true => simp [nodeStatus, failed]
  | false => cases state <;> simp [nodeStatus, failed]

theorem node_status_unrecognized_iff (state : State) :
    state.nodeStatus = .unrecognized ↔ state.isUnrecognized = true ∧ state.isFailed = false := by
  cases failed : state.isFailed with
  | true => simp [nodeStatus, failed]
  | false => cases state <;> simp_all [nodeStatus, isUnrecognized, isFailed]

end State

namespace NodeStatus

def name : NodeStatus → String
  | running => "Running"
  | pending => "Pending"
  | error => "Error"
  | terminated => "Terminated"
  | unrecognized => "Unrecognized"

def all : List NodeStatus := [running, pending, error, terminated, unrecognized]

def ofName? (name : String) : Option NodeStatus := all.find? (·.name == name)

end NodeStatus

structure Snapshot where
  resource : String
  state : State
  attributes : Fields
  deriving BEq, Repr, Inhabited

namespace Snapshot

def bare (resource : String) (state : State) : Snapshot := ⟨resource, state, []⟩

def withAttribute (snapshot : Snapshot) (name : String) (value : Json) : Snapshot :=
  { snapshot with attributes := Fields.insert name value snapshot.attributes }

def flag? (snapshot : Snapshot) (name : String) : Option Bool :=
  match snapshot.attributes.get? name with
  | some (.boolean value) => some value
  | _ => none

def text? (snapshot : Snapshot) (name : String) : Option String :=
  match snapshot.attributes.get? name with
  | some (.string value) => some value
  | _ => none

def failureDetail (snapshot : Snapshot) : String := snapshot.state.text

def stateField : String := "state"

inductive Unreadable where
  | notAnObject
  | noState
  deriving DecidableEq, Repr

def Unreadable.message : Unreadable → String
  | .notAnObject => "expected a JSON object"
  | .noState => "missing string field '" ++ stateField ++ "'"

/-- The snapshot of a provider's answer: an object whose field `state` is a string. All its other
fields are attributes. -/
def ofJson? (resource : String) (body : Json) : Except Unreadable Snapshot :=
  match body with
  | .object fields =>
      match Fields.get? fields stateField with
      | some (.string raw) => .ok ⟨resource, State.parse raw, Fields.erase fields stateField⟩
      | _ => .error .noState
  | _ => .error .notAnObject

def decode (resource : String) (body : Json) : Except FetchError Snapshot :=
  (ofJson? resource body).mapError fun reason => .decode reason.message

def toJson (snapshot : Snapshot) : Json :=
  .object (Fields.insert stateField (.string snapshot.state.text) snapshot.attributes)

end Snapshot

end ResourceWatch
