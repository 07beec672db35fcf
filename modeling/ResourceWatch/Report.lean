import ResourceWatch.Config.Basic
import ResourceWatch.Json.Basic
import ResourceWatch.Listing.Traversal
import ResourceWatch.Resource
import ResourceWatch.Wait.Basic
import ResourceWatch.World

/-!
What other programs are shown, as JSON.
-/

namespace ResourceWatch

/-!
What other programs are shown of resources, as JSON: states with all that they say, snapshots, and
why a fetch gave none.
-/

def State.caseName : State → String
  | .normal => "Normal"
  | .pendingAdd => "PendingAdd"
  | .pendingChange => "PendingChange"
  | .pendingDelete => "PendingDelete"
  | .failedAdd => "FailedAdd"
  | .failedChange => "FailedChange"
  | .failedDelete => "FailedDelete"
  | .deleted => "Deleted"
  | .requiresSupport => "RequiresSupport"
  | .unrecognized _ => "Unrecognized"

def Phase.name : Phase → String
  | .pending => "Pending"
  | .succeeded => "Succeeded"
  | .failed => "Failed"
  | .unknown => "Unknown"

def State.reportFields (state : State) : List (String × Json) :=
  [ ("variant", .string state.caseName), ("as_str", .string state.text),
    ("display", .string state.text), ("is_failed", .boolean state.isFailed),
    ("is_unrecognized", .boolean state.isUnrecognized), ("phase", .string state.phase.name),
    ("node_status", .string state.nodeStatus.name), ("json", state.toJson) ]

def Snapshot.report (snapshot : Snapshot) : Json :=
  Json.ofFields
    [ ("resource_id", .string snapshot.resource), ("variant", .string snapshot.state.caseName),
      ("state", .string snapshot.state.text), ("attributes", .object snapshot.attributes) ]

def FetchError.report (error : FetchError) : Json :=
  let more : List (String × Json) := match error with
    | .notFound resource => [("error", .string "NotFound"), ("resource", .string resource)]
    | .transport detail => [("error", .string "Transport"), ("detail", .string detail)]
    | .provider status detail =>
        [ ("error", .string "Provider"),
          ("detail", Json.ofFields
            [("status", Json.integer status.toNat), ("message", .string detail)]) ]
    | .decode detail => [("error", .string "Decode"), ("detail", .string detail)]
  Json.ofFields
    (("message", .string error.message) :: ("not_found", .boolean error.isNotFound) :: more)

end ResourceWatch

namespace ResourceWatch.Listing

/-!
What other programs are shown of listings, as JSON: options, requests, pages, and how a traversal
ends.
-/

def countOf (count : UInt32) : Json := Json.integer count.toNat

def Options.report (options : Options) : Json :=
  Json.ofFields
    [ ("page_number", countOf options.pageNumber),
      ("page_size", Json.ofOption countOf options.pageSize),
      ("explicit_page_size", Json.ofOption countOf options.explicitSize),
      ("order_by", Json.ofOption .string options.orderBy) ]

def Request.report (request : Request) : Json :=
  Json.ofFields
    [ ("page_number", countOf request.options.pageNumber),
      ("page_size", Json.ofOption countOf request.options.pageSize),
      ("order_by", Json.ofOption .string request.options.orderBy),
      ("marker", Json.ofOption (fun marker => .string marker.token) request.marker) ]

def Page.report (page : Page Json) : Json :=
  Json.ofFields
    [ ("items", .array page.items), ("page_number", countOf page.pageNumber),
      ("page_size", countOf page.pageSize),
      ("total_count", Json.ofOption (fun total => Json.integer total.toNat) page.totalCount),
      ("next_marker", Json.ofOption (fun marker => .string marker.token) page.nextMarker) ]

def Interruption.reportFields (error : Interruption) : List (String × Json) :=
  ("message", .string error.message) :: match error with
    | .fetch page source =>
        [("error", .string "Fetch"), ("page_number", countOf page), ("source", source.report)]
    | .cancelled page => [("error", .string "Cancelled"), ("page_number", countOf page)]

def Stop.reportFields : Stop → List (String × Json)
  | .failed error => error.reportFields
  | .paused | .ended => [("end", .boolean true)]

end ResourceWatch.Listing

namespace ResourceWatch.Wait

/-!
What other programs are shown of waits, as JSON: how one ends.
-/

def Interruption.report (error : Interruption) : Json :=
  Json.ofFields (("message", .string error.message) :: match error with
    | .fetch resource attempt source =>
        [ ("error", .string "Fetch"), ("resource_id", .string resource),
          ("attempt", Json.integer attempt.toNat), ("source", source.report) ]
    | .cancelled resource attempts last =>
        [ ("error", .string "Cancelled"), ("resource_id", .string resource),
          ("attempts", Json.integer attempts.toNat),
          ("last", Json.ofOption Snapshot.report last) ])

def Unsettled.report (error : Unsettled) : Json :=
  Json.ofFields (("message", .string error.message) :: match error with
    | .failed resource reason snapshot =>
        [ ("error", .string "Failed"), ("resource_id", .string resource),
          ("reason", .string reason), ("snapshot", snapshot.report) ]
    | .timedOut resource lastState last =>
        [ ("error", .string "TimedOut"), ("resource_id", .string resource),
          ("last_state", .string lastState), ("last", last.report) ])

def Outcome.report (outcome : Outcome) : Json :=
  let kind : List (String × Json) := match outcome with
    | .converged .. => [("outcome", .string "Converged")]
    | .failed _ reason _ => [("outcome", .string "Failed"), ("reason", .string reason)]
    | .timedOut .. => [("outcome", .string "TimedOut")]
  let settled := match outcome.toExcept with
    | .ok snapshot => Json.ofFields [("ok", snapshot.report)]
    | .error error => error.report
  Json.ofFields (kind ++
    [ ("attempts", Json.integer outcome.attempts.toNat), ("snapshot", outcome.snapshot.report),
      ("is_converged", .boolean outcome.isConverged), ("into_result", settled) ])

def reportEnd : Except Interruption Outcome → Json
  | .ok outcome => outcome.report
  | .error error => error.report

end ResourceWatch.Wait

namespace ResourceWatch

/-!
What other programs are shown of settings, as JSON: durations, paces, configurations, and why one of
them is refused.
-/

def Duration.report (length : Duration) : Json :=
  Json.ofFields
    [("secs", Json.integer length.secs), ("nanos", Json.integer length.subsecNanos)]

def SettingError.report (error : SettingError) : Json :=
  let named (kind : String) (more : List (String × Json)) : Json :=
    Json.ofFields (("error", .string kind) :: ("message", .string error.message) :: more)
  match error with
  | .invalidPageNumber => named "InvalidPageNumber" []
  | .pageSizeOutOfRange requested =>
      named "PageSizeOutOfRange" [("requested", Json.integer requested)]
  | .invalidDuration field => named "InvalidDuration" [("field", .string field)]
  | .invalid _ => named "Invalid" []
  | .unreadable => Json.ofFields [("error", .string "Parse")]

def Json.Error.report (error : Json.Error) : Json :=
  Json.ofFields [("error", .string "Json"), ("message", .string error.message)]

def reportOf (present : α → Json) : Except SettingError α → Json
  | .ok value => present value
  | .error error => error.report

def UnknownPolicy.name : UnknownPolicy → String
  | .fail => "fail"
  | .keepPolling => "keep"

def Wait.Settings.reportFields (settings : Wait.Settings) : List (String × Json) :=
  [("interval", settings.interval.report), ("max_duration", settings.budget.report)]

end ResourceWatch

namespace ResourceWatch.Event

/-!
What other programs are shown of the log, as JSON.
-/

def Content.toJson : Content → Json
  | .text value => .string value
  | .count value => Json.integer value

def report (event : Event) : Json :=
  Json.ofFields
    [ ("level", .string event.level.name), ("message", .string event.message),
      ("fields", Json.ofFields (event.fields.map fun pair => (pair.1, pair.2.toJson))) ]

end ResourceWatch.Event
