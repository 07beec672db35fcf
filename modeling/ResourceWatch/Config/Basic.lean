import ResourceWatch.Listing.Options
import ResourceWatch.Wait.Poll

/-!
The configured defaults of waits and listings. They are kept as they were configured and checked when
something is made of them; whatever is made of them is refused for the same reasons.
-/

namespace ResourceWatch

structure Config where
  pollIntervalSecs : UInt64
  waitTimeoutSecs : UInt64
  pageSize : Option Int64
  orderBy : Option String
  keepPollingOnUnknown : Bool
  deriving DecidableEq, Repr

namespace Config

def record : Json.Record :=
  { name := "ReelConfig"
    columns :=
      [ { name := "poll_interval_secs", scalar := .unsigned 64, optional := false },
        { name := "wait_timeout_secs", scalar := .unsigned 64, optional := false },
        { name := "default_page_size", scalar := .signed 64, optional := true },
        { name := "default_order_by", scalar := .text, optional := true },
        { name := "keep_polling_on_unknown", scalar := .boolean, optional := false } ] }

def ofRow : Json.Row → Config
  | [interval, timeout, size, order, keep] =>
      { pollIntervalSecs := match interval with
          | some (.integer value) => UInt64.ofNat value.toNat
          | _ => 0
        waitTimeoutSecs := match timeout with
          | some (.integer value) => UInt64.ofNat value.toNat
          | _ => 0
        pageSize := match size with
          | some (.integer value) => some (Int64.ofInt value)
          | _ => none
        orderBy := match order with
          | some (.text value) => some value
          | _ => none
        keepPollingOnUnknown := keep == some (.boolean true) }
  | _ => ⟨0, 0, none, none, false⟩

def decode (value : Json) : Except Json.Fault Config :=
  (record.decode value).map ofRow

def toJson (config : Config) : Json :=
  Json.ofFields
    [ ("poll_interval_secs", Json.integer config.pollIntervalSecs.toNat),
      ("wait_timeout_secs", Json.integer config.waitTimeoutSecs.toNat),
      ("default_page_size", Json.ofOption (fun size => Json.integer size.toInt) config.pageSize),
      ("default_order_by", Json.ofOption .string config.orderBy),
      ("keep_polling_on_unknown", .boolean config.keepPollingOnUnknown) ]

def refusal (subject problem name key : String) : SettingError :=
  .invalid s!"{subject} {problem}: set {name} or {key} in cloudreel.toml"

def validate (config : Config) : Except SettingError Unit :=
  if config.pollIntervalSecs = 0 then
    .error (refusal "poll interval" "must be greater than zero" "CLOUDREEL_POLL_INTERVAL_SECS"
      "poll_interval_secs")
  else if config.waitTimeoutSecs = 0 then
    .error (refusal "wait timeout" "must be greater than zero" "CLOUDREEL_WAIT_TIMEOUT_SECS"
      "wait_timeout_secs")
  else match config.pageSize with
    | none => .ok ()
    | some size =>
        if 0 ≤ size.toInt ∧ size.toInt ≤ maxPageSize then .ok ()
        else .error (refusal "page size" s!"{size.toInt} is outside 0..={maxPageSize}"
          "CLOUDREEL_DEFAULT_PAGE_SIZE" "default_page_size")

def waitSettings (config : Config) : Except SettingError Wait.Settings := do
  config.validate
  Wait.Settings.make? (.ofSecs config.pollIntervalSecs.toNat) (.ofSecs config.waitTimeoutSecs.toNat)

def sizeOf (size : Int64) : Except SettingError UInt32 :=
  if 0 ≤ size.toInt ∧ size.toInt ≤ 4294967295 then .ok (UInt32.ofNat size.toInt.toNat)
  else .error (.pageSizeOutOfRange size.toInt)

def listingOptions (config : Config) : Except SettingError Listing.Options := do
  config.validate
  let size ← config.pageSize.mapM sizeOf
  let sized := ({} : Listing.Draft).apply (.maybePageSize size)
  match config.orderBy with
  | some field => (sized.apply (.orderBy field)).build
  | none => sized.build

def unknownStates (config : Config) : UnknownPolicy :=
  if config.keepPollingOnUnknown then .keepPolling else .fail

def waiter (config : Config) : Except SettingError Wait.Waiter := do
  return ⟨← config.waitSettings, config.unknownStates⟩

end Config

end ResourceWatch
