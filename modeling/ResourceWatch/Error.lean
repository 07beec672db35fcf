/-!
Why a fetch from a provider gave no answer, and why settings are refused.
-/

namespace ResourceWatch

inductive FetchError where
  | notFound (resource : String)
  | transport (detail : String)
  | provider (status : UInt16) (detail : String)
  | decode (detail : String)
  deriving DecidableEq, Repr

namespace FetchError

def isNotFound : FetchError → Bool
  | .notFound _ => true
  | _ => false

def message : FetchError → String
  | .notFound resource => s!"resource not found: {resource}"
  | .transport detail => s!"transport error: {detail}"
  | .provider status detail => s!"provider returned status {status}: {detail}"
  | .decode detail => s!"failed to decode provider response: {detail}"

end FetchError

def maxPageSize : Nat := 10000

inductive SettingError where
  | invalidPageNumber
  | pageSizeOutOfRange (requested : Int)
  | invalidDuration (field : String)
  | invalid (problem : String)
  /-- The sources of a configuration cannot be read or do not have the expected shape. -/
  | unreadable
  deriving DecidableEq, Repr

namespace SettingError

/-- What is said about a refusal; nothing of its own about unreadable sources. -/
def message : SettingError → String
  | .invalidPageNumber => "page number must be at least 1"
  | .pageSizeOutOfRange requested => s!"page size {requested} is outside 0..={maxPageSize}"
  | .invalidDuration field => s!"{field} must be greater than zero"
  | .invalid problem => s!"invalid configuration: {problem}"
  | .unreadable => "configuration parsing failed"

end SettingError

end ResourceWatch
