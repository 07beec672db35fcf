import ResourceWatch.Clock
import ResourceWatch.Error
import ResourceWatch.Resource
import ResourceWatch.Text

/-!
What a wait is told and what it tells: its pace, its target and failures, and how it ends.
-/

namespace ResourceWatch.Wait

/-!
The pace of a wait: how long to sleep between fetches and how long to go on. Neither may be zero.
-/

structure Settings where
  interval : Duration
  budget : Duration
  interval_pos : 0 < interval.nanos
  budget_pos : 0 < budget.nanos
  deriving DecidableEq

namespace Settings

def make? (interval budget : Duration) : Except SettingError Settings :=
  if intervalPos : 0 < interval.nanos then
    if budgetPos : 0 < budget.nanos then
      .ok ⟨interval, budget, intervalPos, budgetPos⟩
    else .error (.invalidDuration "max_duration")
  else .error (.invalidDuration "poll_interval")

def standard : Settings where
  interval := .ofSecs 60
  budget := .ofSecs 1800
  interval_pos := by decide
  budget_pos := by decide

end Settings

end ResourceWatch.Wait

namespace ResourceWatch

/-!
Tests of a snapshot, each with a label that says what it tests. Labels are for logs and for people;
two tests with one label may differ.
-/

structure Predicate where
  label : String
  holds : Snapshot → Bool

namespace Predicate

def always : Predicate := ⟨"always", fun _ => true⟩

def never : Predicate := ⟨"never", fun _ => false⟩

/-- The state is this one; the text of an unknown state counts, and that it is unknown. -/
def stateIs (expected : State) : Predicate :=
  ⟨s!"state == {expected.text}", fun snapshot => snapshot.state == expected⟩

def rawStateIs (expected : String) : Predicate :=
  ⟨s!"state == {expected}", fun snapshot => snapshot.state.text == expected⟩

def rawStateStartsWith (head : String) : Predicate :=
  ⟨s!"state starts with {head}", fun snapshot =>
    head.toList.isPrefixOf snapshot.state.text.toList⟩

/-- An attribute is this boolean; one that is missing or of another kind never is. -/
def flagIs (name : String) (expected : Bool) : Predicate :=
  ⟨s!"{name} == {expected}", fun snapshot => snapshot.flag? name == some expected⟩

def anyFailed : Predicate :=
  ⟨"state is FAILED_*/REQUIRES_SUPPORT", fun snapshot => snapshot.state.isFailed⟩

def unrecognized : Predicate :=
  ⟨"state is unrecognized", fun snapshot => snapshot.state.isUnrecognized⟩

def and (left right : Predicate) : Predicate :=
  ⟨s!"({left.label} AND {right.label})", fun snapshot =>
    left.holds snapshot && right.holds snapshot⟩

def or (left right : Predicate) : Predicate :=
  ⟨s!"({left.label} OR {right.label})", fun snapshot =>
    left.holds snapshot || right.holds snapshot⟩

def negate (inner : Predicate) : Predicate :=
  ⟨s!"NOT {inner.label}", fun snapshot => !inner.holds snapshot⟩

def debugText (predicate : Predicate) : String :=
  "Predicate(" ++ Text.quoted predicate.label ++ ")"

end Predicate

/-!
What a wait is for: a target, and the failures that end it early. The target is tested first, so a
snapshot that meets both has converged.
-/

inductive UnknownPolicy where
  | fail
  | keepPolling
  deriving DecidableEq, Repr, Inhabited

structure Convergence where
  target : Predicate
  failure : Predicate

inductive Verdict where
  | converged
  | failed
  | pending
  deriving DecidableEq, Repr

namespace Convergence

/-- The failures that a policy asks for: all states of failure, and those not known unless they are
tolerated. -/
def failureFor : UnknownPolicy → Predicate
  | .fail => Predicate.anyFailed.or .unrecognized
  | .keepPolling => .anyFailed

def reaching (target : Predicate) : Convergence := ⟨target, failureFor .fail⟩

def normal : Convergence := reaching (.stateIs .normal)

def deleted : Convergence := reaching (.stateIs .deleted)

def serverPower (started deployed : Bool) : Convergence :=
  reaching ((Predicate.flagIs "started" started).and (.flagIs "deployed" deployed))

def withPolicy (convergence : Convergence) (policy : UnknownPolicy) : Convergence :=
  { convergence with failure := failureFor policy }

def withFailure (convergence : Convergence) (failure : Predicate) : Convergence :=
  { convergence with failure }

def verdict (convergence : Convergence) (snapshot : Snapshot) : Verdict :=
  if convergence.target.holds snapshot then .converged
  else if convergence.failure.holds snapshot then .failed
  else .pending

end Convergence

end ResourceWatch

namespace ResourceWatch.Wait

/-!
How a wait ends: with a verdict on the resource, or without one.
-/

inductive Outcome where
  | converged (snapshot : Snapshot) (attempts : UInt32)
  | failed (snapshot : Snapshot) (reason : String) (attempts : UInt32)
  | timedOut (last : Snapshot) (attempts : UInt32)
  deriving BEq, Repr

inductive Unsettled where
  | failed (resource reason : String) (snapshot : Snapshot)
  | timedOut (resource lastState : String) (last : Snapshot)
  deriving BEq, Repr

inductive Interruption where
  | fetch (resource : String) (attempt : UInt32) (source : FetchError)
  | cancelled (resource : String) (attempts : UInt32) (last : Option Snapshot)
  deriving BEq, Repr

namespace Outcome

def attempts : Outcome → UInt32
  | .converged _ attempts | .failed _ _ attempts | .timedOut _ attempts => attempts

def snapshot : Outcome → Snapshot
  | .converged snapshot _ | .failed snapshot _ _ | .timedOut snapshot _ => snapshot

def isConverged : Outcome → Bool
  | .converged .. => true
  | _ => false

def toExcept : Outcome → Except Unsettled Snapshot
  | .converged snapshot _ => .ok snapshot
  | .failed snapshot reason _ => .error (.failed snapshot.resource reason snapshot)
  | .timedOut last _ => .error (.timedOut last.resource last.state.text last)

end Outcome

def Unsettled.message : Unsettled → String
  | .failed resource reason _ => s!"resource {resource} reached failure state {reason}"
  | .timedOut resource lastState _ =>
      s!"timeout waiting for resource {resource}; last state {lastState}"

def Interruption.message : Interruption → String
  | .fetch resource attempt source =>
      s!"failed to fetch state of {resource} on attempt {attempt}: {source.message}"
  | .cancelled resource attempts _ =>
      s!"wait for {resource} cancelled after {attempts} attempts"

end ResourceWatch.Wait
