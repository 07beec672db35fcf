import ResourceWatch.Counter
import ResourceWatch.Wait.Basic
import ResourceWatch.World

/-!
Waiting for a resource to settle. The first fetch happens at once. After a pending answer the wait
sleeps for the interval, or for what is left of the budget when that is less, and fetches again; the
fetch at the deadline is the last. An answer that is in hand after the deadline still counts when it
settles the matter. The token is heeded before a fetch, during it and in a sleep.

The loop is total: an attempt that asks for another one has moved the clock on, and has found it
before the deadline.

The usual waits, under one pace and one policy for unknown states.
-/

namespace ResourceWatch.Wait

variable {Provider : Type}

/-- What a wait is about: how the state is fetched, of which resource, what it should come to, and
the deadline. -/
structure Task (Provider : Type) where
  fetcher : Fetcher Provider String Snapshot
  resource : String
  convergence : Convergence
  settings : Settings
  start : Instant

namespace Task

def deadline (task : Task Provider) : Deadline := ⟨task.start, task.settings.budget⟩

end Task

structure Progress where
  attempts : UInt32 := 0
  last : Option Snapshot := none

inductive Step (Provider : Type) where
  | ended (result : Except Interruption Outcome) (world : World Provider)
  | again (progress : Progress) (world : World Provider)

def cancelled (task : Task Provider) (progress : Progress) (world : World Provider) :
    Step Provider :=
  .ended (.error (.cancelled task.resource progress.attempts progress.last))
    (world.record (.waitCancelled task.resource progress.attempts))

def nap (task : Task Provider) (now : Instant) : Duration :=
  task.settings.interval.least (task.deadline.remaining now)

def judge (task : Task Provider) (attempt : UInt32) (snapshot : Snapshot)
    (world : World Provider) : Step Provider :=
  match task.convergence.verdict snapshot with
  | .converged =>
      .ended (.ok (.converged snapshot attempt))
        (world.record
          (.converged task.resource attempt snapshot.state task.convergence.target.label))
  | .failed =>
      .ended (.ok (.failed snapshot snapshot.failureDetail attempt))
        (world.record (.reachedFailure task.resource attempt snapshot.failureDetail))
  | .pending =>
      -- The budget is looked at last: a late snapshot still counts if it settles the wait.
      if task.deadline.isExpired world.now then
        .ended (.ok (.timedOut snapshot attempt))
          (world.record (.timedOut task.resource attempt snapshot.state
            (min (task.deadline.elapsed world.now).millis largestWord)))
      else
        let pending := world.record (.stillPending task.resource attempt snapshot.state)
        let progress : Progress := ⟨attempt, some snapshot⟩
        -- No sleep reaches beyond the deadline, so that the last attempt falls on it.
        match pending.sleepUntil (pending.now.wakeAfter (nap task pending.now)) with
        | (true, cut) => cancelled task progress cut
        | (false, awake) => .again progress awake

def attempt (task : Task Provider) (progress : Progress) (world : World Provider) :
    Step Provider :=
  let attempt := nextCount progress.attempts
  let announced := world.record (.fetchingState task.resource attempt)
  -- A token that has fired allows no call, and the attempt that was announced does not count.
  if announced.token.fired then cancelled task progress announced
  else match announced.fetch task.fetcher task.resource true with
    | (none, cut) => cancelled task progress cut
    | (some (.error source), answered) =>
        .ended (.error (.fetch task.resource attempt source))
          (answered.record (.stateFetchFailed task.resource attempt source))
    | (some (.ok snapshot), answered) => judge task attempt snapshot answered

theorem judge_again (task : Task Provider) (count : UInt32) (snapshot : Snapshot)
    (world awake : World Provider) (progress : Progress)
    (more : judge task count snapshot world = .again progress awake) :
    world.now.nanos < task.start.nanos + task.settings.budget.nanos ∧
      world.now.nanos < awake.now.nanos := by
  unfold judge at more
  split at more
  · cases more
  · cases more
  · split at more
    · cases more
    · rename_i unexpired
      have left := task.deadline.remaining_of_open world.now (by simpa using unexpired)
      refine ⟨left.2, ?_⟩
      have positive : 0 < (nap task world.now).nanos := by
        have := task.settings.interval_pos
        simp only [nap, Duration.least]
        omega
      have later := Instant.wake_later world.now (nap task world.now) positive
      simp only [World.sleepUntil, World.record] at more
      split at more
      · rename_i cut
        split at cut
        · simp only [cancelled] at more
          cases more
        · cases cut
      · rename_i cut
        split at cut
        · cases cut
        · cases cut
          cases more
          exact later

theorem attempt_again (task : Task Provider) (progress next : Progress)
    (world awake : World Provider) (more : attempt task progress world = .again next awake) :
    world.now.nanos < task.start.nanos + task.settings.budget.nanos ∧
      world.now.nanos < awake.now.nanos := by
  simp only [attempt] at more
  split at more
  · cases more
  · have later := World.fetch_later
      (world.record (.fetchingState task.resource (nextCount progress.attempts)))
      task.fetcher task.resource true
    split at more
    · cases more
    · cases more
    · rename_i snapshot answered fetched
      rw [fetched] at later
      have judged := judge_again task _ snapshot answered awake next more
      simp only [World.record] at later
      omega

set_option linter.unusedVariables false in
def run (task : Task Provider) (progress : Progress) (world : World Provider) :
    Except Interruption Outcome × World Provider :=
  match more : attempt task progress world with
  | .ended result last => (result, last)
  | .again next awake => run task next awake
termination_by task.start.nanos + task.settings.budget.nanos - world.now.nanos
decreasing_by
  have := attempt_again task progress next world awake more
  omega

def pollUntil (fetcher : Fetcher Provider String Snapshot) (resource : String)
    (convergence : Convergence) (settings : Settings) (world : World Provider) :
    Except Interruption Outcome × World Provider :=
  run ⟨fetcher, resource, convergence, settings, world.now⟩ {} world

structure Waiter where
  settings : Settings := .standard
  unknownStates : UnknownPolicy := .fail
  deriving DecidableEq

inductive Goal where
  | normal
  | deleted
  | serverPower (started deployed : Bool)
  deriving DecidableEq, Repr

namespace Goal

def convergence (goal : Goal) (policy : UnknownPolicy) : Convergence :=
  match goal with
  | .normal => Convergence.normal.withPolicy policy
  | .deleted => Convergence.deleted.withPolicy policy
  | .serverPower started deployed => (Convergence.serverPower started deployed).withPolicy policy

end Goal

def missingAsDeleted (fetcher : Fetcher Provider String Snapshot) :
    Fetcher Provider String Snapshot :=
  fun resource provider =>
    let (reply, after) := fetcher resource provider
    match reply.answer with
    | .error (.notFound _) =>
        ({ reply with
            answer := .ok (.bare resource .deleted)
            notes := reply.notes ++ [.resourceGone resource] }, after)
    | _ => (reply, after)

namespace Waiter

def waitFor (waiter : Waiter) (fetcher : Fetcher Provider String Snapshot) (resource : String)
    (convergence : Convergence) (world : World Provider) :
    Except Interruption Outcome × World Provider :=
  pollUntil fetcher resource convergence waiter.settings world

/-- Waits for one of the usual targets. Providers forget deleted resources, so one that is awaited
to be deleted may as well not exist. -/
def waitUntil (waiter : Waiter) (goal : Goal) (fetcher : Fetcher Provider String Snapshot)
    (resource : String) (world : World Provider) :
    Except Interruption Outcome × World Provider :=
  let fetcher := match goal with
    | .deleted => missingAsDeleted fetcher
    | _ => fetcher
  waiter.waitFor fetcher resource (goal.convergence waiter.unknownStates) world

end Waiter

end ResourceWatch.Wait
