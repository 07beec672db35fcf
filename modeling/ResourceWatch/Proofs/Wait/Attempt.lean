import ResourceWatch.Proofs.Surroundings
import ResourceWatch.Wait.Poll

/-!
What one attempt of a wait can do. The answer in hand either settles the wait or leaves it pending,
and which of the two it is depends on the answer and the instant alone. The token decides whether
the answer comes to hand at all, and whether the sleep behind a pending one is slept to its end.
-/

namespace ResourceWatch.Wait

variable {Provider : Type}

/-- An answer in hand at an instant ends the wait, as the given attempt. An error ends it before any
snapshot is looked at; the target counts before the failure, and both before the budget. -/
inductive Settles (task : Task Provider) (attempt : UInt32) (now : Instant) :
    Except FetchError Snapshot → Except Interruption Outcome → Prop where
  | refused (source : FetchError) :
      Settles task attempt now (.error source) (.error (.fetch task.resource attempt source))
  | converged (snapshot : Snapshot) (reached : task.convergence.target.holds snapshot = true) :
      Settles task attempt now (.ok snapshot) (.ok (.converged snapshot attempt))
  | failed (snapshot : Snapshot) (missed : task.convergence.target.holds snapshot = false)
      (broken : task.convergence.failure.holds snapshot = true) :
      Settles task attempt now (.ok snapshot) (.ok (.failed snapshot snapshot.state.text attempt))
  | timedOut (snapshot : Snapshot) (missed : task.convergence.target.holds snapshot = false)
      (intact : task.convergence.failure.holds snapshot = false)
      (late : task.settings.budget.nanos ≤ (now.since task.start).nanos) :
      Settles task attempt now (.ok snapshot) (.ok (.timedOut snapshot attempt))

inductive Pends (task : Task Provider) (now : Instant) : Except FetchError Snapshot → Prop where
  | intro (snapshot : Snapshot) (missed : task.convergence.target.holds snapshot = false)
      (intact : task.convergence.failure.holds snapshot = false)
      (early : (now.since task.start).nanos < task.settings.budget.nanos) :
      Pends task now (.ok snapshot)

theorem pends_or_settles (task : Task Provider) (attempt : UInt32) (now : Instant)
    (answer : Except FetchError Snapshot) :
    Pends task now answer ∨ ∃ result, Settles task attempt now answer result := by
  cases answer with
  | error source => exact Or.inr ⟨_, .refused source⟩
  | ok snapshot =>
      cases target : task.convergence.target.holds snapshot with
      | true => exact Or.inr ⟨_, .converged snapshot target⟩
      | false =>
          cases failure : task.convergence.failure.holds snapshot with
          | true => exact Or.inr ⟨_, .failed snapshot target failure⟩
          | false =>
              by_cases early : (now.since task.start).nanos < task.settings.budget.nanos
              · exact Or.inl (.intro snapshot target failure early)
              · exact Or.inr ⟨_, .timedOut snapshot target failure (Nat.le_of_not_lt early)⟩

theorem Pends.early {task : Task Provider} {now : Instant} {answer : Except FetchError Snapshot}
    (pends : Pends task now answer) :
    (now.since task.start).nanos < task.settings.budget.nanos := by
  cases pends with
  | intro _ _ _ early => exact early

theorem Pends.answered {task : Task Provider} {now : Instant}
    {answer : Except FetchError Snapshot} (pends : Pends task now answer) :
    ∃ snapshot, answer = .ok snapshot := by
  cases pends with
  | intro snapshot => exact ⟨snapshot, rfl⟩

theorem Settles.answered {task : Task Provider} {attempt : UInt32} {now : Instant}
    {answer : Except FetchError Snapshot} {outcome : Outcome}
    (settles : Settles task attempt now answer (.ok outcome)) : answer = .ok outcome.snapshot := by
  cases settles <;> rfl

theorem nap_pos (task : Task Provider) (now : Instant)
    (early : (now.since task.start).nanos < task.settings.budget.nanos) :
    0 < (nap task now).nanos := by
  have interval := task.settings.interval_pos
  simp only [nap, Duration.least, Deadline.remaining, Duration.minus, Deadline.elapsed,
    Task.deadline]
  omega

theorem judge_settles (task : Task Provider) (attempt : UInt32) (snapshot : Snapshot)
    (world : World Provider) (result : Except Interruption Outcome)
    (settles : Settles task attempt world.now (.ok snapshot) result) :
    ∃ log, judge task attempt snapshot world = .ended result { world with log } := by
  cases settles with
  | converged _ reached =>
      simp only [judge, Convergence.verdict, reached, ↓reduceIte]
      exact ⟨_, rfl⟩
  | failed _ missed broken =>
      simp only [judge, Convergence.verdict, missed, broken, ↓reduceIte, Bool.false_eq_true]
      exact ⟨_, rfl⟩
  | timedOut _ missed intact late =>
      have expired : task.deadline.isExpired world.now = true := decide_eq_true late
      simp only [judge, Convergence.verdict, missed, intact, expired, ↓reduceIte,
        Bool.false_eq_true]
      exact ⟨_, rfl⟩

theorem judge_pends (task : Task Provider) (attempt : UInt32) (snapshot : Snapshot)
    (world : World Provider) (pends : Pends task world.now (.ok snapshot)) :
    judge task attempt snapshot world =
      let pending := world.record (.stillPending task.resource attempt snapshot.state)
      match pending.sleepUntil (world.now.wakeAfter (nap task world.now)) with
      | (true, cut) => cancelled task ⟨attempt, some snapshot⟩ cut
      | (false, awake) => .again ⟨attempt, some snapshot⟩ awake := by
  cases pends with
  | intro _ missed intact early =>
      have unexpired : task.deadline.isExpired world.now = false :=
        decide_eq_false (Nat.not_le.mpr early)
      simp only [judge, Convergence.verdict, missed, intact, unexpired, ↓reduceIte,
        Bool.false_eq_true]
      rfl

section Attempt

variable (task : Task Provider) (progress : Progress) (world : World Provider)

theorem attempt_fired (fired : world.token.fired = true) :
    ∃ log, attempt task progress world =
      .ended (.error (.cancelled task.resource progress.attempts progress.last))
        { world with log } := by
  simp only [attempt, World.record, fired, ↓reduceIte]
  exact ⟨_, rfl⟩

variable (reply : Reply Snapshot) (provider : Provider)
  (called : task.fetcher task.resource world.provider = (reply, provider))
include called

theorem attempt_fires (unfired : world.token.fired = false) (cancels : reply.cancels = true) :
    ∃ log, attempt task progress world =
      .ended (.error (.cancelled task.resource progress.attempts progress.last))
        { world with provider, token := world.token.fire, log } := by
  have fetched := World.fetch_fires
    (world.record (.fetchingState task.resource (nextCount progress.attempts)))
    task.fetcher task.resource reply provider called cancels
  simp only [attempt, fetched]
  simp only [World.record, unfired, Bool.false_eq_true, ↓reduceIte]
  exact ⟨_, rfl⟩

theorem attempt_cut_in_fetch (unfired : world.token.fired = false) (calm : reply.cancels = false)
    (instant : Instant)
    (fires : world.token.firedBy? world.now (world.now.after reply.delay) = some instant) :
    ∃ log, attempt task progress world =
      .ended (.error (.cancelled task.resource progress.attempts progress.last))
        { world with provider, now := instant, token := world.token.fire, log } := by
  have fetched := World.fetch_cut
    (world.record (.fetchingState task.resource (nextCount progress.attempts)))
    task.fetcher task.resource reply provider instant called calm fires
  simp only [attempt, fetched]
  simp only [World.record, unfired, Bool.false_eq_true, ↓reduceIte]
  exact ⟨_, rfl⟩

variable (calm : reply.cancels = false)
  (spared : world.token.Spares (world.now.after reply.delay))
include calm spared

theorem attempt_settles (result : Except Interruption Outcome)
    (settles : Settles task (nextCount progress.attempts) (world.now.after reply.delay)
      reply.answer result) :
    ∃ log, attempt task progress world =
      .ended result { world with provider, now := world.now.after reply.delay, log } := by
  have fetched := World.fetch_spared
    (world.record (.fetchingState task.resource (nextCount progress.attempts)))
    task.fetcher task.resource reply provider called calm spared
  cases answer : reply.answer with
  | error source =>
      rw [answer] at settles fetched
      cases settles with
      | refused =>
          simp only [attempt, fetched]
          simp only [World.record, spared.1, Bool.false_eq_true, ↓reduceIte]
          exact ⟨_, rfl⟩
  | ok snapshot =>
      rw [answer] at settles fetched
      simp only [attempt, fetched]
      simp only [World.record, spared.1, Bool.false_eq_true, ↓reduceIte]
      exact judge_settles task _ snapshot _ result settles

theorem attempt_cut_in_nap (pends : Pends task (world.now.after reply.delay) reply.answer)
    (instant : Instant)
    (fires : world.token.firedBy? (world.now.after reply.delay)
      ((world.now.after reply.delay).wakeAfter (nap task (world.now.after reply.delay))) =
        some instant) :
    ∃ log, attempt task progress world =
      .ended (.error (.cancelled task.resource (nextCount progress.attempts)
          reply.answer.toOption))
        { world with provider, now := instant, token := world.token.fire, log } := by
  have fetched := World.fetch_spared
    (world.record (.fetchingState task.resource (nextCount progress.attempts)))
    task.fetcher task.resource reply provider called calm spared
  cases answer : reply.answer with
  | error source => rw [answer] at pends; cases pends
  | ok snapshot =>
      rw [answer] at pends fetched
      simp only [attempt, fetched]
      simp only [World.record, spared.1, Bool.false_eq_true, ↓reduceIte]
      rw [judge_pends task _ snapshot _ pends]
      simp only [World.record, World.sleepUntil, fires]
      exact ⟨_, rfl⟩

theorem attempt_pends (pends : Pends task (world.now.after reply.delay) reply.answer)
    (asleep : world.token.Spares
      ((world.now.after reply.delay).wakeAfter (nap task (world.now.after reply.delay)))) :
    ∃ log, attempt task progress world =
      .again ⟨nextCount progress.attempts, reply.answer.toOption⟩
        { world with
          provider
          now := (world.now.after reply.delay).wakeAfter (nap task (world.now.after reply.delay))
          log } := by
  have fetched := World.fetch_spared
    (world.record (.fetchingState task.resource (nextCount progress.attempts)))
    task.fetcher task.resource reply provider called calm spared
  cases answer : reply.answer with
  | error source => rw [answer] at pends; cases pends
  | ok snapshot =>
      rw [answer] at pends fetched
      simp only [attempt, fetched]
      simp only [World.record, spared.1, Bool.false_eq_true, ↓reduceIte]
      rw [judge_pends task _ snapshot _ pends]
      simp only [World.record, World.sleepUntil, asleep.not_fired_by]
      exact ⟨_, rfl⟩

end Attempt

theorem run_ended (task : Task Provider) (progress : Progress) (world last : World Provider)
    (result : Except Interruption Outcome)
    (ends : attempt task progress world = .ended result last) :
    run task progress world = (result, last) := by
  rw [run]
  split
  · rename_i other final same
    rw [ends] at same
    cases same
    rfl
  · rename_i next awake same
    rw [ends] at same
    cases same

theorem run_again (task : Task Provider) (progress next : Progress)
    (world awake : World Provider) (more : attempt task progress world = .again next awake) :
    run task progress world = run task next awake := by
  rw [run]
  split
  · rename_i result last same
    rw [more] at same
    cases same
  · rename_i other final same
    rw [more] at same
    cases same
    rfl

end ResourceWatch.Wait
