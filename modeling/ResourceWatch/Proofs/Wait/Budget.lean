import ResourceWatch.Proofs.Wait.Pace
import ResourceWatch.Proofs.Wait.Schedule

/-!
What a larger budget changes in a wait that nobody calls off. A budget shortens a sleep only to have
it end at the deadline, so the attempt behind a shortened sleep is the last. Up to that attempt two
waits with one interval keep the same time, and it decides the same in both unless it times out.
-/

namespace ResourceWatch.Wait

section Schedule

variable {Provider : Type} {task : Task Provider} {replies : Nat → Reply Snapshot}
variable {large : Settings} (paced : large.interval = task.settings.interval)
  (wider : task.settings.budget.nanos ≤ large.budget.nanos)

def CutShort (task : Task Provider) (asleep awake : Instant) : Prop :=
  (task.deadline.remaining asleep).nanos < task.settings.interval.nanos ∧
    awake = (task.start.after task.settings.budget).roundedUp

theorem CutShort.late {asleep awake : Instant} (cut : CutShort task asleep awake) :
    task.start.nanos + task.settings.budget.nanos ≤ awake.nanos := by
  rw [cut.2]
  exact Instant.le_rounded_up (task.start.after task.settings.budget)

variable (task)
include paced wider

/-- A larger budget moves the end of a sleep only when the smaller one cut it short. -/
theorem wake_same_or_cut (now : Instant) (started : task.start.nanos ≤ now.nanos)
    (early : (now.since task.start).nanos < task.settings.budget.nanos) :
    now.wakeAfter (nap { task with settings := large } now) = now.wakeAfter (nap task now) ∨
      CutShort task now (now.wakeAfter (nap task now)) := by
  have slept : (nap task now).nanos = min task.settings.interval.nanos
      (task.settings.budget.nanos - (now.nanos - task.start.nanos)) := rfl
  have sleeps : (nap { task with settings := large } now).nanos = min task.settings.interval.nanos
      (large.budget.nanos - (now.nanos - task.start.nanos)) := by
    rw [← paced]
    rfl
  have left : (task.deadline.remaining now).nanos =
      task.settings.budget.nanos - (now.nanos - task.start.nanos) := rfl
  simp only [Instant.since] at early
  by_cases whole : task.settings.interval.nanos ≤ (task.deadline.remaining now).nanos
  · have same : nap { task with settings := large } now = nap task now := by
      apply congrArg Duration.mk
      exact (sleeps.trans (by omega)).trans slept.symm
    exact Or.inl (by rw [same])
  · by_cases held : (now.after (nap task now)).Representable
    · have deadline : now.after (nap task now) = task.start.after task.settings.budget := by
        simp only [Instant.after, Instant.mk.injEq]
        omega
      exact Or.inr ⟨by omega, by rw [Instant.wake_after_held held, deadline]⟩
    -- Both sleeps reach beyond what the clock can hold, and are slept as the same.
    · have unheld : ¬ (now.after (nap { task with settings := large } now)).Representable := by
        simp only [Instant.Representable, Instant.after] at held ⊢
        omega
      exact Or.inl (by rw [Instant.wake_after_unheld held, Instant.wake_after_unheld unheld])

theorem began_same_or_cut (n : Nat) (pending : ∀ i < n, PendsAt task replies i) :
    began { task with settings := large } replies n = began task replies n ∨
      ∃ m, n = m + 1 ∧ CutShort task (done task replies m) (began task replies n) := by
  induction n with
  | zero => exact Or.inl rfl
  | succ n ih =>
      have pends := pending n (Nat.lt_succ_self n)
      -- An attempt behind a sleep that was cut short does not leave the wait pending.
      have same : began { task with settings := large } replies n = began task replies n := by
        rcases ih fun i below => pending i (Nat.lt_succ_of_lt below) with same | ⟨m, _, cut⟩
        · exact same
        · have late := cut.late
          have fetched := began_le_done task replies n
          have early := pends.early
          simp only [Instant.since] at early
          omega
      rcases wake_same_or_cut task paced wider (done task replies n) (start_le_done task replies n)
        pends.early with wakes | cut
      · refine Or.inl ?_
        have answered : done { task with settings := large } replies n = done task replies n := by
          rw [done, done, same]
        calc began { task with settings := large } replies (n + 1)
            = (done { task with settings := large } replies n).wakeAfter
                (nap { task with settings := large }
                  (done { task with settings := large } replies n)) := rfl
          _ = (done task replies n).wakeAfter (nap task (done task replies n)) := by
              rw [answered, wakes]
          _ = began task replies (n + 1) := rfl
      · exact Or.inr ⟨n, rfl, cut⟩

theorem began_same (n : Nat) (pending : ∀ i ≤ n, PendsAt task replies i) :
    began { task with settings := large } replies n = began task replies n := by
  rcases began_same_or_cut task paced wider n fun i below => pending i (Nat.le_of_lt below) with
    same | ⟨_, _, cut⟩
  · exact same
  · have late := cut.late
    have fetched := began_le_done task replies n
    have early := (pending n (Nat.le_refl n)).early
    simp only [Instant.since] at early
    omega

theorem scheduled_same (n : Nat) (pending : ∀ i < n, PendsAt task replies i) :
    (List.range n).map (scheduled { task with settings := large } replies) =
      (List.range n).map (scheduled task replies) := by
  apply List.map_congr_left
  intro i member
  have began := began_same task paced wider i fun j upTo =>
    pending j (Nat.lt_of_le_of_lt upTo (List.mem_range.mp member))
  simp only [scheduled, done, began]

theorem pends_wider (n : Nat) (pending : ∀ i ≤ n, PendsAt task replies i) :
    PendsAt { task with settings := large } replies n := by
  have pends := pending n (Nat.le_refl n)
  have answered : done { task with settings := large } replies n = done task replies n := by
    rw [done, done, began_same task paced wider n pending]
  unfold PendsAt at pends ⊢
  rw [answered]
  generalize (replies n).answer = answer at pends ⊢
  cases pends with
  | intro snapshot missed intact early =>
      exact .intro snapshot missed intact (Nat.lt_of_lt_of_le early wider)

end Schedule

/-- Of all that settles a wait, only a time-out hangs on its settings and on the instant. -/
theorem Settles.resettled {Provider : Type} {task : Task Provider} {attempt : UInt32}
    {now : Instant} {answer : Except FetchError Snapshot} {result : Except Interruption Outcome}
    (settles : Settles task attempt now answer result)
    (decided : ∀ last attempts, result ≠ .ok (.timedOut last attempts)) (large : Settings)
    (later : Instant) : Settles { task with settings := large } attempt later answer result := by
  cases settles with
  | refused source => exact .refused source
  | converged snapshot reached => exact .converged snapshot reached
  | failed snapshot missed broken => exact .failed snapshot missed broken
  | timedOut snapshot _ _ _ => exact absurd rfl (decided snapshot attempt)

def CutAtLast {Provider : Type} (task : Task Provider) (seen : List Visit) : Prop :=
  ∃ earlier before deciding, seen = earlier ++ [before, deciding] ∧
    CutShort task before.done deciding.began

theorem answers_scheduled {Provider : Type} (task : Task Provider) (replies : Nat → Reply Snapshot)
    (count : Nat) :
    ((List.range count).map (scheduled task replies)).map (·.answer) =
      (List.range count).map fun i => (replies i).answer := by
  rw [List.map_map]
  rfl

/-- A larger budget leaves the verdict of a wait as it is, with its attempts and calls, and its time
but for the last sleep. A wait that times out would have gone on from where it was. -/
theorem larger_budget_keeps_verdict (replies : Nat → Reply Snapshot)
    (calm : ∀ i, (replies i).cancels = false) (resource : String) (convergence : Convergence)
    (small large : Settings) (paced : large.interval = small.interval)
    (wider : small.budget.nanos ≤ large.budget.nanos) (world : World (List String))
    (uncalled : world.provider = []) (idle : world.token = {}) :
    let task (settings : Settings) : Task (List String) :=
      ⟨Script.sequence replies, resource, convergence, settings, world.now⟩
    let wait (settings : Settings) :=
      pollUntil (Script.sequence replies) resource convergence settings world
    let seen (settings : Settings) := visits (task settings) {} world
    ((∀ last attempts, (wait small).1 ≠ .ok (.timedOut last attempts)) →
      (wait large).1 = (wait small).1 ∧
      (wait large).2.provider = (wait small).2.provider ∧
      ((wait large).2.now = (wait small).2.now ∨ CutAtLast (task small) (seen small))) ∧
    (wait small).2.provider <+: (wait large).2.provider ∧
    (seen small).map (·.answer) <+: (seen large).map (·.answer) ∧
    (seen small).dropLast <+: seen large := by
  intro task wait seen
  have start (settings : Settings) : Before (task settings) replies {} 0 {} world :=
    ⟨rfl, rfl, uncalled, rfl, idle⟩
  obtain ⟨n, result, last, pending, settles, ran, calls, ended, visited⟩ := (start small).ends rfl
    calm
  obtain ⟨m, result', last', pending', settles', ran', calls', ended', visited'⟩ :=
    (start large).ends rfl calm
  have pendingLarge : ∀ i < n, PendsAt (task large) replies i := fun i below =>
    pends_wider (task small) paced wider i fun j upTo =>
      pending j (Nat.lt_of_le_of_lt upTo below)
  -- What the larger budget settles the smaller one does not leave pending, so it comes no sooner.
  have order : n ≤ m := by
    refine Nat.le_of_not_lt fun ahead => ?_
    exact settles'.not_pends (pendingLarge m ahead)
  have answered : wait small = (result, last) := ran
  have answered' : wait large = (result', last') := ran'
  have called : last.provider = List.replicate (n + 1) resource := calls
  have called' : last'.provider = List.replicate (m + 1) resource := calls'
  have listed : seen small = (List.range (n + 1)).map (scheduled (task small) replies) := visited
  have listed' : seen large = (List.range (m + 1)).map (scheduled (task large) replies) := visited'
  rw [answered, answered', listed, listed', called, called', ended]
  refine ⟨fun decided => ?_, ?_, ?_, ?_⟩
  · have resettled := settles.resettled decided large (done (task large) replies n)
    obtain ⟨other, ranOther, callsOther, endedOther, _⟩ := (start large).settles rfl n calm
      pendingLarge (Token.idle_spares _) result resettled
    have same : (result', last') = (result, other) := ran'.symm.trans ranOther
    cases same
    refine ⟨rfl, called'.symm.trans callsOther, ?_⟩
    rw [endedOther]
    rcases began_same_or_cut (task small) paced wider n pending with began | ⟨k, rfl, cut⟩
    · exact Or.inl (by rw [done, done, began])
    · refine Or.inr ⟨(List.range k).map (scheduled (task small) replies),
        scheduled (task small) replies k, scheduled (task small) replies (k + 1), ?_, cut⟩
      simp [List.range_succ]
  · rw [List.prefix_replicate_iff]
    simp [order]
  · rw [answers_scheduled, answers_scheduled, ← take_map_range _ (Nat.succ_le_succ order)]
    exact List.take_prefix _ _
  · rw [List.range_succ, List.map_append, List.map_singleton, List.dropLast_concat,
      ← scheduled_same (task small) paced wider n pending,
      ← take_map_range _ (Nat.le_succ_of_le order)]
    exact List.take_prefix _ _

def halfMinute : Settings := { Settings.standard with budget := .ofSecs 30, budget_pos := by decide }

/-- Half a minute cuts the minute short that a wait for the resource of `soonNormal` sleeps, and
half an hour does not; both waits converge at their second look. -/
theorem soon_normal_with_less_time :
    let wait (settings : Settings) :=
      pollUntil (Script.sequence soonNormal) "server" .normal settings { provider := [] }
    (∀ i, (soonNormal i).cancels = false) ∧ Settings.standard.interval = halfMinute.interval ∧
      halfMinute.budget.nanos ≤ Settings.standard.budget.nanos ∧
      (wait halfMinute).1 = .ok (.converged (.bare "server" .normal) 2) ∧
      (wait halfMinute).2.now = ⟨30000000000⟩ ∧
      (wait .standard).1 = .ok (.converged (.bare "server" .normal) 2) := by
  intro wait
  let task : Task (List String) :=
    ⟨Script.sequence soonNormal, "server", .normal, halfMinute, .origin⟩
  have start : Before task soonNormal {} 0 {} { provider := [] } := ⟨rfl, rfl, rfl, rfl, rfl⟩
  have pending : ∀ i < 1, PendsAt task soonNormal i := by
    intro i below
    have zero : i = 0 := by omega
    subst zero
    exact .intro _ (by decide) (by decide) (by decide)
  obtain ⟨last, ran, _, ended, _⟩ := start.settles rfl 1 soon_normal_calm pending
    (Token.idle_spares _) _ (.converged _ (by decide))
  have answered : wait halfMinute = (.ok (.converged (.bare "server" .normal) 2), last) := ran
  have finish : done (⟨Script.sequence soonNormal, "server", .normal, halfMinute, .origin⟩ :
      Task (List String)) soonNormal 1 = ⟨30000000000⟩ := by decide
  have keeps := (larger_budget_keeps_verdict soonNormal soon_normal_calm "server" .normal
    halfMinute .standard rfl (by decide) { provider := [] } rfl rfl).1
  have decided : ∀ shown attempts, (wait halfMinute).1 ≠ .ok (.timedOut shown attempts) := by
    intro shown attempts timedOut
    rw [answered] at timedOut
    cases timedOut
  have verdict : (wait halfMinute).1 = .ok (.converged (.bare "server" .normal) 2) := by
    rw [answered]
  refine ⟨soon_normal_calm, rfl, by decide, verdict, ?_, (keeps decided).1.trans verdict⟩
  rw [answered]
  exact ended.trans finish

end ResourceWatch.Wait
