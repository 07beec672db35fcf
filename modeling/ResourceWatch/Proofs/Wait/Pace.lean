import ResourceWatch.Proofs.Wait.Schedule

/-!
The pace of a wait that nobody calls off. Each sleep ends an interval after the answer it follows,
or at the deadline when that comes first, and always at a whole millisecond. So the fetches keep an
interval between them, none begins behind the deadline, and few of them fit into the budget; fetches
that take no time and settle nothing are exactly as many as fit.

A sleep that reaches beyond what the clock can hold ends early. The pace is that of the waits whose
sleeps do not.
-/

namespace ResourceWatch

namespace Duration

def Whole (length : Duration) : Prop := nanosPerMilli ∣ length.nanos

instance (length : Duration) : Decidable length.Whole := inferInstanceAs (Decidable (_ ∣ _))

def roundedUp (length : Duration) : Duration :=
  ⟨(length.nanos + (nanosPerMilli - 1)) / nanosPerMilli * nanosPerMilli⟩

theorem rounded_up_whole {length : Duration} (whole : length.Whole) :
    length.roundedUp = length := by
  simp only [Whole, nanosPerMilli] at whole
  simp only [roundedUp, nanosPerMilli]
  congr 1
  omega

theorem Whole.times {length : Duration} (whole : length.Whole) (count : Nat) :
    Whole ⟨count * length.nanos⟩ :=
  Nat.dvd_mul_left_of_dvd whole count

theorem Whole.gap {short long : Duration} (whole : short.Whole) (other : long.Whole)
    (order : short.nanos < long.nanos) : short.nanos + nanosPerMilli ≤ long.nanos := by
  simp only [Whole, nanosPerMilli] at whole other ⊢
  omega

/-- Rounding up to whole milliseconds of some clock: by less than one of them, and whole
milliseconds are the same added before and behind it. -/
structure Rounding (round : Duration → Duration) : Prop where
  le (length : Duration) : length.nanos ≤ (round length).nanos
  near (length : Duration) : (round length).nanos < length.nanos + nanosPerMilli
  mono {short long : Duration} (order : short.nanos ≤ long.nanos) :
    (round short).nanos ≤ (round long).nanos
  onward (length : Duration) {more : Duration} (whole : more.Whole) :
    round ⟨(round length).nanos + more.nanos⟩ = round ⟨length.nanos + more.nanos⟩

theorem Rounding.between {round : Duration → Duration} (rounding : Rounding round)
    {low middle high : Duration} (above : low.nanos ≤ middle.nanos)
    (below : middle.nanos ≤ high.nanos) (same : round high = round low) :
    round middle = round low := by
  have lower := rounding.mono above
  have upper := rounding.mono below
  rw [same] at upper
  exact congrArg Duration.mk (Nat.le_antisymm upper lower)

end Duration

namespace Instant

def Whole (instant : Instant) : Prop := Duration.nanosPerMilli ∣ instant.nanos

instance (instant : Instant) : Decidable instant.Whole := inferInstanceAs (Decidable (_ ∣ _))

/-- How long after a start the clock comes to a whole millisecond, a length behind it or later. -/
def roundedFrom (start : Instant) (length : Duration) : Duration :=
  (start.after length).roundedUp.since start

theorem rounding_from (start : Instant) : Duration.Rounding start.roundedFrom := by
  constructor
  case le =>
    intro length
    have later := (start.after length).le_rounded_up
    simp only [after] at later
    simp only [roundedFrom, since, after]
    omega
  case near =>
    intro length
    simp only [roundedFrom, roundedUp, since, after, Duration.nanosPerMilli]
    omega
  case mono =>
    intro short long order
    apply Nat.sub_le_sub_right
    apply rounded_up_mono
    exact Nat.add_le_add_left order _
  case onward =>
    intro length more whole
    simp only [Duration.Whole, Duration.nanosPerMilli] at whole
    simp only [roundedFrom, roundedUp, since, after, Duration.nanosPerMilli, Duration.mk.injEq]
    omega

/-- Sleeps as they are seen by one who counts time from a start: a sleep of length d at elapsed time
c wakes at the elapsed time that c + d is rounded to. -/
def SleepsTo (start : Instant) (round : Duration → Duration) : Prop :=
  ∀ elapsed length : Duration, ((start.after elapsed).after length).Representable →
    (start.after elapsed).wakeAfter length = start.after (round ⟨elapsed.nanos + length.nanos⟩)

theorem sleeps_from (start : Instant) : start.SleepsTo start.roundedFrom := by
  intro elapsed length held
  have same : (start.after elapsed).after length =
      start.after ⟨elapsed.nanos + length.nanos⟩ := by
    simp only [after, Nat.add_assoc]
  have later := (start.after ⟨elapsed.nanos + length.nanos⟩).le_rounded_up
  have started := Nat.le_trans (Nat.le_add_right ..) later
  rw [wake_after_held held, same]
  simp only [roundedFrom, since, after] at started ⊢
  rw [Nat.add_sub_cancel' started]

theorem Whole.rounded_from {start : Instant} (whole : start.Whole) :
    start.roundedFrom = Duration.roundedUp := by
  funext length
  simp only [Whole, Duration.nanosPerMilli] at whole
  simp only [roundedFrom, roundedUp, since, after, Duration.roundedUp, Duration.nanosPerMilli,
    Duration.mk.injEq]
  omega

theorem Whole.sleeps_up {start : Instant} (whole : start.Whole) :
    start.SleepsTo Duration.roundedUp := by
  rw [← whole.rounded_from]
  exact start.sleeps_from

end Instant

theorem Duration.rounding_up : Rounding roundedUp := by
  have whole : Instant.origin.Whole := by decide
  rw [← whole.rounded_from]
  exact Instant.origin.rounding_from

namespace Wait

/-- How many intervals cover the budget; the last may reach beyond it. -/
def Settings.naps (settings : Settings) : Nat :=
  (settings.budget.nanos + (settings.interval.nanos - 1)) / settings.interval.nanos

theorem Settings.below_naps_iff (settings : Settings) (count : Nat) :
    count < settings.naps ↔ count * settings.interval.nanos < settings.budget.nanos := by
  have positive := settings.interval_pos
  rw [naps, ← Nat.succ_le_iff, Nat.le_div_iff_mul_le positive, Nat.succ_mul]
  omega

def Settings.due (settings : Settings) (used : Duration) : Duration :=
  ⟨used.nanos + min settings.interval.nanos (settings.budget.nanos - used.nanos)⟩

/-- When the fetch of a number begins, counted from zero, if no fetch takes time. -/
def Settings.slot (settings : Settings) (round : Duration → Duration) (count : Nat) : Duration :=
  if count = 0 then .zero
  else round ⟨min (count * settings.interval.nanos) settings.budget.nanos⟩

section Slot

variable {settings : Settings} {round : Duration → Duration}

theorem Settings.slot_succ (settings : Settings) (round : Duration → Duration) (count : Nat) :
    settings.slot round (count + 1) =
      round ⟨min ((count + 1) * settings.interval.nanos) settings.budget.nanos⟩ :=
  if_neg (Nat.succ_ne_zero count)

theorem Settings.slot_early (rounding : Duration.Rounding round)
    (interval : settings.interval.Whole) (budget : settings.budget.Whole) {count : Nat}
    (early : count * settings.interval.nanos < settings.budget.nanos) :
    count * settings.interval.nanos ≤ (settings.slot round count).nanos ∧
      (settings.slot round count).nanos < settings.budget.nanos := by
  cases count with
  | zero => exact ⟨by simp, settings.budget_pos⟩
  | succ count =>
      have least := rounding.le ⟨(count + 1) * settings.interval.nanos⟩
      have near := rounding.near ⟨(count + 1) * settings.interval.nanos⟩
      have gap := (interval.times (count + 1)).gap budget early
      rw [settings.slot_succ, Nat.min_eq_left (Nat.le_of_lt early)]
      exact ⟨least, Nat.lt_of_lt_of_le near gap⟩

theorem Settings.slot_next (rounding : Duration.Rounding round)
    (interval : settings.interval.Whole) (budget : settings.budget.Whole) {count : Nat}
    (early : count * settings.interval.nanos < settings.budget.nanos) :
    round (settings.due (settings.slot round count)) = settings.slot round (count + 1) := by
  cases count with
  | zero => simp [slot, due, Duration.zero]
  | succ count =>
      obtain ⟨least, left⟩ := settings.slot_early rounding interval budget early
      have here : settings.slot round (count + 1) =
          round ⟨(count + 1) * settings.interval.nanos⟩ := by
        rw [settings.slot_succ, Nat.min_eq_left (Nat.le_of_lt early)]
      have onward := rounding.onward ⟨(count + 1) * settings.interval.nanos⟩ interval
      rw [← here, ← Nat.succ_mul] at onward
      rw [settings.slot_succ round (count + 1)]
      rcases Nat.le_total ((count + 1 + 1) * settings.interval.nanos) settings.budget.nanos with
        inside | beyond
      · rw [Nat.min_eq_left inside]
        refine rounding.between ?_ ?_ onward
        · simp only [due]
          rw [Nat.succ_mul] at inside ⊢
          omega
        · simp only [due]
          omega
      · rw [Nat.min_eq_right beyond, due]
        rw [Nat.succ_mul] at beyond
        congr 2
        omega

theorem Settings.slot_last (settings : Settings) (round : Duration → Duration) :
    settings.slot round settings.naps = round settings.budget := by
  have some_nap : 0 < settings.naps := by
    rw [settings.below_naps_iff, Nat.zero_mul]
    exact settings.budget_pos
  have spent : settings.budget.nanos ≤ settings.naps * settings.interval.nanos :=
    Nat.le_of_not_lt fun early =>
      Nat.lt_irrefl _ ((settings.below_naps_iff settings.naps).mpr early)
  rw [slot, if_neg (Nat.ne_of_gt some_nap), Nat.min_eq_right spent]

end Slot

def Undecided (convergence : Convergence) (answer : Except FetchError Snapshot) : Prop :=
  ∃ snapshot, answer = .ok snapshot ∧ convergence.target.holds snapshot = false ∧
    convergence.failure.holds snapshot = false

section Decision

variable {Provider : Type} {task : Task Provider} {now : Instant}
variable {answer : Except FetchError Snapshot}

theorem Settles.not_pends {attempt : UInt32} {result : Except Interruption Outcome}
    (settles : Settles task attempt now answer result) : ¬ Pends task now answer := by
  intro pends
  cases pends with
  | intro snapshot missed intact early =>
      cases settles with
      | converged _ reached => exact absurd (missed.symm.trans reached) Bool.false_ne_true
      | failed _ _ broken => exact absurd (intact.symm.trans broken) Bool.false_ne_true
      | timedOut _ _ _ late => exact absurd early (Nat.not_lt.mpr late)

theorem Undecided.pends_iff (undecided : Undecided task.convergence answer) :
    Pends task now answer ↔ (now.since task.start).nanos < task.settings.budget.nanos := by
  obtain ⟨snapshot, rfl, missed, intact⟩ := undecided
  exact ⟨Pends.early, .intro snapshot missed intact⟩

theorem Undecided.times_out (undecided : Undecided task.convergence answer) {attempt : UInt32}
    {result : Except Interruption Outcome} (settles : Settles task attempt now answer result) :
    ∃ last, answer = .ok last ∧ result = .ok (.timedOut last attempt) := by
  obtain ⟨snapshot, rfl, missed, intact⟩ := undecided
  cases settles with
  | converged _ reached => exact absurd (missed.symm.trans reached) Bool.false_ne_true
  | failed _ _ broken => exact absurd (intact.symm.trans broken) Bool.false_ne_true
  | timedOut _ _ _ _ => exact ⟨snapshot, rfl, rfl⟩

end Decision

section Schedule

variable {Provider : Type} (task : Task Provider) (replies : Nat → Reply Snapshot)

theorem after_nap (now : Instant) (started : task.start.nanos ≤ now.nanos) :
    now.after (nap task now) = task.start.after (task.settings.due (now.since task.start)) := by
  simp only [Instant.after, nap, Duration.least, Deadline.remaining, Duration.minus,
    Deadline.elapsed, Task.deadline, Settings.due, Instant.since, Instant.mk.injEq]
  omega

theorem start_le_done (n : Nat) : task.start.nanos ≤ (done task replies n).nanos :=
  Nat.le_trans (began_mono task replies (Nat.zero_le n)) (began_le_done task replies n)

/-- The sleep behind an attempt ends within what the clock can hold. -/
def Held (n : Nat) : Prop :=
  ((done task replies n).after (nap task (done task replies n))).Representable

variable {task replies}

theorem held_by_deadline {n : Nat} (pends : PendsAt task replies n)
    (inside : (task.start.after task.settings.budget).Representable) : Held task replies n := by
  rw [Held, after_nap task _ (start_le_done task replies n)]
  refine Nat.lt_of_le_of_lt ?_ inside
  have early := pends.early
  simp only [Instant.after, Settings.due]
  omega

section Round

variable {round : Duration → Duration} (rounding : Duration.Rounding round)
variable (sleeps : task.start.SleepsTo round)

include sleeps in
theorem Held.began_next {n : Nat} (held : Held task replies n) :
    began task replies (n + 1) =
      task.start.after (round (task.settings.due ((done task replies n).since task.start))) := by
  have answered : done task replies n =
      task.start.after ((done task replies n).since task.start) := by
    have later := start_le_done task replies n
    simp only [Instant.after, Instant.since]
    rw [Nat.add_sub_cancel' later]
  have slept := sleeps ((done task replies n).since task.start) (nap task (done task replies n))
  rw [← answered] at slept
  exact slept held

include rounding sleeps

theorem began_by_deadline (n : Nat) (pending : ∀ i < n, PendsAt task replies i)
    (held : ∀ i < n, Held task replies i) :
    (began task replies n).nanos ≤ (task.start.after (round task.settings.budget)).nanos := by
  cases n with
  | zero => exact Nat.le_add_right ..
  | succ n =>
      rw [(held n (Nat.lt_succ_self n)).began_next sleeps]
      apply Nat.add_le_add_left
      apply rounding.mono
      have early := (pending n (Nat.lt_succ_self n)).early
      simp only [Settings.due]
      omega

theorem began_after_intervals (n : Nat) (held : ∀ i < n, Held task replies i) :
    task.start.nanos + min (n * task.settings.interval.nanos) task.settings.budget.nanos ≤
      (began task replies n).nanos := by
  induction n with
  | zero => simp [began]
  | succ n ih =>
      have before := ih fun i below => held i (Nat.lt_succ_of_lt below)
      have fetched := began_le_done task replies n
      rw [(held n (Nat.lt_succ_self n)).began_next sleeps]
      have later := rounding.le (task.settings.due ((done task replies n).since task.start))
      simp only [Settings.due, Instant.since] at later
      simp only [Instant.after, Settings.due, Instant.since, Nat.succ_mul]
      omega

theorem pending_within_naps {n : Nat} (held : ∀ i < n, Held task replies i)
    (pends : PendsAt task replies n) : n < task.settings.naps := by
  rw [Settings.below_naps_iff]
  have paced := began_after_intervals rounding sleeps n held
  have fetched := began_le_done task replies n
  have early := pends.early
  simp only [Instant.since] at early
  omega

theorem began_at_slot (interval : task.settings.interval.Whole)
    (budget : task.settings.budget.Whole) (instantly : ∀ i, (replies i).delay = .zero) (n : Nat)
    (early : ∀ i < n, i * task.settings.interval.nanos < task.settings.budget.nanos)
    (held : ∀ i < n, Held task replies i) :
    began task replies n = task.start.after (task.settings.slot round n) := by
  induction n with
  | zero => rfl
  | succ n ih =>
      have before := ih (fun i below => early i (Nat.lt_succ_of_lt below))
        fun i below => held i (Nat.lt_succ_of_lt below)
      have answered : done task replies n = began task replies n := by
        simp [done, instantly n, Instant.after, Duration.zero]
      have used : (began task replies n).since task.start = task.settings.slot round n := by
        rw [before]
        simp only [Instant.since, Instant.after, Nat.add_sub_cancel_left]
      rw [(held n (Nat.lt_succ_self n)).began_next sleeps, answered, used,
        Settings.slot_next rounding interval budget (early n (Nat.lt_succ_self n))]

end Round

end Schedule

section Visits

def SleepsHeld {Provider : Type} (task : Task Provider) (seen : List Visit) : Prop :=
  ∀ n (more : n + 1 < seen.length), (seen[n].done.after (nap task seen[n].done)).Representable

/-- The visits of a wait that ended at an instant keep its pace, with elapsed times rounded so. -/
structure Paced {Provider : Type} (task : Task Provider) (round : Duration → Duration)
    (seen : List Visit) (ended : Instant) : Prop where
  first : seen.head?.map (·.began) = some task.start
  goes_on : ∀ n (inside : n < seen.length),
    Pends task seen[n].done seen[n].answer ↔ n + 1 < seen.length
  next : ∀ n (more : n + 1 < seen.length), seen[n + 1].began =
    task.start.after (round (task.settings.due (seen[n].done.since task.start)))
  begin_by : ∀ visit ∈ seen,
    visit.began.nanos ≤ (task.start.after (round task.settings.budget)).nanos
  ends_by : ∀ visit ∈ seen.getLast?, ended.nanos ≤
    (task.start.after (round task.settings.budget)).nanos + (visit.done.since visit.began).nanos
  few : seen.length ≤ task.settings.naps + 1

variable {task : Task (List String)} {replies : Nat → Reply Snapshot}

theorem sleeps_held_iff (n : Nat) :
    SleepsHeld task ((List.range (n + 1)).map (scheduled task replies)) ↔
      ∀ i < n, Held task replies i := by
  simp [SleepsHeld, Held, scheduled]

theorem schedule_paced {round : Duration → Duration} (rounding : Duration.Rounding round)
    (sleeps : task.start.SleepsTo round) (n : Nat) (pending : ∀ i < n, PendsAt task replies i)
    (settled : ¬ PendsAt task replies n) (held : ∀ i < n, Held task replies i) :
    Paced task round ((List.range (n + 1)).map (scheduled task replies))
      (done task replies n) := by
  have listed (i : Nat) (inside : i < ((List.range (n + 1)).map (scheduled task replies)).length) :
      ((List.range (n + 1)).map (scheduled task replies))[i] = scheduled task replies i := by
    simp
  have length : ((List.range (n + 1)).map (scheduled task replies)).length = n + 1 := by simp
  have by_deadline (i : Nat) (inside : i ≤ n) :
      (began task replies i).nanos ≤ (task.start.after (round task.settings.budget)).nanos :=
    began_by_deadline rounding sleeps i (fun j below => pending j (Nat.lt_of_lt_of_le below inside))
      fun j below => held j (Nat.lt_of_lt_of_le below inside)
  constructor
  case first => simp [List.range_succ_eq_map, scheduled, began]
  case goes_on =>
    intro i inside
    rw [listed i inside, length]
    rw [length] at inside
    constructor
    · intro pends
      rcases Nat.lt_succ_iff_lt_or_eq.mp inside with below | same
      · exact Nat.succ_lt_succ below
      · exact absurd (same ▸ pends) settled
    · intro more
      exact pending i (Nat.lt_of_succ_lt_succ more)
  case next =>
    intro i more
    rw [listed, listed]
    rw [length] at more
    exact (held i (Nat.lt_of_succ_lt_succ more)).began_next sleeps
  case begin_by =>
    intro visit member
    obtain ⟨i, inside, rfl⟩ := List.mem_map.mp member
    exact by_deadline i (Nat.le_of_lt_succ (List.mem_range.mp inside))
  case ends_by =>
    intro visit last
    have same : scheduled task replies n = visit := by
      simpa [List.range_succ] using last
    subst same
    have by_then := by_deadline n (Nat.le_refl n)
    simp only [scheduled, Instant.since]
    omega
  case few =>
    rw [length]
    cases n with
    | zero => exact Nat.succ_le_succ (Nat.zero_le _)
    | succ n =>
        have within := pending_within_naps rounding sleeps
          (fun i below => held i (Nat.lt_succ_of_lt below)) (pending n (Nat.lt_succ_self n))
        exact Nat.succ_le_succ within

theorem schedule_filled {round : Duration → Duration} (rounding : Duration.Rounding round)
    (sleeps : task.start.SleepsTo round) (interval : task.settings.interval.Whole)
    (budget : task.settings.budget.Whole) (instantly : ∀ i, (replies i).delay = .zero)
    (undecided : ∀ i, Undecided task.convergence (replies i).answer) (n : Nat)
    (pending : ∀ i < n, PendsAt task replies i) (settled : ¬ PendsAt task replies n)
    (held : ∀ i < n, Held task replies i) :
    n = task.settings.naps ∧
      done task replies n = task.start.after (round task.settings.budget) ∧
      ((List.range (n + 1)).map (scheduled task replies)).map (·.began) =
        (List.range (n + 1)).map fun i => task.start.after (task.settings.slot round i) := by
  have within (i : Nat) (below : i < n) : i < task.settings.naps :=
    pending_within_naps rounding sleeps
      (fun j earlier => held j (Nat.lt_trans earlier below)) (pending i below)
  have slots (i : Nat) (inside : i ≤ n) :
      began task replies i = task.start.after (task.settings.slot round i) :=
    began_at_slot rounding sleeps interval budget instantly i
      (fun j below =>
        (task.settings.below_naps_iff j).mp (within j (Nat.lt_of_lt_of_le below inside)))
      fun j below => held j (Nat.lt_of_lt_of_le below inside)
  have answered : done task replies n = began task replies n := by
    simp [done, instantly n, Instant.after, Duration.zero]
  -- The last answer is pending as long as there is budget, so none is left.
  have spent : ¬ n < task.settings.naps := by
    intro more
    have early := (task.settings.below_naps_iff n).mp more
    rw [PendsAt, (undecided n).pends_iff, answered, slots n (Nat.le_refl n)] at settled
    simp only [Instant.since, Instant.after, Nat.add_sub_cancel_left] at settled
    exact settled (Settings.slot_early rounding interval budget early).2
  have count : n = task.settings.naps := by
    refine Nat.le_antisymm (Nat.le_of_not_lt fun more => ?_) (Nat.le_of_not_lt spent)
    exact Nat.lt_irrefl _ (within task.settings.naps more)
  refine ⟨count, ?_, ?_⟩
  · rw [answered, slots n (Nat.le_refl n), count, Settings.slot_last]
  · rw [List.map_map]
    apply List.map_congr_left
    intro i member
    exact slots i (Nat.le_of_lt_succ (List.mem_range.mp member))

theorem slots_up {settings : Settings} (interval : settings.interval.Whole)
    (budget : settings.budget.Whole) (start : Instant) :
    ((List.range (settings.naps + 1)).map fun i =>
        start.after (settings.slot Duration.roundedUp i)) =
      ((List.range settings.naps).map fun i => start.after ⟨i * settings.interval.nanos⟩) ++
        [start.after settings.budget] := by
  rw [List.range_succ, List.map_append, List.map_singleton, Settings.slot_last,
    Duration.rounded_up_whole budget]
  congr 1
  apply List.map_congr_left
  intro i member
  have early := (settings.below_naps_iff i).mp (List.mem_range.mp member)
  cases i with
  | zero => simp [Settings.slot, Duration.zero]
  | succ i =>
      rw [settings.slot_succ, Nat.min_eq_left (Nat.le_of_lt early),
        Duration.rounded_up_whole (interval.times (i + 1))]

theorem deadline_holds_sleeps {progress : Progress} {world : World (List String)}
    (scripted : task.fetcher = Script.sequence replies)
    (start : Before task replies {} 0 progress world) (calm : ∀ i, (replies i).cancels = false)
    (inside : (task.start.after task.settings.budget).Representable) :
    SleepsHeld task (visits task progress world) := by
  obtain ⟨n, _, _, pending, _, _, _, _, visited⟩ := start.ends scripted calm
  rw [visited, sleeps_held_iff]
  exact fun i below => held_by_deadline (pending i below) inside

end Visits

def everAdded : Nat → Reply Snapshot := fun _ => { answer := .ok (.bare "server" .pendingAdd) }

end Wait

end ResourceWatch
