import ResourceWatch.Proofs.Wait.Schedule

/-!
What a wait comes to when it is called off. The token cuts the run that would have been without it:
up to the cut both make the same calls at the same times, and the cut keeps what was complete by
then. It can fall into a fetch or into the sleep behind one, and a call can make it itself.
-/

namespace ResourceWatch.Wait

section Schedule

variable {Provider : Type} (task : Task Provider) (replies : Nat → Reply Snapshot)

theorem filter_scheduled (test : Visit → Bool) (count picked : Nat) (inside : picked ≤ count)
    (splits : ∀ i < count, test (scheduled task replies i) = true ↔ i < picked) :
    ((List.range count).map (scheduled task replies)).filter test =
      (List.range picked).map (scheduled task replies) := by
  induction count with
  | zero =>
      have none : picked = 0 := by omega
      subst none
      rfl
  | succ count ih =>
      have last := splits count (Nat.lt_succ_self count)
      -- Either the last visit is not picked, or all are.
      rcases Nat.lt_or_eq_of_le inside with short | same
      · have earlier := ih (Nat.le_of_lt_succ short)
          fun i below => splits i (Nat.lt_succ_of_lt below)
        have fails : test (scheduled task replies count) = false := by
          rw [Bool.eq_false_iff, ne_eq, last]
          omega
        rw [List.range_succ, List.map_append, List.filter_append, earlier]
        simp [fails]
      · subst same
        apply List.filter_eq_self.mpr
        intro visit member
        obtain ⟨i, below, rfl⟩ := List.mem_map.mp member
        exact (splits i (List.mem_range.mp below)).mpr (List.mem_range.mp below)

theorem latest_of_scheduled (count : Nat) :
    ((List.range count).map (scheduled task replies)).getLast?.bind (·.answer.toOption) =
      latest replies count := by
  cases count with
  | zero => rfl
  | succ count => simp [List.range_succ, scheduled, latest]

theorem scheduled_pairwise (count : Nat) (pending : ∀ i < count, PendsAt task replies i) :
    ((List.range (count + 1)).map (scheduled task replies)).Pairwise fun early late =>
      early.began.nanos < late.began.nanos ∧ early.done.nanos ≤ late.done.nanos := by
  rw [List.pairwise_map]
  refine List.pairwise_lt_range.imp_of_mem ?_
  intro early late _ inside order
  have below : early < count := by
    have := List.mem_range.mp inside
    omega
  constructor
  · calc (began task replies early).nanos
        ≤ (done task replies early).nanos := began_le_done task replies early
      _ < (began task replies (early + 1)).nanos := done_lt_began task replies (pending early below)
      _ ≤ (began task replies late).nanos := began_mono task replies order
  · exact done_mono task replies (Nat.le_of_lt order)

theorem fetch_or_sleep (due : Instant) (n : Nat) (ahead : task.start.nanos < due.nanos)
    (inside : due.nanos ≤ (done task replies n).nanos) :
    ∃ k ≤ n, (began task replies k).nanos < due.nanos ∧
      (due.nanos ≤ (done task replies k).nanos ∨
        k < n ∧ (done task replies k).nanos < due.nanos ∧
          due.nanos ≤ (began task replies (k + 1)).nanos) := by
  induction n with
  | zero => exact ⟨0, Nat.le_refl 0, ahead, Or.inl inside⟩
  | succ n ih =>
      by_cases fetching : (began task replies (n + 1)).nanos < due.nanos
      · exact ⟨n + 1, Nat.le_refl _, fetching, Or.inl inside⟩
      -- Attempt `n + 1` has not begun by then: the instant is in the sleep before it or earlier.
      · by_cases earlier : due.nanos ≤ (done task replies n).nanos
        · obtain ⟨k, below, started, place⟩ := ih earlier
          refine ⟨k, Nat.le_succ_of_le below, started, ?_⟩
          rcases place with fetched | ⟨before, slept⟩
          · exact Or.inl fetched
          · exact Or.inr ⟨Nat.lt_succ_of_lt before, slept⟩
        · have started := began_le_done task replies n
          exact ⟨n, Nat.le_succ n, by omega, Or.inr ⟨Nat.lt_succ_self n, by omega, by omega⟩⟩

/-- How many visits of a schedule are complete and how many are begun before an instant. -/
structure CutAt (due : Instant) (completed called : Nat) : Prop where
  complete : ∀ i, (done task replies i).nanos < due.nanos ↔ i < completed
  begun : ∀ i, (began task replies i).nanos < due.nanos ↔ i < called

theorem splits_at (time : Nat → Instant) (due : Instant) (count : Nat)
    (below : ∀ i < count, (time i).nanos < due.nanos)
    (above : ∀ i, count ≤ i → due.nanos ≤ (time i).nanos) (i : Nat) :
    (time i).nanos < due.nanos ↔ i < count := by
  constructor
  · intro before
    rcases Nat.lt_or_ge i count with inside | late
    · exact inside
    · exact absurd before (Nat.not_lt.mpr (above i late))
  · exact below i

theorem cut_in_fetch (due : Instant) (k : Nat)
    (started : (began task replies k).nanos < due.nanos)
    (fetching : due.nanos ≤ (done task replies k).nanos) : CutAt task replies due k (k + 1) := by
  constructor
  · apply splits_at
    · intro i below
      exact Nat.lt_of_le_of_lt (done_le_later task replies below) started
    · intro i above
      exact Nat.le_trans fetching (done_mono task replies above)
  · apply splits_at
    · intro i below
      exact Nat.lt_of_le_of_lt (began_mono task replies (Nat.le_of_lt_succ below)) started
    · intro i above
      exact Nat.le_trans fetching (done_le_later task replies above)

theorem cut_in_sleep (due : Instant) (k : Nat)
    (fetched : (done task replies k).nanos < due.nanos)
    (sleeping : due.nanos ≤ (began task replies (k + 1)).nanos) :
    CutAt task replies due (k + 1) (k + 1) := by
  have complete : ∀ i < k + 1, (done task replies i).nanos < due.nanos := fun i below =>
    Nat.lt_of_le_of_lt (done_mono task replies (Nat.le_of_lt_succ below)) fetched
  have asleep : ∀ i, k + 1 ≤ i → due.nanos ≤ (began task replies i).nanos := fun i above =>
    Nat.le_trans sleeping (began_mono task replies above)
  constructor
  · apply splits_at _ _ _ complete
    intro i above
    exact Nat.le_trans (asleep i above) (began_le_done task replies i)
  · apply splits_at _ _ _ _ asleep
    intro i below
    exact Nat.lt_of_le_of_lt (began_le_done task replies i) (complete i below)

theorem CutAt.completed {task : Task Provider} {replies : Nat → Reply Snapshot} {due : Instant}
    {completed called : Nat} (cut : CutAt task replies due completed called) {count : Nat}
    (inside : completed ≤ count) :
    (((List.range count).map (scheduled task replies)).filter fun visit =>
      visit.done.nanos < due.nanos) = (List.range completed).map (scheduled task replies) := by
  apply filter_scheduled task replies _ _ _ inside
  intro i _
  exact decide_eq_true_iff.trans (cut.complete i)

theorem CutAt.called {task : Task Provider} {replies : Nat → Reply Snapshot} {due : Instant}
    {completed called : Nat} (cut : CutAt task replies due completed called) {count : Nat}
    (inside : called ≤ count) :
    (((List.range count).map (scheduled task replies)).filter fun visit =>
      visit.began.nanos < due.nanos) = (List.range called).map (scheduled task replies) := by
  apply filter_scheduled task replies _ _ _ inside
  intro i _
  exact decide_eq_true_iff.trans (cut.begun i)

theorem began_agrees (other : Nat → Reply Snapshot) (fetcher : Fetcher Provider String Snapshot)
    (n : Nat) (agree : ∀ i < n, other i = replies i) :
    began { task with fetcher } other n = began task replies n := by
  induction n with
  | zero => rfl
  | succ n ih =>
      have before := ih fun i below => agree i (Nat.lt_succ_of_lt below)
      simp only [began, before, agree n (Nat.lt_succ_self n)]
      rfl

theorem pends_agrees (other : Nat → Reply Snapshot) (fetcher : Fetcher Provider String Snapshot)
    (n : Nat) (agree : ∀ i ≤ n, other i = replies i) (pends : PendsAt task replies n) :
    PendsAt { task with fetcher } other n := by
  have same : done { task with fetcher } other n = done task replies n := by
    simp only [done, agree n (Nat.le_refl n),
      began_agrees task replies other fetcher n fun i below => agree i (Nat.le_of_lt below)]
  unfold PendsAt at pends ⊢
  rw [same, agree n (Nat.le_refl n)]
  generalize (replies n).answer = answer at pends ⊢
  cases pends with
  | intro snapshot missed intact early => exact .intro snapshot missed intact early

end Schedule

section Run

/-- A wait was called off at an instant, with so many attempts complete and so many calls made. -/
structure CalledOff (resource : String) (completed : Nat) (last : Option Snapshot) (called : Nat)
    (instant : Instant) (wait : Except Interruption Outcome × World (List String)) : Prop where
  result : wait.1 = .error (.cancelled resource (countOf completed) last)
  calls : wait.2.provider = List.replicate called resource
  now : wait.2.now = instant
  fired : wait.2.token.fired = true

variable {task : Task (List String)} {replies : Nat → Reply Snapshot}
variable {progress : Progress} {world : World (List String)}

theorem run_cut (scripted : task.fetcher = Script.sequence replies) (due : Instant)
    (start : Before task replies { due := some due } 0 progress world)
    (calm : ∀ i, (replies i).cancels = false) (n : Nat)
    (pending : ∀ i < n, PendsAt task replies i) (ahead : task.start.nanos < due.nanos)
    (inside : due.nanos ≤ (done task replies n).nanos) :
    ∃ completed called, completed ≤ n + 1 ∧ called ≤ n + 1 ∧
      CutAt task replies due completed called ∧
      CalledOff task.resource completed (latest replies completed) called due
        (run task progress world) := by
  obtain ⟨k, below, started, place⟩ := fetch_or_sleep task replies due n ahead inside
  obtain ⟨later, reached, before, ran, _⟩ := start.reaches scripted k (fun i _ => calm i)
    (fun i inside => pending i (Nat.lt_of_lt_of_le inside below)) (Token.due_spares started)
  -- The token spares the wait up to attempt `k`, whose fetch or sleep it falls into.
  rcases place with fetching | ⟨short, fetched, sleeping⟩
  · obtain ⟨log, ends⟩ := attempt_cut_in_fetch task later reached _ _ (before.called scripted)
      (by rw [before.token]) (calm k) due (by
        rw [before.token, before.now]
        exact Token.fired_by_due _ _ _ (Nat.le_of_lt started) fetching)
    refine ⟨k, k + 1, by omega, by omega, cut_in_fetch task replies due k started fetching, ?_⟩
    rw [ran, run_ended task later reached _ _ ends]
    exact ⟨by rw [before.attempts, before.last], rfl, rfl, rfl⟩
  · obtain ⟨log, ends⟩ := attempt_cut_in_nap task later reached _ _ (before.called scripted)
      (calm k) (by rw [before.token, before.now]; exact Token.due_spares fetched)
      (by rw [before.now]; exact pending k short) due (by
        rw [before.token, before.now]
        exact Token.fired_by_due _ _ _ (Nat.le_of_lt fetched) sleeping)
    refine ⟨k + 1, k + 1, by omega, by omega,
      cut_in_sleep task replies due k fetched sleeping, ?_⟩
    rw [ran, run_ended task later reached _ _ ends]
    exact ⟨by rw [before.attempts, next_count_of]; rfl, rfl, rfl, rfl⟩

theorem run_cut_by_call (scripted : task.fetcher = Script.sequence replies)
    (start : Before task replies {} 0 progress world) (n : Nat)
    (calm : ∀ i < n, (replies i).cancels = false) (cancels : (replies n).cancels = true)
    (pending : ∀ i < n, PendsAt task replies i) :
    CalledOff task.resource n (latest replies n) (n + 1) (began task replies n)
      (run task progress world) := by
  obtain ⟨later, reached, before, ran, _⟩ := start.reaches scripted n calm pending
    (Token.idle_spares _)
  obtain ⟨log, ends⟩ := attempt_fires task later reached _ _ (before.called scripted)
    (by rw [before.token]) cancels
  rw [ran, run_ended task later reached _ _ ends]
  exact ⟨by rw [before.attempts, before.last], rfl, before.now, rfl⟩

end Run

section Token

variable (task : Task (List String)) (replies : Nat → Reply Snapshot) (world : World (List String))

theorem run_cut_after (scripted : task.fetcher = Script.sequence replies) (delay : Duration)
    (uncalled : world.provider = []) (started : world.now = task.start)
    (calm : ∀ i, (replies i).cancels = false) (n : Nat)
    (pending : ∀ i < n, PendsAt task replies i)
    (inside : (task.start.after delay).nanos ≤ (done task replies n).nanos) :
    ∃ completed called, completed ≤ n + 1 ∧ called ≤ n + 1 ∧
      CutAt task replies (task.start.after delay) completed called ∧
      CalledOff task.resource completed (latest replies completed) called
        (task.start.after delay)
        (run task {} { world with token := .firingAfter task.start delay }) := by
  -- A token that is due at once has fired before the first call, which is then not made.
  by_cases instantly : delay.nanos = 0
  · have due : task.start.after delay = task.start := by simp [Instant.after, instantly]
    have token : Token.firingAfter task.start delay = { fired := true } := if_pos instantly
    obtain ⟨log, ends⟩ := attempt_fired task {} { world with token := { fired := true } } rfl
    refine ⟨0, 0, Nat.zero_le _, Nat.zero_le _, ?_, ?_⟩
    · rw [due]
      have ahead : ∀ i, task.start.nanos ≤ (began task replies i).nanos := fun i =>
        began_mono task replies (Nat.zero_le i)
      constructor
      · apply splits_at _ _ _ (fun i below => absurd below (Nat.not_lt_zero i))
        intro i _
        exact Nat.le_trans (ahead i) (began_le_done task replies i)
      · exact splits_at _ _ _ (fun i below => absurd below (Nat.not_lt_zero i)) fun i _ => ahead i
    · rw [token, run_ended task _ _ _ _ ends, due]
      exact ⟨rfl, uncalled, started, rfl⟩
  · have token : Token.firingAfter task.start delay = { due := some (task.start.after delay) } :=
      if_neg instantly
    have start : Before task replies { due := some (task.start.after delay) } 0 {}
        { world with token := .firingAfter task.start delay } :=
      ⟨rfl, rfl, uncalled, started, token⟩
    apply run_cut scripted _ start calm n pending _ inside
    simp only [Instant.after]
    omega

theorem run_spared_after (scripted : task.fetcher = Script.sequence replies) (delay : Duration)
    (uncalled : world.provider = []) (started : world.now = task.start)
    (calm : ∀ i, (replies i).cancels = false) (n : Nat)
    (pending : ∀ i < n, PendsAt task replies i) (result : Except Interruption Outcome)
    (settles : Settles task (countOf (n + 1)) (done task replies n) (replies n).answer result)
    (late : (done task replies n).nanos < (task.start.after delay).nanos) :
    ∃ last, run task {} { world with token := .firingAfter task.start delay } = (result, last) ∧
      last.provider = List.replicate (n + 1) task.resource ∧ last.now = done task replies n := by
  have future : delay.nanos ≠ 0 := by
    intro instantly
    have fetched : task.start.nanos ≤ (done task replies n).nanos :=
      Nat.le_trans (began_mono task replies (Nat.zero_le n)) (began_le_done task replies n)
    simp only [Instant.after, instantly] at late
    omega
  have token : Token.firingAfter task.start delay = { due := some (task.start.after delay) } :=
    if_neg future
  have start : Before task replies { due := some (task.start.after delay) } 0 {}
      { world with token := .firingAfter task.start delay } :=
    ⟨rfl, rfl, uncalled, started, token⟩
  obtain ⟨last, ran, calls, ended, _⟩ := start.settles scripted n calm pending
    (Token.due_spares late) result settles
  exact ⟨last, ran, calls, ended⟩

theorem run_cut_by_reply (uncalled : world.provider = []) (started : world.now = task.start)
    (idle : world.token = {}) (calm : ∀ i, (replies i).cancels = false) (n : Nat)
    (pending : ∀ i < n, PendsAt task replies i) (reply : Reply Snapshot)
    (cancels : reply.cancels = true) :
    CalledOff task.resource n (latest replies n) (n + 1) (began task replies n)
      (run { task with fetcher := Script.sequence fun i => if i = n then reply else replies i }
        {} world) := by
  -- The two scripts agree before attempt `n`, and nothing of the new reply but its firing counts.
  let other : Nat → Reply Snapshot := fun i => if i = n then reply else replies i
  have agree : ∀ i < n, other i = replies i := fun i below => if_neg (Nat.ne_of_lt below)
  have latestSame : latest other n = latest replies n := by
    cases n with
    | zero => rfl
    | succ n => simp only [latest, agree n (Nat.lt_succ_self n)]
  have start : Before { task with fetcher := Script.sequence other } other {} 0 {} world :=
    ⟨rfl, rfl, uncalled, started, idle⟩
  have off := run_cut_by_call rfl start n
    (fun i below => by rw [agree i below]; exact calm i)
    (by simp only [other, ↓reduceIte]; exact cancels)
    (fun i below => pends_agrees task replies other _ i
      (fun j upTo => agree j (Nat.lt_of_le_of_lt upTo below)) (pending i below))
  rw [began_agrees task replies other _ n agree, latestSame] at off
  exact off

end Token

theorem wait_called_off_before {Provider : Type} (fetcher : Fetcher Provider String Snapshot)
    (resource : String) (convergence : Convergence) (settings : Settings)
    (world : World Provider) (fired : world.token.fired = true) :
    ∃ log, pollUntil fetcher resource convergence settings world =
      (.error (.cancelled resource 0 none), { world with log }) := by
  obtain ⟨log, ends⟩ := attempt_fired ⟨fetcher, resource, convergence, settings, world.now⟩ {}
    world fired
  exact ⟨log, run_ended _ _ _ _ _ ends⟩

/-- A token that fires after the end of a run leaves it as it would have been; one that fires by
then cuts it, and keeps the visits that were complete before. A call can fire it too, and a token
that has fired allows no call any more. -/
theorem cancellation_cuts_run (replies : Nat → Reply Snapshot)
    (calm : ∀ i, (replies i).cancels = false) (resource : String) (convergence : Convergence)
    (settings : Settings) (world : World (List String)) (uncalled : world.provider = []) :
    let wait (replies : Nat → Reply Snapshot) (token : Token) :=
      pollUntil (Script.sequence replies) resource convergence settings { world with token }
    let whole := wait replies {}
    let seen := visits ⟨Script.sequence replies, resource, convergence, settings, world.now⟩ {}
      { world with token := {} }
    (seen.Pairwise fun early late =>
      early.began.nanos < late.began.nanos ∧ early.done.nanos ≤ late.done.nanos) ∧
    (∀ delay : Duration,
      let due := world.now.after delay
      let cut := wait replies (.firingAfter world.now delay)
      let completed := seen.filter fun visit => visit.done.nanos < due.nanos
      let called := seen.filter fun visit => visit.began.nanos < due.nanos
      (whole.2.now.nanos < due.nanos →
        cut.1 = whole.1 ∧ cut.2.provider = whole.2.provider ∧ cut.2.now = whole.2.now) ∧
      (due.nanos ≤ whole.2.now.nanos →
        CalledOff resource completed.length (completed.getLast?.bind (·.answer.toOption))
          called.length due cut)) ∧
    (∀ (n : Nat) (reply : Reply Snapshot) (inside : n < seen.length), reply.cancels = true →
      CalledOff resource n ((seen.take n).getLast?.bind (·.answer.toOption)) (n + 1)
        seen[n].began (wait (fun i => if i = n then reply else replies i) {})) ∧
    (∀ {Provider : Type} (fetcher : Fetcher Provider String Snapshot) (resource : String)
      (convergence : Convergence) (settings : Settings) (later : World Provider),
      later.token.fired = true →
        ∃ log, pollUntil fetcher resource convergence settings later =
          (.error (.cancelled resource 0 none), { later with log })) := by
  intro wait whole seen
  let task : Task (List String) :=
    ⟨Script.sequence replies, resource, convergence, settings, world.now⟩
  obtain ⟨n, result, pending, settles⟩ := first_settles task replies
  -- The run that is cut is the one over the same replies with a token that stays quiet.
  have quiet : Before task replies {} 0 {} { world with token := {} } :=
    ⟨rfl, rfl, uncalled, rfl, rfl⟩
  obtain ⟨last, ran, calls, ended, visited⟩ := quiet.settles rfl n calm pending
    (Token.idle_spares _) result settles
  have answered : whole = (result, last) := ran
  have listed : seen = (List.range (n + 1)).map (scheduled task replies) := visited
  refine ⟨?_, ?_, ?_, fun fetcher resource convergence settings later fired =>
    wait_called_off_before fetcher resource convergence settings later fired⟩
  · rw [listed]
    exact scheduled_pairwise task replies n pending
  · intro delay due cut completed called
    rw [answered, ended]
    constructor
    · intro late
      obtain ⟨cutLast, cutRan, cutCalls, cutEnded⟩ := run_spared_after task replies world
        rfl delay uncalled rfl calm n pending result settles late
      have same : cut = (result, cutLast) := cutRan
      rw [same]
      exact ⟨rfl, cutCalls.trans calls.symm, cutEnded⟩
    · intro inside
      obtain ⟨completedCount, calledCount, completedInside, calledInside, split, off⟩ :=
        run_cut_after task replies world rfl delay uncalled rfl calm n pending inside
      have completedSeen :
          completed = (List.range completedCount).map (scheduled task replies) := by
        simp only [completed, listed]
        exact split.completed completedInside
      have calledSeen : called = (List.range calledCount).map (scheduled task replies) := by
        simp only [called, listed]
        exact split.called calledInside
      rw [completedSeen, calledSeen, latest_of_scheduled]
      simp only [List.length_map, List.length_range]
      exact off
  · intro k reply inside cancels
    have below : k < n + 1 := by simpa [listed] using inside
    have taken : seen.take k = (List.range k).map (scheduled task replies) := by
      rw [listed, ← List.map_take, List.take_range, Nat.min_eq_left (Nat.le_of_lt below)]
    have visit : seen[k].began = began task replies k := by
      simp only [listed, List.getElem_map, List.getElem_range, scheduled]
    rw [taken, latest_of_scheduled, visit]
    exact run_cut_by_reply task replies { world with token := {} } uncalled rfl rfl calm k
      (fun i before => pending i (by omega)) reply cancels

/-- The wait for the resource of `soonNormal` sleeps a minute after its first look; a token that
fires in that minute leaves it with what the first look showed. -/
theorem soon_normal_cut_in_sleep :
    (∀ i, (soonNormal i).cancels = false) ∧
      CalledOff "server" 1 (some (.bare "server" .pendingAdd)) 1 ⟨5000000⟩
        (pollUntil (Script.sequence soonNormal) "server" .normal .standard
          { provider := [], token := .firingAfter .origin (.ofMillis 5) }) := by
  refine ⟨soon_normal_calm, ?_⟩
  obtain ⟨last, ran, ended, visited⟩ := soon_normal_ends
  have whole : pollUntil (Script.sequence soonNormal) "server" .normal .standard
      { provider := [] } = (_, last) := ran
  have listed : visits ⟨Script.sequence soonNormal, "server", .normal, .standard, .origin⟩ {}
      { provider := [] } = _ := visited
  have cuts := (cancellation_cuts_run soonNormal soon_normal_calm "server" .normal .standard
    { provider := [] } rfl).2.1 (.ofMillis 5)
  dsimp only at cuts
  rw [whole, listed, ended] at cuts
  exact cuts.2 (by decide)

end ResourceWatch.Wait
