import ResourceWatch.Proofs.Wait.Attempt
import ResourceWatch.Script.Run

/-!
The course of a wait that nobody calls off.
-/

namespace ResourceWatch.Wait

/-!
When the fetches of a wait begin and end. The visits of a wait are the fetches it has answered,
taken from its own attempts. Over a sequence of replies they follow a schedule that needs no look at
the run: each attempt takes the delay of its reply, and the next begins where the sleep behind it
ends. The state before an attempt is known as soon as all earlier replies left the wait pending.
-/

section Visits

variable {Provider : Type}

structure Visit where
  began : Instant
  done : Instant
  answer : Except FetchError Snapshot

def visit? (task : Task Provider) (world : World Provider) : Option Visit :=
  match world.fetch task.fetcher task.resource true with
  | (some answer, answered) => some ⟨world.now, answered.now, answer⟩
  | (none, _) => none

set_option linter.unusedVariables false in
def visits (task : Task Provider) (progress : Progress) (world : World Provider) : List Visit :=
  match more : attempt task progress world with
  | .ended _ _ => (visit? task world).toList
  | .again next awake => (visit? task world).toList ++ visits task next awake
termination_by task.start.nanos + task.settings.budget.nanos - world.now.nanos
decreasing_by
  have := attempt_again task progress next world awake more
  omega

theorem visits_ended (task : Task Provider) (progress : Progress) (world last : World Provider)
    (result : Except Interruption Outcome)
    (ends : attempt task progress world = .ended result last) :
    visits task progress world = (visit? task world).toList := by
  rw [visits]
  split
  · rfl
  · rename_i next awake same
    rw [ends] at same
    cases same

theorem visits_again (task : Task Provider) (progress next : Progress)
    (world awake : World Provider) (more : attempt task progress world = .again next awake) :
    visits task progress world = (visit? task world).toList ++ visits task next awake := by
  rw [visits]
  split
  · rename_i result last same
    rw [more] at same
    cases same
  · rename_i other final same
    rw [more] at same
    cases same
    rfl

end Visits

section Schedule

variable {Provider : Type} (task : Task Provider) (replies : Nat → Reply Snapshot)

/-- When the attempts of a wait begin, counted from zero, as long as each leaves it pending. -/
def began : Nat → Instant
  | 0 => task.start
  | n + 1 =>
      let done := (began n).after (replies n).delay
      done.wakeAfter (nap task done)

def done (n : Nat) : Instant := (began task replies n).after (replies n).delay

def scheduled (n : Nat) : Visit := ⟨began task replies n, done task replies n, (replies n).answer⟩

def latest : Nat → Option Snapshot
  | 0 => none
  | n + 1 => (replies n).answer.toOption

def PendsAt (n : Nat) : Prop := Pends task (done task replies n) (replies n).answer

theorem began_le_done (n : Nat) : (began task replies n).nanos ≤ (done task replies n).nanos :=
  Nat.le_add_right ..

theorem done_le_began (n : Nat) :
    (done task replies n).nanos ≤ (began task replies (n + 1)).nanos :=
  Instant.le_wake_after _ _

theorem began_mono {early late : Nat} (order : early ≤ late) :
    (began task replies early).nanos ≤ (began task replies late).nanos := by
  induction order with
  | refl => exact Nat.le_refl _
  | @step middle _ ih =>
      have fetched := began_le_done task replies middle
      have slept := done_le_began task replies middle
      exact Nat.le_trans ih (Nat.le_trans fetched slept)

theorem done_le_later {early late : Nat} (order : early < late) :
    (done task replies early).nanos ≤ (began task replies late).nanos :=
  Nat.le_trans (done_le_began task replies early) (began_mono task replies order)

theorem done_mono {early late : Nat} (order : early ≤ late) :
    (done task replies early).nanos ≤ (done task replies late).nanos := by
  rcases Nat.eq_or_lt_of_le order with same | before
  · subst same
    exact Nat.le_refl _
  · exact Nat.le_trans (done_le_later task replies before) (began_le_done task replies late)

theorem done_lt_began {n : Nat} (pends : PendsAt task replies n) :
    (done task replies n).nanos < (began task replies (n + 1)).nanos :=
  Instant.wake_later _ _ (nap_pos task _ pends.early)

theorem began_lower (n : Nat) (pending : ∀ i < n, PendsAt task replies i) :
    task.start.nanos + n ≤ (began task replies n).nanos := by
  induction n with
  | zero => exact Nat.le_refl _
  | succ n ih =>
      have before := ih fun i below => pending i (Nat.lt_succ_of_lt below)
      have fetched := began_le_done task replies n
      have slept := done_lt_began task replies (pending n (Nat.lt_succ_self n))
      omega

theorem pending_below (n : Nat) :
    (∀ i < n, PendsAt task replies i) ∨
      ∃ first < n, (∀ i < first, PendsAt task replies i) ∧ ¬ PendsAt task replies first := by
  induction n with
  | zero => exact Or.inl fun i below => absurd below (Nat.not_lt_zero i)
  | succ n ih =>
      rcases ih with pending | ⟨first, below, settled⟩
      · by_cases pends : PendsAt task replies n
        · refine Or.inl fun i below => ?_
          rcases Nat.lt_succ_iff_lt_or_eq.mp below with earlier | same
          · exact pending i earlier
          · subst i; exact pends
        · exact Or.inr ⟨n, Nat.lt_succ_self n, pending, pends⟩
      · exact Or.inr ⟨first, Nat.lt_succ_of_lt below, settled⟩

/-- The budget runs out, so some attempt is the first to settle the wait. -/
theorem first_settles :
    ∃ n result, (∀ i < n, PendsAt task replies i) ∧
      Settles task (countOf (n + 1)) (done task replies n) (replies n).answer result := by
  -- As many pending attempts as the budget has nanoseconds would have used it up.
  rcases pending_below task replies (task.settings.budget.nanos + 1) with
    pending | ⟨n, _, pending, unsettled⟩
  · have before := began_lower task replies task.settings.budget.nanos
      fun i below => pending i (Nat.lt_succ_of_lt below)
    have fetched := began_le_done task replies task.settings.budget.nanos
    have early := (pending _ (Nat.lt_succ_self _)).early
    simp only [Instant.since] at early
    omega
  · rcases pends_or_settles task (countOf (n + 1)) (done task replies n) (replies n).answer with
      pends | ⟨result, settles⟩
    · exact absurd pends unsettled
    · exact ⟨n, result, pending, settles⟩

end Schedule

theorem take_map_range {Item : Type} (item : Nat → Item) {few many : Nat} (order : few ≤ many) :
    ((List.range many).map item).take few = (List.range few).map item := by
  rw [← List.map_take, List.take_range, Nat.min_eq_left order]

section Run

variable (task : Task (List String)) (replies : Nat → Reply Snapshot) (token : Token)

/-- The state before an attempt, counted from zero, of a wait over a sequence of replies whose
earlier attempts all left it pending. -/
structure Before (n : Nat) (progress : Progress) (world : World (List String)) : Prop where
  attempts : progress.attempts = countOf n
  last : progress.last = latest replies n
  calls : world.provider = List.replicate n task.resource
  now : world.now = began task replies n
  token : world.token = token

variable {task replies token}
variable {n : Nat} {progress : Progress} {world : World (List String)}

theorem Before.called (scripted : task.fetcher = Script.sequence replies)
    (before : Before task replies token n progress world) :
    task.fetcher task.resource world.provider =
      (replies n, List.replicate (n + 1) task.resource) := by
  rw [scripted, before.calls]
  simp only [Script.sequence, List.length_replicate, List.replicate_succ']

theorem Before.fetched (scripted : task.fetcher = Script.sequence replies)
    (before : Before task replies token n progress world) (calm : (replies n).cancels = false)
    (spared : token.Spares (done task replies n)) :
    visit? task world = some (scheduled task replies n) := by
  have fetched := World.fetch_spared world task.fetcher task.resource _ _
    (before.called scripted) calm (by rw [before.token, before.now]; exact spared)
  simp only [visit?, fetched, scheduled, done, before.now]

theorem Before.next (scripted : task.fetcher = Script.sequence replies)
    (before : Before task replies token n progress world) (calm : (replies n).cancels = false)
    (pends : PendsAt task replies n) (spared : token.Spares (began task replies (n + 1))) :
    ∃ next awake, attempt task progress world = .again next awake ∧
      Before task replies token (n + 1) next awake := by
  have answered : token.Spares (done task replies n) :=
    spared.earlier (done_le_began task replies n)
  obtain ⟨log, more⟩ := attempt_pends task progress world _ _ (before.called scripted) calm
    (by rw [before.token, before.now]; exact answered)
    (by rw [before.now]; exact pends)
    (by rw [before.token, before.now]; exact spared)
  refine ⟨_, _, more, ?_, rfl, rfl, ?_, before.token⟩
  · rw [before.attempts, next_count_of]
  · rw [before.now]
    rfl

theorem Before.reaches (scripted : task.fetcher = Script.sequence replies)
    (start : Before task replies token 0 progress world) (n : Nat)
    (calm : ∀ i < n, (replies i).cancels = false) (pending : ∀ i < n, PendsAt task replies i)
    (spared : token.Spares (began task replies n)) :
    ∃ later reached, Before task replies token n later reached ∧
      run task progress world = run task later reached ∧
      visits task progress world =
        (List.range n).map (scheduled task replies) ++ visits task later reached := by
  induction n with
  | zero => exact ⟨progress, world, start, rfl, rfl⟩
  | succ n ih =>
      -- A token that spares the wait until the next attempt has spared it until this one.
      have slept := began_mono task replies (Nat.le_succ n)
      obtain ⟨later, reached, before, ran, visited⟩ := ih
        (fun i below => calm i (Nat.lt_succ_of_lt below))
        (fun i below => pending i (Nat.lt_succ_of_lt below)) (spared.earlier slept)
      have calmNow := calm n (Nat.lt_succ_self n)
      obtain ⟨next, awake, more, after⟩ := before.next scripted calmNow
        (pending n (Nat.lt_succ_self n)) spared
      have fetched := before.fetched scripted calmNow
        (spared.earlier (done_le_began task replies n))
      refine ⟨next, awake, after, ran.trans (run_again task later next reached awake more), ?_⟩
      -- The visit of this attempt comes behind those before it.
      rw [visited, visits_again task later next reached awake more, fetched, List.range_succ]
      simp

theorem Before.settles (scripted : task.fetcher = Script.sequence replies)
    (start : Before task replies token 0 progress world) (n : Nat)
    (calm : ∀ i, (replies i).cancels = false) (pending : ∀ i < n, PendsAt task replies i)
    (spared : token.Spares (done task replies n)) (result : Except Interruption Outcome)
    (settles : Settles task (countOf (n + 1)) (done task replies n) (replies n).answer result) :
    ∃ last, run task progress world = (result, last) ∧
      last.provider = List.replicate (n + 1) task.resource ∧
      last.now = done task replies n ∧
      visits task progress world = (List.range (n + 1)).map (scheduled task replies) := by
  obtain ⟨later, reached, before, ran, visited⟩ := start.reaches scripted n
    (fun i _ => calm i) pending (spared.earlier (began_le_done task replies n))
  obtain ⟨log, ends⟩ := attempt_settles task later reached _ _ (before.called scripted) (calm n)
    (by rw [before.token, before.now]; exact spared) result
    (by rw [before.attempts, next_count_of, before.now]; exact settles)
  refine ⟨_, ran.trans (run_ended task later reached _ result ends), rfl, ?_, ?_⟩
  · rw [before.now]
    rfl
  · have fetched := before.fetched scripted (calm n) spared
    rw [visited, visits_ended task later reached _ result ends, fetched, List.range_succ]
    simp

theorem Before.ends (scripted : task.fetcher = Script.sequence replies)
    (start : Before task replies {} 0 progress world) (calm : ∀ i, (replies i).cancels = false) :
    ∃ n result last, (∀ i < n, PendsAt task replies i) ∧
      Settles task (countOf (n + 1)) (done task replies n) (replies n).answer result ∧
      run task progress world = (result, last) ∧
      last.provider = List.replicate (n + 1) task.resource ∧
      last.now = done task replies n ∧
      visits task progress world = (List.range (n + 1)).map (scheduled task replies) := by
  obtain ⟨n, result, pending, settles⟩ := first_settles task replies
  obtain ⟨last, ran⟩ := start.settles scripted n calm pending (Token.idle_spares _) result settles
  exact ⟨n, result, last, pending, settles, ran⟩

end Run

end ResourceWatch.Wait

namespace ResourceWatch

/-!
Waits that are the same. A wait looks at no more of its fetch function than what it replies for the
one resource, and at no more of its convergence than the label of the target and the verdicts on the
snapshots that it hears. Where two waits agree on these they agree on everything, step by step.
-/

namespace World

variable {Provider Request Answer : Type}

theorem fetch_same (world : World Provider) (fetcher other : Fetcher Provider Request Answer)
    (request : Request) (heeds : Bool)
    (same : other request world.provider = fetcher request world.provider) :
    world.fetch other request heeds = world.fetch fetcher request heeds := by
  simp only [fetch, same]

end World

namespace Wait

variable {Provider : Type}

/-- Two waits with one course, whatever their verdicts. -/
structure Alike (task other : Task Provider) : Prop where
  replies : ∀ provider,
    other.fetcher task.resource provider = task.fetcher task.resource provider
  resource : other.resource = task.resource
  settings : other.settings = task.settings
  start : other.start = task.start
  label : other.convergence.target.label = task.convergence.target.label

variable {task other : Task Provider}

theorem Alike.began (alike : Alike task other) (replies : Nat → Reply Snapshot) (n : Nat) :
    began other replies n = began task replies n := by
  have nap (now : Instant) : nap other now = nap task now := by
    simp only [Wait.nap, Task.deadline, alike.settings, alike.start]
  induction n with
  | zero => exact alike.start
  | succ n ih => simp only [Wait.began, ih, nap]

theorem Alike.scheduled (alike : Alike task other) (replies : Nat → Reply Snapshot) :
    scheduled other replies = scheduled task replies := by
  funext n
  simp only [Wait.scheduled, done, alike.began replies n]

theorem visit_of_answer {world : World Provider} {answer : Except FetchError Snapshot}
    (shown : (world.fetch task.fetcher task.resource true).1 = some answer) :
    ∃ done, visit? task world = some ⟨world.now, done, answer⟩ := by
  rw [visit?]
  cases fetched : world.fetch task.fetcher task.resource true with
  | mk reply answered =>
      rw [fetched] at shown
      cases shown
      exact ⟨answered.now, rfl⟩

theorem Alike.visit (alike : Alike task other) (world : World Provider) :
    visit? other world = visit? task world := by
  rw [visit?, visit?, alike.resource,
    world.fetch_same task.fetcher other.fetcher task.resource true (alike.replies _)]

theorem Alike.judge (alike : Alike task other) (attempt : UInt32) (snapshot : Snapshot)
    (world : World Provider)
    (verdict : other.convergence.verdict snapshot = task.convergence.verdict snapshot) :
    judge other attempt snapshot world = judge task attempt snapshot world := by
  have deadline : other.deadline = task.deadline := by
    rw [Task.deadline, Task.deadline, alike.start, alike.settings]
  simp only [Wait.judge, verdict, alike.resource, alike.label, deadline, nap, alike.settings,
    cancelled]

theorem Alike.attempt (alike : Alike task other) (progress : Progress) (world : World Provider)
    (verdicts : ∀ visit snapshot, visit? task world = some visit → visit.answer = .ok snapshot →
      other.convergence.verdict snapshot = task.convergence.verdict snapshot) :
    attempt other progress world = attempt task progress world := by
  let announced := world.record (.fetchingState task.resource (nextCount progress.attempts))
  have fetched : announced.fetch other.fetcher task.resource true =
      announced.fetch task.fetcher task.resource true :=
    announced.fetch_same task.fetcher other.fetcher task.resource true (alike.replies _)
  have answer := world.fetch_record_answer
    (.fetchingState task.resource (nextCount progress.attempts)) task.fetcher task.resource true
  simp only [Wait.attempt, alike.resource, cancelled]
  rw [fetched]
  cases heard : announced.fetch task.fetcher task.resource true with
  | mk reply answered =>
      cases reply with
      | none => rfl
      | some reply =>
          cases reply with
          | error source => rfl
          | ok snapshot =>
              have shown : (world.fetch task.fetcher task.resource true).1 = some (.ok snapshot) :=
                answer.symm.trans (congrArg Prod.fst heard)
              obtain ⟨done, visited⟩ := visit_of_answer shown
              simp only [alike.judge _ snapshot answered (verdicts _ snapshot visited rfl)]

theorem Alike.run (alike : Alike task other) (progress : Progress) (world : World Provider)
    (verdicts : ∀ visit ∈ visits task progress world, ∀ snapshot, visit.answer = .ok snapshot →
      other.convergence.verdict snapshot = task.convergence.verdict snapshot) :
    run other progress world = run task progress world ∧
      visits other progress world = visits task progress world := by
  -- By the attempts of the one wait; the other makes the same ones as long as the verdicts agree.
  induction progress, world using Wait.run.induct task with
  | case1 progress world result last ends =>
      rw [visits_ended task progress world last result ends] at verdicts ⊢
      have same := (alike.attempt progress world fun visit snapshot heard =>
        verdicts visit (by simp [heard]) snapshot).trans ends
      rw [run_ended other progress world last result same,
        run_ended task progress world last result ends,
        visits_ended other progress world last result same, alike.visit]
      exact ⟨rfl, rfl⟩
  | case2 progress world next awake more ih =>
      rw [visits_again task progress next world awake more] at verdicts ⊢
      have same := (alike.attempt progress world fun visit snapshot heard =>
        verdicts visit (by simp [heard]) snapshot).trans more
      obtain ⟨ran, visited⟩ := ih fun visit member =>
        verdicts visit (List.mem_append_right _ member)
      rw [run_again other progress next world awake same,
        run_again task progress next world awake more,
        visits_again other progress next world awake same, alike.visit, visited]
      exact ⟨ran, rfl⟩

end Wait

end ResourceWatch

namespace ResourceWatch.Wait

/-!
What a wait comes to when nobody calls it off. It answers by the first reply that is an error, meets
the target, meets the failure, or is in hand when the budget is used up, in that order, after as
many calls as that reply has as its number, all for the resource of the wait.
-/

/-- The first reply that does not leave the wait pending ends it and says how. -/
theorem wait_settled_by_first_decisive_reply (replies : Nat → Reply Snapshot)
    (calm : ∀ i, (replies i).cancels = false) (resource : String) (convergence : Convergence)
    (settings : Settings) (world : World (List String)) (uncalled : world.provider = [])
    (idle : world.token = {}) :
    let task : Task (List String) :=
      ⟨Script.sequence replies, resource, convergence, settings, world.now⟩
    let wait := pollUntil (Script.sequence replies) resource convergence settings world
    ∃ n, (∀ i < n, PendsAt task replies i) ∧
      Settles task (countOf (n + 1)) (done task replies n) (replies n).answer wait.1 ∧
      wait.2.provider = List.replicate (n + 1) resource ∧
      wait.2.now = done task replies n ∧
      visits task {} world = (List.range (n + 1)).map (scheduled task replies) := by
  intro task wait
  obtain ⟨n, result, pending, settles⟩ := first_settles task replies
  have start : Before task replies {} 0 {} world := ⟨rfl, rfl, uncalled, rfl, idle⟩
  obtain ⟨last, ran, calls, ended, visited⟩ := start.settles rfl n calm pending
    (Token.idle_spares _) result settles
  have answered : wait = (result, last) := ran
  exact ⟨n, pending, by rw [answered]; exact settles, by rw [answered]; exact calls,
    by rw [answered]; exact ended, visited⟩

def soonNormal : Nat → Reply Snapshot
  | 0 => { answer := .ok (.bare "server" .pendingAdd), delay := .ofMillis 3 }
  | _ => { answer := .ok (.bare "server" .normal) }

theorem soon_normal_calm (i : Nat) : (soonNormal i).cancels = false := by
  cases i <;> rfl

/-- The second look at the resource of `soonNormal` is the first that settles a wait for it. -/
theorem soon_normal_settles_second :
    (∀ i, (soonNormal i).cancels = false) ∧
      let wait := pollUntil (Script.sequence soonNormal) "server" .normal .standard
        { provider := [] }
      wait.1 = .ok (.converged (.bare "server" .normal) 2) ∧ wait.2.provider.length = 2 := by
  refine ⟨soon_normal_calm, ?_⟩
  obtain ⟨n, pending, settles, calls, _, _⟩ := wait_settled_by_first_decisive_reply soonNormal
    soon_normal_calm "server" .normal .standard { provider := [] } rfl rfl
  have second : n = 1 := by
    rcases Nat.lt_trichotomy n 1 with first | same | later
    · have zero : n = 0 := by omega
      subst zero
      generalize pollUntil _ _ _ _ _ = wait at settles
      obtain ⟨result, last⟩ := wait
      cases settles with
      | converged _ reached => exact absurd reached (by decide)
      | failed _ _ broken => exact absurd broken (by decide)
      | timedOut _ _ _ late => exact absurd late (by decide)
    · exact same
    · cases pending 1 later with
      | intro _ missed => exact absurd missed (by decide)
  subst second
  refine ⟨?_, by rw [calls]; rfl⟩
  generalize (pollUntil _ _ _ _ _).1 = result at settles ⊢
  cases settles with
  | converged => rfl
  | failed _ missed => exact absurd missed (by decide)
  | timedOut _ missed => exact absurd missed (by decide)

def soonNormalTask : Task (List String) :=
  ⟨Script.sequence soonNormal, "server", .normal, .standard, .origin⟩

theorem soon_normal_ends :
    ∃ last, run soonNormalTask {} { provider := [] } =
        (.ok (.converged (.bare "server" .normal) 2), last) ∧
      last.now = ⟨60003000000⟩ ∧
      visits soonNormalTask {} { provider := [] } =
        [⟨.origin, ⟨3000000⟩, .ok (.bare "server" .pendingAdd)⟩,
          ⟨⟨60003000000⟩, ⟨60003000000⟩, .ok (.bare "server" .normal)⟩] := by
  have start : Before soonNormalTask soonNormal {} 0 {} { provider := [] } :=
    ⟨rfl, rfl, rfl, rfl, rfl⟩
  have pending : ∀ i < 1, PendsAt soonNormalTask soonNormal i := by
    intro i below
    have zero : i = 0 := by omega
    subst zero
    exact .intro _ (by decide) (by decide) (by decide)
  obtain ⟨last, ran, _, ended, visited⟩ := start.settles rfl 1 soon_normal_calm pending
    (Token.idle_spares _) _ (.converged _ (by decide))
  have finish : done soonNormalTask soonNormal 1 = ⟨60003000000⟩ := by rfl
  have schedule : (List.range 2).map (scheduled soonNormalTask soonNormal) =
      [⟨.origin, ⟨3000000⟩, .ok (.bare "server" .pendingAdd)⟩,
        ⟨⟨60003000000⟩, ⟨60003000000⟩, .ok (.bare "server" .normal)⟩] := by rfl
  exact ⟨last, ran, ended.trans finish, visited.trans schedule⟩

end ResourceWatch.Wait
