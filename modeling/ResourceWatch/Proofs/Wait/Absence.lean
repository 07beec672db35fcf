import ResourceWatch.Proofs.Wait.Goal

/-!
What a missing resource is to a wait for its deletion. Nothing that a wait does depends on the log,
so a fetch function may remark on its answers as it likes. The wait for deletion is therefore the
plain wait over the answers in which the resource that is missing is one that was deleted. It ends
well by the first of these, and with any other error by that error.
-/

namespace ResourceWatch.Wait

variable {Provider : Type}

def Step.relogged (log : Array Event) : Step Provider → Step Provider
  | .ended result world => .ended result { world with log }
  | .again progress world => .again progress { world with log }

section Relogged

variable (task : Task Provider)

theorem judge_relogged (attempt : UInt32) (snapshot : Snapshot) (world : World Provider)
    (log : Array Event) :
    ∃ later, judge task attempt snapshot { world with log } =
      (judge task attempt snapshot world).relogged later := by
  simp only [judge]
  cases task.convergence.verdict snapshot with
  | converged => exact ⟨_, rfl⟩
  | failed => exact ⟨_, rfl⟩
  | pending =>
      by_cases expired : task.deadline.isExpired world.now = true
      · simp only [expired, ↓reduceIte]
        exact ⟨_, rfl⟩
      · simp only [expired, World.record, World.sleepUntil]
        cases Token.firedBy? _ _ _ <;> exact ⟨_, rfl⟩

variable {task} {fetcher : Fetcher Provider String Snapshot}
variable (replies : ∀ provider,
  (task.fetcher task.resource provider).1.SameButNotes (fetcher task.resource provider).1)
variable (providers : ∀ provider,
  (fetcher task.resource provider).2 = (task.fetcher task.resource provider).2)
include replies providers

theorem visit_relogged (world : World Provider) (log : Array Event) :
    visit? { task with fetcher } { world with log } = visit? task world := by
  obtain ⟨later, fetched⟩ := world.fetch_relogged log task.fetcher fetcher task.resource true
    (replies _) (providers _)
  simp only [visit?, fetched]
  cases world.fetch task.fetcher task.resource true with
  | mk answer answered => cases answer <;> rfl

theorem attempt_relogged (progress : Progress) (world : World Provider) (log : Array Event) :
    ∃ later, attempt { task with fetcher } progress { world with log } =
      (attempt task progress world).relogged later := by
  let announced := world.record (.fetchingState task.resource (nextCount progress.attempts))
  by_cases fired : world.token.fired = true
  · simp only [attempt, World.record, fired, ↓reduceIte]
    exact ⟨_, rfl⟩
  · obtain ⟨later, fetched⟩ := announced.fetch_relogged
      (log.push (.fetchingState task.resource (nextCount progress.attempts))) task.fetcher fetcher
      task.resource true (replies _) (providers _)
    simp only [announced, World.record] at fetched
    simp only [attempt, World.record, fired, Bool.false_eq_true, ↓reduceIte, fetched]
    cases World.fetch _ task.fetcher task.resource true with
    | mk answer answered =>
        rcases answer with _ | (source | snapshot)
        · exact ⟨_, rfl⟩
        · exact ⟨_, rfl⟩
        · exact judge_relogged task _ snapshot answered later

theorem run_relogged (progress : Progress) (world : World Provider) (log : Array Event) :
    (∃ later, run { task with fetcher } progress { world with log } =
      ((run task progress world).1, { (run task progress world).2 with log := later })) ∧
    visits { task with fetcher } progress { world with log } = visits task progress world := by
  induction progress, world using run.induct task generalizing log with
  | case1 progress world result last ends =>
      obtain ⟨later, same⟩ := attempt_relogged replies providers progress world log
      rw [ends] at same
      constructor
      · rw [run_ended task progress world last result ends, run_ended _ progress _ _ result same]
        exact ⟨later, rfl⟩
      · rw [visits_ended task progress world last result ends,
          visits_ended _ progress _ _ result same, visit_relogged replies providers]
  | case2 progress world next awake more ih =>
      obtain ⟨later, same⟩ := attempt_relogged replies providers progress world log
      rw [more] at same
      obtain ⟨⟨last, ran⟩, visited⟩ := ih later
      constructor
      · rw [run_again task progress next world awake more, run_again _ progress next _ _ same]
        exact ⟨last, ran⟩
      · rw [visits_again task progress next world awake more,
          visits_again _ progress next _ _ same, visit_relogged replies providers, visited]

end Relogged

section Calls

variable {task : Task Provider} {world : World Provider}

theorem visit_answer {visit : Visit} (heard : visit? task world = some visit) :
    visit.answer = (task.fetcher task.resource world.provider).1.answer := by
  have answers := world.fetch_answer task.fetcher task.resource true
  simp only [visit?] at heard
  cases fetched : world.fetch task.fetcher task.resource true with
  | mk answer answered =>
      rw [fetched] at heard answers
      rcases answers with cut | answers
      · simp only at cut
        subst cut
        cases heard
      · simp only at answers
        subst answers
        cases heard
        rfl

theorem judge_provider {attempt : UInt32} {snapshot : Snapshot} {next : Progress}
    {awake : World Provider} (more : judge task attempt snapshot world = .again next awake) :
    awake.provider = world.provider := by
  have kept := (world.record (.stillPending task.resource attempt snapshot.state)).sleep_provider
    (world.now.wakeAfter (nap task world.now))
  simp only [judge] at more
  split at more
  · cases more
  · cases more
  · split at more
    · cases more
    · split at more
      · cases more
      · rename_i slept
        cases more
        exact (congrArg (fun slept => slept.2.provider) slept).symm.trans kept

theorem attempt_provider {progress next : Progress} {awake : World Provider}
    (more : attempt task progress world = .again next awake) :
    awake.provider = (task.fetcher task.resource world.provider).2 := by
  have called := World.fetch_provider
    (world.record (.fetchingState task.resource (nextCount progress.attempts))) task.fetcher
    task.resource true
  simp only [attempt, cancelled] at more
  split at more
  · cases more
  · split at more
    · cases more
    · cases more
    · rename_i snapshot answered fetched
      rw [fetched] at called
      exact (judge_provider more).trans called

end Calls

theorem visits_answers (task : Task (List String)) (replies : Nat → Reply Snapshot)
    (scripted : task.fetcher = Script.sequence replies) (progress : Progress)
    (world : World (List String)) :
    (visits task progress world).map (·.answer) =
      (List.range (visits task progress world).length).map fun k =>
        (replies (world.provider.length + k)).answer := by
  have heard {world : World (List String)} {visit : Visit}
      (visited : visit? task world = some visit) :
      visit.answer = (replies world.provider.length).answer := by
    rw [visit_answer visited, scripted]
    rfl
  induction progress, world using run.induct task with
  | case1 progress world result last ends =>
      rw [visits_ended task progress world last result ends]
      cases visited : visit? task world with
      | none => rfl
      | some visit => simp [heard visited]
  | case2 progress world next awake more ih =>
      -- An attempt that asks for another has heard an answer and made one call.
      have turn := attempt_turn task progress world
      have calls := attempt_provider more
      rw [scripted] at calls
      have counted : awake.provider.length = world.provider.length + 1 := by
        rw [calls]
        simp [Script.sequence]
      rw [visits_again task progress next world awake more]
      rw [more] at turn
      cases visited : visit? task world with
      | none =>
          rw [visited] at turn
          cases turn
      | some visit =>
          simp only [Option.toList_some, List.singleton_append, List.map_cons, List.length_cons,
            List.range_succ_eq_map, List.map_map, ih, heard visited, counted, Nat.add_zero]
          congr 1
          apply List.map_congr_left
          intro k _
          simp only [Function.comp, Nat.succ_eq_add_one]
          rw [Nat.add_right_comm, Nat.add_assoc]

theorem Account.failed_by {task : Task Provider} {n : Nat} {last : Option Snapshot}
    {seen : List Visit} {name : String} {attempt : UInt32} {source : FetchError}
    (account : Account task n last seen (.error (.fetch name attempt source))) :
    ∃ visit ∈ seen, visit.answer = .error source := by
  rcases account.ends with ⟨earlier, visit, split, _, settles⟩ | ⟨_, _, calledOff⟩
  · have refused : visit.answer = .error source := by
      generalize visit.answer = answer at settles
      cases settles
      rfl
    exact ⟨visit, by simp [split], refused⟩
  · cases calledOff

def deletedIfMissing (resource : String) :
    Except FetchError Snapshot → Except FetchError Snapshot
  | .error (.notFound _) => .ok (.bare resource .deleted)
  | answer => answer

def purged (resource : String) (replies : Nat → Reply Snapshot) : Nat → Reply Snapshot := fun n =>
  { replies n with answer := deletedIfMissing resource (replies n).answer }

theorem missing_is_deleted (resource : String) {source : FetchError}
    (missing : source.isNotFound = true) :
    deletedIfMissing resource (.error source) = .ok (.bare resource .deleted) := by
  cases source with
  | notFound name => rfl
  | transport | provider | decode => cases missing

theorem present_is_kept (resource : String) {source : FetchError}
    (present : source.isNotFound = false) :
    deletedIfMissing resource (.error source) = .error source := by
  cases source with
  | notFound name => cases present
  | transport | provider | decode => rfl

theorem never_missing (resource : String) (answer : Except FetchError Snapshot)
    {source : FetchError} (failed : deletedIfMissing resource answer = .error source) :
    source.isNotFound = false := by
  rcases answer with error | snapshot
  · cases error with
    | notFound name => cases failed
    | transport | provider | decode =>
        cases failed
        rfl
  · cases failed

section Deletion

variable (waiter : Waiter) (replies : Nat → Reply Snapshot) (resource : String)

/-- The plain wait that the wait for a deletion stands for. -/
def Waiter.purging (start : Instant) : Task (List String) :=
  ⟨Script.sequence (purged resource replies), resource,
    Convergence.deleted.withPolicy waiter.unknownStates, waiter.settings, start⟩

theorem hears_purged (calls : List String) :
    let hears := Goal.deleted.hears (Script.sequence replies) resource calls
    let plain := Script.sequence (purged resource replies) resource calls
    plain.1.SameButNotes hears.1 ∧ hears.2 = plain.2 := by
  simp only [Goal.hears, missingAsDeleted, Script.sequence, purged]
  obtain ⟨answer, delay, cancels, notes⟩ := replies calls.length
  rcases answer with source | snapshot
  · cases source <;> exact ⟨⟨_, rfl⟩, rfl⟩
  · exact ⟨⟨_, rfl⟩, rfl⟩

variable (world : World (List String))

theorem Waiter.waits_purging :
    let wait := waiter.waitUntil .deleted (Script.sequence replies) resource world
    let plain := run (waiter.purging replies resource world.now) {} world
    wait.1 = plain.1 ∧ (∃ log, wait.2 = { plain.2 with log }) ∧
      visits (waiter.task .deleted (Script.sequence replies) resource world.now) {} world =
        visits (waiter.purging replies resource world.now) {} world := by
  obtain ⟨⟨log, ran⟩, visited⟩ := @run_relogged _ (waiter.purging replies resource world.now)
    (Goal.deleted.hears (Script.sequence replies))
    (fun calls => (hears_purged replies resource calls).1)
    (fun calls => (hears_purged replies resource calls).2) {} world world.log
  have wait : waiter.waitUntil .deleted (Script.sequence replies) resource world = _ := ran
  rw [wait]
  exact ⟨rfl, ⟨log, rfl⟩, visited⟩

variable {k : Nat}
  (inside : k < (visits (waiter.purging replies resource world.now) {} world).length)
include inside

theorem Waiter.hears_deleted_if_missing :
    (visits (waiter.purging replies resource world.now) {} world)[k].answer =
      deletedIfMissing resource (replies (world.provider.length + k)).answer := by
  have answers := visits_answers (waiter.purging replies resource world.now)
    (purged resource replies) rfl {} world
  have here := congrArg (fun answers => answers[k]?) answers
  simp only [List.getElem?_map, List.getElem?_eq_getElem inside, List.getElem?_range inside,
    Option.map_some, Option.some.injEq] at here
  exact here

theorem Waiter.error_ends_deletion {source : FetchError}
    (answered : (replies (world.provider.length + k)).answer = .error source) :
    let task := waiter.purging replies resource world.now
    (visits task {} world).length = k + 1 ∧
      (source.isNotFound = true → (run task {} world).1 =
        .ok (.converged (.bare resource .deleted) (countOf (k + 1)))) ∧
      (source.isNotFound = false → (run task {} world).1 =
        .error (.fetch resource (countOf (k + 1)) source)) := by
  intro task
  have account : Account task 0 none (visits task {} world) (run task {} world).1 :=
    run_account task {} world 0 rfl
  have shown := waiter.hears_deleted_if_missing replies resource world inside
  rw [answered] at shown
  cases missing : source.isNotFound with
  | true =>
      rw [missing_is_deleted resource missing] at shown
      have aims : task.convergence = Goal.deleted.convergence waiter.unknownStates := rfl
      obtain ⟨last, converged⟩ := met_ends aims account inside shown rfl
      exact ⟨last, fun _ => converged, fun present => by cases present⟩
  | false =>
      rw [present_is_kept resource missing] at shown
      -- Any other error stays one, and no error is pending.
      have decisive :
          ¬ Pends task (visits task {} world)[k].done (visits task {} world)[k].answer := by
        rw [shown]
        rintro ⟨⟩
      obtain ⟨last, settles⟩ := account.decided inside decisive
      rw [shown, Nat.zero_add, last] at settles
      have failed : (run task {} world).1 = .error (.fetch resource (countOf (k + 1)) source) := by
        generalize (run task {} world).1 = result at settles
        cases settles
        rfl
      exact ⟨last, fun absent => (by cases absent), fun _ => failed⟩

end Deletion

/-- The wait for a deletion is the plain wait over a script in which the resource that is missing
was deleted. So a missing resource is success on the attempt that shows it, however late that is,
and never a failure; any other error is what it is to every wait. -/
theorem deletion_wait_takes_missing_for_deleted (waiter : Waiter)
    (replies : Nat → Reply Snapshot) (resource : String) (world : World (List String)) :
    let convergence := Convergence.deleted.withPolicy waiter.unknownStates
    let wait := waiter.waitUntil .deleted (Script.sequence replies) resource world
    let plain := pollUntil (Script.sequence (purged resource replies)) resource convergence
      waiter.settings world
    let seen := visits (waiter.task .deleted (Script.sequence replies) resource world.now) {} world
    (wait.1 = plain.1 ∧ (∃ log, wait.2 = { plain.2 with log }) ∧
      seen = visits (waiter.purging replies resource world.now) {} world) ∧
    (∀ name attempt source, wait.1 = .error (.fetch name attempt source) →
      source.isNotFound = false) ∧
    (∀ k, k < seen.length → ∀ source,
      (replies (world.provider.length + k)).answer = .error source → seen.length = k + 1 ∧
        (source.isNotFound = true →
          wait.1 = .ok (.converged (.bare resource .deleted) (countOf (k + 1)))) ∧
        (source.isNotFound = false →
          wait.1 = .error (.fetch resource (countOf (k + 1)) source))) := by
  intro convergence wait plain seen
  let task := waiter.purging replies resource world.now
  obtain ⟨result, log, heard⟩ := waiter.waits_purging replies resource world
  have account : Account task 0 none (visits task {} world) plain.1 :=
    run_account task {} world 0 rfl
  constructor
  · exact ⟨result, log, heard⟩
  constructor
  · intro name attempt source failed
    have ended : plain.1 = .error (.fetch name attempt source) := result.symm.trans failed
    rw [ended] at account
    obtain ⟨visit, member, refused⟩ := account.failed_by
    obtain ⟨k, inside, rfl⟩ := List.mem_iff_getElem.mp member
    rw [waiter.hears_deleted_if_missing replies resource world inside] at refused
    exact never_missing resource _ refused
  · intro k inside source answered
    rw [show seen = _ from heard] at inside ⊢
    rw [show wait.1 = _ from result]
    exact waiter.error_ends_deletion replies resource world inside answered

def slowlyGone : Nat → Reply Snapshot
  | 0 => { answer := .ok (.bare "pool" .pendingDelete) }
  | _ => { answer := .error (.notFound "pool"), delay := .ofSecs 3600 }

theorem slowly_gone_calm (i : Nat) : (slowlyGone i).cancels = false := by
  cases i <;> rfl

/-- The answer is there half an hour after the deadline, and a missing pool is still a deleted one. -/
theorem late_missing_pool_deleted :
    (slowlyGone 1).answer = .error (.notFound "pool") ∧
      (FetchError.notFound "pool").isNotFound = true ∧
      let wait := ({} : Waiter).waitUntil .deleted (Script.sequence slowlyGone) "pool"
        { provider := [] }
      wait.1 = .ok (.converged (.bare "pool" .deleted) 2) ∧ wait.2.now = ⟨3660000000000⟩ := by
  have missing : (FetchError.notFound "pool").isNotFound = true := rfl
  let task := ({} : Waiter).purging slowlyGone "pool" .origin
  have start : Before task (purged "pool" slowlyGone) {} 0 {} { provider := [] } :=
    ⟨rfl, rfl, rfl, rfl, rfl⟩
  have pending : ∀ i < 1, PendsAt task (purged "pool" slowlyGone) i := by
    intro i below
    have zero : i = 0 := by omega
    subst zero
    exact .intro _ (by decide) (by decide) (by decide)
  obtain ⟨last, ran, _, now, visited⟩ := start.settles rfl 1 slowly_gone_calm pending
    (Token.idle_spares _) _ (.converged (.bare "pool" .deleted) (by decide))
  obtain ⟨⟨_, ⟨log, kept⟩, heard⟩, _, ends⟩ := deletion_wait_takes_missing_for_deleted {}
    slowlyGone "pool" { provider := [] }
  rw [heard] at ends
  have inside : 1 < (visits task {} { provider := [] }).length := by
    rw [visited]
    decide
  have converged := (ends 1 inside (.notFound "pool") rfl).2.1 missing
  have later : (run task {} { provider := [] }).2.now = ⟨3660000000000⟩ := by
    rw [ran, now]
    decide
  exact ⟨rfl, missing, converged, (congrArg World.now kept).trans later⟩

end ResourceWatch.Wait
