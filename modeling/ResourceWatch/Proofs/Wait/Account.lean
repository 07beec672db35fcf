import ResourceWatch.Proofs.Surroundings
import ResourceWatch.Proofs.Wait.Schedule

/-!
What one attempt of a wait does, whatever stands behind its fetch function and whenever it is called
off: whether it hears an answer, what it leads to, and what it adds to the log.

What holds of every wait, whatever stands behind its fetch function and whenever it is called off.
The answers that were heard tell all of a wait: each of them left it pending, but for the last when
it settled the wait, and a wait that none of them settled was called off.
-/

namespace ResourceWatch.Wait

open Event (Line line)

variable {Provider : Type}

section Lines

def fetchingLine (resource : String) (attempt : UInt32) : Line :=
  ⟨.debug, "fetching resource state",
    [("resource_id", .text resource), ("attempt", .count attempt.toNat)]⟩

def pendingLine (resource : String) (attempt : UInt32) (state : State) : Line :=
  ⟨.debug, "resource pending",
    [("resource_id", .text resource), ("attempt", .count attempt.toNat),
      ("state", .text state.text)]⟩

def closingLine (task : Task Provider) (ended : Instant) :
    Except Interruption Outcome → Line
  | .ok (.converged snapshot attempts) =>
      ⟨.info, "resource converged",
        [("resource_id", .text task.resource), ("attempts", .count attempts.toNat),
          ("state", .text snapshot.state.text),
          ("target", .text task.convergence.target.label)]⟩
  | .ok (.failed _ reason attempts) =>
      ⟨.warn, "resource reached failure state",
        [("resource_id", .text task.resource), ("attempts", .count attempts.toNat),
          ("reason", .text reason)]⟩
  | .ok (.timedOut last attempts) =>
      ⟨.warn, "timed out waiting for resource",
        [("resource_id", .text task.resource), ("attempts", .count attempts.toNat),
          ("state", .text last.state.text),
          ("elapsed_ms", .count (min (ended.since task.start).millis largestWord))]⟩
  | .error (.fetch resource attempt source) =>
      ⟨.warn, "state fetch failed",
        [("resource_id", .text resource), ("attempt", .count attempt.toNat),
          ("error", .text source.message)]⟩
  | .error (.cancelled resource attempts _) =>
      ⟨.warn, "wait cancelled",
        [("resource_id", .text resource), ("attempts", .count attempts.toNat)]⟩

def firesAsleep (task : Task Provider) (token : Token) (visit : Visit) : Bool :=
  token.due.any fun due => visit.done.nanos < due.nanos ∧
    due.nanos ≤ (visit.done.wakeAfter (nap task visit.done)).nanos

/-- The lines of an attempt that stays pending. What the provider remarks on its answer stands
between the two. -/
def pendingLines (resource : String) (attempt : UInt32) (remarks : List Event) (visit : Visit) :
    List Line :=
  fetchingLine resource attempt :: remarks.map line ++
    (visit.answer.toOption.map fun snapshot => pendingLine resource attempt snapshot.state).toList

end Lines

section Attempt

variable (task : Task Provider)

theorem visit_recorded (world : World Provider) (event : Event) :
    visit? task (world.record event) = visit? task world := by
  obtain ⟨_, fetched⟩ := world.fetch_relogged (world.log.push event) task.fetcher task.fetcher
    task.resource true ⟨_, rfl⟩ rfl
  simp only [visit?, World.record, fetched]
  cases world.fetch task.fetcher task.resource true with
  | mk answer answered => cases answer <;> rfl

theorem fires_asleep_iff (token : Token) (visit : Visit)
    (spared : token.Spares visit.done) :
    firesAsleep task token visit = true ↔
      (token.firedBy? visit.done
        (visit.done.wakeAfter (nap task visit.done))).isSome = true := by
  simp only [firesAsleep, Token.firedBy?, spared.1, Bool.false_eq_true, ↓reduceIte]
  cases soon : token.due with
  | none => simp
  | some due =>
      have later := spared.2 due soon
      by_cases within : due.nanos ≤ (visit.done.wakeAfter (nap task visit.done)).nanos <;>
        simp [within, later]

theorem judge_closes (attempt : UInt32) (snapshot : Snapshot) (world : World Provider)
    (result : Except Interruption Outcome)
    (settles : Settles task attempt world.now (.ok snapshot) result) :
    ∃ event, judge task attempt snapshot world = .ended result (world.record event) ∧
      event.line = closingLine task world.now result := by
  cases settles with
  | converged _ reached =>
      simp only [judge, Convergence.verdict, reached, ↓reduceIte]
      exact ⟨_, rfl, rfl⟩
  | failed _ missed broken =>
      simp only [judge, Convergence.verdict, missed, broken, ↓reduceIte, Bool.false_eq_true]
      exact ⟨_, rfl, rfl⟩
  | timedOut _ missed intact late =>
      have expired : task.deadline.isExpired world.now = true := decide_eq_true late
      simp only [judge, Convergence.verdict, missed, intact, expired, ↓reduceIte,
        Bool.false_eq_true]
      exact ⟨_, rfl, rfl⟩

variable (progress : Progress) (world : World Provider)

/-- What an attempt leads to and adds to the log, by the fetch whose answer it heard. -/
inductive Turn : Option Visit → Step Provider → Prop where
  | unheard (last : World Provider)
      (said : last.lines = world.lines ++
        [fetchingLine task.resource (nextCount progress.attempts),
          closingLine task last.now
            (.error (.cancelled task.resource progress.attempts progress.last))]) :
      Turn none
        (.ended (.error (.cancelled task.resource progress.attempts progress.last)) last)
  | settled (visit : Visit) (result : Except Interruption Outcome) (last : World Provider)
      (settles : Settles task (nextCount progress.attempts) visit.done visit.answer result)
      (said : last.lines = world.lines ++
        fetchingLine task.resource (nextCount progress.attempts) ::
          (task.fetcher task.resource world.provider).1.notes.map line ++
          [closingLine task last.now result]) :
      Turn (some visit) (.ended result last)
  | asleep (visit : Visit) (last : World Provider) (pends : Pends task visit.done visit.answer)
      (fires : firesAsleep task world.token visit = true)
      (said : last.lines = world.lines ++
        pendingLines task.resource (nextCount progress.attempts)
          (task.fetcher task.resource world.provider).1.notes visit ++
          [closingLine task last.now (.error (.cancelled task.resource
            (nextCount progress.attempts) visit.answer.toOption))]) :
      Turn (some visit) (.ended (.error (.cancelled task.resource (nextCount progress.attempts)
        visit.answer.toOption)) last)
  | again (visit : Visit) (awake : World Provider) (pends : Pends task visit.done visit.answer)
      (slept : firesAsleep task world.token visit = false) (kept : awake.token = world.token)
      (said : awake.lines = world.lines ++
        pendingLines task.resource (nextCount progress.attempts)
          (task.fetcher task.resource world.provider).1.notes visit) :
      Turn (some visit) (.again ⟨nextCount progress.attempts, visit.answer.toOption⟩ awake)

variable {task progress world}

theorem unheard_turn {cut : World Provider}
    (said : cut.lines = world.lines ++ [fetchingLine task.resource (nextCount progress.attempts)]) :
    Turn task progress world none (cancelled task progress cut) := by
  apply Turn.unheard
  rw [World.lines_record, said, List.append_assoc]
  rfl

theorem judge_turn {began : Instant} {snapshot : Snapshot} {answered : World Provider}
    (kept : answered.token = world.token) (spared : world.token.Spares answered.now)
    (said : answered.lines = world.lines ++
      fetchingLine task.resource (nextCount progress.attempts) ::
        (task.fetcher task.resource world.provider).1.notes.map line) :
    Turn task progress world (some ⟨began, answered.now, .ok snapshot⟩)
      (judge task (nextCount progress.attempts) snapshot answered) := by
  let count := nextCount progress.attempts
  let visit : Visit := ⟨began, answered.now, .ok snapshot⟩
  rcases pends_or_settles task count answered.now (.ok snapshot) with pends | ⟨result, settles⟩
  · let pending := answered.record (.stillPending task.resource count snapshot.state)
    let wake := answered.now.wakeAfter (nap task answered.now)
    have told : pending.lines = world.lines ++ pendingLines task.resource count
        (task.fetcher task.resource world.provider).1.notes visit := by
      rw [World.lines_record, said, List.append_assoc]
      rfl
    have asleep := fires_asleep_iff task world.token visit spared
    rw [judge_pends task count snapshot answered pends]
    -- The sleep ends early just when the token fires by its end.
    cases fires : world.token.firedBy? answered.now wake with
    | some instant =>
        have cut : pending.sleepUntil wake =
            (true, { pending with now := instant, token := pending.token.fire }) := by
          simp only [World.sleepUntil, pending, World.record, kept, fires]
        simp only [pending, wake] at cut
        simp only [cut]
        apply Turn.asleep visit _ pends
        · exact asleep.mpr (by rw [fires]; rfl)
        · rw [World.lines_record, World.lines_moved, told]
          rfl
    | none =>
        have slept : pending.sleepUntil wake = (false, { pending with now := wake }) := by
          simp only [World.sleepUntil, pending, World.record, kept, fires]
        simp only [pending, wake] at slept
        simp only [slept]
        apply Turn.again visit _ pends
        · rw [Bool.eq_false_iff, ne_eq, asleep, fires]
          exact Bool.false_ne_true
        · exact kept
        · rw [World.lines_moved, told]
  · obtain ⟨event, ends, closes⟩ := judge_closes task count snapshot answered result settles
    rw [ends]
    apply Turn.settled _ _ _ settles
    rw [World.lines_record, said, closes]
    rfl

variable (task progress world)

theorem attempt_turn :
    Turn task progress world (visit? task world) (attempt task progress world) := by
  let count := nextCount progress.attempts
  let announced := world.record (.fetchingState task.resource count)
  have started : announced.lines = world.lines ++ [fetchingLine task.resource count] :=
    world.lines_record _
  rw [← visit_recorded task world (.fetchingState task.resource count)]
  by_cases fired : world.token.fired = true
  · have refused : attempt task progress world = cancelled task progress announced := if_pos fired
    have unheard : visit? task announced = none := by
      have cut := announced.fetch_fired task.fetcher task.resource fired
      generalize fetched : announced.fetch task.fetcher task.resource true = result at cut
      obtain ⟨answer, after⟩ := result
      cases cut
      rw [visit?, fetched]
    rw [refused, unheard]
    exact unheard_turn started
  · have asked : attempt task progress world = _ := if_neg fired
    rw [asked, visit?]
    cases fetched : announced.fetch task.fetcher task.resource true with
    | mk answer after =>
        have said := World.lines_fetch fetched
        rw [started, List.append_assoc] at said
        rcases answer with _ | (source | snapshot)
        · exact unheard_turn said
        · apply Turn.settled _ _ _ (.refused source)
          rw [World.lines_record, said]
          rfl
        · obtain ⟨kept, spared⟩ := World.fetch_heard fetched
          exact judge_turn kept spared said

end Attempt

/-- The answers that a wait hears from one attempt on, counted from zero, and what it comes to by
them. -/
inductive Account (task : Task Provider) :
    Nat → Option Snapshot → List Visit → Except Interruption Outcome → Prop where
  | settled {n : Nat} {last : Option Snapshot} (visit : Visit)
      {result : Except Interruption Outcome}
      (settles : Settles task (countOf (n + 1)) visit.done visit.answer result) :
      Account task n last [visit] result
  | calledOff {n : Nat} {last : Option Snapshot} :
      Account task n last [] (.error (.cancelled task.resource (countOf n) last))
  | pended {n : Nat} {last : Option Snapshot} (visit : Visit) {later : List Visit}
      {result : Except Interruption Outcome} (pends : Pends task visit.done visit.answer)
      (rest : Account task (n + 1) visit.answer.toOption later result) :
      Account task n last (visit :: later) result

theorem run_account (task : Task Provider) (progress : Progress) (world : World Provider) (n : Nat)
    (counted : progress.attempts = countOf n) :
    Account task n progress.last (visits task progress world) (run task progress world).1 := by
  -- Attempts are counted along, as the account numbers the answers by them.
  induction progress, world using run.induct task generalizing n with
  | case1 progress world result last ends =>
      have turn := attempt_turn task progress world
      rw [visits_ended task progress world last result ends,
        run_ended task progress world last result ends]
      rw [ends] at turn
      cases heard : visit? task world with
      | none =>
          rw [heard] at turn
          cases turn
          rw [counted]
          exact .calledOff
      | some visit =>
          rw [heard] at turn
          cases turn with
          | settled _ _ _ settles =>
              rw [counted, next_count_of] at settles
              exact .settled visit settles
          | asleep _ _ pends =>
              rw [counted, next_count_of]
              exact .pended visit pends .calledOff
  | case2 progress world next awake more ih =>
      have turn := attempt_turn task progress world
      rw [visits_again task progress next world awake more,
        run_again task progress next world awake more]
      rw [more] at turn
      cases heard : visit? task world with
      | none =>
          rw [heard] at turn
          cases turn
      | some visit =>
          rw [heard] at turn
          cases turn with
          | again _ _ pends =>
              exact .pended visit pends (ih (n + 1) (by rw [counted, next_count_of]))

theorem run_settled_at_once (task : Task Provider) (world : World Provider)
    (reply : Reply Snapshot) (provider : Provider)
    (called : task.fetcher task.resource world.provider = (reply, provider))
    (calm : reply.cancels = false) (idle : world.token = {}) (result : Except Interruption Outcome)
    (settles : Settles task 1 (world.now.after reply.delay) reply.answer result) :
    (run task {} world).1 = result ∧
      visits task {} world = [⟨world.now, world.now.after reply.delay, reply.answer⟩] := by
  have spared : world.token.Spares (world.now.after reply.delay) := by
    rw [idle]
    exact Token.idle_spares _
  obtain ⟨log, ends⟩ := attempt_settles task {} world reply provider called calm spared result
    settles
  have heard := world.fetch_spared task.fetcher task.resource reply provider called calm spared
  rw [run_ended task {} world _ result ends, visits_ended task {} world _ result ends, visit?,
    heard]
  exact ⟨rfl, rfl⟩

namespace Account

variable {task : Task Provider} {n : Nat} {last : Option Snapshot} {seen : List Visit}
variable {result : Except Interruption Outcome}

theorem ends (account : Account task n last seen result) :
    (∃ earlier visit, seen = earlier ++ [visit] ∧
      (∀ before ∈ earlier, Pends task before.done before.answer) ∧
      Settles task (countOf (n + seen.length)) visit.done visit.answer result) ∨
    ((∀ visit ∈ seen, Pends task visit.done visit.answer) ∧
      ∃ shown, result = .error (.cancelled task.resource (countOf (n + seen.length)) shown)) := by
  induction account with
  | settled visit settles => exact Or.inl ⟨[], visit, rfl, by simp, settles⟩
  | calledOff => exact Or.inr ⟨by simp, _, rfl⟩
  | @pended n last visit later result pends _ ih =>
      have counted : n + (visit :: later).length = n + 1 + later.length := by
        rw [List.length_cons]
        omega
      rw [counted]
      rcases ih with ⟨earlier, decisive, split, before, settles⟩ | ⟨all, calledOff⟩
      · refine Or.inl ⟨visit :: earlier, decisive, by rw [split]; rfl, ?_, settles⟩
        exact List.forall_mem_cons.mpr ⟨pends, before⟩
      · exact Or.inr ⟨List.forall_mem_cons.mpr ⟨pends, all⟩, calledOff⟩

theorem settled_by {outcome : Outcome} (account : Account task n last seen result)
    (ended : result = .ok outcome) :
    ∃ visit ∈ seen, Settles task (countOf (n + seen.length)) visit.done visit.answer
      (.ok outcome) := by
  subst ended
  rcases account.ends with ⟨earlier, visit, split, _, settles⟩ | ⟨_, _, calledOff⟩
  · exact ⟨visit, by rw [split]; simp, settles⟩
  · cases calledOff

theorem pends_of_called_off {resource : String} {attempts : UInt32} {shown : Option Snapshot}
    (account : Account task n last seen result)
    (calledOff : result = .error (.cancelled resource attempts shown)) :
    ∀ visit ∈ seen, Pends task visit.done visit.answer := by
  subst calledOff
  rcases account.ends with ⟨_, visit, _, _, settles⟩ | ⟨all, _⟩
  · generalize visit.answer = answer at settles
    cases settles
  · exact all

theorem decided (account : Account task n last seen result) {k : Nat} (inside : k < seen.length)
    (decisive : ¬ Pends task seen[k].done seen[k].answer) :
    seen.length = k + 1 ∧
      Settles task (countOf (n + seen.length)) seen[k].done seen[k].answer result := by
  rcases account.ends with ⟨earlier, visit, split, before, settles⟩ | ⟨all, _⟩
  · subst split
    rcases Nat.lt_or_ge k earlier.length with early | late
    · have pends := before earlier[k] (List.getElem_mem early)
      rw [List.getElem_append_left early] at decisive
      exact absurd pends decisive
    · have position : k = earlier.length := by
        rw [List.length_append, List.length_singleton] at inside
        omega
      subst position
      simp only [List.getElem_concat_length]
      exact ⟨by simp, settles⟩
  · exact absurd (all seen[k] (List.getElem_mem inside)) decisive

theorem pends_before (account : Account task n last seen result) {k : Nat}
    (inside : k < seen.length) (more : k + 1 < seen.length) :
    Pends task seen[k].done seen[k].answer := by
  refine Classical.byContradiction fun decisive => ?_
  have ended := (account.decided inside decisive).1
  omega

end Account

end ResourceWatch.Wait
