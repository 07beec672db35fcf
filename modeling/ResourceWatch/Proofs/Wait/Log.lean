import ResourceWatch.Proofs.Wait.Absence
import ResourceWatch.Proofs.Wait.Pace

/-!
What the log of a wait says. Each answer that left the wait pending has two lines, and one line ends
the log and matches what the wait came to.

What the log of a wait for a deletion says besides. The wait for a deletion says what the plain wait
says that it stands for, and before the end that the resource is gone if it was missing.
-/

namespace ResourceWatch.Wait

open Event (Line line)

variable {Provider : Type}

instance (task : Task Provider) (now : Instant) :
    (answer : Except FetchError Snapshot) → Decidable (Pends task now answer)
  | .error _ => .isFalse (by rintro ⟨⟩)
  | .ok snapshot =>
      decidable_of_iff (task.convergence.target.holds snapshot = false ∧
          task.convergence.failure.holds snapshot = false ∧
          (now.since task.start).nanos < task.settings.budget.nanos)
        ⟨fun ⟨missed, intact, early⟩ => .intro snapshot missed intact early,
          fun | .intro _ missed intact early => ⟨missed, intact, early⟩⟩

/-- The lines of a wait before the one that ends it, from one attempt on: those of its pending
answers, and that of the attempt behind them unless the token fired in a sleep. -/
def story (task : Task Provider) (token : Token) (remarks : Nat → List Event) (n : Nat)
    (seen : List Visit) : List Line :=
  let pending := seen.filter fun visit => Pends task visit.done visit.answer
  let decisive := n + pending.length
  ((pending.zipIdx n).flatMap fun (visit, k) =>
    pendingLines task.resource (countOf (k + 1)) (remarks k) visit) ++
    if pending.any (firesAsleep task token) then []
    else fetchingLine task.resource (countOf (decisive + 1)) ::
      if pending.length < seen.length then (remarks decisive).map line else []

section Run

variable {task : Task Provider} {token : Token} {remarks : Nat → List Event} {n : Nat}
variable {visit : Visit}

/-- Remarks that are made on no pending answer stand behind all that the story tells otherwise. -/
theorem story_with {task : Task Provider} {token : Token} {seen pending : List Visit}
    (split : seen.filter (fun visit => Pends task visit.done visit.answer) = pending)
    (slept : pending.length < seen.length → pending.any (firesAsleep task token) = false)
    (remarks more : Nat → List Event) (n : Nat) (later : ∀ k < pending.length, more (n + k) = []) :
    story task token (fun k => remarks k ++ more k) n seen =
      story task token remarks n seen ++
        if pending.length < seen.length then (more (n + pending.length)).map line else [] := by
  have told : ((pending.zipIdx n).flatMap fun (visit, k) =>
        pendingLines task.resource (countOf (k + 1)) (remarks k ++ more k) visit) =
      (pending.zipIdx n).flatMap fun (visit, k) =>
        pendingLines task.resource (countOf (k + 1)) (remarks k) visit := by
    rw [List.flatMap_def, List.flatMap_def]
    apply congrArg List.flatten
    apply List.map_congr_left
    rintro ⟨visit, k⟩ member
    obtain ⟨behind, within, _⟩ := List.mem_zipIdx member
    have silent := later (k - n) (by omega)
    rw [Nat.add_sub_cancel' behind] at silent
    simp only [silent, List.append_nil]
  simp only [story, split, told, List.append_assoc]
  by_cases heard : pending.length < seen.length
  · simp [heard, slept heard]
  · simp [heard]

theorem story_unheard :
    story task token remarks n [] = [fetchingLine task.resource (countOf (n + 1))] := rfl

theorem story_settled (settled : ¬ Pends task visit.done visit.answer) :
    story task token remarks n [visit] =
      fetchingLine task.resource (countOf (n + 1)) :: (remarks n).map line := by
  simp [story, settled]

theorem story_asleep (pends : Pends task visit.done visit.answer)
    (fires : firesAsleep task token visit = true) :
    story task token remarks n [visit] =
      pendingLines task.resource (countOf (n + 1)) (remarks n) visit := by
  simp [story, pends, fires]

theorem story_pended (pends : Pends task visit.done visit.answer)
    (slept : firesAsleep task token visit = false) (later : List Visit) :
    story task token remarks n (visit :: later) =
      pendingLines task.resource (countOf (n + 1)) (remarks n) visit ++
        story task token remarks (n + 1) later := by
  have head : (visit :: later).filter (fun visit => Pends task visit.done visit.answer) =
      visit :: later.filter fun visit => Pends task visit.done visit.answer :=
    List.filter_cons_of_pos (decide_eq_true pends)
  simp only [story, head, List.zipIdx_cons, List.flatMap_cons, List.any_cons, slept,
    Bool.false_or, List.length_cons, List.append_assoc, Nat.add_lt_add_iff_right]
  generalize later.filter _ = pending
  have shifted : n + (pending.length + 1) = n + 1 + pending.length := by omega
  rw [shifted]

theorem run_lines (task : Task (List String)) (replies : Nat → Reply Snapshot)
    (scripted : task.fetcher = Script.sequence replies) (first : Nat) (progress : Progress)
    (world last : World (List String)) (result : Except Interruption Outcome)
    (ran : run task progress world = (result, last)) (n : Nat)
    (counted : progress.attempts = countOf n) (called : world.provider.length = first + n) :
    last.lines = world.lines ++
      story task world.token (fun k => (replies (first + k)).notes) n
        (visits task progress world) ++
      [closingLine task last.now result] := by
  -- Each attempt adds its own lines in front of those of the attempts behind it, which are numbered
  -- from one more on.
  induction progress, world using run.induct task generalizing n with
  | case1 progress world ended final ends =>
      have turn := attempt_turn task progress world
      rw [run_ended task progress world final ended ends] at ran
      rw [visits_ended task progress world final ended ends]
      rw [ends] at turn
      cases ran
      have answered : (task.fetcher task.resource world.provider).1 = replies (first + n) := by
        rw [scripted, ← called]
        rfl
      cases heard : visit? task world with
      | none =>
          rw [heard] at turn
          cases turn with
          | unheard _ said =>
              rw [said, counted, next_count_of, Option.toList_none, story_unheard,
                List.append_assoc]
              rfl
      | some visit =>
          rw [heard] at turn
          rw [Option.toList_some]
          cases turn with
          | settled _ _ _ settles said =>
              rw [said, counted, next_count_of, answered, story_settled settles.not_pends]
          | asleep _ _ pends fires said =>
              rw [said, counted, next_count_of, answered, story_asleep pends fires]
  | case2 progress world next awake more ih =>
      have turn := attempt_turn task progress world
      rw [run_again task progress next world awake more] at ran
      rw [visits_again task progress next world awake more]
      rw [more] at turn
      have answered : (task.fetcher task.resource world.provider).1 = replies (first + n) := by
        rw [scripted, ← called]
        rfl
      have calls : awake.provider.length = first + (n + 1) := by
        rw [attempt_provider more, scripted, ← Nat.add_assoc, ← called]
        exact List.length_append
      cases heard : visit? task world with
      | none =>
          rw [heard] at turn
          cases turn
      | some visit =>
          rw [heard] at turn
          rw [Option.toList_some, List.singleton_append]
          cases turn with
          | again _ _ pends slept kept said =>
              have later := ih ran (n + 1) (by rw [counted, next_count_of]) calls
              rw [kept] at later
              rw [later, said, counted, next_count_of, answered, story_pended pends slept]
              simp only [List.append_assoc]

theorem visits_slept (task : Task Provider) (progress : Progress) (world : World Provider) :
    ∀ visit ∈ (visits task progress world).dropLast,
      firesAsleep task world.token visit = false := by
  induction progress, world using run.induct task with
  | case1 progress world ended final ends =>
      rw [visits_ended task progress world final ended ends]
      cases visit? task world <;> simp
  | case2 progress world next awake more ih =>
      have turn := attempt_turn task progress world
      rw [visits_again task progress next world awake more]
      rw [more] at turn
      cases heard : visit? task world with
      | none =>
          rw [heard] at turn
          cases turn
      | some visit =>
          rw [heard] at turn
          cases turn with
          | again _ _ _ slept kept =>
              rw [kept] at ih
              rw [Option.toList_some, List.singleton_append]
              intro other member
              -- The last answer of all is left out: its sleep may have been cut short.
              cases later : visits task _ awake with
              | nil =>
                  rw [later] at member
                  cases member
              | cons second rest =>
                  rw [later] at member ih
                  rw [List.dropLast_cons_of_ne_nil (List.cons_ne_nil _ _)] at member
                  rcases List.mem_cons.mp member with rfl | member
                  · exact slept
                  · exact ih other member

theorem Account.split {task : Task Provider} {n : Nat} {last : Option Snapshot}
    {seen : List Visit} {result : Except Interruption Outcome}
    (account : Account task n last seen result) :
    let pending := seen.filter fun visit => Pends task visit.done visit.answer
    (∃ visit, seen = pending ++ [visit] ∧
      Settles task (countOf (n + seen.length)) visit.done visit.answer result) ∨
    (seen = pending ∧
      ∃ shown, result = .error (.cancelled task.resource (countOf (n + seen.length)) shown)) := by
  intro pending
  have all {some : List Visit} (pends : ∀ visit ∈ some, Pends task visit.done visit.answer) :
      some.filter (fun visit => Pends task visit.done visit.answer) = some :=
    List.filter_eq_self.mpr fun visit member => decide_eq_true (pends visit member)
  rcases account.ends with ⟨earlier, visit, whole, pends, settles⟩ | ⟨pends, calledOff⟩
  · have kept : pending = earlier := by
      simp only [pending, whole, List.filter_append, all pends]
      simp [settles.not_pends]
    exact Or.inl ⟨visit, by rw [kept, whole], settles⟩
  · exact Or.inr ⟨(all pends).symm, calledOff⟩

theorem Account.all_but_last {task : Task Provider} {n : Nat} {last : Option Snapshot}
    {seen : List Visit} {result : Except Interruption Outcome}
    (account : Account task n last seen result) :
    seen.length ≤ (seen.filter fun visit => Pends task visit.done visit.answer).length + 1 := by
  rcases account.split with ⟨visit, whole, _⟩ | ⟨whole, _⟩
  · have more := congrArg List.length whole
    rw [List.length_append, List.length_singleton] at more
    exact Nat.le_of_eq more
  · have same := congrArg List.length whole
    omega

theorem pending_slept (task : Task Provider) (world : World Provider) :
    let seen := visits task {} world
    let pending := seen.filter fun visit => Pends task visit.done visit.answer
    pending.length < seen.length → pending.any (firesAsleep task world.token) = false := by
  intro seen pending fewer
  have account : Account task 0 none seen (run task {} world).1 := run_account task {} world 0 rfl
  have slept := visits_slept task {} world
  rcases account.split with ⟨visit, whole, _⟩ | ⟨whole, _⟩
  · rw [show visits task {} world = pending ++ [visit] from whole, List.dropLast_concat] at slept
    rw [List.any_eq_false]
    intro earlier member
    rw [slept earlier member]
    exact Bool.false_ne_true
  · have same : seen.length = pending.length := congrArg List.length whole
    omega

end Run

section Levels

theorem pending_lines_debug {resource : String} {attempt : UInt32} {remarks : List Event}
    {visit : Visit} :
    ∀ said ∈ pendingLines resource attempt remarks visit,
      said.level = .debug ∨ ∃ remark ∈ remarks, said = remark.line := by
  intro said member
  simp only [pendingLines, List.cons_append, List.mem_cons, List.mem_append, List.mem_map,
    Option.mem_toList, Option.map_eq_some_iff] at member
  rcases member with rfl | ⟨remark, made, rfl⟩ | ⟨snapshot, _, rfl⟩
  · exact Or.inl rfl
  · exact Or.inr ⟨remark, made, rfl⟩
  · exact Or.inl rfl

theorem story_debug {task : Task Provider} {token : Token} {remarks : Nat → List Event} {n : Nat}
    {seen : List Visit} :
    ∀ said ∈ story task token remarks n seen,
      said.level = .debug ∨ ∃ k, ∃ remark ∈ remarks k, said = remark.line := by
  intro said member
  rcases List.mem_append.mp member with pending | decisive
  · obtain ⟨⟨visit, k⟩, _, told⟩ := List.mem_flatMap.mp pending
    rcases pending_lines_debug said told with debug | remarked
    · exact Or.inl debug
    · exact Or.inr ⟨k, remarked⟩
  · split at decisive
    · cases decisive
    · rcases List.mem_cons.mp decisive with rfl | told
      · exact Or.inl rfl
      · split at told
        · obtain ⟨remark, made, rfl⟩ := List.mem_map.mp told
          exact Or.inr ⟨_, remark, made, rfl⟩
        · cases told

theorem closing_level {task : Task Provider} {ended : Instant}
    (result : Except Interruption Outcome) :
    (closingLine task ended result).level =
      match result with
      | .ok (.converged _ _) => .info
      | _ => .warn := by
  cases result with
  | ok outcome => cases outcome <;> rfl
  | error interruption => cases interruption <;> rfl

end Levels

section Refetched

variable (task : Task Provider) (fetcher : Fetcher Provider String Snapshot)

theorem pends_refetched (now : Instant) (answer : Except FetchError Snapshot) :
    Pends { task with fetcher } now answer ↔ Pends task now answer := by
  constructor
  · rintro ⟨snapshot, missed, intact, early⟩
    exact .intro snapshot missed intact early
  · rintro ⟨snapshot, missed, intact, early⟩
    exact .intro snapshot missed intact early

theorem story_refetched (token : Token) (remarks : Nat → List Event) (n : Nat)
    (seen : List Visit) :
    story { task with fetcher } token remarks n seen = story task token remarks n seen := by
  simp only [story, pends_refetched]
  rfl

theorem closing_refetched : closingLine { task with fetcher } = closingLine task := rfl

end Refetched

def isMissing : Except FetchError Snapshot → Bool
  | .error source => source.isNotFound
  | .ok _ => false

def goneLine (resource : String) : Line :=
  ⟨.debug, "resource gone; treating as deleted", [("resource_id", .text resource)]⟩

def goneRemark (resource : String) (answer : Except FetchError Snapshot) : List Event :=
  if isMissing answer then [.resourceGone resource] else []

theorem shown_notes (resource : String) (reply : Reply Snapshot) :
    (Goal.deleted.shown resource reply).notes =
      reply.notes ++ goneRemark resource reply.answer := by
  obtain ⟨answer, delay, cancels, notes⟩ := reply
  rcases answer with source | snapshot
  · cases source <;> simp [Goal.shown, goneRemark, isMissing, FetchError.isNotFound]
  · simp [Goal.shown, goneRemark, isMissing]

section Deletion

variable (waiter : Waiter) (replies : Nat → Reply Snapshot) (resource : String)
  (world : World (List String))

theorem Waiter.missing_ends {k : Nat}
    (inside : k < (visits (waiter.purging replies resource world.now) {} world).length)
    (missing : isMissing (replies (world.provider.length + k)).answer = true) :
    let task := waiter.purging replies resource world.now
    (visits task {} world).length = k + 1 ∧
      (run task {} world).1 = .ok (.converged (.bare resource .deleted) (countOf (k + 1))) := by
  intro task
  cases answered : (replies (world.provider.length + k)).answer with
  | ok snapshot =>
      rw [answered] at missing
      cases missing
  | error source =>
      rw [answered] at missing
      obtain ⟨last, converged, _⟩ :=
        waiter.error_ends_deletion replies resource world inside answered
      exact ⟨last, converged missing⟩

theorem Waiter.silent_while_pending (k : Nat) :
    let task := waiter.purging replies resource world.now
    let seen := visits task {} world
    k < (seen.filter fun visit => Pends task visit.done visit.answer).length →
      goneRemark resource (replies (world.provider.length + k)).answer = [] := by
  intro task seen below
  have account : Account task 0 none seen (run task {} world).1 := run_account task {} world 0 rfl
  have inside : k < seen.length := Nat.lt_of_lt_of_le below (List.length_filter_le _ _)
  cases missing : isMissing (replies (world.provider.length + k)).answer with
  | false => simp [goneRemark, missing]
  | true =>
      obtain ⟨last, converged⟩ := waiter.missing_ends replies resource world inside missing
      -- The missing resource is heard last, so it would be the one answer that is not pending.
      rcases account.split with ⟨visit, whole, _⟩ | ⟨_, shown, calledOff⟩
      · have count : seen.length = _ := congrArg List.length whole
        rw [List.length_append, List.length_singleton, last] at count
        omega
      · rw [calledOff] at converged
        cases converged

theorem Waiter.deletion_told :
    let task := waiter.purging replies resource world.now
    let deletion := waiter.waitUntil .deleted (Script.sequence replies) resource world
    let seen := visits task {} world
    let pending := seen.filter fun visit => Pends task visit.done visit.answer
    deletion.2.lines = world.lines ++
      (story task world.token (fun k => (replies (world.provider.length + k)).notes) 0 seen ++
        if pending.length < seen.length then
          (goneRemark resource (replies (world.provider.length + pending.length)).answer).map line
        else []) ++
      [closingLine task deletion.2.now deletion.1] := by
  intro task deletion seen pending
  -- The wait for the deletion hears a script of its own, in which the missing resource is remarked.
  let hears := waiter.scripted .deleted resource replies world.now
  let remarks (k : Nat) := (replies (world.provider.length + k)).notes
  let gone (k : Nat) := goneRemark resource (replies (world.provider.length + k)).answer
  obtain ⟨ran, heard⟩ := waiter.hears_script .deleted resource replies world
  obtain ⟨_, _, visited⟩ := waiter.waits_purging replies resource world
  have told := run_lines hears (fun i => Goal.deleted.shown resource (replies i)) rfl
    world.provider.length {} world deletion.2 deletion.1 ran.symm 0 rfl rfl
  have silent (k : Nat) (below : k < pending.length) : gone (0 + k) = [] := by
    rw [Nat.zero_add]
    exact waiter.silent_while_pending replies resource world k below
  have same : story hears world.token = story task world.token := by
    funext told n seen
    exact story_refetched task hears.fetcher world.token told n seen
  have closes : closingLine hears = closingLine task := closing_refetched task hears.fetcher
  rw [← heard, visited, same, closes] at told
  simp only [shown_notes] at told
  rw [told]
  have split := story_with rfl (pending_slept task world) remarks gone 0 silent
  rw [split, Nat.zero_add]

theorem flat_map_range_last {α : Type} (f : Nat → List α) {m n : Nat} (few : n ≤ m + 1)
    (empty : ∀ k < m, f k = []) : (List.range n).flatMap f = if m < n then f m else [] := by
  have start (some : Nat) (within : some ≤ m) : (List.range some).flatMap f = [] := by
    rw [List.flatMap_eq_nil_iff]
    intro k member
    apply empty
    exact Nat.lt_of_lt_of_le (List.mem_range.mp member) within
  by_cases last : m < n
  · have succ : n = m + 1 := Nat.le_antisymm few last
    rw [if_pos last, succ, List.range_succ, List.flatMap_append, start m (Nat.le_refl m)]
    simp
  · rw [if_neg last, start n (Nat.le_of_not_lt last)]

theorem gone_lines (answer : Nat → Except FetchError Snapshot) (heard : List Nat) :
    (heard.flatMap fun k => (goneRemark resource (answer k)).map line) =
      (heard.filter fun k => isMissing (answer k)).map fun _ => goneLine resource := by
  induction heard with
  | nil => rfl
  | cons k later ih =>
      rw [List.flatMap_cons, List.filter_cons, ih]
      by_cases missing : isMissing (answer k) = true
      · rw [goneRemark, if_pos missing, if_pos missing]
        rfl
      · rw [goneRemark, if_neg missing, if_neg missing]
        rfl

theorem Waiter.deletion_lines :
    let task := waiter.purging replies resource world.now
    let deletion := waiter.waitUntil .deleted (Script.sequence replies) resource world
    let plain := run task {} world
    let heard := List.range (visits task {} world).length
    ∃ before, plain.2.lines = before ++ [closingLine task plain.2.now plain.1] ∧
      deletion.2.lines = before ++
        ((heard.filter fun k => isMissing (replies (world.provider.length + k)).answer).map fun _ =>
          goneLine resource) ++
        [closingLine task plain.2.now plain.1] := by
  intro task deletion plain heard
  let answer (k : Nat) := (replies (world.provider.length + k)).answer
  have account : Account task 0 none (visits task {} world) plain.1 :=
    run_account task {} world 0 rfl
  have said := run_lines task (purged resource replies) rfl world.provider.length {} world plain.2
    plain.1 rfl 0 rfl rfl
  have told := waiter.deletion_told replies resource world
  obtain ⟨result, ⟨log, kept⟩, _⟩ := waiter.waits_purging replies resource world
  have ended : deletion.2.now = plain.2.now := by
    rw [show deletion.2 = _ from kept]
  have added := flat_map_range_last (fun k => (goneRemark resource (answer k)).map line)
    account.all_but_last fun k below => by
      rw [waiter.silent_while_pending replies resource world k below, List.map_nil]
  refine ⟨_, said, ?_⟩
  rw [told, ← gone_lines, added, ended, show deletion.1 = plain.1 from result]
  simp only [List.append_assoc]
  rfl

end Deletion

/-- The log of a wait tells what it came to and how. Beside what the provider remarks on its
answers, a wait says two things of each answer that left it pending, announces the attempt behind
these unless the token fired in a sleep, and says last, above the level of all that, what it came
to. The wait for a deletion adds no more than that a missing resource is gone, just before the
end. -/
theorem log_tells_wait (convergence : Convergence) (settings : Settings) (waiter : Waiter)
    (replies : Nat → Reply Snapshot) (resource : String) (world : World (List String)) :
    let script := Script.sequence replies
    let reply (k : Nat) := replies (world.provider.length + k)
    (let task : Task (List String) := ⟨script, resource, convergence, settings, world.now⟩
      let wait := pollUntil script resource convergence settings world
      let told := story task world.token (fun k => (reply k).notes) 0 (visits task {} world)
      let closing := closingLine task wait.2.now wait.1
      wait.2.lines = world.lines ++ told ++ [closing] ∧
        (∀ said ∈ told,
          said.level = .debug ∨ ∃ k, ∃ remark ∈ (reply k).notes, said = remark.line) ∧
        closing.level = match wait.1 with
          | .ok (.converged _ _) => .info
          | _ => .warn) ∧
    (let task := waiter.purging replies resource world.now
      let deletion := waiter.waitUntil .deleted script resource world
      let plain := pollUntil (Script.sequence (purged resource replies)) resource
        (Convergence.deleted.withPolicy waiter.unknownStates) waiter.settings world
      let heard := List.range (visits task {} world).length
      let missing := heard.filter fun k => isMissing (reply k).answer
      let closing := closingLine task plain.2.now plain.1
      deletion.1 = plain.1 ∧
        (∀ k ∈ missing, heard.length = k + 1 ∧
          plain.1 = .ok (.converged (.bare resource .deleted) (countOf (k + 1)))) ∧
        ∃ before, plain.2.lines = before ++ [closing] ∧
          deletion.2.lines = before ++ (missing.map fun _ => goneLine resource) ++ [closing]) := by
  intro script reply
  constructor
  · intro task wait told closing
    constructor
    · exact run_lines task replies rfl world.provider.length {} world wait.2 wait.1 rfl 0 rfl rfl
    constructor
    · exact story_debug
    · exact closing_level wait.1
  · intro task deletion plain heard missing closing
    constructor
    · exact (waiter.waits_purging replies resource world).1
    constructor
    · intro k member
      obtain ⟨inside, gone⟩ := List.mem_filter.mp member
      rw [List.length_range]
      exact waiter.missing_ends replies resource world (List.mem_range.mp inside) gone
    · exact waiter.deletion_lines replies resource world

def slowlyGoneTask : Task (List String) := ({} : Waiter).purging slowlyGone "pool" .origin

theorem slowly_gone_ends :
    ∃ last, run slowlyGoneTask {} { provider := [] } =
        (.ok (.converged (.bare "pool" .deleted) 2), last) ∧
      visits slowlyGoneTask {} { provider := [] } =
        [⟨.origin, .origin, .ok (.bare "pool" .pendingDelete)⟩,
          ⟨⟨60000000000⟩, ⟨3660000000000⟩, .ok (.bare "pool" .deleted)⟩] := by
  have start : Before slowlyGoneTask (purged "pool" slowlyGone) {} 0 {} { provider := [] } :=
    ⟨rfl, rfl, rfl, rfl, rfl⟩
  have pending : ∀ i < 1, PendsAt slowlyGoneTask (purged "pool" slowlyGone) i := by
    intro i below
    have zero : i = 0 := by omega
    subst zero
    exact .intro _ (by decide) (by decide) (by decide)
  obtain ⟨last, ran, _, _, visited⟩ := start.settles rfl 1 slowly_gone_calm pending
    (Token.idle_spares _) _ (.converged (.bare "pool" .deleted) (by decide))
  have schedule : (List.range 2).map (scheduled slowlyGoneTask (purged "pool" slowlyGone)) =
      [⟨.origin, .origin, .ok (.bare "pool" .pendingDelete)⟩,
        ⟨⟨60000000000⟩, ⟨3660000000000⟩, .ok (.bare "pool" .deleted)⟩] := by rfl
  exact ⟨last, ran, visited.trans schedule⟩

/-- Half an hour behind the deadline the pool is gone, and the log says so before it ends. -/
theorem slowly_gone_log :
    (({} : Waiter).waitUntil .deleted (Script.sequence slowlyGone) "pool"
        { provider := [] }).2.lines =
      [ ⟨.debug, "fetching resource state", [("resource_id", .text "pool"), ("attempt", .count 1)]⟩,
        ⟨.debug, "resource pending", [("resource_id", .text "pool"), ("attempt", .count 1),
          ("state", .text "PENDING_DELETE")]⟩,
        ⟨.debug, "fetching resource state", [("resource_id", .text "pool"), ("attempt", .count 2)]⟩,
        ⟨.debug, "resource gone; treating as deleted", [("resource_id", .text "pool")]⟩,
        ⟨.info, "resource converged", [("resource_id", .text "pool"), ("attempts", .count 2),
          ("state", .text "DELETED"), ("target", .text "state == DELETED")]⟩ ] := by
  have plain := (log_tells_wait slowlyGoneTask.convergence .standard {} (purged "pool" slowlyGone)
    "pool" { provider := [] }).1.1
  obtain ⟨_, _, before, said, added⟩ := (log_tells_wait .deleted .standard {} slowlyGone "pool"
    { provider := [] }).2
  have told : before = story slowlyGoneTask {} (fun k => (purged "pool" slowlyGone (0 + k)).notes) 0
      (visits slowlyGoneTask {} { provider := [] }) :=
    List.append_cancel_right (said.symm.trans plain)
  obtain ⟨last, ran, visited⟩ := slowly_gone_ends
  have closes : pollUntil (Script.sequence (purged "pool" slowlyGone)) "pool"
      (Convergence.deleted.withPolicy .fail) .standard { provider := [] } = _ := ran
  have heard : visits (({} : Waiter).purging slowlyGone "pool" .origin) {} { provider := [] } = _ :=
    visited
  rw [added, told, visited, closes, heard]
  simp only [closingLine]
  decide +kernel

end ResourceWatch.Wait
