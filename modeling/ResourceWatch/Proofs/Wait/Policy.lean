import ResourceWatch.Proofs.Wait.Goal

/-!
What the policy for unknown states changes in the usual waits. The policies differ in the verdict on
a snapshot that only one of them tolerates, and on no other. So the waits under both are one until
the first such snapshot; there the strict one fails, and the other goes on or runs out of time.
-/

namespace ResourceWatch.Wait

namespace Goal

variable {goal : Goal}

/-- An answer that misses the goal by a state that is neither known nor one of failure. -/
def Tolerates (goal : Goal) (answer : Except FetchError Snapshot) : Prop :=
  ∃ snapshot, answer = .ok snapshot ∧ ¬ goal.Met snapshot ∧
    snapshot.state.isUnrecognized = true ∧ snapshot.state.isFailed = false

theorem verdict_same {snapshot : Snapshot} (known : ¬ goal.Tolerates (.ok snapshot)) :
    (goal.convergence .fail).verdict snapshot =
      (goal.convergence .keepPolling).verdict snapshot := by
  have target : (goal.convergence .fail).target = (goal.convergence .keepPolling).target := by
    cases goal <;> rfl
  by_cases met : goal.Met snapshot
  · have reached := (goal.target_holds_iff .keepPolling snapshot).mpr met
    simp only [Convergence.verdict, target, reached, ↓reduceIte]
  · have failure : (goal.convergence .fail).failure.holds snapshot =
        (goal.convergence .keepPolling).failure.holds snapshot := by
      have settled : snapshot.state.phase ≠ .unknown := fun unknown =>
        known ⟨snapshot, rfl, met, (State.phase_unknown_iff _).mp unknown⟩
      rw [Bool.eq_iff_iff, goal.failure_holds_iff, goal.failure_holds_iff]
      simp [Condemns, settled]
    rw [Convergence.verdict, Convergence.verdict, target, failure]

theorem Tolerates.unknown {answer : Except FetchError Snapshot} (tolerated : goal.Tolerates answer) :
    ∃ snapshot raw, answer = .ok snapshot ∧ snapshot.state = .unrecognized raw ∧
      ¬ goal.Met snapshot ∧ snapshot.state.phase = .unknown := by
  obtain ⟨snapshot, shown, missed, unknown, intact⟩ := tolerated
  have phase := (State.phase_unknown_iff snapshot.state).mpr ⟨unknown, intact⟩
  cases state : snapshot.state with
  | unrecognized raw => exact ⟨snapshot, raw, shown, state, missed, phase⟩
  | _ => simp [state, State.isUnrecognized] at unknown

end Goal

section Task

variable {Provider : Type} {strict lenient : Task Provider} {goal : Goal}
variable {attempt : UInt32} {now : Instant} {answer : Except FetchError Snapshot}

theorem tolerated_fails (strictly : strict.convergence = goal.convergence .fail)
    (tolerated : goal.Tolerates answer) :
    ∃ snapshot raw, answer = .ok snapshot ∧ snapshot.state = .unrecognized raw ∧
      Settles strict attempt now answer (.ok (.failed snapshot raw attempt)) := by
  obtain ⟨snapshot, raw, rfl, state, missed, unknown⟩ := tolerated.unknown
  refine ⟨snapshot, raw, rfl, state, (settles_iff strictly).mpr (Or.inr (Or.inl ⟨missed, ?_, ?_⟩))⟩
  · exact Or.inr ⟨rfl, unknown⟩
  · rw [state]
    rfl

theorem tolerated_times_out (leniently : lenient.convergence = goal.convergence .keepPolling)
    (tolerated : goal.Tolerates answer) {result : Except Interruption Outcome}
    (settles : Settles lenient attempt now answer result) :
    ∃ last, answer = .ok last ∧ result = .ok (.timedOut last attempt) := by
  obtain ⟨snapshot, raw, rfl, _, missed, unknown⟩ := tolerated.unknown
  rcases (settles_iff leniently).mp settles with
    ⟨met, _⟩ | ⟨_, failed | ⟨strictFail, _⟩, _⟩ | ⟨_, _, _, timedOut⟩
  · exact absurd met missed
  · rw [unknown] at failed
    cases failed
  · cases strictFail
  · exact ⟨snapshot, rfl, timedOut⟩

theorem pends_strictly (strictly : strict.convergence = goal.convergence .fail)
    (leniently : lenient.convergence = goal.convergence .keepPolling)
    (alike : Alike lenient strict) (known : ¬ goal.Tolerates answer)
    (pends : Pends lenient now answer) : Pends strict now answer := by
  obtain ⟨snapshot, rfl⟩ := pends.answered
  obtain ⟨missed, bears, early⟩ := (pends_iff leniently).mp pends
  rw [pends_iff strictly, alike.settings, alike.start]
  refine ⟨missed, ?_, early⟩
  rcases bears with pending | succeeded | ⟨_, unknown⟩
  · exact Or.inl pending
  · exact Or.inr (Or.inl succeeded)
  · exact absurd ⟨snapshot, rfl, missed, (State.phase_unknown_iff _).mp unknown⟩ known

theorem pending_until_tolerated (strictly : strict.convergence = goal.convergence .fail)
    (leniently : lenient.convergence = goal.convergence .keepPolling)
    (alike : Alike lenient strict) (replies : Nat → Reply Snapshot) (k : Nat)
    (pending : ∀ i < k, PendsAt lenient replies i)
    (known : ∀ i < k, ¬ goal.Tolerates (replies i).answer) (i : Nat) (before : i < k) :
    PendsAt strict replies i := by
  have answered : done strict replies i = done lenient replies i := by
    rw [done, done, alike.began]
  rw [PendsAt, answered]
  exact pends_strictly strictly leniently alike (known i before) (pending i before)

end Task

section Script

variable {strict lenient : Task (List String)} {goal : Goal} {heard : Nat → Reply Snapshot}
variable {world : World (List String)}

theorem strict_ends_at_tolerated (strictly : strict.convergence = goal.convergence .fail)
    (leniently : lenient.convergence = goal.convergence .keepPolling)
    (alike : Alike lenient strict) (scripted : strict.fetcher = Script.sequence heard)
    (quiet : ∀ i, (heard i).cancels = false) (start : Before strict heard {} 0 {} world) (k : Nat)
    (pending : ∀ i < k, PendsAt lenient heard i)
    (known : ∀ i < k, ¬ goal.Tolerates (heard i).answer)
    (tolerated : goal.Tolerates (heard k).answer) :
    ∃ snapshot raw last, (heard k).answer = .ok snapshot ∧ snapshot.state = .unrecognized raw ∧
      run strict {} world = (.ok (.failed snapshot raw (countOf (k + 1))), last) ∧
      last.provider = List.replicate (k + 1) strict.resource ∧
      visits strict {} world = (List.range (k + 1)).map (scheduled strict heard) := by
  have pendingStrict := pending_until_tolerated strictly leniently alike heard k pending known
  obtain ⟨snapshot, raw, shown, state, fails⟩ := tolerated_fails strictly tolerated
  obtain ⟨last, ran, calls, _, listed⟩ := start.settles scripted k quiet pendingStrict
    (Token.idle_spares _) _ fails
  exact ⟨snapshot, raw, last, shown, state, ran, calls, listed⟩

end Script

/-- The waits under both policies are the same as long as the lenient one has nothing to tolerate.
The first snapshot that it tolerates fails the strict one on that attempt, by its own text, and the
lenient one can end there only by running out of time. -/
theorem policies_part_at_first_tolerated (settings : Settings) (goal : Goal)
    (replies : Nat → Reply Snapshot) (calm : ∀ i, (replies i).cancels = false) (resource : String)
    (world : World (List String)) (uncalled : world.provider = []) (idle : world.token = {}) :
    let wait (policy : UnknownPolicy) := (⟨settings, policy⟩ : Waiter).waitUntil goal
      (Script.sequence replies) resource world
    let seen (policy : UnknownPolicy) := visits ((⟨settings, policy⟩ : Waiter).task goal
      (Script.sequence replies) resource world.now) {} world
    ((∀ visit ∈ seen .keepPolling, ¬ goal.Tolerates visit.answer) →
      wait .fail = wait .keepPolling ∧ seen .fail = seen .keepPolling) ∧
    (∀ k (inside : k < (seen .keepPolling).length),
      goal.Tolerates (seen .keepPolling)[k].answer →
      (∀ visit ∈ (seen .keepPolling).take k, ¬ goal.Tolerates visit.answer) →
      ∃ snapshot raw, (seen .keepPolling)[k].answer = .ok snapshot ∧
        snapshot.state = .unrecognized raw ∧
        (wait .fail).1 = .ok (.failed snapshot raw (countOf (k + 1))) ∧
        (wait .fail).2.provider = List.replicate (k + 1) resource ∧
        (wait .fail).2.provider <+: (wait .keepPolling).2.provider ∧
        seen .fail = (seen .keepPolling).take (k + 1) ∧
        ((seen .keepPolling).length = k + 1 →
          (wait .keepPolling).1 = .ok (.timedOut snapshot (countOf (k + 1))))) := by
  intro wait seen
  let task (policy : UnknownPolicy) : Task (List String) :=
    (⟨settings, policy⟩ : Waiter).scripted goal resource replies world.now
  let heard (i : Nat) : Reply Snapshot := goal.shown resource (replies i)
  have alike : Alike (task .keepPolling) (task .fail) := by
    refine ⟨fun _ => rfl, rfl, rfl, rfl, ?_⟩
    cases goal <;> rfl
  have strictly : (task .fail).convergence = goal.convergence .fail := rfl
  have leniently : (task .keepPolling).convergence = goal.convergence .keepPolling := rfl
  have ran (policy : UnknownPolicy) : wait policy = run (task policy) {} world :=
    (Waiter.hears_script ⟨settings, policy⟩ goal resource replies world).1
  have visited (policy : UnknownPolicy) : seen policy = visits (task policy) {} world :=
    (Waiter.hears_script ⟨settings, policy⟩ goal resource replies world).2
  have quiet : ∀ i, (heard i).cancels = false := fun i =>
    (goal.shown_cancels resource (replies i)).trans (calm i)
  have start (policy : UnknownPolicy) : Before (task policy) heard {} 0 {} world :=
    ⟨rfl, rfl, uncalled, rfl, idle⟩
  constructor
  · intro known
    rw [visited] at known
    rw [ran, ran, visited, visited]
    refine alike.run {} world fun visit member snapshot shown => goal.verdict_same ?_
    rw [← shown]
    exact known visit member
  · intro k inside tolerated known
    obtain ⟨n, result, last, pending, settles, ranTo, calls, _, listed⟩ :=
      (start .keepPolling).ends rfl quiet
    have lenient : seen .keepPolling =
        (List.range (n + 1)).map (scheduled (task .keepPolling) heard) :=
      (visited .keepPolling).trans listed
    have below : k ≤ n := by
      rw [lenient, List.length_map, List.length_range] at inside
      exact Nat.le_of_lt_succ inside
    have visit : (seen .keepPolling)[k].answer = (heard k).answer := by
      simp [lenient, scheduled]
    rw [visit] at tolerated
    -- Nothing below `k` is tolerated, so the strict wait finds it pending as well and comes to `k`.
    have untolerated : ∀ i < k, ¬ goal.Tolerates (heard i).answer := by
      intro i before
      apply known (scheduled (task .keepPolling) heard i)
      rw [lenient, take_map_range _ (Nat.le_succ_of_le below)]
      exact List.mem_map.mpr ⟨i, List.mem_range.mpr before, rfl⟩
    obtain ⟨snapshot, raw, lastStrict, shown, state, ranStrict, callsStrict, listedStrict⟩ :=
      strict_ends_at_tolerated strictly leniently alike rfl quiet (start .fail) k
        (fun i before => pending i (Nat.lt_of_lt_of_le before below)) untolerated tolerated
    have strict : seen .fail = (List.range (k + 1)).map (scheduled (task .fail) heard) :=
      (visited .fail).trans listedStrict
    have called : last.provider = List.replicate (n + 1) resource := calls
    have calledStrict : lastStrict.provider = List.replicate (k + 1) resource := callsStrict
    refine ⟨snapshot, raw, visit.trans shown, state, ?_, ?_, ?_, ?_, ?_⟩
    · rw [ran, ranStrict]
    · rw [ran, ranStrict, calledStrict]
    · rw [ran, ran, ranStrict, ranTo, called, calledStrict, List.prefix_replicate_iff]
      simp [below]
    · rw [strict, lenient, take_map_range _ (Nat.succ_le_succ below), alike.scheduled]
    · intro ended
      have same : n = k := by
        rw [lenient, List.length_map, List.length_range] at ended
        omega
      subst same
      obtain ⟨other, sameAnswer, timedOut⟩ := tolerated_times_out leniently tolerated settles
      rw [shown] at sameAnswer
      cases sameAnswer
      rw [ran, ranTo, timedOut]

def restarting : Nat → Reply Snapshot
  | 0 => { answer := .ok (.bare "server" .pendingAdd) }
  | 1 => { answer := .ok (.bare "server" (.unrecognized "RESTARTING")) }
  | _ => { answer := .ok (.bare "server" .normal) }

theorem restarting_calm : ∀ i, (restarting i).cancels = false
  | 0 => rfl
  | 1 => rfl
  | _ + 2 => rfl

/-- The second look ends a wait that takes unknown states for failures, and not one that tolerates
them. -/
theorem restart_parts_second_look :
    let wait (policy : UnknownPolicy) := (⟨.standard, policy⟩ : Waiter).waitUntil .normal
      (Script.sequence restarting) "server" { provider := [] }
    let restart : Snapshot := .bare "server" (.unrecognized "RESTARTING")
    (∀ i, (restarting i).cancels = false) ∧
      Goal.normal.Tolerates (.ok restart) ∧
      ¬ Goal.normal.Tolerates (.ok (.bare "server" .pendingAdd)) ∧
      (wait .fail).1 = .ok (.failed restart "RESTARTING" 2) ∧
      (wait .fail).2.provider = ["server", "server"] ∧
      (wait .keepPolling).1 = .ok (.converged (.bare "server" .normal) 3) := by
  intro wait restart
  let task := (⟨.standard, .keepPolling⟩ : Waiter).task .normal (Script.sequence restarting)
    "server" .origin
  have tolerated : Goal.normal.Tolerates (.ok restart) := by
    refine ⟨restart, rfl, fun met => ?_, rfl, by decide⟩
    cases met
  have known : ¬ Goal.normal.Tolerates (.ok (.bare "server" .pendingAdd)) := by
    rintro ⟨_, shown, _, unknown, _⟩
    cases shown
    cases unknown
  have start : Before task restarting {} 0 {} { provider := [] } := ⟨rfl, rfl, rfl, rfl, rfl⟩
  have pending : ∀ i < 2, PendsAt task restarting i := by
    intro i below
    have either : i = 0 ∨ i = 1 := by omega
    rcases either with rfl | rfl
    · exact .intro _ (by decide) (by decide) (by decide)
    · exact .intro _ (by decide) (by decide) (by decide)
  obtain ⟨last, ran, _, _, visited⟩ := start.settles rfl 2 restarting_calm pending
    (Token.idle_spares _) _ (.converged (.bare "server" .normal) (by decide))
  have parts := (policies_part_at_first_tolerated .standard .normal restarting restarting_calm
    "server" { provider := [] } rfl rfl).2 1
  dsimp only at parts
  rw [visited] at parts
  obtain ⟨snapshot, raw, shown, state, failed, calls, _⟩ := parts (by decide) tolerated (by
    intro visit member
    have first : visit = scheduled task restarting 0 := List.mem_singleton.mp member
    rw [first]
    exact known)
  have same : restart = snapshot := Except.ok.inj shown
  subst same
  cases state
  have converged : (wait .keepPolling).1 = .ok (.converged (.bare "server" .normal) 3) :=
    congrArg Prod.fst ran
  exact ⟨restarting_calm, tolerated, known, failed, calls, converged⟩

end ResourceWatch.Wait
