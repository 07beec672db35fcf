import ResourceWatch.Proofs.Resource
import ResourceWatch.Proofs.Wait.Account
import ResourceWatch.Proofs.Wait.Schedule
import ResourceWatch.Wait.Poll

/-!
The usual waits, whatever they fetch from and whenever they are called off. A goal asks for a state
or, of a server, for two attributes alone; its failures are phases of the state. A wait goes on after
phases that its policy bears and after no others, and it ends well by an answer that meets its goal.
-/

namespace ResourceWatch.Wait

def Bears (policy : UnknownPolicy) (phase : Phase) : Prop :=
  phase = .pending ∨ phase = .succeeded ∨ policy = .keepPolling ∧ phase = .unknown

def Condemns (policy : UnknownPolicy) (phase : Phase) : Prop :=
  phase = .failed ∨ policy = .fail ∧ phase = .unknown

theorem bears_or_condemns (policy : UnknownPolicy) (phase : Phase) :
    Bears policy phase ↔ ¬ Condemns policy phase := by
  cases policy <;> cases phase <;> simp [Bears, Condemns]

namespace Goal

def Met (goal : Goal) (snapshot : Snapshot) : Prop :=
  match goal with
  | .normal => snapshot.state = .normal
  | .deleted => snapshot.state = .deleted
  | .serverPower started deployed =>
      snapshot.flag? "started" = some started ∧ snapshot.flag? "deployed" = some deployed

theorem target_holds_iff (goal : Goal) (policy : UnknownPolicy) (snapshot : Snapshot) :
    (goal.convergence policy).target.holds snapshot = true ↔ goal.Met snapshot := by
  cases goal with
  | normal => exact beq_iff_eq
  | deleted => exact beq_iff_eq
  | serverPower started deployed =>
      simp [convergence, Convergence.withPolicy, Convergence.serverPower, Convergence.reaching,
        Predicate.and, Predicate.flagIs, Met]

theorem failure_holds_iff (goal : Goal) (policy : UnknownPolicy) (snapshot : Snapshot) :
    (goal.convergence policy).failure.holds snapshot = true ↔
      Condemns policy snapshot.state.phase := by
  have failure : (goal.convergence policy).failure = Convergence.failureFor policy := by
    cases goal <;> rfl
  rw [failure]
  cases policy with
  | keepPolling => simp [Convergence.tolerant_failure_iff, Condemns]
  | fail => simp [Convergence.strict_failure_iff, Condemns]

theorem Met.succeeded {goal : Goal} {snapshot : Snapshot} (met : goal.Met snapshot)
    (byState : goal = .normal ∨ goal = .deleted) : snapshot.state.phase = .succeeded := by
  rcases byState with rfl | rfl
  · rw [show snapshot.state = .normal from met]
    rfl
  · rw [show snapshot.state = .deleted from met]
    rfl

def hears {Provider : Type} (goal : Goal) (fetcher : Fetcher Provider String Snapshot) :
    Fetcher Provider String Snapshot :=
  match goal with
  | .deleted => missingAsDeleted fetcher
  | _ => fetcher

/-- A reply as the goal takes it: of a resource that is to be deleted, one that is missing is. -/
def shown (goal : Goal) (resource : String) (reply : Reply Snapshot) : Reply Snapshot :=
  match goal, reply.answer with
  | .deleted, .error (.notFound _) =>
      { reply with
          answer := .ok (.bare resource .deleted)
          notes := reply.notes ++ [.resourceGone resource] }
  | _, _ => reply

theorem hears_eq {Provider : Type} (goal : Goal) (fetcher : Fetcher Provider String Snapshot)
    (resource : String) (provider : Provider) :
    goal.hears fetcher resource provider =
      (goal.shown resource (fetcher resource provider).1, (fetcher resource provider).2) := by
  cases goal with
  | normal => rfl
  | serverPower started deployed => rfl
  | deleted =>
      simp only [hears, missingAsDeleted, shown]
      obtain ⟨⟨answer, delay, cancels, notes⟩, after⟩ := fetcher resource provider
      cases answer with
      | ok snapshot => rfl
      | error source => cases source <;> rfl

theorem shown_cancels (goal : Goal) (resource : String) (reply : Reply Snapshot) :
    (goal.shown resource reply).cancels = reply.cancels := by
  unfold shown
  split <;> rfl

end Goal

section Waiter

variable {Provider : Type} (waiter : Waiter) (goal : Goal)
  (fetcher : Fetcher Provider String Snapshot) (resource : String)

def Waiter.task (start : Instant) : Task Provider :=
  ⟨goal.hears fetcher, resource, goal.convergence waiter.unknownStates, waiter.settings, start⟩

theorem Waiter.account (world : World Provider) :
    Account (waiter.task goal fetcher resource world.now) 0 none
      (visits (waiter.task goal fetcher resource world.now) {} world)
      (waiter.waitUntil goal fetcher resource world).1 :=
  run_account _ {} world 0 rfl

/-- A wait over a script hears the script that its goal makes of it. -/
def Waiter.scripted (replies : Nat → Reply Snapshot) (start : Instant) : Task (List String) :=
  { waiter.task goal (Script.sequence replies) resource start with
    fetcher := Script.sequence fun i => goal.shown resource (replies i) }

theorem Waiter.hears_script (replies : Nat → Reply Snapshot) (world : World (List String)) :
    waiter.waitUntil goal (Script.sequence replies) resource world =
        run (waiter.scripted goal resource replies world.now) {} world ∧
      visits (waiter.task goal (Script.sequence replies) resource world.now) {} world =
        visits (waiter.scripted goal resource replies world.now) {} world := by
  have alike : Alike (waiter.task goal (Script.sequence replies) resource world.now)
      (waiter.scripted goal resource replies world.now) := by
    refine ⟨fun calls => ?_, rfl, rfl, rfl, rfl⟩
    exact (goal.hears_eq (Script.sequence replies) resource calls).symm
  obtain ⟨ran, visited⟩ := alike.run {} world fun _ _ _ _ => rfl
  exact ⟨ran.symm, visited.symm⟩

end Waiter

section Aims

variable {Provider : Type} {task : Task Provider} {goal : Goal} {policy : UnknownPolicy}
  (aims : task.convergence = goal.convergence policy)
include aims

theorem reached_iff {snapshot : Snapshot} :
    task.convergence.target.holds snapshot = true ↔ goal.Met snapshot := by
  rw [aims]
  exact goal.target_holds_iff policy snapshot

theorem missed_iff {snapshot : Snapshot} :
    task.convergence.target.holds snapshot = false ↔ ¬ goal.Met snapshot := by
  rw [← reached_iff aims, Bool.not_eq_true]

theorem broken_iff {snapshot : Snapshot} :
    task.convergence.failure.holds snapshot = true ↔ Condemns policy snapshot.state.phase := by
  rw [aims]
  exact goal.failure_holds_iff policy snapshot

theorem intact_iff {snapshot : Snapshot} :
    task.convergence.failure.holds snapshot = false ↔ Bears policy snapshot.state.phase := by
  rw [bears_or_condemns, ← broken_iff aims, Bool.not_eq_true]

theorem pends_iff {now : Instant} {snapshot : Snapshot} :
    Pends task now (.ok snapshot) ↔
      ¬ goal.Met snapshot ∧ Bears policy snapshot.state.phase ∧
        (now.since task.start).nanos < task.settings.budget.nanos := by
  rw [← missed_iff aims, ← intact_iff aims]
  constructor
  · intro pends
    cases pends with
    | intro _ missed intact early => exact ⟨missed, intact, early⟩
  · rintro ⟨missed, intact, early⟩
    exact .intro snapshot missed intact early

theorem settles_iff {attempt : UInt32} {now : Instant} {snapshot : Snapshot}
    {result : Except Interruption Outcome} :
    Settles task attempt now (.ok snapshot) result ↔
      goal.Met snapshot ∧ result = .ok (.converged snapshot attempt) ∨
      ¬ goal.Met snapshot ∧ Condemns policy snapshot.state.phase ∧
        result = .ok (.failed snapshot snapshot.state.text attempt) ∨
      ¬ goal.Met snapshot ∧ Bears policy snapshot.state.phase ∧
        task.settings.budget.nanos ≤ (now.since task.start).nanos ∧
        result = .ok (.timedOut snapshot attempt) := by
  rw [← missed_iff aims, ← intact_iff aims, ← broken_iff aims, ← reached_iff aims]
  constructor
  · intro settles
    cases settles with
    | converged _ reached => exact Or.inl ⟨reached, rfl⟩
    | failed _ missed broken => exact Or.inr (Or.inl ⟨missed, broken, rfl⟩)
    | timedOut _ missed intact late => exact Or.inr (Or.inr ⟨missed, intact, late, rfl⟩)
  · rintro (⟨reached, rfl⟩ | ⟨missed, broken, rfl⟩ | ⟨missed, intact, late, rfl⟩)
    · exact .converged snapshot reached
    · exact .failed snapshot missed broken
    · exact .timedOut snapshot missed intact late

theorem outcome_cases {seen : List Visit} {outcome : Outcome}
    (account : Account task 0 none seen (.ok outcome)) :
    ∃ visit ∈ seen, ∃ snapshot, visit.answer = .ok snapshot ∧
      (goal.Met snapshot ∧ outcome = .converged snapshot (countOf seen.length) ∨
        Condemns policy snapshot.state.phase ∧
          outcome = .failed snapshot snapshot.state.text (countOf seen.length) ∨
        Bears policy snapshot.state.phase ∧
          outcome = .timedOut snapshot (countOf seen.length)) := by
  obtain ⟨visit, member, settles⟩ := account.settled_by rfl
  have shown := settles.answered
  rw [shown, Nat.zero_add] at settles
  refine ⟨visit, member, outcome.snapshot, shown, ?_⟩
  rcases (settles_iff aims).mp settles with ⟨met, same⟩ | ⟨_, condemned, same⟩ | ⟨_, bears, _, same⟩
  · exact Or.inl ⟨met, Except.ok.inj same⟩
  · exact Or.inr (Or.inl ⟨condemned, Except.ok.inj same⟩)
  · exact Or.inr (Or.inr ⟨bears, Except.ok.inj same⟩)

variable {seen : List Visit} {result : Except Interruption Outcome} {k : Nat}
  {snapshot : Snapshot}

theorem met_ends (account : Account task 0 none seen result) (inside : k < seen.length)
    (shown : seen[k].answer = .ok snapshot) (met : goal.Met snapshot) :
    seen.length = k + 1 ∧ result = .ok (.converged snapshot (countOf (k + 1))) := by
  have decisive : ¬ Pends task seen[k].done seen[k].answer := by
    rw [shown, pends_iff aims]
    exact fun pends => pends.1 met
  obtain ⟨last, settles⟩ := account.decided inside decisive
  rw [shown, Nat.zero_add, last] at settles
  rcases (settles_iff aims).mp settles with ⟨_, same⟩ | ⟨missed, _⟩ | ⟨missed, _⟩
  · exact ⟨last, same⟩
  · exact absurd met missed
  · exact absurd met missed

theorem failure_ends (account : Account task 0 none seen result) (inside : k < seen.length)
    (shown : seen[k].answer = .ok snapshot) (missed : ¬ goal.Met snapshot)
    (condemned : Condemns policy snapshot.state.phase) :
    seen.length = k + 1 ∧
      result = .ok (.failed snapshot snapshot.state.text (countOf (k + 1))) := by
  have unborne : ¬ Bears policy snapshot.state.phase := fun bears =>
    (bears_or_condemns _ _).mp bears condemned
  have decisive : ¬ Pends task seen[k].done seen[k].answer := by
    rw [shown, pends_iff aims]
    exact fun pends => unborne pends.2.1
  obtain ⟨last, settles⟩ := account.decided inside decisive
  rw [shown, Nat.zero_add, last] at settles
  rcases (settles_iff aims).mp settles with ⟨met, _⟩ | ⟨_, _, same⟩ | ⟨_, bears, _⟩
  · exact absurd met missed
  · exact ⟨last, same⟩
  · exact absurd bears unborne

end Aims

/-- A wait converges by an answer that meets its goal, and by nothing else. A goal that names a
state is met by none that is pending or has failed; that of a server's power lies in its two flags
and leaves the state out. -/
theorem converged_iff_goal_met {Provider : Type} (waiter : Waiter) (goal : Goal)
    (fetcher : Fetcher Provider String Snapshot) (resource : String) (world : World Provider) :
    let seen := visits (waiter.task goal fetcher resource world.now) {} world
    let result := (waiter.waitUntil goal fetcher resource world).1
    (∀ snapshot attempts, result = .ok (.converged snapshot attempts) ↔
      attempts = countOf seen.length ∧
        ∃ visit ∈ seen, visit.answer = .ok snapshot ∧ goal.Met snapshot) ∧
    (goal = .normal ∨ goal = .deleted → ∀ snapshot attempts,
      result = .ok (.converged snapshot attempts) → snapshot.state.phase = .succeeded) := by
  intro seen result
  let task := waiter.task goal fetcher resource world.now
  have aims : task.convergence = goal.convergence waiter.unknownStates := rfl
  have account : Account task 0 none seen result := waiter.account goal fetcher resource world
  have iff : ∀ snapshot attempts, result = .ok (.converged snapshot attempts) ↔
      attempts = countOf seen.length ∧
        ∃ visit ∈ seen, visit.answer = .ok snapshot ∧ goal.Met snapshot := by
    intro snapshot attempts
    constructor
    · intro converged
      rw [converged] at account
      obtain ⟨visit, member, other, shown, ⟨met, same⟩ | ⟨_, same⟩ | ⟨_, same⟩⟩ :=
        outcome_cases aims account
      · cases same
        exact ⟨rfl, visit, member, shown, met⟩
      · cases same
      · cases same
    · rintro ⟨rfl, visit, member, shown, met⟩
      obtain ⟨k, inside, rfl⟩ := List.mem_iff_getElem.mp member
      obtain ⟨last, converged⟩ := met_ends aims account inside shown met
      rw [last]
      exact converged
  refine ⟨iff, fun byState snapshot attempts converged => ?_⟩
  obtain ⟨_, _, _, _, met⟩ := (iff snapshot attempts).mp converged
  exact met.succeeded byState

def neverThere : Nat → Reply Snapshot := fun _ => { answer := .error (.notFound "pool") }

/-- A pool that is gone when it is first looked at has been deleted. -/
theorem missing_pool_deleted :
    (Goal.deleted = .normal ∨ Goal.deleted = .deleted) ∧
      let wait := ({} : Waiter).waitUntil .deleted (Script.sequence neverThere) "pool"
        { provider := [] }
      wait.1 = .ok (.converged (.bare "pool" .deleted) 1) ∧
        (Snapshot.bare "pool" .deleted).state.phase = .succeeded := by
  have byState : Goal.deleted = .normal ∨ Goal.deleted = .deleted := Or.inr rfl
  obtain ⟨iff, succeeded⟩ := converged_iff_goal_met {} .deleted (Script.sequence neverThere) "pool"
    { provider := [] }
  have visited := (run_settled_at_once (({} : Waiter).task .deleted (Script.sequence neverThere)
    "pool" .origin) { provider := [] } _ _ rfl rfl rfl _
    (.converged (.bare "pool" .deleted) (by decide))).2
  have converged := (iff (.bare "pool" .deleted) 1).mpr
    ⟨by rw [visited]; rfl, _, by rw [visited]; exact List.mem_singleton.mpr rfl, rfl, rfl⟩
  exact ⟨byState, converged, succeeded byState _ _ converged⟩

def powered (state : State) : Snapshot :=
  ((Snapshot.bare "server" state).withAttribute "started" (.boolean true)).withAttribute "deployed"
    (.boolean true)

theorem powered_converges (policy : UnknownPolicy) (state : State) :
    ((⟨.standard, policy⟩ : Waiter).waitUntil (.serverPower true true)
      (Script.sequence fun _ => { answer := .ok (powered state) }) "server" { provider := [] }).1 =
        .ok (.converged (powered state) 1) := by
  have met : (Goal.serverPower true true).Met (powered state) := by
    constructor <;> rfl
  exact (run_settled_at_once ((⟨.standard, policy⟩ : Waiter).task (.serverPower true true)
    (Script.sequence fun _ => { answer := .ok (powered state) }) "server" .origin)
    { provider := [] } _ _ rfl rfl rfl _
    (.converged (powered state) ((Goal.target_holds_iff _ _ _).mpr met))).1

/-- The state of a server is not looked at when its flags are as awaited: one that has failed, one
that is being changed and, though unknown states count as failures, one in an unknown state. -/
theorem power_found_in_any_phase :
    let wait (state : State) := ((⟨.standard, .fail⟩ : Waiter).waitUntil (.serverPower true true)
      (Script.sequence fun _ => { answer := .ok (powered state) }) "server" { provider := [] }).1
    (wait .failedAdd = .ok (.converged (powered .failedAdd) 1) ∧
      (powered .failedAdd).state.phase = .failed) ∧
    (wait .pendingChange = .ok (.converged (powered .pendingChange) 1) ∧
      (powered .pendingChange).state.phase = .pending) ∧
    (wait (.unrecognized "RESTARTING") = .ok (.converged (powered (.unrecognized "RESTARTING")) 1) ∧
      (powered (.unrecognized "RESTARTING")).state.phase = .unknown) := by
  refine ⟨⟨powered_converges _ _, rfl⟩, ⟨powered_converges _ _, rfl⟩, powered_converges _ _, ?_⟩
  decide

/-- A wait goes on after phases that its policy bears, and fails by those that it does not. A text
that begins with failure stops it on that attempt, however it is spelled, unless the goal asks for
nothing but flags. -/
theorem polling_stops_at_failure {Provider : Type} (waiter : Waiter) (goal : Goal)
    (fetcher : Fetcher Provider String Snapshot) (resource : String) (world : World Provider) :
    let seen := visits (waiter.task goal fetcher resource world.now) {} world
    let result := (waiter.waitUntil goal fetcher resource world).1
    (∀ k (inside : k < seen.length),
      (k + 1 < seen.length ∨
        ∃ attempts last, result = .error (.cancelled resource attempts last)) →
      ∃ snapshot, seen[k].answer = .ok snapshot ∧
        Bears waiter.unknownStates snapshot.state.phase) ∧
    (∀ last attempts, result = .ok (.timedOut last attempts) →
      Bears waiter.unknownStates last.state.phase) ∧
    (∀ snapshot reason attempts, result = .ok (.failed snapshot reason attempts) →
      Condemns waiter.unknownStates snapshot.state.phase ∧ reason = snapshot.state.text) ∧
    (goal = .normal ∨ goal = .deleted →
      ∀ k (inside : k < seen.length) snapshot raw, seen[k].answer = .ok snapshot →
        snapshot.state = State.parse raw → (State.parse raw).isUnrecognized = true →
        "FAILED".toList <+: State.lettersOf raw →
          seen.length = k + 1 ∧ result = .ok (.failed snapshot raw (countOf (k + 1)))) := by
  intro seen result
  let task := waiter.task goal fetcher resource world.now
  have aims : task.convergence = goal.convergence waiter.unknownStates := rfl
  have account : Account task 0 none seen result := waiter.account goal fetcher resource world
  refine ⟨?_, ?_, ?_, ?_⟩
  · intro k inside goesOn
    have pends : Pends task seen[k].done seen[k].answer := by
      -- Behind a pending answer the wait goes on, or is called off in its sleep.
      rcases goesOn with more | ⟨attempts, last, calledOff⟩
      · exact account.pends_before inside more
      · exact account.pends_of_called_off calledOff seen[k] (List.getElem_mem inside)
    obtain ⟨snapshot, shown⟩ := pends.answered
    rw [shown, pends_iff aims] at pends
    exact ⟨snapshot, shown, pends.2.1⟩
  · intro last attempts timedOut
    rw [timedOut] at account
    obtain ⟨_, _, snapshot, _, ⟨_, same⟩ | ⟨_, same⟩ | ⟨bears, same⟩⟩ :=
      outcome_cases aims account
    · cases same
    · cases same
    · cases same
      exact bears
  · intro snapshot reason attempts failed
    rw [failed] at account
    obtain ⟨_, _, other, _, ⟨_, same⟩ | ⟨condemned, same⟩ | ⟨_, same⟩⟩ :=
      outcome_cases aims account
    · cases same
    · cases same
      exact ⟨condemned, rfl⟩
    · cases same
  · intro byState k inside snapshot raw shown parsed unknown spelled
    have kept : snapshot.state = .unrecognized raw :=
      parsed.trans (State.parse_of_unrecognized unknown)
    have failed : snapshot.state.phase = .failed := by
      rw [State.phase_failed_iff, kept]
      exact List.isPrefixOf_iff_prefix.mpr spelled
    have missed : ¬ goal.Met snapshot := by
      intro met
      rw [met.succeeded byState] at failed
      cases failed
    have ends := failure_ends aims account inside shown missed (Or.inl failed)
    rw [kept] at ends
    exact ends

def soonBroken : Nat → Reply Snapshot
  | 0 => { answer := .ok (.bare "server" .pendingAdd) }
  | _ => { answer := .ok (.bare "server" (State.parse " failed-Restore ")) }

theorem soon_broken_calm (i : Nat) : (soonBroken i).cancels = false := by
  cases i <;> rfl

/-- The second look ends a wait that tolerates unknown states, since the text begins with failure. -/
theorem spelled_failure_stops_second :
    let waiter : Waiter := ⟨.standard, .keepPolling⟩
    let broken : Snapshot := .bare "server" (State.parse " failed-Restore ")
    (Goal.normal = .normal ∨ Goal.normal = .deleted) ∧
      (visits (waiter.task .normal (Script.sequence soonBroken) "server" .origin) {}
        { provider := [] }).map (·.answer) = [.ok (.bare "server" .pendingAdd), .ok broken] ∧
      (State.parse " failed-Restore ").isUnrecognized = true ∧
      "FAILED".toList <+: State.lettersOf " failed-Restore " ∧
      (waiter.waitUntil .normal (Script.sequence soonBroken) "server" { provider := [] }).1 =
        .ok (.failed broken " failed-Restore " 2) := by
  intro waiter broken
  have byState : Goal.normal = .normal ∨ Goal.normal = .deleted := Or.inl rfl
  have unknown : (State.parse " failed-Restore ").isUnrecognized = true := by decide
  have spelled : "FAILED".toList <+: State.lettersOf " failed-Restore " := by decide
  let task := waiter.task .normal (Script.sequence soonBroken) "server" .origin
  have start : Before task soonBroken {} 0 {} { provider := [] } := ⟨rfl, rfl, rfl, rfl, rfl⟩
  have pending : ∀ i < 1, PendsAt task soonBroken i := by
    intro i below
    have zero : i = 0 := by omega
    subst zero
    exact .intro _ (by decide) (by decide) (by decide)
  obtain ⟨last, _, _, _, visited⟩ := start.settles rfl 1 soon_broken_calm pending
    (Token.idle_spares _) _ (.failed broken (by decide) (by decide))
  obtain ⟨_, _, _, stops⟩ := polling_stops_at_failure waiter .normal (Script.sequence soonBroken)
    "server" { provider := [] }
  dsimp only at stops
  rw [visited] at stops
  have stopped := stops byState 1 (by decide) broken " failed-Restore " rfl rfl unknown spelled
  exact ⟨byState, by rw [visited]; rfl, unknown, spelled, stopped.2⟩

end ResourceWatch.Wait
