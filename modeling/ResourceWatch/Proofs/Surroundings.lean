import ResourceWatch.World

/-!
What a token does to one who heeds it. A token spares a sleeper until an instant when it has not
fired and is not due by then. A fetch that is spared takes its time and gives its answer; any other
is cut short with the call already made.

The log as it is read, one line for each event: its level, its message and its fields. Lines are
only ever added behind those that are there. A fetch adds what the provider remarks on it, and only
when its answer comes to hand.
-/

namespace ResourceWatch

namespace Instant

theorem le_wake_after (instant : Instant) (length : Duration) :
    instant.nanos ≤ (instant.wakeAfter length).nanos := by
  unfold wakeAfter after?
  split
  · exact Nat.le_trans (Nat.le_add_right ..) (le_rounded_up (instant.after length))
  · exact Nat.le_trans (Nat.le_add_right ..) (le_rounded_up (instant.after farSleep))

end Instant

namespace Token

/-- The token has not fired and is not due until after an instant. -/
def Spares (token : Token) (wake : Instant) : Prop :=
  token.fired = false ∧ ∀ due, token.due = some due → wake.nanos < due.nanos

/-- The token that fires so long after an instant; after no time at all, it has fired already. -/
def firingAfter (start : Instant) (wait : Duration) : Token :=
  if wait.nanos = 0 then { fired := true } else { due := some (start.after wait) }

theorem idle_spares (wake : Instant) : Token.Spares {} wake :=
  ⟨rfl, fun _ absent => by cases absent⟩

theorem due_spares {due wake : Instant} (before : wake.nanos < due.nanos) :
    Token.Spares { due := some due } wake :=
  ⟨rfl, fun _ same => by cases same; exact before⟩

theorem Spares.earlier {token : Token} {early late : Instant} (spared : token.Spares late)
    (before : early.nanos ≤ late.nanos) : token.Spares early :=
  ⟨spared.1, fun due soon => Nat.lt_of_le_of_lt before (spared.2 due soon)⟩

theorem Spares.not_fired_by {token : Token} {wake : Instant} (spared : token.Spares wake)
    (now : Instant) : token.firedBy? now wake = none := by
  unfold firedBy?
  rw [spared.1]
  cases soon : token.due with
  | none => rfl
  | some due => simp [Nat.not_le.mpr (spared.2 due soon)]

theorem spares_of_not_fired {token : Token} {now wake : Instant}
    (quiet : token.firedBy? now wake = none) : token.Spares wake := by
  unfold firedBy? at quiet
  split at quiet
  · cases quiet
  · rename_i unfired
    refine ⟨by simpa using unfired, fun due soon => ?_⟩
    rw [soon] at quiet
    simpa using quiet

theorem Spares.passed {token : Token} {wake : Instant} (spared : token.Spares wake)
    (now : Instant) : token.passed now wake = token := by
  simp [Token.passed, spared.not_fired_by]

theorem passed_fired {token : Token} (fired : token.fired = true) (now wake : Instant) :
    (token.passed now wake).fired = true := by
  simp [passed, firedBy?, fired, fire]

theorem fired_by_due (now due wake : Instant) (ahead : now.nanos ≤ due.nanos)
    (soon : due.nanos ≤ wake.nanos) :
    Token.firedBy? { due := some due } now wake = some due := by
  simp [firedBy?, soon, Nat.max_eq_right ahead]

theorem passed_due (now due wake : Instant) (ahead : now.nanos ≤ due.nanos)
    (soon : due.nanos ≤ wake.nanos) :
    Token.passed { due := some due } now wake = { fired := true, due := some due } := by
  simp [passed, fired_by_due now due wake ahead soon, fire]

end Token

def Reply.SameButNotes {Answer : Type} (reply other : Reply Answer) : Prop :=
  ∃ notes, other = { reply with notes }

namespace World

variable {Provider Request Answer : Type}

theorem sleep_provider (world : World Provider) (wake : Instant) :
    (world.sleepUntil wake).2.provider = world.provider := by
  unfold sleepUntil
  split <;> rfl

theorem fetch_spared (world : World Provider) (fetcher : Fetcher Provider Request Answer)
    (request : Request) (reply : Reply Answer) (provider : Provider)
    (called : fetcher request world.provider = (reply, provider))
    (calm : reply.cancels = false) (spared : world.token.Spares (world.now.after reply.delay)) :
    world.fetch fetcher request true =
      (some reply.answer, { world with
        provider, now := world.now.after reply.delay
        log := world.log ++ reply.notes.toArray }) := by
  simp [fetch, called, calm, sleepUntil, spared.not_fired_by]

theorem fetch_cut (world : World Provider) (fetcher : Fetcher Provider Request Answer)
    (request : Request) (reply : Reply Answer) (provider : Provider) (instant : Instant)
    (called : fetcher request world.provider = (reply, provider)) (calm : reply.cancels = false)
    (fires : world.token.firedBy? world.now (world.now.after reply.delay) = some instant) :
    world.fetch fetcher request true =
      (none, { world with provider, now := instant, token := world.token.fire }) := by
  simp [fetch, called, calm, sleepUntil, fires]

theorem fetch_fires (world : World Provider) (fetcher : Fetcher Provider Request Answer)
    (request : Request) (reply : Reply Answer) (provider : Provider)
    (called : fetcher request world.provider = (reply, provider))
    (cancels : reply.cancels = true) :
    world.fetch fetcher request true =
      (none, { world with provider, token := world.token.fire }) := by
  simp [fetch, called, cancels, sleepUntil, Token.firedBy?, Token.fire]

theorem fetch_fired (world : World Provider) (fetcher : Fetcher Provider Request Answer)
    (request : Request) (fired : world.token.fired = true) :
    (world.fetch fetcher request true).1 = none := by
  cases cancels : (fetcher request world.provider).1.cancels <;>
    simp [fetch, sleepUntil, Token.firedBy?, Token.fire, cancels, fired]

theorem fetch_heard {world answered : World Provider}
    {fetcher : Fetcher Provider Request Answer} {request : Request}
    {answer : Except FetchError Answer}
    (heard : world.fetch fetcher request true = (some answer, answered)) :
    answered.token = world.token ∧ world.token.Spares answered.now := by
  cases cancels : (fetcher request world.provider).1.cancels with
  | true =>
      rw [world.fetch_fires fetcher request _ _ rfl cancels] at heard
      cases heard
  | false =>
      cases fires : world.token.firedBy? world.now
          (world.now.after (fetcher request world.provider).1.delay) with
      | some instant =>
          rw [world.fetch_cut fetcher request _ _ instant rfl cancels fires] at heard
          cases heard
      | none =>
          have spared := Token.spares_of_not_fired fires
          rw [world.fetch_spared fetcher request _ _ rfl cancels spared] at heard
          cases heard
          exact ⟨rfl, spared⟩

theorem fetch_provider (world : World Provider) (fetcher : Fetcher Provider Request Answer)
    (request : Request) (heeds : Bool) :
    (world.fetch fetcher request heeds).2.provider = (fetcher request world.provider).2 := by
  cases heeds with
  | true =>
      simp only [fetch, sleepUntil, ↓reduceIte]
      cases Token.firedBy? _ _ _ <;> rfl
  | false => rfl

theorem fetch_answer (world : World Provider) (fetcher : Fetcher Provider Request Answer)
    (request : Request) (heeds : Bool) :
    (world.fetch fetcher request heeds).1 = none ∨
      (world.fetch fetcher request heeds).1 = some (fetcher request world.provider).1.answer := by
  cases heeds with
  | false => exact Or.inr rfl
  | true =>
      simp only [fetch, sleepUntil, ↓reduceIte]
      cases Token.firedBy? _ _ _ with
      | some instant => exact Or.inl rfl
      | none => exact Or.inr rfl

theorem fetch_relogged (world : World Provider) (log : Array Event)
    (fetcher other : Fetcher Provider Request Answer) (request : Request) (heeds : Bool)
    (reply : (fetcher request world.provider).1.SameButNotes (other request world.provider).1)
    (provider : (other request world.provider).2 = (fetcher request world.provider).2) :
    ∃ later, World.fetch { world with log } other request heeds =
      ((world.fetch fetcher request heeds).1,
        { (world.fetch fetcher request heeds).2 with log := later }) := by
  obtain ⟨notes, same⟩ := reply
  have called : other request world.provider =
      ({ (fetcher request world.provider).1 with notes }, (fetcher request world.provider).2) :=
    Prod.ext same provider
  cases heeds with
  | false =>
      simp only [fetch, called, passUntil]
      exact ⟨_, rfl⟩
  | true =>
      simp only [fetch, called, sleepUntil, ↓reduceIte]
      cases Token.firedBy? _ _ _ <;> exact ⟨_, rfl⟩

theorem fetch_record_answer (world : World Provider) (event : Event)
    (fetcher : Fetcher Provider Request Answer) (request : Request) (heeds : Bool) :
    ((world.record event).fetch fetcher request heeds).1 =
      (world.fetch fetcher request heeds).1 := by
  obtain ⟨_, fetched⟩ := world.fetch_relogged (world.log.push event) fetcher fetcher request heeds
    ⟨_, rfl⟩ rfl
  rw [record, fetched]

/-- A call is answered when nobody heeds the token, or the token stays quiet that long. -/
def Undisturbed (heeds : Bool) (token : Token) (now : Instant) (reply : Reply Answer) : Prop :=
  heeds = true → reply.cancels = false ∧ token.Spares (now.after reply.delay)

theorem fetch_answered (world : World Provider) (fetcher : Fetcher Provider Request Answer)
    (request : Request) (heeds : Bool) (reply : Reply Answer) (provider : Provider)
    (called : fetcher request world.provider = (reply, provider))
    (undisturbed : Undisturbed heeds world.token world.now reply) :
    ∃ kept, (heeds = true → kept = world.token) ∧
      world.fetch fetcher request heeds =
        (some reply.answer, { world with
          provider, now := world.now.after reply.delay, token := kept
          log := world.log ++ reply.notes.toArray }) := by
  cases heeds with
  | true =>
      obtain ⟨calm, spared⟩ := undisturbed rfl
      exact ⟨world.token, fun _ => rfl, world.fetch_spared fetcher request reply provider called
        calm spared⟩
  | false =>
      simp only [fetch, called, passUntil, Bool.false_eq_true, ↓reduceIte]
      exact ⟨_, fun heeded => heeded.elim, rfl⟩

end World

namespace Event

structure Line where
  level : Level
  message : String
  fields : List (String × Content)
  deriving DecidableEq, Repr

def line (event : Event) : Line := ⟨event.level, event.message, event.fields⟩

end Event

namespace World

variable {Provider Request Answer : Type}

def lines (world : World Provider) : List Event.Line := world.log.toList.map Event.line

@[simp]
theorem lines_record (world : World Provider) (event : Event) :
    (world.record event).lines = world.lines ++ [event.line] := by
  simp [lines, record]

theorem lines_append (world : World Provider) (events : List Event) :
    { world with log := world.log ++ events.toArray }.lines =
      world.lines ++ events.map Event.line := by
  simp [lines]

theorem lines_moved (world : World Provider) (now : Instant) (token : Token) :
    { world with now, token }.lines = world.lines := rfl

theorem lines_fetch {world after : World Provider} {fetcher : Fetcher Provider Request Answer}
    {request : Request} {heeds : Bool} {answer : Option (Except FetchError Answer)}
    (fetched : world.fetch fetcher request heeds = (answer, after)) :
    after.lines = world.lines ++
      answer.elim [] fun _ => (fetcher request world.provider).1.notes.map Event.line := by
  cases heeds with
  | false =>
      cases fetched
      simp [lines, passUntil]
  | true =>
      simp only [fetch, sleepUntil, ↓reduceIte] at fetched
      generalize Token.firedBy? _ _ _ = fires at fetched
      cases fires with
      | some instant =>
          cases fetched
          simp [lines]
      | none =>
          cases fetched
          simp [lines]

end World

end ResourceWatch
