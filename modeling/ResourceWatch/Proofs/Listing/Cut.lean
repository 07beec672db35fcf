import ResourceWatch.Proofs.Listing.Course
import ResourceWatch.Script.Run

/-!
What a reader of a listing comes to whom nobody calls off. Each of his acts passes time, or hands
over what is there, or is answered by the next page. Whenever he pulls, he is given what the course
of the listing gives at that place.

What a listing comes to when it is called off. Up to the firing the reader is given what he would
have been given without it. From then on nothing is fetched: he is given the items of the pages that
were complete, is told that the listing was called off before the next, and gets nothing more. A
listing that has no next page ends as it would have ended.
-/

namespace ResourceWatch.Listing

open Script (Act Reader)

variable {Item : Type}

theorem pull_quiet_or_asks (cursor : Cursor Item) :
    (∃ answer rest, ∀ (fetcher : Fetcher (List Request) Request (Page Item)) world,
      cursor.pull fetcher world = (answer, rest, world)) ∨
    ∃ request, cursor.buffered = [] ∧ cursor.next = some request := by
  cases left : cursor.buffered with
  | cons value rest =>
      exact Or.inl ⟨_, _, fun fetcher world => pull_buffered fetcher world left⟩
  | nil =>
      cases asked : cursor.next with
      | none => exact Or.inl ⟨_, _, fun fetcher world => pull_over fetcher world left asked⟩
      | some request => exact Or.inr ⟨request, rfl, rfl⟩

section Reader

variable (fetcher : Fetcher (List Request) Request (Page Item))

def restedFor (reader : Reader Item) (length : Duration) : Reader Item :=
  { reader with world := { reader.world with now := reader.world.now.after length } }

def answeredBy (reader : Reader Item) (request : Request) (reply : Reply (Page Item)) :
    Reader Item :=
  let turned := reader.cursor.turn request reply.answer
  let done := reader.world.now.after reply.delay
  { cursor := turned.2
    world := { reader.world with
      provider := reader.world.provider ++ [request]
      now := done
      log := reader.world.log.push (.fetchingPage request.pageNumber request.marker) ++
        reply.notes.toArray ++ (reader.cursor.remarks request reply.answer).toArray }
    given := reader.given ++ [turned.1]
    spans := reader.spans ++ [⟨reader.world.now, done⟩] }

variable {fetcher} {reader : Reader Item}

theorem act_quiet {answer : Pull Item} {rest : Cursor Item}
    (quiet : ∀ (fetcher : Fetcher (List Request) Request (Page Item)) world,
      reader.cursor.pull fetcher world = (answer, rest, world)) :
    reader.act fetcher .pull =
      { reader with cursor := rest, given := reader.given ++ [answer] } := by
  simp only [Reader.act, quiet, Nat.lt_irrefl, ↓reduceIte]

theorem act_answered {request : Request} (reply : Reply (Page Item))
    (handed : reader.cursor.buffered = []) (asked : reader.cursor.next = some request)
    (heeds : reader.cursor.heedsToken = true)
    (called : fetcher request reader.world.provider =
      (reply, reader.world.provider ++ [request]))
    (calm : reply.cancels = false)
    (spared : reader.world.token.Spares (reader.world.now.after reply.delay)) :
    reader.act fetcher .pull = answeredBy reader request reply := by
  obtain ⟨kept, same, pulls⟩ := pull_answered fetcher reader.world handed asked called
    fun _ => ⟨calm, spared⟩
  simp only [Reader.act, pulls, same heeds, answeredBy, List.length_append, List.length_singleton,
    Nat.lt_succ_self, ↓reduceIte]

theorem done_before_answered (request : Request) (reply : Reply (Page Item)) (instant : Instant) :
    (answeredBy reader request reply).doneBefore instant = reader.doneBefore instant +
      if (reader.world.now.after reply.delay).nanos < instant.nanos then 1 else 0 := by
  simp only [answeredBy, Reader.doneBefore, List.filter_append, List.length_append]
  split <;> rename_i before <;> simp [before]

theorem begun_before_answered (request : Request) (reply : Reply (Page Item))
    (instant : Instant) :
    (answeredBy reader request reply).begunBefore instant = reader.begunBefore instant +
      if reader.world.now.nanos < instant.nanos then 1 else 0 := by
  simp only [answeredBy, Reader.begunBefore, List.filter_append, List.length_append]
  split <;> rename_i before <;> simp [before]

end Reader

section Whole

variable (replies : Nat → Reply (Page Item)) (options : Options)

/-- A reader of a listing that nobody called off has got what the course of the listing gives. -/
structure Reads (whole : Reader Item) : Prop where
  stands : Stands replies options whole.world.provider.length whole.given.length whole.cursor
    whole.world.provider
  given : whole.given.length ≤ (received replies whole.world.provider.length).length →
    whole.given =
      ((received replies whole.world.provider.length).take whole.given.length).map .item
  spanned : whole.spans.length = whole.world.provider.length
  heeds : whole.cursor.heedsToken = true
  idle : whole.world.token = {}

inductive Acts (whole : Reader Item) : Act → Reader Item → Prop where
  | rest (length : Duration) : Acts whole (.rest length) (restedFor whole length)
  | quiet {answer : Pull Item} {rest : Cursor Item}
      (quiet : ∀ (fetcher : Fetcher (List Request) Request (Page Item)) world,
        whole.cursor.pull fetcher world = (answer, rest, world)) :
      Acts whole .pull { whole with cursor := rest, given := whole.given ++ [answer] }
  | asked {request : Request} (handed : whole.cursor.buffered = [])
      (asked : whole.cursor.next = some request) :
      Acts whole .pull (answeredBy whole request (replies whole.world.provider.length))

theorem start_reads (world : World (List Request)) (unasked : world.provider = [])
    (idle : world.token = {}) :
    Reads replies options { cursor := .start options, world } := by
  refine ⟨?_, fun _ => rfl, by simp [unasked], rfl, idle⟩
  simp only [unasked]
  exact start_stands replies options true

variable {replies options} {whole : Reader Item} (reads : Reads replies options whole)
variable (calm : ∀ i, (replies i).cancels = false)
include reads calm

theorem Reads.act_cases (act : Act) :
    Acts replies whole act (whole.act (Script.sequence replies) act) := by
  cases act with
  | rest length =>
      have rested :
          whole.act (Script.sequence replies) (.rest length) = restedFor whole length := by
        have token := (Token.idle_spares (whole.world.now.after length)).passed whole.world.now
        simp only [Reader.act, World.passUntil, restedFor, reads.idle, token]
      rw [rested]
      exact .rest length
  | pull =>
      rcases pull_quiet_or_asks whole.cursor with ⟨answer, rest, quiet⟩ | ⟨request, handed, asked⟩
      · rw [act_quiet quiet]
        exact .quiet quiet
      · rw [act_answered (replies whole.world.provider.length) handed asked reads.heeds rfl (calm _)
          (reads.idle ▸ Token.idle_spares _)]
        exact .asked handed asked

theorem Reads.act (act : Act) :
    Reads replies options (whole.act (Script.sequence replies) act) := by
  -- Calls and spans grow together, since whoever calls is answered.
  have spanned : (whole.act (Script.sequence replies) act).spans.length =
      (whole.act (Script.sequence replies) act).world.provider.length := by
    have acted := reads.act_cases calm act
    generalize whole.act (Script.sequence replies) act = after at acted
    cases acted with
    | rest | quiet => exact reads.spanned
    | asked => simp [answeredBy, reads.spanned]
  cases act with
  | rest length =>
      refine ⟨reads.stands, reads.given, spanned, reads.heeds, ?_⟩
      simp only [Reader.act, World.passUntil, reads.idle]
      exact (Token.idle_spares _).passed _
  | pull =>
      obtain ⟨later, step⟩ : ∃ later, Steps replies options whole.world.provider.length
          whole.given.length later whole.cursor whole.world
          (whole.cursor.pull (Script.sequence replies) whole.world) :=
        reads.stands.pull fun _ => ⟨calm _, reads.idle ▸ Token.idle_spares _⟩
      have calls := step.stands.calls_length
      simp only [Reader.act] at spanned ⊢
      generalize whole.cursor.pull (Script.sequence replies) whole.world = result
        at step calls spanned ⊢
      obtain ⟨answer, cursor, world⟩ := result
      subst calls
      refine ⟨?_, ?_, spanned, step.heeds.trans reads.heeds,
        (step.token reads.heeds).trans reads.idle⟩
      · rw [List.length_append, List.length_singleton]
        exact step.stands
      · intro inside
        rw [List.length_append, List.length_singleton] at inside ⊢
        exact step.items reads.given inside

theorem Reads.acts (acts : List Act) :
    Reads replies options (whole.acts (Script.sequence replies) acts) := by
  induction acts generalizing whole with
  | nil => exact reads
  | cons act later ih => exact ih (reads.act calm act)

end Whole

section Cut

variable (replies : Nat → Reply (Page Item)) (options : Options)

/-- A reader who was called off when so many fetches were complete and so many calls made, beside
the reader as he would have been. -/
structure CutShort (completed called : Nat) (whole cut : Reader Item) : Prop where
  cutOff : ∀ inside : completed < whole.world.provider.length, ∃ more,
    cut.given = (received replies completed).map .item ++
      .failed (.cancelled whole.world.provider[completed].pageNumber) ::
        List.replicate more .ended
  /-- Without a next page there is nothing to call off. -/
  kept : whole.world.provider.length ≤ completed → cut = whole.withToken cut.world.token
  calls : cut.world.provider = whole.world.provider.take called

/-- The token has fired, and what was complete by then is all there will be. -/
structure CalledOff (completed called : Nat) (whole cut : Reader Item) : Prop
    extends CutShort replies completed called whole cut where
  fired : cut.world.token.fired = true
  complete : completed ≤ whole.world.provider.length
  made : called ≤ whole.world.provider.length
  closed : completed < whole.world.provider.length →
    cut.cursor.next = none ∧ cut.cursor.buffered = []

variable {replies options} {whole : Reader Item} {completed called : Nat}

theorem same_cut_short {cut : Reader Item} (same : cut = whole.withToken cut.world.token)
    (complete : whole.world.provider.length ≤ completed)
    (made : whole.world.provider.length ≤ called) :
    CutShort replies completed called whole cut := by
  have provider : cut.world.provider = whole.world.provider := by rw [same]; rfl
  refine ⟨fun inside => absurd inside (Nat.not_lt.mpr complete), fun _ => same, ?_⟩
  rw [provider, List.take_of_length_le made]

theorem same_called_off {cut : Reader Item} (same : cut = whole.withToken cut.world.token)
    (fired : cut.world.token.fired = true) (calls : whole.world.provider.length = called) :
    CalledOff replies called called whole cut where
  toCutShort := same_cut_short same (Nat.le_of_eq calls) (Nat.le_of_eq calls)
  fired := fired
  complete := Nat.le_of_eq calls.symm
  made := Nat.le_of_eq calls.symm
  closed inside := absurd calls.symm (Nat.ne_of_lt inside)

/-- The request for the next page is where the two readers part. -/
theorem Reads.called_off (reads : Reads replies options whole)
    {fetcher : Fetcher (List Request) Request (Page Item)} {cut : Reader Item}
    (same : cut = whole.withToken cut.world.token) {request : Request}
    (handed : whole.cursor.buffered = []) (asked : whole.cursor.next = some request)
    {last : World (List Request)}
    (pulls : cut.cursor.pull fetcher cut.world =
      (.failed (.cancelled request.pageNumber), cut.cursor.closed, last))
    (fired : last.token.fired = true) (made : called ≤ whole.world.provider.length + 1)
    (calls : last.provider = (whole.world.provider ++ [request]).take called) :
    CalledOff replies whole.world.provider.length called
      (answeredBy whole request (replies whole.world.provider.length)) (cut.act fetcher .pull) := by
  have grown : (whole.world.provider ++ [request]).length = whole.world.provider.length + 1 := by
    simp
  have given : cut.given = whole.given := by rw [same]; rfl
  -- Whoever asks for a page was handed all that came before it.
  have here : whole.given.length = (received replies whole.world.provider.length).length :=
    Nat.le_antisymm (reads.stands.counted (by rw [asked]; rfl)).1
      (List.drop_eq_nil_iff.mp (reads.stands.buffered.symm.trans handed))
  have items : whole.given = (received replies whole.world.provider.length).map .item := by
    have before := reads.given (Nat.le_of_eq here)
    rw [here, List.take_length] at before
    exact before
  simp only [Reader.act, pulls]
  refine ⟨⟨fun _ => ⟨0, ?_⟩, fun none_left => ?_, calls⟩, fired, ?_, ?_, fun _ => ⟨rfl, rfl⟩⟩
  · simp [given, items, answeredBy]
  · simp only [answeredBy, grown] at none_left
    omega
  · simp only [answeredBy, grown]
    omega
  · simp only [answeredBy, grown]
    exact made

theorem CalledOff.ends {cut : Reader Item}
    (off : CalledOff replies completed called whole cut)
    (inside : completed < whole.world.provider.length) {after last : Reader Item}
    (grows : whole.world.provider <+: after.world.provider) (cursor : last.cursor = cut.cursor)
    (provider : last.world.provider = cut.world.provider) (fired : last.world.token.fired = true)
    (given : ∃ more, last.given = cut.given ++ List.replicate more .ended) :
    CalledOff replies completed called after last := by
  have longer := grows.length_le
  obtain ⟨ended, told⟩ := off.cutOff inside
  obtain ⟨more, given⟩ := given
  refine ⟨⟨fun _ => ⟨ended + more, ?_⟩, fun none_left => ?_, ?_⟩, fired,
    Nat.le_trans off.complete longer, Nat.le_trans off.made longer, fun _ => ?_⟩
  · rw [given, told, ← grows.getElem inside, List.append_assoc, List.cons_append,
      List.replicate_append_replicate]
  · omega
  · obtain ⟨later, grown⟩ := grows
    rw [provider, off.calls, ← grown, List.take_append_of_le_length off.made]
  · rw [cursor]
    exact off.closed inside

variable (reads : Reads replies options whole) (calm : ∀ i, (replies i).cancels = false)
include reads calm

theorem CalledOff.act {fetcher : Fetcher (List Request) Request (Page Item)} {cut : Reader Item}
    (off : CalledOff replies completed called whole cut) (act : Act) :
    CalledOff replies completed called (whole.act (Script.sequence replies) act)
      (cut.act fetcher act) := by
  have acted := reads.act_cases calm act
  generalize whole.act (Script.sequence replies) act = after at acted
  -- Either the other reader has gone on and this one was told that he cannot, or both are given the
  -- same up to here.
  rcases Nat.lt_or_eq_of_le off.complete with inside | here
  · have grows : whole.world.provider <+: after.world.provider := by
      cases acted with
      | rest | quiet => exact List.prefix_rfl
      | asked => exact List.prefix_append _ _
    obtain ⟨spent, handed⟩ := off.closed inside
    cases act with
    | rest length =>
        exact off.ends inside grows rfl rfl (Token.passed_fired off.fired _ _)
          ⟨0, by simp [Reader.act]⟩
    | pull =>
        rw [act_quiet fun fetcher world => pull_over fetcher world handed spent]
        exact off.ends inside grows rfl rfl off.fired ⟨1, rfl⟩
  · have same := off.kept (Nat.le_of_eq here.symm)
    have fired := off.fired
    have calls : called = completed := by
      have all := congrArg List.length off.calls
      have provider : cut.world.provider = whole.world.provider := by rw [same]; rfl
      have made := off.made
      rw [provider, List.length_take] at all
      omega
    subst calls
    cases acted with
    | rest length =>
        have rested := Token.passed_fired fired
        generalize cut.world.token = token at same rested
        subst same
        exact same_called_off rfl (rested _ _) here.symm
    | quiet quiet =>
        generalize cut.world.token = token at same fired
        subst same
        have pulled : (whole.withToken token).act fetcher .pull = _ := act_quiet quiet
        rw [pulled]
        exact same_called_off rfl fired here.symm
    | @asked request handed asked =>
        -- The whole reader is given the next page, and the other is told that he gets none.
        have cursor : cut.cursor = whole.cursor := by rw [same]; rfl
        have calls : cut.world.provider = whole.world.provider := by rw [same]; rfl
        have pulls := pull_fired fetcher cut.world (cursor ▸ handed) (cursor ▸ asked)
          (by rw [cursor, reads.heeds, fired]; rfl)
        rw [here]
        refine reads.called_off same handed asked pulls fired (Nat.le_succ _) ?_
        rw [List.take_left]
        exact calls

theorem CalledOff.acts {fetcher : Fetcher (List Request) Request (Page Item)} {cut : Reader Item}
    (off : CalledOff replies completed called whole cut) (acts : List Act) :
    CalledOff replies completed called (whole.acts (Script.sequence replies) acts)
      (cut.acts fetcher acts) := by
  induction acts generalizing whole cut with
  | nil => exact off
  | cons act later ih => exact ih (reads.act calm act) (off.act reads calm act)

end Cut

section Firing

variable (replies : Nat → Reply (Page Item)) {options : Options}

/-- A reader whose token is due at an instant, beside the reader as he would have been. -/
inductive Due (due : Instant) (whole cut : Reader Item) : Prop where
  | ahead (early : whole.world.now.nanos < due.nanos)
      (same : cut = whole.withToken { due := some due })
      (done : whole.doneBefore due = whole.world.provider.length)
      (begun : whole.begunBefore due = whole.world.provider.length) : Due due whole cut
  | past (late : due.nanos ≤ whole.world.now.nanos)
      (off : CalledOff replies (whole.doneBefore due) (whole.begunBefore due) whole cut) :
      Due due whole cut

/-- A reader whose n-th call fires the token, beside the reader whose calls do not. -/
inductive Fires (n : Nat) (whole cut : Reader Item) : Prop where
  | ahead (early : whole.world.provider.length ≤ n) (same : cut = whole) : Fires n whole cut
  | past (off : CalledOff replies n (n + 1) whole cut) : Fires n whole cut

variable {replies} {whole cut : Reader Item} {due : Instant}

theorem Due.rest (early : whole.world.now.nanos < due.nanos)
    (done : whole.doneBefore due = whole.world.provider.length)
    (begun : whole.begunBefore due = whole.world.provider.length) (length : Duration) :
    Due replies due (restedFor whole length)
      ((whole.withToken { due := some due }).act (Script.sequence replies) (.rest length)) := by
  have stillDone : (restedFor whole length).doneBefore due = whole.world.provider.length := done
  have stillBegun : (restedFor whole length).begunBefore due = whole.world.provider.length := begun
  by_cases soon : due.nanos ≤ (whole.world.now.after length).nanos
  · have token := Token.passed_due _ _ _ (Nat.le_of_lt early) soon
    refine .past soon ?_
    rw [stillDone, stillBegun]
    exact same_called_off rfl (congrArg Token.fired token) rfl
  · have spared := Nat.lt_of_not_le soon
    have token := (Token.due_spares spared).passed whole.world.now
    refine .ahead spared ?_ stillDone stillBegun
    simp only [Reader.act, Reader.withToken, World.passUntil, restedFor, token]

section Run

variable (reads : Reads replies options whole) (calm : ∀ i, (replies i).cancels = false)
include reads calm

theorem Due.asked (early : whole.world.now.nanos < due.nanos)
    (done : whole.doneBefore due = whole.world.provider.length)
    (begun : whole.begunBefore due = whole.world.provider.length) {request : Request}
    (handed : whole.cursor.buffered = []) (asked : whole.cursor.next = some request) :
    Due replies due (answeredBy whole request (replies whole.world.provider.length))
      ((whole.withToken { due := some due }).act (Script.sequence replies) .pull) := by
  let timed := whole.withToken { due := some due }
  by_cases soon : due.nanos ≤
      (whole.world.now.after (replies whole.world.provider.length).delay).nanos
  · -- The token goes first, even when it is due as the answer comes.
    have fetched := World.fetch_cut
      (timed.world.record (.fetchingPage request.pageNumber request.marker))
      (Script.sequence replies) request _ _ due rfl (calm _)
      (Token.fired_by_due _ _ _ (Nat.le_of_lt early) soon)
    have pulls := pull_cut (Script.sequence replies) timed.world handed asked
      (Bool.and_false _) _ (by rw [reads.heeds]; exact fetched)
    have off : CalledOff replies _ _ _ (timed.act (Script.sequence replies) .pull) :=
      reads.called_off rfl handed asked pulls rfl (Nat.le_refl _)
        (by rw [List.take_of_length_le (by simp)]; rfl)
    refine .past soon ?_
    rw [done_before_answered, begun_before_answered, if_neg (Nat.not_lt.mpr soon), if_pos early,
      done, begun]
    exact off
  · have spared := Nat.lt_of_not_le soon
    have pulled : timed.act (Script.sequence replies) .pull = _ :=
      act_answered (replies whole.world.provider.length) handed asked reads.heeds rfl (calm _)
        (Token.due_spares spared)
    rw [pulled]
    refine .ahead spared rfl ?_ ?_
    · rw [done_before_answered, if_pos spared, done]
      simp [answeredBy]
    · rw [begun_before_answered, if_pos early, begun]
      simp [answeredBy]

theorem Reads.counts_past (late : due.nanos ≤ whole.world.now.nanos) (act : Act) :
    let after := whole.act (Script.sequence replies) act
    after.doneBefore due = whole.doneBefore due ∧ after.begunBefore due = whole.begunBefore due ∧
      due.nanos ≤ after.world.now.nanos := by
  intro after
  have acted : Acts replies whole act after := reads.act_cases calm act
  generalize after = after at acted ⊢
  cases acted with
  | rest length => exact ⟨rfl, rfl, Nat.le_trans late (Nat.le_add_right ..)⟩
  | quiet => exact ⟨rfl, rfl, late⟩
  | asked =>
      have finished : due.nanos ≤
          (whole.world.now.after (replies whole.world.provider.length).delay).nanos :=
        Nat.le_trans late (Nat.le_add_right ..)
      rw [done_before_answered, begun_before_answered, if_neg (Nat.not_lt.mpr late),
        if_neg (Nat.not_lt.mpr finished)]
      exact ⟨rfl, rfl, finished⟩

theorem Due.act (waits : Due replies due whole cut) (act : Act) :
    Due replies due (whole.act (Script.sequence replies) act)
      (cut.act (Script.sequence replies) act) := by
  cases waits with
  | past late off =>
      obtain ⟨done, begun, later⟩ := reads.counts_past calm late act
      refine .past later ?_
      rw [done, begun]
      exact off.act reads calm act
  | ahead early same done begun =>
      subst same
      have acted := reads.act_cases calm act
      generalize whole.act (Script.sequence replies) act = after at acted
      cases acted with
      | rest length => exact Due.rest early done begun length
      | quiet quiet =>
          have pulled : (whole.withToken { due := some due }).act (Script.sequence replies) .pull =
            _ := act_quiet quiet
          rw [pulled]
          exact .ahead early rfl done begun
      | asked handed asked => exact Due.asked reads calm early done begun handed asked

theorem Due.acts (waits : Due replies due whole cut) (acts : List Act) :
    Due replies due (whole.acts (Script.sequence replies) acts)
      (cut.acts (Script.sequence replies) acts) := by
  induction acts generalizing whole cut with
  | nil => exact waits
  | cons act later ih => exact ih (reads.act calm act) (waits.act reads calm act)

variable {n : Nat} {reply : Reply (Page Item)} (cancels : reply.cancels = true)
include cancels

theorem Fires.asked (early : whole.world.provider.length ≤ n) {request : Request}
    (handed : whole.cursor.buffered = []) (asked : whole.cursor.next = some request) :
    Fires replies n (answeredBy whole request (replies whole.world.provider.length))
      (whole.act (Script.sequence fun i => if i = n then reply else replies i) .pull) := by
  have called : Script.sequence (fun i => if i = n then reply else replies i) request
      whole.world.provider =
        (if whole.world.provider.length = n then reply
          else replies whole.world.provider.length, whole.world.provider ++ [request]) := rfl
  -- Below call `n` both hear the same replies, and call `n` fires the token.
  rcases Nat.lt_or_eq_of_le early with before | here
  · rw [if_neg (Nat.ne_of_lt before)] at called
    rw [act_answered _ handed asked reads.heeds called (calm _)
      (reads.idle ▸ Token.idle_spares _)]
    refine .ahead ?_ rfl
    simp only [answeredBy, List.length_append]
    exact before
  · subst here
    rw [if_pos rfl] at called
    have fetched := World.fetch_fires
      (whole.world.record (.fetchingPage request.pageNumber request.marker))
      _ request reply _ called cancels
    have pulls := pull_cut _ whole.world handed asked
      (by rw [reads.idle]; exact Bool.and_false _) _
      (by rw [reads.heeds]; exact fetched)
    exact .past (reads.called_off rfl handed asked pulls rfl (Nat.le_refl _)
      (by rw [List.take_of_length_le (by simp)]; rfl))

theorem Fires.act (waits : Fires replies n whole cut) (act : Act) :
    Fires replies n (whole.act (Script.sequence replies) act)
      (cut.act (Script.sequence fun i => if i = n then reply else replies i) act) := by
  cases waits with
  | past off => exact .past (off.act reads calm act)
  | ahead early same =>
      subst same
      have acted := reads.act_cases calm act
      cases act with
      | rest length => exact .ahead early rfl
      | pull =>
          generalize cut.act (Script.sequence replies) .pull = after at acted
          cases acted with
          | quiet quiet =>
              rw [act_quiet quiet]
              exact .ahead early rfl
          | asked handed asked => exact Fires.asked reads calm cancels early handed asked

theorem Fires.acts (waits : Fires replies n whole cut) (acts : List Act) :
    Fires replies n (whole.acts (Script.sequence replies) acts)
      (cut.acts (Script.sequence fun i => if i = n then reply else replies i) acts) := by
  induction acts generalizing whole cut with
  | nil => exact waits
  | cons act later ih => exact ih (reads.act calm act) (waits.act reads calm cancels act)

end Run

theorem Due.cut_short (waits : Due replies due whole cut) :
    CutShort replies (whole.doneBefore due) (whole.begunBefore due) whole cut := by
  cases waits with
  | past _ off => exact off.toCutShort
  | ahead _ same done begun =>
      exact same_cut_short (by rw [same]; rfl) (Nat.le_of_eq done.symm) (Nat.le_of_eq begun.symm)

theorem Fires.cut_short {n : Nat} (waits : Fires replies n whole cut) :
    CutShort replies n (n + 1) whole cut := by
  cases waits with
  | past off => exact off.toCutShort
  | ahead early same =>
      exact same_cut_short (by rw [same]; rfl) early (Nat.le_succ_of_le early)

end Firing

/-- A token that fires after a time, by a call or between two acts of the reader cuts his listing
short behind the pages that are complete by then. -/
theorem cancellation_cuts_listing (replies : Nat → Reply (Page Item))
    (calm : ∀ i, (replies i).cancels = false) (options : Options) (world : World (List Request))
    (unasked : world.provider = []) (acts : List Act) :
    let reader (token : Token) : Reader Item :=
      { cursor := .start options, world := { world with token } }
    let whole := (reader {}).acts (Script.sequence replies) acts
    whole.spans.length = whole.world.provider.length ∧
    (∀ delay : Duration,
      let due := world.now.after delay
      CutShort replies (whole.doneBefore due) (whole.begunBefore due) whole
        ((reader (.firingAfter world.now delay)).acts (Script.sequence replies) acts)) ∧
    (∀ (n : Nat) (reply : Reply (Page Item)), reply.cancels = true →
      CutShort replies n (n + 1) whole
        ((reader {}).acts (Script.sequence fun i => if i = n then reply else replies i) acts)) ∧
    (∀ early late, acts = early ++ late →
      let reached := (reader {}).acts (Script.sequence replies) early
      let completed := reached.world.provider.length
      CutShort replies completed completed whole
        ((reached.withToken reached.world.token.fire).acts (Script.sequence replies) late)) := by
  intro reader whole
  have start : Reads replies options (reader {}) :=
    start_reads replies options { world with token := {} } unasked rfl
  have none_made : (reader {}).world.provider.length = 0 := by simp [reader, unasked]
  refine ⟨(start.acts calm acts).spanned, fun delay => ?_, fun n reply cancels => ?_,
    fun early late split => ?_⟩
  · intro due
    refine Due.cut_short (Due.acts start calm ?_ acts)
    -- A token that fires after no time at all has fired before the first pull.
    by_cases instantly : delay.nanos = 0
    · have token : Token.firingAfter world.now delay = { fired := true } := if_pos instantly
      rw [token]
      refine .past ?_ (same_called_off rfl rfl none_made)
      simp [due, Instant.after, instantly, reader]
    · have token : Token.firingAfter world.now delay = { due := some due } := if_neg instantly
      rw [token]
      refine .ahead ?_ rfl none_made.symm none_made.symm
      simp only [due, Instant.after, reader]
      omega
  · exact Fires.cut_short (Fires.acts start calm cancels (.ahead (by omega) rfl) acts)
  · intro reached completed
    have whole_split : whole = reached.acts (Script.sequence replies) late := by
      simp only [whole, split, Reader.acts, List.foldl_append]
      rfl
    have reads : Reads replies options reached := start.acts calm early
    rw [whole_split]
    exact ((same_called_off rfl rfl rfl).acts reads calm late).toCutShort

def slowPairs : Nat → Reply (Page Nat) := fun i =>
  { answer := .ok ⟨[2 * i, 2 * i + 1], 1, 2, none, none⟩, delay := .ofMillis 10 }

/-- The reader of `slowPairs` who pulls on, and rests before he does so again, is called off in the
second fetch. He has the two items of the first page by then. -/
theorem slow_pairs_cut_in_fetch :
    (∀ i, (slowPairs i).cancels = false) ∧
      let cut : Reader Nat :=
        { cursor := .start .initial
          world := { provider := [], token := .firingAfter .origin (.ofMillis 15) } }
      let done := cut.acts (Script.sequence slowPairs)
        [.pull, .rest (.ofMillis 2), .pull, .pull, .rest (.ofMillis 1), .pull]
      done.given = [.item 0, .item 1, .failed (.cancelled 2), .ended] ∧
        done.world.provider.length = 2 := by
  refine ⟨fun _ => rfl, ?_⟩
  intro cut done
  let whole : Reader Nat := Reader.acts (Script.sequence slowPairs)
    { cursor := .start .initial, world := { provider := [] } }
    [.pull, .rest (.ofMillis 2), .pull, .pull, .rest (.ofMillis 1), .pull]
  have cuts : CutShort slowPairs (whole.doneBefore ⟨15000000⟩) (whole.begunBefore ⟨15000000⟩)
      whole done :=
    (cancellation_cuts_listing slowPairs (fun _ => rfl) .initial { provider := [] } rfl
      [.pull, .rest (.ofMillis 2), .pull, .pull, .rest (.ofMillis 1), .pull]).2.1 (.ofMillis 15)
  have completed : whole.doneBefore ⟨15000000⟩ = 1 := by decide
  have called : whole.begunBefore ⟨15000000⟩ = 2 := by decide
  have requests : whole.world.provider = [⟨.initial, none⟩, ⟨⟨2, none, none⟩, none⟩] := by decide
  rw [completed, called] at cuts
  obtain ⟨more, given⟩ := cuts.cutOff (by rw [requests]; decide)
  have pulls : done.given.length = 4 := by decide
  have ended : more = 1 := by
    simp [given, received, itemsOf, slowPairs] at pulls
    omega
  subst ended
  refine ⟨?_, ?_⟩
  · simpa [requests, received, itemsOf, slowPairs, Request.pageNumber] using given
  · rw [cuts.calls, requests]
    rfl

end ResourceWatch.Listing
