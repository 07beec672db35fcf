import ResourceWatch.Script.Run

/-!
What a script replays. The answers taken from it are those pushed to it, from the first on and each
once, whoever holds its handles and whatever is done with other scripts in between. A fetch that finds
nothing to take has a spare answer and leaves what is pushed later to later fetches.
-/

namespace ResourceWatch.Script

variable {Name Handle Request Answer : Type}

def States.spare (last : Option (Except FetchError Snapshot)) : Except FetchError Snapshot :=
  last.getD (.error (.transport "no scripted state response left"))

def Pages.spare {Item : Type} (_last : Option (Except FetchError (Listing.Page Item))) :
    Except FetchError (Listing.Page Item) :=
  .error (.transport "no scripted page response left")

section History

variable (uses : List (Use Handle Request Answer)) (served : List (Served Handle Request Answer))

def pushedIn : List (Except FetchError Answer) := uses.filterMap Use.pushed?

def askedIn : List Request := uses.filterMap Use.asked?

def takenOf : List (Except FetchError Answer) := (served.filter (·.taken)).map (·.answer)

variable (handle : Handle) (answer : Except FetchError Answer) (request : Request)

theorem pushed_in_push : pushedIn (uses ++ [.push handle answer]) = pushedIn uses ++ [answer] :=
  List.filterMap_append

theorem pushed_in_fetch : pushedIn (uses ++ [.fetch handle request]) = pushedIn uses :=
  List.filterMap_append.trans (List.append_nil _)

theorem asked_in_push : askedIn (uses ++ [.push handle answer]) = askedIn uses :=
  List.filterMap_append.trans (List.append_nil _)

theorem asked_in_fetch : askedIn (uses ++ [.fetch handle request]) = askedIn uses ++ [request] :=
  List.filterMap_append

theorem taken_of_taken :
    takenOf (served ++ [⟨handle, request, answer, true⟩]) = takenOf served ++ [answer] := by
  simp [takenOf]

theorem taken_of_spared :
    takenOf (served ++ [⟨handle, request, answer, false⟩]) = takenOf served := by
  simp [takenOf]

end History

section Replay

variable (spare : Option (Except FetchError Answer) → Except FetchError Answer)

/-- What a fetch gives, of the answers pushed and taken before it: the first that was not taken yet
or, when all were, the spare one for the last that was. -/
def Served.next (handle : Handle) (request : Request)
    (pushed taken : List (Except FetchError Answer)) : Served Handle Request Answer :=
  match pushed[taken.length]? with
  | some answer => ⟨handle, request, answer, true⟩
  | none => ⟨handle, request, spare taken.getLast?, false⟩

/-- The uses of a script, what it served, and the queue they leave. What was taken and what waits is
what was pushed. Each fetch gives the next answer of the pushes before it, and its request is kept. -/
structure Replays (uses : List (Use Handle Request Answer))
    (served : List (Served Handle Request Answer)) (queue : Queue Request Answer) : Prop where
  pushed : takenOf served ++ queue.waiting = pushedIn uses
  asked : queue.requests.toList = askedIn uses
  answered : served.map (·.request) = askedIn uses
  each : ∀ before handle request after, uses = before ++ .fetch handle request :: after →
    ∃ earlier later, earlier.length = (askedIn before).length ∧
      served = earlier ++
        Served.next spare handle request (pushedIn before) (takenOf earlier) :: later

/-- What the queue has for its last answer serves as the last one taken. -/
structure Kept (uses : List (Use Handle Request Answer))
    (served : List (Served Handle Request Answer)) (queue : Queue Request Answer) : Prop
    extends Replays spare uses served queue where
  last : spare queue.last = spare (takenOf served).getLast?

structure Serves (serve : Request → Queue Request Answer →
    Except FetchError Answer × Queue Request Answer) : Prop where
  takes : ∀ request answer waiting last requests,
    ∃ sticky, spare sticky = spare (some answer) ∧
      serve request ⟨answer :: waiting, last, requests⟩ =
        (answer, ⟨waiting, sticky, requests.push request⟩)
  spares : ∀ request last requests,
    serve request ⟨[], last, requests⟩ = (spare last, ⟨[], last, requests.push request⟩)

theorem states_serve : Serves States.spare States.serve where
  takes _ answer _ _ _ := ⟨some answer, rfl, rfl⟩
  spares _ _ _ := rfl

theorem pages_serve {Item : Type} : Serves Pages.spare (@Pages.serve Item) where
  takes _ _ _ last _ := ⟨last, rfl, rfl⟩
  spares _ _ _ := rfl

variable {spare}

theorem next_waiting {taken waiting pushed : List (Except FetchError Answer)}
    {answer : Except FetchError Answer} (all : taken ++ answer :: waiting = pushed)
    (handle : Handle) (request : Request) :
    Served.next spare handle request pushed taken = ⟨handle, request, answer, true⟩ := by
  have first : pushed[taken.length]? = some answer := by
    rw [← all, List.getElem?_append_right (Nat.le_refl _), Nat.sub_self]
    rfl
  simp only [Served.next, first]

theorem next_drained {taken pushed : List (Except FetchError Answer)} (all : taken ++ [] = pushed)
    (handle : Handle) (request : Request) :
    Served.next spare handle request pushed taken =
      ⟨handle, request, spare taken.getLast?, false⟩ := by
  have none : pushed[taken.length]? = none := by
    rw [← all, List.append_nil]
    exact List.getElem?_eq_none (Nat.le_refl _)
  simp only [Served.next, none]

theorem last_or_before {Event : Type} {events before after : List Event} {event last : Event}
    (whole : events ++ [last] = before ++ event :: after) :
    (before = events ∧ event = last ∧ after = []) ∨
      ∃ sooner, after = sooner ++ [last] ∧ events = before ++ event :: sooner := by
  rcases List.eq_nil_or_concat after with rfl | ⟨sooner, final, rfl⟩
  · obtain ⟨rfl, same⟩ := List.append_inj' whole rfl
    cases same
    exact .inl ⟨rfl, rfl, rfl⟩
  · rw [List.concat_eq_append, ← List.cons_append, ← List.append_assoc] at whole
    obtain ⟨rfl, same⟩ := List.append_inj' whole rfl
    cases same
    exact .inr ⟨sooner, List.concat_eq_append, rfl⟩

variable {uses : List (Use Handle Request Answer)} {served : List (Served Handle Request Answer)}
variable {queue : Queue Request Answer}
variable {serve : Request → Queue Request Answer → Except FetchError Answer × Queue Request Answer}

theorem kept_unused : Kept spare ([] : List (Use Handle Request Answer)) [] {} where
  pushed := rfl
  asked := rfl
  answered := rfl
  each before _ _ _ none := by cases before <;> cases none
  last := rfl

theorem Kept.push (kept : Kept spare uses served queue) (handle : Handle)
    (answer : Except FetchError Answer) :
    Kept spare (uses ++ [.push handle answer]) served (queue.push answer) where
  pushed := by
    rw [pushed_in_push, ← kept.pushed, List.append_assoc]
    rfl
  asked := (asked_in_push ..).symm ▸ kept.asked
  answered := (asked_in_push ..).symm ▸ kept.answered
  each before other request after whole := by
    obtain ⟨_, different, _⟩ | ⟨sooner, _, earlier⟩ := last_or_before whole
    · cases different
    · exact kept.each before other request sooner earlier
  last := kept.last

theorem Replays.asked_with (replays : Replays spare uses served queue) (handle : Handle)
    (request : Request) :
    (queue.requests.push request).toList = askedIn (uses ++ [.fetch handle request]) := by
  rw [asked_in_fetch, ← replays.asked, Array.toList_push]

theorem Replays.answered_with (replays : Replays spare uses served queue)
    (last : Served Handle Request Answer) :
    (served ++ [last]).map (·.request) = askedIn (uses ++ [.fetch last.handle last.request]) := by
  rw [asked_in_fetch, ← replays.answered, List.map_append]
  rfl

theorem Replays.each_with_next (replays : Replays spare uses served queue) (handle : Handle)
    (request : Request) {before after : List (Use Handle Request Answer)} {other : Handle}
    {asked : Request}
    (whole : uses ++ [.fetch handle request] = before ++ .fetch other asked :: after) :
    let next := Served.next spare handle request (pushedIn uses) (takenOf served)
    ∃ earlier later, earlier.length = (askedIn before).length ∧
      served ++ [next] = earlier ++
        Served.next spare other asked (pushedIn before) (takenOf earlier) :: later := by
  intro next
  obtain ⟨rfl, same, _⟩ | ⟨sooner, _, earlier⟩ := last_or_before whole
  · cases same
    have count : served.length = (askedIn before).length := by
      rw [← replays.answered, List.length_map]
    exact ⟨served, [], count, rfl⟩
  · obtain ⟨first, rest, count, gave⟩ := replays.each before other asked sooner earlier
    refine ⟨first, rest ++ [next], count, ?_⟩
    rw [gave, List.append_assoc]
    rfl

theorem Kept.take {answer : Except FetchError Answer}
    {waiting : List (Except FetchError Answer)} {last sticky : Option (Except FetchError Answer)}
    {requests : Array Request} (kept : Kept spare uses served ⟨answer :: waiting, last, requests⟩)
    (sticks : spare sticky = spare (some answer)) (handle : Handle) (request : Request) :
    Kept spare (uses ++ [.fetch handle request]) (served ++ [⟨handle, request, answer, true⟩])
      ⟨waiting, sticky, requests.push request⟩ where
  pushed := by
    rw [pushed_in_fetch, taken_of_taken, ← kept.pushed, List.append_assoc]
    rfl
  asked := kept.asked_with handle request
  answered := kept.answered_with _
  each _ _ _ _ whole := by
    rw [← next_waiting kept.pushed handle request]
    exact kept.each_with_next handle request whole
  last := by
    rw [taken_of_taken, List.getLast?_concat]
    exact sticks

theorem Kept.spared {last : Option (Except FetchError Answer)} {requests : Array Request}
    (kept : Kept spare uses served ⟨[], last, requests⟩) (handle : Handle) (request : Request) :
    Kept spare (uses ++ [.fetch handle request]) (served ++ [⟨handle, request, spare last, false⟩])
      ⟨[], last, requests.push request⟩ where
  pushed := by
    rw [pushed_in_fetch, taken_of_spared]
    exact kept.pushed
  asked := kept.asked_with handle request
  answered := kept.answered_with _
  each _ _ _ _ whole := by
    rw [kept.last, ← next_drained kept.pushed handle request]
    exact kept.each_with_next handle request whole
  last := by
    rw [taken_of_spared]
    exact kept.last

theorem Kept.fetch (kept : Kept spare uses served queue) (serves : Serves spare serve)
    (handle : Handle) (request : Request) :
    Kept spare (uses ++ [.fetch handle request])
      (served ++ [⟨handle, request, (serve request queue).1, !queue.waiting.isEmpty⟩])
      (serve request queue).2 := by
  obtain ⟨waiting, last, requests⟩ := queue
  cases waiting with
  | nil =>
      rw [serves.spares]
      exact kept.spared handle request
  | cons answer waiting =>
      obtain ⟨_, sticks, gives⟩ := serves.takes request answer waiting last requests
      rw [gives]
      exact kept.take sticks handle request

section Held

variable [DecidableEq Name] (script : Handle → Name) (name : Name)

def usesOf (uses : List (Use Handle Request Answer)) : List (Use Handle Request Answer) :=
  uses.filter fun use => script use.handle = name

def servedTo (served : List (Served Handle Request Answer)) :
    List (Served Handle Request Answer) :=
  served.filter fun served => script served.handle = name

variable (spare) (uses : List (Use Handle Request Answer)) (held : Held Name Handle Request Answer)

def AllKept : Prop :=
  ∀ name, Kept spare (usesOf script name uses) (servedTo script name held.served)
    (held.scripts name)

variable {spare script uses held}

theorem AllKept.push (kept : AllKept spare script uses held) (handle : Handle)
    (answer : Except FetchError Answer) :
    AllKept spare script (uses ++ [.push handle answer])
      (held.use serve script (.push handle answer)) := by
  intro name
  by_cases own : script handle = name
  · subst own
    have pushed := (kept (script handle)).push handle answer
    simpa [usesOf, Use.handle, Held.use, Held.set] using pushed
  · have unchanged := kept name
    simpa [usesOf, Use.handle, Held.use, Held.set, own, Ne.symm own] using unchanged

theorem AllKept.fetch (kept : AllKept spare script uses held) (serves : Serves spare serve)
    (handle : Handle) (request : Request) :
    AllKept spare script (uses ++ [.fetch handle request])
      (held.use serve script (.fetch handle request)) := by
  intro name
  by_cases own : script handle = name
  · subst own
    have fetched := (kept (script handle)).fetch serves handle request
    simpa [usesOf, servedTo, Use.handle, Held.use, Held.set] using fetched
  · have unchanged := kept name
    simpa [usesOf, servedTo, Use.handle, Held.use, Held.set, own, Ne.symm own] using unchanged

theorem AllKept.use (kept : AllKept spare script uses held) (serves : Serves spare serve)
    (use : Use Handle Request Answer) :
    AllKept spare script (uses ++ [use]) (held.use serve script use) := by
  cases use with
  | push handle answer => exact kept.push handle answer
  | fetch handle request => exact kept.fetch serves handle request

theorem uses_keep (serves : Serves spare serve) (later : List (Use Handle Request Answer))
    (kept : AllKept spare script uses held) :
    AllKept spare script (uses ++ later) (held.uses serve script later) := by
  induction later generalizing uses held with
  | nil => simpa [Held.uses] using kept
  | cons use later ih =>
      have after := ih (kept.use serves use)
      rwa [List.append_assoc] at after

theorem unused_kept :
    AllKept spare script ([] : List (Use Handle Request Answer)) ({} : Held Name _ _ _) :=
  fun _ => kept_unused

end Held

end Replay

/-- However a script is used through its handles, among others or alone, it replays what was pushed
to it: what is taken from it is what was pushed, in that order and each once. When all was taken, a
script of states gives its last answer again, and one of pages none. Its requests are those of its
fetches. -/
theorem scripts_replay_pushes [DecidableEq Name] (script : Handle → Name) (name : Name) :
    (∀ uses : List (Use Handle String Snapshot),
      let held := ({} : Held Name Handle String Snapshot).uses States.serve script uses
      Replays States.spare (usesOf script name uses) (servedTo script name held.served)
        (held.scripts name)) ∧
    ∀ (Item : Type) (uses : List (Use Handle Listing.Request (Listing.Page Item))),
      let held := ({} : Held Name Handle Listing.Request (Listing.Page Item)).uses Pages.serve
        script uses
      Replays Pages.spare (usesOf script name uses) (servedTo script name held.served)
        (held.scripts name) :=
  ⟨fun uses => (uses_keep states_serve uses unused_kept name).toReplays,
    fun _ uses => (uses_keep pages_serve uses unused_kept name).toReplays⟩

example : (({} : Held Nat Nat String Snapshot).uses States.serve (· % 2)
    [.push 0 (.error (.transport "lost")), .fetch 2 "vm", .fetch 1 "vm", .fetch 4 "disk",
      .push 2 (.ok (.bare "vm" .normal)), .fetch 0 "vm", .fetch 2 "vm"]).served =
    [⟨2, "vm", .error (.transport "lost"), true⟩,
      ⟨1, "vm", .error (.transport "no scripted state response left"), false⟩,
      ⟨4, "disk", .error (.transport "lost"), false⟩,
      ⟨0, "vm", .ok (.bare "vm" .normal), true⟩,
      ⟨2, "vm", .ok (.bare "vm" .normal), false⟩] :=
  rfl

end ResourceWatch.Script
