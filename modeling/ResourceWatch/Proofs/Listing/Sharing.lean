import ResourceWatch.Proofs.Listing.Pull
import ResourceWatch.Script.Provider
import ResourceWatch.Script.Run

/-!
Traversals that share a collection in memory. What a collection answers is not changed by what it
was asked, so a traversal is given the same in the company of others as alone, pull by pull, and
asks the same. The requests of a collection are those of its traversals, one among the other.
-/

namespace ResourceWatch.Listing

variable {Item Provider : Type}

section Alone

variable (fetcher : Fetcher Provider Request (Page Item))

def Stop.shows : Stop → Nat → List (Pull Item)
  | .failed error, more + 1 => .failed error :: List.replicate more .ended
  | _, more => List.replicate more .ended

theorem alone_over {cursor : Cursor Item} (world : World Provider) (handed : cursor.buffered = [])
    (spent : cursor.next = none) (times : Nat) :
    Script.alone fetcher times cursor world = (List.replicate times .ended, cursor, world) := by
  induction times with
  | zero => rfl
  | succ times ih =>
      simp only [Script.alone, pull_over fetcher world handed spent, ih]
      rfl

theorem alone_pulls (times : Nat) (cursor : Cursor Item) (world : World Provider)
    (taken : Array Item) :
    ∃ items stop last after answers,
      Cursor.pulls fetcher times cursor world taken = (items, stop, last, after) ∧
      Script.alone fetcher times cursor world = (answers, last, after) ∧
      taken.toList.map .item ++ answers =
        items.toList.map .item ++ stop.shows (taken.size + times - items.size) := by
  -- What was taken before is counted into what pulling on shows, so that each pull can add to it.
  induction times generalizing cursor world taken with
  | zero =>
      refine ⟨taken, .paused, cursor, world, [], rfl, rfl, ?_⟩
      rw [Nat.add_zero, Nat.sub_self]
      rfl
  | succ times ih =>
      have does := pull_does fetcher cursor world
      cases pulled : cursor.pull fetcher world with
      | mk given result =>
          obtain ⟨rest, after⟩ := result
          rw [pulled] at does
          simp only [Cursor.pulls, Script.alone, pulled]
          have left : taken.size + (times + 1) - taken.size = times + 1 := by omega
          cases given with
          | item value =>
              obtain ⟨items, stop, last, later, answers, pulls, alone, shown⟩ :=
                ih rest after (taken.push value)
              refine ⟨items, stop, last, later, .item value :: answers, pulls, ?_, ?_⟩
              · simp only [alone]
              · have count : (taken.push value).size + times = taken.size + (times + 1) := by
                  simp only [Array.size_push]
                  omega
                rw [← count, ← shown]
                simp
          | ended =>
              obtain ⟨spent, handed⟩ := does.spent (by simp)
              refine ⟨taken, .ended, rest, after,
                .ended :: List.replicate times .ended, rfl, ?_, ?_⟩
              · rw [alone_over fetcher after handed spent times]
              · rw [left]
                rfl
          | failed error =>
              obtain ⟨spent, handed⟩ := does.spent (by simp)
              refine ⟨taken, .failed error, rest, after,
                .failed error :: List.replicate times .ended, rfl, ?_, ?_⟩
              · rw [alone_over fetcher after handed spent times]
              · rw [left]
                rfl

end Alone

section Asked

variable (collection other : Script.Collection Item)

theorem asked_inj {one two : List Request} (same : collection.asked one = collection.asked two) :
    one = two := by
  have lists := congrArg (fun asked => asked.requests.toList) same
  simpa [Script.Collection.asked] using lists

theorem asked_append (one two : List Request) :
    (collection.asked one).asked two = collection.asked (one ++ two) := by
  simp [Script.Collection.asked]

def AskedAlike (state otherState : Script.Collection Item) : Prop :=
  ∃ made, state = collection.asked made ∧ otherState = other.asked made

variable {collection other}

theorem collection_imitates
    (offer : ∀ request, collection.answer request = other.answer request) :
    Imitates (AskedAlike collection other) Script.Collection.fetcher Script.Collection.fetcher := by
  constructor
  · rintro request _ _ ⟨made, rfl, rfl⟩
    refine ⟨[], ?_⟩
    have same : (collection.asked made).answer request = (other.asked made).answer request :=
      offer request
    simp only [Script.Collection.fetcher, Script.Collection.serve, same]
  · rintro request _ _ ⟨made, rfl, rfl⟩
    refine ⟨made ++ [request], ?_, ?_⟩
    · simp [Script.Collection.fetcher, Script.Collection.serve, Script.Collection.asked]
    · simp [Script.Collection.fetcher, Script.Collection.serve, Script.Collection.asked]

theorem pull_alike (cursor : Cursor Item) (free : cursor.heedsToken = false)
    (world otherWorld : World (Script.Collection Item))
    (offer : ∀ request, world.provider.answer request = otherWorld.provider.answer request) :
    ∃ given rest made after otherAfter,
      cursor.pull Script.Collection.fetcher world = (given, rest, after) ∧
      cursor.pull Script.Collection.fetcher otherWorld = (given, rest, otherAfter) ∧
      rest.heedsToken = false ∧
      after.provider = world.provider.asked made ∧
      otherAfter.provider = otherWorld.provider.asked made := by
  have start : AskedAlike world.provider otherWorld.provider world.provider otherWorld.provider :=
    ⟨[], by simp [Script.Collection.asked], by simp [Script.Collection.asked]⟩
  obtain ⟨given, rest, after, otherAfter, pulled, otherPulled, heeds, later⟩ :=
    pull_imitated (collection_imitates offer) cursor (free ▸ World.Beside.heedless start)
  obtain ⟨made, asked, otherAsked⟩ := later.providers
  exact ⟨given, rest, made, after, otherAfter, pulled, otherPulled, heeds.trans free, asked,
    otherAsked⟩

theorem alone_asks (times : Nat) (cursor : Cursor Item) (free : cursor.heedsToken = false)
    (world : World (Script.Collection Item)) :
    ∃ made, (Script.alone Script.Collection.fetcher times cursor world).2.2.provider =
      world.provider.asked made := by
  induction times generalizing cursor world with
  | zero => exact ⟨[], by simp [Script.alone, Script.Collection.asked]⟩
  | succ times ih =>
      obtain ⟨given, rest, made, after, _, pulled, _, stillFree, asked, _⟩ :=
        pull_alike cursor free world world fun _ => rfl
      obtain ⟨more, later⟩ := ih rest stillFree after
      refine ⟨made ++ more, ?_⟩
      simp only [Script.alone, pulled]
      rw [later, asked, asked_append]

theorem fresh_asks_first (options : Options) (times : Nat)
    (world : World (Script.Collection Item)) :
    ∃ made, (Script.alone Script.Collection.fetcher (times + 1)
      (.start options false) world).2.2.provider =
        world.provider.asked (.first options :: made) := by
  have handed : (.start options false : Cursor Item).buffered = [] := rfl
  obtain ⟨kept, _, pulled⟩ := pull_answered Script.Collection.fetcher world handed rfl rfl
    fun heeds => nomatch heeds
  have rested := Cursor.turn_heeds (.start options false) (.first options)
    (world.provider.answer (.first options))
  obtain ⟨made, later⟩ := alone_asks times _ rested _
  refine ⟨made, ?_⟩
  simp only [Script.alone, pulled]
  refine later.trans ?_
  simp [Script.Collection.asked]

end Asked

section Shared

variable {Name : Type} [DecidableEq Name]

def sentBy (name : Name) (sent : List (Name × Request)) : List Request :=
  (sent.filter (·.1 = name)).map (·.2)

theorem sent_by_self (name : Name) (made : List Request) (sent : List (Name × Request)) :
    sentBy name (made.map (name, ·) ++ sent) = made ++ sentBy name sent := by
  simp [sentBy, List.filter_map, Function.comp_def]

theorem sent_by_other {name other : Name} (apart : other ≠ name) (made : List Request)
    (sent : List (Name × Request)) :
    sentBy name (made.map (other, ·) ++ sent) = sentBy name sent := by
  simp [sentBy, List.filter_map, Function.comp_def, apart]

variable (sharing : Script.Sharing Name Item (Script.Collection Item))

theorem turn_pulls {name : Name} {given : Pull Item} {rest : Cursor Item}
    {after : World (Script.Collection Item)}
    (pulled : (sharing.cursors name).pull Script.Collection.fetcher sharing.world =
      (given, rest, after)) :
    let turned := sharing.turn Script.Collection.fetcher name
    turned.world = after ∧ turned.cursors name = rest ∧
      turned.givenTo name = sharing.givenTo name ++ [given] ∧
      ∀ other, other ≠ name → turned.cursors other = sharing.cursors other ∧
        turned.givenTo other = sharing.givenTo other := by
  simp only [Script.Sharing.turn, pulled, Script.Sharing.givenTo]
  refine ⟨trivial, by simp, by simp, ?_⟩
  intro other apart
  exact ⟨if_neg apart, by simp [apart.symm]⟩

/-- A turn asks some requests more, and gives the traversal whose turn it is what one pull gives it
alone, over any collection that answers the same. -/
structure TurnsAlone (sharing turned : Script.Sharing Name Item (Script.Collection Item))
    (name : Name) (made : List Request) : Prop where
  asked : turned.world.provider = sharing.world.provider.asked made
  free : ∀ other, (turned.cursors other).heedsToken = false
  others : ∀ other, other ≠ name → turned.cursors other = sharing.cursors other ∧
    turned.givenTo other = sharing.givenTo other
  pulls : ∀ world : World (Script.Collection Item),
    (∀ request, sharing.world.provider.answer request = world.provider.answer request) →
    ∃ given after,
      (sharing.cursors name).pull Script.Collection.fetcher world =
        (given, turned.cursors name, after) ∧
      turned.givenTo name = sharing.givenTo name ++ [given] ∧
      after.provider = world.provider.asked made

theorem turn_alone (name : Name) (free : ∀ name, (sharing.cursors name).heedsToken = false) :
    ∃ made, TurnsAlone sharing (sharing.turn Script.Collection.fetcher name) name made := by
  obtain ⟨given, rest, made, after, _, pulled, _, stillFree, asked, _⟩ :=
    pull_alike (sharing.cursors name) (free name) sharing.world sharing.world fun _ => rfl
  obtain ⟨rfl, rfl, givenTo, others⟩ := turn_pulls sharing pulled
  refine ⟨made, asked, ?_, others, ?_⟩
  · intro other
    by_cases same : other = name
    · rw [same]
      exact stillFree
    · rw [(others other same).1]
      exact free other
  · intro world offer
    obtain ⟨given', rest', made', after', alike, pulled', alone, _, asked', aloneAsked⟩ :=
      pull_alike (sharing.cursors name) (free name) sharing.world world offer
    rw [pulled] at pulled'
    cases pulled'
    -- The pull is one, so what it asked here is what it asked among the others.
    obtain rfl := asked_inj sharing.world.provider (asked.symm.trans asked')
    exact ⟨given, alike, alone, givenTo, aloneAsked⟩

/-- Turns that came and turns to come: what the first one asked answers nothing differently. -/
theorem TurnsAlone.still_offers {sharing turned : Script.Sharing Name Item (Script.Collection Item)}
    {name : Name} {made : List Request} (turn : TurnsAlone sharing turned name made)
    {world : World (Script.Collection Item)}
    (offer : ∀ request, sharing.world.provider.answer request = world.provider.answer request)
    (request : Request) :
    turned.world.provider.answer request = world.provider.answer request := by
  rw [turn.asked]
  exact offer request

theorem turns_alone (names : List Name)
    (free : ∀ name, (sharing.cursors name).heedsToken = false) :
    ∃ sent : List (Name × Request),
      (sharing.turns Script.Collection.fetcher names).world.provider =
        sharing.world.provider.asked (sent.map (·.2)) ∧
      ∀ name (world : World (Script.Collection Item)),
        (∀ request, sharing.world.provider.answer request = world.provider.answer request) →
        ∃ answers last after,
          Script.alone Script.Collection.fetcher (names.count name) (sharing.cursors name) world =
            (answers, last, after) ∧
          (sharing.turns Script.Collection.fetcher names).givenTo name =
            sharing.givenTo name ++ answers ∧
          after.provider = world.provider.asked (sentBy name sent) := by
  -- Along the turns, for all worlds that answer the same: a traversal alone is in another world
  -- after each of its pulls, and in the same one during the turns of others.
  induction names generalizing sharing with
  | nil =>
      refine ⟨[], ?_, ?_⟩
      · simp [Script.Sharing.turns, Script.Collection.asked]
      · intro name world _
        refine ⟨[], _, _, rfl, ?_, ?_⟩
        · simp [Script.Sharing.turns]
        · simp [Script.Collection.asked, sentBy]
  | cons first later ih =>
      have both : sharing.turns Script.Collection.fetcher (first :: later) =
          (sharing.turn Script.Collection.fetcher first).turns Script.Collection.fetcher later :=
        rfl
      rw [both]
      obtain ⟨made, turn⟩ := turn_alone sharing first free
      obtain ⟨sent, requests, alone⟩ :=
        ih (sharing.turn Script.Collection.fetcher first) turn.free
      refine ⟨made.map (first, ·) ++ sent, ?_, ?_⟩
      · rw [requests, turn.asked, asked_append]
        simp [Function.comp_def]
      · intro name world offer
        by_cases same : name = first
        · subst same
          obtain ⟨given, between, pulled, givenTo, asked⟩ := turn.pulls world offer
          have offers (request : Request) :
              (sharing.turn Script.Collection.fetcher name).world.provider.answer request =
                between.provider.answer request := by
            rw [turn.still_offers offer request, asked]
            rfl
          obtain ⟨answers, last, after, ran, told, left⟩ := alone name between offers
          refine ⟨given :: answers, last, after, ?_, ?_, ?_⟩
          · rw [List.count_cons_self]
            simp only [Script.alone, pulled, ran]
          · rw [told, givenTo, List.append_assoc]
            rfl
          · rw [left, asked, asked_append, sent_by_self]
        · obtain ⟨cursor, givenTo⟩ := turn.others name same
          obtain ⟨answers, last, after, ran, told, left⟩ :=
            alone name world (turn.still_offers offer)
          refine ⟨answers, last, after, ?_, ?_, ?_⟩
          · rw [List.count_cons_of_ne (Ne.symm same), ← cursor]
            exact ran
          · rw [told, givenTo]
          · rw [left, sent_by_other (Ne.symm same)]

/-- However traversals of a collection take turns, each is given the items and the failure it is
given alone, and asks what it asks alone, beginning with its own first page. The collection is asked
what they ask, and nothing else. -/
theorem sharing_disturbs_nobody (options : Name → Options)
    (world : World (Script.Collection Item)) (names : List Name) :
    let shared := (Script.Sharing.opened options world).turns Script.Collection.fetcher names
    ∃ sent : List (Name × Request),
      shared.world.provider = world.provider.asked (sent.map (·.2)) ∧
      ∀ name, ∃ items stop last after,
        Cursor.pulls Script.Collection.fetcher (names.count name) (.start (options name) false)
          world #[] = (items, stop, last, after) ∧
        shared.givenTo name =
          items.toList.map .item ++ stop.shows (names.count name - items.size) ∧
        after.provider = world.provider.asked (sentBy name sent) ∧
        (name ∈ names → (sentBy name sent).head? = some (.first (options name))) := by
  intro shared
  obtain ⟨sent, requests, alone⟩ :=
    turns_alone (Script.Sharing.opened options world) names fun _ => rfl
  refine ⟨sent, requests, ?_⟩
  intro name
  obtain ⟨answers, last, after, ran, told, asked⟩ := alone name world fun _ => rfl
  obtain ⟨items, stop, last', after', answers', pulls, ran', shown⟩ :=
    alone_pulls Script.Collection.fetcher (names.count name) (.start (options name) false) world #[]
  cases ran.symm.trans ran'
  refine ⟨items, stop, last, after, pulls, ?_, asked, ?_⟩
  · rw [told]
    simpa [Script.Sharing.givenTo, Script.Sharing.opened] using shown
  · intro turned
    obtain ⟨times, count⟩ :=
      Nat.exists_eq_succ_of_ne_zero (Nat.ne_of_gt (List.count_pos_iff.mpr turned))
    obtain ⟨made, first⟩ := fresh_asks_first (options name) times world
    rw [count] at ran'
    simp only [ran', asked] at first
    rw [asked_inj world.provider first]
    rfl

end Shared

end ResourceWatch.Listing
