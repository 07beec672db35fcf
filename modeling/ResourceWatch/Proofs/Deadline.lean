import ResourceWatch.Wait.Poll

/-!
The views of a deadline. However its clock has run on, the time used, the time left, whether any is
left, and the instant of expiry tell the same, and all of them fit into the words that lengths are
kept in. In two words, seconds and nanoseconds, lengths are compared and taken from each other with
a borrow, and that comes to what it does for whole nanoseconds.
-/

namespace ResourceWatch

namespace Duration

/-- A length as it is kept: seconds of 64 bits, and the nanoseconds beyond them. -/
structure Words where
  secs : UInt64
  nanos : UInt32
  below : nanos.toNat < nanosPerSecond

namespace Words

def length (words : Words) : Duration := .ofParts words.secs.toNat words.nanos.toNat

theorem length_nanos (words : Words) :
    words.length.nanos = words.secs.toNat * nanosPerSecond + words.nanos.toNat := rfl

theorem length_iff (length : Duration) :
    (∃ words : Words, words.length = length) ↔ length.nanos ≤ longest.nanos := by
  constructor
  · rintro ⟨words, rfl⟩
    have secs := words.secs.toNat_lt
    have below := words.below
    simp only [length_nanos, longest, largestWord, ofParts, nanosPerSecond] at below ⊢
    omega
  · intro within
    have secs : length.secs < 2 ^ 64 := by
      simp only [Duration.secs, longest, largestWord, ofParts, nanosPerSecond] at within ⊢
      omega
    have below : length.subsecNanos < nanosPerSecond := Nat.mod_lt _ (by decide)
    have nanos : length.subsecNanos < 2 ^ 32 := Nat.lt_trans below (by decide)
    have same : (UInt32.ofNat length.subsecNanos).toNat = length.subsecNanos :=
      UInt32.toNat_ofNat_of_lt' nanos
    refine ⟨⟨.ofNat length.secs, .ofNat length.subsecNanos, by rw [same]; exact below⟩, ?_⟩
    have whole : length.secs * nanosPerSecond + length.subsecNanos = length.nanos :=
      Nat.div_add_mod' length.nanos nanosPerSecond
    simp only [Words.length, ofParts, same, UInt64.toNat_ofNat_of_lt' secs, whole]

def atMost (left right : Words) : Bool :=
  left.secs < right.secs || left.secs = right.secs && left.nanos ≤ right.nanos

theorem at_most_iff (left right : Words) :
    left.atMost right = true ↔ left.length.nanos ≤ right.length.nanos := by
  have leftBelow := left.below
  have rightBelow := right.below
  simp only [atMost, Bool.or_eq_true, Bool.and_eq_true, decide_eq_true_eq, length_nanos,
    UInt64.lt_iff_toNat_lt, ← UInt64.toNat_inj, UInt32.le_iff_toNat_le, nanosPerSecond]
    at leftBelow rightBelow ⊢
  omega

def zero : Words := ⟨0, 0, by decide⟩

theorem length_zero : zero.length = .zero := rfl

theorem borrowed_nanos (left right : Words) :
    (left.nanos + 1000000000 - right.nanos).toNat =
      left.nanos.toNat + nanosPerSecond - right.nanos.toNat := by
  have leftBelow := left.below
  have rightBelow := right.below
  simp only [nanosPerSecond] at leftBelow rightBelow ⊢
  have second : (1000000000 : UInt32).toNat = 1000000000 := rfl
  have more : (left.nanos + 1000000000).toNat = left.nanos.toNat + 1000000000 := by
    rw [UInt32.toNat_add, second]
    omega
  have enough : right.nanos ≤ left.nanos + 1000000000 := by
    rw [UInt32.le_iff_toNat_le, more]
    omega
  rw [UInt32.toNat_sub_of_le _ _ enough, more]

def minus (left right : Words) : Words :=
  if left.secs < right.secs then zero
  else if enough : right.nanos ≤ left.nanos then
    ⟨left.secs - right.secs, left.nanos - right.nanos, by
      rw [UInt32.toNat_sub_of_le _ _ enough]
      exact Nat.lt_of_le_of_lt (Nat.sub_le ..) left.below⟩
  else if left.secs = right.secs then zero
  else
    ⟨left.secs - right.secs - 1, left.nanos + 1000000000 - right.nanos, by
      have less := Nat.lt_of_not_le fun order => enough (UInt32.le_iff_toNat_le.mpr order)
      rw [borrowed_nanos]
      simp only [nanosPerSecond]
      omega⟩

theorem length_minus (left right : Words) :
    (left.minus right).length = left.length.minus right.length := by
  have leftBelow := left.below
  have rightBelow := right.below
  simp only [nanosPerSecond] at leftBelow rightBelow
  -- The nanoseconds decide about equal seconds, and whether a second is borrowed of the others.
  by_cases longer : left.secs < right.secs
  · rw [minus, if_pos longer, length_zero]
    rw [UInt64.lt_iff_toNat_lt] at longer
    simp only [length, Duration.zero, ofParts, Duration.minus, nanosPerSecond, Duration.mk.injEq]
    omega
  have inside : right.secs ≤ left.secs := UInt64.not_lt.mp longer
  have secs := UInt64.toNat_sub_of_le _ _ inside
  have order := UInt64.le_iff_toNat_le.mp inside
  by_cases enough : right.nanos ≤ left.nanos
  · rw [minus, if_neg longer, dif_pos enough]
    have nanos := UInt32.toNat_sub_of_le _ _ enough
    rw [UInt32.le_iff_toNat_le] at enough
    simp only [length, ofParts, Duration.minus, secs, nanos, nanosPerSecond, Duration.mk.injEq]
    omega
  have less := Nat.lt_of_not_le fun order => enough (UInt32.le_iff_toNat_le.mpr order)
  by_cases same : left.secs = right.secs
  · rw [minus, if_neg longer, dif_neg enough, if_pos same, length_zero]
    simp only [length, Duration.zero, ofParts, Duration.minus, same, nanosPerSecond,
      Duration.mk.injEq]
    omega
  · rw [minus, if_neg longer, dif_neg enough, if_neg same]
    rw [← UInt64.toNat_inj] at same
    have one : (1 : UInt64).toNat = 1 := rfl
    have borrow : (1 : UInt64) ≤ left.secs - right.secs := by
      rw [UInt64.le_iff_toNat_le, secs, one]
      omega
    simp only [length, ofParts, Duration.minus, UInt64.toNat_sub_of_le _ _ borrow, secs, one,
      borrowed_nanos, nanosPerSecond, Duration.mk.injEq]
    omega

end Words

def total : List Duration → Duration
  | [] => .zero
  | first :: later => ⟨first.nanos + (total later).nanos⟩

end Duration

namespace Instant

/-- Where a clock is after it has advanced by one length after another, if it can hold all the
instants on the way. -/
def advanced? (start : Instant) (advances : List Duration) : Option Instant :=
  advances.foldlM after? start

theorem after_held {start now : Instant} {length : Duration}
    (moved : start.after? length = some now) : now = start.after length ∧ now.Representable := by
  simp only [after?] at moved
  split at moved
  · rename_i held
    cases moved
    exact ⟨rfl, held⟩
  · cases moved

theorem advanced_total {start now : Instant} {advances : List Duration}
    (held : start.Representable) (advanced : start.advanced? advances = some now) :
    now = start.after (.total advances) ∧ now.Representable := by
  induction advances generalizing start with
  | nil =>
      cases advanced
      exact ⟨rfl, held⟩
  | cons length later ih =>
      obtain ⟨next, moved, rest⟩ := Option.bind_eq_some_iff.mp advanced
      obtain ⟨same, kept⟩ := after_held moved
      obtain ⟨there, reached⟩ := ih kept rest
      constructor
      · rw [there, same]
        simp only [after, Duration.total, Nat.add_assoc]
      · exact reached

theorem since_le_longest {now : Instant} (held : now.Representable) (start : Instant) :
    (now.since start).nanos ≤ Duration.longest.nanos := by
  have room : horizonSecs * Duration.nanosPerSecond ≤ Duration.longest.nanos := by decide
  have reached : (now.since start).nanos ≤ now.nanos := Nat.sub_le ..
  exact Nat.le_trans reached (Nat.le_trans (Nat.le_of_lt held) room)

end Instant

namespace Deadline

variable (deadline : Deadline) {now later : Instant}

theorem expired_iff_used (now : Instant) :
    deadline.isExpired now = true ↔ deadline.budget.nanos ≤ (deadline.elapsed now).nanos :=
  decide_eq_true_iff

theorem remaining_clamped (now : Instant) :
    (deadline.remaining now).nanos =
      ((deadline.budget.nanos : Int) - (deadline.elapsed now).nanos).toNat := by
  simp only [remaining, Duration.minus]
  omega

theorem expired_iff_none_left (now : Instant) :
    deadline.isExpired now = true ↔ deadline.remaining now = .zero := by
  rw [expired_iff_used]
  simp only [remaining, Duration.minus, Duration.zero, Duration.mk.injEq]
  omega

theorem expired_iff_reached (forward : deadline.start.nanos ≤ now.nanos)
    (held : now.Representable) :
    deadline.isExpired now = true ↔
      ∃ instant, deadline.expiresAt? = some instant ∧ instant.nanos ≤ now.nanos := by
  rw [expired_iff_used]
  simp only [elapsed, Instant.since]
  constructor
  · intro used
    have reached : (deadline.start.after deadline.budget).nanos ≤ now.nanos := by
      simp only [Instant.after]
      omega
    have inside : (deadline.start.after deadline.budget).Representable :=
      Nat.lt_of_le_of_lt reached held
    exact ⟨_, if_pos inside, reached⟩
  · rintro ⟨instant, expires, reached⟩
    obtain ⟨rfl, _⟩ := Instant.after_held expires
    simp only [Instant.after] at reached
    omega

section Later

variable (order : now.nanos ≤ later.nanos)
include order

theorem remaining_falls : (deadline.remaining later).nanos ≤ (deadline.remaining now).nanos := by
  simp only [remaining, elapsed, Duration.minus, Instant.since]
  omega

theorem stays_expired (expired : deadline.isExpired now = true) :
    deadline.isExpired later = true := by
  rw [expired_iff_none_left] at expired ⊢
  have falls := deadline.remaining_falls order
  rw [expired] at falls
  exact congrArg Duration.mk (Nat.le_zero.mp falls)

end Later

theorem nap_inside {interval : Duration} (positive : 0 < interval.nanos)
    (unexpired : deadline.isExpired now = false) :
    let nap := interval.least (deadline.remaining now)
    0 < nap.nanos ∧ (deadline.elapsed now).nanos + nap.nanos ≤ deadline.budget.nanos := by
  have left := (deadline.remaining_of_open now unexpired).1
  simp only [remaining, Duration.minus] at left
  simp only [Duration.least, remaining, Duration.minus]
  omega

/-- The views of a deadline agree on every budget and however the clock has run on, to the
nanosecond and without overflow. The time used is what the clock has advanced by; the budget less
that, or nothing, is left; none is left just when the deadline has expired, and that is just when
the instant of expiry exists and was reached. It stays so from then on. Before it, a wait sleeps for
some time and not beyond the budget. -/
theorem views_agree (budget : Duration.Words) (start now : Instant) (advances : List Duration)
    (held : start.Representable) (advanced : start.advanced? advances = some now) :
    let deadline : Deadline := ⟨start, budget.length⟩
    let left := deadline.remaining now
    (deadline.elapsed now = .total advances ∧
      ∃ used : Duration.Words, used.length = deadline.elapsed now ∧
        (budget.minus used).length = left ∧ budget.atMost used = deadline.isExpired now) ∧
    left.nanos = ((budget.length.nanos : Int) - (Duration.total advances).nanos).toNat ∧
    (deadline.isExpired now = true ↔ left = .zero) ∧
    (deadline.isExpired now = true ↔
      ∃ instant, deadline.expiresAt? = some instant ∧ instant.nanos ≤ now.nanos) ∧
    (deadline.expiresAt? = none → deadline.isExpired now = false) ∧
    (∀ more later, now.advanced? more = some later →
      (deadline.remaining later).nanos ≤ left.nanos ∧
        (deadline.isExpired now = true → deadline.isExpired later = true)) ∧
    (deadline.isExpired now = false → ∀ interval : Duration, 0 < interval.nanos →
      let nap := interval.least left
      0 < nap.nanos ∧ (deadline.elapsed now).nanos + nap.nanos ≤ budget.length.nanos) ∧
    ∀ (Provider : Type) (task : Wait.Task Provider), task.deadline = deadline →
      Wait.nap task now = task.settings.interval.least left ∧
        0 < task.settings.interval.nanos := by
  intro deadline left
  obtain ⟨there, kept⟩ := Instant.advanced_total held advanced
  have elapsed : deadline.elapsed now = .total advances := by
    simp only [deadline, Deadline.elapsed, there, Instant.since, Instant.after,
      Nat.add_sub_cancel_left]
  have forward : start.nanos ≤ now.nanos := by
    rw [there]
    exact Nat.le_add_right ..
  -- Two instants of the clock are never further apart than words can hold.
  obtain ⟨used, words⟩ := (Duration.Words.length_iff (deadline.elapsed now)).mpr
    (Instant.since_le_longest kept start)
  have reached := deadline.expired_iff_reached forward kept
  constructor
  · refine ⟨elapsed, used, words, ?_, ?_⟩
    · rw [Duration.Words.length_minus, words]
      rfl
    · rw [Bool.eq_iff_iff, Duration.Words.at_most_iff, words, expired_iff_used]
  constructor
  · rw [← elapsed]
    exact deadline.remaining_clamped now
  constructor
  · exact deadline.expired_iff_none_left now
  constructor
  · exact reached
  constructor
  · intro never
    rw [Bool.eq_false_iff]
    intro expired
    obtain ⟨instant, expires, _⟩ := reached.mp expired
    rw [never] at expires
    cases expires
  constructor
  · intro more later moved
    obtain ⟨further, _⟩ := Instant.advanced_total kept moved
    have order : now.nanos ≤ later.nanos := by
      rw [further]
      exact Nat.le_add_right ..
    exact ⟨deadline.remaining_falls order, deadline.stays_expired order⟩
  constructor
  · intro unexpired interval positive
    exact deadline.nap_inside positive unexpired
  · intro Provider task same
    rw [Wait.nap, same]
    exact ⟨rfl, task.settings.interval_pos⟩

/-- For the longest budget there is no instant of expiry, so it is not used up ten seconds on. -/
theorem longest_budget_stays_open :
    let budget : Duration.Words := ⟨18446744073709551615, 999999999, by decide⟩
    let deadline : Deadline := ⟨.origin, budget.length⟩
    let now : Instant := ⟨10000000000⟩
    Instant.Representable .origin ∧ Instant.origin.advanced? [.ofSecs 3, .ofSecs 7] = some now ∧
      deadline.expiresAt? = none ∧ deadline.isExpired now = false := by
  intro budget deadline now
  have held : Instant.Representable .origin := by decide
  have advanced : Instant.origin.advanced? [.ofSecs 3, .ofSecs 7] = some now := by decide
  have never : deadline.expiresAt? = none := by decide
  obtain ⟨_, _, _, _, unreached, _⟩ := views_agree budget .origin now _ held advanced
  exact ⟨held, advanced, never, unreached never⟩

end Deadline

end ResourceWatch
