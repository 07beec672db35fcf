import ResourceWatch.Counter

/-!
Time: lengths and instants of one clock, deadlines, and tokens that fire at an instant.
-/

namespace ResourceWatch

/-!
Lengths of time and the instants of one clock, both in nanoseconds. The clock holds instants below a
fixed horizon. A sleeper wakes at whole milliseconds: at the first one that is not before its
instant, so a sleep is never cut short.
-/

structure Duration where
  nanos : Nat
  deriving DecidableEq, Repr, Inhabited

namespace Duration

def nanosPerSecond : Nat := 1000000000

def nanosPerMilli : Nat := 1000000

def zero : Duration := ⟨0⟩

def ofMillis (millis : Nat) : Duration := ⟨millis * nanosPerMilli⟩

def ofSecs (secs : Nat) : Duration := ⟨secs * nanosPerSecond⟩

def ofParts (secs nanos : Nat) : Duration := ⟨secs * nanosPerSecond + nanos⟩

/-- The longest length that settings can carry: seconds of 64 bits, and one nanosecond short of one
more. -/
def longest : Duration := ofParts largestWord 999999999

def secs (length : Duration) : Nat := length.nanos / nanosPerSecond

def subsecNanos (length : Duration) : Nat := length.nanos % nanosPerSecond

def millis (length : Duration) : Nat := length.nanos / nanosPerMilli

def minus (length taken : Duration) : Duration := ⟨length.nanos - taken.nanos⟩

def least (left right : Duration) : Duration := ⟨min left.nanos right.nanos⟩

end Duration

structure Instant where
  nanos : Nat
  deriving DecidableEq, Repr, Inhabited

namespace Instant

def origin : Instant := ⟨0⟩

def after (instant : Instant) (length : Duration) : Instant := ⟨instant.nanos + length.nanos⟩

def since (later earlier : Instant) : Duration := ⟨later.nanos - earlier.nanos⟩

/-- The seconds that the clock can count: those of 63 bits. -/
def horizonSecs : Nat := 9223372036854775808

def Representable (instant : Instant) : Prop :=
  instant.nanos < horizonSecs * Duration.nanosPerSecond

instance (instant : Instant) : Decidable instant.Representable :=
  inferInstanceAs (Decidable (_ < _))

def after? (instant : Instant) (length : Duration) : Option Instant :=
  if (instant.after length).Representable then some (instant.after length) else none

/-- The first whole millisecond that is not before the instant. -/
def roundedUp (instant : Instant) : Instant :=
  ⟨(instant.nanos + (Duration.nanosPerMilli - 1)) / Duration.nanosPerMilli * Duration.nanosPerMilli⟩

/-- The sleep that stands for one beyond what the clock can hold: thirty years. -/
def farSleep : Duration := Duration.ofSecs (86400 * 365 * 30)

def wakeAfter (instant : Instant) (length : Duration) : Instant :=
  ((instant.after? length).getD (instant.after farSleep)).roundedUp

theorem le_rounded_up (instant : Instant) : instant.nanos ≤ instant.roundedUp.nanos := by
  simp only [roundedUp, Duration.nanosPerMilli]
  omega

theorem rounded_up_mono {early late : Instant} (order : early.nanos ≤ late.nanos) :
    early.roundedUp.nanos ≤ late.roundedUp.nanos := by
  simp only [roundedUp, Duration.nanosPerMilli]
  omega

theorem wake_after_held {instant : Instant} {length : Duration}
    (held : (instant.after length).Representable) :
    instant.wakeAfter length = (instant.after length).roundedUp := by
  simp only [wakeAfter, after?, if_pos held, Option.getD_some]

theorem wake_after_unheld {instant : Instant} {length : Duration}
    (unheld : ¬ (instant.after length).Representable) :
    instant.wakeAfter length = (instant.after farSleep).roundedUp := by
  simp only [wakeAfter, after?, if_neg unheld, Option.getD_none]

theorem wake_later (instant : Instant) (length : Duration) (positive : 0 < length.nanos) :
    instant.nanos < (instant.wakeAfter length).nanos := by
  unfold wakeAfter after?
  split
  · have rounded := le_rounded_up (instant.after length)
    simp only [Option.getD_some]
    simp only [after] at rounded ⊢
    omega
  · have rounded := le_rounded_up (instant.after farSleep)
    simp only [Option.getD_none]
    have : 0 < farSleep.nanos := by decide
    simp only [after] at rounded ⊢
    omega

end Instant

/-!
A deadline: a budget of time that runs from an instant. Its views at a given instant are the time
used, the time left, and whether any is left; the instant of expiry exists only within what the
clock can hold.
-/

structure Deadline where
  start : Instant
  budget : Duration
  deriving DecidableEq, Repr

namespace Deadline

def elapsed (deadline : Deadline) (now : Instant) : Duration := now.since deadline.start

def remaining (deadline : Deadline) (now : Instant) : Duration :=
  deadline.budget.minus (deadline.elapsed now)

def isExpired (deadline : Deadline) (now : Instant) : Bool :=
  deadline.budget.nanos ≤ (deadline.elapsed now).nanos

def expiresAt? (deadline : Deadline) : Option Instant := deadline.start.after? deadline.budget

theorem remaining_of_open (deadline : Deadline) (now : Instant)
    (unexpired : deadline.isExpired now = false) :
    0 < (deadline.remaining now).nanos ∧
      now.nanos < deadline.start.nanos + deadline.budget.nanos := by
  have left : ¬ deadline.budget.nanos ≤ (deadline.elapsed now).nanos :=
    of_decide_eq_false unexpired
  simp only [elapsed, Instant.since] at left
  simp only [remaining, Duration.minus, elapsed, Instant.since]
  omega

end Deadline

/-!
Cancellation tokens. A token fires once and stays fired. It may be due to fire at an instant; a
sleep that would end at that very instant ends with the token fired, since the token goes first.
-/

structure Token where
  fired : Bool := false
  due : Option Instant := none
  deriving DecidableEq, Repr, Inhabited

namespace Token

def fire (token : Token) : Token := { token with fired := true }

def dueAt (token : Token) (due : Option Instant) : Token := { token with due }

/-- The instant at which the token is fired for one who sleeps until `wake`, if it is by then. -/
def firedBy? (token : Token) (now wake : Instant) : Option Instant :=
  if token.fired then some now
  else match token.due with
    | some due => if due.nanos ≤ wake.nanos then some ⟨max now.nanos due.nanos⟩ else none
    | none => none

def passed (token : Token) (now wake : Instant) : Token :=
  if (token.firedBy? now wake).isSome then token.fire else token

theorem now_le_fired_by (token : Token) (now wake instant : Instant)
    (fires : token.firedBy? now wake = some instant) : now.nanos ≤ instant.nanos := by
  unfold firedBy? at fires
  split at fires
  · cases fires; exact Nat.le_refl _
  · split at fires
    · split at fires
      · cases fires; exact Nat.le_max_left ..
      · cases fires
    · cases fires

end Token

end ResourceWatch
