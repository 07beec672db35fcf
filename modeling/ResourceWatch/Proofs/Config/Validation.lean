import ResourceWatch.Proofs.Listing.Draft

/-!
What is made of a configuration. Validation is the only check that refuses one: what it lets through
fits the checks of paces, of words of 32 bits and of drafts that follow it, so each of the values is
refused for what validation says and otherwise carries what was configured.
-/

namespace ResourceWatch

section Steps

variable {Value Result : Type} {first : Except SettingError Value}
variable {next : Value → Except SettingError Result}

theorem bind_of_ok {value : Value} (passed : first = .ok value) : first >>= next = next value := by
  rw [passed]
  rfl

theorem bind_of_error {refusal : SettingError} (failed : first = .error refusal) :
    first >>= next = .error refusal := by
  rw [failed]
  rfl

end Steps

theorem Wait.Settings.make_iff (interval budget : Duration) (settings : Wait.Settings) :
    make? interval budget = .ok settings ↔
      settings.interval = interval ∧ settings.budget = budget := by
  constructor
  · intro made
    unfold make? at made
    split at made
    · split at made
      · cases made
        exact ⟨rfl, rfl⟩
      · cases made
    · cases made
  · rintro ⟨rfl, rfl⟩
    rw [make?, dif_pos settings.interval_pos, dif_pos settings.budget_pos]

namespace Config

structure Valid (config : Config) : Prop where
  interval_pos : config.pollIntervalSecs ≠ 0
  timeout_pos : config.waitTimeoutSecs ≠ 0
  size_accepted : ∀ size, config.pageSize = some size →
    0 ≤ size.toInt ∧ size.toInt ≤ maxPageSize

theorem validate_iff (config : Config) : config.validate = .ok () ↔ config.Valid := by
  constructor
  · intro valid
    have accepted := Listing.validated_size config valid
    simp only [validate] at valid
    split at valid
    · cases valid
    · rename_i interval
      split at valid
      · cases valid
      · rename_i timeout
        exact ⟨interval, timeout, accepted⟩
  · rintro ⟨interval, timeout, accepted⟩
    rw [validate, if_neg interval, if_neg timeout]
    cases sized : config.pageSize with
    | none => rfl
    | some size => exact if_pos (accepted size sized)

section Size

theorem size_of_iff (size : Int64) (word : UInt32) :
    sizeOf size = .ok word ↔ (word.toNat : Int) = size.toInt := by
  have bound := word.toNat_lt
  unfold sizeOf
  split
  · rename_i inside
    have room : size.toInt.toNat < UInt32.size := by
      simp only [UInt32.size]
      omega
    rw [Except.ok.injEq, ← UInt32.toNat_inj, UInt32.toNat_ofNat_of_lt' room]
    omega
  · rename_i outside
    constructor
    · intro made
      cases made
    · intro same
      omega

theorem sizes_of_iff (size : Option Int64) (word : Option UInt32) :
    size.mapM sizeOf = .ok word ↔
      word.map (fun word => (word.toNat : Int)) = size.map Int64.toInt := by
  cases size with
  | none => cases word <;> simp [pure, Except.pure]
  | some size =>
      have mapped : (some size).mapM sizeOf = (sizeOf size).map some := rfl
      rw [mapped]
      cases word with
      | none => cases sizeOf size <;> simp [Except.map]
      | some word =>
          rw [Option.map_some, Option.map_some, Option.some.injEq, ← size_of_iff]
          cases sizeOf size <;> simp [Except.map]

end Size

section Made

open Listing.Draft

def calls (config : Config) (size : Option UInt32) : List Call :=
  .maybePageSize size :: (config.orderBy.map .orderBy).toList

theorem listing_options_eq (config : Config) :
    config.listingOptions = (do
      config.validate
      let size ← config.pageSize.mapM sizeOf
      (applyAll {} (config.calls size)).build) := by
  unfold listingOptions calls
  cases config.orderBy <;> rfl

structure Paces (config : Config) (settings : Wait.Settings) : Prop where
  interval : settings.interval = .ofSecs config.pollIntervalSecs.toNat
  budget : settings.budget = .ofSecs config.waitTimeoutSecs.toNat

structure Lists (config : Config) (options : Listing.Options) : Prop where
  first : options.pageNumber = 1
  sized : options.pageSize.map (fun size => (size.toNat : Int)) = config.pageSize.map Int64.toInt
  ordered : Orders config.orderBy options.orderBy

theorem calls_given (config : Config) (size : Option UInt32) :
    lastGiven Call.number? (config.calls size) = none ∧
      lastGiven Call.size? (config.calls size) = some size ∧
      lastGiven Call.order? (config.calls size) = config.orderBy := by
  unfold calls
  cases config.orderBy <;> exact ⟨rfl, rfl, rfl⟩

theorem seconds_pos {secs : UInt64} (some : secs ≠ 0) : 0 < (Duration.ofSecs secs.toNat).nanos := by
  have positive : secs.toNat ≠ 0 := fun zero => some (UInt64.toNat_inj.mp zero)
  exact Nat.mul_pos (Nat.pos_of_ne_zero positive) (by decide)

variable {config : Config} (valid : config.Valid)
include valid

theorem Valid.paced : ∃ settings,
    Wait.Settings.make? (.ofSecs config.pollIntervalSecs.toNat)
      (.ofSecs config.waitTimeoutSecs.toNat) = .ok settings ∧ config.Paces settings := by
  have interval := seconds_pos valid.interval_pos
  have budget := seconds_pos valid.timeout_pos
  let settings : Wait.Settings := ⟨_, _, interval, budget⟩
  exact ⟨settings, (Wait.Settings.make_iff _ _ settings).mpr ⟨rfl, rfl⟩, rfl, rfl⟩

theorem Valid.sized : ∃ size, config.pageSize.mapM sizeOf = .ok size := by
  cases given : config.pageSize with
  | none => exact ⟨none, rfl⟩
  | some size =>
      have accepted := valid.size_accepted size given
      have room : size.toInt.toNat < UInt32.size := by
        simp only [maxPageSize, UInt32.size] at *
        omega
      refine ⟨some (UInt32.ofNat size.toInt.toNat), (sizes_of_iff _ _).mpr ?_⟩
      rw [Option.map_some, Option.map_some, UInt32.toNat_ofNat_of_lt' room,
        Int.toNat_of_nonneg accepted.1]

theorem Valid.listed {size : Option UInt32} (sized : config.pageSize.mapM sizeOf = .ok size) :
    ∃ options, (applyAll {} (config.calls size)).build = .ok options ∧ config.Lists options := by
  have same := (sizes_of_iff _ _).mp sized
  obtain ⟨unnumbered, resized, reordered⟩ := config.calls_given size
  have first : (applyAll {} (config.calls size)).pageNumber = 1 := by
    rw [number_of_calls, unnumbered, Option.getD_none]
  have word : (applyAll {} (config.calls size)).pageSize = size := by
    rw [size_of_calls, resized, Option.join_some]
  have ordered := order_of_calls (config.calls size)
  rw [reordered] at ordered
  refine ⟨_, build_of_fitting _ ?_ ?_, first, (congrArg _ word).trans same, ordered⟩
  · rw [first]
    decide
  · intro asked given
    rw [← word, given] at same
    obtain ⟨size, configured, value⟩ := Option.map_eq_some_iff.mp same.symm
    have accepted := (valid.size_accepted size configured).2
    rw [value] at accepted
    exact Int.ofNat_le.mp accepted

theorem Valid.made : ∃ settings size options,
    (Wait.Settings.make? (.ofSecs config.pollIntervalSecs.toNat)
        (.ofSecs config.waitTimeoutSecs.toNat) = .ok settings ∧
      config.pageSize.mapM sizeOf = .ok size ∧
      (applyAll {} (config.calls size)).build = .ok options) ∧
    config.waitSettings = .ok settings ∧ config.Paces settings ∧
    config.listingOptions = .ok options ∧ config.Lists options ∧
    config.waiter = .ok ⟨settings, config.unknownStates⟩ := by
  have passed := config.validate_iff.mpr valid
  obtain ⟨settings, paced, paces⟩ := valid.paced
  obtain ⟨size, sized⟩ := valid.sized
  obtain ⟨options, built, lists⟩ := valid.listed sized
  have pace : config.waitSettings = .ok settings := by
    rw [waitSettings, bind_of_ok passed, paced]
  have listing : config.listingOptions = .ok options := by
    rw [listing_options_eq, bind_of_ok passed, bind_of_ok sized, built]
  have waiter : config.waiter = .ok ⟨settings, config.unknownStates⟩ := by
    rw [Config.waiter, bind_of_ok pace]
    rfl
  exact ⟨settings, size, options, ⟨paced, sized, built⟩, pace, paces, listing, lists, waiter⟩

end Made

theorem refused {config : Config} {refusal : SettingError}
    (invalid : config.validate = .error refusal) :
    config.waitSettings = .error refusal ∧ config.listingOptions = .error refusal ∧
      config.waiter = .error refusal := by
  have pace : config.waitSettings = .error refusal := bind_of_error invalid
  exact ⟨pace, bind_of_error invalid, bind_of_error pace⟩

theorem unknown_states_iff (config : Config) :
    config.unknownStates = .keepPolling ↔ config.keepPollingOnUnknown = true := by
  unfold unknownStates
  split <;> simp_all

/-- The pace, the options and the waiter of a configuration are refused when validation refuses it,
and for the same reason. When validation passes, no check behind it fails, and all three are made:
they carry the seconds, the size, the ordering and the policy that were configured. -/
theorem validation_decides_what_is_made (config : Config) :
    (config.validate = .ok () ↔ config.Valid) ∧
    (∀ refusal, (config.waitSettings = .error refusal ↔ config.validate = .error refusal) ∧
      (config.listingOptions = .error refusal ↔ config.validate = .error refusal) ∧
      (config.waiter = .error refusal ↔ config.validate = .error refusal)) ∧
    (config.validate = .ok () → ∃ settings size options,
      (Wait.Settings.make? (.ofSecs config.pollIntervalSecs.toNat)
          (.ofSecs config.waitTimeoutSecs.toNat) = .ok settings ∧
        config.pageSize.mapM sizeOf = .ok size ∧
        (Listing.Draft.applyAll {} (config.calls size)).build = .ok options) ∧
      config.waitSettings = .ok settings ∧ config.Paces settings ∧
      config.listingOptions = .ok options ∧ config.Lists options ∧
      config.waiter = .ok ⟨settings, config.unknownStates⟩) ∧
    (config.unknownStates = .keepPolling ↔ config.keepPollingOnUnknown = true) := by
  refine ⟨config.validate_iff, fun refusal => ?_, fun passed => (config.validate_iff.mp passed).made,
    config.unknown_states_iff⟩
  cases validated : config.validate with
  | error reason =>
      obtain ⟨pace, listing, waiter⟩ := refused validated
      simp only [pace, listing, waiter, Except.error.injEq, and_self]
  | ok =>
      obtain ⟨_, _, _, _, pace, _, listing, _, waiter⟩ := (config.validate_iff.mp validated).made
      simp [pace, listing, waiter]

/-- The largest page size, a blank ordering, and the longest of all times. -/
theorem longest_waiter_made :
    let config : Config := ⟨1, 18446744073709551615, some 10000, some " \t", true⟩
    config.validate = .ok () ∧ ∃ waiter options,
      config.waiter = .ok waiter ∧ waiter.unknownStates = .keepPolling ∧
        waiter.settings.budget = .ofSecs 18446744073709551615 ∧
        config.listingOptions = .ok options ∧ config.Lists options := by
  intro config
  obtain ⟨passes, _, makes, policy⟩ := validation_decides_what_is_made config
  have valid : config.Valid := ⟨by decide, by decide, fun size given => by cases given; decide⟩
  have passed := passes.mpr valid
  obtain ⟨settings, _, options, _, _, paces, listing, lists, waiter⟩ := makes passed
  exact ⟨passed, _, options, waiter, policy.mpr rfl, paces.budget, listing, lists⟩

end Config

end ResourceWatch
