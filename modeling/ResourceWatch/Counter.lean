/-!
Counters that stop at their largest value instead of wrapping. Attempts, pages and page numbers have
32 bits and count this way, so a run that is long enough keeps the last number it reached; items and
milliseconds have 64.
-/

namespace ResourceWatch

/-- The largest number of 64 bits. -/
def largestWord : Nat := 18446744073709551615

/-- The next value of a counter; the largest value is its own successor. -/
def nextCount (count : UInt32) : UInt32 :=
  if count.toNat + 1 < UInt32.size then count + 1 else count

theorem next_count_value (count : UInt32) :
    (nextCount count).toNat = min (count.toNat + 1) 4294967295 := by
  have bound := count.toNat_lt
  unfold nextCount
  split
  · rename_i room
    rw [UInt32.toNat_add]
    simp only [UInt32.size] at room
    have : (1 : UInt32).toNat = 1 := rfl
    omega
  · rename_i full
    simp only [UInt32.size] at full
    omega

def countOf (steps : Nat) : UInt32 := UInt32.ofNat (min steps 4294967295)

theorem count_of_value (steps : Nat) : (countOf steps).toNat = min steps 4294967295 := by
  have bounded : min steps 4294967295 < 2 ^ 32 := by omega
  exact UInt32.toNat_ofNat_of_lt' bounded

theorem next_count_of (steps : Nat) : nextCount (countOf steps) = countOf (steps + 1) := by
  apply UInt32.toNat_inj.mp
  rw [next_count_value, count_of_value, count_of_value]
  omega

theorem next_count_eq (count : UInt32) : nextCount count = countOf (count.toNat + 1) := by
  apply UInt32.toNat_inj.mp
  rw [next_count_value, count_of_value]

theorem count_of_self (count : UInt32) : countOf count.toNat = count := by
  apply UInt32.toNat_inj.mp
  have bound := count.toNat_lt
  rw [count_of_value]
  omega

theorem count_of_zero_iff (steps : Nat) : countOf steps = 0 ↔ steps = 0 := by
  rw [← UInt32.toNat_inj, count_of_value]
  have : (0 : UInt32).toNat = 0 := rfl
  omega

end ResourceWatch
