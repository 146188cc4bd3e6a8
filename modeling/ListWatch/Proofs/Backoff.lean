import Mathlib.Algebra.Group.Nat.Defs
import Mathlib.Order.Basic
import ListWatch.Backoff

/-!
# Delays as numbers

A delay is computed in words, but none of their bounds shows in the result: it is the base doubled
with every failure, up to twenty times, and cut to the greatest delay. A product that would not fit
into a word is above every greatest delay, and the largest count of failures is above every count
that still doubles. So a delay stays between its base and the greatest, and no failure makes it
shorter; a fixed delay, which has no room between the two, is the same after every failure.
-/
namespace ListWatch

/-! ## Lengths of time -/

namespace Duration

variable (duration : Duration)

def inNanoseconds : Nat := duration.seconds.toNat * 1000000000 + duration.nanoseconds.toNat

/-- Seconds are whole milliseconds, so only the rest of a second is cut. -/
theorem milliseconds_eq : duration.milliseconds = duration.inNanoseconds / 1000000 := by
  rw [milliseconds, inNanoseconds, UInt32.toNat_div]
  change _ + duration.nanoseconds.toNat / 1000000 = _
  omega

end Duration

/-! ## Delays as numbers -/

private theorem toNat_min_word (first second : UInt64) :
    (min first second).toNat = min first.toNat second.toNat := by
  change (if first ≤ second then first else second).toNat = _
  rw [apply_ite UInt64.toNat, Nat.min_def]
  rfl

private theorem toNat_max_word (first second : UInt64) :
    (max first second).toNat = max first.toNat second.toNat := by
  change (if first ≤ second then second else first).toNat = _
  rw [apply_ite UInt64.toNat, Nat.max_def]
  rfl

private theorem toNat_min_count (first second : UInt32) :
    (min first second).toNat = min first.toNat second.toNat := by
  change (if first ≤ second then first else second).toNat = _
  rw [apply_ite UInt32.toNat, Nat.min_def]
  rfl

namespace Backoff

theorem toNat_saturatingMul (first second : UInt64) :
    (saturatingMul first second).toNat =
      min (first.toNat * second.toNat) (UInt64.size - 1) := by
  unfold saturatingMul
  split
  next fits =>
    rw [UInt64.toNat_mul, Nat.mod_eq_of_lt fits, Nat.min_eq_left (Nat.le_sub_one_of_lt fits)]
  next long =>
    rw [Nat.min_eq_right (Nat.le_of_not_lt fun short => long (by omega))]
    rfl

section Delays

variable (backoff : Backoff)

theorem toNat_delay (attempt : UInt32) :
    (backoff.delay attempt).toNat =
      min (backoff.base.toNat * 2 ^ min attempt.toNat 20) backoff.greatest.toNat := by
  have doublings : (min attempt 20).toUInt64.toNat = min attempt.toNat 20 := by
    rw [UInt32.toNat_toUInt64, toNat_min_count]
    rfl
  have multiplier :
      ((1 : UInt64) <<< (min attempt 20).toUInt64).toNat = 2 ^ min attempt.toNat 20 := by
    have small : 2 ^ min attempt.toNat 20 ≤ 2 ^ 20 :=
      Nat.pow_le_pow_right (by decide) (Nat.min_le_right _ _)
    rw [UInt64.toNat_shiftLeft, doublings, Nat.mod_eq_of_lt (a := min attempt.toNat 20) (by omega),
      Nat.shiftLeft_eq, UInt64.toNat_one, Nat.one_mul, Nat.mod_eq_of_lt (by omega)]
  -- What is cut off the product is cut off by the greatest delay too.
  have word := backoff.greatest.toNat_lt
  rw [delay, toNat_min_word, toNat_saturatingMul, multiplier]
  simp only [UInt64.size]
  omega

/-- The milliseconds before the next attempt after a number of failures in a row, of which at most
the largest count is counted. -/
def after (failures : Nat) : Nat :=
  (backoff.delay (UInt32.ofNat (min failures (UInt32.size - 1)))).toNat

/-- That the count ends makes no difference. -/
theorem after_eq (failures : Nat) :
    backoff.after failures =
      min (backoff.base.toNat * 2 ^ min failures 20) backoff.greatest.toNat := by
  have counted : (UInt32.ofNat (min failures (UInt32.size - 1))).toNat =
      min failures (UInt32.size - 1) := by
    rw [UInt32.toNat_ofNat']
    exact Nat.mod_eq_of_lt (by simp only [UInt32.size]; omega)
  have same : min (min failures (UInt32.size - 1)) 20 = min failures 20 := by
    simp only [UInt32.size]
    omega
  rw [after, toNat_delay, counted, same]

/-! ## Bounds -/

theorem delay_le_greatest (attempt : UInt32) : backoff.delay attempt ≤ backoff.greatest := by
  rw [UInt64.le_iff_toNat_le, toNat_delay]
  exact Nat.min_le_right _ _

theorem delay_le_delay {attempt later : UInt32} (earlier : attempt ≤ later) :
    backoff.delay attempt ≤ backoff.delay later := by
  -- From the twentieth attempt on both delays are doubled as often.
  have doublings : min attempt.toNat 20 ≤ min later.toNat 20 := by
    have := UInt32.le_iff_toNat_le.mp earlier
    omega
  have products : backoff.base.toNat * 2 ^ min attempt.toNat 20 ≤
      backoff.base.toNat * 2 ^ min later.toNat 20 :=
    Nat.mul_le_mul_left _ (Nat.pow_le_pow_right (by decide) doublings)
  rw [UInt64.le_iff_toNat_le, toNat_delay, toNat_delay]
  omega

variable {backoff}

theorem base_le_delay (ordered : backoff.base ≤ backoff.greatest) (attempt : UInt32) :
    backoff.base ≤ backoff.delay attempt := by
  have product : backoff.base.toNat ≤ backoff.base.toNat * 2 ^ min attempt.toNat 20 :=
    Nat.le_mul_of_pos_right _ (Nat.two_pow_pos _)
  rw [UInt64.le_iff_toNat_le, toNat_delay]
  exact Nat.le_min.mpr ⟨product, UInt64.le_iff_toNat_le.mp ordered⟩

/-- A fixed delay is squeezed between its two bounds. -/
theorem delay_of_isFixed (same : backoff.isFixed) (attempt : UInt32) :
    backoff.delay attempt = backoff.base := by
  have equal : backoff.base = backoff.greatest := of_decide_eq_true same
  refine UInt64.le_antisymm ?_ (base_le_delay (equal ▸ UInt64.le_refl _) attempt)
  rw [equal]
  exact backoff.delay_le_greatest attempt

end Delays

/-! ## Growing and fixed delays -/

section Growing

variable (base greatest : UInt64)

theorem toNat_greatest_growing :
    (growing base greatest).greatest.toNat = max base.toNat greatest.toNat := by
  rw [growing, toNat_max_word, Nat.max_comm]

theorem base_le_greatest_growing :
    (growing base greatest).base ≤ (growing base greatest).greatest := by
  rw [UInt64.le_iff_toNat_le, toNat_greatest_growing]
  exact Nat.le_max_left _ _

theorem toNat_delay_growing (attempt : UInt32) :
    ((growing base greatest).delay attempt).toNat =
      min (max base.toNat greatest.toNat) (base.toNat * 2 ^ min attempt.toNat 20) := by
  rw [toNat_delay, toNat_greatest_growing, Nat.min_comm, growing]

end Growing

variable (milliseconds : Nat)

theorem isFixed_fixed : (fixed milliseconds).isFixed := by
  apply decide_eq_true
  rw [fixed, growing, ← UInt64.toNat_inj, toNat_max_word, Nat.max_self]

theorem toNat_delay_fixed (attempt : UInt32) :
    ((fixed milliseconds).delay attempt).toNat = min milliseconds (UInt64.size - 1) := by
  rw [delay_of_isFixed (isFixed_fixed milliseconds), fixed, growing, UInt64.toNat_ofNat']
  exact Nat.mod_eq_of_lt (by simp only [UInt64.size]; omega)

/-- A growing delay is what its formula gives in numbers of any size. A fixed one is the whole
milliseconds of its length of time, cut to the largest word, after any number of failures. -/
theorem delays_are_exact :
    (∀ (base greatest : UInt64) (attempt : UInt32),
      ((growing base greatest).delay attempt).toNat =
          min (max base.toNat greatest.toNat) (base.toNat * 2 ^ min attempt.toNat 20) ∧
        base ≤ (growing base greatest).delay attempt ∧
        (growing base greatest).delay attempt ≤ max base greatest ∧
        ∀ later, attempt ≤ later →
          (growing base greatest).delay attempt ≤ (growing base greatest).delay later) ∧
    ∀ duration : Duration,
      (fixed duration.milliseconds).isFixed ∧
        ∀ attempt, ((fixed duration.milliseconds).delay attempt).toNat =
          min (duration.inNanoseconds / 1000000) (UInt64.size - 1) := by
  refine ⟨fun base greatest attempt => ⟨toNat_delay_growing base greatest attempt,
    base_le_delay (base_le_greatest_growing base greatest) attempt, ?bounded,
    fun _ => delay_le_delay _⟩, fun duration => ⟨isFixed_fixed _, fun attempt => ?fixed⟩⟩
  case bounded =>
    rw [UInt64.le_iff_toNat_le, toNat_delay_growing, toNat_max_word]
    exact Nat.min_le_left _ _
  case fixed => rw [toNat_delay_fixed, duration.milliseconds_eq]

namespace Sample

/-- Twice the delay of the nineteenth attempt is more than a word. -/
def nearWord : Backoff := .growing 17592186044417 0xffffffffffffffff

/-- The longest length of time. -/
def longest : Duration := ⟨0xffffffffffffffff, 999999999, by decide⟩

/-- Neither the product nor the milliseconds fit into a word, and neither wraps. -/
theorem delays_past_word :
    (19 : UInt32) ≤ 20 ∧ nearWord.delay 19 ≤ nearWord.delay 20 ∧
      (nearWord.delay 19).toNat = 9223372036855300096 ∧
      (nearWord.delay 20).toNat = 18446744073709551615 ∧
      ((fixed longest.milliseconds).delay 20).toNat = 18446744073709551615 := by
  obtain ⟨grown, unchanged⟩ := delays_are_exact
  obtain ⟨at_nineteen, -, -, longer⟩ := grown 17592186044417 0xffffffffffffffff 19
  obtain ⟨at_twenty, -⟩ := grown 17592186044417 0xffffffffffffffff 20
  -- What the formulas give at these numbers is the same by evaluation.
  exact ⟨by decide, longer 20 (by decide), at_nineteen, at_twenty,
    ((unchanged longest).2 20).trans (by decide)⟩

end Sample

end Backoff

end ListWatch
