import IpxWrapper.Clock
import Mathlib.Algebra.Order.Field.Basic
import Mathlib.Algebra.Order.Ring.Rat
import Mathlib.Tactic.Linarith
import Mathlib.Tactic.Ring

/-!
# How exact `get_uticks` is

`get_uticks` divides the performance counter by the frequency in whole
megahertz. What is left of the frequency makes the clock fast, by as much as the
counter is high, and a frequency below 1 MHz is a division by zero.
`getUticks_accurate_iff` says for which frequencies the clock is right to a
microsecond at every value of the counter.
-/

namespace IpxWrapper

/-! ## Quotients to within one -/

section Quotients

variable {v n f : Nat}

/-- Whether `v` is within 1 of a fraction, without fractions. -/
theorem abs_sub_div_le_one_iff (positive : 0 < f) :
    |(v : ℚ) - n / f| ≤ 1 ↔ v * f ≤ n + f ∧ n ≤ v * f + f := by
  have positive : (0 : ℚ) < f := Nat.cast_pos.mpr positive
  have upper : (v : ℚ) - n / f ≤ 1 ↔ v * f ≤ n + f := by
    rw [sub_le_iff_le_add, ← mul_le_mul_iff_left₀ positive, add_mul,
      div_mul_cancel₀ _ positive.ne', one_mul, add_comm, ← Nat.cast_mul, ← Nat.cast_add,
      Nat.cast_le]
  have lower : -((v : ℚ) - n / f) ≤ 1 ↔ n ≤ v * f + f := by
    rw [neg_sub, sub_le_iff_le_add, ← mul_le_mul_iff_left₀ positive, add_mul,
      div_mul_cancel₀ _ positive.ne', one_mul, add_comm, ← Nat.cast_mul, ← Nat.cast_add,
      Nat.cast_le]
  rw [abs_le', upper, lower]

/-- The quotient by `f / d` is never too low. -/
theorem mul_le_div_mul_add {c d : Nat} (positive : 0 < f / d) :
    c * d ≤ c / (f / d) * f + f := by
  have whole : f / d * d ≤ f := Nat.div_mul_le_self f d
  calc
    c * d ≤ (f / d * (c / (f / d)) + f / d) * d :=
        Nat.mul_le_mul_right d (Nat.lt_mul_div_succ c positive).le
    _ = c / (f / d) * (f / d * d) + f / d * d := by ring
    _ ≤ c / (f / d) * f + f := Nat.add_le_add (Nat.mul_le_mul_left _ whole) whole

/-- It is too high by what `f % d` adds up to. -/
theorem div_mul_eq {c d : Nat} :
    c / (f / d) * f = f / d * (c / (f / d)) * d + c / (f / d) * (f % d) := by
  have parts : f = d * (f / d) + f % d := (Nat.div_add_mod f d).symm
  calc
    c / (f / d) * f = c / (f / d) * (d * (f / d) + f % d) := by rw [← parts]
    _ = f / d * (c / (f / d)) * d + c / (f / d) * (f % d) := by ring

/-- A quotient by `f / d` is within 1 of the fraction for all numbers up to `m`
if and only if what `f % d` adds up to is at most `f`. -/
theorem div_within_one_iff {d m : Nat} (positive : 0 < f / d) :
    (∀ c ≤ m, c / (f / d) * f ≤ c * d + f) ↔ m / (f / d) * (f % d) ≤ f := by
  constructor
  · intro within
    -- The worst number is the last multiple of the divisor.
    have worst := within (f / d * (m / (f / d))) (Nat.mul_div_le m (f / d))
    rw [div_mul_eq, Nat.mul_div_cancel_left _ positive] at worst
    omega
  · intro small c le
    have drift : c / (f / d) * (f % d) ≤ m / (f / d) * (f % d) :=
      Nat.mul_le_mul_right _ (Nat.div_le_div_right le)
    have below : f / d * (c / (f / d)) * d ≤ c * d :=
      Nat.mul_le_mul_right d (Nat.mul_div_le c (f / d))
    rw [div_mul_eq]
    omega

end Quotients

/-! ## Microseconds -/

/-- `get_uticks` returns the time that the counter says, to a microsecond. -/
def Accurate (perfCounterFreq : UInt64) (r : ClockReading) : Prop :=
  ∀ c ∈ r.counter, ∃ v, getUticks perfCounterFreq r = some v ∧
    |(v.toNat : ℚ) - (c.toNat * 1000000 : Nat) / perfCounterFreq.toNat| ≤ 1

theorem frequency_ne_zero {f : UInt64} (positive : 0 < f.toNat) : f ≠ 0 := by
  rintro rfl
  exact absurd positive (Nat.lt_irrefl 0)

/-- What `get_uticks` computes, where it does not divide by zero. -/
theorem getUticks_counter {f c : UInt64} {r : ClockReading} (reads : r.counter = some c)
    (megahertz : 1000000 ≤ f.toNat) :
    ∃ v, getUticks f r = some v ∧ v.toNat = c.toNat / (f.toNat / 1000000) := by
  have quotient : (f / 1000000).toNat = f.toNat / 1000000 := UInt64.toNat_div f 1000000
  have divides : f / 1000000 ≠ 0 := by
    intro zero
    rw [zero, UInt64.toNat_zero] at quotient
    omega
  refine ⟨c / (f / 1000000), ?_, ?_⟩
  · unfold getUticks
    rw [if_neg (frequency_ne_zero (by omega)), reads]
    dsimp only
    rw [if_neg divides]
  · rw [UInt64.toNat_div, quotient]

/-- `get_uticks` divides by zero if the frequency is below 1 MHz. -/
theorem getUticks_eq_none {f c : UInt64} {r : ClockReading} (reads : r.counter = some c)
    (positive : 0 < f) (slow : f.toNat < 1000000) : getUticks f r = none := by
  have zero : f / 1000000 = 0 := by
    apply UInt64.toNat_inj.mp
    rw [UInt64.toNat_div, UInt64.toNat_zero]
    exact Nat.div_eq_of_lt slow
  unfold getUticks
  rw [if_neg (frequency_ne_zero positive), reads]
  dsimp only
  rw [if_pos zero]

/-- The clock is right at every value of the counter if and only if the frequency
is 1 MHz or more and what is left of it after the whole megahertz adds up to at
most a microsecond while the counter runs. -/
theorem getUticks_accurate_iff (f : UInt64) (positive : 0 < f) :
    (∀ r, Accurate f r) ↔ 1000000 ≤ f.toNat ∧
      (2 ^ 63 - 1) / (f.toNat / 1000000) * (f.toNat % 1000000) ≤ f.toNat := by
  have positive' : 0 < f.toNat := positive
  by_cases megahertz : 1000000 ≤ f.toNat
  case neg =>
    refine iff_of_false ?_ fun fast => megahertz fast.1
    intro accurate
    have divides := getUticks_eq_none (r := counterAt 0 (by decide)) rfl positive (by omega)
    obtain ⟨v, returns, -⟩ := accurate (counterAt 0 (by decide)) 0 rfl
    rw [divides] at returns
    cases returns
  have whole : 0 < f.toNat / 1000000 := Nat.div_pos megahertz (by decide)
  rw [and_iff_right megahertz, ← div_within_one_iff whole]
  constructor
  · intro accurate c le
    have small : (UInt64.ofNat c).toNat = c :=
      UInt64.toNat_ofNat_of_lt' (lt_of_le_of_lt le (by decide))
    have running : (UInt64.ofNat c).toNat < 2 ^ 63 := by omega
    obtain ⟨v, returns, within⟩ := accurate (counterAt (.ofNat c) running) _ rfl
    obtain ⟨v', returns', quotient⟩ :=
      getUticks_counter (r := counterAt (.ofNat c) running) rfl megahertz
    obtain rfl := Option.some.inj (returns.symm.trans returns')
    rw [abs_sub_div_le_one_iff positive', quotient, small] at within
    exact within.1
  · intro within r c reads
    obtain ⟨v, returns, quotient⟩ := getUticks_counter reads megahertz
    refine ⟨v, returns, ?_⟩
    rw [abs_sub_div_le_one_iff positive', quotient]
    have running := r.counter_lt c reads
    exact ⟨within c.toNat (by omega), mul_le_div_mul_add whole⟩

/-- At 10 MHz the clock is right. -/
theorem tenMegahertz_accurate : (0 : UInt64) < 10000000 ∧ ∀ r, Accurate 10000000 r :=
  ⟨by decide, (getUticks_accurate_iff 10000000 (by decide)).mpr (by decide)⟩

/-- The counter of a power management timer runs at 3.579545 MHz. After a second
of it the clock has made 1193181 microseconds. -/
theorem getUticks_not_accurate : ¬ ∀ f : UInt64, 0 < f → ∀ r, Accurate f r := by
  intro accurate
  obtain ⟨v, returns, within⟩ :=
    accurate 3579545 (by decide) (counterAt 3579545 (by decide)) 3579545 rfl
  have reads : getUticks 3579545 (counterAt 3579545 (by decide)) = some 1193181 := by
    decide
  obtain rfl := Option.some.inj (returns.symm.trans reads)
  rw [abs_sub_div_le_one_iff (by decide)] at within
  exact absurd within.1 (by decide)

end IpxWrapper
