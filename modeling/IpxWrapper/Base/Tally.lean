import Mathlib.Algebra.BigOperators.Group.List.Basic
import Mathlib.Algebra.Order.Ring.Nat
import Mathlib.Tactic.Common

/-!
# Amounts by the time they were counted

A history of amounts, each with the time it was counted at. `tally` adds up those
counted at certain times: `during` an interval, or `since` a moment. Adjoining
intervals add up (`tally_split`), so the tally of a long interval is the sum over
the slots it is cut into (`sum_tally_slots`).
-/

namespace IpxWrapper.Base

structure Amount where
  time : Nat
  amount : Nat
deriving DecidableEq

/-- The times from `lo` to `hi`, without `hi`. -/
def during (lo hi t : Nat) : Bool := lo ≤ t && t < hi

def since (lo t : Nat) : Bool := lo ≤ t

/-- The sum of what was counted at certain times. -/
def tally (amounts : List Amount) (within : Nat → Bool) : Nat :=
  ((amounts.filter fun a => within a.time).map Amount.amount).sum

section Tally

variable {amounts : List Amount} {p q : Nat → Bool} {lo mid hi : Nat}

theorem during_eq_true {t : Nat} : during lo hi t = true ↔ lo ≤ t ∧ t < hi := by
  simp [during]

theorem since_eq_true {t : Nat} : since lo t = true ↔ lo ≤ t := by
  simp [since]

@[simp] theorem tally_nil (within : Nat → Bool) : tally [] within = 0 := rfl

theorem tally_cons (a : Amount) (rest : List Amount) (within : Nat → Bool) :
    tally (a :: rest) within = (if within a.time then a.amount else 0) + tally rest within := by
  unfold tally
  cases counted : within a.time with
  | true => simp [counted]
  | false => simp [counted]

theorem tally_append (left right : List Amount) (within : Nat → Bool) :
    tally (left ++ right) within = tally left within + tally right within := by
  simp [tally, List.filter_append]

theorem tally_concat (amounts : List Amount) (a : Amount) (within : Nat → Bool) :
    tally (amounts ++ [a]) within =
      tally amounts within + if within a.time then a.amount else 0 := by
  rw [tally_append, tally_cons, tally_nil, Nat.add_zero]

/-- Only the times of the amounts matter. -/
theorem tally_congr (same : ∀ a ∈ amounts, p a.time = q a.time) :
    tally amounts p = tally amounts q := by
  unfold tally
  rw [List.filter_congr same]

theorem tally_le (wider : ∀ a ∈ amounts, p a.time = true → q a.time = true) :
    tally amounts p ≤ tally amounts q := by
  induction amounts with
  | nil => exact Nat.le_refl _
  | cons a rest ih =>
      have rest := ih fun b member => wider b (List.mem_cons_of_mem _ member)
      have first := wider a List.mem_cons_self
      rw [tally_cons, tally_cons]
      cases counted : p a.time with
      | false => simp only [Bool.false_eq_true, if_false]; omega
      | true => rw [first counted]; omega

theorem tally_eq_zero (outside : ∀ a ∈ amounts, p a.time = false) : tally amounts p = 0 := by
  have nothing : amounts.filter (fun a => p a.time) = [] := by
    rw [List.filter_eq_nil_iff]
    intro a member
    simp [outside a member]
  unfold tally
  rw [nothing]
  rfl

theorem tally_split (first : lo ≤ mid) (second : mid ≤ hi) :
    tally amounts (during lo mid) + tally amounts (during mid hi) =
      tally amounts (during lo hi) := by
  induction amounts with
  | nil => rfl
  | cons a rest ih =>
      simp only [tally_cons, during_eq_true]
      split_ifs <;> omega

/-- What is counted in slots of width `w` from `lo` on adds up. -/
theorem sum_tally_slots (amounts : List Amount) (lo w n : Nat) :
    ((List.range n).map fun i =>
      tally amounts (during (lo + w * i) (lo + w * (i + 1)))).sum =
        tally amounts (during lo (lo + w * n)) := by
  induction n with
  | zero =>
      refine (tally_eq_zero fun a _ => ?_).symm
      simp [during]
  | succ n ih =>
      have grows : lo + w * n ≤ lo + w * (n + 1) :=
        Nat.add_le_add_left (Nat.mul_le_mul_left w (Nat.le_succ n)) lo
      rw [List.range_succ, List.map_append, List.sum_append, ih, List.map_singleton,
        List.sum_singleton, tally_split (Nat.le_add_right lo _) grows]

/-- While everything was counted before `hi`, an interval up to `hi` is open. -/
theorem tally_since_eq (before : ∀ a ∈ amounts, a.time < hi) :
    tally amounts (since lo) = tally amounts (during lo hi) := by
  apply tally_congr
  intro a member
  have early := before a member
  simp [since, during, early]

end Tally

end IpxWrapper.Base
