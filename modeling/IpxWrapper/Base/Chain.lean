import Mathlib.Data.List.Basic
import Mathlib.Tactic.Common

/-!
# Chains of length-prefixed records

A buffer that holds records one after the other, each beginning with its own
length, is walked by a cursor that adds the length it reads. Nothing but the
lengths matters to the walk, so a buffer is `len : Nat → Nat`, the length field
of a record taken to begin at that position.

* `Tiles len least p stop ps`: records of at least `least` units beginning at
  the positions `ps` fill `[p, stop)` exactly.
* `Meets len through hit stop p`: walking from `p` over records that satisfy
  `through`, the cursor comes to one before `stop` that satisfies `hit`.
* `Passes len through stop p`: every record the walk comes to satisfies
  `through`, and the cursor gets to `stop` or beyond.
-/

namespace IpxWrapper.Base.Chain

variable {len : Nat → Nat} {least stop p : Nat} {ps : List Nat}
  {through hit : Nat → Prop}

/-- Records beginning at `ps`, none shorter than `least`, fill `[p, stop)`. -/
inductive Tiles (len : Nat → Nat) (least stop : Nat) : Nat → List Nat → Prop
  | nil : Tiles len least stop stop []
  | cons {p : Nat} {ps : List Nat} :
      p < stop → least ≤ len p → p + len p ≤ stop →
      Tiles len least stop (p + len p) ps → Tiles len least stop p (p :: ps)

/-- A walk over records that satisfy `through` comes to one that satisfies `hit`. -/
inductive Meets (len : Nat → Nat) (through hit : Nat → Prop) (stop : Nat) : Nat → Prop
  | here {p : Nat} : p < stop → hit p → Meets len through hit stop p
  | next {p : Nat} : p < stop → through p → Meets len through hit stop (p + len p) →
      Meets len through hit stop p

/-- A walk over records that satisfy `through` gets to `stop` or beyond. -/
inductive Passes (len : Nat → Nat) (through : Nat → Prop) (stop : Nat) : Nat → Prop
  | arrive {p : Nat} : stop ≤ p → Passes len through stop p
  | next {p : Nat} : p < stop → through p → Passes len through stop (p + len p) →
      Passes len through stop p

/-! ## Tilings -/

theorem Tiles.le_stop (tiles : Tiles len least stop p ps) : p ≤ stop := by
  cases tiles with
  | nil => exact Nat.le_refl _
  | cons before _ _ _ => exact Nat.le_of_lt before

theorem Tiles.unique {qs : List Nat} (left : Tiles len least stop p ps)
    (right : Tiles len least stop p qs) : ps = qs := by
  induction left generalizing qs with
  | nil =>
      cases right with
      | nil => rfl
      | cons before _ _ _ => exact (Nat.lt_irrefl _ before).elim
  | cons before _ _ _ ih =>
      cases right with
      | nil => exact (Nat.lt_irrefl _ before).elim
      | cons _ _ _ rest => rw [ih rest]

/-- Every record of a tiling lies inside the range it tiles. -/
theorem Tiles.inside (tiles : Tiles len least stop p ps) {q : Nat} (member : q ∈ ps) :
    p ≤ q ∧ q < stop ∧ least ≤ len q ∧ q + len q ≤ stop := by
  induction tiles with
  | nil => cases member
  | cons before long fits _ ih =>
      rcases List.mem_cons.mp member with rfl | later
      · exact ⟨Nat.le_refl _, before, long, fits⟩
      · obtain ⟨after, rest⟩ := ih later
        exact ⟨by omega, rest⟩

/-- A walk follows a tiling to its end. -/
theorem Tiles.passes (tiles : Tiles len least stop p ps)
    (allowed : ∀ q, p ≤ q → q < stop → least ≤ len q → q + len q ≤ stop → through q) :
    Passes len through stop p := by
  induction tiles with
  | nil => exact .arrive (Nat.le_refl _)
  | cons before long fits _ ih =>
      exact .next before (allowed _ (Nat.le_refl _) before long fits)
        (ih fun q after => allowed q (by omega))

/-- Two adjacent tilings make one. -/
theorem Tiles.append {middle : Nat} {qs : List Nat}
    (left : Tiles len least middle p ps) (right : Tiles len least stop middle qs) :
    Tiles len least stop p (ps ++ qs) := by
  induction left with
  | nil => exact right
  | cons before long fits _ ih =>
      have le := right.le_stop
      exact .cons (by omega) long (by omega) ih

/-! ## Walks -/

/-- Where the records a walk goes over are nonempty, it ends in one of three
ways: at the stop, at a record of no length, or at one it does not go over. -/
theorem walk_cases (through : Nat → Prop) (len : Nat → Nat) (stop p : Nat) :
    Passes len (fun q => 0 < len q ∧ through q) stop p ∨
      Meets len (fun q => 0 < len q ∧ through q) (fun q => len q = 0) stop p ∨
      Meets len (fun q => 0 < len q ∧ through q) (fun q => ¬ through q) stop p := by
  -- induction on the distance left, which every record gone over shortens
  induction distance : stop - p using Nat.strongRecOn generalizing p with
  | ind d ih =>
      by_cases before : p < stop
      · by_cases empty : len p = 0
        · exact Or.inr (Or.inl (.here before empty))
        by_cases allowed : through p
        · have step : 0 < len p ∧ through p := ⟨by omega, allowed⟩
          rcases ih (stop - (p + len p)) (by omega) (p + len p) rfl with
            passes | zero | blocked
          · exact Or.inl (.next before step passes)
          · exact Or.inr (Or.inl (.next before step zero))
          · exact Or.inr (Or.inr (.next before step blocked))
        · exact Or.inr (Or.inr (.here before allowed))
      · exact Or.inl (.arrive (by omega))

theorem Passes.not_meets (passes : Passes len through stop p)
    (excludes : ∀ q, through q → ¬ hit q) : ¬ Meets len through hit stop p := by
  induction passes with
  | arrive after =>
      intro meets
      cases meets <;> omega
  | next _ allowed _ ih =>
      intro meets
      cases meets with
      | here _ met => exact excludes _ allowed met
      | next _ _ later => exact ih later

theorem Meets.mono {through' hit' : Nat → Prop} (meets : Meets len through hit stop p)
    (through_le : ∀ q, through q → through' q) (hit_le : ∀ q, hit q → hit' q) :
    Meets len through' hit' stop p := by
  induction meets with
  | here before met => exact .here before (hit_le _ met)
  | next before allowed _ ih => exact .next before (through_le _ allowed) ih

end IpxWrapper.Base.Chain
