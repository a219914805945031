import Mathlib.Data.List.Basic
import Mathlib.Tactic.Common

/-!
# Runs of a partial step function

A system that reacts to inputs, each enabled in some states only, is a function
`step : ι → σ → Option σ`. A run is given by the inputs that arrive; `moves`
lists the steps it makes, with the state before and after each, up to the first
input that is not enabled. What holds of every move of every run holds in every
reachable state, whatever the order of the inputs.
-/

namespace IpxWrapper.Base

/-- One step of a run. -/
structure Move (ι σ : Type) where
  before : σ
  input : ι
  after : σ

section Moves

variable {ι σ : Type} {step : ι → σ → Option σ} {inputs : List ι} {s : σ}

/-- The steps a run makes. -/
def moves (step : ι → σ → Option σ) : List ι → σ → List (Move ι σ)
  | [], _ => []
  | x :: rest, s =>
      match step x s with
      | none => []
      | some s' => ⟨s, x, s'⟩ :: moves step rest s'

theorem moves_cons_of_some {x : ι} {s' : σ} (enabled : step x s = some s') (rest : List ι) :
    moves step (x :: rest) s = ⟨s, x, s'⟩ :: moves step rest s' := by
  simp only [moves, enabled]

theorem moves_cons_of_none {x : ι} (disabled : step x s = none) (rest : List ι) :
    moves step (x :: rest) s = [] := by
  simp only [moves, disabled]

/-- What every step keeps, as long as each move satisfies `G`, holds before and
after each move of a run of such moves; what holds of a move then holds of each. -/
theorem moves_induct {I : σ → Prop} {G Q : Move ι σ → Prop} (start : I s)
    (guarded : ∀ m ∈ moves step inputs s, G m)
    (keeps : ∀ m, I m.before → step m.input m.before = some m.after → G m → I m.after ∧ Q m) :
    ∀ m ∈ moves step inputs s, I m.before ∧ I m.after ∧ Q m := by
  induction inputs generalizing s with
  | nil =>
      intro m member
      cases member
  | cons x rest ih =>
      cases enabled : step x s with
      | none =>
          rw [moves_cons_of_none enabled]
          intro m member
          cases member
      | some s' =>
          rw [moves_cons_of_some enabled] at guarded ⊢
          obtain ⟨kept, holds⟩ := keeps ⟨s, x, s'⟩ start enabled (guarded _ List.mem_cons_self)
          intro m member
          rcases List.mem_cons.mp member with rfl | later
          · exact ⟨start, kept, holds⟩
          · exact ih kept (fun m later => guarded m (List.mem_cons_of_mem _ later)) m later

/-- What holds at the start, when nothing has happened, and every step keeps, holds before each
move of a run of the moves before it. -/
theorem moves_history {I : List (Move ι σ) → σ → Prop} (start : I [] s)
    (keeps : ∀ past m, I past m.before → step m.input m.before = some m.after →
      I (past ++ [m]) m.after) {n : Nat} {m : Move ι σ}
    (at_n : (moves step inputs s)[n]? = some m) : I ((moves step inputs s).take n) m.before := by
  induction inputs generalizing s n I with
  | nil => cases at_n
  | cons x rest ih =>
      cases enabled : step x s with
      | none =>
          rw [moves_cons_of_none enabled] at at_n
          cases at_n
      | some s' =>
          rw [moves_cons_of_some enabled] at at_n ⊢
          cases n with
          | zero =>
              obtain rfl := Option.some.inj at_n
              exact start
          | succ n =>
              have first : I [⟨s, x, s'⟩] s' := keeps [] ⟨s, x, s'⟩ start enabled
              -- The first move is in front of all that follow.
              exact ih (I := fun past => I (⟨s, x, s'⟩ :: past)) first
                (fun past => keeps (⟨s, x, s'⟩ :: past)) at_n

/-- Every move of a run is a step. -/
theorem step_of_mem_moves {m : Move ι σ} (member : m ∈ moves step inputs s) :
    step m.input m.before = some m.after :=
  (moves_induct (I := fun _ => True) (G := fun _ => True)
    (Q := fun m => step m.input m.before = some m.after) trivial (fun _ _ => trivial)
    (fun _ _ enabled _ => ⟨trivial, enabled⟩) m member).2.2

/-- The input of a move is one of those that arrive. -/
theorem input_of_mem_moves {m : Move ι σ} (member : m ∈ moves step inputs s) : m.input ∈ inputs := by
  induction inputs generalizing s with
  | nil => cases member
  | cons x rest ih =>
      cases enabled : step x s with
      | none =>
          rw [moves_cons_of_none enabled] at member
          cases member
      | some s' =>
          rw [moves_cons_of_some enabled] at member
          rcases List.mem_cons.mp member with rfl | later
          · exact List.mem_cons_self
          · exact List.mem_cons_of_mem x (ih later)

end Moves

end IpxWrapper.Base
