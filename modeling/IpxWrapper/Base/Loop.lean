import Mathlib.Order.Basic
import Mathlib.Tactic.Common

/-!
# Loops given by a body

A C loop is a body that either goes round again with a new loop state or leaves
the loop with a result. `Iter` is one pass through the body, `run body n s` is
the loop after at most `n` passes, and the definitions stay total: a loop that
is still going after `n` passes shows the state it has reached.

* `Yields body s a`: some number of passes leaves the loop with `a`. The result
  is unique (`Yields.unique`) and further passes do not change it (`run_mono`).
* `Halts body s`: the loop leaves with some result. `run_of_measure` is the
  variant rule and `not_halts_of_stays` its converse for a loop that an
  invariant keeps going.
* `Visits body s t`: the loop, started at `s`, begins a pass in state `t`.
-/

namespace IpxWrapper.Base

/-- One pass through a loop body: go round again, or leave with a result. -/
inductive Iter (σ α : Type) where
  | next (s : σ)
  | done (a : α)
deriving DecidableEq, Repr

namespace Loop

variable {σ α : Type} {body : σ → Iter σ α}

/-- The loop after at most `n` passes. -/
def run (body : σ → Iter σ α) : Nat → σ → Iter σ α
  | 0, s => .next s
  | n + 1, s =>
      match body s with
      | .next s' => run body n s'
      | .done a => .done a

/-- Some number of passes leaves the loop with `a`. -/
def Yields (body : σ → Iter σ α) (s : σ) (a : α) : Prop :=
  ∃ n, run body n s = .done a

/-- The loop is left after some number of passes. -/
def Halts (body : σ → Iter σ α) (s : σ) : Prop :=
  ∃ a, Yields body s a

/-- A pass of the loop begins in state `t`. -/
def Visits (body : σ → Iter σ α) (s t : σ) : Prop :=
  ∃ n, run body n s = .next t

@[simp] theorem run_zero (s : σ) : run body 0 s = .next s := rfl

theorem run_succ_of_next {s s' : σ} (pass : body s = .next s') (n : Nat) :
    run body (n + 1) s = run body n s' := by
  simp only [run, pass]

theorem run_succ_of_done {s : σ} {a : α} (pass : body s = .done a) (n : Nat) :
    run body (n + 1) s = .done a := by
  simp only [run, pass]

/-- Passes made after the loop has been left change nothing. -/
theorem run_mono {n m : Nat} {s : σ} {a : α} (left : run body n s = .done a)
    (le : n ≤ m) : run body m s = .done a := by
  induction n generalizing s m with
  | zero => cases left
  | succ n ih =>
      obtain ⟨m, rfl⟩ : ∃ k, m = k + 1 := ⟨m - 1, by omega⟩
      cases pass : body s with
      | done b =>
          rw [run_succ_of_done pass] at left ⊢
          exact left
      | next s' =>
          rw [run_succ_of_next pass] at left ⊢
          exact ih left (by omega)

theorem Yields.unique {s : σ} {a b : α} (left : Yields body s a)
    (right : Yields body s b) : a = b := by
  obtain ⟨n, hn⟩ := left
  obtain ⟨m, hm⟩ := right
  have atMax := run_mono hn (Nat.le_max_left n m)
  rw [run_mono hm (Nat.le_max_right n m)] at atMax
  exact (Iter.done.inj atMax).symm

theorem Yields.halts {s : σ} {a : α} (yields : Yields body s a) : Halts body s :=
  ⟨a, yields⟩

theorem yields_of_done {s : σ} {a : α} (pass : body s = .done a) : Yields body s a :=
  ⟨1, run_succ_of_done pass 0⟩

theorem yields_iff_of_next {s s' : σ} {a : α} (pass : body s = .next s') :
    Yields body s a ↔ Yields body s' a := by
  constructor
  · intro yields
    rcases yields with ⟨n, h⟩
    cases n with
    | zero => cases h
    | succ n => exact ⟨n, by rwa [run_succ_of_next pass] at h⟩
  · intro yields
    rcases yields with ⟨n, h⟩
    exact ⟨n + 1, by rwa [run_succ_of_next pass]⟩

theorem halts_iff_of_next {s s' : σ} (pass : body s = .next s') :
    Halts body s ↔ Halts body s' :=
  exists_congr fun _ => yields_iff_of_next pass

theorem Visits.refl (s : σ) : Visits body s s := ⟨0, rfl⟩

/-! ## Invariants -/

/-- What every pass preserves holds of every state the loop visits. -/
theorem Visits.invariant {I : σ → Prop}
    (preserved : ∀ s s', I s → body s = .next s' → I s')
    {s t : σ} (start : I s) (visits : Visits body s t) : I t := by
  obtain ⟨n, h⟩ := visits
  induction n generalizing s with
  | zero =>
      cases h
      exact start
  | succ n ih =>
      cases pass : body s with
      | done a => rw [run_succ_of_done pass] at h; cases h
      | next s' =>
          rw [run_succ_of_next pass] at h
          exact ih (preserved s s' start pass) h

/-- Partial correctness: an invariant and an exit condition give the
postcondition of a loop that is left. -/
theorem Yields.post {I : σ → Prop} {P : α → Prop}
    (preserved : ∀ s s', I s → body s = .next s' → I s')
    (exit : ∀ s a, I s → body s = .done a → P a)
    {s : σ} {a : α} (start : I s) (yields : Yields body s a) : P a := by
  obtain ⟨n, h⟩ := yields
  induction n generalizing s with
  | zero => cases h
  | succ n ih =>
      cases pass : body s with
      | done b =>
          rw [run_succ_of_done pass] at h
          cases h
          exact exit s a start pass
      | next s' =>
          rw [run_succ_of_next pass] at h
          exact ih (preserved s s' start pass) h

/-! ## Termination and divergence -/

/-- The variant rule, with the number of passes it allows: under an invariant
that decreases a measure, the loop is left within `measure s + 1` passes. -/
theorem run_of_measure {I : σ → Prop} (measure : σ → Nat)
    (decreases : ∀ s s', I s → body s = .next s' → I s' ∧ measure s' < measure s)
    {s : σ} (start : I s) : ∃ a, run body (measure s + 1) s = .done a := by
  suffices bounded : ∀ n s, I s → measure s ≤ n → ∃ a, run body (n + 1) s = .done a from
    bounded _ s start (Nat.le_refl _)
  intro n
  induction n with
  | zero =>
      intro s hs small
      cases pass : body s with
      | done a => exact ⟨a, run_succ_of_done pass 0⟩
      | next s' =>
          have := (decreases s s' hs pass).2
          omega
  | succ n ih =>
      intro s hs small
      cases pass : body s with
      | done a => exact ⟨a, run_succ_of_done pass _⟩
      | next s' =>
          obtain ⟨hs', less⟩ := decreases s s' hs pass
          obtain ⟨a, h⟩ := ih s' hs' (by omega)
          exact ⟨a, by rw [run_succ_of_next pass]; exact h⟩

/-- A loop whose every pass, under an invariant, goes round again is never left. -/
theorem not_halts_of_stays {I : σ → Prop}
    (stays : ∀ s, I s → ∃ s', body s = .next s' ∧ I s')
    {s : σ} (start : I s) : ¬ Halts body s := by
  intro halts
  rcases halts with ⟨a, n, h⟩
  induction n generalizing s with
  | zero => cases h
  | succ n ih =>
      obtain ⟨s', pass, hs'⟩ := stays s start
      rw [run_succ_of_next pass] at h
      exact ih hs' h

/-- A loop that is left is left from every state it visits. -/
theorem Visits.halts_iff {s t : σ} (visits : Visits body s t) :
    Halts body s ↔ Halts body t := by
  obtain ⟨n, h⟩ := visits
  induction n generalizing s with
  | zero =>
      cases h
      exact Iff.rfl
  | succ n ih =>
      cases pass : body s with
      | done a => rw [run_succ_of_done pass] at h; cases h
      | next s' =>
          rw [run_succ_of_next pass] at h
          rw [halts_iff_of_next pass]
          exact ih h

end Loop

end IpxWrapper.Base
