import Mathlib.Data.List.Basic
import Mathlib.Tactic.Common

/-!
# The last entries of a history

`window n blank history` is what an array of `n` entries holds that is shifted by one
place for each entry added: the last `n` of them, oldest first, behind blanks while
there are fewer. Where a property only ever begins to hold along the history, the
oldest entry alone decides whether `n` entries have it (`le_countP_iff`).
-/

namespace IpxWrapper.Base

variable {α : Type} {n : Nat} {blank : α} {history : List α} {p : α → Bool}

def window (n : Nat) (blank : α) (history : List α) : List α :=
  (List.replicate n blank ++ history).drop history.length

@[simp] theorem window_nil : window n blank [] = List.replicate n blank := by
  simp [window]

/-- Shifting out the oldest entry makes room for the next. -/
theorem window_concat (pos : 0 < n) (x : α) :
    (window n blank history).tail ++ [x] = window n blank (history ++ [x]) := by
  have inside : history.length + 1 ≤ (List.replicate n blank ++ history).length := by
    rw [List.length_append, List.length_replicate]
    omega
  unfold window
  rw [List.tail_drop, List.length_append, List.length_singleton, ← List.append_assoc,
    List.drop_append_of_le_length inside]

/-- Once the history is long enough there are no blanks. -/
theorem window_of_le (le : n ≤ history.length) :
    window n blank history = history.drop (history.length - n) := by
  unfold window
  rw [List.drop_append, List.length_replicate,
    List.drop_eq_nil_of_le (by rw [List.length_replicate]; exact le), List.nil_append]

theorem headD_window_of_lt (short : history.length < n) :
    (window n blank history).headD blank = blank := by
  obtain ⟨k, missing⟩ : ∃ k, n - history.length = k + 1 := ⟨n - history.length - 1, by omega⟩
  have inside : history.length ≤ (List.replicate n blank).length := by
    rw [List.length_replicate]
    omega
  unfold window
  rw [List.drop_append_of_le_length inside, List.drop_replicate, missing, List.replicate_succ]
  rfl

theorem headD_window_mem : (window n blank history).headD blank ∈ blank :: history := by
  rcases last : window n blank history with _ | ⟨x, rest⟩
  · exact List.mem_cons_self
  have member : x ∈ window n blank history := by
    rw [last]
    exact List.mem_cons_self
  rcases List.mem_append.mp (List.mem_of_mem_drop member) with filled | entry
  · rw [List.headD_cons, List.eq_of_mem_replicate filled]
    exact List.mem_cons_self
  · exact List.mem_cons_of_mem blank entry

/-- The oldest of the last `n` entries tells whether `n` entries have a property that
every entry has from the first that has it. -/
theorem le_countP_iff (pos : 0 < n) (blank : α) (long : n ≤ history.length)
    (onwards : history.Pairwise fun x y => p x → p y) :
    n ≤ history.countP p ↔ p ((window n blank history).headD blank) := by
  have size : (history.drop (history.length - n)).length = n := by
    rw [List.length_drop]
    omega
  rw [window_of_le long]
  rw [← List.take_append_drop (history.length - n) history] at onwards
  have count : history.countP p = (history.take (history.length - n)).countP p +
      (history.drop (history.length - n)).countP p := by
    rw [← List.countP_append, List.take_append_drop]
  rcases last : history.drop (history.length - n) with _ | ⟨x, rest⟩
  · rw [last, List.length_nil] at size
    omega
  rw [last] at size onwards count
  obtain ⟨-, latest, before⟩ := List.pairwise_append.mp onwards
  obtain ⟨after, -⟩ := List.pairwise_cons.mp latest
  rw [count, List.headD_cons]
  constructor
  · intro enough
    by_contra old
    -- Neither the oldest entry nor one before it has the property.
    have none_before : (history.take (history.length - n)).countP p = 0 :=
      List.countP_eq_zero.mpr fun y member has => old (before y member x List.mem_cons_self has)
    have few := List.countP_le_length (p := p) (l := rest)
    rw [none_before, List.countP_cons_of_neg old] at enough
    rw [List.length_cons] at size
    omega
  · intro has
    have all_last : (x :: rest).countP p = (x :: rest).length := by
      rw [List.countP_eq_length]
      intro y member
      rcases List.mem_cons.mp member with rfl | later
      · exact has
      · exact after y later has
    rw [all_last, size]
    omega

end IpxWrapper.Base
