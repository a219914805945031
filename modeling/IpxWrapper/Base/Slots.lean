import Mathlib.Data.List.Nodup
import Mathlib.Data.Fintype.Card
import Mathlib.Tactic.Common

/-!
# Slots that are free, owned or queued

A pool of `n` slots: a slot is owned by a task that fills it, or waits in a
queue, or is free. `Slots` carries the proof that no slot is in two of these
places or in one of them twice, so that a task that gives its slot up always
finds room for it in the queue.
-/

namespace IpxWrapper.Base

/-! ## Lists of tasks -/

section Tasks

variable {α β : Type} {tasks : List α} {f : α → Option β} {a : α} {k : Nat}

/-- Task `k`, and then the others. -/
theorem perm_of_getElem? (at_k : tasks[k]? = some a) : tasks.Perm (a :: tasks.eraseIdx k) := by
  obtain ⟨bound, rfl⟩ := List.getElem?_eq_some_iff.mp at_k
  exact (List.getElem_cons_eraseIdx_perm bound).symm

theorem mem_iff_of_getElem? (at_k : tasks[k]? = some a) {b : α} :
    b ∈ tasks ↔ b = a ∨ b ∈ tasks.eraseIdx k := by
  rw [(perm_of_getElem? at_k).mem_iff, List.mem_cons]

/-- What task `k` holds, and then what the others hold. -/
theorem filterMap_perm_of_getElem? (at_k : tasks[k]? = some a) :
    (tasks.filterMap f).Perm ((f a).toList ++ (tasks.eraseIdx k).filterMap f) := by
  refine ((perm_of_getElem? at_k).filterMap f).trans (List.Perm.of_eq ?_)
  cases held : f a with
  | none => rw [List.filterMap_cons_none held]; rfl
  | some b => rw [List.filterMap_cons_some held]; rfl

theorem filterMap_set_perm (at_k : tasks[k]? = some a) (b : α) :
    ((tasks.set k b).filterMap f).Perm ((f b).toList ++ (tasks.eraseIdx k).filterMap f) := by
  have bound := (List.getElem?_eq_some_iff.mp at_k).1
  have at_k' : (tasks.set k b)[k]? = some b := List.getElem?_set_self bound
  rw [← List.eraseIdx_set_eq (l := tasks) (a := b)]
  exact filterMap_perm_of_getElem? at_k'

end Tasks

/-! ## Slots -/

structure Slots (n : Nat) where
  queued : List (Fin n)
  /-- The slots of the tasks, in the order of the tasks. -/
  owned : List (Fin n)
  distinct : (queued ++ owned).Nodup

namespace Slots

variable {n : Nat} {slots : Slots n} {i j : Fin n} {k : Nat}

def empty : Slots n := ⟨[], [], List.nodup_nil⟩

def IsFree (slots : Slots n) (i : Fin n) : Prop := i ∉ slots.queued ∧ i ∉ slots.owned

theorem not_owned_of_queued (slots : Slots n) (queued : i ∈ slots.queued) : i ∉ slots.owned :=
  fun owned => (List.nodup_append.mp slots.distinct).2.2 i queued i owned rfl

/-- A new task claims a free slot. -/
def claim (slots : Slots n) (i : Fin n) (free : slots.IsFree i) : Slots n where
  queued := slots.queued
  owned := slots.owned ++ [i]
  distinct := by
    rw [← List.append_assoc]
    refine List.nodup_append.mpr ⟨slots.distinct, List.nodup_singleton i, ?_⟩
    intro j member k last same
    rw [List.mem_singleton.mp last] at same
    subst same
    rcases List.mem_append.mp member with queued | owned
    · exact free.1 queued
    · exact free.2 owned

/-- Task `k` ends and gives its slot back. -/
def discard (slots : Slots n) (k : Nat) : Slots n where
  queued := slots.queued
  owned := slots.owned.eraseIdx k
  distinct := slots.distinct.sublist
    ((List.Sublist.refl _).append (List.eraseIdx_sublist _ k))

theorem mem_owned_iff (at_k : slots.owned[k]? = some i) :
    j ∈ slots.owned ↔ j = i ∨ j ∈ slots.owned.eraseIdx k :=
  mem_iff_of_getElem? at_k

theorem not_mem_eraseIdx (at_k : slots.owned[k]? = some i) : i ∉ slots.owned.eraseIdx k := by
  have owned := (List.nodup_append.mp slots.distinct).2.1
  rw [(perm_of_getElem? at_k).nodup_iff, List.nodup_cons] at owned
  exact owned.1

/-- Task `k` ends and its slot goes to the end of the queue. -/
def complete (slots : Slots n) (k : Nat) (i : Fin n) (at_k : slots.owned[k]? = some i) :
    Slots n where
  queued := slots.queued ++ [i]
  owned := slots.owned.eraseIdx k
  distinct := by
    refine List.Perm.nodup ?_ slots.distinct
    rw [List.append_assoc]
    exact (perm_of_getElem? at_k).append_left _

/-- The slot at the front of the queue becomes free. -/
def dequeue (slots : Slots n) : Slots n where
  queued := slots.queued.tail
  owned := slots.owned
  distinct := slots.distinct.sublist ((List.tail_sublist _).append (List.Sublist.refl _))

theorem length_le (slots : Slots n) : slots.queued.length + slots.owned.length ≤ n := by
  have bound := slots.distinct.length_le_card
  rwa [List.length_append, Fintype.card_fin] at bound

/-- A pool that is not used up has a free slot. -/
theorem exists_isFree (room : slots.queued.length + slots.owned.length < n) :
    ∃ i, slots.IsFree i := by
  by_contra nowhere
  have used : (Finset.univ : Finset (Fin n)) ⊆ (slots.queued ++ slots.owned).toFinset := by
    intro i _
    rw [List.mem_toFinset, List.mem_append]
    by_contra unused
    exact nowhere ⟨i, not_or.mp unused⟩
  have bound := (Finset.card_le_card used).trans (List.toFinset_card_le _)
  rw [Finset.card_univ, Fintype.card_fin, List.length_append] at bound
  omega

/-- While a task owns a slot there is room in the queue. -/
theorem length_lt_of_owned (owned : i ∈ slots.owned) : slots.queued.length < n := by
  have some' := List.length_pos_of_mem owned
  have bound := slots.length_le
  omega

theorem isFree_claim_iff (free : slots.IsFree i) :
    (slots.claim i free).IsFree j ↔ slots.IsFree j ∧ j ≠ i := by
  unfold IsFree claim
  simp only [List.mem_append, List.mem_singleton, not_or]
  exact ⟨fun h => ⟨⟨h.1, h.2.1⟩, h.2.2⟩, fun h => ⟨h.1.1, h.1.2, h.2⟩⟩

theorem isFree_discard_iff (at_k : slots.owned[k]? = some i) :
    (slots.discard k).IsFree j ↔ slots.IsFree j ∨ j = i := by
  unfold IsFree discard
  simp only [mem_owned_iff at_k (j := j)]
  constructor
  · intro h
    by_cases same : j = i
    · exact Or.inr same
    · exact Or.inl ⟨h.1, fun owned => owned.elim same h.2⟩
  · intro h
    rcases h with free | rfl
    · exact ⟨free.1, fun later => free.2 (Or.inr later)⟩
    · refine ⟨fun queued => ?_, not_mem_eraseIdx at_k⟩
      exact slots.not_owned_of_queued queued (List.mem_of_getElem? at_k)

theorem isFree_complete_iff (at_k : slots.owned[k]? = some i) :
    (slots.complete k i at_k).IsFree j ↔ slots.IsFree j := by
  unfold IsFree complete
  simp only [mem_owned_iff at_k (j := j), List.mem_append, List.mem_singleton, not_or]
  exact ⟨fun h => ⟨h.1.1, h.1.2, h.2⟩, fun h => ⟨⟨h.1, h.2.1⟩, h.2.2⟩⟩

theorem isFree_dequeue_iff {rest : List (Fin n)} (front : slots.queued = i :: rest) :
    slots.dequeue.IsFree j ↔ slots.IsFree j ∨ j = i := by
  have distinct := slots.distinct
  rw [front, List.cons_append, List.nodup_cons, List.mem_append] at distinct
  unfold IsFree
  change j ∉ slots.queued.tail ∧ j ∉ slots.owned ↔ _
  rw [front]
  simp only [List.tail_cons, List.mem_cons, not_or]
  constructor
  · intro h
    by_cases same : j = i
    · exact Or.inr same
    · exact Or.inl ⟨⟨same, h.1⟩, h.2⟩
  · intro h
    rcases h with free | rfl
    · exact ⟨free.1.2, free.2⟩
    · exact ⟨fun later => distinct.1 (Or.inl later), fun owned => distinct.1 (Or.inr owned)⟩

end Slots

end IpxWrapper.Base
