import Mathlib.Data.List.Perm.Basic
import Mathlib.Data.List.Nodup
import Mathlib.Tactic.Common

/-!
# A ledger of items in queues

Items are numbered in the order they are submitted. Each is in hand, waiting in
one of several queues, or gone in one of the batches that have left; a batch is
a whole queue or a single item. `Conserves` says that every item submitted is in
exactly one of these places, `Ordered dest` that items for one destination leave
in the order they were submitted. Each operation preserves the first; the second
survives if a queue is only passed by items for other destinations.
-/

namespace IpxWrapper.Base

structure Ledger where
  /-- How many items have been submitted: `0, …, submitted - 1`. -/
  submitted : Nat
  /-- The latest item, while it is in none of the places. -/
  inHand : Option Nat
  /-- The batches that have left, oldest first. -/
  out : List (List Nat)
  queued : List (List Nat)

namespace Ledger

def empty : Ledger := ⟨0, none, [], []⟩

def submit (l : Ledger) : Ledger :=
  { l with submitted := l.submitted + 1, inHand := some l.submitted }

def openQueue (l : Ledger) : Ledger :=
  { l with queued := l.queued ++ [[]] }

/-- Put the item in hand at the end of queue `i`. -/
def enqueue (l : Ledger) (i : Nat) : Ledger :=
  { l with inHand := none, queued := l.queued.modify i (· ++ l.inHand.toList) }

/-- Let queue `i` leave as one batch. -/
def flush (l : Ledger) (i : Nat) : Ledger :=
  { l with out := l.out ++ [l.queued.getD i []], queued := l.queued.set i [] }

/-- Let the item in hand leave as a batch of its own. -/
def sendNow (l : Ledger) : Ledger :=
  { l with inHand := none, out := l.out ++ [l.inHand.toList] }

/-- Take the queues away. -/
def closeQueues (l : Ledger) : Ledger :=
  { l with queued := [] }

/-- Every item that is somewhere. -/
def items (l : Ledger) : List Nat :=
  l.inHand.toList ++ (l.out.flatten ++ l.queued.flatten)

/-- Each item submitted is in exactly one place, and in hand or in the order of
submission in its batch or queue. -/
structure Conserves (l : Ledger) : Prop where
  once : l.items.Perm (List.range l.submitted)
  latest : ∀ n, l.inHand = some n → n + 1 = l.submitted
  out_rising : ∀ batch ∈ l.out, batch.Pairwise (· < ·)
  queued_rising : ∀ queue ∈ l.queued, queue.Pairwise (· < ·)

/-- Items for one destination have left, and will leave, in order. -/
structure Ordered {κ : Type} (dest : Nat → κ) (l : Ledger) : Prop where
  out_rising : l.out.flatten.Pairwise fun p q => dest p = dest q → p < q
  out_before : ∀ p ∈ l.out.flatten, ∀ q ∈ l.queued.flatten, dest p = dest q → p < q
  one_queue : ∀ (i j : Nat) (ps qs : List Nat), l.queued[i]? = some ps →
    l.queued[j]? = some qs → i ≠ j → ∀ p ∈ ps, ∀ q ∈ qs, dest p ≠ dest q

/-! ## Replacing one queue -/

/-- Replacing one list of several replaces its items among all the items. -/
theorem flatten_set_perm {ls : List (List Nat)} {i : Nat} {old : List Nat} (new : List Nat)
    (at_i : ls[i]? = some old) :
    ∃ others, ls.flatten.Perm (old ++ others) ∧ (ls.set i new).flatten.Perm (new ++ others) := by
  obtain ⟨bound, rfl⟩ := List.getElem?_eq_some_iff.mp at_i
  refine ⟨(ls.eraseIdx i).flatten, ?_, ?_⟩
  · exact (List.getElem_cons_eraseIdx_perm bound).symm.flatten
  · exact (List.set_perm_cons_eraseIdx bound new).flatten

theorem mem_flatten_of_getElem? {ls : List (List Nat)} {i n : Nat} {queue : List Nat}
    (at_i : ls[i]? = some queue) (member : n ∈ queue) : n ∈ ls.flatten :=
  List.mem_flatten.mpr ⟨queue, List.mem_of_getElem? at_i, member⟩

theorem enqueue_queued {l : Ledger} {i : Nat} {queue : List Nat}
    (at_i : l.queued[i]? = some queue) :
    (l.enqueue i).queued = l.queued.set i (queue ++ l.inHand.toList) := by
  obtain ⟨bound, rfl⟩ := List.getElem?_eq_some_iff.mp at_i
  simp only [enqueue, List.modify_eq_set_getElem?, List.getElem?_eq_getElem bound]
  rfl

theorem flush_out {l : Ledger} {i : Nat} {queue : List Nat}
    (at_i : l.queued[i]? = some queue) : (l.flush i).out = l.out ++ [queue] := by
  simp only [flush, List.getD_eq_getElem?_getD, at_i, Option.getD_some]

/-! ## Conservation -/

theorem empty_conserves : empty.Conserves where
  once := List.Perm.refl _
  latest := fun _ held => by cases held
  out_rising := fun _ member => by cases member
  queued_rising := fun _ member => by cases member

theorem Conserves.items_lt {l : Ledger} (h : l.Conserves) {n : Nat} (member : n ∈ l.items) :
    n < l.submitted :=
  List.mem_range.mp (h.once.mem_iff.mp member)

theorem Conserves.items_nodup {l : Ledger} (h : l.Conserves) : l.items.Nodup :=
  h.once.nodup_iff.mpr List.nodup_range

/-- An item already placed was submitted before the one in hand. -/
theorem Conserves.placed_lt {l : Ledger} (h : l.Conserves) {n p : Nat}
    (held : l.inHand = some n) (placed : p ∈ l.out.flatten ++ l.queued.flatten) : p < n := by
  have distinct := h.items_nodup
  have bound : p < l.submitted := h.items_lt (List.mem_append_right _ placed)
  have latest := h.latest n held
  unfold items at distinct
  rw [held, Option.toList_some, List.singleton_append, List.nodup_cons] at distinct
  have ne : p ≠ n := by
    intro same
    subst same
    exact distinct.1 placed
  omega

theorem Conserves.submit {l : Ledger} (h : l.Conserves) (free : l.inHand = none) :
    l.submit.Conserves where
  once := by
    have once := h.once
    unfold items at once
    rw [free, Option.toList_none, List.nil_append] at once
    unfold Ledger.submit items
    rw [List.range_succ]
    have last : ([l.submitted] ++ List.range l.submitted).Perm
        (List.range l.submitted ++ [l.submitted]) := List.perm_append_comm
    exact (once.cons l.submitted).trans last
  latest := fun n held => by cases held; rfl
  out_rising := h.out_rising
  queued_rising := h.queued_rising

theorem Conserves.openQueue {l : Ledger} (h : l.Conserves) : l.openQueue.Conserves where
  once := by
    unfold Ledger.openQueue items
    rw [List.flatten_append, List.flatten_singleton, List.append_nil]
    exact h.once
  latest := h.latest
  out_rising := h.out_rising
  queued_rising := fun queue member => by
    rcases List.mem_append.mp member with old | new
    · exact h.queued_rising queue old
    · rw [List.mem_singleton.mp new]
      exact List.Pairwise.nil

theorem Conserves.enqueue {l : Ledger} (h : l.Conserves) {i n : Nat} {queue : List Nat}
    (held : l.inHand = some n) (at_i : l.queued[i]? = some queue) :
    (l.enqueue i).Conserves where
  once := by
    refine List.Perm.trans ?_ h.once
    obtain ⟨others, before, after⟩ := flatten_set_perm (queue ++ [n]) at_i
    unfold items
    rw [enqueue_queued at_i, held]
    change (l.out.flatten ++ (l.queued.set i (queue ++ [n])).flatten).Perm
      ([n] ++ (l.out.flatten ++ l.queued.flatten))
    calc (l.out.flatten ++ (l.queued.set i (queue ++ [n])).flatten).Perm
          (l.out.flatten ++ (queue ++ [n] ++ others)) := after.append_left _
      _ |>.Perm (l.out.flatten ++ ([n] ++ (queue ++ others))) := by
          refine List.Perm.append_left _ ?_
          rw [← List.append_assoc]
          exact List.perm_append_comm.append_right others
      _ |>.Perm ([n] ++ (l.out.flatten ++ (queue ++ others))) := List.perm_append_comm_assoc _ _ _
      _ |>.Perm ([n] ++ (l.out.flatten ++ l.queued.flatten)) :=
          (before.symm.append_left _).append_left _
  latest := fun _ held => by cases held
  out_rising := h.out_rising
  queued_rising := fun q member => by
    rw [enqueue_queued at_i, held] at member
    rcases List.mem_or_eq_of_mem_set member with old | rfl
    · exact h.queued_rising q old
    · refine List.pairwise_append.mpr
        ⟨h.queued_rising _ (List.mem_of_getElem? at_i), List.pairwise_singleton _ _,
          fun p p_in m m_in => ?_⟩
      rw [List.mem_singleton.mp m_in]
      exact h.placed_lt held
        (List.mem_append_right _ (mem_flatten_of_getElem? at_i p_in))

theorem Conserves.flush {l : Ledger} (h : l.Conserves) {i : Nat} {queue : List Nat}
    (at_i : l.queued[i]? = some queue) : (l.flush i).Conserves where
  once := by
    refine List.Perm.trans ?_ h.once
    obtain ⟨others, before, after⟩ := flatten_set_perm [] at_i
    unfold items
    rw [flush_out at_i, List.flatten_append, List.flatten_singleton]
    refine List.Perm.append_left _ ?_
    rw [List.append_assoc]
    refine List.Perm.append_left _ ?_
    exact (after.append_left queue).trans before.symm
  latest := h.latest
  out_rising := fun batch member => by
    rw [flush_out at_i] at member
    rcases List.mem_append.mp member with old | new
    · exact h.out_rising batch old
    · rw [List.mem_singleton.mp new]
      exact h.queued_rising queue (List.mem_of_getElem? at_i)
  queued_rising := fun q member => by
    rcases List.mem_or_eq_of_mem_set member with old | rfl
    · exact h.queued_rising q old
    · exact List.Pairwise.nil

theorem Conserves.sendNow {l : Ledger} (h : l.Conserves) : l.sendNow.Conserves where
  once := by
    refine List.Perm.trans ?_ h.once
    unfold Ledger.sendNow items
    rw [Option.toList_none, List.nil_append, List.flatten_append, List.flatten_singleton,
      ← List.append_assoc]
    exact List.perm_append_comm.append_right _
  latest := fun _ held => by cases held
  out_rising := fun batch member => by
    rcases List.mem_append.mp member with old | new
    · exact h.out_rising batch old
    · rw [List.mem_singleton.mp new]
      cases l.inHand with
      | none => exact List.Pairwise.nil
      | some n => exact List.pairwise_singleton _ n
  queued_rising := h.queued_rising

theorem Conserves.closeQueues {l : Ledger} (h : l.Conserves) (idle : l.queued.flatten = []) :
    l.closeQueues.Conserves where
  once := by
    have once := h.once
    unfold items at once
    rw [idle] at once
    exact once
  latest := h.latest
  out_rising := h.out_rising
  queued_rising := fun _ member => by cases member

/-! ## Order -/

section Order

variable {κ : Type} {dest : Nat → κ} {l : Ledger}

theorem empty_ordered : empty.Ordered dest where
  out_rising := List.Pairwise.nil
  out_before := fun _ member => by cases member
  one_queue := fun _ _ _ _ at_i => by cases at_i

/-- Only the destinations of items that are placed matter. -/
theorem Ordered.congr {dest' : Nat → κ} (h : l.Ordered dest)
    (same : ∀ n ∈ l.out.flatten ++ l.queued.flatten, dest n = dest' n) :
    l.Ordered dest' := by
  have gone : ∀ n ∈ l.out.flatten, dest n = dest' n :=
    fun n member => same n (List.mem_append_left _ member)
  have waiting : ∀ n ∈ l.queued.flatten, dest n = dest' n :=
    fun n member => same n (List.mem_append_right _ member)
  refine ⟨h.out_rising.imp_of_mem fun p_in q_in rising eq => ?_,
    fun p p_in q q_in eq => ?_, fun i j ps qs at_i at_j ne p p_in q q_in eq => ?_⟩
  · exact rising (by rw [gone _ p_in, gone _ q_in, eq])
  · exact h.out_before p p_in q q_in (by rw [gone p p_in, waiting q q_in, eq])
  · refine h.one_queue i j ps qs at_i at_j ne p p_in q q_in ?_
    rw [waiting p (mem_flatten_of_getElem? at_i p_in),
      waiting q (mem_flatten_of_getElem? at_j q_in), eq]

theorem Ordered.submit (h : l.Ordered dest) : l.submit.Ordered dest :=
  ⟨h.out_rising, h.out_before, h.one_queue⟩

theorem Ordered.openQueue (h : l.Ordered dest) : l.openQueue.Ordered dest where
  out_rising := h.out_rising
  out_before := fun p p_in q q_in => by
    unfold Ledger.openQueue at q_in
    rw [List.flatten_append, List.flatten_singleton, List.append_nil] at q_in
    exact h.out_before p p_in q q_in
  one_queue := fun i j ps qs at_i at_j ne p p_in q q_in => by
    have old : ∀ {k : Nat} {queue : List Nat} {n : Nat},
        (l.queued ++ [[]])[k]? = some queue → n ∈ queue → l.queued[k]? = some queue := by
      intro k queue n at_k member
      rw [List.getElem?_append] at at_k
      split at at_k
      · exact at_k
      · have : queue ∈ [([] : List Nat)] := List.mem_of_getElem? at_k
        rw [List.mem_singleton.mp this] at member
        cases member
    exact h.one_queue i j ps qs (old at_i p_in) (old at_j q_in) ne p p_in q q_in

/-- Queueing keeps the order if no other queue holds items for that destination. -/
theorem Ordered.enqueue (h : l.Ordered dest) (conserves : l.Conserves) {i n : Nat}
    {queue : List Nat} (held : l.inHand = some n) (at_i : l.queued[i]? = some queue)
    (alone : ∀ (j : Nat) (qs : List Nat), l.queued[j]? = some qs → j ≠ i →
      ∀ q ∈ qs, dest q ≠ dest n) :
    (l.enqueue i).Ordered dest where
  out_rising := h.out_rising
  out_before := fun p p_in q q_in eq => by
    obtain ⟨others, before, after⟩ := flatten_set_perm (queue ++ [n]) at_i
    rw [enqueue_queued at_i, held] at q_in
    have q_in := after.mem_iff.mp q_in
    rw [List.append_assoc, List.mem_append, List.mem_append, List.mem_singleton] at q_in
    rcases q_in with old | rfl | other
    · exact h.out_before p p_in q (before.mem_iff.mpr (List.mem_append_left _ old)) eq
    · exact conserves.placed_lt held (List.mem_append_left _ p_in)
    · exact h.out_before p p_in q (before.mem_iff.mpr (List.mem_append_right _ other)) eq
  one_queue := fun j k ps qs at_j at_k ne p p_in q q_in => by
    rw [enqueue_queued at_i, held] at at_j at_k
    have grown : ∀ {a : Nat} {queue' : List Nat} {m : Nat},
        (l.queued.set i (queue ++ [n]))[a]? = some queue' → m ∈ queue' →
        (∃ old, l.queued[a]? = some old ∧ m ∈ old) ∨ (a = i ∧ m = n) := by
      intro a queue' m at_a member
      by_cases here : i = a
      · subst here
        rw [List.getElem?_set_self (List.getElem?_eq_some_iff.mp at_i).1] at at_a
        cases at_a
        rcases List.mem_append.mp member with old | new
        · exact Or.inl ⟨queue, at_i, old⟩
        · exact Or.inr ⟨rfl, List.mem_singleton.mp new⟩
      · rw [List.getElem?_set_ne here] at at_a
        exact Or.inl ⟨queue', at_a, member⟩
    rcases grown at_j p_in with ⟨ps', at_j', p_in'⟩ | ⟨rfl, rfl⟩
    · rcases grown at_k q_in with ⟨qs', at_k', q_in'⟩ | ⟨rfl, rfl⟩
      · exact h.one_queue j k ps' qs' at_j' at_k' ne p p_in' q q_in'
      · exact alone j ps' at_j' ne p p_in'
    · rcases grown at_k q_in with ⟨qs', at_k', q_in'⟩ | ⟨rfl, rfl⟩
      · exact (alone k qs' at_k' ne.symm q q_in').symm
      · exact (ne rfl).elim

/-- A queue leaving keeps the order. -/
theorem Ordered.flush (h : l.Ordered dest) (conserves : l.Conserves) {i : Nat}
    {queue : List Nat} (at_i : l.queued[i]? = some queue) : (l.flush i).Ordered dest where
  out_rising := by
    rw [flush_out at_i, List.flatten_append, List.flatten_singleton, List.pairwise_append]
    refine ⟨h.out_rising, ?_, fun p p_in q q_in => ?_⟩
    · exact List.Pairwise.imp (fun {p q} (rising : p < q) (_ : dest p = dest q) => rising)
        (conserves.queued_rising queue (List.mem_of_getElem? at_i))
    · exact h.out_before p p_in q (mem_flatten_of_getElem? at_i q_in)
  out_before := fun p p_in q q_in eq => by
    obtain ⟨qs, among, q_in'⟩ := List.mem_flatten.mp q_in
    obtain ⟨j, at_j⟩ := List.mem_iff_getElem?.mp among
    have ne : i ≠ j := by
      intro same
      subst same
      simp only [Ledger.flush] at at_j
      rw [List.getElem?_set_self (List.getElem?_eq_some_iff.mp at_i).1] at at_j
      cases at_j
      cases q_in'
    simp only [Ledger.flush] at at_j
    rw [List.getElem?_set_ne ne] at at_j
    rw [flush_out at_i, List.flatten_append, List.flatten_singleton, List.mem_append] at p_in
    rcases p_in with gone | leaving
    · exact h.out_before p gone q (mem_flatten_of_getElem? at_j q_in') eq
    · exact (h.one_queue i j queue qs at_i at_j ne p leaving q q_in' eq).elim
  one_queue := fun j k ps qs at_j at_k ne p p_in q q_in => by
    have kept : ∀ {a : Nat} {queue' : List Nat} {m : Nat},
        (l.queued.set i [])[a]? = some queue' → m ∈ queue' → l.queued[a]? = some queue' := by
      intro a queue' m at_a member
      by_cases here : i = a
      · subst here
        rw [List.getElem?_set_self (List.getElem?_eq_some_iff.mp at_i).1] at at_a
        cases at_a
        cases member
      · rwa [List.getElem?_set_ne here] at at_a
    exact h.one_queue j k ps qs (kept at_j p_in) (kept at_k q_in) ne p p_in q q_in

/-- Sending at once keeps the order if no queue holds items for that destination. -/
theorem Ordered.sendNow (h : l.Ordered dest) (conserves : l.Conserves) {n : Nat}
    (held : l.inHand = some n) (alone : ∀ q ∈ l.queued.flatten, dest q ≠ dest n) :
    l.sendNow.Ordered dest where
  out_rising := by
    unfold Ledger.sendNow
    rw [held, List.flatten_append, List.flatten_singleton, List.pairwise_append]
    refine ⟨h.out_rising, List.pairwise_singleton _ _, fun p p_in q q_in _ => ?_⟩
    rw [List.mem_singleton.mp q_in]
    exact conserves.placed_lt held (List.mem_append_left _ p_in)
  out_before := fun p p_in q q_in eq => by
    unfold Ledger.sendNow at p_in q_in
    rw [held, List.flatten_append, List.flatten_singleton, List.mem_append] at p_in
    rcases p_in with gone | now
    · exact h.out_before p gone q q_in eq
    · rw [List.mem_singleton.mp now] at eq
      exact (alone q q_in eq.symm).elim
  one_queue := h.one_queue

theorem Ordered.closeQueues (h : l.Ordered dest) : l.closeQueues.Ordered dest where
  out_rising := h.out_rising
  out_before := fun _ _ _ member => by cases member
  one_queue := fun _ _ _ _ at_i => by cases at_i

/-- With nothing in hand, an item that has left was preceded by every earlier
item for its destination. -/
theorem Ordered.before (h : l.Ordered dest) (conserves : l.Conserves)
    (free : l.inHand = none) {p q : Nat} (lt : p < q) (eq : dest p = dest q)
    (gone : q ∈ l.out.flatten) : l.out.flatten.idxOf p < l.out.flatten.idxOf q := by
  have distinct := conserves.items_nodup
  have q_lt : q < l.submitted :=
    conserves.items_lt (List.mem_append_right _ (List.mem_append_left _ gone))
  have p_in : p ∈ l.items :=
    conserves.once.mem_iff.mpr (List.mem_range.mpr (Nat.lt_trans lt q_lt))
  unfold items at p_in distinct
  rw [free, Option.toList_none, List.nil_append] at p_in distinct
  rcases List.mem_append.mp p_in with p_gone | p_waiting
  · by_contra later
    have p_idx := List.idxOf_lt_length_iff.mpr p_gone
    have q_idx := List.idxOf_lt_length_iff.mpr gone
    have ne : l.out.flatten.idxOf q ≠ l.out.flatten.idxOf p := by
      intro same
      have : q = p := by
        rw [← List.getElem_idxOf q_idx, ← List.getElem_idxOf p_idx]
        simp only [same]
      omega
    have rising := List.pairwise_iff_getElem.mp h.out_rising _ _ q_idx p_idx (by omega)
    rw [List.getElem_idxOf, List.getElem_idxOf] at rising
    have := rising eq.symm
    omega
  · have := h.out_before q gone p p_waiting eq.symm
    omega

/-- Once all items have left, those for one destination have left in the order they were
submitted. -/
theorem Ordered.filter_out [DecidableEq κ] (h : l.Ordered dest)
    (whole : l.out.flatten.Perm (List.range l.submitted)) (d : κ) :
    l.out.flatten.filter (fun n => dest n = d) =
      (List.range l.submitted).filter fun n => dest n = d := by
  have rising : (l.out.flatten.filter fun n => dest n = d).Pairwise (· < ·) := by
    refine (h.out_rising.filter _).imp_of_mem fun {p q} at_p at_q rising => ?_
    rw [List.mem_filter, decide_eq_true_iff] at at_p at_q
    exact rising (at_p.2.trans at_q.2.symm)
  refine List.Perm.eq_of_pairwise ?_ rising (List.pairwise_lt_range.filter _) (whole.filter _)
  intro a b _ _ less more
  exact absurd (Nat.lt_trans less more) (Nat.lt_irrefl a)

end Order

end Ledger

end IpxWrapper.Base
