import Mathlib.Data.List.Nodup
import Mathlib.Logic.Function.Basic
import Mathlib.Tactic.Common

/-!
# Doubly linked lists in a heap

The nodes of the lists of one type, by number; a node gets a number that no other had. The
`prev` of the first node of a list is its last, and the `next` of the last is `NULL`
(`none`). A node that has been freed is none of the heap's, and what needs it fails.

`IsDl nodes head es` says that the list at `head` is that of the entries `es`, the numbers of its
nodes with their values: new nodes are one (`isDl_link`), a change elsewhere leaves it
(`IsDl.frame`), and with the head deleted and freed the rest is one again (`IsDl.delete_head`).
-/

namespace IpxWrapper.Base

structure DlNode (α : Type) where
  value : α
  prev : Nat
  next : Option Nat

/-- The nodes that have not been freed. -/
abbrev DlNodes (α : Type) := Nat → Option (DlNode α)

namespace DlNodes

variable {α : Type}

/-- New nodes with the values, from the number `k` on; `before` is the `prev` of the first. -/
def link (before : Nat) : List α → Nat → DlNodes α → DlNodes α
  | [], _, nodes => nodes
  | value :: rest, k, nodes =>
      Function.update (link k rest (k + 1) nodes) k
        (some ⟨value, before, if rest.isEmpty then none else some (k + 1)⟩)

/-- The `prev` of a node is written. -/
def setPrev (nodes : DlNodes α) (a prev : Nat) : Option (DlNodes α) :=
  (nodes a).map fun n => Function.update nodes a (some { n with prev := prev })

/-- The `next` of a node is written. -/
def setNext (nodes : DlNodes α) (a : Nat) (next : Option Nat) : Option (DlNodes α) :=
  (nodes a).map fun n => Function.update nodes a (some { n with next := next })

/-- The list without the node `del`: its head, and the nodes. -/
def delete (nodes : DlNodes α) (head : Option Nat) (del : Nat) : Option (Option Nat × DlNodes α) := do
  let d ← nodes del
  if d.prev = del then
    some (none, nodes)
  else if head = some del then
    let next ← d.next
    let nodes ← nodes.setPrev next d.prev
    some (some next, nodes)
  else
    let nodes ← nodes.setNext d.prev d.next
    match d.next with
    | some next => (nodes.setPrev next d.prev).map (head, ·)
    | none => head.bind fun first => (nodes.setPrev first d.prev).map (head, ·)

def free (nodes : DlNodes α) (a : Nat) : DlNodes α := Function.update nodes a none

end DlNodes

variable {α : Type} {nodes nodes' : DlNodes α} {head : Option Nat} {es : List (Nat × α)}

/-- The number of the first node. -/
def headOf (es : List (Nat × α)) : Option Nat := es.head?.map Prod.fst

/-- The nodes of the entries follow each other, and the first follows `before`. -/
def Chained (nodes : DlNodes α) : Nat → List (Nat × α) → Prop
  | _, [] => True
  | before, (a, value) :: rest =>
      nodes a = some ⟨value, before, headOf rest⟩ ∧ Chained nodes a rest

structure IsDl (nodes : DlNodes α) (head : Option Nat) (es : List (Nat × α)) : Prop where
  head : head = headOf es
  nodup : (es.map Prod.fst).Nodup
  chained : ∀ last ∈ es.getLast?, Chained nodes last.1 es

theorem Chained.frame {before : Nat} (chained : Chained nodes before es)
    (same : ∀ a ∈ es.map Prod.fst, nodes' a = nodes a) : Chained nodes' before es := by
  induction es generalizing before with
  | nil => trivial
  | cons e rest ih =>
      obtain ⟨here, after⟩ := chained
      exact ⟨(same e.1 List.mem_cons_self).trans here,
        ih after fun b member => same b (List.mem_cons_of_mem e.1 member)⟩

/-- Each entry has its node. -/
theorem Chained.node {before : Nat} (chained : Chained nodes before es) {e : Nat × α}
    (member : e ∈ es) : ∃ n, nodes e.1 = some n ∧ n.value = e.2 := by
  induction es generalizing before with
  | nil => cases member
  | cons e' rest ih =>
      obtain ⟨here, after⟩ := chained
      rcases List.mem_cons.mp member with rfl | later
      · exact ⟨_, here, rfl⟩
      · exact ih after later

theorem IsDl.nil : IsDl nodes none [] := ⟨rfl, List.nodup_nil, nofun⟩

theorem IsDl.frame (list : IsDl nodes head es) (same : ∀ a ∈ es.map Prod.fst, nodes' a = nodes a) :
    IsDl nodes' head es :=
  ⟨list.head, list.nodup, fun last is_last => (list.chained last is_last).frame same⟩

/-- A list is walked from its head by `next`, over nodes that are there. -/
theorem IsDl.exists_chained (list : IsDl nodes head es) : ∃ before, Chained nodes before es := by
  rcases last : es.getLast? with _ | e
  · rw [List.getLast?_eq_none_iff.mp last]
    exact ⟨0, trivial⟩
  · exact ⟨e.1, list.chained e last⟩

theorem IsDl.node (list : IsDl nodes head es) {e : Nat × α} (member : e ∈ es) :
    ∃ n, nodes e.1 = some n ∧ n.value = e.2 :=
  let ⟨_, chained⟩ := list.exists_chained
  chained.node member

/-! ## New nodes -/

/-- The values, with numbers from `k` on. -/
def numbered : List α → Nat → List (Nat × α)
  | [], _ => []
  | value :: rest, k => (k, value) :: numbered rest (k + 1)

@[simp] theorem map_snd_numbered (values : List α) (k : Nat) :
    (numbered values k).map Prod.snd = values := by
  induction values generalizing k with
  | nil => rfl
  | cons value rest ih => rw [numbered, List.map_cons, ih]

@[simp] theorem map_fst_numbered (values : List α) (k : Nat) :
    (numbered values k).map Prod.fst = List.range' k values.length := by
  induction values generalizing k with
  | nil => rfl
  | cons value rest ih => rw [numbered, List.map_cons, ih, List.length_cons, List.range'_succ]

theorem headOf_numbered (values : List α) (k : Nat) :
    headOf (numbered values k) = if values.isEmpty then none else some k := by
  cases values <;> rfl

theorem getLast?_numbered (values : List α) (k : Nat) {e : Nat × α}
    (last : (numbered values k).getLast? = some e) : e.1 = k + values.length - 1 := by
  have numbers : ((numbered values k).map Prod.fst).getLast? = some e.1 := by
    rw [List.getLast?_map, last]
    rfl
  rw [map_fst_numbered, List.getLast?_range'] at numbers
  split at numbers
  · cases numbers
  · exact (Option.some.inj numbers).symm

theorem link_of_lt (values : List α) {before k a : Nat} (lt : a < k) :
    nodes.link before values k a = nodes a := by
  induction values generalizing before k with
  | nil => rfl
  | cons value rest ih =>
      unfold DlNodes.link
      rw [Function.update_of_ne (Nat.ne_of_lt lt)]
      exact ih (Nat.lt_succ_of_lt lt)

theorem chained_link (values : List α) (before k : Nat) :
    Chained (nodes.link before values k) before (numbered values k) := by
  induction values generalizing before k with
  | nil => trivial
  | cons value rest ih =>
      unfold DlNodes.link
      refine ⟨?_, (ih k (k + 1)).frame fun a member => ?_⟩
      · rw [Function.update_self, headOf_numbered]
      · rw [map_fst_numbered] at member
        have above : k + 1 ≤ a := (List.mem_range'_1.mp member).1
        rw [Function.update_of_ne (by omega)]

theorem isDl_link (nodes : DlNodes α) (values : List α) (k : Nat) :
    IsDl (nodes.link (k + values.length - 1) values k) (if values.isEmpty then none else some k)
      (numbered values k) := by
  refine ⟨(headOf_numbered values k).symm, ?_, fun last is_last => ?_⟩
  · rw [map_fst_numbered]
    exact List.nodup_range'
  · rw [getLast?_numbered values k is_last]
    exact chained_link values _ k

/-! ## Deletion -/

/-- What the head of a list is followed by when it is deleted and freed. -/
theorem IsDl.delete_head {a : Nat} {value : α} {rest : List (Nat × α)}
    (list : IsDl nodes head ((a, value) :: rest)) :
    ∃ nodes', nodes.delete head a = some (headOf rest, nodes') ∧
      IsDl (nodes'.free a) (headOf rest) rest ∧
      ∀ k, k ∉ rest.map Prod.fst → nodes' k = nodes k := by
  obtain rfl : head = some a := list.head
  obtain ⟨other, nodup⟩ := List.nodup_cons.mp list.nodup
  cases rest with
  | nil =>
      obtain ⟨here, -⟩ := list.chained (a, value) rfl
      refine ⟨nodes, ?_, .nil, fun _ _ => rfl⟩
      simp only [DlNodes.delete, here, Option.bind_eq_bind, Option.bind_some, if_true]
      rfl
  | cons e r =>
      obtain ⟨b, value'⟩ := e
      obtain ⟨last, is_last⟩ : ∃ last, ((b, value') :: r).getLast? = some last :=
        ⟨_, List.getLast?_eq_some_getLast (List.cons_ne_nil _ r)⟩
      have last_ne : last.1 ≠ a := by
        intro same
        have member := List.mem_map_of_mem (f := Prod.fst) (List.mem_of_getLast? is_last)
        exact other (same ▸ member)
      obtain ⟨here, next, chained⟩ := list.chained last (by
        rw [List.getLast?_cons_cons]
        exact is_last)
      have a_ne : a ≠ b := fun same => other (same ▸ List.mem_cons_self)
      refine ⟨Function.update nodes b (some ⟨value', last.1, headOf r⟩), ?_, ⟨rfl, nodup, ?_⟩,
        fun k elsewhere => ?_⟩
      · have follows : headOf ((b, value') :: r) = some b := rfl
        simp only [DlNodes.delete, DlNodes.setPrev, here, next, follows, if_neg last_ne,
          Option.bind_eq_bind, Option.bind_some, Option.map_some, if_true]
      · rintro last' is_last'
        obtain rfl : last = last' := Option.some.inj (is_last.symm.trans is_last')
        refine ⟨?_, chained.frame fun k member => ?_⟩
        · unfold DlNodes.free
          rw [Function.update_of_ne a_ne.symm, Function.update_self]
        · have k_a : k ≠ a := by
            rintro rfl
            exact other (List.mem_cons_of_mem b member)
          have k_b : k ≠ b := by
            rintro rfl
            exact (List.nodup_cons.mp nodup).1 member
          unfold DlNodes.free
          rw [Function.update_of_ne k_a, Function.update_of_ne k_b]
      · have k_b : k ≠ b := by
          rintro rfl
          exact elsewhere List.mem_cons_self
        exact Function.update_of_ne k_b ..

end IpxWrapper.Base
