import Mathlib.Data.List.Nodup
import Mathlib.Logic.Function.Basic
import Mathlib.Tactic.Common

/-!
# Lists linked both ways

One pair of link fields, over all nodes: a node is a number, and `NULL` is `none`. Both ends of a
list are `NULL`. The nodes of `xs` follow each other between `before` and `after` (`Segment`); such
a segment can be cut anywhere (`segment_append`), and a write at a node that is not in it leaves
it. So each edit of a list is an edit at a seam: a node is put in front (`IsLinked.push`), behind
(`IsLinked.append`), or taken out (`IsLinked.unlink`).
-/

namespace IpxWrapper.Base

/-- The link fields of the nodes. -/
structure Links where
  prev : Nat → Option Nat
  next : Nat → Option Nat

namespace Links

def setPrev (l : Links) (a : Nat) (p : Option Nat) : Links :=
  { l with prev := Function.update l.prev a p }

def setNext (l : Links) (a : Nat) (n : Option Nat) : Links :=
  { l with next := Function.update l.next a n }

/-- `p->next = n`, if `p` is not `NULL`. -/
def setNext? (l : Links) (p n : Option Nat) : Links :=
  match p with
  | some a => l.setNext a n
  | none => l

/-- `n->prev = p`, if `n` is not `NULL`. -/
def setPrev? (l : Links) (n p : Option Nat) : Links :=
  match n with
  | some a => l.setPrev a p
  | none => l

@[simp] theorem setNext?_prev (l : Links) (p n : Option Nat) : (l.setNext? p n).prev = l.prev := by
  cases p <;> rfl

@[simp] theorem setPrev?_next (l : Links) (n p : Option Nat) : (l.setPrev? n p).next = l.next := by
  cases n <;> rfl

/-- Node `a` is put in front of the list at `head`. -/
def push (l : Links) (head : Option Nat) (a : Nat) : Links :=
  ((l.setNext a head).setPrev a none).setPrev? head (some a)

/-- Node `a` is put behind the last. -/
def append (l : Links) (last : Option Nat) (a : Nat) : Links :=
  ((l.setNext a none).setNext? last (some a)).setPrev a last

/-- Node `a` is taken out from between its neighbours. -/
def unlink (l : Links) (a : Nat) : Links :=
  let l := l.setNext? (l.prev a) (l.next a)
  l.setPrev? (l.next a) (l.prev a)

/-- The nodes follow each other, the first after `before`, and `after` comes next. -/
def Segment (l : Links) : Option Nat → List Nat → Option Nat → Prop
  | _, [], _ => True
  | before, a :: rest, after =>
      l.prev a = before ∧ l.next a = rest.head?.or after ∧ Segment l (some a) rest after

end Links

/-- The nodes are a list, with no others. -/
structure IsLinked (l : Links) (nodes : List Nat) : Prop where
  nodup : nodes.Nodup
  segment : l.Segment none nodes none

variable {l l' : Links} {before after : Option Nat} {xs ys nodes : List Nat} {a : Nat}

open Links

/-! ## Segments -/

/-- A segment is cut at a seam. -/
theorem segment_append : l.Segment before (xs ++ ys) after ↔
    l.Segment before xs (ys.head?.or after) ∧ l.Segment (xs.getLast?.or before) ys after := by
  induction xs generalizing before with
  | nil => exact (and_iff_right trivial).symm
  | cons x xs ih =>
      have head : ((xs ++ ys).head?).or after = xs.head?.or (ys.head?.or after) := by
        rw [List.head?_append, Option.or_assoc]
      have last : ((x :: xs).getLast?).or before = xs.getLast?.or (some x) := by
        rw [List.getLast?_cons]
        cases xs.getLast? <;> rfl
      rw [List.cons_append, Segment, Segment, ih, head, last, and_assoc, and_assoc]

theorem Links.Segment.frame (segment : l.Segment before xs after)
    (same : ∀ b ∈ xs, l'.prev b = l.prev b ∧ l'.next b = l.next b) :
    l'.Segment before xs after := by
  induction xs generalizing before with
  | nil => trivial
  | cons x xs ih =>
      obtain ⟨prev, next, rest⟩ := segment
      obtain ⟨prev', next'⟩ := same x List.mem_cons_self
      exact ⟨prev'.trans prev, next'.trans next,
        ih rest fun b member => same b (List.mem_cons_of_mem x member)⟩

/-- What comes after a segment is written in its last node. -/
theorem Links.Segment.setNext_last (segment : l.Segment before xs after) (nodup : xs.Nodup)
    (n : Option Nat) : (l.setNext? xs.getLast? n).Segment before xs n := by
  rcases List.eq_nil_or_concat xs with rfl | ⟨init, z, rfl⟩
  · trivial
  · rw [List.concat_eq_append] at segment nodup ⊢
    obtain ⟨first, last⟩ := segment_append.mp segment
    have other : z ∉ init := fun member =>
      (List.nodup_append.mp nodup).2.2 z member z List.mem_cons_self rfl
    rw [List.getLast?_append_of_ne_nil _ (List.cons_ne_nil z []), List.getLast?_singleton]
    refine segment_append.mpr ⟨first.frame fun b member => ⟨rfl, ?_⟩, last.1, ?_, trivial⟩
    · exact Function.update_of_ne (ne_of_mem_of_not_mem member other) ..
    · exact Function.update_self ..

/-- What comes before a segment is written in its first node. -/
theorem Links.Segment.setPrev_head (segment : l.Segment before xs after) (nodup : xs.Nodup)
    (p : Option Nat) : (l.setPrev? xs.head? p).Segment p xs after := by
  cases xs with
  | nil => trivial
  | cons x rest =>
      obtain ⟨-, next, segment⟩ := segment
      have other := (List.nodup_cons.mp nodup).1
      refine ⟨Function.update_self .., next, segment.frame fun b member => ⟨?_, rfl⟩⟩
      exact Function.update_of_ne (ne_of_mem_of_not_mem member other) ..

/-- A write of `next` elsewhere. -/
theorem Links.Segment.setNext? (segment : l.Segment before xs after) {p n : Option Nat}
    (elsewhere : ∀ b ∈ p, b ∉ xs) : (l.setNext? p n).Segment before xs after := by
  cases p with
  | none => exact segment
  | some b =>
      refine segment.frame fun c member => ⟨rfl, ?_⟩
      exact Function.update_of_ne (ne_of_mem_of_not_mem member (elsewhere b rfl)) ..

/-- A write of `prev` elsewhere. -/
theorem Links.Segment.setPrev? (segment : l.Segment before xs after) {n p : Option Nat}
    (elsewhere : ∀ b ∈ n, b ∉ xs) : (l.setPrev? n p).Segment before xs after := by
  cases n with
  | none => exact segment
  | some b =>
      refine segment.frame fun c member => ⟨?_, rfl⟩
      exact Function.update_of_ne (ne_of_mem_of_not_mem member (elsewhere b rfl)) ..

/-! ## Lists -/

theorem isLinked_nil (l : Links) : IsLinked l [] := ⟨List.nodup_nil, trivial⟩

theorem IsLinked.frame (list : IsLinked l nodes)
    (same : ∀ b ∈ nodes, l'.prev b = l.prev b ∧ l'.next b = l.next b) : IsLinked l' nodes :=
  ⟨list.nodup, list.segment.frame same⟩

/-- What is at the neighbours of a node. -/
theorem IsLinked.around (list : IsLinked l (xs ++ a :: ys)) :
    l.prev a = xs.getLast? ∧ l.next a = ys.head? := by
  obtain ⟨-, prev, next, -⟩ := segment_append.mp list.segment
  exact ⟨by rw [prev, Option.or_none], by rw [next, Option.or_none]⟩

theorem IsLinked.push (list : IsLinked l nodes) (new : a ∉ nodes) :
    IsLinked (l.push nodes.head? a) (a :: nodes) := by
  have kept : ((l.setNext a nodes.head?).setPrev a none).Segment none nodes none :=
    list.segment.frame fun b member =>
      ⟨Function.update_of_ne (ne_of_mem_of_not_mem member new) ..,
        Function.update_of_ne (ne_of_mem_of_not_mem member new) ..⟩
  refine ⟨List.nodup_cons.mpr ⟨new, list.nodup⟩, ?_, ?_, kept.setPrev_head list.nodup (some a)⟩
  · cases nodes with
    | nil => exact Function.update_self ..
    | cons b rest =>
        have other : a ≠ b := fun same => new (same ▸ List.mem_cons_self)
        exact (Function.update_of_ne other ..).trans (Function.update_self ..)
  · rw [Option.or_none]
    cases nodes <;> exact Function.update_self ..

theorem IsLinked.append (list : IsLinked l nodes) (new : a ∉ nodes) :
    IsLinked (l.append nodes.getLast? a) (nodes ++ [a]) := by
  have kept : (l.setNext a none).Segment none nodes none :=
    list.segment.frame fun b member =>
      ⟨rfl, Function.update_of_ne (ne_of_mem_of_not_mem member new) ..⟩
  have seam : (l.append nodes.getLast? a).Segment none nodes (some a) := by
    refine (kept.setNext_last list.nodup (some a)).frame fun b member => ⟨?_, rfl⟩
    exact Function.update_of_ne (ne_of_mem_of_not_mem member new) ..
  have nodup : (nodes ++ [a]).Nodup :=
    list.nodup.append (List.nodup_singleton a) fun b member same =>
      new (List.mem_singleton.mp same ▸ member)
  refine ⟨nodup, segment_append.mpr ⟨seam, ?_, ?_, trivial⟩⟩
  · rw [Option.or_none]
    exact Function.update_self ..
  · change ((l.setNext a none).setNext? nodes.getLast? (some a)).next a = none
    rcases last : nodes.getLast? with _ | z
    · exact Function.update_self ..
    · have other : a ≠ z := fun same => new (same ▸ List.mem_of_getLast? last)
      exact (Function.update_of_ne other ..).trans (Function.update_self ..)

/-- The node that is taken out keeps its `next` as its neighbour is written. -/
theorem next_setNext? {n : Option Nat} (next : l.next a = n) (other : a ∉ xs) :
    (l.setNext? xs.getLast? n).next a = n := by
  rcases is_last : xs.getLast? with _ | z
  · exact next
  · have a_z : a ≠ z := fun same => other (same ▸ List.mem_of_getLast? is_last)
    exact (Function.update_of_ne a_z ..).trans next

theorem IsLinked.unlink (list : IsLinked l (xs ++ a :: ys)) :
    IsLinked (l.unlink a) (xs ++ ys) := by
  obtain ⟨prev, next⟩ := list.around
  obtain ⟨first, -, -, last⟩ := segment_append.mp list.segment
  obtain ⟨nodup_xs, nodup_ys, apart⟩ := List.nodup_append.mp list.nodup
  obtain ⟨a_ys, nodup_ys⟩ := List.nodup_cons.mp nodup_ys
  have xs_ys (b : Nat) (member : b ∈ xs) : b ∉ ys := fun member' =>
    apart b member b (List.mem_cons_of_mem a member') rfl
  have next' := next_setNext? next fun member => apart a member a List.mem_cons_self rfl
  have prev' : (l.setNext? xs.getLast? ys.head?).prev a = xs.getLast? := by
    rw [setNext?_prev, prev]
  unfold Links.unlink
  rw [prev, next]
  dsimp only
  rw [next', prev']
  refine ⟨nodup_xs.append nodup_ys fun b member => xs_ys b member, segment_append.mpr ⟨?_, ?_⟩⟩
  · rw [Option.or_none]
    refine (first.setNext_last nodup_xs ys.head?).setPrev? fun b is_head member => ?_
    exact xs_ys b member (List.mem_of_head? is_head)
  · rw [Option.or_none]
    have kept : (l.setNext? xs.getLast? ys.head?).Segment (some a) ys none :=
      last.setNext? fun b is_last => xs_ys b (List.mem_of_getLast? is_last)
    exact kept.setPrev_head nodup_ys xs.getLast?

/-! ## What is left alone -/

theorem push_next {head : Option Nat} {b : Nat} (other : b ≠ a) :
    (l.push head a).next b = l.next b := by
  unfold Links.push
  rw [setPrev?_next]
  exact Function.update_of_ne other ..

theorem IsLinked.push_elsewhere {b : Nat} (other : b ≠ a) (elsewhere : b ∉ nodes) :
    (l.push nodes.head? a).prev b = l.prev b ∧ (l.push nodes.head? a).next b = l.next b := by
  refine ⟨?_, push_next other⟩
  cases nodes with
  | nil => exact Function.update_of_ne other ..
  | cons c rest =>
      have other' : b ≠ c := fun same => elsewhere (same ▸ List.mem_cons_self)
      exact (Function.update_of_ne other' ..).trans (Function.update_of_ne other ..)

theorem IsLinked.unlink_elsewhere (list : IsLinked l (xs ++ a :: ys)) {b : Nat}
    (elsewhere : b ∉ xs ++ a :: ys) :
    (l.unlink a).prev b = l.prev b ∧ (l.unlink a).next b = l.next b := by
  obtain ⟨prev, next⟩ := list.around
  have a_xs : a ∉ xs := fun member =>
    (List.nodup_append.mp list.nodup).2.2 a member a List.mem_cons_self rfl
  have b_xs : ∀ z ∈ xs.getLast?, b ≠ z := fun z is_last same =>
    elsewhere (List.mem_append_left _ (same ▸ List.mem_of_getLast? is_last))
  have b_ys : ∀ z ∈ ys.head?, b ≠ z := fun z is_head same =>
    elsewhere (List.mem_append_right _ (List.mem_cons_of_mem a (same ▸ List.mem_of_head? is_head)))
  have next' := next_setNext? next a_xs
  unfold Links.unlink
  rw [prev, next]
  dsimp only
  rw [next', setPrev?_next]
  constructor
  · have same : (l.setNext? xs.getLast? ys.head?).prev b = l.prev b := by rw [setNext?_prev]
    rcases is_head : ys.head? with _ | z
    · rwa [is_head] at same
    · rw [is_head] at same
      exact (Function.update_of_ne (b_ys z is_head) ..).trans same
  · rcases is_last : xs.getLast? with _ | z
    · rfl
    · exact Function.update_of_ne (b_xs z is_last) ..

/-! ## Followed one way -/

/-- The nodes follow each other by `next`, up to `NULL`. -/
def Followed (l : Links) : List Nat → Prop
  | [] => True
  | a :: rest => l.next a = rest.head? ∧ Followed l rest

theorem Followed.frame (followed : Followed l nodes) (same : ∀ b ∈ nodes, l'.next b = l.next b) :
    Followed l' nodes := by
  induction nodes with
  | nil => trivial
  | cons a rest ih =>
      exact ⟨(same a List.mem_cons_self).trans followed.1,
        ih followed.2 fun b member => same b (List.mem_cons_of_mem a member)⟩

theorem Links.Segment.followed (segment : l.Segment before nodes none) : Followed l nodes := by
  induction nodes generalizing before with
  | nil => trivial
  | cons a rest ih =>
      obtain ⟨-, next, after⟩ := segment
      rw [Option.or_none] at next
      exact ⟨next, ih after⟩

theorem IsLinked.followed (list : IsLinked l nodes) : Followed l nodes := list.segment.followed

end IpxWrapper.Base
