import Mathlib.Logic.Function.Basic
import Mathlib.Tactic.Common

/-!
# Lists in which entries are looked up

The first entry that a predicate picks is the one that is meant. `upsert` changes it,
or adds an entry where there is none.
-/

namespace IpxWrapper.Base

variable {α : Type} {pick other : α → Bool} {change : α → α} {new : α}

/-- The first entry that is picked is changed, or `new` is added. -/
def upsert (pick : α → Bool) (change : α → α) (new : α) : List α → List α
  | [] => [new]
  | x :: rest => if pick x then change x :: rest else x :: upsert pick change new rest

/-- The entry is there afterwards. -/
theorem find?_upsert (kept : ∀ x, pick (change x) = pick x) (picked : pick new = true)
    (list : List α) :
    (upsert pick change new list).find? pick = some (((list.find? pick).map change).getD new) := by
  induction list with
  | nil => simp [upsert, picked]
  | cons x rest ih =>
      unfold upsert
      by_cases first : pick x
      · simp [first, kept]
      · rw [if_neg first, List.find?_cons_of_neg first, List.find?_cons_of_neg first, ih]

/-- An entry that is picked by a predicate that does not pick the changed one is as it was. -/
theorem find?_upsert_of_apart (kept : ∀ x, pick x = true → other (change x) = false)
    (apart : ∀ x, pick x = true → other x = false) (unpicked : other new = false)
    (list : List α) : (upsert pick change new list).find? other = list.find? other := by
  induction list with
  | nil => simp [upsert, unpicked]
  | cons x rest ih =>
      unfold upsert
      by_cases first : pick x
      · simp [first, kept x first, apart x first]
      · rw [if_neg first, List.find?_cons, List.find?_cons, ih]

/-- What is seen of the entries is changed as they are. -/
theorem map_upsert {β : Type} (f : α → β) (pick' : β → Bool) (change' : β → β)
    (picks : ∀ x, pick' (f x) = pick x) (changes : ∀ x, f (change x) = change' (f x)) (list : List α) :
    (upsert pick change new list).map f = upsert pick' change' (f new) (list.map f) := by
  induction list with
  | nil => rfl
  | cons x rest ih =>
      rw [List.map_cons, upsert, upsert, picks]
      split
      · rw [List.map_cons, changes]
      · rw [List.map_cons, ih]

/-- Those in front that are not picked stay. -/
theorem upsert_append {list : List α} (unpicked : ∀ x ∈ list, pick x = false) (rest : List α) :
    upsert pick change new (list ++ rest) = list ++ upsert pick change new rest := by
  induction list with
  | nil => rfl
  | cons x list ih =>
      have first : ¬ pick x = true := by
        rw [unpicked x List.mem_cons_self]
        exact Bool.false_ne_true
      rw [List.cons_append, upsert, if_neg first,
        ih fun y member => unpicked y (List.mem_cons_of_mem x member)]
      rfl

/-- Entries have numbers, and the one that is picked is written. -/
theorem upsert_map {f : Nat → α} {a : Nat} {numbers : List Nat} (nodup : numbers.Nodup)
    (member : a ∈ numbers) (picked : pick (f a) = true)
    (only : ∀ b ∈ numbers, pick (f b) = true → b = a) :
    upsert pick change new (numbers.map f) = numbers.map (Function.update f a (change (f a))) := by
  induction numbers with
  | nil => cases member
  | cons b rest ih =>
      obtain ⟨new_b, nodup⟩ := List.nodup_cons.mp nodup
      rw [List.map_cons, List.map_cons, upsert]
      by_cases first : pick (f b) = true
      · obtain rfl := only b List.mem_cons_self first
        rw [if_pos first, Function.update_self]
        refine congrArg _ (List.map_congr_left fun c there => ?_)
        exact (Function.update_of_ne (ne_of_mem_of_not_mem there new_b) ..).symm
      · have other : b ≠ a := by
          rintro rfl
          exact first picked
        have later : a ∈ rest := (List.mem_cons.mp member).resolve_left other.symm
        rw [if_neg first, Function.update_of_ne other,
          ih nodup later fun c there => only c (List.mem_cons_of_mem b there)]

end IpxWrapper.Base
