import Mathlib.Data.List.Nodup
import Mathlib.Tactic.Common

/-!
# Tables with distinct keys

A list whose entries have a key each, searched from the front. Where no key comes
twice, what is found with a key is all there is with it, and once that is deleted
nothing is found.
-/

namespace IpxWrapper.Base

variable {α κ : Type} [DecidableEq κ] {key : α → κ} {table : List α} {a : α}

/-- None is left of a key that is deleted. -/
theorem mem_eraseP_key_iff (single : (table.map key).Nodup) (k : κ) :
    a ∈ table.eraseP (fun b => key b = k) ↔ a ∈ table ∧ key a ≠ k := by
  induction table with
  | nil => simp only [List.eraseP_nil, List.not_mem_nil, false_and]
  | cons b table ih =>
      rw [List.map_cons, List.nodup_cons] at single
      by_cases same : key b = k
      · rw [List.eraseP_cons_of_pos (by simpa only [decide_eq_true_eq] using same), List.mem_cons]
        constructor
        · intro later
          refine ⟨Or.inr later, fun same' => single.1 ?_⟩
          rw [same, ← same']
          exact List.mem_map_of_mem later
        · rintro ⟨rfl | later, other⟩
          · exact absurd same other
          · exact later
      · rw [List.eraseP_cons_of_neg (by simpa only [decide_eq_true_eq] using same), List.mem_cons,
          List.mem_cons, ih single.2]
        constructor
        · rintro (rfl | ⟨later, other⟩)
          · exact ⟨Or.inl rfl, same⟩
          · exact ⟨Or.inr later, other⟩
        · rintro ⟨rfl | later, other⟩
          · exact Or.inl rfl
          · exact Or.inr ⟨later, other⟩

theorem filter_key_eq_singleton (single : (table.map key).Nodup) (member : a ∈ table) :
    table.filter (fun b => key b = key a) = [a] := by
  induction table with
  | nil => cases member
  | cons b table ih =>
      rw [List.map_cons, List.nodup_cons] at single
      rcases List.mem_cons.mp member with rfl | later
      · have others : table.filter (fun b => key b = key a) = [] := by
          refine List.filter_eq_nil_iff.mpr fun b later same => single.1 ?_
          rw [← of_decide_eq_true same]
          exact List.mem_map_of_mem later
        rw [List.filter_cons_of_pos (by simp only [decide_true]), others]
      · have other : key b ≠ key a := fun same =>
          single.1 (same ▸ List.mem_map_of_mem later)
        rw [List.filter_cons_of_neg (by simpa only [decide_eq_true_eq] using other),
          ih single.2 later]

/-- The other keys are found as before. -/
theorem find?_eraseP_key (single : (table.map key).Nodup) (k k' : κ) :
    (table.eraseP fun b => key b = k).find? (fun b => key b = k') =
      if k' = k then none else table.find? fun b => key b = k' := by
  split
  case isTrue same =>
    refine List.find?_eq_none.mpr fun b member => ?_
    rw [same, decide_eq_true_eq]
    exact ((mem_eraseP_key_iff single k).mp member).2
  case isFalse other =>
    clear single
    induction table with
    | nil => rfl
    | cons b table ih =>
        by_cases same : key b = k
        · have skipped : key b ≠ k' := fun same' => other (same'.symm.trans same)
          rw [List.eraseP_cons_of_pos (by simpa only [decide_eq_true_eq] using same),
            List.find?_cons_of_neg (by simpa only [decide_eq_true_eq] using skipped)]
        · rw [List.eraseP_cons_of_neg (by simpa only [decide_eq_true_eq] using same),
            List.find?_cons, List.find?_cons, ih]

end IpxWrapper.Base
