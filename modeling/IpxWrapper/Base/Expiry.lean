import Mathlib.Data.List.Induction
import Mathlib.Logic.Function.Basic
import Mathlib.Tactic.Common

/-!
# A map whose entries expire

An entry is a value and the time it was set at; it is found until `ttl` after that, by
whatever the clock says then. A map is used by calls that set and calls that get, and what
it holds after any calls is the latest set for each key: `valueAfter_eq_some_iff`.
-/

namespace IpxWrapper.Base

variable {κ β : Type} [DecidableEq κ]

/-- What was set for each key, and when. -/
abbrev ExpiringMap (κ β : Type) := κ → Option (Int × β)

namespace ExpiringMap

def empty : ExpiringMap κ β := fun _ => none

def set (k : κ) (now : Int) (v : β) (map : ExpiringMap κ β) : ExpiringMap κ β :=
  Function.update map k (some (now, v))

def get (ttl : Int) (k : κ) (now : Int) (map : ExpiringMap κ β) : Option β :=
  (map k).bind fun entry => if now < entry.1 + ttl then some entry.2 else none

omit [DecidableEq κ] in
theorem get_eq_some_iff {ttl now : Int} {k : κ} {map : ExpiringMap κ β} {v : β} :
    map.get ttl k now = some v ↔ ∃ s, map k = some (s, v) ∧ now < s + ttl := by
  unfold get
  constructor
  · intro found
    obtain ⟨⟨s, v'⟩, entry, fresh⟩ := Option.bind_eq_some_iff.mp found
    split at fresh
    case isTrue inTime =>
      cases fresh
      exact ⟨s, entry, inTime⟩
    case isFalse => cases fresh
  · rintro ⟨s, entry, inTime⟩
    rw [entry, Option.bind_some, if_pos inTime]

end ExpiringMap

/-- A call, and the time at which it is made. -/
inductive MapCall (κ β : Type) where
  | set (k : κ) (now : Int) (v : β)
  | get (k : κ) (now : Int)

namespace MapCall

/-- The key that the call is for. -/
def key : MapCall κ β → κ
  | set k _ _ => k
  | get k _ => k

/-- The call sets the key. -/
def Sets (k : κ) : MapCall κ β → Prop
  | set k' _ _ => k' = k
  | get _ _ => False

/-- The map after the call. -/
def apply (map : ExpiringMap κ β) : MapCall κ β → ExpiringMap κ β
  | set k now v => map.set k now v
  | get _ _ => map

theorem apply_set_self (map : ExpiringMap κ β) (k : κ) (now : Int) (v : β) :
    (set k now v).apply map k = some (now, v) :=
  Function.update_self _ _ _

theorem apply_of_not_sets {k : κ} {call : MapCall κ β} (other : ¬ call.Sets k)
    (map : ExpiringMap κ β) : call.apply map k = map k := by
  cases call with
  | set k' now v => exact Function.update_of_ne (Ne.symm other) _ _
  | get k' now => rfl

end MapCall

/-- The map after calls from an empty one. -/
def mapAfter (calls : List (MapCall κ β)) : ExpiringMap κ β :=
  calls.foldl MapCall.apply .empty

theorem mapAfter_concat (calls : List (MapCall κ β)) (call : MapCall κ β) :
    mapAfter (calls ++ [call]) = call.apply (mapAfter calls) := by
  unfold mapAfter
  rw [List.foldl_append]
  rfl

/-- The call is the latest that sets its key. -/
def LatestSet (calls : List (MapCall κ β)) (k : κ) (s : Int) (v : β) : Prop :=
  ∃ before after, calls = before ++ .set k s v :: after ∧ ∀ call ∈ after, ¬ call.Sets k

omit [DecidableEq κ] in
theorem LatestSet.concat {calls : List (MapCall κ β)} {k : κ} {s : Int} {v : β}
    (latest : LatestSet calls k s v) {call : MapCall κ β} (other : ¬ call.Sets k) :
    LatestSet (calls ++ [call]) k s v := by
  obtain ⟨before, after, rfl, later⟩ := latest
  refine ⟨before, after ++ [call], by rw [List.append_assoc, List.cons_append], ?_⟩
  intro call' member
  rcases List.mem_append.mp member with old | new
  · exact later call' old
  · rwa [List.mem_singleton.mp new]

omit [DecidableEq κ] in
/-- The latest set is not the last call if that is for something else. -/
theorem LatestSet.of_concat {calls : List (MapCall κ β)} {k : κ} {s : Int} {v : β}
    {call : MapCall κ β} (latest : LatestSet (calls ++ [call]) k s v) :
    call = .set k s v ∨ ¬ call.Sets k ∧ LatestSet calls k s v := by
  obtain ⟨before, after, same, later⟩ := latest
  rcases List.eq_nil_or_concat after with rfl | ⟨after, last, rfl⟩
  · exact Or.inl (List.cons.inj (List.append_inj' same rfl).2).1
  · rw [List.concat_eq_append] at same later
    rw [← List.cons_append, ← List.append_assoc] at same
    obtain ⟨rfl, last_eq⟩ := List.append_inj' same rfl
    obtain rfl := (List.cons.inj last_eq).1
    refine Or.inr ⟨later _ ?_, before, after, rfl, fun call' member => later call' ?_⟩
    · exact List.mem_append_right _ (List.mem_singleton.mpr rfl)
    · exact List.mem_append_left _ member

/-- The map holds what was set last. -/
theorem mapAfter_eq_some_iff {calls : List (MapCall κ β)} {k : κ} {s : Int} {v : β} :
    mapAfter calls k = some (s, v) ↔ LatestSet calls k s v := by
  induction calls using List.reverseRecOn with
  | nil =>
      refine iff_of_false nofun ?_
      rintro ⟨before, after, same, -⟩
      exact List.append_ne_nil_of_right_ne_nil before (List.cons_ne_nil _ _) same.symm
  | append_singleton calls call ih =>
      rw [mapAfter_concat]
      by_cases sets : call.Sets k
      · cases call with
        | set k' now v' =>
            obtain rfl : k' = k := sets
            rw [MapCall.apply_set_self]
            constructor
            · rintro ⟨⟩
              exact ⟨calls, [], rfl, nofun⟩
            · intro latest
              rcases latest.of_concat with same | ⟨other, -⟩
              · obtain ⟨-, rfl, rfl⟩ := MapCall.set.inj same
                rfl
              · exact absurd rfl other
        | get k' now => exact sets.elim
      · rw [MapCall.apply_of_not_sets sets, ih]
        refine ⟨fun latest => latest.concat sets, fun latest => ?_⟩
        rcases latest.of_concat with rfl | ⟨-, latest⟩
        · exact absurd rfl sets
        · exact latest

/-- Calls for other keys make no difference to a key. -/
theorem mapAfter_filter (calls : List (MapCall κ β)) (k : κ) :
    mapAfter (calls.filter fun call => call.key = k) k = mapAfter calls k := by
  induction calls using List.reverseRecOn with
  | nil => rfl
  | append_singleton calls call ih =>
      rw [List.filter_append, mapAfter_concat]
      by_cases same : call.key = k
      · have kept : [call].filter (fun call => call.key = k) = [call] := by simp [same]
        rw [kept, mapAfter_concat]
        cases call with
        | set k' now v =>
            obtain rfl : k' = k := same
            rw [MapCall.apply_set_self, MapCall.apply_set_self]
        | get k' now => exact ih
      · have dropped : [call].filter (fun call => call.key = k) = [] := by simp [same]
        rw [dropped, List.append_nil, ih]
        refine (MapCall.apply_of_not_sets (fun sets => same ?_) _).symm
        cases call with
        | set k' now v => exact sets
        | get k' now => exact sets.elim

end IpxWrapper.Base
