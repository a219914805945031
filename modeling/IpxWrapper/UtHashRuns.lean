import IpxWrapper.UtHashInv

/-!
# Runs of a hash table (`uthash.h`)

What a table is for: it holds elements with their keys, in the order in which they were added
(`Entries`), and finds them by key. After any adding and deleting it finds an element with a key
if and only if it holds one, goes through the elements in their order, and its own check has
nothing to report (`hashRun_refines`). It does not matter how the keys hash, nor when the buckets
were expanded.
-/

namespace IpxWrapper

open Base

namespace UtHash

/-- The elements, each with its key. -/
abbrev Entries := List (Nat × List Byte)

inductive HashAct where
  | add (add : Nat) (key : List Byte)
  | delete (del : Nat)
deriving DecidableEq

namespace HashAct

def entries (es : Entries) : HashAct → Entries
  | add a key => es ++ [(a, key)]
  | delete a => es.filter fun e => e.1 ≠ a

/-- An element is added that is not in the table, or one is deleted that is. -/
def Allowed (es : Entries) : HashAct → Prop
  | add a _ => a ∉ es.map Prod.fst
  | delete a => a ∈ es.map Prod.fst

instance (es : Entries) (act : HashAct) : Decidable (act.Allowed es) := by
  cases act <;> unfold Allowed <;> infer_instance

def run (hash : List Byte → UInt32) (rounds : Nat) (t : HashTable) : HashAct → Option HashTable
  | add a key => hashAdd hash rounds a key t
  | delete a => some (hashDelete a t)

end HashAct

/-- Every act is allowed when it comes. -/
def AllAllowed : Entries → List HashAct → Prop
  | _, [] => True
  | es, act :: acts => act.Allowed es ∧ AllAllowed (act.entries es) acts

instance decidableAllAllowed : (es : Entries) → (acts : List HashAct) → Decidable (AllAllowed es acts)
  | _, [] => .isTrue trivial
  | es, act :: acts =>
      have := decidableAllAllowed (act.entries es) acts
      inferInstanceAs (Decidable (_ ∧ _))

/-- The table holds the entries. -/
structure HoldsEntries (hash : List Byte → UInt32) (t : HashTable) (es : Entries) : Prop where
  elems : Holds hash t (es.map Prod.fst)
  keys : ∀ e ∈ es, t.handles.key e.1 = e.2

section Runs

variable {hash : List Byte → UInt32} {t : HashTable} {es : Entries} {rounds : Nat}

/-- An act does to the table what it does to the entries. -/
theorem HoldsEntries.run (holds : HoldsEntries hash t es) {act : HashAct} (allowed : act.Allowed es)
    (enough : es.length < rounds) :
    ∃ t', act.run hash rounds t = some t' ∧ HoldsEntries hash t' (act.entries es) := by
  cases act with
  | add a key =>
      have new : a ∉ es.map Prod.fst := allowed
      obtain ⟨t', added, elems, keys⟩ := hashAdd_holds holds.elems key new
        (by rwa [List.length_map])
      refine ⟨t', added, ?_, fun e member => ?_⟩
      · rw [HashAct.entries, List.map_append]
        exact elems
      · rw [keys]
        rcases List.mem_append.mp member with before | now
        · have other := ne_of_mem_of_not_mem (List.mem_map_of_mem (f := Prod.fst) before) new
          rw [Function.update_of_ne other]
          exact holds.keys e before
        · rw [List.mem_singleton.mp now, Function.update_self]
  | delete a =>
      obtain ⟨elems, keys⟩ := hashDelete_holds holds.elems allowed
      refine ⟨hashDelete a t, rfl, ?_, fun e member => ?_⟩
      · have filtered : ((HashAct.delete a).entries es).map Prod.fst = (es.map Prod.fst).erase a := by
          rw [List.Nodup.erase_eq_filter holds.elems.nodup, List.filter_map]
          refine congrArg _ (List.filter_congr fun e _ => ?_)
          rw [Function.comp_apply, decide_not, bne, beq_eq_decide]
        rw [filtered]
        exact elems
      · rw [keys]
        exact holds.keys e (List.mem_of_mem_filter member)

theorem length_entries_le (act : HashAct) (es : Entries) : (act.entries es).length ≤ es.length + 1 := by
  cases act with
  | add a key => exact Nat.le_of_eq List.length_append
  | delete a => exact Nat.le_succ_of_le (List.length_filter_le ..)

/-- So do any acts. -/
theorem HoldsEntries.runs (holds : HoldsEntries hash t es) {acts : List HashAct}
    (allowed : AllAllowed es acts) (enough : es.length + acts.length ≤ rounds) :
    ∃ t', acts.foldlM (HashAct.run hash rounds) t = some t' ∧
      HoldsEntries hash t' (acts.foldl HashAct.entries es) ∧
      (acts.foldl HashAct.entries es).length ≤ rounds := by
  induction acts generalizing t es with
  | nil => exact ⟨t, rfl, holds, enough⟩
  | cons act acts ih =>
      rw [List.length_cons] at enough
      have room : es.length < rounds := by omega
      obtain ⟨t₁, ran, holds₁⟩ := holds.run allowed.1 room
      have shorter := length_entries_le act es
      obtain ⟨t', rest, holds', fits⟩ := ih holds₁ allowed.2 (by omega)
      refine ⟨t', ?_, holds', fits⟩
      rw [List.foldlM_cons, ran]
      exact rest

end Runs

/-- After any run a table has what was added and not deleted: it passes its check, goes through
the elements in the order in which they came, and finds one with a key if there is one. -/
theorem hashRun_refines (hash : List Byte → UInt32) (handles : UtHashHandles) {rounds : Nat}
    {acts : List HashAct} (allowed : AllAllowed [] acts) (enough : acts.length ≤ rounds) :
    ∃ t, acts.foldlM (HashAct.run hash rounds) ⟨handles, none⟩ = some t ∧
      hashFsck rounds t = true ∧
      hashIter rounds t = some ((acts.foldl HashAct.entries []).map Prod.fst) ∧
      ∀ key, ∃ found, hashFind hash rounds key t = some found ∧
        (∀ a ∈ found, (a, key) ∈ acts.foldl HashAct.entries []) ∧
        (found = none → ∀ a, (a, key) ∉ acts.foldl HashAct.entries []) := by
  have start : HoldsEntries hash ⟨handles, none⟩ [] := ⟨holds_nil handles, nofun⟩
  have room : ([] : Entries).length + acts.length ≤ rounds := by simpa using enough
  obtain ⟨t, ran, holds, fits⟩ := start.runs allowed room
  have fits' : ((acts.foldl HashAct.entries []).map Prod.fst).length ≤ rounds := by
    rwa [List.length_map]
  refine ⟨t, ran, hashFsck_holds holds.elems fits', hashIter_holds holds.elems fits', fun key => ?_⟩
  obtain ⟨found, finds, sound, complete⟩ := hashFind_holds holds.elems key fits'
  refine ⟨found, finds, fun a is_found => ?_, fun absent a there => ?_⟩
  · obtain ⟨member, key_a⟩ := sound a is_found
    obtain ⟨e, there, rfl⟩ := List.mem_map.mp member
    rw [← key_a, holds.keys e there]
    exact there
  · exact complete absent a (List.mem_map_of_mem (f := Prod.fst) there) (holds.keys _ there)

/-- Handles of memory that was zeroed. -/
def UtHashHandles.zero : UtHashHandles :=
  ⟨⟨fun _ => none, fun _ => none⟩, ⟨fun _ => none, fun _ => none⟩, fun _ => [], fun _ => 0⟩

/-- Three descriptors, of which one is closed. -/
def threeDescriptors : List HashAct :=
  [.add 1 (leBytes 300 4), .add 2 (leBytes 308 4), .delete 1, .add 3 (leBytes 316 4)]

theorem hashRun_refines_descriptors :
    ∃ t, threeDescriptors.foldlM (HashAct.run hashJen 4) ⟨.zero, none⟩ = some t ∧
      hashFsck 4 t = true ∧
      hashIter 4 t = some ((threeDescriptors.foldl HashAct.entries []).map Prod.fst) ∧
      ∀ key, ∃ found, hashFind hashJen 4 key t = some found ∧
        (∀ a ∈ found, (a, key) ∈ threeDescriptors.foldl HashAct.entries []) ∧
        (found = none → ∀ a, (a, key) ∉ threeDescriptors.foldl HashAct.entries []) :=
  hashRun_refines hashJen .zero (by decide) (by decide)

end UtHash

end IpxWrapper
