import IpxWrapper.UtHash

/-!
# What a hash table keeps (`uthash.h`)

The elements of a table are linked in the order in which they were added, and again bucket by
bucket, each in the bucket of its hash (`InBuckets`, `Holds`). Each operation does to that list of
elements what it is for: `hashAdd_holds`, `hashDelete_holds`, `hashFind_holds`. An expansion moves
every element to the bucket of its hash among twice as many (`hashExpandBuckets_inBuckets`).
-/

namespace IpxWrapper

open Base

namespace UtHash

/-! ## Buckets -/

/-- There are `2 ^ k` buckets. -/
theorem hashToBkt_lt (hashv : UInt32) (k : Nat) : hashToBkt hashv (2 ^ k) < 2 ^ k := by
  unfold hashToBkt
  rw [Nat.and_two_pow_sub_one_eq_mod]
  exact Nat.mod_lt _ (Nat.two_pow_pos k)

/-- Each element is in the chain of its bucket. -/
structure InBuckets (hashv : Nat → UInt32) (hh : Links) (buckets : Nat → UtHashBucket) (num : Nat)
    (elems : List Nat) (chains : Nat → List Nat) : Prop where
  linked : ∀ i, IsLinked hh (chains i)
  head : ∀ i, (buckets i).hhHead = (chains i).head?
  count : ∀ i, (buckets i).count = (chains i).length
  mem_iff : ∀ i a, a ∈ chains i ↔ a ∈ elems ∧ hashToBkt (hashv a) num = i

section Buckets

variable {hashv hashv' : Nat → UInt32} {hh : Links} {buckets : Nat → UtHashBucket} {num a : Nat}
  {elems elems' : List Nat} {chains : Nat → List Nat}

theorem inBuckets_zero (hashv : Nat → UInt32) (hh : Links) (num : Nat) :
    InBuckets hashv hh (fun _ => .zero) num [] fun _ => [] :=
  ⟨fun _ => isLinked_nil hh, fun _ => rfl, fun _ => rfl, fun _ _ =>
    iff_of_false List.not_mem_nil fun both => List.not_mem_nil both.1⟩

theorem InBuckets.congr (b : InBuckets hashv hh buckets num elems chains)
    (same : ∀ c ∈ elems, hashv' c = hashv c) : InBuckets hashv' hh buckets num elems chains := by
  refine ⟨b.linked, b.head, b.count, fun i c => (b.mem_iff i c).trans (and_congr_right fun member => ?_)⟩
  rw [same c member]

/-- An element is in no other chain. -/
theorem InBuckets.apart (b : InBuckets hashv hh buckets num elems chains) {i j c : Nat}
    (here : c ∈ chains i) (other : j ≠ i) : c ∉ chains j := by
  intro there
  have bucket := ((b.mem_iff i c).mp here).2
  exact other (((b.mem_iff j c).mp there).2.symm.trans bucket)

/-- A new element goes to the front of the chain of its bucket. -/
theorem InBuckets.push (b : InBuckets hashv hh buckets num elems chains) (new : a ∉ elems)
    (mem : ∀ c, c ∈ elems' ↔ c = a ∨ c ∈ elems) (mult : Nat) {i : Nat}
    (bkt : hashToBkt (hashv a) num = i) :
    InBuckets hashv (hh.push (buckets i).hhHead a)
      (Function.update buckets i ⟨some a, (buckets i).count + 1, mult⟩) num elems'
      (Function.update chains i (a :: chains i)) := by
  have new_chain (j : Nat) : a ∉ chains j := fun member => new ((b.mem_iff j a).mp member).1
  rw [b.head i]
  refine ⟨fun j => ?_, fun j => ?_, fun j => ?_, fun j c => ?_⟩
  all_goals rcases eq_or_ne j i with rfl | other
  · rw [Function.update_self]
    exact (b.linked j).push (new_chain j)
  · rw [Function.update_of_ne other]
    refine (b.linked j).frame fun c member => IsLinked.push_elsewhere ?_ (b.apart member other.symm)
    exact ne_of_mem_of_not_mem member (new_chain j)
  · rw [Function.update_self, Function.update_self]
    rfl
  · rw [Function.update_of_ne other, Function.update_of_ne other]
    exact b.head j
  · rw [Function.update_self, Function.update_self, b.count j]
    rfl
  · rw [Function.update_of_ne other, Function.update_of_ne other]
    exact b.count j
  · rw [Function.update_self, List.mem_cons, mem c, b.mem_iff j c, or_and_right]
    refine or_congr_left (iff_self_and.mpr ?_)
    rintro rfl
    exact bkt
  · rw [Function.update_of_ne other, b.mem_iff j c, mem c, or_and_right]
    refine (or_iff_right ?_).symm
    rintro ⟨rfl, there⟩
    exact other (there.symm.trans bkt)

/-- An element is taken out of the chain of its bucket. -/
theorem InBuckets.delete (b : InBuckets hashv hh buckets num elems chains) (member : a ∈ elems)
    (mem : ∀ c, c ∈ elems' ↔ c ≠ a ∧ c ∈ elems) {i : Nat} (bkt : hashToBkt (hashv a) num = i) :
    InBuckets hashv (hashDelInBkt hh (buckets i) a).1
      (Function.update buckets i (hashDelInBkt hh (buckets i) a).2) num elems'
      (Function.update chains i ((chains i).erase a)) := by
  obtain ⟨xs, ys, cut⟩ := List.append_of_mem ((b.mem_iff i a).mpr ⟨member, bkt⟩)
  have list := b.linked i
  rw [cut] at list
  have a_xs : a ∉ xs := fun member' =>
    (List.nodup_append.mp list.nodup).2.2 a member' a List.mem_cons_self rfl
  have erased : (chains i).erase a = xs ++ ys := by
    rw [cut, List.erase_append_right _ a_xs, List.erase_cons_head]
  unfold hashDelInBkt
  rw [erased]
  refine ⟨fun j => ?_, fun j => ?_, fun j => ?_, fun j c => ?_⟩
  all_goals rcases eq_or_ne j i with rfl | other
  · rw [Function.update_self]
    exact list.unlink
  · rw [Function.update_of_ne other]
    refine (b.linked j).frame fun c member' => list.unlink_elsewhere ?_
    rw [← cut]
    exact b.apart member' other.symm
  · rw [Function.update_self, Function.update_self]
    dsimp only
    rw [b.head j, cut, list.around.2]
    cases xs with
    | nil => exact if_pos rfl
    | cons x xs =>
        refine if_neg fun same => a_xs ?_
        rw [← Option.some.inj same]
        exact List.mem_cons_self
  · rw [Function.update_of_ne other, Function.update_of_ne other]
    exact b.head j
  · rw [Function.update_self, Function.update_self]
    dsimp only
    rw [b.count j, cut, List.length_append, List.length_append, List.length_cons]
    rfl
  · rw [Function.update_of_ne other, Function.update_of_ne other]
    exact b.count j
  · rw [Function.update_self, ← erased, (b.linked j).nodup.mem_erase_iff, mem c, b.mem_iff j c,
      and_assoc]
  · rw [Function.update_of_ne other, b.mem_iff j c, mem c, and_assoc]
    refine (and_iff_right_of_imp ?_).symm
    rintro ⟨-, there⟩ rfl
    exact other (there.symm.trans bkt)

/-- A chain is no longer than the list of the elements. -/
theorem InBuckets.length_le (b : InBuckets hashv hh buckets num elems chains) (i : Nat) :
    (chains i).length ≤ elems.length :=
  List.Nodup.length_le_of_subset (b.linked i).nodup fun c member => ((b.mem_iff i c).mp member).1

end Buckets

/-! ## Expansion -/

section Expansion

variable {hashv : Nat → UInt32} {num rounds : Nat} {done rest : List Nat} {chains : Nat → List Nat}

/-- What an expansion has come to: the elements `done` are in the new buckets, and only nodes of
`moved` were written. -/
structure Expanded (hashv : Nat → UInt32) (num : Nat) (e e' : Expansion) (moved done : List Nat) :
    Prop where
  buckets : ∃ done' chains, InBuckets hashv e'.hh e'.newBuckets num done' chains ∧
    ∀ c, c ∈ done' ↔ c ∈ moved ∨ c ∈ done
  kept : ∀ c, c ∉ moved → e'.hh.next c = e.hh.next c

/-- The elements of a chain are moved, one after the other. -/
theorem expandBucket_expanded (ideal : Nat) (e : Expansion)
    (b : InBuckets hashv e.hh e.newBuckets num done chains) (followed : Followed e.hh rest)
    (nodup : rest.Nodup) (apart : ∀ c ∈ rest, c ∉ done) (enough : rest.length ≤ rounds) :
    ∃ e', expandBucket hashv num ideal rounds rest.head? e = some e' ∧
      Expanded hashv num e e' rest done := by
  induction rest generalizing e done chains rounds with
  | nil =>
      refine ⟨e, ?_, ⟨done, chains, b, fun c => ?_⟩, fun _ _ => rfl⟩
      · unfold expandBucket
        rfl
      · exact (or_iff_right List.not_mem_nil).symm
  | cons thh rest ih =>
      obtain ⟨new, nodup⟩ := List.nodup_cons.mp nodup
      obtain ⟨next, followed⟩ := followed
      cases rounds with
      | zero => exact absurd enough (Nat.not_succ_le_zero _)
      | succ rounds =>
          have mem_done (c : Nat) : c ∈ thh :: done ↔ c = thh ∨ c ∈ done := List.mem_cons
          have moved := b.push (apart thh List.mem_cons_self) mem_done
            (if ideal < (e.newBuckets (hashToBkt (hashv thh) num)).count + 1
              then ((e.newBuckets (hashToBkt (hashv thh) num)).count + 1) / ideal
              else (e.newBuckets (hashToBkt (hashv thh) num)).expandMult) rfl
          have others (c : Nat) (other : c ≠ thh) :
              (e.hh.push (e.newBuckets (hashToBkt (hashv thh) num)).hhHead thh).next c =
                e.hh.next c := push_next other
          have apart' (c : Nat) (member : c ∈ rest) : c ∉ thh :: done := by
            rw [List.mem_cons, not_or]
            exact ⟨ne_of_mem_of_not_mem member new, apart c (List.mem_cons_of_mem thh member)⟩
          obtain ⟨e', expands, ⟨done', chains', b', mem⟩, kept⟩ := ih ⟨_, _,
              if ideal < (e.newBuckets (hashToBkt (hashv thh) num)).count + 1
                then e.nonidealItems + 1 else e.nonidealItems⟩ moved
            (followed.frame fun c member => others c (ne_of_mem_of_not_mem member new)) nodup
            apart' (Nat.le_of_succ_le_succ enough)
          refine ⟨e', ?_, ⟨done', chains', b', fun c => ?_⟩, fun c elsewhere => ?_⟩
          · rw [List.head?_cons, expandBucket, next]
            exact expands
          · rw [mem c, List.mem_cons, List.mem_cons, or_left_comm, or_assoc]
          · rw [List.mem_cons, not_or] at elsewhere
            exact (kept c elsewhere.2).trans (others c elsewhere.1)

/-- The chains `old j` are moved, for each `j` in `js`. -/
theorem expandBuckets_expanded {buckets : Nat → UtHashBucket} {old : Nat → List Nat} (rounds ideal : Nat)
    (e : Expansion) (js : List Nat) (b : InBuckets hashv e.hh e.newBuckets num done chains)
    (heads : ∀ j, (buckets j).hhHead = (old j).head?) (followed : ∀ j ∈ js, Followed e.hh (old j))
    (nodup : ∀ j, (old j).Nodup) (apart : ∀ j ∈ js, ∀ c ∈ old j, c ∉ done)
    (nodup_js : js.Nodup) (disjoint : ∀ i j c, c ∈ old i → c ∈ old j → i = j)
    (enough : ∀ j, (old j).length ≤ rounds) :
    ∃ e', js.foldlM (fun e j => expandBucket hashv num ideal rounds (buckets j).hhHead e) e = some e' ∧
      Expanded hashv num e e' (js.flatMap old) done := by
  induction js generalizing e done chains with
  | nil =>
      refine ⟨e, rfl, ⟨done, chains, b, fun c => ?_⟩, fun _ _ => rfl⟩
      exact (or_iff_right List.not_mem_nil).symm
  | cons j js ih =>
      obtain ⟨new, nodup_js⟩ := List.nodup_cons.mp nodup_js
      obtain ⟨e₁, first, ⟨done₁, chains₁, b₁, mem₁⟩, kept₁⟩ := expandBucket_expanded ideal e b
        (followed j List.mem_cons_self) (nodup j) (apart j List.mem_cons_self) (enough j)
      have other (k : Nat) (member : k ∈ js) (c : Nat) (there : c ∈ old k) : c ∉ old j := fun here =>
        new (disjoint k j c there here ▸ member)
      have apart' (k : Nat) (member : k ∈ js) (c : Nat) (there : c ∈ old k) : c ∉ done₁ := by
        rw [mem₁ c, not_or]
        exact ⟨other k member c there, apart k (List.mem_cons_of_mem j member) c there⟩
      obtain ⟨e', later, ⟨done', chains', b', mem'⟩, kept'⟩ := ih e₁ b₁
        (fun k member => (followed k (List.mem_cons_of_mem j member)).frame fun c there =>
          kept₁ c (other k member c there)) apart' nodup_js
      refine ⟨e', ?_, ⟨done', chains', b', fun c => ?_⟩, fun c elsewhere => ?_⟩
      · rw [List.foldlM_cons, heads j, first]
        exact later
      · rw [mem' c, mem₁ c, List.flatMap_cons, List.mem_append, or_left_comm, or_assoc]
      · rw [List.flatMap_cons, List.mem_append, not_or] at elsewhere
        exact (kept' c elsewhere.2).trans (kept₁ c elsewhere.1)

/-- `HASH_EXPAND_BUCKETS` ends, and each element is in its bucket of twice as many. -/
theorem hashExpandBuckets_inBuckets {hh : Links} {elems : List Nat} (tbl : UtHashTable)
    (b : InBuckets hashv hh tbl.buckets tbl.numBuckets elems chains)
    (power : tbl.numBuckets = 2 ^ tbl.log2NumBuckets) (enough : elems.length ≤ rounds) :
    ∃ hh' tbl', hashExpandBuckets rounds hashv hh tbl = some (hh', tbl') ∧
      (∃ chains', InBuckets hashv hh' tbl'.buckets tbl'.numBuckets elems chains') ∧
      tbl'.numBuckets = 2 ^ tbl'.log2NumBuckets ∧ tbl'.numItems = tbl.numItems ∧
      tbl'.tail = tbl.tail := by
  have disjoint (i j c : Nat) (here : c ∈ chains i) (there : c ∈ chains j) : i = j :=
    ((b.mem_iff i c).mp here).2.symm.trans ((b.mem_iff j c).mp there).2
  obtain ⟨e', expands, ⟨done', chains', b', mem⟩, -⟩ := expandBuckets_expanded rounds
    ((tbl.numItems >>> (tbl.log2NumBuckets + 1)) +
      if tbl.numItems &&& (2 * tbl.numBuckets - 1) ≠ 0 then 1 else 0)
    ⟨hh, fun _ => .zero, 0⟩ (List.range tbl.numBuckets)
    (inBuckets_zero hashv hh (2 * tbl.numBuckets)) b.head (fun j _ => (b.linked j).followed)
    (fun j => (b.linked j).nodup) (fun _ _ _ _ => List.not_mem_nil) List.nodup_range
    disjoint fun j => Nat.le_trans (b.length_le j) enough
  refine ⟨_, _, congrArg (Option.map _) expands, ⟨chains', b'.linked, b'.head, b'.count,
    fun i c => ?_⟩, ?_, rfl, rfl⟩
  · -- every element was in a chain
    have all : c ∈ done' ↔ c ∈ elems := by
      rw [mem c, or_iff_left List.not_mem_nil, List.mem_flatMap]
      refine ⟨fun ⟨j, _, there⟩ => ((b.mem_iff j c).mp there).1, fun member => ⟨_, ?_,
        (b.mem_iff _ c).mpr ⟨member, rfl⟩⟩⟩
      rw [List.mem_range, power]
      exact hashToBkt_lt ..
    rw [b'.mem_iff i c, all]
  · change 2 * tbl.numBuckets = 2 ^ (tbl.log2NumBuckets + 1)
    rw [power, Nat.pow_succ, Nat.mul_comm]

/-- `HASH_ADD_TO_BKT` ends, and the new element is in its bucket too. -/
theorem hashAddToBkt_inBuckets {hh : Links} {elems elems' : List Nat} (tbl : UtHashTable) (add : Nat)
    (b : InBuckets hashv hh tbl.buckets tbl.numBuckets elems chains)
    (power : tbl.numBuckets = 2 ^ tbl.log2NumBuckets) (new : add ∉ elems)
    (mem : ∀ c, c ∈ elems' ↔ c = add ∨ c ∈ elems) (enough : elems'.length ≤ rounds) :
    ∃ hh' tbl', hashAddToBkt rounds hashv hh tbl (hashToBkt (hashv add) tbl.numBuckets) add =
        some (hh', tbl') ∧
      (∃ chains', InBuckets hashv hh' tbl'.buckets tbl'.numBuckets elems' chains') ∧
      tbl'.numBuckets = 2 ^ tbl'.log2NumBuckets ∧ tbl'.numItems = tbl.numItems ∧
      tbl'.tail = tbl.tail := by
  have pushed := b.push new mem
    (tbl.buckets (hashToBkt (hashv add) tbl.numBuckets)).expandMult rfl
  unfold hashAddToBkt
  dsimp only
  split
  · exact hashExpandBuckets_inBuckets { tbl with buckets := _ } pushed power enough
  · exact ⟨_, _, rfl, ⟨_, pushed⟩, power, rfl, rfl⟩

end Expansion

/-! ## Tables -/

/-- What a table with these elements keeps; the last that was added comes last. -/
structure TableHolds (hash : List Byte → UInt32) (h : UtHashHandles) (tbl : UtHashTable)
    (elems : List Nat) : Prop where
  app : IsLinked h.app elems
  tail : elems.getLast? = some tbl.tail
  items : tbl.numItems = elems.length
  power : tbl.numBuckets = 2 ^ tbl.log2NumBuckets
  hashed : ∀ a ∈ elems, h.hashv a = hash (h.key a)
  buckets : ∃ chains, InBuckets h.hashv h.hh tbl.buckets tbl.numBuckets elems chains

structure Holds (hash : List Byte → UInt32) (t : HashTable) (elems : List Nat) : Prop where
  head : t.head.map Prod.fst = elems.head?
  table : ∀ head tbl, t.head = some (head, tbl) → TableHolds hash t.handles tbl elems

section Tables

variable {hash : List Byte → UInt32} {t : HashTable} {elems : List Nat} {a rounds : Nat}
  {key : List Byte}

theorem Holds.empty (holds : Holds hash t elems) (null : t.head = none) : elems = [] := by
  have head := holds.head
  rw [null] at head
  exact List.head?_eq_none_iff.mp head.symm

theorem holds_nil (handles : UtHashHandles) : Holds hash ⟨handles, none⟩ [] :=
  ⟨rfl, fun _ _ => nofun⟩

theorem Holds.nodup (holds : Holds hash t elems) : elems.Nodup := by
  rcases null : t.head with _ | ⟨head, tbl⟩
  · rw [holds.empty null]
    exact List.nodup_nil
  · exact (holds.table head tbl null).app.nodup

/-- `HASH_ADD` makes an element that is not in the table the last. -/
theorem hashAdd_holds (holds : Holds hash t elems) (key : List Byte) (new : a ∉ elems)
    (enough : elems.length < rounds) :
    ∃ t', hashAdd hash rounds a key t = some t' ∧ Holds hash t' (elems ++ [a]) ∧
      t'.handles.key = Function.update t.handles.key a key := by
  have mem (c : Nat) : c ∈ elems ++ [a] ↔ c = a ∨ c ∈ elems := by
    rw [List.mem_append, List.mem_singleton, or_comm]
  have longer : (elems ++ [a]).length ≤ rounds := by
    rw [List.length_append, List.length_singleton]
    exact enough
  have hashed_new (h : UtHashHandles) (before : ∀ c ∈ elems, h.hashv c = hash (h.key c)) :
      ∀ c ∈ elems ++ [a], Function.update h.hashv a (hash key) c =
        hash (Function.update h.key a key c) := by
    intro c member
    rcases (mem c).mp member with rfl | there
    · rw [Function.update_self, Function.update_self]
    · have other := ne_of_mem_of_not_mem there new
      rw [Function.update_of_ne other, Function.update_of_ne other, before c there]
  have same (h : UtHashHandles) : ∀ c ∈ elems, Function.update h.hashv a (hash key) c = h.hashv c :=
    fun c member => Function.update_of_ne (ne_of_mem_of_not_mem member new) ..
  have last : (elems ++ [a]).getLast? = some a := List.getLast?_concat
  unfold hashAdd hashLinkApp
  rcases null : t.head with _ | ⟨head, tbl⟩
  · obtain rfl := holds.empty null
    dsimp only
    have start := (inBuckets_zero t.handles.hashv t.handles.hh 32).congr (same t.handles)
    obtain ⟨hh', tbl', added, chains', power, items, tail⟩ := hashAddToBkt_inBuckets
      { hashMakeTable a with numItems := 1 } a start rfl new mem longer
    rw [Function.update_self] at added
    refine ⟨_, congrArg (Option.map _) added, ⟨rfl, fun head tbl is_head => ?_⟩, rfl⟩
    obtain ⟨rfl, rfl⟩ := Prod.mk.inj (Option.some.inj is_head)
    exact ⟨(isLinked_nil t.handles.app).append new, last.trans (congrArg some tail.symm), items,
      power, hashed_new t.handles nofun, chains'⟩
  · obtain ⟨app, tail, items, power, hashed, chains, b⟩ := holds.table head tbl null
    dsimp only
    obtain ⟨hh', tbl', added, chains', power', items', tail'⟩ := hashAddToBkt_inBuckets
      { tbl with numItems := tbl.numItems + 1, tail := a } a
      (b.congr (same t.handles)) power new mem longer
    rw [Function.update_self] at added
    refine ⟨_, congrArg (Option.map _) added, ⟨?_, fun head' tbl'' is_head => ?_⟩, rfl⟩
    · have first := holds.head
      rw [null] at first
      rw [List.head?_append, ← first]
      rfl
    · obtain ⟨rfl, rfl⟩ := Prod.mk.inj (Option.some.inj is_head)
      have linked := app.append new
      rw [tail] at linked
      refine ⟨linked, last.trans (congrArg some tail'.symm), ?_, power',
        hashed_new t.handles hashed, chains'⟩
      rw [items', items, List.length_append, List.length_singleton]

/-- `HASH_DELETE` takes an element of the table out of it. -/
theorem hashDelete_holds (holds : Holds hash t elems) (member : a ∈ elems) :
    Holds hash (hashDelete a t) (elems.erase a) ∧ (hashDelete a t).handles.key = t.handles.key := by
  rcases null : t.head with _ | ⟨head, tbl⟩
  · rw [holds.empty null] at member
    cases member
  obtain ⟨app, tail, items, power, hashed, chains, b⟩ := holds.table head tbl null
  obtain ⟨xs, ys, rfl⟩ := List.append_of_mem member
  obtain ⟨prev, next⟩ := app.around
  have first := holds.head
  rw [null, Option.map_some, List.head?_append] at first
  rw [List.getLast?_append, List.getLast?_cons] at tail
  have a_xs : a ∉ xs := fun member' =>
    (List.nodup_append.mp app.nodup).2.2 a member' a List.mem_cons_self rfl
  have a_ys : a ∉ ys := (List.nodup_cons.mp (List.nodup_append.mp app.nodup).2.1).1
  have erased : (xs ++ a :: ys).erase a = xs ++ ys := by
    rw [List.erase_append_right _ a_xs, List.erase_cons_head]
  have mem (c : Nat) : c ∈ xs ++ ys ↔ c ≠ a ∧ c ∈ xs ++ a :: ys := by
    rw [← erased, app.nodup.mem_erase_iff]
  unfold hashDelete
  rw [null, erased]
  dsimp only
  rw [prev, next]
  split
  · rename_i alone
    rw [List.getLast?_eq_none_iff.mp alone.1, List.head?_eq_none_iff.mp alone.2]
    exact ⟨holds_nil t.handles, rfl⟩
  · rename_i others
    refine ⟨⟨?_, fun head' tbl' is_head => ?_⟩, rfl⟩
    · rw [Option.map_some, List.head?_append]
      cases xs with
      | nil =>
          cases ys with
          | nil => exact absurd ⟨rfl, rfl⟩ others
          | cons y ys => rfl
      | cons x xs =>
          rw [if_neg (by rw [List.getLast?_cons]; exact Bool.false_ne_true)]
          exact first
    · obtain ⟨rfl, rfl⟩ := Prod.mk.inj (Option.some.inj is_head)
      refine ⟨app.unlink, ?_, ?_, power, fun c member' => hashed c ((mem c).mp member').2, _,
        b.delete member mem rfl⟩
      · dsimp only
        rw [List.getLast?_append]
        rcases List.eq_nil_or_concat ys with rfl | ⟨ys, y, rfl⟩
        · obtain rfl : a = tbl.tail := Option.some.inj tail
          rw [if_pos rfl]
          rcases last : xs.getLast? with _ | p
          · exact absurd ⟨last, rfl⟩ others
          · rfl
        · rw [List.concat_eq_append, List.getLast?_concat] at tail ⊢
          obtain rfl : y = tbl.tail := Option.some.inj tail
          have other : a ≠ tbl.tail := fun same => a_ys (by
            rw [List.concat_eq_append, same]
            exact List.mem_append_right _ List.mem_cons_self)
          rw [if_neg other]
          rfl
      · dsimp only
        rw [items, List.length_append, List.length_append, List.length_cons]
        rfl

/-! ## Going through -/

theorem hashFindInBkt_followed {h : UtHashHandles} {chain : List Nat} (followed : Followed h.hh chain)
    (enough : chain.length ≤ rounds) :
    hashFindInBkt h key rounds chain.head? = some (chain.find? fun c => h.key c = key) := by
  induction chain generalizing rounds with
  | nil =>
      unfold hashFindInBkt
      rfl
  | cons c chain ih =>
      obtain ⟨next, followed⟩ := followed
      cases rounds with
      | zero => exact absurd enough (Nat.not_succ_le_zero _)
      | succ rounds =>
          rw [List.head?_cons, hashFindInBkt]
          split
          · rename_i same
            rw [List.find?_cons_of_pos (by simpa only [decide_eq_true_eq] using same)]
          · rename_i other
            rw [List.find?_cons_of_neg (by simpa only [decide_eq_true_eq] using other), next]
            exact ih followed (Nat.le_of_succ_le_succ enough)

/-- `HASH_FIND` ends, with an element that has the key if there is one. -/
theorem hashFind_holds (holds : Holds hash t elems) (key : List Byte) (enough : elems.length ≤ rounds) :
    ∃ found, hashFind hash rounds key t = some found ∧
      (∀ a ∈ found, a ∈ elems ∧ t.handles.key a = key) ∧
      (found = none → ∀ a ∈ elems, t.handles.key a ≠ key) := by
  unfold hashFind
  rcases null : t.head with _ | ⟨head, tbl⟩
  · rw [holds.empty null]
    exact ⟨none, rfl, nofun, fun _ _ => nofun⟩
  · obtain ⟨app, tail, items, power, hashed, chains, b⟩ := holds.table head tbl null
    dsimp only
    rw [b.head, hashFindInBkt_followed (b.linked _).followed (Nat.le_trans (b.length_le _) enough)]
    refine ⟨_, rfl, fun c found => ⟨?_, ?_⟩, fun absent c member same => ?_⟩
    · exact ((b.mem_iff _ c).mp (List.mem_of_find?_eq_some found)).1
    · exact of_decide_eq_true (List.find?_some (p := fun c => decide (t.handles.key c = key)) found)
    · -- an element with the key is in the chain that is searched
      have there := (b.mem_iff (hashToBkt (hash key) tbl.numBuckets) c).mpr
        ⟨member, by rw [hashed c member, same]⟩
      exact List.find?_eq_none.mp absent c there (decide_eq_true same)

theorem hashIterFrom_followed {app : Links} {list : List Nat} (followed : Followed app list)
    (enough : list.length ≤ rounds) : hashIterFrom app rounds list.head? = some list := by
  induction list generalizing rounds with
  | nil =>
      unfold hashIterFrom
      rfl
  | cons c list ih =>
      obtain ⟨next, followed⟩ := followed
      cases rounds with
      | zero => exact absurd enough (Nat.not_succ_le_zero _)
      | succ rounds =>
          rw [List.head?_cons, hashIterFrom, next, ih followed (Nat.le_of_succ_le_succ enough)]
          rfl

/-- `HASH_ITER` comes to each element once, in the order in which they were added. -/
theorem hashIter_holds (holds : Holds hash t elems) (enough : elems.length ≤ rounds) :
    hashIter rounds t = some elems := by
  unfold hashIter
  rw [holds.head]
  rcases null : t.head with _ | ⟨head, tbl⟩
  · rw [holds.empty null]
    unfold hashIterFrom
    rfl
  · exact hashIterFrom_followed (holds.table head tbl null).app.followed enough

theorem hashDrainFrom_holds (holds : Holds hash t elems) (enough : elems.length ≤ rounds) :
    ∃ t', hashDrainFrom rounds elems.head? (elems.head?.bind t.handles.app.next) t = some (elems, t') ∧
      t'.head = none ∧ t'.handles.key = t.handles.key := by
  induction elems generalizing t rounds with
  | nil =>
      refine ⟨t, ?_, Option.map_eq_none_iff.mp holds.head, rfl⟩
      unfold hashDrainFrom
      rfl
  | cons el rest ih =>
      cases rounds with
      | zero => exact absurd enough (Nat.not_succ_le_zero _)
      | succ rounds =>
          obtain ⟨deleted, key⟩ := hashDelete_holds holds List.mem_cons_self
          rw [List.erase_cons_head] at deleted
          obtain ⟨t', drained, empty, key'⟩ := ih deleted (Nat.le_of_succ_le_succ enough)
          have next : t.handles.app.next el = rest.head? := by
            rcases null : t.head with _ | ⟨head, tbl⟩
            · exact absurd (holds.empty null) (List.cons_ne_nil el rest)
            · exact (holds.table head tbl null).app.followed.1
          refine ⟨t', ?_, empty, key'.trans key⟩
          rw [List.head?_cons, Option.bind_some, next, hashDrainFrom]
          dsimp only
          rw [drained]
          rfl

/-- `HASH_ITER` deletes each element, and leaves an empty table. -/
theorem hashDrain_holds (holds : Holds hash t elems) (enough : elems.length ≤ rounds) :
    ∃ t', hashDrain rounds t = some (elems, t') ∧ Holds hash t' [] := by
  unfold hashDrain
  rw [holds.head]
  obtain ⟨t', drained, empty, -⟩ := hashDrainFrom_holds holds enough
  refine ⟨t', drained, congrArg (Option.map Prod.fst) empty, fun head tbl some_head => ?_⟩
  cases empty.symm.trans some_head

theorem fsckLinks_segment {l : Links} {before : Option Nat} {list : List Nat}
    (segment : l.Segment before list none) (enough : list.length ≤ rounds) :
    fsckLinks l rounds before list.head? = some list.length := by
  induction list generalizing before rounds with
  | nil =>
      unfold fsckLinks
      rfl
  | cons c list ih =>
      obtain ⟨prev, next, after⟩ := segment
      rw [Option.or_none] at next
      cases rounds with
      | zero => exact absurd enough (Nat.not_succ_le_zero _)
      | succ rounds =>
          rw [List.head?_cons, fsckLinks, if_pos prev, next, ih after (Nat.le_of_succ_le_succ enough)]
          rfl

/-- The chains of the buckets share the elements out. -/
theorem InBuckets.sum_length {hashv : Nat → UInt32} {hh : Links} {buckets : Nat → UtHashBucket} {k : Nat}
    {chains : Nat → List Nat} (b : InBuckets hashv hh buckets (2 ^ k) elems chains)
    (nodup : elems.Nodup) :
    ((List.range (2 ^ k)).map fun i => (chains i).length).sum = elems.length := by
  rw [← List.length_flatMap]
  refine List.Perm.length_eq ((List.perm_ext_iff_of_nodup ?_ nodup).mpr fun c => ?_)
  · refine List.nodup_flatMap.mpr ⟨fun i _ => (b.linked i).nodup, ?_⟩
    refine List.nodup_range.imp fun {i j} other c here there => ?_
    exact b.apart here (Ne.symm other) there
  · rw [List.mem_flatMap]
    refine ⟨fun ⟨i, _, there⟩ => ((b.mem_iff i c).mp there).1, fun member => ⟨_, ?_,
      (b.mem_iff _ c).mpr ⟨member, rfl⟩⟩⟩
    exact List.mem_range.mpr (hashToBkt_lt ..)

/-- `HASH_FSCK` has nothing to report. -/
theorem hashFsck_holds (holds : Holds hash t elems) (enough : elems.length ≤ rounds) :
    hashFsck rounds t = true := by
  unfold hashFsck
  rcases null : t.head with _ | ⟨head, tbl⟩
  · rfl
  · obtain ⟨app, tail, items, power, hashed, chains, b⟩ := holds.table head tbl null
    have first := holds.head
    rw [null, Option.map_some] at first
    have counts : (fun i => (tbl.buckets i).count) = fun i => (chains i).length := funext b.count
    rw [power] at b
    simp only [Bool.and_eq_true, List.all_eq_true, decide_eq_true_eq]
    refine ⟨⟨fun i _ => ?_, ?_⟩, ?_⟩
    · rw [b.head, b.count]
      exact fsckLinks_segment (b.linked i).segment (Nat.le_trans (b.length_le i) enough)
    · rw [counts, power, b.sum_length app.nodup, items]
    · rw [first, items]
      exact fsckLinks_segment app.segment enough

end Tables

end UtHash

end IpxWrapper
