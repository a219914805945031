import IpxWrapper.CoalesceCorrectness

/-!
# One node for each destination

`get_coalesce_by_dest` finds a node by the raw bytes of its key, and the key that it
looks for is a local variable whose padding C leaves unspecified. A destination keeps
its one node exactly as long as the padding happens to be what the first call for the
destination left in the node.
-/

namespace IpxWrapper

open Base

variable {env : CoalesceEnv} {s : CoalesceState} {call c d : SendCall} {calls : List SendCall}
  {i j m n : Nat} {cd cd' : CoalesceDest}

/-- What a run of calls has returned, and the nodes after it. -/
structure Lookups where
  results : List (Option Nat)
  state : CoalesceState

variable (env) in
def Lookups.next (run : Lookups) (call : SendCall) : Lookups where
  results := run.results ++ [(getCoalesceByDest env call run.state).1]
  state := (getCoalesceByDest env call run.state).2

variable (env) in
/-- A run of `get_coalesce_by_dest` calls. -/
def runLookups (calls : List SendCall) : Lookups :=
  calls.foldl (Lookups.next env) ⟨[], .init⟩

theorem runLookups_concat (env : CoalesceEnv) (calls : List SendCall) (call : SendCall) :
    runLookups env (calls ++ [call]) = (runLookups env calls).next env call := by
  unfold runLookups
  rw [List.foldl_append]
  rfl

/-- Two calls have returned the same node exactly if they were for the same destination, and
no destination has two nodes. -/
structure OneNodeEach (calls : List SendCall) (run : Lookups) : Prop where
  found : ∀ (i : Nat) (c : SendCall), calls[i]? = some c → ∃ m, run.results[i]? = some (some m)
  same : ∀ (i j : Nat) (c d : SendCall), calls[i]? = some c → calls[j]? = some d →
    (run.results[i]? = run.results[j]? ↔ c.dest = d.dest)
  single : ∀ (m n : Nat) (cd cd' : CoalesceDest), run.state.coalesceTable[m]? = some cd →
    run.state.coalesceTable[n]? = some cd' → cd.dest = cd'.dest → m = n

/-- The first of the calls for a destination. -/
def firstFor (dest : IpxDest) (calls : List SendCall) : Option SendCall :=
  calls.find? fun c => c.dest = dest

/-- The key of each call has the padding that the first call for its destination left in the
node. -/
def PaddingAgrees (calls : List SendCall) : Prop :=
  ∀ (j : Nat) (d : SendCall), calls[j]? = some d →
    ∀ c ∈ firstFor d.dest (calls.take j), d.keyPadding = c.nodePadding

/-! ## First calls -/

theorem firstFor_concat (dest : IpxDest) (calls : List SendCall) (call : SendCall) :
    firstFor dest (calls ++ [call]) =
      (firstFor dest calls).or (if call.dest = dest then some call else none) := by
  unfold firstFor
  rw [List.find?_append, List.find?_singleton]
  by_cases same : call.dest = dest <;> simp [same]

theorem firstFor_concat_of_mem {dest : IpxDest} (first : c ∈ firstFor dest calls)
    (call : SendCall) : c ∈ firstFor dest (calls ++ [call]) := by
  rw [firstFor_concat, Option.mem_def.mp first]
  rfl

theorem dest_of_firstFor {dest : IpxDest} (first : c ∈ firstFor dest calls) : c.dest = dest := by
  have passes := List.find?_some (p := fun c : SendCall => decide (c.dest = dest)) first
  exact of_decide_eq_true passes

/-- The last call is the only one whose padding a longer run adds to the condition. -/
theorem paddingAgrees_concat_iff : PaddingAgrees (calls ++ [call]) ↔
    PaddingAgrees calls ∧ ∀ c ∈ firstFor call.dest calls, call.keyPadding = c.nodePadding := by
  constructor
  · intro agrees
    constructor
    · intro j d at_j
      have inside := (List.getElem?_eq_some_iff.mp at_j).1
      have longer := agrees j d (by rw [List.getElem?_append_left inside]; exact at_j)
      rwa [List.take_append_of_le_length (Nat.le_of_lt inside)] at longer
    · have last := agrees calls.length call List.getElem?_concat_length
      rwa [List.take_left' rfl] at last
  · rintro ⟨agrees, last⟩ j d at_j
    rcases getElem?_concat_cases at_j with ⟨inside, at_j⟩ | ⟨rfl, rfl⟩
    · rw [List.take_append_of_le_length (Nat.le_of_lt inside)]
      exact agrees j d at_j
    · rw [List.take_left' rfl]
      exact last

/-! ## Nodes -/

theorem hashFind_eq_none_iff {key : CoalesceTableKey} {table : List CoalesceDest} :
    hashFind key table = none ↔ ∀ cd ∈ table, cd.key ≠ key := by
  induction table with
  | nil => simp [hashFind]
  | cons cd rest ih =>
      unfold hashFind
      rw [List.forall_mem_cons]
      cases later : hashFind key rest with
      | some i =>
          have known : ¬ ∀ cd ∈ rest, cd.key ≠ key := fun missing => by
            rw [ih.mpr missing] at later
            cases later
          exact ⟨fun missing => (by cases missing), fun missing => absurd missing.2 known⟩
      | none =>
          have unknown := ih.mp later
          by_cases same : cd.key = key
          · simp [same]
          · simp only [if_neg same, true_iff]
            exact ⟨same, unknown⟩

/-- As long as the padding agrees: the nodes are those that the first calls made. -/
structure NodesInv (calls : List SendCall) (run : Lookups) : Prop where
  length : run.results.length = calls.length
  found : ∀ (i : Nat) (c : SendCall), calls[i]? = some c → ∃ m cd, run.results[i]? = some (some m) ∧
    run.state.coalesceTable[m]? = some cd ∧ cd.dest = c.dest
  made : ∀ cd ∈ run.state.coalesceTable, ∃ c ∈ firstFor cd.dest calls,
    cd.key = ⟨c.dest, c.nodePadding⟩
  single : ∀ (m n : Nat) (cd cd' : CoalesceDest), run.state.coalesceTable[m]? = some cd →
    run.state.coalesceTable[n]? = some cd' → cd.dest = cd'.dest → m = n

variable {run : Lookups}

theorem NodesInv.oneNodeEach (inv : NodesInv calls run) : OneNodeEach calls run where
  found := fun i c at_i => by
    obtain ⟨m, -, result, -⟩ := inv.found i c at_i
    exact ⟨m, result⟩
  same := fun i j c d at_i at_j => by
    obtain ⟨m, cd, result_i, at_m, dest_i⟩ := inv.found i c at_i
    obtain ⟨n, cd', result_j, at_n, dest_j⟩ := inv.found j d at_j
    rw [result_i, result_j, ← dest_i, ← dest_j]
    constructor
    · intro same
      obtain rfl : m = n := Option.some.inj (Option.some.inj same)
      rw [at_m, Option.some.injEq] at at_n
      rw [at_n]
    · intro same
      rw [inv.single m n cd cd' at_m at_n same]
  single := inv.single

section Enabled

variable (enabled : env.dosboxCoalesce = true) (memory : call.mallocOk = true)

include enabled

theorem getCoalesceByDest_of_known (known : hashFind ⟨call.dest, call.keyPadding⟩ s.coalesceTable =
    some i) : getCoalesceByDest env call s = (some i, s) := by
  unfold getCoalesceByDest
  rw [if_neg (by rw [enabled]; exact Bool.noConfusion), known]

include memory

theorem getCoalesceByDest_of_unknown
    (unknown : hashFind ⟨call.dest, call.keyPadding⟩ s.coalesceTable = none) :
    getCoalesceByDest env call s = (some s.coalesceTable.length,
      { s with
        coalesceTable := s.coalesceTable ++ [newCoalesceDest ⟨call.dest, call.nodePadding⟩] }) := by
  unfold getCoalesceByDest
  rw [if_neg (by rw [enabled]; exact Bool.noConfusion), unknown]
  dsimp only
  rw [if_pos memory]

/-- A call whose padding agrees makes a node only if it is the first for its destination. -/
theorem NodesInv.next (inv : NodesInv calls run)
    (agrees : ∀ c ∈ firstFor call.dest calls, call.keyPadding = c.nodePadding) :
    NodesInv (calls ++ [call]) (run.next env call) := by
  cases known : hashFind ⟨call.dest, call.keyPadding⟩ run.state.coalesceTable with
  | some m =>
      obtain ⟨cd, at_m, key⟩ := hashFind_key known
      unfold Lookups.next
      rw [getCoalesceByDest_of_known enabled known]
      refine ⟨?_, fun i c at_i => ?_, fun cd member => ?_, inv.single⟩
      · rw [List.length_append, List.length_append, inv.length]
        rfl
      · rcases getElem?_concat_cases at_i with ⟨inside, at_i⟩ | ⟨rfl, rfl⟩
        · obtain ⟨n, cd', result, at_n, dest⟩ := inv.found i c at_i
          refine ⟨n, cd', ?_, at_n, dest⟩
          rw [List.getElem?_append_left (inv.length ▸ inside)]
          exact result
        · refine ⟨m, cd, ?_, at_m, congrArg CoalesceTableKey.dest key⟩
          rw [← inv.length]
          exact List.getElem?_concat_length
      · obtain ⟨c, first, key⟩ := inv.made cd member
        exact ⟨c, firstFor_concat_of_mem first call, key⟩
  | none =>
      -- A node for the destination would have the key that is looked for.
      have fresh : ∀ cd ∈ run.state.coalesceTable, cd.dest ≠ call.dest := by
        intro cd member same
        obtain ⟨c, first, key⟩ := inv.made cd member
        refine hashFind_eq_none_iff.mp known cd member ?_
        rw [same] at first
        rw [key, agrees c first, dest_of_firstFor first]
      have unseen : firstFor call.dest calls = none := by
        refine List.find?_eq_none.mpr fun c member same => ?_
        obtain ⟨i, at_i⟩ := List.mem_iff_getElem?.mp member
        obtain ⟨m, cd, -, at_m, dest⟩ := inv.found i c at_i
        exact fresh cd (List.mem_of_getElem? at_m) (dest.trans (of_decide_eq_true same))
      unfold Lookups.next
      rw [getCoalesceByDest_of_unknown enabled memory known]
      refine ⟨?_, fun i c at_i => ?_, fun cd member => ?_, fun m n cd cd' at_m at_n same => ?_⟩
      · rw [List.length_append, List.length_append, inv.length]
        rfl
      · rcases getElem?_concat_cases at_i with ⟨inside, at_i⟩ | ⟨rfl, rfl⟩
        · obtain ⟨n, cd', result, at_n, dest⟩ := inv.found i c at_i
          refine ⟨n, cd', ?_, ?_, dest⟩
          · rw [List.getElem?_append_left (inv.length ▸ inside)]
            exact result
          · dsimp only
            rw [List.getElem?_append_left (List.getElem?_eq_some_iff.mp at_n).1]
            exact at_n
        · refine ⟨run.state.coalesceTable.length, _, ?_, List.getElem?_concat_length, rfl⟩
          rw [← inv.length]
          exact List.getElem?_concat_length
      · rcases List.mem_append.mp member with old | new
        · obtain ⟨c, first, key⟩ := inv.made cd old
          exact ⟨c, firstFor_concat_of_mem first call, key⟩
        · obtain rfl := List.mem_singleton.mp new
          refine ⟨call, ?_, rfl⟩
          change firstFor call.dest (calls ++ [call]) = some call
          rw [firstFor_concat, unseen, if_pos rfl]
          rfl
      · rcases getElem?_concat_cases at_m with ⟨inside, at_m⟩ | ⟨rfl, rfl⟩ <;>
          rcases getElem?_concat_cases at_n with ⟨inside', at_n⟩ | ⟨rfl, rfl⟩
        · exact inv.single m n cd cd' at_m at_n same
        · exact absurd same (fresh cd (List.mem_of_getElem? at_m))
        · exact absurd same.symm (fresh cd' (List.mem_of_getElem? at_n))
        · rfl

/-- Where each destination still has one node after another call, its padding agreed: else
the destination of an earlier call would now have two. -/
theorem NodesInv.agrees (inv : NodesInv calls run)
    (each : OneNodeEach (calls ++ [call]) (run.next env call)) :
    ∀ c ∈ firstFor call.dest calls, call.keyPadding = c.nodePadding := by
  intro c first
  by_contra ne
  obtain ⟨i, at_i⟩ := List.mem_iff_getElem?.mp (List.mem_of_find?_eq_some (Option.mem_def.mp first))
  obtain ⟨m, cd, -, at_m, dest⟩ := inv.found i c at_i
  have own_dest : cd.dest = call.dest := dest.trans (dest_of_firstFor first)
  have unknown : hashFind ⟨call.dest, call.keyPadding⟩ run.state.coalesceTable = none := by
    refine hashFind_eq_none_iff.mpr fun cd' member same => ?_
    obtain ⟨c', first', key⟩ := inv.made cd' member
    rw [show cd'.dest = call.dest from congrArg CoalesceTableKey.dest same,
      Option.mem_def.mp first, Option.mem_some_iff] at first'
    subst first'
    exact ne (congrArg CoalesceTableKey.padding (same.symm.trans key))
  have single := each.single m run.state.coalesceTable.length cd
    (newCoalesceDest ⟨call.dest, call.nodePadding⟩)
  unfold Lookups.next at single
  rw [getCoalesceByDest_of_unknown enabled memory unknown] at single
  have inside := (List.getElem?_eq_some_iff.mp at_m).1
  have two := single (by
    dsimp only
    rw [List.getElem?_append_left inside]
    exact at_m) List.getElem?_concat_length own_dest
  omega

end Enabled

/-- A shorter run has no more nodes. -/
theorem OneNodeEach.of_concat (length : run.results.length = calls.length)
    (each : OneNodeEach (calls ++ [call]) (run.next env call)) : OneNodeEach calls run := by
  have at_end : ∀ (i : Nat) (c : SendCall), calls[i]? = some c →
      (calls ++ [call])[i]? = some c ∧ (run.next env call).results[i]? = run.results[i]? := by
    intro i c at_i
    have inside := (List.getElem?_eq_some_iff.mp at_i).1
    refine ⟨by rw [List.getElem?_append_left inside]; exact at_i, ?_⟩
    exact List.getElem?_append_left (length.symm ▸ inside)
  have kept : ∀ (m : Nat) (cd : CoalesceDest), run.state.coalesceTable[m]? = some cd →
      (run.next env call).state.coalesceTable[m]? = some cd := by
    intro m cd at_m
    unfold Lookups.next getCoalesceByDest
    dsimp only
    split
    · exact at_m
    split
    · exact at_m
    split
    · dsimp only
      rw [List.getElem?_append_left (List.getElem?_eq_some_iff.mp at_m).1]
      exact at_m
    · exact at_m
  constructor
  · intro i c at_i
    obtain ⟨longer, same⟩ := at_end i c at_i
    rw [← same]
    exact each.found i c longer
  · intro i j c d at_i at_j
    obtain ⟨longer_i, same_i⟩ := at_end i c at_i
    obtain ⟨longer_j, same_j⟩ := at_end j d at_j
    rw [← same_i, ← same_j]
    exact each.same i j c d longer_i longer_j
  · intro m n cd cd' at_m at_n
    exact each.single m n cd cd' (kept m cd at_m) (kept n cd' at_n)

theorem length_runLookups (env : CoalesceEnv) (calls : List SendCall) :
    (runLookups env calls).results.length = calls.length := by
  induction calls using List.reverseRecOn with
  | nil => rfl
  | append_singleton calls call ih =>
      rw [runLookups_concat, Lookups.next, List.length_append, List.length_append, ih]
      rfl

theorem PaddingAgrees.nodesInv (enabled : env.dosboxCoalesce = true)
    (memory : ∀ c ∈ calls, c.mallocOk = true) (agrees : PaddingAgrees calls) :
    NodesInv calls (runLookups env calls) := by
  induction calls using List.reverseRecOn with
  | nil =>
      exact ⟨rfl, fun _ _ at_i => (by cases at_i), fun _ member => (by cases member),
        fun _ _ _ _ at_m => (by cases at_m)⟩
  | append_singleton calls call ih =>
      obtain ⟨earlier, last⟩ := paddingAgrees_concat_iff.mp agrees
      have inv := ih (fun c member => memory c (List.mem_append_left _ member)) earlier
      rw [runLookups_concat]
      exact inv.next enabled (memory call (List.mem_append_right _ List.mem_cons_self)) last

/-- With coalescing enabled and memory for the nodes, a run of calls gives each destination one
node exactly if the padding agrees. -/
theorem runLookups_oneNodeEach_iff (env : CoalesceEnv) (calls : List SendCall)
    (enabled : env.dosboxCoalesce = true) (memory : ∀ c ∈ calls, c.mallocOk = true) :
    OneNodeEach calls (runLookups env calls) ↔ PaddingAgrees calls := by
  refine ⟨fun each => ?_, fun agrees => (agrees.nodesInv enabled memory).oneNodeEach⟩
  induction calls using List.reverseRecOn with
  | nil => exact fun _ _ at_j => by cases at_j
  | append_singleton calls call ih =>
      have earlier_memory : ∀ c ∈ calls, c.mallocOk = true :=
        fun c member => memory c (List.mem_append_left _ member)
      rw [runLookups_concat] at each
      have earlier := ih earlier_memory (each.of_concat (length_runLookups env calls))
      refine paddingAgrees_concat_iff.mpr ⟨earlier, ?_⟩
      exact (earlier.nodesInv enabled earlier_memory).agrees enabled
        (memory call (List.mem_append_right _ List.mem_cons_self)) each

/-- A call for `someDest` that finds `bytes` in the padding of its local key. -/
def callWith (bytes : List Byte) : SendCall :=
  { sendBytes 1 1 with keyPadding := bytes, nodePadding := bytes }

/-- With the padding cleared two calls get one node. -/
theorem clearedCalls_oneNodeEach :
    OneNodeEach [callWith [0], callWith [0]]
      (runLookups coalescingEnv [callWith [0], callWith [0]]) := by
  have cleared : ∀ c ∈ [callWith [0], callWith [0]], c = callWith [0] := by
    intro c member
    rw [List.mem_cons, List.mem_singleton, or_self] at member
    exact member
  refine (runLookups_oneNodeEach_iff coalescingEnv _ rfl fun c member => ?_).mpr
    fun j d at_j c first => ?_
  · rw [cleared c member]
    rfl
  · have earlier := List.mem_of_mem_take (List.mem_of_find?_eq_some first)
    rw [cleared c earlier, cleared d (List.mem_of_getElem? at_j)]
    rfl

/-- Two calls for one destination that find different bytes on the stack get two nodes. -/
theorem dirtyCalls_not_oneNodeEach :
    ¬ OneNodeEach [callWith [0], callWith [1]]
      (runLookups coalescingEnv [callWith [0], callWith [1]]) := by
  intro each
  have same := (each.same 0 1 (callWith [0]) (callWith [1]) rfl rfl).mpr rfl
  revert same
  decide

end IpxWrapper
