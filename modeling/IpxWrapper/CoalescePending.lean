import IpxWrapper.CoalesceCorrectness

/-!
# The pending list of the coalescer

`coalesce_flush_waiting` looks at the head of `coalesce_pending` only, so what it
promises for every destination rests on the list being complete and ordered.

* `Timely`: the list is ordered by the time the payloads began, none later than
  the clock. Each function of the coalescer keeps it.
* `runCoalesce_pendingOk`: runs under a clock that does not go back.

The sizes are numbers here: what `sendto` lets through is far smaller than 2^31,
where `int` and `size_t` agree.
-/

namespace IpxWrapper

open Base Loop

variable {env : CoalesceEnv} {call : SendCall} {s s' : CoalesceState} {i : Nat}
  {cd : CoalesceDest} {clock : UInt64}

/-- `payload_timestamp` behind a pointer. -/
def CoalesceState.payloadTimestamp (s : CoalesceState) (i : Nat) : UInt64 :=
  match s.coalesceTable[i]? with
  | some cd => cd.payloadTimestamp
  | none => 0

/-- The order of the pending list, with what keeps it: it links nodes with data,
each once, and no data is younger than the clock. -/
structure Timely (clock : UInt64) (s : CoalesceState) : Prop where
  nodup : s.coalescePending.Nodup
  waiting : ∀ i ∈ s.coalescePending, ∃ cd, s.coalesceTable[i]? = some cd ∧ cd.payload ≠ []
  sorted : s.coalescePending.Pairwise fun i j => s.payloadTimestamp i ≤ s.payloadTimestamp j
  past : ∀ i ∈ s.coalescePending, s.payloadTimestamp i ≤ clock

theorem CoalesceState.payloadTimestamp_eq (at_i : s.coalesceTable[i]? = some cd) :
    s.payloadTimestamp i = cd.payloadTimestamp := by
  unfold CoalesceState.payloadTimestamp
  rw [at_i]

/-! ## What keeps the order -/

theorem Timely.init : Timely clock CoalesceState.init where
  nodup := List.nodup_nil
  waiting := fun _ member => (List.not_mem_nil member).elim
  sorted := List.Pairwise.nil
  past := fun _ member => (List.not_mem_nil member).elim

theorem Timely.mono (timely : Timely clock s) {later : UInt64} (le : clock ≤ later) :
    Timely later s where
  nodup := timely.nodup
  waiting := timely.waiting
  sorted := timely.sorted
  past := fun i member => UInt64.le_trans (timely.past i member) le

/-- From `s` to `s'` a node keeps that it has data, and since when. -/
def KeepsData (s s' : CoalesceState) (i : Nat) : Prop :=
  ∀ cd, s.coalesceTable[i]? = some cd → cd.payload ≠ [] →
    ∃ cd', s'.coalesceTable[i]? = some cd' ∧ cd'.payload ≠ [] ∧
      cd'.payloadTimestamp = cd.payloadTimestamp

theorem KeepsData.of_eq (same : s'.coalesceTable[i]? = s.coalesceTable[i]?) : KeepsData s s' i :=
  fun cd at_i waiting => ⟨cd, same.trans at_i, waiting, rfl⟩

theorem Timely.payloadTimestamp_eq (timely : Timely clock s) (member : i ∈ s.coalescePending)
    (keeps : KeepsData s s' i) : s'.payloadTimestamp i = s.payloadTimestamp i := by
  obtain ⟨cd, at_i, waiting⟩ := timely.waiting i member
  obtain ⟨cd', at_i', -, same⟩ := keeps cd at_i waiting
  rw [CoalesceState.payloadTimestamp_eq at_i, CoalesceState.payloadTimestamp_eq at_i', same]

/-- Unlinking nodes keeps the order of the others. -/
theorem Timely.of_sublist (timely : Timely clock s)
    (unlinked : s'.coalescePending.Sublist s.coalescePending)
    (keeps : ∀ i ∈ s'.coalescePending, KeepsData s s' i) : Timely clock s' where
  nodup := timely.nodup.sublist unlinked
  waiting := fun i member => by
    obtain ⟨cd, at_i, waiting⟩ := timely.waiting i (unlinked.subset member)
    obtain ⟨cd', at_i', waiting', -⟩ := keeps i member cd at_i waiting
    exact ⟨cd', at_i', waiting'⟩
  sorted := by
    refine (timely.sorted.sublist unlinked).imp_of_mem fun {i j} at_i at_j le => ?_
    rw [timely.payloadTimestamp_eq (unlinked.subset at_i) (keeps i at_i),
      timely.payloadTimestamp_eq (unlinked.subset at_j) (keeps j at_j)]
    exact le
  past := fun i member => by
    rw [timely.payloadTimestamp_eq (unlinked.subset member) (keeps i member)]
    exact timely.past i (unlinked.subset member)

/-- Steps that do not touch the list. -/
theorem Timely.of_pending_eq (timely : Timely clock s)
    (same : s'.coalescePending = s.coalescePending) (keeps : ∀ i, KeepsData s s' i) :
    Timely clock s' := by
  refine timely.of_sublist ?_ fun i _ => keeps i
  rw [same]

/-- A node whose payload begins now goes to the end. -/
theorem Timely.append (timely : Timely clock s) (at_i : s.coalesceTable[i]? = some cd)
    (empty : cd.payload = []) {new : CoalesceDest} (nonempty : new.payload ≠ [])
    (began : new.payloadTimestamp = clock)
    (table : s'.coalesceTable = s.coalesceTable.set i new)
    (pending : s'.coalescePending = s.coalescePending ++ [i]) : Timely clock s' := by
  have fresh : i ∉ s.coalescePending := by
    intro member
    obtain ⟨cd', at_i', waiting⟩ := timely.waiting i member
    rw [at_i, Option.some.injEq] at at_i'
    rw [← at_i'] at waiting
    exact waiting empty
  have at_i' : s'.coalesceTable[i]? = some new := getElem?_of_set at_i table
  have others : ∀ j ∈ s.coalescePending, KeepsData s s' j := by
    intro j member
    have ne : i ≠ j := fun same => fresh (by rwa [same])
    refine KeepsData.of_eq ?_
    rw [table, List.getElem?_set_ne ne]
  have now : s'.payloadTimestamp i = clock := by
    rw [CoalesceState.payloadTimestamp_eq at_i', began]
  constructor
  · rw [pending, List.nodup_append]
    exact ⟨timely.nodup, List.nodup_singleton i, fun j at_j k at_k same =>
      fresh (List.mem_singleton.mp at_k ▸ same ▸ at_j)⟩
  · intro j member
    rw [pending, List.mem_append, List.mem_singleton] at member
    rcases member with old | rfl
    · obtain ⟨cd', at_j, waiting⟩ := timely.waiting j old
      obtain ⟨cd'', at_j', waiting', -⟩ := others j old cd' at_j waiting
      exact ⟨cd'', at_j', waiting'⟩
    · exact ⟨new, at_i', nonempty⟩
  · rw [pending, List.pairwise_append]
    refine ⟨timely.sorted.imp_of_mem fun {j k} at_j at_k le => ?_, List.pairwise_singleton _ i,
      fun j at_j k at_k => ?_⟩
    · rw [timely.payloadTimestamp_eq at_j (others j at_j),
        timely.payloadTimestamp_eq at_k (others k at_k)]
      exact le
    · rw [List.mem_singleton.mp at_k, now, timely.payloadTimestamp_eq at_j (others j at_j)]
      exact timely.past j at_j
  · intro j member
    rw [pending, List.mem_append, List.mem_singleton] at member
    rcases member with old | rfl
    · rw [timely.payloadTimestamp_eq old (others j old)]
      exact timely.past j old
    · rw [now]
      exact UInt64.le_refl clock

/-! ## The functions of the coalescer -/

theorem Timely.flush (timely : Timely clock s) (env : CoalesceEnv)
    (at_i : s.coalesceTable[i]? = some cd) : Timely clock (coalesceFlush env i s) := by
  obtain ⟨-, table, pending⟩ := coalesceFlush_of_some env at_i
  refine timely.of_sublist ?_ fun j member => KeepsData.of_eq ?_
  · rw [pending]
    exact List.erase_sublist
  · rw [pending] at member
    have ne : i ≠ j := fun same => (timely.nodup.mem_erase_iff.mp member).1 same.symm
    rw [table, List.getElem?_set_ne ne]

theorem Timely.flushIfDue (timely : Timely clock s) (env : CoalesceEnv) (now : UInt64) (i : Nat) :
    Timely clock (flushIfDue env now i s) := by
  unfold IpxWrapper.flushIfDue
  split
  · exact timely
  · rename_i cd at_i
    split
    · exact timely.flush env at_i
    · exact timely

theorem Timely.makeRoom (timely : Timely clock s) (env : CoalesceEnv)
    (at_i : s.coalesceTable[i]? = some cd) (shouldCoalesce : Bool) (size : Nat) :
    Timely clock (makeRoom env shouldCoalesce size i s) := by
  by_cases room : shouldCoalesce ∧ cd.MakesRoom size
  · rw [makeRoom_of_room at_i room]
    exact timely.flush env at_i
  · rw [makeRoom_of_no_room at_i room]
    exact timely

/-- Registering a send leaves the payload. -/
theorem Timely.register (timely : Timely clock s) (at_i : s.coalesceTable[i]? = some cd)
    (now : UInt64) : Timely clock (s.setNode i (cd.registered now)) := by
  refine timely.of_pending_eq rfl fun j cd' at_j waiting => ?_
  by_cases same : j = i
  · subst same
    rw [at_i, Option.some.injEq] at at_j
    subst at_j
    exact ⟨cd.registered now, getElem?_of_set at_i rfl, by rwa [cd.registered_payload],
      CoalesceDest.setActive_payloadTimestamp _⟩
  · refine ⟨cd', ?_, waiting, rfl⟩
    rw [CoalesceState.setNode, List.getElem?_set_ne (Ne.symm same)]
    exact at_j

/-- When the payload that a packet joins began. -/
theorem coalesceAddData_payloadTimestamp (at_i : s.coalesceTable[i]? = some cd)
    {new : CoalesceDest} (at_i' : (coalesceAddData call i s).2.coalesceTable[i]? = some new)
    (added : (coalesceAddData call i s).1 = true) :
    new.payloadTimestamp = if cd.payload = [] then call.now else cd.payloadTimestamp := by
  unfold coalesceAddData at at_i' added
  simp only [at_i] at at_i' added
  by_cases empty : cd.payload = []
  · rw [if_pos (cd.payloadUsed_eq_zero_iff.mpr empty)] at at_i' added
    rw [if_pos empty]
    by_cases large : coalesceMaxSize < NovellIpxPacket.size + call.data.length
    · rw [if_pos large] at added
      cases added
    · rw [if_neg large, getElem?_of_set at_i rfl] at at_i'
      cases at_i'
      rfl
  · rw [if_neg fun zero => empty (cd.payloadUsed_eq_zero_iff.mp zero)] at at_i' added
    rw [if_neg empty]
    by_cases fits : cd.payloadUsed + call.data.length ≤ coalesceMaxSize
    · rw [if_pos fits, getElem?_of_set at_i rfl] at at_i'
      cases at_i'
      rfl
    · rw [if_neg fits] at added
      cases added

theorem Timely.addData (timely : Timely call.now s) (i : Nat) :
    Timely call.now (coalesceAddData call i s).2 := by
  rcases at_i : s.coalesceTable[i]? with _ | cd
  · unfold coalesceAddData
    simp only [at_i]
    exact timely
  cases added : (coalesceAddData call i s).1 with
  | false =>
      rw [(coalesceAddData_of_refused at_i added).1]
      exact timely
  | true =>
      obtain ⟨new, joins⟩ := coalesceAddData_of_added at_i added
      have at_i' := getElem?_of_set at_i joins.table
      have began := coalesceAddData_payloadTimestamp at_i at_i' added
      have pending := joins.pending
      by_cases empty : cd.payload = []
      · rw [if_pos empty] at began pending
        exact timely.append at_i empty joins.nonempty began joins.table pending
      · rw [if_neg empty] at began pending
        rw [List.append_nil] at pending
        refine timely.of_pending_eq pending fun j cd' at_j waiting => ?_
        by_cases same : j = i
        · subst same
          rw [at_i, Option.some.injEq] at at_j
          subst at_j
          exact ⟨new, at_i', joins.nonempty, began⟩
        · refine ⟨cd', ?_, waiting, rfl⟩
          rw [joins.table, List.getElem?_set_ne (Ne.symm same)]
          exact at_j

theorem Timely.onNode (timely : Timely call.now s) (env : CoalesceEnv) (i : Nat) :
    Timely call.now (coalesceOnNode env call i s).2 := by
  unfold coalesceOnNode
  split
  · exact timely
  · rename_i node at_i
    have at_i₁ : (s.setNode i (node.registered call.now)).coalesceTable[i]? =
        some (node.registered call.now) := getElem?_of_set at_i rfl
    have roomy := (timely.register at_i call.now).makeRoom env at_i₁
      (coalesceRegisterSend node call.now).1 call.data.length
    simp only
    split
    · exact (roomy.addData i).flushIfDue env call.now i
    · exact roomy.flushIfDue env call.now i

theorem Timely.lookup (timely : Timely clock s) (env : CoalesceEnv) (call : SendCall) :
    Timely clock (getCoalesceByDest env call s).2 := by
  unfold getCoalesceByDest
  split
  · exact timely
  split
  · exact timely
  split
  · refine timely.of_pending_eq rfl fun j cd' at_j waiting => ⟨cd', ?_, waiting, rfl⟩
    dsimp only
    rw [List.getElem?_append_left (List.getElem?_eq_some_iff.mp at_j).1]
    exact at_j
  · exact timely

theorem Timely.rSendto (timely : Timely clock s) (env : CoalesceEnv) (datagram : Sent) :
    Timely clock (rSendto env datagram s).2 := by
  obtain ⟨-, table, pending, -⟩ := rSendto_frame env s datagram
  exact timely.of_pending_eq pending fun j => KeepsData.of_eq (by rw [table])

theorem Timely.send (timely : Timely call.now s) (env : CoalesceEnv) :
    Timely call.now (coalesceSend env call s).2 := by
  have asserted : Timely call.now (s.assert (0 < call.data.length)) :=
    timely.of_pending_eq rfl fun j => KeepsData.of_eq rfl
  have found := asserted.lookup env call
  unfold coalesceSend
  simp only
  split
  · split
    · rename_i queued
      cases queued
    · exact found.rSendto env _
  · rename_i i target
    split
    · exact found.onNode env i
    · exact (found.onNode env i).rSendto env _

/-- The loops over the list flush its head, and end in a state their body leaves
them in. -/
theorem Timely.runFlushes (timely : Timely clock s)
    {body : CoalesceState → Iter CoalesceState CoalesceState} (flushes : FlushesOldest env body) :
    Timely clock (runFlushes body s) ∧ body (runFlushes body s) = .done (runFlushes body s) := by
  refine runFlushes_keeps flushes (fun s i rest timely pending => ?_) timely
  have member : i ∈ s.coalescePending := by
    rw [pending]
    exact List.mem_cons_self
  obtain ⟨cd, at_i, -⟩ := timely.waiting i member
  obtain ⟨-, -, shortened⟩ := coalesceFlush_of_some env at_i
  refine ⟨timely.flush env at_i, ?_⟩
  rw [shortened, pending, List.erase_cons_head]

theorem Timely.cleanup (timely : Timely clock s) (env : CoalesceEnv) :
    Timely clock (coalesceCleanup env s) := by
  obtain ⟨flushed, leaves⟩ := timely.runFlushes (cleanupBody_flushesOldest env)
  have none := pending_of_cleanupBody_done leaves
  refine flushed.of_sublist (List.Sublist.refl _) fun i member => ?_
  rw [coalesceCleanup, none] at member
  cases member

/-! ## Runs under a clock -/

/-- What a call reads from the clock. -/
def CoalesceOp.reads : CoalesceOp → Option UInt64
  | .send call => some call.now
  | .flushWaiting now => some now
  | .cleanup => none

/-- No call reads an earlier time than one before it. -/
def Clocked (ops : List CoalesceOp) : Prop :=
  (ops.filterMap CoalesceOp.reads).Pairwise (· ≤ ·)

theorem Timely.apply (timely : Timely clock s) (env : CoalesceEnv) (op : CoalesceOp)
    (reading : ∀ now, op.reads = some now → now = clock) : Timely clock (op.apply env s) := by
  cases op with
  | send call =>
      have now := reading call.now rfl
      subst now
      exact timely.send env
  | flushWaiting now => exact (timely.runFlushes (flushWaitingBody_flushesOldest env now)).1
  | cleanup => exact timely.cleanup env

theorem runCoalesce_timely (env : CoalesceEnv) (ops : List CoalesceOp) (clocked : Clocked ops)
    {clock : UInt64} (past : ∀ now ∈ ops.filterMap CoalesceOp.reads, now ≤ clock) :
    Timely clock (runCoalesce env ops .init) := by
  induction ops using List.reverseRecOn generalizing clock with
  | nil => exact Timely.init
  | append_singleton ops op ih =>
      have stepped : runCoalesce env (ops ++ [op]) .init =
          op.apply env (runCoalesce env ops .init) := List.foldl_concat _ _ _ _
      unfold Clocked at clocked
      rw [List.filterMap_append] at clocked past
      rw [List.pairwise_append] at clocked
      obtain ⟨before, -, ordered⟩ := clocked
      rw [stepped]
      rcases reads : op.reads with _ | now
      · have kept := ih before fun now member => past now (List.mem_append_left _ member)
        refine kept.apply env op fun now some => ?_
        rw [reads] at some
        cases some
      · have last : now ∈ [op].filterMap CoalesceOp.reads :=
          List.mem_filterMap.mpr ⟨op, List.mem_singleton.mpr rfl, reads⟩
        have kept := ih before fun earlier member => ordered earlier member now last
        refine (kept.apply env op fun now' some => ?_).mono
          (past now (List.mem_append_right _ last))
        rw [reads, Option.some.injEq] at some
        exact some.symm

/-- The pending list: it links each node with data once and no other, in the
order their payloads began; a payload holds a header and at least one packet, and
no assertion has failed. -/
structure PendingOk (s : CoalesceState) : Prop where
  linked : ∀ i cd, s.coalesceTable[i]? = some cd →
    s.coalescePending.count i = if 0 < cd.payloadUsed then 1 else 0
  nodes : ∀ i ∈ s.coalescePending, i < s.coalesceTable.length
  size : ∀ cd ∈ s.coalesceTable, 0 < cd.payloadUsed →
    60 ≤ cd.payloadUsed ∧ cd.payloadUsed ≤ coalesceMaxSize
  sorted : s.coalescePending.Pairwise fun i j => s.payloadTimestamp i ≤ s.payloadTimestamp j
  asserted : s.assertFailed = false

/-- No payload in the table has waited for `maxDelay` at `now`; `test` says so of
the comparison that the code makes, while its sum does not wrap. -/
structure NothingDue (now : UInt64) (s : CoalesceState) : Prop where
  time : ∀ cd ∈ s.coalesceTable, 0 < cd.payloadUsed →
    now.toNat < cd.payloadTimestamp.toNat + maxDelay.toNat
  test : now.toNat + maxDelay.toNat < 2 ^ 64 → ∀ cd ∈ s.coalesceTable, ¬ cd.Due now

theorem CoalesceDest.payloadUsed_pos_iff : 0 < cd.payloadUsed ↔ cd.payload ≠ [] :=
  List.length_pos_iff

/-- A payload that stands for packets is a header and at least one of them. -/
theorem QueuedAs.size {subs : List Submission} {ids : List Nat} (queued : QueuedAs subs ids cd)
    (packets : ∀ sub ∈ subs, NovellIpxPacket.size ≤ sub.data.length) (waiting : cd.payload ≠ []) :
    60 ≤ cd.payloadUsed ∧ cd.payloadUsed ≤ coalesceMaxSize := by
  obtain ⟨small, field, netnum, nodenum, bytes⟩ := queued.payload waiting
  refine ⟨?_, small⟩
  rcases ids with _ | ⟨n, rest⟩
  · exact absurd (queued.idle.mp rfl) waiting
  · obtain ⟨sub, at_n, -⟩ := queued.own n List.mem_cons_self
    have long := packets sub (List.mem_of_getElem? at_n)
    unfold CoalesceDest.payloadUsed
    unfold NovellIpxPacket.size at long
    rw [bytes, ← List.singleton_append, packets_append, packets_singleton at_n]
    simp only [containerHeader, List.length_append, NovellIpxPacket.length_header]
    omega

theorem CoalesceInv.pendingOk {subs : List Submission} {l : Ledger}
    (inv : CoalesceInv False subs l s) (timely : Timely clock s)
    (packets : ∀ sub ∈ subs, NovellIpxPacket.size ≤ sub.data.length) : PendingOk s where
  linked := fun i cd at_i => by
    rw [List.Nodup.count inv.pending_nodup]
    refine if_congr ?_ rfl rfl
    rw [inv.pending_iff i, cd.payloadUsed_pos_iff]
    constructor
    · intro member
      obtain ⟨cd', at_i', waiting⟩ := member
      rw [at_i, Option.some.injEq] at at_i'
      rwa [at_i']
    · exact fun waiting => ⟨cd, at_i, waiting⟩
  nodes := fun i member => by
    obtain ⟨cd, at_i, -⟩ := (inv.pending_iff i).mp member
    exact (List.getElem?_eq_some_iff.mp at_i).1
  size := fun cd member used => by
    obtain ⟨i, at_i⟩ := List.mem_iff_getElem?.mp member
    obtain ⟨ids, -, queued⟩ := forall₂_getElem? inv.queued at_i
    exact queued.size packets (cd.payloadUsed_pos_iff.mp used)
  sorted := timely.sorted
  asserted := by
    by_contra failed
    obtain ⟨sub, member, empty⟩ := inv.asserted (Bool.not_eq_false _ ▸ failed)
    have long := packets sub member
    rw [empty] at long
    cases long

/-- Where the head of the list is not due no node is: the others began later. -/
theorem PendingOk.nothingDue {now : UInt64} (ok : PendingOk s) (timely : Timely now s)
    (leaves : flushWaitingBody env now s = .done s) : NothingDue now s := by
  have time : ∀ cd ∈ s.coalesceTable, 0 < cd.payloadUsed →
      cd.payloadTimestamp.toNat ≤ now.toNat ∧
        now.toNat < cd.payloadTimestamp.toNat + maxDelay.toNat := by
    intro cd member used
    obtain ⟨i, at_i⟩ := List.mem_iff_getElem?.mp member
    have linked := ok.linked i cd at_i
    rw [if_pos used] at linked
    have pending : i ∈ s.coalescePending := List.count_pos_iff.mp (by omega)
    have began := timely.past i pending
    rw [CoalesceState.payloadTimestamp_eq at_i, UInt64.le_iff_toNat_le] at began
    refine ⟨began, ?_⟩
    rcases listed : s.coalescePending with _ | ⟨first, rest⟩
    · rw [listed] at pending
      cases pending
    · have sorted := ok.sorted
      rw [listed] at sorted pending
      obtain ⟨head, at_first, -⟩ := timely.waiting first (by rw [listed]; exact List.mem_cons_self)
      have notDue : ¬ head.payloadTimestamp + maxDelay ≤ now := by
        intro due
        unfold flushWaitingBody at leaves
        simp only [listed, at_first, if_pos due] at leaves
        cases leaves
      have oldest : head.payloadTimestamp ≤ cd.payloadTimestamp := by
        rcases List.mem_cons.mp pending with rfl | later
        · rw [at_i, Option.some.injEq] at at_first
          rw [at_first]
          exact UInt64.le_refl _
        · have le := List.rel_of_pairwise_cons sorted later
          rwa [CoalesceState.payloadTimestamp_eq at_first,
            CoalesceState.payloadTimestamp_eq at_i] at le
      -- The sum at the head has not wrapped: it would be small, and so due.
      rw [UInt64.le_iff_toNat_le, UInt64.toNat_add] at notDue
      rw [UInt64.le_iff_toNat_le] at oldest
      have delay : maxDelay.toNat = 20000 := rfl
      omega
  refine ⟨fun cd member used => (time cd member used).2, fun bounded cd member due => ?_⟩
  obtain ⟨used, passed⟩ := due
  obtain ⟨began, fresh⟩ := time cd member used
  rw [UInt64.le_iff_toNat_le, UInt64.toNat_add] at passed
  omega

/-- The pending list after every run of calls whose clock does not go back, and
after every `coalesce_flush_waiting`. -/
theorem runCoalesce_pendingOk (env : CoalesceEnv) (ops : List CoalesceOp) (clocked : Clocked ops)
    (packets : ∀ sub ∈ submissions ops, NovellIpxPacket.size ≤ sub.data.length) :
    PendingOk (runCoalesce env ops .init) ∧
      ∀ before now, ops = before ++ [.flushWaiting now] →
        NothingDue now (runCoalesce env ops .init) := by
  obtain ⟨l, inv, -⟩ := runCoalesce_inv env ops fun wanted : False => wanted.elim
  have ended : Timely 0xFFFFFFFFFFFFFFFF (runCoalesce env ops .init) :=
    runCoalesce_timely env ops clocked fun now _ => by
      have bound := now.toNat_lt
      rw [UInt64.le_iff_toNat_le]
      change now.toNat ≤ 2 ^ 64 - 1
      omega
  have ok := inv.pendingOk ended packets
  refine ⟨ok, fun before now split => ?_⟩
  have past : ∀ earlier ∈ ops.filterMap CoalesceOp.reads, earlier ≤ now := by
    intro earlier member
    unfold Clocked at clocked
    rw [split, List.filterMap_append] at clocked member
    rcases List.mem_append.mp member with old | last
    · exact (List.pairwise_append.mp clocked).2.2 earlier old now (List.mem_singleton.mpr rfl)
    · rw [List.mem_singleton.mp last]
      exact UInt64.le_refl now
  have timely := runCoalesce_timely env ops clocked past
  have stepped : runCoalesce env ops .init =
      runFlushes (flushWaitingBody env now) (runCoalesce env before .init) := by
    rw [split]
    exact List.foldl_concat _ _ _ _
  obtain ⟨l', inv', free'⟩ := runCoalesce_inv env before fun wanted : False => wanted.elim
  obtain ⟨-, -, -, leaves⟩ := inv'.runFlushes free' (flushWaitingBody_flushesOldest env now)
  rw [← stepped] at leaves
  exact ok.nothingDue timely leaves

/-- Two sends, and a look at the list once the first is due. -/
def flushedSends : List CoalesceOp :=
  twoSends 100 200 ++ [.flushWaiting 20001]

theorem flushedSends_submissions : submissions flushedSends =
    [(sendBytes 100 1).submission, (sendBytes 200 2).submission] := rfl

theorem flushedSends_pendingOk :
    PendingOk (runCoalesce coalescingEnv flushedSends .init) ∧
      ∀ before now, flushedSends = before ++ [.flushWaiting now] →
        NothingDue now (runCoalesce coalescingEnv flushedSends .init) := by
  refine runCoalesce_pendingOk coalescingEnv flushedSends ?_ fun sub member => ?_
  · show [(1 : UInt64), 2, 20001].Pairwise (· ≤ ·)
    decide
  · unfold NovellIpxPacket.size
    rw [flushedSends_submissions] at member
    rcases List.mem_cons.mp member with rfl | second
    · rw [SendCall.submission, length_sendBytes]
      omega
    · rw [List.mem_singleton.mp second, SendCall.submission, length_sendBytes]
      omega

end IpxWrapper
