import IpxWrapper.Coalesce
import IpxWrapper.Base.Ledger
import Mathlib.Data.List.Forall2

/-!
# The coalescer keeps a ledger

The purpose of the coalescer, stated without bytes, is a `Ledger`: packets are
numbered by the `coalesce_send` calls that submit them, each node of the table
is a queue, and each `r_sendto` is a batch. `SentAs` and `QueuedAs` say what
bytes a batch and a queue stand for, and `CoalesceInv` that the state of the
code stands for a ledger. Each function of the code is then one or more ledger
operations.

An invariant that asks for order carries the condition under which it is kept,
so that one lemma for each operation serves runs with and without it.
-/

namespace IpxWrapper

open Base Loop

/-- What one `coalesce_send` call is given to send. -/
structure Submission where
  dest : IpxDest
  data : List Byte

def SendCall.submission (call : SendCall) : Submission := ⟨call.dest, call.data⟩

/-- The bytes of the packets numbered `ids`, one after the other. -/
def packets (subs : List Submission) (ids : List Nat) : List Byte :=
  ids.flatMap fun n => (subs[n]?.map Submission.data).getD []

/-- Every packet numbered in `ids` was submitted for `dest`. -/
def AllFor (subs : List Submission) (dest : IpxDest) (ids : List Nat) : Prop :=
  ∀ n ∈ ids, ∃ sub, subs[n]? = some sub ∧ sub.dest = dest

/-- The batch `ids` left as this datagram. -/
def SentAs (subs : List Submission) (ids : List Nat) : Sent → Prop
  | .immediate data => ∃ n sub, ids = [n] ∧ subs[n]? = some sub ∧ sub.data = data
  | .container data =>
      ids ≠ [] ∧ data.length ≤ coalesceMaxSize ∧ ∃ dest netnum nodenum,
        data = containerHeader (lengthBytes data.length) dest netnum nodenum ++ packets subs ids ∧
        AllFor subs dest ids

/-- The queue `ids` waits in the payload of this node. -/
structure QueuedAs (subs : List Submission) (ids : List Nat) (cd : CoalesceDest) : Prop where
  own : AllFor subs cd.dest ids
  idle : ids = [] ↔ cd.payload = []
  payload : cd.payload ≠ [] → cd.payload.length ≤ coalesceMaxSize ∧
    ∃ lengthField netnum nodenum,
      cd.payload = containerHeader lengthField cd.dest netnum nodenum ++ packets subs ids

/-- The destination a packet was submitted for. -/
def destOf (subs : List Submission) (n : Nat) : Option IpxDest :=
  subs[n]?.map Submission.dest

/-- The state stands for the ledger `l` of the packets `subs`; under `ordered`,
the ledger is in order. An assertion fails only on an empty packet. -/
structure CoalesceInv (ordered : Prop) (subs : List Submission) (l : Ledger)
    (s : CoalesceState) : Prop where
  conserves : l.Conserves
  order : ordered → l.Ordered (destOf subs)
  submitted : l.submitted = subs.length
  sent : List.Forall₂ (SentAs subs) l.out s.sent
  queued : List.Forall₂ (QueuedAs subs) l.queued s.coalesceTable
  pending_nodup : s.coalescePending.Nodup
  pending_iff : ∀ i, i ∈ s.coalescePending ↔
    ∃ cd, s.coalesceTable[i]? = some cd ∧ cd.payload ≠ []
  asserted : s.assertFailed = true → ∃ sub ∈ subs, sub.data = []

/-! ## Paired lists -/

theorem forall₂_getElem? {α β : Type} {R : α → β → Prop} {as : List α} {bs : List β}
    (h : List.Forall₂ R as bs) {i : Nat} {b : β} (at_i : bs[i]? = some b) :
    ∃ a, as[i]? = some a ∧ R a b := by
  induction h generalizing i with
  | nil => cases at_i
  | cons head _ ih =>
      cases i with
      | zero => cases at_i; exact ⟨_, rfl, head⟩
      | succ i => exact ih at_i

theorem forall₂_set {α β : Type} {R : α → β → Prop} {as : List α} {bs : List β}
    (h : List.Forall₂ R as bs) {a : α} {b : β} (ab : R a b) (i : Nat) :
    List.Forall₂ R (as.set i a) (bs.set i b) := by
  induction h generalizing i with
  | nil => exact .nil
  | cons head tail ih =>
      cases i with
      | zero => exact .cons ab tail
      | succ i => exact .cons head (ih i)

theorem forall₂_concat {α β : Type} {R : α → β → Prop} {as : List α} {bs : List β}
    (h : List.Forall₂ R as bs) {a : α} {b : β} (ab : R a b) :
    List.Forall₂ R (as ++ [a]) (bs ++ [b]) :=
  List.rel_append h (.cons ab .nil)

/-! ## Bytes of a batch -/

section Bytes

variable {subs : List Submission} {ids : List Nat} {sub : Submission}

theorem packets_append (left right : List Nat) :
    packets subs (left ++ right) = packets subs left ++ packets subs right :=
  List.flatMap_append

theorem packets_singleton {n : Nat} (at_n : subs[n]? = some sub) :
    packets subs [n] = sub.data := by
  simp only [packets, List.flatMap_cons, List.flatMap_nil, List.append_nil, at_n,
    Option.map_some, Option.getD_some]

/-- Packets already submitted are not changed by a later one. -/
theorem AllFor.mono {dest : IpxDest} (h : AllFor subs dest ids) (later : Submission) :
    AllFor (subs ++ [later]) dest ids := by
  intro n member
  obtain ⟨sub, at_n, for_dest⟩ := h n member
  have bound := (List.getElem?_eq_some_iff.mp at_n).1
  exact ⟨sub, by rw [List.getElem?_append_left bound]; exact at_n, for_dest⟩

theorem AllFor.packets_mono {dest : IpxDest} (h : AllFor subs dest ids) (later : Submission) :
    packets (subs ++ [later]) ids = packets subs ids := by
  unfold packets
  apply List.flatMap_congr
  intro n member
  obtain ⟨sub, at_n, -⟩ := h n member
  rw [List.getElem?_append_left (List.getElem?_eq_some_iff.mp at_n).1]

theorem SentAs.mono {datagram : Sent} (h : SentAs subs ids datagram) (later : Submission) :
    SentAs (subs ++ [later]) ids datagram := by
  cases datagram with
  | immediate data =>
      obtain ⟨n, sub, single, at_n, same⟩ := h
      have bound := (List.getElem?_eq_some_iff.mp at_n).1
      exact ⟨n, sub, single, by rw [List.getElem?_append_left bound]; exact at_n, same⟩
  | container data =>
      obtain ⟨some', small, dest, netnum, nodenum, bytes, own⟩ := h
      exact ⟨some', small, dest, netnum, nodenum, by rw [own.packets_mono later]; exact bytes,
        own.mono later⟩

theorem QueuedAs.mono {cd : CoalesceDest} (h : QueuedAs subs ids cd) (later : Submission) :
    QueuedAs (subs ++ [later]) ids cd where
  own := h.own.mono later
  idle := h.idle
  payload := fun waiting => by
    rw [h.own.packets_mono later]
    exact h.payload waiting

theorem QueuedAs.of_empty {cd : CoalesceDest} (empty : cd.payload = []) :
    QueuedAs subs [] cd where
  own := fun _ member => by cases member
  idle := Iff.intro (fun _ => empty) (fun _ => rfl)
  payload := fun waiting => (waiting empty).elim

/-- The header of a payload with its length filled in. -/
theorem set_lengthField (field field' : Byte × Byte) (dest : IpxDest) (netnum : Addr32)
    (nodenum : Addr48) (rest : List Byte) :
    ((containerHeader field dest netnum nodenum ++ rest).set 2 field'.1).set 3 field'.2 =
      containerHeader field' dest netnum nodenum ++ rest := rfl

/-- A payload leaves as a container of the packets queued in it. -/
theorem QueuedAs.sentAs {cd : CoalesceDest} (h : QueuedAs subs ids cd)
    (waiting : cd.payload ≠ []) :
    SentAs subs ids (.container ((cd.payload.set 2 (lengthBytes cd.payloadUsed).1).set 3
      (lengthBytes cd.payloadUsed).2)) := by
  obtain ⟨small, field, netnum, nodenum, bytes⟩ := h.payload waiting
  refine ⟨fun none => waiting (h.idle.mp none), ?_, cd.dest, netnum, nodenum, ?_, h.own⟩
  · rw [List.length_set, List.length_set]
    exact small
  · rw [List.length_set, List.length_set]
    conv_lhs => rw [bytes]
    rw [set_lengthField]
    rfl

end Bytes

/-! ## What the functions of the code change -/

section Frames

variable {env : CoalesceEnv} {call : SendCall} {s : CoalesceState} {i : Nat} {cd : CoalesceDest}

/-- Whatever `r_sendto` returns, the datagram is given to it once. -/
theorem rSendto_frame (env : CoalesceEnv) (s : CoalesceState) (datagram : Sent) :
    (rSendto env datagram s).2.sent = s.sent ++ [datagram] ∧
      (rSendto env datagram s).2.coalesceTable = s.coalesceTable ∧
      (rSendto env datagram s).2.coalescePending = s.coalescePending ∧
      (rSendto env datagram s).2.assertFailed = s.assertFailed := by
  unfold rSendto
  split_ifs <;> exact ⟨rfl, rfl, rfl, rfl⟩

/-- What `coalesce_flush` does to a node: its payload leaves as one datagram. -/
theorem coalesceFlush_of_some (env : CoalesceEnv) (at_i : s.coalesceTable[i]? = some cd) :
    (coalesceFlush env i s).sent = s.sent ++
        [.container ((cd.payload.set 2 (lengthBytes cd.payloadUsed).1).set 3
          (lengthBytes cd.payloadUsed).2)] ∧
      (coalesceFlush env i s).coalesceTable =
        s.coalesceTable.set i { cd with payload := [] } ∧
      (coalesceFlush env i s).coalescePending = s.coalescePending.erase i := by
  unfold coalesceFlush
  simp only [at_i, CoalesceState.setNode]
  obtain ⟨sent, table, pending, -⟩ := rSendto_frame env
    (s.assert (0 < cd.payloadUsed))
    (.container ((cd.payload.set 2 (lengthBytes cd.payloadUsed).1).set 3
      (lengthBytes cd.payloadUsed).2))
  refine ⟨sent, ?_, ?_⟩
  · rw [table]
    rfl
  · rw [pending]
    rfl

/-- With data at the node the assertion holds. -/
theorem coalesceFlush_assertFailed (env : CoalesceEnv) (at_i : s.coalesceTable[i]? = some cd)
    (waiting : cd.payload ≠ []) : (coalesceFlush env i s).assertFailed = s.assertFailed := by
  have used : 0 < cd.payloadUsed := by
    have := mt cd.payloadUsed_eq_zero_iff.mp waiting
    omega
  unfold coalesceFlush
  simp only [at_i, CoalesceState.setNode]
  rw [(rSendto_frame env _ _).2.2.2, CoalesceState.assert, decide_eq_true used, Bool.not_true,
    Bool.or_false]

/-- From `s` to `s'` the call's packet has joined the payload of node `i`, behind
a header if the payload was empty; `new` is the node afterwards. -/
structure Joins (call : SendCall) (i : Nat) (cd new : CoalesceDest) (s s' : CoalesceState) :
    Prop where
  table : s'.coalesceTable = s.coalesceTable.set i new
  key : new.key = cd.key
  nonempty : new.payload ≠ []
  small : new.payload.length ≤ coalesceMaxSize
  bytes : new.payload = (if cd.payload = [] then
    containerHeader call.lengthJunk cd.dest call.dosboxLocalNetnum call.dosboxLocalNodenum
    else cd.payload) ++ call.data
  pending : s'.coalescePending = s.coalescePending ++ if cd.payload = [] then [i] else []
  sent : s'.sent = s.sent
  asserted : s'.assertFailed = s.assertFailed

theorem coalesceAddData_of_added (at_i : s.coalesceTable[i]? = some cd)
    (added : (coalesceAddData call i s).1 = true) :
    ∃ new, Joins call i cd new s (coalesceAddData call i s).2 := by
  unfold coalesceAddData at added ⊢
  simp only [at_i] at added ⊢
  by_cases empty : cd.payload = []
  · rw [if_pos (cd.payloadUsed_eq_zero_iff.mpr empty)] at added ⊢
    by_cases large : coalesceMaxSize < NovellIpxPacket.size + call.data.length
    · rw [if_pos large] at added
      cases added
    · rw [if_neg large]
      refine ⟨_, rfl, rfl, List.cons_ne_nil _ _, ?_, ?_, ?_, rfl, rfl⟩
      · unfold NovellIpxPacket.size at large
        simp only [containerHeader, List.length_append, NovellIpxPacket.length_header]
        omega
      · rw [if_pos empty]
      · rw [if_pos empty]
  · rw [if_neg fun zero => empty (cd.payloadUsed_eq_zero_iff.mp zero)] at added ⊢
    by_cases fits : cd.payloadUsed + call.data.length ≤ coalesceMaxSize
    · rw [if_pos fits]
      refine ⟨_, rfl, rfl, ?_, ?_, ?_, ?_, rfl, rfl⟩
      · exact fun none => empty (List.append_eq_nil_iff.mp none).1
      · rw [List.length_append]
        exact fits
      · rw [if_neg empty]
      · rw [if_neg empty]
        exact (List.append_nil _).symm
    · rw [if_neg fits] at added
      cases added

theorem coalesceAddData_of_refused (at_i : s.coalesceTable[i]? = some cd)
    (refused : (coalesceAddData call i s).1 = false) :
    (coalesceAddData call i s).2 = s ∧
      (cd.payload = [] → coalesceMaxSize < NovellIpxPacket.size + call.data.length) ∧
      (cd.payload ≠ [] → coalesceMaxSize < cd.payloadUsed + call.data.length) := by
  unfold coalesceAddData at refused ⊢
  simp only [at_i] at refused ⊢
  by_cases empty : cd.payload = []
  · rw [if_pos (cd.payloadUsed_eq_zero_iff.mpr empty)] at refused ⊢
    by_cases large : coalesceMaxSize < NovellIpxPacket.size + call.data.length
    · rw [if_pos large]
      exact ⟨rfl, fun _ => large, fun waiting => (waiting empty).elim⟩
    · rw [if_neg large] at refused
      cases refused
  · rw [if_neg fun zero => empty (cd.payloadUsed_eq_zero_iff.mp zero)] at refused ⊢
    by_cases fits : cd.payloadUsed + call.data.length ≤ coalesceMaxSize
    · rw [if_pos fits] at refused
      cases refused
    · rw [if_neg fits]
      exact ⟨rfl, fun none => (empty none).elim, fun _ => Nat.not_le.mp fits⟩

end Frames

/-- A queue grows by the packet that joins its node's payload. -/
theorem QueuedAs.join {subs : List Submission} {ids : List Nat} {n i : Nat} {call : SendCall}
    {cd new : CoalesceDest} {s s' : CoalesceState} (h : QueuedAs subs ids cd)
    (at_n : subs[n]? = some call.submission) (own_dest : cd.dest = call.dest)
    (joins : Joins call i cd new s s') : QueuedAs subs (ids ++ [n]) new where
  own := fun m member => by
    have same_dest : new.dest = cd.dest := congrArg CoalesceTableKey.dest joins.key
    rw [same_dest]
    rcases List.mem_append.mp member with old | last
    · exact h.own m old
    · rw [List.mem_singleton.mp last]
      exact ⟨_, at_n, own_dest.symm⟩
  idle := by
    refine ⟨fun none => ?_, fun none => (joins.nonempty none).elim⟩
    cases (List.append_eq_nil_iff.mp none).2
  payload := fun _ => by
    have same_dest : new.dest = cd.dest := congrArg CoalesceTableKey.dest joins.key
    have bytes := joins.bytes
    refine ⟨joins.small, ?_⟩
    rw [same_dest, packets_append, packets_singleton at_n]
    by_cases empty : cd.payload = []
    · rw [if_pos empty] at bytes
      rw [h.idle.mpr empty]
      exact ⟨_, _, _, bytes⟩
    · rw [if_neg empty] at bytes
      obtain ⟨-, field, netnum, nodenum, before⟩ := h.payload empty
      exact ⟨field, netnum, nodenum, by rw [bytes, before, List.append_assoc]; rfl⟩

/-! ## One ledger operation at a time -/

section Steps

variable {env : CoalesceEnv} {call : SendCall} {ordered : Prop} {subs : List Submission}
  {l : Ledger} {s : CoalesceState} {i n : Nat} {cd : CoalesceDest} {sub : Submission}

theorem CoalesceInv.init : CoalesceInv ordered [] Ledger.empty CoalesceState.init where
  conserves := Ledger.empty_conserves
  order := fun _ => Ledger.empty_ordered
  submitted := rfl
  sent := .nil
  queued := .nil
  pending_nodup := List.nodup_nil
  pending_iff := fun i => by
    simp only [CoalesceState.init, List.not_mem_nil, List.getElem?_nil, reduceCtorEq,
      false_and, exists_false]
  asserted := fun failed => by cases failed

/-- A new packet is taken in hand. -/
theorem CoalesceInv.submit (inv : CoalesceInv ordered subs l s) (free : l.inHand = none)
    (sub : Submission) : CoalesceInv ordered (subs ++ [sub]) l.submit s where
  conserves := inv.conserves.submit free
  order := fun wanted => by
    refine (inv.order wanted).submit.congr fun n member => ?_
    have bound : n < subs.length := by
      rw [← inv.submitted]
      exact inv.conserves.items_lt (List.mem_append_right _ member)
    unfold destOf
    rw [List.getElem?_append_left bound]
  submitted := by
    rw [List.length_append, List.length_singleton, ← inv.submitted]
    rfl
  sent := inv.sent.imp fun _ _ sentAs => sentAs.mono sub
  queued := inv.queued.imp fun _ _ queuedAs => queuedAs.mono sub
  pending_nodup := inv.pending_nodup
  pending_iff := inv.pending_iff
  asserted := fun failed => by
    obtain ⟨old, member, empty⟩ := inv.asserted failed
    exact ⟨old, List.mem_append_left _ member, empty⟩

/-- A node is allocated. -/
theorem CoalesceInv.openQueue (inv : CoalesceInv ordered subs l s) (key : CoalesceTableKey) :
    CoalesceInv ordered subs l.openQueue
      { s with coalesceTable := s.coalesceTable ++ [newCoalesceDest key] } where
  conserves := inv.conserves.openQueue
  order := fun wanted => (inv.order wanted).openQueue
  submitted := inv.submitted
  sent := inv.sent
  queued := forall₂_concat inv.queued (QueuedAs.of_empty rfl)
  pending_nodup := inv.pending_nodup
  pending_iff := fun i => by
    rw [inv.pending_iff i]
    constructor
    · intro found
      obtain ⟨cd, at_i, waiting⟩ := found
      have bound := (List.getElem?_eq_some_iff.mp at_i).1
      exact ⟨cd, by rw [List.getElem?_append_left bound]; exact at_i, waiting⟩
    · intro found
      obtain ⟨cd, at_i, waiting⟩ := found
      rw [List.getElem?_append] at at_i
      split at at_i
      · exact ⟨cd, at_i, waiting⟩
      · have new : cd ∈ [newCoalesceDest key] := List.mem_of_getElem? at_i
        rw [List.mem_singleton.mp new] at waiting
        exact (waiting rfl).elim
  asserted := inv.asserted

/-- Whether node `j` has data, after node `i` was replaced. -/
theorem waiting_set_iff {table : List CoalesceDest} {new : CoalesceDest}
    (at_i : table[i]? = some cd) (j : Nat) :
    (∃ cd', (table.set i new)[j]? = some cd' ∧ cd'.payload ≠ []) ↔
      (j = i ∧ new.payload ≠ []) ∨
        (j ≠ i ∧ ∃ cd', table[j]? = some cd' ∧ cd'.payload ≠ []) := by
  have bound := (List.getElem?_eq_some_iff.mp at_i).1
  by_cases same : j = i
  · subst same
    rw [List.getElem?_set_self bound]
    simp only [Option.some.injEq, exists_eq_left', true_and, ne_eq, not_true_eq_false, false_and,
      or_false]
  · rw [List.getElem?_set_ne (Ne.symm same)]
    simp only [same, false_and, ne_eq, not_false_eq_true, true_and, false_or]

/-- The send times and the flag of a node are no part of the ledger. -/
theorem CoalesceInv.setNode (inv : CoalesceInv ordered subs l s)
    (at_i : s.coalesceTable[i]? = some cd) {new : CoalesceDest} (same_key : new.key = cd.key)
    (same_payload : new.payload = cd.payload) :
    CoalesceInv ordered subs l (s.setNode i new) where
  conserves := inv.conserves
  order := inv.order
  submitted := inv.submitted
  sent := inv.sent
  queued := by
    obtain ⟨queue, queue_at, queuedAs⟩ := forall₂_getElem? inv.queued at_i
    have same_dest : new.dest = cd.dest := congrArg CoalesceTableKey.dest same_key
    have kept : QueuedAs subs queue new := by
      refine ⟨?_, ?_, ?_⟩
      · rw [same_dest]
        exact queuedAs.own
      · rw [same_payload]
        exact queuedAs.idle
      · rw [same_payload, same_dest]
        exact queuedAs.payload
    have unchanged : l.queued.set i queue = l.queued := by
      obtain ⟨bound, rfl⟩ := List.getElem?_eq_some_iff.mp queue_at
      exact List.set_getElem_self bound
    have paired := forall₂_set inv.queued kept i
    rwa [unchanged] at paired
  pending_nodup := inv.pending_nodup
  pending_iff := fun j => by
    unfold CoalesceState.setNode
    rw [waiting_set_iff at_i j, inv.pending_iff j, same_payload]
    by_cases same : j = i
    · subst same
      simp only [at_i, Option.some.injEq, exists_eq_left', true_and, ne_eq, not_true_eq_false,
        false_and, or_false]
    · simp only [same, false_and, ne_eq, not_false_eq_true, true_and, false_or]
  asserted := inv.asserted

/-- A node with data is flushed. -/
theorem CoalesceInv.flush (inv : CoalesceInv ordered subs l s) (env : CoalesceEnv)
    (at_i : s.coalesceTable[i]? = some cd) (waiting : cd.payload ≠ []) :
    CoalesceInv ordered subs (l.flush i) (coalesceFlush env i s) := by
  obtain ⟨queue, queue_at, queuedAs⟩ := forall₂_getElem? inv.queued at_i
  obtain ⟨sent, table, pending⟩ := coalesceFlush_of_some env at_i
  have failed := coalesceFlush_assertFailed env at_i waiting
  have emptied : QueuedAs subs [] { cd with payload := [] } := QueuedAs.of_empty rfl
  refine ⟨inv.conserves.flush queue_at,
    fun wanted => (inv.order wanted).flush inv.conserves queue_at,
    inv.submitted, ?_, ?_, ?_, fun j => ?_, ?_⟩
  · rw [Ledger.flush_out queue_at, sent]
    exact forall₂_concat inv.sent (queuedAs.sentAs waiting)
  · rw [table]
    exact forall₂_set inv.queued emptied i
  · rw [pending]
    exact inv.pending_nodup.erase i
  · rw [pending, table, waiting_set_iff at_i j, inv.pending_nodup.mem_erase_iff,
      inv.pending_iff j]
    simp only [ne_eq, not_true_eq_false, and_false, false_or]
  · rw [failed]
    exact inv.asserted

/-- A queue whose node is for another destination, or has no data, holds no
packet for this one. -/
theorem CoalesceInv.queue_apart (inv : CoalesceInv ordered subs l s)
    (at_n : subs[n]? = some sub) {j : Nat} {queue : List Nat} (queue_at : l.queued[j]? = some queue)
    (apart : ∀ cd', s.coalesceTable[j]? = some cd' → cd'.dest = sub.dest → cd'.payload = []) :
    ∀ q ∈ queue, destOf subs q ≠ destOf subs n := by
  intro q member same
  obtain ⟨cd', at_j, queuedAs⟩ := forall₂_getElem? inv.queued.flip queue_at
  obtain ⟨own, at_q, own_dest⟩ := queuedAs.own q member
  unfold destOf at same
  rw [at_q, at_n, Option.map_some, Option.map_some, Option.some.injEq] at same
  have empty := queuedAs.idle.mpr (apart cd' at_j (own_dest.symm.trans same))
  rw [empty] at member
  cases member

/-- The packet in hand joins the payload of a node for its destination. -/
theorem CoalesceInv.enqueue (inv : CoalesceInv ordered subs l s)
    (held : l.inHand = some n) (at_n : subs[n]? = some call.submission)
    (at_i : s.coalesceTable[i]? = some cd) (own_dest : cd.dest = call.dest)
    (added : (coalesceAddData call i s).1 = true)
    (alone : ordered → ∀ (j : Nat) (cd' : CoalesceDest), s.coalesceTable[j]? = some cd' →
      j ≠ i → cd'.dest = call.dest → cd'.payload = []) :
    CoalesceInv ordered subs (l.enqueue i) (coalesceAddData call i s).2 := by
  obtain ⟨queue, queue_at, queuedAs⟩ := forall₂_getElem? inv.queued at_i
  obtain ⟨new, joins⟩ := coalesceAddData_of_added at_i added
  have queue_enqueued : (l.enqueue i).queued = l.queued.set i (queue ++ [n]) := by
    rw [Ledger.enqueue_queued queue_at, held]
    rfl
  refine ⟨inv.conserves.enqueue held queue_at, fun wanted => ?_, inv.submitted, ?_, ?_, ?_,
    fun j => ?_, ?_⟩
  · exact (inv.order wanted).enqueue inv.conserves held queue_at fun j qs qs_at ne =>
      inv.queue_apart at_n qs_at fun cd' at_j => alone wanted j cd' at_j ne
  · rw [joins.sent]
    exact inv.sent
  · rw [joins.table, queue_enqueued]
    exact forall₂_set inv.queued (queuedAs.join at_n own_dest joins) i
  · rw [joins.pending]
    split
    · rename_i empty
      refine List.nodup_append.mpr ⟨inv.pending_nodup, List.nodup_singleton i, ?_⟩
      intro j member k single same
      rw [List.mem_singleton.mp single] at same
      subst same
      obtain ⟨cd', at_j, waiting⟩ := (inv.pending_iff j).mp member
      rw [at_i, Option.some.injEq] at at_j
      subst at_j
      exact waiting empty
    · rw [List.append_nil]
      exact inv.pending_nodup
  · rw [joins.pending, joins.table, waiting_set_iff at_i j, List.mem_append, inv.pending_iff j]
    by_cases same : j = i
    · subst same
      simp only [at_i, Option.some.injEq, exists_eq_left', true_and, ne_eq, not_true_eq_false,
        false_and, or_false, joins.nonempty, not_false_eq_true, iff_true]
      by_cases empty : cd.payload = []
      · rw [if_pos empty]
        exact Or.inr (List.mem_singleton.mpr rfl)
      · exact Or.inl empty
    · have elsewhere : j ∉ if cd.payload = [] then [i] else [] := by
        split
        · exact fun member => same (List.mem_singleton.mp member)
        · exact List.not_mem_nil
      simp only [same, elsewhere, false_and, or_false, ne_eq, not_false_eq_true, true_and,
        false_or]
  · rw [joins.asserted]
    exact inv.asserted

/-- The packet in hand is sent by itself. -/
theorem CoalesceInv.sendNow (inv : CoalesceInv ordered subs l s) (env : CoalesceEnv)
    (held : l.inHand = some n) (at_n : subs[n]? = some sub)
    (alone : ordered → ∀ (j : Nat) (cd' : CoalesceDest), s.coalesceTable[j]? = some cd' →
      cd'.dest = sub.dest → cd'.payload = []) :
    CoalesceInv ordered subs l.sendNow (rSendto env (.immediate sub.data) s).2 := by
  obtain ⟨sent, table, pending, failed⟩ := rSendto_frame env s (.immediate sub.data)
  refine ⟨inv.conserves.sendNow, fun wanted => ?_, inv.submitted, ?_, ?_, ?_, ?_, ?_⟩
  · refine (inv.order wanted).sendNow inv.conserves held fun q member => ?_
    obtain ⟨queue, among, q_in⟩ := List.mem_flatten.mp member
    obtain ⟨j, queue_at⟩ := List.mem_iff_getElem?.mp among
    exact inv.queue_apart at_n queue_at (alone wanted j) q q_in
  · rw [sent]
    unfold Ledger.sendNow
    rw [held]
    exact forall₂_concat inv.sent ⟨n, sub, rfl, at_n, rfl⟩
  · rw [table]
    exact inv.queued
  · rw [pending]
    exact inv.pending_nodup
  · rw [pending, table]
    exact inv.pending_iff
  · rw [failed]
    exact inv.asserted

end Steps

end IpxWrapper
