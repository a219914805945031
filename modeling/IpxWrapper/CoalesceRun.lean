import IpxWrapper.CoalesceLedger
import Mathlib.Data.List.Induction

/-!
# Runs of the coalescer

`CoalesceInv` over whole runs of `coalesce_send`, `coalesce_flush_waiting` and
`coalesce_cleanup`.

* `CoalesceInv.onNode`, `CoalesceInv.send`: one `coalesce_send` call takes its
  packet in hand and puts it in one place.
* `CoalesceInv.runFlushes`: the loops over the pending list.
* `runCoalesce_inv`: a run from the empty state.

`Overtakes` names the states in which `coalesce_send` lets a packet out before
one already queued for the same destination.
-/

namespace IpxWrapper

open Base Loop

variable {env : CoalesceEnv} {call : SendCall} {ordered : Prop} {subs : List Submission}
  {l : Ledger} {s : CoalesceState} {i n : Nat} {cd node : CoalesceDest}

/-! ## Registering a send -/

namespace CoalesceDest

@[simp] theorem setActive_key (shouldCoalesce : Bool) :
    (cd.setActive shouldCoalesce).key = cd.key := by
  unfold setActive
  split_ifs <;> rfl

@[simp] theorem setActive_payload (shouldCoalesce : Bool) :
    (cd.setActive shouldCoalesce).payload = cd.payload := by
  unfold setActive
  split_ifs <;> rfl

@[simp] theorem setActive_payloadTimestamp (shouldCoalesce : Bool) :
    (cd.setActive shouldCoalesce).payloadTimestamp = cd.payloadTimestamp := by
  unfold setActive
  split_ifs <;> rfl

variable (now : UInt64)

@[simp] theorem registered_key : (node.registered now).key = node.key :=
  setActive_key _

@[simp] theorem registered_payload : (node.registered now).payload = node.payload :=
  setActive_payload _

@[simp] theorem registered_dest : (node.registered now).dest = node.dest :=
  congrArg CoalesceTableKey.dest (registered_key now)

theorem registered_due_iff : (node.registered now).Due now ↔ node.Due now := by
  have same : (node.registered now).payloadTimestamp = node.payloadTimestamp :=
    setActive_payloadTimestamp _
  unfold Due payloadUsed
  rw [registered_payload, same]

variable {now}

theorem Due.waiting (due : cd.Due now) : cd.payload ≠ [] := by
  intro empty
  have used := due.1
  rw [cd.payloadUsed_eq_zero_iff.mpr empty] at used
  omega

/-- A payload that is flushed to make room is not empty. -/
theorem MakesRoom.waiting {size : Nat} (room : cd.MakesRoom size) : cd.payload ≠ [] := by
  intro empty
  obtain ⟨large, small⟩ := room
  rw [cd.payloadUsed_eq_zero_iff.mpr empty] at large
  omega

end CoalesceDest

/-! ## A destination with a node -/

/-- Nodes other than `i` hold nothing for the call's destination. -/
def Alone (call : SendCall) (i : Nat) (s : CoalesceState) : Prop :=
  ∀ (j : Nat) (cd : CoalesceDest), s.coalesceTable[j]? = some cd → j ≠ i →
    cd.dest = call.dest → cd.payload = []

theorem Alone.of_set {s' : CoalesceState} (alone : Alone call i s) {new : CoalesceDest}
    (table : s'.coalesceTable = s.coalesceTable.set i new) : Alone call i s' := by
  intro j cd at_j ne
  rw [table, List.getElem?_set_ne (Ne.symm ne)] at at_j
  exact alone j cd at_j ne

theorem getElem?_of_set {s' : CoalesceState} {new : CoalesceDest}
    (at_i : s.coalesceTable[i]? = some cd)
    (table : s'.coalesceTable = s.coalesceTable.set i new) :
    s'.coalesceTable[i]? = some new := by
  rw [table, List.getElem?_set_self (List.getElem?_eq_some_iff.mp at_i).1]

theorem getElem?_concat_cases {α : Type} {xs : List α} {x y : α} {k : Nat}
    (at_k : (xs ++ [x])[k]? = some y) :
    k < xs.length ∧ xs[k]? = some y ∨ k = xs.length ∧ y = x := by
  rcases Nat.lt_or_ge k xs.length with inside | le
  · rw [List.getElem?_append_left inside] at at_k
    exact Or.inl ⟨inside, at_k⟩
  · rw [List.getElem?_append_right le] at at_k
    obtain ⟨bound, -⟩ := List.getElem?_eq_some_iff.mp at_k
    rw [List.length_singleton] at bound
    exact Or.inr ⟨by omega, List.mem_singleton.mp (List.mem_of_getElem? at_k)⟩

theorem makeRoom_of_room {shouldCoalesce : Bool} {size : Nat}
    (at_i : s.coalesceTable[i]? = some cd) (room : shouldCoalesce ∧ cd.MakesRoom size) :
    makeRoom env shouldCoalesce size i s = coalesceFlush env i s := by
  unfold makeRoom
  simp only [at_i, room, and_self, if_true]

theorem makeRoom_of_no_room {shouldCoalesce : Bool} {size : Nat}
    (at_i : s.coalesceTable[i]? = some cd) (no_room : ¬ (shouldCoalesce ∧ cd.MakesRoom size)) :
    makeRoom env shouldCoalesce size i s = s := by
  unfold makeRoom
  simp only [at_i, no_room, if_false]

/-- The deadline test is a ledger operation or none. -/
theorem CoalesceInv.flushIfDue (inv : CoalesceInv ordered subs l s)
    (env : CoalesceEnv) (now : UInt64) (i : Nat) :
    ∃ l', CoalesceInv ordered subs l' (flushIfDue env now i s) ∧ l'.inHand = l.inHand := by
  unfold IpxWrapper.flushIfDue
  split
  · exact ⟨l, inv, rfl⟩
  · rename_i cd at_i
    split
    · rename_i due
      exact ⟨_, inv.flush env at_i due.waiting, rfl⟩
    · exact ⟨l, inv, rfl⟩

/-- Making room is a ledger operation or none, and changes no other node. -/
theorem CoalesceInv.makeRoom (inv : CoalesceInv ordered subs l s)
    (env : CoalesceEnv) (at_i : s.coalesceTable[i]? = some cd)
    (shouldCoalesce : Bool) (size : Nat) :
    ∃ l' cd', CoalesceInv ordered subs l' (makeRoom env shouldCoalesce size i s) ∧
      l'.inHand = l.inHand ∧ cd'.key = cd.key ∧
      (IpxWrapper.makeRoom env shouldCoalesce size i s).coalesceTable =
        s.coalesceTable.set i cd' := by
  by_cases room : shouldCoalesce ∧ cd.MakesRoom size
  · obtain ⟨-, table, -⟩ := coalesceFlush_of_some env at_i
    rw [makeRoom_of_room at_i room]
    exact ⟨_, { cd with payload := [] }, inv.flush env at_i room.2.waiting, rfl, rfl, table⟩
  · obtain ⟨bound, same⟩ := List.getElem?_eq_some_iff.mp at_i
    rw [makeRoom_of_no_room at_i room]
    refine ⟨l, cd, inv, rfl, rfl, ?_⟩
    rw [← same, List.set_getElem_self]

/-- The packet in hand is queued at the node or still in hand. -/
theorem CoalesceInv.onNode (inv : CoalesceInv ordered subs l s)
    (env : CoalesceEnv) (held : l.inHand = some n)
    (at_n : subs[n]? = some call.submission) (at_i : s.coalesceTable[i]? = some node)
    (own_dest : node.dest = call.dest) (alone : ordered → Alone call i s) :
    ∃ l', CoalesceInv ordered subs l' (coalesceOnNode env call i s).2 ∧
      l'.inHand = if (coalesceOnNode env call i s).1 then none else some n := by
  have table₁ : (s.setNode i (node.registered call.now)).coalesceTable =
      s.coalesceTable.set i (node.registered call.now) := rfl
  have inv₁ := inv.setNode at_i (node.registered_key call.now) (node.registered_payload call.now)
  obtain ⟨l₂, cd₂, inv₂, held₂, key₂, table₂⟩ := inv₁.makeRoom env
    (getElem?_of_set at_i table₁) (coalesceRegisterSend node call.now).1 call.data.length
  have at_i₂ := getElem?_of_set (getElem?_of_set at_i table₁) table₂
  have own₂ : cd₂.dest = call.dest := by
    rw [← own_dest, ← node.registered_dest call.now]
    exact congrArg CoalesceTableKey.dest key₂
  unfold coalesceOnNode
  simp only [at_i]
  split
  · cases added : (coalesceAddData call i _).1 with
    | true =>
        exact (inv₂.enqueue (held₂.trans held) at_n at_i₂ own₂ added fun wanted =>
          ((alone wanted).of_set table₁).of_set table₂).flushIfDue env call.now i
    | false =>
        rw [(coalesceAddData_of_refused at_i₂ added).1]
        obtain ⟨l', inv', held'⟩ := inv₂.flushIfDue env call.now i
        exact ⟨l', inv', held'.trans (held₂.trans held)⟩
  · obtain ⟨l', inv', held'⟩ := inv₂.flushIfDue env call.now i
    exact ⟨l', inv', held'.trans (held₂.trans held)⟩

/-- A packet refused at a node leaves it as the deadline test does, and if it was
to be coalesced it is a large one that does not fit behind the data there. -/
theorem coalesceOnNode_of_refused (at_i : s.coalesceTable[i]? = some node)
    (refused : (coalesceOnNode env call i s).1 = false) :
    (coalesceOnNode env call i s).2 =
        flushIfDue env call.now i (s.setNode i (node.registered call.now)) ∧
      ((coalesceRegisterSend node call.now).1 = true → node.payload ≠ [] →
        coalesceMaxSize < node.payloadUsed + call.data.length ∧
          coalesceMaxSize / 2 ≤ call.data.length) := by
  have at_i₁ : (s.setNode i (node.registered call.now)).coalesceTable[i]? =
      some (node.registered call.now) := getElem?_of_set at_i rfl
  have used : (node.registered call.now).payloadUsed = node.payloadUsed :=
    congrArg List.length (node.registered_payload call.now)
  unfold coalesceOnNode at refused ⊢
  simp only [at_i] at refused ⊢
  cases decision : (coalesceRegisterSend node call.now).1 with
  | false =>
      rw [makeRoom_of_no_room at_i₁ (fun room => by cases room.1)]
      exact ⟨rfl, fun coalesced => by cases coalesced⟩
  | true =>
      simp only [decision, if_true] at refused ⊢
      by_cases room : (node.registered call.now).MakesRoom call.data.length
      · -- behind an emptied payload there is room for a small packet
        rw [makeRoom_of_room at_i₁ ⟨rfl, room⟩] at refused
        obtain ⟨-, table, -⟩ := coalesceFlush_of_some env at_i₁
        have large := (coalesceAddData_of_refused (getElem?_of_set at_i₁ table) refused).2.1 rfl
        have small := room.2
        unfold NovellIpxPacket.size coalesceMaxSize at *
        omega
      · rw [makeRoom_of_no_room at_i₁ (fun both => room both.2)] at refused ⊢
        obtain ⟨same, -, large⟩ := coalesceAddData_of_refused at_i₁ refused
        rw [same]
        refine ⟨rfl, fun _ waiting => ?_⟩
        rw [CoalesceDest.registered_payload, used] at large
        refine ⟨large waiting, ?_⟩
        by_contra small
        refine room ⟨?_, Nat.not_le.mp small⟩
        rw [used]
        exact large waiting

/-! ## One call of `coalesce_send` -/

/-- A node other than the one the call uses holds data for the same destination. -/
def OtherQueue (env : CoalesceEnv) (call : SendCall) (s : CoalesceState) : Prop :=
  ∃ other ∈ s.coalesceTable.zipIdx, other.1.dest = call.dest ∧ other.1.payload ≠ [] ∧
    (getCoalesceByDest env call s).1 ≠ some other.2

/-- The node the call uses holds data that has not waited for long enough to be
flushed, and the packet is not to be coalesced, or is a large one that does not
fit behind that data. -/
def PassesOwnQueue (env : CoalesceEnv) (call : SendCall) (s : CoalesceState) : Prop :=
  ∃ i ∈ (getCoalesceByDest env call s).1, ∃ cd ∈ s.coalesceTable[i]?,
    cd.payload ≠ [] ∧ ¬ cd.Due call.now ∧
      ((coalesceRegisterSend cd call.now).1 = false ∨
        (coalesceMaxSize < cd.payloadUsed + call.data.length ∧
          coalesceMaxSize / 2 ≤ call.data.length))

/-- Before the call: its packet would not go behind all that is queued for its
destination. -/
def Overtakes (env : CoalesceEnv) (call : SendCall) (s : CoalesceState) : Prop :=
  OtherQueue env call s ∨ PassesOwnQueue env call s

instance (env : CoalesceEnv) (call : SendCall) (s : CoalesceState) :
    Decidable (Overtakes env call s) :=
  inferInstanceAs (Decidable ((∃ other ∈ s.coalesceTable.zipIdx, _) ∨
    ∃ i ∈ (getCoalesceByDest env call s).1, ∃ cd ∈ s.coalesceTable[i]?, _))

/-- The assertions do not bear on the lookup. -/
theorem getCoalesceByDest_assert (holds : Bool) :
    (getCoalesceByDest env call (s.assert holds)).1 = (getCoalesceByDest env call s).1 := by
  have table : (s.assert holds).coalesceTable = s.coalesceTable := rfl
  unfold getCoalesceByDest
  rw [table]
  cases hashFind ⟨call.dest, call.keyPadding⟩ s.coalesceTable with
  | some i => split_ifs <;> rfl
  | none => split_ifs <;> rfl

theorem overtakes_assert_iff (holds : Bool) :
    Overtakes env call (s.assert holds) ↔ Overtakes env call s := by
  unfold Overtakes OtherQueue PassesOwnQueue
  rw [getCoalesceByDest_assert]
  exact Iff.rfl

theorem hashFind_key {key : CoalesceTableKey} {table : List CoalesceDest}
    (found : hashFind key table = some i) : ∃ cd, table[i]? = some cd ∧ cd.key = key := by
  induction table generalizing i with
  | nil => cases found
  | cons cd rest ih =>
      unfold hashFind at found
      cases later : hashFind key rest with
      | some j =>
          rw [later] at found
          cases found
          exact ih later
      | none =>
          rw [later] at found
          simp only at found
          split at found
          · rename_i same
            cases found
            exact ⟨cd, rfl, same⟩
          · cases found

/-- A node that the lookup returns is there, and is for the call's destination. -/
theorem getCoalesceByDest_some (found : (getCoalesceByDest env call s).1 = some i) :
    ∃ node, (getCoalesceByDest env call s).2.coalesceTable[i]? = some node ∧
      node.dest = call.dest := by
  unfold getCoalesceByDest at found ⊢
  split at found
  · cases found
  case isFalse enabled =>
    rw [if_neg enabled]
    split at found
    case h_1 j known =>
      obtain rfl := Option.some.inj found
      obtain ⟨node, at_j, same⟩ := hashFind_key known
      exact ⟨node, at_j, congrArg CoalesceTableKey.dest same⟩
    case h_2 =>
      split at found
      case isTrue memory =>
        obtain rfl := Option.some.inj found
        rw [if_pos memory]
        exact ⟨_, List.getElem?_concat_length, rfl⟩
      case isFalse => cases found

/-- Looking up the node keeps the ledger, and a node with data was there before. -/
theorem CoalesceInv.lookup (inv : CoalesceInv ordered subs l s) (env : CoalesceEnv)
    (call : SendCall) :
    ∃ l', CoalesceInv ordered subs l' (getCoalesceByDest env call s).2 ∧
      l'.inHand = l.inHand ∧
      (∀ (j : Nat) (cd : CoalesceDest),
        (getCoalesceByDest env call s).2.coalesceTable[j]? = some cd →
        cd.payload ≠ [] → s.coalesceTable[j]? = some cd) := by
  unfold getCoalesceByDest
  split
  · exact ⟨l, inv, rfl, fun _ _ at_j _ => at_j⟩
  split
  · exact ⟨l, inv, rfl, fun _ _ at_j _ => at_j⟩
  split
  · refine ⟨_, inv.openQueue ⟨call.dest, call.nodePadding⟩, rfl, fun j cd at_j waiting => ?_⟩
    simp only [List.getElem?_append] at at_j
    split at at_j
    · exact at_j
    · have new := List.mem_of_getElem? at_j
      rw [List.mem_singleton.mp new] at waiting
      exact (waiting rfl).elim
  · exact ⟨l, inv, rfl, fun _ _ at_j _ => at_j⟩

/-- The assertion on the size fails only for an empty packet. -/
theorem CoalesceInv.assertSize (inv : CoalesceInv ordered subs l s) {data : List Byte}
    (submitted : ∃ sub ∈ subs, sub.data = data) :
    CoalesceInv ordered subs l (s.assert (0 < data.length)) where
  conserves := inv.conserves
  order := inv.order
  submitted := inv.submitted
  sent := inv.sent
  queued := inv.queued
  pending_nodup := inv.pending_nodup
  pending_iff := inv.pending_iff
  asserted := fun failed => by
    rcases Bool.or_eq_true_iff.mp failed with before | empty
    · exact inv.asserted before
    · obtain ⟨sub, member, same⟩ := submitted
      have none : ¬ 0 < data.length := by simpa using empty
      exact ⟨sub, member, by rw [same]; exact List.length_eq_zero_iff.mp (by omega)⟩

/-- Once a refused packet's own node has seen the deadline test, nothing is queued
for its destination unless the call overtakes. -/
theorem idle_of_refused {s₀ : CoalesceState} (at_i : s.coalesceTable[i]? = some node)
    (target : (getCoalesceByDest env call s₀).1 = some i)
    (old : ∀ (j : Nat) (cd : CoalesceDest), s.coalesceTable[j]? = some cd →
      cd.payload ≠ [] → s₀.coalesceTable[j]? = some cd)
    (refused : (coalesceOnNode env call i s).1 = false) (kept : ¬ Overtakes env call s₀)
    (j : Nat) (cd : CoalesceDest)
    (at_j : (coalesceOnNode env call i s).2.coalesceTable[j]? = some cd)
    (own_dest : cd.dest = call.dest) : cd.payload = [] := by
  obtain ⟨left, large⟩ := coalesceOnNode_of_refused at_i refused
  have at_i₁ : (s.setNode i (node.registered call.now)).coalesceTable[i]? =
      some (node.registered call.now) := getElem?_of_set at_i rfl
  by_contra waiting
  have elsewhere : s.coalesceTable[j]? = some cd → j = i := by
    intro before
    by_contra ne
    refine kept (Or.inl ⟨(cd, j), List.mem_zipIdx_iff_getElem?.mpr (old j cd before waiting),
      own_dest, waiting, fun same => ne ?_⟩)
    rw [target, Option.some.injEq] at same
    exact same.symm
  rw [left] at at_j
  unfold flushIfDue at at_j
  simp only [at_i₁] at at_j
  split at at_j
  · rename_i due
    obtain ⟨-, table, -⟩ := coalesceFlush_of_some env at_i₁
    by_cases same : j = i
    · rw [same, getElem?_of_set at_i₁ table] at at_j
      cases at_j
      exact waiting rfl
    · rw [table, List.getElem?_set_ne (Ne.symm same)] at at_j
      rw [CoalesceState.setNode, List.getElem?_set_ne (Ne.symm same)] at at_j
      exact same (elsewhere at_j)
  · rename_i fresh
    by_cases same : j = i
    · rw [same, at_i₁, Option.some.injEq] at at_j
      rw [← at_j, CoalesceDest.registered_payload] at waiting
      rw [CoalesceDest.registered_due_iff] at fresh
      refine kept (Or.inr ⟨i, target, node, old i node at_i waiting, waiting, fresh, ?_⟩)
      cases decision : (coalesceRegisterSend node call.now).1 with
      | false => exact Or.inl rfl
      | true => exact Or.inr (large decision waiting)
    · rw [CoalesceState.setNode, List.getElem?_set_ne (Ne.symm same)] at at_j
      exact same (elsewhere at_j)

/-- One call of `coalesce_send`: a packet is submitted and put in one place. -/
theorem CoalesceInv.send (inv : CoalesceInv ordered subs l s) (free : l.inHand = none)
    (env : CoalesceEnv) (call : SendCall) (kept : ordered → ¬ Overtakes env call s) :
    ∃ l', CoalesceInv ordered (subs ++ [call.submission]) l' (coalesceSend env call s).2 ∧
      l'.inHand = none := by
  have at_n : (subs ++ [call.submission])[subs.length]? = some call.submission := by
    rw [List.getElem?_append_right (Nat.le_refl _), Nat.sub_self, List.getElem?_cons_zero]
  have taken : l.submit.inHand = some subs.length := by
    rw [← inv.submitted]
    rfl
  have asserted : CoalesceInv ordered (subs ++ [call.submission]) l.submit
      (s.assert (0 < call.data.length)) := (inv.submit free call.submission).assertSize
    ⟨call.submission, List.mem_append_right _ (List.mem_singleton.mpr rfl), rfl⟩
  obtain ⟨l₁, inv₁, held₁, old⟩ := asserted.lookup env call
  set s₀ := s.assert (0 < call.data.length)
  have kept' : ordered → ¬ Overtakes env call s₀ :=
    fun wanted => mt (overtakes_assert_iff _).mp (kept wanted)
  have others : ordered → ∀ (j : Nat) (cd : CoalesceDest),
      (getCoalesceByDest env call s₀).2.coalesceTable[j]? = some cd →
      (getCoalesceByDest env call s₀).1 ≠ some j → cd.dest = call.dest → cd.payload = [] := by
    intro wanted j cd at_j not_target own_dest
    by_contra waiting
    exact kept' wanted (Or.inl ⟨(cd, j),
      List.mem_zipIdx_iff_getElem?.mpr (old j cd at_j waiting), own_dest, waiting, not_target⟩)
  unfold coalesceSend
  simp only
  cases target : (getCoalesceByDest env call s₀).1 with
  | none =>
      simp only [Bool.false_eq_true, if_false]
      refine ⟨_, inv₁.sendNow env (held₁.trans taken) at_n fun wanted j cd at_j own_dest => ?_, rfl⟩
      exact others wanted j cd at_j (by rw [target]; exact fun none => by cases none) own_dest
  | some i =>
      obtain ⟨node, at_i, own_dest⟩ := getCoalesceByDest_some target
      obtain ⟨l₂, inv₂, held₂⟩ := inv₁.onNode env (held₁.trans taken) at_n at_i own_dest
        fun wanted j cd at_j ne => others wanted j cd at_j
          (by rw [target]; exact fun same => ne (Option.some.inj same).symm)
      cases queued : (coalesceOnNode env call i _).1 with
      | true =>
          rw [queued] at held₂
          exact ⟨l₂, inv₂, held₂⟩
      | false =>
          rw [queued] at held₂
          refine ⟨_, inv₂.sendNow env held₂ at_n fun wanted j cd at_j own_dest => ?_, rfl⟩
          exact idle_of_refused at_i target old queued (kept' wanted) j cd at_j own_dest

/-! ## The loops over the pending list -/

/-- A body that leaves the loop with its state, or flushes the oldest node that
has data and goes round again. -/
def FlushesOldest (env : CoalesceEnv) (body : CoalesceState → Iter CoalesceState CoalesceState) :
    Prop :=
  ∀ s, (∃ s', body s = .done s' ∧ s' = s) ∨
    ∃ i rest, s.coalescePending = i :: rest ∧ body s = .next (coalesceFlush env i s)

theorem flushWaitingBody_flushesOldest (env : CoalesceEnv) (now : UInt64) :
    FlushesOldest env (flushWaitingBody env now) := by
  intro s
  unfold flushWaitingBody
  split
  · exact Or.inl ⟨s, rfl, rfl⟩
  · rename_i i rest pending
    split
    · exact Or.inl ⟨s, rfl, rfl⟩
    split
    · exact Or.inr ⟨i, rest, pending, rfl⟩
    · exact Or.inl ⟨s, rfl, rfl⟩

theorem cleanupBody_flushesOldest (env : CoalesceEnv) : FlushesOldest env (cleanupBody env) := by
  intro s
  unfold cleanupBody
  split
  · exact Or.inl ⟨s, rfl, rfl⟩
  · rename_i i rest pending
    exact Or.inr ⟨i, rest, pending, rfl⟩

/-- One pass keeps the ledger and shortens the pending list. -/
theorem CoalesceInv.flushOldest (inv : CoalesceInv ordered subs l s) (env : CoalesceEnv)
    {rest : List Nat} (pending : s.coalescePending = i :: rest) :
    CoalesceInv ordered subs (l.flush i) (coalesceFlush env i s) ∧
      (coalesceFlush env i s).coalescePending = rest := by
  have member : i ∈ s.coalescePending := by
    rw [pending]
    exact List.mem_cons_self
  obtain ⟨cd, at_i, waiting⟩ := (inv.pending_iff i).mp member
  obtain ⟨-, -, shortened⟩ := coalesceFlush_of_some env at_i
  refine ⟨inv.flush env at_i waiting, ?_⟩
  rw [shortened, pending, List.erase_cons_head]

/-- A loop that flushes the oldest node keeps what every flush keeps. -/
theorem runFlushes_invariant {body : CoalesceState → Iter CoalesceState CoalesceState}
    (flushes : FlushesOldest env body) {I : CoalesceState → Prop}
    (keeps : ∀ s i, I s → I (coalesceFlush env i s)) (start : I s) : I (runFlushes body s) := by
  have pass : ∀ s s', I s → body s = .next s' → I s' := by
    intro s s' kept next
    rcases flushes s with ⟨_, leaves, _⟩ | ⟨i, _, _, round⟩
    · rw [leaves] at next
      cases next
    · rw [round] at next
      cases next
      exact keeps s i kept
  have exit : ∀ s s', I s → body s = .done s' → I s' := by
    intro s s' kept left
    rcases flushes s with ⟨_, leaves, rfl⟩ | ⟨_, _, _, round⟩
    · rw [leaves] at left
      cases left
      exact kept
    · rw [round] at left
      cases left
  unfold runFlushes
  cases ran : run body (s.coalescePending.length + 1) s with
  | next s' => exact Visits.invariant pass start ⟨_, ran⟩
  | done s' => exact Yields.post pass exit start ⟨_, ran⟩

/-- A loop that flushes the oldest node keeps what one flush keeps, and ends in a
state its body leaves it in. -/
theorem runFlushes_keeps {body : CoalesceState → Iter CoalesceState CoalesceState}
    (flushes : FlushesOldest env body) {I : CoalesceState → Prop}
    (keeps : ∀ s i rest, I s → s.coalescePending = i :: rest →
      I (coalesceFlush env i s) ∧ (coalesceFlush env i s).coalescePending = rest)
    (start : I s) :
    I (runFlushes body s) ∧ body (runFlushes body s) = .done (runFlushes body s) := by
  have decreases : ∀ s s', I s → body s = .next s' →
      I s' ∧ s'.coalescePending.length < s.coalescePending.length := by
    intro s s' kept pass
    rcases flushes s with ⟨_, leaves, _⟩ | ⟨i, rest, pending, round⟩
    · rw [leaves] at pass
      cases pass
    · rw [round] at pass
      cases pass
      obtain ⟨kept', shortened⟩ := keeps s i rest kept pending
      refine ⟨kept', ?_⟩
      rw [shortened, pending, List.length_cons]
      omega
  obtain ⟨final, ran⟩ :=
    run_of_measure (I := I) (fun s => s.coalescePending.length) decreases start
  have post : I final ∧ body final = .done final :=
    Yields.post (P := fun final => I final ∧ body final = .done final)
      (fun s s' kept pass => (decreases s s' kept pass).1)
      (fun s a kept pass => by
        rcases flushes s with ⟨s', leaves, same⟩ | ⟨i, rest, _, round⟩
        · rw [leaves] at pass
          cases pass
          rw [same] at leaves ⊢
          exact ⟨kept, leaves⟩
        · rw [round] at pass
          cases pass)
      start ⟨_, ran⟩
  have same : IpxWrapper.runFlushes body s = final := by
    unfold IpxWrapper.runFlushes
    rw [ran]
  rw [same]
  exact post

/-- The loop keeps the ledger. -/
theorem CoalesceInv.runFlushes (inv : CoalesceInv ordered subs l s) (free : l.inHand = none)
    {body : CoalesceState → Iter CoalesceState CoalesceState} (flushes : FlushesOldest env body) :
    ∃ l', CoalesceInv ordered subs l' (runFlushes body s) ∧ l'.inHand = none ∧
      body (IpxWrapper.runFlushes body s) = .done (IpxWrapper.runFlushes body s) := by
  let I : CoalesceState → Prop := fun s => ∃ l, CoalesceInv ordered subs l s ∧ l.inHand = none
  have keeps : ∀ s i rest, I s → s.coalescePending = i :: rest →
      I (coalesceFlush env i s) ∧ (coalesceFlush env i s).coalescePending = rest := by
    intro s i rest kept pending
    obtain ⟨l, inv, free⟩ := kept
    obtain ⟨inv', shortened⟩ := inv.flushOldest env pending
    exact ⟨⟨_, inv', free⟩, shortened⟩
  obtain ⟨⟨l', inv', free'⟩, leaves⟩ := runFlushes_keeps (I := I) flushes keeps ⟨l, inv, free⟩
  exact ⟨l', inv', free', leaves⟩

/-- The loop of `coalesce_cleanup` empties the list. -/
theorem pending_of_cleanupBody_done {final : CoalesceState}
    (leaves : cleanupBody env s = .done final) : s.coalescePending = [] := by
  unfold cleanupBody at leaves
  split at leaves
  · assumption
  · cases leaves

/-- A node with nothing in it stands for an empty queue. -/
theorem CoalesceInv.idle (inv : CoalesceInv ordered subs l s) (none : s.coalescePending = []) :
    l.queued.flatten = [] := by
  rw [List.flatten_eq_nil_iff]
  intro queue member
  obtain ⟨i, queue_at⟩ := List.mem_iff_getElem?.mp member
  obtain ⟨cd, at_i, queuedAs⟩ := forall₂_getElem? inv.queued.flip queue_at
  refine queuedAs.idle.mpr ?_
  by_contra waiting
  have pending := (inv.pending_iff i).mpr ⟨cd, at_i, waiting⟩
  rw [none] at pending
  cases pending

theorem CoalesceInv.cleanup (inv : CoalesceInv ordered subs l s) (free : l.inHand = none)
    (env : CoalesceEnv) :
    ∃ l', CoalesceInv ordered subs l' (coalesceCleanup env s) ∧ l'.inHand = none ∧
      (coalesceCleanup env s).coalescePending = [] := by
  obtain ⟨l', inv', free', leaves⟩ :=
    inv.runFlushes free (cleanupBody_flushesOldest env)
  have none := pending_of_cleanupBody_done leaves
  refine ⟨l'.closeQueues, ?_, free', none⟩
  exact
    { conserves := inv'.conserves.closeQueues (inv'.idle none)
      order := fun wanted => (inv'.order wanted).closeQueues
      submitted := inv'.submitted
      sent := inv'.sent
      queued := .nil
      pending_nodup := inv'.pending_nodup
      pending_iff := fun i => by
        rw [coalesceCleanup, none]
        simp only [List.not_mem_nil, List.getElem?_nil, reduceCtorEq, false_and, exists_false]
      asserted := inv'.asserted }

/-! ## Whole runs -/

/-- The packets a call submits. -/
def CoalesceOp.submissions : CoalesceOp → List Submission
  | .send call => [call.submission]
  | .flushWaiting _ => []
  | .cleanup => []

/-- The packets a run submits, in order. -/
def submissions (ops : List CoalesceOp) : List Submission :=
  ops.flatMap CoalesceOp.submissions

/-- Every `coalesce_send` call of the run satisfies `P` in the state it begins in. -/
def EverySend (env : CoalesceEnv) (P : SendCall → CoalesceState → Prop)
    (ops : List CoalesceOp) : Prop :=
  ∀ before call after, ops = before ++ .send call :: after →
    P call (runCoalesce env before .init)

theorem runCoalesce_inv (env : CoalesceEnv) (ops : List CoalesceOp)
    (kept : ordered → EverySend env (fun call s => ¬ Overtakes env call s) ops) :
    ∃ l, CoalesceInv ordered (submissions ops) l (runCoalesce env ops .init) ∧
      l.inHand = none := by
  induction ops using List.reverseRecOn with
  | nil => exact ⟨_, CoalesceInv.init, rfl⟩
  | append_singleton ops op ih =>
      obtain ⟨l, inv, free⟩ := ih fun wanted before call after split =>
        kept wanted before call (after ++ [op]) (by rw [split, List.append_assoc]; rfl)
      have submitted : submissions (ops ++ [op]) = submissions ops ++ op.submissions := by
        unfold submissions
        rw [List.flatMap_append, List.flatMap_singleton]
      have stepped : runCoalesce env (ops ++ [op]) .init =
          op.apply env (runCoalesce env ops .init) := List.foldl_concat _ _ _ _
      rw [submitted, stepped]
      cases op with
      | send call => exact inv.send free env call fun wanted => kept wanted ops call [] rfl
      | flushWaiting now =>
          obtain ⟨l', inv', free', -⟩ :=
            inv.runFlushes free (flushWaitingBody_flushesOldest env now)
          rw [show CoalesceOp.submissions (.flushWaiting now) = [] from rfl, List.append_nil]
          exact ⟨l', inv', free'⟩
      | cleanup =>
          obtain ⟨l', inv', free', -⟩ := inv.cleanup free env
          rw [show CoalesceOp.submissions .cleanup = [] from rfl, List.append_nil]
          exact ⟨l', inv', free'⟩

end IpxWrapper
