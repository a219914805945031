import IpxWrapper.RecvQueueRuns

/-!
# The references to the receive queue

The socket holds one reference to its queue, and each `recv_pump` that has
claimed a slot holds one. The exit of `recv_pump` that puts a packet in the
queue does not give its reference back, so the references are counted right up
to the first packet that is received, and only up to it:
`recvMoves_countsReferences_iff`.
-/

namespace IpxWrapper

open Base RecvSocket

/-! ## Counting in 32 bits -/

theorem toInt_add_one {a : Int32} (small : a.toInt < 2147483647) :
    (a + 1).toInt = a.toInt + 1 := by
  have low := a.le_toInt
  rw [Int32.toInt_add, Int32.toInt_one, Int.bmod_eq_of_le] <;> omega

theorem toInt_sub_one {a : Int32} (positive : 0 < a.toInt) :
    (a + -1).toInt = a.toInt - 1 := by
  have high := a.toInt_lt
  rw [Int32.toInt_add, show (-1 : Int32).toInt = -1 by decide, Int.bmod_eq_of_le] <;> omega

/-! ## References -/

namespace RecvSocket

/-- How many hold a reference to the queue. -/
def references (s : RecvSocket) : Nat :=
  (if s.isOpen then 1 else 0) + s.pumps.length

/-- `refcount` is `n` more than the number of those that hold a reference, and
the queue was freed once if nobody does. -/
structure Exceeds (s : RecvSocket) (n : Nat) : Prop where
  refcount : s.queue.refcount.toInt = s.references + n
  freed : s.freed = if s.references = 0 then 1 else 0

/-- From `s` to `s'` at most one reference is taken, by one more pump. -/
structure Takes (s s' : RecvSocket) : Prop where
  isOpen : s'.isOpen = s.isOpen
  freed : s'.freed = s.freed
  count : (s'.queue.refcount = s.queue.refcount ∧ s'.pumps.length = s.pumps.length) ∨
    (s'.queue.refcount = s.queue.refcount + 1 ∧ s'.pumps.length = s.pumps.length + 1)

end RecvSocket

/-! ## What the sections do -/

section Sections

variable {s s' : RecvSocket} {n : Nat}

/-- Only a claim takes a reference. -/
theorem Turn.takes {available : Option Nat} (turn : Turn available s s') : Takes s s' := by
  cases turn with
  | ends isOpen freed refcount pumps => exact ⟨isOpen, freed, Or.inl ⟨refcount, by rw [pumps]⟩⟩
  | claims call slot isOpen freed refcount pumps =>
      exact ⟨isOpen, freed, Or.inr ⟨refcount, by rw [pumps, List.length_append]; rfl⟩⟩

theorem references_ne_zero (isOpen : s.isOpen = true) : s.references ≠ 0 := by
  unfold RecvSocket.references
  rw [if_pos isOpen]
  omega

/-- While the socket is open its queue is not freed. -/
theorem RecvSocket.Exceeds.freed_eq_zero (counts : s.Exceeds n) (isOpen : s.isOpen = true) :
    s.freed = 0 := by
  rw [counts.freed, if_neg (references_ne_zero isOpen)]

theorem RecvSocket.Exceeds.takes (counts : s.Exceeds n) (isOpen : s.isOpen = true)
    (takes : Takes s s') (small : s.references + n < 2147483647) : s'.Exceeds n := by
  have isOpen' : s'.isOpen = true := takes.isOpen.trans isOpen
  have freed : s'.freed = if s'.references = 0 then 1 else 0 := by
    rw [takes.freed, counts.freed_eq_zero isOpen, if_neg (references_ne_zero isOpen')]
  have refcount := counts.refcount
  refine ⟨?_, freed⟩
  unfold RecvSocket.references at refcount small ⊢
  rw [isOpen] at refcount small
  rw [isOpen']
  rcases takes.count with ⟨same, pumps⟩ | ⟨more, pumps⟩
  · rw [same, pumps, refcount]
  · rw [more, toInt_add_one (by omega), pumps, refcount]
    omega

theorem RecvSocket.Exceeds.same (counts : s.Exceeds n) (isOpen : s'.isOpen = s.isOpen)
    (pumps : s'.pumps.length = s.pumps.length) (freed : s'.freed = s.freed)
    (refcount : s'.queue.refcount = s.queue.refcount) : s'.Exceeds n := by
  have references : s'.references = s.references := by
    unfold RecvSocket.references
    rw [isOpen, pumps]
  exact ⟨by rw [refcount, references, counts.refcount], by rw [freed, references, counts.freed]⟩

theorem RecvSocket.Exceeds.finish (counts : s.Exceeds n) (result : CallResult) :
    (s.finish result).Exceeds n :=
  ⟨counts.refcount, counts.freed⟩

/-- `release_recv_queue` gives up a reference that is not counted any more, and
frees the queue if there is no other. -/
theorem releaseRecvQueue_exceeds (one : s.queue.refcount.toInt = s.references + 1)
    (freed : s.freed = 0) : s.releaseRecvQueue.Exceeds 0 := by
  have fewer := toInt_sub_one (a := s.queue.refcount) (by omega)
  have references : s.releaseRecvQueue.references = s.references := by
    unfold RecvSocket.references
    rw [releaseRecvQueue_isOpen, releaseRecvQueue_pumps]
  have isLast : s.queue.refcount + -1 = 0 ↔ s.references = 0 := by
    rw [← Int32.toInt_inj, fewer, Int32.toInt_zero]
    omega
  constructor
  · rw [references]
    change (s.queue.refcount + -1).toInt = _
    omega
  · rw [releaseRecvQueue_freed, references, freed]
    exact if_congr isLast rfl rfl

end Sections

/-! ## Runs -/

/-- The step is the exit of `recv_pump` that puts a packet in the queue. -/
def acceptsPacket (m : Move RecvAct RecvSocket) : Bool :=
  match m.input with
  | .reclaim k _ =>
      match m.before.pumps[k]? with
      | some p =>
          match p.state with
          | .received r => m.before.isOpen && ValidPacket (m.before.queue.data p.slot) r
          | _ => false
      | none => false
  | _ => false

section Runs

variable {s s' : RecvSocket} {k : Nat} {p : Pump}

/-- A pump that has claimed a slot holds a reference. -/
theorem references_eraseIdx (at_k : s.pumps[k]? = some p) (isOpen : s'.isOpen = s.isOpen)
    (pumps : s'.pumps = s.pumps.eraseIdx k) : s.references = s'.references + 1 := by
  have bound := (List.getElem?_eq_some_iff.mp at_k).1
  unfold RecvSocket.references
  rw [isOpen, pumps, List.length_eraseIdx_of_lt bound]
  omega

/-- The queue is there as long as a pump runs. -/
theorem freed_eq_zero_of_pump (counts : s.Exceeds 0) (at_k : s.pumps[k]? = some p) :
    s.freed = 0 := by
  have references : s.references = { s with pumps := s.pumps.eraseIdx k }.references + 1 :=
    references_eraseIdx at_k rfl rfl
  rw [counts.freed, if_neg (by omega)]

/-- The exits of `recv_pump` that give up the reference. -/
theorem reclaim_exceeds_of_not (counts : s.Exceeds 0) (at_k : s.pumps[k]? = some p)
    (done : p.state ≠ .receiving) (available : Option Nat)
    (gives : ∀ r, p.state = .received r → s.isOpen = true →
      ¬ ValidPacket (s.queue.data p.slot) r) :
    ({ s with pumps := s.pumps.eraseIdx k }.reclaim p available).Exceeds 0 := by
  have references : s.references = { s with pumps := s.pumps.eraseIdx k }.references + 1 :=
    references_eraseIdx at_k rfl rfl
  have one : s.queue.refcount.toInt =
      { s with pumps := s.pumps.eraseIdx k }.references + 1 := by
    rw [counts.refcount, references]
    omega
  have freed := freed_eq_zero_of_pump counts at_k
  have discard (error : Option UInt32) :
      ({ s with pumps := s.pumps.eraseIdx k }.discard p error).Exceeds 0 := by
    unfold RecvSocket.discard
    exact (releaseRecvQueue_exceeds (s := { s with
      pumps := s.pumps.eraseIdx k
      queue := s.queue.setSize p.slot slotFree }) one freed).finish _
  unfold RecvSocket.reclaim
  split
  case isTrue =>
    exact (releaseRecvQueue_exceeds (s := { s with pumps := s.pumps.eraseIdx k }) one
      freed).finish _
  case isFalse isOpen =>
    have isOpen : s.isOpen = true := not_not.mp isOpen
    cases state : p.state with
    | receiving => exact absurd state done
    | failed => exact discard none
    | received r =>
        dsimp only
        rw [if_neg (gives r state isOpen)]
        exact discard _

/-- A pump ends and its reference stays. -/
theorem exceeds_one (counts : s.Exceeds 0) (at_k : s.pumps[k]? = some p)
    (isOpen : s.isOpen = true) (isOpen' : s'.isOpen = true)
    (pumps : s'.pumps = s.pumps.eraseIdx k) (freed : s'.freed = s.freed)
    (refcount : s'.queue.refcount = s.queue.refcount) : s'.Exceeds 1 := by
  have references := references_eraseIdx at_k (isOpen'.trans isOpen.symm) pumps
  constructor
  · rw [refcount, counts.refcount, references]
    rfl
  · rw [freed, counts.freed_eq_zero isOpen, if_neg (references_ne_zero isOpen')]

/-- The exit of `recv_pump` that puts a packet in the queue. -/
theorem reclaim_exceeds_of_accepts (counts : s.Exceeds 0) (at_k : s.pumps[k]? = some p)
    {r : Nat} (received : p.state = .received r) (isOpen : s.isOpen = true)
    (valid : ValidPacket (s.queue.data p.slot) r) (few : s.references < 2147483647)
    (available : Option Nat) :
    ({ s with pumps := s.pumps.eraseIdx k }.reclaim p available).Exceeds 1 := by
  unfold RecvSocket.reclaim
  rw [if_neg (not_not_intro isOpen)]
  simp only [received]
  rw [if_pos valid]
  cases appended : s.queue.append p.slot r with
  | none => exact exceeds_one counts at_k isOpen isOpen rfl rfl rfl
  | some q =>
      have same := (append_counts appended).1
      let s₁ : RecvSocket := { s with
        pumps := s.pumps.eraseIdx k
        queue := q
        appended := s.appended ++ [(s.queue.data p.slot).slice 0 r] }
      have kept : s₁.Exceeds 1 := exceeds_one counts at_k isOpen isOpen rfl rfl same
      have references : s.references = s₁.references + 1 := references_eraseIdx at_k rfl rfl
      rw [references] at few
      exact kept.takes isOpen (continueCall_turn s₁ p.call available).takes few

variable {act : RecvAct}

/-- One step: the references are counted right, unless a packet is received. -/
theorem recvStep_exceeds (counts : s.Exceeds 0) (inv : OpenInv s)
    (enabled : recvStep act s = some s') :
    s'.Exceeds (if acceptsPacket ⟨s, act, s'⟩ then 1 else 0) := by
  have few : s.isOpen = true → s.references < 2147483647 := by
    intro isOpen
    obtain ⟨slots, inv⟩ := inv isOpen
    have bound := slots.length_le
    rw [inv.owners, List.length_map] at bound
    unfold RecvSocket.references recvQueueMaxPackets at *
    split <;> omega
  cases recvStep_turn enabled with
  | @starts call available isOpen after =>
      subst after
      exact counts.takes isOpen (startCall_turn s call available).takes (few isOpen)
  | @returns k p received at_k receiving after =>
      subst after
      cases received with
      | none => exact counts.same rfl List.length_set rfl rfl
      | some bytes => exact counts.same rfl List.length_set rfl rfl
  | @reclaims k p available at_k done after =>
      subst after
      cases accepts : acceptsPacket ⟨s, .reclaim k available,
          { s with pumps := s.pumps.eraseIdx k }.reclaim p available⟩ with
      | false =>
          refine reclaim_exceeds_of_not counts at_k done available ?_
          intro r received isOpen valid
          simp only [acceptsPacket, at_k, received, isOpen, valid, decide_true, Bool.and_self,
            Bool.true_eq_false] at accepts
      | true =>
          simp only [acceptsPacket, at_k] at accepts
          split at accepts
          case h_1 r received =>
            rw [Bool.and_eq_true, decide_eq_true_eq] at accepts
            obtain ⟨isOpen, valid⟩ := accepts
            exact reclaim_exceeds_of_accepts counts at_k received isOpen valid (few isOpen)
              available
          case h_2 => cases accepts
  | @closes ok isOpen after =>
      subst after
      cases ok with
      | true =>
          let s₁ : RecvSocket := { s with isOpen := false }
          have references : s.references = s₁.references + 1 := by
            unfold RecvSocket.references
            rw [if_pos isOpen, if_neg Bool.false_ne_true, Nat.zero_add, Nat.add_comm]
          have one : s.queue.refcount.toInt = s₁.references + 1 := by
            rw [counts.refcount, references]
            rfl
          exact releaseRecvQueue_exceeds one (counts.freed_eq_zero isOpen)
      | false => exact counts

end Runs

/-- `refcount` is 1 for the open socket and 1 for each `recv_pump` that has
claimed a slot, and the queue was freed, once, when nobody was left. -/
def CountsReferences (s : RecvSocket) : Prop := s.Exceeds 0

/-- The references are counted right in every state of a run if and only if no
packet is received in it. -/
theorem recvMoves_countsReferences_iff (ready : Slot → Int) (data : Slot → Mem)
    (acts : List RecvAct) :
    (∀ m ∈ recvMoves ready data acts, CountsReferences m.after) ↔
      ∀ m ∈ recvMoves ready data acts, acceptsPacket m = false := by
  have start : CountsReferences (.init ready data) ∧ OpenInv (.init ready data) :=
    ⟨⟨rfl, rfl⟩, fun _ => ⟨Slots.empty, .init ready data⟩⟩
  constructor
  · intro counted m member
    refine (moves_induct (I := fun s => CountsReferences s ∧ OpenInv s)
      (Q := fun m => acceptsPacket m = false) start counted ?_ m member).2.2
    intro m before enabled after
    refine ⟨⟨after, fun isOpen => (before.2.step enabled isOpen).2.inv⟩, ?_⟩
    have counts := recvStep_exceeds before.1 before.2 enabled
    cases accepts : acceptsPacket m with
    | false => rfl
    | true =>
        have one := counts.refcount
        rw [if_pos accepts, after.refcount] at one
        omega
  · intro receivesNothing m member
    refine (moves_induct (I := fun s => CountsReferences s ∧ OpenInv s)
      (Q := fun _ => True) start receivesNothing ?_ m member).2.1.1
    intro m before enabled gives
    have counts := recvStep_exceeds before.1 before.2 enabled
    rw [if_neg (by rw [gives]; exact Bool.false_ne_true)] at counts
    exact ⟨⟨counts, fun isOpen => (before.2.step enabled isOpen).2.inv⟩, trivial⟩

/-- A call of `recv` on a bound socket. -/
def someReceive : ReceiveCall := ⟨.recv, 512, false, false, none, true, false, fun _ _ => false⟩

/-- A packet without data is received, and then the socket is closed. -/
def oneReceiveRun : List RecvAct :=
  [.start (.receive someReceive) none, .recvDone 0 (some ⟨List.replicate 27 0, by decide⟩),
    .reclaim 0 none, .closesocket true]

/-- Nobody holds a reference after this run, and the queue has not been freed. -/
theorem oneReceiveRun_not_countsReferences :
    ¬ ∀ m ∈ recvMoves (fun _ => 0) (fun _ _ => 0) oneReceiveRun, CountsReferences m.after := by
  intro counted
  have leaked : ∃ m ∈ recvMoves (fun _ => 0) (fun _ _ => 0) oneReceiveRun,
      m.after.references = 0 ∧ m.after.freed = 0 := by
    decide
  obtain ⟨m, member, nobody, notFreed⟩ := leaked
  have freed := (counted m member).freed
  rw [nobody, notFreed] at freed
  cases freed

end IpxWrapper
