import IpxWrapper.RecvQueueRuns
import IpxWrapper.RecvQueueLifetime
import IpxWrapper.Base.Loop

/-!
# A receive queue without a free slot

The comment at the loop of `recv_packet` says that it is for concurrent calls
of `recv`. Each of them holds a slot while it waits, and there are 32. A call
that finds none of them free goes round the loop with the sockets lock held, and
the others need that lock to give their slots back. So a run does not spin as
long as no call gets to the loop while 32 others wait and no packet is ready:
`recvMoves_neverSpins_iff`.
-/

namespace IpxWrapper

open Base RecvSocket

/-! ## The loop of `recv_packet` -/

/-- One pass of the loop, with the lock held. It is left when a packet is ready,
and the lock is given up when `recv_pump` finds a slot. -/
def recvPacketPass (s : RecvSocket) : Iter RecvSocket (Option Slot) :=
  if s.queue.nReady < 1 then
    match s.queue.findFree with
    | some slot => .done (some slot)
    | none => .next s
  else
    .done none

/-- No packet is ready and `recv_pump` finds no slot. -/
def NoSlot (s : RecvSocket) : Prop := s.queue.nReady < 1 ∧ s.queue.findFree = none

section Loops

variable {s s' : RecvSocket} {act : RecvAct}

/-- A pass that changes nothing is followed by one that changes nothing. -/
theorem recvPacketPass_halts_iff : Loop.Halts recvPacketPass s ↔ ¬ NoSlot s := by
  constructor
  · intro halts noSlot
    refine Loop.not_halts_of_stays (I := NoSlot) ?_ noSlot halts
    intro t noSlot
    refine ⟨t, ?_, noSlot⟩
    unfold recvPacketPass
    rw [if_pos noSlot.1, noSlot.2]
  · intro slot
    by_cases empty : s.queue.nReady < 1
    · cases found : s.queue.findFree with
      | none => exact absurd ⟨empty, found⟩ slot
      | some i =>
          refine (Loop.yields_of_done (a := some i) ?_).halts
          unfold recvPacketPass
          rw [if_pos empty, found]
    · refine (Loop.yields_of_done (a := none) ?_).halts
      unfold recvPacketPass
      rw [if_neg empty]

theorem readFront_spinning (call : ReceiveCall) : (s.readFront call).spinning = s.spinning := by
  unfold RecvSocket.readFront
  cases s.queue.front with
  | none => rfl
  | some slot =>
      dsimp only
      split
      · rfl
      · cases (s.check (0 ≤ s.queue.sizes slot)).queue.advance slot with
        | none => rfl
        | some q => rfl

/-- `spinning` says that the loop of `recv_packet` is not left. -/
theorem receiveLoop_spinning_iff (quiet : s.spinning = false) (call : ReceiveCall) :
    (s.receiveLoop call).spinning = true ↔ ¬ Loop.Halts recvPacketPass s := by
  rw [recvPacketPass_halts_iff, not_not]
  unfold RecvSocket.receiveLoop NoSlot
  split
  case isTrue empty =>
    cases s.queue.findFree with
    | some slot =>
        refine iff_of_false ?_ fun h => by cases h.2
        change ¬ s.spinning = true
        rw [quiet]
        exact Bool.false_ne_true
    | none => exact iff_of_true rfl ⟨empty, rfl⟩
  case isFalse ready =>
    rw [readFront_spinning, quiet]
    exact iff_of_false Bool.false_ne_true fun h => ready h.1

theorem fionreadLoop_spinning (available : Option Nat) :
    (s.fionreadLoop available).spinning = s.spinning := by
  unfold RecvSocket.fionreadLoop
  split
  · rfl
  · rfl
  · cases s.queue.findFree with
    | some slot => rfl
    | none => rfl

/-! ## Spinning -/

/-- A thread goes round the loop with the lock held, and however the others go
on it does not stop. -/
def SpinsForever (s : RecvSocket) : Prop :=
  s.spinning = true ∧ ∀ acts, ∀ m ∈ moves recvStep acts s, m.after.spinning = true

/-- While a thread spins nothing happens but that `recv` returns to others. -/
theorem recvStep_spinning (spinning : s.spinning = true) (enabled : recvStep act s = some s') :
    s'.spinning = true := by
  cases act with
  | start call available =>
      simp only [recvStep, spinning, not_true, and_false, if_false] at enabled
      cases enabled
  | recvDone k received =>
      simp only [recvStep] at enabled
      split at enabled
      case h_1 p at_k =>
        split at enabled
        case isTrue receiving =>
          obtain rfl := Option.some.inj enabled
          cases received with
          | none => exact spinning
          | some bytes => exact spinning
        case isFalse => cases enabled
      case h_2 => cases enabled
  | reclaim k available =>
      simp only [recvStep, spinning, not_true, and_false, if_false] at enabled
      split at enabled
      · cases enabled
      · cases enabled
  | closesocket ok =>
      simp only [recvStep, spinning, not_true, and_false, if_false] at enabled
      cases enabled

theorem spinsForever_iff : SpinsForever s ↔ s.spinning = true := by
  constructor
  · exact fun forever => forever.1
  · intro spinning
    refine ⟨spinning, fun acts m member => ?_⟩
    exact (moves_induct (I := fun s => s.spinning = true) (G := fun _ => True)
      (Q := fun _ => True) spinning (fun _ _ => trivial)
      (fun m before enabled _ => ⟨recvStep_spinning before enabled, trivial⟩) m member).2.1

end Loops

/-! ## Which step makes a thread spin -/

/-- A call gets to the loop of `recv_packet`. -/
def ReceiveCall.ReachesLoop (call : ReceiveCall) : Prop :=
  ¬ (call.fn = .recvfrom ∧ call.addr ∧ call.addrlen.any (· < 14)) ∧ call.bound = true

/-- A call gets to the loop of `recv_packet` when no packet is ready and 32 other
calls are in `recv_pump`. -/
def StartsWithoutSlot (m : Move RecvAct RecvSocket) : Prop :=
  match m.input with
  | .start (.receive call) _ =>
      call.ReachesLoop ∧ m.before.queue.nReady = 0 ∧
        m.before.pumps.length = recvQueueMaxPackets
  | _ => False

section Steps

variable {s s' : RecvSocket} {slots : Slots recvQueueMaxPackets} {act : RecvAct}

/-- The slots that are not free are those of the pumps, if no packet is ready. -/
theorem noSlot_iff (inv : RecvSocketInv s slots) :
    NoSlot s ↔ s.queue.nReady = 0 ∧ s.pumps.length = recvQueueMaxPackets := by
  have owned : slots.owned.length = s.pumps.length := by
    rw [inv.owners, List.length_map]
  have queued := inv.shows.count
  have bound := slots.length_le
  constructor
  · intro noSlot
    obtain ⟨empty, noneFree⟩ := noSlot
    refine ⟨by omega, ?_⟩
    by_contra fewer
    obtain ⟨i, free⟩ := slots.exists_isFree (by omega)
    have found := List.find?_eq_none.mp noneFree i (List.mem_finRange i)
    exact found (decide_eq_true (inv.shows.freeSizes i free))
  · intro full
    obtain ⟨empty, full⟩ := full
    refine ⟨by omega, ?_⟩
    cases found : s.queue.findFree with
    | none => rfl
    | some i =>
        -- A slot more than there are would be taken.
        have more := (slots.claim i (inv.shows.findFree_isFree found)).length_le
        have length : (slots.claim i (inv.shows.findFree_isFree found)).owned.length =
            slots.owned.length + 1 := List.length_append
        omega

theorem startCall_spinning_iff (inv : RecvSocketInv s slots) (quiet : s.spinning = false)
    (call : Call) (available : Option Nat) :
    (s.startCall call available).spinning = true ↔
      StartsWithoutSlot ⟨s, .start call available, s.startCall call available⟩ := by
  have stays : ¬ s.spinning = true := by
    rw [quiet]
    exact Bool.false_ne_true
  cases call with
  | fionread =>
      refine iff_of_false ?_ fun starts => starts
      change ¬ (s.fionreadLoop available).spinning = true
      rwa [fionreadLoop_spinning]
  | receive call =>
      unfold RecvSocket.startCall StartsWithoutSlot ReceiveCall.ReachesLoop
      dsimp only
      split
      case isTrue refused => exact iff_of_false stays fun starts => starts.1.1 refused
      case isFalse accepted =>
        split
        case isTrue bound =>
          rw [receiveLoop_spinning_iff quiet, recvPacketPass_halts_iff, not_not, noSlot_iff inv]
          exact (and_iff_right ⟨accepted, bound⟩).symm
        case isFalse unbound => exact iff_of_false stays fun starts => unbound starts.1.2

/-- A call that has put its packet in the queue finds it there, or that of
another call. -/
theorem continueCall_quiet (quiet : s.spinning = false) (ready : 0 < s.queue.nReady) (call : Call)
    (available : Option Nat) : (s.continueCall call available).spinning = false := by
  cases call with
  | fionread => exact (fionreadLoop_spinning available).trans quiet
  | receive call =>
      apply Bool.eq_false_iff.mpr
      intro spinning
      change (s.receiveLoop call).spinning = true at spinning
      rw [receiveLoop_spinning_iff quiet, recvPacketPass_halts_iff, not_not] at spinning
      have empty := spinning.1
      omega

theorem releaseRecvQueue_spinning (s : RecvSocket) :
    s.releaseRecvQueue.spinning = s.spinning := by
  cases s; rfl

theorem discard_spinning (s : RecvSocket) (p : Pump) (error : Option UInt32) :
    (s.discard p error).spinning = s.spinning := by
  unfold RecvSocket.discard RecvSocket.finish
  dsimp only
  rw [releaseRecvQueue_spinning]

theorem reclaim_quiet (quiet : s.spinning = false) (p : Pump) (available : Option Nat) :
    (s.reclaim p available).spinning = false := by
  unfold RecvSocket.reclaim
  split
  case isTrue =>
    unfold RecvSocket.finish
    dsimp only
    rwa [releaseRecvQueue_spinning]
  case isFalse =>
    cases p.state with
    | receiving => exact quiet
    | failed => exact (discard_spinning s p none).trans quiet
    | received r =>
        dsimp only
        split
        case isTrue =>
          cases appended : s.queue.append p.slot r with
          | none => exact quiet
          | some q =>
              have one : q.nReady = s.queue.nReady + 1 := (append_counts appended).2
              exact continueCall_quiet (s := { s with
                queue := q
                appended := s.appended ++ [(s.queue.data p.slot).slice 0 r] }) quiet
                (Nat.lt_of_lt_of_eq (Nat.succ_pos _) one.symm) p.call available
        case isFalse => exact (discard_spinning s p WSAEWOULDBLOCK).trans quiet

/-- One step: a thread starts to spin if its call begins without a slot for it. -/
theorem recvStep_spinning_iff (inv : OpenInv s) (quiet : s.spinning = false)
    (enabled : recvStep act s = some s') :
    s'.spinning = true ↔ StartsWithoutSlot ⟨s, act, s'⟩ := by
  have stays : ¬ s.spinning = true := by
    rw [quiet]
    exact Bool.false_ne_true
  cases recvStep_turn enabled with
  | @starts call available isOpen after =>
      subst after
      obtain ⟨slots, inv⟩ := inv isOpen
      exact startCall_spinning_iff inv quiet call available
  | @returns k p received at_k receiving after =>
      subst after
      refine iff_of_false ?_ fun starts => starts
      cases received with
      | none => exact stays
      | some bytes => exact stays
  | @reclaims k p available at_k done after =>
      subst after
      refine iff_of_false ?_ fun starts => starts
      rw [reclaim_quiet (s := { s with pumps := s.pumps.eraseIdx k }) quiet]
      exact Bool.false_ne_true
  | @closes ok isOpen after =>
      subst after
      refine iff_of_false ?_ fun starts => starts
      cases ok with
      | true =>
          change ¬ ({ s with isOpen := false } : RecvSocket).releaseRecvQueue.spinning = true
          rwa [releaseRecvQueue_spinning]
      | false => exact stays

end Steps

/-! ## Runs -/

/-- In no state of a run does a thread go round the loop of `recv_packet` for
ever, if and only if no call gets there while 32 others are in `recv_pump` and no
packet is ready. -/
theorem recvMoves_neverSpins_iff (ready : Slot → Int) (data : Slot → Mem)
    (acts : List RecvAct) :
    (∀ m ∈ recvMoves ready data acts, ¬ SpinsForever m.after) ↔
      ∀ m ∈ recvMoves ready data acts, ¬ StartsWithoutSlot m := by
  have start : RecvSocket.spinning (.init ready data) = false ∧ OpenInv (.init ready data) :=
    ⟨rfl, fun _ => ⟨Slots.empty, .init ready data⟩⟩
  have keeps {m : Move RecvAct RecvSocket} (before : OpenInv m.before)
      (enabled : recvStep m.input m.before = some m.after) : OpenInv m.after :=
    fun isOpen => (before.step enabled isOpen).2.inv
  constructor
  · intro quiet m member
    refine (moves_induct (I := fun s => s.spinning = false ∧ OpenInv s)
      (Q := fun m => ¬ StartsWithoutSlot m) start quiet ?_ m member).2.2
    intro m before enabled after
    rw [spinsForever_iff] at after
    refine ⟨⟨Bool.eq_false_iff.mpr after, keeps before.2 enabled⟩, ?_⟩
    rwa [← recvStep_spinning_iff before.2 before.1 enabled]
  · intro finds m member
    refine (moves_induct (I := fun s => s.spinning = false ∧ OpenInv s)
      (Q := fun m => ¬ SpinsForever m.after) start finds ?_ m member).2.2
    intro m before enabled slot
    rw [← recvStep_spinning_iff before.2 before.1 enabled] at slot
    rw [spinsForever_iff]
    exact ⟨⟨Bool.eq_false_iff.mpr slot, keeps before.2 enabled⟩, slot⟩

/-- 33 threads call `recv` on a socket to which nothing is sent. -/
def fullRun : List RecvAct :=
  List.replicate 33 (.start (.receive someReceive) none)

/-- The last of them never gives up the lock. -/
theorem fullRun_spins :
    ¬ ∀ m ∈ recvMoves (fun _ => 0) (fun _ _ => 0) fullRun, ¬ SpinsForever m.after := by
  intro quiet
  have spins : ∃ m ∈ recvMoves (fun _ => 0) (fun _ _ => 0) fullRun, m.after.spinning = true := by
    decide +kernel
  obtain ⟨m, member, spinning⟩ := spins
  exact quiet m member (spinsForever_iff.mpr spinning)

end IpxWrapper
