import IpxWrapper.UnderlyingRecv

/-!
# `FIONREAD` beside receiving threads

What `FIONREAD` was told is true as long as no other thread takes the last
datagram before it does: `bufferMoves_neverBlocks`. A receiving call sleeps in
the underlying `recv` only while the queue is empty, as long as no call leaves
there what it received while another is still to receive: `bufferMoves_neverStuck`.
-/

namespace IpxWrapper

open Base RecvSocket

/-! ## Pumps after a step -/

section Pumps

variable {s s' : RecvSocket} {k : Nat} {p p' : Pump} {available : Option Nat} {block : Bool}

theorem recvReturns_nReady (k : Nat) (p : Pump) (received : Option (List Byte))
    (s : RecvSocket) : (recvReturns k p received s).queue.nReady = s.queue.nReady := by
  cases received <;> rfl

/-- A pump whose `recv` has returned receives no more. -/
theorem recvReturns_receives {received : Option (List Byte)}
    (member : p' ∈ (recvReturns k p received s).pumps) (receives : p'.Receives block) :
    p' ∈ s.pumps.eraseIdx k := by
  obtain ⟨state, done, pumps⟩ : ∃ state ≠ PumpState.receiving,
      (recvReturns k p received s).pumps = s.pumps.set k { p with state := state } := by
    cases received with
    | none => exact ⟨.failed, PumpState.noConfusion, rfl⟩
    | some bytes => exact ⟨.received bytes.length, PumpState.noConfusion, rfl⟩
  rw [pumps] at member
  obtain ⟨j, at_j⟩ := List.getElem?_of_mem member
  rw [List.getElem?_set] at at_j
  split at at_j
  case isTrue =>
    split at at_j
    · rw [← Option.some.inj at_j] at receives
      exact absurd receives.2 done
    · cases at_j
  case isFalse other =>
    exact List.mem_eraseIdx_iff_getElem?.mpr ⟨j, fun same => other same.symm, at_j⟩

theorem mem_recvReturns_of_mem_eraseIdx {received : Option (List Byte)}
    (other : p' ∈ s.pumps.eraseIdx k) : p' ∈ (recvReturns k p received s).pumps := by
  obtain ⟨j, different, at_j⟩ := List.mem_eraseIdx_iff_getElem?.mp other
  refine List.mem_iff_getElem?.mpr ⟨j, ?_⟩
  cases received <;> exact (List.getElem?_set_ne different.symm).trans at_j

/-- The pumps that are to receive after a call has got the lock again. -/
theorem reclaim_receives (done : p.state ≠ .receiving)
    (member : p' ∈ (s.reclaim p available).pumps) (receives : p'.Receives block) :
    p' ∈ s.pumps ∨ if block then (s.reclaim p available).queue.nReady = 0
      else ∃ n, available = some (n + 1) := by
  rcases reclaim_turn s done available with ⟨pumps, -⟩ | ⟨q, appended, -, -, -, goesOn⟩
  · exact Or.inl (pumps ▸ member)
  · rw [goesOn] at member ⊢
    exact (continueCall_turn _ p.call available).receives member receives

end Pumps

/-! ## What `FIONREAD` was told -/

/-- A `recv_pump` that must not block enters the underlying `recv` with nothing there. -/
def entersEmpty (m : Move BufferAct BufferedSocket) : Bool :=
  match m.input with
  | .recv k => m.before.buffer = [] && (m.before.sock.pumps[k]?).any fun p => p.Receives false
  | _ => false

/-- A thread takes the last datagram, while another `recv_pump` that must not block is still
to receive. -/
def takesAvailable (m : Move BufferAct BufferedSocket) : Bool :=
  match m.input with
  | .recv k =>
      m.before.buffer.length = 1 && (m.before.sock.pumps.eraseIdx k).any fun p => p.Receives false
  | _ => false

/-- A `recv_pump` that must not block finds a datagram. -/
def BufferedSocket.Promised (s : BufferedSocket) : Prop :=
  ∀ p ∈ s.sock.pumps, p.Receives false → s.buffer ≠ []

section Promises

variable {s s' : BufferedSocket} {act : BufferAct}

theorem buffer_ne_nil {ok : Bool} {n : Nat} (available : s.available ok = some (n + 1)) :
    s.buffer ≠ [] := by
  intro empty
  unfold BufferedSocket.available at available
  rw [empty] at available
  cases ok <;> cases available

theorem BufferedSocket.Promised.step (promised : s.Promised) (turn : BufferTurn s s' act)
    (leaves : takesAvailable ⟨s, act, s'⟩ = false) : s'.Promised := by
  intro p member receives
  cases turn with
  | arrives sock buffer =>
      rw [buffer]
      exact List.append_ne_nil_of_right_ne_nil _ (List.cons_ne_nil _ _)
  | starts sock buffer =>
      rw [sock] at member
      rw [buffer]
      rcases (startCall_turn _ _ _).receives member receives with old | ⟨n, available⟩
      · exact promised p old receives
      · exact buffer_ne_nil available
  | receives at_k sock buffer =>
      rw [sock] at member
      have other := recvReturns_receives member receives
      intro empty
      rw [empty] at buffer
      simp only [takesAvailable, buffer, List.length_singleton, decide_true, Bool.true_and,
        List.any_eq_false, decide_eq_true_eq] at leaves
      exact leaves p other receives
  | sleeps at_k receiving sock empty buffer =>
      rw [sock] at member
      rw [buffer]
      exact promised p member receives
  | fails at_k sock buffer =>
      rw [sock] at member
      rw [buffer]
      exact promised p (List.mem_of_mem_eraseIdx (recvReturns_receives member receives)) receives
  | reclaims at_k done sock buffer =>
      rw [sock] at member
      rw [buffer]
      rcases reclaim_receives done member receives with old | ⟨n, available⟩
      · exact promised p (List.mem_of_mem_eraseIdx old) receives
      · exact buffer_ne_nil available

theorem BufferedSocket.Promised.entersEmpty (promised : s.Promised) :
    entersEmpty ⟨s, act, s'⟩ = false := by
  cases act with
  | recv k =>
      rw [Bool.eq_false_iff]
      intro enters
      simp only [IpxWrapper.entersEmpty, Bool.and_eq_true, decide_eq_true_eq,
        Option.any_eq_true] at enters
      obtain ⟨empty, p, at_k, receives⟩ := enters
      exact promised p (List.mem_of_getElem? at_k) receives empty
  | _ => rfl

/-- Once the datagram is taken, the other `FIONREAD` is left with nothing to receive. -/
theorem empty_of_takesAvailable (enabled : bufferStep act s = some s')
    (takes : takesAvailable ⟨s, act, s'⟩ = true) :
    s'.buffer = [] ∧ ∃ p ∈ s'.sock.pumps, p.Receives false := by
  cases bufferStep_turn enabled with
  | receives at_k sock buffer =>
      simp only [takesAvailable, buffer, List.length_cons, Bool.and_eq_true, decide_eq_true_eq,
        List.any_eq_true] at takes
      obtain ⟨one, p, other, receives⟩ := takes
      refine ⟨List.eq_nil_of_length_eq_zero (Nat.succ.inj one), p, ?_, receives⟩
      rw [sock]
      exact mem_recvReturns_of_mem_eraseIdx other
  | sleeps at_k receiving sock empty buffer =>
      simp only [takesAvailable, empty, List.length_nil, Nat.zero_ne_one, decide_false,
        Bool.false_and, Bool.false_eq_true] at takes
  | _ => cases takes

end Promises

/-- As long as nobody takes the last datagram from under a `FIONREAD` that was told of it,
no `FIONREAD` waits in the underlying `recv`, in whatever order the threads take turns. -/
theorem bufferMoves_neverBlocks (ready : Slot → Int) (data : Slot → Mem) (acts : List BufferAct)
    (kept : ∀ m ∈ bufferMoves ready data acts, takesAvailable m = false) :
    ∀ m ∈ bufferMoves ready data acts, entersEmpty m = false := by
  have start : (BufferedSocket.init ready data).Promised := fun p member => by cases member
  intro m member
  refine (moves_induct (I := BufferedSocket.Promised) (Q := fun m => entersEmpty m = false)
    start kept ?_ m member).2.2
  intro m before enabled leaves
  exact ⟨before.step (bufferStep_turn enabled) leaves, before.entersEmpty⟩

/-- A packet without data. -/
def emptyDatagram : List Byte := List.replicate 27 0

/-- A thread receives the first datagram before `FIONREAD` receives the second. -/
def twoArriveRun : List BufferAct :=
  [.arrive emptyDatagram, .arrive emptyDatagram, .start .fionread true,
    .start (.receive someReceive) true, .recv 1, .recv 0]

theorem twoArriveRun_neverBlocks :
    ((bufferMoves (fun _ => 0) (fun _ _ => 0) twoArriveRun).length = 6) ∧
      ∀ m ∈ bufferMoves (fun _ => 0) (fun _ _ => 0) twoArriveRun, entersEmpty m = false :=
  ⟨by decide, bufferMoves_neverBlocks _ _ _ (by decide)⟩

/-- A thread receives the only datagram before `FIONREAD` does. -/
def oneArrivesRun : List BufferAct :=
  [.arrive emptyDatagram, .start .fionread true, .start (.receive someReceive) true, .recv 1,
    .recv 0]

theorem oneArrivesRun_blocks :
    ¬ ∀ m ∈ bufferMoves (fun _ => 0) (fun _ _ => 0) oneArrivesRun, entersEmpty m = false := by
  decide

/-! ## What is left in the queue -/

/-- The call leaves in the queue what it received. -/
def Call.leaves : Call → Bool
  | .receive call => call.peek
  | .fionread => true

/-- A call leaves a datagram in the queue, while another is still to receive in
`recv_packet`. -/
def leavesDatagram (m : Move BufferAct BufferedSocket) : Bool :=
  match m.input with
  | .reclaim k _ =>
      ((m.before.sock.pumps[k]?).any fun p =>
        p.call.leaves && (inHand m.before.sock.queue p).isSome) &&
      (m.before.sock.pumps.eraseIdx k).any fun p => p.Receives true
  | _ => false

/-- The thread of the pump has taken a datagram and not yet returned it. -/
def Pump.HasTaken (p : Pump) : Bool :=
  match p.state with
  | .received _ => true
  | _ => false

/-- A receiving thread sleeps in the underlying `recv`, where there is nothing, and there is
a datagram in the queue that nobody else is about to take. -/
def BufferedSocket.Stuck (s : BufferedSocket) : Prop :=
  (∃ p ∈ s.sock.pumps, p.Receives true ∧ s.waits p.slot = true) ∧
    0 < s.sock.queue.nReady ∧ s.buffer = [] ∧ ∀ p ∈ s.sock.pumps, p.HasTaken = false

/-- Calls are to receive in `recv_packet` only while the queue is empty; the queue itself is
as in `RecvQueueInv`. -/
structure BufferedSocket.Watches (s : BufferedSocket) : Prop where
  queue : OpenInv s.sock
  receives : 0 < s.sock.queue.nReady → ∀ p ∈ s.sock.pumps, ¬ p.Receives true

section Watching

variable {s s' : RecvSocket} {slots : Slots recvQueueMaxPackets} {k : Nat} {p p' : Pump}

theorem Turn.nReady_le {available : Option Nat} (turn : Turn available s s') :
    s'.queue.nReady ≤ s.queue.nReady := by
  cases turn with
  | ends _ _ _ _ ready => exact ready
  | claims _ _ _ _ _ _ ready => exact Nat.le_of_eq ready

theorem inHand_isSome {q : RecvQueue} (some' : (inHand q p).isSome = true) :
    ∃ r, p.state = .received r ∧ ValidPacket (q.data p.slot) r := by
  unfold inHand at some'
  split at some'
  case h_1 r received =>
    split at some'
    case isTrue valid => exact ⟨r, received, valid⟩
    case isFalse => cases some'
  case h_2 => cases some'

/-- A receiving call takes a datagram out of the queue, if there is one. -/
theorem RecvSocketInv.receiveLoop_nReady (inv : RecvSocketInv s slots) {call : ReceiveCall}
    (takes : call.peek = false) (some' : 0 < s.queue.nReady) :
    (s.receiveLoop call).queue.nReady = s.queue.nReady - 1 := by
  unfold RecvSocket.receiveLoop
  rw [if_neg (by omega)]
  cases front : slots.queued with
  | nil =>
      rw [inv.shows.count, front] at some'
      cases some'
  | cons i rest =>
      obtain ⟨q, advanced, -⟩ := inv.take_step front takes
      have queued : i ∈ slots.queued := by
        rw [front]
        exact List.mem_cons_self
      unfold RecvSocket.readFront
      rw [inv.shows.front front]
      simp only [(inv.shows.queuedSizes i queued).1, decide_true, check_true, takes,
        Bool.false_eq_true, if_false, advanced, finish_queue]
      exact (advance_counts advanced).2

/-- A receiving call puts one datagram in the queue and takes one out of it. -/
theorem RecvSocketInv.reclaim_nReady (inv : RecvSocketInv s slots)
    (at_k : s.pumps[k]? = some p) (isOpen : s.isOpen = true)
    (hand : (inHand s.queue p).isSome = true) (takes : p.call.leaves = false)
    (available : Option Nat) :
    ({ s with pumps := s.pumps.eraseIdx k }.reclaim p available).queue.nReady =
      s.queue.nReady := by
  obtain ⟨r, received, valid⟩ := inHand_isSome hand
  obtain ⟨q, appended, step⟩ := inv.append_step at_k received valid
  obtain ⟨slots', inv'⟩ := step.inv
  have more := (append_counts appended).2
  unfold RecvSocket.reclaim
  rw [if_neg (not_not_intro isOpen)]
  simp only [received]
  rw [if_pos valid, appended]
  cases kind : p.call with
  | fionread =>
      rw [kind] at takes
      cases takes
  | receive call =>
      rw [kind] at takes
      change call.peek = false at takes
      have fewer := inv'.receiveLoop_nReady takes (by
        change 0 < q.nReady
        omega)
      change _ = q.nReady - 1 at fewer
      rw [more] at fewer
      exact fewer

variable {t t' : BufferedSocket} {act : BufferAct}

theorem bufferStep_openInv (inv : OpenInv t.sock) (enabled : bufferStep act t = some t') :
    OpenInv t'.sock := by
  rcases bufferStep_recvStep enabled with same | ⟨recvAct, step⟩
  · rwa [same]
  · exact fun isOpen => (inv.step step isOpen).2.inv

/-- `recv_pump` has got the lock again. -/
theorem BufferedSocket.Watches.reclaims (watches : t.Watches) {available : Option Nat}
    (at_k : t.sock.pumps[k]? = some p) (done : p.state ≠ .receiving)
    (leaves : p.call.leaves = true → (inHand t.sock.queue p).isSome = true →
      ∀ p' ∈ t.sock.pumps.eraseIdx k, ¬ p'.Receives true)
    (some' : 0 < ({ t.sock with pumps := t.sock.pumps.eraseIdx k }.reclaim p
      available).queue.nReady)
    (member : p' ∈ ({ t.sock with pumps := t.sock.pumps.eraseIdx k }.reclaim p available).pumps) :
    ¬ p'.Receives true := by
  intro receives
  have before (old : p' ∈ t.sock.pumps.eraseIdx k) (some' : 0 < t.sock.queue.nReady) : False :=
    watches.receives some' p' (List.mem_of_mem_eraseIdx old) receives
  rcases reclaim_receives done member receives with old | empty
  · rcases reclaim_turn { t.sock with pumps := t.sock.pumps.eraseIdx k } done available with
      ⟨-, ready⟩ | ⟨q, appended, isOpen, hand, -⟩
    · rw [ready] at some'
      exact before old some'
    · cases takes : p.call.leaves with
      | true => exact leaves takes hand p' old receives
      | false =>
          obtain ⟨slots, inv⟩ := watches.queue isOpen
          rw [inv.reclaim_nReady at_k isOpen hand takes] at some'
          exact before old some'
  · change _ = 0 at empty
    omega

theorem BufferedSocket.Watches.step (watches : t.Watches) (enabled : bufferStep act t = some t')
    (leaves : leavesDatagram ⟨t, act, t'⟩ = false) : t'.Watches := by
  refine ⟨bufferStep_openInv watches.queue enabled, fun some' p member receives => ?_⟩
  cases bufferStep_turn enabled with
  | arrives sock buffer =>
      rw [sock] at some' member
      exact watches.receives some' p member receives
  | @starts call ok sock buffer =>
      rw [sock] at some' member
      have turn := startCall_turn t.sock call (t.available ok)
      rcases turn.receives member receives with old | empty
      · exact watches.receives (Nat.lt_of_lt_of_le some' turn.nReady_le) p old receives
      · change _ = 0 at empty
        omega
  | receives at_k sock buffer =>
      rw [sock, recvReturns_nReady] at some'
      rw [sock] at member
      have old := List.mem_of_mem_eraseIdx (recvReturns_receives member receives)
      exact watches.receives some' p old receives
  | sleeps at_k receiving sock empty buffer =>
      rw [sock] at some' member
      exact watches.receives some' p member receives
  | fails at_k sock buffer =>
      rw [sock, recvReturns_nReady] at some'
      rw [sock] at member
      have old := List.mem_of_mem_eraseIdx (recvReturns_receives member receives)
      exact watches.receives some' p old receives
  | reclaims at_k done sock buffer =>
      rw [sock] at some' member
      refine watches.reclaims at_k done ?_ some' member receives
      intro takes hand p' other receives
      simp only [leavesDatagram, at_k, Option.any_some, takes, hand, Bool.and_self,
        Bool.true_and, List.any_eq_false, decide_eq_true_eq] at leaves
      exact leaves p' other receives

theorem BufferedSocket.Watches.not_stuck (watches : t.Watches) : ¬ t.Stuck := by
  rintro ⟨⟨p, member, receives, -⟩, some', -⟩
  exact watches.receives some' p member receives

/-- A call that takes nothing out of the queue leaves it as long as it was. -/
theorem continueCall_nReady {call : Call} (leaves : call.leaves = true)
    (available : Option Nat) :
    (s.continueCall call available).queue.nReady = s.queue.nReady := by
  cases call with
  | receive call =>
      change call.peek = true at leaves
      change (s.receiveLoop call).queue.nReady = _
      unfold RecvSocket.receiveLoop
      split
      · cases s.queue.findFree <;> rfl
      · unfold RecvSocket.readFront
        cases s.queue.front with
        | none => rfl
        | some slot =>
            dsimp only
            rw [if_pos leaves]
            rfl
  | fionread =>
      change (s.fionreadLoop available).queue.nReady = _
      unfold RecvSocket.fionreadLoop
      split
      case h_1 => rfl
      case h_2 => rfl
      case h_3 => cases s.queue.findFree <;> rfl

/-- Once a datagram is left, a call is to receive that does not watch the queue. -/
theorem queued_of_leavesDatagram (queue : OpenInv t.sock) (isOpen : t.sock.isOpen = true)
    (enabled : bufferStep act t = some t') (leaves : leavesDatagram ⟨t, act, t'⟩ = true) :
    0 < t'.sock.queue.nReady ∧ ∃ p ∈ t'.sock.pumps, p.Receives true := by
  cases bufferStep_turn enabled with
  | @reclaims k ok p at_k done sock buffer =>
      simp only [leavesDatagram, at_k, Option.any_some, Bool.and_eq_true, List.any_eq_true,
        decide_eq_true_eq] at leaves
      obtain ⟨⟨stays, hand⟩, p', other, receives⟩ := leaves
      obtain ⟨slots, inv⟩ := queue isOpen
      obtain ⟨r, received, valid⟩ := inHand_isSome hand
      obtain ⟨q, appended, -⟩ := inv.append_step at_k received valid
      have goesOn : t'.sock = RecvSocket.continueCall p.call (t.available ok) { t.sock with
          pumps := t.sock.pumps.eraseIdx k
          queue := q
          appended := t.sock.appended ++ [(t.sock.queue.data p.slot).slice 0 r] } := by
        rw [sock]
        unfold RecvSocket.reclaim
        rw [if_neg (not_not_intro isOpen)]
        simp only [received]
        rw [if_pos valid, appended]
      rw [goesOn, continueCall_nReady stays]
      refine ⟨?_, p', (continueCall_turn _ _ _).keeps other, receives⟩
      change 0 < q.nReady
      rw [(append_counts appended).2]
      exact Nat.succ_pos _
  | _ => cases leaves

end Watching

/-- As long as no call leaves a datagram in the queue while another is still to receive, no
thread sleeps in the underlying `recv` for a datagram that is in the queue. -/
theorem bufferMoves_neverStuck (ready : Slot → Int) (data : Slot → Mem) (acts : List BufferAct)
    (kept : ∀ m ∈ bufferMoves ready data acts, leavesDatagram m = false) :
    ∀ m ∈ bufferMoves ready data acts, ¬ m.before.Stuck ∧ ¬ m.after.Stuck := by
  have start : (BufferedSocket.init ready data).Watches :=
    ⟨fun _ => ⟨Slots.empty, .init ready data⟩, fun some' => by cases some'⟩
  intro m member
  have watches := moves_induct (I := BufferedSocket.Watches) (Q := fun _ => True) start kept
    (fun m before enabled leaves => ⟨before.step enabled leaves, trivial⟩) m member
  exact ⟨watches.1.not_stuck, watches.2.1.not_stuck⟩

/-- A thread sleeps in `recv` until a datagram arrives and takes it; then `FIONREAD` finds
another, which it leaves in the queue. -/
def sleepsAndTakesRun : List BufferAct :=
  [.start (.receive someReceive) true, .recv 0, .arrive emptyDatagram, .recv 0, .reclaim 0 true,
    .arrive emptyDatagram, .start .fionread true, .recv 0, .reclaim 0 true]

theorem sleepsAndTakesRun_neverStuck :
    (bufferMoves (fun _ => 0) (fun _ _ => 0) sleepsAndTakesRun).length = 9 ∧
      ∀ m ∈ bufferMoves (fun _ => 0) (fun _ _ => 0) sleepsAndTakesRun,
        ¬ m.before.Stuck ∧ ¬ m.after.Stuck :=
  ⟨by decide, bufferMoves_neverStuck _ _ _ (by decide)⟩

/-- `FIONREAD` receives the only datagram and leaves it in the queue, after another thread has
found the queue empty. -/
def fionreadTakesRun : List BufferAct :=
  [.start (.receive someReceive) true, .arrive emptyDatagram, .start .fionread true, .recv 1,
    .recv 0, .reclaim 1 true]

theorem fionreadTakesRun_stuck :
    ¬ ∀ m ∈ bufferMoves (fun _ => 0) (fun _ _ => 0) fionreadTakesRun,
      ¬ m.before.Stuck ∧ ¬ m.after.Stuck := by
  intro never
  obtain ⟨m, last, stuck⟩ : ∃ m, (bufferMoves (fun _ => 0) (fun _ _ => 0) fionreadTakesRun)[5]? =
      some m ∧ m.after.Stuck := by
    refine ⟨_, rfl, ⟨⟨_, List.mem_cons_self, by decide, rfl⟩, by decide, rfl, by decide⟩⟩
  exact (never m (List.mem_of_getElem? last)).2 stuck

end IpxWrapper
