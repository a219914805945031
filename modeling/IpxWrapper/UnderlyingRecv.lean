import IpxWrapper.RecvQueueLifetime

/-!
# Waiting in the underlying `recv`

`recv_pump` calls the `recv` of the underlying socket, which waits as long as
that socket has nothing. `BufferedSocket` adds to the socket of `RecvQueue` the
buffer that datagrams arrive in and the pumps that wait; every step on it is a
step of `recvStep`, or only an arrival or a thread that goes to sleep.

`FIONREAD` asks first whether there is something to receive, but gives up the
lock before it receives it (`bufferMoves_neverBlocks`), and it leaves what it
received in a queue that a thread asleep in `recv` does not watch
(`bufferMoves_neverStuck`).
-/

namespace IpxWrapper

open Base RecvSocket

/-! ## The underlying socket -/

structure BufferedSocket where
  sock : RecvSocket
  /-- The receive buffer of the underlying socket, oldest first. -/
  buffer : List (List Byte)
  /-- The pump with this slot waits in the underlying `recv`. -/
  waits : Slot → Bool

/-- A new socket, to which nothing has been sent. -/
def BufferedSocket.init (ready : Slot → Int) (data : Slot → Mem) : BufferedSocket :=
  ⟨.init ready data, [], fun _ => false⟩

namespace BufferedSocket

/-- What `FIONREAD` says of the underlying socket, where it succeeds if `ok`:
the bytes of all datagrams in the buffer. -/
def available (ok : Bool) (s : BufferedSocket) : Option Nat :=
  if ok then some (s.buffer.map List.length).sum else none

def setWaits (i : Slot) (waits : Bool) (s : BufferedSocket) : BufferedSocket :=
  { s with waits := Function.update s.waits i waits }

/-- A step that leaves the buffer alone. -/
def onSock (act : RecvAct) (s : BufferedSocket) : Option BufferedSocket :=
  (recvStep act s.sock).map fun sock => { s with sock := sock }

end BufferedSocket

/-- What `recv` makes of a datagram: it fails if the slot is too small for it. -/
def receivedOf (datagram : List Byte) : Option { bytes : List Byte // bytes.length ≤ maxPktSize } :=
  if fits : datagram.length ≤ maxPktSize then some ⟨datagram, fits⟩ else none

/-! ## Steps -/

/-- What happens next. -/
inductive BufferAct where
  | arrive (datagram : List Byte)
  /-- A thread makes a call. -/
  | start (call : Call) (ok : Bool)
  /-- The thread of pump `k` goes on with its `recv`. -/
  | recv (k : Nat)
  /-- The `recv` of pump `k` fails. -/
  | recvFails (k : Nat)
  /-- The thread of pump `k` gets the lock again. -/
  | reclaim (k : Nat) (ok : Bool)

/-- One step; `none` if it cannot happen in `s`. -/
def bufferStep (act : BufferAct) (s : BufferedSocket) : Option BufferedSocket :=
  match act with
  | .arrive datagram => some { s with buffer := s.buffer ++ [datagram] }
  | .start call ok => s.onSock (.start call (s.available ok))
  | .recv k =>
      match s.sock.pumps[k]?, s.buffer with
      | some p, datagram :: rest =>
          ({ s with buffer := rest }.setWaits p.slot false).onSock (.recvDone k (receivedOf datagram))
      | some p, [] =>
          if p.state = .receiving ∧ ¬ s.waits p.slot then some (s.setWaits p.slot true) else none
      | none, _ => none
  | .recvFails k =>
      match s.sock.pumps[k]? with
      | some p => (s.setWaits p.slot false).onSock (.recvDone k none)
      | none => none
  | .reclaim k ok => s.onSock (.reclaim k (s.available ok))

/-- The steps of a run on a new socket. -/
def bufferMoves (ready : Slot → Int) (data : Slot → Mem) (acts : List BufferAct) :
    List (Move BufferAct BufferedSocket) :=
  moves bufferStep acts (.init ready data)

/-- The pump has claimed a slot and has yet to receive a datagram. -/
def Pump.Receives (p : Pump) (block : Bool) : Prop :=
  p.call.block = block ∧ p.state = .receiving

instance (p : Pump) (block : Bool) : Decidable (p.Receives block) :=
  inferInstanceAs (Decidable (_ ∧ _))

/-! ## A call with the lock held -/

section Turns

variable {s s' : RecvSocket} {available : Option Nat}

/-- A pump that is to receive was there before, or has just claimed its slot. -/
theorem Turn.receives (turn : Turn available s s') {p : Pump} {block : Bool}
    (member : p ∈ s'.pumps) (receives : p.Receives block) :
    p ∈ s.pumps ∨ if block then s'.queue.nReady = 0 else ∃ n, available = some (n + 1) := by
  cases turn with
  | ends _ _ _ pumps => exact Or.inl (pumps ▸ member)
  | claims call slot isOpen freed refcount pumps ready waits asked =>
      rw [pumps, List.mem_append, List.mem_singleton] at member
      rcases member with old | rfl
      · exact Or.inl old
      · right
        obtain ⟨rfl, -⟩ := receives
        split
        case isTrue blocks => rw [ready, waits blocks]
        case isFalse asks => exact asked (Bool.eq_false_of_not_eq_true asks)

theorem discard_turn (s : RecvSocket) (p : Pump) (error : Option UInt32) :
    (s.discard p error).pumps = s.pumps ∧
      (s.discard p error).queue.nReady = s.queue.nReady := by
  unfold RecvSocket.discard
  rw [finish_pumps, releaseRecvQueue_pumps, finish_queue, releaseRecvQueue_queue,
    RecvQueue.adjustRefcount_nReady, RecvQueue.setSize_nReady]
  exact ⟨rfl, rfl⟩

/-- `recv_pump` from `reclaim_socket` on puts a packet in the queue and goes on with its
call, or only gives up its slot. -/
theorem reclaim_turn (s : RecvSocket) {p : Pump} (done : p.state ≠ .receiving)
    (available : Option Nat) :
    ((s.reclaim p available).pumps = s.pumps ∧
      (s.reclaim p available).queue.nReady = s.queue.nReady) ∨
    ∃ q appended, s.isOpen = true ∧ (inHand s.queue p).isSome = true ∧
      q.nReady = s.queue.nReady + 1 ∧
      s.reclaim p available =
        { s with queue := q, appended := appended }.continueCall p.call available := by
  unfold RecvSocket.reclaim
  split
  case isTrue =>
    rw [finish_pumps, releaseRecvQueue_pumps, finish_queue, releaseRecvQueue_queue,
      RecvQueue.adjustRefcount_nReady]
    exact Or.inl ⟨rfl, rfl⟩
  case isFalse isOpen =>
    cases state : p.state with
    | receiving => exact absurd state done
    | failed => exact Or.inl (discard_turn s p none)
    | received r =>
        dsimp only
        split
        case isTrue valid =>
          cases appended : s.queue.append p.slot r with
          | none => exact Or.inl ⟨rfl, rfl⟩
          | some q =>
              refine Or.inr ⟨q, _, not_not.mp isOpen, ?_, (append_counts appended).2, rfl⟩
              unfold inHand
              simp only [state, valid, if_true, Option.isSome_some]
        case isFalse => exact Or.inl (discard_turn s p WSAEWOULDBLOCK)

end Turns

/-! ## What a step does -/

/-- From `s` the step `act` leads to `s'`. -/
inductive BufferTurn (s s' : BufferedSocket) : BufferAct → Prop
  | arrives {datagram : List Byte} (sock : s'.sock = s.sock)
      (buffer : s'.buffer = s.buffer ++ [datagram]) : BufferTurn s s' (.arrive datagram)
  | starts {call : Call} {ok : Bool} (sock : s'.sock = s.sock.startCall call (s.available ok))
      (buffer : s'.buffer = s.buffer) : BufferTurn s s' (.start call ok)
  | receives {k : Nat} {p : Pump} {datagram : List Byte} (at_k : s.sock.pumps[k]? = some p)
      (sock : s'.sock = recvReturns k p ((receivedOf datagram).map (·.val)) s.sock)
      (buffer : s.buffer = datagram :: s'.buffer) : BufferTurn s s' (.recv k)
  | sleeps {k : Nat} {p : Pump} (at_k : s.sock.pumps[k]? = some p)
      (receiving : p.state = .receiving) (sock : s'.sock = s.sock) (empty : s.buffer = [])
      (buffer : s'.buffer = s.buffer) : BufferTurn s s' (.recv k)
  | fails {k : Nat} {p : Pump} (at_k : s.sock.pumps[k]? = some p)
      (sock : s'.sock = recvReturns k p none s.sock)
      (buffer : s'.buffer = s.buffer) : BufferTurn s s' (.recvFails k)
  | reclaims {k : Nat} {ok : Bool} {p : Pump} (at_k : s.sock.pumps[k]? = some p)
      (done : p.state ≠ .receiving)
      (sock : s'.sock =
        { s.sock with pumps := s.sock.pumps.eraseIdx k }.reclaim p (s.available ok))
      (buffer : s'.buffer = s.buffer) : BufferTurn s s' (.reclaim k ok)

section Steps

variable {s s' : BufferedSocket} {act : BufferAct}

theorem onSock_eq_some {act : RecvAct} (enabled : s.onSock act = some s') :
    recvStep act s.sock = some s'.sock ∧ s'.buffer = s.buffer := by
  unfold BufferedSocket.onSock at enabled
  obtain ⟨sock, step, rfl⟩ := Option.map_eq_some_iff.mp enabled
  exact ⟨step, rfl⟩

theorem bufferStep_turn (enabled : bufferStep act s = some s') : BufferTurn s s' act := by
  cases act with
  | arrive datagram =>
      obtain rfl := Option.some.inj enabled
      exact .arrives rfl rfl
  | start call ok =>
      obtain ⟨step, buffer⟩ := onSock_eq_some enabled
      cases recvStep_turn step with
      | starts isOpen after => exact .starts after buffer
  | recv k =>
      simp only [bufferStep] at enabled
      split at enabled
      case h_1 datagram rest _ waiting =>
        obtain ⟨step, buffer⟩ := onSock_eq_some enabled
        cases recvStep_turn step with
        | returns at_k receiving after =>
            refine .receives at_k after ?_
            rw [waiting, buffer]
            rfl
      case h_2 p at_k empty =>
        split at enabled
        case isTrue enters =>
          obtain rfl := Option.some.inj enabled
          exact .sleeps at_k enters.1 rfl empty rfl
        case isFalse => cases enabled
      case h_3 => cases enabled
  | recvFails k =>
      simp only [bufferStep] at enabled
      split at enabled
      case h_1 =>
        obtain ⟨step, buffer⟩ := onSock_eq_some enabled
        cases recvStep_turn step with
        | returns at_k receiving after => exact .fails at_k after buffer
      case h_2 => cases enabled
  | reclaim k ok =>
      obtain ⟨step, buffer⟩ := onSock_eq_some enabled
      cases recvStep_turn step with
      | reclaims at_k done after => exact .reclaims at_k done after buffer

/-- The socket itself makes a step of `recvStep`, or none. -/
theorem bufferStep_recvStep (enabled : bufferStep act s = some s') :
    s'.sock = s.sock ∨ ∃ recvAct, recvStep recvAct s.sock = some s'.sock := by
  cases act with
  | arrive datagram =>
      obtain rfl := Option.some.inj enabled
      exact Or.inl rfl
  | start call ok => exact Or.inr ⟨_, (onSock_eq_some enabled).1⟩
  | recv k =>
      simp only [bufferStep] at enabled
      split at enabled
      case h_1 => exact Or.inr ⟨_, (onSock_eq_some enabled).1⟩
      case h_2 =>
        split at enabled
        · obtain rfl := Option.some.inj enabled
          exact Or.inl rfl
        · cases enabled
      case h_3 => cases enabled
  | recvFails k =>
      simp only [bufferStep] at enabled
      split at enabled
      case h_1 => exact Or.inr ⟨_, (onSock_eq_some enabled).1⟩
      case h_2 => cases enabled
  | reclaim k ok => exact Or.inr ⟨_, (onSock_eq_some enabled).1⟩

end Steps

end IpxWrapper
