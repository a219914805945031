import IpxWrapper.Packet
import IpxWrapper.Winsock
import IpxWrapper.Base.Run
import Mathlib.Logic.Function.Basic
import Mathlib.Data.Fintype.Basic

/-!
# The receive queue of a datagram socket (`winsock.c`)

`recv_packet` and `ioctlsocket(FIONREAD)` move packets from the underlying
socket to a queue through `recv_pump`, which gives up the sockets lock around
`recv`. Between two points where the lock is free nothing of another thread is
seen, so a step here is one such section, or one `recv` that returns. A call
that is between claiming a slot and finishing is a `Pump`; there may be any
number, and each ends when the scheduler says.

Array accesses are checked: one out of bounds, or a failed assertion, sets
`fault`.
-/

namespace IpxWrapper

open Base

/-- `RECV_QUEUE_MAX_PACKETS`. -/
def recvQueueMaxPackets : Nat := 32

abbrev Slot := Fin recvQueueMaxPackets

/-- `IPX_RECV_QUEUE_FREE`. -/
def slotFree : Int := -1

/-- `IPX_RECV_QUEUE_LOCKED`. -/
def slotLocked : Int := -2

/-! ## `struct ipx_recv_queue` -/

structure RecvQueue where
  refcount : Int32
  ready : Slot → Int
  nReady : Nat
  data : Slot → Mem
  sizes : Slot → Int

namespace RecvQueue

/-- As `socket` leaves it; `ready` and `data` are what `malloc` returned. -/
def init (ready : Slot → Int) (data : Slot → Mem) : RecvQueue :=
  ⟨1, ready, 0, data, fun _ => slotFree⟩

/-- `recv_queue_adjust_refcount`. -/
def adjustRefcount (q : RecvQueue) (adj : Int32) : RecvQueue :=
  { q with refcount := q.refcount + adj }

def setSize (q : RecvQueue) (i : Slot) (size : Int) : RecvQueue :=
  { q with sizes := Function.update q.sizes i size }

def setData (q : RecvQueue) (i : Slot) (data : Mem) : RecvQueue :=
  { q with data := Function.update q.data i data }

/-- The loop of `recv_pump` over `sizes`. -/
def findFree (q : RecvQueue) : Option Slot :=
  (List.finRange recvQueueMaxPackets).find? fun i => q.sizes i = slotFree

/-- `recv_pump` puts a packet of `r` bytes at the end of `ready`. -/
def append (q : RecvQueue) (i : Slot) (r : Nat) : Option RecvQueue :=
  if h : q.nReady < recvQueueMaxPackets then
    some { q.setSize i r with
      ready := Function.update q.ready ⟨q.nReady, h⟩ i
      nReady := q.nReady + 1 }
  else
    none

/-- An entry of `ready`, as an index of `data` and `sizes`. -/
def slotOf (entry : Int) : Option Slot :=
  if h : 0 ≤ entry ∧ entry.toNat < recvQueueMaxPackets then some ⟨entry.toNat, h.2⟩ else none

/-- `ready[0]`. -/
def front (q : RecvQueue) : Option Slot := slotOf (q.ready ⟨0, by decide⟩)

/-- `ready[0..n_ready)`, as far as the entries are indices. -/
def readySlots (q : RecvQueue) : List Slot :=
  ((List.finRange recvQueueMaxPackets).take q.nReady).filterMap fun k => slotOf (q.ready k)

/-- The packet in a slot: as many bytes as `sizes` says. -/
def datagram (q : RecvQueue) (i : Slot) : List Byte :=
  (q.data i).slice 0 (q.sizes i).toNat

@[simp] theorem adjustRefcount_data (q : RecvQueue) (adj : Int32) :
    (q.adjustRefcount adj).data = q.data := by
  cases q; rfl

@[simp] theorem adjustRefcount_nReady (q : RecvQueue) (adj : Int32) :
    (q.adjustRefcount adj).nReady = q.nReady := by
  cases q; rfl

@[simp] theorem setSize_nReady (q : RecvQueue) (i : Slot) (size : Int) :
    (q.setSize i size).nReady = q.nReady := by
  cases q; rfl

@[simp] theorem adjustRefcount_datagram (q : RecvQueue) (adj : Int32) :
    (q.adjustRefcount adj).datagram = q.datagram := by
  cases q; rfl

/-- The packets in `ready[0..n_ready)`. -/
def datagrams (q : RecvQueue) : List (List Byte) :=
  q.readySlots.map q.datagram

/-- `memmove(&(ready[0]), &(ready[1]), n * sizeof(int))`. -/
def shift (ready : Slot → Int) (n : Nat) (i : Slot) : Int :=
  if h : i.val < n ∧ i.val + 1 < recvQueueMaxPackets then ready ⟨i.val + 1, h.2⟩ else ready i

/-- `recv_packet` frees slot `i` and advances `ready`. -/
def advance (q : RecvQueue) (i : Slot) : Option RecvQueue :=
  let n := q.nReady - 1
  if n < recvQueueMaxPackets then
    some { q.setSize i slotFree with nReady := n, ready := shift q.ready n }
  else
    none

end RecvQueue

/-! ## Calls -/

/-- The function that calls `recv_packet`. -/
inductive RecvFn where
  | recv
  | recvfrom
  | WSARecvEx
deriving DecidableEq

/-- A call of `recv`, `recvfrom` or `WSARecvEx`, and what it finds. -/
structure ReceiveCall where
  fn : RecvFn
  /-- The size of the buffer. -/
  len : Nat
  /-- `flags & MSG_PEEK`; `WSARecvEx` passes no flags. -/
  msgPeek : Bool
  /-- `recvfrom` is given an address to fill in. -/
  addr : Bool
  /-- `*addrlen`, where `recvfrom` is given that pointer. -/
  addrlen : Option Nat
  /-- `sock->flags & IPX_BOUND`. -/
  bound : Bool
  /-- `sock->flags & IPX_EXT_ADDR`. -/
  extAddr : Bool
  /-- Whether `ipx_interface_by_addr` finds an interface. -/
  ownInterface : Addr32 → Addr48 → Bool

def ReceiveCall.peek (call : ReceiveCall) : Bool :=
  match call.fn with
  | .WSARecvEx => false
  | _ => call.msgPeek

inductive Call where
  | receive (call : ReceiveCall)
  /-- `ioctlsocket(FIONREAD)`. -/
  | fionread

/-- `struct sockaddr_ipx_ext`, filled in; the last two members are only set for
an extended address. -/
structure SockaddrIpxExt where
  netnum : Addr32
  nodenum : Addr48
  socket : UInt16
  ext : Option (Byte × Byte)
deriving DecidableEq

/-- What a receiving function returns and writes. -/
structure ReceiveOut where
  value : Int
  /-- `WSASetLastError`. -/
  error : Option UInt32
  /-- The bytes put in the buffer. -/
  copied : List Byte
  /-- `MSG_PARTIAL` is set in `*flags`. -/
  msgPartial : Bool
  addr : Option SockaddrIpxExt
  /-- What `recvfrom` stores in `*addrlen`. -/
  addrlen : Option Nat
deriving DecidableEq

/-- `sa_flags` of an extended address. -/
def saFlags (call : ReceiveCall) (m : Mem) : Byte :=
  (if IpxPacket.destNode m 0 = bcastNode then 1 else 0) |||
    (if call.ownInterface (IpxPacket.srcNet m 0) (IpxPacket.srcNode m 0) then 2 else 0)

/-- What `recv_packet` puts in the address, for the packet at the start of `m`. -/
def readAddr (call : ReceiveCall) (m : Mem) : Option SockaddrIpxExt :=
  if call.fn = .recvfrom ∧ call.addr then
    some
      { netnum := IpxPacket.srcNet m 0
        nodenum := IpxPacket.srcNode m 0
        socket := IpxPacket.srcSocket m 0
        ext :=
          if call.extAddr ∧ 16 ≤ call.addrlen.getD 0 then
            some (IpxPacket.ptype m 0, saFlags call m)
          else
            none }
  else
    none

/-- What `recvfrom` puts in `*addrlen`. -/
def readAddrlen (call : ReceiveCall) : Option Nat :=
  if call.fn = .recvfrom ∧ call.addr then
    call.addrlen.map fun addrlen => if 16 ≤ addrlen ∧ call.extAddr then 16 else 14
  else
    none

/-- What the call makes of the packet at the start of `m`. -/
def readPacket (call : ReceiveCall) (m : Mem) : ReceiveOut :=
  let size := IpxPacket.size m 0
  let out : ReceiveOut :=
    { value := size
      error := none
      copied := m.slice IpxPacket.headerSize (if size ≤ call.len then size else call.len)
      msgPartial := false
      addr := readAddr call m
      addrlen := readAddrlen call }
  if call.len < size then
    match call.fn with
    | .WSARecvEx => { out with value := call.len, msgPartial := true }
    | _ => { out with value := -1, error := some WSAEMSGSIZE }
  else
    out

/-- How a call ended. -/
inductive CallResult where
  /-- A receiving call read the datagram. -/
  | received (call : ReceiveCall) (datagram : List Byte) (out : ReceiveOut)
  /-- `ioctlsocket` reported this many bytes. -/
  | fionread (total : Nat)
  /-- The call returned -1; `none` if the error is that of an underlying call. -/
  | failed (call : Call) (error : Option UInt32)

/-! ## The socket and its threads -/

/-- What has become of the `recv` of a pump. -/
inductive PumpState where
  | receiving
  | failed
  | received (r : Nat)
deriving DecidableEq

/-- A `recv_pump` that has claimed a slot and not finished, on behalf of `call`. -/
structure Pump where
  call : Call
  slot : Slot
  state : PumpState

structure RecvSocket where
  queue : RecvQueue
  /-- The socket is in the sockets table. -/
  isOpen : Bool
  pumps : List Pump
  /-- A thread goes round the loop of `recv_packet` with the lock held. -/
  spinning : Bool
  /-- How often the queue has been freed. -/
  freed : Nat
  fault : Bool
  /-- The datagrams `recv` took from the underlying socket, oldest first. -/
  taken : List (List Byte)
  /-- Those that were put at the end of `ready`. -/
  appended : List (List Byte)
  results : List CallResult

/-- The socket as `socket` returns it. -/
def RecvSocket.init (ready : Slot → Int) (data : Slot → Mem) : RecvSocket :=
  ⟨.init ready data, true, [], false, 0, false, [], [], []⟩

namespace RecvSocket

def finish (s : RecvSocket) (result : CallResult) : RecvSocket :=
  { s with results := s.results ++ [result] }

def check (s : RecvSocket) (holds : Bool) : RecvSocket :=
  { s with fault := s.fault || !holds }

@[simp] theorem finish_isOpen (s : RecvSocket) (result : CallResult) :
    (s.finish result).isOpen = s.isOpen := rfl

@[simp] theorem finish_queue (s : RecvSocket) (result : CallResult) :
    (s.finish result).queue = s.queue := by
  cases s; rfl

@[simp] theorem finish_pumps (s : RecvSocket) (result : CallResult) :
    (s.finish result).pumps = s.pumps := by
  cases s; rfl

/-- `release_recv_queue`. -/
def releaseRecvQueue (s : RecvSocket) : RecvSocket :=
  let queue := s.queue.adjustRefcount (-1)
  { s with queue := queue, freed := if queue.refcount = 0 then s.freed + 1 else s.freed }

@[simp] theorem releaseRecvQueue_queue (s : RecvSocket) :
    s.releaseRecvQueue.queue = s.queue.adjustRefcount (-1) := rfl

@[simp] theorem releaseRecvQueue_isOpen (s : RecvSocket) :
    s.releaseRecvQueue.isOpen = s.isOpen := by
  cases s; rfl

@[simp] theorem releaseRecvQueue_pumps (s : RecvSocket) :
    s.releaseRecvQueue.pumps = s.pumps := by
  cases s; rfl

theorem releaseRecvQueue_freed (s : RecvSocket) : s.releaseRecvQueue.freed =
    if s.queue.refcount + -1 = 0 then s.freed + 1 else s.freed := by
  unfold releaseRecvQueue RecvQueue.adjustRefcount
  dsimp only

@[simp] theorem releaseRecvQueue_fault (s : RecvSocket) :
    s.releaseRecvQueue.fault = s.fault := by
  cases s; rfl

@[simp] theorem releaseRecvQueue_taken (s : RecvSocket) :
    s.releaseRecvQueue.taken = s.taken := by
  cases s; rfl

@[simp] theorem releaseRecvQueue_appended (s : RecvSocket) :
    s.releaseRecvQueue.appended = s.appended := by
  cases s; rfl

@[simp] theorem releaseRecvQueue_results (s : RecvSocket) :
    s.releaseRecvQueue.results = s.results := by
  cases s; rfl

/-- `recv_packet` after its loop. -/
def readFront (call : ReceiveCall) (s : RecvSocket) : RecvSocket :=
  match s.queue.front with
  | none => s.check false
  | some slot =>
      let s := s.check (0 ≤ s.queue.sizes slot)
      let read := s.queue.datagram slot
      let result := .received call read (readPacket call (s.queue.data slot))
      if call.peek then
        s.finish result
      else
        match s.queue.advance slot with
        | none => s.check false
        | some queue => { s with queue := queue }.finish result

/-- `recv_pump` claims a slot and gives up the lock. -/
def claim (call : Call) (slot : Slot) (s : RecvSocket) : RecvSocket :=
  { s with
    queue := (s.queue.setSize slot slotLocked).adjustRefcount 1
    pumps := s.pumps ++ [⟨call, slot, .receiving⟩] }

/-- `recv_packet` from the test of its loop on. Without a free slot `recv_pump`
returns 0 at once, so the loop goes round for ever. -/
def receiveLoop (call : ReceiveCall) (s : RecvSocket) : RecvSocket :=
  if s.queue.nReady < 1 then
    match s.queue.findFree with
    | some slot => s.claim (.receive call) slot
    | none => { s with spinning := true }
  else
    s.readFront call

/-- `ioctlsocket` adds up the sizes of the packets in `ready[0..n_ready)`. -/
def accumulate (s : RecvSocket) : RecvSocket :=
  (s.check (s.queue.readySlots.length = s.queue.nReady)).finish
    (.fionread (s.queue.readySlots.map fun i => IpxPacket.size (s.queue.data i) 0).sum)

/-- `ioctlsocket` from a call of `recv_pump` on; `available` is what the
underlying `ioctlsocket` says is waiting, if it succeeds. -/
def fionreadLoop (available : Option Nat) (s : RecvSocket) : RecvSocket :=
  match available with
  | none => s.finish (.failed .fionread none)
  | some 0 => s.accumulate
  | some (_ + 1) =>
      match s.queue.findFree with
      | some slot => s.claim .fionread slot
      | none => s.accumulate

/-- A call goes on with its loop. -/
def continueCall (call : Call) (available : Option Nat) (s : RecvSocket) : RecvSocket :=
  match call with
  | .receive call => s.receiveLoop call
  | .fionread => s.fionreadLoop available

/-- A call begins, with the lock held. -/
def startCall (call : Call) (available : Option Nat) (s : RecvSocket) : RecvSocket :=
  match call with
  | .receive rc =>
      if rc.fn = .recvfrom ∧ rc.addr ∧ rc.addrlen.any (· < 14) then s.finish (.failed call WSAEFAULT)
      else if rc.bound then s.receiveLoop rc
      else s.finish (.failed call WSAEINVAL)
  | .fionread => s.fionreadLoop available

/-- `recv_pump` accepts what was received: there is a header, and its size is right. -/
def ValidPacket (m : Mem) (r : Nat) : Prop :=
  IpxPacket.headerSize ≤ r ∧ r = IpxPacket.size m 0 + IpxPacket.headerSize

instance (m : Mem) (r : Nat) : Decidable (ValidPacket m r) :=
  inferInstanceAs (Decidable (_ ∧ _))

/-- `recv_pump` gives its slot back and returns -1. -/
def discard (p : Pump) (error : Option UInt32) (s : RecvSocket) : RecvSocket :=
  ({ s with queue := s.queue.setSize p.slot slotFree }.releaseRecvQueue).finish
    (.failed p.call error)

/-- `recv_pump` from `reclaim_socket` on, for pump `p`, which is no longer among
the pumps of `s`. -/
def reclaim (p : Pump) (available : Option Nat) (s : RecvSocket) : RecvSocket :=
  if ¬ s.isOpen then
    s.releaseRecvQueue.finish (.failed p.call WSAENOTSOCK)
  else
    match p.state with
    | .receiving => s
    | .failed => s.discard p none
    | .received r =>
        if ValidPacket (s.queue.data p.slot) r then
          match s.queue.append p.slot r with
          | none => s.check false
          | some queue =>
              { s with
                queue := queue
                appended := s.appended ++ [(s.queue.data p.slot).slice 0 r]
              }.continueCall p.call available
        else
          s.discard p WSAEWOULDBLOCK

/-- `closesocket`, where the underlying one succeeds if `ok`. -/
def closesocket (ok : Bool) (s : RecvSocket) : RecvSocket :=
  if ok then { s with isOpen := false }.releaseRecvQueue else s

end RecvSocket

/-! ## Steps -/

/-- What happens next. -/
inductive RecvAct where
  /-- A thread makes a call. -/
  | start (call : Call) (available : Option Nat)
  /-- The `recv` of the pump numbered `k` returns: a datagram, or an error. -/
  | recvDone (k : Nat) (received : Option { bytes : List Byte // bytes.length ≤ maxPktSize })
  /-- The thread of pump `k` gets the lock again. -/
  | reclaim (k : Nat) (available : Option Nat)
  | closesocket (ok : Bool)

/-- The `recv` of pump `p` returns, having filled its slot. -/
def recvReturns (k : Nat) (p : Pump) (received : Option (List Byte)) (s : RecvSocket) :
    RecvSocket :=
  match received with
  | none => { s with pumps := s.pumps.set k { p with state := .failed } }
  | some bytes =>
      { s with
        queue := s.queue.setData p.slot
          (Mem.ofList bytes fun i => s.queue.data p.slot (bytes.length + i))
        pumps := s.pumps.set k { p with state := .received bytes.length }
        taken := s.taken ++ [bytes] }

/-- One step; `none` if it cannot happen in `s`. -/
def recvStep (act : RecvAct) (s : RecvSocket) : Option RecvSocket :=
  match act with
  | .start call available =>
      if s.isOpen ∧ ¬ s.spinning then some (s.startCall call available) else none
  | .recvDone k received =>
      match s.pumps[k]? with
      | some p =>
          if p.state = .receiving then some (recvReturns k p (received.map (·.val)) s) else none
      | none => none
  | .reclaim k available =>
      match s.pumps[k]? with
      | some p =>
          if p.state ≠ .receiving ∧ ¬ s.spinning then
            some ({ s with pumps := s.pumps.eraseIdx k }.reclaim p available)
          else
            none
      | none => none
  | .closesocket ok =>
      if s.isOpen ∧ ¬ s.spinning then some (s.closesocket ok) else none

/-- From `s` the step `act` leads to `s'`. -/
inductive RecvTurn (s s' : RecvSocket) : RecvAct → Prop
  | starts {call : Call} {available : Option Nat} (isOpen : s.isOpen = true)
      (after : s' = s.startCall call available) : RecvTurn s s' (.start call available)
  | returns {k : Nat} {p : Pump}
      {received : Option { bytes : List Byte // bytes.length ≤ maxPktSize }}
      (at_k : s.pumps[k]? = some p) (receiving : p.state = .receiving)
      (after : s' = recvReturns k p (received.map (·.val)) s) :
      RecvTurn s s' (.recvDone k received)
  | reclaims {k : Nat} {p : Pump} {available : Option Nat} (at_k : s.pumps[k]? = some p)
      (done : p.state ≠ .receiving)
      (after : s' = { s with pumps := s.pumps.eraseIdx k }.reclaim p available) :
      RecvTurn s s' (.reclaim k available)
  | closes {ok : Bool} (isOpen : s.isOpen = true) (after : s' = s.closesocket ok) :
      RecvTurn s s' (.closesocket ok)

theorem recvStep_turn {s s' : RecvSocket} {act : RecvAct} (enabled : recvStep act s = some s') :
    RecvTurn s s' act := by
  cases act with
  | start call available =>
      simp only [recvStep] at enabled
      split at enabled
      case isTrue ready => exact .starts ready.1 (Option.some.inj enabled).symm
      case isFalse => cases enabled
  | recvDone k received =>
      simp only [recvStep] at enabled
      split at enabled
      case h_1 p at_k =>
        split at enabled
        case isTrue receiving => exact .returns at_k receiving (Option.some.inj enabled).symm
        case isFalse => cases enabled
      case h_2 => cases enabled
  | reclaim k available =>
      simp only [recvStep] at enabled
      split at enabled
      case h_1 p at_k =>
        split at enabled
        case isTrue ready => exact .reclaims at_k ready.1 (Option.some.inj enabled).symm
        case isFalse => cases enabled
      case h_2 => cases enabled
  | closesocket ok =>
      simp only [recvStep] at enabled
      split at enabled
      case isTrue ready => exact .closes ready.1 (Option.some.inj enabled).symm
      case isFalse => cases enabled

/-! ## A call with the lock held -/

/-- `block`, as the callers of `recv_pump` pass it. -/
def Call.block : Call → Bool
  | .receive _ => true
  | .fionread => false

/-- What a call does until it ends or gives up the lock in `recv_pump`. -/
inductive Turn (available : Option Nat) (s s' : RecvSocket) : Prop
  | ends (isOpen : s'.isOpen = s.isOpen) (freed : s'.freed = s.freed)
      (refcount : s'.queue.refcount = s.queue.refcount) (pumps : s'.pumps = s.pumps)
      (ready : s'.queue.nReady ≤ s.queue.nReady)
  | claims (call : Call) (slot : Slot) (isOpen : s'.isOpen = s.isOpen) (freed : s'.freed = s.freed)
      (refcount : s'.queue.refcount = s.queue.refcount + 1)
      (pumps : s'.pumps = s.pumps ++ [⟨call, slot, .receiving⟩])
      (ready : s'.queue.nReady = s.queue.nReady)
      (waits : call.block = true → s.queue.nReady = 0)
      (asked : call.block = false → ∃ n, available = some (n + 1))

section Turns

variable {q q' : RecvQueue} {i : Slot}

theorem advance_counts (advanced : q.advance i = some q') :
    q'.refcount = q.refcount ∧ q'.nReady = q.nReady - 1 := by
  unfold RecvQueue.advance at advanced
  dsimp only at advanced
  split at advanced
  · obtain rfl := Option.some.inj advanced
    exact ⟨rfl, rfl⟩
  · cases advanced

theorem append_counts {r : Nat} (appended : q.append i r = some q') :
    q'.refcount = q.refcount ∧ q'.nReady = q.nReady + 1 := by
  unfold RecvQueue.append at appended
  split at appended
  · obtain rfl := Option.some.inj appended
    exact ⟨rfl, rfl⟩
  · cases appended

theorem Turn.nothing {available : Option Nat} {s s' : RecvSocket} (isOpen : s'.isOpen = s.isOpen)
    (freed : s'.freed = s.freed) (queue : s'.queue = s.queue) (pumps : s'.pumps = s.pumps) :
    Turn available s s' :=
  .ends isOpen freed (by rw [queue]) pumps (by rw [queue])

/-- The pumps that there were are still there. -/
theorem Turn.keeps {available : Option Nat} {s s' : RecvSocket} (turn : Turn available s s')
    {p : Pump} (member : p ∈ s.pumps) : p ∈ s'.pumps := by
  cases turn with
  | ends _ _ _ pumps => exact pumps ▸ member
  | claims call slot isOpen freed refcount pumps =>
      rw [pumps]
      exact List.mem_append_left _ member

theorem readFront_turn {available : Option Nat} (s : RecvSocket) (call : ReceiveCall) :
    Turn available s (s.readFront call) := by
  unfold RecvSocket.readFront
  cases s.queue.front with
  | none => exact .nothing rfl rfl rfl rfl
  | some slot =>
      dsimp only
      split
      · exact .nothing rfl rfl rfl rfl
      · cases advanced : (s.check (0 ≤ s.queue.sizes slot)).queue.advance slot with
        | none => exact .nothing rfl rfl rfl rfl
        | some q =>
            obtain ⟨refcount, fewer⟩ := advance_counts advanced
            refine .ends rfl rfl refcount rfl ?_
            change q.nReady ≤ _
            rw [fewer]
            exact Nat.sub_le _ 1

theorem receiveLoop_turn {available : Option Nat} (s : RecvSocket) (call : ReceiveCall) :
    Turn available s (s.receiveLoop call) := by
  unfold RecvSocket.receiveLoop
  split
  case isTrue empty =>
    cases s.queue.findFree with
    | some slot =>
        refine .claims (.receive call) slot rfl rfl rfl rfl rfl (fun _ => by omega) fun asks => ?_
        cases asks
    | none => exact .nothing rfl rfl rfl rfl
  case isFalse => exact readFront_turn s call

theorem fionreadLoop_turn (s : RecvSocket) (available : Option Nat) :
    Turn available s (s.fionreadLoop available) := by
  unfold RecvSocket.fionreadLoop
  split
  case h_1 => exact .nothing rfl rfl rfl rfl
  case h_2 => exact .nothing rfl rfl rfl rfl
  case h_3 n =>
    cases s.queue.findFree with
    | some slot =>
        refine .claims .fionread slot rfl rfl rfl rfl rfl (fun waits => ?_) fun _ => ⟨n, rfl⟩
        cases waits
    | none => exact .nothing rfl rfl rfl rfl

theorem continueCall_turn (s : RecvSocket) (call : Call) (available : Option Nat) :
    Turn available s (s.continueCall call available) := by
  cases call with
  | receive call => exact receiveLoop_turn s call
  | fionread => exact fionreadLoop_turn s available

theorem startCall_turn (s : RecvSocket) (call : Call) (available : Option Nat) :
    Turn available s (s.startCall call available) := by
  cases call with
  | receive call =>
      unfold RecvSocket.startCall
      dsimp only
      split
      · exact .nothing rfl rfl rfl rfl
      split
      · exact receiveLoop_turn s call
      · exact .nothing rfl rfl rfl rfl
  | fionread => exact fionreadLoop_turn s available

end Turns

end IpxWrapper
