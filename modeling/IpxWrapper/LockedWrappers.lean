import IpxWrapper.Base.LockProg
import IpxWrapper.Ethernet
import IpxWrapper.SocketTable

/-!
# The socket functions and the sockets lock (`winsock.c`, `ipxwrapper.c`)

Every exported function takes the sockets lock to look its descriptor up, and
releases it by hand on each path to a `return`. Here each is a program that shows
where it does, and in which operations it may wait meanwhile; what it does to the
table in between is what `SocketTable` says.

The contents of receive queues are not in the table: how many packets are ready
and what arrives is given with the call, for each turn of a loop.
-/

namespace IpxWrapper

open Base LockProg

/-- Operations in which a thread may wait. -/
inductive WaitOp where
  | waitForReady
  | rAccept
  | rConnect
  | rRecv
  | rSelect
  | rSend
deriving DecidableEq

/-- A function of the table that takes and releases the sockets lock. -/
abbrev Wrapper (α : Type) := LockProg World WaitOp α

namespace Locked

/-! ## The lock -/

/-- `lock_sockets`. -/
def lockSockets : Wrapper Unit := acquire

/-- `unlock_sockets`. -/
def unlockSockets : Wrapper Unit := release

/-- `get_socket`: on success with the lock held. -/
def getSocket (fd : Nat) : Wrapper (Option TableEntry) := do
  lockSockets
  let w ← read
  match w.sockets fd with
  | none => do
      unlockSockets
      pure none
  | some e => pure (some e)

/-- `get_socket_wait_for_ready`. -/
def getSocketWaitForReady (fd : Nat) : Wrapper (Option TableEntry) := do
  match ← getSocket fd with
  | none => pure none
  | some _ => do
      unlockSockets
      await .waitForReady
      getSocket fd

/-- `reclaim_socket`: whether the descriptor is still that of the entry, and the lock
is held. -/
def reclaimSocket (e : TableEntry) (fd : Nat) : Wrapper Bool := do
  match ← getSocket fd with
  | none => pure false
  | some found =>
      if found.id ≠ e.id then do
        unlockSockets
        pure false
      else
        pure true

/-- The way out of a function that holds the lock. -/
def leave {α : Type} (out : α) : Wrapper α := do
  unlockSockets
  pure out

/-- A function that is called on a socket of the router. These are made when the library
is loaded, before there is any IPX socket, and stay open as long as it is, so no IPX
socket gets their descriptors, and the call is passed on. -/
def passOn (fd : Nat) : Wrapper Unit := do
  match ← getSocket fd with
  | none => pure ()
  | some _ => stop

/-! ## `socket`, `closesocket`, `bind` and `getsockname` -/

/-- `socket`. The lock is taken once there is something to add. -/
def socket (af : UInt16) (type protocol : Int) (env : SocketEnv) (encap : EncapType)
    (underlying : Int) : Wrapper CallOut :=
  if af = AF_IPX then
    if type = SOCK_DGRAM then
      match env.nsock with
      | none => pure (.fail ERROR_OUTOFMEMORY)
      | some _ =>
          match env.recvQueue with
          | none => pure (.fail ERROR_OUTOFMEMORY)
          | some _ =>
              match env.criticalSection with
              | some error => pure (.fail error)
              | none =>
                  match env.rSocket with
                  | none => pure .failed
                  | some fd => do
                      lockSockets
                      modify fun w => (socketDgram protocol env w).2
                      unlockSockets
                      pure (.ok fd)
    else if type = SOCK_STREAM then
      if encap ≠ .ipxwrapper then
        pure (.fail WSAEPROTONOSUPPORT)
      else if protocol ≠ 0 ∧ protocol ≠ NSPROTO_SPX ∧ protocol ≠ NSPROTO_SPXII then
        pure (.fail WSAEPROTONOSUPPORT)
      else
        match env.nsock with
        | none => pure (.fail ERROR_OUTOFMEMORY)
        | some _ =>
            match env.rSocket with
            | none => pure .failed
            | some fd => do
                lockSockets
                modify fun w => (socketStream protocol env w).2
                unlockSockets
                pure (.ok fd)
    else
      pure (.fail WSAEINVAL)
  else
    pure (.ok underlying)

/-- `closesocket`, where `r_closesocket` returns `ret`. -/
def closesocket (fd : Nat) (ret : Int) : Wrapper CallOut := do
  match ← getSocket fd with
  | none => pure (.ok ret)
  | some _ =>
      if ret = -1 then
        leave .failed
      else do
        modify fun w => (IpxWrapper.closesocket fd ret w).2
        leave (.ok 0)

/-- `bind`. -/
def bind (fd : Nat) (addr : SockaddrIpx) (addrlen : Nat) (env : BindEnv) (underlying : Int) :
    Wrapper CallOut := do
  match ← getSocketWaitForReady fd with
  | none => pure (.ok underlying)
  | some e =>
      if addrlen < sizeofSockaddrIpx ∨ addr.family ≠ AF_IPX then
        leave (.fail WSAEFAULT)
      else if e.sock.flags.bound then
        leave (.fail WSAEINVAL)
      else
        let sock := { e.sock with addr := { e.sock.addr with family := AF_IPX } }
        match resolveBindAddress env.cache addr sock with
        | none => do
            modify fun w => w.store fd e sock
            leave (.fail WSAEADDRNOTAVAIL)
        | some sock => do
            let w ← read
            match completeBind env.mutex e.id sock w with
            | (false, sock, w) => do
                modify fun _ => w.store fd e sock
                leave (.fail WSAEADDRINUSE)
            | (true, sock, w) =>
                if ¬ env.rBind then do
                  modify fun _ => (unbind fd e sock w).2
                  leave .failed
                else
                  match env.rGetsockname with
                  | none => do
                      modify fun _ => (unbind fd e sock w).2
                      leave .failed
                  | some port => do
                      modify fun _ => w.store fd e { sock with port := port }
                      leave (.ok 0)

/-- `getsockname`. -/
def getsockname (fd addrlen : Nat) (underlying : Int) : Wrapper CallOut := do
  match ← getSocket fd with
  | none => pure (.ok underlying)
  | some e =>
      if e.sock.flags.bound then
        if addrlen < sizeofSockaddrIpx then leave (.fail WSAEFAULT)
        else leave { value := 0, addr := some e.sock.addr }
      else
        leave (.fail WSAEINVAL)

/-! ## Receiving -/

/-- What `recv_pump` finds in one turn. -/
structure PumpEnv where
  /-- What `r_ioctlsocket` says is available, if it succeeds. -/
  available : Option Nat
  /-- Some slot is `IPX_RECV_QUEUE_FREE`. -/
  freeSlot : Bool
  rRecv : Int
  /-- `size` in what was received. -/
  packetSize : Nat

/-- `recv_pump` once a slot was claimed. -/
def recvPumpRecv (fd : Nat) (e : TableEntry) (env : PumpEnv) : Wrapper CallOut := do
  unlockSockets
  await .rRecv
  match ← reclaimSocket e fd with
  | false => pure (.fail WSAENOTSOCK)
  | true =>
      if env.rRecv = -1 then
        leave .failed
      else if env.rRecv < IpxPacket.headerSize ∨
          env.rRecv ≠ env.packetSize + IpxPacket.headerSize then
        leave (.fail WSAEWOULDBLOCK)
      else
        pure (.ok 1)

/-- `recv_pump`: the lock is held on return unless it returns -1. -/
def recvPump (fd : Nat) (e : TableEntry) (block : Bool) (env : PumpEnv) : Wrapper CallOut :=
  if block then
    if env.freeSlot then recvPumpRecv fd e env else pure (.ok 0)
  else
    match env.available with
    | none => leave .failed
    | some 0 => pure (.ok 0)
    | some _ => if env.freeSlot then recvPumpRecv fd e env else pure (.ok 0)

/-- What a receiving function finds. -/
structure ReceiveEnv where
  /-- `n_ready` and what `recv_pump` finds, by the turn of the loop. -/
  nReady : Nat → Nat
  pump : Nat → PumpEnv
  /-- How often a loop may go round. -/
  turns : Nat
  /-- `size` of the packet that is read. -/
  packetSize : Nat

/-- The loop of `recv_packet`, from turn `k` on; what is returned when `recv_pump`
fails. -/
def recvPacketLoop (fd : Nat) (e : TableEntry) (env : ReceiveEnv) :
    Nat → Nat → Wrapper (Option CallOut)
  | 0, _ => stop
  | left + 1, k =>
      if env.nReady k < 1 then do
        let pumped ← recvPump fd e true (env.pump k)
        if pumped.value < 0 then pure (some pumped)
        else recvPacketLoop fd e env left (k + 1)
      else
        pure none

/-- `recv_packet`. -/
def recvPacket (fd : Nat) (e : TableEntry) (env : ReceiveEnv) : Wrapper CallOut :=
  if ¬ e.sock.flags.bound then
    leave (.fail WSAEINVAL)
  else do
    match ← recvPacketLoop fd e env env.turns 0 with
    | some failed => pure failed
    | none => leave (.ok env.packetSize)

/-- `recvfrom`; `addrlen` is given where both pointers are. -/
def recvfrom (fd : Nat) (len : Int) (addrlen : Option Nat) (env : ReceiveEnv) (underlying : Int) :
    Wrapper CallOut := do
  match ← getSocket fd with
  | none => do
      await .rRecv
      pure (.ok underlying)
  | some e =>
      if e.sock.flags.isSpx then do
        unlockSockets
        await .rRecv
        pure (.ok underlying)
      else if addrlen.any (· < sizeofSockaddrIpx) then
        leave (.fail WSAEFAULT)
      else do
        let out ← recvPacket fd e env
        if len < out.value then pure (.fail WSAEMSGSIZE) else pure out

/-- `recv`. -/
def recv (fd : Nat) (len : Int) (env : ReceiveEnv) (underlying : Int) : Wrapper CallOut := do
  match ← getSocket fd with
  | none => do
      await .rRecv
      pure (.ok underlying)
  | some e =>
      if e.sock.flags.isSpx then do
        unlockSockets
        await .rRecv
        pure (.ok underlying)
      else do
        let out ← recvPacket fd e env
        if len < out.value then pure (.fail WSAEMSGSIZE) else pure out

/-- `WSARecvEx`, which returns what fits of a packet that is too large. -/
def WSARecvEx (fd : Nat) (len : Int) (env : ReceiveEnv) (underlying : Int) : Wrapper CallOut := do
  match ← getSocket fd with
  | none => do
      await .rRecv
      pure (.ok underlying)
  | some e =>
      if e.sock.flags.isSpx then do
        unlockSockets
        await .rRecv
        pure (.ok underlying)
      else do
        let out ← recvPacket fd e env
        if len < out.value then pure (.ok len) else pure out

/-- The loop of `ioctlsocket`, from turn `k` on; whether the lock is still held. -/
def ioctlsocketLoop (fd : Nat) (e : TableEntry) (env : ReceiveEnv) :
    Nat → Nat → Wrapper (Option CallOut)
  | 0, _ => stop
  | left + 1, k => do
      let pumped ← recvPump fd e false (env.pump k)
      if pumped.value < 0 then pure (some { value := -1, error := pumped.error })
      else if pumped.value = 0 then pure none
      else ioctlsocketLoop fd e env left (k + 1)

/-- `ioctlsocket`; `fionread` tells whether `cmd` is `FIONREAD`. -/
def ioctlsocket (fd : Nat) (fionread : Bool) (env : ReceiveEnv) (underlying : Int) :
    Wrapper CallOut := do
  match ← getSocket fd with
  | none => pure (.ok underlying)
  | some e =>
      if fionread ∧ ¬ e.sock.flags.isSpx then do
        match ← ioctlsocketLoop fd e env env.turns 0 with
        | some failed => pure failed
        | none => leave (.ok 0)
      else
        leave (.ok underlying)

/-! ## Options -/

/-- `_max_ipx_payload`. -/
def maxIpxPayload (encap : EncapType) (frameType : FrameType) : Nat :=
  match encap with
  | .pcap =>
      match frameType with
      | .ethII => 1500 - NovellIpxPacket.size
      | .novell => 1500 - NovellIpxPacket.size
      | .llc => 1500 - (3 + NovellIpxPacket.size)
  | .dosbox => 1424
  | .ipxwrapper => maxDataSize

/-- The value of an option. -/
inductive OptVal where
  | int (v : Int)
  | bool (v : Bool)
  /-- `IPX_ADDRESS_DATA`: network, node and largest packet of the interface; `wan` and
  `status` are false and `linkspeed` is 100000. -/
  | address (netnum : Addr32) (nodenum : Addr48) (maxpkt : Nat)
deriving DecidableEq

/-- What `getsockopt` returns, and what it leaves in `*optval` and `*optlen`. -/
structure GetsockoptOut where
  out : CallOut
  optval : Option OptVal := none
  optlen : Nat
deriving DecidableEq

/-- `RETURN_INT_OPT` and `RETURN_BOOL_OPT`, for values of four bytes. -/
def returnOpt (val : OptVal) (optlen : Nat) : Wrapper GetsockoptOut :=
  if optlen < 4 then leave { out := .fail WSAEFAULT, optlen := 4 }
  else leave { out := .ok 0, optval := some val, optlen := 4 }

/-- `sizeof(IPX_ADDRESS_DATA)`. -/
def sizeofIpxAddressData : Nat := 24

/-- What `getsockopt` finds: the interface with the index asked for, and how many
there are. -/
structure GetsockoptEnv where
  frameType : FrameType
  nic : Option IpxInterface
  ipxInterfaceCount : Nat

/-- `getsockopt`. -/
def getsockopt (fd : Nat) (level optname : Int) (optlen : Nat) (env : GetsockoptEnv)
    (underlying : Int) : Wrapper GetsockoptOut := do
  match ← getSocketWaitForReady fd with
  | none => pure { out := .ok underlying, optlen := optlen }
  | some e => do
      let w ← read
      if level = NSPROTO_IPX then
        if optname = IPX_PTYPE then
          returnOpt (.int e.sock.sPtype.toNat) optlen
        else if optname = IPX_FILTERPTYPE then
          returnOpt (.int e.sock.fPtype.toNat) optlen
        else if optname = IPX_MAXSIZE then
          returnOpt (.int (maxIpxPayload w.ipxEncapType env.frameType)) optlen
        else if optname = IPX_ADDRESS then
          if optlen < sizeofIpxAddressData then
            leave { out := .fail WSAEFAULT, optlen := sizeofIpxAddressData }
          else
            match env.nic with
            | none => leave { out := .fail ERROR_NO_DATA, optlen := sizeofIpxAddressData }
            | some nic =>
                leave
                  { out := .ok 0
                    optval := some (.address nic.ipxNet nic.ipxNode
                      (maxIpxPayload w.ipxEncapType env.frameType))
                    optlen := sizeofIpxAddressData }
        else if optname = IPX_MAX_ADAPTER_NUM then
          returnOpt (.int env.ipxInterfaceCount) optlen
        else if optname = IPX_EXTENDED_ADDRESS then
          returnOpt (.bool e.sock.flags.extAddr) optlen
        else
          leave { out := .fail WSAENOPROTOOPT, optlen := optlen }
      else if level = SOL_SOCKET ∧ optname = SO_BROADCAST then
        returnOpt (.bool e.sock.flags.broadcast) optlen
      else if level = SOL_SOCKET ∧ optname = SO_REUSEADDR then
        returnOpt (.bool e.sock.flags.reuse) optlen
      else
        leave { out := .ok underlying, optlen := optlen }

/-- The socket with the fields that `setsockopt` changes, and `SETSOCKOPT_OPTLEN`
before that, which compares without a sign. -/
def setOpt (fd : Nat) (e : TableEntry) (sock : IpxSocket) (optlen : Int) : Wrapper CallOut :=
  if 0 ≤ optlen ∧ optlen < 4 then leave (.fail WSAEFAULT)
  else do
    modify fun w => w.store fd e sock
    leave (.ok 0)

/-- `setsockopt`, where `*optval` is `optval` if it is four bytes or more. -/
def setsockopt (fd : Nat) (level optname : Int) (optval optlen : Int) (underlying : Int) :
    Wrapper CallOut := do
  match ← getSocket fd with
  | none => pure (.ok underlying)
  | some e =>
      let sock := e.sock
      let flags := sock.flags
      let on : Bool := optval ≠ 0
      if level = NSPROTO_IPX then
        if optname = IPX_PTYPE then
          setOpt fd e { sock with sPtype := UInt8.ofInt optval } optlen
        else if optname = IPX_FILTERPTYPE then
          setOpt fd e
            { sock with fPtype := UInt8.ofInt optval, flags := { flags with filter := true } }
            optlen
        else if optname = IPX_STOPFILTERPTYPE then do
          modify fun w => w.store fd e { sock with flags := { flags with filter := false } }
          leave (.ok 0)
        else if optname = IPX_RECEIVE_BROADCAST then
          setOpt fd e { sock with flags := { flags with recvBcast := on } } optlen
        else if optname = IPX_EXTENDED_ADDRESS then
          setOpt fd e { sock with flags := { flags with extAddr := on } } optlen
        else
          leave (.fail WSAENOPROTOOPT)
      else if level = SOL_SOCKET ∧ optname = SO_BROADCAST then
        setOpt fd e { sock with flags := { flags with broadcast := on } } optlen
      else if level = SOL_SOCKET ∧ optname = SO_REUSEADDR then
        setOpt fd e { sock with flags := { flags with reuse := on } } optlen
      else if level = SOL_SOCKET ∧ optname = SO_LINGER ∧ ¬ flags.isSpx then
        leave (.ok 0)
      else if level = SOL_SOCKET ∧ optname = 16399 then
        leave (.ok 0)
      else
        leave (.ok underlying)

end Locked

end IpxWrapper
