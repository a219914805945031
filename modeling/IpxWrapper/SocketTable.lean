import IpxWrapper.Interface
import IpxWrapper.Winsock
import IpxWrapper.Base.Loop
import IpxWrapper.Base.Run
import Mathlib.Data.Finmap
import Mathlib.Logic.Function.Basic

/-!
# The sockets table (`winsock.c`)

`socket`, `bind`, `connect`, `listen`, `accept` and `closesocket`, with the table
they share and the memory and handles they get from the system. What the system
does in a call (the memory `malloc` returns, the descriptor of a new socket,
whether an underlying call fails) is given with the call.

A queue and a mutex handle remember the socket they were made for, by a number
that no other socket gets. Releasing what is not there, or is another's, sets
`misuse`.
-/

namespace IpxWrapper

open Base

/-! ## `struct ipx_socket` -/

/-- `struct sockaddr_ipx`; the bytes of the network and node numbers as `addr32_in`
and `addr48_in` read them, `socket` as stored. -/
structure SockaddrIpx where
  family : UInt16
  netnum : Addr32
  nodenum : Addr48
  socket : UInt16
deriving DecidableEq

/-- `sizeof(struct sockaddr_ipx)`. -/
def sizeofSockaddrIpx : Nat := 14

/-- The bits of `flags`. -/
structure SocketFlags where
  filter : Bool := false
  bound : Bool := false
  broadcast : Bool := false
  send : Bool := false
  recv : Bool := false
  reuse : Bool := false
  connected : Bool := false
  recvBcast : Bool := false
  extAddr : Bool := false
  isSpx : Bool := false
  isSpxii : Bool := false
  listening : Bool := false
  connectOk : Bool := false
deriving DecidableEq

structure IpxSocket where
  fd : Nat
  port : UInt16
  flags : SocketFlags
  sPtype : UInt8
  fPtype : UInt8
  addr : SockaddrIpx
  /-- The value of the handle. -/
  sockMut : Nat
  remoteAddr : SockaddrIpx
  /-- The address of the queue, 0 for `NULL`. -/
  recvQueue : Nat
deriving DecidableEq

/-! ## The table, the memory and the handles -/

/-- `enum main_config_encap_type`. -/
inductive EncapType where
  | ipxwrapper
  | pcap
  | dosbox
deriving DecidableEq

structure TableEntry where
  id : Nat
  sock : IpxSocket
deriving DecidableEq

/-- A `struct ipx_recv_queue` that has not been freed. -/
structure LiveQueue where
  refcount : Int
  owner : Nat
deriving DecidableEq

/-- A handle of the mutex of a socket number, opened for the socket numbered `owner`. -/
structure MutexHandle where
  owner : Nat
  socket : UInt16
deriving DecidableEq

structure World where
  ipxEncapType : EncapType
  /-- `sockets`, by descriptor. -/
  sockets : Nat → Option TableEntry
  /-- The queues, by address. -/
  queues : Nat → Option LiveQueue
  /-- The open mutex handles. -/
  mutexHandles : Finmap fun _ : Nat => MutexHandle
  nextId : Nat
  misuse : Bool

/-- No socket was made yet. -/
def World.init (encap : EncapType) : World :=
  ⟨encap, fun _ => none, fun _ => none, ∅, 0, false⟩

namespace World

/-- The open mutex handles, and whose each is. -/
def handles (w : World) (handle : Nat) : Option Nat :=
  (w.mutexHandles.lookup handle).map (·.owner)

/-- `HASH_ADD_INT`. -/
def addSocket (w : World) (sock : IpxSocket) : World :=
  { w with
    sockets := Function.update w.sockets sock.fd (some ⟨w.nextId, sock⟩)
    nextId := w.nextId + 1 }

/-- `*sock` of an entry is written. -/
def store (w : World) (fd : Nat) (e : TableEntry) (sock : IpxSocket) : World :=
  { w with sockets := Function.update w.sockets fd (some { e with sock := sock }) }

/-- The `recv_queue` of a new socket, with `refcount` set to 1. -/
def allocQueue (w : World) (ptr : Nat) : World :=
  { w with queues := Function.update w.queues ptr (some ⟨1, w.nextId⟩) }

/-- `free(recv_queue)`. -/
def freeQueue (w : World) (ptr : Nat) : World :=
  { w with queues := Function.update w.queues ptr none }

/-- `release_recv_queue`, for the socket numbered `id`. -/
def releaseRecvQueue (w : World) (id ptr : Nat) : World :=
  match w.queues ptr with
  | none => { w with misuse := true }
  | some queue =>
      let w := { w with misuse := w.misuse || queue.owner != id }
      if queue.refcount - 1 = 0 then
        w.freeQueue ptr
      else
        { w with
          queues := Function.update w.queues ptr
            (some { queue with refcount := queue.refcount - 1 }) }

/-- The system opens a handle for the socket numbered `id`. -/
def openHandle (w : World) (id handle : Nat) (socket : UInt16) : World :=
  { w with mutexHandles := w.mutexHandles.insert handle ⟨id, socket⟩ }

/-- `DuplicateHandle`, for the socket numbered `id`; it fails if `source` is not open. -/
def duplicateHandle (w : World) (id source handle : Nat) : World :=
  w.openHandle id handle ((w.mutexHandles.lookup source).elim 0 (·.socket))

/-- `CloseHandle`, for the socket numbered `id`. -/
def closeHandle (w : World) (id handle : Nat) : World :=
  { w with
    misuse := w.misuse || w.handles handle != some id
    mutexHandles := w.mutexHandles.erase handle }

end World

/-! ## Results -/

/-- What a call returns. -/
structure CallOut where
  value : Int
  /-- What the function gives to `WSASetLastError`. -/
  error : Option UInt32 := none
  /-- What it puts in `*addr`. -/
  addr : Option SockaddrIpx := none
deriving DecidableEq

namespace CallOut

def ok (value : Int) : CallOut := { value := value }

/-- -1, with an error of an underlying call. -/
def failed : CallOut := { value := -1 }

def fail (error : UInt32) : CallOut := { value := -1, error := some error }

end CallOut

/-! ## `socket` and `closesocket` -/

/-- What the system does in a call of `socket`. -/
structure SocketEnv where
  /-- The memory for the `ipx_socket`, with what is in it. -/
  nsock : Option IpxSocket
  /-- The address of the memory for the `ipx_recv_queue`. -/
  recvQueue : Option Nat
  /-- The error if the critical section cannot be initialised. -/
  criticalSection : Option UInt32
  /-- `r_socket`. -/
  rSocket : Option Nat

/-- What `socket` does for `SOCK_DGRAM`. -/
def socketDgram (protocol : Int) (env : SocketEnv) (w : World) : CallOut × World :=
  match env.nsock with
  | none => (.fail ERROR_OUTOFMEMORY, w)
  | some nsock =>
      match env.recvQueue with
      | none => (.fail ERROR_OUTOFMEMORY, w)
      | some ptr =>
          let w := w.allocQueue ptr
          match env.criticalSection with
          | some error => (.fail error, w.freeQueue ptr)
          | none =>
              match env.rSocket with
              | none => (.failed, w.releaseRecvQueue w.nextId ptr)
              | some fd =>
                  let nsock := { nsock with
                    fd := fd
                    flags := { send := true, recv := true, recvBcast := true }
                    sPtype :=
                      if protocol = 0 then 0 else UInt8.ofInt (protocol - NSPROTO_IPX)
                    recvQueue := ptr }
                  (.ok fd, w.addSocket nsock)

/-- What `socket` does for `SOCK_STREAM`. -/
def socketStream (protocol : Int) (env : SocketEnv) (w : World) : CallOut × World :=
  if w.ipxEncapType ≠ .ipxwrapper then
    (.fail WSAEPROTONOSUPPORT, w)
  else if protocol ≠ 0 ∧ protocol ≠ NSPROTO_SPX ∧ protocol ≠ NSPROTO_SPXII then
    (.fail WSAEPROTONOSUPPORT, w)
  else
    match env.nsock with
    | none => (.fail ERROR_OUTOFMEMORY, w)
    | some nsock =>
        match env.rSocket with
        | none => (.failed, w)
        | some fd =>
            let nsock := { nsock with
              fd := fd
              flags := { isSpx := true, isSpxii := protocol = NSPROTO_SPXII }
              recvQueue := 0 }
            (.ok fd, w.addSocket nsock)

/-- `socket`; another family is left to `r_socket`, which returns `underlying`. -/
def socket (af : UInt16) (type protocol : Int) (env : SocketEnv) (underlying : Int) (w : World) :
    CallOut × World :=
  if af = AF_IPX then
    if type = SOCK_DGRAM then socketDgram protocol env w
    else if type = SOCK_STREAM then socketStream protocol env w
    else (.fail WSAEINVAL, w)
  else
    (.ok underlying, w)

/-- `closesocket`, where `r_closesocket` returns `ret`. -/
def closesocket (fd : Nat) (ret : Int) (w : World) : CallOut × World :=
  match w.sockets fd with
  | none => (.ok ret, w)
  | some e =>
      if ret = -1 then
        (.failed, w)
      else
        let w := if e.sock.recvQueue ≠ 0 then w.releaseRecvQueue e.id e.sock.recvQueue else w
        let w := if e.sock.flags.bound then w.closeHandle e.id e.sock.sockMut else w
        (.ok 0, { w with sockets := Function.update w.sockets fd none })

/-! ## `bind` -/

/-- The outcome of `CreateMutex`. -/
inductive MutexOutcome where
  | failed
  | created
  /-- With `ERROR_ALREADY_EXISTS`. -/
  | existed
deriving DecidableEq

/-- What `CreateMutex` does in a call. -/
structure MutexEnv where
  createMutex : UInt16 → MutexOutcome
  /-- The value of the handle. -/
  handle : Nat

/-- `_open_socket_mutex`, for the socket numbered `id`. -/
def openSocketMutex (env : MutexEnv) (id : Nat) (socket : UInt16) (exclusive : Bool)
    (w : World) : Option Nat × World :=
  match env.createMutex socket with
  | .failed => (none, w)
  | .created => (some env.handle, w.openHandle id env.handle socket)
  | .existed =>
      let w := w.openHandle id env.handle socket
      if exclusive then (none, w.closeHandle id env.handle) else (some env.handle, w)

/-- One pass of the loop of `_complete_bind` over the dynamic socket numbers. -/
def dynamicBindBody (env : MutexEnv) (id : Nat) (sock : IpxSocket) :
    UInt16 × World → Iter (UInt16 × World) (Bool × IpxSocket × World)
  | (socknum, w) =>
      match openSocketMutex env id socknum true w with
      | (some mutex, w) =>
          .done (true,
            { sock with
              addr := { sock.addr with socket := htons socknum }
              sockMut := mutex
              flags := { sock.flags with bound := true } }, w)
      | (none, w) =>
          if socknum = 65535 then .done (false, sock, w) else .next (socknum + 1, w)

/-- `_complete_bind`. -/
def completeBind (env : MutexEnv) (id : Nat) (sock : IpxSocket) (w : World) :
    Bool × IpxSocket × World :=
  if htons sock.addr.socket = 0 then
    match Loop.run (dynamicBindBody env id sock) (65536 - 1024) (1024, w) with
    | .done result => result
    | .next (_, w) => (false, sock, w)
  else
    match openSocketMutex env id (htons sock.addr.socket) (!sock.flags.reuse) w with
    | (some mutex, w) =>
        (true, { sock with sockMut := mutex, flags := { sock.flags with bound := true } }, w)
    | (none, w) => (false, { sock with sockMut := 0 }, w)

/-- `_resolve_bind_address`: the socket with its address filled in. -/
def resolveBindAddress (cache : InterfaceCache) (addr : SockaddrIpx) (sock : IpxSocket) :
    Option IpxSocket :=
  ((getIpxInterfaces cache).find? fun iface =>
    (addr.netnum = iface.ipxNet ∨ addr.netnum = 0) ∧
      (addr.nodenum = iface.ipxNode ∨ addr.nodenum = 0)).map fun iface =>
    { sock with
      addr := { sock.addr with
        netnum := iface.ipxNet
        nodenum := iface.ipxNode
        socket := addr.socket } }

/-- What the system does in a call of `bind`. -/
structure BindEnv where
  cache : InterfaceCache
  mutex : MutexEnv
  /-- `r_bind` succeeds. -/
  rBind : Bool
  /-- The port `r_getsockname` reports. -/
  rGetsockname : Option UInt16

/-- `bind` gives up after `_complete_bind`. -/
def unbind (fd : Nat) (e : TableEntry) (sock : IpxSocket) (w : World) : CallOut × World :=
  (.failed, (w.closeHandle e.id sock.sockMut).store fd e
    { sock with flags := { sock.flags with bound := false } })

/-- `bind` of an IPX socket. -/
def bindSocket (fd : Nat) (e : TableEntry) (addr : SockaddrIpx) (addrlen : Nat) (env : BindEnv)
    (w : World) : CallOut × World :=
  if addrlen < sizeofSockaddrIpx ∨ addr.family ≠ AF_IPX then
    (.fail WSAEFAULT, w)
  else if e.sock.flags.bound then
    (.fail WSAEINVAL, w)
  else
    let sock := { e.sock with addr := { e.sock.addr with family := AF_IPX } }
    match resolveBindAddress env.cache addr sock with
    | none => (.fail WSAEADDRNOTAVAIL, w.store fd e sock)
    | some sock =>
        match completeBind env.mutex e.id sock w with
        | (false, sock, w) => (.fail WSAEADDRINUSE, w.store fd e sock)
        | (true, sock, w) =>
            if ¬ env.rBind then
              unbind fd e sock w
            else
              match env.rGetsockname with
              | none => unbind fd e sock w
              | some port => (.ok 0, w.store fd e { sock with port := port })

/-- `bind`; another descriptor is left to `r_bind`, which returns `underlying`. -/
def bind (fd : Nat) (addr : SockaddrIpx) (addrlen : Nat) (env : BindEnv) (underlying : Int)
    (w : World) : CallOut × World :=
  match w.sockets fd with
  | none => (.ok underlying, w)
  | some e => bindSocket fd e addr addrlen env w

/-! ## `connect` -/

/-- `IPX_CONNECT_TRIES`. -/
def ipxConnectTries : Nat := 3

/-- `MAX_CONNECT_BCAST_ADDRS`. -/
def maxConnectBcastAddrs : Nat := 64

/-- `_connect_bcast_push`. -/
def connectBcastPush (bcastAddrs : List UInt32) (ips : List IpxInterfaceIp) : List UInt32 :=
  ips.foldl
    (fun addrs ip =>
      if ip.bcast ∈ addrs then addrs
      else if addrs.length < maxConnectBcastAddrs then addrs ++ [ip.bcast]
      else addrs)
    bcastAddrs

/-- `struct spxlookup_reply`; `port` as stored. -/
structure SpxlookupReply where
  netnum : Addr32
  nodenum : Addr48
  socket : UInt16
  port : UInt16
deriving DecidableEq

/-- `sizeof(spxlookup_req_t)`. -/
def sizeofSpxlookupReq : Nat := 32

/-- `sizeof(spxlookup_reply_t)`. -/
def sizeofSpxlookupReply : Nat := 32

/-- What happens while `_connect_spx` waits for replies. -/
inductive LookupEvent where
  | selectFailed
  /-- `recvfrom` returns a datagram from `addr`, which is a reply if it has the
  size of one; or `select` found nothing and `recvfrom` fails. -/
  | received (reply : Option SpxlookupReply) (addr : UInt32)

/-- One batch of requests. -/
structure LookupTry where
  /-- Whether the request to the broadcast address numbered `n` can be sent. -/
  sendto : Nat → Bool
  /-- What happens until the batch times out. -/
  events : List LookupEvent

/-- How a batch, or the lookup, ends. -/
inductive LookupOutcome where
  /-- `select` failed, with the lock given up. -/
  | selectFailed
  /-- No request could be sent. -/
  | unreachable
  | noReply
  /-- The address to connect to, and the socket with its local address. -/
  | found (ip : UInt32) (port : UInt16) (sock : IpxSocket)

/-- The loop that waits for a reply. No other call runs meanwhile, so the socket is
still there when the lock is taken again. -/
def awaitReply (cache : InterfaceCache) (ipxaddr : SockaddrIpx) (sock : IpxSocket) :
    List LookupEvent → LookupOutcome
  | [] => .noReply
  | .selectFailed :: _ => .selectFailed
  | .received none _ :: rest => awaitReply cache ipxaddr sock rest
  | .received (some reply) ip :: rest =>
      if reply.netnum = ipxaddr.netnum ∧ reply.nodenum = ipxaddr.nodenum ∧
          reply.socket = ipxaddr.socket then
        if sock.flags.bound then
          .found ip reply.port sock
        else
          match ipxInterfaceBySubnet cache ip with
          | some iface =>
              .found ip reply.port { sock with
                addr := { sock.addr with netnum := iface.ipxNet, nodenum := iface.ipxNode } }
          | none => awaitReply cache ipxaddr sock rest
      else
        awaitReply cache ipxaddr sock rest

/-- The loop over the batches, of which `left` are left; the next is number `i`. -/
def lookupTries (cache : InterfaceCache) (ipxaddr : SockaddrIpx) (sock : IpxSocket)
    (bcastCount : Nat) (tries : Nat → LookupTry) : Nat → Nat → LookupOutcome
  | 0, _ => .noReply
  | left + 1, i =>
      if (List.range bcastCount).any (tries i).sendto then
        match awaitReply cache ipxaddr sock (tries i).events with
        | .noReply => lookupTries cache ipxaddr sock bcastCount tries left (i + 1)
        | outcome => outcome
      else
        .unreachable

/-- The outcome of `r_connect`. -/
inductive ConnectOutcome where
  | connected
  /-- The socket does not block; `select` finds it writable or not. -/
  | wouldBlock (writable : Bool)
  | failed
deriving DecidableEq

/-- What the system does in a call of `connect`. -/
structure ConnectEnv where
  /-- For the implicit `bind` of a datagram socket. -/
  bind : BindEnv
  cache : InterfaceCache
  /-- There is memory for the request. -/
  packet : Bool
  /-- The socket for the lookup can be made, and bound. -/
  lookupFd : Bool
  lookupBind : Bool
  tries : Nat → LookupTry
  rConnect : UInt32 → UInt16 → ConnectOutcome
  rGetsockname : Option UInt16
  mutex : MutexEnv
  /-- All of `spxinit` can be sent. -/
  spxinit : Bool

/-- `_connect_spx` from `CONNECTED` on. -/
def spxConnected (fd : Nat) (e : TableEntry) (sock : IpxSocket) (ipxaddr : SockaddrIpx)
    (env : ConnectEnv) (w : World) : CallOut × World :=
  let sock := { sock with
    flags := { sock.flags with connectOk := true, connected := true }
    remoteAddr := ipxaddr }
  let sendSpxinit : CallOut := if env.spxinit then .ok 0 else .failed
  if sock.flags.bound then
    (sendSpxinit, w.store fd e sock)
  else
    let sock := { sock with addr := { sock.addr with family := AF_IPX } }
    match env.rGetsockname with
    | none => (.failed, w.store fd e sock)
    | some port =>
        match completeBind env.mutex e.id { sock with port := port } w with
        | (false, sock, w) => (.failed, w.store fd e sock)
        | (true, sock, w) => (sendSpxinit, w.store fd e sock)

/-- The broadcast addresses that `_connect_spx` sends its requests to. -/
def connectBcastAddrs (cache : InterfaceCache) (sock : IpxSocket) : List UInt32 :=
  if sock.flags.bound then
    match ipxInterfaceByAddr cache sock.addr.netnum sock.addr.nodenum with
    | some iface => connectBcastPush [] iface.ipaddr
    | none => []
  else
    (getIpxInterfaces cache).foldl (fun addrs iface => connectBcastPush addrs iface.ipaddr) []

/-- `_connect_spx`. -/
def connectSpx (fd : Nat) (e : TableEntry) (ipxaddr : SockaddrIpx) (env : ConnectEnv)
    (w : World) : CallOut × World :=
  let bcastAddrs := connectBcastAddrs env.cache e.sock
  if ipxaddr.family ≠ AF_IPX then
    (.fail WSAEAFNOSUPPORT, w)
  else if bcastAddrs.length = 0 then
    (.fail WSAENETUNREACH, w)
  else if ¬ env.packet then
    (.fail ERROR_OUTOFMEMORY, w)
  else if ¬ (env.lookupFd ∧ env.lookupBind) then
    (.failed, w)
  else
    match lookupTries env.cache ipxaddr e.sock bcastAddrs.length env.tries ipxConnectTries 0 with
    | .selectFailed => (.failed, w)
    | .unreachable => (.fail WSAENETUNREACH, w)
    | .noReply => (.fail WSAENETUNREACH, w)
    | .found ip port sock =>
        match env.rConnect ip port with
        | .connected => spxConnected fd e sock ipxaddr env w
        | .wouldBlock true => spxConnected fd e sock ipxaddr env w
        | .wouldBlock false => (.fail WSAEWOULDBLOCK, w.store fd e sock)
        | .failed => (.failed, w.store fd e sock)

/-- `connect` for a datagram socket. -/
def connectDgram (fd : Nat) (e : TableEntry) (addr : SockaddrIpx) (addrlen : Nat)
    (env : ConnectEnv) (w : World) : CallOut × World :=
  let disconnect := w.store fd e
    { e.sock with flags := { e.sock.flags with connected := false } }
  let connect (e : TableEntry) (w : World) : World := w.store fd e
    { e.sock with remoteAddr := addr, flags := { e.sock.flags with connected := true } }
  if 2 ≤ addrlen ∧ addr.family = AF_UNSPEC then
    (.ok 0, disconnect)
  else if addrlen < sizeofSockaddrIpx then
    (.fail WSAEFAULT, w)
  else if addr.family ≠ AF_IPX then
    (.fail WSAEAFNOSUPPORT, w)
  else if addr.nodenum = 0 then
    (.ok 0, disconnect)
  else if e.sock.flags.bound then
    (.ok 0, connect e w)
  else
    match bind fd ⟨AF_IPX, addr.netnum, 0, 0⟩ sizeofSockaddrIpx env.bind 0 w with
    | (out, w) =>
        if out.value = -1 then
          (.failed, w)
        else
          match w.sockets fd with
          | none => (.failed, w)
          | some e => (.ok 0, connect e w)

/-- `connect`; another descriptor is left to `r_connect`, which returns `underlying`. -/
def connect (fd : Nat) (addr : SockaddrIpx) (addrlen : Nat) (env : ConnectEnv)
    (underlying : Int) (w : World) : CallOut × World :=
  match w.sockets fd with
  | none => (.ok underlying, w)
  | some e =>
      if e.sock.flags.isSpx then
        if addrlen < sizeofSockaddrIpx then (.fail WSAEFAULT, w)
        else if addr.family ≠ AF_IPX then (.fail WSAEAFNOSUPPORT, w)
        else connectSpx fd e addr env w
      else
        connectDgram fd e addr addrlen env w

/-! ## `listen` and `accept` -/

/-- `listen`, where `r_listen` returns `underlying`. -/
def listen (fd : Nat) (underlying : Int) (w : World) : CallOut × World :=
  match w.sockets fd with
  | none => (.ok underlying, w)
  | some e =>
      if ¬ e.sock.flags.isSpx then (.fail WSAEOPNOTSUPP, w)
      else if ¬ e.sock.flags.bound then (.fail WSAEINVAL, w)
      else if e.sock.flags.listening then (.fail WSAEISCONN, w)
      else if underlying = -1 then (.failed, w)
      else
        (.ok 0, w.store fd e { e.sock with flags := { e.sock.flags with listening := true } })

/-- `struct spxinit`. -/
structure Spxinit where
  netnum : Addr32
  nodenum : Addr48
  socket : UInt16
deriving DecidableEq

/-- What the system does in a call of `accept`. -/
structure AcceptEnv where
  /-- The memory for the `ipx_socket`, with what is in it. -/
  nsock : Option IpxSocket
  /-- `r_accept`. -/
  rAccept : Option Nat
  /-- What is received first, if all of it is. -/
  spxinit : Option Spxinit
  /-- The handle that `DuplicateHandle` makes. -/
  duplicate : Option Nat

/-- The new socket of `accept`: `port`, `s_ptype`, `f_ptype` and `recv_queue` are not set. -/
def acceptedSocket (nsock sock : IpxSocket) (fd mutex : Nat) (spxinit : Spxinit) : IpxSocket :=
  { nsock with
    fd := fd
    flags :=
      { isSpx := true, bound := true, connected := true, isSpxii := sock.flags.isSpxii }
    addr := sock.addr
    sockMut := mutex
    remoteAddr := ⟨AF_IPX, spxinit.netnum, spxinit.nodenum, spxinit.socket⟩ }

/-- `accept` on an SPX socket. The descriptor of the new socket is not in the table,
so `closesocket` on it leaves the table as it is. -/
def acceptSpx (sock : IpxSocket) (addr : Bool) (addrlen : Option Nat) (env : AcceptEnv)
    (w : World) : CallOut × World :=
  if addrlen.any (· < sizeofSockaddrIpx) then
    (.fail WSAEFAULT, w)
  else
    match env.nsock with
    | none => (.fail ERROR_OUTOFMEMORY, w)
    | some nsock =>
        match env.rAccept with
        | none => (.failed, w)
        | some fd =>
            match env.spxinit with
            | none => (.fail WSAECONNRESET, w)
            | some spxinit =>
                match env.duplicate with
                | none => (.fail WSAENETDOWN, w)
                | some mutex =>
                    let nsock := acceptedSocket nsock sock fd mutex spxinit
                    ({ value := fd, addr := if addr then some nsock.remoteAddr else none },
                      (w.duplicateHandle w.nextId sock.sockMut mutex).addSocket nsock)

/-- `accept`; another descriptor is left to `r_accept`, which returns `underlying`. -/
def accept (fd : Nat) (addr : Bool) (addrlen : Option Nat) (env : AcceptEnv)
    (underlying : Int) (w : World) : CallOut × World :=
  match w.sockets fd with
  | none => (.ok underlying, w)
  | some e =>
      if e.sock.flags.isSpx then acceptSpx e.sock addr addrlen env w
      else (.fail WSAEOPNOTSUPP, w)

/-! ## Calls -/

/-- A call, and what the system does in it. -/
inductive SocketCall where
  | socket (af : UInt16) (type protocol : Int) (env : SocketEnv)
  | bind (fd : Nat) (addr : SockaddrIpx) (addrlen : Nat) (env : BindEnv)
  | connect (fd : Nat) (addr : SockaddrIpx) (addrlen : Nat) (env : ConnectEnv)
  | listen (fd : Nat)
  | accept (fd : Nat) (addr : Bool) (addrlen : Option Nat) (env : AcceptEnv)
  | closesocket (fd : Nat)

/-- The descriptors, addresses and handles that the system gives out in the call are
not in use, and are not null. -/
def SocketCall.Fresh (w : World) : SocketCall → Prop
  | .socket _ _ _ env =>
      (∀ fd ∈ env.rSocket, w.sockets fd = none) ∧
        ∀ ptr ∈ env.recvQueue, ptr ≠ 0 ∧ w.queues ptr = none
  | .bind _ _ _ env => w.handles env.mutex.handle = none
  | .connect _ _ _ env =>
      w.handles env.mutex.handle = none ∧ w.handles env.bind.mutex.handle = none
  | .accept _ _ _ env =>
      (∀ fd ∈ env.rAccept, w.sockets fd = none) ∧
        ∀ mutex ∈ env.duplicate, w.handles mutex = none
  | .listen _ => True
  | .closesocket _ => True

instance (w : World) : (call : SocketCall) → Decidable (call.Fresh w)
  | .socket _ _ _ _ => inferInstanceAs (Decidable (_ ∧ _))
  | .bind _ _ _ _ => inferInstanceAs (Decidable (_ = _))
  | .connect _ _ _ _ => inferInstanceAs (Decidable (_ ∧ _))
  | .accept _ _ _ _ => inferInstanceAs (Decidable (_ ∧ _))
  | .listen _ => inferInstanceAs (Decidable True)
  | .closesocket _ => inferInstanceAs (Decidable True)

/-- The call is made; `underlying` is what an underlying function returns where the
call leaves it to one. -/
def SocketCall.run (call : SocketCall) (underlying : Int) (w : World) : CallOut × World :=
  match call with
  | .socket af type protocol env => IpxWrapper.socket af type protocol env underlying w
  | .bind fd addr addrlen env => IpxWrapper.bind fd addr addrlen env underlying w
  | .connect fd addr addrlen env => IpxWrapper.connect fd addr addrlen env underlying w
  | .listen fd => IpxWrapper.listen fd underlying w
  | .accept fd addr addrlen env => IpxWrapper.accept fd addr addrlen env underlying w
  | .closesocket fd => IpxWrapper.closesocket fd underlying w

/-- One call; `none` if the system would give out what is in use. -/
def socketStep (input : SocketCall × Int) (w : World) : Option World :=
  if input.1.Fresh w then some (input.1.run input.2 w).2 else none

end IpxWrapper
