import IpxWrapper.Base.Run
import IpxWrapper.LockedConnect
import IpxWrapper.SpxLookup

/-!
# SPX over a network (`winsock.c`, `router.c`)

Any number of processes, on any number of hosts, make calls on their sockets. A call of
`_connect_spx` sends requests over UDP and connects over TCP to where a reply says.

A step is what a thread does while it has the sockets lock: a whole call, or in
`_connect_spx` what comes between two waits for a reply. What was sent over UDP stays
on the network, so that it may arrive late, more than once, in any order or not at all.
Which host has an IP address is told by `hostOf`.
-/

namespace IpxWrapper

open Base LockProg

/-! ## Processes -/

/-- The state of an underlying TCP socket. -/
inductive TcpState where
  | unbound
  | bound (port : UInt16)
  | listening (port : UInt16)
  | connected
deriving DecidableEq

/-- A process that uses the library. -/
structure Process where
  host : Nat
  world : World
  /-- The underlying sockets, by descriptor. -/
  tcp : Nat → TcpState

/-- `connect` on an SPX socket, which is a `Lookup`. -/
def SocketCall.connectsSpx (w : World) : SocketCall → Bool
  | .connect fd _ _ _ => (w.sockets fd).any (·.sock.flags.isSpx)
  | _ => false

/-- What a call that returns `out` does to the TCP sockets, if the system allows it: only an
unbound socket can be bound, and gets `port`; only a bound one can listen; and only one that
listens has connections. -/
def SocketCall.tcpAfter (w : World) (out : CallOut) (port : UInt16) (tcp : Nat → TcpState) :
    SocketCall → Option (Nat → TcpState)
  | .socket _ _ _ env =>
      match env.rSocket with
      | none => some tcp
      | some fd => some (Function.update tcp fd .unbound)
  | .bind fd _ _ env =>
      -- An error that the function does not set is that of an underlying call.
      if (w.sockets fd).any (·.sock.flags.isSpx) ∧ out.error = none ∧ env.rBind then
        if tcp fd = .unbound ∧ env.rGetsockname.all (· = port) then
          some (Function.update tcp fd (.bound port))
        else
          none
      else
        some tcp
  | .connect .. => some tcp
  | .listen fd =>
      if (w.sockets fd).any (·.sock.flags.isSpx) ∧ out.value = 0 then
        match tcp fd with
        | .bound port => some (Function.update tcp fd (.listening port))
        | _ => none
      else
        some tcp
  | .accept fd _ _ env =>
      if (w.sockets fd).any (·.sock.flags.isSpx) ∧ out.value ≠ -1 then
        match tcp fd, env.rAccept with
        | .listening _, some nfd => some (Function.update tcp nfd .connected)
        | _, _ => none
      else
        some tcp
  | .closesocket _ => some tcp

/-- A call, other than `connect` on an SPX socket, and what it returns. -/
def Process.call (call : SocketCall) (underlying : Int) (port : UInt16) (p : Process) :
    Option (CallOut × Process) :=
  if call.Fresh p.world ∧ ¬ call.connectsSpx p.world then
    match call.run underlying p.world with
    | (out, w) =>
        (call.tcpAfter p.world out port p.tcp).map fun tcp =>
          (out, { p with world := w, tcp := tcp })
  else
    none

/-! ## Lookups -/

/-- A call of `_connect_spx` that has its socket for the lookup. -/
structure Lookup where
  proc : Nat
  fd : Nat
  /-- The number of the socket. -/
  id : Nat
  ipxaddr : SockaddrIpx
  /-- The port that `lookup_fd` is bound to. -/
  port : UInt16
  /-- The batches of requests that are left. -/
  left : Nat
  returned : Bool
deriving DecidableEq

def Lookup.req (lookup : Lookup) : SpxlookupReq :=
  ⟨lookup.ipxaddr.netnum, lookup.ipxaddr.nodenum, lookup.ipxaddr.socket⟩

/-- A request that was sent from `ip` and `port`. -/
structure LookupRequest where
  req : SpxlookupReq
  ip : UInt32
  port : UInt16
deriving DecidableEq

/-- A reply that was sent from `ip` to `toIp` and `toPort`. -/
structure LookupAnswer where
  reply : SpxlookupReply
  ip : UInt32
  toIp : UInt32
  toPort : UInt16
  /-- The process that sent it, and the descriptor and the number of the socket it is for. -/
  proc : Nat
  fd : Nat
  id : Nat
deriving DecidableEq

/-- The requests of one batch: one is sent from each of the addresses. -/
def Lookup.batch (lookup : Lookup) (ips : List UInt32) : List LookupRequest :=
  ips.map fun ip => ⟨lookup.req, ip, lookup.port⟩

/-- A connection from a socket whose `connect` has returned 0. -/
structure SpxConnection where
  client : Nat
  clientFd : Nat
  clientId : Nat
  /-- The address that was asked for. -/
  ipxaddr : SockaddrIpx
  server : Nat
  listenerFd : Nat
  listenerId : Nat
  /-- The address of the listening socket. -/
  listenerAddr : SockaddrIpx
  /-- The process, the descriptor and the number of the socket that the reply was for. -/
  replier : Nat × Nat × Nat
  spxinit : Spxinit
  /-- The descriptor and the number of the socket that `accept` has returned. -/
  accepted : Option (Nat × Nat)
deriving DecidableEq

structure SpxNet where
  procs : List Process
  lookups : List Lookup
  /-- Every request that was sent. -/
  requests : List LookupRequest
  /-- Every reply that was sent. -/
  answers : List LookupAnswer
  connections : List SpxConnection

/-- What wakes a lookup up. -/
inductive WakeEvent where
  | selectFailed
  /-- `recvfrom` gets the reply with this number, or nothing that has the size of one. -/
  | received (answer : Option Nat)
deriving DecidableEq

inductive SpxInput where
  /-- `port` is for `bind`. -/
  | call (proc : Nat) (call : SocketCall) (underlying : Int) (port : UInt16)
  /-- `connect` on an SPX socket, up to the wait for a reply to its first batch of requests,
  which it can send from `ips`; `lookup_fd` gets `port`. -/
  | connect (proc fd : Nat) (addr : SockaddrIpx) (addrlen : Nat) (cache : InterfaceCache)
      (port : UInt16) (ips : List UInt32)
  /-- The router gets a request, and may reply from `ip`. -/
  | serve (proc request : Nat) (fds : List Nat) (ip : UInt32)
  /-- A lookup wakes up. If it connects it may be to the descriptor of a process, or to what
  is not one; if it goes on waiting it may be time for the next batch of requests. -/
  | wake (lookup : Nat) (event : WakeEvent) (env : ConnectEnv) (listener : Option (Nat × Nat))
      (batch : Option (List UInt32))
  /-- `accept` returns the connection. -/
  | accept (proc fd : Nat) (addr : Bool) (addrlen : Option Nat) (env : AcceptEnv)
      (connection : Nat)

/-! ## Steps -/

/-- The first socket in the table that the request is for, with its descriptor. -/
def lookupListener (fds : List Nat) (req : SpxlookupReq) (w : World) : Option (Nat × TableEntry) :=
  fds.findSome? fun fd =>
    match w.sockets fd with
    | none => none
    | some e => if listensFor req e.sock then some (fd, e) else none

/-- `_connect_spx` from `r_connect` on. -/
def spxConnect (fd : Nat) (e : TableEntry) (sock : IpxSocket) (ipxaddr : SockaddrIpx)
    (ip : UInt32) (port : UInt16) (env : ConnectEnv) (w : World) : CallOut × World :=
  match env.rConnect ip port with
  | .connected => spxConnected fd e sock ipxaddr env w
  | .wouldBlock true => spxConnected fd e sock ipxaddr env w
  | .wouldBlock false => (.fail WSAEWOULDBLOCK, w.store fd e sock)
  | .failed => (.failed, w.store fd e sock)

/-- The connection is there. -/
def ConnectOutcome.succeeds : ConnectOutcome → Bool
  | .connected => true
  | .wouldBlock writable => writable
  | .failed => false

/-- What the socket of a connection sends as `spxinit`. -/
def spxinitOf (addr : SockaddrIpx) : Spxinit := ⟨addr.netnum, addr.nodenum, addr.socket⟩

namespace SpxNet

variable (hostOf : UInt32 → Option Nat)

def setProcess (s : SpxNet) (proc : Nat) (p : Process) : SpxNet :=
  { s with procs := s.procs.set proc p }

def setLookup (s : SpxNet) (k : Nat) (lookup : Lookup) : SpxNet :=
  { s with lookups := s.lookups.set k lookup }

/-- The lookup returns. -/
def finish (s : SpxNet) (k : Nat) (lookup : Lookup) : SpxNet :=
  s.setLookup k { lookup with returned := true }

/-- What a lookup does when it wakes up. -/
inductive Woken where
  /-- The system does not do that. -/
  | impossible
  | returns
  | waits
  /-- It has taken a reply, and calls `r_connect`. -/
  | connects (a : LookupAnswer) (p : Process) (e : TableEntry) (sock : IpxSocket) (ip : UInt32)
      (port : UInt16)

/-- What a lookup does when it wakes up, from `r_select` to `r_connect`. -/
def woken (s : SpxNet) (lookup : Lookup) (event : WakeEvent) (cache : InterfaceCache) : Woken :=
  match s.procs[lookup.proc]? with
  | none => .impossible
  | some p =>
      match event with
      | .selectFailed => .returns
      | .received answer =>
          match p.world.sockets lookup.fd with
          | none => .returns
          | some e =>
              if e.id ≠ lookup.id then
                .returns
              else
                match answer with
                | none => .waits
                | some i =>
                    match s.answers[i]? with
                    | none => .impossible
                    | some a =>
                        if hostOf a.toIp = some p.host ∧ a.toPort = lookup.port then
                          match awaitReply cache lookup.ipxaddr e.sock
                              [.received (some a.reply) a.ip] with
                          | .found ip port sock => .connects a p e sock ip port
                          | _ => .waits
                        else
                          .impossible

/-- The socket that a TCP connection to `ip` and `port` is made to. -/
def listener (s : SpxNet) (server fd : Nat) (ip : UInt32) (port : UInt16) : Option TableEntry :=
  match s.procs[server]? with
  | none => none
  | some p =>
      if hostOf ip = some p.host ∧ p.tcp fd = .listening port then
        (p.world.sockets fd).filter (·.sock.flags.isSpx)
      else
        none

/-- The connection that `_connect_spx` leaves where it returns 0. -/
def connection (s : SpxNet) (lookup : Lookup) (a : LookupAnswer) (ip : UInt32) (port : UInt16)
    (w : World) (target : Nat × Nat) : Option SpxConnection :=
  match s.listener hostOf target.1 target.2 ip port with
  | none => none
  | some l =>
      (w.sockets lookup.fd).map fun e =>
        { client := lookup.proc
          clientFd := lookup.fd
          clientId := lookup.id
          ipxaddr := lookup.ipxaddr
          server := target.1
          listenerFd := target.2
          listenerId := l.id
          listenerAddr := l.sock.addr
          replier := (a.proc, a.fd, a.id)
          spxinit := spxinitOf e.sock.addr
          accepted := none }

/-- `r_connect` is called; a socket that listens or is connected cannot be. -/
def connects (s : SpxNet) (lookup : Lookup) (a : LookupAnswer) (p : Process) (e : TableEntry)
    (sock : IpxSocket) (ip : UInt32) (port : UInt16) (env : ConnectEnv)
    (target : Option (Nat × Nat)) : Option SpxNet :=
  match spxConnect lookup.fd e sock lookup.ipxaddr ip port env p.world with
  | (out, w) =>
      if (env.rConnect ip port).succeeds then
        match p.tcp lookup.fd with
        | .listening _ => none
        | .connected => none
        | _ =>
            let after := s.setProcess lookup.proc
              { p with world := w, tcp := Function.update p.tcp lookup.fd .connected }
            match target with
            | none => some after
            | some target =>
                (s.connection hostOf lookup a ip port w target).map fun connection =>
                  if out.value = 0 then
                    { after with connections := s.connections ++ [connection] }
                  else
                    after
      else
        some (s.setProcess lookup.proc { p with world := w })

/-- It is time for the next batch of requests, if there is one left and one can be sent. -/
def nextBatch (s : SpxNet) (k : Nat) (lookup : Lookup) (ips : List UInt32) : SpxNet :=
  match lookup.left with
  | 0 => s.finish k lookup
  | left + 1 =>
      if ips = [] then
        s.finish k lookup
      else
        { s.setLookup k { lookup with left := left } with
          requests := s.requests ++ lookup.batch ips }

/-- Process `p` has the addresses. -/
def sendsFrom (p : Process) (ips : List UInt32) : Bool :=
  ips.all fun ip => hostOf ip = some p.host

def connect (s : SpxNet) (proc fd : Nat) (addr : SockaddrIpx) (addrlen : Nat)
    (cache : InterfaceCache) (port : UInt16) (ips : List UInt32) : Option SpxNet :=
  match s.procs[proc]? with
  | none => none
  | some p =>
      match p.world.sockets fd with
      | none => none
      | some e =>
          if ¬ e.sock.flags.isSpx ∨ ¬ sendsFrom hostOf p ips then
            none
          else if addrlen < sizeofSockaddrIpx ∨ addr.family ≠ AF_IPX ∨
              (connectBcastAddrs cache e.sock).length = 0 ∨ ips = [] then
            some s
          else
            let lookup : Lookup := ⟨proc, fd, e.id, addr, port, ipxConnectTries - 1, false⟩
            some { s with
              lookups := s.lookups ++ [lookup]
              requests := s.requests ++ lookup.batch ips }

def serve (s : SpxNet) (proc request : Nat) (fds : List Nat) (ip : UInt32) : Option SpxNet :=
  match s.procs[proc]?, s.requests[request]? with
  | some p, some q =>
      if hostOf ip = some p.host then
        match lookupReply fds q.req p.world, lookupListener fds q.req p.world with
        | some reply, some (fd, e) =>
            some { s with answers := s.answers ++ [⟨reply, ip, q.ip, q.port, proc, fd, e.id⟩] }
        | _, _ => some s
      else
        none
  | _, _ => none

def wake (s : SpxNet) (k : Nat) (event : WakeEvent) (env : ConnectEnv)
    (target : Option (Nat × Nat)) (batch : Option (List UInt32)) : Option SpxNet :=
  match s.lookups[k]? with
  | none => none
  | some lookup =>
      if lookup.returned then
        none
      else
        match s.woken hostOf lookup event env.cache with
        | .impossible => none
        | .returns => some (s.finish k lookup)
        | .waits =>
            match batch with
            | none => some s
            | some ips =>
                if s.procs[lookup.proc]?.any (sendsFrom hostOf · ips) then
                  some (s.nextBatch k lookup ips)
                else
                  none
        | .connects a p e sock ip port =>
            if p.world.handles env.mutex.handle = none then
              (s.connects hostOf lookup a p e sock ip port env target).map (·.finish k lookup)
            else
              none

def accept (s : SpxNet) (proc fd : Nat) (addr : Bool) (addrlen : Option Nat) (env : AcceptEnv)
    (k : Nat) : Option SpxNet :=
  match s.procs[proc]?, s.connections[k]? with
  | some p, some c =>
      if c.server = proc ∧ c.listenerFd = fd ∧ (p.world.sockets fd).any (·.id = c.listenerId) ∧
          c.accepted = none ∧ env.spxinit = some c.spxinit then
        match p.call (.accept fd addr addrlen env) 0 0, env.rAccept with
        | some (out, p'), some nfd =>
            if out.value = -1 then
              none
            else
              some { s.setProcess proc p' with
                connections :=
                  s.connections.set k { c with accepted := some (nfd, p.world.nextId) } }
        | _, _ => none
      else
        none
  | _, _ => none

end SpxNet

def spxStep (hostOf : UInt32 → Option Nat) (input : SpxInput) (s : SpxNet) : Option SpxNet :=
  match input with
  | .call proc call underlying port =>
      match s.procs[proc]? with
      | none => none
      | some p => (p.call call underlying port).map fun after => s.setProcess proc after.2
  | .connect proc fd addr addrlen cache port ips =>
      s.connect hostOf proc fd addr addrlen cache port ips
  | .serve proc request fds ip => s.serve hostOf proc request fds ip
  | .wake lookup event env listener batch => s.wake hostOf lookup event env listener batch
  | .accept proc fd addr addrlen env connection => s.accept proc fd addr addrlen env connection

/-- Processes on these hosts that have made no calls. -/
def SpxNet.start (hosts : List Nat) : SpxNet where
  procs := hosts.map fun host => ⟨host, .init .ipxwrapper, fun _ => .unbound⟩
  lookups := []
  requests := []
  answers := []
  connections := []

/-- The steps of a run. -/
def spxMoves (hostOf : UInt32 → Option Nat) (hosts : List Nat) (inputs : List SpxInput) :
    List (Move SpxInput SpxNet) :=
  moves (spxStep hostOf) inputs (.start hosts)

end IpxWrapper
