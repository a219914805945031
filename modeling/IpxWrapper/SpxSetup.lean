import IpxWrapper.Base.LockThreads
import IpxWrapper.Base.Run
import IpxWrapper.SpxLookup

/-!
# Setting up SPX connections (`winsock.c`, `router.c`)

A server process with a thread that calls `accept` on a listening SPX socket and
with the router thread, which takes the sockets lock to receive and to answer
lookups; and clients, each of which sends its lookups in up to three batches,
connects after a reply, and then sends its `spxinit`.

`accept` waits in the underlying `accept`, and for `spxinit`, with the lock held.
-/

namespace IpxWrapper

open Base LockProg

/-- The threads of the server. -/
inductive Thread where
  | accept
  | router
deriving DecidableEq

/-- How far `_connect_spx` has got in a client. -/
inductive ClientPhase where
  /-- It has this many batches of requests left. -/
  | looking (left : Nat)
  /-- It has sent one, and waits for replies. -/
  | waiting (left : Nat)
  /-- It has got a reply. -/
  | answered
  | connected
  /-- It has sent `spxinit`. -/
  | sent
  /-- It has given up. -/
  | finished
deriving DecidableEq

/-- What the router thread does. -/
inductive RouterPhase where
  /-- `WaitForMultipleObjects`. -/
  | idle
  /-- `recvfrom`, up to `r_recvfrom`. -/
  | receiving (rest : Wrapper Unit)
  /-- The lookup of a client. -/
  | serving (client : Nat) (rest : Wrapper (Option SpxlookupReply))

/-- A server with a listening SPX socket, and what the system does in its call of `accept`. -/
structure Server where
  table : World
  /-- The order of the table. -/
  fds : List Nat
  sharedSocket : Nat
  privateSocket : Nat
  listener : Nat
  addr : Bool
  addrlen : Option Nat
  env : Locked.AcceptingEnv
  underlying : Int
  /-- What each client asks for. -/
  request : Nat → SpxlookupReq
  listens : ∃ e ∈ table.sockets listener, e.sock.flags.isSpx ∧ e.sock.flags.listening
  /-- The router's sockets are no IPX sockets. -/
  shared_free : table.sockets sharedSocket = none
  private_free : table.sockets privateSocket = none
  /-- The system gives out a descriptor that is not in use. -/
  fresh : ∀ nfd ∈ env.rAccept,
    table.sockets nfd = none ∧ nfd ≠ sharedSocket ∧ nfd ≠ privateSocket
  /-- `recvs` has a result for each turn there can be: all but the last receive a byte. -/
  recvs_length : Locked.sizeofSpxinit ≤ env.recvs.length

structure Setup where
  lock : Shared Thread World
  /-- The rest of `accept`, once it was called. -/
  accept : Option (Wrapper CallOut)
  router : RouterPhase
  clients : List ClientPhase
  /-- The clients whose requests have come to the router's socket. -/
  requests : List Nat
  /-- The clients to which replies are on their way. -/
  replies : List Nat
  /-- The clients with a connection that the underlying `accept` has not returned. -/
  backlog : List Nat
  /-- The client of the connection that it has returned. -/
  accepted : Option Nat

inductive SetupInput where
  /-- The thread calls `accept`, or takes its next step in it. -/
  | accept
  /-- The router takes its next step; in `r_recvfrom` it gets the request of a client, or
  nothing. -/
  | router (received : Option Nat)
  /-- A client sends a batch of requests, of which one arrives, or none. -/
  | request (client : Nat) (arrives : Bool)
  | timeout (client : Nat)
  | reply (client : Nat)
  | connect (client : Nat)
  | spxinit (client : Nat)
  /-- `_connect_spx` fails, or finds no reply in any batch. -/
  | giveUp (client : Nat)
  | loseReply (client : Nat)
deriving DecidableEq

/-! ## Steps -/

/-- `accept` is called. -/
def Server.accept (server : Server) : Wrapper CallOut :=
  Locked.accept server.listener server.addr server.addrlen server.env server.underlying

/-- `accept` comes to the underlying function: there is room for the address, and memory for
the new socket. -/
def Server.accepts (server : Server) : Bool :=
  !server.addrlen.any (· < sizeofSockaddrIpx) && server.env.nsock.isSome

/-- A step of the thread that calls `accept`: it waits in the underlying `accept` until
there is a connection, and in `r_recv` until the client has sent `spxinit`. -/
def acceptStep (server : Server) (s : Setup) : Option Setup :=
  match s.accept with
  | none => some { s with accept := some server.accept }
  | some (.enter .rAccept next) =>
      match s.backlog with
      | [] => none
      | client :: rest =>
          some { s with accept := some next, backlog := rest, accepted := some client }
  | some (.enter .rRecv next) =>
      if s.accepted.any fun client => s.clients[client]? = some .sent then
        some { s with accept := some next }
      else
        none
  | some rest =>
      (rest.advance Thread.accept s.lock).map fun after =>
        { s with accept := some after.1, lock := after.2 }

/-- A step of the router. -/
def serveStep (server : Server) (received : Option Nat) (s : Setup) : Option Setup :=
  match s.router with
  | .idle => some { s with router := .receiving (Locked.passOn server.sharedSocket) }
  | .receiving (.ret ()) =>
      match received with
      | none => some { s with router := .idle }
      | some client =>
          if client ∈ s.requests then
            some { s with
              requests := s.requests.erase client
              router := .serving client (Locked.handleSpxlookup server.privateSocket server.fds
                (server.request client)) }
          else
            none
  | .receiving rest =>
      (rest.advance Thread.router s.lock).map fun after =>
        { s with router := .receiving after.1, lock := after.2 }
  | .serving client (.ret reply) =>
      some { s with
        router := .idle
        replies := if reply.isSome then client :: s.replies else s.replies }
  | .serving client rest =>
      (rest.advance Thread.router s.lock).map fun after =>
        { s with router := .serving client after.1, lock := after.2 }

/-- The phase of a client is written. -/
def Setup.setClient (s : Setup) (client : Nat) (phase : ClientPhase) : Setup :=
  { s with clients := s.clients.set client phase }

def setupStep (server : Server) (input : SetupInput) (s : Setup) : Option Setup :=
  match input with
  | .accept => acceptStep server s
  | .router received => serveStep server received s
  | .request client arrives =>
      match s.clients[client]? with
      | some (.looking (left + 1)) =>
          some { s.setClient client (.waiting left) with
            requests := if arrives then client :: s.requests else s.requests }
      | _ => none
  | .timeout client =>
      match s.clients[client]? with
      | some (.waiting left) => some (s.setClient client (.looking left))
      | _ => none
  | .reply client =>
      match s.clients[client]? with
      | some (.waiting _) =>
          if client ∈ s.replies then
            some { s.setClient client .answered with replies := s.replies.erase client }
          else
            none
      | _ => none
  | .connect client =>
      if s.clients[client]? = some .answered then
        some { s.setClient client .connected with backlog := s.backlog ++ [client] }
      else
        none
  | .spxinit client =>
      if s.clients[client]? = some .connected then some (s.setClient client .sent) else none
  | .giveUp client =>
      match s.clients[client]? with
      | none => none
      | some .sent => none
      | some .finished => none
      | some _ => some (s.setClient client .finished)
  | .loseReply client =>
      if client ∈ s.replies then some { s with replies := s.replies.erase client } else none

/-- The server listens, and each of `count` clients begins to connect. -/
def Server.start (server : Server) (count : Nat) : Setup :=
  { lock := ⟨none, server.table⟩
    accept := none
    router := .idle
    clients := List.replicate count (.looking ipxConnectTries)
    requests := []
    replies := []
    backlog := []
    accepted := none }

/-- The steps of a run. -/
def setupMoves (server : Server) (count : Nat) (inputs : List SetupInput) :
    List (Move SetupInput Setup) :=
  moves (setupStep server) inputs (server.start count)

/-! ## Deadlocks -/

/-- `accept` has returned. -/
def Setup.completed (s : Setup) : Bool :=
  match s.accept with
  | some (.ret _) => true
  | _ => false

/-- The thread waits in an underlying function, which cannot return, with the lock held. -/
def Setup.blocksRouter (s : Setup) : Bool :=
  decide (0 < depthOf Thread.accept s.lock) &&
    match s.accept with
    | some (.enter .rAccept _) => s.backlog.isEmpty
    | some (.enter .rRecv _) => !s.accepted.any fun client => s.clients[client]? = some .sent
    | _ => false

/-- Some step is enabled unless `accept` has returned, and no thread waits with the lock
that the router needs. -/
structure Live (server : Server) (s : Setup) : Prop where
  moves : s.completed ∨ ∃ input s', setupStep server input s = some s'
  unblocked : s.blocksRouter = false

end IpxWrapper
