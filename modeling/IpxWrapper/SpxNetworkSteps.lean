import IpxWrapper.SpxProcess

/-!
# What a step of the network can do

`SpxEffect` lists what a step may leave, with what the code has tested; from it follow
the invariants of the processes, and of whoever knows a settled socket by its process,
descriptor and number (`Held`).
-/

namespace IpxWrapper

open Base LockProg

/-! ## Replies -/

section Replies

variable {w : World} {fd : Nat} {e : TableEntry} {sock : IpxSocket} {req : SpxlookupReq}

/-- The socket that the router replies for is the first that it finds. -/
theorem lookupReply_eq (fds : List Nat) (req : SpxlookupReq) (w : World) :
    lookupReply fds req w = (lookupListener fds req w).map fun found =>
      ⟨req.netnum, req.nodenum, req.socket, found.2.sock.port⟩ := by
  unfold lookupReply lookupListener World.inOrder
  induction fds with
  | nil => rfl
  | cons fd rest ih =>
      rw [List.filterMap_cons, List.findSome?_cons]
      rcases w.sockets fd with _ | e
      · exact ih
      · dsimp only
        rw [List.find?_cons]
        cases listensFor req e.sock with
        | true => rfl
        | false => exact ih

theorem lookupListener_some {fds : List Nat} (found : lookupListener fds req w = some (fd, e)) :
    w.sockets fd = some e ∧ listensFor req e.sock = true := by
  unfold lookupListener at found
  obtain ⟨fd', -, here⟩ := List.exists_of_findSome?_eq_some found
  split at here
  case h_1 => cases here
  case h_2 e' at_fd =>
    split at here
    case isTrue listens =>
      obtain ⟨rfl, rfl⟩ := Prod.mk.inj (Option.some.inj here)
      exact ⟨at_fd, listens⟩
    case isFalse => cases here

/-- The address is the one that was asked for. -/
structure AsksFor (netnum : Addr32) (nodenum : Addr48) (socket : UInt16) (addr : SockaddrIpx) :
    Prop where
  netnum : netnum = addr.netnum ∨ netnum = zeroNet
  nodenum : nodenum = addr.nodenum
  socket : socket = addr.socket

theorem listensFor_iff : listensFor req sock = true ↔
    sock.flags.isSpx = true ∧ sock.flags.listening = true ∧
      AsksFor req.netnum req.nodenum req.socket sock.addr := by
  unfold listensFor
  rw [decide_eq_true_iff]
  exact ⟨fun ⟨isSpx, listening, netnum, nodenum, socket⟩ =>
      ⟨isSpx, listening, netnum, nodenum, socket⟩,
    fun ⟨isSpx, listening, asks⟩ => ⟨isSpx, listening, asks.netnum, asks.nodenum, asks.socket⟩⟩

/-- A reply that `_connect_spx` takes: it is for the address that was asked for, and a bound
socket keeps its own. -/
structure TakesReply (ipxaddr : SockaddrIpx) (reply : SpxlookupReply) (sock sock' : IpxSocket) :
    Prop where
  netnum : reply.netnum = ipxaddr.netnum
  nodenum : reply.nodenum = ipxaddr.nodenum
  socket : reply.socket = ipxaddr.socket
  keeps : ∃ netnum nodenum,
    sock' = { sock with addr := { sock.addr with netnum := netnum, nodenum := nodenum } }
  bound : sock.flags.bound = true → sock' = sock

theorem awaitReply_received {cache : InterfaceCache} {ipxaddr : SockaddrIpx}
    {reply : SpxlookupReply} {from_ ip : UInt32} {port : UInt16} {sock' : IpxSocket}
    (found : awaitReply cache ipxaddr sock [.received (some reply) from_] = .found ip port sock') :
    ip = from_ ∧ port = reply.port ∧ TakesReply ipxaddr reply sock sock' := by
  simp only [awaitReply] at found
  split at found
  case isTrue same =>
    obtain ⟨netnum, nodenum, socket⟩ := same
    split at found
    · obtain ⟨rfl, rfl, rfl⟩ := LookupOutcome.found.inj found
      exact ⟨rfl, rfl, netnum, nodenum, socket, ⟨_, _, rfl⟩, fun _ => rfl⟩
    case isFalse unbound =>
      split at found
      · obtain ⟨rfl, rfl, rfl⟩ := LookupOutcome.found.inj found
        exact ⟨rfl, rfl, netnum, nodenum, socket, ⟨_, _, rfl⟩, fun bound => absurd bound unbound⟩
      · cases found
  case isFalse => cases found

end Replies

/-! ## Connecting -/

section Connecting

variable {hostOf : UInt32 → Option Nat} {s : SpxNet} {p : Process} {w : World} {e : TableEntry}
  {sock : IpxSocket} {lookup : Lookup} {ip : UInt32} {port : UInt16} {ipxaddr : SockaddrIpx}
  {env : ConnectEnv}

/-- A lookup calls `r_connect` after the reply `a`. -/
structure Reaches (hostOf : UInt32 → Option Nat) (s : SpxNet) (lookup : Lookup)
    (a : LookupAnswer) (p : Process) (e : TableEntry) (sock : IpxSocket) : Prop where
  at_proc : s.procs[lookup.proc]? = some p
  at_fd : p.world.sockets lookup.fd = some e
  id : e.id = lookup.id
  host : hostOf a.toIp = some p.host
  port : a.toPort = lookup.port
  takes : TakesReply lookup.ipxaddr a.reply e.sock sock

theorem woken_connects {event : WakeEvent} {cache : InterfaceCache}
    {a : LookupAnswer} (woken : s.woken hostOf lookup event cache = .connects a p e sock ip port) :
    ∃ i, event = .received (some i) ∧ s.answers[i]? = some a ∧ ip = a.ip ∧ port = a.reply.port ∧
      Reaches hostOf s lookup a p e sock := by
  unfold SpxNet.woken at woken
  rcases at_proc : s.procs[lookup.proc]? with _ | p'
  · rw [at_proc] at woken
    cases woken
  rw [at_proc] at woken
  rcases event with _ | answer
  · cases woken
  dsimp only at woken
  rcases at_fd : p'.world.sockets lookup.fd with _ | e'
  · rw [at_fd] at woken
    cases woken
  rw [at_fd] at woken
  dsimp only at woken
  split at woken
  · cases woken
  case isFalse id =>
    rcases answer with _ | i
    · cases woken
    dsimp only at woken
    rcases at_i : s.answers[i]? with _ | a'
    · rw [at_i] at woken
      cases woken
    rw [at_i] at woken
    dsimp only at woken
    split at woken
    case isFalse => cases woken
    case isTrue endpoint =>
      split at woken
      case h_2 => cases woken
      case h_1 ip' port' sock' found =>
        obtain ⟨rfl, rfl, takes⟩ := awaitReply_received found
        obtain ⟨rfl, rfl, rfl, rfl, rfl, rfl⟩ := SpxNet.Woken.connects.inj woken
        exact ⟨i, rfl, at_i, rfl, rfl, at_proc, at_fd, not_not.mp id, endpoint.1, endpoint.2,
          takes⟩

/-- The socket of a client once its TCP socket is connected; `out` is what `connect` returns. -/
structure Connects (ipxaddr : SockaddrIpx) (before : IpxSocket) (out : CallOut)
    (sock : IpxSocket) : Prop where
  isSpx : sock.flags.isSpx = before.flags.isSpx
  listening : sock.flags.listening = before.flags.listening
  bound : out.value = 0 → sock.flags.bound = true
  connected : sock.flags.connected = true
  remoteAddr : sock.remoteAddr = ipxaddr

theorem spxConnected_table (fd : Nat) (e : TableEntry) (sock : IpxSocket)
    (ipxaddr : SockaddrIpx) (fresh : w.handles env.mutex.handle = none) :
    ∃ sock', (spxConnected fd e sock ipxaddr env w).2.sockets =
        Function.update w.sockets fd (some { e with sock := sock' }) ∧
      (spxConnected fd e sock ipxaddr env w).2.nextId = w.nextId ∧
      Connects ipxaddr sock (spxConnected fd e sock ipxaddr env w).1 sock' := by
  unfold spxConnected
  dsimp only
  split
  case isTrue bound => exact ⟨_, rfl, rfl, rfl, rfl, fun _ => bound, rfl, rfl⟩
  case isFalse =>
    rcases env.rGetsockname with _ | port
    · exact ⟨_, rfl, rfl, rfl, rfl, fun returned => (by cases returned), rfl, rfl⟩
    · dsimp only
      generalize unbound : IpxSocket.mk _ _ _ _ _ _ _ _ _ = sock₁
      rcases completeBind_cases e.id sock₁ fresh with
        ⟨sockMut, failed⟩ | ⟨addr', completed, -⟩
      · rw [failed, ← unbound]
        exact ⟨_, rfl, rfl, rfl, rfl, fun returned => (by cases returned), rfl, rfl⟩
      · rw [completed, ← unbound]
        exact ⟨_, rfl, rfl, rfl, rfl, fun _ => rfl, rfl, rfl⟩

theorem spxConnect_of_succeeds {fd : Nat} (succeeds : (env.rConnect ip port).succeeds = true) :
    spxConnect fd e sock ipxaddr ip port env w = spxConnected fd e sock ipxaddr env w := by
  unfold spxConnect
  rcases outcome : env.rConnect ip port with _ | ⟨_ | _⟩ | _
  · rfl
  · rw [outcome] at succeeds
    cases succeeds
  · rfl
  · rw [outcome] at succeeds
    cases succeeds

theorem spxConnect_of_fails {fd : Nat} (fails : ¬ (env.rConnect ip port).succeeds = true) :
    (spxConnect fd e sock ipxaddr ip port env w).2 = w.store fd e sock := by
  unfold spxConnect
  rcases outcome : env.rConnect ip port with _ | ⟨_ | _⟩ | _
  · rw [outcome] at fails
    exact absurd rfl fails
  · rfl
  · rw [outcome] at fails
    exact absurd rfl fails
  · rfl

/-- `connectSpx` goes on in the same way once its lookup has found an address. -/
theorem connectSpx_of_found {fd : Nat} (family : ipxaddr.family = AF_IPX)
    (somewhere : (connectBcastAddrs env.cache e.sock).length ≠ 0) (packet : env.packet = true)
    (lookupFd : env.lookupFd = true ∧ env.lookupBind = true)
    (found : lookupTries env.cache ipxaddr e.sock (connectBcastAddrs env.cache e.sock).length
      env.tries ipxConnectTries 0 = .found ip port sock) :
    connectSpx fd e ipxaddr env w = spxConnect fd e sock ipxaddr ip port env w := by
  unfold connectSpx
  dsimp only
  rw [if_neg (not_not_intro family), if_neg somewhere, if_neg (not_not_intro packet),
    if_neg (not_not_intro lookupFd), found]
  rfl

/-- The lookup's TCP socket is connected. -/
theorem ProcessInv.connected (inv : ProcessInv p) (at_fd : p.world.sockets lookup.fd = some e)
    (keeps : ∃ netnum nodenum, sock =
      { e.sock with addr := { e.sock.addr with netnum := netnum, nodenum := nodenum } })
    (fresh : p.world.handles env.mutex.handle = none)
    (idle : ∀ port, p.tcp lookup.fd ≠ .listening port) (unused : p.tcp lookup.fd ≠ .connected)
    (ipxaddr : SockaddrIpx) :
    ProcessStep p
      { p with
        world := (spxConnected lookup.fd e sock ipxaddr env p.world).2
        tcp := Function.update p.tcp lookup.fd .connected } := by
  obtain ⟨netnum, nodenum, rfl⟩ := keeps
  obtain ⟨sock', sockets, nextId, connects⟩ := spxConnected_table lookup.fd e
    { e.sock with addr := { e.sock.addr with netnum := netnum, nodenum := nodenum } } ipxaddr fresh
  refine inv.write at_fd rfl sockets nextId rfl (fun isSpx => ?_)
    ⟨connects.isSpx, fun settled => ?_⟩
  · have agrees := inv.agrees lookup.fd e at_fd (connects.isSpx.symm.trans isSpx)
    refine ⟨fun listening => ?_, fun _ => nofun, fun _ _ => Or.inr rfl⟩
    have state := (agrees.listening (connects.listening.symm.trans listening)).2
    exact absurd state (idle _)
  · rcases settled.tcp with ⟨port, listening⟩ | connected
    · exact absurd listening (idle port)
    · exact absurd connected unused

/-- The lookup's TCP socket is not connected. -/
theorem ProcessInv.not_connected (inv : ProcessInv p)
    (at_fd : p.world.sockets lookup.fd = some e)
    (keeps : ∃ netnum nodenum, sock =
      { e.sock with addr := { e.sock.addr with netnum := netnum, nodenum := nodenum } })
    (bound : e.sock.flags.bound = true → sock = e.sock) :
    ProcessStep p { p with world := p.world.store lookup.fd e sock } := by
  obtain ⟨netnum, nodenum, same⟩ := keeps
  refine inv.write at_fd rfl rfl rfl (Function.update_eq_self lookup.fd p.tcp).symm
    (fun isSpx => ?_) ⟨by rw [same], fun settled => ⟨bound settled.bound, rfl⟩⟩
  subst same
  have agrees := inv.agrees lookup.fd e at_fd isSpx
  exact ⟨agrees.listening, agrees.listens, agrees.bound⟩

end Connecting

/-! ## Steps of the network -/

/-- Both are states of one call of `_connect_spx`. -/
structure SameLookup (lookup lookup' : Lookup) : Prop where
  proc : lookup'.proc = lookup.proc
  fd : lookup'.fd = lookup.fd
  id : lookup'.id = lookup.id
  ipxaddr : lookup'.ipxaddr = lookup.ipxaddr
  port : lookup'.port = lookup.port

/-- The router of process `p` sends `a` as the reply to `q`, for the socket of `e`. -/
structure Replies (hostOf : UInt32 → Option Nat) (s : SpxNet) (q : LookupRequest)
    (a : LookupAnswer) (p : Process) (e : TableEntry) : Prop where
  at_proc : s.procs[a.proc]? = some p
  host : hostOf a.ip = some p.host
  at_fd : p.world.sockets a.fd = some e
  id : e.id = a.id
  isSpx : e.sock.flags.isSpx = true
  listening : e.sock.flags.listening = true
  asks : AsksFor q.req.netnum q.req.nodenum q.req.socket e.sock.addr
  reply : a.reply = ⟨q.req.netnum, q.req.nodenum, q.req.socket, e.sock.port⟩
  toIp : a.toIp = q.ip
  toPort : a.toPort = q.port

/-- A connection from the socket of `e` to a socket that listens. -/
structure JoinsListener (hostOf : UInt32 → Option Nat) (s : SpxNet) (lookup : Lookup) (a : LookupAnswer)
    (e : TableEntry) (c : SpxConnection) (q : Process) (l : TableEntry) : Prop where
  at_server : s.procs[c.server]? = some q
  host : hostOf a.ip = some q.host
  tcp : q.tcp c.listenerFd = .listening a.reply.port
  at_listener : q.world.sockets c.listenerFd = some l
  isSpx : l.sock.flags.isSpx = true
  client : c.client = lookup.proc
  clientFd : c.clientFd = lookup.fd
  clientId : c.clientId = e.id
  ipxaddr : c.ipxaddr = lookup.ipxaddr
  listenerId : c.listenerId = l.id
  listenerAddr : c.listenerAddr = l.sock.addr
  replier : c.replier = (a.proc, a.fd, a.id)
  spxinit : c.spxinit = spxinitOf e.sock.addr
  accepted : c.accepted = none

/-- What a step may leave. -/
inductive SpxEffect (hostOf : UInt32 → Option Nat) (s : SpxNet) : SpxInput → SpxNet → Prop where
  | idle {input : SpxInput} : SpxEffect hostOf s input s
  | process {input : SpxInput} {proc : Nat} {p p' : Process} (at_proc : s.procs[proc]? = some p)
      (step : ProcessStep p p') : SpxEffect hostOf s input (s.setProcess proc p')
  | begins {lookup : Lookup} {addrlen : Nat} {cache : InterfaceCache} {p : Process}
      {e : TableEntry} {ips : List UInt32} (at_proc : s.procs[lookup.proc]? = some p)
      (hosts : ∀ ip ∈ ips, hostOf ip = some p.host)
      (at_fd : p.world.sockets lookup.fd = some e) (id : e.id = lookup.id)
      (isSpx : e.sock.flags.isSpx = true) :
      SpxEffect hostOf s
        (.connect lookup.proc lookup.fd lookup.ipxaddr addrlen cache lookup.port ips)
        { s with
          lookups := s.lookups ++ [lookup]
          requests := s.requests ++ lookup.batch ips }
  | serves {q : LookupRequest} {a : LookupAnswer} {p : Process} {e : TableEntry} {request : Nat}
      {fds : List Nat} (at_request : s.requests[request]? = some q)
      (replies : Replies hostOf s q a p e) :
      SpxEffect hostOf s (.serve a.proc request fds a.ip) { s with answers := s.answers ++ [a] }
  | goesOn {input : SpxInput} {k : Nat} {lookup lookup' : Lookup} {p : Process}
      {ips : List UInt32} (at_k : s.lookups[k]? = some lookup) (same : SameLookup lookup lookup')
      (at_proc : s.procs[lookup.proc]? = some p) (hosts : ∀ ip ∈ ips, hostOf ip = some p.host) :
      SpxEffect hostOf s input
        { s.setLookup k lookup' with requests := s.requests ++ lookup.batch ips }
  | refused {input : SpxInput} {k : Nat} {lookup : Lookup} {p p' : Process}
      (at_k : s.lookups[k]? = some lookup) (at_proc : s.procs[lookup.proc]? = some p)
      (step : ProcessStep p p') :
      SpxEffect hostOf s input ((s.setProcess lookup.proc p').finish k lookup)
  | connects {k i : Nat} {env : ConnectEnv} {batch : Option (List UInt32)} {lookup : Lookup}
      {a : LookupAnswer} {p p' q : Process} {e e' l : TableEntry} {sock : IpxSocket}
      {out : CallOut} {c : SpxConnection} (at_k : s.lookups[k]? = some lookup)
      (at_i : s.answers[i]? = some a) (reaches : Reaches hostOf s lookup a p e sock)
      (step : ProcessStep p p') (left : p'.world.sockets lookup.fd = some e')
      (id : e'.id = e.id) (socket : Connects lookup.ipxaddr sock out e'.sock)
      (returned : out.value = 0) (tcp : p'.tcp lookup.fd = .connected)
      (joins : JoinsListener hostOf s lookup a e' c q l) :
      SpxEffect hostOf s
        (.wake k (.received (some i)) env (some (c.server, c.listenerFd)) batch)
        ({ s.setProcess lookup.proc p' with connections := s.connections ++ [c] }.finish k lookup)
  | accepts {input : SpxInput} {k nfd mutex : Nat} {c : SpxConnection} {p p' : Process}
      {e : TableEntry} {nsock : IpxSocket} (at_k : s.connections[k]? = some c)
      (at_proc : s.procs[c.server]? = some p) (at_fd : p.world.sockets c.listenerFd = some e)
      (id : e.id = c.listenerId) (isSpx : e.sock.flags.isSpx = true)
      (listens : ∃ port, p.tcp c.listenerFd = .listening port) (step : ProcessStep p p')
      (nextId : p.world.nextId < p'.world.nextId)
      (made : p'.world.sockets nfd =
        some ⟨p.world.nextId, acceptedSocket nsock e.sock nfd mutex c.spxinit⟩)
      (tcp : p'.tcp nfd = .connected) :
      SpxEffect hostOf s input
        { s.setProcess c.server p' with
          connections := s.connections.set k
            { c with accepted := some (nfd, p.world.nextId) } }

def SpxNet.ProcessesInv (s : SpxNet) : Prop :=
  ∀ (i : Nat) (p : Process), s.procs[i]? = some p → ProcessInv p

section Effects

variable {hostOf : UInt32 → Option Nat} {s s' : SpxNet}

theorem sendsFrom_iff {p : Process} {ips : List UInt32} :
    SpxNet.sendsFrom hostOf p ips = true ↔ ∀ ip ∈ ips, hostOf ip = some p.host := by
  unfold SpxNet.sendsFrom
  rw [List.all_eq_true]
  exact forall₂_congr fun ip _ => decide_eq_true_iff

theorem woken_process {lookup : Lookup} {event : WakeEvent} {cache : InterfaceCache}
    (possible : s.woken hostOf lookup event cache ≠ .impossible) :
    ∃ p, s.procs[lookup.proc]? = some p := by
  rcases at_proc : s.procs[lookup.proc]? with _ | p
  · refine absurd ?_ possible
    unfold SpxNet.woken
    rw [at_proc]
  · exact ⟨p, rfl⟩

/-- No addresses, no requests. -/
theorem append_batch_nil (requests : List LookupRequest) (lookup : Lookup) :
    requests ++ lookup.batch [] = requests :=
  List.append_nil requests

theorem finish_effect {input : SpxInput} {k : Nat} {lookup : Lookup} {p : Process}
    (at_k : s.lookups[k]? = some lookup) (at_proc : s.procs[lookup.proc]? = some p) :
    SpxEffect hostOf s input (s.finish k lookup) := by
  have effect : SpxEffect hostOf s input
      { s.setLookup k { lookup with returned := true } with
        requests := s.requests ++ lookup.batch [] } :=
    .goesOn at_k ⟨rfl, rfl, rfl, rfl, rfl⟩ at_proc fun ip member => (by cases member)
  rwa [append_batch_nil] at effect

theorem nextBatch_effect {input : SpxInput} {k : Nat} {lookup : Lookup} {p : Process}
    {ips : List UInt32} (at_k : s.lookups[k]? = some lookup)
    (at_proc : s.procs[lookup.proc]? = some p) (hosts : ∀ ip ∈ ips, hostOf ip = some p.host) :
    SpxEffect hostOf s input (s.nextBatch k lookup ips) := by
  unfold SpxNet.nextBatch
  rcases lookup.left with _ | left
  · exact finish_effect at_k at_proc
  · dsimp only
    split
    · exact finish_effect at_k at_proc
    · exact .goesOn at_k ⟨rfl, rfl, rfl, rfl, rfl⟩ at_proc hosts

theorem connection_joinsListener {lookup : Lookup} {a : LookupAnswer} {w : World} {target : Nat × Nat}
    {c : SpxConnection} {e : TableEntry} (at_fd : w.sockets lookup.fd = some e)
    (id : e.id = lookup.id)
    (made : s.connection hostOf lookup a a.ip a.reply.port w target = some c) :
    target = (c.server, c.listenerFd) ∧ ∃ q l, JoinsListener hostOf s lookup a e c q l := by
  unfold SpxNet.connection at made
  rcases listens : s.listener hostOf target.1 target.2 a.ip a.reply.port with _ | l
  · rw [listens] at made
    cases made
  rw [listens, at_fd] at made
  obtain rfl := Option.some.inj made
  unfold SpxNet.listener at listens
  rcases at_server : s.procs[target.1]? with _ | q
  · rw [at_server] at listens
    cases listens
  rw [at_server] at listens
  dsimp only at listens
  split at listens
  case isFalse => cases listens
  case isTrue here =>
    obtain ⟨at_listener, isSpx⟩ := Option.filter_eq_some_iff.mp listens
    exact ⟨rfl, q, l, at_server, here.1, here.2, at_listener, isSpx, rfl, rfl, id.symm, rfl, rfl,
      rfl, rfl, rfl, rfl⟩

/-- The TCP socket that was connected was free, and where it is known what it is connected to
there is a connection. -/
theorem connects_cases {lookup : Lookup} {a : LookupAnswer} {p : Process} {e : TableEntry} {sock : IpxSocket}
    {ip : UInt32} {port : UInt16} {env : ConnectEnv} {target : Option (Nat × Nat)}
    (succeeds : (env.rConnect ip port).succeeds = true)
    (left : s.connects hostOf lookup a p e sock ip port env target = some s') :
    (∀ port, p.tcp lookup.fd ≠ .listening port) ∧ p.tcp lookup.fd ≠ .connected ∧
      (s' = s.setProcess lookup.proc
          { p with
            world := (spxConnected lookup.fd e sock lookup.ipxaddr env p.world).2
            tcp := Function.update p.tcp lookup.fd .connected } ∨
        ∃ t c, target = some t ∧
          s.connection hostOf lookup a ip port
            (spxConnected lookup.fd e sock lookup.ipxaddr env p.world).2 t = some c ∧
          (spxConnected lookup.fd e sock lookup.ipxaddr env p.world).1.value = 0 ∧
          s' = { s.setProcess lookup.proc
            { p with
              world := (spxConnected lookup.fd e sock lookup.ipxaddr env p.world).2
              tcp := Function.update p.tcp lookup.fd .connected } with
            connections := s.connections ++ [c] }) := by
  unfold SpxNet.connects at left
  rw [spxConnect_of_succeeds succeeds] at left
  generalize spxConnected lookup.fd e sock lookup.ipxaddr env p.world = result at left ⊢
  dsimp only at left
  rw [if_pos succeeds] at left
  cases state : p.tcp lookup.fd with
  | listening _ => rw [state] at left; cases left
  | connected => rw [state] at left; cases left
  | _ =>
    rw [state] at left
    refine ⟨by simp, by simp, ?_⟩
    cases target with
    | none => exact Or.inl (Option.some.inj left).symm
    | some t =>
      obtain ⟨c, made, same⟩ := Option.map_eq_some_iff.mp left
      split at same
      case isTrue returned => exact Or.inr ⟨t, c, rfl, made, returned, same.symm⟩
      case isFalse => exact Or.inl same.symm

theorem connects_effect (inv : s.ProcessesInv) {k i : Nat} {env : ConnectEnv}
    {batch : Option (List UInt32)} {lookup : Lookup} {a : LookupAnswer} {p : Process}
    {e : TableEntry} {sock : IpxSocket} {target : Option (Nat × Nat)}
    (at_k : s.lookups[k]? = some lookup) (at_i : s.answers[i]? = some a)
    (reaches : Reaches hostOf s lookup a p e sock)
    (fresh : p.world.handles env.mutex.handle = none)
    (left : s.connects hostOf lookup a p e sock a.ip a.reply.port env target = some s') :
    SpxEffect hostOf s (.wake k (.received (some i)) env target batch) (s'.finish k lookup) := by
  have at_proc := reaches.at_proc
  have inv := inv lookup.proc p at_proc
  by_cases succeeds : (env.rConnect a.ip a.reply.port).succeeds = true
  · obtain ⟨idle, unused, cases⟩ := connects_cases succeeds left
    have step := inv.connected reaches.at_fd reaches.takes.keeps fresh idle unused lookup.ipxaddr
    rcases cases with rfl | ⟨t, c, rfl, made, returned, rfl⟩
    · exact .refused at_k at_proc step
    · obtain ⟨sock', sockets, -, connects⟩ :=
        spxConnected_table lookup.fd e sock lookup.ipxaddr fresh
      have at_fd : (spxConnected lookup.fd e sock lookup.ipxaddr env p.world).2.sockets lookup.fd =
          some { e with sock := sock' } := by
        rw [sockets, Function.update_self]
      obtain ⟨rfl, q, l, joins⟩ := connection_joinsListener at_fd reaches.id made
      exact .connects at_k at_i reaches step at_fd rfl connects returned
        (Function.update_self lookup.fd _ _) joins
  · unfold SpxNet.connects at left
    dsimp only at left
    rw [if_neg succeeds, spxConnect_of_fails succeeds] at left
    obtain rfl := Option.some.inj left
    exact .refused at_k at_proc
      (inv.not_connected reaches.at_fd reaches.takes.keeps reaches.takes.bound)

/-- `accept` has returned a socket: the one that it was called on listens. -/
theorem accept_returns {p p' : Process} {fd nfd : Nat} {e : TableEntry} {addr : Bool}
    {addrlen : Option Nat} {env : AcceptEnv} {spxinit : Spxinit} {underlying : Int}
    {port : UInt16} {out : CallOut} (at_fd : p.world.sockets fd = some e)
    (sent : env.spxinit = some spxinit) (accepted : env.rAccept = some nfd)
    (called : p.call (.accept fd addr addrlen env) underlying port = some (out, p'))
    (returned : out.value ≠ -1) :
    e.sock.flags.isSpx = true ∧ (∃ port, p.tcp fd = .listening port) ∧
      p'.world.nextId = p.world.nextId + 1 ∧ p'.tcp nfd = .connected ∧
      ∃ nsock mutex, p'.world.sockets nfd =
        some ⟨p.world.nextId, acceptedSocket nsock e.sock nfd mutex spxinit⟩ := by
  unfold Process.call at called
  split at called
  case isFalse => cases called
  case isTrue =>
    have runs : (SocketCall.accept fd addr addrlen env).run underlying p.world =
        IpxWrapper.accept fd addr addrlen env underlying p.world := rfl
    rw [runs] at called
    dsimp only at called
    obtain ⟨tcp, after, same⟩ := Option.map_eq_some_iff.mp called
    obtain ⟨rfl, rfl⟩ := Prod.mk.inj same
    rcases accept_cases at_fd addr addrlen env underlying with ⟨out, value, failed⟩ |
      ⟨nsock, nfd', spxinit', mutex, isSpx, accepted', sent', value, left⟩
    · rw [failed] at returned
      exact absurd value returned
    · obtain rfl := Option.some.inj (accepted'.symm.trans accepted)
      obtain rfl := Option.some.inj (sent'.symm.trans sent)
      simp only [SocketCall.tcpAfter] at after
      rw [at_fd, Option.any_some, if_pos ⟨isSpx, returned⟩, accepted'] at after
      rw [left]
      rcases state : p.tcp fd with _ | port' | port' | _
      · rw [state] at after
        cases after
      · rw [state] at after
        cases after
      · rw [state] at after
        obtain rfl := Option.some.inj after
        exact ⟨isSpx, ⟨port', rfl⟩, rfl, Function.update_self _ _ _, nsock, mutex,
          Function.update_self _ _ _⟩
      · rw [state] at after
        cases after

theorem SpxEffect.of_accept (inv : s.ProcessesInv) {input : SpxInput} {proc fd k : Nat}
    {addr : Bool} {addrlen : Option Nat} {env : AcceptEnv}
    (left : s.accept proc fd addr addrlen env k = some s') : SpxEffect hostOf s input s' := by
  unfold SpxNet.accept at left
  split at left
  case h_2 => cases left
  case h_1 p c at_proc at_k =>
    split at left
    case isFalse => cases left
    case isTrue allowed =>
      obtain ⟨rfl, rfl, known, -, sent⟩ := allowed
      split at left
      case h_2 => cases left
      case h_1 out p' nfd called accepted =>
        split at left
        case isTrue => cases left
        case isFalse returned =>
          obtain rfl := Option.some.inj left
          obtain ⟨e, at_fd, id⟩ := (Option.any_eq_true _ _).mp known
          obtain ⟨isSpx, listens, nextId, tcp, nsock, mutex, made⟩ :=
            accept_returns at_fd sent accepted called returned
          exact .accepts at_k at_proc at_fd (of_decide_eq_true id) isSpx listens
            ((inv c.server p at_proc).call called) (by omega) made tcp

theorem SpxEffect.of_connect {proc fd addrlen : Nat} {addr : SockaddrIpx}
    {cache : InterfaceCache} {port : UInt16} {ips : List UInt32}
    (left : s.connect hostOf proc fd addr addrlen cache port ips = some s') :
    SpxEffect hostOf s (.connect proc fd addr addrlen cache port ips) s' := by
  unfold SpxNet.connect at left
  split at left
  case h_1 => cases left
  case h_2 p at_proc =>
    split at left
    case h_1 => cases left
    case h_2 e at_fd =>
      split at left
      case isTrue => cases left
      case isFalse allowed =>
        split at left
        case isTrue =>
          obtain rfl := Option.some.inj left
          exact .idle
        case isFalse =>
          obtain rfl := Option.some.inj left
          rw [not_or, not_not, not_not] at allowed
          let lookup : Lookup := ⟨proc, fd, e.id, addr, port, ipxConnectTries - 1, false⟩
          have asks : s.procs[lookup.proc]? = some p := at_proc
          exact .begins asks (sendsFrom_iff.mp allowed.2) at_fd rfl allowed.1

theorem SpxEffect.of_serve {proc request : Nat} {fds : List Nat} {ip : UInt32}
    (left : s.serve hostOf proc request fds ip = some s') :
    SpxEffect hostOf s (.serve proc request fds ip) s' := by
  unfold SpxNet.serve at left
  split at left
  case h_2 => cases left
  case h_1 p q at_proc at_request =>
    split at left
    case isFalse => cases left
    case isTrue host =>
      rw [lookupReply_eq] at left
      rcases found : lookupListener fds q.req p.world with _ | ⟨fd, e⟩
      · rw [found] at left
        obtain rfl := Option.some.inj left
        exact .idle
      · rw [found] at left
        obtain rfl := Option.some.inj left
        obtain ⟨at_fd, listens⟩ := lookupListener_some found
        obtain ⟨isSpx, listening, asks⟩ := listensFor_iff.mp listens
        have replies : Replies hostOf s q
            ⟨⟨q.req.netnum, q.req.nodenum, q.req.socket, e.sock.port⟩, ip, q.ip, q.port, proc, fd,
              e.id⟩ p e :=
          ⟨at_proc, host, at_fd, rfl, isSpx, listening, asks, rfl, rfl, rfl⟩
        exact .serves at_request replies

theorem SpxEffect.of_wake (inv : s.ProcessesInv) {k : Nat} {event : WakeEvent}
    {env : ConnectEnv} {target : Option (Nat × Nat)} {batch : Option (List UInt32)}
    (left : s.wake hostOf k event env target batch = some s') :
    SpxEffect hostOf s (.wake k event env target batch) s' := by
  unfold SpxNet.wake at left
  split at left
  case h_1 => cases left
  case h_2 lookup at_k =>
    split at left
    case isTrue => cases left
    case isFalse =>
      split at left
      case h_1 => cases left
      case h_2 woken =>
        obtain rfl := Option.some.inj left
        obtain ⟨p, at_proc⟩ := woken_process (fun impossible => by rw [impossible] at woken; cases woken)
        exact finish_effect at_k at_proc
      case h_3 =>
        split at left
        case h_1 =>
          obtain rfl := Option.some.inj left
          exact .idle
        case h_2 ips =>
          split at left
          case isFalse => cases left
          case isTrue sends =>
            obtain rfl := Option.some.inj left
            obtain ⟨p, at_proc, hosts⟩ := (Option.any_eq_true _ _).mp sends
            exact nextBatch_effect at_k at_proc (sendsFrom_iff.mp hosts)
      case h_4 a p e sock ip port woken =>
        split at left
        case isFalse => cases left
        case isTrue fresh =>
          obtain ⟨s₁, connects, rfl⟩ := Option.map_eq_some_iff.mp left
          obtain ⟨i, rfl, at_i, rfl, rfl, reaches⟩ := woken_connects woken
          exact connects_effect inv at_k at_i reaches fresh connects

/-- A step leaves what `SpxEffect` lists. -/
theorem spxStep_effect (inv : s.ProcessesInv) {input : SpxInput}
    (enabled : spxStep hostOf input s = some s') : SpxEffect hostOf s input s' := by
  unfold spxStep at enabled
  split at enabled
  case h_1 proc call underlying port =>
    split at enabled
    case h_1 => cases enabled
    case h_2 p at_proc =>
      obtain ⟨⟨out, p'⟩, called, rfl⟩ := Option.map_eq_some_iff.mp enabled
      exact .process at_proc ((inv proc p at_proc).call called)
  case h_2 => exact .of_connect enabled
  case h_3 => exact .of_serve enabled
  case h_4 => exact .of_wake inv enabled
  case h_5 => exact .of_accept inv enabled

/-- At most one process takes a step. -/
def StepsProcess (s s' : SpxNet) : Prop :=
  s'.procs = s.procs ∨ ∃ i p p', s.procs[i]? = some p ∧ ProcessStep p p' ∧ s'.procs = s.procs.set i p'

theorem SpxEffect.procs {input : SpxInput} (effect : SpxEffect hostOf s input s') :
    StepsProcess s s' := by
  cases effect with
  | idle => exact Or.inl rfl
  | process at_proc step => exact Or.inr ⟨_, _, _, at_proc, step, rfl⟩
  | begins => exact Or.inl rfl
  | serves => exact Or.inl rfl
  | goesOn => exact Or.inl rfl
  | refused at_k at_proc step => exact Or.inr ⟨_, _, _, at_proc, step, rfl⟩
  | connects at_k at_i reaches step => exact Or.inr ⟨_, _, _, reaches.at_proc, step, rfl⟩
  | accepts at_k at_proc at_fd id isSpx listens step =>
      exact Or.inr ⟨_, _, _, at_proc, step, rfl⟩

/-- What a step does to the lookups, and what they have sent. -/
inductive LookupEffect (hostOf : UInt32 → Option Nat) (s : SpxNet) :
    SpxInput → List Lookup → List LookupRequest → Prop where
  | same {input : SpxInput} : LookupEffect hostOf s input s.lookups s.requests
  | begins {lookup : Lookup} {addrlen : Nat} {cache : InterfaceCache} {p : Process}
      {e : TableEntry} {ips : List UInt32} (at_proc : s.procs[lookup.proc]? = some p)
      (hosts : ∀ ip ∈ ips, hostOf ip = some p.host)
      (at_fd : p.world.sockets lookup.fd = some e) (id : e.id = lookup.id)
      (isSpx : e.sock.flags.isSpx = true) :
      LookupEffect hostOf s
        (.connect lookup.proc lookup.fd lookup.ipxaddr addrlen cache lookup.port ips)
        (s.lookups ++ [lookup]) (s.requests ++ lookup.batch ips)
  | goesOn {input : SpxInput} {k : Nat} {lookup lookup' : Lookup} {p : Process}
      {ips : List UInt32} (at_k : s.lookups[k]? = some lookup) (same : SameLookup lookup lookup')
      (at_proc : s.procs[lookup.proc]? = some p) (hosts : ∀ ip ∈ ips, hostOf ip = some p.host) :
      LookupEffect hostOf s input (s.lookups.set k lookup') (s.requests ++ lookup.batch ips)

/-- The lookup returns, and has sent nothing more. -/
theorem LookupEffect.finishes {input : SpxInput} {k : Nat} {lookup : Lookup} {p : Process}
    (at_k : s.lookups[k]? = some lookup) (at_proc : s.procs[lookup.proc]? = some p) :
    LookupEffect hostOf s input (s.lookups.set k { lookup with returned := true }) s.requests := by
  have effect : LookupEffect hostOf s input (s.lookups.set k { lookup with returned := true })
      (s.requests ++ lookup.batch []) :=
    .goesOn at_k ⟨rfl, rfl, rfl, rfl, rfl⟩ at_proc fun ip member => (by cases member)
  rwa [append_batch_nil] at effect

theorem SpxEffect.lookups {input : SpxInput} (effect : SpxEffect hostOf s input s') :
    LookupEffect hostOf s input s'.lookups s'.requests := by
  cases effect with
  | idle => exact .same
  | process => exact .same
  | begins at_proc hosts at_fd id isSpx => exact .begins at_proc hosts at_fd id isSpx
  | serves => exact .same
  | goesOn at_k same at_proc hosts => exact .goesOn at_k same at_proc hosts
  | refused at_k at_proc => exact .finishes at_k at_proc
  | connects at_k at_i reaches => exact .finishes at_k reaches.at_proc
  | accepts => exact .same

theorem SpxEffect.answers {input : SpxInput} (effect : SpxEffect hostOf s input s') :
    s'.answers = s.answers ∨ ∃ q a p e request fds, s.requests[request]? = some q ∧
      Replies hostOf s q a p e ∧ input = .serve a.proc request fds a.ip ∧
      s'.answers = s.answers ++ [a] := by
  cases effect with
  | serves at_request replies =>
      exact Or.inr ⟨_, _, _, _, _, _, at_request, replies, rfl, rfl⟩
  | idle => exact Or.inl rfl
  | process => exact Or.inl rfl
  | begins => exact Or.inl rfl
  | goesOn => exact Or.inl rfl
  | refused => exact Or.inl rfl
  | connects => exact Or.inl rfl
  | accepts => exact Or.inl rfl

end Effects

/-! ## Processes of the network -/

section Processes

variable {s s' : SpxNet}

/-- A process after a step was there before it. -/
theorem StepsProcess.before (steps : StepsProcess s s') (inv : s.ProcessesInv) {i : Nat}
    {p' : Process} (found : s'.procs[i]? = some p') :
    ∃ p, s.procs[i]? = some p ∧ ProcessStep p p' := by
  rcases steps with same | ⟨j, p, q, at_j, step, changed⟩
  · rw [same] at found
    exact ⟨p', found, .refl (inv i p' found)⟩
  · rw [changed, List.getElem?_set] at found
    split at found
    case isTrue here =>
      subst here
      split at found
      · obtain rfl := Option.some.inj found
        exact ⟨p, at_j, step⟩
      · cases found
    case isFalse => exact ⟨p', found, .refl (inv i p' found)⟩

theorem StepsProcess.inv (steps : StepsProcess s s') (inv : s.ProcessesInv) : s'.ProcessesInv := by
  intro i p' found
  obtain ⟨p, -, step⟩ := steps.before inv found
  exact step.inv

/-- A process stays on its host. -/
theorem StepsProcess.hosts (steps : StepsProcess s s') :
    s'.procs.map Process.host = s.procs.map Process.host := by
  rcases steps with same | ⟨i, p, p', at_i, step, changed⟩
  · rw [same]
  · rw [changed, List.map_set, step.host]
    obtain ⟨bound, rfl⟩ := List.getElem?_eq_some_iff.mp at_i
    apply List.ext_getElem?
    intro j
    rw [List.getElem?_set]
    split
    case isTrue here =>
      subst here
      rw [if_pos (by simpa using bound), List.getElem?_map, List.getElem?_eq_getElem bound]
      rfl
    case isFalse => rfl

end Processes

end IpxWrapper
