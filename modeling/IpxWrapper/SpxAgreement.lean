import IpxWrapper.LockLevels
import IpxWrapper.SpxLookupSafety

/-!
# Addresses at both ends of a connection

`getpeername` at the socket that `accept` has returned tells what `getsockname` tells at the
client. The other way round it is the address that was asked for, and that is what the
listening socket was bound to where it is the one that had replied; but for a network
number of zero, which stays as it was asked for.
-/

namespace IpxWrapper

open Base

/-! ## What is known of a socket -/

/-- A property of a socket that it has until it is closed. -/
def Lasts (P : IpxSocket → TcpState → Prop) : Prop :=
  ∀ sock tcp sock' tcp', P sock tcp → Keeps sock tcp sock' tcp' → P sock' tcp'

/-- The socket of a process with this descriptor and number has the property `P`, if it is
still there. -/
structure Held (s : SpxNet) (proc fd id : Nat) (P : IpxSocket → TcpState → Prop) : Prop where
  old : ∀ p : Process, s.procs[proc]? = some p → id < p.world.nextId
  holds : ∀ (p : Process) (e : TableEntry), s.procs[proc]? = some p →
    p.world.sockets fd = some e → e.id = id → P e.sock (p.tcp fd)

/-- It is an SPX socket. -/
def IsSpx (sock : IpxSocket) (_tcp : TcpState) : Prop := sock.flags.isSpx = true

/-- It is settled, and `Q` holds of it. -/
def SettledWith (Q : IpxSocket → Prop) (sock : IpxSocket) (tcp : TcpState) : Prop :=
  Settled sock tcp ∧ Q sock

theorem lasts_isSpx : Lasts IsSpx :=
  fun _ _ _ _ isSpx keeps => keeps.isSpx.trans isSpx

theorem lasts_settledWith (Q : IpxSocket → Prop) : Lasts (SettledWith Q) := by
  rintro sock tcp sock' tcp' ⟨settled, holds⟩ keeps
  obtain ⟨rfl, rfl⟩ := keeps.settled settled
  exact ⟨settled, holds⟩

section Held

variable {s s' : SpxNet} {proc fd id : Nat} {P : IpxSocket → TcpState → Prop} {p : Process}
  {e : TableEntry}

theorem Held.step (held : Held s proc fd id P) (lasts : Lasts P) (steps : StepsProcess s s')
    (inv : s.ProcessesInv) : Held s' proc fd id P := by
  constructor
  · intro p' at_proc
    obtain ⟨p, was, step⟩ := steps.before inv at_proc
    exact Nat.lt_of_lt_of_le (held.old p was) step.nextId
  · intro p' e' at_proc at_fd same
    obtain ⟨p, was, step⟩ := steps.before inv at_proc
    have old := held.old p was
    obtain ⟨e, had, same', keeps⟩ := step.entries fd e' at_fd (by omega)
    exact lasts _ _ _ _ (held.holds p e was had (same'.trans same)) keeps

/-- A socket that is there is known. -/
theorem Held.of_entry (inv : ProcessInv p) (at_proc : s.procs[proc]? = some p)
    (at_fd : p.world.sockets fd = some e) (same : e.id = id) (holds : P e.sock (p.tcp fd)) :
    Held s proc fd id P := by
  constructor
  · intro p' at_proc'
    obtain rfl := Option.some.inj (at_proc.symm.trans at_proc')
    rw [← same]
    exact inv.old fd e at_fd
  · intro p' e' at_proc' at_fd' _
    obtain rfl := Option.some.inj (at_proc.symm.trans at_proc')
    obtain rfl := Option.some.inj (at_fd.symm.trans at_fd')
    exact holds

end Held

/-! ## The invariant -/

/-- The socket that a reply is for has the address that was asked for. -/
def AnswerInv (s : SpxNet) (a : LookupAnswer) : Prop :=
  Held s a.proc a.fd a.id
    (SettledWith fun sock => AsksFor a.reply.netnum a.reply.nodenum a.reply.socket sock.addr)

/-- What the sockets of a connection are. -/
structure ConnectionInv (s : SpxNet) (c : SpxConnection) : Prop where
  client : Held s c.client c.clientFd c.clientId
    (SettledWith fun sock => sock.flags.connected = true ∧ sock.remoteAddr = c.ipxaddr ∧
      spxinitOf sock.addr = c.spxinit)
  listener : Held s c.server c.listenerFd c.listenerId
    (SettledWith fun sock => sock.addr = c.listenerAddr)
  accepted : ∀ fd id, c.accepted = some (fd, id) → Held s c.server fd id
    (SettledWith fun sock => sock.flags.connected = true ∧ sock.addr = c.listenerAddr ∧
      spxinitOf sock.remoteAddr = c.spxinit)
  replied : c.replier = (c.server, c.listenerFd, c.listenerId) →
    AsksFor c.ipxaddr.netnum c.ipxaddr.nodenum c.ipxaddr.socket c.listenerAddr

structure NetInv (s : SpxNet) : Prop where
  processes : s.ProcessesInv
  lookups : ∀ lookup ∈ s.lookups, Held s lookup.proc lookup.fd lookup.id IsSpx
  answers : ∀ a ∈ s.answers, AnswerInv s a
  connections : ∀ c ∈ s.connections, ConnectionInv s c

section Invariant

variable {hostOf : UInt32 → Option Nat} {s s' : SpxNet} {input : SpxInput}

theorem ConnectionInv.step {c : SpxConnection} (inv : ConnectionInv s c)
    (steps : StepsProcess s s') (processes : s.ProcessesInv) : ConnectionInv s' c where
  client := inv.client.step (lasts_settledWith _) steps processes
  listener := inv.listener.step (lasts_settledWith _) steps processes
  accepted := fun fd id accepted =>
    (inv.accepted fd id accepted).step (lasts_settledWith _) steps processes
  replied := inv.replied

theorem NetInv.lookups_step (inv : NetInv s) (steps : StepsProcess s s') {lookups : List Lookup}
    {requests : List LookupRequest} (effect : LookupEffect hostOf s input lookups requests)
    {lookup : Lookup} (member : lookup ∈ lookups) :
    Held s' lookup.proc lookup.fd lookup.id IsSpx := by
  have old {lookup : Lookup} (member : lookup ∈ s.lookups) :=
    (inv.lookups lookup member).step lasts_isSpx steps inv.processes
  cases effect with
  | same => exact old member
  | begins at_proc hosts at_fd id isSpx =>
      rcases List.mem_append.mp member with before | last
      · exact old before
      · obtain rfl := List.mem_singleton.mp last
        have held := Held.of_entry (P := IsSpx) (inv.processes _ _ at_proc) at_proc at_fd id isSpx
        exact held.step lasts_isSpx steps inv.processes
  | goesOn at_k same =>
      rcases List.mem_or_eq_of_mem_set member with before | rfl
      · exact old before
      · rw [same.proc, same.fd, same.id]
        exact old (List.mem_of_getElem? at_k)

theorem NetInv.answers_step (inv : NetInv s) (effect : SpxEffect hostOf s input s')
    {a : LookupAnswer} (member : a ∈ s'.answers) : AnswerInv s' a := by
  have old (member : a ∈ s.answers) : AnswerInv s' a :=
    (inv.answers a member).step (lasts_settledWith _) effect.procs inv.processes
  rcases effect.answers with same | ⟨q, a', p, e, request, fds, -, replies, -, sent⟩
  · rw [same] at member
    exact old member
  · rw [sent] at member
    rcases List.mem_append.mp member with before | last
    · exact old before
    · obtain rfl := List.mem_singleton.mp last
      have processInv := inv.processes _ _ replies.at_proc
      have agrees := processInv.agrees _ _ replies.at_fd replies.isSpx
      obtain ⟨bound, tcp⟩ := agrees.listening replies.listening
      have asks := replies.asks
      have held : AnswerInv s a := by
        refine Held.of_entry processInv replies.at_proc replies.at_fd replies.id
          ⟨⟨replies.isSpx, bound, Or.inl ⟨_, tcp⟩⟩, ?_⟩
        rw [replies.reply]
        exact asks
      exact held.step (lasts_settledWith _) effect.procs inv.processes

theorem ConnectionInv.of_connects {lookup : Lookup} {a : LookupAnswer}
    {p p' q : Process} {e e' l : TableEntry} {sock : IpxSocket} {out : CallOut}
    {c : SpxConnection} (inv : NetInv s) (known : AnswerInv s a)
    (isSpx : Held s lookup.proc lookup.fd lookup.id IsSpx)
    (reaches : Reaches hostOf s lookup a p e sock) (step : ProcessStep p p')
    (left : p'.world.sockets lookup.fd = some e')
    (socket : Connects lookup.ipxaddr sock out e'.sock) (returned : out.value = 0)
    (tcp : p'.tcp lookup.fd = .connected) (joins : JoinsListener hostOf s lookup a e' c q l)
    (steps : StepsProcess s s') (at_proc : s'.procs[lookup.proc]? = some p') :
    ConnectionInv s' c := by
  constructor
  · rw [joins.client, joins.clientFd, joins.clientId]
    refine Held.of_entry step.inv at_proc left rfl ⟨⟨?_, socket.bound returned, Or.inr tcp⟩,
      socket.connected, socket.remoteAddr.trans joins.ipxaddr.symm, joins.spxinit.symm⟩
    obtain ⟨netnum, nodenum, rfl⟩ := reaches.takes.keeps
    exact socket.isSpx.trans (isSpx.holds p e reaches.at_proc reaches.at_fd reaches.id)
  · have processInv := inv.processes _ _ joins.at_server
    have agrees := processInv.agrees _ _ joins.at_listener joins.isSpx
    obtain ⟨bound, -⟩ := agrees.listening (agrees.listens _ joins.tcp)
    have held : Held s c.server c.listenerFd c.listenerId
        (SettledWith fun sock => sock.addr = c.listenerAddr) :=
      Held.of_entry processInv joins.at_server joins.at_listener joins.listenerId.symm
        ⟨⟨joins.isSpx, bound, Or.inl ⟨_, joins.tcp⟩⟩, joins.listenerAddr.symm⟩
    exact held.step (lasts_settledWith _) steps inv.processes
  · intro fd id accepted
    rw [joins.accepted] at accepted
    cases accepted
  · intro replied
    rw [joins.replier] at replied
    obtain ⟨proc, socket⟩ := Prod.mk.inj replied
    obtain ⟨fd, id⟩ := Prod.mk.inj socket
    unfold AnswerInv at known
    rw [proc, fd, id] at known
    have asks := (known.holds q l joins.at_server joins.at_listener joins.listenerId.symm).2
    rw [reaches.takes.netnum, reaches.takes.nodenum, reaches.takes.socket] at asks
    rw [joins.ipxaddr, joins.listenerAddr]
    exact asks

theorem NetInv.connections_step (inv : NetInv s) (effect : SpxEffect hostOf s input s')
    {c : SpxConnection} (member : c ∈ s'.connections) : ConnectionInv s' c := by
  have steps := effect.procs
  have old {c : SpxConnection} (member : c ∈ s.connections) : ConnectionInv s' c :=
    (inv.connections c member).step steps inv.processes
  cases effect with
  | idle => exact old member
  | process => exact old member
  | begins => exact old member
  | serves => exact old member
  | goesOn => exact old member
  | refused => exact old member
  | connects at_k at_i reaches step left _ socket returned tcp joins =>
      rcases List.mem_append.mp member with before | last
      · exact old before
      · obtain rfl := List.mem_singleton.mp last
        obtain ⟨bound, -⟩ := List.getElem?_eq_some_iff.mp reaches.at_proc
        exact .of_connects inv (inv.answers _ (List.mem_of_getElem? at_i))
          (inv.lookups _ (List.mem_of_getElem? at_k)) reaches step left socket returned tcp joins
          steps (List.getElem?_set_self bound)
  | accepts at_k at_proc at_fd id isSpx listens step nextId made tcp =>
      rcases List.mem_or_eq_of_mem_set member with before | rfl
      · exact old before
      · have was := inv.connections _ (List.mem_of_getElem? at_k)
        have after := was.step steps inv.processes
        refine ⟨after.client, after.listener, fun fd id accepted => ?_, after.replied⟩
        obtain ⟨rfl, rfl⟩ := Prod.mk.inj (Option.some.inj accepted)
        obtain ⟨bound, -⟩ := List.getElem?_eq_some_iff.mp at_proc
        have listener := (was.listener.holds _ _ at_proc at_fd id).2
        exact Held.of_entry step.inv (List.getElem?_set_self bound) made rfl
          ⟨⟨rfl, rfl, Or.inr tcp⟩, rfl, listener, rfl⟩

theorem NetInv.step (inv : NetInv s) (enabled : spxStep hostOf input s = some s') :
    NetInv s' := by
  have effect := spxStep_effect inv.processes enabled
  constructor
  · exact effect.procs.inv inv.processes
  · intro lookup member
    exact inv.lookups_step effect.procs effect.lookups member
  · intro a member
    exact inv.answers_step effect member
  · intro c member
    exact inv.connections_step effect member

theorem NetInv.start (hosts : List Nat) : NetInv (SpxNet.start hosts) where
  processes := (HistoryInv.start (fun _ => none) hosts).processes
  lookups := fun _ => nofun
  answers := fun _ => nofun
  connections := fun _ => nofun

/-- The invariant holds throughout a run. -/
theorem spxMoves_netInv (hostOf : UInt32 → Option Nat) (hosts : List Nat)
    (inputs : List SpxInput) : ∀ m ∈ spxMoves hostOf hosts inputs, NetInv m.after := by
  intro m member
  refine (moves_induct (I := NetInv) (G := fun _ => True) (Q := fun _ => True) (.start hosts)
    (fun _ _ => trivial) ?_ m member).2.1
  exact fun m inv enabled _ => ⟨inv.step enabled, trivial⟩

end Invariant

/-! ## Addresses at both ends -/

/-- What `getsockname` puts in `*addr`, called by a thread that does not hold the lock. -/
def sockName (w : World) (fd : Nat) : Option SockaddrIpx :=
  ((Locked.getsockname fd sizeofSockaddrIpx (-1)).result (fun _ => w) ⟨0, w, 0⟩).bind (·.1.addr)

/-- What `getpeername` puts in `*addr`. -/
def peerName (w : World) (fd : Nat) : Option SockaddrIpx :=
  ((Locked.getpeername fd sizeofSockaddrIpx (-1)).result (fun _ => w) ⟨0, w, 0⟩).bind (·.1.addr)

section Names

variable {w : World} {fd : Nat} {e : TableEntry}

/-- A wrapper that begins with `get_socket` goes on with the entry that it finds. -/
theorem result_getSocket {α : Type} (at_fd : w.sockets fd = some e)
    (next : Option TableEntry → Wrapper α) :
    (Locked.getSocket fd >>= next).result (fun _ => w) ⟨0, w, 0⟩ =
      (next (some e)).result (fun _ => w) ⟨1, w, 1⟩ := by
  unfold Locked.getSocket Locked.lockSockets
  simp only [Bind.bind, LockProg.bind, LockProg.acquire, LockProg.read, LockProg.result, Holder.lock]
  rw [if_pos trivial, at_fd]
  rfl

theorem sockName_of_bound (at_fd : w.sockets fd = some e) (bound : e.sock.flags.bound = true) :
    sockName w fd = some e.sock.addr := by
  unfold sockName Locked.getsockname
  rw [result_getSocket at_fd]
  dsimp only
  rw [if_pos bound]
  rfl

theorem peerName_of_connected (at_fd : w.sockets fd = some e)
    (connected : e.sock.flags.connected = true) : peerName w fd = some e.sock.remoteAddr := by
  unfold peerName Locked.getpeername
  rw [result_getSocket at_fd]
  dsimp only
  rw [if_neg (not_not_intro connected)]
  rfl

end Names

/-- The four addresses. -/
structure EndNames where
  clientPeer : SockaddrIpx
  clientName : SockaddrIpx
  acceptedPeer : SockaddrIpx
  acceptedName : SockaddrIpx
deriving DecidableEq

/-- What the calls tell at the socket of a client in process `p`, and at the socket of process
`q` that `accept` has returned. -/
def endNames (p : Process) (clientFd : Nat) (q : Process) (fd : Nat) : Option EndNames := do
  let clientPeer ← peerName p.world clientFd
  let clientName ← sockName p.world clientFd
  let acceptedPeer ← peerName q.world fd
  let acceptedName ← sockName q.world fd
  pure ⟨clientPeer, clientName, acceptedPeer, acceptedName⟩

theorem endNames_eq {p q : Process} {clientFd fd : Nat} {e e' : TableEntry}
    (client : p.world.sockets clientFd = some e) (bound : e.sock.flags.bound = true)
    (connected : e.sock.flags.connected = true) (accepted : q.world.sockets fd = some e')
    (bound' : e'.sock.flags.bound = true) (connected' : e'.sock.flags.connected = true) :
    endNames p clientFd q fd =
      some ⟨e.sock.remoteAddr, e.sock.addr, e'.sock.remoteAddr, e'.sock.addr⟩ := by
  unfold endNames
  rw [peerName_of_connected client connected, sockName_of_bound client bound,
    peerName_of_connected accepted connected', sockName_of_bound accepted bound']
  rfl

/-- The processes of a connection that was accepted and is open at both ends, and the
descriptor that `accept` has returned. -/
def openEnds (s : SpxNet) (c : SpxConnection) : Option (Process × Process × Nat) :=
  match c.accepted, s.procs[c.client]?, s.procs[c.server]? with
  | some (fd, id), some p, some q =>
      if (p.world.sockets c.clientFd).any (·.id = c.clientId) ∧ (q.world.sockets fd).any (·.id = id)
      then some (p, q, fd)
      else none
  | _, _, _ => none

/-- What is known of a connection that is open at both ends. -/
theorem openEnds_some {s : SpxNet} {c : SpxConnection} {p q : Process} {fd : Nat}
    (isOpen : openEnds s c = some (p, q, fd)) :
    s.procs[c.client]? = some p ∧ s.procs[c.server]? = some q ∧ ∃ e e',
      p.world.sockets c.clientFd = some e ∧ e.id = c.clientId ∧
        q.world.sockets fd = some e' ∧ c.accepted = some (fd, e'.id) := by
  unfold openEnds at isOpen
  split at isOpen
  case h_2 => cases isOpen
  case h_1 fd' id p' q' accepted client server =>
    split at isOpen
    case isFalse => cases isOpen
    case isTrue both =>
      cases isOpen
      obtain ⟨e, at_client, same⟩ := (Option.any_eq_true _ _).mp both.1
      obtain ⟨e', at_accepted, same'⟩ := (Option.any_eq_true _ _).mp both.2
      refine ⟨client, server, e, e', at_client, of_decide_eq_true same, at_accepted, ?_⟩
      rw [accepted, of_decide_eq_true same']

/-- Network, node and socket number are the same. -/
structure SameAddress (a b : SockaddrIpx) : Prop where
  netnum : a.netnum = b.netnum
  nodenum : a.nodenum = b.nodenum
  socket : a.socket = b.socket

theorem sameAddress_of_spxinitOf {a b : SockaddrIpx} (same : spxinitOf a = spxinitOf b) :
    SameAddress a b where
  netnum := congrArg Spxinit.netnum same
  nodenum := congrArg Spxinit.nodenum same
  socket := congrArg Spxinit.socket same

/-- At each end `getpeername` tells what `getsockname` tells at the other. -/
structure EndNames.Agree (names : EndNames) : Prop where
  client : SameAddress names.clientPeer names.acceptedName
  accepted : SameAddress names.acceptedPeer names.clientName

/-- So it is for every connection that is open at both ends. -/
def AddressesAgree (s : SpxNet) : Prop :=
  ∀ c ∈ s.connections, ∀ p q fd, openEnds s c = some (p, q, fd) →
    ∃ names, endNames p c.clientFd q fd = some names ∧ names.Agree

/-- The connection was made to the socket that the reply was for. -/
def SpxConnection.ToReplier (c : SpxConnection) : Prop :=
  c.replier = (c.server, c.listenerFd, c.listenerId)

/-- The client's socket tells the address that it was asked to connect to. -/
structure EndNames.AgreeAsAsked (names : EndNames) (c : SpxConnection) : Prop where
  nodenum : c.ToReplier → names.clientPeer.nodenum = names.acceptedName.nodenum
  socket : c.ToReplier → names.clientPeer.socket = names.acceptedName.socket
  netnum : c.ToReplier → c.ipxaddr.netnum ≠ zeroNet →
    names.clientPeer.netnum = names.acceptedName.netnum
  accepted : SameAddress names.acceptedPeer names.clientName

theorem ConnectionInv.endNames {s : SpxNet} {c : SpxConnection} (inv : ConnectionInv s c)
    {p q : Process} {fd : Nat} (isOpen : openEnds s c = some (p, q, fd)) :
    ∃ names, endNames p c.clientFd q fd = some names ∧ names.AgreeAsAsked c := by
  obtain ⟨at_client, at_server, e, e', client, same, accepted, returned⟩ := openEnds_some isOpen
  obtain ⟨settled, connected, remote, sent⟩ := inv.client.holds p e at_client client same
  obtain ⟨settled', connected', addr, received⟩ :=
    (inv.accepted fd e'.id returned).holds q e' at_server accepted rfl
  refine ⟨_, endNames_eq client settled.bound connected accepted settled'.bound connected', ?_⟩
  constructor
  · intro replied
    rw [remote, addr]
    exact (inv.replied replied).nodenum
  · intro replied
    rw [remote, addr]
    exact (inv.replied replied).socket
  · intro replied exact
    rw [remote, addr]
    exact (inv.replied replied).netnum.resolve_right exact
  · exact sameAddress_of_spxinitOf (received.trans sent.symm)

/-- Throughout a run the ends of every connection agree: at the accepted socket always, and at
the client where the socket that had replied was connected to, but for a network number of
zero. -/
theorem spxMoves_agreeAsAsked (hostOf : UInt32 → Option Nat) (hosts : List Nat)
    (inputs : List SpxInput) :
    ∀ m ∈ spxMoves hostOf hosts inputs, ∀ c ∈ m.after.connections, ∀ p q fd,
      openEnds m.after c = some (p, q, fd) →
        ∃ names, endNames p c.clientFd q fd = some names ∧ names.AgreeAsAsked c := by
  intro m member c here p q fd isOpen
  exact ((spxMoves_netInv hostOf hosts inputs m member).connections c here).endNames isOpen

/-! ## Two runs in which the ends do not agree -/

/-- The process on host 0 accepts the first connection, to its socket with descriptor `fd`. -/
def acceptInput (fd : Nat) (spxinit : Spxinit) : SpxInput :=
  .accept 0 fd true (some 14)
    ⟨some ⟨0, 0, {}, 0, 0, ⟨0, 0, 0, 0⟩, 0, ⟨0, 0, 0, 0⟩, 0⟩, some 5, some spxinit, some 10⟩ 0

/-- The address that the client is bound to as it connects. -/
def clientSpxinit : Spxinit := ⟨1, 0x20000, htons 1024⟩

/-- A connection to `addr`, from its lookup to `accept`. -/
def joinRun (addr : SockaddrIpx) : List SpxInput :=
  lookupInputs addr ++
    [.wake 0 (.received (some 0)) connectingEnv (some (0, 3)) none, acceptInput 3 clientSpxinit]

/-- The addresses at the ends of the first connection, after step `n`. -/
def namesAfter (inputs : List SpxInput) (n : Nat) : Option EndNames := do
  let m ← (spxMoves lanHostOf [0, 1] inputs)[n]?
  let c ← m.after.connections[0]?
  let (p, q, fd) ← openEnds m.after c
  endNames p c.clientFd q fd

/-- Addresses that do not agree are those of some connection. -/
theorem not_addressesAgree {inputs : List SpxInput} {n : Nat} {names : EndNames}
    (after : namesAfter inputs n = some names) (disagree : ¬ names.Agree) :
    ¬ ∀ m ∈ spxMoves lanHostOf [0, 1] inputs, AddressesAgree m.after := by
  intro agree
  unfold namesAfter at after
  obtain ⟨m, at_n, after⟩ := Option.bind_eq_some_iff.mp after
  obtain ⟨c, here, after⟩ := Option.bind_eq_some_iff.mp after
  obtain ⟨⟨p, q, fd⟩, isOpen, told⟩ := Option.bind_eq_some_iff.mp after
  obtain ⟨names', told', same⟩ :=
    agree m (List.mem_of_getElem? at_n) c (List.mem_of_getElem? here) p q fd isOpen
  obtain rfl := Option.some.inj (told.symm.trans told')
  exact disagree same

/-- With a network number of zero the client's `getpeername` tells zero; and where another
socket has got the port of the one that had replied, it tells the address of the latter. -/
theorem joinRun_not_addressesAgree :
    (¬ ∀ m ∈ spxMoves lanHostOf [0, 1] (joinRun ⟨AF_IPX, zeroNet, 0x10000, htons 0x4000⟩),
      AddressesAgree m.after) ∧
    ¬ ∀ m ∈ spxMoves lanHostOf [0, 1] (staleReplyRun ++ [acceptInput 6 clientSpxinit]),
      AddressesAgree m.after := by
  constructor
  · have after : namesAfter (joinRun ⟨AF_IPX, zeroNet, 0x10000, htons 0x4000⟩) 7 =
        some ⟨⟨AF_IPX, zeroNet, 0x10000, htons 0x4000⟩, ⟨AF_IPX, 1, 0x20000, htons 1024⟩,
          ⟨AF_IPX, 1, 0x20000, htons 1024⟩, listenerAddr⟩ := by
      decide
    refine not_addressesAgree after fun agree => ?_
    exact absurd agree.client.netnum (by decide)
  · have after : namesAfter (staleReplyRun ++ [acceptInput 6 clientSpxinit]) 15 =
        some ⟨listenerAddr, ⟨AF_IPX, 1, 0x20000, htons 1024⟩,
          ⟨AF_IPX, 1, 0x20000, htons 1024⟩, ⟨AF_IPX, 1, 0x10000, htons 0x5000⟩⟩ := by
      decide
    refine not_addressesAgree after fun agree => ?_
    exact absurd agree.client.socket (by decide)

/-- The address is asked for exactly, and the connection is accepted. -/
theorem joinRun_agreeAsAsked :
    ∃ m ∈ spxMoves lanHostOf [0, 1] (joinRun listenerAddr), ∃ c ∈ m.after.connections,
      c.ToReplier ∧ c.ipxaddr = listenerAddr ∧ ∃ p q fd, openEnds m.after c = some (p, q, fd) ∧
        ∃ names, endNames p c.clientFd q fd = some names ∧ names.AgreeAsAsked c := by
  have accepted : ((spxMoves lanHostOf [0, 1] (joinRun listenerAddr))[7]?).bind (fun m =>
      (m.after.connections[0]?).bind fun c => (openEnds m.after c).map fun _ =>
        (c.replier, (c.server, c.listenerFd, c.listenerId), c.ipxaddr)) =
      some ((0, 3, 0), (0, 3, 0), listenerAddr) := by
    decide
  obtain ⟨m, at_n, accepted⟩ := Option.bind_eq_some_iff.mp accepted
  obtain ⟨c, here, accepted⟩ := Option.bind_eq_some_iff.mp accepted
  obtain ⟨⟨p, q, fd⟩, isOpen, known⟩ := Option.map_eq_some_iff.mp accepted
  obtain ⟨replier, known⟩ := Prod.mk.inj known
  obtain ⟨listener, addr⟩ := Prod.mk.inj known
  have member := List.mem_of_getElem? at_n
  have connection := List.mem_of_getElem? here
  exact ⟨m, member, c, connection, replier.trans listener.symm, addr, p, q, fd, isOpen,
    spxMoves_agreeAsAsked lanHostOf [0, 1] (joinRun listenerAddr) m member c connection p q fd
      isOpen⟩

end IpxWrapper
