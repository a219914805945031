import IpxWrapper.SocketNumbersCalls
import IpxWrapper.SpxNetwork

/-!
# Sockets and their TCP sockets

The flags and the port of an SPX socket tell the state of its TCP socket (`TcpAgrees`).
A socket that listens or is connected is `Settled`: no call of its process writes it
any more, until it is closed.
-/

namespace IpxWrapper

open Base LockProg

/-! ## Entries and TCP sockets -/

/-- What the flags and the port of an SPX socket tell. -/
structure TcpAgrees (sock : IpxSocket) (tcp : TcpState) : Prop where
  listening : sock.flags.listening = true → sock.flags.bound = true ∧ tcp = .listening sock.port
  listens : ∀ port, tcp = .listening port → sock.flags.listening = true
  bound : sock.flags.bound = true → sock.flags.listening = false →
    tcp = .bound sock.port ∨ tcp = .connected

/-- The socket listens or is connected. -/
structure Settled (sock : IpxSocket) (tcp : TcpState) : Prop where
  isSpx : sock.flags.isSpx = true
  bound : sock.flags.bound = true
  tcp : (∃ port, tcp = .listening port) ∨ tcp = .connected

/-- A socket stays of its kind, and as it is if it is settled. -/
structure Keeps (sock : IpxSocket) (tcp : TcpState) (sock' : IpxSocket) (tcp' : TcpState) : Prop where
  isSpx : sock'.flags.isSpx = sock.flags.isSpx
  settled : Settled sock tcp → sock' = sock ∧ tcp' = tcp

theorem Keeps.refl (sock : IpxSocket) (tcp : TcpState) : Keeps sock tcp sock tcp :=
  ⟨rfl, fun _ => ⟨rfl, rfl⟩⟩

structure ProcessInv (p : Process) : Prop where
  old : ∀ fd e, p.world.sockets fd = some e → e.id < p.world.nextId
  agrees : ∀ fd e, p.world.sockets fd = some e → e.sock.flags.isSpx = true →
    TcpAgrees e.sock (p.tcp fd)

/-- From `p` to `p'` a socket is kept or is closed. -/
structure ProcessStep (p p' : Process) : Prop where
  inv : ProcessInv p'
  host : p'.host = p.host
  nextId : p.world.nextId ≤ p'.world.nextId
  entries : ∀ fd e', p'.world.sockets fd = some e' → e'.id < p.world.nextId →
    ∃ e, p.world.sockets fd = some e ∧ e.id = e'.id ∧
      Keeps e.sock (p.tcp fd) e'.sock (p'.tcp fd)

section Steps

variable {p p' : Process} {fd : Nat} {e : TableEntry} {sock : IpxSocket} {tcp : TcpState}

/-- The table stays, and so do the TCP sockets of what is in it. -/
theorem ProcessInv.same (inv : ProcessInv p) (host : p'.host = p.host)
    (sockets : p'.world.sockets = p.world.sockets) (nextId : p'.world.nextId = p.world.nextId)
    (same : ∀ fd e, p.world.sockets fd = some e → p'.tcp fd = p.tcp fd) : ProcessStep p p' where
  inv :=
    { old := fun fd e found => by
        rw [sockets] at found
        rw [nextId]
        exact inv.old fd e found
      agrees := fun fd e found isSpx => by
        rw [sockets] at found
        rw [same fd e found]
        exact inv.agrees fd e found isSpx }
  host := host
  nextId := Nat.le_of_eq nextId.symm
  entries := fun fd e found _ => by
    rw [sockets] at found
    refine ⟨e, found, rfl, ?_⟩
    rw [same fd e found]
    exact .refl _ _

theorem ProcessStep.refl (inv : ProcessInv p) : ProcessStep p p :=
  inv.same rfl rfl rfl fun _ _ _ => rfl

/-- One descriptor gets an entry: a new one, or one that keeps the one that it had. -/
theorem ProcessInv.put (inv : ProcessInv p) (host : p'.host = p.host)
    (sockets : p'.world.sockets = Function.update p.world.sockets fd (some e))
    (nextId : p.world.nextId ≤ p'.world.nextId) (tcps : p'.tcp = Function.update p.tcp fd tcp)
    (id : e.id < p'.world.nextId) (agrees : e.sock.flags.isSpx = true → TcpAgrees e.sock tcp)
    (before : e.id < p.world.nextId → ∃ e₀, p.world.sockets fd = some e₀ ∧ e₀.id = e.id ∧
      Keeps e₀.sock (p.tcp fd) e.sock tcp) : ProcessStep p p' := by
  have cases {fd' : Nat} {e' : TableEntry} (found : p'.world.sockets fd' = some e') :
      (fd' = fd ∧ e' = e ∧ p'.tcp fd' = tcp) ∨
        (p.world.sockets fd' = some e' ∧ p'.tcp fd' = p.tcp fd') := by
    rw [sockets] at found
    rw [tcps]
    rcases eq_or_ne fd' fd with rfl | other
    · rw [Function.update_self] at found ⊢
      exact Or.inl ⟨rfl, (Option.some.inj found).symm, rfl⟩
    · rw [Function.update_of_ne other] at found ⊢
      exact Or.inr ⟨found, rfl⟩
  constructor
  · constructor
    · intro fd' e' found
      rcases cases found with ⟨-, rfl, -⟩ | ⟨found, -⟩
      · exact id
      · exact Nat.lt_of_lt_of_le (inv.old fd' e' found) nextId
    · intro fd' e' found isSpx
      rcases cases found with ⟨rfl, rfl, tcp'⟩ | ⟨found, tcp'⟩
      · rw [tcp']
        exact agrees isSpx
      · rw [tcp']
        exact inv.agrees fd' e' found isSpx
  · exact host
  · exact nextId
  · intro fd' e' found old
    rcases cases found with ⟨rfl, rfl, tcp'⟩ | ⟨found, tcp'⟩
    · rw [tcp']
      exact before old
    · rw [tcp']
      exact ⟨e', found, rfl, .refl _ _⟩

/-- An entry is written, with the state of its TCP socket. -/
theorem ProcessInv.write (inv : ProcessInv p) (at_fd : p.world.sockets fd = some e)
    (host : p'.host = p.host)
    (sockets : p'.world.sockets =
      Function.update p.world.sockets fd (some { e with sock := sock }))
    (nextId : p'.world.nextId = p.world.nextId) (tcps : p'.tcp = Function.update p.tcp fd tcp)
    (agrees : sock.flags.isSpx = true → TcpAgrees sock tcp)
    (keeps : Keeps e.sock (p.tcp fd) sock tcp) : ProcessStep p p' := by
  refine inv.put host sockets (Nat.le_of_eq nextId.symm) tcps ?_ agrees fun _ =>
    ⟨e, at_fd, rfl, keeps⟩
  rw [nextId]
  exact inv.old fd e at_fd

/-- A new socket is added to the table. -/
theorem ProcessInv.add (inv : ProcessInv p) (host : p'.host = p.host)
    (sockets : p'.world.sockets =
      Function.update p.world.sockets fd (some ⟨p.world.nextId, sock⟩))
    (nextId : p'.world.nextId = p.world.nextId + 1)
    (tcps : p'.tcp = Function.update p.tcp fd tcp)
    (agrees : sock.flags.isSpx = true → TcpAgrees sock tcp) : ProcessStep p p' := by
  refine inv.put host sockets (by omega) tcps ?_ agrees fun old => ?_
  · rw [nextId]
    exact Nat.lt_succ_self _
  · exact absurd old (Nat.lt_irrefl _)

/-- An entry is taken out. -/
theorem ProcessInv.remove (inv : ProcessInv p) (fd : Nat) (host : p'.host = p.host)
    (sockets : p'.world.sockets = Function.update p.world.sockets fd none)
    (nextId : p'.world.nextId = p.world.nextId) (tcps : p'.tcp = p.tcp) : ProcessStep p p' := by
  have found' {fd' : Nat} {e' : TableEntry} (found : p'.world.sockets fd' = some e') :
      p.world.sockets fd' = some e' := by
    rw [sockets] at found
    by_cases same : fd' = fd
    · rw [same, Function.update_self] at found
      cases found
    · rwa [Function.update_of_ne same] at found
  constructor
  · constructor
    · intro fd' e' found
      rw [nextId]
      exact inv.old fd' e' (found' found)
    · intro fd' e' found isSpx
      rw [tcps]
      exact inv.agrees fd' e' (found' found) isSpx
  · exact host
  · exact Nat.le_of_eq nextId.symm
  · intro fd' e' found _
    rw [tcps]
    exact ⟨e', found' found, rfl, .refl _ _⟩

end Steps

/-! ## Calls -/

section Calls

variable {p p' : Process} {w : World} {fd : Nat} {e : TableEntry}

/-- A socket that is not bound does not listen. -/
theorem TcpAgrees.not_listening {sock : IpxSocket} {tcp : TcpState} (agrees : TcpAgrees sock tcp)
    (unbound : sock.flags.bound = false) : sock.flags.listening = false := by
  cases listening : sock.flags.listening with
  | false => rfl
  | true =>
      have bound := (agrees.listening listening).1
      rw [unbound] at bound
      cases bound

/-- A socket that is not bound agrees with any TCP socket that does not listen. -/
theorem TcpAgrees.of_unbound {sock : IpxSocket} {tcp : TcpState}
    (unbound : sock.flags.bound = false) (silent : sock.flags.listening = false)
    (not_listening : ∀ port, tcp ≠ .listening port) : TcpAgrees sock tcp where
  listening := fun listening => absurd (silent.symm.trans listening) Bool.false_ne_true
  listens := fun port listens => absurd listens (not_listening port)
  bound := fun bound => absurd (unbound.symm.trans bound) Bool.false_ne_true

/-- `bind` of the socket of `e`: its table and how it ends. -/
inductive BindTable (env : BindEnv) (w : World) (fd : Nat) (e : TableEntry) :
    CallOut × World → Prop where
  | refused {error : UInt32} : BindTable env w fd e (.fail error, w)
  | unbound {out : CallOut} {w' : World} {sock : IpxSocket}
      (sockets : w'.sockets = Function.update w.sockets fd (some { e with sock := sock }))
      (nextId : w'.nextId = w.nextId) (was : e.sock.flags.bound = false)
      (flags : sock.flags = e.sock.flags) : BindTable env w fd e (out, w')
  | bound {w' : World} {sock : IpxSocket}
      (sockets : w'.sockets = Function.update w.sockets fd (some { e with sock := sock }))
      (nextId : w'.nextId = w.nextId) (was : e.sock.flags.bound = false)
      (flags : sock.flags = { e.sock.flags with bound := true }) (rBind : env.rBind = true)
      (port : env.rGetsockname = some sock.port) : BindTable env w fd e (.ok 0, w')

theorem bindSocket_table (addr : SockaddrIpx) (addrlen : Nat) {env : BindEnv}
    (fresh : w.handles env.mutex.handle = none) :
    BindTable env w fd e (bindSocket fd e addr addrlen env w) := by
  unfold bindSocket
  split
  · exact .refused
  split
  · exact .refused
  case isFalse notBound =>
    have was : e.sock.flags.bound = false := eq_false_of_ne_true notBound
    dsimp only
    split
    · exact .unbound rfl rfl was rfl
    case h_2 sock resolved =>
      obtain ⟨flags, -⟩ := resolveBindAddress_spec resolved
      rcases completeBind_cases e.id sock fresh with
        ⟨sockMut, failed⟩ | ⟨addr', completed, -⟩
      · rw [failed]
        exact .unbound rfl rfl was flags
      · rw [completed]
        have unbinds : { sock.flags with bound := false } = e.sock.flags := by
          rw [flags, ← was]
        dsimp only
        split
        · exact .unbound rfl rfl was unbinds
        case isFalse rBind =>
          rcases port : env.rGetsockname with _ | port'
          · exact .unbound rfl rfl was unbinds
          · exact .bound rfl rfl was (by rw [flags]) (not_not.mp rBind) port

/-- An SPX socket is written that was not bound and is not. -/
theorem ProcessInv.write_unbound (inv : ProcessInv p) (at_fd : p.world.sockets fd = some e)
    {sock : IpxSocket} {tcp : TcpState} (host : p'.host = p.host)
    (sockets : p'.world.sockets =
      Function.update p.world.sockets fd (some { e with sock := sock }))
    (nextId : p'.world.nextId = p.world.nextId) (tcps : p'.tcp = Function.update p.tcp fd tcp)
    (was : e.sock.flags.bound = false) (isSpx : sock.flags.isSpx = e.sock.flags.isSpx)
    (bound : sock.flags.bound = false) (silent : sock.flags.listening = e.sock.flags.listening)
    (state : e.sock.flags.isSpx = true → tcp = p.tcp fd ∨ ∀ port, tcp ≠ .listening port) :
    ProcessStep p p' := by
  refine inv.write at_fd host sockets nextId tcps (fun spx => ?_) ⟨isSpx, fun settled => ?_⟩
  · rw [isSpx] at spx
    have agrees := inv.agrees fd e at_fd spx
    have not_listening := agrees.not_listening was
    refine .of_unbound bound (silent.trans not_listening) fun port listens => ?_
    rcases state spx with same | never
    · rw [same] at listens
      rw [agrees.listens port listens] at not_listening
      cases not_listening
    · exact never port listens
  · have bound := settled.bound
    rw [was] at bound
    cases bound

theorem ProcessInv.of_bindTable (inv : ProcessInv p) (at_fd : p.world.sockets fd = some e)
    {addr : SockaddrIpx} {addrlen : Nat} {env : BindEnv} {result : CallOut × World}
    (outcome : BindTable env p.world fd e result) {port : UInt16} {tcp : Nat → TcpState}
    (after : SocketCall.tcpAfter p.world result.1 port p.tcp (.bind fd addr addrlen env) =
      some tcp) : ProcessStep p { p with world := result.2, tcp := tcp } := by
  simp only [SocketCall.tcpAfter] at after
  rw [at_fd, Option.any_some] at after
  cases outcome with
  | refused =>
      rw [if_neg (fun called => by cases called.2.1)] at after
      obtain rfl := Option.some.inj after
      exact .refl inv
  | unbound sockets nextId was flags =>
      have isSpx : _ = e.sock.flags.isSpx := congrArg SocketFlags.isSpx flags
      have bound : _ = e.sock.flags.bound := congrArg SocketFlags.bound flags
      have silent : _ = e.sock.flags.listening := congrArg SocketFlags.listening flags
      split at after
      · split at after
        · obtain rfl := Option.some.inj after
          exact inv.write_unbound at_fd rfl sockets nextId rfl was isSpx (bound.trans was) silent
            fun _ => Or.inr fun _ => nofun
        · cases after
      · obtain rfl := Option.some.inj after
        exact inv.write_unbound at_fd rfl sockets nextId (Function.update_eq_self fd p.tcp).symm
          was isSpx (bound.trans was) silent fun _ => Or.inl rfl
  | bound sockets nextId was flags rBind reported =>
      cases isSpx : e.sock.flags.isSpx with
      | false =>
          rw [if_neg (fun called => by
            rw [isSpx] at called
            cases called.1)] at after
          obtain rfl := Option.some.inj after
          refine inv.write at_fd rfl sockets nextId (Function.update_eq_self fd p.tcp).symm
            (fun spx => ?_) ⟨by rw [flags], fun settled => ?_⟩
          · rw [flags, isSpx] at spx
            cases spx
          · rw [settled.isSpx] at isSpx
            cases isSpx
      | true =>
          rw [if_pos ⟨isSpx, rfl, rBind⟩] at after
          split at after
          case isTrue allowed =>
            obtain rfl := Option.some.inj after
            obtain ⟨-, same⟩ := allowed
            rw [reported, Option.all_some, decide_eq_true_eq] at same
            have silent := (inv.agrees fd e at_fd isSpx).not_listening was
            refine inv.write at_fd rfl sockets nextId rfl (fun _ => ?_)
              ⟨by rw [flags], fun settled => ?_⟩
            · refine ⟨fun listening => ?_, fun _ => nofun, fun _ _ => Or.inl (by rw [same])⟩
              rw [flags, silent] at listening
              cases listening
            · rw [settled.bound] at was
              cases was
          case isFalse => cases after

theorem ProcessInv.bind (inv : ProcessInv p) (fd : Nat) (addr : SockaddrIpx) (addrlen : Nat)
    {env : BindEnv} (fresh : p.world.handles env.mutex.handle = none) (underlying : Int)
    {port : UInt16} {tcp : Nat → TcpState}
    (after : SocketCall.tcpAfter p.world
      (IpxWrapper.bind fd addr addrlen env underlying p.world).1 port p.tcp
        (.bind fd addr addrlen env) = some tcp) :
    ProcessStep p
      { p with world := (IpxWrapper.bind fd addr addrlen env underlying p.world).2, tcp := tcp } := by
  rcases at_fd : p.world.sockets fd with _ | e
  · have passed :
        IpxWrapper.bind fd addr addrlen env underlying p.world = (.ok underlying, p.world) := by
      unfold IpxWrapper.bind
      rw [at_fd]
    rw [passed] at after ⊢
    simp only [SocketCall.tcpAfter] at after
    rw [at_fd, Option.any_none, if_neg (fun called => by cases called.1)] at after
    obtain rfl := Option.some.inj after
    exact .refl inv
  · have called : IpxWrapper.bind fd addr addrlen env underlying p.world =
        bindSocket fd e addr addrlen env p.world := by
      unfold IpxWrapper.bind
      rw [at_fd]
    rw [called] at after ⊢
    exact inv.of_bindTable at_fd (bindSocket_table addr addrlen fresh) after

/-- From `w` to `w'` the socket of `e` is written, and not made an SPX socket. -/
def WritesKind (w : World) (fd : Nat) (e : TableEntry) (w' : World) : Prop :=
  ∃ sock : IpxSocket, sock.flags.isSpx = e.sock.flags.isSpx ∧
    w'.sockets = Function.update w.sockets fd (some { e with sock := sock }) ∧
    w'.nextId = w.nextId

theorem WritesKind.refl (at_fd : w.sockets fd = some e) : WritesKind w fd e w := by
  refine ⟨e.sock, rfl, ?_, rfl⟩
  rw [← at_fd, Function.update_eq_self]

theorem WritesKind.store {sock : IpxSocket} (isSpx : sock.flags.isSpx = e.sock.flags.isSpx) :
    WritesKind w fd e (w.store fd e sock) :=
  ⟨sock, isSpx, rfl, rfl⟩

theorem BindTable.writesKind {env : BindEnv} {result : CallOut × World}
    (outcome : BindTable env w fd e result) (at_fd : w.sockets fd = some e) :
    WritesKind w fd e result.2 := by
  cases outcome with
  | refused => exact .refl at_fd
  | unbound sockets nextId was flags =>
      exact ⟨_, congrArg SocketFlags.isSpx flags, sockets, nextId⟩
  | bound sockets nextId was flags rBind port =>
      exact ⟨_, by rw [flags], sockets, nextId⟩

/-- The socket that was written is written once more. -/
theorem WritesKind.store_again {w' : World} (writes : WritesKind w fd e w') {e' : TableEntry}
    (at_fd : w'.sockets fd = some e') {sock : IpxSocket}
    (isSpx : sock.flags.isSpx = e'.sock.flags.isSpx) :
    WritesKind w fd e (w'.store fd e' sock) := by
  obtain ⟨sock₁, isSpx₁, sockets, nextId⟩ := writes
  rw [sockets, Function.update_self] at at_fd
  obtain rfl := Option.some.inj at_fd
  refine ⟨sock, isSpx.trans isSpx₁, ?_, nextId⟩
  change Function.update w'.sockets fd _ = _
  rw [sockets, Function.update_idem]

theorem connectDgram_writesKind (at_fd : w.sockets fd = some e) (addr : SockaddrIpx)
    (addrlen : Nat) {env : ConnectEnv} (fresh : w.handles env.bind.mutex.handle = none) :
    WritesKind w fd e (connectDgram fd e addr addrlen env w).2 := by
  have implicit : WritesKind w fd e
      (IpxWrapper.bind fd ⟨AF_IPX, addr.netnum, 0, 0⟩ sizeofSockaddrIpx env.bind 0 w).2 := by
    unfold IpxWrapper.bind
    rw [at_fd]
    exact (bindSocket_table _ _ fresh).writesKind at_fd
  unfold connectDgram
  dsimp only
  split
  · exact .store rfl
  split
  · exact .refl at_fd
  split
  · exact .refl at_fd
  split
  · exact .store rfl
  split
  · exact .store rfl
  split
  · exact implicit
  split
  · exact implicit
  case h_2 e' at_fd' => exact implicit.store_again at_fd' rfl

/-- `connect` on a datagram socket. -/
theorem ProcessInv.connect (inv : ProcessInv p) (fd : Nat) (addr : SockaddrIpx) (addrlen : Nat)
    {env : ConnectEnv} (fresh : p.world.handles env.bind.mutex.handle = none) (underlying : Int)
    (other : (p.world.sockets fd).any (·.sock.flags.isSpx) = false) :
    ProcessStep p
      { p with world := (IpxWrapper.connect fd addr addrlen env underlying p.world).2 } := by
  unfold IpxWrapper.connect
  rcases at_fd : p.world.sockets fd with _ | e
  · exact .refl inv
  · rw [at_fd, Option.any_some] at other
    dsimp only
    rw [if_neg (by rw [other]; exact Bool.false_ne_true)]
    obtain ⟨sock, isSpx, sockets, nextId⟩ := connectDgram_writesKind at_fd addr addrlen fresh
    refine inv.write at_fd rfl sockets nextId (Function.update_eq_self fd p.tcp).symm
      (fun spx => ?_) ⟨isSpx, fun settled => ?_⟩
    · rw [isSpx, other] at spx
      cases spx
    · rw [settled.isSpx] at other
      cases other

theorem ProcessInv.socket (inv : ProcessInv p) (af : UInt16) (type protocol : Int)
    {env : SocketEnv} (fresh : ∀ fd ∈ env.rSocket, p.world.sockets fd = none)
    (underlying : Int) {out : CallOut} {port : UInt16} {tcp : Nat → TcpState}
    (after : SocketCall.tcpAfter p.world out port p.tcp (.socket af type protocol env) =
      some tcp) :
    ProcessStep p
      { p with world := (IpxWrapper.socket af type protocol env underlying p.world).2, tcp := tcp } := by
  have same : ∀ fd e, p.world.sockets fd = some e → tcp fd = p.tcp fd := by
    intro fd e found
    simp only [SocketCall.tcpAfter] at after
    rcases made : env.rSocket with _ | fd'
    · rw [made] at after
      obtain rfl := Option.some.inj after
      rfl
    · rw [made] at after
      obtain rfl := Option.some.inj after
      refine Function.update_of_ne (fun used => ?_) _ _
      rw [used, fresh fd' made] at found
      cases found
  have unchanged : ProcessStep p { p with tcp := tcp } := inv.same rfl rfl rfl same
  have adds {fd : Nat} {sock : IpxSocket} {w : World} (made : env.rSocket = some fd)
      (sockets : w.sockets = Function.update p.world.sockets fd (some ⟨p.world.nextId, sock⟩))
      (nextId : w.nextId = p.world.nextId + 1) (unbound : sock.flags.bound = false)
      (silent : sock.flags.listening = false) :
      ProcessStep p { p with world := w, tcp := tcp } := by
    simp only [SocketCall.tcpAfter, made] at after
    obtain rfl := Option.some.inj after
    exact inv.add rfl sockets nextId rfl fun _ => .of_unbound unbound silent fun _ => nofun
  unfold IpxWrapper.socket
  split
  · split
    · unfold socketDgram
      cases env.nsock with
      | none => exact unchanged
      | some nsock =>
          cases env.recvQueue with
          | none => exact unchanged
          | some ptr =>
              cases env.criticalSection with
              | some error => exact inv.same rfl rfl rfl same
              | none =>
                  rcases made : env.rSocket with _ | fd
                  · have released := releaseRecvQueue_bindings (p.world.allocQueue ptr)
                      (p.world.allocQueue ptr).nextId ptr
                    exact inv.same rfl (congrArg Bindings.sockets released)
                      (congrArg Bindings.nextId released) same
                  · exact adds made rfl rfl rfl rfl
    split
    · unfold socketStream
      split
      · exact unchanged
      split
      · exact unchanged
      cases env.nsock with
      | none => exact unchanged
      | some nsock =>
          rcases made : env.rSocket with _ | fd
          · exact unchanged
          · exact adds made rfl rfl rfl rfl
    · exact unchanged
  · exact unchanged

theorem ProcessInv.closesocket (inv : ProcessInv p) (fd : Nat) (ret : Int) :
    ProcessStep p { p with world := (IpxWrapper.closesocket fd ret p.world).2 } := by
  unfold IpxWrapper.closesocket
  rcases at_fd : p.world.sockets fd with _ | e
  · exact .refl inv
  dsimp only
  split
  · exact .refl inv
  have released : (if e.sock.recvQueue ≠ 0 then
      p.world.releaseRecvQueue e.id e.sock.recvQueue else p.world).bindings = p.world.bindings := by
    split
    · exact releaseRecvQueue_bindings p.world _ _
    · rfl
  generalize (if e.sock.recvQueue ≠ 0 then p.world.releaseRecvQueue e.id e.sock.recvQueue
    else p.world) = w at released ⊢
  have sockets : w.sockets = p.world.sockets := congrArg Bindings.sockets released
  have nextId : w.nextId = p.world.nextId := congrArg Bindings.nextId released
  refine inv.remove fd rfl ?_ ?_ rfl
  · rw [← sockets]
    dsimp only
    split <;> rfl
  · rw [← nextId]
    dsimp only
    split <;> rfl

/-- `listen` fails and changes nothing, or marks a bound socket. -/
theorem listen_cases (at_fd : w.sockets fd = some e) (underlying : Int) :
    (∃ out, out.value = -1 ∧ listen fd underlying w = (out, w)) ∨
      (e.sock.flags.isSpx = true ∧ e.sock.flags.bound = true ∧ e.sock.flags.listening = false ∧
        listen fd underlying w =
          (.ok 0, w.store fd e { e.sock with flags := { e.sock.flags with listening := true } })) := by
  unfold IpxWrapper.listen
  rw [at_fd]
  dsimp only
  split
  · exact Or.inl ⟨.fail WSAEOPNOTSUPP, rfl, rfl⟩
  case isFalse isSpx =>
    split
    · exact Or.inl ⟨.fail WSAEINVAL, rfl, rfl⟩
    case isFalse bound =>
      split
      · exact Or.inl ⟨.fail WSAEISCONN, rfl, rfl⟩
      case isFalse silent =>
        split
        · exact Or.inl ⟨.failed, rfl, rfl⟩
        · exact Or.inr ⟨not_not.mp isSpx, not_not.mp bound, eq_false_of_ne_true silent, rfl⟩

theorem ProcessInv.listen (inv : ProcessInv p) (fd : Nat) (underlying : Int)
    {port : UInt16} {tcp : Nat → TcpState}
    (after : SocketCall.tcpAfter p.world (IpxWrapper.listen fd underlying p.world).1 port p.tcp
      (.listen fd) = some tcp) :
    ProcessStep p { p with world := (IpxWrapper.listen fd underlying p.world).2, tcp := tcp } := by
  simp only [SocketCall.tcpAfter] at after
  rcases at_fd : p.world.sockets fd with _ | e
  · rw [at_fd, Option.any_none, if_neg (fun called => by cases called.1)] at after
    obtain rfl := Option.some.inj after
    unfold IpxWrapper.listen
    rw [at_fd]
    exact .refl inv
  rw [at_fd, Option.any_some] at after
  rcases listen_cases at_fd underlying with ⟨out, value, failed⟩ | ⟨isSpx, bound, silent, listens⟩
  · rw [failed] at after ⊢
    rw [if_neg (fun called => by rw [value] at called; cases called.2)] at after
    obtain rfl := Option.some.inj after
    exact .refl inv
  · rw [listens] at after ⊢
    rw [if_pos ⟨isSpx, rfl⟩] at after
    have agrees := inv.agrees fd e at_fd isSpx
    rcases state : p.tcp fd with _ | port' | port' | _
    · rw [state] at after
      cases after
    · rw [state] at after
      obtain rfl := Option.some.inj after
      have same : port' = e.sock.port := by
        rcases agrees.bound bound silent with isBound | connected
        · rw [state] at isBound
          exact TcpState.bound.inj isBound
        · rw [state] at connected
          cases connected
      refine inv.write at_fd rfl rfl rfl rfl (fun _ => ?_) ⟨rfl, fun settled => ?_⟩
      · refine ⟨fun _ => ⟨bound, by rw [same]⟩, fun _ _ => rfl, fun _ silent => ?_⟩
        cases silent
      · rcases settled.tcp with ⟨port, listening⟩ | connected
        · rw [state] at listening
          cases listening
        · rw [state] at connected
          cases connected
    · rw [state] at after
      cases after
    · rw [state] at after
      cases after

/-- `accept` fails and changes nothing, or adds the socket of a connection. -/
theorem accept_cases (at_fd : w.sockets fd = some e) (addr : Bool) (addrlen : Option Nat)
    (env : AcceptEnv) (underlying : Int) :
    (∃ out, out.value = -1 ∧ accept fd addr addrlen env underlying w = (out, w)) ∨
      ∃ nsock nfd spxinit mutex, e.sock.flags.isSpx = true ∧ env.rAccept = some nfd ∧
        env.spxinit = some spxinit ∧
        (accept fd addr addrlen env underlying w).1.value = nfd ∧
        (accept fd addr addrlen env underlying w).2 =
          (w.duplicateHandle w.nextId e.sock.sockMut mutex).addSocket
            (acceptedSocket nsock e.sock nfd mutex spxinit) := by
  unfold IpxWrapper.accept
  rw [at_fd]
  dsimp only
  split
  case isTrue isSpx =>
    unfold acceptSpx
    split
    · exact Or.inl ⟨.fail WSAEFAULT, rfl, rfl⟩
    rcases env.nsock with _ | nsock
    · exact Or.inl ⟨.fail ERROR_OUTOFMEMORY, rfl, rfl⟩
    rcases env.rAccept with _ | nfd
    · exact Or.inl ⟨.failed, rfl, rfl⟩
    rcases env.spxinit with _ | spxinit
    · exact Or.inl ⟨.fail WSAECONNRESET, rfl, rfl⟩
    rcases env.duplicate with _ | mutex
    · exact Or.inl ⟨.fail WSAENETDOWN, rfl, rfl⟩
    · exact Or.inr ⟨nsock, nfd, spxinit, mutex, isSpx, rfl, rfl, rfl, rfl⟩
  case isFalse => exact Or.inl ⟨.fail WSAEOPNOTSUPP, rfl, rfl⟩

theorem ProcessInv.accept (inv : ProcessInv p) (fd : Nat) (addr : Bool) (addrlen : Option Nat)
    {env : AcceptEnv} (underlying : Int) {port : UInt16} {tcp : Nat → TcpState}
    (after : SocketCall.tcpAfter p.world
      (IpxWrapper.accept fd addr addrlen env underlying p.world).1 port p.tcp
        (.accept fd addr addrlen env) = some tcp) :
    ProcessStep p
      { p with
        world := (IpxWrapper.accept fd addr addrlen env underlying p.world).2, tcp := tcp } := by
  simp only [SocketCall.tcpAfter] at after
  rcases at_fd : p.world.sockets fd with _ | e
  · rw [at_fd, Option.any_none, if_neg (fun called => by cases called.1)] at after
    obtain rfl := Option.some.inj after
    unfold IpxWrapper.accept
    rw [at_fd]
    exact .refl inv
  rw [at_fd, Option.any_some] at after
  rcases accept_cases at_fd addr addrlen env underlying with ⟨out, value, failed⟩ |
    ⟨nsock, nfd, spxinit, mutex, isSpx, accepted, -, value, left⟩
  · rw [failed] at after ⊢
    rw [if_neg (fun called => called.2 value)] at after
    obtain rfl := Option.some.inj after
    exact .refl inv
  · have returned : ¬ (nfd : Int) = -1 := by omega
    rw [value, if_pos ⟨isSpx, returned⟩, accepted] at after
    rw [left]
    rcases state : p.tcp fd with _ | port' | port' | _
    · rw [state] at after
      cases after
    · rw [state] at after
      cases after
    · rw [state] at after
      obtain rfl := Option.some.inj after
      refine inv.add rfl rfl rfl rfl fun _ => ?_
      exact ⟨fun listening => (by cases listening), fun _ => nofun, fun _ _ => Or.inr rfl⟩
    · rw [state] at after
      cases after

/-- What a call leaves, other than `connect` on an SPX socket. -/
theorem ProcessInv.call (inv : ProcessInv p) {call : SocketCall} {underlying : Int}
    {port : UInt16} {out : CallOut} (called : p.call call underlying port = some (out, p')) :
    ProcessStep p p' := by
  unfold Process.call at called
  split at called
  case isFalse => cases called
  case isTrue allowed =>
    obtain ⟨fresh, other⟩ := allowed
    obtain ⟨tcp, after, same⟩ := Option.map_eq_some_iff.mp called
    obtain ⟨-, rfl⟩ := Prod.mk.inj same
    cases call with
    | socket af type protocol env => exact inv.socket af type protocol fresh.1 underlying after
    | bind fd addr addrlen env => exact inv.bind fd addr addrlen fresh underlying after
    | connect fd addr addrlen env =>
        obtain rfl := Option.some.inj after
        exact inv.connect fd addr addrlen fresh.2 underlying (eq_false_of_ne_true other)
    | listen fd => exact inv.listen fd underlying after
    | accept fd addr addrlen env => exact inv.accept fd addr addrlen underlying after
    | closesocket fd =>
        obtain rfl := Option.some.inj after
        exact inv.closesocket fd underlying

end Calls

end IpxWrapper
