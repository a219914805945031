import IpxWrapper.LockLevels
import IpxWrapper.SocketNumbersInv

/-!
# What each call does to the bindings

`bind`, and the calls that bind a socket implicitly, leave the socket as it was or
bind it with a handle of the mutex of its number; where this handle has to be the
first of the mutex, `CreateMutex` has made the mutex.
-/

namespace IpxWrapper

open Base LockProg

/-! ## Asking for a number -/

/-- The socket of `e` is written, and is bound as before. -/
def StaysBound (w : World) (fd : Nat) (e : TableEntry) (w' : World) : Prop :=
  ∃ sock, SameBinding e.sock sock ∧ w'.bindings = w.bindings.put fd { e with sock := sock }

/-- The socket of `e` is bound after it asked for a number. -/
def BindsTo (env : MutexEnv) (asked : UInt16) (w : World) (fd : Nat) (e : TableEntry)
    (w' : World) : Prop :=
  ∃ sock, sock.sockMut = env.handle ∧ sock.flags.bound = true ∧
    (e.sock.flags.reuse = false ∨ asked = 0 →
      env.createMutex (htons sock.addr.socket) = .created) ∧
    w'.bindings =
      (w.bindings.hold env.handle ⟨e.id, htons sock.addr.socket⟩).put fd { e with sock := sock }

section Asking

variable {w w' : World} {fd : Nat} {e : TableEntry} {sock : IpxSocket} {env : MutexEnv}
  {asked : UInt16}

theorem SameBinding.refl (sock : IpxSocket) : SameBinding sock sock :=
  ⟨rfl, fun _ => ⟨rfl, rfl⟩, Or.inl⟩

/-- An unbound socket may get any address. -/
theorem SameBinding.of_unbound {sock' : IpxSocket} (unbound : sock.flags.bound = false)
    (bound : sock'.flags.bound = sock.flags.bound)
    (listening : sock'.flags.listening = sock.flags.listening) : SameBinding sock sock' where
  bound := bound
  held := fun isBound => absurd (unbound.symm.trans isBound) Bool.false_ne_true
  listening := fun isListening => Or.inl (listening.symm.trans isListening)

theorem StaysBound.refl (at_fd : w.sockets fd = some e) : StaysBound w fd e w := by
  refine ⟨e.sock, .refl _, ?_⟩
  unfold World.bindings Bindings.put
  dsimp only
  rw [← at_fd, Function.update_eq_self]

theorem StaysBound.store (same : SameBinding e.sock sock) :
    StaysBound w fd e (w.store fd e sock) :=
  ⟨sock, same, rfl⟩

theorem StaysBound.effect (stays : StaysBound w fd e w') (at_fd : w.sockets fd = some e) :
    BindingEffect w.bindings w'.bindings := by
  obtain ⟨sock, same, left⟩ := stays
  rw [left]
  exact .writes at_fd same

/-- A handle that is not open. -/
theorem lookup_of_handles {handle : Nat} (fresh : w.handles handle = none) :
    w.bindings.mutexHandles.lookup handle = none :=
  Option.map_eq_none_iff.mp fresh

theorem BindsTo.effect (binds : BindsTo env asked w fd e w') (at_fd : w.sockets fd = some e)
    (unbound : e.sock.flags.bound = false) (fresh : w.handles env.handle = none) :
    BindingEffect w.bindings w'.bindings := by
  obtain ⟨sock, mutex, bound, -, left⟩ := binds
  have fresh := lookup_of_handles fresh
  rw [← mutex] at fresh
  rw [left, ← mutex]
  exact .binds at_fd unbound fresh bound

/-- What is written over a bound socket, and keeps it bound. -/
theorem BindsTo.store (binds : BindsTo env asked w fd e w') {e' : TableEntry}
    (at_fd : w'.sockets fd = some e') {f : IpxSocket → IpxSocket}
    (mutex : ∀ sock, (f sock).sockMut = sock.sockMut)
    (bound : ∀ sock, (f sock).flags.bound = sock.flags.bound)
    (addr : ∀ sock, (f sock).addr = sock.addr) :
    BindsTo env asked w fd e (w'.store fd e' (f e'.sock)) := by
  obtain ⟨sock, own, isBound, created, left⟩ := binds
  have sockets : w'.bindings.sockets fd = some e' := at_fd
  rw [left, put_self] at sockets
  obtain rfl := Option.some.inj sockets
  refine ⟨f sock, (mutex sock).trans own, (bound sock).trans isBound, ?_, ?_⟩
  · rw [addr]
    exact created
  · change w'.bindings.put fd _ = _
    rw [left, addr]
    unfold Bindings.put
    dsimp only
    rw [Function.update_idem]

/-! ## `_complete_bind` -/

/-- A handle that must be the first of its mutex is one of a mutex that was made for it. -/
theorem openSocketMutex_some {id handle : Nat} {n : UInt16} {exclusive : Bool}
    (opened : openSocketMutex env id n exclusive w = (some handle, w')) :
    exclusive = true → env.createMutex n = .created := by
  intro isExclusive
  unfold openSocketMutex at opened
  rcases outcome : env.createMutex n with _ | _ | _
  · rw [outcome] at opened
    cases opened
  · rfl
  · rw [outcome] at opened
    dsimp only at opened
    rw [if_pos isExclusive] at opened
    cases opened

theorem completeBind_created {id : Nat} {sock' : IpxSocket}
    (completed : completeBind env id sock w = (true, sock', w'))
    (exclusive : sock.flags.reuse = false ∨ htons sock.addr.socket = 0) :
    env.createMutex (htons sock'.addr.socket) = .created := by
  unfold completeBind at completed
  split at completed
  · -- The number is the one that the search has come to.
    obtain ⟨result, done⟩ := dynamicBind_done env id sock w
    rw [done] at completed
    have created : result.1 = true →
        env.createMutex (htons result.2.1.addr.socket) = .created := by
      refine Loop.Yields.post (I := fun _ => True)
        (P := fun result : Bool × IpxSocket × World => result.1 = true →
          env.createMutex (htons result.2.1.addr.socket) = .created)
        (fun _ _ _ _ => trivial) ?_ trivial ⟨_, done⟩
      rintro ⟨n, w₁⟩ result - pass
      unfold dynamicBindBody at pass
      dsimp only at pass
      split at pass
      case h_1 mutex w₂ opened =>
        obtain rfl := Iter.done.inj pass
        intro _
        dsimp only
        rw [htons_htons]
        exact openSocketMutex_some opened rfl
      case h_2 =>
        split at pass
        · obtain rfl := Iter.done.inj pass
          exact fun failed => absurd failed Bool.false_ne_true
        · cases pass
    dsimp only at completed
    rw [completed] at created
    exact created rfl
  case isFalse nonzero =>
    have reuse : sock.flags.reuse = false := exclusive.resolve_right nonzero
    split at completed
    case h_1 mutex w₁ opened =>
      obtain ⟨-, rfl, -⟩ := completed
      exact openSocketMutex_some opened (by rw [reuse]; rfl)
    case h_2 => cases completed

/-- `_complete_bind` fails, or opens a handle of the mutex of the number that it gives the
socket. -/
theorem completeBind_cases (id : Nat) (sock : IpxSocket) (fresh : w.handles env.handle = none) :
    (∃ sockMut, completeBind env id sock w = (false, { sock with sockMut := sockMut }, w)) ∨
      ∃ addr, completeBind env id sock w =
          (true,
            { sock with
              addr := addr
              sockMut := env.handle
              flags := { sock.flags with bound := true } },
            w.openHandle id env.handle (htons addr.socket)) ∧
        (sock.flags.reuse = false ∨ htons sock.addr.socket = 0 →
          env.createMutex (htons addr.socket) = .created) := by
  generalize result_eq : completeBind env id sock w = result
  have spec := result_eq ▸ completeBind_spec fresh id sock
  cases spec with
  | failed sockMut => exact Or.inl ⟨sockMut, rfl⟩
  | bound addr =>
      have created := completeBind_created result_eq
      exact Or.inr ⟨addr, rfl, created⟩

end Asking

/-! ## `bind` -/

section Calls

variable {w : World} {fd : Nat} {e : TableEntry}

/-- `bind` fails and leaves the socket bound as it was, or binds one that was not bound. -/
def BindOutcome (env : MutexEnv) (asked : UInt16) (w : World) (fd : Nat) (e : TableEntry)
    (result : CallOut × World) : Prop :=
  (result.1.value = -1 ∧ StaysBound w fd e result.2) ∨
    (result.1.value = 0 ∧ e.sock.flags.bound = false ∧ BindsTo env asked w fd e result.2)

theorem resolveBindAddress_spec {cache : InterfaceCache} {addr : SockaddrIpx}
    {sock sock' : IpxSocket} (resolved : resolveBindAddress cache addr sock = some sock') :
    sock'.flags = sock.flags ∧ sock'.addr.socket = addr.socket := by
  unfold resolveBindAddress at resolved
  obtain ⟨iface, -, rfl⟩ := Option.map_eq_some_iff.mp resolved
  exact ⟨rfl, rfl⟩

/-- `bind` gives up after `_complete_bind`: it closes the handle that was opened. -/
theorem unbind_staysBound {id handle : Nat} {n : UInt16} {sock : IpxSocket}
    (same_id : id = e.id) (fresh : w.handles handle = none) (mutex : sock.sockMut = handle)
    (unbound : e.sock.flags.bound = false)
    (listening : sock.flags.listening = e.sock.flags.listening) :
    StaysBound w fd e (unbind fd e sock (w.openHandle id handle n)).2 := by
  unfold unbind
  dsimp only
  rw [mutex, same_id, closeHandle_openHandle fresh]
  exact .store (.of_unbound unbound unbound.symm listening)

theorem bindSocket_outcome (at_fd : w.sockets fd = some e) (addr : SockaddrIpx) (addrlen : Nat)
    {env : BindEnv} (fresh : w.handles env.mutex.handle = none) :
    BindOutcome env.mutex (htons addr.socket) w fd e (bindSocket fd e addr addrlen env w) := by
  unfold bindSocket
  split
  · exact Or.inl ⟨rfl, .refl at_fd⟩
  split
  · exact Or.inl ⟨rfl, .refl at_fd⟩
  case isFalse notBound =>
    have unbound : e.sock.flags.bound = false := eq_false_of_ne_true notBound
    dsimp only
    split
    · exact Or.inl ⟨rfl, .store (.of_unbound unbound rfl rfl)⟩
    case h_2 sock resolved =>
      obtain ⟨flags, socket⟩ := resolveBindAddress_spec resolved
      have bound : sock.flags.bound = e.sock.flags.bound := by rw [flags]
      have listening : sock.flags.listening = e.sock.flags.listening := by rw [flags]
      have reuse : sock.flags.reuse = e.sock.flags.reuse := by rw [flags]
      rcases completeBind_cases e.id sock fresh with
        ⟨sockMut, failed⟩ | ⟨addr', completed, created⟩
      · rw [failed]
        exact Or.inl ⟨rfl, .store (.of_unbound unbound bound listening)⟩
      · rw [completed]
        dsimp only
        split
        · exact Or.inl ⟨rfl, unbind_staysBound rfl fresh rfl unbound listening⟩
        cases env.rGetsockname with
        | none => exact Or.inl ⟨rfl, unbind_staysBound rfl fresh rfl unbound listening⟩
        | some port =>
            rw [reuse, socket] at created
            let bound := { sock with
              addr := addr'
              sockMut := env.mutex.handle
              flags := { sock.flags with bound := true }
              port := port }
            exact Or.inr ⟨rfl, unbound, bound, rfl, rfl, created, rfl⟩

theorem bind_outcome (at_fd : w.sockets fd = some e) (addr : SockaddrIpx) (addrlen : Nat)
    {env : BindEnv} (fresh : w.handles env.mutex.handle = none) (underlying : Int) :
    BindOutcome env.mutex (htons addr.socket) w fd e (bind fd addr addrlen env underlying w) := by
  unfold IpxWrapper.bind
  rw [at_fd]
  exact bindSocket_outcome at_fd addr addrlen fresh

/-! ## Implicit binds -/

/-- A call leaves the socket bound as it was, or binds one that was not bound. -/
def MayBind (env : MutexEnv) (asked : UInt16) (w : World) (fd : Nat) (e : TableEntry)
    (w' : World) : Prop :=
  StaysBound w fd e w' ∨ (e.sock.flags.bound = false ∧ BindsTo env asked w fd e w')

theorem BindOutcome.mayBind {env : MutexEnv} {asked : UInt16} {result : CallOut × World}
    (outcome : BindOutcome env asked w fd e result) : MayBind env asked w fd e result.2 := by
  rcases outcome with ⟨-, stays⟩ | ⟨-, unbound, binds⟩
  · exact Or.inl stays
  · exact Or.inr ⟨unbound, binds⟩

/-- A socket is written and all that its binding depends on stays. -/
theorem StaysBound.of_flags {sock : IpxSocket} (bound : sock.flags.bound = e.sock.flags.bound)
    (listening : sock.flags.listening = e.sock.flags.listening)
    (mutex : sock.sockMut = e.sock.sockMut) (socket : sock.addr.socket = e.sock.addr.socket) :
    StaysBound w fd e (w.store fd e sock) :=
  .store
    { bound := bound
      held := fun _ => ⟨mutex, socket⟩
      listening := fun isListening => Or.inl (listening.symm.trans isListening) }

/-- The `bind` of an implicit bind asks for number 0. -/
theorem implicitBind_outcome (at_fd : w.sockets fd = some e) (netnum : Addr32) {env : BindEnv}
    (fresh : w.handles env.mutex.handle = none) :
    BindOutcome env.mutex 0 w fd e
      (bind fd ⟨AF_IPX, netnum, 0, 0⟩ sizeofSockaddrIpx env 0 w) := by
  have outcome := bind_outcome at_fd ⟨AF_IPX, netnum, 0, 0⟩ sizeofSockaddrIpx fresh 0
  have zero : htons 0 = 0 := by decide
  dsimp only at outcome
  rwa [zero] at outcome

theorem sendtoPacket_mayBind (call : SendtoCall) (at_fd : w.sockets call.fd = some e)
    (fresh : w.handles call.bind.mutex.handle = none) (underlying : Int) :
    MayBind call.bind.mutex 0 w call.fd e (sendtoPacket call underlying w).2 := by
  have refl : MayBind call.bind.mutex 0 w call.fd e w := Or.inl (.refl at_fd)
  unfold sendtoPacket
  rw [at_fd]
  dsimp only
  split
  · exact refl
  cases call.addr with
  | none => exact refl
  | some ipxaddr =>
      dsimp only
      split
      · exact refl
      split
      · exact refl
      -- Whatever follows, nothing is changed after the implicit `bind`.
      have bound : MayBind call.bind.mutex 0 w call.fd e
          (if e.sock.flags.bound then (CallOut.ok 0, w)
            else IpxWrapper.bind call.fd ⟨AF_IPX, ipxaddr.netnum, 0, 0⟩ sizeofSockaddrIpx
              call.bind 0 w).2 := by
        split
        · exact refl
        · exact (implicitBind_outcome at_fd ipxaddr.netnum fresh).mayBind
      generalize (if e.sock.flags.bound = true then (CallOut.ok 0, w)
        else IpxWrapper.bind call.fd ⟨AF_IPX, ipxaddr.netnum, 0, 0⟩ sizeofSockaddrIpx
          call.bind 0 w) = result at bound ⊢
      split
      · exact bound
      split
      · exact bound
      split
      · exact bound
      · exact bound

theorem connectDgram_mayBind (at_fd : w.sockets fd = some e) (addr : SockaddrIpx) (addrlen : Nat)
    {env : ConnectEnv} (fresh : w.handles env.bind.mutex.handle = none) :
    MayBind env.bind.mutex 0 w fd e (connectDgram fd e addr addrlen env w).2 := by
  unfold connectDgram
  dsimp only
  split
  · exact Or.inl (.of_flags rfl rfl rfl rfl)
  split
  · exact Or.inl (.refl at_fd)
  split
  · exact Or.inl (.refl at_fd)
  split
  · exact Or.inl (.of_flags rfl rfl rfl rfl)
  split
  · exact Or.inl (.of_flags rfl rfl rfl rfl)
  have outcome := implicitBind_outcome at_fd addr.netnum fresh
  split
  · exact outcome.mayBind
  case isFalse succeeds =>
    rcases outcome with ⟨failed, -⟩ | ⟨-, unbound, binds⟩
    · exact absurd failed succeeds
    · split
      · exact Or.inr ⟨unbound, binds⟩
      case h_2 e' at_fd' =>
        refine Or.inr ⟨unbound, binds.store at_fd' (f := fun sock =>
          { sock with remoteAddr := addr, flags := { sock.flags with connected := true } }) ?_ ?_ ?_⟩
        · exact fun _ => rfl
        · exact fun _ => rfl
        · exact fun _ => rfl

theorem spxConnected_mayBind {sock : IpxSocket} (netnum : Addr32) (nodenum : Addr48)
    (same : sock = { e.sock with
      addr := { e.sock.addr with netnum := netnum, nodenum := nodenum } })
    (ipxaddr : SockaddrIpx) {env : ConnectEnv} (fresh : w.handles env.mutex.handle = none) :
    MayBind env.mutex (htons e.sock.addr.socket) w fd e (spxConnected fd e sock ipxaddr env w).2 := by
  subst same
  unfold spxConnected
  dsimp only
  split
  · exact Or.inl (.of_flags rfl rfl rfl rfl)
  case isFalse notBound =>
    have unbound : e.sock.flags.bound = false := eq_false_of_ne_true notBound
    cases env.rGetsockname with
    | none => exact Or.inl (.of_flags rfl rfl rfl rfl)
    | some port =>
        dsimp only
        generalize sock_eq : IpxSocket.mk _ _ _ _ _ _ _ _ _ = sock
        rcases completeBind_cases e.id sock fresh with
          ⟨sockMut, failed⟩ | ⟨addr', completed, created⟩
        · rw [failed, ← sock_eq]
          exact Or.inl (.store (.of_unbound unbound rfl rfl))
        · rw [completed]
          rw [← sock_eq] at created ⊢
          let bound := { e.sock with
            addr := addr'
            sockMut := env.mutex.handle
            remoteAddr := ipxaddr
            port := port
            flags :=
              { e.sock.flags with connectOk := true, connected := true, bound := true } }
          exact Or.inr ⟨unbound, bound, rfl, rfl, created, rfl⟩

theorem connectSpx_mayBind (at_fd : w.sockets fd = some e) (ipxaddr : SockaddrIpx)
    {env : ConnectEnv} (fresh : w.handles env.mutex.handle = none) :
    MayBind env.mutex (htons e.sock.addr.socket) w fd e (connectSpx fd e ipxaddr env w).2 := by
  have refl : MayBind env.mutex (htons e.sock.addr.socket) w fd e w := Or.inl (.refl at_fd)
  unfold connectSpx
  dsimp only
  split
  · exact refl
  split
  · exact refl
  split
  · exact refl
  split
  · exact refl
  split
  case h_1 => exact refl
  case h_2 => exact refl
  case h_3 => exact refl
  case h_4 ip port sock found =>
    obtain ⟨netnum, nodenum, same⟩ := lookupTries_keeps found
    have keeps : StaysBound w fd e (w.store fd e sock) := by
      subst same
      exact .of_flags rfl rfl rfl rfl
    split
    · exact spxConnected_mayBind netnum nodenum same ipxaddr fresh
    · exact spxConnected_mayBind netnum nodenum same ipxaddr fresh
    · exact Or.inl keeps
    · exact Or.inl keeps

/-! ## The other calls -/

theorem MayBind.effect {env : MutexEnv} {asked : UInt16} {w' : World}
    (may : MayBind env asked w fd e w') (at_fd : w.sockets fd = some e)
    (fresh : w.handles env.handle = none) : BindingEffect w.bindings w'.bindings := by
  rcases may with stays | ⟨unbound, binds⟩
  · exact stays.effect at_fd
  · exact binds.effect at_fd unbound fresh

theorem releaseRecvQueue_bindings (w : World) (id ptr : Nat) :
    (w.releaseRecvQueue id ptr).bindings = w.bindings := by
  unfold World.releaseRecvQueue
  split
  · rfl
  dsimp only
  split
  · rfl
  · rfl

theorem socket_effect (af : UInt16) (type protocol : Int) {env : SocketEnv}
    (fresh : ∀ fd ∈ env.rSocket, w.sockets fd = none) (underlying : Int) :
    BindingEffect w.bindings (socket af type protocol env underlying w).2.bindings := by
  have adds {sock : IpxSocket} (made : env.rSocket = some sock.fd)
      (unbound : sock.flags.bound = false) (silent : sock.flags.listening = false) :
      BindingEffect w.bindings (w.bindings.put sock.fd ⟨w.nextId, sock⟩).next :=
    .adds (fresh sock.fd made) unbound silent
  unfold IpxWrapper.socket
  split
  · split
    · unfold socketDgram
      cases env.nsock with
      | none => exact .none
      | some nsock =>
          cases env.recvQueue with
          | none => exact .none
          | some ptr =>
              cases env.criticalSection with
              | some error => exact .none
              | none =>
                  rcases made : env.rSocket with _ | fd
                  · dsimp only
                    rw [releaseRecvQueue_bindings]
                    exact .none
                  · exact adds made rfl rfl
    split
    · unfold socketStream
      split
      · exact .none
      split
      · exact .none
      cases env.nsock with
      | none => exact .none
      | some nsock =>
          rcases made : env.rSocket with _ | fd
          · exact .none
          · exact adds made rfl rfl
    · exact .none
  · exact .none

theorem listen_effect (fd : Nat) (underlying : Int) :
    BindingEffect w.bindings (listen fd underlying w).2.bindings := by
  unfold IpxWrapper.listen
  rcases at_fd : w.sockets fd with _ | e
  · exact .none
  dsimp only
  split
  · exact .none
  split
  · exact .none
  case isFalse bound =>
    split
    · exact .none
    split
    · exact .none
    · exact .writes at_fd
        { bound := rfl
          held := fun _ => ⟨rfl, rfl⟩
          listening := fun _ => Or.inr (not_not.mp bound) }

theorem accept_effect (fd : Nat) (addr : Bool) (addrlen : Option Nat) {env : AcceptEnv}
    (fresh : ∀ nfd ∈ env.rAccept, w.sockets nfd = none)
    (fresh' : ∀ mutex ∈ env.duplicate, w.handles mutex = none)
    (listens : ∀ e ∈ w.sockets fd, env.rAccept.isSome → e.sock.flags.listening = true)
    (underlying : Int) :
    BindingEffect w.bindings (accept fd addr addrlen env underlying w).2.bindings := by
  unfold IpxWrapper.accept
  rcases at_fd : w.sockets fd with _ | e
  · exact .none
  dsimp only
  split
  · unfold acceptSpx
    split
    · exact .none
    cases env.nsock with
    | none => exact .none
    | some nsock =>
        rcases accepted : env.rAccept with _ | nfd
        · exact .none
        cases env.spxinit with
        | none => exact .none
        | some spxinit =>
            rcases duplicated : env.duplicate with _ | mutex
            · exact .none
            have listening := listens e at_fd (by rw [accepted]; rfl)
            have unused := lookup_of_handles (fresh' mutex duplicated)
            exact .accepts at_fd listening (fresh nfd accepted) unused rfl rfl rfl
  · exact .none

theorem closesocket_effect (fd : Nat) (ret : Int) :
    BindingEffect w.bindings (closesocket fd ret w).2.bindings := by
  unfold IpxWrapper.closesocket
  rcases at_fd : w.sockets fd with _ | e
  · exact .none
  dsimp only
  split
  · exact .none
  have released : (if e.sock.recvQueue ≠ 0 then w.releaseRecvQueue e.id e.sock.recvQueue
      else w).bindings = w.bindings := by
    split
    · exact releaseRecvQueue_bindings w _ _
    · rfl
  generalize (if e.sock.recvQueue ≠ 0 then w.releaseRecvQueue e.id e.sock.recvQueue
    else w) = w₁ at released ⊢
  have dropped : World.bindings
      { (if e.sock.flags.bound = true then w₁.closeHandle e.id e.sock.sockMut else w₁) with
        sockets := Function.update
          (if e.sock.flags.bound = true then w₁.closeHandle e.id e.sock.sockMut else w₁).sockets
          fd none } = w₁.bindings.drop fd e := by
    unfold World.bindings Bindings.drop
    cases e.sock.flags.bound with
    | true => rfl
    | false => rfl
  rw [dropped, released]
  exact .closes at_fd

/-- The state in which a thread that runs alone holds the lock. -/
def World.locked (w : World) : Holder World := ⟨1, w, 1⟩

theorem leave_effect (out : CallOut) :
    (Locked.leave out : Wrapper CallOut).wp (fun _ => w) (fun _ _ => True) w.locked
      fun _ h => BindingEffect w.bindings h.data.bindings := by
  unfold Locked.leave Locked.unlockSockets
  rw [wp_bind, wp_release, wp_pure]
  exact ⟨trivial, .none⟩

theorem storeLeave_effect (at_fd : w.sockets fd = some e) {sock : IpxSocket}
    (same : SameBinding e.sock sock) (out : CallOut) :
    (do modify fun w => w.store fd e sock; Locked.leave out : Wrapper CallOut).wp (fun _ => w)
      (fun _ _ => True) w.locked fun _ h => BindingEffect w.bindings h.data.bindings := by
  unfold Locked.leave Locked.unlockSockets
  rw [wp_bind, wp_modify, wp_bind, wp_release, wp_pure]
  exact ⟨trivial, .writes at_fd same⟩

theorem setOpt_effect (at_fd : w.sockets fd = some e) {sock : IpxSocket}
    (same : SameBinding e.sock sock) (optlen : Int) :
    (Locked.setOpt fd e sock optlen).wp (fun _ => w) (fun _ _ => True) w.locked
      fun _ h => BindingEffect w.bindings h.data.bindings := by
  unfold Locked.setOpt
  split
  · exact leave_effect _
  · exact storeLeave_effect at_fd same _

/-- `setsockopt` changes options only. -/
theorem setsockopt_effect (fd : Nat) (level optname optval optlen underlying : Int) :
    BindingEffect w.bindings
      (w.alone (Locked.setsockopt fd level optname optval optlen underlying)).bindings := by
  have keeps : (Locked.setsockopt fd level optname optval optlen underlying).wp (fun _ => w)
      (fun _ _ => True) ⟨0, w, 0⟩ fun _ h => BindingEffect w.bindings h.data.bindings := by
    unfold Locked.setsockopt
    rw [wp_bind, getSocket_wp]
    have found : (foundOnEntry (fun _ => w) ⟨0, w, 0⟩).sockets fd = w.sockets fd := rfl
    rw [found]
    rcases at_fd : w.sockets fd with _ | e
    · exact ⟨trivial, wp_pure.mpr .none⟩
    dsimp only
    have option {sock : IpxSocket} (bound : sock.flags.bound = e.sock.flags.bound)
        (listening : sock.flags.listening = e.sock.flags.listening)
        (mutex : sock.sockMut = e.sock.sockMut) (addr : sock.addr = e.sock.addr) :
        SameBinding e.sock sock :=
      ⟨bound, fun _ => ⟨mutex, by rw [addr]⟩, fun on => Or.inl (listening.symm.trans on)⟩
    split
    · split
      · apply setOpt_effect at_fd
        exact option rfl rfl rfl rfl
      split
      · apply setOpt_effect at_fd
        exact option rfl rfl rfl rfl
      split
      · apply storeLeave_effect at_fd
        exact option rfl rfl rfl rfl
      split
      · apply setOpt_effect at_fd
        exact option rfl rfl rfl rfl
      split
      · apply setOpt_effect at_fd
        exact option rfl rfl rfl rfl
      · exact leave_effect _
    split
    · apply setOpt_effect at_fd
      exact option rfl rfl rfl rfl
    split
    · apply setOpt_effect at_fd
      exact option rfl rfl rfl rfl
    split
    · exact leave_effect _
    split
    · exact leave_effect _
    · exact leave_effect _
  unfold World.alone
  rcases returned : (Locked.setsockopt fd level optname optval optlen underlying).result
    (fun _ => w) ⟨0, w, 0⟩ with _ | ⟨out, h⟩
  · exact .none
  · exact keeps.2 out h returned

end Calls

end IpxWrapper
