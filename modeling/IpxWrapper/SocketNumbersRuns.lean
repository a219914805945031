import IpxWrapper.SocketNumbersCalls
import IpxWrapper.SocketTableRuns
import Mathlib.Data.Set.Finite.Lattice

/-!
# Socket numbers in every run

In every run of any number of processes there are as many open handles of the
mutex of a number as sockets bound with it, so that who finds no mutex of a number
finds no socket bound with it.
-/

namespace IpxWrapper

open Base

/-! ## What a `bind` does -/

/-- A call that asks for a number, of the socket of `e` that is not bound, and `e'` after it. -/
structure AsksExclusively (before after : Machine) (asked : UInt16) (e e' : TableEntry) : Prop where
  /-- A number that no one else may have is one that no one has. -/
  exclusive : e'.sock.flags.bound = true → e.sock.flags.reuse = false ∨ asked = 0 →
    before.boundTo (htons e'.sock.addr.socket) = ∅
  undone : e'.sock.flags.bound = false → SameHolders before after

/-- `bind` of the socket of `e`, what it returns, and the sockets of the process after it. -/
structure BindAnswers (before after : Machine) (addr : SockaddrIpx) (addrlen : Nat)
    (e : TableEntry) (result : Machine → CallOut) (e' : TableEntry) : Prop where
  succeeds : (result before).value ≠ -1 →
    e.sock.flags.bound = false ∧ e'.sock.flags.bound = true
  fails : (result before).value = -1 →
    e'.sock.flags.bound = e.sock.flags.bound ∧ SameHolders before after
  /-- A bound socket keeps its number, and the error says why if the address is in order. -/
  refused : e.sock.flags.bound = true → sizeofSockaddrIpx ≤ addrlen → addr.family = AF_IPX →
    result before = .fail WSAEINVAL
  /-- With `IPX_REUSE`, the answer is the one of a machine on which no number is held. -/
  shared : e.sock.flags.reuse = true → htons addr.socket ≠ 0 → result before = result []

/-- The call binds no socket with a number that another must not share, and none if it fails. -/
structure BindsExclusively (m : Move MachineInput Machine) : Prop where
  asks : ∀ pid call, m.input = .call pid call → ∀ w ∈ m.before[pid]?, ∀ fd asked,
    call.asks w = some (fd, asked) → ∀ e ∈ w.sockets fd, e.sock.flags.bound = false →
      ∃ w' ∈ m.after[pid]?, ∃ e' ∈ w'.sockets fd, AsksExclusively m.before m.after asked e e'
  binds : ∀ pid fd addr addrlen env underlying,
    m.input = .call pid (.socketCall (.bind fd addr addrlen env) underlying) →
      ∀ w ∈ m.before[pid]?, ∀ e ∈ w.sockets fd, ∃ w' ∈ m.after[pid]?, ∃ e' ∈ w'.sockets fd,
        BindAnswers m.before m.after addr addrlen e
          (fun machine => (bind fd addr addrlen (env.among machine) underlying w).1) e'

/-! ## The invariant -/

def MachineInv (machine : Machine) : Prop := ∀ w ∈ machine, BindingsInv w.bindings

section Machines

variable {machine : Machine} {pid fd : Nat} {w w' : World} {e : TableEntry}

theorem World.opens_of_lookup {handle : Nat} {h : MutexHandle}
    (opened : w.mutexHandles.lookup handle = some h) : w.opens h.socket = true := by
  refine decide_eq_true ⟨handle, ?_, h, opened, rfl⟩
  exact Finmap.mem_keys.mpr (Finmap.mem_of_lookup_eq_some opened)

/-- Where no process has a handle, no socket is bound. -/
theorem MachineInv.boundTo_empty (inv : MachineInv machine) {socket : UInt16}
    (unopened : machine.any (·.opens socket) = false) : machine.boundTo socket = ∅ := by
  refine Set.eq_empty_of_forall_notMem ?_
  rintro ⟨pid, fd⟩ ⟨w, at_pid, e, at_fd, bound, number⟩
  have member : w ∈ machine := List.mem_of_getElem? at_pid
  have opened := World.opens_of_lookup ((inv w member).bound fd e at_fd bound)
  rw [number] at opened
  rw [List.any_eq_true.mpr ⟨w, member, opened⟩] at unopened
  cases unopened

/-- The sockets that are bound with a number have each a handle of its mutex, and there is
no other. -/
theorem MachineInv.bijOn (inv : MachineInv machine) (socket : UInt16) :
    Set.BijOn
      (fun at_fd : Nat × Nat =>
        (at_fd.1, ((machine[at_fd.1]?.bind (·.sockets at_fd.2)).elim 0 (·.sock.sockMut))))
      (machine.boundTo socket) (machine.handlesOn socket) := by
  have value {pid fd : Nat} {w : World} {e : TableEntry} (at_pid : machine[pid]? = some w)
      (at_fd : w.sockets fd = some e) :
      (machine[pid]?.bind (·.sockets fd)).elim 0 (·.sock.sockMut) = e.sock.sockMut := by
    rw [at_pid, Option.bind_some, at_fd]
    rfl
  refine ⟨?_, ?_, ?_⟩
  · rintro ⟨pid, fd⟩ ⟨w, at_pid, e, at_fd, bound, number⟩
    have own := (inv w (List.mem_of_getElem? at_pid)).bound fd e at_fd bound
    refine ⟨w, at_pid, ⟨e.id, htons e.sock.addr.socket⟩, ?_, number⟩
    dsimp only
    rw [value at_pid at_fd]
    exact own
  · rintro ⟨pid₁, fd₁⟩ ⟨w₁, at_pid₁, e₁, at_fd₁, bound₁, -⟩
      ⟨pid₂, fd₂⟩ ⟨w₂, at_pid₂, e₂, at_fd₂, bound₂, -⟩ same
    dsimp only at at_pid₁ at_fd₁ at_pid₂ at_fd₂ same
    rw [Prod.mk.injEq, value at_pid₁ at_fd₁, value at_pid₂ at_fd₂] at same
    obtain ⟨rfl, mutex⟩ := same
    obtain rfl := Option.some.inj (at_pid₁.symm.trans at_pid₂)
    have inv := inv w₁ (List.mem_of_getElem? at_pid₁)
    have own₁ := inv.bound fd₁ e₁ at_fd₁ bound₁
    rw [mutex, inv.bound fd₂ e₂ at_fd₂ bound₂, Option.some.injEq, MutexHandle.mk.injEq] at own₁
    rw [inv.numbered.unique fd₂ fd₁ e₂ e₁ at_fd₂ at_fd₁ own₁.1]
  · rintro ⟨pid, handle⟩ ⟨w, at_pid, h, opened, number⟩
    have inv := inv w (List.mem_of_getElem? at_pid)
    obtain ⟨fd, e, at_fd, bound, mutex⟩ := inv.owned handle h opened
    have own := inv.bound fd e at_fd bound
    have same : h = ⟨e.id, htons e.sock.addr.socket⟩ := by
      rw [mutex] at own
      exact Option.some.inj (opened.symm.trans own)
    refine ⟨(pid, fd), ⟨w, at_pid, e, at_fd, bound, ?_⟩, ?_⟩
    · rw [same] at number
      exact number
    · dsimp only
      rw [value at_pid at_fd, mutex]

theorem handlesOn_finite (machine : Machine) (socket : UInt16) :
    (machine.handlesOn socket).Finite := by
  have each : ∀ pid, {at_handle : Nat × Nat | at_handle.1 = pid ∧
      ∃ w ∈ machine[pid]?, at_handle.2 ∈ w.mutexHandles}.Finite := by
    intro pid
    rcases machine[pid]? with _ | w
    · refine Set.Finite.subset Set.finite_empty ?_
      rintro at_handle ⟨-, w, none, -⟩
      cases none
    · refine Set.Finite.subset ((Finset.finite_toSet w.mutexHandles.keys).image (Prod.mk pid)) ?_
      rintro ⟨pid', handle⟩ ⟨rfl, w', same, member⟩
      obtain rfl := Option.some.inj same
      exact ⟨handle, Finmap.mem_keys.mpr member, rfl⟩
  have all := Set.Finite.biUnion (Set.finite_lt_nat machine.length) fun pid _ => each pid
  refine all.subset ?_
  rintro ⟨pid, handle⟩ ⟨w, at_pid, h, opened, -⟩
  have inside : pid < machine.length := (List.getElem?_eq_some_iff.mp at_pid).1
  exact Set.mem_biUnion inside ⟨rfl, w, at_pid, Finmap.mem_of_lookup_eq_some opened⟩

theorem MachineInv.counted (inv : MachineInv machine) : machine.Counted := by
  intro socket
  refine ⟨handlesOn_finite machine socket, ?_⟩
  have bij := inv.bijOn socket
  rw [← bij.image_eq, bij.injOn.encard_image]

/-! ## Calls on the machine -/

/-- `CreateMutex` makes a mutex of which no process has a handle. -/
theorem among_created {env : MutexEnv} {socket : UInt16}
    (created : (env.among machine).createMutex socket = .created) :
    machine.any (·.opens socket) = false := by
  change (if env.createMutex socket = .failed then MutexOutcome.failed
    else if machine.any (·.opens socket) then .existed else .created) = .created at created
  split at created
  · cases created
  split at created
  · cases created
  case isFalse unopened => exact eq_false_of_ne_true unopened

/-- What a call that asks for a number does to the socket. -/
theorem ProcessCall.mayBind (machine : Machine) {call : ProcessCall} (allowed : call.Allowed w) {asked : UInt16}
    (asks : call.asks w = some (fd, asked)) (at_fd : w.sockets fd = some e) :
    ∃ env : MutexEnv, w.handles env.handle = none ∧
      MayBind (env.among machine) asked w fd e ((call.among machine).run w) := by
  cases call with
  | socketCall call underlying =>
      cases call with
      | bind fd' addr addrlen env =>
          obtain ⟨rfl, rfl⟩ := Prod.mk.inj (Option.some.inj asks)
          refine ⟨env.mutex, allowed.1, ?_⟩
          have fresh : w.handles (env.among machine).mutex.handle = none := allowed.1
          exact (bind_outcome at_fd addr addrlen fresh underlying).mayBind
      | connect fd' addr addrlen env =>
          obtain ⟨e', at_fd', asks⟩ := Option.map_eq_some_iff.mp asks
          obtain ⟨rfl, rfl⟩ := Prod.mk.inj asks
          obtain rfl := Option.some.inj (at_fd.symm.trans at_fd')
          unfold ProcessCall.among ProcessCall.run
          dsimp only [SocketCall.run]
          unfold IpxWrapper.connect
          rw [at_fd]
          dsimp only
          split
          · refine ⟨env.mutex, allowed.1.1, ?_⟩
            have refl : MayBind (env.mutex.among machine) (htons e.sock.addr.socket) w fd' e w :=
              Or.inl (.refl at_fd)
            split
            · exact refl
            split
            · exact refl
            · exact connectSpx_mayBind at_fd addr allowed.1.1
          · exact ⟨env.bind.mutex, allowed.1.2, connectDgram_mayBind at_fd addr addrlen allowed.1.2⟩
      | socket _ _ _ _ => cases asks
      | listen _ => cases asks
      | accept _ _ _ _ => cases asks
      | closesocket _ => cases asks
  | sendto call underlying =>
      obtain ⟨rfl, rfl⟩ := Prod.mk.inj (Option.some.inj asks)
      refine ⟨call.bind.mutex, allowed, ?_⟩
      exact sendtoPacket_mayBind { call with bind := call.bind.among machine } at_fd allowed
        underlying
  | setsockopt _ _ _ _ _ _ => cases asks

theorem ProcessCall.effect {call : ProcessCall} (allowed : call.Allowed w) :
    BindingEffect w.bindings ((call.among machine).run w).bindings := by
  have may {fd : Nat} {asked : UInt16} {e : TableEntry} (asks : call.asks w = some (fd, asked))
      (at_fd : w.sockets fd = some e) :
      BindingEffect w.bindings ((call.among machine).run w).bindings := by
    obtain ⟨env, fresh, may⟩ := ProcessCall.mayBind machine allowed asks at_fd
    exact may.effect at_fd fresh
  cases call with
  | socketCall call underlying =>
      cases call with
      | socket af type protocol env =>
          exact socket_effect af type protocol allowed.1.1 underlying
      | bind fd addr addrlen env =>
          rcases at_fd : w.sockets fd with _ | e
          · unfold ProcessCall.among ProcessCall.run
            dsimp only [SocketCall.run]
            unfold IpxWrapper.bind
            rw [at_fd]
            exact .none
          · exact may rfl at_fd
      | connect fd addr addrlen env =>
          rcases at_fd : w.sockets fd with _ | e
          · unfold ProcessCall.among ProcessCall.run
            dsimp only [SocketCall.run]
            unfold IpxWrapper.connect
            rw [at_fd]
            exact .none
          · exact may (congrArg (Option.map _) at_fd) at_fd
      | listen fd => exact listen_effect fd underlying
      | accept fd addr addrlen env =>
          exact accept_effect fd addr addrlen allowed.1.1 allowed.1.2 allowed.2 underlying
      | closesocket fd => exact closesocket_effect fd underlying
  | sendto call underlying =>
      rcases at_fd : w.sockets call.fd with _ | e
      · unfold ProcessCall.among ProcessCall.run
        dsimp only
        unfold sendtoPacket
        rw [at_fd]
        exact .none
      · exact may rfl at_fd
  | setsockopt fd level optname optval optlen underlying =>
      exact setsockopt_effect fd level optname optval optlen underlying

/-! ## Processes -/

theorem BindingsInv.init (encap : EncapType) : BindingsInv (World.init encap).bindings where
  numbered :=
    { old := fun _ _ found => by cases found
      unique := fun _ _ _ _ found => by cases found }
  bound := fun _ _ found => by cases found
  owned := fun handle _ opened => by
    change (∅ : Finmap fun _ : Nat => MutexHandle).lookup handle = _ at opened
    rw [Finmap.lookup_empty] at opened
    cases opened
  listening := fun _ _ found => by cases found

theorem MachineInv.set (inv : MachineInv machine) (kept : BindingsInv w'.bindings) :
    MachineInv (machine.set pid w') := by
  intro w member
  rcases List.mem_or_eq_of_mem_set member with member | rfl
  · exact inv w member
  · exact kept

theorem MachineInv.step {input : MachineInput} {machine' : Machine} (inv : MachineInv machine)
    (enabled : machineStep input machine = some machine') : MachineInv machine' := by
  cases input with
  | start encap =>
      obtain rfl := Option.some.inj enabled
      intro w member
      rcases List.mem_append.mp member with member | member
      · exact inv w member
      · obtain rfl := List.mem_singleton.mp member
        exact .init encap
  | call pid call =>
      simp only [machineStep] at enabled
      rcases at_pid : machine[pid]? with _ | w
      · rw [at_pid] at enabled
        cases enabled
      rw [at_pid] at enabled
      dsimp only at enabled
      split at enabled
      case isTrue allowed =>
        obtain rfl := Option.some.inj enabled
        have before := inv w (List.mem_of_getElem? at_pid)
        exact inv.set (before.effect (ProcessCall.effect allowed))
      case isFalse => cases enabled
  | exit pid =>
      simp only [machineStep] at enabled
      rcases at_pid : machine[pid]? with _ | w
      · rw [at_pid] at enabled
        cases enabled
      · rw [at_pid] at enabled
        obtain rfl := Option.some.inj enabled
        exact inv.set (.init _)

/-! ## Each call on the machine -/

/-- The process holds its numbers as before. -/
theorem sameHolders_set (at_pid : machine[pid]? = some w)
    (bound : ∀ fd socket,
      (∃ e ∈ w'.sockets fd, e.sock.flags.bound = true ∧ htons e.sock.addr.socket = socket) ↔
        ∃ e ∈ w.sockets fd, e.sock.flags.bound = true ∧ htons e.sock.addr.socket = socket)
    (handles : w'.mutexHandles = w.mutexHandles) : SameHolders machine (machine.set pid w') := by
  have inside : pid < machine.length := (List.getElem?_eq_some_iff.mp at_pid).1
  have process (P : World → Prop) (same : P w' ↔ P w) (p : Nat) :
      (∃ w₁ ∈ (machine.set pid w')[p]?, P w₁) ↔ ∃ w₁ ∈ machine[p]?, P w₁ := by
    by_cases here : pid = p
    · rw [← here, List.getElem?_set_self inside, at_pid]
      simp only [Option.mem_some_iff, exists_eq_left', same]
    · rw [List.getElem?_set_ne here]
  constructor
  · intro socket
    ext ⟨p, fd⟩
    exact process _ (bound fd socket) p
  · intro socket
    ext ⟨p, handle⟩
    refine process (fun w => ∃ h ∈ w.mutexHandles.lookup handle, h.socket = socket) ?_ p
    rw [handles]

theorem StaysBound.sameHolders (stays : StaysBound w fd e w') (at_fd : w.sockets fd = some e)
    (at_pid : machine[pid]? = some w) : SameHolders machine (machine.set pid w') := by
  obtain ⟨sock, same, left⟩ := stays
  have sockets : w'.sockets = (w.bindings.put fd { e with sock := sock }).sockets :=
    congrArg Bindings.sockets left
  refine sameHolders_set at_pid (fun fd' socket => ?_) (congrArg Bindings.mutexHandles left)
  rw [sockets]
  by_cases here : fd' = fd
  · subst here
    rw [put_self, at_fd]
    simp only [Option.mem_some_iff, exists_eq_left', same.bound]
    constructor
    · rintro ⟨bound, number⟩
      exact ⟨bound, (same.held bound).2 ▸ number⟩
    · rintro ⟨bound, number⟩
      exact ⟨bound, (same.held bound).2.symm ▸ number⟩
  · rw [put_of_ne here]
    rfl

theorem StaysBound.after (stays : StaysBound w fd e w') :
    ∃ e' ∈ w'.sockets fd, e'.sock.flags.bound = e.sock.flags.bound := by
  obtain ⟨sock, same, left⟩ := stays
  refine ⟨{ e with sock := sock }, ?_, same.bound⟩
  exact (congrFun (congrArg Bindings.sockets left) fd).trans put_self

theorem BindsTo.after {env : MutexEnv} {asked : UInt16} (binds : BindsTo env asked w fd e w') :
    ∃ e' ∈ w'.sockets fd, e'.sock.flags.bound = true ∧
      (e.sock.flags.reuse = false ∨ asked = 0 →
        env.createMutex (htons e'.sock.addr.socket) = .created) := by
  obtain ⟨sock, -, bound, created, left⟩ := binds
  refine ⟨{ e with sock := sock }, ?_, bound, created⟩
  exact (congrFun (congrArg Bindings.sockets left) fd).trans put_self

theorem MachineInv.asksExclusively (inv : MachineInv machine) (at_pid : machine[pid]? = some w)
    (at_fd : w.sockets fd = some e) (unbound : e.sock.flags.bound = false) {env : MutexEnv}
    {asked : UInt16} (may : MayBind (env.among machine) asked w fd e w') :
    ∃ e' ∈ w'.sockets fd, AsksExclusively machine (machine.set pid w') asked e e' := by
  rcases may with stays | ⟨-, binds⟩
  · obtain ⟨e', found, same⟩ := stays.after
    refine ⟨e', found, ?_, fun _ => stays.sameHolders at_fd at_pid⟩
    rw [same, unbound]
    exact fun bound => absurd bound Bool.false_ne_true
  · obtain ⟨e', found, bound, created⟩ := binds.after
    refine ⟨e', found, fun _ exclusive => ?_, fun notBound => ?_⟩
    · exact inv.boundTo_empty (among_created (created exclusive))
    · exact absurd (bound.symm.trans notBound).symm Bool.false_ne_true

/-- A socket that shares its number gets a handle of the mutex unless there is none to be had. -/
theorem completeBind_shared {env : MutexEnv} (machine : Machine) (id : Nat) {sock : IpxSocket}
    (reuse : sock.flags.reuse = true) (nonzero : htons sock.addr.socket ≠ 0) :
    completeBind (env.among machine) id sock w = completeBind (env.among []) id sock w := by
  unfold completeBind
  rw [if_neg nonzero, if_neg nonzero, reuse]
  have opened (machine : Machine) :
      openSocketMutex (env.among machine) id (htons sock.addr.socket) false w =
        if env.createMutex (htons sock.addr.socket) = .failed then (none, w)
        else (some env.handle, w.openHandle id env.handle (htons sock.addr.socket)) := by
    unfold openSocketMutex MutexEnv.among
    dsimp only
    by_cases failed : env.createMutex (htons sock.addr.socket) = .failed
    · rw [if_pos failed, if_pos failed]
    · rw [if_neg failed, if_neg failed]
      cases machine.any (·.opens (htons sock.addr.socket)) with
      | true => rfl
      | false => rfl
  rw [Bool.not_true, opened machine, opened []]

theorem bind_shared (machine : Machine) (at_fd : w.sockets fd = some e) {addr : SockaddrIpx}
    (addrlen : Nat) (env : BindEnv) (underlying : Int) (reuse : e.sock.flags.reuse = true)
    (nonzero : htons addr.socket ≠ 0) :
    bind fd addr addrlen (env.among machine) underlying w =
      bind fd addr addrlen (env.among []) underlying w := by
  unfold IpxWrapper.bind
  rw [at_fd]
  dsimp only
  unfold bindSocket BindEnv.among
  dsimp only
  split
  · rfl
  split
  · rfl
  rcases resolved : resolveBindAddress env.cache addr
    { e.sock with addr := { e.sock.addr with family := AF_IPX } } with _ | sock
  · rfl
  obtain ⟨flags, socket⟩ := resolveBindAddress_spec resolved
  dsimp only
  rw [completeBind_shared machine e.id (by rw [flags]; exact reuse) (by rw [socket]; exact nonzero)]

/-- A bound socket is not bound again. -/
theorem bind_bound (at_fd : w.sockets fd = some e) {addr : SockaddrIpx} {addrlen : Nat}
    (env : BindEnv) (underlying : Int) (bound : e.sock.flags.bound = true)
    (long : sizeofSockaddrIpx ≤ addrlen) (family : addr.family = AF_IPX) :
    bind fd addr addrlen env underlying w = (.fail WSAEINVAL, w) := by
  have valid : ¬ (addrlen < sizeofSockaddrIpx ∨ addr.family ≠ AF_IPX) := by
    rintro (short | other)
    · exact Nat.not_lt.mpr long short
    · exact other family
  unfold IpxWrapper.bind
  rw [at_fd]
  dsimp only
  unfold bindSocket
  rw [if_neg valid, if_pos bound]

theorem bindAnswers (at_pid : machine[pid]? = some w) (at_fd : w.sockets fd = some e)
    (addr : SockaddrIpx) (addrlen : Nat) {env : BindEnv}
    (fresh : w.handles env.mutex.handle = none) (underlying : Int) :
    ∃ e' ∈ (bind fd addr addrlen (env.among machine) underlying w).2.sockets fd,
      BindAnswers machine
        (machine.set pid (bind fd addr addrlen (env.among machine) underlying w).2) addr addrlen e
        (fun machine => (bind fd addr addrlen (env.among machine) underlying w).1) e' := by
  have shared (reuse : e.sock.flags.reuse = true) (nonzero : htons addr.socket ≠ 0) :=
    congrArg Prod.fst (bind_shared machine at_fd addrlen env underlying reuse nonzero)
  have refused (bound : e.sock.flags.bound = true) (long : sizeofSockaddrIpx ≤ addrlen)
      (family : addr.family = AF_IPX) :=
    congrArg Prod.fst (bind_bound at_fd (env.among machine) underlying bound long family)
  have fresh' : w.handles (env.among machine).mutex.handle = none := fresh
  rcases bind_outcome at_fd addr addrlen fresh' underlying with
    ⟨value, stays⟩ | ⟨value, unbound, binds⟩
  · obtain ⟨e', found, same⟩ := stays.after
    refine ⟨e', found, ?_, ?_, refused, shared⟩
    · exact fun succeeds => absurd value succeeds
    · exact fun _ => ⟨same, stays.sameHolders at_fd at_pid⟩
  · obtain ⟨e', found, bound, -⟩ := binds.after
    refine ⟨e', found, ?_, ?_, refused, shared⟩
    · exact fun _ => ⟨unbound, bound⟩
    · intro fails
      rw [value] at fails
      cases fails

theorem MachineInv.bindsExclusively {m : Move MachineInput Machine} (inv : MachineInv m.before)
    (enabled : machineStep m.input m.before = some m.after) : BindsExclusively m := by
  have called (pid : Nat) (call : ProcessCall) (input : m.input = .call pid call) (w : World)
      (at_pid : m.before[pid]? = some w) :
      call.Allowed w ∧ m.after = m.before.set pid ((call.among m.before).run w) := by
    rw [input] at enabled
    simp only [machineStep, at_pid] at enabled
    split at enabled
    case isTrue allowed => exact ⟨allowed, (Option.some.inj enabled).symm⟩
    case isFalse => cases enabled
  have at_pid' {pid : Nat} {w w' : World} (at_pid : m.before[pid]? = some w) :
      (m.before.set pid w')[pid]? = some w' :=
    List.getElem?_set_self (List.getElem?_eq_some_iff.mp at_pid).1
  constructor
  · intro pid call input w at_pid fd asked asks e at_fd unbound
    obtain ⟨allowed, after⟩ := called pid call input w at_pid
    obtain ⟨env, -, may⟩ := ProcessCall.mayBind m.before allowed asks at_fd
    obtain ⟨e', found, holds⟩ := inv.asksExclusively at_pid at_fd unbound may
    rw [after]
    exact ⟨_, at_pid' at_pid, e', found, holds⟩
  · intro pid fd addr addrlen env underlying input w at_pid e at_fd
    obtain ⟨allowed, after⟩ := called pid _ input w at_pid
    obtain ⟨e', found, holds⟩ := bindAnswers at_pid at_fd addr addrlen allowed.1 underlying
    rw [after]
    exact ⟨_, at_pid' at_pid, e', found, holds⟩

end Machines

/-! ## Runs -/

/-- In every run there are as many handles of the mutex of a number as sockets bound with it,
and each `bind`, explicit or not, takes a number as it must. -/
theorem machineMoves_exclusive (inputs : List MachineInput) :
    ∀ m ∈ machineMoves inputs, m.after.Counted ∧ BindsExclusively m := by
  intro m member
  obtain ⟨-, after, binds⟩ := moves_induct (I := MachineInv) (G := fun _ => True)
    (Q := BindsExclusively) (fun _ none => by cases none) (fun _ _ => trivial)
    (fun m inv enabled _ => ⟨inv.step enabled, inv.bindsExclusively enabled⟩) m member
  exact ⟨after.counted, binds⟩

/-! ## A bound socket is bound again -/

/-- `bind` fails, and the socket is bound after it. -/
def failedBindLeavesBound (m : Move MachineInput Machine) : Bool :=
  match m.input with
  | .call pid (.socketCall (.bind fd addr addrlen env) underlying) =>
      (m.before[pid]?.any fun w =>
        (bind fd addr addrlen (env.among m.before) underlying w).1.value = -1) &&
      (m.after[pid]?.any fun w => (w.sockets fd).any (·.sock.flags.bound))
  | _ => false

/-- `bind` of the socket with descriptor 3, where the next handle is `handle`. -/
def bindCall (handle : Nat) : ProcessCall :=
  .socketCall
    (.bind 3 someAddr 14
      ⟨⟨[⟨1, 65536, []⟩], true⟩, ⟨fun _ => .created, handle⟩, true, some 5⟩) 0

/-- A socket is made and bound twice. -/
def rebindRun : List MachineInput :=
  [.start .ipxwrapper,
    .call 0
      (.socketCall (.socket AF_IPX SOCK_STREAM 0 ⟨some (someMemory 0), none, none, some 3⟩) 0),
    .call 0 (bindCall 7),
    .call 0 (bindCall 8)]

/-- The second `bind` fails, and the socket stays bound. -/
theorem rebindRun_leavesBound :
    ¬ ∀ m ∈ machineMoves rebindRun, failedBindLeavesBound m = false := by
  decide

/-- The second `bind` is a step of the run, and finds the socket bound. -/
theorem rebindRun_exclusive :
    ∃ m, (machineMoves rebindRun)[3]? = some m ∧ m.input = .call 0 (bindCall 8) ∧
      (m.before[0]?.bind (·.sockets 3)).any (·.sock.flags.bound) = true ∧
      m.after.Counted ∧ BindsExclusively m := by
  have ran : ∃ m, (machineMoves rebindRun)[3]? = some m ∧ m.input = .call 0 (bindCall 8) ∧
      (m.before[0]?.bind (·.sockets 3)).any (·.sock.flags.bound) = true :=
    ⟨_, rfl, rfl, rfl⟩
  obtain ⟨m, last, input, bound⟩ := ran
  have member := List.mem_of_getElem? last
  exact ⟨m, last, input, bound, machineMoves_exclusive rebindRun m member⟩

end IpxWrapper
