import IpxWrapper.SocketNumbersRuns

/-!
# The implicit bind of an SPX socket (`winsock.c`)

`_connect_spx` binds a socket that is not bound by `_complete_bind`, which asks for the
number in the field `addr` of the socket. `bind` fills that field in first; `connect`
does not, so the number is whatever is in it: what `malloc` left there, or a `bind` that
failed. This module says when that makes no difference
(`machineMoves_implicitlyBinds_iff`).
-/

namespace IpxWrapper

open Base

/-! ## The number that `_complete_bind` comes to -/

/-- The number is the first of the dynamic range whose mutex can be made. -/
structure MutexEnv.FirstFree (env : MutexEnv) (n : UInt16) : Prop where
  dynamic : 1024 ≤ n
  created : env.createMutex n = .created
  first : ∀ k, 1024 ≤ k → k < n → env.createMutex k ≠ .created

/-- There is no such number. -/
def MutexEnv.NoneFree (env : MutexEnv) : Prop :=
  ∀ n, 1024 ≤ n → env.createMutex n ≠ .created

/-- What a search for that number comes to. -/
def MutexEnv.Searched (env : MutexEnv) (number : Option UInt16) : Prop :=
  (∃ n, number = some n ∧ env.FirstFree n) ∨ number = none ∧ env.NoneFree

/-- The mutex of the number can be had, if need be with others. -/
def MutexEnv.Gives (env : MutexEnv) (reuse : Bool) (n : UInt16) : Prop :=
  env.createMutex n = .created ∨ env.createMutex n = .existed ∧ reuse = true

instance (env : MutexEnv) (reuse : Bool) (n : UInt16) : Decidable (env.Gives reuse n) :=
  inferInstanceAs (Decidable (_ ∨ _))

/-- The number that the socket is bound with after `_complete_bind`. -/
def bindNumber (result : Bool × IpxSocket × World) : Option UInt16 :=
  if result.1 then some (htons result.2.1.addr.socket) else none

section CompleteBind

variable {env : MutexEnv} {id : Nat} {sock : IpxSocket} {w : World} {n m : UInt16}

theorem MutexEnv.FirstFree.unique (left : env.FirstFree n) (right : env.FirstFree m) : n = m := by
  by_contra ne
  have ne : n.toNat ≠ m.toNat := fun same => ne (UInt16.toNat_inj.mp same)
  rcases Nat.lt_or_gt_of_ne ne with lt | lt
  · exact right.first n left.dynamic (UInt16.lt_iff_toNat_lt.mpr lt) left.created
  · exact left.first m right.dynamic (UInt16.lt_iff_toNat_lt.mpr lt) right.created

theorem MutexEnv.gives_false : env.Gives false n ↔ env.createMutex n = .created :=
  or_iff_left fun both => by cases both.2

theorem openSocketMutex_of_gives {reuse : Bool} (gives : env.Gives reuse n) :
    openSocketMutex env id n (!reuse) w = (some env.handle, w.openHandle id env.handle n) := by
  unfold openSocketMutex
  rcases gives with created | ⟨existed, rfl⟩
  · rw [created]
  · rw [existed]
    rfl

theorem openSocketMutex_of_not_gives {reuse : Bool} (refused : ¬ env.Gives reuse n) :
    (openSocketMutex env id n (!reuse) w).1 = none := by
  unfold MutexEnv.Gives at refused
  unfold openSocketMutex
  rcases outcome : env.createMutex n with _ | _ | _
  · rfl
  · exact absurd (Or.inl outcome) refused
  · cases reuse with
    | false => rfl
    | true => exact absurd (Or.inr ⟨outcome, rfl⟩) refused

/-! ### The search -/

/-- A pass that is not the last finds a number that is not free. -/
theorem dynamicBindBody_taken {n' : UInt16} {w' : World}
    (pass : dynamicBindBody env id sock (n, w) = .next (n', w')) :
    n ≠ 65535 ∧ n' = n + 1 ∧ env.createMutex n ≠ .created := by
  obtain ⟨more, next, refused⟩ := dynamicBindBody_next pass
  refine ⟨more, next, fun created => ?_⟩
  have had := @openSocketMutex_of_gives env id w n false (MutexEnv.gives_false.mpr created)
  rw [Bool.not_false, refused] at had
  cases had

/-- The last pass finds one, or has come to the end. -/
theorem dynamicBindBody_last {result : Bool × IpxSocket × World}
    (pass : dynamicBindBody env id sock (n, w) = .done result) :
    bindNumber result = some n ∧ env.createMutex n = .created ∨
      bindNumber result = none ∧ env.createMutex n ≠ .created ∧ n = 65535 := by
  unfold dynamicBindBody at pass
  dsimp only at pass
  by_cases created : env.createMutex n = .created
  · have had := @openSocketMutex_of_gives env id w n false (MutexEnv.gives_false.mpr created)
    rw [Bool.not_false] at had
    rw [had] at pass
    obtain rfl := Iter.done.inj pass
    refine Or.inl ⟨?_, created⟩
    unfold bindNumber
    rw [if_pos rfl, htons_htons]
  · have refused := @openSocketMutex_of_not_gives env id w n false
      (created ∘ MutexEnv.gives_false.mp)
    rw [Bool.not_false] at refused
    split at pass
    case h_1 had =>
      rw [had] at refused
      cases refused
    case h_2 =>
      split at pass
      case isTrue last =>
        obtain rfl := Iter.done.inj pass
        exact Or.inr ⟨rfl, created, last⟩
      case isFalse => cases pass

/-- Asked for no number, `_complete_bind` comes to the first that is free. -/
theorem bindNumber_of_zero (zero : htons sock.addr.socket = 0) :
    env.Searched (bindNumber (completeBind env id sock w)) := by
  obtain ⟨result, done⟩ := dynamicBind_done env id sock w
  unfold completeBind
  rw [if_pos zero, done]
  dsimp only
  -- All numbers before the one of the pass are taken.
  refine Loop.Yields.post
    (I := fun s : UInt16 × World =>
      1024 ≤ s.1 ∧ ∀ k, 1024 ≤ k → k < s.1 → env.createMutex k ≠ .created)
    (P := fun result => env.Searched (bindNumber result)) ?_ ?_
    ⟨UInt16.le_refl _, fun k le lt => ?_⟩ ⟨_, done⟩
  · rintro ⟨n, w₁⟩ ⟨n', w₂⟩ ⟨dynamic, first⟩ pass
    obtain ⟨more, rfl, taken⟩ := dynamicBindBody_taken pass
    have bound := n.toNat_lt
    have inside : n.toNat ≠ 65535 := fun last => more (UInt16.toNat_inj.mp last)
    have succ : (n + 1).toNat = n.toNat + 1 := by
      rw [UInt16.toNat_add]
      exact Nat.mod_eq_of_lt (by change n.toNat + 1 < 65536; omega)
    refine ⟨?_, fun k le lt => ?_⟩
    · rw [UInt16.le_iff_toNat_le] at dynamic ⊢
      dsimp only at dynamic ⊢
      omega
    · rcases Nat.lt_or_eq_of_le (Nat.lt_succ_iff.mp (succ ▸ UInt16.lt_iff_toNat_lt.mp lt)) with
        before | here
      · exact first k le (UInt16.lt_iff_toNat_lt.mpr before)
      · exact UInt16.toNat_inj.mp here ▸ taken
  · rintro ⟨n, w₁⟩ result ⟨dynamic, first⟩ pass
    rcases dynamicBindBody_last pass with ⟨number, created⟩ | ⟨none', taken, rfl⟩
    · exact Or.inl ⟨n, number, dynamic, created, first⟩
    · refine Or.inr ⟨none', fun k le => ?_⟩
      have bound := k.toNat_lt
      rcases Nat.lt_or_eq_of_le (Nat.le_of_lt_succ bound) with before | here
      · exact first k le (UInt16.lt_iff_toNat_lt.mpr before)
      · obtain rfl : k = 65535 := UInt16.toNat_inj.mp here
        exact taken
  · exact absurd (Nat.lt_of_lt_of_le (UInt16.lt_iff_toNat_lt.mp lt) (UInt16.le_iff_toNat_le.mp le))
      (Nat.lt_irrefl _)

/-- Asked for a number, it comes to that one or none. -/
theorem bindNumber_of_nonzero (nonzero : htons sock.addr.socket ≠ 0) :
    bindNumber (completeBind env id sock w) =
      if env.Gives sock.flags.reuse (htons sock.addr.socket) then some (htons sock.addr.socket)
      else none := by
  unfold completeBind
  rw [if_neg nonzero]
  by_cases gives : env.Gives sock.flags.reuse (htons sock.addr.socket)
  · rw [if_pos gives, openSocketMutex_of_gives gives]
    rfl
  · rw [if_neg gives]
    have refused := @openSocketMutex_of_not_gives env id w _ _ gives
    split
    case h_1 had =>
      rw [had] at refused
      cases refused
    case h_2 => rfl

/-- The number that is left in the field makes no difference: there is none, or it is the one that
the search comes to, or neither can be had. -/
def MutexEnv.Harmless (env : MutexEnv) (reuse : Bool) (left : UInt16) : Prop :=
  left = 0 ∨ env.FirstFree left ∨ ¬ env.Gives reuse left ∧ env.NoneFree

theorem MutexEnv.Searched.unique {number number' : Option UInt16} (searched : env.Searched number)
    (searched' : env.Searched number') : number = number' := by
  rcases searched with ⟨n, rfl, first⟩ | ⟨rfl, none'⟩ <;>
    rcases searched' with ⟨n', rfl, first'⟩ | ⟨rfl, none''⟩
  · rw [first.unique first']
  · exact absurd first.created (none'' n first.dynamic)
  · exact absurd first'.created (none' n' first'.dynamic)
  · rfl

theorem bindNumber_eq_searched_iff {number : Option UInt16} (searched : env.Searched number) :
    bindNumber (completeBind env id sock w) = number ↔
      env.Harmless sock.flags.reuse (htons sock.addr.socket) := by
  unfold MutexEnv.Harmless
  by_cases zero : htons sock.addr.socket = 0
  · exact iff_of_true ((bindNumber_of_zero zero).unique searched) (Or.inl zero)
  · rw [bindNumber_of_nonzero zero, or_iff_right zero]
    by_cases gives : env.Gives sock.flags.reuse (htons sock.addr.socket)
    · rw [if_pos gives, or_iff_left fun both => both.1 gives]
      rcases searched with ⟨n, rfl, first⟩ | ⟨rfl, none'⟩
      · rw [Option.some.injEq]
        exact ⟨fun same => same ▸ first, fun own => own.unique first⟩
      · exact iff_of_false (fun none'' => by cases none'') fun own =>
          none' _ own.dynamic own.created
    · rw [if_neg gives, and_iff_right gives]
      rcases searched with ⟨n, rfl, first⟩ | ⟨rfl, none'⟩
      · refine iff_of_false (fun none'' => by cases none'') ?_
        rintro (own | none'')
        · exact gives (Or.inl own.created)
        · exact none'' n first.dynamic first.created
      · exact iff_of_true rfl (Or.inr none')

end CompleteBind

/-! ## The calls of `connect` -/

/-- The number in the field `addr` of the socket is `socket`. -/
def IpxSocket.withNumber (sock : IpxSocket) (socket : UInt16) : IpxSocket :=
  { sock with addr := { sock.addr with socket := socket } }

/-- The number that the socket with the descriptor is bound with. -/
def World.boundNumber (w : World) (fd : Nat) : Option UInt16 :=
  (w.sockets fd).bind fun e => if e.sock.flags.bound then some (htons e.sock.addr.socket) else none

/-- A call of `connect`. -/
structure ConnectCall where
  fd : Nat
  addr : SockaddrIpx
  addrlen : Nat
  env : ConnectEnv
  underlying : Int

namespace ConnectCall

/-- What it finds on the machine. -/
def envAmong (call : ConnectCall) (machine : Machine) : ConnectEnv :=
  { call.env with
    mutex := call.env.mutex.among machine
    bind := call.env.bind.among machine }

/-- What it returns, and the process after it. -/
def run (call : ConnectCall) (machine : Machine) (w : World) : CallOut × World :=
  connect call.fd call.addr call.addrlen (call.envAmong machine) call.underlying w

/-- What it returns, and the number that the socket is bound with after it. -/
def outcome (call : ConnectCall) (machine : Machine) (w : World) : CallOut × Option UInt16 :=
  ((call.run machine w).1, (call.run machine w).2.boundNumber call.fd)

/-- `connect` comes to the implicit bind: there is a reply, a connection and a TCP port. -/
def Binds (call : ConnectCall) (sock : IpxSocket) : Prop :=
  sizeofSockaddrIpx ≤ call.addrlen ∧ call.addr.family = AF_IPX ∧
    (connectBcastAddrs call.env.cache sock).length ≠ 0 ∧ call.env.packet = true ∧
    call.env.lookupFd = true ∧ call.env.lookupBind = true ∧ call.env.rGetsockname.isSome ∧
    ∃ ip port found,
      lookupTries call.env.cache call.addr sock (connectBcastAddrs call.env.cache sock).length
        call.env.tries ipxConnectTries 0 = .found ip port found ∧
      (call.env.rConnect ip port = .connected ∨ call.env.rConnect ip port = .wouldBlock true)

end ConnectCall

/-- The call binds the socket, if it succeeds, with a number of the dynamic range that no socket
of the machine is bound with; and all is as if no number were left in the field. -/
structure ImplicitlyBinds (machine : Machine) (w : World) (e : TableEntry) (call : ConnectCall) :
    Prop where
  dynamic : (call.run machine w).1.value = 0 →
    ∃ n, (call.outcome machine w).2 = some n ∧ 1024 ≤ n ∧ machine.boundTo n = ∅
  unaffected : call.outcome machine w =
    call.outcome machine (w.store call.fd e (e.sock.withNumber 0))

/-! ## What a call comes to -/

section Calls

variable {machine : Machine} {w : World} {e : TableEntry} {call : ConnectCall}

/-- The number makes no difference to the lookup. -/
def LookupOutcome.withNumber (socket : UInt16) : LookupOutcome → LookupOutcome
  | .found ip port sock => .found ip port (sock.withNumber socket)
  | outcome => outcome

theorem awaitReply_withNumber (cache : InterfaceCache) (ipxaddr : SockaddrIpx) (sock : IpxSocket)
    (socket : UInt16) (events : List LookupEvent) :
    awaitReply cache ipxaddr (sock.withNumber socket) events =
      (awaitReply cache ipxaddr sock events).withNumber socket := by
  induction events with
  | nil => rfl
  | cons event rest ih =>
      cases event with
      | selectFailed => rfl
      | received reply ip =>
          cases reply with
          | none => exact ih
          | some reply =>
              unfold awaitReply
              have bound : (sock.withNumber socket).flags.bound = sock.flags.bound := rfl
              rw [bound]
              split
              · split
                · rfl
                · cases ipxInterfaceBySubnet cache ip with
                  | none => exact ih
                  | some iface => rfl
              · exact ih

theorem lookupTries_withNumber (cache : InterfaceCache) (ipxaddr : SockaddrIpx) (sock : IpxSocket)
    (socket : UInt16) (bcastCount : Nat) (tries : Nat → LookupTry) (left i : Nat) :
    lookupTries cache ipxaddr (sock.withNumber socket) bcastCount tries left i =
      (lookupTries cache ipxaddr sock bcastCount tries left i).withNumber socket := by
  induction left generalizing i with
  | zero => rfl
  | succ left ih =>
      unfold lookupTries
      rw [awaitReply_withNumber]
      split
      · cases awaitReply cache ipxaddr sock (tries i).events with
        | noReply => exact ih (i + 1)
        | selectFailed => rfl
        | unreachable => rfl
        | found ip port sock => rfl
      · rfl

theorem connectBcastAddrs_withNumber (cache : InterfaceCache) (sock : IpxSocket)
    (socket : UInt16) :
    connectBcastAddrs cache (sock.withNumber socket) = connectBcastAddrs cache sock := rfl

theorem ConnectCall.binds_withNumber {sock : IpxSocket} {socket : UInt16} :
    call.Binds (sock.withNumber socket) ↔ call.Binds sock := by
  unfold ConnectCall.Binds
  rw [connectBcastAddrs_withNumber, lookupTries_withNumber]
  refine and_congr_right fun _ => and_congr_right fun _ => and_congr_right fun _ =>
    and_congr_right fun _ => and_congr_right fun _ => and_congr_right fun _ =>
      and_congr_right fun _ => ?_
  cases lookupTries call.env.cache call.addr sock (connectBcastAddrs call.env.cache sock).length
      call.env.tries ipxConnectTries 0 with
  | found ip port found =>
      constructor
      · rintro ⟨ip', port', found', same, connects⟩
        obtain ⟨rfl, rfl, rfl⟩ := LookupOutcome.found.inj same
        exact ⟨_, _, _, rfl, connects⟩
      · rintro ⟨ip', port', found', same, connects⟩
        obtain ⟨rfl, rfl, rfl⟩ := LookupOutcome.found.inj same
        exact ⟨_, _, _, rfl, connects⟩
  | selectFailed => exact Iff.rfl
  | unreachable => exact Iff.rfl
  | noReply => exact Iff.rfl

theorem World.boundNumber_store {fd : Nat} {sock : IpxSocket} :
    (w.store fd e sock).boundNumber fd =
      if sock.flags.bound then some (htons sock.addr.socket) else none := by
  unfold World.boundNumber World.store
  dsimp only
  rw [Function.update_self]
  rfl

/-- What a call that comes to the implicit bind leaves, where it binds with `number`. -/
def ConnectCall.bound (call : ConnectCall) (number : Option UInt16) : CallOut × Option UInt16 :=
  (if number.isSome ∧ call.env.spxinit then .ok 0 else .failed, number)

theorem spxConnected_outcome (unbound : e.sock.flags.bound = false)
    (fresh : w.handles call.env.mutex.handle = none) {sock : IpxSocket}
    (same : sock.flags = e.sock.flags) (socket : sock.addr.socket = e.sock.addr.socket)
    (port : call.env.rGetsockname.isSome) :
    ∃ sock' : IpxSocket, sock'.addr.socket = e.sock.addr.socket ∧
      sock'.flags.reuse = e.sock.flags.reuse ∧
      ((spxConnected call.fd e sock call.addr (call.envAmong machine) w).1,
        (spxConnected call.fd e sock call.addr (call.envAmong machine) w).2.boundNumber call.fd) =
      call.bound (bindNumber (completeBind (call.env.mutex.among machine) e.id sock' w)) := by
  obtain ⟨port, has⟩ := Option.isSome_iff_exists.mp port
  have has' : (call.envAmong machine).rGetsockname = some port := has
  have fresh' : w.handles (call.env.mutex.among machine).handle = none := fresh
  unfold spxConnected
  dsimp only
  rw [if_neg (by rw [same, unbound]; exact Bool.false_ne_true), has']
  dsimp only
  have mutex : (call.envAmong machine).mutex = call.env.mutex.among machine := rfl
  rw [mutex]
  generalize asked : IpxSocket.mk _ _ _ _ _ _ _ _ _ = sock₁
  have unbound₁ : ¬ sock₁.flags.bound = true := by
    rw [← asked, same, unbound]
    exact Bool.false_ne_true
  refine ⟨sock₁, by rw [← asked]; exact socket, by rw [← asked, same], ?_⟩
  unfold ConnectCall.bound bindNumber
  rcases completeBind_cases e.id sock₁ fresh' with ⟨sockMut, failed⟩ | ⟨addr, completed, -⟩
  · rw [failed]
    dsimp only
    rw [World.boundNumber_store, if_neg unbound₁]
    rfl
  · rw [completed]
    dsimp only
    rw [World.boundNumber_store, if_pos rfl]
    simp only [Option.isSome_some, true_and]
    rfl

/-- A call that comes to the implicit bind. -/
theorem connectSpx_outcome_of_binds (unbound : e.sock.flags.bound = false)
    (fresh : w.handles call.env.mutex.handle = none) (binds : call.Binds e.sock) :
    ∃ sock' : IpxSocket, sock'.addr.socket = e.sock.addr.socket ∧
      sock'.flags.reuse = e.sock.flags.reuse ∧
      ((connectSpx call.fd e call.addr (call.envAmong machine) w).1,
        (connectSpx call.fd e call.addr (call.envAmong machine) w).2.boundNumber call.fd) =
      call.bound (bindNumber (completeBind (call.env.mutex.among machine) e.id sock' w)) := by
  obtain ⟨-, family, somewhere, packet, lookupFd, lookupBind, port, ip, tcp, sock, found, connects⟩ :=
    binds
  obtain ⟨netnum, nodenum, same⟩ := lookupTries_keeps found
  have connected := @spxConnected_outcome machine w e call unbound fresh sock
    (by rw [same]) (by rw [same]) port
  unfold connectSpx ConnectCall.envAmong
  dsimp only
  rw [if_neg (not_not_intro family), if_neg somewhere, if_neg (not_not_intro packet),
    if_neg (not_not_intro ⟨lookupFd, lookupBind⟩), found]
  dsimp only
  rcases connects with accepted | later
  · rw [accepted]
    exact connected
  · rw [later]
    exact connected

/-- Without a TCP port the socket stays unbound. -/
theorem spxConnected_of_no_port {fd : Nat} {sock : IpxSocket} {addr : SockaddrIpx} {env : ConnectEnv}
    (unbound : sock.flags.bound = false) (port : env.rGetsockname = none) :
    (spxConnected fd e sock addr env w).1 = .failed ∧
      (spxConnected fd e sock addr env w).2.boundNumber fd = none := by
  have unbound : ¬ sock.flags.bound = true := by
    rw [unbound]
    exact Bool.false_ne_true
  unfold spxConnected
  dsimp only
  rw [if_neg unbound, port]
  dsimp only
  rw [World.boundNumber_store, if_neg unbound]
  exact ⟨rfl, rfl⟩

/-- A call that does not: the number in the field makes no difference. -/
theorem connectSpx_outcome_of_not_binds (at_fd : w.sockets call.fd = some e)
    (unbound : e.sock.flags.bound = false) (long : sizeofSockaddrIpx ≤ call.addrlen)
    (refused : ¬ call.Binds e.sock) (socket : UInt16) :
    (connectSpx call.fd e call.addr (call.envAmong machine) w).1.value ≠ 0 ∧
      ((connectSpx call.fd { e with sock := e.sock.withNumber socket } call.addr
          (call.envAmong machine) (w.store call.fd e (e.sock.withNumber socket))).1,
        (connectSpx call.fd { e with sock := e.sock.withNumber socket } call.addr
          (call.envAmong machine) (w.store call.fd e (e.sock.withNumber socket))).2.boundNumber
            call.fd) =
      ((connectSpx call.fd e call.addr (call.envAmong machine) w).1,
        (connectSpx call.fd e call.addr (call.envAmong machine) w).2.boundNumber call.fd) := by
  have minusOne : (-1 : Int) ≠ 0 := by decide
  have before : w.boundNumber call.fd = none := by
    unfold World.boundNumber
    rw [at_fd, Option.bind_some, if_neg (by rw [unbound]; exact Bool.false_ne_true)]
  have stored (w : World) (e : TableEntry) {sock : IpxSocket} (same : sock.flags.bound = false) :
      (w.store call.fd e sock).boundNumber call.fd = none := by
    rw [World.boundNumber_store, if_neg (by rw [same]; exact Bool.false_ne_true)]
  have after : (w.store call.fd e (e.sock.withNumber socket)).boundNumber call.fd = none :=
    stored w e unbound
  unfold ConnectCall.Binds at refused
  unfold connectSpx ConnectCall.envAmong
  dsimp only
  rw [connectBcastAddrs_withNumber, lookupTries_withNumber]
  by_cases family : call.addr.family = AF_IPX
  swap
  · rw [if_pos family, if_pos family]
    exact ⟨minusOne, Prod.ext rfl (after.trans before.symm)⟩
  rw [if_neg (not_not_intro family), if_neg (not_not_intro family)]
  by_cases nowhere : (connectBcastAddrs call.env.cache e.sock).length = 0
  · rw [if_pos nowhere, if_pos nowhere]
    exact ⟨minusOne, Prod.ext rfl (after.trans before.symm)⟩
  rw [if_neg nowhere, if_neg nowhere]
  by_cases packet : call.env.packet = true
  swap
  · rw [if_pos packet, if_pos packet]
    exact ⟨minusOne, Prod.ext rfl (after.trans before.symm)⟩
  rw [if_neg (not_not_intro packet), if_neg (not_not_intro packet)]
  by_cases lookup : call.env.lookupFd = true ∧ call.env.lookupBind = true
  swap
  · rw [if_pos lookup, if_pos lookup]
    exact ⟨minusOne, Prod.ext rfl (after.trans before.symm)⟩
  rw [if_neg (not_not_intro lookup), if_neg (not_not_intro lookup)]
  cases found : lookupTries call.env.cache call.addr e.sock
      (connectBcastAddrs call.env.cache e.sock).length call.env.tries ipxConnectTries 0 with
  | selectFailed => exact ⟨minusOne, Prod.ext rfl (after.trans before.symm)⟩
  | unreachable => exact ⟨minusOne, Prod.ext rfl (after.trans before.symm)⟩
  | noReply => exact ⟨minusOne, Prod.ext rfl (after.trans before.symm)⟩
  | found ip tcp sock =>
      obtain ⟨netnum, nodenum, same⟩ := lookupTries_keeps found
      have unbound' : sock.flags.bound = false := by
        rw [same]
        exact unbound
      have portless (connects : call.env.rConnect ip tcp = .connected ∨
          call.env.rConnect ip tcp = .wouldBlock true) : call.env.rGetsockname = none := by
        rw [← Option.not_isSome_iff_eq_none]
        exact fun port => refused ⟨long, family, nowhere, packet, lookup.1, lookup.2, port, ip, tcp,
          sock, found, connects⟩
      have unconnected {w : World} {e : TableEntry} {sock : IpxSocket}
          (unbound : sock.flags.bound = false) (port : call.env.rGetsockname = none) :
          (spxConnected call.fd e sock call.addr (call.envAmong machine) w).1 = .failed ∧
            (spxConnected call.fd e sock call.addr (call.envAmong machine) w).2.boundNumber
              call.fd = none :=
        spxConnected_of_no_port unbound port
      have connected (port : call.env.rGetsockname = none) {w' : World} {e' : TableEntry}
          {sock' : IpxSocket} (unbound'' : sock'.flags.bound = false) :
          (spxConnected call.fd e sock call.addr (call.envAmong machine) w).1.value ≠ 0 ∧
          ((spxConnected call.fd e' sock' call.addr (call.envAmong machine) w').1,
            (spxConnected call.fd e' sock' call.addr (call.envAmong machine) w').2.boundNumber
              call.fd) =
          ((spxConnected call.fd e sock call.addr (call.envAmong machine) w).1,
            (spxConnected call.fd e sock call.addr (call.envAmong machine) w).2.boundNumber
              call.fd) := by
        obtain ⟨out, none'⟩ := unconnected (w := w) (e := e) unbound' port
        obtain ⟨out', none''⟩ := unconnected (w := w') (e := e') unbound'' port
        rw [out, out', none', none'']
        exact ⟨minusOne, rfl⟩
      unfold LookupOutcome.withNumber
      dsimp only
      have unbound'' : (sock.withNumber socket).flags.bound = false := unbound'
      have written := (stored (w.store call.fd e (e.sock.withNumber socket))
        { e with sock := e.sock.withNumber socket } unbound'').trans (stored w e unbound').symm
      cases outcome : call.env.rConnect ip tcp with
      | connected => exact connected (portless (Or.inl outcome)) unbound'
      | wouldBlock writable =>
          cases writable with
          | true => exact connected (portless (Or.inr outcome)) unbound'
          | false => exact ⟨minusOne, Prod.ext rfl written⟩
      | failed => exact ⟨minusOne, Prod.ext rfl written⟩

/-! ## When the number makes no difference -/

theorem ConnectCall.run_eq (at_fd : w.sockets call.fd = some e) (spx : e.sock.flags.isSpx = true)
    (long : ¬ call.addrlen < sizeofSockaddrIpx) (family : ¬ call.addr.family ≠ AF_IPX) :
    call.run machine w = connectSpx call.fd e call.addr (call.envAmong machine) w := by
  unfold ConnectCall.run IpxWrapper.connect
  rw [at_fd]
  dsimp only
  rw [if_pos spx, if_neg long, if_neg family]

theorem ConnectCall.run_of_short (at_fd : w.sockets call.fd = some e)
    (spx : e.sock.flags.isSpx = true) (short : call.addrlen < sizeofSockaddrIpx) :
    call.run machine w = (.fail WSAEFAULT, w) := by
  unfold ConnectCall.run IpxWrapper.connect
  rw [at_fd]
  dsimp only
  rw [if_pos spx, if_pos short]

theorem ConnectCall.run_of_family (at_fd : w.sockets call.fd = some e)
    (spx : e.sock.flags.isSpx = true) (long : ¬ call.addrlen < sizeofSockaddrIpx)
    (family : call.addr.family ≠ AF_IPX) :
    call.run machine w = (.fail WSAEAFNOSUPPORT, w) := by
  unfold ConnectCall.run IpxWrapper.connect
  rw [at_fd]
  dsimp only
  rw [if_pos spx, if_neg long, if_pos family]

theorem store_sockets {fd : Nat} {sock : IpxSocket} :
    (w.store fd e sock).sockets fd = some { e with sock := sock } :=
  Function.update_self ..

theorem ConnectCall.outcome_of_binds (at_fd : w.sockets call.fd = some e)
    (spx : e.sock.flags.isSpx = true) (unbound : e.sock.flags.bound = false)
    (fresh : w.handles call.env.mutex.handle = none) (binds : call.Binds e.sock) :
    ∃ sock' : IpxSocket, sock'.addr.socket = e.sock.addr.socket ∧
      sock'.flags.reuse = e.sock.flags.reuse ∧ call.outcome machine w =
        call.bound (bindNumber (completeBind (call.env.mutex.among machine) e.id sock' w)) := by
  unfold ConnectCall.outcome
  rw [ConnectCall.run_eq at_fd spx (Nat.not_lt.mpr binds.1) (not_not_intro binds.2.1)]
  exact connectSpx_outcome_of_binds unbound fresh binds

theorem ConnectCall.outcome_of_not_binds (at_fd : w.sockets call.fd = some e)
    (spx : e.sock.flags.isSpx = true) (unbound : e.sock.flags.bound = false)
    (refused : ¬ call.Binds e.sock) (socket : UInt16) :
    (call.outcome machine w).1.value ≠ 0 ∧
      call.outcome machine w =
        call.outcome machine (w.store call.fd e (e.sock.withNumber socket)) := by
  have minusOne : (-1 : Int) ≠ 0 := by decide
  have numbers : w.boundNumber call.fd = none ∧
      (w.store call.fd e (e.sock.withNumber socket)).boundNumber call.fd = none := by
    rw [World.boundNumber_store, if_neg (by change ¬ e.sock.flags.bound = true; simp [unbound])]
    unfold World.boundNumber
    rw [at_fd, Option.bind_some, if_neg (by simp [unbound])]
    exact ⟨rfl, rfl⟩
  have spx' : (e.sock.withNumber socket).flags.isSpx = true := spx
  have at_fd' : (w.store call.fd e (e.sock.withNumber socket)).sockets call.fd =
      some { e with sock := e.sock.withNumber socket } := store_sockets
  by_cases long : call.addrlen < sizeofSockaddrIpx
  · unfold ConnectCall.outcome
    rw [ConnectCall.run_of_short at_fd spx long, ConnectCall.run_of_short at_fd' spx' long]
    exact ⟨minusOne, Prod.ext rfl (numbers.1.trans numbers.2.symm)⟩
  by_cases family : call.addr.family ≠ AF_IPX
  · unfold ConnectCall.outcome
    rw [ConnectCall.run_of_family at_fd spx long family,
      ConnectCall.run_of_family at_fd' spx' long family]
    exact ⟨minusOne, Prod.ext rfl (numbers.1.trans numbers.2.symm)⟩
  · obtain ⟨fails, same⟩ := @connectSpx_outcome_of_not_binds machine _ _ _ at_fd unbound
      (Nat.not_lt.mp long) refused socket
    unfold ConnectCall.outcome
    rw [ConnectCall.run_eq at_fd spx long family, ConnectCall.run_eq at_fd' spx' long family]
    exact ⟨fails, same.symm⟩

theorem MachineInv.implicitlyBinds_iff (inv : MachineInv machine)
    (at_fd : w.sockets call.fd = some e) (spx : e.sock.flags.isSpx = true)
    (unbound : e.sock.flags.bound = false) (fresh : w.handles call.env.mutex.handle = none) :
    ImplicitlyBinds machine w e call ↔
      (call.Binds e.sock →
        (call.env.mutex.among machine).Harmless e.sock.flags.reuse (htons e.sock.addr.socket)) := by
  by_cases binds : call.Binds e.sock
  · rw [forall_prop_of_true binds]
    obtain ⟨sock, socket, reuse, outcome⟩ :=
      @ConnectCall.outcome_of_binds machine _ _ _ at_fd spx unbound fresh binds
    have binds' : call.Binds (e.sock.withNumber 0) := ConnectCall.binds_withNumber.mpr binds
    have at_fd' : (w.store call.fd e (e.sock.withNumber 0)).sockets call.fd =
        some { e with sock := e.sock.withNumber 0 } := store_sockets
    obtain ⟨sock', socket', -, outcome'⟩ :=
      @ConnectCall.outcome_of_binds machine _ _ _ at_fd' spx unbound fresh binds'
    have zero : htons sock'.addr.socket = 0 := by
      rw [socket']
      change htons 0 = 0
      decide
    have searched := @bindNumber_of_zero (call.env.mutex.among machine) e.id sock'
      (w.store call.fd e (e.sock.withNumber 0)) zero
    have same := @bindNumber_eq_searched_iff _ e.id sock w _ searched
    rw [socket, reuse] at same
    rw [← same]
    constructor
    · intro implicitly
      have unaffected := implicitly.unaffected
      rw [outcome, outcome'] at unaffected
      exact congrArg Prod.snd unaffected
    · intro numbers
      refine ⟨fun succeeds => ?_, by rw [outcome, outcome', numbers]⟩
      have succeeds : (call.outcome machine w).1.value = 0 := succeeds
      rw [outcome, numbers] at succeeds ⊢
      rcases searched with ⟨n, found, first⟩ | ⟨none', -⟩
      · exact ⟨n, found, first.dynamic, inv.boundTo_empty (among_created first.created)⟩
      · rw [none'] at succeeds
        cases succeeds
  · obtain ⟨fails, same⟩ :=
      @ConnectCall.outcome_of_not_binds machine _ _ _ at_fd spx unbound binds 0
    refine iff_of_true ⟨fun succeeds => absurd succeeds fails, same⟩ fun binds' => absurd binds' binds

end Calls

/-! ## In every run -/

/-- The input is the call, of the process numbered `pid`. -/
def ConnectCall.input (call : ConnectCall) (pid : Nat) : MachineInput :=
  .call pid (.socketCall (.connect call.fd call.addr call.addrlen call.env) call.underlying)

/-- In every run of the machine, a `connect` of an SPX socket that is not bound binds it as it must
exactly if the call does not come to the implicit bind, or the number in the field is harmless. -/
theorem machineMoves_implicitlyBinds_iff (inputs : List MachineInput) :
    ∀ m ∈ machineMoves inputs, ∀ pid call, m.input = ConnectCall.input call pid →
      ∀ w ∈ m.before[pid]?, ∀ e ∈ w.sockets call.fd,
        e.sock.flags.isSpx = true → e.sock.flags.bound = false →
          (ImplicitlyBinds m.before w e call ↔
            (call.Binds e.sock → (call.env.mutex.among m.before).Harmless e.sock.flags.reuse
              (htons e.sock.addr.socket))) := by
  intro m member pid call input w at_pid e at_fd spx unbound
  obtain ⟨inv, -, -⟩ := moves_induct (I := MachineInv) (G := fun _ => True) (Q := fun _ => True)
    (fun _ none => by cases none) (fun _ _ => trivial)
    (fun m inv enabled _ => ⟨inv.step enabled, trivial⟩) m member
  have enabled := step_of_mem_moves member
  rw [input] at enabled
  unfold ConnectCall.input machineStep at enabled
  dsimp only at enabled
  rw [at_pid] at enabled
  dsimp only at enabled
  split at enabled
  case isTrue allowed => exact inv.implicitlyBinds_iff at_fd spx unbound allowed.1.1
  case isFalse => cases enabled

/-! ## What is left in the memory -/

/-- A `connect` that gets a reply and a connection. -/
def connectCall : ConnectCall where
  fd := 3
  addr := someAddr
  addrlen := sizeofSockaddrIpx
  underlying := 0
  env :=
    { bind := ⟨⟨[], true⟩, ⟨fun _ => .created, 8⟩, true, some 5⟩
      cache := ⟨[⟨1, 65536, [⟨0x0100007F, 0x000000FF, 0xFFFFFF7F⟩]⟩], true⟩
      packet := true
      lookupFd := true
      lookupBind := true
      tries := fun _ => ⟨fun _ => true, [.received (some ⟨1, 0, htons 0x4000, 5⟩) 0x0200007F]⟩
      rConnect := fun _ _ => .connected
      rGetsockname := some 5
      mutex := ⟨fun _ => .created, 7⟩
      spxinit := true }

/-- An SPX socket is made in memory with this number in the field, and connected. -/
def leftNumberRun (socket : UInt16) : List MachineInput :=
  [.start .ipxwrapper,
    .call 0
      (.socketCall
        (.socket AF_IPX SOCK_STREAM 0
          ⟨some ((someMemory 0).withNumber socket), none, none, some 3⟩) 0),
    ConnectCall.input connectCall 0]

/-- With nothing left there the socket gets the first number that is free. -/
theorem emptyFieldRun_implicitlyBinds : ∃ m ∈ machineMoves (leftNumberRun 0),
    m.input = ConnectCall.input connectCall 0 ∧ ∃ w ∈ m.before[0]?, ∃ e ∈ w.sockets connectCall.fd,
      ImplicitlyBinds m.before w e connectCall := by
  obtain ⟨m, third, input, w, at_pid, e, at_fd, spx, unbound, zero⟩ :
      ∃ m, (machineMoves (leftNumberRun 0))[2]? = some m ∧
        m.input = ConnectCall.input connectCall 0 ∧ ∃ w ∈ m.before[0]?,
          ∃ e ∈ w.sockets connectCall.fd, e.sock.flags.isSpx = true ∧
            e.sock.flags.bound = false ∧ htons e.sock.addr.socket = 0 :=
    ⟨_, rfl, rfl, _, rfl, _, rfl, rfl, rfl, rfl⟩
  have member := List.mem_of_getElem? third
  refine ⟨m, member, input, w, at_pid, e, at_fd, ?_⟩
  exact (machineMoves_implicitlyBinds_iff (leftNumberRun 0) m member 0 connectCall input w at_pid
    e at_fd spx unbound).mpr fun _ => Or.inl zero

/-- With 80 left there, the socket is bound with 80. -/
theorem leftNumberRun_not_implicitlyBinds : ¬ ∀ m ∈ machineMoves (leftNumberRun (htons 80)),
    ∀ pid call, m.input = ConnectCall.input call pid → ∀ w ∈ m.before[pid]?,
      ∀ e ∈ w.sockets call.fd, e.sock.flags.isSpx = true → e.sock.flags.bound = false →
        ImplicitlyBinds m.before w e call := by
  intro implicitly
  obtain ⟨m, third, input, w, at_pid, e, at_fd, spx, unbound, outcome⟩ :
      ∃ m, (machineMoves (leftNumberRun (htons 80)))[2]? = some m ∧
        m.input = ConnectCall.input connectCall 0 ∧ ∃ w ∈ m.before[0]?,
          ∃ e ∈ w.sockets connectCall.fd, e.sock.flags.isSpx = true ∧
            e.sock.flags.bound = false ∧ connectCall.outcome m.before w = (.ok 0, some 80) :=
    ⟨_, rfl, rfl, _, rfl, _, rfl, rfl, rfl, by decide⟩
  have binds := implicitly m (List.mem_of_getElem? third) 0 connectCall input w at_pid e at_fd spx
    unbound
  obtain ⟨n, bound, dynamic, -⟩ := binds.dynamic (congrArg (·.1.value) outcome)
  rw [outcome] at bound
  obtain rfl := Option.some.inj bound
  exact absurd dynamic (by decide)

end IpxWrapper
