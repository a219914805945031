import IpxWrapper.LockLevels

/-!
# Waiting for DOSBox without the lock (`ipxwrapper.c`, `winsock.c`)

`get_socket_wait_for_ready` releases the lock once before it waits. That is
enough unless its caller holds the lock as well: `bind` from within `sendto` or
`connect`, and `getsockopt` from within `_connect_spx`.
-/

namespace IpxWrapper

open Base LockProg

/-! ## Waits -/

/-- Where the thread may wait for readiness. -/
def Unlocked : LockEvent WaitOp → Nat → Prop
  | .enter .waitForReady, depth => depth = 0
  | _, _ => True

/-- Whenever the thread enters `wait_for_ready`, it does not hold the lock. -/
def WaitsUnlocked {α : Type} (others : Nat → World) (p : Wrapper α) (h : Holder World) : Prop :=
  ∀ depth, (.enter .waitForReady, depth) ∈ p.events others h → depth = 0

section Waits

variable {α : Type} {others : Nat → World} {h : Holder World} {p : Wrapper α}

theorem waitsUnlocked_iff :
    WaitsUnlocked others p h ↔ p.wp others Unlocked h fun _ _ => True := by
  refine ⟨fun waits => ⟨?_, fun _ _ _ => trivial⟩, fun waits depth member => ?_⟩
  · rintro ⟨_ | op, depth⟩ member
    · trivial
    · rcases op with _ | _ | _ | _ | _ | _
      · exact waits depth member
      all_goals trivial
  · exact waits.1 (.enter .waitForReady, depth) member

/-- What keeps its level and waits for readiness with none does so without the lock, if
its thread begins with the levels it says. -/
theorem Wrapper.Levels.unlocked {i : Nat} {j : α → Nat} (levels : p.Levels (· = 0) i j)
    (depth : h.depth = i) : p.wp others Unlocked h fun a h' => h'.depth = j a := by
  refine (levels.at_base (depth.trans (Nat.zero_add i).symm)).mono ?_ ?_
  · rintro (_ | op) k admitted
    · trivial
    · rcases op with _ | _ | _ | _ | _ | _
      · exact admitted
      all_goals trivial
  · exact fun a h' reached => reached.trans (Nat.zero_add (j a))

/-- The levels at the end do not matter. -/
theorem Wrapper.Levels.waits {i : Nat} {j : α → Nat} (levels : p.Levels (· = 0) i j)
    (depth : h.depth = i) : p.wp others Unlocked h fun _ _ => True :=
  (Wrapper.Levels.unlocked levels depth).imp fun _ _ _ => trivial

/-- What keeps its level ends with the levels it says. -/
theorem Wrapper.Levels.ends {i : Nat} {j : α → Nat} (levels : p.Levels (fun _ => True) i j)
    (depth : h.depth = i) : p.wp others (fun _ _ => True) h fun a h' => h'.depth = j a := by
  refine (levels.at_base (depth.trans (Nat.zero_add i).symm)).mono (fun _ _ _ => trivial) ?_
  exact fun a h' reached => reached.trans (Nat.zero_add (j a))

/-- A wrapper that only calls the function underneath does not wait for readiness. -/
theorem awaitPure_waits {op : WaitOp} {a : α} (other : op ≠ .waitForReady) :
    (await op >>= fun _ => pure a : Wrapper α).wp others Unlocked h fun _ _ => True := by
  rw [wp_bind, wp_await, wp_pure]
  refine ⟨?_, trivial⟩
  cases op with
  | waitForReady => exact absurd rfl other
  | _ => trivial

theorem foundOnEntry_held (held : 0 < h.depth) : foundOnEntry others h = h.data := by
  unfold foundOnEntry Holder.lock
  rw [if_neg (Nat.ne_of_gt held)]

/-- The table that `get_socket_wait_for_ready` finds after the wait. -/
def foundAfterWait (others : Nat → World) (h : Holder World) : World :=
  foundOnEntry others (h.lock others).unlock

theorem getSocketWaitForReady_wp {fd : Nat} {ok : LockEvent WaitOp → Nat → Prop}
    {Q : Option TableEntry → Holder World → Prop} :
    (Locked.getSocketWaitForReady fd).wp others ok h Q ↔
      match (foundOnEntry others h).sockets fd with
      | none => ok .unlock (h.depth + 1) ∧ Q none (h.lock others).unlock
      | some _ =>
          ok .unlock (h.depth + 1) ∧ ok (.enter .waitForReady) h.depth ∧
            (Locked.getSocket fd).wp others ok (h.lock others).unlock Q := by
  unfold Locked.getSocketWaitForReady
  rw [wp_bind, getSocket_wp]
  rcases (foundOnEntry others h).sockets fd with _ | e
  · simp only [wp_pure]
  · simp only [Locked.unlockSockets, wp_bind, wp_release, wp_await, Holder.lock_depth,
      Holder.unlock_depth, Nat.add_sub_cancel]

/-- A thread that holds the lock looks up what is not in the table. -/
theorem getSocket_other {fd : Nat} (held : 0 < h.depth) (other : h.data.sockets fd = none)
    {f : Option TableEntry → Wrapper α} {Q : α → Holder World → Prop} :
    (Locked.getSocket fd >>= f).wp others Unlocked h Q ↔ (f none).wp others Unlocked h Q := by
  rw [wp_bind, getSocket_wp, foundOnEntry_held held, other, Holder.unlock_lock held]
  exact and_iff_right trivial

theorem getSocketWaitForReady_other {fd : Nat} (held : 0 < h.depth)
    (other : h.data.sockets fd = none) {f : Option TableEntry → Wrapper α}
    {ok : LockEvent WaitOp → Nat → Prop} (free : ∀ k, ok .unlock k)
    {Q : α → Holder World → Prop} :
    (Locked.getSocketWaitForReady fd >>= f).wp others ok h Q ↔ (f none).wp others ok h Q := by
  rw [wp_bind, getSocketWaitForReady_wp, foundOnEntry_held held, other, Holder.unlock_lock held]
  exact and_iff_right (free _)

/-- It waits with the lock if its caller holds it and the socket is there. -/
theorem getSocketWaitForReady_held {fd : Nat} {e : TableEntry} (held : 0 < h.depth)
    (found : h.data.sockets fd = some e) {f : Option TableEntry → Wrapper α}
    {Q : α → Holder World → Prop} :
    ¬ (Locked.getSocketWaitForReady fd >>= f).wp others Unlocked h Q := by
  rw [wp_bind, getSocketWaitForReady_wp, foundOnEntry_held held, found]
  rintro ⟨-, waits, -⟩
  exact absurd waits (Nat.ne_of_gt held)

end Waits

/-! ## The calls from within -/

/-- `sendto` finds an IPX socket before its wait, and binds the one found after it. -/
def SendtoWaits (others : Nat → World) (h : Holder World) (fd : Nat) (addr : Option SockaddrIpx)
    (addrlen : Nat) : Prop :=
  (foundOnEntry others h).sockets fd ≠ none ∧
    ∃ e ∈ (foundAfterWait others h).sockets fd, Locked.SendtoBinds e addr addrlen

/-- `connect` on an SPX socket comes to its lookup. -/
structure SpxLooksUp (e : TableEntry) (env : Locked.ConnectingEnv) : Prop where
  somewhere : (connectBcastAddrs env.cache e.sock).length ≠ 0
  packet : env.packet
  lookupFd : env.lookupFd

/-- The lookup finds the descriptor of its own socket in the table when it calls `bind`, or
before a later batch of requests. -/
def LookupWaits (others : Nat → World) (h : Holder World) (fd : Nat) (e : TableEntry)
    (addr : SockaddrIpx) (bcastCount : Nat) (env : Locked.ConnectingEnv) : Prop :=
  ∃ i < ipxConnectTries, (i = 0 ∨ env.lookupBind) ∧
    ∃ h', (Locked.lookupTries fd addr env e bcastCount i 0).result others h =
      some (.noReply, h') ∧ h'.data.sockets env.lookup ≠ none

/-- The lookup finds an address, and the underlying socket neither connects at once nor gets
writable. -/
def SpxNotWritable (others : Nat → World) (h : Holder World) (fd : Nat) (e : TableEntry)
    (addr : SockaddrIpx) (bcastCount : Nat) (env : Locked.ConnectingEnv) : Prop :=
  ∃ found ip port h',
    (Locked.spxLookup fd e addr bcastCount env).result others h =
      some (.found found ip port, h') ∧
    env.rConnect ip port = .wouldBlock false ∧ h'.data.sockets fd ≠ none

/-- `_connect_spx` calls `bind` or `sendto` on the socket of its lookup, or `getsockopt` on
its own, which are in the table. -/
def ConnectSpxWaits (others : Nat → World) (h : Holder World) (fd : Nat) (e : TableEntry)
    (addr : SockaddrIpx) (env : Locked.ConnectingEnv) : Prop :=
  SpxLooksUp e env ∧
    (LookupWaits others h fd e addr (connectBcastAddrs env.cache e.sock).length env ∨
      SpxNotWritable others h fd e addr (connectBcastAddrs env.cache e.sock).length env)

/-- `connect` binds a datagram socket, or waits in `_connect_spx`. -/
def ConnectWaits (others : Nat → World) (h : Holder World) (fd : Nat) (e : TableEntry)
    (addr : SockaddrIpx) (addrlen : Nat) (env : Locked.ConnectingEnv) : Prop :=
  if e.sock.flags.isSpx then
    ¬ addrlen < sizeofSockaddrIpx ∧ addr.family = AF_IPX ∧
      ConnectSpxWaits others (h.lock others) fd e addr env
  else
    Locked.ConnectBinds e addr addrlen

/-- The call comes to another that waits for readiness, with the lock held: `sendto` and
`connect` to the implicit `bind` of a datagram socket, or `connect` of an SPX socket to
`getsockopt`, or to `bind` or `sendto` on the socket of its lookup. -/
def WrapperCall.WaitsInside (others : Nat → World) (h : Holder World) : WrapperCall → Prop
  | .sendto fd _ addr addrlen _ _ => SendtoWaits others h fd addr addrlen
  | .send fd _ _ _ =>
      ∃ e ∈ (foundOnEntry others h).sockets fd, ¬ e.sock.flags.isSpx ∧ e.sock.flags.connected ∧
        SendtoWaits others (h.lock others).unlock fd (some e.sock.remoteAddr) sizeofSockaddrIpx
  | .connect fd addr addrlen env _ =>
      ∃ e ∈ (foundOnEntry others h).sockets fd, ConnectWaits others h fd e addr addrlen env
  | _ => False

section Calls

variable {others : Nat → World} {h : Holder World}

/-- `bind` waits with the lock if its caller holds it and the socket is there. -/
theorem bind_held {fd : Nat} {e : TableEntry} (held : 0 < h.depth)
    (found : h.data.sockets fd = some e) {addr : SockaddrIpx} {addrlen : Nat} {env : BindEnv}
    {underlying : Int} {Q : CallOut → Holder World → Prop} :
    ¬ (Locked.bind fd addr addrlen env underlying).wp others Unlocked h Q := by
  unfold Locked.bind
  exact getSocketWaitForReady_held held found

theorem sendtoFound_waits_iff {fd : Nat} {e : TableEntry} (depth : h.depth = 1)
    (found : h.data.sockets fd = some e) {len : Int} {addr : Option SockaddrIpx} {addrlen : Nat}
    {env : Locked.SendtoEnv} {underlying : Int} :
    (Locked.sendtoFound fd e len addr addrlen env underlying).wp others Unlocked h
        (fun _ _ => True) ↔ ¬ Locked.SendtoBinds e addr addrlen := by
  by_cases binds : Locked.SendtoBinds e addr addrlen
  · refine iff_of_false ?_ fun not => not binds
    obtain ⟨dgram, given, long, send, unbound⟩ := binds
    obtain ⟨ipxaddr, rfl⟩ := Option.ne_none_iff_exists'.mp given
    unfold Locked.sendtoFound
    rw [if_neg dgram]
    dsimp only
    rw [if_neg long, if_neg (not_not.mpr send), if_neg unbound, wp_bind]
    exact bind_held (depth ▸ Nat.one_pos) found
  · refine iff_of_true ?_ binds
    exact Wrapper.Levels.waits (Locked.sendtoFound_levels fun may => absurd may binds) depth

theorem sendto_waits_iff (outside : h.depth = 0) {fd : Nat} {len : Int}
    {addr : Option SockaddrIpx} {addrlen : Nat} {env : Locked.SendtoEnv} {underlying : Int} :
    (Locked.sendto fd len addr addrlen env underlying).wp others Unlocked h (fun _ _ => True) ↔
      ¬ SendtoWaits others h fd addr addrlen := by
  unfold Locked.sendto SendtoWaits
  rw [wp_bind, getSocketWaitForReady_wp]
  rcases (foundOnEntry others h).sockets fd with _ | _
  · exact iff_of_true ⟨trivial, awaitPure_waits nofun⟩ fun binds => binds.1 rfl
  rw [getSocket_wp]
  change _ ∧ _ ∧ (match (foundAfterWait others h).sockets fd with | none => _ | some e => _) ↔ _
  rcases found : (foundAfterWait others h).sockets fd with _ | e
  · refine iff_of_true ⟨trivial, outside, trivial, awaitPure_waits nofun⟩ ?_
    rintro ⟨-, e, member, -⟩
    cases member
  · have depth : ((h.lock others).unlock.lock others).depth = 1 := by
      rw [Holder.lock_depth, Holder.unlock_depth, Holder.lock_depth, outside]
    dsimp only
    rw [sendtoFound_waits_iff depth found]
    simp [Unlocked, outside]

theorem send_waits_iff (outside : h.depth = 0) {fd : Nat} {len : Int} {env : Locked.SendtoEnv}
    {underlying : Int} :
    (Locked.send fd len env underlying).wp others Unlocked h (fun _ _ => True) ↔
      ¬ (WrapperCall.send fd len env underlying).WaitsInside others h := by
  unfold Locked.send WrapperCall.WaitsInside
  rw [wp_bind, getSocket_wp]
  rcases found : (foundOnEntry others h).sockets fd with _ | e
  · refine iff_of_true ⟨trivial, awaitPure_waits nofun⟩ ?_
    rintro ⟨e, member, -⟩
    cases found.symm.trans member
  have depth : (h.lock others).depth = 1 := by
    rw [Holder.lock_depth, outside]
  dsimp only
  split_ifs with spx connected
  · refine iff_of_true (Wrapper.Levels.waits (Locked.unlockAwait_levels trivial) depth) ?_
    rintro ⟨_, member, dgram, -⟩
    cases found.symm.trans member
    exact dgram spx
  · have after : (h.lock others).unlock.depth = 0 := by
      rw [Holder.unlock_depth, depth]
    rw [wp_bind, Locked.unlockSockets, wp_release, sendto_waits_iff after]
    refine ⟨?_, fun not => ⟨trivial, fun waits => not ⟨e, found, spx, connected, waits⟩⟩⟩
    rintro ⟨-, not⟩ ⟨_, member, -, -, waits⟩
    cases found.symm.trans member
    exact not waits
  · refine iff_of_true (Wrapper.Levels.waits Locked.leave_levels depth) ?_
    rintro ⟨_, member, -, is, -⟩
    cases found.symm.trans member
    exact connected is

/-! ## `connect` -/

theorem connectDgram_waits_iff {fd : Nat} {e : TableEntry} (depth : h.depth = 1)
    (found : h.data.sockets fd = some e) {addr : SockaddrIpx} {addrlen : Nat}
    {env : Locked.ConnectingEnv} :
    (Locked.connectDgram fd e addr addrlen env).wp others Unlocked h (fun _ _ => True) ↔
      ¬ Locked.ConnectBinds e addr addrlen := by
  by_cases binds : Locked.ConnectBinds e addr addrlen
  · refine iff_of_false ?_ fun not => not binds
    obtain ⟨long, family, nodenum, unbound⟩ := binds
    have ipx : ¬ (2 ≤ addrlen ∧ addr.family = AF_UNSPEC) := by
      rw [family]
      exact fun unspec => absurd unspec.2 (by decide)
    unfold Locked.connectDgram
    dsimp only
    rw [if_neg ipx, if_neg long, if_neg (not_not.mpr family), if_neg nodenum, if_neg unbound,
      wp_bind]
    exact bind_held (depth ▸ Nat.one_pos) found
  · refine iff_of_true ?_ binds
    exact Wrapper.Levels.waits (Locked.connectDgram_levels fun may => absurd may binds) depth

/-- `ioctlsocket` that asks for nothing leaves a thread that holds the lock as it is. -/
theorem ioctlsocket_held {fd : Nat} (held : 0 < h.depth) {env : Locked.ReceiveEnv}
    {underlying : Int} {Q : CallOut → Holder World → Prop} :
    (Locked.ioctlsocket fd false env underlying).wp others Unlocked h Q ↔
      Q (.ok underlying) h := by
  unfold Locked.ioctlsocket
  rcases found : h.data.sockets fd with _ | e
  · rw [getSocket_other held found, wp_pure]
  · rw [wp_bind, getSocket_wp, foundOnEntry_held held, found]
    dsimp only
    rw [if_neg fun fionread => Bool.false_ne_true fionread.1]
    unfold Locked.leave Locked.unlockSockets
    rw [wp_bind, wp_release, wp_pure, Holder.unlock_lock held]
    exact and_iff_right trivial

theorem setsockopt_other {fd : Nat} (held : 0 < h.depth) (other : h.data.sockets fd = none)
    {level optname optval optlen underlying : Int} {Q : CallOut → Holder World → Prop} :
    (Locked.setsockopt fd level optname optval optlen underlying).wp others Unlocked h Q ↔
      Q (.ok underlying) h := by
  unfold Locked.setsockopt
  rw [getSocket_other held other, wp_pure]

/-- `setsockopt` leaves a socket in the table. -/
theorem setsockopt_broadcast_held {fd : Nat} {e : TableEntry} (held : 0 < h.depth)
    (found : h.data.sockets fd = some e) {underlying : Int} {Q : CallOut → Holder World → Prop}
    (set : (Locked.setsockopt fd SOL_SOCKET SO_BROADCAST 1 4 underlying).wp others Unlocked h Q) :
    ∃ out h' e', Q out h' ∧ h'.depth = h.depth ∧ h'.data.sockets fd = some e' := by
  unfold Locked.setsockopt at set
  rw [wp_bind, getSocket_wp, foundOnEntry_held held, found] at set
  dsimp only at set
  rw [if_neg (by decide), if_pos (by decide)] at set
  unfold Locked.setOpt Locked.leave Locked.unlockSockets at set
  rw [if_neg (by decide), wp_bind, wp_modify, wp_bind, wp_release, wp_pure] at set
  refine ⟨_, _, _, set.2, ?_, Function.update_self _ _ _⟩
  rw [Holder.unlock_depth, Holder.write_depth, Holder.lock_depth, Nat.add_sub_cancel]

/-- `bind` on a socket that is not in the table. -/
theorem bind_other {fd : Nat} (held : 0 < h.depth) (other : h.data.sockets fd = none)
    {addr : SockaddrIpx} {addrlen : Nat} {env : BindEnv} {underlying : Int}
    {Q : CallOut → Holder World → Prop} :
    (Locked.bind fd addr addrlen env underlying).wp others Unlocked h Q ↔
      Q (.ok underlying) h := by
  unfold Locked.bind
  rw [getSocketWaitForReady_other held other fun _ => trivial, wp_pure]

/-! ### The lookup -/

/-- The first request of a batch waits if the descriptor is in the table. -/
theorem sendRequests_held {env : Locked.ConnectingEnv} {e : TableEntry} (held : 0 < h.depth)
    (found : h.data.sockets env.lookup = some e) {k n : Nat} {rest : List Nat}
    {Q : Bool → Holder World → Prop} :
    ¬ (Locked.sendRequests env k (n :: rest)).wp others Unlocked h Q := by
  unfold Locked.sendRequests
  dsimp only
  rw [wp_bind]
  unfold Locked.sendto
  exact getSocketWaitForReady_held held found

theorem sendRequests_other {env : Locked.ConnectingEnv} (held : 0 < h.depth)
    (other : h.data.sockets env.lookup = none) {k : Nat} {requests : List Nat}
    {ok : LockEvent WaitOp → Nat → Prop} (free : ∀ k, ok .unlock k)
    (sends : ∀ k, ok (.enter .rSend) k) {Q : Bool → Holder World → Prop} :
    (Locked.sendRequests env k requests).wp others ok h Q ↔
      Q (requests.any (env.tries k).sendto) h := by
  induction requests generalizing Q with
  | nil => exact wp_pure
  | cons n rest ih =>
      unfold Locked.sendRequests Locked.sendto
      dsimp only
      rw [wp_bind, getSocketWaitForReady_other held other free, wp_bind, wp_await, wp_pure,
        wp_bind, ih, wp_pure, List.any_cons]
      refine (and_iff_right (sends _)).trans ?_
      rcases rest.any (env.tries k).sendto with _ | _
      all_goals rcases (env.tries k).sendto n with _ | _
      all_goals exact Iff.rfl

/-- The socket found by the lookup is an SPX socket. -/
def FoundSpx : Locked.LookupEnd → Prop
  | .found e _ _ => e.sock.flags.isSpx
  | _ => True

/-- How the lookup ends, with the lock and with the socket. -/
structure FoundHeld (outcome : Locked.LookupEnd) (h : Holder World) : Prop where
  depth : h.depth = Locked.heldAfter 0 outcome
  spx : FoundSpx outcome

theorem awaitReply_found {fd : Nat} {ipxaddr : SockaddrIpx} {env : Locked.ConnectingEnv}
    {e : TableEntry} {k : Nat} {events : List LookupEvent} :
    (Locked.awaitReply fd ipxaddr env e k events).wp others (fun _ _ => True) h
      fun outcome _ => FoundSpx outcome := by
  induction events generalizing h with
  | nil => exact wp_ret.mpr trivial
  | cons event rest ih =>
      unfold Locked.awaitReply
      refine wp_any_bind fun _ h => wp_any_bind fun _ h => ?_
      rcases event with _ | ⟨reply, ip⟩
      · exact wp_any_bind fun _ _ => wp_ret.mpr trivial
      refine wp_any_bind fun found h => ?_
      rcases found with _ | found
      · exact wp_any_bind fun _ _ => wp_ret.mpr trivial
      dsimp only
      split
      · exact wp_any_bind fun _ _ => wp_any_bind fun _ _ => wp_ret.mpr trivial
      rename_i same
      obtain ⟨-, spx⟩ := not_or.mp same
      refine wp_any_bind fun got h => ?_
      rcases reply.filter fun _ => got.value = sizeofSpxlookupReply with _ | reply
      · exact ih
      dsimp only
      split
      · split
        · exact wp_ret.mpr (not_not.mp spx)
        rcases ipxInterfaceBySubnet env.cache ip with _ | iface
        · exact ih
        · exact wp_any_bind fun _ _ => wp_ret.mpr (not_not.mp spx)
      · exact ih

theorem awaitReply_ends {fd : Nat} {ipxaddr : SockaddrIpx} {env : Locked.ConnectingEnv}
    {e : TableEntry} {k : Nat} {events : List LookupEvent} (depth : h.depth = 1) :
    (Locked.awaitReply fd ipxaddr env e k events).wp others (fun _ _ => True) h FoundHeld :=
  ((Wrapper.Levels.ends Locked.awaitReply_levels depth).and awaitReply_found).imp
    fun _ _ both => ⟨both.1, both.2⟩

theorem lookupTries_found {fd : Nat} {ipxaddr : SockaddrIpx} {env : Locked.ConnectingEnv}
    {e : TableEntry} {bcastCount left k : Nat} :
    (Locked.lookupTries fd ipxaddr env e bcastCount left k).wp others (fun _ _ => True) h
      fun outcome _ => FoundSpx outcome := by
  induction left generalizing k h with
  | zero => exact wp_ret.mpr trivial
  | succ left ih =>
      unfold Locked.lookupTries
      refine wp_any_bind fun sent h => ?_
      split
      · rw [wp_bind]
        refine awaitReply_found.imp ?_
        rintro (out | out | _ | ⟨found, ip, port⟩) h spx
        · exact wp_ret.mpr trivial
        · exact wp_ret.mpr trivial
        · exact ih
        · exact wp_ret.mpr spx
      · exact wp_ret.mpr trivial

theorem lookupTries_ends {fd : Nat} {ipxaddr : SockaddrIpx} {env : Locked.ConnectingEnv}
    {e : TableEntry} {bcastCount left k : Nat} (depth : h.depth = 1) :
    (Locked.lookupTries fd ipxaddr env e bcastCount left k).wp others (fun _ _ => True) h
      FoundHeld :=
  ((Wrapper.Levels.ends (Locked.lookupTries_levels fun _ => trivial) depth).and
    lookupTries_found).imp fun _ _ both => ⟨both.1, both.2⟩

theorem spxLookup_found {fd : Nat} {ipxaddr : SockaddrIpx} {env : Locked.ConnectingEnv}
    {e : TableEntry} {bcastCount : Nat} :
    (Locked.spxLookup fd e ipxaddr bcastCount env).wp others (fun _ _ => True) h
      fun outcome _ => FoundSpx outcome := by
  unfold Locked.spxLookup
  refine wp_any_bind fun _ h => wp_any_bind fun _ h => wp_any_bind fun bound h => ?_
  split
  · exact wp_any_bind fun _ _ => wp_ret.mpr trivial
  · rw [wp_bind]
    refine lookupTries_found.imp ?_
    rintro (out | out | _ | ⟨found, ip, port⟩) h spx
    · exact wp_ret.mpr trivial
    all_goals exact wp_any_bind fun _ _ => wp_ret.mpr spx

theorem spxLookup_ends {fd : Nat} {ipxaddr : SockaddrIpx} {env : Locked.ConnectingEnv}
    {e : TableEntry} {bcastCount : Nat} (depth : h.depth = 1) :
    (Locked.spxLookup fd e ipxaddr bcastCount env).wp others (fun _ _ => True) h FoundHeld :=
  ((Wrapper.Levels.ends (Locked.spxLookup_levels fun _ => trivial) depth).and
    spxLookup_found).imp fun _ _ both => ⟨both.1, both.2⟩

/-- The descriptor of the lookup's socket is not in the table before the next batch. -/
def FreshBefore (env : Locked.ConnectingEnv) : Locked.LookupEnd → Holder World → Prop
  | .noReply, h => h.data.sockets env.lookup = none
  | _, _ => True

/-- One batch, where the descriptor of the lookup's socket is not in the table. -/
theorem lookupTries_other {fd : Nat} {ipxaddr : SockaddrIpx} {env : Locked.ConnectingEnv}
    {e : TableEntry} {bcastCount left k : Nat} (held : 0 < h.depth)
    (other : h.data.sockets env.lookup = none) {ok : LockEvent WaitOp → Nat → Prop}
    (free : ∀ k, ok .unlock k) (sends : ∀ k, ok (.enter .rSend) k)
    {Q : Locked.LookupEnd → Holder World → Prop} :
    (Locked.lookupTries fd ipxaddr env e bcastCount (left + 1) k).wp others ok h Q ↔
      if (List.range bcastCount).any (env.tries k).sendto then
        (Locked.awaitReply fd ipxaddr env e k (env.tries k).events).wp others ok h
          fun outcome h' =>
            match outcome with
            | .noReply =>
                (Locked.lookupTries fd ipxaddr env e bcastCount left (k + 1)).wp others ok h' Q
            | outcome => Q outcome h'
      else
        Q (.gaveUp (.fail WSAENETUNREACH)) h := by
  rw [Locked.lookupTries, wp_bind, sendRequests_other held other free sends]
  split
  · rw [wp_bind]
    refine wp_congr ?_
    rintro (out | out | _ | ⟨found, ip, port⟩) h'
    · exact wp_ret
    · exact wp_ret
    · exact Iff.rfl
    · exact wp_ret
  · exact wp_ret

/-- The batches wait for readiness only if the descriptor of the lookup's socket is in the
table before one of them. -/
theorem lookupTries_waits_iff {fd : Nat} {ipxaddr : SockaddrIpx} {env : Locked.ConnectingEnv}
    {e : TableEntry} {bcastCount left k : Nat} (asks : bcastCount ≠ 0) (depth : h.depth = 1) :
    (Locked.lookupTries fd ipxaddr env e bcastCount left k).wp others Unlocked h
        (fun _ _ => True) ↔
      ∀ i < left, (Locked.lookupTries fd ipxaddr env e bcastCount i k).wp others
        (fun _ _ => True) h (FreshBefore env) := by
  have held : 0 < h.depth := depth ▸ Nat.one_pos
  induction left generalizing k h with
  | zero => exact iff_of_true (wp_ret.mpr trivial) nofun
  | succ left ih =>
      rcases found : h.data.sockets env.lookup with _ | stale
      · rw [Nat.forall_lt_succ_left,
          lookupTries_other held found (fun _ => trivial) fun _ => trivial]
        refine Iff.trans ?_ (and_iff_right (wp_ret.mpr found)).symm
        refine Iff.trans ?_ (forall₂_congr fun _ _ =>
          (lookupTries_other held found (fun _ => trivial) fun _ => trivial).symm)
        split
        · -- no event in the wait for replies is one for readiness, so it is about the rest
          have waits : (Locked.awaitReply fd ipxaddr env e k (env.tries k).events).wp others Unlocked h
              fun _ _ => True :=
            Wrapper.Levels.waits Locked.awaitReply_levels depth
          have rest : ∀ h', (Locked.awaitReply fd ipxaddr env e k (env.tries k).events).result
              others h = some (.noReply, h') →
              ((Locked.lookupTries fd ipxaddr env e bcastCount left (k + 1)).wp others Unlocked
                h' (fun _ _ => True) ↔ _) := fun h' ran =>
            have depth' : h'.depth = 1 := ((awaitReply_ends depth).2 _ _ ran).depth
            ih depth' (depth'.symm ▸ Nat.one_pos)
          constructor
          · intro all i small
            refine ⟨fun _ _ => trivial, fun outcome h' ran => ?_⟩
            cases outcome with
            | noReply => exact (rest h' ran).mp (all.2 _ _ ran) i small
            | _ => exact trivial
          · intro fresh
            refine ⟨waits.1, fun outcome h' ran => ?_⟩
            cases outcome with
            | noReply => exact (rest h' ran).mpr fun i small => (fresh i small).2 _ _ ran
            | _ => exact trivial
        · exact iff_of_true trivial fun _ _ => trivial
      · refine iff_of_false ?_ fun fresh => ?_
        · obtain ⟨n, more⟩ := Nat.exists_eq_succ_of_ne_zero asks
          rw [Locked.lookupTries, wp_bind, more, List.range_succ_eq_map]
          exact sendRequests_held held found
        · cases found.symm.trans (wp_ret.mp (fresh 0 (Nat.succ_pos left)))

theorem not_lookupWaits_iff {fd : Nat} {e : TableEntry} {addr : SockaddrIpx} {bcastCount : Nat}
    {env : Locked.ConnectingEnv} :
    ¬ LookupWaits others h fd e addr bcastCount env ↔
      ∀ i < ipxConnectTries, i = 0 ∨ env.lookupBind →
        (Locked.lookupTries fd addr env e bcastCount i 0).wp others (fun _ _ => True) h
          (FreshBefore env) := by
  unfold LookupWaits
  push Not
  refine forall₃_congr fun i _ _ => ⟨fun fresh => ⟨fun _ _ => trivial, ?_⟩, fun fresh h' ran => ?_⟩
  · intro outcome h' ran
    cases outcome with
    | noReply => exact fresh h' ran
    | _ => exact trivial
  · exact fresh.2 _ _ ran

/-- The lookup waits for readiness with the lock exactly where the descriptor of its socket
is in the table. -/
theorem spxLookup_waits_iff {fd : Nat} {e : TableEntry} {ipxaddr : SockaddrIpx}
    {bcastCount : Nat} {env : Locked.ConnectingEnv} (asks : bcastCount ≠ 0)
    (depth : h.depth = 1) :
    (Locked.spxLookup fd e ipxaddr bcastCount env).wp others Unlocked h (fun _ _ => True) ↔
      ¬ LookupWaits others h fd e ipxaddr bcastCount env := by
  have held : 0 < h.depth := depth ▸ Nat.one_pos
  have closes : ∀ (outcome : Locked.LookupEnd) (h' : Holder World), h'.depth = 1 →
      (do let _ ← Locked.closeLookup env; pure outcome : Wrapper Locked.LookupEnd).wp others
        Unlocked h' fun _ _ => True := by
    intro outcome h' depth
    rw [wp_bind]
    refine (Wrapper.Levels.waits Locked.closesocket_levels depth).imp ?_
    exact fun _ _ _ => wp_ret.mpr trivial
  rw [not_lookupWaits_iff]
  unfold Locked.spxLookup
  rw [wp_bind, ioctlsocket_held held, wp_bind]
  rcases found : h.data.sockets env.lookup with _ | stale
  · rw [setsockopt_other held found, wp_bind, bind_other held found]
    rcases binds : env.lookupBind with _ | _
    · refine iff_of_true (closes _ h depth) fun i small first => ?_
      rcases first with rfl | bound
      · exact wp_ret.mpr found
      · cases bound
    · simp only [or_true, forall_const]
      rw [← lookupTries_waits_iff asks depth, if_neg (by decide), wp_bind]
      constructor
      · exact fun waits => waits.imp fun _ _ _ => trivial
      · intro waits
        refine (waits.and (lookupTries_ends depth)).imp fun outcome h' ends => ?_
        cases outcome with
        | returned out => exact wp_ret.mpr trivial
        | _ => exact closes _ h' ends.2.depth
  · refine iff_of_false ?_ fun fresh => ?_
    · intro waits
      obtain ⟨out, h', e', rest, depth', found'⟩ := setsockopt_broadcast_held held found waits
      rw [wp_bind] at rest
      exact bind_held (depth'.symm ▸ held) found' rest
    · have first := fresh 0 (by decide) (.inl rfl)
      cases found.symm.trans (wp_ret.mp first)

/-- `send` on an SPX socket of the table leaves a thread that holds the lock as it is. -/
theorem send_held {fd : Nat} {e : TableEntry} (held : 0 < h.depth)
    (found : h.data.sockets fd = some e) (spx : e.sock.flags.isSpx) {len : Int}
    {env : Locked.SendtoEnv} {underlying : Int} {Q : CallOut → Holder World → Prop}
    (after : Q (.ok underlying) h) :
    (Locked.send fd len env underlying).wp others Unlocked h Q := by
  unfold Locked.send
  rw [wp_bind, getSocket_wp, foundOnEntry_held held, found]
  dsimp only
  rw [if_pos spx, wp_bind, Locked.unlockSockets, wp_release, wp_bind, wp_await, wp_pure,
    Holder.unlock_lock held]
  exact ⟨trivial, trivial, after⟩

theorem sendSpxinit_waits {fd : Nat} {e : TableEntry} (held : 0 < h.depth)
    (found : h.data.sockets fd = some e) (spx : e.sock.flags.isSpx) {env : Locked.SendtoEnv}
    {sends : List Int} {c : Nat} :
    (Locked.sendSpxinit fd env sends c).wp others Unlocked h fun _ _ => True := by
  have leaves : ∀ out : CallOut, (Locked.leave out).wp others Unlocked h fun _ _ => True := by
    intro out
    unfold Locked.leave Locked.unlockSockets
    rw [wp_bind, wp_release, wp_pure]
    exact ⟨trivial, trivial⟩
  induction sends generalizing c with
  | nil =>
      unfold Locked.sendSpxinit
      split
      · exact leaves _
      · exact wp_stop
  | cons s rest ih =>
      unfold Locked.sendSpxinit
      split
      · exact leaves _
      · dsimp only
        rw [wp_bind]
        apply send_held held found spx
        split
        · exact leaves _
        · exact ih

/-- The kind of the socket is left as it is. -/
theorem completeBind_isSpx (env : MutexEnv) (id : Nat) (sock : IpxSocket) (w : World) :
    (completeBind env id sock w).2.1.flags.isSpx = sock.flags.isSpx := by
  have exit : ∀ (s : UInt16 × World) (result : Bool × IpxSocket × World), True →
      dynamicBindBody env id sock s = .done result →
      result.2.1.flags.isSpx = sock.flags.isSpx := by
    rintro ⟨socknum, w⟩ result - pass
    unfold dynamicBindBody at pass
    dsimp only at pass
    split at pass
    · obtain rfl := Iter.done.inj pass
      rfl
    · split at pass
      · obtain rfl := Iter.done.inj pass
        rfl
      · cases pass
  unfold completeBind
  split
  · rcases ran : Loop.run (dynamicBindBody env id sock) (65536 - 1024) (1024, w) with _ | result
    · rfl
    · exact Loop.Yields.post (fun _ _ _ _ => trivial) exit trivial ⟨_, ran⟩
  · split <;> rfl

theorem spxConnected_waits {fd : Nat} {e : TableEntry} (depth : h.depth = 1)
    (spx : e.sock.flags.isSpx) {ipxaddr : SockaddrIpx} {env : Locked.ConnectingEnv} :
    (Locked.spxConnected fd e ipxaddr env).wp others Unlocked h fun _ _ => True := by
  have sends : ∀ (w : World) (sock : IpxSocket), sock.flags.isSpx →
      (Locked.sendSpxinit fd env.sendto env.sends 0).wp others Unlocked
        (h.write (w.store fd e sock)) fun _ _ => True := by
    intro w sock isSpx
    have found : (h.write (w.store fd e sock)).data.sockets fd = some { e with sock := sock } :=
      Function.update_self _ _ _
    exact sendSpxinit_waits (depth ▸ Nat.one_pos) found isSpx
  unfold Locked.spxConnected
  dsimp only
  split
  · rw [wp_bind, wp_modify]
    exact sends _ _ spx
  rcases env.rGetsockname with _ | port
  · exact Wrapper.Levels.waits Locked.modifyLeave_levels depth
  dsimp only
  rw [wp_bind, wp_read]
  have kept := completeBind_isSpx env.mutex e.id
    { e.sock with
      flags := { e.sock.flags with connectOk := true, connected := true }
      remoteAddr := ipxaddr
      addr := { e.sock.addr with family := AF_IPX }
      port := port } h.data
  revert kept
  rcases completeBind env.mutex e.id _ h.data with ⟨_ | _, sock, w⟩
  · exact fun _ => Wrapper.Levels.waits Locked.modifyLeave_levels depth
  · intro kept
    dsimp only
    rw [wp_bind, wp_modify]
    exact sends _ _ (kept.trans spx)

theorem spxConnect_waits_iff {fd : Nat} {e : TableEntry} (depth : h.depth = 1)
    (spx : e.sock.flags.isSpx) {ipxaddr : SockaddrIpx} {ip : UInt32} {port : UInt16}
    {env : Locked.ConnectingEnv} :
    (Locked.spxConnect fd e ipxaddr ip port env).wp others Unlocked h (fun _ _ => True) ↔
      ¬ (env.rConnect ip port = .wouldBlock false ∧ h.data.sockets fd ≠ none) := by
  have held : 0 < h.depth := depth ▸ Nat.one_pos
  unfold Locked.spxConnect
  rw [wp_bind, wp_await]
  rcases env.rConnect ip port with _ | ⟨_ | _⟩ | _
  · exact iff_of_true ⟨trivial, spxConnected_waits depth spx⟩ nofun
  · rcases found : h.data.sockets fd with _ | now
    · refine iff_of_true ⟨trivial, ?_⟩ fun waits => waits.2 rfl
      dsimp only
      rw [wp_bind, wp_await, if_neg Bool.false_ne_true, wp_bind, Locked.getsockopt,
        getSocketWaitForReady_other held found fun _ => trivial, wp_pure]
      exact ⟨trivial, Wrapper.Levels.waits Locked.leave_levels depth⟩
    · refine iff_of_false ?_ fun not => not ⟨rfl, Option.some_ne_none now⟩
      rintro ⟨-, waits⟩
      dsimp only at waits
      rw [wp_bind, wp_await, if_neg Bool.false_ne_true, wp_bind] at waits
      exact getSocketWaitForReady_held held found waits.2
  · refine iff_of_true ⟨trivial, ?_⟩ nofun
    dsimp only
    rw [wp_bind, wp_await]
    exact ⟨trivial, spxConnected_waits depth spx⟩
  · exact iff_of_true ⟨trivial, Wrapper.Levels.waits Locked.leave_levels depth⟩ nofun

theorem connectSpx_waits_iff {fd : Nat} {e : TableEntry} {ipxaddr : SockaddrIpx}
    {env : Locked.ConnectingEnv} (family : ipxaddr.family = AF_IPX) (depth : h.depth = 1) :
    (Locked.connectSpx fd e ipxaddr env).wp others Unlocked h (fun _ _ => True) ↔
      ¬ ConnectSpxWaits others h fd e ipxaddr env := by
  have leaves : ∀ (h' : Holder World) (out : CallOut), h'.depth = 1 →
      (Locked.leave out).wp others Unlocked h' fun _ _ => True :=
    fun h' out depth => Wrapper.Levels.waits Locked.leave_levels depth
  unfold Locked.connectSpx ConnectSpxWaits
  dsimp only
  rw [if_neg (not_not.mpr family)]
  split
  · refine iff_of_true (leaves h _ depth) fun waits => ?_
    exact waits.1.somewhere ‹_›
  split
  · refine iff_of_true (leaves h _ depth) fun waits => ?_
    exact absurd waits.1.packet ‹_›
  split
  · refine iff_of_true (leaves h _ depth) fun waits => ?_
    exact absurd waits.1.lookupFd ‹_›
  rename_i asks packet lookupFd
  have looksUp : SpxLooksUp e env := ⟨asks, not_not.mp packet, not_not.mp lookupFd⟩
  rw [and_iff_right looksUp, not_or, ← spxLookup_waits_iff asks depth, wp_bind]
  have ends : (Locked.spxLookup fd e ipxaddr (connectBcastAddrs env.cache e.sock).length env).wp others
      (fun _ _ => True) h FoundHeld :=
    spxLookup_ends depth
  constructor
  · intro waits
    refine ⟨waits.imp fun _ _ _ => trivial, ?_⟩
    rintro ⟨found, ip, port, h', ran, notWritable⟩
    have held := ends.2 _ _ ran
    exact (spxConnect_waits_iff held.depth held.spx).mp (waits.2 _ _ ran) notWritable
  · rintro ⟨lookup, writable⟩
    refine ⟨lookup.1, fun outcome h' ran => ?_⟩
    have held := ends.2 _ _ ran
    cases outcome with
    | returned out => exact wp_ret.mpr trivial
    | gaveUp out => exact leaves h' _ held.depth
    | noReply => exact leaves h' _ held.depth
    | found found ip port =>
        refine (spxConnect_waits_iff held.depth held.spx).mpr fun notWritable => ?_
        exact writable ⟨found, ip, port, h', ran, notWritable⟩

theorem connect_waits_iff (outside : h.depth = 0) {fd : Nat} {addr : SockaddrIpx}
    {addrlen : Nat} {env : Locked.ConnectingEnv} {underlying : Int} :
    (Locked.connect fd addr addrlen env underlying).wp others Unlocked h (fun _ _ => True) ↔
      ¬ (WrapperCall.connect fd addr addrlen env underlying).WaitsInside others h := by
  have depth : (h.lock others).depth = 1 := by
    rw [Holder.lock_depth, outside]
  unfold Locked.connect WrapperCall.WaitsInside
  rw [wp_bind, getSocket_wp]
  rcases found : (foundOnEntry others h).sockets fd with _ | e
  · refine iff_of_true ⟨trivial, awaitPure_waits nofun⟩ ?_
    rintro ⟨e, member, -⟩
    cases found.symm.trans member
  simp only [found, Option.mem_some_iff, exists_eq_left']
  unfold ConnectWaits
  split_ifs with spx short family
  · refine iff_of_true (Wrapper.Levels.waits Locked.leave_levels depth) ?_
    exact fun reaches => reaches.1 short
  · refine iff_of_true (Wrapper.Levels.waits Locked.leave_levels depth) ?_
    exact fun reaches => family reaches.2.1
  · rw [connectSpx_waits_iff (not_not.mp family) depth]
    refine not_congr ⟨fun reaches => ⟨short, not_not.mp family, reaches⟩, ?_⟩
    exact fun reaches => reaches.2.2
  · exact connectDgram_waits_iff depth found

theorem accept_waits (outside : h.depth = 0) {fd : Nat} {addr : Bool} {addrlen : Option Nat}
    {env : Locked.AcceptingEnv} {underlying : Int} :
    (Locked.accept fd addr addrlen env underlying).wp others Unlocked h fun _ _ => True := by
  have depth : (h.lock others).depth = 1 := by
    rw [Holder.lock_depth, outside]
  unfold Locked.accept
  rw [wp_bind, getSocket_wp]
  rcases (foundOnEntry others h).sockets fd with _ | e
  · exact ⟨trivial, awaitPure_waits nofun⟩
  dsimp only
  split_ifs with spx
  · by_cases memory : addrlen.any (· < sizeofSockaddrIpx) ∨ env.nsock ≠ none
    · exact Wrapper.Levels.waits (Locked.acceptSpx_levels memory) depth
    · rw [not_or, not_not] at memory
      unfold Locked.acceptSpx
      rw [if_neg memory.1, memory.2]
      exact wp_ret.mpr trivial
  · exact Wrapper.Levels.waits Locked.leave_levels depth

/-- A call that begins without the lock waits for readiness with it exactly where it
calls, with the lock held, another that waits. -/
theorem wrapperCall_waitsUnlocked_iff (outside : h.depth = 0) (call : WrapperCall) :
    WaitsUnlocked others call.prog h ↔ ¬ call.WaitsInside others h := by
  rw [waitsUnlocked_iff]
  cases call with
  | sendto => exact sendto_waits_iff outside
  | send => exact send_waits_iff outside
  | connect => exact connect_waits_iff outside
  | accept => exact iff_of_true (accept_waits outside) id
  | _ =>
      refine iff_of_true (Wrapper.Levels.waits (WrapperCall.prog_levels rfl ?_ ?_) outside) id
      · exact False.elim
      · rintro _ _ _ _ _ ⟨⟩

/-! ## The calls of a thread -/

/-- The calls that a thread makes, one after another. -/
def runCalls : List WrapperCall → Wrapper Unit
  | [] => pure ()
  | call :: rest => do
      let _ ← call.prog
      runCalls rest

/-- Each call of a run is one that `ok` admits for the thread at the time. -/
def EachCall (others : Nat → World) (ok : WrapperCall → Holder World → Prop) :
    List WrapperCall → Holder World → Prop
  | [], _ => True
  | call :: rest, h =>
      ok call h ∧ ∀ out h', call.prog.result others h = some (out, h') → EachCall others ok rest h'

end Calls

/-! ### `sendto` on a datagram socket -/

/-- A datagram socket in the table, with descriptor 3, bound or not. -/
def dgramWorld (bound : Bool) : World :=
  { World.init .dosbox with
    sockets := fun fd =>
      if fd = 3 then
        some ⟨0,
          { fd := 3, port := 0
            flags := { send := true, recv := true, recvBcast := true, bound := bound }
            sPtype := 0, fPtype := 0, addr := ⟨AF_IPX, 1, 2, 0x0040⟩, sockMut := 0
            remoteAddr := ⟨0, 0, 0, 0⟩, recvQueue := 1 }⟩
      else none
    queues := fun ptr => if ptr = 1 then some ⟨1, 0⟩ else none
    nextId := 1 }

/-- A packet of four bytes is sent. -/
def sendtoDgram : WrapperCall :=
  .sendto 3 4 (some ⟨AF_IPX, 1, 7, 0x0050⟩) 14
    { privateSocket := 5, frameType := .ethII
      bind := ⟨⟨[], true⟩, ⟨fun _ => .created, 9⟩, true, some 0⟩
      send := ⟨ERROR_SUCCESS, none⟩ } 0

/-- Descriptor 3 is that of an SPX socket. Another thread has closed the datagram socket with
descriptor 7, and waits for the lock to take it out of the table. -/
def closingWorld : World :=
  { dgramWorld true with
    sockets := fun fd =>
      if fd = 3 then
        some ⟨1, { fd := 3, port := 0, flags := { isSpx := true }, sPtype := 0, fPtype := 0
                   addr := ⟨0, 0, 0, 0⟩, sockMut := 0, remoteAddr := ⟨0, 0, 0, 0⟩
                   recvQueue := 0 }⟩
      else if fd = 7 then (dgramWorld true).sockets 3
      else none
    nextId := 2 }

/-- The socket of the lookup gets descriptor 7. -/
def connectWhileClosing : WrapperCall :=
  let cache : InterfaceCache := ⟨[⟨1, 2, [⟨0x0200000A, 0x00FFFFFF, 0xFF00000A⟩]⟩], true⟩
  let receive : Locked.ReceiveEnv := ⟨fun _ => 0, fun _ => ⟨none, false, 0, 0⟩, 0, 0⟩
  let bind : BindEnv := ⟨cache, ⟨fun _ => .created, 9⟩, true, some 7000⟩
  let sendto : Locked.SendtoEnv := ⟨5, .ethII, bind, ERROR_SUCCESS, none⟩
  .connect 3 ⟨AF_IPX, 1, 7, 0x0050⟩ 14
    { bind := bind, cache := cache, packet := true, lookupFd := true, lookupBind := true
      tries := fun _ => ⟨fun _ => true, []⟩, rConnect := fun _ _ => .connected
      rGetsockname := some 7000, mutex := bind.mutex, spxinit := true, lookup := 7
      lookupCalls :=
        { bindAddr := ⟨0, 0, 0, 0⟩, bind := bind, requestAddr := fun _ => ⟨0, 0, 0, 0⟩
          sendto := fun _ _ => sendto, recvfrom := fun _ _ => receive, ioctlsocket := receive
          rClosesocket := 0 }
      getsockopt := ⟨.ethII, none, 1⟩, sendto := sendto, sends := [32] } 0

/-- `bind` finds the other socket, and waits with the lock held. -/
example : (.enter .waitForReady, 1) ∈
    connectWhileClosing.prog.events (fun _ => closingWorld) ⟨0, closingWorld, 0⟩ := by
  decide

end IpxWrapper
