import IpxWrapper.LockLevels
import IpxWrapper.SpxSetup

/-!
# Runs that set up SPX connections (`winsock.c`, `router.c`)

If `accept` is called only once a client has connected and sent its `spxinit`,
nothing that it does with the lock held has to wait, and the router gets the lock.
Called before, it keeps the router from answering the lookup that the client
needs to connect at all.
-/

namespace IpxWrapper

open Base LockProg

/-! ## The programs of the threads -/

/-- The router's sockets are not in the table. -/
def RouterSockets (server : Server) (w : World) : Prop :=
  w.sockets server.sharedSocket = none ∧ w.sockets server.privateSocket = none

/-- The router waits nowhere. -/
def noWait : Unit → WaitOp → Option Unit
  | _, _ => none

/-- `accept`, if it comes to the underlying function, waits for a connection, and then for
what is received over it. -/
def acceptWait (server : Server) (accepted : Bool) (op : WaitOp) : Option Bool :=
  if server.accepts ∧ op = (if accepted then .rRecv else .rAccept) then some true else none

theorem acceptWait_some {server : Server} {accepted after : Bool} {op : WaitOp}
    (waits : acceptWait server accepted op = some after) :
    server.accepts ∧ op = (if accepted then .rRecv else .rAccept) ∧ after = true := by
  obtain ⟨⟨accepts, is⟩, same⟩ := Option.ite_none_right_eq_some.mp waits
  exact ⟨accepts, is, (Option.some.inj same).symm⟩

section Programs

variable {Q : Type} {wait : Q → WaitOp → Option Q} {rely : World → Prop}
  {guar : World → World → Prop} {q : Q} {d : Nat} {w : World}

/-- A descriptor that is not in the table is looked up under the lock. -/
theorem getSocket_safe_held {α : Type} {fd : Nat} (held : 0 < d) (other : w.sockets fd = none)
    {f : Option TableEntry → Wrapper α} {post : α → Q → Nat → World → Prop}
    (rest : (f none).Safe wait rely guar q d w post) :
    (Locked.getSocket fd >>= f).Safe wait rely guar q d w post := by
  unfold Locked.getSocket Locked.lockSockets Locked.unlockSockets
  rw [safe_bind, safe_bind, safe_acquire, if_neg (Nat.ne_of_gt held), safe_bind, safe_read]
  refine ⟨Nat.succ_pos d, ?_⟩
  rw [other]
  dsimp only
  rw [safe_bind, safe_release, safe_pure]
  exact ⟨Nat.succ_pos d, rest⟩

theorem closesocket_safe_held {fd : Nat} (held : 0 < d) (other : w.sockets fd = none) {ret : Int}
    {post : CallOut → Q → Nat → World → Prop} (after : post (.ok ret) q d w) :
    (Locked.closesocket fd ret).Safe wait rely guar q d w post := by
  unfold Locked.closesocket
  exact getSocket_safe_held held other (safe_pure.mpr after)

theorem passOn_safe_free {fd : Nat} (relied : rely w)
    (other : ∀ w', rely w' → w'.sockets fd = none) {post : Unit → Q → Nat → World → Prop}
    (after : ∀ w', rely w' → post () q 0 w') :
    (Locked.passOn fd).Safe wait rely guar q 0 w post := by
  unfold Locked.passOn Locked.getSocket Locked.lockSockets Locked.unlockSockets
  rw [safe_bind, safe_bind, safe_acquire, if_pos rfl]
  refine ⟨relied, fun w' relied' => ?_⟩
  rw [safe_bind, safe_read]
  refine ⟨Nat.one_pos, ?_⟩
  rw [other w' relied']
  dsimp only
  rw [safe_bind, safe_release, safe_pure, safe_pure]
  exact ⟨Nat.one_pos, after w' relied'⟩

theorem leave_safe {α : Type} {out : α} {post : α → Q → Nat → World → Prop}
    (held : 0 < d) (after : post out q (d - 1) w) :
    (Locked.leave out).Safe wait rely guar q d w post := by
  unfold Locked.leave Locked.unlockSockets
  rw [safe_bind, safe_release, safe_pure]
  exact ⟨held, after⟩

/-- The router answers a lookup, and gives the lock back. -/
theorem handleSpxlookup_safe {privateSocket : Nat} {fds : List Nat} {req : SpxlookupReq}
    (relied : rely w) (other : ∀ w', rely w' → w'.sockets privateSocket = none) :
    (Locked.handleSpxlookup privateSocket fds req).Safe wait rely guar q 0 w
      fun _ _ d _ => d = 0 := by
  unfold Locked.handleSpxlookup Locked.lockSockets Locked.unlockSockets
  rw [safe_bind, safe_acquire, if_pos rfl]
  refine ⟨relied, fun w' relied' => ?_⟩
  rw [safe_bind, safe_read]
  refine ⟨Nat.one_pos, ?_⟩
  rcases lookupReply fds req w' with _ | reply
  · dsimp only
    rw [safe_bind, safe_release, safe_pure]
    exact ⟨Nat.one_pos, rfl⟩
  · dsimp only
    rw [safe_bind]
    unfold Locked.passOn
    apply getSocket_safe_held Nat.one_pos (other w' relied')
    rw [safe_pure, safe_bind, safe_release, safe_pure]
    exact ⟨Nat.one_pos, rfl⟩

end Programs

section Accept

variable {server : Server} {rely : World → Prop} {guar : World → World → Prop} {w : World}

/-- All of `spxinit` is received, or a turn of the loop fails. -/
theorem recvSpxinit_safe (accepts : server.accepts) {nfd : Nat}
    (other : w.sockets nfd = none) {env : Nat → Locked.ReceiveEnv} {recvs : List Int} {i : Nat}
    (enough : Locked.sizeofSpxinit ≤ i + recvs.length) :
    (Locked.recvSpxinit nfd env recvs i).Safe (acceptWait server) rely guar true 1 w
      fun _ q d w' => q = true ∧ d = 1 ∧ w' = w := by
  induction recvs generalizing i with
  | nil =>
      have all : Locked.sizeofSpxinit ≤ i := enough
      unfold Locked.recvSpxinit
      rw [if_pos all, safe_pure]
      exact ⟨rfl, rfl, rfl⟩
  | cons r rest ih =>
      unfold Locked.recvSpxinit
      split
      · exact ⟨rfl, rfl, rfl⟩
      · dsimp only
        rw [safe_bind]
        unfold Locked.recv
        apply getSocket_safe_held Nat.one_pos other
        rw [safe_bind, safe_await]
        refine ⟨true, if_pos ⟨accepts, rfl⟩, ?_⟩
        rw [safe_pure]
        split
        · exact ⟨rfl, rfl, rfl⟩
        · rename_i received
          have some : 0 < r.toNat := Int.pos_iff_toNat_pos.mp (not_le.mp received)
          rw [List.length_cons] at enough
          apply ih
          change Locked.sizeofSpxinit ≤ i + r.toNat + rest.length
          omega

theorem acceptSpx_safe {e : TableEntry}
    (others : ∀ nfd ∈ server.env.rAccept, w.sockets nfd = none)
    (adds : ∀ nfd ∈ server.env.rAccept, ∀ mutex nsock, nsock.fd = nfd →
      guar w ((w.duplicateHandle w.nextId e.sock.sockMut mutex).addSocket nsock)) :
    (Locked.acceptSpx e server.addr server.addrlen server.env).Safe (acceptWait server) rely guar false 1 w
      fun _ _ _ _ => True := by
  unfold Locked.acceptSpx
  split
  · exact leave_safe Nat.one_pos trivial
  rename_i long
  rcases nsock : server.env.nsock with _ | nsock
  · exact trivial
  have accepts : server.accepts := by
    unfold Server.accepts
    rw [Bool.eq_false_iff.mpr long, nsock]
    rfl
  dsimp only
  rw [safe_bind, safe_await]
  refine ⟨true, if_pos ⟨accepts, rfl⟩, ?_⟩
  rcases accepted : server.env.rAccept with _ | nfd
  · exact leave_safe Nat.one_pos trivial
  dsimp only
  rw [safe_bind]
  refine (recvSpxinit_safe accepts (others nfd accepted) ?_).mono ?_
  · rw [Nat.zero_add]
    exact server.recvs_length
  · rintro (_ | _) q d w' ⟨rfl, rfl, rfl⟩
    · dsimp only
      rw [safe_bind]
      apply closesocket_safe_held Nat.one_pos (others nfd accepted)
      exact leave_safe Nat.one_pos trivial
    · rcases server.env.duplicate with _ | mutex
      · dsimp only
        rw [safe_bind]
        apply closesocket_safe_held Nat.one_pos (others nfd accepted)
        exact leave_safe Nat.one_pos trivial
      · dsimp only
        rw [safe_bind, safe_modify]
        refine ⟨Nat.one_pos, Nat.one_pos, adds nfd accepted mutex _ rfl, ?_⟩
        exact leave_safe Nat.one_pos trivial

/-- `accept` is called on the listening socket. -/
theorem accept_safe (server : Server) :
    server.accept.Safe (acceptWait server) (· = server.table) (fun _ => RouterSockets server) false 0
      server.table fun _ _ _ _ => True := by
  unfold Server.accept Locked.accept Locked.getSocket Locked.lockSockets
  rw [safe_bind, safe_bind, safe_acquire, if_pos rfl]
  refine ⟨rfl, ?_⟩
  rintro w rfl
  rw [safe_bind, safe_read]
  refine ⟨Nat.one_pos, ?_⟩
  obtain ⟨e, found, spx, -⟩ := server.listens
  rw [found]
  dsimp only
  rw [safe_pure]
  dsimp only
  rw [if_pos spx]
  apply acceptSpx_safe
  · exact fun nfd accepted => (server.fresh nfd accepted).1
  · rintro nfd accepted mutex nsock rfl
    obtain ⟨-, shared, priv⟩ := server.fresh nsock.fd accepted
    refine ⟨?_, ?_⟩
    · exact (Function.update_of_ne shared.symm _ _).trans server.shared_free
    · exact (Function.update_of_ne priv.symm _ _).trans server.private_free

end Accept

/-! ## The invariant -/

/-- What the router never does to the table. -/
def ReadsOnly (_ _ : World) : Prop := False

/-- A program of the router, which gives the lock back. -/
abbrev RouterFits (server : Server) {α : Type} (rest : Wrapper α) (m : Shared Thread World) :
    Prop :=
  Fits noWait (RouterSockets server) ReadsOnly (fun _ _ d _ => d = 0) Thread.router rest () m

/-- What is left of `accept`, before or after the underlying `accept`. -/
abbrev AcceptFits (server : Server) (rest : Wrapper CallOut) (accepted : Bool)
    (m : Shared Thread World) : Prop :=
  Fits (acceptWait server) (· = server.table) (fun _ => RouterSockets server) (fun _ _ _ _ => True)
    Thread.accept rest accepted m

/-- The next connection is there, and its `spxinit`. -/
def SpxinitWaiting (s : Setup) : Prop :=
  ∃ client ∈ s.backlog.head?, s.clients[client]? = some .sent

instance (s : Setup) : Decidable (SpxinitWaiting s) :=
  inferInstanceAs (Decidable (∃ _ ∈ _, _))

/-- What `accept` waits for next is there, before or after the underlying `accept`. -/
def Served (s : Setup) : Option Nat → Prop
  | none => SpxinitWaiting s
  | some client => s.clients[client]? = some .sent

def RouterOk (server : Server) (m : Shared Thread World) : RouterPhase → Prop
  | .idle => depthOf Thread.router m = 0
  | .receiving rest => RouterFits server rest m
  | .serving _ rest => RouterFits server rest m

def AcceptOk (server : Server) (accepted : Option Nat) (m : Shared Thread World) :
    Option (Wrapper CallOut) → Prop
  | none => m.data = server.table ∧ depthOf Thread.accept m = 0 ∧ accepted = none
  | some rest => AcceptFits server rest accepted.isSome m

structure SetupInv (server : Server) (s : Setup) : Prop where
  counted : Counted s.lock
  sockets : RouterSockets server s.lock.data
  router : RouterOk server s.lock s.router
  accept : AcceptOk server s.accepted s.lock s.accept
  served : s.accept ≠ none → server.accepts → Served s s.accepted

theorem SetupInv.start (server : Server) (count : Nat) : SetupInv server (server.start count) where
  counted := nofun
  sockets := ⟨server.shared_free, server.private_free⟩
  router := rfl
  accept := ⟨rfl, rfl, rfl⟩
  served := fun called => absurd rfl called

section Steps

variable {server : Server} {s s' : Setup} {m m' : Shared Thread World}

/-- The router's program begins. -/
theorem routerFits_begin {α : Type} {rest : Wrapper α} (sockets : RouterSockets server m.data)
    (free : depthOf Thread.router m = 0)
    (safe : rest.Safe noWait (RouterSockets server) ReadsOnly () 0 m.data fun _ _ d _ => d = 0) :
    RouterFits server rest m := by
  refine ⟨m.data, fun _ => rfl, fun _ => sockets, ?_⟩
  rw [free]
  exact safe

/-- The router's program ends. -/
theorem routerFits_end {α : Type} {a : α} (fits : RouterFits server (.ret a : Wrapper α) m) :
    depthOf Thread.router m = 0 := by
  obtain ⟨_, -, -, free⟩ := fits
  exact free

/-- The router's program does not wait. -/
theorem routerFits_busy {α : Type} {rest : Wrapper α} (fits : RouterFits server rest m) :
    ∀ op next, rest ≠ .enter op next := by
  rintro op next rfl
  obtain ⟨_, waits, -⟩ := Fits.enter fits
  cases waits

/-- A step of the router leaves `accept` as it is. -/
theorem AcceptOk.of_router {accepted : Option Nat} {accept : Option (Wrapper CallOut)}
    (ok : AcceptOk server accepted m accept) (stepped : Stepped Thread.router ReadsOnly m m') :
    AcceptOk server accepted m' accept := by
  rcases accept with _ | rest
  · obtain ⟨table, -, before⟩ := ok
    refine ⟨?_, (stepped.others Thread.accept nofun).2, before⟩
    exact (stepped.data.resolve_right id).trans table
  · exact ok.of_other stepped nofun fun _ _ => False.elim

/-- A step of the other thread leaves the router as it is. -/
theorem RouterOk.of_accept {router : RouterPhase} (ok : RouterOk server m router)
    (stepped : Stepped Thread.accept (fun _ => RouterSockets server) m m') :
    RouterOk server m' router := by
  rcases router with _ | rest | ⟨client, rest⟩
  · exact (stepped.others Thread.router nofun).2
  · exact ok.of_other stepped nofun fun _ _ good _ => good
  · exact ok.of_other stepped nofun fun _ _ good _ => good

/-- The sockets of the router stay out of the table. -/
theorem RouterSockets.of_stepped {t : Thread} {guar : World → World → Prop}
    (sockets : RouterSockets server m.data) (stepped : Stepped t guar m m')
    (good : ∀ w w', guar w w' → RouterSockets server w') : RouterSockets server m'.data := by
  rcases stepped.data with same | written
  · rw [same]
    exact sockets
  · exact good _ _ written

/-- The phase of a client that has not sent `spxinit` is written. -/
theorem sent_set {clients : List ClientPhase} {client other : Nat} {phase new : ClientPhase}
    (sent : clients[client]? = some .sent) (was : clients[other]? = some phase)
    (unsent : phase ≠ .sent) : (clients.set other new)[client]? = some .sent := by
  rcases eq_or_ne other client with rfl | ne
  · exact absurd (Option.some.inj (was.symm.trans sent)) unsent
  · rwa [List.getElem?_set_ne ne]

/-- A client goes on, and the server stays as it is. -/
theorem SetupInv.client (inv : SetupInv server s) {client : Nat} {phase new : ClientPhase}
    {requests replies backlog : List Nat} (was : s.clients[client]? = some phase)
    (unsent : phase ≠ .sent)
    (first : ∀ next ∈ s.backlog.head?, backlog.head? = some next) :
    SetupInv server { s.setClient client new with
      requests := requests, replies := replies, backlog := backlog } where
  counted := inv.counted
  sockets := inv.sockets
  router := inv.router
  accept := inv.accept
  served := by
    intro called accepts
    have served := inv.served called accepts
    change Served _ s.accepted
    rcases accepted : s.accepted with _ | accepted
    all_goals rw [accepted] at served
    · obtain ⟨next, head, sent⟩ := served
      exact ⟨next, first next head, sent_set sent was unsent⟩
    · exact sent_set served was unsent

/-- A step of the router in its program. -/
theorem SetupInv.router_advance (inv : SetupInv server s) {α : Type} {rest rest' : Wrapper α}
    {lock : Shared Thread World} (fits : RouterFits server rest s.lock)
    (step : rest.advance Thread.router s.lock = some (rest', lock)) {router : RouterPhase}
    (next : RouterFits server rest' lock → RouterOk server lock router) :
    SetupInv server { s with lock := lock, router := router } := by
  obtain ⟨fits', stepped⟩ := fits.advance inv.counted step
  exact
    { counted := stepped.counted
      sockets := inv.sockets.of_stepped stepped fun _ _ => False.elim
      router := next fits'
      accept := inv.accept.of_router stepped
      served := inv.served }

theorem SetupInv.serve (inv : SetupInv server s) {received : Option Nat}
    (enabled : serveStep server received s = some s') : SetupInv server s' := by
  have ok := inv.router
  unfold serveStep at enabled
  split at enabled
  case h_1 router =>
    rw [router] at ok
    obtain rfl := Option.some.inj enabled
    refine { inv with router := routerFits_begin inv.sockets ok ?_ }
    exact passOn_safe_free inv.sockets (fun _ sockets => sockets.1) fun _ _ => rfl
  case h_2 router =>
    rw [router] at ok
    have free := routerFits_end ok
    split at enabled
    case h_1 =>
      obtain rfl := Option.some.inj enabled
      exact { inv with router := free }
    case h_2 client =>
      split at enabled
      case isTrue =>
        obtain rfl := Option.some.inj enabled
        refine { inv with router := routerFits_begin inv.sockets free ?_ }
        exact handleSpxlookup_safe inv.sockets fun _ sockets => sockets.2
      case isFalse => cases enabled
  case h_3 rest _ router =>
    rw [router] at ok
    obtain ⟨⟨rest', lock⟩, step, rfl⟩ := Option.map_eq_some_iff.mp enabled
    exact inv.router_advance ok step id
  case h_4 client reply router =>
    rw [router] at ok
    obtain rfl := Option.some.inj enabled
    exact { inv with router := routerFits_end ok }
  case h_5 client rest _ router =>
    rw [router] at ok
    obtain ⟨⟨rest', lock⟩, step, rfl⟩ := Option.map_eq_some_iff.mp enabled
    exact inv.router_advance ok step id

/-- The underlying functions that `accept` waits in return what has come. -/
theorem SetupInv.accept_step (inv : SetupInv server s)
    (called : s.accept = none → server.accepts → SpxinitWaiting s) (enabled : acceptStep server s = some s') :
    SetupInv server s' := by
  have ok := inv.accept
  have served := inv.served
  unfold acceptStep at enabled
  split at enabled
  case h_1 accept =>
    rw [accept] at ok
    obtain ⟨table, free, before⟩ := ok
    obtain rfl := Option.some.inj enabled
    refine { inv with accept := ?_, served := fun _ => ?_ }
    · refine ⟨server.table, fun _ => table.symm, fun _ => table, ?_⟩
      change server.accept.Safe _ _ _ s.accepted.isSome (depthOf Thread.accept s.lock) _ _
      rw [before, free]
      exact accept_safe server
    · intro accepts
      change Served _ s.accepted
      rw [before]
      exact called accept accepts
  case h_2 next accept =>
    rw [accept] at ok served
    split at enabled
    case h_1 => cases enabled
    case h_2 client rest backlog =>
      obtain rfl := Option.some.inj enabled
      obtain ⟨after, waits, fits⟩ := Fits.enter ok
      rcases accepted : s.accepted with _ | other
      all_goals rw [accepted] at waits served
      · obtain ⟨accepts, -, rfl⟩ := acceptWait_some waits
        obtain ⟨next, head, sent⟩ := served nofun accepts
        rw [backlog] at head
        obtain rfl := Option.some.inj head
        exact { inv with accept := fits, served := fun _ _ => sent }
      · cases (acceptWait_some waits).2.1
  case h_3 next accept =>
    rw [accept] at ok served
    split at enabled
    case isTrue =>
      obtain rfl := Option.some.inj enabled
      obtain ⟨after, waits, fits⟩ := Fits.enter ok
      rcases accepted : s.accepted with _ | client
      all_goals rw [accepted] at waits served
      · cases (acceptWait_some waits).2.1
      · obtain ⟨-, -, rfl⟩ := acceptWait_some waits
        exact { inv with accept := fits, served := fun _ => served nofun }
    case isFalse => cases enabled
  case h_4 rest _ _ accept =>
    rw [accept] at ok served
    obtain ⟨⟨rest', lock⟩, step, rfl⟩ := Option.map_eq_some_iff.mp enabled
    obtain ⟨fits, stepped⟩ := Fits.advance ok inv.counted step
    exact
      { counted := stepped.counted
        sockets := inv.sockets.of_stepped stepped fun _ _ => id
        router := inv.router.of_accept stepped
        accept := fits
        served := fun _ => served nofun }

/-- `accept` is called only when a client has connected and sent its `spxinit`, unless it
does not come to the underlying function. -/
def CallsReady (server : Server) (m : Move SetupInput Setup) : Prop :=
  m.input = .accept → m.before.accept.isNone → server.accepts → SpxinitWaiting m.before

instance (server : Server) (m : Move SetupInput Setup) : Decidable (CallsReady server m) :=
  inferInstanceAs (Decidable (_ → _ → _ → _))

theorem SetupInv.step (inv : SetupInv server s) {input : SetupInput}
    (enabled : setupStep server input s = some s') (ready : CallsReady server ⟨s, input, s'⟩) :
    SetupInv server s' := by
  cases input with
  | accept =>
      refine inv.accept_step (fun uncalled => ready rfl ?_) enabled
      exact Option.isNone_iff_eq_none.mpr uncalled
  | router received => exact inv.serve enabled
  | request client arrives =>
      simp only [setupStep] at enabled
      split at enabled
      case h_1 left was =>
        obtain rfl := Option.some.inj enabled
        exact inv.client was nofun fun _ head => head
      case h_2 => cases enabled
  | timeout client =>
      simp only [setupStep] at enabled
      split at enabled
      case h_1 left was =>
        obtain rfl := Option.some.inj enabled
        exact inv.client was nofun fun _ head => head
      case h_2 => cases enabled
  | reply client =>
      simp only [setupStep] at enabled
      split at enabled
      case h_1 left was =>
        split at enabled
        case isTrue =>
          obtain rfl := Option.some.inj enabled
          exact inv.client was nofun fun _ head => head
        case isFalse => cases enabled
      case h_2 => cases enabled
  | connect client =>
      simp only [setupStep] at enabled
      split at enabled
      case isTrue was =>
        obtain rfl := Option.some.inj enabled
        refine inv.client was nofun fun next head => ?_
        rw [List.head?_append, head, Option.some_or]
      case isFalse => cases enabled
  | spxinit client =>
      simp only [setupStep] at enabled
      split at enabled
      case isTrue was =>
        obtain rfl := Option.some.inj enabled
        exact inv.client was nofun fun _ head => head
      case isFalse => cases enabled
  | giveUp client =>
      simp only [setupStep] at enabled
      split at enabled
      case h_1 => cases enabled
      case h_2 => cases enabled
      case h_3 => cases enabled
      case h_4 phase unsent _ was =>
        obtain rfl := Option.some.inj enabled
        exact inv.client was unsent fun _ head => head
  | loseReply client =>
      simp only [setupStep] at enabled
      split at enabled
      case isTrue =>
        obtain rfl := Option.some.inj enabled
        exact { inv with }
      case isFalse => cases enabled

/-- The router can take a step while it holds the lock. -/
theorem SetupInv.router_moves (inv : SetupInv server s) {depth : Nat}
    (held : s.lock.owner = some (.router, depth)) :
    ∃ s', serveStep server none s = some s' := by
  have ok := inv.router
  have inside : depthOf Thread.router s.lock ≠ 0 := by
    rw [depthOf_self held]
    exact Nat.ne_of_gt (inv.counted _ _ held)
  have free : ∀ holder depth, s.lock.owner = some (holder, depth) → holder = Thread.router := by
    intro holder depth' owner
    rw [held] at owner
    exact (Prod.mk.inj (Option.some.inj owner)).1.symm
  unfold serveStep
  split
  case h_1 router =>
    rw [router] at ok
    exact absurd ok inside
  case h_2 => exact ⟨_, rfl⟩
  case h_3 rest notDone router =>
    rw [router] at ok
    obtain ⟨next, step⟩ := Fits.can_advance ok (fun _ => notDone) (routerFits_busy ok) free
    exact ⟨_, Option.map_eq_some_iff.mpr ⟨next, step, rfl⟩⟩
  case h_4 => exact ⟨_, rfl⟩
  case h_5 client rest notDone router =>
    rw [router] at ok
    obtain ⟨next, step⟩ := Fits.can_advance ok notDone (routerFits_busy ok) free
    exact ⟨_, Option.map_eq_some_iff.mpr ⟨next, step, rfl⟩⟩

/-- What `accept` waits for is there. -/
theorem SetupInv.accept_waits (inv : SetupInv server s) {op : WaitOp} {next : Wrapper CallOut}
    (accept : s.accept = some (.enter op next)) :
    (op = .rAccept ∧ SpxinitWaiting s) ∨
      (op = .rRecv ∧ ∃ client, s.accepted = some client ∧ s.clients[client]? = some .sent) := by
  have ok := inv.accept
  have served := inv.served
  rw [accept] at ok served
  obtain ⟨after, waits, -⟩ := Fits.enter ok
  rcases accepted : s.accepted with _ | client
  all_goals rw [accepted] at waits served
  · obtain ⟨accepts, rfl, -⟩ := acceptWait_some waits
    exact .inl ⟨rfl, served nofun accepts⟩
  · obtain ⟨accepts, rfl, -⟩ := acceptWait_some waits
    exact .inr ⟨rfl, client, rfl, served nofun accepts⟩

/-- The thread that calls `accept` can take a step unless it has returned or the router
holds the lock. -/
theorem SetupInv.accept_moves (inv : SetupInv server s) (running : s.completed = false)
    (free : ∀ holder depth, s.lock.owner = some (holder, depth) → holder = Thread.accept) :
    ∃ s', acceptStep server s = some s' := by
  have ok := inv.accept
  unfold acceptStep
  split
  case h_1 => exact ⟨_, rfl⟩
  case h_2 next accept =>
    rcases inv.accept_waits accept with ⟨-, client, head, -⟩ | ⟨other, -⟩
    · obtain ⟨rest, backlog⟩ := List.head?_eq_some_iff.mp head
      rw [backlog]
      exact ⟨_, rfl⟩
    · cases other
  case h_3 next accept =>
    rcases inv.accept_waits accept with ⟨other, -⟩ | ⟨-, client, accepted, sent⟩
    · cases other
    · rw [accepted, Option.any_some, decide_eq_true sent]
      exact ⟨_, rfl⟩
  case h_4 rest notAccept notRecv accept =>
    rw [accept] at ok
    have unfinished : ∀ out, rest ≠ .ret out := by
      rintro out rfl
      unfold Setup.completed at running
      rw [accept] at running
      cases running
    have busy : ∀ op next, rest ≠ .enter op next := by
      rintro op next rfl
      rcases inv.accept_waits accept with ⟨rfl, -⟩ | ⟨rfl, -⟩
      · exact notAccept next rfl
      · exact notRecv next rfl
    obtain ⟨next, step⟩ := Fits.can_advance ok unfinished busy free
    exact ⟨_, Option.map_eq_some_iff.mpr ⟨next, step, rfl⟩⟩

/-- Where the invariant holds, nothing is stuck. -/
theorem SetupInv.live (inv : SetupInv server s) : Live server s where
  moves := by
    rcases running : s.completed with _ | _
    · right
      by_cases free : ∀ holder depth,
          s.lock.owner = some (holder, depth) → holder = Thread.accept
      · obtain ⟨s', enabled⟩ := inv.accept_moves running free
        exact ⟨.accept, s', enabled⟩
      · push Not at free
        obtain ⟨holder, depth, owner, other⟩ := free
        rcases holder with _ | _
        · exact absurd rfl other
        · obtain ⟨s', enabled⟩ := inv.router_moves owner
          exact ⟨.router none, s', enabled⟩
    · exact .inl rfl
  unblocked := by
    unfold Setup.blocksRouter
    rw [Bool.and_eq_false_iff]
    right
    split
    case h_1 next accept =>
      rcases inv.accept_waits accept with ⟨-, client, head, -⟩ | ⟨other, -⟩
      · obtain ⟨rest, backlog⟩ := List.head?_eq_some_iff.mp head
        rw [backlog]
        rfl
      · cases other
    case h_2 next accept =>
      rcases inv.accept_waits accept with ⟨other, -⟩ | ⟨-, client, accepted, sent⟩
      · cases other
      · rw [accepted, Option.any_some, decide_eq_true sent]
        rfl
    case h_3 => rfl

end Steps

/-- **In every run in which `accept` is called only when a client has connected and sent
its `spxinit`, every state has an enabled step until `accept` has returned, and no thread
waits with the lock that the router needs.** -/
theorem setupMoves_live (server : Server) (count : Nat) (inputs : List SetupInput)
    (ready : ∀ m ∈ setupMoves server count inputs, CallsReady server m) :
    ∀ m ∈ setupMoves server count inputs, Live server m.before ∧ Live server m.after := by
  have keeps : ∀ m : Move SetupInput Setup, SetupInv server m.before →
      setupStep server m.input m.before = some m.after → CallsReady server m →
      SetupInv server m.after ∧ True :=
    fun m inv enabled called => ⟨inv.step enabled called, trivial⟩
  intro m member
  obtain ⟨before, after, -⟩ := moves_induct (.start server count) ready keeps m member
  exact ⟨before.live, after.live⟩

/-! ## A run that is stuck -/

/-- The socket of `listeningWorld`, and memory for a new one. -/
def listeningServer : Server where
  table := listeningWorld
  fds := [3]
  sharedSocket := 10
  privateSocket := 11
  listener := 3
  addr := false
  addrlen := none
  env :=
    { nsock := some ⟨0, 0, {}, 0, 0, ⟨0, 0, 0, 0⟩, 0, ⟨0, 0, 0, 0⟩, 0⟩
      rAccept := some 4
      recvs := List.replicate 32 32
      recv := fun _ => ⟨fun _ => 0, fun _ => ⟨none, false, 0, 0⟩, 0, 0⟩
      rClosesocket := 0
      spxinit := ⟨0, 2, 0x0140⟩
      duplicate := some 2 }
  underlying := 0
  request := fun _ => ⟨0, 1, 0x0040⟩
  listens := ⟨_, rfl, rfl, rfl⟩
  shared_free := rfl
  private_free := rfl
  fresh := by
    rintro _ ⟨⟩
    decide
  recvs_length := by decide

/-- A client finds the server, connects and sends its `spxinit`; then `accept` is called. -/
def selectedRun : List SetupInput :=
  [.request 0 true] ++ List.replicate 4 (.router none) ++ [.router (some 0)] ++
    List.replicate 7 (.router none) ++ [.reply 0, .connect 0, .spxinit 0] ++
    List.replicate 11 .accept

theorem selectedRun_live :
    (setupMoves listeningServer 1 selectedRun).length = selectedRun.length ∧
      ∀ m ∈ setupMoves listeningServer 1 selectedRun,
        Live listeningServer m.before ∧ Live listeningServer m.after :=
  ⟨by decide, setupMoves_live listeningServer 1 selectedRun (by decide)⟩

/-- `accept` is called first, and waits. The router cannot receive the requests of the
client, which gives up after its third batch. -/
def hastyRun : List SetupInput :=
  [.accept, .accept, .accept, .router none, .request 0 true, .timeout 0, .request 0 true,
    .timeout 0, .request 0 true, .timeout 0, .giveUp 0]

/-- `accept` waits for a connection with the lock held, the router waits for the lock, and
each client has given up. -/
def Setup.isStuck (s : Setup) : Bool :=
  (match s.lock.owner with
    | some (.accept, _) => true
    | _ => false) &&
  (match s.accept with
    | some (.enter .rAccept _) => s.backlog.isEmpty
    | _ => false) &&
  (match s.router with
    | .receiving (.lock _) => true
    | _ => false) &&
  s.clients.all (· = .finished) && s.replies.isEmpty

theorem setupStep_of_isStuck {server : Server} {s : Setup} (stuck : s.isStuck) :
    s.completed = false ∧ ∀ input, setupStep server input s = none := by
  unfold Setup.isStuck at stuck
  simp only [Bool.and_eq_true] at stuck
  obtain ⟨⟨⟨⟨owner, accept⟩, router⟩, clients⟩, replies⟩ := stuck
  split at owner
  case h_2 => cases owner
  case h_1 depth held =>
    split at accept
    case h_2 => cases accept
    case h_1 next waits =>
      split at router
      case h_2 => cases router
      case h_1 rest blocked =>
        have gone : ∀ c : Nat, s.clients[c]? = none ∨ s.clients[c]? = some ClientPhase.finished := by
          intro c
          rcases client : s.clients[c]? with _ | phase
          · exact .inl rfl
          · have finished := List.all_eq_true.mp clients phase (List.mem_of_getElem? client)
            rw [of_decide_eq_true finished]
            exact .inr rfl
        refine ⟨by rw [Setup.completed, waits], fun input => ?_⟩
        cases input with
        | accept => simp only [setupStep, acceptStep, waits, List.isEmpty_iff.mp accept]
        | router received =>
            simp only [setupStep, serveStep, blocked, advance, Shared.take, held]
            rfl
        | loseReply client =>
            simp only [setupStep, List.isEmpty_iff.mp replies]
            rfl
        | request client | timeout client | reply client | connect client | spxinit client
        | giveUp client =>
            rcases gone client with none | finished <;> simp [setupStep, *]

theorem hastyRun_not_live : ¬ ∀ m ∈ setupMoves listeningServer 1 hastyRun,
    Live listeningServer m.before ∧ Live listeningServer m.after := by
  intro live
  have stuck : ∃ m ∈ setupMoves listeningServer 1 hastyRun, m.after.isStuck = true := by
    decide
  obtain ⟨m, member, stuck⟩ := stuck
  obtain ⟨unfinished, disabled⟩ := setupStep_of_isStuck stuck
  rcases (live m member).2.moves with completed | ⟨input, s', enabled⟩
  · rw [unfinished] at completed
    cases completed
  · rw [disabled input] at enabled
    cases enabled

end IpxWrapper
