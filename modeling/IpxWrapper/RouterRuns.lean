import IpxWrapper.Router

/-!
# Runs of the router

What a run of the router thread does to the connection to the DOSBox server, for
every order of datagrams, clock readings and lookups.

* `routerMoves_unreachable_iff`: in which runs the `abort()` marked unreachable
  is not reached.
* `routerMoves_connects_iff`: in which runs only a valid reply to a registration
  connects, and any other datagram leaves the connection as it was.
-/

namespace IpxWrapper

open Base NovellIpxPacket

/-! ## What a move is about -/

/-- The datagram read in this move. -/
def datagramRead (m : Move RouterInput Router) : Option Datagram :=
  match m.input with
  | .recvfrom (.received d) _ => some d
  | _ => none

/-- A datagram from the address in `dosbox_server_addr` is read. -/
def readsServer (m : Move RouterInput Router) : Bool :=
  match m.input with
  | .recvfrom (.received d) _ => d.addr = m.before.dosboxServerAddr
  | _ => false

/-- A datagram from there is read while registering, and is no valid response. -/
def invalidReply (m : Move RouterInput Router) : Bool :=
  match m.input with
  | .recvfrom (.received d) _ =>
      d.addr = m.before.dosboxServerAddr ∧ m.before.dosboxState = .registering ∧ ¬ ValidReply d
  | _ => false

/-- The registration times out. -/
def timesOut (m : Move RouterInput Router) : Bool :=
  match m.input with
  | .register now =>
      m.before.dosboxState = .registering ∧ m.before.registrationTimeoutAt ≤ now
  | _ => false

/-- The server's host is looked up and found. -/
def resolves (m : Move RouterInput Router) : Bool :=
  match m.input with
  | .reconnect ticks host _ =>
      m.before.dosboxState = .disconnected ∧ m.before.nextConnectionAttemptAt ≤ ticks ∧
        host.isSome
  | _ => false

/-! ## What one step does to the connection -/

/-- The local address and `dosbox_server_addr` stay as they are. -/
structure SameAddresses (s s' : Router) : Prop where
  dosboxServerAddr : s'.dosboxServerAddr = s.dosboxServerAddr
  dosboxLocalNetnum : s'.dosboxLocalNetnum = s.dosboxLocalNetnum
  dosboxLocalNodenum : s'.dosboxLocalNodenum = s.dosboxLocalNodenum

/-- What a step does to the connection, by its cause. -/
inductive ConnectionStep (m : Move RouterInput Router) : Prop where
  | quiet (unread : datagramRead m = none) (unresolved : resolves m = false)
      (untimed : timesOut m = false) (addresses : SameAddresses m.before m.after)
      (kept : m.after.dosboxState = m.before.dosboxState) (alive : m.after.pc ≠ .aborted)
  | resolved (unread : datagramRead m = none) (found : resolves m = true)
      (untimed : timesOut m = false) (inet : m.after.dosboxServerAddr.family = AF_INET)
      (netnum : m.after.dosboxLocalNetnum = m.before.dosboxLocalNetnum)
      (nodenum : m.after.dosboxLocalNodenum = m.before.dosboxLocalNodenum)
      (registering : m.after.dosboxState = .registering) (alive : m.after.pc ≠ .aborted)
  | timedOut (unread : datagramRead m = none) (unresolved : resolves m = false)
      (late : timesOut m = true) (addresses : SameAddresses m.before m.after)
      (disconnected : m.after.dosboxState = .disconnected) (alive : m.after.pc ≠ .aborted)
  | read (d : Datagram) (read : datagramRead m = some d)
      (unregistered : ¬ (d.addr = m.before.dosboxServerAddr ∧ m.before.dosboxState = .registering))
      (addresses : SameAddresses m.before m.after)
      (kept : m.after.dosboxState = m.before.dosboxState)
      (cache : m.after.interfaceCache = m.before.interfaceCache)
      (aborts : m.after.pc = .aborted ↔
        d.addr = m.before.dosboxServerAddr ∧ m.before.dosboxState = .disconnected)
  | replied (d : Datagram) (read : datagramRead m = some d)
      (server : d.addr = m.before.dosboxServerAddr)
      (registering : m.before.dosboxState = .registering)
      (addr : m.after.dosboxServerAddr = m.before.dosboxServerAddr)
      (connected : m.after.dosboxState = .connected) (alive : m.after.pc ≠ .aborted)

theorem afterRecv_ne_aborted (i : Nat) (status : Int) : afterRecv i status ≠ .aborted := by
  unfold afterRecv
  split_ifs <;> exact fun same => by cases same

section Step

variable {env : RouterEnv} {s s' : Router}

theorem tryConnect_step (ticks now : UInt64) (host : Option UInt32) :
    ConnectionStep ⟨s, .reconnect ticks host now,
      (tryConnect env ticks host now s).goTo .register⟩ := by
  unfold tryConnect
  by_cases due : s.dosboxState = .disconnected ∧ s.nextConnectionAttemptAt ≤ ticks
  · rw [if_pos due]
    cases host with
    | some addr =>
        refine .resolved rfl ?_ rfl rfl rfl rfl rfl (fun same => by cases same)
        exact decide_eq_true ⟨due.1, due.2, rfl⟩
    | none =>
        refine .quiet rfl ?_ rfl ⟨rfl, rfl, rfl⟩ rfl (fun same => by cases same)
        exact decide_eq_false fun found => by cases found.2.2
  · rw [if_neg due]
    refine .quiet rfl ?_ rfl ⟨rfl, rfl, rfl⟩ rfl (fun same => by cases same)
    exact decide_eq_false fun found => due ⟨found.1, found.2.1⟩

theorem requestRegistration_frame (now : UInt64) :
    SameAddresses s (requestRegistration now s) ∧
      (requestRegistration now s).dosboxState = s.dosboxState := by
  unfold requestRegistration
  split_ifs <;> exact ⟨⟨rfl, rfl, rfl⟩, rfl⟩

theorem giveUp_of_late {now : UInt64} (late : s.registrationTimeoutAt ≤ now) :
    giveUp now s = { s with dosboxState := .disconnected } := if_pos late

theorem giveUp_of_early {now : UInt64} (early : ¬ s.registrationTimeoutAt ≤ now) :
    giveUp now s = s := if_neg early

theorem tryRegister_step (now : UInt64) :
    ConnectionStep ⟨s, .register now, (tryRegister now s).goTo .top⟩ := by
  obtain ⟨⟨server, netnum, nodenum⟩, kept⟩ := requestRegistration_frame (s := giveUp now s) now
  unfold tryRegister
  by_cases registering : s.dosboxState = .registering
  · rw [if_pos registering]
    by_cases late : s.registrationTimeoutAt ≤ now
    · rw [giveUp_of_late late] at server netnum nodenum kept ⊢
      exact .timedOut rfl rfl (decide_eq_true ⟨registering, late⟩) ⟨server, netnum, nodenum⟩ kept
        (fun same => by cases same)
    · rw [giveUp_of_early late] at server netnum nodenum kept ⊢
      exact .quiet rfl rfl (decide_eq_false fun timed => late timed.2) ⟨server, netnum, nodenum⟩
        kept (fun same => by cases same)
  · rw [if_neg registering]
    exact .quiet rfl rfl (decide_eq_false fun timed => registering timed.1) ⟨rfl, rfl, rfl⟩ rfl
      (fun same => by cases same)

theorem recvfrom_step {result : Recvfrom} {fuel i : Nat} (pc : s.pc = .recv i)
    (stepped : routerStep env (.recvfrom result fuel) s = some s') :
    ConnectionStep ⟨s, .recvfrom result fuel, s'⟩ := by
  simp only [routerStep, pc] at stepped
  cases result with
  | failed error =>
      have ends : ∃ n, doUdpRecv fuel (.failed error) s = some (.status n, s) := by
        unfold doUdpRecv
        simp only
        split_ifs <;> exact ⟨_, rfl⟩
      obtain ⟨n, ran⟩ := ends
      rw [ran] at stepped
      cases stepped
      exact .quiet rfl rfl rfl ⟨rfl, rfl, rfl⟩ rfl (afterRecv_ne_aborted i n)
  | received d =>
      unfold doUdpRecv at stepped
      simp only at stepped
      by_cases server : d.addr = s.dosboxServerAddr
      · rw [if_neg (not_not_intro server)] at stepped
        cases state : s.dosboxState with
        | registering =>
            rw [state] at stepped
            cases stepped
            exact .replied d rfl server state rfl rfl (afterRecv_ne_aborted i 1)
        | connected =>
            rw [state] at stepped
            simp only at stepped
            split at stepped
            · cases stepped
            · rename_i ran
              split at ran
              · cases ran
              · cases ran
            · rename_i ran
              split at ran
              · cases ran
                cases stepped
                refine .read d rfl (fun both => ?_) ⟨rfl, rfl, rfl⟩ state.symm rfl ?_
                · rw [state] at both
                  cases both.2
                · rw [state]
                  exact Iff.intro (fun same => (afterRecv_ne_aborted i 1 same).elim)
                    (fun both => by cases both.2)
              · cases ran
        | disconnected =>
            rw [state] at stepped
            cases stepped
            refine .read d rfl (fun both => ?_) ⟨rfl, rfl, rfl⟩ state.symm rfl ?_
            · rw [state] at both
              cases both.2
            · exact Iff.intro (fun _ => ⟨server, state⟩) (fun _ => rfl)
      · rw [if_pos server] at stepped
        cases stepped
        refine .read d rfl (fun both => server both.1) ⟨rfl, rfl, rfl⟩ rfl rfl ?_
        exact Iff.intro (fun same => (afterRecv_ne_aborted i 1 same).elim)
          (fun both => (server both.1).elim)

/-- What one step of the router does to the connection. -/
theorem connectionStep {m : Move RouterInput Router}
    (stepped : routerStep env m.input m.before = some m.after) : ConnectionStep m := by
  obtain ⟨s, input, s'⟩ := m
  simp only at stepped
  cases input with
  | loopTop uticks =>
      simp only [routerStep] at stepped
      split at stepped
      · cases stepped
        exact .quiet rfl rfl rfl ⟨rfl, rfl, rfl⟩ rfl (fun same => by cases same)
      · cases stepped
  | waitMs now =>
      simp only [routerStep] at stepped
      split at stepped
      · cases stepped
        exact .quiet rfl rfl rfl ⟨rfl, rfl, rfl⟩ rfl (fun same => by cases same)
      · cases stepped
  | wait =>
      simp only [routerStep] at stepped
      split at stepped
      · cases stepped
        exact .quiet rfl rfl rfl ⟨rfl, rfl, rfl⟩ rfl (fun same => by cases same)
      · cases stepped
  | woken running =>
      simp only [routerStep] at stepped
      split at stepped
      · cases stepped
        refine .quiet rfl rfl rfl ⟨rfl, rfl, rfl⟩ rfl (fun same => ?_)
        cases running <;> cases same
      · cases stepped
  | recvfrom result fuel =>
      cases pc : s.pc with
      | recv i => exact recvfrom_step pc stepped
      | top => simp only [routerStep, pc, reduceCtorEq] at stepped
      | flushed => simp only [routerStep, pc, reduceCtorEq] at stepped
      | sleep ms => simp only [routerStep, pc, reduceCtorEq] at stepped
      | wait ms => simp only [routerStep, pc, reduceCtorEq] at stepped
      | reconnect => simp only [routerStep, pc, reduceCtorEq] at stepped
      | register => simp only [routerStep, pc, reduceCtorEq] at stepped
      | exited status => simp only [routerStep, pc, reduceCtorEq] at stepped
      | aborted => simp only [routerStep, pc, reduceCtorEq] at stepped
  | reconnect ticks host now =>
      simp only [routerStep] at stepped
      split at stepped
      · cases stepped
        exact tryConnect_step ticks now host
      · cases stepped
  | register now =>
      simp only [routerStep] at stepped
      split at stepped
      · cases stepped
        exact tryRegister_step now
      · cases stepped
  | coalesceSend call =>
      simp only [routerStep] at stepped
      split at stepped
      · rename_i running
        cases stepped
        exact .quiet rfl rfl rfl ⟨rfl, rfl, rfl⟩ rfl running.1
      · cases stepped
  | renewInterfaceCache =>
      simp only [routerStep] at stepped
      split at stepped
      · rename_i running
        cases stepped
        exact .quiet rfl rfl rfl ⟨rfl, rfl, rfl⟩ rfl running
      · cases stepped

end Step

section Read

variable {m : Move RouterInput Router} {d : Datagram}

theorem input_of_datagramRead (read : datagramRead m = some d) :
    ∃ fuel, m.input = .recvfrom (.received d) fuel := by
  unfold datagramRead at read
  split at read
  · rename_i d' fuel input
    cases read
    exact ⟨fuel, input⟩
  · cases read

theorem readsServer_of_unread (unread : datagramRead m = none) : readsServer m = false := by
  unfold datagramRead at unread
  unfold readsServer
  split at unread
  · cases unread
  · rfl

theorem readsServer_iff (read : datagramRead m = some d) :
    readsServer m = true ↔ d.addr = m.before.dosboxServerAddr := by
  obtain ⟨fuel, input⟩ := input_of_datagramRead read
  unfold readsServer
  rw [input]
  exact decide_eq_true_iff

theorem invalidReply_iff (read : datagramRead m = some d) :
    invalidReply m = true ↔ d.addr = m.before.dosboxServerAddr ∧
      m.before.dosboxState = .registering ∧ ¬ ValidReply d := by
  obtain ⟨fuel, input⟩ := input_of_datagramRead read
  unfold invalidReply
  rw [input]
  exact decide_eq_true_iff

theorem invalidReply_of_unread (unread : datagramRead m = none) : invalidReply m = false := by
  unfold datagramRead at unread
  unfold invalidReply
  split at unread
  · cases unread
  · rfl

theorem quiet_of_read (read : datagramRead m = some d) :
    timesOut m = false ∧ resolves m = false := by
  obtain ⟨fuel, input⟩ := input_of_datagramRead read
  unfold timesOut resolves
  rw [input]
  exact ⟨rfl, rfl⟩

end Read

/-! ## The abort marked unreachable -/

/-- No move aborts, and whenever a datagram from the address in
`dosbox_server_addr` is read the router is registering or connected. -/
def AbortUnreached (ms : List (Move RouterInput Router)) : Prop :=
  ∀ m ∈ ms, m.after.pc ≠ .aborted ∧
    (readsServer m = true →
      m.before.dosboxState = .registering ∨ m.before.dosboxState = .connected)

/-- Whether, after the move, a registration has timed out and the server has not
been looked up again. -/
def awaitingAfter (awaiting : Bool) (m : Move RouterInput Router) : Bool :=
  if timesOut m then true else if resolves m then false else awaiting

/-- A datagram from the server is read after a registration has timed out and
before the server is looked up again. -/
def lateReply (awaiting : Bool) : List (Move RouterInput Router) → Bool
  | [] => false
  | m :: rest => (awaiting && readsServer m) || lateReply (awaitingAfter awaiting m) rest

/-- Once there is a server address, the router is disconnected exactly while a
lookup is awaited. -/
def TracksLookup (awaiting : Bool) (s : Router) : Prop :=
  s.dosboxServerAddr.family = AF_INET → (s.dosboxState = .disconnected ↔ awaiting = true)

theorem TracksLookup.step {m : Move RouterInput Router} {awaiting : Bool}
    (tracks : TracksLookup awaiting m.before) (step : ConnectionStep m) :
    TracksLookup (awaitingAfter awaiting m) m.after := by
  intro inet
  unfold awaitingAfter
  cases step with
  | quiet unread unresolved untimed addresses kept alive =>
      rw [untimed, unresolved, kept]
      rw [addresses.dosboxServerAddr] at inet
      exact tracks inet
  | resolved unread found untimed inet' netnum nodenum registering alive =>
      rw [untimed, found, registering]
      exact Iff.intro (fun same => by cases same) (fun same => by cases same)
  | timedOut unread unresolved late addresses disconnected alive =>
      rw [late, disconnected]
      exact Iff.intro (fun _ => rfl) (fun _ => rfl)
  | read d read unregistered addresses kept cache aborts =>
      rw [(quiet_of_read read).1, (quiet_of_read read).2, kept]
      rw [addresses.dosboxServerAddr] at inet
      exact tracks inet
  | replied d read server registering addr connected alive =>
      rw [(quiet_of_read read).1, (quiet_of_read read).2, connected]
      rw [addr] at inet
      have before := tracks inet
      rw [registering] at before
      exact Iff.intro (fun same => by cases same) (fun awaited => by cases before.mpr awaited)

/-- One move reaches the abort exactly if it reads from the server while a lookup
is awaited. -/
theorem TracksLookup.unreached_iff {m : Move RouterInput Router} {awaiting : Bool}
    (tracks : TracksLookup awaiting m.before) (step : ConnectionStep m) :
    (m.after.pc ≠ .aborted ∧ (readsServer m = true →
      m.before.dosboxState = .registering ∨ m.before.dosboxState = .connected)) ↔
      (awaiting && readsServer m) = false := by
  have unread_case : datagramRead m = none → m.after.pc ≠ .aborted →
      ((m.after.pc ≠ .aborted ∧ (readsServer m = true →
        m.before.dosboxState = .registering ∨ m.before.dosboxState = .connected)) ↔
        (awaiting && readsServer m) = false) := by
    intro unread alive
    rw [readsServer_of_unread unread, Bool.and_false]
    exact Iff.intro (fun _ => rfl) (fun _ => ⟨alive, fun read => by cases read⟩)
  cases step with
  | quiet unread _ _ _ _ alive => exact unread_case unread alive
  | resolved unread _ _ _ _ _ _ alive => exact unread_case unread alive
  | timedOut unread _ _ _ _ alive => exact unread_case unread alive
  | read d read unregistered addresses kept cache aborts =>
      cases from_server : readsServer m with
      | false =>
          rw [Bool.and_false]
          refine Iff.intro (fun _ => rfl) (fun _ => ⟨fun dead => ?_, fun read => by cases read⟩)
          rw [(readsServer_iff read).mpr (aborts.mp dead).1] at from_server
          cases from_server
      | true =>
          have server := (readsServer_iff read).mp from_server
          have inet : m.before.dosboxServerAddr.family = AF_INET := by
            rw [← server]
            exact d.inet
          rw [Bool.and_true]
          constructor
          · intro unreached
            cases awaited : awaiting with
            | false => rfl
            | true =>
                have disconnected := (tracks inet).mpr awaited
                exact (unreached.1 (aborts.mpr ⟨server, disconnected⟩)).elim
          · intro unawaited
            have live : m.before.dosboxState ≠ .disconnected := by
              intro disconnected
              rw [(tracks inet).mp disconnected] at unawaited
              cases unawaited
            refine ⟨fun dead => live (aborts.mp dead).2, fun _ => ?_⟩
            cases state : m.before.dosboxState with
            | disconnected => exact (live state).elim
            | registering => exact Or.inl rfl
            | connected => exact Or.inr rfl
  | replied d read server registering addr connected alive =>
      have inet : m.before.dosboxServerAddr.family = AF_INET := by
        rw [← server]
        exact d.inet
      refine Iff.intro (fun _ => ?_) (fun _ => ⟨alive, fun _ => Or.inl registering⟩)
      cases awaited : awaiting with
      | false => rfl
      | true =>
          have disconnected := (tracks inet).mpr awaited
          rw [registering] at disconnected
          cases disconnected

theorem moves_unreached_iff (env : RouterEnv) (inputs : List RouterInput) {s : Router}
    {awaiting : Bool} (tracks : TracksLookup awaiting s) :
    AbortUnreached (moves (routerStep env) inputs s) ↔
      lateReply awaiting (moves (routerStep env) inputs s) = false := by
  induction inputs generalizing s awaiting with
  | nil => exact Iff.intro (fun _ => rfl) (fun _ _ member => by cases member)
  | cons input rest ih =>
      cases stepped : routerStep env input s with
      | none =>
          rw [moves_cons_of_none stepped]
          exact Iff.intro (fun _ => rfl) (fun _ _ member => by cases member)
      | some s' =>
          have step : ConnectionStep ⟨s, input, s'⟩ := connectionStep stepped
          rw [moves_cons_of_some stepped, lateReply, Bool.or_eq_false_iff,
            ← tracks.unreached_iff step, ← ih (tracks.step step)]
          exact List.forall_mem_cons

/-- The `abort()` marked unreachable is not reached in a run, and every datagram
from the server finds the router registering or connected, exactly if no datagram
from the server is read between a registration timing out and the server being
looked up again. -/
theorem routerMoves_unreachable_iff (env : RouterEnv) (inputs : List RouterInput) :
    AbortUnreached (routerMoves env inputs) ↔ lateReply false (routerMoves env inputs) = false :=
  moves_unreached_iff env inputs fun inet => by cases inet

/-- The router flushes, sleeps and is woken. -/
def sleeps (ticks : UInt64) : List RouterInput :=
  [.loopTop ticks, .waitMs ticks, .wait, .woken true]

/-- One pass round the loop in which no datagram is waiting. -/
def idlePass (ticks : UInt64) (host : Option UInt32) : List RouterInput :=
  sleeps ticks ++ [.recvfrom (.failed WSAEWOULDBLOCK) 0,
    .reconnect ticks host ticks, .register ticks]

def someServer : SockAddrIn := ⟨AF_INET, 0x0100007F, 0xD500⟩

def someRouterEnv : RouterEnv := ⟨⟨true, fun _ => 0, fun _ => 0⟩, 0xD500⟩

/-- A datagram of `len` zero bytes from `someServer`. -/
def zeroDatagram (len : Nat) (len_le : len ≤ maxPktSize) : Datagram :=
  ⟨someServer, fun _ => 0, len, len_le, rfl⟩

/-- The server is found, does not answer for 30 seconds, and answers then. -/
def lateReplyRun : List RouterInput :=
  idlePass 0 (some someServer.addr) ++ idlePass 30000 none ++ sleeps 30001 ++
    [.recvfrom (.received (zeroDatagram 30 (by decide))) 0]

/-- The answer after the timeout is read before the server is looked up again,
and the router aborts. -/
theorem lateReplyRun_aborts : ¬ AbortUnreached (routerMoves someRouterEnv lateReplyRun) := by
  intro unreached
  have aborts : ∃ m ∈ routerMoves someRouterEnv lateReplyRun, m.after.pc = .aborted := by
    decide
  obtain ⟨m, member, dead⟩ := aborts
  exact (unreached m member).1 dead

/-! ## Connecting -/

/-- Only a valid response from the server, while registering, connects or gives a
local address; any other datagram leaves the connection, the local address and
the interface list as they were. -/
structure ConnectsOnReply (m : Move RouterInput Router) : Prop where
  only : (m.after.dosboxState = .connected ∧ m.before.dosboxState ≠ .connected) ∨
      m.after.dosboxLocalNetnum ≠ m.before.dosboxLocalNetnum ∨
      m.after.dosboxLocalNodenum ≠ m.before.dosboxLocalNodenum →
    ∃ d, datagramRead m = some d ∧ d.addr = m.before.dosboxServerAddr ∧
      m.before.dosboxState = .registering ∧ ValidReply d
  other : ∀ d, datagramRead m = some d →
    ¬ (d.addr = m.before.dosboxServerAddr ∧ m.before.dosboxState = .registering ∧
      ValidReply d) →
    m.after.dosboxState = m.before.dosboxState ∧
      m.after.dosboxLocalNetnum = m.before.dosboxLocalNetnum ∧
      m.after.dosboxLocalNodenum = m.before.dosboxLocalNodenum ∧
      m.after.interfaceCache = m.before.interfaceCache

theorem ConnectionStep.connects_iff {m : Move RouterInput Router} (step : ConnectionStep m) :
    ConnectsOnReply m ↔ invalidReply m = false := by
  have unread_case : datagramRead m = none →
      ¬ (m.after.dosboxState = .connected ∧ m.before.dosboxState ≠ .connected) →
      m.after.dosboxLocalNetnum = m.before.dosboxLocalNetnum →
      m.after.dosboxLocalNodenum = m.before.dosboxLocalNodenum →
      (ConnectsOnReply m ↔ invalidReply m = false) := by
    intro unread state netnum nodenum
    refine Iff.intro (fun _ => invalidReply_of_unread unread) (fun _ => ⟨?_, ?_⟩)
    · intro changed
      rcases changed with connects | renamed | renamed
      · exact (state connects).elim
      · exact (renamed netnum).elim
      · exact (renamed nodenum).elim
    · intro d read
      rw [unread] at read
      cases read
  cases step with
  | quiet unread unresolved untimed addresses kept alive =>
      refine unread_case unread ?_ addresses.dosboxLocalNetnum addresses.dosboxLocalNodenum
      rw [kept]
      exact fun connects => connects.2 connects.1
  | resolved unread found untimed inet netnum nodenum registering alive =>
      refine unread_case unread ?_ netnum nodenum
      rw [registering]
      exact fun connects => by cases connects.1
  | timedOut unread unresolved late addresses disconnected alive =>
      refine unread_case unread ?_ addresses.dosboxLocalNetnum addresses.dosboxLocalNodenum
      rw [disconnected]
      exact fun connects => by cases connects.1
  | read d read unregistered addresses kept cache aborts =>
      have valid : invalidReply m = false := by
        rw [← Bool.not_eq_true, invalidReply_iff read]
        exact fun invalid => unregistered ⟨invalid.1, invalid.2.1⟩
      refine Iff.intro (fun _ => valid) (fun _ => ⟨?_, ?_⟩)
      · intro changed
        rcases changed with connects | renamed | renamed
        · rw [kept] at connects
          exact (connects.2 connects.1).elim
        · exact (renamed addresses.dosboxLocalNetnum).elim
        · exact (renamed addresses.dosboxLocalNodenum).elim
      · intro _ _ _
        exact ⟨kept, addresses.dosboxLocalNetnum, addresses.dosboxLocalNodenum, cache⟩
  | replied d read server registering addr connected alive =>
      constructor
      · intro connects
        rw [← Bool.not_eq_true, invalidReply_iff read]
        intro invalid
        obtain ⟨d', read', -, -, valid⟩ := connects.only
          (Or.inl ⟨connected, by rw [registering]; exact fun same => by cases same⟩)
        rw [read, Option.some.injEq] at read'
        subst read'
        exact invalid.2.2 valid
      · intro accepted
        have valid : ValidReply d := by
          by_contra invalid
          rw [(invalidReply_iff read).mpr ⟨server, registering, invalid⟩] at accepted
          cases accepted
        refine ⟨fun _ => ⟨d, read, server, registering, valid⟩, fun d' read' unexpected => ?_⟩
        rw [read, Option.some.injEq] at read'
        subst read'
        exact (unexpected ⟨server, registering, valid⟩).elim

/-- In a run, only valid responses connect and other datagrams change nothing,
exactly if no datagram read from the server while registering is an invalid
response. -/
theorem routerMoves_connects_iff (env : RouterEnv) (inputs : List RouterInput) :
    (∀ m ∈ routerMoves env inputs, ConnectsOnReply m) ↔
      ∀ m ∈ routerMoves env inputs, invalidReply m = false :=
  forall₂_congr fun _ member => (connectionStep (step_of_mem_moves member)).connects_iff

/-- The server is found, and answers the registration with ten bytes. -/
def shortReplyRun : List RouterInput :=
  idlePass 0 (some someServer.addr) ++ sleeps 1 ++
    [.recvfrom (.received (zeroDatagram 10 (by decide))) 0]

/-- Ten bytes are no valid response, but the router is connected by them. -/
theorem shortReplyRun_connects :
    ¬ ∀ m ∈ routerMoves someRouterEnv shortReplyRun, ConnectsOnReply m := by
  intro connects
  have invalid : ∃ m ∈ routerMoves someRouterEnv shortReplyRun, invalidReply m = true := by
    decide
  obtain ⟨m, member, invalid⟩ := invalid
  have step := connectionStep (step_of_mem_moves member)
  rw [step.connects_iff.mp (connects m member)] at invalid
  cases invalid

end IpxWrapper
