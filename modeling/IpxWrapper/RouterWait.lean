import IpxWrapper.RouterRuns
import IpxWrapper.CoalescePending

/-!
# How long the router sleeps

`router_main` flushes the payloads that have waited for `maxDelay` at the top of its
loop, and then sleeps for a time that the state of the connection decides. Nothing is
ever pending but while the router is connected (`routerMoves_waitInv`), and then it
sleeps for a second: `routerMoves_waitsInTime_iff` says when that is not too long for
a payload that the flush has left behind, or another thread has queued since.
-/

namespace IpxWrapper

open Base Loop

variable {env : CoalesceEnv} {s s' : CoalesceState} {i j : Nat} {now uticks : UInt64}

/-! ## What a flush leaves -/

/-- The comparison that `coalesce_flush_waiting` makes at the head of the list. -/
def CoalesceState.isDue (s : CoalesceState) (now : UInt64) (i : Nat) : Bool :=
  s.payloadTimestamp i + maxDelay ≤ now

/-- The payloads that are left: the first that is not due and all behind it. -/
def CoalesceState.leftPending (s : CoalesceState) (now : UInt64) : List Nat :=
  s.coalescePending.dropWhile (s.isDue now)

/-- A flush does not touch the times at which payloads began. -/
theorem coalesceFlush_payloadTimestamp (env : CoalesceEnv) {cd : CoalesceDest}
    (at_i : s.coalesceTable[i]? = some cd) (j : Nat) :
    (coalesceFlush env i s).payloadTimestamp j = s.payloadTimestamp j := by
  obtain ⟨-, table, -⟩ := coalesceFlush_of_some env at_i
  by_cases same : j = i
  · subst same
    rw [CoalesceState.payloadTimestamp_eq (getElem?_of_set at_i table),
      CoalesceState.payloadTimestamp_eq at_i]
  · unfold CoalesceState.payloadTimestamp
    rw [table, List.getElem?_set_ne (Ne.symm same)]

/-- The loop ends with nothing left where nothing is pending. -/
theorem run_flushWaiting_of_empty (env : CoalesceEnv) (now : UInt64)
    (empty : s.coalescePending = []) (n : Nat) :
    run (flushWaitingBody env now) (n + 1) s = .done s ∧ s.coalescePending = s.leftPending now := by
  have leaves : flushWaitingBody env now s = .done s := by
    unfold flushWaitingBody
    rw [empty]
  refine ⟨run_succ_of_done leaves n, ?_⟩
  rw [CoalesceState.leftPending, empty]
  rfl

/-- The loop of `coalesce_flush_waiting` drops the due payloads at the head of the list. -/
theorem run_flushWaiting (env : CoalesceEnv) (now : UInt64) {n : Nat}
    (linked : ∀ i ∈ s.coalescePending, ∃ cd, s.coalesceTable[i]? = some cd)
    (enough : s.coalescePending.length ≤ n) :
    ∃ s', run (flushWaitingBody env now) (n + 1) s = .done s' ∧
      s'.coalescePending = s.leftPending now ∧
      ∀ j, s'.payloadTimestamp j = s.payloadTimestamp j := by
  induction n generalizing s with
  | zero =>
      have empty : s.coalescePending = [] := List.length_eq_zero_iff.mp (by omega)
      obtain ⟨ran, left⟩ := run_flushWaiting_of_empty env now empty 0
      exact ⟨s, ran, left, fun _ => rfl⟩
  | succ n ih =>
      rcases pending : s.coalescePending with _ | ⟨i, rest⟩
      · obtain ⟨ran, left⟩ := run_flushWaiting_of_empty env now pending (n + 1)
        exact ⟨s, ran, left, fun _ => rfl⟩
      obtain ⟨cd, at_i⟩ := linked i (pending ▸ List.mem_cons_self)
      have stamp := CoalesceState.payloadTimestamp_eq at_i
      by_cases due : cd.payloadTimestamp + maxDelay ≤ now
      · have pass : flushWaitingBody env now s = .next (coalesceFlush env i s) := by
          unfold flushWaitingBody
          rw [pending]
          simp only [at_i, if_pos due]
        obtain ⟨-, table, shorter⟩ := coalesceFlush_of_some env at_i
        rw [pending, List.erase_cons_head] at shorter
        have times := coalesceFlush_payloadTimestamp env at_i
        obtain ⟨s', ran, left, same⟩ := ih (s := coalesceFlush env i s) (fun j member => by
            obtain ⟨cd', at_j⟩ := linked j (pending ▸ List.mem_cons_of_mem i (shorter ▸ member))
            rw [table]
            have inside := (List.getElem?_eq_some_iff.mp at_j).1
            exact ⟨_, List.getElem?_eq_getElem (by rwa [List.length_set])⟩) (by
            rw [shorter]
            rw [pending, List.length_cons] at enough
            omega)
        refine ⟨s', (run_succ_of_next pass _).trans ran, ?_, fun j => (same j).trans (times j)⟩
        have head : s.isDue now i = true := decide_eq_true (by rw [stamp]; exact due)
        have test : (coalesceFlush env i s).isDue now = s.isDue now := by
          funext j
          unfold CoalesceState.isDue
          rw [times]
        rw [left, CoalesceState.leftPending, CoalesceState.leftPending, shorter, test, pending,
          List.dropWhile_cons_of_pos head]
      · have leaves : flushWaitingBody env now s = .done s := by
          unfold flushWaitingBody
          rw [pending]
          simp only [at_i, if_neg due]
        refine ⟨s, run_succ_of_done leaves _, ?_, fun _ => rfl⟩
        have head : ¬ s.isDue now i = true := by
          unfold CoalesceState.isDue
          rw [decide_eq_true_eq, stamp]
          exact due
        rw [CoalesceState.leftPending, pending, List.dropWhile_cons_of_neg head]

theorem coalesceFlushWaiting_leaves (env : CoalesceEnv) (now : UInt64)
    (linked : ∀ i ∈ s.coalescePending, ∃ cd, s.coalesceTable[i]? = some cd) :
    (coalesceFlushWaiting env now s).coalescePending = s.leftPending now ∧
      ∀ j, (coalesceFlushWaiting env now s).payloadTimestamp j = s.payloadTimestamp j := by
  obtain ⟨s', ran, left, same⟩ := run_flushWaiting env now linked (Nat.le_refl _)
  unfold coalesceFlushWaiting runFlushes
  rw [ran]
  exact ⟨left, same⟩

/-! ## Nothing is pending while there is no connection -/

/-- What holds of the coalescer, and of `wait_ms`, whenever the router takes a step. -/
structure WaitInv (s : Router) : Prop where
  ledger : ∃ subs l, CoalesceInv False subs l s.coalesce ∧ l.inHand = none
  connected : s.coalesce.coalescePending ≠ [] → s.dosboxState = .connected
  /-- Nothing shortens the sleep of a router that is connected. -/
  second : ∀ ms, s.pc = .sleep ms → s.dosboxState = .connected → ms = 1000

/-- What a step does to the coalescer. -/
inductive CoalesceStep (env : RouterEnv) (m : Move RouterInput Router) : Prop where
  | same (coalesce : m.after.coalesce = m.before.coalesce)
  | flushes (uticks : UInt64)
      (coalesce : m.after.coalesce = coalesceFlushWaiting env.coalesce uticks m.before.coalesce)
  | sends (call : SendCall) (connected : m.before.dosboxState = .connected)
      (coalesce : m.after.coalesce = (coalesceSend env.coalesce call m.before.coalesce).2)

/-- A step after which the router is about to sleep for `ms` has worked that out, or is not the
router's own. -/
def SleepStep (m : Move RouterInput Router) : Prop :=
  ∀ ms, m.after.pc = .sleep ms → m.after.dosboxState = m.before.dosboxState ∧
    (m.before.pc = .sleep ms ∨ ∃ now, ms = waitMs now m.before)

theorem doUdpRecv_coalesce {fuel : Nat} {result : Recvfrom} {s s' : Router} {ended : UdpRecv}
    (ran : doUdpRecv fuel result s = some (ended, s')) : s'.coalesce = s.coalesce := by
  unfold doUdpRecv at ran
  split at ran
  · split_ifs at ran <;> cases ran <;> rfl
  dsimp only at ran
  split at ran
  · cases ran
    rfl
  split at ran
  · cases ran
    rfl
  · split at ran
    · cases ran
      rfl
    · cases ran
  · cases ran
    rfl

theorem tryConnect_coalesce (env : RouterEnv) (ticks now : UInt64) (host : Option UInt32)
    (s : Router) : (tryConnect env ticks host now s).coalesce = s.coalesce := by
  unfold tryConnect
  split
  · split <;> rfl
  · rfl

theorem tryRegister_coalesce (now : UInt64) (s : Router) :
    (tryRegister now s).coalesce = s.coalesce := by
  unfold tryRegister requestRegistration giveUp
  split_ifs <;> rfl

theorem coalesceStep {env : RouterEnv} {m : Move RouterInput Router}
    (stepped : routerStep env m.input m.before = some m.after) : CoalesceStep env m := by
  obtain ⟨s, input, s'⟩ := m
  dsimp only at stepped
  cases input with
  | loopTop uticks =>
      simp only [routerStep] at stepped
      split at stepped
      · cases stepped
        exact .flushes uticks rfl
      · cases stepped
  | waitMs now =>
      simp only [routerStep] at stepped
      split at stepped
      · cases stepped
        exact .same rfl
      · cases stepped
  | wait =>
      simp only [routerStep] at stepped
      split at stepped
      · cases stepped
        exact .same rfl
      · cases stepped
  | woken running =>
      simp only [routerStep] at stepped
      split at stepped
      · cases stepped
        exact .same rfl
      · cases stepped
  | recvfrom result fuel =>
      simp only [routerStep] at stepped
      split at stepped
      · split at stepped
        · cases stepped
        · rename_i ran
          have coalesce := doUdpRecv_coalesce ran
          cases stepped
          exact .same coalesce
        · rename_i ran
          have coalesce := doUdpRecv_coalesce ran
          cases stepped
          exact .same coalesce
      · cases stepped
  | reconnect ticks host now =>
      simp only [routerStep] at stepped
      split at stepped
      · cases stepped
        exact .same (tryConnect_coalesce env ticks now host s)
      · cases stepped
  | register now =>
      simp only [routerStep] at stepped
      split at stepped
      · cases stepped
        exact .same (tryRegister_coalesce now s)
      · cases stepped
  | coalesceSend call =>
      simp only [routerStep] at stepped
      split at stepped
      · rename_i running
        cases stepped
        exact .sends _ running.2 rfl
      · cases stepped
  | renewInterfaceCache =>
      simp only [routerStep] at stepped
      split at stepped
      · cases stepped
        exact .same rfl
      · cases stepped

theorem afterRecv_ne_sleep (i : Nat) (status : Int) (ms : UInt32) :
    afterRecv i status ≠ .sleep ms := by
  unfold afterRecv
  split_ifs <;> exact fun same => by cases same

theorem sleepStep {env : RouterEnv} {m : Move RouterInput Router}
    (stepped : routerStep env m.input m.before = some m.after) : SleepStep m := by
  obtain ⟨s, input, s'⟩ := m
  dsimp only at stepped
  intro ms asleep
  dsimp only at asleep
  cases input with
  | loopTop uticks =>
      simp only [routerStep] at stepped
      split at stepped <;> cases stepped
      cases asleep
  | waitMs now =>
      simp only [routerStep] at stepped
      split at stepped <;> cases stepped
      cases asleep
      exact ⟨rfl, .inr ⟨now, rfl⟩⟩
  | wait =>
      simp only [routerStep] at stepped
      split at stepped <;> cases stepped
      cases asleep
  | woken running =>
      simp only [routerStep] at stepped
      split at stepped <;> cases stepped
      cases running <;> cases asleep
  | recvfrom result fuel =>
      simp only [routerStep] at stepped
      split at stepped
      · split at stepped <;> cases stepped
        · cases asleep
        · exact absurd asleep (afterRecv_ne_sleep _ _ ms)
      · cases stepped
  | reconnect ticks host now =>
      simp only [routerStep] at stepped
      split at stepped <;> cases stepped
      cases asleep
  | register now =>
      simp only [routerStep] at stepped
      split at stepped <;> cases stepped
      cases asleep
  | coalesceSend call =>
      simp only [routerStep] at stepped
      split at stepped <;> cases stepped
      exact ⟨rfl, .inl asleep⟩
  | renewInterfaceCache =>
      simp only [routerStep] at stepped
      split at stepped <;> cases stepped
      exact ⟨rfl, .inl asleep⟩

/-- A connection is never given up. -/
theorem ConnectionStep.stays_connected {m : Move RouterInput Router} (step : ConnectionStep m)
    (connected : m.before.dosboxState = .connected) : m.after.dosboxState = .connected := by
  cases step with
  | quiet unread unresolved untimed addresses kept alive => exact kept.trans connected
  | resolved unread found untimed inet netnum nodenum registering alive =>
      unfold resolves at found
      split at found
      · rw [connected] at found
        simp at found
      · cases found
  | timedOut unread unresolved late addresses disconnected alive =>
      unfold timesOut at late
      split at late
      · rw [connected] at late
        simp at late
      · cases late
  | read d read unregistered addresses kept cache aborts => exact kept.trans connected
  | replied d read server registering addr connected alive => exact connected

theorem WaitInv.linked {s : Router} (inv : WaitInv s) :
    ∀ i ∈ s.coalesce.coalescePending, ∃ cd, s.coalesce.coalesceTable[i]? = some cd := by
  obtain ⟨subs, l, ledger, -⟩ := inv.ledger
  intro i member
  obtain ⟨cd, at_i, -⟩ := (ledger.pending_iff i).mp member
  exact ⟨cd, at_i⟩

theorem WaitInv.init : WaitInv Router.init where
  ledger := ⟨[], .empty, .init, rfl⟩
  connected := fun pending => (pending rfl).elim
  second := fun _ asleep => by cases asleep

theorem WaitInv.second_step {m : Move RouterInput Router} (inv : WaitInv m.before)
    (slept : SleepStep m) (ms : UInt32) (asleep : m.after.pc = .sleep ms)
    (connected : m.after.dosboxState = .connected) : ms = 1000 := by
  obtain ⟨same, before | ⟨now, rfl⟩⟩ := slept ms asleep
  · exact inv.second ms before (same.symm.trans connected)
  · unfold waitMs
    rw [same.symm.trans connected]

theorem WaitInv.step {env : RouterEnv} {m : Move RouterInput Router} (inv : WaitInv m.before)
    (stepped : routerStep env m.input m.before = some m.after) : WaitInv m.after := by
  have stays := (connectionStep stepped).stays_connected
  have second := inv.second_step (sleepStep stepped)
  obtain ⟨subs, l, ledger, free⟩ := inv.ledger
  cases coalesceStep stepped with
  | same coalesce =>
      rw [← coalesce] at ledger
      refine ⟨⟨subs, l, ledger, free⟩, fun pending => stays (inv.connected ?_), second⟩
      rwa [← coalesce]
  | flushes uticks coalesce =>
      obtain ⟨l', ledger', free', -⟩ :=
        ledger.runFlushes free (flushWaitingBody_flushesOldest env.coalesce uticks)
      rw [← coalesceFlushWaiting, ← coalesce] at ledger'
      refine ⟨⟨subs, l', ledger', free'⟩, fun pending => ?_, second⟩
      refine stays (inv.connected fun none => pending ?_)
      rw [coalesce, (coalesceFlushWaiting_leaves env.coalesce uticks inv.linked).1,
        CoalesceState.leftPending, none]
      rfl
  | sends call connected coalesce =>
      obtain ⟨l', ledger', free'⟩ := ledger.send free env.coalesce call fun wanted => wanted.elim
      rw [← coalesce] at ledger'
      exact ⟨⟨subs ++ [call.submission], l', ledger', free'⟩, fun _ => stays connected, second⟩

theorem routerMoves_waitInv (env : RouterEnv) (inputs : List RouterInput) :
    ∀ m ∈ routerMoves env inputs, WaitInv m.before := fun m member =>
  (moves_induct (G := fun _ => True) (Q := fun _ => True) WaitInv.init (fun _ _ => trivial)
    (fun _ inv stepped _ => ⟨inv.step stepped, trivial⟩) m member).1

/-! ## The wait -/

/-- The sleep that begins when the clock reads `uticks` does not outlast the time for which any
pending payload may still be held back, rounded up to a millisecond. -/
def WaitsInTime (uticks : UInt64) (s : Router) : Prop :=
  ∀ ms, s.pc = .wait ms → ∀ i ∈ s.coalesce.coalescePending,
    ms.toNat ≤ ((s.coalesce.payloadTimestamp i).toNat + maxDelay.toNat - uticks.toNat + 999) / 1000

/-- No payload is pending but such as are stamped more than 979 ms ahead of the clock. -/
def NoneSoonDue (uticks : UInt64) (s : CoalesceState) : Prop :=
  ∀ i ∈ s.coalescePending, uticks.toNat + 979000 < (s.payloadTimestamp i).toNat

theorem wait_step {env : RouterEnv} {m : Move RouterInput Router}
    (stepped : routerStep env m.input m.before = some m.after) (input : m.input = .wait) :
    ∃ ms, m.before.pc = .sleep ms ∧ m.after = m.before.goTo (.wait ms) := by
  rw [input] at stepped
  simp only [routerStep] at stepped
  split at stepped
  case h_1 ms asleep => exact ⟨ms, asleep, (Option.some.inj stepped).symm⟩
  case h_2 => cases stepped

/-- In every run: the router sleeps no longer than a pending payload may wait exactly if none is
pending when it calls `WaitForMultipleObjects`. (Or only such as are stamped ahead of the clock,
which it never is if the clock goes forward.) -/
theorem routerMoves_waitsInTime_iff (env : RouterEnv) (inputs : List RouterInput) :
    ∀ m ∈ routerMoves env inputs, m.input = .wait → ∀ uticks,
      (WaitsInTime uticks m.after ↔ NoneSoonDue uticks m.before.coalesce) := by
  intro m member input uticks
  have inv := routerMoves_waitInv env inputs m member
  obtain ⟨ms, asleep, after⟩ := wait_step (step_of_mem_moves member) input
  have second : ∀ i ∈ m.before.coalesce.coalescePending, ms = 1000 := fun i pending =>
    inv.second ms asleep (inv.connected (List.ne_nil_of_mem pending))
  unfold WaitsInTime NoneSoonDue
  rw [after]
  constructor
  · intro inTime i pending
    have bound := inTime ms rfl i pending
    rw [second i pending] at bound
    change 1000 ≤ ((m.before.coalesce.payloadTimestamp i).toNat + 20000 - _ + 999) / 1000 at bound
    omega
  · intro later ms' same i pending
    obtain rfl := RouterPc.wait.inj same
    have bound := later i pending
    rw [second i pending]
    change 1000 ≤ ((m.before.coalesce.payloadTimestamp i).toNat + 20000 - _ + 999) / 1000
    omega

theorem reply_le_maxPktSize : 30 ≤ maxPktSize := by
  decide

/-- A response to the registration, whose every length and address is in order. -/
def goodReply : Datagram :=
  let header := NovellIpxPacket.header (0, 30) 2 1 0x20000 sockEcho 0 0 sockEcho
  { zeroDatagram 30 reply_le_maxPktSize with buf := Mem.ofList header fun _ => 0 }

/-- The server answers, a packet is sent, and the router flushes when the clock reads `uticks`;
then others do `between`, and it goes to sleep. -/
def heldBackRun (uticks : UInt64) (between : List RouterInput) : List RouterInput :=
  idlePass 0 (some someServer.addr) ++ sleeps 1 ++
    [.recvfrom (.received goodReply) 0, .recvfrom (.failed WSAEWOULDBLOCK) 0, .reconnect 1 none 1,
      .register 1, .coalesceSend (sendBytes 1 1000), .loopTop uticks] ++ between ++
    [.waitMs 2, .wait]

/-- Once the packet has waited for 20 ms it is flushed. -/
theorem heldBackRun_waitsInTime :
    ∃ m ∈ routerMoves someRouterEnv (heldBackRun 21000 []),
      m.input = .wait ∧ m.after.pc = .wait 1000 ∧ WaitsInTime 21000 m.after := by
  have last : (routerMoves someRouterEnv (heldBackRun 21000 []))[18]? =
      some ⟨_, .wait, _⟩ := rfl
  have member := List.mem_of_getElem? last
  refine ⟨_, member, rfl, rfl, (routerMoves_waitsInTime_iff someRouterEnv (heldBackRun 21000 []) _
    member rfl 21000).mpr ?_⟩
  change ∀ i ∈ ([] : List Nat), _
  exact fun i left => (List.not_mem_nil left).elim

/-- A millisecond after the packet was sent the router goes to sleep for a second, though the
packet was to be held back for 20 ms at most. -/
theorem heldBackRun_not_waitsInTime :
    ¬ ∀ m ∈ routerMoves someRouterEnv (heldBackRun 2000 []), m.input = .wait →
      WaitsInTime 2000 m.after := by
  intro inTime
  have last : (routerMoves someRouterEnv (heldBackRun 2000 []))[18]? =
      some ⟨_, .wait, _⟩ := rfl
  have bound := inTime _ (List.mem_of_getElem? last) rfl 1000 rfl 0 (by decide)
  revert bound
  decide

/-- A packet that is sent between the flush and the call is pending then. -/
example : (routerMoves someRouterEnv (heldBackRun 21000 [.coalesceSend (sendBytes 1 21001)]))[19]?.map
    (fun m => m.after.coalesce.coalescePending) = some [0] := by
  decide

end IpxWrapper
