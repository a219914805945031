import IpxWrapper.DirectPlayCalls

/-!
# The sockets of the provider (`directplay.c`)

Until `IPX_CloseEx` or `IPX_ShutdownEx` is called, every socket that the provider opens is
`sock` or `ns_sock`, or is closed again, once, before the lock is released. Those two test
`sock` the wrong way about: they leave it open, or close -1. `spMoves_closesOnce` is both.
-/

namespace IpxWrapper

open Base LockProg

/-! ## What is kept -/

/-- `sock` and `ns_sock` are the sockets that are open, and no other has been closed. -/
structure SpData.Kept (s : SpData) : Prop where
  once : s.misuse = false
  unclosed : ∀ fd, fd ∈ s.unclosed ↔ s.sock = some fd ∨ s.nsSock = some fd
  distinct : ∀ fd, s.sock = some fd → s.nsSock ≠ some fd

/-- `sock` and `ns_sock` are -1, and no socket is open. -/
structure SpData.Closed (s : SpData) : Prop where
  once : s.misuse = false
  sock : s.sock = none
  nsSock : s.nsSock = none
  unclosed : s.unclosed = ∅

namespace SpData.Kept

variable {s : SpData} {fd : Nat}

theorem init (nsAddr : SockaddrIpx) (nsId : UInt32) : (SpData.init nsAddr nsId).Kept :=
  ⟨rfl, fun _ => iff_of_false (Finset.notMem_empty _) (by rintro (h | h) <;> cases h), nofun⟩

/-- A new socket that is closed again. -/
theorem reopen (kept : s.Kept) (fresh : fd ∉ s.unclosed) :
    ((s.opened fd).closesocket (some fd)).Kept := by
  have closed : (s.opened fd).closesocket (some fd) = s := by
    unfold SpData.closesocket opened
    dsimp only
    rw [if_pos (Finset.mem_insert_self fd s.unclosed), Finset.erase_insert fresh]
  rwa [closed]

/-- A new socket is kept in a place that is free. -/
theorem adopt (kept : s.Kept) (fresh : fd ∉ s.unclosed) {which : SpSocket}
    (free : s.fd which = none) : ((s.opened fd).setFd which (some fd)).Kept := by
  rw [kept.unclosed, not_or] at fresh
  cases which with
  | sock =>
      have none' : s.sock = none := free
      refine ⟨kept.once, fun fd' => ?_, fun fd' same => ?_⟩
      · change fd' ∈ insert fd s.unclosed ↔ some fd = some fd' ∨ s.nsSock = some fd'
        rw [Finset.mem_insert, kept.unclosed, none', Option.some_inj, eq_comm (a := fd')]
        simp only [reduceCtorEq, false_or]
      · obtain rfl := Option.some.inj same
        exact fresh.2
  | nsSock =>
      have none' : s.nsSock = none := free
      refine ⟨kept.once, fun fd' => ?_, fun fd' same => ?_⟩
      · change fd' ∈ insert fd s.unclosed ↔ s.sock = some fd' ∨ some fd = some fd'
        rw [Finset.mem_insert, kept.unclosed, none', Option.some_inj, eq_comm (a := fd')]
        simp only [reduceCtorEq, or_false]
        exact or_comm
      · rintro taken
        obtain rfl := Option.some.inj taken
        exact fresh.1 same

theorem closesocket (kept : s.Kept) {which : SpSocket} (used : s.fd which = some fd) :
    s.closesocket (some fd) = { s with unclosed := s.unclosed.erase fd } := by
  refine if_pos ?_
  rw [kept.unclosed]
  cases which with
  | sock => exact .inl used
  | nsSock => exact .inr used

/-- A socket is closed, and its place is -1 then. -/
theorem drop (kept : s.Kept) {which : SpSocket} (used : s.fd which = some fd) :
    ((s.closesocket (some fd)).setFd which none).Kept := by
  rw [kept.closesocket used]
  cases which with
  | sock =>
      have here : s.sock = some fd := used
      refine ⟨kept.once, fun fd' => ?_, nofun⟩
      change fd' ∈ s.unclosed.erase fd ↔ none = some fd' ∨ s.nsSock = some fd'
      rw [Finset.mem_erase, kept.unclosed, here, Option.some_inj]
      have apart := kept.distinct fd here
      constructor
      · rintro ⟨other, same | there⟩
        · exact absurd same.symm other
        · exact .inr there
      · rintro (none' | there)
        · cases none'
        · refine ⟨?_, .inr there⟩
          rintro rfl
          exact apart there
  | nsSock =>
      have here : s.nsSock = some fd := used
      refine ⟨kept.once, fun fd' => ?_, fun _ _ => nofun⟩
      change fd' ∈ s.unclosed.erase fd ↔ s.sock = some fd' ∨ none = some fd'
      rw [Finset.mem_erase, kept.unclosed, here, Option.some_inj]
      constructor
      · rintro ⟨other, there | same⟩
        · exact .inl there
        · exact absurd same.symm other
      · rintro (there | none')
        · refine ⟨?_, .inl there⟩
          rintro rfl
          exact kept.distinct fd' there here
        · cases none'

end SpData.Kept

/-- `CloseEx` or `ShutdownEx` is called. -/
def SpAct.closes : SpAct → Bool
  | .call _ c => c.closes
  | .pass _ env => env.calls.any (·.closes)
  | .step _ => false

theorem closesocket_running (fd : Option Nat) (s : SpData) :
    (s.closesocket fd).running = s.running := by
  unfold SpData.closesocket
  split
  · rfl
  · split <;> rfl

theorem setFd_running (which : SpSocket) (fd : Option Nat) (s : SpData) :
    (s.setFd which fd).running = s.running := by
  cases which <;> rfl

/-- What each thread is asked: to leave the data with the sockets kept. `ShutdownEx` is not called,
so the worker does not leave its loop. -/
def keeping : SpRules where
  inv s := s.Kept ∧ s.running = true
  good s := s.misuse = false
  admits op _ :=
    match op with
    | .stopWorker _ => False
    | .deleteLock => False
    | .returned call => call.closes = false
    | _ => True
  resumes _ := True
  level _ := True
  leaves _ := False
  level_zero := trivial
  inv_effect op s kept := by
    cases op <;> exact ⟨⟨kept.1.once, kept.1.unclosed, kept.1.distinct⟩, kept.2⟩
  good_effect op s good := by
    cases op <;> exact good

theorem keeping_sound : keeping.Sound (·.closes = false) where
  admits op _ plain := by
    cases op with
    | stopWorker timesOut => cases plain
    | deleteLock => cases plain
    | returned call => cases plain
    | _ => trivial
  resumes _ _ := trivial
  returns _ _ other _ := ⟨other, fun _ => trivial⟩
  good _ kept := kept.1.once
  opened _ _ kept := kept.1.once
  reopen s fd kept fresh := by
    refine ⟨kept.1.reopen fresh, ?_⟩
    rw [closesocket_running]
    exact kept.2
  adopt s fd which kept fresh free := by
    refine ⟨kept.1.adopt fresh free, ?_⟩
    rw [setFd_running]
    exact kept.2
  closed s fd which kept used := by
    change (s.closesocket (some fd)).misuse = false
    rw [kept.1.closesocket used]
    exact kept.1.once
  drop s fd which kept used := by
    refine ⟨kept.1.drop used, ?_⟩
    rw [setFd_running, closesocket_running]
    exact kept.2
  nameServer _ _ _ kept := ⟨⟨kept.1.once, kept.1.unclosed, kept.1.distinct⟩, kept.2⟩

theorem keeping_begins {act : SpAct} (other : act.closes = false) : keeping.Begins act := by
  have callback : SpRole.callback ≠ .last := nofun
  have worker : SpRole.worker ≠ .last := nofun
  cases act with
  | call t call => exact thread_starts (run_keeps keeping_sound callback other other)
  | step t => trivial
  | pass t env =>
      have others (call : SpCall) (member : call ∈ env.calls) : call.closes = false :=
        Bool.eq_false_iff.mpr (List.any_eq_false.mp other call member)
      refine workerPass_starts keeping_sound (fun call member =>
        run_keeps keeping_sound worker (others call member) (others call member)) ?_
      intro d s _ kept stopped
      cases kept.2.symm.trans stopped

/-! ## Runs -/

/-- What is to hold of a step: `closesocket` is given open sockets only, each open socket is in its
place while the lock is free, and `CloseEx` and `ShutdownEx` return with none open. -/
structure SpMove.ClosesOnce (m : SpMove) : Prop where
  once : m.after.lock.data.misuse = false
  kept : m.after.lock.owner = none → m.after.lock.data.Kept
  closed : ∀ t call, m.Operates t (.returned call) → call.closes = true →
    m.before.lock.data.Closed

theorem SpInv.keeping_step {m : SpMove} (inv : SpInv keeping m.before)
    (enabled : spStep m.input m.before = some m.after) (other : m.input.closes = false) :
    SpInv keeping m.after ∧ m.ClosesOnce := by
  have admits {t : Nat} {op : SpOp} (operates : m.Operates t op) : keeping.admits op 0 := by
    obtain ⟨-, next, running⟩ := operates
    obtain ⟨role, thread⟩ := inv.threads t _ running
    obtain ⟨data, -, admitted, -⟩ := thread.keeps.enter
    exact admitted.1
  have after : SpInv keeping m.after := by
    refine inv.step enabled workerStart_starts (keeping_begins other) (fun _ _ _ => trivial)
      (fun t leaves => ?_) fun t kills => ?_
    · obtain ⟨role, -, -, never⟩ := inv.post leaves.2
      exact never
    · obtain ⟨⟨t', stops⟩, -⟩ := kills
      exact (admits stops).elim
  refine ⟨after, after.good, fun free => (after.rest free).1, fun t call returns closes => ?_⟩
  have other : call.closes = false := admits returns
  cases other.symm.trans closes

/-! ## `CloseEx` and `ShutdownEx` -/

section Closing

variable {others : Nat → SpData} {h : Holder SpData}

/-- The test of `sock` fails where it is open, and closes -1 where it is not. -/
theorem closeSockets_wp : closeSockets.wp others (fun _ _ => True) h fun _ h' =>
    h'.data.misuse = true ∨ h'.data.sock ≠ none := by
  have main (h : Holder SpData) : (do
      let s ← read
      if s.sock = none then do
        closeSpSocket s.sock
        modify (·.setFd .sock none) : SpProg Unit).wp others (fun _ _ => True) h
        fun _ h' => h'.data.misuse = true ∨ h'.data.sock ≠ none := by
    rw [wp_bind, wp_read]
    split
    · rename_i unset
      rw [unset]
      unfold closeSpSocket
      rw [wp_bind, wp_modify, wp_modify]
      exact .inl rfl
    · rename_i used
      exact wp_ret.mpr (.inr used)
  unfold closeSockets
  rw [wp_bind, wp_read]
  dsimp only
  split
  · unfold closeSpSocket
    rw [wp_bind, wp_modify, wp_bind, wp_modify]
    exact main _
  · exact main _

/-- Whatever `CloseEx` and `ShutdownEx` find, they do not end with the sockets closed. -/
theorem SpCall.not_closed {call : SpCall} (closes : call.closes = true) {r : HResult}
    {h' : Holder SpData} (returned : call.prog.result others h = some (r, h')) :
    ¬ h'.data.Closed := by
  have get (spData : Bool) {rest : Unit → SpProg HResult} {Q : HResult → Holder SpData → Prop}
      (after : ∀ h, (rest ()).wp others (fun _ _ => True) h Q) :
      (getSpData spData >>= rest).wp others (fun _ _ => True) h Q := by
    unfold getSpData
    split
    · rw [wp_bind, wp_acquire]
      exact after _
    · exact wp_stop
  have ends : call.prog.wp others (fun _ _ => True) h fun _ h' =>
      h'.data.misuse = true ∨ h'.data.sock ≠ none := by
    cases call with
    | closeEx spData =>
        refine get spData fun h => ?_
        rw [wp_bind]
        refine closeSockets_wp.imp fun _ h' open' => ?_
        unfold releaseSpData
        rw [wp_bind, wp_release]
        exact ⟨trivial, wp_ret.mpr open'⟩
    | shutdownEx env =>
        refine get env.spData fun h => ?_
        unfold releaseSpData
        rw [wp_bind, wp_modify, wp_bind, wp_release, wp_bind, wp_await, wp_bind]
        refine ⟨trivial, trivial, closeSockets_wp.imp fun _ h' open' => ?_⟩
        rw [wp_bind, wp_await]
        exact ⟨trivial, wp_ret.mpr open'⟩
    | _ => cases closes
  intro closed
  rcases ends.2 r h' returned with misused | used
  · cases misused.symm.trans closed.once
  · exact used closed.sock

end Closing

/-- In a run without `CloseEx` and `ShutdownEx` no socket is closed twice and none is lost; and
neither of the two ends with the sockets closed, whatever it finds. -/
theorem spMoves_closesOnce (nsAddr : SockaddrIpx) (nsId : UInt32) (acts : List SpAct) :
    ((∀ m ∈ spMoves nsAddr nsId acts, m.input.closes = false) →
      ∀ m ∈ spMoves nsAddr nsId acts, m.ClosesOnce) ∧
    ∀ call : SpCall, call.closes = true → ∀ others h r h',
      call.prog.result others h = some (r, h') → ¬ h'.data.Closed := by
  refine ⟨fun other m member => ?_, fun call closes others h r h' => call.not_closed closes⟩
  have start : SpInv keeping (.init nsAddr nsId) := .init ⟨.init nsAddr nsId, rfl⟩ rfl
  exact (moves_induct (I := SpInv keeping) (Q := SpMove.ClosesOnce) start other
    (fun m inv enabled other => inv.keeping_step enabled other) m member).2.2

/-- A worker of its own and the socket 5. -/
def someOpen : SpCall := .open true none ⟨true, some (2, ⟨true, true⟩), ⟨some 5, none, true, true⟩⟩

/-- `SP_Open`, with all of its steps. -/
def openRun : List SpAct :=
  .call 1 someOpen :: List.replicate 13 (.step 1)

/-- Every step of `SP_Open` is as it is to be, and the socket 5 is open at the end of it; and
`SP_CloseEx` of a provider with no socket returns, but not with the sockets closed. -/
theorem spMoves_closesOnce_open :
    (∀ m ∈ spMoves anyIpxAddr 0 openRun, m.ClosesOnce) ∧
      (∃ m ∈ spMoves anyIpxAddr 0 openRun, m.after.lock.data.unclosed = {5}) ∧
      ∃ h', (SpCall.closeEx true).prog.result (fun _ => .init anyIpxAddr 0)
        ⟨0, .init anyIpxAddr 0, 0⟩ = some (DP_OK, h') ∧ ¬ h'.data.Closed := by
  obtain ⟨opens, closes⟩ := spMoves_closesOnce anyIpxAddr 0 openRun
  refine ⟨opens (by decide), ⟨_, List.mem_of_getElem? (i := 13) rfl, rfl⟩, ?_⟩
  have returns : ∃ h', (SpCall.closeEx true).prog.result (fun _ => .init anyIpxAddr 0)
      ⟨0, .init anyIpxAddr 0, 0⟩ = some (DP_OK, h') := ⟨_, rfl⟩
  obtain ⟨h', returned⟩ := returns
  exact ⟨h', returned, closes (.closeEx true) rfl _ _ _ _ returned⟩

/-- `SP_Open`, and `SP_CloseEx` after it. -/
def closeRun : List SpAct :=
  openRun ++ .call 1 (.closeEx true) :: List.replicate 5 (.step 1)

/-- The socket 5 is still open then. -/
theorem closeRun_open : ¬ ∀ m ∈ spMoves anyIpxAddr 0 closeRun, m.ClosesOnce := by
  intro closes
  have last := closes _ (List.mem_of_getElem? (i := 19) rfl)
  cases (last.closed 1 _ ⟨rfl, _, rfl⟩ rfl).sock

end IpxWrapper
