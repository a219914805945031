import IpxWrapper.DirectPlayCalls

/-!
# Who leaves the provider with the lock (`directplay.c`)

`IPX_Reply` returns early for a `NULL` header and `worker_main` breaks out of its loop,
both with the lock of `sp_data` held: `spMoves_released_iff`. Every other path releases what
it takes, and what `IPX_ShutdownEx` deletes then is free.
-/

namespace IpxWrapper

open Base LockProg

/-! ## Rules -/

/-- What each thread is asked: to return without the lock, but for the two that do not. -/
def pairing : SpRules where
  inv _ := True
  good _ := True
  admits op d :=
    match op with
    | .returned call => d = call.leaves
    | .deleteLock => d = 0
    | _ => True
  resumes op :=
    match op with
    | .returned call => call.nullReply = false
    | _ => True
  level d := d = 0
  leaves d := d = 1
  level_zero := rfl
  inv_effect _ _ _ := trivial
  good_effect _ _ _ := trivial

theorem pairing_sound : pairing.Sound fun _ => True where
  admits op _ plain := by
    cases op with
    | returned call => cases plain
    | deleteLock => cases plain
    | _ => trivial
  resumes op plain := by
    cases op with
    | returned call => cases plain
    | _ => trivial
  returns call d _ level := by
    obtain rfl : d = 0 := level
    refine ⟨Nat.zero_add _, fun paired => ?_⟩
    have released : call.nullReply = false := paired
    change 0 + call.leaves = 0
    rw [SpCall.leaves, released]
    rfl
  good _ _ := trivial
  opened _ _ _ := trivial
  reopen _ _ _ _ := trivial
  adopt _ _ _ _ _ _ := trivial
  closed _ _ _ _ _ := trivial
  drop _ _ _ _ _ := trivial
  nameServer _ _ _ _ := trivial

section Closing

variable {role : SpRole} {i : Nat} (owns : pairing.discipline.Owns role i)
include owns

theorem modify_pairing {f : SpData → SpData} (same : ∀ s, (f s).workerThread = s.workerThread) :
    Keeping pairing role (modify f) i fun _ => i :=
  fun s _ => ⟨owns, owns, ⟨same s, trivial⟩, fun _ => trivial, rfl, rfl, fun _ => trivial⟩

theorem read_pairing : Keeping pairing role read i fun _ => i :=
  fun _ _ => ⟨owns, rfl, rfl, fun _ => trivial⟩

theorem closeSockets_pairing : Keeping pairing role closeSockets i fun _ => i := by
  have close (which : SpSocket) (fd : Option Nat) : Keeping pairing role (do
      closeSpSocket fd
      modify (·.setFd which none)) i fun _ => i :=
    (modify_pairing owns (SpData.closesocket_workerThread fd)).bind fun _ =>
      modify_pairing owns (SpData.setFd_workerThread which none)
  have main : Keeping pairing role (do
      let s ← read
      if s.sock = none then do
        closeSpSocket s.sock
        modify (·.setFd .sock none)) i fun _ => i := by
    refine (read_pairing owns).bind fun s => ?_
    split
    · exact close .sock s.sock
    · exact .ret rfl
  refine (read_pairing owns).bind fun s => ?_
  dsimp only
  split
  · exact (modify_pairing owns (SpData.closesocket_workerThread s.nsSock)).bind fun _ =>
      (modify_pairing owns (SpData.setFd_workerThread .nsSock none)).bind fun _ => main
  · exact main

end Closing

section Calls

variable {role : SpRole}

theorem closeEx_pairing (spData : Bool) : RunKeeps pairing role (.closeEx spData) := by
  rintro d s ⟨level, kept⟩
  have closes : Keeping pairing role (ipxCloseEx spData) d fun _ => d + 0 :=
    getSpData_keeping.bind fun _ => (closeSockets_pairing (.inl (Nat.succ_pos d))).bind
      fun _ => .release_ret
  exact closes.andThen kept fun _ _ kept' =>
    returned_keeps pairing_sound (.closeEx spData) trivial level kept' Iff.rfl

/-- `IPX_ShutdownEx` deletes the lock when it does not hold it; a worker does not get there. -/
theorem shutdownEx_pairing (shared : role ≠ .last) (env : SpShutdownEnv) :
    RunKeeps pairing role (.shutdownEx env) := by
  rintro d s ⟨level, kept⟩
  obtain rfl : d = 0 := level
  unfold SpCall.run
  rw [keeps_bind]
  refine getSpData_keeping.andThen kept fun _ _ kept' =>
    (modify_pairing (.inl Nat.one_pos) fun _ => rfl).andThen kept' fun _ _ kept' =>
      Keeping.release.andThen kept' fun _ _ _ => ?_
  rw [keeps_bind, keeps_await]
  refine ⟨⟨trivial, shared⟩, fun resumed s₀ _ => ?_⟩
  -- no longer the worker, and not one before
  refine (closeSockets_pairing (.inr rfl)).andThen nofun fun _ _ kept' => ?_
  refine ⟨⟨rfl, rfl⟩, fun _ _ _ => ?_⟩
  exact returned_keeps pairing_sound (.shutdownEx env) trivial rfl (fun _ => trivial)
    (iff_of_false nofun resumed.2)

theorem run_pairing (shared : role ≠ .last) (call : SpCall) : RunKeeps pairing role call := by
  by_cases closes : call.closes
  · cases call with
    | closeEx spData => exact closeEx_pairing spData
    | shutdownEx env => exact shutdownEx_pairing shared env
    | _ => cases closes
  · exact run_keeps pairing_sound shared (Bool.eq_false_iff.mpr closes) trivial

theorem pairing_begins (act : SpAct) : pairing.Begins act := by
  have callback : SpRole.callback ≠ .last := nofun
  have worker : SpRole.worker ≠ .last := nofun
  cases act with
  | call t call => exact thread_starts (run_pairing callback call)
  | step t => trivial
  | pass t env =>
      refine workerPass_starts pairing_sound (fun call _ => run_pairing worker call) ?_
      rintro d s level - -
      obtain rfl : d = 0 := level
      rfl

end Calls

/-! ## Runs -/

/-- What the step leaves without the lock: the callback that returns, the worker that ends, and
the critical section that is deleted. -/
structure SpMove.Released (m : SpMove) : Prop where
  returns : ∀ t call, m.Operates t (.returned call) → depthOf t m.before.lock = 0
  ends : ∀ t, m.Leaves t ∨ m.Kills t → depthOf t m.before.lock = 0
  deletes : ∀ t, m.Operates t .deleteLock → m.before.lock.owner = none

/-- The step is not the return of a `SP_Reply` with a `NULL` header, and not the end of a worker
that has left its loop or is terminated with the lock held. -/
structure SpMove.Paired (m : SpMove) : Prop where
  replies : ∀ t call, m.Operates t (.returned call) → call.nullReply = false
  stays : ∀ t, ¬ m.Leaves t
  spares : ∀ t, m.Kills t → depthOf t m.before.lock = 0

theorem SpInv.released_iff {m : SpMove} (inv : SpInv pairing m.before) : m.Released ↔ m.Paired := by
  have operates {t : Nat} {op : SpOp} (operates : m.Operates t op) : ∃ role,
      (role = .last → ∀ t', t' ≠ t → m.before.threads t' = none) ∧
        ∃ data, pairing.discipline.admits role op (depthOf t m.before.lock) data := by
    obtain ⟨-, next, running⟩ := operates
    obtain ⟨role, thread⟩ := inv.threads t _ running
    obtain ⟨data, -, admitted, -⟩ := thread.keeps.enter
    exact ⟨role, thread.last, data, admitted⟩
  refine ⟨fun released => ⟨fun t call returns => ?_, fun t leaves => ?_, fun t kills => ?_⟩,
    fun paired => ⟨fun t call returns => ?_, fun t ends => ?_, fun t deletes => ?_⟩⟩
  · obtain ⟨role, -, data, depth, -⟩ := operates returns
    have levels : depthOf t m.before.lock = call.leaves := depth
    rw [released.returns t call returns, SpCall.leaves] at levels
    cases null : call.nullReply with
    | false => rfl
    | true =>
        rw [null] at levels
        cases levels
  · obtain ⟨role, -, -, held⟩ := inv.post leaves.2
    have levels : depthOf t m.before.lock = 1 := held
    cases (released.ends t (.inl leaves)).symm.trans levels
  · exact released.ends t (.inr kills)
  · obtain ⟨role, -, data, depth, -⟩ := operates returns
    have levels : depthOf t m.before.lock = call.leaves := depth
    rwa [SpCall.leaves, paired.replies t call returns] at levels
  · exact ends.elim (fun leaves => absurd leaves (paired.stays t)) (paired.spares t)
  · obtain ⟨role, last, data, free, isLast⟩ := operates deletes
    rcases owner : m.before.lock.owner with _ | ⟨t', d⟩
    · rfl
    · exfalso
      have pos := inv.counted t' d owner
      rcases eq_or_ne t' t with rfl | other
      · have none' : depthOf t' m.before.lock = 0 := free
        rw [depthOf_self owner] at none'
        exact absurd none' (Nat.ne_of_gt pos)
      · have none' : d = 0 := (inv.holder t' d owner (last isLast t' other)).1
        exact absurd none' (Nat.ne_of_gt pos)

theorem SpInv.paired_step {m : SpMove} (inv : SpInv pairing m.before)
    (enabled : spStep m.input m.before = some m.after) (paired : m.Paired) :
    SpInv pairing m.after := by
  refine inv.step enabled workerStart_starts (pairing_begins m.input) (fun t op operates => ?_)
    paired.stays paired.spares
  cases op with
  | returned call => exact paired.replies t call operates
  | _ => trivial

/-- In a run every callback returns and every worker ends without the lock, and the lock is free
when it is deleted, if and only if no `SP_Reply` without a header returns, no worker leaves
its loop, and none is terminated while it holds the lock. -/
theorem spMoves_released_iff (nsAddr : SockaddrIpx) (nsId : UInt32) (acts : List SpAct) :
    (∀ m ∈ spMoves nsAddr nsId acts, m.Released) ↔ ∀ m ∈ spMoves nsAddr nsId acts, m.Paired := by
  have start : SpInv pairing (.init nsAddr nsId) := .init trivial trivial
  constructor
  · intro released m member
    refine (moves_induct (I := SpInv pairing) (Q := SpMove.Paired) start released
      (fun m inv enabled released => ?_) m member).2.2
    have paired := inv.released_iff.mp released
    exact ⟨inv.paired_step enabled paired, paired⟩
  · intro paired m member
    refine (moves_induct (I := SpInv pairing) (Q := SpMove.Released) start paired
      (fun m inv enabled paired => ?_) m member).2.2
    exact ⟨inv.paired_step enabled paired, inv.released_iff.mpr paired⟩

/-- `SP_Reply` without a header is called, and returns. -/
def replyRun : List SpAct :=
  .call 1 (.reply 0 none [] ⟨true, .error DPERR_GENERIC, true⟩) :: List.replicate 4 (.step 1)

/-- `SP_Open` makes a worker, which ends when `SP_ShutdownEx` has cleared `running`. -/
def shutdownRun : List SpAct :=
  .call 1 (.open true none ⟨true, some (2, ⟨true, true⟩), ⟨none, none, false, false⟩⟩) ::
    List.replicate 7 (.step 1) ++ List.replicate 2 (.step 2) ++
    .call 1 (.shutdownEx ⟨true, false⟩) :: List.replicate 4 (.step 1) ++
    .pass 2 ⟨true, ⟨true, .failed 0⟩, ⟨true, .failed 0⟩⟩ :: List.replicate 3 (.step 2)

/-- The callback returns with the lock, and the worker ends with it. -/
theorem unpaired_locked : (¬ ∀ m ∈ spMoves anyIpxAddr 0 replyRun, m.Released) ∧
    ¬ ∀ m ∈ spMoves anyIpxAddr 0 shutdownRun, m.Released := by
  constructor
  · intro released
    have last := released _ (List.mem_of_getElem? (i := 4) rfl)
    cases last.returns 1 _ ⟨rfl, _, rfl⟩
  · intro released
    have last := released _ (List.mem_of_getElem? (i := 18) rfl)
    cases last.ends 2 (.inl ⟨rfl, rfl⟩)

end IpxWrapper
