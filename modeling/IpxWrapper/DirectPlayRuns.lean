import IpxWrapper.Base.Run
import IpxWrapper.DirectPlay

/-!
# The provider and its worker (`directplay.c`)

DirectPlay calls the callbacks one after the other, from any of its threads, until
`ShutdownEx` has deleted the lock. The worker runs alongside; `HandleMessage` calls callbacks
on its thread too. Each thread's step is a step of the system, so these may come in any order.

What a rule says of one thread at a time (`SpRules`) holds in every state (`SpInv.step`).
`worker_thread` is the worker that runs, if any does, and after the wait for it in
`ShutdownEx` there is no other thread.
-/

namespace IpxWrapper

open Base LockProg

/-! ## Steps -/

structure SpSystem where
  lock : Shared Nat SpData
  /-- The thread on which DirectPlay has called a callback that has not returned. -/
  app : Option Nat
  /-- What is left of the program of each thread. -/
  threads : Nat → Option (SpProg SpEnd)
  deleted : Bool

/-- `SPInit` has returned. -/
def SpSystem.init (nsAddr : SockaddrIpx) (nsId : UInt32) : SpSystem :=
  ⟨⟨none, .init nsAddr nsId⟩, none, fun _ => none, false⟩

inductive SpAct where
  /-- DirectPlay calls a callback on thread `t`. -/
  | call (t : Nat) (call : SpCall)
  /-- A step of thread `t`. -/
  | step (t : Nat)
  /-- The wait of the worker for its event is over. -/
  | pass (t : Nat) (env : WorkerPassEnv)

def SpCall.thread (call : SpCall) : SpProg SpEnd := do
  let r ← call.run
  pure (.returned r)

/-- The program of thread `t` goes on. -/
def SpSystem.setThread (s : SpSystem) (t : Nat) (p : Option (SpProg SpEnd)) : SpSystem :=
  { s with threads := Function.update s.threads t p }

/-- The system, or DirectPlay, does what thread `t` asks; `none` if it does not do so yet. A
worker that terminates itself does not go on. -/
def SpSystem.operate (t : Nat) (op : SpOp) (s : SpSystem) : Option SpSystem :=
  let after := { s with lock := { s.lock with data := op.effect s.lock.data } }
  match op with
  | .createThread worker start =>
      if (s.threads worker).isNone then some (after.setThread worker (some (workerStart start)))
      else none
  | .stopWorker timesOut =>
      match s.lock.data.workerThread with
      | none => some after
      | some worker =>
          if worker = t then
            if timesOut then some (s.setThread t none) else none
          else if timesOut || (s.threads worker).isNone then
            some (after.setThread worker none)
          else
            none
  | .deleteLock => some { after with deleted := true }
  | _ => some after

/-- One step; `none` if it cannot happen in `s`. A thread keeps its number while there is a
handle of it. -/
def spStep (act : SpAct) (s : SpSystem) : Option SpSystem :=
  match act with
  | .call t call =>
      if s.app.isNone && (s.threads t).isNone && s.lock.data.workerThread != some t && !s.deleted then
        some ({ s with app := some t }.setThread t (some call.thread))
      else
        none
  | .pass t env =>
      match s.threads t with
      | some (.ret .again) => some (s.setThread t (some (workerPass env)))
      | _ => none
  | .step t =>
      match s.threads t with
      | none => none
      | some (.ret (.returned _)) => some ({ s with app := none }.setThread t none)
      | some (.ret .left) => some (s.setThread t none)
      | some (.enter op next) => (s.setThread t (some next)).operate t op
      | some p =>
          (p.advance t s.lock).map fun after =>
            { s with lock := after.2 }.setThread t (some after.1)

abbrev SpMove := Move SpAct SpSystem

/-- The steps of a run from `SPInit` on. -/
def spMoves (nsAddr : SockaddrIpx) (nsId : UInt32) (acts : List SpAct) : List SpMove :=
  moves spStep acts (.init nsAddr nsId)

/-! ## What a step does -/

/-- Thread `t` comes to the operation. -/
def SpMove.Operates (m : SpMove) (t : Nat) (op : SpOp) : Prop :=
  m.input = .step t ∧ ∃ next, m.before.threads t = some (.enter op next)

/-- The worker `t` has left its loop, and ends. -/
def SpMove.Leaves (m : SpMove) (t : Nat) : Prop :=
  m.input = .step t ∧ m.before.threads t = some (.ret .left)

/-- The worker `t` is terminated. -/
def SpMove.Kills (m : SpMove) (t : Nat) : Prop :=
  (∃ t', m.Operates t' (.stopWorker true)) ∧ m.before.lock.data.workerThread = some t ∧
    (m.before.threads t).isSome

/-! ## Rules for each thread -/

/-- Whose program it is. -/
inductive SpRole where
  /-- A callback of the application. -/
  | callback
  /-- The same, once there is no worker left. -/
  | last
  | worker
deriving DecidableEq

/-- What is asked of each thread. -/
structure SpRules where
  /-- The data while the lock is free. -/
  inv : SpData → Prop
  /-- The data at any time. -/
  good : SpData → Prop
  admits : SpOp → Nat → Prop
  resumes : SpOp → Prop
  /-- How often a thread may hold the lock between two callbacks. -/
  level : Nat → Prop
  /-- How often a worker that leaves its loop may hold it. -/
  leaves : Nat → Prop
  level_zero : level 0
  inv_effect : ∀ (op : SpOp) s, inv s → inv (op.effect s)
  good_effect : ∀ (op : SpOp) s, good s → good (op.effect s)

namespace SpRules

def discipline (R : SpRules) : Discipline SpData SpOp SpRole where
  inv := R.inv
  writes s s' := s'.workerThread = s.workerThread ∧ R.good s'
  admits role op d s := R.admits op d ∧
    match op with
    | .createThread _ _ => role ≠ .last ∧ 0 < d ∧ s.workerThread = none
    | .stopWorker _ => role ≠ .last
    | .deleteLock => role = .last
    | _ => True
  resumes role op := R.resumes op ∧
    match op with
    | .stopWorker _ => role ≠ .worker
    | _ => True
  next role op :=
    match op with
    | .stopWorker _ => .last
    | _ => role
  effect := SpOp.effect
  alone role := role = .last

/-- What holds between two callbacks of a thread, which holds the lock `d` times. -/
def Between (R : SpRules) (d : Nat) (s : SpData) : Prop :=
  R.level d ∧ (0 < d → R.inv s)

/-- What holds when a thread's program ends. -/
def post (R : SpRules) : SpEnd → SpRole → Nat → SpData → Prop
  | .left, role, d, _ => role = .worker ∧ R.leaves d
  | .again, role, d, s => role = .worker ∧ R.Between d s
  | .returned _, role, d, s => role ≠ .worker ∧ R.Between d s

/-- Between two callbacks, the program of a thread begins. -/
def Starts (R : SpRules) (role : SpRole) (p : SpProg SpEnd) : Prop :=
  ∀ d s, R.Between d s → p.Keeps R.discipline role d s R.post

end SpRules

/-- The thread with the number `t` is a callback of the application, or the worker. -/
structure SpThread (R : SpRules) (s : SpSystem) (t : Nat) (p : SpProg SpEnd) (role : SpRole) :
    Prop where
  app : s.app = some t ↔ role ≠ .worker
  last : role = .last → ∀ t', t' ≠ t → s.threads t' = none
  keeps : Owned R.discipline R.post t p role s.lock

structure SpInv (R : SpRules) (s : SpSystem) : Prop where
  counted : Counted s.lock
  rest : AtRest R.discipline s.lock
  good : R.good s.lock.data
  /-- Who holds the lock runs, or is between two callbacks. -/
  holder : ∀ t d, s.lock.owner = some (t, d) → s.threads t = none → R.Between d s.lock.data
  app : ∀ t, s.app = some t → s.threads t ≠ none ∧ s.lock.data.workerThread ≠ some t
  /-- There is one worker, and `worker_thread` is its handle. -/
  worker : ∀ t, s.threads t ≠ none → s.app ≠ some t → s.lock.data.workerThread = some t
  threads : ∀ t p, s.threads t = some p → ∃ role, SpThread R s t p role

section Step

variable {R : SpRules} {s s' : SpSystem} {t t' : Nat} {p p' : SpProg SpEnd} {role : SpRole}

@[simp] theorem setThread_self (s : SpSystem) (t : Nat) (p : Option (SpProg SpEnd)) :
    (s.setThread t p).threads t = p :=
  Function.update_self ..

theorem setThread_other (other : t' ≠ t) (p : Option (SpProg SpEnd)) :
    (s.setThread t p).threads t' = s.threads t' :=
  Function.update_of_ne other ..

/-- A thread that goes on is there as it was. -/
theorem setThread_running (running : s.threads t = some p) (p' : SpProg SpEnd) (t' : Nat) :
    (s.setThread t (some p')).threads t' ≠ none ↔ s.threads t' ≠ none := by
  rcases eq_or_ne t' t with rfl | other
  · rw [setThread_self, running]
    exact iff_of_true nofun nofun
  · rw [setThread_other other]

theorem SpThread.not_last {t' : Nat} {p' : SpProg SpEnd} (thread : SpThread R s t p role)
    (running : s.threads t' = some p') (other : t' ≠ t) : role ≠ .last := by
  intro isLast
  cases running.symm.trans (thread.last isLast t' other)

/-- A step of a thread with the lock or with the data. -/
theorem SpInv.advance (inv : SpInv R s) (running : s.threads t = some p) {lock : Shared Nat SpData}
    (step : p.advance t s.lock = some (p', lock)) :
    SpInv R ({ s with lock := lock }.setThread t (some p')) := by
  obtain ⟨role, thread⟩ := inv.threads t p running
  obtain ⟨owned, stepped, counted, rest⟩ := thread.keeps.advance inv.counted inv.rest step
  have same : lock.data.workerThread = s.lock.data.workerThread :=
    stepped.data.elim (congrArg SpData.workerThread) fun written => written.2.1.1
  have still (t' : Nat) :
      ({ s with lock := lock }.setThread t (some p')).threads t' ≠ none ↔ s.threads t' ≠ none :=
    setThread_running (s := { s with lock := lock }) running p' t'
  refine ⟨counted, rest, ?good, ?holder, ?app, ?worker, ?threads⟩
  case good =>
    rcases stepped.data with unchanged | written
    · exact unchanged.symm ▸ inv.good
    · exact written.2.1.2
  case holder =>
    intro t' d owner gone
    have gone' : s.threads t' = none := by
      by_contra there
      exact (still t').mpr there gone
    have other : t' ≠ t := by
      rintro rfl
      cases running.symm.trans gone'
    have before := (stepped.owner t' d owner).resolve_left other
    obtain ⟨level, kept⟩ := inv.holder t' d before gone'
    rcases stepped.data with unchanged | ⟨-, -, restored⟩
    · exact ⟨level, fun held => unchanged.symm ▸ kept held⟩
    · exact ⟨level, fun _ => restored (depthOf_other before other)⟩
  case app =>
    intro t' app
    rw [still]
    exact ⟨(inv.app t' app).1, same.symm ▸ (inv.app t' app).2⟩
  case worker =>
    intro t' there other
    rw [still] at there
    exact same.trans (inv.worker t' there other)
  case threads =>
    intro t' p'' running'
    rcases eq_or_ne t' t with rfl | other
    · rw [setThread_self] at running'
      obtain rfl := Option.some.inj running'
      refine ⟨role, thread.app, fun isLast u ne => ?_, owned⟩
      rw [setThread_other ne]
      exact thread.last isLast u ne
    · rw [setThread_other other] at running'
      obtain ⟨role', thread'⟩ := inv.threads t' p'' running'
      have shared : role' ≠ .last := thread'.not_last running other.symm
      exact ⟨role', thread'.app, fun isLast => absurd isLast shared,
        thread'.keeps.of_other stepped other shared (thread.not_last running' other)⟩

/-- A thread goes on with another program, in the same role. -/
theorem SpInv.setThread (inv : SpInv R s) (running : s.threads t = some p)
    (thread : SpThread R s t p role) (owned : Owned R.discipline R.post t p' role s.lock) :
    SpInv R (s.setThread t (some p')) := by
  refine ⟨inv.counted, inv.rest, inv.good, fun t' d owner gone => ?_, fun t' app => ?_,
    fun t' there other => ?_, fun t' p'' running' => ?_⟩
  · refine inv.holder t' d owner ?_
    by_contra there
    exact (setThread_running running p' t').mpr there gone
  · rw [setThread_running running]
    exact inv.app t' app
  · rw [setThread_running running] at there
    exact inv.worker t' there other
  · rcases eq_or_ne t' t with rfl | other
    · rw [setThread_self] at running'
      obtain rfl := Option.some.inj running'
      refine ⟨role, thread.app, fun isLast u ne => ?_, owned⟩
      rw [setThread_other ne]
      exact thread.last isLast u ne
    · rw [setThread_other other] at running'
      obtain ⟨role', thread'⟩ := inv.threads t' p'' running'
      exact ⟨role', thread'.app,
        fun isLast => absurd isLast (thread'.not_last running other.symm), thread'.keeps⟩

/-- Who does not run is between two callbacks. -/
theorem SpInv.between (inv : SpInv R s) (gone : s.threads t = none) :
    R.Between (depthOf t s.lock) s.lock.data := by
  rcases Nat.eq_zero_or_pos (depthOf t s.lock) with free | held
  · rw [free]
    exact ⟨R.level_zero, nofun⟩
  · exact inv.holder t _ (owner_of_depthOf held) gone

theorem owned_start {lock : Shared Nat SpData} (between : R.Between (depthOf t lock) lock.data)
    (starts : R.Starts role p) : Owned R.discipline R.post t p role lock :=
  ⟨lock.data, fun _ => rfl, starts _ _ between⟩

/-- The others, where thread `t` is not the worker: it is the application's, and there is at
most the worker beside it. -/
theorem SpInv.other_worker (inv : SpInv R s) (app : s.app = some t) (other : t' ≠ t)
    (there : s.threads t' ≠ none) : s.lock.data.workerThread = some t' :=
  inv.worker t' there fun app' => other (Option.some.inj (app'.symm.trans app))

/-- `CreateThread`: there was no worker. -/
theorem SpInv.createThread (inv : SpInv R s) {worker : Nat} {start : WorkerStart}
    (running : s.threads t = some (.enter (.createThread worker start) p))
    (fresh : (s.setThread t (some p)).threads worker = none)
    (starts : R.Starts .worker (workerStart start))
    (resumes : R.resumes (.createThread worker start)) :
    SpInv R ({ s with lock := { s.lock with data := { s.lock.data with
      workerThread := some worker } } }.setThread t (some p) |>.setThread worker
        (some (workerStart start))) := by
  obtain ⟨role, thread⟩ := inv.threads t _ running
  obtain ⟨known, current, admitted, resume⟩ := thread.keeps.enter
  obtain ⟨shared, inside, none'⟩ := admitted.2
  rw [current (.inl inside)] at none'
  have app : s.app = some t := by
    by_contra other
    have handle := inv.worker t (by rw [running]; nofun) other
    cases none'.symm.trans handle
  have single (t' : Nat) (other : t' ≠ t) : s.threads t' = none := by
    by_contra there
    cases none'.symm.trans (inv.other_worker app other there)
  have new : worker ≠ t := by
    rintro rfl
    rw [setThread_self] at fresh
    cases fresh
  have owner := owner_of_depthOf inside
  refine ⟨fun t' d held => inv.counted t' d held, fun free => ?_,
    R.good_effect (.createThread worker start) _ inv.good, fun t' d held gone => ?_,
    fun t' app' => ?_, fun t' there other => ?_, fun t' p' running' => ?_⟩
  · cases owner.symm.trans free
  · obtain ⟨rfl, rfl⟩ := Prod.mk.inj (Option.some.inj (owner.symm.trans held))
    rw [setThread_other new.symm, setThread_self] at gone
    cases gone
  · obtain rfl := Option.some.inj (app.symm.trans app')
    rw [setThread_other new.symm, setThread_self]
    exact ⟨nofun, fun same => new (Option.some.inj same)⟩
  · rcases eq_or_ne t' worker with rfl | old
    · rfl
    · rw [setThread_other old] at there
      rcases eq_or_ne t' t with rfl | more
      · exact absurd app other
      · rw [setThread_other more] at there
        exact absurd (single t' more) there
  · rcases eq_or_ne t' worker with rfl | old
    · rw [setThread_self] at running'
      obtain rfl := Option.some.inj running'
      refine ⟨.worker, iff_of_false (fun app' => new ?_) (not_not_intro rfl), nofun,
        owned_start ?_ starts⟩
      · exact Option.some.inj (app'.symm.trans app)
      · have free : depthOf t' s.lock = 0 := depthOf_other owner new.symm
        change R.Between (depthOf t' s.lock) _
        rw [free]
        exact ⟨R.level_zero, nofun⟩
    · rw [setThread_other old] at running'
      rcases eq_or_ne t' t with rfl | more
      · rw [setThread_self] at running'
        obtain rfl := Option.some.inj running'
        exact ⟨role, thread.app, fun isLast => absurd isLast shared,
          resume ⟨resumes, trivial⟩ _ rfl rfl⟩
      · rw [setThread_other more] at running'
        cases (single t' more).symm.trans running'

/-- A thread is gone, and with it its callback if it is one. -/
theorem SpInv.remove (inv : SpInv R s) (between : R.Between (depthOf t s.lock) s.lock.data)
    (app : Option Nat)
    (others : ∀ t', t' ≠ t → (app = some t' ↔ s.app = some t')) (gone : app ≠ some t) :
    SpInv R ({ s with app := app }.setThread t none) := by
  have still {t' : Nat} (other : t' ≠ t) :
      ({ s with app := app }.setThread t none).threads t' = s.threads t' := setThread_other other _
  refine ⟨inv.counted, inv.rest, inv.good, fun t' d owner gone => ?_, fun t' app' => ?_,
    fun t' there other => ?_, fun t' p' running => ?_⟩
  · rcases eq_or_ne t' t with rfl | other
    · have held : depthOf t' s.lock = d := depthOf_self owner
      rwa [held] at between
    · rw [still other] at gone
      exact inv.holder t' d owner gone
  · have other : t' ≠ t := by
      rintro rfl
      exact gone app'
    rw [still other]
    exact inv.app t' ((others t' other).mp app')
  · have old : t' ≠ t := by
      rintro rfl
      rw [setThread_self] at there
      exact there rfl
    rw [still old] at there
    exact inv.worker t' there fun app' => other ((others t' old).mpr app')
  · have old : t' ≠ t := by
      rintro rfl
      rw [setThread_self] at running
      cases running
    rw [still old] at running
    obtain ⟨role, thread⟩ := inv.threads t' p' running
    refine ⟨role, (others t' old).trans thread.app, fun isLast u ne => ?_, thread.keeps⟩
    rcases eq_or_ne u t with rfl | other
    · exact setThread_self _ u none
    · rw [still other]
      exact thread.last isLast u ne

/-- `ShutdownEx` has no worker beside it any more. -/
theorem SpInv.alone (inv : SpInv R s) {timesOut : Bool}
    (running : s.threads t = some (.enter (.stopWorker timesOut) p)) (app : s.app = some t)
    (resumes : R.resumes (.stopWorker timesOut))
    (holder : ∀ t' d, s.lock.owner = some (t', d) → t' ≠ t → R.Between d s.lock.data)
    (lock : s'.lock = { s.lock with data := { s.lock.data with workerThread := none } })
    (same : s'.app = s.app) (self : s'.threads t = some p)
    (others : ∀ t', t' ≠ t → s'.threads t' = none) : SpInv R s' := by
  obtain ⟨role, thread⟩ := inv.threads t _ running
  obtain ⟨known, current, admitted, resume⟩ := thread.keeps.enter
  have owner : s'.lock.owner = s.lock.owner := by rw [lock]
  have only {t' : Nat} (there : s'.threads t' ≠ none) : t' = t := by
    by_contra other
    exact there (others t' other)
  refine ⟨fun t' d held => inv.counted t' d (owner ▸ held), fun free => ?_, ?_,
    fun t' d held gone => ?_, fun t' app' => ?_, fun t' there other => ?_,
    fun t' p' running' => ?_⟩
  · rw [lock]
    exact R.inv_effect (.stopWorker timesOut) _ (inv.rest (owner ▸ free))
  · rw [lock]
    exact R.good_effect (.stopWorker timesOut) _ inv.good
  · have other : t' ≠ t := by
      rintro rfl
      cases self.symm.trans gone
    obtain ⟨level, kept⟩ := holder t' d (owner ▸ held) other
    refine ⟨level, fun held => ?_⟩
    rw [lock]
    exact R.inv_effect (.stopWorker timesOut) _ (kept held)
  · obtain rfl := Option.some.inj (app.symm.trans (same.symm.trans app'))
    rw [self, lock]
    exact ⟨nofun, nofun⟩
  · rw [only there] at other
    exact absurd (same.trans app) other
  · have here : s'.threads t' ≠ none := by
      rw [running']
      nofun
    obtain rfl := only here
    obtain rfl := Option.some.inj (self.symm.trans running')
    have callback : role ≠ .worker := thread.app.mp app
    refine ⟨.last, iff_of_true (same.trans app) nofun, fun _ => others, ?_⟩
    exact resume ⟨resumes, callback⟩ s'.lock owner (congrArg Shared.data lock)

/-- The wait for the worker. -/
theorem SpInv.stopWorker (inv : SpInv R s) {timesOut : Bool}
    (running : s.threads t = some (.enter (.stopWorker timesOut) p))
    (resumes : R.resumes (.stopWorker timesOut))
    (spares : ∀ worker, s.lock.data.workerThread = some worker → timesOut = true →
      s.threads worker ≠ none → depthOf worker s.lock = 0)
    (stopped : (s.setThread t (some p)).operate t (.stopWorker timesOut) = some s') : SpInv R s' := by
  have here : s.threads t ≠ none := by
    rw [running]
    nofun
  unfold SpSystem.operate at stopped
  dsimp only at stopped
  split at stopped
  · -- there is no worker
    rename_i none'
    change s.lock.data.workerThread = none at none'
    have app : s.app = some t := by
      by_contra other
      cases none'.symm.trans (inv.worker t here other)
    have single (t' : Nat) (other : t' ≠ t) : s.threads t' = none := by
      by_contra there
      cases none'.symm.trans (inv.other_worker app other there)
    obtain rfl := Option.some.inj stopped
    refine inv.alone running app resumes (fun t' d owner other => ?_) rfl rfl
      (setThread_self s t _) fun t' other => ?_
    · exact inv.holder t' d owner (single t' other)
    · exact (setThread_other other _).trans (single t' other)
  · rename_i worker handle
    change s.lock.data.workerThread = some worker at handle
    split at stopped
    · -- the worker has called it itself
      rename_i self
      subst self
      split at stopped
      · rename_i timedOut
        obtain rfl := Option.some.inj stopped
        have gone : s.app ≠ some worker := fun app => (inv.app worker app).2 handle
        have free := spares worker handle timedOut here
        have between : R.Between (depthOf worker s.lock) s.lock.data := by
          rw [free]
          exact ⟨R.level_zero, nofun⟩
        have removed := inv.remove between s.app (fun _ _ => Iff.rfl) gone
        unfold SpSystem.setThread at removed ⊢
        rwa [Function.update_idem]
      · cases stopped
    · rename_i new
      have app : s.app = some t := by
        by_contra other
        exact new (Option.some.inj (handle.symm.trans (inv.worker t here other)))
      have others (t' : Nat) (other : t' ≠ t) (more : t' ≠ worker) : s.threads t' = none := by
        by_contra there
        have is_worker := inv.other_worker app other there
        exact more (Option.some.inj (is_worker.symm.trans handle))
      split at stopped
      · rename_i ended
        obtain rfl := Option.some.inj stopped
        refine inv.alone running app resumes (fun t' d owner other => ?_) rfl rfl ?_
          fun t' other => ?_
        · refine inv.holder t' d owner ?_
          by_contra there
          obtain rfl : t' = worker := by
            by_contra more
            exact there (others t' other more)
          rw [setThread_other other, Bool.or_eq_true, Option.isNone_iff_eq_none] at ended
          have free := spares t' handle (ended.resolve_right there) there
          rw [depthOf_self owner] at free
          exact absurd free (Nat.ne_of_gt (inv.counted t' d owner))
        · rw [setThread_other (Ne.symm new)]
          exact setThread_self s t _
        · rcases eq_or_ne t' worker with rfl | more
          · exact setThread_self _ t' none
          · rw [setThread_other more]
            exact (setThread_other other _).trans (others t' other more)
      · cases stopped

/-- A thread does what needs nothing of the system but an answer. -/
theorem SpInv.operate (inv : SpInv R s) {op : SpOp} (running : s.threads t = some (.enter op p))
    (starts : ∀ env, R.Starts .worker (workerStart env)) (resumes : R.resumes op)
    (spares : ∀ worker, s.lock.data.workerThread = some worker → op = .stopWorker true →
      s.threads worker ≠ none → depthOf worker s.lock = 0)
    (done : (s.setThread t (some p)).operate t op = some s') : SpInv R s' := by
  have plain (same : ∀ data, op.effect data = data) (role : SpRole) (thread : SpThread R s t (.enter op p) role)
      (next : R.discipline.next role op = role) (goes : R.discipline.resumes role op) :
      SpInv R (s.setThread t (some p)) := by
    obtain ⟨known, current, admitted, resume⟩ := thread.keeps.enter
    have owned := resume goes s.lock rfl (same s.lock.data).symm
    rw [next] at owned
    exact inv.setThread running thread owned
  obtain ⟨role, thread⟩ := inv.threads t _ running
  cases op with
  | createThread worker start =>
      unfold SpSystem.operate at done
      dsimp only at done
      split at done
      · rename_i fresh
        obtain rfl := Option.some.inj done
        exact inv.createThread running (Option.isNone_iff_eq_none.mp fresh) (starts start) resumes
      · cases done
  | stopWorker timesOut =>
      refine inv.stopWorker running resumes (fun worker handle timedOut => ?_) done
      exact spares worker handle (by rw [timedOut])
  | deleteLock =>
      obtain rfl := Option.some.inj done
      have kept := plain (fun _ => rfl) role thread rfl ⟨resumes, trivial⟩
      refine ⟨kept.counted, kept.rest, kept.good, kept.holder, kept.app, kept.worker, ?_⟩
      intro t' p' running'
      obtain ⟨role', thread'⟩ := kept.threads t' p' running'
      exact ⟨role', thread'.app, thread'.last, thread'.keeps⟩
  | _ =>
      obtain rfl := Option.some.inj done
      exact plain (fun _ => rfl) role thread rfl ⟨resumes, trivial⟩

theorem SpInv.init {nsAddr : SockaddrIpx} {nsId : UInt32}
    (inv : R.inv (.init nsAddr nsId)) (good : R.good (.init nsAddr nsId)) :
    SpInv R (.init nsAddr nsId) :=
  ⟨nofun, fun _ => inv, good, nofun, nofun, fun _ there => absurd rfl there, nofun⟩

/-- DirectPlay calls a callback. -/
theorem SpInv.call (inv : SpInv R s) (idle : s.app = none) (free : s.threads t = none)
    (handle : s.lock.data.workerThread ≠ some t)
    (starts : R.Starts .callback p) :
    SpInv R ({ s with app := some t }.setThread t (some p)) := by
  have still {t' : Nat} (other : t' ≠ t) :
      ({ s with app := some t }.setThread t (some p)).threads t' = s.threads t' :=
    setThread_other other _
  refine ⟨inv.counted, inv.rest, inv.good, fun t' d owner gone => ?_, fun t' app' => ?_,
    fun t' there other => ?_, fun t' p' running => ?_⟩
  · have other : t' ≠ t := by
      rintro rfl
      rw [setThread_self] at gone
      cases gone
    rw [still other] at gone
    exact inv.holder t' d owner gone
  · obtain rfl := Option.some.inj app'
    rw [setThread_self]
    exact ⟨nofun, handle⟩
  · have new : t' ≠ t := by
      rintro rfl
      exact other rfl
    rw [still new] at there
    exact inv.worker t' there (by rw [idle]; nofun)
  · rcases eq_or_ne t' t with rfl | new
    · rw [setThread_self] at running
      obtain rfl := Option.some.inj running
      exact ⟨.callback, iff_of_true rfl nofun, nofun, owned_start (inv.between free) starts⟩
    · rw [still new] at running
      obtain ⟨role, thread⟩ := inv.threads t' p' running
      have worker : role = .worker := by
        by_contra callback
        cases idle.symm.trans (thread.app.mpr callback)
      subst worker
      refine ⟨.worker, iff_of_false (fun app' => new ?_) (not_not_intro rfl), nofun, thread.keeps⟩
      exact (Option.some.inj app').symm

/-- What holds of a thread at the end of its program. -/
theorem SpInv.post (inv : SpInv R s) {e : SpEnd} (ended : s.threads t = some (.ret e)) :
    ∃ role, SpThread R s t (.ret e) role ∧ R.post e role (depthOf t s.lock) s.lock.data := by
  obtain ⟨role, thread⟩ := inv.threads t _ ended
  obtain ⟨data, current, holds⟩ := thread.keeps
  refine ⟨role, thread, ?_⟩
  have known (held : 0 < depthOf t s.lock) : data = s.lock.data := current (.inl held)
  cases e with
  | left => exact holds
  | again => exact ⟨holds.1, holds.2.1, fun held => known held ▸ holds.2.2 held⟩
  | returned r => exact ⟨holds.1, holds.2.1, fun held => known held ▸ holds.2.2 held⟩

/-- The program that a step begins keeps the rules. -/
def SpRules.Begins (R : SpRules) : SpAct → Prop
  | .call _ call => R.Starts .callback call.thread
  | .pass _ env => R.Starts .worker (workerPass env)
  | .step _ => True

/-- Every step keeps what is said of the threads, unless a worker ends with the lock held. -/
theorem SpInv.step {m : SpMove} (inv : SpInv R m.before)
    (enabled : spStep m.input m.before = some m.after)
    (starts : ∀ env, R.Starts .worker (workerStart env))
    (begins : R.Begins m.input) (resumes : ∀ t op, m.Operates t op → R.resumes op)
    (stays : ∀ t, ¬ m.Leaves t) (spares : ∀ t, m.Kills t → depthOf t m.before.lock = 0) :
    SpInv R m.after := by
  obtain ⟨s, act, s'⟩ := m
  dsimp only at inv enabled begins ⊢
  cases act with
  | call t call =>
      unfold spStep at enabled
      dsimp only at enabled
      split at enabled
      · rename_i may
        simp only [Bool.and_eq_true, Option.isNone_iff_eq_none, bne_iff_ne] at may
        obtain rfl := Option.some.inj enabled
        exact inv.call may.1.1.1 may.1.1.2 may.1.2 begins
      · cases enabled
  | pass t env =>
      unfold spStep at enabled
      dsimp only at enabled
      split at enabled
      · rename_i ended
        obtain rfl := Option.some.inj enabled
        obtain ⟨role, thread, rfl, between⟩ := inv.post ended
        exact inv.setThread ended thread (owned_start between begins)
      · cases enabled
  | step t =>
      unfold spStep at enabled
      dsimp only at enabled
      split at enabled
      · cases enabled
      · rename_i r ended
        obtain rfl := Option.some.inj enabled
        obtain ⟨role, thread, callback, between⟩ := inv.post ended
        have app := thread.app.mpr callback
        refine inv.remove between none (fun t' other => iff_of_false nofun fun app' => ?_) nofun
        exact other (Option.some.inj (app'.symm.trans app))
      · rename_i ended
        exact absurd ⟨rfl, ended⟩ (stays t)
      · rename_i op next running
        refine inv.operate running starts (resumes t op ⟨rfl, next, running⟩)
          (fun worker handle stop there => ?_) enabled
        subst stop
        exact spares worker ⟨⟨t, rfl, next, running⟩, handle, Option.isSome_iff_ne_none.mpr there⟩
      · rename_i p _ _ _ running
        obtain ⟨⟨p', lock⟩, step, rfl⟩ := Option.map_eq_some_iff.mp enabled
        exact inv.advance running step

end Step

end IpxWrapper
