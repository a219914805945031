import IpxWrapper.Base.LockThreads
import IpxWrapper.Base.Run
import Mathlib.Logic.Function.Basic
import Mathlib.Logic.Relation

/-!
# Threads that make calls

Each of any number of threads makes one call after another, and all share data
behind a lock. If every function returns with the lock as it found it, then from
every state of every run each call can come to its return by steps of the calls
alone: of its own, and first of the one that holds the lock. It is stopped only
where one of these two has come to `stop`.
-/

namespace IpxWrapper.Base

open LockProg Relation

/-! ## The system -/

/-- The lock with the data, and for each thread the call that it makes, with the rest of
its program. -/
structure Threads (Tid Call σ Op R : Type) where
  lock : Shared Tid σ
  running : Tid → Option (Call × LockProg σ Op R)

/-- No call has been made. -/
def Threads.start {Tid Call σ Op R : Type} (s : σ) : Threads Tid Call σ Op R :=
  ⟨⟨none, s⟩, fun _ => none⟩

inductive ThreadInput (Tid Call : Type) where
  | call (t : Tid) (c : Call)
  /-- The next step of a call. -/
  | step (t : Tid)
  | ret (t : Tid)
deriving DecidableEq

section Steps

variable {Tid Call σ Op R : Type} [DecidableEq Tid]

/-- The thread has come to `p`. -/
def Threads.goOn (s : Threads Tid Call σ Op R) (t : Tid) (c : Call) (p : LockProg σ Op R) :
    Threads Tid Call σ Op R :=
  { s with running := Function.update s.running t (some (c, p)) }

theorem Threads.goOn_self (s : Threads Tid Call σ Op R) (t : Tid) (c : Call)
    (p : LockProg σ Op R) : (s.goOn t c p).running t = some (c, p) :=
  Function.update_self t _ _

theorem Threads.goOn_of_ne (s : Threads Tid Call σ Op R) {t t' : Tid} (other : t' ≠ t) (c : Call)
    (p : LockProg σ Op R) : (s.goOn t c p).running t' = s.running t' :=
  Function.update_of_ne other _ _

/-- A step of the run. Where a thread waits, it may go on at any time. -/
def threadStep (prog : Call → LockProg σ Op R) :
    ThreadInput Tid Call → Threads Tid Call σ Op R → Option (Threads Tid Call σ Op R)
  | .call t c, s =>
      match s.running t with
      | none => some (s.goOn t c (prog c))
      | some _ => none
  | .step t, s =>
      match s.running t with
      | none => none
      | some (c, .enter _ next) => some (s.goOn t c next)
      | some (c, p) =>
          (p.advance t s.lock).map fun after => { s.goOn t c after.1 with lock := after.2 }
  | .ret t, s =>
      match s.running t with
      | some (_, .ret _) => some { s with running := Function.update s.running t none }
      | _ => none

/-- What a step of the run does. -/
inductive ThreadStepped (prog : Call → LockProg σ Op R) (s : Threads Tid Call σ Op R) :
    ThreadInput Tid Call → Threads Tid Call σ Op R → Prop where
  | call {t : Tid} {c : Call} (idle : s.running t = none) :
      ThreadStepped prog s (.call t c) (s.goOn t c (prog c))
  | wait {t : Tid} {c : Call} {op : Op} {next : LockProg σ Op R}
      (running : s.running t = some (c, .enter op next)) :
      ThreadStepped prog s (.step t) (s.goOn t c next)
  | advance {t : Tid} {c : Call} {p p' : LockProg σ Op R} {lock : Shared Tid σ}
      (running : s.running t = some (c, p)) (advances : p.advance t s.lock = some (p', lock)) :
      ThreadStepped prog s (.step t) { s.goOn t c p' with lock := lock }
  | ret {t : Tid} {c : Call} {r : R} (running : s.running t = some (c, .ret r)) :
      ThreadStepped prog s (.ret t) { s with running := Function.update s.running t none }

variable {prog : Call → LockProg σ Op R} {s s' : Threads Tid Call σ Op R}

theorem threadStep_stepped {input : ThreadInput Tid Call}
    (enabled : threadStep prog input s = some s') : ThreadStepped prog s input s' := by
  cases input with
  | call t c =>
      unfold threadStep at enabled
      dsimp only at enabled
      split at enabled
      case h_1 idle =>
        obtain rfl := Option.some.inj enabled
        exact .call idle
      case h_2 => cases enabled
  | step t =>
      unfold threadStep at enabled
      dsimp only at enabled
      split at enabled
      case h_1 => cases enabled
      case h_2 c op next running =>
        obtain rfl := Option.some.inj enabled
        exact .wait running
      case h_3 c p waits running =>
        obtain ⟨⟨p', lock⟩, advances, rfl⟩ := Option.map_eq_some_iff.mp enabled
        exact .advance running advances
  | ret t =>
      unfold threadStep at enabled
      dsimp only at enabled
      split at enabled
      case h_1 c r running =>
        obtain rfl := Option.some.inj enabled
        exact .ret running
      case h_2 => cases enabled

theorem threadStep_of_advance {t : Tid} {c : Call} {p p' : LockProg σ Op R} {lock : Shared Tid σ}
    (running : s.running t = some (c, p)) (advances : p.advance t s.lock = some (p', lock)) :
    threadStep prog (.step t) s = some { s.goOn t c p' with lock := lock } := by
  unfold threadStep
  dsimp only
  rw [running]
  cases p with
  | ret r => cases advances
  | enter op next => cases advances
  | stop => cases advances
  | lock next => exact congrArg (Option.map _) advances
  | unlock next => exact congrArg (Option.map _) advances
  | get next => exact congrArg (Option.map _) advances
  | set s' next => exact congrArg (Option.map _) advances

end Steps

/-! ## Levels of the lock -/

section Levels

variable {Tid σ Op α : Type} [DecidableEq Tid] {admits : Op → Nat → Prop} {j : α → Nat} {t : Tid}
  {p p' : LockProg σ Op α} {m m' : Shared Tid σ}

/-- What a step of a thread does to the lock. -/
structure StepLevels (admits : Op → Nat → Prop) (j : α → Nat) (t : Tid) (p' : LockProg σ Op α)
    (m m' : Shared Tid σ) : Prop where
  leveled : p'.Leveled admits 0 j (depthOf t m')
  others : ∀ t' ≠ t, depthOf t' m' = depthOf t' m
  counted : Counted m'

theorem LockProg.Leveled.advance (leveled : p.Leveled admits 0 j (depthOf t m))
    (counted : Counted m) (advances : p.advance t m = some (p', m')) :
    StepLevels admits j t p' m m' := by
  cases p with
  | lock next =>
      obtain ⟨_, take, same⟩ := Option.map_eq_some_iff.mp advances
      cases same
      have taken := taken_of_take counted take
      refine ⟨?_, fun t' other => ?_, taken.counted⟩
      · rw [taken.depth]
        exact leveled
      · rw [(taken.others t' other).1, (taken.others t' other).2]
  | unlock next =>
      obtain ⟨_, release, same⟩ := Option.map_eq_some_iff.mp advances
      cases same
      have released := released_of_release counted release
      refine ⟨?_, fun t' other => ?_, released.counted⟩
      · rw [released.depth]
        exact leveled.2
      · rw [(released.others t' other).1, (released.others t' other).2]
  | get next =>
      obtain ⟨rfl, rfl⟩ := Prod.mk.inj (Option.some.inj advances)
      exact ⟨leveled m.data, fun _ _ => rfl, counted⟩
  | set s next =>
      obtain ⟨rfl, rfl⟩ := Prod.mk.inj (Option.some.inj advances)
      exact ⟨leveled, fun _ _ => rfl, counted⟩
  | ret a => cases advances
  | enter op next => cases advances
  | stop => cases advances

/-- No other thread holds the lock. -/
def FreeFor (t : Tid) (m : Shared Tid σ) : Prop :=
  ∀ t' ≠ t, depthOf t' m = 0

theorem FreeFor.take (free : FreeFor t m) (counted : Counted m) : ∃ m', m.take t = some m' := by
  apply take_enabled
  intro holder depth owner
  by_contra other
  have none := free holder other
  rw [depthOf_self owner] at none
  exact absurd (counted holder depth owner) (by omega)

theorem exists_holder (held : ¬ FreeFor t m) : ∃ t' ≠ t, 0 < depthOf t' m := by
  unfold FreeFor at held
  push Not at held
  obtain ⟨t', other, depth⟩ := held
  exact ⟨t', other, Nat.pos_of_ne_zero depth⟩

/-- If one thread holds the lock, no other does. -/
theorem freeFor_of_held (held : 0 < depthOf t m) : FreeFor t m :=
  fun _ other => others_of_owner (owner_of_depthOf held) other

end Levels

/-! ## Runs -/

section Runs

variable {Tid Call σ Op R : Type} [DecidableEq Tid] {prog : Call → LockProg σ Op R}
  {s s' : Threads Tid Call σ Op R} {t : Tid} {c : Call} {p : LockProg σ Op R}

/-- Each call releases what its thread holds, and a thread that is in none holds nothing. -/
structure LevelsInv (s : Threads Tid Call σ Op R) : Prop where
  counted : Counted s.lock
  idle : ∀ t, s.running t = none → depthOf t s.lock = 0
  busy : ∀ t c p, s.running t = some (c, p) →
    p.Leveled (fun _ _ => True) 0 (fun _ => 0) (depthOf t s.lock)

/-- The function returns with the lock as it found it. -/
abbrev KeepsLock (p : LockProg σ Op R) : Prop :=
  p.Levels (fun _ _ => True) 0 fun _ => 0

omit [DecidableEq Tid] in
theorem Threads.start_counted (w : σ) : Counted (Threads.start w : Threads Tid Call σ Op R).lock :=
  nofun

theorem LevelsInv.start (w : σ) : LevelsInv (Threads.start w : Threads Tid Call σ Op R) where
  counted := Threads.start_counted w
  idle := fun _ _ => rfl
  busy := nofun

/-- The thread has come to `p`, and the others are as they were. -/
theorem LevelsInv.goOn (inv : LevelsInv s) {m : Shared Tid σ}
    (stepped : StepLevels (fun _ _ => True) (fun _ => 0) t p s.lock m) :
    LevelsInv { s.goOn t c p with lock := m } where
  counted := stepped.counted
  idle := by
    intro t' idle
    rcases eq_or_ne t' t with rfl | other
    · rw [Threads.goOn_self] at idle
      cases idle
    · rw [Threads.goOn_of_ne s other] at idle
      exact (stepped.others t' other).trans (inv.idle t' idle)
  busy := by
    intro t' c' p' running
    rcases eq_or_ne t' t with rfl | other
    · rw [Threads.goOn_self] at running
      cases running
      exact stepped.leveled
    · rw [Threads.goOn_of_ne s other] at running
      change p'.Leveled _ 0 _ (depthOf t' m)
      rw [stepped.others t' other]
      exact inv.busy t' c' p' running

/-- The lock is as it was. -/
theorem LevelsInv.stays (inv : LevelsInv s)
    (leveled : p.Leveled (fun _ _ => True) 0 (fun _ => 0) (depthOf t s.lock)) :
    LevelsInv (s.goOn t c p) :=
  inv.goOn ⟨leveled, fun _ _ => rfl, inv.counted⟩

theorem LevelsInv.step (inv : LevelsInv s) {input : ThreadInput Tid Call}
    (stepped : ThreadStepped prog s input s')
    (levels : ∀ t c, input = .call t c → KeepsLock (prog c)) : LevelsInv s' := by
  cases stepped with
  | @call t c idle =>
      apply inv.stays
      rw [inv.idle t idle]
      exact levels t c rfl 0
  | @wait t c op next running => exact inv.stays (inv.busy t c _ running).2
  | @advance t c p p' lock running advances =>
      exact inv.goOn ((inv.busy t c p running).advance inv.counted advances)
  | @ret t c r running =>
      refine ⟨inv.counted, fun t' idle => ?_, fun t' c' p' busy => ?_⟩
      · rcases eq_or_ne t' t with rfl | other
        · exact inv.busy t' c _ running
        · exact inv.idle t' ((Function.update_of_ne other _ _).symm.trans idle)
      · rcases eq_or_ne t' t with rfl | other
        · cases (Function.update_self t' _ _).symm.trans busy
        · exact inv.busy t' c' p' ((Function.update_of_ne other _ _).symm.trans busy)

/-! ## Returns -/

/-- A step of the call of thread `t`, or its return. -/
def Threads.Goes (prog : Call → LockProg σ Op R) (t : Tid) (s s' : Threads Tid Call σ Op R) :
    Prop :=
  threadStep prog (.step t) s = some s' ∨ threadStep prog (.ret t) s = some s'

/-- The call of thread `t` returns by steps of its own, after some of the thread that holds the
lock, unless it comes to `stop`, or that thread does with the lock held. -/
def Threads.CanReturn (prog : Call → LockProg σ Op R) (s : Threads Tid Call σ Op R) (t : Tid) :
    Prop :=
  ∃ holder s₁ s', (holder = t ∨ 0 < depthOf holder s.lock) ∧
    ReflTransGen (Threads.Goes prog holder) s s₁ ∧ ReflTransGen (Threads.Goes prog t) s₁ s' ∧
      (s'.running t = none ∨ (∃ c, s'.running t = some (c, .stop)) ∨
        ∃ c, s'.running holder = some (c, .stop) ∧ 0 < depthOf holder s'.lock)

/-- Thread `t`, for which the lock is free, has come to `p` by steps of its own. -/
structure Reached (prog : Call → LockProg σ Op R) (t : Tid) (c : Call)
    (s : Threads Tid Call σ Op R) (p : LockProg σ Op R) (s' : Threads Tid Call σ Op R) : Prop where
  path : ReflTransGen (Threads.Goes prog t) s s'
  inv : LevelsInv s'
  free : FreeFor t s'.lock
  running : s'.running t = some (c, p)

namespace Reached

variable {p' : LockProg σ Op R}

theorem start (inv : LevelsInv s) (free : FreeFor t s.lock) (running : s.running t = some (c, p)) :
    Reached prog t c s p s :=
  ⟨.refl, inv, free, running⟩

theorem advance (reached : Reached prog t c s p s') {lock : Shared Tid σ}
    (advances : p.advance t s'.lock = some (p', lock)) :
    Reached prog t c s p' { s'.goOn t c p' with lock := lock } := by
  have stepped := (reached.inv.busy t c p reached.running).advance reached.inv.counted advances
  have enabled : threadStep prog (.step t) s' = some { s'.goOn t c p' with lock := lock } :=
    threadStep_of_advance reached.running advances
  refine ⟨reached.path.tail (.inl enabled), reached.inv.goOn stepped, ?_, s'.goOn_self t c p'⟩
  exact fun t' other => (stepped.others t' other).trans (reached.free t' other)

theorem wait {op : Op} (reached : Reached prog t c s (.enter op p) s') :
    Reached prog t c s p (s'.goOn t c p) := by
  have leveled := reached.inv.busy t c _ reached.running
  have enabled : threadStep prog (.step t) s' = some (s'.goOn t c p) := by
    unfold threadStep
    dsimp only
    rw [reached.running]
  exact ⟨reached.path.tail (.inl enabled), reached.inv.stays leveled.2, reached.free,
    s'.goOn_self t c p⟩

/-- The thread comes to the end of its call. -/
theorem ends (reached : Reached prog t c s p s') :
    ∃ p' s'', Reached prog t c s p' s'' ∧ ((∃ r, p' = .ret r) ∨ p' = .stop) := by
  induction p generalizing s' with
  | ret r => exact ⟨_, s', reached, .inl ⟨r, rfl⟩⟩
  | stop => exact ⟨_, s', reached, .inr rfl⟩
  | enter op next ih => exact ih reached.wait
  | lock next ih =>
      obtain ⟨lock, taken⟩ := reached.free.take reached.inv.counted
      have advances : (LockProg.lock next).advance t s'.lock = some (next, lock) := by
        rw [LockProg.advance, taken, Option.map_some]
      exact ih (reached.advance advances)
  | unlock next ih =>
      have held := (reached.inv.busy t c _ reached.running).1
      obtain ⟨lock, released⟩ := release_enabled (owner_of_depthOf held)
      have advances : (LockProg.unlock next).advance t s'.lock = some (next, lock) := by
        rw [LockProg.advance, released, Option.map_some]
      exact ih (reached.advance advances)
  | get next ih => exact ih _ (reached.advance rfl)
  | set w next ih => exact ih (reached.advance rfl)

end Reached

/-- A thread for which the lock is free comes to its return by its own steps, or to `stop`. -/
theorem LevelsInv.returns_of_free (inv : LevelsInv s) (free : FreeFor t s.lock) :
    ∃ s', ReflTransGen (Threads.Goes prog t) s s' ∧
      (s'.running t = none ∨ ∃ c, s'.running t = some (c, .stop)) := by
  rcases running : s.running t with _ | ⟨c, p⟩
  · exact ⟨s, .refl, .inl running⟩
  have start : Reached prog t c s p s := .start inv free running
  obtain ⟨p', s', reached, ⟨r, rfl⟩ | rfl⟩ := start.ends
  · have enabled : threadStep prog (.ret t) s' =
        some { s' with running := Function.update s'.running t none } := by
      unfold threadStep
      dsimp only
      rw [reached.running]
    refine ⟨_, reached.path.tail (.inr enabled), .inl ?_⟩
    exact Function.update_self t _ _
  · exact ⟨s', reached.path, .inr ⟨c, reached.running⟩⟩

theorem LevelsInv.canReturn (inv : LevelsInv s) (t : Tid) : s.CanReturn prog t := by
  by_cases free : FreeFor t s.lock
  · obtain ⟨s', path, ended⟩ := inv.returns_of_free free
    exact ⟨t, s, s', .inl rfl, .refl, path, ended.imp_right .inl⟩
  -- the thread that holds the lock goes first
  obtain ⟨holder, -, held⟩ := exists_holder free
  rcases running : s.running holder with _ | ⟨c, p⟩
  · exact absurd (inv.idle holder running) (Nat.ne_of_gt held)
  have start : Reached prog holder c s p s := .start inv (freeFor_of_held held) running
  obtain ⟨p', s₁, reached, ended⟩ := start.ends
  rcases Nat.eq_zero_or_pos (depthOf holder s₁.lock) with released | kept
  · have now : FreeFor t s₁.lock := by
      intro t' _
      rcases eq_or_ne t' holder with rfl | third
      · exact released
      · exact reached.free t' third
    have returns : ∃ s', ReflTransGen (Threads.Goes prog t) s₁ s' ∧ _ :=
      reached.inv.returns_of_free now
    obtain ⟨s', path, ended⟩ := returns
    exact ⟨holder, s₁, s', .inr held, reached.path, path, ended.imp_right .inl⟩
  · rcases ended with ⟨r, rfl⟩ | rfl
    · have none : depthOf holder s₁.lock = 0 := reached.inv.busy holder c _ reached.running
      exact absurd none (Nat.ne_of_gt kept)
    · exact ⟨holder, s₁, s₁, .inr held, reached.path, .refl, .inr (.inr ⟨c, reached.running, kept⟩)⟩

/-- From every state of a run of functions that give the lock back, each call can return. -/
theorem threads_canReturn {inputs : List (ThreadInput Tid Call)} {w : σ}
    (levels : ∀ t c, .call t c ∈ inputs → KeepsLock (prog c))
    {m : Move (ThreadInput Tid Call) (Threads Tid Call σ Op R)}
    (member : m ∈ moves (threadStep prog) inputs (.start w)) (t : Tid) :
    m.after.CanReturn prog t := by
  have keeps : ∀ m : Move (ThreadInput Tid Call) (Threads Tid Call σ Op R), LevelsInv m.before →
      threadStep prog m.input m.before = some m.after → m.input ∈ inputs →
      LevelsInv m.after ∧ True := by
    intro m inv enabled arrives
    refine ⟨inv.step (threadStep_stepped enabled) fun t c input => ?_, trivial⟩
    rw [input] at arrives
    exact levels t c arrives
  have inv := moves_induct (.start w) (fun _ => input_of_mem_moves) keeps m member
  exact inv.2.1.canReturn t

end Runs

end IpxWrapper.Base
