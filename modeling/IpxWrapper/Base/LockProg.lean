import Mathlib.Tactic.Common

/-!
# Programs under a recursive lock

A function that takes and releases a lock by hand is a `LockProg`: a tree of the
steps it takes, which reads and writes the data that the lock protects and marks
the operations in which its thread may wait. While a thread does not hold the
lock others may change the data, so what it finds when it takes the lock is
given, for the first time, the second, and so on.

* `events` and `result`: what a thread does, with how often it holds the lock at
  the time, and what is left when the function returns.
* `wp`: every event is admitted, and a postcondition holds on return.
* `Levels admits i j`: the function begins with `i` levels of the lock above some
  base and ends with `j`, never releases one below the base, and waits only where
  `admits` allows it. The rules for `Levels` are those of a type system.
-/

namespace IpxWrapper.Base

/-- A function over data `σ` behind a lock. `stop` is a loop that has gone round as
often as it may, or a run that the system does not allow. -/
inductive LockProg (σ Op α : Type) : Type where
  | ret (a : α)
  | lock (next : LockProg σ Op α)
  | unlock (next : LockProg σ Op α)
  | get (next : σ → LockProg σ Op α)
  | set (s : σ) (next : LockProg σ Op α)
  | enter (op : Op) (next : LockProg σ Op α)
  | stop

/-- What the trace of a thread shows. -/
inductive LockEvent (Op : Type) where
  | unlock
  | enter (op : Op)
deriving DecidableEq

/-- A thread: how often it holds the lock, the data, and how often it has taken the
lock that it did not hold. -/
structure Holder (σ : Type) where
  depth : Nat
  data : σ
  taken : Nat

namespace LockProg

variable {σ Op α β : Type}

/-- One function after another. -/
def bind : LockProg σ Op α → (α → LockProg σ Op β) → LockProg σ Op β
  | ret a, f => f a
  | lock next, f => lock (next.bind f)
  | unlock next, f => unlock (next.bind f)
  | get next, f => get fun s => (next s).bind f
  | set s next, f => set s (next.bind f)
  | enter op next, f => enter op (next.bind f)
  | stop, _ => stop

instance : Monad (LockProg σ Op) where
  pure := ret
  bind := bind

def acquire : LockProg σ Op Unit := lock (ret ())

def release : LockProg σ Op Unit := unlock (ret ())

def read : LockProg σ Op σ := get ret

def modify (f : σ → σ) : LockProg σ Op Unit := get fun s => set (f s) (ret ())

/-- An operation in which the thread may wait. -/
def await (op : Op) : LockProg σ Op Unit := enter op (ret ())

end LockProg

/-- The lock is taken: for the first time the data is what others left. -/
def Holder.lock {σ : Type} (others : Nat → σ) (h : Holder σ) : Holder σ :=
  if h.depth = 0 then ⟨1, others h.taken, h.taken + 1⟩ else { h with depth := h.depth + 1 }

@[simp] theorem Holder.lock_depth {σ : Type} (others : Nat → σ) (h : Holder σ) :
    (h.lock others).depth = h.depth + 1 := by
  unfold Holder.lock
  split_ifs with outside
  · rw [outside]
  · rfl

def Holder.unlock {σ : Type} (h : Holder σ) : Holder σ :=
  { h with depth := h.depth - 1 }

@[simp] theorem Holder.unlock_depth {σ : Type} (h : Holder σ) : h.unlock.depth = h.depth - 1 := rfl

/-- A thread that holds the lock takes it once more and releases it. -/
theorem Holder.unlock_lock {σ : Type} {others : Nat → σ} {h : Holder σ} (held : 0 < h.depth) :
    (h.lock others).unlock = h := by
  unfold Holder.lock
  rw [if_neg (Nat.ne_of_gt held)]
  rfl

def Holder.write {σ : Type} (h : Holder σ) (s : σ) : Holder σ :=
  { h with data := s }

@[simp] theorem Holder.write_depth {σ : Type} (h : Holder σ) (s : σ) :
    (h.write s).depth = h.depth := rfl

namespace LockProg

variable {σ Op α β : Type} (others : Nat → σ)

/-- The trace, each event with the depth it happens at. -/
def events : LockProg σ Op α → Holder σ → List (LockEvent Op × Nat)
  | ret _, _ => []
  | lock next, h => next.events (h.lock others)
  | unlock next, h => (.unlock, h.depth) :: next.events h.unlock
  | get next, h => (next h.data).events h
  | set s next, h => next.events (h.write s)
  | enter op next, h => (.enter op, h.depth) :: next.events h
  | stop, _ => []

/-- What is returned, and the thread then. -/
def result : LockProg σ Op α → Holder σ → Option (α × Holder σ)
  | ret a, h => some (a, h)
  | lock next, h => next.result (h.lock others)
  | unlock next, h => next.result h.unlock
  | get next, h => (next h.data).result h
  | set s next, h => next.result (h.write s)
  | enter _ next, h => next.result h
  | stop, _ => none

/-- Every event is one that `ok` admits, and `Q` holds on return. -/
def wp (ok : LockEvent Op → Nat → Prop) (p : LockProg σ Op α) (h : Holder σ)
    (Q : α → Holder σ → Prop) : Prop :=
  (∀ e ∈ p.events others h, ok e.1 e.2) ∧ ∀ a h', p.result others h = some (a, h') → Q a h'

section Rules

variable {others : Nat → σ} {ok : LockEvent Op → Nat → Prop} {h : Holder σ}
  {Q : α → Holder σ → Prop}

@[simp] theorem wp_ret {a : α} : (ret a).wp others ok h Q ↔ Q a h := by
  simp [wp, events, result]

@[simp] theorem wp_pure {a : α} : (pure a : LockProg σ Op α).wp others ok h Q ↔ Q a h :=
  wp_ret

@[simp] theorem wp_stop : (stop : LockProg σ Op α).wp others ok h Q := by
  simp [wp, events, result]

@[simp] theorem wp_lock {p : LockProg σ Op α} :
    (lock p).wp others ok h Q ↔ p.wp others ok (h.lock others) Q :=
  Iff.rfl

@[simp] theorem wp_unlock {p : LockProg σ Op α} :
    (unlock p).wp others ok h Q ↔ ok .unlock h.depth ∧ p.wp others ok h.unlock Q := by
  simp only [wp, events, result, List.forall_mem_cons, and_assoc]

@[simp] theorem wp_get {p : σ → LockProg σ Op α} :
    (get p).wp others ok h Q ↔ (p h.data).wp others ok h Q :=
  Iff.rfl

@[simp] theorem wp_set {s : σ} {p : LockProg σ Op α} :
    (set s p).wp others ok h Q ↔ p.wp others ok (h.write s) Q :=
  Iff.rfl

@[simp] theorem wp_enter {op : Op} {p : LockProg σ Op α} :
    (enter op p).wp others ok h Q ↔ ok (.enter op) h.depth ∧ p.wp others ok h Q := by
  simp only [wp, events, result, List.forall_mem_cons, and_assoc]

@[simp] theorem wp_bind {p : LockProg σ Op β} {f : β → LockProg σ Op α} :
    (p >>= f).wp others ok h Q ↔
      p.wp others ok h fun b h' => (f b).wp others ok h' Q := by
  change (p.bind f).wp others ok h Q ↔ _
  induction p generalizing h with
  | ret a => rw [bind, wp_ret]
  | lock next ih => rw [bind, wp_lock, ih, wp_lock]
  | unlock next ih => rw [bind, wp_unlock, ih, wp_unlock]
  | get next ih => rw [bind, wp_get, ih, wp_get]
  | set s next ih => rw [bind, wp_set, ih, wp_set]
  | enter op next ih => rw [bind, wp_enter, ih, wp_enter]
  | stop =>
      rw [bind]
      exact ⟨fun _ => wp_stop, fun _ => wp_stop⟩

@[simp] theorem wp_acquire {Q : Unit → Holder σ → Prop} :
    (acquire : LockProg σ Op Unit).wp others ok h Q ↔ Q () (h.lock others) := by
  rw [acquire, wp_lock, wp_ret]

@[simp] theorem wp_release {Q : Unit → Holder σ → Prop} :
    (release : LockProg σ Op Unit).wp others ok h Q ↔ ok .unlock h.depth ∧ Q () h.unlock := by
  rw [release, wp_unlock, wp_ret]

@[simp] theorem wp_read {Q : σ → Holder σ → Prop} :
    (read : LockProg σ Op σ).wp others ok h Q ↔ Q h.data h := by
  rw [read, wp_get, wp_ret]

@[simp] theorem wp_modify {f : σ → σ} {Q : Unit → Holder σ → Prop} :
    (modify f : LockProg σ Op Unit).wp others ok h Q ↔ Q () (h.write (f h.data)) := by
  rw [modify, wp_get, wp_set, wp_ret]

@[simp] theorem wp_await {op : Op} {Q : Unit → Holder σ → Prop} :
    (await op : LockProg σ Op Unit).wp others ok h Q ↔ ok (.enter op) h.depth ∧ Q () h := by
  rw [await, wp_enter, wp_ret]

theorem wp.mono {p : LockProg σ Op α} {ok' : LockEvent Op → Nat → Prop}
    {Q' : α → Holder σ → Prop} (holds : p.wp others ok h Q)
    (admits : ∀ e k, ok e k → ok' e k) (weaker : ∀ a h', Q a h' → Q' a h') :
    p.wp others ok' h Q' :=
  ⟨fun e member => admits e.1 e.2 (holds.1 e member),
    fun a h' returned => weaker a h' (holds.2 a h' returned)⟩

theorem wp.imp {p : LockProg σ Op α} {Q' : α → Holder σ → Prop} (holds : p.wp others ok h Q)
    (weaker : ∀ a h', Q a h' → Q' a h') : p.wp others ok h Q' :=
  holds.mono (fun _ _ admitted => admitted) weaker

/-- Where every event is admitted, a program says nothing of what follows it. -/
theorem wp_any_bind {p : LockProg σ Op β} {f : β → LockProg σ Op α}
    (rest : ∀ b h', (f b).wp others (fun _ _ => True) h' Q) :
    (p >>= f).wp others (fun _ _ => True) h Q := by
  rw [wp_bind]
  exact ⟨fun _ _ => trivial, fun b h' _ => rest b h'⟩

theorem wp_congr {p : LockProg σ Op α} {Q' : α → Holder σ → Prop}
    (same : ∀ a h', Q a h' ↔ Q' a h') : p.wp others ok h Q ↔ p.wp others ok h Q' :=
  ⟨fun holds => holds.imp fun a h' => (same a h').mp,
    fun holds => holds.imp fun a h' => (same a h').mpr⟩

theorem wp.and {p : LockProg σ Op α} {ok' : LockEvent Op → Nat → Prop}
    {Q' : α → Holder σ → Prop} (holds : p.wp others ok h Q) (also' : p.wp others ok' h Q') :
    p.wp others ok h fun a h' => Q a h' ∧ Q' a h' :=
  ⟨holds.1, fun a h' returned => ⟨holds.2 a h' returned, also'.2 a h' returned⟩⟩

end Rules

/-! ## Levels -/

/-- The lock is not released at or below `base`, and each wait is one that `admits` has
for the number of levels above `base`. -/
def Above (admits : Op → Nat → Prop) (base : Nat) : LockEvent Op → Nat → Prop
  | .unlock, depth => base < depth
  | .enter op, depth => admits op (depth - base)

/-- From depth `d`, whatever data is found, the function returns with `j` levels above
`base`, releases none below it, and waits as `admits` says. -/
def Leveled (admits : Op → Nat → Prop) (base : Nat) (j : α → Nat) :
    LockProg σ Op α → Nat → Prop
  | ret a, d => d = base + j a
  | lock next, d => next.Leveled admits base j (d + 1)
  | unlock next, d => base < d ∧ next.Leveled admits base j (d - 1)
  | get next, d => ∀ s, (next s).Leveled admits base j d
  | set _ next, d => next.Leveled admits base j d
  | enter op next, d => admits op (d - base) ∧ next.Leveled admits base j d
  | stop, _ => True

/-- With `i` levels of the lock above some base at the start, the function ends with
`j` of them, releases none below the base, and waits as `admits` says. -/
def Levels (p : LockProg σ Op α) (admits : Op → Nat → Prop) (i : Nat) (j : α → Nat) : Prop :=
  ∀ base, p.Leveled admits base j (base + i)

theorem Leveled.wp {admits : Op → Nat → Prop} {base : Nat} {j : α → Nat} {p : LockProg σ Op α}
    {others : Nat → σ} {h : Holder σ} (leveled : p.Leveled admits base j h.depth) :
    p.wp others (Above admits base) h fun a h' => h'.depth = base + j a := by
  induction p generalizing h with
  | ret a => exact wp_ret.mpr leveled
  | lock next ih =>
      rw [wp_lock]
      apply ih
      rw [Holder.lock_depth]
      exact leveled
  | unlock next ih =>
      rw [wp_unlock]
      exact ⟨leveled.1, ih leveled.2⟩
  | get next ih =>
      rw [wp_get]
      exact ih h.data (leveled h.data)
  | set s next ih =>
      rw [wp_set]
      exact ih leveled
  | enter op next ih =>
      rw [wp_enter]
      exact ⟨leveled.1, ih leveled.2⟩
  | stop => exact wp_stop

theorem Leveled.mono {admits admits' : Op → Nat → Prop} {base d : Nat} {j : α → Nat}
    {p : LockProg σ Op α} (leveled : p.Leveled admits base j d)
    (weaker : ∀ op k, admits op k → admits' op k) : p.Leveled admits' base j d := by
  induction p generalizing d with
  | ret a => exact leveled
  | lock next ih => exact ih leveled
  | unlock next ih => exact ⟨leveled.1, ih leveled.2⟩
  | get next ih => exact fun s => ih s (leveled s)
  | set s next ih => exact ih leveled
  | enter op next ih => exact ⟨weaker op _ leveled.1, ih leveled.2⟩
  | stop => exact trivial

theorem Leveled.bind {admits : Op → Nat → Prop} {base d : Nat} {k : β → Nat} {j : α → Nat}
    {p : LockProg σ Op β} {f : β → LockProg σ Op α} (first : p.Leveled admits base k d)
    (rest : ∀ b, (f b).Leveled admits base j (base + k b)) :
    (p >>= f).Leveled admits base j d := by
  change (p.bind f).Leveled admits base j d
  induction p generalizing d with
  | ret b =>
      obtain rfl : d = base + k b := first
      exact rest b
  | lock next ih => exact ih first
  | unlock next ih => exact ⟨first.1, ih first.2⟩
  | get next ih => exact fun s => ih s (first s)
  | set s next ih => exact ih first
  | enter op next ih => exact ⟨first.1, ih first.2⟩
  | stop => exact trivial

/-- The thread ends with the lock as often as it began, and never has it less. -/
structure KeepsLevel (others : Nat → σ) (p : LockProg σ Op α) (h : Holder σ) : Prop where
  above : ∀ depth, (.unlock, depth) ∈ p.events others h → h.depth < depth
  returns : ∀ a h', p.result others h = some (a, h') → h'.depth = h.depth

namespace Levels

variable {admits : Op → Nat → Prop} {i : Nat} {j : α → Nat} {k : β → Nat}

theorem ret {a : α} (same : i = j a) : (LockProg.ret a : LockProg σ Op α).Levels admits i j :=
  fun base => congrArg (base + ·) same

theorem stop : (LockProg.stop : LockProg σ Op α).Levels admits i j :=
  fun _ => trivial

theorem bind {p : LockProg σ Op β} {f : β → LockProg σ Op α} (first : p.Levels admits i k)
    (rest : ∀ b, (f b).Levels admits (k b) j) : (p >>= f).Levels admits i j :=
  fun base => (first base).bind fun b => rest b base

theorem acquire : (LockProg.acquire : LockProg σ Op Unit).Levels admits i fun _ => i + 1 :=
  fun base => Nat.add_assoc base i 1

theorem release : (LockProg.release : LockProg σ Op Unit).Levels admits (i + 1) fun _ => i :=
  fun _ => ⟨Nat.lt_add_of_pos_right (Nat.succ_pos i), rfl⟩

theorem read : (LockProg.read : LockProg σ Op σ).Levels admits i fun _ => i :=
  fun _ _ => rfl

theorem modify {f : σ → σ} :
    (LockProg.modify f : LockProg σ Op Unit).Levels admits i fun _ => i :=
  fun _ _ => rfl

theorem await {op : Op} (admitted : admits op i) :
    (LockProg.await op : LockProg σ Op Unit).Levels admits i fun _ => i := by
  intro base
  refine ⟨?_, rfl⟩
  rwa [Nat.add_sub_cancel_left]

/-- More waits are admitted. -/
theorem mono {p : LockProg σ Op α} {admits' : Op → Nat → Prop} (levels : p.Levels admits i j)
    (weaker : ∀ op k, admits op k → admits' op k) : p.Levels admits' i j :=
  fun base => (levels base).mono weaker

/-- A function that releases the lock and returns. -/
theorem release_ret {a : α} :
    (do LockProg.release; pure a : LockProg σ Op α).Levels admits (i + 1) fun _ => i :=
  release.bind fun _ => ret rfl

/-- With `i` levels above `base`, the levels below `base` stay. -/
theorem at_base {p : LockProg σ Op α} (levels : p.Levels admits i j) {others : Nat → σ}
    {h : Holder σ} {base : Nat} (depth : h.depth = base + i) :
    p.wp others (Above admits base) h fun a h' => h'.depth = base + j a := by
  apply Leveled.wp
  rw [depth]
  exact levels base

end Levels

theorem keepsLevel_iff {admits : Op → Nat → Prop} (free : ∀ op k, admits op k)
    {p : LockProg σ Op α} {others : Nat → σ} {h : Holder σ} :
    KeepsLevel others p h ↔
      p.wp others (Above admits h.depth) h fun _ h' => h'.depth = h.depth := by
  refine ⟨fun keeps => ⟨?_, keeps.returns⟩, fun keeps => ⟨?_, keeps.2⟩⟩
  · rintro ⟨_ | op, depth⟩ member
    · exact keeps.above depth member
    · exact free op _
  · exact fun depth member => keeps.1 (.unlock, depth) member

end LockProg

end IpxWrapper.Base
