import IpxWrapper.Base.LockThreads

/-!
# Data that its owner may break

While a thread holds the lock the others see none of what it writes, so an invariant
of the data needs to hold only when the lock is free. A `Discipline` has that
invariant, what a write may do, and where each operation may come. An operation of
the system may change the data, stop the thread, or leave it as the only one:
a thread that is `alone` needs no lock.

A program that `Keeps` the discipline reads and writes only data that its thread
owns, and releases the lock with the invariant. `Owned` is that for the rest of a
thread's program; it holds after each step of the thread (`Owned.advance`), and after
each step of another (`Owned.of_other`), if it held before.
-/

namespace IpxWrapper.Base

/-- What the threads under a lock keep to; `Q` is what a thread has come to. -/
structure Discipline (σ Op Q : Type) where
  /-- The data while no thread holds the lock. -/
  inv : σ → Prop
  /-- What a write may do. -/
  writes : σ → σ → Prop
  /-- The operation may come here, for how often the lock is held and the data. -/
  admits : Q → Op → Nat → σ → Prop
  /-- The thread goes on after the operation. -/
  resumes : Q → Op → Prop
  next : Q → Op → Q
  /-- What the system does to the data in an operation. -/
  effect : Op → σ → σ
  /-- No other thread runs. -/
  alone : Q → Prop

/-- The data is what the thread knows. -/
def Discipline.Owns {σ Op Q : Type} (D : Discipline σ Op Q) (q : Q) (d : Nat) : Prop :=
  0 < d ∨ D.alone q

theorem Discipline.Owns.held {σ Op Q : Type} {D : Discipline σ Op Q} {q : Q} {d : Nat}
    (owns : D.Owns q d) (shared : ¬ D.alone q) : 0 < d :=
  owns.resolve_right shared

namespace LockProg

variable {Tid σ Op α β Q : Type} [DecidableEq Tid] (D : Discipline σ Op Q)

/-! ## Programs -/

section Programs

/-- With the lock held `d` times and the data `s`, the program does nothing that the discipline
does not allow, and `post` holds when it returns. -/
def Keeps : LockProg σ Op α → Q → Nat → σ → (α → Q → Nat → σ → Prop) → Prop
  | ret a, q, d, s, post => post a q d s
  | lock next, q, d, s, post =>
      if d = 0 then ∀ s', D.inv s' → next.Keeps q 1 s' post else next.Keeps q (d + 1) s post
  | unlock next, q, d, s, post => 0 < d ∧ (d = 1 → D.inv s) ∧ next.Keeps q (d - 1) s post
  | get next, q, d, s, post => D.Owns q d ∧ (next s).Keeps q d s post
  | set s' next, q, d, s, post =>
      D.Owns q d ∧ D.writes s s' ∧ (d = 0 → D.inv s') ∧ next.Keeps q d s' post
  | enter op next, q, d, s, post =>
      D.admits q op d s ∧ (D.resumes q op →
        ∀ s₀, (D.Owns q d → s₀ = s) → next.Keeps (D.next q op) d (D.effect op s₀) post)
  | stop, _, _, _, _ => True

variable {D} {q : Q} {d : Nat} {s : σ} {post : α → Q → Nat → σ → Prop}

@[simp] theorem keeps_pure {a : α} :
    (pure a : LockProg σ Op α).Keeps D q d s post ↔ post a q d s :=
  Iff.rfl

@[simp] theorem keeps_stop : (stop : LockProg σ Op α).Keeps D q d s post :=
  trivial

@[simp] theorem keeps_bind {p : LockProg σ Op β} {f : β → LockProg σ Op α} :
    (p >>= f).Keeps D q d s post ↔
      p.Keeps D q d s fun b q' d' s' => (f b).Keeps D q' d' s' post := by
  change (p.bind f).Keeps D q d s post ↔ _
  induction p generalizing q d s with
  | ret b => exact Iff.rfl
  | lock next ih => simp only [LockProg.bind, Keeps, ih]
  | unlock next ih => simp only [LockProg.bind, Keeps, ih]
  | get next ih => simp only [LockProg.bind, Keeps, ih]
  | set s' next ih => simp only [LockProg.bind, Keeps, ih]
  | enter op next ih => simp only [LockProg.bind, Keeps, ih]
  | stop => exact Iff.rfl

theorem keeps_acquire {post : Unit → Q → Nat → σ → Prop} :
    (acquire : LockProg σ Op Unit).Keeps D q d s post ↔
      if d = 0 then ∀ s', D.inv s' → post () q 1 s' else post () q (d + 1) s :=
  Iff.rfl

theorem keeps_read {post : σ → Q → Nat → σ → Prop} :
    (read : LockProg σ Op σ).Keeps D q d s post ↔ D.Owns q d ∧ post s q d s :=
  Iff.rfl

theorem keeps_await {op : Op} {post : Unit → Q → Nat → σ → Prop} :
    (await op : LockProg σ Op Unit).Keeps D q d s post ↔
      D.admits q op d s ∧ (D.resumes q op →
        ∀ s₀, (D.Owns q d → s₀ = s) → post () (D.next q op) d (D.effect op s₀)) :=
  Iff.rfl

theorem Keeps.mono {p : LockProg σ Op α} {post' : α → Q → Nat → σ → Prop}
    (keeps : p.Keeps D q d s post) (weaker : ∀ a q d s, post a q d s → post' a q d s) :
    p.Keeps D q d s post' := by
  induction p generalizing q d s with
  | ret a => exact weaker a q d s keeps
  | lock next ih =>
      unfold Keeps at keeps ⊢
      split at keeps
      · rename_i outside
        rw [if_pos outside]
        exact fun s' holds => ih (keeps s' holds)
      · rename_i inside
        rw [if_neg inside]
        exact ih keeps
  | unlock next ih => exact ⟨keeps.1, keeps.2.1, ih keeps.2.2⟩
  | get next ih => exact ⟨keeps.1, ih s keeps.2⟩
  | set s' next ih => exact ⟨keeps.1, keeps.2.1, keeps.2.2.1, ih keeps.2.2.2⟩
  | enter op next ih =>
      exact ⟨keeps.1, fun resumed s₀ same => ih (keeps.2 resumed s₀ same)⟩
  | stop => exact trivial

end Programs

/-! ## Threads of a system -/

section Threads

/-- What is left of the program of thread `t` keeps the discipline, for the data if it owns it. -/
def Owned (D : Discipline σ Op Q) (post : α → Q → Nat → σ → Prop) (t : Tid) (p : LockProg σ Op α)
    (q : Q) (m : Shared Tid σ) : Prop :=
  ∃ s, (D.Owns q (depthOf t m) → s = m.data) ∧ p.Keeps D q (depthOf t m) s post

/-- The invariant holds while the lock is free. -/
def AtRest (D : Discipline σ Op Q) (m : Shared Tid σ) : Prop :=
  m.owner = none → D.inv m.data

/-- The lock after a step of thread `t`. -/
structure OwnerStep (D : Discipline σ Op Q) (t : Tid) (q : Q) (m m' : Shared Tid σ) : Prop where
  others : ∀ t', t' ≠ t → depthOf t' m' = depthOf t' m
  /-- No other has come to hold it. -/
  owner : ∀ t' depth, m'.owner = some (t', depth) → t' = t ∨ m.owner = some (t', depth)
  data : m'.data = m.data ∨
    D.Owns q (depthOf t m) ∧ D.writes m.data m'.data ∧ (depthOf t m = 0 → D.inv m'.data)

variable {D} {post : α → Q → Nat → σ → Prop} {t : Tid} {p p' : LockProg σ Op α} {q : Q}
  {m m' : Shared Tid σ}

theorem Taken.ownerStep (taken : Taken t m m') : OwnerStep D t q m m' where
  others := fun t' other => (taken.others t' other).2.trans (taken.others t' other).1.symm
  owner := by
    intro t' depth held
    cases taken.owner.symm.trans held
    exact .inl rfl
  data := .inl taken.data

theorem Released.ownerStep (released : Released t m m') : OwnerStep D t q m m' where
  others := fun t' other => (released.others t' other).2.trans (released.others t' other).1.symm
  owner := by
    intro t' depth held
    have owner := released.owner.symm.trans held
    split at owner
    · cases owner
    · cases owner
      exact .inl rfl
  data := .inl released.data

/-- What keeps the discipline for the data that its thread knows does so after a step for the
data as it is then, and leaves the lock free only with the invariant. -/
theorem Keeps.advance {s : σ} (keeps : p.Keeps D q (depthOf t m) s post)
    (current : D.Owns q (depthOf t m) → s = m.data) (counted : Counted m) (rest : AtRest D m)
    (step : advance t p m = some (p', m')) :
    p'.Keeps D q (depthOf t m') m'.data post ∧ OwnerStep D t q m m' ∧ Counted m' ∧
      AtRest D m' := by
  cases p with
  | lock next =>
      obtain ⟨_, take, same⟩ := Option.map_eq_some_iff.mp step
      cases same
      have taken := taken_of_take counted take
      refine ⟨?_, taken.ownerStep, taken.counted, fun free => ?_⟩
      · rw [taken.depth, taken.data]
        unfold Keeps at keeps
        split at keeps
        · rename_i outside
          rw [outside]
          exact keeps m.data (rest (taken.free outside))
        · rename_i inside
          rwa [current (.inl (Nat.pos_of_ne_zero inside))] at keeps
      · cases taken.owner.symm.trans free
  | unlock next =>
      obtain ⟨_, release, same⟩ := Option.map_eq_some_iff.mp step
      cases same
      have released := released_of_release counted release
      obtain ⟨inside, restored, keeps⟩ := keeps
      rw [current (.inl inside)] at keeps restored
      refine ⟨?_, released.ownerStep, released.counted, fun free => ?_⟩
      · rw [released.depth, released.data]
        exact keeps
      · rw [released.data]
        have owner := released.owner.symm.trans free
        split at owner
        · exact restored ‹_›
        · cases owner
  | get next =>
      obtain ⟨owns, keeps⟩ := keeps
      obtain ⟨rfl, rfl⟩ := Prod.mk.inj (Option.some.inj step)
      rw [current owns] at keeps
      exact ⟨keeps, ⟨fun _ _ => rfl, fun _ _ => .inr, .inl rfl⟩, counted, rest⟩
  | set s' next =>
      obtain ⟨owns, allowed, restored, keeps⟩ := keeps
      obtain ⟨rfl, rfl⟩ := Prod.mk.inj (Option.some.inj step)
      rw [current owns] at allowed
      exact ⟨keeps, ⟨fun _ _ => rfl, fun _ _ => .inr, .inr ⟨owns, allowed, restored⟩⟩,
        counted, fun free => restored (depthOf_free free)⟩
  | ret a => cases step
  | enter op next => cases step
  | stop => cases step

/-- A step keeps what is owned. -/
theorem Owned.advance (owned : Owned D post t p q m) (counted : Counted m) (rest : AtRest D m)
    (step : LockProg.advance t p m = some (p', m')) :
    Owned D post t p' q m' ∧ OwnerStep D t q m m' ∧ Counted m' ∧ AtRest D m' := by
  obtain ⟨s, current, keeps⟩ := owned
  obtain ⟨keeps', rest'⟩ := keeps.advance current counted rest step
  exact ⟨⟨m'.data, fun _ => rfl, keeps'⟩, rest'⟩

/-- What a thread knows of the data stays so after a step of another. -/
theorem OwnerStep.current {t' : Tid} {q' : Q} {s : σ} (step : OwnerStep D t' q' m m')
    (current : D.Owns q (depthOf t m) → s = m.data) (other : t ≠ t') (shared : ¬ D.alone q)
    (shared' : ¬ D.alone q') (owns : D.Owns q (depthOf t m')) : s = m'.data := by
  rw [step.others t other] at owns
  rcases step.data with unchanged | ⟨owns', -⟩
  · rw [unchanged]
    exact current owns
  · -- two threads do not hold the lock at once
    have held := owner_of_depthOf (owns.held shared)
    have holds := owner_of_depthOf (owns'.held shared')
    cases held.symm.trans holds
    exact absurd rfl other

/-- What a thread owns another leaves as it is. -/
theorem Owned.of_other {t' : Tid} {q' : Q} (owned : Owned D post t p q m)
    (step : OwnerStep D t' q' m m') (other : t ≠ t') (shared : ¬ D.alone q)
    (shared' : ¬ D.alone q') : Owned D post t p q m' := by
  obtain ⟨s, current, keeps⟩ := owned
  refine ⟨s, step.current current other shared shared', ?_⟩
  rw [step.others t other]
  exact keeps

/-- A thread comes to an operation. -/
theorem Owned.enter {op : Op} {next : LockProg σ Op α}
    (owned : Owned D post t (.enter op next) q m) :
    ∃ s, (D.Owns q (depthOf t m) → s = m.data) ∧ D.admits q op (depthOf t m) s ∧
      (D.resumes q op → ∀ m' : Shared Tid σ, m'.owner = m.owner →
        m'.data = D.effect op m.data → Owned D post t next (D.next q op) m') := by
  obtain ⟨s, current, admitted, keeps⟩ := owned
  refine ⟨s, current, admitted, fun resumed m' owner data => ⟨m'.data, fun _ => rfl, ?_⟩⟩
  have same : depthOf t m' = depthOf t m := by
    unfold depthOf
    rw [owner]
  rw [same, data]
  exact keeps resumed m.data fun owns => (current owns).symm

/-- The next step reads or writes the data. -/
def Touches : LockProg σ Op α → Prop
  | get _ => True
  | set _ _ => True
  | _ => False

/-- What is touched is owned. -/
theorem Owned.owns (owned : Owned D post t p q m) (touches : p.Touches) :
    D.Owns q (depthOf t m) := by
  obtain ⟨s, -, keeps⟩ := owned
  cases p with
  | get next => exact keeps.1
  | set s' next => exact keeps.1
  | ret a => cases touches
  | lock next => cases touches
  | unlock next => cases touches
  | enter op next => cases touches
  | stop => cases touches

end Threads

end LockProg

end IpxWrapper.Base
