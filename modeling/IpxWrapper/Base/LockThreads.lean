import IpxWrapper.Base.LockProg

/-!
# Threads under one recursive lock

`LockProg.advance` is one step of a thread: it takes the lock only if no other
thread holds it. The operations in which a thread may wait are steps of the
system around it.

A program is `Safe` for a thread if it touches the data only while it holds the
lock, writes what `guar` allows, and waits as an automaton `wait` says, whatever
the others do to the data meanwhile: what it assumes of the data when it takes
the lock is `rely`. `Fits` is that for the rest of a thread's program, and holds
after each step if it held before. A thread that fits, and has not come to a wait
or to its end, can be stopped only by another that holds the lock.
-/

namespace IpxWrapper.Base

/-- The lock with its data: the thread that holds it, and how often. -/
structure Shared (Tid σ : Type) where
  owner : Option (Tid × Nat)
  data : σ

section Shared

variable {Tid σ : Type} [DecidableEq Tid]

/-- Thread `t` takes the lock, if no other thread holds it. -/
def Shared.take (t : Tid) (m : Shared Tid σ) : Option (Shared Tid σ) :=
  match m.owner with
  | none => some { m with owner := some (t, 1) }
  | some (holder, depth) =>
      if holder = t then some { m with owner := some (t, depth + 1) } else none

/-- Thread `t` releases the lock once, if it holds it. -/
def Shared.release (t : Tid) (m : Shared Tid σ) : Option (Shared Tid σ) :=
  match m.owner with
  | none => none
  | some (holder, depth) =>
      if holder = t then
        some { m with owner := if depth = 1 then none else some (t, depth - 1) }
      else
        none

end Shared

namespace LockProg

variable {Tid σ Op α β Q : Type} [DecidableEq Tid]

/-! ## Steps -/

/-- A step of thread `t`: the rest of its program. -/
def advance (t : Tid) : LockProg σ Op α → Shared Tid σ → Option (LockProg σ Op α × Shared Tid σ)
  | lock next, m => (m.take t).map fun m => (next, m)
  | unlock next, m => (m.release t).map fun m => (next, m)
  | get next, m => some (next m.data, m)
  | set s next, m => some (next, { m with data := s })
  | ret _, _ => none
  | enter _ _, _ => none
  | stop, _ => none

/-! ## Safe programs -/

section Safe

variable (wait : Q → Op → Option Q) (rely : σ → Prop) (guar : σ → σ → Prop)

/-- From state `q` of the automaton, with the lock held `d` times and the data `s`, the
program does nothing that is not allowed, and `post` holds when it returns. -/
def Safe : LockProg σ Op α → Q → Nat → σ → (α → Q → Nat → σ → Prop) → Prop
  | ret a, q, d, s, post => post a q d s
  | lock next, q, d, s, post =>
      if d = 0 then rely s ∧ ∀ s', rely s' → next.Safe q 1 s' post
      else next.Safe q (d + 1) s post
  | unlock next, q, d, s, post => 0 < d ∧ next.Safe q (d - 1) s post
  | get next, q, d, s, post => 0 < d ∧ (next s).Safe q d s post
  | set s' next, q, d, s, post => 0 < d ∧ guar s s' ∧ next.Safe q d s' post
  | enter op next, q, d, s, post => ∃ q', wait q op = some q' ∧ next.Safe q' d s post
  | stop, _, _, _, _ => False

variable {wait rely guar} {q : Q} {d : Nat} {s : σ} {post : α → Q → Nat → σ → Prop}

@[simp] theorem safe_pure {a : α} :
    (pure a : LockProg σ Op α).Safe wait rely guar q d s post ↔ post a q d s :=
  Iff.rfl

@[simp] theorem safe_bind {p : LockProg σ Op β} {f : β → LockProg σ Op α} :
    (p >>= f).Safe wait rely guar q d s post ↔
      p.Safe wait rely guar q d s fun b q' d' s' => (f b).Safe wait rely guar q' d' s' post := by
  change (p.bind f).Safe wait rely guar q d s post ↔ _
  induction p generalizing q d s with
  | ret b => exact Iff.rfl
  | lock next ih => simp only [LockProg.bind, Safe, ih]
  | unlock next ih => simp only [LockProg.bind, Safe, ih]
  | get next ih => simp only [LockProg.bind, Safe, ih]
  | set s' next ih => simp only [LockProg.bind, Safe, ih]
  | enter op next ih => simp only [LockProg.bind, Safe, ih]
  | stop => exact Iff.rfl

theorem safe_acquire {post : Unit → Q → Nat → σ → Prop} :
    (acquire : LockProg σ Op Unit).Safe wait rely guar q d s post ↔
      if d = 0 then rely s ∧ ∀ s', rely s' → post () q 1 s' else post () q (d + 1) s :=
  Iff.rfl

theorem safe_release {post : Unit → Q → Nat → σ → Prop} :
    (release : LockProg σ Op Unit).Safe wait rely guar q d s post ↔
      0 < d ∧ post () q (d - 1) s :=
  Iff.rfl

theorem safe_read {post : σ → Q → Nat → σ → Prop} :
    (read : LockProg σ Op σ).Safe wait rely guar q d s post ↔ 0 < d ∧ post s q d s :=
  Iff.rfl

theorem safe_modify {f : σ → σ} {post : Unit → Q → Nat → σ → Prop} :
    (modify f : LockProg σ Op Unit).Safe wait rely guar q d s post ↔
      0 < d ∧ 0 < d ∧ guar s (f s) ∧ post () q d (f s) :=
  Iff.rfl

theorem safe_await {op : Op} {post : Unit → Q → Nat → σ → Prop} :
    (await op : LockProg σ Op Unit).Safe wait rely guar q d s post ↔
      ∃ q', wait q op = some q' ∧ post () q' d s :=
  Iff.rfl

theorem Safe.mono {p : LockProg σ Op α} {post' : α → Q → Nat → σ → Prop}
    (safe : p.Safe wait rely guar q d s post)
    (weaker : ∀ a q d s, post a q d s → post' a q d s) :
    p.Safe wait rely guar q d s post' := by
  induction p generalizing q d s with
  | ret a => exact weaker a q d s safe
  | lock next ih =>
      unfold Safe at safe ⊢
      split at safe
      · rename_i outside
        rw [if_pos outside]
        exact ⟨safe.1, fun s' relied => ih (safe.2 s' relied)⟩
      · rename_i inside
        rw [if_neg inside]
        exact ih safe
  | unlock next ih => exact ⟨safe.1, ih safe.2⟩
  | get next ih => exact ⟨safe.1, ih s safe.2⟩
  | set s' next ih => exact ⟨safe.1, safe.2.1, ih safe.2.2⟩
  | enter op next ih =>
      obtain ⟨q', moves, rest⟩ := safe
      exact ⟨q', moves, ih rest⟩
  | stop => exact safe

end Safe

/-! ## Threads of a system -/

/-- How often thread `t` holds the lock. -/
def depthOf (t : Tid) (m : Shared Tid σ) : Nat :=
  match m.owner with
  | none => 0
  | some (holder, depth) => if holder = t then depth else 0

/-- Who holds the lock holds it at least once. -/
def Counted (m : Shared Tid σ) : Prop :=
  ∀ t depth, m.owner = some (t, depth) → 0 < depth

/-- What is left of the program of thread `t` is safe for the data that it knows: those
there are while it holds the lock. -/
def Fits (wait : Q → Op → Option Q) (rely : σ → Prop) (guar : σ → σ → Prop)
    (post : α → Q → Nat → σ → Prop) (t : Tid) (p : LockProg σ Op α) (q : Q) (m : Shared Tid σ) :
    Prop :=
  ∃ s, (0 < depthOf t m → s = m.data) ∧ (rely s → rely m.data) ∧
    p.Safe wait rely guar q (depthOf t m) s post

section Fits

variable {wait : Q → Op → Option Q} {rely : σ → Prop} {guar : σ → σ → Prop}
  {post : α → Q → Nat → σ → Prop} {t : Tid} {p p' : LockProg σ Op α} {q : Q}
  {m m' : Shared Tid σ}

theorem depthOf_self {depth : Nat} (owner : m.owner = some (t, depth)) : depthOf t m = depth := by
  unfold depthOf
  rw [owner]
  exact if_pos rfl

theorem depthOf_other {holder : Tid} {depth : Nat} (owner : m.owner = some (holder, depth))
    (other : holder ≠ t) : depthOf t m = 0 := by
  unfold depthOf
  rw [owner]
  exact if_neg other

theorem depthOf_free (owner : m.owner = none) : depthOf t m = 0 := by
  unfold depthOf
  rw [owner]

theorem owner_of_depthOf (held : 0 < depthOf t m) : m.owner = some (t, depthOf t m) := by
  rcases owner : m.owner with _ | ⟨holder, depth⟩
  · rw [depthOf_free owner] at held
    exact absurd held (Nat.lt_irrefl 0)
  · rcases eq_or_ne holder t with rfl | other
    · rw [depthOf_self owner]
    · rw [depthOf_other owner other] at held
      exact absurd held (Nat.lt_irrefl 0)

theorem take_some (step : m.take t = some m') :
    (m.owner = none ∧ m' = { m with owner := some (t, 1) }) ∨
      ∃ depth, m.owner = some (t, depth) ∧ m' = { m with owner := some (t, depth + 1) } := by
  unfold Shared.take at step
  split at step
  case h_1 free => exact .inl ⟨free, (Option.some.inj step).symm⟩
  case h_2 holder depth held =>
    split at step
    case isTrue same =>
      subst same
      exact .inr ⟨depth, held, (Option.some.inj step).symm⟩
    case isFalse => cases step

theorem release_some (step : m.release t = some m') :
    ∃ depth, m.owner = some (t, depth) ∧
      m' = { m with owner := if depth = 1 then none else some (t, depth - 1) } := by
  unfold Shared.release at step
  split at step
  case h_1 => cases step
  case h_2 holder depth held =>
    split at step
    case isTrue same =>
      subst same
      exact ⟨depth, held, (Option.some.inj step).symm⟩
    case isFalse => cases step

theorem take_enabled
    (free : ∀ holder depth, m.owner = some (holder, depth) → holder = t) :
    ∃ m', m.take t = some m' := by
  unfold Shared.take
  rcases owner : m.owner with _ | ⟨holder, depth⟩
  · exact ⟨_, rfl⟩
  · exact ⟨_, if_pos (free holder depth owner)⟩

theorem release_enabled {depth : Nat} (owner : m.owner = some (t, depth)) :
    ∃ m', m.release t = some m' := by
  unfold Shared.release
  rw [owner]
  exact ⟨_, if_pos rfl⟩

/-- The lock after a step of thread `t`. -/
structure Stepped (t : Tid) (guar : σ → σ → Prop) (m m' : Shared Tid σ) : Prop where
  /-- The others do not hold it before or after. -/
  others : ∀ t', t' ≠ t → depthOf t' m = 0 ∧ depthOf t' m' = 0
  data : m'.data = m.data ∨ guar m.data m'.data
  counted : Counted m'

theorem others_of_owner {depth : Nat} (held : m.owner = some (t, depth)) {t' : Tid}
    (other : t' ≠ t) : depthOf t' m = 0 :=
  depthOf_other held other.symm

omit [DecidableEq Tid] in
theorem counted_of_owner {depth : Nat} (held : m.owner = some (t, depth)) (pos : 0 < depth) :
    Counted m := by
  intro t' depth' owner
  cases held.symm.trans owner
  exact pos

/-- What a thread changes when it takes the lock. -/
structure Taken (t : Tid) (m m' : Shared Tid σ) : Prop where
  depth : depthOf t m' = depthOf t m + 1
  free : depthOf t m = 0 → m.owner = none
  others : ∀ t' ≠ t, depthOf t' m = 0 ∧ depthOf t' m' = 0
  owner : m'.owner = some (t, depthOf t m')
  counted : Counted m'
  data : m'.data = m.data

theorem taken_of_take (counted : Counted m) (step : m.take t = some m') : Taken t m m' := by
  rcases take_some step with ⟨owner, rfl⟩ | ⟨depth, owner, rfl⟩
  · refine ⟨?_, fun _ => owner, fun t' other => ?_, ?_, counted_of_owner rfl Nat.one_pos, rfl⟩
    · rw [depthOf_self rfl, depthOf_free owner]
    · exact ⟨depthOf_free owner, others_of_owner rfl other⟩
    · rw [depthOf_self rfl]
  · refine ⟨?_, fun free => ?_, fun t' other => ?_, ?_, counted_of_owner rfl (Nat.succ_pos depth),
      rfl⟩
    · rw [depthOf_self rfl, depthOf_self owner]
    · rw [depthOf_self owner] at free
      exact absurd free (Nat.ne_of_gt (counted t depth owner))
    · exact ⟨others_of_owner owner other, others_of_owner rfl other⟩
    · rw [depthOf_self rfl]

/-- What a thread changes when it releases the lock once. -/
structure Released (t : Tid) (m m' : Shared Tid σ) : Prop where
  held : 0 < depthOf t m
  depth : depthOf t m' = depthOf t m - 1
  others : ∀ t' ≠ t, depthOf t' m = 0 ∧ depthOf t' m' = 0
  owner : m'.owner = if depthOf t m = 1 then none else some (t, depthOf t m - 1)
  counted : Counted m'
  data : m'.data = m.data

theorem released_of_release (counted : Counted m) (step : m.release t = some m') :
    Released t m m' := by
  obtain ⟨depth, owner, rfl⟩ := release_some step
  have held := counted t depth owner
  have others (t' : Tid) (other : t' ≠ t) : depthOf t' m = 0 := others_of_owner owner other
  rw [← depthOf_self owner] at held
  rcases eq_or_ne depth 1 with rfl | more
  · refine ⟨held, ?_, fun t' other => ⟨others t' other, depthOf_free rfl⟩, ?_, ?_, rfl⟩
    · rw [depthOf_free rfl, depthOf_self owner]
    · rw [depthOf_self owner]
    · rintro t' depth' owned
      cases owned
  · have left : (if depth = 1 then none else some (t, depth - 1)) = some (t, depth - 1) :=
      if_neg more
    have pos : 0 < depth - 1 := by
      rw [depthOf_self owner] at held
      omega
    refine ⟨held, ?_, fun t' other => ⟨others t' other, others_of_owner left other⟩, ?_,
      counted_of_owner left pos, rfl⟩
    · rw [depthOf_self left, depthOf_self owner]
    · rw [depthOf_self owner]

/-- What fits still fits after a step. -/
theorem Fits.advance (fits : Fits wait rely guar post t p q m) (counted : Counted m)
    (step : advance t p m = some (p', m')) :
    Fits wait rely guar post t p' q m' ∧ Stepped t guar m m' := by
  obtain ⟨s, current, relied, safe⟩ := fits
  cases p with
  | lock next =>
      obtain ⟨_, take, same⟩ := Option.map_eq_some_iff.mp step
      cases same
      have taken := taken_of_take counted take
      refine ⟨?_, taken.others, .inl taken.data, taken.counted⟩
      unfold Fits
      rw [taken.depth, taken.data]
      unfold Safe at safe
      split at safe
      · rename_i outside
        rw [outside]
        exact ⟨m.data, fun _ => rfl, id, safe.2 m.data (relied safe.1)⟩
      · rename_i inside
        exact ⟨s, fun _ => current (Nat.pos_of_ne_zero inside), relied, safe⟩
  | unlock next =>
      obtain ⟨_, release, same⟩ := Option.map_eq_some_iff.mp step
      cases same
      have released := released_of_release counted release
      refine ⟨?_, released.others, .inl released.data, released.counted⟩
      unfold Fits
      rw [released.depth, released.data]
      exact ⟨s, fun _ => current released.held, relied, safe.2⟩
  | get next =>
      obtain ⟨inside, safe⟩ := safe
      obtain ⟨rfl, rfl⟩ := Prod.mk.inj (Option.some.inj step)
      have owner := owner_of_depthOf inside
      rw [current inside] at safe
      refine ⟨⟨m.data, fun _ => rfl, id, safe⟩, ⟨fun t' other => ?_, .inl rfl, counted⟩⟩
      exact ⟨others_of_owner owner other, others_of_owner owner other⟩
  | set s' next =>
      obtain ⟨inside, allowed, safe⟩ := safe
      obtain ⟨rfl, rfl⟩ := Prod.mk.inj (Option.some.inj step)
      have owner := owner_of_depthOf inside
      rw [current inside] at allowed
      refine ⟨⟨s', fun _ => rfl, id, safe⟩, ⟨fun t' other => ?_, .inr allowed, counted⟩⟩
      exact ⟨others_of_owner owner other, others_of_owner owner other⟩
  | ret a => cases step
  | enter op next => cases step
  | stop => cases step

/-- What fits still fits after a step of another thread that leaves what it relies on. -/
theorem Fits.of_other {t' : Tid} {guar' : σ → σ → Prop} (fits : Fits wait rely guar post t p q m)
    (stepped : Stepped t' guar' m m') (other : t ≠ t')
    (stable : ∀ s s', guar' s s' → rely s → rely s') : Fits wait rely guar post t p q m' := by
  obtain ⟨s, current, relied, safe⟩ := fits
  obtain ⟨before, after⟩ := stepped.others t other
  refine ⟨s, fun inside => ?_, fun known => ?_, ?_⟩
  · rw [after] at inside
    exact absurd inside (Nat.lt_irrefl 0)
  · rcases stepped.data with same | allowed
    · rw [same]
      exact relied known
    · exact stable _ _ allowed (relied known)
  · rw [after, ← before]
    exact safe

/-- A thread that waits. -/
theorem Fits.enter {op : Op} {next : LockProg σ Op α}
    (fits : Fits wait rely guar post t (.enter op next) q m) :
    ∃ q', wait q op = some q' ∧ Fits wait rely guar post t next q' m := by
  obtain ⟨s, current, relied, q', moves, safe⟩ := fits
  exact ⟨q', moves, s, current, relied, safe⟩

/-- A thread that fits can take a step unless it has ended or waits, or another holds
the lock. -/
theorem Fits.can_advance (fits : Fits wait rely guar post t p q m)
    (running : ∀ a, p ≠ .ret a) (busy : ∀ op next, p ≠ .enter op next)
    (free : ∀ holder depth, m.owner = some (holder, depth) → holder = t) :
    ∃ next, LockProg.advance t p m = some next := by
  obtain ⟨s, current, relied, safe⟩ := fits
  cases p with
  | ret a => exact absurd rfl (running a)
  | enter op next => exact absurd rfl (busy op next)
  | stop => exact safe.elim
  | get next => exact ⟨_, rfl⟩
  | set s' next => exact ⟨_, rfl⟩
  | lock next =>
      obtain ⟨m', taken⟩ := take_enabled free
      exact ⟨(next, m'), by rw [LockProg.advance, taken, Option.map_some]⟩
  | unlock next =>
      obtain ⟨m', released⟩ := release_enabled (owner_of_depthOf safe.1)
      exact ⟨(next, m'), by rw [LockProg.advance, released, Option.map_some]⟩

end Fits

end LockProg

end IpxWrapper.Base
