import IpxWrapper.Base.DlList
import IpxWrapper.Base.LockOwner

/-!
# Walks of lists behind a lock

The loops over a doubly linked list of the data, as programs: the list is walked by the
numbers of its nodes, and each node is looked up when it is read or written. What is asked of
a node that has been freed is a `fail`, after which the thread does nothing more.

`KeepsHeld` is `Keeps` for a program that leaves the lock as it found it. A walk keeps the
discipline if its body does at each entry of the list (`keepsHeld_foreach`), and so does one
that takes the entries away (`keepsHeld_foreachSafe`).
-/

namespace IpxWrapper.Base

namespace LockProg

variable {σ Op Q α β ε ρ : Type}

/-! ## Steps -/

section Steps

variable (fail : σ → σ)

/-- The node is read. -/
def visit (nodes : σ → DlNodes α) (a : Nat) : LockProg σ Op (DlNode α) :=
  get fun s =>
    match nodes s a with
    | some n => ret n
    | none => set (fail s) stop

/-- The nodes are written; `none` if one of them is not there. -/
def change (f : σ → Option σ) : LockProg σ Op Unit :=
  get fun s =>
    match f s with
    | some s' => set s' (ret ())
    | none => set (fail s) stop

/-- `DL_FOREACH`, if it goes round `rounds` times at most: the body ends the loop or has it go
on. -/
def dlForeach (nodes : σ → DlNodes α) (body : ρ → Nat → LockProg σ Op (ForInStep ρ)) :
    Nat → Option Nat → ρ → LockProg σ Op ρ
  | _, none, r => pure r
  | 0, some _, _ => stop
  | rounds + 1, some el, r => do
      match ← body r el with
      | .done r => pure r
      | .yield r => do
          let n ← visit fail nodes el
          dlForeach nodes body rounds n.next r

/-- `DL_FOREACH_SAFE`, if it goes round `rounds` times at most. -/
def dlForeachSafe (nodes : σ → DlNodes α) (body : Nat → LockProg σ Op Unit) :
    Nat → Option Nat → LockProg σ Op Unit
  | _, none => pure ()
  | 0, some _ => stop
  | rounds + 1, some el => do
      let n ← visit fail nodes el
      body el
      dlForeachSafe nodes body rounds n.next

end Steps

/-- What a loop makes of the entries. -/
def walk (step : ρ → ε → ForInStep ρ) : ρ → List ε → ρ
  | r, [] => r
  | r, e :: rest =>
      match step r e with
      | .done r => r
      | .yield r => walk step r rest

theorem walk_map {δ : Type} (step : ρ → ε → ForInStep ρ) (f : δ → ε) (r : ρ) (es : List δ) :
    walk step r (es.map f) = walk (fun r e => step r (f e)) r es := by
  induction es generalizing r with
  | nil => rfl
  | cons e rest ih =>
      rw [List.map_cons, walk, walk]
      cases step r (f e) with
      | done r' => rfl
      | yield r' => exact ih r'

/-- A loop that ends at the first entry that is `p`. -/
theorem walk_find (p : ε → Bool) (f : ε → ρ) (r : ρ) (es : List ε) :
    walk (fun _ e => if p e then .done (f e) else .yield r) r es =
      ((es.find? p).map f).getD r := by
  induction es with
  | nil => rfl
  | cons e rest ih =>
      rw [walk, List.find?_cons]
      cases p e with
      | true => rfl
      | false => exact ih

/-- A loop that ends at the first entry that is `p`, and says if there is one. -/
theorem walk_any (p : ε → Bool) (es : List ε) :
    walk (fun _ e => if p e then .done true else .yield false) false es = es.any p := by
  induction es with
  | nil => rfl
  | cons e rest ih =>
      rw [walk, List.any_cons]
      cases p e with
      | true => rfl
      | false => exact ih

/-! ## Rules -/

section Rules

/-- The program keeps the discipline, and returns with the lock held as before and with `P`. -/
def KeepsHeld (D : Discipline σ Op Q) (p : LockProg σ Op β) (q : Q) (d : Nat) (s : σ)
    (P : β → σ → Prop) : Prop :=
  p.Keeps D q d s fun b q' d' s' => q' = q ∧ d' = d ∧ P b s'

variable {D : Discipline σ Op Q} {q : Q} {d : Nat} {s : σ} {P : β → σ → Prop} {fail : σ → σ}
  {nodes : σ → DlNodes α}

theorem keepsHeld_pure {b : β} (holds : P b s) : KeepsHeld D (pure b) q d s P :=
  ⟨rfl, rfl, holds⟩

theorem KeepsHeld.mono {p : LockProg σ Op β} {P' : β → σ → Prop} (keeps : KeepsHeld D p q d s P)
    (weaker : ∀ b s', P b s' → P' b s') : KeepsHeld D p q d s P' :=
  Keeps.mono keeps fun b _ _ s' reached => ⟨reached.1, reached.2.1, weaker b s' reached.2.2⟩

theorem KeepsHeld.andThen {p : LockProg σ Op α} {f : α → LockProg σ Op β} {P' : α → σ → Prop}
    {post : β → Q → Nat → σ → Prop} (first : KeepsHeld D p q d s P')
    (rest : ∀ a s', P' a s' → (f a).Keeps D q d s' post) : (p >>= f).Keeps D q d s post := by
  rw [keeps_bind]
  refine Keeps.mono first fun a q' d' s' reached => ?_
  obtain ⟨rfl, rfl, holds⟩ := reached
  exact rest a s' holds

theorem KeepsHeld.bind {p : LockProg σ Op α} {f : α → LockProg σ Op β} {P' : α → σ → Prop}
    (first : KeepsHeld D p q d s P') (rest : ∀ a s', P' a s' → KeepsHeld D (f a) q d s' P) :
    KeepsHeld D (p >>= f) q d s P :=
  first.andThen rest

theorem keepsHeld_read {f : σ → LockProg σ Op β} (owns : D.Owns q d)
    (rest : KeepsHeld D (f s) q d s P) : KeepsHeld D (read >>= f) q d s P :=
  ⟨owns, rest⟩

theorem keepsHeld_visit {a : Nat} {n : DlNode α} (owns : D.Owns q d) (there : nodes s a = some n) :
    KeepsHeld D (visit fail nodes a) q d s fun n' s' => n' = n ∧ s' = s := by
  unfold KeepsHeld visit Keeps
  dsimp only
  rw [there]
  exact ⟨owns, rfl, rfl, rfl, rfl⟩

theorem keepsHeld_change {f : σ → Option σ} {s' : σ} (owns : D.Owns q d) (inside : 0 < d)
    (changed : f s = some s') (allowed : D.writes s s') :
    KeepsHeld D (change fail f) q d s fun _ s'' => s'' = s' := by
  unfold KeepsHeld change Keeps
  dsimp only
  rw [changed]
  exact ⟨owns, owns, allowed, fun free => absurd free (Nat.ne_of_gt inside), rfl, rfl, rfl⟩

/-- A loop reads the entries in their order, and leaves the data as it is. -/
theorem keepsHeld_foreach {entry : ε → Nat × α} {body : ρ → Nat → LockProg σ Op (ForInStep ρ)}
    {step : ρ → ε → ForInStep ρ} {es : List ε} {before : Nat} (owns : D.Owns q d)
    (chained : Chained (nodes s) before (es.map entry))
    (keeps : ∀ e ∈ es, ∀ r, KeepsHeld D (body r (entry e).1) q d s
      fun next s' => next = step r e ∧ s' = s)
    (rounds : Nat) (r : ρ) :
    KeepsHeld D (dlForeach fail nodes body rounds (headOf (es.map entry)) r) q d s
      fun r' s' => r' = walk step r es ∧ s' = s := by
  induction es generalizing before rounds r with
  | nil =>
      unfold dlForeach
      exact keepsHeld_pure ⟨rfl, rfl⟩
  | cons e rest ih =>
      obtain ⟨there, after⟩ := chained
      cases rounds with
      | zero => trivial
      | succ rounds =>
          refine (keeps e List.mem_cons_self r).bind fun next s' reached => ?_
          obtain ⟨rfl, rfl⟩ := reached
          unfold walk
          cases step r e with
          | done r' => exact keepsHeld_pure ⟨rfl, rfl⟩
          | yield r' =>
              refine (keepsHeld_visit owns there).bind fun n s' reached => ?_
              obtain ⟨rfl, rfl⟩ := reached
              exact ih after (fun e member => keeps e (List.mem_cons_of_mem _ member)) rounds r'

/-- A loop that takes the entries away, one after the other: `I` is what holds of the entries
that are left. -/
theorem keepsHeld_foreachSafe {entry : ε → Nat × α} {body : Nat → LockProg σ Op Unit}
    {I : List ε → σ → Prop} (owns : D.Owns q d)
    (there : ∀ e rest s, I (e :: rest) s →
      ∃ n, nodes s (entry e).1 = some n ∧ n.next = headOf (rest.map entry))
    (keeps : ∀ e rest s, I (e :: rest) s →
      KeepsHeld D (body (entry e).1) q d s fun _ s' => I rest s')
    {es : List ε} (holds : I es s) (rounds : Nat) :
    KeepsHeld D (dlForeachSafe fail nodes body rounds (headOf (es.map entry))) q d s
      fun _ s' => I [] s' := by
  induction es generalizing s rounds with
  | nil =>
      unfold dlForeachSafe
      exact keepsHeld_pure holds
  | cons e rest ih =>
      cases rounds with
      | zero => trivial
      | succ rounds =>
          obtain ⟨n, here, next⟩ := there e rest s holds
          refine (keepsHeld_visit owns here).bind fun n' s' reached => ?_
          obtain ⟨rfl, rfl⟩ := reached
          refine (keeps e rest s' holds).bind fun _ s'' left => ?_
          rw [next]
          exact ih left rounds

end Rules

end LockProg

end IpxWrapper.Base
