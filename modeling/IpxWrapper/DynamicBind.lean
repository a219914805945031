import IpxWrapper.SocketTableInv

/-!
# The search for a dynamic socket number (`winsock.c`)

Asked for no number, `_complete_bind` tries the numbers from 1024 on, with a handle opened
and closed for each that another socket has. The counter is a `uint16_t` and is compared
with 65535 as it is incremented: `dynamicBind_least`.
-/

namespace IpxWrapper

open Base

/-- What `CreateMutex` finds for each number, and does. -/
structure DynamicEnv where
  /-- Some process has a handle of the mutex. -/
  held : UInt16 → Bool
  /-- `CreateMutex` does not fail. -/
  creates : UInt16 → Bool
  /-- The value of the handle. -/
  handle : UInt16 → Nat

def DynamicEnv.outcome (env : DynamicEnv) (n : UInt16) : MutexOutcome :=
  if env.creates n then if env.held n then .existed else .created else .failed

/-- What the call for `n` meets. -/
def DynamicEnv.mutex (env : DynamicEnv) (n : UInt16) : MutexEnv := ⟨env.outcome, env.handle n⟩

/-- The number is one of the dynamic range, is not held, and its mutex could be made. -/
structure DynamicEnv.Free (env : DynamicEnv) (n : UInt16) : Prop where
  dynamic : 1024 ≤ n
  unheld : env.held n = false
  created : env.creates n = true

/-- The number is the least such. -/
structure DynamicEnv.LeastFree (env : DynamicEnv) (n : UInt16) : Prop where
  free : env.Free n
  least : ∀ k, env.Free k → n ≤ k

/-- One pass of the loop. -/
def dynamicBindPass (env : DynamicEnv) (id : Nat) (sock : IpxSocket) (s : UInt16 × World) :
    Iter (UInt16 × World) (Bool × IpxSocket × World) :=
  dynamicBindBody (env.mutex s.1) id sock s

/-- `_complete_bind`, for a socket with the number 0. -/
def dynamicBind (env : DynamicEnv) (id : Nat) (sock : IpxSocket) (w : World) :
    Bool × IpxSocket × World :=
  match Loop.run (dynamicBindPass env id sock) (65536 - 1024) (1024, w) with
  | .done result => result
  | .next (_, w) => (false, sock, w)

/-- It is `completeBind` where the system gives out one value again and again. -/
theorem completeBind_eq_dynamicBind {env : DynamicEnv} {id handle : Nat} {sock : IpxSocket} {w : World}
    (zero : htons sock.addr.socket = 0) (same : ∀ n, env.handle n = handle) :
    completeBind ⟨env.outcome, handle⟩ id sock w = dynamicBind env id sock w := by
  have body : dynamicBindPass env id sock = dynamicBindBody ⟨env.outcome, handle⟩ id sock := by
    funext s
    unfold dynamicBindPass DynamicEnv.mutex
    rw [same]
  unfold dynamicBind
  rw [body]
  exact if_pos zero

/-- The socket, bound with the number. -/
def IpxSocket.boundWith (sock : IpxSocket) (n : UInt16) (handle : Nat) : IpxSocket :=
  { sock with
    addr := { sock.addr with socket := htons n }
    sockMut := handle
    flags := { sock.flags with bound := true } }

/-- What `_complete_bind` is to do for a socket with the number 0. -/
structure BindsLeast (env : DynamicEnv) (id : Nat) (sock : IpxSocket) (w : World) : Prop where
  /-- The loop is left. -/
  terminates : Loop.Yields (dynamicBindPass env id sock) (1024, w) (dynamicBind env id sock w)
  /-- The counter has not wrapped in any pass. -/
  counts : ∀ k n w', Loop.run (dynamicBindPass env id sock) k (1024, w) = .next (n, w') →
    n.toNat = 1024 + k
  /-- The socket gets the least number that is free, with the one handle that is left open. -/
  binds : ∀ n, env.LeastFree n → dynamicBind env id sock w =
    (true, sock.boundWith n (env.handle n), w.openHandle id (env.handle n) n)
  /-- Nothing is bound or left open if there is none. -/
  fails : (¬ ∃ n, env.Free n) → dynamicBind env id sock w = (false, sock, w)
  fails_iff : (dynamicBind env id sock w).1 = false ↔ ¬ ∃ n, env.Free n

/-- How the search may end. -/
inductive SearchEnd (env : DynamicEnv) (id : Nat) (sock : IpxSocket) (w : World) :
    Bool × IpxSocket × World → Prop where
  | found {n : UInt16} (least : env.LeastFree n) : SearchEnd env id sock w
      (true, sock.boundWith n (env.handle n), w.openHandle id (env.handle n) n)
  | none (taken : ¬ ∃ n, env.Free n) : SearchEnd env id sock w (false, sock, w)

section Search

variable {env : DynamicEnv} {id : Nat} {sock : IpxSocket} {w w' : World} {n n' : UInt16}

/-- `_open_socket_mutex`, asked for a mutex of its own, leaves no handle behind when it fails. -/
theorem openSocketMutex_exclusive (fresh : w.handles (env.handle n) = none) :
    openSocketMutex (env.mutex n) id n true w =
      if env.held n = false ∧ env.creates n = true then
        (some (env.handle n), w.openHandle id (env.handle n) n)
      else (none, w) := by
  have closed : (w.openHandle id (env.handle n) n).closeHandle id (env.handle n) = w :=
    closeHandle_openHandle fresh id n
  unfold openSocketMutex DynamicEnv.mutex
  cases creates : env.creates n with
  | false => simp [DynamicEnv.outcome, creates]
  | true =>
      cases held : env.held n with
      | false => simp [DynamicEnv.outcome, creates, held]
      | true => simp [DynamicEnv.outcome, creates, held, closed]

/-- A pass finds the number free, or is the last, or goes on with the next number and the handles
as they were. -/
theorem dynamicBindPass_eq (fresh : w.handles (env.handle n) = none) :
    dynamicBindPass env id sock (n, w) =
      if env.held n = false ∧ env.creates n = true then
        .done (true, sock.boundWith n (env.handle n), w.openHandle id (env.handle n) n)
      else if n = 65535 then .done (false, sock, w)
      else .next (n + 1, w) := by
  unfold dynamicBindPass dynamicBindBody
  dsimp only
  rw [openSocketMutex_exclusive fresh]
  by_cases free : env.held n = false ∧ env.creates n = true
  · rw [if_pos free, if_pos free]
    rfl
  · rw [if_neg free, if_neg free]

variable (fresh : ∀ n, w.handles (env.handle n) = none)
include fresh

theorem dynamicBindPass_next
    (pass : dynamicBindPass env id sock (n, w) = .next (n', w')) :
    n ≠ 65535 ∧ n' = n + 1 ∧ w' = w ∧ ¬ (env.held n = false ∧ env.creates n = true) := by
  rw [dynamicBindPass_eq (fresh n)] at pass
  split at pass
  · cases pass
  · rename_i taken
    split at pass
    · cases pass
    · rename_i more
      obtain ⟨rfl, rfl⟩ := Prod.mk.inj (Iter.next.inj pass)
      exact ⟨more, rfl, rfl, taken⟩

omit fresh in
theorem toNat_succ (more : n ≠ 65535) : (n + 1).toNat = n.toNat + 1 := by
  have bound := n.toNat_lt
  have last : n.toNat ≠ 65535 := fun last => more (UInt16.toNat_inj.mp last)
  rw [UInt16.toNat_add]
  exact Nat.mod_eq_of_lt (show n.toNat + 1 < 65536 by omega)

/-- Going round is counting: no pass takes the counter past 65535. -/
theorem dynamicBind_counts (k : Nat) :
    ∀ {n}, Loop.run (dynamicBindPass env id sock) k (n, w) = .next (n', w') →
      n'.toNat = n.toNat + k := by
  induction k with
  | zero =>
      intro n run
      obtain ⟨rfl, -⟩ := Prod.mk.inj (Iter.next.inj run)
      rfl
  | succ k ih =>
      intro n run
      cases pass : dynamicBindPass env id sock (n, w) with
      | done a =>
          rw [Loop.run_succ_of_done pass] at run
          cases run
      | next s =>
          obtain ⟨more, next, same, -⟩ := dynamicBindPass_next fresh pass
          obtain rfl : s = (n + 1, w) := Prod.ext next same
          rw [Loop.run_succ_of_next pass] at run
          have counted := ih run
          rw [toNat_succ more] at counted
          omega

theorem dynamicBind_terminates :
    Loop.run (dynamicBindPass env id sock) (65536 - 1024) (1024, w) =
      .done (dynamicBind env id sock w) := by
  unfold dynamicBind
  cases run : Loop.run (dynamicBindPass env id sock) (65536 - 1024) (1024, w) with
  | done a => rfl
  | next s =>
      -- the counter would stand at 65536
      obtain ⟨n', w'⟩ := s
      have counted := dynamicBind_counts fresh (65536 - 1024) run
      have bound := n'.toNat_lt
      rw [show (1024 : UInt16).toNat = 1024 from rfl] at counted
      omega

theorem dynamicBind_ends : SearchEnd env id sock w (dynamicBind env id sock w) := by
  -- the numbers behind the counter are not free
  refine Loop.Yields.post
    (I := fun s : UInt16 × World => s.2 = w ∧ 1024 ≤ s.1 ∧ ∀ k, env.Free k → s.1 ≤ k)
    ?_ ?_ ⟨rfl, UInt16.le_refl _, fun k free => free.dynamic⟩ ⟨_, dynamicBind_terminates fresh⟩
  · rintro ⟨n, w₁⟩ ⟨n', w'⟩ ⟨rfl, dynamic, least⟩ pass
    obtain ⟨more, rfl, rfl, taken⟩ := dynamicBindPass_next fresh pass
    have succ := toNat_succ more
    dsimp only at dynamic least ⊢
    refine ⟨rfl, ?_, fun k free => ?_⟩
    · rw [UInt16.le_iff_toNat_le] at dynamic ⊢
      omega
    · have other : n ≠ k := by
        rintro rfl
        exact taken ⟨free.unheld, free.created⟩
      have behind := least k free
      rw [UInt16.le_iff_toNat_le] at behind ⊢
      have := mt UInt16.toNat_inj.mp other
      omega
  · rintro ⟨n, w₁⟩ result ⟨rfl, dynamic, least⟩ pass
    rw [dynamicBindPass_eq (fresh n)] at pass
    split at pass
    · rename_i found
      obtain rfl := Iter.done.inj pass
      exact .found ⟨⟨dynamic, found.1, found.2⟩, least⟩
    · rename_i taken
      split at pass
      · rename_i last
        obtain rfl := Iter.done.inj pass
        refine .none fun ⟨k, free⟩ => taken ?_
        have top := least k free
        have bound := k.toNat_lt
        rw [UInt16.le_iff_toNat_le, last] at top
        have least : k.toNat ≤ 65535 := by omega
        obtain rfl : k = 65535 := UInt16.toNat_inj.mp (Nat.le_antisymm least top)
        rw [last]
        exact ⟨free.unheld, free.created⟩
      · cases pass

end Search

/-- `_complete_bind` ends, in one pass over the numbers, with the least free one bound, or with
the socket as it was if all are taken. -/
theorem dynamicBind_least (env : DynamicEnv) (id : Nat) (sock : IpxSocket) (w : World)
    (fresh : ∀ n, w.handles (env.handle n) = none) : BindsLeast env id sock w := by
  have ends : SearchEnd env id sock w (dynamicBind env id sock w) := dynamicBind_ends fresh
  refine ⟨⟨_, dynamicBind_terminates fresh⟩, fun k n w' run => ?_, fun n least => ?_,
    fun taken => ?_, ?_⟩
  · exact dynamicBind_counts fresh k run
  · generalize dynamicBind env id sock w = result at ends ⊢
    cases ends with
    | @found n' other =>
        obtain rfl : n' = n :=
          UInt16.le_antisymm (other.least n least.free) (least.least n' other.free)
        rfl
    | none taken => exact absurd ⟨n, least.free⟩ taken
  · generalize dynamicBind env id sock w = result at ends ⊢
    cases ends with
    | @found n least => exact absurd ⟨n, least.free⟩ taken
    | none _ => rfl
  · generalize dynamicBind env id sock w = result at ends ⊢
    cases ends with
    | @found n least => exact iff_of_false Bool.noConfusion (not_not_intro ⟨n, least.free⟩)
    | none taken => exact iff_of_true rfl taken

theorem dynamicBind_least_held :
    BindsLeast ⟨fun n => n = 1024, fun n => n ≠ 1025, UInt16.toNat⟩ 0
      ⟨3, 0, {}, 0, 0, ⟨6, 1, 2, 0⟩, 0, ⟨6, 0, 0, 0⟩, 7⟩ (.init .ipxwrapper) :=
  dynamicBind_least _ 0 _ _ fun _ => rfl

end IpxWrapper
