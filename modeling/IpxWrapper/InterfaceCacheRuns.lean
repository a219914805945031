import IpxWrapper.Base.Run
import IpxWrapper.InterfaceCacheCalls

/-!
# Threads at the interface cache (`interface.c`, `router.c`)

The threads of the application and that of the router call the functions of `interface.c`, and
each step of a thread is a step of the system, in any order. `renew_interface_cache` is to be
called with `interface_cache_cs` held. The lookups hold it; `ipx_interfaces_reload`, which the
router calls when the DOSBox server has answered, does not, and a lookup may then come to a
node that is no more. As long as no thread is in it every step is `Guarded`
(`ifaceMoves_guarded_iff`), and each lookup returns what a list of interfaces gives that was
the cache between its call and its return (`ifaceMoves_answers`).
-/

namespace IpxWrapper

open Base LockProg

/-! ## Steps -/

structure IfaceSystem where
  lock : Shared Nat CacheData
  /-- The call of each thread, and what is left of its program. -/
  threads : Nat → Option (IfaceCall × CacheProg IfaceResult)

inductive IfaceAct where
  /-- Thread `t` makes a call. -/
  | call (t : Nat) (call : IfaceCall) (env : CacheEnv)
  /-- A step of thread `t`. -/
  | step (t : Nat)

def IfaceSystem.setThread (s : IfaceSystem) (t : Nat)
    (thread : Option (IfaceCall × CacheProg IfaceResult)) : IfaceSystem :=
  { s with threads := Function.update s.threads t thread }

/-- A thread was set, or is another and as it was. -/
theorem IfaceSystem.setThread_cases {s : IfaceSystem} {t t' : Nat}
    {thread thread' : Option (IfaceCall × CacheProg IfaceResult)}
    (running : (s.setThread t thread).threads t' = thread') :
    (t' = t ∧ thread = thread') ∨ (t' ≠ t ∧ s.threads t' = thread') := by
  unfold IfaceSystem.setThread at running
  dsimp only at running
  rcases eq_or_ne t' t with rfl | other
  · rw [Function.update_self] at running
    exact .inl ⟨rfl, running⟩
  · rw [Function.update_of_ne other] at running
    exact .inr ⟨other, running⟩

def ifaceStep (encap : EncapType) (act : IfaceAct) (s : IfaceSystem) : Option IfaceSystem :=
  match act with
  | .call t call env =>
      if (s.threads t).isNone then some (s.setThread t (some (call, call.prog encap env))) else none
  | .step t =>
      match s.threads t with
      | none => none
      | some (_, .ret _) => some (s.setThread t none)
      | some (call, p) =>
          (p.advance t s.lock).map fun after =>
            { s with lock := after.2 }.setThread t (some (call, after.1))

abbrev IfaceMove := Move IfaceAct IfaceSystem

/-- The steps of a run after `ipx_interfaces_init`. -/
def ifaceMoves (encap : EncapType) (loaded : List IpxInterface) (ctime : Int)
    (acts : List IfaceAct) : List IfaceMove :=
  moves (ifaceStep encap) acts ⟨⟨none, .init loaded ctime⟩, fun _ => none⟩

/-! ## What a step does -/

/-- The step is one of thread `t`, which is in the call. -/
def IfaceMove.StepOf (m : IfaceMove) (t : Nat) (call : IfaceCall) (p : CacheProg IfaceResult) :
    Prop :=
  m.input = .step t ∧ m.before.threads t = some (call, p)

/-- What the step reads or writes of the cache it does with the lock held, and no node has been
used that was freed. -/
structure IfaceMove.Guarded (m : IfaceMove) : Prop where
  held : ∀ t call p, m.StepOf t call p → p.Touches → 0 < depthOf t m.before.lock
  sound : m.after.lock.data.misuse = false

/-- The step is one of `ipx_interfaces_reload`, and WinPcap is not in use. -/
def IfaceMove.Reloads (m : IfaceMove) (encap : EncapType) : Prop :=
  ∃ t call p, m.StepOf t call p ∧ call.Reloads encap

/-- In `past` thread `t` has made the call, and no other since; then, or later, the cache has
been `s`. -/
def HeldDuring (past : List IfaceMove) (t : Nat) (call : IfaceCall) (env : CacheEnv)
    (s : CacheData) : Prop :=
  ∃ i k : Nat, i ≤ k ∧ (∃ m : IfaceMove, past[i]? = some m ∧ m.input = .call t call env) ∧
    (∀ (j : Nat) (m : IfaceMove), i < j → past[j]? = some m →
      ∀ call' env', m.input ≠ .call t call' env') ∧
    ∃ m : IfaceMove, past[k]? = some m ∧ m.after.lock.data = s

section History

variable {past : List IfaceMove} {m : IfaceMove} {t : Nat} {call : IfaceCall} {env : CacheEnv}
  {s : CacheData}

theorem getElem?_concat_of_some {i : Nat} {m' : IfaceMove} (at_i : past[i]? = some m') :
    (past ++ [m])[i]? = some m' :=
  (List.getElem?_append_left (List.getElem?_eq_some_iff.mp at_i).1).trans at_i

/-- The move is none that begins a call of the thread. -/
theorem calls_none_concat {i : Nat}
    (none : ∀ (j : Nat) (m : IfaceMove), i < j → past[j]? = some m →
      ∀ call' env', m.input ≠ .call t call' env')
    (other : ∀ call' env', m.input ≠ .call t call' env') (j : Nat) (m' : IfaceMove) (after : i < j)
    (at_j : (past ++ [m])[j]? = some m') (call' : IfaceCall) (env' : CacheEnv) :
    m'.input ≠ .call t call' env' := by
  have within := (List.getElem?_eq_some_iff.mp at_j).1
  rw [List.length_append, List.length_singleton] at within
  rcases Nat.lt_succ_iff_lt_or_eq.mp within with earlier | rfl
  · rw [List.getElem?_append_left earlier] at at_j
    exact none j m' after at_j call' env'
  · rw [List.getElem?_concat_length] at at_j
    obtain rfl := Option.some.inj at_j
    exact other call' env'

theorem HeldDuring.concat (held : HeldDuring past t call env s)
    (other : ∀ call' env', m.input ≠ .call t call' env') :
    HeldDuring (past ++ [m]) t call env s := by
  obtain ⟨i, k, le, ⟨mi, at_i, input⟩, none, mk, at_k, data⟩ := held
  exact ⟨i, k, le, ⟨mi, getElem?_concat_of_some at_i, input⟩, calls_none_concat none other, mk,
    getElem?_concat_of_some at_k, data⟩

/-- The cache as the move leaves it. -/
theorem HeldDuring.last (held : HeldDuring past t call env s)
    (other : ∀ call' env', m.input ≠ .call t call' env') :
    HeldDuring (past ++ [m]) t call env m.after.lock.data := by
  obtain ⟨i, -, -, ⟨mi, at_i, input⟩, none, -⟩ := held
  have before := (List.getElem?_eq_some_iff.mp at_i).1
  exact ⟨i, past.length, before.le, ⟨mi, getElem?_concat_of_some at_i, input⟩,
    calls_none_concat none other, m, List.getElem?_concat_length, rfl⟩

theorem heldDuring_called (called : m.input = .call t call env) :
    HeldDuring (past ++ [m]) t call env m.after.lock.data := by
  refine ⟨past.length, past.length, le_rfl, ⟨m, List.getElem?_concat_length, called⟩, ?_, m,
    List.getElem?_concat_length, rfl⟩
  intro j m' after at_j
  have within := (List.getElem?_eq_some_iff.mp at_j).1
  rw [List.length_append, List.length_singleton] at within
  omega

end History

/-! ## The invariant -/

/-- A thread in a call; one that reloads has not begun. What another knows of the cache has
been there since its call. -/
structure IfaceThread (encap : EncapType) (past : List IfaceMove) (lock : Shared Nat CacheData)
    (t : Nat) (call : IfaceCall) (p : CacheProg IfaceResult) : Prop where
  waits : call.Reloads encap → depthOf t lock = 0 ∧ ∃ env, p = call.prog encap env
  keeps : ¬ call.Reloads encap → ∃ env s, HeldDuring past t call env s ∧
    (cacheDiscipline.Owns () (depthOf t lock) → s = lock.data) ∧
    p.Keeps cacheDiscipline () (depthOf t lock) s fun r _ d s =>
      d = 0 ∧ LockedCache.Answered encap env (call.answer env.malloc) r s

structure CacheInv (encap : EncapType) (past : List IfaceMove) (s : IfaceSystem) : Prop where
  counted : Counted s.lock
  rest : AtRest cacheDiscipline s.lock
  sound : s.lock.data.misuse = false
  idle : ∀ t, s.threads t = none → depthOf t s.lock = 0
  threads : ∀ t call p, s.threads t = some (call, p) → IfaceThread encap past s.lock t call p

section Step

variable {encap : EncapType} {past : List IfaceMove} {s : IfaceSystem} {t : Nat}
  {call : IfaceCall} {p : CacheProg IfaceResult} {m : IfaceMove}

/-- The first step of a reload is to read the head of the list. -/
theorem reload_touches {env : CacheEnv} (reloads : call.Reloads encap) :
    (call.prog encap env).Touches := by
  obtain ⟨rfl, other⟩ := reloads
  unfold IfaceCall.prog LockedCache.ipxInterfacesReload LockedCache.renewInterfaceCache
  rw [if_neg other]
  trivial

theorem CacheInv.init (loaded : List IpxInterface) (ctime : Int) :
    CacheInv encap [] ⟨⟨none, .init loaded ctime⟩, fun _ => none⟩ :=
  ⟨nofun, fun _ => ⟨_, cached_load _ loaded rfl⟩, rfl, fun _ _ => rfl, nofun⟩

theorem IfaceThread.concat {lock : Shared Nat CacheData}
    (thread : IfaceThread encap past lock t call p)
    (other : ∀ call' env', m.input ≠ .call t call' env') :
    IfaceThread encap (past ++ [m]) lock t call p := by
  refine ⟨thread.waits, fun locks => ?_⟩
  obtain ⟨env, s, held, rest⟩ := thread.keeps locks
  exact ⟨env, s, held.concat other, rest⟩

/-- A step of another thread. -/
theorem IfaceThread.of_other {lock lock' : Shared Nat CacheData} {t' : Nat}
    (thread : IfaceThread encap past lock t call p)
    (stepped : OwnerStep cacheDiscipline t' () lock lock') (other : t ≠ t') :
    IfaceThread encap past lock' t call p := by
  have same := stepped.others t other
  refine ⟨fun reloads => ⟨same.trans (thread.waits reloads).1, (thread.waits reloads).2⟩, ?_⟩
  intro locks
  obtain ⟨env, s, held, current, keeps⟩ := thread.keeps locks
  refine ⟨env, s, held, stepped.current current other not_false not_false, ?_⟩
  rwa [same]

/-- A thread makes a call. -/
theorem CacheInv.called {env : CacheEnv} (inv : CacheInv encap past m.before)
    (free : m.before.threads t = none) (called : m.input = .call t call env)
    (after : m.after = m.before.setThread t (some (call, call.prog encap env))) :
    CacheInv encap (past ++ [m]) m.after := by
  have made : HeldDuring (past ++ [m]) t call env m.after.lock.data := heldDuring_called called
  rw [after] at made ⊢
  refine ⟨inv.counted, inv.rest, inv.sound, fun t' gone => ?_, fun t' call' p' running => ?_⟩
  · rcases IfaceSystem.setThread_cases gone with ⟨rfl, -⟩ | ⟨-, idle⟩
    · exact inv.idle t' free
    · exact inv.idle t' idle
  · rcases IfaceSystem.setThread_cases running with ⟨rfl, same⟩ | ⟨other, running⟩
    · obtain ⟨rfl, rfl⟩ := Prod.mk.inj (Option.some.inj same)
      have outside : depthOf t' m.before.lock = 0 := inv.idle t' free
      refine ⟨fun _ => ⟨outside, env, rfl⟩, fun locks => ⟨env, _, made, fun _ => rfl, ?_⟩⟩
      change LockProg.Keeps cacheDiscipline _ () (depthOf t' m.before.lock) _ _
      rw [outside]
      exact prog_returns locks _
    · refine (inv.threads t' call' p' running).concat fun call'' env'' again => ?_
      cases called.symm.trans again
      exact other rfl

theorem CacheInv.returned {r : IfaceResult} (inv : CacheInv encap past s)
    (running : s.threads t = some (call, .ret r)) (locks : ¬ call.Reloads encap) :
    depthOf t s.lock = 0 ∧ ∃ env data, HeldDuring past t call env data ∧
      LockedCache.Answered encap env (call.answer env.malloc) r data := by
  obtain ⟨env, data, held, -, released, answered⟩ := (inv.threads t call _ running).keeps locks
  exact ⟨released, env, data, held, answered⟩

/-- A thread returns. -/
theorem CacheInv.ret {r : IfaceResult} (inv : CacheInv encap past m.before)
    (running : m.before.threads t = some (call, .ret r)) (locks : ¬ call.Reloads encap)
    (step : m.input = .step t) (after : m.after = m.before.setThread t none) :
    CacheInv encap (past ++ [m]) m.after := by
  rw [after]
  refine ⟨inv.counted, inv.rest, inv.sound, fun t' gone => ?_, fun t' call' p' running' => ?_⟩
  · rcases IfaceSystem.setThread_cases gone with ⟨rfl, -⟩ | ⟨-, idle⟩
    · exact (inv.returned running locks).1
    · exact inv.idle t' idle
  · rcases IfaceSystem.setThread_cases running' with ⟨-, same⟩ | ⟨-, running'⟩
    · cases same
    · refine (inv.threads t' call' p' running').concat fun call'' env'' again => ?_
      cases step.symm.trans again

/-- A thread that does not reload takes a step with the lock or with the cache. -/
theorem CacheInv.advance {p' : CacheProg IfaceResult} {lock : Shared Nat CacheData}
    (inv : CacheInv encap past m.before) (running : m.before.threads t = some (call, p))
    (locks : ¬ call.Reloads encap) (step : p.advance t m.before.lock = some (p', lock))
    (input : m.input = .step t)
    (after : m.after = { m.before with lock := lock }.setThread t (some (call, p'))) :
    CacheInv encap (past ++ [m]) m.after := by
  have uncalled : ∀ t' call' env', m.input ≠ .call t' call' env' := by
    intro t' call' env' again
    cases input.symm.trans again
  obtain ⟨env, data, held, current, keeps⟩ := (inv.threads t call p running).keeps locks
  obtain ⟨keeps', stepped, counted, rest⟩ := keeps.advance current inv.counted inv.rest step
  have seen := held.last (uncalled t)
  rw [after] at seen ⊢
  refine ⟨counted, rest, ?_, fun t' gone => ?_, fun t' call' p'' running' => ?_⟩
  · rcases stepped.data with same | ⟨-, sound, -⟩
    · exact (congrArg CacheData.misuse same).trans inv.sound
    · exact sound
  · rcases IfaceSystem.setThread_cases gone with ⟨-, same⟩ | ⟨other, idle⟩
    · cases same
    · exact (stepped.others t' other).trans (inv.idle t' idle)
  · rcases IfaceSystem.setThread_cases running' with ⟨rfl, same⟩ | ⟨other, running'⟩
    · obtain ⟨rfl, rfl⟩ := Prod.mk.inj (Option.some.inj same)
      exact ⟨fun reloads => absurd reloads locks, fun _ => ⟨env, _, seen, fun _ => rfl, keeps'⟩⟩
    · have thread := inv.threads t' call' p'' running'
      exact (thread.of_other stepped other).concat (uncalled t')

/-- Every step that is not one of a reload keeps the invariant, and is guarded. -/
theorem CacheInv.step (inv : CacheInv encap past m.before)
    (enabled : ifaceStep encap m.input m.before = some m.after) (locks : ¬ m.Reloads encap) :
    CacheInv encap (past ++ [m]) m.after ∧ m.Guarded := by
  have after : CacheInv encap (past ++ [m]) m.after := by
    unfold ifaceStep at enabled
    split at enabled
    · rename_i t call env input
      split at enabled
      · rename_i free
        exact inv.called (Option.isNone_iff_eq_none.mp free) input (Option.some.inj enabled).symm
      · cases enabled
    · rename_i t input
      split at enabled
      · cases enabled
      · rename_i call r running
        refine inv.ret running (fun reloads => ?_) input (Option.some.inj enabled).symm
        exact locks ⟨t, call, _, ⟨input, running⟩, reloads⟩
      · rename_i call p _ running
        obtain ⟨⟨p', lock⟩, step, same⟩ := Option.map_eq_some_iff.mp enabled
        refine inv.advance running (fun reloads => ?_) step input same.symm
        exact locks ⟨t, call, _, ⟨input, running⟩, reloads⟩
  refine ⟨after, fun t call p stepOf touches => ?_, after.sound⟩
  obtain ⟨env, data, -, current, keeps⟩ := (inv.threads t call p stepOf.2).keeps fun reloads =>
    locks ⟨t, call, p, stepOf, reloads⟩
  exact (Owned.owns ⟨data, current, keeps⟩ touches).held not_false

/-- A step of a reload is its first, without the lock. -/
theorem CacheInv.not_guarded (inv : CacheInv encap past m.before) (reloads : m.Reloads encap) :
    ¬ m.Guarded := by
  obtain ⟨t, call, p, stepOf, reloads⟩ := reloads
  obtain ⟨outside, env, rfl⟩ := (inv.threads t call p stepOf.2).waits reloads
  intro guarded
  exact absurd outside (Nat.ne_of_gt (guarded.held t call _ stepOf (reload_touches reloads)))

/-- The invariant, whatever has been done. -/
def IfaceInv (encap : EncapType) (s : IfaceSystem) : Prop :=
  ∃ past, CacheInv encap past s

theorem IfaceInv.init (loaded : List IpxInterface) (ctime : Int) :
    IfaceInv encap ⟨⟨none, .init loaded ctime⟩, fun _ => none⟩ :=
  ⟨[], .init loaded ctime⟩

theorem IfaceInv.step (inv : IfaceInv encap m.before)
    (enabled : ifaceStep encap m.input m.before = some m.after) (locks : ¬ m.Reloads encap) :
    IfaceInv encap m.after ∧ m.Guarded := by
  obtain ⟨past, known⟩ := inv
  obtain ⟨after, guarded⟩ := known.step enabled locks
  exact ⟨⟨past ++ [m], after⟩, guarded⟩

end Step

/-! ## Runs -/

/-- In a run every access to the cache is made with the lock, and no node is used that has been
freed, if and only if no step of it is one of `ipx_interfaces_reload`. -/
theorem ifaceMoves_guarded_iff (encap : EncapType) (loaded : List IpxInterface) (ctime : Int)
    (acts : List IfaceAct) :
    (∀ m ∈ ifaceMoves encap loaded ctime acts, m.Guarded) ↔
      ∀ m ∈ ifaceMoves encap loaded ctime acts, ¬ m.Reloads encap := by
  constructor
  · intro guarded m member
    have keeps (m : IfaceMove) (inv : IfaceInv encap m.before)
        (enabled : ifaceStep encap m.input m.before = some m.after) (guarded : m.Guarded) :
        IfaceInv encap m.after ∧ ¬ m.Reloads encap := by
      obtain ⟨past, known⟩ := inv
      have locks : ¬ m.Reloads encap := fun reloads => known.not_guarded reloads guarded
      exact ⟨⟨_, (known.step enabled locks).1⟩, locks⟩
    exact (moves_induct (.init loaded ctime) guarded keeps m member).2.2
  · intro locks m member
    exact (moves_induct (I := IfaceInv encap) (.init loaded ctime) locks
      (fun _ inv enabled locks => inv.step enabled locks) m member).2.2

/-- A client of a DOSBox server, which gave it an address. -/
def connectedEnv : CacheEnv where
  rounds := 1
  now := 100
  loadedAt := 100
  host := ⟨[], false, fun _ => ⟨0, 0, false⟩, 0, none, true⟩
  dosbox := some (0, 0x010000007F01)
  malloc := fun _ => true

/-- While the application counts the interfaces, the router has an answer of the server. -/
def countWhileReload : List IfaceAct :=
  [.call 1 .count connectedEnv, .call 2 .reload connectedEnv] ++
    List.replicate 8 (.step 1) ++ List.replicate 7 (.step 2) ++ List.replicate 2 (.step 1)

/-- The router frees the interface that the application has come to. -/
theorem countWhileReload_unguarded :
    (∃ m ∈ ifaceMoves .dosbox [] 0 countWhileReload, m.input = .step 1 ∧
      m.before.lock.owner = some (1, 1) ∧ m.after.lock.data.misuse = true) ∧
      ¬ ∀ m ∈ ifaceMoves .dosbox [] 0 countWhileReload, m.Guarded := by
  have race : ∃ m ∈ ifaceMoves .dosbox [] 0 countWhileReload, m.input = .step 1 ∧
      m.before.lock.owner = some (1, 1) ∧ m.after.lock.data.misuse = true :=
    ⟨_, List.mem_of_getElem? (i := 18) rfl, rfl, rfl, rfl⟩
  refine ⟨race, fun guarded => ?_⟩
  obtain ⟨m, member, -, -, misused⟩ := race
  exact Bool.false_ne_true ((guarded m member).sound.symm.trans misused)

/-! ## Answers -/

/-- In a run whose steps, up to the return of a call, are none of `ipx_interfaces_reload`, the
call returns the answer of a list of interfaces that was the cache between the call and the
return, and that is not older than the cache may be or was loaded by the call itself; or its
answer is the same for every list. -/
theorem ifaceMoves_answers {encap : EncapType} {loaded : List IpxInterface} {ctime : Int}
    {acts : List IfaceAct} {n : Nat}
    (locks : ∀ m ∈ (ifaceMoves encap loaded ctime acts).take (n + 1), ¬ m.Reloads encap)
    {m : IfaceMove} (at_n : (ifaceMoves encap loaded ctime acts)[n]? = some m)
    {t : Nat} {call : IfaceCall} {r : IfaceResult} (returns : m.StepOf t call (.ret r)) :
    ∃ env s, HeldDuring ((ifaceMoves encap loaded ctime acts).take n) t call env s ∧
      LockedCache.Answered encap env (call.answer env.malloc) r s := by
  let I (past : List IfaceMove) (s : IfaceSystem) : Prop :=
    (∀ m ∈ past, ¬ m.Reloads encap) → CacheInv encap past s
  have keeps (past : List IfaceMove) (m : IfaceMove) (inv : I past m.before)
      (enabled : ifaceStep encap m.input m.before = some m.after) : I (past ++ [m]) m.after := by
    intro locks
    have earlier := inv fun m member => locks m (List.mem_append_left _ member)
    exact (earlier.step enabled (locks m List.mem_concat_self)).1
  have inv : I _ m.before := moves_history (fun _ => CacheInv.init loaded ctime) keeps at_n
  have last : m ∈ (ifaceMoves encap loaded ctime acts).take (n + 1) :=
    List.mem_of_getElem? ((List.getElem?_take_of_lt (Nat.lt_succ_self n)).trans at_n)
  have before := inv fun m member =>
    locks m (List.take_subset_take_left _ (Nat.le_succ n) member)
  exact (before.returned returns.2 fun reloads =>
    locks m last ⟨t, call, _, returns, reloads⟩).2

/-- Without a call of `ipx_interfaces_reload` there is no step of one. -/
theorem not_reloads_of_acts {encap : EncapType} {loaded : List IpxInterface} {ctime : Int}
    {acts : List IfaceAct} (none_made : ∀ t env, .call t .reload env ∉ acts) :
    ∀ m ∈ ifaceMoves encap loaded ctime acts, ¬ m.Reloads encap := by
  let I (s : IfaceSystem) : Prop := ∀ t call p, s.threads t = some (call, p) → call ≠ .reload
  have set {s : IfaceSystem} (inv : I s) (t : Nat) (thread : Option (IfaceCall × CacheProg IfaceResult))
      (other : ∀ call p, thread = some (call, p) → call ≠ .reload) : I (s.setThread t thread) := by
    intro t' call p running
    rcases IfaceSystem.setThread_cases running with ⟨-, same⟩ | ⟨-, running⟩
    · exact other call p same
    · exact inv t' call p running
  have keeps (m : IfaceMove) (inv : I m.before)
      (enabled : ifaceStep encap m.input m.before = some m.after) (member : m.input ∈ acts) :
      I m.after ∧ True := by
    obtain ⟨s, act, s'⟩ := m
    dsimp only at inv enabled member ⊢
    refine ⟨?_, trivial⟩
    unfold ifaceStep at enabled
    split at enabled
    · split at enabled
      · obtain rfl := Option.some.inj enabled
        refine set inv _ _ fun call p same => ?_
        obtain ⟨rfl, -⟩ := Prod.mk.inj (Option.some.inj same)
        rintro rfl
        exact none_made _ _ member
      · cases enabled
    · split at enabled
      · cases enabled
      · obtain rfl := Option.some.inj enabled
        exact set inv _ none nofun
      · rename_i running
        obtain ⟨after, -, rfl⟩ := Option.map_eq_some_iff.mp enabled
        refine set (s := { s with lock := after.2 }) inv _ _ fun call p same => ?_
        obtain ⟨rfl, -⟩ := Prod.mk.inj (Option.some.inj same)
        exact inv _ _ _ running
  rintro m member ⟨t, call, p, stepOf, reloads⟩
  have start : I ⟨⟨none, .init loaded ctime⟩, fun _ => none⟩ := nofun
  obtain ⟨inv, -, -⟩ := moves_induct start (fun m member => input_of_mem_moves member) keeps m member
  exact inv t call p stepOf.2 reloads.1

/-- The application counts the interfaces, and after that another thread does. -/
def countTwice : List IfaceAct :=
  [.call 1 .count connectedEnv, .call 2 .count connectedEnv] ++ List.replicate 11 (.step 1) ++
    List.replicate 9 (.step 2)

/-- The first call finds a cache that is too old, and loads the one address of the client. -/
theorem ifaceMoves_answers_count :
    ∃ env s, HeldDuring ((ifaceMoves .dosbox [] 0 countTwice).take 12) 1 .count env s ∧
      LockedCache.Answered .dosbox env (IfaceCall.count.answer env.malloc) (.count 1) s := by
  have locks : ∀ m ∈ ifaceMoves .dosbox [] 0 countTwice, ¬ m.Reloads .dosbox :=
    not_reloads_of_acts fun t env member => by
      unfold countTwice at member
      simp only [List.cons_append, List.nil_append, List.mem_cons, List.mem_append,
        List.mem_replicate, reduceCtorEq, IfaceAct.call.injEq, false_and, and_false,
        or_false] at member
  exact ifaceMoves_answers (fun m member => locks m (List.mem_of_mem_take member)) (n := 12) rfl
    ⟨rfl, rfl⟩

end IpxWrapper
