import IpxWrapper.CoalesceCorrectness
import IpxWrapper.Clock
import IpxWrapper.Base.Window

/-!
# When packets are coalesced

Whether packets to a destination are held back depends on how often it is sent to.
`SendRate` says how, by counting over all the sends there have been; a node of
`coalesce.c` keeps the times of the last 512 of them and looks at the oldest.

* `TracksRate.registered`: registering a send refines `SendRate.send`.
* `RatesInv`: in a run of calls every node stands where its own sends have led it,
  whatever is sent and flushed elsewhere.
* `runCoalesce_tracksRate`: the flag of a node, after any run.
-/

namespace IpxWrapper

open Base

variable {env : CoalesceEnv} {s : CoalesceState} {i : Nat} {cd node new : CoalesceDest}
  {times : List UInt64} {now : UInt64}

/-! ## The reference automaton -/

/-- How many of the sends were made at or after `back` before `now`. -/
def sendsSince (back now : UInt64) (times : List UInt64) : Nat :=
  times.countP fun t => now.toNat ≤ t.toNat + back.toNat

/-- The sends to a destination so far, and whether the next are to be coalesced. -/
structure SendRate where
  times : List UInt64
  active : Bool

namespace SendRate

def init : SendRate := ⟨[], false⟩

/-- Coalescing starts when `trackCount` sends lie in the last `startThresh`, and stops
when fewer lie in the last `stopThresh`. -/
def send (r : SendRate) (now : UInt64) : SendRate where
  times := r.times ++ [now]
  active :=
    if trackCount ≤ sendsSince startThresh now (r.times ++ [now]) then true
    else if sendsSince stopThresh now (r.times ++ [now]) < trackCount then false
    else r.active

def after (times : List UInt64) : SendRate := times.foldl send init

theorem after_concat (times : List UInt64) (now : UInt64) :
    after (times ++ [now]) = (after times).send now := by
  unfold after
  rw [List.foldl_append]
  rfl

@[simp] theorem times_after (times : List UInt64) : (after times).times = times := by
  induction times using List.reverseRecOn with
  | nil => rfl
  | append_singleton times now ih =>
      rw [after_concat, send, ih]

theorem sendsSince_le (back : UInt64) : sendsSince back now times ≤ times.length :=
  List.countP_le_length

/-- While there have been fewer than `trackCount` sends nothing is coalesced. -/
theorem idle (short : times.length < trackCount) : (after times).active = false := by
  induction times using List.reverseRecOn with
  | nil => rfl
  | append_singleton times now ih =>
      have few (back : UInt64) : sendsSince back now (times ++ [now]) < trackCount :=
        Nat.lt_of_le_of_lt (sendsSince_le back) short
      rw [after_concat, send, times_after]
      dsimp only
      rw [if_neg (Nat.not_le.mpr (few startThresh)), if_pos (few stopThresh)]

end SendRate

/-- The oldest of the last `trackCount` sends tells how many there were of late. -/
theorem le_sendsSince_iff (long : trackCount ≤ times.length)
    (sorted : times.Pairwise (· ≤ ·)) (back : UInt64) :
    trackCount ≤ sendsSince back now times ↔
      now.toNat ≤ ((window trackCount 0 times).headD 0).toNat + back.toNat := by
  have onwards : times.Pairwise fun t u =>
      decide (now.toNat ≤ t.toNat + back.toNat) = true →
        decide (now.toNat ≤ u.toNat + back.toNat) = true := by
    refine sorted.imp fun {t u} le => ?_
    rw [UInt64.le_iff_toNat_le] at le
    simp only [decide_eq_true_eq]
    omega
  unfold sendsSince
  rw [le_countP_iff (by decide) 0 long onwards, decide_eq_true_eq]

/-! ## One send -/

namespace CoalesceDest

/-- What `coalesce_register_send` reads and writes of a node. -/
def rate (cd : CoalesceDest) : List UInt64 × Bool := (cd.sendTimestamps, cd.active)

theorem setActive_sendTimestamps (shouldCoalesce : Bool) :
    (cd.setActive shouldCoalesce).sendTimestamps = cd.sendTimestamps := by
  unfold setActive
  split_ifs <;> rfl

theorem setActive_active (shouldCoalesce : Bool) :
    (cd.setActive shouldCoalesce).active = shouldCoalesce := by
  unfold setActive
  cases shouldCoalesce <;> cases active : cd.active <;> simp [active]

theorem registered_rate (node : CoalesceDest) (now : UInt64) :
    (node.registered now).rate =
      (node.sendTimestamps.tail ++ [now], (coalesceRegisterSend node now).1) := by
  unfold rate registered
  rw [setActive_sendTimestamps, setActive_active]
  rfl

/-- Only the times and the flag decide. -/
theorem registered_rate_congr (same : cd.rate = node.rate) :
    (cd.registered now).rate = (node.registered now).rate := by
  have times : cd.sendTimestamps = node.sendTimestamps := congrArg Prod.fst same
  have flag : cd.active = node.active := congrArg Prod.snd same
  rw [registered_rate, registered_rate]
  unfold coalesceRegisterSend
  rw [times, flag]

end CoalesceDest

/-- The node and the automaton have seen the same sends, and agree. -/
structure TracksRate (node : CoalesceDest) (r : SendRate) : Prop where
  timestamps : node.sendTimestamps = window trackCount 0 r.times
  active : node.active = r.active

/-- The sum of a time and a threshold does not wrap: no clock comes near the end of its range. -/
theorem toNat_add_of_small {t : UInt64} (small : t.toNat < 2 ^ 63) {back : UInt64}
    (brief : back.toNat < 2 ^ 63) : (t + back).toNat = t.toNat + back.toNat := by
  rw [UInt64.toNat_add, Nat.mod_eq_of_lt]
  omega

section Registering

variable (tracks : TracksRate node (SendRate.after times)) (now)

include tracks

theorem TracksRate.timestamps_registered :
    (node.registered now).sendTimestamps = window trackCount 0 (times ++ [now]) := by
  have same := tracks.timestamps
  rw [SendRate.times_after] at same
  rw [← window_concat (by decide), ← same]
  exact congrArg Prod.fst (node.registered_rate now)

/-- The decision by the oldest send of the window, this send included. -/
theorem TracksRate.active_registered :
    (node.registered now).active =
      let oldest := (window trackCount 0 (times ++ [now])).headD 0
      if now ≤ oldest + startThresh then true
      else if node.active ∧ oldest + stopThresh < now then false
      else node.active := by
  have rate := node.registered_rate now
  have times : node.sendTimestamps.tail ++ [now] = (node.registered now).sendTimestamps :=
    (congrArg Prod.fst rate).symm
  have decided : (node.registered now).active = (coalesceRegisterSend node now).1 :=
    congrArg Prod.snd rate
  rw [decided]
  unfold coalesceRegisterSend
  dsimp only
  rw [times, tracks.timestamps_registered now]

variable {now}

/-- Before the window is full its oldest entry is a zero, and the flag is still down. -/
theorem TracksRate.registered_of_short (late : startThresh < now)
    (short : (times ++ [now]).length < trackCount) :
    (node.registered now).active = (SendRate.after (times ++ [now])).active := by
  have shorter : times.length < trackCount := by
    rw [List.length_append] at short
    omega
  have flag : node.active = false := tracks.active.trans (SendRate.idle shorter)
  have fresh : ¬ now ≤ 0 + startThresh := by
    rw [UInt64.zero_add]
    exact UInt64.not_le.mpr late
  rw [tracks.active_registered, headD_window_of_lt short, SendRate.idle short, flag]
  dsimp only
  rw [if_neg fresh, if_neg fun both => Bool.false_ne_true both.1]

theorem TracksRate.registered_of_long (sorted : (times ++ [now]).Pairwise (· ≤ ·))
    (small : ∀ t ∈ times ++ [now], t.toNat < 2 ^ 63)
    (long : trackCount ≤ (times ++ [now]).length) :
    (node.registered now).active = (SendRate.after (times ++ [now])).active := by
  have recent (back : UInt64) : trackCount ≤ sendsSince back now (times ++ [now]) ↔ _ :=
    le_sendsSince_iff long sorted back
  have oldest : ((window trackCount 0 (times ++ [now])).headD 0).toNat < 2 ^ 63 := by
    rcases List.mem_cons.mp headD_window_mem with blank | sent
    · rw [blank]
      exact Nat.two_pow_pos 63
    · exact small _ sent
  have starts : now ≤ (window trackCount 0 (times ++ [now])).headD 0 + startThresh ↔
      trackCount ≤ sendsSince startThresh now (times ++ [now]) := by
    rw [recent, UInt64.le_iff_toNat_le, toNat_add_of_small oldest (by decide)]
  have stops : (window trackCount 0 (times ++ [now])).headD 0 + stopThresh < now ↔
      sendsSince stopThresh now (times ++ [now]) < trackCount := by
    rw [← Nat.not_le, recent, UInt64.lt_iff_toNat_lt, toNat_add_of_small oldest (by decide),
      Nat.not_le]
  rw [tracks.active_registered, SendRate.after_concat, SendRate.send, SendRate.times_after,
    tracks.active]
  dsimp only
  simp only [starts, stops]
  by_cases started : trackCount ≤ sendsSince startThresh now (times ++ [now])
  · rw [if_pos started, if_pos started]
  rw [if_neg started, if_neg started]
  -- The automaton need not look whether the flag is up before it takes it down.
  by_cases stopped : sendsSince stopThresh now (times ++ [now]) < trackCount
  · rw [if_pos stopped]
    cases (SendRate.after times).active <;> simp [stopped]
  · rw [if_neg stopped, if_neg fun both => stopped both.2]

/-- Registering a send is a step of the automaton. -/
theorem TracksRate.registered (sorted : (times ++ [now]).Pairwise (· ≤ ·))
    (small : ∀ t ∈ times ++ [now], t.toNat < 2 ^ 63) (late : startThresh < now) :
    TracksRate (node.registered now) (SendRate.after (times ++ [now])) where
  timestamps := by
    rw [SendRate.times_after]
    exact tracks.timestamps_registered now
  active := by
    by_cases long : trackCount ≤ (times ++ [now]).length
    · exact tracks.registered_of_long sorted small long
    · exact tracks.registered_of_short late (Nat.not_le.mp long)

end Registering

/-- A node that nothing but the sends at `times` has been registered at. -/
def afterSends (key : CoalesceTableKey) (times : List UInt64) : CoalesceDest :=
  times.foldl CoalesceDest.registered (newCoalesceDest key)

theorem afterSends_concat (key : CoalesceTableKey) (times : List UInt64) (now : UInt64) :
    afterSends key (times ++ [now]) = (afterSends key times).registered now := by
  unfold afterSends
  rw [List.foldl_append]
  rfl

theorem afterSends_tracksRate (key : CoalesceTableKey) (sorted : times.Pairwise (· ≤ ·))
    (small : ∀ t ∈ times, t.toNat < 2 ^ 63) (late : ∀ t ∈ times, startThresh < t) :
    TracksRate (afterSends key times) (SendRate.after times) := by
  induction times using List.reverseRecOn with
  | nil => exact ⟨window_nil.symm, rfl⟩
  | append_singleton times now ih =>
      have earlier := ih (List.pairwise_append.mp sorted).1
        (fun t member => small t (List.mem_append_left _ member))
        (fun t member => late t (List.mem_append_left _ member))
      have last : now ∈ times ++ [now] := List.mem_append_right times List.mem_cons_self
      rw [afterSends_concat]
      exact earlier.registered sorted small (late now last)

/-! ## What leaves the rates alone -/

/-- What `f` reads of a node is not its payload. -/
def Unloaded {β : Type} (f : CoalesceDest → β) : Prop :=
  ∀ cd timestamp payload,
    f { cd with payloadTimestamp := timestamp, payload := payload } = f cd

def CoalesceState.rates (s : CoalesceState) : List (List UInt64 × Bool) :=
  s.coalesceTable.map CoalesceDest.rate

def CoalesceState.keys (s : CoalesceState) : List CoalesceTableKey :=
  s.coalesceTable.map CoalesceDest.key

section Unloaded

variable {β : Type} {f : CoalesceDest → β}

theorem map_set_of_eq (at_i : s.coalesceTable[i]? = some cd) (same : f new = f cd) :
    (s.coalesceTable.set i new).map f = s.coalesceTable.map f := by
  obtain ⟨inside, at_i⟩ := List.getElem?_eq_some_iff.mp at_i
  rw [List.map_set, same, ← List.map_set, ← at_i, List.set_getElem_self]

theorem rSendto_map (datagram : Sent) :
    (rSendto env datagram s).2.coalesceTable.map f = s.coalesceTable.map f :=
  congrArg (List.map f) (rSendto_frame env s datagram).2.1

variable (unloaded : Unloaded f)

include unloaded

theorem coalesceFlush_map (i : Nat) :
    (coalesceFlush env i s).coalesceTable.map f = s.coalesceTable.map f := by
  rcases at_i : s.coalesceTable[i]? with _ | cd
  · unfold coalesceFlush
    rw [at_i]
  · rw [(coalesceFlush_of_some env at_i).2.1]
    exact map_set_of_eq at_i (unloaded cd _ _)

theorem makeRoom_map (shouldCoalesce : Bool) (size : Nat) :
    (makeRoom env shouldCoalesce size i s).coalesceTable.map f = s.coalesceTable.map f := by
  unfold makeRoom
  split
  · rfl
  split
  · exact coalesceFlush_map unloaded i
  · rfl

theorem flushIfDue_map :
    (flushIfDue env now i s).coalesceTable.map f = s.coalesceTable.map f := by
  unfold flushIfDue
  split
  · rfl
  split
  · exact coalesceFlush_map unloaded i
  · rfl

theorem coalesceAddData_map (call : SendCall) :
    (coalesceAddData call i s).2.coalesceTable.map f = s.coalesceTable.map f := by
  unfold coalesceAddData
  split
  · rfl
  case h_2 cd at_i =>
    split
    · split
      · rfl
      · exact map_set_of_eq at_i (unloaded cd _ _)
    split
    · exact map_set_of_eq at_i (unloaded cd _ _)
    · rfl

/-- A send is registered at its node, and at no other. -/
theorem coalesceOnNode_map (call : SendCall) (at_i : s.coalesceTable[i]? = some node) :
    (coalesceOnNode env call i s).2.coalesceTable.map f =
      (s.coalesceTable.map f).set i (f (node.registered call.now)) := by
  have registered : (s.setNode i (node.registered call.now)).coalesceTable.map f =
      (s.coalesceTable.map f).set i (f (node.registered call.now)) := List.map_set
  unfold coalesceOnNode
  simp only [at_i]
  rw [flushIfDue_map unloaded]
  split
  · rw [coalesceAddData_map unloaded, makeRoom_map unloaded, registered]
  · rw [makeRoom_map unloaded, registered]

end Unloaded

theorem unloaded_rate : Unloaded CoalesceDest.rate := fun _ _ _ => rfl

theorem unloaded_key : Unloaded CoalesceDest.key := fun _ _ _ => rfl

theorem rSendto_rates (datagram : Sent) : (rSendto env datagram s).2.rates = s.rates :=
  rSendto_map datagram

theorem coalesceFlushWaiting_rates : (coalesceFlushWaiting env now s).rates = s.rates :=
  runFlushes_invariant (I := fun s' => s'.rates = s.rates) (flushWaitingBody_flushesOldest env now)
    (fun _ i same => (coalesceFlush_map unloaded_rate i).trans same) rfl

theorem coalesceOnNode_rates (call : SendCall) (at_i : s.coalesceTable[i]? = some node) :
    (coalesceOnNode env call i s).2.rates = s.rates.set i (node.registered call.now).rate :=
  coalesceOnNode_map unloaded_rate call at_i

/-- A node stays the node of its destination. -/
theorem coalesceOnNode_keys (call : SendCall) (at_i : s.coalesceTable[i]? = some node) :
    (coalesceOnNode env call i s).2.keys = s.keys := by
  have key : (node.registered call.now).key = node.key := CoalesceDest.registered_key call.now
  have same := map_set_of_eq at_i key
  rw [List.map_set] at same
  exact (coalesceOnNode_map unloaded_key call at_i).trans same

/-! ## Runs -/

variable (env) in
/-- The sends registered at each node, by their times; after a cleanup there are no nodes. -/
def CoalesceOp.registers (op : CoalesceOp) (s : CoalesceState) (sends : Nat → List UInt64) :
    Nat → List UInt64 :=
  match op with
  | .send call =>
      match (getCoalesceByDest env call s).1 with
      | none => sends
      | some i => Function.update sends i (sends i ++ [call.now])
  | .flushWaiting _ => sends
  | .cleanup => fun _ => []

variable (env) in
def registeredSends : List CoalesceOp → CoalesceState → (Nat → List UInt64) → Nat → List UInt64
  | [], _, sends => sends
  | op :: ops, s, sends => registeredSends ops (op.apply env s) (op.registers env s sends)

/-- Each node is where the sends registered at it have led it. -/
structure RatesInv (rates : List (List UInt64 × Bool)) (sends : Nat → List UInt64) : Prop where
  rate : ∀ i r, rates[i]? = some r → ∀ key, r = (afterSends key (sends i)).rate
  unused : ∀ i, rates.length ≤ i → sends i = []

variable {call : SendCall} {sends : Nat → List UInt64}

theorem RatesInv.init : RatesInv CoalesceState.init.rates fun _ => [] where
  rate := fun _ _ at_i => by cases at_i
  unused := fun _ _ => rfl

/-- A node that is added has no sends yet. -/
theorem RatesInv.lookup (inv : RatesInv s.rates sends) (env : CoalesceEnv) (call : SendCall) :
    RatesInv (getCoalesceByDest env call s).2.rates sends := by
  unfold getCoalesceByDest
  split
  · exact inv
  split
  · exact inv
  split
  · unfold CoalesceState.rates at inv ⊢
    dsimp only
    rw [List.map_append]
    constructor
    · intro i r at_i key
      rcases Nat.lt_or_ge i (s.coalesceTable.map CoalesceDest.rate).length with old | le
      · rw [List.getElem?_append_left old] at at_i
        exact inv.rate i r at_i key
      · rw [List.getElem?_append_right le] at at_i
        obtain rfl := List.mem_singleton.mp (List.mem_of_getElem? at_i)
        rw [inv.unused i le]
        rfl
    · intro i le
      refine inv.unused i ?_
      rw [List.length_append] at le
      omega
  · exact inv

theorem RatesInv.onNode (inv : RatesInv s.rates sends) (env : CoalesceEnv) (call : SendCall)
    (at_i : s.coalesceTable[i]? = some node) :
    RatesInv (coalesceOnNode env call i s).2.rates
      (Function.update sends i (sends i ++ [call.now])) := by
  rw [coalesceOnNode_rates call at_i]
  have rate_i : s.rates[i]? = some node.rate := by
    unfold CoalesceState.rates
    rw [List.getElem?_map, at_i]
    rfl
  constructor
  · intro j r at_j key
    by_cases same : j = i
    · subst same
      rw [List.getElem?_set_self (List.getElem?_eq_some_iff.mp rate_i).1] at at_j
      obtain rfl := Option.some.inj at_j
      rw [Function.update_self, afterSends_concat]
      exact CoalesceDest.registered_rate_congr (inv.rate j _ rate_i key)
    · rw [List.getElem?_set_ne (Ne.symm same)] at at_j
      rw [Function.update_of_ne same]
      exact inv.rate j r at_j key
  · intro j le
    rw [List.length_set] at le
    have ne : j ≠ i := by
      rintro rfl
      have inside := (List.getElem?_eq_some_iff.mp rate_i).1
      omega
    rw [Function.update_of_ne ne]
    exact inv.unused j le

theorem RatesInv.send (inv : RatesInv s.rates sends) (env : CoalesceEnv) (call : SendCall) :
    RatesInv (coalesceSend env call s).2.rates
      (CoalesceOp.registers env (.send call) s sends) := by
  have asserted : RatesInv (s.assert (0 < call.data.length)).rates sends := inv
  have found := asserted.lookup env call
  have same : (getCoalesceByDest env call (s.assert (0 < call.data.length))).1 =
      (getCoalesceByDest env call s).1 := getCoalesceByDest_assert _
  unfold coalesceSend CoalesceOp.registers
  dsimp only
  rw [← same]
  cases target : (getCoalesceByDest env call (s.assert (0 < call.data.length))).1 with
  | none =>
      dsimp only
      rw [if_neg Bool.false_ne_true]
      dsimp only
      rw [rSendto_rates]
      exact found
  | some i =>
      obtain ⟨node, at_i, -⟩ := getCoalesceByDest_some target
      have registered := found.onNode env call at_i
      dsimp only
      split
      · exact registered
      · dsimp only
        rw [rSendto_rates]
        exact registered

theorem RatesInv.apply (inv : RatesInv s.rates sends) (env : CoalesceEnv) (op : CoalesceOp) :
    RatesInv (op.apply env s).rates (op.registers env s sends) := by
  cases op with
  | send call => exact inv.send env call
  | flushWaiting now =>
      change RatesInv (coalesceFlushWaiting env now s).rates sends
      rw [coalesceFlushWaiting_rates]
      exact inv
  | cleanup => exact .init

theorem RatesInv.run (inv : RatesInv s.rates sends) (env : CoalesceEnv) (ops : List CoalesceOp) :
    RatesInv (runCoalesce env ops s).rates (registeredSends env ops s sends) := by
  induction ops generalizing s sends with
  | nil => exact inv
  | cons op ops ih => exact ih (inv.apply env op)

/-- In any run of calls the flag of a node is that of the automaton after the sends that were
registered at it, if these are in order and none is in the first `startThresh` of the clock. -/
theorem runCoalesce_tracksRate (env : CoalesceEnv) (perfCounterFreq : UInt64)
    (ops : List CoalesceOp) (i : Nat) (cd : CoalesceDest)
    (at_i : (runCoalesce env ops .init).coalesceTable[i]? = some cd)
    (clock : ∀ t ∈ registeredSends env ops .init (fun _ => []) i,
      ∃ reading, getUticks perfCounterFreq reading = some t)
    (sorted : (registeredSends env ops .init (fun _ => []) i).Pairwise (· ≤ ·))
    (late : ∀ t ∈ registeredSends env ops .init (fun _ => []) i, startThresh < t) :
    cd.active = (SendRate.after (registeredSends env ops .init (fun _ => []) i)).active := by
  have inv := RatesInv.init.run env ops
  have small : ∀ t ∈ registeredSends env ops .init (fun _ => []) i, t.toNat < 2 ^ 63 := by
    intro t member
    obtain ⟨reading, reads⟩ := clock t member
    exact getUticks_lt reads
  have rate := inv.rate i cd.rate (by
    unfold CoalesceState.rates
    rw [List.getElem?_map, at_i]
    rfl) cd.key
  have flag : cd.active = (afterSends cd.key _).active := congrArg Prod.snd rate
  rw [flag]
  exact (afterSends_tracksRate cd.key sorted small late).active

/-! ### Sends to one destination -/

section OneDestination

variable {dest : IpxDest}

/-- There is no node yet, or the one of the destination. -/
def OneNode (dest : IpxDest) (s : CoalesceState) : Prop :=
  s.keys = [] ∨ s.keys = [⟨dest, []⟩]

/-- The destination's node is the first, once it is looked for. -/
theorem OneNode.lookup (one : OneNode dest s) (enabled : env.dosboxCoalesce = true)
    (call : SendCall) (own : call.dest = dest) (plain : call.keyPadding = [] ∧ call.nodePadding = [])
    (memory : call.mallocOk = true) :
    (getCoalesceByDest env call s).1 = some 0 ∧
      (getCoalesceByDest env call s).2.keys = [⟨dest, []⟩] := by
  have on : ¬ env.dosboxCoalesce = false := by
    rw [enabled]
    exact Bool.noConfusion
  subst own
  unfold getCoalesceByDest
  rw [if_neg on, plain.1, plain.2, memory]
  rcases one with none | single
  · have empty : s.coalesceTable = [] := List.map_eq_nil_iff.mp none
    rw [empty]
    refine ⟨rfl, ?_⟩
    unfold CoalesceState.keys hashFind
    rfl
  · obtain ⟨cd, table, key⟩ := List.map_eq_singleton_iff.mp single
    have known : hashFind ⟨call.dest, []⟩ s.coalesceTable = some 0 := by
      rw [table]
      exact if_pos key
    rw [known]
    exact ⟨rfl, single⟩

theorem OneNode.send (one : OneNode dest s) (enabled : env.dosboxCoalesce = true)
    (call : SendCall) (own : call.dest = dest) (plain : call.keyPadding = [] ∧ call.nodePadding = [])
    (memory : call.mallocOk = true) : OneNode dest (coalesceSend env call s).2 := by
  have asserted : OneNode dest (s.assert (0 < call.data.length)) := one
  obtain ⟨target, keys⟩ := asserted.lookup enabled call own plain memory
  obtain ⟨node, at_0, -⟩ := getCoalesceByDest_some target
  have kept := (@coalesceOnNode_keys env _ _ _ call at_0).trans keys
  unfold coalesceSend
  dsimp only
  rw [target]
  dsimp only
  split
  · exact .inr kept
  · exact .inr ((rSendto_map (f := CoalesceDest.key) _).trans kept)

/-- Sends to one destination are all registered at the first node. -/
theorem OneNode.registeredSends (one : OneNode dest s) (enabled : env.dosboxCoalesce = true)
    {calls : List SendCall} (own : ∀ call ∈ calls, call.dest = dest ∧
      (call.keyPadding = [] ∧ call.nodePadding = []) ∧ call.mallocOk = true)
    (sends : Nat → List UInt64) :
    registeredSends env (calls.map .send) s sends 0 = sends 0 ++ calls.map (·.now) := by
  induction calls generalizing s sends with
  | nil => exact (List.append_nil _).symm
  | cons call calls ih =>
      obtain ⟨⟨own, plain, memory⟩, others⟩ := List.forall_mem_cons.mp own
      have target := (one.lookup enabled call own plain memory).1
      have rest := ih (one.send enabled call own plain memory) others
      have first : CoalesceOp.registers env (.send call) s sends =
          Function.update sends 0 (sends 0 ++ [call.now]) := by
        unfold CoalesceOp.registers
        dsimp only
        rw [target]
      rw [List.map_cons, IpxWrapper.registeredSends, first]
      refine (rest _).trans ?_
      rw [Function.update_self, List.append_assoc]
      rfl

end OneDestination

/-- The times of 513 sends, one each millisecond from 3 s after the start of the clock. -/
def fastTimes : List UInt64 :=
  (List.range 513).map fun k => 3000000 + 1000 * UInt64.ofNat k

def fastSends : List CoalesceOp :=
  (fastTimes.map (sendBytes 1)).map .send

theorem fastSends_registered :
    registeredSends coalescingEnv fastSends .init (fun _ => []) 0 = fastTimes := by
  have one : OneNode someDest CoalesceState.init := .inl rfl
  have enabled : coalescingEnv.dosboxCoalesce = true := rfl
  refine (one.registeredSends enabled ?_ fun _ => []).trans ?_
  · intro call member
    obtain ⟨now, -, rfl⟩ := List.mem_map.mp member
    exact ⟨rfl, ⟨rfl, rfl⟩, rfl⟩
  · have same : (fun call : SendCall => call.now) ∘ sendBytes 1 = id := rfl
    rw [List.map_map, same, List.map_id]
    exact List.nil_append fastTimes

theorem fastTime_toNat {k : Nat} (inside : k < 513) :
    (3000000 + 1000 * UInt64.ofNat k : UInt64).toNat = 3000000 + 1000 * k := by
  rw [UInt64.toNat_add, UInt64.toNat_mul, UInt64.toNat_ofNat']
  simp only [UInt64.reduceToNat]
  omega

theorem mem_fastTimes {t : UInt64} (member : t ∈ fastTimes) :
    3000000 ≤ t.toNat ∧ t.toNat ≤ 3512000 := by
  obtain ⟨k, inside, rfl⟩ := List.mem_map.mp member
  have small := List.mem_range.mp inside
  rw [fastTime_toNat small]
  omega

theorem fastTimes_sorted : fastTimes.Pairwise (· ≤ ·) := by
  refine List.pairwise_map.mpr (List.pairwise_lt_range.imp_of_mem ?_)
  intro j k first second lt
  rw [UInt64.le_iff_toNat_le, fastTime_toNat (List.mem_range.mp first),
    fastTime_toNat (List.mem_range.mp second)]
  omega

/-- The automaton coalesces from the send on with which there have been 512 in 2.5 s. -/
theorem fastTimes_active : (SendRate.after fastTimes).active = true := by
  obtain ⟨times, last⟩ : ∃ times, fastTimes = times ++ [3512000] :=
    ⟨(List.range 512).map fun k => 3000000 + 1000 * UInt64.ofNat k, by
      rw [fastTimes, List.range_succ, List.map_append]
      rfl⟩
  have late : ∀ t ∈ fastTimes, (3512000 : UInt64).toNat ≤ t.toNat + startThresh.toNat := by
    intro t member
    have bounds := mem_fastTimes member
    change 3512000 ≤ t.toNat + 2500000
    omega
  have all : sendsSince startThresh 3512000 fastTimes = fastTimes.length :=
    List.countP_eq_length.mpr fun t member => decide_eq_true (late t member)
  have many : trackCount ≤ sendsSince startThresh 3512000 fastTimes := by
    rw [all, fastTimes, List.length_map, List.length_range]
    decide
  have active := SendRate.after_concat times 3512000
  rw [SendRate.send, SendRate.times_after, ← last, if_pos many] at active
  exact congrArg SendRate.active active

/-- After the 513 sends the node coalesces. -/
theorem fastSends_tracksRate :
    ∃ cd, (runCoalesce coalescingEnv fastSends .init).coalesceTable[0]? = some cd ∧
      cd.active = true := by
  have inv := RatesInv.init.run coalescingEnv fastSends
  have inside : 0 < (runCoalesce coalescingEnv fastSends .init).coalesceTable.length := by
    by_contra none
    have empty := inv.unused 0 (by
      rw [CoalesceState.rates, List.length_map]
      exact Nat.not_lt.mp none)
    have length := congrArg List.length (fastSends_registered.symm.trans empty)
    rw [fastTimes, List.length_map, List.length_range] at length
    cases length
  obtain ⟨cd, at_0⟩ : ∃ cd, (runCoalesce coalescingEnv fastSends .init).coalesceTable[0]? = some cd :=
    ⟨_, List.getElem?_eq_getElem inside⟩
  have tracks := runCoalesce_tracksRate coalescingEnv 1000000 fastSends 0 cd at_0
  rw [fastSends_registered, fastTimes_active] at tracks
  refine ⟨cd, at_0, tracks ?_ fastTimes_sorted ?_⟩
  · intro t member
    have bounds := mem_fastTimes member
    refine ⟨counterAt t (by omega), ?_⟩
    unfold getUticks counterAt
    rw [if_neg (by decide)]
    dsimp only
    rw [if_neg (by decide)]
    exact congrArg some UInt64.div_one
  · intro t member
    have bounds := mem_fastTimes member
    rw [UInt64.lt_iff_toNat_lt]
    change 2500000 < t.toNat
    omega

end IpxWrapper
