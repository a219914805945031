import IpxWrapper.Base.Bytes
import IpxWrapper.Base.Tally
import Mathlib.Data.List.FinRange
import Mathlib.Logic.Function.Basic

/-!
# The rate limiter (`common.c`)

`ratelimit_get_delay` keeps the counts of the last second in ten slots of 100 ms.
The first of them begins at `time_base`; when the clock passes the end of the last,
the counts are shifted, and after a long pause everything is reset. All of it is
`DWORD` arithmetic.

The function is in two parts: `track` up to `this_second_total`, and `sleepMsecs`.
`track_tracked` says once what the first can do, and `tracks_exactly` compares it
with the history of all calls.
-/

namespace IpxWrapper

open Base

/-- `RATELIMIT_COUNTS_SIZE`. -/
def ratelimitCountsSize : Nat := 10

/-- `struct ratelimit_data`. -/
structure RatelimitData where
  timeBase : UInt32
  counts : Fin ratelimitCountsSize → UInt32

namespace RatelimitData

/-- A static object. -/
def init : RatelimitData := ⟨0, fun _ => 0⟩

/-- `counts[i] += add_count`, if `i` is an index. -/
def addAt (i : Nat) (addCount : UInt32) (self : RatelimitData) : Option RatelimitData :=
  if h : i < ratelimitCountsSize then
    some { self with
      counts := Function.update self.counts ⟨i, h⟩ (self.counts ⟨i, h⟩ + addCount) }
  else
    none

/-- From `RESET` on. -/
def reset (addCount currentTime : UInt32) : RatelimitData × UInt32 :=
  (⟨currentTime, Function.update (fun _ => 0) ⟨0, by decide⟩ (0 + addCount)⟩, addCount)

/-- `memmove` and `memset` drop the first `n` counts. -/
def erase (n : Nat) (self : RatelimitData) : RatelimitData :=
  { self with
    counts := fun i =>
      if h : i.val + n < ratelimitCountsSize then self.counts ⟨i.val + n, h⟩ else 0 }

/-- The loop that adds the counts up. -/
def total (self : RatelimitData) : UInt32 :=
  (List.finRange ratelimitCountsSize).foldl (fun sum i => sum + self.counts i) 0

/-- The last part of the branch for a clock that has not gone back. -/
def count (addCount currentTime : UInt32) (self : RatelimitData) :
    Option (RatelimitData × UInt32) :=
  (self.addAt ((currentTime - self.timeBase) / 100).toNat addCount).map fun self =>
    (self, self.total)

/-- `ratelimit_get_delay` up to `this_second_total`, which it returns with the new
state; `none` if an assertion fails or an index is out of bounds. -/
def track (addCount currentTime : UInt32) (self : RatelimitData) :
    Option (RatelimitData × UInt32) :=
  if currentTime < self.timeBase then
    some (reset addCount currentTime)
  else
    let msSinceStart := currentTime - self.timeBase
    if 1000 ≤ msSinceStart then
      let slotsToErase : Int := min ((msSinceStart - 1000) / 100 + 1).toNat ratelimitCountsSize
      if slotsToErase = ratelimitCountsSize then
        some (reset addCount currentTime)
      else if 0 ≤ slotsToErase ∧ slotsToErase < ratelimitCountsSize then
        let self := self.erase slotsToErase.toNat
        let timeBase := self.timeBase + .ofNat (slotsToErase.toNat * 100)
        { self with timeBase := timeBase }.count addCount currentTime
      else
        none
    else
      self.count addCount currentTime

/-- `sleep_msecs`; there is no result where it divides by zero. -/
def sleepMsecs (thisSecondTotal maxCountsPerSecond : UInt32) : Option UInt32 :=
  if maxCountsPerSecond < thisSecondTotal then
    if maxCountsPerSecond = 0 then none
    else some ((thisSecondTotal - maxCountsPerSecond) * 100 / maxCountsPerSecond * 10)
  else
    some 0

/-- `ratelimit_get_delay`: the new state and the result. -/
def ratelimitGetDelay (addCount maxCountsPerSecond currentTime : UInt32)
    (self : RatelimitData) : Option (RatelimitData × UInt32) := do
  let (self, thisSecondTotal) ← self.track addCount currentTime
  let sleep ← sleepMsecs thisSecondTotal maxCountsPerSecond
  return (self, sleep)

/-! ## What one call does -/

/-- What `track` makes of `self`. -/
inductive Tracked (self : RatelimitData) (addCount currentTime : UInt32) :
    RatelimitData × UInt32 → Prop
  | resets (gap : currentTime < self.timeBase ∨
        self.timeBase.toNat + 1900 ≤ currentTime.toNat) :
      Tracked self addCount currentTime (reset addCount currentTime)
  /-- `n` slots are dropped, and it is counted in slot `i`. -/
  | counts {n : Nat} {self' : RatelimitData} (i : Fin ratelimitCountsSize)
      (few : n < ratelimitCountsSize)
      (base : self'.timeBase.toNat = self.timeBase.toNat + 100 * n)
      (slot : self'.timeBase.toNat + 100 * i.val ≤ currentTime.toNat ∧
        currentTime.toNat < self'.timeBase.toNat + 100 * (i.val + 1))
      (late : n = 0 ∨ self'.timeBase.toNat + 900 ≤ currentTime.toNat)
      (counts : self'.counts = Function.update (self.erase n).counts i
        ((self.erase n).counts i + addCount)) :
      Tracked self addCount currentTime (self', self'.total)

@[simp] theorem erase_timeBase (self : RatelimitData) (n : Nat) :
    (self.erase n).timeBase = self.timeBase := rfl

@[simp] theorem erase_zero (self : RatelimitData) : self.erase 0 = self := by
  unfold erase
  congr 1
  funext i
  exact dif_pos i.isLt

section Track

variable {self : RatelimitData} {addCount currentTime : UInt32} {n : Nat}

theorem toNat_sub_of_toNat_le {a b : UInt32} (le : b.toNat ≤ a.toNat) :
    (a - b).toNat = a.toNat - b.toNat :=
  UInt32.toNat_sub_of_le a b (UInt32.le_iff_toNat_le.mpr le)

/-- Counting in the slot that the clock is in, after `n` slots were dropped. -/
theorem count_tracked (few : n < ratelimitCountsSize)
    (after : self.timeBase.toNat + 100 * n ≤ currentTime.toNat)
    (before : currentTime.toNat < self.timeBase.toNat + 100 * n + 1000)
    (late : n = 0 ∨ self.timeBase.toNat + 100 * n + 900 ≤ currentTime.toNat)
    {timeBase : UInt32} (base : timeBase.toNat = self.timeBase.toNat + 100 * n) :
    ∃ out, ({ self.erase n with timeBase := timeBase }.count addCount currentTime) = some out ∧
      Tracked self addCount currentTime out := by
  have elapsed : ((currentTime - timeBase) / 100).toNat =
      (currentTime.toNat - timeBase.toNat) / 100 := by
    rw [UInt32.toNat_div, toNat_sub_of_toNat_le (by omega)]
    rfl
  have inside : (currentTime.toNat - timeBase.toNat) / 100 < ratelimitCountsSize := by
    unfold ratelimitCountsSize
    omega
  unfold count addAt
  rw [elapsed, dif_pos inside]
  refine ⟨_, rfl, ?_⟩
  refine .counts ⟨(currentTime.toNat - timeBase.toNat) / 100, inside⟩ few base ⟨?_, ?_⟩ ?_ rfl
  · change timeBase.toNat + 100 * ((currentTime.toNat - timeBase.toNat) / 100) ≤ _
    omega
  · change _ < timeBase.toNat + 100 * ((currentTime.toNat - timeBase.toNat) / 100 + 1)
    omega
  · change n = 0 ∨ timeBase.toNat + 900 ≤ _
    omega

/-- The index is in bounds and the assertions hold, whatever the clock says. -/
theorem track_tracked (self : RatelimitData) (addCount currentTime : UInt32) :
    ∃ out, self.track addCount currentTime = some out ∧
      Tracked self addCount currentTime out := by
  unfold track
  split
  case isTrue back => exact ⟨_, rfl, .resets (Or.inl back)⟩
  case isFalse onwards =>
    have le : self.timeBase.toNat ≤ currentTime.toNat := Nat.le_of_not_lt onwards
    have elapsed : (currentTime - self.timeBase).toNat =
        currentTime.toNat - self.timeBase.toNat := toNat_sub_of_toNat_le le
    have size := currentTime.toNat_lt
    dsimp only
    split
    case isFalse soon =>
      have soon : currentTime.toNat - self.timeBase.toNat < 1000 := by
        rw [← elapsed]
        exact Nat.lt_of_not_le soon
      have counts : ∃ out, { self.erase 0 with timeBase := self.timeBase }.count addCount
          currentTime = some out ∧ Tracked self addCount currentTime out :=
        count_tracked (by decide) (by omega) (by omega) (Or.inl rfl) (by omega)
      rwa [erase_zero] at counts
    case isTrue long =>
      have long : 1000 ≤ currentTime.toNat - self.timeBase.toNat := by
        rw [← elapsed]
        exact long
      have slots : ((currentTime - self.timeBase - 1000) / 100 + 1).toNat =
          (currentTime.toNat - self.timeBase.toNat - 1000) / 100 + 1 := by
        have rest : (currentTime - self.timeBase - 1000).toNat =
            currentTime.toNat - self.timeBase.toNat - 1000 := by
          rw [← elapsed]
          exact toNat_sub_of_toNat_le (by rw [elapsed]; exact long)
        rw [UInt32.toNat_add, UInt32.toNat_div, rest]
        change ((currentTime.toNat - self.timeBase.toNat - 1000) / 100 + 1) % 2 ^ 32 = _
        omega
      rw [slots]
      generalize dropped : (currentTime.toNat - self.timeBase.toNat - 1000) / 100 + 1 = n
      split
      case isTrue all =>
        refine ⟨_, rfl, .resets (Or.inr ?_)⟩
        unfold ratelimitCountsSize at all
        omega
      case isFalse some' =>
        have few : n < ratelimitCountsSize := by omega
        have exact' : (min (n : Int) ratelimitCountsSize).toNat = n := by omega
        rw [if_pos ⟨by omega, by omega⟩, exact']
        unfold ratelimitCountsSize at few
        refine count_tracked (by exact few) (by omega) (by omega) (by omega) ?_
        rw [UInt32.toNat_add, UInt32.toNat_ofNat', erase_timeBase]
        omega

end Track

/-! ## The history -/

/-- A call of `ratelimit_get_delay`. -/
structure RatelimitCall where
  addCount : UInt32
  maxCountsPerSecond : UInt32
  currentTime : UInt32
deriving DecidableEq

/-- What was counted, and when. -/
def RatelimitCall.counted (call : RatelimitCall) : Amount :=
  ⟨call.currentTime.toNat, call.addCount.toNat⟩

/-- The state after the calls `calls`. -/
def after : List RatelimitCall → RatelimitData → Option RatelimitData
  | [], self => some self
  | call :: rest, self => do
      let (self, _) ← self.ratelimitGetDelay call.addCount call.maxCountsPerSecond call.currentTime
      after rest self

/-- The counts are those of the calls in the ten slots from `time_base` on. -/
structure Tallies (data : RatelimitData) (calls : List RatelimitCall) : Prop where
  counts : ∀ i, data.counts i = .ofNat (tally (calls.map (·.counted))
    (during (data.timeBase.toNat + 100 * i.val) (data.timeBase.toNat + 100 * (i.val + 1))))
  before : ∀ c ∈ calls, c.currentTime.toNat < data.timeBase.toNat + 1000
  started : ∀ t, (∀ c ∈ calls, c.currentTime.toNat ≤ t) → data.timeBase.toNat ≤ t
  /-- What is not counted any more was 900 ms old when it was dropped. -/
  dropped : ∀ c ∈ calls, c.currentTime.toNat < data.timeBase.toNat →
    ∃ c' ∈ calls, c.currentTime.toNat + 900 < c'.currentTime.toNat

theorem Tallies.init : Tallies init [] where
  counts := fun _ => rfl
  before := fun _ member => by cases member
  started := fun t _ => Nat.zero_le t
  dropped := fun _ member => by cases member

/-- What `this_second_total` is to be after `calls`, of which `call` is the last. -/
structure ExactWindow (calls : List RatelimitCall) (call : RatelimitCall)
    (data : RatelimitData) (thisSecondTotal : UInt32) : Prop where
  /-- It is the sum over the calls from `time_base` on, if that fits. -/
  total : tally (calls.map (·.counted)) (since data.timeBase.toNat) < 2 ^ 32 →
    thisSecondTotal.toNat = tally (calls.map (·.counted)) (since data.timeBase.toNat)
  started : data.timeBase.toNat ≤ call.currentTime.toNat
  recent : call.currentTime.toNat ≤ data.timeBase.toNat + 999
  /-- No call of the last 900 ms is missed. -/
  complete : ∀ c ∈ calls, call.currentTime.toNat ≤ c.currentTime.toNat + 900 →
    data.timeBase.toNat ≤ c.currentTime.toNat

section History

variable {self self' : RatelimitData} {calls : List RatelimitCall} {call : RatelimitCall}
  {thisSecondTotal : UInt32} {n : Nat}

/-- The ten counts add up to those of all calls from `time_base` on. -/
theorem Tallies.total_eq (tallies : Tallies self calls) :
    self.total = .ofNat (tally (calls.map (·.counted)) (since self.timeBase.toNat)) := by
  have open' : tally (calls.map (·.counted)) (since self.timeBase.toNat) =
      tally (calls.map (·.counted)) (during self.timeBase.toNat
        (self.timeBase.toNat + 100 * ratelimitCountsSize)) := by
    apply tally_since_eq
    intro a member
    obtain ⟨c, called, rfl⟩ := List.mem_map.mp member
    exact tallies.before c called
  have folds (slots : List (Fin ratelimitCountsSize)) (sum : Nat) :
      slots.foldl (fun sum i => sum + self.counts i) (UInt32.ofNat sum) =
        .ofNat (sum + (slots.map fun i => tally (calls.map (·.counted))
          (during (self.timeBase.toNat + 100 * i.val)
            (self.timeBase.toNat + 100 * (i.val + 1)))).sum) := by
    induction slots generalizing sum with
    | nil => rfl
    | cons i rest ih =>
        rw [List.foldl_cons, tallies.counts, ← UInt32.ofNat_add, ih, List.map_cons,
          List.sum_cons, Nat.add_assoc]
  rw [open', ← sum_tally_slots]
  unfold RatelimitData.total
  rw [show (0 : UInt32) = .ofNat 0 from rfl, folds, Nat.zero_add]
  rw [← List.map_coe_finRange_eq_range, List.map_map]
  rfl

/-- A call is added to the counts of all slots, and falls in one of them. -/
theorem tally_call (calls : List RatelimitCall) (call : RatelimitCall) (within : Nat → Bool) :
    tally ((calls ++ [call]).map (·.counted)) within =
      tally (calls.map (·.counted)) within +
        if within call.currentTime.toNat then call.addCount.toNat else 0 := by
  rw [List.map_append, List.map_singleton, tally_concat]
  rfl

/-- Nothing is counted in a slot that begins after all calls. -/
theorem tally_calls_eq_zero {lo hi : Nat} (before : ∀ c ∈ calls, c.currentTime.toNat < lo) :
    tally (calls.map (·.counted)) (during lo hi) = 0 := by
  apply tally_eq_zero
  intro a member
  obtain ⟨c, called, rfl⟩ := List.mem_map.mp member
  have early := before c called
  have outside : ¬ lo ≤ c.counted.time := Nat.not_le.mpr early
  simp [during, outside]

/-- The counts that are left are those of the slots from the new `time_base` on. -/
theorem Tallies.erase_counts (tallies : Tallies self calls) (n : Nat)
    (i : Fin ratelimitCountsSize) : (self.erase n).counts i =
      .ofNat (tally (calls.map (·.counted)) (during (self.timeBase.toNat + 100 * n + 100 * i.val)
        (self.timeBase.toNat + 100 * n + 100 * (i.val + 1)))) := by
  unfold erase
  dsimp only
  split
  case isTrue kept =>
    have lo : self.timeBase.toNat + 100 * (i.val + n) =
        self.timeBase.toNat + 100 * n + 100 * i.val := by omega
    have hi : self.timeBase.toNat + 100 * (i.val + n + 1) =
        self.timeBase.toNat + 100 * n + 100 * (i.val + 1) := by omega
    rw [tallies.counts]
    dsimp only
    rw [lo, hi]
  case isFalse new =>
    unfold ratelimitCountsSize at new
    rw [tally_calls_eq_zero fun c called => by
      have early := tallies.before c called
      omega]
    rfl

theorem forall_mem_concat {P : RatelimitCall → Prop} :
    (∀ c ∈ calls ++ [call], P c) ↔ (∀ c ∈ calls, P c) ∧ P call := by
  rw [List.forall_mem_append, List.forall_mem_singleton]

/-- A call after a gap: all that was counted is old. -/
theorem Tallies.reset (old : ∀ c ∈ calls, c.currentTime.toNat + 900 < call.currentTime.toNat) :
    Tallies (RatelimitData.reset call.addCount call.currentTime).1 (calls ++ [call]) where
  counts := by
    intro i
    unfold RatelimitData.reset
    dsimp only
    rw [tally_call, tally_calls_eq_zero fun c called => by
      have early := old c called
      omega, Nat.zero_add]
    by_cases first : i = ⟨0, by decide⟩
    · subst first
      rw [Function.update_self, if_pos (during_eq_true.mpr ⟨by simp, by simp⟩),
        UInt32.ofNat_toNat, UInt32.zero_add]
    · have later : ¬ i.val = 0 := fun zero => first (Fin.ext zero)
      rw [Function.update_of_ne first, if_neg]
      · rfl
      · rw [during_eq_true]
        omega
  before := by
    refine forall_mem_concat.mpr ⟨fun c called => ?_, Nat.lt_add_of_pos_right (by decide)⟩
    have early := old c called
    change _ < call.currentTime.toNat + 1000
    omega
  started := fun t late => late call (List.mem_append_right _ List.mem_cons_self)
  dropped := by
    refine forall_mem_concat.mpr ⟨fun c called _ => ?_, fun early => absurd early (Nat.lt_irrefl _)⟩
    exact ⟨call, List.mem_append_right _ List.mem_cons_self, old c called⟩

/-- A call that is counted in slot `i`, after `n` slots were dropped. -/
theorem Tallies.counted (tallies : Tallies self calls) {i : Fin ratelimitCountsSize}
    (base : self'.timeBase.toNat = self.timeBase.toNat + 100 * n)
    (slot : self'.timeBase.toNat + 100 * i.val ≤ call.currentTime.toNat ∧
      call.currentTime.toNat < self'.timeBase.toNat + 100 * (i.val + 1))
    (late : n = 0 ∨ self'.timeBase.toNat + 900 ≤ call.currentTime.toNat)
    (counts : self'.counts = Function.update (self.erase n).counts i
      ((self.erase n).counts i + call.addCount)) : Tallies self' (calls ++ [call]) where
  counts := by
    intro j
    rw [counts, tally_call, base]
    by_cases same : j = i
    · subst same
      rw [Function.update_self, tallies.erase_counts, ← base,
        if_pos (during_eq_true.mpr slot), UInt32.ofNat_add, UInt32.ofNat_toNat]
    · have other : ¬ j.val = i.val := fun same' => same (Fin.ext same')
      have outside : ¬ during (self'.timeBase.toNat + 100 * j.val)
          (self'.timeBase.toNat + 100 * (j.val + 1)) call.currentTime.toNat = true := by
        rw [during_eq_true]
        omega
      rw [Function.update_of_ne same, tallies.erase_counts, ← base, if_neg outside]
      rfl
  before := by
    have bound : i.val < 10 := i.isLt
    refine forall_mem_concat.mpr ⟨fun c called => ?_, by omega⟩
    have early := tallies.before c called
    omega
  started := by
    intro t latest
    have now := latest call (List.mem_append_right _ List.mem_cons_self)
    omega
  dropped := by
    refine forall_mem_concat.mpr ⟨fun c called early => ?_, fun early => by omega⟩
    by_cases dropped : c.currentTime.toNat < self.timeBase.toNat
    · obtain ⟨c', called', older⟩ := tallies.dropped c called dropped
      exact ⟨c', List.mem_append_left _ called', older⟩
    · exact ⟨call, List.mem_append_right _ List.mem_cons_self, by omega⟩

/-- A call: the counts are those of the history, with the call in it. -/
theorem Tallies.tracked (tallies : Tallies self calls) (ordered : ∀ c ∈ calls,
      c.currentTime.toNat ≤ call.currentTime.toNat)
    (tracked : Tracked self call.addCount call.currentTime (self', thisSecondTotal)) :
    Tallies self' (calls ++ [call]) := by
  have start := tallies.started _ ordered
  cases tracked with
  | resets gap =>
      have gap : self.timeBase.toNat + 1900 ≤ call.currentTime.toNat := by
        rcases gap with back | gap
        · have back : call.currentTime.toNat < self.timeBase.toNat := back
          omega
        · exact gap
      apply Tallies.reset
      intro c called
      have early := tallies.before c called
      omega
  | counts i few base slot late counts => exact tallies.counted base slot late counts

/-- The limit has no part in what is counted. -/
theorem track_of_ratelimitGetDelay {limit sleep : UInt32} {addCount currentTime : UInt32}
    (returns : self.ratelimitGetDelay addCount limit currentTime = some (self', sleep)) :
    ∃ total, self.track addCount currentTime = some (self', total) ∧
      sleepMsecs total limit = some sleep := by
  obtain ⟨⟨data, total⟩, tracks, -⟩ := track_tracked self addCount currentTime
  unfold ratelimitGetDelay at returns
  simp only [tracks, Option.bind_eq_bind, Option.bind_some, Option.bind_eq_some_iff] at returns
  obtain ⟨sleep', sleeps, same⟩ := returns
  cases same
  exact ⟨total, tracks, sleeps⟩

/-- A whole run: the counts are those of its history. -/
theorem Tallies.after {past : List RatelimitCall} (tallies : Tallies self past)
    (ordered : (past ++ calls).Pairwise fun c c' => c.currentTime.toNat ≤ c'.currentTime.toNat)
    (returns : after calls self = some self') : Tallies self' (past ++ calls) := by
  induction calls generalizing self past with
  | nil =>
      obtain rfl := Option.some.inj returns
      rwa [List.append_nil]
  | cons call rest ih =>
      simp only [RatelimitData.after, Option.bind_eq_bind, Option.bind_eq_some_iff] at returns
      obtain ⟨⟨data, sleep⟩, delay, returns⟩ := returns
      obtain ⟨total, tracks, -⟩ := track_of_ratelimitGetDelay delay
      obtain ⟨out, tracks', tracked⟩ := track_tracked self call.addCount call.currentTime
      obtain rfl := Option.some.inj (tracks.symm.trans tracks')
      have earlier : ∀ c ∈ past, c.currentTime.toNat ≤ call.currentTime.toNat := fun c called =>
        (List.pairwise_append.mp ordered).2.2 c called call List.mem_cons_self
      rw [List.append_cons] at ordered ⊢
      exact ih (tallies.tracked earlier tracked) ordered returns

/-- What the total is compared with is the exact sum over the window. -/
theorem Tallies.exactWindow (tallies : Tallies self' (calls ++ [call]))
    (ordered : ∀ c ∈ calls, c.currentTime.toNat ≤ call.currentTime.toNat)
    (total : thisSecondTotal = self'.total) :
    ExactWindow (calls ++ [call]) call self' thisSecondTotal := by
  have last : call ∈ calls ++ [call] := List.mem_append_right _ List.mem_cons_self
  have latest : ∀ c ∈ calls ++ [call], c.currentTime.toNat ≤ call.currentTime.toNat := by
    intro c called
    rcases List.mem_append.mp called with called | called
    · exact ordered c called
    · rw [List.mem_singleton.mp called]
  refine ⟨fun fits => ?_, tallies.started _ latest, ?_, fun c called recent => ?_⟩
  · rw [total, tallies.total_eq, UInt32.toNat_ofNat_of_lt' fits]
  · have before := tallies.before call last
    omega
  · by_contra early
    obtain ⟨c', called', older⟩ := tallies.dropped c called (Nat.lt_of_not_le early)
    have late := latest c' called'
    omega

/-- The total is that of the counts in every case. -/
theorem Tracked.total_eq {addCount currentTime : UInt32}
    (tracked : Tracked self addCount currentTime (self', thisSecondTotal)) :
    thisSecondTotal = self'.total := by
  cases tracked with
  | counts => rfl
  | resets =>
      unfold RatelimitData.total
      simp [List.finRange_succ, ratelimitCountsSize]

end History

/-- After any calls that have returned, the next one compares with its limit the exact
sum over the calls of the last second, as far back as `time_base`. In any state and
for any clock the index is in bounds and the assertions hold. -/
theorem track_exact (past : List RatelimitCall) (call : RatelimitCall)
    (ordered : (past ++ [call]).Pairwise fun c c' => c.currentTime.toNat ≤ c'.currentTime.toNat)
    (self : RatelimitData) (returned : after past init = some self) :
    (∃ self' thisSecondTotal,
      self.track call.addCount call.currentTime = some (self', thisSecondTotal) ∧
        ExactWindow (past ++ [call]) call self' thisSecondTotal) ∧
      ∀ (data : RatelimitData) (addCount currentTime : UInt32),
        (data.track addCount currentTime).isSome := by
  have before := List.pairwise_append.mp ordered
  have earlier : ∀ c ∈ past, c.currentTime.toNat ≤ call.currentTime.toNat := fun c called =>
    before.2.2 c called call List.mem_cons_self
  have tallies : Tallies self ([] ++ past) := Tallies.init.after before.1 returned
  rw [List.nil_append] at tallies
  obtain ⟨⟨self', total⟩, tracks, tracked⟩ := track_tracked self call.addCount call.currentTime
  refine ⟨⟨self', total, tracks, ?_⟩, fun data addCount currentTime => ?_⟩
  · exact (tallies.tracked earlier tracked).exactWindow earlier tracked.total_eq
  · obtain ⟨out, tracks, -⟩ := track_tracked data addCount currentTime
    rw [tracks]
    rfl

/-- The third of these calls drops the slots of the first 200 ms. -/
theorem track_exact_third : ∃ self self' thisSecondTotal,
    after [⟨100, 1000, 0⟩, ⟨50, 1000, 950⟩] init = some self ∧
      self.track 25 1100 = some (self', thisSecondTotal) ∧
        ExactWindow [⟨100, 1000, 0⟩, ⟨50, 1000, 950⟩, ⟨25, 1000, 1100⟩] ⟨25, 1000, 1100⟩ self'
          thisSecondTotal := by
  obtain ⟨⟨self', total, tracks, window⟩, -⟩ :=
    track_exact [⟨100, 1000, 0⟩, ⟨50, 1000, 950⟩] ⟨25, 1000, 1100⟩ (by decide) _ rfl
  exact ⟨_, self', total, rfl, tracks, window⟩

end RatelimitData

end IpxWrapper
