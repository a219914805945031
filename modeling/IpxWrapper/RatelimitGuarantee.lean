import IpxWrapper.Ratelimit
import IpxWrapper.Base.Run

/-!
# What the rate limiter lets through

`sendto` counts what it sends and waits as long as `ratelimit_get_delay` says. As
long as the total is below twice the limit one more call cannot take it far beyond;
from there on the delay is a second or more, and then nothing of what was counted
is left. That holds if the delay fits in 32 bits, which depends on the limit and on
how much is counted at once: `callerMoves_withinLimit_iff`.
-/

namespace IpxWrapper

open Base RatelimitData

/-! ## The caller -/

/-- The only caller of a limiter, between two calls. -/
structure RatelimitCaller where
  data : RatelimitData
  /-- The calls so far. -/
  calls : List RatelimitCall
  /-- It waits until then. -/
  waitsUntil : Nat

namespace RatelimitCaller

def init : RatelimitCaller := ⟨.init, [], 0⟩

/-- What was counted since `time_base`. -/
def window (s : RatelimitCaller) : Nat :=
  tally (s.calls.map (·.counted)) (since s.data.timeBase.toNat)

end RatelimitCaller

/-- The caller has waited, and counts at most `most`. -/
def callerStep (limit most : UInt32) (call : RatelimitCall) (s : RatelimitCaller) :
    Option RatelimitCaller :=
  if call.maxCountsPerSecond = limit ∧ call.addCount ≤ most ∧
      s.waitsUntil ≤ call.currentTime.toNat then
    (s.data.ratelimitGetDelay call.addCount limit call.currentTime).map fun (data, sleep) =>
      ⟨data, s.calls ++ [call], call.currentTime.toNat + sleep.toNat⟩
  else
    none

/-- The calls of a run from a zero state. -/
def callerMoves (limit most : UInt32) (calls : List RatelimitCall) :
    List (Move RatelimitCall RatelimitCaller) :=
  moves (callerStep limit most) calls .init

/-- No arithmetic overflows in the call. -/
structure NoOverflow (limit : UInt32) (m : Move RatelimitCall RatelimitCaller) : Prop where
  /-- `time_base` only grows. -/
  base : m.before.data.timeBase.toNat ≤ m.after.data.timeBase.toNat
  /-- The counts and their sum. -/
  total : m.after.window < 2 ^ 32
  scaled : (m.after.window - limit.toNat) * 100 < 2 ^ 32
  delay : (m.after.window - limit.toNat) * 100 / limit.toNat * 10 < 2 ^ 32

/-- What the limiter promises after a call. -/
structure WithinLimit (limit most : UInt32) (m : Move RatelimitCall RatelimitCaller) :
    Prop where
  window : m.after.window < 2 * limit.toNat + most.toNat
  /-- Any 900 ms, with the first and the last of them. -/
  spans : ∀ t, tally (m.after.calls.map (·.counted)) (during t (t + 901)) <
    2 * limit.toNat + most.toNat
  noOverflow : NoOverflow limit m

/-! ## The delay -/

section Delay

variable {limit total : UInt32}

theorem limit_ne_zero (positive : 0 < limit.toNat) : limit ≠ 0 := by
  rintro rfl
  exact absurd positive (Nat.lt_irrefl 0)

/-- Where nothing overflows the delay is as it is written. -/
theorem sleepMsecs_eq (positive : 0 < limit.toNat)
    (scaled : (total.toNat - limit.toNat) * 100 < 2 ^ 32)
    (fits : (total.toNat - limit.toNat) * 100 / limit.toNat * 10 < 2 ^ 32) :
    ∃ sleep, sleepMsecs total limit = some sleep ∧
      sleep.toNat = (total.toNat - limit.toNat) * 100 / limit.toNat * 10 := by
  unfold sleepMsecs
  split
  case isFalse within =>
    have within : total.toNat - limit.toNat = 0 := Nat.sub_eq_zero_of_le (Nat.le_of_not_lt within)
    refine ⟨0, rfl, ?_⟩
    rw [within, Nat.zero_mul, Nat.zero_div, Nat.zero_mul]
    rfl
  case isTrue exceeds =>
    have exceeds : limit.toNat < total.toNat := exceeds
    rw [if_neg (limit_ne_zero positive)]
    refine ⟨_, rfl, ?_⟩
    rw [UInt32.toNat_mul, UInt32.toNat_div, UInt32.toNat_mul,
      toNat_sub_of_toNat_le (Nat.le_of_lt exceeds)]
    change (total.toNat - limit.toNat) * 100 % 2 ^ 32 / limit.toNat * 10 % 2 ^ 32 = _
    rw [Nat.mod_eq_of_lt scaled, Nat.mod_eq_of_lt fits]

theorem sleepMsecs_isSome (positive : 0 < limit.toNat) (total : UInt32) :
    ∃ sleep, sleepMsecs total limit = some sleep := by
  unfold sleepMsecs
  rw [if_neg (limit_ne_zero positive)]
  split
  · exact ⟨_, rfl⟩
  · exact ⟨_, rfl⟩

/-- Twice the limit is worth a second. -/
theorem delay_ge {window : Nat} (positive : 0 < limit.toNat) (twice : 2 * limit.toNat ≤ window) :
    1000 ≤ (window - limit.toNat) * 100 / limit.toNat * 10 := by
  have hundred : 100 ≤ (window - limit.toNat) * 100 / limit.toNat := by
    rw [Nat.le_div_iff_mul_le positive]
    omega
  omega

/-- A greater excess is worth a longer delay. -/
theorem delay_le {window bound : Nat} (le : window - limit.toNat ≤ bound) :
    (window - limit.toNat) * 100 / limit.toNat * 10 ≤ bound * 100 / limit.toNat * 10 :=
  Nat.mul_le_mul_right 10 (Nat.div_le_div_right (Nat.mul_le_mul_right 100 le))

end Delay

/-! ## One call -/

/-- From `s` the call `call` leads to `s'`. -/
structure CallerTurn (limit most : UInt32) (call : RatelimitCall) (s s' : RatelimitCaller)
    (total sleep : UInt32) : Prop where
  small : call.addCount.toNat ≤ most.toNat
  waited : s.waitsUntil ≤ call.currentTime.toNat
  tracked : Tracked s.data call.addCount call.currentTime (s'.data, total)
  sleeps : sleepMsecs total limit = some sleep
  calls : s'.calls = s.calls ++ [call]
  waits : s'.waitsUntil = call.currentTime.toNat + sleep.toNat

/-- The totals are exact and nothing was let through that should not have been. -/
structure CallerInv (limit most : UInt32) (s : RatelimitCaller) : Prop where
  tallies : Tallies s.data s.calls
  ordered : ∀ c ∈ s.calls, c.currentTime.toNat ≤ s.waitsUntil
  window : s.window < 2 * limit.toNat + most.toNat
  /-- After twice the limit the caller waits until nothing is left of it. -/
  rests : 2 * limit.toNat ≤ s.window → ∀ c ∈ s.calls, c.currentTime.toNat + 1000 ≤ s.waitsUntil
  spans : ∀ t, tally (s.calls.map (·.counted)) (during t (t + 901)) <
    2 * limit.toNat + most.toNat

section Turns

variable {limit most total sleep : UInt32} {call : RatelimitCall} {s s' : RatelimitCaller}

theorem callerStep_turn (enabled : callerStep limit most call s = some s') :
    ∃ total sleep, CallerTurn limit most call s s' total sleep := by
  unfold callerStep at enabled
  split at enabled
  case isFalse => cases enabled
  case isTrue ready =>
    obtain ⟨⟨data, sleep⟩, returns, after⟩ := Option.map_eq_some_iff.mp enabled
    obtain rfl := after
    obtain ⟨total, tracks, sleeps⟩ := track_of_ratelimitGetDelay returns
    obtain ⟨out, tracks', tracked⟩ := track_tracked s.data call.addCount call.currentTime
    obtain rfl := Option.some.inj (tracks.symm.trans tracks')
    exact ⟨total, sleep, ready.2.1, ready.2.2, tracked, sleeps, rfl, rfl⟩

/-- A caller that has waited can call. -/
theorem exists_callerTurn (positive : 0 < limit.toNat) (call : RatelimitCall)
    (s : RatelimitCaller) (same : call.maxCountsPerSecond = limit)
    (small : call.addCount ≤ most) (waited : s.waitsUntil ≤ call.currentTime.toNat) :
    ∃ s' total sleep, callerStep limit most call s = some s' ∧
      CallerTurn limit most call s s' total sleep := by
  obtain ⟨⟨data, total⟩, tracks, tracked⟩ := track_tracked s.data call.addCount call.currentTime
  obtain ⟨sleep, sleeps⟩ := sleepMsecs_isSome positive total
  refine ⟨⟨data, s.calls ++ [call], call.currentTime.toNat + sleep.toNat⟩, total, sleep, ?_,
    small, waited, tracked, sleeps, rfl, rfl⟩
  unfold callerStep ratelimitGetDelay
  rw [if_pos ⟨same, small, waited⟩, tracks]
  dsimp only [Option.bind_eq_bind, Option.bind_some]
  rw [sleeps]
  rfl

theorem CallerTurn.earlier (turn : CallerTurn limit most call s s' total sleep)
    (ordered : ∀ c ∈ s.calls, c.currentTime.toNat ≤ s.waitsUntil) :
    ∀ c ∈ s.calls, c.currentTime.toNat ≤ call.currentTime.toNat :=
  fun c called => (ordered c called).trans turn.waited

theorem CallerTurn.tallies' (turn : CallerTurn limit most call s s' total sleep)
    (tallies : Tallies s.data s.calls)
    (earlier : ∀ c ∈ s.calls, c.currentTime.toNat ≤ call.currentTime.toNat) :
    Tallies s'.data s'.calls := by
  rw [turn.calls]
  exact tallies.tracked earlier turn.tracked

theorem CallerTurn.exactWindow (turn : CallerTurn limit most call s s' total sleep)
    (tallies : Tallies s.data s.calls)
    (earlier : ∀ c ∈ s.calls, c.currentTime.toNat ≤ call.currentTime.toNat) :
    ExactWindow s'.calls call s'.data total := by
  have tallies' := turn.tallies' tallies earlier
  rw [turn.calls] at tallies' ⊢
  exact tallies'.exactWindow earlier turn.tracked.total_eq

/-- `time_base` never goes back. -/
theorem CallerTurn.base_le (turn : CallerTurn limit most call s s' total sleep)
    (tallies : Tallies s.data s.calls)
    (earlier : ∀ c ∈ s.calls, c.currentTime.toNat ≤ call.currentTime.toNat) :
    s.data.timeBase.toNat ≤ s'.data.timeBase.toNat := by
  generalize out : (s'.data, total) = after
  have tracked := turn.tracked
  rw [out] at tracked
  cases tracked with
  | resets gap =>
      obtain ⟨data, -⟩ := Prod.mk.inj out
      rw [data]
      exact tallies.started _ earlier
  | counts i few base =>
      obtain ⟨data, -⟩ := Prod.mk.inj out
      rw [data, base]
      exact Nat.le_add_right _ _

/-- What is in the window: what is left of it, and what the call adds. -/
theorem CallerTurn.window_eq (turn : CallerTurn limit most call s s' total sleep)
    (exact' : ExactWindow s'.calls call s'.data total) : s'.window =
      tally (s.calls.map (·.counted)) (since s'.data.timeBase.toNat) + call.addCount.toNat := by
  unfold RatelimitCaller.window
  rw [turn.calls, tally_call, if_pos (since_eq_true.mpr exact'.started)]

/-- The window stays below twice the limit and one call more. -/
theorem CallerTurn.window_lt (turn : CallerTurn limit most call s s' total sleep)
    (positive : 0 < limit.toNat) (inv : CallerInv limit most s) :
    s'.window < 2 * limit.toNat + most.toNat := by
  have earlier := turn.earlier inv.ordered
  have exact' := turn.exactWindow inv.tallies earlier
  have small := turn.small
  rw [turn.window_eq exact']
  by_cases twice : 2 * limit.toNat ≤ s.window
  · -- Everything in the window is a second old.
    have nothing : tally (s.calls.map (·.counted)) (since s'.data.timeBase.toNat) = 0 := by
      apply tally_eq_zero
      intro a member
      obtain ⟨c, called, rfl⟩ := List.mem_map.mp member
      have rested := inv.rests twice c called
      have waited := turn.waited
      have recent := exact'.recent
      have old : ¬ s'.data.timeBase.toNat ≤ c.counted.time := by
        change ¬ s'.data.timeBase.toNat ≤ c.currentTime.toNat
        omega
      simp [since, old]
    omega
  · have kept : tally (s.calls.map (·.counted)) (since s'.data.timeBase.toNat) ≤ s.window := by
      apply tally_le
      intro a _ counted
      have base := turn.base_le inv.tallies earlier
      rw [since_eq_true] at counted ⊢
      exact base.trans counted
    omega

/-- Whatever was sent within 900 ms is in one window. -/
theorem CallerTurn.spans_lt (turn : CallerTurn limit most call s s' total sleep)
    (positive : 0 < limit.toNat) (inv : CallerInv limit most s) (t : Nat) :
    tally (s'.calls.map (·.counted)) (during t (t + 901)) < 2 * limit.toNat + most.toNat := by
  have exact' := turn.exactWindow inv.tallies (turn.earlier inv.ordered)
  by_cases inside : during t (t + 901) call.currentTime.toNat = true
  · refine lt_of_le_of_lt (tally_le fun a member counted => ?_) (turn.window_lt positive inv)
    obtain ⟨c, called, rfl⟩ := List.mem_map.mp member
    rw [during_eq_true] at inside counted
    rw [since_eq_true]
    refine exact'.complete c called ?_
    change _ ≤ c.counted.time + 900
    omega
  · rw [turn.calls, tally_call, if_neg inside, Nat.add_zero]
    exact inv.spans t

/-- What one call keeps, if the longest delay fits. -/
theorem CallerInv.step (inv : CallerInv limit most s) (positive : 0 < limit.toNat)
    (small : limit.toNat + most.toNat ≤ 42949672)
    (fits : (limit.toNat + most.toNat - 1) * 100 / limit.toNat * 10 < 2 ^ 32)
    (turn : CallerTurn limit most call s s' total sleep) :
    CallerInv limit most s' ∧ WithinLimit limit most ⟨s, call, s'⟩ := by
  have earlier := turn.earlier inv.ordered
  have exact' := turn.exactWindow inv.tallies earlier
  have window := turn.window_lt positive inv
  have fitsTotal : s'.window < 2 ^ 32 := by omega
  have total' : total.toNat = s'.window := exact'.total fitsTotal
  have scaled : (s'.window - limit.toNat) * 100 < 2 ^ 32 := by omega
  have delay : (s'.window - limit.toNat) * 100 / limit.toNat * 10 < 2 ^ 32 :=
    lt_of_le_of_lt (delay_le (by omega)) fits
  obtain ⟨sleep', sleeps, value⟩ : ∃ sleep, sleepMsecs total limit = some sleep ∧
      sleep.toNat = (total.toNat - limit.toNat) * 100 / limit.toNat * 10 :=
    sleepMsecs_eq positive (by rw [total']; exact scaled) (by rw [total']; exact delay)
  obtain rfl := Option.some.inj (turn.sleeps.symm.trans sleeps)
  have latest : ∀ c ∈ s'.calls, c.currentTime.toNat ≤ call.currentTime.toNat := by
    intro c called
    rw [turn.calls] at called
    rcases List.mem_append.mp called with called | called
    · exact earlier c called
    · rw [List.mem_singleton.mp called]
  refine ⟨⟨turn.tallies' inv.tallies earlier, fun c called => ?_, window, fun twice c called => ?_,
    turn.spans_lt positive inv⟩, window, turn.spans_lt positive inv,
    turn.base_le inv.tallies earlier, fitsTotal, scaled, delay⟩
  · rw [turn.waits]
    exact (latest c called).trans (Nat.le_add_right _ _)
  · have long := delay_ge positive twice
    have late := latest c called
    rw [turn.waits, value, total']
    omega

end Turns

/-! ## Runs -/

theorem CallerInv.init {limit most : UInt32} (positive : 0 < limit.toNat) :
    CallerInv limit most .init where
  tallies := Tallies.init
  ordered := fun _ called => by cases called
  window := by
    change 0 < _
    omega
  rests := fun _ _ called => by cases called
  spans := fun t => by
    change 0 < _
    omega

/-- Just below twice the limit, and again as much as is allowed as soon as the caller
may: the second delay does not fit in 32 bits if the longest does not. -/
def burstCalls (limit most : UInt32) : List RatelimitCall :=
  [⟨limit + (limit - 1), limit, 0⟩, ⟨most, limit, 990⟩]

/-- Within a second the window begins where it began. -/
theorem CallerTurn.base_eq {limit most total sleep : UInt32} {call : RatelimitCall}
    {s s' : RatelimitCaller} (turn : CallerTurn limit most call s s' total sleep)
    (onwards : s.data.timeBase.toNat ≤ call.currentTime.toNat)
    (soon : call.currentTime.toNat < s.data.timeBase.toNat + 1000) :
    s'.data.timeBase = s.data.timeBase := by
  generalize out : (s'.data, total) = after
  have tracked := turn.tracked
  rw [out] at tracked
  cases tracked with
  | resets gap =>
      rcases gap with back | late
      · exact absurd back (Nat.not_lt_of_le onwards)
      · omega
  | counts i few base slot late =>
      obtain ⟨rfl, -⟩ := Prod.mk.inj out
      apply UInt32.toNat_inj.mp
      omega

/-- The state after the first call of a burst. -/
structure BurstBegun (limit : UInt32) (s : RatelimitCaller) : Prop where
  tallies : Tallies s.data s.calls
  ordered : ∀ c ∈ s.calls, c.currentTime.toNat ≤ s.waitsUntil
  base : s.data.timeBase.toNat = 0
  window : s.window = 2 * limit.toNat - 1
  waits : s.waitsUntil ≤ 990

theorem burstCalls_begin {limit most : UInt32} (positive : 0 < limit.toNat)
    (small : limit.toNat + most.toNat ≤ 42949672) (enough : 2 * limit.toNat - 1 ≤ most.toNat) :
    ∃ s, callerStep limit most ⟨limit + (limit - 1), limit, 0⟩ .init = some s ∧
      BurstBegun limit s := by
  have less : (limit - 1).toNat = limit.toNat - 1 := toNat_sub_of_toNat_le positive
  have first : (limit + (limit - 1)).toNat = 2 * limit.toNat - 1 := by
    rw [UInt32.toNat_add, less]
    omega
  have allowed : limit + (limit - 1) ≤ most := by
    rw [UInt32.le_iff_toNat_le, first]
    exact enough
  obtain ⟨s, total, sleep, enabled, turn⟩ := exists_callerTurn positive
    ⟨limit + (limit - 1), limit, 0⟩ .init rfl allowed (Nat.zero_le _)
  have inv : CallerInv limit most .init := CallerInv.init positive
  have earlier := turn.earlier inv.ordered
  have exact' := turn.exactWindow inv.tallies earlier
  have window : s.window = 2 * limit.toNat - 1 := by
    rw [turn.window_eq exact', first]
    exact Nat.zero_add _
  have excess : total.toNat - limit.toNat = limit.toNat - 1 := by
    have sum : total.toNat = s.window := exact'.total (show s.window < 2 ^ 32 by omega)
    omega
  -- The delay is below a second.
  have soon : (limit.toNat - 1) * 100 / limit.toNat < 100 :=
    Nat.div_lt_of_lt_mul (by omega)
  obtain ⟨sleep, sleeps, value⟩ := sleepMsecs_eq positive (by rw [excess]; omega)
    (by rw [excess]; omega)
  obtain rfl := Option.some.inj (turn.sleeps.symm.trans sleeps)
  refine ⟨s, enabled, turn.tallies' inv.tallies earlier, ?_, Nat.le_zero.mp exact'.started,
    window, ?_⟩
  · intro c called
    rw [turn.calls] at called
    obtain rfl := List.mem_singleton.mp called
    exact Nat.zero_le _
  · rw [turn.waits, value, excess]
    change 0 + _ ≤ 990
    omega

theorem burstCalls_overflow {limit most : UInt32} (positive : 0 < limit.toNat)
    (small : limit.toNat + most.toNat ≤ 42949672)
    (long : 2 ^ 32 ≤ (limit.toNat + most.toNat - 1) * 100 / limit.toNat * 10) :
    ∃ m ∈ callerMoves limit most (burstCalls limit most), ¬ NoOverflow limit m := by
  have enough : 2 * limit.toNat - 1 ≤ most.toNat := by
    have whole : 429496730 ≤ (limit.toNat + most.toNat - 1) * 100 / limit.toNat := by omega
    rw [Nat.le_div_iff_mul_le positive] at whole
    omega
  obtain ⟨s₁, enabled₁, begun⟩ := burstCalls_begin positive small enough
  obtain ⟨s₂, total, sleep, enabled₂, turn⟩ := exists_callerTurn positive
    ⟨most, limit, 990⟩ s₁ rfl (UInt32.le_refl most) begun.waits
  have base : s₂.data.timeBase = s₁.data.timeBase := by
    have zero := begun.base
    apply turn.base_eq
    · rw [zero]
      exact Nat.zero_le _
    · rw [zero]
      change 990 < 0 + 1000
      omega
  have window : s₂.window = 2 * limit.toNat - 1 + most.toNat := by
    rw [turn.window_eq (turn.exactWindow begun.tallies (turn.earlier begun.ordered)), base,
      ← begun.window]
    rfl
  refine ⟨⟨s₁, ⟨most, limit, 990⟩, s₂⟩, ?_, fun fits => ?_⟩
  · unfold callerMoves burstCalls
    rw [moves_cons_of_some enabled₁, moves_cons_of_some enabled₂]
    exact List.mem_cons_of_mem _ List.mem_cons_self
  · have delay := fits.delay
    change (s₂.window - limit.toNat) * 100 / limit.toNat * 10 < 2 ^ 32 at delay
    rw [window, show 2 * limit.toNat - 1 + most.toNat - limit.toNat =
      limit.toNat + most.toNat - 1 by omega] at delay
    omega

/-- A caller that counts at most `most` at once and waits as long as it is told keeps
below twice the limit and `most`, without overflow, in every run, if and only if the
longest delay there can be fits in 32 bits. -/
theorem callerMoves_withinLimit_iff (limit most : UInt32) (positive : 0 < limit)
    (small : limit.toNat + most.toNat ≤ 42949672) :
    (∀ calls, ∀ m ∈ callerMoves limit most calls, WithinLimit limit most m) ↔
      (limit.toNat + most.toNat - 1) * 100 / limit.toNat * 10 < 2 ^ 32 := by
  constructor
  · intro within
    by_contra long
    obtain ⟨m, member, overflows⟩ :=
      burstCalls_overflow positive small (Nat.le_of_not_lt long)
    exact overflows (within _ m member).noOverflow
  · intro fits calls m member
    refine (moves_induct (I := CallerInv limit most) (G := fun _ => True)
      (Q := WithinLimit limit most) (CallerInv.init positive) (fun _ _ => trivial) ?_ m member).2.2
    intro m inv enabled _
    obtain ⟨total, sleep, turn⟩ := callerStep_turn enabled
    exact inv.step positive small fits turn

/-- A thousand packets a second, one at a time. -/
theorem callerMoves_withinLimit_thousand :
    (0 : UInt32) < 1000 ∧ ∀ calls, ∀ m ∈ callerMoves 1000 1 calls, WithinLimit 1000 1 m :=
  ⟨by decide, (callerMoves_withinLimit_iff 1000 1 (by decide) (by decide)).mpr (by decide)⟩

/-- At one byte a second a delay of more than 49 days becomes 704 ms. -/
def wrappedCalls : List RatelimitCall := [⟨4294969, 1, 0⟩, ⟨4294969, 1, 704⟩]

theorem wrappedCalls_not_withinLimit :
    ¬ ∀ limit most : UInt32, 0 < limit → limit.toNat + most.toNat ≤ 42949672 →
      ∀ calls, ∀ m ∈ callerMoves limit most calls, WithinLimit limit most m := by
  intro within
  have exceeds : ∃ m ∈ callerMoves 1 4294969 wrappedCalls,
      2 * (1 : UInt32).toNat + (4294969 : UInt32).toNat ≤ m.after.window := by
    decide +kernel
  obtain ⟨m, member, exceeds⟩ := exceeds
  have below := (within 1 4294969 (by decide) (by decide) wrappedCalls m member).window
  omega

end IpxWrapper
