import IpxWrapper.Base.Bytes

/-!
# The clocks (`ipxwrapper.c`)

`get_ticks` counts milliseconds and `get_uticks` microseconds, from what the system's
clocks read at the moment of the call.
-/

namespace IpxWrapper

/-- What the clocks of the system read at one moment. Windows keeps the time since it
started as a 64-bit number of 100 ns; the performance counter is a `LARGE_INTEGER`,
which is signed, and counts up from zero. -/
structure ClockReading where
  /-- `GetTickCount64()`, where the system has it. -/
  tickCount64 : Option UInt64
  /-- `GetTickCount()`. -/
  tickCount : UInt32
  /-- `QueryPerformanceCounter()`, unless it fails. -/
  counter : Option UInt64
  tickCount64_lt : ∀ t ∈ tickCount64, t.toNat < 2 ^ 64 / 10000
  counter_lt : ∀ c ∈ counter, c.toNat < 2 ^ 63

/-- A counter that has reached `t`. -/
def counterAt (t : UInt64) (running : t.toNat < 2 ^ 63) : ClockReading where
  tickCount64 := none
  tickCount := 0
  counter := some t
  tickCount64_lt := fun _ none => by cases none
  counter_lt := fun c reads => by
    obtain rfl := Option.some.inj reads
    exact running

/-- `get_ticks`. -/
def getTicks (r : ClockReading) : UInt64 :=
  match r.tickCount64 with
  | some t => t
  | none => r.tickCount.toUInt64

/-- `get_uticks`; there is no result where it divides by zero. -/
def getUticks (perfCounterFreq : UInt64) (r : ClockReading) : Option UInt64 :=
  if perfCounterFreq = 0 then
    some (getTicks r * 1000)
  else
    match r.counter with
    | none => some (getTicks r * 1000)
    | some c =>
        if perfCounterFreq / 1000000 = 0 then none else some (c / (perfCounterFreq / 1000000))

theorem getTicks_lt (r : ClockReading) : (getTicks r).toNat < 2 ^ 64 / 10000 := by
  unfold getTicks
  split
  case h_1 t reads => exact r.tickCount64_lt t reads
  case h_2 =>
    have small := r.tickCount.toNat_lt
    rw [UInt32.toNat_toUInt64]
    omega

theorem getTicks_mul_lt (r : ClockReading) : (getTicks r * 1000).toNat < 2 ^ 63 := by
  have small := getTicks_lt r
  rw [UInt64.toNat_mul]
  have fits : (getTicks r).toNat * 1000 < 2 ^ 63 := by omega
  exact lt_of_le_of_lt (Nat.mod_le _ _) fits

/-- A time in microseconds leaves room for the delays that are added to it. -/
theorem getUticks_lt {perfCounterFreq t : UInt64} {r : ClockReading}
    (reads : getUticks perfCounterFreq r = some t) : t.toNat < 2 ^ 63 := by
  unfold getUticks at reads
  split at reads
  · obtain rfl := Option.some.inj reads
    exact getTicks_mul_lt r
  split at reads
  · obtain rfl := Option.some.inj reads
    exact getTicks_mul_lt r
  case h_2 c counted =>
    split at reads
    · cases reads
    · obtain rfl := Option.some.inj reads
      rw [UInt64.toNat_div]
      exact lt_of_le_of_lt (Nat.div_le_self _ _) (r.counter_lt c counted)

end IpxWrapper
