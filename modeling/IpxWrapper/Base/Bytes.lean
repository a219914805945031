import Mathlib.Algebra.Ring.Nat
import Mathlib.Data.List.Basic
import Mathlib.Tactic.Common

/-!
# Bytes in memory

A buffer is read through a pointer into memory that goes on after it, so `Mem`
is every byte from the start of the buffer on: the bytes received, then
whatever happens to lie behind them. Multi-byte fields are read and written
where a packed C structure has them, in network order (`be16`) or in the order
of the machine, which is little-endian (`le`).
-/

namespace IpxWrapper.Base

abbrev Byte := UInt8

/-- The bytes from the start of a buffer on. -/
abbrev Mem := Nat → Byte

/-- A buffer that holds `xs`, with `rest` behind it. -/
def Mem.ofList (xs : List Byte) (rest : Mem) : Mem :=
  fun i => if h : i < xs.length then xs[i] else rest (i - xs.length)

/-- The `n` bytes at offset `o`. -/
def Mem.slice (m : Mem) (o n : Nat) : List Byte :=
  (List.range n).map fun i => m (o + i)

/-- A 16-bit field in network byte order. -/
def be16 (m : Mem) (o : Nat) : Nat :=
  (m o).toNat * 256 + (m (o + 1)).toNat

/-- An `n`-byte field in the order of a little-endian machine. -/
def le (m : Mem) (o : Nat) : Nat → Nat
  | 0 => 0
  | n + 1 => (m o).toNat + 256 * le m (o + 1) n

/-- The two bytes of a 16-bit value in network byte order, as `htons` stores them. -/
def be16Bytes (v : Nat) : List Byte :=
  [UInt8.ofNat (v / 256), UInt8.ofNat v]

/-- The `n` bytes of a value in the order of a little-endian machine. -/
def leBytes (v : Nat) : Nat → List Byte
  | 0 => []
  | n + 1 => UInt8.ofNat v :: leBytes (v / 256) n

theorem be16_lt (m : Mem) (o : Nat) : be16 m o < 65536 := by
  have high := (m o).toNat_lt
  have low := (m (o + 1)).toNat_lt
  unfold be16
  omega

@[simp] theorem length_be16Bytes (v : Nat) : (be16Bytes v).length = 2 := rfl

@[simp] theorem length_leBytes (v n : Nat) : (leBytes v n).length = n := by
  induction n generalizing v with
  | zero => rfl
  | succ n ih => simp [leBytes, ih]

@[simp] theorem Mem.length_slice (m : Mem) (o n : Nat) : (m.slice o n).length = n := by
  simp [Mem.slice]

theorem Mem.ofList_of_lt {xs : List Byte} {rest : Mem} {i : Nat} (h : i < xs.length) :
    Mem.ofList xs rest i = xs[i] := by
  simp [Mem.ofList, h]

/-- Fields are functions of the bytes they span. -/
theorem be16_congr {m m' : Mem} {o o' : Nat} (h : ∀ i, i < 2 → m (o + i) = m' (o' + i)) :
    be16 m o = be16 m' o' := by
  have high := h 0 (by omega)
  have low := h 1 (by omega)
  simp only [Nat.add_zero] at high
  rw [be16, be16, high, low]

theorem le_congr {m m' : Mem} {o o' n : Nat} (h : ∀ i, i < n → m (o + i) = m' (o' + i)) :
    le m o n = le m' o' n := by
  induction n generalizing o o' with
  | zero => rfl
  | succ n ih =>
      have first := h 0 (by omega)
      simp only [Nat.add_zero] at first
      have rest : le m (o + 1) n = le m' (o' + 1) n := ih fun i hi => by
        have := h (i + 1) (by omega)
        rwa [show o + 1 + i = o + (i + 1) by omega, show o' + 1 + i = o' + (i + 1) by omega]
      rw [le, le, first, rest]

theorem Mem.slice_congr {m m' : Mem} {o o' n : Nat}
    (h : ∀ i, i < n → m (o + i) = m' (o' + i)) : m.slice o n = m'.slice o' n := by
  apply List.map_congr_left
  intro i hi
  exact h i (List.mem_range.mp hi)

/-- Reading back a 16-bit field written in network order. -/
theorem be16_of_bytes {m : Mem} {o v : Nat} (small : v < 65536)
    (high : m o = UInt8.ofNat (v / 256)) (low : m (o + 1) = UInt8.ofNat v) :
    be16 m o = v := by
  rw [be16, high, low, UInt8.toNat_ofNat', UInt8.toNat_ofNat']
  omega

/-! ## Bytes known to lie somewhere -/

/-- The bytes `xs` lie at offset `o`. -/
def Mem.Holds (m : Mem) (o : Nat) (xs : List Byte) : Prop :=
  ∀ (i : Nat) (h : i < xs.length), m (o + i) = xs[i]

theorem Mem.ofList_holds (xs : List Byte) (rest : Mem) : (Mem.ofList xs rest).Holds 0 xs := by
  intro i h
  rw [Nat.zero_add]
  exact Mem.ofList_of_lt h

theorem Mem.Holds.left {m : Mem} {o : Nat} {xs ys : List Byte} (holds : m.Holds o (xs ++ ys)) :
    m.Holds o xs := by
  intro i h
  have at_i := holds i (by rw [List.length_append]; omega)
  rwa [List.getElem_append_left h] at at_i

theorem Mem.Holds.right {m : Mem} {o : Nat} {xs ys : List Byte} (holds : m.Holds o (xs ++ ys)) :
    m.Holds (o + xs.length) ys := by
  intro i h
  have at_i := holds (xs.length + i) (by rw [List.length_append]; omega)
  rw [List.getElem_append_right (Nat.le_add_right _ _)] at at_i
  simp only [Nat.add_sub_cancel_left] at at_i
  rw [← at_i, Nat.add_assoc]

theorem Mem.slice_holds (m : Mem) (o n : Nat) : m.Holds o (m.slice o n) := by
  intro i h
  simp only [Mem.slice, List.getElem_map, List.getElem_range]

/-- Two places that hold the same bytes agree on each of them. -/
theorem Mem.Holds.agree {m m' : Mem} {o o' i : Nat} {xs : List Byte} (left : m.Holds o xs)
    (right : m'.Holds o' xs) (h : i < xs.length) : m (o + i) = m' (o' + i) :=
  (left i h).trans (right i h).symm

theorem Mem.Holds.slice {m : Mem} {o : Nat} {xs : List Byte} (holds : m.Holds o xs) :
    m.slice o xs.length = xs := by
  apply List.ext_getElem
  · rw [Mem.length_slice]
  · intro i _ h
    simp only [Mem.slice, List.getElem_map, List.getElem_range]
    exact holds i h

theorem le_lt (m : Mem) (o n : Nat) : le m o n < 256 ^ n := by
  induction n generalizing o with
  | zero => exact Nat.one_pos
  | succ n ih =>
      have rest := ih (o + 1)
      have first := (m o).toNat_lt
      rw [le, Nat.pow_succ]
      omega

/-- The bytes of a field are those it was read from. -/
theorem leBytes_le (m : Mem) (o n : Nat) : leBytes (le m o n) n = m.slice o n := by
  induction n generalizing o with
  | zero => rfl
  | succ n ih =>
      have first := (m o).toNat_lt
      have rest : ((m o).toNat + 256 * le m (o + 1) n) / 256 = le m (o + 1) n := by omega
      have byte : UInt8.ofNat ((m o).toNat + 256 * le m (o + 1) n) = m o := by
        apply UInt8.toNat_inj.mp
        rw [UInt8.toNat_ofNat']
        omega
      rw [le, leBytes, rest, byte, ih]
      unfold Mem.slice
      rw [List.range_succ_eq_map, List.map_cons, List.map_map]
      refine congrArg (m o :: ·) (List.map_congr_left fun i _ => ?_)
      change m (o + 1 + i) = m (o + (i + 1))
      rw [Nat.add_assoc, Nat.add_comm 1]

/-- Reading back a field written in the order of the machine. -/
theorem le_of_holds {m : Mem} {o v n : Nat} (small : v < 256 ^ n)
    (holds : m.Holds o (leBytes v n)) : le m o n = v := by
  induction n generalizing o v with
  | zero =>
      rw [Nat.pow_zero] at small
      rw [le]
      omega
  | succ n ih =>
      have first : m o = UInt8.ofNat v := holds 0 (by rw [length_leBytes]; omega)
      have rest : m.Holds (o + 1) (leBytes (v / 256) n) :=
        by
        have both : m.Holds o ([UInt8.ofNat v] ++ leBytes (v / 256) n) := holds
        exact both.right
      rw [Nat.pow_succ] at small
      rw [le, first, ih (by omega) rest, UInt8.toNat_ofNat']
      omega

/-- Values with the same bytes are the same. -/
theorem leBytes_inj {v w n : Nat} (left : v < 256 ^ n) (right : w < 256 ^ n)
    (same : leBytes v n = leBytes w n) : v = w := by
  have holds := Mem.ofList_holds (leBytes v n) fun _ => 0
  rw [← le_of_holds left holds]
  rw [same] at holds ⊢
  exact le_of_holds right holds

/-- A field has the value whose bytes are those it spans. -/
theorem le_eq_iff {m : Mem} {o v n : Nat} (small : v < 256 ^ n) :
    le m o n = v ↔ m.slice o n = leBytes v n := by
  rw [← leBytes_le]
  exact ⟨congrArg (leBytes · n), leBytes_inj (le_lt m o n) small⟩

end IpxWrapper.Base
