import IpxWrapper.Base.Bytes

/-!
# Regions of memory

Bytes are written to a region of memory, and what lies apart from it stays. A string of units
of `w` bytes ends with a unit of zeros (`IsStr`), which is how its size is found in memory
(`strsize`).
-/

namespace IpxWrapper.Base

/-! ## Writing -/

/-- The bytes are written at `o`. -/
def Mem.write (m : Mem) (o : Nat) (bytes : List Byte) : Mem :=
  fun k => if o ≤ k then (bytes[k - o]?).getD (m k) else m k

/-- `memcpy`. -/
def Mem.copy (m : Mem) (dst src n : Nat) : Mem := m.write dst (m.slice src n)

/-- The addresses of the `n` bytes at `a`. -/
def Region (a n k : Nat) : Prop := a ≤ k ∧ k < a + n

/-- None of the `n` bytes at `a` is in `R`. -/
def Clear (R : Nat → Prop) (a n : Nat) : Prop := ∀ k, Region a n k → ¬ R k

/-- The `n` bytes at `a` and the `k` bytes at `b` have none in common. -/
def Separate (a n b k : Nat) : Prop := a + n ≤ b ∨ b + k ≤ a

instance (a n b k : Nat) : Decidable (Separate a n b k) := inferInstanceAs (Decidable (_ ∨ _))

/-- Nothing changes but in `R`. -/
def SameBut (R : Nat → Prop) (m m' : Mem) : Prop := ∀ k, ¬ R k → m' k = m k

section Writing

variable {m m' m'' : Mem} {R R' : Nat → Prop} {a b o n k : Nat} {bytes xs : List Byte}

theorem Separate.clear (apart : Separate a n b k) : Clear (Region b k) a n := by
  rintro i ⟨le, lt⟩ ⟨le', lt'⟩
  unfold Separate at apart
  omega

theorem Clear.or (left : Clear R a n) (right : Clear R' a n) : Clear (fun k => R k ∨ R' k) a n :=
  fun k inside => not_or.mpr ⟨left k inside, right k inside⟩

theorem Clear.symm (clear : Clear (Region b k) a n) : Clear (Region a n) b k :=
  fun i inside inside' => clear i inside' inside

/-- The parts of a region. -/
theorem Region.left {i : Nat} (inside : Region a n i) : Region a (n + k) i :=
  ⟨inside.1, Nat.lt_of_lt_of_le inside.2 (by omega)⟩

theorem Region.right {i : Nat} (inside : Region (a + n) k i) : Region a (n + k) i :=
  ⟨Nat.le_trans (Nat.le_add_right a n) inside.1, Nat.lt_of_lt_of_eq inside.2 (Nat.add_assoc a n k)⟩

theorem clear_left : Clear (Region (a + n) k) a n :=
  fun _ inside inside' => Nat.not_le.mpr inside.2 inside'.1

theorem SameBut.refl : SameBut R m m := fun _ _ => rfl

theorem SameBut.mono (same : SameBut R m m') (more : ∀ k, R k → R' k) : SameBut R' m m' :=
  fun k outside => same k fun inside => outside (more k inside)

theorem SameBut.trans (first : SameBut R m m') (second : SameBut R m' m'') : SameBut R m m'' :=
  fun k outside => (second k outside).trans (first k outside)

theorem write_sameBut : SameBut (Region o bytes.length) m (m.write o bytes) := by
  intro k outside
  unfold Mem.write
  split
  · rename_i le
    unfold Region at outside
    rw [List.getElem?_eq_none (by omega), Option.getD_none]
  · rfl

theorem write_holds (m : Mem) (o : Nat) (bytes : List Byte) : (m.write o bytes).Holds o bytes := by
  intro i inside
  unfold Mem.write
  rw [if_pos (Nat.le_add_right o i), Nat.add_sub_cancel_left, List.getElem?_eq_getElem inside,
    Option.getD_some]

theorem write_append (m : Mem) (o : Nat) (xs ys : List Byte) :
    m.write o (xs ++ ys) = (m.write o xs).write (o + xs.length) ys := by
  funext k
  unfold Mem.write
  by_cases first : k < o + xs.length
  · rw [if_neg (Nat.not_le.mpr first)]
    split
    · rw [List.getElem?_append_left (by omega)]
    · rfl
  · rw [if_pos (Nat.not_lt.mp first), if_pos (by omega), if_pos (by omega),
      List.getElem?_append_right (by omega), List.getElem?_eq_none (i := k - o) (l := xs) (by omega),
      Nat.sub_sub, Option.getD_none]

/-- Bytes stay where nothing is written. -/
theorem Mem.Holds.sameBut (holds : m.Holds o xs) (same : SameBut R m m')
    (clear : Clear R o xs.length) : m'.Holds o xs :=
  fun i inside => (same (o + i) (clear _ ⟨Nat.le_add_right o i, by omega⟩)).trans (holds i inside)

end Writing

/-! ## Strings -/

/-- A string with its end, in units of `w` bytes. -/
def IsStr (w : Nat) (s : List Byte) : Prop :=
  ∃ units : List (List Byte), (∀ u ∈ units, u.length = w ∧ u ≠ List.replicate w 0) ∧
    s = units.flatten ++ List.replicate w 0

/-- How many bytes of `fuel` units there are in the string at `p`, with its end. -/
def strsizeFrom (w : Nat) (m : Mem) : Nat → Nat → Nat
  | 0, _ => 0
  | fuel + 1, p =>
      if m.slice p w = List.replicate w 0 then w else w + strsizeFrom w m fuel (p + w)

section Strings

variable {m : Mem} {w p : Nat} {s : List Byte}

theorem IsStr.le_length (str : IsStr w s) : w ≤ s.length := by
  obtain ⟨units, -, rfl⟩ := str
  rw [List.length_append, List.length_replicate]
  exact Nat.le_add_left ..

theorem strsizeFrom_eq {fuel : Nat} (wide : 0 < w) (str : IsStr w s) (holds : m.Holds p s)
    (fits : s.length ≤ fuel) : strsizeFrom w m fuel p = s.length := by
  obtain ⟨units, valid, rfl⟩ := str
  induction units generalizing p fuel with
  | nil =>
      have zeros : m.slice p w = List.replicate w 0 := by
        have read := holds.slice
        rwa [List.flatten_nil, List.nil_append, List.length_replicate] at read
      rw [List.flatten_nil, List.nil_append, List.length_replicate] at fits ⊢
      obtain ⟨more, rfl⟩ := Nat.exists_eq_add_of_lt (Nat.lt_of_lt_of_le wide fits)
      rw [Nat.zero_add, strsizeFrom, if_pos zeros]
  | cons u rest ih =>
      obtain ⟨length, nonzero⟩ := valid u List.mem_cons_self
      rw [List.flatten_cons, List.append_assoc] at holds fits ⊢
      have first : m.slice p w = u := by
        rw [← length]
        exact holds.left.slice
      rw [List.length_append, length] at fits ⊢
      obtain ⟨more, rfl⟩ := Nat.exists_eq_add_of_lt (Nat.lt_of_lt_of_le wide (by omega : w ≤ fuel))
      rw [Nat.zero_add] at fits ⊢
      have after := holds.right
      rw [length] at after
      rw [strsizeFrom, first, if_neg nonzero, ih
        (fun v member => valid v (List.mem_cons_of_mem u member)) after (by omega)]

end Strings

end IpxWrapper.Base
