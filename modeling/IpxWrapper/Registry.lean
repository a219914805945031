import IpxWrapper.Addr
import IpxWrapper.Base.Named

/-!
# Values in the registry (`common.c`)

A key is given by its values, in the order in which they are enumerated. The handle
of a key that is not there is `NULL`, and the `reg_get_` functions return their
default for it, as they do for a value that is not there or does not have the right
size. Names are compared without regard to case.
-/

namespace IpxWrapper

open Base

structure RegValue where
  name : List Char
  data : List Byte
deriving DecidableEq

/-- The values of a key. -/
abbrev RegKey := List RegValue

def sameName (a b : List Char) : Bool := a.map Char.toUpper = b.map Char.toUpper

/-- `RegQueryValueEx`. -/
def regQueryValueEx (key : RegKey) (name : List Char) : Option (List Byte) :=
  (key.find? fun value => sameName value.name name).map RegValue.data

/-- `RegSetValueEx`. -/
def regSetValueEx (name : List Char) (data : List Byte) (key : RegKey) : RegKey :=
  upsert (fun value => sameName value.name name) (fun value => { value with data := data })
    ⟨name, data⟩ key

/-- `reg_check_value`. -/
def regCheckValue (key : Option RegKey) (name : List Char) : Bool :=
  key.any fun values => (regQueryValueEx values name).isSome

/-- `reg_get_bin`: the `size` bytes of the value; none where it returns false, and the
buffer has the default. -/
def regGetBin (key : Option RegKey) (name : List Char) (size : Nat) : Option (List Byte) :=
  key.bind fun values => (regQueryValueEx values name).filter fun data => data.length = size

/-- The bytes of a buffer. -/
def bufferOf (data : List Byte) : Mem := Mem.ofList data fun _ => 0

/-- `reg_get_dword`. -/
def regGetDword (key : Option RegKey) (name : List Char) (default : UInt32) : UInt32 :=
  match regGetBin key name 4 with
  | some data => UInt32.ofNat (le (bufferOf data) 0 4)
  | none => default

/-- `reg_get_addr32`. -/
def regGetAddr32 (key : Option RegKey) (name : List Char) (default : Addr32) : Addr32 :=
  addr32In (bufferOf ((regGetBin key name 4).getD (addr32Out default))) 0

/-- `reg_get_addr48`. -/
def regGetAddr48 (key : Option RegKey) (name : List Char) (default : Addr48) : Addr48 :=
  addr48In (bufferOf ((regGetBin key name 6).getD (addr48Out default))) 0

section Values

variable {key : RegKey} {name other : List Char} {data : List Byte}

theorem sameName_refl (name : List Char) : sameName name name = true := by
  simp [sameName]

theorem sameName_trans {a b c : List Char} (left : sameName a b = true)
    (right : sameName b c = true) : sameName a c = true := by
  simp only [sameName, decide_eq_true_eq] at left right ⊢
  exact left.trans right

theorem sameName_symm {a b : List Char} (same : sameName a b = true) : sameName b a = true := by
  simp only [sameName, decide_eq_true_eq] at same ⊢
  exact same.symm

/-- What has one name does not have another. -/
theorem sameName_apart {a : List Char} (different : sameName name other = false)
    (same : sameName a name = true) : sameName a other = false := by
  apply Bool.eq_false_iff.mpr
  intro both
  rw [sameName_trans (sameName_symm same) both] at different
  cases different

/-- A value that was set is there. -/
theorem regQueryValueEx_set (key : RegKey) (name : List Char) (data : List Byte) :
    regQueryValueEx (regSetValueEx name data key) name = some data := by
  have found : (regSetValueEx name data key).find? (fun value => sameName value.name name) =
      some (((key.find? fun value => sameName value.name name).map fun value =>
        { value with data := data }).getD ⟨name, data⟩) := by
    apply find?_upsert
    · exact fun _ => rfl
    · exact sameName_refl name
  unfold regQueryValueEx
  rw [found, Option.map_some]
  cases key.find? fun value => sameName value.name name <;> rfl

/-- The other values are as they were. -/
theorem regQueryValueEx_set_of_ne (different : sameName name other = false) :
    regQueryValueEx (regSetValueEx name data key) other = regQueryValueEx key other := by
  have kept : (regSetValueEx name data key).find? (fun value => sameName value.name other) =
      key.find? fun value => sameName value.name other := by
    apply find?_upsert_of_apart
    · exact fun _ same => sameName_apart different same
    · exact fun _ same => sameName_apart different same
    · exact different
  unfold regQueryValueEx
  rw [kept]

theorem regGetBin_eq_some_iff {size : Nat} : regGetBin (some key) name size = some data ↔
    regQueryValueEx key name = some data ∧ data.length = size := by
  simp [regGetBin, Option.filter_eq_some_iff]

end Values

end IpxWrapper
