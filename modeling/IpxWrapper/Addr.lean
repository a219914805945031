import IpxWrapper.Base.Bytes

/-!
# IPX addresses (`addr.c`)

`addr32_t` holds the four bytes of a network number as they lie in memory and
`addr48_t` the six bytes of a node number behind two zero bytes, so that `==`
on the integers compares the bytes.
-/

namespace IpxWrapper

open Base

abbrev Addr32 := UInt32

abbrev Addr48 := UInt64

/-- `addr32_in`: the network number stored at `o`. -/
def addr32In (m : Mem) (o : Nat) : Addr32 :=
  UInt32.ofNat (le m o 4)

/-- `addr32_out`: the bytes stored for a network number. -/
def addr32Out (addr : Addr32) : List Byte :=
  leBytes addr.toNat 4

/-- `addr48_in`: the node number stored at `o`, copied to the upper six bytes
of a zeroed `addr48_t`. -/
def addr48In (m : Mem) (o : Nat) : Addr48 :=
  UInt64.ofNat (65536 * le m o 6)

/-- `addr48_out`: the bytes stored for a node number. -/
def addr48Out (addr : Addr48) : List Byte :=
  leBytes (addr.toNat / 65536) 6

/-- `BCAST_NET`. -/
def bcastNet : Addr32 := 0xFFFFFFFF

/-- `BCAST_NODE`. -/
def bcastNode : Addr48 := 0xFFFFFFFFFFFF0000

/-- `ZERO_NET`. -/
def zeroNet : Addr32 := 0

@[simp] theorem length_addr32Out (addr : Addr32) : (addr32Out addr).length = 4 :=
  length_leBytes _ _

@[simp] theorem length_addr48Out (addr : Addr48) : (addr48Out addr).length = 6 :=
  length_leBytes _ _

/-- Reading back a network number. -/
theorem addr32In_of_holds {m : Mem} {o : Nat} {addr : Addr32} (holds : m.Holds o (addr32Out addr)) :
    addr32In m o = addr := by
  unfold addr32In
  rw [le_of_holds addr.toNat_lt holds, UInt32.ofNat_toNat]

/-- Reading back a node number: its two lower bytes are not stored. -/
theorem addr48In_of_holds {m : Mem} {o : Nat} {addr : Addr48} (six : addr.toNat % 65536 = 0)
    (holds : m.Holds o (addr48Out addr)) : addr48In m o = addr := by
  have bound := addr.toNat_lt
  unfold addr48In
  rw [le_of_holds (by omega) holds, show 65536 * (addr.toNat / 65536) = addr.toNat by omega,
    UInt64.ofNat_toNat]

example : addr32In (Mem.ofList (List.replicate 4 0xFF) fun _ => 0) 0 = bcastNet := by decide

example : addr48In (Mem.ofList (List.replicate 6 0xFF) fun _ => 0) 0 = bcastNode := by decide

end IpxWrapper
