import IpxWrapper.Adapters
import Mathlib.Data.List.Forall2
import Mathlib.Data.Set.Basic
import Mathlib.Data.Nat.Bitwise

/-!
# The mask of a point-to-point link (`_push_addr`)

The comment in `_push_addr` says that the route with the smallest network is preferred.
The loop takes a route whose mask is smaller, as a number, than the one it has, and so
ends with the largest network: `pushAddr_smallest_iff`.
-/

namespace IpxWrapper

/-! ## Byte order and masks -/

theorem ntohl_toNat (v : UInt32) : (ntohl v).toNat = v.toNat % 256 * 16777216 +
    v.toNat / 256 % 256 * 65536 + v.toNat / 65536 % 256 * 256 + v.toNat / 16777216 := by
  have bound := v.toNat_lt
  unfold ntohl
  rw [UInt32.toNat_ofNat']
  omega

/-- The bytes of a number that is given by its bytes. -/
theorem bytes_of_bytes {a b c d : Nat} (hb : b < 256) (hc : c < 256) (hd : d < 256) :
    (a * 16777216 + b * 65536 + c * 256 + d) % 256 = d ∧
      (a * 16777216 + b * 65536 + c * 256 + d) / 256 % 256 = c ∧
      (a * 16777216 + b * 65536 + c * 256 + d) / 65536 % 256 = b ∧
      (a * 16777216 + b * 65536 + c * 256 + d) / 16777216 = a := by
  have lower : (a * 16777216 + b * 65536 + c * 256 + d) / 256 = (a * 256 + b) * 256 + c := by omega
  have higher : (a * 16777216 + b * 65536 + c * 256 + d) / 65536 = a * 256 + b := by omega
  rw [lower, higher]
  exact ⟨by omega, by omega, by omega, by omega⟩

/-- A number is put together of its bytes. -/
theorem sum_bytes {n : Nat} : n / 16777216 * 16777216 + n / 65536 % 256 * 65536 +
    n / 256 % 256 * 256 + n % 256 = n := by
  omega

@[simp] theorem ntohl_ntohl (v : UInt32) : ntohl (ntohl v) = v := by
  obtain ⟨lowest, lower, higher, highest⟩ := bytes_of_bytes (a := v.toNat % 256)
    (b := v.toNat / 256 % 256) (c := v.toNat / 65536 % 256) (d := v.toNat / 16777216)
    (Nat.mod_lt _ (by decide)) (Nat.mod_lt _ (by decide))
    (Nat.div_lt_of_lt_mul v.toNat_lt)
  apply UInt32.toNat_inj.mp
  rw [ntohl_toNat, ntohl_toNat, lowest, lower, higher, highest, sum_bytes]

theorem ntohl_inj {v w : UInt32} (same : ntohl v = ntohl w) : v = w := by
  rw [← ntohl_ntohl v, same, ntohl_ntohl]

/-- What is left of a number under a mask with `k` low bits clear. -/
theorem and_mask_eq {a k : Nat} (small : a < 2 ^ 32) (le : k ≤ 32) :
    a &&& (2 ^ 32 - 2 ^ k) = a / 2 ^ k * 2 ^ k := by
  have positive : 0 < 2 ^ k := Nat.two_pow_pos k
  have below : 2 ^ k ≤ 2 ^ 32 := Nat.pow_le_pow_right (by decide) le
  apply Nat.eq_of_testBit_eq
  intro i
  have mask : (2 ^ 32 - 2 ^ k).testBit i = (decide (i < 32) && !decide (i < k)) := by
    rw [show 2 ^ 32 - 2 ^ k = 2 ^ 32 - (2 ^ k - 1 + 1) by omega,
      Nat.testBit_two_pow_sub_succ (by omega), Nat.testBit_two_pow_sub_one]
  rw [Nat.testBit_and, mask, ← Nat.shiftRight_eq_div_pow, ← Nat.shiftLeft_eq,
    Nat.testBit_shiftLeft, Nat.testBit_shiftRight]
  by_cases high : k ≤ i
  · rw [Nat.add_sub_cancel' high]
    by_cases inside : i < 32
    · simp [high, inside]
    · have beyond : a.testBit i = false :=
        Nat.testBit_lt_two_pow (small.trans_le (Nat.pow_le_pow_right (by decide) (by omega)))
      simp [beyond]
  · simp [high, Nat.lt_of_not_le high]

/-! ## Routes -/

namespace IpForwardRow

/-- The mask is `n` ones and then zeros. -/
def Contiguous (row : IpForwardRow) : Prop :=
  ∃ k ≤ 32, (ntohl row.dwForwardMask).toNat = 2 ^ 32 - 2 ^ k

/-- The addresses that the route is for. -/
def network (row : IpForwardRow) : Set UInt32 :=
  { ipaddr | ntohl ipaddr &&& ntohl row.dwForwardMask = ntohl row.dwForwardDest }

/-- The route is neither the default route nor that of one host, and contains `ipaddr`. -/
structure Candidate (row : IpForwardRow) (ipaddr : UInt32) : Prop where
  notDefault : row.dwForwardMask ≠ 0
  notHost : row.dwForwardMask ≠ 0xFFFFFFFF
  contains : ipaddr ∈ row.network

end IpForwardRow

section Routes

variable {row other : IpForwardRow} {ipaddr : UInt32} {table : List IpForwardRow}

/-- A network with a contiguous mask is an interval. -/
theorem mem_network_iff {k : Nat} (le : k ≤ 32)
    (mask : (ntohl row.dwForwardMask).toNat = 2 ^ 32 - 2 ^ k) :
    ipaddr ∈ row.network ↔
      (ntohl ipaddr).toNat / 2 ^ k * 2 ^ k = (ntohl row.dwForwardDest).toNat := by
  change _ = _ ↔ _
  rw [← UInt32.toNat_inj, UInt32.toNat_and, mask, and_mask_eq (ntohl ipaddr).toNat_lt le]

/-- A route to a smaller network has a mask that is no smaller. -/
theorem mask_le_of_network_subset (contiguous : row.Contiguous) (contiguous' : other.Contiguous)
    (member : ipaddr ∈ row.network) (subset : row.network ⊆ other.network) :
    (ntohl other.dwForwardMask).toNat ≤ (ntohl row.dwForwardMask).toNat := by
  obtain ⟨k, le, mask⟩ := contiguous
  obtain ⟨k', le', mask'⟩ := contiguous'
  rw [mask, mask']
  apply Nat.sub_le_sub_left
  have positive : 0 < 2 ^ k := Nat.two_pow_pos k
  have positive' : 0 < 2 ^ k' := Nat.two_pow_pos k'
  rw [mem_network_iff le mask] at member
  have last : (ntohl row.dwForwardDest).toNat + 2 ^ k ≤ 2 ^ 32 := by
    have whole : 2 ^ k * 2 ^ (32 - k) = 2 ^ 32 := by
      rw [← Nat.pow_add, Nat.add_sub_cancel' le]
    have below : (ntohl ipaddr).toNat / 2 ^ k < 2 ^ (32 - k) :=
      Nat.div_lt_of_lt_mul (by rw [whole]; exact (ntohl ipaddr).toNat_lt)
    rw [← member, ← Nat.succ_mul, ← whole, Nat.mul_comm (2 ^ k)]
    exact Nat.mul_le_mul_right _ below
  -- Each address of the network is in the other.
  have inside (i : Nat) (small : i < 2 ^ k) :
      ((ntohl row.dwForwardDest).toNat + i) / 2 ^ k' * 2 ^ k' =
        (ntohl other.dwForwardDest).toNat := by
    have value : (ntohl (ntohl (.ofNat ((ntohl row.dwForwardDest).toNat + i)))).toNat =
        (ntohl row.dwForwardDest).toNat + i := by
      rw [ntohl_ntohl, UInt32.toNat_ofNat_of_lt' (by change _ < 2 ^ 32; omega)]
    have own : ntohl (.ofNat ((ntohl row.dwForwardDest).toNat + i)) ∈ row.network := by
      have start : ((ntohl ipaddr).toNat / 2 ^ k * 2 ^ k + i) / 2 ^ k =
          (ntohl ipaddr).toNat / 2 ^ k := by
        rw [Nat.mul_comm, Nat.mul_add_div positive, Nat.div_eq_of_lt small, Nat.add_zero]
      rw [mem_network_iff le mask, value, ← member, start]
    have others := subset own
    rwa [mem_network_iff le' mask', value] at others
  have first := inside 0 positive
  have final := inside (2 ^ k - 1) (by omega)
  have lower := Nat.div_mul_le_self ((ntohl row.dwForwardDest).toNat + 0) (2 ^ k')
  have upper := Nat.lt_div_mul_add (a := (ntohl row.dwForwardDest).toNat + (2 ^ k - 1)) positive'
  rw [first] at lower
  rw [final] at upper
  omega

/-! ## What the loop ends with -/

/-- The mask is that of a route that contains the address, or as it was; no such route
has a smaller mask. -/
structure MinimalMask (ipaddr : UInt32) (table : List IpForwardRow) (before after : UInt32) :
    Prop where
  le : (ntohl after).toNat ≤ (ntohl before).toNat
  found : after = before ∨ ∃ row ∈ table, after = row.dwForwardMask ∧
    0 < (ntohl row.dwForwardMask).toNat ∧ ipaddr ∈ row.network
  minimal : ∀ row ∈ table, 0 < (ntohl row.dwForwardMask).toNat → ipaddr ∈ row.network →
    (ntohl after).toNat ≤ (ntohl row.dwForwardMask).toNat

theorem routeMask_minimal (ipaddr : UInt32) (table : List IpForwardRow) (netmask : UInt32) :
    MinimalMask ipaddr table netmask (routeMask ipaddr table netmask) := by
  induction table generalizing netmask with
  | nil => exact ⟨Nat.le_refl _, Or.inl rfl, fun row member => by cases member⟩
  | cons row rest ih =>
      have unfolds : routeMask ipaddr (row :: rest) netmask = routeMask ipaddr rest
          (if 0 < ntohl row.dwForwardMask ∧ ntohl row.dwForwardMask < ntohl netmask ∧
              ntohl ipaddr &&& ntohl row.dwForwardMask = ntohl row.dwForwardDest then
            row.dwForwardMask else netmask) := by
        simp only [routeMask, List.foldl_cons]
      rw [unfolds]
      split
      case isTrue taken =>
        obtain ⟨positive, smaller, contains⟩ := taken
        have minimal := ih row.dwForwardMask
        rw [UInt32.lt_iff_toNat_lt] at positive smaller
        refine ⟨minimal.le.trans (Nat.le_of_lt smaller), ?_, fun other member => ?_⟩
        · rcases minimal.found with same | ⟨other, member, found⟩
          · exact Or.inr ⟨row, List.mem_cons_self, same, positive, contains⟩
          · exact Or.inr ⟨other, List.mem_cons_of_mem _ member, found⟩
        · rcases List.mem_cons.mp member with rfl | member
          · exact fun _ _ => minimal.le
          · exact minimal.minimal other member
      case isFalse left =>
        have minimal := ih netmask
        refine ⟨minimal.le, ?_, fun other member => ?_⟩
        · exact minimal.found.imp_right fun ⟨other, member, found⟩ =>
            ⟨other, List.mem_cons_of_mem _ member, found⟩
        · rcases List.mem_cons.mp member with rfl | member
          · intro positive contains
            by_contra smaller
            have le := minimal.le
            refine left ⟨?_, ?_, contains⟩
            · rw [UInt32.lt_iff_toNat_lt]
              exact positive
            · rw [UInt32.lt_iff_toNat_lt]
              omega
          · exact minimal.minimal other member

/-- Only one mask is minimal. -/
theorem MinimalMask.unique {before mask mask' : UInt32}
    (left : MinimalMask ipaddr table before mask) (right : MinimalMask ipaddr table before mask') :
    mask = mask' := by
  have le {mask mask' : UInt32} (left : MinimalMask ipaddr table before mask)
      (right : MinimalMask ipaddr table before mask') :
      (ntohl mask).toNat ≤ (ntohl mask').toNat := by
    rcases right.found with rfl | ⟨row, member, rfl, positive, contains⟩
    · exact left.le
    · exact left.minimal row member positive contains
  exact ntohl_inj (UInt32.toNat_inj.mp (Nat.le_antisymm (le left right) (le right left)))

/-- The order of the routes does not matter. -/
theorem routeMask_perm {table' : List IpForwardRow} (perm : table'.Perm table)
    (netmask : UInt32) : routeMask ipaddr table' netmask = routeMask ipaddr table netmask := by
  have minimal := routeMask_minimal ipaddr table' netmask
  have same : MinimalMask ipaddr table netmask (routeMask ipaddr table' netmask) := by
    refine ⟨minimal.le, ?_, fun row member => ?_⟩
    · exact minimal.found.imp_right fun ⟨row, member, found⟩ =>
        ⟨row, perm.mem_iff.mp member, found⟩
    · exact minimal.minimal row (perm.mem_iff.mpr member)
  exact same.unique (routeMask_minimal ipaddr table netmask)

end Routes

/-! ## What is recorded -/

/-- What `_push_addr` is to record for `addr` with the mask 255.255.255.255. -/
structure RecordsSmallest (addr : UInt32) (table : List IpForwardRow) (ip : IpxInterfaceIp) :
    Prop where
  ipaddr : ip.ipaddr = addr
  /-- The mask of the smallest network, or that which it had. -/
  netmask : (∃ row ∈ table, row.Candidate addr ∧ ip.netmask = row.dwForwardMask ∧
      ∀ other ∈ table, other.Candidate addr → row.network ⊆ other.network) ∨
    (ip.netmask = 0xFFFFFFFF ∧ ∀ row ∈ table, ¬ row.Candidate addr)
  bcast : ip.bcast = addr ||| ~~~ip.netmask

/-- The routes to choose from have the same mask. -/
def SameMasks (addr : UInt32) (table : List IpForwardRow) : Prop :=
  ∀ row ∈ table, ∀ other ∈ table, row.Candidate addr → other.Candidate addr →
    row.dwForwardMask = other.dwForwardMask

section Recorded

variable {row other : IpForwardRow} {addr : UInt32} {table : List IpForwardRow}

instance (row : IpForwardRow) (ipaddr : UInt32) : Decidable (ipaddr ∈ row.network) :=
  inferInstanceAs (Decidable (ntohl ipaddr &&& ntohl row.dwForwardMask = ntohl row.dwForwardDest))

theorem ntohl_pos_iff {v : UInt32} : 0 < (ntohl v).toNat ↔ v ≠ 0 := by
  constructor
  · rintro positive rfl
    exact absurd positive (by decide)
  · intro nonzero
    apply Nat.pos_of_ne_zero
    intro zero
    exact nonzero (ntohl_inj (UInt32.toNat_inj.mp zero))

/-- Routes with the same mask that contain one address are to one network. -/
theorem network_eq (left : addr ∈ row.network) (right : addr ∈ other.network)
    (same : row.dwForwardMask = other.dwForwardMask) : row.network = other.network := by
  unfold IpForwardRow.network at left right ⊢
  change _ = _ at left right
  rw [← left, ← right, same]

/-- The mask of the loop is that of a candidate, or there is none. -/
theorem routeMask_cases (addr : UInt32) (table : List IpForwardRow) :
    (∃ row ∈ table, row.Candidate addr ∧ routeMask addr table 0xFFFFFFFF = row.dwForwardMask ∧
      ∀ other ∈ table, other.Candidate addr →
        (ntohl row.dwForwardMask).toNat ≤ (ntohl other.dwForwardMask).toNat) ∨
    (routeMask addr table 0xFFFFFFFF = 0xFFFFFFFF ∧ ∀ row ∈ table, ¬ row.Candidate addr) := by
  have minimal := routeMask_minimal addr table 0xFFFFFFFF
  by_cases candidates : ∃ row ∈ table, row.Candidate addr
  · obtain ⟨row, member, candidate⟩ := candidates
    have below : ∀ other ∈ table, other.Candidate addr →
        (ntohl (routeMask addr table 0xFFFFFFFF)).toNat ≤ (ntohl other.dwForwardMask).toNat :=
      fun other member candidate =>
        minimal.minimal other member (ntohl_pos_iff.mpr candidate.notDefault) candidate.contains
    have changed : routeMask addr table 0xFFFFFFFF ≠ 0xFFFFFFFF := by
      intro same
      have le := below row member candidate
      rw [same] at le
      have top : (ntohl row.dwForwardMask).toNat = (ntohl 0xFFFFFFFF).toNat :=
        Nat.le_antisymm (Nat.le_of_lt_succ (ntohl row.dwForwardMask).toNat_lt) le
      exact candidate.notHost (ntohl_inj (UInt32.toNat_inj.mp top))
    rcases minimal.found with same | ⟨found, member', same, positive, contains⟩
    · exact absurd same changed
    · refine Or.inl ⟨found, member', ⟨ntohl_pos_iff.mp positive, ?_, contains⟩, same, ?_⟩
      · rw [← same]
        exact changed
      · rw [← same]
        exact below
  · refine Or.inr ⟨?_, fun row member candidate => candidates ⟨row, member, candidate⟩⟩
    rcases minimal.found with same | ⟨found, member, same, positive, contains⟩
    · exact same
    · by_cases host : found.dwForwardMask = 0xFFFFFFFF
      · rw [same, host]
      · exact absurd ⟨found, member, ⟨ntohl_pos_iff.mp positive, host, contains⟩⟩ candidates

/-- The mask that the loop ends with is that of the smallest network if and only if all the
routes to choose from have the same mask. -/
theorem recordsSmallest_iff (contiguous : ∀ row ∈ table, row.Contiguous) :
    RecordsSmallest addr table ⟨addr, routeMask addr table 0xFFFFFFFF,
      addr ||| ~~~routeMask addr table 0xFFFFFFFF⟩ ↔ SameMasks addr table := by
  constructor
  · intro records
    -- The chosen mask is both the least and that of a network in every other.
    have all : ∀ other ∈ table, other.Candidate addr →
        other.dwForwardMask = routeMask addr table 0xFFFFFFFF := by
      intro other member candidate
      rcases records.netmask with ⟨row, member', candidate', same, smallest⟩ | ⟨-, nothing⟩
      · have le := mask_le_of_network_subset (contiguous row member') (contiguous other member)
          candidate'.contains (smallest other member candidate)
        have least := (routeMask_minimal addr table 0xFFFFFFFF).minimal other member
          (ntohl_pos_iff.mpr candidate.notDefault) candidate.contains
        dsimp only at same
        rw [← same] at le
        exact ntohl_inj (UInt32.toNat_inj.mp (Nat.le_antisymm le least))
      · exact absurd candidate (nothing other member)
    intro row member other member' candidate candidate'
    rw [all row member candidate, all other member' candidate']
  · intro same
    refine ⟨rfl, ?_, rfl⟩
    rcases routeMask_cases addr table with ⟨row, member, candidate, mask, -⟩ | nothing
    · refine Or.inl ⟨row, member, candidate, mask, fun other member' candidate' => ?_⟩
      rw [network_eq candidate.contains candidate'.contains
        (same row member other member' candidate candidate')]
    · exact Or.inr nothing

/-- What `_push_addr` is to do for the addresses of an adapter: those of links have the mask of
the smallest network, and the order of the routes does not matter. -/
def PushesSmallest (env : HostEnv) (table : List IpForwardRow) (list : List IpAddrString)
    (ips : List IpxInterfaceIp) : Prop :=
  ∃ recorded, pushAddr env list ips = some (ips ++ recorded) ∧
    List.Forall₂ (fun ip record =>
      ip.ipMask = 0xFFFFFFFF → RecordsSmallest ip.ipAddress table record)
      (list.filter (·.ipAddress ≠ 0)) recorded ∧
    ∀ table' : List IpForwardRow, table'.Perm table →
      pushAddr { env with forwardTable := some table' } list ips = some (ips ++ recorded)

variable {env : HostEnv} {list : List IpAddrString} {ips : List IpxInterfaceIp}

theorem addrRecord_host {ip : IpAddrString} (lists : env.forwardTable = some table)
    (host : ip.ipMask = 0xFFFFFFFF) :
    addrRecord env ip = ⟨ip.ipAddress, routeMask ip.ipAddress table 0xFFFFFFFF,
      ip.ipAddress ||| ~~~routeMask ip.ipAddress table 0xFFFFFFFF⟩ := by
  simp [addrRecord, lists, host]

theorem addrRecord_perm {table' : List IpForwardRow} (lists : env.forwardTable = some table)
    (perm : table'.Perm table) (ip : IpAddrString) :
    addrRecord { env with forwardTable := some table' } ip = addrRecord env ip := by
  simp [addrRecord, lists, routeMask_perm perm]

/-- The routes are there, and memory: nothing fails. -/
theorem pushAddr_eq (env : HostEnv) (lists : env.forwardTable = some table) (memory : env.malloc = true) :
    pushAddr env list ips = some (ips ++ addrRecords env list) := by
  apply pushAddr_eq_some_iff.mpr
  refine ⟨fun ip _ _ => ⟨memory, fun _ => ?_⟩, rfl⟩
  rw [lists, Option.isSome_some]

/-- `_push_addr` gives the addresses of links the mask of the smallest network if and only if
for each all the routes to choose from have the same mask. -/
theorem pushAddr_smallest_iff (lists : env.forwardTable = some table) (memory : env.malloc = true)
    (contiguous : ∀ row ∈ table, row.Contiguous) :
    PushesSmallest env table list ips ↔
      ∀ ip ∈ list, ip.ipAddress ≠ 0 → ip.ipMask = 0xFFFFFFFF → SameMasks ip.ipAddress table := by
  have pairs : List.Forall₂ (fun ip record =>
      ip.ipMask = 0xFFFFFFFF → RecordsSmallest ip.ipAddress table record)
      (list.filter (·.ipAddress ≠ 0)) (addrRecords env list) ↔
      ∀ ip ∈ list, ip.ipAddress ≠ 0 → ip.ipMask = 0xFFFFFFFF →
        SameMasks ip.ipAddress table := by
    unfold addrRecords
    rw [List.forall₂_map_right_iff, List.forall₂_same]
    simp only [List.mem_filter, decide_eq_true_eq, and_imp]
    refine forall_congr' fun ip => forall_congr' fun _ => forall_congr' fun _ =>
      forall_congr' fun host => ?_
    rw [addrRecord_host lists host, recordsSmallest_iff contiguous]
  constructor
  · rintro ⟨recorded, pushed, smallest, -⟩
    rw [pushAddr_eq env lists memory] at pushed
    rw [← List.append_cancel_left (Option.some.inj pushed)] at smallest
    exact pairs.mp smallest
  · intro same
    refine ⟨addrRecords env list, pushAddr_eq env lists memory, pairs.mpr same, ?_⟩
    intro table' perm
    rw [pushAddr_eq { env with forwardTable := some table' } rfl memory]
    unfold addrRecords
    rw [funext (addrRecord_perm lists perm)]

/-- The routes 10.0.0.0/8 and 10.1.2.0/24. -/
def nestedRoutes : List IpForwardRow := [⟨0x0000000A, 0x000000FF⟩, ⟨0x0002010A, 0x00FFFFFF⟩]

/-- A host with these routes. -/
def nestedHost : HostEnv where
  adapters := []
  listed := true
  config := fun _ => ⟨1, 0, true⟩
  primary := 0
  forwardTable := some nestedRoutes
  malloc := true

theorem nestedRoutes_contiguous : ∀ row ∈ nestedRoutes, row.Contiguous := by
  unfold nestedRoutes
  simp only [List.forall_mem_cons]
  exact ⟨⟨24, by decide⟩, ⟨8, by decide⟩, by simp⟩

/-- The link 10.1.2.3 is given the mask 255.0.0.0. -/
theorem nestedRoutes_not_pushesSmallest :
    pushAddr nestedHost [⟨0x0302010A, 0xFFFFFFFF⟩] [] =
        some [⟨0x0302010A, 0x000000FF, 0xFFFFFF0A⟩] ∧
      ¬ PushesSmallest nestedHost nestedRoutes [⟨0x0302010A, 0xFFFFFFFF⟩] [] := by
  refine ⟨by decide, ?_⟩
  rw [pushAddr_smallest_iff rfl rfl nestedRoutes_contiguous]
  intro same
  have equal := same _ List.mem_cons_self (by decide) rfl _ List.mem_cons_self _
    (List.mem_cons_of_mem _ List.mem_cons_self) ⟨by decide, by decide, by decide⟩
    ⟨by decide, by decide, by decide⟩
  exact absurd equal (by decide)

theorem nestedRoutes_candidate {row : IpForwardRow} (member : row ∈ nestedRoutes)
    (candidate : row.Candidate 0x0909090A) : row = ⟨0x0000000A, 0x000000FF⟩ := by
  unfold nestedRoutes at member
  rcases List.mem_cons.mp member with rfl | rest
  · rfl
  · obtain rfl := List.mem_singleton.mp rest
    exact absurd candidate.contains (by decide)

/-- The mask of the link 10.9.9.9, which only the first of the routes is for, is right. -/
theorem pushAddr_smallest_outside : PushesSmallest nestedHost nestedRoutes
    [⟨0x0909090A, 0xFFFFFFFF⟩] [] := by
  apply (pushAddr_smallest_iff rfl rfl nestedRoutes_contiguous).mpr
  intro ip only _ _ row member other member' candidate candidate'
  obtain rfl := List.mem_singleton.mp only
  rw [nestedRoutes_candidate member candidate, nestedRoutes_candidate member' candidate']

end Recorded

end IpxWrapper
