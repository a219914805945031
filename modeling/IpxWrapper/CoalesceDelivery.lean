import IpxWrapper.CoalesceLedger
import IpxWrapper.DosboxRecv

/-!
# What the receiver makes of a container

A datagram that stands for a batch of the ledger is put through
`_handle_dosbox_recv`: the packets come out one by one, in the order they were
added, each as it would have come out of a datagram of its own.

* `Submission.WellFormed`: a packet as `ipx_send_packet` builds it, with
  `dosboxPacket_wellFormed`.
* `deliverCall_delivered`: a packet found somewhere in a buffer is delivered as
  it was submitted.
* `SentAs.delivers`: the round trip for a container.
-/

namespace IpxWrapper

open Base Loop Chain NovellIpxPacket

/-! ## Packets as they are built -/

/-- The packet in a buffer of its own. -/
def Submission.mem (sub : Submission) : Mem := Mem.ofList sub.data fun _ => 0

/-- What is sent with the packet. -/
def Submission.delivered (sub : Submission) : Delivered :=
  (deliverCall sub.mem 0).delivered sub.mem

/-- The packet has a header, and its length field is its length. -/
structure Submission.WellFormed (sub : Submission) : Prop where
  header_fits : size ≤ sub.data.length
  length_eq : length sub.mem 0 = sub.data.length

/-- The packet `ipx_send_packet` builds for the DOSBox server. -/
def dosboxPacket (type : Byte) (srcNet : Addr32) (srcNode : Addr48) (srcSocket : UInt16)
    (dest : IpxDest) (data : List Byte) : List Byte :=
  header (lengthBytes (size + data.length)) type dest.netnum dest.nodenum dest.socket
    srcNet srcNode srcSocket ++ data

theorem dosboxPacket_wellFormed (type : Byte) (srcNet : Addr32) (srcNode : Addr48)
    (srcSocket : UInt16) (dest : IpxDest) {data : List Byte} (small : data.length < 65506) :
    (Submission.mk dest (dosboxPacket type srcNet srcNode srcSocket dest data)).WellFormed := by
  have total : (dosboxPacket type srcNet srcNode srcSocket dest data).length =
      size + data.length := by
    unfold dosboxPacket
    rw [List.length_append, length_header]
    rfl
  constructor
  · rw [total]
    omega
  · rw [total]
    have whole : (Submission.mk dest (dosboxPacket type srcNet srcNode srcSocket dest data)).mem.Holds
        0 (header (lengthBytes (size + data.length)) type dest.netnum dest.nodenum dest.socket
          srcNet srcNode srcSocket ++ data) := Mem.ofList_holds _ _
    exact length_of_holds (by unfold size; omega) whole.left

/-- A packet that is built and delivered comes out as it went in. -/
theorem dosboxPacket_delivered (ptype : Byte) (fromNet : Addr32) {fromNode : Addr48}
    (fromSocket : UInt16) {dest : IpxDest} {payload : List Byte} (small : payload.length < 65506)
    (from_six : fromNode.toNat % 65536 = 0) (dest_six : dest.nodenum.toNat % 65536 = 0) :
    (Submission.mk dest (dosboxPacket ptype fromNet fromNode fromSocket dest payload)).delivered =
      ⟨ptype, fromNet, fromNode, fromSocket, dest.netnum, dest.nodenum, dest.socket, payload⟩ := by
  unfold Submission.delivered
  exact deliverCall_of_holds small from_six dest_six (Mem.ofList_holds _ _)

/-! ## Packets found in a buffer -/

section Found

variable {m : Mem} {p : Nat} {sub : Submission}

theorem length_of_found (wellFormed : sub.WellFormed) (holds : m.Holds p sub.data) :
    length m p = sub.data.length := by
  rw [← wellFormed.length_eq]
  refine be16_congr fun i hi => ?_
  have fits := wellFormed.header_fits
  unfold size at fits
  have agree := holds.agree (Mem.ofList_holds sub.data fun _ => 0)
    (show 2 + i < sub.data.length by omega)
  rwa [← Nat.add_assoc, ← Nat.add_assoc] at agree

/-- A packet is delivered as it was submitted, wherever it lies. -/
theorem deliverCall_delivered (wellFormed : sub.WellFormed) (holds : m.Holds p sub.data) :
    (deliverCall m p).delivered m = sub.delivered := by
  have fits := wellFormed.header_fits
  have same : ∀ i, i < sub.data.length → m (p + i) = sub.mem (0 + i) := fun i hi =>
    holds.agree (Mem.ofList_holds sub.data fun _ => 0) hi
  have field : ∀ o n, o + n ≤ 30 → ∀ i, i < n → m (p + o + i) = sub.mem (0 + o + i) := by
    intro o n inside i hi
    rw [Nat.add_assoc, Nat.add_assoc]
    refine same (o + i) ?_
    unfold size at fits
    omega
  have lengths : length m p = length sub.mem 0 := be16_congr (field 2 2 (by omega))
  have wrap : (length sub.mem 0 + 2 ^ 32 - size) % 2 ^ 32 = sub.data.length - size := by
    have bound := NovellIpxPacket.length_lt sub.mem 0
    have exact' := wellFormed.length_eq
    unfold size at fits ⊢
    omega
  have destNets : destNet m p = destNet sub.mem 0 :=
    congrArg UInt32.ofNat (le_congr (field 6 4 (by omega)))
  have destNodes : destNode m p = destNode sub.mem 0 :=
    congrArg (fun v => UInt64.ofNat (65536 * v)) (le_congr (field 10 6 (by omega)))
  have destSockets : destSocket m p = destSocket sub.mem 0 :=
    congrArg UInt16.ofNat (le_congr (field 16 2 (by omega)))
  have srcNets : srcNet m p = srcNet sub.mem 0 :=
    congrArg UInt32.ofNat (le_congr (field 18 4 (by omega)))
  have srcNodes : srcNode m p = srcNode sub.mem 0 :=
    congrArg (fun v => UInt64.ofNat (65536 * v)) (le_congr (field 22 6 (by omega)))
  have srcSockets : srcSocket m p = srcSocket sub.mem 0 :=
    congrArg UInt16.ofNat (le_congr (field 28 2 (by omega)))
  have types : type m p = type sub.mem 0 := field 5 1 (by omega) 0 (by omega)
  have payloads : m.slice (data p) (sub.data.length - size) =
      sub.mem.slice (data 0) (sub.data.length - size) := by
    refine Mem.slice_congr fun i hi => ?_
    unfold data
    rw [Nat.add_assoc, Nat.add_assoc]
    refine same (30 + i) ?_
    unfold size at hi
    omega
  unfold Submission.delivered DeliverCall.delivered deliverCall
  simp only [types, srcNets, srcNodes, srcSockets, destNets, destNodes, destSockets, lengths,
    wrap, payloads]

end Found

/-! ## Containers -/

/-- The packets numbered `ids`. -/
def batch (subs : List Submission) (ids : List Nat) : List Submission :=
  ids.filterMap fun n => subs[n]?

/-- Packets laid one after the other tile the bytes they fill, and each is
delivered as it was submitted. -/
theorem tiles_of_packets {m : Mem} {subs : List Submission} {ids : List Nat} {p : Nat}
    (wellFormed : ∀ n ∈ ids, ∃ sub, subs[n]? = some sub ∧ sub.WellFormed)
    (holds : m.Holds p (packets subs ids)) :
    ∃ ps, Tiles (length m) size (p + (packets subs ids).length) p ps ∧
      ps.map (fun q => (deliverCall m q).delivered m) =
        (batch subs ids).map Submission.delivered := by
  induction ids generalizing p with
  | nil => exact ⟨[], .nil, rfl⟩
  | cons n ids ih =>
      obtain ⟨sub, at_n, sub_wellFormed⟩ := wellFormed n List.mem_cons_self
      have split : packets subs (n :: ids) = sub.data ++ packets subs ids := by
        rw [← packets_singleton at_n, ← packets_append, List.singleton_append]
      rw [split] at holds ⊢
      have long := sub_wellFormed.header_fits
      have len := length_of_found sub_wellFormed holds.left
      obtain ⟨ps, tiles, delivered⟩ :=
        ih (fun k member => wellFormed k (List.mem_cons_of_mem _ member)) holds.right
      rw [List.length_append, ← Nat.add_assoc]
      refine ⟨p :: ps, .cons ?_ ?_ ?_ ?_, ?_⟩
      · unfold size at long
        omega
      · rw [len]
        exact long
      · omega
      · rw [len]
        exact tiles
      · unfold batch
        rw [List.filterMap_cons_some at_n, List.map_cons, List.map_cons,
          deliverCall_delivered sub_wellFormed holds.left, delivered]
        rfl

/-- A container is let through by the header test and taken for a container. -/
theorem isContainer_of_holds {m : Mem} {total : Nat} {dest : IpxDest} {netnum : Addr32}
    {nodenum : Addr48} (room : size ≤ total) (small : total < 65536)
    (holds : m.Holds 0 (containerHeader (lengthBytes total) dest netnum nodenum)) :
    IsContainer m total := by
  have byte : ∀ i (h : i < 30), m i =
      (containerHeader (lengthBytes total) dest netnum nodenum).get
        ⟨i, by rw [containerHeader, length_header]; exact h⟩ := by
    intro i h
    have at_i := holds i (by rw [containerHeader, length_header]; exact h)
    rwa [Nat.zero_add] at at_i
  refine ⟨⟨room, length_of_holds small holds⟩, ?_, ?_⟩
  · have low : m 28 = 0 := byte 28 (by omega)
    have high : m 29 = 0 := byte 29 (by omega)
    simp only [srcSocket, le, Nat.zero_add, low, high]
    rfl
  · exact byte 5 (by omega)

/-- Feeding a container to the receiver delivers the packets added to it, in
order. -/
theorem SentAs.delivers {subs : List Submission} {ids : List Nat} {data : List Byte}
    (sentAs : SentAs subs ids (.container data))
    (wellFormed : ∀ n ∈ ids, ∃ sub, subs[n]? = some sub ∧ sub.WellFormed) (rest : Mem) :
    ∃ fuel calls, handleDosboxRecv fuel (Mem.ofList data rest) data.length = ⟨calls, true⟩ ∧
      calls.map (DeliverCall.delivered (Mem.ofList data rest)) =
        (batch subs ids).map Submission.delivered := by
  obtain ⟨-, small, dest, netnum, nodenum, bytes, -⟩ := sentAs
  have total : data.length = 30 + (packets subs ids).length := by
    have len := congrArg List.length bytes
    rw [List.length_append, containerHeader, length_header] at len
    exact len
  have holds := Mem.ofList_holds data rest
  generalize Mem.ofList data rest = m at holds ⊢
  generalize data.length = stop at *
  rw [bytes] at holds
  have container : IsContainer m stop := by
    refine isContainer_of_holds ?_ ?_ holds.left
    · unfold size
      omega
    · unfold coalesceMaxSize at small
      omega
  have inner := holds.right
  rw [containerHeader, length_header, Nat.zero_add] at inner
  obtain ⟨ps, tiles, delivered⟩ := tiles_of_packets wellFormed inner
  rw [← total] at tiles
  obtain ⟨fuel, ran⟩ := handleDosboxRecv_of_tiles container tiles
  refine ⟨fuel, _, ran, ?_⟩
  rw [List.map_map]
  exact delivered

end IpxWrapper
