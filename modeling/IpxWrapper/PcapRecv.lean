import IpxWrapper.Ethernet
import IpxWrapper.DosboxRecv

/-!
# Captured frames (`router.c`)

`_handle_pcap_frame` unpacks a captured frame as one of the configured type and
delivers the packet in it.

* `handlePcapFrame_inside_iff`: for which frames what is delivered lies inside
  the captured bytes.
* `handlePcapFrame_roundTrip`: what a frame that is packed is delivered as, and
  that a receiver set to another frame type does not deliver it.
-/

namespace IpxWrapper

open Base NovellIpxPacket

/-- `_handle_pcap_frame` for an interface with this `mac_addr`: the call of
`deliver_packet`, if there is one. -/
def handlePcapFrame (frameType : FrameType) (macAddr : Addr48) (m : Mem) (caplen : Nat) :
    Option DeliverCall :=
  match frameType.unpack m caplen with
  | none => none
  | some (ipx, ipxLen) =>
      if checksum m ipx ≠ 0xFFFF then
        none
      else if ipxLen < length m ipx then
        none
      else if destNode m ipx ≠ macAddr ∧ destNode m ipx ≠ bcastNode then
        none
      else
        some (deliverCall m ipx)

section Handle

variable {frameType : FrameType} {macAddr : Addr48} {m : Mem} {caplen ipx ipxLen : Nat}
  {call : DeliverCall}

/-- The checks made of a packet that has been unpacked. -/
structure PcapAccepted (macAddr : Addr48) (m : Mem) (ipx ipxLen : Nat) : Prop where
  checksum : checksum m ipx = 0xFFFF
  length : length m ipx ≤ ipxLen
  destNode : destNode m ipx = macAddr ∨ destNode m ipx = bcastNode

/-- A packet is delivered when the frame is unpacked and the checks are passed. -/
theorem handlePcapFrame_eq_some_iff :
    handlePcapFrame frameType macAddr m caplen = some call ↔
      ∃ ipx ipxLen, frameType.unpack m caplen = some (ipx, ipxLen) ∧
        PcapAccepted macAddr m ipx ipxLen ∧ call = deliverCall m ipx := by
  unfold handlePcapFrame
  rcases unpacked : frameType.unpack m caplen with _ | ⟨ipx, ipxLen⟩
  · simp
  · dsimp only
    constructor
    · intro delivered
      split_ifs at delivered with checksum large elsewhere
      rw [not_not] at checksum
      rw [not_and_or, not_not, not_not] at elsewhere
      exact ⟨ipx, ipxLen, rfl, ⟨checksum, Nat.le_of_not_lt large, elsewhere⟩,
        (Option.some.inj delivered).symm⟩
    · intro accepted
      obtain ⟨ipx', ipxLen', same, accepted, rfl⟩ := accepted
      cases same
      have here : ¬ (destNode m ipx ≠ macAddr ∧ destNode m ipx ≠ bcastNode) := by
        rw [not_and_or, not_not, not_not]
        exact accepted.destNode
      rw [if_neg (not_not_intro accepted.checksum), if_neg (Nat.not_lt.mpr accepted.length),
        if_neg here]

/-! ## Bounds -/

/-- Whatever is delivered lies inside the captured bytes, header and payload, and
its length is at most what the frame holds. -/
def DeliversInside (frameType : FrameType) (macAddr : Addr48) (m : Mem) (caplen : Nat) : Prop :=
  ∀ call, handlePcapFrame frameType macAddr m caplen = some call →
    call.Inside m caplen ∧ ∃ ipx ipxLen, frameType.unpack m caplen = some (ipx, ipxLen) ∧
      call.data = data ipx ∧ size ≤ length m ipx ∧ length m ipx ≤ ipxLen

/-- The condition: an IPX packet that passes the checks has a length field that
covers its header. -/
def CoversHeader (frameType : FrameType) (macAddr : Addr48) (m : Mem) (caplen : Nat) : Prop :=
  ∀ ipx ipxLen, frameType.unpack m caplen = some (ipx, ipxLen) →
    PcapAccepted macAddr m ipx ipxLen → size ≤ length m ipx

/-- `_handle_pcap_frame` does not check that the length field covers the header;
what it delivers is right exactly when it does. -/
theorem handlePcapFrame_inside_iff (frameType : FrameType) (macAddr : Addr48) (m : Mem)
    (caplen : Nat) :
    DeliversInside frameType macAddr m caplen ↔ CoversHeader frameType macAddr m caplen := by
  constructor
  · intro inside ipx ipxLen unpacked accepted
    obtain ⟨-, ipx', ipxLen', unpacked', -, covers, -⟩ := inside (deliverCall m ipx)
      (handlePcapFrame_eq_some_iff.mpr ⟨ipx, ipxLen, unpacked, accepted, rfl⟩)
    rw [unpacked] at unpacked'
    cases unpacked'
    exact covers
  · intro covers call delivered
    obtain ⟨ipx, ipxLen, unpacked, accepted, rfl⟩ := handlePcapFrame_eq_some_iff.mp delivered
    have covers := covers ipx ipxLen unpacked accepted
    have length := accepted.length
    obtain ⟨-, ends⟩ := FrameType.unpack_inside unpacked
    exact ⟨deliverCall_inside covers (by omega), ipx, ipxLen, unpacked, rfl, covers, length⟩

/-- A broadcast frame whose length field is 0. -/
def emptyFrame : Mem :=
  Mem.ofList (EthernetHeader.bytes bcastNode 0x010000000000 ethertypeIpx ++
    header (0, 0) 0 0 bcastNode 0 0 0x010000000000 0) fun _ => 0

/-- It is delivered with a payload of nearly 4 GiB. -/
theorem emptyFrame_not_inside : ¬ DeliversInside .ethII 0x020000000000 emptyFrame 44 := by
  intro inside
  obtain ⟨-, ipx, ipxLen, unpacked, -, covers, -⟩ :=
    inside (deliverCall emptyFrame 14) (by decide +kernel)
  have start : FrameType.ethII.unpack emptyFrame 44 = some (14, 30) := by decide +kernel
  rw [start] at unpacked
  cases unpacked
  exact absurd covers (by decide +kernel)

/-! ## Round trip -/

variable {type : Byte} {src dst : IpxAddr} {payload : List Byte}

/-- A packed frame at the start of the captured bytes is delivered as it was packed. -/
theorem FrameType.Packed.delivered (packed : frameType.Packed m type src dst payload)
    (fits : frameType.size payload.length ≠ 0)
    (long : frameType.size payload.length ≤ caplen)
    (here : dst.nodenum = macAddr ∨ dst.nodenum = bcastNode) :
    ∃ call, handlePcapFrame frameType macAddr m caplen = some call ∧
      call.delivered m = ⟨type, src.netnum, src.nodenum, src.socket,
        dst.netnum, dst.nodenum, dst.socket, payload⟩ := by
  obtain ⟨small, -, -⟩ := FrameType.size_of_fits fits
  obtain ⟨packetLen, unpacked, room⟩ := packed.unpack fits long
  have packet := packed.packet
  unfold packIpxPacket at packet
  have delivered := deliverCall_of_holds small src.six dst.six packet
  have node : destNode m frameType.packetStart = dst.nodenum := congrArg Delivered.destNode delivered
  have length : length m frameType.packetStart = NovellIpxPacket.size + payload.length :=
    length_of_holds (by unfold NovellIpxPacket.size; omega) packet.left
  refine ⟨_, handlePcapFrame_eq_some_iff.mpr ⟨_, packetLen, unpacked, ?_, rfl⟩, delivered⟩
  refine ⟨checksum_of_holds packet.left, ?_, ?_⟩
  · rw [length]
    exact room
  · rwa [node]

/-- No receiver set to another frame type delivers it. -/
theorem FrameType.Packed.not_delivered (packed : frameType.Packed m type src dst payload)
    (fits : frameType.size payload.length ≠ 0) {other : FrameType} (ne : other ≠ frameType) :
    handlePcapFrame other macAddr m caplen = none := by
  rcases delivered : handlePcapFrame other macAddr m caplen with _ | call
  · rfl
  · obtain ⟨ipx, ipxLen, unpacked, accepted, -⟩ := handlePcapFrame_eq_some_iff.mp delivered
    have differs := packed.unpack_other fits ne unpacked
    exact absurd accepted.checksum differs

end Handle

/-- Round trip and separation of the frame types: a frame that is packed has its
size, and with any padding behind it a receiver set to its type unpacks it and
delivers what was packed, while one set to another type delivers nothing. -/
theorem handlePcapFrame_roundTrip (frameType : FrameType) (type : Byte) (src dst : IpxAddr)
    (payload : List Byte) (fits : frameType.size payload.length ≠ 0) :
    (frameType.pack type src dst payload).length = frameType.size payload.length ∧
      ∀ (padding : List Byte) (rest : Mem),
        (frameType.unpack (Mem.ofList (frameType.pack type src dst payload ++ padding) rest)
          (frameType.pack type src dst payload ++ padding).length).isSome ∧
        (∀ macAddr, dst.nodenum = macAddr ∨ dst.nodenum = bcastNode →
          ∃ call, handlePcapFrame frameType macAddr
              (Mem.ofList (frameType.pack type src dst payload ++ padding) rest)
              (frameType.pack type src dst payload ++ padding).length = some call ∧
            call.delivered (Mem.ofList (frameType.pack type src dst payload ++ padding) rest) =
              ⟨type, src.netnum, src.nodenum, src.socket,
                dst.netnum, dst.nodenum, dst.socket, payload⟩) ∧
        ∀ other, other ≠ frameType → ∀ macAddr,
          handlePcapFrame other macAddr
            (Mem.ofList (frameType.pack type src dst payload ++ padding) rest)
            (frameType.pack type src dst payload ++ padding).length = none := by
  have length : (frameType.pack type src dst payload).length = frameType.size payload.length := by
    rw [frameType.length_pack, (FrameType.size_of_fits fits).2.2]
  refine ⟨length, fun padding rest => ?_⟩
  have packed : frameType.Packed
      (Mem.ofList (frameType.pack type src dst payload ++ padding) rest) type src dst payload :=
    FrameType.packed_of_holds fits (Mem.ofList_holds _ rest).left
  have long : frameType.size payload.length ≤
      (frameType.pack type src dst payload ++ padding).length := by
    rw [List.length_append, length]
    omega
  refine ⟨?_, fun macAddr here => packed.delivered fits long here,
    fun other ne macAddr => packed.not_delivered fits ne⟩
  obtain ⟨packetLen, unpacked, -⟩ := packed.unpack fits long
  rw [unpacked]
  rfl

/-- A node, and every node of its network. -/
def someNode : IpxAddr := ⟨1, 0x010000000000, 0x0040, by decide⟩

def everyNode : IpxAddr := ⟨1, bcastNode, 0x0050, by decide⟩

/-- Two bytes in a Novell frame, padded to 60 bytes. -/
def paddedFrame : List Byte :=
  FrameType.novell.pack 4 someNode everyNode [1, 2] ++ List.replicate 14 0

theorem paddedFrame_roundTrip :
    (∃ call, handlePcapFrame .novell 0x020000000000 (Mem.ofList paddedFrame fun _ => 0)
        paddedFrame.length = some call ∧
      call.delivered (Mem.ofList paddedFrame fun _ => 0) =
        ⟨4, 1, 0x010000000000, 0x0040, 1, bcastNode, 0x0050, [1, 2]⟩) ∧
      handlePcapFrame .llc 0x020000000000 (Mem.ofList paddedFrame fun _ => 0)
        paddedFrame.length = none := by
  obtain ⟨-, received⟩ :=
    handlePcapFrame_roundTrip .novell 4 someNode everyNode [1, 2] (by decide)
  obtain ⟨-, delivered, separated⟩ := received (List.replicate 14 0) fun _ => 0
  exact ⟨delivered 0x020000000000 (Or.inr rfl), separated .llc (by decide) 0x020000000000⟩

end IpxWrapper
