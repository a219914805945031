import IpxWrapper.Packet

/-!
# Ethernet frames (`ethernet.c`)

An IPX packet travels in a frame of one of three types: Ethernet II, Novell
"raw" 802.3, or IEEE 802.2 (LLC). Each has a function for the size of a frame,
one that packs it and one that unpacks it. A packed frame is the list of bytes
written to the buffer; unpacking reads the memory at the captured data and gives
the offset of the packet and its size.
-/

namespace IpxWrapper

open Base

/-! ## Headers -/

/-- An IPX address. Of a node number `addr48_in` sets the six bytes it has. -/
structure IpxAddr where
  netnum : Addr32
  nodenum : Addr48
  socket : UInt16
  six : nodenum.toNat % 65536 = 0

/-- `ETHERTYPE_IPX`. -/
def ethertypeIpx : Nat := 0x8137

namespace EthernetHeader

/-- `sizeof(ethernet_header)`. -/
def size : Nat := 14

/-- `ntohs` of the field that is `ethertype` or `length`, by the frame type. -/
def ethertype (m : Mem) : Nat := be16 m 12

/-- The bytes of a header. -/
def bytes (destMac srcMac : Addr48) (ethertype : Nat) : List Byte :=
  addr48Out destMac ++ addr48Out srcMac ++ be16Bytes ethertype

@[simp] theorem length_bytes (destMac srcMac : Addr48) (ethertype : Nat) :
    (bytes destMac srcMac ethertype).length = 14 := by
  simp [bytes]

/-- Reading back the field. -/
theorem ethertype_of_holds {m : Mem} {destMac srcMac : Addr48} {v : Nat} (small : v < 65536)
    (holds : m.Holds 0 (bytes destMac srcMac v)) : ethertype m = v := by
  refine be16_of_bytes small ?_ ?_
  · exact holds 12 (by rw [length_bytes]; omega)
  · exact holds 13 (by rw [length_bytes]; omega)

end EthernetHeader

/-- `LLC_SAP_NETWARE`. -/
def llcSapNetware : Byte := 0xE0

namespace LlcHeader

/-- `sizeof(llc_header)`. -/
def size : Nat := 3

def dsap (m : Mem) (p : Nat) : Byte := m p

def control (m : Mem) (p : Nat) : Byte := m (p + 2)

/-- The header that is sent. -/
def bytes : List Byte := [llcSapNetware, llcSapNetware, 0x03]

end LlcHeader

/-- `NOVELL_IPX_PACKET_MAX_PAYLOAD`. -/
def novellIpxPacketMaxPayload : Nat := 65535 - NovellIpxPacket.size

/-- `_pack_ipx_packet`. -/
def packIpxPacket (type : Byte) (src dst : IpxAddr) (payload : List Byte) : List Byte :=
  NovellIpxPacket.header (lengthBytes (NovellIpxPacket.size + payload.length)) type
    dst.netnum dst.nodenum dst.socket src.netnum src.nodenum src.socket ++ payload

@[simp] theorem length_packIpxPacket (type : Byte) (src dst : IpxAddr) (payload : List Byte) :
    (packIpxPacket type src dst payload).length = NovellIpxPacket.size + payload.length := by
  rw [packIpxPacket, List.length_append, NovellIpxPacket.length_header]
  rfl

/-! ## Ethernet II -/

/-- `ethII_frame_size`. -/
def ethIIFrameSize (ipxPayloadLen : Nat) : Nat :=
  if novellIpxPacketMaxPayload < ipxPayloadLen then 0
  else EthernetHeader.size + NovellIpxPacket.size + ipxPayloadLen

/-- `ethII_frame_pack`. -/
def ethIIFramePack (type : Byte) (src dst : IpxAddr) (payload : List Byte) : List Byte :=
  EthernetHeader.bytes dst.nodenum src.nodenum ethertypeIpx ++ packIpxPacket type src dst payload

/-- `ethII_frame_unpack`. -/
def ethIIFrameUnpack (m : Mem) (frameLen : Nat) : Option (Nat × Nat) :=
  if frameLen < EthernetHeader.size + NovellIpxPacket.size then
    none
  else if EthernetHeader.ethertype m ≠ ethertypeIpx then
    none
  else
    some (EthernetHeader.size, frameLen - EthernetHeader.size)

/-! ## Novell -/

/-- `novell_frame_size`. -/
def novellFrameSize (ipxPayloadLen : Nat) : Nat :=
  if novellIpxPacketMaxPayload < ipxPayloadLen ∨ 1500 - NovellIpxPacket.size < ipxPayloadLen then 0
  else EthernetHeader.size + NovellIpxPacket.size + ipxPayloadLen

/-- `novell_frame_pack`. -/
def novellFramePack (type : Byte) (src dst : IpxAddr) (payload : List Byte) : List Byte :=
  EthernetHeader.bytes dst.nodenum src.nodenum (NovellIpxPacket.size + payload.length) ++
    packIpxPacket type src dst payload

/-- `novell_frame_unpack`. -/
def novellFrameUnpack (m : Mem) (frameLen : Nat) : Option (Nat × Nat) :=
  if frameLen < EthernetHeader.size + NovellIpxPacket.size then
    none
  else
    let payloadLen := EthernetHeader.ethertype m
    if 1500 < payloadLen then
      none
    else if payloadLen < NovellIpxPacket.size then
      none
    else if frameLen - EthernetHeader.size < payloadLen then
      none
    else
      some (EthernetHeader.size, payloadLen)

/-! ## LLC -/

/-- `llc_frame_size`. -/
def llcFrameSize (ipxPayloadLen : Nat) : Nat :=
  if novellIpxPacketMaxPayload < ipxPayloadLen ∨
      1500 - (LlcHeader.size + NovellIpxPacket.size) < ipxPayloadLen then 0
  else EthernetHeader.size + LlcHeader.size + NovellIpxPacket.size + ipxPayloadLen

/-- `llc_frame_pack`. -/
def llcFramePack (type : Byte) (src dst : IpxAddr) (payload : List Byte) : List Byte :=
  EthernetHeader.bytes dst.nodenum src.nodenum
      (LlcHeader.size + NovellIpxPacket.size + payload.length) ++
    (LlcHeader.bytes ++ packIpxPacket type src dst payload)

/-- `llc_frame_unpack`. -/
def llcFrameUnpack (m : Mem) (frameLen : Nat) : Option (Nat × Nat) :=
  if frameLen < EthernetHeader.size + LlcHeader.size + NovellIpxPacket.size then
    none
  else
    let payloadLen := EthernetHeader.ethertype m
    if 1500 < payloadLen then
      none
    else if payloadLen < LlcHeader.size + NovellIpxPacket.size then
      none
    else if frameLen - EthernetHeader.size < payloadLen then
      none
    else if LlcHeader.dsap m EthernetHeader.size ≠ llcSapNetware then
      none
    else if LlcHeader.control m EthernetHeader.size ≠ 0x03 then
      none
    else
      some (EthernetHeader.size + LlcHeader.size, payloadLen - LlcHeader.size)

/-! ## The configured frame type -/

/-- `main_config.frame_type`. -/
inductive FrameType where
  | ethII
  | novell
  | llc
deriving DecidableEq

/-- The frame size for a frame type. -/
def FrameType.size : FrameType → Nat → Nat
  | .ethII => ethIIFrameSize
  | .novell => novellFrameSize
  | .llc => llcFrameSize

/-- Packing a frame of a frame type. -/
def FrameType.pack : FrameType → Byte → IpxAddr → IpxAddr → List Byte → List Byte
  | .ethII => ethIIFramePack
  | .novell => novellFramePack
  | .llc => llcFramePack

/-- Unpacking a frame of a frame type. -/
def FrameType.unpack : FrameType → Mem → Nat → Option (Nat × Nat)
  | .ethII => ethIIFrameUnpack
  | .novell => novellFrameUnpack
  | .llc => llcFrameUnpack

/-- Where the packet lies in a frame that is packed. -/
def FrameType.packetStart : FrameType → Nat
  | .ethII => EthernetHeader.size
  | .novell => EthernetHeader.size
  | .llc => EthernetHeader.size + LlcHeader.size

/-- The field `ethertype` or `length` of a frame that is packed. -/
def FrameType.field : FrameType → Nat → Nat
  | .ethII, _ => ethertypeIpx
  | .novell, payloadLen => NovellIpxPacket.size + payloadLen
  | .llc, payloadLen => LlcHeader.size + NovellIpxPacket.size + payloadLen

section Unpack

variable {frameType : FrameType} {m : Mem} {frameLen packet packetLen : Nat}

/-- A packet that is unpacked has room for its header and ends inside the frame. -/
theorem FrameType.unpack_inside
    (unpacked : frameType.unpack m frameLen = some (packet, packetLen)) :
    NovellIpxPacket.size ≤ packetLen ∧ packet + packetLen ≤ frameLen := by
  cases frameType with
  | ethII =>
      simp only [FrameType.unpack, ethIIFrameUnpack] at unpacked
      split_ifs at unpacked with short _
      simp only [Option.some.injEq, Prod.mk.injEq] at unpacked
      unfold EthernetHeader.size NovellIpxPacket.size at *
      omega
  | novell =>
      simp only [FrameType.unpack, novellFrameUnpack] at unpacked
      split_ifs at unpacked with short _ tooShort runsPast
      simp only [Option.some.injEq, Prod.mk.injEq] at unpacked
      unfold EthernetHeader.size NovellIpxPacket.size at *
      omega
  | llc =>
      simp only [FrameType.unpack, llcFrameUnpack] at unpacked
      split_ifs at unpacked with short _ tooShort runsPast
      simp only [Option.some.injEq, Prod.mk.injEq] at unpacked
      unfold EthernetHeader.size LlcHeader.size NovellIpxPacket.size at *
      omega

end Unpack

/-! ## Frames that are packed -/

section Packed

variable {type : Byte} {src dst : IpxAddr} {payload : List Byte} {m : Mem}

/-- A payload that fits: the size of its frame, and what its format allows. -/
theorem FrameType.size_of_fits {frameType : FrameType} {n : Nat} (fits : frameType.size n ≠ 0) :
    n < 65506 ∧ (frameType ≠ .ethII → frameType.field n ≤ 1500) ∧
      frameType.size n = frameType.packetStart + NovellIpxPacket.size + n := by
  cases frameType with
  | ethII =>
      by_cases large : novellIpxPacketMaxPayload < n
      · exact absurd (if_pos large) fits
      · refine ⟨?_, fun other => absurd rfl other, if_neg large⟩
        unfold novellIpxPacketMaxPayload NovellIpxPacket.size at large
        omega
  | novell =>
      by_cases large : novellIpxPacketMaxPayload < n ∨ 1500 - NovellIpxPacket.size < n
      · exact absurd (if_pos large) fits
      · have size : FrameType.novell.size n = _ := if_neg large
        unfold novellIpxPacketMaxPayload NovellIpxPacket.size at large
        refine ⟨by omega, fun _ => ?_, size⟩
        simp only [FrameType.field, NovellIpxPacket.size]
        omega
  | llc =>
      by_cases large : novellIpxPacketMaxPayload < n ∨
          1500 - (LlcHeader.size + NovellIpxPacket.size) < n
      · exact absurd (if_pos large) fits
      · have size : FrameType.llc.size n = _ := if_neg large
        unfold novellIpxPacketMaxPayload NovellIpxPacket.size LlcHeader.size at large
        refine ⟨by omega, fun _ => ?_, size⟩
        simp only [FrameType.field, NovellIpxPacket.size, LlcHeader.size]
        omega

/-- What is packed is as long as the headers and the payload. -/
theorem FrameType.length_pack (frameType : FrameType) :
    (frameType.pack type src dst payload).length =
      frameType.packetStart + NovellIpxPacket.size + payload.length := by
  cases frameType with
  | ethII =>
      simp only [FrameType.pack, ethIIFramePack, List.length_append, EthernetHeader.length_bytes,
        length_packIpxPacket, FrameType.packetStart, EthernetHeader.size, Nat.add_assoc]
  | novell =>
      simp only [FrameType.pack, novellFramePack, List.length_append, EthernetHeader.length_bytes,
        length_packIpxPacket, FrameType.packetStart, EthernetHeader.size, Nat.add_assoc]
  | llc =>
      simp only [FrameType.pack, llcFramePack, List.length_append, EthernetHeader.length_bytes,
        length_packIpxPacket, FrameType.packetStart, EthernetHeader.size, LlcHeader.size,
        LlcHeader.bytes, List.length_cons, List.length_nil]
      omega

/-- What lies where in memory that begins with a packed frame. -/
structure FrameType.Packed (frameType : FrameType) (m : Mem) (type : Byte) (src dst : IpxAddr)
    (payload : List Byte) : Prop where
  field : EthernetHeader.ethertype m = frameType.field payload.length
  llc : frameType = .llc → m.Holds EthernetHeader.size LlcHeader.bytes
  packet : m.Holds frameType.packetStart (packIpxPacket type src dst payload)

theorem FrameType.packed_of_holds {frameType : FrameType}
    (fits : frameType.size payload.length ≠ 0)
    (holds : m.Holds 0 (frameType.pack type src dst payload)) :
    frameType.Packed m type src dst payload := by
  obtain ⟨-, short, -⟩ := FrameType.size_of_fits fits
  cases frameType with
  | ethII =>
      have after : m.Holds 14 (packIpxPacket type src dst payload) := holds.right
      have field : EthernetHeader.ethertype m = ethertypeIpx :=
        EthernetHeader.ethertype_of_holds (by decide) holds.left
      exact ⟨field, fun other => (by cases other), after⟩
  | novell =>
      have after : m.Holds 14 (packIpxPacket type src dst payload) := holds.right
      have bound := Nat.lt_of_le_of_lt (short (by decide)) (show 1500 < 65536 by decide)
      exact ⟨EthernetHeader.ethertype_of_holds bound holds.left, fun other => (by cases other), after⟩
  | llc =>
      have after : m.Holds 14 (LlcHeader.bytes ++ packIpxPacket type src dst payload) :=
        holds.right
      have bound := Nat.lt_of_le_of_lt (short (by decide)) (show 1500 < 65536 by decide)
      exact ⟨EthernetHeader.ethertype_of_holds bound holds.left, fun _ => after.left, after.right⟩

/-- A frame that is packed, with any padding behind it, is unpacked. -/
theorem FrameType.Packed.unpack {frameType : FrameType}
    (packed : frameType.Packed m type src dst payload) {frameLen : Nat}
    (fits : frameType.size payload.length ≠ 0)
    (long : frameType.size payload.length ≤ frameLen) :
    ∃ packetLen, frameType.unpack m frameLen = some (frameType.packetStart, packetLen) ∧
      NovellIpxPacket.size + payload.length ≤ packetLen := by
  obtain ⟨-, short, size⟩ := FrameType.size_of_fits fits
  have field := packed.field
  rw [size] at long
  cases frameType with
  | ethII =>
      have room : ¬ frameLen < EthernetHeader.size + NovellIpxPacket.size := by
        simp only [FrameType.packetStart] at long
        omega
      refine ⟨frameLen - EthernetHeader.size, ?_, ?_⟩
      · simp only [FrameType.unpack, ethIIFrameUnpack]
        simp only [FrameType.field] at field
        rw [if_neg room, if_neg (not_not_intro field)]
        rfl
      · simp only [FrameType.packetStart] at long
        omega
  | novell =>
      have bound := short (by decide)
      simp only [FrameType.field] at bound field
      simp only [FrameType.packetStart] at long
      refine ⟨NovellIpxPacket.size + payload.length, ?_, Nat.le_refl _⟩
      simp only [FrameType.unpack, novellFrameUnpack]
      rw [field, if_neg (by omega), if_neg (by omega), if_neg (by omega), if_neg (by omega)]
      rfl
  | llc =>
      have bound := short (by decide)
      have header := packed.llc rfl
      have dsap : LlcHeader.dsap m EthernetHeader.size = llcSapNetware := header 0 (by decide)
      have control : LlcHeader.control m EthernetHeader.size = 0x03 := header 2 (by decide)
      simp only [FrameType.field] at bound field
      simp only [FrameType.packetStart] at long
      refine ⟨NovellIpxPacket.size + payload.length, ?_, Nat.le_refl _⟩
      simp only [FrameType.unpack, llcFrameUnpack]
      rw [field, if_neg (by omega), if_neg (by omega), if_neg (by omega), if_neg (by omega),
        if_neg (not_not_intro dsap), if_neg (not_not_intro control)]
      congr 2
      omega

/-- A frame of one type is not unpacked as one of another, or the packet in it does
not have the checksum that an IPX packet has. -/
theorem FrameType.Packed.unpack_other {frameType other : FrameType}
    (packed : frameType.Packed m type src dst payload)
    (fits : frameType.size payload.length ≠ 0) (ne : other ≠ frameType) {frameLen : Nat}
    {found : Nat × Nat} (unpacked : other.unpack m frameLen = some found) :
    NovellIpxPacket.checksum m found.1 ≠ 0xFFFF := by
  obtain ⟨-, short, -⟩ := FrameType.size_of_fits fits
  have field := packed.field
  cases frameType with
  | ethII =>
      -- The ethertype is too large for a length.
      have large : 1500 < EthernetHeader.ethertype m := by
        rw [field]
        exact show 1500 < ethertypeIpx by decide
      cases other with
      | ethII => exact absurd rfl ne
      | novell =>
          simp only [FrameType.unpack, novellFrameUnpack, if_pos large, ite_self] at unpacked
          cases unpacked
      | llc =>
          simp only [FrameType.unpack, llcFrameUnpack, if_pos large, ite_self] at unpacked
          cases unpacked
  | novell =>
      have bound := short (by decide)
      cases other with
      | ethII =>
          -- A length is too small for the ethertype.
          have differs : EthernetHeader.ethertype m ≠ ethertypeIpx := by
            unfold ethertypeIpx
            omega
          simp only [FrameType.unpack, ethIIFrameUnpack, if_pos differs, ite_self] at unpacked
          cases unpacked
      | novell => exact absurd rfl ne
      | llc =>
          -- The checksum lies where an LLC frame has its service access point.
          have first : m 14 = 0xFF := packed.packet 0 (by
            rw [length_packIpxPacket, NovellIpxPacket.size]
            omega)
          have differs : LlcHeader.dsap m EthernetHeader.size ≠ llcSapNetware := by
            rw [LlcHeader.dsap, EthernetHeader.size, first]
            decide
          simp only [FrameType.unpack, llcFrameUnpack, if_pos differs, ite_self] at unpacked
          cases unpacked
  | llc =>
      have bound := short (by decide)
      cases other with
      | ethII =>
          have differs : EthernetHeader.ethertype m ≠ ethertypeIpx := by
            unfold ethertypeIpx
            omega
          simp only [FrameType.unpack, ethIIFrameUnpack, if_pos differs, ite_self] at unpacked
          cases unpacked
      | novell =>
          -- The service access points lie where a Novell frame has its checksum.
          have header := packed.llc rfl
          have first : m 14 = 0xE0 := header 0 (by decide)
          simp only [FrameType.unpack, novellFrameUnpack] at unpacked
          split_ifs at unpacked
          cases unpacked
          intro checksum
          have low := (m 15).toNat_lt
          rw [NovellIpxPacket.checksum, be16, EthernetHeader.size, first] at checksum
          change 224 * 256 + (m 15).toNat = 65535 at checksum
          omega
      | llc => exact absurd rfl ne

end Packed

end IpxWrapper
