import IpxWrapper.PayloadFidelity

/-!
# Lengths on the way out (`winsock.c`, `ethernet.c`, `router.c`)

`sendto` takes a length as an `int` and compares it as one; `ipx_send_packet` takes it as
a `size_t`. This module follows the length, in 32-bit words, through the functions that
build a packet, and says when every size and every length field is the true one
(`sendto_lengthSafe_iff`).
-/

namespace IpxWrapper

open Base

/-! ## What is built -/

/-- The sizes with which a packet is built. -/
structure PacketBuffer where
  /-- The size of its headers. -/
  headers : Nat
  /-- What `malloc` is asked for. -/
  allocated : UInt32
  /-- How much `memcpy` copies behind the headers. -/
  copied : UInt32
  /-- How much of the headers each length field counts, and its value. -/
  lengths : List (Nat × UInt16)

/-- `malloc(headers + n)`, and `htons(counted + n)` in each length field. -/
def PacketBuffer.ofHeaders (headers : Nat) (counted : List Nat) (n : UInt32) : PacketBuffer where
  headers := headers
  allocated := UInt32.ofNat headers + n
  copied := n
  lengths := counted.map fun c => (c, (UInt32.ofNat c + n).toUInt16)

/-- `ethII_frame_size`, in words. -/
def ethIIFrameSize32 (ipxPayloadLen : UInt32) : UInt32 :=
  if UInt32.ofNat novellIpxPacketMaxPayload < ipxPayloadLen then 0
  else UInt32.ofNat (EthernetHeader.size + NovellIpxPacket.size) + ipxPayloadLen

/-- `novell_frame_size`, in words. -/
def novellFrameSize32 (ipxPayloadLen : UInt32) : UInt32 :=
  if UInt32.ofNat novellIpxPacketMaxPayload < ipxPayloadLen ∨
      UInt32.ofNat (1500 - NovellIpxPacket.size) < ipxPayloadLen then 0
  else UInt32.ofNat (EthernetHeader.size + NovellIpxPacket.size) + ipxPayloadLen

/-- `llc_frame_size`, in words. -/
def llcFrameSize32 (ipxPayloadLen : UInt32) : UInt32 :=
  if UInt32.ofNat novellIpxPacketMaxPayload < ipxPayloadLen ∨
      UInt32.ofNat (1500 - (LlcHeader.size + NovellIpxPacket.size)) < ipxPayloadLen then 0
  else UInt32.ofNat (EthernetHeader.size + LlcHeader.size + NovellIpxPacket.size) + ipxPayloadLen

/-- `frame_size`. -/
def FrameType.size32 : FrameType → UInt32 → UInt32
  | .ethII => ethIIFrameSize32
  | .novell => novellFrameSize32
  | .llc => llcFrameSize32

/-- The headers of a frame, and how much of them its length fields count: the length in the
Ethernet header, but for an Ethernet II frame, and the length in the IPX header. -/
def FrameType.headers : FrameType → Nat × List Nat
  | .ethII => (EthernetHeader.size + NovellIpxPacket.size, [NovellIpxPacket.size])
  | .novell =>
      (EthernetHeader.size + NovellIpxPacket.size, [NovellIpxPacket.size, NovellIpxPacket.size])
  | .llc =>
      (EthernetHeader.size + LlcHeader.size + NovellIpxPacket.size,
        [LlcHeader.size + NovellIpxPacket.size, NovellIpxPacket.size])

/-- The frame that is packed. -/
def FrameType.buffer (frameType : FrameType) (n : UInt32) : PacketBuffer :=
  { PacketBuffer.ofHeaders frameType.headers.1 frameType.headers.2 n with
    allocated := frameType.size32 n }

/-- The packet for the DOSBox server. -/
def dosboxBuffer (n : UInt32) : PacketBuffer :=
  .ofHeaders NovellIpxPacket.size [NovellIpxPacket.size] n

/-- The packet with IPXWrapper encapsulation; `packet_size` is an `int` and `malloc` takes it for a
`size_t` again. -/
def ipxwrapperBuffer (n : UInt32) : PacketBuffer :=
  .ofHeaders IpxPacket.headerSize [0] n

/-- The packet that `deliver_packet` builds for each socket it is for. -/
def relayBuffer (n : UInt32) : PacketBuffer :=
  { PacketBuffer.ofHeaders IpxPacket.headerSize [0] n with
    allocated := UInt32.ofNat (IpxPacket.headerSize + 1) + n - 1 }

/-! ## The calls -/

/-- What a call of `sendto` finds that its lengths depend on. -/
structure LengthEnv where
  ipxEncapType : EncapType
  /-- `main_config.frame_type`. -/
  frameType : FrameType
  cache : InterfaceCache
  dosboxState : DosboxState
  dosboxLocalNetnum : Addr32
  dosboxLocalNodenum : Addr48
  /-- There is memory of this size. -/
  malloc : UInt32 → Bool
  /-- The packet, once it is built, is sent. -/
  transmits : Bool

/-- The addresses of the packet. -/
structure SendAddrs where
  srcNet : Addr32
  srcNode : Addr48
  destNet : Addr32
  destNode : Addr48

/-- `ipx_send_packet`: what is built, or the error it returns before it has built anything. -/
def ipxSendLengths (env : LengthEnv) (addrs : SendAddrs) (dataSize : UInt32) :
    Except UInt32 (List PacketBuffer) :=
  match env.ipxEncapType with
  | .pcap =>
      match ipxInterfaceByAddr env.cache addrs.srcNet addrs.srcNode with
      | none => .error WSAENETDOWN
      | some _ =>
          let frameSize := env.frameType.size32 dataSize
          if frameSize = 0 then .error WSAEMSGSIZE
          else if ¬ env.malloc frameSize then .error ERROR_OUTOFMEMORY
          else .ok [env.frameType.buffer dataSize]
  | .dosbox =>
      if env.dosboxState ≠ .connected then
        .error WSAENETDOWN
      else if addrs.srcNet ≠ env.dosboxLocalNetnum ∨ addrs.srcNode ≠ env.dosboxLocalNodenum then
        .error WSAENETDOWN
      else if addrs.destNet = env.dosboxLocalNetnum ∧ addrs.destNode = env.dosboxLocalNodenum then
        .ok [relayBuffer dataSize]
      else if ¬ env.malloc (dosboxBuffer dataSize).allocated then
        .error ERROR_OUTOFMEMORY
      else if env.transmits ∧ addrs.destNode = bcastNode then
        .ok [dosboxBuffer dataSize, relayBuffer dataSize]
      else
        .ok [dosboxBuffer dataSize]
  | .ipxwrapper =>
      if ¬ env.malloc (ipxwrapperBuffer dataSize).allocated then .error ERROR_OUTOFMEMORY
      else if env.transmits then .ok [ipxwrapperBuffer dataSize, relayBuffer dataSize]
      else .ok [ipxwrapperBuffer dataSize]

/-- `_max_ipx_payload()`. -/
def LengthEnv.maxIpxPayload (env : LengthEnv) : Int32 :=
  Int32.ofNat (Locked.maxIpxPayload env.ipxEncapType env.frameType)

/-- `sendto`, from the test of the length on. -/
def sendtoLengths (env : LengthEnv) (addrs : SendAddrs) (len : Int32) :
    Except UInt32 (List PacketBuffer) :=
  if env.maxIpxPayload < len then .error WSAEMSGSIZE
  else ipxSendLengths env addrs len.toUInt32

/-! ## The true lengths -/

/-- The packet has room for its headers and `len` bytes, `len` bytes are copied, and each length
field counts them. -/
structure PacketBuffer.Exact (b : PacketBuffer) (len : Int32) : Prop where
  allocated : (b.allocated.toNat : Int) = b.headers + len.toInt
  copied : (b.copied.toNat : Int) = len.toInt
  lengths : ∀ field ∈ b.lengths, (field.2.toNat : Int) = field.1 + len.toInt

/-- The call is refused with an error, or all that is built is built with the true length; and a
length that is let through has a frame. -/
structure LengthSafe (env : LengthEnv) (addrs : SendAddrs) (len : Int32) : Prop where
  refused : ∀ error, sendtoLengths env addrs len = .error error → error ≠ ERROR_SUCCESS
  built : ∀ buffers, sendtoLengths env addrs len = .ok buffers →
    buffers ≠ [] ∧ ∀ b ∈ buffers, b.Exact len
  framed : env.ipxEncapType = .pcap → 0 ≤ len → len ≤ env.maxIpxPayload →
    env.frameType.size32 len.toUInt32 ≠ 0

/-- A call with a length that is too large for the code is refused all the same: with Ethernet
encapsulation always, else where there is no connection, or no memory. -/
def LengthEnv.Refuses (env : LengthEnv) (addrs : SendAddrs) (dataSize : UInt32) : Prop :=
  match env.ipxEncapType with
  | .pcap => True
  | .dosbox =>
      env.dosboxState ≠ .connected ∨ addrs.srcNet ≠ env.dosboxLocalNetnum ∨
        addrs.srcNode ≠ env.dosboxLocalNodenum ∨
        ¬ (addrs.destNet = env.dosboxLocalNetnum ∧ addrs.destNode = env.dosboxLocalNodenum) ∧
          env.malloc (dosboxBuffer dataSize).allocated = false
  | .ipxwrapper => env.malloc (ipxwrapperBuffer dataSize).allocated = false

section Lengths

variable {len : Int32} {n : UInt32} {env : LengthEnv} {addrs : SendAddrs}

theorem toInt_eq_toUInt32 (nonneg : 0 ≤ len) : (len.toUInt32.toNat : Int) = len.toInt := by
  rw [Int32.toNat_toUInt32_of_le nonneg, Int32.toNatClampNeg]
  exact Int.toNat_of_nonneg (Int32.le_iff_toInt_le.mp nonneg)

/-- A negative length becomes one of at least 2 GiB. -/
theorem large_of_negative (negative : ¬ 0 ≤ len) : 2147483648 ≤ len.toUInt32.toNat := by
  have below : len.toInt < 0 := by
    rw [Int32.le_iff_toInt_le] at negative
    exact Int.not_le.mp negative
  rw [← Int32.toInt_toBitVec, BitVec.toInt_eq_toNat_cond] at below
  have same : len.toBitVec.toNat = len.toUInt32.toNat := rfl
  rw [same] at below
  split at below <;> omega

theorem toNat_ofNat_add {k : Nat} (fits : k + n.toNat < 4294967296) :
    (UInt32.ofNat k + n).toNat = k + n.toNat := by
  rw [UInt32.toNat_add, UInt32.toNat_ofNat_of_lt' (Nat.lt_of_le_of_lt (Nat.le_add_right _ _) fits)]
  exact Nat.mod_eq_of_lt fits

/-- With headers and a length as small as the encapsulations have them nothing wraps. -/
theorem PacketBuffer.ofHeaders_exact {headers : Nat} {counted : List Nat} (small : headers ≤ 47)
    (smaller : ∀ c ∈ counted, c ≤ 47) (same : (n.toNat : Int) = len.toInt)
    (le : n.toNat ≤ maxDataSize) : (PacketBuffer.ofHeaders headers counted n).Exact len where
  allocated := by
    unfold maxDataSize at le
    unfold PacketBuffer.ofHeaders
    dsimp only
    rw [toNat_ofNat_add (by omega), ← same]
    rfl
  copied := same
  lengths := by
    unfold maxDataSize at le
    intro field member
    obtain ⟨c, counts, rfl⟩ := List.mem_map.mp member
    have bound := smaller c counts
    dsimp only
    rw [UInt32.toNat_toUInt16, toNat_ofNat_add (by omega), ← same]
    omega

theorem relayBuffer_allocated (n : UInt32) :
    (relayBuffer n).allocated = UInt32.ofNat IpxPacket.headerSize + n := by
  have one : UInt32.ofNat (IpxPacket.headerSize + 1) = UInt32.ofNat IpxPacket.headerSize + 1 := rfl
  unfold relayBuffer
  dsimp only
  rw [one, UInt32.add_assoc, UInt32.add_comm 1 n, ← UInt32.add_assoc]
  exact UInt32.add_sub_cancel _ _

theorem relayBuffer_exact (same : (n.toNat : Int) = len.toInt) (le : n.toNat ≤ maxDataSize) :
    (relayBuffer n).Exact len := by
  have exact' : (PacketBuffer.ofHeaders IpxPacket.headerSize [0] n).Exact len :=
    PacketBuffer.ofHeaders_exact (by decide) (by decide) same le
  refine ⟨?_, exact'.copied, exact'.lengths⟩
  rw [relayBuffer_allocated]
  exact exact'.allocated

/-! ### Frames -/

theorem FrameType.size32_of_small {frameType : FrameType}
    (le : n.toNat ≤ Locked.maxIpxPayload .pcap frameType) :
    frameType.size32 n = UInt32.ofNat frameType.headers.1 + n := by
  cases frameType with
  | ethII =>
      refine if_neg ?_
      rw [UInt32.lt_iff_toNat_lt]
      exact Nat.not_lt.mpr (Nat.le_trans le (by decide))
  | novell =>
      refine if_neg ?_
      rw [UInt32.lt_iff_toNat_lt, UInt32.lt_iff_toNat_lt, not_or]
      exact ⟨Nat.not_lt.mpr (Nat.le_trans le (by decide)), Nat.not_lt.mpr le⟩
  | llc =>
      refine if_neg ?_
      rw [UInt32.lt_iff_toNat_lt, UInt32.lt_iff_toNat_lt, not_or]
      exact ⟨Nat.not_lt.mpr (Nat.le_trans le (by decide)), Nat.not_lt.mpr le⟩

/-- What no IPX packet has room for has no frame. -/
theorem FrameType.size32_of_large {frameType : FrameType} (large : 65505 < n.toNat) :
    frameType.size32 n = 0 := by
  have tooLarge : UInt32.ofNat novellIpxPacketMaxPayload < n := UInt32.lt_iff_toNat_lt.mpr large
  cases frameType with
  | ethII => exact if_pos tooLarge
  | novell => exact if_pos (Or.inl tooLarge)
  | llc => exact if_pos (Or.inl tooLarge)

theorem FrameType.headers_le (frameType : FrameType) :
    0 < frameType.headers.1 ∧ frameType.headers.1 ≤ 47 ∧ ∀ c ∈ frameType.headers.2, c ≤ 47 := by
  cases frameType <;> decide

theorem FrameType.size32_ne_zero {frameType : FrameType}
    (le : n.toNat ≤ Locked.maxIpxPayload .pcap frameType) : frameType.size32 n ≠ 0 := by
  obtain ⟨positive, small, -⟩ := frameType.headers_le
  have bound := Nat.le_trans le (maxIpxPayload_le .pcap frameType)
  unfold maxDataSize at bound
  intro zero
  have sized := congrArg UInt32.toNat zero
  rw [FrameType.size32_of_small le, toNat_ofNat_add (by omega)] at sized
  have none : (0 : UInt32).toNat = 0 := rfl
  omega

theorem FrameType.buffer_exact {frameType : FrameType} (same : (n.toNat : Int) = len.toInt)
    (le : n.toNat ≤ Locked.maxIpxPayload .pcap frameType) : (frameType.buffer n).Exact len := by
  obtain ⟨-, small, smaller⟩ := frameType.headers_le
  have exact' : (PacketBuffer.ofHeaders frameType.headers.1 frameType.headers.2 n).Exact len :=
    PacketBuffer.ofHeaders_exact small smaller same (Nat.le_trans le (maxIpxPayload_le .pcap frameType))
  refine ⟨?_, exact'.copied, exact'.lengths⟩
  unfold FrameType.buffer
  rw [FrameType.size32_of_small le]
  exact exact'.allocated

/-! ### The packets themselves -/

/-- The sizes are those of the bytes that are sent. -/
theorem allocated_eq_length (p : OutgoingPacket) :
    (ipxwrapperBuffer (UInt32.ofNat p.data.length)).allocated.toNat = p.bytes.length ∧
      (dosboxBuffer (UInt32.ofNat p.data.length)).allocated.toNat = p.dosboxBytes.length ∧
      (relayBuffer (UInt32.ofNat p.data.length)).allocated.toNat = p.delivered.loopback.length := by
  have small := p.data_le
  unfold maxDataSize at small
  have size : (UInt32.ofNat p.data.length).toNat = p.data.length :=
    UInt32.toNat_ofNat_of_lt' (Nat.lt_of_le_of_lt small (by decide))
  have headers {k : Nat} (le : k ≤ 47) :
      (UInt32.ofNat k + UInt32.ofNat p.data.length).toNat = k + p.data.length := by
    rw [toNat_ofNat_add (by omega), size]
  refine ⟨?_, ?_, ?_⟩
  · rw [p.length_bytes]
    exact headers (by decide)
  · rw [p.length_dosboxBytes]
    exact headers (by decide)
  · rw [relayBuffer_allocated, Delivered.length_loopback]
    exact headers (by decide)

/-- In words the size of a frame is what it is in numbers. -/
theorem FrameType.size32_toNat (frameType : FrameType) (n : UInt32) :
    (frameType.size32 n).toNat = frameType.size n.toNat := by
  have limit {k : Nat} (small : k < 65536) : UInt32.ofNat k < n ↔ k < n.toNat := by
    rw [UInt32.lt_iff_toNat_lt, UInt32.toNat_ofNat_of_lt' (Nat.lt_trans small (by decide))]
  have sized {p q : Prop} [Decidable p] [Decidable q] (same : p ↔ q) {k : Nat} (small : k ≤ 47)
      (fits : ¬ q → ¬ novellIpxPacketMaxPayload < n.toNat) :
      (if p then 0 else UInt32.ofNat k + n).toNat = if q then 0 else k + n.toNat := by
    by_cases large : q
    · rw [if_pos large, if_pos (same.mpr large)]
      rfl
    · have fits := fits large
      unfold novellIpxPacketMaxPayload NovellIpxPacket.size at fits
      rw [if_neg large, if_neg (large ∘ same.mp), toNat_ofNat_add (by omega)]
  have both {k : Nat} (small : k < 65536) :=
    or_congr (@limit novellIpxPacketMaxPayload (by decide)) (limit small)
  cases frameType with
  | ethII => exact sized (limit (by decide)) (by decide) id
  | novell => exact sized (both (by decide)) (by decide) fun fits => (not_or.mp fits).1
  | llc => exact sized (both (by decide)) (by decide) fun fits => (not_or.mp fits).1

theorem FrameType.allocated_eq_length (frameType : FrameType) (type : Byte) (src dst : IpxAddr)
    {payload : List Byte} (le : payload.length ≤ Locked.maxIpxPayload .pcap frameType) :
    (frameType.buffer (UInt32.ofNat payload.length)).allocated.toNat =
      (frameType.pack type src dst payload).length := by
  have small := Nat.le_trans le (maxIpxPayload_le .pcap frameType)
  have size : (UInt32.ofNat payload.length).toNat = payload.length :=
    UInt32.toNat_ofNat_of_lt' (Nat.lt_of_le_of_lt small (by decide))
  have nonzero := @FrameType.size32_ne_zero _ frameType (Nat.le_trans (Nat.le_of_eq size) le)
  have sized := frameType.size32_toNat (UInt32.ofNat payload.length)
  rw [size] at sized
  have fits : frameType.size payload.length ≠ 0 := by
    rw [← sized]
    exact fun zero => nonzero (UInt32.toNat_inj.mp zero)
  unfold FrameType.buffer
  dsimp only
  rw [sized, (FrameType.size_of_fits fits).2.2, FrameType.length_pack]

/-! ## When a call is safe -/

theorem LengthEnv.maxIpxPayload_toInt (env : LengthEnv) :
    env.maxIpxPayload.toInt = Locked.maxIpxPayload env.ipxEncapType env.frameType := by
  refine Int32.toInt_ofNat_of_lt ?_
  exact Nat.lt_of_le_of_lt (maxIpxPayload_le env.ipxEncapType env.frameType) (by decide)

/-- A length that is let through is one that the encapsulation has room for, unless it is
negative. -/
theorem le_of_passes (nonneg : 0 ≤ len) (passes : ¬ env.maxIpxPayload < len) :
    len.toUInt32.toNat ≤ Locked.maxIpxPayload env.ipxEncapType env.frameType := by
  rw [Int32.lt_iff_toInt_lt, env.maxIpxPayload_toInt, ← toInt_eq_toUInt32 nonneg] at passes
  omega

theorem ipxSendLengths_error {error : UInt32}
    (refused : ipxSendLengths env addrs n = .error error) : error ≠ ERROR_SUCCESS := by
  have errors : WSAENETDOWN ≠ ERROR_SUCCESS ∧ WSAEMSGSIZE ≠ ERROR_SUCCESS ∧
      ERROR_OUTOFMEMORY ≠ ERROR_SUCCESS := by decide
  unfold ipxSendLengths at refused
  dsimp only at refused
  split at refused
  case h_1 =>
    split at refused
    · exact Except.error.inj refused ▸ errors.1
    · split at refused
      · exact Except.error.inj refused ▸ errors.2.1
      split at refused
      · exact Except.error.inj refused ▸ errors.2.2
      · cases refused
  case h_2 =>
    split at refused
    · exact Except.error.inj refused ▸ errors.1
    split at refused
    · exact Except.error.inj refused ▸ errors.1
    split at refused
    · cases refused
    split at refused
    · exact Except.error.inj refused ▸ errors.2.2
    split at refused <;> cases refused
  case h_3 =>
    split at refused
    · exact Except.error.inj refused ▸ errors.2.2
    split at refused <;> cases refused

/-- All that is built of a length that there is room for is exact. -/
theorem ipxSendLengths_exact (same : (n.toNat : Int) = len.toInt)
    (le : n.toNat ≤ Locked.maxIpxPayload env.ipxEncapType env.frameType)
    {buffers : List PacketBuffer} (built : ipxSendLengths env addrs n = .ok buffers) :
    buffers ≠ [] ∧ ∀ b ∈ buffers, b.Exact len := by
  have small := Nat.le_trans le (maxIpxPayload_le env.ipxEncapType env.frameType)
  have one {b : PacketBuffer} (exact' : b.Exact len) :
      [b] ≠ [] ∧ ∀ b' ∈ [b], b'.Exact len :=
    ⟨List.cons_ne_nil _ _, List.forall_mem_singleton.mpr exact'⟩
  have relay := relayBuffer_exact same small
  have two {b : PacketBuffer} (exact' : b.Exact len) :
      [b, relayBuffer n] ≠ [] ∧ ∀ b' ∈ [b, relayBuffer n], b'.Exact len :=
    ⟨List.cons_ne_nil _ _, List.forall_mem_cons.mpr ⟨exact', (one relay).2⟩⟩
  have dosbox : (dosboxBuffer n).Exact len :=
    PacketBuffer.ofHeaders_exact (by decide) (by decide) same small
  have ipxwrapper : (ipxwrapperBuffer n).Exact len :=
    PacketBuffer.ofHeaders_exact (by decide) (by decide) same small
  unfold ipxSendLengths at built
  dsimp only at built
  split at built
  case h_1 pcap =>
    rw [pcap] at le
    split at built
    · cases built
    split at built
    · cases built
    split at built
    · cases built
    · obtain rfl := Except.ok.inj built
      exact one (FrameType.buffer_exact same le)
  case h_2 =>
    split at built
    · cases built
    split at built
    · cases built
    split at built
    · obtain rfl := Except.ok.inj built
      exact one relay
    split at built
    · cases built
    split at built
    · obtain rfl := Except.ok.inj built
      exact two dosbox
    · obtain rfl := Except.ok.inj built
      exact one dosbox
  case h_3 =>
    split at built
    · cases built
    split at built
    · obtain rfl := Except.ok.inj built
      exact two ipxwrapper
    · obtain rfl := Except.ok.inj built
      exact one ipxwrapper

/-- A length that there is room for in no packet is refused in the cases of `Refuses`, and built
with in all others. -/
theorem ipxSendLengths_of_large (large : 65505 < n.toNat) :
    (env.Refuses addrs n → ∃ error, ipxSendLengths env addrs n = .error error) ∧
      (¬ env.Refuses addrs n →
        ∃ b rest, ipxSendLengths env addrs n = .ok (b :: rest) ∧ b.copied = n) := by
  unfold LengthEnv.Refuses ipxSendLengths
  cases encap : env.ipxEncapType with
  | pcap =>
      refine ⟨fun _ => ?_, fun not => absurd trivial not⟩
      dsimp only
      split
      · exact ⟨_, rfl⟩
      · rw [FrameType.size32_of_large large, if_pos rfl]
        exact ⟨_, rfl⟩
  | dosbox =>
      dsimp only
      split
      case isTrue down => exact ⟨fun _ => ⟨_, rfl⟩, fun not => absurd (Or.inl down) not⟩
      case isFalse up =>
        rw [or_iff_right up]
        split
        case isTrue foreign =>
          refine ⟨fun _ => ⟨_, rfl⟩, fun not => absurd ?_ not⟩
          rcases foreign with net | node
          · exact Or.inl net
          · exact Or.inr (Or.inl node)
        case isFalse own =>
          rw [not_or] at own
          rw [or_iff_right own.1, or_iff_right own.2]
          split
          case isTrue here =>
            exact ⟨fun refuses => absurd here refuses.1, fun _ => ⟨_, _, rfl, rfl⟩⟩
          case isFalse away =>
            rw [and_iff_right away]
            split
            case isTrue none' =>
              exact ⟨fun _ => ⟨_, rfl⟩, fun not => absurd (eq_false_of_ne_true none') not⟩
            case isFalse memory =>
              refine ⟨fun refuses => absurd ?_ memory, fun _ => ?_⟩
              · exact ne_true_of_eq_false refuses
              · split <;> exact ⟨_, _, rfl, rfl⟩
  | ipxwrapper =>
      dsimp only
      split
      case isTrue none' =>
        exact ⟨fun _ => ⟨_, rfl⟩, fun not => absurd (eq_false_of_ne_true none') not⟩
      case isFalse memory =>
        refine ⟨fun refuses => absurd ?_ memory, fun _ => ?_⟩
        · exact ne_true_of_eq_false refuses
        · split <;> exact ⟨_, _, rfl, rfl⟩

end Lengths

/-- For every `int`: a call of `sendto` is safe exactly if its length is not negative, or it is
refused for another reason. -/
theorem sendto_lengthSafe_iff (env : LengthEnv) (addrs : SendAddrs) (len : Int32) :
    LengthSafe env addrs len ↔ 0 ≤ len ∨ env.Refuses addrs len.toUInt32 := by
  have framed : env.ipxEncapType = .pcap → 0 ≤ len → len ≤ env.maxIpxPayload →
      env.frameType.size32 len.toUInt32 ≠ 0 := by
    intro pcap nonneg le
    have small := le_of_passes nonneg (Int32.not_lt.mpr le)
    rw [pcap] at small
    exact FrameType.size32_ne_zero small
  by_cases nonneg : 0 ≤ len
  · refine iff_of_true ⟨fun error refused => ?_, fun buffers built => ?_, framed⟩ (Or.inl nonneg)
    · unfold sendtoLengths at refused
      split at refused
      · exact Except.error.inj refused ▸ (by decide : WSAEMSGSIZE ≠ ERROR_SUCCESS)
      · exact ipxSendLengths_error refused
    · unfold sendtoLengths at built
      split at built
      case isTrue => cases built
      case isFalse passes =>
        exact ipxSendLengths_exact (toInt_eq_toUInt32 nonneg) (le_of_passes nonneg passes) built
  · -- A negative length passes the test, and becomes a large one.
    have large := large_of_negative nonneg
    obtain ⟨refuses, builds⟩ := @ipxSendLengths_of_large len.toUInt32 env addrs (by omega)
    have below : len.toInt < 0 := by
      rw [Int32.le_iff_toInt_le] at nonneg
      exact Int.not_le.mp nonneg
    have passes : sendtoLengths env addrs len = ipxSendLengths env addrs len.toUInt32 := by
      refine if_neg ?_
      rw [Int32.lt_iff_toInt_lt, env.maxIpxPayload_toInt]
      omega
    rw [or_iff_right nonneg]
    constructor
    · intro safe
      by_contra not
      obtain ⟨b, rest, built, copied⟩ := builds not
      have exact' := ((safe.built _ (passes.trans built)).2 b List.mem_cons_self).copied
      omega
    · intro refused
      obtain ⟨error, returned⟩ := refuses refused
      refine ⟨fun error' same => ?_, fun buffers built => ?_, framed⟩
      · exact ipxSendLengths_error (passes.symm.trans same)
      · rw [passes, returned] at built
        cases built

/-- IPXWrapper encapsulation, with memory for anything up to 2 GiB. -/
def roomyEnv : LengthEnv where
  ipxEncapType := .ipxwrapper
  frameType := .ethII
  cache := ⟨[], true⟩
  dosboxState := .disconnected
  dosboxLocalNetnum := 0
  dosboxLocalNodenum := 0
  malloc := fun size => size < 2147483648
  transmits := false

/-- 4294967295 bytes are copied to a buffer of 26. -/
theorem minusOne_not_lengthSafe : ¬ LengthSafe roomyEnv ⟨1, 65536, 1, bcastNode⟩ (-1) := by
  intro safe
  have copied := ((safe.built [ipxwrapperBuffer 4294967295] rfl).2 _ List.mem_cons_self).copied
  exact absurd copied (by decide)

end IpxWrapper
