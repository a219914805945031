import IpxWrapper.DeliverPacket
import IpxWrapper.DosboxSend
import IpxWrapper.Ethernet
import IpxWrapper.LockedWrappers
import IpxWrapper.RecvQueueRuns
import IpxWrapper.SendPacketReports
import IpxWrapper.UdpRecv

/-!
# What is sent is what is received

A packet takes two hops: over UDP to the router of the receiving host, in a form
that depends on the encapsulation, and over the loopback port to the socket. Each
hop has checks of its own on the length; `payload_faithful` says that a packet of
any size up to the largest payload passes all of them.
-/

namespace IpxWrapper

open Base

/-! ## The loopback port -/

/-- `recvfrom` returns the whole packet. -/
structure ReceiveOut.Whole (d : Delivered) (call : ReceiveCall) (out : ReceiveOut) : Prop where
  value : out.value = d.payload.length
  error : out.error = none
  copied : out.copied = d.payload
  addr : call.addr = true → ∃ addr, out.addr = some addr ∧ addr.netnum = d.srcNet ∧
    addr.nodenum = d.srcNode ∧ addr.socket = d.srcSocket ∧
    (call.extAddr = true → 16 ≤ call.addrlen.getD 0 → ∃ flags, addr.ext = some (d.type, flags))

/-- What is delivered on a host gets to each socket it is for, and is read there. -/
structure Delivered.Relays (d : Delivered) : Prop where
  fits : d.loopback.length ≤ maxPktSize
  accepted : ∀ m : Mem, m.Holds 0 d.loopback → RecvSocket.ValidPacket m d.loopback.length
  sent : ∀ (w95Bug : Bool) (malloc : Nat → Bool) (fds : List Nat) (w : World),
    ∀ e ∈ w.inOrder fds, relaysTo w95Bug d e.sock = true → malloc e.sock.fd = true →
      (e.sock.port, d.loopback) ∈ deliverPacket w95Bug malloc fds w d
  same : ∀ (w95Bug : Bool) (malloc : Nat → Bool) (fds : List Nat) (w : World),
    ∀ sent ∈ deliverPacket w95Bug malloc fds w d, sent.2 = d.loopback
  received : ∀ (ready : Slot → Int) (data : Slot → Mem) (acts : List RecvAct),
    ∀ m ∈ recvMoves ready data acts, ∀ call out,
      .received call d.loopback out ∈ m.after.results → call.fn = .recvfrom →
        d.payload.length ≤ call.len → out.Whole d call

section Loopback

variable {d : Delivered}

/-- The packet has the fields and the payload that were delivered. -/
theorem Delivered.loopback_fields (src_six : d.srcNode.toNat % 65536 = 0)
    (dest_six : d.destNode.toNat % 65536 = 0) {m : Mem} (holds : m.Holds 0 d.loopback) :
    IpxPacket.Fields m 0 d.type d.destNet d.destNode d.destSocket d.srcNet d.srcNode d.srcSocket
      (leBytes d.payload.length 2) d.payload :=
  IpxPacket.fields_of_holds (length_leBytes _ _) dest_six src_six holds

theorem Delivered.length_loopback (d : Delivered) :
    d.loopback.length = IpxPacket.headerSize + d.payload.length :=
  IpxPacket.length_bytes (length_leBytes _ _)

/-- On this hop the size is in host byte order. -/
theorem Delivered.size_of_loopback (small : d.payload.length ≤ maxDataSize) {m : Mem}
    (holds : m.Holds 0 d.loopback) : IpxPacket.size m 0 = d.payload.length := by
  have fields := holds.left.right
  simp only [List.length_append, List.length_cons, List.length_nil, length_addr32Out,
    length_addr48Out, length_leBytes] at fields
  refine le_of_holds ?_ fields
  unfold maxDataSize at small
  omega

/-- What `recvfrom` makes of the packet, given enough room. -/
theorem Delivered.readPacket_whole (src_six : d.srcNode.toNat % 65536 = 0)
    (dest_six : d.destNode.toNat % 65536 = 0) (small : d.payload.length ≤ maxDataSize)
    {m : Mem} (holds : m.Holds 0 d.loopback) {call : ReceiveCall} (fn : call.fn = .recvfrom)
    (room : d.payload.length ≤ call.len) : (readPacket call m).Whole d call := by
  have fields := Delivered.loopback_fields src_six dest_six holds
  have size := Delivered.size_of_loopback small holds
  have enough : ¬ call.len < d.payload.length := Nat.not_lt.mpr room
  have data : m.slice IpxPacket.headerSize d.payload.length = d.payload := by
    have payload := fields.data.slice
    rwa [Nat.zero_add] at payload
  unfold readPacket
  dsimp only
  rw [size, if_neg enough, if_pos room]
  refine ⟨rfl, rfl, data, fun addr => ?_⟩
  dsimp only
  unfold readAddr
  rw [if_pos ⟨fn, addr⟩, fields.ptype, fields.srcNet, fields.srcNode, fields.srcSocket]
  refine ⟨_, rfl, rfl, rfl, rfl, fun extAddr large => ?_⟩
  exact ⟨saFlags call m, if_pos ⟨extAddr, large⟩⟩

/-- A packet with a payload that may be sent is relayed. -/
theorem Delivered.relays (src_six : d.srcNode.toNat % 65536 = 0)
    (dest_six : d.destNode.toNat % 65536 = 0) (small : d.payload.length ≤ maxDataSize) :
    d.Relays where
  fits := by
    rw [d.length_loopback]
    unfold maxDataSize at small
    unfold IpxPacket.headerSize maxPktSize
    omega
  accepted := fun m holds => by
    unfold RecvSocket.ValidPacket
    rw [d.length_loopback, Delivered.size_of_loopback small holds]
    exact ⟨Nat.le_add_right _ _, Nat.add_comm _ _⟩
  sent := fun w95Bug malloc fds w e member relays memory =>
    List.mem_filterMap.mpr ⟨e, member, if_pos ⟨relays, memory⟩⟩
  same := fun w95Bug malloc fds w sent member => by
    obtain ⟨e, -, built⟩ := List.mem_filterMap.mp member
    split at built
    · rw [← Option.some.inj built]
    · cases built
  received := fun ready data acts m member call out ended fn room => by
    have reads : out = readPacket call (Mem.ofList d.loopback fun _ => 0) :=
      recvMoves_reads ready data acts m member _ ended
    rw [reads]
    exact Delivered.readPacket_whole src_six dest_six small (Mem.ofList_holds _ _) fn room

end Loopback

/-! ## Packets between two addresses -/

/-- The largest payload is one that every hop has room for. -/
theorem maxIpxPayload_le (encap : EncapType) (frameType : FrameType) :
    Locked.maxIpxPayload encap frameType ≤ maxDataSize := by
  cases encap <;> cases frameType <;> decide

/-- The packet that `sendto` sends from one address to another. -/
def packetBetween (type : Byte) (src dst : IpxAddr) (payload : List Byte)
    (small : payload.length ≤ maxDataSize) : OutgoingPacket where
  type := type
  srcNet := src.netnum
  srcNode := src.nodenum
  srcSocket := src.socket
  destNet := dst.netnum
  destNode := dst.nodenum
  destSocket := dst.socket
  data := payload
  data_le := small

/-- Over UDP with IPXWrapper encapsulation. -/
structure OutgoingPacket.SurvivesUdp (p : OutgoingPacket) : Prop where
  sent : ∀ (env : SendEnv) (s : SendState), (ipxSendPacket env p s).2.attempts =
    s.attempts ++ (env.targets p).map fun addr => (addr, p.bytes)
  fits : p.bytes.length ≤ maxPktSize
  sizeOk : ∀ m : Mem, m.Holds 0 p.bytes → UdpSizeOk m p.bytes.length
  notLookup : ∀ (env : UdpEnv) (m : Mem) (srcIp : SockAddrIn) (req : SpxlookupReq),
    m.Holds 0 p.bytes → (handleUdpRecv env m p.bytes.length srcIp).1 ≠ .lookup req
  delivered : ∀ (env : UdpEnv) (m : Mem) (srcIp : SockAddrIn), m.Holds 0 p.bytes →
    sourceOk env.cache p.destNet p.destNode srcIp.addr = true →
      ∃ call, (handleUdpRecv env m p.bytes.length srcIp).1 = .deliver call ∧
        call.delivered m = p.delivered

/-- Through the DOSBox server, without coalescing. -/
structure OutgoingPacket.SurvivesDosbox (p : OutgoingPacket) : Prop where
  sent : ∀ (env : DosboxSendEnv) (s : DosboxSendState), env.coalesce.dosboxCoalesce = false →
    (dosboxSendPacket env p s).2.coalesce.sent = s.coalesce.sent ∨
      (dosboxSendPacket env p s).2.coalesce.sent = s.coalesce.sent ++ [.immediate p.dosboxBytes]
  fits : p.dosboxBytes.length ≤ maxPktSize
  headerValid : ∀ m : Mem, m.Holds 0 p.dosboxBytes → HeaderValid m p.dosboxBytes.length
  notContainer : ∀ m : Mem, m.Holds 0 p.dosboxBytes → ¬ IsContainer m p.dosboxBytes.length
  delivered : ∀ (fuel : Nat) (m : Mem), m.Holds 0 p.dosboxBytes →
    ∃ call, handleDosboxRecv fuel m p.dosboxBytes.length = ⟨[call], true⟩ ∧
      call.delivered m = p.delivered

section Between

variable {type : Byte} {src dst : IpxAddr} {payload : List Byte}
  (small : payload.length ≤ maxDataSize)

theorem OutgoingPacket.length_bytes (p : OutgoingPacket) :
    p.bytes.length = IpxPacket.headerSize + p.data.length :=
  IpxPacket.length_bytes (length_be16Bytes _)

theorem OutgoingPacket.length_dosboxBytes (p : OutgoingPacket) :
    p.dosboxBytes.length = NovellIpxPacket.size + p.data.length := by
  unfold OutgoingPacket.dosboxBytes dosboxPacket
  rw [List.length_append, NovellIpxPacket.length_header]
  rfl

/-- The packet on the wire has the fields that it was built with. -/
theorem packetBetween_fields {m : Mem}
    (holds : m.Holds 0 (packetBetween type src dst payload small).bytes) :
    IpxPacket.Fields m 0 type dst.netnum dst.nodenum dst.socket src.netnum src.nodenum src.socket
      (be16Bytes payload.length) payload :=
  IpxPacket.fields_of_holds (length_be16Bytes _) dst.six src.six holds

/-- On this hop the size is in network byte order. -/
theorem packetBetween_netSize {m : Mem}
    (holds : m.Holds 0 (packetBetween type src dst payload small).bytes) :
    IpxPacket.netSize m 0 = payload.length := by
  have size := (packetBetween_fields small holds).sizeBytes
  refine be16_of_bytes ?_ (size 0 Nat.zero_lt_two) (size 1 Nat.one_lt_two)
  unfold maxDataSize at small
  omega

/-- The receiver takes the packet as one of its size. -/
theorem packetBetween_sizeOk {m : Mem}
    (holds : m.Holds 0 (packetBetween type src dst payload small).bytes) :
    UdpSizeOk m (packetBetween type src dst payload small).bytes.length := by
  unfold UdpSizeOk
  rw [OutgoingPacket.length_bytes, packetBetween_netSize small holds]
  exact ⟨Nat.le_add_right _ _, small, Nat.add_comm _ _⟩

theorem packetBetween_survivesUdp (nonzero : src.socket ≠ 0) :
    (packetBetween type src dst payload small).SurvivesUdp where
  sent := fun env s => ipxSendPacket_attempts env _ s
  fits := by
    rw [OutgoingPacket.length_bytes]
    change IpxPacket.headerSize + payload.length ≤ maxPktSize
    unfold maxDataSize at small
    unfold IpxPacket.headerSize maxPktSize
    omega
  sizeOk := fun m holds => packetBetween_sizeOk small holds
  notLookup := fun env m srcIp req holds => by
    have fields := packetBetween_fields small holds
    have sizeOk := packetBetween_sizeOk small holds
    unfold handleUdpRecv
    rw [if_neg (not_not_intro sizeOk), fields.srcSocket, if_neg nonzero]
    split <;> exact nofun
  delivered := fun env m srcIp holds allowed => by
    have fields := packetBetween_fields small holds
    have sizeOk := packetBetween_sizeOk small holds
    have data : m.slice IpxPacket.headerSize payload.length = payload := by
      have payload := fields.data.slice
      rwa [Nat.zero_add] at payload
    refine ⟨udpDeliverCall m, ?_, ?_⟩
    · change sourceOk env.cache dst.netnum dst.nodenum srcIp.addr = true at allowed
      rw [← fields.destNet, ← fields.destNode] at allowed
      unfold handleUdpRecv
      rw [if_neg (not_not_intro sizeOk), fields.srcSocket, if_neg nonzero,
        if_neg (not_not_intro allowed)]
    · unfold DeliverCall.delivered udpDeliverCall
      dsimp only
      rw [fields.ptype, fields.srcNet, fields.srcNode, fields.srcSocket, fields.destNet,
        fields.destNode, fields.destSocket, packetBetween_netSize small holds, data]
      rfl

/-- The router takes the packet from the server as one packet. -/
theorem packetBetween_plain (nonzero : src.socket ≠ 0) {m : Mem}
    (holds : m.Holds 0 (packetBetween type src dst payload small).dosboxBytes) :
    HeaderValid m (packetBetween type src dst payload small).dosboxBytes.length ∧
      ¬ IsContainer m (packetBetween type src dst payload small).dosboxBytes.length := by
  have header := holds.left
  have length : NovellIpxPacket.length m 0 = NovellIpxPacket.size + payload.length := by
    refine NovellIpxPacket.length_of_holds ?_ header
    unfold maxDataSize at small
    unfold NovellIpxPacket.size
    omega
  have srcSocket : NovellIpxPacket.srcSocket m 0 = src.socket :=
    NovellIpxPacket.socket_of_holds header.right
  rw [OutgoingPacket.length_dosboxBytes]
  refine ⟨⟨Nat.le_add_right _ _, length⟩, fun container => nonzero ?_⟩
  rw [← srcSocket]
  exact container.2.1

theorem packetBetween_survivesDosbox (nonzero : src.socket ≠ 0)
    (fits : NovellIpxPacket.size + payload.length ≤ maxPktSize) :
    (packetBetween type src dst payload small).SurvivesDosbox where
  sent := fun env s off => dosboxSendPacket_sent off _ s
  fits := by
    rw [OutgoingPacket.length_dosboxBytes]
    exact fits
  headerValid := fun m holds => (packetBetween_plain small nonzero holds).1
  notContainer := fun m holds => (packetBetween_plain small nonzero holds).2
  delivered := fun fuel m holds => by
    obtain ⟨valid, plain⟩ := packetBetween_plain small nonzero holds
    refine ⟨deliverCall m 0, handleDosboxRecv_of_plain valid plain fuel, ?_⟩
    refine deliverCall_of_holds ?_ src.six dst.six holds
    change payload.length < 65506
    unfold maxDataSize at small
    omega

end Between

/-! ## Both hops -/

/-- Every payload that may be sent gets to the receiver, whole, as what it is: over
UDP, through the DOSBox server, and over the loopback port. -/
theorem payload_faithful (encap : EncapType) (frameType : FrameType) (type : Byte)
    (src dst : IpxAddr) (payload : List Byte)
    (small : payload.length ≤ Locked.maxIpxPayload encap frameType) (nonzero : src.socket ≠ 0) :
    let p := packetBetween type src dst payload (small.trans (maxIpxPayload_le encap frameType))
    (encap = .ipxwrapper → p.SurvivesUdp) ∧ (encap = .dosbox → p.SurvivesDosbox) ∧
      p.delivered.Relays := by
  intro p
  refine ⟨fun _ => packetBetween_survivesUdp _ nonzero, fun dosbox => ?_, ?_⟩
  · subst dosbox
    refine packetBetween_survivesDosbox _ nonzero ?_
    have small : payload.length ≤ 1424 := small
    unfold NovellIpxPacket.size maxPktSize
    omega
  · exact Delivered.relays src.six dst.six (small.trans (maxIpxPayload_le encap frameType))

/-- The largest payload there is. -/
theorem largestPayload_faithful :
    let p := packetBetween 4 ⟨1, 0x20000, 0x4001, by decide⟩ ⟨2, 0x30000, 0x4002, by decide⟩
      (List.replicate 8192 0) (by rw [List.length_replicate]; decide)
    p.SurvivesUdp ∧ p.delivered.Relays := by
  have faithful := payload_faithful .ipxwrapper .ethII 4 ⟨1, 0x20000, 0x4001, by decide⟩
    ⟨2, 0x30000, 0x4002, by decide⟩ (List.replicate 8192 0)
    (by rw [List.length_replicate]; decide) (by decide)
  exact ⟨faithful.1 rfl, faithful.2.2⟩

end IpxWrapper
