import IpxWrapper.OwnPackets
import IpxWrapper.PayloadFidelity

/-!
# Packets on a UDP network (`winsock.c`, `router.c`, `addrcache.c`)

Any number of processes send packets with IPXWrapper encapsulation and receive them. A
datagram that was sent stays on the network, so that it may arrive late, more than once,
in any order, at any of the processes, or not at all. Besides packets there are lookups
and their replies, and what other programs send.

* `netMoves_authentic`: a packet goes to where a packet from its destination came from, or is
  broadcast; and what a process delivers is what was sent, to one of its own addresses or
  to all.
* `reply_returns`: a reply goes back to where the packet came from, and nowhere else, and
  is delivered there.
-/

namespace IpxWrapper

open Base

/-! ## The network -/

/-- A packet that an application sends. -/
structure NetPacket where
  type : Byte
  src : IpxAddr
  dst : IpxAddr
  payload : List Byte
  small : payload.length ≤ maxDataSize

def NetPacket.outgoing (p : NetPacket) : OutgoingPacket :=
  packetBetween p.type p.src p.dst p.payload p.small

/-- The key of an address in the address cache. -/
def IpxAddr.key (a : IpxAddr) : HostTableKey := ⟨a.netnum, a.nodenum, a.socket⟩

/-- A datagram that was sent, and where it was sent from and to. -/
structure UdpDatagram where
  src : SockAddrIn
  dst : SockAddrIn
  data : List Byte

structure UdpNet where
  recv : Nat → UdpState
  send : Nat → SendState
  /-- Every datagram sent so far. -/
  flying : List UdpDatagram
  /-- Every packet given to `ipx_send_packet` so far, and the process that sent it. -/
  sent : List (Nat × NetPacket)

def UdpNet.init : UdpNet :=
  ⟨fun _ => ⟨[], 0, 0, [], []⟩, fun _ => ⟨[], [], 0, 0, 0, 0⟩, [], []⟩

/-- Datagrams from the private socket of the process come from this address. -/
def UdpHost.Speaks (h : UdpHost) (addr : SockAddrIn) : Prop :=
  addr.family = AF_INET ∧ addr.port = h.privatePort ∧
    (IsLoopback addr.addr ∨ ∃ a ∈ h.host.adapters, a.HasAddress addr.addr)

instance (h : UdpHost) (addr : SockAddrIn) : Decidable (h.Speaks addr) :=
  inferInstanceAs (Decidable (_ ∧ _ ∧ _))

/-- An interface of the process has the address. -/
def UdpHost.HasIpx (h : UdpHost) (netnum : Addr32) (nodenum : Addr48) : Prop :=
  ∃ iface ∈ h.cache.ifaces, iface.ipxNet = netnum ∧ iface.ipxNode = nodenum

instance (h : UdpHost) (netnum : Addr32) (nodenum : Addr48) : Decidable (h.HasIpx netnum nodenum) :=
  inferInstanceAs (Decidable (∃ iface ∈ _, _))

/-- A datagram that may be taken for a packet: it has the size that it says, and is no internal
traffic. -/
def MayBePacket (data : List Byte) : Prop :=
  UdpSizeOk (Mem.ofList data fun _ => 0) data.length ∧
    IpxPacket.srcSocket (Mem.ofList data fun _ => 0) 0 ≠ 0

instance (data : List Byte) : Decidable (MayBePacket data) := inferInstanceAs (Decidable (_ ∧ _))

inductive NetEvent where
  /-- Process `i` sends a packet from a socket that is bound; attempt `k` leaves from `from' k`. -/
  | send (i : Nat) (from' : Nat → SockAddrIn) (p : NetPacket) (env : SendEnv)
  /-- Process `i` receives datagram `n`, with `rest` behind it in the buffer. -/
  | receive (i n : Nat) (rest : Mem) (now : Int) (malloc : Bool)
  /-- Some program sends what is not a packet. -/
  | stray (d : UdpDatagram)

/-- What `ipx_send_packet` finds in process `i`. -/
def UdpNet.sendEnv (hosts : Nat → UdpHost) (net : UdpNet) (i : Nat) (env : SendEnv) : SendEnv :=
  { env with hostTable := (net.recv i).hostTable, cache := (hosts i).cache }

/-- The datagrams of the attempts to send. -/
def departures (from' : Nat → SockAddrIn) (attempts : List (SockAddrIn × List Byte)) :
    List UdpDatagram :=
  attempts.mapIdx fun k attempt => ⟨from' k, attempt.1, attempt.2⟩

/-- The attempts that a call has added. -/
def newAttempts (before after : SendState) : List (SockAddrIn × List Byte) :=
  after.attempts.drop before.attempts.length

/-- What `recvfrom` makes of a datagram. -/
def UdpDatagram.received (d : UdpDatagram) (rest : Mem) (small : d.data.length ≤ maxPktSize)
    (inet : d.src.family = AF_INET) : Datagram :=
  ⟨d.src, Mem.ofList d.data rest, d.data.length, small, inet⟩

def netStep (hosts : Nat → UdpHost) : NetEvent → UdpNet → Option UdpNet
  | .send i from' p env, net =>
      let sent := (ipxSendPacket (net.sendEnv hosts i env) p.outgoing (net.send i)).2
      let attempts := newAttempts (net.send i) sent
      if (hosts i).HasIpx p.src.netnum p.src.nodenum ∧ p.src.socket ≠ 0 ∧
          ∀ k < attempts.length, (hosts i).Speaks (from' k) then
        some { net with
          send := Function.update net.send i sent
          flying := net.flying ++ departures from' attempts
          sent := net.sent ++ [(i, p)] }
      else
        none
  | .receive i n rest now malloc, net =>
      match net.flying[n]? with
      | none => none
      | some d =>
          if fits : d.data.length ≤ maxPktSize ∧ d.src.family = AF_INET then
            let call : UdpRecvCall := ⟨.received (d.received rest fits.1 fits.2), now, malloc⟩
            some { net with
              recv := Function.update net.recv i ((hosts i).doUdpRecv call (net.recv i)).2 }
          else
            none
  | .stray d, net => if MayBePacket d.data then none else some { net with flying := net.flying ++ [d] }

def netMoves (hosts : Nat → UdpHost) (events : List NetEvent) : List (Move NetEvent UdpNet) :=
  moves (netStep hosts) events .init

/-! ## What a step does -/

/-- The call of `_handle_udp_recv` for a datagram. -/
def UdpHost.arrival (h : UdpHost) (d : UdpDatagram) (rest : Mem) (now : Int) (malloc : Bool) :
    UdpReceived :=
  ⟨Mem.ofList d.data rest, d.data.length, d.src, h.cache, now, malloc⟩

/-- The process takes a datagram from there for one of another. -/
def UdpHost.Foreign (h : UdpHost) (addr : SockAddrIn) : Prop :=
  addr.port ≠ h.privatePort ∨ ¬ ipv4AddressIsLocal h.cache addr.addr

instance (h : UdpHost) (addr : SockAddrIn) : Decidable (h.Foreign addr) :=
  inferInstanceAs (Decidable (_ ∨ _))

/-- It accepts a packet from an address. -/
def UdpHost.Hears (h : UdpHost) (d : UdpDatagram) (rest : Mem) (now : Int) (malloc : Bool) : Prop :=
  h.Foreign d.src ∧ (h.arrival d rest now malloc).Accepted

instance (h : UdpHost) (d : UdpDatagram) (rest : Mem) (now : Int) (malloc : Bool) :
    Decidable (h.Hears d rest now malloc) :=
  inferInstanceAs (Decidable (_ ∧ _))

section Steps

variable {hosts : Nat → UdpHost} {net net' : UdpNet} {i n : Nat} {rest : Mem} {now : Int}
  {malloc : Bool} {d : UdpDatagram} {from' : Nat → SockAddrIn} {p : NetPacket} {env : SendEnv}

theorem UdpHost.handle_hostTable (h : UdpHost) (call : UdpRecvCall) (g : Datagram) (s : UdpState) :
    (h.handle call g s).hostTable =
      if (h.received call g).Accepted then
        addrCacheSet s.hostTable call.now call.malloc g.addr (h.received call g).source.netnum
          (h.received call g).source.nodenum (h.received call g).source.socket
      else s.hostTable := by
  refine Eq.trans ?_ ((h.received call g).handleUdpRecv_hostTable s.hostTable)
  change _ = (handleUdpRecv ((h.received call g).env s.hostTable) g.buf g.len g.addr).2
  unfold UdpHost.handle
  rcases handleUdpRecv ((h.received call g).env s.hostTable) g.buf g.len g.addr with ⟨outcome, _⟩
  cases outcome <;> rfl

/-- What receiving a datagram leaves in the process. -/
structure Received (h : UdpHost) (d : UdpDatagram) (rest : Mem) (now : Int) (malloc : Bool)
    (s s' : UdpState) : Prop where
  hostTable : s'.hostTable =
    if h.Hears d rest now malloc then
      addrCacheSet s.hostTable now malloc d.src (h.arrival d rest now malloc).source.netnum
        (h.arrival d rest now malloc).source.nodenum (h.arrival d rest now malloc).source.socket
    else s.hostTable
  delivered : s'.delivered = s.delivered ++
    if h.Hears d rest now malloc then
      [(udpDeliverCall (Mem.ofList d.data rest)).delivered (Mem.ofList d.data rest)]
    else []

theorem doUdpRecv_received (h : UdpHost) (s : UdpState) (small : d.data.length ≤ maxPktSize)
    (inet : d.src.family = AF_INET) :
    Received h d rest now malloc s
      (h.doUdpRecv ⟨.received (d.received rest small inet), now, malloc⟩ s).2 where
  hostTable := by
    unfold UdpHost.doUdpRecv UdpHost.Hears
    by_cases foreign : h.Foreign d.src
    · have taken := foreign
      unfold UdpHost.Foreign at taken
      simp only [UdpDatagram.received, taken, foreign, if_true, true_and]
      exact UdpHost.handle_hostTable h _ _ _
    · have dropped := foreign
      unfold UdpHost.Foreign at dropped
      simp only [UdpDatagram.received, dropped, foreign, if_false, false_and]
      rfl
  delivered := by
    rw [UdpHost.doUdpRecv_delivered]
    unfold UdpHost.kept UdpHost.delivers UdpHost.Hears UdpHost.Foreign
    dsimp only [UdpDatagram.received]
    by_cases foreign : d.src.port ≠ h.privatePort ∨ ¬ ipv4AddressIsLocal h.cache d.src.addr
    · simp only [foreign, if_true, true_and]
      by_cases accepted : (h.arrival d rest now malloc).Accepted
      · rw [if_pos accepted]
        exact congrArg (_ ++ Option.toList ·) (if_pos accepted)
      · rw [if_neg accepted]
        exact congrArg (_ ++ Option.toList ·) (if_neg accepted)
    · simp only [foreign, if_false, false_and, Option.toList_none]

/-- A datagram is received if the buffer has room for it. -/
theorem netStep_receive (i : Nat) (rest : Mem) (now : Int) (malloc : Bool)
    (at_n : net.flying[n]? = some d) (small : d.data.length ≤ maxPktSize)
    (inet : d.src.family = AF_INET) :
    ∃ s', Received (hosts i) d rest now malloc (net.recv i) s' ∧
      netStep hosts (.receive i n rest now malloc) net =
        some { net with recv := Function.update net.recv i s' } := by
  have enabled : d.data.length ≤ maxPktSize ∧ d.src.family = AF_INET := ⟨small, inet⟩
  refine ⟨_, doUdpRecv_received (hosts i) (net.recv i) small inet, ?_⟩
  simp only [netStep, at_n, dif_pos enabled]

theorem netStep_receive_cases
    (receives : netStep hosts (.receive i n rest now malloc) net = some net') :
    ∃ d s', net.flying[n]? = some d ∧ Received (hosts i) d rest now malloc (net.recv i) s' ∧
      net' = { net with recv := Function.update net.recv i s' } := by
  cases at_n : net.flying[n]? with
  | none => simp [netStep, at_n] at receives
  | some d =>
      by_cases enabled : d.data.length ≤ maxPktSize ∧ d.src.family = AF_INET
      · simp only [netStep, at_n, dif_pos enabled, Option.some.injEq] at receives
        exact ⟨d, _, rfl, doUdpRecv_received (hosts i) (net.recv i) enabled.1 enabled.2,
          receives.symm⟩
      · simp [netStep, at_n, enabled] at receives

theorem exists_netStep_send (ours : (hosts i).HasIpx p.src.netnum p.src.nodenum)
    (named : p.src.socket ≠ 0) (speaks : ∀ k, (hosts i).Speaks (from' k)) :
    ∃ net', netStep hosts (.send i from' p env) net = some net' :=
  ⟨_, if_pos ⟨ours, named, fun k _ => speaks k⟩⟩

/-- What sending a packet changes: it leaves for each of its targets. -/
theorem netStep_send (sends : netStep hosts (.send i from' p env) net = some net') :
    (hosts i).HasIpx p.src.netnum p.src.nodenum ∧ p.src.socket ≠ 0 ∧
      (∀ k < ((net.sendEnv hosts i env).targets p.outgoing).length, (hosts i).Speaks (from' k)) ∧
      net'.recv = net.recv ∧ net'.sent = net.sent ++ [(i, p)] ∧
      net'.flying = net.flying ++
        ((net.sendEnv hosts i env).targets p.outgoing).mapIdx fun k target =>
          ⟨from' k, target, p.outgoing.bytes⟩ := by
  have added : newAttempts (net.send i)
      (ipxSendPacket (net.sendEnv hosts i env) p.outgoing (net.send i)).2 =
        ((net.sendEnv hosts i env).targets p.outgoing).map fun target =>
          (target, p.outgoing.bytes) := by
    unfold newAttempts
    rw [ipxSendPacket_attempts, List.drop_left]
  simp only [netStep, added, List.length_map] at sends
  split at sends
  case isTrue enabled =>
    obtain rfl := Option.some.inj sends
    refine ⟨enabled.1, enabled.2.1, enabled.2.2, rfl, rfl, ?_⟩
    refine congrArg (net.flying ++ ·) (List.ext_getElem? fun k => ?_)
    simp only [departures, List.getElem?_mapIdx, List.getElem?_map, Option.map_map]
    rfl
  case isFalse => cases sends

/-! ## Packets as they arrive -/

theorem NetPacket.holds (packet : d.data = p.outgoing.bytes) (rest : Mem) :
    (Mem.ofList d.data rest).Holds 0 p.outgoing.bytes := by
  rw [packet]
  exact Mem.ofList_holds _ _

/-- The packet in a datagram says where it is from. -/
theorem NetPacket.source (packet : d.data = p.outgoing.bytes) (h : UdpHost) :
    (h.arrival d rest now malloc).source = p.src.key := by
  have fields := packetBetween_fields p.small (NetPacket.holds packet rest)
  unfold UdpReceived.source UdpHost.arrival IpxAddr.key
  rw [fields.srcNet, fields.srcNode, fields.srcSocket]

/-- It is delivered as it was sent, whatever lies behind it in the buffer. -/
theorem NetPacket.delivered (packet : d.data = p.outgoing.bytes) (rest : Mem) :
    (udpDeliverCall (Mem.ofList d.data rest)).delivered (Mem.ofList d.data rest) =
      p.outgoing.delivered := by
  have holds := NetPacket.holds packet rest
  have fields := packetBetween_fields p.small holds
  have size := packetBetween_netSize p.small holds
  have payload : (Mem.ofList d.data rest).slice IpxPacket.headerSize p.payload.length = p.payload := by
    have data := fields.data.slice
    rwa [Nat.zero_add] at data
  unfold DeliverCall.delivered udpDeliverCall
  dsimp only
  rw [fields.ptype, fields.srcNet, fields.srcNode, fields.srcSocket, fields.destNet,
    fields.destNode, fields.destSocket, size, payload]
  rfl

/-- The process may be sent the packet from there: the packet is for one of its interfaces or for
all, and an interface that it is for has an IP address in the same subnet. -/
def UdpHost.Expects (h : UdpHost) (p : NetPacket) (addr : SockAddrIn) : Prop :=
  h.Foreign addr ∧ sourceOk h.cache p.dst.netnum p.dst.nodenum addr.addr = true

instance (h : UdpHost) (p : NetPacket) (addr : SockAddrIn) : Decidable (h.Expects p addr) :=
  inferInstanceAs (Decidable (_ ∧ _))

/-- It accepts the packets that it may be sent. -/
theorem UdpHost.hears_iff (h : UdpHost) (packet : d.data = p.outgoing.bytes)
    (named : p.src.socket ≠ 0) : h.Hears d rest now malloc ↔ h.Expects p d.src := by
  have holds := NetPacket.holds packet rest
  have fields := packetBetween_fields p.small holds
  have sized : UdpSizeOk (Mem.ofList d.data rest) d.data.length := by
    rw [packet] at holds ⊢
    exact packetBetween_sizeOk p.small holds
  unfold UdpHost.Hears UdpHost.Expects UdpReceived.Accepted UdpHost.arrival
  dsimp only
  rw [fields.srcSocket, fields.destNet, fields.destNode]
  exact and_congr_right fun _ => ⟨fun all => all.2.2, fun source => ⟨sized, named, source⟩⟩

/-- What is accepted may be a packet. -/
theorem UdpHost.Hears.mayBePacket {h : UdpHost} (hears : h.Hears d rest now malloc) :
    MayBePacket d.data := by
  obtain ⟨-, sized, named, -⟩ := hears
  have long : 27 ≤ d.data.length := sized.1
  -- The fields that are tested lie in the datagram, not behind it.
  have same (k : Nat) (less : k < 27) :
      Mem.ofList d.data rest k = Mem.ofList d.data (fun _ => 0) k := by
    have inside : k < d.data.length := by omega
    rw [Mem.ofList_of_lt inside, Mem.ofList_of_lt inside]
  have size : IpxPacket.netSize (Mem.ofList d.data rest) 0 =
      IpxPacket.netSize (Mem.ofList d.data fun _ => 0) 0 :=
    be16_congr fun k less => same (0 + 25 + k) (by omega)
  have sock : IpxPacket.srcSocket (Mem.ofList d.data rest) 0 =
      IpxPacket.srcSocket (Mem.ofList d.data fun _ => 0) 0 :=
    congrArg UInt16.ofNat (le_congr fun k less => same (0 + 23 + k) (by omega))
  unfold UdpReceived.Accepted UdpHost.arrival UdpSizeOk at *
  dsimp only at sized named
  rw [size] at sized
  rw [sock] at named
  exact ⟨sized, named⟩

end Steps

/-! ## The invariant -/

/-- The datagram has packet `p` of process `i`. -/
structure UdpNet.Carries (hosts : Nat → UdpHost) (net : UdpNet) (d : UdpDatagram) (i : Nat)
    (p : NetPacket) : Prop where
  flying : d ∈ net.flying
  sent : (i, p) ∈ net.sent
  bytes : d.data = p.outgoing.bytes
  named : p.src.socket ≠ 0
  speaks : (hosts i).Speaks d.src

/-- A datagram from `addr` has a packet with the property `P`. -/
def UdpNet.SentFrom (hosts : Nat → UdpHost) (net : UdpNet) (addr : SockAddrIn)
    (P : NetPacket → Prop) : Prop :=
  ∃ d i p, net.Carries hosts d i p ∧ d.src = addr ∧ P p

/-- What may be a packet is one that was sent, and every address that is cached is one from which
a packet with that source came. -/
structure UdpInv (hosts : Nat → UdpHost) (net : UdpNet) : Prop where
  flying : ∀ d ∈ net.flying, MayBePacket d.data → ∃ i p, net.Carries hosts d i p
  routes : ∀ j, ∀ host ∈ (net.recv j).hostTable,
    net.SentFrom hosts host.addr fun p => p.src.key = host.key
  delivered : ∀ j, ∀ packet ∈ (net.recv j).delivered, ∃ addr,
    net.SentFrom hosts addr fun p => p.outgoing.delivered = packet ∧ (hosts j).Expects p addr

section Invariant

variable {hosts : Nat → UdpHost} {net net' : UdpNet}

theorem UdpNet.Carries.mono {d : UdpDatagram} {i : Nat} {p : NetPacket}
    (carries : net.Carries hosts d i p) (flying : net.flying ⊆ net'.flying)
    (sent : net.sent ⊆ net'.sent) : net'.Carries hosts d i p :=
  ⟨flying carries.flying, sent carries.sent, carries.bytes, carries.named, carries.speaks⟩

/-- What was sent stays on the network. -/
theorem UdpNet.SentFrom.mono {addr : SockAddrIn} {P : NetPacket → Prop}
    (before : net.SentFrom hosts addr P) (flying : net.flying ⊆ net'.flying)
    (sent : net.sent ⊆ net'.sent) : net'.SentFrom hosts addr P := by
  obtain ⟨d, i, p, carries, rest⟩ := before
  exact ⟨d, i, p, carries.mono flying sent, rest⟩

theorem UdpInv.init (hosts : Nat → UdpHost) : UdpInv hosts .init where
  flying := by simp [UdpNet.init]
  routes := by simp [UdpNet.init]
  delivered := by simp [UdpNet.init]

/-- An entry of the address cache is the one that was set, or an old one. -/
theorem mem_addrCacheSet {hostTable : List HostTable} {now : Int} {malloc : Bool}
    {addr : SockAddrIn} {key : HostTableKey} {host : HostTable}
    (member : host ∈ addrCacheSet hostTable now malloc addr key.netnum key.nodenum key.socket) :
    host = ⟨key, now, addr⟩ ∨ host ∈ hostTable := by
  unfold addrCacheSet at member
  dsimp only at member
  split at member
  · obtain ⟨old, old_member, rfl⟩ := List.mem_map.mp member
    split
    · exact Or.inl rfl
    · exact Or.inr old_member
  · split at member
    · rcases List.mem_append.mp member with old | new
      · exact Or.inr old
      · exact Or.inl (List.mem_singleton.mp new)
    · exact Or.inr member

section Grows

variable (inv : UdpInv hosts net) (flying : net.flying ⊆ net'.flying) (sent : net.sent ⊆ net'.sent)

include inv flying sent

/-- What is known of the datagrams, the cached addresses and the delivered packets stays so. -/
theorem UdpInv.flying_mono {d : UdpDatagram} (member : d ∈ net.flying)
    (packet : MayBePacket d.data) : ∃ i p, net'.Carries hosts d i p := by
  obtain ⟨i, p, carries⟩ := inv.flying d member packet
  exact ⟨i, p, carries.mono flying sent⟩

theorem UdpInv.routes_mono {j : Nat} {host : HostTable}
    (member : host ∈ (net.recv j).hostTable) :
    net'.SentFrom hosts host.addr fun p => p.src.key = host.key :=
  (inv.routes j host member).mono flying sent

theorem UdpInv.delivered_mono {j : Nat} {packet : Delivered}
    (member : packet ∈ (net.recv j).delivered) :
    ∃ addr, net'.SentFrom hosts addr fun p =>
      p.outgoing.delivered = packet ∧ (hosts j).Expects p addr := by
  obtain ⟨addr, from_addr⟩ := inv.delivered j packet member
  exact ⟨addr, from_addr.mono flying sent⟩

end Grows

theorem UdpInv.send {i : Nat} {from' : Nat → SockAddrIn} {p : NetPacket} {env : SendEnv}
    (inv : UdpInv hosts net) (sends : netStep hosts (.send i from' p env) net = some net') :
    UdpInv hosts net' := by
  obtain ⟨-, named, speaks, recv, sent, flying⟩ := netStep_send sends
  have flying_grows : net.flying ⊆ net'.flying := by
    rw [flying]
    exact List.subset_append_left _ _
  have sent_grows : net.sent ⊆ net'.sent := by
    rw [sent]
    exact List.subset_append_left _ _
  constructor
  · intro d member packet
    have listed := member
    rw [flying, List.mem_append] at listed
    rcases listed with old | new
    · exact inv.flying_mono flying_grows sent_grows old packet
    · obtain ⟨k, less, rfl⟩ := List.mem_mapIdx.mp new
      refine ⟨i, p, member, ?_, rfl, named, speaks k less⟩
      rw [sent]
      exact List.mem_append_right _ List.mem_cons_self
  · intro j host member
    rw [recv] at member
    exact inv.routes_mono flying_grows sent_grows member
  · intro j packet member
    rw [recv] at member
    exact inv.delivered_mono flying_grows sent_grows member

theorem UdpInv.receive {i n : Nat} {rest : Mem} {now : Int} {malloc : Bool}
    (inv : UdpInv hosts net)
    (receives : netStep hosts (.receive i n rest now malloc) net = some net') :
    UdpInv hosts net' := by
  obtain ⟨d, s', at_n, received, after⟩ := netStep_receive_cases receives
  have flying : net.flying ⊆ net'.flying := by rw [after]; exact List.Subset.refl _
  have sent : net.sent ⊆ net'.sent := by rw [after]; exact List.Subset.refl _
  have sent_from (hears : (hosts i).Hears d rest now malloc) :=
    inv.flying_mono flying sent (List.mem_of_getElem? at_n) hears.mayBePacket
  constructor
  · intro d' member packet
    rw [after] at member
    exact inv.flying_mono flying sent member packet
  · intro j host member
    rw [after] at member
    dsimp only at member
    by_cases same : j = i
    · subst same
      rw [Function.update_self, received.hostTable] at member
      split at member
      case isTrue hears =>
        rcases mem_addrCacheSet member with rfl | old
        · obtain ⟨k, p, carries⟩ := sent_from hears
          exact ⟨d, k, p, carries, rfl, (NetPacket.source carries.bytes _).symm⟩
        · exact inv.routes_mono flying sent old
      case isFalse => exact inv.routes_mono flying sent member
    · rw [Function.update_of_ne same] at member
      exact inv.routes_mono flying sent member
  · intro j packet member
    rw [after] at member
    dsimp only at member
    by_cases same : j = i
    · subst same
      rw [Function.update_self, received.delivered, List.mem_append] at member
      rcases member with old | new
      · exact inv.delivered_mono flying sent old
      · split at new
        case isTrue hears =>
          obtain ⟨k, p, carries⟩ := sent_from hears
          rw [List.mem_singleton, NetPacket.delivered carries.bytes] at new
          exact ⟨d.src, d, k, p, carries, rfl, new.symm,
            ((hosts j).hears_iff carries.bytes carries.named).mp hears⟩
        case isFalse => cases new
    · rw [Function.update_of_ne same] at member
      exact inv.delivered_mono flying sent member

theorem UdpInv.stray {d : UdpDatagram} (inv : UdpInv hosts net)
    (sends : netStep hosts (.stray d) net = some net') : UdpInv hosts net' := by
  simp only [netStep] at sends
  split at sends
  · cases sends
  case isFalse harmless =>
    have after := Option.some.inj sends
    have flying : net.flying ⊆ net'.flying := by
      rw [← after]
      exact List.subset_append_left _ _
    have sent : net.sent ⊆ net'.sent := by rw [← after]; exact List.Subset.refl _
    constructor
    · intro d' member packet
      rw [← after, List.mem_append] at member
      rcases member with old | new
      · exact inv.flying_mono flying sent old packet
      · rw [List.mem_singleton.mp new] at packet
        exact absurd packet harmless
    · intro j host member
      rw [← after] at member
      exact inv.routes_mono flying sent member
    · intro j packet member
      rw [← after] at member
      exact inv.delivered_mono flying sent member

theorem UdpInv.step {event : NetEvent} (inv : UdpInv hosts net)
    (enabled : netStep hosts event net = some net') : UdpInv hosts net' := by
  cases event with
  | send i from' p env => exact inv.send enabled
  | receive i n rest now malloc => exact inv.receive enabled
  | stray d => exact inv.stray enabled

end Invariant

/-! ## What is promised -/

/-- A packet goes to where a packet from its destination came from, or to the broadcast addresses of
the interface that it is from; and what is delivered was sent, by another process, to an address of
this one or to all of them. -/
structure Authentic (hosts : Nat → UdpHost) (net : UdpNet) : Prop where
  targets : ∀ j env p, ∀ target ∈ (net.sendEnv hosts j env).targets p,
    net.SentFrom hosts target (fun q => q.src.key = ⟨p.destNet, p.destNode, p.destSocket⟩) ∨
      ∃ iface ∈ (hosts j).cache.ifaces, iface.ipxNet = p.srcNet ∧ iface.ipxNode = p.srcNode ∧
        ∃ ip ∈ iface.ipaddr, target = bcastAddr env ip
  delivered : ∀ j, ∀ packet ∈ (net.recv j).delivered, ∃ addr,
    net.SentFrom hosts addr fun q => q.outgoing.delivered = packet ∧ (hosts j).Expects q addr

section Promises

variable {hosts : Nat → UdpHost} {net : UdpNet}

theorem mem_of_ipxInterfaceByAddr {cache : InterfaceCache} {netnum : Addr32} {nodenum : Addr48}
    {iface : IpxInterface} (found : ipxInterfaceByAddr cache netnum nodenum = some iface) :
    iface ∈ cache.ifaces ∧ iface.ipxNet = netnum ∧ iface.ipxNode = nodenum := by
  obtain ⟨entry, at_entry, copied⟩ := Option.bind_eq_some_iff.mp found
  have same : entry = iface := by
    unfold copyIpxInterface at copied
    split at copied
    · exact Option.some.inj copied
    · cases copied
  subst same
  exact ⟨List.mem_of_find?_eq_some at_entry, by simpa using List.find?_some at_entry⟩

theorem UdpInv.authentic (inv : UdpInv hosts net) : Authentic hosts net where
  targets := fun j env p target member => by
    unfold SendEnv.targets UdpNet.sendEnv at member
    dsimp only at member
    split at member
    · cases member
    · split at member
      case h_1 addr cached =>
        obtain rfl := List.mem_singleton.mp member
        left
        unfold addrCacheGet at cached
        split at cached
        case h_1 host found =>
          split at cached
          · obtain rfl := Option.some.inj cached
            have known := inv.routes j host (List.mem_of_find?_eq_some found)
            rwa [show host.key = _ by simpa using List.find?_some found] at known
          · cases cached
        case h_2 => cases cached
      case h_2 =>
        split at member
        case h_1 => cases member
        case h_2 iface found =>
          right
          obtain ⟨listed, netnum, nodenum⟩ := mem_of_ipxInterfaceByAddr found
          obtain ⟨ip, ip_member, rfl⟩ := List.mem_map.mp member
          exact ⟨iface, listed, netnum, nodenum, ip, ip_member, rfl⟩
  delivered := inv.delivered

end Promises

/-- A host with one adapter, in 192.168.0.0/24. -/
def lanHost (node : Addr48) (ipaddr : UInt32) (privatePort : UInt16) : UdpHost where
  host :=
    { adapters := [⟨6, node, ⟨ipaddr, 0x00FFFFFF⟩, []⟩]
      listed := true
      config := fun hwaddr => ⟨1, hwaddr, hwaddr = node⟩
      primary := node
      forwardTable := some []
      malloc := true }
  copies := true
  privatePort := privatePort

/-- Two of them. -/
def lanHosts (i : Nat) : UdpHost :=
  if i = 0 then lanHost 0x010000000000 0x0100A8C0 0x1111
  else lanHost 0x020000000000 0x0200A8C0 0x2222

theorem firstNode_six : (0x010000000000 : Addr48).toNat % 65536 = 0 := by decide

theorem secondNode_six : (0x020000000000 : Addr48).toNat % 65536 = 0 := by decide

theorem bcastNode_six : bcastNode.toNat % 65536 = 0 := by decide

theorem oneByte_small (b : Byte) : [b].length ≤ maxDataSize := by
  rw [List.length_singleton]
  decide

/-- A broadcast of the first. -/
def question : NetPacket where
  type := 4
  src := ⟨1, 0x010000000000, 0x0040, firstNode_six⟩
  dst := ⟨1, bcastNode, 0x0040, bcastNode_six⟩
  payload := [1]
  small := oneByte_small 1

/-- Where the datagrams of the first come from. -/
def questionFrom : SockAddrIn := ⟨AF_INET, 0x0100A8C0, 0x1111⟩

/-- The first asks. -/
def questionSend : NetEvent := .send 0 (fun _ => questionFrom) question wholeSend

/-- It leaves for the broadcast address of its network. -/
def questionOut : UdpDatagram :=
  ⟨questionFrom, ⟨AF_INET, 0xFF00A8C0, htons 54792⟩, question.outgoing.bytes⟩

theorem question_targets :
    (UdpNet.init.sendEnv lanHosts 0 wholeSend).targets question.outgoing = [questionOut.dst] := by
  decide

/-- The second receives it. -/
def questionReceive : NetEvent := .receive 1 0 (fun _ => 0) 0 true

/-- Process `j` accepts a packet from `key`. -/
def HearsFrom (hosts : Nat → UdpHost) (j : Nat) (key : HostTableKey) (m : Move NetEvent UdpNet) :
    Prop :=
  ∃ n rest now malloc d, m.input = .receive j n rest now malloc ∧ m.before.flying[n]? = some d ∧
    (hosts j).Hears d rest now malloc ∧ ((hosts j).arrival d rest now malloc).source = key

/-- The address cache of process `j` leads from `key` to `addr`. -/
def Knows (net : UdpNet) (j : Nat) (key : HostTableKey) (time : Int) (addr : SockAddrIn) : Prop :=
  hostTableFind (net.recv j).hostTable key = some ⟨key, time, addr⟩

theorem addrCacheGet_of_find {hostTable : List HostTable} {now : Int} {net : Addr32} {node : Addr48}
    {sock : UInt16} {host : HostTable} (found : hostTableFind hostTable ⟨net, node, sock⟩ = some host)
    (fresh : now < host.time + addrCacheTtl) :
    addrCacheGet hostTable now net node sock = some host.addr := by
  unfold hostTableFind at found
  unfold addrCacheGet
  rw [found]
  exact if_pos fresh

section Replies

variable {hosts : Nat → UdpHost} {net net' : UdpNet} {j n : Nat} {key : HostTableKey} {time : Int}
  {addr : SockAddrIn} {d : UdpDatagram} {p q : NetPacket} {rest : Mem} {m : Move NetEvent UdpNet}
  {from' : Nat → SockAddrIn} {env : SendEnv}

/-- The packet that was last accepted is where the cache leads. -/
theorem Knows.of_received (at_n : net.flying[n]? = some d) (packet : d.data = p.outgoing.bytes)
    (named : p.src.socket ≠ 0) (expected : (hosts j).Expects p d.src)
    (receives : netStep hosts (.receive j n rest time true) net = some net') :
    Knows net' j p.src.key time d.src := by
  obtain ⟨d', s', at_n', received, rfl⟩ := netStep_receive_cases receives
  obtain rfl := Option.some.inj (at_n.symm.trans at_n')
  have hears : (hosts j).Hears d rest time true := ((hosts j).hears_iff packet named).mpr expected
  unfold Knows
  dsimp only
  rw [Function.update_self, received.hostTable, if_pos hears, NetPacket.source packet,
    hostTableFind_addrCacheSet]
  exact if_pos ⟨rfl, Or.inr rfl⟩

/-- It leads there until another is accepted. -/
theorem Knows.step (knows : Knows m.before j key time addr)
    (enabled : netStep hosts m.input m.before = some m.after) (other : ¬ HearsFrom hosts j key m) :
    Knows m.after j key time addr := by
  unfold Knows at knows ⊢
  cases input : m.input with
  | send i from' p env =>
      rw [input] at enabled
      obtain ⟨-, -, -, recv, -⟩ := netStep_send enabled
      rw [recv, knows]
  | receive i n rest now malloc =>
      rw [input] at enabled
      obtain ⟨d, s', at_n, received, after⟩ := netStep_receive_cases enabled
      rw [after]
      dsimp only
      by_cases same : j = i
      · subst same
        rw [Function.update_self, received.hostTable]
        split
        case isTrue hears =>
          rw [hostTableFind_addrCacheSet, if_neg]
          · exact knows
          · intro both
            exact other ⟨n, rest, now, malloc, d, input, at_n, hears, both.1.symm⟩
        case isFalse => exact knows
      · rw [Function.update_of_ne same, knows]
  | stray d =>
      rw [input] at enabled
      simp only [netStep] at enabled
      split at enabled
      · cases enabled
      · rw [← Option.some.inj enabled, knows]

/-- A packet goes where the cache leads, while it does. -/
theorem Knows.targets (knows : Knows net j q.dst.key time addr) (memory : env.malloc = true)
    (soon : env.now < time + addrCacheTtl) :
    (net.sendEnv hosts j env).targets q.outgoing = [addr] := by
  have cached : addrCacheGet (net.recv j).hostTable env.now q.outgoing.destNet q.outgoing.destNode
      q.outgoing.destSocket = some addr := by
    exact addrCacheGet_of_find knows soon
  unfold SendEnv.targets UdpNet.sendEnv
  simp only [memory, cached]
  rfl

end Replies

/-- Within 30 seconds after a packet was accepted, a packet to its source is sent to where it came
from and nowhere else, unless another from there was accepted since. There it is delivered, where it
is expected. -/
theorem reply_returns (hosts : Nat → UdpHost) {net net₁ : UdpNet} {j n : Nat} {rest : Mem}
    {time : Int} {d : UdpDatagram} {p q : NetPacket} {m : Move NetEvent UdpNet} {k : Nat}
    {from' : Nat → SockAddrIn} {env : SendEnv} (at_n : net.flying[n]? = some d)
    (packet : d.data = p.outgoing.bytes) (named : p.src.socket ≠ 0)
    (expected : (hosts j).Expects p d.src)
    (receives : netStep hosts (.receive j n rest time true) net = some net₁)
    (events : List NetEvent) (at_k : (moves (netStep hosts) events net₁)[k]? = some m)
    (quiet : ∀ m' ∈ (moves (netStep hosts) events net₁).take k, ¬ HearsFrom hosts j p.src.key m')
    (replies : m.input = .send j from' q env) (back : q.dst.key = p.src.key)
    (memory : env.malloc = true) (soon : env.now < time + addrCacheTtl) :
    m.after.flying = m.before.flying ++ [⟨from' 0, d.src, q.outgoing.bytes⟩] ∧
      ∀ i n' rest' now malloc net₂, net₂.flying[n']? = some ⟨from' 0, d.src, q.outgoing.bytes⟩ →
        (hosts i).Expects q (from' 0) →
          ∃ net₃, netStep hosts (.receive i n' rest' now malloc) net₂ = some net₃ ∧
            (net₃.recv i).delivered = (net₂.recv i).delivered ++ [q.outgoing.delivered] := by
  have knows : Knows m.before j p.src.key time d.src := by
    have history := moves_history (I := fun past net =>
        (∀ m' ∈ past, ¬ HearsFrom hosts j p.src.key m') → Knows net j p.src.key time d.src)
      (fun _ => Knows.of_received at_n packet named expected receives) ?_ at_k
    · exact history quiet
    · intro past m ih enabled others
      rw [List.forall_mem_append] at others
      exact (ih others.1).step enabled (others.2 m (List.mem_singleton.mpr rfl))
  rw [← back] at knows
  have sends := step_of_mem_moves (List.mem_of_getElem? at_k)
  rw [replies] at sends
  obtain ⟨-, named', speaks, -, -, flying⟩ := netStep_send sends
  rw [knows.targets memory soon] at speaks flying
  refine ⟨flying, fun i n' rest' now malloc net₂ at_n' awaited => ?_⟩
  have inet : (from' 0).family = AF_INET := (speaks 0 Nat.zero_lt_one).1
  have small : q.outgoing.bytes.length ≤ maxPktSize :=
    (packetBetween_survivesUdp q.small named').fits
  obtain ⟨s', received, stepped⟩ := netStep_receive i rest' now malloc at_n' small inet
  have hears : (hosts i).Hears ⟨from' 0, d.src, q.outgoing.bytes⟩ rest' now malloc :=
    ((hosts i).hears_iff rfl named').mpr awaited
  refine ⟨_, stepped, ?_⟩
  dsimp only
  rw [Function.update_self, received.delivered, if_pos hears, NetPacket.delivered rfl]

/-- What the second sends for it. -/
def answer : NetPacket where
  type := 4
  src := ⟨1, 0x020000000000, 0x0040, secondNode_six⟩
  dst := ⟨1, 0x010000000000, 0x0040, firstNode_six⟩
  payload := [2]
  small := oneByte_small 2

/-- The broadcast is on the network. -/
def questionNet : UdpNet :=
  { UdpNet.init with
    flying := [⟨⟨AF_INET, 0x0100A8C0, 0x1111⟩, ⟨AF_INET, 0xFF00A8C0, 0x0806⟩, question.outgoing.bytes⟩] }

/-- Where the datagrams of the second come from. -/
def answerFrom : SockAddrIn := ⟨AF_INET, 0x0200A8C0, 0x2222⟩

/-- The second answers. -/
def answerSend : NetEvent := .send 1 (fun _ => answerFrom) answer wholeSend

/-- The answer goes to the first, and is delivered there. -/
theorem answer_returns : ∃ net₁ net₂ net₃,
    netStep lanHosts (.receive 1 0 (fun _ => 0) 0 true) questionNet = some net₁ ∧
      netStep lanHosts answerSend net₁ = some net₂ ∧
      netStep lanHosts (.receive 0 1 (fun _ => 0) 1 true) net₂ = some net₃ ∧
      (net₃.recv 0).delivered = (net₂.recv 0).delivered ++ [answer.outgoing.delivered] := by
  have at_n : questionNet.flying[0]? = some ⟨_, _, question.outgoing.bytes⟩ := rfl
  obtain ⟨net₁, receives⟩ : ∃ net₁,
      netStep lanHosts (.receive 1 0 (fun _ => 0) 0 true) questionNet = some net₁ := ⟨_, rfl⟩
  have speaks : (lanHosts 1).Speaks answerFrom := by decide
  obtain ⟨net₂, sends⟩ : ∃ net₂, netStep lanHosts answerSend net₁ = some net₂ :=
    exists_netStep_send (by decide) (by decide) fun _ => speaks
  have at_k : (moves (netStep lanHosts) [answerSend] net₁)[0]? =
      some ⟨net₁, answerSend, net₂⟩ := by
    rw [moves_cons_of_some sends]
    rfl
  obtain ⟨flying, arrives⟩ := reply_returns lanHosts at_n rfl (by decide) (by decide) receives
    [answerSend] at_k (by simp) rfl rfl rfl (by decide)
  have same : net₁.flying = questionNet.flying := by
    rw [← Option.some.inj receives]
  rw [same] at flying
  have at_one : net₂.flying[1]? = some _ := congrArg (·[1]?) flying
  obtain ⟨net₃, returns, delivered⟩ := arrives 0 1 (fun _ => 0) 1 true net₂ at_one (by decide)
  exact ⟨net₁, net₂, net₃, receives, sends, returns, delivered⟩

end IpxWrapper
