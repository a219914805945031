import IpxWrapper.SendPacketReports
import IpxWrapper.UdpRecv

/-!
# Where broadcasts go (`winsock.c`, `router.c`)

`ipx_send_packet` looks every destination up in the address cache, broadcast or not,
and `_handle_udp_recv` enters every source it is told, broadcast or not. This module
says what the cache holds after any history of datagrams (`hostTableFind_after`) and
when a broadcast is sent to a single host for it (`ipxSendPacket_broadcasts_iff`).
-/

namespace IpxWrapper

open Base

/-- A call of `_handle_udp_recv`: the datagram, and what the call finds but for the address
cache. -/
structure UdpReceived where
  buf : Mem
  packetSize : Nat
  srcIp : SockAddrIn
  cache : InterfaceCache
  now : Int
  malloc : Bool

namespace UdpReceived

variable (r : UdpReceived)

def env (hostTable : List HostTable) : UdpEnv := ⟨r.cache, hostTable, r.now, r.malloc⟩

/-- The IPX address that the packet says it is from. -/
def source : HostTableKey :=
  ⟨IpxPacket.srcNet r.buf 0, IpxPacket.srcNode r.buf 0, IpxPacket.srcSocket r.buf 0⟩

/-- The packet is well formed, no lookup, and from a subnet where it may come from. -/
def Accepted : Prop :=
  UdpSizeOk r.buf r.packetSize ∧ IpxPacket.srcSocket r.buf 0 ≠ 0 ∧
    sourceOk r.cache (IpxPacket.destNet r.buf 0) (IpxPacket.destNode r.buf 0) r.srcIp.addr = true

instance : Decidable r.Accepted := inferInstanceAs (Decidable (_ ∧ _ ∧ _))

theorem handleUdpRecv_of_accepted (hostTable : List HostTable) (accepted : r.Accepted) :
    handleUdpRecv (r.env hostTable) r.buf r.packetSize r.srcIp =
      (.deliver (udpDeliverCall r.buf),
        addrCacheSet hostTable r.now r.malloc r.srcIp r.source.netnum r.source.nodenum
          r.source.socket) := by
  obtain ⟨sized, named, expected⟩ := accepted
  unfold handleUdpRecv
  rw [if_neg (not_not_intro sized), if_neg named]
  exact if_neg (not_not_intro expected)

/-- A packet that is not accepted may still be a lookup. -/
theorem handleUdpRecv_of_not_accepted (hostTable : List HostTable) (refused : ¬ r.Accepted) :
    ∃ outcome, (∀ call, outcome ≠ .deliver call) ∧
      handleUdpRecv (r.env hostTable) r.buf r.packetSize r.srcIp = (outcome, hostTable) := by
  unfold handleUdpRecv
  split
  · exact ⟨.dropped, fun _ => UdpOutcome.noConfusion, rfl⟩
  case isFalse sized =>
    split
    · split
      · split
        · exact ⟨.dropped, fun _ => UdpOutcome.noConfusion, rfl⟩
        · exact ⟨.lookup _, fun _ => UdpOutcome.noConfusion, rfl⟩
      · exact ⟨.dropped, fun _ => UdpOutcome.noConfusion, rfl⟩
    case isFalse named =>
      split
      · exact ⟨.dropped, fun _ => UdpOutcome.noConfusion, rfl⟩
      case isFalse expected =>
        exact absurd ⟨not_not.mp sized, named, not_not.mp expected⟩ refused

/-- `_handle_udp_recv` enters the source of each packet that it accepts. -/
theorem handleUdpRecv_hostTable (hostTable : List HostTable) :
    (handleUdpRecv (r.env hostTable) r.buf r.packetSize r.srcIp).2 =
      if r.Accepted then
        addrCacheSet hostTable r.now r.malloc r.srcIp r.source.netnum r.source.nodenum
          r.source.socket
      else hostTable := by
  by_cases accepted : r.Accepted
  · rw [if_pos accepted, r.handleUdpRecv_of_accepted hostTable accepted]
  · obtain ⟨outcome, -, same⟩ := r.handleUdpRecv_of_not_accepted hostTable accepted
    rw [if_neg accepted, same]

end UdpReceived

/-! ## Histories -/

/-- The address cache after a history of datagrams. -/
def hostTableAfter (history : List UdpReceived) : List HostTable :=
  history.foldl (fun hostTable r =>
    (handleUdpRecv (r.env hostTable) r.buf r.packetSize r.srcIp).2) []

/-- The datagram by which an IPX address was last entered. -/
def lastFrom (key : HostTableKey) (history : List UdpReceived) : Option UdpReceived :=
  history.foldl (fun last r =>
    if r.Accepted ∧ r.source = key ∧ (last.isSome ∨ r.malloc) then some r else last) none

theorem hostTableFind_after (key : HostTableKey) (history : List UdpReceived) :
    hostTableFind (hostTableAfter history) key =
      (lastFrom key history).map fun r => ⟨key, r.now, r.srcIp⟩ := by
  induction history using List.reverseRecOn with
  | nil => rfl
  | append_singleton history r ih =>
      unfold hostTableAfter lastFrom at ih ⊢
      rw [List.foldl_append, List.foldl_append]
      dsimp only [List.foldl_cons, List.foldl_nil]
      rw [r.handleUdpRecv_hostTable]
      by_cases accepted : r.Accepted
      · rw [if_pos accepted, hostTableFind_addrCacheSet, ih, Option.isSome_map]
        by_cases own : r.source = key ∧ ((lastFrom key history).isSome ∨ r.malloc)
        · obtain ⟨named, memory⟩ := own
          unfold lastFrom at memory
          rw [if_pos ⟨named.symm, memory⟩, if_pos ⟨accepted, named, memory⟩]
          rfl
        · unfold lastFrom at own
          rw [if_neg fun both => own ⟨both.1.symm, both.2⟩, if_neg fun all => own all.2]
      · rw [if_neg accepted, if_neg fun all => accepted all.1, ih]

theorem addrCacheGet_after (history : List UdpReceived) (now : Int) (net : Addr32) (node : Addr48)
    (sock : UInt16) : addrCacheGet (hostTableAfter history) now net node sock =
      (lastFrom ⟨net, node, sock⟩ history).bind fun r =>
        if now < r.now + addrCacheTtl then some r.srcIp else none := by
  have found := hostTableFind_after ⟨net, node, sock⟩ history
  unfold hostTableFind at found
  unfold addrCacheGet
  rw [found]
  cases lastFrom ⟨net, node, sock⟩ history <;> rfl

/-! ## Broadcasts -/

/-- The packet is sent to the broadcast address of each IP of the interface. -/
def SentToAll (env : SendEnv) (p : OutgoingPacket) (iface : IpxInterface) (s s' : SendState) :
    Prop :=
  s'.attempts = s.attempts ++ (iface.ipaddr.map (bcastAddr env)).map fun addr => (addr, p.bytes)

/-- After any history of datagrams, a packet to a broadcast node from an interface with IP addresses
is sent to all of them exactly if no datagram of the last 30 seconds has said that it came from the
packet's destination. (Or it came from where the broadcast goes, the only address of the interface.) -/
theorem ipxSendPacket_broadcasts_iff (history : List UdpReceived) (env : SendEnv)
    (p : OutgoingPacket) (s : SendState) (iface : IpxInterface) (bcast : p.destNode = bcastNode)
    (found : ipxInterfaceByAddr env.cache p.srcNet p.srcNode = some iface)
    (addressed : iface.ipaddr ≠ []) :
    SentToAll env p iface s
        (ipxSendPacket { env with hostTable := hostTableAfter history } p s).2 ↔
      env.malloc = true ∧ ∀ r ∈ lastFrom ⟨p.destNet, bcastNode, p.destSocket⟩ history,
        env.now < r.now + addrCacheTtl → iface.ipaddr.map (bcastAddr env) = [r.srcIp] := by
  have paired : Function.Injective fun addr : SockAddrIn => (addr, p.bytes) :=
    fun _ _ same => congrArg Prod.fst same
  unfold SentToAll
  rw [ipxSendPacket_attempts, List.append_cancel_left_eq, (List.map_injective_iff.mpr paired).eq_iff]
  unfold SendEnv.targets
  dsimp only
  rw [addrCacheGet_after, bcast, found]
  cases memory : env.malloc with
  | false =>
      rw [if_pos (by simp)]
      refine iff_of_false (fun same => addressed ?_) fun both => by cases both.1
      exact List.map_eq_nil_iff.mp same.symm
  | true =>
      rw [if_neg (by simp)]
      cases last : lastFrom ⟨p.destNet, bcastNode, p.destSocket⟩ history with
      | none => exact iff_of_true rfl ⟨rfl, fun r none => by cases none⟩
      | some r =>
          rw [Option.bind_some]
          by_cases live : env.now < r.now + addrCacheTtl
          · rw [if_pos live]
            constructor
            · intro same
              refine ⟨rfl, fun r' known _ => ?_⟩
              obtain rfl := Option.some.inj known
              exact same.symm
            · exact fun both => (both.2 r rfl live).symm
          · rw [if_neg live]
            refine iff_of_true rfl ⟨rfl, fun r' known live' => ?_⟩
            obtain rfl := Option.some.inj known
            exact absurd live' live

/-- The interface that `failingSend` finds. -/
def localInterface : IpxInterface := ⟨1, 0x010000000000, [⟨0x0100007F, 0x000000FF, 0xFFFFFF7F⟩]⟩

/-- A broadcast that another host has sent, with the destination of `emptyPacket` as its source. -/
def forgedBroadcast (now : Int) : UdpReceived where
  buf := Mem.ofList (IpxPacket.bytes 0 1 bcastNode 0x0050 1 bcastNode 0x0050 (be16Bytes 0) [])
    fun _ => 0
  packetSize := IpxPacket.headerSize
  srcIp := ⟨AF_INET, 0x0200007F, 0x0806⟩
  cache := ⟨[localInterface], true⟩
  now := now
  malloc := true

/-- After 30 seconds it is forgotten. -/
theorem forgottenBroadcast_broadcasts :
    SentToAll failingSend emptyPacket localInterface ⟨[], [], 0, 0, 0, 0⟩
      (ipxSendPacket { failingSend with hostTable := hostTableAfter [forgedBroadcast (-30)] }
        emptyPacket ⟨[], [], 0, 0, 0, 0⟩).2 := by
  refine (ipxSendPacket_broadcasts_iff [forgedBroadcast (-30)] failingSend emptyPacket _
    localInterface rfl (by decide) (List.cons_ne_nil _ _)).mpr ⟨rfl, fun r last live => ?_⟩
  have accepted : (forgedBroadcast (-30)).Accepted := by decide
  have named : (forgedBroadcast (-30)).source = ⟨1, bcastNode, 0x0050⟩ := by decide
  have entered : lastFrom ⟨1, bcastNode, 0x0050⟩ [forgedBroadcast (-30)] =
      some (forgedBroadcast (-30)) := by
    rw [lastFrom, List.foldl_cons, List.foldl_nil]
    exact if_pos ⟨accepted, named, Or.inr rfl⟩
  obtain rfl := Option.some.inj (entered.symm.trans last)
  exact absurd live (by decide)

/-- Until then a broadcast to that socket goes to the host that it came from, and nowhere else. -/
theorem forgedBroadcast_not_broadcasts :
    ¬ SentToAll failingSend emptyPacket localInterface ⟨[], [], 0, 0, 0, 0⟩
      (ipxSendPacket { failingSend with hostTable := hostTableAfter [forgedBroadcast 0] }
        emptyPacket ⟨[], [], 0, 0, 0, 0⟩).2 := by
  unfold SentToAll
  decide

end IpxWrapper
