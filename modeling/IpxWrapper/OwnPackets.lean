import IpxWrapper.Adapters
import IpxWrapper.Broadcasts
import IpxWrapper.Router

/-!
# A packet that comes back (`router.c`, `interface.c`)

`ipx_send_packet` gives what it sends to the sockets of this host itself, so a
datagram that the network hands back has to be dropped. `_do_udp_recv` drops what
comes from the private port of this process and an address of its interfaces. This
module says when that is every datagram of its own (`receiveAll_once_iff`).
-/

namespace IpxWrapper

open Base

/-- `LOOPBACK_NET`. -/
def loopbackNet : UInt32 := 0x0000007F

/-- `LOOPBACK_MASK`. -/
def loopbackMask : UInt32 := 0x000000FF

/-- An address of the loopback network. -/
def IsLoopback (ipaddr : UInt32) : Prop := ipaddr &&& loopbackMask = loopbackNet

instance (ipaddr : UInt32) : Decidable (IsLoopback ipaddr) := inferInstanceAs (Decidable (_ = _))

/-- `ipv4_address_is_local`. -/
def ipv4AddressIsLocal (cache : InterfaceCache) (ipaddr : UInt32) : Bool :=
  if IsLoopback ipaddr then true
  else cache.ifaces.any fun iface => iface.ipaddr.any fun ip => ip.ipaddr = ipaddr

/-- What `_do_udp_recv` finds in every call. -/
structure UdpHost where
  /-- Where the interfaces in the cache are from. -/
  host : HostEnv
  /-- There is memory for copies of the interfaces. -/
  copies : Bool
  /-- `private_port`. -/
  privatePort : UInt16

def UdpHost.cache (h : UdpHost) : InterfaceCache := ⟨loadIpxInterfaces h.host, h.copies⟩

/-- What it finds in one call: the outcome of `recvfrom`, the time, and whether there is memory
for an entry of the address cache. -/
structure UdpRecvCall where
  result : Recvfrom
  now : Int
  malloc : Bool

/-- The call of `_handle_udp_recv` for a datagram. -/
def UdpHost.received (h : UdpHost) (call : UdpRecvCall) (d : Datagram) : UdpReceived :=
  ⟨d.buf, d.len, d.addr, h.cache, call.now, call.malloc⟩

/-- What receiving changes. -/
structure UdpState where
  hostTable : List HostTable
  recvPacketsUdp : UInt32
  recvBytesUdp : UInt32
  /-- The lookups that are answered, with the address each is from. -/
  lookups : List (SpxlookupReq × SockAddrIn)
  /-- The packets given to `deliver_packet`. -/
  delivered : List Delivered

/-- What `_handle_udp_recv` does with a datagram. -/
def UdpHost.handle (h : UdpHost) (call : UdpRecvCall) (d : Datagram) (s : UdpState) : UdpState :=
  match handleUdpRecv ((h.received call d).env s.hostTable) d.buf d.len d.addr with
  | (.dropped, hostTable) => { s with hostTable := hostTable }
  | (.lookup req, hostTable) =>
      { s with hostTable := hostTable, lookups := s.lookups ++ [(req, d.addr)] }
  | (.deliver deliverCall, hostTable) =>
      { s with
        hostTable := hostTable
        delivered := s.delivered ++ [deliverCall.delivered d.buf] }

/-- The statistics of `_do_udp_recv`. -/
def UdpState.count (d : Datagram) (s : UdpState) : UdpState :=
  { s with
    recvPacketsUdp := s.recvPacketsUdp + 1
    recvBytesUdp := s.recvBytesUdp + UInt32.ofNat d.len }

/-- `_do_udp_recv` with IPXWrapper encapsulation. -/
def UdpHost.doUdpRecv (h : UdpHost) (call : UdpRecvCall) (s : UdpState) : Int × UdpState :=
  match call.result with
  | .failed error =>
      if error = WSAEWOULDBLOCK then (0, s)
      else if error = WSAECONNRESET then (1, s)
      else (-1, s)
  | .received d =>
      let s := s.count d
      if d.addr.port ≠ h.privatePort ∨ ¬ ipv4AddressIsLocal h.cache d.addr.addr then
        (1, h.handle call d s)
      else
        (1, s)

/-- One call after the other. -/
def UdpHost.receiveAll (h : UdpHost) (calls : List UdpRecvCall) (s : UdpState) : UdpState :=
  calls.foldl (fun s call => (h.doUdpRecv call s).2) s

/-! ## What is delivered -/

/-- The datagram is from the private socket of this process: it has its port, and an IP address
of the host. -/
def UdpHost.Own (h : UdpHost) (d : Datagram) : Prop :=
  d.addr.port = h.privatePort ∧
    (IsLoopback d.addr.addr ∨ ∃ a ∈ h.host.adapters, a.HasAddress d.addr.addr)

/-- The packet that `_handle_udp_recv` delivers, if it is given the datagram. -/
def UdpHost.delivers (h : UdpHost) (call : UdpRecvCall) (d : Datagram) : Option Delivered :=
  if (h.received call d).Accepted then some ((udpDeliverCall d.buf).delivered d.buf) else none

instance (a : AdapterInfo) (ipaddr : UInt32) : Decidable (a.HasAddress ipaddr) :=
  inferInstanceAs (Decidable (_ ∧ _))

instance (h : UdpHost) (d : Datagram) : Decidable (h.Own d) := inferInstanceAs (Decidable (_ ∧ _))

/-- What is to be delivered for a call: the packet of a datagram that is not its own. -/
def UdpHost.foreign (h : UdpHost) (call : UdpRecvCall) : Option Delivered :=
  match call.result with
  | .failed _ => none
  | .received d => if h.Own d then none else h.delivers call d

/-- What is delivered. -/
def UdpHost.kept (h : UdpHost) (call : UdpRecvCall) : Option Delivered :=
  match call.result with
  | .failed _ => none
  | .received d =>
      if d.addr.port ≠ h.privatePort ∨ ¬ ipv4AddressIsLocal h.cache d.addr.addr then
        h.delivers call d
      else none

variable {h : UdpHost} {call : UdpRecvCall} {d : Datagram} {s : UdpState} {ipaddr : UInt32}

theorem UdpHost.handle_delivered :
    (h.handle call d s).delivered = s.delivered ++ (h.delivers call d).toList := by
  unfold UdpHost.handle UdpHost.delivers
  by_cases accepted : (h.received call d).Accepted
  · have handled : handleUdpRecv ((h.received call d).env s.hostTable) d.buf d.len d.addr = _ :=
      (h.received call d).handleUdpRecv_of_accepted s.hostTable accepted
    rw [handled, if_pos accepted]
    rfl
  · obtain ⟨outcome, undelivered, handled⟩ :=
      (h.received call d).handleUdpRecv_of_not_accepted s.hostTable accepted
    have none : handleUdpRecv ((h.received call d).env s.hostTable) d.buf d.len d.addr = _ := handled
    rw [none, if_neg accepted]
    cases outcome with
    | dropped => exact (List.append_nil _).symm
    | lookup req => exact (List.append_nil _).symm
    | deliver deliverCall => exact absurd rfl (undelivered deliverCall)

theorem UdpHost.doUdpRecv_delivered :
    (h.doUdpRecv call s).2.delivered = s.delivered ++ (h.kept call).toList := by
  unfold UdpHost.doUdpRecv UdpHost.kept
  cases call.result with
  | failed error =>
      dsimp only
      split_ifs <;> exact (List.append_nil _).symm
  | received d =>
      dsimp only
      split
      · exact UdpHost.handle_delivered
      · exact (List.append_nil _).symm

theorem UdpHost.receiveAll_delivered (calls : List UdpRecvCall) :
    (h.receiveAll calls s).delivered = s.delivered ++ calls.filterMap h.kept := by
  induction calls generalizing s with
  | nil => exact (List.append_nil _).symm
  | cons call rest ih =>
      unfold UdpHost.receiveAll at ih ⊢
      rw [List.foldl_cons, ih, UdpHost.doUdpRecv_delivered, List.append_assoc, List.filterMap_cons]
      cases h.kept call <;> rfl

/-! ## When everything is delivered once -/

theorem length_filterMap_le_of_le {α β : Type} {xs : List α} {f g : α → Option β}
    (le : ∀ x ∈ xs, f x = none ∨ f x = g x) :
    (xs.filterMap f).length ≤ (xs.filterMap g).length := by
  induction xs with
  | nil => exact Nat.le_refl 0
  | cons x rest ih =>
      have rests := ih fun y member => le y (List.mem_cons_of_mem x member)
      rw [List.filterMap_cons, List.filterMap_cons]
      rcases le x List.mem_cons_self with empty | same
      · rw [empty]
        cases g x with
        | none => exact rests
        | some b => exact Nat.le_succ_of_le rests
      · rw [same]
        cases g x with
        | none => exact rests
        | some b => exact Nat.succ_le_succ rests

/-- A selection that gives less gives another list. -/
theorem filterMap_eq_iff_of_le {α β : Type} {xs : List α} {f g : α → Option β}
    (le : ∀ x ∈ xs, f x = none ∨ f x = g x) :
    xs.filterMap g = xs.filterMap f ↔ ∀ x ∈ xs, g x = f x := by
  induction xs with
  | nil => exact iff_of_true rfl fun x member => by cases member
  | cons x rest ih =>
      have restLe : ∀ y ∈ rest, f y = none ∨ f y = g y :=
        fun y member => le y (List.mem_cons_of_mem x member)
      rw [List.filterMap_cons, List.filterMap_cons, List.forall_mem_cons, ← ih restLe]
      rcases le x List.mem_cons_self with empty | same
      · rw [empty]
        cases g x with
        | none => exact (and_iff_right rfl).symm
        | some b =>
            refine iff_of_false (fun longer => ?_) fun both => by cases both.1
            have lengths := congrArg List.length longer
            exact absurd (length_filterMap_le_of_le restLe) (Nat.not_le.mpr (by
              rw [← lengths]
              exact Nat.lt_succ_self _))
      · rw [same]
        cases g x with
        | none => exact (and_iff_right rfl).symm
        | some b => exact List.cons_eq_cons.trans (and_congr_left fun _ => iff_of_true rfl rfl)

theorem ipv4AddressIsLocal_iff {cache : InterfaceCache} :
    ipv4AddressIsLocal cache ipaddr = true ↔ IsLoopback ipaddr ∨ HasAddress cache.ifaces ipaddr := by
  unfold ipv4AddressIsLocal
  split
  case isTrue loopback => exact iff_of_true rfl (Or.inl loopback)
  case isFalse remote =>
    rw [or_iff_right remote]
    simp only [HasAddress, HasIpAddress, List.any_eq_true, decide_eq_true_eq]

/-- An address of an interface is one of the host. -/
theorem UdpHost.own_of_local (local' : ipv4AddressIsLocal h.cache ipaddr = true) :
    IsLoopback ipaddr ∨ ∃ a ∈ h.host.adapters, a.HasAddress ipaddr := by
  rcases ipv4AddressIsLocal_iff.mp local' with loopback | has
  · exact Or.inl loopback
  · have loaded : loadIpxInterfaces h.host ≠ [] := by
      obtain ⟨iface, member, -⟩ := has
      exact List.ne_nil_of_mem member
    exact Or.inr ((loadIpxInterfaces_hasAddress_iff loaded).mp has).exists_adapter

/-- The test of `_do_udp_recv` passes for a datagram from elsewhere. -/
theorem UdpHost.handled_of_foreign (foreign : ¬ h.Own d) :
    d.addr.port ≠ h.privatePort ∨ ¬ ipv4AddressIsLocal h.cache d.addr.addr := by
  by_contra suppressed
  rw [not_or, not_not, not_not] at suppressed
  exact foreign ⟨suppressed.1, UdpHost.own_of_local suppressed.2⟩

/-- Where a packet is accepted there are interfaces. -/
theorem UdpHost.loaded_of_accepted (accepted : (h.received call d).Accepted) :
    loadIpxInterfaces h.host ≠ [] := by
  intro none
  obtain ⟨-, -, expected⟩ := accepted
  obtain ⟨iface, member, -⟩ := List.any_eq_true.mp expected
  unfold UdpHost.received UdpHost.cache allowInterfaces getIpxInterfaces ipxInterfaceByAddr at member
  dsimp only at member
  rw [none] at member
  split_ifs at member <;> cases member

theorem UdpHost.foreign_eq : h.foreign call = none ∨ h.foreign call = h.kept call := by
  unfold UdpHost.foreign UdpHost.kept
  cases call.result with
  | failed error => exact Or.inl rfl
  | received d =>
      dsimp only
      by_cases own : h.Own d
      · exact Or.inl (if_pos own)
      · refine Or.inr ?_
        rw [if_neg own, if_pos (UdpHost.handled_of_foreign own)]

/-- The datagram is dropped, if not for where it is from then for what it is. -/
def UdpHost.Drops (h : UdpHost) (call : UdpRecvCall) (d : Datagram) : Prop :=
  IsLoopback d.addr.addr ∨ h.host.Covers d.addr.addr ∨ ¬ (h.received call d).Accepted

theorem UdpHost.kept_eq_foreign_iff : h.kept call = h.foreign call ↔
    ∀ d, call.result = .received d → h.Own d → h.Drops call d := by
  unfold UdpHost.kept UdpHost.foreign
  cases call.result with
  | failed error => exact iff_of_true rfl fun d received => by cases received
  | received d =>
      simp only [Recvfrom.received.injEq, forall_eq']
      by_cases own : h.Own d
      · rw [if_pos own, forall_prop_of_true own]
        unfold UdpHost.delivers UdpHost.Drops
        by_cases accepted : (h.received call d).Accepted
        · rw [if_pos accepted, or_iff_left (not_not_intro accepted),
            ← loadIpxInterfaces_hasAddress_iff (UdpHost.loaded_of_accepted accepted)]
          have here : ipv4AddressIsLocal h.cache d.addr.addr = true ↔
              IsLoopback d.addr.addr ∨ HasAddress (loadIpxInterfaces h.host) d.addr.addr :=
            ipv4AddressIsLocal_iff
          rw [← here]
          simp [own.1]
        · rw [if_neg accepted, ite_self]
          exact iff_of_true rfl (Or.inr (Or.inr accepted))
      · refine iff_of_true ?_ fun owned => absurd owned own
        rw [if_neg own, if_pos (UdpHost.handled_of_foreign own)]

/-- A packet is sent, and then datagrams are received. The packet is delivered once, by
`ipx_send_packet`, no matter which of the datagrams are its own; and what comes from elsewhere is
handled as if nothing were ever dropped. -/
structure DeliveredOnce (h : UdpHost) (env : SendEnv) (p : OutgoingPacket) (sent : SendState)
    (calls : List UdpRecvCall) (s : UdpState) : Prop where
  own : (p.packetSize : Int) ∈ env.results p →
    (ipxSendPacket env p sent).2.delivered = sent.delivered ++ [p.delivered]
  received :
    (h.receiveAll calls { s with delivered := (ipxSendPacket env p sent).2.delivered }).delivered =
      (ipxSendPacket env p sent).2.delivered ++ calls.filterMap h.foreign
  foreign : ∀ call d, call.result = .received d → ¬ h.Own d →
    ∀ s, h.doUdpRecv call s = (1, h.handle call d (s.count d))

theorem UdpHost.doUdpRecv_of_foreign (received : call.result = .received d) (foreign : ¬ h.Own d) :
    h.doUdpRecv call s = (1, h.handle call d (s.count d)) := by
  unfold UdpHost.doUdpRecv
  rw [received]
  exact if_pos (UdpHost.handled_of_foreign foreign)

/-- A packet is delivered once exactly if each datagram of its own that would be accepted comes
from a loopback address, or from an adapter that the interfaces are made for. -/
theorem receiveAll_once_iff (h : UdpHost) (env : SendEnv) (p : OutgoingPacket) (sent : SendState)
    (calls : List UdpRecvCall) (s : UdpState) :
    DeliveredOnce h env p sent calls s ↔
      ∀ call ∈ calls, ∀ d, call.result = .received d → h.Own d → h.Drops call d := by
  have same : calls.filterMap h.kept = calls.filterMap h.foreign ↔
      ∀ call ∈ calls, h.kept call = h.foreign call :=
    filterMap_eq_iff_of_le fun call _ => UdpHost.foreign_eq
  have received : (h.receiveAll calls
      { s with delivered := (ipxSendPacket env p sent).2.delivered }).delivered =
        (ipxSendPacket env p sent).2.delivered ++ calls.filterMap h.kept :=
    UdpHost.receiveAll_delivered calls
  constructor
  · intro once call member
    have whole := once.received
    rw [received, List.append_cancel_left_eq, same] at whole
    exact UdpHost.kept_eq_foreign_iff.mp (whole call member)
  · intro drops
    refine ⟨ipxSendPacket_delivered_of_whole, ?_, fun call d from' foreign s =>
      UdpHost.doUdpRecv_of_foreign from' foreign⟩
    rw [received, List.append_cancel_left_eq, same]
    exact fun call member => UdpHost.kept_eq_foreign_iff.mpr (drops call member)

/-! ## A disabled adapter -/

/-- Two adapters in 192.168.0.0/24; the second is disabled, and so is the wildcard interface. -/
def overlappingHost : UdpHost where
  host :=
    { adapters := [⟨6, 0x010000000000, ⟨0x0100A8C0, 0x00FFFFFF⟩, []⟩,
        ⟨6, 0x020000000000, ⟨0x0200A8C0, 0x00FFFFFF⟩, []⟩]
      listed := true
      config := fun hwaddr => ⟨1, hwaddr, hwaddr = 0x010000000000⟩
      primary := 0x010000000000
      forwardTable := some []
      malloc := true }
  copies := true
  privatePort := 0x1234

/-- A send from the first adapter; all of the header is sent. -/
def wholeSend : SendEnv where
  hostTable := []
  now := 0
  cache := overlappingHost.cache
  udpPort := 54792
  malloc := true
  rSendto := fun _ => IpxPacket.headerSize
  lastError := fun _ => 0

/-- The packet comes back, sent from the address of the second. -/
def returnedPacket : UdpRecvCall where
  result := .received
    { addr := ⟨AF_INET, 0x0200A8C0, 0x1234⟩
      buf := Mem.ofList emptyPacket.bytes fun _ => 0
      len := IpxPacket.headerSize
      len_le := by decide
      inet := rfl }
  now := 0
  malloc := true

/-- It is delivered twice. -/
theorem returnedPacket_not_deliveredOnce :
    ¬ DeliveredOnce overlappingHost wholeSend emptyPacket ⟨[], [], 0, 0, 0, 0⟩ [returnedPacket]
      ⟨[], 0, 0, [], []⟩ := by
  intro once
  exact absurd once.received (by decide)

end IpxWrapper
