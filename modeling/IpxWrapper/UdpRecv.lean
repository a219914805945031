import IpxWrapper.DosboxRecv
import IpxWrapper.SendPacket
import IpxWrapper.SpxLookup

/-!
# Packets over UDP (`router.c`)

`_handle_udp_recv` takes an `ipx_packet` from another host: it is a lookup of a
listening SPX socket, or it is delivered to the sockets of this host.
-/

namespace IpxWrapper

open Base

/-- The request in the data of the packet. -/
def spxlookupReq (m : Mem) : SpxlookupReq where
  netnum := addr32In m 27
  nodenum := addr48In m 31
  socket := UInt16.ofNat (le m 37 2)

/-- The call of `deliver_packet` for the packet. -/
def udpDeliverCall (m : Mem) : DeliverCall where
  type := IpxPacket.ptype m 0
  srcNet := IpxPacket.srcNet m 0
  srcNode := IpxPacket.srcNode m 0
  srcSocket := IpxPacket.srcSocket m 0
  destNet := IpxPacket.destNet m 0
  destNode := IpxPacket.destNode m 0
  destSocket := IpxPacket.destSocket m 0
  data := IpxPacket.headerSize
  dataSize := IpxPacket.netSize m 0

/-- What is done with a datagram. -/
inductive UdpOutcome where
  | dropped
  | lookup (req : SpxlookupReq)
  | deliver (call : DeliverCall)
deriving DecidableEq

/-- What `_handle_udp_recv` finds. -/
structure UdpEnv where
  cache : InterfaceCache
  hostTable : List HostTable
  now : Int
  /-- There is memory for a new entry of the address cache. -/
  malloc : Bool

/-- The interfaces on which a packet to this address may arrive. -/
def allowInterfaces (cache : InterfaceCache) (destNet : Addr32) (destNode : Addr48) :
    List IpxInterface :=
  if destNode = bcastNode then getIpxInterfaces cache
  else (ipxInterfaceByAddr cache destNet destNode).toList

/-- `source_ok`: the source is in a subnet of one of them. -/
def sourceOk (cache : InterfaceCache) (destNet : Addr32) (destNode : Addr48) (srcIp : UInt32) :
    Bool :=
  (allowInterfaces cache destNet destNode).any fun iface =>
    iface.ipaddr.any fun ip => ip.ipaddr &&& ip.netmask = srcIp &&& ip.netmask

/-- The test at the top of the function. -/
def UdpSizeOk (m : Mem) (packetSize : Nat) : Prop :=
  IpxPacket.headerSize ≤ packetSize ∧ IpxPacket.netSize m 0 ≤ maxDataSize ∧
    IpxPacket.netSize m 0 + IpxPacket.headerSize = packetSize

instance (m : Mem) (packetSize : Nat) : Decidable (UdpSizeOk m packetSize) :=
  inferInstanceAs (Decidable (_ ∧ _ ∧ _))

/-- `_handle_udp_recv`, and the address cache after it. -/
def handleUdpRecv (env : UdpEnv) (m : Mem) (packetSize : Nat) (srcIp : SockAddrIn) :
    UdpOutcome × List HostTable :=
  if ¬ UdpSizeOk m packetSize then
    (.dropped, env.hostTable)
  else if IpxPacket.srcSocket m 0 = 0 then
    if IpxPacket.ptype m 0 = ipxMagicSpxlookup then
      if IpxPacket.netSize m 0 ≠ sizeofSpxlookupReq then (.dropped, env.hostTable)
      else (.lookup (spxlookupReq m), env.hostTable)
    else
      (.dropped, env.hostTable)
  else if ¬ sourceOk env.cache (IpxPacket.destNet m 0) (IpxPacket.destNode m 0) srcIp.addr then
    (.dropped, env.hostTable)
  else
    (.deliver (udpDeliverCall m),
      addrCacheSet env.hostTable env.now env.malloc srcIp (IpxPacket.srcNet m 0)
        (IpxPacket.srcNode m 0) (IpxPacket.srcSocket m 0))

end IpxWrapper
