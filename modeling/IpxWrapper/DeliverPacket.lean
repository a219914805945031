import IpxWrapper.SpxLookup

/-!
# Delivery to the sockets of this host (`router.c`)

`deliver_packet` sends each socket that a packet is for a datagram to the port of
its underlying socket: the packet once more, with its size in host byte order.
-/

namespace IpxWrapper

open Base

/-- Some part of the destination is a broadcast address. -/
def Delivered.isBroadcast (d : Delivered) : Bool :=
  d.destNet = bcastNet ∨ d.destNode = bcastNode

/-- The socket gets the packet; `w95Bug` is `main_config.w95_bug`. -/
def relaysTo (w95Bug : Bool) (d : Delivered) (sock : IpxSocket) : Bool :=
  if sock.flags.isSpx then false
  else if ¬ sock.flags.bound then false
  else if ¬ sock.flags.recv then false
  else if sock.flags.filter ∧ sock.fPtype ≠ d.type then false
  else if (d.destNet ≠ sock.addr.netnum ∧ d.destNet ≠ bcastNet) ∨
      (d.destNode ≠ sock.addr.nodenum ∧ d.destNode ≠ bcastNode) ∨
      d.destSocket ≠ sock.addr.socket then false
  else if d.isBroadcast ∧ ¬ sock.flags.recvBcast then false
  else if d.isBroadcast ∧ w95Bug ∧ ¬ sock.flags.broadcast then false
  else if sock.flags.connected ∧ (d.srcNet ≠ sock.remoteAddr.netnum ∨
      d.srcNode ≠ sock.remoteAddr.nodenum ∨ d.srcSocket ≠ sock.remoteAddr.socket) then false
  else true

/-- The datagram that a socket is sent. -/
def Delivered.loopback (d : Delivered) : List Byte :=
  IpxPacket.bytes d.type d.destNet d.destNode d.destSocket d.srcNet d.srcNode d.srcSocket
    (leBytes d.payload.length 2) d.payload

/-- `deliver_packet`, over the sockets in the order of the table: the datagrams, each with
its port. `malloc` tells for which descriptors there is memory. -/
def deliverPacket (w95Bug : Bool) (malloc : Nat → Bool) (fds : List Nat) (w : World)
    (d : Delivered) : List (UInt16 × List Byte) :=
  (w.inOrder fds).filterMap fun e =>
    if relaysTo w95Bug d e.sock ∧ malloc e.sock.fd then some (e.sock.port, d.loopback) else none

end IpxWrapper
