import IpxWrapper.Addr

/-!
# Packet layouts (`ethernet.h`, `ipxwrapper.h`)

The packed structures that cross the network: `novell_ipx_packet`, the IPX
packet in its normal form on the wire, and `ipx_packet`, the form sent over UDP
and to local sockets. A structure is read through a pointer, so each field is a
function of the memory and of the offset the structure is taken to lie at.
-/

namespace IpxWrapper

open Base

/-- The two bytes `htons` makes of a 16-bit length. -/
def lengthBytes (n : Nat) : Byte × Byte := (UInt8.ofNat (n / 256), UInt8.ofNat n)

/-! ## `struct novell_ipx_packet` -/

namespace NovellIpxPacket

/-- `sizeof(novell_ipx_packet)`. -/
def size : Nat := 30

def checksum (m : Mem) (p : Nat) : Nat := be16 m p

def length (m : Mem) (p : Nat) : Nat := be16 m (p + 2)

def type (m : Mem) (p : Nat) : Byte := m (p + 5)

def destNet (m : Mem) (p : Nat) : Addr32 := addr32In m (p + 6)

def destNode (m : Mem) (p : Nat) : Addr48 := addr48In m (p + 10)

/-- `dest_socket`, as stored: in network byte order. -/
def destSocket (m : Mem) (p : Nat) : UInt16 := UInt16.ofNat (le m (p + 16) 2)

def srcNet (m : Mem) (p : Nat) : Addr32 := addr32In m (p + 18)

def srcNode (m : Mem) (p : Nat) : Addr48 := addr48In m (p + 22)

/-- `src_socket`, as stored: in network byte order. -/
def srcSocket (m : Mem) (p : Nat) : UInt16 := UInt16.ofNat (le m (p + 28) 2)

/-- Where `data` begins. -/
def data (p : Nat) : Nat := p + 30

/-- The header bytes of a packet with checksum `0xFFFF` and no hops; the two
bytes of `length` are given as stored. -/
def header (lengthBytes : Byte × Byte) (type : Byte)
    (destNet : Addr32) (destNode : Addr48) (destSocket : UInt16)
    (srcNet : Addr32) (srcNode : Addr48) (srcSocket : UInt16) : List Byte :=
  [0xFF, 0xFF, lengthBytes.1, lengthBytes.2, 0, type] ++
    addr32Out destNet ++ addr48Out destNode ++ leBytes destSocket.toNat 2 ++
    addr32Out srcNet ++ addr48Out srcNode ++ leBytes srcSocket.toNat 2

@[simp] theorem length_header (lengthBytes : Byte × Byte) (type : Byte)
    (destNet : Addr32) (destNode : Addr48) (destSocket : UInt16)
    (srcNet : Addr32) (srcNode : Addr48) (srcSocket : UInt16) :
    (header lengthBytes type destNet destNode destSocket srcNet srcNode srcSocket).length
      = 30 := by
  simp [header]

/-- Reading back a socket number. -/
theorem socket_of_holds {m : Mem} {o : Nat} {v : UInt16} (holds : m.Holds o (leBytes v.toNat 2)) :
    UInt16.ofNat (le m o 2) = v := by
  rw [le_of_holds v.toNat_lt holds, UInt16.ofNat_toNat]

theorem length_lt (m : Mem) (p : Nat) : length m p < 65536 := be16_lt m (p + 2)

/-- The length field of a header, where it is known to lie. -/
theorem length_of_holds {m : Mem} {p v : Nat} {type : Byte} {destNet srcNet : Addr32}
    {destNode srcNode : Addr48} {destSocket srcSocket : UInt16} (small : v < 65536)
    (holds : m.Holds p (header (lengthBytes v) type destNet destNode destSocket
      srcNet srcNode srcSocket)) : length m p = v := by
  refine be16_of_bytes small ?_ ?_
  · exact holds 2 (by rw [length_header]; omega)
  · exact holds 3 (by rw [length_header]; omega)

theorem checksum_of_holds {m : Mem} {p : Nat} {field : Byte × Byte} {type : Byte}
    {destNet srcNet : Addr32} {destNode srcNode : Addr48} {destSocket srcSocket : UInt16}
    (holds : m.Holds p (header field type destNet destNode destSocket
      srcNet srcNode srcSocket)) : checksum m p = 0xFFFF := by
  refine be16_of_bytes (by decide) ?_ ?_
  · exact holds 0 (by rw [length_header]; omega)
  · exact holds 1 (by rw [length_header]; omega)

end NovellIpxPacket

/-! ## Magic packet types -/

/-- `IPX_MAGIC_SPXLOOKUP`. -/
def ipxMagicSpxlookup : Byte := 1

/-- `IPX_MAGIC_COALESCED`. -/
def ipxMagicCoalesced : Byte := 2

/-! ## `struct ipx_packet` -/

/-- `MAX_DATA_SIZE`. -/
def maxDataSize : Nat := 8192

/-- `MAX_PKT_SIZE`. -/
def maxPktSize : Nat := 8219

namespace IpxPacket

/-- `sizeof(ipx_packet) - 1`, the bytes before `data`. -/
def headerSize : Nat := 27

/-- `size`, as stored: in host byte order on the loopback port and in network
byte order on the wire. -/
def size (m : Mem) (p : Nat) : Nat := le m (p + 25) 2

/-- `ntohs(size)`. -/
def netSize (m : Mem) (p : Nat) : Nat := be16 m (p + 25)

def ptype (m : Mem) (p : Nat) : Byte := m p

def destNet (m : Mem) (p : Nat) : Addr32 := addr32In m (p + 1)

def destNode (m : Mem) (p : Nat) : Addr48 := addr48In m (p + 5)

/-- `dest_socket`, as stored: in network byte order. -/
def destSocket (m : Mem) (p : Nat) : UInt16 := UInt16.ofNat (le m (p + 11) 2)

def srcNet (m : Mem) (p : Nat) : Addr32 := addr32In m (p + 13)

def srcNode (m : Mem) (p : Nat) : Addr48 := addr48In m (p + 17)

/-- `src_socket`, as stored: in network byte order. -/
def srcSocket (m : Mem) (p : Nat) : UInt16 := UInt16.ofNat (le m (p + 23) 2)

/-- The bytes of a packet; those of `size` are given as stored. -/
def bytes (ptype : Byte) (destNet : Addr32) (destNode : Addr48) (destSocket : UInt16)
    (srcNet : Addr32) (srcNode : Addr48) (srcSocket : UInt16) (sizeBytes data : List Byte) :
    List Byte :=
  [ptype] ++ addr32Out destNet ++ addr48Out destNode ++ leBytes destSocket.toNat 2 ++
    addr32Out srcNet ++ addr48Out srcNode ++ leBytes srcSocket.toNat 2 ++ sizeBytes ++ data

section Bytes

variable {m : Mem} {p : Nat} {type : Byte} {toNet fromNet : Addr32} {toNode fromNode : Addr48}
  {toSocket fromSocket : UInt16} {sizeBytes payload : List Byte}

theorem length_bytes (two : sizeBytes.length = 2) :
    (bytes type toNet toNode toSocket fromNet fromNode fromSocket sizeBytes payload).length =
      headerSize + payload.length := by
  simp only [bytes, headerSize, List.length_append, List.length_cons, List.length_nil,
    length_addr32Out, length_addr48Out, length_leBytes, two]

/-- The fields of a packet, where it is known to lie. -/
structure Fields (m : Mem) (p : Nat) (type : Byte) (toNet : Addr32) (toNode : Addr48)
    (toSocket : UInt16) (fromNet : Addr32) (fromNode : Addr48) (fromSocket : UInt16)
    (sizeBytes payload : List Byte) : Prop where
  ptype : ptype m p = type
  destNet : destNet m p = toNet
  destNode : destNode m p = toNode
  destSocket : destSocket m p = toSocket
  srcNet : srcNet m p = fromNet
  srcNode : srcNode m p = fromNode
  srcSocket : srcSocket m p = fromSocket
  sizeBytes : m.Holds (p + 25) sizeBytes
  data : m.Holds (p + headerSize) payload

theorem fields_of_holds (two : sizeBytes.length = 2) (to_six : toNode.toNat % 65536 = 0)
    (from_six : fromNode.toNat % 65536 = 0)
    (holds : m.Holds p
      (bytes type toNet toNode toSocket fromNet fromNode fromSocket sizeBytes payload)) :
    Fields m p type toNet toNode toSocket fromNet fromNode fromSocket sizeBytes payload := by
  unfold bytes at holds
  have header := holds.left.left
  have size := holds.left.right
  have data := holds.right
  simp only [List.length_append, List.length_cons, List.length_nil, length_addr32Out,
    length_addr48Out, length_leBytes, two] at size data
  exact
    { ptype := header 0 (by simp)
      destNet := addr32In_of_holds header.left.left.left.left.left.right
      destNode := addr48In_of_holds to_six header.left.left.left.left.right
      destSocket := NovellIpxPacket.socket_of_holds header.left.left.left.right
      srcNet := addr32In_of_holds header.left.left.right
      srcNode := addr48In_of_holds from_six header.left.right
      srcSocket := NovellIpxPacket.socket_of_holds header.right
      sizeBytes := size
      data := data }

end Bytes

end IpxPacket

/-- What an application sees of a packet that is delivered. -/
structure Delivered where
  type : Byte
  srcNet : Addr32
  srcNode : Addr48
  srcSocket : UInt16
  destNet : Addr32
  destNode : Addr48
  destSocket : UInt16
  payload : List Byte
deriving DecidableEq

end IpxWrapper
