import Mathlib.Tactic.Common

/-!
# Constants and addresses of Windows Sockets

Error codes, address families, socket types, protocols and options, with the values
the Windows headers give them, and `struct sockaddr_in`.
-/

namespace IpxWrapper

/-! ## Error codes -/

def ERROR_SUCCESS : UInt32 := 0

def ERROR_OUTOFMEMORY : UInt32 := 14

def ERROR_INSUFFICIENT_BUFFER : UInt32 := 122

def ERROR_NO_DATA : UInt32 := 232

def WSAEFAULT : UInt32 := 10014

def WSAEINVAL : UInt32 := 10022

def WSAEWOULDBLOCK : UInt32 := 10035

def WSAENOTSOCK : UInt32 := 10038

def WSAEDESTADDRREQ : UInt32 := 10039

def WSAEMSGSIZE : UInt32 := 10040

def WSAENOPROTOOPT : UInt32 := 10042

def WSAEPROTONOSUPPORT : UInt32 := 10043

def WSAEOPNOTSUPP : UInt32 := 10045

def WSAEAFNOSUPPORT : UInt32 := 10047

def WSAEADDRINUSE : UInt32 := 10048

def WSAEADDRNOTAVAIL : UInt32 := 10049

def WSAENETDOWN : UInt32 := 10050

def WSAENETUNREACH : UInt32 := 10051

def WSAECONNRESET : UInt32 := 10054

def WSAEISCONN : UInt32 := 10056

def WSAENOTCONN : UInt32 := 10057

def WSAESHUTDOWN : UInt32 := 10058

/-! ## Families, types and protocols -/

def AF_UNSPEC : UInt16 := 0

def AF_INET : UInt16 := 2

def AF_IPX : UInt16 := 6

def SOCK_STREAM : Int := 1

def SOCK_DGRAM : Int := 2

def NSPROTO_IPX : Int := 1000

def NSPROTO_SPX : Int := 1256

def NSPROTO_SPXII : Int := 1257

/-! ## Arguments of `shutdown` and `select` -/

def SD_RECEIVE : Int := 0

def SD_SEND : Int := 1

def SD_BOTH : Int := 2

def FD_SETSIZE : Nat := 64

/-! ## Socket options -/

def SOL_SOCKET : Int := 0xFFFF

def SO_REUSEADDR : Int := 0x4

def SO_BROADCAST : Int := 0x20

def SO_LINGER : Int := 0x80

def SO_ERROR : Int := 0x1007

def IPX_PTYPE : Int := 0x4000

def IPX_FILTERPTYPE : Int := 0x4001

def IPX_STOPFILTERPTYPE : Int := 0x4003

def IPX_EXTENDED_ADDRESS : Int := 0x4004

def IPX_MAXSIZE : Int := 0x4006

def IPX_ADDRESS : Int := 0x4007

def IPX_MAX_ADAPTER_NUM : Int := 0x400D

def IPX_RECEIVE_BROADCAST : Int := 0x400F

/-! ## Byte order -/

/-- `htons` and `ntohs`, which swap the bytes. -/
def htons (v : UInt16) : UInt16 :=
  UInt16.ofNat (v.toNat % 256 * 256 + v.toNat / 256)

theorem htons_toNat (v : UInt16) : (htons v).toNat = v.toNat % 256 * 256 + v.toNat / 256 := by
  have bound := v.toNat_lt
  unfold htons
  rw [UInt16.toNat_ofNat']
  omega

theorem htons_htons (v : UInt16) : htons (htons v) = v := by
  apply UInt16.toNat_inj.mp
  rw [htons_toNat, htons_toNat]
  have bound := v.toNat_lt
  omega

/-- `struct sockaddr_in`, its fields as stored. -/
structure SockAddrIn where
  family : UInt16
  addr : UInt32
  port : UInt16
deriving DecidableEq

end IpxWrapper
