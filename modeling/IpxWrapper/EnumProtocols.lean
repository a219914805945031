import IpxWrapper.Base.Region
import IpxWrapper.Winsock

/-!
# `EnumProtocols` (`winsock.c`)

`do_EnumProtocols` adds the IPX protocols to what the `EnumProtocols` of the system has put in
the caller's buffer: an array of `PROTOCOL_INFO`, and after it the names, where they are not
elsewhere. The addresses are those of a process of 32 bits, and the memory is that after the
native call.
-/

namespace IpxWrapper

open Base

/-! ## `PROTOCOL_INFO` -/

/-- The fields of `PROTOCOL_INFO` but for the name, each as its 32 bits. -/
structure ProtocolFields where
  dwServiceFlags : UInt32
  iAddressFamily : UInt32
  iMaxSockAddr : UInt32
  iMinSockAddr : UInt32
  iSocketType : UInt32
  iProtocol : UInt32
  dwMessageSize : UInt32
deriving DecidableEq

structure ProtocolInfo where
  fields : ProtocolFields
  lpProtocol : UInt32
deriving DecidableEq

/-- `sizeof(PROTOCOL_INFO)`. -/
def protocolInfoSize : Nat := 32

/-- `&(pinfo[i])`. -/
def infoAt (pinfo i : Nat) : Nat := pinfo + protocolInfoSize * i

def dword (m : Mem) (a : Nat) : UInt32 := UInt32.ofNat (le m a 4)

def dwordBytes (values : List UInt32) : List Byte := values.flatMap fun v => leBytes v.toNat 4

/-- The `PROTOCOL_INFO` at `a` is read. -/
def readInfo (m : Mem) (a : Nat) : ProtocolInfo where
  fields :=
    ⟨dword m a, dword m (a + 4), dword m (a + 8), dword m (a + 12), dword m (a + 16),
      dword m (a + 20), dword m (a + 24)⟩
  lpProtocol := dword m (a + 28)

def infoBytes (info : ProtocolInfo) : List Byte :=
  dwordBytes [info.fields.dwServiceFlags, info.fields.iAddressFamily, info.fields.iMaxSockAddr,
    info.fields.iMinSockAddr, info.fields.iSocketType, info.fields.iProtocol,
    info.fields.dwMessageSize, info.lpProtocol]

/-- The `PROTOCOL_INFO` at `a` is written. -/
def writeInfo (m : Mem) (a : Nat) (info : ProtocolInfo) : Mem := m.write a (infoBytes info)

/-! ## The protocols that are added -/

def XP_CONNECTIONLESS : UInt32 := 0x1

def XP_GUARANTEED_DELIVERY : UInt32 := 0x2

def XP_GUARANTEED_ORDER : UInt32 := 0x4

def XP_MESSAGE_ORIENTED : UInt32 := 0x8

def XP_PSEUDO_STREAM : UInt32 := 0x10

def XP_SUPPORTS_BROADCAST : UInt32 := 0x200

def XP_SUPPORTS_MULTICAST : UInt32 := 0x400

def XP_FRAGMENTATION : UInt32 := 0x1000

/-- A protocol of IPXWrapper: what asks for it, its fields and its name. -/
structure OurProtocol where
  nsproto : Int
  fields : ProtocolFields
  name : List Byte

def ipxProtocol : OurProtocol where
  nsproto := NSPROTO_IPX
  fields :=
    { dwServiceFlags := XP_CONNECTIONLESS ||| XP_MESSAGE_ORIENTED ||| XP_SUPPORTS_BROADCAST |||
        XP_SUPPORTS_MULTICAST ||| XP_FRAGMENTATION
      iAddressFamily := AF_IPX.toUInt32
      iMaxSockAddr := 16
      iMinSockAddr := 14
      iSocketType := UInt32.ofInt SOCK_DGRAM
      iProtocol := UInt32.ofInt NSPROTO_IPX
      dwMessageSize := 576 }
  name := [0x49, 0x50, 0x58]

/-- What `SPX` and `SPX II` have in common. -/
def spxFields (nsproto : Int) : ProtocolFields where
  dwServiceFlags := XP_GUARANTEED_DELIVERY ||| XP_GUARANTEED_ORDER ||| XP_PSEUDO_STREAM |||
    XP_FRAGMENTATION
  iAddressFamily := AF_IPX.toUInt32
  iMaxSockAddr := 16
  iMinSockAddr := 14
  iSocketType := UInt32.ofInt SOCK_STREAM
  iProtocol := UInt32.ofInt nsproto
  dwMessageSize := 0xFFFFFFFF

def spxProtocol : OurProtocol where
  nsproto := NSPROTO_SPX
  fields := spxFields NSPROTO_SPX
  name := [0x53, 0x50, 0x58]

def spxIIProtocol : OurProtocol where
  nsproto := NSPROTO_SPXII
  fields := spxFields NSPROTO_SPXII
  name := [0x53, 0x50, 0x58, 0x20, 0x49, 0x49]

/-- In the order in which they are added. -/
def ourProtocols : List OurProtocol := [ipxProtocol, spxProtocol, spxIIProtocol]

/-- `protocols[i]`, up to the 0 that ends the list. -/
def listAsks (nsproto : Int) : List Int → Bool
  | [] => false
  | p :: rest => if p = 0 then false else p = nsproto || listAsks nsproto rest

/-- `want_ipx`, `want_spx` and `want_spxii`; `none` is `NULL`. -/
def wants (protocols : Option (List Int)) (p : OurProtocol) : Bool :=
  match protocols with
  | none => true
  | some list => listAsks p.nsproto list

/-! ## Calls -/

/-- What the native `EnumProtocols` does. -/
inductive NativeEnum where
  /-- It returns -1, with the error and the size that it sets. -/
  | failed (error size : UInt32)
  /-- It returns `rval`; the memory is `mem` then. -/
  | listed (rval : Nat) (size : UInt32) (mem : Mem)

structure EnumCall where
  protocols : Option (List Int)
  buf : Nat
  bufsize : UInt32
  /-- `EnumProtocolsW`. -/
  unicode : Bool
  native : NativeEnum
  /-- The address that `malloc` returns for a size, if it succeeds. -/
  malloc : Nat → Option Nat

inductive EnumResult where
  /-- -1, with the error and the size that is set. -/
  | failed (error size : UInt32)
  | listed (rval : Nat) (size : UInt32) (mem : Mem)

namespace EnumCall

/-- The size of a character. -/
def width (c : EnumCall) : Nat := if c.unicode then 2 else 1

/-- The bytes of a character. -/
def unit (c : EnumCall) (char : Byte) : List Byte := if c.unicode then [char, 0] else [char]

/-- The protocols that are to be added. -/
def added (c : EnumCall) : List OurProtocol := ourProtocols.filter (wants c.protocols)

/-- `*bsptr` grows by what a protocol needs. -/
def growSize (c : EnumCall) (size : UInt32) (p : OurProtocol) : UInt32 :=
  size + UInt32.ofNat (protocolInfoSize + (p.name.length + 1) * c.width)

/-- `strsize`; no string has more bytes than there are addresses. -/
def strsize (c : EnumCall) (m : Mem) (p : Nat) : Nat := strsizeFrom c.width m 4294967296 p

/-- The removal of the IPX protocols, from the `i`th on, with `k` to look at. -/
def removeIpx (c : EnumCall) : Nat → Nat → Mem → Mem × Nat
  | 0, i, m => (m, i)
  | k + 1, i, m =>
      if (readInfo m (infoAt c.buf i)).fields.iAddressFamily = AF_IPX.toUInt32 then
        c.removeIpx k i (m.copy (infoAt c.buf i) (infoAt c.buf (i + k)) protocolInfoSize)
      else
        c.removeIpx k (i + 1) m

/-- The size of the names between `lo` and `hi`, from the `i`th protocol on. -/
def namesSize (c : EnumCall) (lo hi : Nat) (m : Mem) : Nat → Nat → Nat
  | 0, _ => 0
  | k + 1, i =>
      let name := (readInfo m (infoAt c.buf i)).lpProtocol.toNat
      if lo ≤ name ∧ name < hi then c.strsize m name + c.namesSize lo hi m k (i + 1)
      else c.namesSize lo hi m k (i + 1)

/-- The names between `lo` and `hi`, of the `k` protocols from the `i`th on, are moved to `base`,
one after the other. -/
def moveNames (c : EnumCall) (lo hi : Nat) : Nat → Nat → Nat → Mem → Mem
  | 0, _, _, m => m
  | k + 1, i, base, m =>
      let info := readInfo m (infoAt c.buf i)
      let name := info.lpProtocol.toNat
      if lo ≤ name ∧ name < hi then
        let len := c.strsize m name
        let m := m.copy base name len
        let m := writeInfo m (infoAt c.buf i) { info with lpProtocol := UInt32.ofNat base }
        c.moveNames lo hi k (i + 1) (base + len) m
      else
        c.moveNames lo hi k (i + 1) base m

/-- `PUSH_NAME`: the memory, and `name_base`. -/
def pushName (c : EnumCall) : List Byte → Mem → Nat → Mem × Nat
  | [], m, base => (m.write base (c.unit 0), base + c.width)
  | char :: rest, m, base => c.pushName rest (m.write base (c.unit char)) (base + c.width)

/-- While protocols are added. -/
structure Adding where
  mem : Mem
  rval : Nat
  nameBase : Nat

/-- A protocol is added. -/
def addProtocol (c : EnumCall) (s : Adding) (p : OurProtocol) : Adding :=
  let m := writeInfo s.mem (infoAt c.buf s.rval) ⟨p.fields, UInt32.ofNat s.nameBase⟩
  let (m, base) := c.pushName p.name m s.nameBase
  ⟨m, s.rval + 1, base⟩

/-- `do_EnumProtocols`. -/
def doEnumProtocols (c : EnumCall) : EnumResult :=
  match c.native with
  | .failed error size =>
      if error ≠ ERROR_INSUFFICIENT_BUFFER then
        .failed error size
      else
        let size := c.added.foldl c.growSize size
        if size > c.bufsize then .failed ERROR_INSUFFICIENT_BUFFER size else .failed error size
  | .listed rval size m =>
      let size := c.added.foldl c.growSize size
      if size > c.bufsize then
        .failed ERROR_INSUFFICIENT_BUFFER size
      else
        let (m, rval) := c.removeIpx rval 0 m
        let bufEnd := c.buf + c.bufsize.toNat
        -- the names are moved out of the buffer, and behind the new ones after these are written
        let nameBufSize := c.namesSize c.buf bufEnd m rval 0
        match c.malloc nameBufSize with
        | none => .failed ERROR_OUTOFMEMORY size
        | some nameBuf =>
            let m := c.moveNames c.buf bufEnd rval 0 nameBuf m
            let nameBase := infoAt c.buf (rval + c.added.length)
            let s := c.added.foldl c.addProtocol ⟨m, rval, nameBase⟩
            let m := c.moveNames nameBuf (nameBuf + nameBufSize) s.rval 0 s.nameBase s.mem
            .listed s.rval size m

end EnumCall

end IpxWrapper
