import IpxWrapper.Addr
import IpxWrapper.LockedConnect

/-!
# SPX lookups (`router.c`)

What the router does with an `IPX_MAGIC_SPXLOOKUP` packet: it looks for a
listening socket with the address asked for, and answers with its port.
-/

namespace IpxWrapper

open Base LockProg

/-- `struct spxlookup_req`. -/
structure SpxlookupReq where
  netnum : Addr32
  nodenum : Addr48
  socket : UInt16
deriving DecidableEq

/-- The socket listens, and is bound to the address asked for. -/
def listensFor (req : SpxlookupReq) (sock : IpxSocket) : Bool :=
  sock.flags.isSpx ∧ sock.flags.listening ∧
    (req.netnum = sock.addr.netnum ∨ req.netnum = zeroNet) ∧
    req.nodenum = sock.addr.nodenum ∧ req.socket = sock.addr.socket

/-- The sockets of the table with the descriptors `fds`, in this order. -/
def World.inOrder (w : World) (fds : List Nat) : List TableEntry :=
  fds.filterMap w.sockets

/-- What `_handle_udp_recv` sends back, of the first socket that it finds in the table. -/
def lookupReply (fds : List Nat) (req : SpxlookupReq) (w : World) : Option SpxlookupReply :=
  ((w.inOrder fds).find? fun e => listensFor req e.sock).map fun e =>
    ⟨req.netnum, req.nodenum, req.socket, e.sock.port⟩

namespace Locked

/-- `_handle_udp_recv` for a lookup: what is sent back. -/
def handleSpxlookup (privateSocket : Nat) (fds : List Nat) (req : SpxlookupReq) :
    Wrapper (Option SpxlookupReply) := do
  lockSockets
  let w ← read
  match lookupReply fds req w with
  | none => do
      unlockSockets
      pure none
  | some reply => do
      passOn privateSocket
      unlockSockets
      pure (some reply)

end Locked

end IpxWrapper
