import IpxWrapper.LockedWrappers

/-!
# Sending and connecting under the sockets lock (`winsock.c`)

The functions that call others of this library while they hold the lock, and the
list of all the exported functions. `connect` makes a socket for its lookup, and
`accept` gets one from the system. Both call on them what applications call: that
is passed on, unless the descriptor is still in the table, because another thread
has closed a socket and not yet come to take it out.
-/

namespace IpxWrapper.Locked

open Base LockProg

/-! ## Sending -/

/-- What `ipx_send_packet` does: what it returns, and if the packet is delivered on
this host, the number of sockets it is relayed to. -/
structure SendOutcome where
  error : UInt32
  delivered : Option Nat

/-- The relays of `deliver_packet`. -/
def relayEach (privateSocket : Nat) : Nat → Wrapper Unit
  | 0 => pure ()
  | left + 1 => do
      passOn privateSocket
      relayEach privateSocket left

/-- `deliver_packet`. -/
def deliverPacket (privateSocket relays : Nat) : Wrapper Unit := do
  lockSockets
  relayEach privateSocket relays
  unlockSockets

/-- `ipx_send_packet`. -/
def ipxSendPacket (privateSocket : Nat) (out : SendOutcome) : Wrapper UInt32 := do
  match out.delivered with
  | none => pure out.error
  | some relays => do
      deliverPacket privateSocket relays
      pure out.error

/-- What the system does in a call of `sendto`. -/
structure SendtoEnv where
  privateSocket : Nat
  frameType : FrameType
  bind : BindEnv
  send : SendOutcome

/-- `sendto` once the socket is bound. -/
def sendtoBound (len : Int) (env : SendtoEnv) : Wrapper CallOut := do
  let w ← read
  if (maxIpxPayload w.ipxEncapType env.frameType : Int) < len then
    leave (.fail WSAEMSGSIZE)
  else do
    let error ← ipxSendPacket env.privateSocket env.send
    unlockSockets
    if error = ERROR_SUCCESS then pure (.ok len) else pure (.fail error)

/-- `sendto` on a socket that it has found. -/
def sendtoFound (fd : Nat) (e : TableEntry) (len : Int) (addr : Option SockaddrIpx)
    (addrlen : Nat) (env : SendtoEnv) (underlying : Int) : Wrapper CallOut :=
  if e.sock.flags.isSpx then do
    unlockSockets
    await .rSend
    pure (.ok underlying)
  else
    match addr with
    | none => leave (.fail WSAEDESTADDRREQ)
    | some ipxaddr =>
        if addrlen < sizeofSockaddrIpx then
          leave (.fail WSAEFAULT)
        else if ¬ e.sock.flags.send then
          leave (.fail WSAESHUTDOWN)
        else if e.sock.flags.bound then
          sendtoBound len env
        else do
          let bound ← bind fd ⟨AF_IPX, ipxaddr.netnum, 0, 0⟩ sizeofSockaddrIpx env.bind 0
          if bound.value = -1 then leave .failed else sendtoBound len env

/-- `sendto`. -/
def sendto (fd : Nat) (len : Int) (addr : Option SockaddrIpx) (addrlen : Nat) (env : SendtoEnv)
    (underlying : Int) : Wrapper CallOut := do
  match ← getSocketWaitForReady fd with
  | none => do
      await .rSend
      pure (.ok underlying)
  | some e => sendtoFound fd e len addr addrlen env underlying

/-- `send`. -/
def send (fd : Nat) (len : Int) (env : SendtoEnv) (underlying : Int) : Wrapper CallOut := do
  match ← getSocket fd with
  | none => do
      await .rSend
      pure (.ok underlying)
  | some e =>
      if e.sock.flags.isSpx then do
        unlockSockets
        await .rSend
        pure (.ok underlying)
      else if ¬ e.sock.flags.connected then
        leave (.fail WSAENOTCONN)
      else do
        unlockSockets
        sendto fd len (some e.sock.remoteAddr) sizeofSockaddrIpx env underlying

/-- `shutdown`. -/
def shutdown (fd : Nat) (cmd : Int) (underlying : Int) : Wrapper CallOut := do
  match ← getSocket fd with
  | none => pure (.ok underlying)
  | some e =>
      if e.sock.flags.isSpx then
        leave (.ok underlying)
      else do
        modify fun w => w.store fd e
          { e.sock with
            flags :=
              { e.sock.flags with
                recv := e.sock.flags.recv ∧ ¬ (cmd = SD_RECEIVE ∨ cmd = SD_BOTH)
                send := e.sock.flags.send ∧ ¬ (cmd = SD_SEND ∨ cmd = SD_BOTH) } }
        leave (.ok 0)

/-! ## `connect` -/

/-- `sizeof(spxinit_t)`. -/
def sizeofSpxinit : Nat := 32

/-- What the functions of this library find that `_connect_spx` calls on the socket for
the lookup. -/
structure LookupEnv where
  bindAddr : SockaddrIpx
  bind : BindEnv
  /-- For each request of a batch. -/
  requestAddr : Nat → SockaddrIpx
  /-- For each batch, and each request in it. -/
  sendto : Nat → Nat → SendtoEnv
  /-- For each batch, and the number of events that are left in it. -/
  recvfrom : Nat → Nat → ReceiveEnv
  ioctlsocket : ReceiveEnv
  rClosesocket : Int

/-- What the system does in a call of `connect`. -/
structure ConnectingEnv extends ConnectEnv where
  /-- The descriptor of the socket for the lookup. -/
  lookup : Nat
  lookupCalls : LookupEnv
  getsockopt : GetsockoptEnv
  sendto : SendtoEnv
  /-- What `r_send` returns, for each turn of the loop that sends `spxinit`. -/
  sends : List Int

/-- `in_addr`, read as the `struct sockaddr_ipx` that it is not: only the family is in the
same place. -/
def inAddr (addr : SockaddrIpx) : SockaddrIpx :=
  { addr with family := AF_INET }

/-- `sizeof(struct sockaddr_in)`. -/
def sizeofSockaddrIn : Nat := 16

/-- The requests of batch `i` to these of the broadcast addresses; whether one is sent. -/
def sendRequests (env : ConnectingEnv) (i : Nat) : List Nat → Wrapper Bool
  | [] => pure false
  | n :: rest => do
      let packetLen := IpxPacket.headerSize + sizeofSpxlookupReq
      let sent ← sendto env.lookup packetLen (some (inAddr (env.lookupCalls.requestAddr n)))
        sizeofSockaddrIn (env.lookupCalls.sendto i n)
        (if (env.tries i).sendto n then packetLen else -1)
      let later ← sendRequests env i rest
      pure (sent.value ≠ -1 ∨ later)

/-- How the lookup ends: `_connect_spx` returns without the lock or with it, or the
lock is held and there is an address to connect to. -/
inductive LookupEnd where
  | returned (out : CallOut)
  | gaveUp (out : CallOut)
  | noReply
  | found (e : TableEntry) (ip : UInt32) (port : UInt16)

/-- `closesocket` on the socket for the lookup. -/
def closeLookup (env : ConnectingEnv) : Wrapper CallOut :=
  closesocket env.lookup env.lookupCalls.rClosesocket

/-- The loop that waits for a reply to batch `i`. -/
def awaitReply (fd : Nat) (ipxaddr : SockaddrIpx) (env : ConnectingEnv) (e : TableEntry)
    (i : Nat) : List LookupEvent → Wrapper LookupEnd
  | [] => pure .noReply
  | event :: rest => do
      unlockSockets
      await .rSelect
      match event with
      | .selectFailed => do
          let _ ← closeLookup env
          pure (.returned .failed)
      | .received reply ip =>
          match ← getSocket fd with
          | none => do
              let _ ← closeLookup env
              pure (.returned (.fail WSAENOTSOCK))
          | some found =>
              -- `IPX_IS_SPX` of a socket never changes, so without it this is another socket
              if found.id ≠ e.id ∨ ¬ found.sock.flags.isSpx then do
                let _ ← closeLookup env
                unlockSockets
                pure (.returned (.fail WSAENOTSOCK))
              else do
                let got ← recvfrom env.lookup sizeofSpxlookupReply (some sizeofSockaddrIn)
                  (env.lookupCalls.recvfrom i rest.length)
                  (if reply.isSome then sizeofSpxlookupReply else -1)
                match reply.filter fun _ => got.value = sizeofSpxlookupReply with
                | none => awaitReply fd ipxaddr env e i rest
                | some reply =>
                    if reply.netnum = ipxaddr.netnum ∧ reply.nodenum = ipxaddr.nodenum ∧
                        reply.socket = ipxaddr.socket then
                      if found.sock.flags.bound then
                        pure (.found found ip reply.port)
                      else
                        match ipxInterfaceBySubnet env.cache ip with
                        | none => awaitReply fd ipxaddr env e i rest
                        | some iface => do
                            let sock := { found.sock with
                              addr := { found.sock.addr with
                                netnum := iface.ipxNet
                                nodenum := iface.ipxNode } }
                            modify fun w => w.store fd found sock
                            pure (.found { found with sock := sock } ip reply.port)
                    else
                      awaitReply fd ipxaddr env e i rest

/-- The loop over the batches, of which `left` are left; the next is number `i`. -/
def lookupTries (fd : Nat) (ipxaddr : SockaddrIpx) (env : ConnectingEnv) (e : TableEntry)
    (bcastCount : Nat) : Nat → Nat → Wrapper LookupEnd
  | 0, _ => pure .noReply
  | left + 1, i => do
      if ← sendRequests env i (List.range bcastCount) then do
        match ← awaitReply fd ipxaddr env e i (env.tries i).events with
        | .noReply => lookupTries fd ipxaddr env e bcastCount left (i + 1)
        | outcome => pure outcome
      else
        pure (.gaveUp (.fail WSAENETUNREACH))

/-- The loop that sends `spxinit`, of which `c` bytes are sent. -/
def sendSpxinit (fd : Nat) (env : SendtoEnv) : List Int → Nat → Wrapper CallOut
  | sends, c =>
      if sizeofSpxinit ≤ c then
        leave (.ok 0)
      else
        match sends with
        | [] => stop
        | s :: rest => do
            let sent ← send fd (sizeofSpxinit - c) env s
            if sent.value = -1 then leave .failed
            else sendSpxinit fd env rest (c + sent.value.toNat)

/-- `_connect_spx` from `CONNECTED` on. -/
def spxConnected (fd : Nat) (e : TableEntry) (ipxaddr : SockaddrIpx) (env : ConnectingEnv) :
    Wrapper CallOut := do
  let sock := { e.sock with
    flags := { e.sock.flags with connectOk := true, connected := true }
    remoteAddr := ipxaddr }
  if sock.flags.bound then do
    modify fun w => w.store fd e sock
    sendSpxinit fd env.sendto env.sends 0
  else do
    let sock := { sock with addr := { sock.addr with family := AF_IPX } }
    match env.rGetsockname with
    | none => do
        modify fun w => w.store fd e sock
        leave .failed
    | some port => do
        let w ← read
        match completeBind env.mutex e.id { sock with port := port } w with
        | (false, sock, w) => do
            modify fun _ => w.store fd e sock
            leave .failed
        | (true, sock, w) => do
            modify fun _ => w.store fd e sock
            sendSpxinit fd env.sendto env.sends 0

/-- `_connect_spx` from `r_connect` on. -/
def spxConnect (fd : Nat) (e : TableEntry) (ipxaddr : SockaddrIpx) (ip : UInt32) (port : UInt16)
    (env : ConnectingEnv) : Wrapper CallOut := do
  await .rConnect
  match env.rConnect ip port with
  | .connected => spxConnected fd e ipxaddr env
  | .failed => leave .failed
  | .wouldBlock writable => do
      await .rSelect
      if writable then
        spxConnected fd e ipxaddr env
      else do
        let _ ← getsockopt fd SOL_SOCKET SO_ERROR 4 env.getsockopt 0
        leave (.fail WSAEWOULDBLOCK)

/-- The lookup of `_connect_spx`, with its socket made and closed. -/
def spxLookup (fd : Nat) (e : TableEntry) (ipxaddr : SockaddrIpx) (bcastCount : Nat)
    (env : ConnectingEnv) : Wrapper LookupEnd := do
  let _ ← ioctlsocket env.lookup false env.lookupCalls.ioctlsocket 0
  let _ ← setsockopt env.lookup SOL_SOCKET SO_BROADCAST 1 4 0
  let bound ← bind env.lookup (inAddr env.lookupCalls.bindAddr) sizeofSockaddrIn
    env.lookupCalls.bind (if env.lookupBind then 0 else -1)
  if bound.value = -1 then do
    let _ ← closeLookup env
    pure (.gaveUp .failed)
  else do
    match ← lookupTries fd ipxaddr env e bcastCount ipxConnectTries 0 with
    | .returned out => pure (.returned out)
    | outcome => do
        let _ ← closeLookup env
        pure outcome

/-- `_connect_spx`. -/
def connectSpx (fd : Nat) (e : TableEntry) (ipxaddr : SockaddrIpx) (env : ConnectingEnv) :
    Wrapper CallOut := do
  let bcastAddrs := connectBcastAddrs env.cache e.sock
  if ipxaddr.family ≠ AF_IPX then
    leave (.fail WSAEAFNOSUPPORT)
  else if bcastAddrs.length = 0 then
    leave (.fail WSAENETUNREACH)
  else if ¬ env.packet then
    leave (.fail ERROR_OUTOFMEMORY)
  else if ¬ env.lookupFd then
    leave .failed
  else do
    match ← spxLookup fd e ipxaddr bcastAddrs.length env with
    | .returned out => pure out
    | .gaveUp out => leave out
    | .noReply => leave (.fail WSAENETUNREACH)
    | .found e ip port => spxConnect fd e ipxaddr ip port env

/-- `connect` for a datagram socket. -/
def connectDgram (fd : Nat) (e : TableEntry) (addr : SockaddrIpx) (addrlen : Nat)
    (env : ConnectingEnv) : Wrapper CallOut := do
  let disconnect := fun w : World => w.store fd e
    { e.sock with flags := { e.sock.flags with connected := false } }
  let connect (w : World) : World :=
    match w.sockets fd with
    | none => w
    | some e => w.store fd e
        { e.sock with remoteAddr := addr, flags := { e.sock.flags with connected := true } }
  if 2 ≤ addrlen ∧ addr.family = AF_UNSPEC then do
    modify disconnect
    leave (.ok 0)
  else if addrlen < sizeofSockaddrIpx then
    leave (.fail WSAEFAULT)
  else if addr.family ≠ AF_IPX then
    leave (.fail WSAEAFNOSUPPORT)
  else if addr.nodenum = 0 then do
    modify disconnect
    leave (.ok 0)
  else if e.sock.flags.bound then do
    modify connect
    leave (.ok 0)
  else do
    let bound ← bind fd ⟨AF_IPX, addr.netnum, 0, 0⟩ sizeofSockaddrIpx env.bind 0
    if bound.value = -1 then
      leave .failed
    else do
      modify connect
      leave (.ok 0)

/-- `connect`. -/
def connect (fd : Nat) (addr : SockaddrIpx) (addrlen : Nat) (env : ConnectingEnv)
    (underlying : Int) : Wrapper CallOut := do
  match ← getSocket fd with
  | none => do
      await .rConnect
      pure (.ok underlying)
  | some e =>
      if e.sock.flags.isSpx then
        if addrlen < sizeofSockaddrIpx then leave (.fail WSAEFAULT)
        else if addr.family ≠ AF_IPX then leave (.fail WSAEAFNOSUPPORT)
        else connectSpx fd e addr env
      else
        connectDgram fd e addr addrlen env

/-- `getpeername`. -/
def getpeername (fd addrlen : Nat) (underlying : Int) : Wrapper CallOut := do
  match ← getSocket fd with
  | none => pure (.ok underlying)
  | some e =>
      if ¬ e.sock.flags.connected then leave (.fail WSAENOTCONN)
      else if addrlen < sizeofSockaddrIpx then leave (.fail WSAEFAULT)
      else leave { value := 0, addr := some e.sock.remoteAddr }

/-! ## `listen` and `accept` -/

/-- `listen`, where `r_listen` returns `underlying`. -/
def listen (fd : Nat) (underlying : Int) : Wrapper CallOut := do
  match ← getSocket fd with
  | none => pure (.ok underlying)
  | some e =>
      if ¬ e.sock.flags.isSpx then leave (.fail WSAEOPNOTSUPP)
      else if ¬ e.sock.flags.bound then leave (.fail WSAEINVAL)
      else if e.sock.flags.listening then leave (.fail WSAEISCONN)
      else if underlying = -1 then leave .failed
      else do
        modify fun w => w.store fd e
          { e.sock with flags := { e.sock.flags with listening := true } }
        leave (.ok 0)

/-- What the system does in a call of `accept`. -/
structure AcceptingEnv where
  /-- The memory for the `ipx_socket`, with what is in it. -/
  nsock : Option IpxSocket
  rAccept : Option Nat
  /-- What `r_recv` returns, for each turn of the loop that receives `spxinit`. -/
  recvs : List Int
  /-- What `recv` finds, by the number of bytes received. -/
  recv : Nat → ReceiveEnv
  rClosesocket : Int
  /-- `spxinit` when it was received. -/
  spxinit : Spxinit
  duplicate : Option Nat

/-- The loop that receives `spxinit`, of which `i` bytes were received; whether all of
it arrives. -/
def recvSpxinit (fd : Nat) (env : Nat → ReceiveEnv) : List Int → Nat → Wrapper Bool
  | recvs, i =>
      if sizeofSpxinit ≤ i then
        pure true
      else
        match recvs with
        | [] => stop
        | r :: rest => do
            let got ← recv fd (sizeofSpxinit - i) (env i) r
            if got.value ≤ 0 then pure false
            else recvSpxinit fd env rest (i + got.value.toNat)

/-- `accept` on an SPX socket. -/
def acceptSpx (e : TableEntry) (addr : Bool) (addrlen : Option Nat)
    (env : AcceptingEnv) : Wrapper CallOut := do
  if addrlen.any (· < sizeofSockaddrIpx) then
    leave (.fail WSAEFAULT)
  else
    match env.nsock with
    | none => pure (.fail ERROR_OUTOFMEMORY)
    | some nsock => do
        await .rAccept
        match env.rAccept with
        | none => leave .failed
        | some nfd => do
            match ← recvSpxinit nfd env.recv env.recvs 0 with
            | false => do
                let _ ← closesocket nfd env.rClosesocket
                leave (.fail WSAECONNRESET)
            | true =>
                match env.duplicate with
                | none => do
                    let _ ← closesocket nfd env.rClosesocket
                    leave (.fail WSAENETDOWN)
                | some mutex => do
                    let nsock := acceptedSocket nsock e.sock nfd mutex env.spxinit
                    modify fun w => (w.duplicateHandle w.nextId e.sock.sockMut mutex).addSocket nsock
                    leave { value := nfd, addr := if addr then some nsock.remoteAddr else none }

/-- `accept`. -/
def accept (fd : Nat) (addr : Bool) (addrlen : Option Nat) (env : AcceptingEnv)
    (underlying : Int) : Wrapper CallOut := do
  match ← getSocket fd with
  | none => do
      await .rAccept
      pure (.ok underlying)
  | some e =>
      if e.sock.flags.isSpx then acceptSpx e addr addrlen env
      else leave (.fail WSAEOPNOTSUPP)

/-! ## Waiting -/

/-- `WSAAsyncSelect`; `fdConnect` tells whether `lEvent` has `FD_CONNECT`. -/
def WSAAsyncSelect (fd : Nat) (fdConnect : Bool) (underlying : Int) : Wrapper CallOut :=
  if fdConnect then do
    match ← getSocket fd with
    | none => pure (.ok underlying)
    | some e => do
        modify fun w => w.store fd e
          { e.sock with flags := { e.sock.flags with connectOk := false } }
        leave (.ok underlying)
  else
    pure (.ok underlying)

/-- `FD_SET`. -/
def fdSet (fd : Nat) (fds : List Nat) : List Nat :=
  if fd ∈ fds ∨ FD_SETSIZE ≤ fds.length then fds else fds ++ [fd]

/-- The loop of `select` over `readfds`; the sockets with packets in their queue are
added to `force_read_fds`. -/
def forceRead (nReady : Nat → Nat) : List Nat → List Nat → Wrapper (List Nat)
  | [], forced => pure forced
  | fd :: rest, forced => do
      match ← getSocket fd with
      | none => forceRead nReady rest forced
      | some e =>
          if e.sock.flags.isSpx then do
            unlockSockets
            forceRead nReady rest forced
          else do
            unlockSockets
            forceRead nReady rest (if 0 < nReady fd then fdSet fd forced else forced)

/-- `select`; `readable` is what `r_select` leaves in `readfds`, and `underlying` what it
returns. -/
def select (readfds : List Nat) (nReady : Nat → Nat) (readable : List Nat) (underlying : Int) :
    Wrapper CallOut := do
  let forced ← forceRead nReady readfds []
  await .rSelect
  if underlying < 0 then pure (.ok underlying)
  else pure (.ok (underlying + (forced.filter (· ∉ readable)).length))

end IpxWrapper.Locked

namespace IpxWrapper

open Base LockProg

/-! ## Calls -/

/-- A call of an exported function, and what the system does in it; `underlying` is what
the underlying function returns. -/
inductive WrapperCall where
  | socket (af : UInt16) (type protocol : Int) (env : SocketEnv) (encap : EncapType)
      (underlying : Int)
  | closesocket (fd : Nat) (underlying : Int)
  | bind (fd : Nat) (addr : SockaddrIpx) (addrlen : Nat) (env : BindEnv) (underlying : Int)
  | getsockname (fd addrlen : Nat) (underlying : Int)
  | recv (fd : Nat) (len : Int) (env : Locked.ReceiveEnv) (underlying : Int)
  | recvfrom (fd : Nat) (len : Int) (addrlen : Option Nat) (env : Locked.ReceiveEnv)
      (underlying : Int)
  | wsaRecvEx (fd : Nat) (len : Int) (env : Locked.ReceiveEnv) (underlying : Int)
  | getsockopt (fd : Nat) (level optname : Int) (optlen : Nat) (env : Locked.GetsockoptEnv)
      (underlying : Int)
  | setsockopt (fd : Nat) (level optname optval optlen : Int) (underlying : Int)
  | sendto (fd : Nat) (len : Int) (addr : Option SockaddrIpx) (addrlen : Nat)
      (env : Locked.SendtoEnv) (underlying : Int)
  | send (fd : Nat) (len : Int) (env : Locked.SendtoEnv) (underlying : Int)
  | shutdown (fd : Nat) (cmd : Int) (underlying : Int)
  | ioctlsocket (fd : Nat) (fionread : Bool) (env : Locked.ReceiveEnv) (underlying : Int)
  | connect (fd : Nat) (addr : SockaddrIpx) (addrlen : Nat) (env : Locked.ConnectingEnv)
      (underlying : Int)
  | getpeername (fd addrlen : Nat) (underlying : Int)
  | listen (fd : Nat) (underlying : Int)
  | accept (fd : Nat) (addr : Bool) (addrlen : Option Nat) (env : Locked.AcceptingEnv)
      (underlying : Int)
  | wsaAsyncSelect (fd : Nat) (fdConnect : Bool) (underlying : Int)
  | select (readfds : List Nat) (nReady : Nat → Nat) (readable : List Nat) (underlying : Int)

/-- The call is made. -/
def WrapperCall.prog : WrapperCall → Wrapper CallOut
  | socket af type protocol env encap underlying =>
      Locked.socket af type protocol env encap underlying
  | closesocket fd underlying => Locked.closesocket fd underlying
  | bind fd addr addrlen env underlying => Locked.bind fd addr addrlen env underlying
  | getsockname fd addrlen underlying => Locked.getsockname fd addrlen underlying
  | recv fd len env underlying => Locked.recv fd len env underlying
  | recvfrom fd len addrlen env underlying => Locked.recvfrom fd len addrlen env underlying
  | wsaRecvEx fd len env underlying => Locked.WSARecvEx fd len env underlying
  | getsockopt fd level optname optlen env underlying => do
      let returned ← Locked.getsockopt fd level optname optlen env underlying
      pure returned.out
  | setsockopt fd level optname optval optlen underlying =>
      Locked.setsockopt fd level optname optval optlen underlying
  | sendto fd len addr addrlen env underlying => Locked.sendto fd len addr addrlen env underlying
  | send fd len env underlying => Locked.send fd len env underlying
  | shutdown fd cmd underlying => Locked.shutdown fd cmd underlying
  | ioctlsocket fd fionread env underlying => Locked.ioctlsocket fd fionread env underlying
  | connect fd addr addrlen env underlying => Locked.connect fd addr addrlen env underlying
  | getpeername fd addrlen underlying => Locked.getpeername fd addrlen underlying
  | listen fd underlying => Locked.listen fd underlying
  | accept fd addr addrlen env underlying => Locked.accept fd addr addrlen env underlying
  | wsaAsyncSelect fd fdConnect underlying => Locked.WSAAsyncSelect fd fdConnect underlying
  | select readfds nReady readable underlying => Locked.select readfds nReady readable underlying

end IpxWrapper
