import IpxWrapper.AddrCache
import IpxWrapper.Packet
import IpxWrapper.SocketTable

/-!
# Sending with IPXWrapper encapsulation (`winsock.c`)

`sendto` on a datagram socket and the part of `ipx_send_packet` that sends over
UDP: to the cached address of the destination, or else to the broadcast address
of each IP of the interface. The results of `r_sendto` are given with the call,
by the number of the attempt.
-/

namespace IpxWrapper

open Base

/-! ## `ipx_send_packet` -/

/-- The arguments of `ipx_send_packet`. -/
structure OutgoingPacket where
  type : Byte
  srcNet : Addr32
  srcNode : Addr48
  srcSocket : UInt16
  destNet : Addr32
  destNode : Addr48
  destSocket : UInt16
  data : List Byte
  /-- `sendto` sends no more. -/
  data_le : data.length ≤ maxDataSize

/-- `packet_size`. -/
def OutgoingPacket.packetSize (p : OutgoingPacket) : Nat :=
  IpxPacket.headerSize + p.data.length

/-- What is sent. -/
def OutgoingPacket.bytes (p : OutgoingPacket) : List Byte :=
  IpxPacket.bytes p.type p.destNet p.destNode p.destSocket p.srcNet p.srcNode p.srcSocket
    (be16Bytes p.data.length) p.data

/-- What is delivered to the sockets of this host. -/
def OutgoingPacket.delivered (p : OutgoingPacket) : Delivered :=
  ⟨p.type, p.srcNet, p.srcNode, p.srcSocket, p.destNet, p.destNode, p.destSocket, p.data⟩

/-- What `ipx_send_packet` finds. -/
structure SendEnv where
  hostTable : List HostTable
  now : Int
  cache : InterfaceCache
  /-- `main_config.udp_port`. -/
  udpPort : UInt16
  /-- There is memory for the packet. -/
  malloc : Bool
  /-- What attempt `k` to send returns, and `WSAGetLastError()` after it. -/
  rSendto : Nat → Int
  lastError : Nat → UInt32

/-- What sending changes. -/
structure SendState where
  /-- The calls of `r_sendto`. -/
  attempts : List (SockAddrIn × List Byte)
  delivered : List Delivered
  sendPackets : UInt32
  sendBytes : UInt32
  sendPacketsUdp : UInt32
  sendBytesUdp : UInt32
deriving DecidableEq

/-- The local variables `send_ok` and `send_error`, and the state. -/
structure Sending where
  sendOk : Bool
  sendError : UInt32
  state : SendState

/-- `send_packet`, as attempt `k`: the result of `r_sendto`. -/
def sendPacket (env : SendEnv) (p : OutgoingPacket) (addr : SockAddrIn) (k : Nat)
    (s : SendState) : Int × SendState :=
  let s := { s with attempts := s.attempts ++ [(addr, p.bytes)] }
  let r := env.rSendto k
  if r = p.packetSize then
    (r, { s with
      sendPacketsUdp := s.sendPacketsUdp + 1
      sendBytesUdp := s.sendBytesUdp + UInt32.ofNat p.packetSize })
  else
    (r, s)

/-- `if(send_packet(...)) ... else ...`. -/
def attempt (env : SendEnv) (p : OutgoingPacket) (addr : SockAddrIn) (k : Nat) (sending : Sending) :
    Sending :=
  match sendPacket env p addr k sending.state with
  | (r, s) =>
      if r ≠ 0 then { sending with sendOk := true, state := s }
      else { sending with sendError := env.lastError k, state := s }

/-- The attempts from number `k` on. -/
def attemptEach (env : SendEnv) (p : OutgoingPacket) : List SockAddrIn → Nat → Sending → Sending
  | [], _, sending => sending
  | addr :: rest, k, sending => attemptEach env p rest (k + 1) (attempt env p addr k sending)

/-- `htons(main_config.udp_port)` at the broadcast address of `ip`. -/
def bcastAddr (env : SendEnv) (ip : IpxInterfaceIp) : SockAddrIn :=
  ⟨AF_INET, ip.bcast, htons env.udpPort⟩

/-- `ipx_send_packet` after its attempts. -/
def finishSend (p : OutgoingPacket) (sending : Sending) : UInt32 × SendState :=
  if sending.sendOk then
    (ERROR_SUCCESS,
      { sending.state with
        delivered := sending.state.delivered ++ [p.delivered]
        sendPackets := sending.state.sendPackets + 1
        sendBytes := sending.state.sendBytes + UInt32.ofNat p.data.length })
  else
    (sending.sendError, sending.state)

/-- `ipx_send_packet` with IPXWrapper encapsulation. -/
def ipxSendPacket (env : SendEnv) (p : OutgoingPacket) (s : SendState) : UInt32 × SendState :=
  if ¬ env.malloc then
    (ERROR_OUTOFMEMORY, s)
  else
    match addrCacheGet env.hostTable env.now p.destNet p.destNode p.destSocket with
    | some addr => finishSend p (attempt env p addr 0 ⟨false, ERROR_SUCCESS, s⟩)
    | none =>
        match ipxInterfaceByAddr env.cache p.srcNet p.srcNode with
        | none => (WSAENETUNREACH, s)
        | some iface =>
            if iface.ipaddr = [] then
              (WSAENETUNREACH, s)
            else
              finishSend p
                (attemptEach env p (iface.ipaddr.map (bcastAddr env)) 0 ⟨false, ERROR_SUCCESS, s⟩)

/-! ## `sendto` -/

/-- `_max_ipx_payload` with IPXWrapper encapsulation. -/
def maxIpxPayload : Nat := maxDataSize

/-- The arguments of `sendto`, and what it finds. -/
structure SendtoCall where
  fd : Nat
  buf : List Byte
  addr : Option SockaddrIpx
  /-- `sa_ptype`, behind the address. -/
  saPtype : UInt8
  addrlen : Nat
  /-- For the implicit `bind`. -/
  bind : BindEnv
  send : SendEnv

/-- `sendto` up to the call of `ipx_send_packet`: what is sent, or what is returned. -/
def sendtoPacket (call : SendtoCall) (underlying : Int) (w : World) :
    (CallOut ⊕ OutgoingPacket) × World :=
  match w.sockets call.fd with
  | none => (.inl (.ok underlying), w)
  | some e =>
      if e.sock.flags.isSpx then
        (.inl (.ok underlying), w)
      else
        match call.addr with
        | none => (.inl (.fail WSAEDESTADDRREQ), w)
        | some ipxaddr =>
            if call.addrlen < sizeofSockaddrIpx then
              (.inl (.fail WSAEFAULT), w)
            else if ¬ e.sock.flags.send then
              (.inl (.fail WSAESHUTDOWN), w)
            else
              let bound :=
                if e.sock.flags.bound then (CallOut.ok 0, w)
                else
                  IpxWrapper.bind call.fd ⟨AF_IPX, ipxaddr.netnum, 0, 0⟩ sizeofSockaddrIpx call.bind 0 w
              match bound.2.sockets call.fd with
              | none => (.inl .failed, bound.2)
              | some e =>
                  if bound.1.value = -1 then
                    (.inl .failed, bound.2)
                  else if h : call.buf.length ≤ maxIpxPayload then
                    (.inr
                      { type :=
                          if e.sock.flags.extAddr ∧ 15 ≤ call.addrlen then call.saPtype
                          else e.sock.sPtype
                        srcNet := e.sock.addr.netnum
                        srcNode := e.sock.addr.nodenum
                        srcSocket := e.sock.addr.socket
                        destNet :=
                          if ipxaddr.netnum = zeroNet then e.sock.addr.netnum else ipxaddr.netnum
                        destNode := ipxaddr.nodenum
                        destSocket := ipxaddr.socket
                        data := call.buf
                        data_le := h }, bound.2)
                  else
                    (.inl (.fail WSAEMSGSIZE), bound.2)

/-- `sendto`; another descriptor, and an SPX socket, are left to an underlying
function, which returns `underlying`. -/
def sendto (call : SendtoCall) (underlying : Int) (w : World) (s : SendState) :
    CallOut × World × SendState :=
  match sendtoPacket call underlying w with
  | (.inl out, w) => (out, w, s)
  | (.inr p, w) =>
      match ipxSendPacket call.send p s with
      | (error, s) =>
          if error = ERROR_SUCCESS then (.ok call.buf.length, w, s) else (.fail error, w, s)

end IpxWrapper
