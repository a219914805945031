import IpxWrapper.DosboxRecv
import IpxWrapper.Coalesce
import IpxWrapper.Base.Run

/-!
# The router thread in DOSBox mode (`router.c`, `interface.c`)

`router_main` goes round one loop: flush what has waited, work out `wait_ms`,
sleep, receive up to `MAX_RECV_PER_LOOP` datagrams, resolve the server if
disconnected, send registration requests if registering. Each of these is a step
here, and `RouterPc` says which comes next; what a step finds (the clock, a
datagram, the outcome of `gethostbyname`) is its input. Other threads send packets
and renew the interface cache between any two steps.
-/

namespace IpxWrapper

open Base NovellIpxPacket

/-- `MAX_RECV_PER_LOOP`. -/
def maxRecvPerLoop : Nat := 50

/-- `dosbox_connect_retry_interval_ms`. -/
def connectRetryIntervalMs : UInt64 := 10000

/-- `INITIAL_DOSBOX_REGISTRATION_RETRY_INTERVAL_MS`. -/
def initialRegistrationRetryIntervalMs : UInt32 := 250

/-- `MAX_DOSBOX_REGISTRATION_RETRY_INTERVAL_MS`. -/
def maxRegistrationRetryIntervalMs : UInt32 := 8000

/-- `DOSBOX_REGISTRATION_TIMEOUT_MS`. -/
def registrationTimeoutMs : UInt64 := 30000

/-- `htons(IPX_SOCK_ECHO)`. -/
def sockEcho : UInt16 := 0x0200

/-- `enum dosbox_state`. -/
inductive DosboxState where
  | disconnected
  | registering
  | connected
deriving DecidableEq

/-- What `recvfrom` puts in the buffer of `_do_udp_recv`. The socket is an
IPv4 one. -/
structure Datagram where
  addr : SockAddrIn
  buf : Mem
  len : Nat
  len_le : len ≤ maxPktSize
  inet : addr.family = AF_INET

/-- The outcome of a `recvfrom` call. -/
inductive Recvfrom where
  | failed (error : UInt32)
  | received (datagram : Datagram)

/-- The step of `router_main` that comes next. -/
inductive RouterPc where
  /-- The top of the loop. -/
  | top
  /-- After `unlock_sockets`, before `wait_ms` is worked out. -/
  | flushed
  /-- Before the call of `WaitForMultipleObjects` with `ms`. -/
  | sleep (ms : UInt32)
  /-- In `WaitForMultipleObjects`, for at most `ms` milliseconds. -/
  | wait (ms : UInt32)
  /-- Before the call of `_do_udp_recv` numbered `i`. -/
  | recv (i : Nat)
  /-- Before the test for `DOSBOX_DISCONNECTED`. -/
  | reconnect
  /-- Before the test for `DOSBOX_REGISTERING`. -/
  | register
  | exited (status : UInt32)
  | aborted
deriving DecidableEq

structure Router where
  pc : RouterPc
  dosboxState : DosboxState
  dosboxServerAddr : SockAddrIn
  nextConnectionAttemptAt : UInt64
  nextRegistrationRequestAt : UInt64
  registrationRetryIntervalMs : UInt32
  registrationTimeoutAt : UInt64
  dosboxLocalNetnum : Addr32
  dosboxLocalNodenum : Addr48
  /-- The addresses in `interface_cache`. -/
  interfaceCache : List (Addr32 × Addr48)
  /-- `dosbox_ready_event` is set. -/
  ready : Bool
  recvPacketsUdp : UInt32
  recvBytesUdp : UInt32
  /-- The registration requests sent, with the address each was sent to. -/
  requests : List (SockAddrIn × List Byte)
  /-- The packets given to `deliver_packet`. -/
  delivered : List Delivered
  coalesce : CoalesceState

/-- The zeroed statics, after `router_init`. -/
def Router.init : Router where
  pc := .top
  dosboxState := .disconnected
  dosboxServerAddr := ⟨0, 0, 0⟩
  nextConnectionAttemptAt := 0
  nextRegistrationRequestAt := 0
  registrationRetryIntervalMs := 0
  registrationTimeoutAt := 0
  dosboxLocalNetnum := 0
  dosboxLocalNodenum := 0
  interfaceCache := []
  ready := false
  recvPacketsUdp := 0
  recvBytesUdp := 0
  requests := []
  delivered := []
  coalesce := .init

def Router.goTo (pc : RouterPc) (s : Router) : Router := { s with pc := pc }

/-- `load_dosbox_interfaces`. -/
def loadDosboxInterfaces (s : Router) : List (Addr32 × Addr48) :=
  if s.dosboxState = .connected then [(s.dosboxLocalNetnum, s.dosboxLocalNodenum)] else []

/-- `renew_interface_cache`, when it renews. -/
def renewInterfaceCache (s : Router) : Router :=
  { s with interfaceCache := loadDosboxInterfaces s }

/-! ## Receiving -/

/-- The test of `_handle_dosbox_registration_response`, after which it only logs. -/
def ValidReply (d : Datagram) : Prop :=
  size ≤ d.len ∧ length d.buf 0 = d.len ∧ checksum d.buf 0 = 0xFFFF

instance (d : Datagram) : Decidable (ValidReply d) := inferInstanceAs (Decidable (_ ∧ _ ∧ _))

/-- `_handle_dosbox_registration_response`. The test for a valid response
decides only whether a line is logged. -/
def handleDosboxRegistrationResponse (d : Datagram) (s : Router) : Router :=
  let s := { s with
    dosboxLocalNetnum := destNet d.buf 0
    dosboxLocalNodenum := destNode d.buf 0
    dosboxState := .connected }
  let s := renewInterfaceCache s
  { s with ready := true }

/-- How `_do_udp_recv` ends. -/
inductive UdpRecv where
  | status (n : Int)
  | abort
deriving DecidableEq

/-- `_do_udp_recv` in DOSBox mode; `none` while `_handle_dosbox_recv` has not
returned after `fuel` passes of each of its loops. -/
def doUdpRecv (fuel : Nat) (result : Recvfrom) (s : Router) : Option (UdpRecv × Router) :=
  match result with
  | .failed error =>
      if error = WSAEWOULDBLOCK then some (.status 0, s)
      else if error = WSAECONNRESET then some (.status 1, s)
      else some (.status (-1), s)
  | .received d =>
      let s := { s with
        recvPacketsUdp := s.recvPacketsUdp + 1
        recvBytesUdp := s.recvBytesUdp + UInt32.ofNat d.len }
      if d.addr ≠ s.dosboxServerAddr then
        some (.status 1, s)
      else
        match s.dosboxState with
        | .registering => some (.status 1, handleDosboxRegistrationResponse d s)
        | .connected =>
            let trace := handleDosboxRecv fuel d.buf d.len
            if trace.returned then
              some (.status 1, { s with
                delivered := s.delivered ++ trace.calls.map (DeliverCall.delivered d.buf) })
            else
              none
        | .disconnected => some (.abort, s)

/-! ## The loop -/

/-- What a step finds. -/
inductive RouterInput where
  /-- `get_uticks()` in `coalesce_flush_waiting`. -/
  | loopTop (uticks : UInt64)
  /-- `get_ticks()`, where `wait_ms` depends on it. -/
  | waitMs (now : UInt64)
  /-- `WaitForMultipleObjects` is called. -/
  | wait
  /-- The wait is over; `router_running` is read. -/
  | woken (running : Bool)
  | recvfrom (result : Recvfrom) (fuel : Nat)
  /-- `get_ticks()`, the address `gethostbyname` finds, and `get_ticks()` again. -/
  | reconnect (ticks : UInt64) (host : Option UInt32) (now : UInt64)
  /-- `get_ticks()`. -/
  | register (now : UInt64)
  /-- Another thread calls `coalesce_send`. -/
  | coalesceSend (call : SendCall)
  /-- Another thread finds the interface cache too old. -/
  | renewInterfaceCache

/-- What is configured, and what the sends of the coalescer come to. -/
structure RouterEnv where
  coalesce : CoalesceEnv
  /-- `htons(main_config.dosbox_server_port)`. -/
  serverPort : UInt16

/-- `wait_ms` for an event due at `due`: the difference is cut to 32 bits. -/
def waitUntil (now due : UInt64) : UInt32 :=
  if due ≤ now then 0 else min (due - now).toUInt32 1000

def waitMs (now : UInt64) (s : Router) : UInt32 :=
  match s.dosboxState with
  | .disconnected => waitUntil now s.nextConnectionAttemptAt
  | .registering => waitUntil now s.nextRegistrationRequestAt
  | .connected => 1000

/-- The packet `_send_dosbox_registration_request` sends. -/
def registrationRequest : List Byte :=
  header (0, 30) 2 0 0 sockEcho 0 0 sockEcho

/-- `router_main` resolves the server if it is disconnected. -/
def tryConnect (env : RouterEnv) (ticks : UInt64) (host : Option UInt32) (now : UInt64)
    (s : Router) : Router :=
  if s.dosboxState = .disconnected ∧ s.nextConnectionAttemptAt ≤ ticks then
    match host with
    | some addr =>
        { s with
          dosboxServerAddr := ⟨AF_INET, addr, env.serverPort⟩
          nextRegistrationRequestAt := 0
          registrationRetryIntervalMs := initialRegistrationRetryIntervalMs
          registrationTimeoutAt := now + registrationTimeoutMs
          dosboxState := .registering }
    | none => { s with nextConnectionAttemptAt := now + connectRetryIntervalMs }
  else
    s

/-- The registration has taken too long. -/
def giveUp (now : UInt64) (s : Router) : Router :=
  if s.registrationTimeoutAt ≤ now then { s with dosboxState := .disconnected } else s

/-- `_send_dosbox_registration_request`, when the next request is due. -/
def requestRegistration (now : UInt64) (s : Router) : Router :=
  if s.nextRegistrationRequestAt ≤ now then
    { s with
      requests := s.requests ++ [(s.dosboxServerAddr, registrationRequest)]
      nextRegistrationRequestAt := now + s.registrationRetryIntervalMs.toUInt64
      registrationRetryIntervalMs :=
        min (s.registrationRetryIntervalMs * 2) maxRegistrationRetryIntervalMs }
  else
    s

/-- `router_main` gives up registering, or sends another request, or both. -/
def tryRegister (now : UInt64) (s : Router) : Router :=
  if s.dosboxState = .registering then requestRegistration now (giveUp now s) else s

/-- Where the receiving loop goes after a call that ended with `status`. -/
def afterRecv (i : Nat) (status : Int) : RouterPc :=
  if status < 0 then .exited 1
  else if status = 0 then .reconnect
  else if i + 1 < maxRecvPerLoop then .recv (i + 1)
  else .reconnect

/-- One step; `none` if the input is not what the next step takes. -/
def routerStep (env : RouterEnv) (input : RouterInput) (s : Router) : Option Router :=
  match input with
  | .loopTop uticks =>
      if s.pc = .top then
        let s := { s with coalesce := coalesceFlushWaiting env.coalesce uticks s.coalesce }
        some (s.goTo .flushed)
      else none
  | .waitMs now =>
      if s.pc = .flushed then some (s.goTo (.sleep (waitMs now s))) else none
  | .wait =>
      match s.pc with
      | .sleep ms => some (s.goTo (.wait ms))
      | _ => none
  | .woken running =>
      match s.pc with
      | .wait _ => some (s.goTo (if running then .recv 0 else .exited 0))
      | _ => none
  | .recvfrom result fuel =>
      match s.pc with
      | .recv i =>
          match doUdpRecv fuel result s with
          | none => none
          | some (.abort, s) => some (s.goTo .aborted)
          | some (.status n, s) => some (s.goTo (afterRecv i n))
      | _ => none
  | .reconnect ticks host now =>
      if s.pc = .reconnect then
        some ((tryConnect env ticks host now s).goTo .register)
      else none
  | .register now =>
      if s.pc = .register then some ((tryRegister now s).goTo .top) else none
  | .coalesceSend call =>
      if s.pc ≠ .aborted ∧ s.dosboxState = .connected then
        let call := { call with
          dosboxLocalNetnum := s.dosboxLocalNetnum
          dosboxLocalNodenum := s.dosboxLocalNodenum }
        some { s with coalesce := (coalesceSend env.coalesce call s.coalesce).2 }
      else none
  | .renewInterfaceCache =>
      if s.pc ≠ .aborted then some (renewInterfaceCache s) else none

/-- The steps of a run of the router from its start. -/
def routerMoves (env : RouterEnv) (inputs : List RouterInput) : List (Move RouterInput Router) :=
  moves (routerStep env) inputs .init

end IpxWrapper
