import IpxWrapper.Base.LockOwner
import IpxWrapper.SocketTable

/-!
# The DirectPlay service provider (`directplay.c`)

The callbacks of the provider and one pass of its worker thread, as programs under the
lock of `sp_data`. What the system and DirectPlay do in a call is given with it; a
`GetSPData` that fails aborts the process.

The data has with `sp_data` the sockets that were opened and not closed; `closesocket` on
any other descriptor, or on -1, sets `misuse`. A call of DirectPlay or of the system that
the provider makes is an operation: it leaves the data as it is, but for the two that start
and stop the worker.
-/

namespace IpxWrapper

open Base LockProg

/-! ## `struct sp_data` -/

structure SpData where
  /-- `none` is -1, here and in `nsSock`. -/
  sock : Option Nat
  nsSock : Option Nat
  nsAddr : SockaddrIpx
  nsId : UInt32
  running : Bool
  /-- The thread that `worker_thread` is a handle of. -/
  workerThread : Option Nat
  /-- The descriptors that `socket` returned and `closesocket` has not been given since. -/
  unclosed : Finset Nat
  misuse : Bool
deriving DecidableEq

namespace SpData

/-- `SPInit`; `nsAddr` and `nsId` are what is on its stack. -/
def init (nsAddr : SockaddrIpx) (nsId : UInt32) : SpData where
  sock := none
  nsSock := none
  nsAddr := { nsAddr with family := 0 }
  nsId := nsId
  running := true
  workerThread := none
  unclosed := ∅
  misuse := false

/-- The system opens a socket. -/
def opened (fd : Nat) (s : SpData) : SpData := { s with unclosed := insert fd s.unclosed }

def closesocket (fd : Option Nat) (s : SpData) : SpData :=
  match fd with
  | none => { s with misuse := true }
  | some fd =>
      if fd ∈ s.unclosed then { s with unclosed := s.unclosed.erase fd }
      else { s with misuse := true }

end SpData

/-- Which of its sockets `recv_packet` is given. -/
inductive SpSocket where
  | sock
  | nsSock
deriving DecidableEq

def SpData.fd (s : SpData) : SpSocket → Option Nat
  | .sock => s.sock
  | .nsSock => s.nsSock

def SpData.setFd (which : SpSocket) (fd : Option Nat) (s : SpData) : SpData :=
  match which with
  | .sock => { s with sock := fd }
  | .nsSock => { s with nsSock := fd }

theorem SpData.closesocket_workerThread (fd : Option Nat) (s : SpData) :
    (s.closesocket fd).workerThread = s.workerThread := by
  unfold SpData.closesocket
  split
  · rfl
  · split <;> rfl

theorem SpData.setFd_workerThread (which : SpSocket) (fd : Option Nat) (s : SpData) :
    (s.setFd which fd).workerThread = s.workerThread := by
  cases which <;> rfl

/-! ## Calls and their surroundings -/

/-- `HRESULT`. -/
abbrev HResult := UInt32

def DP_OK : HResult := 0

/-- `E_FAIL`. -/
def DPERR_GENERIC : HResult := 0x80004005

/-- `DISCOVERY_SOCKET`. -/
def discoverySocket : UInt16 := 42367

/-- `API_HEADER_SIZE`. -/
def apiHeaderSize : Nat := 20

/-- `CREATEPLAYER_NS`. -/
def createPlayerNs : UInt32 := 2

/-- `CREATEPLAYER_SELF`. -/
def createPlayerSelf : UInt32 := 8

/-- What `GetSPPlayerData` returns: an error, or the address (`none` is `NULL`) and its size. -/
abbrev PlayerData := Except HResult (Option SockaddrIpx × UInt32)

/-- What a new worker meets before its loop. -/
structure WorkerStart where
  spData : Bool
  malloc : Bool

/-- What `init_main_socket` and `init_disc_socket` meet. -/
structure InitSocketEnv where
  /-- The descriptor that `socket` returns. -/
  socket : Option Nat
  /-- The address of the main socket; `init_main_socket` does not ask for it. -/
  getsockname : Option SockaddrIpx
  bind : Bool
  eventSelect : Bool

structure SpEnumSessionsEnv where
  spData : Bool
  /-- The thread that `CreateThread` makes. -/
  createThread : Option (Nat × WorkerStart)
  mainSocket : InitSocketEnv
  getsockname : Option SockaddrIpx
  sendto : Bool

structure SpSendEnv where
  playerData : PlayerData
  nsData : Bool
  spData : Bool
  sendto : Bool

structure SpReplyEnv where
  spData : Bool
  playerData : PlayerData
  sendto : Bool

structure SpCreatePlayerEnv where
  nsData : Bool
  discSocket : InitSocketEnv
  spData : Bool
  getsockname : Option SockaddrIpx
  /-- What `SetSPPlayerData` returns. -/
  setPlayerData : HResult
  playerData : PlayerData

structure SpOpenEnv where
  spData : Bool
  createThread : Option (Nat × WorkerStart)
  mainSocket : InitSocketEnv

structure SpShutdownEnv where
  spData : Bool
  /-- The worker does not end within three seconds. -/
  timesOut : Bool

/-- A callback, with its arguments and what it meets. -/
inductive SpCall where
  | enumSessions (message : List Byte) (env : SpEnumSessionsEnv)
  | send (idPlayerTo : UInt32) (message : List Byte) (env : SpSendEnv)
  | reply (idNameServer : UInt32) (spMessageHeader : Option SockaddrIpx) (message : List Byte)
      (env : SpReplyEnv)
  | createPlayer (idPlayer dwFlags : UInt32) (env : SpCreatePlayerEnv)
  | open (bCreate : Bool) (spMessageHeader : Option SockaddrIpx) (env : SpOpenEnv)
  | closeEx (spData : Bool)
  | shutdownEx (env : SpShutdownEnv)

/-- What the provider asks of the system and of DirectPlay. -/
inductive SpOp where
  | bind (fd : Nat) (addr : SockaddrIpx)
  | sendto (fd : Option Nat) (message : List Byte) (addr : SockaddrIpx)
  | setPlayerData (idPlayer : UInt32) (addr : SockaddrIpx)
  | handleMessage (message : List Byte) (addr : SockaddrIpx)
  /-- `CreateThread`, with the handle put in `worker_thread`. -/
  | createThread (worker : Nat) (start : WorkerStart)
  /-- The wait for the worker of `worker_thread`, which is terminated if that times out; the
  handle is closed and `worker_thread` is `NULL` then. -/
  | stopWorker (timesOut : Bool)
  | deleteLock
  /-- The callback returns. -/
  | returned (call : SpCall)

/-- What an operation leaves in the data. -/
def SpOp.effect (op : SpOp) (s : SpData) : SpData :=
  match op with
  | .createThread worker _ => { s with workerThread := some worker }
  | .stopWorker _ => { s with workerThread := none }
  | _ => s

abbrev SpProg (α : Type) := LockProg SpData SpOp α

/-! ## Sockets -/

/-- `get_sp_data`, if `GetSPData` succeeds. -/
def getSpData (spData : Bool) : SpProg Unit :=
  if spData then acquire else stop

/-- `release_sp_data`. -/
def releaseSpData : SpProg Unit := release

/-- `socket` returns `fd`, which is not open. -/
def openSpSocket (fd : Nat) : SpProg Unit := do
  let s ← read
  if fd ∈ s.unclosed then stop else modify (·.opened fd)

def closeSpSocket (fd : Option Nat) : SpProg Unit := modify (·.closesocket fd)

/-- `init_worker`. -/
def initWorker (createThread : Option (Nat × WorkerStart)) : SpProg Bool := do
  let s ← read
  if s.workerThread.isSome then
    pure true
  else
    match createThread with
    | none => pure false
    | some (worker, start) => do
        await (.createThread worker start)
        pure true

/-- The address that `init_main_socket` binds to. -/
def anyIpxAddr : SockaddrIpx := ⟨AF_IPX, 0, 0, 0⟩

/-- `init_main_socket`. -/
def initMainSocket (env : InitSocketEnv) : SpProg Bool := do
  let s ← read
  if s.sock = none then
    match env.socket with
    | none => pure false
    | some fd => do
        openSpSocket fd
        await (.bind fd anyIpxAddr)
        if !env.bind then do
          closeSpSocket (some fd)
          pure false
        else if !env.eventSelect then do
          closeSpSocket (some fd)
          pure false
        else do
          modify (·.setFd .sock (some fd))
          pure true
  else
    pure true

/-- `init_disc_socket`. -/
def initDiscSocket (env : InitSocketEnv) : SpProg Bool := do
  let s ← read
  if s.nsSock = none then
    match env.socket with
    | none => pure false
    | some fd => do
        openSpSocket fd
        match env.getsockname with
        | none => do
            closeSpSocket (some fd)
            pure false
        | some addr => do
            await (.bind fd { addr with socket := htons discoverySocket })
            if !env.bind then do
              closeSpSocket (some fd)
              pure false
            else if !env.eventSelect then do
              closeSpSocket (some fd)
              pure false
            else do
              modify (·.setFd .nsSock (some fd))
              pure true
  else
    pure true

/-- The provider sends a message by its main socket, and releases the lock. -/
def sendAndRelease (message : List Byte) (addr : SockaddrIpx) (sendto : Bool) : SpProg HResult := do
  let s ← read
  await (.sendto s.sock (message.drop apiHeaderSize) addr)
  releaseSpData
  pure (if sendto then DP_OK else DPERR_GENERIC)

/-! ## Callbacks -/

/-- `IPX_EnumSessions`. -/
def ipxEnumSessions (message : List Byte) (env : SpEnumSessionsEnv) : SpProg HResult := do
  getSpData env.spData
  if !(← initWorker env.createThread) then do
    releaseSpData
    pure DPERR_GENERIC
  else if !(← initMainSocket env.mainSocket) then do
    releaseSpData
    pure DPERR_GENERIC
  else
    match env.getsockname with
    | none => do
        releaseSpData
        pure DPERR_GENERIC
    | some myAddr =>
        sendAndRelease message
          { myAddr with nodenum := bcastNode, socket := htons discoverySocket } env.sendto

/-- `IPX_Send` from where it knows the address. -/
def sendTo (message : List Byte) (addr : SockaddrIpx) (env : SpSendEnv) : SpProg HResult := do
  getSpData env.spData
  sendAndRelease message addr env.sendto

/-- `IPX_Send`. -/
def ipxSend (idPlayerTo : UInt32) (message : List Byte) (env : SpSendEnv) : SpProg HResult :=
  if idPlayerTo ≠ 0 then
    match env.playerData with
    | .error r => pure r
    | .ok (some addr, size) =>
        if size = 14 then sendTo message addr env else pure DPERR_GENERIC
    | .ok (none, _) => pure DPERR_GENERIC
  else do
    getSpData env.nsData
    let s ← read
    releaseSpData
    if s.nsAddr.family = 0 then pure DPERR_GENERIC else sendTo message s.nsAddr env

/-- What `IPX_Reply` does where the name server has changed. -/
def SpData.updateNameServer (idNameServer : UInt32) (playerData : PlayerData) (s : SpData) : SpData :=
  if s.nsId ≠ idNameServer then
    match playerData with
    | .ok (some addr, size) =>
        if size = 14 then { s with nsAddr := addr, nsId := idNameServer } else s
    | _ => s
  else
    s

theorem SpData.updateNameServer_workerThread (idNameServer : UInt32) (playerData : PlayerData)
    (s : SpData) : (s.updateNameServer idNameServer playerData).workerThread = s.workerThread := by
  unfold SpData.updateNameServer
  split
  · split
    · split <;> rfl
    · rfl
  · rfl

/-- `IPX_Reply`. -/
def ipxReply (idNameServer : UInt32) (spMessageHeader : Option SockaddrIpx) (message : List Byte)
    (env : SpReplyEnv) : SpProg HResult := do
  getSpData env.spData
  modify (·.updateNameServer idNameServer env.playerData)
  match spMessageHeader with
  | none => pure DPERR_GENERIC
  | some toAddr => sendAndRelease message toAddr env.sendto

/-- What `IPX_CreatePlayer` does for a local player. -/
def createLocalPlayer (idPlayer dwFlags : UInt32) (env : SpCreatePlayerEnv) : SpProg HResult := do
  if dwFlags &&& createPlayerNs ≠ 0 then do
    getSpData env.nsData
    let _ ← initDiscSocket env.discSocket
    releaseSpData
  getSpData env.spData
  releaseSpData
  match env.getsockname with
  | none => pure DPERR_GENERIC
  | some myAddr => do
      await (.setPlayerData idPlayer myAddr)
      pure env.setPlayerData

/-- `IPX_CreatePlayer`. -/
def ipxCreatePlayer (idPlayer dwFlags : UInt32) (env : SpCreatePlayerEnv) : SpProg HResult :=
  if dwFlags &&& createPlayerSelf ≠ 0 then
    createLocalPlayer idPlayer dwFlags env
  else
    match env.playerData with
    | .error r => pure r
    | .ok _ => pure DP_OK

/-- What `IPX_Open` does with the address of the name server. -/
def openNameServer (bCreate : Bool) (spMessageHeader : Option SockaddrIpx) : SpProg Unit :=
  match bCreate, spMessageHeader with
  | false, some addr => modify fun s => { s with nsAddr := addr, nsId := 0 }
  | _, _ => pure ()

/-- `IPX_Open`. -/
def ipxOpen (bCreate : Bool) (spMessageHeader : Option SockaddrIpx) (env : SpOpenEnv) :
    SpProg HResult := do
  getSpData env.spData
  if !(← initWorker env.createThread) then do
    releaseSpData
    pure DPERR_GENERIC
  else if !(← initMainSocket env.mainSocket) then do
    releaseSpData
    pure DPERR_GENERIC
  else do
    openNameServer bCreate spMessageHeader
    releaseSpData
    pure DP_OK

/-- What `IPX_CloseEx` and `IPX_ShutdownEx` do with the sockets. -/
def closeSockets : SpProg Unit := do
  let s ← read
  if s.nsSock ≠ none then do
    closeSpSocket s.nsSock
    modify (·.setFd .nsSock none)
  let s ← read
  -- the other way about than the test of `ns_sock`
  if s.sock = none then do
    closeSpSocket s.sock
    modify (·.setFd .sock none)

/-- `IPX_CloseEx`. -/
def ipxCloseEx (spData : Bool) : SpProg HResult := do
  getSpData spData
  closeSockets
  releaseSpData
  pure DP_OK

/-- `IPX_ShutdownEx`; the sockets are closed without the lock. -/
def ipxShutdownEx (env : SpShutdownEnv) : SpProg HResult := do
  getSpData env.spData
  modify fun s => { s with running := false }
  releaseSpData
  await (.stopWorker env.timesOut)
  closeSockets
  await .deleteLock
  pure DP_OK

def SpCall.prog : SpCall → SpProg HResult
  | enumSessions message env => ipxEnumSessions message env
  | send idPlayerTo message env => ipxSend idPlayerTo message env
  | reply idNameServer spMessageHeader message env =>
      ipxReply idNameServer spMessageHeader message env
  | createPlayer idPlayer dwFlags env => ipxCreatePlayer idPlayer dwFlags env
  | SpCall.open bCreate spMessageHeader env => ipxOpen bCreate spMessageHeader env
  | closeEx spData => ipxCloseEx spData
  | shutdownEx env => ipxShutdownEx env

/-- A callback from its call to its return. -/
def SpCall.run (call : SpCall) : SpProg HResult := do
  let r ← call.prog
  await (.returned call)
  pure r

/-! ## The worker -/

/-- What `recvfrom` returns in `recv_packet`. -/
inductive SpRecv where
  | failed (error : UInt32)
  /-- A message, and the callbacks that `HandleMessage` calls for it. -/
  | received (message : List Byte) (addr : SockaddrIpx) (calls : List SpCall)

structure RecvPacketEnv where
  spData : Bool
  recvfrom : SpRecv

/-- The callbacks that `HandleMessage` calls, one after the other. -/
def handleCalls : List SpCall → SpProg Unit
  | [] => pure ()
  | call :: rest => do
      let _ ← call.run
      handleCalls rest

/-- `recv_packet`. -/
def recvSpPacket (which : SpSocket) (env : RecvPacketEnv) : SpProg Unit := do
  getSpData env.spData
  let s ← read
  if s.fd which = none then
    releaseSpData
  else
    match env.recvfrom with
    | .failed error =>
        if error = WSAEWOULDBLOCK ∨ error = WSAECONNRESET then
          releaseSpData
        else do
          closeSpSocket (s.fd which)
          modify (·.setFd which none)
          releaseSpData
    | .received message addr calls => do
        releaseSpData
        await (.handleMessage message addr)
        handleCalls calls

/-- What a pass of `worker_main` meets. -/
structure WorkerPassEnv where
  spData : Bool
  sock : RecvPacketEnv
  nsSock : RecvPacketEnv

/-- How the program of a thread ends. -/
inductive SpEnd where
  /-- A callback of the application returns. -/
  | returned (r : HResult)
  /-- The worker waits for its event again. -/
  | again
  /-- The worker leaves its loop. -/
  | left
deriving DecidableEq

/-- `worker_main` up to its loop. -/
def workerStart (env : WorkerStart) : SpProg SpEnd := do
  getSpData env.spData
  releaseSpData
  if env.malloc then pure .again else stop

/-- One pass of the loop of `worker_main`. -/
def workerPass (env : WorkerPassEnv) : SpProg SpEnd := do
  getSpData env.spData
  let s ← read
  if !s.running then
    pure .left
  else do
    releaseSpData
    recvSpPacket .sock env.sock
    recvSpPacket .nsSock env.nsSock
    pure .again

end IpxWrapper
