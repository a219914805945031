import IpxWrapper.Packet
import IpxWrapper.Winsock
import IpxWrapper.Base.Loop

/-!
# Packet coalescing (`coalesce.c`)

While packets to one IPX address are sent at a high rate they are held back
for up to 20 ms and leave together, as the payload of one container.

A `coalesce_dest` pointer is its index among the nodes allocated, so
`coalesceTable` is the heap of nodes and the hash table at once, and
`coalescePending` is a list of pointers. Of a node's buffer the `payload_used`
bytes in use are kept. What a call finds around it (the clock, the outcome of
`malloc`, stack bytes that C leaves unspecified) is part of the call; the
results of `r_sendto` are given by the number of the call.
-/

namespace IpxWrapper

open Base Loop

/-- `IPXWRAPPER_COALESCE_PACKET_TRACK_COUNT`. -/
def trackCount : Nat := 512

/-- `IPXWRAPPER_COALESCE_PACKET_START_THRESH`, in microseconds. -/
def startThresh : UInt64 := 2500000

/-- `IPXWRAPPER_COALESCE_PACKET_STOP_THRESH`, in microseconds. -/
def stopThresh : UInt64 := 10000000

/-- `IPXWRAPPER_COALESCE_PACKET_MAX_DELAY`, in microseconds. -/
def maxDelay : UInt64 := 20000

/-- `IPXWRAPPER_COALESCE_PACKET_MAX_SIZE`. -/
def coalesceMaxSize : Nat := 1384

/-- A destination, as the application means it. -/
structure IpxDest where
  netnum : Addr32
  nodenum : Addr48
  socket : UInt16
deriving DecidableEq

/-- `coalesce_table_key`. The hash table compares its raw bytes, so the bytes
the compiler puts between the members count. -/
structure CoalesceTableKey where
  dest : IpxDest
  padding : List Byte
deriving DecidableEq

structure CoalesceDest where
  key : CoalesceTableKey
  active : Bool
  sendTimestamps : List UInt64
  payloadTimestamp : UInt64
  /-- The first `payload_used` bytes of `payload`. -/
  payload : List Byte

def CoalesceDest.payloadUsed (cd : CoalesceDest) : Nat := cd.payload.length

theorem CoalesceDest.payloadUsed_eq_zero_iff (cd : CoalesceDest) :
    cd.payloadUsed = 0 ↔ cd.payload = [] :=
  List.length_eq_zero_iff

def CoalesceDest.dest (cd : CoalesceDest) : IpxDest := cd.key.dest

/-- A datagram given to `r_sendto`, by the call that sends it. -/
inductive Sent where
  /-- A packet sent by `coalesce_send` itself. -/
  | immediate (data : List Byte)
  /-- A payload sent by `coalesce_flush`. -/
  | container (data : List Byte)
deriving DecidableEq

def Sent.data : Sent → List Byte
  | .immediate data => data
  | .container data => data

/-- What stays the same from call to call. -/
structure CoalesceEnv where
  /-- `main_config.dosbox_coalesce`. -/
  dosboxCoalesce : Bool
  /-- The result of each `r_sendto` call. -/
  sendto : Nat → Int
  /-- `WSAGetLastError()` after it. -/
  lastError : Nat → UInt32

structure CoalesceState where
  coalesceTable : List CoalesceDest
  coalescePending : List Nat
  /-- The `r_sendto` calls made, in order. -/
  sent : List Sent
  sendPacketsUdp : UInt32
  sendBytesUdp : UInt32
  /-- One of the two assertions has failed. -/
  assertFailed : Bool

/-- `assert`, recorded: the model goes on after one that fails. -/
def CoalesceState.assert (s : CoalesceState) (holds : Bool) : CoalesceState :=
  { s with assertFailed := s.assertFailed || !holds }

def CoalesceState.init : CoalesceState := ⟨[], [], [], 0, 0, false⟩

/-- A call of `coalesce_send`: its arguments and what it finds. -/
structure SendCall where
  data : List Byte
  dest : IpxDest
  /-- `get_uticks()`. -/
  now : UInt64
  /-- The padding of the local variable `dest`, and of `node->dest` once assigned. -/
  keyPadding : List Byte
  nodePadding : List Byte
  mallocOk : Bool
  /-- What the stack holds where `header.length` lies. -/
  lengthJunk : Byte × Byte
  dosboxLocalNetnum : Addr32
  dosboxLocalNodenum : Addr48

variable (env : CoalesceEnv)

/-- `HASH_FIND` on the raw bytes of a key; the latest node added comes first. -/
def hashFind (key : CoalesceTableKey) : List CoalesceDest → Option Nat
  | [] => none
  | cd :: rest =>
      match hashFind key rest with
      | some i => some (i + 1)
      | none => if cd.key = key then some 0 else none

def newCoalesceDest (key : CoalesceTableKey) : CoalesceDest where
  key := key
  active := false
  sendTimestamps := List.replicate trackCount 0
  payloadTimestamp := 0
  payload := []

/-- `get_coalesce_by_dest`. -/
def getCoalesceByDest (call : SendCall) (s : CoalesceState) : Option Nat × CoalesceState :=
  if env.dosboxCoalesce = false then
    (none, s)
  else
    match hashFind ⟨call.dest, call.keyPadding⟩ s.coalesceTable with
    | some i => (some i, s)
    | none =>
        if call.mallocOk then
          (some s.coalesceTable.length,
            { s with
              coalesceTable :=
                s.coalesceTable ++ [newCoalesceDest ⟨call.dest, call.nodePadding⟩] })
        else
          (none, s)

/-- `coalesce_register_send`. -/
def coalesceRegisterSend (node : CoalesceDest) (timestamp : UInt64) : Bool × CoalesceDest :=
  let sendTimestamps := node.sendTimestamps.tail ++ [timestamp]
  let first := sendTimestamps.headD 0
  let shouldCoalesce :=
    if timestamp ≤ first + startThresh then true
    else if node.active ∧ first + stopThresh < timestamp then false
    else node.active
  (shouldCoalesce, { node with sendTimestamps := sendTimestamps })

/-- The header `coalesce_add_data` puts in front of a container for `dest`. -/
def containerHeader (lengthField : Byte × Byte) (dest : IpxDest)
    (localNetnum : Addr32) (localNodenum : Addr48) : List Byte :=
  NovellIpxPacket.header lengthField ipxMagicCoalesced dest.netnum dest.nodenum 0
    localNetnum localNodenum 0

def CoalesceState.setNode (s : CoalesceState) (i : Nat) (cd : CoalesceDest) : CoalesceState :=
  { s with coalesceTable := s.coalesceTable.set i cd }

/-- `coalesce_add_data`. -/
def coalesceAddData (call : SendCall) (i : Nat) (s : CoalesceState) : Bool × CoalesceState :=
  match s.coalesceTable[i]? with
  | none => (false, s)
  | some cd =>
      if cd.payloadUsed = 0 then
        let header :=
          containerHeader call.lengthJunk cd.dest call.dosboxLocalNetnum call.dosboxLocalNodenum
        if coalesceMaxSize < NovellIpxPacket.size + call.data.length then
          (false, s)
        else
          (true,
            { s.setNode i
                { cd with payloadTimestamp := call.now, payload := header ++ call.data } with
              coalescePending := s.coalescePending ++ [i] })
      else if cd.payloadUsed + call.data.length ≤ coalesceMaxSize then
        (true, s.setNode i { cd with payload := cd.payload ++ call.data })
      else
        (false, s)

/-- An `r_sendto` call, and the counters after it. -/
def rSendto (datagram : Sent) (s : CoalesceState) : Bool × CoalesceState :=
  let s' := { s with sent := s.sent ++ [datagram] }
  if env.sendto s.sent.length < 0 then
    (false, s')
  else
    (true,
      { s' with
        sendPacketsUdp := s.sendPacketsUdp + 1
        sendBytesUdp := s.sendBytesUdp + UInt32.ofNat datagram.data.length })

/-- `coalesce_flush`. -/
def coalesceFlush (i : Nat) (s : CoalesceState) : CoalesceState :=
  match s.coalesceTable[i]? with
  | none => s
  | some cd =>
      let field := lengthBytes cd.payloadUsed
      let data := (cd.payload.set 2 field.1).set 3 field.2
      let s := s.assert (0 < cd.payloadUsed)
      let s := (rSendto env (.container data) s).2
      { s.setNode i { cd with payload := [] } with
        coalescePending := s.coalescePending.erase i }

/-- `payload_used > 0` and the oldest byte has waited for long enough. -/
def CoalesceDest.Due (cd : CoalesceDest) (now : UInt64) : Prop :=
  0 < cd.payloadUsed ∧ cd.payloadTimestamp + maxDelay ≤ now

instance (cd : CoalesceDest) (now : UInt64) : Decidable (cd.Due now) :=
  inferInstanceAs (Decidable (_ ∧ _))

/-- The flush that makes room for a small packet in a nearly full container. -/
def CoalesceDest.MakesRoom (cd : CoalesceDest) (size : Nat) : Prop :=
  coalesceMaxSize < cd.payloadUsed + size ∧ size < coalesceMaxSize / 2

instance (cd : CoalesceDest) (size : Nat) : Decidable (cd.MakesRoom size) :=
  inferInstanceAs (Decidable (_ ∧ _))

/-- The flag `active` follows the decision. -/
def CoalesceDest.setActive (cd : CoalesceDest) (shouldCoalesce : Bool) : CoalesceDest :=
  if shouldCoalesce ∧ ¬ cd.active then { cd with active := true }
  else if ¬ shouldCoalesce ∧ cd.active then { cd with active := false }
  else cd

/-- The node once `coalesce_send` has registered a send. -/
def CoalesceDest.registered (node : CoalesceDest) (now : UInt64) : CoalesceDest :=
  (coalesceRegisterSend node now).2.setActive (coalesceRegisterSend node now).1

/-- The test in `coalesce_send` before data is added to node `i`. -/
def makeRoom (shouldCoalesce : Bool) (size : Nat) (i : Nat) (s : CoalesceState) :
    CoalesceState :=
  match s.coalesceTable[i]? with
  | none => s
  | some cd => if shouldCoalesce ∧ cd.MakesRoom size then coalesceFlush env i s else s

/-- The test in `coalesce_send` after that, on the age of the data. -/
def flushIfDue (now : UInt64) (i : Nat) (s : CoalesceState) : CoalesceState :=
  match s.coalesceTable[i]? with
  | none => s
  | some cd => if cd.Due now then coalesceFlush env i s else s

/-- The part of `coalesce_send` for a destination with a node: whether the
packet was queued. -/
def coalesceOnNode (call : SendCall) (i : Nat) (s : CoalesceState) : Bool × CoalesceState :=
  match s.coalesceTable[i]? with
  | none => (false, s)
  | some node =>
      let shouldCoalesce := (coalesceRegisterSend node call.now).1
      let s := s.setNode i (node.registered call.now)
      let s := makeRoom env shouldCoalesce call.data.length i s
      let added := if shouldCoalesce then coalesceAddData call i s else (false, s)
      (added.1, flushIfDue env call.now i added.2)

/-- `coalesce_send`. -/
def coalesceSend (call : SendCall) (s : CoalesceState) : UInt32 × CoalesceState :=
  let s := s.assert (0 < call.data.length)
  let found := getCoalesceByDest env call s
  let tried :=
    match found.1 with
    | none => (false, found.2)
    | some i => coalesceOnNode env call i found.2
  if tried.1 then
    (ERROR_SUCCESS, tried.2)
  else
    let attempt := rSendto env (.immediate call.data) tried.2
    (if attempt.1 then ERROR_SUCCESS else env.lastError tried.2.sent.length, attempt.2)

/-- The loop body of `coalesce_flush_waiting`. -/
def flushWaitingBody (now : UInt64) (s : CoalesceState) : Iter CoalesceState CoalesceState :=
  match s.coalescePending with
  | [] => .done s
  | i :: _ =>
      match s.coalesceTable[i]? with
      | none => .done s
      | some cd =>
          if cd.payloadTimestamp + maxDelay ≤ now then .next (coalesceFlush env i s) else .done s

/-- The loop body of the first loop of `coalesce_cleanup`. -/
def cleanupBody (s : CoalesceState) : Iter CoalesceState CoalesceState :=
  match s.coalescePending with
  | [] => .done s
  | i :: _ => .next (coalesceFlush env i s)

/-- A loop that flushes the head of the pending list ends within one pass for
each node in it. -/
def runFlushes (body : CoalesceState → Iter CoalesceState CoalesceState)
    (s : CoalesceState) : CoalesceState :=
  match run body (s.coalescePending.length + 1) s with
  | .next s' => s'
  | .done s' => s'

/-- `coalesce_flush_waiting`. -/
def coalesceFlushWaiting (now : UInt64) (s : CoalesceState) : CoalesceState :=
  runFlushes (flushWaitingBody env now) s

/-- `coalesce_cleanup`: every node is sent, then freed. -/
def coalesceCleanup (s : CoalesceState) : CoalesceState :=
  { runFlushes (cleanupBody env) s with coalesceTable := [] }

/-- The calls made on the coalescer. -/
inductive CoalesceOp where
  | send (call : SendCall)
  | flushWaiting (now : UInt64)
  | cleanup

def CoalesceOp.apply (op : CoalesceOp) (s : CoalesceState) : CoalesceState :=
  match op with
  | .send call => (coalesceSend env call s).2
  | .flushWaiting now => coalesceFlushWaiting env now s
  | .cleanup => coalesceCleanup env s

/-- A run of calls. -/
def runCoalesce (ops : List CoalesceOp) (s : CoalesceState) : CoalesceState :=
  ops.foldl (fun s op => op.apply env s) s

end IpxWrapper
