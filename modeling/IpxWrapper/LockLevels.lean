import IpxWrapper.LockedConnect

/-!
# The sockets lock is given back (`winsock.c`)

One `Levels` lemma a function: with how many levels of the lock above its caller's
it begins, and with how many it returns. `accept` returns with one too many when
there is no memory for the new socket; every other call keeps the level.
-/

namespace IpxWrapper

open Base LockProg

/-- A thread waits for readiness only with a number of levels that is `ready`; other
waits are free. -/
def Waits (ready : Nat → Prop) : WaitOp → Nat → Prop
  | .waitForReady, k => ready k
  | _, _ => True

/-- `Levels`, for a function of the table. -/
abbrev Wrapper.Levels {α : Type} (p : Wrapper α) (ready : Nat → Prop) (i : Nat) (j : α → Nat) :
    Prop :=
  LockProg.Levels p (Waits ready) i j

namespace Locked

variable {α : Type} {ready : Nat → Prop} {i : Nat}

/-! ## The lock -/

/-- The levels with which a function returns that keeps the lock if it finds something. -/
def heldIf (i : Nat) : Option α → Nat
  | none => i
  | some _ => i + 1

/-- The levels with which a function returns that keeps the lock on success. -/
def heldOn (i : Nat) : Bool → Nat
  | false => i
  | true => i + 1

theorem leave_levels {out : α} : (leave out).Levels ready (i + 1) fun _ => i :=
  Levels.release_ret

theorem getSocket_levels {fd : Nat} : (getSocket fd).Levels ready i (heldIf i) := by
  refine Levels.acquire.bind fun _ => Levels.read.bind fun w => ?_
  rcases w.sockets fd with _ | e
  · exact Levels.release.bind fun _ => Levels.ret rfl
  · exact Levels.ret rfl

theorem getSocketWaitForReady_levels {fd : Nat} (now : ready i) :
    (getSocketWaitForReady fd).Levels ready i (heldIf i) := by
  refine getSocket_levels.bind ?_
  rintro (_ | e)
  · exact Levels.ret rfl
  · exact Levels.release.bind fun _ => (Levels.await now).bind fun _ => getSocket_levels

theorem reclaimSocket_levels {e : TableEntry} {fd : Nat} :
    (reclaimSocket e fd).Levels ready i (heldOn i) := by
  refine getSocket_levels.bind ?_
  rintro (_ | found)
  · exact Levels.ret rfl
  · dsimp only
    split_ifs
    · exact Levels.release.bind fun _ => Levels.ret rfl
    · exact Levels.ret rfl

theorem passOn_levels {fd : Nat} : (passOn fd).Levels ready i fun _ => i := by
  refine getSocket_levels.bind ?_
  rintro (_ | e)
  · exact Levels.ret rfl
  · exact Levels.stop

/-- A call that looks its descriptor up first. -/
theorem getSocket_bind {β : Type} {fd : Nat} {f : Option TableEntry → Wrapper β}
    {j : β → Nat} (other : (f none).Levels ready i j) (ipx : ∀ e, (f (some e)).Levels ready (i + 1) j) :
    (getSocket fd >>= f).Levels ready i j := by
  refine getSocket_levels.bind ?_
  rintro (_ | e)
  · exact other
  · exact ipx e

theorem getSocketWaitForReady_bind {β : Type} {fd : Nat} {f : Option TableEntry → Wrapper β}
    {j : β → Nat} (now : ready i) (other : (f none).Levels ready i j)
    (ipx : ∀ e, (f (some e)).Levels ready (i + 1) j) :
    (getSocketWaitForReady fd >>= f).Levels ready i j := by
  refine (getSocketWaitForReady_levels now).bind ?_
  rintro (_ | e)
  · exact other
  · exact ipx e

theorem awaitRet_levels {op : WaitOp} {out : α} (free : Waits ready op i) :
    (do await op; pure out : Wrapper α).Levels ready i fun _ => i :=
  (Levels.await free).bind fun _ => Levels.ret rfl

theorem unlockAwait_levels {op : WaitOp} {out : α} (free : Waits ready op i) :
    (do unlockSockets; await op; pure out : Wrapper α).Levels ready (i + 1) fun _ => i :=
  Levels.release.bind fun _ => awaitRet_levels free

theorem modifyLeave_levels {f : World → World} {out : α} :
    (do modify f; leave out : Wrapper α).Levels ready (i + 1) fun _ => i :=
  Levels.modify.bind fun _ => leave_levels

/-! ## `socket`, `closesocket`, `bind` and `getsockname` -/

theorem addSocket_levels {f : World → World} {out : CallOut} :
    (do lockSockets; modify f; unlockSockets; pure out : Wrapper CallOut).Levels ready i
      fun _ => i :=
  Levels.acquire.bind fun _ => Levels.modify.bind fun _ => Levels.release_ret

theorem socket_levels {af : UInt16} {type protocol : Int} {env : SocketEnv} {encap : EncapType}
    {underlying : Int} :
    (socket af type protocol env encap underlying).Levels ready i fun _ => i := by
  unfold socket
  split_ifs
  · rcases env.nsock with _ | nsock
    · exact Levels.ret rfl
    rcases env.recvQueue with _ | ptr
    · exact Levels.ret rfl
    rcases env.criticalSection with _ | error
    · rcases env.rSocket with _ | fd
      · exact Levels.ret rfl
      · exact addSocket_levels
    · exact Levels.ret rfl
  · exact Levels.ret rfl
  · exact Levels.ret rfl
  · rcases env.nsock with _ | nsock
    · exact Levels.ret rfl
    rcases env.rSocket with _ | fd
    · exact Levels.ret rfl
    · exact addSocket_levels
  · exact Levels.ret rfl
  · exact Levels.ret rfl

theorem closesocket_levels {fd : Nat} {ret : Int} :
    (closesocket fd ret).Levels ready i fun _ => i := by
  refine getSocket_bind (Levels.ret rfl) fun e => ?_
  dsimp only
  split_ifs
  · exact leave_levels
  · exact modifyLeave_levels

theorem bind_levels {fd : Nat} {addr : SockaddrIpx} {addrlen : Nat} {env : BindEnv}
    {underlying : Int} (now : ready i) :
    (bind fd addr addrlen env underlying).Levels ready i fun _ => i := by
  refine getSocketWaitForReady_bind now (Levels.ret rfl) fun e => ?_
  dsimp only
  split
  · exact leave_levels
  split
  · exact leave_levels
  rcases resolveBindAddress env.cache addr _ with _ | sock
  · exact modifyLeave_levels
  refine Levels.read.bind fun w => ?_
  rcases completeBind env.mutex e.id sock w with ⟨_ | _, sock, w⟩
  · exact modifyLeave_levels
  · dsimp only
    split_ifs
    · rcases env.rGetsockname with _ | port
      · exact modifyLeave_levels
      · exact modifyLeave_levels
    · exact modifyLeave_levels

theorem getsockname_levels {fd addrlen : Nat} {underlying : Int} :
    (getsockname fd addrlen underlying).Levels ready i fun _ => i := by
  refine getSocket_bind (Levels.ret rfl) fun e => ?_
  dsimp only
  split_ifs <;> exact leave_levels

/-! ## Receiving -/

/-- `recv_pump` keeps the lock unless it fails. -/
def heldUnless (i : Nat) (out : CallOut) : Nat :=
  if out.value < 0 then i else i + 1

theorem recvPumpRecv_levels {fd : Nat} {e : TableEntry} {env : PumpEnv} :
    (recvPumpRecv fd e env).Levels ready (i + 1) (heldUnless i) := by
  refine Levels.release.bind fun _ => (Levels.await trivial).bind fun _ => ?_
  refine reclaimSocket_levels.bind ?_
  rintro (_ | _)
  · exact Levels.ret rfl
  · dsimp only
    split_ifs
    · exact Levels.release.bind fun _ => Levels.ret rfl
    · exact Levels.release.bind fun _ => Levels.ret rfl
    · exact Levels.ret rfl

theorem recvPump_levels {fd : Nat} {e : TableEntry} {block : Bool} {env : PumpEnv} :
    (recvPump fd e block env).Levels ready (i + 1) (heldUnless i) := by
  have pump : (if env.freeSlot then recvPumpRecv fd e env else pure (.ok 0)).Levels ready (i + 1)
      (heldUnless i) := by
    split_ifs
    · exact recvPumpRecv_levels
    · exact Levels.ret rfl
  unfold recvPump
  rcases block with _ | _
  · rcases env.available with _ | _ | available
    · exact Levels.release.bind fun _ => Levels.ret rfl
    · exact Levels.ret rfl
    · exact pump
  · exact pump

theorem recvPacketLoop_levels {fd : Nat} {e : TableEntry} {env : ReceiveEnv} {left k : Nat} :
    (recvPacketLoop fd e env left k).Levels ready (i + 1) fun failed =>
      if failed.isSome then i else i + 1 := by
  induction left generalizing k with
  | zero => exact Levels.stop
  | succ left ih =>
      unfold recvPacketLoop
      split_ifs
      · refine recvPump_levels.bind fun pumped => ?_
        unfold heldUnless
        split_ifs
        · exact Levels.ret rfl
        · exact ih
      · exact Levels.ret rfl

theorem recvPacket_levels {fd : Nat} {e : TableEntry} {env : ReceiveEnv} :
    (recvPacket fd e env).Levels ready (i + 1) fun _ => i := by
  unfold recvPacket
  split_ifs
  · refine recvPacketLoop_levels.bind ?_
    rintro (_ | failed)
    · exact leave_levels
    · exact Levels.ret rfl
  · exact leave_levels

/-- The end of a receiving function. -/
theorem recvPacket_bind {fd : Nat} {e : TableEntry} {env : ReceiveEnv} {len : Int}
    {long : CallOut} :
    (do
      let out ← recvPacket fd e env
      if len < out.value then pure long else pure out : Wrapper CallOut).Levels ready (i + 1)
        fun _ => i := by
  refine recvPacket_levels.bind fun out => ?_
  split_ifs
  · exact Levels.ret rfl
  · exact Levels.ret rfl

theorem recvfrom_levels {fd : Nat} {len : Int} {addrlen : Option Nat} {env : ReceiveEnv}
    {underlying : Int} : (recvfrom fd len addrlen env underlying).Levels ready i fun _ => i := by
  refine getSocket_bind (awaitRet_levels trivial) fun e => ?_
  dsimp only
  split_ifs
  · exact unlockAwait_levels trivial
  · exact leave_levels
  · exact recvPacket_bind

theorem recv_levels {fd : Nat} {len : Int} {env : ReceiveEnv} {underlying : Int} :
    (recv fd len env underlying).Levels ready i fun _ => i := by
  refine getSocket_bind (awaitRet_levels trivial) fun e => ?_
  dsimp only
  split_ifs
  · exact unlockAwait_levels trivial
  · exact recvPacket_bind

theorem WSARecvEx_levels {fd : Nat} {len : Int} {env : ReceiveEnv} {underlying : Int} :
    (WSARecvEx fd len env underlying).Levels ready i fun _ => i := by
  refine getSocket_bind (awaitRet_levels trivial) fun e => ?_
  dsimp only
  split_ifs
  · exact unlockAwait_levels trivial
  · exact recvPacket_bind

theorem ioctlsocketLoop_levels {fd : Nat} {e : TableEntry} {env : ReceiveEnv} {left k : Nat} :
    (ioctlsocketLoop fd e env left k).Levels ready (i + 1) fun failed =>
      if failed.isSome then i else i + 1 := by
  induction left generalizing k with
  | zero => exact Levels.stop
  | succ left ih =>
      unfold ioctlsocketLoop
      refine recvPump_levels.bind fun pumped => ?_
      unfold heldUnless
      split_ifs
      · exact Levels.ret rfl
      · exact Levels.ret rfl
      · exact ih

theorem ioctlsocket_levels {fd : Nat} {fionread : Bool} {env : ReceiveEnv} {underlying : Int} :
    (ioctlsocket fd fionread env underlying).Levels ready i fun _ => i := by
  refine getSocket_bind (Levels.ret rfl) fun e => ?_
  dsimp only
  split_ifs
  · refine ioctlsocketLoop_levels.bind ?_
    rintro (_ | failed)
    · exact leave_levels
    · exact Levels.ret rfl
  · exact leave_levels

/-! ## Options -/

theorem returnOpt_levels {val : OptVal} {optlen : Nat} :
    (returnOpt val optlen).Levels ready (i + 1) fun _ => i := by
  unfold returnOpt
  split_ifs <;> exact leave_levels

theorem getsockopt_levels {fd : Nat} {level optname : Int} {optlen : Nat} {env : GetsockoptEnv}
    {underlying : Int} (now : ready i) :
    (getsockopt fd level optname optlen env underlying).Levels ready i fun _ => i := by
  refine getSocketWaitForReady_bind now (Levels.ret rfl) fun e => Levels.read.bind fun w => ?_
  split_ifs
  all_goals first | exact returnOpt_levels | exact leave_levels | skip
  rcases env.nic with _ | nic <;> exact leave_levels

theorem setOpt_levels {fd : Nat} {e : TableEntry} {sock : IpxSocket} {optlen : Int} :
    (setOpt fd e sock optlen).Levels ready (i + 1) fun _ => i := by
  unfold setOpt
  split_ifs
  · exact leave_levels
  · exact modifyLeave_levels

theorem setsockopt_levels {fd : Nat} {level optname optval optlen underlying : Int} :
    (setsockopt fd level optname optval optlen underlying).Levels ready i fun _ => i := by
  refine getSocket_bind (Levels.ret rfl) fun e => ?_
  dsimp only
  split_ifs
  all_goals first | exact setOpt_levels | exact leave_levels | exact modifyLeave_levels

/-! ## Sending -/

theorem relayEach_levels {privateSocket left : Nat} :
    (relayEach privateSocket left).Levels ready i fun _ => i := by
  induction left with
  | zero => exact Levels.ret rfl
  | succ left ih => exact passOn_levels.bind fun _ => ih

theorem deliverPacket_levels {privateSocket relays : Nat} :
    (deliverPacket privateSocket relays).Levels ready i fun _ => i :=
  Levels.acquire.bind fun _ => relayEach_levels.bind fun _ => Levels.release

theorem ipxSendPacket_levels {privateSocket : Nat} {out : SendOutcome} :
    (ipxSendPacket privateSocket out).Levels ready i fun _ => i := by
  unfold ipxSendPacket
  rcases out.delivered with _ | relays
  · exact Levels.ret rfl
  · exact deliverPacket_levels.bind fun _ => Levels.ret rfl

theorem sendtoBound_levels {len : Int} {env : SendtoEnv} :
    (sendtoBound len env).Levels ready (i + 1) fun _ => i := by
  refine Levels.read.bind fun w => ?_
  split_ifs
  · exact leave_levels
  · refine ipxSendPacket_levels.bind fun error => Levels.release.bind fun _ => ?_
    split_ifs
    · exact Levels.ret rfl
    · exact Levels.ret rfl

/-- `sendto` comes to its implicit `bind`, of the datagram socket that it has found. -/
structure SendtoBinds (e : TableEntry) (addr : Option SockaddrIpx) (addrlen : Nat) : Prop where
  dgram : ¬ e.sock.flags.isSpx
  given : addr ≠ none
  long : ¬ addrlen < sizeofSockaddrIpx
  send : e.sock.flags.send
  unbound : ¬ e.sock.flags.bound

theorem sendtoFound_levels {fd : Nat} {e : TableEntry} {len : Int} {addr : Option SockaddrIpx}
    {addrlen : Nat} {env : SendtoEnv} {underlying : Int}
    (inside : SendtoBinds e addr addrlen → ready (i + 1)) :
    (sendtoFound fd e len addr addrlen env underlying).Levels ready (i + 1) fun _ => i := by
  unfold sendtoFound
  split
  · exact unlockAwait_levels trivial
  rename_i dgram
  rcases addr with _ | ipxaddr
  · exact leave_levels
  dsimp only
  split_ifs with short send bound
  · exact leave_levels
  · exact sendtoBound_levels
  · refine (bind_levels (inside ⟨dgram, nofun, short, send, bound⟩)).bind fun bound => ?_
    split_ifs
    · exact leave_levels
    · exact sendtoBound_levels
  · exact leave_levels

theorem sendto_levels {fd : Nat} {len : Int} {addr : Option SockaddrIpx} {addrlen : Nat}
    {env : SendtoEnv} {underlying : Int} (now : ready i) (inside : ready (i + 1)) :
    (sendto fd len addr addrlen env underlying).Levels ready i fun _ => i :=
  getSocketWaitForReady_bind now (awaitRet_levels trivial) fun _ =>
    sendtoFound_levels fun _ => inside

theorem send_levels {fd : Nat} {len : Int} {env : SendtoEnv} {underlying : Int}
    (now : ready i) (inside : ready (i + 1)) :
    (send fd len env underlying).Levels ready i fun _ => i := by
  refine getSocket_bind (awaitRet_levels trivial) fun e => ?_
  dsimp only
  split_ifs
  · exact unlockAwait_levels trivial
  · exact Levels.release.bind fun _ => sendto_levels now inside
  · exact leave_levels

theorem shutdown_levels {fd : Nat} {cmd underlying : Int} :
    (shutdown fd cmd underlying).Levels ready i fun _ => i := by
  refine getSocket_bind (Levels.ret rfl) fun e => ?_
  dsimp only
  split_ifs
  · exact leave_levels
  · exact modifyLeave_levels

/-! ## `connect` -/

/-- `connect` keeps the lock through the lookup unless the socket was lost. -/
def heldAfter (i : Nat) : LookupEnd → Nat
  | .returned _ => i
  | .gaveUp _ => i + 1
  | .noReply => i + 1
  | .found _ _ _ => i + 1

theorem sendRequests_levels {env : ConnectingEnv} {k : Nat} {requests : List Nat}
    (any : ∀ k, ready k) : (sendRequests env k requests).Levels ready i fun _ => i := by
  induction requests with
  | nil => exact Levels.ret rfl
  | cons n rest ih =>
      exact (sendto_levels (any _) (any _)).bind fun _ => ih.bind fun _ => Levels.ret rfl

/-- The lookup ends after its socket is closed. -/
theorem closeLookup_bind {env : ConnectingEnv} {β : Type} {f : CallOut → Wrapper β} {j : β → Nat}
    (after : ∀ out, (f out).Levels ready i j) : (closeLookup env >>= f).Levels ready i j :=
  closesocket_levels.bind after

theorem awaitReply_levels {fd : Nat} {ipxaddr : SockaddrIpx} {env : ConnectingEnv}
    {e : TableEntry} {k : Nat} {events : List LookupEvent} :
    (awaitReply fd ipxaddr env e k events).Levels ready (i + 1) (heldAfter i) := by
  induction events with
  | nil => exact Levels.ret rfl
  | cons event rest ih =>
      refine Levels.release.bind fun _ => (Levels.await trivial).bind fun _ => ?_
      rcases event with _ | ⟨reply, ip⟩
      · exact closeLookup_bind fun _ => Levels.ret rfl
      refine getSocket_bind (closeLookup_bind fun _ => Levels.ret rfl) fun found => ?_
      dsimp only
      split
      · exact closeLookup_bind fun _ => Levels.release.bind fun _ => Levels.ret rfl
      refine recvfrom_levels.bind fun got => ?_
      rcases reply.filter fun _ => got.value = sizeofSpxlookupReply with _ | reply
      · exact ih
      dsimp only
      split
      · split
        · exact Levels.ret rfl
        · rcases ipxInterfaceBySubnet env.cache ip with _ | iface
          · exact ih
          · exact Levels.modify.bind fun _ => Levels.ret rfl
      · exact ih

theorem lookupTries_levels {fd : Nat} {ipxaddr : SockaddrIpx} {env : ConnectingEnv}
    {e : TableEntry} {bcastCount left k : Nat} (any : ∀ k, ready k) :
    (lookupTries fd ipxaddr env e bcastCount left k).Levels ready (i + 1) (heldAfter i) := by
  induction left generalizing k with
  | zero => exact Levels.ret rfl
  | succ left ih =>
      refine (sendRequests_levels any).bind fun sent => ?_
      split_ifs
      · refine awaitReply_levels.bind ?_
        rintro (out | out | _ | ⟨found, ip, port⟩)
        · exact Levels.ret rfl
        · exact Levels.ret rfl
        · exact ih
        · exact Levels.ret rfl
      · exact Levels.ret rfl

theorem sendSpxinit_levels {fd : Nat} {env : SendtoEnv} {sends : List Int} {c : Nat}
    (any : ∀ k, ready k) :
    (sendSpxinit fd env sends c).Levels ready (i + 1) fun _ => i := by
  induction sends generalizing c with
  | nil =>
      unfold sendSpxinit
      split_ifs
      · exact leave_levels
      · exact Levels.stop
  | cons s rest ih =>
      unfold sendSpxinit
      split_ifs
      · exact leave_levels
      · refine (send_levels (any _) (any _)).bind fun sent => ?_
        split_ifs
        · exact leave_levels
        · exact ih

theorem spxConnected_levels {fd : Nat} {e : TableEntry} {ipxaddr : SockaddrIpx}
    {env : ConnectingEnv} (any : ∀ k, ready k) :
    (spxConnected fd e ipxaddr env).Levels ready (i + 1) fun _ => i := by
  unfold spxConnected
  dsimp only
  split_ifs
  · exact Levels.modify.bind fun _ => sendSpxinit_levels any
  · rcases env.rGetsockname with _ | port
    · exact modifyLeave_levels
    refine Levels.read.bind fun w => ?_
    rcases completeBind env.mutex e.id _ w with ⟨_ | _, sock, w⟩
    · exact modifyLeave_levels
    · exact Levels.modify.bind fun _ => sendSpxinit_levels any

theorem spxConnect_levels {fd : Nat} {e : TableEntry} {ipxaddr : SockaddrIpx} {ip : UInt32}
    {port : UInt16} {env : ConnectingEnv} (any : ∀ k, ready k) :
    (spxConnect fd e ipxaddr ip port env).Levels ready (i + 1) fun _ => i := by
  refine (Levels.await trivial).bind fun _ => ?_
  rcases env.rConnect ip port with _ | writable | _
  · exact spxConnected_levels any
  · refine (Levels.await trivial).bind fun _ => ?_
    split_ifs
    · exact spxConnected_levels any
    · exact (getsockopt_levels (any _)).bind fun _ => leave_levels
  · exact leave_levels

theorem spxLookup_levels {fd : Nat} {e : TableEntry} {ipxaddr : SockaddrIpx} {bcastCount : Nat}
    {env : ConnectingEnv} (any : ∀ k, ready k) :
    (spxLookup fd e ipxaddr bcastCount env).Levels ready (i + 1) (heldAfter i) := by
  refine ioctlsocket_levels.bind fun _ => setsockopt_levels.bind fun _ => ?_
  refine (bind_levels (any _)).bind fun bound => ?_
  split_ifs
  · exact closeLookup_bind fun _ => Levels.ret rfl
  · refine (lookupTries_levels any).bind ?_
    rintro (out | out | _ | ⟨found, ip, port⟩)
    · exact Levels.ret rfl
    all_goals exact closeLookup_bind fun _ => Levels.ret rfl

theorem connectSpx_levels {fd : Nat} {e : TableEntry} {ipxaddr : SockaddrIpx}
    {env : ConnectingEnv} (any : ∀ k, ready k) :
    (connectSpx fd e ipxaddr env).Levels ready (i + 1) fun _ => i := by
  unfold connectSpx
  dsimp only
  split_ifs
  · exact leave_levels
  · exact leave_levels
  · refine (spxLookup_levels any).bind ?_
    rintro (out | out | _ | ⟨found, ip, port⟩)
    · exact Levels.ret rfl
    · exact leave_levels
    · exact leave_levels
    · exact spxConnect_levels any
  · exact leave_levels
  · exact leave_levels

/-- `connect` comes to the implicit `bind` of a datagram socket. -/
structure ConnectBinds (e : TableEntry) (addr : SockaddrIpx) (addrlen : Nat) : Prop where
  long : ¬ addrlen < sizeofSockaddrIpx
  family : addr.family = AF_IPX
  nodenum : addr.nodenum ≠ 0
  unbound : ¬ e.sock.flags.bound

theorem connectDgram_levels {fd : Nat} {e : TableEntry} {addr : SockaddrIpx} {addrlen : Nat}
    {env : ConnectingEnv} (inside : ConnectBinds e addr addrlen → ready (i + 1)) :
    (connectDgram fd e addr addrlen env).Levels ready (i + 1) fun _ => i := by
  unfold connectDgram
  dsimp only
  split_ifs with unspec short family node bound
  · exact modifyLeave_levels
  · exact leave_levels
  · exact leave_levels
  · exact modifyLeave_levels
  · exact modifyLeave_levels
  · refine (bind_levels (inside ⟨short, not_not.mp family, node, bound⟩)).bind fun bound => ?_
    split_ifs
    · exact leave_levels
    · exact modifyLeave_levels

theorem connect_levels {fd : Nat} {addr : SockaddrIpx} {addrlen : Nat} {env : ConnectingEnv}
    {underlying : Int} (any : ∀ k, ready k) :
    (connect fd addr addrlen env underlying).Levels ready i fun _ => i := by
  refine getSocket_bind (awaitRet_levels trivial) fun e => ?_
  dsimp only
  split_ifs
  · exact leave_levels
  · exact leave_levels
  · exact connectSpx_levels any
  · exact connectDgram_levels fun _ => any _

theorem getpeername_levels {fd addrlen : Nat} {underlying : Int} :
    (getpeername fd addrlen underlying).Levels ready i fun _ => i := by
  refine getSocket_bind (Levels.ret rfl) fun e => ?_
  dsimp only
  split_ifs <;> exact leave_levels

/-! ## `listen` and `accept` -/

theorem listen_levels {fd : Nat} {underlying : Int} :
    (listen fd underlying).Levels ready i fun _ => i := by
  refine getSocket_bind (Levels.ret rfl) fun e => ?_
  dsimp only
  split_ifs
  all_goals first | exact leave_levels | exact modifyLeave_levels

theorem recvSpxinit_levels {fd : Nat} {env : Nat → ReceiveEnv} {recvs : List Int} {k : Nat} :
    (recvSpxinit fd env recvs k).Levels ready i fun _ => i := by
  induction recvs generalizing k with
  | nil =>
      unfold recvSpxinit
      split_ifs
      · exact Levels.ret rfl
      · exact Levels.stop
  | cons r rest ih =>
      unfold recvSpxinit
      split_ifs
      · exact Levels.ret rfl
      · refine recv_levels.bind fun got => ?_
        split_ifs
        · exact Levels.ret rfl
        · exact ih

/-- `accept` gives the lock back if there is memory for the new socket, or none is asked
for. -/
theorem acceptSpx_levels {e : TableEntry} {addr : Bool} {addrlen : Option Nat}
    {env : AcceptingEnv} (memory : addrlen.any (· < sizeofSockaddrIpx) ∨ env.nsock ≠ none) :
    (acceptSpx e addr addrlen env).Levels ready (i + 1) fun _ => i := by
  unfold acceptSpx
  split
  · exact leave_levels
  rename_i long
  rcases hnsock : env.nsock with _ | nsock
  · rcases memory with short | present
    · exact absurd short long
    · exact absurd hnsock present
  refine (Levels.await trivial).bind fun _ => ?_
  rcases env.rAccept with _ | nfd
  · exact leave_levels
  refine recvSpxinit_levels.bind ?_
  rintro (_ | _)
  · exact closesocket_levels.bind fun _ => leave_levels
  rcases env.duplicate with _ | mutex
  · exact closesocket_levels.bind fun _ => leave_levels
  · exact modifyLeave_levels

theorem accept_levels {fd : Nat} {addr : Bool} {addrlen : Option Nat} {env : AcceptingEnv}
    {underlying : Int} (memory : env.nsock ≠ none) :
    (accept fd addr addrlen env underlying).Levels ready i fun _ => i := by
  refine getSocket_bind (awaitRet_levels trivial) fun e => ?_
  dsimp only
  split_ifs
  · exact acceptSpx_levels (.inr memory)
  · exact leave_levels

/-! ## Waiting -/

theorem WSAAsyncSelect_levels {fd : Nat} {fdConnect : Bool} {underlying : Int} :
    (WSAAsyncSelect fd fdConnect underlying).Levels ready i fun _ => i := by
  unfold WSAAsyncSelect
  split_ifs
  · exact getSocket_bind (Levels.ret rfl) fun e => modifyLeave_levels
  · exact Levels.ret rfl

theorem forceRead_levels {nReady : Nat → Nat} {fds forced : List Nat} :
    (forceRead nReady fds forced).Levels ready i fun _ => i := by
  induction fds generalizing forced with
  | nil => exact Levels.ret rfl
  | cons fd rest ih =>
      refine getSocket_bind ih fun e => ?_
      dsimp only
      split
      · exact Levels.release.bind fun _ => ih
      · exact Levels.release.bind fun _ => ih

theorem select_levels {readfds : List Nat} {nReady : Nat → Nat} {readable : List Nat}
    {underlying : Int} : (select readfds nReady readable underlying).Levels ready i fun _ => i := by
  refine forceRead_levels.bind fun forced => (Levels.await trivial).bind fun _ => ?_
  split_ifs
  · exact Levels.ret rfl
  · exact Levels.ret rfl

end Locked

/-! ## Every call -/

/-- The table that a call finds when it looks its descriptor up. -/
def foundOnEntry (others : Nat → World) (h : Holder World) : World :=
  (h.lock others).data

/-- `accept` on an SPX socket, with room for an address, finds no memory for the new
socket. -/
def WrapperCall.NoMemory (found : World) : WrapperCall → Prop
  | .accept fd _ addrlen env _ =>
      (∃ e ∈ found.sockets fd, e.sock.flags.isSpx) ∧
        ¬ addrlen.any (· < sizeofSockaddrIpx) ∧ env.nsock = none
  | _ => False

section Calls

variable {others : Nat → World} {h : Holder World}

theorem getSocket_wp {fd : Nat} {ok : LockEvent WaitOp → Nat → Prop}
    {Q : Option TableEntry → Holder World → Prop} :
    (Locked.getSocket fd).wp others ok h Q ↔
      match (foundOnEntry others h).sockets fd with
      | none => ok .unlock (h.depth + 1) ∧ Q none (h.lock others).unlock
      | some e => Q (some e) (h.lock others) := by
  unfold Locked.getSocket Locked.lockSockets Locked.unlockSockets foundOnEntry
  rw [wp_bind, wp_acquire, wp_bind, wp_read]
  rcases (h.lock others).data.sockets fd with _ | e
  · simp only [wp_bind, wp_release, wp_pure, Holder.lock_depth]
  · rw [wp_pure]

/-- `accept` keeps its level but where it finds no memory. -/
theorem accept_wp_iff {fd : Nat} {addr : Bool} {addrlen : Option Nat}
    {env : Locked.AcceptingEnv} {underlying : Int} {ready : Nat → Prop} :
    (Locked.accept fd addr addrlen env underlying).wp others (Above (Waits ready) h.depth) h
        (fun _ h' => h'.depth = h.depth) ↔
      ¬ (WrapperCall.accept fd addr addrlen env underlying).NoMemory (foundOnEntry others h) := by
  unfold Locked.accept WrapperCall.NoMemory
  rw [wp_bind, getSocket_wp]
  rcases found : (foundOnEntry others h).sockets fd with _ | e
  · refine iff_of_true ⟨Nat.lt_succ_self h.depth, ?_⟩ ?_
    · dsimp only
      have free : Waits ready .rAccept 0 := trivial
      apply (Locked.awaitRet_levels free).at_base
      rw [Holder.unlock_depth, Holder.lock_depth]
      rfl
    · rintro ⟨⟨e, member, _⟩, _⟩
      cases found.symm.trans member
  dsimp only
  split_ifs with spx
  · by_cases memory : addrlen.any (· < sizeofSockaddrIpx) ∨ env.nsock ≠ none
    · refine iff_of_true ?_ ?_
      · exact (Locked.acceptSpx_levels memory).at_base (Holder.lock_depth others h)
      · rintro ⟨_, long, none⟩
        exact memory.elim long fun present => present none
    · rw [not_or, not_not] at memory
      refine iff_of_false ?_ ?_
      · unfold Locked.acceptSpx
        rw [if_neg memory.1, memory.2]
        rw [wp_pure, Holder.lock_depth]
        exact Nat.succ_ne_self h.depth
      · exact fun kept => kept ⟨⟨e, found, spx⟩, memory.1, memory.2⟩
  · refine iff_of_true ?_ ?_
    · exact Locked.leave_levels.at_base (Holder.lock_depth others h)
    · rintro ⟨⟨_, member, isSpx⟩, _⟩
      cases found.symm.trans member
      exact spx isSpx

/-- The functions that call others which wait for readiness, with the lock held. -/
def WrapperCall.Nests : WrapperCall → Prop
  | .sendto .. | .send .. | .connect .. => True
  | _ => False

/-- Every call but `accept` keeps its level. -/
theorem WrapperCall.prog_levels {ready : Nat → Prop} {call : WrapperCall} (now : ready 0)
    (nested : call.Nests → ∀ k, ready k)
    (other : ∀ fd addr addrlen env underlying, call ≠ .accept fd addr addrlen env underlying) :
    call.prog.Levels ready 0 fun _ => 0 := by
  cases call with
  | socket => exact Locked.socket_levels
  | closesocket => exact Locked.closesocket_levels
  | bind => exact Locked.bind_levels now
  | getsockname => exact Locked.getsockname_levels
  | recv => exact Locked.recv_levels
  | recvfrom => exact Locked.recvfrom_levels
  | wsaRecvEx => exact Locked.WSARecvEx_levels
  | getsockopt => exact (Locked.getsockopt_levels now).bind fun _ => Levels.ret rfl
  | setsockopt => exact Locked.setsockopt_levels
  | sendto => exact Locked.sendto_levels now (nested trivial 1)
  | send => exact Locked.send_levels now (nested trivial 1)
  | shutdown => exact Locked.shutdown_levels
  | ioctlsocket => exact Locked.ioctlsocket_levels
  | connect => exact Locked.connect_levels (nested trivial)
  | getpeername => exact Locked.getpeername_levels
  | listen => exact Locked.listen_levels
  | accept => exact absurd rfl (other _ _ _ _ _)
  | wsaAsyncSelect => exact Locked.WSAAsyncSelect_levels
  | select => exact Locked.select_levels

theorem WrapperCall.keepsLevel_of_memory (call : WrapperCall) :
    KeepsLevel others call.prog h ↔ ¬ call.NoMemory (foundOnEntry others h) := by
  have free : ∀ op k, Waits (fun _ => True) op k := by
    rintro (_ | _) k <;> trivial
  rw [keepsLevel_iff free]
  by_cases other : ∀ fd addr addrlen env underlying,
      call ≠ .accept fd addr addrlen env underlying
  · refine iff_of_true ((call.prog_levels trivial (fun _ _ => trivial) other).at_base rfl) ?_
    cases call
    all_goals first | exact absurd rfl (other _ _ _ _ _) | exact id
  · push Not at other
    obtain ⟨fd, addr, addrlen, env, underlying, rfl⟩ := other
    exact accept_wp_iff

end Calls

/-- **Every exported function returns with the sockets lock as it found it, and never
releases it below that, unless `accept` finds no memory for a new socket.** -/
theorem wrapperCall_keepsLevel_iff (others : Nat → World) (h : Holder World)
    (call : WrapperCall) :
    KeepsLevel others call.prog h ↔ ¬ call.NoMemory (foundOnEntry others h) :=
  call.keepsLevel_of_memory

/-! ### A call without memory -/

/-- A listening SPX socket in the table, with descriptor 3. -/
def listeningWorld : World :=
  { World.init .ipxwrapper with
    sockets := fun fd =>
      if fd = 3 then
        some ⟨0,
          { fd := 3, port := 0, flags := { isSpx := true, bound := true, listening := true }
            sPtype := 0, fPtype := 0, addr := ⟨AF_IPX, 0, 1, 0x0040⟩, sockMut := 1
            remoteAddr := ⟨0, 0, 0, 0⟩, recvQueue := 0 }⟩
      else none
    mutexHandles := Finmap.singleton 1 ⟨0, 0x4000⟩
    nextId := 1 }

/-- `accept` is called, and `malloc` returns `NULL`. -/
def acceptWithoutMemory : WrapperCall :=
  .accept 3 false none
    { nsock := none, rAccept := some 4, recvs := [32]
      recv := fun _ => ⟨fun _ => 0, fun _ => ⟨none, false, 0, 0⟩, 0, 0⟩
      rClosesocket := 0, spxinit := ⟨0, 2, 0x0140⟩, duplicate := some 2 } 0

theorem acceptWithoutMemory_not_keepsLevel :
    ¬ KeepsLevel (fun _ => listeningWorld) acceptWithoutMemory.prog ⟨0, listeningWorld, 0⟩ := by
  intro keeps
  exact absurd (keeps.returns (.fail ERROR_OUTOFMEMORY) ⟨1, listeningWorld, 1⟩ rfl) (by decide)

end IpxWrapper
