import IpxWrapper.CoalesceDelivery
import IpxWrapper.Router
import IpxWrapper.SendPacket

/-!
# Sending with DOSBox encapsulation (`winsock.c`)

The part of `ipx_send_packet` that sends to the DOSBox server, through
`coalesce_send`, in the form that a packet has on the wire. What is addressed to
this host is delivered to its sockets and not sent.
-/

namespace IpxWrapper

open Base

/-- What `ipx_send_packet` finds. -/
structure DosboxSendEnv where
  dosboxState : DosboxState
  dosboxLocalNetnum : Addr32
  dosboxLocalNodenum : Addr48
  /-- There is memory for the packet. -/
  malloc : Bool
  coalesce : CoalesceEnv
  /-- What `coalesce_send` finds; its arguments are not taken from here. -/
  found : SendCall

/-- What sending changes. -/
structure DosboxSendState where
  coalesce : CoalesceState
  delivered : List Delivered
  sendPackets : UInt32
  sendBytes : UInt32

/-- `dest_net`, `dest_node` and `dest_socket`. -/
def OutgoingPacket.dest (p : OutgoingPacket) : IpxDest :=
  ⟨p.destNet, p.destNode, p.destSocket⟩

/-- What is sent. -/
def OutgoingPacket.dosboxBytes (p : OutgoingPacket) : List Byte :=
  dosboxPacket p.type p.srcNet p.srcNode p.srcSocket p.dest p.data

/-- The call of `coalesce_send`. -/
def DosboxSendEnv.sendCall (env : DosboxSendEnv) (p : OutgoingPacket) : SendCall :=
  { env.found with data := p.dosboxBytes, dest := p.dest }

/-- `deliver_packet`, for the sockets of this host. -/
def DosboxSendState.deliver (p : OutgoingPacket) (s : DosboxSendState) : DosboxSendState :=
  { s with delivered := s.delivered ++ [p.delivered] }

/-- `ipx_send_packet` with DOSBox encapsulation. -/
def dosboxSendPacket (env : DosboxSendEnv) (p : OutgoingPacket) (s : DosboxSendState) :
    UInt32 × DosboxSendState :=
  if env.dosboxState ≠ .connected then
    (WSAENETDOWN, s)
  else if p.srcNet ≠ env.dosboxLocalNetnum ∨ p.srcNode ≠ env.dosboxLocalNodenum then
    (WSAENETDOWN, s)
  else if p.destNet = env.dosboxLocalNetnum ∧ p.destNode = env.dosboxLocalNodenum then
    (ERROR_SUCCESS, s.deliver p)
  else if ¬ env.malloc then
    (ERROR_OUTOFMEMORY, s)
  else
    match coalesceSend env.coalesce (env.sendCall p) s.coalesce with
    | (error, coalesce) =>
        let s := { s with coalesce := coalesce }
        if error = ERROR_SUCCESS then
          let s := { s with
            sendPackets := s.sendPackets + 1
            sendBytes := s.sendBytes + UInt32.ofNat p.data.length }
          (error, if p.destNode = bcastNode then s.deliver p else s)
        else
          (error, s)

/-- Without coalescing a packet is sent at once, as it is. -/
theorem coalesceSend_sent_of_off {env : CoalesceEnv} (off : env.dosboxCoalesce = false)
    (call : SendCall) (s : CoalesceState) :
    (coalesceSend env call s).2.sent = s.sent ++ [.immediate call.data] := by
  have nothing : ∀ s, getCoalesceByDest env call s = (none, s) := fun _ => if_pos off
  unfold coalesceSend rSendto
  simp only [nothing, Bool.false_eq_true, if_false]
  split <;> rfl

/-- Without coalescing `ipx_send_packet` sends the packet or nothing. -/
theorem dosboxSendPacket_sent {env : DosboxSendEnv} (off : env.coalesce.dosboxCoalesce = false)
    (p : OutgoingPacket) (s : DosboxSendState) :
    (dosboxSendPacket env p s).2.coalesce.sent = s.coalesce.sent ∨
      (dosboxSendPacket env p s).2.coalesce.sent =
        s.coalesce.sent ++ [.immediate p.dosboxBytes] := by
  have sent : _ = s.coalesce.sent ++ [.immediate p.dosboxBytes] :=
    coalesceSend_sent_of_off off (env.sendCall p) s.coalesce
  unfold dosboxSendPacket
  split
  · exact Or.inl rfl
  split
  · exact Or.inl rfl
  split
  · exact Or.inl rfl
  split
  · exact Or.inl rfl
  refine Or.inr ?_
  rcases outcome : coalesceSend env.coalesce (env.sendCall p) s.coalesce with ⟨error, coalesce⟩
  rw [outcome] at sent
  dsimp only at sent ⊢
  split
  · split <;> exact sent
  · exact sent

/-- What is delivered on this host is the packet. -/
theorem dosboxSendPacket_delivered (env : DosboxSendEnv) (p : OutgoingPacket)
    (s : DosboxSendState) :
    (dosboxSendPacket env p s).2.delivered = s.delivered ∨
      (dosboxSendPacket env p s).2.delivered = s.delivered ++ [p.delivered] := by
  unfold dosboxSendPacket
  split
  · exact Or.inl rfl
  split
  · exact Or.inl rfl
  split
  · exact Or.inr rfl
  split
  · exact Or.inl rfl
  dsimp only
  split
  · split
    · exact Or.inr rfl
    · exact Or.inl rfl
  · exact Or.inl rfl

end IpxWrapper
