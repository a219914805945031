import IpxWrapper.SocketTableInv

/-!
# Every sequence of socket calls

`accept` fills in a new `ipx_socket` field by field and leaves `recv_queue` out.
The table is typed in every state of a sequence of calls exactly if each
`accept` that made a socket found a null pointer there.
-/

namespace IpxWrapper

open Base

/-- The steps of a sequence of calls, each with what an underlying function returns
where the call is left to one. -/
def socketMoves (encap : EncapType) (calls : List (SocketCall × Int)) :
    List (Move (SocketCall × Int) World) :=
  moves socketStep calls (.init encap)

/-- The call is an `accept` that makes a socket in memory where `recv_queue` is not null. -/
def SocketCall.acceptsJunk (w : World) : SocketCall → Bool
  | .accept fd _ addrlen env => (w.sockets fd).any fun e => adoptsJunk e.sock addrlen env
  | _ => false

section Steps

variable {w w' : World} {call : SocketCall} {underlying : Int}

theorem socketStep_some (enabled : socketStep (call, underlying) w = some w') :
    call.Fresh w ∧ w' = (call.run underlying w).2 := by
  unfold socketStep at enabled
  split at enabled
  case isTrue fresh => exact ⟨fresh, (Option.some.inj enabled).symm⟩
  case isFalse => cases enabled

/-- A call that finds no junk keeps the table typed. -/
theorem WorldInv.step (inv : WorldInv w) (enabled : socketStep (call, underlying) w = some w')
    (clean : call.acceptsJunk w = false) : WorldInv w' := by
  obtain ⟨fresh, rfl⟩ := socketStep_some enabled
  cases call with
  | socket af type protocol env => exact inv.socket af type protocol fresh.2 underlying
  | bind fd addr addrlen env => exact inv.bind fd addr addrlen fresh underlying
  | connect fd addr addrlen env => exact inv.connect fd addr addrlen fresh.1 fresh.2 underlying
  | listen fd => exact inv.listen fd underlying
  | closesocket fd => exact inv.closesocket fd underlying
  | accept fd addr addrlen env => exact inv.accept fd addr addrlen fresh.2 underlying clean

/-- A call that finds junk adds an entry that is not typed. -/
theorem not_typed_of_acceptsJunk (enabled : socketStep (call, underlying) w = some w')
    (junk : call.acceptsJunk w = true) : ¬ Typed w' := by
  obtain ⟨-, rfl⟩ := socketStep_some enabled
  cases call with
  | accept fd addr addrlen env => exact accept_not_typed addr underlying junk
  | socket _ _ _ _ => cases junk
  | bind _ _ _ _ => cases junk
  | connect _ _ _ _ => cases junk
  | listen _ => cases junk
  | closesocket _ => cases junk

end Steps

/-- The table is typed, and nothing was released that was not its socket's, in every
state of a sequence of calls if and only if no `accept` in it found junk. -/
theorem socketMoves_typed_iff (encap : EncapType) (calls : List (SocketCall × Int)) :
    (∀ m ∈ socketMoves encap calls, Typed m.after) ↔
      ∀ m ∈ socketMoves encap calls, m.input.1.acceptsJunk m.before = false := by
  constructor
  · intro typed m member
    refine Bool.eq_false_iff.mpr fun junk => ?_
    exact not_typed_of_acceptsJunk (step_of_mem_moves member) junk (typed m member)
  · intro clean m member
    refine WorldInv.typed (moves_induct (I := WorldInv) (Q := fun _ => True)
      (.init encap) clean ?_ m member).2.1
    intro m inv enabled clean
    exact ⟨inv.step enabled clean, trivial⟩

/-! ## A run with junk -/

def someAddr : SockaddrIpx := ⟨AF_IPX, 1, 0, htons 0x4000⟩

/-- What `malloc` returns, with `recvQueue` where `recv_queue` lies. -/
def someMemory (recvQueue : Nat) : IpxSocket :=
  ⟨0, 0, {}, 0, 0, someAddr, 0, someAddr, recvQueue⟩

/-- A stream socket is made, bound and listens; a connection is accepted in memory
that was used before, and closed. -/
def junkRun : List (SocketCall × Int) :=
  [(.socket AF_IPX SOCK_STREAM 0 ⟨some (someMemory 0), none, none, some 3⟩, 0),
    (.bind 3 someAddr 14
      ⟨⟨[⟨1, 65536, []⟩], true⟩, ⟨fun _ => .created, 7⟩, true, some 5⟩, 0),
    (.listen 3, 0),
    (.accept 3 false none ⟨some (someMemory 51966), some 4, some ⟨1, 65536, 5⟩, some 8⟩, 0),
    (.closesocket 4, 0)]

/-- `closesocket` releases a queue that was never allocated. -/
theorem junkRun_not_typed : ¬ ∀ m ∈ socketMoves .ipxwrapper junkRun, Typed m.after := by
  intro typed
  have misuse : ∃ m ∈ socketMoves .ipxwrapper junkRun, m.after.misuse = true := by
    decide
  obtain ⟨m, member, misuse⟩ := misuse
  rw [(typed m member).sound] at misuse
  cases misuse

end IpxWrapper
