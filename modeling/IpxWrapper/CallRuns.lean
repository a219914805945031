import IpxWrapper.Base.LockCalls
import IpxWrapper.ReadyWait

/-!
# Runs of calls from many threads (`winsock.c`)

Threads call the exported functions at once, and may be stopped at any step. Each
function gives the sockets lock back, also where it calls another that finds a
socket which is being closed, so no order of the steps leaves a call that cannot
return.
-/

namespace IpxWrapper

open Base LockProg

/-- `accept` finds memory for a socket. -/
def WrapperCall.HasMemory : WrapperCall → Prop
  | .accept _ _ _ env _ => env.nsock ≠ none
  | _ => True

theorem WrapperCall.keepsLock {call : WrapperCall} (memory : call.HasMemory) :
    KeepsLock call.prog := by
  have free : ∀ {α : Type} {p : Wrapper α} {i : Nat} {j : α → Nat},
      p.Levels (fun _ => True) i j → LockProg.Levels p (fun _ _ => True) i j :=
    fun levels => levels.mono fun _ _ _ => trivial
  by_cases other : ∀ fd addr addrlen env underlying,
      call ≠ .accept fd addr addrlen env underlying
  · exact free (call.prog_levels trivial (fun _ _ => trivial) other)
  · push Not at other
    obtain ⟨fd, addr, addrlen, env, underlying, rfl⟩ := other
    exact free (Locked.accept_levels memory)

/-- The steps of a run. -/
def apiMoves {Tid : Type} [DecidableEq Tid] (inputs : List (ThreadInput Tid WrapperCall))
    (w : World) : List (Move (ThreadInput Tid WrapperCall)
      (Threads Tid WrapperCall World WaitOp CallOut)) :=
  moves (threadStep WrapperCall.prog) inputs (.start w)

/-- Thread 1 connects, and waits in `bind` with the lock held; thread 2 has closed the socket
that `bind` has found, and comes to take it out of the table. -/
def connectsWhileClosing : List (ThreadInput Nat WrapperCall) :=
  .call 1 connectWhileClosing :: List.replicate 13 (.step 1) ++ [.call 2 (.closesocket 7 0)]

theorem connectsWhileClosing_hasMemory (t : Nat) (call : WrapperCall)
    (member : .call t call ∈ connectsWhileClosing) : call.HasMemory := by
  unfold connectsWhileClosing at member
  simp only [List.cons_append, List.mem_cons, List.mem_append, List.mem_replicate, reduceCtorEq,
    ThreadInput.call.injEq, List.not_mem_nil, and_false, false_or, or_false] at member
  rcases member with ⟨-, rfl⟩ | ⟨-, rfl⟩
  · exact trivial
  · exact trivial

end IpxWrapper
