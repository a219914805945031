import IpxWrapper.LockedWrappers
import IpxWrapper.SendPacket
import Mathlib.Data.Set.Card

/-!
# Socket numbers (`winsock.c`)

A bound socket holds its number with a handle of a mutex named after it, so that
a process finds out whether a socket of any process has the number. A machine is
its processes; the mutex of a number exists while some process has a handle of it.
-/

namespace IpxWrapper

open Base LockProg

/-! ## Calls in a process -/

/-- The calls that touch a binding, or an option that one depends on. -/
inductive ProcessCall where
  | socketCall (call : SocketCall) (underlying : Int)
  | sendto (call : SendtoCall) (underlying : Int)
  | setsockopt (fd : Nat) (level optname optval optlen underlying : Int)

/-- What a wrapper leaves if no other thread runs. -/
def World.alone {α : Type} (w : World) (wrapper : Wrapper α) : World :=
  (wrapper.result (fun _ => w) ⟨0, w, 0⟩).elim w fun left => left.2.data

/-- The call is made. -/
def ProcessCall.run (w : World) : ProcessCall → World
  | .socketCall call underlying => (call.run underlying w).2
  | .sendto call underlying => (sendtoPacket call underlying w).2
  | .setsockopt fd level optname optval optlen underlying =>
      w.alone (Locked.setsockopt fd level optname optval optlen underlying)

/-- `r_accept` returns a connection only of a socket that listens. -/
def SocketCall.AcceptsListening (w : World) : SocketCall → Prop
  | .accept fd _ _ env =>
      ∀ e ∈ w.sockets fd, env.rAccept.isSome → e.sock.flags.listening = true
  | _ => True

instance (w : World) : (call : SocketCall) → Decidable (call.AcceptsListening w)
  | .socket .. | .bind .. | .connect .. | .listen .. | .closesocket .. =>
      inferInstanceAs (Decidable True)
  | .accept _ _ _ _ => inferInstanceAs (Decidable (∀ _ ∈ _, _))

/-- What the system gives out is not in use, and what it accepts was listened for. -/
def ProcessCall.Allowed (w : World) : ProcessCall → Prop
  | .socketCall call _ => call.Fresh w ∧ call.AcceptsListening w
  | .sendto call _ => w.handles call.bind.mutex.handle = none
  | .setsockopt .. => True

instance (w : World) : (call : ProcessCall) → Decidable (call.Allowed w)
  | .socketCall _ _ => inferInstanceAs (Decidable (_ ∧ _))
  | .sendto _ _ => inferInstanceAs (Decidable (_ = _))
  | .setsockopt .. => inferInstanceAs (Decidable True)

/-! ## Machines -/

/-- The processes, by number; one that has exited has an empty table. -/
abbrev Machine := List World

/-- Some handle of the process is of the mutex of `socket`. -/
def World.opens (w : World) (socket : UInt16) : Bool :=
  decide (∃ handle ∈ w.mutexHandles.keys, ∃ h ∈ w.mutexHandles.lookup handle, h.socket = socket)

/-- `CreateMutex`: where it does not fail, what it finds. -/
def MutexEnv.among (env : MutexEnv) (machine : Machine) : MutexEnv :=
  { env with
    createMutex := fun socket =>
      if env.createMutex socket = .failed then .failed
      else if machine.any (·.opens socket) then .existed
      else .created }

def BindEnv.among (env : BindEnv) (machine : Machine) : BindEnv :=
  { env with mutex := env.mutex.among machine }

/-- A call on the machine; of its `createMutex` only the failures count. -/
def ProcessCall.among (machine : Machine) : ProcessCall → ProcessCall
  | .socketCall (.bind fd addr addrlen env) underlying =>
      .socketCall (.bind fd addr addrlen (env.among machine)) underlying
  | .socketCall (.connect fd addr addrlen env) underlying =>
      .socketCall
        (.connect fd addr addrlen
          { env with mutex := env.mutex.among machine, bind := env.bind.among machine })
        underlying
  | .sendto call underlying => .sendto { call with bind := call.bind.among machine } underlying
  | call => call

inductive MachineInput where
  | start (ipxEncapType : EncapType)
  | call (pid : Nat) (call : ProcessCall)
  /-- A process exits, by which its sockets and its handles are closed. -/
  | exit (pid : Nat)

def machineStep (input : MachineInput) (machine : Machine) : Option Machine :=
  match input with
  | .start encap => some (machine ++ [.init encap])
  | .call pid call =>
      match machine[pid]? with
      | none => none
      | some w =>
          if call.Allowed w then some (machine.set pid ((call.among machine).run w)) else none
  | .exit pid =>
      match machine[pid]? with
      | none => none
      | some w => some (machine.set pid (.init w.ipxEncapType))

/-- The steps of a run. -/
def machineMoves (inputs : List MachineInput) : List (Move MachineInput Machine) :=
  moves machineStep inputs []

/-! ## Numbers that are held -/

/-- The sockets that are bound with the number, by process and descriptor. -/
def Machine.boundTo (machine : Machine) (socket : UInt16) : Set (Nat × Nat) :=
  { at_fd | ∃ w ∈ machine[at_fd.1]?, ∃ e ∈ w.sockets at_fd.2,
      e.sock.flags.bound = true ∧ htons e.sock.addr.socket = socket }

/-- The handles of the mutex of the number, by process and value. -/
def Machine.handlesOn (machine : Machine) (socket : UInt16) : Set (Nat × Nat) :=
  { at_handle | ∃ w ∈ machine[at_handle.1]?, ∃ h ∈ w.mutexHandles.lookup at_handle.2,
      h.socket = socket }

/-- Every number is held as before. -/
structure SameHolders (before after : Machine) : Prop where
  bound : ∀ socket, after.boundTo socket = before.boundTo socket
  handles : ∀ socket, after.handlesOn socket = before.handlesOn socket

/-- There are as many handles of the mutex of each number as sockets bound with it. -/
def Machine.Counted (machine : Machine) : Prop :=
  ∀ socket, (machine.handlesOn socket).Finite ∧
    (machine.handlesOn socket).encard = (machine.boundTo socket).encard

/-- The descriptor that a call may bind, and the number it asks for. -/
def ProcessCall.asks (w : World) : ProcessCall → Option (Nat × UInt16)
  | .socketCall (.bind fd addr _ _) _ => some (fd, htons addr.socket)
  | .socketCall (.connect fd _ _ _) _ =>
      (w.sockets fd).map fun e => (fd, if e.sock.flags.isSpx then htons e.sock.addr.socket else 0)
  | .sendto call _ => some (call.fd, 0)
  | _ => none

end IpxWrapper
