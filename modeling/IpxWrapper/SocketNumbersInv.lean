import IpxWrapper.SocketNumbers
import IpxWrapper.SocketTableInv

/-!
# What holds a socket number

Each open mutex handle of a process is the handle of one of its bound sockets,
and is of the mutex of the number that this socket is bound with. What a call
does to the bindings is a `BindingEffect`; each of these keeps `BindingsInv`.
-/

namespace IpxWrapper

open Base LockProg

/-! ## Bindings -/

/-- The part of a process that its bindings depend on. -/
structure Bindings where
  sockets : Nat → Option TableEntry
  mutexHandles : Finmap fun _ : Nat => MutexHandle
  nextId : Nat

def World.bindings (w : World) : Bindings := ⟨w.sockets, w.mutexHandles, w.nextId⟩

namespace Bindings

/-- An entry is written. -/
def put (b : Bindings) (fd : Nat) (e : TableEntry) : Bindings :=
  { b with sockets := Function.update b.sockets fd (some e) }

/-- A handle is opened. -/
def hold (b : Bindings) (handle : Nat) (h : MutexHandle) : Bindings :=
  { b with mutexHandles := b.mutexHandles.insert handle h }

/-- The next socket gets another number. -/
def next (b : Bindings) : Bindings :=
  { b with nextId := b.nextId + 1 }

/-- An entry is taken out, with the handle that it is bound by. -/
def drop (b : Bindings) (fd : Nat) (e : TableEntry) : Bindings :=
  { b with
    sockets := Function.update b.sockets fd none
    mutexHandles :=
      if e.sock.flags.bound then b.mutexHandles.erase e.sock.sockMut else b.mutexHandles }

end Bindings

/-- No two sockets have one number. -/
structure Numbered (b : Bindings) : Prop where
  old : ∀ fd e, b.sockets fd = some e → e.id < b.nextId
  unique : ∀ fd fd' e e', b.sockets fd = some e → b.sockets fd' = some e' → e.id = e'.id →
    fd = fd'

/-- The handles are those of the bound sockets. -/
structure BindingsInv (b : Bindings) : Prop where
  numbered : Numbered b
  bound : ∀ fd e, b.sockets fd = some e → e.sock.flags.bound = true →
    b.mutexHandles.lookup e.sock.sockMut = some ⟨e.id, htons e.sock.addr.socket⟩
  owned : ∀ handle h, b.mutexHandles.lookup handle = some h →
    ∃ fd e, b.sockets fd = some e ∧ e.sock.flags.bound = true ∧ e.sock.sockMut = handle
  listening : ∀ fd e, b.sockets fd = some e → e.sock.flags.listening = true →
    e.sock.flags.bound = true

/-! ## Effects -/

/-- A socket is written and stays bound as it was. -/
structure SameBinding (sock sock' : IpxSocket) : Prop where
  bound : sock'.flags.bound = sock.flags.bound
  held : sock.flags.bound = true →
    sock'.sockMut = sock.sockMut ∧ sock'.addr.socket = sock.addr.socket
  listening : sock'.flags.listening = true →
    sock.flags.listening = true ∨ sock.flags.bound = true

/-- What a call does to the bindings of its process. -/
inductive BindingEffect (b : Bindings) : Bindings → Prop where
  | none : BindingEffect b b
  | writes {fd : Nat} {e : TableEntry} {sock : IpxSocket} (at_fd : b.sockets fd = some e)
      (same : SameBinding e.sock sock) : BindingEffect b (b.put fd { e with sock := sock })
  | binds {fd : Nat} {e : TableEntry} {sock : IpxSocket} (at_fd : b.sockets fd = some e)
      (unbound : e.sock.flags.bound = false)
      (fresh : b.mutexHandles.lookup sock.sockMut = Option.none)
      (bound : sock.flags.bound = true) :
      BindingEffect b
        ((b.hold sock.sockMut ⟨e.id, htons sock.addr.socket⟩).put fd { e with sock := sock })
  | adds {fd : Nat} {sock : IpxSocket} (free : b.sockets fd = Option.none)
      (unbound : sock.flags.bound = false) (silent : sock.flags.listening = false) :
      BindingEffect b (b.put fd ⟨b.nextId, sock⟩).next
  | accepts {fd nfd : Nat} {e : TableEntry} {sock : IpxSocket} (at_fd : b.sockets fd = some e)
      (listening : e.sock.flags.listening = true) (free : b.sockets nfd = Option.none)
      (fresh : b.mutexHandles.lookup sock.sockMut = Option.none)
      (bound : sock.flags.bound = true) (socket : sock.addr.socket = e.sock.addr.socket)
      (silent : sock.flags.listening = false) :
      BindingEffect b
        ((b.hold sock.sockMut
          ⟨b.nextId, (b.mutexHandles.lookup e.sock.sockMut).elim 0 (·.socket)⟩).put nfd
            ⟨b.nextId, sock⟩).next
  | closes {fd : Nat} {e : TableEntry} (at_fd : b.sockets fd = some e) :
      BindingEffect b (b.drop fd e)

section Keeps

variable {b b' : Bindings} {fd handle : Nat} {e : TableEntry} {h : MutexHandle} {sock : IpxSocket}

/-- An entry of a table that one was written to. -/
theorem put_sockets {fd' : Nat} {e' : TableEntry} (found : (b.put fd e).sockets fd' = some e') :
    (fd' = fd ∧ e' = e) ∨ (fd' ≠ fd ∧ b.sockets fd' = some e') := by
  change Function.update b.sockets fd _ fd' = some e' at found
  by_cases same : fd' = fd
  · rw [same, Function.update_self] at found
    exact Or.inl ⟨same, (Option.some.inj found).symm⟩
  · rw [Function.update_of_ne same] at found
    exact Or.inr ⟨same, found⟩

theorem put_self : (b.put fd e).sockets fd = some e :=
  Function.update_self _ _ _

theorem put_of_ne {fd' : Nat} (other : fd' ≠ fd) : (b.put fd e).sockets fd' = b.sockets fd' :=
  Function.update_of_ne other _ _

theorem hold_self : (b.hold handle h).mutexHandles.lookup handle = some h :=
  Finmap.lookup_insert _

theorem hold_of_ne {handle' : Nat} (other : handle' ≠ handle) :
    (b.hold handle h).mutexHandles.lookup handle' = b.mutexHandles.lookup handle' :=
  Finmap.lookup_insert_of_ne _ other

/-- The handle of a bound socket is not one that was not open. -/
theorem BindingsInv.sockMut_ne (inv : BindingsInv b) (at_fd : b.sockets fd = some e)
    (bound : e.sock.flags.bound = true) (fresh : b.mutexHandles.lookup handle = none) :
    e.sock.sockMut ≠ handle := by
  intro same
  have own := inv.bound fd e at_fd bound
  rw [same, fresh] at own
  cases own

theorem Numbered.hold (numbered : Numbered b) : Numbered (b.hold handle h) :=
  ⟨numbered.old, numbered.unique⟩

/-- An entry is written that keeps its number. -/
theorem Numbered.put {e' : TableEntry} (numbered : Numbered b) (at_fd : b.sockets fd = some e)
    (id : e'.id = e.id) : Numbered (b.put fd e') := by
  have ids : ∀ fd₁ e₁, (b.put fd e').sockets fd₁ = some e₁ →
      ∃ e₀, b.sockets fd₁ = some e₀ ∧ e₀.id = e₁.id := by
    intro fd₁ e₁ found
    rcases put_sockets found with ⟨rfl, rfl⟩ | ⟨-, found⟩
    · exact ⟨e, at_fd, id.symm⟩
    · exact ⟨e₁, found, rfl⟩
  constructor
  · intro fd₁ e₁ found
    obtain ⟨e₀, found₀, id₀⟩ := ids fd₁ e₁ found
    exact id₀ ▸ numbered.old fd₁ e₀ found₀
  · intro fd₁ fd₂ e₁ e₂ found₁ found₂ same
    obtain ⟨e₁', found₁', id₁⟩ := ids fd₁ e₁ found₁
    obtain ⟨e₂', found₂', id₂⟩ := ids fd₂ e₂ found₂
    exact numbered.unique fd₁ fd₂ e₁' e₂' found₁' found₂' (id₁.trans (same.trans id₂.symm))

/-- A new entry gets the next number. -/
theorem Numbered.add (numbered : Numbered b) : Numbered (b.put fd ⟨b.nextId, sock⟩).next := by
  constructor
  · intro fd₁ e₁ found
    rcases put_sockets found with ⟨-, rfl⟩ | ⟨-, found⟩
    · exact Nat.lt_succ_self _
    · exact Nat.lt_succ_of_lt (numbered.old fd₁ e₁ found)
  · intro fd₁ fd₂ e₁ e₂ found₁ found₂ same
    rcases put_sockets found₁ with ⟨rfl, rfl⟩ | ⟨-, old₁⟩ <;>
      rcases put_sockets found₂ with ⟨rfl, rfl⟩ | ⟨-, old₂⟩
    · rfl
    · exact absurd (same ▸ numbered.old fd₂ e₂ old₂) (Nat.lt_irrefl _)
    · exact absurd (same ▸ numbered.old fd₁ e₁ old₁) (Nat.lt_irrefl _)
    · exact numbered.unique fd₁ fd₂ e₁ e₂ old₁ old₂ same

/-! ### Each effect keeps the invariant -/

theorem BindingsInv.writes (inv : BindingsInv b) (at_fd : b.sockets fd = some e)
    (same : SameBinding e.sock sock) : BindingsInv (b.put fd { e with sock := sock }) where
  numbered := inv.numbered.put at_fd rfl
  bound := by
    intro fd' e' found bound
    rcases put_sockets found with ⟨-, rfl⟩ | ⟨-, found⟩
    · have bound : e.sock.flags.bound = true := same.bound.symm.trans bound
      obtain ⟨mutex, socket⟩ := same.held bound
      dsimp only
      rw [mutex, socket]
      exact inv.bound fd e at_fd bound
    · exact inv.bound fd' e' found bound
  owned := by
    intro handle h opened
    obtain ⟨fd', e', found, bound, mutex⟩ := inv.owned handle h opened
    by_cases here : fd' = fd
    · subst here
      obtain rfl := Option.some.inj (at_fd.symm.trans found)
      exact ⟨fd', _, put_self, same.bound.trans bound, (same.held bound).1.trans mutex⟩
    · exact ⟨fd', e', (put_of_ne here).trans found, bound, mutex⟩
  listening := by
    intro fd' e' found listening
    rcases put_sockets found with ⟨-, rfl⟩ | ⟨-, found⟩
    · refine same.bound.trans ?_
      rcases same.listening listening with listening | bound
      · exact inv.listening fd e at_fd listening
      · exact bound
    · exact inv.listening fd' e' found listening

/-- What a handle is for that was open before another was. -/
theorem BindingsInv.owned_hold (inv : BindingsInv b) {new : TableEntry}
    (before : ∀ e, b.sockets fd = some e → e.sock.flags.bound = false)
    (bound : new.sock.flags.bound = true) {handle' : Nat} {h' : MutexHandle}
    (opened : (b.hold new.sock.sockMut h).mutexHandles.lookup handle' = some h') :
    ∃ fd' e', (b.put fd new).sockets fd' = some e' ∧ e'.sock.flags.bound = true ∧
      e'.sock.sockMut = handle' := by
  by_cases isNew : handle' = new.sock.sockMut
  · exact ⟨fd, new, put_self, bound, isNew.symm⟩
  · rw [hold_of_ne isNew] at opened
    obtain ⟨fd', e', found, isBound, mutex⟩ := inv.owned handle' h' opened
    have elsewhere : fd' ≠ fd := by
      rintro rfl
      rw [before e' found] at isBound
      cases isBound
    exact ⟨fd', e', (put_of_ne elsewhere).trans found, isBound, mutex⟩

theorem BindingsInv.binds (inv : BindingsInv b) (at_fd : b.sockets fd = some e)
    (unbound : e.sock.flags.bound = false)
    (fresh : b.mutexHandles.lookup sock.sockMut = none) (bound : sock.flags.bound = true) :
    BindingsInv
      ((b.hold sock.sockMut ⟨e.id, htons sock.addr.socket⟩).put fd { e with sock := sock }) where
  numbered := inv.numbered.hold.put at_fd rfl
  bound := by
    intro fd' e' found isBound
    rcases put_sockets found with ⟨-, rfl⟩ | ⟨-, found⟩
    · exact hold_self
    · exact (hold_of_ne (inv.sockMut_ne found isBound fresh)).trans
        (inv.bound fd' e' found isBound)
  owned := by
    intro handle h opened
    have before : ∀ e', b.sockets fd = some e' → e'.sock.flags.bound = false := by
      intro e' found
      obtain rfl := Option.some.inj (at_fd.symm.trans found)
      exact unbound
    exact inv.owned_hold before (by exact bound) opened
  listening := by
    intro fd' e' found listening
    rcases put_sockets found with ⟨-, rfl⟩ | ⟨-, found⟩
    · exact bound
    · exact inv.listening fd' e' found listening

theorem BindingsInv.adds (inv : BindingsInv b) (free : b.sockets fd = none)
    (unbound : sock.flags.bound = false) (silent : sock.flags.listening = false) :
    BindingsInv (b.put fd ⟨b.nextId, sock⟩).next where
  numbered := inv.numbered.add
  bound := by
    intro fd' e' found bound
    rcases put_sockets found with ⟨-, rfl⟩ | ⟨-, found⟩
    · exact absurd (unbound.symm.trans bound) Bool.false_ne_true
    · exact inv.bound fd' e' found bound
  owned := by
    intro handle h opened
    obtain ⟨fd', e', found, bound, mutex⟩ := inv.owned handle h opened
    have elsewhere : fd' ≠ fd := by
      rintro rfl
      rw [free] at found
      cases found
    exact ⟨fd', e', (put_of_ne elsewhere).trans found, bound, mutex⟩
  listening := by
    intro fd' e' found listening
    rcases put_sockets found with ⟨-, rfl⟩ | ⟨-, found⟩
    · exact absurd (silent.symm.trans listening) Bool.false_ne_true
    · exact inv.listening fd' e' found listening

/-- The new socket has a handle of the mutex that the listening one has a handle of. -/
theorem BindingsInv.accepts (inv : BindingsInv b) {nfd : Nat} (at_fd : b.sockets fd = some e)
    (listening : e.sock.flags.listening = true) (free : b.sockets nfd = none)
    (fresh : b.mutexHandles.lookup sock.sockMut = none) (bound : sock.flags.bound = true)
    (socket : sock.addr.socket = e.sock.addr.socket) (silent : sock.flags.listening = false) :
    BindingsInv
      ((b.hold sock.sockMut
        ⟨b.nextId, (b.mutexHandles.lookup e.sock.sockMut).elim 0 (·.socket)⟩).put nfd
          ⟨b.nextId, sock⟩).next where
  numbered := inv.numbered.hold.add
  bound := by
    intro fd' e' found isBound
    rcases put_sockets found with ⟨-, rfl⟩ | ⟨-, found⟩
    · have own := inv.bound fd e at_fd (inv.listening fd e at_fd listening)
      rw [own, ← socket]
      exact hold_self
    · exact (hold_of_ne (inv.sockMut_ne found isBound fresh)).trans
        (inv.bound fd' e' found isBound)
  owned := by
    intro handle h opened
    have before : ∀ e', b.sockets nfd = some e' → e'.sock.flags.bound = false := by
      intro e' found
      rw [free] at found
      cases found
    exact inv.owned_hold before (by exact bound) opened
  listening := by
    intro fd' e' found isListening
    rcases put_sockets found with ⟨-, rfl⟩ | ⟨-, found⟩
    · exact absurd (silent.symm.trans isListening) Bool.false_ne_true
    · exact inv.listening fd' e' found isListening

/-- A socket goes with its handle, and with no other's. -/
theorem BindingsInv.closes (inv : BindingsInv b) (at_fd : b.sockets fd = some e) :
    BindingsInv (b.drop fd e) := by
  have sockets : ∀ fd' e', (b.drop fd e).sockets fd' = some e' →
      fd' ≠ fd ∧ b.sockets fd' = some e' := by
    intro fd' e' found
    change Function.update b.sockets fd none fd' = some e' at found
    by_cases same : fd' = fd
    · rw [same, Function.update_self] at found
      cases found
    · rw [Function.update_of_ne same] at found
      exact ⟨same, found⟩
  constructor
  · constructor
    · exact fun fd' e' found => inv.numbered.old fd' e' (sockets fd' e' found).2
    · exact fun fd₁ fd₂ e₁ e₂ found₁ found₂ same =>
        inv.numbered.unique fd₁ fd₂ e₁ e₂ (sockets fd₁ e₁ found₁).2 (sockets fd₂ e₂ found₂).2 same
  · intro fd' e' found bound
    obtain ⟨elsewhere, found⟩ := sockets fd' e' found
    have own := inv.bound fd' e' found bound
    unfold Bindings.drop
    dsimp only
    split
    case isTrue isBound =>
      have other : e'.sock.sockMut ≠ e.sock.sockMut := by
        intro same
        rw [same, inv.bound fd e at_fd isBound] at own
        exact elsewhere (inv.numbered.unique fd' fd e' e found at_fd
          (congrArg MutexHandle.owner (Option.some.inj own)).symm)
      rw [Finmap.lookup_erase_ne other]
      exact own
    case isFalse => exact own
  · intro handle h opened
    have other : b.mutexHandles.lookup handle = some h ∧
        (e.sock.flags.bound = true → handle ≠ e.sock.sockMut) := by
      unfold Bindings.drop at opened
      dsimp only at opened
      split at opened
      case isTrue =>
        by_cases same : handle = e.sock.sockMut
        · rw [same, Finmap.lookup_erase] at opened
          cases opened
        · rw [Finmap.lookup_erase_ne same] at opened
          exact ⟨opened, fun _ => same⟩
      case isFalse unbound => exact ⟨opened, fun bound => absurd bound unbound⟩
    obtain ⟨fd', e', found, bound, mutex⟩ := inv.owned handle h other.1
    have elsewhere : fd' ≠ fd := by
      rintro rfl
      obtain rfl := Option.some.inj (at_fd.symm.trans found)
      exact other.2 bound mutex.symm
    exact ⟨fd', e', (Function.update_of_ne elsewhere _ _).trans found, bound, mutex⟩
  · intro fd' e' found
    exact inv.listening fd' e' (sockets fd' e' found).2

theorem BindingsInv.effect (inv : BindingsInv b) (effect : BindingEffect b b') :
    BindingsInv b' := by
  cases effect with
  | none => exact inv
  | writes at_fd same => exact inv.writes at_fd same
  | binds at_fd unbound fresh bound => exact inv.binds at_fd unbound fresh bound
  | adds free unbound silent => exact inv.adds free unbound silent
  | accepts at_fd listening free fresh bound socket silent =>
      exact inv.accepts at_fd listening free fresh bound socket silent
  | closes at_fd => exact inv.closes at_fd

end Keeps

end IpxWrapper
