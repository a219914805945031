import IpxWrapper.SocketTable

/-!
# The sockets table is typed

A datagram socket has a queue of its own and a stream socket has none, and a
bound socket has a handle of its own. `socket`, `bind`, `connect`, `listen` and
`closesocket` keep this; `accept` keeps it if the memory for the new socket
happens to hold a null pointer where `recv_queue` lies:
`socketMoves_typed_iff`.
-/

namespace IpxWrapper

open Base

/-! ## Typed tables -/

/-- An entry of the table has the queue and the handle that its flags promise. -/
structure EntryTyped (w : World) (fd : Nat) (e : TableEntry) : Prop where
  spx : e.sock.flags.isSpx = true → e.sock.recvQueue = 0
  queue : e.sock.flags.isSpx = false →
    ∃ queue, w.queues e.sock.recvQueue = some queue ∧ queue.owner = e.id
  alone : e.sock.flags.isSpx = false →
    ∀ fd' e', w.sockets fd' = some e' → e'.sock.recvQueue = e.sock.recvQueue → fd' = fd
  bound : e.sock.flags.bound = true → w.handles e.sock.sockMut = some e.id

/-- Every entry is typed, and nothing was released that was not its socket's. -/
structure Typed (w : World) : Prop where
  entries : ∀ fd e, w.sockets fd = some e → EntryTyped w fd e
  sound : w.misuse = false

/-! ## The invariant -/

/-- What an entry has, whatever the others have. -/
structure EntryInv (w : World) (e : TableEntry) : Prop where
  old : e.id < w.nextId
  spx : e.sock.flags.isSpx = true → e.sock.recvQueue = 0
  dgram : e.sock.flags.isSpx = false →
    e.sock.recvQueue ≠ 0 ∧ w.queues e.sock.recvQueue = some ⟨1, e.id⟩
  bound : e.sock.flags.bound = true → w.handles e.sock.sockMut = some e.id

structure WorldInv (w : World) : Prop where
  entries : ∀ fd e, w.sockets fd = some e → EntryInv w e
  unique : ∀ fd fd' e e', w.sockets fd = some e → w.sockets fd' = some e' → e.id = e'.id →
    fd = fd'
  sound : w.misuse = false

section Invariant

variable {w : World} {fd id handle ptr : Nat} {e : TableEntry} {sock : IpxSocket}

theorem WorldInv.init (encap : EncapType) : WorldInv (.init encap) where
  entries := fun _ _ at_fd => by cases at_fd
  unique := fun _ _ _ _ at_fd => by cases at_fd
  sound := rfl

theorem WorldInv.typed (inv : WorldInv w) : Typed w where
  entries := fun fd e at_fd =>
    { spx := (inv.entries fd e at_fd).spx
      queue := fun dgram => ⟨_, ((inv.entries fd e at_fd).dgram dgram).2, rfl⟩
      alone := fun dgram fd' e' at_fd' same => by
        obtain ⟨notNull, queue⟩ := (inv.entries fd e at_fd).dgram dgram
        cases kind : e'.sock.flags.isSpx with
        | true =>
            rw [(inv.entries fd' e' at_fd').spx kind] at same
            exact absurd same.symm notNull
        | false =>
            have queue' := ((inv.entries fd' e' at_fd').dgram kind).2
            rw [same, queue, Option.some.injEq, LiveQueue.mk.injEq] at queue'
            exact inv.unique fd' fd e' e at_fd' at_fd queue'.2.symm
      bound := (inv.entries fd e at_fd).bound }
  sound := inv.sound

/-! ## Handles -/

theorem handles_openHandle (w : World) (id handle : Nat) (socket : UInt16) :
    (w.openHandle id handle socket).handles = Function.update w.handles handle (some id) := by
  funext other
  unfold World.openHandle World.handles
  by_cases same : other = handle
  · rw [same, Finmap.lookup_insert, Function.update_self]
    rfl
  · rw [Finmap.lookup_insert_of_ne _ same, Function.update_of_ne same]

theorem handles_closeHandle (w : World) (id handle : Nat) :
    (w.closeHandle id handle).handles = Function.update w.handles handle none := by
  funext other
  unfold World.closeHandle World.handles
  by_cases same : other = handle
  · rw [same, Finmap.lookup_erase, Function.update_self]
    rfl
  · rw [Finmap.lookup_erase_ne same, Function.update_of_ne same]

/-- A handle that is opened is no other socket's. -/
theorem EntryInv.openHandle (inv : EntryInv w e) (fresh : w.handles handle = none) (id : Nat)
    (socket : UInt16) : EntryInv (w.openHandle id handle socket) e where
  old := inv.old
  spx := inv.spx
  dgram := inv.dgram
  bound := fun bound => by
    have own := inv.bound bound
    have other : e.sock.sockMut ≠ handle := by
      intro same
      rw [same, fresh] at own
      cases own
    rw [handles_openHandle, Function.update_of_ne other]
    exact own

theorem WorldInv.openHandle (inv : WorldInv w) (fresh : w.handles handle = none) (id : Nat)
    (socket : UInt16) : WorldInv (w.openHandle id handle socket) where
  entries := fun fd e at_fd => (inv.entries fd e at_fd).openHandle fresh id socket
  unique := inv.unique
  sound := inv.sound

/-- A handle that is opened and closed leaves nothing behind. -/
theorem closeHandle_openHandle (fresh : w.handles handle = none) (id : Nat) (socket : UInt16) :
    (w.openHandle id handle socket).closeHandle id handle = w := by
  have own : (w.openHandle id handle socket).handles handle = some id := by
    rw [handles_openHandle, Function.update_self]
  have handles : (w.mutexHandles.insert handle ⟨id, socket⟩).erase handle = w.mutexHandles := by
    refine Finmap.ext_lookup fun other => ?_
    by_cases same : other = handle
    · rw [same, Finmap.lookup_erase]
      exact (Option.map_eq_none_iff.mp fresh).symm
    · rw [Finmap.lookup_erase_ne same, Finmap.lookup_insert_of_ne _ same]
  unfold World.closeHandle
  rw [own, bne_self_eq_false, Bool.or_false]
  unfold World.openHandle
  dsimp only
  rw [handles]

/-! ## Entries -/

/-- An entry is written: it keeps its kind and its queue, and it is bound only with a
handle of its own. -/
theorem WorldInv.store (inv : WorldInv w) (at_fd : w.sockets fd = some e)
    (kind : sock.flags.isSpx = e.sock.flags.isSpx)
    (queue : sock.recvQueue = e.sock.recvQueue)
    (bound : sock.flags.bound = true → w.handles sock.sockMut = some e.id) :
    WorldInv (w.store fd e sock) := by
  have before := inv.entries fd e at_fd
  have ids : ∀ fd' e', (w.store fd e sock).sockets fd' = some e' →
      ∃ e₀, w.sockets fd' = some e₀ ∧ e₀.id = e'.id := by
    intro fd' e' at_fd'
    change Function.update w.sockets fd _ fd' = some e' at at_fd'
    by_cases same : fd' = fd
    · subst same
      rw [Function.update_self, Option.some.injEq] at at_fd'
      exact ⟨e, at_fd, by rw [← at_fd']⟩
    · rw [Function.update_of_ne same] at at_fd'
      exact ⟨e', at_fd', rfl⟩
  constructor
  · intro fd' e' at_fd'
    change Function.update w.sockets fd _ fd' = some e' at at_fd'
    by_cases same : fd' = fd
    · subst same
      rw [Function.update_self, Option.some.injEq] at at_fd'
      subst at_fd'
      exact
        { old := before.old
          spx := fun spx => queue.trans (before.spx (kind.symm.trans spx))
          dgram := fun dgram => by
            have own := before.dgram (kind.symm.trans dgram)
            rw [← queue] at own
            exact own
          bound := bound }
    · rw [Function.update_of_ne same] at at_fd'
      have other := inv.entries fd' e' at_fd'
      exact ⟨other.old, other.spx, other.dgram, other.bound⟩
  · intro fd₁ fd₂ e₁ e₂ at₁ at₂ same
    obtain ⟨e₁', at₁', id₁⟩ := ids fd₁ e₁ at₁
    obtain ⟨e₂', at₂', id₂⟩ := ids fd₂ e₂ at₂
    exact inv.unique fd₁ fd₂ e₁' e₂' at₁' at₂' (id₁.trans (same.trans id₂.symm))
  · exact inv.sound

/-- A socket is added, with what it needs. -/
theorem WorldInv.addSocket (inv : WorldInv w)
    (new : EntryInv { w with nextId := w.nextId + 1 } ⟨w.nextId, sock⟩) :
    WorldInv (w.addSocket sock) := by
  have entries : ∀ fd e, (w.addSocket sock).sockets fd = some e →
      (fd = sock.fd ∧ e = ⟨w.nextId, sock⟩) ∨ w.sockets fd = some e := by
    intro fd e at_fd
    change Function.update w.sockets sock.fd _ fd = some e at at_fd
    by_cases same : fd = sock.fd
    · rw [same, Function.update_self, Option.some.injEq] at at_fd
      exact Or.inl ⟨same, at_fd.symm⟩
    · rw [Function.update_of_ne same] at at_fd
      exact Or.inr at_fd
  constructor
  · intro fd e at_fd
    rcases entries fd e at_fd with ⟨-, rfl⟩ | old
    · exact ⟨new.old, new.spx, new.dgram, new.bound⟩
    · have other := inv.entries fd e old
      exact ⟨Nat.lt_succ_of_lt other.old, other.spx, other.dgram, other.bound⟩
  · intro fd₁ fd₂ e₁ e₂ at₁ at₂ same
    rcases entries fd₁ e₁ at₁ with ⟨rfl, rfl⟩ | old₁
    · rcases entries fd₂ e₂ at₂ with ⟨rfl, rfl⟩ | old₂
      · rfl
      · have less := (inv.entries fd₂ e₂ old₂).old
        rw [← same] at less
        exact absurd less (Nat.lt_irrefl _)
    · rcases entries fd₂ e₂ at₂ with ⟨rfl, rfl⟩ | old₂
      · have less := (inv.entries fd₁ e₁ old₁).old
        rw [same] at less
        exact absurd less (Nat.lt_irrefl _)
      · exact inv.unique fd₁ fd₂ e₁ e₂ old₁ old₂ same
  · exact inv.sound

/-- An entry is taken out of the table; no other has its number. -/
theorem WorldInv.remove (inv : WorldInv w) (at_fd : w.sockets fd = some e) :
    WorldInv { w with sockets := Function.update w.sockets fd none } ∧
      ∀ fd' e', Function.update w.sockets fd none fd' = some e' → e'.id ≠ e.id := by
  have entries : ∀ fd' e', Function.update w.sockets fd none fd' = some e' →
      fd' ≠ fd ∧ w.sockets fd' = some e' := by
    intro fd' e' at_fd'
    by_cases same : fd' = fd
    · rw [same, Function.update_self] at at_fd'
      cases at_fd'
    · rw [Function.update_of_ne same] at at_fd'
      exact ⟨same, at_fd'⟩
  constructor
  · constructor
    · intro fd' e' at_fd'
      have other := inv.entries fd' e' (entries fd' e' at_fd').2
      exact ⟨other.old, other.spx, other.dgram, other.bound⟩
    · intro fd₁ fd₂ e₁ e₂ at₁ at₂ same
      exact inv.unique fd₁ fd₂ e₁ e₂ (entries fd₁ e₁ at₁).2 (entries fd₂ e₂ at₂).2 same
    · exact inv.sound
  · intro fd' e' at_fd' same
    obtain ⟨other, at_fd'⟩ := entries fd' e' at_fd'
    exact other (inv.unique fd' fd e' e at_fd' at_fd same)

/-! ## What is given back -/

/-- The handle of a socket that is gone is closed. -/
theorem WorldInv.closeHandle (inv : WorldInv w)
    (gone : ∀ fd e, w.sockets fd = some e → e.id ≠ id) (own : w.handles handle = some id) :
    WorldInv (w.closeHandle id handle) where
  entries := fun fd e at_fd => by
    have before := inv.entries fd e at_fd
    refine ⟨before.old, before.spx, before.dgram, fun bound => ?_⟩
    have other : e.sock.sockMut ≠ handle := by
      intro same
      have theirs := before.bound bound
      rw [same, own, Option.some.injEq] at theirs
      exact gone fd e at_fd theirs.symm
    rw [handles_closeHandle, Function.update_of_ne other]
    exact before.bound bound
  unique := inv.unique
  sound := by
    change (w.misuse || w.handles handle != some id) = false
    rw [inv.sound, own, bne_self_eq_false]
    rfl

theorem releaseRecvQueue_own (own : w.queues ptr = some ⟨1, id⟩) :
    w.releaseRecvQueue id ptr = w.freeQueue ptr := by
  unfold World.releaseRecvQueue
  rw [own]
  simp only [bne_self_eq_false, Bool.or_false, Int.sub_self, if_true]

/-- The queue of a socket that is gone is freed. -/
theorem WorldInv.freeQueue (inv : WorldInv w)
    (gone : ∀ fd e, w.sockets fd = some e → e.id ≠ id) (own : w.queues ptr = some ⟨1, id⟩) :
    WorldInv (w.freeQueue ptr) := by
  refine ⟨fun fd e at_fd => ?_, inv.unique, inv.sound⟩
  have before := inv.entries fd e at_fd
  refine ⟨before.old, before.spx, fun dgram => ?_, before.bound⟩
  obtain ⟨notNull, queue⟩ := before.dgram dgram
  have other : e.sock.recvQueue ≠ ptr := by
    intro same
    rw [same, own, Option.some.injEq, LiveQueue.mk.injEq] at queue
    exact gone fd e at_fd queue.2.symm
  exact ⟨notNull, (Function.update_of_ne other _ _).trans queue⟩

/-- A queue is allocated for the next socket. -/
theorem WorldInv.allocQueue (inv : WorldInv w) (fresh : w.queues ptr = none) :
    WorldInv (w.allocQueue ptr) := by
  refine ⟨fun fd e at_fd => ?_, inv.unique, inv.sound⟩
  have before := inv.entries fd e at_fd
  refine ⟨before.old, before.spx, fun dgram => ?_, before.bound⟩
  obtain ⟨notNull, queue⟩ := before.dgram dgram
  have other : e.sock.recvQueue ≠ ptr := by
    intro same
    rw [same, fresh] at queue
    cases queue
  exact ⟨notNull, (Function.update_of_ne other _ _).trans queue⟩

/-- A queue that is allocated and freed leaves nothing behind. -/
theorem freeQueue_allocQueue (fresh : w.queues ptr = none) :
    (w.allocQueue ptr).freeQueue ptr = w := by
  unfold World.allocQueue World.freeQueue
  simp only [Function.update_idem]
  rw [← fresh, Function.update_eq_self]

end Invariant

/-! ## `socket` and `closesocket` -/

section Calls

variable {w : World} {fd : Nat} {e : TableEntry}

theorem WorldInv.socketDgram (inv : WorldInv w) (protocol : Int) {env : SocketEnv}
    (fresh : ∀ ptr ∈ env.recvQueue, ptr ≠ 0 ∧ w.queues ptr = none) :
    WorldInv (socketDgram protocol env w).2 := by
  unfold IpxWrapper.socketDgram
  cases env.nsock with
  | none => exact inv
  | some nsock =>
      cases allocated : env.recvQueue with
      | none => exact inv
      | some ptr =>
          obtain ⟨notNull, fresh⟩ := fresh ptr allocated
          have own : (w.allocQueue ptr).queues ptr = some ⟨1, (w.allocQueue ptr).nextId⟩ :=
            Function.update_self _ _ _
          cases env.criticalSection with
          | some error =>
              dsimp only
              rw [freeQueue_allocQueue fresh]
              exact inv
          | none =>
              cases env.rSocket with
              | none =>
                  dsimp only
                  rw [releaseRecvQueue_own own, freeQueue_allocQueue fresh]
                  exact inv
              | some fd =>
                  refine (inv.allocQueue fresh).addSocket ?_
                  exact
                    { old := Nat.lt_succ_self _
                      spx := fun spx => by cases spx
                      dgram := fun _ => ⟨notNull, own⟩
                      bound := fun bound => by cases bound }

theorem WorldInv.socketStream (inv : WorldInv w) (protocol : Int) (env : SocketEnv) :
    WorldInv (socketStream protocol env w).2 := by
  unfold IpxWrapper.socketStream
  split
  · exact inv
  split
  · exact inv
  cases env.nsock with
  | none => exact inv
  | some nsock =>
      cases env.rSocket with
      | none => exact inv
      | some fd =>
          refine inv.addSocket ?_
          exact
            { old := Nat.lt_succ_self _
              spx := fun _ => rfl
              dgram := fun dgram => by cases dgram
              bound := fun bound => by cases bound }

theorem WorldInv.socket (inv : WorldInv w) (af : UInt16) (type protocol : Int) {env : SocketEnv}
    (fresh : ∀ ptr ∈ env.recvQueue, ptr ≠ 0 ∧ w.queues ptr = none) (underlying : Int) :
    WorldInv (socket af type protocol env underlying w).2 := by
  unfold IpxWrapper.socket
  split
  · split
    · exact inv.socketDgram protocol fresh
    split
    · exact inv.socketStream protocol env
    · exact inv
  · exact inv

/-- `closesocket` releases what the entry has, and nothing else. -/
theorem WorldInv.closesocket (inv : WorldInv w) (fd : Nat) (ret : Int) :
    WorldInv (closesocket fd ret w).2 := by
  unfold IpxWrapper.closesocket
  cases at_fd : w.sockets fd with
  | none => exact inv
  | some e =>
      dsimp only
      split
      · exact inv
      obtain ⟨removed, gone⟩ := inv.remove at_fd
      have before := inv.entries fd e at_fd
      by_cases null : e.sock.recvQueue = 0
      · rw [if_neg (not_not_intro null)]
        split
        case isTrue bound => exact removed.closeHandle gone (before.bound bound)
        case isFalse => exact removed
      · have dgram : e.sock.flags.isSpx = false := by
          cases kind : e.sock.flags.isSpx with
          | true => exact absurd (before.spx kind) null
          | false => rfl
        have own := (before.dgram dgram).2
        have freed := removed.freeQueue gone own
        rw [if_pos null, releaseRecvQueue_own own]
        split
        case isTrue bound => exact freed.closeHandle gone (before.bound bound)
        case isFalse => exact freed

/-! ## `bind` -/

variable {sock : IpxSocket}

/-- What `_open_socket_mutex` does: it opens a handle, or changes nothing. -/
theorem openSocketMutex_cases {env : MutexEnv} (fresh : w.handles env.handle = none) (id : Nat)
    (socket : UInt16) (exclusive : Bool) :
    openSocketMutex env id socket exclusive w = (none, w) ∨
      openSocketMutex env id socket exclusive w =
        (some env.handle, w.openHandle id env.handle socket) := by
  unfold openSocketMutex
  cases env.createMutex socket with
  | failed => exact Or.inl rfl
  | created => exact Or.inr rfl
  | existed =>
      cases exclusive with
      | false => exact Or.inr rfl
      | true =>
          dsimp only
          rw [if_pos rfl, closeHandle_openHandle fresh]
          exact Or.inl rfl

/-- What `_complete_bind` does: the socket is bound with a handle of its own, or at
most its idea of the handle changes. -/
inductive CompleteBind (env : MutexEnv) (id : Nat) (sock : IpxSocket) (w : World) :
    Bool × IpxSocket × World → Prop where
  | bound (addr : SockaddrIpx) : CompleteBind env id sock w (true,
      { sock with
        addr := addr
        sockMut := env.handle
        flags := { sock.flags with bound := true } },
      w.openHandle id env.handle (htons addr.socket))
  | failed (sockMut : Nat) : CompleteBind env id sock w (false, { sock with sockMut := sockMut }, w)

/-- The loop over the dynamic numbers goes round again only with the next number. -/
theorem dynamicBindBody_next {env : MutexEnv} {id : Nat} {n n' : UInt16} {w' : World}
    (pass : dynamicBindBody env id sock (n, w) = .next (n', w')) :
    n ≠ 65535 ∧ n' = n + 1 ∧ openSocketMutex env id n true w = (none, w') := by
  unfold dynamicBindBody at pass
  dsimp only at pass
  split at pass
  case h_1 => cases pass
  case h_2 w₁ refused =>
    split at pass
    case isTrue => cases pass
    case isFalse more =>
      obtain ⟨rfl, rfl⟩ := Prod.mk.inj (Iter.next.inj pass)
      exact ⟨more, rfl, refused⟩

/-- It is left before its counter wraps. -/
theorem dynamicBind_done (env : MutexEnv) (id : Nat) (sock : IpxSocket) (w : World) :
    ∃ result, Loop.run (dynamicBindBody env id sock) (65536 - 1024) (1024, w) = .done result := by
  have decreases : ∀ s s' : UInt16 × World, True → dynamicBindBody env id sock s = .next s' →
      True ∧ 65535 - s'.1.toNat < 65535 - s.1.toNat := by
    intro s s' _ pass
    obtain ⟨more, next, -⟩ := dynamicBindBody_next pass
    have bound := s.1.toNat_lt
    have last : s.1.toNat ≠ 65535 := fun last => more (UInt16.toNat_inj.mp last)
    have succ : s'.1.toNat = (s.1.toNat + 1) % 65536 := by
      rw [next, UInt16.toNat_add]
      rfl
    exact ⟨trivial, by omega⟩
  have left : ∃ result, Loop.run (dynamicBindBody env id sock)
      (65535 - (1024 : UInt16).toNat + 1) (1024, w) = .done result :=
    Loop.run_of_measure (fun s : UInt16 × World => 65535 - s.1.toNat) decreases trivial
  rwa [show 65535 - (1024 : UInt16).toNat + 1 = 65536 - 1024 by decide] at left

theorem dynamicBindBody_done {env : MutexEnv} (fresh : w.handles env.handle = none) {id : Nat}
    {n : UInt16} {result : Bool × IpxSocket × World}
    (pass : dynamicBindBody env id sock (n, w) = .done result) :
    CompleteBind env id sock w result := by
  unfold dynamicBindBody at pass
  dsimp only at pass
  rcases openSocketMutex_cases fresh id n true with refused | opened
  · rw [refused] at pass
    dsimp only at pass
    split at pass
    · obtain rfl := Iter.done.inj pass
      exact .failed sock.sockMut
    · cases pass
  · rw [opened] at pass
    obtain rfl := Iter.done.inj pass
    have number : htons (htons n) = n := htons_htons n
    nth_rewrite 2 [← number]
    exact .bound { sock.addr with socket := htons n }

theorem completeBind_spec {env : MutexEnv} (fresh : w.handles env.handle = none) (id : Nat)
    (sock : IpxSocket) : CompleteBind env id sock w (completeBind env id sock w) := by
  unfold completeBind
  split
  · obtain ⟨result, done⟩ := dynamicBind_done env id sock w
    rw [done]
    refine Loop.Yields.post (I := fun s : UInt16 × World => s.2 = w) ?_ ?_ rfl ⟨_, done⟩
    · intro s s' same pass
      obtain ⟨-, -, refused⟩ := dynamicBindBody_next pass
      rw [same] at refused
      rcases openSocketMutex_cases fresh id s.1 true with unchanged | opened
      · rw [unchanged] at refused
        exact (Prod.mk.inj refused).2.symm
      · rw [opened] at refused
        cases refused
    · intro s a same pass
      obtain ⟨n, w'⟩ := s
      obtain rfl : w' = w := same
      exact dynamicBindBody_done fresh pass
  · rcases openSocketMutex_cases fresh id (htons sock.addr.socket) (!sock.flags.reuse)
      with none' | opened
    · rw [none']
      exact .failed 0
    · rw [opened]
      exact .bound sock.addr

/-- An entry is written, and its binding is left as it is. -/
theorem WorldInv.store_same (inv : WorldInv w) (at_fd : w.sockets fd = some e)
    (kind : sock.flags.isSpx = e.sock.flags.isSpx)
    (queue : sock.recvQueue = e.sock.recvQueue) (bound : sock.flags.bound = e.sock.flags.bound)
    (mutex : sock.sockMut = e.sock.sockMut) : WorldInv (w.store fd e sock) := by
  refine inv.store at_fd kind queue fun isBound => ?_
  rw [mutex]
  exact (inv.entries fd e at_fd).bound (bound.symm.trans isBound)

/-- An entry is written that is not bound afterwards. -/
theorem WorldInv.store_unbound (inv : WorldInv w) (at_fd : w.sockets fd = some e)
    (kind : sock.flags.isSpx = e.sock.flags.isSpx)
    (queue : sock.recvQueue = e.sock.recvQueue) (unbound : sock.flags.bound = false) :
    WorldInv (w.store fd e sock) := by
  refine inv.store at_fd kind queue fun isBound => ?_
  rw [unbound] at isBound
  cases isBound

/-- An entry is written whose socket was bound just now. -/
theorem WorldInv.store_bound (inv : WorldInv w) (at_fd : w.sockets fd = some e)
    {env : MutexEnv} (fresh : w.handles env.handle = none)
    (kind : sock.flags.isSpx = e.sock.flags.isSpx)
    (queue : sock.recvQueue = e.sock.recvQueue) (mutex : sock.sockMut = env.handle)
    {socket : UInt16} : WorldInv ((w.openHandle e.id env.handle socket).store fd e sock) := by
  refine (inv.openHandle fresh e.id socket).store at_fd kind queue fun _ => ?_
  rw [mutex, handles_openHandle, Function.update_self]

theorem resolveBindAddress_keeps {cache : InterfaceCache} {addr : SockaddrIpx}
    {sock' : IpxSocket} (resolved : resolveBindAddress cache addr sock = some sock') :
    sock'.flags = sock.flags ∧ sock'.recvQueue = sock.recvQueue := by
  unfold resolveBindAddress at resolved
  obtain ⟨iface, -, rfl⟩ := Option.map_eq_some_iff.mp resolved
  exact ⟨rfl, rfl⟩

theorem WorldInv.bindSocket (inv : WorldInv w) (at_fd : w.sockets fd = some e)
    (addr : SockaddrIpx) (addrlen : Nat) {env : BindEnv}
    (fresh : w.handles env.mutex.handle = none) :
    WorldInv (bindSocket fd e addr addrlen env w).2 := by
  unfold IpxWrapper.bindSocket
  split
  · exact inv
  split
  · exact inv
  case isFalse unbound =>
    have unbound : e.sock.flags.bound = false := eq_false_of_ne_true unbound
    dsimp only
    split
    case h_1 => exact inv.store_same at_fd rfl rfl rfl rfl
    case h_2 sock resolved =>
      obtain ⟨flags, queue⟩ := resolveBindAddress_keeps resolved
      have kind : sock.flags.isSpx = e.sock.flags.isSpx := by rw [flags]
      have stays : sock.flags.bound = false := by rw [flags, unbound]
      have spec := completeBind_spec fresh e.id sock
      generalize completeBind env.mutex e.id sock w = result at spec ⊢
      cases spec with
      | failed sockMut => exact inv.store_unbound at_fd kind queue stays
      | bound addr =>
          have undone (sock : IpxSocket) (kind : sock.flags.isSpx = e.sock.flags.isSpx)
              (queue : sock.recvQueue = e.sock.recvQueue) (mutex : sock.sockMut = env.mutex.handle) :
              WorldInv (unbind fd e sock
                (w.openHandle e.id env.mutex.handle (htons addr.socket))).2 := by
            unfold unbind
            rw [mutex, closeHandle_openHandle fresh]
            exact inv.store_unbound at_fd kind queue rfl
          dsimp only
          split
          · exact undone _ kind queue rfl
          cases env.rGetsockname with
          | none => exact undone _ kind queue rfl
          | some port =>
              refine inv.store_bound at_fd fresh ?_ ?_ ?_
              · exact kind
              · exact queue
              · rfl

theorem WorldInv.bind (inv : WorldInv w) (fd : Nat) (addr : SockaddrIpx) (addrlen : Nat)
    {env : BindEnv} (fresh : w.handles env.mutex.handle = none) (underlying : Int) :
    WorldInv (bind fd addr addrlen env underlying w).2 := by
  unfold IpxWrapper.bind
  cases at_fd : w.sockets fd with
  | none => exact inv
  | some e => exact inv.bindSocket at_fd addr addrlen fresh

/-! ## `connect`, `listen` and `accept` -/

/-- A socket whose lookup ends keeps all but its network and node number. -/
theorem awaitReply_keeps {cache : InterfaceCache} {ipxaddr : SockaddrIpx}
    {events : List LookupEvent} {ip : UInt32} {port : UInt16} {sock' : IpxSocket}
    (found : awaitReply cache ipxaddr sock events = .found ip port sock') :
    ∃ netnum nodenum,
      sock' = { sock with addr := { sock.addr with netnum := netnum, nodenum := nodenum } } := by
  induction events with
  | nil => cases found
  | cons event rest ih =>
      cases event with
      | selectFailed => cases found
      | received reply ip' =>
          cases reply with
          | none => exact ih found
          | some reply =>
              unfold awaitReply at found
              split at found
              · split at found
                · cases found
                  exact ⟨sock.addr.netnum, sock.addr.nodenum, rfl⟩
                · cases subnet : ipxInterfaceBySubnet cache ip' with
                  | none =>
                      rw [subnet] at found
                      exact ih found
                  | some iface =>
                      rw [subnet] at found
                      cases found
                      exact ⟨_, _, rfl⟩
              · exact ih found

theorem lookupTries_keeps {cache : InterfaceCache} {ipxaddr : SockaddrIpx} {bcastCount : Nat}
    {tries : Nat → LookupTry} {left i : Nat} {ip : UInt32} {port : UInt16} {sock' : IpxSocket}
    (found : lookupTries cache ipxaddr sock bcastCount tries left i = .found ip port sock') :
    ∃ netnum nodenum,
      sock' = { sock with addr := { sock.addr with netnum := netnum, nodenum := nodenum } } := by
  induction left generalizing i with
  | zero => cases found
  | succ left ih =>
      unfold lookupTries at found
      split at found
      · cases outcome : awaitReply cache ipxaddr sock (tries i).events with
        | noReply =>
            rw [outcome] at found
            exact ih found
        | selectFailed =>
            rw [outcome] at found
            cases found
        | unreachable =>
            rw [outcome] at found
            cases found
        | found ip' port' sock₁ =>
            rw [outcome] at found
            cases found
            exact awaitReply_keeps outcome
      · cases found

theorem WorldInv.spxConnected (inv : WorldInv w) (at_fd : w.sockets fd = some e)
    (kind : sock.flags.isSpx = e.sock.flags.isSpx)
    (queue : sock.recvQueue = e.sock.recvQueue) (bound : sock.flags.bound = e.sock.flags.bound)
    (mutex : sock.sockMut = e.sock.sockMut) (ipxaddr : SockaddrIpx) {env : ConnectEnv}
    (fresh : w.handles env.mutex.handle = none) :
    WorldInv (spxConnected fd e sock ipxaddr env w).2 := by
  unfold IpxWrapper.spxConnected
  dsimp only
  split
  · exact inv.store_same at_fd kind queue bound mutex
  case isFalse unbound =>
    have unbound : sock.flags.bound = false := eq_false_of_ne_true unbound
    cases env.rGetsockname with
    | none => exact inv.store_same at_fd kind queue bound mutex
    | some port =>
        dsimp only
        generalize result_eq : completeBind env.mutex e.id _ w = result
        have spec := result_eq ▸ completeBind_spec fresh e.id _
        cases spec with
        | failed sockMut => exact inv.store_unbound at_fd kind queue unbound
        | bound addr =>
              refine inv.store_bound at_fd fresh ?_ ?_ ?_
              · exact kind
              · exact queue
              · rfl

theorem WorldInv.connectSpx (inv : WorldInv w) (at_fd : w.sockets fd = some e)
    (ipxaddr : SockaddrIpx) {env : ConnectEnv} (fresh : w.handles env.mutex.handle = none) :
    WorldInv (connectSpx fd e ipxaddr env w).2 := by
  unfold IpxWrapper.connectSpx
  dsimp only
  split
  · exact inv
  split
  · exact inv
  split
  · exact inv
  split
  · exact inv
  split
  case h_1 => exact inv
  case h_2 => exact inv
  case h_3 => exact inv
  case h_4 ip port sock found =>
    obtain ⟨netnum, nodenum, same⟩ := lookupTries_keeps found
    have kind : sock.flags.isSpx = e.sock.flags.isSpx := by rw [same]
    have queue : sock.recvQueue = e.sock.recvQueue := by rw [same]
    have bound : sock.flags.bound = e.sock.flags.bound := by rw [same]
    have mutex : sock.sockMut = e.sock.sockMut := by rw [same]
    split
    · exact inv.spxConnected at_fd kind queue bound mutex ipxaddr fresh
    · exact inv.spxConnected at_fd kind queue bound mutex ipxaddr fresh
    · exact inv.store_same at_fd kind queue bound mutex
    · exact inv.store_same at_fd kind queue bound mutex

theorem WorldInv.connectDgram (inv : WorldInv w) (at_fd : w.sockets fd = some e)
    (addr : SockaddrIpx) (addrlen : Nat) {env : ConnectEnv}
    (fresh : w.handles env.bind.mutex.handle = none) :
    WorldInv (connectDgram fd e addr addrlen env w).2 := by
  unfold IpxWrapper.connectDgram
  dsimp only
  split
  · exact inv.store_same at_fd rfl rfl rfl rfl
  split
  · exact inv
  split
  · exact inv
  split
  · exact inv.store_same at_fd rfl rfl rfl rfl
  split
  · exact inv.store_same at_fd rfl rfl rfl rfl
  have inv' := inv.bind fd ⟨AF_IPX, addr.netnum, 0, 0⟩ sizeofSockaddrIpx fresh 0
  split
  · exact inv'
  split
  case h_1 => exact inv'
  case h_2 e' at_fd' => exact inv'.store_same at_fd' rfl rfl rfl rfl

theorem WorldInv.connect (inv : WorldInv w) (fd : Nat) (addr : SockaddrIpx) (addrlen : Nat)
    {env : ConnectEnv} (fresh : w.handles env.mutex.handle = none)
    (fresh' : w.handles env.bind.mutex.handle = none) (underlying : Int) :
    WorldInv (connect fd addr addrlen env underlying w).2 := by
  unfold IpxWrapper.connect
  cases at_fd : w.sockets fd with
  | none => exact inv
  | some e =>
      dsimp only
      split
      · split
        · exact inv
        split
        · exact inv
        · exact inv.connectSpx at_fd addr fresh
      · exact inv.connectDgram at_fd addr addrlen fresh'

theorem WorldInv.listen (inv : WorldInv w) (fd : Nat) (underlying : Int) :
    WorldInv (listen fd underlying w).2 := by
  unfold IpxWrapper.listen
  cases at_fd : w.sockets fd with
  | none => exact inv
  | some e =>
      dsimp only
      split
      · exact inv
      split
      · exact inv
      split
      · exact inv
      split
      · exact inv
      · exact inv.store_same at_fd rfl rfl rfl rfl

/-- `accept` makes a socket in memory that holds no null pointer at `recv_queue`. -/
def adoptsJunk (sock : IpxSocket) (addrlen : Option Nat) (env : AcceptEnv) : Bool :=
  sock.flags.isSpx && !addrlen.any (· < sizeofSockaddrIpx) &&
    env.nsock.any (·.recvQueue != 0) && env.rAccept.isSome && env.spxinit.isSome &&
      env.duplicate.isSome

theorem WorldInv.acceptSpx (inv : WorldInv w) (isSpx : sock.flags.isSpx = true) (addr : Bool)
    (addrlen : Option Nat) {env : AcceptEnv}
    (fresh : ∀ mutex ∈ env.duplicate, w.handles mutex = none)
    (clean : adoptsJunk sock addrlen env = false) :
    WorldInv (acceptSpx sock addr addrlen env w).2 := by
  unfold IpxWrapper.acceptSpx
  split
  · exact inv
  case isFalse long =>
    cases allocated : env.nsock with
    | none => exact inv
    | some nsock =>
        cases accepted : env.rAccept with
        | none => exact inv
        | some fd =>
            cases received : env.spxinit with
            | none => exact inv
            | some spxinit =>
                cases duplicated : env.duplicate with
                | none => exact inv
                | some mutex =>
                    have null : nsock.recvQueue = 0 := by
                      simpa [adoptsJunk, isSpx, long, allocated, accepted, received,
                        duplicated] using clean
                    refine (inv.openHandle (fresh mutex duplicated) w.nextId _).addSocket ?_
                    exact
                      { old := Nat.lt_succ_self _
                        spx := fun _ => null
                        dgram := fun dgram => by cases dgram
                        bound := fun _ => by
                          change (w.duplicateHandle _ _ mutex).handles mutex = some w.nextId
                          unfold World.duplicateHandle
                          rw [handles_openHandle, Function.update_self] }

theorem WorldInv.accept (inv : WorldInv w) (fd : Nat) (addr : Bool) (addrlen : Option Nat)
    {env : AcceptEnv} (fresh : ∀ mutex ∈ env.duplicate, w.handles mutex = none)
    (underlying : Int)
    (clean : ((w.sockets fd).any fun e => adoptsJunk e.sock addrlen env) = false) :
    WorldInv (accept fd addr addrlen env underlying w).2 := by
  unfold IpxWrapper.accept
  cases at_fd : w.sockets fd with
  | none => exact inv
  | some e =>
      rw [at_fd] at clean
      dsimp only
      split
      case isTrue isSpx => exact inv.acceptSpx isSpx addr addrlen fresh clean
      case isFalse => exact inv

/-- The new entry is a stream socket with a queue. -/
theorem accept_not_typed (addr : Bool) {addrlen : Option Nat} {env : AcceptEnv}
    (underlying : Int)
    (junk : ((w.sockets fd).any fun e => adoptsJunk e.sock addrlen env) = true) :
    ¬ Typed (accept fd addr addrlen env underlying w).2 := by
  obtain ⟨e, at_fd, junk⟩ := (Option.any_eq_true _ _).mp junk
  simp only [adoptsJunk, Bool.and_eq_true, Bool.not_eq_true', Option.isSome_iff_exists] at junk
  obtain ⟨⟨⟨⟨⟨isSpx, long⟩, nsock⟩, fd', accepted⟩, spxinit, received⟩, mutex, duplicated⟩ := junk
  obtain ⟨nsock, allocated, notNull⟩ := (Option.any_eq_true _ _).mp nsock
  unfold IpxWrapper.accept IpxWrapper.acceptSpx
  simp only [at_fd, isSpx, long, allocated, accepted, received, duplicated, if_true,
    Bool.false_eq_true, if_false]
  intro typed
  have entry := (typed.entries fd' _ (Function.update_self _ _ _)).spx rfl
  exact bne_iff_ne.mp notNull entry

end Calls

end IpxWrapper
