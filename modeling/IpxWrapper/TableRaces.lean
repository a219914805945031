import IpxWrapper.Base.Keyed
import IpxWrapper.Base.Slots
import IpxWrapper.SocketTableRuns

/-!
# Opening and closing at the same time

`socket` makes a descriptor before it takes the lock to add the entry, and
`closesocket` closes one before it takes the lock and looks the entry up, by
number. In between, other threads may run, and the system may give out the number
again. Here each of these is a step of its own, and any number of calls may be
between two of theirs.

The table is as `uthash` has it: `HASH_ADD_INT` does not look for an equal key, and
`HASH_FIND_INT` finds the latest of them. Where no call overtakes another with the
same number it is the table of `SocketTable` (`hashAdd_sockets`,
`closeEntry_sockets`), and `tableMoves_settled` says what is in it then.
-/

namespace IpxWrapper

open Base

/-! ## The state -/

/-- A descriptor that is open; its number here is no other's, however often the system
gives out the same `fd`. -/
structure Descriptor where
  id : Nat
  /-- It was made by `socket(AF_IPX, ...)`. -/
  ipx : Bool
deriving DecidableEq

/-- A `closesocket` after its `r_closesocket`. -/
structure Closing where
  fd : Nat
  /-- The descriptor that was closed; `none` if `r_closesocket` failed. -/
  closed : Option Nat
deriving DecidableEq

structure SharedTable where
  /-- The open descriptors. -/
  opened : Nat → Option Descriptor
  /-- `sockets`, the latest first. -/
  table : List TableEntry
  /-- What the calls of `socket` that have a descriptor are to add. -/
  adding : List TableEntry
  closing : List Closing
  nextId : Nat

namespace SharedTable

def init : SharedTable := ⟨fun _ => none, [], [], [], 0⟩

/-- `HASH_FIND_INT`. -/
def sockets (s : SharedTable) (fd : Nat) : Option TableEntry :=
  s.table.find? fun e => e.sock.fd = fd

/-- The system makes a descriptor. -/
def openFd (fd : Nat) (ipx : Bool) (s : SharedTable) : SharedTable :=
  { s with
    opened := Function.update s.opened fd (some ⟨s.nextId, ipx⟩)
    nextId := s.nextId + 1 }

/-- `closesocket` from `get_socket` on: the socket that it finds is freed, unless
`r_closesocket` failed. -/
def closeEntry (c : Closing) (s : SharedTable) : SharedTable :=
  match c.closed with
  | none => s
  | some _ => { s with table := s.table.eraseP fun e => e.sock.fd = c.fd }

end SharedTable

/-! ## Steps -/

inductive TableAct where
  /-- `socket(AF_IPX, ...)` up to `r_socket`, which returns `fd`; `nsock` is the socket as it
  is going to be added. -/
  | rSocket (nsock : IpxSocket) (fd : Nat)
  /-- A descriptor that is not made by `socket(AF_IPX, ...)`. -/
  | openOther (fd : Nat)
  /-- The section of `socket` with the lock held. -/
  | hashAdd (k : Nat)
  /-- `closesocket` up to `r_closesocket`, which succeeds on an open descriptor if `ok`. -/
  | rClosesocket (fd : Nat) (ok : Bool)
  /-- The section of `closesocket` with the lock held. -/
  | closeEntry (k : Nat)

/-- One step; `none` if it cannot happen in `s`. -/
def tableStep (act : TableAct) (s : SharedTable) : Option SharedTable :=
  match act with
  | .rSocket nsock fd =>
      match s.opened fd with
      | some _ => none
      | none => some { s.openFd fd true with adding := s.adding ++ [⟨s.nextId, { nsock with fd }⟩] }
  | .openOther fd =>
      match s.opened fd with
      | some _ => none
      | none => some (s.openFd fd false)
  | .hashAdd k =>
      match s.adding[k]? with
      | some e => some { s with table := e :: s.table, adding := s.adding.eraseIdx k }
      | none => none
  | .rClosesocket fd ok =>
      match s.opened fd, ok with
      | some d, true =>
          some { s with
            opened := Function.update s.opened fd none
            closing := s.closing ++ [⟨fd, some d.id⟩] }
      | _, _ => some { s with closing := s.closing ++ [⟨fd, none⟩] }
  | .closeEntry k =>
      match s.closing[k]? with
      | some c => some ({ s with closing := s.closing.eraseIdx k }.closeEntry c)
      | none => none

/-- The steps of a run from the start of the process. -/
def tableMoves (acts : List TableAct) : List (Move TableAct SharedTable) :=
  moves tableStep acts .init

/-! ## What the table is to hold -/

/-- The table holds one entry for each open IPX descriptor, its own, and no other. -/
def SharedTable.Settled (s : SharedTable) : Prop :=
  ∀ fd, (s.table.filter fun e => e.sock.fd = fd).map TableEntry.id =
    ((s.opened fd).filter Descriptor.ipx).toList.map Descriptor.id

/-- No call is in progress. -/
def SharedTable.Idle (s : SharedTable) : Prop := s.adding = [] ∧ s.closing = []

/-- `closesocket` frees the socket of a later descriptor than the one it closed. -/
def freesLater (m : Move TableAct SharedTable) : Bool :=
  match m.input with
  | .closeEntry k =>
      (m.before.closing[k]?).any fun c =>
        c.closed.any fun id => (m.before.sockets c.fd).any fun e => id < e.id
  | _ => false

/-- A socket is added while a `closesocket` of an earlier descriptor with its number has yet
to look that up, or a `closesocket` looks up a descriptor that has yet to be added. -/
def overtakes (m : Move TableAct SharedTable) : Bool :=
  match m.input with
  | .hashAdd k =>
      (m.before.adding[k]?).any fun e =>
        m.before.closing.any fun c => c.fd = e.sock.fd && c.closed.any (· < e.id)
  | .closeEntry k =>
      (m.before.closing[k]?).any fun c => m.before.adding.any fun e => c.closed = some e.id
  | _ => false

/-! ## What no step breaks -/

/-- What `socket` has made, whether it is in the table yet or not. -/
def SharedTable.entries (s : SharedTable) : List TableEntry := s.adding ++ s.table

/-- An entry is that of an open descriptor, or of one whose `closesocket` has yet to look it
up; and such a `closesocket` is for the latest descriptor with an entry. -/
structure TableInv (s : SharedTable) : Prop where
  fresh : ∀ fd, ∀ d ∈ s.opened fd, d.id < s.nextId
  freshEntries : ∀ e ∈ s.entries, e.id < s.nextId
  distinct : (s.entries.map TableEntry.id).Nodup
  single : (s.table.map fun e => e.sock.fd).Nodup
  live : ∀ e ∈ s.entries, s.opened e.sock.fd = some ⟨e.id, true⟩ ∨
    ⟨e.sock.fd, some e.id⟩ ∈ s.closing
  known : ∀ fd id, s.opened fd = some ⟨id, true⟩ → ∃ e ∈ s.entries, e.id = id ∧ e.sock.fd = fd
  later : ∀ e ∈ s.table, ∀ id, ⟨e.sock.fd, some id⟩ ∈ s.closing → e.id ≤ id
  earlier : ∀ fd id, ⟨fd, some id⟩ ∈ s.closing → id < s.nextId ∧ ∀ d ∈ s.opened fd, id < d.id

section Steps

variable {s s' : SharedTable} {fd k : Nat} {e : TableEntry} {c : Closing}

theorem TableInv.init : TableInv .init where
  fresh := fun _ _ open' => by cases open'
  freshEntries := fun _ member => by cases member
  distinct := List.nodup_nil
  single := List.nodup_nil
  live := fun _ member => by cases member
  known := fun _ _ open' => by cases open'
  later := fun _ member => by cases member
  earlier := fun _ _ member => by cases member

theorem openFd_opened (fd : Nat) (ipx : Bool) (s : SharedTable) (fd' : Nat) :
    (s.openFd fd ipx).opened fd' = if fd' = fd then some ⟨s.nextId, ipx⟩ else s.opened fd' :=
  Function.update_apply _ _ _ _

/-- A descriptor is made, for a call of `socket` or not. -/
theorem TableInv.opens (inv : TableInv s) (closed : s.opened fd = none)
    (new : Option TableEntry) (made : ∀ e ∈ new, e.id = s.nextId ∧ e.sock.fd = fd) :
    TableInv { s.openFd fd new.isSome with adding := s.adding ++ new.toList } := by
  have entries : (s.adding ++ new.toList ++ s.table).Perm (new.toList ++ s.entries) := by
    rw [SharedTable.entries, ← List.append_assoc]
    exact List.perm_append_comm.append_right _
  have member {e : TableEntry} (h : e ∈ s.adding ++ new.toList ++ s.table) :
      e ∈ new ∨ e ∈ s.entries := by
    rwa [entries.mem_iff, List.mem_append, Option.mem_toList] at h
  refine ⟨?fresh, ?freshEntries, ?distinct, inv.single, ?live, ?known, inv.later, ?earlier⟩
  case fresh =>
    intro fd' d open'
    change d ∈ (s.openFd fd new.isSome).opened fd' at open'
    change d.id < s.nextId + 1
    rw [openFd_opened] at open'
    split at open'
    · rw [← Option.some.inj open']
      exact Nat.lt_succ_self _
    · exact Nat.lt_succ_of_lt (inv.fresh fd' d open')
  case freshEntries =>
    intro e h
    change e.id < s.nextId + 1
    rcases member h with isNew | old
    · rw [(made e isNew).1]
      exact Nat.lt_succ_self _
    · exact Nat.lt_succ_of_lt (inv.freshEntries e old)
  case distinct =>
    refine (entries.map TableEntry.id).nodup_iff.mpr ?_
    rw [List.map_append]
    refine List.nodup_append.mpr ⟨?_, inv.distinct, ?_⟩
    · cases new with
      | none => exact List.nodup_nil
      | some e => exact List.nodup_singleton _
    · intro id isNew id' old same
      obtain ⟨e, h, rfl⟩ := List.mem_map.mp isNew
      obtain ⟨e', h', rfl⟩ := List.mem_map.mp old
      have less := inv.freshEntries e' h'
      rw [← same, (made e (Option.mem_toList.mp h)).1] at less
      exact Nat.lt_irrefl _ less
  case live =>
    intro e h
    change (s.openFd fd new.isSome).opened e.sock.fd = _ ∨ _
    rw [openFd_opened]
    rcases member h with isNew | old
    · left
      rw [if_pos (made e isNew).2, (made e isNew).1, Option.isSome_of_mem isNew]
    · refine (inv.live e old).imp_left fun open' => ?_
      rw [if_neg (by rintro rfl; rw [closed] at open'; cases open'), open']
  case known =>
    intro fd' id open'
    change (s.openFd fd new.isSome).opened fd' = _ at open'
    change ∃ e ∈ s.adding ++ new.toList ++ s.table, _
    rw [openFd_opened] at open'
    split at open'
    case isTrue same =>
      obtain ⟨rfl, ipx⟩ := Descriptor.mk.inj (Option.some.inj open')
      obtain ⟨e, isNew⟩ := Option.isSome_iff_exists.mp ipx
      obtain ⟨id, fd'⟩ := made e isNew
      refine ⟨e, ?_, id, fd'.trans same.symm⟩
      rw [entries.mem_iff, List.mem_append, Option.mem_toList]
      exact Or.inl isNew
    case isFalse =>
      obtain ⟨e, old, is⟩ := inv.known fd' id open'
      refine ⟨e, ?_, is⟩
      rw [entries.mem_iff]
      exact List.mem_append_right _ old
  case earlier =>
    intro fd' id pending
    obtain ⟨less, before⟩ := inv.earlier fd' id pending
    refine ⟨Nat.lt_succ_of_lt less, fun d open' => ?_⟩
    change d ∈ (s.openFd fd new.isSome).opened fd' at open'
    rw [openFd_opened] at open'
    split at open'
    · rw [← Option.some.inj open']
      exact less
    · exact before d open'

/-- `HASH_ADD_INT`: the entry was alone with its number, as no earlier descriptor with it
waits to be looked up. -/
theorem TableInv.hashAdd (inv : TableInv s) (at_k : s.adding[k]? = some e)
    (inOrder : ∀ id, ⟨e.sock.fd, some id⟩ ∈ s.closing → e.id ≤ id) :
    TableInv { s with table := e :: s.table, adding := s.adding.eraseIdx k } := by
  have entries : (s.adding.eraseIdx k ++ e :: s.table).Perm s.entries := by
    refine List.perm_middle.trans ?_
    exact ((perm_of_getElem? at_k).append_right s.table).symm
  have added : e ∈ s.entries := List.mem_append_left _ (List.mem_of_getElem? at_k)
  have alone : ∀ e' ∈ s.table, e'.sock.fd ≠ e.sock.fd := by
    intro e' member same
    have different : e'.id ≠ e.id := by
      have distinct := inv.distinct
      rw [SharedTable.entries, List.map_append] at distinct
      refine fun same => (List.nodup_append.mp distinct).2.2 e.id ?_ e'.id ?_ same.symm
      · exact List.mem_map_of_mem (List.mem_of_getElem? at_k)
      · exact List.mem_map_of_mem member
    have live := inv.live e added
    rcases inv.live e' (List.mem_append_right _ member) with open' | pending'
    · rcases live with open'' | pending
      · rw [← same, open', Option.some.injEq, Descriptor.mk.injEq] at open''
        exact different open''.1
      · -- The descriptor of `e` was closed before that of `e'` was made.
        rw [← same] at pending
        have earlier := (inv.earlier _ _ pending).2 _ open'
        have later := inv.later e' member _ pending
        exact Nat.lt_irrefl _ (Nat.lt_of_lt_of_le earlier later)
    · rw [same] at pending'
      have less := inOrder _ pending'
      rcases live with open'' | pending
      · have earlier := (inv.earlier _ _ pending').2 _ open''
        exact Nat.lt_irrefl _ (Nat.lt_of_lt_of_le earlier less)
      · rw [← same] at pending
        have later := inv.later e' member _ pending
        exact different (Nat.le_antisymm later less)
  refine ⟨inv.fresh, ?_, ?_, ?_, ?_, ?_, ?_, inv.earlier⟩
  · exact fun e' member => inv.freshEntries e' (entries.mem_iff.mp member)
  · exact (entries.map TableEntry.id).nodup_iff.mpr inv.distinct
  · refine List.nodup_cons.mpr ⟨fun member => ?_, inv.single⟩
    obtain ⟨e', member, same⟩ := List.mem_map.mp member
    exact alone e' member same
  · exact fun e' member => inv.live e' (entries.mem_iff.mp member)
  · intro fd id open'
    obtain ⟨e', member, is⟩ := inv.known fd id open'
    exact ⟨e', entries.mem_iff.mpr member, is⟩
  · intro e' member id pending
    rcases List.mem_cons.mp member with rfl | old
    · exact inOrder id pending
    · exact inv.later e' old id pending

/-- `r_closesocket` fails, and nothing changes. -/
theorem TableInv.failsToClose (inv : TableInv s) (fd : Nat) :
    TableInv { s with closing := s.closing ++ [⟨fd, none⟩] } := by
  have same {fd' id : Nat} : ⟨fd', some id⟩ ∈ s.closing ++ [⟨fd, none⟩] ↔
      ⟨fd', some id⟩ ∈ s.closing := by
    simp only [List.mem_append, List.mem_singleton, Closing.mk.injEq, reduceCtorEq, and_false,
      or_false]
  exact ⟨inv.fresh, inv.freshEntries, inv.distinct, inv.single,
    fun e member => (inv.live e member).imp_right same.mpr, inv.known,
    fun e member id pending => inv.later e member id (same.mp pending),
    fun fd id pending => inv.earlier fd id (same.mp pending)⟩

/-- `r_closesocket` closes the descriptor. -/
theorem TableInv.closes (inv : TableInv s) {d : Descriptor} (open' : s.opened fd = some d) :
    TableInv { s with
      opened := Function.update s.opened fd none
      closing := s.closing ++ [⟨fd, some d.id⟩] } := by
  have still {fd' : Nat} {d' : Descriptor} (h : Function.update s.opened fd none fd' = some d') :
      fd' ≠ fd ∧ s.opened fd' = some d' := by
    rw [Function.update_apply] at h
    split at h
    case isTrue => cases h
    case isFalse other => exact ⟨other, h⟩
  have cases' {fd' id : Nat} (h : ⟨fd', some id⟩ ∈ s.closing ++ [⟨fd, some d.id⟩]) :
      ⟨fd', some id⟩ ∈ s.closing ∨ fd' = fd ∧ id = d.id := by
    rw [List.mem_append, List.mem_singleton, Closing.mk.injEq, Option.some.injEq] at h
    exact h
  refine ⟨?fresh, inv.freshEntries, inv.distinct, inv.single, ?live, ?known, ?later, ?earlier⟩
  case fresh => exact fun fd' d' h => inv.fresh fd' d' (still h).2
  case live =>
    intro e member
    rcases inv.live e member with h | pending
    · by_cases same : e.sock.fd = fd
      · right
        rw [same, open', Option.some.injEq] at h
        rw [same, h]
        exact List.mem_append_right _ (List.mem_singleton_self _)
      · left
        exact (Function.update_of_ne same _ _).trans h
    · exact Or.inr (List.mem_append_left _ pending)
  case known => exact fun fd' id h => inv.known fd' id (still h).2
  case later =>
    intro e member id h
    rcases cases' h with pending | ⟨same, rfl⟩
    · exact inv.later e member id pending
    · rcases inv.live e (List.mem_append_right _ member) with h' | pending
      · rw [same, open', Option.some.injEq] at h'
        rw [h']
      · rw [same] at pending
        exact Nat.le_of_lt ((inv.earlier _ _ pending).2 d open')
  case earlier =>
    intro fd' id h
    rcases cases' h with pending | ⟨rfl, rfl⟩
    · obtain ⟨less, before⟩ := inv.earlier fd' id pending
      exact ⟨less, fun d' h' => before d' (still h').2⟩
    · exact ⟨inv.fresh _ d open', fun d' h' => absurd rfl (still h').1⟩

/-- The section of `closesocket` with the lock held. What it deletes is not the entry of a
descriptor that is open, as such a one is later than what was closed. -/
theorem TableInv.closeEntry (inv : TableInv s) (at_k : s.closing[k]? = some c)
    (added : ∀ e ∈ s.adding, c.closed ≠ some e.id) :
    TableInv ({ s with closing := s.closing.eraseIdx k }.closeEntry c) := by
  have kept {c' : Closing} (h : c' ∈ s.closing.eraseIdx k) : c' ∈ s.closing :=
    List.mem_of_mem_eraseIdx h
  cases closed : c.closed with
  | none =>
      unfold SharedTable.closeEntry
      rw [closed]
      refine ⟨inv.fresh, inv.freshEntries, inv.distinct, inv.single, ?_, inv.known, ?_, ?_⟩
      · intro e member
        refine (inv.live e member).imp_right fun pending => ?_
        rcases (mem_iff_of_getElem? at_k).mp pending with rfl | other
        · cases closed
        · exact other
      · exact fun e member id pending => inv.later e member id (kept pending)
      · exact fun fd id pending => inv.earlier fd id (kept pending)
  | some id =>
      unfold SharedTable.closeEntry
      rw [closed]
      have left {e : TableEntry} := mem_eraseP_key_iff (a := e) inv.single c.fd
      have sublist : (s.adding ++ s.table.eraseP fun e => e.sock.fd = c.fd).Sublist s.entries :=
        List.eraseP_sublist.append_left _
      have pending : ⟨c.fd, some id⟩ ∈ s.closing := by
        rw [← closed]
        exact List.mem_of_getElem? at_k
      refine ⟨inv.fresh, ?_, ?_, ?_, ?live, ?known, ?_, ?_⟩
      · exact fun e member => inv.freshEntries e (sublist.subset member)
      · exact inv.distinct.sublist (sublist.map _)
      · exact inv.single.sublist (List.eraseP_sublist.map _)
      case live =>
        intro e member
        refine (inv.live e (sublist.subset member)).imp_right fun pending' => ?_
        refine ((mem_iff_of_getElem? at_k).mp pending').resolve_left fun same => ?_
        rcases List.mem_append.mp member with waits | member
        · exact added e waits (congrArg Closing.closed same).symm
        · exact (left.mp member).2 (congrArg Closing.fd same)
      case known =>
        intro fd id' open'
        obtain ⟨e, member, is, rfl⟩ := inv.known fd id' open'
        refine ⟨e, ?_, is, rfl⟩
        rcases List.mem_append.mp member with waits | member
        · exact List.mem_append_left _ waits
        · refine List.mem_append_right _ (left.mpr ⟨member, fun same => ?_⟩)
          rw [← same] at pending
          have earlier := (inv.earlier _ _ pending).2 _ open'
          have later := inv.later e member id pending
          rw [is] at later
          exact Nat.lt_irrefl _ (Nat.lt_of_lt_of_le earlier later)
      · exact fun e member id pending => inv.later e (left.mp member).1 id (kept pending)
      · exact fun fd id pending => inv.earlier fd id (kept pending)

theorem TableInv.step {act : TableAct} (inv : TableInv s) (enabled : tableStep act s = some s')
    (inOrder : overtakes ⟨s, act, s'⟩ = false) : TableInv s' := by
  cases act with
  | rSocket nsock fd =>
      simp only [tableStep] at enabled
      split at enabled
      case h_1 => cases enabled
      case h_2 closed =>
        obtain rfl := Option.some.inj enabled
        refine inv.opens closed (some ⟨s.nextId, { nsock with fd }⟩) fun e made => ?_
        rw [← Option.some.inj made]
        exact ⟨rfl, rfl⟩
  | openOther fd =>
      simp only [tableStep] at enabled
      split at enabled
      case h_1 => cases enabled
      case h_2 closed =>
        obtain rfl := Option.some.inj enabled
        have opens := inv.opens closed none fun e made => by cases made
        rwa [Option.toList_none, List.append_nil] at opens
  | hashAdd k =>
      simp only [tableStep] at enabled
      split at enabled
      case h_1 e at_k =>
        obtain rfl := Option.some.inj enabled
        refine inv.hashAdd at_k fun id pending => ?_
        simp only [overtakes, at_k, Option.any_some, List.any_eq_false, Bool.and_eq_true,
          decide_eq_true_eq, not_and] at inOrder
        have less := inOrder _ pending rfl
        rwa [Option.any_some, decide_eq_true_eq, Nat.not_lt] at less
      case h_2 => cases enabled
  | rClosesocket fd ok =>
      simp only [tableStep] at enabled
      split at enabled
      case h_1 d open' =>
        obtain rfl := Option.some.inj enabled
        exact inv.closes open'
      case h_2 =>
        obtain rfl := Option.some.inj enabled
        exact inv.failsToClose fd
  | closeEntry k =>
      simp only [tableStep] at enabled
      split at enabled
      case h_1 c at_k =>
        obtain rfl := Option.some.inj enabled
        refine inv.closeEntry at_k fun e waits same => ?_
        simp only [overtakes, at_k, Option.any_some, List.any_eq_false, decide_eq_true_eq]
          at inOrder
        exact inOrder e waits same
      case h_2 => cases enabled

theorem TableInv.freesLater {act : TableAct} (inv : TableInv s) :
    freesLater ⟨s, act, s'⟩ = false := by
  cases act with
  | closeEntry k =>
      rw [Bool.eq_false_iff]
      intro frees
      simp only [IpxWrapper.freesLater, Option.any_eq_true, decide_eq_true_eq] at frees
      obtain ⟨c, at_k, id, closed, e, found, less⟩ := frees
      unfold SharedTable.sockets at found
      have same := List.find?_some found
      rw [decide_eq_true_eq] at same
      have pending : ⟨e.sock.fd, some id⟩ ∈ s.closing := by
        rw [same, ← closed]
        exact List.mem_of_getElem? at_k
      have later := inv.later e (List.mem_of_find?_eq_some found) id pending
      exact Nat.lt_irrefl _ (Nat.lt_of_lt_of_le less later)
  | _ => rfl

/-- When no call is in progress the entries are those of the open descriptors. -/
theorem TableInv.settled (inv : TableInv s) (idle : s.Idle) : s.Settled := by
  have entries : s.entries = s.table := by
    rw [SharedTable.entries, idle.1, List.nil_append]
  have live (e : TableEntry) (member : e ∈ s.table) :
      s.opened e.sock.fd = some ⟨e.id, true⟩ := by
    refine (inv.live e (entries ▸ member)).resolve_right fun pending => ?_
    rw [idle.2] at pending
    cases pending
  intro fd
  by_cases known : ∃ e ∈ s.table, e.sock.fd = fd
  · obtain ⟨e, member, rfl⟩ := known
    rw [filter_key_eq_singleton inv.single member, live e member]
    rfl
  · have none' : s.table.filter (fun e => e.sock.fd = fd) = [] :=
      List.filter_eq_nil_iff.mpr fun e member same => known ⟨e, member, of_decide_eq_true same⟩
    rw [none']
    cases open' : s.opened fd with
    | none => rfl
    | some d =>
        obtain ⟨id, ipx⟩ := d
        cases ipx with
        | false => rfl
        | true =>
            obtain ⟨e, member, -, same⟩ := inv.known fd id open'
            exact absurd ⟨e, entries ▸ member, same⟩ known

end Steps

/-- As long as no call overtakes another with the same number, the table is right whenever no
call is in progress, and `closesocket` frees no later socket. -/
theorem tableMoves_settled (acts : List TableAct)
    (inOrder : ∀ m ∈ tableMoves acts, overtakes m = false) :
    ∀ m ∈ tableMoves acts, (m.after.Idle → m.after.Settled) ∧ freesLater m = false := by
  intro m member
  have inv := moves_induct (I := TableInv) (Q := fun m => freesLater m = false) .init inOrder
    (fun m before enabled inOrder => ⟨before.step enabled inOrder, before.freesLater⟩) m member
  exact ⟨inv.2.1.settled, inv.2.2⟩

/-- Descriptor 3 is closed while another call waits to add 4, and is given out again. -/
def reusedRun : List TableAct :=
  [.rSocket (someMemory 0) 3, .hashAdd 0, .rSocket (someMemory 0) 4, .rClosesocket 3 true,
    .hashAdd 0, .rSocket (someMemory 0) 3, .closeEntry 0, .hashAdd 0]

theorem reusedRun_settled :
    (tableMoves reusedRun).length = 8 ∧ ∀ m ∈ tableMoves reusedRun,
      (m.after.Idle → m.after.Settled) ∧ freesLater m = false :=
  ⟨by decide, tableMoves_settled _ (by decide)⟩

/-- Descriptor 3 is closed and given out again, and the new socket added, before
`closesocket` looks up the old one. -/
def overtakenRun : List TableAct :=
  [.rSocket (someMemory 0) 3, .hashAdd 0, .rClosesocket 3 true, .rSocket (someMemory 0) 3,
    .hashAdd 0, .closeEntry 0]

theorem overtakenRun_not_settled :
    ¬ ∀ m ∈ tableMoves overtakenRun,
      (m.after.Idle → m.after.Settled) ∧ freesLater m = false := by
  intro settled
  have frees : ∃ m ∈ tableMoves overtakenRun, freesLater m = true := by
    decide
  obtain ⟨m, member, frees⟩ := frees
  rw [(settled m member).2] at frees
  cases frees

/-- Once a socket has been added too early, the `closesocket` that was overtaken may be next,
and frees it. -/
theorem freesLater_of_overtaken {s s' : SharedTable} {k : Nat}
    (enabled : tableStep (.hashAdd k) s = some s')
    (early : overtakes ⟨s, .hashAdd k, s'⟩ = true) :
    ∃ j s'', tableStep (.closeEntry j) s' = some s'' ∧
      freesLater ⟨s', .closeEntry j, s''⟩ = true := by
  simp only [overtakes, Option.any_eq_true, List.any_eq_true, Bool.and_eq_true,
    decide_eq_true_eq] at early
  obtain ⟨e, at_k, c, waits, same, id, closed, less⟩ := early
  simp only [tableStep, at_k] at enabled
  obtain rfl := Option.some.inj enabled
  obtain ⟨j, at_j⟩ := List.getElem?_of_mem waits
  obtain ⟨s'', next⟩ : ∃ s'', tableStep (.closeEntry j)
      { s with table := e :: s.table, adding := s.adding.eraseIdx k } = some s'' := by
    simp only [tableStep, at_j, Option.some.injEq, exists_eq']
  refine ⟨j, s'', next, ?_⟩
  have found : SharedTable.sockets
      { s with table := e :: s.table, adding := s.adding.eraseIdx k } c.fd = some e :=
    List.find?_cons_of_pos (decide_eq_true same.symm)
  simp only [freesLater, at_j, Option.any_some, closed, found, decide_eq_true_eq]
  exact less

/-! ## The table of `SocketTable` -/

section Sequential

variable {s : SharedTable} {w : World} {e : TableEntry} {c : Closing} {id : Nat}

/-- The section of `socket` with the lock held adds the socket. -/
theorem hashAdd_sockets (same : w.sockets = s.sockets) (next : w.nextId = e.id) :
    (w.addSocket e.sock).sockets = { s with table := e :: s.table }.sockets := by
  funext fd
  unfold World.addSocket SharedTable.sockets
  dsimp only
  rw [Function.update_apply, next, same, List.find?_cons]
  by_cases found : e.sock.fd = fd
  · rw [if_pos found.symm, decide_eq_true found]
  · rw [if_neg (Ne.symm found), decide_eq_false found]
    rfl

@[simp] theorem releaseRecvQueue_sockets (w : World) (id ptr : Nat) :
    (w.releaseRecvQueue id ptr).sockets = w.sockets := by
  unfold World.releaseRecvQueue
  split
  · rfl
  · dsimp only
    split <;> rfl

theorem closeEntry_sockets_eq (single : (s.table.map fun e => e.sock.fd).Nodup)
    (closed : c.closed = some id) :
    (s.closeEntry c).sockets = Function.update s.sockets c.fd none := by
  funext fd
  unfold SharedTable.closeEntry SharedTable.sockets
  rw [closed, Function.update_apply]
  exact find?_eraseP_key single c.fd fd

/-- The section of `closesocket` with the lock held is `closesocket`, where the underlying one
has succeeded. -/
theorem closeEntry_sockets (inv : TableInv s) (closed : c.closed = some id)
    (same : w.sockets = s.sockets) {ret : Int} (succeeds : ret ≠ -1) :
    (closesocket c.fd ret w).2.sockets = (s.closeEntry c).sockets := by
  rw [closeEntry_sockets_eq inv.single closed, ← same]
  unfold closesocket
  split
  case h_1 none' => exact (Function.update_eq_self_iff.mpr none'.symm).symm
  case h_2 e found =>
    rw [if_neg succeeds]
    dsimp only
    congr 1
    have released : (if e.sock.recvQueue ≠ 0 then w.releaseRecvQueue e.id e.sock.recvQueue
        else w).sockets = w.sockets := by
      split
      · exact releaseRecvQueue_sockets w e.id e.sock.recvQueue
      · rfl
    rw [← released]
    split <;> rfl

end Sequential

end IpxWrapper
