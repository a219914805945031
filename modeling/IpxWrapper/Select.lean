import IpxWrapper.LockedConnect

/-!
# `select` (`winsock.c`)

The receive queue may hold packets of a socket that is not readable any more.
`select` looks for such sockets in `readfds` first, keeps them in
`force_read_fds` and puts them back afterwards. Both sets are written with
`FD_SET`, which does nothing when a set has `FD_SETSIZE` entries, and the count
is raised all the same: `select_ok_iff`.

What `r_select` makes of the sets is a parameter.
-/

namespace IpxWrapper

open Locked (fdSet)

/-! ## The call -/

/-- `struct timeval`. -/
structure Timeval where
  sec : Int
  usec : Int
deriving DecidableEq

/-- `TIMEOUT_IMMEDIATE`. -/
def timeoutImmediate : Timeval := ⟨0, 0⟩

/-- The arguments of `select`; a pointer may be null. -/
structure SelectArgs where
  nfds : Int
  readfds : Option (List Nat)
  writefds : Option (List Nat)
  exceptfds : Option (List Nat)
  timeout : Option Timeval

/-- What `select` returns, and what it leaves in the sets. -/
structure Selected where
  value : Int
  readfds : List Nat
  writefds : List Nat
  exceptfds : List Nat
deriving DecidableEq

/-- What `get_socket` finds for a descriptor, and how many packets are ready there. -/
structure SelectSocket where
  isSpx : Bool
  nReady : Nat
deriving DecidableEq

/-- `force_read_fds` and `use_timeout`. -/
structure Forced where
  forceReadFds : List Nat
  useTimeout : Option Timeval
deriving DecidableEq

/-- One pass of the loop over `readfds`. -/
def forceReadFd (getSocket : Nat → Option SelectSocket) (f : Forced) (fd : Nat) : Forced :=
  match getSocket fd with
  | none => f
  | some sock =>
      if sock.isSpx then f
      else if 0 < sock.nReady then ⟨fdSet fd f.forceReadFds, some timeoutImmediate⟩
      else f

/-- The loop over `readfds`. -/
def forceRead (getSocket : Nat → Option SelectSocket) (args : SelectArgs) : Forced :=
  (args.readfds.getD []).foldl (forceReadFd getSocket) ⟨[], args.timeout⟩

/-- What `r_select` is called with. -/
def underlyingArgs (getSocket : Nat → Option SelectSocket) (args : SelectArgs) : SelectArgs :=
  { args with timeout := (forceRead getSocket args).useTimeout }

/-- One pass of the loop that puts a descriptor back. -/
def injectFd (out : Selected) (fd : Nat) : Selected :=
  if fd ∈ out.readfds then out
  else { out with readfds := fdSet fd out.readfds, value := out.value + 1 }

/-- `select`. -/
def select (rSelect : SelectArgs → Selected) (getSocket : Nat → Option SelectSocket)
    (args : SelectArgs) : Selected :=
  let reported := rSelect (underlyingArgs getSocket args)
  if 0 ≤ reported.value then
    (forceRead getSocket args).forceReadFds.foldl injectFd reported
  else
    reported

/-! ## What it promises -/

/-- The descriptor is that of a datagram socket with packets in its queue. -/
def waiting (getSocket : Nat → Option SelectSocket) (fd : Nat) : Bool :=
  (getSocket fd).any fun sock => !sock.isSpx && decide (0 < sock.nReady)

/-- The descriptors in `readfds` that are to be reported in any case. -/
def waitingFds (getSocket : Nat → Option SelectSocket) (args : SelectArgs) : List Nat :=
  (args.readfds.getD []).filter (waiting getSocket)

/-- The number of descriptors left in the sets. -/
def Selected.total (out : Selected) : Nat :=
  out.readfds.length + out.writefds.length + out.exceptfds.length

/-- `reported` is what `r_select` said when it was called with `passed`. -/
structure SelectOk (getSocket : Nat → Option SelectSocket) (args passed : SelectArgs)
    (reported out : Selected) : Prop where
  readable : ∀ fd, fd ∈ out.readfds ↔
    fd ∈ reported.readfds ∨ fd ∈ args.readfds.getD [] ∧ waiting getSocket fd = true
  others : out.writefds = reported.writefds ∧ out.exceptfds = reported.exceptfds
  total : out.value = out.total
  immediate : (∃ fd ∈ args.readfds.getD [], waiting getSocket fd = true) →
    passed.timeout = some timeoutImmediate

/-- The documentation of `select`: the number of the descriptors that are ready and
in the sets. -/
def CountsReady (rSelect : SelectArgs → Selected) : Prop :=
  ∀ args, 0 ≤ (rSelect args).value → (rSelect args).value = (rSelect args).total

/-! ## The loops -/

section Loops

variable {getSocket : Nat → Option SelectSocket} {args : SelectArgs}

/-- What `FD_SET` makes of one descriptor after the other: the first of those that
are not there already are added, as many as there is room for. -/
theorem foldl_fdSet {fds : List Nat} (distinct : fds.Nodup) (set : List Nat) :
    fds.foldl (fun set fd => fdSet fd set) set =
      set ++ (fds.filter (· ∉ set)).take (FD_SETSIZE - set.length) := by
  induction fds generalizing set with
  | nil => simp
  | cons fd rest ih =>
      obtain ⟨absent, distinct⟩ := List.nodup_cons.mp distinct
      rw [List.foldl_cons, ih distinct]
      by_cases member : fd ∈ set
      · simp [fdSet, member]
      by_cases full : FD_SETSIZE ≤ set.length
      · simp [fdSet, full, Nat.sub_eq_zero_of_le full]
      -- The descriptor is added, and the others are looked for in a longer set.
      have same : rest.filter (· ∉ set ++ [fd]) = rest.filter (· ∉ set) := by
        apply List.filter_congr
        intro other later
        have different : other ≠ fd := fun same => absent (same ▸ later)
        simp [different]
      have room : FD_SETSIZE - set.length = (FD_SETSIZE - (set.length + 1)) + 1 := by omega
      have added : fdSet fd set = set ++ [fd] := by simp [fdSet, member, full]
      rw [added, same, List.filter_cons_of_pos (by simpa using member), room,
        List.take_succ_cons, List.length_append, List.length_singleton]
      simp only [List.append_assoc, List.singleton_append]

theorem forceReadFd_eq (f : Forced) (fd : Nat) :
    forceReadFd getSocket f fd =
      if waiting getSocket fd then ⟨fdSet fd f.forceReadFds, some timeoutImmediate⟩ else f := by
  unfold forceReadFd waiting
  cases getSocket fd with
  | none => rfl
  | some sock =>
      obtain ⟨isSpx, nReady⟩ := sock
      cases isSpx <;> simp

theorem foldl_forceReadFd (fds : List Nat) (f : Forced) :
    fds.foldl (forceReadFd getSocket) f =
      { forceReadFds := (fds.filter (waiting getSocket)).foldl (fun set fd => fdSet fd set)
          f.forceReadFds
        useTimeout := if fds.any (waiting getSocket) then some timeoutImmediate
          else f.useTimeout } := by
  induction fds generalizing f with
  | nil => simp
  | cons fd rest ih =>
      rw [List.foldl_cons, ih, forceReadFd_eq]
      cases waits : waiting getSocket fd with
      | true => simp [waits]
      | false => simp [waits]

/-- `force_read_fds` has room for the first descriptors only. -/
theorem forceReadFds_eq (distinct : (args.readfds.getD []).Nodup) :
    (forceRead getSocket args).forceReadFds = (waitingFds getSocket args).take FD_SETSIZE := by
  unfold forceRead waitingFds
  rw [foldl_forceReadFd, foldl_fdSet (distinct.filter _)]
  simp

/-- The loop that puts descriptors back counts those for which there is no room as well. -/
theorem foldl_injectFd {fds : List Nat} (distinct : fds.Nodup) (out : Selected) :
    fds.foldl injectFd out =
      { out with
        readfds := fds.foldl (fun set fd => fdSet fd set) out.readfds
        value := out.value + (fds.filter (· ∉ out.readfds)).length } := by
  induction fds generalizing out with
  | nil => simp
  | cons fd rest ih =>
      obtain ⟨absent, distinct⟩ := List.nodup_cons.mp distinct
      rw [List.foldl_cons, ih distinct]
      by_cases member : fd ∈ out.readfds
      · simp [injectFd, fdSet, member]
      have same : rest.filter (· ∉ fdSet fd out.readfds) = rest.filter (· ∉ out.readfds) := by
        apply List.filter_congr
        intro other later
        have different : other ≠ fd := fun same => absent (same ▸ later)
        unfold fdSet
        split <;> simp [different]
      rw [List.filter_cons_of_pos (by simpa using member), List.length_cons]
      simp only [injectFd, if_neg member, List.foldl_cons, same]
      rw [Int.natCast_succ, Int.add_assoc, Int.add_comm 1]

end Loops

/-! ## When the promise is kept -/

/-- The waiting descriptors that `r_select` does not report. -/
def missingFds (getSocket : Nat → Option SelectSocket) (args : SelectArgs)
    (reported : Selected) : List Nat :=
  (waitingFds getSocket args).filter (· ∉ reported.readfds)

/-- Those of them that found room in `force_read_fds`: they are counted. -/
def countedFds (getSocket : Nat → Option SelectSocket) (args : SelectArgs)
    (reported : Selected) : List Nat :=
  ((waitingFds getSocket args).take FD_SETSIZE).filter (· ∉ reported.readfds)

section Promise

variable {rSelect : SelectArgs → Selected} {getSocket : Nat → Option SelectSocket}
  {args : SelectArgs} {reported : Selected}

/-- What `select` returns where `r_select` succeeds. -/
theorem select_eq (distinct : (args.readfds.getD []).Nodup)
    (reports : rSelect (underlyingArgs getSocket args) = reported) (succeeds : 0 ≤ reported.value) :
    select rSelect getSocket args =
      { reported with
        readfds := reported.readfds ++
          (countedFds getSocket args reported).take (FD_SETSIZE - reported.readfds.length)
        value := reported.value + (countedFds getSocket args reported).length } := by
  have waits : ((waitingFds getSocket args).take FD_SETSIZE).Nodup :=
    (distinct.filter _).sublist (List.take_sublist _ _)
  unfold select countedFds
  dsimp only
  rw [reports, if_pos succeeds, forceReadFds_eq distinct, foldl_injectFd waits, foldl_fdSet waits]

/-- If there is room for the missing descriptors in `readfds`, there was room for all
that wait in `force_read_fds`. -/
theorem waitingFds_length_le (distinct : (args.readfds.getD []).Nodup) :
    (waitingFds getSocket args).length ≤
      reported.readfds.length + (missingFds getSocket args reported).length := by
  have waits : (waitingFds getSocket args).Nodup := distinct.filter _
  have parts := List.length_eq_length_filter_add (l := waitingFds getSocket args)
    (fun fd => decide (fd ∉ reported.readfds))
  have found : ((waitingFds getSocket args).filter
      fun fd => !decide (fd ∉ reported.readfds)).length ≤ reported.readfds.length := by
    refine ((waits.filter _).subperm ?_).length_le
    intro fd member
    simpa using (List.mem_filter.mp member).2
  unfold missingFds
  omega

theorem mem_waitingFds {fd : Nat} : fd ∈ waitingFds getSocket args ↔
    fd ∈ args.readfds.getD [] ∧ waiting getSocket fd = true :=
  List.mem_filter

/-- The time that `r_select` waits does not depend on the room in the sets. -/
theorem underlyingArgs_timeout
    (some' : ∃ fd ∈ args.readfds.getD [], waiting getSocket fd = true) :
    (underlyingArgs getSocket args).timeout = some timeoutImmediate := by
  unfold underlyingArgs forceRead
  rw [foldl_forceReadFd]
  exact if_pos (List.any_eq_true.mpr some')

/-- Where there is room for the missing descriptors, all of them are counted and put back. -/
theorem countedFds_eq (distinct : (args.readfds.getD []).Nodup)
    (room : missingFds getSocket args reported = [] ∨
      reported.readfds.length + (missingFds getSocket args reported).length ≤ FD_SETSIZE) :
    countedFds getSocket args reported = missingFds getSocket args reported ∧
      (missingFds getSocket args reported).take (FD_SETSIZE - reported.readfds.length) =
        missingFds getSocket args reported := by
  rcases room with nothing | fits
  · have none : countedFds getSocket args reported = [] := by
      apply List.sublist_nil.mp
      rw [← nothing]
      exact (List.take_sublist _ _).filter _
    rw [none, nothing]
    exact ⟨rfl, List.take_nil⟩
  · have bound : (waitingFds getSocket args).length ≤
        reported.readfds.length + (missingFds getSocket args reported).length :=
      waitingFds_length_le distinct
    unfold countedFds
    rw [List.take_of_length_le (by omega)]
    exact ⟨rfl, List.take_of_length_le (by omega)⟩

theorem mem_append_missingFds {fd : Nat} :
    fd ∈ reported.readfds ++ missingFds getSocket args reported ↔
      fd ∈ reported.readfds ∨ fd ∈ args.readfds.getD [] ∧ waiting getSocket fd = true := by
  rw [← mem_waitingFds]
  simp only [missingFds, List.mem_append, List.mem_filter, decide_eq_true_eq]
  constructor
  · exact fun there => there.imp_right And.left
  · intro there
    by_cases found : fd ∈ reported.readfds
    · exact Or.inl found
    · exact Or.inr ⟨there.resolve_left found, found⟩

/-- What is counted and reported fits in the sets. -/
theorem SelectOk.room {passed : SelectArgs} (distinct : (args.readfds.getD []).Nodup)
    (counted : reported.value = reported.total)
    (ok : SelectOk getSocket args passed reported
      { reported with
        readfds := reported.readfds ++
          (countedFds getSocket args reported).take (FD_SETSIZE - reported.readfds.length)
        value := reported.value + (countedFds getSocket args reported).length })
    (some' : missingFds getSocket args reported ≠ []) :
    reported.readfds.length + (missingFds getSocket args reported).length ≤ FD_SETSIZE := by
  have missing : (missingFds getSocket args reported).Nodup := (distinct.filter _).filter _
  have total := ok.total
  unfold Selected.total at total counted
  simp only [List.length_append, List.length_take] at total
  have added : missingFds getSocket args reported ⊆ countedFds getSocket args reported := by
    intro fd member
    obtain ⟨waits, absent⟩ := List.mem_filter.mp member
    have there := (ok.readable fd).mpr (Or.inr (mem_waitingFds.mp waits))
    rcases List.mem_append.mp there with old | new
    · exact absurd old (by simpa using absent)
    · exact List.mem_of_mem_take new
  have fewer := (missing.subperm added).length_le
  have one := List.length_pos_of_ne_nil some'
  omega

/-- `select` keeps its promise if and only if `r_select` reports every waiting
descriptor, or there is room for the others beside those it reports. -/
theorem select_ok_iff (rSelect : SelectArgs → Selected) (counts : CountsReady rSelect)
    (getSocket : Nat → Option SelectSocket) (args : SelectArgs)
    (distinct : (args.readfds.getD []).Nodup)
    (succeeds : 0 ≤ (rSelect (underlyingArgs getSocket args)).value) :
    SelectOk getSocket args (underlyingArgs getSocket args)
        (rSelect (underlyingArgs getSocket args)) (select rSelect getSocket args) ↔
      missingFds getSocket args (rSelect (underlyingArgs getSocket args)) = [] ∨
        (rSelect (underlyingArgs getSocket args)).readfds.length +
          (missingFds getSocket args (rSelect (underlyingArgs getSocket args))).length ≤
            FD_SETSIZE := by
  have counted := counts (underlyingArgs getSocket args) succeeds
  generalize reports : rSelect (underlyingArgs getSocket args) = reported at *
  rw [select_eq distinct reports succeeds]
  constructor
  · intro ok
    by_cases nothing : missingFds getSocket args reported = []
    · exact Or.inl nothing
    · exact Or.inr (ok.room distinct counted nothing)
  · intro room
    obtain ⟨all, fit⟩ := countedFds_eq distinct room
    rw [all, fit]
    refine ⟨fun fd => mem_append_missingFds, ⟨rfl, rfl⟩, ?_, underlyingArgs_timeout⟩
    unfold Selected.total at counted ⊢
    simp only [List.length_append]
    omega

end Promise

/-! ## An underlying `select` -/

/-- The descriptors below 64 are readable, and nothing else is ready. -/
def lowReadable (args : SelectArgs) : Selected :=
  let readable := (args.readfds.getD []).filter (· < 64)
  ⟨readable.length, readable, [], []⟩

theorem lowReadable_countsReady : CountsReady lowReadable := by
  intro args _
  unfold lowReadable Selected.total
  simp

/-- Descriptor 64 is that of a datagram socket with a packet in its queue. -/
def queuedAt64 (fd : Nat) : Option SelectSocket :=
  if fd = 64 then some ⟨false, 1⟩ else none

def readArgs (fds : List Nat) : SelectArgs := ⟨0, some fds, none, none, none⟩

theorem select_ok_one :
    SelectOk queuedAt64 (readArgs [0, 64]) (underlyingArgs queuedAt64 (readArgs [0, 64]))
      (lowReadable (underlyingArgs queuedAt64 (readArgs [0, 64])))
      (select lowReadable queuedAt64 (readArgs [0, 64])) :=
  (select_ok_iff lowReadable lowReadable_countsReady queuedAt64 (readArgs [0, 64]) (by decide)
    (by decide)).mpr (Or.inr (by decide))

/-- With 64 readable descriptors beside it the socket is counted, but not reported. -/
theorem select_not_ok :
    ¬ ∀ rSelect : SelectArgs → Selected, CountsReady rSelect →
      ∀ (getSocket : Nat → Option SelectSocket) (args : SelectArgs),
        (args.readfds.getD []).Nodup →
        0 ≤ (rSelect (underlyingArgs getSocket args)).value →
        SelectOk getSocket args (underlyingArgs getSocket args)
          (rSelect (underlyingArgs getSocket args)) (select rSelect getSocket args) := by
  intro ok
  have counted := (ok lowReadable lowReadable_countsReady queuedAt64 (readArgs (List.range 65))
    List.nodup_range (Int.natCast_nonneg _)).total
  have wrong : (select lowReadable queuedAt64 (readArgs (List.range 65))).value = 65 ∧
      (select lowReadable queuedAt64 (readArgs (List.range 65))).total = 64 := by
    decide +kernel
  rw [wrong.1, wrong.2] at counted
  exact absurd counted (by decide)

end IpxWrapper
