import IpxWrapper.Packet
import IpxWrapper.Base.Loop
import IpxWrapper.Base.Chain

/-!
# Packets from the DOSBox server (`router.c`)

`_handle_dosbox_recv` takes a datagram apart and calls `deliver_packet`, once
for a plain packet and once for each packet inside a coalesced container. Both
loops over a container follow the length fields of the inner packets, which
come from the network; the buffer is therefore a `Mem`, since nothing but the
code's own checks keeps the cursor inside the datagram.

* `handleDosboxRecv_safe_iff`: for which datagrams every delivered packet lies
  inside the datagram and a container is delivered whole or not at all.
* `handleDosboxRecv_terminates_iff`: for which datagrams both loops are left.
-/

namespace IpxWrapper

open Base Loop Chain NovellIpxPacket

/-- The arguments of one `deliver_packet` call. `data` is the offset of the
payload pointer in the datagram's buffer; `dataSize` is a 32-bit `size_t`. -/
structure DeliverCall where
  type : Byte
  srcNet : Addr32
  srcNode : Addr48
  srcSocket : UInt16
  destNet : Addr32
  destNode : Addr48
  destSocket : UInt16
  data : Nat
  dataSize : Nat
deriving DecidableEq

/-- The call made for the packet at `p`. The subtraction is in `size_t`. -/
def deliverCall (m : Mem) (p : Nat) : DeliverCall where
  type := type m p
  srcNet := srcNet m p
  srcNode := srcNode m p
  srcSocket := srcSocket m p
  destNet := destNet m p
  destNode := destNode m p
  destSocket := destSocket m p
  data := data p
  dataSize := (length m p + 2 ^ 32 - size) % 2 ^ 32

/-- What a `deliver_packet` call hands over from the datagram's buffer. -/
def DeliverCall.delivered (m : Mem) (call : DeliverCall) : Delivered where
  type := call.type
  srcNet := call.srcNet
  srcNode := call.srcNode
  srcSocket := call.srcSocket
  destNet := call.destNet
  destNode := call.destNode
  destSocket := call.destSocket
  payload := m.slice call.data call.dataSize

/-- A packet that is delivered comes out as it was built, wherever it lies. -/
theorem deliverCall_of_holds {m : Mem} {p : Nat} {ptype : Byte} {fromNet toNet : Addr32}
    {fromNode toNode : Addr48} {fromSocket toSocket : UInt16} {payload : List Byte}
    (small : payload.length < 65506) (from_six : fromNode.toNat % 65536 = 0)
    (to_six : toNode.toNat % 65536 = 0)
    (holds : m.Holds p (header (lengthBytes (size + payload.length)) ptype toNet toNode toSocket
      fromNet fromNode fromSocket ++ payload)) :
    (deliverCall m p).delivered m =
      ⟨ptype, fromNet, fromNode, fromSocket, toNet, toNode, toSocket, payload⟩ := by
  have lengths : length m p = size + payload.length :=
    length_of_holds (by unfold size; omega) holds.left
  have wrap : (size + payload.length + 2 ^ 32 - size) % 2 ^ 32 = payload.length := by
    unfold size
    omega
  have payloads : m.slice (data p) payload.length = payload := holds.right.slice
  have fields := holds.left
  unfold header at fields
  have types : type m p = ptype := fields 5 (by simp)
  have destNets : destNet m p = toNet := addr32In_of_holds fields.left.left.left.left.left.right
  have destNodes : destNode m p = toNode :=
    addr48In_of_holds to_six fields.left.left.left.left.right
  have destSockets : destSocket m p = toSocket := socket_of_holds fields.left.left.left.right
  have srcNets : srcNet m p = fromNet := addr32In_of_holds fields.left.left.right
  have srcNodes : srcNode m p = fromNode := addr48In_of_holds from_six fields.left.right
  have srcSockets : srcSocket m p = fromSocket := socket_of_holds fields.right
  unfold DeliverCall.delivered deliverCall
  simp only [types, srcNets, srcNodes, srcSockets, destNets, destNodes, destSockets, lengths,
    wrap, payloads]

/-- What a run of `_handle_dosbox_recv` has done so far: the calls made, in
order, and whether it has returned. -/
structure RecvTrace where
  calls : List DeliverCall
  returned : Bool
deriving DecidableEq

/-- The body of the loop that checks the inner lengths. `false` is the
`return` for a packet that does not look valid. `remaining` is
`remaining_data`, which the loop never changes. -/
def checkInner (m : Mem) (remaining stop p : Nat) : Iter Nat Bool :=
  if p < stop then
    if remaining < size ∨ remaining < length m p then
      .done false
    else
      .next (p + length m p)
  else
    .done true

/-- The body of the loop that delivers the inner packets. -/
def deliverInner (m : Mem) (stop : Nat) (s : Nat × List DeliverCall) :
    Iter (Nat × List DeliverCall) (List DeliverCall) :=
  if s.1 < stop then
    .next (s.1 + length m s.1, s.2 ++ [deliverCall m s.1])
  else
    .done s.2

/-- `_handle_dosbox_recv`, each of whose loops may go round `fuel` times. -/
def handleDosboxRecv (fuel : Nat) (m : Mem) (packetSize : Nat) : RecvTrace :=
  if packetSize < size ∨ length m 0 ≠ packetSize then
    ⟨[], true⟩
  else if srcSocket m 0 = 0 ∧ type m 0 = ipxMagicCoalesced then
    let inner := data 0
    let remaining := packetSize - size
    let stop := inner + remaining
    match run (checkInner m remaining stop) fuel inner with
    | .next _ => ⟨[], false⟩
    | .done false => ⟨[], true⟩
    | .done true =>
        match run (deliverInner m stop) fuel (inner, []) with
        | .next s => ⟨s.2, false⟩
        | .done calls => ⟨calls, true⟩
  else
    ⟨[deliverCall m 0], true⟩

/-! ## What is promised -/

/-- The header test at the top of the function lets the datagram through. -/
def HeaderValid (m : Mem) (packetSize : Nat) : Prop :=
  size ≤ packetSize ∧ length m 0 = packetSize

/-- A datagram that holds coalesced packets. -/
def IsContainer (m : Mem) (packetSize : Nat) : Prop :=
  HeaderValid m packetSize ∧ srcSocket m 0 = 0 ∧ type m 0 = ipxMagicCoalesced

instance (m : Mem) (packetSize : Nat) : Decidable (HeaderValid m packetSize) :=
  inferInstanceAs (Decidable (_ ∧ _))

instance (m : Mem) (packetSize : Nat) : Decidable (IsContainer m packetSize) :=
  inferInstanceAs (Decidable (_ ∧ _ ∧ _))

/-- The container's payload is a sequence of packets, beginning at `ps`, each
with room for its header and none running past what remains. -/
abbrev InnerPackets (m : Mem) (packetSize : Nat) (ps : List Nat) : Prop :=
  Tiles (length m) size packetSize (data 0) ps

/-- A call passes a packet that lies inside the datagram: its header fits, its
length field covers the header, and its payload ends by the end. -/
structure DeliverCall.Inside (m : Mem) (packetSize : Nat) (call : DeliverCall) : Prop where
  header_start : size ≤ call.data
  header_fits : call.data ≤ packetSize
  length_ge : size ≤ length m (call.data - size)
  dataSize_eq : call.dataSize = length m (call.data - size) - size
  payload_fits : call.data + call.dataSize ≤ packetSize

/-- Every delivered packet lies inside the datagram, and a container is
delivered packet by packet in order if it is well formed and not at all if not. -/
structure DeliversSafely (m : Mem) (packetSize : Nat) : Prop where
  inside : ∀ fuel, ∀ call ∈ (handleDosboxRecv fuel m packetSize).calls,
    call.Inside m packetSize
  whole : IsContainer m packetSize → ∀ ps, InnerPackets m packetSize ps →
    ∃ fuel, handleDosboxRecv fuel m packetSize = ⟨ps.map (deliverCall m), true⟩
  nothing : IsContainer m packetSize → (¬ ∃ ps, InnerPackets m packetSize ps) →
    ∀ fuel, (handleDosboxRecv fuel m packetSize).calls = []

/-- Both loops are left, and until then every pass moves the cursor on. -/
structure Terminates (m : Mem) (packetSize : Nat) : Prop where
  returns : ∃ fuel, (handleDosboxRecv fuel m packetSize).returned = true
  check_advances : IsContainer m packetSize → ∀ p p',
    Visits (checkInner m (packetSize - size) packetSize) (data 0) p →
    checkInner m (packetSize - size) packetSize p = .next p' → p < p'
  deliver_advances : IsContainer m packetSize →
    Yields (checkInner m (packetSize - size) packetSize) (data 0) true →
    ∀ s s', Visits (deliverInner m packetSize) (data 0, []) s →
    deliverInner m packetSize s = .next s' → s.1 < s'.1

/-! ## What the check lets through -/

/-- An inner length the check goes over: it tests against the whole payload,
and a zero only leaves the cursor where it is. -/
abbrev GoneOver (m : Mem) (packetSize q : Nat) : Prop :=
  0 < length m q ∧ length m q ≤ packetSize - size

/-- Following the inner lengths comes to one of zero before the end. -/
abbrev MeetsZero (m : Mem) (packetSize : Nat) : Prop :=
  Meets (length m) (GoneOver m packetSize) (fun q => length m q = 0) packetSize (data 0)

/-- Following the inner lengths comes, before the end, to one of zero or to one
larger than the whole payload. -/
abbrev MeetsRefused (m : Mem) (packetSize : Nat) : Prop :=
  Meets (length m) (GoneOver m packetSize)
    (fun q => length m q = 0 ∨ packetSize - size < length m q) packetSize (data 0)

section Check

variable {m : Mem} {packetSize p : Nat}

theorem checkInner_of_goneOver (room : size ≤ packetSize - size) (before : p < packetSize)
    (fits : length m p ≤ packetSize - size) :
    checkInner m (packetSize - size) packetSize p = .next (p + length m p) := by
  unfold checkInner
  rw [if_pos before, if_neg (by omega)]

theorem checkInner_of_refused (before : p < packetSize)
    (refused : packetSize - size < size ∨ packetSize - size < length m p) :
    checkInner m (packetSize - size) packetSize p = .done false := by
  unfold checkInner
  rw [if_pos before, if_pos refused]

theorem checkInner_of_end (after : packetSize ≤ p) :
    checkInner m (packetSize - size) packetSize p = .done true := by
  unfold checkInner
  rw [if_neg (by omega)]

theorem check_of_passes (room : size ≤ packetSize - size)
    (passes : Passes (length m) (GoneOver m packetSize) packetSize p) :
    Yields (checkInner m (packetSize - size) packetSize) p true := by
  induction passes with
  | arrive after => exact yields_of_done (checkInner_of_end after)
  | next before passed _ ih =>
      exact (yields_iff_of_next (checkInner_of_goneOver room before passed.2)).mpr ih

/-- The check does not return from a length of zero. -/
theorem check_of_meets_zero (room : size ≤ packetSize - size)
    (meets : Meets (length m) (GoneOver m packetSize) (fun q => length m q = 0) packetSize p) :
    ¬ Halts (checkInner m (packetSize - size) packetSize) p := by
  induction meets with
  | @here q before zero =>
      refine not_halts_of_stays (I := fun s => s = q) (fun s at_q => ?_) rfl
      subst at_q
      have pass := checkInner_of_goneOver (m := m) room before (by omega)
      rw [zero] at pass
      exact ⟨_, pass, rfl⟩
  | next before passed _ ih =>
      rw [halts_iff_of_next (checkInner_of_goneOver room before passed.2)]
      exact ih

theorem check_of_meets_long (room : size ≤ packetSize - size)
    (meets : Meets (length m) (GoneOver m packetSize)
      (fun q => ¬ length m q ≤ packetSize - size) packetSize p) :
    Yields (checkInner m (packetSize - size) packetSize) p false := by
  induction meets with
  | here before long =>
      exact yields_of_done (checkInner_of_refused before (Or.inr (by omega)))
  | next before passed _ ih =>
      exact (yields_iff_of_next (checkInner_of_goneOver room before passed.2)).mpr ih

/-- The check accepts a payload that is too short for a header only when the
payload is empty. -/
theorem check_of_no_room (m : Mem) (packetSize p : Nat) (short : packetSize - size < size) :
    Yields (checkInner m (packetSize - size) packetSize) p false ∨ packetSize ≤ p := by
  by_cases before : p < packetSize
  · exact Or.inl (yields_of_done (checkInner_of_refused before (Or.inl short)))
  · exact Or.inr (by omega)

/-- A pass that goes round again over a nonzero length moves the cursor on. -/
theorem checkInner_next {p' : Nat}
    (pass : checkInner m (packetSize - size) packetSize p = .next p') :
    p < packetSize ∧ size ≤ packetSize - size ∧ length m p ≤ packetSize - size ∧
      p' = p + length m p := by
  unfold checkInner at pass
  split at pass
  · rename_i before
    split at pass
    · cases pass
    · rename_i kept
      cases pass
      exact ⟨before, by omega, by omega, rfl⟩
  · cases pass

end Check

/-! ## What is delivered -/

section Deliver

variable {m : Mem} {packetSize p : Nat} {ps : List Nat} {calls : List DeliverCall}

theorem deliverInner_of_lt (before : p < packetSize) :
    deliverInner m packetSize (p, calls) =
      .next (p + length m p, calls ++ [deliverCall m p]) := by
  unfold deliverInner
  rw [if_pos before]

theorem deliverInner_of_end (after : packetSize ≤ p) :
    deliverInner m packetSize (p, calls) = .done calls := by
  unfold deliverInner
  rw [if_neg (Nat.not_lt.mpr after)]

/-- Part way through a tiled payload, the calls made are those for the packets
gone over, and the cursor is at the start of the others. -/
def DeliveredPrefix (m : Mem) (packetSize : Nat) (ps : List Nat)
    (s : Nat × List DeliverCall) : Prop :=
  ∃ done rest, ps = done ++ rest ∧ Tiles (length m) size packetSize s.1 rest ∧
    s.2 = done.map (deliverCall m)

theorem DeliveredPrefix.step {s s' : Nat × List DeliverCall}
    (part : DeliveredPrefix m packetSize ps s)
    (pass : deliverInner m packetSize s = .next s') : DeliveredPrefix m packetSize ps s' := by
  obtain ⟨done, rest, split, tiles, made⟩ := part
  obtain ⟨p, calls⟩ := s
  cases tiles with
  | nil =>
      rw [deliverInner_of_end (Nat.le_refl _)] at pass
      cases pass
  | @cons _ rest before long fits tail =>
      rw [deliverInner_of_lt before] at pass
      cases pass
      refine ⟨done ++ [p], rest, by simp [split], tail, ?_⟩
      simp only at made
      rw [made, List.map_append, List.map_singleton]

theorem DeliveredPrefix.exit {s : Nat × List DeliverCall}
    (part : DeliveredPrefix m packetSize ps s)
    (pass : deliverInner m packetSize s = .done calls) : calls = ps.map (deliverCall m) := by
  obtain ⟨done, rest, split, tiles, made⟩ := part
  obtain ⟨p, calls⟩ := s
  cases tiles with
  | nil =>
      rw [deliverInner_of_end (Nat.le_refl _)] at pass
      cases pass
      rw [split, List.append_nil]
      exact made
  | cons before _ _ _ =>
      rw [deliverInner_of_lt before] at pass
      cases pass

/-- The loop over a tiled payload makes one call for each packet, in order. -/
theorem deliver_of_tiles (calls : List DeliverCall)
    (tiles : Tiles (length m) size packetSize p ps) :
    Yields (deliverInner m packetSize) (p, calls) (calls ++ ps.map (deliverCall m)) := by
  induction tiles generalizing calls with
  | nil =>
      rw [List.map_nil, List.append_nil]
      exact yields_of_done (deliverInner_of_end (Nat.le_refl _))
  | @cons p ps before _ _ _ ih =>
      rw [yields_iff_of_next (deliverInner_of_lt before), List.map_cons,
        List.append_cons calls (deliverCall m p) (ps.map (deliverCall m))]
      exact ih _

/-- The loop is left after any walk that the check accepts, having made a call
for the first packet if there was one. -/
theorem deliver_of_passes (calls : List DeliverCall)
    (passes : Passes (length m) (GoneOver m packetSize) packetSize p) :
    ∃ made, Yields (deliverInner m packetSize) (p, calls) (calls ++ made) ∧
      (p < packetSize → made ≠ []) := by
  induction passes generalizing calls with
  | arrive after =>
      exact ⟨[], by rw [List.append_nil]; exact yields_of_done (deliverInner_of_end after),
        fun before => by omega⟩
  | @next p before passed _ ih =>
      obtain ⟨made, yields, -⟩ := ih (calls ++ [deliverCall m p])
      refine ⟨deliverCall m p :: made, ?_, fun _ => List.cons_ne_nil _ _⟩
      rw [yields_iff_of_next (deliverInner_of_lt before),
        List.append_cons calls (deliverCall m p) made]
      exact yields

theorem deliverCall_inside (start : size ≤ length m p) (fits : p + length m p ≤ packetSize) :
    (deliverCall m p).Inside m packetSize := by
  have field := NovellIpxPacket.length_lt m p
  have at_p : p + 30 - size = p := by unfold size; omega
  have wrap : (length m p + 2 ^ 32 - size) % 2 ^ 32 = length m p - size := by
    unfold size at start ⊢
    omega
  refine ⟨?_, ?_, ?_, ?_, ?_⟩
  · simp only [deliverCall, data, size]; omega
  · simp only [deliverCall, data, size] at start ⊢; omega
  · simp only [deliverCall, data, at_p]; exact start
  · simp only [deliverCall, data, at_p, wrap]
  · simp only [deliverCall, data, wrap]
    unfold size at start ⊢
    omega

end Deliver

/-- The check is left when no length it comes to is zero. -/
theorem check_halts_of_nonzero {m : Mem} {packetSize : Nat}
    (nonzero : packetSize - size < size ∨ ¬ MeetsZero m packetSize) :
    Halts (checkInner m (packetSize - size) packetSize) (data 0) := by
  by_cases room : size ≤ packetSize - size
  · rcases walk_cases (fun q => length m q ≤ packetSize - size) (length m) packetSize (data 0)
      with passes | zero | long
    · exact (check_of_passes room passes).halts
    · exact (nonzero.resolve_left (by omega) zero).elim
    · exact (check_of_meets_long room long).halts
  · rcases check_of_no_room m packetSize (data 0) (by omega) with
      rejected | empty
    · exact rejected.halts
    · exact (yields_of_done (checkInner_of_end empty)).halts

/-- The second loop is left whenever the check accepts. -/
theorem deliver_halts_of_check {m : Mem} {packetSize : Nat} (calls : List DeliverCall)
    (checked : Yields (checkInner m (packetSize - size) packetSize) (data 0) true) :
    Halts (deliverInner m packetSize) (data 0, calls) := by
  by_cases room : size ≤ packetSize - size
  · rcases walk_cases (fun q => length m q ≤ packetSize - size) (length m) packetSize (data 0)
      with passes | zero | long
    · obtain ⟨made, delivered, -⟩ := deliver_of_passes calls passes
      exact delivered.halts
    · exact (check_of_meets_zero room zero checked.halts).elim
    · cases Yields.unique checked (check_of_meets_long room long)
  · rcases check_of_no_room m packetSize (data 0) (by omega) with
      rejected | empty
    · cases Yields.unique checked rejected
    · exact (yields_of_done (deliverInner_of_end empty)).halts

/-! ## The function, case by case -/

section Cases

variable {m : Mem} {packetSize : Nat}

theorem handleDosboxRecv_of_invalid (invalid : ¬ HeaderValid m packetSize) (fuel : Nat) :
    handleDosboxRecv fuel m packetSize = ⟨[], true⟩ := by
  unfold handleDosboxRecv
  rw [if_pos]
  unfold HeaderValid at invalid
  omega

theorem handleDosboxRecv_of_plain (valid : HeaderValid m packetSize)
    (plain : ¬ IsContainer m packetSize) (fuel : Nat) :
    handleDosboxRecv fuel m packetSize = ⟨[deliverCall m 0], true⟩ := by
  unfold handleDosboxRecv
  rw [if_neg (by unfold HeaderValid at valid; omega), if_neg (fun magic => plain ⟨valid, magic⟩)]

theorem handleDosboxRecv_of_container (container : IsContainer m packetSize) (fuel : Nat) :
    handleDosboxRecv fuel m packetSize =
      match run (checkInner m (packetSize - size) packetSize) fuel (data 0) with
      | .next _ => ⟨[], false⟩
      | .done false => ⟨[], true⟩
      | .done true =>
          match run (deliverInner m packetSize) fuel (data 0, []) with
          | .next s => ⟨s.2, false⟩
          | .done calls => ⟨calls, true⟩ := by
  obtain ⟨valid, magic⟩ := container
  have stop : data 0 + (packetSize - size) = packetSize := by
    have := valid.1
    unfold data size at *
    omega
  unfold handleDosboxRecv
  rw [if_neg (by unfold HeaderValid at valid; omega), if_pos magic]
  simp only [stop]

/-- Nothing is delivered from a container the check does not accept. -/
theorem calls_eq_nil_of_unchecked (container : IsContainer m packetSize)
    (unchecked : ¬ Yields (checkInner m (packetSize - size) packetSize) (data 0) true)
    (fuel : Nat) : (handleDosboxRecv fuel m packetSize).calls = [] := by
  rw [handleDosboxRecv_of_container container]
  cases check : run (checkInner m (packetSize - size) packetSize) fuel (data 0) with
  | next p => rfl
  | done accepted =>
      cases accepted with
      | false => rfl
      | true => exact (unchecked ⟨fuel, check⟩).elim

/-- Once both loops are left, the container's calls are those of the second. -/
theorem exists_fuel_of_yields (container : IsContainer m packetSize)
    {calls : List DeliverCall}
    (checked : Yields (checkInner m (packetSize - size) packetSize) (data 0) true)
    (delivered : Yields (deliverInner m packetSize) (data 0, []) calls) :
    ∃ fuel, handleDosboxRecv fuel m packetSize = ⟨calls, true⟩ := by
  obtain ⟨n, checked⟩ := checked
  obtain ⟨k, delivered⟩ := delivered
  refine ⟨max n k, ?_⟩
  rw [handleDosboxRecv_of_container container, run_mono checked (Nat.le_max_left n k)]
  simp only [run_mono delivered (Nat.le_max_right n k)]

end Cases

/-! ## Safety -/

section Safety

variable {m : Mem} {packetSize : Nat} {ps : List Nat}

/-- Every call made from a well-formed container is for one of its packets. -/
theorem calls_subset_of_tiles (container : IsContainer m packetSize)
    (tiles : InnerPackets m packetSize ps) (fuel : Nat) :
    ∀ call ∈ (handleDosboxRecv fuel m packetSize).calls, ∃ q ∈ ps, call = deliverCall m q := by
  have start : DeliveredPrefix m packetSize ps (data 0, []) := ⟨[], ps, rfl, tiles, rfl⟩
  intro call member
  rw [handleDosboxRecv_of_container container] at member
  split at member
  · cases member
  · cases member
  split at member
  · rename_i s ran
    obtain ⟨done, rest, split, -, made⟩ :=
      Visits.invariant (fun _ _ => DeliveredPrefix.step) start ⟨fuel, ran⟩
    rw [made] at member
    obtain ⟨q, among, rfl⟩ := List.mem_map.mp member
    exact ⟨q, by rw [split]; exact List.mem_append_left _ among, rfl⟩
  · rename_i calls ran
    have all := Yields.post (P := fun calls => calls = ps.map (deliverCall m))
      (fun _ _ => DeliveredPrefix.step) (fun _ _ => DeliveredPrefix.exit) start ⟨fuel, ran⟩
    rw [all] at member
    obtain ⟨q, among, rfl⟩ := List.mem_map.mp member
    exact ⟨q, among, rfl⟩

/-- A well-formed container is accepted and delivered whole. -/
theorem handleDosboxRecv_of_tiles (container : IsContainer m packetSize)
    (tiles : InnerPackets m packetSize ps) :
    ∃ fuel, handleDosboxRecv fuel m packetSize = ⟨ps.map (deliverCall m), true⟩ := by
  have checked : Yields (checkInner m (packetSize - size) packetSize) (data 0) true := by
    by_cases room : size ≤ packetSize - size
    · refine check_of_passes room (tiles.passes fun q after _ long fits => ⟨?_, ?_⟩)
      · unfold size at long
        omega
      · unfold size data at *
        omega
    · rcases check_of_no_room m packetSize (data 0) (by omega) with refused | empty
      · cases tiles with
        | nil => exact yields_of_done (checkInner_of_end (Nat.le_refl _))
        | cons before long fits _ =>
            unfold size data at *
            omega
      · exact yields_of_done (checkInner_of_end empty)
  exact exists_fuel_of_yields container checked (deliver_of_tiles [] tiles)

/-- A container whose check comes to a zero length, an overlong one or a payload
with no room for a header delivers nothing. -/
theorem calls_eq_nil_of_refused (container : IsContainer m packetSize)
    (malformed : ¬ ∃ ps, InnerPackets m packetSize ps)
    (refused : packetSize - size < size ∨ MeetsRefused m packetSize) (fuel : Nat) :
    (handleDosboxRecv fuel m packetSize).calls = [] := by
  refine calls_eq_nil_of_unchecked container (fun checked => ?_) fuel
  by_cases room : size ≤ packetSize - size
  · have walk := refused.resolve_left (by omega)
    rcases walk_cases (fun q => length m q ≤ packetSize - size) (length m) packetSize (data 0)
      with passes | zero | long
    · exact passes.not_meets (fun q passed => by omega) walk
    · exact check_of_meets_zero room zero checked.halts
    · cases Yields.unique checked (check_of_meets_long room long)
  · rcases check_of_no_room m packetSize (data 0) (by omega) with rejected | empty
    · cases Yields.unique checked rejected
    · have all : packetSize = data 0 := by
        have := container.1.1
        unfold size data at *
        omega
      exact malformed ⟨[], by rw [InnerPackets, all]; exact .nil⟩

/-- Every delivered packet lies inside the datagram, and a container is delivered
whole or not at all, exactly when the datagram is no container, or its payload is
too short for a header, or well formed, or holds an inner length that the check,
which compares with the whole payload and never with what remains, cannot get over. -/
theorem handleDosboxRecv_safe_iff (m : Mem) (packetSize : Nat) :
    DeliversSafely m packetSize ↔
      (IsContainer m packetSize → packetSize - size < size ∨
        (∃ ps, InnerPackets m packetSize ps) ∨ MeetsRefused m packetSize) := by
  constructor
  · intro safe container
    by_contra unsafe'
    obtain ⟨roomy, malformed, unmet⟩ : size ≤ packetSize - size ∧
        (¬ ∃ ps, InnerPackets m packetSize ps) ∧ ¬ MeetsRefused m packetSize := by
      refine ⟨?_, fun tiles => unsafe' (Or.inr (Or.inl tiles)),
        fun met => unsafe' (Or.inr (Or.inr met))⟩
      by_contra short
      exact unsafe' (Or.inl (by omega))
    -- the walk goes through, so the check accepts and the first packet is delivered
    have passes : Passes (length m) (GoneOver m packetSize) packetSize (data 0) := by
      rcases walk_cases (fun q => length m q ≤ packetSize - size) (length m) packetSize (data 0)
        with passes | zero | long
      · exact passes
      · exact (unmet (zero.mono (fun _ passed => passed) fun _ h => Or.inl h)).elim
      · exact (unmet (long.mono (fun _ passed => passed) fun _ h => Or.inr (by omega))).elim
    obtain ⟨made, delivered, nonempty⟩ := deliver_of_passes [] passes
    obtain ⟨fuel, ran⟩ :=
      exists_fuel_of_yields container (check_of_passes roomy passes) delivered
    have none := safe.nothing container malformed fuel
    rw [ran] at none
    exact nonempty (by unfold size data at *; omega) none
  · intro allowed
    by_cases container : IsContainer m packetSize
    · have cases' := allowed container
      refine ⟨fun fuel call member => ?_, fun _ ps => handleDosboxRecv_of_tiles container,
        fun _ malformed fuel => ?_⟩
      · by_cases tiled : ∃ ps, InnerPackets m packetSize ps
        · obtain ⟨ps, tiles⟩ := tiled
          obtain ⟨q, among, rfl⟩ := calls_subset_of_tiles container tiles fuel call member
          obtain ⟨-, -, long, fits⟩ := tiles.inside among
          exact deliverCall_inside long fits
        · have refused : packetSize - size < size ∨ MeetsRefused m packetSize := by
            rcases cases' with short | tiles | refused
            · exact Or.inl short
            · exact (tiled tiles).elim
            · exact Or.inr refused
          rw [calls_eq_nil_of_refused container tiled refused fuel] at member
          cases member
      · refine calls_eq_nil_of_refused container malformed ?_ fuel
        rcases cases' with short | tiles | refused
        · exact Or.inl short
        · exact (malformed tiles).elim
        · exact Or.inr refused
    · refine ⟨fun fuel call member => ?_, fun h => (container h).elim,
        fun h => (container h).elim⟩
      by_cases valid : HeaderValid m packetSize
      · rw [handleDosboxRecv_of_plain valid container] at member
        rw [List.mem_singleton.mp member]
        obtain ⟨long, exact'⟩ := valid
        exact deliverCall_inside (by omega) (by omega)
      · rw [handleDosboxRecv_of_invalid valid] at member
        cases member

/-- A 70-byte container: a packet of 30 bytes, then the first ten bytes of one
whose length field says 40, as many as the whole payload. -/
def overrunContainer : Mem :=
  Mem.ofList (header (0, 70) ipxMagicCoalesced 0 0 0 0 0 0 ++
    header (0, 30) 4 0 0 0 0 0 0 ++ [0xFF, 0xFF, 0, 40, 0, 4, 0, 0, 0, 0]) fun _ => 0

/-- The check accepts `overrunContainer`, and its second packet is delivered
although its header already runs past the end. -/
theorem overrunContainer_not_safe : ¬ DeliversSafely overrunContainer 70 := by
  intro safe
  have delivered :
      deliverCall overrunContainer 60 ∈ (handleDosboxRecv 3 overrunContainer 70).calls := by
    decide
  have fits : 90 ≤ 70 := (safe.inside 3 _ delivered).header_fits
  omega

end Safety

/-! ## Termination -/

section Termination

variable {m : Mem} {packetSize : Nat}

/-- A container whose first check is left has both loops left. -/
theorem exists_returned_of_halts (container : IsContainer m packetSize)
    (halts : Halts (checkInner m (packetSize - size) packetSize) (data 0)) :
    ∃ fuel, (handleDosboxRecv fuel m packetSize).returned = true := by
  obtain ⟨accepted, checked⟩ := halts
  cases accepted with
  | false =>
      obtain ⟨n, checked⟩ := checked
      exact ⟨n, by rw [handleDosboxRecv_of_container container, checked]⟩
  | true =>
      obtain ⟨calls, delivered⟩ := deliver_halts_of_check [] checked
      obtain ⟨fuel, ran⟩ := exists_fuel_of_yields container checked delivered
      exact ⟨fuel, by rw [ran]⟩

/-- A zero length before the end keeps the function from returning. -/
theorem returned_of_meets_zero (container : IsContainer m packetSize)
    (room : size ≤ packetSize - size) (zero : MeetsZero m packetSize) (fuel : Nat) :
    (handleDosboxRecv fuel m packetSize).returned = false := by
  rw [handleDosboxRecv_of_container container]
  have diverges := check_of_meets_zero room zero
  cases check : run (checkInner m (packetSize - size) packetSize) fuel (data 0) with
  | next p => rfl
  | done accepted => exact (diverges ⟨accepted, fuel, check⟩).elim

/-- At a nonzero length a pass of the check moves the cursor on; at a zero one
the check would never be left. -/
theorem checkInner_advances
    (halts : Halts (checkInner m (packetSize - size) packetSize) (data 0)) {p p' : Nat}
    (visits : Visits (checkInner m (packetSize - size) packetSize) (data 0) p)
    (pass : checkInner m (packetSize - size) packetSize p = .next p') : p < p' := by
  obtain ⟨before, room, fits, rfl⟩ := checkInner_next pass
  by_contra stuck
  exact check_of_meets_zero room (.here before (by omega)) (visits.halts_iff.mp halts)

theorem deliverInner_advances
    (checked : Yields (checkInner m (packetSize - size) packetSize) (data 0) true)
    {s s' : Nat × List DeliverCall}
    (visits : Visits (deliverInner m packetSize) (data 0, []) s)
    (pass : deliverInner m packetSize s = .next s') : s.1 < s'.1 := by
  obtain ⟨p, calls⟩ := s
  have before : p < packetSize := by
    by_contra after
    rw [deliverInner_of_end (by omega)] at pass
    cases pass
  rw [deliverInner_of_lt before] at pass
  cases pass
  by_contra stuck
  have zero : length m p = 0 := by simp only at stuck; omega
  have halts := visits.halts_iff.mp (deliver_halts_of_check [] checked)
  refine not_halts_of_stays (I := fun t => t.1 = p) (fun t at_p => ?_) rfl halts
  obtain ⟨q, made⟩ := t
  simp only at at_p
  subst at_p
  exact ⟨_, deliverInner_of_lt before, by simp only [zero, Nat.add_zero]⟩

/-- Both loops are left, each pass moving the cursor on, exactly when the
datagram is no container, or its payload is too short for a header, or the
inner lengths lead past no zero. -/
theorem handleDosboxRecv_terminates_iff (m : Mem) (packetSize : Nat) :
    Terminates m packetSize ↔
      (IsContainer m packetSize → packetSize - size < size ∨ ¬ MeetsZero m packetSize) := by
  constructor
  · intro terminates container
    by_contra stuck
    have room : size ≤ packetSize - size := by
      by_contra short
      exact stuck (Or.inl (by omega))
    have zero : MeetsZero m packetSize := by
      by_contra unmet
      exact stuck (Or.inr unmet)
    obtain ⟨fuel, returned⟩ := terminates.returns
    rw [returned_of_meets_zero container room zero] at returned
    cases returned
  · intro allowed
    by_cases container : IsContainer m packetSize
    · have halts : Halts (checkInner m (packetSize - size) packetSize) (data 0) :=
        check_halts_of_nonzero (allowed container)
      exact ⟨exists_returned_of_halts container halts,
        fun _ _ _ => checkInner_advances halts,
        fun _ checked _ _ => deliverInner_advances checked⟩
    · refine ⟨⟨0, ?_⟩, fun h => (container h).elim, fun h => (container h).elim⟩
      by_cases valid : HeaderValid m packetSize
      · rw [handleDosboxRecv_of_plain valid container]
      · rw [handleDosboxRecv_of_invalid valid]

/-- A 60-byte container whose one inner packet has a length field of zero. -/
def emptyInnerContainer : Mem :=
  Mem.ofList (header (0, 60) ipxMagicCoalesced 0 0 0 0 0 0 ++ header (0, 0) 4 0 0 0 0 0 0)
    fun _ => 0

/-- On `emptyInnerContainer` the checking loop goes round for ever. -/
theorem emptyInnerContainer_not_terminates : ¬ Terminates emptyInnerContainer 60 := by
  intro terminates
  obtain ⟨fuel, returned⟩ := terminates.returns
  have zero : MeetsZero emptyInnerContainer 60 := .here (by decide) (by decide)
  rw [returned_of_meets_zero (by decide) (by decide) zero] at returned
  cases returned

end Termination

end IpxWrapper
