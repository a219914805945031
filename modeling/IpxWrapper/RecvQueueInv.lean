import IpxWrapper.RecvQueue
import IpxWrapper.Base.Slots

/-!
# The arrays of the receive queue show a pool of slots

`Shows q slots` says that the arrays of `struct ipx_recv_queue` stand for a
`Slots`: the first `n_ready` entries of `ready` are the queue, and `sizes` tells
free, owned and queued slots apart. Each access of the code is a pool operation,
with its indices in bounds. `RecvSocketInv` adds the pumps, which own the slots
in use, and the datagrams in them.
-/

namespace IpxWrapper

open Base RecvSocket

/-! ## Datagrams as bytes -/

/-- A datagram that `recv_pump` accepts. -/
def WellFormed (datagram : List Byte) : Prop :=
  ValidPacket (Mem.ofList datagram fun _ => 0) datagram.length

instance (datagram : List Byte) : Decidable (WellFormed datagram) :=
  inferInstanceAs (Decidable (ValidPacket _ _))

/-- The header of a packet is read from the same bytes wherever it lies. -/
theorem size_eq_of_holds {m m' : Mem} {d : List Byte} (left : m.Holds 0 d)
    (right : m'.Holds 0 d) (header : IpxPacket.headerSize ≤ d.length) :
    IpxPacket.size m 0 = IpxPacket.size m' 0 := by
  unfold IpxPacket.headerSize at header
  apply le_congr
  intro i h
  have same := left.agree right (i := 25 + i) (by omega)
  rwa [← Nat.add_assoc] at same

theorem wellFormed_iff {m : Mem} {d : List Byte} (holds : m.Holds 0 d) :
    WellFormed d ↔ ValidPacket m d.length := by
  unfold WellFormed ValidPacket
  refine and_congr_right fun header => ?_
  rw [size_eq_of_holds (Mem.ofList_holds d _) holds header]

/-- What a call makes of a packet depends on the bytes of the packet only. -/
theorem readPacket_eq_of_holds {m m' : Mem} {d : List Byte} (call : ReceiveCall)
    (left : m.Holds 0 d) (right : m'.Holds 0 d) (valid : ValidPacket m d.length) :
    readPacket call m = readPacket call m' := by
  have header := valid.1
  have whole := valid.2
  have size := size_eq_of_holds left right header
  unfold IpxPacket.headerSize at header whole
  have agree {o i n : Nat} (h : i < n) (inside : o + n ≤ d.length) : m (o + i) = m' (o + i) := by
    have same := left.agree right (i := o + i) (by omega)
    rwa [Nat.zero_add] at same
  have node (o : Nat) (inside : o + 6 ≤ d.length) : addr48In m o = addr48In m' o := by
    unfold addr48In
    rw [le_congr fun i h => agree h inside]
  have srcNet : IpxPacket.srcNet m 0 = IpxPacket.srcNet m' 0 := by
    unfold IpxPacket.srcNet addr32In
    rw [le_congr fun i h => agree h (by omega)]
  have srcSocket : IpxPacket.srcSocket m 0 = IpxPacket.srcSocket m' 0 := by
    unfold IpxPacket.srcSocket
    rw [le_congr fun i h => agree h (by omega)]
  have destNode : IpxPacket.destNode m 0 = IpxPacket.destNode m' 0 := node _ (by omega)
  have srcNode : IpxPacket.srcNode m 0 = IpxPacket.srcNode m' 0 := node _ (by omega)
  have ptype : IpxPacket.ptype m 0 = IpxPacket.ptype m' 0 := by
    have same := agree (o := 0) (i := 0) (n := 1) (by omega) (by omega)
    rwa [Nat.zero_add] at same
  have addr : readAddr call m = readAddr call m' := by
    unfold readAddr saFlags
    rw [srcNet, srcSocket, destNode, srcNode, ptype]
  have copied : m.slice IpxPacket.headerSize
      (if IpxPacket.size m' 0 ≤ call.len then IpxPacket.size m' 0 else call.len) =
      m'.slice IpxPacket.headerSize
        (if IpxPacket.size m' 0 ≤ call.len then IpxPacket.size m' 0 else call.len) := by
    apply Mem.slice_congr
    intro i h
    unfold IpxPacket.headerSize
    refine agree h ?_
    split <;> omega
  unfold readPacket
  dsimp only
  rw [size, addr, copied]

/-- The arrays stand for the pool `slots`. -/
structure Shows (q : RecvQueue) (slots : Slots recvQueueMaxPackets) : Prop where
  count : q.nReady = slots.queued.length
  ready : ∀ (k : Nat) (i : Slot), slots.queued[k]? = some i →
    ∀ h : k < recvQueueMaxPackets, q.ready ⟨k, h⟩ = (i.val : Int)
  queuedSizes : ∀ i ∈ slots.queued, 0 ≤ q.sizes i ∧
    ValidPacket (q.data i) (q.sizes i).toNat
  ownedSizes : ∀ i ∈ slots.owned, q.sizes i = slotLocked
  freeSizes : ∀ i, slots.IsFree i → q.sizes i = slotFree

namespace Shows

variable {q : RecvQueue} {slots : Slots recvQueueMaxPackets} {i : Slot} {k r : Nat}

theorem nReady_le (shows : Shows q slots) : q.nReady ≤ recvQueueMaxPackets := by
  have bound := slots.length_le
  rw [shows.count]
  omega

theorem init (ready : Slot → Int) (data : Slot → Mem) :
    Shows (RecvQueue.init ready data) Slots.empty where
  count := rfl
  ready := fun _ _ at_k => by cases at_k
  queuedSizes := fun _ member => by cases member
  ownedSizes := fun _ member => by cases member
  freeSizes := fun _ _ => rfl

/-- The counter of references is no part of the pool. -/
theorem adjustRefcount (shows : Shows q slots) (adj : Int32) :
    Shows (q.adjustRefcount adj) slots :=
  ⟨shows.count, shows.ready, shows.queuedSizes, shows.ownedSizes, shows.freeSizes⟩

/-- A slot whose size says it is free is free. -/
theorem isFree (shows : Shows q slots) (free : q.sizes i = slotFree) : slots.IsFree i := by
  constructor
  · intro queued
    have nonneg := (shows.queuedSizes i queued).1
    rw [free] at nonneg
    cases nonneg
  · intro owned
    have locked := shows.ownedSizes i owned
    rw [free] at locked
    cases locked

theorem findFree_isFree (shows : Shows q slots) (found : q.findFree = some i) :
    slots.IsFree i := by
  unfold RecvQueue.findFree at found
  have free := List.find?_some found
  exact shows.isFree (of_decide_eq_true free)

/-- `recv_pump` claims a slot. -/
theorem claim (shows : Shows q slots) (free : slots.IsFree i) :
    Shows (q.setSize i slotLocked) (slots.claim i free) where
  count := shows.count
  ready := shows.ready
  queuedSizes := fun j queued => by
    have other : j ≠ i := fun same => free.1 (same ▸ queued)
    simp only [RecvQueue.setSize, Function.update_of_ne other]
    exact shows.queuedSizes j queued
  ownedSizes := fun j owned => by
    rcases List.mem_append.mp owned with old | new
    · have other : j ≠ i := fun same => free.2 (same ▸ old)
      simp only [RecvQueue.setSize, Function.update_of_ne other]
      exact shows.ownedSizes j old
    · rw [List.mem_singleton.mp new]
      exact Function.update_self _ _ _
  freeSizes := fun j free' => by
    obtain ⟨free', other⟩ := (Slots.isFree_claim_iff free).mp free'
    simp only [RecvQueue.setSize, Function.update_of_ne other]
    exact shows.freeSizes j free'

/-- `recv_pump` gives its slot back. -/
theorem discard (shows : Shows q slots) (at_k : slots.owned[k]? = some i) :
    Shows (q.setSize i slotFree) (slots.discard k) where
  count := shows.count
  ready := shows.ready
  queuedSizes := fun j queued => by
    have other : j ≠ i := by
      intro same
      subst same
      exact slots.not_owned_of_queued queued (List.mem_of_getElem? at_k)
    simp only [RecvQueue.setSize, Function.update_of_ne other]
    exact shows.queuedSizes j queued
  ownedSizes := fun j owned => by
    have other : j ≠ i := fun same => Slots.not_mem_eraseIdx at_k (same ▸ owned)
    simp only [RecvQueue.setSize, Function.update_of_ne other]
    exact shows.ownedSizes j ((Slots.mem_owned_iff at_k).mpr (Or.inr owned))
  freeSizes := fun j free => by
    by_cases same : j = i
    · subst same
      exact Function.update_self _ _ _
    · simp only [RecvQueue.setSize, Function.update_of_ne same]
      exact shows.freeSizes j (((Slots.isFree_discard_iff at_k).mp free).resolve_right same)

/-- `recv_pump` puts its packet at the end of the queue; there is room. -/
theorem append (shows : Shows q slots) (at_k : slots.owned[k]? = some i)
    (valid : ValidPacket (q.data i) r) :
    ∃ q', q.append i r = some q' ∧ Shows q' (slots.complete k i at_k) ∧ q'.data = q.data ∧
      q'.sizes = Function.update q.sizes i r ∧ q'.refcount = q.refcount := by
  have owned := List.mem_of_getElem? at_k
  have room : q.nReady < recvQueueMaxPackets := by
    rw [shows.count]
    exact Slots.length_lt_of_owned owned
  unfold RecvQueue.append
  rw [dif_pos room]
  refine ⟨_, rfl, ?_, rfl, rfl, rfl⟩
  exact
    { count := by
        change q.nReady + 1 = (slots.queued ++ [i]).length
        rw [List.length_append, List.length_singleton, shows.count]
      ready := fun m j at_m h => by
        change (slots.queued ++ [i])[m]? = some j at at_m
        change Function.update q.ready ⟨q.nReady, room⟩ (i.val : Int) ⟨m, h⟩ = (j.val : Int)
        by_cases last : m = q.nReady
        · subst last
          rw [shows.count, List.getElem?_concat_length, Option.some.injEq] at at_m
          rw [Function.update_self, at_m]
        · have bound := (List.getElem?_eq_some_iff.mp at_m).1
          rw [List.length_append, List.length_singleton, ← shows.count] at bound
          have earlier : m < slots.queued.length := by
            rw [← shows.count]
            omega
          rw [List.getElem?_append_left earlier] at at_m
          rw [Function.update_of_ne (fun same => last (Fin.val_eq_of_eq same))]
          exact shows.ready m j at_m h
      queuedSizes := fun j queued => by
        rcases List.mem_append.mp queued with old | new
        · have other : j ≠ i := by
            intro same
            subst same
            exact slots.not_owned_of_queued old owned
          simp only [RecvQueue.setSize, Function.update_of_ne other]
          exact shows.queuedSizes j old
        · rw [List.mem_singleton.mp new]
          simp only [RecvQueue.setSize, Function.update_self, Int.toNat_natCast]
          exact ⟨Int.natCast_nonneg r, valid⟩
      ownedSizes := fun j later => by
        have other : j ≠ i := fun same => Slots.not_mem_eraseIdx at_k (same ▸ later)
        simp only [RecvQueue.setSize, Function.update_of_ne other]
        exact shows.ownedSizes j ((Slots.mem_owned_iff at_k).mpr (Or.inr later))
      freeSizes := fun j free => by
        have free := (Slots.isFree_complete_iff at_k).mp free
        have other : j ≠ i := fun same => free.2 (same ▸ owned)
        simp only [RecvQueue.setSize, Function.update_of_ne other]
        exact shows.freeSizes j free }

theorem slotOf_val (i : Slot) : RecvQueue.slotOf (i.val : Int) = some i := by
  unfold RecvQueue.slotOf
  rw [dif_pos ⟨Int.natCast_nonneg _, by rw [Int.toNat_natCast]; exact i.isLt⟩]
  simp only [Int.toNat_natCast]

/-- The first entry of `ready` is the front of the queue. -/
theorem front (shows : Shows q slots) {rest : List Slot} (front : slots.queued = i :: rest) :
    q.front = some i := by
  have first := shows.ready 0 i (by rw [front, List.getElem?_cons_zero]) (by decide)
  unfold RecvQueue.front
  rw [first, slotOf_val]

/-- The first `n_ready` entries of `ready` are the queue. -/
theorem readySlots (shows : Shows q slots) : q.readySlots = slots.queued := by
  have entries : ((List.finRange recvQueueMaxPackets).take q.nReady).map
      (fun k => RecvQueue.slotOf (q.ready k)) = slots.queued.map some := by
    have bound := shows.nReady_le
    apply List.ext_getElem
    · simp only [List.length_map, List.length_take, List.length_finRange, ← shows.count]
      omega
    · intro m left right
      simp only [List.length_map] at right
      simp only [List.getElem_map, List.getElem_take, List.getElem_finRange]
      rw [← slotOf_val slots.queued[m]]
      congr 1
      exact shows.ready m _ (List.getElem?_eq_getElem right) _
  have slots' := congrArg (List.filterMap id) entries
  rw [List.filterMap_map, List.filterMap_map] at slots'
  exact slots'.trans List.filterMap_some

/-- `recv_packet` frees the slot at the front and advances the others. -/
theorem advance (shows : Shows q slots) {rest : List Slot} (front : slots.queued = i :: rest) :
    ∃ q', q.advance i = some q' ∧ Shows q' slots.dequeue ∧ q'.data = q.data ∧
      q'.sizes = Function.update q.sizes i slotFree ∧ q'.refcount = q.refcount := by
  have count := shows.count
  have bound := slots.length_le
  rw [front, List.length_cons] at count bound
  have kept : q.nReady - 1 < recvQueueMaxPackets := by omega
  have distinct := slots.distinct
  rw [front, List.cons_append, List.nodup_cons, List.mem_append] at distinct
  unfold RecvQueue.advance
  simp only
  rw [if_pos kept]
  refine ⟨_, rfl, ?_, rfl, rfl, rfl⟩
  have tail : slots.dequeue.queued = rest := congrArg List.tail front
  exact
    { count := by
        rw [tail]
        change q.nReady - 1 = rest.length
        omega
      ready := fun m j at_m h => by
        rw [tail] at at_m
        have before := (List.getElem?_eq_some_iff.mp at_m).1
        have inside : m < q.nReady - 1 ∧ m + 1 < recvQueueMaxPackets := by omega
        change RecvQueue.shift q.ready (q.nReady - 1) ⟨m, h⟩ = (j.val : Int)
        unfold RecvQueue.shift
        rw [dif_pos inside]
        exact shows.ready (m + 1) j (by rw [front, List.getElem?_cons_succ, at_m]) inside.2
      queuedSizes := fun j queued => by
        rw [tail] at queued
        have other : j ≠ i := fun same => distinct.1 (Or.inl (same ▸ queued))
        simp only [RecvQueue.setSize, Function.update_of_ne other]
        exact shows.queuedSizes j (by rw [front]; exact List.mem_cons_of_mem i queued)
      ownedSizes := fun j owned => by
        have other : j ≠ i := fun same => distinct.1 (Or.inr (same ▸ owned))
        simp only [RecvQueue.setSize, Function.update_of_ne other]
        exact shows.ownedSizes j owned
      freeSizes := fun j free => by
        by_cases same : j = i
        · subst same
          exact Function.update_self _ _ _
        · simp only [RecvQueue.setSize, Function.update_of_ne same]
          exact shows.freeSizes j (((Slots.isFree_dequeue_iff front).mp free).resolve_right same) }

/-- Filling a slot that a pump owns changes no packet in the queue. -/
theorem setData (shows : Shows q slots) (owned : i ∈ slots.owned) (data : Mem) :
    Shows (q.setData i data) slots where
  count := shows.count
  ready := shows.ready
  queuedSizes := fun j queued => by
    have other : j ≠ i := by
      intro same
      subst same
      exact slots.not_owned_of_queued queued owned
    simp only [RecvQueue.setData, Function.update_of_ne other]
    exact shows.queuedSizes j queued
  ownedSizes := shows.ownedSizes
  freeSizes := shows.freeSizes

end Shows

/-! ## Where the datagrams are -/

/-- The datagram that a call took from the queue. -/
def CallResult.returned : CallResult → Option (List Byte)
  | .received call datagram _ => if call.peek then none else some datagram
  | _ => none

/-- A call that reads a datagram returns and writes what `readPacket` says. -/
def CallResult.Reads : CallResult → Prop
  | .received call datagram out => out = readPacket call (Mem.ofList datagram fun _ => 0)
  | _ => True

/-- What a peek or `FIONREAD` reports is true of the datagrams in the queue. -/
def CallResult.Reports (datagrams : List (List Byte)) : CallResult → Prop
  | .received call datagram _ => call.peek → datagrams.head? = some datagram
  | .fionread total => total = (datagrams.map fun d => d.length - IpxPacket.headerSize).sum
  | .failed _ _ => True

/-- The datagrams that left the queue, in order. -/
def returned (results : List CallResult) : List (List Byte) :=
  results.filterMap CallResult.returned

/-- The well-formed datagram that a pump has received and not yet put in the queue. -/
def inHand (q : RecvQueue) (p : Pump) : Option (List Byte) :=
  match p.state with
  | .received r =>
      if ValidPacket (q.data p.slot) r then some ((q.data p.slot).slice 0 r) else none
  | _ => none

/-- While the socket is open the pumps own the slots in use, and every
well-formed datagram is in a slot or was returned. -/
structure RecvSocketInv (s : RecvSocket) (slots : Slots recvQueueMaxPackets) : Prop where
  shows : Shows s.queue slots
  owners : slots.owned = s.pumps.map Pump.slot
  sound : s.fault = false
  order : s.appended = returned s.results ++ slots.queued.map s.queue.datagram
  conserved : (s.taken.filter (WellFormed ·)).Perm
    (s.appended ++ s.pumps.filterMap (inHand s.queue))
  reads : ∀ r ∈ s.results, r.Reads

/-- From `s` to `s'` the queue is kept, and at most one call ends. -/
structure QueueStep (s s' : RecvSocket) : Prop where
  inv : ∃ slots, RecvSocketInv s' slots
  appended : s.appended <+: s'.appended
  results : s'.results = s.results ∨
    ∃ r, s'.results = s.results ++ [r] ∧ r.Reports s'.queue.datagrams

theorem returned_received (call : ReceiveCall) (d : List Byte) (out : ReceiveOut) :
    (CallResult.received call d out).returned = if call.peek then none else some d :=
  rfl

theorem returned_concat (results : List CallResult) (r : CallResult) :
    returned (results ++ [r]) = returned results ++ r.returned.toList := by
  unfold returned
  rw [List.filterMap_append]
  cases taken : r.returned with
  | none => rw [List.filterMap_cons_none taken]; rfl
  | some d => rw [List.filterMap_cons_some taken]; rfl

/-- What a pump has in hand is read from its slot. -/
theorem inHand_congr {q q' : RecvQueue} (data : q'.data = q.data) : inHand q' = inHand q := by
  funext p
  unfold inHand
  rw [data]

theorem check_true (s : RecvSocket) : s.check true = s := by
  unfold RecvSocket.check
  rw [Bool.not_true, Bool.or_false]

section Sections

variable {s : RecvSocket} {slots : Slots recvQueueMaxPackets}

theorem Shows.datagrams {q : RecvQueue} (shows : Shows q slots) :
    q.datagrams = slots.queued.map q.datagram := by
  unfold RecvQueue.datagrams
  rw [shows.readySlots]

theorem RecvSocketInv.init (ready : Slot → Int) (data : Slot → Mem) :
    RecvSocketInv (.init ready data) Slots.empty where
  shows := Shows.init ready data
  owners := rfl
  sound := rfl
  order := rfl
  conserved := List.Perm.refl _
  reads := fun _ member => by cases member

/-- A reference is given up. -/
theorem RecvSocketInv.release (inv : RecvSocketInv s slots) :
    RecvSocketInv s.releaseRecvQueue slots where
  shows := inv.shows.adjustRefcount (-1)
  owners := by
    rw [releaseRecvQueue_pumps]
    exact inv.owners
  sound := by
    rw [releaseRecvQueue_fault]
    exact inv.sound
  order := by
    rw [releaseRecvQueue_appended, releaseRecvQueue_results, releaseRecvQueue_queue,
      RecvQueue.adjustRefcount_datagram]
    exact inv.order
  conserved := by
    rw [releaseRecvQueue_taken, releaseRecvQueue_appended, releaseRecvQueue_pumps,
      releaseRecvQueue_queue, inHand_congr (RecvQueue.adjustRefcount_data _ _)]
    exact inv.conserved
  reads := by
    rw [releaseRecvQueue_results]
    exact inv.reads

/-- A call that takes nothing from the queue ends. -/
theorem RecvSocketInv.finish (inv : RecvSocketInv s slots) {r : CallResult}
    (nothing : r.returned = none) (reads : r.Reads) : RecvSocketInv (s.finish r) slots where
  shows := inv.shows
  owners := inv.owners
  sound := inv.sound
  order := by
    change s.appended = returned (s.results ++ [r]) ++ _
    rw [returned_concat, nothing, inv.order]
    simp only [Option.toList_none, List.append_nil]
    rfl
  conserved := inv.conserved
  reads := fun r' member => by
    rcases List.mem_append.mp member with old | new
    · exact inv.reads r' old
    · rw [List.mem_singleton.mp new]
      exact reads

theorem RecvSocketInv.finish_step (inv : RecvSocketInv s slots) {r : CallResult}
    (nothing : r.returned = none) (reads : r.Reads) (reports : r.Reports s.queue.datagrams) :
    QueueStep s (s.finish r) :=
  ⟨⟨slots, inv.finish nothing reads⟩, List.prefix_refl _, Or.inr ⟨r, rfl, reports⟩⟩

theorem RecvSocketInv.failed_step (inv : RecvSocketInv s slots) (call : Call)
    (error : Option UInt32) : QueueStep s (s.finish (.failed call error)) :=
  inv.finish_step rfl trivial trivial

/-- `recv_pump` claims a slot: the new pump has nothing in hand. -/
theorem RecvSocketInv.claim_step (inv : RecvSocketInv s slots) {i : Slot} (call : Call)
    (found : s.queue.findFree = some i) : QueueStep s (s.claim call i) := by
  have free := inv.shows.findFree_isFree found
  refine ⟨⟨slots.claim i free, ?_⟩, List.prefix_refl _, Or.inl rfl⟩
  exact
    { shows := (inv.shows.claim free).adjustRefcount 1
      owners := by
        change slots.owned ++ [i] = (s.pumps ++ [_]).map Pump.slot
        rw [List.map_append, inv.owners]
        rfl
      sound := inv.sound
      order := by
        change s.appended = returned s.results ++ slots.queued.map _
        rw [inv.order]
        congr 1
        apply List.map_congr_left
        intro j queued
        have other : j ≠ i := fun same => free.1 (same ▸ queued)
        change _ = (s.queue.data j).slice 0 (Function.update s.queue.sizes i slotLocked j).toNat
        rw [Function.update_of_ne other]
        rfl
      conserved := by
        change List.Perm _ (s.appended ++ (s.pumps ++ [_]).filterMap (inHand s.queue))
        rw [List.filterMap_append]
        change List.Perm _ (s.appended ++ (_ ++ []))
        rw [List.append_nil]
        exact inv.conserved
      reads := inv.reads }

end Sections

end IpxWrapper
