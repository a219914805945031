import IpxWrapper.RecvQueueInv

/-!
# Every interleaving keeps the receive queue

Each section of the code that runs with the sockets lock held, and each `recv`
that returns, is a `QueueStep` as long as the socket is open; the order in which
the threads take their turns does not matter. What follows for the runs is
`recvMoves_keepsQueue`.
-/

namespace IpxWrapper

open Base RecvSocket

/-! ## Reading -/

section Reading

variable {s : RecvSocket} {slots : Slots recvQueueMaxPackets} {i : Slot} {rest : List Slot}

/-- What is read from a slot in the queue depends on its datagram only. -/
theorem RecvSocketInv.reads_front (inv : RecvSocketInv s slots) (queued : i ∈ slots.queued)
    (call : ReceiveCall) :
    (CallResult.received call (s.queue.datagram i) (readPacket call (s.queue.data i))).Reads := by
  have valid := (inv.shows.queuedSizes i queued).2
  unfold CallResult.Reads
  refine readPacket_eq_of_holds call (Mem.slice_holds _ 0 _) (Mem.ofList_holds _ _) ?_
  rwa [Mem.length_slice]

/-- `recv_packet` takes the datagram at the front out of the queue. -/
theorem RecvSocketInv.take_step (inv : RecvSocketInv s slots) (front : slots.queued = i :: rest)
    {call : ReceiveCall} (takes : call.peek = false) :
    ∃ q, s.queue.advance i = some q ∧
      QueueStep s ({ s with queue := q }.finish
        (.received call (s.queue.datagram i) (readPacket call (s.queue.data i)))) := by
  obtain ⟨q, advanced, shows, data, sizes, -⟩ := inv.shows.advance front
  have queued : i ∈ slots.queued := by
    rw [front]
    exact List.mem_cons_self
  have distinct := slots.distinct
  rw [front, List.cons_append, List.nodup_cons, List.mem_append] at distinct
  refine ⟨q, advanced, ⟨slots.dequeue, ?_⟩, List.prefix_refl _, Or.inr ⟨_, rfl, ?_⟩⟩
  · exact
      { shows := shows
        owners := inv.owners
        sound := inv.sound
        order := by
          change s.appended = returned (s.results ++ [_]) ++ slots.queued.tail.map q.datagram
          have others : rest.map q.datagram = rest.map s.queue.datagram := by
            apply List.map_congr_left
            intro j later
            have other : j ≠ i := fun same => distinct.1 (Or.inl (same ▸ later))
            unfold RecvQueue.datagram
            rw [data, sizes, Function.update_of_ne other]
          rw [returned_concat, inv.order, front, List.tail_cons, others, returned_received, takes]
          simp only [Bool.false_eq_true, if_false, Option.toList_some, List.map_cons,
            List.append_assoc, List.singleton_append]
        conserved := by
          change List.Perm _ (s.appended ++ s.pumps.filterMap (inHand q))
          rw [inHand_congr data]
          exact inv.conserved
        reads := fun r member => by
          rcases List.mem_append.mp member with old | new
          · exact inv.reads r old
          · rw [List.mem_singleton.mp new]
            exact inv.reads_front queued call }
  · intro peeks
    rw [takes] at peeks
    cases peeks

theorem RecvSocketInv.readFront_step (inv : RecvSocketInv s slots)
    (front : slots.queued = i :: rest) (call : ReceiveCall) :
    QueueStep s (s.readFront call) := by
  have queued : i ∈ slots.queued := by
    rw [front]
    exact List.mem_cons_self
  unfold RecvSocket.readFront
  rw [inv.shows.front front]
  simp only [(inv.shows.queuedSizes i queued).1, decide_true, check_true]
  cases kind : call.peek with
  | true =>
      rw [if_pos rfl]
      refine inv.finish_step ?_ (inv.reads_front queued call) fun _ => ?_
      · rw [returned_received, kind]
        rfl
      · rw [inv.shows.datagrams, front]
        rfl
  | false =>
      obtain ⟨q, advanced, step⟩ := inv.take_step front kind
      rw [if_neg Bool.false_ne_true, advanced]
      exact step

/-- `recv_packet` from the test of its loop on. -/
theorem RecvSocketInv.receiveLoop_step (inv : RecvSocketInv s slots) (call : ReceiveCall) :
    QueueStep s (s.receiveLoop call) := by
  unfold RecvSocket.receiveLoop
  cases queued : slots.queued with
  | nil =>
      have none' : s.queue.nReady = 0 := by rw [inv.shows.count, queued, List.length_nil]
      rw [if_pos (by omega)]
      cases found : s.queue.findFree with
      | some i => exact inv.claim_step _ found
      | none =>
          exact ⟨⟨slots, inv.shows, inv.owners, inv.sound, inv.order, inv.conserved, inv.reads⟩,
            List.prefix_refl _, Or.inl rfl⟩
  | cons i rest =>
      have some' : s.queue.nReady = rest.length + 1 := by
        rw [inv.shows.count, queued, List.length_cons]
      rw [if_neg (by omega)]
      exact inv.readFront_step queued call

/-- `ioctlsocket` reports the bytes of data in the queue. -/
theorem RecvSocketInv.accumulate_step (inv : RecvSocketInv s slots) :
    QueueStep s s.accumulate := by
  have indices : s.queue.readySlots.length = s.queue.nReady := by
    rw [inv.shows.readySlots, inv.shows.count]
  unfold RecvSocket.accumulate
  simp only [indices, decide_true, check_true]
  refine inv.finish_step rfl trivial ?_
  change _ = _
  rw [inv.shows.datagrams, inv.shows.readySlots, List.map_map]
  congr 1
  apply List.map_congr_left
  intro i queued
  have whole := (inv.shows.queuedSizes i queued).2.2
  change _ = ((s.queue.data i).slice 0 (s.queue.sizes i).toNat).length - _
  rw [Mem.length_slice]
  omega

theorem RecvSocketInv.fionreadLoop_step (inv : RecvSocketInv s slots) (available : Option Nat) :
    QueueStep s (s.fionreadLoop available) := by
  unfold RecvSocket.fionreadLoop
  split
  case h_1 => exact inv.failed_step .fionread none
  case h_2 => exact inv.accumulate_step
  case h_3 =>
    cases found : s.queue.findFree with
    | some i => exact inv.claim_step .fionread found
    | none => exact inv.accumulate_step

theorem RecvSocketInv.continueCall_step (inv : RecvSocketInv s slots) (call : Call)
    (available : Option Nat) : QueueStep s (s.continueCall call available) := by
  cases call with
  | receive call => exact inv.receiveLoop_step call
  | fionread => exact inv.fionreadLoop_step available

theorem RecvSocketInv.startCall_step (inv : RecvSocketInv s slots) (call : Call)
    (available : Option Nat) : QueueStep s (s.startCall call available) := by
  cases call with
  | receive call =>
      unfold RecvSocket.startCall
      dsimp only
      split
      · exact inv.failed_step _ _
      split
      · exact inv.receiveLoop_step call
      · exact inv.failed_step _ _
  | fionread => exact inv.fionreadLoop_step available

end Reading

/-! ## Receiving -/

section Receiving

variable {s : RecvSocket} {slots : Slots recvQueueMaxPackets} {k : Nat} {p : Pump}

/-- A pump owns its slot. -/
theorem RecvSocketInv.owned_at (inv : RecvSocketInv s slots) (at_k : s.pumps[k]? = some p) :
    slots.owned[k]? = some p.slot := by
  rw [inv.owners, List.getElem?_map, at_k]
  rfl

/-- The other pumps have other slots. -/
theorem RecvSocketInv.slot_ne (inv : RecvSocketInv s slots) (at_k : s.pumps[k]? = some p)
    {p' : Pump} (other : p' ∈ s.pumps.eraseIdx k) : p'.slot ≠ p.slot := by
  intro same
  have kept := Slots.not_mem_eraseIdx (inv.owned_at at_k)
  rw [inv.owners, List.eraseIdx_map] at kept
  exact kept (same ▸ List.mem_map_of_mem other)

/-- Filling the slot of pump `k` changes no datagram that another has in hand. -/
theorem RecvSocketInv.inHand_others (inv : RecvSocketInv s slots)
    (at_k : s.pumps[k]? = some p) (data : Mem) :
    (s.pumps.eraseIdx k).filterMap (inHand (s.queue.setData p.slot data)) =
      (s.pumps.eraseIdx k).filterMap (inHand s.queue) := by
  apply List.filterMap_congr
  intro p' other
  unfold inHand RecvQueue.setData
  simp only [Function.update_of_ne (inv.slot_ne at_k other)]

theorem map_slot_set (at_k : s.pumps[k]? = some p) (state : PumpState) :
    (s.pumps.set k { p with state := state }).map Pump.slot = s.pumps.map Pump.slot := by
  have at_k' : (s.pumps.map Pump.slot)[k]? = some p.slot := by
    rw [List.getElem?_map, at_k]
    rfl
  obtain ⟨bound, same⟩ := List.getElem?_eq_some_iff.mp at_k'
  rw [List.map_set]
  change (s.pumps.map Pump.slot).set k p.slot = _
  rw [← same, List.set_getElem_self]

/-- The `recv` of a pump returns: what it received is in its hand. -/
theorem RecvSocketInv.recvReturns_step (inv : RecvSocketInv s slots)
    (at_k : s.pumps[k]? = some p) (receiving : p.state = .receiving)
    (received : Option (List Byte)) : QueueStep s (recvReturns k p received s) := by
  have empty : inHand s.queue p = none := by
    unfold inHand
    rw [receiving]
  have before := filterMap_perm_of_getElem? (f := inHand s.queue) at_k
  rw [empty, Option.toList_none, List.nil_append] at before
  cases received with
  | none =>
      have after := filterMap_set_perm (f := inHand s.queue) at_k { p with state := .failed }
      refine ⟨⟨slots, ?_⟩, List.prefix_refl _, Or.inl rfl⟩
      exact
        { shows := inv.shows
          owners := inv.owners.trans (map_slot_set at_k .failed).symm
          sound := inv.sound
          order := inv.order
          conserved := by
            refine inv.conserved.trans (List.Perm.append_left _ ?_)
            exact before.trans after.symm
          reads := inv.reads }
  | some bytes =>
      have owned := List.mem_of_getElem? (inv.owned_at at_k)
      let q := s.queue.setData p.slot
        (Mem.ofList bytes fun i => s.queue.data p.slot (bytes.length + i))
      have holds : (q.data p.slot).Holds 0 bytes := by
        change Mem.Holds (Function.update s.queue.data p.slot _ p.slot) 0 bytes
        rw [Function.update_self]
        exact Mem.ofList_holds _ _
      have hand : (inHand q { p with state := .received bytes.length }).toList =
          [bytes].filter (WellFormed ·) := by
        unfold inHand
        simp only [← wellFormed_iff holds, holds.slice]
        by_cases wellFormed : WellFormed bytes
        · simp only [List.filter_cons, wellFormed, decide_true, if_true, List.filter_nil]
          rfl
        · simp only [List.filter_cons, wellFormed, decide_false, Bool.false_eq_true, if_false,
            List.filter_nil]
          rfl
      have after := filterMap_set_perm (f := inHand q) at_k
        { p with state := .received bytes.length }
      rw [inv.inHand_others at_k, hand] at after
      refine ⟨⟨slots, ?_⟩, List.prefix_refl _, Or.inl rfl⟩
      exact
        { shows := inv.shows.setData owned _
          owners := inv.owners.trans (map_slot_set at_k (.received bytes.length)).symm
          sound := inv.sound
          order := by
            rw [show (recvReturns k p (some bytes) s).appended = s.appended from rfl, inv.order]
            change _ = returned s.results ++ slots.queued.map q.datagram
            congr 1
            apply List.map_congr_left
            intro j queued
            have other : j ≠ p.slot := by
              intro same
              subst same
              exact slots.not_owned_of_queued queued owned
            change _ = (Function.update s.queue.data p.slot _ j).slice 0 _
            rw [Function.update_of_ne other]
            rfl
          conserved := by
            change List.Perm ((s.taken ++ [bytes]).filter (WellFormed ·))
              (s.appended ++ (s.pumps.set k _).filterMap (inHand q))
            rw [List.filter_append]
            refine (inv.conserved.append_right _).trans ?_
            rw [List.append_assoc]
            refine List.Perm.append_left _ ?_
            exact (before.append_right _).trans (List.perm_append_comm.trans after.symm)
          reads := inv.reads }

/-- Pump `k` ends with nothing in hand and gives its slot back. -/
theorem RecvSocketInv.discard_step (inv : RecvSocketInv s slots) (at_k : s.pumps[k]? = some p)
    (empty : inHand s.queue p = none) (error : Option UInt32) :
    QueueStep s ({ s with pumps := s.pumps.eraseIdx k }.discard p error) := by
  have at_k' := inv.owned_at at_k
  have owned := List.mem_of_getElem? at_k'
  have before := filterMap_perm_of_getElem? (f := inHand s.queue) at_k
  rw [empty, Option.toList_none, List.nil_append] at before
  have inv' : RecvSocketInv
      { s with pumps := s.pumps.eraseIdx k, queue := s.queue.setSize p.slot slotFree }
      (slots.discard k) :=
    { shows := inv.shows.discard at_k'
      owners := by
        change slots.owned.eraseIdx k = (s.pumps.eraseIdx k).map Pump.slot
        rw [inv.owners, List.eraseIdx_map]
      sound := inv.sound
      order := by
        change s.appended = returned s.results ++ slots.queued.map _
        rw [inv.order]
        congr 1
        apply List.map_congr_left
        intro j queued
        have other : j ≠ p.slot := by
          intro same
          subst same
          exact slots.not_owned_of_queued queued owned
        change _ = (s.queue.data j).slice 0 (Function.update s.queue.sizes p.slot slotFree j).toNat
        rw [Function.update_of_ne other]
        rfl
      conserved := inv.conserved.trans (before.append_left _)
      reads := inv.reads }
  have step := inv'.release.failed_step p.call error
  refine ⟨step.inv, ?_, ?_⟩
  · have appended := step.appended
    rwa [releaseRecvQueue_appended] at appended
  · have results := step.results
    rwa [releaseRecvQueue_results] at results

/-- Pump `k` puts the datagram in its hand at the end of the queue. -/
theorem RecvSocketInv.append_step (inv : RecvSocketInv s slots) (at_k : s.pumps[k]? = some p)
    {r : Nat} (received : p.state = .received r) (valid : ValidPacket (s.queue.data p.slot) r) :
    ∃ q, s.queue.append p.slot r = some q ∧
      QueueStep s { s with
        pumps := s.pumps.eraseIdx k
        queue := q
        appended := s.appended ++ [(s.queue.data p.slot).slice 0 r] } := by
  have at_k' := inv.owned_at at_k
  have owned := List.mem_of_getElem? at_k'
  obtain ⟨q, appended, shows, data, sizes, -⟩ := inv.shows.append at_k' valid
  have hand : inHand s.queue p = some ((s.queue.data p.slot).slice 0 r) := by
    unfold inHand
    simp only [received, valid, if_true]
  have before := filterMap_perm_of_getElem? (f := inHand s.queue) at_k
  rw [hand, Option.toList_some] at before
  refine ⟨q, appended, ⟨slots.complete k p.slot at_k', ?_⟩, List.prefix_append _ _, Or.inl rfl⟩
  exact
    { shows := shows
      owners := by
        change slots.owned.eraseIdx k = (s.pumps.eraseIdx k).map Pump.slot
        rw [inv.owners, List.eraseIdx_map]
      sound := inv.sound
      order := by
        change s.appended ++ [_] = returned s.results ++ (slots.queued ++ [p.slot]).map q.datagram
        have others : slots.queued.map q.datagram = slots.queued.map s.queue.datagram := by
          apply List.map_congr_left
          intro j queued
          have other : j ≠ p.slot := by
            intro same
            subst same
            exact slots.not_owned_of_queued queued owned
          unfold RecvQueue.datagram
          rw [data, sizes, Function.update_of_ne other]
        have last : q.datagram p.slot = (s.queue.data p.slot).slice 0 r := by
          unfold RecvQueue.datagram
          rw [data, sizes, Function.update_self, Int.toNat_natCast]
        rw [List.map_append, others, List.map_singleton, last, inv.order, List.append_assoc]
      conserved := by
        change List.Perm _ (s.appended ++ [_] ++ (s.pumps.eraseIdx k).filterMap (inHand q))
        rw [inHand_congr data, List.append_assoc]
        exact inv.conserved.trans (before.append_left _)
      reads := inv.reads }

/-- A section that begins where a datagram was put in the queue. -/
theorem QueueStep.trans_of_results {s₁ s₂ : RecvSocket} (first : QueueStep s s₁)
    (same : s₁.results = s.results) (second : QueueStep s₁ s₂) : QueueStep s s₂ :=
  ⟨second.inv, first.appended.trans second.appended, by rw [← same]; exact second.results⟩

/-- `recv_pump` from `reclaim_socket` on, with the socket still open. -/
theorem RecvSocketInv.reclaim_step (inv : RecvSocketInv s slots) (at_k : s.pumps[k]? = some p)
    (done : p.state ≠ .receiving) (isOpen : s.isOpen = true) (available : Option Nat) :
    QueueStep s ({ s with pumps := s.pumps.eraseIdx k }.reclaim p available) := by
  unfold RecvSocket.reclaim
  rw [if_neg (not_not_intro isOpen)]
  cases state : p.state with
  | receiving => exact absurd state done
  | failed =>
      refine inv.discard_step at_k ?_ none
      unfold inHand
      rw [state]
  | received r =>
      dsimp only
      by_cases valid : ValidPacket (s.queue.data p.slot) r
      · obtain ⟨q, appended, step⟩ := inv.append_step at_k state valid
        obtain ⟨slots', inv'⟩ := step.inv
        rw [if_pos valid, appended]
        exact step.trans_of_results rfl (inv'.continueCall_step p.call available)
      · rw [if_neg valid]
        refine inv.discard_step at_k ?_ (some WSAEWOULDBLOCK)
        unfold inHand
        simp only [state, valid, if_false]

end Receiving

/-! ## Runs -/

section Runs

variable {s s' : RecvSocket} {slots : Slots recvQueueMaxPackets} {act : RecvAct}

/-- Once closed, the socket stays closed, and calls only fail. -/
theorem recvStep_closed (closed : s.isOpen = false) (enabled : recvStep act s = some s') :
    s'.isOpen = false ∧ ∀ r ∈ s'.results, r ∈ s.results ∨ r.Reads := by
  cases recvStep_turn enabled with
  | starts isOpen => exact absurd (isOpen.symm.trans closed) Bool.noConfusion
  | @returns k p received at_k receiving after =>
      subst after
      cases received <;> exact ⟨closed, fun r member => Or.inl member⟩
  | reclaims at_k done after =>
      subst after
      unfold RecvSocket.reclaim
      rw [if_pos (by rw [closed]; exact Bool.false_ne_true), finish_isOpen,
        releaseRecvQueue_isOpen]
      refine ⟨closed, fun r member => ?_⟩
      rcases List.mem_append.mp member with old | new
      · rw [releaseRecvQueue_results] at old
        exact Or.inl old
      · rw [List.mem_singleton.mp new]
        exact Or.inr trivial
  | closes isOpen => exact absurd (isOpen.symm.trans closed) Bool.noConfusion

/-- A step of an open socket closes it or keeps the queue. -/
theorem RecvSocketInv.step (inv : RecvSocketInv s slots) (isOpen : s.isOpen = true)
    (enabled : recvStep act s = some s') :
    s'.isOpen = false ∧ s'.results = s.results ∨ QueueStep s s' := by
  cases recvStep_turn enabled with
  | @starts call available _ after =>
      subst after
      exact Or.inr (inv.startCall_step call available)
  | returns at_k receiving after =>
      subst after
      exact Or.inr (inv.recvReturns_step at_k receiving _)
  | @reclaims k p available at_k done after =>
      subst after
      exact Or.inr (inv.reclaim_step at_k done isOpen available)
  | @closes ok _ after =>
      subst after
      cases ok with
      | true => exact Or.inl ⟨rfl, releaseRecvQueue_results _⟩
      | false => exact Or.inr ⟨⟨slots, inv⟩, List.prefix_refl _, Or.inl rfl⟩

/-- The invariant, as long as the socket is open. -/
def OpenInv (s : RecvSocket) : Prop :=
  s.isOpen = true → ∃ slots, RecvSocketInv s slots

theorem OpenInv.step (inv : OpenInv s) (enabled : recvStep act s = some s')
    (isOpen : s'.isOpen = true) : s.isOpen = true ∧ QueueStep s s' := by
  cases wasOpen : s.isOpen with
  | false =>
      rw [(recvStep_closed wasOpen enabled).1] at isOpen
      cases isOpen
  | true =>
      obtain ⟨slots, inv⟩ := inv wasOpen
      rcases inv.step wasOpen enabled with ⟨closed, -⟩ | step
      · rw [closed] at isOpen
        cases isOpen
      · exact ⟨rfl, step⟩

/-- Calls that read a datagram still return what is in it. -/
theorem OpenInv.reads_step (inv : OpenInv s) (reads : ∀ r ∈ s.results, r.Reads)
    (enabled : recvStep act s = some s') : ∀ r ∈ s'.results, r.Reads := by
  cases wasOpen : s.isOpen with
  | false =>
      intro r member
      rcases (recvStep_closed wasOpen enabled).2 r member with old | reads'
      · exact reads r old
      · exact reads'
  | true =>
      obtain ⟨slots, inv⟩ := inv wasOpen
      rcases inv.step wasOpen enabled with ⟨-, results⟩ | step
      · rwa [results]
      · obtain ⟨slots', inv'⟩ := step.inv
        exact inv'.reads

end Runs

/-! ## What the queue promises -/

/-- The steps of a run on a new socket. -/
def recvMoves (ready : Slot → Int) (data : Slot → Mem) (acts : List RecvAct) :
    List (Move RecvAct RecvSocket) :=
  moves recvStep acts (.init ready data)

/-- In every run each call that reads a datagram returns what is in it. -/
theorem recvMoves_reads (ready : Slot → Int) (data : Slot → Mem) (acts : List RecvAct) :
    ∀ m ∈ recvMoves ready data acts, ∀ r ∈ m.after.results, r.Reads := by
  have all : ∀ m ∈ recvMoves ready data acts,
      (OpenInv m.before ∧ ∀ r ∈ m.before.results, r.Reads) ∧
        (OpenInv m.after ∧ ∀ r ∈ m.after.results, r.Reads) ∧ True :=
    moves_induct (I := fun s => OpenInv s ∧ ∀ r ∈ s.results, r.Reads) (G := fun _ => True)
      ⟨fun _ => ⟨Slots.empty, .init ready data⟩, fun r member => (by cases member)⟩
      (fun _ _ => trivial) fun m inv enabled _ =>
        ⟨⟨fun isOpen => (inv.1.step enabled isOpen).2.inv, inv.1.reads_step inv.2 enabled⟩, trivial⟩
  exact fun m member => (all m member).2.1.2

/-- `ready` holds the queue, in bounds; each slot is in the queue, free, or
locked by one pump; and each well-formed datagram was returned, is in the queue
or is in the hand of a pump. -/
structure QueueOk (s : RecvSocket) : Prop where
  count : s.queue.nReady ≤ recvQueueMaxPackets
  indices : s.queue.readySlots.length = s.queue.nReady
  distinct : s.queue.readySlots.Nodup
  queued : ∀ i ∈ s.queue.readySlots, 0 ≤ s.queue.sizes i
  others : ∀ i, i ∉ s.queue.readySlots →
    s.queue.sizes i = slotFree ∨ s.queue.sizes i = slotLocked
  owners : ∀ i, (s.pumps.map Pump.slot).count i = if s.queue.sizes i = slotLocked then 1 else 0
  sound : s.fault = false
  order : s.appended = returned s.results ++ s.queue.datagrams
  conserved : (s.taken.filter (WellFormed ·)).Perm
    (returned s.results ++ s.queue.datagrams ++ s.pumps.filterMap (inHand s.queue))
  reads : ∀ r ∈ s.results, r.Reads

/-- From `s` to `s'` at most one call ends. Datagrams arrive at the end of the
queue and leave it at the front, and only when a call returns them. -/
def QueueMoves (s s' : RecvSocket) : Prop :=
  ∃ (ended : List CallResult) (arrived : List (List Byte)),
    s'.results = s.results ++ ended ∧ ended.length ≤ 1 ∧
      (∀ r ∈ ended, r.Reports s'.queue.datagrams) ∧
      s.queue.datagrams ++ arrived = returned ended ++ s'.queue.datagrams

/-- What holds of a run as long as the socket is open. -/
def KeepsQueue (run : List (Move RecvAct RecvSocket)) : Prop :=
  ∀ m ∈ run, m.after.isOpen = true →
    QueueOk m.before ∧ QueueOk m.after ∧ QueueMoves m.before m.after

section Promises

variable {s s' : RecvSocket} {slots : Slots recvQueueMaxPackets}

theorem Shows.locked_iff {q : RecvQueue} (shows : Shows q slots) (i : Slot) :
    q.sizes i = slotLocked ↔ i ∈ slots.owned := by
  refine ⟨fun locked => ?_, shows.ownedSizes i⟩
  by_contra other
  by_cases queued : i ∈ slots.queued
  · have nonneg := (shows.queuedSizes i queued).1
    rw [locked] at nonneg
    cases nonneg
  · have free := shows.freeSizes i ⟨queued, other⟩
    rw [locked] at free
    cases free

theorem RecvSocketInv.queueOk (inv : RecvSocketInv s slots) : QueueOk s where
  count := inv.shows.nReady_le
  indices := by rw [inv.shows.readySlots, inv.shows.count]
  distinct := by
    rw [inv.shows.readySlots]
    exact (List.nodup_append.mp slots.distinct).1
  queued := by
    rw [inv.shows.readySlots]
    exact fun i queued => (inv.shows.queuedSizes i queued).1
  others := by
    rw [inv.shows.readySlots]
    intro i other
    by_cases owned : i ∈ slots.owned
    · exact Or.inr (inv.shows.ownedSizes i owned)
    · exact Or.inl (inv.shows.freeSizes i ⟨other, owned⟩)
  owners := fun i => by
    rw [← inv.owners, (List.nodup_append.mp slots.distinct).2.1.count]
    exact if_congr (inv.shows.locked_iff i).symm rfl rfl
  sound := inv.sound
  order := by
    rw [inv.shows.datagrams]
    exact inv.order
  conserved := by
    rw [inv.shows.datagrams, ← inv.order]
    exact inv.conserved
  reads := inv.reads

theorem QueueStep.queueMoves (step : QueueStep s s') (before : QueueOk s) :
    QueueMoves s s' := by
  obtain ⟨slots, inv⟩ := step.inv
  obtain ⟨arrived, appended⟩ := step.appended
  have after := inv.queueOk.order
  rw [← appended, before.order, List.append_assoc] at after
  rcases step.results with same | ⟨r, ended, reports⟩
  · rw [same] at after
    refine ⟨[], arrived, by rw [same, List.append_nil], Nat.zero_le 1, ?_, ?_⟩
    · intro r member
      cases member
    · exact List.append_cancel_left after
  · rw [ended, returned_concat, List.append_assoc] at after
    refine ⟨[r], arrived, ended, Nat.le_refl 1, ?_, ?_⟩
    · intro r' member
      rw [List.mem_singleton.mp member]
      exact reports
    · rw [← List.nil_append [r], returned_concat]
      exact List.append_cancel_left after

end Promises

/-- Whatever the threads do, and whatever is received, in whatever order: as
long as the socket is open no datagram is lost, duplicated or reordered, no
index is out of bounds and no assertion fails. -/
theorem recvMoves_keepsQueue (ready : Slot → Int) (data : Slot → Mem) (acts : List RecvAct) :
    KeepsQueue (recvMoves ready data acts) := by
  have all : ∀ m ∈ recvMoves ready data acts, OpenInv m.before ∧ OpenInv m.after ∧
      (m.after.isOpen = true → m.before.isOpen = true ∧ QueueStep m.before m.after) :=
    moves_induct (I := OpenInv) (G := fun _ => True) (fun _ => ⟨Slots.empty, .init ready data⟩)
      (fun _ _ => trivial) fun m inv enabled _ =>
        ⟨fun isOpen => (inv.step enabled isOpen).2.inv, inv.step enabled⟩
  intro m member isOpen
  obtain ⟨before, after, step⟩ := all m member
  obtain ⟨wasOpen, step⟩ := step isOpen
  obtain ⟨slots, inv⟩ := before wasOpen
  obtain ⟨slots', inv'⟩ := after isOpen
  exact ⟨inv.queueOk, inv'.queueOk, step.queueMoves inv.queueOk⟩

end IpxWrapper
