import IpxWrapper.CoalesceRun
import IpxWrapper.CoalesceDelivery

/-!
# What coalescing promises

* `runCoalesce_keepsPackets`: in every state between calls each packet is in
  exactly one place, and every container gives back the packets put into it.
* `runCoalesce_keepsOrder`: packets for one destination leave in order as long
  as no call overtakes; `overtakingRun_not_keepsOrder` is a run in which one does.
-/

namespace IpxWrapper

open Base

/-- `out` and `queued` say where the packets `subs` are: which were in each
datagram sent, and which are in the payload of each node. Each packet is in
exactly one place, once. -/
structure Places (subs : List Submission) (out queued : List (List Nat)) (s : CoalesceState) :
    Prop where
  once : (out.flatten ++ queued.flatten).Perm (List.range subs.length)
  sent : List.Forall₂ (SentAs subs) out s.sent
  queued : List.Forall₂ (QueuedAs subs) queued s.coalesceTable

/-- Each packet is in one place, those in one datagram or payload in the order
they were added, nodes with data are pending, and every container delivers the
packets added to it. -/
structure KeepsPackets (subs : List Submission) (s : CoalesceState) (out queued : List (List Nat)) :
    Prop where
  places : Places subs out queued s
  out_rising : ∀ ids ∈ out, ids.Pairwise (· < ·)
  queued_rising : ∀ ids ∈ queued, ids.Pairwise (· < ·)
  pending_nodup : s.coalescePending.Nodup
  pending_iff : ∀ i, i ∈ s.coalescePending ↔
    ∃ cd, s.coalesceTable[i]? = some cd ∧ cd.payload ≠ []
  containers : ∀ (k : Nat) (ids : List Nat) (data : List Byte), out[k]? = some ids →
    s.sent[k]? = some (.container data) → data.length ≤ coalesceMaxSize ∧
      ∀ rest : Mem, ∃ fuel calls,
        handleDosboxRecv fuel (Mem.ofList data rest) data.length = ⟨calls, true⟩ ∧
        calls.map (DeliverCall.delivered (Mem.ofList data rest)) =
          (batch subs ids).map Submission.delivered

variable {ordered : Prop} {subs : List Submission} {l : Ledger} {s : CoalesceState}

theorem CoalesceInv.places (inv : CoalesceInv ordered subs l s) (free : l.inHand = none) :
    Places subs l.out l.queued s where
  once := by
    have once := inv.conserves.once
    unfold Ledger.items at once
    rw [free, inv.submitted, Option.toList_none, List.nil_append] at once
    exact once
  sent := inv.sent
  queued := inv.queued

theorem CoalesceInv.keepsPackets (inv : CoalesceInv ordered subs l s) (free : l.inHand = none)
    (wellFormed : ∀ sub ∈ subs, sub.WellFormed) : KeepsPackets subs s l.out l.queued where
  places := inv.places free
  out_rising := inv.conserves.out_rising
  queued_rising := inv.conserves.queued_rising
  pending_nodup := inv.pending_nodup
  pending_iff := inv.pending_iff
  containers := fun k ids data ids_at sent_at => by
    obtain ⟨ids', ids_at', sentAs⟩ := forall₂_getElem? inv.sent sent_at
    rw [ids_at, Option.some.injEq] at ids_at'
    subst ids_at'
    refine ⟨sentAs.2.1, sentAs.delivers fun n member => ?_⟩
    have submitted : n < subs.length := by
      rw [← inv.submitted]
      refine inv.conserves.items_lt (List.mem_append_right _ (List.mem_append_left _ ?_))
      exact Ledger.mem_flatten_of_getElem? ids_at member
    exact ⟨subs[n], List.getElem?_eq_getElem submitted, wellFormed _ (List.getElem_mem submitted)⟩

theorem coalesceSend_success {env : CoalesceEnv} (sends : ∀ k, 0 ≤ env.sendto k)
    (call : SendCall) (s : CoalesceState) : (coalesceSend env call s).1 = ERROR_SUCCESS := by
  have succeeds : ∀ datagram s, (rSendto env datagram s).1 = true := by
    intro datagram s
    have result := sends s.sent.length
    unfold rSendto
    rw [if_neg (by omega)]
  unfold coalesceSend
  simp only [succeeds, if_true]
  split_ifs <;> rfl

/-- Nothing is lost or duplicated: with `r_sendto` succeeding, every run of calls
on well-formed packets keeps each of them in one place, no assertion fails, and
after a cleanup nothing is pending. -/
theorem runCoalesce_keepsPackets (env : CoalesceEnv) (ops : List CoalesceOp)
    (sends : ∀ k, 0 ≤ env.sendto k)
    (wellFormed : ∀ sub ∈ submissions ops, sub.WellFormed) :
    (∃ out queued, KeepsPackets (submissions ops) (runCoalesce env ops .init) out queued) ∧
      EverySend env (fun call s => (coalesceSend env call s).1 = ERROR_SUCCESS) ops ∧
      (runCoalesce env ops .init).assertFailed = false ∧
      (runCoalesce env (ops ++ [.cleanup]) .init).coalescePending = [] ∧
      (runCoalesce env (ops ++ [.cleanup]) .init).coalesceTable = [] := by
  obtain ⟨l, inv, free⟩ := runCoalesce_inv env ops fun wanted : False => wanted.elim
  have stepped : runCoalesce env (ops ++ [.cleanup]) .init =
      coalesceCleanup env (runCoalesce env ops .init) := List.foldl_concat _ _ _ _
  obtain ⟨l', -, -, none⟩ := inv.cleanup free env
  refine ⟨⟨l.out, l.queued, inv.keepsPackets free wellFormed⟩,
    fun before call after _ => coalesceSend_success sends call _, ?_, ?_, ?_⟩
  · by_contra failed
    obtain ⟨sub, member, empty⟩ := inv.asserted (Bool.not_eq_false _ ▸ failed)
    have fits := (wellFormed sub member).header_fits
    rw [empty] at fits
    cases fits
  · rw [stepped]
    exact none
  · rw [stepped]
    rfl

/-! ## Two sends to one destination -/

/-- Coalescing is enabled and every `r_sendto` succeeds. -/
def coalescingEnv : CoalesceEnv := ⟨true, fun _ => 0, fun _ => 0⟩

def someDest : IpxDest := ⟨1, 0x10000, 0x4002⟩

/-- Sending `size` bytes to `someDest`. -/
def sendBytes (size : Nat) (now : UInt64) : SendCall where
  data := dosboxPacket 4 1 0x20000 0x4001 someDest (List.replicate size 0)
  dest := someDest
  now := now
  keyPadding := []
  nodePadding := []
  mallocOk := true
  lengthJunk := (0, 0)
  dosboxLocalNetnum := 1
  dosboxLocalNodenum := 0x20000

/-- Two packets, one microsecond apart. -/
def twoSends (first second : Nat) : List CoalesceOp :=
  [.send (sendBytes first 1), .send (sendBytes second 2)]

theorem twoSends_submissions (first second : Nat) : submissions (twoSends first second) =
    [(sendBytes first 1).submission, (sendBytes second 2).submission] := rfl

theorem length_sendBytes (size : Nat) (now : UInt64) :
    (sendBytes size now).data.length = 30 + size := by
  simp only [sendBytes, dosboxPacket, List.length_append, NovellIpxPacket.length_header,
    List.length_replicate]

theorem twoSends_keepsPackets :
    ∃ out queued, KeepsPackets (submissions (twoSends 100 200))
      (runCoalesce coalescingEnv (twoSends 100 200) .init) out queued := by
  refine (runCoalesce_keepsPackets coalescingEnv (twoSends 100 200)
    (fun _ => Int.le_refl 0) fun sub member => ?_).1
  rcases List.mem_cons.mp member with rfl | second
  · exact dosboxPacket_wellFormed _ _ _ _ _ (by rw [List.length_replicate]; omega)
  · rw [List.mem_singleton.mp second]
    exact dosboxPacket_wellFormed _ _ _ _ _ (by rw [List.length_replicate]; omega)

/-! ## Order -/

/-- Packets for one destination leave in the order they were submitted: in an
earlier datagram, or earlier in the same one. -/
def KeepsOrder (subs : List Submission) (s : CoalesceState) : Prop :=
  ∃ out queued, Places subs out queued s ∧
    ∀ p q, p < q → destOf subs p = destOf subs q → q ∈ out.flatten →
      out.flatten.idxOf p < out.flatten.idxOf q

/-- In a run none of whose sends overtakes, packets for one destination leave in
order. -/
theorem runCoalesce_keepsOrder (env : CoalesceEnv) (ops : List CoalesceOp)
    (kept : EverySend env (fun call s => ¬ Overtakes env call s) ops) :
    KeepsOrder (submissions ops) (runCoalesce env ops .init) := by
  obtain ⟨l, inv, free⟩ := runCoalesce_inv env ops fun _ : True => kept
  refine ⟨l.out, l.queued, inv.places free, fun p q lt same gone => ?_⟩
  exact (inv.order trivial).before inv.conserves free lt same gone

theorem twoSends_keepsOrder :
    KeepsOrder (submissions (twoSends 100 200))
      (runCoalesce coalescingEnv (twoSends 100 200) .init) := by
  refine runCoalesce_keepsOrder coalescingEnv (twoSends 100 200) fun before call after split => ?_
  rcases before with _ | ⟨op, _ | ⟨op', rest⟩⟩
  · cases split
    decide +kernel
  · cases split
    decide +kernel
  · unfold twoSends at split
    simp at split

/-- A packet of 100 bytes is queued, and one of 1300 bytes for the same
destination is sent before it. -/
theorem overtakingRun_not_keepsOrder :
    ¬ KeepsOrder (submissions (twoSends 100 1300))
      (runCoalesce coalescingEnv (twoSends 100 1300) .init) := by
  intro keeps
  obtain ⟨out, queued, places, before⟩ := keeps
  have sent : (runCoalesce coalescingEnv (twoSends 100 1300) .init).sent =
      [.immediate (sendBytes 1300 2).data] := by decide +kernel
  have sentAs := places.sent
  rw [sent] at sentAs
  cases sentAs with
  | cons first rest =>
      cases rest
      obtain ⟨n, sub, rfl, at_n, bytes⟩ := first
      rw [twoSends_submissions] at at_n before
      have second : n = 1 := by
        rcases n with _ | _ | n
        · cases at_n
          have lengths := congrArg List.length bytes
          rw [SendCall.submission, length_sendBytes, length_sendBytes] at lengths
          omega
        · rfl
        · cases at_n
      subst second
      have earlier := before 0 1 Nat.zero_lt_one
        (Eq.trans (b := some someDest) rfl rfl) (List.mem_singleton.mpr rfl)
      rw [List.flatten_singleton, List.idxOf_cons_self] at earlier
      exact Nat.not_lt_zero _ earlier

end IpxWrapper
