import IpxWrapper.CoalesceCorrectness

/-!
# From `coalesce_send` to `deliver_packet` (`coalesce.c`, `router.c`)

The datagrams of a run that ends with a cleanup are put through `_handle_dosbox_recv`
as they were sent, packets by themselves as well as containers. Each packet given to
`coalesce_send` is delivered once, as it was given, and the packets for one destination
are delivered in order if no call overtakes: `runCoalesce_delivers`.
-/

namespace IpxWrapper

open Base

/-- `_handle_dosbox_recv` takes the datagrams one after the other and delivers `packets`,
whatever lies behind each in the buffer. -/
def Delivers (sent : List Sent) (packets : List Delivered) : Prop :=
  ∃ batches, batches.flatten = packets ∧
    List.Forall₂ (fun datagram batch => ∀ rest : Mem, ∃ fuel calls,
      handleDosboxRecv fuel (Mem.ofList datagram.data rest) datagram.data.length = ⟨calls, true⟩ ∧
        calls.map (DeliverCall.delivered (Mem.ofList datagram.data rest)) = batch) sent batches

section Arrival

variable {ordered : Prop} {subs : List Submission} {l : Ledger} {s : CoalesceState} {sub : Submission}

/-- A packet that was sent by itself is delivered. -/
theorem Submission.delivers (wellFormed : sub.WellFormed) (named : sub.delivered.srcSocket ≠ 0)
    (rest : Mem) :
    ∃ fuel calls, handleDosboxRecv fuel (Mem.ofList sub.data rest) sub.data.length = ⟨calls, true⟩ ∧
      calls.map (DeliverCall.delivered (Mem.ofList sub.data rest)) = [sub.delivered] := by
  have holds := Mem.ofList_holds sub.data rest
  generalize Mem.ofList sub.data rest = m at holds ⊢
  have arrives := deliverCall_delivered wellFormed holds
  have valid : HeaderValid m sub.data.length :=
    ⟨wellFormed.header_fits, length_of_found wellFormed holds⟩
  have plain : ¬ IsContainer m sub.data.length := by
    intro container
    have from_zero : ((deliverCall m 0).delivered m).srcSocket = 0 := container.2.1
    rw [arrives] at from_zero
    exact named from_zero
  refine ⟨0, _, handleDosboxRecv_of_plain valid plain 0, ?_⟩
  rw [List.map_singleton, arrives]

/-- So is every packet of a datagram, in order. -/
theorem SentAs.arrives {ids : List Nat} {datagram : Sent} (sentAs : SentAs subs ids datagram)
    (wellFormed : ∀ sub ∈ subs, sub.WellFormed) (named : ∀ sub ∈ subs, sub.delivered.srcSocket ≠ 0)
    (submitted : ∀ n ∈ ids, n < subs.length) (rest : Mem) :
    ∃ fuel calls,
      handleDosboxRecv fuel (Mem.ofList datagram.data rest) datagram.data.length = ⟨calls, true⟩ ∧
        calls.map (DeliverCall.delivered (Mem.ofList datagram.data rest)) =
          (batch subs ids).map Submission.delivered := by
  cases datagram with
  | immediate data =>
      obtain ⟨n, sub, rfl, at_n, rfl⟩ := sentAs
      have member := List.mem_of_getElem? at_n
      have alone : batch subs [n] = [sub] := by simp [batch, at_n]
      rw [alone]
      exact Submission.delivers (wellFormed sub member) (named sub member) rest
  | container data =>
      refine SentAs.delivers sentAs (fun n member => ?_) rest
      have bound := submitted n member
      exact ⟨subs[n], List.getElem?_eq_getElem bound, wellFormed _ (List.getElem_mem bound)⟩

/-- Batches of packets, as datagrams, are delivered one after the other. -/
theorem delivers_of_sentAs {out : List (List Nat)} {sent : List Sent}
    (sentAs : List.Forall₂ (SentAs subs) out sent) (wellFormed : ∀ sub ∈ subs, sub.WellFormed)
    (named : ∀ sub ∈ subs, sub.delivered.srcSocket ≠ 0)
    (submitted : ∀ n ∈ out.flatten, n < subs.length) :
    Delivers sent ((batch subs out.flatten).map Submission.delivered) := by
  induction sentAs with
  | nil => exact ⟨[], rfl, .nil⟩
  | @cons ids datagram out sent first _ ih =>
      rw [List.flatten_cons, List.forall_mem_append] at submitted
      obtain ⟨batches, same, rest⟩ := ih submitted.2
      refine ⟨(batch subs ids).map Submission.delivered :: batches, ?_,
        .cons (first.arrives wellFormed named submitted.1) rest⟩
      simp only [List.flatten_cons, same, batch, List.filterMap_append, List.map_append]

/-! ## The order of arrival -/

theorem batch_range (subs : List Submission) : batch subs (List.range subs.length) = subs := by
  unfold batch
  induction subs with
  | nil => rfl
  | cons sub rest ih =>
      rw [List.length_cons, List.range_succ_eq_map]
      simpa [List.filterMap_cons, List.filterMap_map, Function.comp_def] using ih

/-- The packets of a batch that are for `dest`. -/
theorem filter_batch (ids : List Nat) (dest : IpxDest) :
    (batch subs ids).filter (·.dest = dest) =
      batch subs (ids.filter fun n => destOf subs n = some dest) := by
  unfold batch
  rw [List.filter_filterMap, List.filterMap_filter]
  refine List.filterMap_congr fun n _ => ?_
  unfold destOf
  cases subs[n]? <;> simp [Option.filter]

end Arrival

/-- After a cleanup each packet is delivered once, as it was sent, and those for one destination
in order if no call overtakes. -/
theorem runCoalesce_delivers (env : CoalesceEnv) (ops : List CoalesceOp)
    (wellFormed : ∀ sub ∈ submissions ops, sub.WellFormed)
    (named : ∀ sub ∈ submissions ops, sub.delivered.srcSocket ≠ 0) :
    ∃ arrived : List Submission, arrived.Perm (submissions ops) ∧
      Delivers (runCoalesce env (ops ++ [.cleanup]) .init).sent
        (arrived.map Submission.delivered) ∧
      (EverySend env (fun call s => ¬ Overtakes env call s) ops → ∀ dest,
        arrived.filter (·.dest = dest) = (submissions ops).filter (·.dest = dest)) := by
  obtain ⟨l₀, inv₀, free₀⟩ := runCoalesce_inv env ops
    fun kept : EverySend env (fun call s => ¬ Overtakes env call s) ops => kept
  have stepped : runCoalesce env (ops ++ [.cleanup]) .init =
      coalesceCleanup env (runCoalesce env ops .init) := List.foldl_concat _ _ _ _
  obtain ⟨l, inv, free, -⟩ := inv₀.cleanup free₀ env
  rw [stepped]
  have nothing_queued : l.queued = [] := List.forall₂_nil_right_iff.mp inv.queued
  have whole : l.out.flatten.Perm (List.range l.submitted) := by
    have once := inv.conserves.once
    simpa [Ledger.items, free, nothing_queued] using once
  refine ⟨batch (submissions ops) l.out.flatten, ?_, ?_, fun kept dest => ?_⟩
  · have same := whole.filterMap fun n => (submissions ops)[n]?
    rw [inv.submitted] at same
    exact same.trans (List.Perm.of_eq (batch_range _))
  · refine delivers_of_sentAs inv.sent wellFormed named fun n member => ?_
    rw [← inv.submitted]
    exact List.mem_range.mp (whole.mem_iff.mp member)
  · have in_order := (inv.order kept).filter_out whole dest
    rw [filter_batch, in_order, inv.submitted, ← filter_batch, batch_range]

/-- Two packets, the second of which may leave with the first. -/
theorem twoSends_delivers :
    ∃ arrived : List Submission, arrived.Perm (submissions (twoSends 100 200)) ∧
      Delivers (runCoalesce coalescingEnv (twoSends 100 200 ++ [.cleanup]) .init).sent
        (arrived.map Submission.delivered) := by
  have sound : ∀ size ≤ 1424, ∀ now, (sendBytes size now).submission.WellFormed ∧
      (sendBytes size now).submission.delivered.srcSocket ≠ 0 := by
    intro size small now
    have short : (List.replicate size (0 : Byte)).length < 65506 := by
      rw [List.length_replicate]
      omega
    refine ⟨dosboxPacket_wellFormed _ _ _ _ _ short, ?_⟩
    have from_six : (0x20000 : Addr48).toNat % 65536 = 0 := by decide
    have dest_six : someDest.nodenum.toNat % 65536 = 0 := by decide
    have arrives := dosboxPacket_delivered 4 1 0x4001 short from_six dest_six
    have nonzero : (0x4001 : UInt16) ≠ 0 := by decide
    exact ne_of_eq_of_ne (congrArg Delivered.srcSocket arrives) nonzero
  have both : ∀ sub ∈ submissions (twoSends 100 200),
      sub.WellFormed ∧ sub.delivered.srcSocket ≠ 0 := by
    rw [twoSends_submissions]
    simpa using ⟨sound 100 (by decide) 1, sound 200 (by decide) 2⟩
  obtain ⟨arrived, once, delivers, -⟩ := runCoalesce_delivers coalescingEnv (twoSends 100 200)
    (fun sub member => (both sub member).1) (fun sub member => (both sub member).2)
  exact ⟨arrived, once, delivers⟩

end IpxWrapper
