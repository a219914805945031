import IpxWrapper.InterfaceCache

/-!
# Calls that hold the lock (`interface.c`)

While the lock is free the cache is a list of interfaces, each with a list of its addresses
(`Cached`), and no node has been used that was freed. A lookup takes the lock, may free that
list and load another, and has the answer that the list of interfaces gives
(`prog_keeps`); all it does to the cache it does with the lock.
-/

namespace IpxWrapper

open Base LockProg

/-! ## The list that is cached -/

/-- An interface of the cache: the number of its node, and its addresses with theirs. -/
structure CachedIface where
  addr : Nat
  ipxNet : Addr32
  ipxNode : Addr48
  ips : List (Nat × IpxInterfaceIp)

namespace CachedIface

def entry (c : CachedIface) : Nat × IfaceBody := (c.addr, ⟨c.ipxNet, c.ipxNode, headOf c.ips⟩)

def iface (c : CachedIface) : IpxInterface := ⟨c.ipxNet, c.ipxNode, c.ips.map Prod.snd⟩

def ipNumbers (c : CachedIface) : List Nat := c.ips.map Prod.fst

end CachedIface

/-- The cache is the list of the interfaces. -/
structure Cached (s : CacheData) (L : List CachedIface) : Prop where
  ifaces : IsDl s.ifaces s.interfaceCache (L.map CachedIface.entry)
  ips : ∀ c ∈ L, IsDl s.ips (headOf c.ips) c.ips
  apart : (L.flatMap CachedIface.ipNumbers).Nodup
  sound : s.misuse = false

/-- The interface `c` has been taken out of the list, and `ips` are left of its addresses. -/
structure Loose (s : CacheData) (c : CachedIface) (L : List CachedIface)
    (ips : List (Nat × IpxInterfaceIp)) : Prop where
  node : ∃ n, s.ifaces c.addr = some n ∧ n.value.ipaddr = headOf ips
  ifaces : IsDl (s.ifaces.free c.addr) s.interfaceCache (L.map CachedIface.entry)
  own : IsDl s.ips (headOf ips) ips
  others : ∀ c ∈ L, IsDl s.ips (headOf c.ips) c.ips
  apart : (ips.map Prod.fst ++ L.flatMap CachedIface.ipNumbers).Nodup
  sound : s.misuse = false

section Lists

variable {s : CacheData} {c : CachedIface} {L : List CachedIface}

theorem Cached.deleteIface (cached : Cached s (c :: L)) :
    ∃ s', s.deleteIface c.addr = some s' ∧ Loose s' c L c.ips := by
  obtain ⟨ifaces, deleted, left, same⟩ := IsDl.delete_head (a := c.addr) cached.ifaces
  have other : c.addr ∉ (L.map CachedIface.entry).map Prod.fst :=
    (List.nodup_cons.mp cached.ifaces.nodup).1
  obtain ⟨n, there, value⟩ := cached.ifaces.node (e := c.entry) List.mem_cons_self
  refine ⟨{ s with interfaceCache := headOf (L.map CachedIface.entry), ifaces := ifaces }, ?_,
    ⟨n, (same _ other).trans there, ?_⟩, left, cached.ips c List.mem_cons_self,
    fun c' member => cached.ips c' (List.mem_cons_of_mem c member), cached.apart, cached.sound⟩
  · unfold CacheData.deleteIface
    rw [deleted]
    rfl
  · rw [value]
    rfl

theorem Loose.freeIp {a : Nat} {ip : IpxInterfaceIp} {ips : List (Nat × IpxInterfaceIp)}
    (loose : Loose s c L ((a, ip) :: ips)) :
    ∃ s', s.deleteIp c.addr a = some s' ∧ s'.misuse = false ∧
      ∃ s'', s'.freeIp a = some s'' ∧ Loose s'' c L ips := by
  obtain ⟨n, there, value⟩ := loose.node
  obtain ⟨nodes, deleted, left, same⟩ := loose.own.delete_head
  obtain ⟨other, apart⟩ := List.nodup_cons.mp loose.apart
  have a_ips : a ∉ ips.map Prod.fst := fun member => other (List.mem_append_left _ member)
  obtain ⟨node, here, -⟩ := loose.own.node (e := (a, ip)) List.mem_cons_self
  let n' : DlNode IfaceBody := { n with value := { n.value with ipaddr := headOf ips } }
  let s' : CacheData := { s with ips := nodes, ifaces := Function.update s.ifaces c.addr (some n') }
  refine ⟨s', ?_, loose.sound, { s' with ips := nodes.free a }, ?_,
    ⟨n', Function.update_self .., rfl⟩, ?_, left, fun c' member => ?_, apart, loose.sound⟩
  · unfold CacheData.deleteIp
    rw [there, Option.bind_eq_bind, Option.bind_some, value, deleted]
    rfl
  · have here' : s'.ips a = some node := (same a a_ips).trans here
    unfold CacheData.freeIp
    rw [here']
    rfl
  · have ifaces := loose.ifaces
    unfold DlNodes.free at ifaces ⊢
    rwa [Function.update_idem]
  · refine (loose.others c' member).frame fun k number => ?_
    have of_c' : k ∈ L.flatMap CachedIface.ipNumbers := List.mem_flatMap_of_mem member number
    have k_a : k ≠ a := by
      rintro rfl
      exact other (List.mem_append_right _ of_c')
    have k_ips : k ∉ ips.map Prod.fst := fun member =>
      (List.nodup_append.mp apart).2.2 k member k of_c' rfl
    exact (Function.update_of_ne k_a ..).trans (same k k_ips)

theorem Loose.freeIface (loose : Loose s c L []) :
    ∃ s', s.freeIface c.addr = some s' ∧ Cached s' L := by
  obtain ⟨n, there, -⟩ := loose.node
  refine ⟨{ s with ifaces := s.ifaces.free c.addr }, ?_, loose.ifaces, loose.others, loose.apart,
    loose.sound⟩
  unfold CacheData.freeIface
  rw [there]
  rfl

/-! ## What is loaded -/

/-- The interfaces, in new nodes. -/
def cachedFrom : List IpxInterface → Nat → Nat → List CachedIface
  | [], _, _ => []
  | iface :: rest, k, m =>
      ⟨k, iface.ipxNet, iface.ipxNode, numbered iface.ipaddr m⟩ ::
        cachedFrom rest (k + 1) (m + iface.ipaddr.length)

theorem cachedFrom_entry (loaded : List IpxInterface) (k m : Nat) :
    (cachedFrom loaded k m).map CachedIface.entry = numbered (ifaceBodies loaded m) k := by
  induction loaded generalizing k m with
  | nil => rfl
  | cons iface rest ih =>
      rw [cachedFrom, List.map_cons, ih, ifaceBodies, numbered, CachedIface.entry, headOf_numbered]

theorem cachedFrom_iface (loaded : List IpxInterface) (k m : Nat) :
    (cachedFrom loaded k m).map CachedIface.iface = loaded := by
  induction loaded generalizing k m with
  | nil => rfl
  | cons iface rest ih =>
      rw [cachedFrom, List.map_cons, ih, CachedIface.iface, map_snd_numbered]

theorem cachedFrom_ipNumbers (loaded : List IpxInterface) (k m : Nat) :
    (cachedFrom loaded k m).flatMap CachedIface.ipNumbers =
      List.range' m (loaded.map fun iface => iface.ipaddr.length).sum := by
  induction loaded generalizing k m with
  | nil => rfl
  | cons iface rest ih =>
      rw [cachedFrom, List.flatMap_cons, ih, CachedIface.ipNumbers, map_fst_numbered,
        List.map_cons, List.sum_cons, List.range'_append_1]

theorem linkIps_of_lt (loaded : List IpxInterface) {m a : Nat} {ips : DlNodes IpxInterfaceIp}
    (lt : a < m) : linkIps loaded m ips a = ips a := by
  induction loaded generalizing m ips with
  | nil => rfl
  | cons iface rest ih =>
      rw [linkIps, ih (by omega)]
      exact link_of_lt _ lt

theorem isDl_linkIps (loaded : List IpxInterface) (k m : Nat) (ips : DlNodes IpxInterfaceIp) :
    ∀ c ∈ cachedFrom loaded k m, IsDl (linkIps loaded m ips) (headOf c.ips) c.ips := by
  induction loaded generalizing k m ips with
  | nil => nofun
  | cons iface rest ih =>
      intro c member
      rw [linkIps]
      rcases List.mem_cons.mp member with rfl | later
      · dsimp only
        rw [headOf_numbered]
        refine (isDl_link ips iface.ipaddr m).frame fun a number => ?_
        rw [map_fst_numbered, List.mem_range'_1] at number
        exact linkIps_of_lt rest number.2
      · exact ih _ _ _ c later

/-- A load makes the loaded interfaces the cache. -/
theorem cached_load (s : CacheData) (loaded : List IpxInterface) (sound : s.misuse = false) :
    Cached (s.load loaded) (cachedFrom loaded s.nextIface s.nextIp) := by
  refine ⟨?_, isDl_linkIps loaded _ _ _, ?_, sound⟩
  · rw [cachedFrom_entry]
    exact isDl_link _ _ _
  · rw [cachedFrom_ipNumbers]
    exact List.nodup_range'

end Lists

/-! ## What the calls return -/

/-- `copy_ipx_interface`, after `k` calls of `malloc`. -/
def copied (malloc : Nat → Bool) (k : Nat) (iface : IpxInterface) : Option IpxInterface :=
  if ∀ i < iface.ipaddr.length + 1, malloc (k + i) then some iface else none

/-- What a call returns where the interfaces are those of the cache. -/
def IfaceCall.answer (malloc : Nat → Bool) (call : IfaceCall) (ifaces : List IpxInterface) :
    IfaceResult :=
  match call with
  | getIpxInterfaces =>
      .ifaces (if ∀ i < LockedCache.mallocs ifaces, malloc i then ifaces else [])
  | byAddr net node =>
      .iface ((ifaces.find? fun iface => iface.ipxNet = net ∧ iface.ipxNode = node).bind
        (copied malloc 0))
  | bySubnet ipaddr =>
      .iface ((ifaces.find? fun iface => iface.ipaddr.any fun ip =>
        ip.ipaddr &&& ip.netmask = ipaddr &&& ip.netmask).bind (copied malloc 0))
  | byIndex index =>
      .iface (if 0 ≤ index then ifaces[index.toNat]?.bind (copied malloc 0) else none)
  | count => .count ifaces.length
  | isLocal ipaddr => .isLocal (ipv4AddressIsLocal ⟨ifaces, true⟩ ipaddr)
  | reload => .reloaded

section Answers

variable {malloc : Nat → Bool}

/-- Where all copies succeed or none does, it is the copy of `InterfaceCache`. -/
theorem copied_const (cache : InterfaceCache) (k : Nat) (iface : IpxInterface) :
    copied (fun _ => cache.copies) k iface = copyIpxInterface cache iface := by
  unfold copied copyIpxInterface
  cases cache.copies with
  | true => rw [if_pos fun _ _ => rfl, if_pos rfl]
  | false =>
      rw [if_neg fun all => Bool.false_ne_true (all 0 (Nat.succ_pos _)), if_neg Bool.false_ne_true]

theorem answer_getIpxInterfaces (cache : InterfaceCache) :
    IfaceCall.getIpxInterfaces.answer (fun _ => cache.copies) cache.ifaces =
      .ifaces (getIpxInterfaces cache) := by
  unfold IfaceCall.answer getIpxInterfaces
  cases cache.copies with
  | true => rw [if_pos fun _ _ => rfl, if_pos rfl]
  | false =>
      rw [if_neg Bool.false_ne_true]
      cases cache.ifaces with
      | nil => rw [ite_self]
      | cons iface rest =>
          have some_copy : 0 < LockedCache.mallocs (iface :: rest) := by
            unfold LockedCache.mallocs
            rw [List.map_cons, List.sum_cons]
            omega
          rw [if_neg fun all => Bool.false_ne_true (all 0 some_copy)]

theorem answer_byAddr (cache : InterfaceCache) (net : Addr32) (node : Addr48) :
    (IfaceCall.byAddr net node).answer (fun _ => cache.copies) cache.ifaces =
      .iface (ipxInterfaceByAddr cache net node) := by
  unfold IfaceCall.answer ipxInterfaceByAddr
  rw [funext (copied_const cache 0)]

theorem answer_bySubnet (cache : InterfaceCache) (ipaddr : UInt32) :
    (IfaceCall.bySubnet ipaddr).answer (fun _ => cache.copies) cache.ifaces =
      .iface (ipxInterfaceBySubnet cache ipaddr) := by
  unfold IfaceCall.answer ipxInterfaceBySubnet
  rw [funext (copied_const cache 0)]

/-- One address of an interface is copied. -/
def copyStep (malloc : Nat → Bool) (k : Nat) (r : List IpxInterfaceIp × Bool)
    (ip : IpxInterfaceIp) : ForInStep (List IpxInterfaceIp × Bool) :=
  if malloc (k + 1 + r.1.length) then .yield (r.1 ++ [ip], true) else .done (r.1, false)

theorem walk_copyStep {k : Nat} (es ips : List IpxInterfaceIp)
    (iface : List IpxInterfaceIp → IpxInterface) :
    (if (walk (copyStep malloc k) (ips, true) es).2 then
      some (iface (walk (copyStep malloc k) (ips, true) es).1) else none) =
      if ∀ i < es.length, malloc (k + 1 + ips.length + i) then some (iface (ips ++ es)) else none := by
  induction es generalizing ips with
  | nil =>
      rw [List.append_nil]
      exact (if_pos fun i lt => absurd lt (Nat.not_lt_zero i)).symm
  | cons e rest ih =>
      rw [walk, List.length_cons]
      simp only [Nat.forall_lt_succ_left, Nat.add_zero]
      unfold copyStep
      dsimp only
      cases malloc (k + 1 + ips.length) with
      | false => simp only [Bool.false_eq_true, if_false, false_and]
      | true =>
          simp only [if_true, true_and]
          refine (ih (ips ++ [e])).trans ?_
          rw [List.length_append, List.length_singleton, List.append_assoc, List.singleton_append]
          simp only [Nat.add_assoc, Nat.add_comm 1]

theorem forall_lt_add {p : Nat → Prop} {m n : Nat} :
    (∀ i < m + n, p i) ↔ (∀ i < m, p i) ∧ ∀ i < n, p (m + i) := by
  refine ⟨fun all => ⟨fun i lt => all i (by omega), fun i lt => all (m + i) (by omega)⟩, ?_⟩
  rintro ⟨first, later⟩ i lt
  rcases Nat.lt_or_ge i m with below | above
  · exact first i below
  · obtain ⟨j, rfl⟩ := Nat.exists_eq_add_of_le above
    exact later j (by omega)

/-- One interface of the list is copied. -/
def copiesStep (malloc : Nat → Bool) (copies : List IpxInterface) (iface : IpxInterface) :
    ForInStep (List IpxInterface) :=
  match copied malloc (LockedCache.mallocs copies) iface with
  | none => .done []
  | some copy => .yield (copies ++ [copy])

theorem walk_copiesStep (es copies : List IpxInterface) :
    walk (copiesStep malloc) copies es =
      if ∀ i < LockedCache.mallocs es, malloc (LockedCache.mallocs copies + i) then copies ++ es
      else [] := by
  induction es generalizing copies with
  | nil =>
      rw [List.append_nil]
      exact (if_pos fun i lt => absurd lt (Nat.not_lt_zero i)).symm
  | cons e rest ih =>
      have count : LockedCache.mallocs (e :: rest) =
          e.ipaddr.length + 1 + LockedCache.mallocs rest := List.sum_cons
      have count' : LockedCache.mallocs (copies ++ [e]) =
          LockedCache.mallocs copies + (e.ipaddr.length + 1) := by
        unfold LockedCache.mallocs
        rw [List.map_append, List.sum_append]
        rfl
      rw [walk, count]
      simp only [forall_lt_add (m := e.ipaddr.length + 1)]
      by_cases succeeds : ∀ i < e.ipaddr.length + 1, malloc (LockedCache.mallocs copies + i)
      · have step : copiesStep malloc copies e = .yield (copies ++ [e]) := by
          unfold copiesStep copied
          rw [if_pos succeeds]
        rw [step]
        refine (ih (copies ++ [e])).trans ?_
        rw [count', List.append_assoc, List.singleton_append]
        simp only [and_iff_right succeeds, Nat.add_assoc]
      · have step : copiesStep malloc copies e = .done [] := by
          unfold copiesStep copied
          rw [if_neg succeeds]
        rw [step, if_neg fun all => succeeds all.1]

/-- The loop of `ipx_interface_by_index`. -/
def indexStep {α β : Type} (index : Int) (f : α → Option β) (r : Int × Option β) (e : α) :
    ForInStep (Int × Option β) :=
  if r.1 = index then .done (r.1 + 1, f e) else .yield (r.1 + 1, none)

theorem walk_indexStep {α β : Type} {index : Int} {f : α → Option β} (es : List α) (i : Int) :
    (walk (indexStep index f) (i, none) es).2 =
      if i ≤ index then es[(index - i).toNat]?.bind f else none := by
  induction es generalizing i with
  | nil => simp only [walk, List.getElem?_nil, Option.bind_none, ite_self]
  | cons e rest ih =>
      unfold walk indexStep
      dsimp only
      rcases Int.lt_trichotomy i index with lt | rfl | gt
      · have next : (index - i).toNat = (index - (i + 1)).toNat + 1 := by omega
        rw [if_neg (Int.ne_of_lt lt), if_pos (Int.le_of_lt lt), next, List.getElem?_cons_succ]
        exact (ih (i + 1)).trans (if_pos lt)
      · rw [if_pos rfl, if_pos (Int.le_refl i), Int.sub_self]
        rfl
      · rw [if_neg (Int.ne_of_gt gt), if_neg (Int.not_le.mpr gt)]
        exact (ih (i + 1)).trans (if_neg (by omega))

end Answers

/-! ## The discipline -/

/-- While the lock is free there is a list in the cache. -/
def cacheDiscipline : Discipline CacheData Empty Unit where
  inv s := ∃ L, Cached s L
  writes _ s' := s'.misuse = false
  admits _ op := op.elim
  resumes _ op := op.elim
  next _ op := op.elim
  effect op := op.elim
  alone _ := False

/-- The program keeps the discipline, for a thread that holds the lock. -/
abbrev Inside {α : Type} (p : CacheProg α) (s : CacheData) (P : α → CacheData → Prop) : Prop :=
  KeepsHeld cacheDiscipline p () 1 s P

section Inside

variable {encap : EncapType}

theorem owns_cache : cacheDiscipline.Owns () 1 := .inl Nat.one_pos

namespace LockedCache

variable {s : CacheData} {L : List CachedIface} {c : CachedIface} {env : CacheEnv}

/-! ## Reading -/

theorem readIface_node {a : Nat} {n : DlNode IfaceBody} (there : s.ifaces a = some n) :
    Inside (readIface a) s fun iface s' => iface = n.value ∧ s' = s := by
  refine (keepsHeld_visit owns_cache there).bind fun n' s' reached => ?_
  obtain ⟨rfl, rfl⟩ := reached
  exact keepsHeld_pure ⟨rfl, rfl⟩

theorem readIface_inside (cached : Cached s L) (member : c ∈ L) :
    Inside (readIface c.addr) s fun iface s' => iface = c.entry.2 ∧ s' = s := by
  obtain ⟨n, there, value⟩ := cached.ifaces.node (List.mem_map_of_mem member)
  rw [← value]
  exact readIface_node there

theorem readIp_inside (cached : Cached s L) (member : c ∈ L) {ip : Nat × IpxInterfaceIp}
    (own : ip ∈ c.ips) : Inside (readIp ip.1) s fun addr s' => addr = ip.2 ∧ s' = s := by
  obtain ⟨n, there, value⟩ := (cached.ips c member).node own
  refine (keepsHeld_visit owns_cache there).bind fun n' s' reached => ?_
  obtain ⟨rfl, rfl⟩ := reached
  exact keepsHeld_pure ⟨value, rfl⟩

/-- A loop over the addresses is one over those of the interface. -/
theorem foreachIp_inside {ρ : Type} (cached : Cached s L) (member : c ∈ L)
    {body : ρ → Nat → CacheProg (ForInStep ρ)} {f : ρ → IpxInterfaceIp → ForInStep ρ}
    (keeps : ∀ ip ∈ c.ips, ∀ r, Inside (body r ip.1) s fun next s' => next = f r ip.2 ∧ s' = s)
    (r : ρ) : Inside (foreachIp env body c.addr r) s
      fun r' s' => r' = walk f r c.iface.ipaddr ∧ s' = s := by
  refine (readIface_inside cached member).bind fun iface s' reached => ?_
  obtain ⟨rfl, rfl⟩ := reached
  obtain ⟨before, chained⟩ := (cached.ips c member).exists_chained
  have same : c.ips.map (fun ip => ip) = c.ips := List.map_id' c.ips
  rw [← same] at chained
  have loop : Inside (dlForeach CacheData.misused CacheData.ips body env.rounds
      (headOf (c.ips.map fun ip => ip)) r) s' fun r' s'' =>
        r' = walk (fun r ip => f r ip.2) r c.ips ∧ s'' = s' :=
    keepsHeld_foreach owns_cache chained keeps env.rounds r
  rw [same] at loop
  unfold CachedIface.iface
  rw [walk_map]
  exact loop

/-- A loop over the cache is one over its interfaces. -/
theorem foreach_inside {ρ : Type} (cached : Cached s L)
    {body : ρ → Nat → CacheProg (ForInStep ρ)} {f : ρ → IpxInterface → ForInStep ρ}
    (keeps : ∀ c ∈ L, ∀ r, Inside (body r c.addr) s fun next s' => next = f r c.iface ∧ s' = s)
    (r : ρ) : Inside (dlForeach CacheData.misused CacheData.ifaces body env.rounds
      s.interfaceCache r) s fun r' s' => r' = walk f r (L.map CachedIface.iface) ∧ s' = s := by
  obtain ⟨before, chained⟩ := cached.ifaces.exists_chained
  rw [cached.ifaces.head, walk_map]
  exact keepsHeld_foreach owns_cache chained keeps env.rounds r

theorem anyIp_inside (cached : Cached s L) (member : c ∈ L) (p : IpxInterfaceIp → Bool) :
    Inside (anyIp env p c.addr) s fun yes s' => yes = c.iface.ipaddr.any p ∧ s' = s := by
  rw [← walk_any]
  refine foreachIp_inside cached member (fun ip own r => ?_) false
  refine (readIp_inside cached member own).bind fun addr s' reached => ?_
  obtain ⟨rfl, rfl⟩ := reached
  exact keepsHeld_pure ⟨rfl, rfl⟩

theorem copyIpxInterface_inside (cached : Cached s L) (member : c ∈ L) (k : Nat) :
    Inside (copyIpxInterface env k c.addr) s
      fun copy s' => copy = copied env.malloc k c.iface ∧ s' = s := by
  unfold copyIpxInterface copied
  split
  · rename_i first
    refine (readIface_inside cached member).bind fun iface s' reached => ?_
    obtain ⟨rfl, rfl⟩ := reached
    refine (foreachIp_inside cached member (f := copyStep env.malloc k) (fun ip own r => ?_)
      ([], true)).bind fun r s' reached => ?_
    · unfold copyStep
      dsimp only
      split
      · refine (readIp_inside cached member own).bind fun addr s'' reached => ?_
        obtain ⟨rfl, rfl⟩ := reached
        exact keepsHeld_pure ⟨rfl, rfl⟩
      · exact keepsHeld_pure ⟨rfl, rfl⟩
    · obtain ⟨rfl, rfl⟩ := reached
      refine keepsHeld_pure ⟨?_, rfl⟩
      refine (walk_copyStep c.iface.ipaddr [] fun ips =>
        ⟨c.ipxNet, c.ipxNode, ips⟩).trans ?_
      simp only [Nat.forall_lt_succ_left, Nat.add_zero, and_iff_right first, Nat.add_assoc,
        Nat.add_comm 1, List.length_nil]
      rfl
  · rename_i first
    refine keepsHeld_pure ⟨?_, rfl⟩
    rw [if_neg fun all => first (all 0 (Nat.succ_pos _))]

theorem copyIpxInterfaceList_inside (cached : Cached s L) :
    Inside (copyIpxInterfaceList env s.interfaceCache) s fun copies s' =>
      copies = (if ∀ i < mallocs (L.map CachedIface.iface), env.malloc i
        then L.map CachedIface.iface else []) ∧ s' = s := by
  have loop : Inside (copyIpxInterfaceList env s.interfaceCache) s fun copies s' =>
      copies = walk (copiesStep env.malloc) [] (L.map CachedIface.iface) ∧ s' = s := by
    refine foreach_inside cached (fun c member copies => ?_) []
    refine (copyIpxInterface_inside cached member _).bind fun copy s' reached => ?_
    obtain ⟨rfl, rfl⟩ := reached
    unfold copiesStep
    cases copied env.malloc (mallocs copies) c.iface with
    | none => exact keepsHeld_pure ⟨rfl, rfl⟩
    | some copy => exact keepsHeld_pure ⟨rfl, rfl⟩
  rw [walk_copiesStep] at loop
  simp only [mallocs, List.map_nil, List.sum_nil, Nat.zero_add, List.nil_append] at loop
  exact loop

/-! ## Renewal -/

theorem freeIpxInterface_inside (loose : Loose s c L c.ips) :
    Inside (freeIpxInterface env c.addr) s fun _ s' => Cached s' L := by
  obtain ⟨n, there, value⟩ := loose.node
  refine (readIface_node there).bind fun iface s' reached => ?_
  obtain ⟨rfl, rfl⟩ := reached
  have emptied : Inside (dlForeachSafe CacheData.misused CacheData.ips (fun ip => do
      change CacheData.misused (CacheData.deleteIp c.addr ip)
      change CacheData.misused (CacheData.freeIp ip)) env.rounds n.value.ipaddr) s'
      fun _ s'' => Loose s'' c L [] := by
    have same : c.ips.map (fun ip => ip) = c.ips := List.map_id' c.ips
    rw [value, ← same]
    refine keepsHeld_foreachSafe (I := fun ips s => Loose s c L ips) owns_cache ?_ ?_ loose _
    · intro ip ips s loose
      obtain ⟨before, chained⟩ := loose.own.exists_chained
      rw [List.map_id']
      exact ⟨_, chained.1, rfl⟩
    · intro ip ips s loose
      obtain ⟨s₁, deleted, sound, s₂, freed, left⟩ := loose.freeIp
      refine (keepsHeld_change owns_cache Nat.one_pos deleted sound).bind fun _ s' reached => ?_
      subst reached
      exact (keepsHeld_change owns_cache Nat.one_pos freed left.sound).mono fun _ s'' reached =>
        reached ▸ left
  refine emptied.bind fun _ s'' loose => ?_
  obtain ⟨s₃, freed, left⟩ := loose.freeIface
  exact (keepsHeld_change owns_cache Nat.one_pos freed left.sound).mono fun _ _ reached =>
    reached ▸ left

/-- The list is freed: none is left. -/
theorem freeIpxInterfaceList_inside (cached : Cached s L) :
    Inside (freeIpxInterfaceList env) s fun _ s' => Cached s' [] := by
  refine keepsHeld_read owns_cache ?_
  rw [cached.ifaces.head]
  refine keepsHeld_foreachSafe (I := fun L s => Cached s L) owns_cache ?_ ?_ cached _
  · intro c L s cached
    obtain ⟨before, chained⟩ := cached.ifaces.exists_chained
    exact ⟨_, chained.1, rfl⟩
  · intro c L s cached
    obtain ⟨s₁, deleted, loose⟩ := cached.deleteIface
    refine (keepsHeld_change owns_cache Nat.one_pos deleted loose.sound).bind fun _ s' reached => ?_
    subst reached
    exact freeIpxInterface_inside loose

/-- What a lookup finds was loaded a short time ago, or by itself. -/
def Fresh (encap : EncapType) (env : CacheEnv) (ifaces : List IpxInterface) (ctime : Int) : Prop :=
  encap = .pcap ∨ env.now - ctime ≤ interfaceCacheTtl ∨
    ifaces = loaded encap env ∧ ctime = env.loadedAt

theorem renewInterfaceCache_inside (cached : Cached s L) :
    Inside (renewInterfaceCache encap false env) s fun _ s' => ∃ L', Cached s' L' ∧
      Fresh encap env (L'.map CachedIface.iface) s'.ctime := by
  unfold renewInterfaceCache
  split
  · rename_i pcap
    exact keepsHeld_pure ⟨L, cached, .inl pcap⟩
  · rw [if_neg Bool.false_ne_true]
    have looked : Inside (expired env) s fun renews s' =>
        renews = decide (env.now - s.ctime > interfaceCacheTtl) ∧ s' = s :=
      keepsHeld_read owns_cache (keepsHeld_pure ⟨rfl, rfl⟩)
    refine looked.bind fun renews s' reached => ?_
    obtain ⟨rfl, rfl⟩ := reached
    split
    · refine (freeIpxInterfaceList_inside cached).bind fun _ s₁ empty => ?_
      have cached' := cached_load s₁ (loaded encap env) empty.sound
      refine ⟨owns_cache, owns_cache, cached'.sound, nofun, owns_cache, owns_cache, cached'.sound,
        nofun, rfl, rfl, _, ⟨cached'.ifaces, cached'.ips, cached'.apart, cached'.sound⟩, ?_⟩
      rw [cachedFrom_iface]
      exact .inr (.inr ⟨rfl, rfl⟩)
    · rename_i young
      rw [decide_eq_true_eq] at young
      exact keepsHeld_pure ⟨L, cached, .inr (.inl (Int.not_lt.mp young))⟩

/-! ## Lookups -/

/-- `r` is the answer of the list of interfaces that is in the cache, which a lookup may use,
or of any list. -/
def Answered {α : Type} (encap : EncapType) (env : CacheEnv) (answer : List IpxInterface → α)
    (r : α) (s : CacheData) : Prop :=
  (∃ L, Cached s L ∧ Fresh encap env (L.map CachedIface.iface) s.ctime ∧
    r = answer (L.map CachedIface.iface)) ∨ ∀ ifaces, r = answer ifaces

/-- The program returns the answer of the cache as it was when it last touched it, and does not
hold the lock. -/
abbrev Returns {α : Type} (encap : EncapType) (env : CacheEnv) (p : CacheProg α)
    (answer : List IpxInterface → α) : Prop :=
  ∀ s, p.Keeps cacheDiscipline () 0 s fun r _ d s' => d = 0 ∧ Answered encap env answer r s'

variable {s : CacheData} {L : List CachedIface} {c : CachedIface} {env : CacheEnv}

/-- A lookup has the answer of the interfaces that are in the cache after it is renewed. -/
theorem lookup_returns {α : Type} {body : Option Nat → CacheProg α} {answer : List IpxInterface → α}
    (inside : ∀ {s L}, Cached s L → Inside (body s.interfaceCache) s
      fun r s' => r = answer (L.map CachedIface.iface) ∧ s' = s) :
    Returns encap env (lookup encap env body) answer := by
  rintro _ s ⟨L, cached⟩
  refine (renewInterfaceCache_inside cached).andThen fun _ s₁ ⟨L₁, cached₁, fresh⟩ => ?_
  refine ⟨owns_cache, ?_⟩
  refine (inside cached₁).andThen fun r s₂ reached => ?_
  obtain ⟨rfl, rfl⟩ := reached
  exact ⟨Nat.one_pos, fun _ => ⟨L₁, cached₁⟩, rfl, .inl ⟨L₁, cached₁, fresh, rfl⟩⟩

theorem getIpxInterfaces_returns : Returns encap env (getIpxInterfaces encap env) fun ifaces =>
    if ∀ i < mallocs ifaces, env.malloc i then ifaces else [] :=
  lookup_returns fun cached => copyIpxInterfaceList_inside cached

/-- What a loop does with an interface that it is to return a copy of if it is `p`. -/
def copyIf (env : CacheEnv) (p : IpxInterface → Bool) (iface : IpxInterface) :
    ForInStep (Option IpxInterface) :=
  if p iface then .done (copied env.malloc 0 iface) else .yield none

theorem copyIf_inside (env : CacheEnv) (cached : Cached s L) (member : c ∈ L) {yes : Bool}
    {p : IpxInterface → Bool} (tested : yes = p c.iface) :
    Inside (if yes then do
        let copy ← copyIpxInterface env 0 c.addr
        pure (ForInStep.done copy)
      else
        pure (ForInStep.yield none)) s fun next s' => next = copyIf env p c.iface ∧ s' = s := by
  unfold copyIf
  rw [tested]
  split
  · refine (copyIpxInterface_inside cached member 0).bind fun copy s' reached => ?_
    obtain ⟨rfl, rfl⟩ := reached
    exact keepsHeld_pure ⟨rfl, rfl⟩
  · exact keepsHeld_pure ⟨rfl, rfl⟩

theorem walk_copyIf (p : IpxInterface → Bool) (ifaces : List IpxInterface) :
    walk (fun _ => copyIf env p) none ifaces = (ifaces.find? p).bind (copied env.malloc 0) := by
  refine (walk_find p _ _ ifaces).trans ?_
  cases ifaces.find? p <;> rfl

theorem ipxInterfaceByAddr_returns {net : Addr32} {node : Addr48} :
    Returns encap env (ipxInterfaceByAddr encap net node env) fun ifaces =>
      (List.find? (fun iface => iface.ipxNet = net ∧ iface.ipxNode = node) ifaces).bind
        (copied env.malloc 0) := by
  refine lookup_returns fun {s L} cached => ?_
  rw [← walk_copyIf]
  refine foreach_inside cached (fun c member _ => ?_) none
  refine (readIface_inside cached member).bind fun iface s' reached => ?_
  obtain ⟨rfl, rfl⟩ := reached
  have tested := copyIf_inside env cached member (p := fun iface =>
    iface.ipxNet = net ∧ iface.ipxNode = node) rfl
  simp only [decide_eq_true_eq] at tested
  exact tested

theorem ipxInterfaceBySubnet_returns {ipaddr : UInt32} :
    Returns encap env (ipxInterfaceBySubnet encap ipaddr env) fun ifaces =>
      (List.find? (fun iface => iface.ipaddr.any fun ip =>
        ip.ipaddr &&& ip.netmask = ipaddr &&& ip.netmask) ifaces).bind (copied env.malloc 0) := by
  refine lookup_returns fun {s L} cached => ?_
  rw [← walk_copyIf]
  refine foreach_inside cached (fun c member _ => ?_) none
  refine (anyIp_inside cached member _).bind fun yes s' reached => ?_
  obtain ⟨tested, rfl⟩ := reached
  exact copyIf_inside env cached member tested

theorem ipxInterfaceByIndex_returns {index : Int} :
    Returns encap env (ipxInterfaceByIndex encap index env) fun ifaces =>
      if 0 ≤ index then ifaces[index.toNat]?.bind (copied env.malloc 0) else none := by
  refine lookup_returns fun {s L} cached => ?_
  refine (foreach_inside cached (f := indexStep index (copied env.malloc 0)) (fun c member r => ?_)
    (0, none)).bind fun r s' reached => keepsHeld_pure ⟨?_, reached.2⟩
  · unfold indexStep
    dsimp only
    split
    · refine (copyIpxInterface_inside cached member 0).bind fun copy s'' reached => ?_
      obtain ⟨rfl, rfl⟩ := reached
      exact keepsHeld_pure ⟨rfl, rfl⟩
    · exact keepsHeld_pure ⟨rfl, rfl⟩
  · have found := congrArg Prod.snd reached.1
    rw [walk_indexStep, Int.sub_zero] at found
    exact found

theorem walk_count (ifaces : List IpxInterface) (n : Nat) :
    walk (fun n _ => ForInStep.yield (n + 1)) n ifaces = n + ifaces.length := by
  induction ifaces generalizing n with
  | nil => rfl
  | cons iface rest ih =>
      rw [List.length_cons, Nat.add_comm rest.length, ← Nat.add_assoc]
      exact ih (n + 1)

theorem ipxInterfaceCount_returns :
    Returns encap env (ipxInterfaceCount encap env) List.length := by
  refine lookup_returns fun {s L} cached => ?_
  rw [← Nat.zero_add (List.length _), ← walk_count]
  exact foreach_inside cached (fun c member n => keepsHeld_pure ⟨rfl, rfl⟩) 0

theorem ipv4AddressIsLocal_returns {ipaddr : UInt32} :
    Returns encap env (ipv4AddressIsLocal encap ipaddr env) fun ifaces =>
      IpxWrapper.ipv4AddressIsLocal ⟨ifaces, true⟩ ipaddr := by
  unfold ipv4AddressIsLocal IpxWrapper.ipv4AddressIsLocal
  split
  · exact fun s => ⟨rfl, .inr fun _ => rfl⟩
  · refine lookup_returns fun {s L} cached => ?_
    rw [← walk_any]
    refine foreach_inside cached (fun c member _ => ?_) false
    refine (anyIp_inside cached member _).bind fun yes s' reached => ?_
    obtain ⟨rfl, rfl⟩ := reached
    exact keepsHeld_pure ⟨rfl, rfl⟩

end LockedCache

/-! ## Calls -/

/-- The calls that do not take the lock, but where there is nothing to renew. -/
def IfaceCall.Reloads (encap : EncapType) (call : IfaceCall) : Prop :=
  call = .reload ∧ encap ≠ .pcap

open LockedCache in
/-- A call that takes the lock keeps the discipline, and returns the answer for a list of
interfaces that was the cache. -/
theorem prog_returns {env : CacheEnv} {call : IfaceCall} (locks : ¬ call.Reloads encap) :
    Returns encap env (call.prog encap env) (call.answer env.malloc) := by
  have map {α : Type} {p : CacheProg α} {f : α → IfaceResult} {answer : List IpxInterface → α}
      (returns : Returns encap env p answer)
      (answers : ∀ ifaces, f (answer ifaces) = call.answer env.malloc ifaces) :
      Returns encap env (do let a ← p; pure (f a)) (call.answer env.malloc) := by
    intro s
    rw [keeps_bind]
    refine (returns s).mono fun a _ d _ reached => ⟨reached.1, ?_⟩
    rcases reached.2 with ⟨L, cached, fresh, rfl⟩ | any
    · exact .inl ⟨L, cached, fresh, answers _⟩
    · exact .inr fun ifaces => (congrArg f (any ifaces)).trans (answers ifaces)
  cases call with
  | getIpxInterfaces => exact map getIpxInterfaces_returns fun _ => rfl
  | byAddr net node => exact map ipxInterfaceByAddr_returns fun _ => rfl
  | bySubnet ipaddr => exact map ipxInterfaceBySubnet_returns fun _ => rfl
  | byIndex index => exact map ipxInterfaceByIndex_returns fun _ => rfl
  | count => exact map ipxInterfaceCount_returns fun _ => rfl
  | isLocal ipaddr => exact map ipv4AddressIsLocal_returns fun _ => rfl
  | reload =>
      have pcap : encap = .pcap := by
        by_contra other
        exact locks ⟨rfl, other⟩
      subst pcap
      exact fun s => ⟨rfl, .inr fun _ => rfl⟩

end Inside

end IpxWrapper
