import IpxWrapper.Adapters
import IpxWrapper.Base.Keyed
import Mathlib.Data.List.Forall2

/-!
# The interfaces that ipxconfig shows (`ipxconfig.c`)

`reload_nics` lists the wildcard interface and the adapters whose hardware address has
six bytes. `load_ipx_interfaces` makes interfaces for the other adapters as well, unless
they are disabled: `loadsShown_iff`.
-/

namespace IpxWrapper

open Base

/-- `struct iface`. -/
structure Nic where
  hwaddr : Addr48
  config : IfaceConfig

/-- `_add_nic`. -/
def addNic (env : HostEnv) (nics : List Nic) (hwaddr : Addr48) : List Nic :=
  nics ++ [⟨hwaddr, env.config hwaddr⟩]

/-- `reload_nics`, with IPXWrapper encapsulation. -/
def reloadNics (env : HostEnv) : List Nic :=
  (loadSysInterfaces env).foldl
    (fun nics a => if a.addressLength ≠ 6 then nics else addNic env nics a.address)
    (addNic env [] wildcardIfaceHwaddr)

/-! ## What is to be loaded -/

/-- The entries that are not disabled. -/
def shownNics (env : HostEnv) : List Nic := (reloadNics env).filter (·.config.enabled)

/-- They are in the order: primary, wildcard, the rest. -/
def shownOrder (env : HostEnv) : List Nic :=
  let adapters := (shownNics env).filter (·.hwaddr ≠ wildcardIfaceHwaddr)
  adapters.filter (·.hwaddr = env.primary) ++
    (shownNics env).filter (·.hwaddr = wildcardIfaceHwaddr) ++
    adapters.filter (·.hwaddr ≠ env.primary)

/-- The adapters whose hardware address has six bytes. -/
def sixByteAdapters (env : HostEnv) : List AdapterInfo :=
  (loadSysInterfaces env).filter (·.addressLength = 6)

/-- The IP addresses of an adapter. -/
def AdapterInfo.ipAddresses (a : AdapterInfo) : List UInt32 :=
  (a.ipAddressList.map IpAddrString.ipAddress).filter (· ≠ 0)

/-- The IP addresses of an interface. -/
def nicAddresses (env : HostEnv) (hwaddr : Addr48) : List UInt32 :=
  if hwaddr = wildcardIfaceHwaddr then
    (loadSysInterfaces env).flatMap AdapterInfo.ipAddresses
  else
    ((sixByteAdapters env).filter (·.address = hwaddr)).flatMap AdapterInfo.ipAddresses

/-- The interface is the one that the entry says. -/
structure NicIface (env : HostEnv) (nic : Nic) (iface : IpxInterface) : Prop where
  netnum : iface.ipxNet = nic.config.netnum
  nodenum : iface.ipxNode = nic.config.nodenum
  addresses : iface.ipaddr.map IpxInterfaceIp.ipaddr = nicAddresses env nic.hwaddr

/-- `load_ipx_interfaces` returns the interfaces that are shown and not disabled. -/
def LoadsShown (env : HostEnv) : Prop :=
  List.Forall₂ (NicIface env) (shownOrder env) (loadIpxInterfaces env)

/-! ## The two lists -/

section Lists

variable {env : HostEnv} {a : AdapterInfo}

/-- The entry of a hardware address. -/
def nicOf (env : HostEnv) (hwaddr : Addr48) : Nic := ⟨hwaddr, env.config hwaddr⟩

/-- The entry of an interface that is loaded. -/
def sourceNic (env : HostEnv) : IfaceSource → Nic
  | .wildcard => nicOf env wildcardIfaceHwaddr
  | .adapter a => nicOf env a.address

theorem reloadNics_eq (env : HostEnv) : reloadNics env =
    nicOf env wildcardIfaceHwaddr :: (sixByteAdapters env).map fun a => nicOf env a.address := by
  have run (adapters : List AdapterInfo) (nics : List Nic) :
      adapters.foldl (fun nics a =>
        if a.addressLength ≠ 6 then nics else addNic env nics a.address) nics =
        nics ++ (adapters.filter (·.addressLength = 6)).map fun a => nicOf env a.address := by
    induction adapters generalizing nics with
    | nil => simp
    | cons a rest ih =>
        rw [List.foldl_cons, ih]
        by_cases six : a.addressLength = 6 <;> simp [six, addNic, nicOf]
  exact run (loadSysInterfaces env) _

theorem shownNics_eq (env : HostEnv) : shownNics env =
    (if (env.config wildcardIfaceHwaddr).enabled then [nicOf env wildcardIfaceHwaddr] else []) ++
      (enabledAdapters env (sixByteAdapters env)).map fun a => nicOf env a.address := by
  unfold shownNics enabledAdapters
  rw [reloadNics_eq, List.filter_cons, List.filter_map]
  by_cases enabled : (env.config wildcardIfaceHwaddr).enabled <;>
    simp [enabled, nicOf, Function.comp_def]

/-- A list is what is left after a predicate has picked some of it, and these. -/
theorem filter_perm {α : Type} (p : α → Prop) [DecidablePred p] (list : List α) :
    (list.filter (p ·) ++ list.filter (¬ p ·)).Perm list := by
  have perm := List.filter_append_perm (fun x => decide (p x)) list
  simpa only [decide_not] using perm

/-- Each of them is there once. -/
theorem shownOrder_perm (env : HostEnv) : (shownOrder env).Perm (shownNics env) := by
  have wildcards := filter_perm (·.hwaddr = wildcardIfaceHwaddr) (shownNics env)
  have primaries := filter_perm (·.hwaddr = env.primary)
    ((shownNics env).filter (·.hwaddr ≠ wildcardIfaceHwaddr))
  unfold shownOrder
  refine (List.perm_append_comm.append_right _).trans ?_
  rw [List.append_assoc]
  exact (primaries.append_left _).trans wildcards

theorem shownOrder_eq (nonzero : ∀ a ∈ sixByteAdapters env, a.address ≠ wildcardIfaceHwaddr) :
    shownOrder env = (primaryAdapters env (sixByteAdapters env)).map (fun a => nicOf env a.address) ++
      (if (env.config wildcardIfaceHwaddr).enabled then [nicOf env wildcardIfaceHwaddr] else []) ++
      (otherAdapters env (sixByteAdapters env)).map fun a => nicOf env a.address := by
  have enabledNonzero : ∀ a ∈ enabledAdapters env (sixByteAdapters env),
      a.address ≠ wildcardIfaceHwaddr :=
    fun a member => nonzero a (List.mem_filter.mp member).1
  have adapters : ((enabledAdapters env (sixByteAdapters env)).map fun a => nicOf env a.address).filter
      (·.hwaddr ≠ wildcardIfaceHwaddr) =
      (enabledAdapters env (sixByteAdapters env)).map fun a => nicOf env a.address := by
    apply List.filter_eq_self.mpr
    simpa [nicOf] using enabledNonzero
  have none : ((enabledAdapters env (sixByteAdapters env)).map fun a => nicOf env a.address).filter
      (·.hwaddr = wildcardIfaceHwaddr) = [] := by
    apply List.filter_eq_nil_iff.mpr
    simpa [nicOf] using enabledNonzero
  unfold shownOrder primaryAdapters otherAdapters
  rw [shownNics_eq, List.filter_append, List.filter_append, adapters, none]
  by_cases enabled : (env.config wildcardIfaceHwaddr).enabled <;>
    simp [enabled, List.filter_map, Function.comp_def, nicOf]

/-- There is one primary interface at most. -/
theorem primaryAdapters_reverse {adapters : List AdapterInfo}
    (distinct : (adapters.map AdapterInfo.address).Nodup) :
    (primaryAdapters env adapters).reverse = primaryAdapters env adapters := by
  cases found : primaryAdapters env adapters with
  | nil => rfl
  | cons a rest =>
      have member : a ∈ primaryAdapters env adapters := by
        rw [found]
        exact List.mem_cons_self
      obtain ⟨listed, primary⟩ := List.mem_filter.mp member
      have single : ((enabledAdapters env adapters).map AdapterInfo.address).Nodup :=
        distinct.sublist (List.filter_sublist.map _)
      have only := filter_key_eq_singleton single listed
      rw [of_decide_eq_true primary] at only
      rw [← found, primaryAdapters, only, List.reverse_singleton]

theorem addrRecords_ipaddr (a : AdapterInfo) :
    (addrRecords env a.ipAddressList).map IpxInterfaceIp.ipaddr = a.ipAddresses := by
  simp [addrRecords, AdapterInfo.ipAddresses, addrRecord, List.filter_map, Function.comp_def]

/-- The interface of an adapter is the one of its entry. -/
theorem adapterIface_nic (distinct : ((sixByteAdapters env).map AdapterInfo.address).Nodup)
    (nonzero : a.address ≠ wildcardIfaceHwaddr) (member : a ∈ sixByteAdapters env) :
    NicIface env (nicOf env a.address) (adapterIface env a) := by
  refine ⟨rfl, rfl, ?_⟩
  unfold nicAddresses nicOf
  dsimp only
  rw [if_neg nonzero, filter_key_eq_singleton distinct member, List.flatMap_singleton]
  exact addrRecords_ipaddr a

theorem wildcard_nic :
    NicIface env (nicOf env wildcardIfaceHwaddr) (sourceIface env .wildcard) := by
  refine ⟨rfl, rfl, ?_⟩
  simp [nicAddresses, nicOf, sourceIface, withRecords, List.map_flatMap, addrRecords_ipaddr]

/-- No interface is made for an adapter that is not shown. -/
def OthersDisabled (env : HostEnv) : Prop :=
  ∀ a ∈ loadSysInterfaces env, a.addressLength ≠ 6 → (env.config a.address).enabled = false

theorem enabledAdapters_six_eq : enabledAdapters env (sixByteAdapters env) =
    (enabledAdapters env (loadSysInterfaces env)).filter (·.addressLength = 6) := by
  simp [enabledAdapters, sixByteAdapters, List.filter_filter, Bool.and_comm]

theorem othersDisabled_iff : OthersDisabled env ↔
    enabledAdapters env (sixByteAdapters env) = enabledAdapters env (loadSysInterfaces env) := by
  rw [enabledAdapters_six_eq, List.filter_eq_self]
  simp only [enabledAdapters, List.mem_filter, decide_eq_true_eq, and_imp]
  refine forall_congr' fun a => forall_congr' fun _ => ?_
  rw [← Bool.not_eq_true, not_imp_not]

theorem length_shownOrder (env : HostEnv) : (shownOrder env).length =
    (if (env.config wildcardIfaceHwaddr).enabled then 1 else 0) +
      (enabledAdapters env (sixByteAdapters env)).length := by
  rw [(shownOrder_perm env).length_eq, shownNics_eq, List.length_append, List.length_map]
  by_cases enabled : (env.config wildcardIfaceHwaddr).enabled <;> simp [enabled]

theorem length_loadOrder (env : HostEnv) : (loadOrder env).length =
    (if (env.config wildcardIfaceHwaddr).enabled then 1 else 0) +
      (enabledAdapters env (loadSysInterfaces env)).length := by
  have parts := filter_perm (·.address = env.primary) (enabledAdapters env (loadSysInterfaces env))
  rw [← parts.length_eq, List.length_append]
  unfold loadOrder primaryAdapters otherAdapters
  by_cases enabled : (env.config wildcardIfaceHwaddr).enabled
  · simp [enabled]
    omega
  · simp [enabled]

/-- What is loaded is what is shown and not disabled if and only if the adapters whose hardware
address does not have six bytes are disabled. -/
theorem loadsShown_iff (loads : env.Loads)
    (distinct : ((sixByteAdapters env).map AdapterInfo.address).Nodup)
    (nonzero : ∀ a ∈ sixByteAdapters env, a.address ≠ wildcardIfaceHwaddr) :
    LoadsShown env ↔ OthersDisabled env := by
  unfold LoadsShown
  rw [loadIpxInterfaces_eq loads]
  constructor
  · intro same
    -- The adapters with six bytes are some of all, and as many.
    have lengths := same.length_eq
    rw [List.length_map, length_shownOrder, length_loadOrder, enabledAdapters_six_eq] at lengths
    rw [othersDisabled_iff, enabledAdapters_six_eq]
    exact List.filter_sublist.eq_of_length (Nat.add_left_cancel lengths)
  · intro disabled
    have enabled := othersDisabled_iff.mp disabled
    have entries : shownOrder env = (loadOrder env).map (sourceNic env) := by
      have primaries : primaryAdapters env (loadSysInterfaces env) =
          primaryAdapters env (sixByteAdapters env) := by
        rw [primaryAdapters, primaryAdapters, enabled]
      have others : otherAdapters env (loadSysInterfaces env) =
          otherAdapters env (sixByteAdapters env) := by
        rw [otherAdapters, otherAdapters, enabled]
      rw [shownOrder_eq nonzero]
      unfold loadOrder
      dsimp only
      rw [primaries, others, primaryAdapters_reverse distinct]
      by_cases wildcard : (env.config wildcardIfaceHwaddr).enabled <;>
        simp [wildcard, sourceNic, Function.comp_def]
    rw [entries, List.forall₂_map_left_iff, List.forall₂_map_right_iff, List.forall₂_same]
    intro source ordered
    cases source with
    | wildcard => exact wildcard_nic
    | adapter a =>
        obtain ⟨listed, own⟩ := mem_loadOrder_adapter.mp ordered
        have six : a ∈ sixByteAdapters env := by
          have both : a ∈ enabledAdapters env (loadSysInterfaces env) :=
            List.mem_filter.mpr ⟨listed, own⟩
          rw [← enabled] at both
          exact (List.mem_filter.mp both).1
        exact adapterIface_nic distinct (nonzero a six) six

/-- A host with the adapter 02:00:00:00:00:01, which has an IP address, and a link. -/
def linkHost (link : AdapterInfo) : HostEnv where
  adapters := [⟨6, 0x0100000000020000, ⟨0x0100000A, 0x00FFFFFF⟩, []⟩, link]
  listed := true
  config := fun hwaddr => ⟨0x01000000, if hwaddr = 0 then 0x020000 else hwaddr, true⟩
  primary := bcastNode
  forwardTable := some []
  malloc := true

theorem linkHost_loads (link : AdapterInfo) : (linkHost link).Loads :=
  fun _ _ _ _ _ _ => ⟨rfl, fun _ => rfl⟩

/-- A dial-up link has no hardware address, and so its interface has the node number of the
wildcard interface. -/
theorem dialUp_not_loadsShown :
    (loadIpxInterfaces (linkHost ⟨0, 0, ⟨0, 0⟩, []⟩)).map IpxInterface.ipxNode =
        [0x020000, 0x0100000000020000, 0x020000] ∧
      (shownOrder (linkHost ⟨0, 0, ⟨0, 0⟩, []⟩)).map Nic.hwaddr = [0, 0x0100000000020000] ∧
      ¬ ∀ env : HostEnv, env.Loads →
        ((sixByteAdapters env).map AdapterInfo.address).Nodup →
        (∀ a ∈ sixByteAdapters env, a.address ≠ wildcardIfaceHwaddr) → LoadsShown env := by
  refine ⟨by decide, by decide, ?_⟩
  intro shown
  have distinct : ((sixByteAdapters (linkHost ⟨0, 0, ⟨0, 0⟩, []⟩)).map
      AdapterInfo.address).Nodup := by
    decide
  have nonzero : ∀ a ∈ sixByteAdapters (linkHost ⟨0, 0, ⟨0, 0⟩, []⟩),
      a.address ≠ wildcardIfaceHwaddr := by
    decide
  have lengths := (shown _ (linkHost_loads _) distinct nonzero).length_eq
  exact absurd lengths (by decide)

theorem loadsShown_twoAdapters :
    LoadsShown (linkHost ⟨6, 0x0200000000020000, ⟨0, 0⟩, []⟩) := by
  apply (loadsShown_iff (linkHost_loads _) (by decide) (by decide)).mpr
  unfold OthersDisabled
  decide

end Lists

end IpxWrapper
