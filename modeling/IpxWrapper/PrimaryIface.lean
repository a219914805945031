import IpxWrapper.Config

/-!
# The primary interface (`config.c`, `interface.c`)

`load_ipx_interfaces` puts the adapter at the front whose hardware address is the one that
`get_primary_iface` returns. From a configuration of a version before 0.4 it returns the
node number of the primary adapter instead of its hardware address:
`primaryFirst_iff`.
-/

namespace IpxWrapper

open Base

/-- The host, with the registry `reg`. -/
def HostEnv.withRegistry (env : HostEnv) (rand : Nat → Nat) (reg : Registry) : HostEnv :=
  { env with config := ifaceConfigs rand reg, primary := getPrimaryIface reg }

/-! ## Which adapter is primary -/

/-- The registry says that the adapter with the hardware address `h` is primary; `stored` is the
address that it has for it: that of the value `primary`, or the node number in the first value of
an adapter that has the flag. -/
inductive Designates (reg : Registry) : Addr48 → Addr48 → Prop
  | current {key : MainKey} {data : List Byte} (there : reg = some key)
      (value : regQueryValueEx key.values primaryName = some data) (six : data.length = 6) :
      Designates reg (addr48In (bufferOf data) 0) (addr48In (bufferOf data) 0)
  | legacy {key : MainKey} {before after : List RegValue} {value : RegValue} {h : Addr48}
      (there : reg = some key) (absent : regQueryValueEx key.values primaryName = none)
      (values : key.values = before ++ value :: after)
      (first : ∀ other ∈ before, isPrimaryValue other = false)
      (flagged : isPrimaryValue value = true)
      (named : addr48FromString 0 value.name = some (true, h)) :
      Designates reg h (addr48In (bufferOf value.data) 4)

/-- The first interface is that of the adapter with the hardware address `h`. -/
def PrimaryFirst (env : HostEnv) (h : Addr48) : Prop :=
  ∃ a rest, a.address = h ∧ loadOrder env = .adapter a :: rest ∧
    loadIpxInterfaces env = adapterIface env a :: rest.map (sourceIface env)

/-- The adapter with the hardware address `h` is the first one, and nothing is put before it:
there is no adapter with the address `stored` and no wildcard interface. -/
structure FirstAnyway (env : HostEnv) (h stored : Addr48) : Prop where
  missing : ∀ a ∈ enabledAdapters env (loadSysInterfaces env), a.address ≠ stored
  wildcard : (env.config wildcardIfaceHwaddr).enabled = false
  first : ∃ a rest, enabledAdapters env (loadSysInterfaces env) = a :: rest ∧ a.address = h

section Primary

variable {env : HostEnv} {reg : Registry} {rand : Nat → Nat} {h stored : Addr48}

theorem enumPrimary_append {before after : List RegValue} {value : RegValue}
    (first : ∀ other ∈ before, isPrimaryValue other = false) (flagged : isPrimaryValue value = true) :
    enumPrimary (before ++ value :: after) = some (addr48In (bufferOf value.data) 4) := by
  induction before with
  | nil => exact if_pos flagged
  | cons other rest ih =>
      obtain ⟨skipped, others⟩ := List.forall_mem_cons.mp first
      rw [List.cons_append, enumPrimary, skipped, ih others]
      rfl

theorem Designates.getPrimaryIface_eq (designates : Designates reg h stored) :
    getPrimaryIface reg = stored := by
  unfold getPrimaryIface regCheckValue Registry.values
  cases designates with
  | @current key data there value six =>
      have read : regGetBin (some key.values) primaryName 6 = some data :=
        regGetBin_eq_some_iff.mpr ⟨value, six⟩
      rw [there, Option.map_some, Option.any_some, value]
      unfold regGetAddr48
      rw [read]
      rfl
  | @legacy key before after value h there absent values first flagged named =>
      rw [there, Option.map_some, Option.any_some, absent, Option.bind_some, values,
        enumPrimary_append first flagged]
      rfl

/-- An adapter with the primary address is put first. -/
theorem loadOrder_of_primary (some' : primaryAdapters env (loadSysInterfaces env) ≠ []) :
    ∃ a rest, a.address = env.primary ∧ loadOrder env = .adapter a :: rest := by
  obtain ⟨a, rest, front⟩ := List.exists_cons_of_ne_nil (List.reverse_ne_nil_iff.mpr some')
  have member : a ∈ primaryAdapters env (loadSysInterfaces env) := by
    rw [← List.mem_reverse, front]
    exact List.mem_cons_self
  have order : ∃ more, loadOrder env = .adapter a :: more := by
    unfold loadOrder
    dsimp only
    rw [front]
    exact ⟨_, rfl⟩
  obtain ⟨more, order⟩ := order
  exact ⟨a, more, of_decide_eq_true (List.mem_filter.mp member).2, order⟩

theorem primaryAdapters_eq_nil_iff : primaryAdapters env (loadSysInterfaces env) = [] ↔
    ∀ a ∈ enabledAdapters env (loadSysInterfaces env), a.address ≠ env.primary := by
  simp [primaryAdapters]

/-- Without one nothing is put before the wildcard interface and the adapters. -/
theorem loadOrder_of_missing
    (missing : ∀ a ∈ enabledAdapters env (loadSysInterfaces env), a.address ≠ env.primary) :
    loadOrder env = (if (env.config wildcardIfaceHwaddr).enabled then [.wildcard] else []) ++
      (enabledAdapters env (loadSysInterfaces env)).map .adapter := by
  have back : otherAdapters env (loadSysInterfaces env) =
      enabledAdapters env (loadSysInterfaces env) := by
    apply List.filter_eq_self.mpr
    simpa using missing
  unfold loadOrder
  dsimp only
  rw [primaryAdapters_eq_nil_iff.mpr missing, back, List.reverse_nil, List.map_nil,
    List.nil_append]

/-- Which adapter's interface is the first one. -/
theorem loadOrder_first_iff : (∃ a rest, a.address = h ∧ loadOrder env = .adapter a :: rest) ↔
    (primaryAdapters env (loadSysInterfaces env) ≠ [] ∧ env.primary = h) ∨
      FirstAnyway env h env.primary := by
  by_cases missing : ∀ a ∈ enabledAdapters env (loadSysInterfaces env), a.address ≠ env.primary
  · have nobody := primaryAdapters_eq_nil_iff.mpr missing
    rw [or_iff_right fun both => both.1 nobody, loadOrder_of_missing missing]
    constructor
    · rintro ⟨a, rest, address, same⟩
      by_cases wildcard : (env.config wildcardIfaceHwaddr).enabled
      · rw [if_pos wildcard] at same
        cases (List.cons.inj same).1
      · rw [if_neg wildcard, List.nil_append] at same
        obtain ⟨b, bs, enabled, head, -⟩ := List.map_eq_cons_iff.mp same
        obtain rfl := IfaceSource.adapter.inj head
        exact ⟨missing, Bool.eq_false_iff.mpr wildcard, b, bs, enabled, address⟩
    · intro anyway
      obtain ⟨a, rest, enabled, address⟩ := anyway.first
      refine ⟨a, rest.map .adapter, address, ?_⟩
      rw [anyway.wildcard, enabled]
      rfl
  · have somebody := mt primaryAdapters_eq_nil_iff.mp missing
    obtain ⟨b, more, primary, order⟩ := loadOrder_of_primary somebody
    rw [or_iff_left fun anyway => missing anyway.missing, and_iff_right somebody, order]
    constructor
    · rintro ⟨a, rest, address, same⟩
      obtain rfl := IfaceSource.adapter.inj (List.cons.inj same).1
      rw [← primary, address]
    · intro same
      exact ⟨b, more, primary.trans same, rfl⟩

/-- The adapter that the registry says is first if and only if the address that is stored is its
hardware address, or it is first anyway. -/
theorem primaryFirst_iff (designates : Designates reg h stored) {a : AdapterInfo}
    (present : a ∈ loadSysInterfaces (env.withRegistry rand reg)) (address : a.address = h)
    (enabled : (ifaceConfigs rand reg h).enabled = true)
    (returned : loadIpxInterfaces (env.withRegistry rand reg) ≠ []) :
    PrimaryFirst (env.withRegistry rand reg) h ↔
      stored = h ∨ FirstAnyway (env.withRegistry rand reg) h stored := by
  have loads : (env.withRegistry rand reg).Loads := by
    by_contra fails
    exact returned (loadIpxInterfaces_eq_nil fails)
  have primary : (env.withRegistry rand reg).primary = stored := designates.getPrimaryIface_eq
  have first : PrimaryFirst (env.withRegistry rand reg) h ↔
      ∃ a rest, a.address = h ∧ loadOrder (env.withRegistry rand reg) = .adapter a :: rest := by
    unfold PrimaryFirst
    rw [loadIpxInterfaces_eq loads]
    refine exists_congr fun b => exists_congr fun rest => and_congr_right fun _ => ?_
    apply and_iff_left_of_imp
    intro order
    rw [order]
    rfl
  rw [first, loadOrder_first_iff, primary]
  refine or_congr_left (and_iff_right_of_imp ?_)
  intro same
  apply List.ne_nil_of_mem (a := a)
  refine List.mem_filter.mpr ⟨List.mem_filter.mpr ⟨present, ?_⟩, ?_⟩
  · rw [address]
    exact enabled
  · rw [primary, same, address]
    exact decide_eq_true rfl

/-- The adapter 02:00:00:00:00:01. -/
def plainAdapter : AdapterInfo := ⟨6, 0x0100000000020000, ⟨0x0100000A, 0x00FFFFFF⟩, []⟩

def plainHost : HostEnv where
  adapters := [plainAdapter]
  listed := true
  config := defaultConfig
  primary := bcastNode
  forwardTable := some []
  malloc := true

/-- The registry of a version before 0.4, in which the adapter is primary and has the node number
`node`. -/
def v1Registry (node : Addr48) : Registry :=
  some ⟨[⟨addr48String plainAdapter.address, [0, 0, 0, 1] ++ addr48Out node ++ [1, 1]⟩], []⟩

theorem v1Registry_designates {node : Addr48} (canonical : Canonical node) :
    Designates (v1Registry node) plainAdapter.address node := by
  have holds := Mem.ofList_holds ([0, 0, 0, 1] ++ addr48Out node ++ [1, 1]) fun _ => 0
  have read : addr48In (bufferOf ([0, 0, 0, 1] ++ addr48Out node ++ [1, 1])) 4 = node :=
    addr48In_of_holds canonical holds.left.right
  have named : addr48FromString 0 (addr48String plainAdapter.address) =
      some (true, plainAdapter.address) := by
    decide
  have flagged : isPrimaryValue
      ⟨addr48String plainAdapter.address, [0, 0, 0, 1] ++ addr48Out node ++ [1, 1]⟩ = true := by
    unfold isPrimaryValue
    rw [named]
    rfl
  have nothingBefore : ∀ other ∈ ([] : List RegValue), isPrimaryValue other = false := by
    intro other member
    cases member
  have designates : Designates (v1Registry node) plainAdapter.address _ :=
    .legacy rfl rfl (List.nil_append [_]).symm nothingBefore flagged named
  rwa [read] at designates

/-- With the node number 0A:00:00:00:00:05 the wildcard interface is the first one. -/
theorem customNode_not_first :
    (loadIpxInterfaces (plainHost.withRegistry (fun _ => 0) (v1Registry 0x05000000000A0000))).map
        IpxInterface.ipxNode = [0x020000, 0x05000000000A0000] ∧
      ¬ ∀ (env : HostEnv) (reg : Registry) (rand : Nat → Nat) (h stored : Addr48) (a : AdapterInfo),
        Designates reg h stored → a ∈ loadSysInterfaces (env.withRegistry rand reg) → a.address = h →
        (ifaceConfigs rand reg h).enabled = true →
        loadIpxInterfaces (env.withRegistry rand reg) ≠ [] →
        PrimaryFirst (env.withRegistry rand reg) h := by
  have loaded : (loadIpxInterfaces (plainHost.withRegistry (fun _ => 0) (v1Registry 0x05000000000A0000))).map
      IpxInterface.ipxNode = [0x020000, 0x05000000000A0000] := by
    decide
  refine ⟨loaded, fun promise => ?_⟩
  obtain ⟨b, rest, address, -, first⟩ := promise plainHost (v1Registry 0x05000000000A0000) (fun _ => 0)
    plainAdapter.address _ plainAdapter (v1Registry_designates (by decide)) List.mem_cons_self rfl
    (by decide) (by decide)
  have node : (ifaceConfigs (fun _ => 0) (v1Registry 0x05000000000A0000)
      plainAdapter.address).nodenum = 0x05000000000A0000 := by
    decide
  rw [first, List.map_cons] at loaded
  have wildcard := (List.cons.inj loaded).1
  unfold adapterIface at wildcard
  rw [address] at wildcard
  exact absurd (node.symm.trans wildcard) (by decide)

/-- With the hardware address for a node number it is the right one. -/
theorem primaryFirst_plainNode : PrimaryFirst
    (plainHost.withRegistry (fun _ => 0) (v1Registry plainAdapter.address)) plainAdapter.address := by
  apply (primaryFirst_iff (v1Registry_designates (by decide)) List.mem_cons_self rfl
    (by decide) (by decide)).mpr
  exact Or.inl rfl

end Primary

end IpxWrapper
