import IpxWrapper.Interface

/-!
# Loading the IPX interfaces (`interface.c`, `interface2.c`)

With IPXWrapper encapsulation the interfaces are made from the network adapters of the
host: one for each adapter that is not disabled, and one that has the addresses of all
adapters, the wildcard interface, unless that is disabled. `loadIpxInterfaces_eq` gives
the interfaces in their order, and `loadIpxInterfaces_hasAddress_iff` says which IP
addresses they have.
-/

namespace IpxWrapper

/-- `ntohl`. -/
def ntohl (v : UInt32) : UInt32 :=
  UInt32.ofNat (v.toNat % 256 * 16777216 + v.toNat / 256 % 256 * 65536 +
    v.toNat / 65536 % 256 * 256 + v.toNat / 16777216)

/-- `IP_ADDR_STRING`: an address and its mask, after `inet_addr`. -/
structure IpAddrString where
  ipAddress : UInt32
  ipMask : UInt32

/-- `IP_ADAPTER_INFO`. -/
structure AdapterInfo where
  addressLength : UInt32
  address : Addr48
  /-- There is always a first; the address of an adapter without one is 0. -/
  firstAddress : IpAddrString
  moreAddresses : List IpAddrString

def AdapterInfo.ipAddressList (a : AdapterInfo) : List IpAddrString :=
  a.firstAddress :: a.moreAddresses

/-- `iface_config_t`. -/
structure IfaceConfig where
  netnum : Addr32
  nodenum : Addr48
  enabled : Bool

/-- `MIB_IPFORWARDROW`. -/
structure IpForwardRow where
  dwForwardDest : UInt32
  dwForwardMask : UInt32

/-- What the loading of the interfaces finds. -/
structure HostEnv where
  adapters : List AdapterInfo
  /-- `GetAdaptersInfo` succeeds, with memory for its result. -/
  listed : Bool
  /-- `get_iface_config`, which reads the registry. -/
  config : Addr48 → IfaceConfig
  /-- `get_primary_iface()`. -/
  primary : Addr48
  /-- `GetIpForwardTable`, unless it fails or there is no memory for its result. -/
  forwardTable : Option (List IpForwardRow)
  /-- There is memory for the IP addresses of the interfaces. (Where there is none for an
  interface itself, `_new_iface` writes through a null pointer.) -/
  malloc : Bool

/-- `WILDCARD_IFACE_HWADDR`. -/
def wildcardIfaceHwaddr : Addr48 := 0

/-- `7A:79:00:00:00:00`. -/
def hamachiBug : Addr48 := 0x797A0000

/-- `load_sys_interfaces` gives such an adapter a node number of its own. -/
def fixHamachi (a : AdapterInfo) : AdapterInfo :=
  if a.addressLength = 6 ∧ a.address = hamachiBug ∧ a.firstAddress.ipAddress ≠ 0 then
    { a with address := hamachiBug + UInt64.ofNat (a.firstAddress.ipAddress.toNat * 4294967296) }
  else
    a

/-- `load_sys_interfaces`. -/
def loadSysInterfaces (env : HostEnv) : List AdapterInfo :=
  if env.listed then env.adapters.map fixHamachi else []

/-- The mask of a route to `ipaddr`, for a point-to-point link, whose own mask is of no use. -/
def routeMask (ipaddr : UInt32) (table : List IpForwardRow) (netmask : UInt32) : UInt32 :=
  table.foldl (fun netmask row =>
    if 0 < ntohl row.dwForwardMask ∧ ntohl row.dwForwardMask < ntohl netmask ∧
        ntohl ipaddr &&& ntohl row.dwForwardMask = ntohl row.dwForwardDest then
      row.dwForwardMask
    else netmask) netmask

/-- `_push_addr`; `none` where it fails. -/
def pushAddr (env : HostEnv) : List IpAddrString → List IpxInterfaceIp →
    Option (List IpxInterfaceIp)
  | [], ips => some ips
  | ip :: rest, ips =>
      if ip.ipAddress = 0 then
        pushAddr env rest ips
      else
        let netmask :=
          if ip.ipMask = 0xFFFFFFFF then
            env.forwardTable.map fun table => routeMask ip.ipAddress table ip.ipMask
          else some ip.ipMask
        match netmask with
        | none => none
        | some netmask =>
            if env.malloc then
              pushAddr env rest
                (ips ++ [⟨ip.ipAddress, netmask, ip.ipAddress ||| ~~~netmask⟩])
            else
              none

/-- The list of interfaces while it is made: the primary one is put at the front. -/
structure LoadingIfaces where
  front : List IpxInterface
  wildcard : Option IpxInterface
  back : List IpxInterface

def LoadingIfaces.nics (l : LoadingIfaces) : List IpxInterface :=
  l.front ++ l.wildcard.toList ++ l.back

/-- An adapter's addresses are appended to those of the wildcard interface. -/
def pushWildcard (env : HostEnv) (a : AdapterInfo) :
    Option IpxInterface → Option (Option IpxInterface)
  | none => some none
  | some wildcard => (pushAddr env a.ipAddressList wildcard.ipaddr).map fun ips =>
      some { wildcard with ipaddr := ips }

/-- The loop body of `load_ipx_interfaces`; `none` where it gives up. -/
def loadIface (env : HostEnv) (l : LoadingIfaces) (a : AdapterInfo) : Option LoadingIfaces :=
  match pushWildcard env a l.wildcard with
  | none => none
  | some wildcard =>
      if (env.config a.address).enabled then
        match pushAddr env a.ipAddressList [] with
        | none => none
        | some ips =>
            let iface : IpxInterface :=
              ⟨(env.config a.address).netnum, (env.config a.address).nodenum, ips⟩
            if a.address = env.primary then
              some { l with front := iface :: l.front, wildcard := wildcard }
            else
              some { l with wildcard := wildcard, back := l.back ++ [iface] }
      else
        some { l with wildcard := wildcard }

/-- The list before the first adapter. -/
def firstIfaces (env : HostEnv) : LoadingIfaces where
  front := []
  wildcard :=
    let config := env.config wildcardIfaceHwaddr
    if config.enabled then some ⟨config.netnum, config.nodenum, []⟩ else none
  back := []

/-- `load_ipx_interfaces`. -/
def loadIpxInterfaces (env : HostEnv) : List IpxInterface :=
  match (loadSysInterfaces env).foldlM (loadIface env) (firstIfaces env) with
  | none => []
  | some l => l.nics

/-! ## The addresses of the interfaces -/

def AdapterInfo.HasAddress (a : AdapterInfo) (ipaddr : UInt32) : Prop :=
  ipaddr ≠ 0 ∧ ∃ ip ∈ a.ipAddressList, ip.ipAddress = ipaddr

def HasIpAddress (ips : List IpxInterfaceIp) (ipaddr : UInt32) : Prop :=
  ∃ ip ∈ ips, ip.ipaddr = ipaddr

/-- One of the interfaces has the address. -/
def HasAddress (nics : List IpxInterface) (ipaddr : UInt32) : Prop :=
  ∃ iface ∈ nics, HasIpAddress iface.ipaddr ipaddr

variable {env : HostEnv} {ipaddr : UInt32} {a : AdapterInfo} {adapters : List AdapterInfo}
  {l l' : LoadingIfaces}

/-- What `_push_addr` appends for an address, with the routes that there are. -/
def addrRecord (env : HostEnv) (ip : IpAddrString) : IpxInterfaceIp :=
  let netmask :=
    if ip.ipMask = 0xFFFFFFFF then
      routeMask ip.ipAddress (env.forwardTable.getD []) ip.ipMask
    else ip.ipMask
  ⟨ip.ipAddress, netmask, ip.ipAddress ||| ~~~netmask⟩

/-- What `_push_addr` appends for the addresses of an adapter. -/
def addrRecords (env : HostEnv) (list : List IpAddrString) : List IpxInterfaceIp :=
  (list.filter (·.ipAddress ≠ 0)).map (addrRecord env)

/-- `_push_addr` does not fail at an address. -/
def HostEnv.CanRecord (env : HostEnv) (ip : IpAddrString) : Prop :=
  env.malloc ∧ (ip.ipMask = 0xFFFFFFFF → env.forwardTable.isSome)

theorem pushAddr_cons_zero {ip : IpAddrString} {rest : List IpAddrString}
    {ips : List IpxInterfaceIp} (zero : ip.ipAddress = 0) :
    pushAddr env (ip :: rest) ips = pushAddr env rest ips := by
  rw [pushAddr, if_pos zero]

theorem pushAddr_cons {ip : IpAddrString} {rest : List IpAddrString} {ips : List IpxInterfaceIp}
    (nonzero : ip.ipAddress ≠ 0) (canRecord : env.CanRecord ip) :
    pushAddr env (ip :: rest) ips = pushAddr env rest (ips ++ [addrRecord env ip]) := by
  obtain ⟨memory, routes⟩ := canRecord
  rw [pushAddr, if_neg nonzero]
  unfold addrRecord
  by_cases host : ip.ipMask = 0xFFFFFFFF
  · obtain ⟨table, lists⟩ := Option.isSome_iff_exists.mp (routes host)
    simp [host, lists, memory]
  · simp [host, memory]

theorem pushAddr_cons_none {ip : IpAddrString} {rest : List IpAddrString}
    {ips : List IpxInterfaceIp} (nonzero : ip.ipAddress ≠ 0) (fails : ¬ env.CanRecord ip) :
    pushAddr env (ip :: rest) ips = none := by
  rw [pushAddr, if_neg nonzero]
  dsimp only
  split
  · rfl
  case h_2 netmask found =>
    refine if_neg fun memory => fails ⟨memory, fun host => ?_⟩
    rw [if_pos host] at found
    obtain ⟨table, lists, -⟩ := Option.map_eq_some_iff.mp found
    simp [lists]

theorem pushAddr_eq_some_iff {list : List IpAddrString} {ips ips' : List IpxInterfaceIp} :
    pushAddr env list ips = some ips' ↔
      (∀ ip ∈ list, ip.ipAddress ≠ 0 → env.CanRecord ip) ∧ ips' = ips ++ addrRecords env list := by
  unfold addrRecords
  induction list generalizing ips with
  | nil => simp [pushAddr, eq_comm]
  | cons ip rest ih =>
      rw [List.forall_mem_cons]
      by_cases zero : ip.ipAddress = 0
      · rw [pushAddr_cons_zero zero, ih]
        simp [zero]
      by_cases canRecord : env.CanRecord ip
      · rw [pushAddr_cons zero canRecord, ih]
        simp [zero, canRecord]
      · rw [pushAddr_cons_none zero canRecord]
        simp [zero, canRecord]

theorem addrRecords_hasIpAddress_iff {list : List IpAddrString} :
    HasIpAddress (addrRecords env list) ipaddr ↔
      ipaddr ≠ 0 ∧ ∃ ip ∈ list, ip.ipAddress = ipaddr := by
  unfold HasIpAddress addrRecords
  simp only [List.mem_map, List.mem_filter, exists_exists_and_eq_and]
  grind [addrRecord]

/-! ## The interfaces, one by one -/

/-- None of the adapter's addresses makes `_push_addr` fail. -/
def AdapterInfo.Recordable (a : AdapterInfo) (env : HostEnv) : Prop :=
  ∀ ip ∈ a.ipAddressList, ip.ipAddress ≠ 0 → env.CanRecord ip

/-- The interface of an adapter. -/
def adapterIface (env : HostEnv) (a : AdapterInfo) : IpxInterface :=
  ⟨(env.config a.address).netnum, (env.config a.address).nodenum,
    addrRecords env a.ipAddressList⟩

/-- The adapters that are not disabled. -/
def enabledAdapters (env : HostEnv) (adapters : List AdapterInfo) : List AdapterInfo :=
  adapters.filter fun a => (env.config a.address).enabled

/-- Those of them that are put at the front. -/
def primaryAdapters (env : HostEnv) (adapters : List AdapterInfo) : List AdapterInfo :=
  (enabledAdapters env adapters).filter (·.address = env.primary)

/-- Those that are put at the end. -/
def otherAdapters (env : HostEnv) (adapters : List AdapterInfo) : List AdapterInfo :=
  (enabledAdapters env adapters).filter (·.address ≠ env.primary)

/-- The wildcard interface with the addresses of `adapters` appended. -/
def withRecords (env : HostEnv) (adapters : List AdapterInfo) (wildcard : IpxInterface) :
    IpxInterface :=
  { wildcard with
    ipaddr := wildcard.ipaddr ++ adapters.flatMap fun a => addrRecords env a.ipAddressList }

/-- The list after `adapters`. -/
def LoadingIfaces.addAll (env : HostEnv) (adapters : List AdapterInfo) (l : LoadingIfaces) :
    LoadingIfaces where
  front := ((primaryAdapters env adapters).map (adapterIface env)).reverse ++ l.front
  wildcard := l.wildcard.map (withRecords env adapters)
  back := l.back ++ (otherAdapters env adapters).map (adapterIface env)

/-- The loop body of `load_ipx_interfaces` looks at the addresses of `a`. -/
def LoadingIfaces.Looks (env : HostEnv) (l : LoadingIfaces) (a : AdapterInfo) : Prop :=
  l.wildcard.isSome ∨ (env.config a.address).enabled

theorem pushWildcard_eq_some_iff {wildcard wildcard' : Option IpxInterface} :
    pushWildcard env a wildcard = some wildcard' ↔
      (wildcard.isSome → a.Recordable env) ∧ wildcard' = wildcard.map (withRecords env [a]) := by
  cases wildcard with
  | none => simp [pushWildcard, eq_comm]
  | some iface =>
      simp only [pushWildcard, Option.map_eq_some_iff, pushAddr_eq_some_iff]
      simp [AdapterInfo.Recordable, withRecords, eq_comm]

theorem pushAddr_recordable (recordable : a.Recordable env) :
    pushAddr env a.ipAddressList [] = some (addrRecords env a.ipAddressList) :=
  pushAddr_eq_some_iff.mpr ⟨recordable, rfl⟩

theorem pushAddr_eq_none {ips : List IpxInterfaceIp} (fails : ¬ a.Recordable env) :
    pushAddr env a.ipAddressList ips = none := by
  apply Option.eq_none_iff_forall_ne_some.mpr
  intro ips' pushed
  exact fails (pushAddr_eq_some_iff.mp pushed).1

/-- An adapter whose addresses can be recorded, or are not looked at. -/
theorem loadIface_eq (recordable : l.Looks env a → a.Recordable env) :
    loadIface env l a = some (l.addAll env [a]) := by
  have pushed : pushWildcard env a l.wildcard = some (l.wildcard.map (withRecords env [a])) :=
    pushWildcard_eq_some_iff.mpr ⟨fun wildcard => recordable (Or.inl wildcard), rfl⟩
  unfold loadIface LoadingIfaces.addAll primaryAdapters otherAdapters
  rw [pushed]
  by_cases enabled : (env.config a.address).enabled
  · have made := pushAddr_recordable (recordable (Or.inr enabled))
    have only : enabledAdapters env [a] = [a] := List.filter_cons_of_pos enabled
    rw [only]
    dsimp only
    rw [if_pos enabled, made]
    by_cases primary : a.address = env.primary
    · have front : [a].filter (·.address = env.primary) = [a] := by
        rw [List.filter_cons_of_pos (by simpa using primary), List.filter_nil]
      have back : [a].filter (·.address ≠ env.primary) = [] := by
        rw [List.filter_cons_of_neg (by simpa using primary), List.filter_nil]
      rw [front, back]
      simp only [if_pos primary]
      simp [adapterIface]
    · simp [primary, adapterIface]
  · simp [enabled, enabledAdapters]

/-- One whose addresses are looked at and cannot be recorded. -/
theorem loadIface_eq_none (looks : l.Looks env a) (fails : ¬ a.Recordable env) :
    loadIface env l a = none := by
  unfold loadIface
  cases wildcard : l.wildcard with
  | some iface => simp [pushWildcard, pushAddr_eq_none fails]
  | none =>
      have enabled : (env.config a.address).enabled := by
        rcases looks with some | enabled
        · rw [wildcard] at some
          cases some
        · exact enabled
      simp [pushWildcard, enabled, pushAddr_eq_none fails]

theorem LoadingIfaces.addAll_nil : l.addAll env [] = l := by
  have same (wildcard : IpxInterface) : withRecords env [] wildcard = wildcard := by
    simp [withRecords]
  simp [addAll, primaryAdapters, otherAdapters, enabledAdapters, funext same]

theorem withRecords_append {more : List AdapterInfo} (wildcard : IpxInterface) :
    withRecords env more (withRecords env adapters wildcard) =
      withRecords env (adapters ++ more) wildcard := by
  simp [withRecords]

theorem LoadingIfaces.addAll_append {more : List AdapterInfo} :
    (l.addAll env adapters).addAll env more = l.addAll env (adapters ++ more) := by
  simp [addAll, primaryAdapters, otherAdapters, enabledAdapters, Function.comp_def,
    withRecords_append]

theorem loadIfaces_eq_some_iff :
    adapters.foldlM (loadIface env) l = some l' ↔
      (∀ a ∈ adapters, l.Looks env a → a.Recordable env) ∧ l' = l.addAll env adapters := by
  induction adapters generalizing l with
  | nil => simp [LoadingIfaces.addAll_nil, eq_comm]
  | cons a rest ih =>
      have looks (b : AdapterInfo) : (l.addAll env [a]).Looks env b ↔ l.Looks env b := by
        simp [LoadingIfaces.Looks, LoadingIfaces.addAll]
      rw [List.foldlM_cons, List.forall_mem_cons]
      by_cases recordable : l.Looks env a → a.Recordable env
      · rw [loadIface_eq recordable, Option.bind_eq_bind, Option.bind_some, ih,
          LoadingIfaces.addAll_append, List.singleton_append, and_iff_right recordable]
        simp only [looks]
      · obtain ⟨own, fails⟩ := Classical.not_imp.mp recordable
        rw [loadIface_eq_none own fails]
        simp [recordable]

/-- No adapter stops the loading. -/
def HostEnv.Loads (env : HostEnv) : Prop :=
  ∀ a ∈ loadSysInterfaces env, (firstIfaces env).Looks env a → a.Recordable env

/-- What an interface is made for. -/
inductive IfaceSource
  | wildcard
  | adapter (a : AdapterInfo)

/-- What the interfaces are made for, in their order. -/
def loadOrder (env : HostEnv) : List IfaceSource :=
  let adapters := loadSysInterfaces env
  (primaryAdapters env adapters).reverse.map .adapter ++
    (if (env.config wildcardIfaceHwaddr).enabled then [.wildcard] else []) ++
    (otherAdapters env adapters).map .adapter

/-- The interface that is made. -/
def sourceIface (env : HostEnv) : IfaceSource → IpxInterface
  | .wildcard =>
      let config := env.config wildcardIfaceHwaddr
      withRecords env (loadSysInterfaces env) ⟨config.netnum, config.nodenum, []⟩
  | .adapter a => adapterIface env a

theorem mem_loadOrder_wildcard :
    .wildcard ∈ loadOrder env ↔ (env.config wildcardIfaceHwaddr).enabled := by
  simp [loadOrder]

theorem mem_loadOrder_adapter :
    .adapter a ∈ loadOrder env ↔ a ∈ loadSysInterfaces env ∧ (env.config a.address).enabled := by
  by_cases primary : a.address = env.primary <;>
    simp [loadOrder, primaryAdapters, otherAdapters, enabledAdapters, primary]

theorem loadIpxInterfaces_eq (loads : env.Loads) :
    loadIpxInterfaces env = (loadOrder env).map (sourceIface env) := by
  have made : (loadSysInterfaces env).foldlM (loadIface env) (firstIfaces env) =
      some ((firstIfaces env).addAll env (loadSysInterfaces env)) :=
    loadIfaces_eq_some_iff.mpr ⟨loads, rfl⟩
  unfold loadIpxInterfaces
  rw [made]
  unfold loadOrder LoadingIfaces.nics LoadingIfaces.addAll firstIfaces
  by_cases enabled : (env.config wildcardIfaceHwaddr).enabled <;>
    simp [enabled, sourceIface, Function.comp_def]

theorem loadIpxInterfaces_eq_nil (fails : ¬ env.Loads) : loadIpxInterfaces env = [] := by
  have gaveUp : (loadSysInterfaces env).foldlM (loadIface env) (firstIfaces env) = none := by
    apply Option.eq_none_iff_forall_ne_some.mpr
    intro l made
    exact fails (loadIfaces_eq_some_iff.mp made).1
  unfold loadIpxInterfaces
  rw [gaveUp]

/-- The address is of an adapter that an interface is made for, if only the wildcard interface. -/
def HostEnv.Covers (env : HostEnv) (ipaddr : UInt32) : Prop :=
  ∃ a ∈ loadSysInterfaces env, a.HasAddress ipaddr ∧
    ((env.config wildcardIfaceHwaddr).enabled ∨ (env.config a.address).enabled)

theorem fixHamachi_ipAddressList : (fixHamachi a).ipAddressList = a.ipAddressList := by
  unfold fixHamachi
  split
  · unfold AdapterInfo.ipAddressList
    dsimp only
  · rfl

theorem fixHamachi_hasAddress : (fixHamachi a).HasAddress ipaddr ↔ a.HasAddress ipaddr := by
  unfold AdapterInfo.HasAddress
  rw [fixHamachi_ipAddressList]

theorem HostEnv.Covers.exists_adapter (covers : env.Covers ipaddr) :
    ∃ a ∈ env.adapters, a.HasAddress ipaddr := by
  obtain ⟨a, listed, has, -⟩ := covers
  unfold loadSysInterfaces at listed
  split at listed
  · obtain ⟨own, member, rfl⟩ := List.mem_map.mp listed
    exact ⟨own, member, fixHamachi_hasAddress.mp has⟩
  · cases listed

theorem adapterIface_hasIpAddress_iff (env : HostEnv) :
    HasIpAddress (adapterIface env a).ipaddr ipaddr ↔ a.HasAddress ipaddr :=
  addrRecords_hasIpAddress_iff

theorem wildcard_hasIpAddress_iff :
    HasIpAddress (sourceIface env .wildcard).ipaddr ipaddr ↔
      ∃ a ∈ loadSysInterfaces env, a.HasAddress ipaddr := by
  simp only [← adapterIface_hasIpAddress_iff env]
  simp only [HasIpAddress, sourceIface, withRecords, adapterIface, List.nil_append,
    List.mem_flatMap]
  constructor
  · rintro ⟨ip, ⟨a, member, own⟩, same⟩
    exact ⟨a, member, ip, own, same⟩
  · rintro ⟨a, member, ip, own, same⟩
    exact ⟨ip, ⟨a, member, own⟩, same⟩

/-- The interfaces have the addresses of the adapters that they are made for, or there are none. -/
theorem loadIpxInterfaces_hasAddress_iff (loaded : loadIpxInterfaces env ≠ []) :
    HasAddress (loadIpxInterfaces env) ipaddr ↔ env.Covers ipaddr := by
  have loads : env.Loads := by
    by_contra fails
    exact loaded (loadIpxInterfaces_eq_nil fails)
  rw [loadIpxInterfaces_eq loads]
  unfold HasAddress HostEnv.Covers
  simp only [List.mem_map, exists_exists_and_eq_and]
  constructor
  · rintro ⟨source, ordered, has⟩
    cases source with
    | wildcard =>
        obtain ⟨a, member, own⟩ := wildcard_hasIpAddress_iff.mp has
        exact ⟨a, member, own, Or.inl (mem_loadOrder_wildcard.mp ordered)⟩
    | adapter a =>
        obtain ⟨member, enabled⟩ := mem_loadOrder_adapter.mp ordered
        exact ⟨a, member, (adapterIface_hasIpAddress_iff env).mp has, Or.inr enabled⟩
  · rintro ⟨a, member, has, wildcard | enabled⟩
    · exact ⟨.wildcard, mem_loadOrder_wildcard.mpr wildcard,
        wildcard_hasIpAddress_iff.mpr ⟨a, member, has⟩⟩
    · exact ⟨.adapter a, mem_loadOrder_adapter.mpr ⟨member, enabled⟩,
        (adapterIface_hasIpAddress_iff env).mpr has⟩

end IpxWrapper
