import IpxWrapper.Base.DlWalk
import IpxWrapper.OwnPackets
import IpxWrapper.SocketTable

/-!
# The interface cache in memory (`interface.c`)

The functions of `interface.c` that application threads call, and `ipx_interfaces_reload`, as
programs under `interface_cache_cs`. The cache is a list of nodes, each with a list of its
addresses; a reload frees them and makes new ones, and a node that has been freed is used with
`misuse`. The copies that the lookups return belong to the caller alone, and are values here;
so is what is loaded, until it is the cache.
-/

namespace IpxWrapper

open Base LockProg

/-! ## Nodes -/

/-- `struct ipx_interface`, with the head of its list of addresses. -/
structure IfaceBody where
  ipxNet : Addr32
  ipxNode : Addr48
  ipaddr : Option Nat
deriving DecidableEq

/-- What `interface_cache_cs` protects. -/
structure CacheData where
  ifaces : DlNodes IfaceBody
  ips : DlNodes IpxInterfaceIp
  /-- The numbers of the next nodes. -/
  nextIface : Nat
  nextIp : Nat
  interfaceCache : Option Nat
  ctime : Int
  /-- A node was used that had been freed. -/
  misuse : Bool

/-- The nodes of the addresses of the interfaces, from the number `k` on. -/
def linkIps : List IpxInterface → Nat → DlNodes IpxInterfaceIp → DlNodes IpxInterfaceIp
  | [], _, ips => ips
  | iface :: rest, k, ips =>
      linkIps rest (k + iface.ipaddr.length)
        (ips.link (k + iface.ipaddr.length - 1) iface.ipaddr k)

/-- The interfaces, with those lists. -/
def ifaceBodies : List IpxInterface → Nat → List IfaceBody
  | [], _ => []
  | iface :: rest, k =>
      ⟨iface.ipxNet, iface.ipxNode, if iface.ipaddr.isEmpty then none else some k⟩ ::
        ifaceBodies rest (k + iface.ipaddr.length)

namespace CacheData

def misused (s : CacheData) : CacheData := { s with misuse := true }

/-- `interface_cache` is a list of new nodes. -/
def load (loaded : List IpxInterface) (s : CacheData) : CacheData :=
  let bodies := ifaceBodies loaded s.nextIp
  { s with
    ifaces := s.ifaces.link (s.nextIface + bodies.length - 1) bodies s.nextIface
    ips := linkIps loaded s.nextIp s.ips
    nextIface := s.nextIface + bodies.length
    nextIp := s.nextIp + (loaded.map fun iface => iface.ipaddr.length).sum
    interfaceCache := if bodies.isEmpty then none else some s.nextIface }

/-- What `ipx_interfaces_init` leaves: the interfaces of WinPcap, or those of the first lookup. -/
def init (loaded : List IpxInterface) (ctime : Int) : CacheData :=
  load loaded ⟨fun _ => none, fun _ => none, 0, 0, none, ctime, false⟩

/-- `DL_DELETE(interface_cache, a)`. -/
def deleteIface (a : Nat) (s : CacheData) : Option CacheData :=
  (s.ifaces.delete s.interfaceCache a).map fun (head, ifaces) =>
    { s with interfaceCache := head, ifaces := ifaces }

def freeIface (a : Nat) (s : CacheData) : Option CacheData :=
  (s.ifaces a).map fun _ => { s with ifaces := s.ifaces.free a }

/-- `DL_DELETE(iface->ipaddr, a)`. -/
def deleteIp (iface a : Nat) (s : CacheData) : Option CacheData := do
  let n ← s.ifaces iface
  let (head, ips) ← s.ips.delete n.value.ipaddr a
  some { s with
    ips := ips
    ifaces := Function.update s.ifaces iface
      (some { n with value := { n.value with ipaddr := head } }) }

def freeIp (a : Nat) (s : CacheData) : Option CacheData :=
  (s.ips a).map fun _ => { s with ips := s.ips.free a }

end CacheData

/-! ## Programs -/

/-- What a call of `interface.c` meets. -/
structure CacheEnv where
  /-- How often a loop goes round at most. -/
  rounds : Nat
  /-- The time when the age of the cache is looked at, and after it is loaded. -/
  now : Int
  loadedAt : Int
  host : HostEnv
  /-- The address of the client, if `dosbox_state` is `DOSBOX_CONNECTED`. -/
  dosbox : Option (Addr32 × Addr48)
  /-- `malloc` succeeds, for the first copy, the second, and so on. -/
  malloc : Nat → Bool

abbrev CacheProg (α : Type) := LockProg CacheData Empty α

/-- `INTERFACE_CACHE_TTL`. -/
def interfaceCacheTtl : Int := 5

namespace LockedCache

/-- `load_dosbox_interfaces`. -/
def loadDosboxInterfaces (env : CacheEnv) : List IpxInterface :=
  env.dosbox.toList.map fun (net, node) => ⟨net, node, []⟩

/-- What `renew_interface_cache` loads. -/
def loaded (encap : EncapType) (env : CacheEnv) : List IpxInterface :=
  if encap = .dosbox then loadDosboxInterfaces env else loadIpxInterfaces env.host

/-- An interface of the cache is read. -/
def readIface (a : Nat) : CacheProg IfaceBody := do
  let n ← visit CacheData.misused CacheData.ifaces a
  pure n.value

def readIp (a : Nat) : CacheProg IpxInterfaceIp := do
  let n ← visit CacheData.misused CacheData.ips a
  pure n.value

/-- A loop over the addresses of an interface. -/
def foreachIp {ρ : Type} (env : CacheEnv) (body : ρ → Nat → CacheProg (ForInStep ρ)) (a : Nat)
    (r : ρ) : CacheProg ρ := do
  let iface ← readIface a
  dlForeach CacheData.misused CacheData.ips body env.rounds iface.ipaddr r

/-- `free_ipx_interface`. -/
def freeIpxInterface (env : CacheEnv) (a : Nat) : CacheProg Unit := do
  let iface ← readIface a
  dlForeachSafe CacheData.misused CacheData.ips (fun ip => do
    change CacheData.misused (CacheData.deleteIp a ip)
    change CacheData.misused (CacheData.freeIp ip)) env.rounds iface.ipaddr
  change CacheData.misused (CacheData.freeIface a)

/-- `free_ipx_interface_list(&interface_cache)`. -/
def freeIpxInterfaceList (env : CacheEnv) : CacheProg Unit := do
  let s ← read
  dlForeachSafe CacheData.misused CacheData.ifaces (fun a => do
    change CacheData.misused (CacheData.deleteIface a)
    freeIpxInterface env a) env.rounds s.interfaceCache

/-- The cache has been loaded longer ago than it is kept. -/
def expired (env : CacheEnv) : CacheProg Bool := do
  let s ← read
  pure (env.now - s.ctime > interfaceCacheTtl)

/-- `renew_interface_cache`. -/
def renewInterfaceCache (encap : EncapType) (force : Bool) (env : CacheEnv) : CacheProg Unit :=
  if encap = .pcap then
    pure ()
  else do
    if ← (if force then pure true else expired env) then do
      freeIpxInterfaceList env
      modify (·.load (loaded encap env))
      modify fun s => { s with ctime := env.loadedAt }

/-- `copy_ipx_interface`, after `k` calls of `malloc`. -/
def copyIpxInterface (env : CacheEnv) (k a : Nat) : CacheProg (Option IpxInterface) :=
  if env.malloc k then do
    let iface ← readIface a
    let (ips, copied) ← foreachIp env (fun (ips, _) ip =>
      if env.malloc (k + 1 + ips.length) then do
        let addr ← readIp ip
        pure (.yield (ips ++ [addr], true))
      else
        pure (.done (ips, false))) a (([] : List IpxInterfaceIp), true)
    pure (if copied then some ⟨iface.ipxNet, iface.ipxNode, ips⟩ else none)
  else
    pure none

/-- How often `malloc` is called for the copies. -/
def mallocs (copies : List IpxInterface) : Nat :=
  (copies.map fun copy => copy.ipaddr.length + 1).sum

/-- `copy_ipx_interface_list`. -/
def copyIpxInterfaceList (env : CacheEnv) (head : Option Nat) : CacheProg (List IpxInterface) :=
  dlForeach CacheData.misused CacheData.ifaces (fun copies a => do
    match ← copyIpxInterface env (mallocs copies) a with
    | none => pure (.done [])
    | some copy => pure (.yield (copies ++ [copy]))) env.rounds head []

/-- What each lookup does: it takes the lock, renews the cache, and walks it. -/
def lookup {α : Type} (encap : EncapType) (env : CacheEnv) (body : Option Nat → CacheProg α) :
    CacheProg α := do
  acquire
  renewInterfaceCache encap false env
  let s ← read
  let r ← body s.interfaceCache
  release
  pure r

/-- `get_ipx_interfaces`. -/
def getIpxInterfaces (encap : EncapType) (env : CacheEnv) : CacheProg (List IpxInterface) :=
  lookup encap env (copyIpxInterfaceList env)

/-- `ipx_interface_by_addr`. -/
def ipxInterfaceByAddr (encap : EncapType) (net : Addr32) (node : Addr48) (env : CacheEnv) :
    CacheProg (Option IpxInterface) :=
  lookup encap env fun head =>
    dlForeach CacheData.misused CacheData.ifaces (fun _ a => do
      let iface ← readIface a
      if iface.ipxNet = net ∧ iface.ipxNode = node then do
        let copy ← copyIpxInterface env 0 a
        pure (.done copy)
      else
        pure (.yield none)) env.rounds head none

/-- An address of the interface is as asked. -/
def anyIp (env : CacheEnv) (p : IpxInterfaceIp → Bool) (a : Nat) : CacheProg Bool :=
  foreachIp env (fun _ ip => do
    let addr ← readIp ip
    pure (if p addr then .done true else .yield false)) a false

/-- `ipx_interface_by_subnet`. -/
def ipxInterfaceBySubnet (encap : EncapType) (ipaddr : UInt32) (env : CacheEnv) :
    CacheProg (Option IpxInterface) :=
  lookup encap env fun head =>
    dlForeach CacheData.misused CacheData.ifaces (fun _ a => do
      if ← anyIp env (fun ip => ip.ipaddr &&& ip.netmask = ipaddr &&& ip.netmask) a then do
        let copy ← copyIpxInterface env 0 a
        pure (.done copy)
      else
        pure (.yield none)) env.rounds head none

/-- `ipx_interface_by_index`. -/
def ipxInterfaceByIndex (encap : EncapType) (index : Int) (env : CacheEnv) :
    CacheProg (Option IpxInterface) :=
  lookup encap env fun head => do
    let (_, found) ← dlForeach CacheData.misused CacheData.ifaces (fun (ifaceIndex, _) a => do
      if ifaceIndex = index then do
        let copy ← copyIpxInterface env 0 a
        pure (.done (ifaceIndex + 1, copy))
      else
        pure (.yield (ifaceIndex + 1, none))) env.rounds head ((0 : Int), none)
    pure found

/-- `ipx_interface_count`. -/
def ipxInterfaceCount (encap : EncapType) (env : CacheEnv) : CacheProg Nat :=
  lookup encap env fun head =>
    dlForeach CacheData.misused CacheData.ifaces (fun count _ => pure (.yield (count + 1)))
      env.rounds head 0

/-- `ipv4_address_is_local`. -/
def ipv4AddressIsLocal (encap : EncapType) (ipaddr : UInt32) (env : CacheEnv) : CacheProg Bool :=
  if IsLoopback ipaddr then
    pure true
  else
    lookup encap env fun head =>
      dlForeach CacheData.misused CacheData.ifaces (fun _ a => do
        let isLocal ← anyIp env (fun ip => ip.ipaddr = ipaddr) a
        pure (if isLocal then .done true else .yield false)) env.rounds head false

/-- `ipx_interfaces_reload`: the lock is not taken. -/
def ipxInterfacesReload (encap : EncapType) (env : CacheEnv) : CacheProg Unit :=
  renewInterfaceCache encap true env

end LockedCache

/-! ## Calls -/

/-- A call of `interface.c`, with its arguments. -/
inductive IfaceCall where
  | getIpxInterfaces
  | byAddr (net : Addr32) (node : Addr48)
  | bySubnet (ipaddr : UInt32)
  | byIndex (index : Int)
  | count
  | isLocal (ipaddr : UInt32)
  /-- What the router does with a registration response of the DOSBox server. -/
  | reload
deriving DecidableEq

inductive IfaceResult where
  | ifaces (copies : List IpxInterface)
  | iface (copy : Option IpxInterface)
  | count (n : Nat)
  | isLocal (yes : Bool)
  | reloaded
deriving DecidableEq

/-- The program of a call. -/
def IfaceCall.prog (encap : EncapType) (env : CacheEnv) : IfaceCall → CacheProg IfaceResult
  | getIpxInterfaces => do
      let copies ← LockedCache.getIpxInterfaces encap env
      pure (.ifaces copies)
  | byAddr net node => do
      let copy ← LockedCache.ipxInterfaceByAddr encap net node env
      pure (.iface copy)
  | bySubnet ipaddr => do
      let copy ← LockedCache.ipxInterfaceBySubnet encap ipaddr env
      pure (.iface copy)
  | byIndex index => do
      let copy ← LockedCache.ipxInterfaceByIndex encap index env
      pure (.iface copy)
  | count => do
      let n ← LockedCache.ipxInterfaceCount encap env
      pure (.count n)
  | isLocal ipaddr => do
      let yes ← LockedCache.ipv4AddressIsLocal encap ipaddr env
      pure (.isLocal yes)
  | reload => do
      LockedCache.ipxInterfacesReload encap env
      pure .reloaded

end IpxWrapper
