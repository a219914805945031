import IpxWrapper.Addr

/-!
# IPX interfaces (`interface.c`)

The cache of interfaces is a list. The lookups return a copy of an entry, and
`NULL` where there is none or there is no memory for the copy.
-/

namespace IpxWrapper

/-- `struct ipx_interface_ip`. -/
structure IpxInterfaceIp where
  ipaddr : UInt32
  netmask : UInt32
  bcast : UInt32
deriving DecidableEq

/-- `struct ipx_interface`. -/
structure IpxInterface where
  ipxNet : Addr32
  ipxNode : Addr48
  ipaddr : List IpxInterfaceIp
deriving DecidableEq

/-- `interface_cache`, and whether `malloc` succeeds while it is copied from. -/
structure InterfaceCache where
  ifaces : List IpxInterface
  copies : Bool

/-- `copy_ipx_interface`. -/
def copyIpxInterface (cache : InterfaceCache) (iface : IpxInterface) : Option IpxInterface :=
  if cache.copies then some iface else none

/-- `get_ipx_interfaces`. -/
def getIpxInterfaces (cache : InterfaceCache) : List IpxInterface :=
  if cache.copies then cache.ifaces else []

/-- `ipx_interface_by_addr`. -/
def ipxInterfaceByAddr (cache : InterfaceCache) (net : Addr32) (node : Addr48) :
    Option IpxInterface :=
  (cache.ifaces.find? fun iface => iface.ipxNet = net ∧ iface.ipxNode = node).bind
    (copyIpxInterface cache)

/-- `ipx_interface_by_subnet`. -/
def ipxInterfaceBySubnet (cache : InterfaceCache) (ipaddr : UInt32) : Option IpxInterface :=
  (cache.ifaces.find? fun iface => iface.ipaddr.any fun ip =>
    ip.ipaddr &&& ip.netmask = ipaddr &&& ip.netmask).bind (copyIpxInterface cache)

end IpxWrapper
