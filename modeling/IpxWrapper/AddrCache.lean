import IpxWrapper.Addr
import IpxWrapper.Winsock

/-!
# The address cache (`addrcache.c`)

For an IPX address the cache holds the IP address that a packet from it came
from, for 30 seconds.
-/

namespace IpxWrapper

/-- `ADDR_CACHE_TTL`, in seconds. -/
def addrCacheTtl : Int := 30

/-- `struct host_table_key`, zeroed before it is filled in. -/
structure HostTableKey where
  netnum : Addr32
  nodenum : Addr48
  socket : UInt16
deriving DecidableEq

/-- `struct host_table`; the addresses in it are those of IPv4 sockets. -/
structure HostTable where
  key : HostTableKey
  time : Int
  addr : SockAddrIn

/-- `addr_cache_get` at time `now`. -/
def addrCacheGet (hostTable : List HostTable) (now : Int) (net : Addr32) (node : Addr48)
    (sock : UInt16) : Option SockAddrIn :=
  match hostTable.find? fun host => host.key = ⟨net, node, sock⟩ with
  | some host => if now < host.time + addrCacheTtl then some host.addr else none
  | none => none

/-- `addr_cache_set` at time `now`; `malloc` tells whether there is memory for a new entry. -/
def addrCacheSet (hostTable : List HostTable) (now : Int) (malloc : Bool) (addr : SockAddrIn)
    (net : Addr32) (node : Addr48) (sock : UInt16) : List HostTable :=
  let key : HostTableKey := ⟨net, node, sock⟩
  if hostTable.any (·.key = key) then
    hostTable.map fun host => if host.key = key then ⟨key, now, addr⟩ else host
  else if malloc then
    hostTable ++ [⟨key, now, addr⟩]
  else
    hostTable

/-- `host_table_find`. -/
def hostTableFind (hostTable : List HostTable) (key : HostTableKey) : Option HostTable :=
  hostTable.find? fun host => host.key = key

theorem key_of_hostTableFind {hostTable : List HostTable} {key : HostTableKey} {host : HostTable}
    (found : hostTableFind hostTable key = some host) : host.key = key := by
  unfold hostTableFind at found
  simpa using List.find?_some found

theorem hostTableFind_isSome {hostTable : List HostTable} {key : HostTableKey} :
    (hostTableFind hostTable key).isSome = hostTable.any (·.key = key) := by
  unfold hostTableFind
  rw [List.isSome_find?]

/-- After `addr_cache_set` its key leads to the new address, if it had an entry or there was
memory for one; the other keys lead where they did. -/
theorem hostTableFind_addrCacheSet (hostTable : List HostTable) (now : Int) (malloc : Bool)
    (addr : SockAddrIn) (net : Addr32) (node : Addr48) (sock : UInt16) (key : HostTableKey) :
    hostTableFind (addrCacheSet hostTable now malloc addr net node sock) key =
      if key = ⟨net, node, sock⟩ ∧ ((hostTableFind hostTable key).isSome ∨ malloc) then
        some ⟨key, now, addr⟩
      else hostTableFind hostTable key := by
  generalize named : (⟨net, node, sock⟩ : HostTableKey) = new
  unfold addrCacheSet
  dsimp only
  rw [named]
  by_cases known : hostTable.any (·.key = new) = true
  · rw [if_pos known]
    have renewed : hostTableFind (hostTable.map fun host =>
        if host.key = new then ⟨new, now, addr⟩ else host) key =
        (hostTableFind hostTable key).map fun host =>
          if host.key = new then ⟨new, now, addr⟩ else host := by
      unfold hostTableFind
      rw [List.find?_map]
      congr 2
      funext host
      by_cases same : host.key = new <;> simp [same]
    rw [renewed]
    by_cases same : key = new
    · subst same
      rw [← hostTableFind_isSome] at known
      obtain ⟨host, found⟩ := Option.isSome_iff_exists.mp known
      rw [if_pos ⟨rfl, Or.inl known⟩, found, Option.map_some, if_pos (key_of_hostTableFind found)]
    · rw [if_neg fun both => same both.1]
      rcases found : hostTableFind hostTable key with _ | host
      · rfl
      · rw [Option.map_some, if_neg fun other => same ((key_of_hostTableFind found).symm.trans other)]
  · rw [if_neg known]
    rw [← hostTableFind_isSome, Bool.not_eq_true, Option.isSome_eq_false_iff,
      Option.isNone_iff_eq_none] at known
    by_cases same : key = new
    · subst same
      rw [known]
      cases malloc
      · simp [known]
      · unfold hostTableFind at known ⊢
        rw [if_pos rfl, List.find?_append, known]
        simp
    · have other : ¬ (key = new ∧ ((hostTableFind hostTable key).isSome ∨ malloc)) :=
        fun both => same both.1
      rw [if_neg other]
      split
      · unfold hostTableFind
        rw [List.find?_append]
        simp [Ne.symm same]
      · rfl

end IpxWrapper
