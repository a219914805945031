import IpxWrapper.AddrCache
import IpxWrapper.Base.Bytes
import IpxWrapper.Base.Expiry
import IpxWrapper.Base.Named

/-!
# The address cache as a map (`addrcache.c`)

Entries are found by the bytes of a `struct host_table_key`, its padding included, and
hold a `SOCKADDR_STORAGE`, of which `addrlen` bytes are an address. They are renewed in
place and never removed. `addrCache_refines`: what the cache answers is what a map whose
entries expire would.
-/

namespace IpxWrapper

open Base

/-- `sizeof(SOCKADDR_STORAGE)`. -/
def sizeofSockaddrStorage : Nat := 128

/-- An address that fits a `SOCKADDR_STORAGE`. -/
structure Sockaddr where
  bytes : List Byte
  fits : bytes.length ≤ sizeofSockaddrStorage

/-- The bytes of a `struct host_table_key` that was zeroed and filled in. -/
def HostTableKey.bytes (key : HostTableKey) : List Byte :=
  leBytes key.netnum.toNat 4 ++ List.replicate 4 0 ++
    (leBytes key.nodenum.toNat 8 ++ (leBytes key.socket.toNat 2 ++ List.replicate 6 0))

/-- A `struct host_table`. -/
structure HostEntry where
  key : List Byte
  time : Int
  addr : List Byte
  addrlen : Nat

/-- A zeroed entry with its key. -/
def HostEntry.new (key : HostTableKey) : HostEntry :=
  ⟨key.bytes, 0, List.replicate sizeofSockaddrStorage 0, 0⟩

/-- The address is copied into the entry. -/
def HostEntry.store (now : Int) (addr : Sockaddr) (host : HostEntry) : HostEntry :=
  { host with
    addr := addr.bytes ++ host.addr.drop addr.bytes.length
    addrlen := addr.bytes.length
    time := now }

/-- `host_table_find`, by `HASH_FIND`. -/
def hostEntryFind (hosts : List HostEntry) (key : HostTableKey) : Option HostEntry :=
  hosts.find? fun host => host.key = key.bytes

/-- `addr_cache_get`: the bytes that are copied to `*addr`, and `*addrlen`. -/
def cacheGet (hosts : List HostEntry) (now : Int) (key : HostTableKey) :
    Option (List Byte × Nat) :=
  match hostEntryFind hosts key with
  | some host =>
      if now < host.time + addrCacheTtl then some (host.addr.take host.addrlen, host.addrlen)
      else none
  | none => none

/-- `addr_cache_set`; `malloc` tells whether there is memory for a new entry. -/
def cacheSet (hosts : List HostEntry) (now : Int) (malloc : Bool) (addr : Sockaddr)
    (key : HostTableKey) : List HostEntry :=
  if (hostEntryFind hosts key).isSome ∨ malloc then
    upsert (fun host => host.key = key.bytes) (HostEntry.store now addr)
      ((HostEntry.new key).store now addr) hosts
  else
    hosts

/-! ## Calls -/

/-- A call of `addr_cache_set` or `addr_cache_get`. -/
abbrev CacheCall := MapCall HostTableKey Sockaddr

/-- The table after the call, where there is memory for a new entry. -/
def CacheCall.run (hosts : List HostEntry) : CacheCall → List HostEntry
  | .set key now addr => cacheSet hosts now true addr key
  | .get _ _ => hosts

/-- The table after calls, from an empty one. -/
def cacheAfter (calls : List CacheCall) : List HostEntry := calls.foldl CacheCall.run []

/-! ## Keys -/

section Keys

variable {key other : HostTableKey}

/-- Keys with the same bytes are the same. -/
theorem HostTableKey.bytes_inj (same : key.bytes = other.bytes) : key = other := by
  unfold HostTableKey.bytes at same
  obtain ⟨net, rest⟩ := List.append_inj same (by simp)
  obtain ⟨node, rest⟩ := List.append_inj rest (by simp)
  have net := leBytes_inj key.netnum.toNat_lt other.netnum.toNat_lt (List.append_inj net (by simp)).1
  have node := leBytes_inj key.nodenum.toNat_lt other.nodenum.toNat_lt node
  have socket := leBytes_inj key.socket.toNat_lt other.socket.toNat_lt
    (List.append_inj rest (by simp)).1
  obtain ⟨netnum, nodenum, socketnum⟩ := key
  obtain ⟨netnum', nodenum', socketnum'⟩ := other
  rw [HostTableKey.mk.injEq]
  exact ⟨UInt32.toNat_inj.mp net, UInt64.toNat_inj.mp node, UInt16.toNat_inj.mp socket⟩

end Keys

/-! ## The table as a map -/

/-- The address in an entry, and when it was set. -/
def HostEntry.value (host : HostEntry) : Int × List Byte × Nat :=
  (host.time, host.addr.take host.addrlen, host.addrlen)

/-- What an address that was set is answered with. -/
def Sockaddr.answer (addr : Sockaddr) : List Byte × Nat := (addr.bytes, addr.bytes.length)

/-- Each key leads to what the map has for it. -/
def Represents (hosts : List HostEntry) (map : ExpiringMap HostTableKey Sockaddr) : Prop :=
  ∀ key, (hostEntryFind hosts key).map HostEntry.value = (map key).map (Prod.map id Sockaddr.answer)

section Table

variable {hosts : List HostEntry} {map : ExpiringMap HostTableKey Sockaddr}

theorem HostEntry.value_store (now : Int) (addr : Sockaddr) (host : HostEntry) :
    (host.store now addr).value = (now, addr.answer) := by
  unfold HostEntry.value HostEntry.store Sockaddr.answer
  dsimp only
  rw [List.take_left']
  rfl

/-- After `addr_cache_set` its key leads to the address, if it had an entry or there was memory
for one; the other keys lead where they did. -/
theorem hostEntryFind_cacheSet (hosts : List HostEntry) (now : Int) (malloc : Bool) (addr : Sockaddr)
    (key other : HostTableKey) :
    (hostEntryFind (cacheSet hosts now malloc addr key) other).map HostEntry.value =
      if other = key ∧ ((hostEntryFind hosts other).isSome ∨ malloc) then some (now, addr.answer)
      else (hostEntryFind hosts other).map HostEntry.value := by
  unfold cacheSet
  by_cases same : other = key
  · subst same
    by_cases room : (hostEntryFind hosts other).isSome ∨ malloc
    · have found : hostEntryFind (upsert (fun host => host.key = other.bytes) (HostEntry.store now addr)
          ((HostEntry.new other).store now addr) hosts) other =
          some (((hostEntryFind hosts other).map (HostEntry.store now addr)).getD
            ((HostEntry.new other).store now addr)) := by
        apply find?_upsert
        · exact fun _ => rfl
        · exact decide_eq_true rfl
      rw [if_pos room, if_pos ⟨rfl, room⟩, found, Option.map_some]
      cases hostEntryFind hosts other with
      | none => rw [Option.map_none, Option.getD_none, HostEntry.value_store]
      | some host => rw [Option.map_some, Option.getD_some, HostEntry.value_store]
    · rw [if_neg room, if_neg fun both => room both.2]
  · have apart {host : HostEntry} (own : host.key = key.bytes) : ¬ host.key = other.bytes :=
      fun other' => same (HostTableKey.bytes_inj (own.symm.trans other')).symm
    have kept : hostEntryFind (upsert (fun host => host.key = key.bytes) (HostEntry.store now addr)
        ((HostEntry.new key).store now addr) hosts) other = hostEntryFind hosts other := by
      apply find?_upsert_of_apart
      · exact fun host own => decide_eq_false (apart (of_decide_eq_true own))
      · exact fun host own => decide_eq_false (apart (of_decide_eq_true own))
      · exact decide_eq_false (apart rfl)
    rw [if_neg fun both : other = key ∧ _ => same both.1]
    split
    · rw [kept]
    · rfl

theorem Represents.set (represents : Represents hosts map) (now : Int) (addr : Sockaddr)
    (key : HostTableKey) : Represents (cacheSet hosts now true addr key) (map.set key now addr) := by
  intro other
  rw [hostEntryFind_cacheSet, ExpiringMap.set]
  by_cases same : other = key
  · rw [if_pos ⟨same, Or.inr rfl⟩, same, Function.update_self]
    rfl
  · rw [if_neg fun both => same both.1, represents other, Function.update_of_ne same]

/-- The table after any calls stands for the map after them. -/
theorem represents_after (calls : List CacheCall) : Represents (cacheAfter calls) (mapAfter calls) := by
  induction calls using List.reverseRecOn with
  | nil => exact fun _ => rfl
  | append_singleton calls call ih =>
      have ran : cacheAfter (calls ++ [call]) = call.run (cacheAfter calls) := by
        unfold cacheAfter
        rw [List.foldl_append]
        rfl
      rw [ran, mapAfter_concat]
      cases call with
      | set key now addr => exact ih.set now addr key
      | get key now => exact ih

/-- `addr_cache_get` answers what the map does. -/
theorem Represents.get (represents : Represents hosts map) (now : Int) (key : HostTableKey) :
    cacheGet hosts now key = (map.get addrCacheTtl key now).map Sockaddr.answer := by
  have value := represents key
  unfold cacheGet ExpiringMap.get
  rcases entry : map key with _ | ⟨s, addr⟩
  · rw [entry, Option.map_none, Option.map_eq_none_iff] at value
    rw [value]
    rfl
  · rw [entry, Option.map_some] at value
    obtain ⟨host, found, same⟩ := Option.map_eq_some_iff.mp value
    obtain ⟨rfl, answer⟩ := Prod.mk.inj same
    rw [found, Option.bind_some]
    dsimp only
    split
    · exact congrArg some answer
    · rfl

end Table

/-! ## Addresses of IPv4 sockets -/

/-- The bytes of a `struct sockaddr_in`. -/
def SockAddrIn.raw (addr : SockAddrIn) : Sockaddr where
  bytes := leBytes addr.family.toNat 2 ++ leBytes addr.port.toNat 2 ++ leBytes addr.addr.toNat 4 ++
    List.replicate 8 0
  fits := by simp [sizeofSockaddrStorage]

/-- The table with the bytes has what the one with IPv4 addresses has. -/
def Stores (table : List HostTable) (hosts : List HostEntry) : Prop :=
  ∀ key, (hostEntryFind hosts key).map HostEntry.value =
    (hostTableFind table key).map fun host => (host.time, host.addr.raw.answer)

section Stores

variable {table : List HostTable} {hosts : List HostEntry} {key : HostTableKey}

theorem Stores.isSome_iff (stores : Stores table hosts) :
    (hostEntryFind hosts key).isSome = (hostTableFind table key).isSome := by
  have same := congrArg Option.isSome (stores key)
  rwa [Option.isSome_map, Option.isSome_map] at same

theorem Stores.set (stores : Stores table hosts) (now : Int) (malloc : Bool) (addr : SockAddrIn)
    (net : Addr32) (node : Addr48) (sock : UInt16) :
    Stores (addrCacheSet table now malloc addr net node sock)
      (cacheSet hosts now malloc addr.raw ⟨net, node, sock⟩) := by
  intro other
  rw [hostEntryFind_cacheSet, hostTableFind_addrCacheSet, stores.isSome_iff]
  split
  · rfl
  · exact stores other

theorem Stores.get (stores : Stores table hosts) (now : Int) (net : Addr32) (node : Addr48)
    (sock : UInt16) : cacheGet hosts now ⟨net, node, sock⟩ =
      (addrCacheGet table now net node sock).map fun addr => addr.raw.answer := by
  have value := stores ⟨net, node, sock⟩
  unfold cacheGet addrCacheGet
  rw [← hostTableFind]
  rcases entry : hostTableFind table ⟨net, node, sock⟩ with _ | host
  · rw [entry, Option.map_none, Option.map_eq_none_iff] at value
    rw [value]
    rfl
  · rw [entry, Option.map_some] at value
    obtain ⟨host', found, same⟩ := Option.map_eq_some_iff.mp value
    obtain ⟨time, answer⟩ := Prod.mk.inj same
    rw [found]
    dsimp only
    rw [time]
    split
    · exact congrArg some answer
    · rfl

end Stores

/-! ## What the cache answers -/

/-- After any calls `addr_cache_get` succeeds if and only if the latest call that set its key was
less than 30 seconds before, and then answers what that call set; calls for other keys make no
difference. -/
theorem addrCache_refines (calls : List CacheCall) (now : Int) (key : HostTableKey) :
    (∀ answer, cacheGet (cacheAfter calls) now key = some answer ↔
      ∃ s addr, LatestSet calls key s addr ∧ now < s + 30 ∧
        answer = (addr.bytes, addr.bytes.length)) ∧
    cacheGet (cacheAfter calls) now key =
      cacheGet (cacheAfter (calls.filter fun call => call.key = key)) now key := by
  rw [(represents_after calls).get, (represents_after _).get]
  refine ⟨fun answer => ?_, ?_⟩
  · constructor
    · intro answered
      obtain ⟨addr, got, same⟩ := Option.map_eq_some_iff.mp answered
      obtain ⟨s, entry, inTime⟩ := ExpiringMap.get_eq_some_iff.mp got
      exact ⟨s, addr, mapAfter_eq_some_iff.mp entry, inTime, same.symm⟩
    · rintro ⟨s, addr, latest, inTime, same⟩
      have got := ExpiringMap.get_eq_some_iff.mpr ⟨s, mapAfter_eq_some_iff.mpr latest, inTime⟩
      exact Option.map_eq_some_iff.mpr ⟨addr, got, same.symm⟩
  · unfold ExpiringMap.get
    rw [mapAfter_filter]

end IpxWrapper
