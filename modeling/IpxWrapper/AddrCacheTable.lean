import IpxWrapper.AddrCacheRuns
import IpxWrapper.UtHashRuns

/-!
# The address cache in its hash table (`addrcache.c`, `uthash.h`)

The entries are elements of a hash table: `addr_cache_set` finds its entry or adds one, and
`addr_cache_cleanup` goes through the table and deletes each. Whatever the hashes of the keys, and
whenever the table was expanded, it answers what a map whose entries expire does
(`hostStore_refines`).
-/

namespace IpxWrapper

open Base UtHash

/-! ## Calls -/

/-- `host_table`; an element gets a number that no other had. -/
structure HostStore where
  table : HashTable
  hosts : Nat → HostEntry
  next : Nat

/-- `host_table` is `NULL`. -/
def HostStore.init : HostStore :=
  ⟨⟨.zero, none⟩, fun _ => ⟨[], 0, [], 0⟩, 0⟩

inductive HostCall where
  | set (key : HostTableKey) (now : Int) (addr : Sockaddr) (malloc : Bool)
  | get (key : HostTableKey) (now : Int)
  /-- `addr_cache_cleanup`, and `addr_cache_init` again. -/
  | cleanup

namespace HostStore

variable (rounds : Nat)

/-- `host_table_find`. -/
def find (s : HostStore) (key : HostTableKey) : Option (Option Nat) :=
  hashFind hashJen rounds key.bytes s.table

/-- `addr_cache_get`. -/
def get (s : HostStore) (now : Int) (key : HostTableKey) : Option (Option (List Byte × Nat)) :=
  (s.find rounds key).map fun found => found.bind fun host =>
    if now < (s.hosts host).time + addrCacheTtl then
      some ((s.hosts host).addr.take (s.hosts host).addrlen, (s.hosts host).addrlen)
    else
      none

/-- The entry is written. -/
def store (s : HostStore) (host : Nat) (now : Int) (addr : Sockaddr) : HostStore :=
  { s with hosts := Function.update s.hosts host ((s.hosts host).store now addr) }

/-- An entry with the key is added. -/
def add (s : HostStore) (key : HostTableKey) : Option HostStore :=
  (hashAdd hashJen rounds s.next key.bytes s.table).map fun table =>
    ⟨table, Function.update s.hosts s.next (.new key), s.next + 1⟩

/-- `addr_cache_set`. -/
def set (s : HostStore) (now : Int) (malloc : Bool) (addr : Sockaddr) (key : HostTableKey) :
    Option HostStore := do
  match ← s.find rounds key with
  | some host => some (s.store host now addr)
  | none =>
      if malloc then do
        let s' ← s.add rounds key
        some (s'.store s.next now addr)
      else
        some s

/-- `addr_cache_cleanup`. -/
def cleanup (s : HostStore) : Option HostStore :=
  (hashDrain rounds s.table).map fun drained => { s with table := drained.2 }

def call (s : HostStore) : HostCall → Option HostStore
  | .set key now addr malloc => s.set rounds now malloc addr key
  | .get _ _ => some s
  | .cleanup => s.cleanup rounds

end HostStore

/-- The map after the call; one for a new key changes nothing where there is no memory for it. -/
def HostCall.apply (map : ExpiringMap HostTableKey Sockaddr) :
    HostCall → ExpiringMap HostTableKey Sockaddr
  | .set key now addr malloc =>
      if (map key).isSome ∨ malloc then map.set key now addr else map
  | .get _ _ => map
  | .cleanup => .empty

/-- The list of the entries after the call. -/
def HostCall.run (hosts : List HostEntry) : HostCall → List HostEntry
  | .set key now addr malloc => cacheSet hosts now malloc addr key
  | .get _ _ => hosts
  | .cleanup => []

/-! ## What the table holds -/

/-- The elements of the table are the entries, in their order, each with a key of its own. -/
structure HostStore.HoldsHosts (s : HostStore) (hosts : List HostEntry) (elems : List Nat) : Prop where
  table : Holds hashJen s.table elems
  hosts : hosts = elems.map s.hosts
  below : ∀ a ∈ elems, a < s.next
  keys : ∀ a ∈ elems, s.table.handles.key a = (s.hosts a).key
  single : ∀ a ∈ elems, ∀ b ∈ elems, (s.hosts a).key = (s.hosts b).key → a = b

section Calls

variable {s : HostStore} {hosts : List HostEntry} {elems : List Nat} {rounds : Nat}
  {key : HostTableKey}

/-- The entry that is found has the key, and is the one of the list. -/
theorem HostStore.HoldsHosts.find (holds : s.HoldsHosts hosts elems) (key : HostTableKey)
    (enough : elems.length ≤ rounds) :
    ∃ found, s.find rounds key = some found ∧ found.map s.hosts = hostEntryFind hosts key ∧
      ∀ a ∈ found, a ∈ elems ∧ (s.hosts a).key = key.bytes := by
  obtain ⟨found, finds, sound, complete⟩ := hashFind_holds holds.table key.bytes enough
  have listed : hostEntryFind hosts key =
      (elems.find? fun a => (s.hosts a).key = key.bytes).map s.hosts := by
    unfold hostEntryFind
    rw [holds.hosts, List.find?_map]
    rfl
  refine ⟨found, finds, ?_, fun a is_found => ?_⟩
  · rw [listed]
    cases found with
    | none =>
        refine congrArg (Option.map s.hosts) (List.find?_eq_none.mpr fun a member same => ?_).symm
        refine complete rfl a member ?_
        rw [holds.keys a member]
        exact of_decide_eq_true same
    | some a =>
        obtain ⟨member, key_a⟩ := sound a rfl
        rw [holds.keys a member] at key_a
        rcases first : elems.find? fun a => (s.hosts a).key = key.bytes with _ | b
        · exact absurd (decide_eq_true key_a) (List.find?_eq_none.mp first a member)
        · have key_b := of_decide_eq_true (List.find?_some (p := fun a =>
            decide ((s.hosts a).key = key.bytes)) first)
          rw [holds.single a member b (List.mem_of_find?_eq_some first) (key_a.trans key_b.symm)]
  · obtain ⟨member, key_a⟩ := sound a is_found
    rw [holds.keys a member] at key_a
    exact ⟨member, key_a⟩

theorem HostStore.HoldsHosts.get (holds : s.HoldsHosts hosts elems) (now : Int) (key : HostTableKey)
    (enough : elems.length ≤ rounds) : s.get rounds now key = some (cacheGet hosts now key) := by
  obtain ⟨found, finds, listed, -⟩ := holds.find key enough
  unfold HostStore.get cacheGet
  rw [finds, ← listed]
  cases found <;> rfl

/-- An entry that is in the table is written in its place. -/
theorem HostStore.HoldsHosts.store (holds : s.HoldsHosts hosts elems) {a : Nat} (member : a ∈ elems)
    (own : (s.hosts a).key = key.bytes) (now : Int) (addr : Sockaddr) :
    (s.store a now addr).HoldsHosts (upsert (fun host => host.key = key.bytes)
      (HostEntry.store now addr) ((HostEntry.new key).store now addr) hosts) elems := by
  have same (b : Nat) : ((s.store a now addr).hosts b).key = (s.hosts b).key := by
    unfold HostStore.store
    dsimp only
    rcases eq_or_ne b a with rfl | other
    · rw [Function.update_self]
      rfl
    · rw [Function.update_of_ne other]
  refine ⟨holds.table, ?_, holds.below, fun b there => ?_, fun b there c there' => ?_⟩
  · rw [holds.hosts]
    refine upsert_map holds.table.nodup member (decide_eq_true own) fun b there picked => ?_
    exact holds.single b there a member ((of_decide_eq_true picked).trans own.symm)
  · rw [same b]
    exact holds.keys b there
  · rw [same b, same c]
    exact holds.single b there c there'

/-- A new entry is the last. -/
theorem HostStore.HoldsHosts.add (holds : s.HoldsHosts hosts elems)
    (absent : hostEntryFind hosts key = none) (enough : elems.length < rounds) :
    ∃ s', s.add rounds key = some s' ∧ s'.hosts s.next = .new key ∧
      s'.HoldsHosts (hosts ++ [.new key]) (elems ++ [s.next]) := by
  have new : s.next ∉ elems := fun member => absurd (holds.below _ member) (Nat.lt_irrefl _)
  have old (b : Nat) (member : b ∈ elems) :
      Function.update s.hosts s.next (.new key) b = s.hosts b :=
    Function.update_of_ne (ne_of_mem_of_not_mem member new) ..
  have other (b : Nat) (member : b ∈ elems) : (s.hosts b).key ≠ key.bytes := by
    rw [holds.hosts] at absent
    intro same
    exact List.find?_eq_none.mp absent _ (List.mem_map_of_mem member) (decide_eq_true same)
  obtain ⟨t', added, table, keys⟩ := hashAdd_holds holds.table key.bytes new enough
  refine ⟨_, congrArg (Option.map _) added, Function.update_self .., table, ?_, fun b member => ?_,
    fun b member => ?_, fun b member c member' same => ?_⟩
  · dsimp only
    rw [List.map_append, List.map_singleton, Function.update_self, holds.hosts]
    exact congrArg (· ++ _) (List.map_congr_left fun b member => (old b member).symm)
  · rcases List.mem_append.mp member with before | last
    · exact Nat.lt_succ_of_lt (holds.below b before)
    · rw [List.mem_singleton.mp last]
      exact Nat.lt_succ_self _
  · dsimp only
    rw [keys]
    rcases List.mem_append.mp member with before | last
    · rw [old b before, Function.update_of_ne (ne_of_mem_of_not_mem before new)]
      exact holds.keys b before
    · rw [List.mem_singleton.mp last, Function.update_self, Function.update_self]
      rfl
  · dsimp only at same
    rcases List.mem_append.mp member with before | last <;>
      rcases List.mem_append.mp member' with before' | last'
    · rw [old b before, old c before'] at same
      exact holds.single b before c before' same
    · rw [old b before, List.mem_singleton.mp last', Function.update_self] at same
      exact absurd same (other b before)
    · rw [old c before', List.mem_singleton.mp last, Function.update_self] at same
      exact absurd same.symm (other c before')
    · rw [List.mem_singleton.mp last, List.mem_singleton.mp last']

theorem HostStore.HoldsHosts.set (holds : s.HoldsHosts hosts elems) (enough : elems.length < rounds)
    (now : Int) (malloc : Bool) (addr : Sockaddr) :
    ∃ s' elems', s.set rounds now malloc addr key = some s' ∧
      s'.HoldsHosts (cacheSet hosts now malloc addr key) elems' ∧ elems'.length ≤ elems.length + 1 := by
  obtain ⟨found, finds, listed, sound⟩ := holds.find key (Nat.le_of_lt enough)
  unfold HostStore.set cacheSet
  rw [finds, ← listed]
  cases found with
  | some a =>
      obtain ⟨member, own⟩ := sound a rfl
      have known : (Option.map s.hosts (some a)).isSome = true ∨ malloc = true := Or.inl rfl
      rw [if_pos known]
      exact ⟨_, elems, rfl, holds.store member own now addr, Nat.le_succ _⟩
  | none =>
      cases malloc with
      | false => exact ⟨s, elems, rfl, holds, Nat.le_succ _⟩
      | true =>
          obtain ⟨s', added, host, holds'⟩ := holds.add listed.symm enough
          have member : s.next ∈ elems ++ [s.next] := List.mem_append_right _ List.mem_cons_self
          have absent (host : HostEntry) (there : host ∈ hosts) :
              decide (host.key = key.bytes) = false :=
            Bool.eq_false_iff.mpr (List.find?_eq_none.mp listed.symm host there)
          have stored := holds'.store member (congrArg HostEntry.key host) now addr
          have own : decide ((HostEntry.new key).key = key.bytes) = true := decide_eq_true rfl
          rw [upsert_append absent, upsert, if_pos own] at stored
          refine ⟨s'.store s.next now addr, elems ++ [s.next], ?_, ?_,
            Nat.le_of_eq List.length_append⟩
          · dsimp only [Option.bind_eq_bind, Option.bind_some]
            rw [if_pos rfl, added]
            rfl
          · have last : upsert (fun host => host.key = key.bytes) (HostEntry.store now addr)
                ((HostEntry.new key).store now addr) hosts =
                  hosts ++ [(HostEntry.new key).store now addr] := by
              rw [← List.append_nil hosts, upsert_append absent, List.append_nil]
              rfl
            have allocated : (Option.map s.hosts none).isSome = true ∨ true = true := Or.inr rfl
            rw [if_pos allocated, last]
            exact stored

/-- A call does to the table what it does to the list of the entries. -/
theorem HostStore.HoldsHosts.call (holds : s.HoldsHosts hosts elems) (enough : elems.length < rounds)
    (call : HostCall) : ∃ s' elems', s.call rounds call = some s' ∧
      s'.HoldsHosts (call.run hosts) elems' ∧ elems'.length ≤ elems.length + 1 := by
  cases call with
  | set key now addr malloc => exact holds.set enough now malloc addr
  | get key now => exact ⟨s, elems, rfl, holds, Nat.le_succ _⟩
  | cleanup =>
      obtain ⟨t', drained, empty⟩ := hashDrain_holds holds.table (Nat.le_of_lt enough)
      exact ⟨_, [], congrArg (Option.map _) drained, ⟨empty, rfl, nofun, nofun, nofun⟩, Nat.zero_le _⟩

theorem HostStore.HoldsHosts.calls (holds : s.HoldsHosts hosts elems) (calls : List HostCall)
    (enough : elems.length + calls.length ≤ rounds) :
    ∃ s' elems', calls.foldlM (HostStore.call rounds) s = some s' ∧
      s'.HoldsHosts (calls.foldl HostCall.run hosts) elems' ∧ elems'.length ≤ rounds := by
  induction calls generalizing s hosts elems with
  | nil => exact ⟨s, elems, rfl, holds, enough⟩
  | cons call calls ih =>
      rw [List.length_cons] at enough
      obtain ⟨s₁, elems₁, called, holds₁, longer⟩ := holds.call (by omega : elems.length < rounds) call
      obtain ⟨s', elems', rest, holds', fits⟩ := ih holds₁ (by omega)
      refine ⟨s', elems', ?_, holds', fits⟩
      rw [List.foldlM_cons, called]
      exact rest

end Calls

/-! ## What the cache answers -/

section Represents

variable {hosts : List HostEntry} {map : ExpiringMap HostTableKey Sockaddr}

theorem Represents.isSome_iff (represents : Represents hosts map) (key : HostTableKey) :
    (hostEntryFind hosts key).isSome = (map key).isSome := by
  have same := congrArg Option.isSome (represents key)
  rwa [Option.isSome_map, Option.isSome_map] at same

theorem Represents.call (represents : Represents hosts map) (call : HostCall) :
    Represents (call.run hosts) (call.apply map) := by
  cases call with
  | set key now addr malloc =>
      unfold HostCall.run HostCall.apply
      dsimp only
      by_cases room : (map key).isSome ∨ malloc
      · have same : cacheSet hosts now malloc addr key = cacheSet hosts now true addr key := by
          unfold cacheSet
          rw [represents.isSome_iff, if_pos room, if_pos (Or.inr rfl)]
        rw [if_pos room, same]
        exact represents.set now addr key
      · unfold cacheSet
        rw [represents.isSome_iff, if_neg room, if_neg room]
        exact represents
  | get key now => exact represents
  | cleanup => exact fun _ => rfl

theorem Represents.calls (represents : Represents hosts map) (calls : List HostCall) :
    Represents (calls.foldl HostCall.run hosts) (calls.foldl HostCall.apply map) := by
  induction calls generalizing hosts map with
  | nil => exact represents
  | cons call calls ih => exact ih (represents.call call)

end Represents

/-- After any calls the hash table passes its check, and `addr_cache_get` answers what a map whose
entries expire does. -/
theorem hostStore_refines {rounds : Nat} {calls : List HostCall} (enough : calls.length ≤ rounds) :
    ∃ s, calls.foldlM (HostStore.call rounds) .init = some s ∧ hashFsck rounds s.table = true ∧
      ∀ now key, s.get rounds now key =
        some (((calls.foldl HostCall.apply .empty).get addrCacheTtl key now).map Sockaddr.answer) := by
  have start : HostStore.HoldsHosts .init [] [] := ⟨holds_nil .zero, rfl, nofun, nofun, nofun⟩
  have enough' : ([] : List Nat).length + calls.length ≤ rounds := by simpa using enough
  obtain ⟨s, elems, called, holds, fits⟩ := start.calls calls enough'
  have represents : Represents [] .empty := fun _ => rfl
  refine ⟨s, called, hashFsck_holds holds.table fits, fun now key => ?_⟩
  rw [holds.get now key fits, (represents.calls calls).get]

/-- Two hosts are learnt, one of them twice, and the cache is emptied before the second is again. -/
def learntTwice : List HostCall :=
  [.set ⟨1, 2, 3⟩ 10 (SockAddrIn.raw ⟨2, 4, 5⟩) true, .set ⟨1, 6, 3⟩ 11 (SockAddrIn.raw ⟨2, 7, 8⟩) true,
    .get ⟨1, 2, 3⟩ 12, .set ⟨1, 2, 3⟩ 13 (SockAddrIn.raw ⟨2, 9, 5⟩) false, .cleanup,
    .set ⟨1, 6, 3⟩ 14 (SockAddrIn.raw ⟨2, 7, 8⟩) true]

theorem hostStore_refines_learntTwice :
    ∃ s, learntTwice.foldlM (HostStore.call 6) .init = some s ∧ hashFsck 6 s.table = true ∧
      ∀ now key, s.get 6 now key =
        some (((learntTwice.foldl HostCall.apply .empty).get addrCacheTtl key now).map
          Sockaddr.answer) :=
  hostStore_refines (Nat.le_refl 6)

end IpxWrapper
