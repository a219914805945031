import IpxWrapper.Base.Bytes
import IpxWrapper.Base.Links

/-!
# Hash tables (`uthash.h`)

The sockets, the address cache and the nodes of the coalescer are each a hash table of uthash. An
element is a number here, and its handle is in the fields of `UtHashHandles`: the elements of a
table are linked in the order in which they were added, and those of a bucket are linked too. A
table doubles its buckets when one of them gets long, and deals the elements out anew.

The loops over a chain go round `rounds` times at most; the result is `none` if that is not
enough. The counters do not come near the size of an `unsigned`.
-/

namespace IpxWrapper

open Base

namespace UtHash

/-! ## `HASH_JEN` -/

/-- A `char` of the key at `i`, as an `unsigned`: `char` has a sign. -/
def keyChar (key : List Byte) (i : Nat) : UInt32 := (key.getD i 0).toInt8.toInt32.toUInt32

/-- Four of them from `i` on. -/
def keyWord (key : List Byte) (i : Nat) : UInt32 :=
  keyChar key i + (keyChar key (i + 1) <<< 8) + (keyChar key (i + 2) <<< 16) +
    (keyChar key (i + 3) <<< 24)

structure JenState where
  i : UInt32
  j : UInt32
  hashv : UInt32

/-- `HASH_JEN_MIX`. -/
def hashJenMix (s : JenState) : JenState :=
  let a := s.i - s.j - s.hashv ^^^ (s.hashv >>> 13)
  let b := s.j - s.hashv - a ^^^ (a <<< 8)
  let c := s.hashv - a - b ^^^ (b >>> 13)
  let a := a - b - c ^^^ (c >>> 12)
  let b := b - c - a ^^^ (a <<< 16)
  let c := c - a - b ^^^ (b >>> 5)
  let a := a - b - c ^^^ (c >>> 3)
  let b := b - c - a ^^^ (a <<< 10)
  let c := c - a - b ^^^ (b >>> 15)
  ⟨a, b, c⟩

/-- Twelve bytes of the key, from `i` on. -/
def hashJenBlock (key : List Byte) (s : JenState) (i : Nat) : JenState :=
  hashJenMix ⟨s.i + keyWord key i, s.j + keyWord key (i + 4), s.hashv + keyWord key (i + 8)⟩

/-- The `k` bytes that are left, from `i` on. -/
def hashJenRest (key : List Byte) (i k : Nat) (s : JenState) : JenState :=
  let part (n shift : Nat) : UInt32 :=
    if n < k then keyChar key (i + n) <<< UInt32.ofNat shift else 0
  { i := s.i + part 3 24 + part 2 16 + part 1 8 + part 0 0
    j := s.j + part 7 24 + part 6 16 + part 5 8 + part 4 0
    hashv := s.hashv + part 10 24 + part 9 16 + part 8 8 }

/-- `HASH_JEN`, which is `HASH_FCN`. -/
def hashJen (key : List Byte) : UInt32 :=
  let s := (List.range (key.length / 12)).foldl (fun s n => hashJenBlock key s (12 * n))
    ⟨0x9e3779b9, 0x9e3779b9, 0xfeedbeef⟩
  let s := { s with hashv := s.hashv + UInt32.ofNat key.length }
  (hashJenMix (hashJenRest key (12 * (key.length / 12)) (key.length % 12) s)).hashv

/-! ## Tables -/

/-- `UT_hash_handle`, of all elements: `app` has `prev` and `next`, `hh` has `hh_prev` and
`hh_next`. The key is that at `key`, of `keylen` bytes. -/
structure UtHashHandles where
  app : Links
  hh : Links
  key : Nat → List Byte
  hashv : Nat → UInt32

/-- `UT_hash_bucket`. -/
structure UtHashBucket where
  hhHead : Option Nat
  count : Nat
  expandMult : Nat

/-- A bucket after the `memset`. -/
def UtHashBucket.zero : UtHashBucket := ⟨none, 0, 0⟩

/-- `UT_hash_table`. -/
structure UtHashTable where
  buckets : Nat → UtHashBucket
  numBuckets : Nat
  log2NumBuckets : Nat
  numItems : Nat
  tail : Nat
  idealChainMaxlen : Nat
  nonidealItems : Nat
  ineffExpands : Nat
  noexpand : Bool

/-- What `head` is, with its table, and the handles. -/
structure HashTable where
  handles : UtHashHandles
  head : Option (Nat × UtHashTable)

/-- `HASH_TO_BKT`. -/
def hashToBkt (hashv : UInt32) (numBkts : Nat) : Nat := hashv.toNat &&& (numBkts - 1)

/-- `HASH_MAKE_TABLE`. -/
def hashMakeTable (head : Nat) : UtHashTable where
  buckets := fun _ => .zero
  numBuckets := 32
  log2NumBuckets := 5
  numItems := 0
  tail := head
  idealChainMaxlen := 0
  nonidealItems := 0
  ineffExpands := 0
  noexpand := false

/-! ## Finding -/

/-- `HASH_FIND_IN_BKT`, from `out` on. -/
def hashFindInBkt (h : UtHashHandles) (key : List Byte) : Nat → Option Nat → Option (Option Nat)
  | _, none => some none
  | 0, some _ => none
  | rounds + 1, some out =>
      if h.key out = key then some (some out) else hashFindInBkt h key rounds (h.hh.next out)

/-- `HASH_FIND`. -/
def hashFind (hash : List Byte → UInt32) (rounds : Nat) (key : List Byte) (t : HashTable) :
    Option (Option Nat) :=
  match t.head with
  | none => some none
  | some (_, tbl) =>
      hashFindInBkt t.handles key rounds (tbl.buckets (hashToBkt (hash key) tbl.numBuckets)).hhHead

/-! ## Adding -/

/-- What `HASH_EXPAND_BUCKETS` works on. -/
structure Expansion where
  hh : Links
  newBuckets : Nat → UtHashBucket
  nonidealItems : Nat

/-- The elements of one bucket, from `thh` on, go to `num` new buckets. -/
def expandBucket (hashv : Nat → UInt32) (num ideal : Nat) :
    Nat → Option Nat → Expansion → Option Expansion
  | _, none, e => some e
  | 0, some _, _ => none
  | rounds + 1, some thh, e =>
      let hhNxt := e.hh.next thh
      let bkt := hashToBkt (hashv thh) num
      let newbkt := e.newBuckets bkt
      let count := newbkt.count + 1
      expandBucket hashv num ideal rounds hhNxt
        { hh := e.hh.push newbkt.hhHead thh
          newBuckets := Function.update e.newBuckets bkt
            ⟨some thh, count, if ideal < count then count / ideal else newbkt.expandMult⟩
          nonidealItems := if ideal < count then e.nonidealItems + 1 else e.nonidealItems }

/-- `HASH_EXPAND_BUCKETS`. -/
def hashExpandBuckets (rounds : Nat) (hashv : Nat → UInt32) (hh : Links) (tbl : UtHashTable) :
    Option (Links × UtHashTable) :=
  let num := 2 * tbl.numBuckets
  let ideal := (tbl.numItems >>> (tbl.log2NumBuckets + 1)) +
    if tbl.numItems &&& (num - 1) ≠ 0 then 1 else 0
  ((List.range tbl.numBuckets).foldlM (fun e i =>
      expandBucket hashv num ideal rounds (tbl.buckets i).hhHead e)
    ⟨hh, fun _ => .zero, 0⟩).map fun e =>
      let ineff := if e.nonidealItems > tbl.numItems >>> 1 then tbl.ineffExpands + 1 else 0
      (e.hh, { tbl with
        buckets := e.newBuckets
        numBuckets := num
        log2NumBuckets := tbl.log2NumBuckets + 1
        idealChainMaxlen := ideal
        nonidealItems := e.nonidealItems
        ineffExpands := ineff
        noexpand := if ineff > 1 then true else tbl.noexpand })

/-- `HASH_BKT_CAPACITY_THRESH`. -/
def hashBktCapacityThresh : Nat := 10

/-- `HASH_ADD_TO_BKT`. -/
def hashAddToBkt (rounds : Nat) (hashv : Nat → UInt32) (hh : Links) (tbl : UtHashTable) (bkt add : Nat) :
    Option (Links × UtHashTable) :=
  let head := tbl.buckets bkt
  let count := head.count + 1
  let hh := hh.push head.hhHead add
  let tbl := { tbl with
    buckets := Function.update tbl.buckets bkt ⟨some add, count, head.expandMult⟩ }
  if (head.expandMult + 1) * hashBktCapacityThresh ≤ count ∧ tbl.noexpand = false then
    hashExpandBuckets rounds hashv hh tbl
  else
    some (hh, tbl)

/-- `HASH_ADD_KEYPTR`, up to the hash: the element is the last of the list of the table. -/
def hashLinkApp (add : Nat) (key : List Byte) (t : HashTable) : UtHashHandles × Nat × UtHashTable :=
  let handles := { t.handles with key := Function.update t.handles.key add key }
  match t.head with
  | none => ({ handles with app := handles.app.append none add }, add, hashMakeTable add)
  | some (head, tbl) =>
      ({ handles with app := handles.app.append (some tbl.tail) add }, head, { tbl with tail := add })

/-- `HASH_ADD_KEYPTR`. -/
def hashAdd (hash : List Byte → UInt32) (rounds add : Nat) (key : List Byte) (t : HashTable) :
    Option HashTable :=
  let (handles, head, tbl) := hashLinkApp add key t
  let tbl := { tbl with numItems := tbl.numItems + 1 }
  let hashv := Function.update handles.hashv add (hash key)
  (hashAddToBkt rounds hashv handles.hh tbl (hashToBkt (hash key) tbl.numBuckets) add).map
    fun (hh, tbl) => ⟨{ handles with hh := hh, hashv := hashv }, some (head, tbl)⟩

/-! ## Deleting -/

/-- `HASH_DEL_IN_BKT`. -/
def hashDelInBkt (hh : Links) (head : UtHashBucket) (del : Nat) : Links × UtHashBucket :=
  (hh.unlink del, { head with
    count := head.count - 1
    hhHead := if head.hhHead = some del then hh.next del else head.hhHead })

/-- `HASH_DELETE`; the element is in the table. -/
def hashDelete (del : Nat) (t : HashTable) : HashTable :=
  match t.head with
  | none => t
  | some (head, tbl) =>
      let prev := t.handles.app.prev del
      let next := t.handles.app.next del
      if prev = none ∧ next = none then
        { t with head := none }
      else
        let bkt := hashToBkt (t.handles.hashv del) tbl.numBuckets
        let (hh, bucket) := hashDelInBkt t.handles.hh (tbl.buckets bkt) del
        { handles := { t.handles with app := t.handles.app.unlink del, hh := hh }
          head := some (if prev.isNone then next.getD head else head,
            { tbl with
              tail := if del = tbl.tail then prev.getD tbl.tail else tbl.tail
              buckets := Function.update tbl.buckets bkt bucket
              numItems := tbl.numItems - 1 }) }

/-! ## Going through a table -/

/-- The elements that `HASH_ITER` comes to, from `el` on. -/
def hashIterFrom (app : Links) : Nat → Option Nat → Option (List Nat)
  | _, none => some []
  | 0, some _ => none
  | rounds + 1, some el => (hashIterFrom app rounds (app.next el)).map (el :: ·)

/-- `HASH_ITER`. -/
def hashIter (rounds : Nat) (t : HashTable) : Option (List Nat) :=
  hashIterFrom t.handles.app rounds (t.head.map Prod.fst)

/-- `HASH_ITER` with a body that deletes `el`, when it has come to `el`: the elements that are
deleted, and what is left. -/
def hashDrainFrom : Nat → Option Nat → Option Nat → HashTable → Option (List Nat × HashTable)
  | _, none, _, t => some ([], t)
  | 0, some _, _, _ => none
  | rounds + 1, some el, tmp, t =>
      let t := hashDelete el t
      (hashDrainFrom rounds tmp (tmp.bind t.handles.app.next) t).map fun (deleted, t) =>
        (el :: deleted, t)

/-- `HASH_ITER` with a body that deletes each element. -/
def hashDrain (rounds : Nat) (t : HashTable) : Option (List Nat × HashTable) :=
  let head := t.head.map Prod.fst
  hashDrainFrom rounds head (head.bind t.handles.app.next) t

/-- How many elements `HASH_FSCK` finds from `thh` on, if each is linked to the one before. -/
def fsckLinks (l : Links) : Nat → Option Nat → Option Nat → Option Nat
  | _, _, none => some 0
  | 0, _, some _ => none
  | rounds + 1, before, some thh =>
      if l.prev thh = before then (fsckLinks l rounds (some thh) (l.next thh)).map (· + 1) else none

/-- `HASH_FSCK` ends without an `HASH_OOPS`. -/
def hashFsck (rounds : Nat) (t : HashTable) : Bool :=
  match t.head with
  | none => true
  | some (head, tbl) =>
      ((List.range tbl.numBuckets).all fun i =>
        fsckLinks t.handles.hh rounds none (tbl.buckets i).hhHead = some (tbl.buckets i).count) &&
      ((List.range tbl.numBuckets).map fun i => (tbl.buckets i).count).sum = tbl.numItems &&
      fsckLinks t.handles.app rounds none (some head) = some tbl.numItems

end UtHash

end IpxWrapper
