import Mathlib.Algebra.Order.BigOperators.Group.List
import Mathlib.Algebra.Order.Group.Nat
import IpxWrapper.EnumProtocolsLayout

/-!
# What `EnumProtocols` returns (`winsock.c`)

The native call is taken to do what it is documented to: what it lists is in the buffer, or is
a name elsewhere, and the size that it sets covers what it used of the buffer. What
`do_EnumProtocols` lists then are the protocols that are not IPX, each once and with its name,
and those of IPX that are asked for; the names in the buffer lie behind the array and have no
byte in common (`doEnumProtocols_lists`). It has no memory for that but the buffer and the
block that it allocates, and where the native call fails otherwise, or there is no such block,
it fails with that error.
-/

namespace IpxWrapper

open Base

/-! ## Lists of protocols -/

/-- The name is within the `n` bytes at `a`. -/
def NamedInfo.Within (a n : Nat) (e : NamedInfo) : Prop :=
  a ≤ e.addr ∧ e.addr + e.name.length ≤ a + n

/-- A protocol as its caller sees it: its fields, its name, and the place of a name that is not
between `lo` and `hi`. -/
structure ShownProtocol where
  fields : ProtocolFields
  name : List Byte
  elsewhere : Option UInt32

def NamedInfo.shown (lo hi : Nat) (e : NamedInfo) : ShownProtocol :=
  ⟨e.info.fields, e.name, if e.In lo hi then none else some e.info.lpProtocol⟩

section Lists

variable {lo hi lo' hi' base base' : Nat} {e : NamedInfo} {es es' : List NamedInfo}

theorem namesIn_perm (perm : es.Perm es') : namesIn lo hi es = namesIn lo hi es' :=
  (perm.map _).sum_eq

theorem namesIn_others_le (es : List NamedInfo) :
    namesIn lo hi (EnumCall.others es) ≤ namesIn lo hi es := by
  induction es with
  | nil => exact Nat.le_refl _
  | cons e rest ih =>
      have more : namesIn lo hi rest ≤ namesIn lo hi (e :: rest) := Nat.le_add_left ..
      by_cases ipx : EnumCall.IsIpx e
      · rw [EnumCall.others_cons_of_ipx ipx]
        exact Nat.le_trans ih more
      · rw [EnumCall.others_cons_of_other ipx]
        exact Nat.add_le_add_left ih _

theorem mem_relocate (positive : ∀ e ∈ es, 0 < e.name.length)
    (below : base + namesIn lo hi es ≤ 4294967296) (member : e ∈ relocate lo hi base es) :
    e.Within base (namesIn lo hi es) ∨ e ∈ es ∧ ¬ e.In lo hi := by
  induction es generalizing base with
  | nil => cases member
  | cons first rest ih =>
      have long := positive first List.mem_cons_self
      have later := fun e member => positive e (List.mem_cons_of_mem first member)
      unfold relocate at member
      split at member
      · rename_i inside
        rw [namesIn_cons inside] at below ⊢
        rcases List.mem_cons.mp member with rfl | after
        · have addr : (first.moveTo base).addr = base := NamedInfo.moveTo_addr (by omega)
          refine .inl ⟨Nat.le_of_eq addr.symm, ?_⟩
          rw [addr]
          exact Nat.add_le_add_left (Nat.le_add_right ..) base
        · rcases ih later (by omega) after with ⟨above, within⟩ | ⟨old, outside⟩
          · exact .inl ⟨by omega, by omega⟩
          · exact .inr ⟨List.mem_cons_of_mem first old, outside⟩
      · rename_i outside
        rw [namesIn_cons_of_not outside] at below ⊢
        rcases List.mem_cons.mp member with rfl | after
        · exact .inr ⟨List.mem_cons_self, outside⟩
        · exact (ih later below after).imp_right fun old =>
            ⟨List.mem_cons_of_mem first old.1, old.2⟩

/-- Names that are moved twice are where the second move puts them. -/
theorem relocate_relocate (base base' : Nat) (positive : ∀ e ∈ es, 0 < e.name.length) (first : lo' ≤ base)
    (last : base + namesIn lo hi es ≤ hi') (below : base + namesIn lo hi es ≤ 4294967296)
    (stay : ∀ e ∈ es, ¬ e.In lo hi → ¬ e.In lo' hi') :
    relocate lo' hi' base' (relocate lo hi base es) = relocate lo hi base' es ∧
      namesIn lo' hi' (relocate lo hi base es) = namesIn lo hi es := by
  induction es generalizing base base' with
  | nil => exact ⟨rfl, rfl⟩
  | cons e rest ih =>
      have long := positive e List.mem_cons_self
      have later := fun e' member => positive e' (List.mem_cons_of_mem e member)
      have stay' := fun e' member => stay e' (List.mem_cons_of_mem e member)
      by_cases inside : e.In lo hi
      · rw [namesIn_cons inside] at last below ⊢
        have addr : (e.moveTo base).addr = base := NamedInfo.moveTo_addr (by omega)
        have moved : (e.moveTo base).In lo' hi' := ⟨by omega, by omega⟩
        obtain ⟨twice, size⟩ := ih (base + e.name.length) (base' + e.name.length) later (by omega) (by omega) (by omega) stay'
        have step : relocate lo hi base (e :: rest) =
            e.moveTo base :: relocate lo hi (base + e.name.length) rest := if_pos inside
        rw [step, namesIn_cons moved, size]
        refine ⟨?_, rfl⟩
        have step' : relocate lo hi base' (e :: rest) =
            e.moveTo base' :: relocate lo hi (base' + e.name.length) rest := if_pos inside
        rw [step', ← twice]
        exact if_pos moved
      · rw [namesIn_cons_of_not inside] at last below ⊢
        have stays := stay e List.mem_cons_self inside
        obtain ⟨twice, size⟩ := ih base base' later first last below stay'
        have step (b : Nat) : relocate lo hi b (e :: rest) = e :: relocate lo hi b rest :=
          if_neg inside
        rw [step, step, namesIn_cons_of_not stays, size, ← twice]
        exact ⟨if_neg stays, rfl⟩

theorem namesIn_append : namesIn lo hi (es ++ es') = namesIn lo hi es + namesIn lo hi es' := by
  unfold namesIn
  rw [List.map_append, List.sum_append]

theorem relocate_append : relocate lo hi base (es ++ es') =
    relocate lo hi base es ++ relocate lo hi (base + namesIn lo hi es) es' := by
  induction es generalizing base with
  | nil => rfl
  | cons e rest ih =>
      rw [List.cons_append]
      by_cases inside : e.In lo hi
      · have step (l : List NamedInfo) : relocate lo hi base (e :: l) =
            e.moveTo base :: relocate lo hi (base + e.name.length) l := if_pos inside
        rw [step, step, ih, namesIn_cons inside, List.cons_append, Nat.add_assoc]
      · have step (l : List NamedInfo) : relocate lo hi base (e :: l) =
            e :: relocate lo hi base l := if_neg inside
        rw [step, step, ih, namesIn_cons_of_not inside, List.cons_append]

theorem relocate_of_none (base : Nat) (stay : ∀ e ∈ es, ¬ e.In lo hi) :
    relocate lo hi base es = es ∧ namesIn lo hi es = 0 := by
  induction es with
  | nil => exact ⟨rfl, rfl⟩
  | cons e rest ih =>
      have outside := stay e List.mem_cons_self
      obtain ⟨same, none'⟩ := ih fun e' member => stay e' (List.mem_cons_of_mem e member)
      refine ⟨?_, (namesIn_cons_of_not outside).trans none'⟩
      exact (if_neg outside).trans (congrArg (e :: ·) same)

/-- What has been moved in a region is seen as it was. -/
theorem relocate_shown (positive : ∀ e ∈ es, 0 < e.name.length) (first : lo ≤ base)
    (last : base + namesIn lo hi es ≤ hi) (below : base + namesIn lo hi es ≤ 4294967296) :
    (relocate lo hi base es).map (NamedInfo.shown lo hi) = es.map (NamedInfo.shown lo hi) := by
  induction es generalizing base with
  | nil => rfl
  | cons e rest ih =>
      have long := positive e List.mem_cons_self
      have later := fun e' member => positive e' (List.mem_cons_of_mem e member)
      unfold relocate
      split
      · rename_i inside
        rw [namesIn_cons inside] at last below
        have addr : (e.moveTo base).addr = base := NamedInfo.moveTo_addr (by omega)
        have moved : (e.moveTo base).In lo hi := ⟨by omega, by omega⟩
        rw [List.map_cons, List.map_cons, ih later (by omega) (by omega) (by omega)]
        refine congrArg (· :: _) ?_
        unfold NamedInfo.shown
        rw [if_pos moved, if_pos inside]
        rfl
      · rename_i outside
        rw [namesIn_cons_of_not outside] at last below
        rw [List.map_cons, List.map_cons, ih later first last below]

/-- Two names have no byte in common, if both are between `lo` and `hi`. -/
def NoOverlap (lo hi : Nat) (e e' : NamedInfo) : Prop :=
  e.In lo hi → e'.In lo hi → Separate e.addr e.name.length e'.addr e'.name.length

theorem relocate_apart (positive : ∀ e ∈ es, 0 < e.name.length)
    (below : base + namesIn lo hi es ≤ 4294967296) :
    (relocate lo hi base es).Pairwise (NoOverlap lo hi) := by
  induction es generalizing base with
  | nil => exact .nil
  | cons e rest ih =>
      have long := positive e List.mem_cons_self
      have later := fun e' member => positive e' (List.mem_cons_of_mem e member)
      unfold relocate
      split
      · rename_i inside
        rw [namesIn_cons inside] at below
        refine .cons (fun e' member => ?_) (ih later (by omega))
        intro _ inside'
        rcases mem_relocate later (by omega) member with within | old
        · have addr : (e.moveTo base).addr = base := NamedInfo.moveTo_addr (by omega)
          rw [addr]
          exact .inl within.1
        · exact absurd inside' old.2
      · rename_i outside
        rw [namesIn_cons_of_not outside] at below
        exact .cons (fun e' _ inside => absurd inside outside) (ih later below)

end Lists

namespace EnumCall

variable {c : EnumCall} {es : List NamedInfo}

section Added

variable {lo hi base : Nat} {ps : List OurProtocol} {e : NamedInfo}

theorem nameBytes_pos (c : EnumCall) (p : OurProtocol) : 0 < (c.nameBytes p).length := by
  rw [length_nameBytes]
  exact Nat.mul_pos (Nat.succ_pos _) c.width_pos

/-- How the caller sees a protocol that has been added. -/
def ours (c : EnumCall) (p : OurProtocol) : ShownProtocol := ⟨p.fields, c.nameBytes p, none⟩

theorem placed_addr (c : EnumCall) (p : OurProtocol) (small : base < 4294967296) :
    (⟨⟨p.fields, UInt32.ofNat base⟩, c.nameBytes p⟩ : NamedInfo).addr = base :=
  NamedInfo.moveTo_addr (e := ⟨⟨p.fields, 0⟩, c.nameBytes p⟩) small

theorem mem_placed (below : base + c.newNames ps ≤ 4294967296) (member : e ∈ c.placed base ps) :
    e.Within base (c.newNames ps) := by
  induction ps generalizing base with
  | nil => cases member
  | cons p rest ih =>
      have long := c.nameBytes_pos p
      rw [newNames_cons] at below ⊢
      rcases List.mem_cons.mp member with rfl | after
      · have addr := placed_addr c p (by omega : base < 4294967296)
        refine ⟨Nat.le_of_eq addr.symm, ?_⟩
        rw [addr]
        exact Nat.add_le_add_left (Nat.le_add_right ..) base
      · obtain ⟨above, within⟩ := ih (by omega) after
        exact ⟨by omega, by omega⟩

theorem placed_pos (member : e ∈ c.placed base ps) : 0 < e.name.length := by
  induction ps generalizing base with
  | nil => cases member
  | cons p rest ih =>
      rcases List.mem_cons.mp member with rfl | after
      · exact c.nameBytes_pos p
      · exact ih after

theorem placed_length : (c.placed base ps).length = ps.length := by
  induction ps generalizing base with
  | nil => rfl
  | cons p rest ih =>
      unfold placed
      rw [List.length_cons, List.length_cons, ih]

theorem placed_apart (below : base + c.newNames ps ≤ 4294967296) :
    (c.placed base ps).Pairwise (NoOverlap lo hi) := by
  induction ps generalizing base with
  | nil => exact .nil
  | cons p rest ih =>
      have long := c.nameBytes_pos p
      rw [newNames_cons] at below
      refine .cons (fun e' member _ _ => ?_) (ih (by omega))
      have addr := placed_addr c p (by omega : base < 4294967296)
      rw [addr]
      exact .inl (mem_placed (by omega) member).1

theorem placed_shown (first : lo ≤ base) (last : base + c.newNames ps ≤ hi)
    (below : hi ≤ 4294967296) :
    (c.placed base ps).map (NamedInfo.shown lo hi) = ps.map c.ours := by
  induction ps generalizing base with
  | nil => rfl
  | cons p rest ih =>
      have long := c.nameBytes_pos p
      rw [newNames_cons] at last
      have addr := placed_addr c p (by omega : base < 4294967296)
      have inside : (⟨⟨p.fields, UInt32.ofNat base⟩, c.nameBytes p⟩ : NamedInfo).In lo hi :=
        ⟨by omega, by omega⟩
      unfold placed
      rw [List.map_cons, List.map_cons, ih (by omega) (by omega)]
      refine congrArg (· :: _) ?_
      unfold NamedInfo.shown ours
      rw [if_pos inside]

end Added

/-! ## Sizes -/

/-- What is needed for the protocols of the native call, which sets `size`, and for those that
are added. -/
def fullSize (c : EnumCall) (size : UInt32) : Nat :=
  size.toNat + (protocolInfoSize * c.added.length + c.newNames c.added)

/-- The native call has not more than the addresses of a process, of which the first are none. -/
def largest : Nat := 0xFFFF0000

theorem growSize_foldl (ps : List OurProtocol) (size : UInt32)
    (small : size.toNat + (protocolInfoSize * ps.length + c.newNames ps) < 4294967296) :
    (ps.foldl c.growSize size).toNat =
      size.toNat + (protocolInfoSize * ps.length + c.newNames ps) := by
  induction ps generalizing size with
  | nil => rfl
  | cons p rest ih =>
      rw [newNames_cons, List.length_cons, Nat.mul_succ] at small ⊢
      have grown : (c.growSize size p).toNat =
          size.toNat + (protocolInfoSize + (c.nameBytes p).length) := by
        unfold growSize
        rw [← length_nameBytes, UInt32.toNat_add, UInt32.toNat_ofNat']
        omega
      rw [List.foldl_cons, ih _ (by rw [grown]; omega), grown]
      omega

theorem added_small (c : EnumCall) :
    protocolInfoSize * c.added.length + c.newNames c.added ≤ 126 := by
  have names (ps : List OurProtocol) (sub : ps.Sublist ourProtocols) :
      c.newNames ps ≤ c.newNames ourProtocols :=
    List.Sublist.sum_le_sum (sub.map _) fun _ _ => Nat.zero_le _
  have sub : c.added.Sublist ourProtocols := List.filter_sublist
  have count : c.added.length ≤ 3 := sub.length_le
  have all : c.newNames ourProtocols ≤ 30 := by
    unfold newNames ourProtocols
    simp only [List.map_cons, List.map_nil, List.sum_cons, List.sum_nil, length_nameBytes]
    unfold width ipxProtocol spxProtocol spxIIProtocol
    split <;> decide
  have some' := names c.added sub
  unfold protocolInfoSize
  omega

theorem fullSize_eq {size : UInt32} (small : size.toNat ≤ largest) :
    (c.added.foldl c.growSize size).toNat = c.fullSize size := by
  have more := c.added_small
  refine growSize_foldl c.added size ?_
  unfold largest at small
  omega

theorem listAsks_iff {nsproto : Int} {list : List Int} :
    listAsks nsproto list = true ↔ nsproto ∈ list.takeWhile (· ≠ 0) := by
  induction list with
  | nil => exact iff_of_false Bool.false_ne_true List.not_mem_nil
  | cons p rest ih =>
      unfold listAsks
      by_cases last : p = 0
      · rw [if_pos last, List.takeWhile_cons_of_neg (by simpa using last)]
        exact iff_of_false Bool.false_ne_true List.not_mem_nil
      · rw [if_neg last, List.takeWhile_cons_of_pos (by simpa using last), Bool.or_eq_true, ih,
          decide_eq_true_iff, List.mem_cons, eq_comm]

/-- What is added is what is asked for, before the 0 that ends the list; without one it is all. -/
theorem mem_added {p : OurProtocol} : p ∈ c.added ↔
    p ∈ ourProtocols ∧ ∀ list ∈ c.protocols, p.nsproto ∈ list.takeWhile (· ≠ 0) := by
  unfold added wants
  rw [List.mem_filter]
  refine and_congr_right fun _ => ?_
  cases c.protocols with
  | none => exact iff_of_true rfl nofun
  | some list => exact listAsks_iff.trans (by simp)

theorem added_nonzero {p : OurProtocol} (member : p ∈ c.added) : ∀ char ∈ p.name, char ≠ 0 := by
  have ours : p ∈ ourProtocols := List.mem_of_mem_filter member
  rcases List.mem_cons.mp ours with rfl | ours
  · simp [ipxProtocol]
  rcases List.mem_cons.mp ours with rfl | ours
  · simp [spxProtocol]
  obtain rfl := List.mem_singleton.mp ours
  simp [spxIIProtocol]

/-! ## The native call -/

abbrev bufEnd (c : EnumCall) : Nat := c.buf + c.bufsize.toNat

/-- What the native call lists: `es` with their names, each in the buffer, behind the array, or
elsewhere. The size that it sets covers the array and the names in the buffer. -/
structure NativeList (c : EnumCall) (rval : Nat) (size : UInt32) (m : Mem) (es : List NamedInfo) :
    Prop where
  count : es.length = rval
  entries : EntriesAt c.width m c.buf 0 es
  inside : ∀ e ∈ es, e.In c.buf c.bufEnd →
    infoAt c.buf rval ≤ e.addr ∧ e.addr + e.name.length ≤ c.bufEnd
  outside : ∀ e ∈ es, ¬ e.In c.buf c.bufEnd → Separate e.addr e.name.length c.buf c.bufsize.toNat
  used : protocolInfoSize * rval + namesIn c.buf c.bufEnd es ≤ size.toNat
  fits : size.toNat ≤ c.bufsize.toNat

/-- The block has none of the memory that is in use. -/
structure FreshBlock (c : EnumCall) (es : List NamedInfo) (block n : Nat) : Prop where
  below : block + n ≤ 4294967296
  buffer : Separate block n c.buf c.bufsize.toNat
  names : ∀ e ∈ es, ¬ e.In c.buf c.bufEnd → Separate e.addr e.name.length block n

def NativeEnum.size : NativeEnum → UInt32
  | .failed _ size => size
  | .listed _ size _ => size

/-- The system does in the call what it is documented to do. -/
structure Sound (c : EnumCall) (es : List NamedInfo) : Prop where
  memory : c.bufEnd ≤ 4294967296
  size : (NativeEnum.size c.native).toNat ≤ largest
  listed : ∀ rval size m, c.native = .listed rval size m → c.NativeList rval size m es
  malloc : ∀ n block, c.malloc n = some block → c.FreshBlock es block n

/-- The size of the block for the names. -/
def movedSize (c : EnumCall) (es : List NamedInfo) : Nat := namesIn c.buf c.bufEnd (others es)

/-! ## What is listed -/

/-- What is listed in the end: `es` without IPX, and what is added. The names in the buffer are
behind the array and have no byte in common; memory changes only in the buffer and in the
block that is allocated meanwhile. -/
structure Lists (c : EnumCall) (es : List NamedInfo) (m m' : Mem) (list : List NamedInfo) : Prop where
  entries : EntriesAt c.width m' c.buf 0 list
  protocols : (list.map (NamedInfo.shown c.buf c.bufEnd)).Perm
    ((others es).map (NamedInfo.shown c.buf c.bufEnd) ++ c.added.map c.ours)
  array : protocolInfoSize * list.length ≤ c.bufsize.toNat
  behind : ∀ e ∈ list, e.In c.buf c.bufEnd →
    infoAt c.buf list.length ≤ e.addr ∧ e.addr + e.name.length ≤ c.bufEnd
  apart : list.Pairwise (NoOverlap c.buf c.bufEnd)
  writes : ∃ block, c.malloc (c.movedSize es) = some block ∧
    SameBut (fun k => Region c.buf c.bufsize.toNat k ∨ Region block (c.movedSize es) k) m m'

section Stages

variable {m m' : Mem} {rval block n : Nat} {size : UInt32} {kept : List NamedInfo}

theorem NativeList.positive (list : c.NativeList rval size m es) {e : NamedInfo} (member : e ∈ es) :
    0 < e.name.length := by
  have all {i : Nat} {es : List NamedInfo} (entries : EntriesAt c.width m c.buf i es) :
      ∀ e ∈ es, 0 < e.name.length := by
    induction es generalizing i with
    | nil => nofun
    | cons first rest ih =>
        intro e member
        rcases List.mem_cons.mp member with rfl | after
        · exact Nat.lt_of_lt_of_le c.width_pos entries.1.str.le_length
        · exact ih entries.2 e after
  exact all list.entries e member

/-- The array is in the buffer. -/
theorem NativeList.array_region (list : c.NativeList rval size m es) {k : Nat} (le : n ≤ rval)
    (part : c.arrayPart 0 n k) : Region c.buf c.bufsize.toNat k := by
  have used := list.used
  have fits := list.fits
  unfold arrayPart Region infoAt protocolInfoSize at *
  omega

/-- No native name is in the array. -/
theorem NativeList.clear_array (list : c.NativeList rval size m es) {e : NamedInfo}
    (member : e ∈ es) (le : n ≤ rval) : Clear (c.arrayPart 0 n) e.addr e.name.length := by
  by_cases inside : e.In c.buf c.bufEnd
  · have behind := (list.inside e member inside).1
    intro k name part
    unfold arrayPart Region infoAt protocolInfoSize at *
    omega
  · exact fun k name part =>
      (list.outside e member inside).clear k name (list.array_region le part)

/-- The names in the buffer are moved to the block. -/
theorem NativeList.moveOut (list : c.NativeList rval size m es)
    (entries : EntriesAt c.width m' c.buf 0 kept) (sub : ∀ e ∈ kept, e ∈ es)
    (few : kept.length ≤ rval)
    (fresh : c.FreshBlock es block (namesIn c.buf c.bufEnd kept)) :
    EntriesAt c.width (c.moveNames c.buf c.bufEnd kept.length 0 block m') c.buf 0
        (relocate c.buf c.bufEnd block kept) ∧
      (∀ e ∈ relocate c.buf c.bufEnd block kept,
        Separate e.addr e.name.length c.buf c.bufsize.toNat) ∧
      SameBut (fun k => Region c.buf c.bufsize.toNat k ∨
        Region block (namesIn c.buf c.bufEnd kept) k) m'
        (c.moveNames c.buf c.bufEnd kept.length 0 block m') := by
  have array (k : Nat) (part : c.arrayPart 0 kept.length k) : Region c.buf c.bufsize.toNat k :=
    list.array_region few part
  have clear_block (e : NamedInfo) (member : e ∈ kept) :
      Clear (Region block (namesIn c.buf c.bufEnd kept)) e.addr e.name.length := by
    by_cases inside : e.In c.buf c.bufEnd
    · have first : c.buf ≤ e.addr := inside.1
      have last : e.addr + e.name.length ≤ c.buf + c.bufsize.toNat :=
        (list.inside e (sub e member) inside).2
      have buffer := fresh.buffer
      refine Separate.clear ?_
      unfold Separate at buffer ⊢
      omega
    · exact (fresh.names e (sub e member) inside).clear
  have clear (e : NamedInfo) (member : e ∈ kept) :
      Clear (c.arrayPart 0 kept.length) e.addr e.name.length ∧
        Clear (Region block (namesIn c.buf c.bufEnd kept)) e.addr e.name.length :=
    ⟨list.clear_array (sub e member) few, clear_block e member⟩
  obtain ⟨moved, same⟩ := moveNames_entries c.buf c.bufEnd block entries clear
    (fun k dest part => fresh.buffer.clear k dest (array k part)) fresh.below
  refine ⟨moved, fun e member => ?_, same.mono fun k => Or.imp_left (array k)⟩
  rcases mem_relocate (fun e member => list.positive (sub e member)) fresh.below member with
    ⟨above, within⟩ | ⟨old, outside⟩
  · have buffer := fresh.buffer
    unfold Separate at buffer ⊢
    omega
  · exact list.outside e (sub e old) outside

/-- Where the names of the protocols that are added begin. -/
def nameBase (c : EnumCall) (kept : List NamedInfo) : Nat :=
  infoAt c.buf (kept.length + c.added.length)

/-- What is listed, with the names of `kept` behind the new ones. -/
def finalList (c : EnumCall) (kept : List NamedInfo) : List NamedInfo :=
  relocate c.buf c.bufEnd (c.nameBase kept + c.newNames c.added) kept ++
    c.placed (c.nameBase kept) c.added

/-- There is room for the array, the new names and those of `kept`. -/
def Room (c : EnumCall) (kept : List NamedInfo) : Prop :=
  c.nameBase kept + c.newNames c.added + namesIn c.buf c.bufEnd kept ≤ c.bufEnd

/-- The array of the result is in the buffer. -/
theorem Room.array_region (room : c.Room kept) {k : Nat}
    (part : c.arrayPart 0 (kept.length + c.added.length) k) : Region c.buf c.bufsize.toNat k := by
  have last : c.nameBase kept + c.newNames c.added + namesIn c.buf c.bufEnd kept ≤
      c.buf + c.bufsize.toNat := room
  unfold nameBase at last
  unfold arrayPart Region infoAt protocolInfoSize at *
  omega

theorem clear_behind {a k : Nat} (behind : c.nameBase kept ≤ a) :
    Clear (c.arrayPart 0 (kept.length + c.added.length)) a k := by
  intro i inside part
  unfold nameBase at behind
  unfold arrayPart Region infoAt protocolInfoSize at *
  omega

/-- The protocols are added; the names of the others are not in the buffer meanwhile. -/
theorem Room.added (room : c.Room kept) (memory : c.bufEnd ≤ 4294967296) {aside : List NamedInfo}
    (length : aside.length = kept.length) (entries : EntriesAt c.width m c.buf 0 aside)
    (away : ∀ e ∈ aside, Separate e.addr e.name.length c.buf c.bufsize.toNat)
    {s : Adding} (adds : c.added.foldl c.addProtocol ⟨m, kept.length, c.nameBase kept⟩ = s) :
    s.rval = kept.length + c.added.length ∧ s.nameBase = c.nameBase kept + c.newNames c.added ∧
      EntriesAt c.width s.mem c.buf 0 (aside ++ c.placed (c.nameBase kept) c.added) ∧
      SameBut (Region c.buf c.bufsize.toNat) m s.mem := by
  have last : c.nameBase kept + c.newNames c.added + namesIn c.buf c.bufEnd kept ≤
      c.buf + c.bufsize.toNat := room
  have news (k : Nat) (inside : Region (c.nameBase kept) (c.newNames c.added) k) :
      Region c.buf c.bufsize.toNat k := by
    have first : c.buf ≤ c.nameBase kept := Nat.le_add_right ..
    exact ⟨Nat.le_trans first inside.1, by have := inside.2; omega⟩
  have clear (e : NamedInfo) (member : e ∈ aside) :
      Clear (c.arrayPart 0 (kept.length + c.added.length)) e.addr e.name.length ∧
        Clear (Region (c.nameBase kept) (c.newNames c.added)) e.addr e.name.length :=
    ⟨fun k name part => (away e member).clear k name (room.array_region part),
      fun k name inside => (away e member).clear k name (news k inside)⟩
  obtain ⟨rval, base, added, same⟩ := addProtocols_entries (s := ⟨m, kept.length, c.nameBase kept⟩)
    (fun p member => added_nonzero member) entries length.symm
    (congrArg (· + c.added.length) length) clear (clear_behind (Nat.le_refl _))
    (Nat.le_trans (Nat.le_trans (Nat.le_add_right ..) last) memory)
  rw [adds] at rval base added same
  exact ⟨rval, base, added, same.mono fun k inside => inside.elim room.array_region (news k)⟩

/-- The names in the block are moved behind the new ones. -/
theorem Room.moveBack (room : c.Room kept) (memory : c.bufEnd ≤ 4294967296)
    (positive : ∀ e ∈ kept, 0 < e.name.length)
    (fresh : c.FreshBlock kept block (namesIn c.buf c.bufEnd kept))
    (away : ∀ e ∈ relocate c.buf c.bufEnd block kept,
      Separate e.addr e.name.length c.buf c.bufsize.toNat)
    (entries : EntriesAt c.width m c.buf 0
      (relocate c.buf c.bufEnd block kept ++ c.placed (c.nameBase kept) c.added)) :
    EntriesAt c.width (c.moveNames block (block + namesIn c.buf c.bufEnd kept)
        (kept.length + c.added.length) 0 (c.nameBase kept + c.newNames c.added) m) c.buf 0
        (c.finalList kept) ∧
      SameBut (Region c.buf c.bufsize.toNat) m
        (c.moveNames block (block + namesIn c.buf c.bufEnd kept)
          (kept.length + c.added.length) 0 (c.nameBase kept + c.newNames c.added) m) := by
  have last : c.nameBase kept + c.newNames c.added + namesIn c.buf c.bufEnd kept ≤
      c.buf + c.bufsize.toNat := room
  have first : c.buf ≤ c.nameBase kept := Nat.le_add_right ..
  have below : c.nameBase kept + c.newNames c.added + namesIn c.buf c.bufEnd kept ≤ 4294967296 :=
    Nat.le_trans last memory
  have buffer := fresh.buffer
  have stays (e : NamedInfo) (member : e ∈ kept) (outside : ¬ e.In c.buf c.bufEnd) :
      ¬ e.In block (block + namesIn c.buf c.bufEnd kept) := by
    have apart := fresh.names e member outside
    have long := positive e member
    unfold Separate NamedInfo.In at *
    omega
  have new (e : NamedInfo) (member : e ∈ c.placed (c.nameBase kept) c.added) :
      e.Within (c.nameBase kept) (c.newNames c.added) := mem_placed (by omega) member
  have new_stays (e : NamedInfo) (member : e ∈ c.placed (c.nameBase kept) c.added) :
      ¬ e.In block (block + namesIn c.buf c.bufEnd kept) := by
    obtain ⟨above, within⟩ := new e member
    have long := placed_pos member
    unfold Separate at buffer
    unfold NamedInfo.In
    omega
  obtain ⟨twice, size⟩ := relocate_relocate block (c.nameBase kept + c.newNames c.added) positive
    (Nat.le_refl block) (Nat.le_refl _) fresh.below stays
  obtain ⟨same_new, none_new⟩ := relocate_of_none
    (c.nameBase kept + c.newNames c.added + namesIn c.buf c.bufEnd kept) new_stays
  have total : namesIn block (block + namesIn c.buf c.bufEnd kept)
      (relocate c.buf c.bufEnd block kept ++ c.placed (c.nameBase kept) c.added) =
      namesIn c.buf c.bufEnd kept := by
    rw [namesIn_append, size, none_new, Nat.add_zero]
  have length : (relocate c.buf c.bufEnd block kept ++ c.placed (c.nameBase kept) c.added).length =
      kept.length + c.added.length := by
    rw [List.length_append, relocate_length, placed_length]
  have list : relocate block (block + namesIn c.buf c.bufEnd kept)
      (c.nameBase kept + c.newNames c.added)
      (relocate c.buf c.bufEnd block kept ++ c.placed (c.nameBase kept) c.added) =
      c.finalList kept := by
    rw [relocate_append, twice, size, same_new]
    rfl
  have dest (k : Nat) (inside : Region (c.nameBase kept + c.newNames c.added)
      (namesIn c.buf c.bufEnd kept) k) : Region c.buf c.bufsize.toNat k := by
    unfold Region at *
    omega
  have clear (e : NamedInfo)
      (member : e ∈ relocate c.buf c.bufEnd block kept ++ c.placed (c.nameBase kept) c.added) :
      Clear (c.arrayPart 0 (kept.length + c.added.length)) e.addr e.name.length ∧
        Clear (Region (c.nameBase kept + c.newNames c.added) (namesIn c.buf c.bufEnd kept))
          e.addr e.name.length := by
    rcases List.mem_append.mp member with old | is_new
    · exact ⟨fun k name part => (away e old).clear k name (room.array_region part),
        fun k name inside => (away e old).clear k name (dest k inside)⟩
    · obtain ⟨above, within⟩ := new e is_new
      exact ⟨clear_behind above, Separate.clear (.inl within)⟩
  have moved := moveNames_entries block (block + namesIn c.buf c.bufEnd kept)
    (c.nameBase kept + c.newNames c.added) entries
  rw [total, list, length] at moved
  obtain ⟨final, same⟩ := moved clear (clear_behind (Nat.le_add_right ..)) below
  exact ⟨final, same.mono fun k inside => inside.elim room.array_region (dest k)⟩

theorem finalList_length : (c.finalList kept).length = kept.length + c.added.length := by
  unfold finalList
  rw [List.length_append, relocate_length, placed_length]

/-- What the final list shows, and where. -/
theorem Room.lists (room : c.Room kept) (memory : c.bufEnd ≤ 4294967296)
    (positive : ∀ e ∈ kept, 0 < e.name.length) (perm : kept.Perm (others es))
    (entries : EntriesAt c.width m' c.buf 0 (c.finalList kept))
    (writes : ∃ block, c.malloc (c.movedSize es) = some block ∧
      SameBut (fun k => Region c.buf c.bufsize.toNat k ∨ Region block (c.movedSize es) k) m m') :
    c.Lists es m m' (c.finalList kept) := by
  have last : c.nameBase kept + c.newNames c.added + namesIn c.buf c.bufEnd kept ≤
      c.buf + c.bufsize.toNat := room
  have first : c.buf ≤ c.nameBase kept := Nat.le_add_right ..
  have below : c.nameBase kept + c.newNames c.added + namesIn c.buf c.bufEnd kept ≤ 4294967296 :=
    Nat.le_trans last memory
  have old (e : NamedInfo) (member : e ∈ relocate c.buf c.bufEnd
      (c.nameBase kept + c.newNames c.added) kept) (inside : e.In c.buf c.bufEnd) :
      e.Within (c.nameBase kept + c.newNames c.added) (namesIn c.buf c.bufEnd kept) :=
    (mem_relocate positive below member).resolve_right fun stays => stays.2 inside
  have new (e : NamedInfo) (member : e ∈ c.placed (c.nameBase kept) c.added) :
      e.Within (c.nameBase kept) (c.newNames c.added) := mem_placed (by omega) member
  refine ⟨entries, ?protocols, ?array, fun e member inside => ?behind, ?apart, writes⟩
  case protocols =>
    unfold finalList
    rw [List.map_append, relocate_shown positive (by omega) last below,
      placed_shown first (by unfold bufEnd; omega) memory]
    exact (perm.map _).append_right _
  case array =>
    rw [finalList_length]
    unfold nameBase infoAt at last
    omega
  case behind =>
    rw [finalList_length]
    rcases List.mem_append.mp member with moved | is_new
    · obtain ⟨above, within⟩ := old e moved inside
      exact ⟨Nat.le_trans (Nat.le_add_right ..) above, Nat.le_trans within last⟩
    · obtain ⟨above, within⟩ := new e is_new
      exact ⟨above, by unfold bufEnd; omega⟩
  case apart =>
    refine List.pairwise_append.mpr ⟨relocate_apart positive below, placed_apart (by omega), ?_⟩
    intro e moved e' is_new inside _
    exact .inr (Nat.le_trans (new e' is_new).2 (old e moved inside).1)

/-- What there is room for in the buffer of the native call. -/
theorem NativeList.room (list : c.NativeList rval size m es) (perm : kept.Perm (others es))
    (fits : c.fullSize size ≤ c.bufsize.toNat) : c.Room kept := by
  have used := list.used
  have names : namesIn c.buf c.bufEnd kept ≤ namesIn c.buf c.bufEnd es :=
    (namesIn_perm perm).trans_le (namesIn_others_le es)
  have count : kept.length ≤ rval := by
    rw [perm.length_eq, ← list.count]
    exact List.length_filter_le ..
  unfold fullSize at fits
  unfold Room nameBase infoAt bufEnd protocolInfoSize at *
  omega

end Stages

/-! ## Results -/

/-- For want of room it fails, with the size that is needed; else it lists. -/
def Fills (c : EnumCall) (es : List NamedInfo) : EnumResult → Prop
  | .failed error size =>
      error = ERROR_INSUFFICIENT_BUFFER ∧ size.toNat = c.fullSize (NativeEnum.size c.native) ∧
        (c.bufsize.toNat < c.fullSize (NativeEnum.size c.native) ∨
          ∃ size, c.native = .failed ERROR_INSUFFICIENT_BUFFER size)
  | .listed rval size m' =>
      size.toNat = c.fullSize (NativeEnum.size c.native) ∧
        ∃ rval₀ size₀ m list, c.native = .listed rval₀ size₀ m ∧ list.length = rval ∧
          c.Lists es m m' list

/-- It fails as the native call does, or for want of memory for the names in the buffer. -/
def FailsOtherwise (c : EnumCall) (es : List NamedInfo) : EnumResult → Prop
  | .failed error size =>
      c.native = .failed error size ∧ error ≠ ERROR_INSUFFICIENT_BUFFER ∨
        error = ERROR_OUTOFMEMORY ∧ c.malloc (c.movedSize es) = none
  | .listed _ _ _ => False

theorem doEnumProtocols_lists (sound : c.Sound es) :
    c.Fills es c.doEnumProtocols ∨ c.FailsOtherwise es c.doEnumProtocols := by
  have full (size : UInt32) (same : NativeEnum.size c.native = size) :
      (c.added.foldl c.growSize size).toNat = c.fullSize size := fullSize_eq (same ▸ sound.size)
  unfold doEnumProtocols
  cases native : c.native with
  | failed error size =>
      have grown := full size (congrArg NativeEnum.size native)
      have needed : NativeEnum.size c.native = size := congrArg NativeEnum.size native
      dsimp only
      split
      · rename_i other
        exact .inr (.inl ⟨native, other⟩)
      · rename_i same
        obtain rfl := not_not.mp same
        refine .inl ?_
        split
        · exact ⟨rfl, needed ▸ grown, .inr ⟨size, native⟩⟩
        · exact ⟨rfl, needed ▸ grown, .inr ⟨size, native⟩⟩
  | listed rval size m =>
      have grown := full size (congrArg NativeEnum.size native)
      have needed : NativeEnum.size c.native = size := congrArg NativeEnum.size native
      dsimp only
      split
      · rename_i large
        have more : c.bufsize.toNat < c.fullSize size := by
          rw [← grown]
          exact UInt32.lt_iff_toNat_lt.mp large
        exact .inl ⟨rfl, needed ▸ grown, .inl (needed ▸ more)⟩
      · rename_i small
        have fits : c.fullSize size ≤ c.bufsize.toNat := by
          rw [← grown]
          exact Nat.not_lt.mp fun large => small (UInt32.lt_iff_toNat_lt.mpr large)
        have list := sound.listed rval size m native
        obtain ⟨kept, m₁, removed, perm, entries₁, same₁⟩ := removeIpx_entries list.entries
          fun e member => list.clear_array member (Nat.le_of_eq list.count)
        rw [list.count] at removed same₁
        have sub (e : NamedInfo) (member : e ∈ kept) : e ∈ es :=
          List.mem_of_mem_filter (perm.mem_iff.mp member)
        have positive (e : NamedInfo) (member : e ∈ kept) : 0 < e.name.length :=
          list.positive (sub e member)
        have few : kept.length ≤ rval := by
          rw [perm.length_eq, ← list.count]
          exact List.length_filter_le ..
        have room := list.room perm fits
        have moved : namesIn c.buf c.bufEnd kept = c.movedSize es := namesIn_perm perm
        have names : c.namesSize c.buf (c.buf + c.bufsize.toNat) m₁ kept.length 0 =
            c.movedSize es := by
          rw [← moved]
          refine namesSize_eq entries₁ fun e member inside => ?_
          have last := (list.inside e (sub e member) inside).2
          have memory := sound.memory
          omega
        rw [removed]
        dsimp only
        rw [Nat.zero_add, names]
        cases block : c.malloc (c.movedSize es) with
        | none => exact .inr (.inr ⟨rfl, block⟩)
        | some nameBuf =>
            have fresh := sound.malloc _ _ block
            rw [← moved] at fresh
            obtain ⟨entries₂, away, same₂⟩ := list.moveOut entries₁ sub few fresh
            obtain ⟨count, base, entries₃, same₃⟩ :=
              room.added sound.memory relocate_length entries₂ away rfl
            obtain ⟨entries₄, same₄⟩ := room.moveBack sound.memory positive
              ⟨fresh.below, fresh.buffer, fun e member => fresh.names e (sub e member)⟩ away entries₃
            rw [moved] at *
            refine .inl ⟨needed ▸ grown, rval, size, m, c.finalList kept, native, ?_, ?_⟩
            · rw [finalList_length]
              exact count.symm
            · have array (k : Nat) (part : c.arrayPart 0 rval k) :
                  Region c.buf c.bufsize.toNat k := list.array_region (Nat.le_refl rval) part
              have all := (same₁.mono fun k part => Or.inl (array k part)).trans (same₂.trans
                ((same₃.trans same₄).mono fun k inside => Or.inl inside))
              have result := room.lists sound.memory positive perm entries₄ ⟨nameBuf, block, all⟩
              rw [← count, ← base] at result
              exact result

/-- A TCP protocol, with its name in the buffer at some distance from the array. -/
def tcpInfo : NamedInfo := ⟨⟨⟨1, 2, 16, 16, 1, 6, 0⟩, 65636⟩, [0x54, 0x43, 0x50, 0]⟩

def tcpCall : EnumCall where
  protocols := none
  buf := 65536
  bufsize := 400
  unicode := false
  native := .listed 1 36 ((writeInfo (fun _ => 0) 65536 tcpInfo.info).write 65636 tcpInfo.name)
  malloc n := if n ≤ 4096 then some 131072 else none

theorem tcpCall_sound : tcpCall.Sound [tcpInfo] := by
  have outside : ∀ e ∈ [tcpInfo], ¬ e.In tcpCall.buf tcpCall.bufEnd →
      Separate e.addr e.name.length tcpCall.buf tcpCall.bufsize.toNat := by decide
  refine ⟨by decide, by decide, fun rval size m native => ?_, fun n block allocated => ?_⟩
  · obtain ⟨rfl, rfl, rfl⟩ := NativeEnum.listed.inj native
    refine ⟨rfl, ⟨⟨?_, write_holds _ _ _, [[0x54], [0x43], [0x50]], by decide, rfl⟩, trivial⟩,
      by decide, outside, by decide, by decide⟩
    exact (readInfo_sameBut write_sameBut (Separate.clear (.inl (by decide)))).trans
      (readInfo_writeInfo _ _ tcpInfo.info)
  · unfold tcpCall at allocated
    dsimp only at allocated
    split at allocated
    · rename_i small
      obtain rfl := Option.some.inj allocated
      refine ⟨by omega, .inr (by decide), fun e member away => absurd ?_ away⟩
      obtain rfl := List.mem_singleton.mp member
      decide
    · cases allocated

theorem doEnumProtocols_lists_tcp :
    tcpCall.Fills [tcpInfo] tcpCall.doEnumProtocols ∨
      tcpCall.FailsOtherwise [tcpInfo] tcpCall.doEnumProtocols :=
  doEnumProtocols_lists tcpCall_sound

/-- An error of the native call is returned as it is. -/
theorem doEnumProtocols_netDown :
    ¬ ∀ (c : EnumCall) (es : List NamedInfo), c.Sound es → c.Fills es c.doEnumProtocols := by
  intro fills
  have sound : { tcpCall with native := .failed WSAENETDOWN 0 }.Sound [] := by
    refine ⟨by decide, by decide, nofun, fun n block allocated => ?_⟩
    have fresh := tcpCall_sound.malloc n block allocated
    exact ⟨fresh.below, fresh.buffer, nofun⟩
  have failed := (fills _ [] sound).1
  exact absurd failed (by decide)

end EnumCall

end IpxWrapper
