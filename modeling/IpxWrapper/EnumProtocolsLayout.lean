import IpxWrapper.EnumProtocols

/-!
# Where `EnumProtocols` puts names (`winsock.c`)

What is in the buffer is a list of protocols with their names (`EntriesAt`). Each loop of
`do_EnumProtocols` changes that list as a function on lists does: it takes the IPX protocols
out, gives those with a name in a region a new place for it (`relocate`), or adds one. What a
loop needs is that no name lies where it writes.
-/

namespace IpxWrapper

open Base

/-! ## A `PROTOCOL_INFO` in memory -/

section Info

variable {m m' : Mem} {a b : Nat} {info : ProtocolInfo}

theorem dword_of_holds {values : List UInt32} {i : Nat} {v : UInt32}
    (holds : m.Holds a (dwordBytes values)) (at_i : values[i]? = some v) :
    dword m (a + 4 * i) = v := by
  induction values generalizing a i with
  | nil => cases at_i
  | cons first rest ih =>
      have both : m.Holds a (leBytes first.toNat 4 ++ dwordBytes rest) := holds
      cases i with
      | zero =>
          obtain rfl := Option.some.inj at_i
          have read := le_of_holds (first.toNat_lt : first.toNat < 256 ^ 4) both.left
          unfold dword
          rw [Nat.mul_zero, Nat.add_zero, read, UInt32.ofNat_toNat]
      | succ i =>
          have after := both.right
          rw [length_leBytes] at after
          have read := ih after at_i
          rwa [Nat.add_assoc, Nat.add_comm 4, ← Nat.mul_succ] at read

theorem readInfo_of_holds (holds : m.Holds a (infoBytes info)) : readInfo m a = info := by
  have dwServiceFlags : dword m a = info.fields.dwServiceFlags :=
    dword_of_holds (i := 0) holds rfl
  have iAddressFamily : dword m (a + 4) = info.fields.iAddressFamily :=
    dword_of_holds (i := 1) holds rfl
  have iMaxSockAddr : dword m (a + 8) = info.fields.iMaxSockAddr :=
    dword_of_holds (i := 2) holds rfl
  have iMinSockAddr : dword m (a + 12) = info.fields.iMinSockAddr :=
    dword_of_holds (i := 3) holds rfl
  have iSocketType : dword m (a + 16) = info.fields.iSocketType :=
    dword_of_holds (i := 4) holds rfl
  have iProtocol : dword m (a + 20) = info.fields.iProtocol :=
    dword_of_holds (i := 5) holds rfl
  have dwMessageSize : dword m (a + 24) = info.fields.dwMessageSize :=
    dword_of_holds (i := 6) holds rfl
  have lpProtocol : dword m (a + 28) = info.lpProtocol := dword_of_holds (i := 7) holds rfl
  unfold readInfo
  rw [dwServiceFlags, iAddressFamily, iMaxSockAddr, iMinSockAddr, iSocketType, iProtocol,
    dwMessageSize, lpProtocol]

theorem length_infoBytes (info : ProtocolInfo) : (infoBytes info).length = protocolInfoSize := rfl

theorem readInfo_writeInfo (m : Mem) (a : Nat) (info : ProtocolInfo) :
    readInfo (writeInfo m a info) a = info :=
  readInfo_of_holds (write_holds m a (infoBytes info))

theorem writeInfo_sameBut : SameBut (Region a protocolInfoSize) m (writeInfo m a info) := by
  rw [← length_infoBytes info]
  exact write_sameBut

/-- It is a function of its bytes. -/
theorem readInfo_congr (same : ∀ i < protocolInfoSize, m' (a + i) = m (b + i)) :
    readInfo m' a = readInfo m b := by
  have field (i : Nat) (inside : i + 4 ≤ protocolInfoSize) : dword m' (a + i) = dword m (b + i) := by
    unfold dword
    refine congrArg UInt32.ofNat (le_congr fun j lt => ?_)
    rw [Nat.add_assoc, Nat.add_assoc]
    exact same (i + j) (by omega)
  unfold readInfo
  rw [field 4 (by decide), field 8 (by decide), field 12 (by decide), field 16 (by decide),
    field 20 (by decide), field 24 (by decide), field 28 (by decide)]
  have first := field 0 (by decide)
  rw [Nat.add_zero, Nat.add_zero] at first
  rw [first]

theorem readInfo_sameBut {R : Nat → Prop} (same : SameBut R m m')
    (clear : Clear R a protocolInfoSize) : readInfo m' a = readInfo m a :=
  readInfo_congr fun i lt => same (a + i) (clear _ ⟨Nat.le_add_right a i, by omega⟩)

theorem readInfo_copy (m : Mem) (a b : Nat) :
    readInfo (m.copy a b protocolInfoSize) a = readInfo m b := by
  refine readInfo_congr fun i lt => ?_
  have written := write_holds m a (m.slice b protocolInfoSize)
  exact written.agree (m.slice_holds b protocolInfoSize) (by rwa [Mem.length_slice])

theorem copy_sameBut {n : Nat} : SameBut (Region a n) m (m.copy a b n) := by
  have same : SameBut (Region a (m.slice b n).length) m (m.copy a b n) := write_sameBut
  rwa [Mem.length_slice] at same

theorem infoAt_succ (pinfo i : Nat) : infoAt pinfo (i + 1) = infoAt pinfo i + protocolInfoSize :=
  rfl

end Info

/-! ## Protocols with their names -/

structure NamedInfo where
  info : ProtocolInfo
  name : List Byte

/-- The address of the name. -/
def NamedInfo.addr (e : NamedInfo) : Nat := e.info.lpProtocol.toNat

/-- The protocol is at `a`, and its name where it says. -/
structure EntryAt (w : Nat) (m : Mem) (a : Nat) (e : NamedInfo) : Prop where
  info : readInfo m a = e.info
  name : m.Holds e.addr e.name
  str : IsStr w e.name

/-- The protocols are in the array at `pinfo`, from the `i`th on. -/
def EntriesAt (w : Nat) (m : Mem) (pinfo : Nat) : Nat → List NamedInfo → Prop
  | _, [] => True
  | i, e :: rest => EntryAt w m (infoAt pinfo i) e ∧ EntriesAt w m pinfo (i + 1) rest

section Entries

variable {w : Nat} {m m' : Mem} {R : Nat → Prop} {pinfo i a : Nat} {e : NamedInfo}
  {es es' : List NamedInfo}

theorem EntryAt.sameBut (entry : EntryAt w m a e) (same : SameBut R m m')
    (array : Clear R a protocolInfoSize) (name : Clear R e.addr e.name.length) : EntryAt w m' a e :=
  ⟨(readInfo_sameBut same array).trans entry.info, entry.name.sameBut same name, entry.str⟩

theorem EntriesAt.sameBut (entries : EntriesAt w m pinfo i es) (same : SameBut R m m')
    (array : Clear R (infoAt pinfo i) (protocolInfoSize * es.length))
    (names : ∀ e ∈ es, Clear R e.addr e.name.length) : EntriesAt w m' pinfo i es := by
  induction es generalizing i with
  | nil => trivial
  | cons e rest ih =>
      rw [List.length_cons, Nat.mul_succ] at array
      obtain ⟨here, after⟩ := entries
      refine ⟨here.sameBut same (fun k inside => array k ?_) (names e List.mem_cons_self),
        ih after (fun k inside => array k ?_) fun e' member =>
          names e' (List.mem_cons_of_mem e member)⟩
      · unfold Region at inside ⊢
        omega
      · rw [infoAt_succ] at inside
        unfold Region at inside ⊢
        omega

theorem entriesAt_append : EntriesAt w m pinfo i (es ++ es') ↔
    EntriesAt w m pinfo i es ∧ EntriesAt w m pinfo (i + es.length) es' := by
  induction es generalizing i with
  | nil => exact (and_iff_right trivial).symm
  | cons e rest ih =>
      rw [List.cons_append, EntriesAt, EntriesAt, ih, and_assoc, List.length_cons,
        Nat.add_assoc, Nat.add_comm 1]

end Entries

/-! ## Moving names -/

/-- The name is between `lo` and `hi`. -/
def NamedInfo.In (lo hi : Nat) (e : NamedInfo) : Prop := lo ≤ e.addr ∧ e.addr < hi

instance (lo hi : Nat) (e : NamedInfo) : Decidable (e.In lo hi) :=
  inferInstanceAs (Decidable (_ ∧ _))

/-- The name has been moved to `base`. -/
def NamedInfo.moveTo (base : Nat) (e : NamedInfo) : NamedInfo :=
  { e with info := { e.info with lpProtocol := UInt32.ofNat base } }

/-- The names between `lo` and `hi` are one after the other from `base` on. -/
def relocate (lo hi : Nat) : Nat → List NamedInfo → List NamedInfo
  | _, [] => []
  | base, e :: rest =>
      if e.In lo hi then e.moveTo base :: relocate lo hi (base + e.name.length) rest
      else e :: relocate lo hi base rest

/-- The size of the names between `lo` and `hi`. -/
def namesIn (lo hi : Nat) (es : List NamedInfo) : Nat :=
  (es.map fun e => if e.In lo hi then e.name.length else 0).sum

section Relocate

variable {lo hi base : Nat} {e : NamedInfo} {es es' : List NamedInfo}

theorem NamedInfo.moveTo_addr (small : base < 4294967296) : (e.moveTo base).addr = base := by
  unfold NamedInfo.moveTo NamedInfo.addr
  rw [UInt32.toNat_ofNat']
  omega

theorem namesIn_cons (inside : e.In lo hi) :
    namesIn lo hi (e :: es) = e.name.length + namesIn lo hi es := by
  unfold namesIn
  rw [List.map_cons, List.sum_cons, if_pos inside]

theorem namesIn_cons_of_not (outside : ¬ e.In lo hi) :
    namesIn lo hi (e :: es) = namesIn lo hi es := by
  unfold namesIn
  rw [List.map_cons, List.sum_cons, if_neg outside, Nat.zero_add]

theorem relocate_length : (relocate lo hi base es).length = es.length := by
  induction es generalizing base with
  | nil => rfl
  | cons e rest ih =>
      unfold relocate
      split
      · rw [List.length_cons, List.length_cons, ih]
      · rw [List.length_cons, List.length_cons, ih]

end Relocate

namespace EnumCall

variable {c : EnumCall} {m m' : Mem} {i base lo hi : Nat} {e : NamedInfo} {es : List NamedInfo}

/-! ## The removal of IPX -/

def IsIpx (e : NamedInfo) : Prop := e.info.fields.iAddressFamily = AF_IPX.toUInt32

instance (e : NamedInfo) : Decidable (IsIpx e) := inferInstanceAs (Decidable (_ = _))

/-- What is not IPX. -/
def others (es : List NamedInfo) : List NamedInfo := es.filter fun e => ¬ IsIpx e

theorem others_cons_of_ipx (ipx : IsIpx e) : others (e :: es) = others es := by
  refine List.filter_cons_of_neg ?_
  rw [decide_eq_true_iff]
  exact not_not_intro ipx

theorem others_cons_of_other (other : ¬ IsIpx e) : others (e :: es) = e :: others es :=
  List.filter_cons_of_pos (decide_eq_true other)

/-- The addresses of the protocols in the array, `k` from the `i`th on. -/
abbrev arrayPart (c : EnumCall) (i k : Nat) : Nat → Prop :=
  Region (infoAt c.buf i) (protocolInfoSize * k)

theorem arrayPart_first {k n : Nat} (inside : Region (infoAt c.buf i) protocolInfoSize k) :
    c.arrayPart i (n + 1) k := by
  unfold arrayPart Region protocolInfoSize at *
  omega

theorem arrayPart_rest {k n : Nat} (inside : c.arrayPart (i + 1) n k) : c.arrayPart i (n + 1) k := by
  unfold arrayPart Region infoAt protocolInfoSize at *
  omega

theorem arrayPart_mono {j k n : Nat} (le : j ≤ n) (inside : c.arrayPart i j k) :
    c.arrayPart i n k := by
  unfold arrayPart Region protocolInfoSize at *
  omega

theorem clear_first {n : Nat} : Clear (c.arrayPart (i + 1) n) (infoAt c.buf i) protocolInfoSize := by
  intro k inside after
  unfold arrayPart Region infoAt protocolInfoSize at *
  omega

theorem clear_rest {n : Nat} :
    Clear (Region (infoAt c.buf i) protocolInfoSize) (infoAt c.buf (i + 1)) (protocolInfoSize * n) := by
  intro k inside first
  unfold Region infoAt protocolInfoSize at *
  omega

/-- The last protocol comes in the place of the first. -/
theorem replaceFirst_entries {e last : NamedInfo} {init : List NamedInfo}
    (entries : EntriesAt c.width m c.buf i (e :: (init ++ [last])))
    (names : ∀ e' ∈ init ++ [last], Clear (c.arrayPart i (init.length + 2)) e'.addr e'.name.length) :
    EntriesAt c.width
      (m.copy (infoAt c.buf i) (infoAt c.buf (i + (init.length + 1))) protocolInfoSize) c.buf i
      (last :: init) := by
  obtain ⟨-, rest⟩ := entries
  obtain ⟨rest, entry, -⟩ := entriesAt_append.mp rest
  have clear (e' : NamedInfo) (member : e' ∈ init ++ [last]) :
      Clear (Region (infoAt c.buf i) protocolInfoSize) e'.addr e'.name.length :=
    fun k inside written => names e' member k inside (arrayPart_first written)
  have place : i + 1 + init.length = i + (init.length + 1) := by omega
  rw [place] at entry
  refine ⟨⟨(readInfo_copy ..).trans entry.info,
    entry.name.sameBut copy_sameBut (clear last ?_), entry.str⟩,
    rest.sameBut copy_sameBut clear_rest fun e' member => clear e' (List.mem_append_left _ member)⟩
  exact List.mem_append_right _ (List.mem_singleton_self last)

/-- The protocols that are left are the others, each once. -/
theorem removeIpx_entries (entries : EntriesAt c.width m c.buf i es)
    (names : ∀ e ∈ es, Clear (c.arrayPart i es.length) e.addr e.name.length) :
    ∃ kept m', c.removeIpx es.length i m = (m', i + kept.length) ∧ kept.Perm (others es) ∧
      EntriesAt c.width m' c.buf i kept ∧ SameBut (c.arrayPart i es.length) m m' := by
  induction hk : es.length generalizing i m es with
  | zero =>
      obtain rfl := List.length_eq_zero_iff.mp hk
      exact ⟨[], m, rfl, .refl _, trivial, .refl⟩
  | succ k ih =>
      obtain ⟨e, rest, rfl⟩ := List.exists_cons_of_length_eq_add_one hk
      have length : rest.length = k := Nat.succ.inj hk
      rw [hk] at names
      have info := entries.1.info
      unfold removeIpx
      rw [info]
      split
      · rename_i ipx
        rw [others_cons_of_ipx ipx]
        have written : SameBut (c.arrayPart i (k + 1)) m
            (m.copy (infoAt c.buf i) (infoAt c.buf (i + k)) protocolInfoSize) :=
          copy_sameBut.mono fun _ => arrayPart_first
        rcases List.eq_nil_or_concat rest with rfl | ⟨init, last, rfl⟩
        · subst length
          exact ⟨[], _, rfl, .refl _, trivial, written⟩
        · rw [List.concat_eq_append] at *
          rw [List.length_append, List.length_singleton] at length
          subst length
          have moved := replaceFirst_entries entries fun e' member =>
            names e' (List.mem_cons_of_mem e member)
          have turned : (last :: init).Perm (init ++ [last]) :=
            (List.perm_append_singleton last init).symm
          have shorter (a : Nat) (part : c.arrayPart i (init.length + 1) a) :
              c.arrayPart i (init.length + 1 + 1) a := arrayPart_mono (Nat.le_succ _) part
          obtain ⟨kept, m', removed, perm, left, same⟩ := ih moved (fun e' member a inside part =>
            names e' (List.mem_cons_of_mem e (turned.mem_iff.mp member)) a inside (shorter a part)) rfl
          exact ⟨kept, m', removed, perm.trans (turned.filter _), left,
            written.trans (same.mono shorter)⟩
      · rename_i other
        obtain ⟨kept, m', removed, perm, left, same⟩ := ih entries.2 (fun e' member a inside part =>
          names e' (List.mem_cons_of_mem e member) a inside
            (arrayPart_rest (length ▸ part))) length
        rw [removed, others_cons_of_other other]
        refine ⟨e :: kept, m', ?_, perm.cons e, ⟨entries.1.sameBut same clear_first ?_, left⟩,
          same.mono fun a part => arrayPart_rest part⟩
        · rw [List.length_cons, Nat.add_assoc, Nat.add_comm 1]
        · exact fun a inside part => names e List.mem_cons_self a inside (arrayPart_rest part)

/-! ## The loops over names -/

theorem width_pos (c : EnumCall) : 0 < c.width := by
  unfold width
  split
  · exact Nat.two_pos
  · exact Nat.one_pos

theorem strsize_entry {a : Nat} (entry : EntryAt c.width m a e)
    (short : e.name.length ≤ 4294967296) : c.strsize m e.addr = e.name.length :=
  strsizeFrom_eq c.width_pos entry.str entry.name short

theorem namesSize_eq (entries : EntriesAt c.width m c.buf i es)
    (short : ∀ e ∈ es, e.In lo hi → e.name.length ≤ 4294967296) :
    c.namesSize lo hi m es.length i = namesIn lo hi es := by
  induction es generalizing i with
  | nil => rfl
  | cons e rest ih =>
      obtain ⟨entry, after⟩ := entries
      have later := ih after fun e' member => short e' (List.mem_cons_of_mem e member)
      rw [List.length_cons, namesSize, entry.info]
      by_cases inside : e.In lo hi
      · rw [namesIn_cons inside, ← later,
          ← strsize_entry entry (short e List.mem_cons_self inside)]
        exact if_pos inside
      · rw [namesIn_cons_of_not inside, ← later]
        exact if_neg inside

/-- What is written when a name is moved. -/
theorem moveName_entry {a : Nat} (entry : EntryAt c.width m a e)
    (array : Clear (Region a protocolInfoSize) base e.name.length) (small : base < 4294967296) :
    EntryAt c.width (writeInfo (m.copy base e.addr e.name.length) a (e.moveTo base).info) a
      (e.moveTo base) := by
  refine ⟨readInfo_writeInfo .., ?_, entry.str⟩
  rw [NamedInfo.moveTo_addr small]
  have copied : (m.copy base e.addr e.name.length).Holds base e.name := by
    unfold Mem.copy
    rw [entry.name.slice]
    exact write_holds m base e.name
  exact copied.sameBut writeInfo_sameBut array

/-- The names are moved, one after the other. -/
theorem moveNames_entries (lo hi base : Nat) (entries : EntriesAt c.width m c.buf i es)
    (names : ∀ e ∈ es, Clear (c.arrayPart i es.length) e.addr e.name.length ∧
      Clear (Region base (namesIn lo hi es)) e.addr e.name.length)
    (array : Clear (c.arrayPart i es.length) base (namesIn lo hi es))
    (below : base + namesIn lo hi es ≤ 4294967296) :
    EntriesAt c.width (c.moveNames lo hi es.length i base m) c.buf i (relocate lo hi base es) ∧
      SameBut (fun k => c.arrayPart i es.length k ∨ Region base (namesIn lo hi es) k) m
        (c.moveNames lo hi es.length i base m) := by
  induction es generalizing i base m with
  | nil => exact ⟨trivial, .refl⟩
  | cons e rest ih =>
      obtain ⟨entry, after⟩ := entries
      rw [List.length_cons] at names array ⊢
      unfold moveNames relocate
      rw [entry.info]
      by_cases inside : e.In lo hi
      · rw [namesIn_cons inside] at names array below ⊢
        have positive : 0 < e.name.length :=
          Nat.lt_of_lt_of_le c.width_pos entry.str.le_length
        have size : c.strsize m e.info.lpProtocol.toNat = e.name.length :=
          strsize_entry entry (by omega)
        have first : Clear (Region (infoAt c.buf i) protocolInfoSize) base e.name.length :=
          fun k dest part => array k dest.left (arrayPart_first part)
        have moved := moveName_entry entry first (by omega)
        have written : SameBut (fun k => Region (infoAt c.buf i) protocolInfoSize k ∨
            Region base e.name.length k) m
            (writeInfo (m.copy base e.addr e.name.length) (infoAt c.buf i) (e.moveTo base).info) :=
          (copy_sameBut.mono fun _ => Or.inr).trans (writeInfo_sameBut.mono fun _ => Or.inl)
        have rest_entries := after.sameBut written
          (clear_rest.or fun k part dest => array k dest.left (arrayPart_rest part))
          fun e' member => by
            have clear := names e' (List.mem_cons_of_mem e member)
            exact Clear.or (fun k name part => clear.1 k name (arrayPart_first part))
              fun k name dest => clear.2 k name dest.left
        obtain ⟨entries', same⟩ := ih (base + e.name.length) rest_entries (fun e' member => by
          have clear := names e' (List.mem_cons_of_mem e member)
          exact ⟨fun k name part => clear.1 k name (arrayPart_rest part),
            fun k name dest => clear.2 k name dest.right⟩)
          (fun k dest part => array k dest.right (arrayPart_rest part)) (by omega)
        dsimp only
        rw [if_pos (show lo ≤ e.info.lpProtocol.toNat ∧ e.info.lpProtocol.toNat < hi from inside),
          if_pos inside, size]
        refine ⟨⟨moved.sameBut same ?_ ?_, entries'⟩, ?_⟩
        · exact clear_first.or fun k part dest => array k dest.right (arrayPart_first part)
        · rw [NamedInfo.moveTo_addr (by omega)]
          exact Clear.or (fun k dest part => array k dest.left (arrayPart_rest part)) clear_left
        · refine (written.mono fun k inside => ?_).trans (same.mono fun k inside => ?_)
          · exact inside.imp arrayPart_first Region.left
          · exact inside.imp arrayPart_rest Region.right
      · rw [namesIn_cons_of_not inside] at names array below ⊢
        obtain ⟨entries', same⟩ := ih base after (fun e' member => by
          have clear := names e' (List.mem_cons_of_mem e member)
          exact ⟨fun k name part => clear.1 k name (arrayPart_rest part), clear.2⟩)
          (fun k dest part => array k dest (arrayPart_rest part)) below
        dsimp only
        rw [if_neg (show ¬ (lo ≤ e.info.lpProtocol.toNat ∧ e.info.lpProtocol.toNat < hi) from inside),
          if_neg inside]
        have clear := names e List.mem_cons_self
        refine ⟨⟨entry.sameBut same ?_ ?_, entries'⟩, same.mono fun k => Or.imp_left arrayPart_rest⟩
        · exact clear_first.or fun k part dest => array k dest (arrayPart_first part)
        · exact Clear.or (fun k name part => clear.1 k name (arrayPart_rest part)) clear.2

/-! ## New protocols -/

/-- The name of a protocol that is added, in the characters of the call. -/
def nameBytes (c : EnumCall) (p : OurProtocol) : List Byte := (p.name ++ [0]).flatMap c.unit

/-- What is added, with the names one after the other from `base` on. -/
def placed (c : EnumCall) : Nat → List OurProtocol → List NamedInfo
  | _, [] => []
  | base, p :: rest =>
      ⟨⟨p.fields, UInt32.ofNat base⟩, c.nameBytes p⟩ ::
        c.placed (base + (c.nameBytes p).length) rest

/-- The size of the new names. -/
def newNames (c : EnumCall) (ps : List OurProtocol) : Nat :=
  (ps.map fun p => (c.nameBytes p).length).sum

theorem newNames_cons (p : OurProtocol) (ps : List OurProtocol) :
    c.newNames (p :: ps) = (c.nameBytes p).length + c.newNames ps := List.sum_cons

theorem length_unit (c : EnumCall) (char : Byte) : (c.unit char).length = c.width := by
  unfold unit width
  split <;> rfl

theorem length_units (c : EnumCall) (chars : List Byte) :
    (chars.flatMap c.unit).length = chars.length * c.width := by
  induction chars with
  | nil => exact (Nat.zero_mul _).symm
  | cons char rest ih =>
      rw [List.flatMap_cons, List.length_append, ih, length_unit, List.length_cons, Nat.succ_mul,
        Nat.add_comm]

theorem length_nameBytes (c : EnumCall) (p : OurProtocol) :
    (c.nameBytes p).length = (p.name.length + 1) * c.width := by
  unfold nameBytes
  rw [length_units, List.length_append, List.length_singleton]

theorem unit_zero (c : EnumCall) : c.unit 0 = List.replicate c.width 0 := by
  unfold unit width
  split <;> rfl

theorem unit_ne_zero {char : Byte} (nonzero : char ≠ 0) :
    c.unit char ≠ List.replicate c.width 0 := by
  rw [← unit_zero]
  unfold unit
  split
  · exact fun same => nonzero (List.cons.inj same).1
  · exact fun same => nonzero (List.cons.inj same).1

theorem isStr_nameBytes {p : OurProtocol} (nonzero : ∀ char ∈ p.name, char ≠ 0) :
    IsStr c.width (c.nameBytes p) := by
  refine ⟨p.name.map c.unit, fun u member => ?_, ?_⟩
  · obtain ⟨char, inside, rfl⟩ := List.mem_map.mp member
    exact ⟨c.length_unit char, unit_ne_zero (nonzero char inside)⟩
  · unfold nameBytes
    rw [List.flatMap_append, List.flatMap_singleton, unit_zero]
    rfl

theorem pushName_eq (name : List Byte) :
    c.pushName name m base = (m.write base ((name ++ [0]).flatMap c.unit),
      base + ((name ++ [0]).flatMap c.unit).length) := by
  induction name generalizing m base with
  | nil =>
      unfold pushName
      rw [List.nil_append, List.flatMap_singleton, length_unit]
  | cons char rest ih =>
      unfold pushName
      rw [ih, List.cons_append, List.flatMap_cons, write_append, List.length_append, length_unit,
        Nat.add_assoc]

/-- A protocol is added behind the others, and its name at `name_base`. -/
theorem addProtocol_eq (c : EnumCall) (s : Adding) (p : OurProtocol) :
    c.addProtocol s p =
      ⟨(writeInfo s.mem (infoAt c.buf s.rval) ⟨p.fields, UInt32.ofNat s.nameBase⟩).write s.nameBase
        (c.nameBytes p), s.rval + 1, s.nameBase + (c.nameBytes p).length⟩ := by
  unfold addProtocol
  dsimp only
  rw [pushName_eq]
  rfl

theorem arrayPart_entry {k n : Nat} (lt : i < n) (inside : Region (infoAt c.buf i) protocolInfoSize k) :
    c.arrayPart 0 n k := by
  unfold arrayPart Region infoAt protocolInfoSize at *
  omega

theorem clear_entry : Clear (Region (infoAt c.buf i) protocolInfoSize) (infoAt c.buf 0)
    (protocolInfoSize * i) := by
  intro k before inside
  unfold Region infoAt protocolInfoSize at *
  omega

/-- The protocols are added, of which there are `n` then. -/
theorem addProtocols_entries {ps : List OurProtocol} {s : Adding} {n : Nat}
    (nonzero : ∀ p ∈ ps, ∀ char ∈ p.name, char ≠ 0)
    (entries : EntriesAt c.width s.mem c.buf 0 es) (count : s.rval = es.length)
    (total : es.length + ps.length = n)
    (names : ∀ e ∈ es, Clear (c.arrayPart 0 n) e.addr e.name.length ∧
      Clear (Region s.nameBase (c.newNames ps)) e.addr e.name.length)
    (array : Clear (c.arrayPart 0 n) s.nameBase (c.newNames ps))
    (below : s.nameBase + c.newNames ps ≤ 4294967296) :
    (ps.foldl c.addProtocol s).rval = n ∧
      (ps.foldl c.addProtocol s).nameBase = s.nameBase + c.newNames ps ∧
      EntriesAt c.width (ps.foldl c.addProtocol s).mem c.buf 0 (es ++ c.placed s.nameBase ps) ∧
      SameBut (fun k => c.arrayPart 0 n k ∨ Region s.nameBase (c.newNames ps) k) s.mem
        (ps.foldl c.addProtocol s).mem := by
  induction ps generalizing s es with
  | nil =>
      refine ⟨count.trans total, rfl, ?_, .refl⟩
      rw [placed, List.append_nil]
      exact entries
  | cons p rest ih =>
      rw [newNames_cons] at names array below
      rw [List.length_cons] at total
      let new : NamedInfo := ⟨⟨p.fields, UInt32.ofNat s.nameBase⟩, c.nameBytes p⟩
      have str : IsStr c.width new.name := isStr_nameBytes (nonzero p List.mem_cons_self)
      have positive : 0 < new.name.length := Nat.lt_of_lt_of_le c.width_pos str.le_length
      have addr : new.addr = s.nameBase := by
        have small : s.nameBase < 4294967296 := by
          have : (c.nameBytes p).length = new.name.length := rfl
          omega
        exact NamedInfo.moveTo_addr (e := new) small
      have here : es.length < n := by omega
      have written : SameBut (fun k => Region (infoAt c.buf es.length) protocolInfoSize k ∨
          Region s.nameBase (c.nameBytes p).length k) s.mem (c.addProtocol s p).mem := by
        rw [addProtocol_eq, count]
        exact (writeInfo_sameBut.mono fun _ => Or.inl).trans (write_sameBut.mono fun _ => Or.inr)
      have entry : EntryAt c.width (c.addProtocol s p).mem (infoAt c.buf es.length) new := by
        rw [addProtocol_eq, count]
        refine ⟨(readInfo_sameBut write_sameBut ?_).trans (readInfo_writeInfo ..), ?_, str⟩
        · exact fun k part dest => array k dest.left (arrayPart_entry here part)
        · rw [addr]
          exact write_holds _ _ _
      have kept : EntriesAt c.width (c.addProtocol s p).mem c.buf 0 es := by
        refine entries.sameBut written (clear_entry.or fun k part dest => ?_) fun e member =>
          Clear.or (fun k name part => ?_) fun k name dest => ?_
        · exact array k dest.left (arrayPart_mono (Nat.le_of_lt here) part)
        · exact (names e member).1 k name (arrayPart_entry here part)
        · exact (names e member).2 k name dest.left
      have entries' : EntriesAt c.width (c.addProtocol s p).mem c.buf 0 (es ++ [new]) := by
        refine entriesAt_append.mpr ⟨kept, ?_, trivial⟩
        rw [Nat.zero_add]
        exact entry
      have base : (c.addProtocol s p).nameBase = s.nameBase + (c.nameBytes p).length := by
        rw [addProtocol_eq]
      have grown : (es ++ [new]).length = es.length + 1 := List.length_append
      obtain ⟨rval, nameBase, added, same⟩ := ih (fun p' member =>
          nonzero p' (List.mem_cons_of_mem p member)) entries' (by
            rw [addProtocol_eq, grown, count]) (by omega) (fun e member => by
          rw [base]
          rcases List.mem_append.mp member with old | is_new
          · exact ⟨(names e old).1, fun k name dest => (names e old).2 k name dest.right⟩
          · obtain rfl := List.mem_singleton.mp is_new
            rw [addr]
            exact ⟨fun k dest part => array k dest.left part, clear_left⟩)
        (by
          rw [base]
          exact fun k dest part => array k dest.right part)
        (by
          rw [base]
          omega)
      rw [base] at nameBase added same
      refine ⟨rval, ?_, ?_, (written.mono fun k inside => ?_).trans (same.mono fun k inside => ?_)⟩
      · rw [newNames_cons, ← Nat.add_assoc]
        exact nameBase
      · rw [List.append_assoc] at added
        exact added
      · rw [newNames_cons]
        exact inside.imp (arrayPart_entry here) Region.left
      · rw [newNames_cons]
        exact inside.imp_right Region.right

end EnumCall

end IpxWrapper
