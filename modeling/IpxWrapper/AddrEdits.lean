import IpxWrapper.AddrCanonical
import IpxWrapper.ShownIfaces
import IpxWrapper.SocketTable

/-!
# Edits that are rejected (`ipxconfig.c`, `addr.c`)

`_addr_from_string` stores each group as soon as it has read it, and `stash_nic_config`
has it store in the configuration of the adapter, for the network number and then for the
node number. So where an edit is rejected, the groups in front of what was wrong with it
have been stored: `rejectedEdits_iff`.
-/

namespace IpxWrapper

open Base

/-- What a C string has in front of its NUL. -/
structure Text where
  chars : List Char
  noNul : ∀ c ∈ chars, c ≠ nul

/-! ## `stash_nic_config` -/

inductive EditField where
  | nicNet
  | nicNode
deriving DecidableEq

/-- `inv_window` and `inv_error`. -/
structure InvalidEdit where
  window : EditField
  error : String
deriving DecidableEq

def invalidNet : InvalidEdit where
  window := .nicNet
  error := "Network number is invalid.\nValid network numbers are in the format XX:XX:XX:XX"

def invalidNode : InvalidEdit where
  window := .nicNode
  error := "Node number is invalid.\nValid numbers are in the format XX:XX:XX:XX:XX:XX"

/-- What `stash_nic_config` returns, and what it leaves. -/
structure Stashed where
  ok : Bool
  nics : List Nic
  invalid : Option InvalidEdit

/-- `GetWindowText` with a buffer of 32 characters. -/
def getWindowText (text : Text) : List Char := text.chars.take 31

def Nic.setNetnum (nic : Nic) (netnum : Addr32) : Nic :=
  { nic with config := { nic.config with netnum := netnum } }

def Nic.setNodenum (nic : Nic) (nodenum : Addr48) : Nic :=
  { nic with config := { nic.config with nodenum := nodenum } }

/-- The part of `stash_nic_config` for the node number. -/
def stashNode (node : Text) (nics : List Nic) (i : Nat) (nic : Nic) : Option Stashed := do
  let (ok, nodenum) ← addr48FromString nic.config.nodenum (getWindowText node)
  return ⟨ok, nics.set i (nic.setNodenum nodenum), if ok then none else some invalidNode⟩

/-- `stash_nic_config`; `selected` is the adapter that has the focus, if one does. -/
def stashNicConfig (encapType : EncapType) (net node : Text) (nics : List Nic)
    (selected : Option (Fin nics.length)) : Option Stashed :=
  match selected with
  | none => some ⟨true, nics, none⟩
  | some i => do
      let nic := nics[i]
      let (ok, netnum) ← addr32FromString nic.config.netnum (getWindowText net)
      let stashed := nics.set i (nic.setNetnum netnum)
      if ok then
        if encapType ≠ .pcap then stashNode node stashed i (nic.setNetnum netnum)
        else return ⟨true, stashed, none⟩
      else
        return ⟨false, stashed, some invalidNet⟩

/-! ## The groups that are stored -/

/-- The text begins with groups that have a colon behind them, a run of colons counting as one,
and these are their values. -/
inductive LeadingGroups : List Char → List Byte → Prop
  | none (src : List Char) : LeadingGroups src []
  | more {g rest : List Char} {bytes : List Byte} (group : HexGroup g)
      (behind : LeadingGroups (rest.dropWhile (· = ':')) bytes) :
      LeadingGroups (g ++ ':' :: rest) (UInt8.ofNat (hexValue g) :: bytes)

/-- The text is one that the parser accepts for `n` groups. -/
def AcceptedAddr (n : Nat) (src : List Char) : Prop :=
  ∃ bytes, AddrText (squeezeColons src) bytes ∧ bytes.length = n

/-- The groups that the text begins with, all `n` of them left out, are those of `bytes`. -/
def BeginsAs (n : Nat) (src : List Char) (bytes : List Byte) : Prop :=
  ∀ leading, LeadingGroups src leading → leading.length < n → leading <+: bytes

section Parser

variable {src : List Char} {stored bytes : List Byte} {n : Nat}

/-- A text that begins with a group begins with what is behind it as well. -/
theorem LeadingGroups.behind {g rest : List Char} (group : HexGroup g)
    (leading : LeadingGroups (g ++ ':' :: rest) bytes) :
    bytes = [] ∨ ∃ later, LeadingGroups (rest.dropWhile (· = ':')) later ∧
      bytes = UInt8.ofNat (hexValue g) :: later := by
  generalize same : g ++ ':' :: rest = src at leading
  cases leading with
  | none => exact Or.inl rfl
  | more group' behind =>
      obtain ⟨rfl, rfl⟩ := append_colon_inj group.ne_colon group'.ne_colon same
      exact Or.inr ⟨_, behind, rfl⟩

theorem LeadingGroups.startsWithGroup (leading : LeadingGroups src bytes) (some' : bytes ≠ []) :
    StartsWithGroup ':' src := by
  cases leading with
  | none => exact absurd rfl some'
  | more group behind => exact ⟨_, ':' :: _, rfl, group, rfl⟩

/-- Where the parser rejects a text, it has stored the groups that the text begins with, up to
the last but one. -/
theorem addrFromString_stores (n : Nat) (src : List Char) (noNul : ∀ c ∈ src, c ≠ nul)
    (rejects : addrFromString (n + 1) src = some (false, stored)) :
    LeadingGroups src stored ∧ stored.length ≤ n ∧
      ∀ leading, LeadingGroups src leading → leading.length ≤ n → leading <+: stored := by
  induction n generalizing src stored with
  | zero =>
      by_cases starts : StartsWithGroup nul src
      · rw [addrFromString_last (starts.last noNul)] at rejects
        cases rejects
      · rw [addrFromString_of_not_starts (n := 0) starts] at rejects
        cases rejects
        refine ⟨.none src, Nat.le_refl 0, fun leading _ none => ?_⟩
        rw [List.eq_nil_of_length_eq_zero (Nat.le_zero.mp none)]
  | succ n ih =>
      by_cases starts : StartsWithGroup ':' src
      · obtain ⟨g, rest, rfl, group⟩ := starts.colon
        have noNul' : ∀ c ∈ rest.dropWhile (· = ':'), c ≠ nul := fun c member =>
          noNul c (List.mem_append_right _
            (List.mem_cons_of_mem _ ((List.dropWhile_sublist _).subset member)))
        rw [addrFromString_group n group] at rejects
        obtain ⟨⟨ok, later⟩, behind, same⟩ := Option.map_eq_some_iff.mp rejects
        obtain ⟨rfl, rfl⟩ := Prod.mk.inj same
        obtain ⟨groups, few, longest⟩ := ih _ noNul' behind
        refine ⟨.more group groups, Nat.succ_le_succ few, fun leading begins length => ?_⟩
        rcases begins.behind group with rfl | ⟨later', begins', rfl⟩
        · exact List.nil_prefix
        · exact List.cons_prefix_cons.mpr
            ⟨rfl, longest later' begins' (Nat.le_of_succ_le_succ length)⟩
      · rw [addrFromString_of_not_starts (n := n + 1) starts] at rejects
        cases rejects
        refine ⟨.none src, Nat.zero_le _, fun leading groups _ => ?_⟩
        by_contra other
        have some' : leading ≠ [] := fun none => other (none ▸ List.nil_prefix)
        exact starts (groups.startsWithGroup some')

theorem addrFromString_accepts_iff {ok : Bool} (noNul : ∀ c ∈ src, c ≠ nul)
    (reads : addrFromString (n + 1) src = some (ok, stored)) :
    ok = true ↔ AcceptedAddr (n + 1) src := by
  obtain ⟨ok', stored', reads', sound, complete⟩ := addrFromString_reads n src noNul
  obtain ⟨rfl, rfl⟩ := Prod.mk.inj (Option.some.inj (reads.symm.trans reads'))
  constructor
  · exact fun accepts => ⟨stored, sound accepts⟩
  · rintro ⟨bytes, text, length⟩
    exact complete bytes text length

/-- What is stored is what was there if the text begins as that does. -/
theorem stored_prefix_iff (noNul : ∀ c ∈ src, c ≠ nul)
    (rejects : addrFromString (n + 1) src = some (false, stored)) (bytes : List Byte) :
    stored <+: bytes ↔ BeginsAs (n + 1) src bytes := by
  obtain ⟨groups, few, longest⟩ := addrFromString_stores n src noNul rejects
  constructor
  · exact fun same leading begins length =>
      (longest leading begins (Nat.le_of_lt_succ length)).trans same
  · exact fun begins => begins stored groups (Nat.lt_succ_of_le few)

end Parser

/-! ## Storing over what was there -/

section Stored

variable {bytes stored : List Byte} {o : Nat}

theorem overwrite_slice (inside : o + stored.length ≤ bytes.length) :
    (overwrite bytes o stored).slice 0 bytes.length =
      bytes.take o ++ (stored ++ bytes.drop (o + stored.length)) := by
  have holds := (Mem.ofList_holds (bytes.take o ++ (stored ++ bytes.drop (o + stored.length)))
    fun _ => 0).slice
  have length : (bytes.take o ++ (stored ++ bytes.drop (o + stored.length))).length =
      bytes.length := by
    simp only [List.length_append, List.length_take, List.length_drop]
    omega
  rwa [length] at holds

theorem overwrite_slice_eq_iff (bytes stored : List Byte) (o : Nat) (inside : o + stored.length ≤ bytes.length) :
    (overwrite bytes o stored).slice 0 bytes.length = bytes ↔ stored <+: bytes.drop o := by
  rw [overwrite_slice inside]
  have split := List.take_append_drop o bytes
  constructor
  · intro same
    have behind := List.append_cancel_left (same.trans split.symm)
    exact ⟨_, behind⟩
  · rintro ⟨rest, same⟩
    have behind : bytes.drop (o + stored.length) = rest := by
      rw [← List.drop_drop, ← same, List.drop_left]
    rw [behind, same, split]

theorem addr32_overwrite_iff (dest : Addr32) (few : stored.length ≤ 4) :
    UInt32.ofNat (le (overwrite (leBytes dest.toNat 4) 0 stored) 0 4) = dest ↔
      stored <+: addr32Out dest := by
  have whole := overwrite_slice_eq_iff (leBytes dest.toNat 4) stored 0
    (by rw [length_leBytes]; omega)
  rw [length_leBytes, List.drop_zero] at whole
  rw [addr32Out, ← whole, ← le_eq_iff dest.toNat_lt, ← UInt32.toNat_inj,
    UInt32.toNat_ofNat_of_lt' (le_lt _ _ _)]

theorem addr48_overwrite_iff (dest : Addr48) (few : stored.length ≤ 6) :
    UInt64.ofNat (le (overwrite (leBytes dest.toNat 8) 2 stored) 0 8) = dest ↔
      stored <+: addr48Out dest := by
  have whole := overwrite_slice_eq_iff (leBytes dest.toNat 8) stored 2
    (by rw [length_leBytes]; omega)
  have behind : (leBytes dest.toNat 8).drop 2 = addr48Out dest := by
    change leBytes (dest.toNat / 256 / 256) 6 = leBytes (dest.toNat / 65536) 6
    rw [Nat.div_div_eq_div_mul]
  rw [length_leBytes, behind] at whole
  rw [← whole, ← le_eq_iff dest.toNat_lt, ← UInt64.toNat_inj,
    UInt64.toNat_ofNat_of_lt' (le_lt _ _ _)]

end Stored

/-! ## Rejected texts -/

/-- A parser that stored `a` over `dest` is right about a text that it rejects. -/
def Unchanged {α : Type} (dest : α) (result : Option (Bool × α)) : Prop :=
  ∃ ok a, result = some (ok, a) ∧ (ok = false → a = dest)

section Rejected

variable {src : List Char}

/-- What `addr32_from_string` returns, and what is left in `*dest`. -/
theorem addr32FromString_spec (noNul : ∀ c ∈ src, c ≠ nul) (dest : Addr32) :
    ∃ ok a, addr32FromString dest src = some (ok, a) ∧ (ok = true ↔ AcceptedAddr 4 src) ∧
      (ok = true → AddrText (squeezeColons src) (addr32Out a)) ∧
      (ok = false → (a = dest ↔ BeginsAs 4 src (addr32Out dest))) := by
  obtain ⟨ok, stored, reads, sound, -⟩ := addrFromString_reads 3 src noNul
  refine ⟨ok, _, by rw [addr32FromString, reads, Option.map_some],
    addrFromString_accepts_iff noNul reads, fun accepts => ?_, fun rejects => ?_⟩
  · obtain ⟨text, four⟩ := sound accepts
    rwa [addr32Out_overwrite dest four]
  · subst rejects
    have few := (addrFromString_stores 3 src noNul reads).2.1
    rw [addr32_overwrite_iff dest (Nat.le_succ_of_le few)]
    exact stored_prefix_iff noNul reads _

/-- What `addr48_from_string` returns, and what is left in `*dest`. -/
theorem addr48FromString_spec (noNul : ∀ c ∈ src, c ≠ nul) (dest : Addr48) :
    ∃ ok a, addr48FromString dest src = some (ok, a) ∧ (ok = true ↔ AcceptedAddr 6 src) ∧
      (ok = false → (a = dest ↔ BeginsAs 6 src (addr48Out dest))) := by
  obtain ⟨ok, stored, reads, -, -⟩ := addrFromString_reads 5 src noNul
  refine ⟨ok, _, by rw [addr48FromString, reads, Option.map_some],
    addrFromString_accepts_iff noNul reads, fun rejects => ?_⟩
  subst rejects
  have few := (addrFromString_stores 5 src noNul reads).2.1
  rw [addr48_overwrite_iff dest (Nat.le_succ_of_le few)]
  exact stored_prefix_iff noNul reads _

theorem unchanged_iff {α : Type} {dest a : α} {ok : Bool} {accepts begins : Prop}
    (accepted : ok = true ↔ accepts) (same : ok = false → (a = dest ↔ begins)) :
    Unchanged dest (some (ok, a)) ↔ accepts ∨ begins := by
  constructor
  · rintro ⟨ok', a', returned, kept⟩
    obtain ⟨rfl, rfl⟩ := Prod.mk.inj (Option.some.inj returned)
    cases ok with
    | true => exact Or.inl (accepted.mp rfl)
    | false => exact Or.inr ((same rfl).mp (kept rfl))
  · rintro (ok' | begins)
    · refine ⟨ok, a, rfl, fun rejected => ?_⟩
      rw [accepted.mpr ok'] at rejected
      cases rejected
    · exact ⟨ok, a, rfl, fun rejected => (same rejected).mpr begins⟩

end Rejected

/-! ## Rejected edits -/

/-- The texts are accepted, or what is stored of them is what the adapter has. -/
def KeepsNic (encapType : EncapType) (net node : List Char) (config : IfaceConfig) : Prop :=
  AcceptedAddr 4 net ∧ (encapType = .pcap ∨ AcceptedAddr 6 node ∨
      AddrText (squeezeColons net) (addr32Out config.netnum) ∧
        BeginsAs 6 node (addr48Out config.nodenum)) ∨
    ¬ AcceptedAddr 4 net ∧ BeginsAs 4 net (addr32Out config.netnum)

/-- Where `stash_nic_config` returns false the adapters are as they were. -/
def StashUnchanged (nics : List Nic) (result : Option Stashed) : Prop :=
  ∃ stashed, result = some stashed ∧ (stashed.ok = false → stashed.nics = nics)

section Stash

variable {nics : List Nic} {nic : Nic}

theorem set_eq_self_iff {i : Nat} (inside : i < nics.length) :
    nics.set i nic = nics ↔ nic = nics[i] := by
  constructor
  · intro same
    have at_i := congrArg (fun nics : List Nic => nics[i]?) same
    rw [List.getElem?_set_self inside, List.getElem?_eq_getElem inside] at at_i
    exact Option.some.inj at_i
  · rintro rfl
    exact List.set_getElem_self inside

theorem getWindowText_noNul (text : Text) : ∀ c ∈ getWindowText text, c ≠ nul :=
  fun c member => text.noNul c (List.mem_of_mem_take member)

/-- Of the texts of the grammar only those of the old network number leave it as it was. -/
theorem netnum_eq_iff {src : List Char} {a old : Addr32} (text : AddrText src (addr32Out a)) :
    a = old ↔ AddrText src (addr32Out old) := by
  constructor
  · rintro rfl
    exact text
  · intro text'
    have same := text.unique text'
    exact UInt32.toNat_inj.mp (leBytes_inj a.toNat_lt old.toNat_lt same)

theorem stashUnchanged_iff (stashed : Stashed) :
    StashUnchanged nics (some stashed) ↔ (stashed.ok = false → stashed.nics = nics) := by
  constructor
  · rintro ⟨stashed', same, kept⟩
    rwa [Option.some.inj same]
  · exact fun kept => ⟨stashed, rfl, kept⟩

theorem setNetnum_eq_iff {netnum : Addr32} : nic.setNetnum netnum = nic ↔ netnum = nic.config.netnum := by
  constructor
  · intro same
    exact congrArg (fun nic : Nic => nic.config.netnum) same
  · rintro rfl
    rfl

theorem setBoth_eq_iff {netnum : Addr32} {nodenum : Addr48} :
    (nic.setNetnum netnum).setNodenum nodenum = nic ↔
      netnum = nic.config.netnum ∧ nodenum = nic.config.nodenum := by
  constructor
  · intro same
    exact ⟨congrArg (fun nic : Nic => nic.config.netnum) same,
      congrArg (fun nic : Nic => nic.config.nodenum) same⟩
  · rintro ⟨rfl, rfl⟩
    rfl

/-- The part for the node number, where the network number was accepted. -/
theorem stashNode_iff (node : Text) (nics : List Nic) (i : Fin nics.length) (netnum : Addr32) :
    StashUnchanged nics (stashNode node (nics.set i (nics[i].setNetnum netnum)) i
        (nics[i].setNetnum netnum)) ↔
      AcceptedAddr 6 (getWindowText node) ∨ netnum = nics[i].config.netnum ∧
        BeginsAs 6 (getWindowText node) (addr48Out nics[i].config.nodenum) := by
  obtain ⟨ok, nodenum, reads, accepted, same⟩ :=
    addr48FromString_spec (getWindowText_noNul node) nics[i].config.nodenum
  have ran : stashNode node (nics.set i (nics[i].setNetnum netnum)) i (nics[i].setNetnum netnum) =
      some ⟨ok, nics.set i ((nics[i].setNetnum netnum).setNodenum nodenum),
        if ok then none else some invalidNode⟩ := by
    have reads' : addr48FromString (nics[i].setNetnum netnum).config.nodenum (getWindowText node) =
        some (ok, nodenum) := reads
    unfold stashNode
    rw [reads', Option.bind_eq_bind, Option.bind_some]
    dsimp only
    rw [List.set_set]
    rfl
  rw [ran, stashUnchanged_iff]
  dsimp only
  cases ok with
  | true => exact iff_of_true nofun (Or.inl (accepted.mp rfl))
  | false =>
      have rejected : ¬ AcceptedAddr 6 (getWindowText node) := fun ok => by cases accepted.mpr ok
      rw [or_iff_right rejected, set_eq_self_iff i.isLt]
      exact ⟨fun kept => ⟨(setBoth_eq_iff.mp (kept rfl)).1,
          (same rfl).mp (setBoth_eq_iff.mp (kept rfl)).2⟩,
        fun both _ => setBoth_eq_iff.mpr ⟨both.1, (same rfl).mpr both.2⟩⟩

theorem stashNicConfig_iff (encapType : EncapType) (net node : Text) (nics : List Nic)
    (i : Fin nics.length) :
    StashUnchanged nics (stashNicConfig encapType net node nics (some i)) ↔
      KeepsNic encapType (getWindowText net) (getWindowText node) nics[i].config := by
  obtain ⟨ok, netnum, reads, accepted, text, same⟩ :=
    addr32FromString_spec (getWindowText_noNul net) nics[i].config.netnum
  unfold stashNicConfig KeepsNic
  dsimp only
  rw [reads, Option.bind_eq_bind, Option.bind_some]
  dsimp only
  cases ok with
  | false =>
      have rejected : ¬ AcceptedAddr 4 (getWindowText net) := fun ok => by cases accepted.mpr ok
      rw [if_neg Bool.false_ne_true, or_iff_right fun both => rejected both.1, and_iff_right rejected]
      refine (stashUnchanged_iff _).trans ?_
      rw [set_eq_self_iff i.isLt, ← same rfl]
      exact ⟨fun kept => setNetnum_eq_iff.mp (kept rfl), fun same _ => setNetnum_eq_iff.mpr same⟩
  | true =>
      have accepts := accepted.mp rfl
      rw [if_pos rfl, or_iff_left fun both => both.1 accepts, and_iff_right accepts]
      by_cases pcap : encapType = .pcap
      · rw [if_neg (not_not_intro pcap)]
        exact iff_of_true ⟨_, rfl, nofun⟩ (Or.inl pcap)
      · rw [if_pos pcap, or_iff_right pcap, stashNode_iff, netnum_eq_iff (text rfl)]

end Stash

/-- Rejected edits and texts change nothing if and only if what was stored before the text was
rejected was there already. -/
theorem rejectedEdits_iff (encapType : EncapType) (net node src : Text) (nics : List Nic)
    (selected : Option (Fin nics.length)) (dest32 : Addr32) (dest48 : Addr48) :
    (StashUnchanged nics (stashNicConfig encapType net node nics selected) ↔
      ∀ i ∈ selected, KeepsNic encapType (getWindowText net) (getWindowText node) nics[i].config) ∧
    (Unchanged dest32 (addr32FromString dest32 src.chars) ↔
      AcceptedAddr 4 src.chars ∨ BeginsAs 4 src.chars (addr32Out dest32)) ∧
    (Unchanged dest48 (addr48FromString dest48 src.chars) ↔
      AcceptedAddr 6 src.chars ∨ BeginsAs 6 src.chars (addr48Out dest48)) := by
  refine ⟨?_, ?_, ?_⟩
  · cases selected with
    | none => exact iff_of_true ⟨_, rfl, fun _ => rfl⟩ nofun
    | some i =>
        rw [stashNicConfig_iff]
        exact ⟨fun keeps j same => Option.some.inj same ▸ keeps, fun keeps => keeps i rfl⟩
  · obtain ⟨ok, a, reads, accepted, -, same⟩ := addr32FromString_spec src.noNul dest32
    rw [reads]
    exact unchanged_iff accepted same
  · obtain ⟨ok, a, reads, accepted, same⟩ := addr48FromString_spec src.noNul dest48
    rw [reads]
    exact unchanged_iff accepted same

def halfEdit : List Char := ['5', ':', 'x']

/-- The group in front of what is wrong is stored. -/
theorem halfEdit_stored :
    ¬ ∀ (encapType : EncapType) (net node src : Text) (nics : List Nic)
      (selected : Option (Fin nics.length)) (dest32 : Addr32) (dest48 : Addr48),
      StashUnchanged nics (stashNicConfig encapType net node nics selected) ∧
        Unchanged dest32 (addr32FromString dest32 src.chars) ∧
        Unchanged dest48 (addr48FromString dest48 src.chars) := by
  intro unchanged
  have noNul : ∀ c ∈ halfEdit, c ≠ nul := by simp [halfEdit, nul]
  have stashes : stashNicConfig .ipxwrapper ⟨halfEdit, noNul⟩ ⟨halfEdit, noNul⟩ [⟨0, 0, 0, true⟩]
      (some 0) = some ⟨false, [⟨0, 5, 0, true⟩], some invalidNet⟩ := rfl
  obtain ⟨kept, -⟩ := unchanged .ipxwrapper ⟨halfEdit, noNul⟩ ⟨halfEdit, noNul⟩ ⟨halfEdit, noNul⟩
    [⟨0, 0, 0, true⟩] (some 0) 0 0
  rw [stashes, stashUnchanged_iff] at kept
  cases kept rfl

end IpxWrapper
