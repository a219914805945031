import IpxWrapper.AddrString
import IpxWrapper.Registry

/-!
# The unused bytes of an address (`addr.c`, `common.c`)

An `addr48_t` has six bytes of address behind two that are not used. `==` compares all
eight. `addr48_in` clears the two, and so `reg_get_addr48` does; `addr48_from_string`
leaves them as they were in `*dest`, so what it makes is right if and only if they were
zero: `addrsCanonical_iff`.
-/

namespace IpxWrapper

open Base

/-! ## Addresses as text -/

/-- A digit of `%X`. -/
def hexDigit (n : Nat) : Char := Char.ofNat (if n < 10 then '0'.toNat + n else 'A'.toNat + (n - 10))

/-- `%02X`. -/
def hexByte (b : Byte) : List Char := [hexDigit (b.toNat / 16), hexDigit (b.toNat % 16)]

/-- The bytes with colons between them. -/
def addrString : List Byte → List Char
  | [] => []
  | [b] => hexByte b
  | b :: rest => hexByte b ++ ':' :: addrString rest

/-- `addr32_string`. -/
def addr32String (addr : Addr32) : List Char := addrString (addr32Out addr)

/-- `addr48_string`. -/
def addr48String (addr : Addr48) : List Char := addrString (addr48Out addr)

/-- The two unused bytes are zero. -/
def Canonical (addr : Addr48) : Prop := addr.toNat % 65536 = 0

instance (addr : Addr48) : Decidable (Canonical addr) := inferInstanceAs (Decidable (_ = _))

section Texts

variable {b : Byte} {bytes stored : List Byte} {src : List Char}

theorem hexDigit_spec {n : Nat} (small : n < 16) :
    isxdigit (hexDigit n) = true ∧ digitValue (hexDigit n) = n := by
  have all : ∀ n : Fin 16, isxdigit (hexDigit n) = true ∧ digitValue (hexDigit n) = n := by decide
  exact all ⟨n, small⟩

theorem hexByte_group (b : Byte) : HexGroup (hexByte b) := by
  have byte := b.toNat_lt
  exact hexGroup_iff.mpr (Or.inr ⟨_, _, (hexDigit_spec (by omega)).1, (hexDigit_spec (by omega)).1, rfl⟩)

theorem hexValue_hexByte (b : Byte) : hexValue (hexByte b) = b.toNat := by
  have byte := b.toNat_lt
  unfold hexByte hexValue
  rw [List.foldl_cons, List.foldl_cons, List.foldl_nil, (hexDigit_spec (by omega)).2,
    (hexDigit_spec (by omega)).2]
  omega

/-- What is printed is a text of the grammar. -/
theorem addrString_text (b : Byte) (rest : List Byte) : AddrText (addrString (b :: rest)) (b :: rest) := by
  have value (b : Byte) : UInt8.ofNat (hexValue (hexByte b)) = b := by
    rw [hexValue_hexByte, UInt8.ofNat_toNat]
  induction rest generalizing b with
  | nil =>
      have text := AddrText.last (hexByte_group b)
      rwa [value] at text
  | cons c rest ih =>
      have text := AddrText.more (hexByte_group b) (ih c)
      rwa [value] at text

/-- A text has one reading. -/
theorem AddrText.unique (left : AddrText src bytes) (right : AddrText src stored) :
    bytes = stored := by
  induction left generalizing stored with
  | @last g group =>
      generalize same : g = src at right
      cases right with
      | last group' => rfl
      | more group' text => exact absurd same.symm (group.ne_append_colon _ _)
  | @more g rest bytes group text ih =>
      generalize same : g ++ ':' :: rest = src at right
      cases right with
      | last group' => exact absurd same (group'.ne_append_colon _ _)
      | more group' text' =>
          obtain ⟨rfl, rfl⟩ := append_colon_inj group.ne_colon group'.ne_colon same
          rw [ih text']

theorem addrString_noNul (bytes : List Byte) : ∀ c ∈ addrString bytes, c ≠ nul := by
  have digits {b : Byte} : ∀ c ∈ hexByte b, c ≠ nul :=
    fun c member => ne_of_isxdigit ((hexByte_group b).digits c member) rfl
  induction bytes with
  | nil =>
      intro c member
      cases member
  | cons b rest ih =>
      cases rest with
      | nil => exact digits
      | cons d rest =>
          intro c member
          rcases List.mem_append.mp member with first | behind
          · exact digits c first
          · rcases List.mem_cons.mp behind with rfl | behind
            · decide
            · exact ih c behind

/-- The parser reads what was printed. -/
theorem addrFromString_addrString {n : Nat} (length : bytes.length = n + 1) :
    addrFromString (n + 1) (addrString bytes) = some (true, bytes) := by
  obtain ⟨b, rest, rfl⟩ : ∃ b rest, bytes = b :: rest := by
    cases bytes with
    | nil => cases length
    | cons b rest => exact ⟨b, rest, rfl⟩
  have text := addrString_text b rest
  obtain ⟨ok, stored, reads, sound, complete⟩ :=
    addrFromString_reads n (addrString (b :: rest)) (addrString_noNul _)
  rw [text.squeezeColons_eq] at sound complete
  obtain rfl := complete _ text length
  rw [reads, text.unique (sound rfl).1]

end Texts

/-! ## The unused bytes -/

section Unused

variable {a b dest : Addr48} {stored : List Byte} {ok : Bool}

/-- Addresses whose unused bytes are zero are the same if their bytes are. -/
theorem Canonical.eq_iff (left : Canonical a) (right : Canonical b) :
    a = b ↔ addr48Out a = addr48Out b := by
  constructor
  · exact congrArg addr48Out
  · intro same
    have holds := Mem.ofList_holds (addr48Out a) fun _ => 0
    rw [← addr48In_of_holds left holds]
    rw [same] at holds ⊢
    exact addr48In_of_holds right holds

theorem addr48In_canonical (m : Mem) (o : Nat) : Canonical (addr48In m o) := by
  have six := le_lt m o 6
  unfold Canonical addr48In
  rw [UInt64.toNat_ofNat_of_lt' (by change _ < 2 ^ 64; omega)]
  exact Nat.mul_mod_right _ _

theorem regGetAddr48_canonical (key : Option RegKey) (name : List Char) (default : Addr48) :
    Canonical (regGetAddr48 key name default) :=
  addr48In_canonical _ _

/-- `addr48_from_string` leaves the unused bytes as they were. -/
theorem addr48FromString_unused {src : List Char} (parsed : addr48FromString dest src = some (ok, a)) :
    Canonical a ↔ Canonical dest := by
  obtain ⟨⟨ok', stored⟩, -, same⟩ := Option.map_eq_some_iff.mp parsed
  obtain ⟨-, rfl⟩ := Prod.mk.inj same
  have kept : (overwrite (leBytes dest.toNat 8) 2 stored).Holds 0 ((leBytes dest.toNat 8).take 2) :=
    (Mem.ofList_holds _ _).left
  have first : overwrite (leBytes dest.toNat 8) 2 stored 0 = UInt8.ofNat dest.toNat :=
    kept 0 (Nat.succ_pos 1)
  have second : overwrite (leBytes dest.toNat 8) 2 stored 1 = UInt8.ofNat (dest.toNat / 256) :=
    kept 1 (Nat.lt_succ_self 1)
  unfold Canonical
  rw [UInt64.toNat_ofNat_of_lt' (le_lt _ _ _)]
  change ((overwrite (leBytes dest.toNat 8) 2 stored 0).toNat +
    256 * ((overwrite (leBytes dest.toNat 8) 2 stored 1).toNat +
      256 * le (overwrite (leBytes dest.toNat 8) 2 stored) 2 6)) % 65536 = 0 ↔ _
  rw [first, second, UInt8.toNat_ofNat', UInt8.toNat_ofNat']
  omega

theorem addr32FromString_addr32String (dest addr : Addr32) :
    addr32FromString dest (addr32String addr) = some (true, addr) := by
  unfold addr32FromString addr32String
  rw [addrFromString_addrString (length_addr32Out addr), Option.map_some]
  have holds : (overwrite (leBytes dest.toNat 4) 0 (addr32Out addr)).Holds 0 (addr32Out addr) :=
    overwrite_holds (Nat.zero_le _)
  have read := addr32In_of_holds holds
  unfold addr32In at read
  dsimp only
  rw [read]

/-- What is printed is read again, with the unused bytes that `*dest` had. -/
theorem addr48FromString_addr48String (dest addr : Addr48) :
    ∃ a, addr48FromString dest (addr48String addr) = some (true, a) ∧
      addr48Out a = addr48Out addr := by
  unfold addr48FromString addr48String
  rw [addrFromString_addrString (length_addr48Out addr), Option.map_some]
  exact ⟨_, rfl, addr48Out_overwrite dest (length_addr48Out addr)⟩

end Unused

/-! ## The promise -/

/-- The addresses that the program makes, where `*dest` was `dest`. -/
inductive Produced (dest : Addr48) : Addr48 → Prop
  | ofBytes (m : Mem) (o : Nat) : Produced dest (addr48In m o)
  | ofString {s : AsciiString} {a : Addr48}
      (accepts : addr48FromString dest s.chars = some (true, a)) : Produced dest a
  | ofRegistry (key : Option RegKey) (name : List Char) {default : Addr48}
      (canonical : Canonical default) : Produced dest (regGetAddr48 key name default)

/-- Addresses are the same 64-bit number whenever their bytes are the same. `m` and `o`
give the bytes of an address, `dest32` and `dest48` what was in `*dest`. -/
structure AddrsCanonical (m : Mem) (o : Nat) (dest32 : Addr32) (dest48 : Addr48) : Prop where
  roundTrip32 : addr32FromString dest32 (addr32String (addr32In m o)) = some (true, addr32In m o)
  roundTrip48 : addr48FromString dest48 (addr48String (addr48In m o)) = some (true, addr48In m o)
  produced : ∀ a, Produced dest48 a → Canonical a
  same : ∀ a b, Produced dest48 a → Produced dest48 b → (a = b ↔ addr48Out a = addr48Out b)

/-- The promise is kept if and only if the unused bytes of `*dest` were zero. -/
theorem addrsCanonical_iff (m : Mem) (o : Nat) (dest32 : Addr32) (dest48 : Addr48) :
    AddrsCanonical m o dest32 dest48 ↔ Canonical dest48 := by
  constructor
  · intro promise
    exact (addr48FromString_unused promise.roundTrip48).mp (addr48In_canonical m o)
  · intro clear
    have produced : ∀ a, Produced dest48 a → Canonical a := by
      intro a made
      cases made with
      | ofBytes m o => exact addr48In_canonical m o
      | ofString accepts => exact (addr48FromString_unused accepts).mpr clear
      | ofRegistry key name => exact regGetAddr48_canonical key name _
    obtain ⟨a, reads, same⟩ := addr48FromString_addr48String dest48 (addr48In m o)
    have canonical := (addr48FromString_unused reads).mpr clear
    refine ⟨addr32FromString_addr32String dest32 _, ?_, produced, fun a b left right =>
      (produced a left).eq_iff (produced b right)⟩
    rw [reads, (canonical.eq_iff (addr48In_canonical m o)).mpr same]

/-- With 1 in `*dest` the address 0 is read as 1. -/
theorem unused_byte_kept :
    ¬ ∀ (m : Mem) (o : Nat) (dest32 : Addr32) (dest48 : Addr48), AddrsCanonical m o dest32 dest48 := by
  intro promise
  have read := (promise (fun _ => 0) 0 0 1).roundTrip48
  have value : addr48FromString 1 (addr48String (addr48In (fun _ => 0) 0)) = some (true, 1) := by
    decide
  rw [value] at read
  exact absurd (Prod.mk.inj (Option.some.inj read)).2 (by decide)

end IpxWrapper
