import IpxWrapper.Addr
import Mathlib.Data.List.Destutter

/-!
# Addresses as text (`addr.c`)

A C string is read up to the NUL behind it; `peek` has no result beyond that. The
parser checks the characters of a group and what follows it, and then goes on to
what is behind the next colons, so it reads a text as if each run of colons were one
colon: `addrFromString_reads`. The grammar is `AddrText`.
-/

namespace IpxWrapper

open Base

/-! ## Characters -/

def nul : Char := Char.ofNat 0

/-- A string of ASCII characters, without the NUL behind it. -/
structure AsciiString where
  chars : List Char
  ascii : ∀ c ∈ chars, 0 < c.toNat ∧ c.toNat < 128

/-- The character is one from `lo` to `hi`. -/
def charIn (lo hi c : Char) : Bool := lo.toNat ≤ c.toNat && c.toNat ≤ hi.toNat

/-- `isxdigit`. -/
def isxdigit (c : Char) : Bool := charIn '0' '9' c || charIn 'a' 'f' c || charIn 'A' 'F' c

/-- `isspace`. -/
def isspace (c : Char) : Bool := c = ' ' || 9 ≤ c.toNat && c.toNat ≤ 13

/-- The value of a hexadecimal digit. -/
def digitValue (c : Char) : Nat :=
  if charIn '0' '9' c then c.toNat - '0'.toNat
  else if charIn 'a' 'f' c then c.toNat - 'a'.toNat + 10
  else c.toNat - 'A'.toNat + 10

/-- The value of hexadecimal digits. -/
def hexValue (digits : List Char) : Nat :=
  digits.foldl (fun value c => 16 * value + digitValue c) 0

/-! ## The parser -/

/-- `src[i]`, unless it is beyond the NUL. -/
def peek (src : List Char) (i : Nat) : Option Char :=
  if i < src.length then src[i]? else if i = src.length then some nul else none

/-- The sign that `strtoul` allows, and what is behind it. -/
def afterSign (src : List Char) : Bool × List Char :=
  if src.head? = some '-' then (true, src.tail)
  else if src.head? = some '+' then (false, src.tail)
  else (false, src)

/-- The `0x` that `strtoul` allows in front of a digit. -/
def afterPrefix (src : List Char) : List Char :=
  match src with
  | zero :: x :: digit :: _ =>
      if zero = '0' ∧ (x = 'x' ∨ x = 'X') ∧ isxdigit digit then src.drop 2 else src
  | _ => src

/-- `strtoul(src, NULL, 16)`. -/
def strtoul16 (src : List Char) : UInt32 :=
  let (negative, digits) := afterSign (src.dropWhile isspace)
  let value := hexValue ((afterPrefix digits).takeWhile isxdigit)
  if 2 ^ 32 ≤ value then 0xFFFFFFFF
  else if negative then 0 - UInt32.ofNat value
  else UInt32.ofNat value

/-- The condition of `_addr_from_string`, from left to right. -/
def groupHere (term : Char) (src : List Char) : Option Bool := do
  let c0 ← peek src 0
  if isxdigit c0 then
    let c1 ← peek src 1
    if c1 = term then
      return true
    else if isxdigit c1 then
      let c2 ← peek src 2
      return c2 = term
    else
      return false
  else
    return false

/-- `strcspn` and then `strspn` for `":"`. -/
def skipColons (src : List Char) : List Char :=
  (src.dropWhile (· ≠ ':')).dropWhile (· = ':')

/-- `_addr_from_string` with `n` groups to go: what it returns, and the bytes it
stores. -/
def addrFromString : Nat → List Char → Option (Bool × List Byte)
  | 0, _ => some (true, [])
  | n + 1, src => do
      let term := if n = 0 then nul else ':'
      if ← groupHere term src then
        let (ok, stored) ← addrFromString n (skipColons src)
        return (ok, (strtoul16 src).toUInt8 :: stored)
      else
        return (false, [])

/-- The bytes `bytes` with `stored` written over them from byte `o` on. -/
def overwrite (bytes : List Byte) (o : Nat) (stored : List Byte) : Mem :=
  Mem.ofList (bytes.take o ++ (stored ++ bytes.drop (o + stored.length))) fun _ => 0

/-- `addr32_from_string`: what it returns, and `*dest`. -/
def addr32FromString (dest : Addr32) (src : List Char) : Option (Bool × Addr32) :=
  (addrFromString 4 src).map fun (ok, stored) =>
    (ok, UInt32.ofNat (le (overwrite (leBytes dest.toNat 4) 0 stored) 0 4))

/-- `addr48_from_string`. -/
def addr48FromString (dest : Addr48) (src : List Char) : Option (Bool × Addr48) :=
  (addrFromString 6 src).map fun (ok, stored) =>
    (ok, UInt64.ofNat (le (overwrite (leBytes dest.toNat 8) 2 stored) 0 8))

/-! ## The grammar -/

/-- One or two hexadecimal digits. -/
structure HexGroup (g : List Char) : Prop where
  length : g.length = 1 ∨ g.length = 2
  digits : ∀ c ∈ g, isxdigit c = true

/-- The groups of a text, with one colon between each two, and their values. -/
inductive AddrText : List Char → List Byte → Prop
  | last {g : List Char} (group : HexGroup g) : AddrText g [UInt8.ofNat (hexValue g)]
  | more {g rest : List Char} {bytes : List Byte} (group : HexGroup g)
      (text : AddrText rest bytes) :
      AddrText (g ++ ':' :: rest) (UInt8.ofNat (hexValue g) :: bytes)

/-- Two characters that are not both colons. -/
def Apart (a b : Char) : Prop := ¬ (a = ':' ∧ b = ':')

instance (a b : Char) : Decidable (Apart a b) := inferInstanceAs (Decidable (¬ _))

/-- The text with one colon for each run of colons. -/
def squeezeColons (src : List Char) : List Char := src.destutter Apart

/-! ## Runs of colons -/

section Colons

variable {c : Char} {src g r : List Char} {bytes : List Byte}

theorem ne_of_isxdigit {d : Char} (digit : isxdigit c = true) (other : isxdigit d = false) :
    c ≠ d := by
  rintro rfl
  rw [digit] at other
  cases other

theorem HexGroup.ne_colon (group : HexGroup g) : ∀ c ∈ g, c ≠ ':' :=
  fun c member => ne_of_isxdigit (group.digits c member) rfl

theorem HexGroup.ne_append_colon (group : HexGroup g) (h rest : List Char) :
    h ++ ':' :: rest ≠ g := by
  intro same
  have colon : ':' ∈ h ++ ':' :: rest := List.mem_append_right _ List.mem_cons_self
  rw [same] at colon
  exact group.ne_colon _ colon rfl

theorem squeezeColons_cons (ne : c ≠ ':') (rest : List Char) :
    squeezeColons (c :: rest) = c :: squeezeColons rest := by
  cases rest with
  | nil => rfl
  | cons d rest => exact List.destutter'_cons_pos _ fun colons => ne colons.1

theorem squeezeColons_colon (rest : List Char) :
    squeezeColons (':' :: rest) = ':' :: squeezeColons (rest.dropWhile (· = ':')) := by
  induction rest with
  | nil => rfl
  | cons d rest ih =>
      by_cases colon : d = ':'
      · subst colon
        have drops : (':' :: rest).dropWhile (· = ':') = rest.dropWhile (· = ':') := by simp
        rw [drops, ← ih]
        exact List.destutter'_cons_neg _ fun apart : Apart ':' ':' => apart ⟨rfl, rfl⟩
      · have stays : (d :: rest).dropWhile (· = ':') = d :: rest := by simp [colon]
        rw [stays]
        exact List.destutter'_cons_pos _ fun colons => colon colons.2

theorem squeezeColons_append (free : ∀ c ∈ g, c ≠ ':') (rest : List Char) :
    squeezeColons (g ++ ':' :: rest) = g ++ ':' :: squeezeColons (rest.dropWhile (· = ':')) := by
  induction g with
  | nil => exact squeezeColons_colon rest
  | cons c g ih =>
      rw [List.cons_append, squeezeColons_cons (free c List.mem_cons_self),
        ih fun d member => free d (List.mem_cons_of_mem _ member), List.cons_append]

theorem squeezeColons_head (src : List Char) : (squeezeColons src).head? = src.head? := by
  cases src with
  | nil => rfl
  | cons c rest =>
      by_cases colon : c = ':'
      · subst colon
        rw [squeezeColons_colon]
        rfl
      · rw [squeezeColons_cons colon]
        rfl

theorem exists_cons_of_squeezeColons (squeezed : squeezeColons src = c :: r) :
    ∃ rest, src = c :: rest := by
  have first := squeezeColons_head src
  rw [squeezed] at first
  cases src with
  | nil => cases first
  | cons d rest =>
      obtain rfl := Option.some.inj first
      exact ⟨rest, rfl⟩

/-- What a text begins with, up to the first colon, is as it was. -/
theorem eq_append_of_squeezeColons (free : ∀ c ∈ g, c ≠ ':')
    (squeezed : squeezeColons src = g ++ ':' :: r) :
    ∃ rest, src = g ++ ':' :: rest ∧ squeezeColons (rest.dropWhile (· = ':')) = r := by
  induction g generalizing src with
  | nil =>
      obtain ⟨rest, rfl⟩ := exists_cons_of_squeezeColons squeezed
      rw [squeezeColons_colon] at squeezed
      exact ⟨rest, rfl, (List.cons.inj squeezed).2⟩
  | cons c g ih =>
      obtain ⟨rest, rfl⟩ := exists_cons_of_squeezeColons squeezed
      rw [squeezeColons_cons (free c List.mem_cons_self)] at squeezed
      obtain ⟨rest', same, squeezed⟩ := ih
        (fun d member => free d (List.mem_cons_of_mem _ member)) (List.cons.inj squeezed).2
      exact ⟨rest', by rw [same, List.cons_append], squeezed⟩

/-- A text without colons is as it was. -/
theorem eq_of_squeezeColons (free : ∀ c ∈ g, c ≠ ':') (squeezed : squeezeColons src = g) :
    src = g := by
  induction g generalizing src with
  | nil => exact (List.destutter_eq_nil Apart).mp squeezed
  | cons c g ih =>
      obtain ⟨rest, rfl⟩ := exists_cons_of_squeezeColons squeezed
      rw [squeezeColons_cons (free c List.mem_cons_self)] at squeezed
      rw [ih (fun d member => free d (List.mem_cons_of_mem _ member)) (List.cons.inj squeezed).2]

theorem squeezeColons_eq_self (free : ∀ c ∈ g, c ≠ ':') : squeezeColons g = g := by
  induction g with
  | nil => rfl
  | cons c g ih =>
      rw [squeezeColons_cons (free c List.mem_cons_self),
        ih fun d member => free d (List.mem_cons_of_mem _ member)]

theorem AddrText.length_pos (text : AddrText src bytes) : 0 < bytes.length := by
  cases text with
  | last => exact Nat.succ_pos _
  | more => exact Nat.succ_pos _

/-- A text of the grammar does not begin with a colon. -/
theorem AddrText.dropWhile_eq (text : AddrText src bytes) : src.dropWhile (· = ':') = src := by
  have starts {g : List Char} (group : HexGroup g) (rest : List Char) :
      (g ++ rest).dropWhile (· = ':') = g ++ rest := by
    cases g with
    | nil =>
        rcases group.length with none | none
        · cases none
        · cases none
    | cons c g => simp [group.ne_colon c List.mem_cons_self]
  cases text with
  | last group =>
      have alone := starts group []
      rwa [List.append_nil] at alone
  | more group text => exact starts group _

/-- A text of the grammar has no runs of colons. -/
theorem AddrText.squeezeColons_eq (text : AddrText src bytes) : squeezeColons src = src := by
  induction text with
  | last group => exact squeezeColons_eq_self group.ne_colon
  | more group text ih => rw [squeezeColons_append group.ne_colon, text.dropWhile_eq, ih]

end Colons

/-! ## What the parser reads -/

section Parser

variable {term : Char} {src g rest : List Char} {n : Nat}

@[simp] theorem peek_zero (src : List Char) : peek src 0 = some (src.head?.getD nul) := by
  cases src with
  | nil => rfl
  | cons c rest => rfl

@[simp] theorem peek_cons (c : Char) (rest : List Char) (i : Nat) :
    peek (c :: rest) (i + 1) = peek rest i := by
  simp [peek]

theorem hexGroup_iff : HexGroup g ↔ (∃ a, isxdigit a = true ∧ g = [a]) ∨
    ∃ a b, isxdigit a = true ∧ isxdigit b = true ∧ g = [a, b] := by
  constructor
  · intro group
    rcases group.length with one | two
    · obtain ⟨a, rfl⟩ := List.length_eq_one_iff.mp one
      exact Or.inl ⟨a, group.digits a List.mem_cons_self, rfl⟩
    · obtain ⟨a, b, rfl⟩ := List.length_eq_two.mp two
      exact Or.inr ⟨a, b, group.digits a List.mem_cons_self,
        group.digits b (List.mem_cons_of_mem _ List.mem_cons_self), rfl⟩
  · rintro (⟨a, first, rfl⟩ | ⟨a, b, first, second, rfl⟩)
    · exact ⟨Or.inl rfl, by simpa using first⟩
    · exact ⟨Or.inr rfl, by simpa using ⟨first, second⟩⟩

/-- There is a group at the start of the text, with `term` behind it. -/
def StartsWithGroup (term : Char) (src : List Char) : Prop :=
  ∃ g rest, src = g ++ rest ∧ HexGroup g ∧ rest.head?.getD nul = term

/-- The condition looks at no character beyond the NUL. -/
theorem groupHere_iff (term : Char) (src : List Char) :
    ∃ holds, groupHere term src = some holds ∧ (holds = true ↔ StartsWithGroup term src) := by
  have no {P : Prop} (not : ¬ P) : (false = true ↔ P) := iff_of_false Bool.false_ne_true not
  cases src with
  | nil =>
      refine ⟨false, rfl, no ?_⟩
      rintro ⟨g, rest, empty, group, -⟩
      obtain ⟨rfl, -⟩ := List.append_eq_nil_iff.mp empty.symm
      rcases hexGroup_iff.mp group with ⟨a, -, same⟩ | ⟨a, b, -, -, same⟩ <;> cases same
  | cons a src =>
      cases first : isxdigit a with
      | false =>
          refine ⟨false, by simp [groupHere, first], no ?_⟩
          rintro ⟨g, rest, same, group, -⟩
          rcases hexGroup_iff.mp group with ⟨c, digit, rfl⟩ | ⟨c, d, digit, -, rfl⟩
          · rw [(List.cons.inj same).1, digit] at first
            cases first
          · rw [(List.cons.inj same).1, digit] at first
            cases first
      | true =>
          by_cases ends : src.head?.getD nul = term
          · refine ⟨true, by simp [groupHere, first, ends], iff_of_true rfl ?_⟩
            exact ⟨[a], src, rfl, hexGroup_iff.mpr (Or.inl ⟨a, first, rfl⟩), ends⟩
          cases second : isxdigit (src.head?.getD nul) with
          | false =>
              refine ⟨false, by simp [groupHere, ends, second], no ?_⟩
              rintro ⟨g, rest, same, group, term⟩
              rcases hexGroup_iff.mp group with ⟨c, -, rfl⟩ | ⟨c, d, -, digit, rfl⟩
              · rw [(List.cons.inj same).2] at ends
                exact ends term
              · rw [(List.cons.inj same).2] at second
                exact Bool.false_ne_true (second.symm.trans digit)
          | true =>
              cases src with
              | nil => cases second
              | cons b src =>
                  refine ⟨decide (src.head?.getD nul = term), ?_, ?_⟩
                  · simp only [List.head?_cons, Option.getD_some] at ends second
                    simp [groupHere, first, ends, second]
                  rw [decide_eq_true_iff]
                  constructor
                  · intro term
                    exact ⟨[a, b], src, rfl,
                      hexGroup_iff.mpr (Or.inr ⟨a, b, first, second, rfl⟩), term⟩
                  · rintro ⟨g, rest, same, group, term⟩
                    rcases hexGroup_iff.mp group with ⟨c, -, rfl⟩ | ⟨c, d, -, -, rfl⟩
                    · rw [(List.cons.inj same).2] at ends
                      exact absurd term ends
                    · rw [(List.cons.inj (List.cons.inj same).2).2]
                      exact term

theorem digitValue_lt {c : Char} (digit : isxdigit c = true) : digitValue c < 16 := by
  simp only [isxdigit, charIn, Bool.or_eq_true, Bool.and_eq_true, decide_eq_true_eq] at digit
  simp only [digitValue, charIn, Bool.and_eq_true, decide_eq_true_eq]
  have zero : '0'.toNat = 48 := rfl
  have nine : '9'.toNat = 57 := rfl
  have a : 'a'.toNat = 97 := rfl
  have f : 'f'.toNat = 102 := rfl
  have capitalA : 'A'.toNat = 65 := rfl
  have capitalF : 'F'.toNat = 70 := rfl
  split_ifs <;> omega

/-- The value of a group fits in a byte. -/
theorem HexGroup.value_lt (group : HexGroup g) : hexValue g < 256 := by
  rcases hexGroup_iff.mp group with ⟨a, first, rfl⟩ | ⟨a, b, first, second, rfl⟩
  · have high := digitValue_lt first
    simp only [hexValue, List.foldl_cons, List.foldl_nil]
    omega
  · have high := digitValue_lt first
    have low := digitValue_lt second
    simp only [hexValue, List.foldl_cons, List.foldl_nil]
    omega

theorem not_isspace_of_isxdigit {c : Char} (digit : isxdigit c = true) : isspace c = false := by
  have code : (' ' : Char).toNat = 32 := rfl
  simp only [isxdigit, charIn, Bool.or_eq_true, Bool.and_eq_true, decide_eq_true_eq] at digit
  have zero : '0'.toNat = 48 := rfl
  have a : 'a'.toNat = 97 := rfl
  have capitalA : 'A'.toNat = 65 := rfl
  have notSpace : c ≠ ' ' := by
    rintro rfl
    omega
  simp only [isspace, notSpace, decide_false, Bool.false_or]
  have large : ¬ (9 ≤ c.toNat ∧ c.toNat ≤ 13) := by omega
  simpa using large

/-- A group has no blanks, sign or `0x` in front. -/
theorem strtoul_skips (group : HexGroup g) (ends : rest = [] ∨ ∃ more, rest = ':' :: more) :
    afterPrefix (afterSign ((g ++ rest).dropWhile isspace)).2 = g ++ rest ∧
      (afterSign ((g ++ rest).dropWhile isspace)).1 = false := by
  have sign {a : Char} (digit : isxdigit a = true) (l : List Char) :
      afterSign ((a :: l).dropWhile isspace) = (false, a :: l) := by
    have minus : a ≠ '-' := ne_of_isxdigit digit (by decide)
    have plus : a ≠ '+' := ne_of_isxdigit digit (by decide)
    rw [List.dropWhile_cons_of_neg (by rw [not_isspace_of_isxdigit digit]; decide)]
    simp [afterSign, minus, plus]
  have letter {a b : Char} (other : b ≠ 'x' ∧ b ≠ 'X') (l : List Char) :
      afterPrefix (a :: b :: l) = a :: b :: l := by
    cases l with
    | nil => rfl
    | cons c l => simp [afterPrefix, other.1, other.2]
  rcases hexGroup_iff.mp group with ⟨a, first, rfl⟩ | ⟨a, b, first, second, rfl⟩
  · rw [List.singleton_append, sign first]
    refine ⟨?_, rfl⟩
    rcases ends with rfl | ⟨more, rfl⟩
    · rfl
    · exact letter (by decide) more
  · rw [List.cons_append, sign first]
    exact ⟨letter ⟨ne_of_isxdigit second (by decide), ne_of_isxdigit second (by decide)⟩ rest, rfl⟩

/-- `strtoul` reads the value of a group. -/
theorem strtoul16_group (group : HexGroup g) (ends : rest = [] ∨ ∃ more, rest = ':' :: more) :
    strtoul16 (g ++ rest) = UInt32.ofNat (hexValue g) := by
  obtain ⟨digits, sign⟩ := strtoul_skips group ends
  have all : (g ++ rest).takeWhile isxdigit = g := by
    have stops : rest.takeWhile isxdigit = [] := by
      rcases ends with rfl | ⟨more, rfl⟩ <;> rfl
    rw [List.takeWhile_append_of_pos group.digits, stops, List.append_nil]
  have small := group.value_lt
  unfold strtoul16
  dsimp only
  rw [digits, sign, all, if_neg (by omega), if_neg Bool.false_ne_true]

/-- What is stored for a group is its value. -/
theorem strtoul16_toUInt8 (group : HexGroup g) (ends : rest = [] ∨ ∃ more, rest = ':' :: more) :
    (strtoul16 (g ++ rest)).toUInt8 = UInt8.ofNat (hexValue g) := by
  have small := group.value_lt
  rw [strtoul16_group group ends]
  apply UInt8.toNat_inj.mp
  rw [UInt32.toNat_toUInt8, UInt32.toNat_ofNat', UInt8.toNat_ofNat']
  omega

/-- The next group is behind the next colons. -/
theorem skipColons_append (free : ∀ c ∈ g, c ≠ ':') :
    skipColons (g ++ ':' :: rest) = rest.dropWhile (· = ':') := by
  unfold skipColons
  rw [List.dropWhile_append_of_pos (by simpa using free)]
  simp

/-- A text of the grammar starts with a group. -/
theorem AddrText.startsWithGroup {bytes : List Byte} (text : AddrText (squeezeColons src) bytes) :
    StartsWithGroup (if bytes.length = 1 then nul else ':') src := by
  generalize squeezed : squeezeColons src = squeezed at text
  cases text with
  | last group =>
      refine ⟨_, [], ?_, group, rfl⟩
      rw [List.append_nil]
      exact eq_of_squeezeColons group.ne_colon squeezed
  | more group text =>
      obtain ⟨rest, same, -⟩ := eq_append_of_squeezeColons group.ne_colon squeezed
      have some' := text.length_pos
      rw [List.length_cons, if_neg (by omega)]
      exact ⟨_, ':' :: rest, same, group, rfl⟩

theorem append_colon_inj {g' rest' : List Char} (free : ∀ c ∈ g, c ≠ ':')
    (free' : ∀ c ∈ g', c ≠ ':') (same : g ++ ':' :: rest = g' ++ ':' :: rest') :
    g = g' ∧ rest = rest' := by
  induction g generalizing g' with
  | nil =>
      cases g' with
      | nil => exact ⟨rfl, (List.cons.inj same).2⟩
      | cons c g' => exact absurd (List.cons.inj same).1.symm (free' c List.mem_cons_self)
  | cons c g ih =>
      cases g' with
      | nil => exact absurd (List.cons.inj same).1 (free c List.mem_cons_self)
      | cons d g' =>
          obtain ⟨first, others⟩ := List.cons.inj same
          subst first
          obtain ⟨rfl, rests⟩ := ih (fun d member => free d (List.mem_cons_of_mem _ member))
            (fun d member => free' d (List.mem_cons_of_mem _ member)) others
          exact ⟨rfl, rests⟩

/-- What is behind the first group is a text with one group less. -/
theorem AddrText.behind {bytes : List Byte} (text : AddrText (g ++ ':' :: rest) bytes)
    (free : ∀ c ∈ g, c ≠ ':') : ∃ bytes', AddrText rest bytes' ∧ bytes.length = bytes'.length + 1 := by
  generalize same : g ++ ':' :: rest = src at text
  cases text with
  | last group => exact absurd same (group.ne_append_colon _ _)
  | more group text =>
      obtain ⟨-, rfl⟩ := append_colon_inj free group.ne_colon same
      exact ⟨_, text, rfl⟩

/-- Where there is no group, the parser stores nothing more. -/
theorem addrFromString_of_not_starts (none : ¬ StartsWithGroup (if n = 0 then nul else ':') src) :
    addrFromString (n + 1) src = some (false, []) := by
  obtain ⟨holds, looks, starts⟩ := groupHere_iff (if n = 0 then nul else ':') src
  obtain rfl : holds = false := Bool.eq_false_iff.mpr fun here => none (starts.mp here)
  simp [addrFromString, looks]

/-- The parser stores the last group. -/
theorem addrFromString_last (group : HexGroup g) : addrFromString 1 g =
    some (true, [UInt8.ofNat (hexValue g)]) := by
  have value := strtoul16_toUInt8 group (Or.inl rfl)
  obtain ⟨holds, looks, starts⟩ := groupHere_iff nul g
  obtain rfl : holds = true := starts.mpr ⟨g, [], (List.append_nil g).symm, group, rfl⟩
  rw [List.append_nil] at value
  simp [addrFromString, looks, value]

/-- The parser stores a group and goes on behind the next colons. -/
theorem addrFromString_group (n : Nat) (group : HexGroup g) (rest : List Char) :
    addrFromString (n + 2) (g ++ ':' :: rest) =
      (addrFromString (n + 1) (rest.dropWhile (· = ':'))).map
        (Prod.map id (UInt8.ofNat (hexValue g) :: ·)) := by
  obtain ⟨holds, looks, starts⟩ := groupHere_iff ':' (g ++ ':' :: rest)
  obtain rfl : holds = true := starts.mpr ⟨g, ':' :: rest, rfl, group, rfl⟩
  rw [addrFromString]
  simp only [Nat.add_eq_zero_iff, Nat.one_ne_zero, and_false, if_false, looks,
    skipColons_append group.ne_colon, strtoul16_toUInt8 group (Or.inr ⟨rest, rfl⟩)]
  cases addrFromString (n + 1) (rest.dropWhile (· = ':')) <;> rfl

theorem StartsWithGroup.colon (starts : StartsWithGroup ':' src) :
    ∃ g rest, src = g ++ ':' :: rest ∧ HexGroup g := by
  obtain ⟨g, rest, same, group, colon⟩ := starts
  cases rest with
  | nil => cases colon
  | cons c rest =>
      obtain rfl : c = ':' := colon
      exact ⟨g, rest, same, group⟩

/-- What is in front of the NUL ends with the group. -/
theorem StartsWithGroup.last (noNul : ∀ c ∈ src, c ≠ nul) (starts : StartsWithGroup nul src) :
    HexGroup src := by
  obtain ⟨g, rest, rfl, group, ends⟩ := starts
  cases rest with
  | nil => rwa [List.append_nil]
  | cons c rest =>
      have member : c ∈ g ++ c :: rest := List.mem_append_right _ List.mem_cons_self
      exact absurd ends (noNul c member)

/-- The parser examines nothing beyond the NUL, and accepts a text that has `n + 1`
groups once its runs of colons are squeezed. -/
theorem addrFromString_reads (n : Nat) (src : List Char) (noNul : ∀ c ∈ src, c ≠ nul) :
    ∃ ok stored, addrFromString (n + 1) src = some (ok, stored) ∧
      (ok = true → AddrText (squeezeColons src) stored ∧ stored.length = n + 1) ∧
      ∀ bytes, AddrText (squeezeColons src) bytes → bytes.length = n + 1 → ok = true := by
  induction n generalizing src with
  | zero =>
      by_cases starts : StartsWithGroup nul src
      · have group := starts.last noNul
        refine ⟨true, _, addrFromString_last group, fun _ => ?_, fun _ _ _ => rfl⟩
        rw [squeezeColons_eq_self group.ne_colon]
        exact ⟨.last group, rfl⟩
      · refine ⟨false, [], addrFromString_of_not_starts starts, (fun h => by cases h), ?_⟩
        intro bytes text one
        have there := text.startsWithGroup
        rw [if_pos one] at there
        exact absurd there starts
  | succ n ih =>
      by_cases starts : StartsWithGroup ':' src
      · obtain ⟨g, rest, rfl, group⟩ := starts.colon
        have noNul' : ∀ c ∈ rest.dropWhile (· = ':'), c ≠ nul := fun c member =>
          noNul c (List.mem_append_right _
            (List.mem_cons_of_mem _ ((List.dropWhile_sublist _).subset member)))
        obtain ⟨ok, stored, reads, sound, complete⟩ := ih _ noNul'
        have squeezed := squeezeColons_append group.ne_colon rest
        refine ⟨ok, UInt8.ofNat (hexValue g) :: stored, ?_, fun accepts => ?_, ?_⟩
        · rw [addrFromString_group n group, reads]
          rfl
        · obtain ⟨text, length⟩ := sound accepts
          rw [squeezed]
          exact ⟨.more group text, by rw [List.length_cons, length]⟩
        · intro bytes text length
          rw [squeezed] at text
          obtain ⟨bytes', text, length'⟩ := text.behind group.ne_colon
          exact complete bytes' text (by omega)
      · refine ⟨false, [], addrFromString_of_not_starts starts, (fun h => by cases h), ?_⟩
        intro bytes text more
        have there := text.startsWithGroup
        rw [if_neg (by omega)] at there
        exact absurd there starts

end Parser

/-! ## What is stored -/

section Stored

variable {bytes stored : List Byte} {o : Nat}

theorem overwrite_holds (inside : o ≤ bytes.length) : (overwrite bytes o stored).Holds o stored := by
  have all := Mem.ofList_holds (bytes.take o ++ (stored ++ bytes.drop (o + stored.length)))
    fun _ => 0
  have behind := all.right.left
  rwa [List.length_take, Nat.min_eq_left inside, Nat.zero_add] at behind

theorem addr32Out_overwrite (dest : Addr32) (four : stored.length = 4) :
    addr32Out (.ofNat (le (overwrite (leBytes dest.toNat 4) 0 stored) 0 4)) = stored := by
  have holds : (overwrite (leBytes dest.toNat 4) 0 stored).Holds 0 stored :=
    overwrite_holds (Nat.zero_le _)
  have read := holds.slice
  rw [four] at read
  unfold addr32Out
  rw [UInt32.toNat_ofNat_of_lt' (le_lt _ _ _), leBytes_le, read]

theorem addr48Out_overwrite (dest : Addr48) (six : stored.length = 6) :
    addr48Out (.ofNat (le (overwrite (leBytes dest.toNat 8) 2 stored) 0 8)) = stored := by
  have holds : (overwrite (leBytes dest.toNat 8) 2 stored).Holds 2 stored :=
    overwrite_holds (by rw [length_leBytes]; decide)
  have parts (m : Mem) : le m 0 8 / 65536 = le m 2 6 := by
    have first := (m 0).toNat_lt
    have second := (m 1).toNat_lt
    change ((m 0).toNat + 256 * ((m 1).toNat + 256 * le m 2 6)) / 65536 = _
    omega
  unfold addr48Out
  rw [UInt64.toNat_ofNat_of_lt' (le_lt _ _ _), parts, leBytes_le, ← six, holds.slice]

end Stored

/-! ## Which texts are read right -/

/-- `result` is what a parser for `n` groups is to return and store for `src`; it has
no value if the parser examined something beyond the NUL. -/
def ReadsAddr (n : Nat) (src : List Char) (result : Option (Bool × List Byte)) : Prop :=
  ∃ ok stored, result = some (ok, stored) ∧
    (ok = true ↔ ∃ bytes, AddrText src bytes ∧ bytes.length = n) ∧
    (ok = true → AddrText src stored)

/-- The text has no run of colons, or is no address with one colon for each run. -/
def SqueezesRight (n : Nat) (src : List Char) : Prop :=
  src.IsChain Apart ∨ ¬ ∃ bytes, AddrText (squeezeColons src) bytes ∧ bytes.length = n

theorem readsAddr_iff {n : Nat} {src : List Char} {ok : Bool} {stored : List Byte}
    (sound : ok = true → AddrText (squeezeColons src) stored ∧ stored.length = n)
    (complete : ∀ bytes, AddrText (squeezeColons src) bytes → bytes.length = n → ok = true) :
    ReadsAddr n src (some (ok, stored)) ↔ SqueezesRight n src := by
  constructor
  · rintro ⟨ok', stored', same, accepts, -⟩
    obtain ⟨rfl, rfl⟩ := Prod.mk.inj (Option.some.inj same)
    by_contra wrong
    obtain ⟨runs, squeezed⟩ := not_or.mp wrong
    obtain ⟨bytes, text, length⟩ := not_not.mp squeezed
    obtain ⟨bytes, text, -⟩ := accepts.mp (complete bytes text length)
    exact runs ((List.destutter_eq_self_iff Apart src).mp text.squeezeColons_eq)
  · intro right
    -- Either way a text of the grammar is one that the parser accepts, and the reverse.
    have agrees : (∃ bytes, AddrText (squeezeColons src) bytes ∧ bytes.length = n) →
        squeezeColons src = src := by
      intro text
      rcases right with apart | wrong
      · exact (List.destutter_eq_self_iff Apart src).mpr apart
      · exact absurd text wrong
    have sound' : ok = true → AddrText src stored ∧ stored.length = n := by
      intro accepts
      have text := sound accepts
      rwa [agrees ⟨stored, text⟩] at text
    refine ⟨ok, stored, rfl, ⟨fun accepts => ⟨stored, sound' accepts⟩, ?_⟩,
      fun accepts => (sound' accepts).1⟩
    rintro ⟨bytes, text, length⟩
    refine complete bytes ?_ length
    rwa [text.squeezeColons_eq]

/-- Both parsers read a text right if and only if it has no two colons in a row, or is
no address when one colon is left of each run of them. -/
theorem addrFromString_iff (s : AsciiString) (dest32 : Addr32) (dest48 : Addr48) :
    (ReadsAddr 4 s.chars ((addr32FromString dest32 s.chars).map (Prod.map id addr32Out)) ↔
      SqueezesRight 4 s.chars) ∧
    (ReadsAddr 6 s.chars ((addr48FromString dest48 s.chars).map (Prod.map id addr48Out)) ↔
      SqueezesRight 6 s.chars) := by
  have noNul : ∀ c ∈ s.chars, c ≠ nul := by
    rintro c member rfl
    exact absurd (s.ascii nul member).1 (by decide)
  constructor
  · obtain ⟨ok, stored, reads, sound, complete⟩ := addrFromString_reads 3 s.chars noNul
    unfold addr32FromString
    rw [reads]
    refine readsAddr_iff (fun accepts => ?_) complete
    obtain ⟨text, four⟩ := sound accepts
    rw [addr32Out_overwrite dest32 four]
    exact ⟨text, four⟩
  · obtain ⟨ok, stored, reads, sound, complete⟩ := addrFromString_reads 5 s.chars noNul
    unfold addr48FromString
    rw [reads]
    refine readsAddr_iff (fun accepts => ?_) complete
    obtain ⟨text, six⟩ := sound accepts
    rw [addr48Out_overwrite dest48 six]
    exact ⟨text, six⟩

def doubleColonText : List Char := ['0', ':', ':', '0', ':', '0', ':', '0']

theorem doubleColonText_ascii : ∀ c ∈ doubleColonText, 0 < c.toNat ∧ c.toNat < 128 := by
  simp [doubleColonText]

/-- `0::0:0:0`. -/
def doubleColon : AsciiString := ⟨doubleColonText, doubleColonText_ascii⟩

/-- It is accepted. -/
theorem doubleColon_misread :
    ¬ ∀ (s : AsciiString) (dest32 : Addr32) (dest48 : Addr48),
      ReadsAddr 4 s.chars ((addr32FromString dest32 s.chars).map (Prod.map id addr32Out)) ∧
      ReadsAddr 6 s.chars ((addr48FromString dest48 s.chars).map (Prod.map id addr48Out)) := by
  intro reads
  obtain ⟨⟨ok, stored, result, -, text⟩, -⟩ := reads doubleColon 0 0
  have accepted : (addr32FromString 0 doubleColon.chars).map (Prod.map id addr32Out) =
      some (true, [0, 0, 0, 0]) := by
    decide
  obtain ⟨rfl, rfl⟩ := Prod.mk.inj (Option.some.inj (accepted.symm.trans result))
  exact absurd (text rfl).squeezeColons_eq (by decide)

end IpxWrapper
