import IpxWrapper.IniConfig
import IpxWrapper.IniWritten

/-!
# A configuration written to `ipxwrapper.ini` (`config.c`)

A configuration that directives of a line each can set is written as the directives that set it,
and is what `get_main_config` reads then, whatever the registry has (`iniConfig_roundTrip`).
-/

namespace IpxWrapper

open Base Base.Members

/-! ## Directives for a configuration -/

/-- A number in decimal. -/
def decimal (n : Nat) : List Byte := literal (Nat.toDigits 10 n)

def yesNoWord (b : Bool) : List Byte := if b then yesWord else noWord

def logLevelWord (level : UInt32) : List Byte :=
  if level = LOG_DISABLED then noneWord
  else if level = LOG_INFO then infoWord
  else if level = LOG_DEBUG then debugWord
  else traceWord

/-- The default has no directive: the address of no server cannot be set. -/
def addressTexts (address : Option CString) : List IniText :=
  (address.map fun address => .item (.directive serverAddressName address.bytes)).toList

/-- Nor can a limit of zero. -/
def limitTexts (name : List Byte) (limit : UInt32) : List IniText :=
  if limit = 0 then [] else [.item (.directive name (decimal limit.toNat))]

def configTexts (config : MainConfig) : List IniText :=
  addressTexts config.dosboxServerAddr ++
    [.item (.directive serverPortName (decimal config.dosboxServerPort.toNat)),
      .item (.directive coalescePacketsName (yesNoWord config.dosboxCoalesce)),
      .item (.directive firewallExceptionName (yesNoWord config.fwExcept)),
      .item (.directive loggingName (logLevelWord config.logLevel))] ++
    limitTexts packetLimitName config.rateLimitPackets ++
    limitTexts byteLimitName config.rateLimitBytes

/-- The address can be told from the line of its directive, as it is written here, and fits it:
of the 198 bytes of a line the name and what stands between take 24. -/
structure AddressLegible (address : CString) : Prop where
  trimmed : Trimmed isspaceByte address.bytes
  whole : Uncut (iniStop []) (some space) address.bytes
  plain : newline ∉ address.bytes
  fits : address.bytes.length ≤ 174

/-- Directives of a line each, as they are written here, can set the configuration. -/
structure Expressible (config : MainConfig) : Prop where
  udpPort : config.udpPort = MainConfig.default.udpPort
  w95Bug : config.w95Bug = MainConfig.default.w95Bug
  frameType : config.frameType = MainConfig.default.frameType
  profile : config.profile = MainConfig.default.profile
  encap : config.encapType =
    if config.dosboxServerAddr.isSome then ENCAP_TYPE_DOSBOX else ENCAP_TYPE_IPXWRAPPER
  address : ∀ address ∈ config.dosboxServerAddr, AddressLegible address
  port : config.dosboxServerPort ≠ 0
  level : config.logLevel ∈ [LOG_DISABLED, LOG_INFO, LOG_DEBUG, LOG_CALL]
  packets : config.rateLimitPackets.toNat < 2 ^ 31
  bytes : config.rateLimitBytes.toNat < 2 ^ 31

/-! ## Numbers -/

section Numbers

variable {c : Byte} {n : Nat}

theorem toNat_of_isDigit {d : Char} (digit : d.isDigit = true) :
    d.toUInt8.toNat = d.toNat ∧ 48 ≤ d.toNat ∧ d.toNat ≤ 57 := by
  have range : 48 ≤ d.toNat ∧ d.toNat ≤ 57 := Char.isDigit_iff_toNat.mp digit
  have small : d.toUInt8.toNat = d.toNat % 2 ^ 8 := UInt32.toNat_toUInt8 d.val
  exact ⟨small.trans (Nat.mod_eq_of_lt (by omega)), range⟩

theorem isDigit_of_mem_toDigits {d : Char} (member : d ∈ Nat.toDigits 10 n) : d.isDigit = true :=
  Nat.isDigit_of_mem_toDigits (by decide) (by decide) member

theorem isdigitByte_of_mem_decimal (member : c ∈ decimal n) : isdigitByte c = true := by
  obtain ⟨d, digit, rfl⟩ := List.mem_map.mp member
  obtain ⟨same, range⟩ := toNat_of_isDigit (isDigit_of_mem_toDigits digit)
  rw [← same] at range
  simpa [isdigitByte, UInt8.le_iff_toNat_le] using range

theorem decimalValue_decimal (n : Nat) : decimalValue (decimal n) = n := by
  have value : decimalValue (decimal n) = Nat.ofDigitChars 10 (Nat.toDigits 10 n) 0 := by
    unfold decimalValue decimal literal Nat.ofDigitChars
    rw [List.foldl_map]
    refine List.foldl_ext _ _ _ fun value d digit => ?_
    rw [(toNat_of_isDigit (isDigit_of_mem_toDigits digit)).1]
    rfl
  rw [value, Nat.ofDigitChars_ten_toDigits]

theorem length_decimal_le (small : n < 10 ^ 10) : (decimal n).length ≤ 10 := by
  unfold decimal literal
  rw [List.length_map]
  exact (Nat.length_toDigits_le_iff (by decide) (by decide)).mpr small

theorem ne_of_isdigitByte {d : Byte} (digit : isdigitByte c = true) (other : isdigitByte d = false) :
    c ≠ d := by
  rintro rfl
  rw [digit] at other
  cases other

theorem not_isspace_of_isdigitByte (digit : isdigitByte c = true) : isspaceByte c = false := by
  simp only [isdigitByte, isspaceByte, Bool.and_eq_true, decide_eq_true_eq, Bool.or_eq_false_iff,
    decide_eq_false_iff_not, Bool.and_eq_false_iff, UInt8.le_iff_toNat_le, ← UInt8.toNat_inj,
    UInt8.reduceToNat] at digit ⊢
  omega

theorem atoi_decimal (small : n < 2 ^ 31) : atoi (decimal n) = n := by
  have first (c : Byte) (head : c ∈ (decimal n).head?) : isdigitByte c = true :=
    isdigitByte_of_mem_decimal (List.mem_of_mem_head? head)
  have no_space : ([] ++ decimal n).dropWhile isspaceByte = decimal n :=
    dropWhile_pad (fun _ member => absurd member List.not_mem_nil)
      fun c head => not_isspace_of_isdigitByte (first c head)
  rw [List.nil_append] at no_space
  have no_sign (sign : Byte) (other : isdigitByte sign = false) : ¬ (decimal n).head? = some sign :=
    fun head => ne_of_isdigitByte (first sign head) other rfl
  have no_minus := no_sign '-'.toUInt8 (by decide)
  have no_plus := no_sign '+'.toUInt8 (by decide)
  have all : (decimal n).takeWhile isdigitByte = decimal n :=
    List.takeWhile_eq_self_iff.mpr fun c => isdigitByte_of_mem_decimal
  unfold atoi
  dsimp only
  rw [no_space, if_neg (not_or.mpr ⟨no_minus, no_plus⟩), if_neg no_minus, all, decimalValue_decimal]
  omega

end Numbers

/-! ## The file -/

/-- What a directive can be written for. -/
structure ValueLegible (value : List Byte) : Prop where
  trimmed : Trimmed isspaceByte value
  whole : Uncut (iniStop []) (some space) value
  plain : ∀ c ∈ value, c ≠ 0 ∧ c ≠ newline
  fits : value.length ≤ 174

def directiveNames : List (List Byte) :=
  [serverAddressName, serverPortName, coalescePacketsName, firewallExceptionName, loggingName,
    packetLimitName, byteLimitName]

section File

variable {config : MainConfig} {value name : List Byte} {n : Nat}

theorem AddressLegible.valueLegible {address : CString} (legible : AddressLegible address) :
    ValueLegible address.bytes :=
  ⟨legible.trimmed, legible.whole,
    fun c member => ⟨address.noNul c member, ne_of_mem_of_not_mem member legible.plain⟩, legible.fits⟩

theorem valueLegible_decimal (small : n < 2 ^ 32) : ValueLegible (decimal n) := by
  have digit (c : Byte) (member : c ∈ decimal n) := isdigitByte_of_mem_decimal member
  have short := length_decimal_le (Nat.lt_trans small (by decide))
  refine ⟨⟨fun c head => ?_, fun c last => ?_⟩, uncut_of_forall fun c member last => ?_,
    fun c member => ⟨?_, ?_⟩, Nat.le_trans short (by decide)⟩
  · exact not_isspace_of_isdigitByte (digit c (List.mem_of_mem_head? head))
  · exact not_isspace_of_isdigitByte (digit c (List.mem_of_mem_getLast? last))
  · exact iniStop_of_not_mem List.not_mem_nil (ne_of_isdigitByte (digit c member) (by decide)) last
  · exact ne_of_isdigitByte (digit c member) (by decide)
  · exact ne_of_isdigitByte (digit c member) (by decide)

/-- The words that are values. -/
theorem valueLegible_word
    (word : value ∈ [yesWord, noWord, noneWord, infoWord, debugWord, traceWord]) :
    ValueLegible value := by
  have words : ∀ value ∈ [yesWord, noWord, noneWord, infoWord, debugWord, traceWord],
      (Trimmed isspaceByte value ∧ Uncut (iniStop []) (some space) value) ∧
        (∀ c ∈ value, c ≠ 0 ∧ c ≠ newline) ∧ value.length ≤ 174 := by decide
  obtain ⟨⟨trimmed, whole⟩, plain, fits⟩ := words value word
  exact ⟨trimmed, whole, plain, fits⟩

theorem writable_directive (known : name ∈ directiveNames) (legible : ValueLegible value) (named : Prop) :
    (IniText.item (.directive name value)).Writable named := by
  have names : ∀ name ∈ directiveNames, (Trimmed isspaceByte name ∧
      Uncut (iniStop (literal ['=', ':'])) none name ∧
      ∃ c ∈ name.head?, c ∉ iniStartCommentPrefixes ∧ c ≠ '['.toUInt8) ∧
      (∀ c ∈ name, c ≠ 0 ∧ c ≠ newline) ∧ name.length ≤ 21 := by decide
  obtain ⟨⟨trimmed, whole, first⟩, plain, short⟩ := names name known
  refine ⟨⟨trimmed, whole, first, legible.trimmed, legible.whole⟩, fun c member => ?_, ?_⟩
  · have middle : ∀ c ∈ [space, '='.toUInt8, space], c ≠ 0 ∧ c ≠ newline := by decide
    rcases List.mem_append.mp member with in_name | later
    · exact plain c in_name
    · rcases List.mem_append.mp (show c ∈ [space, '='.toUInt8, space] ++ value from later) with
        between | in_value
      · exact middle c between
      · exact legible.plain c in_value
  · have fits := legible.fits
    unfold IniText.written IniItem.written
    rw [List.length_append, List.length_cons, List.length_cons, List.length_cons]
    omega

/-- The line is for a directive that is known, and can be written. -/
def GoodDirective (text : IniText) : Prop :=
  ∃ name value, text = .item (.directive name value) ∧ name ∈ directiveNames ∧ ValueLegible value

theorem allWritable_of_good {texts : List IniText} (good : ∀ text ∈ texts, GoodDirective text)
    (place : IniPlace) : AllWritable place texts := by
  induction texts generalizing place with
  | nil => exact trivial
  | cons text texts ih =>
      obtain ⟨name, value, rfl, known, legible⟩ := good text List.mem_cons_self
      exact ⟨writable_directive known legible _,
        ih (fun text member => good text (List.mem_cons_of_mem _ member)) _⟩

theorem good_limitTexts {limit : UInt32} (known : name ∈ directiveNames) {text : IniText}
    (member : text ∈ limitTexts name limit) : GoodDirective text := by
  unfold limitTexts at member
  split at member
  · cases member
  · obtain rfl := List.mem_singleton.mp member
    exact ⟨name, _, rfl, known, valueLegible_decimal limit.toNat_lt⟩

theorem good_configTexts (expressible : Expressible config) {text : IniText}
    (member : text ∈ configTexts config) : GoodDirective text := by
  unfold configTexts at member
  rcases List.mem_append.mp member with member | member
  · rcases List.mem_append.mp member with member | member
    · rcases List.mem_append.mp member with member | member
      · unfold addressTexts at member
        obtain ⟨address, is_set, rfl⟩ := Option.map_eq_some_iff.mp (Option.mem_toList.mp member)
        exact ⟨_, _, rfl, by decide, (expressible.address address is_set).valueLegible⟩
      · have port := valueLegible_decimal (Nat.lt_trans config.dosboxServerPort.toNat_lt
          (by decide : 2 ^ 16 < 2 ^ 32))
        have coalesce : ValueLegible (yesNoWord config.dosboxCoalesce) :=
          valueLegible_word (by unfold yesNoWord; split <;> decide)
        have firewall : ValueLegible (yesNoWord config.fwExcept) :=
          valueLegible_word (by unfold yesNoWord; split <;> decide)
        have level : ValueLegible (logLevelWord config.logLevel) :=
          valueLegible_word (by unfold logLevelWord; split_ifs <;> decide)
        simp only [List.mem_cons, List.not_mem_nil, or_false] at member
        rcases member with rfl | rfl | rfl | rfl
        · exact ⟨_, _, rfl, by decide, port⟩
        · exact ⟨_, _, rfl, by decide, coalesce⟩
        · exact ⟨_, _, rfl, by decide, firewall⟩
        · exact ⟨_, _, rfl, by decide, level⟩
    · exact good_limitTexts (by decide) member
  · exact good_limitTexts (by decide) member

/-- The value that a line sets, in front of any section. -/
def IniText.sets {α : Type} (name : List Byte) (parse : List Byte → Option α) : IniText → Option α
  | item (.directive name' value) => if name' = name then parse value else none
  | _ => none

/-- Directives set what their lines do. -/
theorem lastValid_textsEvents {α : Type} (name : List Byte) (parse : List Byte → Option α)
    {texts : List IniText} (good : ∀ text ∈ texts, GoodDirective text) {place : IniPlace}
    (front : place.sectionName = []) (lineno : Nat) :
    lastValid name (fun value _ => parse value) (textsEvents place lineno texts) =
      (texts.filterMap (IniText.sets name parse)).getLast? := by
  have same : (textsEvents place lineno texts).filterMap
      (IniEvent.sets name fun value _ => parse value) = texts.filterMap (IniText.sets name parse) := by
    induction texts generalizing place lineno with
    | nil => rfl
    | cons text texts ih =>
        obtain ⟨name', value, rfl, -, -⟩ := good text List.mem_cons_self
        have front' : ((IniItem.directive name' value).move place).sectionName = [] := front
        have rest := ih (fun text member => good text (List.mem_cons_of_mem _ member)) front'
          (lineno + 1)
        have here : (IniEvent.call place.sectionName name' value (lineno + 1)).sets name
            (fun value _ => parse value) = (IniText.item (.directive name' value)).sets name parse := by
          simp [IniEvent.sets, IniText.sets, front]
        unfold textsEvents IniText.stands
        rw [List.filterMap_append, rest, ← List.singleton_append, List.filterMap_append]
        refine congrArg (· ++ _) ?_
        exact congrArg (fun v => [v].filterMap id) here
  unfold lastValid
  rw [same]

theorem badLines_textsEvents (place : IniPlace) (lineno : Nat) (texts : List IniText) :
    badLines (textsEvents place lineno texts) = [] := by
  induction texts generalizing place lineno with
  | nil => rfl
  | cons text texts ih =>
      unfold textsEvents badLines
      rw [List.filterMap_append, ← badLines, ← badLines, ih]
      cases text.stands <;> rfl

/-! ### Values that are read again -/

theorem portOf_decimal {port : UInt16} (nonzero : port ≠ 0) :
    portOf (decimal port.toNat) = some port := by
  have small := port.toNat_lt
  have positive : port.toNat ≠ 0 := fun zero => nonzero (UInt16.toNat_inj.mp zero)
  unfold portOf
  dsimp only
  rw [atoi_decimal (by omega), if_pos (by omega), Int.toNat_natCast, UInt16.ofNat_toNat]

theorem limitOf_decimal {limit : UInt32} (nonzero : limit ≠ 0) (small : limit.toNat < 2 ^ 31) :
    limitOf (decimal limit.toNat) = some limit := by
  have positive : limit.toNat ≠ 0 := fun zero => nonzero (UInt32.toNat_inj.mp zero)
  unfold limitOf
  dsimp only
  rw [atoi_decimal small, if_pos (by omega), Int.toNat_natCast, UInt32.ofNat_toNat]

theorem yesNoOf_yesNoWord (b : Bool) : yesNoOf (yesNoWord b) = some b := by
  cases b <;> decide

theorem logLevelOf_logLevelWord {level : UInt32}
    (known : level ∈ [LOG_DISABLED, LOG_INFO, LOG_DEBUG, LOG_CALL]) :
    logLevelOf (logLevelWord level) = some level := by
  have levels : ∀ level ∈ [LOG_DISABLED, LOG_INFO, LOG_DEBUG, LOG_CALL],
      logLevelOf (logLevelWord level) = some level := by decide
  exact levels level known

theorem ofBytes_bytes (address : CString) : CString.ofBytes address.bytes = address := by
  have whole : address.bytes.takeWhile (· ≠ 0) = address.bytes :=
    List.takeWhile_eq_self_iff.mpr fun c member => decide_eq_true (address.noNul c member)
  cases address
  unfold CString.ofBytes
  exact CString.mk.injEq .. ▸ whole

/-- A limit that was written, or is zero, is what is read. -/
theorem limit_written {limit : UInt32} (small : limit.toNat < 2 ^ 31) (name : List Byte) :
    ((limitTexts name limit).filterMap (IniText.sets name limitOf)).getLast?.getD 0 = limit := by
  unfold limitTexts
  split
  · rename_i zero
    exact zero.symm
  · rename_i nonzero
    rw [List.filterMap_cons, IniText.sets, if_pos rfl, limitOf_decimal nonzero small]
    rfl

theorem sets_limitTexts {α : Type} {other : List Byte} (different : other ≠ name)
    (parse : List Byte → Option α) (limit : UInt32) :
    (limitTexts other limit).filterMap (IniText.sets name parse) = [] := by
  unfold limitTexts
  split
  · rfl
  · rw [List.filterMap_cons, IniText.sets, if_neg different]
    rfl

theorem sets_addressTexts {α : Type} (different : serverAddressName ≠ name)
    (parse : List Byte → Option α) (address : Option CString) :
    (addressTexts address).filterMap (IniText.sets name parse) = [] := by
  cases address with
  | none => rfl
  | some address =>
      unfold addressTexts
      rw [Option.map_some, Option.toList_some, List.filterMap_cons, IniText.sets, if_neg different]
      rfl

theorem filterMap_configTexts {α : Type} (name : List Byte) (parse : List Byte → Option α) :
    (configTexts config).filterMap (IniText.sets name parse) =
      (addressTexts config.dosboxServerAddr).filterMap (IniText.sets name parse) ++
        [.item (.directive serverPortName (decimal config.dosboxServerPort.toNat)),
          .item (.directive coalescePacketsName (yesNoWord config.dosboxCoalesce)),
          .item (.directive firewallExceptionName (yesNoWord config.fwExcept)),
          .item (.directive loggingName (logLevelWord config.logLevel))].filterMap
            (IniText.sets name parse) ++
        (limitTexts packetLimitName config.rateLimitPackets).filterMap (IniText.sets name parse) ++
        (limitTexts byteLimitName config.rateLimitBytes).filterMap (IniText.sets name parse) := by
  unfold configTexts
  rw [List.filterMap_append, List.filterMap_append, List.filterMap_append]

/-- What a directive of the four that are always written sets is read from them alone. -/
theorem lastValid_always {α : Type} (expressible : Expressible config)
    (address : serverAddressName ≠ name) (packets : packetLimitName ≠ name)
    (bytes : byteLimitName ≠ name) (parse : List Byte → Option α) :
    lastValid name (fun value _ => parse value) (textsEvents .start 0 (configTexts config)) =
      ([.item (.directive serverPortName (decimal config.dosboxServerPort.toNat)),
        .item (.directive coalescePacketsName (yesNoWord config.dosboxCoalesce)),
        .item (.directive firewallExceptionName (yesNoWord config.fwExcept)),
        .item (.directive loggingName (logLevelWord config.logLevel))].filterMap
          (IniText.sets name parse)).getLast? := by
  rw [lastValid_textsEvents name parse (fun _ => good_configTexts expressible) rfl,
    filterMap_configTexts, sets_addressTexts address, sets_limitTexts packets,
    sets_limitTexts bytes, List.nil_append, List.append_nil, List.append_nil]

/-- The directives for a configuration set it. -/
theorem configOf_configTexts (expressible : Expressible config) :
    configOf (fun _ => true) (textsEvents .start 0 (configTexts config)) = config := by
  have sets {α : Type} (name : List Byte) (parse : List Byte → Option α) :=
    lastValid_textsEvents name parse (fun _ => good_configTexts expressible)
      (rfl : IniPlace.start.sectionName = []) 0
  have firewall : lastValid firewallExceptionName (fun value _ => yesNoOf value)
      (textsEvents .start 0 (configTexts config)) = some config.fwExcept := by
    rw [lastValid_always expressible (by decide) (by decide) (by decide)]
    simp +decide [IniText.sets, yesNoOf_yesNoWord]
  have coalesce : lastValid coalescePacketsName (fun value _ => yesNoOf value)
      (textsEvents .start 0 (configTexts config)) = some config.dosboxCoalesce := by
    rw [lastValid_always expressible (by decide) (by decide) (by decide)]
    simp +decide [IniText.sets, yesNoOf_yesNoWord]
  have port : lastValid serverPortName (fun value _ => portOf value)
      (textsEvents .start 0 (configTexts config)) = some config.dosboxServerPort := by
    rw [lastValid_always expressible (by decide) (by decide) (by decide)]
    simp +decide [IniText.sets, portOf_decimal expressible.port]
  have level : lastValid loggingName (fun value _ => logLevelOf value)
      (textsEvents .start 0 (configTexts config)) = some config.logLevel := by
    rw [lastValid_always expressible (by decide) (by decide) (by decide)]
    simp +decide [IniText.sets, logLevelOf_logLevelWord expressible.level]
  have packets : (lastValid packetLimitName (fun value _ => limitOf value)
      (textsEvents .start 0 (configTexts config))).getD 0 = config.rateLimitPackets := by
    rw [sets, filterMap_configTexts, sets_addressTexts (by decide),
      sets_limitTexts (by decide : byteLimitName ≠ packetLimitName)]
    have written := limit_written expressible.packets packetLimitName
    simpa +decide [IniText.sets] using written
  have bytes : (lastValid byteLimitName (fun value _ => limitOf value)
      (textsEvents .start 0 (configTexts config))).getD 0 = config.rateLimitBytes := by
    rw [sets, filterMap_configTexts, sets_addressTexts (by decide),
      sets_limitTexts (by decide : packetLimitName ≠ byteLimitName)]
    have written := limit_written expressible.bytes byteLimitName
    simpa +decide [IniText.sets] using written
  have address : (lastValid serverAddressName (addressOf fun _ => true)
      (textsEvents .start 0 (configTexts config))).getD none = config.dosboxServerAddr := by
    have reads : addressOf (fun _ => true) = fun value _ => some (some (CString.ofBytes value)) := rfl
    rw [reads, sets serverAddressName fun value => some (some (CString.ofBytes value)),
      filterMap_configTexts, sets_limitTexts (by decide), sets_limitTexts (by decide)]
    cases config.dosboxServerAddr with
    | none => simp +decide [addressTexts, IniText.sets]
    | some address => simp +decide [addressTexts, IniText.sets, ofBytes_bytes]
  have encap : (lastValid serverAddressName (encapOf fun _ => true)
      (textsEvents .start 0 (configTexts config))).getD ENCAP_TYPE_IPXWRAPPER = config.encapType := by
    have reads : encapOf (fun _ => true) = fun _ _ => some ENCAP_TYPE_DOSBOX := rfl
    rw [expressible.encap, reads, sets serverAddressName fun _ => some ENCAP_TYPE_DOSBOX,
      filterMap_configTexts, sets_limitTexts (by decide), sets_limitTexts (by decide)]
    cases config.dosboxServerAddr with
    | none => simp +decide [addressTexts, IniText.sets]
    | some address => simp +decide [addressTexts, IniText.sets]
  unfold configOf
  rw [firewall, encap, address, port, coalesce, level, packets, bytes]
  dsimp only
  rw [← expressible.udpPort, ← expressible.w95Bug, ← expressible.frameType, ← expressible.profile]
  rfl

/-- A file with the directives does not begin with a byte order mark. -/
theorem writeTexts_configTexts_begins (config : MainConfig) :
    (writeTexts (configTexts config)).take 3 ≠ iniBom := by
  have first : (writeTexts (configTexts config)).head? = some 'd'.toUInt8 := by
    unfold configTexts addressTexts
    cases config.dosboxServerAddr <;> rfl
  obtain ⟨rest, written⟩ := List.head?_eq_some_iff.mp first
  rw [written, List.take_succ_cons]
  exact fun marked => absurd (List.cons.inj marked).1 (by decide)

/-- What directives can set is read again, and no line is logged, whatever the registry has. -/
theorem iniConfig_roundTrip (expressible : Expressible config) (malloc : Bool) (reg : TypedRegistry) :
    getIniConfig (fun _ => true) (writeTexts (configTexts config)) = (config, 0) ∧
      loadMainConfig false (fun _ => true) malloc (some (writeTexts (configTexts config))) reg =
        config := by
  have means := textsEvents_means_marked
    (allWritable_of_good (fun _ => good_configTexts expressible) .start)
    (Or.inr ⟨rfl, writeTexts_configTexts_begins config⟩)
  have loaded : getIniConfig (fun _ => true) (writeTexts (configTexts config)) = (config, 0) := by
    unfold getIniConfig
    rw [← List.nil_append (writeTexts _), iniParseFile_eq means, failedLines_processIniDirective,
      userAfter_processIniDirective, configOf_configTexts expressible, badLines_textsEvents]
    rfl
  exact ⟨loaded, congrArg Prod.fst loaded⟩

end File

/-- A server, and one limit. -/
def someConfig : MainConfig :=
  { MainConfig.default with
    encapType := ENCAP_TYPE_DOSBOX
    dosboxServerAddr := some ⟨literal ['a', ':', 'b'], by decide⟩
    dosboxServerPort := 2130
    logLevel := LOG_CALL
    rateLimitBytes := 65536 }

theorem iniConfig_roundTrip_someConfig :
    getIniConfig (fun _ => true) (writeTexts (configTexts someConfig)) = (someConfig, 0) ∧
      loadMainConfig false (fun _ => true) true (some (writeTexts (configTexts someConfig))) none =
        someConfig := by
  have address : ∀ address ∈ someConfig.dosboxServerAddr, AddressLegible address := by
    intro address is_set
    obtain rfl := Option.some.inj is_set
    exact ⟨by decide, by decide, by decide, by decide⟩
  have expressible : Expressible someConfig :=
    ⟨rfl, rfl, rfl, rfl, rfl, address, by decide, by decide, by decide, by decide⟩
  exact iniConfig_roundTrip expressible true none

end IpxWrapper
