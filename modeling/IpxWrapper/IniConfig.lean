import IpxWrapper.IniRuns
import IpxWrapper.MainConfig

/-!
# The configuration in `ipxwrapper.ini` (`config.c`)

Where the file can be opened the registry is not read. A setting comes from the last directive
in front of any section that has its name and a valid value, and has its default where there is
none (`iniConfig_lastValid`); so a value out of range is never taken.
-/

namespace IpxWrapper

open Base

/-! ## Directives -/

def ENCAP_TYPE_IPXWRAPPER : UInt32 := 0

def ENCAP_TYPE_DOSBOX : UInt32 := 2

def LOG_CALL : UInt32 := 1

def LOG_DEBUG : UInt32 := 2

def LOG_INFO : UInt32 := 4

def LOG_DISABLED : UInt32 := 7

/-- `isdigit`. -/
def isdigitByte (c : Byte) : Bool := 48 ≤ c && c ≤ 57

/-- The value of decimal digits. -/
def decimalValue (digits : List Byte) : Nat :=
  digits.foldl (fun value c => 10 * value + (c.toNat - 48)) 0

/-- `atoi`; what an `int` cannot hold is the nearest that it can. -/
def atoi (s : List Byte) : Int :=
  let s := s.dropWhile isspaceByte
  let negative := s.head? = some '-'.toUInt8
  let digits := if negative ∨ s.head? = some '+'.toUInt8 then s.tail else s
  let value : Int := decimalValue (digits.takeWhile isdigitByte)
  if negative then max (-value) (-2147483648) else min value 2147483647

def serverAddressName : List Byte := literal
  ['d', 'o', 's', 'b', 'o', 'x', ' ', 's', 'e', 'r', 'v', 'e', 'r', ' ', 'a', 'd', 'd', 'r', 'e', 's', 's']

def serverPortName : List Byte := literal
  ['d', 'o', 's', 'b', 'o', 'x', ' ', 's', 'e', 'r', 'v', 'e', 'r', ' ', 'p', 'o', 'r', 't']

def coalescePacketsName : List Byte := literal
  ['c', 'o', 'a', 'l', 'e', 's', 'c', 'e', ' ', 'p', 'a', 'c', 'k', 'e', 't', 's']

def firewallExceptionName : List Byte := literal
  ['f', 'i', 'r', 'e', 'w', 'a', 'l', 'l', ' ', 'e', 'x', 'c', 'e', 'p', 't', 'i', 'o', 'n']

def loggingName : List Byte := literal ['l', 'o', 'g', 'g', 'i', 'n', 'g']

def packetLimitName : List Byte := literal
  ['s', 'e', 'n', 'd', ' ', 'p', 'a', 'c', 'k', 'e', 't', ' ', 'l', 'i', 'm', 'i', 't']

def byteLimitName : List Byte := literal
  ['s', 'e', 'n', 'd', ' ', 'b', 'y', 't', 'e', ' ', 'l', 'i', 'm', 'i', 't']

def yesWord : List Byte := literal ['y', 'e', 's']

def noWord : List Byte := literal ['n', 'o']

def noneWord : List Byte := literal ['n', 'o', 'n', 'e']

def infoWord : List Byte := literal ['i', 'n', 'f', 'o']

def debugWord : List Byte := literal ['d', 'e', 'b', 'u', 'g']

def traceWord : List Byte := literal ['t', 'r', 'a', 'c', 'e']

/-- A port, if the value is one. -/
def portOf (value : List Byte) : Option UInt16 :=
  let port := atoi value
  if 1 ≤ port ∧ port ≤ 65535 then some (UInt16.ofNat port.toNat) else none

/-- The value of a directive that says yes or no. -/
def yesNoOf (value : List Byte) : Option Bool :=
  if value = yesWord then some true
  else if value = noWord then some false
  else none

def logLevelOf (value : List Byte) : Option UInt32 :=
  if value = noneWord then some LOG_DISABLED
  else if value = infoWord then some LOG_INFO
  else if value = debugWord then some LOG_DEBUG
  else if value = traceWord then some LOG_CALL
  else none

/-- The value of a directive that sets a limit. -/
def limitOf (value : List Byte) : Option UInt32 :=
  let limit := atoi value
  if 0 < limit then some (UInt32.ofNat limit.toNat) else none

/-- `process_ini_directive`; `strdup` tells in which lines there is memory for the server address.
A value that is not valid is logged, and so is an unknown directive. -/
def processIniDirective (strdup : Nat → Bool) : IniHandler MainConfig :=
  fun config sectionName name value lineno =>
    if sectionName ≠ [] then
      (config, true)
    else if name = serverAddressName then
      if strdup lineno then
        ({ config with
            dosboxServerAddr := some (.ofBytes value)
            encapType := ENCAP_TYPE_DOSBOX }, true)
      else
        ({ config with dosboxServerAddr := none }, true)
    else if name = serverPortName then
      ({ config with dosboxServerPort := (portOf value).getD config.dosboxServerPort }, true)
    else if name = coalescePacketsName then
      ({ config with dosboxCoalesce := (yesNoOf value).getD config.dosboxCoalesce }, true)
    else if name = firewallExceptionName then
      ({ config with fwExcept := (yesNoOf value).getD config.fwExcept }, true)
    else if name = loggingName then
      ({ config with logLevel := (logLevelOf value).getD config.logLevel }, true)
    else if name = packetLimitName then
      ({ config with rateLimitPackets := (limitOf value).getD config.rateLimitPackets }, true)
    else if name = byteLimitName then
      ({ config with rateLimitBytes := (limitOf value).getD config.rateLimitBytes }, true)
    else
      (config, true)

/-- What is read from the file, and the line that is logged as a parse error. -/
def getIniConfig (strdup : Nat → Bool) (stream : List Byte) : MainConfig × Nat :=
  iniParseFile (processIniDirective strdup) stream .default

/-- `get_main_config`; the file is none where it cannot be opened. -/
def loadMainConfig (ignoreIni : Bool) (strdup : Nat → Bool) (malloc : Bool)
    (ini : Option (List Byte)) (reg : TypedRegistry) : MainConfig :=
  match if ignoreIni then none else ini with
  | some stream => (getIniConfig strdup stream).1
  | none => getMainConfig malloc reg

/-! ## What a file sets -/

/-- The lines that are logged. -/
def badLines (events : List IniEvent) : List Nat :=
  events.filterMap fun
    | .call _ _ _ _ => none
    | .bad lineno => some lineno

/-- The value that a directive sets, if it has the name, stands in front of any section, and is
valid. -/
def IniEvent.sets {α : Type} (name : List Byte) (parse : List Byte → Nat → Option α) :
    IniEvent → Option α
  | .call sectionName name' value lineno =>
      if sectionName = [] ∧ name' = name then parse value lineno else none
  | .bad _ => none

/-- The value of the last directive that sets one. -/
def lastValid {α : Type} (name : List Byte) (parse : List Byte → Nat → Option α)
    (events : List IniEvent) : Option α :=
  (events.filterMap (IniEvent.sets name parse)).getLast?

/-- The server address; none where there is no memory for it. -/
def addressOf (strdup : Nat → Bool) (value : List Byte) (lineno : Nat) : Option (Option CString) :=
  some (if strdup lineno then some (.ofBytes value) else none)

/-- A server address makes it the DOSBox server's encapsulation, which no directive takes back. -/
def encapOf (strdup : Nat → Bool) (_ : List Byte) (lineno : Nat) : Option UInt32 :=
  if strdup lineno then some ENCAP_TYPE_DOSBOX else none

/-- The configuration that directives set. -/
def configOf (strdup : Nat → Bool) (events : List IniEvent) : MainConfig :=
  { MainConfig.default with
    fwExcept := (lastValid firewallExceptionName (fun value _ => yesNoOf value) events).getD false
    encapType := (lastValid serverAddressName (encapOf strdup) events).getD ENCAP_TYPE_IPXWRAPPER
    dosboxServerAddr := (lastValid serverAddressName (addressOf strdup) events).getD none
    dosboxServerPort := (lastValid serverPortName (fun value _ => portOf value) events).getD 213
    dosboxCoalesce := (lastValid coalescePacketsName (fun value _ => yesNoOf value) events).getD false
    logLevel := (lastValid loggingName (fun value _ => logLevelOf value) events).getD LOG_INFO
    rateLimitPackets := (lastValid packetLimitName (fun value _ => limitOf value) events).getD 0
    rateLimitBytes := (lastValid byteLimitName (fun value _ => limitOf value) events).getD 0 }

section Directives

variable {strdup : Nat → Bool} {events : List IniEvent}

theorem lastValid_cons {α : Type} (name : List Byte) (parse : List Byte → Nat → Option α)
    (event : IniEvent) (events : List IniEvent) :
    lastValid name parse (event :: events) =
      (lastValid name parse events).or (event.sets name parse) := by
  unfold lastValid
  rw [List.filterMap_cons]
  cases event.sets name parse with
  | none => exact Option.or_none.symm
  | some v =>
      dsimp only
      rw [List.getLast?_cons]
      cases (events.filterMap (IniEvent.sets name parse)).getLast? <;> rfl

/-- No directive is rejected. -/
theorem processIniDirective_ok (config : MainConfig) (sectionName name value : List Byte)
    (lineno : Nat) : (processIniDirective strdup config sectionName name value lineno).2 = true := by
  unfold processIniDirective
  repeat' split
  all_goals rfl

theorem failedLines_processIniDirective (config : MainConfig) (events : List IniEvent) :
    failedLines (processIniDirective strdup) config events = badLines events := by
  induction events generalizing config with
  | nil => rfl
  | cons event events ih =>
      cases event with
      | call sectionName name value lineno =>
          rw [failedLines]
          dsimp only
          rw [processIniDirective_ok, if_pos rfl, ih]
          rfl
      | bad lineno =>
          rw [failedLines, ih]
          rfl

/-- A field that one directive sets has the last valid value of it. -/
theorem userAfter_field {α : Type} (strdup : Nat → Bool) (field : MainConfig → α) (name : List Byte)
    (parse : List Byte → Nat → Option α)
    (step : ∀ config sectionName name' value lineno,
      field (processIniDirective strdup config sectionName name' value lineno).1 =
        ((IniEvent.call sectionName name' value lineno).sets name parse).getD (field config))
    (config : MainConfig) (events : List IniEvent) :
    field (userAfter (processIniDirective strdup) config events) =
      (lastValid name parse events).getD (field config) := by
  induction events generalizing config with
  | nil => rfl
  | cons event events ih =>
      rw [lastValid_cons]
      cases event with
      | call sectionName name' value lineno =>
          rw [userAfter, ih, step]
          cases lastValid name parse events <;> rfl
      | bad lineno =>
          rw [userAfter, ih, IniEvent.sets, Option.or_none]

/-- A field that no directive sets stays. -/
theorem userAfter_kept {α : Type} (strdup : Nat → Bool) (field : MainConfig → α)
    (step : ∀ config sectionName name value lineno,
      field (processIniDirective strdup config sectionName name value lineno).1 = field config)
    (config : MainConfig) (events : List IniEvent) :
    field (userAfter (processIniDirective strdup) config events) = field config := by
  induction events generalizing config with
  | nil => rfl
  | cons event events ih =>
      cases event with
      | call sectionName name value lineno => rw [userAfter, ih, step]
      | bad lineno => rw [userAfter, ih]

/-- What a directive does to each of the fields that directives set. -/
theorem processIniDirective_fst (config : MainConfig) (sectionName name value : List Byte)
    (lineno : Nat) : (processIniDirective strdup config sectionName name value lineno).1 =
      { config with
        fwExcept := ((IniEvent.call sectionName name value lineno).sets firewallExceptionName
          fun value _ => yesNoOf value).getD config.fwExcept
        encapType := ((IniEvent.call sectionName name value lineno).sets serverAddressName
          (encapOf strdup)).getD config.encapType
        dosboxServerAddr := ((IniEvent.call sectionName name value lineno).sets serverAddressName
          (addressOf strdup)).getD config.dosboxServerAddr
        dosboxServerPort := ((IniEvent.call sectionName name value lineno).sets serverPortName
          fun value _ => portOf value).getD config.dosboxServerPort
        dosboxCoalesce := ((IniEvent.call sectionName name value lineno).sets coalescePacketsName
          fun value _ => yesNoOf value).getD config.dosboxCoalesce
        logLevel := ((IniEvent.call sectionName name value lineno).sets loggingName
          fun value _ => logLevelOf value).getD config.logLevel
        rateLimitPackets := ((IniEvent.call sectionName name value lineno).sets packetLimitName
          fun value _ => limitOf value).getD config.rateLimitPackets
        rateLimitBytes := ((IniEvent.call sectionName name value lineno).sets byteLimitName
          fun value _ => limitOf value).getD config.rateLimitBytes } := by
  unfold processIniDirective IniEvent.sets
  by_cases front : sectionName = []
  · by_cases address : name = serverAddressName
    · cases memory : strdup lineno <;> simp +decide [front, address, memory, addressOf, encapOf]
    by_cases port : name = serverPortName
    · simp +decide [front, port]
    by_cases coalesce : name = coalescePacketsName
    · simp +decide [front, coalesce]
    by_cases firewall : name = firewallExceptionName
    · simp +decide [front, firewall]
    by_cases logging : name = loggingName
    · simp +decide [front, logging]
    by_cases packets : name = packetLimitName
    · simp +decide [front, packets]
    by_cases bytes : name = byteLimitName
    · simp +decide [front, bytes]
    · simp [front, address, port, coalesce, firewall, logging, packets, bytes]
  · simp [front]

/-- The configuration after the directives is the one that they set. -/
theorem userAfter_processIniDirective (strdup : Nat → Bool) (events : List IniEvent) :
    userAfter (processIniDirective strdup) .default events = configOf strdup events := by
  have sets {α : Type} (field : MainConfig → α) (name : List Byte)
      (parse : List Byte → Nat → Option α) (step) :=
    userAfter_field strdup field name parse step .default events
  have kept {α : Type} (field : MainConfig → α) (step) :=
    userAfter_kept strdup field step .default events
  have udpPort := kept MainConfig.udpPort fun _ _ _ _ _ => by rw [processIniDirective_fst]
  have w95Bug := kept MainConfig.w95Bug fun _ _ _ _ _ => by rw [processIniDirective_fst]
  have frameType := kept MainConfig.frameType fun _ _ _ _ _ => by rw [processIniDirective_fst]
  have profile := kept MainConfig.profile fun _ _ _ _ _ => by rw [processIniDirective_fst]
  have fwExcept := sets MainConfig.fwExcept _ _ fun _ _ _ _ _ => by rw [processIniDirective_fst]
  have encapType := sets MainConfig.encapType _ _ fun _ _ _ _ _ => by rw [processIniDirective_fst]
  have serverAddr := sets MainConfig.dosboxServerAddr _ _ fun _ _ _ _ _ => by
    rw [processIniDirective_fst]
  have serverPort := sets MainConfig.dosboxServerPort _ _ fun _ _ _ _ _ => by
    rw [processIniDirective_fst]
  have coalesce := sets MainConfig.dosboxCoalesce _ _ fun _ _ _ _ _ => by
    rw [processIniDirective_fst]
  have logLevel := sets MainConfig.logLevel _ _ fun _ _ _ _ _ => by rw [processIniDirective_fst]
  have packets := sets MainConfig.rateLimitPackets _ _ fun _ _ _ _ _ => by
    rw [processIniDirective_fst]
  have bytes := sets MainConfig.rateLimitBytes _ _ fun _ _ _ _ _ => by rw [processIniDirective_fst]
  generalize userAfter (processIniDirective strdup) .default events = config at *
  cases config
  simp only at *
  subst_vars
  rfl

end Directives

/-! ## What is valid -/

/-- What every configuration from a file has. -/
structure IniValid (config : MainConfig) : Prop where
  port : config.dosboxServerPort ≠ 0
  level : config.logLevel ∈ [LOG_DISABLED, LOG_INFO, LOG_DEBUG, LOG_CALL]
  packets : config.rateLimitPackets.toNat < 2 ^ 31
  bytes : config.rateLimitBytes.toNat < 2 ^ 31
  frame : ValidFrameType config.frameType
  encap : config.encapType = ENCAP_TYPE_IPXWRAPPER ∨ config.encapType = ENCAP_TYPE_DOSBOX
  server : config.dosboxServerAddr ≠ none → config.encapType = ENCAP_TYPE_DOSBOX

section Valid

variable {α : Type} {name value : List Byte} {parse : List Byte → Nat → Option α}
  {events : List IniEvent} {v default : α}

theorem exists_of_lastValid (last : lastValid name parse events = some v) :
    ∃ event ∈ events, event.sets name parse = some v := by
  obtain ⟨event, member, sets⟩ := List.mem_filterMap.mp (List.mem_of_getLast? last)
  exact ⟨event, member, sets⟩

theorem lastValid_ne_none {event : IniEvent} (member : event ∈ events)
    (sets : event.sets name parse = some v) : lastValid name parse events ≠ none := by
  intro none_set
  have nothing : events.filterMap (IniEvent.sets name parse) = [] := List.getLast?_eq_none_iff.mp none_set
  have here : v ∈ events.filterMap (IniEvent.sets name parse) :=
    List.mem_filterMap.mpr ⟨event, member, sets⟩
  rw [nothing] at here
  cases here

theorem parse_of_sets {event : IniEvent} (sets : event.sets name parse = some v) :
    ∃ value lineno, parse value lineno = some v := by
  cases event with
  | call sectionName name' value lineno =>
      unfold IniEvent.sets at sets
      dsimp only at sets
      split at sets
      · exact ⟨value, lineno, sets⟩
      · cases sets
  | bad lineno => cases sets

/-- What is valid of the default, and of each value that can be set, is valid of what is set. -/
theorem lastValid_getD {P : α → Prop} (default_valid : P default)
    (valid : ∀ value lineno v, parse value lineno = some v → P v) :
    P ((lastValid name parse events).getD default) := by
  rcases last : lastValid name parse events with _ | v
  · exact default_valid
  · obtain ⟨event, -, sets⟩ := exists_of_lastValid last
    obtain ⟨value, lineno, parsed⟩ := parse_of_sets sets
    exact valid value lineno v parsed

theorem atoi_le (s : List Byte) : atoi s ≤ 2147483647 := by
  unfold atoi
  dsimp only
  split <;> omega

theorem portOf_ne_zero {port : UInt16} (parsed : portOf value = some port) : port ≠ 0 := by
  unfold portOf at parsed
  dsimp only at parsed
  split at parsed
  · rename_i range
    rw [← Option.some.inj parsed, Ne, ← UInt16.toNat_inj, UInt16.toNat_ofNat']
    have small : (atoi value).toNat % 2 ^ 16 = (atoi value).toNat := Nat.mod_eq_of_lt (by omega)
    rw [small, UInt16.toNat_zero]
    omega
  · cases parsed

theorem limitOf_lt {limit : UInt32} (parsed : limitOf value = some limit) :
    limit.toNat < 2 ^ 31 := by
  unfold limitOf at parsed
  dsimp only at parsed
  split at parsed
  · have most := atoi_le value
    rw [← Option.some.inj parsed, UInt32.toNat_ofNat']
    refine Nat.lt_of_le_of_lt (Nat.mod_le ..) ?_
    omega
  · cases parsed

theorem logLevelOf_mem {level : UInt32} (parsed : logLevelOf value = some level) :
    level ∈ [LOG_DISABLED, LOG_INFO, LOG_DEBUG, LOG_CALL] := by
  unfold logLevelOf at parsed
  split_ifs at parsed <;> simp [← Option.some.inj parsed]

/-- The directive with the address sets the encapsulation as well. -/
theorem sets_encapOf {strdup : Nat → Bool} {event : IniEvent} {address : CString}
    (sets : event.sets serverAddressName (addressOf strdup) = some (some address)) :
    event.sets serverAddressName (encapOf strdup) = some ENCAP_TYPE_DOSBOX := by
  cases event with
  | call sectionName name value lineno =>
      unfold IniEvent.sets addressOf at sets
      unfold IniEvent.sets encapOf
      dsimp only at sets ⊢
      split_ifs at sets with here memory
      · rw [if_pos here, if_pos memory]
      · cases sets
  | bad lineno => cases sets

theorem encapOf_eq {strdup : Nat → Bool} {lineno : Nat} {encap : UInt32}
    (parsed : encapOf strdup value lineno = some encap) : encap = ENCAP_TYPE_DOSBOX := by
  unfold encapOf at parsed
  split_ifs at parsed
  exact (Option.some.inj parsed).symm

theorem configOf_valid (strdup : Nat → Bool) (events : List IniEvent) :
    IniValid (configOf strdup events) := by
  refine ⟨?_, ?_, ?_, ?_, Or.inl rfl, ?_, fun server => ?_⟩
  · exact lastValid_getD (P := (· ≠ 0)) (by decide) fun _ _ _ => portOf_ne_zero
  · exact lastValid_getD (P := (· ∈ [LOG_DISABLED, LOG_INFO, LOG_DEBUG, LOG_CALL])) (by decide)
      fun _ _ _ => logLevelOf_mem
  · exact lastValid_getD (P := fun limit : UInt32 => limit.toNat < 2 ^ 31) (by decide)
      fun _ _ _ => limitOf_lt
  · exact lastValid_getD (P := fun limit : UInt32 => limit.toNat < 2 ^ 31) (by decide)
      fun _ _ _ => limitOf_lt
  · exact lastValid_getD (P := fun encap => encap = ENCAP_TYPE_IPXWRAPPER ∨ encap = ENCAP_TYPE_DOSBOX)
      (Or.inl rfl) fun _ _ _ parsed => Or.inr (encapOf_eq parsed)
  · have address_set : (lastValid serverAddressName (addressOf strdup) events).getD none ≠ none := server
    rcases last : lastValid serverAddressName (addressOf strdup) events with _ | _ | address
    · rw [last] at address_set
      exact absurd rfl address_set
    · rw [last] at address_set
      exact absurd rfl address_set
    · obtain ⟨event, member, sets⟩ := exists_of_lastValid last
      obtain ⟨encap, last_encap⟩ :=
        Option.ne_none_iff_exists'.mp (lastValid_ne_none member (sets_encapOf sets))
      obtain ⟨_, -, sets'⟩ := exists_of_lastValid last_encap
      obtain ⟨_, _, parsed⟩ := parse_of_sets sets'
      have same : (configOf strdup events).encapType = encap := congrArg (Option.getD · _) last_encap
      rw [same, encapOf_eq parsed]

end Valid

/-- Whatever the registry has, a file that can be opened gives each setting the last valid value
that it has for it, or the default, and never one that is not valid; the line that is logged is
the first that is in error. -/
theorem iniConfig_lastValid (strdup : Nat → Bool) (malloc : Bool) (stream : List Byte)
    (reg : TypedRegistry) :
    (∃ events, IniMeans .start 0 ((streamLines stream).map cstr) events) ∧
      ∀ events, IniMeans .start 0 ((streamLines stream).map cstr) events →
        getIniConfig strdup stream = (configOf strdup events, (badLines events).headD 0) ∧
          loadMainConfig false strdup malloc (some stream) reg = configOf strdup events ∧
          IniValid (configOf strdup events) := by
  refine ⟨exists_iniMeans _ _ _, fun events means => ?_⟩
  have loaded : getIniConfig strdup stream = (configOf strdup events, (badLines events).headD 0) := by
    unfold getIniConfig
    rw [iniParseFile_eq means, failedLines_processIniDirective, userAfter_processIniDirective]
  refine ⟨loaded, ?_, configOf_valid strdup events⟩
  exact congrArg Prod.fst loaded

end IpxWrapper
