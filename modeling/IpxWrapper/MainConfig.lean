import IpxWrapper.Config
import Mathlib.Data.List.TakeWhile

/-!
# The configuration that is saved (`config.c`, `common.c`)

`set_main_config` and `set_iface_config` write values of a type each, one after another
until one cannot be written. `get_main_config` overlays what older versions wrote with the
values of today. `config_roundTrip`: what was written is read again, whatever the registry
had before.
-/

namespace IpxWrapper

open Base

/-! ## Values with types -/

def REG_SZ : UInt32 := 1

def REG_BINARY : UInt32 := 3

def REG_DWORD : UInt32 := 4

structure TypedValue extends RegValue where
  type : UInt32

abbrev TypedKey := List TypedValue

/-- The values without their types. -/
def TypedKey.untyped (key : TypedKey) : RegKey := key.map TypedValue.toRegValue

/-- `RegQueryValueEx`, with the type. -/
def regQueryTyped (key : TypedKey) (name : List Char) : Option (UInt32 × List Byte) :=
  (key.find? fun value => sameName value.name name).map fun value => (value.type, value.data)

/-- What a call of `RegSetValueEx` writes. -/
structure RegWrite where
  name : List Char
  type : UInt32
  data : List Byte

/-- `RegSetValueEx`, with the type. -/
def RegWrite.apply (write : RegWrite) (key : TypedKey) : TypedKey :=
  upsert (fun value => sameName value.name write.name)
    (fun value => { value with data := write.data, type := write.type })
    ⟨⟨write.name, write.data⟩, write.type⟩ key

/-- Values are written until a call fails; `succeeds` says which do not. -/
def runWrites (succeeds : List Char → Bool) : List RegWrite → TypedKey → Bool × TypedKey
  | [], key => (true, key)
  | write :: rest, key =>
      if succeeds write.name then runWrites succeeds rest (write.apply key) else (false, key)

/-- The values after writes none of which failed. -/
def writeAll (writes : List RegWrite) (key : TypedKey) : TypedKey :=
  writes.foldl (fun key write => write.apply key) key

/-- `reg_set_dword`. -/
def regSetDword (name : List Char) (value : UInt32) : RegWrite :=
  ⟨name, REG_DWORD, leBytes value.toNat 4⟩

/-- `reg_set_addr32`. -/
def regSetAddr32 (name : List Char) (value : Addr32) : RegWrite :=
  ⟨name, REG_BINARY, addr32Out value⟩

/-- `reg_set_addr48`. -/
def regSetAddr48 (name : List Char) (value : Addr48) : RegWrite :=
  ⟨name, REG_BINARY, addr48Out value⟩

/-- The bytes of a C string, without the NUL. -/
structure CString where
  bytes : List Byte
  noNul : ∀ b ∈ bytes, b ≠ 0
deriving DecidableEq

/-- The string at the start of bytes behind which there is a NUL. -/
def CString.ofBytes (bytes : List Byte) : CString where
  bytes := bytes.takeWhile (· ≠ 0)
  noNul := by
    intro b member
    have nonzero := List.mem_takeWhile_imp member
    exact of_decide_eq_true nonzero

/-- `reg_set_string`, which leaves the NUL out. -/
def regSetString (name : List Char) (value : CString) : RegWrite := ⟨name, REG_SZ, value.bytes⟩

/-- `reg_get_string`; `malloc` tells whether there is memory for the value. -/
def regGetString (malloc : Bool) (key : Option TypedKey) (name : List Char) (default : CString) :
    CString :=
  match key.bind fun values => regQueryTyped values name with
  | some (type, data) => if type = REG_SZ ∧ malloc then .ofBytes data else default
  | none => default

/-! ## The main configuration -/

def FRAME_TYPE_ETH_II : UInt32 := 1

def FRAME_TYPE_NOVELL : UInt32 := 2

def FRAME_TYPE_LLC : UInt32 := 3

/-- `struct main_config`; the server address is none where it is `NULL`. -/
structure MainConfig where
  udpPort : UInt16
  w95Bug : Bool
  fwExcept : Bool
  encapType : UInt32
  frameType : UInt32
  dosboxServerAddr : Option CString
  dosboxServerPort : UInt16
  dosboxCoalesce : Bool
  logLevel : UInt32
  profile : Bool
  rateLimitPackets : UInt32
  rateLimitBytes : UInt32
deriving DecidableEq

def ValidFrameType (frameType : UInt32) : Prop :=
  frameType = FRAME_TYPE_ETH_II ∨ frameType = FRAME_TYPE_NOVELL ∨ frameType = FRAME_TYPE_LLC

instance (frameType : UInt32) : Decidable (ValidFrameType frameType) :=
  inferInstanceAs (Decidable (_ ∨ _))

/-- The defaults: `DEFAULT_PORT`, `ENCAP_TYPE_IPXWRAPPER` and `LOG_INFO`. -/
def MainConfig.default : MainConfig where
  udpPort := 54792
  w95Bug := true
  fwExcept := false
  encapType := 0
  frameType := FRAME_TYPE_ETH_II
  dosboxServerAddr := none
  dosboxServerPort := 213
  dosboxCoalesce := false
  logLevel := 4
  profile := false
  rateLimitPackets := 0
  rateLimitBytes := 0

def globalName : List Char := ['g', 'l', 'o', 'b', 'a', 'l']

def minLogLevelName : List Char :=
  ['m', 'i', 'n', '_', 'l', 'o', 'g', '_', 'l', 'e', 'v', 'e', 'l']

def portName : List Char := ['p', 'o', 'r', 't']

def w95BugName : List Char := ['w', '9', '5', '_', 'b', 'u', 'g']

def fwExceptName : List Char := ['f', 'w', '_', 'e', 'x', 'c', 'e', 'p', 't']

def usePcapName : List Char := ['u', 's', 'e', '_', 'p', 'c', 'a', 'p']

def frameTypeName : List Char := ['f', 'r', 'a', 'm', 'e', '_', 't', 'y', 'p', 'e']

def logLevelName : List Char := ['l', 'o', 'g', '_', 'l', 'e', 'v', 'e', 'l']

def profileName : List Char := ['p', 'r', 'o', 'f', 'i', 'l', 'e']

def dosboxServerAddrName : List Char :=
  ['d', 'o', 's', 'b', 'o', 'x', '_', 's', 'e', 'r', 'v', 'e', 'r', '_', 'a', 'd', 'd', 'r']

def dosboxServerPortName : List Char :=
  ['d', 'o', 's', 'b', 'o', 'x', '_', 's', 'e', 'r', 'v', 'e', 'r', '_', 'p', 'o', 'r', 't']

def dosboxCoalesceName : List Char :=
  ['d', 'o', 's', 'b', 'o', 'x', '_', 'c', 'o', 'a', 'l', 'e', 's', 'c', 'e']

def rateLimitPacketsName : List Char :=
  ['r', 'a', 't', 'e', '_', 'l', 'i', 'm', 'i', 't', '_', 'p', 'a', 'c', 'k', 'e', 't', 's']

def rateLimitBytesName : List Char :=
  ['r', 'a', 't', 'e', '_', 'l', 'i', 'm', 'i', 't', '_', 'b', 'y', 't', 'e', 's']

/-- A `bool` as a `DWORD`. -/
def dwordOfBool (b : Bool) : UInt32 := if b then 1 else 0

/-- `reg_get_dword` for a `bool`. -/
def regGetBool (key : Option RegKey) (name : List Char) (default : Bool) : Bool :=
  regGetDword key name (dwordOfBool default) ≠ 0

/-- `reg_get_dword` for a `uint16_t`. -/
def regGetUInt16 (key : Option RegKey) (name : List Char) (default : UInt16) : UInt16 :=
  (regGetDword key name default.toUInt32).toUInt16

/-- What versions before 0.4 wrote: a `struct v1_global_config`, of five bytes, and the level. -/
def legacyConfig (key : Option RegKey) (config : MainConfig) : MainConfig :=
  let config :=
    match regGetBin key globalName 5 with
    | some data =>
        { config with
          udpPort := UInt16.ofNat (le (bufferOf data) 0 2)
          w95Bug := bufferOf data 2 ≠ 0 }
    | none => config
  { config with logLevel := regGetDword key minLogLevelName config.logLevel }

/-- The values of 0.4, over `config`. -/
def overlayConfig (malloc : Bool) (key : Option TypedKey) (config : MainConfig) : MainConfig :=
  let values := key.map TypedKey.untyped
  { udpPort := regGetUInt16 values portName config.udpPort
    w95Bug := regGetBool values w95BugName config.w95Bug
    fwExcept := regGetBool values fwExceptName config.fwExcept
    encapType := regGetDword values usePcapName config.encapType
    frameType := regGetDword values frameTypeName config.frameType
    logLevel := regGetDword values logLevelName config.logLevel
    profile := regGetBool values profileName config.profile
    dosboxServerAddr := some (regGetString malloc key dosboxServerAddrName (.ofBytes []))
    dosboxServerPort := regGetUInt16 values dosboxServerPortName config.dosboxServerPort
    dosboxCoalesce := regGetBool values dosboxCoalesceName config.dosboxCoalesce
    rateLimitPackets := regGetDword values rateLimitPacketsName config.rateLimitPackets
    rateLimitBytes := regGetDword values rateLimitBytesName config.rateLimitBytes }

/-- An unknown frame type is ignored. -/
def checkFrameType (config : MainConfig) : MainConfig :=
  if ValidFrameType config.frameType then config
  else { config with frameType := FRAME_TYPE_ETH_II }

/-! ## The registry with types -/

structure TypedSubkey where
  name : List Char
  values : TypedKey

structure TypedMainKey where
  values : TypedKey
  subkeys : List TypedSubkey

/-- The main key, if it is there. -/
abbrev TypedRegistry := Option TypedMainKey

def TypedSubkey.untyped (sub : TypedSubkey) : RegSubkey := ⟨sub.name, sub.values.untyped⟩

def TypedRegistry.untyped (reg : TypedRegistry) : Registry :=
  reg.map fun key => ⟨key.values.untyped, key.subkeys.map TypedSubkey.untyped⟩

/-- `get_main_config(true)`; `malloc` tells whether there is memory for the server address. -/
def getMainConfig (malloc : Bool) (reg : TypedRegistry) : MainConfig :=
  let key := reg.map TypedMainKey.values
  checkFrameType
    (overlayConfig malloc key (legacyConfig (key.map TypedKey.untyped) MainConfig.default))

/-- What the registry does in a call that writes. -/
structure WriteEnv where
  /-- The main key can be opened, or made. -/
  opens : Bool
  /-- So can the subkey. -/
  opensSubkey : Bool
  succeeds : List Char → Bool

/-- What `set_main_config` writes, in order. -/
def mainWrites (config : MainConfig) (serverAddr : CString) : List RegWrite :=
  [ regSetDword portName config.udpPort.toUInt32
  , regSetDword w95BugName (dwordOfBool config.w95Bug)
  , regSetDword fwExceptName (dwordOfBool config.fwExcept)
  , regSetDword usePcapName config.encapType
  , regSetDword frameTypeName config.frameType
  , regSetDword logLevelName config.logLevel
  , regSetDword profileName (dwordOfBool config.profile)
  , regSetString dosboxServerAddrName serverAddr
  , regSetDword dosboxServerPortName config.dosboxServerPort.toUInt32
  , regSetDword dosboxCoalesceName (dwordOfBool config.dosboxCoalesce)
  , regSetDword rateLimitPacketsName config.rateLimitPackets
  , regSetDword rateLimitBytesName config.rateLimitBytes ]

/-- `set_main_config`; not defined where the server address is `NULL`. -/
def setMainConfig (env : WriteEnv) (config : MainConfig) (reg : TypedRegistry) :
    Option (Bool × TypedRegistry) :=
  config.dosboxServerAddr.map fun serverAddr =>
    if env.opens then
      let key := reg.getD ⟨[], []⟩
      let (ok, values) := runWrites env.succeeds (mainWrites config serverAddr) key.values
      (ok, some { key with values := values })
    else
      (false, reg)

/-- What `set_iface_config` writes, in order. -/
def ifaceWrites (config : IfaceConfig) : List RegWrite :=
  [ regSetAddr32 netName config.netnum
  , regSetAddr48 nodeName config.nodenum
  , regSetDword enabledName (dwordOfBool config.enabled) ]

/-- `reg_open_subkey(reg, id, true)`: the values of the subkey. -/
def openSubkeyValues (key : TypedMainKey) (id : List Char) : TypedKey :=
  ((key.subkeys.find? fun sub => sameName sub.name id).map TypedSubkey.values).getD []

/-- `set_iface_config`. -/
def saveIfaceConfig (env : WriteEnv) (hwaddr : Addr48) (config : IfaceConfig) (reg : TypedRegistry) :
    Bool × TypedRegistry :=
  let id := addr48String hwaddr
  let key := reg.getD ⟨[], []⟩
  let write := runWrites env.succeeds (ifaceWrites config)
  if env.opens then
    if env.opensSubkey then
      ((write (openSubkeyValues key id)).1,
        some { key with
          subkeys := upsert (fun sub => sameName sub.name id)
            (fun sub => { sub with values := (write sub.values).2 }) ⟨id, (write []).2⟩ key.subkeys })
    else
      (false, some key)
  else
    (false, reg)

/-! ## Reading what was written -/

section Values

variable {key : TypedKey} {name other : List Char} {write : RegWrite} {writes : List RegWrite}
  {succeeds : List Char → Bool}

theorem regQueryTyped_apply (write : RegWrite) (key : TypedKey) :
    regQueryTyped (write.apply key) write.name = some (write.type, write.data) := by
  have found : (write.apply key).find? (fun value => sameName value.name write.name) =
      some (((key.find? fun value => sameName value.name write.name).map fun value =>
        { value with data := write.data, type := write.type }).getD
          ⟨⟨write.name, write.data⟩, write.type⟩) := by
    apply find?_upsert
    · exact fun _ => rfl
    · exact sameName_refl write.name
  unfold regQueryTyped
  rw [found, Option.map_some]
  cases key.find? fun value => sameName value.name write.name <;> rfl

theorem regQueryTyped_apply_of_ne (different : sameName write.name other = false) :
    regQueryTyped (write.apply key) other = regQueryTyped key other := by
  have kept : (write.apply key).find? (fun value => sameName value.name other) =
      key.find? fun value => sameName value.name other := by
    apply find?_upsert_of_apart
    · exact fun _ same => sameName_apart different same
    · exact fun _ same => sameName_apart different same
    · exact different
  unfold regQueryTyped
  rw [kept]

/-- All are written if no call has failed, whatever the key had. -/
theorem runWrites_ok (ok : (runWrites succeeds writes key).1 = true) (key' : TypedKey) :
    (runWrites succeeds writes key').2 = writeAll writes key' := by
  induction writes generalizing key key' with
  | nil => rfl
  | cons write rest ih =>
      unfold runWrites at ok ⊢
      by_cases written : succeeds write.name
      · rw [if_pos written] at ok ⊢
        exact ih ok _
      · rw [if_neg written] at ok
        cases ok

theorem untyped_apply (write : RegWrite) (key : TypedKey) :
    (write.apply key).untyped = regSetValueEx write.name write.data key.untyped := by
  unfold TypedKey.untyped RegWrite.apply regSetValueEx
  exact map_upsert _ (fun value : RegValue => sameName value.name write.name)
    (fun value : RegValue => { value with data := write.data }) (fun _ => rfl) (fun _ => rfl) key

theorem regQueryTyped_writeAll_of_ne
    (different : ∀ write ∈ writes, sameName write.name other = false) (key : TypedKey) :
    regQueryTyped (writeAll writes key) other =
      regQueryTyped key other := by
  induction writes generalizing key with
  | nil => rfl
  | cons write rest ih =>
      rw [writeAll, List.foldl_cons, ← writeAll,
        ih fun w later => different w (List.mem_cons_of_mem _ later),
        regQueryTyped_apply_of_ne (different write List.mem_cons_self)]

/-- No two of the names are the same. -/
def NamesApart (writes : List RegWrite) : Prop :=
  writes.Pairwise fun a b => sameName b.name a.name = false

/-- Each value that was written is there afterwards. -/
theorem regQueryTyped_writeAll (apart : NamesApart writes) (member : write ∈ writes) (key : TypedKey) :
    regQueryTyped (writeAll writes key) write.name =
      some (write.type, write.data) := by
  induction writes generalizing key with
  | nil => cases member
  | cons first rest ih =>
      obtain ⟨later, apart⟩ := List.pairwise_cons.mp apart
      rw [writeAll, List.foldl_cons, ← writeAll]
      rcases List.mem_cons.mp member with rfl | member
      · rw [regQueryTyped_writeAll_of_ne later, regQueryTyped_apply]
      · exact ih apart member _

/-- The value without its type. -/
theorem regQueryValueEx_untyped (key : TypedKey) (name : List Char) :
    regQueryValueEx key.untyped name = (regQueryTyped key name).map Prod.snd := by
  unfold regQueryValueEx regQueryTyped TypedKey.untyped
  rw [List.find?_map, Option.map_map, Option.map_map]
  rfl

theorem regGetBin_written (apart : NamesApart writes) (member : write ∈ writes) (key : TypedKey) :
    regGetBin (some (writeAll writes key).untyped)
      write.name write.data.length = some write.data := by
  refine regGetBin_eq_some_iff.mpr ⟨?_, rfl⟩
  rw [regQueryValueEx_untyped, regQueryTyped_writeAll apart member, Option.map_some]

theorem regGetDword_written {value default : UInt32} (apart : NamesApart writes)
    (member : regSetDword name value ∈ writes) (key : TypedKey) :
    regGetDword (some (writeAll writes key).untyped)
      name default = value := by
  have written := regGetBin_written apart member key
  unfold regSetDword at written
  dsimp only at written
  rw [length_leBytes] at written
  unfold regGetDword bufferOf
  rw [written]
  dsimp only
  rw [le_of_holds value.toNat_lt (Mem.ofList_holds _ _), UInt32.ofNat_toNat]

theorem regGetBool_written {value default : Bool} (apart : NamesApart writes)
    (member : regSetDword name (dwordOfBool value) ∈ writes) (key : TypedKey) :
    regGetBool (some (writeAll writes key).untyped)
      name default = value := by
  unfold regGetBool
  rw [regGetDword_written apart member]
  cases value <;> rfl

theorem regGetUInt16_written {value default : UInt16} (apart : NamesApart writes)
    (member : regSetDword name value.toUInt32 ∈ writes) (key : TypedKey) :
    regGetUInt16 (some (writeAll writes key).untyped)
      name default = value := by
  unfold regGetUInt16
  rw [regGetDword_written apart member]
  exact UInt16.toUInt16_toUInt32 value

theorem CString.ofBytes_bytes (value : CString) : CString.ofBytes value.bytes = value := by
  obtain ⟨bytes, noNul⟩ := value
  have whole : bytes.takeWhile (· ≠ 0) = bytes :=
    List.takeWhile_eq_self_iff.mpr fun b member => decide_eq_true (noNul b member)
  unfold CString.ofBytes
  simp only [whole]

theorem regGetString_written {value default : CString} (apart : NamesApart writes)
    (member : regSetString name value ∈ writes) (key : TypedKey) :
    regGetString true (some (writeAll writes key)) name default =
      value := by
  have written := regQueryTyped_writeAll apart member key
  unfold regSetString at written
  dsimp only at written
  unfold regGetString
  rw [Option.bind_some, written]
  dsimp only
  rw [if_pos ⟨rfl, rfl⟩, value.ofBytes_bytes]

end Values

/-! ## The main configuration -/

/-- The names that `set_main_config` writes are different. -/
theorem mainWrites_apart (config : MainConfig) (serverAddr : CString) :
    NamesApart (mainWrites config serverAddr) := by
  have apart : [portName, w95BugName, fwExceptName, usePcapName, frameTypeName, logLevelName,
      profileName, dosboxServerAddrName, dosboxServerPortName, dosboxCoalesceName,
      rateLimitPacketsName, rateLimitBytesName].Pairwise fun a b => sameName b a = false := by
    decide
  have names : (mainWrites config serverAddr).map RegWrite.name = [portName, w95BugName, fwExceptName,
      usePcapName, frameTypeName, logLevelName, profileName, dosboxServerAddrName,
      dosboxServerPortName, dosboxCoalesceName, rateLimitPacketsName, rateLimitBytesName] := rfl
  rw [← names] at apart
  exact List.pairwise_map.mp apart

/-- The values of today hide what was read before them. -/
theorem overlayConfig_written {config : MainConfig} {serverAddr : CString}
    (given : config.dosboxServerAddr = some serverAddr) (key : TypedKey) (old : MainConfig) :
    overlayConfig true (some (writeAll (mainWrites config serverAddr) key)) old = config := by
  have apart := mainWrites_apart config serverAddr
  have nth {write : RegWrite} (i : Nat) (at_i : (mainWrites config serverAddr)[i]? = some write) :
      write ∈ mainWrites config serverAddr := List.mem_of_getElem? at_i
  have server : regGetString true (some (writeAll (mainWrites config serverAddr) key))
      dosboxServerAddrName (.ofBytes []) = serverAddr :=
    regGetString_written apart (nth 7 rfl) key
  unfold overlayConfig
  dsimp only [Option.map_some]
  rw [server, ← given, regGetUInt16_written apart (nth 0 rfl), regGetBool_written apart (nth 1 rfl),
    regGetBool_written apart (nth 2 rfl), regGetDword_written apart (nth 3 rfl),
    regGetDword_written apart (nth 4 rfl), regGetDword_written apart (nth 5 rfl),
    regGetBool_written apart (nth 6 rfl), regGetUInt16_written apart (nth 8 rfl),
    regGetBool_written apart (nth 9 rfl), regGetDword_written apart (nth 10 rfl),
    regGetDword_written apart (nth 11 rfl)]

/-- What `set_main_config` saved is read again. -/
theorem getMainConfig_setMainConfig {env : WriteEnv} {config : MainConfig} {reg reg' : TypedRegistry}
    (valid : ValidFrameType config.frameType) (saved : setMainConfig env config reg = some (true, reg')) :
    getMainConfig true reg' = config := by
  obtain ⟨serverAddr, given, saved⟩ := Option.map_eq_some_iff.mp saved
  by_cases opens : env.opens
  · rw [if_pos opens] at saved
    have ok : (runWrites env.succeeds (mainWrites config serverAddr)
        (reg.getD ⟨[], []⟩).values).1 = true := (Prod.mk.inj saved).1
    have left : reg' = some { reg.getD ⟨[], []⟩ with
        values := writeAll (mainWrites config serverAddr) (reg.getD ⟨[], []⟩).values } := by
      rw [← runWrites_ok ok]
      exact (Prod.mk.inj saved).2.symm
    unfold getMainConfig
    rw [left, Option.map_some]
    dsimp only
    rw [overlayConfig_written given, checkFrameType, if_pos valid]
  · rw [if_neg opens] at saved
    cases saved

/-! ## The configuration of an interface -/

/-- Without types, the writes are those of `writeConfig`. -/
theorem untyped_ifaceWrites (config : IfaceConfig) (key : TypedKey) :
    (writeAll (ifaceWrites config) key).untyped = writeConfig config key.untyped := by
  have enabled : leBytes (dwordOfBool config.enabled).toNat 4 =
      leBytes (if config.enabled then 1 else 0) 4 := by
    cases config.enabled <;> rfl
  unfold writeAll ifaceWrites
  rw [List.foldl_cons, List.foldl_cons, List.foldl_cons, List.foldl_nil, untyped_apply, untyped_apply,
    untyped_apply]
  unfold writeConfig
  rw [← enabled]
  rfl

/-- Where `set_iface_config` returns true, it is `setIfaceConfig` on the registry without types. -/
theorem untyped_saveIfaceConfig {env : WriteEnv} {hwaddr : Addr48} {config : IfaceConfig}
    {reg reg' : TypedRegistry} (saved : saveIfaceConfig env hwaddr config reg = (true, reg')) :
    reg'.untyped = setIfaceConfig hwaddr config reg.untyped := by
  unfold saveIfaceConfig at saved
  dsimp only at saved
  by_cases opens : env.opens
  · rw [if_pos opens] at saved
    by_cases opensSubkey : env.opensSubkey
    · rw [if_pos opensSubkey] at saved
      obtain ⟨ok, left⟩ := Prod.mk.inj saved
      have written (key : TypedKey) : (runWrites env.succeeds (ifaceWrites config) key).2.untyped =
          writeConfig config key.untyped := by
        rw [runWrites_ok ok, untyped_ifaceWrites]
      have main : TypedRegistry.untyped (some (reg.getD ⟨[], []⟩)) = some (reg.untyped.getD ⟨[], []⟩) := by
        cases reg <;> rfl
      rw [← left]
      unfold setIfaceConfig regWriteSubkey
      rw [← Option.some.inj main]
      unfold TypedRegistry.untyped
      rw [Option.map_some]
      refine congrArg (fun subkeys => some (MainKey.mk _ subkeys)) ?_
      rw [map_upsert _ (fun sub : RegSubkey => sameName sub.name (addr48String hwaddr))
        fun sub => { sub with values := writeConfig config sub.values }]
      · unfold TypedSubkey.untyped
        dsimp only
        rw [written]
        rfl
      · exact fun _ => rfl
      · intro sub
        unfold TypedSubkey.untyped
        dsimp only
        rw [written]
    · rw [if_neg opensSubkey] at saved
      cases saved
  · rw [if_neg opens] at saved
    cases saved

/-- What `set_iface_config` saved is read again. -/
theorem getIfaceConfig_saveIfaceConfig {env : WriteEnv} {hwaddr : Addr48} {config : IfaceConfig}
    {reg reg' : TypedRegistry} (adapter : hwaddr ≠ wildcardIfaceHwaddr)
    (canonical : Canonical config.nodenum)
    (saved : saveIfaceConfig env hwaddr config reg = (true, reg')) (rand : Nat → Nat) :
    getIfaceConfig rand hwaddr reg'.untyped = (config, reg'.untyped) := by
  have read : readIfaceConfig reg'.untyped hwaddr = config := by
    rw [untyped_saveIfaceConfig saved]
    exact readIfaceConfig_set canonical
  unfold getIfaceConfig
  rw [if_neg fun wildcard => adapter wildcard.1, read]

/-- What is saved is read again, whatever the registry had before. -/
theorem config_roundTrip :
    (∀ (env : WriteEnv) (config : MainConfig) (reg reg' : TypedRegistry),
      ValidFrameType config.frameType → setMainConfig env config reg = some (true, reg') →
        getMainConfig true reg' = config) ∧
    ∀ (env : WriteEnv) (rand : Nat → Nat) (hwaddr : Addr48) (config : IfaceConfig)
      (reg reg' : TypedRegistry), hwaddr ≠ wildcardIfaceHwaddr → Canonical config.nodenum →
        saveIfaceConfig env hwaddr config reg = (true, reg') →
          (getIfaceConfig rand hwaddr reg'.untyped).1 = config := by
  refine ⟨?_, ?_⟩
  · intro env config reg reg' valid saved
    exact getMainConfig_setMainConfig valid saved
  · intro env rand hwaddr config reg reg' adapter canonical saved
    rw [getIfaceConfig_saveIfaceConfig adapter canonical saved]

/-- A registry in which everything can be written. -/
def WriteEnv.working : WriteEnv := ⟨true, true, fun _ => true⟩

/-- No field has its default. -/
def dosboxConfig : MainConfig where
  udpPort := 54793
  w95Bug := false
  fwExcept := true
  encapType := 2
  frameType := FRAME_TYPE_LLC
  dosboxServerAddr := some (.ofBytes [97, 46, 98])
  dosboxServerPort := 214
  dosboxCoalesce := true
  logLevel := 1
  profile := true
  rateLimitPackets := 100
  rateLimitBytes := 65536

def hiddenConfig : IfaceConfig := ⟨0x04030201, 0x0605040302020000, false⟩

/-- What an older version wrote, and values of today's names with other types and sizes. -/
def legacyRegistry : TypedRegistry :=
  some
    { values :=
        [⟨⟨globalName, [0x07, 0xD6, 0, 1, 1]⟩, REG_BINARY⟩,
          ⟨⟨minLogLevelName, [6, 0, 0, 0]⟩, REG_DWORD⟩,
          ⟨⟨portName.map Char.toUpper, [49, 0]⟩, REG_SZ⟩,
          ⟨⟨frameTypeName, [2]⟩, REG_BINARY⟩,
          ⟨⟨dosboxServerAddrName, [9, 0, 0, 0]⟩, REG_DWORD⟩]
      subkeys :=
        [⟨addr48String 65536,
          [⟨⟨netName, [1, 2, 3]⟩, REG_BINARY⟩, ⟨⟨nodeName, [120, 0]⟩, REG_SZ⟩,
            ⟨⟨enabledName, [1, 0]⟩, REG_BINARY⟩]⟩] }

theorem config_roundTrip_legacy :
    (∃ reg', setMainConfig .working dosboxConfig legacyRegistry = some (true, reg') ∧
      getMainConfig true reg' = dosboxConfig) ∧
    ∃ reg', saveIfaceConfig .working 65536 hiddenConfig legacyRegistry = (true, reg') ∧
      (getIfaceConfig (fun _ => 0) 65536 reg'.untyped).1 = hiddenConfig := by
  obtain ⟨main, iface⟩ := config_roundTrip
  refine ⟨⟨_, rfl, main .working dosboxConfig legacyRegistry _ (.inr (.inr rfl)) rfl⟩, _, rfl, ?_⟩
  exact iface .working (fun _ => 0) 65536 hiddenConfig legacyRegistry _ (by decide) (by decide) rfl

end IpxWrapper
