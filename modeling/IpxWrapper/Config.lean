import IpxWrapper.Adapters
import IpxWrapper.AddrCanonical

/-!
# The configuration of the interfaces (`config.c`)

The configuration of an adapter is a subkey of the main key, by the adapter's hardware
address. Versions before 0.4 had a value of the main key for each adapter instead.
`get_iface_config` writes to the registry as well: the wildcard interface is given a node
number the first time. `readConfigs_eq`: what the calls return while the interfaces are
loaded is a function of the hardware address.
-/

namespace IpxWrapper

open Base

/-! ## The main key -/

structure RegSubkey where
  name : List Char
  values : RegKey

/-- The key of IPXWrapper. -/
structure MainKey where
  values : RegKey
  subkeys : List RegSubkey

/-- The main key, if it is there. -/
abbrev Registry := Option MainKey

/-- The values of the main key. -/
def Registry.values (reg : Registry) : Option RegKey := reg.map MainKey.values

/-- `reg_open_subkey(reg, id, false)`. -/
def regOpenSubkey (reg : Registry) (id : List Char) : Option RegKey :=
  reg.bind fun key => (key.subkeys.find? fun sub => sameName sub.name id).map RegSubkey.values

/-- `reg_open_subkey(reg, id, true)`, with values written to the subkey. -/
def regWriteSubkey (id : List Char) (write : RegKey → RegKey) (reg : Registry) : Registry :=
  let key := reg.getD ⟨[], []⟩
  some { key with
    subkeys := upsert (fun sub => sameName sub.name id)
      (fun sub => { sub with values := write sub.values }) ⟨id, write []⟩ key.subkeys }

/-! ## Adapters -/

def netName : List Char := ['n', 'e', 't']

def nodeName : List Char := ['n', 'o', 'd', 'e']

def enabledName : List Char := ['e', 'n', 'a', 'b', 'l', 'e', 'd']

def primaryName : List Char := ['p', 'r', 'i', 'm', 'a', 'r', 'y']

/-- `sizeof(struct v1_iface_config)`: `ipx_net`, `ipx_node`, `enabled` and `primary`. -/
def v1Size : Nat := 12

/-- The configuration of an adapter that has none in the registry. -/
def defaultConfig (hwaddr : Addr48) : IfaceConfig := ⟨addr32In (bufferOf [0, 0, 0, 1]) 0, hwaddr, true⟩

/-- The configuration in a subkey, with the defaults `config`. -/
def subkeyConfig (ifreg : RegKey) (config : IfaceConfig) : IfaceConfig where
  netnum := regGetAddr32 (some ifreg) netName config.netnum
  nodenum := regGetAddr48 (some ifreg) nodeName config.nodenum
  enabled := regGetDword (some ifreg) enabledName (if config.enabled then 1 else 0) ≠ 0

/-- The configuration in a `struct v1_iface_config`. -/
def v1Config (data : List Byte) : IfaceConfig where
  netnum := addr32In (bufferOf data) 0
  nodenum := addr48In (bufferOf data) 4
  enabled := bufferOf data 10 ≠ 0

/-- What `get_iface_config` reads. -/
def readIfaceConfig (reg : Registry) (hwaddr : Addr48) : IfaceConfig :=
  match regOpenSubkey reg (addr48String hwaddr) with
  | some ifreg => subkeyConfig ifreg (defaultConfig hwaddr)
  | none =>
      match regGetBin reg.values (addr48String hwaddr) v1Size with
      | some data => v1Config data
      | none => defaultConfig hwaddr

/-- The values that `set_iface_config` writes. -/
def writeConfig (config : IfaceConfig) (ifreg : RegKey) : RegKey :=
  regSetValueEx enabledName (leBytes (if config.enabled then 1 else 0) 4)
    (regSetValueEx nodeName (addr48Out config.nodenum)
      (regSetValueEx netName (addr32Out config.netnum) ifreg))

/-- `set_iface_config`. -/
def setIfaceConfig (hwaddr : Addr48) (config : IfaceConfig) : Registry → Registry :=
  regWriteSubkey (addr48String hwaddr) (writeConfig config)

/-- `gen_random_mac`, by what `rand` returns. -/
def genRandomMac (rand : Nat → Nat) : Addr48 :=
  addr48In (fun i =>
    if i = 0 then UInt8.ofNat (rand 0 % 0xFF) ||| 0x02 else UInt8.ofNat (rand i % 0xFF)) 0

/-- `get_iface_config`. -/
def getIfaceConfig (rand : Nat → Nat) (hwaddr : Addr48) (reg : Registry) : IfaceConfig × Registry :=
  let config := readIfaceConfig reg hwaddr
  if hwaddr = wildcardIfaceHwaddr ∧ config.nodenum = hwaddr then
    let config := { config with nodenum := genRandomMac rand }
    (config, setIfaceConfig hwaddr config reg)
  else
    (config, reg)

/-! ## The primary interface -/

/-- The value fits the buffers that `get_primary_iface` has for `RegEnumValue`, and is the
configuration of an adapter that is the primary one. -/
def isPrimaryValue (value : RegValue) : Bool :=
  value.name.length < 24 ∧ value.data.length = v1Size ∧ bufferOf value.data 11 ≠ 0 ∧
    (addr48FromString 0 value.name).any Prod.fst

/-- The loop of `get_primary_iface`. -/
def enumPrimary : List RegValue → Option Addr48
  | [] => none
  | value :: rest =>
      if isPrimaryValue value then some (addr48In (bufferOf value.data) 4) else enumPrimary rest

/-- `get_primary_iface`. -/
def getPrimaryIface (reg : Registry) : Addr48 :=
  if regCheckValue reg.values primaryName then
    regGetAddr48 reg.values primaryName bcastNode
  else
    (reg.values.bind enumPrimary).getD bcastNode

/-! ## Names of subkeys -/

theorem toUpper_hexByte (b : Byte) : (hexByte b).map Char.toUpper = hexByte b := by
  have digit : ∀ n : Fin 16, (hexDigit n).toUpper = hexDigit n := by decide
  have byte := b.toNat_lt
  have high := digit ⟨b.toNat / 16, by omega⟩
  have low := digit ⟨b.toNat % 16, by omega⟩
  dsimp only at high low
  rw [hexByte, List.map_cons, List.map_cons, List.map_nil, high, low]

theorem toUpper_addrString (bytes : List Byte) :
    (addrString bytes).map Char.toUpper = addrString bytes := by
  induction bytes with
  | nil => rfl
  | cons b rest ih =>
      cases rest with
      | nil => exact toUpper_hexByte b
      | cons d rest =>
          have colon : Char.toUpper ':' = ':' := by decide
          rw [addrString, List.map_append, List.map_cons, toUpper_hexByte, ih, colon]
          simp

section Names

variable {hwaddr other : Addr48}

theorem addr48String_text (addr : Addr48) : AddrText (addr48String addr) (addr48Out addr) :=
  addrString_text _ _

/-- Two addresses have the same name only if they are the same. -/
theorem addr48String_sameName (left : Canonical hwaddr) (right : Canonical other)
    (same : sameName (addr48String hwaddr) (addr48String other) = true) : hwaddr = other := by
  unfold sameName addr48String at same
  rw [toUpper_addrString, toUpper_addrString, decide_eq_true_eq] at same
  apply (left.eq_iff right).mpr
  have text := addr48String_text hwaddr
  unfold addr48String at text
  rw [same] at text
  exact text.unique (addr48String_text other)

end Names

/-! ## Reading what was written -/

section Written

variable {reg : Registry} {hwaddr other : Addr48} {config : IfaceConfig} {rand : Nat → Nat}

theorem regOpenSubkey_write (reg : Registry) (id : List Char) (write : RegKey → RegKey) :
    regOpenSubkey (regWriteSubkey id write reg) id =
      some (write ((regOpenSubkey reg id).getD [])) := by
  have found (subkeys : List RegSubkey) : (upsert (fun sub : RegSubkey => sameName sub.name id)
      (fun sub => { sub with values := write sub.values }) ⟨id, write []⟩ subkeys).find?
        (fun sub => sameName sub.name id) =
      some (((subkeys.find? fun sub => sameName sub.name id).map fun sub =>
        { sub with values := write sub.values }).getD ⟨id, write []⟩) := by
    apply find?_upsert
    · exact fun _ => rfl
    · exact sameName_refl id
  unfold regOpenSubkey regWriteSubkey
  rw [Option.bind_some, found, Option.map_some]
  cases reg with
  | none => simp
  | some key =>
      cases there : key.subkeys.find? fun sub => sameName sub.name id <;> simp [there]

theorem regOpenSubkey_write_of_ne {id id' : List Char} {write : RegKey → RegKey}
    (different : sameName id id' = false) :
    regOpenSubkey (regWriteSubkey id write reg) id' = regOpenSubkey reg id' := by
  have kept (subkeys : List RegSubkey) : (upsert (fun sub : RegSubkey => sameName sub.name id)
      (fun sub => { sub with values := write sub.values }) ⟨id, write []⟩ subkeys).find?
        (fun sub => sameName sub.name id') = subkeys.find? fun sub => sameName sub.name id' := by
    apply find?_upsert_of_apart
    · exact fun _ same => sameName_apart different same
    · exact fun _ same => sameName_apart different same
    · exact different
  unfold regOpenSubkey regWriteSubkey
  rw [Option.bind_some, kept]
  cases reg <;> simp

/-- Values of the main key are not written. -/
theorem regGetBin_write (reg : Registry) (id name : List Char) (write : RegKey → RegKey)
    (size : Nat) : regGetBin (regWriteSubkey id write reg).values name size =
      regGetBin reg.values name size := by
  cases reg with
  | none => simp [regWriteSubkey, Registry.values, regGetBin, regQueryValueEx]
  | some key => simp [regWriteSubkey, Registry.values]

/-- What is written to a subkey is read again. -/
theorem subkeyConfig_write (canonical : Canonical config.nodenum) (ifreg : RegKey)
    (default : IfaceConfig) : subkeyConfig (writeConfig config ifreg) default = config := by
  have net : regGetBin (some (writeConfig config ifreg)) netName 4 = some (addr32Out config.netnum) := by
    apply regGetBin_eq_some_iff.mpr
    refine ⟨?_, length_addr32Out _⟩
    unfold writeConfig
    rw [regQueryValueEx_set_of_ne (by decide), regQueryValueEx_set_of_ne (by decide),
      regQueryValueEx_set]
  have node : regGetBin (some (writeConfig config ifreg)) nodeName 6 = some (addr48Out config.nodenum) := by
    apply regGetBin_eq_some_iff.mpr
    refine ⟨?_, length_addr48Out _⟩
    unfold writeConfig
    rw [regQueryValueEx_set_of_ne (by decide), regQueryValueEx_set]
  have enabled : regGetBin (some (writeConfig config ifreg)) enabledName 4 =
      some (leBytes (if config.enabled then 1 else 0) 4) := by
    apply regGetBin_eq_some_iff.mpr
    exact ⟨regQueryValueEx_set _ _ _, length_leBytes _ _⟩
  unfold subkeyConfig regGetAddr32 regGetAddr48 regGetDword
  rw [net, node, enabled, Option.getD_some, Option.getD_some, bufferOf, bufferOf,
    addr32In_of_holds (Mem.ofList_holds _ _), addr48In_of_holds canonical (Mem.ofList_holds _ _)]
  obtain ⟨netnum, nodenum, enabled⟩ := config
  have flag : ∀ e : Bool, decide (UInt32.ofNat (le (bufferOf (leBytes (if e then 1 else 0) 4)) 0 4) ≠ 0) = e := by
    decide
  dsimp only
  rw [flag]

/-- What is written is read again. -/
theorem readIfaceConfig_set (canonical : Canonical config.nodenum) :
    readIfaceConfig (setIfaceConfig hwaddr config reg) hwaddr = config := by
  unfold readIfaceConfig setIfaceConfig
  rw [regOpenSubkey_write]
  exact subkeyConfig_write canonical _ _

/-- Other adapters are as they were. -/
theorem readIfaceConfig_set_of_ne (left : Canonical hwaddr) (right : Canonical other)
    (different : hwaddr ≠ other) :
    readIfaceConfig (setIfaceConfig hwaddr config reg) other = readIfaceConfig reg other := by
  have names : sameName (addr48String hwaddr) (addr48String other) = false := by
    apply Bool.eq_false_iff.mpr
    exact fun same => different (addr48String_sameName left right same)
  unfold readIfaceConfig setIfaceConfig
  rw [regOpenSubkey_write_of_ne names, regGetBin_write]

end Written

/-! ## The calls of `get_iface_config` -/

/-- What `get_iface_config` returns, once the wildcard interface has a node number. -/
def ifaceConfigs (rand : Nat → Nat) (reg : Registry) (hwaddr : Addr48) : IfaceConfig :=
  readIfaceConfig (getIfaceConfig rand wildcardIfaceHwaddr reg).2 hwaddr

/-- Calls of `get_iface_config` one after another, and what `rand` returns in each. -/
def readConfigs (reg : Registry) : List (Addr48 × (Nat → Nat)) → List IfaceConfig
  | [] => []
  | (hwaddr, rand) :: rest =>
      (getIfaceConfig rand hwaddr reg).1 :: readConfigs (getIfaceConfig rand hwaddr reg).2 rest

/-- The wildcard interface has a node number. -/
def WildcardNumbered (reg : Registry) : Prop :=
  (readIfaceConfig reg wildcardIfaceHwaddr).nodenum ≠ wildcardIfaceHwaddr

section Calls

variable {reg : Registry} {hwaddr : Addr48}

theorem genRandomMac_ne_zero (rand : Nat → Nat) : genRandomMac rand ≠ wildcardIfaceHwaddr := by
  intro zero
  have six := le_lt (fun i =>
    if i = 0 then UInt8.ofNat (rand 0 % 0xFF) ||| 0x02 else UInt8.ofNat (rand i % 0xFF)) 0 6
  have number := congrArg UInt64.toNat zero
  unfold genRandomMac addr48In at number
  rw [UInt64.toNat_ofNat_of_lt' (by change _ < 2 ^ 64; omega)] at number
  -- The second lowest bit of the first byte is set.
  have first : 2 ≤ (UInt8.ofNat (rand 0 % 0xFF) ||| 0x02).toNat := by
    rw [UInt8.toNat_or]
    exact Nat.right_le_or
  unfold le at number
  rw [if_pos rfl] at number
  change _ = 0 at number
  omega

theorem getIfaceConfig_numbered (numbered : WildcardNumbered reg) (rand : Nat → Nat) (hwaddr : Addr48) :
    getIfaceConfig rand hwaddr reg = (readIfaceConfig reg hwaddr, reg) := by
  unfold getIfaceConfig
  apply if_neg
  rintro ⟨rfl, zero⟩
  exact numbered zero

/-- The configuration that the wildcard interface is given. -/
def freshConfig (rand : Nat → Nat) (reg : Registry) : IfaceConfig :=
  { readIfaceConfig reg wildcardIfaceHwaddr with nodenum := genRandomMac rand }

theorem getIfaceConfig_fresh (unnumbered : ¬ WildcardNumbered reg) (rand : Nat → Nat) :
    getIfaceConfig rand wildcardIfaceHwaddr reg =
      (freshConfig rand reg, setIfaceConfig wildcardIfaceHwaddr (freshConfig rand reg) reg) :=
  if_pos ⟨rfl, not_not.mp unnumbered⟩

/-- The first call gives the wildcard interface its node number. -/
theorem getIfaceConfig_wildcard (rand : Nat → Nat) (reg : Registry) :
    (getIfaceConfig rand wildcardIfaceHwaddr reg).1 = ifaceConfigs rand reg wildcardIfaceHwaddr ∧
      WildcardNumbered (getIfaceConfig rand wildcardIfaceHwaddr reg).2 := by
  unfold ifaceConfigs
  by_cases numbered : WildcardNumbered reg
  · rw [getIfaceConfig_numbered numbered]
    exact ⟨rfl, numbered⟩
  · have read : readIfaceConfig (setIfaceConfig wildcardIfaceHwaddr (freshConfig rand reg) reg)
        wildcardIfaceHwaddr = freshConfig rand reg :=
      readIfaceConfig_set (addr48In_canonical _ _)
    unfold WildcardNumbered
    rw [getIfaceConfig_fresh numbered]
    dsimp only
    rw [read]
    exact ⟨rfl, genRandomMac_ne_zero rand⟩

theorem readConfigs_numbered (numbered : WildcardNumbered reg) (calls : List (Addr48 × (Nat → Nat))) :
    readConfigs reg calls = calls.map fun call => readIfaceConfig reg call.1 := by
  induction calls with
  | nil => rfl
  | cons call rest ih =>
      unfold readConfigs
      rw [getIfaceConfig_numbered numbered, List.map_cons, ih]

/-- After the call for the wildcard interface, with which the loading begins, the calls return
what `ifaceConfigs` says. -/
theorem readConfigs_eq (rand : Nat → Nat) (reg : Registry) (calls : List (Addr48 × (Nat → Nat))) :
    readConfigs reg ((wildcardIfaceHwaddr, rand) :: calls) =
      ifaceConfigs rand reg wildcardIfaceHwaddr :: calls.map fun call => ifaceConfigs rand reg call.1 := by
  obtain ⟨first, numbered⟩ := getIfaceConfig_wildcard rand reg
  unfold readConfigs
  rw [first, readConfigs_numbered numbered]
  rfl

/-- The node number of the wildcard interface changes nothing for the adapters. -/
theorem ifaceConfigs_eq (rand : Nat → Nat) (canonical : Canonical hwaddr)
    (adapter : hwaddr ≠ wildcardIfaceHwaddr) : ifaceConfigs rand reg hwaddr = readIfaceConfig reg hwaddr := by
  unfold ifaceConfigs
  by_cases numbered : WildcardNumbered reg
  · rw [getIfaceConfig_numbered numbered]
  · rw [getIfaceConfig_fresh numbered]
    exact readIfaceConfig_set_of_ne (by decide) canonical (Ne.symm adapter)

end Calls

end IpxWrapper
