import BluezTutorial.CString
import BluezTutorial.DeviceRemoval
import Mathlib.Algebra.Order.Ring.Int
import Mathlib.Data.List.Perm.Basic

/-! How bluetoothd makes a profile of a RegisterProfile call: `create_ext` of
bluez-5.49/src/profile.c with its table of defaults and `parse_ext_opt`, and
`bt_name2string` of bluez-5.49/src/uuid-helper.c. The options come as the entries of a
dictionary, in the order in which the caller put them, and an entry that `parse_ext_opt`
refuses is logged and skipped. -/

namespace BluezTutorial.CreateExt
open CString

/-- A string regardless of case, as `strcasecmp` compares it. -/
def caseless (text : String) : List Char := text.toList.map Char.toLower

section Uuid

/-- The bytes of a string on the bus. -/
def octets (text : String) : List UInt8 := text.toList.flatMap String.utf8EncodeChar

def btServices : List (String × ℕ) :=
  [("pbap", 0x1130), ("sap", 0x112d), ("ftp", 0x1106), ("bpp", 0x1122), ("bip", 0x111a),
    ("synch", 0x1104), ("dun", 0x1103), ("opp", 0x1105), ("fax", 0x1111), ("spp", 0x1101),
    ("hsp", 0x1108), ("hsp-hs", 0x1108), ("hsp-ag", 0x1112), ("hfp", 0x111e),
    ("hfp-hf", 0x111e), ("hfp-ag", 0x111f), ("pbap-pce", 0x112e), ("pbap-pse", 0x112f),
    ("map-mse", 0x1132), ("map-mas", 0x1132), ("map-mce", 0x1133), ("map-mns", 0x1133),
    ("gnss", 0x1136)]

def name2class (pattern : String) : ℕ :=
  match btServices.find? fun service => caseless service.1 = caseless pattern with
  | some service => service.2
  | none => 0

def isUuid128 (text : List UInt8) : Bool :=
  text.length = 36 && text[8]? = some 45 && text[13]? = some 45 && text[18]? = some 45 &&
    text[23]? = some 45

def hexValue (c : UInt8) : Option ℕ :=
  if isDigit c then some (digitValue c)
  else if 97 ≤ c && c ≤ 102 then some (c.toNat - 87)
  else if 65 ≤ c && c ≤ 70 then some (c.toNat - 55)
  else none

def hexDigits (acc : ℕ) : List UInt8 → ℕ
  | [] => acc
  | c :: rest =>
      match hexValue c with
      | some value => hexDigits (16 * acc + value) rest
      | none => acc

/-- The digits that `strtol` reads in base 16, behind an optional `0x`. -/
def hexNumber : List UInt8 → ℕ
  | zero :: x :: rest =>
      if zero = 48 && (x = 120 || x = 88) then hexDigits 0 rest else hexDigits 0 (zero :: x :: rest)
  | text => hexDigits 0 text

/-- `strtol(text, NULL, 16)` with a `long` of 64 bits. -/
def strtol16 (text : List UInt8) : ℤ :=
  match text.dropWhile isSpace with
  | [] => 0
  | c :: rest =>
      if c = 45 then max (-(2 ^ 63)) (-(hexNumber rest : ℤ))
      else if c = 43 then min (2 ^ 63 - 1) (hexNumber rest)
      else min (2 ^ 63 - 1) (hexNumber (c :: rest))

/-- `bt_uuid2string` of a 16 bit UUID. -/
def uuid16String (uuid16 : ℕ) : String :=
  let digits := Nat.toDigits 16 uuid16
  String.ofList (List.replicate (8 - digits.length) '0' ++ digits) ++
    "-0000-1000-8000-00805f9b34fb"

def btName2string (pattern : String) : Option String :=
  if isUuid128 (octets pattern) then some pattern
  else if name2class pattern ≠ 0 then some (uuid16String (name2class pattern))
  else
    let uuid16 := (strtol16 (octets pattern) % 65536).toNat
    if btServices.any (·.2 = uuid16) then some (uuid16String uuid16) else none

end Uuid

inductive BtIOMode where
  | basic
  | ertm
deriving DecidableEq, Repr

inductive BtIOSecLevel where
  | low
  | medium
deriving DecidableEq, Repr

/-- The functions that can write the service record of a profile. -/
inductive GetRecord where
  | spp | dun | hfpHf | hfpAg | hspAg | opp | ftp | sync | pse | pce | mas | mns | generic
deriving DecidableEq, Repr

/-- The settings of `struct ext_profile` and of the `struct btd_profile` in it. -/
structure Ext where
  owner : String
  path : ObjectPath
  uuid : String
  service : Option String
  name : Option String
  role : Option String
  record : Option String
  getRecord : Option GetRecord
  remoteUuid : Option String
  mode : BtIOMode
  secLevel : BtIOSecLevel
  authorize : Bool
  enableClient : Bool
  enableServer : Bool
  localPsm : ℤ
  localChan : ℤ
  version : UInt16
  features : UInt16
  autoConnect : Bool
  priority : ℕ
deriving DecidableEq, Repr

section Defaults

def SPP_UUID : String := "00001101-0000-1000-8000-00805f9b34fb"
def DUN_GW_UUID : String := "00001103-0000-1000-8000-00805f9b34fb"
def OBEX_SYNC_UUID : String := "00001104-0000-1000-8000-00805f9b34fb"
def OBEX_OPP_UUID : String := "00001105-0000-1000-8000-00805f9b34fb"
def OBEX_FTP_UUID : String := "00001106-0000-1000-8000-00805f9b34fb"
def HSP_HS_UUID : String := "00001108-0000-1000-8000-00805f9b34fb"
def HSP_AG_UUID : String := "00001112-0000-1000-8000-00805f9b34fb"
def HFP_HS_UUID : String := "0000111e-0000-1000-8000-00805f9b34fb"
def HFP_AG_UUID : String := "0000111f-0000-1000-8000-00805f9b34fb"
def OBEX_PCE_UUID : String := "0000112e-0000-1000-8000-00805f9b34fb"
def OBEX_PSE_UUID : String := "0000112f-0000-1000-8000-00805f9b34fb"
def OBEX_PBAP_UUID : String := "00001130-0000-1000-8000-00805f9b34fb"
def OBEX_MAS_UUID : String := "00001132-0000-1000-8000-00805f9b34fb"
def OBEX_MNS_UUID : String := "00001133-0000-1000-8000-00805f9b34fb"
def OBEX_MAP_UUID : String := "00001134-0000-1000-8000-00805f9b34fb"

/-- `BTD_PROFILE_PSM_AUTO` and `BTD_PROFILE_CHAN_AUTO`. -/
def auto : ℤ := -1

/-- `struct default_settings`; a field left out is zero there and is skipped. -/
structure DefaultSettings where
  uuid : String
  name : String
  priority : Option ℕ := none
  remoteUuid : Option String := none
  channel : Option ℤ := none
  psm : Option ℤ := none
  mode : Option BtIOMode := none
  secLevel : Option BtIOSecLevel := none
  authorize : Bool := true
  autoConnect : Bool := false
  getRecord : GetRecord
  version : UInt16

def defaults : List DefaultSettings :=
  [{ uuid := SPP_UUID, name := "Serial Port", channel := some 3, getRecord := .spp,
      version := 0x0102 },
    { uuid := DUN_GW_UUID, name := "Dial-Up Networking", channel := some 1, getRecord := .dun,
      version := 0x0102 },
    { uuid := HFP_HS_UUID, name := "Hands-Free unit", priority := some 2,
      remoteUuid := some HFP_AG_UUID, channel := some 7, autoConnect := true,
      getRecord := .hfpHf, version := 0x0105 },
    { uuid := HFP_AG_UUID, name := "Hands-Free Voice gateway", priority := some 2,
      remoteUuid := some HFP_HS_UUID, channel := some 13, autoConnect := true,
      getRecord := .hfpAg, version := 0x0105 },
    { uuid := HSP_AG_UUID, name := "Headset Voice gateway", priority := some 2,
      remoteUuid := some HSP_HS_UUID, channel := some 12, autoConnect := true,
      getRecord := .hspAg, version := 0x0102 },
    { uuid := OBEX_OPP_UUID, name := "Object Push", channel := some 9, psm := some auto,
      mode := some .ertm, secLevel := some .low, authorize := false, getRecord := .opp,
      version := 0x0102 },
    { uuid := OBEX_FTP_UUID, name := "File Transfer", channel := some 10, psm := some auto,
      mode := some .ertm, getRecord := .ftp, version := 0x0102 },
    { uuid := OBEX_SYNC_UUID, name := "Synchronization", channel := some 14, getRecord := .sync,
      version := 0x0100 },
    { uuid := OBEX_PSE_UUID, name := "Phone Book Access", channel := some 15, psm := some auto,
      mode := some .ertm, getRecord := .pse, version := 0x0101 },
    { uuid := OBEX_PCE_UUID, name := "Phone Book Access Client",
      remoteUuid := some OBEX_PSE_UUID, getRecord := .pce, version := 0x0102 },
    { uuid := OBEX_MAS_UUID, name := "Message Access", channel := some 16, psm := some auto,
      mode := some .ertm, getRecord := .mas, version := 0x0100 },
    { uuid := OBEX_MNS_UUID, name := "Message Notification", channel := some 17, psm := some auto,
      mode := some .ertm, getRecord := .mns, version := 0x0102 }]

/-- What one row of the table does to a profile whose UUID it has. -/
def Ext.withDefaults (ext : Ext) (settings : DefaultSettings) : Ext :=
  { ext with
    remoteUuid := some (settings.remoteUuid.getD ext.uuid)
    localChan := settings.channel.getD ext.localChan
    localPsm := settings.psm.getD ext.localPsm
    secLevel := settings.secLevel.getD ext.secLevel
    mode := settings.mode.getD ext.mode
    authorize := settings.authorize
    autoConnect := settings.autoConnect || ext.autoConnect
    priority := settings.priority.getD ext.priority
    getRecord := some settings.getRecord
    version := settings.version
    name := some settings.name }

def extSetDefaults (ext : Ext) : Ext :=
  defaults.foldl
    (fun ext settings =>
      if caseless ext.uuid = caseless settings.uuid then ext.withDefaults settings else ext)
    { ext with
      mode := .basic
      secLevel := .medium
      authorize := true
      enableClient := true
      enableServer := true
      remoteUuid := none }

end Defaults

section Options

/-- A value of the options, `other` for the types that no option has. -/
inductive Variant where
  | string (value : String)
  | boolean (value : Bool)
  | uint16 (value : UInt16)
  | other
deriving DecidableEq, Repr

/-- The options that `parse_ext_opt` knows, in its order. -/
inductive Setting where
  | name
  | autoConnect
  | psm
  | channel
  | requireAuthentication
  | requireAuthorization
  | role
  | serviceRecord
  | version
  | features
  | service
deriving DecidableEq, Repr

namespace Setting

def all : List Setting :=
  [.name, .autoConnect, .psm, .channel, .requireAuthentication, .requireAuthorization, .role,
    .serviceRecord, .version, .features, .service]

def key : Setting → String
  | name => "Name"
  | autoConnect => "AutoConnect"
  | psm => "PSM"
  | channel => "Channel"
  | requireAuthentication => "RequireAuthentication"
  | requireAuthorization => "RequireAuthorization"
  | role => "Role"
  | serviceRecord => "ServiceRecord"
  | version => "Version"
  | features => "Features"
  | service => "Service"

def ofKey (key : String) : Option Setting :=
  all.find? fun setting => caseless key = caseless setting.key

/-- The branch of `parse_ext_opt` for one option, `none` for -EINVAL. -/
def parse (ext : Ext) : Setting → Variant → Option Ext
  | name, .string str => some { ext with name := some str }
  | autoConnect, .boolean b => some { ext with autoConnect := b }
  | psm, .uint16 u16 => some { ext with localPsm := if u16 = 0 then auto else u16.toNat }
  | channel, .uint16 u16 =>
      if u16 > 31 then none
      else some { ext with localChan := if u16 = 0 then auto else u16.toNat }
  | requireAuthentication, .boolean b =>
      some { ext with secLevel := if b then .medium else .low }
  | requireAuthorization, .boolean b => some { ext with authorize := b }
  | role, .string str =>
      if str = "client" then
        some { ext with role := some str, enableServer := false, enableClient := true }
      else if str = "server" then
        some { ext with role := some str, enableServer := true, enableClient := false }
      else some { ext with role := some str }
  | serviceRecord, .string str => some { ext with record := some str, enableServer := true }
  | version, .uint16 ver => some { ext with version := ver }
  | features, .uint16 feat => some { ext with features := feat }
  | service, .string str => some { ext with service := btName2string str }
  | _, _ => none

end Setting

/-- An option that is not known is accepted and does nothing. -/
def parseExtOpt (ext : Ext) (key : String) (value : Variant) : Option Ext :=
  match Setting.ofKey key with
  | none => some ext
  | some setting => setting.parse ext value

/-- One turn of the loop of `create_ext`. -/
def readOption (ext : Ext) (option : String × Variant) : Ext :=
  (parseExtOpt ext option.1 option.2).getD ext

def setService (ext : Ext) : Ext :=
  let uuid := caseless ext.uuid
  if uuid = caseless HSP_HS_UUID then { ext with service := some ext.uuid }
  else if uuid = caseless HSP_AG_UUID then
    { ext with service := some ext.uuid, uuid := HSP_HS_UUID }
  else if uuid = caseless HFP_HS_UUID then { ext with service := some ext.uuid }
  else if uuid = caseless HFP_AG_UUID then
    { ext with service := some ext.uuid, uuid := HFP_HS_UUID }
  else if uuid = caseless OBEX_SYNC_UUID ∨ uuid = caseless OBEX_OPP_UUID ∨
      uuid = caseless OBEX_FTP_UUID then { ext with service := some ext.uuid }
  else if uuid = caseless OBEX_PSE_UUID ∨ uuid = caseless OBEX_PCE_UUID then
    { ext with service := some ext.uuid, uuid := OBEX_PBAP_UUID }
  else if uuid = caseless OBEX_MAS_UUID ∨ uuid = caseless OBEX_MNS_UUID then
    { ext with service := some ext.uuid, uuid := OBEX_MAP_UUID }
  else ext

/-- `g_new0`, with the fields that `create_ext` sets first. -/
def Ext.new (owner : String) (path : ObjectPath) (uuid : String) : Ext :=
  ⟨owner, path, uuid, none, none, none, none, none, none, .basic, .low, false, false, false, 0, 0,
    0, 0, false, 0⟩

/-- What `create_ext` fills in after the options. -/
def Ext.complete (ext : Ext) (uuid : String) : Ext :=
  let ext := if ext.service.isNone then setService ext else ext
  let ext := if ext.enableServer ∧ ext.record.isNone ∧ ext.getRecord.isNone then
      { ext with getRecord := some .generic }
    else ext
  let ext := if ext.name.isNone then
      { ext with name := some (ext.owner ++ ext.path ++ "/" ++ uuid) }
    else ext
  if ext.remoteUuid.isNone then { ext with remoteUuid := some (ext.service.getD ext.uuid) }
  else ext

def createExt (owner : String) (path : ObjectPath) (uuid : String)
    (options : List (String × Variant)) : Option Ext :=
  (btName2string uuid).map fun uuid128 =>
    (options.foldl readOption (extSetDefaults (Ext.new owner path uuid128))).complete uuid

end Options

section Writes

/-- All that one option can do to the settings. -/
inductive Write : Setting → Variant → (Ext → Ext) → Prop
  | refused (setting : Setting) (value : Variant) : Write setting value id
  | name (str : String) : Write .name (.string str) fun ext => { ext with name := some str }
  | autoConnect (b : Bool) :
      Write .autoConnect (.boolean b) fun ext => { ext with autoConnect := b }
  | psm (u16 : UInt16) (number : ℤ) (bound : number = auto ∨ 0 ≤ number ∧ number < 65536) :
      Write .psm (.uint16 u16) fun ext => { ext with localPsm := number }
  | channel (u16 : UInt16) (number : ℤ) (bound : number = auto ∨ 0 ≤ number ∧ number ≤ 31) :
      Write .channel (.uint16 u16) fun ext => { ext with localChan := number }
  | requireAuthentication (b : Bool) (level : BtIOSecLevel) :
      Write .requireAuthentication (.boolean b) fun ext => { ext with secLevel := level }
  | requireAuthorization (b : Bool) :
      Write .requireAuthorization (.boolean b) fun ext => { ext with authorize := b }
  | client : Write .role (.string "client") fun ext =>
      { ext with role := some "client", enableServer := false, enableClient := true }
  | server : Write .role (.string "server") fun ext =>
      { ext with role := some "server", enableServer := true, enableClient := false }
  | role (str : String) : Write .role (.string str) fun ext => { ext with role := some str }
  | serviceRecord (str : String) : Write .serviceRecord (.string str) fun ext =>
      { ext with record := some str, enableServer := true }
  | version (ver : UInt16) : Write .version (.uint16 ver) fun ext => { ext with version := ver }
  | features (feat : UInt16) :
      Write .features (.uint16 feat) fun ext => { ext with features := feat }
  | service (str : String) :
      Write .service (.string str) fun ext => { ext with service := btName2string str }

theorem parse_write (setting : Setting) (value : Variant) :
    ∃ f, Write setting value f ∧ ∀ ext, (setting.parse ext value).getD ext = f ext := by
  have number : ∀ (u16 : UInt16) (top : ℕ), u16.toNat < top →
      (if u16 = 0 then auto else (u16.toNat : ℤ)) = auto ∨
        0 ≤ (if u16 = 0 then auto else (u16.toNat : ℤ)) ∧
          (if u16 = 0 then auto else (u16.toNat : ℤ)) < top := by
    intro u16 top bound
    split
    · exact Or.inl rfl
    · exact Or.inr ⟨Int.natCast_nonneg _, by exact_mod_cast bound⟩
  have refused : (∀ ext, setting.parse ext value = none) →
      ∃ f, Write setting value f ∧ ∀ ext, (setting.parse ext value).getD ext = f ext :=
    fun h => ⟨id, .refused setting value, fun ext => by simp [h ext]⟩
  cases setting <;> cases value <;> first
    | exact refused fun _ => rfl
    | skip
  case name.string str => exact ⟨_, .name str, fun _ => rfl⟩
  case autoConnect.boolean b => exact ⟨_, .autoConnect b, fun _ => rfl⟩
  case psm.uint16 u16 => exact ⟨_, .psm u16 _ (number u16 65536 u16.toNat_lt), fun _ => rfl⟩
  case channel.uint16 u16 =>
    by_cases large : u16 > 31
    · exact refused fun _ => by simp [Setting.parse, large]
    · have bound : u16.toNat < 32 := by
        have small := UInt16.not_lt.mp large
        rw [UInt16.le_iff_toNat_le] at small
        exact Nat.lt_succ_of_le small
      refine ⟨_, .channel u16 (if u16 = 0 then auto else u16.toNat) ?_, fun _ => ?_⟩
      · rcases number u16 32 bound with h | h
        · exact Or.inl h
        · exact Or.inr ⟨h.1, by omega⟩
      · simp [Setting.parse, large]
  case requireAuthentication.boolean b => exact ⟨_, .requireAuthentication b _, fun _ => rfl⟩
  case requireAuthorization.boolean b => exact ⟨_, .requireAuthorization b, fun _ => rfl⟩
  case role.string str =>
    by_cases client : str = "client"
    · subst client
      exact ⟨_, .client, fun _ => rfl⟩
    · by_cases server : str = "server"
      · subst server
        exact ⟨_, .server, fun _ => rfl⟩
      · exact ⟨_, .role str, fun _ => by simp [Setting.parse, client, server]⟩
  case serviceRecord.string str => exact ⟨_, .serviceRecord str, fun _ => rfl⟩
  case version.uint16 ver => exact ⟨_, .version ver, fun _ => rfl⟩
  case features.uint16 feat => exact ⟨_, .features feat, fun _ => rfl⟩
  case service.string str => exact ⟨_, .service str, fun _ => rfl⟩

/-- The two options that write the same field. -/
def Clash (a b : Setting × Variant) : Prop :=
  a = (.role, .string "client") ∧ ∃ str, b = (.serviceRecord, .string str)

theorem Write.comm {a b : Setting} {v w : Variant} {f g : Ext → Ext} (wa : Write a v f)
    (wb : Write b w g) (ne : a ≠ b) (free : ¬ Clash (a, v) (b, w)) (free' : ¬ Clash (b, w) (a, v))
    (ext : Ext) : g (f ext) = f (g ext) := by
  cases wa <;> cases wb <;> first
    | rfl
    | exact absurd rfl ne
    | exact absurd ⟨rfl, _, rfl⟩ free
    | exact absurd ⟨rfl, _, rfl⟩ free'

theorem readOption_of_unknown {option : String × Variant} (h : Setting.ofKey option.1 = none)
    (ext : Ext) : readOption ext option = ext := by
  simp [readOption, parseExtOpt, h]

theorem readOption_of_known {option : String × Variant} {setting : Setting}
    (h : Setting.ofKey option.1 = some setting) (ext : Ext) :
    readOption ext option = (setting.parse ext option.2).getD ext := by
  simp [readOption, parseExtOpt, h]

theorem caseless_of_ofKey {key : String} {setting : Setting}
    (h : Setting.ofKey key = some setting) : caseless key = caseless setting.key := by
  simpa using List.find?_some h

end Writes

section Validity

/-- What every turn of the loop keeps. -/
structure Ext.Valid (owner : String) (path : ObjectPath) (ext : Ext) : Prop where
  key : ext.owner = owner ∧ ext.path = path
  channel : ext.localChan = auto ∨ 0 ≤ ext.localChan ∧ ext.localChan ≤ 31
  psm : ext.localPsm = auto ∨ 0 ≤ ext.localPsm ∧ ext.localPsm < 65536
  side : ext.enableClient = true ∨ ext.enableServer = true

/-- A profile that can be probed: it is a client or a server, its ports are ones that
can be listened on, it has a name and a UUID to look for, and as a server it has a record
or a function that writes one. -/
structure Ext.Ready (owner : String) (path : ObjectPath) (ext : Ext) : Prop extends
    ext.Valid owner path where
  named : ext.name.isSome = true
  remote : ext.remoteUuid.isSome = true
  described : ext.enableServer = true → ext.record.isSome = true ∨ ext.getRecord.isSome = true

variable {owner : String} {path : ObjectPath} {ext : Ext}

theorem Write.valid {setting : Setting} {value : Variant} {f : Ext → Ext}
    (write : Write setting value f) (valid : ext.Valid owner path) :
    (f ext).Valid owner path := by
  obtain ⟨key, channel, psm, side⟩ := valid
  cases write with
  | psm u16 number bound => exact ⟨key, channel, bound, side⟩
  | channel u16 number bound => exact ⟨key, bound, psm, side⟩
  | client => exact ⟨key, channel, psm, Or.inl rfl⟩
  | server => exact ⟨key, channel, psm, Or.inr rfl⟩
  | serviceRecord str => exact ⟨key, channel, psm, Or.inr rfl⟩
  | _ => exact ⟨key, channel, psm, side⟩

theorem readOption_valid (valid : ext.Valid owner path) (option : String × Variant) :
    (readOption ext option).Valid owner path := by
  cases known : Setting.ofKey option.1 with
  | none =>
      rw [readOption_of_unknown known]
      exact valid
  | some setting =>
      obtain ⟨f, write, h⟩ := parse_write setting option.2
      rw [readOption_of_known known, h ext]
      exact write.valid valid

theorem readOptions_valid (options : List (String × Variant)) (valid : ext.Valid owner path) :
    (options.foldl readOption ext).Valid owner path := by
  induction options generalizing ext with
  | nil => exact valid
  | cons option options ih => exact ih (readOption_valid valid option)

theorem extSetDefaults_valid (owner : String) (path : ObjectPath) (uuid : String) :
    (extSetDefaults (Ext.new owner path uuid)).Valid owner path := by
  have rows : ∀ settings ∈ defaults,
      (∀ channel ∈ settings.channel, 0 ≤ channel ∧ channel ≤ 31) ∧
        ∀ psm ∈ settings.psm, psm = auto := by
    simp [defaults]
  unfold extSetDefaults
  generalize hstart : ({ Ext.new owner path uuid with
    mode := .basic, secLevel := .medium, authorize := true, enableClient := true,
    enableServer := true, remoteUuid := none } : Ext) = start
  have valid : start.Valid owner path := by
    subst hstart
    exact ⟨⟨rfl, rfl⟩, Or.inr (by simp [Ext.new]), Or.inr (by simp [Ext.new]), Or.inl rfl⟩
  clear hstart
  -- every row keeps what holds before the table is read
  generalize defaults = table at rows
  induction table generalizing start with
  | nil => exact valid
  | cons settings table ih =>
      refine ih _ ?_ fun row mem => rows row (List.mem_cons_of_mem _ mem)
      beta_reduce
      split
      · have row := rows settings List.mem_cons_self
        refine ⟨valid.key, ?_, ?_, valid.side⟩
        · cases channel : settings.channel with
          | none => simpa [Ext.withDefaults, channel] using valid.channel
          | some number =>
              simpa [Ext.withDefaults, channel] using Or.inr (row.1 number channel)
        · cases psm : settings.psm with
          | none => simpa [Ext.withDefaults, psm] using valid.psm
          | some number => simpa [Ext.withDefaults, psm] using Or.inl (row.2 number psm)
      · exact valid

theorem setService_eq (ext : Ext) : ∃ service uuid,
    setService ext = { ext with service := service, uuid := uuid } := by
  unfold setService
  simp only []
  repeat' split
  all_goals exact ⟨_, _, rfl⟩

/-- The part of `create_ext` behind the loop leaves what the options decide alone. -/
theorem complete_eq (ext : Ext) (uuid : String) : ∃ service uuid128 getRecord name remoteUuid,
    ext.complete uuid = { ext with
      service := service, uuid := uuid128, getRecord := getRecord, name := some name,
      remoteUuid := some remoteUuid } ∧
    (ext.enableServer = true → ext.record.isSome = true ∨ getRecord.isSome = true) := by
  have served : ∃ service uuid128, (if ext.service.isNone then setService ext else ext) =
      { ext with service := service, uuid := uuid128 } := by
    split
    · exact setService_eq ext
    · exact ⟨ext.service, ext.uuid, rfl⟩
  have described : ∀ ext : Ext, ∃ getRecord,
      (if ext.enableServer ∧ ext.record.isNone ∧ ext.getRecord.isNone then
        { ext with getRecord := some .generic } else ext) = { ext with getRecord := getRecord } ∧
      (ext.enableServer = true → ext.record.isSome = true ∨ getRecord.isSome = true) := by
    intro ext
    split
    · exact ⟨some .generic, rfl, fun _ => Or.inr rfl⟩
    · next h =>
        refine ⟨ext.getRecord, rfl, fun server => ?_⟩
        by_contra without
        rw [not_or, Bool.not_eq_true, Bool.not_eq_true, Option.isSome_eq_false_iff,
          Option.isSome_eq_false_iff] at without
        exact h ⟨server, without.1, without.2⟩
  have filled : ∀ (ext : Ext) (text : String), ∃ name,
      (if ext.name.isNone then { ext with name := some text } else ext) =
        { ext with name := some name } := by
    intro ext text
    cases name : ext.name with
    | none => exact ⟨text, rfl⟩
    | some known => exact ⟨known, by rw [← name, if_neg (by simp [name])]⟩
  have found : ∀ (ext : Ext) (text : String), ∃ remoteUuid,
      (if ext.remoteUuid.isNone then { ext with remoteUuid := some text } else ext) =
        { ext with remoteUuid := some remoteUuid } := by
    intro ext text
    cases remote : ext.remoteUuid with
    | none => exact ⟨text, rfl⟩
    | some known => exact ⟨known, by rw [← remote, if_neg (by simp [remote])]⟩
  obtain ⟨service, uuid128, hservice⟩ := served
  obtain ⟨getRecord, hrecord, described⟩ :=
    described { ext with service := service, uuid := uuid128 }
  obtain ⟨name, hname⟩ := filled
    { ext with service := service, uuid := uuid128, getRecord := getRecord }
    (ext.owner ++ ext.path ++ "/" ++ uuid)
  obtain ⟨remoteUuid, hremote⟩ := found
    { ext with
      service := service, uuid := uuid128, getRecord := getRecord, name := some name }
    (service.getD uuid128)
  refine ⟨service, uuid128, getRecord, name, remoteUuid, ?_, described⟩
  unfold Ext.complete
  simp only [hservice]
  simp only [hrecord]
  simp only [hname]
  exact hremote

theorem complete_ready (uuid : String) (valid : ext.Valid owner path) :
    (ext.complete uuid).Ready owner path := by
  obtain ⟨service, uuid128, getRecord, name, remoteUuid, h, described⟩ := complete_eq ext uuid
  rw [h]
  exact ⟨⟨valid.key, valid.channel, valid.psm, valid.side⟩, rfl, rfl, described⟩

theorem createExt_ready {uuid : String} {options : List (String × Variant)}
    (h : createExt owner path uuid options = some ext) : ext.Ready owner path := by
  obtain ⟨uuid128, _, rfl⟩ := Option.map_eq_some_iff.mp h
  exact complete_ready uuid (readOptions_valid options (extSetDefaults_valid owner path uuid128))

end Validity

section Order

variable {options : List (String × Variant)}

/-- Role "client" turns the server off and ServiceRecord turns it on. -/
def Conflicting (options : List (String × Variant)) : Prop :=
  (∃ option ∈ options,
    Setting.ofKey option.1 = some .role ∧ option.2 = .string "client") ∧
  ∃ option ∈ options,
    Setting.ofKey option.1 = some .serviceRecord ∧ ∃ str, option.2 = .string str

theorem readOption_comm {a b : String × Variant} (ne : caseless a.1 ≠ caseless b.1)
    (free : ¬ Conflicting [a, b]) (ext : Ext) :
    readOption (readOption ext a) b = readOption (readOption ext b) a := by
  cases ha : Setting.ofKey a.1 with
  | none => rw [readOption_of_unknown ha, readOption_of_unknown ha]
  | some setting =>
      cases hb : Setting.ofKey b.1 with
      | none => rw [readOption_of_unknown hb, readOption_of_unknown hb]
      | some other =>
          obtain ⟨f, wf, hf⟩ := parse_write setting a.2
          obtain ⟨g, wg, hg⟩ := parse_write other b.2
          have different : setting ≠ other := by
            rintro rfl
            exact ne ((caseless_of_ofKey ha).trans (caseless_of_ofKey hb).symm)
          rw [readOption_of_known ha, readOption_of_known ha, readOption_of_known hb,
            readOption_of_known hb, hf, hf, hg, hg]
          refine wf.comm wg different ?_ ?_ ext
          · rintro ⟨first, str, second⟩
            rw [Prod.mk.injEq] at first second
            obtain ⟨rfl, first⟩ := first
            obtain ⟨rfl, second⟩ := second
            exact free ⟨⟨a, by simp, ha, first⟩, b, by simp, hb, str, second⟩
          · rintro ⟨first, str, second⟩
            rw [Prod.mk.injEq] at first second
            obtain ⟨rfl, first⟩ := first
            obtain ⟨rfl, second⟩ := second
            exact free ⟨⟨b, by simp, hb, first⟩, a, by simp, ha, str, second⟩

theorem readOption_client {option : String × Variant}
    (h : Setting.ofKey option.1 = some .role) (client : option.2 = .string "client") (ext : Ext) :
    (readOption ext option).enableServer = false := by
  rw [readOption_of_known h, client]
  rfl

theorem readOption_serviceRecord {option : String × Variant} {str : String}
    (h : Setting.ofKey option.1 = some .serviceRecord) (record : option.2 = .string str)
    (ext : Ext) : (readOption ext option).enableServer = true := by
  rw [readOption_of_known h, record]
  rfl

theorem createExt_enableServer {owner uuid uuid128 : String} {path : ObjectPath}
    (known : btName2string uuid = some uuid128) (front : List (String × Variant))
    (last : String × Variant) :
    (createExt owner path uuid (front ++ [last])).map Ext.enableServer =
      some (readOption (front.foldl readOption (extSetDefaults (Ext.new owner path uuid128)))
        last).enableServer := by
  simp only [createExt, known, Option.map_some, List.foldl_append, List.foldl_cons,
    List.foldl_nil, Option.some.injEq]
  obtain ⟨_, _, _, _, _, h, _⟩ := complete_eq (readOption
    (front.foldl readOption (extSetDefaults (Ext.new owner path uuid128))) last) uuid
  rw [h]

/-- The profile does not depend on the order in which the caller put its options, keys
apart from case being distinct, unless it is both a client by its role and given a
service record. -/
theorem createExt_perm_iff (owner : String) (path : ObjectPath) (uuid : String)
    (distinct : (options.map fun option => caseless option.1).Nodup) :
    (∀ other, other.Perm options →
      createExt owner path uuid other = createExt owner path uuid options) ↔
    btName2string uuid = none ∨ ¬ Conflicting options := by
  constructor
  · intro same
    by_contra both
    rw [not_or, not_not] at both
    obtain ⟨uuid128, known⟩ := Option.ne_none_iff_exists'.mp both.1
    obtain ⟨⟨role, rmem, hrole, client⟩, record, smem, hrecord, str, hstr⟩ := both.2
    have ne : record ≠ role := by
      rintro rfl
      simp [hrole] at hrecord
    have rest : record ∈ options.erase role := (List.mem_erase_of_ne ne).mpr smem
    let others := (options.erase role).erase record
    have first : (others ++ [role, record]).Perm options :=
      List.perm_append_comm.trans
        (((List.perm_cons_erase rest).symm.cons role).trans (List.perm_cons_erase rmem).symm)
    have second : (others ++ [record, role]).Perm options :=
      ((List.Perm.swap role record []).append_left others).trans first
    have equal := congrArg (Option.map Ext.enableServer)
      ((same _ first).trans (same _ second).symm)
    rw [show others ++ [role, record] = (others ++ [role]) ++ [record] by simp,
      show others ++ [record, role] = (others ++ [record]) ++ [role] by simp,
      createExt_enableServer known, createExt_enableServer known,
      readOption_serviceRecord hrecord hstr, readOption_client hrole client] at equal
    simp at equal
  · rintro (unknown | free) other perm
    · simp [createExt, unknown]
    · unfold createExt
      congr 1
      funext uuid128
      rw [perm.symm.foldl_eq' fun a amem b bmem ext => ?_]
      by_cases same : a = b
      · rw [same]
      · refine readOption_comm (fun h => same (List.inj_on_of_nodup_map distinct amem bmem h))
          (fun conflict => free ?_) ext
        have inside : ∀ option ∈ [a, b], option ∈ options := by
          simp [amem, bmem]
        obtain ⟨⟨role, rmem, hrole⟩, record, smem, hrecord⟩ := conflict
        exact ⟨⟨role, inside role rmem, hrole⟩, record, inside record smem, hrecord⟩

/-- The options of the Listener in another order than that of `registerProfile`. -/
theorem createExt_perm_iff_listener :
    createExt ":1.7" "/com/example/Example" "b298b822-a5bc-4ab0-a4ec-fadb980002b6"
      [("RequireAuthentication", .boolean true), ("Channel", .uint16 22),
        ("Name", .string "Example"), ("AutoConnect", .boolean false)] =
      createExt ":1.7" "/com/example/Example" "b298b822-a5bc-4ab0-a4ec-fadb980002b6"
        [("Name", .string "Example"), ("Channel", .uint16 22), ("AutoConnect", .boolean false),
          ("RequireAuthentication", .boolean true)] := by
  refine (createExt_perm_iff _ _ _ (by decide)).mpr (Or.inr ?_) _ (by decide)
  rintro ⟨⟨option, mem, role, _⟩, _⟩
  have none : ∀ option ∈ [("Name", Variant.string "Example"), ("Channel", .uint16 22),
      ("AutoConnect", .boolean false), ("RequireAuthentication", .boolean true)],
      Setting.ofKey option.1 ≠ some .role := by decide
  exact none option mem role

end Order

end BluezTutorial.CreateExt
