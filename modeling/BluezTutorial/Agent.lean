import BluezTutorial.CString
import Mathlib.Algebra.Ring.Int.Defs
import Mathlib.Algebra.Ring.Nat

/-! `Agent::initializeAdapter` of Agent/Agent.cpp: Powered is set through the bus, then
two `hciconfig` commands go to the shell with the end of the object path for a name.
`hciconfig` is `main` of tools/hciconfig.c as far as the choice of a device: it drops
three bytes of its first argument, those of `hci`, and gives the rest to `atoi`.

The slice starts at the last separator and keeps it. What is dropped is then `/hc`, and
`atoi` stops at the `i`: every adapter is taken for number 0. -/

namespace BluezTutorial.Agent
open CString

/-- Where the process of Agent/ stops: `assert`, `g_assert_no_error`, and the exception
of `substr`, which nobody catches. -/
inductive Abort where
  | powerBus | powerProxy | powerCall
  | outOfRange
deriving DecidableEq, Repr

/-- `g_assert_no_error` after `g_dbus_proxy_new_sync` and the call. -/
structure PowerAnswer where
  proxy : Bool
  call : Bool
deriving DecidableEq, Repr

inductive Action where
  | set (objectPath : List UInt8) (interface property : String) (value : Bool)
  | system (command : List UInt8)
deriving DecidableEq, Repr

def enableAdapterPower (pSystemBusConnection : Bool) (answer : PowerAnswer)
    (adapterPath : List UInt8) : Except Abort (List Action) :=
  if !pSystemBusConnection then .error .powerBus
  else if !answer.proxy then .error .powerProxy
  else if !answer.call then .error .powerCall
  else .ok [.set adapterPath "org.bluez.Adapter1" "Powered" true]

/-- The common body of `disableSSP` and `enablePScan`. -/
def hciconfigCommand (arguments : String) (adapterPath : List UInt8) :
    Except Abort (List Action) :=
  let startLeafName := rfind 47 adapterPath
  match substr adapterPath startLeafName with
  | none => .error .outOfRange
  | some leafName => .ok [.system (bytes "hciconfig " ++ leafName ++ bytes arguments)]

def disableSSP (adapterPath : List UInt8) : Except Abort (List Action) :=
  hciconfigCommand " sspmode 0" adapterPath

def enablePScan (adapterPath : List UInt8) : Except Abort (List Action) :=
  hciconfigCommand " pscan" adapterPath

def initializeAdapter (pSystemBusConnection : Bool) (answer : PowerAnswer)
    (adapterPath : List UInt8) : Except Abort (List Action) := do
  let powered ← enableAdapterPower pSystemBusConnection answer adapterPath
  let sspDisabled ← disableSSP adapterPath
  let scanEnabled ← enablePScan adapterPath
  pure (powered ++ sspDisabled ++ scanEnabled)

/-- `di.dev_id = atoi(argv[0] + 3)`, a `uint16_t`. -/
def devId (argument : List UInt8) : ℕ := (atoi (argument.drop 3) % 2 ^ 16).toNat

/-- What a shell command makes `hciconfig` do: the device number, and the words it
takes for commands to that device. -/
def hciconfig (command : List UInt8) : Option (ℕ × List (List UInt8)) :=
  match words command with
  | program :: argument :: commands =>
      if program = bytes "hciconfig" then some (devId argument, commands) else none
  | _ => none

/-- The object path of an adapter. -/
def hciPath (front : List UInt8) (k : ℕ) : List UInt8 := front ++ bytes "/hci" ++ decimal k

/-- Powered is set on the object, then the two commands reach device number `k`. -/
def ActsOn (path : List UInt8) (k : ℕ) (actions : List Action) : Prop :=
  ∃ sspmode pscan,
    actions = [.set path "org.bluez.Adapter1" "Powered" true, .system sspmode, .system pscan] ∧
    hciconfig sspmode = some (k, [bytes "sspmode", bytes "0"]) ∧
    hciconfig pscan = some (k, [bytes "pscan"])

section Names

/-- The command that calls a device by the given name. -/
def command (name arguments : List UInt8) : List UInt8 :=
  bytes "hciconfig " ++ name ++ arguments

theorem words_command {name : List UInt8} (absent : 32 ∉ name) (nonempty : name ≠ [])
    (arguments : List UInt8) :
    words (command name (32 :: arguments)) = bytes "hciconfig" :: name :: words arguments := by
  have blank : command name (32 :: arguments) =
      bytes "hciconfig" ++ 32 :: (name ++ 32 :: arguments) := by
    rw [command, List.append_assoc]
    rfl
  rw [blank, words_append_cons (by decide) (by decide), words_append_cons absent nonempty]

theorem hciconfig_command {name : List UInt8} (absent : 32 ∉ name) (nonempty : name ≠ [])
    (arguments : List UInt8) :
    hciconfig (command name (32 :: arguments)) = some (devId name, words arguments) := by
  rw [hciconfig, words_command absent nonempty]
  simp only [if_true]

theorem not_mem_name {c : UInt8} {stem : List UInt8} (k : ℕ) (absent : c ∉ stem)
    (other : isDigit c = false) : c ∉ stem ++ decimal k := by
  rw [List.mem_append, not_or]
  exact ⟨absent, not_mem_decimal other⟩

/-- A device called by its name alone is the one that is found. -/
theorem hciconfig_name {k : ℕ} (small : k < 2 ^ 16) (arguments : List UInt8) :
    hciconfig (command (bytes "hci" ++ decimal k) (32 :: arguments)) =
      some (k, words arguments) := by
  have number : devId (bytes "hci" ++ decimal k) = k := by
    have name : (bytes "hci" ++ decimal k).drop 3 = decimal k := rfl
    rw [devId, name, atoi_decimal]
    omega
  rw [hciconfig_command (not_mem_name k (by decide) rfl) (by simp [bytes]), number]

/-- With the separator before its name, every device is number 0. -/
theorem hciconfig_slash_name (k : ℕ) (arguments : List UInt8) :
    hciconfig (command (bytes "/hci" ++ decimal k) (32 :: arguments)) =
      some (0, words arguments) := by
  have number : devId (bytes "/hci" ++ decimal k) = 0 := rfl
  rw [hciconfig_command (not_mem_name k (by decide) rfl) (by simp [bytes]), number]

theorem substr_hciPath (front : List UInt8) (k : ℕ) :
    substr (hciPath front k) (rfind 47 (hciPath front k)) = some (bytes "/hci" ++ decimal k) := by
  have separator : hciPath front k = front ++ 47 :: (bytes "hci" ++ decimal k) := by
    rw [hciPath, List.append_assoc]
    rfl
  rw [separator, substr_rfind front (not_mem_name k (by decide) rfl)]
  rfl

theorem hciconfigCommand_hciPath (arguments : String) (front : List UInt8) (k : ℕ) :
    hciconfigCommand arguments (hciPath front k) =
      .ok [.system (command (bytes "/hci" ++ decimal k) (bytes arguments))] := by
  rw [hciconfigCommand, substr_hciPath, command]

end Names

section Initialization

variable {pSystemBusConnection : Bool} {answer : PowerAnswer} {path : List UInt8}
  {powered : List Action}

theorem enableAdapterPower_eq_ok (h : enableAdapterPower pSystemBusConnection answer path =
    .ok powered) : powered = [.set path "org.bluez.Adapter1" "Powered" true] := by
  unfold enableAdapterPower at h
  split_ifs at h
  exact (Except.ok.inj h).symm

theorem initializeAdapter_hciPath (front : List UInt8) (k : ℕ)
    (power : enableAdapterPower pSystemBusConnection answer (hciPath front k) = .ok powered) :
    initializeAdapter pSystemBusConnection answer (hciPath front k) =
      .ok [.set (hciPath front k) "org.bluez.Adapter1" "Powered" true,
        .system (command (bytes "/hci" ++ decimal k) (bytes " sspmode 0")),
        .system (command (bytes "/hci" ++ decimal k) (bytes " pscan"))] := by
  rw [initializeAdapter, power, enableAdapterPower_eq_ok power, disableSSP, enablePScan,
    hciconfigCommand_hciPath, hciconfigCommand_hciPath]
  rfl

/-- Once Powered is set the initialisation goes through, and the three steps act on one
adapter exactly when it is the adapter with number 0. -/
theorem initializeAdapter_actsOn_iff (front : List UInt8) (k : ℕ)
    (power : enableAdapterPower pSystemBusConnection answer (hciPath front k) = .ok powered) :
    ∃ actions, initializeAdapter pSystemBusConnection answer (hciPath front k) = .ok actions ∧
      (ActsOn (hciPath front k) k actions ↔ k = 0) := by
  refine ⟨_, initializeAdapter_hciPath front k power, ?_⟩
  have sspmode : hciconfig (command (bytes "/hci" ++ decimal k) (bytes " sspmode 0")) =
      some (0, [bytes "sspmode", bytes "0"]) := hciconfig_slash_name k (bytes "sspmode 0")
  have pscan : hciconfig (command (bytes "/hci" ++ decimal k) (bytes " pscan")) =
      some (0, [bytes "pscan"]) := hciconfig_slash_name k (bytes "pscan")
  constructor
  · rintro ⟨_, _, same, onK, _⟩
    simp only [List.cons.injEq, Action.system.injEq, true_and] at same
    rw [← same.1, sspmode] at onK
    simp only [Option.some.injEq, Prod.mk.injEq] at onK
    exact onK.1.symm
  · rintro rfl
    exact ⟨_, _, rfl, sspmode, pscan⟩

/-- The one adapter that most machines have. -/
theorem initializeAdapter_actsOn_iff_hci0 : ∃ actions,
    initializeAdapter true ⟨true, true⟩ (bytes "/org/bluez/hci0") = .ok actions ∧
    ActsOn (bytes "/org/bluez/hci0") 0 actions := by
  have power : enableAdapterPower true ⟨true, true⟩ (hciPath (bytes "/org/bluez") 0) =
      .ok [.set (bytes "/org/bluez/hci0") "org.bluez.Adapter1" "Powered" true] := by decide
  obtain ⟨actions, returned, when⟩ := initializeAdapter_actsOn_iff (bytes "/org/bluez") 0 power
  exact ⟨actions, returned, when.mpr rfl⟩

/-- Powered is set on the second adapter, and simple pairing is turned off on the
first. -/
theorem initializeAdapter_hci1_reaches_hci0 : ∃ actions sspmode pscan,
    initializeAdapter true ⟨true, true⟩ (bytes "/org/bluez/hci1") = .ok actions ∧
    actions = [.set (bytes "/org/bluez/hci1") "org.bluez.Adapter1" "Powered" true,
      .system sspmode, .system pscan] ∧
    hciconfig sspmode = some (0, [bytes "sspmode", bytes "0"]) ∧
    hciconfig pscan = some (0, [bytes "pscan"]) ∧
    ¬ ActsOn (bytes "/org/bluez/hci1") 1 actions := by
  refine ⟨_, bytes "hciconfig /hci1 sspmode 0", bytes "hciconfig /hci1 pscan", by decide, rfl,
    by decide, by decide, ?_⟩
  rintro ⟨_, _, same, onOne, _⟩
  simp only [List.cons.injEq, Action.system.injEq, true_and] at same
  rw [← same.1] at onOne
  exact absurd onOne (by decide)

end Initialization

end BluezTutorial.Agent
