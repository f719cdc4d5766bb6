import BluezTutorial.Socket

/-! The D-Bus calls of `Listener` and, of those, the ones that remove devices:
`findAllRecognizedDevices` and `removeAllDevicesExcept` of Profile/Listener.cpp.
The daemon's answers are inputs; what the code puts on the bus is the output. A
`GError *` is a Boolean, set or NULL, since nothing reads the error itself. -/

namespace BluezTutorial

abbrev ObjectPath := String

/-- One object in the reply of `GetManagedObjects`, with its interface names. -/
structure ManagedObject where
  path : ObjectPath
  interfaces : List String
deriving DecidableEq, Repr

structure ProfileOptions where
  name : String
  channel : ℕ
  autoConnect : Bool
  requireAuthentication : Bool
deriving DecidableEq, Repr

/-- A method call that the Listener has put on the bus. -/
inductive BusCall where
  | registerProfile (profile : ObjectPath) (uuid : String) (options : ProfileOptions)
  | unregisterProfile (profile : ObjectPath)
  | disconnect (device : ObjectPath)
  | getManagedObjects
  | removeDevice (adapter device : ObjectPath)
deriving DecidableEq, Repr

/-- `std::string::find`: the first position, `none` for `npos`. -/
def find (pattern : List Char) : List Char → Option ℕ
  | [] => if pattern.isPrefixOf [] then some 0 else none
  | c :: text =>
      if pattern.isPrefixOf (c :: text) then some 0 else (find pattern text).map (· + 1)

/-- The outcome of `g_dbus_proxy_call_sync`: whether the call went out, whether
it returned a value, and `*error` afterwards. -/
structure SyncCall where
  sent : Bool
  result : Bool
  error : Bool
deriving DecidableEq, Repr

/-- GLib refuses a call whose `*error` is already set. -/
def gDbusProxyCallSync (error succeeds : Bool) : SyncCall :=
  if error then ⟨false, false, true⟩
  else if succeeds then ⟨true, true, false⟩ else ⟨true, false, true⟩

/-- The answers `removeAllDevicesExcept` gets: the two proxies, the children of
the reply of `GetManagedObjects` (`none` when that call fails), and what becomes
of the `RemoveDevice` call for the n-th device found. -/
structure RemovalAnswer where
  adapterProxy : Bool
  managerProxy : Bool
  objects : Option (List (List ManagedObject))
  removeDevice : ℕ → Bool

def adapterPath : ObjectPath := "/org/bluez/hci0"

def findAllRecognizedDevices (pSystemBusConnection : Bool) (answer : RemovalAnswer) :
    Except Abort (List ObjectPath) := do
  check pSystemBusConnection .findBus
  check answer.managerProxy .findProxy
  match answer.objects with
  | none => .error .findCall
  | some [objects] =>
      pure ((objects.map (·.path)).filter fun newPath => (find "dev_".toList newPath.toList).isSome)
  | some _ => .error .findChildren

/-- The loop of `removeAllDevicesExcept` from the n-th device on. The one `p_error`
of the function is carried from call to call. -/
def removeLoop (answer : RemovalAnswer) (devicePathToKeep : ObjectPath) :
    ℕ → Bool → List ObjectPath → Except Abort (List BusCall)
  | _, _, [] => pure []
  | n, pError, device :: rest =>
      if device ≠ devicePathToKeep then do
        let call := gDbusProxyCallSync pError (answer.removeDevice n)
        if call.result then check (!call.error) .removeCall
        let later ← removeLoop answer devicePathToKeep (n + 1) call.error rest
        pure (if call.sent then .removeDevice adapterPath device :: later else later)
      else removeLoop answer devicePathToKeep (n + 1) pError rest

def removeAllDevicesExcept (pSystemBusConnection : Bool) (devicePathToKeep : ObjectPath)
    (answer : RemovalAnswer) : Except Abort (List BusCall) := do
  check pSystemBusConnection .removeBus
  check answer.adapterProxy .removeProxy
  let foundDevices ← findAllRecognizedDevices pSystemBusConnection answer
  let removed ← removeLoop answer devicePathToKeep 0 false foundDevices
  pure (.getManagedObjects :: removed)

section RemoveLoop

variable (answer : RemovalAnswer) {devicePathToKeep device : ObjectPath}

theorem removeLoop_kept (n : ℕ) (pError : Bool) (rest : List ObjectPath) :
    removeLoop answer devicePathToKeep n pError (devicePathToKeep :: rest) =
      removeLoop answer devicePathToKeep (n + 1) pError rest := by
  simp [removeLoop]

/-- While `p_error` is unset the call goes out, and fails or not. -/
theorem removeLoop_sent (other : device ≠ devicePathToKeep) (n : ℕ) (rest : List ObjectPath) :
    removeLoop answer devicePathToKeep n false (device :: rest) =
      (removeLoop answer devicePathToKeep (n + 1) (!answer.removeDevice n) rest).map
        (.removeDevice adapterPath device :: ·) := by
  cases succeeds : answer.removeDevice n <;>
    cases later : removeLoop answer devicePathToKeep (n + 1) (!answer.removeDevice n) rest <;>
    simp_all [removeLoop, gDbusProxyCallSync, bind, Except.bind, pure, Except.pure, Except.map]

/-- Once `p_error` is set GLib refuses every further call. -/
theorem removeLoop_refused (found : List ObjectPath) (n : ℕ) :
    removeLoop answer devicePathToKeep n true found = .ok [] := by
  induction found generalizing n with
  | nil => rfl
  | cons device rest ih =>
      by_cases kept : device = devicePathToKeep
      · rw [kept, removeLoop_kept, ih]
      · simp [removeLoop, kept, gDbusProxyCallSync, ih, bind, Except.bind, pure, Except.pure]

/-- The assertion inside the loop never fails: a call that returned a value found
`p_error` unset and left it so. -/
theorem removeLoop_ok (devicePathToKeep : ObjectPath) (found : List ObjectPath) (n : ℕ)
    (pError : Bool) : ∃ calls, removeLoop answer devicePathToKeep n pError found = .ok calls := by
  induction found generalizing n pError with
  | nil => exact ⟨[], rfl⟩
  | cons device rest ih =>
      cases pError with
      | true => exact ⟨[], removeLoop_refused answer (device :: rest) n⟩
      | false =>
          by_cases kept : device = devicePathToKeep
          · rw [kept, removeLoop_kept]
            exact ih (n + 1) false
          · obtain ⟨later, hlater⟩ := ih (n + 1) (!answer.removeDevice n)
            rw [removeLoop_sent answer kept, hlater]
            exact ⟨_, rfl⟩

/-- The calls that remove every device found but one, in the order found. -/
def removals (devicePathToKeep : ObjectPath) (found : List ObjectPath) : List BusCall :=
  (found.filter (· ≠ devicePathToKeep)).map (.removeDevice adapterPath)

/-- Of the devices found, the n-th being the first of the list, a removal that another
removal follows succeeds. -/
def OnlyLastFails (devicePathToKeep : ObjectPath) (n : ℕ) (found : List ObjectPath) : Prop :=
  ∀ i j device later, i < j → found[i]? = some device → found[j]? = some later →
    device ≠ devicePathToKeep → later ≠ devicePathToKeep → answer.removeDevice (n + i) = true

theorem onlyLastFails_nil (n : ℕ) : OnlyLastFails answer devicePathToKeep n [] := by
  intro i j device later _ hi
  simp at hi

theorem onlyLastFails_cons {n : ℕ} {rest : List ObjectPath} :
    OnlyLastFails answer devicePathToKeep n (device :: rest) ↔
      (device ≠ devicePathToKeep → (∃ later ∈ rest, later ≠ devicePathToKeep) →
        answer.removeDevice n = true) ∧
      OnlyLastFails answer devicePathToKeep (n + 1) rest := by
  constructor
  · intro fine
    refine ⟨fun other ⟨later, mem, removed⟩ => ?_, fun i j first later before hi hj => ?_⟩
    · obtain ⟨j, hj⟩ := List.mem_iff_getElem?.mp mem
      exact fine 0 (j + 1) device later (by omega) rfl (by simpa using hj) other removed
    · have shifted := fine (i + 1) (j + 1) first later (by omega) (by simpa using hi)
        (by simpa using hj)
      rwa [show n + (i + 1) = n + 1 + i by omega] at shifted
  · rintro ⟨head, tail⟩ i j first later before hi hj other removed
    obtain ⟨j, rfl⟩ : ∃ j', j = j' + 1 := ⟨j - 1, by omega⟩
    have hj : rest[j]? = some later := by simpa using hj
    cases i with
    | zero =>
        obtain rfl : device = first := by simpa using hi
        exact head other ⟨later, List.mem_iff_getElem?.mpr ⟨j, hj⟩, removed⟩
    | succ i =>
        have shifted := tail i j first later (by omega) (by simpa using hi) hj other removed
        rwa [show n + 1 + i = n + (i + 1) by omega] at shifted

theorem removals_eq_nil_iff {found : List ObjectPath} :
    removals devicePathToKeep found = [] ↔ ¬ ∃ device ∈ found, device ≠ devicePathToKeep := by
  simp [removals]

theorem removals_kept (rest : List ObjectPath) :
    removals devicePathToKeep (devicePathToKeep :: rest) = removals devicePathToKeep rest := by
  simp [removals]

theorem removals_cons (other : device ≠ devicePathToKeep) (rest : List ObjectPath) :
    removals devicePathToKeep (device :: rest) =
      .removeDevice adapterPath device :: removals devicePathToKeep rest := by
  simp [removals, other]

/-- Where nothing is removed nothing has to succeed. -/
theorem onlyLastFails_of_removals_nil {found : List ObjectPath}
    (nothing : removals devicePathToKeep found = []) (n : ℕ) :
    OnlyLastFails answer devicePathToKeep n found := by
  intro i j device later _ hi _ other
  exact absurd ⟨device, List.mem_of_getElem? hi, other⟩ (removals_eq_nil_iff.mp nothing)

theorem removeLoop_eq_ok_iff (found : List ObjectPath) (n : ℕ) :
    removeLoop answer devicePathToKeep n false found = .ok (removals devicePathToKeep found) ↔
      OnlyLastFails answer devicePathToKeep n found := by
  induction found generalizing n with
  | nil => exact iff_of_true rfl (onlyLastFails_nil answer n)
  | cons device rest ih =>
      rw [onlyLastFails_cons]
      by_cases kept : device = devicePathToKeep
      · rw [kept, removals_kept, removeLoop_kept, ih]
        simp
      · rw [removals_cons kept, removeLoop_sent answer kept]
        cases succeeds : answer.removeDevice n with
        | true =>
            rw [Bool.not_true, ← ih (n + 1)]
            cases removeLoop answer devicePathToKeep (n + 1) false rest <;> simp [Except.map]
        | false =>
            have sent : Except.map (.removeDevice adapterPath device :: ·) (.ok []) =
                (.ok (.removeDevice adapterPath device :: removals devicePathToKeep rest) :
                  Except Abort (List BusCall)) ↔ removals devicePathToKeep rest = [] := by
              simp [Except.map, eq_comm]
            rw [Bool.not_false, removeLoop_refused, sent]
            constructor
            · intro nothing
              exact ⟨fun _ more => absurd more (removals_eq_nil_iff.mp nothing),
                onlyLastFails_of_removals_nil answer nothing (n + 1)⟩
            · rintro ⟨head, _⟩
              exact removals_eq_nil_iff.mpr fun more => Bool.false_ne_true (head kept more)

end RemoveLoop

/-- The answers under which no assertion of the two functions fails. -/
def RemovalAnswer.Good (answer : RemovalAnswer) : Prop :=
  answer.adapterProxy = true ∧ answer.managerProxy = true ∧
    ∃ objects, answer.objects = some [objects]

theorem removeAllDevicesExcept_eq_ok (devicePathToKeep : ObjectPath) {answer : RemovalAnswer}
    (good : answer.Good) :
    ∃ calls, removeAllDevicesExcept true devicePathToKeep answer = .ok calls := by
  obtain ⟨adapter, manager, objects, hobjects⟩ := good
  obtain ⟨calls, hcalls⟩ := removeLoop_ok answer devicePathToKeep
    ((objects.map (·.path)).filter fun newPath => (find "dev_".toList newPath.toList).isSome)
    0 false
  refine ⟨.getManagedObjects :: calls, ?_⟩
  simp only [removeAllDevicesExcept, findAllRecognizedDevices, adapter, manager, hobjects,
    check_true, bind, Except.bind, pure, Except.pure, hcalls]

/-- Without good answers the functions stop at one of their own assertions. -/
theorem removeAllDevicesExcept_eq_error (devicePathToKeep : ObjectPath) {answer : RemovalAnswer}
    (bad : ¬ answer.Good) :
    ∃ abort ∈ [Abort.removeProxy, .findProxy, .findCall, .findChildren],
      removeAllDevicesExcept true devicePathToKeep answer = .error abort := by
  simp only [removeAllDevicesExcept, findAllRecognizedDevices, check_true, bind, Except.bind]
  cases adapter : answer.adapterProxy with
  | false => exact ⟨.removeProxy, by simp, rfl⟩
  | true =>
      cases manager : answer.managerProxy with
      | false => exact ⟨.findProxy, by simp, rfl⟩
      | true =>
          rcases objects : answer.objects with _ | (_ | ⟨first, _ | ⟨second, rest⟩⟩)
          · exact ⟨.findCall, by simp, rfl⟩
          · exact ⟨.findChildren, by simp, rfl⟩
          · exact absurd ⟨adapter, manager, first, objects⟩ bad
          · exact ⟨.findChildren, by simp, rfl⟩

theorem removeAllDevicesExcept_eq {answer : RemovalAnswer} (devicePathToKeep : ObjectPath)
    (adapter : answer.adapterProxy = true) {found : List ObjectPath}
    (hfound : findAllRecognizedDevices true answer = .ok found) :
    removeAllDevicesExcept true devicePathToKeep answer =
      (removeLoop answer devicePathToKeep 0 false found).map (.getManagedObjects :: ·) := by
  rw [removeAllDevicesExcept, adapter, hfound]
  rfl

/-- Every device found but the one to keep is asked to be removed, once and in the order
found, exactly when no removal fails that another one follows: the `p_error` of a
failed call is never cleared. -/
theorem removeAllDevicesExcept_removals_iff {answer : RemovalAnswer}
    (devicePathToKeep : ObjectPath) (adapter : answer.adapterProxy = true)
    (found : List ObjectPath) (hfound : findAllRecognizedDevices true answer = .ok found) :
    removeAllDevicesExcept true devicePathToKeep answer =
        .ok (.getManagedObjects :: removals devicePathToKeep found) ↔
      OnlyLastFails answer devicePathToKeep 0 found := by
  rw [← removeLoop_eq_ok_iff, removeAllDevicesExcept_eq devicePathToKeep adapter hfound]
  cases removeLoop answer devicePathToKeep 0 false found <;> simp [Except.map]

/-- The device to keep is found between two others, of which the last cannot be removed. -/
theorem removeAllDevicesExcept_removals_iff_last_fails :
    removeAllDevicesExcept true "/org/bluez/hci0/dev_B"
      ⟨true, true, some [[⟨"/org/bluez/hci0/dev_A", []⟩, ⟨"/org/bluez/hci0/dev_B", []⟩,
        ⟨"/org/bluez/hci0/dev_C", []⟩]], fun n => n ≠ 2⟩ =
      .ok [.getManagedObjects, .removeDevice "/org/bluez/hci0" "/org/bluez/hci0/dev_A",
        .removeDevice "/org/bluez/hci0" "/org/bluez/hci0/dev_C"] := by
  refine (removeAllDevicesExcept_removals_iff "/org/bluez/hci0/dev_B" rfl
    ["/org/bluez/hci0/dev_A", "/org/bluez/hci0/dev_B", "/org/bluez/hci0/dev_C"] rfl).mpr ?_
  simp [onlyLastFails_cons, onlyLastFails_nil]

/-- The first of two devices cannot be removed, and the second is never asked for. -/
theorem failed_removal_blocks_next :
    removeAllDevicesExcept true "/org/bluez/hci0/dev_A"
      ⟨true, true, some [[⟨"/org/bluez/hci0/dev_A", []⟩, ⟨"/org/bluez/hci0/dev_B", []⟩,
        ⟨"/org/bluez/hci0/dev_C", []⟩]], fun n => n ≠ 1⟩ =
      .ok [.getManagedObjects, .removeDevice "/org/bluez/hci0" "/org/bluez/hci0/dev_B"] ∧
    .getManagedObjects :: removals "/org/bluez/hci0/dev_A"
      ["/org/bluez/hci0/dev_A", "/org/bluez/hci0/dev_B", "/org/bluez/hci0/dev_C"] ≠
      [.getManagedObjects, .removeDevice "/org/bluez/hci0" "/org/bluez/hci0/dev_B"] :=
  ⟨rfl, by decide⟩

end BluezTutorial
