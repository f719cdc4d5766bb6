import BluezTutorial.CString
import BluezTutorial.DeviceRemoval

/-! Which devices `removeAllDevicesExcept` asks to be removed, and of whom. What it is
for is said by the interfaces in the reply of `GetManagedObjects`: an object is a device
when it carries Device1, and the adapter to ask is its parent, which carries Adapter1.
The code looks at neither: it takes every object with `dev_` in its path for a device
and asks the adapter hci0. -/

namespace BluezTutorial.DeviceSelection

def device1 : String := "org.bluez.Device1"

def adapter1 : String := "org.bluez.Adapter1"

/-- The object path with its last component taken off. -/
def parent (path : ObjectPath) : ObjectPath :=
  match CString.rfind '/' path.toList with
  | none | some 0 => "/"
  | some position => String.ofList (path.toList.take position)

/-- The RemoveDevice calls, each as the adapter asked and the device it is about. -/
def removed (calls : List BusCall) : List (ObjectPath × ObjectPath) :=
  calls.filterMap fun
    | .removeDevice adapter device => some (adapter, device)
    | _ => none

/-- Some object of the reply has this path and this interface. -/
def Carries (objects : List ManagedObject) (path : ObjectPath) (interface : String) : Prop :=
  ∃ object ∈ objects, object.path = path ∧ interface ∈ object.interfaces

/-- The devices other than the one to keep are removed, each once and by the adapter it
belongs to. -/
structure RemovesOthers (objects : List ManagedObject) (devicePathToKeep : ObjectPath)
    (calls : List BusCall) : Prop where
  once : ((removed calls).map Prod.snd).Nodup
  devices : ∀ path, path ∈ (removed calls).map Prod.snd ↔
    path ≠ devicePathToKeep ∧ Carries objects path device1
  adapters : ∀ adapter path, (adapter, path) ∈ removed calls →
    adapter = parent path ∧ Carries objects adapter adapter1

/-- The test of `findAllRecognizedDevices`. -/
def NamesDevice (path : ObjectPath) : Prop := (find "dev_".toList path.toList).isSome = true

/-- Among the objects other than the one to keep, those that carry Device1 are those
with `dev_` in their path, and they belong to the adapter hci0. -/
def OthersOnAdapter (objects : List ManagedObject) (devicePathToKeep : ObjectPath) : Prop :=
  ∀ object ∈ objects, object.path ≠ devicePathToKeep →
    (NamesDevice object.path ↔ device1 ∈ object.interfaces) ∧
    (device1 ∈ object.interfaces →
      parent object.path = adapterPath ∧ Carries objects adapterPath adapter1)

instance (objects : List ManagedObject) (path : ObjectPath) (interface : String) :
    Decidable (Carries objects path interface) :=
  inferInstanceAs
    (Decidable (∃ object ∈ objects, object.path = path ∧ interface ∈ object.interfaces))

instance (path : ObjectPath) : Decidable (NamesDevice path) :=
  inferInstanceAs (Decidable ((find "dev_".toList path.toList).isSome = true))

instance (objects : List ManagedObject) (devicePathToKeep : ObjectPath) :
    Decidable (OthersOnAdapter objects devicePathToKeep) :=
  inferInstanceAs (Decidable (∀ object ∈ objects, object.path ≠ devicePathToKeep → _ ∧ _))

section Selection

variable {objects : List ManagedObject} {devicePathToKeep path : ObjectPath}
  {answer : RemovalAnswer} {found : List ObjectPath}

theorem findAllRecognizedDevices_eq_ok (hobjects : answer.objects = some [objects])
    (hfound : findAllRecognizedDevices true answer = .ok found) :
    found = (objects.map (·.path)).filter
      fun newPath => (find "dev_".toList newPath.toList).isSome := by
  rw [findAllRecognizedDevices, check_bind_eq_ok, check_bind_eq_ok, hobjects] at hfound
  exact (Except.ok.inj hfound.2.2).symm

theorem removed_removals (devicePathToKeep : ObjectPath) (found : List ObjectPath) :
    removed (.getManagedObjects :: removals devicePathToKeep found) =
      (found.filter (· ≠ devicePathToKeep)).map (adapterPath, ·) := by
  simp [removed, removals, List.filterMap_map]

/-- A path leads to one object of the reply. -/
theorem carries_path_iff (map : (objects.map (·.path)).Nodup) {object : ManagedObject}
    (hobject : object ∈ objects) (interface : String) :
    Carries objects object.path interface ↔ interface ∈ object.interfaces := by
  constructor
  · rintro ⟨other, hother, same, carried⟩
    obtain rfl : other = object := List.inj_on_of_nodup_map map hother hobject same
    exact carried
  · intro carried
    exact ⟨object, hobject, rfl, carried⟩

theorem mem_removals_iff (hobjects : answer.objects = some [objects])
    (hfound : findAllRecognizedDevices true answer = .ok found) {adapter : ObjectPath} :
    (adapter, path) ∈ removed (.getManagedObjects :: removals devicePathToKeep found) ↔
      adapter = adapterPath ∧ path ≠ devicePathToKeep ∧ NamesDevice path ∧
        ∃ object ∈ objects, object.path = path := by
  rw [removed_removals, findAllRecognizedDevices_eq_ok hobjects hfound]
  simp only [List.mem_map, List.mem_filter, Prod.mk.injEq, NamesDevice, decide_eq_true_eq]
  constructor
  · rintro ⟨_, ⟨⟨listed, names⟩, other⟩, rfl, rfl⟩
    exact ⟨rfl, other, names, listed⟩
  · rintro ⟨rfl, other, names, listed⟩
    exact ⟨path, ⟨⟨listed, names⟩, other⟩, rfl, rfl⟩

theorem nodup_removals (map : (objects.map (·.path)).Nodup)
    (hobjects : answer.objects = some [objects])
    (hfound : findAllRecognizedDevices true answer = .ok found) :
    ((removed (.getManagedObjects :: removals devicePathToKeep found)).map Prod.snd).Nodup := by
  have paths : (removed (.getManagedObjects :: removals devicePathToKeep found)).map Prod.snd =
      found.filter (· ≠ devicePathToKeep) := by
    rw [removed_removals, List.map_map]
    exact List.map_id _
  rw [paths, findAllRecognizedDevices_eq_ok hobjects hfound]
  exact (map.filter _).filter _

theorem mem_devices_iff (hobjects : answer.objects = some [objects])
    (hfound : findAllRecognizedDevices true answer = .ok found) :
    path ∈ (removed (.getManagedObjects :: removals devicePathToKeep found)).map Prod.snd ↔
      path ≠ devicePathToKeep ∧ NamesDevice path ∧ ∃ object ∈ objects, object.path = path := by
  simp only [List.mem_map, Prod.exists, exists_eq_right, mem_removals_iff hobjects hfound,
    exists_eq_left]

/-- The paths asked for are those of the other devices exactly when the path of every
other object tells whether it is one. -/
theorem devices_iff (map : (objects.map (·.path)).Nodup)
    (hobjects : answer.objects = some [objects])
    (hfound : findAllRecognizedDevices true answer = .ok found) :
    (∀ path, path ∈ (removed (.getManagedObjects :: removals devicePathToKeep found)).map
        Prod.snd ↔ path ≠ devicePathToKeep ∧ Carries objects path device1) ↔
      ∀ object ∈ objects, object.path ≠ devicePathToKeep →
        (NamesDevice object.path ↔ device1 ∈ object.interfaces) := by
  simp only [mem_devices_iff hobjects hfound]
  constructor
  · intro devices object hobject other
    have same := devices object.path
    rw [carries_path_iff map hobject] at same
    have listed : ∃ o ∈ objects, o.path = object.path := ⟨object, hobject, rfl⟩
    simpa [other, listed] using same
  · intro tells path
    refine and_congr_right fun other => ?_
    constructor
    · rintro ⟨names, object, hobject, rfl⟩
      exact ⟨object, hobject, rfl, (tells object hobject other).mp names⟩
    · rintro ⟨object, hobject, rfl, carried⟩
      exact ⟨(tells object hobject other).mpr carried, object, hobject, rfl⟩

/-- The adapter asked is always hci0. -/
theorem adapters_iff (hobjects : answer.objects = some [objects])
    (hfound : findAllRecognizedDevices true answer = .ok found)
    (tells : ∀ object ∈ objects, object.path ≠ devicePathToKeep →
      (NamesDevice object.path ↔ device1 ∈ object.interfaces)) :
    (∀ adapter path,
        (adapter, path) ∈ removed (.getManagedObjects :: removals devicePathToKeep found) →
        adapter = parent path ∧ Carries objects adapter adapter1) ↔
      ∀ object ∈ objects, object.path ≠ devicePathToKeep → device1 ∈ object.interfaces →
        parent object.path = adapterPath ∧ Carries objects adapterPath adapter1 := by
  simp only [mem_removals_iff hobjects hfound]
  constructor
  · intro adapters object hobject other carried
    have names : NamesDevice object.path := (tells object hobject other).mpr carried
    have asked := adapters adapterPath object.path ⟨rfl, other, names, object, hobject, rfl⟩
    exact ⟨asked.1.symm, asked.2⟩
  · rintro placed _ _ ⟨rfl, other, names, object, hobject, rfl⟩
    have carried : device1 ∈ object.interfaces := (tells object hobject other).mp names
    have asked := placed object hobject other carried
    exact ⟨asked.1.symm, asked.2⟩

theorem removesOthers_removals_iff (map : (objects.map (·.path)).Nodup)
    (hobjects : answer.objects = some [objects])
    (hfound : findAllRecognizedDevices true answer = .ok found) :
    RemovesOthers objects devicePathToKeep
        (.getManagedObjects :: removals devicePathToKeep found) ↔
      OthersOnAdapter objects devicePathToKeep := by
  constructor
  · rintro ⟨_, devices, adapters⟩ object hobject other
    have tells := (devices_iff map hobjects hfound).mp devices
    have placed := (adapters_iff hobjects hfound tells).mp adapters
    exact ⟨tells object hobject other, placed object hobject other⟩
  · intro placed
    have tells := fun object hobject other => (placed object hobject other).1
    exact {
      once := nodup_removals map hobjects hfound
      devices := (devices_iff map hobjects hfound).mpr tells
      adapters := (adapters_iff hobjects hfound tells).mpr
        fun object hobject other => (placed object hobject other).2 }

/-- When every call can be sent, what is removed is every other device, each once and by
its own adapter, exactly when each object other than the one to keep shows in its path
whether it is a device and the other devices all belong to hci0. -/
theorem removeAllDevicesExcept_removesOthers_iff (map : (objects.map (·.path)).Nodup)
    (adapter : answer.adapterProxy = true) (hobjects : answer.objects = some [objects])
    (hfound : findAllRecognizedDevices true answer = .ok found)
    (sent : OnlyLastFails answer devicePathToKeep 0 found) :
    ∃ calls, removeAllDevicesExcept true devicePathToKeep answer = .ok calls ∧
      (RemovesOthers objects devicePathToKeep calls ↔
        OthersOnAdapter objects devicePathToKeep) := by
  have removals := (removeLoop_eq_ok_iff answer found 0).mpr sent
  refine ⟨_, ?_, removesOthers_removals_iff map hobjects hfound⟩
  rw [removeAllDevicesExcept_eq devicePathToKeep adapter hfound, removals]
  rfl

/-- One adapter, the device to keep and another one. -/
def plainReply : List ManagedObject :=
  [⟨"/org/bluez/hci0", ["org.bluez.Adapter1", "org.bluez.Media1"]⟩,
    ⟨"/org/bluez/hci0/dev_A", ["org.bluez.Device1"]⟩,
    ⟨"/org/bluez/hci0/dev_B", ["org.bluez.Device1"]⟩]

theorem removeAllDevicesExcept_removesOthers_iff_plainReply : ∃ calls,
    removeAllDevicesExcept true "/org/bluez/hci0/dev_A"
      ⟨true, true, some [plainReply], fun _ => true⟩ = .ok calls ∧
    RemovesOthers plainReply "/org/bluez/hci0/dev_A" calls := by
  have map : (plainReply.map (·.path)).Nodup := by decide
  have sent : OnlyLastFails ⟨true, true, some [plainReply], fun _ => true⟩
      "/org/bluez/hci0/dev_A" 0 ["/org/bluez/hci0/dev_A", "/org/bluez/hci0/dev_B"] :=
    fun _ _ _ _ _ _ _ _ _ => rfl
  have placed : OthersOnAdapter plainReply "/org/bluez/hci0/dev_A" := by decide
  obtain ⟨calls, returned, when⟩ :=
    removeAllDevicesExcept_removesOthers_iff map rfl rfl rfl sent
  exact ⟨calls, returned, when.mpr placed⟩

/-- Two adapters; the device to keep offers a GATT service, and the other device belongs
to the second adapter. -/
def gattReply : List ManagedObject :=
  [⟨"/org/bluez/hci0", ["org.bluez.Adapter1"]⟩,
    ⟨"/org/bluez/hci0/dev_A", ["org.bluez.Device1"]⟩,
    ⟨"/org/bluez/hci0/dev_A/service0001", ["org.bluez.GattService1"]⟩,
    ⟨"/org/bluez/hci1", ["org.bluez.Adapter1"]⟩,
    ⟨"/org/bluez/hci1/dev_B", ["org.bluez.Device1"]⟩]

/-- The first adapter is asked to remove a service of the device to keep and a device
of the second adapter. -/
theorem gattReply_removes_service :
    removeAllDevicesExcept true "/org/bluez/hci0/dev_A"
      ⟨true, true, some [gattReply], fun _ => true⟩ =
      .ok [.getManagedObjects,
        .removeDevice "/org/bluez/hci0" "/org/bluez/hci0/dev_A/service0001",
        .removeDevice "/org/bluez/hci0" "/org/bluez/hci1/dev_B"] ∧
    ¬ RemovesOthers gattReply "/org/bluez/hci0/dev_A"
      [.getManagedObjects,
        .removeDevice "/org/bluez/hci0" "/org/bluez/hci0/dev_A/service0001",
        .removeDevice "/org/bluez/hci0" "/org/bluez/hci1/dev_B"] := by
  refine ⟨rfl, fun removes => ?_⟩
  have service := (removes.devices "/org/bluez/hci0/dev_A/service0001").mp (by decide)
  have notDevice : ¬ Carries gattReply "/org/bluez/hci0/dev_A/service0001" device1 := by decide
  exact notDevice service.2

end Selection

section Tree

/-- Where an object hangs in BlueZ's tree. -/
inductive Place where
  | manager
  | adapter (k : ℕ)
  | device (k : ℕ) (address : List Char)
  | child (k : ℕ) (address name : List Char)

def hciPath (k : ℕ) : List Char := "/org/bluez/hci".toList ++ Nat.toDigits 10 k

def devicePath (k : ℕ) (address : List Char) : List Char :=
  hciPath k ++ '/' :: ("dev_".toList ++ address)

def Place.path : Place → List Char
  | .manager => "/org/bluez".toList
  | .adapter k => hciPath k
  | .device k address => devicePath k address
  | .child k address name => devicePath k address ++ '/' :: name

/-- The interfaces an object has by its place. -/
def Place.Fits (interfaces : List String) : Place → Prop
  | .manager => device1 ∉ interfaces
  | .adapter _ => adapter1 ∈ interfaces ∧ device1 ∉ interfaces
  | .device _ address => device1 ∈ interfaces ∧ '/' ∉ address
  | .child _ _ _ => device1 ∉ interfaces

/-- An object of the tree; the children of a device are its services, their
characteristics, its transports and players. -/
structure Node where
  place : Place
  interfaces : List String
  fits : place.Fits interfaces

def Node.object (node : Node) : ManagedObject := ⟨String.ofList node.place.path, node.interfaces⟩

theorem find_isSome_iff {pattern : List Char} (text : List Char) :
    (find pattern text).isSome = true ↔ pattern <:+: text := by
  induction text with
  | nil =>
      rw [find, List.infix_nil]
      cases pattern <;> simp
  | cons c text ih =>
      rw [find, List.infix_cons_iff, ← ih, ← List.isPrefixOf_iff_prefix]
      by_cases first : pattern.isPrefixOf (c :: text) = true
      · simp [first]
      · simp [first]

theorem namesDevice_ofList (text : List Char) :
    NamesDevice (String.ofList text) ↔ "dev_".toList <:+: text := by
  simp only [NamesDevice, find_isSome_iff, String.toList_ofList]

theorem not_namesDevice_hciPath (k : ℕ) : ¬ NamesDevice (String.ofList (hciPath k)) := by
  rw [namesDevice_ofList]
  intro inside
  have underscore : '_' ∈ hciPath k := inside.subset (by decide)
  rcases List.mem_append.mp underscore with stem | digits
  · exact absurd stem (by decide)
  · exact Nat.underscore_not_in_toDigits digits

theorem infix_devicePath (k : ℕ) (address : List Char) :
    "dev_".toList <:+: devicePath k address :=
  ⟨hciPath k ++ ['/'], address, by simp [devicePath]⟩

theorem parent_ofList {front leaf : List Char} (absent : '/' ∉ leaf) (below : front ≠ []) :
    parent (String.ofList (front ++ '/' :: leaf)) = String.ofList front := by
  have position := CString.rfind_append_cons front absent
  cases front with
  | nil => exact absurd rfl below
  | cons c front =>
      simp only [parent, String.toList_ofList, position, List.length_cons]
      simp

theorem parent_devicePath (k : ℕ) {address : List Char} (absent : '/' ∉ address) :
    parent (String.ofList (devicePath k address)) = String.ofList (hciPath k) := by
  have leaf : '/' ∉ "dev_".toList ++ address := by simp [absent]
  have below : hciPath k ≠ [] := List.append_ne_nil_of_left_ne_nil (by decide) _
  exact parent_ofList leaf below

theorem hciPath_eq_adapterPath_iff (k : ℕ) : String.ofList (hciPath k) = adapterPath ↔ k = 0 := by
  have zero : adapterPath = String.ofList (hciPath 0) := rfl
  have digits : hciPath k = hciPath 0 ↔ Nat.toDigits 10 k = Nat.toDigits 10 0 :=
    List.append_right_inj _
  rw [zero, String.ofList_inj, digits]
  constructor
  · intro same
    have values := congrArg (fun text => Nat.ofDigitChars 10 text 0) same
    simpa only [Nat.ofDigitChars_ten_toDigits] using values
  · intro same
    rw [same]

variable {nodes : List Node}

/-- The test by the path is right about everything in the tree but the children of a
device. -/
theorem Node.namesDevice_iff (node : Node)
    (childless : ∀ k address name, node.place ≠ .child k address name) :
    NamesDevice node.object.path ↔ device1 ∈ node.object.interfaces := by
  obtain ⟨place, interfaces, fits⟩ := node
  cases place with
  | manager =>
      have unnamed : ¬ NamesDevice "/org/bluez" := by decide
      exact iff_of_false unnamed fits
  | adapter k => exact iff_of_false (not_namesDevice_hciPath k) fits.2
  | device k address =>
      exact iff_of_true ((namesDevice_ofList _).mpr (infix_devicePath k address)) fits.1
  | child k address name => exact absurd rfl (childless k address name)

theorem Node.namesDevice_child (node : Node) {k : ℕ} {address name : List Char}
    (place : node.place = .child k address name) :
    NamesDevice node.object.path ∧ device1 ∉ node.object.interfaces := by
  have fits := node.fits
  rw [place] at fits
  refine ⟨?_, fits⟩
  rw [Node.object, place, namesDevice_ofList]
  exact (infix_devicePath k address).trans (List.prefix_append _ _).isInfix

theorem Node.parent_device (node : Node) {k : ℕ} {address : List Char}
    (place : node.place = .device k address) :
    device1 ∈ node.object.interfaces ∧
      (parent node.object.path = adapterPath ↔ k = 0) := by
  have fits := node.fits
  rw [place] at fits
  have path : node.object.path = String.ofList (devicePath k address) := by
    rw [Node.object, place]
    rfl
  rw [path, parent_devicePath k fits.2]
  exact ⟨fits.1, hciPath_eq_adapterPath_iff k⟩

theorem Node.exists_device (node : Node) (carried : device1 ∈ node.object.interfaces) :
    ∃ k address, node.place = .device k address := by
  obtain ⟨place, interfaces, fits⟩ := node
  cases place with
  | manager => exact absurd carried fits
  | adapter k => exact absurd carried fits.2
  | device k address => exact ⟨k, address, rfl⟩
  | child k address name => exact absurd carried fits

/-- A device hangs below an adapter that is there too. -/
def Rooted (nodes : List Node) : Prop :=
  ∀ node ∈ nodes, ∀ k address, node.place = .device k address →
    ∃ adapter ∈ nodes, adapter.place = .adapter k

theorem Rooted.carries (rooted : Rooted nodes) {node : Node} (hnode : node ∈ nodes)
    {address : List Char} (place : node.place = .device 0 address) :
    Carries (nodes.map Node.object) adapterPath adapter1 := by
  obtain ⟨adapter, hadapter, first⟩ := rooted node hnode 0 address place
  have fits := adapter.fits
  rw [first] at fits
  refine ⟨adapter.object, List.mem_map_of_mem hadapter, ?_, fits.1⟩
  rw [Node.object, first]
  rfl

/-- In BlueZ's tree the condition says that no device, the one to keep included, has
children, and that no other device belongs to a further adapter. -/
theorem othersOnAdapter_iff_childless (distinct : ((nodes.map Node.object).map (·.path)).Nodup)
    (rooted : Rooted nodes) {kept : Node} (hkept : kept ∈ nodes)
    (device : device1 ∈ kept.object.interfaces) :
    OthersOnAdapter (nodes.map Node.object) kept.object.path ↔
      (∀ node ∈ nodes, ∀ k address name, node.place ≠ .child k address name) ∧
      ∀ node ∈ nodes, node.object.path ≠ kept.object.path → ∀ k address,
        node.place = .device k address → k = 0 := by
  constructor
  · intro others
    have others := fun node (hnode : node ∈ nodes) =>
      others node.object (List.mem_map_of_mem hnode)
    refine ⟨fun node hnode k address name place => ?_, fun node hnode other k address place => ?_⟩
    · obtain ⟨names, notDevice⟩ := node.namesDevice_child place
      have other : node.object.path ≠ kept.object.path := by
        intro same
        have objects : node.object = kept.object := List.inj_on_of_nodup_map distinct
          (List.mem_map_of_mem hnode) (List.mem_map_of_mem hkept) same
        exact notDevice (objects ▸ device)
      exact notDevice ((others node hnode other).1.mp names)
    · obtain ⟨carried, zero⟩ := node.parent_device place
      exact zero.mp ((others node hnode other).2 carried).1
  · rintro ⟨childless, first⟩ object hobject other
    obtain ⟨node, hnode, rfl⟩ := List.mem_map.mp hobject
    refine ⟨node.namesDevice_iff (childless node hnode), fun carried => ?_⟩
    obtain ⟨k, address, place⟩ := node.exists_device carried
    obtain rfl : k = 0 := first node hnode other k address place
    exact ⟨(node.parent_device place).2.mpr rfl, rooted.carries hnode place⟩

end Tree

end BluezTutorial.DeviceSelection
