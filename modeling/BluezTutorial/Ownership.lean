import BluezTutorial.Operations

/-! Who owns the descriptors that NewConnection delivers. `Owned` is kept by every
operation: the held number is open and stands for the latest delivery to the
remembered device, and whatever `closeConnection` has closed was a delivery, closed
for the first time. That no delivery is lost needs more, because
`createNewSocketConnection` overwrites the Socket by plain assignment: it is kept
exactly by the runs in which every NewConnection finds nothing held. -/

namespace BluezTutorial.Ownership
open LabelledRun

/-- The Socket holds the i-th delivery. -/
def Holds (h : Holding) (i : ℕ) (delivery : Delivery) : Prop :=
  ∃ socket, h.pSocket = some socket ∧ socket.fd ≠ -1 ∧
    h.descriptors.target socket.fd = some (.delivered i) ∧ h.deliveries[i]? = some delivery

/-- The Socket, if there is one, holds no descriptor. -/
def Idle (h : Holding) : Prop :=
  ∀ socket, h.pSocket = some socket → socket.fd = -1

structure Owned (h : Holding) : Prop where
  sound : h.descriptors.Sound
  delivered : ∀ number i, h.descriptors.target number = some (.delivered i) →
    ∃ delivery, h.deliveries[i]? = some delivery ∧ delivery.fd = number
  closes : ∀ number target, (number, target) ∈ h.descriptors.closes →
    ∃ i delivery, target = some (.delivered i) ∧ h.deliveries[i]? = some delivery ∧
      delivery.fd = number
  held : ∀ socket, h.pSocket = some socket → socket.fd ≠ -1 →
    ∃ i delivery, Holds h i delivery ∧ delivery.device = h.device

section Preservation

theorem getElem?_append_of_some {α : Type} {l : List α} {i : ℕ} {a : α} (h : l[i]? = some a)
    (l' : List α) : (l ++ l')[i]? = some a := by
  rw [List.getElem?_append_left (List.getElem?_eq_some_iff.mp h).1, h]

variable {h : Holding} {socket : Socket} {device : ObjectPath} {fd : ℤ}

theorem Owned.length_not_live (owned : Owned h) :
    ¬ h.descriptors.Live (.delivered h.deliveries.length) := by
  rintro ⟨number, hnumber⟩
  obtain ⟨delivery, hdelivery, _⟩ := owned.delivered number _ hnumber
  simp at hdelivery

theorem Owned.length_not_closed (owned : Owned h) :
    Owner.delivered h.deliveries.length ∉ h.descriptors.closes.filterMap Prod.snd := by
  intro closed
  simp only [List.mem_filterMap, Prod.exists, exists_eq_right] at closed
  obtain ⟨number, hnumber⟩ := closed
  obtain ⟨i, delivery, same, hdelivery, _⟩ := owned.closes _ _ hnumber
  obtain rfl : h.deliveries.length = i := by simpa using same
  simp at hdelivery

/-- A held number is the number under which its delivery came. -/
theorem Owned.fd_of_holds (owned : Owned h) {i : ℕ} {delivery : Delivery}
    (holds : Holds h i delivery) (hsocket : h.pSocket = some socket) :
    delivery.fd = socket.fd ∧ h.descriptors.target socket.fd = some (.delivered i) := by
  obtain ⟨socket', hsocket', _, target, hdelivery⟩ := holds
  obtain rfl : socket' = socket := by simpa [hsocket'] using hsocket
  obtain ⟨delivery', hdelivery', hfd⟩ := owned.delivered _ _ target
  obtain rfl : delivery = delivery' := by simpa [hdelivery] using hdelivery'
  exact ⟨hfd, target⟩

theorem idle_cleared (h : Holding) (socket : Socket) : Idle (h.cleared socket) := by
  intro socket' hsocket'
  obtain rfl : (socket.closeConnection h.descriptors).1 = socket' := by
    simpa [Holding.cleared] using hsocket'
  simp

theorem owned_cleared (owned : Owned h) (held : h.pSocket = some socket) :
    Owned (h.cleared socket) := by
  have idle : Idle (h.cleared socket) := idle_cleared h socket
  by_cases free : socket.fd = -1
  · have same : (h.cleared socket).descriptors = h.descriptors :=
      Socket.closeConnection_descriptors_of_free socket h.descriptors free
    exact {
      sound := same ▸ owned.sound
      delivered := same ▸ owned.delivered
      closes := same ▸ owned.closes
      held := fun s hs taken => absurd (idle s hs) taken }
  · have closed : (h.cleared socket).descriptors = h.descriptors.close socket.fd :=
      Socket.closeConnection_descriptors_of_held socket h.descriptors free
    refine {
      sound := closed ▸ owned.sound.close socket.fd
      delivered := ?_
      closes := ?_
      held := fun s hs taken => absurd (idle s hs) taken }
    · intro number i target
      rw [closed] at target
      exact owned.delivered number i (HandleTable.close_target_eq_some.mp target).2
    · intro number target mem
      rw [closed, HandleTable.close_closes, List.mem_append, List.mem_singleton] at mem
      rcases mem with earlier | now
      · exact owned.closes number target earlier
      · obtain ⟨i, delivery, holds, _⟩ := owned.held socket held free
        obtain ⟨hfd, htarget⟩ := owned.fd_of_holds holds held
        obtain ⟨_, _, _, _, hdelivery⟩ := holds
        simp only [Prod.mk.injEq] at now
        exact ⟨i, delivery, by rw [now.2, htarget], hdelivery, by rw [hfd, now.1]⟩

/-- The remembered device is the one the held descriptor came for. -/
theorem Owned.device_of_holds (owned : Owned h) {i : ℕ} {delivery : Delivery}
    (holds : Holds h i delivery) : delivery.device = h.device := by
  obtain ⟨socket, hsocket, taken, target, hdelivery⟩ := holds
  obtain ⟨j, other, holds', device⟩ := owned.held socket hsocket taken
  have target' := (owned.fd_of_holds holds' hsocket).2
  obtain ⟨_, _, _, _, hother⟩ := holds'
  obtain rfl : i = j := by simpa [target] using target'
  obtain rfl : delivery = other := by simpa [hdelivery] using hother
  exact device

theorem Owned.not_live_cleared (owned : Owned h) {i : ℕ} {delivery : Delivery}
    (holds : Holds h i delivery) (held : h.pSocket = some socket) :
    ¬ (h.cleared socket).descriptors.Live (.delivered i) := by
  have target := (owned.fd_of_holds holds held).2
  obtain ⟨socket', hsocket', taken, _⟩ := holds
  obtain rfl : socket' = socket := by simpa [hsocket'] using held
  rw [Holding.cleared, Socket.closeConnection_descriptors_of_held _ _ taken]
  exact owned.sound.not_live_close target

theorem live_of_live_cleared {resource : Owner}
    (live : (h.cleared socket).descriptors.Live resource) : h.descriptors.Live resource := by
  by_cases free : socket.fd = -1
  · rwa [Holding.cleared, Socket.closeConnection_descriptors_of_free _ _ free] at live
  · rw [Holding.cleared, Socket.closeConnection_descriptors_of_held _ _ free] at live
    exact HandleTable.live_of_live_close live

theorem holds_installed (nonneg : 0 ≤ fd) :
    Holds (h.installed device fd) h.deliveries.length ⟨device, fd⟩ :=
  ⟨Socket.ofFd fd, rfl, by simp only [Socket.ofFd]; omega, HandleTable.grant_target_self,
    by simp [Holding.installed]⟩

theorem owned_installed (owned : Owned h) (nonneg : 0 ≤ fd)
    (free : h.descriptors.target fd = none) : Owned (h.installed device fd) where
  sound := owned.sound.grant free owned.length_not_live owned.length_not_closed
  delivered number i target := by
    by_cases same : number = fd
    · subst same
      obtain rfl : h.deliveries.length = i := by
        simpa [Holding.installed, HandleTable.grant_target_self] using target
      exact ⟨⟨device, number⟩, by simp [Holding.installed], rfl⟩
    · rw [Holding.installed, HandleTable.grant_target_of_ne same] at target
      obtain ⟨delivery, hdelivery, hfd⟩ := owned.delivered number i target
      exact ⟨delivery, getElem?_append_of_some hdelivery _, hfd⟩
  closes number target mem := by
    obtain ⟨i, delivery, htarget, hdelivery, hfd⟩ := owned.closes number target mem
    exact ⟨i, delivery, htarget, getElem?_append_of_some hdelivery _, hfd⟩
  held _ _ _ := ⟨h.deliveries.length, ⟨device, fd⟩, holds_installed nonneg, rfl⟩

theorem owned_restarted (owned : Owned h) : Owned h.restarted where
  sound := owned.sound
  delivered := owned.delivered
  closes := owned.closes
  held socket hsocket taken := by
    obtain rfl : Socket.ofFd (-1) = socket := by simpa [Holding.restarted] using hsocket
    exact absurd rfl taken

theorem owned_change {h' : Holding} {registered registered' : Bool} (owned : Owned h)
    (change : h.Change registered h' registered') : Owned h' := by
  cases change with
  | kept => exact owned
  | cleared socket held _ => exact owned_cleared owned held
  | installed device fd nonneg free => exact owned_installed owned nonneg free
  | restarted => exact owned_restarted owned

end Preservation

section Runs

variable {busGet : Bool} {openNumbers : ℤ → Bool} {w₀ w w' : World} {ops : List Op} {op : Op}

theorem owned_constructed (openNumbers : ℤ → Bool) :
    Owned (World.constructed openNumbers).holding where
  sound := {
    unique := by
      intro m n resource hm hn
      simp only [World.holding, World.constructed, Option.ite_none_right_eq_some,
        Option.some.injEq] at hm hn
      have same : Owner.foreign m = .foreign n := hm.2.trans hn.2.symm
      simpa using same
    gone := by simp [World.holding, World.constructed]
    once := by simp [World.holding, World.constructed] }
  delivered := by
    intro number i target
    simp [World.holding, World.constructed] at target
  closes := by simp [World.holding, World.constructed]
  held := by simp [World.holding, World.constructed]

theorem step_owned (before : Coherent w ∧ Owned w.holding) (h : op.step w = some w') :
    Coherent w' ∧ Owned w'.holding :=
  have ⟨coherent, change⟩ := Op.step_change before.1 h
  ⟨coherent, owned_change before.2 change⟩

theorem start_owned (start : construct busGet openNumbers = .ok w₀) :
    Coherent w₀ ∧ Owned w₀.holding := by
  obtain ⟨_, rfl⟩ := construct_eq_ok.mp start
  exact ⟨coherent_constructed openNumbers, owned_constructed openNumbers⟩

theorem run_owned (start : construct busGet openNumbers = .ok w₀)
    (hrun : run Op.step w₀ ops = some w) : Coherent w ∧ Owned w.holding :=
  invariant (I := fun w => Coherent w ∧ Owned w.holding)
    (fun _ _ _ before h => step_owned before h) (start_owned start) hrun

/-- Whatever the order of operations: every `close` was applied to a number that at
that moment stood for a delivery, no delivery was closed twice, and a held number
is open and stands for a delivery to the remembered device. -/
theorem closeConnection_safe (start : construct busGet openNumbers = .ok w₀)
    (hrun : run Op.step w₀ ops = some w) :
    (∀ number target, (number, target) ∈ w.descriptors.closes →
      ∃ i delivery, target = some (.delivered i) ∧ w.deliveries[i]? = some delivery ∧
        delivery.fd = number) ∧
    (w.descriptors.closes.filterMap Prod.snd).Nodup ∧
    ∀ socket, w.pSocket = some socket → socket.fd ≠ -1 →
      ∃ i delivery, w.descriptors.target socket.fd = some (.delivered i) ∧
        w.deliveries[i]? = some delivery ∧ delivery.fd = socket.fd ∧
        delivery.device = w.dbusObjectPathCtdDevice := by
  obtain ⟨_, owned⟩ := run_owned start hrun
  refine ⟨owned.closes, owned.sound.once, fun socket hsocket taken => ?_⟩
  obtain ⟨i, delivery, holds, device⟩ := owned.held socket hsocket taken
  obtain ⟨hfd, target⟩ := owned.fd_of_holds holds hsocket
  obtain ⟨_, _, _, _, hdelivery⟩ := holds
  exact ⟨i, delivery, target, hdelivery, hfd, device⟩

/-- A device connects on number 5, is disconnected, and connects on 5 again. -/
def reconnectOnSameNumber : List Op :=
  [.start ⟨true, true, true⟩,
    .dispatch (.newConnection "/org/bluez/hci0/dev_A" (.good 5)),
    .dispatch (.requestDisconnection "/org/bluez/hci0/dev_A"),
    .dispatch (.newConnection "/org/bluez/hci0/dev_A" (.good 5)),
    .stop ⟨true, true⟩]

theorem closeConnection_safe_reconnectOnSameNumber : ∃ w,
    run Op.step (World.constructed fun n => n < 3) reconnectOnSameNumber = some w ∧
    w.descriptors.closes = [(5, some (.delivered 0)), (5, some (.delivered 1))] ∧
    (w.descriptors.closes.filterMap Prod.snd).Nodup := by
  have closes : (run Op.step (World.constructed fun n => n < 3) reconnectOnSameNumber).map
      (·.descriptors.closes) = some [(5, some (.delivered 0)), (5, some (.delivered 1))] := by
    decide
  obtain ⟨w, hw, hcloses⟩ := Option.map_eq_some_iff.mp closes
  have start : construct true (fun n => n < 3) = .ok (World.constructed fun n => n < 3) := rfl
  exact ⟨w, hw, hcloses, (closeConnection_safe start hw).2.1⟩

end Runs

section Conservation

variable {h h' : Holding} {socket : Socket} {device : ObjectPath} {fd : ℤ}
  {registered registered' : Bool}

/-- Every descriptor received so far is closed or is the one held, at most one is
open, and none is open outside a session. -/
structure Conserved (h : Holding) (registered : Bool) : Prop where
  tracked : ∀ i delivery, h.deliveries[i]? = some delivery →
    ¬ h.descriptors.Live (.delivered i) ∨ Holds h i delivery
  single : ∀ i j, h.descriptors.Live (.delivered i) → h.descriptors.Live (.delivered j) → i = j
  none : registered = false → ∀ i, ¬ h.descriptors.Live (.delivered i)

theorem Conserved.of_not_live (gone : ∀ i, ¬ h.descriptors.Live (.delivered i)) :
    Conserved h registered :=
  ⟨fun i _ _ => Or.inl (gone i), fun i _ hi _ => absurd hi (gone i), fun _ => gone⟩

theorem Conserved.holds_of_live (conserved : Conserved h registered) (owned : Owned h) {i : ℕ}
    (live : h.descriptors.Live (.delivered i)) : ∃ delivery, Holds h i delivery := by
  obtain ⟨number, target⟩ := live
  obtain ⟨delivery, hdelivery, _⟩ := owned.delivered number i target
  rcases conserved.tracked i delivery hdelivery with dead | holds
  · exact absurd ⟨number, target⟩ dead
  · exact ⟨delivery, holds⟩

/-- Closing the held descriptor closes the last one open. -/
theorem Conserved.not_live_cleared (conserved : Conserved h registered) (owned : Owned h)
    (held : h.pSocket = some socket) (i : ℕ) :
    ¬ (h.cleared socket).descriptors.Live (.delivered i) := by
  intro live
  obtain ⟨delivery, holds⟩ := conserved.holds_of_live owned (live_of_live_cleared live)
  exact owned.not_live_cleared holds held live

theorem live_installed_iff (device : ObjectPath) (free : h.descriptors.target fd = none) {i : ℕ} :
    (h.installed device fd).descriptors.Live (.delivered i) ↔
      i = h.deliveries.length ∨ h.descriptors.Live (.delivered i) := by
  rw [Holding.installed, HandleTable.live_grant free, Owner.delivered.injEq]

theorem conserved_installed (conserved : Conserved h registered) (owned : Owned h)
    (idle : Idle h) (nonneg : 0 ≤ fd) (free : h.descriptors.target fd = none) :
    Conserved (h.installed device fd) true := by
  have only : ∀ i, (h.installed device fd).descriptors.Live (.delivered i) →
      i = h.deliveries.length := by
    intro i live
    rcases (live_installed_iff device free).mp live with new | old
    · exact new
    · obtain ⟨delivery, socket, hsocket, taken, _⟩ := conserved.holds_of_live owned old
      exact absurd (idle socket hsocket) taken
  refine ⟨fun i delivery hdelivery => ?_, fun i j hi hj => (only i hi).trans (only j hj).symm,
    by simp⟩
  by_cases new : i = h.deliveries.length
  · subst new
    obtain rfl : ⟨device, fd⟩ = delivery := by simpa [Holding.installed] using hdelivery
    exact Or.inr (holds_installed nonneg)
  · exact Or.inl fun live => new (only i live)

/-- Installing over a held descriptor loses it: two deliveries are open. -/
theorem idle_of_conserved_installed (owned : Owned h) (free : h.descriptors.target fd = none)
    (after : Conserved (h.installed device fd) true) : Idle h := by
  intro socket hsocket
  by_contra taken
  obtain ⟨i, delivery, ⟨_, _, _, target, hdelivery⟩, _⟩ := owned.held socket hsocket taken
  have old := (live_installed_iff device free).mpr (Or.inr ⟨_, target⟩)
  have new := (live_installed_iff device free).mpr (Or.inl rfl)
  have same := after.single _ _ old new
  simp [same] at hdelivery

theorem conserved_change (conserved : Conserved h registered) (owned : Owned h)
    (change : h.Change registered h' registered') (idle : h'.deliveries ≠ h.deliveries → Idle h) :
    Conserved h' registered' := by
  cases change with
  | kept => exact conserved
  | cleared socket held _ => exact .of_not_live (conserved.not_live_cleared owned held)
  | installed device fd nonneg free =>
      exact conserved_installed conserved owned (idle (by simp [Holding.installed])) nonneg free
  | restarted => exact .of_not_live (conserved.none rfl)

end Conservation

section ConservationRuns

variable {busGet : Bool} {openNumbers : ℤ → Bool} {w₀ w w' : World} {ops : List Op} {op : Op}

/-- A NewConnection is handled only while nothing is held. -/
def FindsNothingHeld (w : World) (op : Op) : Prop :=
  ∀ device answer, op = .dispatch (.newConnection device answer) → w.exported = true →
    Idle w.holding

def DescriptorsConserved (w : World) : Prop :=
  Conserved w.holding w.pBluezProfileInterface

/-- No descriptor is lost along a run exactly when each NewConnection of the run
that reached its handler found nothing held. -/
theorem descriptorsConserved_iff (start : construct busGet openNumbers = .ok w₀)
    (hrun : run Op.step w₀ ops = some w) :
    Along Op.step DescriptorsConserved w₀ ops ↔ Guarded Op.step FindsNothingHeld w₀ ops := by
  refine along_iff_guarded (I := fun w => (Coherent w ∧ Owned w.holding) ∧ DescriptorsConserved w)
    ?_ (fun _ before => before.2) ?_ ?_ hrun
  · rintro w op w' ⟨before, conserved⟩ guarded h
    refine ⟨step_owned before h, ?_⟩
    refine conserved_change conserved before.2 (Op.step_change before.1 h).2 fun more => ?_
    obtain ⟨exported, device, answer, rfl⟩ := Op.step_deliveries h more
    exact guarded device answer rfl exported
  · rintro w op w' ⟨before, _⟩ h after device answer rfl exported
    obtain ⟨fd, calls, _, nonneg, free, rfl⟩ := Op.step_newConnection exported h
    have registered : w.pBluezProfileInterface = true := before.1.exported ▸ exported
    have after : Conserved (w.holding.installed device fd) w.pBluezProfileInterface := after
    rw [registered] at after
    exact idle_of_conserved_installed before.2 free after
  · refine ⟨start_owned start, .of_not_live ?_⟩
    obtain ⟨_, rfl⟩ := construct_eq_ok.mp start
    rintro i ⟨number, target⟩
    simp [World.holding, World.constructed] at target

theorem descriptorsConserved_iff_reconnectOnSameNumber : ∃ w,
    run Op.step (World.constructed fun n => n < 3) reconnectOnSameNumber = some w ∧
    (Along Op.step DescriptorsConserved (World.constructed fun n => n < 3) reconnectOnSameNumber ↔
      Guarded Op.step FindsNothingHeld (World.constructed fun n => n < 3)
        reconnectOnSameNumber) := by
  have runs : (run Op.step (World.constructed fun n => n < 3) reconnectOnSameNumber).isSome := by
    decide
  obtain ⟨w, hw⟩ := Option.isSome_iff_exists.mp runs
  have start : construct true (fun n => n < 3) = .ok (World.constructed fun n => n < 3) := rfl
  exact ⟨w, hw, descriptorsConserved_iff start hw⟩

/-- A second device connects while the first is held, then the first is named in a
RequestDisconnection. -/
def secondDevice : List Op :=
  [.start ⟨true, true, true⟩,
    .dispatch (.newConnection "/org/bluez/hci0/dev_A" (.good 5)),
    .dispatch (.newConnection "/org/bluez/hci0/dev_B" (.good 6))]

/-- Descriptor 5 is open, and it is neither closed nor held. -/
theorem secondDevice_loses_descriptor : ∃ w,
    run Op.step (World.constructed fun n => n < 3) secondDevice = some w ∧
    w.descriptors.target 5 = some (.delivered 0) ∧ w.pSocket = some (Socket.ofFd 6) ∧
    ¬ DescriptorsConserved w := by
  have after : (run Op.step (World.constructed fun n => n < 3) secondDevice).map
      (fun w => (w.descriptors.target 5, w.descriptors.target 6, w.pSocket)) =
      some (some (.delivered 0), some (.delivered 1), some (Socket.ofFd 6)) := by decide
  obtain ⟨w, hw, hafter⟩ := Option.map_eq_some_iff.mp after
  simp only [Prod.mk.injEq] at hafter
  obtain ⟨five, six, socket⟩ := hafter
  refine ⟨w, hw, five, socket, fun conserved => ?_⟩
  have same := conserved.single 0 1 ⟨5, five⟩ ⟨6, six⟩
  cases same

end ConservationRuns

section Scope

variable {busGet : Bool} {openNumbers : ℤ → Bool} {w₀ w : World} {ops : List Op}

/-- A disconnection that concerns only the device it names: a held descriptor of
that device is closed, one of another device stays open and held and the Socket
reports what it reported. -/
def Scoped (device : ObjectPath) (w w' : World) : Prop :=
  (∀ i delivery, Holds w.holding i delivery → delivery.device = device →
    ¬ w'.descriptors.Live (.delivered i)) ∧
  ∀ i delivery, Holds w.holding i delivery → delivery.device ≠ device →
    Holds w'.holding i delivery ∧
    w'.pSocket.map Socket.getConnectionState = w.pSocket.map Socket.getConnectionState

/-- `requestDisconnectionCallback` does not look at the device it is given: it is
scoped exactly when nothing is held or what is held came for that device. -/
theorem requestDisconnectionCallback_scoped_iff (start : construct busGet openNumbers = .ok w₀)
    (hrun : run Op.step w₀ ops = some w) (started : w.pBluezProfileInterface = true)
    (device : ObjectPath) :
    ∃ handled, requestDisconnectionCallback device w = .ok handled ∧
      (Scoped device w handled.world ↔
        Idle w.holding ∨ w.dbusObjectPathCtdDevice = device) := by
  obtain ⟨coherent, owned⟩ := run_owned start hrun
  obtain ⟨socket, held⟩ := Option.isSome_iff_exists.mp (coherent.socket started)
  refine ⟨⟨w.cleared socket, true, []⟩,
    (requestDisconnectionCallback_eq_ok device).mpr ⟨socket, held, rfl⟩, ?_⟩
  constructor
  · rintro ⟨_, others⟩
    by_contra neither
    rw [not_or] at neither
    obtain ⟨busy, different⟩ := neither
    refine busy fun socket' hsocket' => ?_
    by_contra taken
    obtain ⟨i, delivery, holds, hdevice⟩ := owned.held socket' hsocket' taken
    obtain ⟨⟨cleared, hcleared, still, _⟩, _⟩ :=
      others i delivery holds (by rw [hdevice]; exact different)
    exact still (idle_cleared w.holding socket cleared hcleared)
  · rintro (idle | same)
    · have nothing : ∀ i delivery, ¬ Holds w.holding i delivery :=
        fun i delivery ⟨s, hs, taken, _⟩ => taken (idle s hs)
      exact ⟨fun i delivery holds => absurd holds (nothing i delivery),
        fun i delivery holds => absurd holds (nothing i delivery)⟩
    · refine ⟨fun i delivery holds _ => owned.not_live_cleared holds held,
        fun i delivery holds different => absurd ?_ different⟩
      exact (owned.device_of_holds holds).trans same

theorem requestDisconnectionCallback_scoped_iff_secondDevice : ∃ w handled,
    run Op.step (World.constructed fun n => n < 3) secondDevice = some w ∧
    requestDisconnectionCallback "/org/bluez/hci0/dev_A" w = .ok handled ∧
    (Scoped "/org/bluez/hci0/dev_A" w handled.world ↔
      Idle w.holding ∨ w.dbusObjectPathCtdDevice = "/org/bluez/hci0/dev_A") := by
  have runs : (run Op.step (World.constructed fun n => n < 3) secondDevice).map
      (·.pBluezProfileInterface) = some true := by decide
  obtain ⟨w, hw, started⟩ := Option.map_eq_some_iff.mp runs
  have start : construct true (fun n => n < 3) = .ok (World.constructed fun n => n < 3) := rfl
  obtain ⟨handled, hhandled, when⟩ :=
    requestDisconnectionCallback_scoped_iff start hw started "/org/bluez/hci0/dev_A"
  exact ⟨w, handled, hw, hhandled, when⟩

/-- Naming the first device closes the descriptor of the second. -/
theorem secondDevice_not_scoped : ∃ w handled,
    run Op.step (World.constructed fun n => n < 3) secondDevice = some w ∧
    requestDisconnectionCallback "/org/bluez/hci0/dev_A" w = .ok handled ∧
    ¬ Scoped "/org/bluez/hci0/dev_A" w handled.world := by
  have after : (run Op.step (World.constructed fun n => n < 3) secondDevice).map
      (fun w => (w.descriptors.target 6, w.pSocket, w.deliveries[1]?)) =
      some (some (.delivered 1), some (Socket.ofFd 6), some ⟨"/org/bluez/hci0/dev_B", 6⟩) := by
    decide
  obtain ⟨w, hw, hafter⟩ := Option.map_eq_some_iff.mp after
  simp only [Prod.mk.injEq] at hafter
  obtain ⟨six, socket, delivery⟩ := hafter
  refine ⟨w, ⟨w.cleared (Socket.ofFd 6), true, []⟩, hw,
    (requestDisconnectionCallback_eq_ok _).mpr ⟨_, socket, rfl⟩, ?_⟩
  rintro ⟨_, others⟩
  obtain ⟨⟨cleared, hcleared, still, _⟩, _⟩ :=
    others 1 _ ⟨_, socket, by decide, six, delivery⟩ (by decide)
  exact still (idle_cleared w.holding (Socket.ofFd 6) cleared hcleared)

end Scope

end BluezTutorial.Ownership
