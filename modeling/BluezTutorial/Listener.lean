import BluezTutorial.DeviceRemoval

/-! The class `Listener` of Profile/Listener.cpp: its members, the registration
of the profile, the three Profile1 handlers and the public calls, each as one
atomic operation that either returns or stops at an assertion. Session.lean has
the same bodies statement by statement, interleaved with the listening thread.

`World` adds to the members what they act on: the kernel's descriptor table, the
descriptors NewConnection delivered so far, whether GDBus has the skeleton
exported, and the calls put on the bus. Pointers are Booleans (not NULL) except
`_p_socket`, which is the Socket it points to: every start is given a Socket of its
own, so no two members alias. `std::thread` is whether it is joinable. -/

namespace BluezTutorial

structure Listener where
  pSocket : Option Socket
  listenThread : Bool
  pSystemBusConnection : Bool
  pBluezProfileInterface : Bool
  heartbeat : Bool
  dbusObjectPathCtdDevice : ObjectPath

def dbusObjectPath : ObjectPath := "/com/example/Example"

def profileName : String := "Example"

def profileUUID : String := "b298b822-a5bc-4ab0-a4ec-fadb980002b6"

def rfcommPort : ℕ := 22

/-- What a descriptor number of the process stands for: something the process had
open before, or the n-th descriptor that NewConnection delivered. -/
inductive Owner where
  | foreign (number : ℤ)
  | delivered (index : ℕ)
deriving DecidableEq, Repr

/-- A descriptor received through `g_unix_fd_list_get`. -/
structure Delivery where
  device : ObjectPath
  fd : ℤ
deriving DecidableEq, Repr

structure World extends Listener where
  descriptors : HandleTable Owner
  deliveries : List Delivery
  exported : Bool
  bus : List BusCall

/-- `g_assert_no_error` after `g_dbus_proxy_new_sync`, the export and the call. -/
structure RegisterAnswer where
  proxy : Bool
  exported : Bool
  call : Bool
deriving DecidableEq, Repr

structure UnregisterAnswer where
  proxy : Bool
  call : Bool
deriving DecidableEq, Repr

/-- What the environment answers while `handleNewConnectionCallback` runs; `fd` is
the value of `g_unix_fd_list_get`, `none` for its error. -/
structure NewConnectionAnswer where
  fd : Option ℤ
  removal : RemovalAnswer
  setup : SetupAnswer

inductive Reply where
  | value
  | error (name : String)
deriving DecidableEq, Repr

/-- How a signal handler left its invocation: what it returned, and the replies it
completed the invocation with. -/
structure Handled where
  world : World
  returned : Bool
  replies : List Reply

/-- The members as the constructor leaves them, in a process that has the given
numbers open. -/
def World.constructed (openNumbers : ℤ → Bool) : World where
  pSocket := none
  listenThread := false
  pSystemBusConnection := true
  pBluezProfileInterface := false
  heartbeat := false
  dbusObjectPathCtdDevice := ""
  descriptors := ⟨fun n => if 0 ≤ n ∧ openNumbers n then some (.foreign n) else none, []⟩
  deliveries := []
  exported := false
  bus := []

/-- `Listener::Listener`. -/
def construct (busGet : Bool) (openNumbers : ℤ → Bool) : Except Abort World := do
  check busGet .busGet
  pure (World.constructed openNumbers)

/-- The world after `closeConnection` on the Socket that `_p_socket` points to. -/
def World.cleared (w : World) (socket : Socket) : World :=
  let (closed, descriptors) := socket.closeConnection w.descriptors
  { w with pSocket := some closed, descriptors := descriptors }

def disconnectSocket (w : World) : Except Abort World :=
  match w.pSocket with
  | none => .error .disconnectSocket
  | some socket => .ok (w.cleared socket)

def createNewSocketConnection (fd : ℤ) (dbusPath : ObjectPath) (setup : SetupAnswer)
    (w : World) : Except Abort World := do
  check w.pSocket.isSome .createSocket
  let newSocket := Socket.ofFd fd
  Socket.setupSocket setup
  pure { w with pSocket := some newSocket, dbusObjectPathCtdDevice := dbusPath }

def registerProfile (answer : RegisterAnswer) (w : World) : Except Abort World := do
  check w.pSystemBusConnection .registerBus
  check (!w.pBluezProfileInterface) .registerInterface
  check answer.proxy .registerProxy
  let w := { w with pBluezProfileInterface := true }
  check answer.exported .registerExport
  let options := ⟨profileName, rfcommPort, false, true⟩
  let w := { w with
    exported := true
    bus := w.bus ++ [.registerProfile dbusObjectPath profileUUID options] }
  check answer.call .registerCall
  pure w

def unregisterProfile (answer : UnregisterAnswer) (w : World) : Except Abort World := do
  check w.pSystemBusConnection .unregisterBus
  check w.pBluezProfileInterface .unregisterInterface
  check answer.proxy .unregisterProxy
  let w := { w with bus := w.bus ++ [BusCall.unregisterProfile dbusObjectPath] }
  check answer.call .unregisterCall
  let w := { w with exported := false }
  let w := { w with pBluezProfileInterface := false }
  disconnectSocket w

def startListening (answer : RegisterAnswer) (pSocket : Socket) (w : World) :
    Except Abort World := do
  let w ← registerProfile answer w
  let w := { w with pSocket := some pSocket, heartbeat := true }
  check (!w.listenThread) .threadAssign
  pure { w with listenThread := true }

def stopListening (answer : UnregisterAnswer) (w : World) : Except Abort World :=
  let w := { w with heartbeat := false }
  let w := if w.listenThread then { w with listenThread := false } else w
  unregisterProfile answer w

/-- `Listener::~Listener`. -/
def destruct (answer : UnregisterAnswer) (w : World) : Except Abort World := do
  let w ← stopListening answer w
  pure { w with pSystemBusConnection := false }

/-- `Listener::disconnect`. `p_error` is not initialised there: `strayError` says
that it happened not to be NULL, so that GLib refuses to create the proxy and the
stray pointer is freed at the end of the function. -/
def disconnect (strayError proxy : Bool) (w : World) : Except Abort World := do
  check w.pSystemBusConnection .disconnectBus
  let called := if proxy && !strayError then [.disconnect w.dbusObjectPathCtdDevice] else []
  let w ← disconnectSocket { w with bus := w.bus ++ called }
  check (!strayError) .disconnectError
  pure w

/-- The kernel gives the received descriptor a number of this process. -/
def World.receive (w : World) (device : ObjectPath) (fd : ℤ) : World :=
  { w with
    descriptors := w.descriptors.grant fd (.delivered w.deliveries.length)
    deliveries := w.deliveries ++ [⟨device, fd⟩] }

def handleNewConnectionCallback (device : ObjectPath) (answer : NewConnectionAnswer)
    (w : World) : Except Abort Handled :=
  match answer.fd with
  | none => .error .fdList
  | some newConnectionFD => do
      let w := w.receive device newConnectionFD
      let calls ← removeAllDevicesExcept w.pSystemBusConnection device answer.removal
      let w ← createNewSocketConnection newConnectionFD device answer.setup
        { w with bus := w.bus ++ calls }
      pure ⟨w, true, []⟩

def requestDisconnectionCallback (_device : ObjectPath) (w : World) : Except Abort Handled := do
  let w ← disconnectSocket w
  pure ⟨w, true, []⟩

def handleReleaseCallback (w : World) : Except Abort Handled := do
  let w ← disconnectSocket w
  pure ⟨w, true, []⟩

/-- A Profile1 call of the daemon, with the answers its handler will get. -/
inductive Callback where
  | newConnection (device : ObjectPath) (answer : NewConnectionAnswer)
  | requestDisconnection (device : ObjectPath)
  | release

def Callback.handle : Callback → World → Except Abort Handled
  | .newConnection device answer, w => handleNewConnectionCallback device answer w
  | .requestDisconnection device, w => requestDisconnectionCallback device w
  | .release, w => handleReleaseCallback w

/-- `_org_bluez_profile1_skeleton_handle_method_call` of Profile/Profile.c: run the
handler, and answer for it when it returned FALSE. -/
def skeletonHandleMethodCall (callback : Callback) (w : World) : Except Abort Handled := do
  let handled ← callback.handle w
  if handled.returned then pure handled
  else pure { handled with replies :=
    handled.replies ++ [.error "org.freedesktop.DBus.Error.UnknownMethod"] }

section Specifications

variable {w w' : World} {device : ObjectPath}

theorem pure_eq_ok {α : Type} {value result : α} :
    (pure value : Except Abort α) = .ok result ↔ result = value := by
  simp [pure, Except.pure, eq_comm]

theorem disconnectSocket_eq_ok :
    disconnectSocket w = .ok w' ↔ ∃ socket, w.pSocket = some socket ∧ w' = w.cleared socket := by
  unfold disconnectSocket
  cases w.pSocket <;> simp [eq_comm]

/-- The world once `registerProfile` has returned. -/
def World.registered (w : World) : World :=
  { w with
    pBluezProfileInterface := true
    exported := true
    bus := w.bus ++ [.registerProfile dbusObjectPath profileUUID
      ⟨profileName, rfcommPort, false, true⟩] }

/-- The world in which `unregisterProfile` comes to `disconnectSocket`. -/
def World.unregistered (w : World) : World :=
  { w with
    pBluezProfileInterface := false
    exported := false
    bus := w.bus ++ [.unregisterProfile dbusObjectPath] }

theorem registerProfile_eq_ok {answer : RegisterAnswer} : registerProfile answer w = .ok w' ↔
    w.pSystemBusConnection = true ∧ w.pBluezProfileInterface = false ∧
    answer = ⟨true, true, true⟩ ∧ w' = w.registered := by
  obtain ⟨proxy, exported, call⟩ := answer
  simp only [registerProfile, check_bind_eq_ok, Bool.not_eq_true', pure_eq_ok, World.registered,
    RegisterAnswer.mk.injEq, and_assoc]

theorem unregisterProfile_eq_ok {answer : UnregisterAnswer} :
    unregisterProfile answer w = .ok w' ↔
    w.pSystemBusConnection = true ∧ w.pBluezProfileInterface = true ∧ answer = ⟨true, true⟩ ∧
    ∃ socket, w.pSocket = some socket ∧ w' = w.unregistered.cleared socket := by
  obtain ⟨proxy, call⟩ := answer
  simp only [unregisterProfile, check_bind_eq_ok, disconnectSocket_eq_ok, World.unregistered,
    UnregisterAnswer.mk.injEq, and_assoc]

theorem startListening_eq_ok {answer : RegisterAnswer} {socket : Socket} :
    startListening answer socket w = .ok w' ↔
    w.pSystemBusConnection = true ∧ w.pBluezProfileInterface = false ∧
    answer = ⟨true, true, true⟩ ∧ w.listenThread = false ∧
    w' = { w.registered with
      pSocket := some socket, heartbeat := true, listenThread := true } := by
  rw [startListening, bind_eq_ok]
  simp only [registerProfile_eq_ok, check_bind_eq_ok, pure_eq_ok]
  constructor
  · rintro ⟨registered, ⟨bus, interface, good, rfl⟩, thread, rfl⟩
    exact ⟨bus, interface, good, by simpa [World.registered] using thread, rfl⟩
  · rintro ⟨bus, interface, good, thread, rfl⟩
    exact ⟨w.registered, ⟨bus, interface, good, rfl⟩, by simp [World.registered, thread], rfl⟩

/-- Whether or not there is a thread to join, there is none afterwards. -/
theorem stopListening_eq (answer : UnregisterAnswer) : stopListening answer w =
    unregisterProfile answer { w with heartbeat := false, listenThread := false } := by
  unfold stopListening
  cases w.listenThread <;> simp

theorem stopListening_eq_ok {answer : UnregisterAnswer} : stopListening answer w = .ok w' ↔
    w.pSystemBusConnection = true ∧ w.pBluezProfileInterface = true ∧ answer = ⟨true, true⟩ ∧
    ∃ socket, w.pSocket = some socket ∧
      w' = World.cleared { w.unregistered with
        heartbeat := false, listenThread := false } socket := by
  rw [stopListening_eq, unregisterProfile_eq_ok]
  rfl

theorem createNewSocketConnection_eq_ok {fd : ℤ} {setup : SetupAnswer} :
    createNewSocketConnection fd device setup w = .ok w' ↔
    w.pSocket.isSome = true ∧ Socket.setupSocket setup = .ok () ∧
    w' = { w with pSocket := some (Socket.ofFd fd), dbusObjectPathCtdDevice := device } := by
  rw [createNewSocketConnection, check_bind_eq_ok, bind_eq_ok]
  simp only [pure_eq_ok]
  exact and_congr_right fun _ => ⟨fun ⟨_, setup, same⟩ => ⟨setup, same⟩, fun h => ⟨(), h⟩⟩

/-- The world once `handleNewConnectionCallback` has installed the descriptor. -/
def World.installed (w : World) (device : ObjectPath) (fd : ℤ) (calls : List BusCall) : World :=
  { w.receive device fd with
    pSocket := some (Socket.ofFd fd)
    dbusObjectPathCtdDevice := device
    bus := w.bus ++ calls }

theorem handleNewConnectionCallback_eq_ok {answer : NewConnectionAnswer} {handled : Handled} :
    handleNewConnectionCallback device answer w = .ok handled ↔
    ∃ fd calls, answer.fd = some fd ∧
      removeAllDevicesExcept w.pSystemBusConnection device answer.removal = .ok calls ∧
      w.pSocket.isSome = true ∧ Socket.setupSocket answer.setup = .ok () ∧
      handled = ⟨w.installed device fd calls, true, []⟩ := by
  unfold handleNewConnectionCallback
  cases answer.fd with
  | none => simp
  | some fd =>
      simp only [Option.some.injEq, exists_and_left, exists_eq_left']
      rw [bind_eq_ok]
      simp only [bind_eq_ok, createNewSocketConnection_eq_ok, pure_eq_ok]
      constructor
      · rintro ⟨calls, removed, _, ⟨socket, setup, rfl⟩, rfl⟩
        exact ⟨calls, removed, socket, setup, rfl⟩
      · rintro ⟨calls, removed, socket, setup, rfl⟩
        exact ⟨calls, removed, _, ⟨socket, setup, rfl⟩, rfl⟩

theorem requestDisconnectionCallback_eq_ok (device : ObjectPath) {handled : Handled} :
    requestDisconnectionCallback device w = .ok handled ↔
    ∃ socket, w.pSocket = some socket ∧ handled = ⟨w.cleared socket, true, []⟩ := by
  rw [requestDisconnectionCallback, bind_eq_ok]
  simp only [disconnectSocket_eq_ok, pure_eq_ok]
  constructor
  · rintro ⟨_, ⟨socket, hsocket, rfl⟩, rfl⟩
    exact ⟨socket, hsocket, rfl⟩
  · rintro ⟨socket, hsocket, rfl⟩
    exact ⟨_, ⟨socket, hsocket, rfl⟩, rfl⟩

theorem handleReleaseCallback_eq_ok {handled : Handled} : handleReleaseCallback w = .ok handled ↔
    ∃ socket, w.pSocket = some socket ∧ handled = ⟨w.cleared socket, true, []⟩ :=
  requestDisconnectionCallback_eq_ok w.dbusObjectPathCtdDevice

/-- What the handlers can do: NewConnection installs the descriptor it received,
the two others close the one that is held. None of them replies. -/
theorem Callback.handle_cases {callback : Callback} {handled : Handled}
    (h : callback.handle w = .ok handled) :
    handled.returned = true ∧ handled.replies = [] ∧
    ((∃ device answer fd calls, callback = .newConnection device answer ∧ answer.fd = some fd ∧
        w.pSocket.isSome = true ∧ handled.world = w.installed device fd calls) ∨
      ((∀ device answer, callback ≠ .newConnection device answer) ∧
        ∃ socket, w.pSocket = some socket ∧ handled.world = w.cleared socket)) := by
  cases callback with
  | newConnection device answer =>
      obtain ⟨fd, calls, hfd, _, socket, _, rfl⟩ := handleNewConnectionCallback_eq_ok.mp h
      exact ⟨rfl, rfl, Or.inl ⟨device, answer, fd, calls, rfl, hfd, socket, rfl⟩⟩
  | requestDisconnection device =>
      obtain ⟨socket, hsocket, rfl⟩ := (requestDisconnectionCallback_eq_ok device).mp h
      exact ⟨rfl, rfl, Or.inr ⟨by simp, socket, hsocket, rfl⟩⟩
  | release =>
      obtain ⟨socket, hsocket, rfl⟩ := handleReleaseCallback_eq_ok.mp h
      exact ⟨rfl, rfl, Or.inr ⟨by simp, socket, hsocket, rfl⟩⟩

/-- Every handler returns TRUE, so the skeleton adds nothing to what it did. -/
theorem skeletonHandleMethodCall_eq (callback : Callback) (w : World) :
    skeletonHandleMethodCall callback w = callback.handle w := by
  unfold skeletonHandleMethodCall
  cases h : callback.handle w with
  | error abort => rfl
  | ok handled =>
      have returned := (Callback.handle_cases h).1
      simp [bind, Except.bind, returned, pure, Except.pure]

end Specifications

end BluezTutorial
