import BluezTutorial.Listener

/-! The Listener statement by statement: the owner thread inside `startListening`
and `stopListening`, the listening thread inside the loop of `listenTask` and in
the handlers it dispatches, and the queue of Profile1 calls in between. Run without
interruption the statements of a function are the function of Listener.lean.

Handlers run only inside `g_main_context_iteration`. One iteration may dispatch
several of the queued calls, so behind a handler the thread is again where it
chooses between another call and the end of the iteration. -/

namespace BluezTutorial.Session

/-- The statements that the bodies in Listener.cpp are made of. -/
inductive Stmt where
  | assertBus (abort : Abort)
  | assertInterface (present : Bool) (abort : Abort)
  | assertSocket (abort : Abort)
  | assertNoError (ok : Bool) (abort : Abort)
  | skeletonNew
  | skeletonExport (ok : Bool)
  | skeletonUnexport
  | clearInterface
  | send (call : BusCall)
  | setSocket (socket : Socket)
  | setHeartbeat (value : Bool)
  | spawn
  | join
  | receive (device : ObjectPath) (fd : ℤ)
  | removeAllDevicesExcept (device : ObjectPath) (answer : RemovalAnswer)
  | setupSocket (answer : SetupAnswer)
  | copySocket (fd : ℤ)
  | setDevice (device : ObjectPath)
  | closeConnection

def Stmt.exec : Stmt → World → Except Abort World
  | .assertBus abort, w => do
      check w.pSystemBusConnection abort
      pure w
  | .assertInterface present abort, w => do
      check (w.pBluezProfileInterface == present) abort
      pure w
  | .assertSocket abort, w => do
      check w.pSocket.isSome abort
      pure w
  | .assertNoError ok abort, w => do
      check ok abort
      pure w
  | .skeletonNew, w => pure { w with pBluezProfileInterface := true }
  | .skeletonExport ok, w => pure { w with exported := ok }
  | .skeletonUnexport, w => pure { w with exported := false }
  | .clearInterface, w => pure { w with pBluezProfileInterface := false }
  | .send call, w => pure { w with bus := w.bus ++ [call] }
  | .setSocket socket, w => pure { w with pSocket := some socket }
  | .setHeartbeat value, w => pure { w with heartbeat := value }
  | .spawn, w => do
      check (!w.listenThread) .threadAssign
      pure { w with listenThread := true }
  | .join, w => pure { w with listenThread := false }
  | .receive device fd, w => pure (w.receive device fd)
  | .removeAllDevicesExcept device answer, w => do
      let calls ← BluezTutorial.removeAllDevicesExcept w.pSystemBusConnection device answer
      pure { w with bus := w.bus ++ calls }
  | .setupSocket answer, w => do
      Socket.setupSocket answer
      pure w
  | .copySocket fd, w => pure { w with pSocket := w.pSocket.map fun _ => Socket.ofFd fd }
  | .setDevice device, w => pure { w with dbusObjectPathCtdDevice := device }
  | .closeConnection, w => pure (w.pSocket.elim w w.cleared)

/-- The statements one after the other, with nothing in between. -/
def execAll (code : List Stmt) (w : World) : Except Abort World :=
  code.foldlM (fun w stmt => stmt.exec w) w

def disconnectSocketCode : List Stmt := [.assertSocket .disconnectSocket, .closeConnection]

def registerProfileCode (answer : RegisterAnswer) : List Stmt :=
  [.assertBus .registerBus, .assertInterface false .registerInterface,
    .assertNoError answer.proxy .registerProxy, .skeletonNew, .skeletonExport answer.exported,
    .assertNoError answer.exported .registerExport,
    .send (.registerProfile dbusObjectPath profileUUID ⟨profileName, rfcommPort, false, true⟩),
    .assertNoError answer.call .registerCall]

def unregisterProfileCode (answer : UnregisterAnswer) : List Stmt :=
  [.assertBus .unregisterBus, .assertInterface true .unregisterInterface,
    .assertNoError answer.proxy .unregisterProxy, .send (.unregisterProfile dbusObjectPath),
    .assertNoError answer.call .unregisterCall, .skeletonUnexport, .clearInterface] ++
  disconnectSocketCode

def startListeningCode (answer : RegisterAnswer) (pSocket : Socket) : List Stmt :=
  registerProfileCode answer ++ [.setSocket pSocket, .setHeartbeat true, .spawn]

def stopListeningCode (answer : UnregisterAnswer) : List Stmt :=
  [.setHeartbeat false, .join] ++ unregisterProfileCode answer

def callbackCode : Callback → List Stmt
  | .newConnection device answer =>
      match answer.fd with
      | none => [.assertNoError false .fdList]
      | some fd =>
          [.receive device fd, .removeAllDevicesExcept device answer.removal,
            .assertSocket .createSocket, .setupSocket answer.setup, .copySocket fd,
            .setDevice device]
  | .requestDisconnection _ => disconnectSocketCode
  | .release => disconnectSocketCode

section Uninterrupted

variable {w w' : World}

@[simp] theorem execAll_nil : execAll [] w = .ok w := rfl

@[simp] theorem execAll_cons (stmt : Stmt) (code : List Stmt) :
    execAll (stmt :: code) w = stmt.exec w >>= execAll code := rfl

theorem execAll_append (front back : List Stmt) :
    execAll (front ++ back) w = execAll front w >>= execAll back := by
  simp only [execAll, List.foldlM_append]
  rfl

theorem execAll_disconnectSocketCode : execAll disconnectSocketCode w = disconnectSocket w := by
  unfold disconnectSocket
  cases held : w.pSocket with
  | none => simp [disconnectSocketCode, Stmt.exec, held, bind, Except.bind]
  | some socket =>
      simp [disconnectSocketCode, Stmt.exec, held, bind, Except.bind, pure, Except.pure]

theorem execAll_registerProfileCode (answer : RegisterAnswer) :
    execAll (registerProfileCode answer) w = registerProfile answer w := by
  obtain ⟨proxy, exported, call⟩ := answer
  simp only [registerProfileCode, registerProfile, execAll_cons, Stmt.exec, bind_assoc, pure_bind,
    beq_false]
  cases exported with
  | true => rfl
  | false => rfl

theorem execAll_unregisterProfileCode (answer : UnregisterAnswer) :
    execAll (unregisterProfileCode answer) w = unregisterProfile answer w := by
  simp only [unregisterProfileCode, unregisterProfile, execAll_append, execAll_cons, execAll_nil,
    Stmt.exec, bind_assoc, pure_bind, beq_true, ← execAll_disconnectSocketCode]
  rfl

theorem execAll_startListeningCode (answer : RegisterAnswer) (socket : Socket) :
    execAll (startListeningCode answer socket) w = startListening answer socket w := by
  rw [startListeningCode, startListening, execAll_append, execAll_registerProfileCode]
  refine bind_congr fun registered => ?_
  simp only [execAll_cons, Stmt.exec, bind_assoc, pure_bind]
  rfl

theorem execAll_stopListeningCode (answer : UnregisterAnswer) :
    execAll (stopListeningCode answer) w = stopListening answer w := by
  rw [stopListening_eq, ← execAll_unregisterProfileCode]
  rfl

theorem execAll_callbackCode (callback : Callback) :
    execAll (callbackCode callback) w = (callback.handle w).map (·.world) := by
  have closing : execAll disconnectSocketCode w =
      (requestDisconnectionCallback "" w).map (·.world) := by
    rw [execAll_disconnectSocketCode, requestDisconnectionCallback]
    cases disconnectSocket w <;> rfl
  cases callback with
  | requestDisconnection device => exact closing
  | release => exact closing
  | newConnection device answer =>
      rw [callbackCode, Callback.handle, handleNewConnectionCallback]
      cases answer.fd with
      | none => rfl
      | some fd =>
          simp only [execAll_cons, Stmt.exec, bind_assoc, pure_bind, createNewSocketConnection]
          cases removeAllDevicesExcept (w.receive device fd).pSystemBusConnection device
            answer.removal with
          | error abort => rfl
          | ok calls =>
              cases (w.receive device fd).pSocket with
              | none => rfl
              | some socket => cases Socket.setupSocket answer.setup <;> rfl

end Uninterrupted

/-- Where the listening thread is. `absent` is before it was spawned and after
`listenTask` returned; a handler is the statements it still has to execute. -/
inductive Pc where
  | absent
  | test
  | iterate
  | handler (code : List Stmt)
  | sleep

/-- `owner` is what the owner thread still has to execute of the public call it is in,
`inSession` whether its latest call is `startListening`, and `sent` whether a
RegisterProfile was ever sent. -/
structure State where
  world : World
  owner : List Stmt
  inSession : Bool
  sent : Bool
  thread : Pc
  queue : List Callback
  aborted : Option Abort

inductive Label where
  | startListening (socket : Socket)
  | stopListening
  | owner
  | thread (dispatch : Bool)
  | enqueue (call : Callback)

def initial (openNumbers : ℤ → Bool) : State where
  world := World.constructed openNumbers
  owner := []
  inSession := false
  sent := false
  thread := .absent
  queue := []
  aborted := none

namespace State

/-- The owner calls into the Listener again; the two calls alternate. -/
def enter (s : State) (code : List Stmt) (inSession : Bool) : Option State :=
  if s.owner.isEmpty && s.inSession != inSession then
    some { s with owner := code, inSession := inSession }
  else none

/-- `join` waits for a joinable thread to return. -/
def blocked (s : State) : Stmt → Bool
  | .join => s.world.listenThread && !(s.thread matches .absent)
  | _ => false

/-- What a statement does beside its effect on the world. -/
def effect (s : State) : Stmt → State
  | .spawn => { s with thread := .test }
  | .skeletonUnexport => { s with queue := [] }
  | .send (.registerProfile _ _ _) => { s with sent := true }
  | _ => s

def ownerStep (s : State) : Option State :=
  match s.owner with
  | [] => none
  | stmt :: code =>
      if s.blocked stmt then none
      else match stmt.exec s.world with
        | .ok world => some { s.effect stmt with world := world, owner := code }
        | .error abort => some { s with aborted := some abort }

/-- One step of `listenTask`. In `g_main_context_iteration` the thread takes the next
call of the queue or ends the iteration. -/
def threadStep (s : State) (dispatch : Bool) : Option State :=
  match s.thread with
  | .absent => none
  | .test => some { s with thread := if s.world.heartbeat then .iterate else .absent }
  | .sleep => some { s with thread := .test }
  | .iterate =>
      if dispatch then
        match s.queue with
        | [] => none
        | call :: queue => some { s with
            queue := queue
            thread := if s.world.exported then .handler (callbackCode call) else .iterate }
      else some { s with thread := .sleep }
  | .handler [] => some { s with thread := .iterate }
  | .handler (stmt :: code) =>
      match stmt.exec s.world with
      | .ok world => some { s with world := world, thread := .handler code }
      | .error abort => some { s with aborted := some abort }

/-- The daemon may call from the first RegisterProfile on. A call to an object that is
not exported is answered at once. -/
def enqueue (s : State) (call : Callback) : Option State :=
  if s.sent then
    some { s with queue := if s.world.exported then s.queue ++ [call] else s.queue }
  else none

end State

def step (s : State) (label : Label) : Option State :=
  if s.aborted.isSome then none
  else match label with
    | .startListening socket => s.enter (startListeningCode ⟨true, true, true⟩ socket) true
    | .stopListening => s.enter (stopListeningCode ⟨true, true⟩) false
    | .owner => s.ownerStep
    | .thread dispatch => s.threadStep dispatch
    | .enqueue call => s.enqueue call

end BluezTutorial.Session
