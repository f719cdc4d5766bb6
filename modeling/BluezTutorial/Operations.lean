import BluezTutorial.LabelledRun
import BluezTutorial.Listener

/-! Runs of a Listener as sequences of atomic operations: the public calls
`startListening` with a Socket(-1), `stopListening` and `disconnect`, and the
Profile1 calls that GDBus hands to a handler. GDBus answers a call to an object
that is not exported by itself, so such a call leaves the Listener as it is.
`g_unix_fd_list_get` gives the received descriptor a number that is not open;
which one is the kernel's choice, and a number closed before may come again.

`Change` says once what an operation can do to the descriptors. The invariants of
Ownership.lean are proved about its four cases and not about the operations. -/

namespace BluezTutorial

inductive Op where
  | start (answer : RegisterAnswer)
  | stop (answer : UnregisterAnswer)
  | disconnect (strayError proxy : Bool)
  | dispatch (callback : Callback)

/-- The number that `g_unix_fd_list_get` returns is a free one. -/
def Callback.fresh (w : World) : Callback → Bool
  | .newConnection _ answer =>
      answer.fd.all fun fd => 0 ≤ fd && (w.descriptors.target fd).isNone
  | _ => true

def Op.perform : Op → World → Except Abort World
  | .start answer, w => startListening answer (Socket.ofFd (-1)) w
  | .stop answer, w => stopListening answer w
  | .disconnect strayError proxy, w => BluezTutorial.disconnect strayError proxy w
  | .dispatch callback, w =>
      if w.exported then (skeletonHandleMethodCall callback w).map (·.world) else .ok w

def Op.fresh (w : World) : Op → Bool
  | .dispatch callback => callback.fresh w
  | _ => true

/-- One operation, no assertion failing. -/
def Op.step (w : World) (op : Op) : Option World :=
  if op.fresh w then (op.perform w).toOption else none

/-- The members agree about whether a session is going on. -/
structure Coherent (w : World) : Prop where
  bus : w.pSystemBusConnection = true
  exported : w.exported = w.pBluezProfileInterface
  thread : w.listenThread = w.pBluezProfileInterface
  socket : w.pBluezProfileInterface = true → w.pSocket.isSome = true

/-- The part of the world that the ownership of descriptors is about. -/
structure Holding where
  pSocket : Option Socket
  device : ObjectPath
  descriptors : HandleTable Owner
  deliveries : List Delivery

def World.holding (w : World) : Holding :=
  ⟨w.pSocket, w.dbusObjectPathCtdDevice, w.descriptors, w.deliveries⟩

namespace Holding

def cleared (h : Holding) (socket : Socket) : Holding :=
  { h with
    pSocket := some (socket.closeConnection h.descriptors).1
    descriptors := (socket.closeConnection h.descriptors).2 }

def installed (h : Holding) (device : ObjectPath) (fd : ℤ) : Holding where
  pSocket := some (Socket.ofFd fd)
  device := device
  descriptors := h.descriptors.grant fd (.delivered h.deliveries.length)
  deliveries := h.deliveries ++ [⟨device, fd⟩]

def restarted (h : Holding) : Holding :=
  { h with pSocket := some (Socket.ofFd (-1)) }

/-- What an operation can do, with the registration before and after it. -/
inductive Change (h : Holding) : Bool → Holding → Bool → Prop
  | kept (registered : Bool) : Change h registered h registered
  | cleared {registered still : Bool} (socket : Socket) (held : h.pSocket = some socket)
      (stops : still = true → registered = true) :
      Change h registered (h.cleared socket) still
  | installed (device : ObjectPath) (fd : ℤ) (nonneg : 0 ≤ fd)
      (free : h.descriptors.target fd = none) :
      Change h true (h.installed device fd) true
  | restarted : Change h false h.restarted true

end Holding

section Steps

variable {w w' : World} {op : Op}

theorem installed_holding (device : ObjectPath) (fd : ℤ) (calls : List BusCall) :
    (w.installed device fd calls).holding = w.holding.installed device fd := rfl

theorem Op.step_eq_some : op.step w = some w' ↔ op.fresh w = true ∧ op.perform w = .ok w' := by
  unfold Op.step
  split
  · next fresh =>
      cases h : op.perform w <;> simp [Except.toOption, fresh]
  · next stale => simp [stale]

theorem perform_dispatch (callback : Callback) (exported : w.exported = true) :
    (Op.dispatch callback).perform w = (callback.handle w).map (·.world) := by
  simp only [Op.perform, exported, if_true, skeletonHandleMethodCall_eq]

theorem perform_dispatch_eq_ok {callback : Callback} (exported : w.exported = true) :
    (Op.dispatch callback).perform w = .ok w' ↔
    ∃ handled, callback.handle w = .ok handled ∧ w' = handled.world := by
  rw [perform_dispatch callback exported]
  cases callback.handle w <;> simp [Except.map, eq_comm]

theorem disconnect_eq_ok {strayError proxy : Bool} :
    disconnect strayError proxy w = .ok w' ↔
    w.pSystemBusConnection = true ∧ strayError = false ∧ ∃ socket, w.pSocket = some socket ∧
      w' = World.cleared { w with bus := w.bus ++
        if proxy then [.disconnect w.dbusObjectPathCtdDevice] else [] } socket := by
  rw [disconnect, check_bind_eq_ok, bind_eq_ok]
  simp only [disconnectSocket_eq_ok, check_bind_eq_ok, pure_eq_ok]
  cases strayError with
  | true => simp
  | false => simp

/-- A NewConnection that reaches its handler installs the descriptor it brings. -/
theorem Op.step_newConnection {device : ObjectPath} {answer : NewConnectionAnswer}
    (exported : w.exported = true)
    (h : (Op.dispatch (.newConnection device answer)).step w = some w') :
    ∃ fd calls, answer.fd = some fd ∧ 0 ≤ fd ∧ w.descriptors.target fd = none ∧
      w' = w.installed device fd calls := by
  obtain ⟨fresh, h⟩ := Op.step_eq_some.mp h
  obtain ⟨handled, hhandled, rfl⟩ := (perform_dispatch_eq_ok exported).mp h
  obtain ⟨fd, calls, hfd, _, _, _, rfl⟩ := handleNewConnectionCallback_eq_ok.mp hhandled
  have free : 0 ≤ fd ∧ w.descriptors.target fd = none := by
    simpa [Op.fresh, Callback.fresh, hfd] using fresh
  exact ⟨fd, calls, hfd, free.1, free.2, rfl⟩

/-- The two other Profile1 calls close what is held. -/
theorem Op.step_disconnection {callback : Callback} (exported : w.exported = true)
    (other : ∀ device answer, callback ≠ .newConnection device answer)
    (h : (Op.dispatch callback).step w = some w') :
    ∃ socket, w.pSocket = some socket ∧ w' = w.cleared socket := by
  obtain ⟨handled, hhandled, rfl⟩ := (perform_dispatch_eq_ok exported).mp (Op.step_eq_some.mp h).2
  obtain ⟨_, _, ⟨device, answer, _, _, rfl, _⟩ | ⟨_, socket, held, hworld⟩⟩ :=
    Callback.handle_cases hhandled
  · exact absurd rfl (other device answer)
  · exact ⟨socket, held, hworld⟩

theorem Op.step_unexported {callback : Callback} (unexported : w.exported = false)
    (h : (Op.dispatch callback).step w = some w') : w' = w := by
  have same := (Op.step_eq_some.mp h).2
  simp only [Op.perform, unexported, Bool.false_eq_true, if_false, Except.ok.injEq] at same
  exact same.symm

/-- All that a Profile1 call can do. -/
theorem Op.step_dispatch {callback : Callback} (h : (Op.dispatch callback).step w = some w') :
    (w.exported = false ∧ w' = w) ∨
    (w.exported = true ∧ ∃ device answer fd calls, callback = .newConnection device answer ∧
      0 ≤ fd ∧ w.descriptors.target fd = none ∧ w' = w.installed device fd calls) ∨
    (w.exported = true ∧ (∀ device answer, callback ≠ .newConnection device answer) ∧
      ∃ socket, w.pSocket = some socket ∧ w' = w.cleared socket) := by
  cases exported : w.exported with
  | false => exact .inl ⟨rfl, Op.step_unexported exported h⟩
  | true =>
      by_cases new : ∃ device answer, callback = .newConnection device answer
      · obtain ⟨device, answer, rfl⟩ := new
        obtain ⟨fd, calls, _, installed⟩ := Op.step_newConnection exported h
        exact .inr (.inl ⟨rfl, device, answer, fd, calls, rfl, installed⟩)
      · simp only [not_exists] at new
        exact .inr (.inr ⟨rfl, new, Op.step_disconnection exported new h⟩)

/-- The members stay coherent, and the descriptors change in one of four ways. -/
theorem Op.step_change (coherent : Coherent w) (h : op.step w = some w') :
    Coherent w' ∧
    Holding.Change w.holding w.pBluezProfileInterface w'.holding w'.pBluezProfileInterface := by
  cases op with
  | start answer =>
      obtain ⟨bus, unregistered, _, thread, rfl⟩ :=
        startListening_eq_ok.mp (Op.step_eq_some.mp h).2
      refine ⟨⟨bus, rfl, rfl, fun _ => rfl⟩, ?_⟩
      rw [unregistered]
      exact .restarted
  | stop answer =>
      obtain ⟨bus, _, _, socket, held, rfl⟩ := stopListening_eq_ok.mp (Op.step_eq_some.mp h).2
      refine ⟨⟨bus, rfl, rfl, fun _ => rfl⟩, .cleared socket held ?_⟩
      simp [World.cleared, World.unregistered]
  | disconnect strayError proxy =>
      obtain ⟨bus, _, socket, held, rfl⟩ := disconnect_eq_ok.mp (Op.step_eq_some.mp h).2
      exact ⟨⟨bus, coherent.exported, coherent.thread, fun _ => rfl⟩, .cleared socket held id⟩
  | dispatch callback =>
      obtain ⟨_, rfl⟩ | ⟨exported, device, answer, fd, calls, _, nonneg, free, rfl⟩ |
        ⟨_, _, socket, held, rfl⟩ := Op.step_dispatch h
      · exact ⟨coherent, .kept _⟩
      · refine ⟨⟨coherent.bus, coherent.exported, coherent.thread, fun _ => rfl⟩, ?_⟩
        have registered : w.pBluezProfileInterface = true := coherent.exported ▸ exported
        change Holding.Change w.holding w.pBluezProfileInterface
          (w.holding.installed device fd) w.pBluezProfileInterface
        rw [registered]
        exact .installed device fd nonneg free
      · exact ⟨⟨coherent.bus, coherent.exported, coherent.thread, fun _ => rfl⟩,
          .cleared socket held id⟩

/-- Only a NewConnection that reaches its handler brings a descriptor. -/
theorem Op.step_deliveries (h : op.step w = some w') (more : w'.deliveries ≠ w.deliveries) :
    w.exported = true ∧ ∃ device answer, op = .dispatch (.newConnection device answer) := by
  cases op with
  | start answer =>
      obtain ⟨_, _, _, _, rfl⟩ := startListening_eq_ok.mp (Op.step_eq_some.mp h).2
      exact absurd rfl more
  | stop answer =>
      obtain ⟨_, _, _, _, _, rfl⟩ := stopListening_eq_ok.mp (Op.step_eq_some.mp h).2
      exact absurd rfl more
  | disconnect strayError proxy =>
      obtain ⟨_, _, _, _, rfl⟩ := disconnect_eq_ok.mp (Op.step_eq_some.mp h).2
      exact absurd rfl more
  | dispatch callback =>
      obtain ⟨_, rfl⟩ | ⟨exported, device, answer, _, _, rfl, _⟩ | ⟨_, _, socket, _, rfl⟩ :=
        Op.step_dispatch h
      · exact absurd rfl more
      · exact ⟨exported, device, answer, rfl⟩
      · exact absurd rfl more

theorem construct_eq_ok {busGet : Bool} {openNumbers : ℤ → Bool} :
    construct busGet openNumbers = .ok w ↔ busGet = true ∧ w = World.constructed openNumbers := by
  rw [construct, check_bind_eq_ok, pure_eq_ok]

theorem coherent_constructed (openNumbers : ℤ → Bool) :
    Coherent (World.constructed openNumbers) :=
  ⟨rfl, rfl, rfl, by simp [World.constructed]⟩

/-- The answers under which NewConnection goes through, with no other device known. -/
def NewConnectionAnswer.good (fd : ℤ) : NewConnectionAnswer where
  fd := some fd
  removal := ⟨true, true, some [[]], fun _ => true⟩
  setup := ⟨0, 0⟩

end Steps

/-- A Listener just started, in a process that has only its standard streams open. -/
def World.listening : World :=
  { (World.constructed fun n => n < 3).registered with
    pSocket := some (Socket.ofFd (-1)), heartbeat := true, listenThread := true }

end BluezTutorial
