import BluezTutorial.Ownership
import BluezTutorial.RemoteCall

/-! bluetoothd and the Listener as two parties that exchange Profile1 calls.
The daemon's side is `ext->conns` of bluez-5.49/src/profile.c: `send_new_connection`
and `send_disconn_req` leave a call pending on a connection, `new_conn_reply` marks
the connection as connected or drops it, `disconn_reply` drops it. The daemon sends
RequestDisconnection only for a connected device with no call pending; here it may
send one at any time, so these runs contain all of the daemon's.

The Listener's handlers return TRUE and never complete their invocation, so no
reply is ever sent: every call ends in a timeout and the daemon never regards a
device as connected. -/

namespace BluezTutorial.ConnectionAgreement
open LabelledRun Ownership

/-- `struct ext_io`, with the serials of the calls pending on it. -/
structure ExtIo where
  device : ObjectPath
  connected : Bool
  pending : List ℕ
deriving DecidableEq, Repr

inductive Profile1Call where
  | newConnection (device : ObjectPath)
  | requestDisconnection (device : ObjectPath)
deriving DecidableEq, Repr

/-- Leave the call pending on the connection that `find_connection` finds. -/
def sendDisconnReq (serial : ℕ) (device : ObjectPath) : List ExtIo → List ExtIo
  | [] => []
  | conn :: conns =>
      if conn.device = device then { conn with pending := serial :: conn.pending } :: conns
      else conn :: sendDisconnReq serial device conns

def issue (conns : List ExtIo) (serial : ℕ) : Profile1Call → List ExtIo
  | .newConnection device => conns ++ [⟨device, false, [serial]⟩]
  | .requestDisconnection device => sendDisconnReq serial device conns

def newConnReply (conns : List ExtIo) (serial : ℕ) : Option Reply → List ExtIo
  | some .value => conns.map fun conn =>
      if serial ∈ conn.pending then
        { conn with connected := true, pending := conn.pending.erase serial }
      else conn
  | _ => conns.filter fun conn => serial ∉ conn.pending

def disconnReply (conns : List ExtIo) (serial : ℕ) : List ExtIo :=
  conns.filter fun conn => serial ∉ conn.pending

def resolve (conns : List ExtIo) (serial : ℕ) : Profile1Call → Option Reply → List ExtIo
  | .newConnection _, reply => newConnReply conns serial reply
  | .requestDisconnection _, _ => disconnReply conns serial

/-- The call as GDBus hands it over, with the answers its handler gets. -/
def Profile1Call.callback (answer : NewConnectionAnswer) : Profile1Call → Callback
  | .newConnection device => .newConnection device answer
  | .requestDisconnection device => .requestDisconnection device

def serve (w : World) (answer : NewConnectionAnswer) (call : Profile1Call) :
    Option (World × List Reply) :=
  if w.exported && (call.callback answer).fresh w then
    (skeletonHandleMethodCall (call.callback answer) w).toOption.map fun handled =>
      (handled.world, handled.replies)
  else none

def parties : RemoteCall.Parties (List ExtIo) World Profile1Call Reply NewConnectionAnswer where
  issue := issue
  resolve := resolve
  serve := serve

/-- The daemon regards the device as connected through the profile. -/
def RegardsConnected (conns : List ExtIo) (device : ObjectPath) : Prop :=
  ∃ conn ∈ conns, conn.device = device ∧ conn.connected = true

/-- The Socket holds an open descriptor that was delivered for the device. -/
def HoldsFor (w : World) (device : ObjectPath) : Prop :=
  ∃ i delivery, Holds w.holding i delivery ∧ delivery.device = device

abbrev State := RemoteCall.State (List ExtIo) World Profile1Call Reply

/-- The two sides agree about every device. -/
def Agreement (s : State) : Prop :=
  ∀ device, RegardsConnected s.caller device ↔ HoldsFor s.callee device

section Listener

variable {w w' : World} {answer : NewConnectionAnswer} {call : Profile1Call}
  {replies : List Reply}

theorem serve_eq_some (h : serve w answer call = some (w', replies)) :
    w.exported = true ∧ replies = [] ∧
    (Op.dispatch (call.callback answer)).step w = some w' := by
  unfold serve at h
  split at h
  · next ready =>
      rw [Bool.and_eq_true] at ready
      rw [skeletonHandleMethodCall_eq] at h
      cases handled : (call.callback answer).handle w with
      | error abort => simp [handled, Except.toOption] at h
      | ok result =>
          simp only [handled, Except.toOption, Option.map_some, Option.some.injEq,
            Prod.mk.injEq] at h
          obtain ⟨rfl, rfl⟩ := h
          refine ⟨ready.1, (Callback.handle_cases handled).2.1, Op.step_eq_some.mpr ⟨ready.2, ?_⟩⟩
          rw [perform_dispatch _ ready.1, handled]
          rfl
  · cases h

theorem parties_silent : RemoteCall.Silent parties :=
  fun _ _ _ _ _ h => (serve_eq_some h).2.1

theorem holdsFor_installed {device other : ObjectPath} {fd : ℤ} {calls : List BusCall}
    (owned : Owned w.holding) (nonneg : 0 ≤ fd) (free : w.descriptors.target fd = none) :
    HoldsFor (w.installed device fd calls) other ↔ other = device := by
  have after : Owned (w.holding.installed device fd) := owned_installed owned nonneg free
  unfold HoldsFor
  rw [installed_holding]
  constructor
  · rintro ⟨i, delivery, holds, rfl⟩
    exact after.device_of_holds holds
  · rintro rfl
    exact ⟨_, _, holds_installed nonneg, rfl⟩

theorem not_holdsFor_cleared {socket : Socket} {device : ObjectPath} :
    ¬ HoldsFor (w.cleared socket) device := by
  rintro ⟨i, delivery, ⟨cleared, hcleared, taken, _⟩, _⟩
  exact taken (idle_cleared w.holding socket cleared hcleared)

/-- The Listener holds a descriptor for a device exactly when the last call it
served is a NewConnection for that device. -/
structure Tracks (w : World) (served : List Profile1Call) : Prop where
  coherent : Coherent w
  started : w.pBluezProfileInterface = true
  owned : Owned w.holding
  last : ∀ device, HoldsFor w device ↔ served.getLast? = some (.newConnection device)

theorem tracks_serve {served : List Profile1Call} (tracks : Tracks w served)
    (h : serve w answer call = some (w', replies)) : Tracks w' (served ++ [call]) := by
  obtain ⟨exported, _, hstep⟩ := serve_eq_some h
  obtain ⟨coherent, owned⟩ := step_owned ⟨tracks.coherent, tracks.owned⟩ hstep
  cases call with
  | newConnection device =>
      obtain ⟨fd, calls, _, nonneg, free, rfl⟩ := Op.step_newConnection exported hstep
      refine ⟨coherent, tracks.started, owned, fun other => ?_⟩
      rw [holdsFor_installed tracks.owned nonneg free]
      simp [eq_comm]
  | requestDisconnection device =>
      obtain ⟨socket, _, rfl⟩ := Op.step_disconnection exported
        (by simp [Profile1Call.callback]) hstep
      refine ⟨coherent, tracks.started, owned, fun other => ?_⟩
      simp [not_holdsFor_cleared]

end Listener

section Daemon

/-- No connection of the daemon is marked as connected. -/
def NoneConnected (conns : List ExtIo) : Prop :=
  ∀ conn ∈ conns, conn.connected = false

theorem noneConnected_sendDisconnReq {serial : ℕ} {device : ObjectPath} {conns : List ExtIo}
    (h : NoneConnected conns) : NoneConnected (sendDisconnReq serial device conns) := by
  induction conns with
  | nil => exact h
  | cons conn conns ih =>
      have head := h conn List.mem_cons_self
      have tail : NoneConnected conns := fun other mem => h other (List.mem_cons_of_mem _ mem)
      unfold sendDisconnReq
      intro other mem
      split at mem
      · rcases List.mem_cons.mp mem with rfl | mem
        · exact head
        · exact tail other mem
      · rcases List.mem_cons.mp mem with rfl | mem
        · exact head
        · exact ih tail other mem

theorem noneConnected_issue {serial : ℕ} {conns : List ExtIo} (call : Profile1Call)
    (h : NoneConnected conns) : NoneConnected (issue conns serial call) := by
  cases call with
  | newConnection device =>
      intro conn mem
      rcases List.mem_append.mp mem with old | new
      · exact h conn old
      · rw [List.mem_singleton.mp new]
  | requestDisconnection device => exact noneConnected_sendDisconnReq h

theorem noneConnected_timeOut {serial : ℕ} {conns : List ExtIo} (call : Profile1Call)
    (h : NoneConnected conns) : NoneConnected (resolve conns serial call none) := by
  cases call <;> exact fun conn mem => h conn (List.mem_of_mem_filter mem)

end Daemon

section Runs

variable {openNumbers : ℤ → Bool} {w₀ : World} {s : State}
  {labels : List (RemoteCall.Label Profile1Call NewConnectionAnswer)}

theorem tracks_start (start : startListening ⟨true, true, true⟩ (Socket.ofFd (-1))
    (World.constructed openNumbers) = .ok w₀) : Tracks w₀ [] := by
  obtain ⟨bus, _, _, _, rfl⟩ := startListening_eq_ok.mp start
  refine ⟨⟨bus, rfl, rfl, fun _ => rfl⟩, rfl, owned_restarted (owned_constructed openNumbers),
    fun device => ?_⟩
  simp only [List.getLast?_nil, reduceCtorEq, iff_false]
  rintro ⟨i, delivery, ⟨socket, hsocket, taken, _⟩, _⟩
  obtain rfl : Socket.ofFd (-1) = socket := by simpa [World.holding] using hsocket
  exact taken rfl

/-- In every reachable state, calls outstanding or not, the two sides agree exactly
when the last call dispatched to a handler, if any, is not a NewConnection. -/
theorem agreement_iff_last_served
    (start : startListening ⟨true, true, true⟩ (Socket.ofFd (-1)) (World.constructed openNumbers) =
      .ok w₀)
    (hrun : run (RemoteCall.step parties) (RemoteCall.State.start [] w₀) labels = some s) :
    Agreement s ↔ ∀ device, s.served.getLast? ≠ some (.newConnection device) := by
  have none : NoneConnected s.caller :=
    RemoteCall.caller_invariant_of_silent parties_silent
      (fun _ _ call h => noneConnected_issue call h)
      (fun _ _ call h => noneConnected_timeOut call h)
      (by simp [RemoteCall.State.start, NoneConnected]) rfl hrun
  have unconnected : ∀ device, ¬ RegardsConnected s.caller device := by
    rintro device ⟨conn, mem, _, connected⟩
    simp [none conn mem] at connected
  have tracks : Tracks s.callee s.served :=
    RemoteCall.callee_invariant (fun _ _ _ _ _ _ tracks h => tracks_serve tracks h)
      (tracks_start start) hrun
  refine forall_congr' fun device => ?_
  rw [tracks.last device]
  simp [unconnected device]

theorem agreement_iff_last_served_disconnected : ∃ s,
    run (RemoteCall.step parties) (RemoteCall.State.start [] World.listening)
      [.issue (.newConnection "/org/bluez/hci0/dev_A"), .dispatch 0 (.good 5), .timeOut 0,
        .issue (.requestDisconnection "/org/bluez/hci0/dev_A"), .dispatch 0 (.good 5),
        .timeOut 0] = some s ∧ s.outstanding = [] ∧ Agreement s := by
  have runs : (run (RemoteCall.step parties) (RemoteCall.State.start [] World.listening)
      [.issue (.newConnection "/org/bluez/hci0/dev_A"), .dispatch 0 (.good 5), .timeOut 0,
        .issue (.requestDisconnection "/org/bluez/hci0/dev_A"), .dispatch 0 (.good 5),
        .timeOut 0]).map (fun s => (s.outstanding, s.served.getLast?)) =
      some ([], some (.requestDisconnection "/org/bluez/hci0/dev_A")) := by decide
  obtain ⟨s, hs, after⟩ := Option.map_eq_some_iff.mp runs
  rw [Prod.mk.injEq] at after
  exact ⟨s, hs, after.1, (agreement_iff_last_served rfl hs).mpr (by simp [after.2])⟩

/-- NewConnection is issued, handled and times out: the daemon has dropped the
connection and the Listener holds its descriptor. -/
theorem newConnection_times_out : ∃ s,
    run (RemoteCall.step parties) (RemoteCall.State.start [] World.listening)
      [.issue (.newConnection "/org/bluez/hci0/dev_A"), .dispatch 0 (.good 5), .timeOut 0] =
      some s ∧ s.outstanding = [] ∧ ¬ RegardsConnected s.caller "/org/bluez/hci0/dev_A" ∧
    HoldsFor s.callee "/org/bluez/hci0/dev_A" ∧ ¬ Agreement s := by
  have runs : (run (RemoteCall.step parties) (RemoteCall.State.start [] World.listening)
      [.issue (.newConnection "/org/bluez/hci0/dev_A"), .dispatch 0 (.good 5), .timeOut 0]).map
      (fun s => (s.outstanding, s.caller)) = some ([], []) := by decide
  have holding : (run (RemoteCall.step parties) (RemoteCall.State.start [] World.listening)
      [.issue (.newConnection "/org/bluez/hci0/dev_A"), .dispatch 0 (.good 5), .timeOut 0]).map
      (fun s => (s.callee.pSocket, s.callee.descriptors.target 5, s.callee.deliveries)) =
      some (some (Socket.ofFd 5), some (.delivered 0), [⟨"/org/bluez/hci0/dev_A", 5⟩]) := by
    decide
  obtain ⟨s, hs, after⟩ := Option.map_eq_some_iff.mp runs
  rw [hs] at holding
  simp only [Prod.mk.injEq, Option.map_some, Option.some.injEq] at after holding
  obtain ⟨outstanding, dropped⟩ := after
  obtain ⟨socket, target, deliveries⟩ := holding
  have unconnected : ¬ RegardsConnected s.caller "/org/bluez/hci0/dev_A" := by
    simp [RegardsConnected, dropped]
  have holds : HoldsFor s.callee "/org/bluez/hci0/dev_A" :=
    ⟨0, ⟨"/org/bluez/hci0/dev_A", 5⟩,
      ⟨Socket.ofFd 5, socket, by decide, target, by simp [World.holding, deliveries]⟩, rfl⟩
  exact ⟨s, hs, outstanding, unconnected, holds,
    fun agreement => unconnected ((agreement _).mpr holds)⟩

end Runs

end BluezTutorial.ConnectionAgreement
