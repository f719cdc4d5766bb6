import BluezTutorial.Ownership

/-! Whether `getConnectionState` tells the truth. The flag is a field of its own: the
constructor sets it by `_fd > 0`, `closeConnection` clears it and tests `_fd != -1`,
and the Listener copies both fields at once. The tests differ at one number, 0, which
the kernel hands out in a process that has closed its standard input. -/

namespace BluezTutorial.ReportedState
open LabelledRun Ownership

/-- The flag says connected exactly when the field `_fd` holds a number. -/
def FlagExact (h : Holding) : Prop :=
  ∀ socket, h.pSocket = some socket → (socket.getConnectionState = .connected ↔ socket.fd ≠ -1)

/-- What is reported is what is held: an open descriptor that NewConnection
delivered, or, which is the same, a number other than -1. -/
def StateExact (w : World) : Prop :=
  ∀ socket, w.pSocket = some socket →
    (socket.getConnectionState = .connected ↔ ∃ i delivery, Holds w.holding i delivery) ∧
    (socket.getConnectionState = .connected ↔ socket.fd ≠ -1)

/-- A NewConnection that is handled does not bring the number 0. -/
def BringsNonzero (w : World) : Op → Prop
  | .dispatch (.newConnection _ answer) => w.exported = true → answer.fd ≠ some 0
  | _ => True

instance (w : World) : (op : Op) → Decidable (BringsNonzero w op)
  | .dispatch (.newConnection _ answer) =>
      inferInstanceAs (Decidable (w.exported = true → answer.fd ≠ some 0))
  | .dispatch (.requestDisconnection _) | .dispatch .release => isTrue trivial
  | .start _ | .stop _ | .disconnect _ _ => isTrue trivial

section Changes

variable {h h' : Holding} {socket : Socket} {device : ObjectPath} {fd : ℤ}
  {registered registered' : Bool}

theorem getConnectionState_ofFd (fd : ℤ) :
    (Socket.ofFd fd).getConnectionState = .connected ↔ 0 < fd := by
  unfold Socket.getConnectionState Socket.ofFd
  by_cases positive : fd > 0
  · simp [positive]
  · simp [positive]

theorem flagExact_cleared (h : Holding) (socket : Socket) : FlagExact (h.cleared socket) := by
  intro socket' hsocket'
  obtain rfl : (socket.closeConnection h.descriptors).1 = socket' := by
    simpa [Holding.cleared] using hsocket'
  simp [Socket.getConnectionState]

/-- The constructor is right about every number the kernel may return but 0. -/
theorem flagExact_installed_iff (nonneg : 0 ≤ fd) :
    FlagExact (h.installed device fd) ↔ fd ≠ 0 := by
  have only : FlagExact (h.installed device fd) ↔
      ((Socket.ofFd fd).getConnectionState = .connected ↔ (Socket.ofFd fd).fd ≠ -1) := by
    simp [FlagExact, Holding.installed]
  have number : (Socket.ofFd fd).fd = fd := rfl
  rw [only, getConnectionState_ofFd, number]
  omega

theorem flagExact_restarted (h : Holding) : FlagExact h.restarted := by
  intro socket hsocket
  obtain rfl : Socket.ofFd (-1) = socket := by simpa [Holding.restarted] using hsocket
  rw [getConnectionState_ofFd]
  simp [Socket.ofFd]

theorem flagExact_change (flag : FlagExact h) (change : h.Change registered h' registered')
    (nonzero : ∀ device fd, h' = h.installed device fd → fd ≠ 0) : FlagExact h' := by
  cases change with
  | kept => exact flag
  | cleared socket _ _ => exact flagExact_cleared h socket
  | installed device fd nonneg _ =>
      exact (flagExact_installed_iff nonneg).mpr (nonzero device fd rfl)
  | restarted => exact flagExact_restarted h

/-- The descriptor is held when the field holds a number. -/
theorem exists_holds_iff (owned : Owned h) (hsocket : h.pSocket = some socket) :
    (∃ i delivery, Holds h i delivery) ↔ socket.fd ≠ -1 := by
  constructor
  · rintro ⟨i, delivery, socket', hsocket', taken, _⟩
    obtain rfl : socket' = socket := by simpa [hsocket'] using hsocket
    exact taken
  · intro taken
    obtain ⟨i, delivery, holds, _⟩ := owned.held socket hsocket taken
    exact ⟨i, delivery, holds⟩

end Changes

section Runs

variable {busGet : Bool} {openNumbers : ℤ → Bool} {w₀ w w' : World} {ops : List Op} {op : Op}

theorem stateExact_iff_flagExact (owned : Owned w.holding) :
    StateExact w ↔ FlagExact w.holding := by
  constructor
  · intro exact socket hsocket
    exact (exact socket hsocket).2
  · intro flag socket hsocket
    have agrees := flag socket hsocket
    exact ⟨agrees.trans (exists_holds_iff owned hsocket).symm, agrees⟩

/-- An operation that installs a number was a NewConnection bringing that number. -/
theorem fd_of_step_installed {device : ObjectPath} {fd : ℤ} (h : op.step w = some w')
    (installed : w'.holding = w.holding.installed device fd) :
    w.exported = true ∧ ∃ device' answer, op = .dispatch (.newConnection device' answer) ∧
      answer.fd = some fd := by
  have deliveries : w'.deliveries = w.deliveries ++ [⟨device, fd⟩] :=
    congrArg Holding.deliveries installed
  obtain ⟨exported, device', answer, rfl⟩ := Op.step_deliveries h (by simp [deliveries])
  obtain ⟨number, calls, brought, _, _, rfl⟩ := Op.step_newConnection exported h
  obtain ⟨_, rfl⟩ : device' = device ∧ number = fd := by
    simpa [World.installed, World.receive] using deliveries
  exact ⟨exported, device', answer, rfl, brought⟩

theorem step_flagExact (coherent : Coherent w) (flag : FlagExact w.holding)
    (nonzero : BringsNonzero w op) (h : op.step w = some w') : FlagExact w'.holding := by
  refine flagExact_change flag (Op.step_change coherent h).2 fun device fd installed => ?_
  obtain ⟨exported, device', answer, rfl, brought⟩ := fd_of_step_installed h installed
  have other : answer.fd ≠ some 0 := nonzero exported
  rintro rfl
  exact other brought

theorem bringsNonzero_of_step (h : op.step w = some w') (flag : FlagExact w'.holding) :
    BringsNonzero w op := by
  unfold BringsNonzero
  split
  · next device answer =>
      intro exported zero
      obtain ⟨fd, calls, brought, nonneg, _, rfl⟩ := Op.step_newConnection exported h
      obtain rfl : fd = 0 := by simpa [brought] using zero
      rw [installed_holding, flagExact_installed_iff nonneg] at flag
      exact flag rfl
  · trivial

/-- The reported state is exact in every state of a run exactly when no NewConnection
that the run handles brings the descriptor number 0. -/
theorem stateExact_iff (start : construct busGet openNumbers = .ok w₀)
    (hrun : run Op.step w₀ ops = some w) :
    Along Op.step StateExact w₀ ops ↔ Guarded Op.step BringsNonzero w₀ ops := by
  refine along_iff_guarded
    (I := fun w => (Coherent w ∧ Owned w.holding) ∧ FlagExact w.holding) ?_ ?_ ?_ ?_ hrun
  · rintro w op w' ⟨before, flag⟩ nonzero h
    exact ⟨step_owned before h, step_flagExact before.1 flag nonzero h⟩
  · rintro w ⟨before, flag⟩
    exact (stateExact_iff_flagExact before.2).mpr flag
  · rintro w op w' ⟨before, _⟩ h exact
    have owned := (step_owned before h).2
    exact bringsNonzero_of_step h ((stateExact_iff_flagExact owned).mp exact)
  · refine ⟨start_owned start, ?_⟩
    obtain ⟨_, rfl⟩ := construct_eq_ok.mp start
    simp [FlagExact, World.holding, World.constructed]

/-- Along this run every report is right. -/
theorem stateExact_iff_reconnectOnSameNumber : ∃ w,
    run Op.step (World.constructed fun n => n < 3) reconnectOnSameNumber = some w ∧
    Along Op.step StateExact (World.constructed fun n => n < 3) reconnectOnSameNumber := by
  have runs : (run Op.step (World.constructed fun n => n < 3) reconnectOnSameNumber).isSome := by
    decide
  have nonzero : Guarded Op.step BringsNonzero (World.constructed fun n => n < 3)
      reconnectOnSameNumber := by
    decide
  obtain ⟨w, hw⟩ := Option.isSome_iff_exists.mp runs
  have start : construct true (fun n => n < 3) = .ok (World.constructed fun n => n < 3) := rfl
  exact ⟨w, hw, (stateExact_iff start hw).mpr nonzero⟩

/-- A daemon without standard input is given the number 0 for its first connection. -/
def closedStandardInput : List Op :=
  [.start ⟨true, true, true⟩, .dispatch (.newConnection "/org/bluez/hci0/dev_A" (.good 0))]

/-- Descriptor 0 is open and held, and the Socket reports that it is not connected. -/
theorem closedStandardInput_reports_notConnected : ∃ w,
    run Op.step (World.constructed fun n => n = 1 ∨ n = 2) closedStandardInput = some w ∧
    w.descriptors.target 0 = some (.delivered 0) ∧
    w.pSocket.map Socket.getConnectionState = some .notConnected ∧ ¬ StateExact w := by
  have after : (run Op.step (World.constructed fun n => n = 1 ∨ n = 2) closedStandardInput).map
      (fun w => (w.descriptors.target 0, w.pSocket)) =
      some (some (.delivered 0), some (Socket.ofFd 0)) := by decide
  obtain ⟨w, hw, hafter⟩ := Option.map_eq_some_iff.mp after
  simp only [Prod.mk.injEq] at hafter
  obtain ⟨target, socket⟩ := hafter
  refine ⟨w, hw, target, by rw [socket]; rfl, fun exact => ?_⟩
  have reported := (exact _ socket).2.mpr (by decide)
  rw [getConnectionState_ofFd] at reported
  omega

end Runs

end BluezTutorial.ReportedState
