import BluezTutorial.Lifecycle

/-! The registration of the profile as bluetoothd and the Listener see it.
bluetoothd accepts RegisterProfile while the profile is not registered and
UnregisterProfile while it is (`register_profile` and `unregister_profile` of
bluez-5.49/src/profile.c); it may unregister the profile by itself, and then sends
Release (`btd_profile_cleanup`). Starts and stops alternate, and a stop waits until
a Release that was sent has been dispatched. A run that stops at an assertion ends
in a state that says which. -/

namespace BluezTutorial.Registration
open LabelledRun Lifecycle

structure State where
  world : World
  started : Bool
  registered : Bool
  releaseSent : Bool
  aborted : Option Abort

inductive Label where
  | start
  | stop
  | newConnection (device : ObjectPath) (answer : NewConnectionAnswer)
  | requestDisconnection (device : ObjectPath)
  | daemonRelease
  | dispatchRelease

def State.initial (openNumbers : ℤ → Bool) : State :=
  ⟨World.constructed openNumbers, false, false, false, none⟩

/-- The state after an operation of the Listener has returned or stopped. -/
def State.settle (s : State) : Except Abort World → State
  | .ok w => { s with world := w }
  | .error abort => { s with aborted := some abort }

/-- When a label can be taken: starts and stops alternate, calls reach the Listener
during a session, and a stop waits for a Release on its way. -/
def enabled (s : State) : Label → Bool
  | .start => !s.started
  | .stop => s.started && !s.releaseSent
  | .newConnection _ _ => s.started
  | .requestDisconnection _ => s.started
  | .daemonRelease => s.registered
  | .dispatchRelease => s.releaseSent

def next (s : State) : Label → State
  | .start =>
      State.settle { s with started := true, registered := true }
        (startListening ⟨true, true, !s.registered⟩ (Socket.ofFd (-1)) s.world)
  | .stop =>
      State.settle { s with started := false, registered := false }
        (stopListening ⟨true, s.registered⟩ s.world)
  | .newConnection device answer =>
      s.settle ((Op.dispatch (.newConnection device answer)).perform s.world)
  | .requestDisconnection device =>
      s.settle ((Op.dispatch (.requestDisconnection device)).perform s.world)
  | .daemonRelease => { s with registered := false, releaseSent := true }
  | .dispatchRelease =>
      State.settle { s with releaseSent := false } ((Op.dispatch .release).perform s.world)

def step (s : State) (label : Label) : Option State :=
  if s.aborted.isNone && enabled s label then some (next s label) else none

/-- Every `g_assert_no_error` of `registerProfile` and `unregisterProfile`. -/
def registrationErrors : List Abort :=
  [.registerProxy, .registerExport, .registerCall, .unregisterProxy, .unregisterCall]

/-- The Listener takes the profile for registered only while bluetoothd has it, up to
a Release on its way, and no D-Bus error has stopped the process. -/
def Agreement (s : State) : Prop :=
  (s.world.pBluezProfileInterface = true → s.registered = true ∨ s.releaseSent = true) ∧
  ∀ abort ∈ registrationErrors, s.aborted ≠ some abort

/-- What holds as long as no Release has been dispatched. -/
structure Agreed (s : State) : Prop where
  coherent : Coherent s.world
  started : s.started = s.world.pBluezProfileInterface
  interface : s.world.pBluezProfileInterface = (s.registered || s.releaseSent)
  either : (s.registered && s.releaseSent) = false
  errors : ∀ abort ∈ registrationErrors, s.aborted ≠ some abort

theorem Agreed.agreement {s : State} (agreed : Agreed s) : Agreement s :=
  ⟨fun interface => by simpa [agreed.interface] using interface, agreed.errors⟩

theorem agreed_initial (openNumbers : ℤ → Bool) : Agreed (State.initial openNumbers) :=
  ⟨coherent_constructed openNumbers, rfl, rfl, rfl, by simp [State.initial]⟩

section Steps

variable {s t : State} {label : Label}

theorem step_eq_some : step s label = some t ↔
    s.aborted = none ∧ enabled s label = true ∧ next s label = t := by
  unfold step
  split
  · next h =>
      rw [Bool.and_eq_true, Option.isNone_iff_eq_none] at h
      simp [h]
  · next h =>
      rw [Bool.and_eq_true, Option.isNone_iff_eq_none] at h
      simp only [reduceCtorEq, false_iff]
      exact fun taken => h ⟨taken.1, taken.2.1⟩

theorem agreed_start (agreed : Agreed s) (stopped : s.started = false) :
    Agreed (next s .start) := by
  have unregistered : s.world.pBluezProfileInterface = false := agreed.started ▸ stopped
  have neither := agreed.interface
  rw [unregistered, eq_comm, Bool.or_eq_false_iff] at neither
  have thread := agreed.coherent.thread.trans unregistered
  have returns : startListening ⟨true, true, !s.registered⟩ (Socket.ofFd (-1)) s.world = .ok _ :=
    startListening_eq_ok.mpr
      ⟨agreed.coherent.bus, unregistered, by rw [neither.1]; rfl, thread, rfl⟩
  rw [next, returns]
  exact ⟨⟨agreed.coherent.bus, rfl, rfl, fun _ => rfl⟩, rfl, rfl, by simp [State.settle, neither.2],
    agreed.errors⟩

theorem agreed_stop (agreed : Agreed s) (started : s.started = true)
    (delivered : s.releaseSent = false) : Agreed (next s .stop) := by
  have interface : s.world.pBluezProfileInterface = true := agreed.started ▸ started
  have registered : s.registered = true := by
    simpa [interface, delivered] using agreed.interface
  obtain ⟨socket, held⟩ := Option.isSome_iff_exists.mp (agreed.coherent.socket interface)
  have returns : stopListening ⟨true, s.registered⟩ s.world = .ok _ :=
    stopListening_eq_ok.mpr
      ⟨agreed.coherent.bus, interface, by rw [registered], socket, held, rfl⟩
  rw [next, returns]
  exact ⟨⟨agreed.coherent.bus, rfl, rfl, fun _ => rfl⟩, rfl,
    by simp [State.settle, delivered, World.cleared, World.unregistered], rfl, agreed.errors⟩

theorem not_registrationError_of_call :
    ∀ abort ∈ callAssertions, abort ∉ registrationErrors := by decide

/-- A call that is handled leaves the registration as it is, on either side. -/
theorem agreed_settle (agreed : Agreed s) (started : s.started = true) (callback : Callback) :
    Agreed (s.settle ((Op.dispatch callback).perform s.world)) := by
  have during : During s.world := ⟨agreed.coherent, agreed.started ▸ started⟩
  rcases perform_dispatch_ends during callback with
    ⟨_, w, h, coherent, interface⟩ | ⟨_, abort, mem, h⟩
  · rw [h]
    have same : w.pBluezProfileInterface = (s.registered || s.releaseSent) := by
      rw [interface, ← agreed.interface, during.2]
    exact ⟨coherent, started.trans interface.symm, same, agreed.either, agreed.errors⟩
  · rw [h]
    refine ⟨agreed.coherent, agreed.started, agreed.interface, agreed.either, ?_⟩
    rintro other hother same
    cases same
    exact not_registrationError_of_call abort mem hother

theorem agreed_step (agreed : Agreed s) (undispatched : label ≠ .dispatchRelease)
    (h : step s label = some t) : Agreed t := by
  obtain ⟨_, able, rfl⟩ := step_eq_some.mp h
  cases label with
  | start => exact agreed_start agreed (by simpa [enabled] using able)
  | stop =>
      simp only [enabled, Bool.and_eq_true, Bool.not_eq_true'] at able
      exact agreed_stop agreed able.1 able.2
  | newConnection device answer => exact agreed_settle agreed able _
  | requestDisconnection device => exact agreed_settle agreed able _
  | daemonRelease =>
      have interface := agreed.interface
      rw [show s.registered = true from able, Bool.true_or] at interface
      exact ⟨agreed.coherent, agreed.started, interface, rfl, agreed.errors⟩
  | dispatchRelease => exact absurd rfl undispatched

/-- Once a Release has been dispatched the Listener takes the profile for registered
and bluetoothd does not have it. -/
theorem dispatchRelease_disagrees (agreed : Agreed s) (h : step s .dispatchRelease = some t) :
    ¬ Agreement t := by
  obtain ⟨_, sent, rfl⟩ := step_eq_some.mp h
  have sent : s.releaseSent = true := sent
  have unregistered : s.registered = false := by simpa [sent] using agreed.either
  have interface : s.world.pBluezProfileInterface = true := by simp [agreed.interface, sent]
  have during : During s.world := ⟨agreed.coherent, interface⟩
  rintro ⟨agreement, _⟩
  rcases perform_dispatch_ends during .release with ⟨_, w, h, _, still⟩ | ⟨unanswered, _⟩
  · rw [next, h] at agreement
    simpa [State.settle, unregistered] using agreement still
  · exact unanswered trivial

/-- The two sides agree along a run exactly when no Release of it is dispatched. -/
theorem agreement_iff (openNumbers : ℤ → Bool) (labels : List Label)
    (hrun : run step (State.initial openNumbers) labels = some t) :
    Along step Agreement (State.initial openNumbers) labels ↔ .dispatchRelease ∉ labels := by
  rw [along_iff_guarded (I := Agreed) (G := fun _ label => label ≠ .dispatchRelease)
    (fun _ _ _ agreed undispatched h => agreed_step agreed undispatched h)
    (fun _ agreed => agreed.agreement) ?_ (agreed_initial openNumbers) hrun,
    guarded_iff_forall_mem hrun]
  · exact ⟨fun all mem => all _ mem rfl, fun none label mem same => none (same ▸ mem)⟩
  · rintro s label t agreed h agreement rfl
    exact dispatchRelease_disagrees agreed h agreement

end Steps

/-- A session that ends without a Release. -/
theorem agreement_iff_plain_session : ∃ t,
    run step (State.initial fun n => n < 3)
      [.start, .newConnection "/org/bluez/hci0/dev_A" (.good 5), .stop] = some t ∧
    Along step Agreement (State.initial fun n => n < 3)
      [.start, .newConnection "/org/bluez/hci0/dev_A" (.good 5), .stop] := by
  have runs : (run step (State.initial fun n => n < 3)
      [.start, .newConnection "/org/bluez/hci0/dev_A" (.good 5), .stop]).isSome := by decide
  obtain ⟨t, ht⟩ := Option.isSome_iff_exists.mp runs
  exact ⟨t, ht, (agreement_iff _ _ ht).mpr (by simp)⟩

/-- After a Release, the next stop is answered DoesNotExist and aborts. -/
theorem stop_after_release_aborts : ∃ t,
    run step (State.initial fun n => n < 3)
      [.start, .daemonRelease, .dispatchRelease, .stop] = some t ∧
    t.aborted = some .unregisterCall ∧ ¬ Agreement t := by
  have runs : (run step (State.initial fun n => n < 3)
      [.start, .daemonRelease, .dispatchRelease, .stop]).map (·.aborted) =
      some (some .unregisterCall) := by decide
  obtain ⟨t, ht, aborted⟩ := Option.map_eq_some_iff.mp runs
  exact ⟨t, ht, aborted, fun agreement => agreement.2 .unregisterCall (by decide) aborted⟩

end BluezTutorial.Registration
