import BluezTutorial.Operations

/-! The life of one Listener: construction, any number of sessions, each with any
Profile1 calls while it lasts, and destruction, which the source makes call
`stopListening` in whatever state the object is left. The D-Bus calls of
`registerProfile` and `unregisterProfile` succeed here. The calls that the
NewConnection handler makes may fail; the process then stops at one of that
handler's own assertions. -/

namespace BluezTutorial.Lifecycle

/-- The assertions on the members that a start, a stop or a disconnection makes. -/
def memberAssertions : List Abort := [.registerInterface, .unregisterInterface, .disconnectSocket]

/-- The assertions at which the NewConnection handler stops when one of the calls it
makes goes wrong. -/
def callAssertions : List Abort :=
  [.fdList, .removeProxy, .findProxy, .findCall, .findChildren, .setLinger, .socketSet]

/-- One session: the Socket it is started with and the calls that arrive. -/
structure Session where
  socket : Socket
  callbacks : List Callback

def Session.begin (session : Session) (w : World) : Except Abort World := do
  let w ← startListening ⟨true, true, true⟩ session.socket w
  session.callbacks.foldlM (fun w callback => (Op.dispatch callback).perform w) w

def Session.whole (session : Session) (w : World) : Except Abort World := do
  let w ← session.begin w
  stopListening ⟨true, true⟩ w

/-- Construct, go through the finished sessions, perhaps begin one more, destruct. -/
def lifetime (openNumbers : ℤ → Bool) (sessions : List Session) (unfinished : Option Session) :
    Except Abort World := do
  let w ← construct true openNumbers
  let w ← sessions.foldlM (fun w session => session.whole w) w
  let w ← unfinished.elim (pure w) (fun session => session.begin w)
  destruct ⟨true, true⟩ w

/-- The calls the handler itself makes succeed. -/
def Answered : Callback → Prop
  | .newConnection _ answer =>
      answer.fd.isSome = true ∧ answer.removal.Good ∧ Socket.setupSocket answer.setup = .ok ()
  | _ => True

/-- A computation that goes through to a world with `P` when its inputs are good,
and otherwise stops because a call of the NewConnection handler went wrong. -/
def Ends (good : Prop) (P : World → Prop) (result : Except Abort World) : Prop :=
  (good ∧ ∃ w, result = .ok w ∧ P w) ∨
    (¬ good ∧ ∃ abort ∈ callAssertions, result = .error abort)

theorem removal_of_call : ∀ abort ∈ [Abort.removeProxy, .findProxy, .findCall, .findChildren],
    abort ∈ callAssertions := by decide

theorem not_member_of_call : ∀ abort ∈ callAssertions, abort ∉ memberAssertions := by decide

section Composition

variable {good good' : Prop} {P Q : World → Prop} {result : Except Abort World}

theorem Ends.congr (h : Ends good P result) (same : good ↔ good') : Ends good' P result := by
  unfold Ends at *
  rwa [← same]

theorem Ends.bind {rest : World → Except Abort World} (first : Ends good P result)
    (second : ∀ w, P w → Ends good' Q (rest w)) : Ends (good ∧ good') Q (result >>= rest) := by
  rcases first with ⟨fine, w, rfl, hw⟩ | ⟨bad, abort, other, rfl⟩
  · exact (second w hw).congr (by simp [fine])
  · exact Or.inr ⟨fun both => bad both.1, abort, other, rfl⟩

theorem Ends.safe (h : Ends good P result) : ∀ abort ∈ memberAssertions, result ≠ .error abort := by
  rintro abort member rfl
  rcases h with ⟨_, w, impossible, _⟩ | ⟨_, other, mem, same⟩
  · cases impossible
  · cases same
    exact absurd member (not_member_of_call abort mem)

theorem Ends.foldlM {α : Type} {goodAt : α → Prop} {f : World → α → Except Abort World}
    (step : ∀ w a, P w → Ends (goodAt a) P (f w a)) (l : List α) {w : World} (hw : P w) :
    Ends (∀ a ∈ l, goodAt a) P (l.foldlM f w) := by
  induction l generalizing w with
  | nil => exact Or.inl ⟨by simp, w, rfl, hw⟩
  | cons a l ih =>
      rw [List.foldlM_cons]
      exact ((step w a hw).bind fun w hw => ih hw).congr (by simp)

end Composition

/-- Between sessions, and during one. -/
def Between (w : World) : Prop := Coherent w ∧ w.pBluezProfileInterface = false

def During (w : World) : Prop := Coherent w ∧ w.pBluezProfileInterface = true

theorem setupSocket_error {answer : SetupAnswer} (bad : Socket.setupSocket answer ≠ .ok ()) :
    ∃ abort ∈ callAssertions, Socket.setupSocket answer = .error abort := by
  unfold Socket.setupSocket Socket.setSocketOptions Socket.setSocketToNonBlocking at *
  by_cases linger : answer.setLinger = 0
  · by_cases nonBlocking : answer.socketSet = -1
    · exact ⟨.socketSet, by decide, by simp [linger, nonBlocking, bind, Except.bind]⟩
    · simp [linger, nonBlocking, bind, Except.bind] at bad
  · exact ⟨.setLinger, by decide, by simp [linger, bind, Except.bind]⟩

theorem handleNewConnectionCallback_ends {w : World} (during : During w) (device : ObjectPath)
    (answer : NewConnectionAnswer) :
    Ends (Answered (.newConnection device answer)) During
      ((handleNewConnectionCallback device answer w).map (·.world)) := by
  obtain ⟨coherent, registered⟩ := during
  have socket := coherent.socket registered
  cases fd : answer.fd with
  | none =>
      refine Or.inr ⟨by simp [Answered, fd], .fdList, by decide, ?_⟩
      simp [handleNewConnectionCallback, fd, Except.map]
  | some newConnectionFD =>
      by_cases good : answer.removal.Good
      · obtain ⟨calls, removed⟩ := removeAllDevicesExcept_eq_ok device good
        by_cases setup : Socket.setupSocket answer.setup = .ok ()
        · refine Or.inl ⟨⟨by simp [fd], good, setup⟩, w.installed device newConnectionFD calls, ?_,
            ⟨coherent.bus, coherent.exported, coherent.thread, fun _ => rfl⟩, registered⟩
          rw [handleNewConnectionCallback_eq_ok.mpr
            ⟨newConnectionFD, calls, fd, by rw [coherent.bus, removed], socket, setup, rfl⟩]
          rfl
        · obtain ⟨abort, other, failed⟩ := setupSocket_error setup
          refine Or.inr ⟨fun answered => setup answered.2.2, abort, other, ?_⟩
          simp [handleNewConnectionCallback, fd, World.receive, coherent.bus, removed,
            createNewSocketConnection, socket, failed, bind, Except.bind, Except.map]
      · obtain ⟨abort, mem, failed⟩ := removeAllDevicesExcept_eq_error device good
        refine Or.inr ⟨fun answered => good answered.2.1, abort, removal_of_call abort mem, ?_⟩
        simp [handleNewConnectionCallback, fd, World.receive, coherent.bus, failed,
          bind, Except.bind, Except.map]

theorem disconnectSocket_ends {w : World} (during : During w) :
    Ends True During (disconnectSocket w) := by
  obtain ⟨socket, held⟩ := Option.isSome_iff_exists.mp (during.1.socket during.2)
  refine Or.inl ⟨trivial, w.cleared socket, disconnectSocket_eq_ok.mpr ⟨socket, held, rfl⟩, ?_⟩
  exact ⟨⟨during.1.bus, during.1.exported, during.1.thread, fun _ => rfl⟩, during.2⟩

theorem perform_dispatch_ends {w : World} (during : During w) (callback : Callback) :
    Ends (Answered callback) During ((Op.dispatch callback).perform w) := by
  have exported : w.exported = true := during.1.exported.trans during.2
  rw [perform_dispatch callback exported]
  have disconnected : ∀ result, disconnectSocket w = result →
      Ends True During ((result >>= fun w => pure ⟨w, true, []⟩ : Except Abort Handled).map
        (·.world)) := by
    rintro result rfl
    rcases disconnectSocket_ends during with ⟨_, w', h, hw'⟩ | ⟨never, _⟩
    · exact Or.inl ⟨trivial, w', by rw [h]; rfl, hw'⟩
    · exact absurd trivial never
  cases callback with
  | newConnection device answer => exact handleNewConnectionCallback_ends during device answer
  | requestDisconnection device => exact disconnected _ rfl
  | release => exact disconnected _ rfl

theorem begin_ends {w : World} (between : Between w) (session : Session) :
    Ends (∀ callback ∈ session.callbacks, Answered callback) During (session.begin w) := by
  obtain ⟨coherent, unregistered⟩ := between
  have thread : w.listenThread = false := coherent.thread.trans unregistered
  have started : startListening ⟨true, true, true⟩ session.socket w = .ok
      { w.registered with
        pSocket := some session.socket, heartbeat := true, listenThread := true } :=
    startListening_eq_ok.mpr ⟨coherent.bus, unregistered, rfl, thread, rfl⟩
  rw [Session.begin, started]
  exact Ends.foldlM (fun w callback during => perform_dispatch_ends during callback) _
    ⟨⟨coherent.bus, rfl, rfl, fun _ => rfl⟩, rfl⟩

theorem stopListening_ends {w : World} (during : During w) :
    Ends True Between (stopListening ⟨true, true⟩ w) := by
  obtain ⟨socket, held⟩ := Option.isSome_iff_exists.mp (during.1.socket during.2)
  exact Or.inl ⟨trivial, _,
    stopListening_eq_ok.mpr ⟨during.1.bus, during.2, rfl, socket, held, rfl⟩,
    ⟨during.1.bus, rfl, rfl, fun _ => rfl⟩, rfl⟩

theorem whole_ends {w : World} (between : Between w) (session : Session) :
    Ends (∀ callback ∈ session.callbacks, Answered callback) Between (session.whole w) :=
  ((begin_ends between session).bind fun _ during => stopListening_ends during).congr (by simp)

theorem stopListening_between {w : World} (between : Between w) (answer : UnregisterAnswer) :
    stopListening answer w = .error .unregisterInterface := by
  obtain ⟨coherent, unregistered⟩ := between
  have thread : w.listenThread = false := coherent.thread.trans unregistered
  simp [stopListening, thread, unregisterProfile, coherent.bus, unregistered, bind, Except.bind]

theorem destruct_between {w : World} (between : Between w) (answer : UnregisterAnswer) :
    destruct answer w = .error .unregisterInterface := by
  rw [destruct, stopListening_between between]
  rfl

theorem destruct_ends {w : World} (during : During w) :
    Ends True (fun _ => True) (destruct ⟨true, true⟩ w) := by
  have rest : ∀ w : World, Between w →
      Ends True (fun _ => True) (pure { w with pSystemBusConnection := false }) :=
    fun w _ => Or.inl ⟨trivial, _, rfl, trivial⟩
  exact ((stopListening_ends during).bind rest).congr (by simp)

/-- No member assertion fails in a lifetime exactly when the Listener is destructed
during a session, or the process had stopped before that because a call made by a
NewConnection handler failed. -/
theorem lifetime_safe_iff (openNumbers : ℤ → Bool) (sessions : List Session)
    (unfinished : Option Session) :
    (∀ abort ∈ memberAssertions, lifetime openNumbers sessions unfinished ≠ .error abort) ↔
      unfinished.isSome = true ∨
      ∃ session ∈ sessions, ∃ callback ∈ session.callbacks, ¬ Answered callback := by
  have finished : Ends (∀ session ∈ sessions, ∀ callback ∈ session.callbacks, Answered callback)
      Between (sessions.foldlM (fun w session => session.whole w)
        (World.constructed openNumbers)) :=
    Ends.foldlM (fun w session between => whole_ends between session) sessions
      ⟨coherent_constructed openNumbers, rfl⟩
  have unfold : lifetime openNumbers sessions unfinished =
      (sessions.foldlM (fun w session => session.whole w) (World.constructed openNumbers) >>=
        fun w => unfinished.elim (pure w) (fun session => session.begin w) >>= fun w =>
          destruct ⟨true, true⟩ w) := rfl
  rw [unfold]
  constructor
  · intro safe
    by_contra neither
    rw [not_or] at neither
    obtain ⟨idle, answered⟩ := neither
    obtain rfl : unfinished = none := by simpa using idle
    rcases finished with ⟨_, w, h, between⟩ | ⟨unanswered, _⟩
    · refine safe .unregisterInterface (by decide) ?_
      rw [h]
      exact destruct_between between _
    · exact unanswered (by simpa using answered)
  · rintro (begun | ⟨session, hsession, callback, hcallback, unanswered⟩)
    · obtain ⟨session, rfl⟩ := Option.isSome_iff_exists.mp begun
      exact (finished.bind fun w between =>
        (begin_ends between session).bind fun w during => destruct_ends during).safe
    · rcases finished with ⟨answered, _⟩ | ⟨_, abort, mem, h⟩
      · exact absurd (answered session hsession callback hcallback) unanswered
      · rw [h]
        rintro member hmember same
        cases same
        exact not_member_of_call abort mem hmember

/-- A Listener that was never started, or that was stopped, stops the process in
its destructor. -/
theorem lifetime_idle_aborts :
    lifetime (fun n => n < 3) [] none = .error .unregisterInterface ∧
    lifetime (fun n => n < 3) [⟨Socket.ofFd (-1), []⟩] none = .error .unregisterInterface :=
  ⟨rfl, rfl⟩

end BluezTutorial.Lifecycle
