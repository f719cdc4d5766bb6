import BluezTutorial.Lifecycle
import BluezTutorial.Session

/-! Every interleaving of the threads of Session.lean. Outside a session there is no
listening thread, so the owner runs its calls as if they were atomic; in a session
the owner only clears `_heartbeat` and waits, and what the handlers do does not
depend on `_heartbeat`. So handlers find the members that a start has set, and
whenever no thread is inside a call the Listener is as atomic calls would have left
it. -/

namespace BluezTutorial.Interleaving
open LabelledRun Lifecycle Session

/-- The worlds that atomic calls lead to, every D-Bus call of a start and of a stop
succeeding. -/
inductive Reached (openNumbers : ℤ → Bool) : World → Prop
  | constructed : Reached openNumbers (World.constructed openNumbers)
  | start {w w' : World} (before : Reached openNumbers w) (socket : Socket)
      (returned : startListening ⟨true, true, true⟩ socket w = .ok w') : Reached openNumbers w'
  | stop {w w' : World} (before : Reached openNumbers w)
      (returned : stopListening ⟨true, true⟩ w = .ok w') : Reached openNumbers w'
  | handle {w : World} {handled : Handled} (before : Reached openNumbers w)
      (exported : w.exported = true) (callback : Callback)
      (returned : callback.handle w = .ok handled) : Reached openNumbers handled.world

/-- What a handler and a stop rely on. -/
structure Ready (w : World) : Prop where
  bus : w.pSystemBusConnection = true
  interface : w.pBluezProfileInterface = true
  thread : w.listenThread = true
  socket : w.pSocket.isSome = true

/-- What a start relies on. -/
structure Closed (w : World) : Prop where
  bus : w.pSystemBusConnection = true
  interface : w.pBluezProfileInterface = false
  thread : w.listenThread = false

/-- The Socket of the session holds no descriptor. -/
def Released (w : World) : Prop :=
  ∃ socket, w.pSocket = some socket ∧ socket.fd = -1

/-- The world in which nobody has called `stopListening` yet. -/
def beating (w : World) : World := { w with heartbeat := true }

/-- Statements that neither start the listening thread nor wait for it. -/
def Quiet (stmt : Stmt) : Prop := stmt ≠ .spawn ∧ stmt ≠ .join

/-- Statements that a handler may execute in a session. -/
structure Harmless (stmt : Stmt) : Prop where
  ready : ∀ w w', Ready w → stmt.exec w = .ok w' → Ready w'
  abort : ∀ w abort, Ready w → stmt.exec w = .error abort → abort ∈ callAssertions
  heartbeat : ∀ w w', stmt.exec w = .ok w' →
    w'.heartbeat = w.heartbeat ∧ stmt.exec (beating w) = .ok (beating w')

/-- The owner while there is a listening thread: between its calls, at the start of
`stopListening`, or waiting there for the thread. -/
inductive Waiting (inSession : Bool) (owner : List Stmt) (heartbeat : Bool) : Prop
  | idle (inside : inSession = true) (code : owner = []) (beats : heartbeat = true)
  | stopping (outside : inSession = false) (code : owner = stopListeningCode ⟨true, true⟩)
      (beats : heartbeat = true)
  | joining (outside : inSession = false)
      (code : owner = .join :: unregisterProfileCode ⟨true, true⟩) (stopped : heartbeat = false)

/-- The listening thread in a world that is `w` up to `_heartbeat`, and the world `a`
that the calls so far lead to: a handler counts once it has returned. -/
inductive Beside (a : World) (thread : Pc) (w : World) : Prop
  | outside (pc : ∀ code, thread ≠ .handler code) (same : a = w)
  | inside (callback : Callback) (exported : a.exported = true) {code : List Stmt}
      (pc : thread = .handler code) (harmless : ∀ stmt ∈ code, Harmless stmt)
      (rest : execAll (callbackCode callback) a = execAll code w)

/-- How far a session is. Outside the listening stage there is no listening thread,
so what the owner still has to do leads to `a`. -/
inductive Stage (a : World) (s : State) : Prop
  | closed (inSession : s.inSession = false) (thread : s.thread = .absent)
      (quiet : ∀ stmt ∈ s.owner, Quiet stmt) (rest : execAll s.owner s.world = .ok a)
      (closed : Closed a) (released : (s.owner = [] ∧ s.sent = false) ∨ Released a)
  | starting (inSession : s.inSession = true) (thread : s.thread = .absent) (code : List Stmt)
      (owner : s.owner = code ++ [.spawn]) (quiet : ∀ stmt ∈ code, Quiet stmt)
      (rest : execAll s.owner s.world = .ok a) (ready : Ready a)
      (heartbeat : a.heartbeat = true)
  | listening (ready : Ready s.world) (beside : Beside a s.thread (beating s.world))
      (waiting : Waiting s.inSession s.owner s.world.heartbeat)

structure Invariant (openNumbers : ℤ → Bool) (s : State) : Prop where
  stage : ∃ a, Reached openNumbers a ∧ Stage a s
  abort : ∀ abort, s.aborted = some abort → abort ∈ callAssertions

section Statements

theorem harmless_assertSocket (abort : Abort) : Harmless (.assertSocket abort) where
  ready w w' ready h := by
    obtain ⟨_, same⟩ := check_bind_eq_ok.mp h
    rw [pure_eq_ok.mp same]
    exact ready
  abort w abort' ready h := by
    simp [Stmt.exec, ready.socket, bind, Except.bind, pure, Except.pure] at h
  heartbeat w w' h := by
    obtain ⟨there, same⟩ := check_bind_eq_ok.mp h
    rw [pure_eq_ok.mp same]
    exact ⟨rfl, check_bind_eq_ok.mpr ⟨there, rfl⟩⟩

/-- Statements that always succeed and leave the members that a session relies on. -/
theorem harmless_of_exec {stmt : Stmt} (effect : World → World)
    (exec : ∀ w, stmt.exec w = .ok (effect w)) (keeps : ∀ w, Ready w → Ready (effect w))
    (heartbeat : ∀ w, (effect w).heartbeat = w.heartbeat ∧
      effect (beating w) = beating (effect w)) : Harmless stmt where
  ready w w' ready h := by
    rw [exec] at h
    cases h
    exact keeps w ready
  abort w abort ready h := by
    rw [exec] at h
    cases h
  heartbeat w w' h := by
    rw [exec] at h
    cases h
    exact ⟨(heartbeat w).1, by rw [exec, (heartbeat w).2]⟩

theorem harmless_closeConnection : Harmless .closeConnection := by
  refine harmless_of_exec (fun w => w.pSocket.elim w w.cleared) (fun _ => rfl) ?_ ?_
  · intro w ready
    obtain ⟨socket, held⟩ := Option.isSome_iff_exists.mp ready.socket
    simp only [held, Option.elim_some]
    exact ⟨ready.bus, ready.interface, ready.thread, rfl⟩
  · intro w
    cases held : w.pSocket with
    | none => simp [held, beating]
    | some socket => simp [held, beating, World.cleared]

theorem harmless_removeAllDevicesExcept (device : ObjectPath) (answer : RemovalAnswer) :
    Harmless (.removeAllDevicesExcept device answer) where
  ready w w' ready h := by
    obtain ⟨calls, _, same⟩ := bind_eq_ok.mp h
    rw [pure_eq_ok.mp same]
    exact ⟨ready.bus, ready.interface, ready.thread, ready.socket⟩
  abort w abort ready h := by
    simp only [Stmt.exec, ready.bus] at h
    by_cases good : answer.Good
    · obtain ⟨calls, removed⟩ := removeAllDevicesExcept_eq_ok device good
      rw [removed] at h
      cases h
    · obtain ⟨other, mem, failed⟩ := removeAllDevicesExcept_eq_error device good
      rw [failed] at h
      cases h
      exact removal_of_call abort mem
  heartbeat w w' h := by
    obtain ⟨calls, removed, same⟩ := bind_eq_ok.mp h
    rw [pure_eq_ok.mp same]
    exact ⟨rfl, bind_eq_ok.mpr ⟨calls, removed, rfl⟩⟩

theorem harmless_setupSocket (answer : SetupAnswer) : Harmless (.setupSocket answer) where
  ready w w' ready h := by
    obtain ⟨_, _, same⟩ := bind_eq_ok.mp h
    rw [pure_eq_ok.mp same]
    exact ready
  abort w abort ready h := by
    simp only [Stmt.exec] at h
    by_cases good : Socket.setupSocket answer = .ok ()
    · rw [good] at h
      cases h
    · obtain ⟨other, mem, failed⟩ := setupSocket_error good
      rw [failed] at h
      cases h
      exact mem
  heartbeat w w' h := by
    obtain ⟨_, good, same⟩ := bind_eq_ok.mp h
    rw [pure_eq_ok.mp same]
    exact ⟨rfl, bind_eq_ok.mpr ⟨(), good, rfl⟩⟩

/-- Every statement of a handler is harmless in a session. -/
theorem harmless_callbackCode (callback : Callback) :
    ∀ stmt ∈ callbackCode callback, Harmless stmt := by
  have closing : ∀ stmt ∈ disconnectSocketCode, Harmless stmt := by
    simp only [disconnectSocketCode, List.forall_mem_cons]
    exact ⟨harmless_assertSocket _, harmless_closeConnection, by simp⟩
  cases callback with
  | requestDisconnection device => exact closing
  | release => exact closing
  | newConnection device answer =>
      rw [callbackCode]
      cases answer.fd with
      | none =>
          simp only [List.forall_mem_cons]
          refine ⟨⟨fun w w' _ h => ?_, fun w abort _ h => ?_, fun w w' h => ?_⟩, by simp⟩
          · cases h
          · cases h
            decide
          · cases h
      | some fd =>
          simp only [List.forall_mem_cons]
          refine ⟨harmless_of_exec _ (fun _ => rfl) ?_ (fun _ => ⟨rfl, rfl⟩),
            harmless_removeAllDevicesExcept _ _, harmless_assertSocket _,
            harmless_setupSocket _, harmless_of_exec _ (fun _ => rfl) ?_ (fun _ => ⟨rfl, rfl⟩),
            harmless_of_exec _ (fun _ => rfl) ?_ (fun _ => ⟨rfl, rfl⟩), by simp⟩
          · exact fun w ready => ⟨ready.bus, ready.interface, ready.thread, ready.socket⟩
          · exact fun w ready =>
              ⟨ready.bus, ready.interface, ready.thread, by simpa using ready.socket⟩
          · exact fun w ready => ⟨ready.bus, ready.interface, ready.thread, ready.socket⟩

end Statements

section Steps

variable {openNumbers : ℤ → Bool} {s s' : State} {a : World}

theorem execAll_cons_eq_ok {stmt : Stmt} {code : List Stmt} {w w' : World} :
    execAll (stmt :: code) w = .ok w' ↔ ∃ u, stmt.exec w = .ok u ∧ execAll code u = .ok w' := by
  rw [execAll_cons, bind_eq_ok]

theorem enter_eq_some {code : List Stmt} {inSession : Bool} :
    s.enter code inSession = some s' ↔ s.owner = [] ∧ s.inSession ≠ inSession ∧
      s' = { s with owner := code, inSession := inSession } := by
  unfold State.enter
  split
  · next allowed =>
      simp only [Bool.and_eq_true, List.isEmpty_iff, bne_iff_ne] at allowed
      simp [allowed, eq_comm]
  · next refused =>
      simp only [Bool.and_eq_true, List.isEmpty_iff, bne_iff_ne, not_and] at refused
      simp only [reduceCtorEq, false_iff]
      rintro ⟨idle, outside, _⟩
      exact refused idle outside

/-- A statement of the owner that can be executed. -/
theorem ownerStep_of_exec {stmt : Stmt} {code : List Stmt} {w : World}
    (owner : s.owner = stmt :: code) (exec : stmt.exec s.world = .ok w)
    (free : s.blocked stmt = false) :
    s.ownerStep = some { s.effect stmt with world := w, owner := code } := by
  simp [State.ownerStep, owner, exec, free]

/-- The owner goes on with statements that neither start the thread nor wait for it. -/
theorem Quiet.ownerStep {stmt : Stmt} {code : List Stmt} (quiet : Quiet stmt)
    (owner : s.owner = stmt :: code) (rest : execAll s.owner s.world = .ok a) :
    ∃ t, s.ownerStep = some t ∧ execAll t.owner t.world = .ok a ∧ t.owner = code ∧
      t.inSession = s.inSession ∧ t.thread = s.thread ∧ t.aborted = s.aborted := by
  rw [owner] at rest
  obtain ⟨u, exec, rest⟩ := execAll_cons_eq_ok.mp rest
  have free : s.blocked stmt = false := by
    unfold State.blocked
    split
    · exact absurd rfl quiet.2
    · rfl
  refine ⟨_, ownerStep_of_exec owner exec free, rest, rfl, ?_⟩
  unfold State.effect
  split
  · exact absurd rfl quiet.1
  · exact ⟨rfl, rfl, rfl⟩
  · exact ⟨rfl, rfl, rfl⟩
  · exact ⟨rfl, rfl, rfl⟩

/-- Neither the queue nor a recorded abort is part of the stage. -/
theorem Stage.congr {queue : List Callback} {aborted : Option Abort} (stage : Stage a s) :
    Stage a { s with queue := queue, aborted := aborted } := by
  cases stage with
  | closed inSession thread quiet rest closed released =>
      exact .closed inSession thread quiet rest closed released
  | starting inSession thread code owner quiet rest ready heartbeat =>
      exact .starting inSession thread code owner quiet rest ready heartbeat
  | listening ready beside waiting => exact .listening ready beside waiting

theorem quiet_startListeningCode (answer : RegisterAnswer) (socket : Socket) :
    ∀ stmt ∈ registerProfileCode answer ++ [.setSocket socket, .setHeartbeat true],
      Quiet stmt := by
  simp [registerProfileCode, Quiet]

theorem quiet_unregisterProfileCode (answer : UnregisterAnswer) :
    ∀ stmt ∈ unregisterProfileCode answer, Quiet stmt := by
  simp [unregisterProfileCode, disconnectSocketCode, Quiet]

/-- `startListening` is entered from the closed stage only. -/
theorem stage_startListening (reached : Reached openNumbers a) (stage : Stage a s)
    {socket : Socket}
    (h : s.enter (startListeningCode ⟨true, true, true⟩ socket) true = some s') :
    ∃ a', Reached openNumbers a' ∧ Stage a' s' := by
  obtain ⟨idle, outside, rfl⟩ := enter_eq_some.mp h
  cases stage with
  | closed inSession thread quiet rest closed released =>
      rw [idle, execAll_nil] at rest
      cases rest
      have started : startListening ⟨true, true, true⟩ socket s.world =
          .ok { s.world.registered with
            pSocket := some socket, heartbeat := true, listenThread := true } :=
        startListening_eq_ok.mpr ⟨closed.bus, closed.interface, rfl, closed.thread, rfl⟩
      refine ⟨_, reached.start socket started, .starting rfl thread
        (registerProfileCode ⟨true, true, true⟩ ++ [.setSocket socket, .setHeartbeat true])
        (by simp [startListeningCode]) (quiet_startListeningCode _ _) ?_
        ⟨closed.bus, rfl, rfl, rfl⟩ rfl⟩
      rw [execAll_startListeningCode]
      exact started
  | starting inSession thread code owner quiet rest ready heartbeat =>
      exact absurd inSession outside
  | listening ready beside waiting =>
      cases waiting with
      | idle inside code beats => exact absurd inside outside
      | stopping outside code beats => simp [code, stopListeningCode] at idle
      | joining outside code stopped => simp [code] at idle

/-- `stopListening` is entered from the listening stage only. -/
theorem stage_stopListening (stage : Stage a s)
    (h : s.enter (stopListeningCode ⟨true, true⟩) false = some s') : Stage a s' := by
  obtain ⟨idle, inside, rfl⟩ := enter_eq_some.mp h
  cases stage with
  | closed inSession thread quiet rest closed released => exact absurd inSession inside
  | starting inSession thread code owner quiet rest ready heartbeat => simp [owner] at idle
  | listening ready beside waiting =>
      cases waiting with
      | idle inside code beats => exact .listening ready beside (.stopping rfl rfl beats)
      | stopping outside code beats => exact absurd outside inside
      | joining outside code stopped => exact absurd outside inside

/-- Once the listening thread has returned, the rest of a stop is uninterrupted. -/
theorem stage_join (reached : Reached openNumbers a) (ready : Ready s.world)
    (beside : Beside a s.thread (beating s.world)) (outside : s.inSession = false)
    (stopped : s.world.heartbeat = false) (thread : s.thread = .absent) :
    ∃ a', Reached openNumbers a' ∧
      Stage a' { s with
        world := { s.world with listenThread := false }
        owner := unregisterProfileCode ⟨true, true⟩ } := by
  obtain ⟨socket, held⟩ := Option.isSome_iff_exists.mp ready.socket
  have same : a = beating s.world := by
    cases beside with
    | outside pc same => exact same
    | inside callback exported pc harmless rest => simp [thread] at pc
  have returned : stopListening ⟨true, true⟩ (beating s.world) =
      .ok (World.cleared { s.world.unregistered with listenThread := false } socket) := by
    refine stopListening_eq_ok.mpr ⟨ready.bus, ready.interface, rfl, socket, held, ?_⟩
    simp [World.unregistered, beating, stopped]
  have rest : execAll (unregisterProfileCode ⟨true, true⟩)
      { s.world with listenThread := false } =
      .ok (World.cleared { s.world.unregistered with listenThread := false } socket) := by
    rw [execAll_unregisterProfileCode]
    exact unregisterProfile_eq_ok.mpr ⟨ready.bus, ready.interface, rfl, socket, held, rfl⟩
  exact ⟨_, (same ▸ reached).stop returned, .closed outside thread
    (quiet_unregisterProfileCode _) rest ⟨ready.bus, rfl, rfl⟩
    (.inr ⟨_, rfl, Socket.closeConnection_fd _ _⟩)⟩

/-- The owner goes on with the rest of a stop. -/
theorem stage_closed_owner (inSession : s.inSession = false) (thread : s.thread = .absent)
    (quiet : ∀ stmt ∈ s.owner, Quiet stmt) (rest : execAll s.owner s.world = .ok a)
    (closed : Closed a) (released : (s.owner = [] ∧ s.sent = false) ∨ Released a)
    (h : s.ownerStep = some s') : Stage a s' ∧ s'.aborted = s.aborted := by
  cases owner : s.owner with
  | nil => simp [State.ownerStep, owner] at h
  | cons stmt code =>
      rw [owner] at quiet released
      obtain ⟨t, ht, rest, code', sameSession, sameThread, sameAborted⟩ :=
        (quiet stmt List.mem_cons_self).ownerStep owner rest
      obtain rfl : t = s' := by simpa [ht] using h
      refine ⟨.closed (sameSession.trans inSession) (sameThread.trans thread) ?_ rest closed
        (.inr (released.resolve_left (by simp))), sameAborted⟩
      rw [code']
      exact fun other mem => quiet other (List.mem_cons_of_mem _ mem)

/-- The owner goes on with a start, whose last statement starts the listening thread. -/
theorem stage_starting_owner (inSession : s.inSession = true) (thread : s.thread = .absent)
    {code : List Stmt} (owner : s.owner = code ++ [.spawn]) (quiet : ∀ stmt ∈ code, Quiet stmt)
    (rest : execAll s.owner s.world = .ok a) (ready : Ready a) (heartbeat : a.heartbeat = true)
    (h : s.ownerStep = some s') : Stage a s' ∧ s'.aborted = s.aborted := by
  cases code with
  | nil =>
      rw [owner] at rest
      obtain ⟨u, exec, rest⟩ := execAll_cons_eq_ok.mp rest
      cases rest
      rw [ownerStep_of_exec owner exec rfl, Option.some.injEq] at h
      rw [← h]
      have same : a = beating a := by simp [beating, ← heartbeat]
      exact ⟨.listening ready (.outside nofun same) (.idle inSession rfl heartbeat), rfl⟩
  | cons stmt code =>
      obtain ⟨t, ht, rest, code', sameSession, sameThread, sameAborted⟩ :=
        (quiet stmt List.mem_cons_self).ownerStep owner rest
      obtain rfl : t = s' := by simpa [ht] using h
      refine ⟨.starting (sameSession.trans inSession) (sameThread.trans thread) code code' ?_
        rest ready heartbeat, sameAborted⟩
      exact fun other mem => quiet other (List.mem_cons_of_mem _ mem)

/-- While there is a listening thread the owner clears `_heartbeat` and then waits until
the thread has returned. -/
theorem stage_listening_owner (reached : Reached openNumbers a) (ready : Ready s.world)
    (beside : Beside a s.thread (beating s.world))
    (waiting : Waiting s.inSession s.owner s.world.heartbeat) (h : s.ownerStep = some s') :
    (∃ a', Reached openNumbers a' ∧ Stage a' s') ∧ s'.aborted = s.aborted := by
  cases waiting with
  | idle inside code beats => simp [State.ownerStep, code] at h
  | stopping outside code beats =>
      rw [ownerStep_of_exec code rfl rfl, Option.some.injEq] at h
      rw [← h]
      exact ⟨⟨a, reached, .listening ⟨ready.bus, ready.interface, ready.thread, ready.socket⟩
        beside (.joining outside rfl rfl)⟩, rfl⟩
  | joining outside code stopped =>
      cases free : s.blocked .join with
      | true => simp [State.ownerStep, code, free] at h
      | false =>
          have thread : s.thread = .absent := by
            simp only [State.blocked, ready.thread, Bool.true_and, Bool.not_eq_false'] at free
            split at free
            · assumption
            · cases free
          rw [ownerStep_of_exec code rfl free, Option.some.injEq] at h
          rw [← h]
          exact ⟨stage_join reached ready beside outside stopped thread, rfl⟩

theorem invariant_owner (invariant : Invariant openNumbers s) (h : s.ownerStep = some s') :
    Invariant openNumbers s' := by
  obtain ⟨a, reached, stage⟩ := invariant.stage
  have next : (∃ a', Reached openNumbers a' ∧ Stage a' s') ∧ s'.aborted = s.aborted := by
    cases stage with
    | closed inSession thread quiet rest closed released =>
        have ⟨stage, same⟩ := stage_closed_owner inSession thread quiet rest closed released h
        exact ⟨⟨a, reached, stage⟩, same⟩
    | starting inSession thread code owner quiet rest ready heartbeat =>
        have ⟨stage, same⟩ :=
          stage_starting_owner inSession thread owner quiet rest ready heartbeat h
        exact ⟨⟨a, reached, stage⟩, same⟩
    | listening ready beside waiting =>
        exact stage_listening_owner reached ready beside waiting h
  exact ⟨next.1, fun abort aborted => invariant.abort abort (next.2 ▸ aborted)⟩

/-- The listening thread executes a statement of a handler. -/
theorem stage_handler (stage : Stage a s) {stmt : Stmt} {code : List Stmt}
    (thread : s.thread = .handler (stmt :: code)) :
    Ready s.world ∧ Harmless stmt ∧ ∀ w, stmt.exec s.world = .ok w →
      Stage a { s with world := w, thread := .handler code } := by
  cases stage with
  | closed inSession absent quiet rest closed released => simp [thread] at absent
  | starting inSession absent code owner quiet rest ready heartbeat => simp [thread] at absent
  | listening ready beside waiting =>
      cases beside with
      | outside pc same => exact absurd thread (pc _)
      | inside callback exported pc harmless rest =>
          obtain rfl : stmt :: code = _ := by simpa [thread] using pc
          have first := harmless stmt List.mem_cons_self
          refine ⟨ready, first, fun w exec => ?_⟩
          obtain ⟨same, commutes⟩ := first.heartbeat _ _ exec
          refine .listening (first.ready _ _ ready exec) (.inside callback exported rfl
            (fun other mem => harmless other (List.mem_cons_of_mem _ mem)) ?_) (same ▸ waiting)
          rw [rest, execAll_cons, commutes]
          rfl

/-- A handler returns, and is counted as one atomic call. -/
theorem stage_returned (reached : Reached openNumbers a) (stage : Stage a s)
    (thread : s.thread = .handler []) :
    ∃ a', Reached openNumbers a' ∧ Stage a' { s with thread := .iterate } := by
  cases stage with
  | closed inSession absent quiet rest closed released => simp [thread] at absent
  | starting inSession absent code owner quiet rest ready heartbeat => simp [thread] at absent
  | listening ready beside waiting =>
      cases beside with
      | outside pc same => exact absurd thread (pc _)
      | inside callback exported pc harmless rest =>
          obtain rfl : [] = _ := by simpa [thread] using pc
          rw [execAll_callbackCode, execAll_nil] at rest
          cases handled : callback.handle a with
          | error abort => simp [handled, Except.map] at rest
          | ok result =>
              have world : result.world = beating s.world := by
                simpa [handled, Except.map] using rest
              have after : Reached openNumbers (beating s.world) :=
                world ▸ reached.handle exported callback handled
              exact ⟨_, after, .listening ready (.outside nofun rfl) waiting⟩

/-- The listening thread moves outside its handlers. -/
theorem Stage.move (stage : Stage a s) {thread : Pc} {queue : List Callback}
    (present : s.thread ≠ .absent) (before : ∀ code, s.thread ≠ .handler code)
    (after : (∀ code, thread ≠ .handler code) ∨
      s.world.exported = true ∧ ∃ callback, thread = .handler (callbackCode callback)) :
    Stage a { s with thread := thread, queue := queue } := by
  cases stage with
  | closed inSession absent quiet rest closed released => exact absurd absent present
  | starting inSession absent code owner quiet rest ready heartbeat => exact absurd absent present
  | listening ready beside waiting =>
      cases beside with
      | inside callback exported pc harmless rest => exact absurd pc (before _)
      | outside pc same =>
          rcases after with outside | ⟨exported, callback, rfl⟩
          · exact .listening ready (.outside outside same) waiting
          · refine .listening ready (.inside callback ?_ rfl (harmless_callbackCode callback) ?_)
              waiting
            · rw [same]
              exact exported
            · rw [same]

theorem invariant_thread (invariant : Invariant openNumbers s) {dispatch : Bool}
    (h : s.threadStep dispatch = some s') : Invariant openNumbers s' := by
  obtain ⟨a, reached, stage⟩ := invariant.stage
  unfold State.threadStep at h
  split at h
  · cases h
  · next thread =>
      cases h
      refine ⟨⟨a, reached, stage.move (by simp [thread]) (by simp [thread]) (.inl ?_)⟩,
        invariant.abort⟩
      split <;> exact nofun
  · next thread =>
      cases h
      exact ⟨⟨a, reached, stage.move (by simp [thread]) (by simp [thread]) (.inl nofun)⟩,
        invariant.abort⟩
  · next thread =>
      split at h
      · split at h
        · cases h
        · next call queue _ =>
            cases h
            refine ⟨⟨a, reached, stage.move (by simp [thread]) (by simp [thread]) ?_⟩,
              invariant.abort⟩
            cases exported : s.world.exported with
            | true => exact .inr ⟨rfl, call, by simp⟩
            | false => exact .inl (by simp)
      · cases h
        exact ⟨⟨a, reached, stage.move (by simp [thread]) (by simp [thread]) (.inl nofun)⟩,
          invariant.abort⟩
  · next thread =>
      cases h
      exact ⟨stage_returned reached stage thread, invariant.abort⟩
  · next stmt code thread =>
      obtain ⟨ready, harmless, goes⟩ := stage_handler stage thread
      split at h
      · next w exec =>
          cases h
          exact ⟨⟨a, reached, goes w exec⟩, invariant.abort⟩
      · next abort exec =>
          cases h
          refine ⟨⟨a, reached, stage.congr⟩, fun other same => ?_⟩
          cases same
          exact harmless.abort _ _ ready exec

theorem invariant_step (invariant : Invariant openNumbers s) {label : Label}
    (h : step s label = some s') : Invariant openNumbers s' := by
  unfold step at h
  split at h
  · cases h
  · obtain ⟨a, reached, stage⟩ := invariant.stage
    cases label with
    | startListening socket =>
        refine ⟨stage_startListening reached stage h, ?_⟩
        obtain ⟨_, _, rfl⟩ := enter_eq_some.mp h
        exact invariant.abort
    | stopListening =>
        refine ⟨⟨a, reached, stage_stopListening stage h⟩, ?_⟩
        obtain ⟨_, _, rfl⟩ := enter_eq_some.mp h
        exact invariant.abort
    | owner => exact invariant_owner invariant h
    | thread dispatch => exact invariant_thread invariant h
    | enqueue call =>
        simp only [State.enqueue, Option.ite_none_right_eq_some, Option.some.injEq] at h
        rw [← h.2]
        exact ⟨⟨a, reached, stage.congr⟩, invariant.abort⟩

end Steps

section Runs

variable {openNumbers : ℤ → Bool} {labels : List Label} {s : State}

theorem invariant_initial (openNumbers : ℤ → Bool) :
    Invariant openNumbers (initial openNumbers) where
  stage := ⟨_, .constructed, .closed rfl rfl nofun rfl ⟨rfl, rfl, rfl⟩ (.inl ⟨rfl, rfl⟩)⟩
  abort := nofun

theorem run_invariant (hrun : run step (initial openNumbers) labels = some s) :
    Invariant openNumbers s :=
  invariant (I := Invariant openNumbers) (fun _ _ _ before h => invariant_step before h)
    (invariant_initial openNumbers) hrun

/-- The listening thread is inside a Profile1 handler. -/
def InHandler (s : State) : Prop := ∃ code, s.thread = .handler code

/-- A stop has returned and no start was called since. -/
def BetweenSessions (s : State) : Prop :=
  s.owner = [] ∧ s.inSession = false ∧ s.sent = true

theorem not_inHandler (absent : s.thread = .absent) : ¬ InHandler s := by
  rintro ⟨code, handler⟩
  rw [absent] at handler
  cases handler

/-- Whenever no thread is inside a call, the Listener is as atomic calls would have
left it. -/
theorem reached_of_quiescent (hrun : run step (initial openNumbers) labels = some s)
    (idle : s.owner = []) (outside : ¬ InHandler s) : Reached openNumbers s.world := by
  obtain ⟨a, reached, stage⟩ := (run_invariant hrun).stage
  cases stage with
  | closed inSession thread quiet rest closed released =>
      rw [idle, execAll_nil] at rest
      cases rest
      exact reached
  | starting inSession thread code owner quiet rest ready heartbeat => simp [owner] at idle
  | listening ready beside waiting =>
      have beats : s.world.heartbeat = true := by
        cases waiting with
        | idle inside code beats => exact beats
        | stopping outside code beats => exact beats
        | joining outside code stopped => simp [code] at idle
      have same : s.world = a := by
        cases beside with
        | outside pc same => rw [same, beating, ← beats]
        | inside callback exported pc harmless rest => exact absurd ⟨_, pc⟩ outside
      exact same ▸ reached

theorem Reached.coherent {w : World} (reached : Reached openNumbers w) : Coherent w := by
  induction reached with
  | constructed => exact coherent_constructed openNumbers
  | start before socket returned ih =>
      obtain ⟨bus, _, _, _, rfl⟩ := startListening_eq_ok.mp returned
      exact ⟨bus, rfl, rfl, fun _ => rfl⟩
  | stop before returned ih =>
      obtain ⟨bus, _, _, socket, _, rfl⟩ := stopListening_eq_ok.mp returned
      exact ⟨bus, rfl, rfl, fun _ => rfl⟩
  | handle before exported callback returned ih =>
      obtain ⟨_, _, ⟨device, answer, fd, calls, _, _, _, world⟩ | ⟨_, socket, _, world⟩⟩ :=
        Callback.handle_cases returned
      · rw [world]
        exact ⟨ih.bus, ih.exported, ih.thread, fun _ => rfl⟩
      · rw [world]
        exact ⟨ih.bus, ih.exported, ih.thread, fun _ => rfl⟩

/-- Whenever no thread is inside a call, the members agree about whether a session is
going on. -/
theorem coherent_of_quiescent (hrun : run step (initial openNumbers) labels = some s)
    (idle : s.owner = []) (outside : ¬ InHandler s) : Coherent s.world :=
  (reached_of_quiescent hrun idle outside).coherent

/-- Under every interleaving of the owner, the listening thread and the daemon: in a
handler the Socket and the interface are there, the assertions on the Socket have
not failed, and between two sessions no handler runs and the Socket of the last
session holds no descriptor. -/
theorem handlers_inside_session (hrun : run step (initial openNumbers) labels = some s) :
    (InHandler s → s.world.pSocket.isSome = true ∧ s.world.pBluezProfileInterface = true) ∧
    (s.aborted ≠ some .createSocket ∧ s.aborted ≠ some .disconnectSocket) ∧
    (BetweenSessions s → ¬ InHandler s ∧
      ∃ socket, s.world.pSocket = some socket ∧ socket.fd = -1) := by
  have invariant := run_invariant hrun
  obtain ⟨a, _, stage⟩ := invariant.stage
  refine ⟨fun inHandler => ?_, ⟨fun failed => ?_, fun failed => ?_⟩, fun between => ?_⟩
  · cases stage with
    | closed _ thread _ _ _ _ => exact absurd inHandler (not_inHandler thread)
    | starting _ thread _ _ _ _ _ _ => exact absurd inHandler (not_inHandler thread)
    | listening ready _ _ => exact ⟨ready.socket, ready.interface⟩
  · exact absurd (invariant.abort _ failed) (by decide)
  · exact absurd (invariant.abort _ failed) (by decide)
  · obtain ⟨idle, outside, sent⟩ := between
    cases stage with
    | closed _ thread _ rest _ released =>
        rw [idle, execAll_nil] at rest
        cases rest
        refine ⟨not_inHandler thread, released.resolve_left ?_⟩
        simp [sent]
    | starting inSession _ _ _ _ _ _ _ => simp [outside] at inSession
    | listening _ _ waiting =>
        cases waiting with
        | idle inside code beats => simp [outside] at inside
        | stopping _ code beats => simp [idle, stopListeningCode] at code
        | joining _ code stopped => simp [idle] at code

end Runs

/-- A session up to a NewConnection that came before the thread was started and is
about to be installed. -/
def oneSession : List Label :=
  .startListening (Socket.ofFd (-1)) :: List.replicate 7 .owner ++
  [.enqueue (.newConnection "/org/bluez/hci0/dev_A" (.good 5))] ++ List.replicate 4 .owner ++
  [.thread false, .thread true] ++ List.replicate 4 (.thread false)

/-- The owner stops; the handler, the iteration and the sleep are finished first. -/
def stopMeanwhile : List Label :=
  [.stopListening, .owner] ++ List.replicate 6 (.thread false) ++ List.replicate 10 .owner

theorem handlers_inside_session_oneSession : ∃ s t,
    run step (initial fun n => n < 3) oneSession = some s ∧ InHandler s ∧
    s.world.pSocket.isSome = true ∧ s.world.pBluezProfileInterface = true ∧
    run step (initial fun n => n < 3) (oneSession ++ stopMeanwhile) = some t ∧
    BetweenSessions t ∧ ¬ InHandler t ∧
    ∃ socket, t.world.pSocket = some socket ∧ socket.fd = -1 := by
  have during : (run step (initial fun n => n < 3) oneSession).map
      (fun s => s.thread matches .handler _) = some true := by decide +kernel
  have after : (run step (initial fun n => n < 3) (oneSession ++ stopMeanwhile)).map
      (fun s => (s.owner.isEmpty, s.inSession, s.sent)) = some (true, false, true) := by
    decide +kernel
  obtain ⟨s, hs, handler⟩ := Option.map_eq_some_iff.mp during
  obtain ⟨t, ht, idle⟩ := Option.map_eq_some_iff.mp after
  have inHandler : InHandler s := by
    split at handler
    · next code thread => exact ⟨code, thread⟩
    · cases handler
  have between : BetweenSessions t := by simpa [BetweenSessions] using idle
  obtain ⟨socket, interface⟩ := (handlers_inside_session hs).1 inHandler
  obtain ⟨outside, released⟩ := (handlers_inside_session ht).2.2 between
  exact ⟨s, t, hs, inHandler, socket, interface, ht, between, outside, released⟩

end BluezTutorial.Interleaving
