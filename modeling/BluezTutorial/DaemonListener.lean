import BluezTutorial.Callbacks
import BluezTutorial.ConnectionAgreement
import Mathlib.Data.List.Perm.Basic

/-! bluetoothd as ExtProfile.lean has it and the Listener, with the bus between them. A
call travels from `send_new_connection` or `send_disconn_req` to the handler of the
Listener, and its reply, if there is one, to the notify function of the pending call. A
pending call may time out, which libdbus reports as an error reply. Calls may be handled
in any order and at any time, also after the daemon has stopped waiting for them.

ConnectionAgreement.lean has the same two parties with a daemon that may send either
call at any time and keeps only the calls it waits for. `Refines` says that the daemon
here is one of those. -/

namespace BluezTutorial.DaemonListener
open LabelledRun KeyedList ExtProfile
open ConnectionAgreement (Profile1Call HoldsFor Tracks serve parties)

/-- The call without the properties, which the handlers of the Listener do not read. -/
def profile1Call : Call → Profile1Call
  | .newConnection device _ => .newConnection device
  | .requestDisconnection device => .requestDisconnection device

structure System where
  daemon : State
  listener : World
  queue : List (ℕ × Call)
  replies : List (ℕ × Reply)
  served : List Call

inductive Event where
  | daemon (label : Label)
  | dispatch (position : ℕ) (answer : NewConnectionAnswer)
  | deliver (position : ℕ)
  | timeOut (serial : ℕ)

def System.start (w : World) : System := ⟨State.initial, w, [], [], []⟩

/-- The labels of the daemon that the bus has to make. -/
def isReply : Label → Bool
  | .newConnReplied _ _ _ => true
  | .disconnReplied _ _ _ => true
  | _ => false

/-- The label that hands a reply to the pending call of that serial. -/
def repliedLabel (serial : ℕ) (error : Bool) (s : State) : Option Label :=
  (s.hooks.find? fun e => e.2 = .newConnReply serial ∨ e.2 = .disconnReply serial).map fun e =>
    if e.2 = .newConnReply serial then .newConnReplied e.1 serial error
    else .disconnReplied e.1 serial error

/-- The daemon has gone on to `t`; what it has sent is on its way. -/
def System.advance (s : System) (t : State) : System :=
  { s with
    daemon := t
    queue := s.queue ++ t.bus.drop s.daemon.bus.length }

def Reply.isError : Reply → Bool
  | .value => false
  | .error _ => true

def step (profile : Profile) (s : System) : Event → Option System
  | .daemon label =>
      if isReply label then none else (ExtProfile.step profile s.daemon label).map s.advance
  | .dispatch position answer => do
      let (serial, call) ← s.queue[position]?
      let (listener, answers) ← serve s.listener answer (profile1Call call)
      some { s with
        listener := listener
        queue := s.queue.eraseIdx position
        replies := s.replies ++ answers.map (serial, ·)
        served := s.served ++ [call] }
  | .deliver position => do
      let (serial, reply) ← s.replies[position]?
      let s := { s with replies := s.replies.eraseIdx position }
      match repliedLabel serial (Reply.isError reply) s.daemon with
      | none => some s
      | some label => (ExtProfile.step profile s.daemon label).map s.advance
  | .timeOut serial => do
      let label ← repliedLabel serial true s.daemon
      (ExtProfile.step profile s.daemon label).map s.advance

section Silence

/-- A regime in which no NewConnection is accepted. -/
def silent (profile : Profile) : Regime := ⟨profile.enableClient, True, True, False, True⟩

/-- Services that have not come as far as `connected`. -/
def Short (services : List Service) : Prop :=
  ∀ service ∈ services, service.state ≠ .connected ∧ service.state ≠ .disconnecting

/-- The daemon before the first NewConnection has been accepted. -/
structure Unaccepted (s : State) : Prop where
  unconnected : ∀ conn ∈ s.conns, conn.connected = false
  states : Short s.services
  calls : ∀ e ∈ s.bus, ∃ device properties, e.2 = .newConnection device properties

variable {profile : Profile} {s t : State} {conn : ExtIo} {g : ServiceState → ServiceState}
  {services : List Service}

def Falls (g : ServiceState → ServiceState) : Prop :=
  ∀ state, state ≠ .connected ∧ state ≠ .disconnecting →
    g state ≠ .connected ∧ g state ≠ .disconnecting

theorem falls_setConnecting : Falls setConnecting := by
  intro state before
  cases state <;> simp [setConnecting] at before ⊢

theorem falls_ending (unconnected : conn.connected = false)
    (ending : Ending (silent profile) s conn g) : Falls g := by
  intro state before
  cases ending with
  | rejected => exact before
  | failed => cases state <;> simp [completeConnecting] at before ⊢
  | hungUp => cases state <;> simp [hangUp] at before ⊢
  | disconnected serial stage => simp [stage.2.2.2] at unconnected
  | stale => exact before

theorem Short.restate (short : Short services) (falls : Falls g) (at' : Option ℕ) (err : ℤ) :
    Short (restate at' g err services) := by
  intro service mem
  obtain ⟨old, omem, _, _, ⟨_, state⟩ | ⟨_, state⟩⟩ := of_mem_restate mem
  · rw [state]
    exact falls old.state (short old omem)
  · rw [state]
    exact short old omem

theorem Short.acquire (short : Short services) (at' : Option ℕ) :
    Short (acquire at' services) := by
  intro service mem
  obtain ⟨old, omem, _, _, state⟩ := of_mem_acquire mem
  rw [← state]
  exact short old omem

theorem Short.release (short : Short services) (at' : Option ℕ) :
    Short (release at' services) := by
  intro service mem
  obtain ⟨old, omem, _, state, _⟩ := of_mem_release mem
  rw [← state]
  exact short old omem

theorem Unaccepted.change (sound : Sound s) (unaccepted : Unaccepted s)
    (change : Change (silent profile) s t) : Unaccepted t := by
  obtain ⟨unconnected, short, calls⟩ := unaccepted
  cases change with
  | unwatched self => exact ⟨unconnected, short, calls⟩
  | probed device serves new =>
      refine ⟨unconnected, fun service mem => ?_, calls⟩
      rcases List.mem_append.mp mem with old | new
      · exact short service old
      · simp [List.mem_singleton.mp new]
  | answered service mem g answer err =>
      have falls : Falls g := by
        intro state before
        cases answer with
        | unconnected => cases state <;> simp [onActive] at before ⊢
        | busy device conn _ found connected =>
            simp [unconnected conn (findConnection_eq_some found).1] at connected
      exact ⟨unconnected, short.restate falls (some service.self) err, calls⟩
  | dropped conn mem g ending err =>
      have falls := falls_ending (unconnected conn mem) ending
      exact ⟨fun other omem => unconnected other (mem_remove.mp omem).1,
        (short.restate falls conn.service err).release conn.service, calls⟩
  | moved conn mem move advance err =>
      have still : move.conn.connected = false ∧ Falls move.state ∧
          ∀ e ∈ move.calls, ∃ device properties, e.2 = .newConnection device properties := by
        have before := unconnected conn mem
        cases advance with
        | authorized => exact ⟨before, fun _ short => short, by simp⟩
        | resolved => exact ⟨before, fun _ short => short, by simp⟩
        | called => exact ⟨before, falls_setConnecting, by simp⟩
        | accepted allowed => exact allowed.elim
        | disconnecting _ _ _ connected => simp [connected] at before
      refine ⟨fun other omem => ?_, short.restate still.2.1 move.service err, fun e emem => ?_⟩
      · rcases (mem_update sound.wired.distinct mem).mp omem with ⟨old, _⟩ | rfl
        · exact unconnected other old
        · exact still.1
      · rcases List.mem_append.mp emem with old | new
        · exact calls e old
        · exact still.2.2 e new
  | added conn g hooks beginning err listed =>
      have still : conn.connected = false ∧ Falls g := by
        cases beginning with
        | incoming => exact ⟨rfl, fun _ short => short⟩
        | connecting => exact ⟨rfl, falls_setConnecting⟩
      refine ⟨fun other omem => ?_, (short.acquire conn.service).restate still.2 conn.service err, calls⟩
      rcases List.mem_append.mp omem with old | new
      · exact unconnected other old
      · rw [List.mem_singleton.mp new]
        exact still.1
  | retired allowed service mem live =>
      have retired : Short (update Service.self service.self Service.retire s.services) := by
        intro other omem
        rcases (mem_update sound.counted.distinct mem).mp omem with ⟨old, _⟩ | rfl
        · exact short other old
        · simp [Service.retire]
      exact ⟨unconnected, retired.release (some service.self), calls⟩
  | unregistered => exact ⟨unconnected, short, calls⟩

end Silence

section Calls

/-- The calls that the connections wait for. -/
def outstanding (conns : List ExtIo) : List (ℕ × Profile1Call) :=
  conns.filterMap fun conn => conn.pending.map (·, .newConnection conn.device)

/-- What a change does to the calls: nothing, one is given up, or one is sent. -/
inductive Effect (s t : State) : Prop
  | quiet (same : (outstanding s.conns).Perm (outstanding t.conns)) (bus : t.bus = s.bus)
  | gaveUp (serial : ℕ) (device : ObjectPath) (bus : t.bus = s.bus)
      (gone : (outstanding s.conns).Perm
        ((serial, .newConnection device) :: outstanding t.conns))
  | called (device : ObjectPath) (properties : List (String × ℕ))
      (bus : t.bus = s.bus ++ [(s.bus.length, .newConnection device properties)])
      (new : (outstanding t.conns).Perm
        ((s.bus.length, .newConnection device) :: outstanding s.conns))

variable {profile : Profile} {s t : State}

theorem effect_of_change (sound : Sound s) (unaccepted : Unaccepted s)
    (change : Change (silent profile) s t) : Effect s t := by
  have distinct := sound.wired.distinct
  cases change with
  | unwatched => exact .quiet (.refl _) rfl
  | probed => exact .quiet (.refl _) rfl
  | answered => exact .quiet (.refl _) rfl
  | retired => exact .quiet (.refl _) rfl
  | unregistered => exact .quiet (.refl _) rfl
  | dropped conn mem g ending err =>
      have split : (outstanding s.conns).Perm _ := (perm_cons_remove distinct mem).filterMap _
      cases pending : conn.pending with
      | none =>
          simp only [List.filterMap_cons, pending, Option.map_none] at split
          exact .quiet split rfl
      | some serial =>
          simp only [List.filterMap_cons, pending, Option.map_some] at split
          exact .gaveUp serial conn.device rfl split
  | moved conn mem move advance err =>
      have before : (outstanding s.conns).Perm _ := (perm_cons_remove distinct mem).filterMap _
      have after : (outstanding (update ExtIo.self conn.self (fun _ => move.conn) s.conns)).Perm _ :=
        (perm_update distinct mem).filterMap _
      cases advance with
      | authorized => exact .quiet (before.trans after.symm) (by simp)
      | resolved => exact .quiet (before.trans after.symm) (by simp)
      | called stage version features properties willing =>
          simp only [List.filterMap_cons, stage.2.2.1, Option.map_none, Option.map_some]
            at before after
          exact .called conn.device properties rfl (after.trans (before.symm.cons _))
      | accepted allowed => exact allowed.elim
      | disconnecting _ _ _ connected => simp [unaccepted.unconnected conn mem] at connected
  | added conn g hooks beginning err listed =>
      have idle : conn.pending = none := by cases beginning <;> rfl
      refine .quiet (List.Perm.of_eq ?_) rfl
      simp [outstanding, idle]

end Calls

section Refinement

/-- The daemon of ConnectionAgreement.lean for the calls that are waited for. -/
def waiting (e : ℕ × Profile1Call) : ConnectionAgreement.ExtIo :=
  match e.2 with
  | .newConnection device => ⟨device, false, [e.1]⟩
  | .requestDisconnection device => ⟨device, true, [e.1]⟩

/-- The two systems have the same Listener and the same calls on the bus, and wait for
the same calls. -/
structure Refines (s : System) (a : ConnectionAgreement.State) : Prop where
  listener : a.callee = s.listener
  issued : a.issued = s.daemon.bus.length
  queue : a.queue = s.queue.map fun e => (e.1, profile1Call e.2)
  replies : a.replies = s.replies
  served : a.served = s.served.map profile1Call
  waits : a.outstanding.Perm (outstanding s.daemon.conns)
  caller : a.caller.Perm ((outstanding s.daemon.conns).map waiting)

/-- What holds of the daemon in every run with the Listener. -/
structure Invariant (s : System) : Prop where
  sound : Sound s.daemon
  unaccepted : Unaccepted s.daemon
  serials : ((outstanding s.daemon.conns).map Prod.fst).Nodup
  sent : ∀ e ∈ outstanding s.daemon.conns, e.1 < s.daemon.bus.length
  travelling : ∀ e ∈ s.queue, ∃ device properties, e.2 = .newConnection device properties
  unanswered : s.replies = []
  served : ∀ call ∈ s.served, ∃ device properties, call = .newConnection device properties

variable {profile : Profile} {s : System} {t : State} {a : ConnectionAgreement.State}
  {calls : List (ℕ × Call)}

theorem advance_eq (bus : t.bus = s.daemon.bus ++ calls) :
    s.advance t = { s with daemon := t, queue := s.queue ++ calls } := by
  simp [System.advance, bus]

theorem Effect.bus {s t : State} (effect : Effect s t) : ∃ calls, t.bus = s.bus ++ calls ∧
    ∀ e ∈ calls, ∃ device properties, e.2 = Call.newConnection device properties := by
  cases effect with
  | quiet same bus => exact ⟨[], by simp [bus], by simp⟩
  | gaveUp serial device bus gone => exact ⟨[], by simp [bus], by simp⟩
  | called device properties bus new => exact ⟨_, bus, by simp⟩

theorem Invariant.advance (before : Invariant s) (effect : Effect s.daemon t) (sound : Sound t)
    (unaccepted : Unaccepted t) : Invariant (s.advance t) := by
  obtain ⟨_, _, serials, sent, travelling, unanswered, served⟩ := before
  obtain ⟨calls, bus, new⟩ := effect.bus
  rw [advance_eq bus]
  have fresh : ((outstanding t.conns).map Prod.fst).Nodup ∧
      ∀ e ∈ outstanding t.conns, e.1 < t.bus.length := by
    cases effect with
    | quiet same bus =>
        refine ⟨(same.map Prod.fst).nodup_iff.mp serials, fun e mem => ?_⟩
        rw [bus]
        exact sent e (same.mem_iff.mpr mem)
    | gaveUp serial device bus gone =>
        refine ⟨((gone.map Prod.fst).nodup_iff.mp serials).of_cons, fun e mem => ?_⟩
        rw [bus]
        exact sent e (gone.mem_iff.mpr (List.mem_cons_of_mem _ mem))
    | called device properties bus new =>
        constructor
        · refine (new.map Prod.fst).nodup_iff.mpr (List.nodup_cons.mpr ⟨fun used => ?_, serials⟩)
          obtain ⟨e, mem, same⟩ := List.mem_map.mp used
          exact (sent e mem).ne same
        · intro e mem
          rw [bus, List.length_append, List.length_singleton]
          rcases List.mem_cons.mp (new.mem_iff.mp mem) with rfl | old
          · exact Nat.lt_succ_self _
          · exact Nat.lt_succ_of_lt (sent e old)
  refine ⟨sound, unaccepted, fresh.1, fresh.2, fun e mem => ?_, unanswered, served⟩
  rcases List.mem_append.mp mem with old | sending
  · exact travelling e old
  · exact new e sending

/-- The steps of the other daemon that answer a change of this one. -/
theorem Refines.advance (before : Invariant s) (refines : Refines s a)
    (effect : Effect s.daemon t) : ∃ labels b,
    run (RemoteCall.step parties) a labels = some b ∧ Refines (s.advance t) b := by
  obtain ⟨listener, issued, queue, replies, served, waits, caller⟩ := refines
  cases effect with
  | quiet same bus =>
      refine ⟨[], a, rfl, ?_⟩
      rw [advance_eq (bus.trans (List.append_nil _).symm), List.append_nil]
      exact ⟨listener, by rw [issued, bus], queue, replies, served, waits.trans same,
        caller.trans (same.map waiting)⟩
  | gaveUp serial device bus gone =>
      have mem : (serial, Profile1Call.newConnection device) ∈ a.outstanding :=
        waits.mem_iff.mpr (gone.mem_iff.mpr List.mem_cons_self)
      obtain ⟨position, found⟩ := List.mem_iff_getElem?.mp mem
      obtain ⟨bound, entry⟩ := List.getElem?_eq_some_iff.mp found
      have rest : (a.outstanding.eraseIdx position).Perm (outstanding t.conns) := by
        have whole := List.getElem_cons_eraseIdx_perm bound
        rw [entry] at whole
        exact (whole.trans (waits.trans gone)).cons_inv
      have single : serial ∉ (outstanding t.conns).map Prod.fst :=
        (List.nodup_cons.mp ((gone.map Prod.fst).nodup_iff.mp before.serials)).1
      have dropped : (a.caller.filter fun conn => serial ∉ conn.pending).Perm
          ((outstanding t.conns).map waiting) := by
        refine ((caller.trans (gone.map waiting)).filter _).trans (List.Perm.of_eq ?_)
        rw [List.map_cons, List.filter_cons_of_neg (by simp [waiting])]
        refine List.filter_eq_self.mpr fun conn cmem => ?_
        obtain ⟨e, emem, rfl⟩ := List.mem_map.mp cmem
        have other : e.1 ≠ serial := fun same => single (same ▸ List.mem_map_of_mem emem)
        obtain ⟨number, call⟩ := e
        cases call <;> simpa [waiting] using other.symm
      have timedOut : RemoteCall.step parties a (.timeOut position) = some { a with
          caller := a.caller.filter fun conn => serial ∉ conn.pending
          outstanding := a.outstanding.eraseIdx position } := by
        simp only [RemoteCall.step, found, Option.bind_eq_bind, Option.bind_some]
        rfl
      refine ⟨[.timeOut position], _, run_singleton.trans timedOut, ?_⟩
      rw [advance_eq (bus.trans (List.append_nil _).symm), List.append_nil]
      exact ⟨listener, by rw [issued, bus], queue, replies, served, rest, dropped⟩
  | called device properties bus new =>
      refine ⟨[.issue (.newConnection device)], _, rfl, ?_⟩
      rw [advance_eq bus]
      refine ⟨listener, ?_, ?_, replies, served, ?_, ?_⟩
      · rw [bus, List.length_append, ← issued]
        rfl
      · rw [queue, issued, List.map_append]
        rfl
      · rw [issued]
        exact (List.perm_append_singleton _ _).trans ((waits.cons _).trans new.symm)
      · rw [issued]
        exact (List.perm_append_singleton _ _).trans ((caller.cons _).trans (new.map waiting).symm)

theorem advance_changes (before : Invariant s) (refines : Refines s a)
    (changes : Changes (silent profile) s.daemon t) : ∃ labels b,
    run (RemoteCall.step parties) a labels = some b ∧
      Invariant (s.advance t) ∧ Refines (s.advance t) b := by
  suffices whole : (∃ calls, t.bus = s.daemon.bus ++ calls) ∧ ∃ labels b,
      run (RemoteCall.step parties) a labels = some b ∧
        Invariant (s.advance t) ∧ Refines (s.advance t) b from whole.2
  induction changes with
  | refl =>
      have same : s.advance s.daemon = s := by simp [System.advance]
      exact ⟨⟨[], by simp⟩, [], a, rfl, same.symm ▸ before, same.symm ▸ refines⟩
  | @tail u t _ change ih =>
      obtain ⟨⟨calls, sent⟩, front, b, hfront, invariant, refines⟩ := ih
      have sound : Sound u := invariant.sound
      have effect : Effect u t := effect_of_change sound invariant.unaccepted change
      obtain ⟨back, c, hback, related⟩ := refines.advance invariant effect
      have after := invariant.advance effect (change.sound sound)
        (invariant.unaccepted.change sound change)
      obtain ⟨more, bus, _⟩ := effect.bus
      have joined : (s.advance u).advance t = s.advance t := by
        rw [advance_eq (s := s.advance u) bus, advance_eq sent,
          advance_eq (bus.trans (by rw [sent, List.append_assoc])), List.append_assoc]
      refine ⟨⟨calls ++ more, by rw [bus, sent, List.append_assoc]⟩, front ++ back, c, ?_,
        joined ▸ after, joined ▸ related⟩
      rw [run_append, hfront]
      exact hback

variable {label : Label} {serial : ℕ} {error : Bool}

theorem repliedLabel_eq_some {s : State} (h : repliedLabel serial error s = some label) :
    ∃ self, label = .newConnReplied self serial error ∨ label = .disconnReplied self serial error := by
  obtain ⟨e, _, rfl⟩ := Option.map_eq_some_iff.mp h
  refine ⟨e.1, ?_⟩
  split
  · exact Or.inl rfl
  · exact Or.inr rfl

/-- The daemon runs on its own, or a pending call fails. -/
theorem step_daemon (before : Invariant s) (refines : Refines s a)
    (allowed : (silent profile).allows s.daemon label) {after : System}
    (h : (ExtProfile.step profile s.daemon label).map s.advance = some after) : ∃ labels b,
    run (RemoteCall.step parties) a labels = some b ∧ Invariant after ∧ Refines after b := by
  obtain ⟨t, hstep, rfl⟩ := Option.map_eq_some_iff.mp h
  exact advance_changes before refines (step_changes before.sound rfl allowed hstep)

theorem step_refines {event : Event} {after : System} (before : Invariant s)
    (refines : Refines s a) (h : step profile s event = some after) : ∃ labels b,
    run (RemoteCall.step parties) a labels = some b ∧ Invariant after ∧ Refines after b := by
  cases event with
  | daemon label =>
      simp only [step, Option.ite_none_left_eq_some] at h
      refine step_daemon before refines ?_ h.2
      cases label <;> simp [Regime.allows, silent, isReply] at h ⊢
  | dispatch position answer =>
      simp only [step, Option.bind_eq_bind, Option.bind_eq_some_iff, Prod.exists,
        Option.some.injEq] at h
      obtain ⟨serial, call, found, listener, answers, served, rfl⟩ := h
      obtain rfl : answers = [] := ConnectionAgreement.parties_silent _ _ _ _ _ served
      have travelled := before.travelling _ (List.mem_of_getElem? found)
      have same : a.queue[position]? = some (serial, profile1Call call) := by
        rw [refines.queue, List.getElem?_map, found]
        rfl
      have taken : parties.serve a.callee answer (profile1Call call) = some (listener, []) := by
        rw [refines.listener]
        exact served
      have dispatched : RemoteCall.step parties a (.dispatch position answer) = some { a with
          callee := listener
          queue := a.queue.eraseIdx position
          replies := a.replies ++ []
          served := a.served ++ [profile1Call call] } := by
        simp only [RemoteCall.step, same, taken, Option.bind_eq_bind, Option.bind_some]
        rfl
      refine ⟨[.dispatch position answer], _, run_singleton.trans dispatched, ?_, ?_⟩
      · refine ⟨before.sound, before.unaccepted, before.serials, before.sent,
          fun e mem => before.travelling e (List.mem_of_mem_eraseIdx mem), ?_, fun e mem => ?_⟩
        · simp [before.unanswered]
        · rcases List.mem_append.mp mem with old | new
          · exact before.served e old
          · rw [List.mem_singleton.mp new]
            exact travelled
      · refine ⟨rfl, refines.issued, ?_, ?_, ?_, refines.waits, refines.caller⟩
        · rw [refines.queue, List.eraseIdx_map]
        · simp [refines.replies]
        · simp [refines.served]
  | deliver position => simp [step, before.unanswered] at h
  | timeOut serial =>
      simp only [step, Option.bind_eq_bind, Option.bind_eq_some_iff] at h
      obtain ⟨label, replied, h⟩ := h
      refine step_daemon before refines ?_ h
      obtain ⟨self, rfl | rfl⟩ := repliedLabel_eq_some replied <;> simp [Regime.allows, silent]

theorem refines_start (w : World) : Invariant (System.start w) ∧
    Refines (System.start w) (RemoteCall.State.start [] w) := by
  refine ⟨⟨sound_initial, ⟨?_, ?_, ?_⟩, ?_, ?_, ?_, rfl, ?_⟩, rfl, rfl, rfl, rfl, rfl, ?_, ?_⟩ <;>
    simp [System.start, State.initial, outstanding, Short, RemoteCall.State.start]

variable {events : List Event} {w : World}

theorem run_related (hrun : run (step profile) (System.start w) events = some s) :
    ∃ labels a, run (RemoteCall.step parties) (RemoteCall.State.start [] w) labels = some a ∧
      Invariant s ∧ Refines s a :=
  run_simulates (R := fun s a => Invariant s ∧ Refines s a)
    (fun _ _ _ _ related h => step_refines related.1 related.2 h) (refines_start w) hrun

/-- Every run of the daemon with the Listener is one of the runs of ConnectionAgreement.lean,
with the same Listener and the same calls travelling, served and waited for. -/
theorem daemon_refines (hrun : run (step profile) (System.start w) events = some s) :
    ∃ labels a, run (RemoteCall.step parties) (RemoteCall.State.start [] w) labels = some a ∧
      Refines s a := by
  obtain ⟨labels, a, answered, _, refines⟩ := run_related hrun
  exact ⟨labels, a, answered, refines⟩

/-- A device that has a service connects and is announced to the Listener, which takes the
descriptor; the call then times out. -/
def announced : List Event :=
  [.daemon (.probe "/org/bluez/hci0/dev_A"),
    .daemon (.confirm "/org/bluez/hci0/dev_A" ⟨true, true⟩),
    .daemon (.authorized 1 ⟨false, false, true⟩),
    .daemon (.connected 1 ⟨none, none, none, true, true⟩), .dispatch 0 (.good 5), .timeOut 0]

theorem daemon_refines_announced : ∃ s,
    run (step ⟨true, 0, 0⟩) (System.start World.listening) announced = some s ∧
    s.daemon.conns = [] ∧ ∃ labels a,
      run (RemoteCall.step parties) (RemoteCall.State.start [] World.listening) labels = some a ∧
        a.served = [.newConnection "/org/bluez/hci0/dev_A"] ∧ a.outstanding = [] := by
  have runs : (run (step ⟨true, 0, 0⟩) (System.start World.listening) announced).map
      (fun s => (s.daemon.conns, s.served)) =
      some ([], [.newConnection "/org/bluez/hci0/dev_A" []]) := by decide
  obtain ⟨s, hs, after⟩ := Option.map_eq_some_iff.mp runs
  rw [Prod.mk.injEq] at after
  obtain ⟨labels, a, answered, refines⟩ := daemon_refines hs
  refine ⟨s, hs, after.1, labels, a, answered, ?_, ?_⟩
  · rw [refines.served, after.2]
    rfl
  · have waits := refines.waits
    rw [after.1] at waits
    exact waits.eq_nil

/-- The Listener never answers, so no device is ever connected for the daemon: no
NewConnection is accepted, no service comes up, and RequestDisconnection is never sent.
The Socket is left with the descriptor of the last device announced to it. -/
theorem never_connected {openNumbers : ℤ → Bool}
    (start : startListening ⟨true, true, true⟩ (Socket.ofFd (-1)) (World.constructed openNumbers) =
      .ok w)
    (hrun : run (step profile) (System.start w) events = some s) :
    (∀ conn ∈ s.daemon.conns, conn.connected = false) ∧
    (∀ service ∈ s.daemon.services, service.state ≠ .connected ∧ service.state ≠ .disconnecting) ∧
    (∀ call ∈ s.served, ∃ device properties, call = .newConnection device properties) ∧
    ∀ device, HoldsFor s.listener device ↔
      ∃ properties, s.served.getLast? = some (.newConnection device properties) := by
  obtain ⟨labels, a, answered, invariant, refines⟩ := run_related hrun
  have tracks : Tracks a.callee a.served :=
    RemoteCall.callee_invariant
      (fun _ _ _ _ _ _ tracks h => ConnectionAgreement.tracks_serve tracks h)
      (ConnectionAgreement.tracks_start start) answered
  refine ⟨invariant.unaccepted.unconnected, invariant.unaccepted.states, invariant.served,
    fun device => ?_⟩
  rw [← refines.listener, tracks.last device, refines.served, List.getLast?_map,
    Option.map_eq_some_iff]
  constructor
  · rintro ⟨call, last, same⟩
    cases call with
    | newConnection other properties =>
        obtain rfl : other = device := by simpa [profile1Call] using same
        exact ⟨properties, last⟩
    | requestDisconnection other => simp [profile1Call] at same
  · rintro ⟨properties, last⟩
    exact ⟨_, last, rfl⟩

theorem never_connected_announced : ∃ s,
    run (step ⟨true, 0, 0⟩) (System.start World.listening) announced = some s ∧
    s.daemon.conns = [] ∧ HoldsFor s.listener "/org/bluez/hci0/dev_A" := by
  have runs : (run (step ⟨true, 0, 0⟩) (System.start World.listening) announced).map
      (fun s => (s.daemon.conns, s.served.getLast?)) =
      some ([], some (.newConnection "/org/bluez/hci0/dev_A" [])) := by decide
  obtain ⟨s, hs, after⟩ := Option.map_eq_some_iff.mp runs
  rw [Prod.mk.injEq] at after
  exact ⟨s, hs, after.1, ((never_connected rfl hs).2.2.2 _).mpr ⟨[], after.2⟩⟩

end Refinement

end BluezTutorial.DaemonListener
