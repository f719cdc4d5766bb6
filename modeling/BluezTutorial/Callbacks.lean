import BluezTutorial.Connections

/-! Every function of ExtProfile.lean is a sequence of changes: none of them reaches
an object that has been freed, and none of the assertions of service.c fails. It
follows that every run is sound. -/

namespace BluezTutorial.ExtProfile
open KeyedList LabelledRun

variable {r : Regime}

section Services

variable {s : State} {services : List Service} {self : ℕ} {service : Service}
  {g g' : ServiceState → ServiceState}

theorem restate_restate {at' : Option ℕ} (err err' : ℤ) :
    restate at' g' err' (restate at' g err services) = restate at' (g' ∘ g) err' services := by
  cases at' with
  | none => rfl
  | some self =>
      simp only [restate, update, List.map_map]
      refine List.map_congr_left fun service _ => ?_
      by_cases h : service.self = self <;> simp [h]

/-- Writing the fields of a service back as they are changes nothing. -/
theorem restate_id (at' : Option ℕ) (distinct : Distinct Service.self services)
    (there : ∀ self, at' = some self → ∃ service ∈ services, service.self = self) :
    ∃ err, restate at' id err services = services := by
  cases at' with
  | none => exact ⟨0, rfl⟩
  | some self =>
      obtain ⟨service, mem, rfl⟩ := there self rfl
      refine ⟨service.err, ?_⟩
      simp only [restate, update]
      conv_rhs => rw [← List.map_id services]
      refine List.map_congr_left fun other omem => ?_
      split
      · next same =>
          rw [distinct.eq_of_key_eq omem mem same]
          rfl
      · rfl

theorem onService_update {f : Service → Option Service} {f' : Service → Service}
    (distinct : Distinct Service.self s.services) (mem : service ∈ s.services)
    (h : f service = some (f' service)) :
    s.onService service.self f =
      { s with services := update Service.self service.self f' s.services } := by
  have found : KeyedList.find Service.self service.self s.services = some service :=
    (find_eq_some distinct).mpr ⟨mem, rfl⟩
  simp only [State.onService, found, Option.bind_some, h]
  congr 1
  refine update_congr fun other omem same => ?_
  rw [distinct.eq_of_key_eq omem mem same]

theorem onService_eq {f : Service → Option Service} {e : ℤ}
    (distinct : Distinct Service.self s.services) (mem : service ∈ s.services)
    (acts : f service = some { service with state := g service.state, err := e }) :
    s.onService service.self f =
      { s with services := restate (some service.self) g e s.services } :=
  onService_update distinct mem acts

theorem onServiceOf_eq {f : Service → Option Service} (acts : Acts f g) (conn : ExtIo)
    {extra : Option ℕ} {conns : List ExtIo} (counted : Counted extra s.services conns)
    (there : ∀ self, conn.service = some self → ∃ service ∈ s.services, service.self = self) :
    ∃ err, s.onServiceOf conn f =
      { s with services := restate conn.service g err s.services } := by
  cases holds : conn.service with
  | none => exact ⟨0, by simp [State.onServiceOf, holds, restate]⟩
  | some self =>
      obtain ⟨service, mem, rfl⟩ := there self holds
      obtain ⟨err, h⟩ := acts service (counted.proper service mem)
      refine ⟨err, ?_⟩
      rw [State.onServiceOf, holds]
      exact onService_eq counted.distinct mem h

theorem btdServiceUnref_eq (distinct : Distinct Service.self s.services)
    (mem : service ∈ s.services) :
    s.btdServiceUnref service.self =
      { s with services := release (some service.self) s.services } := by
  have found : KeyedList.find Service.self service.self s.services = some service :=
    (find_eq_some distinct).mpr ⟨mem, rfl⟩
  simp only [State.btdServiceUnref, release, found]
  split <;> rfl

end Services

section Drops

variable {s : State} {conn conn' : ExtIo} {hook : Hook} {g : ServiceState → ServiceState}

/-- Once the hook that a connection waited for has run, only its watch is left. -/
theorem own_of_mem_erase (sound : Sound s) (mem : conn ∈ s.conns) (stage : conn.At hook)
    {other : Hook} (h : (conn.self, other) ∈ s.hooks.erase (conn.self, hook)) :
    other = .watch ∧ conn.ioId = true := by
  refine (sound.wired.own mem (List.mem_of_mem_erase h)).resolve_right fun still => ?_
  rw [stage.unique still, sound.wired.nodup.mem_erase_iff] at h
  exact h.1 rfl

theorem erase_eq_filter_awaits (sound : Sound s) (stage : conn.At hook) :
    s.hooks.erase (conn.self, hook) =
      s.hooks.filter (fun e => ¬ (e.1 = conn.self ∧ conn.awaits = some e.2)) := by
  rw [sound.wired.nodup.erase_eq_filter]
  refine List.filter_congr fun e _ => ?_
  rw [awaits_eq_some_iff.mpr stage]
  obtain ⟨self, other⟩ := e
  by_cases h : self = conn.self
  · subst h
    by_cases fired : other = hook
    · simp [fired]
    · simp [fired, Ne.symm fired]
  · simp [h]

theorem Sound.there (sound : Sound s) (mem : conn ∈ s.conns) (self : ℕ)
    (holds : conn.service = some self) : ∃ service ∈ s.services, service.self = self := by
  obtain ⟨service, smem, hself, _⟩ := sound.counted.held conn mem self holds
  exact ⟨service, smem, hself⟩

/-- A connection on its way out, with its fields and what is left of the hooks. -/
structure Leaving (s : State) (conn conn' : ExtIo) (left : List (ℕ × Hook)) : Prop where
  self : conn'.self = conn.self
  device : conn'.device = conn.device
  service : conn'.service = conn.service
  resolving : conn'.resolving = true → conn.resolving = true
  nodup : left.Nodup
  mine : ∀ hook, (conn.self, hook) ∈ left → conn'.Cancels hook
  others : left.filter (·.1 ≠ conn.self) = s.hooks.filter (·.1 ≠ conn.self)

theorem Sound.names (sound : Sound s) (mem : conn ∈ s.conns) (h : (conn.self, hook) ∈ s.hooks) :
    conn.Cancels hook := by
  rcases sound.wired.own mem h with ⟨rfl, watched⟩ | stage
  · exact watched
  · exact stage.cancels (sound.wired.shaped conn mem)

theorem leaving_whole (sound : Sound s) (mem : conn ∈ s.conns) : Leaving s conn conn s.hooks :=
  ⟨rfl, rfl, rfl, id, sound.wired.nodup, fun _ => sound.names mem, rfl⟩

theorem leaving_unwatched (sound : Sound s) (mem : conn ∈ s.conns) :
    Leaving s conn conn (s.hooks.erase (conn.self, .watch)) :=
  ⟨rfl, rfl, rfl, id, sound.wired.nodup.erase _,
    fun _ h => sound.names mem (List.mem_of_mem_erase h), filter_erase_ne sound.wired.nodup⟩

theorem leaving_fired (conn' : ExtIo) (sound : Sound s) (mem : conn ∈ s.conns)
    (stage : conn.At hook) (self : conn'.self = conn.self) (device : conn'.device = conn.device)
    (service : conn'.service = conn.service) (ioId : conn'.ioId = conn.ioId)
    (resolving : conn'.resolving = true → conn.resolving = true) :
    Leaving s conn conn' (s.hooks.erase (conn.self, hook)) := by
  refine ⟨self, device, service, resolving, sound.wired.nodup.erase _, ?_,
    filter_erase_ne sound.wired.nodup⟩
  intro other h
  obtain ⟨rfl, watched⟩ := own_of_mem_erase sound mem stage h
  exact ioId.trans watched

theorem leaving_watched (sound : Sound s) (mem : conn ∈ s.conns) (stage : conn.At .io)
    (unwatched : conn.ioId = false) :
    Leaving s conn { conn with ioId := true }
      (s.hooks.erase (conn.self, .io) ++ [(conn.self, .watch)]) := by
  refine ⟨rfl, rfl, rfl, id, ?_, ?_, ?_⟩
  · refine List.Nodup.append (sound.wired.nodup.erase _) (List.nodup_singleton _) ?_
    intro e old new
    obtain rfl := List.mem_singleton.mp new
    simpa [unwatched] using (own_of_mem_erase sound mem stage old).2
  · intro other h
    rcases List.mem_append.mp h with old | new
    · obtain ⟨rfl, _⟩ := own_of_mem_erase sound mem stage old
      exact rfl
    · cases List.mem_singleton.mp new
      exact rfl
  · rw [List.filter_append, filter_erase_ne sound.wired.nodup]
    simp

variable {left : List (ℕ × Hook)}

/-- Dropping a connection, whatever has become of its hooks and of the services in the
meantime. -/
theorem drop_eq (sound : Sound s) (mem : conn ∈ s.conns) (leaving : Leaving s conn conn' left)
    {services : List Service} (distinct : Distinct Service.self services)
    (there : ∀ self, conn.service = some self → ∃ service ∈ services, service.self = self) :
    drop conn' { s with hooks := left, services := services } =
      { s with
        conns := KeyedList.remove ExtIo.self conn.self s.conns
        hooks := s.hooks.filter (·.1 ≠ conn.self)
        services := release conn.service services } := by
  simp only [drop, extIoDestroy, leaving.self, leaving.service,
    sound.wired.unhook mem leaving.self leaving.device leaving.resolving leaving.nodup
      leaving.mine leaving.others]
  cases holds : conn.service with
  | none => rfl
  | some address =>
      obtain ⟨service, smem, rfl⟩ := there address holds
      exact btdServiceUnref_eq (s := { s with
        conns := KeyedList.remove ExtIo.self conn.self s.conns
        hooks := s.hooks.filter (·.1 ≠ conn.self)
        services := services }) distinct smem

/-- The connection's service moves, perhaps for the second time, and it goes. -/
theorem drop_onServiceOf_eq (sound : Sound s) (mem : conn ∈ s.conns)
    (leaving : Leaving s conn conn' left) {f : Service → Option Service}
    {k : ServiceState → ServiceState} (acts : Acts f g) (keeps₀ : KeepsRemoved k) (err₀ : ℤ)
    (keeps : KeepsRemoved (g ∘ k)) : ∃ err,
    drop conn' (State.onServiceOf conn' f
      { s with hooks := left, services := restate conn.service k err₀ s.services }) =
      { s with
        conns := KeyedList.remove ExtIo.self conn.self s.conns
        hooks := s.hooks.filter (·.1 ≠ conn.self)
        services := release conn.service (restate conn.service (g ∘ k) err s.services) } := by
  have counted := sound.counted.restate keeps₀ conn.service err₀
  obtain ⟨err, moved⟩ := onServiceOf_eq (s := { s with
      hooks := left, services := restate conn.service k err₀ s.services })
    acts conn' counted (leaving.service ▸ sound.counted.there mem k err₀)
  refine ⟨err, ?_⟩
  rw [moved, leaving.service, restate_restate, drop_eq sound mem leaving
    (sound.counted.restate keeps conn.service err).distinct (sound.counted.there mem _ err)]

theorem change_onServiceOf_drop (sound : Sound s) (mem : conn ∈ s.conns)
    (leaving : Leaving s conn conn' left) {f : Service → Option Service}
    {k : ServiceState → ServiceState} (acts : Acts f g) (keeps : KeepsRemoved k) (err₀ : ℤ)
    (ending : Ending r s conn (g ∘ k)) :
    Change r s (drop conn' (State.onServiceOf conn' f
      { s with hooks := left, services := restate conn.service k err₀ s.services })) := by
  obtain ⟨err, dropped⟩ := drop_onServiceOf_eq sound mem leaving acts keeps err₀ ending.keeps
  rw [dropped]
  exact .dropped conn mem _ ending err

theorem change_onServiceOf (sound : Sound s) (mem : conn ∈ s.conns)
    (leaving : Leaving s conn conn' left) {f : Service → Option Service} (acts : Acts f g)
    (ending : Ending r s conn g) :
    Change r s (drop conn' (State.onServiceOf conn' f { s with hooks := left })) := by
  obtain ⟨err, same⟩ := restate_id _ sound.counted.distinct (sound.there mem)
  have change := change_onServiceOf_drop (k := id) sound mem leaving acts (fun _ => Iff.rfl) err
    ending
  rwa [same] at change

theorem change_drop (sound : Sound s) (mem : conn ∈ s.conns)
    (leaving : Leaving s conn conn' left) (ending : Ending r s conn id) :
    Change r s (drop conn' { s with hooks := left }) := by
  obtain ⟨err, same⟩ := restate_id _ sound.counted.distinct (sound.there mem)
  have change := Change.dropped (r := r) conn mem id ending err
  rw [same] at change
  rw [drop_eq sound mem leaving sound.counted.distinct (sound.there mem)]
  exact change

end Drops

section Callbacks

variable {s t : State} {conn : ExtIo} {hook : Hook} {self : ℕ}

/-- A hook runs on a connection that is there and that names it. -/
theorem fire_eq_some (sound : Sound s) {callback : ExtIo → State → State}
    (h : fire self hook callback s = some t) : ∃ conn ∈ s.conns, conn.self = self ∧
    (hook = .watch ∨ conn.At hook) ∧
    t = callback conn { s with hooks := s.hooks.erase (conn.self, hook) } := by
  unfold fire at h
  split at h
  · next set =>
      obtain ⟨conn, mem, rfl, names⟩ := sound.wired.owned self hook set
      have found : KeyedList.find ExtIo.self conn.self s.conns = some conn :=
        (find_eq_some sound.wired.distinct).mpr ⟨mem, rfl⟩
      simp only [found, Option.some.injEq] at h
      exact ⟨conn, mem, rfl, names.imp_left And.left, h.symm⟩
  · cases h

theorem extIoDisconnected_change (sound : Sound s) (mem : conn ∈ s.conns) (nval : Bool) :
    Change r s (extIoDisconnected nval conn
      { s with hooks := s.hooks.erase (conn.self, .watch) }) := by
  cases nval with
  | true => exact .unwatched conn.self
  | false =>
      exact change_onServiceOf sound mem (leaving_unwatched sound mem) hangUp_acts .hungUp

theorem newConnReply_change (sound : Sound s) (mem : conn ∈ s.conns) {serial : ℕ}
    (stage : conn.At (.newConnReply serial)) (error : Bool) (allowed : error = true ∨ r.accepting) :
    Change r s (newConnReply error conn
      { s with hooks := s.hooks.erase (conn.self, .newConnReply serial) }) := by
  obtain ⟨auth, resolving, pending, connected⟩ := id stage
  cases error with
  | true =>
      have leaving := leaving_fired { conn with pending := none } sound mem stage
        rfl rfl rfl rfl id
      exact change_onServiceOf sound mem leaving (connectingComplete_acts _)
        (.failed auth connected)
  | false =>
      have there := sound.there mem
      obtain ⟨err, moved⟩ := onServiceOf_eq
        (s := { s with hooks := s.hooks.erase (conn.self, .newConnReply serial) })
        (connectingComplete_acts 0) { conn with pending := none } sound.counted there
      have change := Change.moved (r := r) conn mem _
        (.accepted (allowed.resolve_left (by simp)) serial stage) err
      simp only [newConnReply, Bool.false_eq_true, if_false, moved, State.keep]
      rw [erase_eq_filter_awaits sound stage]
      simpa using change

theorem disconnReply_change (sound : Sound s) (mem : conn ∈ s.conns) {serial : ℕ}
    (stage : conn.At (.disconnReply serial)) (error : Bool) (allowed : error = false ∨ r.refusing) :
    Change r s (disconnReply error conn
      { s with hooks := s.hooks.erase (conn.self, .disconnReply serial) }) := by
  have leaving := leaving_fired { conn with pending := none } sound mem stage
    rfl rfl rfl rfl id
  refine change_onServiceOf sound mem leaving (disconnectingComplete_acts _)
    (.disconnected serial stage _ (allowed.imp_left ?_))
  rintro rfl
  rfl

theorem extAuth_change (sound : Sound s) (mem : conn ∈ s.conns)
    (stage : conn.At .authorization) (answer : AuthAnswer) :
    Change r s (extAuth answer conn
      { s with hooks := s.hooks.erase (conn.self, .authorization) }) := by
  unfold extAuth
  simp only []
  split
  · exact change_drop sound mem
      (leaving_fired { conn with authId := false } sound mem stage rfl rfl rfl rfl id)
      (.rejected stage)
  · have change := Change.moved (r := r) conn mem _ (.authorized stage) 0
    simp only [State.hook, State.keep]
    rw [erase_eq_filter_awaits sound stage]
    simpa [restate] using change

theorem failing_acts (code : ℤ) (h : code ≠ 0) :
    Acts (btdServiceConnectingComplete code) (completeConnecting false) := by
  have acts := connectingComplete_acts code
  rwa [decide_eq_false h] at acts

/-- The loop over the records touches four fields. -/
theorem readRecords_eq_some {records : List Record} {conn' : ExtIo}
    (h : readRecords records conn = some conn') : ∃ version features psm chan,
    conn' = { conn with version := version, features := features, psm := psm, chan := chan } := by
  induction records generalizing conn with
  | nil =>
      obtain rfl : conn = conn' := by simpa [readRecords] using h
      exact ⟨_, _, _, _, rfl⟩
  | cons record records ih =>
      unfold readRecords at h
      split at h
      · cases h
      · next protos _ =>
          have first : ∃ version features psm chan, readRecord record protos conn =
              { conn with
                version := version, features := features, psm := psm, chan := chan } := by
            unfold readRecord
            simp only []
            repeat' split
            all_goals exact ⟨_, _, _, _, rfl⟩
          obtain ⟨version, features, psm, chan, read⟩ := first
          rw [read] at h
          simp only [] at h
          split at h
          · cases h
            exact ⟨_, _, _, _, rfl⟩
          · obtain ⟨_, _, _, _, rfl⟩ := ih h
            exact ⟨_, _, _, _, rfl⟩

theorem recordCb_change (sound : Sound s) (mem : conn ∈ s.conns)
    (stage : conn.At (.search conn.device)) (answer : RecordAnswer) :
    Change r s (recordCb answer conn
      { s with hooks := s.hooks.erase (conn.self, .search conn.device) }) := by
  obtain ⟨auth, resolving, _⟩ := id stage
  have connected := (sound.wired.shaped conn mem).search resolving |>.2
  have failed : ∀ code : ℤ, code ≠ 0 → ∀ version features psm chan : ℕ,
      Change r s (dropResolving code { conn with
        resolving := false, version := version, features := features, psm := psm, chan := chan }
        { s with hooks := s.hooks.erase (conn.self, .search conn.device) }) := by
    intro code h version features psm chan
    have leaving := leaving_fired { conn with
      resolving := false, version := version, features := features, psm := psm, chan := chan }
      sound mem stage rfl rfl rfl rfl (by simp)
    exact change_onServiceOf sound mem leaving (failing_acts _ h) (.failed auth connected)
  have unsupported : (-ENOTSUP : ℤ) ≠ 0 := by decide
  unfold recordCb
  simp only []
  split
  · next err _ => exact failed _ (by have := err.2; omega) _ _ _ _
  · split
    · exact failed _ unsupported _ _ _ _
    · split
      · exact failed _ unsupported _ _ _ _
      · next read =>
          obtain ⟨version, features, psm, chan, rfl⟩ := readRecords_eq_some read
          split
          · exact failed _ unsupported _ _ _ _
          · cases connecting : answer.connecting with
            | false =>
                simp only [connectIo, Bool.false_eq_true, if_false]
                rw [if_pos (by decide)]
                exact failed _ (by decide) _ _ _ _
            | true =>
                have change := Change.moved (r := r) conn mem _
                  (.resolved stage version features psm chan) 0
                simp only [connectIo, if_true, lt_self_iff_false, if_false, State.hook, State.keep]
                rw [erase_eq_filter_awaits sound stage]
                simpa [restate] using change

/-- A service that refuses is left as it is; the others become connecting. -/
theorem refusesConnecting_eq_false (sound : Sound s)
    (h : refusesConnecting conn s = false) (service : Service) (smem : service ∈ s.services)
    (holds : conn.service = some service.self) :
    service.state ≠ .unavailable ∧ service.state ≠ .disconnecting := by
  have found : KeyedList.find Service.self service.self s.services = some service :=
    (find_eq_some sound.counted.distinct).mpr ⟨smem, rfl⟩
  simp only [refusesConnecting, holds, Option.bind_some, found, decide_eq_false_iff_not] at h
  constructor <;> intro state <;> simp [serviceSetConnecting, state, EINVAL, EBUSY] at h

theorem completeConnecting_setConnecting :
    completeConnecting false ∘ setConnecting = completeConnecting false := by
  funext state
  cases state <;> rfl

/-- The part of `ext_connect` in which the call is made, for a connection whose watch
is set. -/
theorem announce_change (sound : Sound s) (mem : conn ∈ s.conns) (stage : conn.At .io)
    {left : List (ℕ × Hook)} (leaving : Leaving s conn { conn with ioId := true } left)
    (hleft : left = s.hooks.erase (conn.self, .io) ++
      (if conn.ioId then [] else [Hook.watch]).map (conn.self, ·))
    (answer : SendAnswer) :
    Change r s (announce answer { conn with ioId := true } { s with hooks := left }) := by
  obtain ⟨auth, resolving, pending, connected⟩ := id stage
  have there := sound.there mem
  obtain ⟨err, moved⟩ := onServiceOf_eq (s := { s with hooks := left })
    setConnecting_acts { conn with ioId := true } sound.counted there
  -- whatever goes wrong from here on, the service ends up as if nothing had been tried
  have failed : ∀ version features : ℕ, Change r s (dropConnecting none
      { conn with ioId := true, version := version, features := features }
      { s with
        hooks := left
        services := restate conn.service setConnecting err s.services }) := by
    intro version features
    refine change_onServiceOf_drop sound mem ?_ (failing_acts (- EIO) (by decide))
      setConnecting_keeps err ?_
    · exact ⟨rfl, rfl, rfl, id, leaving.nodup, fun hook h => by
          have := leaving.mine hook h
          cases hook <;> exact this, leaving.others⟩
    · rw [completeConnecting_setConnecting]
      exact .failed auth connected
  unfold announce
  simp only [moved]
  cases refused : refusesConnecting { conn with ioId := true } { s with hooks := left } with
  | true => exact failed conn.version conn.features
  | false =>
      have willing := refusesConnecting_eq_false sound
        (show refusesConnecting conn s = false from refused)
      have called : ∀ version features : ℕ, ∀ properties : List (String × ℕ), Change r s
          (State.keep { conn with
            ioId := true, version := version, features := features,
            pending := some s.bus.length }
          (State.hook conn.self (.newConnReply s.bus.length) { s with
            hooks := left
            bus := s.bus ++ [(s.bus.length, .newConnection conn.device properties)]
            services := restate conn.service setConnecting err s.services })) := by
        intro version features properties
        have change := Change.moved (r := r) conn mem _
          (.called stage version features properties willing) err
        rw [List.map_append, ← List.append_assoc, ← erase_eq_filter_awaits sound stage,
          ← hleft] at change
        exact change
      simp only [Bool.false_eq_true, if_false, sendNewConnection]
      cases answer.created with
      | false => exact failed conn.version conn.features
      | true =>
          cases answer.sent with
          | false =>
              cases answer.record with
              | none => exact failed conn.version conn.features
              | some record => exact failed record.2 record.1
          | true =>
              cases answer.record with
              | none => exact called conn.version conn.features _
              | some record => exact called record.2 record.1 _

theorem extConnect_change (sound : Sound s) (mem : conn ∈ s.conns) (stage : conn.At .io)
    (answer : ConnectAnswer) :
    Change r s (extConnect answer conn { s with hooks := s.hooks.erase (conn.self, .io) }) := by
  obtain ⟨auth, _, _, connected⟩ := id stage
  unfold extConnect
  split
  · next error =>
      have leaving := leaving_fired conn sound mem stage rfl rfl rfl rfl id
      have code : ∀ err : Errno, (-err.1 : ℤ) ≠ 0 := fun err => by
        have := err.2
        omega
      refine change_onServiceOf sound mem leaving (failing_acts _ ?_) (.failed auth connected)
      cases herr : answer.err with
      | some err => exact code err
      | none =>
          cases hio : answer.ioErr with
          | some err => exact code err
          | none => simp [herr, hio] at error
  · cases watched : conn.ioId with
    | true =>
        have leaving := leaving_fired { conn with ioId := true } sound mem stage rfl rfl rfl
          watched.symm id
        have change := announce_change (r := r) sound mem stage leaving (by simp [watched]) answer.send
        have same : { conn with ioId := true } = conn := by rw [← watched]
        rw [same] at change
        exact change
    | false =>
        exact announce_change sound mem stage (leaving_watched sound mem stage watched)
          (by simp [watched]) answer.send

end Callbacks

section Requests

variable {s t : State} {device : ObjectPath} {service : Service}

theorem onService_ref (distinct : Distinct Service.self s.services) (mem : service ∈ s.services) :
    s.onService service.self (some ∘ State.serviceRef) =
      { s with services := acquire (some service.self) s.services } :=
  onService_update distinct mem rfl

theorem findService_eq_some (h : findService device s = some service) :
    service ∈ s.services ∧ service.device = some device :=
  ⟨List.mem_of_find?_eq_some h, by simpa using List.find?_some h⟩

theorem fresh_hook (sound : Sound s) (hook : Hook) : (s.allocated, hook) ∉ s.hooks := by
  intro h
  obtain ⟨conn, mem, same, _⟩ := sound.wired.owned s.allocated hook h
  exact (sound.connAllocated conn mem).ne same

/-- The state with a new connection whose last hook is about to run. -/
theorem erase_concat_pair (sound : Sound s) (hook : Hook) (ne : hook ≠ .watch) :
    (s.hooks ++ [(s.allocated, .watch), (s.allocated, hook)]).erase (s.allocated, hook) =
      s.hooks ++ [(s.allocated, Hook.watch)] := by
  rw [List.erase_append_right _ (fresh_hook sound hook)]
  simp [ne.symm]

theorem createConn_eq_some {profile : Profile} {known : Bool} {conn : ExtIo} (sound : Sound s)
    (h : createConn profile known device s = some (conn, t)) :
    ∃ service, conn =
      ⟨s.allocated, device, service, true, true, false, false, false, none, 0, 0, 0, 0⟩ ∧
      service.isSome = profile.enableClient ∧
      (∀ self, service = some self →
        ∃ listed ∈ s.services, listed.self = self ∧ listed.device = some device) ∧
      t = { s with
        allocated := s.allocated + 1
        hooks := s.hooks ++ [(s.allocated, .watch)]
        services := acquire service s.services } := by
  unfold createConn at h
  simp only [] at h
  split at h
  · cases h
  · split at h
    · next server =>
        cases h
        exact ⟨none, rfl, by simpa using server, by simp, rfl⟩
    · next client =>
        split at h
        · cases h
        · next service found =>
          obtain ⟨mem, hdevice⟩ := findService_eq_some found
          cases h
          refine ⟨some service.self, rfl, by simpa using client, ?_, ?_⟩
          · rintro self ⟨⟩
            exact ⟨service, mem, rfl, hdevice⟩
          · exact onService_ref (s := State.hook s.allocated .watch
              { s with allocated := s.allocated + 1 }) sound.counted.distinct mem

/-- The change that adds an incoming connection, with the hooks as they are set. -/
theorem change_incoming (sound : Sound s) {at' : Option ℕ} (authorizing : Bool)
    (serves : at'.isSome = r.client) (allowed : findConnection device s = none ∨ r.crowded)
    (listed : ∀ self, at' = some self →
      ∃ service ∈ s.services, service.self = self ∧ service.device = some device) :
    Change r s { s with
      conns := s.conns ++ [⟨s.allocated, device, at', true, true, authorizing, false, false, none,
        0, 0, 0, 0⟩]
      hooks := s.hooks ++ [(s.allocated, .watch),
        (s.allocated, if authorizing then .authorization else .io)]
      allocated := s.allocated + 1
      services := acquire at' s.services } := by
  have distinct := (sound.counted.acquire at').distinct
  obtain ⟨err, same⟩ := restate_id at' distinct fun self holds => by
    obtain ⟨service, mem, rfl, _⟩ := listed self holds
    rw [holds]
    exact ⟨_, List.mem_map_of_mem mem, by simp [State.serviceRef]⟩
  have change := Change.added (r := r) _ id _ (.incoming device at' authorizing serves allowed) err listed
  simp only [same] at change
  exact change

theorem remove_concat_fresh (sound : Sound s) {conn : ExtIo} (self : conn.self = s.allocated) :
    KeyedList.remove ExtIo.self s.allocated (s.conns ++ [conn]) = s.conns := by
  rw [KeyedList.remove, List.filter_append, List.filter_eq_self.mpr]
  · simp [self]
  · intro other mem
    simpa using (sound.connAllocated other mem).ne

theorem extConfirm_changes (sound : Sound s) {profile : Profile}
    (client : profile.enableClient = r.client)
    (allowed : findConnection device s = none ∨ r.crowded) (answer : ConfirmAnswer) :
    Changes r s (extConfirm profile answer device s) := by
  unfold extConfirm
  cases created : createConn profile answer.known device s with
  | none => exact .refl
  | some made =>
      obtain ⟨conn, t⟩ := made
      obtain ⟨at', rfl, serves, listed, rfl⟩ := createConn_eq_some sound created
      have added := change_incoming (r := r) sound true (serves.trans client) allowed listed
      cases answer.authorizing with
      | true =>
          refine Relation.ReflTransGen.single ?_
          simpa [State.hook, List.append_assoc] using added
      | false =>
          -- the connection was never in the list: it is added and rejected at once
          have after := added.sound sound
          refine (Relation.ReflTransGen.single added).tail ?_
          have mem : (⟨s.allocated, device, at', true, true, true, false, false, none,
              0, 0, 0, 0⟩ : ExtIo) ∈ s.conns ++ [⟨s.allocated, device, at', true, true, true,
              false, false, none, 0, 0, 0, 0⟩] := by simp
          have stage : (⟨s.allocated, device, at', true, true, true, false, false, none,
              0, 0, 0, 0⟩ : ExtIo).At .authorization := rfl
          have leaving := leaving_fired ⟨s.allocated, device, at', true, true, false, false,
            false, none, 0, 0, 0, 0⟩ after mem stage rfl rfl rfl rfl id
          have change := change_drop (r := r) after mem leaving (.rejected stage)
          rw [if_pos rfl, erase_concat_pair sound _ (by simp), drop,
            remove_concat_fresh sound rfl] at change
          exact change

theorem extDirectConnect_changes (sound : Sound s) {profile : Profile}
    (client : profile.enableClient = r.client)
    (allowed : findConnection device s = none ∨ r.crowded) (known : Bool)
    (answer : ConnectAnswer) : Changes r s (extDirectConnect profile known answer device s) := by
  unfold extDirectConnect
  cases created : createConn profile known device s with
  | none => exact .refl
  | some made =>
      obtain ⟨conn, t⟩ := made
      obtain ⟨at', rfl, serves, listed, rfl⟩ := createConn_eq_some sound created
      have added := change_incoming (r := r) sound false (serves.trans client) allowed listed
      have after := added.sound sound
      have mem : (⟨s.allocated, device, at', true, true, false, false, false, none,
          0, 0, 0, 0⟩ : ExtIo) ∈ s.conns ++ [⟨s.allocated, device, at', true, true, false,
          false, false, none, 0, 0, 0, 0⟩] := by simp
      have change := extConnect_change (r := r) after mem ⟨rfl, rfl, rfl, rfl⟩ answer
      simp only [Bool.false_eq_true, if_false, erase_concat_pair sound .io (by simp)]
        at change
      exact (Relation.ReflTransGen.single added).tail change

theorem probeService_change (sound : Sound s) (client : r.client = true) (new : findService device s = none) :
    Change r s (probeService device s) := by
  have distinct : Distinct Service.self (s.services ++ [serviceCreate s.allocated device]) :=
    sound.counted.distinct.concat fun other mem => (sound.serviceAllocated other mem).ne
  have probed := onService_eq (s := { s with
      allocated := s.allocated + 1
      services := s.services ++ [serviceCreate s.allocated device] })
    (g := fun _ => .disconnected) (f := changeState .disconnected 0) (e := 0) distinct
    (List.mem_append_right _ (List.mem_singleton.mpr rfl)) rfl
  have change := Change.probed device client new
  convert change using 1
  rw [probeService, serviceProbe]
  refine probed.trans ?_
  congr 1
  rw [restate, update, List.map_append]
  congr 1
  · conv_rhs => rw [← List.map_id s.services]
    exact List.map_congr_left fun other mem => if_neg (sound.serviceAllocated other mem).ne
  · simp [serviceCreate]

/-- A function of states is only applied to the state of the service in question. -/
theorem restate_congr {services : List Service} {g k : ServiceState → ServiceState} (err : ℤ)
    (distinct : Distinct Service.self services) (mem : service ∈ services)
    (same : g service.state = k service.state) :
    restate (some service.self) g err services = restate (some service.self) k err services :=
  update_congr fun other omem h => by rw [distinct.eq_of_key_eq omem mem h, same]

/-- A connection that device.c asked for, with its service on the way up. -/
theorem change_connecting (sound : Sound s) (mem : service ∈ s.services)
    (hdevice : service.device = some device) (state : service.state = .disconnected)
    (alone : findConnection device s = none) (psm chan : ℕ) (resolving : Bool) :
    Change r s (State.onService service.self (changeState .connecting 0) { s with
      conns := s.conns ++ [⟨s.allocated, device, some service.self, !resolving, false, false,
        resolving, false, none, 0, 0, psm, chan⟩]
      hooks := s.hooks ++ [(s.allocated, if resolving then .search device else .io)]
      allocated := s.allocated + 1
      services := acquire (some service.self) s.services }) := by
  have distinct := (sound.counted.acquire (some service.self)).distinct
  have held : State.serviceRef service ∈ acquire (some service.self) s.services :=
    (mem_update sound.counted.distinct mem).mpr (Or.inr rfl)
  have acts : changeState .connecting 0 (State.serviceRef service) =
      some { State.serviceRef service with
        state := setConnecting (State.serviceRef service).state, err := 0 } := by
    simp [changeState, State.serviceRef, state, hdevice, setConnecting]
  have change := Change.added (r := r) _ setConnecting _
    (.connecting service mem device alone state psm chan resolving) 0 (by
      rintro self ⟨⟩
      exact ⟨service, mem, rfl, hdevice⟩)
  have moved := onService_eq (s := { s with
      conns := s.conns ++ [⟨s.allocated, device, some service.self, !resolving, false, false,
        resolving, false, none, 0, 0, psm, chan⟩]
      hooks := s.hooks ++ [(s.allocated, if resolving then .search device else .io)]
      allocated := s.allocated + 1
      services := acquire (some service.self) s.services }) distinct held acts
  rw [show (State.serviceRef service).self = service.self from rfl] at moved
  rw [moved]
  exact change

theorem btdServiceConnect_changes (sound : Sound s) (mem : service ∈ s.services)
    (hdevice : service.device = some device) (profile : Profile) (err : Option Errno) :
    Changes r s (btdServiceConnect profile err service device s).2 := by
  unfold btdServiceConnect
  cases state : service.state with
  | unavailable => exact .refl
  | connecting => exact .refl
  | connected => exact .refl
  | disconnecting => exact .refl
  | disconnected =>
      simp only [extConnectDev]
      cases alone : findConnection device s with
      | some conn => exact .refl
      | none =>
          have refs : ∀ hook : ℕ × Hook, State.onService service.self (some ∘ State.serviceRef)
              { s with hooks := s.hooks ++ [hook], allocated := s.allocated + 1 } = { s with
                hooks := s.hooks ++ [hook], allocated := s.allocated + 1
                services := acquire (some service.self) s.services } :=
            fun hook => onService_ref (s := { s with
              hooks := s.hooks ++ [hook], allocated := s.allocated + 1 })
              sound.counted.distinct mem
          have connecting := change_connecting (r := r) sound mem hdevice state alone
          by_cases known : profile.remotePsm ≠ 0 ∨ profile.remoteChan ≠ 0
          · cases err with
            | some err =>
                simp only [known, connectIo, Option.isNone_some, Bool.false_eq_true, if_false,
                  if_true, Option.isSome_none]
                exact .refl
            | none =>
                refine Relation.ReflTransGen.single ?_
                simpa [known, connectIo, State.hook, refs] using
                  connecting profile.remotePsm profile.remoteChan false
          · cases err with
            | some err =>
                have negative : -err.1 < 0 := by
                  have := err.2
                  omega
                have nonzero : -err.1 ≠ 0 := negative.ne
                simp only [known, if_false, Option.isSome_none, Bool.false_eq_true, negative,
                  if_true, nonzero]
                exact .refl
            | none =>
                refine Relation.ReflTransGen.single ?_
                simpa [known, State.hook, refs] using connecting 0 0 true

theorem findConnection_eq_some {conn : ExtIo} (h : findConnection device s = some conn) :
    conn ∈ s.conns ∧ conn.device = device :=
  ⟨List.mem_of_find?_eq_some h, by simpa using List.find?_some h⟩

/-- No call could be sent: the service is asked to disconnect and answers at once. -/
theorem change_answered (sound : Sound s) (mem : service ∈ s.services)
    (moving : onActive .disconnecting service.state = .disconnecting) (err₀ code : ℤ)
    {g : ServiceState → ServiceState} (answer : Answer s service g)
    (same : completeDisconnecting (code = 0) .disconnecting = g service.state) :
    Change r s (State.onService service.self (btdServiceDisconnectingComplete code) { s with
      services := restate (some service.self) (onActive .disconnecting) err₀ s.services }) := by
  have counted := sound.counted.restate (onActive_keeps (t := .disconnecting) (by simp))
    (some service.self) err₀
  have held : { service with state := onActive .disconnecting service.state, err := err₀ } ∈
      restate (some service.self) (onActive .disconnecting) err₀ s.services :=
    (mem_update sound.counted.distinct mem).mpr (Or.inr rfl)
  obtain ⟨err, acts⟩ := disconnectingComplete_acts code _ (counted.proper _ held)
  have second := onService_eq (s := { s with
      services := restate (some service.self) (onActive .disconnecting) err₀ s.services })
    counted.distinct held acts
  refine (congrArg (Change r s) second).mpr ?_
  rw [restate_restate, restate_congr err sound.counted.distinct mem (k := g)
    (by rw [Function.comp_apply, moving, same])]
  exact .answered service mem g answer err

theorem btdServiceDisconnect_changes (sound : Sound s) (mem : service ∈ s.services)
    (hdevice : service.device = some device) (answer : SendAnswer) :
    Changes r s (btdServiceDisconnect answer service device s).2 := by
  have live : service.device.isSome = true := by simp [hdevice]
  have asked : service.state = .connecting ∨ service.state = .connected → Change r s
      (let out := extDisconnectDev answer device
        (s.onService service.self (changeState .disconnecting 0))
      if out.1 = 0 then (0, out.2)
      else if out.1 = -ENOTCONN then
        (0, out.2.onService service.self (btdServiceDisconnectingComplete 0))
      else (out.1, out.2.onService service.self (btdServiceDisconnectingComplete out.1))).2 := by
    intro active
    obtain ⟨err₀, acts⟩ := changeState_acts .disconnecting 0 live
    have moving : onActive .disconnecting service.state = .disconnecting := by
      rcases active with h | h <;> simp [h, onActive]
    have first := onService_eq (g := onActive .disconnecting) sound.counted.distinct mem
      (by rw [moving]; exact acts)
    have refused : (∀ conn, findConnection device s = some conn → conn.connected = false) →
        Answer s service (onActive .disconnected) := by
      refine fun h => .unconnected fun other conn hother found => h conn ?_
      rwa [Option.some.inj (hdevice.symm.trans hother)]
    have refusal := fun h => change_answered (r := r) sound mem moving err₀ 0 (refused h)
      (by rcases active with h | h <;> simp [h, onActive, completeDisconnecting])
    have same : findConnection device { s with
        services := restate (some service.self) (onActive .disconnecting) err₀ s.services } =
        findConnection device s := rfl
    rw [first, extDisconnectDev, same]
    obtain found | ⟨conn, found⟩ := Option.eq_none_or_eq_some (findConnection device s)
    · rw [found]
      exact refusal (by simp [found])
    · obtain ⟨cmem, _⟩ := findConnection_eq_some found
      rw [found]
      cases connected : conn.connected with
      | false =>
          simp only [connected]
          exact refusal (by simp [found, connected])
      | true =>
          have failed : ∀ code : ℤ, code ≠ 0 → Change r s (State.onService service.self
              (btdServiceDisconnectingComplete code) { s with
                services := restate (some service.self) (onActive .disconnecting) err₀
                  s.services }) := by
            intro code h
            refine change_answered sound mem moving err₀ code
              (.busy device conn hdevice found connected) ?_
            rcases active with a | a <;> simp [a, h, onActive, completeDisconnecting]
          cases idle : conn.pending with
          | some serial =>
              simp only [connected, idle]
              exact failed (-EBUSY) (by decide)
          | none =>
              simp only [connected, idle, sendDisconnReq]
              cases answer.created with
              | false => exact failed (-ENOMEM) (by decide)
              | true =>
                  cases answer.sent with
                  | false => exact failed (- EIO) (by decide)
                  | true =>
                      have change := Change.moved (r := r) conn cmem _ (.disconnecting service mem
                        (fun other h => by rwa [← Option.some.inj (hdevice.symm.trans h)])
                        connected idle active live) err₀
                      have shaped := sound.wired.shaped conn cmem
                      have waits : conn.awaits = none := by
                        refine awaits_eq_none_iff.mpr ⟨?_, ?_, idle, connected⟩
                        · by_contra h
                          simp [(shaped.auth (by simpa using h)).2.2] at connected
                        · by_contra h
                          simp [(shaped.search (by simpa using h)).2] at connected
                      simpa [waits, State.send, State.hook, State.keep] using change
  unfold btdServiceDisconnect
  cases state : service.state with
  | unavailable => exact .refl
  | disconnected => exact .refl
  | disconnecting => exact .refl
  | connecting => exact .single (asked (Or.inl state))
  | connected => exact .single (asked (Or.inr state))

end Requests

section Removal

variable {s t : State} {device : ObjectPath} {service : Service} {services : List Service}

/-- Give one reference on the service at an address back. -/
def unrefAt (self : ℕ) (service : Service) : Option Service :=
  if service.self = self then
    if (State.serviceUnref service).ref > 0 then some (State.serviceUnref service) else none
  else some service

theorem release_eq_filterMap (distinct : Distinct Service.self services) (self : ℕ) :
    release (some self) services = services.filterMap (unrefAt self) := by
  simp only [release]
  cases found : KeyedList.find Service.self self services with
  | none =>
      rw [List.filterMap_congr (g := some), List.filterMap_some]
      intro service mem
      have other : service.self ≠ self := by
        simpa using List.find?_eq_none.mp found service mem
      exact if_neg other
  | some service =>
      obtain ⟨mem, hself⟩ := (find_eq_some distinct).mp found
      have only : ∀ other ∈ services, other.self = self → other = service :=
        fun other omem h => distinct.eq_of_key_eq omem mem (h.trans hself.symm)
      simp only []
      split
      · next more =>
          rw [update, ← List.filterMap_eq_map]
          refine List.filterMap_congr fun other omem => ?_
          by_cases h : other.self = self
          · rw [only other omem h]
            simp [unrefAt, hself, more]
          · simp [unrefAt, h]
      · next last =>
          rw [KeyedList.remove, ← List.filterMap_eq_filter]
          refine List.filterMap_congr fun other omem => ?_
          by_cases h : other.self = self
          · rw [only other omem h]
            simp [unrefAt, hself, last, Option.guard]
          · simp [unrefAt, h, Option.guard]

theorem Distinct.release (distinct : Distinct Service.self services) (at' : Option ℕ) :
    Distinct Service.self (ExtProfile.release at' services) := by
  cases at' with
  | none => exact distinct
  | some self =>
      simp only [ExtProfile.release]
      split
      · exact distinct
      · split
        · exact KeyedList.Distinct.update (fun _ h => h) distinct
        · exact distinct.remove self

/-- A service is retired in two steps with the drop of a connection between them;
retiring it first comes to the same. -/
theorem release_retire_comm (distinct : Distinct Service.self services) (self : ℕ)
    (at' : Option ℕ) :
    release (some self) (update Service.self self State.unlist
      (release at' (restate (some self) (fun _ => .unavailable) 0 services))) =
    release at' (release (some self) (update Service.self self Service.retire services)) := by
  have stated : Distinct Service.self (restate (some self) (fun _ => .unavailable) 0 services) :=
    distinct.update fun _ h => h
  have retired : Distinct Service.self (update Service.self self Service.retire services) :=
    distinct.update fun _ h => h
  have unlisted : Distinct Service.self (update Service.self self State.unlist
      (release at' (restate (some self) (fun _ => .unavailable) 0 services))) :=
    (Distinct.release stated at').update fun _ h => h
  cases at' with
  | none =>
      have same : update Service.self self State.unlist
          (restate (some self) (fun _ => .unavailable) 0 services) =
          update Service.self self Service.retire services := by
        simp only [restate, update, List.map_map]
        refine List.map_congr_left fun service _ => ?_
        by_cases h : service.self = self <;> simp [h, State.unlist, Service.retire]
      exact congrArg (release (some self)) same
  | some other =>
      rw [release_eq_filterMap unlisted, release_eq_filterMap stated,
        release_eq_filterMap (Distinct.release retired (some self)),
        release_eq_filterMap retired]
      simp only [restate, update, ← List.filterMap_eq_map, List.filterMap_filterMap]
      refine List.filterMap_congr fun service _ => ?_
      obtain ⟨address, device, state, old, ref⟩ := service
      by_cases h : address = self
      · subst h
        by_cases h' : address = other
        · subst h'
          by_cases more : 0 < ref - 1
          · simp [unrefAt, State.serviceUnref, State.unlist, Service.retire, more]
          · simp [unrefAt, State.serviceUnref, Service.retire, more]
        · by_cases more : 0 < ref - 1
          · simp [unrefAt, State.serviceUnref, State.unlist, Service.retire, more, h']
          · simp [unrefAt, State.serviceUnref, State.unlist, Service.retire, more, h']
      · by_cases h' : address = other
        · subst h'
          by_cases more : 0 < ref - 1
          · simp [unrefAt, State.serviceUnref, more, h]
          · simp [unrefAt, State.serviceUnref, more, h]
        · simp [unrefAt, h, h']

/-- The first two lines of `service_remove`. -/
theorem removing_eq (sound : Sound s) (mem : service ∈ s.services)
    (hdevice : service.device = some device) :
    (s.onService service.self (changeState .disconnected (-ECONNABORTED))).onService service.self
      (changeState .unavailable 0) =
      { s with
        services := restate (some service.self) (fun _ => .unavailable) 0 s.services } := by
  have live : service.device.isSome = true := by simp [hdevice]
  obtain ⟨err, acts⟩ := changeState_acts .disconnected (-ECONNABORTED) live
  have first := onService_eq (g := fun _ => .disconnected) sound.counted.distinct mem acts
  have held : { service with state := .disconnected, err := err } ∈
      restate (some service.self) (fun _ => .disconnected) err s.services :=
    (mem_update sound.counted.distinct mem).mpr (Or.inr rfl)
  have distinct : Distinct Service.self
      (restate (some service.self) (fun _ => .disconnected) err s.services) :=
    sound.counted.distinct.update fun _ h => h
  have second := onService_eq (s := { s with
      services := restate (some service.self) (fun _ => .disconnected) err s.services })
    (g := fun _ => .unavailable) (f := changeState .unavailable 0) (e := 0) distinct held
    (by simp [changeState, hdevice])
  rw [first]
  refine second.trans ?_
  simp only [restate_restate]
  rfl

/-- A service that its device still lists outlives the connections. -/
theorem exists_mem_release (sound : Sound s) {conn : ExtIo} (cmem : conn ∈ s.conns)
    (mem : service ∈ s.services) (live : service.device.isSome = true)
    (g : ServiceState → ServiceState) (err : ℤ) (at' : Option ℕ) :
    ∃ left ∈ release conn.service (restate at' g err s.services), left.self = service.self := by
  have kept : ∃ moved ∈ restate at' g err s.services,
      moved.self = service.self ∧ moved.ref = service.ref := by
    cases at' with
    | none => exact ⟨service, mem, rfl, rfl⟩
    | some self =>
        refine ⟨_, List.mem_map_of_mem mem, ?_⟩
        split <;> exact ⟨rfl, rfl⟩
  obtain ⟨moved, mmem, hself, href⟩ := kept
  cases holds : conn.service with
  | none => exact ⟨moved, mmem, hself⟩
  | some self =>
      have distinct : Distinct Service.self (restate at' g err s.services) := by
        cases at' with
        | none => exact sound.counted.distinct
        | some self => exact sound.counted.distinct.update fun _ h => h
      rw [release_eq_filterMap distinct]
      by_cases same : service.self = self
      · have count := sound.counted.count service mem
        have counted : 0 < s.conns.countP (·.service = some service.self) :=
          List.countP_pos_iff.mpr ⟨conn, cmem, by simp [holds, same]⟩
        simp only [Service.listed, live, if_true, reduceCtorEq, if_false] at count
        refine ⟨State.serviceUnref moved, List.mem_filterMap.mpr ⟨moved, mmem, ?_⟩, hself⟩
        rw [unrefAt, if_pos (hself.trans same), if_pos]
        simp only [State.serviceUnref, href]
        omega
      · exact ⟨moved, List.mem_filterMap.mpr ⟨moved, mmem, if_neg (hself ▸ same)⟩, hself⟩

/-- Once a service is retired, the connections of its device hold retired services. -/
theorem stale_of_retired (allowed : r.removing) (sound : Sound s) {conn : ExtIo}
    (cmem : conn ∈ s.conns)
    (unlisted : ∀ service ∈ s.services, service.device ≠ some conn.device) : Ending r s conn id := by
  refine .stale allowed fun service smem holds => ?_
  obtain ⟨held, hmem, hself, hdevice⟩ := sound.counted.held conn cmem service.self holds
  obtain rfl := sound.counted.distinct.eq_of_key_eq hmem smem hself
  refine (sound.counted.proper held hmem).mp ?_
  by_contra listed
  obtain ⟨device, hd⟩ := Option.ne_none_iff_exists'.mp listed
  exact unlisted held hmem (hdevice device hd ▸ hd)

theorem unlisted_of_retired (sound : Sound s) (mem : service ∈ s.services)
    (hdevice : service.device = some device) :
    ∀ left ∈ release (some service.self)
      (update Service.self service.self Service.retire s.services),
      left.device ≠ some device := by
  intro left lmem listed
  obtain ⟨old, omem, _, _, same⟩ := of_mem_release lmem
  rcases (mem_update sound.counted.distinct mem).mp omem with ⟨older, ne⟩ | rfl
  · have same := same.trans (listed.trans hdevice.symm)
    exact ne (congrArg Service.self
      (sound.counted.single old older service mem same (by simp [same, hdevice])))
  · simp [← same, Service.retire] at listed

/-- The last two lines of `service_remove`. -/
theorem unlist_unref_eq {left : Service} (mem : left ∈ s.services)
    (distinct : Distinct Service.self s.services) :
    (s.onService left.self fun service => some (State.unlist service)).btdServiceUnref left.self =
      { s with
        services := release (some left.self)
          (update Service.self left.self State.unlist s.services) } := by
  rw [onService_update distinct mem rfl]
  have unlisted : State.unlist left ∈ update Service.self left.self State.unlist s.services :=
    (mem_update distinct mem).mpr (Or.inr rfl)
  have released := btdServiceUnref_eq
    (s := { s with services := update Service.self left.self State.unlist s.services })
    (distinct.update fun _ h => h) unlisted
  exact released

/-- The state after a service has been retired. -/
def retiredState (s : State) (service : Service) : State :=
  { s with
    services := release (some service.self)
      (update Service.self service.self Service.retire s.services) }

/-- The state after a connection has gone without a word to its service. -/
def droppedState (s : State) (conn : ExtIo) : State :=
  { s with
    conns := KeyedList.remove ExtIo.self conn.self s.conns
    hooks := s.hooks.filter (·.1 ≠ conn.self)
    services := release conn.service s.services }

theorem drop_whole_eq (sound : Sound s) {conn : ExtIo} (mem : conn ∈ s.conns) :
    drop conn s = droppedState s conn :=
  drop_eq sound mem (leaving_whole sound mem) sound.counted.distinct (sound.there mem)

/-- `service_remove` retires the service and drops the connection that is found first. -/
theorem serviceRemove_eq (sound : Sound s) (mem : service ∈ s.services)
    (hdevice : service.device = some device) :
    serviceRemove service.self device s = match findConnection device s with
      | none => retiredState s service
      | some conn => droppedState (retiredState s service) conn := by
  have distinct := sound.counted.distinct
  have stated : Distinct Service.self
      (restate (some service.self) (fun _ => .unavailable) 0 s.services) :=
    distinct.update fun _ h => h
  have same : findConnection device { s with
      services := restate (some service.self) (fun _ => .unavailable) 0 s.services } =
      findConnection device s := rfl
  unfold serviceRemove
  simp only [removing_eq sound mem hdevice, extDeviceRemove, same]
  obtain found | ⟨conn, found⟩ := Option.eq_none_or_eq_some (findConnection device s)
  · have moved : { service with state := .unavailable, err := 0 } ∈
        restate (some service.self) (fun _ => .unavailable) 0 s.services :=
      (mem_update distinct mem).mpr (Or.inr rfl)
    have finish := unlist_unref_eq (s := { s with
        services := restate (some service.self) (fun _ => .unavailable) 0 s.services }) moved stated
    simp only [found]
    exact finish.trans (congrArg (fun services => { s with services := services })
      (release_retire_comm distinct service.self none))
  · obtain ⟨cmem, rfl⟩ := findConnection_eq_some found
    have there : ∀ self, conn.service = some self → ∃ moved ∈
        restate (some service.self) (fun _ => .unavailable) 0 s.services, moved.self = self := by
      intro self holds
      obtain ⟨held, hmem, hself⟩ := sound.there cmem self holds
      refine ⟨_, List.mem_map_of_mem hmem, ?_⟩
      split <;> exact hself
    have dropped := drop_eq sound cmem (leaving_whole sound cmem) stated there
    obtain ⟨left, lmem, hself⟩ := exists_mem_release sound cmem mem (by simp [hdevice])
      (fun _ => .unavailable) 0 (some service.self)
    have finish := unlist_unref_eq (s := { s with
        conns := KeyedList.remove ExtIo.self conn.self s.conns
        hooks := s.hooks.filter (·.1 ≠ conn.self)
        services := release conn.service
          (restate (some service.self) (fun _ => .unavailable) 0 s.services) })
      lmem (Distinct.release stated conn.service)
    rw [hself] at finish
    simp only [found, dropped]
    rw [finish, release_retire_comm distinct service.self conn.service]
    rfl

theorem serviceRemove_changes (allowed : r.removing) (sound : Sound s) (mem : service ∈ s.services)
    (hdevice : service.device = some device) :
    Changes r s (serviceRemove service.self device s) := by
  have retired : Change r s (retiredState s service) := .retired allowed service mem (by simp [hdevice])
  rw [serviceRemove_eq sound mem hdevice]
  split
  · exact .single retired
  · next conn found =>
      obtain ⟨cmem, rfl⟩ := findConnection_eq_some found
      have after := retired.sound sound
      have stale : Ending r _ conn id :=
        stale_of_retired allowed after cmem (unlisted_of_retired sound mem hdevice)
      rw [← drop_whole_eq after cmem]
      exact (Relation.ReflTransGen.single retired).tail
        (change_drop after cmem (leaving_whole after cmem) stale)

/-- The devices that still have a service after one was removed. -/
theorem listed_serviceRemove (sound : Sound s) (mem : service ∈ s.services)
    (hdevice : service.device = some device) :
    ∀ left ∈ (serviceRemove service.self device s).services, ∀ other, left.device = some other →
      other ≠ device ∧ ∃ old ∈ s.services, old.device = some other := by
  have retired : ∀ left ∈ (retiredState s service).services, ∀ other, left.device = some other →
      other ≠ device ∧ ∃ old ∈ s.services, old.device = some other := by
    intro left lmem other hother
    refine ⟨?_, ?_⟩
    · rintro rfl
      exact unlisted_of_retired sound mem hdevice left lmem hother
    · obtain ⟨old, omem, _, _, same⟩ := @of_mem_release _ (some service.self) _ lmem
      rcases (mem_update sound.counted.distinct mem).mp omem with ⟨older, _⟩ | rfl
      · exact ⟨old, older, same.trans hother⟩
      · simp [← same, Service.retire] at hother
  rw [serviceRemove_eq sound mem hdevice]
  intro left lmem other hother
  split at lmem
  · exact retired left lmem other hother
  · next conn _ =>
      obtain ⟨old, omem, _, _, same⟩ := @of_mem_release _ conn.service _ lmem
      exact retired old omem other (same.trans hother)

/-- `adapter_remove_profile` leaves no service in the list of a device. -/
theorem foldl_deviceRemoveProfile (allowed : r.removing) (sound : Sound s) (devices : List ObjectPath)
    (all : ∀ service ∈ s.services, ∀ device, service.device = some device → device ∈ devices) :
    Changes r s (devices.foldl deviceRemoveProfile s) ∧
    ∀ service ∈ (devices.foldl deviceRemoveProfile s).services, service.device = none := by
  induction devices generalizing s with
  | nil =>
      refine ⟨.refl, fun service mem => ?_⟩
      by_contra listed
      obtain ⟨device, hd⟩ := Option.ne_none_iff_exists'.mp listed
      exact absurd (all service mem device hd) (by simp)
  | cons device devices ih =>
      have one : Changes r s (deviceRemoveProfile s device) ∧
          ∀ service ∈ (deviceRemoveProfile s device).services, ∀ other,
            service.device = some other → other ∈ devices := by
        unfold deviceRemoveProfile
        split
        · next none =>
            refine ⟨.refl, fun service mem other hother => ?_⟩
            refine (List.mem_cons.mp (all service mem other hother)).resolve_left ?_
            rintro rfl
            exact absurd hother (by simpa using List.find?_eq_none.mp none service mem)
        · next service found =>
            obtain ⟨mem, hdevice⟩ := findService_eq_some found
            refine ⟨serviceRemove_changes allowed sound mem hdevice, fun left lmem other hother => ?_⟩
            obtain ⟨ne, old, omem, same⟩ :=
              listed_serviceRemove sound mem hdevice left lmem other hother
            exact (List.mem_cons.mp (all old omem other same)).resolve_left ne
      obtain ⟨rest, unlisted⟩ := ih (one.1.sound sound) one.2
      exact ⟨one.1.trans rest, unlisted⟩

theorem foldl_drop (allowed : r.removing) (sound : Sound s) (conns : List ExtIo) (hconns : s.conns = conns)
    (unlisted : ∀ service ∈ s.services, service.device = none) :
    Changes r s (conns.foldl (fun s conn => drop conn s) s) ∧
    (conns.foldl (fun s conn => drop conn s) s).conns = [] ∧
    ∀ service ∈ (conns.foldl (fun s conn => drop conn s) s).services, service.device = none := by
  induction conns generalizing s with
  | nil => exact ⟨.refl, hconns, unlisted⟩
  | cons conn conns ih =>
      have mem : conn ∈ s.conns := by simp [hconns]
      have stale : Ending r s conn id :=
        stale_of_retired allowed sound mem fun service smem => by simp [unlisted service smem]
      have change := change_drop sound mem (leaving_whole sound mem) stale
      have after := change.sound sound
      have rest : (droppedState s conn).conns = conns := by
        have distinct := sound.wired.distinct
        rw [hconns, Distinct, List.map_cons, List.nodup_cons] at distinct
        simp only [droppedState, hconns, KeyedList.remove, List.filter_cons, ne_eq,
          not_true_eq_false, decide_false, Bool.false_eq_true, if_false]
        refine List.filter_eq_self.mpr fun other omem => ?_
        simpa using fun same : other.self = conn.self =>
          distinct.1 (same ▸ List.mem_map_of_mem omem)
      have gone : ∀ service ∈ (droppedState s conn).services, service.device = none := by
        intro service smem
        obtain ⟨old, omem, _, _, same⟩ := @of_mem_release _ conn.service _ smem
        exact same ▸ unlisted old omem
      rw [List.foldl_cons]
      change Change r s (drop conn s) at change
      rw [drop_whole_eq sound mem] at change after ⊢
      obtain ⟨changes, done⟩ := ih after rest gone
      exact ⟨(Relation.ReflTransGen.single change).trans changes, done⟩

theorem removeExt_changes (allowed : r.removing) (sound : Sound s) : Changes r s (removeExt s) ∧
    (removeExt s).conns = [] ∧ (removeExt s).services = [] := by
  obtain ⟨removed, unlisted⟩ := foldl_deviceRemoveProfile allowed sound
    (s.services.filterMap (·.device)) fun service mem device hdevice =>
      List.mem_filterMap.mpr ⟨service, mem, hdevice⟩
  have after := removed.sound sound
  obtain ⟨freed, conns, gone⟩ := foldl_drop allowed after _ rfl unlisted
  have final := freed.sound after
  have services : (freeConns (adapterRemoveProfile s)).services = [] := by
    refine List.eq_nil_iff_forall_not_mem.mpr fun service mem => ?_
    have count := final.counted.count service mem
    have positive := final.counted.positive service mem
    rw [conns, Service.listed, gone service mem] at count
    simp at count
    omega
  exact ⟨(removed.trans freed).tail (.unregistered allowed conns services), conns, services⟩

end Removal

section Runs

variable {profile : Profile} {s t : State} {label : Label} {labels : List Label}

/-- The labels that a regime admits. -/
def Regime.allows (r : Regime) (s : State) : Label → Prop
  | .remove _ => r.removing
  | .unregister => r.removing
  | .confirm device _ => findConnection device s = none ∨ r.crowded
  | .directConnect device _ _ => findConnection device s = none ∨ r.crowded
  | .newConnReplied _ _ error => error = true ∨ r.accepting
  | .disconnReplied _ _ error => error = false ∨ r.refusing
  | _ => True

theorem withService_eq_some {f : Service → ObjectPath → State → State} {self : ℕ}
    (sound : Sound s) (h : withService self f s = some t) : ∃ service ∈ s.services,
    service.self = self ∧ ∃ device, service.device = some device ∧ t = f service device s := by
  simp only [withService, Option.bind_eq_bind, Option.bind_eq_some_iff, Option.some.injEq] at h
  obtain ⟨service, found, device, hdevice, rfl⟩ := h
  obtain ⟨mem, hself⟩ := (find_eq_some sound.counted.distinct).mp found
  exact ⟨service, mem, hself, device, hdevice, rfl⟩

/-- Every step of the daemon is a sequence of changes. -/
theorem step_changes (sound : Sound s) (client : profile.enableClient = r.client)
    (allowed : r.allows s label) (h : step profile s label = some t) : Changes r s t := by
  unfold step at h
  split at h
  · cases h
  · cases label with
    | probe device =>
        simp only [Option.ite_none_right_eq_some, Bool.and_eq_true, Option.isNone_iff_eq_none,
          Option.some.injEq] at h
        obtain ⟨⟨serves, new⟩, rfl⟩ := h
        exact .single (probeService_change sound (client ▸ serves) new)
    | remove service =>
        obtain ⟨service, mem, rfl, device, hdevice, rfl⟩ := withService_eq_some sound h
        exact serviceRemove_changes allowed sound mem hdevice
    | connect service err =>
        obtain ⟨service, mem, rfl, device, hdevice, rfl⟩ := withService_eq_some sound h
        exact btdServiceConnect_changes sound mem hdevice profile err
    | disconnect service answer =>
        obtain ⟨service, mem, rfl, device, hdevice, rfl⟩ := withService_eq_some sound h
        exact btdServiceDisconnect_changes sound mem hdevice answer
    | confirm device answer =>
        cases h
        exact extConfirm_changes sound client allowed answer
    | directConnect device known answer =>
        cases h
        exact extDirectConnect_changes sound client allowed known answer
    | hangUp self nval =>
        obtain ⟨conn, mem, _, _, rfl⟩ := fire_eq_some sound h
        exact .single (extIoDisconnected_change sound mem nval)
    | connected self answer =>
        obtain ⟨conn, mem, _, stage, rfl⟩ := fire_eq_some sound h
        exact .single (extConnect_change sound mem (stage.resolve_left (by simp)) answer)
    | authorized self answer =>
        obtain ⟨conn, mem, _, stage, rfl⟩ := fire_eq_some sound h
        exact .single (extAuth_change sound mem (stage.resolve_left (by simp)) answer)
    | searched self device answer =>
        obtain ⟨conn, mem, _, stage, rfl⟩ := fire_eq_some sound h
        have stage := stage.resolve_left (by simp)
        obtain rfl : device = conn.device := stage.2.2
        exact .single (recordCb_change sound mem stage answer)
    | newConnReplied self serial error =>
        obtain ⟨conn, mem, _, stage, rfl⟩ := fire_eq_some sound h
        exact .single (newConnReply_change sound mem (stage.resolve_left (by simp)) error allowed)
    | disconnReplied self serial error =>
        obtain ⟨conn, mem, _, stage, rfl⟩ := fire_eq_some sound h
        exact .single (disconnReply_change sound mem (stage.resolve_left (by simp)) error allowed)
    | unregister =>
        cases h
        exact (removeExt_changes allowed sound).1

/-- A regime in which nothing is ruled out. -/
def Regime.any (profile : Profile) : Regime := ⟨profile.enableClient, True, True, True, True⟩

end Runs

end BluezTutorial.ExtProfile
