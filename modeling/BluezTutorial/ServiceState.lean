import BluezTutorial.Callbacks

/-! What the state of a service says about its connections. A service that is
connecting always has a connection on the way whose next callback is set, so that it
cannot be left in that state. That `connected` and `disconnecting` say the truth needs
more: the daemon must not have two connections of one device, and no
RequestDisconnection may be answered with an error, since `disconn_reply` drops the
connection then and puts the service back into `connected`. -/

namespace BluezTutorial.ExtProfile
open KeyedList LabelledRun

variable {r : Regime} {s t : State}

section Progress

end Progress

section Agreement

/-- What a connection looks like while its service is in one of the two states that
claim a connection. -/
def ExtIo.Shows (conn : ExtIo) : ServiceState → Prop
  | .connected => conn.connected = true ∧ conn.pending = none
  | .disconnecting => conn.connected = true ∧ conn.pending ≠ none
  | _ => False

/-- The service is in one of these states exactly when a connection that holds it shows
it. -/
def Service.Truthful (service : Service) (conns : List ExtIo) : Prop :=
  ∀ state, state = .connected ∨ state = .disconnecting →
    (service.state = state ↔ ∃ conn ∈ conns, conn.service = some service.self ∧ conn.Shows state)

/-- What holds between two labels as long as each device has at most one connection. -/
structure Agrees (client : Bool) (s : State) : Prop where
  alone : ∀ a ∈ s.conns, ∀ b ∈ s.conns, a.device = b.device → a = b
  listed : ∀ conn ∈ s.conns, ∀ self, conn.service = some self →
    ∃ service ∈ s.services, service.self = self ∧ service.device = some conn.device
  serves : ∀ conn ∈ s.conns, conn.service.isSome = client
  idle : client = false → s.services = []
  truthful : ∀ service ∈ s.services, service.Truthful s.conns

variable {client : Bool} {conn : ExtIo} {service : Service} {conns : List ExtIo}

theorem truthful_of_holder (mem : conn ∈ conns) (holds : conn.service = some service.self)
    (only : ∀ other ∈ conns, other.service = some service.self → other = conn) :
    service.Truthful conns ↔ ∀ state, state = .connected ∨ state = .disconnecting →
      (service.state = state ↔ conn.Shows state) := by
  refine forall₂_congr fun state _ => iff_congr Iff.rfl ⟨?_, fun h => ⟨conn, mem, holds, h⟩⟩
  rintro ⟨other, omem, oholds, shows⟩
  rwa [only other omem oholds] at shows

theorem truthful_of_free (free : ∀ conn ∈ conns, conn.service ≠ some service.self) :
    service.Truthful conns ↔ service.state ≠ .connected ∧ service.state ≠ .disconnecting := by
  have none : ∀ state, ¬ ∃ conn ∈ conns, conn.service = some service.self ∧ conn.Shows state := by
    rintro state ⟨conn, mem, holds, _⟩
    exact free conn mem holds
  constructor
  · intro h
    exact ⟨fun same => none _ ((h _ (Or.inl rfl)).mp same),
      fun same => none _ ((h _ (Or.inr rfl)).mp same)⟩
  · rintro ⟨unconnected, undisconnecting⟩ state (rfl | rfl)
    · exact ⟨fun h => absurd h unconnected, fun h => absurd h (none _)⟩
    · exact ⟨fun h => absurd h undisconnecting, fun h => absurd h (none _)⟩

/-- A connection and a service of one device belong together. -/
theorem Agrees.holds (agrees : Agrees client s) (sound : Sound s) (cmem : conn ∈ s.conns)
    (smem : service ∈ s.services) (hdevice : service.device = some conn.device) :
    conn.service = some service.self := by
  have serves := agrees.serves conn cmem
  cases hclient : client with
  | false => simp [agrees.idle hclient] at smem
  | true =>
      rw [hclient] at serves
      obtain ⟨self, holds⟩ := Option.isSome_iff_exists.mp serves
      obtain ⟨other, omem, rfl, odevice⟩ := agrees.listed conn cmem self holds
      rw [holds, sound.counted.single other omem service smem (odevice.trans hdevice.symm)
        (by simp [odevice])]

/-- The connection that holds a service is the only one. -/
theorem Agrees.only (agrees : Agrees client s) (sound : Sound s) (cmem : conn ∈ s.conns)
    {self : ℕ} (holds : conn.service = some self) :
    ∀ other ∈ s.conns, other.service = some self → other = conn := by
  intro other omem oholds
  obtain ⟨a, amem, aself, adevice⟩ := agrees.listed conn cmem self holds
  obtain ⟨b, bmem, bself, bdevice⟩ := agrees.listed other omem self oholds
  obtain rfl := sound.counted.distinct.eq_of_key_eq amem bmem (aself.trans bself.symm)
  exact agrees.alone other omem conn cmem (Option.some.inj (bdevice.symm.trans adevice))

/-- Connections that do not hold a service do not matter to it. -/
theorem Service.Truthful.transfer {service' : Service} {conns' : List ExtIo}
    (truthful : service.Truthful conns) (self : service'.self = service.self)
    (state : ∀ claim, claim = .connected ∨ claim = .disconnecting →
      (service'.state = claim ↔ service.state = claim))
    (same : ∀ conn, conn.service = some service.self → (conn ∈ conns' ↔ conn ∈ conns)) :
    service'.Truthful conns' := by
  intro claim two
  rw [state claim two, truthful claim two, self]
  refine exists_congr fun conn => ?_
  constructor
  · rintro ⟨mem, holds, shows⟩
    exact ⟨(same conn holds).mpr mem, holds, shows⟩
  · rintro ⟨mem, holds, shows⟩
    exact ⟨(same conn holds).mp mem, holds, shows⟩

theorem mem_restate_of_ne {services : List Service} {at' : Option ℕ} {err : ℤ}
    {g : ServiceState → ServiceState} (mem : service ∈ services) (ne : at' ≠ some service.self) :
    service ∈ restate at' g err services := by
  cases at' with
  | none => exact mem
  | some self =>
      refine List.mem_map.mpr ⟨service, mem, if_neg ?_⟩
      rintro rfl
      exact ne rfl

theorem mem_release_of_ne {services : List Service} {at' : Option ℕ}
    (distinct : Distinct Service.self services) (mem : service ∈ services)
    (ne : at' ≠ some service.self) : service ∈ release at' services := by
  cases at' with
  | none => exact mem
  | some self =>
      rw [release_eq_filterMap distinct]
      refine List.mem_filterMap.mpr ⟨service, mem, if_neg ?_⟩
      rintro rfl
      exact ne rfl

theorem restate_nil {at' : Option ℕ} {err : ℤ} {g : ServiceState → ServiceState} :
    restate at' g err [] = [] := by
  cases at' <;> rfl

theorem release_nil {at' : Option ℕ} : release at' [] = [] := by
  cases at' <;> rfl

/-- The services keep their devices while they move. -/
theorem exists_mem_restate {services : List Service} (at' : Option ℕ) (err : ℤ)
    (g : ServiceState → ServiceState) (mem : service ∈ services) :
    ∃ moved ∈ restate at' g err services,
      moved.self = service.self ∧ moved.device = service.device := by
  cases at' with
  | none => exact ⟨service, mem, rfl, rfl⟩
  | some self =>
      refine ⟨_, List.mem_map_of_mem mem, ?_⟩
      split <;> exact ⟨rfl, rfl⟩

/-- A regime in which services stay, a device has one connection, and the owner of the
profile does not refuse to disconnect. -/
def Regime.steady (client : Bool) : Regime := ⟨client, False, False, True, False⟩

theorem Shows_of_unconnected {state : ServiceState} (h : conn.connected = false) :
    ¬ conn.Shows state := by
  cases state <;> simp [ExtIo.Shows, h]

/-- A service whose connection is not connected claims none. -/
theorem Agrees.unclaimed (agrees : Agrees client s) (sound : Sound s) (cmem : conn ∈ s.conns)
    (smem : service ∈ s.services) (holds : conn.service = some service.self)
    (unconnected : conn.connected = false) :
    service.state ≠ .connected ∧ service.state ≠ .disconnecting := by
  have truthful := (truthful_of_holder cmem holds (agrees.only sound cmem holds)).mp
    (agrees.truthful service smem)
  exact ⟨fun h => Shows_of_unconnected unconnected ((truthful _ (Or.inl rfl)).mp h),
    fun h => Shows_of_unconnected unconnected ((truthful _ (Or.inr rfl)).mp h)⟩

theorem agrees_dropped (sound : Sound s) (agrees : Agrees client s) (mem : conn ∈ s.conns)
    {g : ServiceState → ServiceState} (ending : Ending (Regime.steady client) s conn g) (err : ℤ) :
    Agrees client { s with
      conns := KeyedList.remove ExtIo.self conn.self s.conns
      hooks := s.hooks.filter (·.1 ≠ conn.self)
      services := release conn.service (restate conn.service g err s.services) } := by
  have distinct := (sound.counted.restate ending.keeps conn.service err).distinct
  refine ⟨fun a ha b hb => agrees.alone a (mem_remove.mp ha).1 b (mem_remove.mp hb).1, ?_,
    fun other omem => agrees.serves other (mem_remove.mp omem).1, ?_, ?_⟩
  · intro other omem self holds
    obtain ⟨omem, ne⟩ := mem_remove.mp omem
    obtain ⟨service, smem, rfl, hdevice⟩ := agrees.listed other omem self holds
    have apart : conn.service ≠ some service.self := fun h =>
      ne (congrArg ExtIo.self (agrees.only sound mem h other omem holds))
    exact ⟨service, mem_release_of_ne distinct (mem_restate_of_ne smem apart) apart, rfl, hdevice⟩
  · intro h
    simp only [agrees.idle h, restate_nil, release_nil]
  · intro left lmem
    obtain ⟨moved, mmem, same, hstate, _⟩ := of_mem_release lmem
    obtain ⟨old, omem, same', _, ⟨own, state⟩ | ⟨other, state⟩⟩ := of_mem_restate mmem
    · have self : left.self = old.self := (same'.trans same).symm
      have truthful := (truthful_of_holder mem own (agrees.only sound mem own)).mp
        (agrees.truthful old omem)
      refine (truthful_of_free ?_).mpr ?_
      · intro kept kmem holds
        obtain ⟨kmem, ne⟩ := mem_remove.mp kmem
        exact ne (congrArg ExtIo.self (agrees.only sound mem own kept kmem (self ▸ holds)))
      · rw [← hstate, state]
        cases ending with
        | rejected stage =>
            exact agrees.unclaimed sound mem omem own
              ((sound.wired.shaped conn mem).auth stage).2.2
        | failed _ unconnected =>
            have unclaimed := agrees.unclaimed sound mem omem own unconnected
            revert unclaimed
            cases old.state <;> simp [completeConnecting]
        | hungUp => cases old.state <;> simp [hangUp]
        | disconnected serial stage success allowed =>
            obtain rfl : success = true := allowed.resolve_right id
            have shows : conn.Shows .disconnecting := ⟨stage.2.2.2, by simp [stage.2.2.1]⟩
            rw [(truthful .disconnecting (Or.inr rfl)).mpr shows]
            simp [completeDisconnecting]
        | stale allowed => exact allowed.elim
    · refine (agrees.truthful old omem).transfer (same'.trans same).symm
        (fun _ _ => by rw [← hstate, state]) fun kept holds => ?_
      rw [mem_remove, and_iff_left_of_imp]
      intro kmem h
      exact other (by rw [← sound.wired.distinct.eq_of_key_eq kmem mem h, holds])

/-- The service that moves with a connection is its own. -/
theorem Advance.service_eq (sound : Sound s) (agrees : Agrees client s) (mem : conn ∈ s.conns)
    {move : Move} (advance : Advance r s conn move) :
    move.service = none ∧ move.conn.connected = false ∧ conn.connected = false ∨
      move.service = conn.service := by
  have shaped := sound.wired.shaped conn mem
  cases advance with
  | authorized stage =>
      have unconnected := (shaped.auth stage).2.2
      exact Or.inl ⟨rfl, unconnected, unconnected⟩
  | resolved stage =>
      have unconnected := (shaped.search stage.2.1).2
      exact Or.inl ⟨rfl, unconnected, unconnected⟩
  | called => exact Or.inr rfl
  | accepted => exact Or.inr rfl
  | disconnecting service smem found _ _ _ live =>
      obtain ⟨device, hdevice⟩ := Option.isSome_iff_exists.mp live
      obtain ⟨_, rfl⟩ := findConnection_eq_some (found device hdevice)
      exact Or.inr (agrees.holds sound mem smem hdevice).symm

/-- After a connection has moved, its service claims what it shows. -/
theorem Advance.shows (sound : Sound s) (agrees : Agrees client s) (mem : conn ∈ s.conns)
    {move : Move} (advance : Advance r s conn move) (smem : service ∈ s.services)
    (holds : conn.service = some service.self) (moves : move.service = conn.service)
    (state : ServiceState) (two : state = .connected ∨ state = .disconnecting) :
    move.state service.state = state ↔ move.conn.Shows state := by
  have live : service.state ≠ .unavailable := by
    obtain ⟨listed, lmem, lself, ldevice⟩ := agrees.listed conn mem service.self holds
    obtain rfl := sound.counted.distinct.eq_of_key_eq lmem smem lself
    exact fun h => by simp [(sound.counted.proper listed lmem).mpr h] at ldevice
  cases advance with
  | authorized => simp [holds] at moves
  | resolved => simp [holds] at moves
  | called stage =>
      have unclaimed := agrees.unclaimed sound mem smem holds stage.2.2.2
      revert unclaimed
      rcases two with rfl | rfl <;> cases service.state <;>
        simp [setConnecting, ExtIo.Shows, stage.2.2.2]
  | accepted _ serial stage =>
      have unclaimed := agrees.unclaimed sound mem smem holds stage.2.2.2
      revert unclaimed live
      rcases two with rfl | rfl <;> cases service.state <;>
        simp [completeConnecting, ExtIo.Shows]
  | disconnecting other omem found connected idle _ _ =>
      have truthful := (truthful_of_holder mem holds (agrees.only sound mem holds)).mp
        (agrees.truthful service smem)
      rw [(truthful .connected (Or.inl rfl)).mpr ⟨connected, idle⟩]
      rcases two with rfl | rfl <;> simp [onActive, ExtIo.Shows, connected]

theorem agrees_moved (sound : Sound s) (agrees : Agrees client s) (mem : conn ∈ s.conns)
    {move : Move} (advance : Advance r s conn move) (hooks : List (ℕ × Hook)) (err : ℤ) :
    Agrees client { s with
      conns := KeyedList.update ExtIo.self conn.self (fun _ => move.conn) s.conns
      hooks := hooks
      bus := s.bus ++ move.calls
      services := restate move.service move.state err s.services } := by
  obtain ⟨self, device, service⟩ := advance.fixed
  have split : ∀ other, other ∈ KeyedList.update ExtIo.self conn.self (fun _ => move.conn) s.conns ↔
      (other ∈ s.conns ∧ other.self ≠ conn.self) ∨ other = move.conn :=
    fun other => mem_update sound.wired.distinct mem
  -- every connection has a counterpart of the same device and service
  have back : ∀ other ∈ KeyedList.update ExtIo.self conn.self (fun _ => move.conn) s.conns,
      ∃ old ∈ s.conns, old.self = other.self ∧ old.device = other.device ∧
        old.service = other.service := by
    intro other omem
    rcases (split other).mp omem with ⟨old, _⟩ | rfl
    · exact ⟨other, old, rfl, rfl, rfl⟩
    · exact ⟨conn, mem, self.symm, device.symm, service.symm⟩
  have distinct : Distinct ExtIo.self
      (KeyedList.update ExtIo.self conn.self (fun _ => move.conn) s.conns) :=
    sound.wired.distinct.update fun _ _ => self
  refine ⟨?_, ?_, ?_, ?_, ?_⟩
  · intro a ha b hb same
    obtain ⟨a', ha', aself, adevice, _⟩ := back a ha
    obtain ⟨b', hb', bself, bdevice, _⟩ := back b hb
    refine distinct.eq_of_key_eq ha hb ?_
    rw [← aself, ← bself, agrees.alone a' ha' b' hb' (by rw [adevice, bdevice, same])]
  · intro other omem address holds
    obtain ⟨old, oldmem, _, odevice, oservice⟩ := back other omem
    obtain ⟨listed, lmem, lself, ldevice⟩ := agrees.listed old oldmem address (oservice.trans holds)
    obtain ⟨moved, mmem, mself, mdevice⟩ := exists_mem_restate move.service err move.state lmem
    exact ⟨moved, mmem, mself.trans lself, mdevice.trans (ldevice.trans (congrArg some odevice))⟩
  · intro other omem
    obtain ⟨old, oldmem, _, _, oservice⟩ := back other omem
    rw [← oservice]
    exact agrees.serves old oldmem
  · intro h
    simp only [agrees.idle h, restate_nil]
  · intro moved mmem
    obtain ⟨old, omem, same, _, moves⟩ := of_mem_restate mmem
    by_cases own : conn.service = some old.self
    · have only : ∀ other ∈ KeyedList.update ExtIo.self conn.self (fun _ => move.conn) s.conns,
          other.service = some moved.self → other = move.conn := by
        intro other omem holds
        rcases (split other).mp omem with ⟨kept, ne⟩ | rfl
        · exact absurd (congrArg ExtIo.self
            (agrees.only sound mem own other kept (same ▸ holds))) ne
        · rfl
      refine (truthful_of_holder ((split _).mpr (Or.inr rfl)) (service.trans (same ▸ own))
        only).mpr fun claim two => ?_
      rcases advance.service_eq sound agrees mem with ⟨none, unconnected, before⟩ | same
      · have unclaimed := agrees.unclaimed sound mem omem own before
        have state : moved.state = old.state := by
          rcases moves with ⟨h, _⟩ | ⟨_, h⟩
          · simp [none] at h
          · exact h
        refine iff_of_false ?_ (Shows_of_unconnected unconnected)
        rw [state]
        rcases two with rfl | rfl
        · exact unclaimed.1
        · exact unclaimed.2
      · have state : moved.state = move.state old.state := by
          rcases moves with ⟨_, h⟩ | ⟨h, _⟩
          · exact h
          · exact absurd (same.trans own) h
        rw [state]
        exact advance.shows sound agrees mem omem own same claim two
    · have state : moved.state = old.state := by
        rcases moves with ⟨h, _⟩ | ⟨_, h⟩
        · rcases advance.service_eq sound agrees mem with ⟨none, _⟩ | same
          · simp [none] at h
          · exact absurd (same.symm.trans h) own
        · exact h
      refine (agrees.truthful old omem).transfer same.symm (fun _ _ => by rw [state])
        fun other holds => ?_
      rw [split other]
      constructor
      · rintro (⟨kept, _⟩ | rfl)
        · exact kept
        · exact absurd (service.symm.trans holds) own
      · intro kept
        refine Or.inl ⟨kept, fun h => own ?_⟩
        rw [← sound.wired.distinct.eq_of_key_eq kept mem h, holds]

/-- A new connection is not connected, and its service had none before. -/
theorem agrees_added (sound : Sound s) (agrees : Agrees client s)
    {g : ServiceState → ServiceState} {more : List Hook}
    (beginning : Beginning (Regime.steady client) s conn g more) (err : ℤ)
    (listed : ∀ self, conn.service = some self →
      ∃ service ∈ s.services, service.self = self ∧ service.device = some conn.device) :
    Agrees client { s with
      conns := s.conns ++ [conn]
      hooks := s.hooks ++ more.map (conn.self, ·)
      allocated := s.allocated + 1
      services := restate conn.service g err (acquire conn.service s.services) } := by
  have alone : ∀ other ∈ s.conns, other.device ≠ conn.device := by
    intro other omem
    cases beginning with
    | incoming device _ _ _ allowed =>
        simpa using List.find?_eq_none.mp (allowed.resolve_right id) other omem
    | connecting _ _ device lonely => simpa using List.find?_eq_none.mp lonely other omem
  have unconnected : conn.connected = false := by cases beginning <;> rfl
  have serves : conn.service.isSome = client := by
    cases beginning with
    | incoming _ _ _ serves => exact serves
    | connecting service mem =>
        cases h : client with
        | false => simp [agrees.idle h] at mem
        | true => rfl
  have unheld : ∀ self, conn.service = some self → ∀ other ∈ s.conns, other.service ≠ some self := by
    intro self holds other omem oholds
    obtain ⟨a, amem, aself, adevice⟩ := listed self holds
    obtain ⟨b, bmem, bself, bdevice⟩ := agrees.listed other omem self oholds
    obtain rfl := sound.counted.distinct.eq_of_key_eq amem bmem (aself.trans bself.symm)
    exact alone other omem (Option.some.inj (bdevice.symm.trans adevice))
  have keeps : ∀ service ∈ s.services,
      ∃ moved ∈ restate conn.service g err (acquire conn.service s.services),
        moved.self = service.self ∧ moved.device = service.device := by
    intro service mem
    have held : ∃ held ∈ acquire conn.service s.services,
        held.self = service.self ∧ held.device = service.device := by
      cases conn.service with
      | none => exact ⟨service, mem, rfl, rfl⟩
      | some self =>
          refine ⟨_, List.mem_map_of_mem mem, ?_⟩
          split <;> exact ⟨rfl, rfl⟩
    obtain ⟨held, hmem, hself, hdevice⟩ := held
    obtain ⟨moved, mmem, mself, mdevice⟩ := exists_mem_restate conn.service err g hmem
    exact ⟨moved, mmem, mself.trans hself, mdevice.trans hdevice⟩
  refine ⟨?_, ?_, ?_, ?_, ?_⟩
  · intro a ha b hb same
    rcases List.mem_append.mp ha with aold | anew
    · rcases List.mem_append.mp hb with bold | bnew
      · exact agrees.alone a aold b bold same
      · rw [List.mem_singleton.mp bnew] at same
        exact absurd same (alone a aold)
    · rcases List.mem_append.mp hb with bold | bnew
      · rw [List.mem_singleton.mp anew] at same
        exact absurd same.symm (alone b bold)
      · rw [List.mem_singleton.mp anew, List.mem_singleton.mp bnew]
  · intro other omem self holds
    have before : ∃ service ∈ s.services,
        service.self = self ∧ service.device = some other.device := by
      rcases List.mem_append.mp omem with old | new
      · exact agrees.listed other old self holds
      · obtain rfl := List.mem_singleton.mp new
        exact listed self holds
    obtain ⟨service, smem, hself, hdevice⟩ := before
    obtain ⟨moved, mmem, mself, mdevice⟩ := keeps service smem
    exact ⟨moved, mmem, mself.trans hself, mdevice.trans hdevice⟩
  · intro other omem
    rcases List.mem_append.mp omem with old | new
    · exact agrees.serves other old
    · rwa [List.mem_singleton.mp new]
  · intro h
    have none : conn.service = none := by
      rw [h] at serves
      exact Option.not_isSome_iff_eq_none.mp (by simp [serves])
    simp [none, restate, acquire, agrees.idle h]
  · intro moved mmem
    obtain ⟨held, hmem, same, _, moves⟩ := of_mem_restate mmem
    obtain ⟨old, omem, same', _, hstate⟩ := of_mem_acquire hmem
    by_cases own : conn.service = some old.self
    · have free := unheld old.self own
      have unclaimed := (truthful_of_free free).mp (agrees.truthful old omem)
      have holds : conn.service = some moved.self := own.trans (congrArg some (same'.trans same))
      have only : ∀ other ∈ s.conns ++ [conn], other.service = some moved.self → other = conn := by
        intro other omem oholds
        rcases List.mem_append.mp omem with kept | new
        · exact absurd oholds (by rw [← same, ← same']; exact free other kept)
        · exact List.mem_singleton.mp new
      refine (truthful_of_holder (by simp) holds only).mpr fun claim two => ?_
      have unmoved : moved.state ≠ .connected ∧ moved.state ≠ .disconnecting := by
        rcases moves with ⟨_, state⟩ | ⟨_, state⟩
        · rw [state, ← hstate]
          revert unclaimed
          cases beginning with
          | incoming => exact id
          | connecting => cases old.state <;> simp [setConnecting]
        · rwa [state, ← hstate]
      refine iff_of_false ?_ (Shows_of_unconnected unconnected)
      rcases two with rfl | rfl
      · exact unmoved.1
      · exact unmoved.2
    · have state : moved.state = old.state := by
        rcases moves with ⟨h, _⟩ | ⟨_, h⟩
        · exact absurd (h.trans (congrArg some same'.symm)) own
        · rw [h, hstate]
      refine (agrees.truthful old omem).transfer (same'.trans same).symm
        (fun _ _ => by rw [state]) fun other holds => ?_
      rw [List.mem_append, List.mem_singleton, or_iff_left]
      rintro rfl
      exact own holds

/-- A service that answers at once claims a connection exactly if it did before. -/
theorem Answer.claims (sound : Sound s) (agrees : Agrees client s) (mem : service ∈ s.services)
    {g : ServiceState → ServiceState} (answer : Answer s service g) (claim : ServiceState)
    (two : claim = .connected ∨ claim = .disconnecting) :
    g service.state = claim ↔ service.state = claim := by
  have truthful := agrees.truthful service mem
  cases answer with
  | unconnected unfound =>
      have unclaimed : service.state ≠ .connected := by
        intro h
        obtain ⟨conn, cmem, holds, connected, _⟩ := (truthful _ (Or.inl rfl)).mp h
        obtain ⟨listed, lmem, lself, ldevice⟩ := agrees.listed conn cmem _ holds
        obtain rfl := sound.counted.distinct.eq_of_key_eq lmem mem lself
        have some : (findConnection conn.device s).isSome := by
          simp only [findConnection, List.find?_isSome]
          exact ⟨conn, cmem, by simp⟩
        obtain ⟨first, found⟩ := Option.isSome_iff_exists.mp some
        obtain ⟨fmem, fdevice⟩ := findConnection_eq_some found
        obtain rfl := agrees.alone first fmem conn cmem fdevice
        simp [unfound _ first ldevice found] at connected
      revert unclaimed
      rcases two with rfl | rfl <;> cases service.state <;> simp [onActive]
  | busy device conn hdevice found connected =>
      obtain ⟨cmem, rfl⟩ := findConnection_eq_some found
      have holds := agrees.holds sound cmem mem hdevice
      have claimed : service.state = .connected ∨ service.state = .disconnecting := by
        cases idle : conn.pending with
        | none =>
            exact Or.inl ((truthful _ (Or.inl rfl)).mpr ⟨conn, cmem, holds, connected, idle⟩)
        | some serial =>
            exact Or.inr ((truthful _ (Or.inr rfl)).mpr
              ⟨conn, cmem, holds, connected, by simp [idle]⟩)
      rcases claimed with h | h <;> simp [h, onActive]

theorem agrees_answered (sound : Sound s) (agrees : Agrees client s) (mem : service ∈ s.services)
    {g : ServiceState → ServiceState} (answer : Answer s service g) (err : ℤ) :
    Agrees client { s with services := restate (some service.self) g err s.services } := by
  refine ⟨agrees.alone, ?_, agrees.serves, ?_, ?_⟩
  · intro conn cmem self holds
    obtain ⟨listed, lmem, lself, ldevice⟩ := agrees.listed conn cmem self holds
    obtain ⟨moved, mmem, mself, mdevice⟩ := exists_mem_restate (some service.self) err g lmem
    exact ⟨moved, mmem, mself.trans lself, mdevice.trans ldevice⟩
  · intro h
    simp only [agrees.idle h, restate_nil]
  · intro moved mmem
    obtain ⟨old, omem, same, _, ⟨own, state⟩ | ⟨_, state⟩⟩ :=
      @of_mem_restate _ _ (some service.self) err _ mmem
    · obtain rfl := sound.counted.distinct.eq_of_key_eq mem omem (Option.some.inj own)
      refine (agrees.truthful service mem).transfer same.symm (fun claim two => ?_)
        fun _ _ => Iff.rfl
      rw [state, answer.claims sound agrees mem claim two]
    · exact (agrees.truthful old omem).transfer same.symm (fun _ _ => by rw [state])
        fun _ _ => Iff.rfl

theorem Change.agrees (sound : Sound s) (agrees : Agrees client s)
    (change : Change (Regime.steady client) s t) : Agrees client t := by
  cases change with
  | unwatched self => exact ⟨agrees.alone, agrees.listed, agrees.serves, agrees.idle, agrees.truthful⟩
  | probed device serves new =>
      have serves : client = true := serves
      refine ⟨agrees.alone, ?_, agrees.serves, by simp [serves], ?_⟩
      · intro conn cmem self holds
        obtain ⟨service, smem, h⟩ := agrees.listed conn cmem self holds
        exact ⟨service, List.mem_append_left _ smem, h⟩
      · intro service smem
        rcases List.mem_append.mp smem with old | new
        · exact agrees.truthful service old
        · rw [List.mem_singleton.mp new]
          refine (truthful_of_free fun conn cmem holds => ?_).mpr (by simp)
          obtain ⟨listed, lmem, lself, _⟩ := agrees.listed conn cmem _ holds
          exact (sound.serviceAllocated listed lmem).ne lself
  | answered service mem g answer err => exact agrees_answered sound agrees mem answer err
  | dropped conn mem g ending err => exact agrees_dropped sound agrees mem ending err
  | moved conn mem move advance err => exact agrees_moved sound agrees mem advance _ err
  | added conn g hooks beginning err listed =>
      exact agrees_added sound agrees beginning err listed
  | retired allowed => exact allowed.elim
  | unregistered allowed => exact allowed.elim

/-- No device opens a second connection while it has one. -/
def Uncrowded (s : State) : Label → Prop
  | .confirm device _ => findConnection device s = none
  | .directConnect device _ _ => findConnection device s = none
  | _ => True

instance decidableUncrowded (s : State) : (label : Label) → Decidable (Uncrowded s label)
  | .confirm device _ => inferInstanceAs (Decidable (findConnection device s = none))
  | .directConnect device _ _ => inferInstanceAs (Decidable (findConnection device s = none))
  | .probe _ | .remove _ | .connect _ _ | .disconnect _ _ | .hangUp _ _ | .connected _ _
  | .authorized _ _ | .searched _ _ _ | .newConnReplied _ _ _ | .disconnReplied _ _ _
  | .unregister => isTrue trivial

end Agreement

end BluezTutorial.ExtProfile
