import BluezTutorial.ExtProfile
import Mathlib.Logic.Relation

/-! What the functions of ExtProfile.lean do to the connections, the hooks and the
services, said once: `Change` lists the ways in which a state can change, and every
label is a sequence of such changes. The invariants of this and the following modules
are proved about `Change` and not about the functions. -/

namespace BluezTutorial.ExtProfile
open KeyedList

section Hooks

/-- The hook that decides what becomes of the connection; a connected one for which
no disconnection is under way waits for nothing but its peer. -/
def ExtIo.awaits (conn : ExtIo) : Option Hook :=
  if conn.authId then some .authorization
  else if conn.resolving then some (.search conn.device)
  else match conn.pending with
    | some serial => some (if conn.connected then .disconnReply serial else .newConnReply serial)
    | none => if conn.connected then none else some .io

/-- The stages of a connection exclude each other. -/
structure ExtIo.Shaped (conn : ExtIo) : Prop where
  auth : conn.authId = true →
    conn.resolving = false ∧ conn.pending = none ∧ conn.connected = false
  search : conn.resolving = true → conn.pending = none ∧ conn.connected = false
  channel : conn.resolving = false → conn.io = true

/-- The hooks that the fields of the connection name, which `unhook` takes back. -/
def ExtIo.Cancels (conn : ExtIo) : Hook → Prop
  | .watch => conn.ioId = true
  | .io => conn.io = true
  | .authorization => conn.authId = true
  | .search device => conn.resolving = true ∧ device = conn.device
  | .newConnReply serial => conn.pending = some serial
  | .disconnReply serial => conn.pending = some serial

variable {conn : ExtIo} {hook : Hook}

/-- The stage of a connection, read off the hook it waits for. -/
def ExtIo.At (conn : ExtIo) : Hook → Prop
  | .watch => False
  | .authorization => conn.authId = true
  | .search device => conn.authId = false ∧ conn.resolving = true ∧ device = conn.device
  | .io => conn.authId = false ∧ conn.resolving = false ∧ conn.pending = none ∧
      conn.connected = false
  | .newConnReply serial => conn.authId = false ∧ conn.resolving = false ∧
      conn.pending = some serial ∧ conn.connected = false
  | .disconnReply serial => conn.authId = false ∧ conn.resolving = false ∧
      conn.pending = some serial ∧ conn.connected = true

theorem awaits_eq_some_iff : conn.awaits = some hook ↔ conn.At hook := by
  obtain ⟨self, device, service, io, ioId, authId, resolving, connected, pending, _, _, _, _⟩ := conn
  cases authId <;> cases resolving <;> cases connected <;> cases pending <;> cases hook <;>
    simp [ExtIo.awaits, ExtIo.At, eq_comm]

theorem awaits_eq_none_iff : conn.awaits = none ↔ conn.authId = false ∧
    conn.resolving = false ∧ conn.pending = none ∧ conn.connected = true := by
  obtain ⟨self, device, service, io, ioId, authId, resolving, connected, pending, _, _, _, _⟩ := conn
  cases authId <;> cases resolving <;> cases connected <;> cases pending <;>
    simp [ExtIo.awaits]

theorem ExtIo.At.cancels (shaped : conn.Shaped) (h : conn.At hook) : conn.Cancels hook := by
  cases hook with
  | watch => exact h.elim
  | authorization => exact h
  | search device => exact h.2
  | io => exact shaped.channel h.2.1
  | newConnReply serial => exact h.2.2.1
  | disconnReply serial => exact h.2.2.1

theorem eraseP_eq_filter {α : Type*} {p : α → Bool} {l : List α} (nodup : l.Nodup)
    (unique : ∀ x ∈ l, ∀ y ∈ l, p x = true → p y = true → x = y) :
    l.eraseP p = l.filter (!p ·) := by
  induction l with
  | nil => rfl
  | cons x l ih =>
      obtain ⟨fresh, nodup⟩ := List.nodup_cons.mp nodup
      by_cases h : p x = true
      · have rest : l.filter (!p ·) = l := by
          refine List.filter_eq_self.mpr fun y mem => ?_
          by_contra hy
          have same := unique x (by simp) y (by simp [mem]) h (by simpa using hy)
          exact fresh (same ▸ mem)
        simp [h, rest]
      · have tail := ih nodup fun y hy z hz => unique y (by simp [hy]) z (by simp [hz])
        simp [h, tail]

theorem takeBack_eq_filter {set : Bool} {e : ℕ × Hook} {hooks : List (ℕ × Hook)}
    (nodup : hooks.Nodup) : takeBack set e hooks = hooks.filter fun x => !(set && x == e) := by
  cases set with
  | false => simp [takeBack]
  | true =>
      rw [takeBack, if_pos rfl, nodup.erase_eq_filter]
      rfl

theorem cancelPending_eq_filter {hooks : List (ℕ × Hook)} (nodup : hooks.Nodup) :
    cancelPending conn hooks = hooks.filter fun x => !(conn.pending.any fun serial =>
      x == (conn.self, .newConnReply serial) || x == (conn.self, .disconnReply serial)) := by
  unfold cancelPending
  cases conn.pending with
  | none => simp
  | some serial =>
      simp only [nodup.erase_eq_filter, (nodup.filter _).erase_eq_filter, List.filter_filter]
      refine List.filter_congr fun e _ => ?_
      simp only [bne, Option.any_some, Bool.not_or, Bool.and_comm]

/-- The search that is found by its addresses is the connection's own, as long as no
other connection searches the same device. -/
theorem cancelSearch_eq_filter {hooks : List (ℕ × Hook)} (nodup : hooks.Nodup)
    (search : conn.resolving = true →
      ∀ self, (self, .search conn.device) ∈ hooks → self = conn.self) :
    cancelSearch conn hooks = hooks.filter fun x =>
      !(conn.resolving && decide (x.2 = .search conn.device)) := by
  unfold cancelSearch
  cases resolving : conn.resolving with
  | false => simp
  | true =>
      rw [if_pos rfl, btCancelDiscovery, eraseP_eq_filter nodup]
      · simp
      · rintro ⟨a, h⟩ ha ⟨b, k⟩ hb same same'
        simp only [decide_eq_true_eq] at same same'
        subst same same'
        rw [search resolving a ha, search resolving b hb]

/-- `unhook` takes back all hooks of the connection and no others, provided that its
fields name its hooks and no other connection searches the same device. -/
theorem unhook_eq_filter {hooks : List (ℕ × Hook)} (nodup : hooks.Nodup)
    (mine : ∀ hook, (conn.self, hook) ∈ hooks → conn.Cancels hook)
    (search : conn.resolving = true →
      ∀ self, (self, .search conn.device) ∈ hooks → self = conn.self) :
    unhook conn hooks = hooks.filter (·.1 ≠ conn.self) := by
  rw [unhook, takeBack_eq_filter nodup, takeBack_eq_filter (nodup.filter _),
    takeBack_eq_filter ((nodup.filter _).filter _),
    cancelPending_eq_filter (((nodup.filter _).filter _).filter _),
    cancelSearch_eq_filter ((((nodup.filter _).filter _).filter _).filter _)]
  · simp only [List.filter_filter]
    refine List.filter_congr fun e mem => ?_
    obtain ⟨self, hook⟩ := e
    by_cases own : self = conn.self
    · subst own
      have named := mine hook mem
      cases hook <;> simp_all [ExtIo.Cancels]
    · have other : conn.resolving = true → hook ≠ .search conn.device :=
        fun resolving same => own (search resolving self (same ▸ mem))
      cases resolving : conn.resolving <;> cases conn.pending <;> simp_all
  · intro resolving self mem
    simp only [List.mem_filter] at mem
    exact search resolving self mem.1.1.1.1

end Hooks

section Services

/-- A service is unavailable exactly when it has been removed from its device. -/
def Service.Proper (service : Service) : Prop :=
  service.device = none ↔ service.state = .unavailable

def completeConnecting (success : Bool) : ServiceState → ServiceState
  | .disconnected => if success then .connected else .disconnected
  | .connecting => if success then .connected else .disconnected
  | state => state

def completeDisconnecting (success : Bool) : ServiceState → ServiceState
  | .connected => if success then .disconnected else .connected
  | .disconnecting => if success then .disconnected else .connected
  | state => state

def setConnecting : ServiceState → ServiceState
  | .disconnected => .connecting
  | state => state

/-- What `ext_io_disconnected` makes of the state of the connection's service. -/
def hangUp : ServiceState → ServiceState
  | .unavailable => .unavailable
  | _ => .disconnected

/-- A function of service.c whose assertions hold and which only moves the state. -/
def Acts (f : Service → Option Service) (g : ServiceState → ServiceState) : Prop :=
  ∀ service : Service, service.Proper →
    ∃ err, f service = some { service with state := g service.state, err := err }

/-- A function of states that neither removes a service nor brings one back. -/
def KeepsRemoved (g : ServiceState → ServiceState) : Prop :=
  ∀ state, g state = .unavailable ↔ state = .unavailable

theorem changeState_acts (state : ServiceState) (err : ℤ) {service : Service}
    (live : service.device.isSome = true) :
    ∃ err', changeState state err service = some { service with state := state, err := err' } := by
  unfold changeState
  split
  · next same =>
      subst same
      exact ⟨service.err, rfl⟩
  · have some : service.device.isNone = false := by simpa using live
    rw [some]
    exact ⟨err, rfl⟩

theorem Service.Proper.live {service : Service} (proper : service.Proper)
    (h : service.state ≠ .unavailable) : service.device.isSome = true :=
  Option.isSome_iff_ne_none.mpr fun none => h (proper.mp none)

/-- A removed service is left alone, and the assertions hold for the others. -/
theorem acts_of_live {f : Service → Option Service} {g : ServiceState → ServiceState}
    (removed : ∀ service, service.state = .unavailable → f service = some service)
    (keeps : KeepsRemoved g)
    (live : ∀ self device state err ref, ∃ err', f ⟨self, some device, state, err, ref⟩ =
      some ⟨self, some device, g state, err', ref⟩) : Acts f g := by
  rintro ⟨self, device, state, err, ref⟩ proper
  cases device with
  | none =>
      have state : state = .unavailable := proper.mp rfl
      subst state
      refine ⟨err, ?_⟩
      rw [removed _ rfl, (keeps .unavailable).mpr rfl]
  | some device => exact live self device state err ref

theorem completeConnecting_keeps (success : Bool) : KeepsRemoved (completeConnecting success) := by
  intro state
  cases success <;> cases state <;> simp [completeConnecting]

theorem completeDisconnecting_keeps (success : Bool) :
    KeepsRemoved (completeDisconnecting success) := by
  intro state
  cases success <;> cases state <;> simp [completeDisconnecting]

theorem setConnecting_keeps : KeepsRemoved setConnecting := by
  intro state
  cases state <;> simp [setConnecting]

theorem hangUp_keeps : KeepsRemoved hangUp := by
  intro state
  cases state <;> simp [hangUp]

theorem connectingComplete_acts (err : ℤ) :
    Acts (btdServiceConnectingComplete err) (completeConnecting (err = 0)) := by
  refine acts_of_live (fun service h => by simp [btdServiceConnectingComplete, h])
    (completeConnecting_keeps _) fun self device state old ref => ?_
  by_cases h : err = 0 <;> cases state <;>
    simp [btdServiceConnectingComplete, completeConnecting, changeState, h]

theorem disconnectingComplete_acts (err : ℤ) :
    Acts (btdServiceDisconnectingComplete err) (completeDisconnecting (err = 0)) := by
  refine acts_of_live (fun service h => by simp [btdServiceDisconnectingComplete, h])
    (completeDisconnecting_keeps _) fun self device state old ref => ?_
  by_cases h : err = 0 <;> cases state <;>
    simp [btdServiceDisconnectingComplete, completeDisconnecting, changeState, h]

theorem setConnecting_acts :
    Acts (fun service => (serviceSetConnecting service).2) setConnecting := by
  refine acts_of_live (fun service h => by simp [serviceSetConnecting, h])
    setConnecting_keeps fun self device state old ref => ?_
  cases state <;> simp [serviceSetConnecting, setConnecting, changeState]

theorem hangUp_acts : Acts (fun service =>
    if service.state = .connecting then btdServiceConnectingComplete (- EIO) service
    else btdServiceDisconnectingComplete 0 service) hangUp := by
  refine acts_of_live (fun service h => by simp [btdServiceDisconnectingComplete, h])
    hangUp_keeps fun self device state old ref => ?_
  cases state <;> simp [btdServiceConnectingComplete, btdServiceDisconnectingComplete, hangUp,
    changeState, EIO]

end Services

section References

/-- The services after the one at an address, if any, has moved. -/
def restate (self : Option ℕ) (g : ServiceState → ServiceState) (err : ℤ)
    (services : List Service) : List Service :=
  match self with
  | none => services
  | some self => update Service.self self
      (fun service => { service with state := g service.state, err := err }) services

def acquire (self : Option ℕ) (services : List Service) : List Service :=
  match self with
  | none => services
  | some self => update Service.self self State.serviceRef services

def release (self : Option ℕ) (services : List Service) : List Service :=
  match self with
  | none => services
  | some self =>
      match KeyedList.find Service.self self services with
      | none => services
      | some service =>
          if (State.serviceUnref service).ref > 0 then
            update Service.self self State.serviceUnref services
          else remove Service.self self services

/-- What `service_remove` makes of a service. -/
def Service.retire (service : Service) : Service :=
  { service with device := none, state := .unavailable, err := 0 }

/-- The reference that device.c holds on a service it has not removed. -/
def Service.listed (service : Service) : ℕ := if service.device.isSome then 1 else 0

/-- Every reference is accounted for: a service counts the list of its device, the
connections that hold it and, while one of them comes or goes, the reference `extra`;
it is freed with the last. -/
structure Counted (extra : Option ℕ) (services : List Service) (conns : List ExtIo) : Prop where
  distinct : Distinct Service.self services
  proper : ∀ service ∈ services, service.Proper
  count : ∀ service ∈ services, service.ref = service.listed +
    conns.countP (·.service = some service.self) + if extra = some service.self then 1 else 0
  positive : ∀ service ∈ services, 0 < service.ref
  held : ∀ conn ∈ conns, ∀ self, conn.service = some self →
    ∃ service ∈ services, service.self = self ∧
      ∀ device, service.device = some device → device = conn.device
  single : ∀ a ∈ services, ∀ b ∈ services, a.device = b.device → a.device.isSome = true → a = b

variable {extra : Option ℕ} {services : List Service} {conns : List ExtIo} {conn : ExtIo}

/-- Services that keep their addresses stay accounted for if their counters do. -/
theorem Counted.of_update {extra' : Option ℕ} {self : ℕ} {f : Service → Service}
    (counted : Counted extra services conns)
    (keeps : ∀ service ∈ services, service.self = self →
      (f service).self = self ∧ (f service).Proper ∧ 0 < (f service).ref ∧
      ((f service).device = none ∨ (f service).device = service.device) ∧
      (f service).ref = (f service).listed + conns.countP (·.service = some self) +
        if extra' = some self then 1 else 0)
    (others : ∀ other, other ≠ self → (extra' = some other ↔ extra = some other)) :
    Counted extra' (update Service.self self f services) conns := by
  have distinct : Distinct Service.self (update Service.self self f services) := by
    have same : (update Service.self self f services).map Service.self =
        services.map Service.self := by
      rw [update, List.map_map]
      refine List.map_congr_left fun service mem => ?_
      by_cases h : service.self = self
      · simp [h, (keeps service mem h).1]
      · simp [h]
    rw [Distinct, same]
    exact counted.distinct
  refine ⟨distinct, ?_, ?_, ?_, ?_, ?_⟩
  · intro moved mem
    obtain ⟨service, smem, rfl⟩ := List.mem_map.mp mem
    split
    · next h => exact (keeps service smem h).2.1
    · exact counted.proper service smem
  · intro moved mem
    obtain ⟨service, smem, rfl⟩ := List.mem_map.mp mem
    split
    · next h =>
        obtain ⟨hself, _, _, _, href⟩ := keeps service smem h
        rw [hself]
        exact href
    · next h =>
        simp only [others service.self h]
        exact counted.count service smem
  · intro moved mem
    obtain ⟨service, smem, rfl⟩ := List.mem_map.mp mem
    split
    · next h => exact (keeps service smem h).2.2.1
    · exact counted.positive service smem
  · intro conn mem address holds
    obtain ⟨service, smem, hself, hdevice⟩ := counted.held conn mem address holds
    refine ⟨_, List.mem_map_of_mem smem, ?_⟩
    split
    · next h =>
        obtain ⟨fself, _, _, fdevice, _⟩ := keeps service smem h
        refine ⟨fself.trans (h.symm.trans hself), fun device hd => ?_⟩
        rcases fdevice with none | same
        · simp [none] at hd
        · exact hdevice device (same ▸ hd)
    · exact ⟨hself, hdevice⟩
  · intro a ha b hb same live
    have back : ∀ moved ∈ update Service.self self f services, moved.device.isSome = true →
        ∃ service ∈ services, service.device = moved.device ∧ service.self = moved.self := by
      intro moved mem live
      obtain ⟨service, smem, rfl⟩ := List.mem_map.mp mem
      refine ⟨service, smem, ?_⟩
      split
      · next h =>
          obtain ⟨fself, _, _, none | same, _⟩ := keeps service smem h
          · simp [h, none] at live
          · exact ⟨same.symm, h.trans fself.symm⟩
      · exact ⟨rfl, rfl⟩
    obtain ⟨a', amem, adevice, aself⟩ := back a ha live
    obtain ⟨b', bmem, bdevice, bself⟩ := back b hb (same ▸ live)
    refine distinct.eq_of_key_eq ha hb ?_
    rw [← aself, ← bself, counted.single a' amem b' bmem (by rw [adevice, bdevice, same])
      (adevice ▸ live)]

theorem Counted.restate (counted : Counted extra services conns)
    {g : ServiceState → ServiceState} (keeps : KeepsRemoved g) (self : Option ℕ) (err : ℤ) :
    Counted extra (restate self g err services) conns := by
  cases self with
  | none => exact counted
  | some self =>
      refine counted.of_update (fun service mem h => ?_) fun _ _ => Iff.rfl
      refine ⟨h, (counted.proper service mem).trans (keeps service.state).symm,
        counted.positive service mem, Or.inr rfl, ?_⟩
      rw [← h]
      exact counted.count service mem

theorem Counted.acquire (counted : Counted none services conns) (self : Option ℕ) :
    Counted self (acquire self services) conns := by
  cases self with
  | none => exact counted
  | some self =>
      refine counted.of_update (fun service mem h => ?_) fun other h => by simp [h.symm]
      refine ⟨h, counted.proper service mem, Nat.succ_pos _, Or.inr rfl, ?_⟩
      have count := counted.count service mem
      simp only [reduceCtorEq, if_false] at count
      simp only [State.serviceRef, if_true, ← h]
      exact congrArg (· + 1) count

/-- A service that is removed from its device still has the reference of the list. -/
theorem Counted.retire (counted : Counted none services conns) {service : Service}
    (mem : service ∈ services) (live : service.device.isSome = true) :
    Counted (some service.self) (update Service.self service.self Service.retire services)
      conns := by
  refine counted.of_update (fun other omem h => ?_) fun other h => by simp [h.symm]
  obtain rfl := counted.distinct.eq_of_key_eq omem mem h
  refine ⟨rfl, by simp [Service.Proper, Service.retire], counted.positive other mem,
    Or.inl rfl, ?_⟩
  have count := counted.count other mem
  simp only [reduceCtorEq, if_false, Nat.add_zero, Service.listed, live, if_true] at count
  simp only [Service.listed, Service.retire, Option.isSome_none, Bool.false_eq_true, if_false,
    if_true]
  omega

/-- Giving a reference back; the last one frees the service. -/
theorem Counted.release (counted : Counted extra services conns)
    (there : ∀ self, extra = some self → ∃ service ∈ services, service.self = self) :
    Counted none (release extra services) conns := by
  cases extra with
  | none => exact counted
  | some self =>
      obtain ⟨service, smem, hself⟩ := there self rfl
      have found : KeyedList.find Service.self self services = some service :=
        (find_eq_some counted.distinct).mpr ⟨smem, hself⟩
      have only : ∀ other ∈ services, other.self = self → other = service :=
        fun other omem h => counted.distinct.eq_of_key_eq omem smem (h.trans hself.symm)
      have count := counted.count service smem
      rw [hself, if_pos rfl] at count
      simp only [ExtProfile.release, found]
      split
      · next more =>
          simp only [State.serviceUnref, gt_iff_lt] at more
          refine counted.of_update (fun other omem h => ?_) fun other h => by simp [h.symm]
          obtain rfl := only other omem h
          refine ⟨h, counted.proper other smem, more, Or.inr rfl, ?_⟩
          rw [if_neg (by simp), Nat.add_zero]
          exact Nat.sub_eq_of_eq_add count
      · next last =>
          simp only [State.serviceUnref, gt_iff_lt, Nat.not_lt, Nat.le_zero] at last
          have none : conns.countP (·.service = some self) = 0 := by omega
          refine ⟨counted.distinct.remove self, ?_, ?_, ?_, ?_, ?_⟩
          · exact fun other omem => counted.proper other (mem_remove.mp omem).1
          · intro other omem
            obtain ⟨omem, ne⟩ := mem_remove.mp omem
            have count := counted.count other omem
            rw [if_neg (by simpa using ne.symm)] at count
            simpa using count
          · exact fun other omem => counted.positive other (mem_remove.mp omem).1
          · intro conn cmem address holds
            obtain ⟨other, omem, oself, device⟩ := counted.held conn cmem address holds
            refine ⟨other, mem_remove.mpr ⟨omem, fun same => ?_⟩, oself, device⟩
            rw [List.countP_eq_zero] at none
            exact none conn cmem (by simp [holds, ← oself, same])
          · exact fun a ha b hb => counted.single a (mem_remove.mp ha).1 b (mem_remove.mp hb).1

/-- A new connection keeps the reference it was given on the service of its device. -/
theorem Counted.concat (counted : Counted conn.service services conns)
    (listed : ∀ self, conn.service = some self →
      ∃ service ∈ services, service.self = self ∧ service.device = some conn.device) :
    Counted none services (conns ++ [conn]) := by
  refine ⟨counted.distinct, counted.proper, ?_, counted.positive, ?_, counted.single⟩
  · intro service mem
    have count := counted.count service mem
    rw [List.countP_append, List.countP_singleton]
    simp only [decide_eq_true_eq, reduceCtorEq, if_false] at count ⊢
    omega
  · intro other mem self holds
    rcases List.mem_append.mp mem with old | new
    · exact counted.held other old self holds
    · obtain rfl := List.mem_singleton.mp new
      obtain ⟨service, smem, hself, hdevice⟩ := listed self holds
      exact ⟨service, smem, hself, fun device h => by simpa [hdevice, eq_comm] using h⟩

/-- A connection that goes leaves its reference behind. -/
theorem Counted.remove (counted : Counted none services conns)
    (distinct : Distinct ExtIo.self conns) (mem : conn ∈ conns) :
    Counted conn.service services (KeyedList.remove ExtIo.self conn.self conns) := by
  refine ⟨counted.distinct, counted.proper, ?_, counted.positive, ?_, counted.single⟩
  · intro service smem
    have before := counted.count service smem
    have count := countP_remove (p := (·.service = some service.self)) distinct mem
    simp only [decide_eq_true_eq, reduceCtorEq, if_false] at before count ⊢
    omega
  · exact fun other hother => counted.held other (mem_remove.mp hother).1

/-- The fields of a connection other than its service do not count. -/
theorem Counted.update (counted : Counted extra services conns)
    (distinct : Distinct ExtIo.self conns) (mem : conn ∈ conns) {conn' : ExtIo}
    (self : conn'.self = conn.self) (service : conn'.service = conn.service)
    (device : conn'.device = conn.device) :
    Counted extra services (KeyedList.update ExtIo.self conn.self (fun _ => conn') conns) := by
  refine ⟨counted.distinct, counted.proper, ?_, counted.positive, ?_, counted.single⟩
  · intro other smem
    rw [countP_update]
    · exact counted.count other smem
    · intro x hx same
      rw [distinct.eq_of_key_eq hx mem same, service]
  · intro other omem address holds
    rcases (mem_update distinct mem).mp omem with ⟨old, _⟩ | rfl
    · exact counted.held other old address holds
    · rw [device]
      exact counted.held conn mem address (service ▸ holds)

theorem Counted.probe (counted : Counted none services conns) {service : Service}
    (fresh : ∀ other ∈ services, other.self ≠ service.self) (proper : service.Proper)
    (ref : service.ref = 1) {device : ObjectPath} (listed : service.device = some device)
    (new : ∀ other ∈ services, other.device ≠ some device)
    (unheld : ∀ conn ∈ conns, conn.service ≠ some service.self) :
    Counted none (services ++ [service]) conns := by
  refine ⟨counted.distinct.concat fresh, ?_, ?_, ?_, ?_, ?_⟩
  · intro other mem
    rcases List.mem_append.mp mem with old | new
    · exact counted.proper other old
    · rwa [List.mem_singleton.mp new]
  · intro other mem
    rcases List.mem_append.mp mem with old | new
    · exact counted.count other old
    · rw [List.mem_singleton.mp new, ref, Service.listed, listed,
        List.countP_eq_zero.mpr fun conn cmem => by simpa using unheld conn cmem]
      rfl
  · intro other mem
    rcases List.mem_append.mp mem with old | new
    · exact counted.positive other old
    · rw [List.mem_singleton.mp new, ref]
      exact Nat.one_pos
  · intro conn mem self holds
    obtain ⟨other, omem, h⟩ := counted.held conn mem self holds
    exact ⟨other, List.mem_append_left _ omem, h⟩
  · intro a ha b hb same live
    rcases List.mem_append.mp ha with aold | anew
    · rcases List.mem_append.mp hb with bold | bnew
      · exact counted.single a aold b bold same live
      · rw [List.mem_singleton.mp bnew, listed] at same
        exact absurd same (new a aold)
    · rcases List.mem_append.mp hb with bold | bnew
      · rw [List.mem_singleton.mp anew, listed] at same
        exact absurd same.symm (new b bold)
      · rw [List.mem_singleton.mp anew, List.mem_singleton.mp bnew]

end References

section Wiring

/-- Every hook is set on a connection that is there and whose fields name it, and a
connection has the hook it waits for. -/
structure Wired (conns : List ExtIo) (hooks : List (ℕ × Hook)) : Prop where
  distinct : Distinct ExtIo.self conns
  shaped : ∀ conn ∈ conns, conn.Shaped
  nodup : hooks.Nodup
  owned : ∀ self hook, (self, hook) ∈ hooks → ∃ conn ∈ conns, conn.self = self ∧
    (hook = .watch ∧ conn.ioId = true ∨ conn.At hook)
  awaited : ∀ conn ∈ conns, ∀ hook, conn.At hook → (conn.self, hook) ∈ hooks
  searches : ∀ a ∈ conns, ∀ b ∈ conns, a.resolving = true → b.resolving = true →
    a.device = b.device → a = b

variable {conns : List ExtIo} {hooks : List (ℕ × Hook)} {conn : ExtIo} {hook : Hook}

theorem ExtIo.At.unique {hook' : Hook} (h : conn.At hook) (h' : conn.At hook') : hook = hook' := by
  have := awaits_eq_some_iff.mpr h
  rw [awaits_eq_some_iff.mpr h'] at this
  exact (Option.some.inj this).symm

/-- The hooks of one connection. -/
theorem Wired.own (wired : Wired conns hooks) (mem : conn ∈ conns)
    (h : (conn.self, hook) ∈ hooks) : hook = .watch ∧ conn.ioId = true ∨ conn.At hook := by
  obtain ⟨other, omem, same, names⟩ := wired.owned conn.self hook h
  rwa [← wired.distinct.eq_of_key_eq omem mem same]

/-- Whatever is left of the hooks of a connection, destroying it leaves those of the
others. -/
theorem Wired.unhook (wired : Wired conns hooks) (mem : conn ∈ conns) {conn' : ExtIo}
    {left : List (ℕ × Hook)} (self : conn'.self = conn.self) (device : conn'.device = conn.device)
    (resolving : conn'.resolving = true → conn.resolving = true) (nodup : left.Nodup)
    (mine : ∀ hook, (conn.self, hook) ∈ left → conn'.Cancels hook)
    (others : left.filter (·.1 ≠ conn.self) = hooks.filter (·.1 ≠ conn.self)) :
    unhook conn' left = hooks.filter (·.1 ≠ conn.self) := by
  rw [unhook_eq_filter nodup (self ▸ mine), self, others]
  intro searching address there
  rw [self]
  by_contra other
  have kept : (address, Hook.search conn'.device) ∈ left.filter (·.1 ≠ conn.self) := by
    simp [there, other]
  rw [others] at kept
  obtain ⟨owner, omem, rfl, ⟨watch, _⟩ | ⟨_, searches, same⟩⟩ :=
    wired.owned _ _ (List.mem_of_mem_filter kept)
  · cases watch
  · have same : owner.device = conn.device := same.symm.trans device
    exact other (congrArg ExtIo.self
      (wired.searches owner omem conn mem searches (resolving searching) same))

theorem filter_erase_ne {self : ℕ} (nodup : hooks.Nodup) :
    (hooks.erase (self, hook)).filter (·.1 ≠ self) = hooks.filter (·.1 ≠ self) := by
  rw [nodup.erase_eq_filter, List.filter_filter]
  refine List.filter_congr fun e _ => ?_
  by_cases h : e.1 = self
  · simp [h]
  · have ne : e ≠ (self, hook) := fun same => h (congrArg Prod.fst same)
    simp [h, ne]

theorem Wired.remove (wired : Wired conns hooks) (self : ℕ) :
    Wired (KeyedList.remove ExtIo.self self conns) (hooks.filter (·.1 ≠ self)) := by
  refine ⟨wired.distinct.remove _, fun other h => wired.shaped other (mem_remove.mp h).1,
    wired.nodup.filter _, ?_, ?_, ?_⟩
  · intro address hook h
    rw [List.mem_filter, decide_eq_true_eq] at h
    obtain ⟨other, omem, same, names⟩ := wired.owned address hook h.1
    exact ⟨other, mem_remove.mpr ⟨omem, same ▸ h.2⟩, same, names⟩
  · intro other omem hook h
    rw [mem_remove] at omem
    simpa [omem.2] using wired.awaited other omem.1 hook h
  · intro a ha b hb
    exact wired.searches a (mem_remove.mp ha).1 b (mem_remove.mp hb).1

/-- A new connection comes with the hooks that its fields name. -/
theorem Wired.concat (wired : Wired conns hooks) {more : List Hook}
    (fresh : ∀ other ∈ conns, other.self ≠ conn.self) (shaped : conn.Shaped) (nodup : more.Nodup)
    (names : ∀ hook ∈ more, hook = .watch ∧ conn.ioId = true ∨ conn.At hook)
    (awaited : ∀ hook, conn.At hook → hook ∈ more)
    (alone : conn.resolving = true → ∀ other ∈ conns, other.device ≠ conn.device) :
    Wired (conns ++ [conn]) (hooks ++ more.map (conn.self, ·)) := by
  refine ⟨wired.distinct.concat fresh, ?_, ?_, ?_, ?_, ?_⟩
  · intro other mem
    rcases List.mem_append.mp mem with old | new
    · exact wired.shaped other old
    · rwa [List.mem_singleton.mp new]
  · refine List.Nodup.append wired.nodup (nodup.map fun a b h => (Prod.mk.inj h).2) ?_
    rintro ⟨self, hook⟩ old new
    obtain ⟨_, _, same⟩ := List.mem_map.mp new
    obtain ⟨other, omem, hself, _⟩ := wired.owned self hook old
    exact fresh other omem (hself.trans (Prod.mk.inj same).1.symm)
  · intro self hook h
    rcases List.mem_append.mp h with old | new
    · obtain ⟨other, omem, rest⟩ := wired.owned self hook old
      exact ⟨other, List.mem_append_left _ omem, rest⟩
    · obtain ⟨_, hmem, same⟩ := List.mem_map.mp new
      obtain ⟨rfl, rfl⟩ := Prod.mk.inj same
      exact ⟨conn, by simp, rfl, names _ hmem⟩
  · intro other mem hook h
    rcases List.mem_append.mp mem with old | new
    · exact List.mem_append_left _ (wired.awaited other old hook h)
    · obtain rfl := List.mem_singleton.mp new
      exact List.mem_append_right _ (List.mem_map_of_mem (awaited hook h))
  · intro a ha b hb aresolving bresolving same
    rcases List.mem_append.mp ha with aold | anew
    · rcases List.mem_append.mp hb with bold | bnew
      · exact wired.searches a aold b bold aresolving bresolving same
      · rw [List.mem_singleton.mp bnew] at bresolving same
        exact absurd same (alone bresolving a aold)
    · rcases List.mem_append.mp hb with bold | bnew
      · rw [List.mem_singleton.mp anew] at aresolving same
        exact absurd same.symm (alone aresolving b bold)
      · rw [List.mem_singleton.mp anew, List.mem_singleton.mp bnew]

/-- A connection moves on: the hook it waited for has run, and it has new ones. -/
theorem Wired.update (wired : Wired conns hooks) (mem : conn ∈ conns) {conn' : ExtIo}
    {more : List Hook} (self : conn'.self = conn.self) (device : conn'.device = conn.device)
    (shaped : conn'.Shaped) (resolving : conn'.resolving = false)
    (ioId : conn.ioId = true → conn'.ioId = true) (nodup : more.Nodup)
    (names : ∀ hook ∈ more,
      hook = .watch ∧ conn.ioId = false ∧ conn'.ioId = true ∨ ¬ conn.At hook ∧ conn'.At hook)
    (awaited : ∀ hook, conn'.At hook → hook ∈ more) :
    Wired (KeyedList.update ExtIo.self conn.self (fun _ => conn') conns)
      (hooks.filter (fun e => ¬ (e.1 = conn.self ∧ conn.awaits = some e.2)) ++
        more.map (conn.self, ·)) := by
  have keeps : ∀ x : ExtIo, x.self = conn.self → conn'.self = conn.self := fun _ _ => self
  refine ⟨wired.distinct.update keeps, ?_, ?_, ?_, ?_, ?_⟩
  · intro other omem
    rcases (mem_update wired.distinct mem).mp omem with ⟨old, _⟩ | rfl
    · exact wired.shaped other old
    · exact shaped
  · refine List.Nodup.append (wired.nodup.filter _) (nodup.map fun a b h => (Prod.mk.inj h).2) ?_
    rintro ⟨address, hook⟩ old new
    obtain ⟨_, hmem, same⟩ := List.mem_map.mp new
    obtain ⟨rfl, rfl⟩ := Prod.mk.inj same
    have own := wired.own mem (List.mem_of_mem_filter old)
    rcases names _ hmem with ⟨rfl, unwatched, _⟩ | ⟨other, _⟩
    · rcases own with ⟨_, watched⟩ | h
      · simp [unwatched] at watched
      · exact h
    · rcases own with ⟨rfl, _⟩ | h
      · simp_all [ExtIo.At]
      · exact other h
  · intro address hook h
    rcases List.mem_append.mp h with old | new
    · rw [List.mem_filter] at old
      obtain ⟨other, omem, rfl, named⟩ := wired.owned address hook old.1
      by_cases own : other.self = conn.self
      · obtain rfl := wired.distinct.eq_of_key_eq omem mem own
        have unfired : ¬ other.At hook := by
          rw [← awaits_eq_some_iff]
          simpa using old.2
        obtain ⟨rfl, watched⟩ := named.resolve_right unfired
        exact ⟨conn', (mem_update wired.distinct mem).mpr (Or.inr rfl), self,
          Or.inl ⟨rfl, ioId watched⟩⟩
      · exact ⟨other, (mem_update wired.distinct mem).mpr (Or.inl ⟨omem, own⟩), rfl, named⟩
    · obtain ⟨_, hmem, same⟩ := List.mem_map.mp new
      obtain ⟨rfl, rfl⟩ := Prod.mk.inj same
      refine ⟨conn', (mem_update wired.distinct mem).mpr (Or.inr rfl), self, ?_⟩
      exact (names _ hmem).imp (fun h => ⟨h.1, h.2.2⟩) And.right
  · intro other omem hook h
    rcases (mem_update wired.distinct mem).mp omem with ⟨old, ne⟩ | rfl
    · refine List.mem_append_left _ (List.mem_filter.mpr ⟨wired.awaited other old hook h, ?_⟩)
      simp [ne]
    · rw [self]
      exact List.mem_append_right _ (List.mem_map_of_mem (awaited hook h))
  · intro a ha b hb aresolving bresolving same
    rcases (mem_update wired.distinct mem).mp ha with ⟨aold, _⟩ | rfl
    · rcases (mem_update wired.distinct mem).mp hb with ⟨bold, _⟩ | rfl
      · exact wired.searches a aold b bold aresolving bresolving same
      · simp [resolving] at bresolving
    · simp [resolving] at aresolving

theorem Wired.unwatch (wired : Wired conns hooks) (self : ℕ) :
    Wired conns (hooks.erase (self, .watch)) := by
  refine ⟨wired.distinct, wired.shaped, wired.nodup.erase _,
    fun address hook h => wired.owned address hook (List.mem_of_mem_erase h), ?_,
    wired.searches⟩
  intro conn mem hook h
  refine (List.mem_erase_of_ne ?_).mpr (wired.awaited conn mem hook h)
  rintro ⟨⟩
  exact h

end Wiring

section Changes

/-- What may happen in a run: whether the profile makes services for devices, whether
services may be removed, whether a device may open a second connection, whether the owner
may accept a NewConnection, and whether a RequestDisconnection may be answered with an
error. -/
structure Regime where
  client : Bool
  removing : Prop
  crowded : Prop
  accepting : Prop
  refusing : Prop

/-- Why a connection goes, and what that does to its service. -/
inductive Ending (r : Regime) (s : State) (conn : ExtIo) : (ServiceState → ServiceState) → Prop
  | rejected (stage : conn.At .authorization) : Ending r s conn id
  | failed (unauthorized : conn.authId = false) (unconnected : conn.connected = false) :
      Ending r s conn (completeConnecting false)
  | hungUp : Ending r s conn hangUp
  | disconnected (serial : ℕ) (stage : conn.At (.disconnReply serial)) (success : Bool)
      (allowed : success = true ∨ r.refusing) : Ending r s conn (completeDisconnecting success)
  | stale (allowed : r.removing) (removed : ∀ service ∈ s.services,
      conn.service = some service.self → service.state = .unavailable) : Ending r s conn id

/-- A move of a connection: its fields afterwards, the service that moves with it and
how, the hooks that are set and the call that is sent. -/
structure Move where
  conn : ExtIo
  service : Option ℕ
  state : ServiceState → ServiceState
  hooks : List Hook
  calls : List (ℕ × Call)

/-- `connecting` and `connected` are the states in which a service can be asked to
disconnect. -/
def onActive (target : ServiceState) : ServiceState → ServiceState
  | .connecting => target
  | .connected => target
  | state => state

inductive Advance (r : Regime) (s : State) (conn : ExtIo) : Move → Prop
  | authorized (stage : conn.At .authorization) :
      Advance r s conn ⟨{ conn with authId := false }, none, id, [.io], []⟩
  | resolved (stage : conn.At (.search conn.device)) (version features psm chan : ℕ) :
      Advance r s conn ⟨{ conn with
        resolving := false, io := true, version := version, features := features,
        psm := psm, chan := chan }, none, id, [.io], []⟩
  | called (stage : conn.At .io) (version features : ℕ) (properties : List (String × ℕ))
      (willing : ∀ service ∈ s.services, conn.service = some service.self →
        service.state ≠ .unavailable ∧ service.state ≠ .disconnecting) :
      Advance r s conn ⟨{ conn with
        ioId := true, pending := some s.bus.length, version := version, features := features },
        conn.service, setConnecting,
        (if conn.ioId then [] else [.watch]) ++ [.newConnReply s.bus.length],
        [(s.bus.length, .newConnection conn.device properties)]⟩
  | accepted (allowed : r.accepting) (serial : ℕ) (stage : conn.At (.newConnReply serial)) :
      Advance r s conn ⟨{ conn with pending := none, connected := true }, conn.service,
        completeConnecting true, [], []⟩
  | disconnecting (service : Service) (mem : service ∈ s.services)
      (found : ∀ device, service.device = some device → findConnection device s = some conn)
      (connected : conn.connected = true) (idle : conn.pending = none)
      (active : service.state = .connecting ∨ service.state = .connected)
      (live : service.device.isSome = true) :
      Advance r s conn ⟨{ conn with pending := some s.bus.length }, some service.self,
        onActive .disconnecting, [.disconnReply s.bus.length],
        [(s.bus.length, .requestDisconnection conn.device)]⟩

/-- A new connection with its hooks. -/
inductive Beginning (r : Regime) (s : State) :
    ExtIo → (ServiceState → ServiceState) → List Hook → Prop
  | incoming (device : ObjectPath) (service : Option ℕ) (authorizing : Bool)
      (serves : service.isSome = r.client)
      (allowed : findConnection device s = none ∨ r.crowded) :
      Beginning r s ⟨s.allocated, device, service, true, true, authorizing, false, false, none,
        0, 0, 0, 0⟩ id [.watch, if authorizing then .authorization else .io]
  | connecting (service : Service) (mem : service ∈ s.services) (device : ObjectPath)
      (alone : findConnection device s = none) (state : service.state = .disconnected)
      (psm chan : ℕ) (resolving : Bool) :
      Beginning r s ⟨s.allocated, device, some service.self, !resolving, false, false, resolving,
        false, none, 0, 0, psm, chan⟩ setConnecting
        [if resolving then .search device else .io]

/-- A service that was asked to disconnect when no call could be sent. -/
inductive Answer (s : State) (service : Service) : (ServiceState → ServiceState) → Prop
  | unconnected (h : ∀ device conn, service.device = some device →
      findConnection device s = some conn → conn.connected = false) :
      Answer s service (onActive .disconnected)
  | busy (device : ObjectPath) (conn : ExtIo) (hdevice : service.device = some device)
      (found : findConnection device s = some conn) (connected : conn.connected = true) :
      Answer s service (onActive .connected)

/-- All that can happen to a state. -/
inductive Change (r : Regime) (s : State) : State → Prop
  | unwatched (self : ℕ) : Change r s { s with hooks := s.hooks.erase (self, .watch) }
  | probed (device : ObjectPath) (serves : r.client = true)
      (new : findService device s = none) :
      Change r s { s with
        allocated := s.allocated + 1
        services := s.services ++ [⟨s.allocated, some device, .disconnected, 0, 1⟩] }
  | answered (service : Service) (mem : service ∈ s.services) (g : ServiceState → ServiceState)
      (answer : Answer s service g) (err : ℤ) :
      Change r s { s with services := restate (some service.self) g err s.services }
  | dropped (conn : ExtIo) (mem : conn ∈ s.conns) (g : ServiceState → ServiceState)
      (ending : Ending r s conn g) (err : ℤ) :
      Change r s { s with
        conns := KeyedList.remove ExtIo.self conn.self s.conns
        hooks := s.hooks.filter (·.1 ≠ conn.self)
        services := release conn.service (restate conn.service g err s.services) }
  | moved (conn : ExtIo) (mem : conn ∈ s.conns) (move : Move) (advance : Advance r s conn move)
      (err : ℤ) :
      Change r s { s with
        conns := KeyedList.update ExtIo.self conn.self (fun _ => move.conn) s.conns
        hooks := s.hooks.filter (fun e => ¬ (e.1 = conn.self ∧ conn.awaits = some e.2)) ++
          move.hooks.map (conn.self, ·)
        bus := s.bus ++ move.calls
        services := restate move.service move.state err s.services }
  | added (conn : ExtIo) (g : ServiceState → ServiceState) (hooks : List Hook)
      (beginning : Beginning r s conn g hooks) (err : ℤ)
      (listed : ∀ self, conn.service = some self →
        ∃ service ∈ s.services, service.self = self ∧ service.device = some conn.device) :
      Change r s { s with
        conns := s.conns ++ [conn]
        hooks := s.hooks ++ hooks.map (conn.self, ·)
        allocated := s.allocated + 1
        services := restate conn.service g err (acquire conn.service s.services) }
  | retired (allowed : r.removing) (service : Service) (mem : service ∈ s.services)
      (live : service.device.isSome = true) :
      Change r s { s with
        services := release (some service.self)
          (KeyedList.update Service.self service.self Service.retire s.services) }
  | unregistered (allowed : r.removing) (conns : s.conns = []) (services : s.services = []) :
      Change r s { s with registered := false }

/-- What holds between any two callbacks. -/
structure Sound (s : State) : Prop where
  wired : Wired s.conns s.hooks
  counted : Counted none s.services s.conns
  connAllocated : ∀ conn ∈ s.conns, conn.self < s.allocated
  serviceAllocated : ∀ service ∈ s.services, service.self < s.allocated
  faultless : s.fault = false

theorem sound_initial : Sound State.initial := by
  refine ⟨⟨List.nodup_nil, ?_, List.nodup_nil, ?_, ?_, ?_⟩, ⟨List.nodup_nil, ?_, ?_, ?_, ?_, ?_⟩,
    ?_, ?_, rfl⟩ <;> simp [State.initial]

variable {r : Regime} {s t : State} {conn : ExtIo} {g : ServiceState → ServiceState}

theorem onActive_keeps {t : ServiceState} (h : t ≠ .unavailable) :
    KeepsRemoved (onActive t) := by
  intro state
  cases state <;> simp [onActive, h]

theorem Ending.keeps (ending : Ending r s conn g) : KeepsRemoved g := by
  cases ending with
  | rejected => exact fun _ => Iff.rfl
  | failed => exact completeConnecting_keeps _
  | hungUp => exact hangUp_keeps
  | disconnected => exact completeDisconnecting_keeps _
  | stale => exact fun _ => Iff.rfl

theorem Answer.keeps {service : Service} (answer : Answer s service g) : KeepsRemoved g := by
  cases answer with
  | unconnected => exact onActive_keeps (by simp)
  | busy => exact onActive_keeps (by simp)

theorem Advance.keeps {move : Move} (advance : Advance r s conn move) : KeepsRemoved move.state := by
  cases advance with
  | authorized => exact fun _ => Iff.rfl
  | resolved => exact fun _ => Iff.rfl
  | called => exact setConnecting_keeps
  | accepted => exact completeConnecting_keeps _
  | disconnecting => exact onActive_keeps (by simp)

theorem Beginning.keeps {hooks : List Hook} (beginning : Beginning r s conn g hooks) :
    KeepsRemoved g := by
  cases beginning with
  | incoming => exact fun _ => Iff.rfl
  | connecting => exact setConnecting_keeps

theorem Advance.fixed {move : Move} (advance : Advance r s conn move) :
    move.conn.self = conn.self ∧ move.conn.device = conn.device ∧
    move.conn.service = conn.service := by
  cases advance <;> exact ⟨rfl, rfl, rfl⟩

theorem Beginning.self {hooks : List Hook} (beginning : Beginning r s conn g hooks) :
    conn.self = s.allocated := by
  cases beginning <;> rfl

theorem wired_moved (sound : Sound s) (mem : conn ∈ s.conns) {move : Move}
    (advance : Advance r s conn move) :
    Wired (KeyedList.update ExtIo.self conn.self (fun _ => move.conn) s.conns)
      (s.hooks.filter (fun e => ¬ (e.1 = conn.self ∧ conn.awaits = some e.2)) ++
        move.hooks.map (conn.self, ·)) := by
  have shaped := sound.wired.shaped conn mem
  obtain ⟨self, device, _⟩ := advance.fixed
  cases advance with
  | authorized stage =>
      have stage : conn.authId = true := stage
      obtain ⟨resolving, pending, connected⟩ := shaped.auth stage
      refine sound.wired.update mem self device ⟨?_, ?_, shaped.channel⟩ resolving id ?_ ?_ ?_
      · simp
      · simp [resolving]
      · simp
      · simp [ExtIo.At, stage, resolving, pending, connected]
      · intro hook h
        simpa [ExtIo.awaits, resolving, pending, connected, eq_comm] using
          awaits_eq_some_iff.mpr h
  | resolved stage version features psm chan =>
      obtain ⟨auth, resolving, _⟩ := stage
      obtain ⟨pending, connected⟩ := shaped.search resolving
      refine sound.wired.update mem self device ⟨?_, ?_, ?_⟩ rfl id ?_ ?_ ?_
      · simp [auth]
      · simp
      · simp
      · simp
      · simp [ExtIo.At, auth, resolving, pending, connected]
      · intro hook h
        simpa [ExtIo.awaits, auth, pending, connected, eq_comm] using awaits_eq_some_iff.mpr h
  | called stage version features properties willing =>
      obtain ⟨auth, resolving, pending, connected⟩ := stage
      refine sound.wired.update mem self device ⟨?_, ?_, shaped.channel⟩ resolving
        (fun _ => rfl) ?_ ?_ ?_
      · simp [auth]
      · simp [resolving]
      · split <;> simp
      · cases watched : conn.ioId <;> simp [ExtIo.At, auth, resolving, pending, connected]
      · intro hook h
        have h := awaits_eq_some_iff.mpr h
        simp only [ExtIo.awaits, auth, resolving, connected, Bool.false_eq_true, if_false,
          Option.some.injEq] at h
        simp [← h]
  | accepted _ serial stage =>
      obtain ⟨auth, resolving, pending, connected⟩ := stage
      refine sound.wired.update mem self device ⟨?_, ?_, shaped.channel⟩ resolving id ?_ ?_ ?_
      · simp [auth]
      · simp [resolving]
      · simp
      · simp
      · intro hook h
        simpa [ExtIo.awaits, auth, resolving] using awaits_eq_some_iff.mpr h
  | disconnecting service _ found connected idle active live =>
      have auth : conn.authId = false := by
        by_contra h
        simp [(shaped.auth (by simpa using h)).2.2] at connected
      have resolving : conn.resolving = false := by
        by_contra h
        simp [(shaped.search (by simpa using h)).2] at connected
      refine sound.wired.update mem self device ⟨?_, ?_, shaped.channel⟩ resolving id ?_ ?_ ?_
      · simp [auth]
      · simp [resolving]
      · simp
      · simp [ExtIo.At, auth, resolving, idle, connected]
      · intro hook h
        simpa [ExtIo.awaits, auth, resolving, connected, eq_comm] using awaits_eq_some_iff.mpr h

theorem wired_added (sound : Sound s) {hooks : List Hook} (beginning : Beginning r s conn g hooks) :
    Wired (s.conns ++ [conn]) (s.hooks ++ hooks.map (conn.self, ·)) := by
  have fresh : ∀ other ∈ s.conns, other.self ≠ conn.self := by
    intro other mem
    rw [beginning.self]
    exact (sound.connAllocated other mem).ne
  cases beginning with
  | incoming device service authorizing _ _ =>
      refine sound.wired.concat fresh ⟨?_, ?_, ?_⟩ ?_ ?_ ?_ ?_
      · simp
      · simp
      · simp
      · cases authorizing <;> simp
      · cases authorizing <;> simp [ExtIo.At]
      · intro hook h
        have h := awaits_eq_some_iff.mpr h
        refine List.mem_cons_of_mem _ (List.mem_singleton.mpr ?_)
        cases authorizing <;> simpa [ExtIo.awaits, eq_comm] using h
      · simp
  | connecting service mem device alone state psm chan resolving =>
      refine sound.wired.concat fresh ⟨?_, ?_, ?_⟩ ?_ ?_ ?_ ?_
      · simp
      · simp
      · simp
      · simp
      · cases resolving <;> simp [ExtIo.At]
      · intro hook h
        have h := awaits_eq_some_iff.mpr h
        cases resolving <;> simpa [ExtIo.awaits, eq_comm] using h
      · intro _ other omem
        simpa using List.find?_eq_none.mp alone other omem

/-- Only the service at the address moves, and all keep their addresses and devices. -/
theorem of_mem_restate {services : List Service} {at' : Option ℕ} {err : ℤ}
    {service : Service} (mem : service ∈ restate at' g err services) :
    ∃ old ∈ services, old.self = service.self ∧ old.device = service.device ∧
      (at' = some old.self ∧ service.state = g old.state ∨
        at' ≠ some old.self ∧ service.state = old.state) := by
  cases at' with
  | none => exact ⟨service, mem, rfl, rfl, Or.inr ⟨by simp, rfl⟩⟩
  | some self =>
      obtain ⟨old, omem, rfl⟩ := List.mem_map.mp mem
      refine ⟨old, omem, ?_⟩
      by_cases h : old.self = self
      · simp [h]
      · simp [h, Ne.symm h]

theorem of_mem_acquire {services : List Service} {self : Option ℕ} {service : Service}
    (mem : service ∈ acquire self services) :
    ∃ old ∈ services, old.self = service.self ∧ old.device = service.device ∧
      old.state = service.state := by
  cases self with
  | none => exact ⟨service, mem, rfl, rfl, rfl⟩
  | some self =>
      obtain ⟨old, omem, rfl⟩ := List.mem_map.mp mem
      refine ⟨old, omem, ?_⟩
      split <;> exact ⟨rfl, rfl, rfl⟩

/-- What is left after a reference has been given back is as before but for the
counter. -/
theorem of_mem_release {services : List Service} {self : Option ℕ} {service : Service}
    (mem : service ∈ release self services) :
    ∃ old ∈ services, old.self = service.self ∧ old.state = service.state ∧
      old.device = service.device := by
  cases self with
  | none => exact ⟨service, mem, rfl, rfl, rfl⟩
  | some self =>
      simp only [release] at mem
      split at mem
      · exact ⟨service, mem, rfl, rfl, rfl⟩
      · split at mem
        · obtain ⟨old, omem, rfl⟩ := List.mem_map.mp mem
          refine ⟨old, omem, ?_⟩
          split <;> exact ⟨rfl, rfl, rfl⟩
        · exact ⟨service, (mem_remove.mp mem).1, rfl, rfl, rfl⟩

/-- The service of a connection is there, whatever state it is put in. -/
theorem Counted.there {extra : Option ℕ} {services : List Service} {conns : List ExtIo}
    (counted : Counted extra services conns) (mem : conn ∈ conns) (g : ServiceState → ServiceState)
    (err : ℤ) (self : ℕ) (holds : conn.service = some self) :
    ∃ service ∈ ExtProfile.restate conn.service g err services, service.self = self := by
  obtain ⟨service, smem, hself, _⟩ := counted.held conn mem self holds
  rw [holds]
  refine ⟨_, List.mem_map_of_mem smem, ?_⟩
  split <;> exact hself

theorem Change.sound (sound : Sound s) (change : Change r s t) : Sound t := by
  cases change with
  | unwatched self =>
      exact ⟨sound.wired.unwatch self, sound.counted, sound.connAllocated,
        sound.serviceAllocated, sound.faultless⟩
  | probed device _ new =>
      refine ⟨sound.wired, ?_, fun conn mem => (sound.connAllocated conn mem).trans (Nat.lt_succ_self _),
        ?_, sound.faultless⟩
      · refine sound.counted.probe (fun other mem => (sound.serviceAllocated other mem).ne)
          (by simp [Service.Proper]) rfl rfl ?_ ?_
        · intro other mem
          simpa using List.find?_eq_none.mp new other mem
        · intro conn mem holds
          obtain ⟨service, smem, hself, _⟩ := sound.counted.held conn mem _ holds
          exact (sound.serviceAllocated service smem).ne hself
      · intro service mem
        rcases List.mem_append.mp mem with old | new
        · exact (sound.serviceAllocated service old).trans (Nat.lt_succ_self _)
        · rw [List.mem_singleton.mp new]
          exact Nat.lt_succ_self _
  | answered service mem g answer err =>
      refine ⟨sound.wired, sound.counted.restate answer.keeps (some service.self) err,
        sound.connAllocated, ?_, sound.faultless⟩
      intro other omem
      obtain ⟨old, oldmem, same, _⟩ := @of_mem_restate _ _ (some service.self) err _ omem
      exact same ▸ sound.serviceAllocated old oldmem
  | dropped conn mem g ending err =>
      have left := (sound.counted.restate ending.keeps conn.service err).remove
        sound.wired.distinct mem
      refine ⟨sound.wired.remove conn.self, left.release (sound.counted.there mem g err),
        fun other omem => sound.connAllocated other (mem_remove.mp omem).1, ?_, sound.faultless⟩
      intro service smem
      obtain ⟨old, oldmem, same, _⟩ := of_mem_release smem
      obtain ⟨older, oldermem, same', _⟩ := of_mem_restate oldmem
      exact (same'.trans same) ▸ sound.serviceAllocated older oldermem
  | moved conn mem move advance err =>
      obtain ⟨self, device, service⟩ := advance.fixed
      refine ⟨wired_moved sound mem advance,
        (sound.counted.restate advance.keeps _ _).update sound.wired.distinct mem self service device,
        ?_, ?_, sound.faultless⟩
      · intro other omem
        rcases (mem_update sound.wired.distinct mem).mp omem with ⟨old, _⟩ | rfl
        · exact sound.connAllocated other old
        · exact self ▸ sound.connAllocated conn mem
      · intro other omem
        obtain ⟨old, oldmem, same, _⟩ := of_mem_restate omem
        exact same ▸ sound.serviceAllocated old oldmem
  | added conn g hooks beginning err listed =>
      refine ⟨wired_added sound beginning, ?_, ?_, ?_, sound.faultless⟩
      · refine ((sound.counted.acquire conn.service).restate beginning.keeps _ _).concat ?_
        intro self holds
        obtain ⟨service, smem, hself, hdevice⟩ := listed self holds
        rw [holds]
        refine ⟨_, List.mem_map_of_mem (List.mem_map_of_mem smem), ?_⟩
        rw [if_pos hself, if_pos (by exact hself)]
        exact ⟨hself, hdevice⟩
      · intro other omem
        rcases List.mem_append.mp omem with old | new
        · exact (sound.connAllocated other old).trans (Nat.lt_succ_self _)
        · rw [List.mem_singleton.mp new, beginning.self]
          exact Nat.lt_succ_self _
      · intro service smem
        obtain ⟨old, oldmem, same, _⟩ := of_mem_restate smem
        obtain ⟨older, oldermem, same', _⟩ := of_mem_acquire oldmem
        exact ((same'.trans same) ▸ sound.serviceAllocated older oldermem).trans
          (Nat.lt_succ_self _)
  | retired _ service mem live =>
      refine ⟨sound.wired, (sound.counted.retire mem live).release ?_, sound.connAllocated, ?_,
        sound.faultless⟩
      · rintro self ⟨⟩
        exact ⟨_, (mem_update sound.counted.distinct mem).mpr (Or.inr rfl), rfl⟩
      · intro other omem
        obtain ⟨old, oldmem, same, _⟩ := @of_mem_release _ (some service.self) _ omem
        rcases (mem_update sound.counted.distinct mem).mp oldmem with ⟨older, _⟩ | rfl
        · exact same ▸ sound.serviceAllocated old older
        · exact same ▸ sound.serviceAllocated service mem
  | unregistered => exact ⟨sound.wired, sound.counted, sound.connAllocated,
      sound.serviceAllocated, sound.faultless⟩

/-- A sequence of changes. -/
abbrev Changes (r : Regime) : State → State → Prop := Relation.ReflTransGen (Change r)

theorem Changes.sound (sound : Sound s) (changes : Changes r s t) : Sound t := by
  induction changes with
  | refl => exact sound
  | tail _ change ih => exact change.sound ih

end Changes

end BluezTutorial.ExtProfile
