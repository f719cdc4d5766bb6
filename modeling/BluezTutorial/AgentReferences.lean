import BluezTutorial.AgentManager
import BluezTutorial.LabelledRun

/-! How long agents and authentications live. `holders` has every place in which an agent
is referred to; as long as the code behaves, the counters of the agents are balanced
with it, and what an agent has been asked is about an authentication that is still there and
has a reference to that agent.

The code does not always behave. `passkey_reply` and `display_pincode_reply` do not keep
the agent for themselves, unlike `pincode_reply` and `simple_agent_reply`, and their
callback may give its last reference away. `device_free` frees an authentication and
leaves the request about it with the agent. -/

namespace BluezTutorial.AgentManager
open KeyedList ReferenceCount ProfileManager LabelledRun

section Sound

/-- One entry for each reference to an agent. -/
def holders (s : State) : List ℕ :=
  s.agentList.map Prod.snd ++ s.authrs.filterMap AuthenticationReq.agent ++
    s.bondings.filterMap BondingReq.agent ++ s.held ++ s.leaked

structure Listed (agents : List Agent) (agentList : List (String × ℕ)) (defaultAgents : List ℕ)
    (lastAgent : ℕ) : Prop where
  fresh : ∀ agent ∈ agents, agent.id ≤ lastAgent
  owners : Distinct Prod.fst agentList
  owned : ∀ entry ∈ agentList, ∀ agent ∈ agents, agent.id = entry.2 → agent.owner = entry.1
  defaults : ∀ id ∈ defaultAgents, id ∈ agentList.map Prod.snd
  once : defaultAgents.Nodup

/-- A request is about an authentication that has the agent. -/
structure Pending (agents : List Agent) (authrs : List AuthenticationReq) (lastAuth : ℕ) :
    Prop where
  devices : Distinct AuthenticationReq.device authrs
  serials : Distinct AuthenticationReq.serial authrs
  fresh : ∀ auth ∈ authrs, auth.serial ≤ lastAuth
  asked : ∀ agent ∈ agents, ∀ request, agent.request = some request →
    ∃ auth ∈ authrs, auth.device = request.device ∧ auth.serial = request.serial ∧
      auth.agent = some agent.id ∧ auth.type = request.type.authType
  displayed : ∀ auth ∈ authrs, auth.type = .notifyPasskey → auth.agent.isSome = true

/-- The kernel is told one thing about an authentication, and nothing about one that has
its agent still. -/
structure Told (authrs : List AuthenticationReq) (replies : List (ObjectPath × ℕ × KernelReply))
    (lastAuth : ℕ) : Prop where
  fresh : ∀ reply ∈ replies, reply.2.1 ≤ lastAuth
  waiting : ∀ auth ∈ authrs, auth.agent.isSome = true → ∀ reply ∈ replies,
    reply.2.1 ≠ auth.serial
  once : (replies.map fun reply => reply.2.1).Nodup

structure Sound (s : State) : Prop where
  balanced : Balanced counter s.agents (holders s)
  listed : Listed s.agents s.agentList s.defaultAgents s.lastAgent
  pending : Pending s.agents s.authrs s.lastAuth
  told : Told s.authrs s.replies s.lastAuth
  bondings : Distinct BondingReq.device s.bondings
  faultless : s.fault = false

/-- The agents that are left are the ones that were there, with no new request. -/
def Traces (before after : List Agent) : Prop := ∀ agent ∈ after, ∃ old ∈ before,
  old.id = agent.id ∧ old.owner = agent.owner ∧ old.path = agent.path ∧
    old.capability = agent.capability ∧ (agent.request = none ∨ agent.request = old.request)

variable {s t : State} {agents agents' : List Agent} {authrs : List AuthenticationReq}
  {agentList : List (String × ℕ)} {defaultAgents : List ℕ} {lastAgent lastAuth id : ℕ}
  {auth : AuthenticationReq} {replies : List (ObjectPath × ℕ × KernelReply)}

theorem traces_acquire (id : ℕ) (agents : List Agent) :
    Traces agents (acquire counter id agents) := by
  intro agent mem
  obtain ⟨old, omem, -, rfl | rfl⟩ := mem_acquire mem
  · exact ⟨agent, omem, rfl, rfl, rfl, rfl, Or.inr rfl⟩
  · exact ⟨old, omem, rfl, rfl, rfl, rfl, Or.inr rfl⟩

theorem traces_release (id : ℕ) (agents : List Agent) :
    Traces agents (release counter id agents) := by
  intro agent mem
  obtain ⟨old, omem, -, rfl | rfl⟩ := mem_release mem
  · exact ⟨agent, omem, rfl, rfl, rfl, rfl, Or.inr rfl⟩
  · exact ⟨old, omem, rfl, rfl, rfl, rfl, Or.inr rfl⟩

/-- The heap after `agent->request = NULL`. -/
def clear (id : ℕ) (agents : List Agent) : List Agent :=
  update Agent.id id (fun agent => { agent with request := none }) agents

theorem traces_clear (id : ℕ) (agents : List Agent) : Traces agents (clear id agents) := by
  intro agent mem
  obtain ⟨old, omem, rfl⟩ := List.mem_map.mp mem
  by_cases same : old.id = id
  · rw [if_pos same]
    exact ⟨old, omem, rfl, rfl, rfl, rfl, Or.inl rfl⟩
  · rw [if_neg same]
    exact ⟨old, omem, rfl, rfl, rfl, rfl, Or.inr rfl⟩

theorem mem_clear {agent : Agent} (mem : agent ∈ clear id agents) (same : agent.id = id) :
    agent.request = none := by
  obtain ⟨old, omem, rfl⟩ := List.mem_map.mp mem
  by_cases equal : old.id = id
  · rw [if_pos equal]
  · rw [if_neg equal] at same
    exact absurd same equal

theorem Traces.request {agent : Agent} {request : AgentRequest} (traces : Traces agents agents')
    (mem : agent ∈ agents') (asked : agent.request = some request) :
    ∃ old ∈ agents, old.id = agent.id ∧ old.request = some request := by
  obtain ⟨old, omem, same, -, -, -, none | kept⟩ := traces agent mem
  · rw [none] at asked
    cases asked
  · exact ⟨old, omem, same, kept ▸ asked⟩

theorem Listed.trace (listed : Listed agents agentList defaultAgents lastAgent)
    (traces : Traces agents agents') : Listed agents' agentList defaultAgents lastAgent := by
  refine ⟨fun agent mem => ?_, listed.owners, fun entry emem agent mem same => ?_,
    listed.defaults, listed.once⟩
  · obtain ⟨old, omem, same, -⟩ := traces agent mem
    exact same ▸ listed.fresh old omem
  · obtain ⟨old, omem, equal, owner, -⟩ := traces agent mem
    exact owner ▸ listed.owned entry emem old omem (equal.trans same)

theorem Pending.trace (pending : Pending agents authrs lastAuth)
    (traces : Traces agents agents') : Pending agents' authrs lastAuth := by
  refine ⟨pending.devices, pending.serials, pending.fresh, fun agent mem request asked => ?_,
    pending.displayed⟩
  obtain ⟨old, omem, same, kept⟩ := traces.request mem asked
  exact same ▸ pending.asked old omem request kept

/-- The authentication that a request is about is the one of its device. -/
theorem Pending.asked_eq {agent : Agent} {request : AgentRequest}
    (pending : Pending agents authrs lastAuth) (mem : agent ∈ agents)
    (asked : agent.request = some request) (amem : auth ∈ authrs)
    (about : auth.device = request.device) :
    auth.serial = request.serial ∧ auth.agent = some agent.id ∧
      auth.type = request.type.authType := by
  obtain ⟨other, omem, device, found⟩ := pending.asked agent mem request asked
  obtain rfl := pending.devices.eq_of_key_eq omem amem (device.trans about.symm)
  exact found

theorem Pending.removed (pending : Pending agents authrs lastAuth) {device : ObjectPath}
    (quiet : ∀ agent ∈ agents, ∀ request, agent.request = some request →
      request.device ≠ device) :
    Pending agents (remove AuthenticationReq.device device authrs) lastAuth := by
  refine ⟨pending.devices.remove device, (List.filter_sublist.map _).nodup pending.serials,
    fun auth mem => pending.fresh auth (mem_remove.mp mem).1,
    fun agent mem request asked => ?_, fun auth mem => pending.displayed auth (mem_remove.mp mem).1⟩
  obtain ⟨auth, amem, about, found⟩ := pending.asked agent mem request asked
  exact ⟨auth, mem_remove.mpr ⟨amem, about ▸ quiet agent mem request asked⟩, about, found⟩

/-- The authentication of a device changes, and no request is about it. -/
theorem Pending.revised (pending : Pending agents authrs lastAuth) {device : ObjectPath}
    {f : AuthenticationReq → AuthenticationReq}
    (keeps : ∀ auth, (f auth).device = auth.device ∧ (f auth).serial = auth.serial)
    (quiet : ∀ agent ∈ agents, ∀ request, agent.request = some request →
      request.device ≠ device)
    (displayed : ∀ auth ∈ authrs, auth.device = device → (f auth).type = .notifyPasskey →
      (f auth).agent.isSome = true) :
    Pending agents (update AuthenticationReq.device device f authrs) lastAuth := by
  have serials : (update AuthenticationReq.device device f authrs).map
      AuthenticationReq.serial = authrs.map AuthenticationReq.serial := by
    rw [update, List.map_map]
    refine List.map_congr_left fun auth _ => ?_
    by_cases same : auth.device = device
    · simp [same, (keeps auth).2]
    · simp [same]
  have each : ∀ auth ∈ update AuthenticationReq.device device f authrs,
      (auth ∈ authrs ∧ auth.device ≠ device) ∨
        ∃ old ∈ authrs, old.device = device ∧ auth = f old := by
    intro auth mem
    obtain ⟨old, omem, rfl⟩ := List.mem_map.mp mem
    by_cases same : old.device = device
    · exact Or.inr ⟨old, omem, same, if_pos same⟩
    · exact Or.inl ⟨by rwa [if_neg same], by rwa [if_neg same]⟩
  refine ⟨pending.devices.update fun auth same => (keeps auth).1.trans same, ?_, ?_, ?_, ?_⟩
  · rw [Distinct, serials]
    exact pending.serials
  · intro auth mem
    rcases each auth mem with ⟨old, -⟩ | ⟨old, omem, -, rfl⟩
    · exact pending.fresh auth old
    · rw [(keeps old).2]
      exact pending.fresh old omem
  · intro agent mem request asked
    obtain ⟨auth, amem, about, found⟩ := pending.asked agent mem request asked
    have other : auth.device ≠ device := about ▸ quiet agent mem request asked
    exact ⟨auth, List.mem_map.mpr ⟨auth, amem, if_neg other⟩, about, found⟩
  · intro auth mem type
    rcases each auth mem with ⟨old, -⟩ | ⟨old, omem, same, rfl⟩
    · exact pending.displayed auth old type
    · exact displayed old omem same type

theorem Told.sublist {authrs' : List AuthenticationReq} (told : Told authrs replies lastAuth)
    (fewer : ∀ auth ∈ authrs', auth.agent.isSome = true → ∃ old ∈ authrs,
      old.serial = auth.serial ∧ old.agent.isSome = true) : Told authrs' replies lastAuth := by
  refine ⟨told.fresh, fun auth mem some reply rmem => ?_, told.once⟩
  obtain ⟨old, omem, same, osome⟩ := fewer auth mem some
  exact same ▸ told.waiting old omem osome reply rmem

theorem sound_initial : Sound State.initial := by
  refine ⟨balanced_nil, ⟨?_, List.nodup_nil, ?_, ?_, List.nodup_nil⟩,
    ⟨List.nodup_nil, List.nodup_nil, ?_, ?_, ?_⟩, ⟨?_, ?_, List.nodup_nil⟩, List.nodup_nil, rfl⟩ <;>
    simp [State.initial]

/-- No request is about the device. -/
def Quiet (device : ObjectPath) (agents : List Agent) : Prop :=
  ∀ agent ∈ agents, ∀ request, agent.request = some request → request.device ≠ device

theorem Quiet.trace {device : ObjectPath} (quiet : Quiet device agents)
    (traces : Traces agents agents') : Quiet device agents' := by
  intro agent mem request asked
  obtain ⟨old, omem, -, kept⟩ := traces.request mem asked
  exact quiet old omem request kept

theorem Sound.quiet_of_none (sound : Sound s) (mem : auth ∈ s.authrs) (none : auth.agent = none) :
    Quiet auth.device s.agents := by
  intro agent amem request asked same
  have holds := (sound.pending.asked_eq amem asked mem same.symm).2.1
  rw [none] at holds
  cases holds

theorem Sound.quiet_of_absent (sound : Sound s) {device : ObjectPath}
    (absent : ∀ auth ∈ s.authrs, auth.device ≠ device) : Quiet device s.agents := by
  intro agent mem request asked about
  obtain ⟨auth, amem, same, -⟩ := sound.pending.asked agent mem request asked
  exact absent auth amem (same.trans about)

/-- After a request of its agent has been dropped, nobody asks about an authentication. -/
theorem Sound.quiet_clear (sound : Sound s) (mem : auth ∈ s.authrs) (holds : auth.agent = some id) :
    Quiet auth.device (clear id s.agents) := by
  intro agent amem request asked same
  obtain ⟨old, omem, equal, kept⟩ := (traces_clear id s.agents).request amem asked
  have owner := (sound.pending.asked_eq omem kept mem same.symm).2.1
  rw [holds, Option.some.injEq] at owner
  rw [mem_clear amem (equal.symm.trans owner.symm)] at asked
  cases asked

theorem Sound.cleared (sound : Sound s) (id : ℕ) :
    Sound { s with agents := clear id s.agents } where
  balanced := sound.balanced.update_same (fun _ => rfl) fun _ => rfl
  listed := sound.listed.trace (traces_clear id s.agents)
  pending := sound.pending.trace (traces_clear id s.agents)
  told := sound.told
  bondings := sound.bondings
  faultless := sound.faultless

/-- Up to order, the references of the authentications without the one of `auth`. -/
theorem perm_agents_remove (sound : Sound s) (mem : auth ∈ s.authrs) :
    (s.authrs.filterMap AuthenticationReq.agent).Perm (auth.agent.toList ++
      (remove AuthenticationReq.device auth.device s.authrs).filterMap AuthenticationReq.agent) := by
  refine ((perm_cons_remove sound.pending.devices mem).filterMap _).trans (List.Perm.of_eq ?_)
  cases holds : auth.agent with
  | none => rw [List.filterMap_cons_none holds, Option.toList_none, List.nil_append]
  | some id => rw [List.filterMap_cons_some holds, Option.toList_some, List.singleton_append]

/-- The reference of an authentication comes first. -/
theorem holders_perm_auth (sound : Sound s) (mem : auth ∈ s.authrs) (holds : auth.agent = some id) :
    (holders s).Perm (id :: holders { s with
      authrs := remove AuthenticationReq.device auth.device s.authrs }) := by
  have part := perm_agents_remove sound mem
  rw [List.perm_iff_count] at part ⊢
  intro a
  have count := part a
  simp only [holders, holds, Option.toList_some, List.count_append, List.count_cons,
    List.count_nil] at count ⊢
  omega

theorem told_remove (told : Told s.authrs replies lastAuth) (device : ObjectPath) :
    Told (remove AuthenticationReq.device device s.authrs) replies lastAuth :=
  told.sublist fun auth mem some => ⟨auth, (mem_remove.mp mem).1, rfl, some⟩

theorem Sound.freed (sound : Sound s) (mem : auth ∈ s.authrs) (holds : auth.agent = some id)
    (quiet : Quiet auth.device s.agents) :
    Sound { s with
      agents := release counter id s.agents
      authrs := remove AuthenticationReq.device auth.device s.authrs } where
  balanced := (sound.balanced.perm (holders_perm_auth sound mem holds)).release
  listed := sound.listed.trace (traces_release id s.agents)
  pending := (sound.pending.removed quiet).trace (traces_release id s.agents)
  told := told_remove sound.told auth.device
  bondings := sound.bondings
  faultless := sound.faultless

theorem Sound.left (sound : Sound s) (mem : auth ∈ s.authrs) (none : auth.agent = none) :
    Sound { s with authrs := remove AuthenticationReq.device auth.device s.authrs } where
  balanced := by
    refine sound.balanced.perm (List.perm_iff_count.mpr fun a => ?_)
    have count := List.perm_iff_count.mp (perm_agents_remove sound mem) a
    rw [none, Option.toList_none, List.nil_append] at count
    simp only [holders, List.count_append, count]
  listed := sound.listed
  pending := sound.pending.removed (sound.quiet_of_none mem none)
  told := told_remove sound.told auth.device
  bondings := sound.bondings
  faultless := sound.faultless

theorem Sound.leak (sound : Sound s) (mem : auth ∈ s.authrs) (holds : auth.agent = some id)
    (quiet : Quiet auth.device s.agents) :
    Sound { s with
      authrs := remove AuthenticationReq.device auth.device s.authrs
      leaked := s.leaked ++ [id] } where
  balanced := by
    refine sound.balanced.perm ((holders_perm_auth sound mem holds).trans
      (List.perm_iff_count.mpr fun a => ?_))
    simp only [holders, List.count_append, List.count_cons, List.count_nil]
    omega
  listed := sound.listed
  pending := sound.pending.removed quiet
  told := told_remove sound.told auth.device
  bondings := sound.bondings
  faultless := sound.faultless

/-- The authentications after the callback of one. -/
def detach (device : ObjectPath) (authrs : List AuthenticationReq) : List AuthenticationReq :=
  update AuthenticationReq.device device (fun auth => { auth with agent := none }) authrs

theorem mem_detach {lastDevice : ObjectPath} (mem : auth ∈ detach lastDevice authrs) (some : auth.agent.isSome = true) :
    auth ∈ authrs ∧ auth.device ≠ lastDevice := by
  obtain ⟨old, omem, rfl⟩ := List.mem_map.mp mem
  by_cases same : old.device = lastDevice
  · simp [same] at some
  · rw [if_neg same]
    exact ⟨omem, same⟩

theorem holders_perm_detach (sound : Sound s) (mem : auth ∈ s.authrs)
    (holds : auth.agent = some id) :
    (holders s).Perm (id :: holders { s with authrs := detach auth.device s.authrs }) := by
  refine (holders_perm_auth sound mem holds).trans (List.Perm.cons _ ?_)
  have others := (perm_update (f := fun auth => { auth with agent := none })
    sound.pending.devices mem).filterMap AuthenticationReq.agent
  rw [List.filterMap_cons_none rfl] at others
  rw [List.perm_iff_count] at others ⊢
  intro a
  have count := others a
  simp only [holders, detach, List.count_append] at count ⊢
  omega

theorem Sound.answered (sound : Sound s) (mem : auth ∈ s.authrs) (holds : auth.agent = some id)
    (quiet : Quiet auth.device s.agents) (type : auth.type ≠ .notifyPasskey)
    (reply : KernelReply) :
    Sound { s with
      agents := release counter id s.agents
      authrs := detach auth.device s.authrs
      replies := s.replies ++ [(auth.device, auth.serial, reply)] } where
  balanced := (sound.balanced.perm (holders_perm_detach sound mem holds)).release
  listed := sound.listed.trace (traces_release id s.agents)
  pending := by
    refine (sound.pending.revised (f := fun auth => { auth with agent := none })
      (fun _ => ⟨rfl, rfl⟩) quiet ?_).trace (traces_release id s.agents)
    intro other omem same notify
    rw [sound.pending.devices.eq_of_key_eq omem mem same] at notify
    exact absurd notify type
  told := by
    have waiting := sound.told.waiting auth mem (by simp [holds])
    refine ⟨fun answer amem => ?_, fun other omem some answer amem => ?_, ?_⟩
    · rcases List.mem_append.mp amem with old | new
      · exact sound.told.fresh answer old
      · rw [List.mem_singleton.mp new]
        exact sound.pending.fresh auth mem
    · obtain ⟨omem, ne⟩ := mem_detach omem some
      rcases List.mem_append.mp amem with old | new
      · exact sound.told.waiting other omem some answer old
      · rw [List.mem_singleton.mp new]
        intro same
        exact ne (by rw [sound.pending.serials.eq_of_key_eq mem omem same])
    · rw [List.map_append]
      refine sound.told.once.append (List.nodup_singleton _) fun serial old new => ?_
      obtain ⟨answer, amem, rfl⟩ := List.mem_map.mp old
      exact waiting answer amem (List.mem_singleton.mp new)
  bondings := sound.bondings
  faultless := sound.faultless

theorem Sound.opened (sound : Sound s) (held : id ∈ holders s) {device : ObjectPath}
    (new : ∀ auth ∈ s.authrs, auth.device ≠ device) (type : AuthType) (pincode : Option String) :
    Sound { s with
      agents := acquire counter id s.agents
      authrs := s.authrs ++ [⟨device, s.lastAuth + 1, type, some id, pincode⟩]
      lastAuth := s.lastAuth + 1 } where
  balanced := by
    refine (sound.balanced.acquire held).perm (List.perm_iff_count.mpr fun a => ?_)
    simp only [holders, List.filterMap_append, List.filterMap_cons, List.filterMap_nil,
      List.count_append, List.count_cons, List.count_nil]
    omega
  listed := sound.listed.trace (traces_acquire id s.agents)
  pending := by
    obtain ⟨devices, serials, fresh, asked, displayed⟩ :=
      sound.pending.trace (traces_acquire id s.agents)
    refine ⟨devices.concat new, serials.concat fun auth mem => ?_, fun auth mem => ?_,
      fun agent mem request isAsked => ?_, fun auth mem notify => ?_⟩
    · exact (Nat.lt_succ_of_le (fresh auth mem)).ne
    · rcases List.mem_append.mp mem with old | new
      · exact Nat.le_succ_of_le (fresh auth old)
      · rw [List.mem_singleton.mp new]
    · obtain ⟨auth, amem, found⟩ := asked agent mem request isAsked
      exact ⟨auth, List.mem_append_left _ amem, found⟩
    · rcases List.mem_append.mp mem with old | new
      · exact displayed auth old notify
      · rw [List.mem_singleton.mp new]
        rfl
  told := by
    refine ⟨fun reply mem => Nat.le_succ_of_le (sound.told.fresh reply mem),
      fun auth mem some reply rmem => ?_, sound.told.once⟩
    rcases List.mem_append.mp mem with old | new
    · exact sound.told.waiting auth old some reply rmem
    · rw [List.mem_singleton.mp new]
      exact (Nat.lt_succ_of_le (sound.told.fresh reply rmem)).ne
  bondings := sound.bondings
  faultless := sound.faultless

theorem Sound.ask (sound : Sound s) (mem : auth ∈ s.authrs) (holds : auth.agent = some id)
    {type : RequestType} (same : auth.type = type.authType) :
    Sound { s with
      agents := update Agent.id id
        (fun agent => { agent with request := some ⟨type, auth.device, auth.serial⟩ })
        s.agents } where
  balanced := sound.balanced.update_same (fun _ => rfl) fun _ => rfl
  listed := by
    refine ⟨fun agent amem => ?_, sound.listed.owners, fun entry emem agent amem equal => ?_,
      sound.listed.defaults, sound.listed.once⟩
    · obtain ⟨old, omem, rfl⟩ := List.mem_map.mp amem
      by_cases h : old.id = id
      · rw [if_pos h]
        exact sound.listed.fresh old omem
      · rw [if_neg h]
        exact sound.listed.fresh old omem
    · obtain ⟨old, omem, rfl⟩ := List.mem_map.mp amem
      by_cases h : old.id = id
      · rw [if_pos h] at equal ⊢
        exact sound.listed.owned entry emem old omem equal
      · rw [if_neg h] at equal ⊢
        exact sound.listed.owned entry emem old omem equal
  pending := by
    refine ⟨sound.pending.devices, sound.pending.serials, sound.pending.fresh,
      fun agent amem request isAsked => ?_, sound.pending.displayed⟩
    obtain ⟨old, omem, rfl⟩ := List.mem_map.mp amem
    by_cases h : old.id = id
    · rw [if_pos h] at isAsked ⊢
      obtain rfl := Option.some.inj isAsked
      exact ⟨auth, mem, rfl, rfl, by rw [holds, h], same⟩
    · rw [if_neg h] at isAsked ⊢
      exact sound.pending.asked old omem request isAsked
  told := sound.told
  bondings := sound.bondings
  faultless := sound.faultless

theorem Sound.hold (sound : Sound s) (held : id ∈ holders s) :
    Sound { s with agents := acquire counter id s.agents, held := s.held ++ [id] } where
  balanced := by
    refine (sound.balanced.acquire held).perm (List.perm_iff_count.mpr fun a => ?_)
    simp only [holders, List.count_append, List.count_cons, List.count_nil]
    omega
  listed := sound.listed.trace (traces_acquire id s.agents)
  pending := sound.pending.trace (traces_acquire id s.agents)
  told := sound.told
  bondings := sound.bondings
  faultless := sound.faultless

theorem holders_perm_held (mem : id ∈ s.held) :
    (holders s).Perm (id :: holders { s with held := s.held.erase id }) := by
  have part := List.perm_cons_erase mem
  rw [List.perm_iff_count] at part ⊢
  intro a
  have count := part a
  simp only [holders, List.count_append, List.count_cons] at count ⊢
  omega

theorem Sound.drop (sound : Sound s) (mem : id ∈ s.held) :
    Sound { s with agents := release counter id s.agents, held := s.held.erase id } where
  balanced := (sound.balanced.perm (holders_perm_held mem)).release
  listed := sound.listed.trace (traces_release id s.agents)
  pending := sound.pending.trace (traces_release id s.agents)
  told := sound.told
  bondings := sound.bondings
  faultless := sound.faultless

theorem Sound.bond (sound : Sound s) (held : id ∈ holders s) {device : ObjectPath}
    (new : ∀ bonding ∈ s.bondings, bonding.device ≠ device) :
    Sound { s with
      agents := acquire counter id s.agents, bondings := s.bondings ++ [⟨device, some id⟩] } where
  balanced := by
    refine (sound.balanced.acquire held).perm (List.perm_iff_count.mpr fun a => ?_)
    simp only [holders, List.filterMap_append, List.filterMap_cons, List.filterMap_nil,
      List.count_append, List.count_cons, List.count_nil]
    omega
  listed := sound.listed.trace (traces_acquire id s.agents)
  pending := sound.pending.trace (traces_acquire id s.agents)
  told := sound.told
  bondings := sound.bondings.concat new
  faultless := sound.faultless

theorem Sound.bond_none (sound : Sound s) {device : ObjectPath}
    (new : ∀ bonding ∈ s.bondings, bonding.device ≠ device) :
    Sound { s with bondings := s.bondings ++ [⟨device, none⟩] } where
  balanced := by
    refine sound.balanced.perm (List.perm_iff_count.mpr fun a => ?_)
    simp [holders]
  listed := sound.listed
  pending := sound.pending
  told := sound.told
  bondings := sound.bondings.concat new
  faultless := sound.faultless

theorem holders_perm_bonding (sound : Sound s) {bonding : BondingReq}
    (mem : bonding ∈ s.bondings) :
    (holders s).Perm (bonding.agent.toList ++ holders { s with
      bondings := remove BondingReq.device bonding.device s.bondings }) := by
  have part := (perm_cons_remove sound.bondings mem).filterMap BondingReq.agent
  rw [List.perm_iff_count] at part ⊢
  intro a
  have count := part a
  cases holds : bonding.agent with
  | none =>
      rw [List.filterMap_cons_none holds] at count
      simp only [holders, Option.toList_none, List.nil_append, List.count_append] at count ⊢
      omega
  | some id =>
      rw [List.filterMap_cons_some holds] at count
      simp only [holders, Option.toList_some, List.singleton_append, List.count_append,
        List.count_cons] at count ⊢
      omega

theorem Sound.unbond (sound : Sound s) {bonding : BondingReq} (mem : bonding ∈ s.bondings)
    (holds : bonding.agent = some id) :
    Sound { s with
      agents := release counter id s.agents
      bondings := remove BondingReq.device bonding.device s.bondings } where
  balanced := by
    have perm := holders_perm_bonding sound mem
    rw [holds, Option.toList_some, List.singleton_append] at perm
    exact (sound.balanced.perm perm).release
  listed := sound.listed.trace (traces_release id s.agents)
  pending := sound.pending.trace (traces_release id s.agents)
  told := sound.told
  bondings := sound.bondings.remove _
  faultless := sound.faultless

theorem Sound.unbond_none (sound : Sound s) {bonding : BondingReq} (mem : bonding ∈ s.bondings)
    (none : bonding.agent = none) :
    Sound { s with bondings := remove BondingReq.device bonding.device s.bondings } where
  balanced := by
    have perm := holders_perm_bonding sound mem
    rw [none, Option.toList_none, List.nil_append] at perm
    exact sound.balanced.perm perm
  listed := sound.listed
  pending := sound.pending
  told := sound.told
  bondings := sound.bondings.remove _
  faultless := sound.faultless

theorem Sound.mem_listed (sound : Sound s) {entry : String × ℕ} (mem : entry ∈ s.agentList) :
    ∃ agent ∈ s.agents, agent.id = entry.2 ∧ agent.owner = entry.1 := by
  have held : entry.2 ∈ holders s := by
    simp only [holders, List.mem_append]
    exact Or.inl (Or.inl (Or.inl (Or.inl (List.mem_map_of_mem mem))))
  obtain ⟨agent, amem, same⟩ := sound.balanced.alive _ held
  exact ⟨agent, amem, same, sound.listed.owned entry mem agent amem same⟩

theorem Sound.registered (sound : Sound s) {sender : String} (path : ObjectPath)
    (cap : IoCapability) (new : ∀ entry ∈ s.agentList, entry.1 ≠ sender) :
    Sound { s with
      agents := s.agents ++ [⟨s.lastAgent + 1, sender, path, cap, 1, none⟩]
      agentList := s.agentList ++ [(sender, s.lastAgent + 1)]
      lastAgent := s.lastAgent + 1 } where
  balanced := by
    have fresh : ∀ agent ∈ s.agents, agent.id ≠ s.lastAgent + 1 :=
      fun agent mem => (Nat.lt_succ_of_le (sound.listed.fresh agent mem)).ne
    have concat := sound.balanced.concat
      (x := (⟨s.lastAgent + 1, sender, path, cap, 1, none⟩ : Agent)) rfl fresh
    refine concat.perm (List.perm_iff_count.mpr fun a => ?_)
    simp only [holders, counter, List.map_append, List.map_cons, List.map_nil, List.count_append,
      List.count_cons, List.count_nil]
    omega
  listed := by
    obtain ⟨fresh, owners, owned, defaults, once⟩ := sound.listed
    refine ⟨fun agent mem => ?_, owners.concat new, fun entry emem agent mem same => ?_,
      fun id mem => ?_, once⟩
    · rcases List.mem_append.mp mem with old | new
      · exact Nat.le_succ_of_le (fresh agent old)
      · rw [List.mem_singleton.mp new]
    · rcases List.mem_append.mp mem with old | new
      · rcases List.mem_append.mp emem with eold | enew
        · exact owned entry eold agent old same
        · rw [List.mem_singleton.mp enew] at same
          exact absurd same (Nat.lt_succ_of_le (fresh agent old)).ne
      · rcases List.mem_append.mp emem with eold | enew
        · rw [List.mem_singleton.mp new] at same
          obtain ⟨other, omem, equal, -⟩ := sound.mem_listed eold
          exact absurd (equal.trans same.symm) (Nat.lt_succ_of_le (fresh other omem)).ne
        · rw [List.mem_singleton.mp new, List.mem_singleton.mp enew]
    · rw [List.map_append]
      exact List.mem_append_left _ (defaults id mem)
  pending := by
    obtain ⟨devices, serials, fresh, asked, displayed⟩ := sound.pending
    refine ⟨devices, serials, fresh, fun agent mem request isAsked => ?_, displayed⟩
    rcases List.mem_append.mp mem with old | new
    · exact asked agent old request isAsked
    · rw [List.mem_singleton.mp new] at isAsked
      cases isAsked
  told := sound.told
  bondings := sound.bondings
  faultless := sound.faultless

theorem holders_perm_listed (sound : Sound s) {entry : String × ℕ} (mem : entry ∈ s.agentList) :
    (holders s).Perm (entry.2 :: holders { s with
      agentList := remove Prod.fst entry.1 s.agentList }) := by
  have part := (perm_cons_remove sound.listed.owners mem).map Prod.snd
  rw [List.perm_iff_count] at part ⊢
  intro a
  have count := part a
  simp only [holders, List.map_cons, List.count_append, List.count_cons] at count ⊢
  omega

theorem Sound.unlisted (sound : Sound s) {entry : String × ℕ} (mem : entry ∈ s.agentList)
    (plain : entry.2 ∉ s.defaultAgents) :
    Sound { s with
      agents := release counter entry.2 s.agents
      agentList := remove Prod.fst entry.1 s.agentList } where
  balanced := (sound.balanced.perm (holders_perm_listed sound mem)).release
  listed := by
    obtain ⟨fresh, owners, owned, defaults, once⟩ :=
      sound.listed.trace (traces_release entry.2 s.agents)
    refine ⟨fresh, owners.remove _, fun other omem => owned other (mem_remove.mp omem).1,
      fun id dmem => ?_, once⟩
    obtain ⟨other, omem, rfl⟩ := List.mem_map.mp (defaults id dmem)
    refine List.mem_map_of_mem (mem_remove.mpr ⟨omem, fun same => ?_⟩)
    exact plain (owners.eq_of_key_eq omem mem same ▸ dmem)
  pending := sound.pending.trace (traces_release entry.2 s.agents)
  told := sound.told
  bondings := sound.bondings
  faultless := sound.faultless

/-- The queue of default agents and what else is not about references. -/
theorem Sound.defaulted (sound : Sound s) {defaultAgents : List ℕ}
    (defaults : ∀ id ∈ defaultAgents, id ∈ s.agentList.map Prod.snd) (once : defaultAgents.Nodup)
    (adapters : List Adapter) (requested : List ℕ) :
    Sound { s with
      defaultAgents := defaultAgents, adapters := adapters, requested := requested } where
  balanced := sound.balanced
  listed := ⟨sound.listed.fresh, sound.listed.owners, sound.listed.owned, defaults, once⟩
  pending := sound.pending
  told := sound.told
  bondings := sound.bondings
  faultless := sound.faultless

end Sound

section Functions

variable {s : State} {id : ℕ} {auth : AuthenticationReq} {rest : List ℕ} {device : ObjectPath}

theorem onAgent_eq {agent : Agent} {f : Agent → State} (distinct : Distinct Agent.id s.agents)
    (mem : agent ∈ s.agents) (same : agent.id = id) : onAgent id s f = f agent := by
  rw [onAgent, (KeyedList.find_eq_some distinct).mpr ⟨mem, same⟩]

theorem exists_agent {agents : List Agent} (balanced : Balanced counter agents rest)
    (held : id ∈ rest) : ∃ agent ∈ agents, agent.id = id := balanced.alive id held

theorem agentRef_eq (balanced : Balanced counter s.agents rest) (held : id ∈ rest) :
    agentRef id s = { s with agents := acquire counter id s.agents } := by
  obtain ⟨agent, mem, rfl⟩ := exists_agent balanced held
  exact onAgent_eq balanced.distinct mem rfl

theorem agentRequestFree_eq (balanced : Balanced counter s.agents rest) (held : id ∈ rest) :
    agentRequestFree id s = { s with agents := clear id s.agents } := by
  obtain ⟨agent, mem, rfl⟩ := exists_agent balanced held
  exact onAgent_eq balanced.distinct mem rfl

/-- A reference can be given back if the agent has no request or another reference. -/
theorem agentUnref_eq (balanced : Balanced counter s.agents (id :: rest))
    (safe : ∀ agent ∈ s.agents, agent.id = id → agent.request.isSome = true → id ∈ rest) :
    agentUnref id s = { s with agents := release counter id s.agents } := by
  obtain ⟨agent, mem, rfl⟩ := exists_agent balanced List.mem_cons_self
  have count : agent.ref = (agent.id :: rest).count agent.id := balanced.count agent mem
  rw [List.count_cons_self] at count
  unfold agentUnref
  rw [onAgent_eq balanced.distinct mem rfl]
  simp only
  split
  · rfl
  · next single =>
      have unasked : agent.request = none := by
        rw [← Option.not_isSome_iff_eq_none]
        intro asked
        have again := List.count_pos_iff.mpr (safe agent mem rfl asked)
        exact single (by omega)
      simp [unasked]

/-- While another place is emptied, the authentication that a request is about keeps its
reference. -/
theorem Sound.asked_held (sound : Sound s) {agent : Agent} (mem : agent ∈ s.agents)
    (asked : agent.request.isSome = true) :
    agent.id ∈ s.authrs.filterMap AuthenticationReq.agent := by
  obtain ⟨request, isAsked⟩ := Option.isSome_iff_exists.mp asked
  obtain ⟨auth, amem, -, -, holds, -⟩ := sound.pending.asked agent mem request isAsked
  exact List.mem_filterMap.mpr ⟨auth, amem, holds⟩

theorem mem_holders_auth (mem : id ∈ s.authrs.filterMap AuthenticationReq.agent) :
    id ∈ holders s := by
  simp only [holders, List.mem_append]
  exact Or.inl (Or.inl (Or.inl (Or.inr mem)))

theorem Sound.holds (mem : auth ∈ s.authrs) (holds : auth.agent = some id) : id ∈ holders s :=
  mem_holders_auth (List.mem_filterMap.mpr ⟨auth, mem, holds⟩)

/-- If no request is about a device, an agent has been asked about another authentication
or not at all. -/
theorem Sound.asked_elsewhere (sound : Sound s) (quiet : Quiet device s.agents) :
    ∀ agent ∈ s.agents, agent.id = id → agent.request.isSome = true → id ∈ holders { s with
      authrs := remove AuthenticationReq.device device s.authrs } := by
  rintro agent amem rfl asked
  obtain ⟨request, isAsked⟩ := Option.isSome_iff_exists.mp asked
  obtain ⟨other, omem, about, -, holds, -⟩ := sound.pending.asked agent amem request isAsked
  refine mem_holders_auth (List.mem_filterMap.mpr ⟨other, mem_remove.mpr ⟨omem, ?_⟩, holds⟩)
  exact about ▸ quiet agent amem request isAsked

theorem findAuthr_eq_some (sound : Sound s) : findAuthr device s = some auth ↔
    auth ∈ s.authrs ∧ auth.device = device :=
  KeyedList.find_eq_some sound.pending.devices

theorem findAuthr_eq_none : findAuthr device s = none ↔
    ∀ auth ∈ s.authrs, auth.device ≠ device := by
  simp [findAuthr, KeyedList.find]

theorem deviceAuthReqFree_eq (sound : Sound s) (mem : auth ∈ s.authrs)
    (holds : auth.agent = some id) (quiet : Quiet auth.device s.agents) :
    deviceAuthReqFree auth.device s = { s with
      agents := release counter id s.agents
      authrs := remove AuthenticationReq.device auth.device s.authrs } := by
  have unref := agentUnref_eq (sound.balanced.perm (holders_perm_auth sound mem holds))
    (sound.asked_elsewhere quiet)
  unfold deviceAuthReqFree
  rw [(findAuthr_eq_some sound).mpr ⟨mem, rfl⟩]
  simp only [holds, unref]

theorem deviceAuthReqFree_sound (sound : Sound s) (quiet : Quiet device s.agents) :
    Sound (deviceAuthReqFree device s) := by
  obtain found | ⟨auth, found⟩ := Option.eq_none_or_eq_some (findAuthr device s)
  · rw [deviceAuthReqFree, found]
    exact sound
  · obtain ⟨mem, rfl⟩ := (findAuthr_eq_some sound).mp found
    cases holds : auth.agent with
    | some id =>
        rw [deviceAuthReqFree_eq sound mem holds quiet]
        exact sound.freed mem holds quiet
    | none =>
        simp only [deviceAuthReqFree, found, holds]
        exact sound.left mem holds

theorem find_detach {authrs : List AuthenticationReq}
    (distinct : Distinct AuthenticationReq.device authrs) (mem : auth ∈ authrs) :
    KeyedList.find AuthenticationReq.device auth.device (detach auth.device authrs) =
      some { auth with agent := none } := by
  have found : KeyedList.find AuthenticationReq.device auth.device (detach auth.device authrs) =
      (KeyedList.find AuthenticationReq.device auth.device authrs).map
        fun auth => { auth with agent := none } := find_update fun _ same => same
  rw [found, (KeyedList.find_eq_some distinct).mpr ⟨mem, rfl⟩, Option.map_some]

theorem remove_detach (device : ObjectPath) (authrs : List AuthenticationReq) :
    remove AuthenticationReq.device device (detach device authrs) =
      remove AuthenticationReq.device device authrs :=
  remove_update fun _ same => same

/-- The reference of a canceled authentication is not given back. -/
theorem deviceAuthReqFree_cancelAuthentication (sound : Sound s) (mem : auth ∈ s.authrs)
    (holds : auth.agent = some id) :
    deviceAuthReqFree auth.device (cancelAuthentication auth s) = { s with
      authrs := remove AuthenticationReq.device auth.device s.authrs
      leaked := s.leaked ++ [id] } := by
  have canceled : cancelAuthentication auth s = { s with
      authrs := detach auth.device s.authrs
      leaked := s.leaked ++ [id] } := by
    simp only [cancelAuthentication, holds]
    rfl
  rw [canceled]
  simp only [deviceAuthReqFree, findAuthr, find_detach sound.pending.devices mem, remove_detach]

theorem deviceCancelAuthentication_sound (sound : Sound s) (device : ObjectPath)
    (aborted : Bool) : Sound (deviceCancelAuthentication device aborted s) := by
  obtain found | ⟨auth, found⟩ := Option.eq_none_or_eq_some (findAuthr device s)
  · rw [deviceCancelAuthentication, found]
    exact sound
  · obtain ⟨mem, rfl⟩ := (findAuthr_eq_some sound).mp found
    cases holds : auth.agent with
    | none =>
        have quiet := sound.quiet_of_none mem holds
        simp only [deviceCancelAuthentication, found, holds, cancelAuthentication, ite_self]
        exact deviceAuthReqFree_sound sound quiet
    | some id =>
        have quiet := sound.quiet_clear mem holds
        simp only [deviceCancelAuthentication, found, holds]
        rw [agentCancel, agentRequestFree_eq sound.balanced (Sound.holds mem holds)]
        cases aborted with
        | true => exact deviceAuthReqFree_sound (sound.cleared id) quiet
        | false =>
            rw [if_neg Bool.false_ne_true, deviceAuthReqFree_cancelAuthentication
              (sound.cleared id) mem holds]
            exact (sound.cleared id).leak mem holds quiet

theorem findBonding_eq_some (sound : Sound s) {bonding : BondingReq} :
    findBonding device s = some bonding ↔ bonding ∈ s.bondings ∧ bonding.device = device :=
  KeyedList.find_eq_some sound.bondings

theorem findBonding_eq_none : findBonding device s = none ↔
    ∀ bonding ∈ s.bondings, bonding.device ≠ device := by
  simp [findBonding, KeyedList.find]

theorem bondingRequestFree_sound (sound : Sound s) (device : ObjectPath) :
    Sound (bondingRequestFree device s) := by
  obtain found | ⟨bonding, found⟩ := Option.eq_none_or_eq_some (findBonding device s)
  · rw [bondingRequestFree, found]
    exact sound
  · obtain ⟨mem, rfl⟩ := (findBonding_eq_some sound).mp found
    cases holds : bonding.agent with
    | none =>
        simp only [bondingRequestFree, found, holds]
        exact sound.unbond_none mem holds
    | some id =>
        have perm := holders_perm_bonding sound mem
        rw [holds, Option.toList_some, List.singleton_append] at perm
        have canceled : agentCancel id s = { s with agents := clear id s.agents } :=
          agentRequestFree_eq sound.balanced (perm.mem_iff.mpr List.mem_cons_self)
        have unref := agentUnref_eq (s := { s with agents := clear id s.agents })
          ((sound.cleared id).balanced.perm perm) fun agent amem same asked => by
            rw [mem_clear amem same] at asked
            cases asked
        simp only [bondingRequestFree, found, holds, canceled, unref]
        exact (sound.cleared id).unbond mem holds

theorem deviceBondingFailed_sound (sound : Sound s) (device : ObjectPath) :
    Sound (deviceBondingFailed device s) := by
  unfold deviceBondingFailed
  split
  · exact sound
  · exact bondingRequestFree_sound (deviceCancelAuthentication_sound sound device false) device

theorem deviceCancelBonding_sound (sound : Sound s) (device : ObjectPath) :
    Sound (deviceCancelBonding device s) :=
  deviceBondingFailed_sound sound device

theorem deviceBondingComplete_sound (sound : Sound s) (device : ObjectPath)
    (success paired : Bool) : Sound (deviceBondingComplete device success paired s) := by
  have canceled : ∃ t, Sound t ∧ Quiet device t.agents ∧
      deviceBondingComplete device success paired s =
        if !success then deviceBondingFailed device (deviceCancelAuthentication device true t)
        else if paired then deviceAuthReqFree device t
        else bondingRequestFree device (deviceAuthReqFree device t) := by
    obtain found | ⟨auth, found⟩ := Option.eq_none_or_eq_some (findAuthr device s)
    · refine ⟨s, sound, sound.quiet_of_absent (findAuthr_eq_none.mp found), ?_⟩
      simp only [deviceBondingComplete, found, Option.bind_none]
    · obtain ⟨mem, rfl⟩ := (findAuthr_eq_some sound).mp found
      cases holds : auth.agent with
      | none =>
          refine ⟨s, sound, sound.quiet_of_none mem holds, ?_⟩
          simp only [deviceBondingComplete, found, Option.bind_some, holds]
      | some id =>
          refine ⟨_, sound.cleared id, sound.quiet_clear mem holds, ?_⟩
          simp only [deviceBondingComplete, found, Option.bind_some, holds, agentCancel,
            agentRequestFree_eq sound.balanced (Sound.holds mem holds)]
  obtain ⟨t, after, quiet, equal⟩ := canceled
  rw [equal]
  split
  · exact deviceBondingFailed_sound (deviceCancelAuthentication_sound after device true) device
  · split
    · exact deviceAuthReqFree_sound after quiet
    · exact bondingRequestFree_sound (deviceAuthReqFree_sound after quiet) device

theorem agentGet_mem (sound : Sound s) {owner : Option String} (h : agentGet owner s = some id) :
    id ∈ s.agentList.map Prod.snd := by
  unfold agentGet at h
  split at h
  · next entry found =>
      obtain ⟨name, -, found⟩ := Option.bind_eq_some_iff.mp found
      rw [← Option.some.inj h]
      exact List.mem_map_of_mem (List.mem_of_find?_eq_some found)
  · exact sound.listed.defaults id (List.mem_of_head? h)

theorem mem_holders_listed (mem : id ∈ s.agentList.map Prod.snd) : id ∈ holders s := by
  simp only [holders, List.mem_append]
  exact Or.inl (Or.inl (Or.inl (Or.inl mem)))

/-- A reference that the code takes for a while. -/
theorem agentUnref_acquire (balanced : Balanced counter s.agents rest) (held : id ∈ rest) :
    agentUnref id { s with agents := acquire counter id s.agents } = s := by
  rw [agentUnref_eq (balanced.acquire held) fun _ _ _ _ => held]
  obtain ⟨agent, mem, rfl⟩ := exists_agent balanced held
  have same := release_acquire balanced.distinct mem (balanced.positive agent mem)
  simp only [counter] at same ⊢
  rw [same]

/-- Of the two references that `pair_device` takes it gives one back. -/
theorem agentUnref_agentRef_agentRef (sound : Sound s) (held : id ∈ holders s) :
    agentUnref id (agentRef id (agentRef id s)) =
      { s with agents := acquire counter id s.agents } := by
  have once := sound.balanced.acquire held
  rw [agentRef_eq sound.balanced held, agentRef_eq once List.mem_cons_self]
  exact agentUnref_acquire once List.mem_cons_self

theorem pairDevice_sound (sound : Sound s) (device : ObjectPath) (sender : String)
    (created : Bool) : Sound (pairDevice device sender created s) := by
  obtain found | ⟨bonding, found⟩ := Option.eq_none_or_eq_some (findBonding device s)
  · have new := findBonding_eq_none.mp found
    have bonded : ∃ t, Sound t ∧ pairDevice device sender created s =
        if created then t else bondingRequestFree device t := by
      obtain none | ⟨id, some⟩ := Option.eq_none_or_eq_some (agentGet (some sender) s)
      · refine ⟨_, sound.bond_none new, ?_⟩
        simp only [pairDevice, found, none]
      · have held := mem_holders_listed (agentGet_mem sound some)
        refine ⟨_, sound.bond held new, ?_⟩
        simp only [pairDevice, found, some, agentUnref_agentRef_agentRef sound held]
    obtain ⟨t, after, equal⟩ := bonded
    rw [equal]
    split
    · exact after
    · exact bondingRequestFree_sound after device
  · rw [pairDevice, found]
    exact sound

theorem newAuth_eq_some (sound : Sound s) {type : AuthType} {pincode : Option String} {t : State}
    (h : newAuth device type pincode s = some (id, t)) :
    Sound t ∧ Quiet device t.agents ∧
      ⟨device, t.lastAuth, type, some id, pincode⟩ ∈ t.authrs := by
  unfold newAuth at h
  split at h
  · cases h
  · next absent =>
      rw [Option.not_isSome_iff_eq_none, findAuthr_eq_none] at absent
      split at h
      · cases h
      · next chosen some =>
          have held : chosen ∈ holders s := by
            rcases Option.or_eq_some_iff.mp some with bonded | ⟨-, default⟩
            · obtain ⟨bonding, found, holds⟩ := Option.bind_eq_some_iff.mp bonded
              have mem := ((findBonding_eq_some sound).mp found).1
              refine (holders_perm_bonding sound mem).mem_iff.mpr ?_
              simp [holds]
            · exact mem_holders_listed (agentGet_mem sound default)
          rw [agentRef_eq sound.balanced held] at h
          simp only [Option.some.injEq, Prod.mk.injEq] at h
          obtain ⟨rfl, rfl⟩ := h
          exact ⟨sound.opened held absent type pincode,
            (sound.quiet_of_absent absent).trace (traces_acquire chosen s.agents), by simp⟩

theorem deviceRequest_sound (sound : Sound s) (type : RequestType) (device : ObjectPath)
    (pincode : Option String) (sent : Bool) : Sound (deviceRequest type device pincode sent s) := by
  unfold deviceRequest
  split
  · exact sound
  · next id t opened =>
      obtain ⟨after, quiet, mem⟩ := newAuth_eq_some sound opened
      obtain ⟨agent, amem, rfl⟩ := exists_agent after.balanced (Sound.holds mem rfl)
      have found := (KeyedList.find_eq_some after.balanced.distinct).mpr ⟨amem, rfl⟩
      simp only [counter] at found
      simp only [agentRequest, found]
      split
      · exact deviceAuthReqFree_sound after quiet
      · exact after.ask mem rfl rfl

theorem displayPasskey_sound (sound : Sound s) (mem : auth ∈ s.authrs)
    (holds : auth.agent = some id) (quiet : Quiet auth.device s.agents) (sent : Bool) :
    Sound (displayPasskey auth.device (some id) sent s) := by
  obtain ⟨agent, amem, rfl⟩ := exists_agent sound.balanced (Sound.holds mem holds)
  simp only [displayPasskey]
  rw [onAgent_eq sound.balanced.distinct amem rfl]
  split
  · exact sound
  · exact deviceAuthReqFree_sound sound quiet

theorem authType_ne_notifyPasskey (type : RequestType) : type.authType ≠ .notifyPasskey := by
  cases type <;> simp [RequestType.authType]

theorem deviceNotifyPasskey_sound (sound : Sound s) (device : ObjectPath) (sent : Bool) :
    Sound (deviceNotifyPasskey device sent s) := by
  obtain found | ⟨auth, found⟩ := Option.eq_none_or_eq_some (findAuthr device s)
  · simp only [deviceNotifyPasskey, found]
    split
    · exact sound
    · next id t opened =>
        obtain ⟨after, quiet, mem⟩ := newAuth_eq_some sound opened
        exact displayPasskey_sound after mem rfl quiet sent
  · obtain ⟨mem, rfl⟩ := (findAuthr_eq_some sound).mp found
    simp only [deviceNotifyPasskey, found]
    split
    · exact sound
    · next notify =>
        rw [ne_eq, not_not] at notify
        obtain ⟨id, holds⟩ := Option.isSome_iff_exists.mp
          (sound.pending.displayed auth mem notify)
        rw [holds]
        refine displayPasskey_sound sound mem holds (fun agent amem request asked about => ?_) sent
        have type := (sound.pending.asked_eq amem asked mem about.symm).2.2
        exact authType_ne_notifyPasskey request.type (type.symm.trans notify)

end Functions

section Manager

variable {s : State} {id : ℕ} {entry : String × ℕ}

/-- The capability that a default agent gives the adapters. -/
def capabilityOf (agents : List Agent) (agent : Option ℕ) : IoCapability :=
  match agent.bind fun id => KeyedList.find Agent.id id agents with
  | none => .noInputNoOutput
  | some agent => agent.capability

def tell (ioCapability : IoCapability) (adapters : List Adapter) : List Adapter :=
  adapters.map fun adapter => { adapter with ioCapability := some ioCapability }

theorem capabilityOf_eq {agents : List Agent} {agent : Agent} (distinct : Distinct Agent.id agents)
    (mem : agent ∈ agents) : capabilityOf agents (some agent.id) = agent.capability := by
  rw [capabilityOf, Option.bind_some, (KeyedList.find_eq_some distinct).mpr ⟨mem, rfl⟩]

theorem setIoCap_eq (distinct : Distinct Agent.id s.agents) {agent : Option ℕ}
    (alive : ∀ id ∈ agent, ∃ agent ∈ s.agents, agent.id = id) :
    setIoCap agent s = { s with adapters := tell (capabilityOf s.agents agent) s.adapters } := by
  cases agent with
  | none => rfl
  | some id =>
      obtain ⟨agent, mem, rfl⟩ := alive id rfl
      simp only [setIoCap]
      rw [onAgent_eq distinct mem rfl, capabilityOf_eq distinct mem, tell]

theorem Sound.exists_default (sound : Sound s) (mem : id ∈ s.defaultAgents) :
    ∃ agent ∈ s.agents, agent.id = id :=
  exists_agent sound.balanced (mem_holders_listed (sound.listed.defaults id mem))

theorem addDefaultAgent_eq (sound : Sound s) (mem : id ∈ s.agentList.map Prod.snd) :
    addDefaultAgent id s = if s.defaultAgents.head? = some id then s else { s with
      defaultAgents := id :: s.defaultAgents.erase id
      adapters := tell (capabilityOf s.agents (some id)) s.adapters } := by
  unfold addDefaultAgent
  split
  · rfl
  · refine setIoCap_eq (s := { s with defaultAgents := id :: s.defaultAgents.erase id })
      sound.balanced.distinct fun other isHead => ?_
    obtain rfl := Option.some.inj isHead
    exact exists_agent sound.balanced (mem_holders_listed mem)

theorem removeDefaultAgent_eq (sound : Sound s) (id : ℕ) :
    removeDefaultAgent id s = { s with
      defaultAgents := s.defaultAgents.erase id
      adapters := if s.defaultAgents.head? = some id then
          tell (capabilityOf s.agents (s.defaultAgents.erase id).head?) s.adapters
        else s.adapters } := by
  unfold removeDefaultAgent
  by_cases isHead : s.defaultAgents.head? = some id
  · simp only [isHead, ne_eq, not_true_eq_false, if_false, if_true]
    exact setIoCap_eq (s := { s with defaultAgents := s.defaultAgents.erase id })
      sound.balanced.distinct fun other mem =>
        sound.exists_default (List.mem_of_mem_erase (List.mem_of_head? mem))
  · simp only [isHead, ne_eq, not_false_eq_true, if_true, if_false]

theorem removeDefaultAgent_of_notMem (absent : id ∉ s.defaultAgents) :
    removeDefaultAgent id s = s := by
  have other : s.defaultAgents.head? ≠ some id := fun isHead => absent (List.mem_of_head? isHead)
  simp only [removeDefaultAgent, List.erase_of_not_mem absent, ne_eq, other, not_false_eq_true,
    if_true]

theorem Sound.undefaulted (sound : Sound s) (id : ℕ) : Sound (removeDefaultAgent id s) := by
  rw [removeDefaultAgent_eq sound]
  exact sound.defaulted (fun other mem => sound.listed.defaults other (List.mem_of_mem_erase mem))
    (sound.listed.once.erase id) _ s.requested

theorem agentDisconnect_eq (sound : Sound s) (mem : entry ∈ s.agentList) :
    agentDisconnect entry.2 s = { removeDefaultAgent entry.2 s with
      agents := release counter entry.2 s.agents
      agentList := remove Prod.fst entry.1 s.agentList } := by
  obtain ⟨agent, amem, same, owner⟩ := sound.mem_listed mem
  have after := sound.undefaulted entry.2
  have absent : entry.2 ∉ s.defaultAgents.erase entry.2 := fun h =>
    (sound.listed.once.mem_erase_iff.mp h).1 rfl
  have found : KeyedList.find Prod.fst entry.1 s.agentList = some entry :=
    (KeyedList.find_eq_some sound.listed.owners).mpr ⟨mem, rfl⟩
  unfold agentDisconnect
  rw [removeDefaultAgent_eq sound] at after ⊢
  generalize (if s.defaultAgents.head? = some entry.2 then
    tell (capabilityOf s.agents (s.defaultAgents.erase entry.2).head?) s.adapters
    else s.adapters) = adapters at after ⊢
  simp only
  rw [onAgent_eq after.balanced.distinct amem same, owner, found]
  simp only [agentDestroy]
  rw [removeDefaultAgent_of_notMem absent]
  refine agentUnref_eq (after.balanced.perm (holders_perm_listed after mem)) ?_
  intro other omem equal asked
  exact equal ▸ mem_holders_auth (sound.asked_held omem asked)

theorem agentDisconnect_sound (sound : Sound s) (mem : entry ∈ s.agentList) :
    Sound (agentDisconnect entry.2 s) := by
  have after := sound.undefaulted entry.2
  rw [agentDisconnect_eq sound mem]
  rw [removeDefaultAgent_eq sound] at after ⊢
  exact after.unlisted mem fun h => (sound.listed.once.mem_erase_iff.mp h).1 rfl

theorem senderAgent_eq_ok {sender : String} {path : Option ObjectPath}
    (h : senderAgent sender path s = .ok id) : ∃ entry ∈ s.agentList, entry.2 = id := by
  unfold senderAgent at h
  split at h
  · cases h
  · next entry found =>
      split at h
      · cases h
      · split at h
        · cases h
        · split at h
          · exact ⟨entry, List.mem_of_find?_eq_some found, Except.ok.inj h⟩
          · cases h

theorem registerAgent_sound (sound : Sound s) (sender : String) (path : Option ObjectPath)
    (capability : String) : Sound (registerAgent sender path capability s).1 := by
  unfold registerAgent
  split
  · exact sound
  · next absent =>
      rw [Option.not_isSome_iff_eq_none] at absent
      split
      · next _ _ path cap _ =>
          exact sound.registered path cap fun entry mem => by
            simpa using List.find?_eq_none.mp absent entry mem
      · exact sound

theorem requestDefault_sound (sound : Sound s) (sender : String) (path : Option ObjectPath) :
    Sound (requestDefault sender path s).1 := by
  unfold requestDefault
  split
  · exact sound
  · next id found =>
      obtain ⟨entry, mem, rfl⟩ := senderAgent_eq_ok found
      have listed : entry.2 ∈ s.agentList.map Prod.snd := List.mem_map_of_mem mem
      have noted := sound.defaulted sound.listed.defaults sound.listed.once s.adapters
        (s.requested ++ [entry.2])
      rw [addDefaultAgent_eq noted listed]
      split
      · exact noted
      · refine sound.defaulted (fun id dmem => ?_) ?_ _ _
        · rcases List.mem_cons.mp dmem with rfl | old
          · exact listed
          · exact sound.listed.defaults id (List.mem_of_mem_erase old)
        · refine List.nodup_cons.mpr ⟨fun h => ?_, sound.listed.once.erase _⟩
          exact (sound.listed.once.mem_erase_iff.mp h).1 rfl

theorem unregisterAgent_sound (sound : Sound s) (sender : String) (path : Option ObjectPath) :
    Sound (unregisterAgent sender path s).1 := by
  unfold unregisterAgent
  split
  · exact sound
  · next id found =>
      obtain ⟨entry, mem, rfl⟩ := senderAgent_eq_ok found
      exact agentDisconnect_sound sound mem

theorem adapterRegister_eq (sound : Sound s) (index : ℕ) :
    adapterRegister index s = { s with
      adapters := s.adapters ++ [⟨index, s.defaultAgents.head?.map fun id =>
        capabilityOf s.agents (some id)⟩] } := by
  have get : agentGet none { s with adapters := s.adapters ++ [⟨index, none⟩] } =
      s.defaultAgents.head? := rfl
  unfold adapterRegister
  simp only [get]
  cases head : s.defaultAgents.head? with
  | none => rfl
  | some id =>
      have default : id ∈ s.defaultAgents := List.mem_of_head? head
      have held := mem_holders_listed (sound.listed.defaults id default)
      obtain ⟨agent, mem, rfl⟩ := sound.exists_default default
      have acquired := sound.balanced.acquire held
      obtain ⟨again, amem, same⟩ := exists_agent acquired List.mem_cons_self
      obtain ⟨old, omem, equal, -, -, capability, -⟩ := traces_acquire agent.id s.agents again amem
      obtain rfl := sound.balanced.distinct.eq_of_key_eq omem mem (equal.trans same)
      have known : capabilityOf s.agents (some old.id) = again.capability :=
        (capabilityOf_eq sound.balanced.distinct mem).trans capability
      have ref : agentRef old.id { s with adapters := s.adapters ++ [⟨index, none⟩] } =
          { s with
            agents := acquire counter old.id s.agents
            adapters := s.adapters ++ [⟨index, none⟩] } := agentRef_eq sound.balanced held
      simp only [ref]
      rw [onAgent_eq (s := { s with
        agents := acquire counter old.id s.agents
        adapters := s.adapters ++ [⟨index, none⟩] }) acquired.distinct amem same]
      simp only [List.dropLast_concat, Option.map_some, known]
      exact agentUnref_acquire (s := { s with
        adapters := s.adapters ++ [⟨index, some again.capability⟩] }) sound.balanced held

end Manager

section Replies

variable {s : State} {id : ℕ} {agent : Agent} {request : AgentRequest} {auth : AuthenticationReq}

theorem callback_eq {reply : AuthenticationReq → KernelReply} {agents : List Agent}
    (found : findAuthr request.device s = some auth) (serial : auth.serial = request.serial)
    (holds : auth.agent = some id)
    (unref : agentUnref id { s with
        replies := s.replies ++ [(auth.device, auth.serial, reply auth)] } = { s with
      agents := agents
      replies := s.replies ++ [(auth.device, auth.serial, reply auth)] }) :
    callback request reply s = { s with
      agents := agents
      authrs := detach auth.device s.authrs
      replies := s.replies ++ [(auth.device, auth.serial, reply auth)] } := by
  simp only [callback, found, serial, ne_eq, not_true_eq_false, if_false, holds] at unref ⊢
  rw [unref]
  rfl

/-- What a request is about, with the agent that it belongs to. -/
theorem Sound.asked_auth (sound : Sound s) (mem : agent ∈ s.agents)
    (asked : agent.request = some request) : ∃ auth ∈ s.authrs,
    findAuthr request.device s = some auth ∧ auth.serial = request.serial ∧
      auth.agent = some agent.id ∧ auth.type ≠ .notifyPasskey := by
  obtain ⟨auth, amem, about, serial, holds, type⟩ := sound.pending.asked agent mem request asked
  refine ⟨auth, amem, (findAuthr_eq_some sound).mpr ⟨amem, about⟩, serial, holds, ?_⟩
  exact type ▸ authType_ne_notifyPasskey request.type

theorem Sound.perm_detach_clear (sound : Sound s) (mem : auth ∈ s.authrs)
    (holds : auth.agent = some id) : Balanced counter (clear id s.agents)
      (id :: holders { s with authrs := detach auth.device s.authrs }) := by
  have balanced : Balanced counter (clear id s.agents) (holders s) := (sound.cleared id).balanced
  exact balanced.perm (holders_perm_detach sound mem holds)

theorem clear_unasked {agents : List Agent} {rest : List ℕ} : ∀ agent ∈ clear id agents,
    agent.id = id → agent.request.isSome = true → id ∈ rest := by
  intro agent mem same asked
  rw [mem_clear mem same] at asked
  cases asked

theorem protectedReply_eq (sound : Sound s) (mem : agent ∈ s.agents)
    (asked : agent.request = some request) (reply : KernelReply) : ∃ auth ∈ s.authrs,
    auth.agent = some agent.id ∧ auth.type ≠ .notifyPasskey ∧
    protectedReply agent.id request reply s = { s with
      agents := release counter agent.id (clear agent.id s.agents)
      authrs := detach auth.device s.authrs
      replies := s.replies ++ [(auth.device, auth.serial, reply)] } := by
  obtain ⟨auth, amem, found, serial, holds, type⟩ := sound.asked_auth mem asked
  have held := Sound.holds amem holds
  refine ⟨auth, amem, holds, type, ?_⟩
  have answered : callback request (fun _ => reply)
      { s with agents := acquire counter agent.id s.agents } = { s with
        authrs := detach auth.device s.authrs
        replies := s.replies ++ [(auth.device, auth.serial, reply)] } :=
    callback_eq (s := { s with agents := acquire counter agent.id s.agents }) found serial holds
      (agentUnref_acquire (s := { s with
        replies := s.replies ++ [(auth.device, auth.serial, reply)] }) sound.balanced held)
  rw [protectedReply, agentRef_eq sound.balanced held, answered,
    agentRequestFree_eq (s := { s with
      authrs := detach auth.device s.authrs
      replies := s.replies ++ [(auth.device, auth.serial, reply)] }) sound.balanced held]
  exact agentUnref_eq (sound.perm_detach_clear amem holds) clear_unasked

theorem protectedReply_sound (sound : Sound s) (mem : agent ∈ s.agents)
    (asked : agent.request = some request) (reply : KernelReply) :
    Sound (protectedReply agent.id request reply s) := by
  obtain ⟨auth, amem, holds, type, equal⟩ := protectedReply_eq sound mem asked reply
  rw [equal]
  exact (sound.cleared agent.id).answered amem holds (sound.quiet_clear amem holds) type reply

theorem clear_release (distinct : Distinct Agent.id s.agents) (mem : agent ∈ s.agents)
    (more : 1 < agent.ref) : clear agent.id (release counter agent.id s.agents) =
      release counter agent.id (clear agent.id s.agents) := by
  have found : KeyedList.find Agent.id agent.id s.agents = some agent :=
    (KeyedList.find_eq_some distinct).mpr ⟨mem, rfl⟩
  have cleared : KeyedList.find Agent.id agent.id (clear agent.id s.agents) =
      some { agent with request := none } := by
    have lookup : KeyedList.find Agent.id agent.id (clear agent.id s.agents) =
        (KeyedList.find Agent.id agent.id s.agents).map fun agent =>
          { agent with request := none } := find_update fun _ same => same
    rw [lookup, found, Option.map_some]
  have left : release counter agent.id s.agents =
      update Agent.id agent.id (fun agent => { agent with ref := agent.ref - 1 }) s.agents := by
    simp only [release, counter, found, more, if_true]
  have right : release counter agent.id (clear agent.id s.agents) =
      update Agent.id agent.id (fun agent => { agent with ref := agent.ref - 1 })
        (clear agent.id s.agents) := by
    simp only [release, counter, cleared, more, if_true]
  have first : clear agent.id (update Agent.id agent.id
      (fun agent => { agent with ref := agent.ref - 1 }) s.agents) = update Agent.id agent.id
        (fun agent => { agent with ref := agent.ref - 1, request := none }) s.agents :=
    update_update (f := fun agent : Agent => { agent with ref := agent.ref - 1 })
      (by exact fun _ same => same) fun agent => { agent with request := none }
  have second : update Agent.id agent.id (fun agent => { agent with ref := agent.ref - 1 })
      (clear agent.id s.agents) = update Agent.id agent.id
        (fun agent => { agent with ref := agent.ref - 1, request := none }) s.agents :=
    update_update (f := fun agent : Agent => { agent with request := none })
      (by exact fun _ same => same) fun agent => { agent with ref := agent.ref - 1 }
  rw [left, right, first, second]

/-- With another reference left, the agent is still there after the callback. -/
theorem mem_holders_of_more (sound : Sound s) (mem : agent ∈ s.agents) (more : 1 < agent.ref)
    {rest : List ℕ} (perm : (holders s).Perm (agent.id :: rest)) : agent.id ∈ rest := by
  have count : agent.ref = (holders s).count agent.id := sound.balanced.count agent mem
  rw [perm.count_eq, List.count_cons_self] at count
  exact List.count_pos_iff.mp (by omega)

theorem passkeyReply_sound (sound : Sound s) (mem : agent ∈ s.agents)
    (asked : agent.request = some request) (more : 1 < agent.ref) (answer : Answer) :
    Sound (passkeyReply agent.id request answer s) := by
  obtain ⟨auth, amem, found, serial, holds, type⟩ := sound.asked_auth mem asked
  have perm := holders_perm_detach sound amem holds
  have again := mem_holders_of_more sound mem more perm
  unfold passkeyReply
  generalize passkeyOf answer = passkey
  have answered : callback request (fun _ => .passkey passkey) s = { s with
      agents := release counter agent.id s.agents
      authrs := detach auth.device s.authrs
      replies := s.replies ++ [(auth.device, auth.serial, .passkey passkey)] } :=
    callback_eq found serial holds (agentUnref_eq (s := { s with
      replies := s.replies ++ [(auth.device, auth.serial, .passkey passkey)] })
      (sound.balanced.perm perm) fun _ _ _ _ => again)
  rw [answered, agentRequestFree_eq (s := { s with
    agents := release counter agent.id s.agents
    authrs := detach auth.device s.authrs
    replies := s.replies ++ [(auth.device, auth.serial, .passkey passkey)] })
    (sound.balanced.perm perm).release again, clear_release sound.balanced.distinct mem more]
  exact (sound.cleared agent.id).answered amem holds (sound.quiet_clear amem holds) type _

theorem Sound.forget (sound : Sound s) {device : ObjectPath} (quiet : Quiet device s.agents) :
    Sound { s with
      authrs := update AuthenticationReq.device device
        (fun auth => { auth with pincode := none }) s.authrs } where
  balanced := by
    have same : (update AuthenticationReq.device device (fun auth => { auth with pincode := none })
        s.authrs).filterMap AuthenticationReq.agent =
          s.authrs.filterMap AuthenticationReq.agent := by
      rw [update, List.filterMap_map]
      refine List.filterMap_congr fun auth _ => ?_
      by_cases equal : auth.device = device <;> simp [equal]
    refine sound.balanced.perm (List.Perm.of_eq ?_)
    simp only [holders, same]
  listed := sound.listed
  pending := sound.pending.revised (f := fun auth => { auth with pincode := none })
    (fun _ => ⟨rfl, rfl⟩) quiet fun auth mem _ notify => sound.pending.displayed auth mem notify
  told := by
    refine sound.told.sublist fun auth mem some => ?_
    obtain ⟨old, omem, rfl⟩ := List.mem_map.mp mem
    by_cases equal : old.device = device
    · rw [if_pos equal] at some ⊢
      exact ⟨old, omem, rfl, some⟩
    · rw [if_neg equal] at some ⊢
      exact ⟨old, omem, rfl, some⟩
  bondings := sound.bondings
  faultless := sound.faultless

theorem displayPincodeReply_sound (sound : Sound s) (mem : agent ∈ s.agents)
    (asked : agent.request = some request) (more : 1 < agent.ref) :
    Sound (displayPincodeReply agent.id request s) := by
  obtain ⟨auth, amem, found, serial, holds, type⟩ := sound.asked_auth mem asked
  have about := ((findAuthr_eq_some sound).mp found).2
  have held := Sound.holds amem holds
  have again := mem_holders_of_more sound mem more (holders_perm_detach sound amem holds)
  have quiet := sound.quiet_clear amem holds
  have answered : callback request (fun auth => .pincode auth.pincode)
      { s with agents := clear agent.id s.agents } = { s with
        agents := release counter agent.id (clear agent.id s.agents)
        authrs := detach auth.device s.authrs
        replies := s.replies ++ [(auth.device, auth.serial, .pincode auth.pincode)] } :=
    callback_eq (s := { s with agents := clear agent.id s.agents }) found serial holds
      (agentUnref_eq (s := { s with
        agents := clear agent.id s.agents
        replies := s.replies ++ [(auth.device, auth.serial, .pincode auth.pincode)] })
        (sound.perm_detach_clear amem holds) clear_unasked)
  have after := ((sound.cleared agent.id).answered amem holds quiet type
    (.pincode auth.pincode)).forget (quiet.trace (traces_release _ _))
  unfold displayPincodeReply
  rw [agentRequestFree_eq sound.balanced held, answered, ← about]
  simp only
  rw [agentRequestFree_eq (s := { s with
    agents := release counter agent.id (clear agent.id s.agents)
    authrs := update AuthenticationReq.device auth.device
      (fun auth => { auth with pincode := none }) (detach auth.device s.authrs)
    replies := s.replies ++ [(auth.device, auth.serial, .pincode auth.pincode)] })
    (sound.perm_detach_clear amem holds).release again]
  exact after.cleared agent.id

end Replies

section Runs

variable {s t : State} {id : ℕ} {agent : Agent} {request : AgentRequest} {label : Label}

/-- Whether the reply to a request is handled without keeping the agent. -/
def RequestType.bare : RequestType → Bool
  | .passkey | .displayPincode => true
  | .confirmation | .authorization | .pincode => false

/-- A bare reply comes while the agent has another reference than the one of the
authentication, and a device goes away while it is bonding or nobody has been asked
about it. -/
def Protected (s : State) : Label → Prop
  | .reply id _ => ∀ agent ∈ s.agents, agent.id = id → ∀ request ∈ agent.request,
      request.type.bare = true → 1 < agent.ref
  | .remove device => (findBonding device s).isSome = true ∨
      ∀ agent ∈ s.agents, ∀ request ∈ agent.request, request.device ≠ device
  | _ => True

instance (s : State) (label : Label) : Decidable (Protected s label) :=
  match label with
  | .reply id _ => inferInstanceAs (Decidable (∀ agent ∈ s.agents, agent.id = id →
      ∀ request ∈ agent.request, request.type.bare = true → 1 < agent.ref))
  | .remove device => inferInstanceAs (Decidable ((findBonding device s).isSome = true ∨
      ∀ agent ∈ s.agents, ∀ request ∈ agent.request, request.device ≠ device))
  | .registerAgent .. | .unregisterAgent .. | .requestDefault .. | .disconnected _
  | .adapterRegister _ | .requestPincode .. | .requestPasskey .. | .confirmPasskey ..
  | .notifyPincode .. | .notifyPasskey .. | .cancelAuthentication .. | .pairDevice ..
  | .bondingComplete .. | .bondingFailed _ | .cancelBonding _ | .requestorExited _ | .hold
  | .drop _ | .cancel _ => isTrue trivial

/-- Nothing has gone wrong, and no request is left about an authentication that has been
freed. -/
structure Safe (s : State) : Prop where
  faultless : s.fault = false
  about : ∀ agent ∈ s.agents, ∀ request ∈ agent.request, ∃ auth ∈ s.authrs,
    auth.device = request.device ∧ auth.serial = request.serial

theorem Sound.safe (sound : Sound s) : Safe s := by
  refine ⟨sound.faultless, fun agent mem request asked => ?_⟩
  obtain ⟨auth, amem, device, serial, -⟩ := sound.pending.asked agent mem request asked
  exact ⟨auth, amem, device, serial⟩

theorem Sound.returned (sound : Sound s) (sender : String) (error : Option Error) :
    Sound (State.reply (s, error) sender) :=
  ⟨sound.balanced, sound.listed, sound.pending, sound.told, sound.bondings, sound.faultless⟩

theorem agentReply_sound (sound : Sound s) (mem : agent ∈ s.agents)
    (asked : agent.request = some request) (answer : Answer)
    (more : request.type.bare = true → 1 < agent.ref) :
    Sound (agentReply agent.id request answer s) := by
  unfold agentReply
  cases type : request.type with
  | pincode => exact protectedReply_sound sound mem asked _
  | confirmation => exact protectedReply_sound sound mem asked _
  | authorization => exact protectedReply_sound sound mem asked _
  | passkey => exact passkeyReply_sound sound mem asked (more (by rw [type]; rfl)) answer
  | displayPincode => exact displayPincodeReply_sound sound mem asked (more (by rw [type]; rfl))

theorem authrs_agentUnref (id : ℕ) (s : State) : (agentUnref id s).authrs = s.authrs := by
  unfold agentUnref onAgent
  split
  · rfl
  · simp only
    split
    · rfl
    · split
      · rfl
      · split <;> rfl

theorem authrs_agentRequestFree (id : ℕ) (s : State) :
    (agentRequestFree id s).authrs = s.authrs := by
  unfold agentRequestFree onAgent
  split <;> rfl

theorem deviceAuthReqFree_absent (device : ObjectPath) (s : State) :
    ∀ auth ∈ (deviceAuthReqFree device s).authrs, auth.device ≠ device := by
  unfold deviceAuthReqFree
  split
  · next found => exact findAuthr_eq_none.mp found
  · exact fun auth mem => (mem_remove.mp mem).2

theorem deviceCancelAuthentication_absent (device : ObjectPath) (aborted : Bool) (s : State) :
    ∀ auth ∈ (deviceCancelAuthentication device aborted s).authrs, auth.device ≠ device := by
  unfold deviceCancelAuthentication
  split
  · next found => exact findAuthr_eq_none.mp found
  · exact deviceAuthReqFree_absent device _

theorem authrs_bondingRequestFree (device : ObjectPath) (s : State) :
    (bondingRequestFree device s).authrs = s.authrs := by
  unfold bondingRequestFree
  split
  · rfl
  · simp only
    split
    · rfl
    · rw [authrs_agentUnref, agentCancel, authrs_agentRequestFree]

theorem deviceRemove_sound (sound : Sound s) {device : ObjectPath}
    (guarded : (findBonding device s).isSome = true ∨ Quiet device s.agents) :
    Sound (deviceRemove device s) := by
  have canceled := deviceCancelBonding_sound sound device
  obtain found | ⟨bonding, found⟩ := Option.eq_none_or_eq_some (findBonding device s)
  · have same : deviceCancelBonding device s = s := by rw [deviceCancelBonding, found]
    rw [deviceRemove, same]
    exact deviceAuthReqFree_sound sound (guarded.resolve_left (by simp [found]))
  · -- the bonding has taken the authentication with it
    refine deviceAuthReqFree_sound canceled (canceled.quiet_of_absent fun auth mem => ?_)
    simp only [deviceCancelBonding, found, authrs_bondingRequestFree] at mem
    exact deviceCancelAuthentication_absent device false s auth mem

theorem step_reply (sound : Sound s) {answer : Answer} (h : step s (.reply id answer) = some t) :
    ∃ agent ∈ s.agents, agent.id = id ∧ ∃ request, agent.request = some request ∧
      agentReply id request answer s = t := by
  obtain ⟨request, pending, rfl⟩ := Option.map_eq_some_iff.mp h
  obtain ⟨agent, found, asked⟩ := Option.bind_eq_some_iff.mp pending
  obtain ⟨mem, same⟩ := (KeyedList.find_eq_some sound.balanced.distinct).mp found
  exact ⟨agent, mem, same, request, asked, rfl⟩

/-- A protected step keeps every reference counted. -/
theorem step_sound (sound : Sound s) (allowed : Protected s label) (h : step s label = some t) :
    Sound t := by
  cases label with
  | registerAgent sender path capability =>
      obtain rfl := Option.some.inj h
      exact (registerAgent_sound sound sender path capability).returned sender _
  | unregisterAgent sender path =>
      obtain rfl := Option.some.inj h
      exact (unregisterAgent_sound sound sender path).returned sender _
  | requestDefault sender path =>
      obtain rfl := Option.some.inj h
      exact (requestDefault_sound sound sender path).returned sender _
  | disconnected sender =>
      obtain ⟨entry, found, rfl⟩ := Option.map_eq_some_iff.mp h
      exact agentDisconnect_sound sound (List.mem_of_find?_eq_some found)
  | adapterRegister index =>
      obtain rfl := Option.some.inj h
      rw [adapterRegister_eq sound]
      exact sound.defaulted sound.listed.defaults sound.listed.once _ s.requested
  | requestPincode device sent =>
      obtain rfl := Option.some.inj h
      exact deviceRequest_sound sound _ device _ sent
  | requestPasskey device sent =>
      obtain rfl := Option.some.inj h
      exact deviceRequest_sound sound _ device _ sent
  | confirmPasskey device confirmHint sent =>
      obtain rfl := Option.some.inj h
      exact deviceRequest_sound sound _ device _ sent
  | notifyPincode device pincode sent =>
      obtain rfl := Option.some.inj h
      exact deviceRequest_sound sound _ device _ sent
  | notifyPasskey device sent =>
      obtain rfl := Option.some.inj h
      exact deviceNotifyPasskey_sound sound device sent
  | cancelAuthentication device aborted =>
      obtain rfl := Option.some.inj h
      exact deviceCancelAuthentication_sound sound device aborted
  | pairDevice device sender created =>
      obtain rfl := Option.some.inj h
      exact pairDevice_sound sound device sender created
  | bondingComplete device success paired =>
      obtain rfl := Option.some.inj h
      exact deviceBondingComplete_sound sound device success paired
  | bondingFailed device =>
      obtain rfl := Option.some.inj h
      exact deviceBondingFailed_sound sound device
  | cancelBonding device =>
      obtain rfl := Option.some.inj h
      exact deviceCancelBonding_sound sound device
  | requestorExited device =>
      obtain rfl := Option.some.inj h
      exact deviceCancelAuthentication_sound sound device false
  | remove device =>
      obtain rfl := Option.some.inj h
      exact deviceRemove_sound sound allowed
  | reply id answer =>
      obtain ⟨agent, mem, rfl, request, asked, rfl⟩ := step_reply sound h
      exact agentReply_sound sound mem asked answer (allowed agent mem rfl request asked)
  | hold =>
      obtain ⟨id, head, rfl⟩ := Option.map_eq_some_iff.mp h
      have held := mem_holders_listed (agentGet_mem sound head)
      rw [agentRef_eq sound.balanced held]
      exact sound.hold held
  | drop id =>
      simp only [step, Option.ite_none_right_eq_some, Option.some.injEq] at h
      obtain ⟨mem, rfl⟩ := h
      rw [agentUnref_eq (sound.balanced.perm (holders_perm_held mem))]
      · exact sound.drop mem
      · rintro agent amem rfl asked
        exact mem_holders_auth (sound.asked_held amem asked)
  | cancel id =>
      simp only [step, Option.ite_none_right_eq_some, Option.some.injEq] at h
      obtain ⟨mem, rfl⟩ := h
      have held : id ∈ holders s := (holders_perm_held mem).mem_iff.mpr List.mem_cons_self
      rw [agentCancel, agentRequestFree_eq sound.balanced held]
      exact sound.cleared id

variable {labels : List Label}

end Runs

end BluezTutorial.AgentManager
