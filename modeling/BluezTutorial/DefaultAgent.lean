import BluezTutorial.AgentReferences
import BluezTutorial.History

/-! The default agent. RequestDefaultAgent puts an agent at the head of `default_agents`,
and with its registration an agent leaves the queue. So the queue is a function of the
requests so far: the agents that are still registered, ordered by their latest request. The
adapters are told the capability of its head whenever the head changes. -/

namespace BluezTutorial.AgentManager
open KeyedList ReferenceCount ProfileManager LabelledRun History

section Frame

/-- What the authentications and bondings do not touch. -/
structure Frame (s t : State) : Prop where
  agents : ∀ agent ∈ t.agents, ∃ old ∈ s.agents, old.id = agent.id ∧
    old.capability = agent.capability
  agentList : t.agentList = s.agentList
  defaultAgents : t.defaultAgents = s.defaultAgents
  adapters : t.adapters = s.adapters
  requested : t.requested = s.requested
  lastAgent : t.lastAgent = s.lastAgent

variable {s t u : State} {id : ℕ}

theorem Frame.refl (s : State) : Frame s s :=
  ⟨fun agent mem => ⟨agent, mem, rfl, rfl⟩, rfl, rfl, rfl, rfl, rfl⟩

theorem Frame.trans (first : Frame s t) (second : Frame t u) : Frame s u := by
  refine ⟨fun agent mem => ?_, second.agentList.trans first.agentList,
    second.defaultAgents.trans first.defaultAgents, second.adapters.trans first.adapters,
    second.requested.trans first.requested, second.lastAgent.trans first.lastAgent⟩
  obtain ⟨middle, mmem, ids, capabilities⟩ := second.agents agent mem
  obtain ⟨old, omem, ids', capabilities'⟩ := first.agents middle mmem
  exact ⟨old, omem, ids'.trans ids, capabilities'.trans capabilities⟩

theorem Frame.of_traces {agents : List Agent} (traces : Traces s.agents agents) :
    Frame s { s with agents := agents } := by
  refine ⟨fun agent mem => ?_, rfl, rfl, rfl, rfl, rfl⟩
  obtain ⟨old, omem, ids, -, -, capabilities, -⟩ := traces agent mem
  exact ⟨old, omem, ids, capabilities⟩

theorem Frame.elsewhere (frame : Frame s t) {authrs : List AuthenticationReq}
    {bondings : List BondingReq} {held leaked : List ℕ} {lastAuth : ℕ}
    {replies : List (ObjectPath × ℕ × KernelReply)} {returned : List (String × Option Error)}
    {fault : Bool} :
    Frame s { t with
      authrs := authrs, bondings := bondings, held := held, leaked := leaked,
      lastAuth := lastAuth, replies := replies, returned := returned, fault := fault } :=
  ⟨frame.agents, frame.agentList, frame.defaultAgents, frame.adapters, frame.requested,
    frame.lastAgent⟩

theorem onAgent_frame {f : Agent → State} (each : ∀ agent, Frame s (f agent)) :
    Frame s (onAgent id s f) := by
  unfold onAgent
  split
  · exact (Frame.refl s).elsewhere
  · exact each _

theorem agentRef_frame (id : ℕ) (s : State) : Frame s (agentRef id s) :=
  onAgent_frame fun _ => Frame.of_traces (traces_acquire id s.agents)

theorem agentRequestFree_frame (id : ℕ) (s : State) : Frame s (agentRequestFree id s) :=
  onAgent_frame fun _ => Frame.of_traces (traces_clear id s.agents)

theorem agentUnref_frame (id : ℕ) (s : State) : Frame s (agentUnref id s) := by
  have released := Frame.of_traces (traces_release id s.agents)
  refine onAgent_frame fun agent => ?_
  simp only
  split
  · exact released
  · split
    · exact released
    · split
      · exact released
      · exact (Frame.refl s).elsewhere

theorem newAuth_frame {device : ObjectPath} {type : AuthType} {pincode : Option String}
    (h : newAuth device type pincode s = some (id, t)) : Frame s t := by
  unfold newAuth at h
  split at h
  · cases h
  · split at h
    · cases h
    · next chosen _ =>
        simp only [Option.some.injEq, Prod.mk.injEq] at h
        obtain ⟨rfl, rfl⟩ := h
        exact (agentRef_frame chosen s).elsewhere

theorem deviceAuthReqFree_frame (device : ObjectPath) (s : State) :
    Frame s (deviceAuthReqFree device s) := by
  unfold deviceAuthReqFree
  split
  · exact Frame.refl s
  · simp only
    split
    · exact (Frame.refl s).elsewhere
    · exact (agentUnref_frame _ s).elsewhere

theorem agentRequest_frame (id : ℕ) (request : AgentRequest) (sent : Bool) (s : State) :
    Frame s (agentRequest id request sent s).1 := by
  unfold agentRequest
  split
  · exact (Frame.refl s).elsewhere
  · split
    · exact Frame.refl s
    · refine ⟨fun agent mem => ?_, rfl, rfl, rfl, rfl, rfl⟩
      obtain ⟨old, omem, rfl⟩ := List.mem_map.mp mem
      by_cases same : old.id = id
      · rw [if_pos same]
        exact ⟨old, omem, rfl, rfl⟩
      · rw [if_neg same]
        exact ⟨old, omem, rfl, rfl⟩

theorem deviceRequest_frame (type : RequestType) (device : ObjectPath) (pincode : Option String)
    (sent : Bool) (s : State) : Frame s (deviceRequest type device pincode sent s) := by
  unfold deviceRequest
  split
  · exact Frame.refl s
  · next id t opened =>
      have asked := (newAuth_frame opened).trans
        (agentRequest_frame id ⟨type, device, t.lastAuth⟩ sent t)
      simp only
      split
      · exact asked
      · exact asked.trans (deviceAuthReqFree_frame device _)

theorem displayPasskey_frame (device : ObjectPath) (agent : Option ℕ) (sent : Bool) (s : State) :
    Frame s (displayPasskey device agent sent s) := by
  unfold displayPasskey
  split
  · exact (Frame.refl s).elsewhere
  · refine onAgent_frame fun _ => ?_
    split
    · exact Frame.refl s
    · exact deviceAuthReqFree_frame device s

theorem deviceNotifyPasskey_frame (device : ObjectPath) (sent : Bool) (s : State) :
    Frame s (deviceNotifyPasskey device sent s) := by
  unfold deviceNotifyPasskey
  split
  · split
    · exact Frame.refl s
    · exact displayPasskey_frame device _ sent s
  · split
    · exact Frame.refl s
    · next opened => exact (newAuth_frame opened).trans (displayPasskey_frame device _ sent _)

theorem cancelAuthentication_frame (auth : AuthenticationReq) (s : State) :
    Frame s (cancelAuthentication auth s) := by
  unfold cancelAuthentication
  split
  · exact Frame.refl s
  · exact (Frame.refl s).elsewhere

theorem deviceCancelAuthentication_frame (device : ObjectPath) (aborted : Bool) (s : State) :
    Frame s (deviceCancelAuthentication device aborted s) := by
  have rest : ∀ auth t, Frame s t →
      Frame s (deviceAuthReqFree device (if aborted then t else cancelAuthentication auth t)) := by
    intro auth t canceled
    refine Frame.trans ?_ (deviceAuthReqFree_frame device _)
    split
    · exact canceled
    · exact canceled.trans (cancelAuthentication_frame auth t)
  unfold deviceCancelAuthentication
  split
  · exact Frame.refl s
  · next auth _ =>
      simp only
      cases auth.agent with
      | none => exact rest auth s (Frame.refl s)
      | some id => exact rest auth _ (agentRequestFree_frame id s)

theorem bondingRequestFree_frame (device : ObjectPath) (s : State) :
    Frame s (bondingRequestFree device s) := by
  unfold bondingRequestFree
  split
  · exact Frame.refl s
  · simp only
    split
    · exact (Frame.refl s).elsewhere
    · exact ((agentRequestFree_frame _ s).trans (agentUnref_frame _ _)).elsewhere

theorem deviceBondingFailed_frame (device : ObjectPath) (s : State) :
    Frame s (deviceBondingFailed device s) := by
  unfold deviceBondingFailed
  split
  · exact Frame.refl s
  · exact (deviceCancelAuthentication_frame device false s).trans
      (bondingRequestFree_frame device _)

theorem deviceBondingComplete_frame (device : ObjectPath) (success paired : Bool) (s : State) :
    Frame s (deviceBondingComplete device success paired s) := by
  have rest : ∀ t, Frame s t → Frame s
      (if !success then deviceBondingFailed device (deviceCancelAuthentication device true t)
        else if paired then deviceAuthReqFree device t
        else bondingRequestFree device (deviceAuthReqFree device t)) := by
    intro t canceled
    have freed := canceled.trans (deviceAuthReqFree_frame device t)
    split
    · exact (canceled.trans (deviceCancelAuthentication_frame device true t)).trans
        (deviceBondingFailed_frame device _)
    · split
      · exact freed
      · exact freed.trans (bondingRequestFree_frame device _)
  unfold deviceBondingComplete
  simp only
  cases (findAuthr device s).bind AuthenticationReq.agent with
  | none => exact rest s (Frame.refl s)
  | some id => exact rest _ (agentRequestFree_frame id s)

theorem pairDevice_frame (device : ObjectPath) (sender : String) (created : Bool) (s : State) :
    Frame s (pairDevice device sender created s) := by
  have rest : ∀ t, Frame s t →
      Frame s (if created then t else bondingRequestFree device t) := by
    intro t bonded
    split
    · exact bonded
    · exact bonded.trans (bondingRequestFree_frame device t)
  unfold pairDevice
  split
  · exact Frame.refl s
  · simp only
    cases agentGet (some sender) s with
    | none => exact rest _ (Frame.refl s).elsewhere
    | some id =>
        exact rest _ (((agentRef_frame id s).trans (agentRef_frame id _)).trans
          (agentUnref_frame id _)).elsewhere

theorem callback_frame (request : AgentRequest) (reply : AuthenticationReq → KernelReply)
    (s : State) : Frame s (callback request reply s) := by
  unfold callback
  split
  · exact (Frame.refl s).elsewhere
  · split
    · exact (Frame.refl s).elsewhere
    · split
      · exact Frame.refl s
      · exact ((Frame.refl s).elsewhere.trans (agentUnref_frame _ _)).elsewhere

theorem protectedReply_frame (id : ℕ) (request : AgentRequest) (reply : KernelReply)
    (s : State) : Frame s (protectedReply id request reply s) :=
  (((agentRef_frame id s).trans (callback_frame request _ _)).trans
    (agentRequestFree_frame id _)).trans (agentUnref_frame id _)

theorem agentReply_frame (id : ℕ) (request : AgentRequest) (answer : Answer) (s : State) :
    Frame s (agentReply id request answer s) := by
  unfold agentReply
  cases request.type with
  | pincode => exact protectedReply_frame id request _ s
  | confirmation => exact protectedReply_frame id request _ s
  | authorization => exact protectedReply_frame id request _ s
  | passkey => exact (callback_frame request _ s).trans (agentRequestFree_frame id _)
  | displayPincode =>
      have answered := (agentRequestFree_frame id s).trans
        (callback_frame request (fun auth => .pincode auth.pincode) _)
      exact answered.elsewhere.trans (agentRequestFree_frame id _)

end Frame

section Ranked

variable {s t : State} {id : ℕ} {adapter : Adapter} {entry : String × ℕ}

def registered (s : State) (id : ℕ) : Bool := id ∈ s.agentList.map Prod.snd

/-- An adapter has been told the capability of the default agent. -/
structure Offers (agents : List Agent) (defaultAgents : List ℕ) (adapter : Adapter) : Prop where
  default : ∀ agent ∈ agents, defaultAgents.head? = some agent.id →
    adapter.ioCapability = some agent.capability
  none : defaultAgents = [] →
    adapter.ioCapability = none ∨ adapter.ioCapability = some .noInputNoOutput

structure Ranked (s : State) : Prop where
  queue : s.defaultAgents = latest (registered s) s.requested
  fresh : ∀ id ∈ s.requested, id ≤ s.lastAgent
  offers : ∀ adapter ∈ s.adapters, Offers s.agents s.defaultAgents adapter

theorem ranked_initial : Ranked State.initial := by
  refine ⟨rfl, ?_, ?_⟩ <;> simp [State.initial]

theorem Ranked.frame (ranked : Ranked s) (frame : Frame s t) : Ranked t := by
  obtain ⟨agents, agentList, defaultAgents, adapters, requested, lastAgent⟩ := frame
  refine ⟨?_, ?_, fun adapter mem => ?_⟩
  · have same : registered t = registered s := by
      funext id
      rw [registered, registered, agentList]
    rw [defaultAgents, requested, same]
    exact ranked.queue
  · rw [requested, lastAgent]
    exact ranked.fresh
  · rw [adapters] at mem
    rw [defaultAgents]
    obtain ⟨default, none⟩ := ranked.offers adapter mem
    refine ⟨fun agent amem isHead => ?_, none⟩
    obtain ⟨old, omem, ids, capabilities⟩ := agents agent amem
    rw [← capabilities]
    exact default old omem (isHead.trans (by rw [ids]))

/-- After `set_io_cap` for the head of the queue, whatever the adapters were told before. -/
theorem offers_tell {agents : List Agent} {defaultAgents : List ℕ} {adapters : List Adapter}
    (distinct : Distinct Agent.id agents)
    (mem : adapter ∈ tell (capabilityOf agents defaultAgents.head?) adapters) :
    Offers agents defaultAgents adapter := by
  obtain ⟨old, -, rfl⟩ := List.mem_map.mp mem
  refine ⟨fun agent amem isHead => ?_, fun empty => Or.inr ?_⟩
  · rw [isHead, capabilityOf_eq distinct amem]
  · rw [empty]
    rfl

theorem Offers.trace {agents agents' : List Agent} {defaultAgents : List ℕ}
    (traces : Traces agents agents') (offers : Offers agents defaultAgents adapter) :
    Offers agents' defaultAgents adapter := by
  refine ⟨fun agent mem isHead => ?_, offers.none⟩
  obtain ⟨old, omem, ids, -, -, capabilities, -⟩ := traces agent mem
  rw [← capabilities]
  exact offers.default old omem (isHead.trans (by rw [ids]))

theorem Ranked.registerAgent (ranked : Ranked s) (sender : String) (path : Option ObjectPath)
    (capability : String) : Ranked (registerAgent sender path capability s).1 := by
  unfold AgentManager.registerAgent
  split
  · exact ranked
  · split
    · next _ _ path cap _ =>
        have old : ∀ id ∈ s.requested, id ≠ s.lastAgent + 1 :=
          fun id mem => (Nat.lt_succ_of_le (ranked.fresh id mem)).ne
        refine ⟨?_, fun id mem => Nat.le_succ_of_le (ranked.fresh id mem), fun adapter mem => ?_⟩
        · rw [ranked.queue]
          refine latest_congr fun id mem => ?_
          simp [registered, old id mem]
        · obtain ⟨default, none⟩ := ranked.offers adapter mem
          refine ⟨fun agent amem isHead => ?_, none⟩
          rcases List.mem_append.mp amem with before | new
          · exact default agent before isHead
          · have requested := List.mem_of_head? isHead
            rw [ranked.queue, mem_latest, List.mem_singleton.mp new] at requested
            exact absurd rfl (old _ requested.1)
    · exact ranked

theorem registered_remove (sound : Sound s) (mem : entry ∈ s.agentList) (id : ℕ) :
    registered { s with agentList := remove Prod.fst entry.1 s.agentList } id =
      (registered s id && (id != entry.2)) := by
  obtain ⟨agent, -, same, owner⟩ := sound.mem_listed mem
  rw [Bool.eq_iff_iff]
  simp only [registered, decide_eq_true_eq, Bool.and_eq_true, bne_iff_ne, List.mem_map, mem_remove]
  constructor
  · rintro ⟨other, ⟨omem, ne⟩, rfl⟩
    refine ⟨⟨other, omem, rfl⟩, fun equal => ne ?_⟩
    obtain ⟨holder, hmem, ids, owners⟩ := sound.mem_listed omem
    have twice := sound.listed.owned entry mem holder hmem (ids.trans equal)
    exact owners.symm.trans twice
  · rintro ⟨⟨other, omem, rfl⟩, ne⟩
    refine ⟨other, ⟨omem, fun equal => ne ?_⟩, rfl⟩
    rw [sound.listed.owners.eq_of_key_eq omem mem equal]

theorem Ranked.agentDisconnect (sound : Sound s) (ranked : Ranked s) (mem : entry ∈ s.agentList) :
    Ranked (agentDisconnect entry.2 s) := by
  rw [agentDisconnect_eq sound mem, removeDefaultAgent_eq sound]
  refine ⟨?_, ranked.fresh, fun adapter amem => ?_⟩
  · have left := latest_remove s.requested (registered_remove sound mem)
    rw [← ranked.queue] at left
    exact left.symm
  · refine Offers.trace (traces_release entry.2 s.agents) ?_
    simp only at amem ⊢
    split at amem
    · exact offers_tell sound.balanced.distinct amem
    · next other =>
        -- the default agent stays the same
        obtain ⟨default, none⟩ := ranked.offers adapter amem
        cases queue : s.defaultAgents with
        | nil => exact ⟨by simp, fun _ => none queue⟩
        | cons first rest =>
            rw [queue, List.head?_cons, Option.some.injEq] at other
            have kept : (first :: rest).erase entry.2 = first :: rest.erase entry.2 :=
              List.erase_cons_tail (by simpa using other)
            rw [queue] at default
            rw [kept]
            exact ⟨default, by simp⟩

theorem Ranked.unregisterAgent (sound : Sound s) (ranked : Ranked s) (sender : String)
    (path : Option ObjectPath) : Ranked (unregisterAgent sender path s).1 := by
  unfold AgentManager.unregisterAgent
  split
  · exact ranked
  · next found =>
      obtain ⟨entry, mem, rfl⟩ := senderAgent_eq_ok found
      exact ranked.agentDisconnect sound mem

theorem Ranked.requestDefault (sound : Sound s) (ranked : Ranked s) (sender : String)
    (path : Option ObjectPath) : Ranked (requestDefault sender path s).1 := by
  unfold AgentManager.requestDefault
  split
  · exact ranked
  · next found =>
      obtain ⟨entry, mem, rfl⟩ := senderAgent_eq_ok found
      obtain ⟨agent, amem, same, -⟩ := sound.mem_listed mem
      have listed : entry.2 ∈ s.agentList.map Prod.snd := List.mem_map_of_mem mem
      have queue : latest (registered s) (s.requested ++ [entry.2]) =
          entry.2 :: s.defaultAgents.erase entry.2 := by
        rw [latest_concat (by simpa [registered] using listed), ranked.queue]
      have fresh : ∀ id ∈ s.requested ++ [entry.2], id ≤ s.lastAgent := by
        intro id idmem
        rcases List.mem_append.mp idmem with old | new
        · exact ranked.fresh id old
        · rw [List.mem_singleton.mp new, ← same]
          exact sound.listed.fresh agent amem
      have noted := sound.defaulted sound.listed.defaults sound.listed.once s.adapters
        (s.requested ++ [entry.2])
      rw [addDefaultAgent_eq noted listed]
      split
      · next isHead =>
          refine ⟨?_, fresh, ranked.offers⟩
          obtain ⟨rest, head⟩ := List.head?_eq_some_iff.mp isHead
          simp only at head
          refine Eq.trans ?_ queue.symm
          rw [head, List.erase_cons_head]
      · exact ⟨queue.symm, fresh, fun adapter mem => offers_tell sound.balanced.distinct mem⟩

theorem Ranked.adapterRegister (sound : Sound s) (ranked : Ranked s) (index : ℕ) :
    Ranked (adapterRegister index s) := by
  rw [adapterRegister_eq sound]
  refine ⟨ranked.queue, ranked.fresh, fun adapter mem => ?_⟩
  rcases List.mem_append.mp mem with old | new
  · exact ranked.offers adapter old
  · rw [List.mem_singleton.mp new]
    refine ⟨fun agent amem isHead => ?_, fun empty => Or.inl ?_⟩
    · simp only at isHead ⊢
      rw [isHead, Option.map_some, capabilityOf_eq sound.balanced.distinct amem]
    · simp only at empty ⊢
      rw [empty]
      rfl

end Ranked

section Steps

variable {s t : State} {label : Label} {labels : List Label}

theorem step_ranked (sound : Sound s) (ranked : Ranked s) (h : step s label = some t) :
    Ranked t := by
  have returned : ∀ {u : State × Option Error} {sender : String}, Ranked u.1 →
      Ranked (State.reply u sender) := fun ranked => ranked.frame (Frame.refl _).elsewhere
  cases label with
  | registerAgent sender path capability =>
      obtain rfl := Option.some.inj h
      exact returned (ranked.registerAgent sender path capability)
  | unregisterAgent sender path =>
      obtain rfl := Option.some.inj h
      exact returned (ranked.unregisterAgent sound sender path)
  | requestDefault sender path =>
      obtain rfl := Option.some.inj h
      exact returned (ranked.requestDefault sound sender path)
  | disconnected sender =>
      obtain ⟨entry, found, rfl⟩ := Option.map_eq_some_iff.mp h
      exact ranked.agentDisconnect sound (List.mem_of_find?_eq_some found)
  | adapterRegister index =>
      obtain rfl := Option.some.inj h
      exact ranked.adapterRegister sound index
  | requestPincode device sent =>
      obtain rfl := Option.some.inj h
      exact ranked.frame (deviceRequest_frame _ device _ sent s)
  | requestPasskey device sent =>
      obtain rfl := Option.some.inj h
      exact ranked.frame (deviceRequest_frame _ device _ sent s)
  | confirmPasskey device confirmHint sent =>
      obtain rfl := Option.some.inj h
      exact ranked.frame (deviceRequest_frame _ device _ sent s)
  | notifyPincode device pincode sent =>
      obtain rfl := Option.some.inj h
      exact ranked.frame (deviceRequest_frame _ device _ sent s)
  | notifyPasskey device sent =>
      obtain rfl := Option.some.inj h
      exact ranked.frame (deviceNotifyPasskey_frame device sent s)
  | cancelAuthentication device aborted =>
      obtain rfl := Option.some.inj h
      exact ranked.frame (deviceCancelAuthentication_frame device aborted s)
  | pairDevice device sender created =>
      obtain rfl := Option.some.inj h
      exact ranked.frame (pairDevice_frame device sender created s)
  | bondingComplete device success paired =>
      obtain rfl := Option.some.inj h
      exact ranked.frame (deviceBondingComplete_frame device success paired s)
  | bondingFailed device =>
      obtain rfl := Option.some.inj h
      exact ranked.frame (deviceBondingFailed_frame device s)
  | cancelBonding device =>
      obtain rfl := Option.some.inj h
      exact ranked.frame (deviceBondingFailed_frame device s)
  | requestorExited device =>
      obtain rfl := Option.some.inj h
      exact ranked.frame (deviceCancelAuthentication_frame device false s)
  | remove device =>
      obtain rfl := Option.some.inj h
      exact ranked.frame ((deviceBondingFailed_frame device s).trans
        (deviceAuthReqFree_frame device _))
  | reply id answer =>
      obtain ⟨request, -, rfl⟩ := Option.map_eq_some_iff.mp h
      exact ranked.frame (agentReply_frame id request answer s)
  | hold =>
      obtain ⟨id, -, rfl⟩ := Option.map_eq_some_iff.mp h
      exact ranked.frame (agentRef_frame id s).elsewhere
  | drop id =>
      simp only [step, Option.ite_none_right_eq_some, Option.some.injEq] at h
      obtain ⟨-, rfl⟩ := h
      exact ranked.frame (agentUnref_frame id s).elsewhere
  | cancel id =>
      simp only [step, Option.ite_none_right_eq_some, Option.some.injEq] at h
      obtain ⟨-, rfl⟩ := h
      exact ranked.frame (agentRequestFree_frame id s)

theorem ranked_run (guarded : Guarded step Protected State.initial labels)
    (hrun : run step State.initial labels = some s) : Sound s ∧ Ranked s :=
  guarded_invariant (I := fun s => Sound s ∧ Ranked s)
    (fun _ _ _ both allowed h => ⟨step_sound both.1 allowed h, step_ranked both.1 both.2 h⟩)
    ⟨sound_initial, ranked_initial⟩ guarded hrun

/-- As long as every step is protected, the queue of default agents has exactly the agents
that are registered and have asked for it, the latest request first, however often one asked
and whoever left in between. Every adapter offers the capability of the agent at its head; with
no such agent it has been told nothing yet or that it has neither input nor output. -/
theorem default_agent (guarded : Guarded step Protected State.initial labels)
    (hrun : run step State.initial labels = some s) :
    s.defaultAgents = latest (fun id => id ∈ s.agentList.map Prod.snd) s.requested ∧
    (∀ id ∈ s.defaultAgents, ∃ agent ∈ s.agents, agent.id = id) ∧
    ∀ adapter ∈ s.adapters,
      (∀ agent ∈ s.agents, s.defaultAgents.head? = some agent.id →
        adapter.ioCapability = some agent.capability) ∧
      (s.defaultAgents = [] →
        adapter.ioCapability = none ∨ adapter.ioCapability = some .noInputNoOutput) := by
  obtain ⟨sound, ranked⟩ := ranked_run guarded hrun
  refine ⟨ranked.queue, fun id mem => ?_, fun adapter mem => ?_⟩
  · exact exists_agent sound.balanced (mem_holders_listed (sound.listed.defaults id mem))
  · obtain ⟨default, none⟩ := ranked.offers adapter mem
    exact ⟨default, none⟩

/-- Two agents have asked, the first of them twice. When it leaves, the adapter is told the
capability of the other. -/
theorem default_agent_left : ∃ s,
    run step State.initial
      [.adapterRegister 0, .registerAgent ":1.5" (some "/a") "KeyboardOnly",
        .registerAgent ":1.6" (some "/b") "DisplayYesNo", .requestDefault ":1.5" (some "/a"),
        .requestDefault ":1.6" (some "/b"), .requestDefault ":1.5" (some "/a"),
        .disconnected ":1.5"] = some s ∧
    s.requested = [1, 2, 1] ∧ s.defaultAgents = [2] ∧
    ∀ adapter ∈ s.adapters, adapter.ioCapability = some .displayYesNo := by
  have runs : (run step State.initial
      [.adapterRegister 0, .registerAgent ":1.5" (some "/a") "KeyboardOnly",
        .registerAgent ":1.6" (some "/b") "DisplayYesNo", .requestDefault ":1.5" (some "/a"),
        .requestDefault ":1.6" (some "/b"), .requestDefault ":1.5" (some "/a"),
        .disconnected ":1.5"]).map (fun s => (s.requested, s.agentList, s.agents)) =
      some ([1, 2, 1], [(":1.6", 2)], [⟨2, ":1.6", "/b", .displayYesNo, 1, none⟩]) := by
    decide +kernel
  obtain ⟨s, hs, after⟩ := Option.map_eq_some_iff.mp runs
  simp only [Prod.mk.injEq] at after
  obtain ⟨requested, agentList, agents⟩ := after
  obtain ⟨queue, -, offers⟩ := default_agent (by decide +kernel) hs
  rw [requested, agentList] at queue
  have queued : s.defaultAgents = [2] := queue.trans (by decide)
  refine ⟨s, hs, requested, queued, fun adapter mem => ?_⟩
  exact (offers adapter mem).1 ⟨2, ":1.6", "/b", .displayYesNo, 1, none⟩ (by simp [agents])
    (by rw [queued]; rfl)

end Steps

end BluezTutorial.AgentManager
