import BluezTutorial.DeviceRemoval
import BluezTutorial.KeyedList
import BluezTutorial.LabelledRun
import Mathlib.Logic.Function.Basic
import Mathlib.Logic.Relation

/-! The queue of an adapter in which incoming connections wait for their authorization,
`adapter->auths` of bluez-5.49/src/adapter.c, and `agent->request` of
bluez-5.49/src/agent.c, the one request that an agent can have. `ext_confirm` of
profile.c asks for an authorization with `btd_request_authorization` and takes it back with
`btd_cancel_authorization`.

The queue is worked off from an idle source. Its head is asked about when the services of
the device are known, the device is not trusted and the agent is free; then the queue
waits for the answer. `agent_auth_cb`, which is given the answer, is not told which
authorization it is for and takes the head of the queue. -/

namespace BluezTutorial.Authorization
open LabelledRun KeyedList

/-- `struct service_auth`; `svcId` is whether the field is set. -/
structure ServiceAuth where
  id : ℕ
  device : ObjectPath
  svcId : Bool
  agent : Option ℕ
deriving DecidableEq, Repr

/-- What an agent has been asked: about an authorization, or something else. -/
inductive Asked where
  | service (id : ℕ)
  | other
deriving DecidableEq, Repr

/-- What the callback of an authorization is told. An answer of the agent comes with the
authorization that the agent was asked about. -/
inductive Outcome where
  | trusted
  | rejected
  | answered (asked : ℕ) (granted : Bool)
  | canceled
deriving DecidableEq, Repr

/-- `adapter->auths` with `agent->request` for every agent. `svcCallbacks` are the
authorizations that device.c will call `svc_complete` on, and `fault` is whether it did
so after one had been freed. -/
structure Queue where
  auths : List ServiceAuth
  svcCallbacks : List ℕ
  request : ℕ → Option Asked
  lastId : ℕ
  outcomes : List (ℕ × Outcome)
  fault : Bool

/-- `idle` is whether the source of `process_auth_queue` is there, `authIdleId` whether
the field for it is set. -/
structure State extends Queue where
  idle : Bool
  authIdleId : Bool

def Queue.initial : Queue := ⟨[], [], fun _ => none, 0, [], false⟩

def State.initial : State := ⟨Queue.initial, false, false⟩

/-- `adapter->auth_idle_id = g_idle_add(process_auth_queue, adapter)`, unless it is set. -/
def State.schedule (s : State) : State :=
  if s.authIdleId then s else { s with idle := true, authIdleId := true }

/-- `adapter_authorize` for a device that is known and not being disconnected. -/
def adapterAuthorize (device : ObjectPath) (checkForConnection : Bool) (s : State) : State :=
  let id := s.lastId + 1
  let s := if checkForConnection then { s with svcCallbacks := s.svcCallbacks ++ [id] }
    else s.schedule
  { s with
    lastId := id
    auths := s.auths ++ [⟨id, device, checkForConnection, none⟩] }

def svcComplete (id : ℕ) (s : State) : State :=
  let s := { s with svcCallbacks := s.svcCallbacks.erase id }
  match KeyedList.find ServiceAuth.id id s.auths with
  | none => { s with fault := true }
  | some _ =>
      { s with
        auths := update ServiceAuth.id id (fun auth => { auth with svcId := false })
          s.auths }.schedule

/-- The devices that are trusted, the default agent and whether a call to it can be
sent. -/
structure ProcessAnswer where
  trusted : ObjectPath → Bool
  agent : Option ℕ
  sent : Bool

/-- The loop of `process_auth_queue`: what is left of the queue, the requests of the
agents, and what the callbacks were told. -/
def processAuths (answer : ProcessAnswer) (request : ℕ → Option Asked) :
    List ServiceAuth → List ServiceAuth × (ℕ → Option Asked) × List (ℕ × Outcome)
  | [] => ([], request, [])
  | auth :: auths =>
      let next outcome :=
        let (left, request, outcomes) := processAuths answer request auths
        (left, request, (auth.id, outcome) :: outcomes)
      if auth.svcId then (auth :: auths, request, [])
      else if answer.trusted auth.device then next .trusted
      else if auth.agent.isSome then (auth :: auths, request, [])
      else match answer.agent with
        | none => next .rejected
        | some agent =>
            if (request agent).isSome || !answer.sent then next .rejected
            else ({ auth with agent := some agent } :: auths,
              Function.update request agent (some (.service auth.id)), [])

def processAuthQueue (answer : ProcessAnswer) (s : State) : State :=
  let (left, request, outcomes) := processAuths answer s.request s.auths
  { s with
    auths := left
    request := request
    outcomes := s.outcomes ++ outcomes
    idle := false
    authIdleId := false }

/-- `agent_auth_cb`; `asked` is what the agent was asked about, which the code does not
look at. -/
def agentAuthCb (asked : ℕ) (granted : Bool) (s : State) : State :=
  match s.auths with
  | [] => s
  | auth :: auths =>
      let s := { s with
        auths := auths
        outcomes := s.outcomes ++ [(auth.id, Outcome.answered asked granted)] }
      if auths = [] then { s with idle := if s.authIdleId then false else s.idle }
      else s.schedule

/-- `agent->request = NULL`. -/
def State.clear (s : State) (agent : ℕ) : State :=
  { s with request := Function.update s.request agent none }

/-- `agent_cancel` on the agent that has been asked. -/
def cancelRequest (auth : ServiceAuth) (s : State) : State :=
  match auth.agent with
  | none => s
  | some agent => s.clear agent

/-- What both ways of taking an authorization out of the queue do about device.c and the
agent. -/
def withdraw (auth : ServiceAuth) (s : State) : State :=
  let s := if auth.svcId then { s with svcCallbacks := s.svcCallbacks.erase auth.id } else s
  cancelRequest auth { s with auths := remove ServiceAuth.id auth.id s.auths }

def btdCancelAuthorization (id : ℕ) (s : State) : State :=
  match KeyedList.find ServiceAuth.id id s.auths with
  | none => s
  | some auth => withdraw auth s

/-- `service_auth_cancel`. -/
def serviceAuthCancel (s : State) (auth : ServiceAuth) : State :=
  withdraw auth { s with outcomes := s.outcomes ++ [(auth.id, Outcome.canceled)] }

/-- The loop of `btd_adapter_remove_device` over the queue. -/
def btdAdapterRemoveDevice (device : ObjectPath) (s : State) : State :=
  (s.auths.filter (·.device = device)).foldl serviceAuthCancel s

/-- What can happen next. `ask`, `answered` and `agentCancel` are about requests of
device.c to an agent; it cancels an agent's request without looking whose it is. -/
inductive Label where
  | authorize (device : ObjectPath) (checkForConnection : Bool)
  | svcComplete (id : ℕ)
  | idle (answer : ProcessAnswer)
  | reply (agent : ℕ) (granted : Bool)
  | cancel (id : ℕ)
  | removeDevice (device : ObjectPath)
  | ask (agent : ℕ)
  | answered (agent : ℕ)
  | agentCancel (agent : ℕ)

def step (s : State) : Label → Option State
  | .authorize device checkForConnection => some (adapterAuthorize device checkForConnection s)
  | .svcComplete id => if id ∈ s.svcCallbacks then some (svcComplete id s) else none
  | .idle answer => if s.idle then some (processAuthQueue answer s) else none
  | .reply agent granted =>
      match s.request agent with
      | some (.service asked) => some ((agentAuthCb asked granted s).clear agent)
      | _ => none
  | .cancel id => some (btdCancelAuthorization id s)
  | .removeDevice device => some (btdAdapterRemoveDevice device s)
  | .ask agent =>
      if (s.request agent).isNone then
        some { s with request := Function.update s.request agent (some .other) }
      else none
  | .answered agent => if s.request agent = some .other then some (s.clear agent) else none
  | .agentCancel agent => some (s.clear agent)

section Changes

/-- All that can happen to the queue; `r` is whether an authorization may be passed
because its device is trusted after the agent has been asked about it. -/
inductive Change (r : Prop) (q : Queue) : Queue → Prop
  | freed (request : ℕ → Option Asked) (fewer : ∀ agent id,
      request agent = some (.service id) → q.request agent = some (.service id)) :
      Change r q { q with request := request }
  | pushed (device : ObjectPath) (svcId : Bool) :
      Change r q { q with
        auths := q.auths ++ [⟨q.lastId + 1, device, svcId, none⟩]
        svcCallbacks := if svcId then q.svcCallbacks ++ [q.lastId + 1] else q.svcCallbacks
        lastId := q.lastId + 1 }
  | resolved (id : ℕ) :
      Change r q { q with
        auths := update ServiceAuth.id id (fun auth => { auth with svcId := false }) q.auths
        svcCallbacks := q.svcCallbacks.erase id }
  | lost (id : ℕ) (mem : id ∈ q.svcCallbacks) (gone : ∀ auth ∈ q.auths, auth.id ≠ id) :
      Change r q { q with svcCallbacks := q.svcCallbacks.erase id, fault := true }
  | told (auth : ServiceAuth) (auths : List ServiceAuth) (head : q.auths = auth :: auths)
      (outcome : Outcome) (either : outcome = .trusted ∨ outcome = .rejected)
      (ready : auth.svcId = false) (allowed : auth.agent = none ∨ r) :
      Change r q { q with auths := auths, outcomes := q.outcomes ++ [(auth.id, outcome)] }
  | asked (auth : ServiceAuth) (auths : List ServiceAuth) (head : q.auths = auth :: auths)
      (ready : auth.svcId = false) (unasked : auth.agent = none) (agent : ℕ)
      (free : q.request agent = none) :
      Change r q { q with
        auths := { auth with agent := some agent } :: auths
        request := Function.update q.request agent (some (.service auth.id)) }
  | answered (agent asked : ℕ) (pending : q.request agent = some (.service asked))
      (auth : ServiceAuth) (auths : List ServiceAuth) (head : q.auths = auth :: auths)
      (granted : Bool) :
      Change r q { q with
        auths := auths
        outcomes := q.outcomes ++ [(auth.id, .answered asked granted)]
        request := Function.update q.request agent none }
  | withdrawn (auth : ServiceAuth) (mem : auth ∈ q.auths) (outcomes : List (ℕ × Outcome))
      (either : outcomes = [] ∨ outcomes = [(auth.id, .canceled)]) :
      Change r q { q with
        auths := remove ServiceAuth.id auth.id q.auths
        svcCallbacks := if auth.svcId then q.svcCallbacks.erase auth.id else q.svcCallbacks
        outcomes := q.outcomes ++ outcomes
        request := match auth.agent with
          | none => q.request
          | some agent => Function.update q.request agent none }

abbrev Changes (r : Prop) : Queue → Queue → Prop := Relation.ReflTransGen (Change r)

variable {r : Prop} {s t : State} {q : Queue}

@[simp] theorem schedule_toQueue (s : State) : s.schedule.toQueue = s.toQueue := by
  unfold State.schedule
  split <;> rfl

theorem withdraw_toQueue (auth : ServiceAuth) (s : State) : (withdraw auth s).toQueue =
    { s.toQueue with
      auths := remove ServiceAuth.id auth.id s.auths
      svcCallbacks := if auth.svcId then s.svcCallbacks.erase auth.id else s.svcCallbacks
      request := match auth.agent with
        | none => s.request
        | some agent => Function.update s.request agent none } := by
  cases svc : auth.svcId <;> cases agent : auth.agent <;>
    simp [withdraw, cancelRequest, State.clear, svc, agent]

/-- The loop passes a first part of the queue and then stops, in front of an
authorization that has to wait or at one that it asks about. -/
theorem processAuths_changes (answer : ProcessAnswer) (q : Queue)
    (allowed : r ∨ ∀ auth ∈ q.auths, auth.agent.isSome = true →
      answer.trusted auth.device = false) :
    Changes r q { q with
      auths := (processAuths answer q.request q.auths).1
      request := (processAuths answer q.request q.auths).2.1
      outcomes := q.outcomes ++ (processAuths answer q.request q.auths).2.2 } := by
  obtain ⟨auths, svcCallbacks, request, lastId, outcomes, fault⟩ := q
  simp only at allowed ⊢
  induction auths generalizing outcomes with
  | nil =>
      simp only [processAuths, List.append_nil]
      exact .refl
  | cons auth auths ih =>
      have next : ∀ outcome, outcome = .trusted ∨ outcome = .rejected → auth.svcId = false →
          (auth.agent = none ∨ r) → Changes r
            ⟨auth :: auths, svcCallbacks, request, lastId, outcomes, fault⟩
            ⟨(processAuths answer request auths).1, svcCallbacks,
              (processAuths answer request auths).2.1, lastId,
              outcomes ++ (auth.id, outcome) :: (processAuths answer request auths).2.2,
              fault⟩ := by
        intro outcome either ready unasked
        have rest := ih (outcomes ++ [(auth.id, outcome)])
          (allowed.imp_right fun h other mem => h other (List.mem_cons_of_mem _ mem))
        rw [List.append_assoc] at rest
        exact .head (.told auth auths rfl outcome either ready unasked) rest
      cases svc : auth.svcId with
      | true =>
          simp only [processAuths, svc, if_true, List.append_nil]
          exact .refl
      | false =>
          cases trusted : answer.trusted auth.device with
          | true =>
              have unasked : auth.agent = none ∨ r := by
                rcases allowed with allowed | unshortcut
                · exact Or.inr allowed
                · refine Or.inl (Option.not_isSome_iff_eq_none.mp fun asked => ?_)
                  simp [unshortcut auth List.mem_cons_self asked] at trusted
              simpa [processAuths, svc, trusted] using next .trusted (Or.inl rfl) svc unasked
          | false =>
              cases agent : auth.agent with
              | some ongoing =>
                  simp only [processAuths, svc, trusted, agent, Option.isSome_some, if_true,
                    Bool.false_eq_true, if_false, List.append_nil]
                  exact .refl
              | none =>
                  have rejected := next .rejected (Or.inr rfl) svc (Or.inl agent)
                  cases available : answer.agent with
                  | none => simpa [processAuths, svc, trusted, agent, available] using rejected
                  | some chosen =>
                      by_cases busy : ((request chosen).isSome || !answer.sent) = true
                      · simpa [processAuths, svc, trusted, agent, available, busy] using rejected
                      · have free : request chosen = none := by
                          rw [Bool.or_eq_true, not_or] at busy
                          simpa using busy.1
                        have asked : Change r
                            ⟨auth :: auths, svcCallbacks, request, lastId, outcomes, fault⟩ _ :=
                          .asked auth auths rfl svc agent chosen free
                        rw [Bool.not_eq_true] at busy
                        simpa [processAuths, svc, trusted, agent, available, busy] using
                          Relation.ReflTransGen.single asked

/-- The agent has not been asked about an authorization whose device is trusted now. -/
def Unshortcut (s : State) : Label → Prop
  | .idle answer => ∀ auth ∈ s.auths, auth.agent.isSome = true →
      answer.trusted auth.device = false
  | _ => True

instance (s : State) (label : Label) : Decidable (Unshortcut s label) :=
  match label with
  | .idle answer => inferInstanceAs (Decidable (∀ auth ∈ s.auths, auth.agent.isSome = true →
      answer.trusted auth.device = false))
  | .authorize _ _ | .svcComplete _ | .reply _ _ | .cancel _ | .removeDevice _ | .ask _
  | .answered _ | .agentCancel _ => isTrue trivial

theorem svcComplete_changes {id : ℕ} (mem : id ∈ s.svcCallbacks) :
    Changes r s.toQueue (svcComplete id s).toQueue := by
  obtain found | ⟨auth, found⟩ :=
    Option.eq_none_or_eq_some (KeyedList.find ServiceAuth.id id s.auths)
  · simp only [svcComplete, found]
    refine .single (.lost id mem fun auth amem => ?_)
    simpa using List.find?_eq_none.mp found auth amem
  · simp only [svcComplete, found, schedule_toQueue]
    exact .single (.resolved id)

theorem withdraw_changes {auth : ServiceAuth} (mem : auth ∈ s.auths)
    {outcomes : List (ℕ × Outcome)} (either : outcomes = [] ∨ outcomes = [(auth.id, .canceled)]) :
    Change r s.toQueue
      (withdraw auth { s with outcomes := s.outcomes ++ outcomes }).toQueue := by
  rw [withdraw_toQueue]
  exact .withdrawn auth mem outcomes either

theorem mem_auths_withdraw {auth other : ServiceAuth} :
    other ∈ (withdraw auth s).auths ↔ other ∈ s.auths ∧ other.id ≠ auth.id := by
  have queue := congrArg Queue.auths (withdraw_toQueue auth s)
  rw [queue]
  exact mem_remove

theorem btdAdapterRemoveDevice_changes (distinct : Distinct ServiceAuth.id s.auths)
    (device : ObjectPath) :
    Changes r s.toQueue (btdAdapterRemoveDevice device s).toQueue := by
  unfold btdAdapterRemoveDevice
  have inside : ∀ auth ∈ s.auths.filter (·.device = device), auth ∈ s.auths :=
    fun auth mem => List.mem_of_mem_filter mem
  have apart : Distinct ServiceAuth.id (s.auths.filter (·.device = device)) :=
    (List.filter_sublist.map _).nodup distinct
  generalize s.auths.filter (·.device = device) = others at inside apart
  induction others generalizing s with
  | nil => exact .refl
  | cons auth others ih =>
      have first : Change r s.toQueue (serviceAuthCancel s auth).toQueue :=
        withdraw_changes (inside auth List.mem_cons_self) (Or.inr rfl)
      obtain ⟨head, tail⟩ := List.nodup_cons.mp apart
      have fewer : (serviceAuthCancel s auth).auths.Sublist s.auths := by
        unfold serviceAuthCancel
        have queue := congrArg Queue.auths
          (withdraw_toQueue auth { s with outcomes := s.outcomes ++ [(auth.id, .canceled)] })
        rw [queue]
        exact List.filter_sublist
      refine .head first (ih ((fewer.map _).nodup distinct) (fun other mem => ?_) tail)
      refine mem_auths_withdraw.mpr ⟨inside other (List.mem_cons_of_mem _ mem), fun same => ?_⟩
      exact head (same ▸ List.mem_map_of_mem mem)

theorem update_service {request : ℕ → Option Asked} {agent other id : ℕ} {asked : Option Asked}
    (foreign : ∀ id, asked ≠ some (.service id))
    (h : Function.update request agent asked other = some (.service id)) :
    other ≠ agent ∧ request other = some (.service id) := by
  by_cases same : other = agent
  · rw [same, Function.update_self] at h
    exact absurd h (foreign id)
  · rw [Function.update_of_ne same] at h
    exact ⟨same, h⟩

theorem step_reply {agent : ℕ} {granted : Bool} (h : step s (.reply agent granted) = some t) :
    ∃ asked, s.request agent = some (.service asked) ∧
      t = (agentAuthCb asked granted s).clear agent := by
  simp only [step] at h
  split at h
  · next asked pending => exact ⟨asked, pending, (Option.some.inj h).symm⟩
  · cases h

theorem agentAuthCb_change {agent asked : ℕ} (pending : s.request agent = some (.service asked))
    (granted : Bool) :
    Change r s.toQueue ((agentAuthCb asked granted s).clear agent).toQueue := by
  cases head : s.auths with
  | nil =>
      simp only [agentAuthCb, head]
      exact .freed _ fun _ _ h => (update_service (by simp) h).2
  | cons auth auths =>
      have change := Change.answered (r := r) agent asked pending auth auths head granted
      unfold agentAuthCb
      simp only [head]
      split
      · exact change
      · cases set : s.authIdleId <;> simpa [State.schedule, State.clear, set] using change

theorem step_changes {label : Label} (distinct : Distinct ServiceAuth.id s.auths)
    (allowed : r ∨ Unshortcut s label) (h : step s label = some t) :
    Changes r s.toQueue t.toQueue := by
  cases label with
  | authorize device checkForConnection =>
      obtain rfl := Option.some.inj h
      have change := Change.pushed (r := r) (q := s.toQueue) device checkForConnection
      cases checkForConnection with
      | true => exact .single change
      | false =>
          cases set : s.authIdleId <;>
            simpa [adapterAuthorize, State.schedule, set] using
              Relation.ReflTransGen.single change
  | svcComplete id =>
      simp only [step, Option.ite_none_right_eq_some, Option.some.injEq] at h
      obtain ⟨mem, rfl⟩ := h
      exact svcComplete_changes mem
  | idle answer =>
      simp only [step, Option.ite_none_right_eq_some, Option.some.injEq] at h
      obtain ⟨_, rfl⟩ := h
      exact processAuths_changes answer s.toQueue allowed
  | reply agent granted =>
      obtain ⟨asked, pending, rfl⟩ := step_reply h
      exact .single (agentAuthCb_change pending granted)
  | cancel id =>
      obtain rfl := Option.some.inj h
      obtain found | ⟨auth, found⟩ :=
        Option.eq_none_or_eq_some (KeyedList.find ServiceAuth.id id s.auths)
      · simp only [btdCancelAuthorization, found]
        exact .refl
      · simp only [btdCancelAuthorization, found]
        have change := withdraw_changes (r := r) (List.mem_of_find?_eq_some found) (Or.inl rfl)
        rw [List.append_nil] at change
        exact .single change
  | removeDevice device =>
      obtain rfl := Option.some.inj h
      exact btdAdapterRemoveDevice_changes distinct device
  | ask agent =>
      simp only [step, Option.ite_none_right_eq_some, Option.some.injEq] at h
      obtain ⟨_, rfl⟩ := h
      exact .single (.freed _ fun _ _ h => (update_service (by simp) h).2)
  | answered agent =>
      simp only [step, Option.ite_none_right_eq_some, Option.some.injEq] at h
      obtain ⟨_, rfl⟩ := h
      exact .single (.freed _ fun _ _ h => (update_service (by simp) h).2)
  | agentCancel agent =>
      obtain rfl := Option.some.inj h
      exact .single (.freed _ fun _ _ h => (update_service (by simp) h).2)

end Changes

section Answers

/-- What holds of the queue in every run: an authorization is told its outcome once, and
only the head of the queue can have been asked about. -/
structure Kept (q : Queue) : Prop where
  distinct : Distinct ServiceAuth.id q.auths
  queued : ∀ auth ∈ q.auths, auth.id ≤ q.lastId
  told : ∀ o ∈ q.outcomes, o.1 ≤ q.lastId ∧ ∀ auth ∈ q.auths, auth.id ≠ o.1
  once : (q.outcomes.map Prod.fst).Nodup
  unasked : ∀ auth ∈ q.auths.tail, auth.agent = none
  ready : ∀ auth ∈ q.auths, auth.agent.isSome = true → auth.svcId = false

/-- What an agent is asked about is the head of the queue. -/
structure Bound (q : Queue) : Prop where
  asked : ∀ agent id, q.request agent = some (.service id) →
    ∃ auth auths, q.auths = auth :: auths ∧ auth.id = id ∧ auth.agent = some agent
  svc : ∀ id ∈ q.svcCallbacks, ∃ auth ∈ q.auths, auth.id = id ∧ auth.svcId = true
  svcOnce : q.svcCallbacks.Nodup
  matched : ∀ id asked granted, (id, .answered asked granted) ∈ q.outcomes → asked = id
  faultless : q.fault = false

variable {r : Prop} {q q' : Queue} {auth : ServiceAuth} {auths : List ServiceAuth}

theorem kept_initial : Kept Queue.initial := by
  refine ⟨List.nodup_nil, ?_, ?_, List.nodup_nil, ?_, ?_⟩ <;> simp [Queue.initial]

theorem bound_initial : Bound Queue.initial := by
  refine ⟨?_, ?_, List.nodup_nil, ?_, rfl⟩ <;> simp [Queue.initial]

/-- An authorization leaves the queue, told or not. -/
theorem Kept.leave (kept : Kept q) (mem : auth ∈ q.auths) (fewer : auths.Sublist q.auths)
    (gone : ∀ other ∈ auths, other.id ≠ auth.id) {outcomes : List (ℕ × Outcome)}
    (either : outcomes = [] ∨ ∃ outcome, outcomes = [(auth.id, outcome)])
    (svcCallbacks : List ℕ) (request : ℕ → Option Asked) :
    Kept { q with
      auths := auths, outcomes := q.outcomes ++ outcomes, svcCallbacks := svcCallbacks,
      request := request } := by
  obtain ⟨distinct, queued, told, once, unasked, ready⟩ := kept
  have shown : ∀ o ∈ outcomes, o.1 = auth.id := by
    rcases either with rfl | ⟨outcome, rfl⟩ <;> simp
  refine ⟨(fewer.map _).nodup distinct, fun other omem => queued other (fewer.subset omem), ?_, ?_,
    fun other omem => unasked other (fewer.tail.subset omem),
    fun other omem => ready other (fewer.subset omem)⟩
  · intro o omem
    rcases List.mem_append.mp omem with old | new
    · exact ⟨(told o old).1, fun other h => (told o old).2 other (fewer.subset h)⟩
    · rw [shown o new]
      exact ⟨queued auth mem, gone⟩
  · rw [List.map_append]
    refine once.append ?_ fun id old new => ?_
    · rcases either with rfl | ⟨outcome, rfl⟩ <;> simp
    · obtain ⟨o, omem, rfl⟩ := List.mem_map.mp old
      obtain ⟨o', omem', same⟩ := List.mem_map.mp new
      exact (told o omem).2 auth mem ((shown o' omem').symm.trans same)

theorem Kept.head_apart (kept : Kept q) (head : q.auths = auth :: auths) :
    ∀ other ∈ auths, other.id ≠ auth.id := by
  have distinct := kept.distinct
  rw [head] at distinct
  intro other mem same
  exact (List.nodup_cons.mp distinct).1 (same ▸ List.mem_map_of_mem mem)

theorem Change.kept (kept : Kept q) (change : Change r q q') : Kept q' := by
  cases change with
  | freed request fewer =>
      exact ⟨kept.distinct, kept.queued, kept.told, kept.once, kept.unasked, kept.ready⟩
  | lost id mem gone =>
      exact ⟨kept.distinct, kept.queued, kept.told, kept.once, kept.unasked, kept.ready⟩
  | pushed device svcId =>
      obtain ⟨distinct, queued, told, once, unasked, ready⟩ := kept
      refine ⟨distinct.concat fun other mem => (Nat.lt_succ_of_le (queued other mem)).ne,
        fun other mem => ?_, fun o omem => ⟨Nat.le_succ_of_le (told o omem).1, fun other mem => ?_⟩,
        once, fun other mem => ?_, fun other mem => ?_⟩
      · rcases List.mem_append.mp mem with old | new
        · exact Nat.le_succ_of_le (queued other old)
        · rw [List.mem_singleton.mp new]
      · rcases List.mem_append.mp mem with old | new
        · exact (told o omem).2 other old
        · rw [List.mem_singleton.mp new]
          exact (Nat.lt_succ_of_le (told o omem).1).ne'
      · cases head : q.auths with
        | nil => simp [head] at mem
        | cons first rest =>
            simp only [head, List.cons_append, List.tail_cons] at mem
            rcases List.mem_append.mp mem with old | new
            · exact unasked other (by simpa [head] using old)
            · rw [List.mem_singleton.mp new]
      · rcases List.mem_append.mp mem with old | new
        · exact ready other old
        · simp [List.mem_singleton.mp new]
  | resolved id =>
      obtain ⟨distinct, queued, told, once, unasked, ready⟩ := kept
      have same : ∀ other ∈ update ServiceAuth.id id
          (fun auth => { auth with svcId := false }) q.auths, ∃ old ∈ q.auths,
          other.id = old.id ∧ other.agent = old.agent ∧ (old.svcId = false → other.svcId = false) := by
        intro other mem
        obtain ⟨old, omem, rfl⟩ := List.mem_map.mp mem
        refine ⟨old, omem, ?_⟩
        split <;> simp
      refine ⟨distinct.update fun _ h => h, fun other mem => ?_,
        fun o omem => ⟨(told o omem).1, fun other mem => ?_⟩, once, fun other mem => ?_,
        fun other mem asked => ?_⟩
      · obtain ⟨old, omem, ids, _⟩ := same other mem
        exact ids ▸ queued old omem
      · obtain ⟨old, omem', ids, _⟩ := same other mem
        exact ids ▸ (told o omem).2 old omem'
      · rw [update, ← List.map_tail] at mem
        obtain ⟨old, omem, rfl⟩ := List.mem_map.mp mem
        have none := unasked old omem
        split <;> exact none
      · obtain ⟨old, omem, _, agents, svc⟩ := same other mem
        exact svc (ready old omem (agents ▸ asked))
  | told auth auths head outcome either ready allowed =>
      have mem : auth ∈ q.auths := head ▸ List.mem_cons_self
      exact kept.leave mem (head ▸ List.sublist_cons_self auth auths) (kept.head_apart head)
        (Or.inr ⟨outcome, rfl⟩) _ _
  | asked auth auths head ready unasked agent free =>
      obtain ⟨distinct, queued, told, once, others, waiting⟩ := kept
      rw [head] at distinct queued told others waiting
      refine ⟨distinct, fun other mem => ?_, fun o omem => ⟨(told o omem).1, fun other mem => ?_⟩,
        once, others, fun other mem asked => ?_⟩
      · rcases List.mem_cons.mp mem with rfl | old
        · exact queued auth List.mem_cons_self
        · exact queued other (List.mem_cons_of_mem _ old)
      · rcases List.mem_cons.mp mem with rfl | old
        · exact (told o omem).2 auth List.mem_cons_self
        · exact (told o omem).2 other (List.mem_cons_of_mem _ old)
      · rcases List.mem_cons.mp mem with rfl | old
        · exact ready
        · exact waiting other (List.mem_cons_of_mem _ old) asked
  | answered agent asked pending auth auths head granted =>
      have mem : auth ∈ q.auths := head ▸ List.mem_cons_self
      exact kept.leave mem (head ▸ List.sublist_cons_self auth auths) (kept.head_apart head)
        (Or.inr ⟨_, rfl⟩) _ _
  | withdrawn auth mem outcomes either =>
      exact kept.leave mem List.filter_sublist (fun other omem => (mem_remove.mp omem).2)
        (either.imp_right fun h => ⟨_, h⟩) _ _

/-- While the head has not been asked about, nothing has. -/
theorem Bound.idle (bound : Bound q) (head : q.auths = auth :: auths) (unasked : auth.agent = none)
    (agent id : ℕ) : q.request agent ≠ some (.service id) := by
  intro pending
  obtain ⟨first, rest, same, _, asked⟩ := bound.asked agent id pending
  rw [head, List.cons.injEq] at same
  rw [← same.1, unasked] at asked
  cases asked

/-- A callback of device.c outlives an authorization that was not waiting for it. -/
theorem Bound.svc_tail (bound : Bound q) (head : q.auths = auth :: auths)
    (ready : auth.svcId = false) :
    ∀ id ∈ q.svcCallbacks, ∃ other ∈ auths, other.id = id ∧ other.svcId = true := by
  intro id mem
  obtain ⟨other, omem, same, svc⟩ := bound.svc id mem
  rw [head] at omem
  rcases List.mem_cons.mp omem with rfl | rest
  · simp [ready] at svc
  · exact ⟨other, rest, same, svc⟩

theorem Bound.pushed (kept : Kept q) (bound : Bound q) (device : ObjectPath) (svcId : Bool) :
    Bound { q with
      auths := q.auths ++ [⟨q.lastId + 1, device, svcId, none⟩]
      svcCallbacks := if svcId then q.svcCallbacks ++ [q.lastId + 1] else q.svcCallbacks
      lastId := q.lastId + 1 } := by
  have fresh : q.lastId + 1 ∉ q.svcCallbacks := by
    intro mem
    obtain ⟨other, omem, same, _⟩ := bound.svc _ mem
    exact absurd (kept.queued other omem) (by omega)
  refine ⟨fun agent id pending => ?_, fun id mem => ?_, ?_, bound.matched, bound.faultless⟩
  · obtain ⟨first, rest, head, ids⟩ := bound.asked agent id pending
    exact ⟨first, rest ++ [⟨q.lastId + 1, device, svcId, none⟩], by rw [head]; rfl, ids⟩
  · have old : id ∈ q.svcCallbacks → ∃ other ∈ q.auths ++ [⟨q.lastId + 1, device, svcId, none⟩],
        other.id = id ∧ other.svcId = true := by
      intro mem
      obtain ⟨other, omem, same⟩ := bound.svc id mem
      exact ⟨other, List.mem_append_left _ omem, same⟩
    cases svcId with
    | false => exact old mem
    | true =>
        rcases List.mem_append.mp mem with before | new
        · exact old before
        · rw [List.mem_singleton.mp new]
          exact ⟨_, List.mem_append_right _ (List.mem_singleton.mpr rfl), rfl, rfl⟩
  · cases svcId with
    | false => exact bound.svcOnce
    | true =>
        refine bound.svcOnce.append (List.nodup_singleton _) fun id old new => ?_
        exact fresh (List.mem_singleton.mp new ▸ old)

theorem Bound.resolved (bound : Bound q) (id : ℕ) :
    Bound { q with
      auths := update ServiceAuth.id id (fun auth => { auth with svcId := false }) q.auths
      svcCallbacks := q.svcCallbacks.erase id } := by
  refine ⟨fun agent asked pending => ?_, fun other mem => ?_, bound.svcOnce.erase id,
    bound.matched, bound.faultless⟩
  · obtain ⟨first, rest, head, ids, agents⟩ := bound.asked agent asked pending
    simp only [head, update, List.map_cons, List.cons.injEq]
    refine ⟨_, _, ⟨rfl, rfl⟩, ?_⟩
    split <;> exact ⟨ids, agents⟩
  · obtain ⟨ne, old⟩ := bound.svcOnce.mem_erase_iff.mp mem
    obtain ⟨auth, amem, same, svc⟩ := bound.svc other old
    refine ⟨auth, List.mem_map.mpr ⟨auth, amem, if_neg (same ▸ ne)⟩, same, svc⟩

theorem Bound.withdrawn (kept : Kept q) (bound : Bound q) (mem : auth ∈ q.auths)
    {outcomes : List (ℕ × Outcome)} (either : outcomes = [] ∨ outcomes = [(auth.id, .canceled)]) :
    Bound { q with
      auths := remove ServiceAuth.id auth.id q.auths
      svcCallbacks := if auth.svcId then q.svcCallbacks.erase auth.id else q.svcCallbacks
      outcomes := q.outcomes ++ outcomes
      request := match auth.agent with
        | none => q.request
        | some agent => Function.update q.request agent none } := by
  have head_of : ∀ first rest, q.auths = first :: rest → auth.agent.isSome = true →
      first = auth := by
    intro first rest head asked
    rw [head] at mem
    rcases List.mem_cons.mp mem with same | later
    · exact same.symm
    · simp [kept.unasked auth (by rw [head]; exact later)] at asked
  refine ⟨fun agent id pending => ?_, fun id smem => ?_, ?_, fun id asked granted h => ?_,
    bound.faultless⟩
  · cases asked : auth.agent with
    | none =>
        simp only [asked] at pending
        obtain ⟨first, rest, head, ids, agents⟩ := bound.asked agent id pending
        have other : first.id ≠ auth.id := by
          intro same
          have equal := kept.distinct.eq_of_key_eq (head ▸ List.mem_cons_self) mem same
          rw [equal, asked] at agents
          cases agents
        exact ⟨first, remove ServiceAuth.id auth.id rest, by
          simp [head, remove, other], ids, agents⟩
    | some held =>
        -- the head is the one that goes, and its agent has no other request
        simp only [asked] at pending
        obtain ⟨ne, pending⟩ := update_service (by simp) pending
        obtain ⟨first, rest, head, ids, agents⟩ := bound.asked agent id pending
        rw [head_of first rest head (by simp [asked]), asked] at agents
        exact absurd (Option.some.inj agents).symm ne
  · have old : id ∈ q.svcCallbacks ∧ (auth.svcId = true → id ≠ auth.id) := by
      cases svc : auth.svcId with
      | false => simpa [svc] using smem
      | true =>
          simp only [svc, if_true] at smem
          obtain ⟨ne, old⟩ := bound.svcOnce.mem_erase_iff.mp smem
          exact ⟨old, fun _ => ne⟩
    obtain ⟨other, omem, same, svc⟩ := bound.svc id old.1
    refine ⟨other, mem_remove.mpr ⟨omem, fun equal => ?_⟩, same, svc⟩
    obtain rfl := kept.distinct.eq_of_key_eq omem mem equal
    exact old.2 svc same.symm
  · dsimp only
    split
    · exact bound.svcOnce.erase _
    · exact bound.svcOnce
  · rcases List.mem_append.mp h with before | new
    · exact bound.matched id asked granted before
    · rcases either with rfl | rfl <;> simp at new

theorem Change.bound (kept : Kept q) (bound : Bound q) (change : Change False q q') :
    Bound q' := by
  cases change with
  | freed request fewer =>
      exact ⟨fun agent id pending => bound.asked agent id (fewer agent id pending), bound.svc,
        bound.svcOnce, bound.matched, bound.faultless⟩
  | pushed device svcId => exact bound.pushed kept device svcId
  | resolved id => exact bound.resolved id
  | lost id mem gone =>
      obtain ⟨auth, amem, same, _⟩ := bound.svc id mem
      exact absurd same (gone auth amem)
  | told auth auths head outcome either ready allowed =>
      have unasked : auth.agent = none := allowed.resolve_right id
      refine ⟨fun agent id pending => absurd pending (bound.idle head unasked agent id),
        bound.svc_tail head ready, bound.svcOnce, fun id asked granted h => ?_, bound.faultless⟩
      rcases List.mem_append.mp h with before | new
      · exact bound.matched id asked granted before
      · rcases either with rfl | rfl <;> simp at new
  | asked auth auths head ready unasked agent free =>
      refine ⟨fun other id pending => ?_, fun id mem => ?_, bound.svcOnce, bound.matched,
        bound.faultless⟩
      · dsimp only at pending
        by_cases same : other = agent
        · rw [same, Function.update_self, Option.some.injEq, Asked.service.injEq] at pending
          exact ⟨_, _, rfl, pending, by rw [same]⟩
        · rw [Function.update_of_ne same] at pending
          exact absurd pending (bound.idle head unasked other id)
      · obtain ⟨other, omem, same⟩ := bound.svc_tail head ready id mem
        exact ⟨other, List.mem_cons_of_mem _ omem, same⟩
  | answered agent asked pending auth auths head granted =>
      obtain ⟨first, rest, same, ids, agents⟩ := bound.asked agent asked pending
      rw [head, List.cons.injEq] at same
      obtain ⟨rfl, rfl⟩ := same
      have ready := kept.ready auth (head ▸ List.mem_cons_self) (by simp [agents])
      refine ⟨fun other id waits => ?_, bound.svc_tail head ready, bound.svcOnce,
        fun id was verdict h => ?_, bound.faultless⟩
      · obtain ⟨ne, waits⟩ := update_service (by simp) waits
        obtain ⟨_, _, same, _, others⟩ := bound.asked other id waits
        rw [head, List.cons.injEq] at same
        rw [← same.1, agents] at others
        exact absurd (Option.some.inj others).symm ne
      · rcases List.mem_append.mp h with before | new
        · exact bound.matched id was verdict before
        · simp only [List.mem_singleton, Prod.mk.injEq, Outcome.answered.injEq] at new
          rw [new.1, new.2.1, ids]
  | withdrawn auth mem outcomes either => exact bound.withdrawn kept mem either

theorem Changes.kept (kept : Kept q) (changes : Changes r q q') : Kept q' := by
  induction changes with
  | refl => exact kept
  | tail _ change ih => exact change.kept ih

theorem Changes.bound (kept : Kept q) (bound : Bound q) (changes : Changes False q q') :
    Bound q' := by
  suffices both : Kept q' ∧ Bound q' from both.2
  induction changes with
  | refl => exact ⟨kept, bound⟩
  | tail _ change ih => exact ⟨change.kept ih.1, change.bound ih.1 ih.2⟩

theorem step_kept {s t : State} {label : Label} (kept : Kept s.toQueue)
    (h : step s label = some t) : Kept t.toQueue :=
  (step_changes (r := True) kept.distinct (Or.inl trivial) h).kept kept

theorem step_bound {s t : State} {label : Label} (kept : Kept s.toQueue) (bound : Bound s.toQueue)
    (unshortcut : Unshortcut s label) (h : step s label = some t) : Bound t.toQueue :=
  (step_changes (r := False) kept.distinct (Or.inr unshortcut) h).bound kept bound

theorem bound_run {s : State} {labels : List Label}
    (guarded : Guarded step Unshortcut State.initial labels)
    (hrun : run step State.initial labels = some s) : Kept s.toQueue ∧ Bound s.toQueue :=
  guarded_invariant (I := fun s : State => Kept s.toQueue ∧ Bound s.toQueue)
    (fun _ _ _ both unshortcut h =>
      ⟨step_kept both.1 h, step_bound both.1 both.2 unshortcut h⟩)
    ⟨kept_initial, bound_initial⟩ guarded hrun

/-- As long as no device is found trusted after the agent has been asked about it, every
answer of an agent goes to the authorization that it was asked about, every authorization
is told one outcome at most, and device.c never calls back on one that has been freed. -/
theorem answers_match {s : State} {labels : List Label}
    (guarded : Guarded step Unshortcut State.initial labels)
    (hrun : run step State.initial labels = some s) :
    (∀ id asked granted, (id, .answered asked granted) ∈ s.outcomes → asked = id) ∧
    (s.outcomes.map Prod.fst).Nodup ∧ s.fault = false := by
  obtain ⟨kept, bound⟩ := bound_run guarded hrun
  exact ⟨bound.matched, kept.once, bound.faultless⟩

/-- An agent that is asked about every device that is not trusted. -/
def asking (trusted : ObjectPath → Bool) : ProcessAnswer := ⟨trusted, some 0, true⟩

/-- Two devices are authorized one after the other, the second after its services are
known, and a third one in between goes away. -/
theorem answers_match_two_devices : ∃ s,
    run step State.initial
      [.authorize "/org/bluez/hci0/dev_A" false, .idle (asking fun _ => false),
        .authorize "/org/bluez/hci0/dev_B" true, .authorize "/org/bluez/hci0/dev_C" true,
        .svcComplete 3, .removeDevice "/org/bluez/hci0/dev_B", .reply 0 true,
        .idle (asking fun _ => false), .reply 0 false] = some s ∧
    s.outcomes = [(2, .canceled), (1, .answered 1 true), (3, .answered 3 false)] ∧
    s.fault = false := by
  have runs : (run step State.initial
      [.authorize "/org/bluez/hci0/dev_A" false, .idle (asking fun _ => false),
        .authorize "/org/bluez/hci0/dev_B" true, .authorize "/org/bluez/hci0/dev_C" true,
        .svcComplete 3, .removeDevice "/org/bluez/hci0/dev_B", .reply 0 true,
        .idle (asking fun _ => false), .reply 0 false]).map (fun s => s.outcomes) =
      some [(2, .canceled), (1, .answered 1 true), (3, .answered 3 false)] := by decide
  obtain ⟨s, hs, outcomes⟩ := Option.map_eq_some_iff.mp runs
  exact ⟨s, hs, outcomes, (answers_match (by decide) hs).2.2⟩

/-- Those that the loop has told something are the first of the queue, in its order. -/
theorem processAuths_ids (answer : ProcessAnswer) (request : ℕ → Option Asked)
    (auths : List ServiceAuth) :
    (processAuths answer request auths).2.2.map Prod.fst ++
      (processAuths answer request auths).1.map ServiceAuth.id = auths.map ServiceAuth.id := by
  induction auths with
  | nil => rfl
  | cons auth auths ih =>
      have later := congrArg (List.cons auth.id) ih
      unfold processAuths
      simp only []
      split
      · rfl
      · split
        · exact later
        · split
          · rfl
          · split
            · exact later
            · split
              · exact later
              · rfl

end Answers

end BluezTutorial.Authorization
