import BluezTutorial.Authorization

/-! Whether the queue of authorizations goes on. `process_auth_queue` looks at the head of
the queue and at nothing else, so a queue that is not empty needs somebody who will look at
its head again: the idle source, device.c when the services of the device are known, or an
agent that has been asked.

Three places of the code leave a queue without any of them. `btd_cancel_authorization` and
`btd_adapter_remove_device` take the head away and do not schedule the idle source for the
next one. `agent_cancel`, when it is called for something else, drops the request about the
head. And `agent_auth_cb` removes the idle source of an empty queue but leaves
`auth_idle_id` set, after which nobody adds a source again. -/

namespace BluezTutorial.Authorization
open LabelledRun KeyedList

section Attended

/-- Somebody will look at the head of the queue again. -/
structure Attended (s : State) : Prop where
  source : s.authIdleId = s.idle
  asked : ∀ auth ∈ s.auths, ∀ agent, auth.agent = some agent →
    s.request agent = some (.service auth.id)
  head : ∀ auth ∈ s.auths.head?, s.idle = true ∨ auth.svcId = true ∨ auth.agent.isSome = true

/-- If the head of the queue is among those that leave, the idle source is there for the
one that becomes the head, or its services are not known yet. -/
def Resumes (s : State) (leaves : ServiceAuth → Bool) : Prop :=
  ∀ auth ∈ s.auths.head?, leaves auth = true → s.idle = true ∨
    ∀ next ∈ (s.auths.filter fun auth => !leaves auth).head?, next.svcId = true

def Unblocking (s : State) : Label → Prop
  | .reply _ _ => s.auths.length = 1 → s.idle = false
  | .cancel id => Resumes s fun auth => auth.id = id
  | .removeDevice device => Resumes s fun auth => auth.device = device
  | .agentCancel agent => ∀ auth ∈ s.auths, auth.agent ≠ some agent
  | _ => True

instance (s : State) (leaves : ServiceAuth → Bool) : Decidable (Resumes s leaves) :=
  inferInstanceAs (Decidable (∀ auth ∈ s.auths.head?, leaves auth = true → s.idle = true ∨
    ∀ next ∈ (s.auths.filter fun auth => !leaves auth).head?, next.svcId = true))

instance (s : State) (label : Label) : Decidable (Unblocking s label) :=
  match label with
  | .reply _ _ => inferInstanceAs (Decidable (s.auths.length = 1 → s.idle = false))
  | .cancel id => inferInstanceAs (Decidable (Resumes s fun auth => auth.id = id))
  | .removeDevice device => inferInstanceAs (Decidable (Resumes s fun auth => auth.device = device))
  | .agentCancel agent => inferInstanceAs (Decidable (∀ auth ∈ s.auths, auth.agent ≠ some agent))
  | .authorize _ _ | .svcComplete _ | .idle _ | .ask _ | .answered _ => isTrue trivial

variable {s t u : State} {auth other : ServiceAuth} {agent : ℕ} {leaves : ServiceAuth → Bool}

theorem Kept.asked_eq {q : Queue} (kept : Kept q) (mem : auth ∈ q.auths) (omem : other ∈ q.auths)
    (asked : auth.agent = some agent) (oasked : other.agent = some agent) : auth = other := by
  cases head : q.auths with
  | nil => simp [head] at mem
  | cons first rest =>
      have only : ∀ x ∈ q.auths, x.agent = some agent → x = first := by
        intro x xmem xasked
        rw [head] at xmem
        refine (List.mem_cons.mp xmem).resolve_right fun later => ?_
        rw [kept.unasked x (by rw [head]; exact later)] at xasked
        cases xasked
      rw [only auth mem asked, only other omem oasked]

/-- `t` is `s` without the authorizations that leave, and no other agent is free. -/
structure Without (leaves : ServiceAuth → Bool) (s t : State) : Prop where
  auths : t.auths = s.auths.filter fun auth => !leaves auth
  idle : t.idle = s.idle
  authIdleId : t.authIdleId = s.authIdleId
  request : ∀ agent, (∀ auth ∈ s.auths, leaves auth = true → auth.agent ≠ some agent) →
    t.request agent = s.request agent

theorem Without.refl (stay : ∀ auth ∈ s.auths, leaves auth = false) : Without leaves s s := by
  refine ⟨(List.filter_eq_self.mpr fun auth mem => ?_).symm, rfl, rfl, fun _ _ => rfl⟩
  simp [stay auth mem]

theorem Without.trans {leaves' : ServiceAuth → Bool} (first : Without leaves s t)
    (second : Without leaves' t u) : Without (fun auth => leaves auth || leaves' auth) s u := by
  refine ⟨?_, second.idle.trans first.idle, second.authIdleId.trans first.authIdleId,
    fun agent free => ?_⟩
  · rw [second.auths, first.auths, List.filter_filter]
    refine List.filter_congr fun auth _ => ?_
    cases leaves auth <;> cases leaves' auth <;> rfl
  · rw [second.request agent, first.request agent]
    · exact fun auth mem gone => free auth mem (by simp [gone])
    · intro auth mem gone
      rw [first.auths] at mem
      exact free auth (List.mem_of_mem_filter mem) (by simp [gone])

theorem Without.congr {leaves' : ServiceAuth → Bool}
    (same : ∀ auth ∈ s.auths, leaves auth = leaves' auth) (without : Without leaves s t) :
    Without leaves' s t := by
  refine ⟨?_, without.idle, without.authIdleId, fun agent free => without.request agent ?_⟩
  · rw [without.auths]
    exact List.filter_congr fun auth mem => by rw [same auth mem]
  · exact fun auth mem gone => free auth mem (by rwa [← same auth mem])

theorem withdraw_without (mem : auth ∈ s.auths) :
    Without (fun other => other.id = auth.id) s (withdraw auth s) := by
  have queue := withdraw_toQueue auth s
  refine ⟨?_, ?_, ?_, fun agent free => ?_⟩
  · rw [congrArg Queue.auths queue]
    exact List.filter_congr fun other _ => by simp
  · cases svc : auth.svcId <;> cases agent : auth.agent <;>
      simp [withdraw, cancelRequest, State.clear, svc, agent]
  · cases svc : auth.svcId <;> cases agent : auth.agent <;>
      simp [withdraw, cancelRequest, State.clear, svc, agent]
  · rw [congrArg Queue.request queue]
    have own := free auth mem (by simp)
    cases asked : auth.agent with
    | none => rfl
    | some held => exact Function.update_of_ne (fun same => own (by rw [asked, same])) _ _

theorem btdCancelAuthorization_without (id : ℕ) :
    Without (fun auth => auth.id = id) s (btdCancelAuthorization id s) := by
  obtain found | ⟨auth, found⟩ :=
    Option.eq_none_or_eq_some (KeyedList.find ServiceAuth.id id s.auths)
  · simp only [btdCancelAuthorization, found]
    exact .refl fun auth mem => by simpa using List.find?_eq_none.mp found auth mem
  · simp only [btdCancelAuthorization, found]
    have same : auth.id = id := by simpa using List.find?_some found
    rw [← same]
    exact withdraw_without (List.mem_of_find?_eq_some found)

theorem serviceAuthCancel_foldl_without {others : List ServiceAuth}
    (apart : Distinct ServiceAuth.id others) (inside : ∀ auth ∈ others, auth ∈ s.auths) :
    Without (fun auth => others.any (·.id = auth.id)) s (others.foldl serviceAuthCancel s) := by
  induction others generalizing s with
  | nil => exact .refl fun _ _ => rfl
  | cons first others ih =>
      obtain ⟨unlike, tail⟩ := List.nodup_cons.mp apart
      have one : Without (fun auth => auth.id = first.id) s (serviceAuthCancel s first) := by
        have without := withdraw_without (s := { s with
          outcomes := s.outcomes ++ [(first.id, Outcome.canceled)] })
          (inside first List.mem_cons_self)
        exact ⟨without.auths, without.idle, without.authIdleId, without.request⟩
      have rest := ih (s := serviceAuthCancel s first) tail fun auth mem => by
        rw [one.auths]
        refine List.mem_filter.mpr ⟨inside auth (List.mem_cons_of_mem _ mem), ?_⟩
        have other : auth.id ≠ first.id := fun same => unlike (same ▸ List.mem_map_of_mem mem)
        simpa using other
      refine (one.trans rest).congr fun auth _ => ?_
      simp [List.any_cons, eq_comm]

theorem btdAdapterRemoveDevice_without (distinct : Distinct ServiceAuth.id s.auths)
    (device : ObjectPath) :
    Without (fun auth => auth.device = device) s (btdAdapterRemoveDevice device s) := by
  unfold btdAdapterRemoveDevice
  have without := serviceAuthCancel_foldl_without (s := s)
    ((List.filter_sublist.map _).nodup distinct) fun auth mem =>
      List.mem_of_mem_filter (p := fun auth => decide (auth.device = device)) mem
  refine without.congr fun auth mem => ?_
  rw [Bool.eq_iff_iff, List.any_eq_true, decide_eq_true_iff]
  constructor
  · rintro ⟨other, omem, same⟩
    obtain ⟨omem, ours⟩ := List.mem_filter.mp omem
    rw [← distinct.eq_of_key_eq omem mem (by simpa using same)]
    simpa using ours
  · exact fun ours => ⟨auth, List.mem_filter.mpr ⟨mem, by simpa using ours⟩, by simp⟩

theorem Without.attended_after_iff (kept : Kept s.toQueue) (attended : Attended s)
    (without : Without leaves s t) : Attended t ↔ Resumes s leaves := by
  constructor
  · intro after auth first gone
    rw [← without.idle, ← without.auths]
    by_cases idle : t.idle = true
    · exact Or.inl idle
    · refine Or.inr fun next found => ?_
      rcases after.head next found with h | h | asked
      · exact absurd h idle
      · exact h
      · -- only the head that has left can have been asked about
        rw [without.auths] at found
        obtain ⟨mem, stays⟩ := List.mem_filter.mp (List.mem_of_head? found)
        obtain ⟨rest, head⟩ := List.head?_eq_some_iff.mp first
        rw [head] at mem
        have later := (List.mem_cons.mp mem).resolve_left fun same => by
          rw [same, gone] at stays
          cases stays
        rw [kept.unasked next (by rw [head]; exact later)] at asked
        cases asked
  · intro resumes
    refine ⟨by rw [without.authIdleId, without.idle]; exact attended.source, ?_, ?_⟩
    · intro auth mem agent asked
      rw [without.auths] at mem
      obtain ⟨mem, stays⟩ := List.mem_filter.mp mem
      rw [without.request agent fun other omem gone oasked => ?_]
      · exact attended.asked auth mem agent asked
      · rw [kept.asked_eq mem omem asked oasked, gone] at stays
        cases stays
    · intro next found
      rw [without.auths] at found
      rw [without.idle]
      cases head : s.auths with
      | nil => simp [head] at found
      | cons first rest =>
          have isFirst : first ∈ s.auths.head? := by simp [head]
          cases gone : leaves first with
          | false =>
              have same : first = next := by simpa [head, gone] using found
              exact same ▸ attended.head first isFirst
          | true =>
              rcases resumes first isFirst gone with idle | waits
              · exact Or.inl idle
              · exact Or.inr (Or.inl (waits next found))

theorem schedule_idle (source : s.authIdleId = s.idle) :
    s.schedule.idle = true ∧ s.schedule.authIdleId = true := by
  unfold State.schedule
  split
  · next set => exact ⟨source ▸ set, set⟩
  · exact ⟨rfl, rfl⟩

/-- The loop stops in front of an authorization that waits for the services of its device
or for an agent. -/
theorem processAuths_head (answer : ProcessAnswer) (request : ℕ → Option Asked)
    (auths : List ServiceAuth) : ∀ auth ∈ (processAuths answer request auths).1.head?,
    auth.svcId = true ∨ auth.agent.isSome = true := by
  induction auths with
  | nil => simp [processAuths]
  | cons first auths ih =>
      unfold processAuths
      simp only []
      split
      · next svc => simp [svc]
      · split
        · exact ih
        · split
          · next ongoing => simp [ongoing]
          · split
            · exact ih
            · split
              · exact ih
              · simp

theorem processAuths_asked (answer : ProcessAnswer) {request : ℕ → Option Asked}
    {auths : List ServiceAuth} (asked : ∀ auth ∈ auths, ∀ agent, auth.agent = some agent →
      request agent = some (.service auth.id)) :
    ∀ auth ∈ (processAuths answer request auths).1, ∀ agent, auth.agent = some agent →
      (processAuths answer request auths).2.1 agent = some (.service auth.id) := by
  induction auths with
  | nil => simp [processAuths]
  | cons first auths ih =>
      have later := ih fun auth mem => asked auth (List.mem_cons_of_mem _ mem)
      unfold processAuths
      simp only []
      split
      · exact asked
      · split
        · exact later
        · split
          · exact asked
          · split
            · exact later
            · next chosen _ =>
                split
                · exact later
                · next free =>
                    rw [Bool.or_eq_true, not_or, Option.not_isSome_iff_eq_none] at free
                    intro auth mem agent isAsked
                    rcases List.mem_cons.mp mem with rfl | mem
                    · rw [← Option.some.inj isAsked]
                      exact Function.update_self ..
                    · have pending := asked auth (List.mem_cons_of_mem _ mem) agent isAsked
                      refine (Function.update_of_ne ?_ _ _).trans pending
                      rintro rfl
                      rw [free.1] at pending
                      cases pending

theorem adapterAuthorize_attended (attended : Attended s) (device : ObjectPath)
    (checkForConnection : Bool) :
    Attended (adapterAuthorize device checkForConnection s) := by
  have asked : ∀ auth ∈ s.auths ++ [⟨s.lastId + 1, device, checkForConnection, none⟩], ∀ agent,
      auth.agent = some agent → s.request agent = some (.service auth.id) := by
    intro auth mem agent isAsked
    rcases List.mem_append.mp mem with old | new
    · exact attended.asked auth old agent isAsked
    · rw [List.mem_singleton.mp new] at isAsked
      cases isAsked
  cases checkForConnection with
  | true =>
      refine ⟨attended.source, asked, fun auth found => ?_⟩
      cases head : s.auths with
      | nil =>
          have new : ⟨s.lastId + 1, device, true, none⟩ = auth := by
            simpa [adapterAuthorize, head] using found
          exact Or.inr (Or.inl (by rw [← new]))
      | cons first rest =>
          have same : first = auth := by simpa [adapterAuthorize, head] using found
          exact same ▸ attended.head first (by simp [head])
  | false =>
      obtain ⟨idle, set⟩ := schedule_idle attended.source
      refine ⟨set.trans idle.symm, ?_, fun _ _ => Or.inl idle⟩
      have queue := schedule_toQueue s
      simpa [adapterAuthorize, queue] using asked

theorem svcComplete_attended (attended : Attended s) (id : ℕ) :
    Attended (svcComplete id s) := by
  obtain found | ⟨auth, found⟩ :=
    Option.eq_none_or_eq_some (KeyedList.find ServiceAuth.id id s.auths)
  · simp only [svcComplete, found]
    exact ⟨attended.source, attended.asked, attended.head⟩
  · simp only [svcComplete, found]
    generalize hu : ({ s with
      svcCallbacks := s.svcCallbacks.erase id
      auths := update ServiceAuth.id id (fun auth => { auth with svcId := false })
        s.auths } : State) = u
    have source : u.authIdleId = u.idle := by rw [← hu]; exact attended.source
    obtain ⟨idle, set⟩ := schedule_idle source
    refine ⟨set.trans idle.symm, ?_, fun _ _ => Or.inl idle⟩
    rw [schedule_toQueue, ← hu]
    intro auth mem agent isAsked
    obtain ⟨old, omem, rfl⟩ := List.mem_map.mp mem
    by_cases same : old.id = id
    · rw [if_pos same] at isAsked ⊢
      exact attended.asked old omem agent isAsked
    · rw [if_neg same] at isAsked ⊢
      exact attended.asked old omem agent isAsked

theorem processAuthQueue_attended (attended : Attended s) (answer : ProcessAnswer) :
    Attended (processAuthQueue answer s) :=
  ⟨rfl, processAuths_asked answer attended.asked,
    fun auth found => Or.inr (processAuths_head answer s.request s.auths auth found)⟩

/-- The answer that empties the queue keeps it attended only if there is no source to be
removed. -/
theorem agentAuthCb_attended_iff (kept : Kept s.toQueue) (attended : Attended s)
    (asked : ℕ) (granted : Bool) (agent : ℕ) :
    Attended ((agentAuthCb asked granted s).clear agent) ↔
      (s.auths.length = 1 → s.idle = false) := by
  cases head : s.auths with
  | nil =>
      simp only [agentAuthCb, head, List.length_nil, Nat.zero_ne_one, false_implies, iff_true]
      refine ⟨attended.source, ?_, ?_⟩ <;> simp [State.clear, head]
  | cons auth auths =>
      unfold agentAuthCb
      simp only [head]
      by_cases empty : auths = []
      · rw [if_pos empty]
        simp only [empty, List.length_singleton, forall_const]
        constructor
        · intro after
          have source := after.source
          cases set : s.authIdleId with
          | false => exact attended.source.symm.trans set
          | true => simp [State.clear, set] at source
        · intro idle
          have unset := attended.source.trans idle
          refine ⟨?_, ?_, ?_⟩ <;> simp [State.clear, unset, idle]
      · rw [if_neg empty]
        have several : (auth :: auths).length ≠ 1 := by simpa using empty
        simp only [several, false_implies, iff_true]
        generalize hu : ({ s with
          auths := auths
          outcomes := s.outcomes ++ [(auth.id, Outcome.answered asked granted)] } : State) = u
        have source : u.authIdleId = u.idle := by rw [← hu]; exact attended.source
        obtain ⟨idle, set⟩ := schedule_idle source
        refine ⟨set.trans idle.symm, fun other mem chosen isAsked => ?_, fun _ _ => Or.inl idle⟩
        have rest : (u.schedule.clear agent).auths = auths := by
          rw [← hu]
          exact congrArg Queue.auths (schedule_toQueue _)
        rw [rest] at mem
        rw [kept.unasked other (by rw [head]; exact mem)] at isAsked
        cases isAsked

theorem clear_attended_iff (attended : Attended s) (agent : ℕ) :
    Attended (s.clear agent) ↔ ∀ auth ∈ s.auths, auth.agent ≠ some agent := by
  constructor
  · intro after auth mem isAsked
    have pending := after.asked auth mem agent isAsked
    simp [State.clear] at pending
  · intro free
    refine ⟨attended.source, fun auth mem chosen isAsked => ?_, attended.head⟩
    have other : chosen ≠ agent := by
      rintro rfl
      exact free auth mem isAsked
    exact (Function.update_of_ne other _ _).trans (attended.asked auth mem chosen isAsked)

/-- An agent whose request is not about an authorization is not the one of a queued
authorization. -/
theorem Attended.elsewhere (attended : Attended s)
    (foreign : ∀ id, s.request agent ≠ some (.service id)) :
    ∀ auth ∈ s.auths, auth.agent ≠ some agent :=
  fun auth mem isAsked => foreign auth.id (attended.asked auth mem agent isAsked)

theorem step_attended_iff {label : Label} (kept : Kept s.toQueue) (attended : Attended s)
    (h : step s label = some t) : Attended t ↔ Unblocking s label := by
  cases label with
  | authorize device checkForConnection =>
      obtain rfl := Option.some.inj h
      exact iff_of_true (adapterAuthorize_attended attended device checkForConnection) trivial
  | svcComplete id =>
      simp only [step, Option.ite_none_right_eq_some, Option.some.injEq] at h
      obtain ⟨_, rfl⟩ := h
      exact iff_of_true (svcComplete_attended attended id) trivial
  | idle answer =>
      simp only [step, Option.ite_none_right_eq_some, Option.some.injEq] at h
      obtain ⟨_, rfl⟩ := h
      exact iff_of_true (processAuthQueue_attended attended answer) trivial
  | reply agent granted =>
      obtain ⟨asked, _, rfl⟩ := step_reply h
      exact agentAuthCb_attended_iff kept attended asked granted agent
  | cancel id =>
      obtain rfl := Option.some.inj h
      exact (btdCancelAuthorization_without id).attended_after_iff kept attended
  | removeDevice device =>
      obtain rfl := Option.some.inj h
      exact (btdAdapterRemoveDevice_without kept.distinct device).attended_after_iff kept attended
  | ask agent =>
      simp only [step, Option.ite_none_right_eq_some, Option.some.injEq] at h
      obtain ⟨free, rfl⟩ := h
      rw [Option.isNone_iff_eq_none] at free
      refine iff_of_true ⟨attended.source, fun auth mem chosen isAsked => ?_, attended.head⟩ trivial
      have pending := attended.asked auth mem chosen isAsked
      refine (Function.update_of_ne ?_ _ _).trans pending
      rintro rfl
      rw [free] at pending
      cases pending
  | answered agent =>
      simp only [step, Option.ite_none_right_eq_some, Option.some.injEq] at h
      obtain ⟨other, rfl⟩ := h
      refine iff_of_true ((clear_attended_iff attended agent).mpr ?_) trivial
      exact attended.elsewhere (by simp [other])
  | agentCancel agent =>
      obtain rfl := Option.some.inj h
      exact clear_attended_iff attended agent

theorem attended_initial : Attended State.initial := by
  refine ⟨rfl, ?_, ?_⟩ <;> simp [State.initial, Queue.initial]

/-- The queue is attended in every state of a run exactly if the run does none of the
following: take the head of the queue away, by a cancellation or with its device, and leave
one that could be asked about to become the head while no idle source is there; cancel the
request of an agent that has been asked about a queued authorization; answer the only
authorization of the queue while the idle source is there. -/
theorem attended_iff {s : State} {labels : List Label}
    (hrun : run step State.initial labels = some s) :
    Along step Attended State.initial labels ↔ Guarded step Unblocking State.initial labels :=
  along_iff_guarded (I := fun s => Kept s.toQueue ∧ Attended s)
    (fun _ _ _ both unblocking h =>
      ⟨step_kept both.1 h, (step_attended_iff both.1 both.2 h).mpr unblocking⟩)
    (fun _ both => both.2)
    (fun _ _ _ both h after => (step_attended_iff both.1 both.2 h).mp after)
    ⟨kept_initial, attended_initial⟩ hrun

/-- The agent is asked about one device while another one waits, and the connection of the
first is closed: nobody asks about the other. -/
theorem attended_iff_canceled_head : ∃ s,
    run step State.initial
      [.authorize "/org/bluez/hci0/dev_A" false, .idle (asking fun _ => false),
        .authorize "/org/bluez/hci0/dev_B" false, .idle (asking fun _ => false), .cancel 1] = some s ∧
    ¬Along step Attended State.initial
      [.authorize "/org/bluez/hci0/dev_A" false, .idle (asking fun _ => false),
        .authorize "/org/bluez/hci0/dev_B" false, .idle (asking fun _ => false), .cancel 1] := by
  have runs : (run step State.initial
      [.authorize "/org/bluez/hci0/dev_A" false, .idle (asking fun _ => false),
        .authorize "/org/bluez/hci0/dev_B" false, .idle (asking fun _ => false),
        .cancel 1]).isSome := by decide
  obtain ⟨s, hs⟩ := Option.isSome_iff_exists.mp runs
  refine ⟨s, hs, ?_⟩
  rw [attended_iff hs]
  decide

end Attended

section Settling

variable {s t u : State} {q q' : Queue} {r : Prop} {label : Label}

/-- What is left to happen when nothing is queued any more and nothing is taken back. -/
def Label.Settling : Label → Prop
  | .svcComplete _ | .idle _ | .reply _ _ => True
  | _ => False

/-- Whose services are not known yet is going to be called back. -/
def Called (q : Queue) : Prop := ∀ auth ∈ q.auths, auth.svcId = true → auth.id ∈ q.svcCallbacks

theorem Change.called (called : Called q) (change : Change r q q') : Called q' := by
  cases change with
  | freed request fewer => exact called
  | pushed device svcId =>
      intro auth mem svc
      rcases List.mem_append.mp mem with old | new
      · have before := called auth old svc
        cases svcId with
        | false => exact before
        | true => exact List.mem_append_left _ before
      · rw [List.mem_singleton.mp new] at svc ⊢
        simp only at svc
        simp [svc]
  | resolved id =>
      intro auth mem svc
      obtain ⟨old, omem, rfl⟩ := List.mem_map.mp mem
      by_cases same : old.id = id
      · simp [same] at svc
      · rw [if_neg same] at svc ⊢
        exact (List.mem_erase_of_ne same).mpr (called old omem svc)
  | lost id mem gone =>
      intro auth amem svc
      exact (List.mem_erase_of_ne (gone auth amem)).mpr (called auth amem svc)
  | told auth auths head outcome either ready allowed =>
      exact fun other mem => called other (by rw [head]; exact List.mem_cons_of_mem _ mem)
  | asked auth auths head ready unasked agent free =>
      intro other mem svc
      rcases List.mem_cons.mp mem with rfl | later
      · simp [ready] at svc
      · exact called other (by rw [head]; exact List.mem_cons_of_mem _ later) svc
  | answered agent asked pending auth auths head granted =>
      exact fun other mem => called other (by rw [head]; exact List.mem_cons_of_mem _ mem)
  | withdrawn auth mem outcomes either =>
      intro other omem svc
      obtain ⟨omem, ne⟩ := mem_remove.mp omem
      have before := called other omem svc
      dsimp only
      split
      · exact (List.mem_erase_of_ne ne).mpr before
      · exact before

theorem Changes.called (called : Called q) (changes : Changes r q q') : Called q' := by
  induction changes with
  | refl => exact called
  | tail _ change ih => exact change.called ih

theorem step_called (kept : Kept s.toQueue) (called : Called s.toQueue)
    (h : step s label = some t) : Called t.toQueue :=
  (step_changes (r := True) kept.distinct (Or.inl trivial) h).called called

/-- Settling tells the first authorizations of the queue their outcomes, in its order. -/
def Settled (s t : State) : Prop := ∃ told, t.outcomes = s.outcomes ++ told ∧
  told.map Prod.fst ++ t.auths.map ServiceAuth.id = s.auths.map ServiceAuth.id

theorem Settled.refl (s : State) : Settled s s := ⟨[], by simp, by simp⟩

theorem Settled.trans (first : Settled s t) (second : Settled t u) : Settled s u := by
  obtain ⟨told, outcomes, auths⟩ := first
  obtain ⟨told', outcomes', auths'⟩ := second
  refine ⟨told ++ told', ?_, ?_⟩
  · rw [outcomes', outcomes, List.append_assoc]
  · rw [List.map_append, List.append_assoc, auths', auths]

theorem svcComplete_settled (id : ℕ) : Settled s (svcComplete id s) := by
  refine ⟨[], ?_, ?_⟩
  · unfold svcComplete
    simp only
    split
    · exact (List.append_nil _).symm
    · rw [schedule_toQueue]
      exact (List.append_nil _).symm
  · rw [List.map_nil, List.nil_append]
    unfold svcComplete
    simp only
    split
    · rfl
    · rw [schedule_toQueue]
      exact map_key_update fun _ same => same

theorem agentAuthCb_settled (asked agent : ℕ) (granted : Bool) :
    Settled s ((agentAuthCb asked granted s).clear agent) := by
  cases head : s.auths with
  | nil =>
      simp only [agentAuthCb, head]
      exact ⟨[], by simp [State.clear], by simp [State.clear]⟩
  | cons auth auths =>
      refine ⟨[(auth.id, .answered asked granted)], ?_, ?_⟩ <;>
      · simp only [agentAuthCb, head, State.clear]
        split <;> simp

theorem step_settled (settling : label.Settling) (h : step s label = some t) : Settled s t := by
  cases label with
  | svcComplete id =>
      simp only [step, Option.ite_none_right_eq_some, Option.some.injEq] at h
      obtain ⟨_, rfl⟩ := h
      exact svcComplete_settled id
  | idle answer =>
      simp only [step, Option.ite_none_right_eq_some, Option.some.injEq] at h
      obtain ⟨_, rfl⟩ := h
      exact ⟨_, rfl, processAuths_ids answer s.request s.auths⟩
  | reply agent granted =>
      obtain ⟨asked, _, rfl⟩ := step_reply h
      exact agentAuthCb_settled asked agent granted
  | _ => cases settling

theorem Settled.length_le (settled : Settled s t) : t.auths.length ≤ s.auths.length := by
  obtain ⟨told, _, auths⟩ := settled
  have lengths := congrArg List.length auths
  simp only [List.length_append, List.length_map] at lengths
  omega

/-- How many steps of settling there can still be. -/
def remaining (s : State) : ℕ :=
  2 * (s.auths.length + s.svcCallbacks.length) + s.idle.toNat

theorem step_remaining (bound : Bound s.toQueue) (settling : label.Settling)
    (h : step s label = some t) : remaining t < remaining s := by
  have fewer := (step_settled settling h).length_le
  cases label with
  | svcComplete id =>
      simp only [step, Option.ite_none_right_eq_some, Option.some.injEq] at h
      obtain ⟨mem, rfl⟩ := h
      have callbacks : (svcComplete id s).svcCallbacks = s.svcCallbacks.erase id := by
        unfold svcComplete
        simp only
        split
        · rfl
        · rw [schedule_toQueue]
      have shorter := List.length_erase_of_mem mem
      have some := List.length_pos_of_mem mem
      have source := Bool.toNat_le (svcComplete id s).idle
      simp only [remaining, callbacks]
      omega
  | idle answer =>
      simp only [step, Option.ite_none_right_eq_some, Option.some.injEq] at h
      obtain ⟨idle, rfl⟩ := h
      simp only [remaining, idle, Bool.toNat_true] at fewer ⊢
      simp only [processAuthQueue, Bool.toNat_false] at fewer ⊢
      omega
  | reply agent granted =>
      obtain ⟨asked, pending, rfl⟩ := step_reply h
      obtain ⟨auth, auths, head, -, -⟩ := bound.asked agent asked pending
      have popped : ((agentAuthCb asked granted s).clear agent).auths = auths := by
        simp only [agentAuthCb, head, State.clear]
        split <;> simp
      have callbacks : ((agentAuthCb asked granted s).clear agent).svcCallbacks =
          s.svcCallbacks := by
        simp only [agentAuthCb, head, State.clear]
        split <;> simp
      have source := Bool.toNat_le ((agentAuthCb asked granted s).clear agent).idle
      simp only [remaining, popped, callbacks, head, List.length_cons]
      omega
  | _ => cases settling

/-- An attended queue stays so while it is settled, until it is empty. -/
theorem step_empty_or_attended (kept : Kept s.toQueue) (attended : s.auths = [] ∨ Attended s)
    (settling : label.Settling) (h : step s label = some t) : t.auths = [] ∨ Attended t := by
  have fewer := (step_settled settling h).length_le
  rcases attended with empty | attended
  · rw [empty, List.length_nil, Nat.le_zero, List.length_eq_zero_iff] at fewer
    exact Or.inl fewer
  · by_cases unblocking : Unblocking s label
    · exact Or.inr ((step_attended_iff kept attended h).mpr unblocking)
    · cases label with
      | reply agent granted =>
          obtain ⟨asked, _, rfl⟩ := step_reply h
          have one : s.auths.length = 1 := (Classical.not_imp.mp unblocking).1
          obtain ⟨auth, head⟩ := List.length_eq_one_iff.mp one
          left
          simp [agentAuthCb, head, State.clear]
      | svcComplete id => exact absurd trivial unblocking
      | idle answer => exact absurd trivial unblocking
      | _ => cases settling

/-- Whom the head of an attended queue waits for can act. -/
theorem Attended.settles (attended : Attended s) (called : Called s.toQueue)
    (queued : s.auths ≠ []) : ∃ (label : Label) (t : State),
      label.Settling ∧ step s label = some t := by
  obtain ⟨auth, auths, head⟩ := List.exists_cons_of_ne_nil queued
  have mem : auth ∈ s.auths := head ▸ List.mem_cons_self
  rcases attended.head auth (by simp [head]) with idle | svc | asked
  · exact ⟨.idle ⟨fun _ => false, none, false⟩, _, trivial, by simp only [step, idle, if_true]; rfl⟩
  · have callback := called auth mem svc
    exact ⟨.svcComplete auth.id, _, trivial, by simp only [step, callback, if_true]; rfl⟩
  · obtain ⟨agent, isAsked⟩ := Option.isSome_iff_exists.mp asked
    have pending := attended.asked auth mem agent isAsked
    exact ⟨.reply agent false, _, trivial, by simp only [step, pending]; rfl⟩

/-- The invariant of a queue that is being settled. -/
structure Draining (s : State) : Prop where
  kept : Kept s.toQueue
  bound : Bound s.toQueue
  called : Called s.toQueue
  attended : s.auths = [] ∨ Attended s

theorem Draining.run {labels : List Label} (draining : Draining s)
    (unshortcut : Guarded step Unshortcut s labels)
    (settling : ∀ label ∈ labels, label.Settling)
    (hrun : LabelledRun.run step s labels = some t) :
    Draining t ∧ Settled s t ∧ remaining t + labels.length ≤ remaining s := by
  induction labels generalizing s with
  | nil =>
      obtain rfl : s = t := by simpa using hrun
      exact ⟨draining, Settled.refl s, le_rfl⟩
  | cons label labels ih =>
      rw [run_cons, Option.bind_eq_some_iff] at hrun
      obtain ⟨u, taken, hrun⟩ := hrun
      obtain ⟨allowed, later⟩ := guarded_cons.mp unshortcut
      have settles := settling label List.mem_cons_self
      obtain ⟨kept, bound, called, attended⟩ := draining
      have next : Draining u := ⟨step_kept kept taken, step_bound kept bound allowed taken,
        step_called kept called taken, step_empty_or_attended kept attended settles taken⟩
      obtain ⟨final, settled, rest⟩ := ih next (later u taken)
        (fun other mem => settling other (List.mem_cons_of_mem _ mem)) hrun
      have less := step_remaining bound settles taken
      refine ⟨final, (step_settled settles taken).trans settled, ?_⟩
      rw [List.length_cons]
      omega

end Settling

section Wedged

variable {s t : State} {label : Label}

/-- The idle source is gone and `auth_idle_id` still set, and no agent has been asked. -/
structure Wedged (s : State) : Prop where
  idle : s.idle = false
  set : s.authIdleId = true
  free : ∀ agent id, s.request agent ≠ some (.service id)

theorem schedule_of_set (set : s.authIdleId = true) : s.schedule = s := by
  simp [State.schedule, set]

theorem Wedged.withdraw (wedged : Wedged s) (auth : ServiceAuth) : Wedged (withdraw auth s) := by
  have queue := congrArg Queue.request (withdraw_toQueue auth s)
  refine ⟨?_, ?_, ?_⟩
  · cases svc : auth.svcId <;> cases agent : auth.agent <;>
      simp [Authorization.withdraw, cancelRequest, State.clear, svc, agent, wedged.idle]
  · cases svc : auth.svcId <;> cases agent : auth.agent <;>
      simp [Authorization.withdraw, cancelRequest, State.clear, svc, agent, wedged.set]
  · rw [queue]
    intro agent id pending
    cases asked : auth.agent with
    | none => exact wedged.free agent id (by simpa [asked] using pending)
    | some held =>
        simp only [asked] at pending
        exact wedged.free agent id (update_service (by simp) pending).2

/-- The outcomes of `t` are those of `s` and cancellations. -/
def OnlyCanceled (s t : State) : Prop := ∃ later, t.outcomes = s.outcomes ++ later ∧
  ∀ o ∈ later, o.2 = .canceled

theorem OnlyCanceled.of_eq (same : t.outcomes = s.outcomes) : OnlyCanceled s t :=
  ⟨[], by rw [same, List.append_nil], by simp⟩

theorem OnlyCanceled.trans {u : State} (first : OnlyCanceled s t) (second : OnlyCanceled t u) :
    OnlyCanceled s u := by
  obtain ⟨later, outcomes, canceled⟩ := first
  obtain ⟨later', outcomes', canceled'⟩ := second
  refine ⟨later ++ later', by rw [outcomes', outcomes, List.append_assoc], fun o mem => ?_⟩
  exact (List.mem_append.mp mem).elim (canceled o) (canceled' o)

theorem Wedged.remove (wedged : Wedged s) (others : List ServiceAuth) :
    Wedged (others.foldl serviceAuthCancel s) ∧
      OnlyCanceled s (others.foldl serviceAuthCancel s) := by
  induction others generalizing s with
  | nil => exact ⟨wedged, .of_eq rfl⟩
  | cons auth others ih =>
      have noted : Wedged { s with outcomes := s.outcomes ++ [(auth.id, Outcome.canceled)] } :=
        ⟨wedged.idle, wedged.set, wedged.free⟩
      obtain ⟨after, canceled⟩ := ih (noted.withdraw auth)
      refine ⟨after, OnlyCanceled.trans ⟨[(auth.id, .canceled)], ?_, by simp⟩ canceled⟩
      exact congrArg Queue.outcomes (withdraw_toQueue auth _)

theorem Wedged.step (wedged : Wedged s) (h : Authorization.step s label = some t) :
    Wedged t ∧ OnlyCanceled s t := by
  cases label with
  | authorize device checkForConnection =>
      obtain rfl := Option.some.inj h
      cases checkForConnection with
      | true => exact ⟨⟨wedged.idle, wedged.set, wedged.free⟩, .of_eq rfl⟩
      | false =>
          simp only [adapterAuthorize, schedule_of_set wedged.set, Bool.false_eq_true, if_false]
          exact ⟨⟨wedged.idle, wedged.set, wedged.free⟩, .of_eq rfl⟩
  | svcComplete id =>
      simp only [Authorization.step, Option.ite_none_right_eq_some, Option.some.injEq] at h
      obtain ⟨_, rfl⟩ := h
      unfold svcComplete
      simp only
      split
      · exact ⟨⟨wedged.idle, wedged.set, wedged.free⟩, .of_eq rfl⟩
      · rw [schedule_of_set]
        · exact ⟨⟨wedged.idle, wedged.set, wedged.free⟩, .of_eq rfl⟩
        · exact wedged.set
  | idle answer => simp [Authorization.step, wedged.idle] at h
  | reply agent granted =>
      obtain ⟨asked, pending, _⟩ := step_reply h
      exact absurd pending (wedged.free agent asked)
  | cancel id =>
      obtain rfl := Option.some.inj h
      obtain found | ⟨auth, found⟩ :=
        Option.eq_none_or_eq_some (KeyedList.find ServiceAuth.id id s.auths)
      · simp only [btdCancelAuthorization, found]
        exact ⟨wedged, .of_eq rfl⟩
      · simp only [btdCancelAuthorization, found]
        have untold := congrArg Queue.outcomes (withdraw_toQueue auth s)
        exact ⟨wedged.withdraw auth, .of_eq untold⟩
  | removeDevice device =>
      obtain rfl := Option.some.inj h
      exact wedged.remove _
  | ask agent =>
      simp only [Authorization.step, Option.ite_none_right_eq_some, Option.some.injEq] at h
      obtain ⟨_, rfl⟩ := h
      exact ⟨⟨wedged.idle, wedged.set, fun other id pending =>
        wedged.free other id (update_service (by simp) pending).2⟩, .of_eq rfl⟩
  | answered agent =>
      simp only [Authorization.step, Option.ite_none_right_eq_some, Option.some.injEq] at h
      obtain ⟨_, rfl⟩ := h
      exact ⟨⟨wedged.idle, wedged.set, fun other id pending =>
        wedged.free other id (update_service (by simp) pending).2⟩, .of_eq rfl⟩
  | agentCancel agent =>
      obtain rfl := Option.some.inj h
      exact ⟨⟨wedged.idle, wedged.set, fun other id pending =>
        wedged.free other id (update_service (by simp) pending).2⟩, .of_eq rfl⟩

theorem Wedged.run {labels : List Label} (wedged : Wedged s)
    (hrun : LabelledRun.run Authorization.step s labels = some t) : OnlyCanceled s t := by
  refine (invariant (I := fun t => Wedged t ∧ OnlyCanceled s t) ?_ ⟨wedged, .of_eq rfl⟩ hrun).2
  rintro u label v ⟨stuck, canceled⟩ h
  obtain ⟨after, more⟩ := stuck.step h
  exact ⟨after, canceled.trans more⟩

end Wedged

end BluezTutorial.Authorization
