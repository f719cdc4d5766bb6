import BluezTutorial.CreateExt
import BluezTutorial.KeyedList
import BluezTutorial.Registration

/-! org.bluez.ProfileManager1 as bluez-5.49/src/profile.c serves it: `ext_profiles`, the
list of the profiles that clients on the bus have registered, with `register_profile`,
`unregister_profile`, the watch on the owner's name and `btd_profile_cleanup`. A profile
is known by its owner and its object path.

The last section puts the list under the daemon of Registration.lean, which there is one
Boolean, and lets other clients register and unregister what they like. -/

namespace BluezTutorial.ProfileManager
open KeyedList CreateExt

/-- The errors of bluez-5.49/src/error.c: the name behind `org.bluez.Error` and the text. -/
structure Error where
  name : String
  text : String
deriving DecidableEq, Repr

def btdErrorInvalidArgs : Error := ⟨"InvalidArguments", "Invalid arguments in method call"⟩

def btdErrorAlreadyExists : Error := ⟨"AlreadyExists", "Already Exists"⟩

def btdErrorDoesNotExist : Error := ⟨"DoesNotExist", "Does Not Exist"⟩

/-- The calls and events, with the name of the client they come from. `options` is
`none` if the third argument is no array, `path` if the argument is no object path. -/
inductive Request where
  | registerProfile (sender : String) (path : ObjectPath) (uuid : String)
      (options : Option (List (String × Variant)))
  | unregisterProfile (sender : String) (path : Option ObjectPath)
  | exited (sender : String)
  | cleanup
deriving DecidableEq, Repr

/-- The registered profiles, the replies sent (`none` for an empty one) and the Release
messages sent. -/
structure State where
  profiles : List Ext
  replies : List (String × Option Error)
  released : List (String × ObjectPath)
deriving DecidableEq, Repr

def State.initial : State := ⟨[], [], []⟩

def key (ext : Ext) : String × ObjectPath := (ext.owner, ext.path)

def findExtProfile (owner : String) (path : ObjectPath) (s : State) : Option Ext :=
  KeyedList.find key (owner, path) s.profiles

/-- `remove_ext`, as far as the list goes. -/
def removeExt (s : State) (ext : Ext) : State :=
  { s with profiles := remove key (key ext) s.profiles }

def State.reply (s : State) (sender : String) (error : Option Error) : State :=
  { s with replies := s.replies ++ [(sender, error)] }

def registerProfile (sender : String) (path : ObjectPath) (uuid : String)
    (options : Option (List (String × Variant))) (s : State) : State × Option Error :=
  if (findExtProfile sender path s).isSome then (s, some btdErrorAlreadyExists)
  else match options with
    | none => (s, some btdErrorInvalidArgs)
    | some options =>
        match createExt sender path uuid options with
        | none => (s, some btdErrorInvalidArgs)
        | some ext => ({ s with profiles := s.profiles ++ [ext] }, none)

def unregisterProfile (sender : String) (path : Option ObjectPath) (s : State) :
    State × Option Error :=
  match path with
  | none => (s, some btdErrorInvalidArgs)
  | some path =>
      match findExtProfile sender path s with
      | none => (s, some btdErrorDoesNotExist)
      | some ext => (removeExt s ext, none)

/-- `ext_exited` runs once for every profile of the client that left. -/
def extExited (sender : String) (s : State) : State :=
  (s.profiles.filter (·.owner = sender)).foldl removeExt s

/-- One turn of the loop of `btd_profile_cleanup`. -/
def releaseExt (s : State) (ext : Ext) : State :=
  removeExt { s with released := s.released ++ [key ext] } ext

def btdProfileCleanup (s : State) : State := s.profiles.foldl releaseExt s

def step (s : State) : Request → State
  | .registerProfile sender path uuid options =>
      let (s, error) := registerProfile sender path uuid options s
      s.reply sender error
  | .unregisterProfile sender path =>
      let (s, error) := unregisterProfile sender path s
      s.reply sender error
  | .exited sender => extExited sender s
  | .cleanup => btdProfileCleanup s

def run (s : State) (requests : List Request) : State := requests.foldl step s

section Registry

variable {s : State} {ext : Ext}

theorem filter_remove (first : Ext) (exts profiles : List Ext) :
    (remove key (key first) profiles).filter (fun ext => key ext ∉ exts.map key) =
      profiles.filter fun ext => key ext ∉ (first :: exts).map key := by
  rw [remove, List.filter_filter]
  refine List.filter_congr fun ext _ => ?_
  rw [Bool.eq_iff_iff]
  simp [and_comm]

theorem foldl_removeExt (exts : List Ext) :
    exts.foldl removeExt s =
      { s with profiles := s.profiles.filter fun ext => key ext ∉ exts.map key } := by
  induction exts generalizing s with
  | nil => simp
  | cons first exts ih =>
      rw [List.foldl_cons, ih, ← filter_remove]
      rfl

theorem foldl_releaseExt (exts : List Ext) :
    exts.foldl releaseExt s =
      { s with
        profiles := s.profiles.filter fun ext => key ext ∉ exts.map key
        released := s.released ++ exts.map key } := by
  induction exts generalizing s with
  | nil => simp
  | cons first exts ih =>
      rw [List.foldl_cons, ih, ← filter_remove]
      simp [releaseExt, removeExt]

theorem extExited_eq (sender : String) (s : State) :
    extExited sender s = { s with profiles := s.profiles.filter (·.owner ≠ sender) } := by
  unfold extExited
  rw [foldl_removeExt]
  congr 1
  refine List.filter_congr fun ext mem => ?_
  rw [Bool.eq_iff_iff, decide_eq_true_eq, decide_eq_true_eq, not_iff_not, List.mem_map]
  constructor
  · rintro ⟨other, omem, same⟩
    have owner : other.owner = sender := by simpa using (List.mem_filter.mp omem).2
    exact (congrArg Prod.fst same).symm.trans owner
  · intro owner
    exact ⟨ext, List.mem_filter.mpr ⟨mem, by simpa using owner⟩, rfl⟩

theorem btdProfileCleanup_eq (s : State) :
    btdProfileCleanup s = { s with
      profiles := []
      released := s.released ++ s.profiles.map key } := by
  have gone : s.profiles.filter (fun ext => key ext ∉ s.profiles.map key) = [] :=
    List.filter_eq_nil_iff.mpr fun ext mem => by simpa using ⟨ext, mem, rfl⟩
  rw [btdProfileCleanup, foldl_releaseExt, gone]

/-- What holds of the list in every state. -/
structure Registry (s : State) : Prop where
  distinct : Distinct key s.profiles
  ready : ∀ ext ∈ s.profiles, ext.Ready ext.owner ext.path

/-- What a request does to the list of profiles. -/
theorem registerProfile_cases (sender : String) (path : ObjectPath) (uuid : String)
    (options : Option (List (String × Variant))) (s : State) :
    (registerProfile sender path uuid options s).1 = s ∨
    ∃ ext : Ext, ext.Ready sender path ∧ findExtProfile sender path s = none ∧
      (registerProfile sender path uuid options s).1 =
        { s with profiles := s.profiles ++ [ext] } := by
  unfold registerProfile
  split
  · exact Or.inl rfl
  · next free =>
      cases options with
      | none => exact Or.inl rfl
      | some options =>
          cases created : createExt sender path uuid options with
          | none => exact Or.inl (by simp [created])
          | some ext =>
              exact Or.inr ⟨ext, createExt_ready created, by simpa using free, by simp [created]⟩

theorem unregisterProfile_sublist (sender : String) (path : Option ObjectPath) (s : State) :
    (unregisterProfile sender path s).1.profiles.Sublist s.profiles := by
  cases path with
  | none => exact List.Sublist.refl _
  | some path =>
      cases found : findExtProfile sender path s with
      | none => simp [unregisterProfile, found]
      | some ext =>
          simp only [unregisterProfile, found]
          exact List.filter_sublist

theorem Registry.of_sublist {t : State} (registry : Registry s)
    (fewer : t.profiles.Sublist s.profiles) : Registry t :=
  ⟨(fewer.map key).nodup registry.distinct, fun ext mem => registry.ready ext (fewer.subset mem)⟩

theorem Registry.step (registry : Registry s) (request : Request) :
    Registry (step s request) := by
  cases request with
  | registerProfile sender path uuid options =>
      obtain same | ⟨ext, ready, free, added⟩ :=
        registerProfile_cases sender path uuid options s
      · refine registry.of_sublist ?_
        simp [ProfileManager.step, State.reply, same]
      · obtain ⟨rfl, rfl⟩ := ready.key
        have fresh : ∀ other ∈ s.profiles, key other ≠ key ext := by
          intro other mem same
          have none := List.find?_eq_none.mp free other mem
          exact none (by simpa [key] using same)
        simp only [ProfileManager.step, State.reply, added]
        refine ⟨registry.distinct.concat fresh, fun other mem => ?_⟩
        rcases List.mem_append.mp mem with old | new
        · exact registry.ready other old
        · rw [List.mem_singleton.mp new]
          exact ready
  | unregisterProfile sender path =>
      exact registry.of_sublist (unregisterProfile_sublist sender path s)
  | exited sender =>
      refine registry.of_sublist ?_
      rw [ProfileManager.step, extExited_eq]
      exact List.filter_sublist
  | cleanup =>
      refine registry.of_sublist ?_
      rw [ProfileManager.step, btdProfileCleanup_eq]
      exact List.nil_sublist _

/-- In every run, the profiles in the list are told apart by owner and path, and each of
them can be probed. -/
theorem profiles_ready (requests : List Request) :
    Distinct key (run State.initial requests).profiles ∧
    ∀ ext ∈ (run State.initial requests).profiles, ext.Ready ext.owner ext.path := by
  have registry : Registry (run State.initial requests) := by
    suffices whole : ∀ s, Registry s → Registry (run s requests) from
      whole _ ⟨List.nodup_nil, by simp [State.initial]⟩
    induction requests with
    | nil => exact fun _ registry => registry
    | cons request requests ih => exact fun s registry => ih _ (registry.step request)
  exact ⟨registry.distinct, registry.ready⟩

end Registry

section Isolation

variable {owner : String}

/-- What a client sees of the manager. -/
def State.view (owner : String) (s : State) : State where
  profiles := s.profiles.filter (·.owner = owner)
  replies := s.replies.filter (·.1 = owner)
  released := s.released.filter (·.1 = owner)

/-- The requests that concern a client: its own and the end of the daemon. -/
def concerns (owner : String) : Request → Bool
  | .registerProfile sender _ _ _ => sender = owner
  | .unregisterProfile sender _ => sender = owner
  | .exited sender => sender = owner
  | .cleanup => true

theorem findExtProfile_view (path : ObjectPath) (s : State) :
    findExtProfile owner path (s.view owner) = findExtProfile owner path s := by
  simp only [findExtProfile, KeyedList.find, State.view, List.find?_filter]
  congr 1
  funext ext
  rw [Bool.eq_iff_iff]
  simp [key]

theorem registerProfile_view (path : ObjectPath) (uuid : String)
    (options : Option (List (String × Variant))) (s : State) :
    registerProfile owner path uuid options (s.view owner) =
      ((registerProfile owner path uuid options s).1.view owner,
        (registerProfile owner path uuid options s).2) := by
  simp only [registerProfile, findExtProfile_view]
  split
  · rfl
  · cases options with
    | none => rfl
    | some options =>
        cases created : createExt owner path uuid options with
        | none => simp [created]
        | some ext => simp [created, State.view, (createExt_ready created).key.1]

theorem unregisterProfile_view (path : Option ObjectPath) (s : State) :
    unregisterProfile owner path (s.view owner) =
      ((unregisterProfile owner path s).1.view owner, (unregisterProfile owner path s).2) := by
  cases path with
  | none => rfl
  | some path =>
      simp only [unregisterProfile, findExtProfile_view]
      cases findExtProfile owner path s with
      | none => rfl
      | some ext => simp [removeExt, State.view, remove, List.filter_filter, Bool.and_comm]

theorem view_reply (s : State) (sender : String) (error : Option Error) :
    (s.reply sender error).view owner =
      if sender = owner then (s.view owner).reply sender error else s.view owner := by
  by_cases h : sender = owner <;> simp [State.reply, State.view, h]

theorem view_step_of_concerns (s : State) {request : Request}
    (h : concerns owner request = true) :
    (step s request).view owner = step (s.view owner) request := by
  cases request with
  | registerProfile sender path uuid options =>
      obtain rfl : sender = owner := by simpa [concerns] using h
      simp only [step, registerProfile_view, view_reply, if_true]
  | unregisterProfile sender path =>
      obtain rfl : sender = owner := by simpa [concerns] using h
      simp only [step, unregisterProfile_view, view_reply, if_true]
  | exited sender =>
      simp only [step, extExited_eq, State.view, List.filter_filter, Bool.and_comm]
  | cleanup =>
      simp only [step, btdProfileCleanup_eq, State.view, List.filter_nil, List.filter_append,
        List.filter_map]
      rfl

theorem view_step_of_not_concerns (s : State) {request : Request}
    (h : concerns owner request = false) : (step s request).view owner = s.view owner := by
  cases request with
  | registerProfile sender path uuid options =>
      have other : sender ≠ owner := by simpa [concerns] using h
      simp only [step, view_reply, other, if_false]
      obtain same | ⟨ext, ready, _, added⟩ := registerProfile_cases sender path uuid options s
      · rw [same]
      · rw [added]
        simp [State.view, ready.key.1, other]
  | unregisterProfile sender path =>
      have other : sender ≠ owner := by simpa [concerns] using h
      simp only [step, view_reply, other, if_false]
      cases path with
      | none => rfl
      | some path =>
          cases found : findExtProfile sender path s with
          | none => simp [unregisterProfile, found]
          | some ext =>
              have same : key ext = (sender, path) := by simpa using List.find?_some found
              simp only [unregisterProfile, found, removeExt, State.view, remove,
                List.filter_filter, State.mk.injEq, and_true]
              refine List.filter_congr fun kept _ => ?_
              rw [Bool.eq_iff_iff]
              simp only [Bool.and_eq_true, decide_eq_true_eq, and_iff_left_iff_imp]
              rintro rfl equal
              exact other (congrArg Prod.fst (same.symm.trans equal.symm))
  | exited sender =>
      have other : sender ≠ owner := by simpa [concerns] using h
      simp only [step, extExited_eq, State.view, List.filter_filter, State.mk.injEq, and_true]
      refine List.filter_congr fun kept _ => ?_
      rw [Bool.eq_iff_iff]
      simp only [Bool.and_eq_true, decide_eq_true_eq, and_iff_left_iff_imp]
      rintro rfl
      exact other.symm
  | cleanup => simp [concerns] at h

/-- What becomes of a client's profiles, which replies it gets and which Release messages
it is sent is decided by its own requests, whatever the other clients do in between. -/
theorem client_isolated (owner : String) (requests : List Request) :
    (run State.initial requests).view owner =
      run State.initial (requests.filter (concerns owner)) := by
  suffices whole : ∀ s : State, (run s requests).view owner =
      run (s.view owner) (requests.filter (concerns owner)) from whole State.initial
  induction requests with
  | nil => exact fun _ => rfl
  | cons request requests ih =>
      intro s
      have rest := ih (step s request)
      cases h : concerns owner request with
      | true =>
          rw [view_step_of_concerns s h] at rest
          rw [List.filter_cons_of_pos h]
          exact rest
      | false =>
          rw [view_step_of_not_concerns s h] at rest
          rw [List.filter_cons_of_neg (by simp [h])]
          exact rest

end Isolation

section Listener

/-- The options as `registerProfile` of the Listener puts them into its call. -/
def dictionary (options : ProfileOptions) : List (String × Variant) :=
  [("Name", .string options.name), ("Channel", .uint16 (UInt16.ofNat options.channel)),
    ("AutoConnect", .boolean options.autoConnect),
    ("RequireAuthentication", .boolean options.requireAuthentication)]

/-- The state of Registration.lean with the list of profiles in place of the Boolean. -/
structure Session where
  world : World
  started : Bool
  manager : State
  releaseSent : Bool
  aborted : Option Abort

/-- `request` is a request of another client, or the end of the daemon. -/
inductive Event where
  | start
  | stop
  | newConnection (device : ObjectPath) (answer : NewConnectionAnswer)
  | requestDisconnection (device : ObjectPath)
  | request (request : Request)
  | dispatchRelease

namespace Session

def initial (openNumbers : ℤ → Bool) : Session :=
  ⟨World.constructed openNumbers, false, State.initial, false, none⟩

def settle (s : Session) : Except Abort World → Session
  | .ok w => { s with world := w }
  | .error abort => { s with aborted := some abort }

/-- Whether the daemon has the profile of the Listener, a client called `name`. -/
def registered (name : String) (s : Session) : Bool :=
  (findExtProfile name dbusObjectPath s.manager).isSome

def view (name : String) (s : Session) : Registration.State :=
  ⟨s.world, s.started, s.registered name, s.releaseSent, s.aborted⟩

end Session

def register (name : String) (s : Session) : State × Option Error :=
  registerProfile name dbusObjectPath profileUUID
    (some (dictionary ⟨profileName, rfcommPort, false, true⟩)) s.manager

def unregister (name : String) (s : Session) : State × Option Error :=
  unregisterProfile name (some dbusObjectPath) s.manager

/-- The calls of the Listener get the replies that the manager sends. -/
def Session.next (name : String) (s : Session) : Event → Option Session
  | .start =>
      if s.started then none
      else
        let (manager, error) := register name s
        some (settle { s with started := true, manager := manager.reply name error }
          (startListening ⟨true, true, error.isNone⟩ (Socket.ofFd (-1)) s.world))
  | .stop =>
      if !s.started || s.releaseSent then none
      else
        let (manager, error) := unregister name s
        some (settle { s with started := false, manager := manager.reply name error }
          (stopListening ⟨true, error.isNone⟩ s.world))
  | .newConnection device answer =>
      if s.started then
        some (s.settle ((Op.dispatch (.newConnection device answer)).perform s.world))
      else none
  | .requestDisconnection device =>
      if s.started then
        some (s.settle ((Op.dispatch (.requestDisconnection device)).perform s.world))
      else none
  | .request .cleanup =>
      some { s with
        manager := step s.manager .cleanup
        releaseSent := s.releaseSent || s.registered name }
  | .request request =>
      if concerns name request then none else some { s with manager := step s.manager request }
  | .dispatchRelease =>
      if s.releaseSent then
        some (settle { s with releaseSent := false } ((Op.dispatch .release).perform s.world))
      else none

def Session.step (name : String) (s : Session) (event : Event) : Option Session :=
  if s.aborted.isSome then none else s.next name event

variable {name : String} {s t : Session}

theorem view_settle (s : Session) (result : Except Abort World) :
    (s.settle result).view name = (s.view name).settle result := by
  cases result <;> rfl

theorem findExtProfile_reply (s : State) (error : Option Error) (path : ObjectPath) :
    findExtProfile name path (s.reply name error) = findExtProfile name path s := rfl

/-- RegisterProfile succeeds unless the profile is there, and it is there afterwards. -/
theorem register_spec (name : String) (s : Session) :
    (register name s).2.isNone = !s.registered name ∧
    (findExtProfile name dbusObjectPath (register name s).1).isSome = true := by
  have known : btName2string profileUUID = some profileUUID := by decide
  cases there : s.registered name with
  | true =>
      rw [Session.registered] at there
      simp [register, registerProfile, there]
  | false =>
      rw [Session.registered] at there
      have created : ∃ ext, createExt name dbusObjectPath profileUUID
          (dictionary ⟨profileName, rfcommPort, false, true⟩) = some ext := by
        rw [createExt, known]
        exact ⟨_, rfl⟩
      obtain ⟨ext, created⟩ := created
      have same : key ext = (name, dbusObjectPath) := by
        obtain ⟨owner, path⟩ := (createExt_ready created).key
        rw [key, owner, path]
      have added : register name s =
          ({ s.manager with profiles := s.manager.profiles ++ [ext] }, none) := by
        simp [register, registerProfile, there, created]
      rw [added]
      refine ⟨rfl, ?_⟩
      simp [findExtProfile, KeyedList.find, same]

/-- UnregisterProfile succeeds if the profile is there, and it is gone afterwards. -/
theorem unregister_spec (name : String) (s : Session) :
    (unregister name s).2.isNone = s.registered name ∧
    findExtProfile name dbusObjectPath (unregister name s).1 = none := by
  cases found : findExtProfile name dbusObjectPath s.manager with
  | none =>
      simp only [unregister, unregisterProfile, Session.registered, found]
      exact ⟨rfl, trivial⟩
  | some ext =>
      have same : key ext = (name, dbusObjectPath) := by simpa using List.find?_some found
      simp only [unregister, unregisterProfile, Session.registered, found]
      refine ⟨rfl, List.find?_eq_none.mpr fun other mem => ?_⟩
      simpa [same] using (mem_remove.mp mem).2

theorem registered_of_not_concerns {request : Request} (h : concerns name request = false) :
    findExtProfile name dbusObjectPath (step s.manager request) =
      findExtProfile name dbusObjectPath s.manager := by
  rw [← findExtProfile_view, view_step_of_not_concerns _ h, findExtProfile_view]

theorem registered_cleanup (s : State) (path : ObjectPath) :
    findExtProfile name path (step s .cleanup) = none := by
  rw [step, btdProfileCleanup_eq]
  rfl

theorem step_simulates {event : Event} (h : s.step name event = some t) : ∃ labels,
    LabelledRun.run Registration.step (s.view name) labels = some (t.view name) := by
  unfold Session.step at h
  rw [Option.ite_none_left_eq_some] at h
  obtain ⟨going, h⟩ := h
  have going : (s.view name).aborted = none := by simpa [Session.view] using going
  have one : ∀ label, Registration.enabled (s.view name) label = true →
      Registration.next (s.view name) label = t.view name → ∃ labels,
      LabelledRun.run Registration.step (s.view name) labels = some (t.view name) :=
    fun label enabled next => ⟨[label], LabelledRun.run_singleton.trans
      (Registration.step_eq_some.mpr ⟨going, enabled, next⟩)⟩
  cases event with
  | start =>
      simp only [Session.next, Option.ite_none_left_eq_some, Option.some.injEq] at h
      obtain ⟨stopped, rfl⟩ := h
      obtain ⟨replied, there⟩ := register_spec name s
      refine one .start (by simpa [Registration.enabled, Session.view] using stopped) ?_
      rw [view_settle, Registration.next]
      simp only [Session.view, Session.registered, findExtProfile_reply, there, replied]
  | stop =>
      simp only [Session.next, Option.ite_none_left_eq_some, Option.some.injEq] at h
      obtain ⟨running, rfl⟩ := h
      obtain ⟨replied, gone⟩ := unregister_spec name s
      refine one .stop (by simpa [Registration.enabled, Session.view] using running) ?_
      rw [view_settle, Registration.next]
      simp only [Session.view, Session.registered, findExtProfile_reply, gone, replied,
        Option.isSome_none]
  | newConnection device answer =>
      simp only [Session.next, Option.ite_none_right_eq_some, Option.some.injEq] at h
      obtain ⟨running, rfl⟩ := h
      exact one (.newConnection device answer) running (view_settle _ _).symm
  | requestDisconnection device =>
      simp only [Session.next, Option.ite_none_right_eq_some, Option.some.injEq] at h
      obtain ⟨running, rfl⟩ := h
      exact one (.requestDisconnection device) running (view_settle _ _).symm
  | request request =>
      have other : concerns name request = false →
          some { s with manager := step s.manager request } = some t → ∃ labels,
          LabelledRun.run Registration.step (s.view name) labels = some (t.view name) := by
        intro foreign h
        refine ⟨[], ?_⟩
        rw [LabelledRun.run_nil, ← Option.some.inj h]
        simp only [Session.view, Session.registered, registered_of_not_concerns foreign]
      cases request with
      | cleanup =>
          obtain rfl := Option.some.inj h
          by_cases there : s.registered name = true
          · refine one .daemonRelease there ?_
            rw [Session.registered] at there
            simp [Registration.next, Session.view, Session.registered, registered_cleanup, there]
          · refine ⟨[], ?_⟩
            rw [LabelledRun.run_nil]
            rw [Session.registered, Bool.not_eq_true] at there
            simp [Session.view, Session.registered, registered_cleanup, there]
      | registerProfile sender path uuid options =>
          simp only [Session.next, Option.ite_none_left_eq_some, Bool.not_eq_true] at h
          exact other h.1 h.2
      | unregisterProfile sender path =>
          simp only [Session.next, Option.ite_none_left_eq_some, Bool.not_eq_true] at h
          exact other h.1 h.2
      | exited sender =>
          simp only [Session.next, Option.ite_none_left_eq_some, Bool.not_eq_true] at h
          exact other h.1 h.2
  | dispatchRelease =>
      simp only [Session.next, Option.ite_none_right_eq_some, Option.some.injEq] at h
      obtain ⟨sent, rfl⟩ := h
      refine one .dispatchRelease sent ?_
      rw [view_settle, Registration.next]
      rfl

/-- The Listener of Registration.lean sees the same daemon when the profile is one of
many: every run with the list of profiles and with other clients, whose names differ
from the name of the Listener, is one of the runs with the Boolean. -/
theorem registration_refines {openNumbers : ℤ → Bool} {events : List Event}
    (hrun : LabelledRun.run (Session.step name) (Session.initial openNumbers) events = some s) :
    ∃ labels, LabelledRun.run Registration.step (Registration.State.initial openNumbers) labels =
      some (s.view name) := by
  obtain ⟨labels, after, hlabels, rfl⟩ := LabelledRun.run_simulates
    (R := fun (s : Session) a => s.view name = a)
    (fun s event t _ same h => by
      subst same
      obtain ⟨labels, hlabels⟩ := step_simulates h
      exact ⟨labels, _, hlabels, rfl⟩)
    rfl hrun
  exact ⟨labels, hlabels⟩

/-- Another client takes the same path, the daemon ends during the session and comes
back. -/
theorem registration_refines_released : ∃ s,
    LabelledRun.run (Session.step ":1.7") (Session.initial fun n => n < 3)
      [.start, .request (.registerProfile ":1.8" dbusObjectPath "spp" (some [])),
        .request .cleanup, .request (.unregisterProfile ":1.8" (some dbusObjectPath)),
        .dispatchRelease] = some s ∧
    s.manager.replies = [(":1.7", none), (":1.8", none), (":1.8", some btdErrorDoesNotExist)] ∧
    ∃ labels, LabelledRun.run Registration.step (Registration.State.initial fun n => n < 3) labels =
      some (s.view ":1.7") := by
  have runs : (LabelledRun.run (Session.step ":1.7") (Session.initial fun n => n < 3)
      [.start, .request (.registerProfile ":1.8" dbusObjectPath "spp" (some [])),
        .request .cleanup, .request (.unregisterProfile ":1.8" (some dbusObjectPath)),
        .dispatchRelease]).map (fun s => s.manager.replies) =
      some [(":1.7", none), (":1.8", none), (":1.8", some btdErrorDoesNotExist)] := by
    decide +kernel
  obtain ⟨s, hs, replies⟩ := Option.map_eq_some_iff.mp runs
  exact ⟨s, hs, replies, registration_refines hs⟩

end Listener

end BluezTutorial.ProfileManager
