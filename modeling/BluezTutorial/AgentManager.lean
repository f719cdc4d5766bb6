import BluezTutorial.ProfileManager
import BluezTutorial.ReferenceCount

/-! Agents, as bluez-5.49/src/agent.c keeps them for org.bluez.AgentManager1, and the
authentications for which bluez-5.49/src/device.c asks them. An agent is referred to by the
table `agent_list`, by the authentication and the bonding of a device, and by whoever else
has called `agent_get`; it counts these references and is freed with the last one.

What an agent has been asked is its one `request`. The callback of the request is given
the authentication, `user_data`, which another path may have freed in between: an
authentication is told from a later one of the same device by its `serial`. `fault` is
set where the code goes on with freed memory or does not come back. -/

namespace BluezTutorial.AgentManager
open KeyedList ReferenceCount ProfileManager

inductive IoCapability where
  | displayOnly | displayYesNo | keyboardOnly | noInputNoOutput | keyboardDisplay
deriving DecidableEq, Repr

/-- `none` is `IO_CAPABILITY_INVALID`. -/
def parseIoCapability (capability : String) : Option IoCapability :=
  if capability = "" then some .keyboardDisplay
  else if capability = "DisplayOnly" then some .displayOnly
  else if capability = "DisplayYesNo" then some .displayYesNo
  else if capability = "KeyboardOnly" then some .keyboardOnly
  else if capability = "NoInputNoOutput" then some .noInputNoOutput
  else if capability = "KeyboardDisplay" then some .keyboardDisplay
  else none

/-- `agent_request_type_t`, less the type that adapter.c uses. -/
inductive RequestType where
  | passkey | confirmation | authorization | pincode | displayPincode
deriving DecidableEq, Repr

/-- `struct agent_request`; `device` and `serial` are its `user_data`. -/
structure AgentRequest where
  type : RequestType
  device : ObjectPath
  serial : ℕ
deriving DecidableEq, Repr

/-- `struct agent`; `id` stands for its address. -/
structure Agent where
  id : ℕ
  owner : String
  path : ObjectPath
  capability : IoCapability
  ref : ℕ
  request : Option AgentRequest
deriving DecidableEq, Repr

def counter : Counter Agent ℕ where
  key := Agent.id
  ref := Agent.ref
  put n agent := { agent with ref := n }
  key_put _ _ := rfl
  ref_put _ _ := rfl
  put_put _ _ _ := rfl
  put_ref _ := rfl

inductive AuthType where
  | pincode | passkey | confirm | notifyPasskey | notifyPincode
deriving DecidableEq, Repr

def RequestType.authType : RequestType → AuthType
  | .passkey => .passkey
  | .confirmation | .authorization => .confirm
  | .pincode => .pincode
  | .displayPincode => .notifyPincode

/-- `struct authentication_req`, the `authr` of a device. -/
structure AuthenticationReq where
  device : ObjectPath
  serial : ℕ
  type : AuthType
  agent : Option ℕ
  pincode : Option String
deriving DecidableEq, Repr

/-- `struct bonding_req`, the `bonding` of a device. -/
structure BondingReq where
  device : ObjectPath
  agent : Option ℕ
deriving DecidableEq, Repr

/-- An adapter with the capability that it was last told. -/
structure Adapter where
  index : ℕ
  ioCapability : Option IoCapability
deriving DecidableEq, Repr

/-- What the kernel is told; no PIN is the negative reply, no passkey `INVALID_PASSKEY`. -/
inductive KernelReply where
  | pincode (pin : Option String)
  | confirm (success : Bool)
  | passkey (passkey : Option ℕ)
deriving DecidableEq, Repr

/-- `agentList` is the table from owners to agents and `defaultAgents` the queue, whose
head is the default agent. `held` are the references that adapter.c has taken with
`agent_get`, `leaked` those that nobody gives back. `requested` records for which agents
RequestDefaultAgent has succeeded. -/
structure State where
  agents : List Agent
  agentList : List (String × ℕ)
  defaultAgents : List ℕ
  adapters : List Adapter
  authrs : List AuthenticationReq
  bondings : List BondingReq
  held : List ℕ
  leaked : List ℕ
  requested : List ℕ
  lastAgent : ℕ
  lastAuth : ℕ
  replies : List (ObjectPath × ℕ × KernelReply)
  returned : List (String × Option Error)
  fault : Bool
deriving DecidableEq, Repr

def State.initial : State := ⟨[], [], [], [], [], [], [], [], [], 0, 0, [], [], false⟩

section Agents

/-- Goes on with the agent at an address. -/
def onAgent (id : ℕ) (s : State) (f : Agent → State) : State :=
  match KeyedList.find Agent.id id s.agents with
  | none => { s with fault := true }
  | some agent => f agent

def agentRef (id : ℕ) (s : State) : State :=
  onAgent id s fun _ => { s with agents := acquire counter id s.agents }

def findAuthr (device : ObjectPath) (s : State) : Option AuthenticationReq :=
  KeyedList.find AuthenticationReq.device device s.authrs

/-- Whether the callback of a request would return at once because the authentication
has failed. -/
def State.failed (s : State) (request : AgentRequest) : Bool :=
  match findAuthr request.device s with
  | none => false
  | some auth => auth.serial = request.serial && auth.agent.isNone

/-- With the last reference, `agent_unref` calls back for a request that is still there.
The callback drops a reference of its own, which calls back again, and so on. -/
def agentUnref (id : ℕ) (s : State) : State :=
  onAgent id s fun agent =>
    let released := { s with agents := release counter id s.agents }
    if 1 < agent.ref then released
    else match agent.request with
      | none => released
      | some request => if s.failed request then released else { s with fault := true }

/-- `agent_get`, less the reference. -/
def agentGet (owner : Option String) (s : State) : Option ℕ :=
  match owner.bind fun owner => KeyedList.find Prod.fst owner s.agentList with
  | some entry => some entry.2
  | none => s.defaultAgents.head?

/-- `agent->request = NULL`. -/
def agentRequestFree (id : ℕ) (s : State) : State :=
  onAgent id s fun _ =>
    { s with agents := update Agent.id id (fun agent => { agent with request := none }) s.agents }

/-- Without a request there is nothing to be done. -/
def agentCancel (id : ℕ) (s : State) : State := agentRequestFree id s

/-- The common part of the functions that ask an agent: it must have no request, and
the message must be sent. -/
def agentRequest (id : ℕ) (request : AgentRequest) (sent : Bool) (s : State) :
    State × Bool :=
  match KeyedList.find Agent.id id s.agents with
  | none => ({ s with fault := true }, false)
  | some agent =>
      if agent.request.isSome || !sent then (s, false)
      else
        ({ s with
          agents := update Agent.id id (fun agent => { agent with request := some request })
            s.agents }, true)

end Agents

section Manager

/-- `adapter_foreach(set_io_cap, agent)`. -/
def setIoCap (agent : Option ℕ) (s : State) : State :=
  let every ioCapability :=
    { s with
      adapters := s.adapters.map fun adapter =>
        { adapter with ioCapability := some ioCapability } }
  match agent with
  | none => every .noInputNoOutput
  | some id => onAgent id s fun agent => every agent.capability

def addDefaultAgent (id : ℕ) (s : State) : State :=
  if s.defaultAgents.head? = some id then s
  else setIoCap (some id) { s with defaultAgents := id :: s.defaultAgents.erase id }

def removeDefaultAgent (id : ℕ) (s : State) : State :=
  let left := { s with defaultAgents := s.defaultAgents.erase id }
  if s.defaultAgents.head? ≠ some id then left
  else setIoCap left.defaultAgents.head? left

/-- `agent_destroy`, for an agent that is not watched any more. -/
def agentDestroy (id : ℕ) (s : State) : State :=
  agentUnref id (removeDefaultAgent id s)

/-- Taking an entry out of `agent_list` destroys its agent. -/
def agentDisconnect (id : ℕ) (s : State) : State :=
  let s := removeDefaultAgent id s
  onAgent id s fun agent =>
    match KeyedList.find Prod.fst agent.owner s.agentList with
    | none => s
    | some entry =>
        agentDestroy entry.2 { s with agentList := remove Prod.fst agent.owner s.agentList }

/-- `path` is `none` where the arguments do not have the types asked for. -/
def registerAgent (sender : String) (path : Option ObjectPath) (capability : String)
    (s : State) : State × Option Error :=
  if (KeyedList.find Prod.fst sender s.agentList).isSome then (s, some btdErrorAlreadyExists)
  else match path, parseIoCapability capability with
    | some path, some cap =>
        ({ s with
          agents := s.agents ++ [⟨s.lastAgent + 1, sender, path, cap, 1, none⟩]
          agentList := s.agentList ++ [(sender, s.lastAgent + 1)]
          lastAgent := s.lastAgent + 1 }, none)
    | _, _ => (s, some btdErrorInvalidArgs)

/-- What `unregister_agent` and `request_default` check: that the sender has an agent and
that the path is the agent's. -/
def senderAgent (sender : String) (path : Option ObjectPath) (s : State) : Except Error ℕ :=
  match KeyedList.find Prod.fst sender s.agentList with
  | none => .error btdErrorDoesNotExist
  | some entry =>
      match path with
      | none => .error btdErrorInvalidArgs
      | some path =>
          match KeyedList.find Agent.id entry.2 s.agents with
          | none => .error btdErrorDoesNotExist
          | some agent => if agent.path = path then .ok entry.2 else .error btdErrorDoesNotExist

def unregisterAgent (sender : String) (path : Option ObjectPath) (s : State) :
    State × Option Error :=
  match senderAgent sender path s with
  | .error error => (s, some error)
  | .ok id => (agentDisconnect id s, none)

def requestDefault (sender : String) (path : Option ObjectPath) (s : State) :
    State × Option Error :=
  match senderAgent sender path s with
  | .error error => (s, some error)
  | .ok id => (addDefaultAgent id { s with requested := s.requested ++ [id] }, none)

/-- The part of `adapter_register` about agents. -/
def adapterRegister (index : ℕ) (s : State) : State :=
  let s := { s with adapters := s.adapters ++ [⟨index, none⟩] }
  match agentGet none s with
  | none => s
  | some id =>
      let s := agentRef id s
      let s := onAgent id s fun agent =>
        { s with adapters := s.adapters.dropLast ++ [⟨index, some agent.capability⟩] }
      agentUnref id s

end Manager

section Authentications

def findBonding (device : ObjectPath) (s : State) : Option BondingReq :=
  KeyedList.find BondingReq.device device s.bondings

/-- `new_auth` with the agent that the new authentication has. -/
def newAuth (device : ObjectPath) (type : AuthType) (pincode : Option String) (s : State) :
    Option (ℕ × State) :=
  if (findAuthr device s).isSome then none
  else
    match ((findBonding device s).bind BondingReq.agent).or (agentGet none s) with
    | none => none
    | some id =>
        let s := agentRef id s
        some (id,
          { s with
            authrs := s.authrs ++ [⟨device, s.lastAuth + 1, type, some id, pincode⟩]
            lastAuth := s.lastAuth + 1 })

def deviceAuthReqFree (device : ObjectPath) (s : State) : State :=
  match findAuthr device s with
  | none => s
  | some auth =>
      let s := match auth.agent with
        | none => s
        | some id => agentUnref id s
      { s with authrs := remove AuthenticationReq.device device s.authrs }

/-- The common body of the functions that ask for an authentication. -/
def deviceRequest (type : RequestType) (device : ObjectPath) (pincode : Option String)
    (sent : Bool) (s : State) : State :=
  match newAuth device type.authType pincode s with
  | none => s
  | some (id, s) =>
      let asked := agentRequest id ⟨type, device, s.lastAuth⟩ sent s
      if asked.2 then asked.1 else deviceAuthReqFree device asked.1

def deviceRequestPincode (device : ObjectPath) : Bool → State → State :=
  deviceRequest .pincode device none

def deviceRequestPasskey (device : ObjectPath) : Bool → State → State :=
  deviceRequest .passkey device none

def deviceConfirmPasskey (device : ObjectPath) (confirmHint : Bool) : Bool → State → State :=
  deviceRequest (if confirmHint then .authorization else .confirmation) device none

def deviceNotifyPincode (device : ObjectPath) (pincode : String) : Bool → State → State :=
  deviceRequest .displayPincode device (some pincode)

/-- `agent_display_passkey`, which expects no answer, and what follows if it cannot be
sent. -/
def displayPasskey (device : ObjectPath) (agent : Option ℕ) (sent : Bool) (s : State) : State :=
  match agent with
  | none => { s with fault := true }
  | some id => onAgent id s fun _ => if sent then s else deviceAuthReqFree device s

def deviceNotifyPasskey (device : ObjectPath) (sent : Bool) (s : State) : State :=
  match findAuthr device s with
  | some auth =>
      if auth.type ≠ .notifyPasskey then s else displayPasskey device auth.agent sent s
  | none =>
      match newAuth device .notifyPasskey none s with
      | none => s
      | some (id, s) => displayPasskey device (some id) sent s

/-- `auth->agent = NULL` comes first, so that the callback returns at once. Nobody gives
the reference back. -/
def cancelAuthentication (auth : AuthenticationReq) (s : State) : State :=
  match auth.agent with
  | none => s
  | some id =>
      { s with
        authrs := update AuthenticationReq.device auth.device
          (fun auth => { auth with agent := none }) s.authrs
        leaked := s.leaked ++ [id] }

def deviceCancelAuthentication (device : ObjectPath) (aborted : Bool) (s : State) : State :=
  match findAuthr device s with
  | none => s
  | some auth =>
      let s := match auth.agent with
        | none => s
        | some id => agentCancel id s
      let s := if aborted then s else cancelAuthentication auth s
      deviceAuthReqFree device s

end Authentications

section Bondings

def bondingRequestFree (device : ObjectPath) (s : State) : State :=
  match findBonding device s with
  | none => s
  | some bonding =>
      let s := match bonding.agent with
        | none => s
        | some id => agentUnref id (agentCancel id s)
      { s with bondings := remove BondingReq.device device s.bondings }

def deviceBondingFailed (device : ObjectPath) (s : State) : State :=
  match findBonding device s with
  | none => s
  | some _ => bondingRequestFree device (deviceCancelAuthentication device false s)

/-- `device_cancel_bonding` does to the agents what `device_bonding_failed` does. -/
def deviceCancelBonding (device : ObjectPath) (s : State) : State :=
  match findBonding device s with
  | none => s
  | some _ => bondingRequestFree device (deviceCancelAuthentication device false s)

/-- `paired` is whether the device was paired before: the bonding is then left. -/
def deviceBondingComplete (device : ObjectPath) (success paired : Bool) (s : State) : State :=
  let s := match (findAuthr device s).bind AuthenticationReq.agent with
    | none => s
    | some id => agentCancel id s
  if !success then deviceBondingFailed device (deviceCancelAuthentication device true s)
  else
    let s := deviceAuthReqFree device s
    if paired then s else bondingRequestFree device s

def createBondReqExit (device : ObjectPath) (s : State) : State :=
  deviceCancelAuthentication device false s

/-- `created` is whether `adapter_create_bonding` could be sent. -/
def pairDevice (device : ObjectPath) (sender : String) (created : Bool) (s : State) : State :=
  match findBonding device s with
  | some _ => s
  | none =>
      let agent := agentGet (some sender) s
      let s := match agent with
        | none => s
        | some id => agentUnref id (agentRef id (agentRef id s))
      let s := { s with bondings := s.bondings ++ [⟨device, agent⟩] }
      if created then s else bondingRequestFree device s

/-- `device_remove` with the last reference to the device: `device_free` has the
statements of `device_auth_req_free`. -/
def deviceRemove (device : ObjectPath) (s : State) : State :=
  deviceAuthReqFree device (deviceCancelBonding device s)

end Bondings

section Replies

/-- What an agent answers: an error, or a message with the one argument that is read. -/
inductive Answer where
  | error
  | string (text : String)
  | uint32 (number : ℕ)
  | empty
deriving DecidableEq, Repr

/-- What `pincode_cb`, `confirm_cb` and `passkey_cb` have in common. -/
def callback (request : AgentRequest) (reply : AuthenticationReq → KernelReply) (s : State) :
    State :=
  match findAuthr request.device s with
  | none => { s with fault := true }
  | some auth =>
      if auth.serial ≠ request.serial then { s with fault := true }
      else match auth.agent with
        | none => s
        | some id =>
            let s := agentUnref id
              { s with replies := s.replies ++ [(auth.device, auth.serial, reply auth)] }
            { s with
              authrs := update AuthenticationReq.device auth.device
                (fun auth => { auth with agent := none }) s.authrs }

/-- The PIN that `pincode_reply` takes from an answer. -/
def pinOf : Answer → Option String
  | .string pin => if pin.utf8ByteSize > 16 || pin.utf8ByteSize < 1 then none else some pin
  | _ => none

/-- The frame of `pincode_reply` and `simple_agent_reply`, which keep the agent until
they are done with it. -/
def protectedReply (id : ℕ) (request : AgentRequest) (reply : KernelReply) (s : State) : State :=
  agentUnref id (agentRequestFree id (callback request (fun _ => reply) (agentRef id s)))

def pincodeReply (id : ℕ) (request : AgentRequest) (answer : Answer) : State → State :=
  protectedReply id request (.pincode (pinOf answer))

def simpleAgentReply (id : ℕ) (request : AgentRequest) (answer : Answer) : State → State :=
  protectedReply id request (.confirm (answer ≠ .error))

def passkeyOf : Answer → Option ℕ
  | .uint32 number => some number
  | _ => none

def passkeyReply (id : ℕ) (request : AgentRequest) (answer : Answer) (s : State) : State :=
  agentRequestFree id (callback request (fun _ => .passkey (passkeyOf answer)) s)

/-- The request is cleared before the callback, and `agent_request_free` looks at the agent
again after it. The callback gives the kernel the PIN that was displayed, whatever the
answer is. -/
def displayPincodeReply (id : ℕ) (request : AgentRequest) (s : State) : State :=
  let s := callback request (fun auth => .pincode auth.pincode) (agentRequestFree id s)
  let s := { s with
    authrs := update AuthenticationReq.device request.device
      (fun auth => { auth with pincode := none }) s.authrs }
  agentRequestFree id s

def agentReply (id : ℕ) (request : AgentRequest) (answer : Answer) : State → State :=
  match request.type with
  | .pincode => pincodeReply id request answer
  | .confirmation | .authorization => simpleAgentReply id request answer
  | .passkey => passkeyReply id request answer
  | .displayPincode => displayPincodeReply id request

end Replies

/-- The calls of clients, the events of the kernel and of devices, and the answers of
agents. `hold`, `drop` and `cancel` are adapter.c with the agent of an authorization. -/
inductive Label where
  | registerAgent (sender : String) (path : Option ObjectPath) (capability : String)
  | unregisterAgent (sender : String) (path : Option ObjectPath)
  | requestDefault (sender : String) (path : Option ObjectPath)
  | disconnected (sender : String)
  | adapterRegister (index : ℕ)
  | requestPincode (device : ObjectPath) (sent : Bool)
  | requestPasskey (device : ObjectPath) (sent : Bool)
  | confirmPasskey (device : ObjectPath) (confirmHint sent : Bool)
  | notifyPincode (device : ObjectPath) (pincode : String) (sent : Bool)
  | notifyPasskey (device : ObjectPath) (sent : Bool)
  | cancelAuthentication (device : ObjectPath) (aborted : Bool)
  | pairDevice (device : ObjectPath) (sender : String) (created : Bool)
  | bondingComplete (device : ObjectPath) (success paired : Bool)
  | bondingFailed (device : ObjectPath)
  | cancelBonding (device : ObjectPath)
  | requestorExited (device : ObjectPath)
  | remove (device : ObjectPath)
  | reply (agent : ℕ) (answer : Answer)
  | hold
  | drop (agent : ℕ)
  | cancel (agent : ℕ)
deriving DecidableEq, Repr

def State.reply (s : State × Option Error) (sender : String) : State :=
  { s.1 with returned := s.1.returned ++ [(sender, s.2)] }

def step (s : State) : Label → Option State
  | .registerAgent sender path capability =>
      some (State.reply (registerAgent sender path capability s) sender)
  | .unregisterAgent sender path => some (State.reply (unregisterAgent sender path s) sender)
  | .requestDefault sender path => some (State.reply (requestDefault sender path s) sender)
  | .disconnected sender =>
      (KeyedList.find Prod.fst sender s.agentList).map fun entry => agentDisconnect entry.2 s
  | .adapterRegister index => some (adapterRegister index s)
  | .requestPincode device sent => some (deviceRequestPincode device sent s)
  | .requestPasskey device sent => some (deviceRequestPasskey device sent s)
  | .confirmPasskey device confirmHint sent =>
      some (deviceConfirmPasskey device confirmHint sent s)
  | .notifyPincode device pincode sent => some (deviceNotifyPincode device pincode sent s)
  | .notifyPasskey device sent => some (deviceNotifyPasskey device sent s)
  | .cancelAuthentication device aborted => some (deviceCancelAuthentication device aborted s)
  | .pairDevice device sender created => some (pairDevice device sender created s)
  | .bondingComplete device success paired =>
      some (deviceBondingComplete device success paired s)
  | .bondingFailed device => some (deviceBondingFailed device s)
  | .cancelBonding device => some (deviceCancelBonding device s)
  | .requestorExited device => some (createBondReqExit device s)
  | .remove device => some (deviceRemove device s)
  | .reply id answer =>
      ((KeyedList.find Agent.id id s.agents).bind Agent.request).map fun request =>
        agentReply id request answer s
  | .hold => (agentGet none s).map fun id => { agentRef id s with held := s.held ++ [id] }
  | .drop id =>
      if id ∈ s.held then some { agentUnref id s with held := s.held.erase id } else none
  | .cancel id => if id ∈ s.held then some (agentCancel id s) else none

end BluezTutorial.AgentManager
