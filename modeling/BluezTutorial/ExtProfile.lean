import BluezTutorial.DeviceRemoval
import BluezTutorial.KeyedList
import BluezTutorial.LabelledRun
import Mathlib.Data.Int.Notation
import Mathlib.Algebra.Order.Ring.Int

/-! One external profile of bluetoothd: `struct ext_profile` and `struct ext_io` of
bluez-5.49/src/profile.c with the services of bluez-5.49/src/service.c that device.c
makes for it. Connections and services are heap objects: `self` is the address, an
object that is freed leaves its list, and an access to an address that is in no list,
or a failing `btd_assert`, sets `fault`.

Everything the code waits for is a hook, the callback that glib, D-Bus or the SDP
client will run on a connection's address. A hook runs at most once, and only
`ext_io_destroy` takes hooks back: it takes back those that the fields of the
connection still name. -/

namespace BluezTutorial.ExtProfile

/-- An error number, as `errno` and `GError.code` give it. -/
abbrev Errno := { code : ℤ // 0 < code }

def ENOENT : ℤ := 2
def EIO : ℤ := 5
def ENOMEM : ℤ := 12
def EBUSY : ℤ := 16
def EINVAL : ℤ := 22
def ENOTSUP : ℤ := 95
def ECONNABORTED : ℤ := 103
def ENOTCONN : ℤ := 107
def ECONNREFUSED : ℤ := 111
def EALREADY : ℤ := 114

section Service

/-- `btd_service_state_t`. -/
inductive ServiceState where
  | unavailable
  | disconnected
  | connecting
  | connected
  | disconnecting
deriving DecidableEq, Repr

/-- `struct btd_service`; `device` is NULL once the service has been removed. -/
structure Service where
  self : ℕ
  device : Option ObjectPath
  state : ServiceState
  err : ℤ
  ref : ℕ
deriving DecidableEq, Repr

/-- `change_state`, `none` when one of its assertions fails. -/
def changeState (state : ServiceState) (err : ℤ) (service : Service) : Option Service :=
  if state = service.state then some service
  else if service.device.isNone then none
  else some { service with state := state, err := err }

def serviceCreate (self : ℕ) (device : ObjectPath) : Service :=
  ⟨self, some device, .unavailable, 0, 1⟩

def serviceSetConnecting (service : Service) : ℤ × Option Service :=
  match service.state with
  | .unavailable => (-EINVAL, some service)
  | .disconnected => (0, changeState .connecting 0 service)
  | .connecting => (0, some service)
  | .connected => (0, some service)
  | .disconnecting => (-EBUSY, some service)

def btdServiceConnectingComplete (err : ℤ) (service : Service) : Option Service :=
  if service.state ≠ .disconnected ∧ service.state ≠ .connecting then some service
  else if err = 0 then changeState .connected 0 service
  else changeState .disconnected err service

def btdServiceDisconnectingComplete (err : ℤ) (service : Service) : Option Service :=
  if service.state ≠ .connected ∧ service.state ≠ .disconnecting then some service
  else if err = 0 then changeState .disconnected 0 service
  else changeState .connected err service

end Service

/-- `struct ext_io` of a connection. `io`, `ioId` and `authId` are whether the field
is set, `pending` is the serial of the call waited for. -/
structure ExtIo where
  self : ℕ
  device : ObjectPath
  service : Option ℕ
  io : Bool
  ioId : Bool
  authId : Bool
  resolving : Bool
  connected : Bool
  pending : Option ℕ
  version : ℕ
  features : ℕ
  psm : ℕ
  chan : ℕ
deriving DecidableEq, Repr

/-- A callback that is to run on a connection: `ext_io_disconnected`, `ext_connect`,
`ext_auth`, `record_cb` and the two notify functions of pending calls. -/
inductive Hook where
  | watch
  | io
  | authorization
  | search (device : ObjectPath)
  | newConnReply (serial : ℕ)
  | disconnReply (serial : ℕ)
deriving DecidableEq, Repr

inductive Call where
  | newConnection (device : ObjectPath) (properties : List (String × ℕ))
  | requestDisconnection (device : ObjectPath)
deriving DecidableEq, Repr

/-- The fields of `struct ext_profile` that its connections depend on. -/
structure Profile where
  enableClient : Bool
  remotePsm : ℕ
  remoteChan : ℕ
deriving DecidableEq, Repr

structure State where
  services : List Service
  conns : List ExtIo
  hooks : List (ℕ × Hook)
  bus : List (ℕ × Call)
  allocated : ℕ
  registered : Bool
  fault : Bool
deriving DecidableEq, Repr

/-- A profile just registered, before any device has a service for it. -/
def State.initial : State := ⟨[], [], [], [], 0, true, false⟩

namespace State

def crash (s : State) : State := { s with fault := true }

/-- Apply a function of service.c to the service at an address. -/
def onService (self : ℕ) (f : Service → Option Service) (s : State) : State :=
  match (KeyedList.find Service.self self s.services).bind f with
  | none => s.crash
  | some service =>
      { s with services := KeyedList.update Service.self self (fun _ => service) s.services }

/-- `if (conn->service) f(conn->service)`. -/
def onServiceOf (conn : ExtIo) (f : Service → Option Service) (s : State) : State :=
  match conn.service with
  | none => s
  | some self => s.onService self f

def serviceRef (service : Service) : Service := { service with ref := service.ref + 1 }

/-- `service->device = NULL`. -/
def unlist (service : Service) : Service := { service with device := none }

def serviceUnref (service : Service) : Service := { service with ref := service.ref - 1 }

def btdServiceUnref (self : ℕ) (s : State) : State :=
  match KeyedList.find Service.self self s.services with
  | none => s.crash
  | some service =>
      if (serviceUnref service).ref > 0 then
        { s with services := KeyedList.update Service.self self serviceUnref s.services }
      else { s with services := KeyedList.remove Service.self self s.services }

def hook (self : ℕ) (hook : Hook) (s : State) : State :=
  { s with hooks := s.hooks ++ [(self, hook)] }

/-- Write the fields of a connection back to its address. -/
def keep (conn : ExtIo) (s : State) : State :=
  { s with conns := KeyedList.update ExtIo.self conn.self (fun _ => conn) s.conns }

end State

/-- `bt_cancel_discovery` looks for a search by its two addresses, not by its owner. -/
def btCancelDiscovery (device : ObjectPath) (hooks : List (ℕ × Hook)) : List (ℕ × Hook) :=
  hooks.eraseP (·.2 = .search device)

/-- Take a hook back if the field that names it is set. -/
def takeBack (set : Bool) (hook : ℕ × Hook) (hooks : List (ℕ × Hook)) : List (ℕ × Hook) :=
  if set then hooks.erase hook else hooks

/-- `dbus_pending_call_cancel(ext_io->pending)`. -/
def cancelPending (conn : ExtIo) (hooks : List (ℕ × Hook)) : List (ℕ × Hook) :=
  match conn.pending with
  | none => hooks
  | some serial =>
      (hooks.erase (conn.self, .newConnReply serial)).erase (conn.self, .disconnReply serial)

def cancelSearch (conn : ExtIo) (hooks : List (ℕ × Hook)) : List (ℕ × Hook) :=
  if conn.resolving then btCancelDiscovery conn.device hooks else hooks

/-- The hooks that `ext_io_destroy` takes back, in its order: the source `io_id`, the
callback of btio.c, which returns early once the channel is shut down, the
authorization, the pending call and the search. -/
def unhook (conn : ExtIo) (hooks : List (ℕ × Hook)) : List (ℕ × Hook) :=
  cancelSearch conn (cancelPending conn (takeBack conn.authId (conn.self, .authorization)
    (takeBack conn.io (conn.self, .io) (takeBack conn.ioId (conn.self, .watch) hooks))))

def extIoDestroy (conn : ExtIo) (s : State) : State :=
  let s := { s with hooks := unhook conn s.hooks }
  match conn.service with
  | none => s
  | some self => s.btdServiceUnref self

/-- `ext->conns = g_slist_remove(ext->conns, conn); ext_io_destroy(conn)`. -/
def drop (conn : ExtIo) (s : State) : State :=
  extIoDestroy conn { s with conns := KeyedList.remove ExtIo.self conn.self s.conns }

def extIoDisconnected (nval : Bool) (conn : ExtIo) (s : State) : State :=
  if nval then s
  else drop conn (s.onServiceOf conn fun service =>
    if service.state = .connecting then btdServiceConnectingComplete (- EIO) service
    else btdServiceDisconnectingComplete 0 service)

def newConnReply (error : Bool) (conn : ExtIo) (s : State) : State :=
  let conn := { conn with pending := none }
  if error then drop conn (s.onServiceOf conn (btdServiceConnectingComplete (-ECONNREFUSED)))
  else (s.onServiceOf conn (btdServiceConnectingComplete 0)).keep { conn with connected := true }

def disconnReply (error : Bool) (conn : ExtIo) (s : State) : State :=
  let conn := { conn with pending := none }
  drop conn (s.onServiceOf conn
    (btdServiceDisconnectingComplete (if error then -ECONNREFUSED else 0)))

/-- How the environment answers `send_new_connection` and `send_disconn_req`: the
record that the device has for the remote UUID (its features and version), and
whether the message could be made and sent. -/
structure SendAnswer where
  record : Option (ℕ × ℕ)
  created : Bool
  sent : Bool
deriving DecidableEq, Repr

/-- The entries of `fd_properties` that do not come from custom properties. -/
def fdProperties (conn : ExtIo) : List (String × ℕ) :=
  (if conn.version = 0 then [] else [("Version", conn.version)]) ++
    (if conn.features = 0 then [] else [("Features", conn.features)])

/-- Put a call on the bus and wait for its reply. -/
def State.send (s : State) (conn : ExtIo) (call : Call) (reply : ℕ → Hook) : ExtIo × State :=
  let serial := s.bus.length
  ({ conn with pending := some serial },
    { s with bus := s.bus ++ [(serial, call)] }.hook conn.self (reply serial))

/-- The connection afterwards, and whether the call went out. -/
def sendNewConnection (answer : SendAnswer) (conn : ExtIo) (s : State) : Bool × ExtIo × State :=
  if !answer.created then (false, conn, s)
  else
    let conn := match answer.record with
      | none => conn
      | some (features, version) => { conn with features := features, version := version }
    if !answer.sent then (false, conn, s)
    else (true, s.send conn (.newConnection conn.device (fdProperties conn)) .newConnReply)

/-- The outcome that btio.c hands to `ext_connect`, the error of `bt_io_get` there,
and what follows. -/
structure ConnectAnswer where
  err : Option Errno
  ioErr : Option Errno
  send : SendAnswer
deriving DecidableEq, Repr

/-- The end of `ext_connect` at its label `drop`. -/
def dropConnecting (err : Option Errno) (conn : ExtIo) (s : State) : State :=
  let code := match err with
    | none => - EIO
    | some err => -err.1
  drop conn (s.onServiceOf conn (btdServiceConnectingComplete code))

/-- `service_set_connecting(conn->service) < 0`. -/
def refusesConnecting (conn : ExtIo) (s : State) : Bool :=
  match conn.service.bind fun self => KeyedList.find Service.self self s.services with
  | none => false
  | some service => (serviceSetConnecting service).1 < 0

/-- `ext_connect` once the channel is watched. -/
def announce (answer : SendAnswer) (conn : ExtIo) (s : State) : State :=
  let refused := refusesConnecting conn s
  let s := s.onServiceOf conn fun service => (serviceSetConnecting service).2
  if refused then dropConnecting none conn s
  else
    let (sent, conn, s) := sendNewConnection answer conn s
    if sent then s.keep conn else dropConnecting none conn s

def extConnect (answer : ConnectAnswer) (conn : ExtIo) (s : State) : State :=
  if answer.ioErr.isSome ∨ answer.err.isSome then
    dropConnecting (answer.err <|> answer.ioErr) conn s
  else if conn.ioId then announce answer.send conn s
  else announce answer.send { conn with ioId := true } (s.hook conn.self .watch)

structure AuthAnswer where
  ioErr : Bool
  rejected : Bool
  accepted : Bool
deriving DecidableEq, Repr

def extAuth (answer : AuthAnswer) (conn : ExtIo) (s : State) : State :=
  let conn := { conn with authId := false }
  if answer.ioErr ∨ answer.rejected ∨ !answer.accepted then drop conn s
  else (s.hook conn.self .io).keep conn

/-- `btd_device_get_service`: the service that is in the device's list. -/
def findService (device : ObjectPath) (s : State) : Option Service :=
  s.services.find? (·.device = some device)

/-- `create_conn`; `known` is whether the adapter knows the device. Adding the UUID to
the device may make the service first, which is the label `probe`. -/
def createConn (profile : Profile) (known : Bool) (device : ObjectPath) (s : State) :
    Option (ExtIo × State) :=
  let conn service : ExtIo :=
    ⟨s.allocated, device, service, true, true, false, false, false, none, 0, 0, 0, 0⟩
  let s' := { s with allocated := s.allocated + 1 }.hook s.allocated .watch
  if !known then none
  else if !profile.enableClient then some (conn none, s')
  else match findService device s with
    | none => none
    | some service =>
        some (conn (some service.self), s'.onService service.self (some ∘ State.serviceRef))

structure ConfirmAnswer where
  known : Bool
  authorizing : Bool
deriving DecidableEq, Repr

def extConfirm (profile : Profile) (answer : ConfirmAnswer) (device : ObjectPath) (s : State) :
    State :=
  match createConn profile answer.known device s with
  | none => s
  | some (conn, s) =>
      if !answer.authorizing then extIoDestroy conn s
      else
        let conn := { conn with authId := true }
        { s.hook conn.self .authorization with conns := s.conns ++ [conn] }

def extDirectConnect (profile : Profile) (known : Bool) (answer : ConnectAnswer)
    (device : ObjectPath) (s : State) : State :=
  match createConn profile known device s with
  | none => s
  | some (conn, s) => extConnect answer conn { s with conns := s.conns ++ [conn] }

/-- The protocols of one SDP record: the ports of L2CAP and RFCOMM, and whether OBEX
is among them. -/
structure Protos where
  l2cap : ℤ
  rfcomm : ℤ
  obex : Bool
deriving DecidableEq, Repr

/-- `goepPsm` is the attribute GoepL2CapPsm if it is a 16 bit number, `supported` the
features and `version` that of the first profile descriptor. -/
structure Record where
  accessProtos : Option Protos
  goepPsm : Option ℕ
  supported : ℕ
  version : ℕ
deriving DecidableEq, Repr

/-- A PSM must be odd and the low bit of its upper byte 0. -/
def getGoepL2capPsm (record : Record) : ℕ :=
  match record.goepPsm with
  | none => 0
  | some psm => if psm % 2 = 1 ∧ psm / 256 % 2 = 0 then psm else 0

/-- What `record_cb` takes from one record. `psm` is a `uint16_t` and `chan` a
`uint8_t`. -/
def readRecord (record : Record) (protos : Protos) (conn : ExtIo) : ExtIo :=
  let conn := if protos.l2cap > 0 then { conn with psm := protos.l2cap.toNat % 65536 } else conn
  let conn := if protos.rfcomm > 0 then { conn with chan := protos.rfcomm.toNat % 256 } else conn
  let conn := if conn.psm = 0 ∧ protos.obex then { conn with psm := getGoepL2capPsm record }
    else conn
  { conn with features := record.supported, version := record.version }

/-- The loop of `record_cb`; `none` when a record has no protocol list. -/
def readRecords : List Record → ExtIo → Option ExtIo
  | [], conn => some conn
  | record :: records, conn =>
      match record.accessProtos with
      | none => none
      | some protos =>
          let conn := readRecord record protos conn
          if conn.chan ≠ 0 ∨ conn.psm ≠ 0 then some conn else readRecords records conn

/-- `connect_io`; `connecting` is whether `bt_io_connect` succeeded. -/
def connectIo (connecting : Bool) (conn : ExtIo) (s : State) : ℤ × ExtIo × State :=
  if connecting then (0, { conn with io := true }, s.hook conn.self .io) else (- EIO, conn, s)

structure RecordAnswer where
  err : Option Errno
  records : List Record
  connecting : Bool
deriving DecidableEq, Repr

/-- The label `failed` of `record_cb`. -/
def dropResolving (err : ℤ) (conn : ExtIo) (s : State) : State :=
  drop conn (s.onServiceOf conn (btdServiceConnectingComplete err))

def recordCb (answer : RecordAnswer) (conn : ExtIo) (s : State) : State :=
  let conn := { conn with resolving := false }
  match answer.err with
  | some err => dropResolving (-err.1) conn s
  | none =>
      if answer.records = [] then dropResolving (-ENOTSUP) conn s
      else match readRecords answer.records conn with
        | none => dropResolving (-ENOTSUP) conn s
        | some conn =>
            if conn.chan = 0 ∧ conn.psm = 0 then dropResolving (-ENOTSUP) conn s
            else
              let (err, conn, s) := connectIo answer.connecting conn s
              if err < 0 then dropResolving err conn s else s.keep conn

/-- `find_connection`. -/
def findConnection (device : ObjectPath) (s : State) : Option ExtIo :=
  s.conns.find? (·.device = device)

/-- `ext_connect_dev`; `err` is the error of `bt_io_connect` or `bt_search_service`. -/
def extConnectDev (profile : Profile) (err : Option Errno) (service : Service)
    (device : ObjectPath) (s : State) : ℤ × State :=
  if (findConnection device s).isSome then (-EALREADY, s)
  else
    let self := s.allocated
    let conn : ExtIo :=
      ⟨self, device, none, false, false, false, false, false, none, 0, 0, 0, 0⟩
    let (code, conn, s) :=
      if profile.remotePsm ≠ 0 ∨ profile.remoteChan ≠ 0 then
        connectIo err.isNone
          { conn with psm := profile.remotePsm, chan := profile.remoteChan } s
      else match err with
        | some err => (-err.1, conn, s)
        | none => (0, { conn with resolving := true }, s.hook self (.search device))
    if code < 0 then (code, s)
    else
      let conn := { conn with service := some service.self }
      let s := { s with allocated := s.allocated + 1 }.onService service.self
        (some ∘ State.serviceRef)
      (0, { s with conns := s.conns ++ [conn] })

def btdServiceConnect (profile : Profile) (err : Option Errno) (service : Service)
    (device : ObjectPath) (s : State) : ℤ × State :=
  match service.state with
  | .unavailable => (-EINVAL, s)
  | .connecting => (0, s)
  | .connected => (-EALREADY, s)
  | .disconnecting => (-EBUSY, s)
  | .disconnected =>
      let (err, s) := extConnectDev profile err service device s
      if err = 0 then (0, s.onService service.self (changeState .connecting 0)) else (err, s)

def sendDisconnReq (answer : SendAnswer) (conn : ExtIo) (s : State) : ℤ × State :=
  if !answer.created then (-ENOMEM, s)
  else if !answer.sent then (- EIO, s)
  else
    let (conn, s) := s.send conn (.requestDisconnection conn.device) .disconnReply
    (0, s.keep conn)

def extDisconnectDev (answer : SendAnswer) (device : ObjectPath) (s : State) : ℤ × State :=
  match findConnection device s with
  | none => (-ENOTCONN, s)
  | some conn =>
      if !conn.connected then (-ENOTCONN, s)
      else if conn.pending.isSome then (-EBUSY, s)
      else sendDisconnReq answer conn s

def btdServiceDisconnect (answer : SendAnswer) (service : Service) (device : ObjectPath)
    (s : State) : ℤ × State :=
  match service.state with
  | .unavailable => (-EINVAL, s)
  | .disconnected => (-EALREADY, s)
  | .disconnecting => (-EALREADY, s)
  | .connecting | .connected =>
      let s := s.onService service.self (changeState .disconnecting 0)
      let (err, s) := extDisconnectDev answer device s
      if err = 0 then (0, s)
      else if err = -ENOTCONN then
        (0, s.onService service.self (btdServiceDisconnectingComplete 0))
      else (err, s.onService service.self (btdServiceDisconnectingComplete err))

/-- `ext_device_probe` finds the profile as long as it is registered. -/
def serviceProbe (self : ℕ) (s : State) : State :=
  s.onService self (changeState .disconnected 0)

/-- `probe_service` of device.c, for a device that has no service of the profile yet. -/
def probeService (device : ObjectPath) (s : State) : State :=
  let self := s.allocated
  let s := { s with
    allocated := self + 1
    services := s.services ++ [serviceCreate self device] }
  serviceProbe self s

def extDeviceRemove (device : ObjectPath) (s : State) : State :=
  match findConnection device s with
  | none => s
  | some conn => drop conn s

def serviceRemove (self : ℕ) (device : ObjectPath) (s : State) : State :=
  let s := s.onService self (changeState .disconnected (-ECONNABORTED))
  let s := s.onService self (changeState .unavailable 0)
  let s := extDeviceRemove device s
  let s := s.onService self fun service => some (State.unlist service)
  s.btdServiceUnref self

/-- `device_remove_profile`. -/
def deviceRemoveProfile (s : State) (device : ObjectPath) : State :=
  match findService device s with
  | none => s
  | some service => serviceRemove service.self device s

/-- `adapter_remove_profile` for all adapters; a device that has no service of the
profile makes no difference. -/
def adapterRemoveProfile (s : State) : State :=
  (s.services.filterMap (·.device)).foldl deviceRemoveProfile s

/-- `g_slist_free_full(ext->conns, ext_io_destroy)`. -/
def freeConns (s : State) : State :=
  s.conns.foldl (fun s conn => drop conn s) s

def removeExt (s : State) : State :=
  { freeConns (adapterRemoveProfile s) with registered := false }

section Steps

/-- What can happen next: device.c makes and removes services and asks for a device
to be connected or disconnected, a peer connects, a hook runs, and the owner
unregisters the profile. -/
inductive Label where
  | probe (device : ObjectPath)
  | remove (service : ℕ)
  | connect (service : ℕ) (err : Option Errno)
  | disconnect (service : ℕ) (answer : SendAnswer)
  | confirm (device : ObjectPath) (answer : ConfirmAnswer)
  | directConnect (device : ObjectPath) (known : Bool) (answer : ConnectAnswer)
  | hangUp (conn : ℕ) (nval : Bool)
  | connected (conn : ℕ) (answer : ConnectAnswer)
  | authorized (conn : ℕ) (answer : AuthAnswer)
  | searched (conn : ℕ) (device : ObjectPath) (answer : RecordAnswer)
  | newConnReplied (conn serial : ℕ) (error : Bool)
  | disconnReplied (conn serial : ℕ) (error : Bool)
  | unregister
deriving DecidableEq, Repr

/-- Run the callback of a hook on the connection it was set for. -/
def fire (self : ℕ) (hook : Hook) (callback : ExtIo → State → State) (s : State) :
    Option State :=
  if (self, hook) ∈ s.hooks then
    let s := { s with hooks := s.hooks.erase (self, hook) }
    match KeyedList.find ExtIo.self self s.conns with
    | none => some s.crash
    | some conn => some (callback conn s)
  else none

/-- device.c holds the services that it has not removed, and no others. -/
def withService (self : ℕ) (f : Service → ObjectPath → State → State) (s : State) :
    Option State := do
  let service ← KeyedList.find Service.self self s.services
  let device ← service.device
  some (f service device s)

def step (profile : Profile) (s : State) (label : Label) : Option State :=
  if !s.registered then none
  else match label with
    | .probe device =>
        if profile.enableClient && (findService device s).isNone then some (probeService device s)
        else none
    | .remove service => withService service (fun _ device => serviceRemove service device) s
    | .connect service err =>
        withService service (fun service device s =>
          (btdServiceConnect profile err service device s).2) s
    | .disconnect service answer =>
        withService service (fun service device s =>
          (btdServiceDisconnect answer service device s).2) s
    | .confirm device answer => some (extConfirm profile answer device s)
    | .directConnect device known answer =>
        some (extDirectConnect profile known answer device s)
    | .hangUp conn nval => fire conn .watch (extIoDisconnected nval) s
    | .connected conn answer => fire conn .io (extConnect answer) s
    | .authorized conn answer => fire conn .authorization (extAuth answer) s
    | .searched conn device answer => fire conn (.search device) (recordCb answer) s
    | .newConnReplied conn serial error => fire conn (.newConnReply serial) (newConnReply error) s
    | .disconnReplied conn serial error => fire conn (.disconnReply serial) (disconnReply error) s
    | .unregister => some (removeExt s)

end Steps

end BluezTutorial.ExtProfile
