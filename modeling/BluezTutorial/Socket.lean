import BluezTutorial.ByteStream
import BluezTutorial.HandleTable
import Mathlib.Algebra.Ring.Int.Defs
import Mathlib.Algebra.Ring.Nat

/-! The class `Socket` of Profile/socket.cpp, and the ways in which the process
of Profile/ can stop. The class is a copyable handle: it has no destructor and
closes its descriptor only in `closeConnection`. System calls are answered by the
environment, so `setsockopt`, `fcntl` and `read` appear as their return values.

`&data.front()` on an empty vector is passed on with a count of 0, which `read`
answers with 0; that pointer is never dereferenced and is not modelled. -/

namespace BluezTutorial

/-- Every place where the process stops: `assert`, `g_assert_no_error`, the
`std::terminate` of assigning to a joinable `std::thread`, and the freeing of the
uninitialised `p_error` of `Listener::disconnect`. -/
inductive Abort where
  | setLinger | socketSet | readData
  | busGet
  | registerBus | registerInterface | registerProxy | registerExport | registerCall
  | unregisterBus | unregisterInterface | unregisterProxy | unregisterCall
  | disconnectBus | disconnectError
  | removeBus | removeProxy | removeCall
  | findBus | findProxy | findCall | findChildren
  | createSocket | disconnectSocket | fdList | threadAssign
deriving DecidableEq, Repr

def check (condition : Bool) (abort : Abort) : Except Abort Unit :=
  if condition then .ok () else .error abort

@[simp] theorem check_true (abort : Abort) : check true abort = .ok () := rfl

@[simp] theorem check_false (abort : Abort) : check false abort = .error abort := rfl

theorem check_bind_eq_ok {α : Type} {condition : Bool} {abort : Abort}
    {rest : Unit → Except Abort α} {result : α} :
    (check condition abort >>= rest) = .ok result ↔ condition = true ∧ rest () = .ok result := by
  cases condition <;> simp [bind, Except.bind]

/-- From a computation that went through, take its first part off. -/
theorem bind_eq_ok {α β : Type} {first : Except Abort α} {rest : α → Except Abort β}
    {result : β} :
    (first >>= rest) = .ok result ↔ ∃ value, first = .ok value ∧ rest value = .ok result := by
  cases first <;> simp [bind, Except.bind]

inductive ReadStatus where
  | readOK | readFailed | readNoData
deriving DecidableEq, Repr

inductive ConnectionState where
  | connected | notConnected | waitingForOther
deriving DecidableEq, Repr

structure Socket where
  fd : ℤ
  timeout : ℤ
  connectionState : ConnectionState
deriving DecidableEq, Repr

/-- What `setsockopt(SO_LINGER)` and `fcntl(F_SETFL)` return. -/
structure SetupAnswer where
  setLinger : ℤ
  socketSet : ℤ
deriving DecidableEq, Repr

/-- `static_cast<int32_t>`. -/
def toInt32 (n : ℤ) : ℤ := n.bmod (2 ^ 32)

/-- `static_cast<uint32_t>`. -/
def toUInt32 (n : ℤ) : ℕ := (n % 2 ^ 32).toNat

theorem toInt32_of_lt {n : ℕ} (small : n < 2 ^ 31) : toInt32 n = n := by
  unfold toInt32
  rw [Int.bmod_eq_of_le] <;> omega

theorem toInt32_neg_one : toInt32 (-1) = -1 := by
  unfold toInt32
  rw [Int.bmod_eq_of_le] <;> omega

theorem toUInt32_of_lt {n : ℕ} (small : n < 2 ^ 32) : toUInt32 n = n := by
  unfold toUInt32
  omega

namespace Socket

/-- The constructor `Socket::Socket( fd )`. -/
def ofFd (fd : ℤ) : Socket where
  fd := fd
  timeout := 0
  connectionState := if fd > 0 then .connected else .notConnected

def closeConnection {ρ : Type} (socket : Socket) (descriptors : HandleTable ρ) :
    Socket × HandleTable ρ :=
  if socket.fd ≠ -1 then
    ({ socket with fd := -1, connectionState := .notConnected }, descriptors.close socket.fd)
  else
    ({ socket with connectionState := .notConnected }, descriptors)

def setSocketOptions (answer : SetupAnswer) : Except Abort Unit :=
  check (answer.setLinger = 0) .setLinger

def setSocketToNonBlocking (answer : SetupAnswer) : Except Abort Unit :=
  check (answer.socketSet ≠ -1) .socketSet

def setupSocket (answer : SetupAnswer) : Except Abort Unit := do
  setSocketOptions answer
  setSocketToNonBlocking answer

def getConnectionState (socket : Socket) : ConnectionState := socket.connectionState

/-- The return value of `read`: -1, or the number of bytes it stored. -/
def returned : Option (List UInt8) → ℤ
  | none => -1
  | some bytes => bytes.length

/-- The buffer after `read` stored its answer at the front. -/
def filled (data : List UInt8) : Option (List UInt8) → List UInt8
  | none => data
  | some bytes => bytes ++ data.drop bytes.length

/-- The assertion and the status of `Socket::readData`. -/
def readStatus (numToRead numRead : ℤ) : Except Abort ReadStatus := do
  check (numToRead = numRead ∨ numRead = -1) .readData
  pure (if numToRead ≠ numRead then .readFailed else if numRead = 0 then .readNoData else .readOK)

/-- `Socket::readData`: one `read` for the whole of `data`. -/
def readData {κ : Type} (read : κ → ℤ → ℕ → Option (List UInt8) × κ) (socket : Socket)
    (data : List UInt8) (os : κ) : Except Abort (ReadStatus × List UInt8 × κ) := do
  let numToRead := toInt32 data.length
  let (answer, os) := read os socket.fd (toUInt32 numToRead)
  let numRead := toInt32 (returned answer)
  let status ← readStatus numToRead numRead
  pure (status, filled data answer, os)

section CloseConnection

variable {ρ : Type} (socket : Socket) (descriptors : HandleTable ρ)

@[simp] theorem closeConnection_fd : (socket.closeConnection descriptors).1.fd = -1 := by
  unfold closeConnection
  split <;> simp_all

@[simp] theorem closeConnection_connectionState :
    (socket.closeConnection descriptors).1.connectionState = .notConnected := by
  unfold closeConnection
  split <;> rfl

theorem closeConnection_descriptors_of_held (held : socket.fd ≠ -1) :
    (socket.closeConnection descriptors).2 = descriptors.close socket.fd := by
  simp [closeConnection, held]

theorem closeConnection_descriptors_of_free (free : socket.fd = -1) :
    (socket.closeConnection descriptors).2 = descriptors := by
  simp [closeConnection, free]

end CloseConnection

section ReadData

theorem readStatus_neg_one (asked : ℕ) : readStatus asked (-1) = .ok .readFailed := by
  have different : (asked : ℤ) ≠ -1 := by omega
  simp [readStatus, different, bind, Except.bind, pure, Except.pure]

theorem readStatus_natCast (asked got : ℕ) : readStatus asked got =
    if got = asked then .ok (if asked = 0 then .readNoData else .readOK)
    else .error .readData := by
  have notMinusOne : (got : ℤ) ≠ -1 := by omega
  by_cases same : got = asked
  · simp [readStatus, same, bind, Except.bind, pure, Except.pure]
  · have different : (asked : ℤ) ≠ got := by omega
    simp [readStatus, same, different, notMinusOne, bind, Except.bind]

variable {κ : Type} {read : κ → ℤ → ℕ → Option (List UInt8) × κ} {socket : Socket}
  {data : List UInt8} {os : κ}

theorem readData_eq_of_lt (small : data.length < 2 ^ 31) : readData read socket data os =
    (readStatus data.length (toInt32 (returned (read os socket.fd data.length).1))).map
      fun status => (status, filled data (read os socket.fd data.length).1,
        (read os socket.fd data.length).2) := by
  rw [readData, toInt32_of_lt small, toUInt32_of_lt (by omega)]
  rfl

/-- Below 2^31 bytes the casts change nothing: the assertion is about the number
of bytes asked for, and the status compares that number with the answer. -/
theorem readData_of_small (small : data.length < 2 ^ 31)
    (bounded : ∀ bytes, (read os socket.fd data.length).1 = some bytes →
      bytes.length ≤ data.length) :
    readData read socket data os =
      match (read os socket.fd data.length).1 with
      | none => .ok (.readFailed, data, (read os socket.fd data.length).2)
      | some bytes =>
          if bytes.length = data.length then
            .ok (if data.length = 0 then .readNoData else .readOK, bytes,
              (read os socket.fd data.length).2)
          else .error .readData := by
  rw [readData_eq_of_lt small]
  cases answer : (read os socket.fd data.length).1 with
  | none =>
      rw [returned, toInt32_neg_one, readStatus_neg_one]
      rfl
  | some bytes =>
      have short := bounded bytes answer
      rw [returned, toInt32_of_lt (by omega), readStatus_natCast]
      by_cases same : bytes.length = data.length
      · simp [same, filled, Except.map]
      · simp [same, Except.map]

end ReadData

end Socket

end BluezTutorial
