import BluezTutorial.CString
import BluezTutorial.LabelledRun
import BluezTutorial.Socket

/-! The loop of Profile/main.cpp on one connection. An iteration makes two reads:
one byte, and then as many bytes as that byte announces. Both statuses are
dropped by the source; they are kept here only so that statements can mention
them. What the loop prints and how long it sleeps is left out: between any two
reads any number of bytes may arrive. -/

namespace BluezTutorial

/-- The next read of the loop. After the header read, its status and the string
`HeaderStr` made of the bytes read. -/
inductive Phase where
  | header
  | body (headerStatus : ReadStatus) (headerStr : List UInt8)
deriving DecidableEq, Repr

/-- One finished iteration of the loop. -/
structure Frame where
  headerStatus : ReadStatus
  headerStr : List UInt8
  bodyStatus : ReadStatus
  body : List UInt8
deriving DecidableEq, Repr

/-- `N`, the size of `ReadData2`. -/
def announced (headerStr : List UInt8) : ℕ := (CString.atoi headerStr).toNat

def Frame.Succeeded (frame : Frame) : Prop :=
  frame.headerStatus ≠ .readFailed ∧ frame.bodyStatus ≠ .readFailed

instance (frame : Frame) : Decidable frame.Succeeded :=
  inferInstanceAs (Decidable (_ ∧ _))

namespace Phase

/-- The vector handed to `readData`: `ReadData` or `ReadData2`. -/
def buffer : Phase → List UInt8
  | .header => [0]
  | .body _ headerStr => List.replicate (announced headerStr) 0

/-- Where the loop goes after the read, and the iteration that the read finished. -/
def next : Phase → ReadStatus → List UInt8 → Phase × Option Frame
  | .header, status, readData => (.body status readData, none)
  | .body headerStatus headerStr, status, readData2 =>
      (.header, some ⟨headerStatus, headerStr, status, readData2⟩)

def readNext {κ : Type} (read : κ → ℤ → ℕ → Option (List UInt8) × κ) (socket : Socket)
    (os : κ) (phase : Phase) : Except Abort ((Phase × Option Frame) × κ) := do
  let (status, data, os) ← socket.readData read phase.buffer os
  pure (phase.next status data, os)

/-- The header is the one byte of `ReadData`, which is still NUL when its read failed. -/
def WellFormed : Phase → Prop
  | .header => True
  | .body headerStatus headerStr =>
      headerStr.length = 1 ∧ (headerStatus = .readFailed → headerStr = [0])

/-- A header was read that announces a body, and that body is the next read. -/
def Announcing : Phase → Prop
  | .header => False
  | .body headerStatus headerStr => headerStatus ≠ .readFailed ∧ announced headerStr ≠ 0

instance : (phase : Phase) → Decidable phase.Announcing
  | .header => isFalse id
  | .body headerStatus headerStr =>
      inferInstanceAs (Decidable (headerStatus ≠ .readFailed ∧ announced headerStr ≠ 0))

/-- The number of bytes the next read asks for. -/
def requested (phase : Phase) : ℕ := phase.buffer.length

@[simp] theorem requested_header : header.requested = 1 := rfl

@[simp] theorem requested_body (headerStatus : ReadStatus) (headerStr : List UInt8) :
    (body headerStatus headerStr).requested = announced headerStr := by
  simp [requested, buffer]

theorem announced_le {headerStr : List UInt8} (one : headerStr.length = 1) :
    announced headerStr ≤ 9 := by
  obtain ⟨c, rfl⟩ := List.length_eq_one_iff.mp one
  exact CString.atoi_singleton_le c

theorem requested_le {phase : Phase} (wellFormed : phase.WellFormed) : phase.requested ≤ 9 := by
  cases phase with
  | header => simp
  | body headerStatus headerStr =>
      rw [requested_body]
      exact announced_le wellFormed.1

theorem wellFormed_next {phase : Phase} {status : ReadStatus} {data : List UInt8}
    (size : data.length = phase.requested)
    (untouched : status = .readFailed → data = phase.buffer) :
    (phase.next status data).1.WellFormed := by
  cases phase with
  | header => exact ⟨size, untouched⟩
  | body headerStatus headerStr => trivial

section ReadNext

variable {κ : Type} (read : κ → ℤ → ℕ → Option (List UInt8) × κ) (socket : Socket) (os : κ)
  {phase : Phase}

/-- The read of a header or of a body: the loop goes on when the answer is -1 or has
as many bytes as were asked for, and stops in `readData` when it is shorter. -/
theorem readNext_eq (wellFormed : phase.WellFormed)
    (bounded : ∀ bytes, (read os socket.fd phase.requested).1 = some bytes →
      bytes.length ≤ phase.requested) :
    readNext read socket os phase =
      match (read os socket.fd phase.requested).1 with
      | none => .ok (phase.next .readFailed phase.buffer, (read os socket.fd phase.requested).2)
      | some bytes =>
          if bytes.length = phase.requested then
            .ok (phase.next (if phase.requested = 0 then .readNoData else .readOK) bytes,
              (read os socket.fd phase.requested).2)
          else .error .readData := by
  have small : phase.buffer.length < 2 ^ 31 := by
    have := requested_le wellFormed
    rw [requested] at this
    omega
  rw [readNext, Socket.readData_of_small small bounded]
  change (_ : Except Abort _) = match (read os socket.fd phase.buffer.length).1 with
    | none => _
    | some bytes => _
  cases (read os socket.fd phase.buffer.length).1 with
  | none => rfl
  | some bytes =>
      by_cases same : bytes.length = phase.buffer.length
      · simp [same, requested, bind, Except.bind, pure, Except.pure]
      · simp [same, requested, bind, Except.bind]

/-- The loop stops in `readData`, or goes on with a buffer of the size it had, which
is untouched when the read failed and was answered by the kernel otherwise. -/
theorem readNext_cases (wellFormed : phase.WellFormed)
    (bounded : ∀ bytes, (read os socket.fd phase.requested).1 = some bytes →
      bytes.length ≤ phase.requested) :
    readNext read socket os phase = .error .readData ∨
    ∃ status data, readNext read socket os phase =
        .ok (phase.next status data, (read os socket.fd phase.requested).2) ∧
      data.length = phase.requested ∧ (status = .readFailed → data = phase.buffer) ∧
      (status ≠ .readFailed → (read os socket.fd phase.requested).1 = some data) := by
  rw [readNext_eq read socket os wellFormed bounded]
  cases got : (read os socket.fd phase.requested).1 with
  | none => exact .inr ⟨.readFailed, phase.buffer, rfl, rfl, fun _ => rfl, by simp⟩
  | some bytes =>
      by_cases same : bytes.length = phase.requested
      · refine .inr ⟨if phase.requested = 0 then .readNoData else .readOK, bytes,
          by simp only [same, if_true], same, fun failed => ?_, fun _ => rfl⟩
        split at failed <;> cases failed
      · exact .inl (by simp [same])

/-- What the loop does depends on the operating system only through its answer. -/
theorem readNext_view (phase : Phase) {κ' : Type}
    (read' : κ' → ℤ → ℕ → Option (List UInt8) × κ') (os' : κ') (view : κ → κ')
    (same : ∀ count, (read' os' socket.fd count) =
      ((read os socket.fd count).1, view (read os socket.fd count).2)) :
    readNext read' socket os' phase =
      (readNext read socket os phase).map fun result => (result.1, view result.2) := by
  simp only [readNext, Socket.readData, same]
  cases Socket.readStatus (toInt32 phase.buffer.length)
    (toInt32 (Socket.returned (read os socket.fd (toUInt32 (toInt32 phase.buffer.length))).1)) with
  | error abort => rfl
  | ok status => rfl

end ReadNext

end Phase

/-- The loop, the Socket it reads from and the connection installed in that Socket.
Once `readData` has stopped the process nothing happens any more. -/
structure Receiver where
  socket : Socket
  stream : ByteStream UInt8
  phase : Phase
  frames : List Frame
  aborted : Option Abort
deriving DecidableEq, Repr

namespace Receiver

/-- What the peer and the kernel can do, and a read of the loop. -/
inductive Event where
  | arrive (bytes : List UInt8)
  | hangUp
  | read (interrupted : Bool)
deriving DecidableEq, Repr

/-- A connection is installed while the loop is at `phase`. -/
def installed (fd : ℤ) (phase : Phase) : Receiver where
  socket := .ofFd fd
  stream := .empty
  phase := phase
  frames := []
  aborted := none

def advance (r : Receiver) (outcome : Phase × Option Frame) (stream : ByteStream UInt8) :
    Receiver :=
  { r with phase := outcome.1, frames := r.frames ++ outcome.2.toList, stream := stream }

/-- The loop goes on with what `readData` returned, or the process has stopped. -/
def resume (r : Receiver) :
    Except Abort ((Phase × Option Frame) × ByteStream UInt8) → Receiver
  | .ok (outcome, stream) => r.advance outcome stream
  | .error abort => { r with aborted := some abort }

def step (r : Receiver) (event : Event) : Option Receiver :=
  if r.aborted.isSome then none
  else match event with
    | .arrive bytes =>
        if r.stream.closed then none else some { r with stream := r.stream.arrive bytes }
    | .hangUp => some { r with stream := r.stream.hangUp }
    | .read interrupted =>
        some (r.resume (r.phase.readNext (fun stream _ count => stream.read interrupted count)
          r.socket r.stream))

/-- The answer of the kernel to the next read. -/
def answer (r : Receiver) (interrupted : Bool) : Option (List UInt8) × ByteStream UInt8 :=
  r.stream.read interrupted r.phase.requested

def Running (r : Receiver) : Prop := r.phase.WellFormed ∧ r.aborted = none

variable {r r' : Receiver} {interrupted : Bool} {bytes : List UInt8}

theorem step_read (running : r.Running) : r.step (.read interrupted) =
    match (r.answer interrupted).1 with
    | none => some (r.advance (r.phase.next .readFailed r.phase.buffer) (r.answer interrupted).2)
    | some bytes =>
        if bytes.length = r.phase.requested then
          some (r.advance (r.phase.next (if r.phase.requested = 0 then .readNoData else .readOK)
            bytes) (r.answer interrupted).2)
        else some { r with aborted := some .readData } := by
  have alive : r.aborted.isSome = false := by simp [running.2]
  have next := Phase.readNext_eq (fun stream _ count => stream.read interrupted count)
    r.socket r.stream running.1 (fun _ h => ByteStream.read_length_le h)
  simp only [step, alive, Bool.false_eq_true, if_false, next, answer]
  cases (r.stream.read interrupted r.phase.requested).1 with
  | none => rfl
  | some bytes => by_cases same : bytes.length = r.phase.requested <;> simp [same, resume]

section UninterruptedRead

variable (running : r.Running)
include running

theorem step_read_of_arrived (enough : r.phase.requested ≤ r.stream.arrived.length) :
    r.step (.read false) =
      some (r.advance
        (r.phase.next (if r.phase.requested = 0 then .readNoData else .readOK)
          (r.stream.arrived.take r.phase.requested))
        { r.stream with arrived := r.stream.arrived.drop r.phase.requested }) := by
  rw [step_read running, answer, ByteStream.read_of_arrived enough]
  simp [enough]

theorem step_read_of_empty (nothing : r.stream.arrived = []) (opened : r.stream.closed = false)
    (some_asked : r.phase.requested ≠ 0) :
    r.step (.read false) =
      some (r.advance (r.phase.next .readFailed r.phase.buffer) r.stream) := by
  rw [step_read running, answer, ByteStream.read_of_empty nothing some_asked]
  simp [opened]

theorem step_read_of_short (something : r.stream.arrived ≠ [])
    (short : r.stream.arrived.length < r.phase.requested) :
    r.step (.read false) = some { r with aborted := some .readData } := by
  have notWhole : ¬ r.stream.Whole false r.phase.requested := by
    simp only [ByteStream.Whole, Bool.false_eq_true, something, false_and, or_false, false_or]
    omega
  rw [← ByteStream.read_exact_iff] at notWhole
  push Not at notWhole
  obtain ⟨bytes, got, wrong⟩ := notWhole
  rw [step_read running, answer, got]
  simp [wrong]

end UninterruptedRead

/-- The guard of a step: a read gets everything it asks for, or nothing at all. -/
def ReadsWhole (r : Receiver) : Event → Prop
  | .read interrupted => r.stream.Whole interrupted r.phase.requested
  | _ => True

instance (r : Receiver) : (event : Event) → Decidable (r.ReadsWhole event)
  | .read interrupted => inferInstanceAs (Decidable (r.stream.Whole interrupted r.phase.requested))
  | .arrive _ => isTrue trivial
  | .hangUp => isTrue trivial

theorem running_step (running : r.Running) {event : Event} (whole : r.ReadsWhole event)
    (h : r.step event = some r') : r'.Running := by
  have alive : r.aborted.isSome = false := by simp [running.2]
  cases event with
  | arrive bytes =>
      simp only [step, alive, Bool.false_eq_true, if_false] at h
      split at h
      · cases h
      · cases h
        exact running
  | hangUp =>
      simp only [step, alive, Bool.false_eq_true, if_false] at h
      cases h
      exact running
  | read interrupted =>
      rw [step_read running] at h
      have enough := ByteStream.read_exact_iff.mpr whole
      cases got : (r.answer interrupted).1 with
      | none =>
          rw [got] at h
          cases h
          exact ⟨Phase.wellFormed_next rfl (fun _ => rfl), running.2⟩
      | some bytes =>
          have size : bytes.length = r.phase.requested := enough bytes got
          simp only [got, size, if_true, Option.some.injEq] at h
          rw [← h]
          refine ⟨Phase.wellFormed_next size fun failed => ?_, running.2⟩
          split at failed <;> cases failed

theorem readsWhole_of_step (running : r.Running) {event : Event} (h : r.step event = some r')
    (alive : r'.aborted = none) : r.ReadsWhole event := by
  cases event with
  | arrive bytes => trivial
  | hangUp => trivial
  | read interrupted =>
      refine ByteStream.read_exact_iff.mp fun bytes got => ?_
      by_contra short
      have stops : r.step (.read interrupted) = some { r with aborted := some .readData } := by
        rw [step_read running, answer, got]
        simp [short]
      rw [stops, Option.some.injEq] at h
      rw [← h] at alive
      cases alive

/-- A peer that sends what it likes and closes when it likes keeps the receiver alive
exactly as long as no read is cut short: every read that the kernel does not
interrupt finds all the bytes it asks for, or an open connection on which nothing
has arrived. -/
theorem alive_iff_readsWhole {fd : ℤ} {phase : Phase} (wellFormed : phase.WellFormed)
    {events : List Event} (hrun : LabelledRun.run step (installed fd phase) events = some r) :
    LabelledRun.Along step (fun r => r.aborted = none) (installed fd phase) events ↔
      LabelledRun.Guarded step ReadsWhole (installed fd phase) events :=
  LabelledRun.along_iff_guarded (I := Running)
    (fun _ _ _ running whole h => running_step running whole h)
    (fun _ running => running.2)
    (fun _ _ _ running h alive => readsWhole_of_step running h alive)
    ⟨wellFormed, rfl⟩ hrun

/-- "2hi" arrives in two parts, between which the loop runs idle. -/
theorem alive_iff_readsWhole_split_frame : ∃ r,
    LabelledRun.run step (installed 5 .header)
      [.read false, .read false, .arrive [50], .read false, .arrive [104, 105], .read false] =
      some r ∧
    LabelledRun.Along step (fun r => r.aborted = none) (installed 5 .header)
      [.read false, .read false, .arrive [50], .read false, .arrive [104, 105], .read false] := by
  have runs : (LabelledRun.run step (installed 5 .header)
      [.read false, .read false, .arrive [50], .read false, .arrive [104, 105],
        .read false]).isSome := by decide +kernel
  obtain ⟨r, hr⟩ := Option.isSome_iff_exists.mp runs
  have wellFormed : Phase.header.WellFormed := trivial
  exact ⟨r, hr, (alive_iff_readsWhole wellFormed hr).mpr (by decide +kernel)⟩

/-- A peer that closes, and a peer that sends "9" and one more byte, stop the process. -/
theorem peer_aborts :
    (LabelledRun.run step (installed 5 .header) [.hangUp, .read false]).map Receiver.aborted =
      some (some .readData) ∧
    (LabelledRun.run step (installed 5 .header)
      [.arrive [57, 120], .read false, .read false]).map Receiver.aborted =
      some (some .readData) := by
  decide +kernel

end Receiver

end BluezTutorial
