import BluezTutorial.Ownership
import BluezTutorial.ReceiveLoop
import Mathlib.Logic.Function.Basic

/-! The loop of Profile/main.cpp beside the listening thread. `main` reads from the
Socket it has given to `startListening`, and the handlers replace or close what is
in that Socket between any two reads. Which connection a read goes to is decided
by the descriptor table at that moment. Calls to `readData` and handlers are
atomic here; arrivals and closes by the peers happen at any time. -/

namespace BluezTutorial.SharedSocket
open LabelledRun Ownership

/-- An iteration of the loop, with what its two reads were made on. -/
structure SourcedFrame where
  frame : Frame
  headerFrom : Option Owner
  bodyFrom : Option Owner
deriving DecidableEq, Repr

/-- `headerFrom` is what the latest header read was made on. -/
structure Shared where
  world : World
  streams : Owner → ByteStream UInt8
  phase : Phase
  headerFrom : Option Owner
  frames : List SourcedFrame
  aborted : Option Abort

inductive Event where
  | callback (call : Callback)
  | arrive (owner : Owner) (bytes : List UInt8)
  | hangUp (owner : Owner)
  | read (interrupted : Bool)

/-- What the number stands for; a negative number is never a descriptor. -/
def source (descriptors : HandleTable Owner) (fd : ℤ) : Option Owner :=
  if fd < 0 then none else descriptors.target fd

/-- `read` of the kernel: EBADF, or the stream behind the number. -/
def kernelRead (descriptors : HandleTable Owner) (interrupted : Bool)
    (streams : Owner → ByteStream UInt8) (fd : ℤ) (count : ℕ) :
    Option (List UInt8) × (Owner → ByteStream UInt8) :=
  match source descriptors fd with
  | none => (none, streams)
  | some owner =>
      let (answer, stream) := (streams owner).read interrupted count
      (answer, Function.update streams owner stream)

namespace Shared

def record (s : Shared) (readFrom : Option Owner) (outcome : Phase × Option Frame)
    (streams : Owner → ByteStream UInt8) : Shared :=
  { s with
    streams := streams
    phase := outcome.1
    headerFrom := if outcome.2.isSome then s.headerFrom else readFrom
    frames := s.frames ++ outcome.2.toList.map fun frame => ⟨frame, s.headerFrom, readFrom⟩ }

def resume (s : Shared) (readFrom : Option Owner) :
    Except Abort ((Phase × Option Frame) × (Owner → ByteStream UInt8)) → Shared
  | .ok (outcome, streams) => s.record readFrom outcome streams
  | .error abort => { s with aborted := some abort }

def step (s : Shared) (event : Event) : Option Shared :=
  if s.aborted.isSome then none
  else match event with
    | .callback call =>
        ((Op.dispatch call).step s.world).map fun world => { s with world := world }
    | .arrive owner bytes =>
        if (s.streams owner).closed then none
        else some { s with
          streams := Function.update s.streams owner ((s.streams owner).arrive bytes) }
    | .hangUp owner =>
        some { s with streams := Function.update s.streams owner (s.streams owner).hangUp }
    | .read interrupted =>
        s.world.pSocket.map fun socket =>
          s.resume (source s.world.descriptors socket.fd)
            (s.phase.readNext (kernelRead s.world.descriptors interrupted) socket s.streams)

/-- A Listener has been started with the Socket of `main` and the loop is entered. -/
def start (world : World) : Shared where
  world := world
  streams := fun _ => .empty
  phase := .header
  headerFrom := none
  frames := []
  aborted := none

end Shared

/-- In every iteration whose two reads succeeded, the second for at least one byte,
both were made on one and the same delivery. -/
def Unmixed (s : Shared) : Prop :=
  ∀ sourced ∈ s.frames, sourced.frame.Succeeded → announced sourced.frame.headerStr ≠ 0 →
    ∃ i, sourced.headerFrom = some (.delivered i) ∧ sourced.bodyFrom = some (.delivered i)

/-- The guard of a step: no NewConnection is handled between a header that announces
a body and the read of that body. -/
def KeepsConnection (s : Shared) : Event → Prop
  | .callback (.newConnection _ _) => ¬ s.phase.Announcing
  | _ => True

instance (s : Shared) : (event : Event) → Decidable (KeepsConnection s event)
  | .callback (.newConnection _ _) => inferInstanceAs (Decidable (¬ s.phase.Announcing))
  | .callback (.requestDisconnection _) => isTrue trivial
  | .callback .release => isTrue trivial
  | .arrive _ _ => isTrue trivial
  | .hangUp _ => isTrue trivial
  | .read _ => isTrue trivial

/-- Behind an announcing header the Socket holds what the header was read from, or
nothing. -/
structure Invariant (s : Shared) : Prop where
  coherent : Coherent s.world
  owned : Owned s.world.holding
  wellFormed : s.phase.WellFormed
  unmixed : Unmixed s
  announcing : s.phase.Announcing → ∃ i, s.headerFrom = some (.delivered i) ∧
    ∀ socket, s.world.pSocket = some socket →
      socket.fd = -1 ∨ s.world.descriptors.target socket.fd = some (.delivered i)

section KernelRead

variable {descriptors : HandleTable Owner} {interrupted : Bool}
  {streams : Owner → ByteStream UInt8} {fd : ℤ} {count : ℕ} {bytes : List UInt8}

theorem kernelRead_of_source {owner : Owner} (h : source descriptors fd = some owner) :
    kernelRead descriptors interrupted streams fd count =
      (((streams owner).read interrupted count).1,
        Function.update streams owner ((streams owner).read interrupted count).2) := by
  simp [kernelRead, h]

theorem kernelRead_eq_some (h : (kernelRead descriptors interrupted streams fd count).1 =
    some bytes) : bytes.length ≤ count ∧ ∃ owner, source descriptors fd = some owner := by
  cases found : source descriptors fd with
  | none => simp [kernelRead, found] at h
  | some owner =>
      rw [kernelRead_of_source found] at h
      exact ⟨ByteStream.read_length_le h, owner, rfl⟩

theorem source_eq_some {owner : Owner} (h : source descriptors fd = some owner) :
    fd ≠ -1 ∧ descriptors.target fd = some owner := by
  unfold source at h
  split at h
  · cases h
  · exact ⟨by omega, h⟩

end KernelRead

section Steps

variable {s s' : Shared}

/-- A read that is answered goes to the delivery that the Socket holds. -/
theorem Invariant.source_eq (invariant : Invariant s) {socket : Socket}
    (held : s.world.pSocket = some socket) {owner : Owner}
    (found : source s.world.descriptors socket.fd = some owner) :
    ∃ i, owner = .delivered i := by
  obtain ⟨taken, target⟩ := source_eq_some found
  obtain ⟨i, delivery, holds, _⟩ := invariant.owned.held socket held taken
  have delivered := (invariant.owned.fd_of_holds holds held).2
  refine ⟨i, ?_⟩
  simpa [World.holding, target] using delivered

theorem invariant_callback (invariant : Invariant s) {call : Callback}
    (guard : KeepsConnection s (.callback call)) {world : World}
    (h : (Op.dispatch call).step s.world = some world) :
    Invariant { s with world := world } := by
  obtain ⟨coherent, owned⟩ := step_owned ⟨invariant.coherent, invariant.owned⟩ h
  refine ⟨coherent, owned, invariant.wellFormed, invariant.unmixed, fun announcing => ?_⟩
  obtain ⟨_, rfl⟩ | ⟨_, device, answer, _, _, rfl, _⟩ | ⟨_, _, socket, held, rfl⟩ :=
    Op.step_dispatch h
  · exact invariant.announcing announcing
  · exact absurd announcing guard
  · obtain ⟨i, headerFrom, _⟩ := invariant.announcing announcing
    exact ⟨i, headerFrom, fun closed hclosed =>
      .inl (idle_cleared s.world.holding socket closed hclosed)⟩

/-- The header read notes the delivery that the Socket holds at that moment. -/
theorem invariant_header (invariant : Invariant s) {socket : Socket}
    (held : s.world.pSocket = some socket) {status : ReadStatus} {data : List UInt8}
    {streams : Owner → ByteStream UInt8} (header : s.phase = .header)
    (wellFormed : (s.phase.next status data).1.WellFormed)
    (answered : status ≠ .readFailed →
      ∃ owner, source s.world.descriptors socket.fd = some owner) :
    Invariant (s.record (source s.world.descriptors socket.fd)
      (s.phase.next status data) streams) := by
  rw [header] at wellFormed ⊢
  refine ⟨invariant.coherent, invariant.owned, wellFormed, ?_, ?_⟩
  · intro sourced mem
    refine invariant.unmixed sourced ?_
    simpa [Shared.record, Phase.next] using mem
  · rintro ⟨succeeded, _⟩
    obtain ⟨owner, found⟩ := answered succeeded
    obtain ⟨i, rfl⟩ := invariant.source_eq held found
    refine ⟨i, ?_, fun other hother => .inr ?_⟩
    · simp [Shared.record, Phase.next, found]
    · obtain rfl : socket = other := by
        have same : s.world.pSocket = some other := hother
        simpa [held] using same
      exact (source_eq_some found).2

/-- The body read is made on what the header was read from, or fails. -/
theorem invariant_body (invariant : Invariant s) {socket : Socket}
    (held : s.world.pSocket = some socket) {status headerStatus : ReadStatus}
    {data headerStr : List UInt8} {streams : Owner → ByteStream UInt8}
    (body : s.phase = .body headerStatus headerStr)
    (answered : status ≠ .readFailed →
      ∃ owner, source s.world.descriptors socket.fd = some owner) :
    Invariant (s.record (source s.world.descriptors socket.fd)
      (s.phase.next status data) streams) := by
  have announcing := invariant.announcing
  rw [body] at announcing ⊢
  refine ⟨invariant.coherent, invariant.owned, trivial, ?_, ?_⟩
  · intro sourced mem succeeded announces
    simp only [Shared.record, Phase.next, Option.toList_some, List.map_cons, List.map_nil,
      List.mem_append, List.mem_singleton] at mem
    cases mem with
    | inl earlier => exact invariant.unmixed sourced earlier succeeded announces
    | inr now =>
        rw [now] at succeeded announces ⊢
        obtain ⟨i, headerFrom, holds⟩ :=
          announcing ⟨succeeded.1, announces⟩
        obtain ⟨owner, found⟩ := answered succeeded.2
        obtain ⟨taken, target⟩ := source_eq_some found
        refine ⟨i, headerFrom, ?_⟩
        cases holds socket held with
        | inl free => exact absurd free taken
        | inr same =>
            rw [target] at same
            rw [found, same]
  · exact False.elim

theorem invariant_read (invariant : Invariant s) {interrupted : Bool}
    (h : s.step (.read interrupted) = some s') : Invariant s' := by
  unfold Shared.step at h
  split at h
  · cases h
  · obtain ⟨socket, held, rfl⟩ := Option.map_eq_some_iff.mp h
    have outcome := Phase.readNext_cases (kernelRead s.world.descriptors interrupted) socket
      s.streams invariant.wellFormed (fun bytes got => (kernelRead_eq_some got).1)
    obtain stops | ⟨status, data, goes, size, untouched, got⟩ := outcome
    · rw [stops]
      exact ⟨invariant.coherent, invariant.owned, invariant.wellFormed, invariant.unmixed,
        invariant.announcing⟩
    · rw [goes]
      have answered : status ≠ .readFailed →
          ∃ owner, source s.world.descriptors socket.fd = some owner :=
        fun succeeded => (kernelRead_eq_some (got succeeded)).2
      cases phase : s.phase with
      | header =>
          have wellFormed := Phase.wellFormed_next size untouched
          rw [← phase]
          exact invariant_header invariant held phase wellFormed answered
      | body headerStatus headerStr =>
          rw [← phase]
          exact invariant_body invariant held phase answered

theorem invariant_step (invariant : Invariant s) {event : Event}
    (guard : KeepsConnection s event) (h : s.step event = some s') : Invariant s' := by
  cases event with
  | read interrupted => exact invariant_read invariant h
  | callback call =>
      unfold Shared.step at h
      split at h
      · cases h
      · obtain ⟨world, hworld, rfl⟩ := Option.map_eq_some_iff.mp h
        exact invariant_callback invariant guard hworld
  | arrive owner bytes =>
      unfold Shared.step at h
      split at h
      · cases h
      · simp only [Option.ite_none_left_eq_some, Option.some.injEq] at h
        rw [← h.2]
        exact ⟨invariant.coherent, invariant.owned, invariant.wellFormed, invariant.unmixed,
          invariant.announcing⟩
  | hangUp owner =>
      unfold Shared.step at h
      split at h
      · cases h
      · simp only [Option.some.injEq] at h
        rw [← h]
        exact ⟨invariant.coherent, invariant.owned, invariant.wellFormed, invariant.unmixed,
          invariant.announcing⟩

end Steps

section OneConnection

/-- The loop and the connection behind `owner`, without the Listener. -/
def Shared.receiver (s : Shared) (socket : Socket) (owner : Owner) : Receiver where
  socket := socket
  stream := s.streams owner
  phase := s.phase
  frames := s.frames.map SourcedFrame.frame
  aborted := s.aborted

def Event.ofReceiver (owner : Owner) : Receiver.Event → Event
  | .arrive bytes => .arrive owner bytes
  | .hangUp => .hangUp owner
  | .read interrupted => .read interrupted

/-- The Socket of `main` holds the connection. -/
def Connected (socket : Socket) (owner : Owner) (s : Shared) : Prop :=
  s.world.pSocket = some socket ∧ source s.world.descriptors socket.fd = some owner

variable {s s' : Shared} {socket : Socket} {owner : Owner}

theorem receiver_step (connected : Connected socket owner s) (event : Receiver.Event) :
    (s.step (.ofReceiver owner event)).map (·.receiver socket owner) =
      (s.receiver socket owner).step event := by
  cases stopped : s.aborted.isSome with
  | true => simp [Shared.step, Receiver.step, Shared.receiver, stopped]
  | false =>
      cases event with
      | arrive bytes =>
          cases closed : (s.streams owner).closed <;>
            simp [Event.ofReceiver, Shared.step, Receiver.step, Shared.receiver, stopped, closed]
      | hangUp => simp [Event.ofReceiver, Shared.step, Receiver.step, Shared.receiver, stopped]
      | read interrupted =>
          have next := Phase.readNext_view (kernelRead s.world.descriptors interrupted) socket
            s.streams s.phase (fun stream _ count => stream.read interrupted count)
            (s.streams owner) (fun streams => streams owner) (by
              intro count
              simp [kernelRead_of_source connected.2])
          simp only [Event.ofReceiver, Shared.step, Receiver.step, Shared.receiver, stopped,
            Bool.false_eq_true, if_false, connected.1, Option.map_some, Option.some.injEq, next]
          cases s.phase.readNext (kernelRead s.world.descriptors interrupted) socket s.streams with
          | error abort => rfl
          | ok result =>
              simp [Except.map, Shared.resume, Receiver.resume, Shared.record, Receiver.advance,
                Function.comp_def]

theorem connected_step (connected : Connected socket owner s) (event : Receiver.Event)
    (h : s.step (.ofReceiver owner event) = some s') : Connected socket owner s' := by
  have same : s'.world = s.world := by
    unfold Shared.step at h
    split at h
    · cases h
    · cases event with
      | arrive bytes =>
          simp only [Event.ofReceiver, Option.ite_none_left_eq_some, Option.some.injEq] at h
          rw [← h.2]
      | hangUp =>
          simp only [Event.ofReceiver, Option.some.injEq] at h
          rw [← h]
      | read interrupted =>
          obtain ⟨socket, _, rfl⟩ := Option.map_eq_some_iff.mp h
          cases s.phase.readNext (kernelRead s.world.descriptors interrupted) socket s.streams <;>
            rfl
  rw [Connected, same]
  exact connected

/-- While no handler runs, the loop on the connection that its Socket holds is the
receiver of ReceiveLoop.lean: what is proved there of one connection holds of the
loop beside the listening thread. -/
theorem receiver_run (connected : Connected socket owner s) (events : List Receiver.Event) :
    (run Shared.step s (events.map (.ofReceiver owner))).map (·.receiver socket owner) =
      run Receiver.step (s.receiver socket owner) events :=
  run_view (I := Connected socket owner) _ _
    (fun _ event _ connected h => connected_step connected event h)
    (fun _ event connected => receiver_step connected event) connected events

end OneConnection

section Runs

variable {busGet : Bool} {openNumbers : ℤ → Bool} {answer : RegisterAnswer} {w w₀ : World}
  {events : List Event}

theorem invariant_start (constructed : construct busGet openNumbers = .ok w)
    (started : startListening answer (Socket.ofFd (-1)) w = .ok w₀) :
    Invariant (Shared.start w₀) := by
  obtain ⟨_, rfl⟩ := construct_eq_ok.mp constructed
  have step : (Op.start answer).step (World.constructed openNumbers) = some w₀ :=
    Op.step_eq_some.mpr ⟨rfl, started⟩
  obtain ⟨coherent, owned⟩ :=
    step_owned ⟨coherent_constructed openNumbers, owned_constructed openNumbers⟩ step
  exact ⟨coherent, owned, trivial, by simp [Unmixed, Shared.start], False.elim⟩

/-- If no NewConnection is handled between a header that announces a body and the read
of that body, then under every interleaving and whatever the peers send, no
iteration of the loop takes its header and its body from two connections. -/
theorem frames_unmixed (constructed : construct busGet openNumbers = .ok w)
    (started : startListening answer (Socket.ofFd (-1)) w = .ok w₀)
    (guarded : Guarded Shared.step KeepsConnection (Shared.start w₀) events) :
    Along Shared.step Unmixed (Shared.start w₀) events :=
  along_of_guarded (I := Invariant)
    (fun _ _ _ invariant guard h => invariant_step invariant guard h)
    (fun _ invariant => invariant.unmixed)
    (invariant_start constructed started) guarded

/-- The second device connects at the top of the loop. -/
theorem frames_unmixed_between_iterations :
    Along Shared.step Unmixed (Shared.start World.listening)
      [.callback (.newConnection "/org/bluez/hci0/dev_A" (.good 5)),
        .arrive (.delivered 0) [49, 97], .read false, .read false,
        .callback (.newConnection "/org/bluez/hci0/dev_B" (.good 6)),
        .arrive (.delivered 1) [49, 98], .read false, .read false] := by
  have constructed : construct true (fun n => n < 3) = .ok (World.constructed fun n => n < 3) := rfl
  have started : startListening ⟨true, true, true⟩ (Socket.ofFd (-1))
      (World.constructed fun n => n < 3) = .ok World.listening := rfl
  exact frames_unmixed constructed started (by decide +kernel)

/-- The second device connects behind the header of the first, and its byte becomes
the body. -/
theorem body_from_second_device : ∃ s,
    run Shared.step (Shared.start World.listening)
      [.callback (.newConnection "/org/bluez/hci0/dev_A" (.good 5)),
        .arrive (.delivered 0) [49, 97], .read false,
        .callback (.newConnection "/org/bluez/hci0/dev_B" (.good 6)),
        .arrive (.delivered 1) [49, 98], .read false] = some s ∧
    s.frames = [⟨⟨.readOK, [49], .readOK, [49]⟩, some (.delivered 0), some (.delivered 1)⟩] ∧
    ¬ Unmixed s := by
  have runs : (run Shared.step (Shared.start World.listening)
      [.callback (.newConnection "/org/bluez/hci0/dev_A" (.good 5)),
        .arrive (.delivered 0) [49, 97], .read false,
        .callback (.newConnection "/org/bluez/hci0/dev_B" (.good 6)),
        .arrive (.delivered 1) [49, 98], .read false]).map Shared.frames =
      some [⟨⟨.readOK, [49], .readOK, [49]⟩, some (.delivered 0), some (.delivered 1)⟩] := by
    decide +kernel
  obtain ⟨s, hs, frames⟩ := Option.map_eq_some_iff.mp runs
  refine ⟨s, hs, frames, fun unmixed => ?_⟩
  obtain ⟨i, header, body⟩ := unmixed _ (by rw [frames]; exact List.mem_singleton.mpr rfl)
    (by decide) (by decide +kernel)
  simp only [Option.some.injEq, Owner.delivered.injEq] at header body
  omega

end Runs

end BluezTutorial.SharedSocket
