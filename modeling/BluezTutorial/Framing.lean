import BluezTutorial.ReceiveLoop

/-! A sender that puts a decimal digit in front of each payload, and the loop of
Profile/main.cpp at the other end. The bytes reach the receiver in order, any
number of them between two reads. The loop goes on to the body read whether or
not the header was read, and to the next header whether or not the body was, so
it stays in step with the sender only while no body read comes too early. -/

namespace BluezTutorial.Framing
open LabelledRun

def enc (payload : List UInt8) : List UInt8 := CString.digit payload.length :: payload

def encode (payloads : List (List UInt8)) : List UInt8 := payloads.flatMap enc

/-- The receiver and the bytes that have not yet reached it. -/
structure Transmission where
  receiver : Receiver
  unsent : List UInt8

/-- Further bytes arrive, or the loop makes its next read. -/
inductive Move where
  | arrive (count : ℕ)
  | read
deriving DecidableEq, Repr

/-- The sender starts on a connection installed while the loop is at `phase`. -/
def start (fd : ℤ) (phase : Phase) (payloads : List (List UInt8)) : Transmission where
  receiver := .installed fd phase
  unsent := encode payloads

def step (t : Transmission) : Move → Option Transmission
  | .arrive count =>
      (t.receiver.step (.arrive (t.unsent.take count))).map
        fun receiver => ⟨receiver, t.unsent.drop count⟩
  | .read => (t.receiver.step (.read false)).map fun receiver => ⟨receiver, t.unsent⟩

/-- The bodies of the iterations in which both reads succeeded. -/
def bodies (frames : List Frame) : List (List UInt8) :=
  (frames.filter fun frame => frame.Succeeded).map Frame.body

/-- At the top of the loop, or behind a header read that failed. -/
def Fresh (phase : Phase) : Prop := phase = .header ∨ phase = .body .readFailed [0]

/-- The guard of a step: behind a header that announces a body, the read of that body
finds at least one byte of it. -/
def BodyHasArrived (t : Transmission) : Move → Prop
  | .arrive _ => True
  | .read => t.receiver.phase.Announcing → t.receiver.stream.arrived ≠ []

instance (t : Transmission) : (move : Move) → Decidable (BodyHasArrived t move)
  | .arrive _ => isTrue trivial
  | .read =>
      inferInstanceAs (Decidable (t.receiver.phase.Announcing → t.receiver.stream.arrived ≠ []))

/-- The header byte that was read and whose body was not. -/
def pending : Phase → List UInt8
  | .header => []
  | .body headerStatus headerStr => if headerStatus = .readFailed then [] else headerStr

/-- What was read of the current frame, what has arrived and what is still to come
make up the frames that follow the bodies obtained so far. -/
structure Aligned (payloads : List (List UInt8)) (t : Transmission) : Prop where
  running : t.receiver.Running
  opened : t.receiver.stream.closed = false
  aligned : ∃ rest, payloads = bodies t.receiver.frames ++ rest ∧
    pending t.receiver.phase ++ t.receiver.stream.arrived ++ t.unsent = encode rest

/-- Aligned, or stopped with what it had. -/
def Invariant (payloads : List (List UInt8)) (t : Transmission) : Prop :=
  Aligned payloads t ∨
    (t.receiver.aborted.isSome = true ∧ bodies t.receiver.frames <+: payloads)

theorem bodies_append (front back : List Frame) :
    bodies (front ++ back) = bodies front ++ bodies back := by
  simp [bodies]

theorem Aligned.isPrefix {payloads : List (List UInt8)} {t : Transmission}
    (aligned : Aligned payloads t) : bodies t.receiver.frames <+: payloads := by
  obtain ⟨rest, split, _⟩ := aligned.aligned
  exact ⟨rest, split.symm⟩

theorem Invariant.isPrefix {payloads : List (List UInt8)} {t : Transmission}
    (h : Invariant payloads t) : bodies t.receiver.frames <+: payloads := by
  cases h with
  | inl aligned => exact aligned.isPrefix
  | inr stopped => exact stopped.2

section Steps

variable {payloads : List (List UInt8)} {t t' : Transmission}

theorem step_read_of {r : Receiver} (h : t.receiver.step (.read false) = some r) :
    step t .read = some ⟨r, t.unsent⟩ := by
  simp [step, h]

/-- The reads that keep the loop in step: the bytes they take are accounted for by
the new phase or by the body they finish. -/
theorem aligned_advance (aligned : Aligned payloads t) {outcome : Phase × Option Frame}
    {stream : ByteStream UInt8} {rest : List (List UInt8)} (wellFormed : outcome.1.WellFormed)
    (opened : stream.closed = false)
    (split : payloads = bodies t.receiver.frames ++ (bodies outcome.2.toList ++ rest))
    (bytes : pending outcome.1 ++ stream.arrived ++ t.unsent = encode rest) :
    Aligned payloads ⟨t.receiver.advance outcome stream, t.unsent⟩ where
  running := ⟨wellFormed, aligned.running.2⟩
  opened := opened
  aligned := by
    refine ⟨rest, ?_, bytes⟩
    simp only [Receiver.advance, bodies_append, List.append_assoc]
    exact split

theorem aligned_arrive (aligned : Aligned payloads t) {count : ℕ}
    (h : step t (.arrive count) = some t') : Aligned payloads t' := by
  obtain ⟨rest, split, bytes⟩ := aligned.aligned
  have arrives : t.receiver.step (.arrive (t.unsent.take count)) =
      some { t.receiver with stream := t.receiver.stream.arrive (t.unsent.take count) } := by
    simp [Receiver.step, aligned.running.2, aligned.opened]
  rw [step, arrives, Option.map_some, Option.some.injEq] at h
  rw [← h]
  refine ⟨aligned.running, aligned.opened, rest, split, ?_⟩
  simpa [ByteStream.arrive] using bytes

/-- A header is read, or nothing is: either way no byte is lost. -/
theorem aligned_header (aligned : Aligned payloads t) (header : t.receiver.phase = .header) :
    ∃ t', step t .read = some t' ∧ Aligned payloads t' := by
  obtain ⟨rest, split, bytes⟩ := aligned.aligned
  rw [header] at bytes
  cases arrived : t.receiver.stream.arrived with
  | nil =>
      have read := Receiver.step_read_of_empty aligned.running arrived aligned.opened
        (by simp [header])
      rw [header] at read
      exact ⟨_, step_read_of read,
        aligned_advance aligned ⟨rfl, fun _ => rfl⟩ aligned.opened split bytes⟩
  | cons c others =>
      have read := Receiver.step_read_of_arrived aligned.running (by simp [header, arrived])
      rw [header, arrived] at read
      rw [arrived] at bytes
      exact ⟨_, step_read_of read,
        aligned_advance aligned ⟨rfl, nofun⟩ aligned.opened split bytes⟩

/-- Behind a header that was not read, the loop asks for no byte and keeps no body. -/
theorem aligned_skipped (aligned : Aligned payloads t)
    (skipped : t.receiver.phase = .body .readFailed [0]) :
    ∃ t', step t .read = some t' ∧ Aligned payloads t' := by
  obtain ⟨rest, split, bytes⟩ := aligned.aligned
  have zero : t.receiver.phase.requested = 0 := by
    rw [skipped, Phase.requested_body]
    decide
  have read := Receiver.step_read_of_arrived aligned.running (by omega)
  rw [zero, skipped] at read
  rw [skipped] at bytes
  exact ⟨_, step_read_of read, aligned_advance aligned trivial aligned.opened split bytes⟩

/-- Behind a header that was read, the bytes that follow it are the next payload, and
the header announces its length. -/
theorem Aligned.payload (small : ∀ payload ∈ payloads, payload.length ≤ 9)
    (aligned : Aligned payloads t) {headerStatus : ReadStatus} {headerStr : List UInt8}
    (body : t.receiver.phase = .body headerStatus headerStr)
    (succeeded : headerStatus ≠ .readFailed) :
    ∃ payload rest, payloads = bodies t.receiver.frames ++ payload :: rest ∧
      announced headerStr = payload.length ∧
      t.receiver.stream.arrived ++ t.unsent = payload ++ encode rest := by
  obtain ⟨rest, split, bytes⟩ := aligned.aligned
  have wellFormed := aligned.running.1
  rw [body] at wellFormed
  obtain ⟨c, rfl⟩ := List.length_eq_one_iff.mp wellFormed.1
  rw [body, pending, if_neg succeeded] at bytes
  cases rest with
  | nil => simp [encode] at bytes
  | cons payload rest =>
      have short : payload.length ≤ 9 := small payload (by simp [split])
      simp only [encode, enc, List.flatMap_cons, List.cons_append, List.nil_append,
        List.cons.injEq] at bytes
      obtain ⟨rfl, bytes⟩ := bytes
      refine ⟨payload, rest, split, ?_, bytes⟩
      rw [announced, CString.atoi_digit short, Int.toNat_natCast]

/-- Behind a header that was read, the body that has arrived is the next payload; a
body that has arrived in part stops the process. -/
theorem invariant_body (small : ∀ payload ∈ payloads, payload.length ≤ 9)
    (aligned : Aligned payloads t) {headerStatus : ReadStatus} {headerStr : List UInt8}
    (body : t.receiver.phase = .body headerStatus headerStr)
    (succeeded : headerStatus ≠ .readFailed)
    (started : t.receiver.phase.Announcing → t.receiver.stream.arrived ≠ []) :
    ∃ t', step t .read = some t' ∧ Invariant payloads t' := by
  obtain ⟨payload, rest, split, size, bytes⟩ := aligned.payload small body succeeded
  have asked : t.receiver.phase.requested = payload.length := by
    rw [body, Phase.requested_body, size]
  by_cases whole : payload.length ≤ t.receiver.stream.arrived.length
  · have read := Receiver.step_read_of_arrived aligned.running (by omega)
    have taken : t.receiver.stream.arrived.take payload.length = payload := by
      rw [← List.take_append_of_le_length whole, bytes, List.take_left]
    have left : t.receiver.stream.arrived.drop payload.length ++ t.unsent = encode rest := by
      rw [← List.drop_append_of_le_length whole, bytes, List.drop_left]
    rw [asked, taken, body] at read
    have kept : ∀ bodyStatus, bodyStatus ≠ .readFailed →
        bodies [⟨headerStatus, headerStr, bodyStatus, payload⟩] = [payload] := by
      intro bodyStatus obtained
      simp [bodies, Frame.Succeeded, succeeded, obtained]
    refine ⟨_, step_read_of read, .inl (aligned_advance aligned trivial aligned.opened ?_ left)⟩
    rw [Phase.next, Option.toList_some, kept _ (by split <;> simp)]
    exact split
  · have something : t.receiver.stream.arrived ≠ [] := by
      apply started
      rw [body]
      exact ⟨succeeded, by omega⟩
    have read := Receiver.step_read_of_short aligned.running something (by omega)
    exact ⟨_, step_read_of read, .inr ⟨rfl, aligned.isPrefix⟩⟩

theorem invariant_step (small : ∀ payload ∈ payloads, payload.length ≤ 9)
    (invariant : Invariant payloads t) {move : Move} (guard : BodyHasArrived t move)
    (h : step t move = some t') : Invariant payloads t' := by
  cases invariant with
  | inr stopped =>
      have stuck : ∀ event, t.receiver.step event = none := by
        simp [Receiver.step, stopped.1]
      cases move <;> simp [step, stuck] at h
  | inl aligned =>
      cases move with
      | arrive count => exact .inl (aligned_arrive aligned h)
      | read =>
          have reached : ∃ t', step t .read = some t' ∧ Invariant payloads t' := by
            cases phase : t.receiver.phase with
            | header =>
                obtain ⟨t', ht', aligned'⟩ := aligned_header aligned phase
                exact ⟨t', ht', .inl aligned'⟩
            | body headerStatus headerStr =>
                by_cases failed : headerStatus = .readFailed
                · have wellFormed := aligned.running.1
                  rw [phase] at wellFormed
                  rw [failed, wellFormed.2 failed] at phase
                  obtain ⟨t', ht', aligned'⟩ := aligned_skipped aligned phase
                  exact ⟨t', ht', .inl aligned'⟩
                · exact invariant_body small aligned phase failed guard
          obtain ⟨u, hu, invariant⟩ := reached
          obtain rfl : u = t' := by simpa [hu] using h
          exact invariant

end Steps

section Runs

variable {fd : ℤ} {phase : Phase} {payloads : List (List UInt8)} {moves : List Move}

theorem aligned_start (fresh : Fresh phase) : Aligned payloads (start fd phase payloads) := by
  have wellFormed : phase.WellFormed := by
    rcases fresh with rfl | rfl
    · trivial
    · exact ⟨rfl, fun _ => rfl⟩
  have nothing : pending phase = [] := by
    rcases fresh with rfl | rfl <;> rfl
  refine ⟨⟨wellFormed, rfl⟩, rfl, payloads, rfl, ?_⟩
  change pending phase ++ [] ++ encode payloads = encode payloads
  simp [nothing]

/-- If no body read comes before the first byte of its body, then whatever the
schedule the bodies obtained are the first payloads sent, in order, in every state
of the run. -/
theorem bodies_isPrefix (small : ∀ payload ∈ payloads, payload.length ≤ 9) (fresh : Fresh phase)
    (guarded : Guarded step BodyHasArrived (start fd phase payloads) moves) :
    Along step (fun t => bodies t.receiver.frames <+: payloads)
      (start fd phase payloads) moves :=
  along_of_guarded (I := Invariant payloads)
    (fun _ _ _ invariant guard h => invariant_step small invariant guard h)
    (fun _ invariant => invariant.isPrefix)
    (.inl (aligned_start fresh)) guarded

/-- "hi", nothing and "x" are sent. The first header arrives alone, behind an idle
iteration of the loop, and everything else before its body is read. -/
theorem bodies_isPrefix_split_header :
    Guarded step BodyHasArrived (start 5 .header [[104, 105], [], [120]])
      [.read, .read, .arrive 1, .read, .arrive 5, .read, .read, .read, .read, .read] ∧
    Along step (fun t => bodies t.receiver.frames <+: [[104, 105], [], [120]])
      (start 5 .header [[104, 105], [], [120]])
      [.read, .read, .arrive 1, .read, .arrive 5, .read, .read, .read, .read, .read] ∧
    (run step (start 5 .header [[104, 105], [], [120]])
      [.read, .read, .arrive 1, .read, .arrive 5, .read, .read, .read, .read, .read]).map
      (fun t => bodies t.receiver.frames) = some [[104, 105], [], [120]] := by
  have guarded : Guarded step BodyHasArrived (start 5 .header [[104, 105], [], [120]])
      [.read, .read, .arrive 1, .read, .arrive 5, .read, .read, .read, .read, .read] := by
    decide +kernel
  exact ⟨guarded, bodies_isPrefix (by simp) (.inl rfl) guarded, by decide +kernel⟩

/-- "1x" is sent and its header arrives first. The body read comes too early, its
first byte is taken for a header, and the loop obtains "x". -/
theorem early_body_read_misframes :
    (run step (start 5 .header [[49, 120]])
      [.arrive 1, .read, .read, .arrive 2, .read, .read]).map
      (fun t => (t.receiver.aborted, bodies t.receiver.frames)) = some (none, [[120]]) ∧
    ¬ [[120]] <+: [[49, (120 : UInt8)]] := by
  decide +kernel

end Runs

end BluezTutorial.Framing
