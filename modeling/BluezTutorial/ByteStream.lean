import Mathlib.Data.List.Basic

/-! The receiving end of a non-blocking stream. Symbols that have arrived wait in
order; a read takes at most as many as were asked for and never waits. It answers
`none` (the -1 of the system call) when nothing has arrived, and no symbols at all
once the sender has closed and everything was taken. A read may also be
interrupted, in which case it answers `none` and takes nothing. -/

namespace BluezTutorial

structure ByteStream (β : Type*) where
  arrived : List β
  closed : Bool
deriving DecidableEq, Repr

namespace ByteStream

variable {β : Type*} {stream : ByteStream β} {interrupted : Bool} {count : Nat}

def empty : ByteStream β := ⟨[], false⟩

def arrive (stream : ByteStream β) (symbols : List β) : ByteStream β :=
  { stream with arrived := stream.arrived ++ symbols }

def hangUp (stream : ByteStream β) : ByteStream β :=
  { stream with closed := true }

def read (stream : ByteStream β) (interrupted : Bool) (count : Nat) :
    Option (List β) × ByteStream β :=
  if interrupted then (none, stream)
  else if count = 0 then (some [], stream)
  else match stream.arrived with
    | [] => (if stream.closed then some [] else none, stream)
    | first :: rest =>
      (some ((first :: rest).take count), { stream with arrived := (first :: rest).drop count })

/-- The read gets everything it asked for, or nothing because it would have to
wait: the sender has not cut it short and has not gone away. -/
def Whole (stream : ByteStream β) (interrupted : Bool) (count : Nat) : Prop :=
  interrupted = true ∨ count ≤ stream.arrived.length ∨
    (stream.arrived = [] ∧ stream.closed = false)

instance [DecidableEq β] (stream : ByteStream β) (interrupted : Bool) (count : Nat) :
    Decidable (stream.Whole interrupted count) :=
  inferInstanceAs (Decidable (_ ∨ _ ∨ (_ ∧ _)))

theorem read_of_arrived (enough : count ≤ stream.arrived.length) :
    stream.read false count =
      (some (stream.arrived.take count), { stream with arrived := stream.arrived.drop count }) := by
  by_cases zero : count = 0
  · simp [read, zero]
  · cases arrived : stream.arrived with
    | nil =>
        rw [arrived] at enough
        simp at enough
        exact absurd enough zero
    | cons first rest => simp [read, zero, arrived]

theorem read_of_empty (nothing : stream.arrived = []) (some_asked : count ≠ 0) :
    stream.read false count = (if stream.closed then some [] else none, stream) := by
  simp [read, some_asked, nothing]

theorem read_length_le {symbols : List β}
    (answer : (stream.read interrupted count).1 = some symbols) :
    symbols.length ≤ count := by
  cases interrupted with
  | true => simp [read] at answer
  | false =>
      by_cases zero : count = 0
      · simp [read, zero] at answer
        simp [answer]
      · cases arrived : stream.arrived with
        | nil =>
            rw [read_of_empty arrived zero] at answer
            cases closed : stream.closed <;> simp [closed] at answer
            simp [answer]
        | cons first rest =>
            simp only [read, zero, arrived, if_false, Bool.false_eq_true,
              Option.some.injEq] at answer
            rw [← answer, List.length_take]
            exact Nat.min_le_left _ _

/-- A read answers with exactly the number asked for, or with -1, exactly when it
is whole. -/
theorem read_exact_iff : (∀ symbols, (stream.read interrupted count).1 = some symbols →
    symbols.length = count) ↔ stream.Whole interrupted count := by
  cases interrupted with
  | true => simp [read, Whole]
  | false =>
      by_cases zero : count = 0
      · simp [read, Whole, zero]
      · cases arrived : stream.arrived with
        | nil =>
            rw [read_of_empty arrived zero]
            cases closed : stream.closed <;> simp [Whole, arrived, closed, zero, Ne.symm zero]
        | cons first rest =>
            simp only [read, zero, arrived, if_false, Bool.false_eq_true, Option.some.injEq,
              forall_eq', List.length_take, Whole, false_or, reduceCtorEq, false_and, or_false]
            omega

end ByteStream

end BluezTutorial
