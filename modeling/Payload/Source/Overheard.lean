import Payload.Source

/-!
# Sources that are listened to

An overheard source does what the source inside it does, and its answers to reads are kept: the
number of bytes that it said it gave, or the fault that it failed with, word for word.
-/

namespace Payload

/-- A source and its answers to reads, the latest first. -/
structure Overheard (σ : Type) where
  source : σ
  answers : List (Answer Nat) := []

namespace Overheard

variable {σ α : Type}

/-- Carry on with the state that a call left of which nothing is heard. -/
def passing (overheard : Overheard σ) (step : α × σ) : α × Overheard σ :=
  (step.1, { overheard with source := step.2 })

/-- Hear the answer to a read and carry on with the state that it left. -/
def hearing {want : Nat} (overheard : Overheard σ) (step : Reading want × σ) :
    Reading want × Overheard σ :=
  (step.1, ⟨step.2, step.1.map Transfer.count :: overheard.answers⟩)

/-- A callback on the source inside, to whose own reads nobody listens. -/
def unheard (callback : σ → Option α × σ) (overheard : Overheard σ) : Option α × Overheard σ :=
  overheard.passing (callback overheard.source)

instance [Source σ] : Source (Overheard σ) where
  size overheard := overheard.passing (Source.size overheard.source)
  seekable overheard := Source.seekable overheard.source
  addressable overheard := Source.addressable overheard.source
  read want overheard := overheard.hearing (Source.read want overheard.source)
  readAt want position overheard :=
    overheard.hearing (Source.readAt want position overheard.source)
  seek origin overheard := overheard.passing (Source.seek origin overheard.source)
  close overheard := overheard.passing (Source.close overheard.source)
  patience overheard := Source.patience overheard.source

/-- What was heard last is that there is nothing. -/
def Dry (overheard : Overheard σ) : Prop :=
  overheard.answers.head? = some (.done 0)

instance (overheard : Overheard σ) : Decidable overheard.Dry :=
  inferInstanceAs (Decidable (overheard.answers.head? = some (.done 0)))

end Overheard

end Payload
