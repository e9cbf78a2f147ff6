import Payload.Sink
import Payload.Source

/-!
# Interruptions put before calls

A fitful source does what the source inside it does, and a fitful sink what the sink inside it does,
but that reads and offers can be interrupted before they get there.  Which of them are, and by what,
is written down beforehand; no other call is held up.
-/

namespace Payload

/-- A fault that asks for the same call again. -/
abbrev Interruption :=
  { fault : Fault // fault.interrupts = true }

/-- Something that is called, and what comes between it and the next calls, call by call: an
interruption, or nothing. -/
structure Fitful (α : Type) where
  inside : α
  breaks : List (Option Interruption) := []

namespace Fitful

variable {α β : Type}

/-- Make a call of which nothing can come between. -/
def passing (fitful : Fitful α) (call : α → β × α) : β × Fitful α :=
  let step := call fitful.inside
  (step.1, { fitful with inside := step.2 })

/-- Make a call unless it is interrupted. -/
def attempt (fitful : Fitful α) (call : α → Answer β × α) : Answer β × Fitful α :=
  let later := { fitful with breaks := fitful.breaks.tail }
  match fitful.breaks.head?.join with
  | some interruption => (.failed interruption.val, later)
  | none => later.passing call

/-- A callback on what is inside. -/
def lending (callback : α → Option β × α) (fitful : Fitful α) : Option β × Fitful α :=
  fitful.passing callback

instance [Source α] : Source (Fitful α) where
  size fitful := fitful.passing Source.size
  seekable fitful := Source.seekable fitful.inside
  addressable fitful := Source.addressable fitful.inside
  read want fitful := fitful.attempt (Source.read want)
  readAt want position fitful := fitful.attempt (Source.readAt want position)
  seek origin fitful := fitful.passing (Source.seek origin)
  close fitful := fitful.passing Source.close
  patience fitful := Source.patience fitful.inside + fitful.breaks.length

instance [Sink α] : Sink (Fitful α) where
  write bytes start fitful := fitful.attempt (Sink.write bytes start)
  patience fitful := Sink.patience fitful.inside + fitful.breaks.length

/-- A call is made, or interrupted once; either way it has had its turn. -/
theorem attempt_cases (fitful : Fitful α) (call : α → Answer β × α) :
    (∃ interruption : Interruption,
        fitful.attempt call = (.failed interruption.val, ⟨fitful.inside, fitful.breaks.tail⟩) ∧
          fitful.breaks.tail.length < fitful.breaks.length) ∨
      fitful.attempt call =
        ((call fitful.inside).1, ⟨(call fitful.inside).2, fitful.breaks.tail⟩) := by
  unfold attempt
  dsimp only
  split
  · rename_i interruption broken
    cases breaks : fitful.breaks with
    | nil =>
        rw [breaks] at broken
        cases broken
    | cons first later =>
        refine Or.inl ⟨interruption, rfl, ?_⟩
        rw [List.tail_cons, List.length_cons]
        exact Nat.lt_succ_self _
  · exact Or.inr rfl

end Fitful

end Payload
