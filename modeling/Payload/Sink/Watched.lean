import Payload.Sink

/-!
# Sinks that are watched

A watched sink does what the sink inside it does, and its answers to offers are kept, and with them
the bytes that it said it took.
-/

namespace Payload

/-- A sink with its answers to offers, the latest first, and all that it took. -/
structure Watched (τ : Type) where
  sink : τ
  answers : List (Outcome Fault Nat) := []
  taken : ByteArray := .empty

namespace Watched

variable {τ : Type}

/-- Watch a sink from now on. -/
def watch (sink : τ) : Watched τ :=
  { sink }

/-- What of the bytes from `start` on was taken, by the answer to their offer. -/
def took (bytes : ByteArray) (start : Nat) : Outcome Fault Nat → ByteArray
  | .done count => stretch bytes start count
  | _ => .empty

def write [Sink τ] (bytes : ByteArray) (start : Nat) (watched : Watched τ) :
    Outcome Fault Nat × Watched τ :=
  let step := Sink.write bytes start watched.sink
  (step.1, ⟨step.2, step.1 :: watched.answers, watched.taken ++ took bytes start step.1⟩)

instance [Sink τ] : Sink (Watched τ) where
  write := write
  patience watched := Sink.patience watched.sink

/-- The kind of fault under which an answer refuses the offer for good, if it does.  To take nothing
is to refuse. -/
def refusing? : Outcome Fault Nat → Option FaultKind
  | .done count => if count = 0 then some .writeZero else none
  | .failed fault => if fault.interrupts then none else some fault.kind
  | .broke => none

/-- The kind under which the sink has refused its latest offer, if it has. -/
def refusal? (watched : Watched τ) : Option FaultKind :=
  watched.answers.head?.bind refusing?

end Watched

end Payload
