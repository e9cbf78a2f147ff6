import Payload.Engine

/-!
# Reading a body out into a sink

`pump` alternates between reading one block and offering it whole, until the reads come to an end.
The end of the stream is success; every other error of a read is reported under the operation that
was asked for.  Nothing bounds its rounds: over a source without end, and into a sink that takes
everything, it goes on for ever.
-/

namespace Payload

/-- The size of the blocks in which bytes are moved where nothing else is asked for. -/
def defaultBlock : Nat := 65536

/-- The size of the blocks in which a body with so many bytes left is read out. -/
def scratch (block : Nat) : Option Nat → Nat
  | none => block
  | some remaining => min (max remaining 1) block

theorem scratch_le (block : Nat) (remaining : Option Nat) : scratch block remaining ≤ block := by
  cases remaining with
  | none => exact Nat.le_refl _
  | some remaining => exact Nat.min_le_right _ _

theorem scratch_pos {block : Nat} (positive : 0 < block) (remaining : Option Nat) :
    0 < scratch block remaining := by
  cases remaining with
  | none => exact positive
  | some remaining =>
      exact Nat.lt_min.mpr ⟨Nat.lt_of_lt_of_le Nat.one_pos (Nat.le_max_right _ _), positive⟩

/-- Where reading out stands before a round, `total` bytes having been passed on. -/
structure Pumping (ρ κ : Type) where
  total : Nat
  buffer : Buffer
  record : ρ
  cursor : κ

section

variable {ρ κ τ : Type} [Sink τ] (read : Buffer → ρ → κ → Turn ρ κ ByteArray)

/-- Read blocks into one and the same buffer and pass them on, until a read fails or the sink does
not take what was read.  Where it never comes to that there is no outcome. -/
def Pumping.outcome? (stage : Pumping ρ κ) : StateT τ Option (Turn ρ κ Nat) := fun sink =>
  let turn := read stage.buffer stage.record stage.cursor
  match turn.reply with
  | .failed error =>
    if error.isEnd then
      some (turn.replying (.done stage.total), sink)
    else
      some (turn.replying (.failed (error.during .writeTo)), sink)
  | .broke => some (turn.replying .broke, sink)
  | .done bytes =>
    match Sink.takeAll bytes sink with
    | (.done (), sink) => do
      let further : Pumping ρ κ :=
        ⟨stage.total + bytes.size, stage.buffer.write bytes, turn.record, turn.cursor⟩
      let rest ← further.outcome?.run sink
      return (rest.1.noting turn.notes, rest.2)
    | (.failed fault, sink) => some (turn.replying (.failed ⟨.writeTo, .fault fault⟩), sink)
    | (.broke, sink) => some (turn.replying .broke, sink)
partial_fixpoint

/-- Read a copy out through such a buffer.  What goes on for ever never comes back, and nothing sees
what it leaves behind. -/
def pump (buffer : Buffer) (sink : τ) (record : ρ) (cursor : κ) : Turn ρ κ Nat × τ :=
  (Pumping.outcome? read ⟨0, buffer, record, cursor⟩ sink).getD
    (⟨.broke, record, cursor, []⟩, sink)

end

end Payload
