import Payload.Buffer
import Payload.Note
import Payload.Sink
import Payload.Source

/-!
# What every kind of body can do

The copies of one body share a record and own a cursor each.  An engine says, for one kind of body,
how an operation on one copy turns the record and that copy's cursor; no operation reaches another
copy's cursor, so copies can only meet in the record.
-/

namespace Payload

/-- How an operation on one copy comes out, with the record and the cursor that it leaves and what
it noted on the way. -/
structure Turn (ρ κ α : Type) where
  reply : Reply α
  record : ρ
  cursor : κ
  notes : List Note := []

namespace Turn

variable {ρ κ α β : Type}

/-- The same turn with another reply. -/
def replying (turn : Turn ρ κ α) (reply : Reply β) : Turn ρ κ β :=
  { turn with reply }

/-- The same turn, after these notes. -/
def noting (turn : Turn ρ κ α) (notes : List Note) : Turn ρ κ α :=
  { turn with notes := notes ++ turn.notes }

end Turn

/-- The operations of one kind of body over a source in `σ`, with a record in `ρ` and cursors in
`κ`. -/
structure Engine (σ ρ κ : Type) where
  /-- Read into a buffer.  The reply has the bytes then found at the front of it. -/
  read : (buffer : Buffer) → ρ → κ → Turn ρ κ ByteArray
  readAt : (buffer : Buffer) → (offset : Nat) → ρ → κ → Turn ρ κ ByteArray
  seek : (offset whence : Int) → ρ → κ → Turn ρ κ Nat
  writeTo : {τ : Type} → [Sink τ] → τ → ρ → κ → Turn ρ κ Nat × τ
  /-- Register one more copy at the same place. -/
  copy : ρ → κ → Turn ρ κ κ
  /-- Detach this copy. -/
  close : ρ → κ → Turn ρ κ Unit
  /-- Lend the source to a callback, which may break off. -/
  visit : {α : Type} → (σ → Option α × σ) → ρ → κ → Turn ρ κ (Option α)
  /-- Answer how many bytes are left, where it is known. -/
  bytesRemaining : ρ → κ → Reply (Option Nat)
  /-- Whether the cursor has come to its end or to a failure. -/
  ended : κ → Bool
  /-- Whether copies can be moved and read at a position. -/
  seekable : Bool
  /-- The stretch of the stream that is kept for all copies. -/
  range : ρ → Option (Nat × Nat)

/-- The number of bytes left, where the answer comes back and it is known. -/
def Engine.remaining {σ ρ κ : Type} (engine : Engine σ ρ κ) (record : ρ) (cursor : κ) :
    Option Nat :=
  match engine.bytesRemaining record cursor with
  | .done left => left
  | _ => none

/-- A place in a body of known length. -/
structure Cursor where
  offset : Nat := 0
  /-- Whether the end has been reported, or the last read asked past it. -/
  ended : Bool := false
  deriving DecidableEq, Repr

namespace Cursor

/-- The bytes left in a body of this length. -/
def remaining (length : Nat) (cursor : Cursor) : Nat :=
  if cursor.ended then 0 else length - cursor.offset

/-- Move the cursor.  A refused seek leaves it alone, and any other forgets a reported end. -/
def seek {ρ : Type} (length : Nat) (offset whence : Int) (record : ρ) (cursor : Cursor) :
    Turn ρ Cursor Nat :=
  match Seek.resolve offset whence cursor.offset length with
  | .ok position => ⟨.done position, record, { offset := position }, []⟩
  | .error error => ⟨.failed ⟨.seek, .seek error⟩, record, cursor, []⟩

/-- A cursor arrives within the body, or the seek is refused and nothing moves. -/
theorem seek_cases {ρ : Type} (length : Nat) (offset whence : Int) (record : ρ)
    (cursor : Cursor) :
    (∃ error, cursor.seek length offset whence record =
        ⟨.failed ⟨.seek, .seek error⟩, record, cursor, []⟩) ∨
      ∃ position ≤ length, cursor.seek length offset whence record =
        ⟨.done position, record, { offset := position }, []⟩ := by
  unfold seek
  split
  · rename_i position resolved
    exact Or.inr ⟨position, Seek.resolve_le resolved, rfl⟩
  · rename_i error refused
    exact Or.inl ⟨error, rfl⟩

end Cursor

end Payload
