import Payload.Engine.Custody
import Payload.Pump
import Payload.Tally
import Payload.Window

/-!
# Bodies that keep what was read

A source that can only be read in sequence is read once for all copies.  What it gave is kept in a
window from the slowest copy on; a copy that asks past the window has it filled in whole blocks.
The end of the source, or the failure that it stopped with, is kept as well and met by every copy
that gets there.

The checks in here hold in every state that the operations reach.  Were one not to, the call would
break off and poison what the copies share.
-/

namespace Payload

/-- The record of the copies of a buffered body. -/
structure Buffered (σ : Type) where
  custody : Custody σ
  window : Window := .empty
  /-- The end or the failure that the source has come to. -/
  terminal : Option Terminal := none
  /-- Where the open copies stand. -/
  cursors : Tally := .single 0
  /-- How many copies are open. -/
  live : Nat := 1
  /-- The length of the stream, once it is known. -/
  length : Option Nat
  blockSize : Nat

/-- A place in a buffered stream, and the end or failure that the copy has met. -/
structure Buffered.Cursor where
  offset : Nat := 0
  terminal : Option Terminal := none
  deriving DecidableEq, Repr

namespace Buffered

variable {σ : Type} [Source σ]

/-- The record of the first copy over a source. -/
def start (source : σ) (length : Option Nat) (blockSize : Nat) : Buffered σ :=
  { custody := { source }, length, blockSize := max blockSize 1 }

/-- The record after a call broke off. -/
def poison (record : Buffered σ) : Buffered σ :=
  { record with custody := { record.custody with poisoned := true } }

/-! ## The window and the slowest copy -/

/-- Drop what every open copy has read. -/
def trim? (record : Buffered σ) : Option (Buffered σ × List Note) :=
  match record.cursors.least? with
  | none => some (record, [])
  | some least =>
    if least < record.window.start then
      none
    else if least = record.window.start then
      some (record, [])
    else
      (record.window.trimTo? least).map fun window =>
        ({ record with window }, [.trimming record.window.start least])

/-- Move a cursor, and drop what only it had not read. -/
def advance? (record : Buffered σ) (first last : Nat) : Option (Buffered σ × List Note) :=
  if first = last then
    some (record, [])
  else if record.window.start ≤ first ∧ last ≤ record.window.stop then
    let moved := { record with cursors := (record.cursors.release first).attach last }
    if first = record.window.start then moved.trim? else some (moved, [])
  else
    none

/-! ## Filling the window -/

/-- The fault of a source that ends before the length it was declared to have. -/
def endedEarly : Fault :=
  .saying .unexpectedEof "source ended before its declared length"

/-- How many bytes a source is asked for when so many are missing: whole blocks, but no more than
the known length leaves.  The flag says whether that is all that is left. -/
def order (record : Buffered σ) (shortfall : Nat) : Nat × Bool :=
  let blocks := (shortfall + record.blockSize - 1) / record.blockSize
  let rounded := min (blocks * record.blockSize) maxOffset
  match record.length with
  | none => (rounded, false)
  | some length =>
    let left := length - record.window.stop
    if left ≤ rounded then (left, true) else (rounded, false)

/-- What came of filling the window. -/
structure Fill (σ : Type) where
  /-- Whether the call came back. -/
  intact : Bool
  record : Buffered σ
  notes : List Note := []

/-- The fill broke off and left the window with room that was never filled. -/
def Fill.broken (record : Buffered σ) : Fill σ :=
  { intact := false, record := record.poison }

/-- Take up what the source gave into the `count` bytes of room: the bytes, and the end or the
failure that it came to. -/
def settle (record : Buffered σ) (count : Nat) (reaches : Bool) (bytes : ByteArray)
    (stopped : Option Terminal) : Fill σ :=
  match (record.window.fill count bytes).shrinkTail? (count - bytes.size) with
  | none => .broken record
  | some window =>
    let terminal :=
      if stopped.isNone && reaches && bytes.size == count then some .ended else stopped
    let length := if terminal = some .ended then some (record.length.getD window.stop)
      else record.length
    { intact := true
      record := { record with window, terminal, length }
      notes :=
        .buffered bytes.size window.start window.stop ::
          (terminal.map (Note.cameToEnd · window.stop)).toList }

/-- Read the next `count` bytes of the source into the room made for them. -/
def take (record : Buffered σ) (count : Nat) (reaches : Bool) : Fill σ :=
  let source := record.custody.source
  let step := Source.readSteady count (Source.patience source + 1) source
  let next := { record with custody := record.custody.returning false step.2 }
  match step.1 with
  | .done transfer =>
    match transfer.received? zeros with
    | some content =>
      if content.size = 0 then
        next.settle count reaches .empty
          (some (if record.length.isSome then .failed endedEarly else .ended))
      else
        next.settle count reaches content none
    | none => .broken next
  | .failed fault => next.settle count reaches .empty (some (.failed fault))
  | .broke => .broken next

/-- Have the source fill the window past its end, by at least `shortfall` bytes unless it gives
fewer. -/
def fill (record : Buffered σ) (shortfall : Nat) : Fill σ :=
  if record.custody.held then
    let (count, reaches) := record.order shortfall
    if maxAllocation < record.window.size + count then
      .broken record
    else
      let grown := { record with window := record.window.grow count }
      if count = 0 then grown.settle 0 reaches .empty none else grown.take count reaches
  else
    { intact := true, record }

/-! ## The operations -/

/-- Deliver the bytes that the window has between the cursor and `goal`. -/
def deliver (goal : Nat) (record : Buffered σ) (cursor : Cursor) :
    Turn (Buffered σ) Cursor ByteArray :=
  let stop := min goal record.window.stop
  match record.window.slice? cursor.offset stop, record.advance? cursor.offset stop with
  | some bytes, some (moved, notes) =>
    let met := if stop < goal then moved.terminal else none
    let reply :=
      match met with
      | some terminal =>
        if bytes.size = 0 then .failed (terminal.error .read) else .done bytes
      | none => .done bytes
    ⟨reply, moved, ⟨stop, met⟩, notes⟩
  | _, _ => ⟨.broke, record.poison, cursor, []⟩

/-- Read at the cursor. -/
def read (want : Nat) (record : Buffered σ) (cursor : Cursor) :
    Turn (Buffered σ) Cursor ByteArray :=
  match cursor.terminal with
  | some terminal => ⟨.failed (terminal.error .read), record, cursor, []⟩
  | none =>
    if record.custody.poisoned then
      ⟨.failed ⟨.read, .poisoned⟩, record, cursor, []⟩
    else if cursor.offset < record.window.start then
      ⟨.broke, record.poison, cursor, []⟩
    else
      let goal := cursor.offset + want
      if record.terminal.isNone && record.window.stop < goal then
        let filled := record.fill (goal - record.window.stop)
        if filled.intact then
          (filled.record.deliver goal cursor).noting filled.notes
        else
          ⟨.broke, filled.record, cursor, filled.notes⟩
      else
        record.deliver goal cursor

/-- Register one more copy at the cursor. -/
def copy (record : Buffered σ) (cursor : Cursor) : Turn (Buffered σ) Cursor Cursor :=
  if record.custody.poisoned then
    ⟨.failed ⟨.copy, .poisoned⟩, record, cursor, []⟩
  else
    ⟨.done cursor,
      { record with cursors := record.cursors.attach cursor.offset, live := record.live + 1 },
      cursor, []⟩

/-- Detach a copy.  What only it had not read is dropped; the last one drops the window and closes
the source. -/
def close (record : Buffered σ) (cursor : Cursor) : Turn (Buffered σ) Cursor Unit :=
  let left :=
    { record with cursors := record.cursors.release cursor.offset, live := record.live - 1 }
  if 0 < left.live then
    match left.trim? with
    | some (trimmed, notes) => ⟨.done (), trimmed, cursor, notes⟩
    | none => ⟨.broke, left.poison, cursor, []⟩
  else
    let (reply, custody, notes) := left.custody.close .closingBuffered
    ⟨reply, { left with custody, window := left.window.clear, terminal := none }, cursor, notes⟩

def remaining (record : Buffered σ) (cursor : Cursor) : Option Nat :=
  if cursor.terminal.isSome then some 0 else record.length.map (· - cursor.offset)

/-- Read the body out in blocks of its own size. -/
def writeTo {τ : Type} [Sink τ] (sink : τ) (record : Buffered σ) (cursor : Cursor) :
    Turn (Buffered σ) Cursor Nat × τ :=
  let block := scratch record.blockSize (record.remaining cursor)
  if maxAllocation < block then
    (⟨.broke, record, cursor, []⟩, sink)
  else
    pump (fun buffer => read buffer.size) (.fresh block) sink record cursor

/-- Lend the source to a callback. -/
def visit {α : Type} (callback : σ → Option α × σ) (record : Buffered σ) (cursor : Cursor) :
    Turn (Buffered σ) Cursor (Option α) :=
  let (reply, custody) := record.custody.visit callback
  ⟨reply, { record with custody }, cursor, []⟩

/-- The engine of buffered bodies.  They are not moved, and not read at a position. -/
def engine (σ : Type) [Source σ] : Engine σ (Buffered σ) Cursor where
  read buffer := read buffer.size
  readAt _ _ record cursor := ⟨.failed ⟨.readAt, .unsupported⟩, record, cursor, []⟩
  seek _ _ record cursor := ⟨.failed ⟨.seek, .unsupported⟩, record, cursor, []⟩
  writeTo := writeTo
  copy := copy
  close := close
  visit := visit
  bytesRemaining record cursor := .done (record.remaining cursor)
  ended cursor := cursor.terminal.isSome
  seekable := false
  range record :=
    if record.custody.poisoned then none else some (record.window.start, record.window.stop)

end Buffered

end Payload
