import Payload.Engine

/-!
# Bodies in memory

The copies share bytes that never change, so a copy is nothing but a cursor.  A read that asks past
the last byte gives what is left and remembers that the end has been met.  A body without bytes is
the empty body.

A sink that claims to have taken more than it was offered carries the cursor past the last byte.
What then asks for the bytes ahead of it breaks off.
-/

namespace Payload

namespace Memory

/-- Read at the cursor. -/
def read (want : Nat) (data : ByteArray) (cursor : Cursor) : Turn ByteArray Cursor ByteArray :=
  if cursor.ended then
    ⟨.failed ⟨.read, .endOfStream⟩, data, cursor, []⟩
  else if want = 0 then
    ⟨.done .empty, data, cursor, []⟩
  else if data.size < cursor.offset then
    ⟨.broke, data, cursor, []⟩
  else if data.size = cursor.offset then
    ⟨.failed ⟨.read, .endOfStream⟩, data, { cursor with ended := true }, []⟩
  else
    let bytes := stretch data cursor.offset want
    ⟨.done bytes, data, ⟨cursor.offset + bytes.size, bytes.size < want⟩, []⟩

/-- Read at a position, of which those past the end are the end. -/
def readAt (want offset : Nat) (data : ByteArray) (cursor : Cursor) :
    Turn ByteArray Cursor ByteArray :=
  if want = 0 then
    ⟨.done .empty, data, cursor, []⟩
  else if data.size ≤ offset then
    ⟨.failed ⟨.readAt, .endOfStream⟩, data, cursor, []⟩
  else
    ⟨.done (stretch data offset want), data, cursor, []⟩

/-- Offer what is left until nothing is, in at most `tries` offers, `total` bytes having been taken
before.  The cursor follows the sink byte by byte, also past the end, but not to an offset that is
too large for a number of bytes. -/
def spill {τ : Type} [Sink τ] (data : ByteArray) :
    (tries total : Nat) → τ → Cursor → Turn ByteArray Cursor Nat × τ
  | 0, _, sink, cursor => (⟨.broke, data, cursor, []⟩, sink)
  | tries + 1, total, sink, cursor =>
    if data.size < cursor.offset then
      (⟨.broke, data, cursor, []⟩, sink)
    else if data.size = cursor.offset then
      (⟨.done total, data, cursor, []⟩, sink)
    else
      match Sink.write data cursor.offset sink with
      | (.done 0, next) =>
        (⟨.failed ⟨.writeTo, .fault ⟨.writeZero, .plain⟩⟩, data, cursor, []⟩, next)
      | (.done taken, next) =>
        if max data.size maxOffset < cursor.offset + taken then
          (⟨.broke, data, cursor, []⟩, next)
        else
          spill data tries (total + taken) next { cursor with offset := cursor.offset + taken }
      | (.failed fault, next) =>
        if fault.interrupts then
          spill data tries total next cursor
        else
          (⟨.failed ⟨.writeTo, .fault fault⟩, data, cursor, []⟩, next)
      | (.broke, next) => (⟨.broke, data, cursor, []⟩, next)

def writeTo {τ : Type} [Sink τ] (sink : τ) (data : ByteArray) (cursor : Cursor) :
    Turn ByteArray Cursor Nat × τ :=
  if cursor.ended then
    (⟨.done 0, data, cursor, []⟩, sink)
  else
    spill data (data.size + Sink.patience sink + 1) 0 sink cursor

def bytesRemaining (data : ByteArray) (cursor : Cursor) : Reply (Option Nat) :=
  if !cursor.ended && data.size < cursor.offset then
    .broke
  else
    .done (some (cursor.remaining data.size))

/-- The engine of bodies in memory.  Such a body has no source, so it lends none. -/
def engine (σ : Type) : Engine σ ByteArray Cursor where
  read buffer := read buffer.size
  readAt buffer := readAt buffer.size
  seek offset whence data cursor := cursor.seek data.size offset whence data
  writeTo := writeTo
  copy data cursor := ⟨.done cursor, data, cursor, []⟩
  close data cursor := ⟨.done (), data, cursor, []⟩
  visit _ data cursor := ⟨.done none, data, cursor, []⟩
  bytesRemaining := bytesRemaining
  ended := Cursor.ended
  seekable := true
  range _ := none

end Memory

end Payload
