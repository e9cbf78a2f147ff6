import Payload.Source

/-!
# Bytes under a cursor

A tape is a regular source with everything on offer: it knows its size, seeks anywhere that can be
addressed, also past its end, and reads at any position without moving.
-/

namespace Payload

structure Tape where
  content : ByteArray
  position : Nat := 0

namespace Tape

/-- The bytes that a read of `want` bytes at `position` finds. -/
def found (tape : Tape) (want position : Nat) : ByteArray :=
  stretch tape.content position want

def readAt (want position : Nat) (tape : Tape) : Reading want :=
  .done (.bytes (tape.found want position) (size_stretch_le _ _ _))

/-- Move past the bytes that a read of `want` bytes finds. -/
def advance (want : Nat) (tape : Tape) : Tape :=
  { tape with position := tape.position + (tape.found want tape.position).size }

def seek (origin : Origin) (tape : Tape) : Answer Nat × Tape :=
  match origin.aim? tape.position tape.content.size with
  | some position => (.done position, { tape with position })
  | none =>
    (.failed (.saying .invalidInput "invalid seek to a negative or overflowing position"), tape)

instance : Source Tape where
  size tape := (.done (some tape.content.size), tape)
  seekable _ := true
  addressable _ := true
  read want tape := (tape.readAt want tape.position, tape.advance want)
  readAt want position tape := (tape.readAt want position, tape)
  seek := seek
  close tape := (.done (), tape)
  patience _ := 0

end Tape

end Payload
