import Payload.Source

/-!
# Files that are not regular

A void is always at its end, wherever it is moved.  A pipe yields its bytes once, in sequence; it
offers seeking and reads at a position as every file does, and then refuses each such call.  Neither
knows a size.
-/

namespace Payload

/-- A file without content. -/
structure Void where
  deriving DecidableEq

instance : Source Void where
  size void := (.done none, void)
  seekable _ := true
  addressable _ := true
  read want void := (.done (.bytes .empty (Nat.zero_le want)), void)
  readAt want _ void := (.done (.bytes .empty (Nat.zero_le want)), void)
  seek _ void := (.done 0, void)
  close void := (.done (), void)
  patience _ := 0

/-- The reading end of a pipe that nobody writes to any more. -/
structure Pipe where
  content : ByteArray
  position : Nat := 0

namespace Pipe

/-- Why a pipe refuses to move. -/
def refusal : Fault :=
  ⟨.notSeekable, .system 29 "Illegal seek"⟩

def read (want : Nat) (pipe : Pipe) : Reading want × Pipe :=
  let taken := stretch pipe.content pipe.position want
  (.done (.bytes taken (size_stretch_le _ _ _)),
    { pipe with position := pipe.position + taken.size })

instance : Source Pipe where
  size pipe := (.done none, pipe)
  seekable _ := true
  addressable _ := true
  read := read
  readAt _ _ pipe := (.failed refusal, pipe)
  seek _ pipe := (.failed refusal, pipe)
  close pipe := (.done (), pipe)
  patience _ := 0

end Pipe

end Payload
