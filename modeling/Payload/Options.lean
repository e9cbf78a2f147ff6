import Payload.Pump

/-!
# Options for opening a body
-/

namespace Payload

structure Options where
  /-- The length that the caller declares, from where the source stands.  Nothing is then asked of
  the source about its size. -/
  length : Option Nat := none
  /-- The size of the blocks by which a buffered body grows. -/
  rawBlockSize : Nat := defaultBlock
  deriving DecidableEq, Repr

namespace Options

/-- The block size in use, never less than one byte. -/
def blockSize (options : Options) : Nat :=
  max options.rawBlockSize 1

def isDefault (options : Options) : Bool :=
  options == {}

end Options

end Payload
