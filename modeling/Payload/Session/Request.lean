import Payload.Error
import Payload.Source

/-!
# Requests to a bare source

A source can be asked directly, without a body between: outside any body, or from the callback that
a body lends its source to.
-/

namespace Payload

inductive Request where
  | size
  | capabilities
  | read (want : Nat)
  | readAt (want position : Nat)
  | seek (origin : Origin)
  | close
  /-- Break off instead of asking. -/
  | breakOff
  deriving DecidableEq, Repr

/-- What a request finds. -/
inductive Finding where
  | size (size : Option Nat)
  | capabilities (seekable addressable : Bool)
  /-- How many bytes were read by the source's own account, and those found in the buffer. -/
  | given (count : Nat) (content : ByteArray)
  | position (position : Nat)
  | closed
  /-- The source does not offer the call. -/
  | notOffered

namespace Request

variable {σ : Type} [Source σ]

/-- What a transfer into a fresh buffer comes to. -/
def ofTransfer {want : Nat} : Transfer want → Finding
  | .bytes content _ => .given content.size content
  | .claim count => .given count (zeros (min count want))

def make (source : σ) : Request → Answer Finding × σ
  | size =>
    let (answer, next) := Source.size source
    (answer.map .size, next)
  | capabilities =>
    (.done (.capabilities (Source.seekable source) (Source.addressable source)), source)
  | read want =>
    let (reading, next) := Source.read want source
    (reading.map ofTransfer, next)
  | readAt want position =>
    if Source.addressable source then
      let (reading, next) := Source.readAt want position source
      (reading.map ofTransfer, next)
    else
      (.done .notOffered, source)
  | seek origin =>
    if Source.seekable source then
      let (answer, next) := Source.seek origin source
      (answer.map .position, next)
    else
      (.done .notOffered, source)
  | close =>
    let (answer, next) := Source.close source
    (answer.map fun _ => .closed, next)
  | breakOff => (.broke, source)

/-- The request as a callback for a lent source. -/
def callback (request : Request) (source : σ) : Option (Except Fault Finding) × σ :=
  match request.make source with
  | (.done finding, next) => (some (.ok finding), next)
  | (.failed fault, next) => (some (.error fault), next)
  | (.broke, next) => (none, next)

end Request

end Payload
