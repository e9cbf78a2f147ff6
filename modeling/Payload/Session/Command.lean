import Payload.Body
import Payload.Options
import Payload.Session.Feed
import Payload.Session.Request

/-!
# What a session can be told, and what it answers
-/

namespace Payload

/-- What to do with the copy in one slot. -/
inductive Action where
  | copy
  | drop
  | close
  | look
  | read (want : Nat)
  | readAt (want offset : Nat)
  /-- Read so many bytes at a time until an error, in at most `rounds` reads. -/
  | readAll (want rounds : Nat)
  | seek (offset whence : Int)
  | writeTo (sink : Gauge)
  | visit (request : Request)
  | streamRead (want : Nat)
  | readExactly (want : Nat)
  | readToEnd
  | readToText
  | streamSeek (origin : Origin)
  | rewind
  | describe

inductive Command where
  /-- Take the next slot for an open body over these bytes. -/
  | store (content : ByteArray)
  /-- Take the next slot for a closed body. -/
  | storeClosed
  /-- Open a source into the next slot. -/
  | open (source : Feed) (options : Options)
  /-- Take the next slot for a body over a mere sequence of bytes. -/
  | sequence (source : Feed)
  /-- Change the settings of a numbered device. -/
  | adjust (number : Nat) (change : Device.Change)
  | act (slot : Nat) (action : Action)

/-- What comes of a command. -/
inductive Response where
  | fine
  /-- There is no body in the slot. -/
  | noBody
  /-- The call never came back. -/
  | broke
  | refused (error : Error)
  | failure (failure : Failure)
  | bytes (content : ByteArray)
  /-- The sizes of several reads, all their bytes, and the error that ended them. -/
  | several (counts : List Nat) (content : ByteArray) (ending : Option Error)
  | position (position : Nat)
  /-- What became of a transfer, and the sink after it. -/
  | written (result : Except Error Nat) (sink : Gauge)
  | found (finding : Finding)
  /-- There was no source to lend. -/
  | nothingLent
  | collected (result : Except Failure Nat) (content : ByteArray)
  | text (size : Nat) (text : String)
  | description (text : String)

namespace Response

/-- The response to a reply, given the response to the value in it. -/
def ofReply {α : Type} (fine : α → Response) : Reply α → Response
  | .done value => fine value
  | .failed error => refused error
  | .broke => broke

/-- The response of a byte stream. -/
def ofStream {α : Type} (fine : α → Response) : Outcome Failure α → Response
  | .done value => fine value
  | .failed reported => failure reported
  | .broke => broke

/-- The response to a request to a bare source. -/
def ofAnswer : Answer Finding → Response
  | .done finding => found finding
  | .failed fault => failure (.plain fault)
  | .broke => broke

end Response

/-- What can be seen of a copy at any time. -/
structure View where
  closed : Bool
  remaining : Option Nat
  ended : Bool
  seekable : Bool
  range : Option (Nat × Nat)
  deriving DecidableEq, Repr

def Body.view {σ : Type} [Source σ] (body : Body σ) (index : Nat) : View where
  closed := body.isClosed index
  remaining := body.remaining index
  ended := body.ended index
  seekable := body.seekable index
  range := body.range index

end Payload
