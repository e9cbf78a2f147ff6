import Payload.Fault
import Payload.Outcome
import Payload.Seek

/-!
# Why an operation on a body fails

An error names the operation that was asked for and the cause.  A fault of the source or the sink is
one of the causes and is kept as it was reported, also when another copy met it first.
-/

namespace Payload

/-- What was asked of a body, or of a source on its way to becoming one. -/
inductive Operation where
  | unknown
  | read
  | readAt
  | seek
  | copy
  | close
  | writeTo
  | probeSize
  | probeSeek
  deriving DecidableEq, Repr

namespace Operation

instance : Inhabited Operation := ⟨unknown⟩

def all : List Operation :=
  [unknown, read, readAt, seek, copy, close, writeTo, probeSize, probeSeek]

def text : Operation → String
  | unknown => "unknown operation"
  | read => "read"
  | readAt => "addressed read"
  | seek => "seek"
  | copy => "copy"
  | close => "close"
  | writeTo => "bulk write"
  | probeSize => "query source size"
  | probeSeek => "measure source by seeking"

end Operation

/-- Why an operation fails. -/
inductive Cause where
  | endOfStream
  | closed
  | fault (fault : Fault)
  | seek (error : SeekError)
  | unsupported
  /-- A call broke off while it held the state that the copies share. -/
  | poisoned
  deriving DecidableEq, Repr

namespace Cause

def text : Cause → String
  | endOfStream => "end-of-stream"
  | closed => "body already closed"
  | fault _ => "source IO error"
  | seek error => error.message
  | unsupported => "operation not supported by this body"
  | poisoned => "shared body state poisoned"

/-- The fault behind the cause, if there is one. -/
def fault? : Cause → Option Fault
  | fault reported => some reported
  | _ => none

/-- The kind under which a byte stream reports the cause. -/
def faultKind : Cause → FaultKind
  | endOfStream => .unexpectedEof
  | closed => .other
  | fault reported => reported.kind
  | seek _ => .invalidInput
  | unsupported => .unsupported
  | poisoned => .other

end Cause

structure Error where
  operation : Operation
  cause : Cause
  deriving DecidableEq, Repr

/-- How an operation on a body comes out. -/
abbrev Reply (α : Type) := Outcome Error α

namespace Error

def isEnd (error : Error) : Bool :=
  error.cause == .endOfStream

def isClosed (error : Error) : Bool :=
  error.cause == .closed

/-- The same cause, met under another operation. -/
def during (error : Error) (operation : Operation) : Error :=
  { error with operation }

def message (error : Error) : String :=
  let text := error.operation.text ++ " failed; " ++ error.cause.text
  match error.cause.fault? with
  | some fault => text ++ " (" ++ fault.text ++ ")"
  | none => text

/-- A fault met outside any operation on a body. -/
def ofFault (fault : Fault) : Error :=
  ⟨.unknown, .fault fault⟩

/-- The fault under which a byte stream reports the error. -/
def toFault (error : Error) : Fault :=
  .saying error.cause.faultKind error.message

end Error

/-- What a byte stream reports: a fault of its own, or an error of the body that it reads. -/
inductive Failure where
  | plain (fault : Fault)
  | wrapped (error : Error)
  deriving DecidableEq, Repr

namespace Failure

def fault : Failure → Fault
  | plain fault => fault
  | wrapped error => error.toFault

def interrupts (failure : Failure) : Bool :=
  failure.fault.interrupts

end Failure

end Payload
