import Payload.Text.Quoted

/-!
# Faults of sources and sinks

A fault is what a source or a sink answers instead of doing what it was asked: a kind, and a message
of its own where it has one.  `Fault.text` is what a reader is told and `Fault.inspect` the form
that diagnostic output shows.
-/

namespace Payload

/-- What went wrong, independent of who reports it. -/
inductive FaultKind where
  | notFound
  | permissionDenied
  | connectionReset
  | brokenPipe
  | alreadyExists
  | wouldBlock
  | invalidInput
  | invalidData
  | timedOut
  | writeZero
  | interrupted
  | unsupported
  | unexpectedEof
  | outOfMemory
  | notSeekable
  | other
  deriving DecidableEq, Repr

namespace FaultKind

/-- The kind's name in diagnostic output. -/
def name : FaultKind → String
  | notFound => "NotFound"
  | permissionDenied => "PermissionDenied"
  | connectionReset => "ConnectionReset"
  | brokenPipe => "BrokenPipe"
  | alreadyExists => "AlreadyExists"
  | wouldBlock => "WouldBlock"
  | invalidInput => "InvalidInput"
  | invalidData => "InvalidData"
  | timedOut => "TimedOut"
  | writeZero => "WriteZero"
  | interrupted => "Interrupted"
  | unsupported => "Unsupported"
  | unexpectedEof => "UnexpectedEof"
  | outOfMemory => "OutOfMemory"
  | notSeekable => "NotSeekable"
  | other => "Other"

/-- What a fault of this kind says when it has no message of its own. -/
def text : FaultKind → String
  | notFound => "entity not found"
  | permissionDenied => "permission denied"
  | connectionReset => "connection reset"
  | brokenPipe => "broken pipe"
  | alreadyExists => "entity already exists"
  | wouldBlock => "operation would block"
  | invalidInput => "invalid input parameter"
  | invalidData => "invalid data"
  | timedOut => "timed out"
  | writeZero => "write zero"
  | interrupted => "operation interrupted"
  | unsupported => "unsupported"
  | unexpectedEof => "unexpected end of file"
  | outOfMemory => "out of memory"
  | notSeekable => "seek on unseekable file"
  | other => "other error"

end FaultKind

/-- What a fault says beyond its kind. -/
inductive Fault.Detail where
  /-- Nothing. -/
  | plain
  /-- A message of its own. -/
  | told (message : String)
  /-- The operating system's number and message. -/
  | system (code : Nat) (message : String)
  deriving DecidableEq, Repr

structure Fault where
  kind : FaultKind
  detail : Fault.Detail := .plain
  deriving DecidableEq, Repr

namespace Fault

/-- A fault with a message of its own. -/
def saying (kind : FaultKind) (message : String) : Fault :=
  ⟨kind, .told message⟩

/-- An interruption did no work and asks for the same call again. -/
def interrupts (fault : Fault) : Bool :=
  fault.kind == .interrupted

def text (fault : Fault) : String :=
  match fault.detail with
  | .plain => fault.kind.text
  | .told message => message
  | .system code message => s!"{message} (os error {code})"

def inspect (fault : Fault) : String :=
  match fault.detail with
  | .plain => "Kind(" ++ fault.kind.name ++ ")"
  | .told message =>
    "Custom \x7b kind: " ++ fault.kind.name ++ ", error: " ++ Text.quoted message ++ " \x7d"
  | .system code message =>
    "Os \x7b code: " ++ toString code ++ ", kind: " ++ fault.kind.name ++ ", message: "
      ++ Text.quoted message ++ " \x7d"

end Fault

end Payload
