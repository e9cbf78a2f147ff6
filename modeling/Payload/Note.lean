import Payload.Error

/-!
# Notes for a log

The events that a body reports while it works, and the line that a log shows for each.
-/

namespace Payload

/-- How a buffered stream came to its end. -/
inductive Terminal where
  | ended
  | failed (fault : Fault)
  deriving DecidableEq, Repr

namespace Terminal

/-- The error that a cursor stopped at this end reports. -/
def error (operation : Operation) : Terminal → Error
  | ended => ⟨operation, .endOfStream⟩
  | failed fault => ⟨operation, .fault fault⟩

def inspect : Terminal → String
  | ended => "Eos"
  | failed fault => "Failed(" ++ fault.inspect ++ ")"

end Terminal

/-- How the bytes of a direct body are addressed. -/
inductive Access where
  /-- By reads that name their position. -/
  | addressed
  /-- By moving the source before each read. -/
  | seeking
  deriving DecidableEq, Repr

inductive Note where
  | measured (base : Nat)
  | positionUnknown (fault : Fault)
  | zeroLength
  | direct (access : Access) (length base : Nat)
  | sequential (length : Option Nat)
  | trimming (start least : Nat)
  | buffered (count start stop : Nat)
  | cameToEnd (terminal : Terminal) (stop : Nat)
  | closingDirect
  | closingBuffered
  | discarded (error : Error)
  deriving DecidableEq, Repr

/-- How much detail a log must ask for to show a note. -/
inductive Note.Level where
  | debug
  | trace
  deriving DecidableEq, Repr

namespace Note

def level : Note → Level
  | trimming .. => .trace
  | buffered .. => .trace
  | cameToEnd .. => .trace
  | _ => .debug

/-- A number that may be missing, in diagnostic output. -/
def optional : Option Nat → String
  | none => "None"
  | some number => s!"Some({number})"

def text : Note → String
  | measured base => s!"measured seekable source by seeking from {base}"
  | positionUnknown fault =>
    "couldn't find the source position, reading the declared length from 0: " ++ fault.text
  | zeroLength => "source has zero length, closing it and using an empty body"
  | direct .addressed length base => s!"reading {length} bytes from {base} with addressed reads"
  | direct .seeking length base => s!"reading {length} bytes from {base} by seeking"
  | sequential length => "buffering sequential source, length " ++ optional length
  | trimming start least => s!"trimming buffer from {start} to {least}"
  | buffered count start stop => s!"buffered {count} bytes, window now {start}..{stop}"
  | cameToEnd terminal stop =>
    "source reached terminal state " ++ terminal.inspect ++ s!" at {stop}"
  | closingDirect => "closing random-access source after its last body detached"
  | closingBuffered => "closing buffered source after its last body detached"
  | discarded error => "discarded error closing dropped body: " ++ error.message

end Note

end Payload
