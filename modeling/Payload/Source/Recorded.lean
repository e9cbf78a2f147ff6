import Payload.Source

/-!
# Sources under observation

A recorded source does what the source inside it does and writes down each call with what came of
it.  Questions about what a source offers leave no entry.
-/

namespace Payload

/-- A call to a source. -/
inductive Call where
  | size
  | read (want : Nat)
  | readAt (position want : Nat)
  | seek (origin : Origin)
  | close
  deriving DecidableEq, Repr

def Call.text : Call → String
  | size => "size"
  | read want => s!"read {want}"
  | readAt position want => s!"read_at {position}+{want}"
  | seek (.start position) => s!"seek start {position}"
  | seek (.here offset) => s!"seek current {offset}"
  | seek (.finish offset) => s!"seek end {offset}"
  | close => "close"

/-- What came of a call, without the bytes. -/
inductive Mark where
  | number (value : Nat)
  | nothing
  | fine
  | failed (kind : FaultKind)
  | broke
  deriving DecidableEq, Repr

namespace Mark

def text : Mark → String
  | number value => toString value
  | nothing => "none"
  | fine => "ok"
  | failed kind => "err " ++ kind.name
  | broke => "panic"

/-- The mark of an answer, given the mark of the value in it. -/
def ofAnswer {α : Type} (mark : α → Mark) : Answer α → Mark
  | .done value => mark value
  | .failed fault => failed fault.kind
  | .broke => broke

def ofSize : Option Nat → Mark
  | some size => number size
  | none => nothing

def ofTransfer {want : Nat} (transfer : Transfer want) : Mark :=
  number transfer.count

end Mark

structure Entry where
  call : Call
  mark : Mark
  deriving DecidableEq, Repr

def Entry.text (entry : Entry) : String :=
  entry.call.text ++ " -> " ++ entry.mark.text

/-- A source and the calls made to it, the latest first. -/
structure Recorded (σ : Type) where
  source : σ
  entries : List Entry := []

namespace Recorded

variable {σ α : Type}

/-- Write down a call and carry on with the state that it left. -/
def after (recorded : Recorded σ) (call : Call) (mark : α → Mark) (step : Answer α × σ) :
    Answer α × Recorded σ :=
  (step.1, ⟨step.2, ⟨call, .ofAnswer mark step.1⟩ :: recorded.entries⟩)

/-- The calls in the order in which they were made. -/
def calls (recorded : Recorded σ) : List Entry :=
  recorded.entries.reverse

/-- A callback on the source inside, whose own calls stay off the record. -/
def unseen (callback : σ → Option α × σ) (recorded : Recorded σ) : Option α × Recorded σ :=
  let step := callback recorded.source
  (step.1, { recorded with source := step.2 })

/-- Start over with an empty record. -/
def forget (recorded : Recorded σ) : Recorded σ :=
  { recorded with entries := [] }

instance [Source σ] : Source (Recorded σ) where
  size recorded := recorded.after .size Mark.ofSize (Source.size recorded.source)
  seekable recorded := Source.seekable recorded.source
  addressable recorded := Source.addressable recorded.source
  read want recorded :=
    recorded.after (.read want) Mark.ofTransfer (Source.read want recorded.source)
  readAt want position recorded :=
    recorded.after (.readAt position want) Mark.ofTransfer
      (Source.readAt want position recorded.source)
  seek origin recorded :=
    recorded.after (.seek origin) Mark.number (Source.seek origin recorded.source)
  close recorded := recorded.after .close (fun _ => Mark.fine) (Source.close recorded.source)
  patience recorded := Source.patience recorded.source

end Recorded

end Payload
