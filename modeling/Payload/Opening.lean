import Payload.Body
import Payload.Options

/-!
# From a source to a body

The length of a source is the one declared, else what its size leaves after the place where it
stands, else what seeking to its end and back measures.  With a length, a source that can be
addressed or moved is read directly; every other is buffered.  A source without bytes is closed at
once.  Nothing is read.
-/

namespace Payload

/-- What came of opening a source. -/
structure Opening (σ : Type) [Source σ] where
  reply : Reply (Body σ)
  /-- The source as opening left it, whether or not a body holds it. -/
  source : σ
  notes : List Note := []

/-- Where a source stands, and the length from there on, where it was measured. -/
structure Stand where
  base : Nat
  length : Option Nat
  deriving DecidableEq, Repr

namespace Opening

variable {σ : Type} [Source σ]

/-- What a source says of its size, unless a length was declared. -/
def reported (declared : Option Nat) (source : σ) : Answer (Option Nat) × σ :=
  if declared.isSome then (.done none, source) else Source.size source

/-- Find where a source stands and, if asked to measure, how far its end is from there, and go
back. -/
def locate (measure : Bool) (source : σ) : Answer Stand × σ :=
  Outcome.andThen (Source.seek (.here 0) source) fun base source =>
    if measure then
      Outcome.andThen (Source.seek (.finish 0) source) fun stop source =>
        Outcome.andThen (Source.seek (.start base) source) fun _ source =>
          (.done ⟨base, some (stop - base)⟩, source)
    else
      (.done ⟨base, none⟩, source)

/-- Make a body over a source of which all is known that can be. -/
def settle (options : Options) (stand : Stand) (notes : List Note) (source : σ) : Opening σ :=
  match stand.length with
  | some 0 =>
    let step := Source.close source
    let reply :=
      match step.1 with
      | .done () => .done Body.empty
      | .failed fault => .failed ⟨.close, .fault fault⟩
      | .broke => .broke
    { reply, source := step.2, notes := notes ++ [.zeroLength] }
  | some length =>
    if Source.addressable source then
      { reply := .done (Body.overDirect source .addressed stand.base length)
        source
        notes := notes ++ [.direct .addressed length stand.base] }
    else if Source.seekable source then
      { reply := .done (Body.overDirect source .seeking stand.base length)
        source
        notes := notes ++ [.direct .seeking length stand.base] }
    else
      { reply := .done (Body.overSequence source (some length) options.blockSize)
        source
        notes := notes ++ [.sequential (some length)] }
  | none =>
    { reply := .done (Body.overSequence source none options.blockSize)
      source
      notes := notes ++ [.sequential none] }

/-- The length from `base` on, by what was declared, measured or reported. -/
def lengthFrom (base : Nat) (declared measured reported : Option Nat) : Option Nat :=
  declared <|> measured <|> reported.map (· - base)

/-- Go on once the size is known or known to be unknown. -/
def place (options : Options) (reported : Option Nat) (source : σ) : Opening σ :=
  if Source.seekable source then
    match locate (options.length.isNone && reported.isNone) source with
    | (.done stand, next) =>
      let notes := if stand.length.isSome then [.measured stand.base] else []
      settle options
        ⟨stand.base, lengthFrom stand.base options.length stand.length reported⟩ notes next
    | (.failed fault, next) =>
      if options.length.isSome then
        settle options ⟨0, options.length⟩ [.positionUnknown fault] next
      else
        { reply := .failed ⟨.probeSeek, .fault fault⟩, source := next }
    | (.broke, next) => { reply := .broke, source := next }
  else
    settle options ⟨0, lengthFrom 0 options.length none reported⟩ [] source

end Opening

/-- Open a body over a source, from where it stands. -/
def Body.open {σ : Type} [Source σ] (source : σ) (options : Options) : Opening σ :=
  match Opening.reported options.length source with
  | (.done reported, next) => Opening.place options reported next
  | (.failed fault, next) => { reply := .failed ⟨.probeSize, .fault fault⟩, source := next }
  | (.broke, next) => { reply := .broke, source := next }

end Payload
