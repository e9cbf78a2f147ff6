import Payload.Source

/-!
# Sources with part of their offer withheld

A source can be handed over as a mere sequence of bytes, or as one that also seeks.  What is
withheld is neither offered nor passed on: in particular the source inside is then not closed.
-/

namespace Payload

/-- Which part of a source is handed over. -/
inductive Reach where
  | everything
  | seeking
  | reading
  deriving DecidableEq, Repr

structure Restricted (σ : Type) where
  inner : σ
  reach : Reach := .everything

namespace Restricted

variable {σ α : Type}

/-- Hand over a part of what is handed over. -/
def limit (reach : Reach) (restricted : Restricted σ) : Restricted σ :=
  { restricted with reach }

/-- Carry on with the state that a call to the source inside left. -/
def passing (restricted : Restricted σ) (step : α × σ) : α × Restricted σ :=
  (step.1, { restricted with inner := step.2 })

/-- Pass a call on only where everything is handed over. -/
def ifWhole (restricted : Restricted σ) (otherwise : α) (step : σ → α × σ) :
    α × Restricted σ :=
  match restricted.reach with
  | .everything => restricted.passing (step restricted.inner)
  | _ => (otherwise, restricted)

instance [Source σ] : Source (Restricted σ) where
  size restricted := restricted.ifWhole (.done none) Source.size
  seekable restricted :=
    match restricted.reach with
    | .everything => Source.seekable restricted.inner
    | .seeking => true
    | .reading => false
  addressable restricted :=
    match restricted.reach with
    | .everything => Source.addressable restricted.inner
    | _ => false
  read want restricted := restricted.passing (Source.read want restricted.inner)
  readAt want position restricted :=
    restricted.passing (Source.readAt want position restricted.inner)
  seek origin restricted := restricted.passing (Source.seek origin restricted.inner)
  close restricted := restricted.ifWhole (.done ()) Source.close
  patience restricted := Source.patience restricted.inner

end Restricted

end Payload
