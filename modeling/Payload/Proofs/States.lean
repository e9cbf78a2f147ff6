import Payload.Proofs.Buffered.Demand
import Payload.Proofs.Buffered.Metering
import Payload.Proofs.Closing

/-!
# The states that a body is brought to

What is claimed of a body in every state is claimed of each that a run leads to from a new one.
Bodies in memory and direct bodies need no more said of them.  A buffered body is orderly: its books
are balanced, its copies have met no end but the one on record, and the length agrees with both.
-/

namespace Payload

namespace Buffered

variable {σ τ : Type} [Source σ] [Sink τ]

/-- What is true of the copies of a buffered body after every run. -/
structure Orderly (pool : Pool (engine σ)) : Prop where
  balanced : Balanced pool
  agreed : Agreed pool
  measured : Measured pool.record
  blocks : 0 < pool.record.blockSize

theorem orderly_fresh (source : σ) (length : Option Nat) (blockSize : Nat) :
    Orderly (fresh source length blockSize) where
  balanced := balanced_fresh source length blockSize
  agreed := agreed_fresh source length blockSize
  measured := measured_fresh source length blockSize
  blocks := Nat.lt_of_lt_of_le Nat.one_pos (Nat.le_max_right _ _)

namespace Orderly

variable {lends : (σ → Option Unit × σ) → Prop} {pool next : Pool (engine σ)} {index : Nat}
  {cursor : Cursor}

theorem step (orderly : Orderly pool) (step : Step lends pool next) : Orderly next where
  balanced := orderly.balanced.step step
  agreed := orderly.agreed.step orderly.balanced step
  measured := orderly.measured.step step
  blocks := step.blockSize_eq ▸ orderly.blocks

theorem afterRun (orderly : Orderly pool) (uses : List (Use σ τ)) :
    Orderly (pool.afterRun uses) :=
  (afterRun_keeps (fun _ => True) (fun _ kept step => kept.step step) orderly.balanced orderly
    fun use _ => use.lends_any).2

/-- All that a read of an open copy can come to. -/
theorem reads (orderly : Orderly pool) (found : pool.cursor? index = some cursor) (want : Nat) :
    Reads want pool.record cursor (pool.record.read want cursor) :=
  reads_read (orderly.balanced.tidy (Pool.openCount_pos found)) (orderly.balanced.standing found)
    want

/-- A copy is read on while it is read out. -/
theorem reads_put {record : Buffered σ} {current : Cursor}
    (orderly : Orderly (pool.put index record current))
    (found : pool.cursor? index = some cursor) (want : Nat) :
    Reads want record current (record.read want current) ∧
      Orderly (pool.put index (record.read want current).record
        (record.read want current).cursor) := by
  have here := Pool.cursor?_put_self found record current
  have reads := orderly.reads here want
  have step : Step (fun _ => True) (pool.put index record current)
      ((pool.put index record current).put index (record.read want current).record
        (record.read want current).cursor) := .read here reads
  rw [Pool.put_put] at step
  exact ⟨reads, orderly.step step⟩

end Orderly

end Buffered

namespace Body

variable {σ τ : Type} [Source σ] [Sink τ] {good : σ → Prop}

/-- A body as it is made. -/
inductive New : Body σ → Prop where
  | closed : New .closed
  | ofBytes (data : ByteArray) : New (.ofBytes data)
  | overDirect (source : σ) (access : Access) (base length : Nat) :
      New (.overDirect source access base length)
  | overSequence (source : σ) (length : Option Nat) (blockSize : Nat) :
      New (.overSequence source length blockSize)

/-- A body whose copies are orderly, if it is buffered. -/
inductive Orderly : Body σ → Prop where
  | memory (pool : Pool (Memory.engine σ)) : Orderly (.memory pool)
  | direct (pool : Pool (Direct.engine σ)) : Orderly (.direct pool)
  | buffered {pool : Pool (Buffered.engine σ)} (orderly : Buffered.Orderly pool) :
      Orderly (.buffered pool)

theorem New.orderly {body : Body σ} (new : New body) : Orderly body := by
  cases new with
  | closed => exact .memory _
  | ofBytes data => exact .memory _
  | overDirect source access base length => exact .direct _
  | overSequence source length blockSize =>
      exact .buffered (Buffered.orderly_fresh source length blockSize)

theorem Orderly.afterRun {body : Body σ} (orderly : Orderly body) (uses : List (Use σ τ)) :
    Orderly (body.afterRun uses) := by
  cases orderly with
  | memory pool =>
      rw [Body.afterRun, run_memory]
      exact .memory _
  | direct pool =>
      rw [afterRun_direct]
      exact .direct _
  | buffered orderly =>
      rw [afterRun_buffered]
      exact .buffered (orderly.afterRun uses)

/-- An orderly body over such a source, if it is over one. -/
inductive Fit (good : σ → Prop) : Body σ → Prop where
  | memory (pool : Pool (Memory.engine σ)) : Fit good (.memory pool)
  | direct {pool : Pool (Direct.engine σ)} (fine : good pool.record.custody.source) :
      Fit good (.direct pool)
  | buffered {pool : Pool (Buffered.engine σ)} (orderly : Buffered.Orderly pool)
      (fine : good pool.record.custody.source) : Fit good (.buffered pool)

theorem Orderly.fit {body : Body σ} (orderly : body.Orderly)
    (fine : ∀ source, body.source? = some source → good source) : body.Fit good := by
  cases orderly with
  | memory pool => exact .memory pool
  | direct pool => exact .direct (fine _ rfl)
  | buffered orderly => exact .buffered orderly (fine _ rfl)

theorem Fit.orderly {body : Body σ} (fit : body.Fit good) : body.Orderly := by
  cases fit with
  | memory pool => exact .memory pool
  | direct fine => exact .direct _
  | buffered orderly fine => exact .buffered orderly

/-- Where an open copy stands. -/
def offset? (body : Body σ) (index : Nat) : Option Nat :=
  match body with
  | memory pool => (pool.cursor? index).map Cursor.offset
  | direct pool => (pool.cursor? index).map Cursor.offset
  | buffered pool => (pool.cursor? index).map Buffered.Cursor.offset

/-- The length of the stream that a buffered body reads, once it is known. -/
def length? : Body σ → Option Nat
  | buffered pool => pool.record.length
  | _ => none

/-- The size of the pieces in which a copy is read out, unless it is offered as it lies in
memory. -/
def scratch? (body : Body σ) (index : Nat) : Option Nat :=
  match body with
  | memory _ => none
  | direct _ => some (scratch defaultBlock (body.remaining index))
  | buffered pool => some (scratch pool.record.blockSize (body.remaining index))

end Body

end Payload
