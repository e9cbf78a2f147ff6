import Payload.Engine

/-!
# The copies of one body

A pool is all that was ever copied from one body: the record that its copies share and, copy by
copy, a cursor as long as the copy is open.  Every operation names its copy.  A copy that is closed,
or was never there, has nothing to read and nothing to close.
-/

namespace Payload

structure Pool {σ ρ κ : Type} (engine : Engine σ ρ κ) where
  record : ρ
  /-- The cursors of the copies in the order of their making, none for a closed copy. -/
  copies : List (Option κ)

/-- How an operation comes out, with what it leaves and what it noted on the way. -/
structure Effect (state α : Type) where
  reply : Reply α
  state : state
  notes : List Note := []

namespace Pool

variable {σ ρ κ α : Type} {engine : Engine σ ρ κ}

/-- The cursor of an open copy. -/
def cursor? (pool : Pool engine) (index : Nat) : Option κ :=
  pool.copies[index]?.join

/-- The pool after a turn of one copy. -/
def after (pool : Pool engine) (index : Nat) (turn : Turn ρ κ α) : Effect (Pool engine) α :=
  { reply := turn.reply
    state := ⟨turn.record, pool.copies.set index (some turn.cursor)⟩
    notes := turn.notes }

/-- Let an open copy act; a closed one answers that it is closed. -/
def act (pool : Pool engine) (index : Nat) (operation : Operation)
    (turn : ρ → κ → Turn ρ κ α) : Effect (Pool engine) α :=
  match pool.cursor? index with
  | some cursor => pool.after index (turn pool.record cursor)
  | none => { reply := .failed ⟨operation, .closed⟩, state := pool }

def read (pool : Pool engine) (index : Nat) (buffer : Buffer) : Effect (Pool engine) ByteArray :=
  pool.act index .read (engine.read buffer)

def readAt (pool : Pool engine) (index : Nat) (buffer : Buffer) (offset : Nat) :
    Effect (Pool engine) ByteArray :=
  pool.act index .readAt (engine.readAt buffer offset)

def seek (pool : Pool engine) (index : Nat) (offset whence : Int) : Effect (Pool engine) Nat :=
  pool.act index .seek (engine.seek offset whence)

/-- Write all that a copy has left to a sink. -/
def writeTo {τ : Type} [Sink τ] (pool : Pool engine) (index : Nat) (sink : τ) :
    Effect (Pool engine) Nat × τ :=
  match pool.cursor? index with
  | some cursor =>
    let step := engine.writeTo sink pool.record cursor
    (pool.after index step.1, step.2)
  | none => ({ reply := .failed ⟨.writeTo, .closed⟩, state := pool }, sink)

/-- Make one more copy.  A copy of a closed one is closed. -/
def copy (pool : Pool engine) (index : Nat) : Effect (Pool engine) Unit :=
  match pool.cursor? index with
  | none => { reply := .done (), state := { pool with copies := pool.copies ++ [none] } }
  | some cursor =>
    let turn := engine.copy pool.record cursor
    match turn.reply with
    | .done twin =>
      { reply := .done ()
        state := ⟨turn.record, pool.copies.set index (some turn.cursor) ++ [some twin]⟩
        notes := turn.notes }
    | .failed error => pool.after index (turn.replying (.failed error))
    | .broke => pool.after index (turn.replying .broke)

/-- Close a copy.  It is closed whatever comes of it. -/
def close (pool : Pool engine) (index : Nat) : Effect (Pool engine) Unit :=
  match pool.cursor? index with
  | none => { reply := .failed ⟨.close, .closed⟩, state := pool }
  | some cursor =>
    let turn := engine.close pool.record cursor
    { reply := turn.reply
      state := ⟨turn.record, pool.copies.set index none⟩
      notes := turn.notes }

/-- Let go of a copy: close it if it is open, and only note an error of that. -/
def drop (pool : Pool engine) (index : Nat) : Effect (Pool engine) Unit :=
  match pool.cursor? index with
  | none => { reply := .done (), state := pool }
  | some _ =>
    let closed := pool.close index
    match closed.reply with
    | .failed error =>
      { closed with reply := .done (), notes := closed.notes ++ [.discarded error] }
    | _ => closed

/-- Lend the source to a callback, where there is one to lend. -/
def visit (pool : Pool engine) (index : Nat) (callback : σ → Option α × σ) :
    Effect (Pool engine) (Option α) :=
  match pool.cursor? index with
  | some cursor => pool.after index (engine.visit callback pool.record cursor)
  | none => { reply := .done none, state := pool }

/-! ## What can be asked of a copy -/

def isClosed (pool : Pool engine) (index : Nat) : Bool :=
  (pool.cursor? index).isNone

/-- Answer how many bytes a copy has left, where it is known. -/
def bytesRemaining (pool : Pool engine) (index : Nat) : Reply (Option Nat) :=
  match pool.cursor? index with
  | some cursor => engine.bytesRemaining pool.record cursor
  | none => .done (some 0)

/-- The number of bytes that a copy has left, where the answer comes back and it is known. -/
def remaining (pool : Pool engine) (index : Nat) : Option Nat :=
  match pool.cursor? index with
  | some cursor => engine.remaining pool.record cursor
  | none => some 0

/-- Whether a copy has come to its end or to a failure. -/
def ended (pool : Pool engine) (index : Nat) : Bool :=
  (pool.cursor? index).any engine.ended

def seekable (pool : Pool engine) (index : Nat) : Bool :=
  !pool.isClosed index && engine.seekable

/-- The stretch of the stream that is kept for all copies. -/
def range (pool : Pool engine) (index : Nat) : Option (Nat × Nat) :=
  match pool.cursor? index with
  | some _ => engine.range pool.record
  | none => none

end Pool

end Payload
