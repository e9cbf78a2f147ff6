import Payload.Engine.Buffered
import Payload.Engine.Direct
import Payload.Engine.Memory
import Payload.Pool

/-!
# Bodies

A body is a payload that can be copied: each copy reads the same bytes from its own place, whatever
they come from.  A value of `Body` holds all the copies of one payload, and every operation names
its copy; the first one is number 0.

A read gives at least one byte where at least one was asked for, or reports the end or a failure.
The end is reported again until the copy is moved.  The source is closed with the last copy.
-/

namespace Payload

inductive Body (σ : Type) [Source σ] where
  /-- Bytes in memory. -/
  | memory (pool : Pool (Memory.engine σ))
  /-- A source that every copy reads where it stands. -/
  | direct (pool : Pool (Direct.engine σ))
  /-- A source that is read once and kept until the slowest copy has read it. -/
  | buffered (pool : Pool (Buffered.engine σ))

namespace Body

variable {σ α : Type} [Source σ]

/-! ## Making bodies -/

/-- A body over bytes in memory. -/
def ofBytes (data : ByteArray) : Body σ :=
  .memory ⟨data, [some {}]⟩

/-- An open body without bytes. -/
def empty : Body σ :=
  ofBytes .empty

/-- A body that was closed from the start. -/
def closed : Body σ :=
  .memory ⟨.empty, [none]⟩

/-- A body of known length over a source that is read where it stands. -/
def overDirect (source : σ) (access : Access) (base length : Nat) : Body σ :=
  .direct ⟨{ custody := { source }, access, base, length }, [some {}]⟩

/-- A body over a source that is read in sequence. -/
def overSequence (source : σ) (length : Option Nat) (blockSize : Nat) : Body σ :=
  .buffered ⟨Buffered.start source length blockSize, [some {}]⟩

/-! ## Operations -/

/-- Act on the pool inside, whatever kind of body it belongs to. -/
def act (body : Body σ)
    (action : {ρ κ : Type} → {engine : Engine σ ρ κ} → Pool engine → Effect (Pool engine) α) :
    Effect (Body σ) α :=
  match body with
  | memory pool =>
    let effect := action pool
    ⟨effect.reply, .memory effect.state, effect.notes⟩
  | direct pool =>
    let effect := action pool
    ⟨effect.reply, .direct effect.state, effect.notes⟩
  | buffered pool =>
    let effect := action pool
    ⟨effect.reply, .buffered effect.state, effect.notes⟩

/-- Ask the pool inside, whatever kind of body it belongs to. -/
def ask (body : Body σ)
    (question : {ρ κ : Type} → {engine : Engine σ ρ κ} → Pool engine → α) : α :=
  match body with
  | memory pool => question pool
  | direct pool => question pool
  | buffered pool => question pool

/-- Read into a buffer.  The reply has the bytes then found at the front of it. -/
def read (body : Body σ) (index : Nat) (buffer : Buffer) : Effect (Body σ) ByteArray :=
  body.act fun pool => pool.read index buffer

def readAt (body : Body σ) (index : Nat) (buffer : Buffer) (offset : Nat) :
    Effect (Body σ) ByteArray :=
  body.act fun pool => pool.readAt index buffer offset

def seek (body : Body σ) (index : Nat) (offset whence : Int) : Effect (Body σ) Nat :=
  body.act fun pool => pool.seek index offset whence

/-- Write all that a copy has left to a sink. -/
def writeTo {τ : Type} [Sink τ] (body : Body σ) (index : Nat) (sink : τ) :
    Effect (Body σ) Nat × τ :=
  match body with
  | memory pool =>
    let step := pool.writeTo index sink
    (⟨step.1.reply, .memory step.1.state, step.1.notes⟩, step.2)
  | direct pool =>
    let step := pool.writeTo index sink
    (⟨step.1.reply, .direct step.1.state, step.1.notes⟩, step.2)
  | buffered pool =>
    let step := pool.writeTo index sink
    (⟨step.1.reply, .buffered step.1.state, step.1.notes⟩, step.2)

def copy (body : Body σ) (index : Nat) : Effect (Body σ) Unit :=
  body.act fun pool => pool.copy index

def close (body : Body σ) (index : Nat) : Effect (Body σ) Unit :=
  body.act fun pool => pool.close index

def drop (body : Body σ) (index : Nat) : Effect (Body σ) Unit :=
  body.act fun pool => pool.drop index

/-- Lend the source to a callback, where there is one to lend. -/
def visit (body : Body σ) (index : Nat) (callback : σ → Option α × σ) :
    Effect (Body σ) (Option α) :=
  body.act fun pool => pool.visit index callback

/-! ## What can be asked of a copy -/

def copies (body : Body σ) : Nat :=
  body.ask fun pool => pool.copies.length

def isClosed (body : Body σ) (index : Nat) : Bool :=
  body.ask fun pool => pool.isClosed index

/-- Answer how many bytes a copy has left, where it is known. -/
def bytesRemaining (body : Body σ) (index : Nat) : Reply (Option Nat) :=
  body.ask fun pool => pool.bytesRemaining index

def remaining (body : Body σ) (index : Nat) : Option Nat :=
  body.ask fun pool => pool.remaining index

def ended (body : Body σ) (index : Nat) : Bool :=
  body.ask fun pool => pool.ended index

def seekable (body : Body σ) (index : Nat) : Bool :=
  body.ask fun pool => pool.seekable index

def range (body : Body σ) (index : Nat) : Option (Nat × Nat) :=
  body.ask fun pool => pool.range index

/-! ## The source behind a body -/

/-- The source, also after it was closed. -/
def source? : Body σ → Option σ
  | memory _ => none
  | direct pool => some pool.record.custody.source
  | buffered pool => some pool.record.custody.source

/-- The body with its source changed from outside. -/
def mapSource (change : σ → σ) : Body σ → Body σ
  | memory pool => .memory pool
  | direct pool =>
    let custody := pool.record.custody
    .direct { pool with
      record := { pool.record with
        custody := { custody with source := change custody.source } } }
  | buffered pool =>
    let custody := pool.record.custody
    .buffered { pool with
      record := { pool.record with
        custody := { custody with source := change custody.source } } }

end Body

end Payload
