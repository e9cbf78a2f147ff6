import Payload.Engine.Custody
import Payload.Pump

/-!
# Bodies that read their source where they stand

A source of known length that can be read at a position, or moved and then read, serves every copy
directly: offset `o` of the body is position `base + o` of the source, and nothing is kept.  Reads
at a position share the source and poison nothing when they break off; moving it first needs it
whole.
-/

namespace Payload

/-- The record of the copies of a direct body. -/
structure Direct (σ : Type) where
  custody : Custody σ
  access : Access
  /-- The source's position of offset `0`. -/
  base : Nat
  length : Nat
  /-- How many copies are open. -/
  sharers : Nat := 1

namespace Direct

variable {σ : Type} [Source σ]

/-- The record after a call that left the source so, and perhaps broke off. -/
def returning (direct : Direct σ) (broken : Bool) (source : σ) : Direct σ :=
  { direct with custody := direct.custody.returning broken source }

/-- Move the source to `position`, then read. -/
def seekRead (operation : Operation) (want position : Nat) (direct : Direct σ) :
    Reply (Reading want) × Direct σ :=
  match Source.seek (.start position) direct.custody.source with
  | (.done _, source) =>
    let step := Source.read want source
    (.done step.1, direct.returning step.1.brokeOff step.2)
  | (.failed fault, source) =>
    (.failed ⟨operation, .fault fault⟩, direct.returning false source)
  | (.broke, source) => (.broke, direct.returning true source)

/-- Ask the source once for `want` bytes at `position`. -/
def ask (operation : Operation) (want position : Nat) (direct : Direct σ) :
    Reply (Reading want) × Direct σ :=
  if direct.custody.poisoned then
    (.failed ⟨operation, .poisoned⟩, direct)
  else if !direct.custody.held then
    (.failed ⟨operation, .closed⟩, direct)
  else
    match direct.access with
    | .addressed =>
      if Source.addressable direct.custody.source then
        let step := Source.readAt want position direct.custody.source
        (.done step.1, direct.returning false step.2)
      else
        (.failed ⟨operation, .unsupported⟩, direct)
    | .seeking =>
      if Source.seekable direct.custody.source then
        direct.seekRead operation want position
      else
        (.failed ⟨operation, .unsupported⟩, direct)

/-- Ask for `want` bytes into the front of a buffer, and again after an interruption, at most
`tries` times. -/
def askSteady (operation : Operation) (buffer : Buffer) (want position : Nat) :
    Nat → Direct σ → Reply ByteArray × Direct σ
  | 0, direct => (.broke, direct)
  | tries + 1, direct =>
    match direct.ask operation want position with
    | (.done (.done transfer), next) =>
      match transfer.received? buffer.front with
      | some bytes => (.done bytes, next)
      | none => (.broke, next)
    | (.done (.failed fault), next) =>
      if fault.interrupts then
        askSteady operation buffer want position tries next
      else
        (.failed ⟨operation, .fault fault⟩, next)
    | (.done .broke, next) => (.broke, next)
    | (.failed error, next) => (.failed error, next)
    | (.broke, next) => (.broke, next)

/-- Read `want` bytes at an offset of the body into the front of a buffer. -/
def fetch (operation : Operation) (buffer : Buffer) (want offset : Nat) (direct : Direct σ) :
    Reply ByteArray × Direct σ :=
  let position := direct.base + offset
  if maxOffset < position then
    (.failed ⟨operation,
      .fault (.saying .invalidInput "offset past the addressable end of the source")⟩, direct)
  else
    direct.askSteady operation buffer want position
      (Source.patience direct.custody.source + 1)

/-- Read at the cursor.  A source that has nothing where bytes are expected has ended early, and
that is the end. -/
def read (buffer : Buffer) (direct : Direct σ) (cursor : Cursor) :
    Turn (Direct σ) Cursor ByteArray :=
  if cursor.ended then
    ⟨.failed ⟨.read, .endOfStream⟩, direct, cursor, []⟩
  else if buffer.size = 0 then
    ⟨.done .empty, direct, cursor, []⟩
  else if direct.length ≤ cursor.offset then
    ⟨.failed ⟨.read, .endOfStream⟩, direct, { cursor with ended := true }, []⟩
  else
    let want := min buffer.size (direct.length - cursor.offset)
    match direct.fetch .read buffer want cursor.offset with
    | (.done bytes, next) =>
      if bytes.size = 0 then
        ⟨.failed ⟨.read, .endOfStream⟩, next, { cursor with ended := true }, []⟩
      else
        ⟨.done bytes, next,
          ⟨cursor.offset + bytes.size, want < buffer.size && bytes.size == want⟩, []⟩
    | (.failed error, next) => ⟨.failed error, next, cursor, []⟩
    | (.broke, next) => ⟨.broke, next, cursor, []⟩

/-- Read at an offset, of which those past the end are the end. -/
def readAt (buffer : Buffer) (offset : Nat) (direct : Direct σ) (cursor : Cursor) :
    Turn (Direct σ) Cursor ByteArray :=
  if buffer.size = 0 then
    ⟨.done .empty, direct, cursor, []⟩
  else if direct.length ≤ offset then
    ⟨.failed ⟨.readAt, .endOfStream⟩, direct, cursor, []⟩
  else
    match direct.fetch .readAt buffer (min buffer.size (direct.length - offset)) offset with
    | (.done bytes, next) =>
      if bytes.size = 0 then
        ⟨.failed ⟨.readAt, .endOfStream⟩, next, cursor, []⟩
      else
        ⟨.done bytes, next, cursor, []⟩
    | (.failed error, next) => ⟨.failed error, next, cursor, []⟩
    | (.broke, next) => ⟨.broke, next, cursor, []⟩

/-- Detach a copy.  The last one closes the source. -/
def close (direct : Direct σ) (cursor : Cursor) : Turn (Direct σ) Cursor Unit :=
  let left := { direct with sharers := direct.sharers - 1 }
  if 1 < direct.sharers then
    ⟨.done (), left, cursor, []⟩
  else
    let (reply, custody, notes) := left.custody.close .closingDirect
    ⟨reply, { left with custody }, cursor, notes⟩

def writeTo {τ : Type} [Sink τ] (sink : τ) (direct : Direct σ) (cursor : Cursor) :
    Turn (Direct σ) Cursor Nat × τ :=
  let block := scratch defaultBlock (some (cursor.remaining direct.length))
  pump read (.fresh block) sink direct cursor

/-- Lend the source to a callback. -/
def visit {α : Type} (callback : σ → Option α × σ) (direct : Direct σ) (cursor : Cursor) :
    Turn (Direct σ) Cursor (Option α) :=
  let (reply, custody) := direct.custody.visit callback
  ⟨reply, { direct with custody }, cursor, []⟩

/-- The engine of direct bodies. -/
def engine (σ : Type) [Source σ] : Engine σ (Direct σ) Cursor where
  read := read
  readAt := readAt
  seek offset whence direct cursor := cursor.seek direct.length offset whence direct
  writeTo := writeTo
  copy direct cursor :=
    ⟨.done cursor, { direct with sharers := direct.sharers + 1 }, cursor, []⟩
  close := close
  visit := visit
  bytesRemaining direct cursor := .done (some (cursor.remaining direct.length))
  ended := Cursor.ended
  seekable := true
  range _ := none

end Direct

end Payload
