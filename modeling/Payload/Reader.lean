import Payload.Body

/-!
# Bodies as byte streams

A byte stream reports its end by a read of no bytes, asks again after an interruption, and can be
read exactly, or to its end, in one call.  The loops here work over any state with a read of this
shape; one that goes on for ever never comes back.
-/

namespace Payload

/-- A read of at most so many bytes that takes a state along. -/
abbrev StreamRead (state : Type) := Nat → state → Outcome Failure ByteArray × state

namespace StreamRead

variable {state : Type} (read : StreamRead state)

/-! ## Reading exactly -/

/-- The fault of a stream that ends before a buffer is full. -/
def notFilled : Fault :=
  .saying .unexpectedEof "failed to fill whole buffer"

/-- Read as many more bytes as are wanted, after those read so far.  There is no outcome where
interruptions go on for ever. -/
def exactly? : StateT (Nat × ByteArray × state) Option (Outcome Failure Unit) :=
  fun (want, content, current) =>
    if want = 0 then
      some (.done (), want, content, current)
    else
      match read want current with
      | (.done bytes, next) =>
        if bytes.size = 0 then
          some (.failed (.plain notFilled), want, content, next)
        else
          exactly?.run (want - bytes.size, content ++ bytes, next)
      | (.failed failure, next) =>
        if failure.interrupts then
          exactly?.run (want, content, next)
        else
          some (.failed failure, want, content, next)
      | (.broke, next) => some (.broke, want, content, next)
partial_fixpoint

/-! ## Reading to the end -/

/-- The size of a first read, and the least that a further one asks for. -/
def probe : Nat := 32

/-- The most bytes of one read, before the stream has filled a read of that size. -/
def firstLimit : Nat := 8192

/-- The room for the bytes read so far, the most that one read may ask for, and what is left of the
stretch that the last reads went into. -/
structure Room where
  capacity : Nat := 0
  limit : Nat := firstLimit
  stretch : Nat := 0
  deriving DecidableEq, Repr

namespace Room

/-- Make room for `count` bytes past the `size` in use: at least twice the room there was. -/
def reserve (room : Room) (size count : Nat) : Room :=
  if size + count ≤ room.capacity then
    room
  else
    { room with capacity := max (max (2 * room.capacity) (size + count)) 8 }

/-- The room before a read, when `size` bytes are in use.  A stretch is kept for as long as it has
the bytes of a probe left; after that comes a new one, as long as room and limit allow. -/
def ready (room : Room) (size : Nat) : Room :=
  if probe ≤ room.stretch then
    room
  else
    let room := room.reserve size probe
    { room with stretch := min (room.capacity - size) room.limit }

/-- The room after a read into the stretch gave so many bytes.  The limit doubles when the read
asked for all that the limit allows and was filled. -/
def taken (room : Room) (given : Nat) : Room :=
  let filled := room.limit ≤ room.stretch ∧ given = room.stretch
  { room with
    limit := if filled then 2 * room.limit else room.limit
    stretch := room.stretch - given }

end Room

/-- Read to the end with growing room, after the bytes read so far.  There is no outcome where there
is no end. -/
def Room.onward? (room : Room) : StateT (ByteArray × state) Option (Outcome Failure Unit) :=
  fun (content, current) =>
    let room := room.ready content.size
    match read room.stretch current with
    | (.done bytes, next) =>
      if bytes.size = 0 then
        some (.done (), content, next)
      else
        let room := room.taken bytes.size
        room.onward?.run (content ++ bytes, next)
    | (.failed failure, next) =>
      if failure.interrupts then
        room.onward?.run (content, next)
      else
        some (.failed failure, content, next)
    | (.broke, next) => some (.broke, content, next)
partial_fixpoint

/-- Read to the end: a small read first, to see whether there is anything.  The bytes read before a
failure are kept. -/
def toEnd? : StateT (ByteArray × state) Option (Outcome Failure Unit) :=
  fun (content, current) =>
    match read probe current with
    | (.done bytes, next) =>
      if bytes.size = 0 then
        some (.done (), content, next)
      else
        (({} : Room).reserve content.size bytes.size).onward? read (content ++ bytes, next)
    | (.failed failure, next) =>
      if failure.interrupts then
        toEnd?.run (content, next)
      else
        some (.failed failure, content, next)
    | (.broke, next) => some (.broke, content, next)
partial_fixpoint

end StreamRead

/-! ## The stream of a copy -/

/-- What a byte stream makes of the reply to a read. -/
def Reply.asStream : Reply ByteArray → Outcome Failure ByteArray
  | .done bytes => .done bytes
  | .failed error => if error.isEnd then .done .empty else .failed (.wrapped error)
  | .broke => .broke

namespace Body

variable {σ : Type} [Source σ]

/-- A body with what it noted so far, the latest first. -/
structure Noted (σ : Type) [Source σ] where
  body : Body σ
  latest : List Note := []

/-- The body after a further operation. -/
def Noted.after {α : Type} (noted : Noted σ) (effect : Effect (Body σ) α) : Noted σ :=
  ⟨effect.state, effect.notes.reverse ++ noted.latest⟩

/-- The notes in their order. -/
def Noted.notes (noted : Noted σ) : List Note :=
  noted.latest.reverse

/-- One read of a copy as a byte stream. -/
def streamRead (index : Nat) : StreamRead (Noted σ) := fun want noted =>
  let effect := noted.body.read index (.fresh want)
  (effect.reply.asStream, noted.after effect)

/-- Read exactly so many bytes of a copy. -/
def readExactly (body : Body σ) (index want : Nat) : Outcome Failure ByteArray × Noted σ :=
  match (streamRead index).exactly? (want, .empty, ⟨body, []⟩) with
  | some (outcome, _, content, noted) => (outcome.map fun () => content, noted)
  | none => (.broke, ⟨body, []⟩)

/-- Read a copy to its end.  The bytes read before a failure are kept. -/
def readToEnd (body : Body σ) (index : Nat) : Outcome Failure Unit × ByteArray × Noted σ :=
  ((streamRead index).toEnd? (.empty, ⟨body, []⟩)).getD (.broke, .empty, ⟨body, []⟩)

/-- Seek a copy as a byte stream. -/
def seekStream (body : Body σ) (index : Nat) (origin : Origin) :
    Outcome Failure Nat × Noted σ :=
  let (offset, whence) := origin.split
  let effect := body.seek index offset whence
  (effect.reply.mapFailure .wrapped, Noted.after ⟨body, []⟩ effect)

end Body

end Payload
