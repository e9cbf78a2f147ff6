import Payload.Bytes
import Payload.Fault
import Payload.Outcome
import Payload.Seek

/-!
# Sources of bytes

A source is any state with the calls of `Source`: reading in sequence, and, where it offers them,
its size, seeking, and reads at a position that leave the cursor alone.  Every call answers and
leaves a next state, and a call may break off.

An interruption asks for the same call again, and how often that may happen is announced by
`patience`; loops that ask again take their bound from there.  A source may also claim to have given
bytes that it did not write.
-/

namespace Payload

/-- What a read puts into a buffer of `want` bytes. -/
inductive Transfer (want : Nat) where
  /-- These bytes, at the front. -/
  | bytes (content : ByteArray) (fits : content.size ≤ want)
  /-- Nothing, although so many bytes are claimed, be it more than there is room for. -/
  | claim (count : Nat)

namespace Transfer

variable {want : Nat}

/-- The number of bytes that the source says it gave. -/
def count : Transfer want → Nat
  | bytes content _ => content.size
  | claim count => count

/-- The bytes that a reader takes for read: those it was given or, where they are only claimed,
those it finds at the front of its buffer.  A claim of more than there is room for is absurd. -/
def received? (front : Nat → ByteArray) : Transfer want → Option ByteArray
  | bytes content _ => some content
  | claim count => if count ≤ want then some (front count) else none

theorem size_le_of_received?_eq_some {front : Nat → ByteArray}
    (sized : ∀ count, (front count).size = count) {transfer : Transfer want} {bytes : ByteArray}
    (received : transfer.received? front = some bytes) : bytes.size ≤ want := by
  cases transfer with
  | bytes content fits =>
      cases received
      exact fits
  | claim count =>
      simp only [received?] at received
      split at received
      · cases received
        rw [sized]
        assumption
      · cases received

/-- As many bytes are received as the source says it gave. -/
theorem size_of_received?_eq_some {front : Nat → ByteArray}
    (sized : ∀ count, (front count).size = count) {transfer : Transfer want} {bytes : ByteArray}
    (received : transfer.received? front = some bytes) : bytes.size = transfer.count := by
  cases transfer with
  | bytes content fits =>
      cases received
      rfl
  | claim count =>
      simp only [received?] at received
      split at received
      · cases received
        exact sized count
      · cases received

/-- Where no bytes are given, none are received. -/
theorem received?_of_count_eq_zero {front : Nat → ByteArray}
    (sized : ∀ count, (front count).size = count) {transfer : Transfer want}
    (nothing : transfer.count = 0) :
    ∃ content, transfer.received? front = some content ∧ content.size = 0 := by
  cases transfer with
  | bytes content fits => exact ⟨content, rfl, nothing⟩
  | claim count =>
      cases nothing
      exact ⟨front 0, rfl, sized 0⟩

theorem received?_eq_none_iff {front : Nat → ByteArray} {transfer : Transfer want} :
    transfer.received? front = none ↔ want < transfer.count := by
  cases transfer with
  | bytes content fits =>
      constructor
      · intro absent
        cases absent
      · intro excess
        exact absurd fits (Nat.not_le.mpr excess)
  | claim count => simp [received?, Transfer.count]

end Transfer

/-- How a call to a source comes out. -/
abbrev Answer (α : Type) := Outcome Fault α

/-- How a read into a buffer of `want` bytes comes out. -/
abbrev Reading (want : Nat) := Answer (Transfer want)

class Source (σ : Type) where
  /-- The total size that the source reports about itself. -/
  size : σ → Answer (Option Nat) × σ
  /-- Whether the source offers to seek. -/
  seekable : σ → Bool
  /-- Whether the source offers reads at a position. -/
  addressable : σ → Bool
  read : (want : Nat) → σ → Reading want × σ
  readAt : (want position : Nat) → σ → Reading want × σ
  seek : Origin → σ → Answer Nat × σ
  close : σ → Answer Unit × σ
  /-- How many more calls the source may interrupt. -/
  patience : σ → Nat

namespace Source

variable {σ : Type} [Source σ]

/-- Read in sequence, asking again after an interruption, at most `tries` times. -/
def readSteady (want : Nat) : Nat → σ → Reading want × σ
  | 0, source => (.broke, source)
  | tries + 1, source =>
    match Source.read want source with
    | (.failed fault, next) =>
      if fault.interrupts then readSteady want tries next else (.failed fault, next)
    | (reading, next) => (reading, next)

/-- What a read of `want` bytes gives when it finds `content`. -/
def yields (want : Nat) (content : ByteArray) : Reading want :=
  if fits : content.size ≤ want then
    .done (.bytes content fits)
  else
    .done (.claim content.size)

end Source

end Payload
