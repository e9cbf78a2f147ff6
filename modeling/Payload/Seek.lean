import Payload.Bytes

/-!
# Positions named relative to a stream

A seek names its goal from the start, from where the cursor stands, or from the end.  Sources take
such a goal as an `Origin`; a body takes a signed offset and a numbered origin, computes in signed
64-bit arithmetic that stops at its bounds, refuses a goal before the start and goes no further than
its length.
-/

namespace Payload

/-- A goal for a seek. -/
inductive Origin where
  | start (position : Nat)
  | here (offset : Int)
  | finish (offset : Int)
  deriving DecidableEq, Repr

/-- Why a body refuses a seek. -/
inductive SeekError where
  | unknownWhence (whence : Int)
  | negativeStart (offset : Int)
  | negativeComputed (offset : Int)
  deriving DecidableEq, Repr

def SeekError.message : SeekError → String
  | unknownWhence whence => s!"unknown whence value {whence}"
  | negativeStart offset => s!"whence is start but offset {offset} is negative"
  | negativeComputed offset => s!"computed offset {offset} is negative"

namespace Seek

/-- The number that selects the start as origin. -/
def fromStart : Int := 0

/-- The number that selects the cursor as origin. -/
def fromHere : Int := 1

/-- The number that selects the end as origin. -/
def fromFinish : Int := 2

/-- The least signed 64-bit number. -/
def minSigned : Int := -0x8000000000000000

/-- The greatest signed 64-bit number. -/
def maxSigned : Int := 0x7fffffffffffffff

/-- A number brought into the signed 64-bit range. -/
def saturate (number : Int) : Int :=
  max minSigned (min number maxSigned)

/-- The goal before it is compared with the bounds of the body. -/
def goal (offset whence : Int) (position length : Nat) : Except SeekError Int :=
  if whence = fromStart then
    if offset < 0 then .error (.negativeStart offset) else .ok offset
  else if whence = fromHere then
    .ok (saturate (saturate position + offset))
  else if whence = fromFinish then
    .ok (saturate (saturate length + offset))
  else
    .error (.unknownWhence whence)

/-- The position that a seek of a body of this length arrives at. -/
def resolve (offset whence : Int) (position length : Nat) : Except SeekError Nat :=
  match goal offset whence position length with
  | .error error => .error error
  | .ok computed =>
    if computed < 0 then
      .error (.negativeComputed computed)
    else
      .ok (min computed.toNat length)

theorem resolve_le {offset whence : Int} {position length arrived : Nat}
    (resolved : resolve offset whence position length = .ok arrived) : arrived ≤ length := by
  unfold resolve at resolved
  split at resolved
  · cases resolved
  · split at resolved
    · cases resolved
    · cases resolved
      exact Nat.min_le_right _ _

end Seek

/-- The offset and the number of the origin that a body takes for this goal.  A position past the
signed range stops at its end, which no body reaches. -/
def Origin.split : Origin → Int × Int
  | start position => (Seek.saturate position, Seek.fromStart)
  | here offset => (offset, Seek.fromHere)
  | finish offset => (offset, Seek.fromFinish)

/-- The position that the goal names for a cursor at `position` in `length` bytes, over all
integers. -/
def Origin.aim (position length : Nat) : Origin → Int
  | start goal => goal
  | here offset => position + offset
  | finish offset => length + offset

/-- The position that a source moves to, or nothing where it cannot be addressed. -/
def Origin.aim? (position length : Nat) (origin : Origin) : Option Nat :=
  let target := origin.aim position length
  if 0 ≤ target ∧ target ≤ maxOffset then some target.toNat else none

theorem Origin.aim?_eq_some_iff {position length arrived : Nat} {origin : Origin} :
    origin.aim? position length = some arrived ↔
      origin.aim position length = arrived ∧ arrived ≤ maxOffset := by
  unfold Origin.aim?
  dsimp only
  split
  · rw [Option.some_inj]
    omega
  · simp only [reduceCtorEq, false_iff]
    omega

end Payload
