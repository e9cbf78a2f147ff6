import Payload.Bytes
import Payload.Fault
import Payload.Outcome

/-!
# Sinks for bytes

A sink is offered the rest of some bytes and takes a number of them from the front.  `Sink.takeAll`
offers what is left until nothing is; taking none of it is then a fault, and an interruption asks
for the same offer again.
-/

namespace Payload

class Sink (τ : Type) where
  /-- Offer the bytes from `start` on.  The answer is how many of them were taken. -/
  write : (bytes : ByteArray) → (start : Nat) → τ → Outcome Fault Nat × τ
  /-- How many more offers the sink may interrupt. -/
  patience : τ → Nat

namespace Sink

variable {τ : Type} [Sink τ]

/-- Offer the bytes from `start` on until all are taken, in at most `tries` offers.  A sink that
claims more than it was offered breaks the call off. -/
def takeFrom (bytes : ByteArray) : Nat → Nat → τ → Outcome Fault Unit × τ
  | 0, _, sink => (.broke, sink)
  | tries + 1, start, sink =>
    if bytes.size ≤ start then
      (.done (), sink)
    else
      match Sink.write bytes start sink with
      | (.done 0, next) => (.failed (.saying .writeZero "failed to write whole buffer"), next)
      | (.done taken, next) =>
        if bytes.size - start < taken then (.broke, next)
        else takeFrom bytes tries (start + taken) next
      | (.failed fault, next) =>
        if fault.interrupts then takeFrom bytes tries start next else (.failed fault, next)
      | (.broke, next) => (.broke, next)

def takeAll (bytes : ByteArray) (sink : τ) : Outcome Fault Unit × τ :=
  takeFrom bytes (bytes.size + Sink.patience sink + 1) 0 sink

end Sink

namespace Gauge

/-- What the script says about one offer. -/
inductive Cue where
  | plain
  | atMost (count : Nat)
  | fault (fault : Fault)
  deriving DecidableEq, Repr

end Gauge

/-- A sink whose behaviour is written down beforehand, offer by offer.  It keeps what it took and
the size of every offer, the latest first. -/
structure Gauge where
  script : List Gauge.Cue := []
  /-- The most bytes taken from one offer. -/
  chunk : Option Nat := none
  content : ByteArray := .empty
  offers : List Nat := []

namespace Gauge

/-- The limit that a cue sets, or the fault that it orders. -/
def Cue.limit (offered : Nat) : Option Cue → Except Fault Nat
  | some (.atMost count) => .ok (min offered count)
  | some (.fault ordered) => .error ordered
  | _ => .ok offered

def write (bytes : ByteArray) (start : Nat) (gauge : Gauge) : Outcome Fault Nat × Gauge :=
  let offered := bytes.size - start
  let next := { gauge with script := gauge.script.tail, offers := offered :: gauge.offers }
  match Cue.limit offered gauge.script.head? with
  | .error fault => (.failed fault, next)
  | .ok limit =>
    let taken := min limit (gauge.chunk.getD limit)
    (.done taken, { next with content := next.content ++ stretch bytes start taken })

instance : Sink Gauge where
  write := write
  patience gauge := gauge.script.length

end Gauge

end Payload
