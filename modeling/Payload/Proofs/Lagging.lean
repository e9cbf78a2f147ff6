import Payload.Proofs.Announcing

/-!
# Sources and sinks that are interrupted more often

A source lags behind another when each of its reads comes out as the other's does or is interrupted,
and then still stands where the other one does before that read; so do sinks with offers.  As long
as both interrupt no more often than they announce, loops that ask again after an interruption come
to the same over either: the one that lags only goes round more often.
-/

namespace Payload

variable {φ σ υ τ α : Type}

/-- How a call comes out beside the one opposite: alike, or interrupted while that one is still to
be made. -/
inductive Lags (stands : φ → σ → Prop) (other : σ) : Answer α × φ → Answer α × σ → Prop where
  | level {answer : Answer α} {next : φ} {last : σ} (still : stands next last) :
      Lags stands other (answer, next) (answer, last)
  | behind {fault : Fault} {next : φ} {facing : Answer α × σ} (again : fault.interrupts = true)
      (still : stands next other) : Lags stands other (.failed fault, next) facing

/-! ## Sources -/

namespace Source

/-- Sources of which the one lags behind the other, both of them patient. -/
structure Lagging [Source φ] [Source σ] (good : φ → Prop) (fair : σ → Prop)
    (stands : φ → σ → Prop) : Prop where
  left : ∀ {source other}, stands source other → good source
  right : ∀ {source other}, stands source other → fair other
  patient : Patient good
  patient' : Patient fair
  seekable : ∀ {source other}, stands source other → seekable source = seekable other
  addressable : ∀ {source other}, stands source other → addressable source = addressable other
  read : ∀ {source other} want, stands source other →
    Lags stands other (Source.read want source) (Source.read want other)
  readAt : ∀ {source other} want position, stands source other →
    Lags stands other (Source.readAt want position source) (Source.readAt want position other)
  seek : ∀ {source other} origin, stands source other →
    (Source.seek origin source).1 = (Source.seek origin other).1 ∧
      stands (Source.seek origin source).2 (Source.seek origin other).2
  close : ∀ {source other}, stands source other →
    (Source.close source).1 = (Source.close other).1

/-- Moving a source works, and to move one there again makes no difference. -/
def Returning [Source φ] [Source σ] (stands : φ → σ → Prop) : Prop :=
  ∀ {source other}, stands source other → seekable other = true → ∀ position ≤ maxOffset,
    ∃ place moved, Source.seek (.start position) other = (.done place, moved) ∧
      seekable moved = true ∧ ∀ source, stands source moved →
        (∃ place, (Source.seek (.start position) source).1 = .done place) ∧
          stands (Source.seek (.start position) source).2 moved

theorem Patient.fewer_of_read [Source σ] {good : σ → Prop} (patient : Patient good)
    {source next : σ} (fine : good source) {want : Nat} {fault : Fault}
    (reading : Source.read want source = (.failed fault, next)) (again : fault.interrupts = true) :
    patience next < patience source := by
  have fewer := patient.read fine (congrArg Prod.fst reading) again
  rwa [reading] at fewer

theorem readSteady_of_interrupted [Source σ] {source next : σ} {want : Nat} {fault : Fault}
    (reading : Source.read want source = (.failed fault, next)) (again : fault.interrupts = true)
    (tries : Nat) : readSteady want (tries + 1) source = readSteady want tries next := by
  rw [readSteady, reading]
  exact if_pos again

namespace Lagging

variable [Source φ] [Source σ] {good : φ → Prop} {fair : σ → Prop} {stands : φ → σ → Prop}
  {source : φ} {other : σ}

/-- Reading in sequence comes out alike. -/
theorem readSteady (lagging : Lagging good fair stands) (want : Nat) {tries tries' : Nat}
    (standing : stands source other) (enough : patience source < tries)
    (enough' : patience other < tries') :
    (Source.readSteady want tries source).1 = (Source.readSteady want tries' other).1 ∧
      stands (Source.readSteady want tries source).2 (Source.readSteady want tries' other).2 := by
  induction tries generalizing tries' source other with
  | zero => cases enough
  | succ tries ih =>
      cases tries' with
      | zero => cases enough'
      | succ tries' =>
          have beside := lagging.read want standing
          have fine := lagging.left standing
          have fine' := lagging.right standing
          rcases reading : Source.read want source with ⟨answer, next⟩
          rcases facing : Source.read want other with ⟨answer', last⟩
          rw [reading, facing] at beside
          cases beside with
          | behind again still =>
              have fewer := lagging.patient.fewer_of_read fine reading again
              rw [readSteady_of_interrupted reading again]
              exact ih still (by omega) enough'
          | level still =>
              cases answer with
              | failed fault =>
                  by_cases again : fault.interrupts = true
                  · have fewer := lagging.patient.fewer_of_read fine reading again
                    have fewer' := lagging.patient'.fewer_of_read fine' facing again
                    rw [readSteady_of_interrupted reading again,
                      readSteady_of_interrupted facing again]
                    exact ih still (by omega) (by omega)
                  · rw [Source.readSteady, Source.readSteady, reading, facing]
                    dsimp only
                    rw [if_neg again, if_neg again]
                    exact ⟨rfl, still⟩
              | done transfer =>
                  rw [Source.readSteady, Source.readSteady, reading, facing]
                  exact ⟨rfl, still⟩
              | broke =>
                  rw [Source.readSteady, Source.readSteady, reading, facing]
                  exact ⟨rfl, still⟩

end Lagging

end Source

/-! ## Sinks -/

namespace Sink

/-- Sinks that interrupt no more often than they announce. -/
structure Patient [Sink τ] (fair : τ → Prop) : Prop where
  still : ∀ {bytes start sink}, fair sink → fair (Sink.write bytes start sink).2
  interrupted : ∀ {bytes start sink fault next}, fair sink →
    Sink.write bytes start sink = (.failed fault, next) → fault.interrupts = true →
      patience next < patience sink
  taken : ∀ {bytes start sink count next}, fair sink →
    Sink.write bytes start sink = (.done count, next) → patience next ≤ patience sink

/-- Sinks of which the one lags behind the other, both of them patient. -/
structure Lagging [Sink υ] [Sink τ] (good : υ → Prop) (fair : τ → Prop) (stands : υ → τ → Prop) :
    Prop where
  left : ∀ {sink other}, stands sink other → good sink
  right : ∀ {sink other}, stands sink other → fair other
  patient : Patient good
  patient' : Patient fair
  write : ∀ {sink other} bytes start, stands sink other →
    Lags stands other (Sink.write bytes start sink) (Sink.write bytes start other)

variable [Sink υ] [Sink τ]

theorem takeFrom_of_interrupted {bytes : ByteArray} {start : Nat} {sink next : τ} {fault : Fault}
    (left : ¬bytes.size ≤ start) (offer : Sink.write bytes start sink = (.failed fault, next))
    (again : fault.interrupts = true) (tries : Nat) :
    takeFrom bytes (tries + 1) start sink = takeFrom bytes tries start next := by
  rw [takeFrom, if_neg left, offer]
  exact if_pos again

theorem takeFrom_of_taken {bytes : ByteArray} {start taken : Nat} {sink next : τ}
    (left : ¬bytes.size ≤ start) (offer : Sink.write bytes start sink = (.done taken, next))
    (some_bytes : taken ≠ 0) (tries : Nat) :
    takeFrom bytes (tries + 1) start sink =
      if bytes.size - start < taken then (.broke, next)
      else takeFrom bytes tries (start + taken) next := by
  rw [takeFrom, if_neg left, offer]
  cases taken with
  | zero => exact absurd rfl some_bytes
  | succ taken => rfl

namespace Lagging

variable {good : υ → Prop} {fair : τ → Prop} {stands : υ → τ → Prop} {sink : υ} {other : τ}

/-- Bytes are offered alike. -/
theorem takeFrom (lagging : Lagging good fair stands) (bytes : ByteArray)
    {tries tries' start : Nat} (standing : stands sink other)
    (enough : bytes.size - start + patience sink < tries)
    (enough' : bytes.size - start + patience other < tries') :
    (Sink.takeFrom bytes tries start sink).1 = (Sink.takeFrom bytes tries' start other).1 ∧
      stands (Sink.takeFrom bytes tries start sink).2
        (Sink.takeFrom bytes tries' start other).2 := by
  induction tries generalizing tries' start sink other with
  | zero => cases enough
  | succ tries ih =>
      cases tries' with
      | zero => cases enough'
      | succ tries' =>
          by_cases whole : bytes.size ≤ start
          · rw [Sink.takeFrom, Sink.takeFrom, if_pos whole, if_pos whole]
            exact ⟨rfl, standing⟩
          have beside := lagging.write bytes start standing
          have fine := lagging.left standing
          have fine' := lagging.right standing
          rcases offer : Sink.write bytes start sink with ⟨answer, next⟩
          rcases facing : Sink.write bytes start other with ⟨answer', last⟩
          rw [offer, facing] at beside
          cases beside with
          | behind again still =>
              have fewer := lagging.patient.interrupted fine offer again
              rw [takeFrom_of_interrupted whole offer again]
              exact ih still (by omega) enough'
          | level still =>
              cases answer with
              | failed fault =>
                  by_cases again : fault.interrupts = true
                  · have fewer := lagging.patient.interrupted fine offer again
                    have fewer' := lagging.patient'.interrupted fine' facing again
                    rw [takeFrom_of_interrupted whole offer again,
                      takeFrom_of_interrupted whole facing again]
                    exact ih still (by omega) (by omega)
                  · rw [Sink.takeFrom, Sink.takeFrom, if_neg whole, if_neg whole, offer,
                      facing]
                    dsimp only
                    rw [if_neg again, if_neg again]
                    exact ⟨rfl, still⟩
              | broke =>
                  rw [Sink.takeFrom, Sink.takeFrom, if_neg whole, if_neg whole, offer,
                    facing]
                  exact ⟨rfl, still⟩
              | done taken =>
                  have no_more := lagging.patient.taken fine offer
                  have no_more' := lagging.patient'.taken fine' facing
                  by_cases nothing : taken = 0
                  · subst nothing
                    rw [Sink.takeFrom, Sink.takeFrom, if_neg whole, if_neg whole, offer, facing]
                    exact ⟨rfl, still⟩
                  · rw [takeFrom_of_taken whole offer nothing,
                      takeFrom_of_taken whole facing nothing]
                    split
                    · exact ⟨rfl, still⟩
                    · exact ih still (by omega) (by omega)

theorem takeAll (lagging : Lagging good fair stands) (bytes : ByteArray)
    (standing : stands sink other) :
    (Sink.takeAll bytes sink).1 = (Sink.takeAll bytes other).1 ∧
      stands (Sink.takeAll bytes sink).2 (Sink.takeAll bytes other).2 :=
  lagging.takeFrom bytes standing (by omega) (by omega)

end Lagging

end Sink

end Payload
