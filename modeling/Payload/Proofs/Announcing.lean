import Payload.Proofs.Calls
import Payload.Proofs.Direct.Reading
import Payload.Proofs.Scripted

/-!
# Sources that keep to what they announce

A source announces how often it may still interrupt, and a loop that asks again takes the bound on
its rounds from there.  Where the source keeps its word the bound is never what ends the loop:
reading on after interruptions ends with a read that was not interrupted.
-/

namespace Payload

namespace Source

open Relation

variable {σ : Type} [Source σ] {good : σ → Prop} {want : Nat}

/-- Sources that interrupt no more often than they announce. -/
structure Patient (good : σ → Prop) : Prop where
  works : ∀ {source next}, good source → Works source next → good next
  read : ∀ {source want fault}, good source → (Source.read want source).1 = .failed fault →
    fault.interrupts = true → patience (Source.read want source).2 < patience source
  readAt : ∀ {source want position fault}, good source →
    (Source.readAt want position source).1 = .failed fault → fault.interrupts = true →
      patience (Source.readAt want position source).2 < patience source
  seek : ∀ {source} origin, good source →
    patience (Source.seek origin source).2 ≤ patience source

/-- Working with such a source leaves such a one. -/
theorem Patient.worked (patient : Patient good) {source next : σ} (fine : good source)
    (worked : ReflTransGen Works source next) : good next := by
  induction worked with
  | refl => exact fine
  | tail _ works ih => exact patient.works ih works

/-- Some call to the source never comes back, or claims more bytes than it was asked for. -/
inductive Strays (source : σ) : Prop where
  | read {want : Nat} (broke : (Source.read want source).1 = .broke)
  | readAt {want position : Nat} (broke : (Source.readAt want position source).1 = .broke)
  | seek {origin : Origin} (broke : (Source.seek origin source).1 = .broke)
  | overclaims {want : Nat} {transfer : Transfer want}
      (gave : (Source.read want source).1 = .done transfer) (excess : want < transfer.count)
  | overclaimsAt {want position : Nat} {transfer : Transfer want}
      (gave : (Source.readAt want position source).1 = .done transfer)
      (excess : want < transfer.count)

/-- Reading on after interruptions comes to a read that is not interrupted.  What every interrupted
read keeps holds before it. -/
theorem Patient.exists_readSteady_eq (patient : Patient good) (want : Nat) {I : σ → Prop}
    (keeps : ∀ {source fault}, good source → I source →
      (Source.read want source).1 = .failed fault → fault.interrupts = true →
        I (Source.read want source).2)
    (tries : Nat) {source : σ} (fine : good source) (holds : I source)
    (enough : patience source < tries) :
    ∃ last, good last ∧ I last ∧ readSteady want tries source = Source.read want last ∧
      ∀ fault, (Source.read want last).1 = .failed fault → fault.interrupts = false := by
  induction tries generalizing source with
  | zero => cases enough
  | succ tries ih =>
      have settled (final : ∀ fault, (Source.read want source).1 = .failed fault →
          fault.interrupts = false) :
          ∃ last, good last ∧ I last ∧ Source.read want source = Source.read want last ∧
            ∀ fault, (Source.read want last).1 = .failed fault → fault.interrupts = false :=
        ⟨source, fine, holds, rfl, final⟩
      unfold readSteady
      split
      · rename_i fault next reading
        have failed : (Source.read want source).1 = .failed fault := congrArg Prod.fst reading
        split
        · rename_i again
          have fewer := patient.read fine failed again
          have still := keeps fine holds failed again
          have onwards := patient.works fine (.read want)
          rw [reading] at fewer still onwards
          exact ih onwards still (by dsimp only at fewer; omega)
        · rename_i final
          rw [reading] at settled
          refine settled fun other same => ?_
          cases same
          simpa using final
      · rename_i reading next other came
        rw [came] at settled
        refine settled fun fault same => ?_
        cases same
        exact absurd rfl (other fault)

end Source

namespace Direct

open Relation

variable {σ : Type} [Source σ] {good : σ → Prop}

/-- A question that was interrupted leaves a source that will interrupt fewer. -/
theorem again_of_ask (patient : Source.Patient good) {direct next : Direct σ}
    (fine : good direct.custody.source) {operation : Operation} {want position : Nat}
    {fault : Fault}
    (asked : direct.ask operation want position = (.done (.failed fault), next))
    (again : fault.interrupts = true) :
    good next.custody.source ∧
      ReflTransGen Source.Works direct.custody.source next.custody.source ∧
      Source.patience next.custody.source < Source.patience direct.custody.source := by
  rcases ask_eq_done asked with
    ⟨-, reading, rfl⟩ | ⟨stands, source, -, sought, reading, rfl⟩
  · exact ⟨patient.works fine (.readAt want position), .single (.readAt want position),
      patient.readAt fine reading.symm again⟩
  · have works := Source.works_of_seek sought
    have no_more := patient.seek (.start position) fine
    rw [sought] at no_more
    have still := patient.works fine works
    exact ⟨patient.works still (.read want), .tail (.single works) (.read want),
      Nat.lt_of_lt_of_le (patient.read still reading.symm again) no_more⟩

/-- Asking a patient source again comes to a question that is not the last one allowed for and was
not interrupted.  What every interrupted question keeps holds before it. -/
theorem exists_settles (patient : Source.Patient good) {operation : Operation} (buffer : Buffer)
    {want position : Nat} {I : Direct σ → Prop}
    (keeps : ∀ direct fault next, good direct.custody.source → I direct →
      direct.ask operation want position = (.done (.failed fault), next) →
      fault.interrupts = true → I next)
    {direct : Direct σ} (fine : good direct.custody.source) (holds : I direct) {tries : Nat}
    (enough : Source.patience direct.custody.source < tries) :
    ∃ left last, left ≠ 0 ∧ good last.custody.source ∧ I last ∧
      ReflTransGen Source.Works direct.custody.source last.custody.source ∧
      Settles operation buffer want position left last
        (direct.askSteady operation buffer want position tries) := by
  obtain ⟨left, last, ⟨still, held, reached, more⟩, settles⟩ :=
    askSteady_rule buffer
      (I := fun tries last => good last.custody.source ∧ I last ∧
        ReflTransGen Source.Works direct.custody.source last.custody.source ∧
          Source.patience last.custody.source < tries)
      (fun tries last fault next ⟨still, held, reached, more⟩ asked again => by
        obtain ⟨good, works, fewer⟩ := again_of_ask patient still asked again
        exact ⟨good, keeps last fault next still held asked again, reached.trans works, by omega⟩)
      tries ⟨fine, holds, .refl, enough⟩
  exact ⟨left, last, by omega, still, held, reached, settles⟩

end Direct

/-! ## Devices -/

namespace Device

/-- Devices that interrupt only where their script says so. -/
def Punctual (device : Device) : Prop :=
  device.fault.interrupts = false

instance (device : Device) : Decidable device.Punctual :=
  inferInstanceAs (Decidable (device.fault.interrupts = false))

/-- Left to itself a device gives bytes, or fails. -/
theorem supplyAt_cases (device : Device) (want position : Nat) (limit : Option Nat) :
    device.supplyAt want position limit = .failed device.fault ∨
      ∃ content fits, device.supplyAt want position limit = .done (.bytes content fits) := by
  have within (count : Nat) (small : count ≤ want) :
      ∃ content fits, Source.yields want (stretch device.content position count) =
        .done (.bytes content fits) :=
    have fits : (stretch device.content position count).size ≤ want :=
      Nat.le_trans (size_stretch_le _ _ _) small
    ⟨_, fits, dif_pos fits⟩
  unfold supplyAt
  cases device.failAt with
  | none => exact Or.inr (within _ (Nat.min_le_left _ _))
  | some failAt =>
      dsimp only
      split
      · exact Or.inl rfl
      · exact Or.inr (within _ (Nat.min_le_left _ _))

/-- Where the script is over, a punctual device no longer interrupts. -/
theorem Punctual.final {device : Device} (punctual : device.Punctual) (spent : device.reads = [])
    {want position : Nat} {fault : Fault}
    (failed : device.readCued want position device.reads.head? = .failed fault) :
    fault.interrupts = false := by
  rw [spent] at failed
  change device.supplyAt want position none = _ at failed
  rcases device.supplyAt_cases want position none with fails | ⟨content, fits, gives⟩
  · rw [fails] at failed
    cases failed
    exact punctual
  · rw [gives] at failed
    cases failed

theorem Punctual.works {device next : Device} (punctual : device.Punctual)
    (works : Source.Works device next) : next.Punctual := by
  cases works with
  | read want => exact punctual
  | readAt want position => exact punctual
  | seek origin =>
      change (seek origin device).2.fault.interrupts = false
      unfold seek
      dsimp only
      split
      · exact punctual
      · exact punctual
      · exact punctual
      · split <;> exact punctual

/-- A read uses up its cue. -/
theorem Punctual.fewer {device : Device} (punctual : device.Punctual) {want position : Nat}
    {fault : Fault} (failed : device.readCued want position device.reads.head? = .failed fault)
    (again : fault.interrupts = true) :
    device.reads.tail.length + device.seeks.length <
      device.reads.length + device.seeks.length := by
  cases cued : device.reads with
  | nil =>
      rw [punctual.final cued failed] at again
      cases again
  | cons cue later =>
      rw [List.tail_cons, List.length_cons]
      omega

theorem patient_punctual : Source.Patient Punctual where
  works punctual works := punctual.works works
  read punctual failed again := punctual.fewer failed again
  readAt punctual failed again := punctual.fewer failed again
  seek {device} origin _ := by
    change (seek origin device).2.reads.length + (seek origin device).2.seeks.length ≤
      device.reads.length + device.seeks.length
    have fewer : device.seeks.tail.length ≤ device.seeks.length := by simp
    unfold seek
    dsimp only
    split
    · exact Nat.add_le_add_left fewer _
    · exact Nat.add_le_add_left fewer _
    · exact Nat.add_le_add_left fewer _
    · split <;> exact Nat.add_le_add_left fewer _

end Device

end Payload
