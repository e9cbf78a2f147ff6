import Mathlib
import Payload.Proofs.Buffered.Poisoning
import Payload.Proofs.Direct.Poisoning
import Payload.Source.Device
import Payload.Source.Tape

/-!
# Bodies whose source went wrong

A call to the source breaks off or claims too much, or a callback on it breaks off: whatever kind of
body this happens to, every copy is as it was just before.  A buffered body is poisoned by all of
this, and a direct one where the source was used by nobody else.  From then on nothing is read, and
the copies can only leave; a direct body that was not poisoned is read on.
-/

namespace Payload

variable {σ τ : Type} [Source σ] [Sink τ]

/-- In every run over the copies of a buffered or of a direct body, when the source goes wrong in
one use: the copies are as they were just before, and if that poisoned what they share, as it always
does with a buffered body, nothing is given to any of them in what follows, and they can leave. -/
theorem afterRun_fresh_spoiled (source : σ) :
    (∀ (length : Option Nat) (blockSize : Nat) (uses : List (Use σ τ)) (use : Use σ τ),
      let pool := (Buffered.fresh (⟨source, []⟩ : Recorded σ) length blockSize).afterRun
        (uses.map Use.unseen)
      let next := (pool.use use.unseen).2
      Spoils Buffered.custody pool use.unseen →
        (∃ before, pool.Underway use.unseen before ∧ Buffered.Undisturbed before next) ∧
          ∀ later : List (Use σ τ),
            Buffered.Barren next (next.afterRun (later.map Use.unseen))) ∧
      ∀ (access : Access) (base length : Nat) (uses : List (Use σ τ)) (use : Use σ τ),
        let pool := (Direct.fresh (⟨source, []⟩ : Recorded σ) access base length).afterRun
          (uses.map Use.unseen)
        let next := (pool.use use.unseen).2
        Spoils Direct.custody pool use.unseen →
          (∃ before, pool.Underway use.unseen before ∧ Direct.Undisturbed before next ∧
            (¬Direct.Poisons pool use.unseen →
              next = before.withRecord
                (before.record.returning false next.record.custody.source))) ∧
            (Direct.Poisons pool use.unseen → ∀ later : List (Use σ τ),
              Direct.Barren next (next.afterRun (later.map Use.unseen))) := by
  constructor
  · intro length blockSize uses use pool next spoils
    have balanced : Buffered.Balanced pool :=
      Buffered.balanced_afterRun (Buffered.balanced_fresh _ length blockSize) _
    obtain ⟨before, underway, undisturbed⟩ := Buffered.exists_undisturbed balanced spoils
    have still : Buffered.Balanced next := Buffered.balanced_afterRun balanced [use.unseen]
    have some_open : 0 < next.openCount :=
      Pool.openCount_of_copies undisturbed.copies ▸ undisturbed.some_open
    exact ⟨⟨before, underway, undisturbed⟩,
      Buffered.barren_afterRun still some_open undisturbed.poisoned⟩
  · intro access base length uses use pool next spoils
    obtain ⟨before, underway, undisturbed, poisons⟩ := Direct.exists_undisturbed spoils
    refine ⟨⟨before, underway, undisturbed, fun harmless => undisturbed.resumes ?_⟩, ?_⟩
    · cases poisoned : next.record.custody.poisoned with
      | false => rfl
      | true => exact absurd (poisons.mp poisoned) harmless
    · intro poisonous
      have entrusted : Entrusted Direct.custody Direct.sharers pool :=
        Direct.entrusted_afterRun (Direct.entrusted_fresh (by simp [Recorded.Unclosed]) _ _ _) _
      have still : Entrusted Direct.custody Direct.sharers next :=
        Direct.entrusted_afterRun entrusted [use]
      have some_open : 0 < next.openCount :=
        Pool.openCount_of_copies undisturbed.copies ▸ undisturbed.some_open
      exact Direct.barren_afterRun still some_open (poisons.mpr poisonous)

/-- A device gives two bytes, then claims three of two, then breaks off.  Kept in a window, it
spoils the second block that a copy is read out in, and the other copy is refused the byte that is
there for it.  Moved for each read, it leaves the copy to read on after the claim, and not after
that. -/
theorem afterRun_fresh_spoiled_of_overstated :
    let device : Device :=
      { content := ⟨#[1, 2, 3, 4, 5, 6]⟩
        seekable := true
        reads := [.plain, .overstate 1, .breakOff] }
    let uses : List (Use Device Gauge) := [.copy 0, .read 0 (.fresh 1)]
    let pool := (Buffered.fresh (⟨device, []⟩ : Recorded Device) none 2).afterRun
      (uses.map Use.unseen)
    let next := (pool.use (Use.writeTo 1 ({} : Gauge) : Use Device Gauge).unseen).2
    let read : Use Device Gauge := .read 0 (.fresh 2)
    let moved := (Direct.fresh (⟨device, []⟩ : Recorded Device) .seeking 0 6).afterRun
      ([read].map Use.unseen)
    let claimed := (moved.use read.unseen).2
    let lost := (claimed.use read.unseen).2
    (next.cursor? 0 = some ⟨1, none⟩ ∧ next.cursor? 1 = some ⟨2, none⟩ ∧
      next.record.window.kept = [2, 0, 0] ∧
      (next.read 0 (.fresh 1)).reply = .failed ⟨.read, .poisoned⟩) ∧
    (claimed.cursor? 0 = some ⟨2, false⟩ ∧ claimed.record.custody.poisoned = false) ∧
    lost.cursor? 0 = some ⟨2, false⟩ ∧
      (lost.read 0 (.fresh 1)).reply = .failed ⟨.read, .poisoned⟩ := by
  intro device uses pool next read moved claimed lost
  obtain ⟨buffered, direct⟩ := afterRun_fresh_spoiled (τ := Gauge) device
  constructor
  · have claims : next.record.custody.source.entries =
        [⟨.read 2, .number 3⟩] ++ pool.record.custody.source.entries := by cbv
    have spoils : Spoils Buffered.custody pool
        (Use.writeTo 1 ({} : Gauge) : Use Device Gauge).unseen :=
      Or.inl ⟨_, claims, _, List.mem_singleton_self _, Nat.lt_succ_self 2⟩
    obtain ⟨-, barren⟩ := buffered none 2 uses _ spoils
    have found : next.cursor? 0 = some ⟨1, none⟩ := by cbv
    exact ⟨found, by cbv, by cbv, (((barren []).refused 0 _ found rfl).1 (.fresh 1)).1⟩
  · have overstated : claimed.record.custody.source.entries =
        [⟨.read 2, .number 3⟩, ⟨.seek (.start 2), .number 2⟩] ++
          moved.record.custody.source.entries := by
      decide +kernel
    have claims : Troubles Direct.custody moved claimed :=
      ⟨_, overstated, _, List.mem_cons_self, Nat.lt_succ_self 2⟩
    have harmless : ¬Direct.Poisons moved read.unseen := by
      rintro (lent | ⟨-, broken⟩)
      · cases lent
      · have marks := (adds_iff overstated).mp broken
        simp at marks
    obtain ⟨⟨before, -, undisturbed, resumes⟩, -⟩ :=
      direct .seeking 0 6 [read] read (Or.inl claims)
    have resumed : claimed =
        before.withRecord (before.record.returning false claimed.record.custody.source) := by
      with_reducible exact resumes harmless
    have sound : claimed.record.custody.poisoned = false := by
      rw [resumed]
      exact (Bool.or_false _).trans undisturbed.sound
    have brokeOff : lost.record.custody.source.entries =
        [⟨.read 2, .broke⟩, ⟨.seek (.start 2), .number 2⟩] ++
          claimed.record.custody.source.entries := by
      decide +kernel
    have breaks : Troubles Direct.custody claimed lost :=
      ⟨_, brokeOff, _, List.mem_cons_self, trivial⟩
    have broken : Adds Direct.custody (fun entry => entry.mark = .broke) claimed lost :=
      ⟨_, brokeOff, _, List.mem_cons_self, rfl⟩
    have poisons : Direct.Poisons claimed read.unseen := Or.inr ⟨by decide +kernel, broken⟩
    obtain ⟨-, barren⟩ := direct .seeking 0 6 [read, read] read (Or.inl breaks)
    have found : lost.cursor? 0 = some ⟨2, false⟩ := by decide +kernel
    have within : 2 < lost.record.length := by decide +kernel
    have refusal : lost.record.refusal .read 2 = ⟨.read, .poisoned⟩ := by decide +kernel
    have here : Direct.Barren lost lost := barren poisons []
    have refuses : (lost.read 0 (.fresh 1)).reply = .failed (lost.record.refusal .read 2) :=
      ((here.refused 0 ⟨2, false⟩ (.fresh 1) found Nat.one_pos).1 rfl within).1
    rw [refusal] at refuses
    exact ⟨⟨by decide +kernel, sound⟩, found, refuses⟩

/-- Reading a poisoned copy out breaks off before it is refused where a block is more than there can
be room for; and where bodies are read in place, an empty buffer is filled on a poisoned one as
well. -/
theorem poisoned_not_refused :
    let panics : Use Tape Gauge := .visit 0 fun tape => (none, tape)
    let tape : Recorded Tape := ⟨⟨⟨#[1, 2, 3, 4, 5, 6]⟩, 0⟩, []⟩
    let wide := Buffered.fresh tape none 9223372036854775808
    let pool := (wide.use panics.unseen).2
    let placed := Direct.fresh tape .seeking 0 6
    let other := (placed.use panics.unseen).2
    (Spoils Buffered.custody wide panics.unseen ∧ pool.cursor? 0 = some {} ∧
      (pool.writeTo 0 ({} : Gauge)).1.reply ≠ .failed ⟨.writeTo, .poisoned⟩) ∧
    Spoils Direct.custody placed panics.unseen ∧ other.record.custody.poisoned = true ∧
      ∃ bytes, (other.read 0 (.fresh 0)).reply = .done bytes := by
  intro panics tape wide pool placed other
  exact ⟨⟨Or.inr rfl, rfl, by decide +kernel⟩, Or.inr rfl, rfl, .empty, rfl⟩

end Payload
