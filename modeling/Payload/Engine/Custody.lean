import Payload.Engine

/-!
# A source in common custody

The copies of one body hold their source together.  It is lent to one call at a time; when a call
breaks off while it has the source to itself, what the copies share can no longer be trusted and is
poisoned for good.  The last copy to leave closes the source, also a poisoned one.
-/

namespace Payload

structure Custody (σ : Type) where
  source : σ
  /-- Whether the source is still held, and not yet closed. -/
  held : Bool := true
  poisoned : Bool := false

namespace Custody

variable {σ ρ κ α : Type}

/-- The custody after a call that left the source so, and perhaps broke off. -/
def returning (custody : Custody σ) (broken : Bool) (source : σ) : Custody σ :=
  { custody with source, poisoned := custody.poisoned || broken }

/-- Lend the source to a callback.  There is nothing to lend once the source is closed or the
custody poisoned. -/
def visit (custody : Custody σ) (callback : σ → Option α × σ) :
    Reply (Option α) × Custody σ :=
  if custody.poisoned || !custody.held then
    (.done none, custody)
  else
    match callback custody.source with
    | (some value, source) => (.done (some value), custody.returning false source)
    | (none, source) => (.broke, custody.returning true source)

/-- Close the source if it is still held. -/
def close [Source σ] (custody : Custody σ) (note : Note) :
    Reply Unit × Custody σ × List Note :=
  if custody.held then
    let step := Source.close custody.source
    (step.1.mapFailure fun fault => ⟨.close, .fault fault⟩,
      { custody with source := step.2, held := false }, [note])
  else
    (.done (), custody, [])

@[simp]
theorem held_visit (custody : Custody σ) (callback : σ → Option α × σ) :
    (custody.visit callback).2.held = custody.held := by
  unfold visit
  split
  · rfl
  · split <;> rfl

/-- A callback is called at most once, and on the source. -/
theorem source_visit (custody : Custody σ) (callback : σ → Option α × σ) :
    (custody.visit callback).2.source = custody.source ∨
      (custody.visit callback).2.source = (callback custody.source).2 := by
  unfold visit
  split
  · exact Or.inl rfl
  · split
    · rename_i value source called
      exact Or.inr (by rw [called]; rfl)
    · rename_i source called
      exact Or.inr (by rw [called]; rfl)

/-- A callback that comes back poisons nothing. -/
theorem poisoned_visit {custody : Custody σ} {callback : σ → Option α × σ}
    (came : (custody.visit callback).1 ≠ .broke) :
    (custody.visit callback).2.poisoned = custody.poisoned := by
  unfold visit at came ⊢
  split
  · rfl
  · rename_i lent
    rw [if_neg lent] at came
    split
    · exact Bool.or_false _
    · rename_i source called
      rw [called] at came
      exact absurd rfl came

/-- A callback that breaks off poisons what the copies share. -/
theorem poisoned_of_broke {custody : Custody σ} {callback : σ → Option α × σ}
    (broke : (custody.visit callback).1 = .broke) :
    (custody.visit callback).2.poisoned = true := by
  unfold visit at broke ⊢
  split at broke
  · cases broke
  · rename_i lent
    rw [if_neg lent]
    generalize callback custody.source = called at broke ⊢
    rcases called with ⟨_ | value, source⟩
    · exact Bool.or_true _
    · cases broke

theorem visit_of_poisoned {custody : Custody σ} (poisoned : custody.poisoned = true)
    (callback : σ → Option α × σ) : custody.visit callback = (.done none, custody) := by
  simp [visit, poisoned]

@[simp]
theorem held_close [Source σ] (custody : Custody σ) (note : Note) :
    (custody.close note).2.1.held = false := by
  unfold close
  split
  · rfl
  · rename_i released
    simpa using released

@[simp]
theorem poisoned_close [Source σ] (custody : Custody σ) (note : Note) :
    (custody.close note).2.1.poisoned = custody.poisoned := by
  unfold close
  split <;> rfl

end Custody

end Payload
