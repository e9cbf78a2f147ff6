import Mathlib.Logic.Relation
import Payload.Proofs.Buffered.Reading
import Payload.Proofs.Pump

/-!
# The record of a buffered body keeps its books

Whatever is asked of the copies of a buffered body comes down to six steps: a read, a new copy, a
copy of a closed copy, a copy that leaves others behind, the last copy that leaves, and a callback
that the source is lent to.  Each of them keeps the books of the record balanced: the tally has
every open copy at its offset and nothing else, the window starts at the slowest of them and none
stands past its end, and the source is held for as long as a copy is open.
-/

namespace Payload.Buffered

open Relation

variable {σ τ : Type} [Source σ] [Sink τ]

/-! ## Steps -/

/-- What an operation on a copy is made of.  The source is only lent to callbacks that `lends`
allows. -/
inductive Step (lends : (σ → Option Unit × σ) → Prop) (pool : Pool (engine σ)) :
    Pool (engine σ) → Prop where
  | read {index want : Nat} {cursor : Cursor} {turn : Turn (Buffered σ) Cursor ByteArray}
      (found : pool.cursor? index = some cursor) (reads : Reads want pool.record cursor turn) :
      Step lends pool (pool.put index turn.record turn.cursor)
  | copied {index : Nat} {cursor : Cursor} (found : pool.cursor? index = some cursor)
      (sound : pool.record.custody.poisoned = false) :
      Step lends pool
        (pool.add { pool.record with
          cursors := pool.record.cursors.attach cursor.offset
          live := pool.record.live + 1 } (some cursor))
  /-- A copy of a closed copy is closed. -/
  | blank : Step lends pool (pool.add pool.record none)
  | left {index : Nat} {cursor : Cursor} {window : Window}
      (found : pool.cursor? index = some cursor) (others : 1 < pool.record.live)
      (least : (pool.record.cursors.release cursor.offset).least? = some window.start)
      (trimmed : Trimmed pool.record.window window) :
      Step lends pool
        (pool.remove index { pool.record with
          cursors := pool.record.cursors.release cursor.offset
          live := pool.record.live - 1
          window })
  | last {index : Nat} {cursor : Cursor} (found : pool.cursor? index = some cursor)
      (alone : pool.record.live = 1) :
      Step lends pool
        (pool.remove index { pool.record with
          custody := (pool.record.custody.close .closingBuffered).2.1
          cursors := pool.record.cursors.release cursor.offset
          live := 0
          window := pool.record.window.clear
          terminal := none })
  | visited {index : Nat} {cursor : Cursor} {callback : σ → Option Unit × σ}
      (found : pool.cursor? index = some cursor) (lent : lends callback) :
      Step lends pool
        (pool.withRecord { pool.record with custody := (pool.record.custody.visit callback).2 })

/-- The offsets of the open copies. -/
def offsets (pool : Pool (engine σ)) : List Nat :=
  pool.cursors.map Cursor.offset

theorem count_offsets_put {pool : Pool (engine σ)} {index : Nat} {cursor : Cursor}
    (found : pool.cursor? index = some cursor) (record : Buffered σ) (next : Cursor)
    (offset : Nat) :
    (offsets (pool.put index record next)).count offset =
      (offsets pool).count offset - (if offset = cursor.offset then 1 else 0) +
        if offset = next.offset then 1 else 0 := by
  obtain ⟨before, after, cursors_eq, put_eq, -⟩ := Pool.exists_cursors_eq found
  simp only [offsets, cursors_eq, put_eq, List.map_append, List.map_cons, List.count_append,
    List.count_cons, beq_iff_eq, eq_comm (b := offset)]
  omega

theorem count_offsets_remove {pool : Pool (engine σ)} {index : Nat} {cursor : Cursor}
    (found : pool.cursor? index = some cursor) (record : Buffered σ) (offset : Nat) :
    (offsets (pool.remove index record)).count offset =
      (offsets pool).count offset - if offset = cursor.offset then 1 else 0 := by
  obtain ⟨before, after, cursors_eq, -, remove_eq⟩ := Pool.exists_cursors_eq found
  simp only [offsets, cursors_eq, remove_eq, List.map_append, List.map_cons, List.count_append,
    List.count_cons, beq_iff_eq, eq_comm (b := offset)]
  omega

/-- The books of the record agree with the copies. -/
structure Balanced (pool : Pool (engine σ)) : Prop where
  tallied : ∀ offset, pool.record.cursors.count offset = (offsets pool).count offset
  counted : pool.record.live = pool.openCount
  slowest : 0 < pool.openCount →
    pool.record.cursors.least? = some pool.record.window.start
  within : ∀ offset ∈ offsets pool, offset ≤ pool.record.window.stop
  held : pool.record.custody.held = true ↔ 0 < pool.openCount

namespace Balanced

variable {pool : Pool (engine σ)} {index : Nat} {cursor : Cursor}

theorem standing (balanced : Balanced pool) (found : pool.cursor? index = some cursor) :
    0 < pool.record.cursors.count cursor.offset := by
  rw [balanced.tallied]
  exact List.count_pos_iff.mpr (List.mem_map_of_mem (Pool.mem_cursors_iff.mpr ⟨index, found⟩))

theorem tidy (balanced : Balanced pool) (some_open : 0 < pool.openCount) :
    pool.record.Tidy where
  least := balanced.slowest some_open
  within offset standing := by
    rw [balanced.tallied] at standing
    exact balanced.within offset (List.count_pos_iff.mp standing)

/-- A tidy record with the right tally and the right number is balanced. -/
theorem of_tidy (tallied : ∀ offset, pool.record.cursors.count offset = (offsets pool).count offset)
    (counted : pool.record.live = pool.openCount) (held : pool.record.custody.held = true)
    (some_open : 0 < pool.openCount) (tidy : pool.record.Tidy) : Balanced pool where
  tallied := tallied
  counted := counted
  slowest _ := tidy.least
  within offset member := by
    apply tidy.within offset
    rw [tallied]
    exact List.count_pos_iff.mpr member
  held := iff_of_true held some_open

/-- Filling the window touches no book. -/
theorem refill (balanced : Balanced pool) {next : Buffered σ}
    (refilled : Refilled pool.record next) :
    Balanced (pool.withRecord next) where
  tallied := by
    change ∀ offset, next.cursors.count offset = (offsets pool).count offset
    rw [refilled.cursors]
    exact balanced.tallied
  counted := refilled.live.trans balanced.counted
  slowest := by
    intro some_open
    change next.cursors.least? = some next.window.start
    rw [refilled.cursors, refilled.start]
    exact balanced.slowest some_open
  within := fun offset member => Nat.le_trans (balanced.within offset member) refilled.stop_le
  held := by
    change next.custody.held = true ↔ _
    rw [refilled.held]
    exact balanced.held

theorem deliver (balanced : Balanced pool) (found : pool.cursor? index = some cursor) {goal : Nat}
    {turn : Turn (Buffered σ) Cursor ByteArray} (delivers : Delivers goal pool.record cursor turn) :
    Balanced (pool.put index turn.record turn.cursor) := by
  have some_open := Pool.openCount_pos found
  have same := Pool.openCount_put found turn.record turn.cursor
  refine of_tidy ?_ ?_ ?_ (same ▸ some_open) delivers.tidy
  · intro offset
    rw [count_offsets_put found, ← balanced.tallied]
    exact delivers.counts offset
  · exact delivers.live.trans (balanced.counted.trans same.symm)
  · exact (congrArg Custody.held delivers.custody).trans (balanced.held.mpr some_open)

/-- A read keeps the books, whatever comes of it. -/
theorem read (balanced : Balanced pool) (found : pool.cursor? index = some cursor) {want : Nat}
    {turn : Turn (Buffered σ) Cursor ByteArray} (reads : Reads want pool.record cursor turn) :
    Balanced (pool.put index turn.record turn.cursor) := by
  cases reads with
  | ended => exact (Pool.put_self found).symm ▸ balanced
  | poisoned => exact (Pool.put_self found).symm ▸ balanced
  | broke going sound running short fills =>
      exact Pool.put_eq_withRecord found _ ▸ balanced.refill fills.refilled
  | served going sound enough delivers => exact balanced.deliver found delivers
  | filled going sound running short fills intact delivers =>
      exact (balanced.refill fills.refilled).deliver found delivers

/-- A copy that joins stands where another one does. -/
theorem copied (balanced : Balanced pool) (found : pool.cursor? index = some cursor) :
    Balanced (pool.add { pool.record with
      cursors := pool.record.cursors.attach cursor.offset
      live := pool.record.live + 1 } (some cursor)) := by
  have some_open := Pool.openCount_pos found
  have tidy := balanced.tidy some_open
  have more := Pool.openCount_add_some pool { pool.record with
    cursors := pool.record.cursors.attach cursor.offset
    live := pool.record.live + 1 } cursor
  have known {offset : Nat} (there : 0 < (pool.record.cursors.attach cursor.offset).count offset) :
      0 < pool.record.cursors.count offset := by
    rw [Tally.count_attach] at there
    by_cases here : offset = cursor.offset
    · rw [here]
      exact balanced.standing found
    · rwa [if_neg here] at there
  refine of_tidy ?_ ?_ (balanced.held.mpr some_open) (more ▸ Nat.succ_pos _) ⟨?_, ?_⟩
  · intro offset
    rw [Pool.record_add, Tally.count_attach, balanced.tallied]
    simp [offsets, List.count_singleton, eq_comm (b := offset)]
  · rw [more, ← balanced.counted, Pool.record_add]
  · have slowest := Tally.count_pos_of_least?_eq_some tidy.least
    rw [Pool.record_add, Tally.least?_eq_some_iff]
    constructor
    · rw [Tally.count_attach]
      exact Nat.lt_of_lt_of_le slowest (Nat.le_add_right _ _)
    · intro offset there
      exact tidy.start_le (known there)
  · intro offset there
    exact tidy.within offset (known there)

/-- A copy that leaves others behind takes its entry with it. -/
theorem left (balanced : Balanced pool) (found : pool.cursor? index = some cursor)
    (others : 1 < pool.record.live) {window : Window}
    (least : (pool.record.cursors.release cursor.offset).least? = some window.start)
    (trimmed : Trimmed pool.record.window window) :
    Balanced (pool.remove index { pool.record with
      cursors := pool.record.cursors.release cursor.offset
      live := pool.record.live - 1
      window }) := by
  have some_open := Pool.openCount_pos found
  have tidy := balanced.tidy some_open
  have fewer := Pool.openCount_remove found { pool.record with
    cursors := pool.record.cursors.release cursor.offset
    live := pool.record.live - 1
    window }
  have counted := balanced.counted
  refine of_tidy ?_ ?_ (balanced.held.mpr some_open) (by omega) ⟨least, ?_⟩
  · intro offset
    rw [count_offsets_remove found, ← balanced.tallied]
    exact Tally.count_release _ _ _
  · change pool.record.live - 1 = _
    omega
  · intro offset there
    change offset ≤ window.stop
    change 0 < (pool.record.cursors.release cursor.offset).count offset at there
    rw [Tally.count_release] at there
    rw [trimmed.stop]
    apply tidy.within offset
    exact Nat.lt_of_lt_of_le there (Nat.sub_le _ _)

/-- The last copy leaves empty books. -/
theorem last (balanced : Balanced pool) (found : pool.cursor? index = some cursor)
    (alone : pool.record.live = 1) :
    Balanced (pool.remove index { pool.record with
      custody := (pool.record.custody.close .closingBuffered).2.1
      cursors := pool.record.cursors.release cursor.offset
      live := 0
      window := pool.record.window.clear
      terminal := none }) := by
  have counted := balanced.counted
  generalize left : ({ pool.record with
    custody := (pool.record.custody.close .closingBuffered).2.1
    cursors := pool.record.cursors.release cursor.offset
    live := 0
    window := pool.record.window.clear
    terminal := none } : Buffered σ) = record
  have fewer := Pool.openCount_remove found record
  have nobody : (pool.remove index record).openCount = 0 := by omega
  constructor
  · intro offset
    rw [count_offsets_remove found, ← balanced.tallied, ← left]
    exact Tally.count_release _ _ _
  · rw [nobody, ← left]
    rfl
  · intro some_open
    exact absurd nobody (Nat.ne_of_gt some_open)
  · intro offset member
    rw [offsets, List.eq_nil_of_length_eq_zero nobody] at member
    exact absurd member List.not_mem_nil
  · rw [nobody, ← left, Pool.record_remove, Custody.held_close]
    exact iff_of_false Bool.false_ne_true (Nat.lt_irrefl 0)

/-- Every step keeps the books. -/
theorem step (balanced : Balanced pool) {lends : (σ → Option Unit × σ) → Prop}
    {next : Pool (engine σ)} (step : Step lends pool next) : Balanced next := by
  cases step with
  | read found reads => exact balanced.read found reads
  | copied found sound => exact balanced.copied found
  | blank =>
      obtain ⟨tallied, counted, slowest, within, held⟩ := balanced
      constructor
      · simpa [offsets] using tallied
      · simpa [Pool.openCount] using counted
      · simpa [Pool.openCount] using slowest
      · simpa [offsets] using within
      · simpa [Pool.openCount] using held
  | left found others least trimmed => exact balanced.left found others least trimmed
  | last found alone => exact balanced.last found alone
  | visited found lent =>
      obtain ⟨tallied, counted, slowest, within, held⟩ := balanced
      refine ⟨tallied, counted, slowest, within, ?_⟩
      rw [Pool.record_withRecord, Custody.held_visit]
      exact held

end Balanced

end Payload.Buffered
