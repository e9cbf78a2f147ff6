import Mathlib.Data.Nat.SuccPred
import Payload.Proofs.Buffered.Checks
import Payload.Proofs.Buffered.Demand
import Payload.Source.Device

/-!
# How far a buffered body reads ahead of its copies

A source is read in whole blocks, so the window ends past what the copies have asked for.  It ends
less than a block past the farthest place that a copy has stood at, also when that copy has since
been closed, and so it keeps less than a block more than what lies between that place and the
slowest copy.
-/

namespace Payload.Buffered

section

variable {σ τ : Type} [Source σ] [Sink τ] {pool : Pool (engine σ)} {index : Nat} {cursor : Cursor}

/-! ## How far copies have got -/

/-- An offset at which a copy stands at some time in a run. -/
def Reached (pool : Pool (engine σ)) (uses : List (Use σ τ)) (offset : Nat) : Prop :=
  ∃ before after, uses = before ++ after ∧ offset ∈ offsets (pool.afterRun before)

theorem Reached.begun {offset : Nat} (member : offset ∈ offsets pool) (uses : List (Use σ τ)) :
    Reached pool uses offset :=
  ⟨[], uses, rfl, member⟩

theorem Reached.cons {use : Use σ τ} {rest : List (Use σ τ)} {offset : Nat}
    (reached : Reached (pool.use use).2 rest offset) : Reached pool (use :: rest) offset := by
  obtain ⟨before, after, rfl, member⟩ := reached
  exact ⟨use :: before, after, rfl, member⟩

omit [Sink τ] in
theorem Step.stop_le {lends : (σ → Option Unit × σ) → Prop} {next : Pool (engine σ)}
    (step : Step lends pool next) : pool.record.window.stop ≤ next.record.window.stop := by
  cases step with
  | read found reads =>
      cases reads with
      | ended => exact Nat.le_refl _
      | poisoned => exact Nat.le_refl _
      | broke _ _ _ _ fills => exact fills.refilled.stop_le
      | served _ _ _ delivers => exact Nat.le_of_eq delivers.trimmed.stop.symm
      | filled _ _ _ _ fills _ delivers =>
          rw [Pool.record_put, delivers.trimmed.stop]
          exact fills.refilled.stop_le
  | copied => exact Nat.le_refl _
  | blank => exact Nat.le_refl _
  | left _ _ _ trimmed => exact Nat.le_of_eq trimmed.stop.symm
  | last => exact Nat.le_of_eq (Window.stop_clear _).symm
  | visited => exact Nat.le_refl _

/-- No copy has ever stood past the end of the window. -/
theorem Reached.le_stop (balanced : Balanced pool) {uses : List (Use σ τ)} {offset : Nat}
    (reached : Reached pool uses offset) : offset ≤ (pool.afterRun uses).record.window.stop := by
  obtain ⟨before, after, rfl, member⟩ := reached
  have between := balanced_afterRun balanced before
  have all : ∀ use ∈ after, use.Lends fun _ => True := fun use _ => use.lends_any
  have onwards := (afterRun_keeps (fun _ => True)
    (I := fun next => (pool.afterRun before).record.window.stop ≤ next.record.window.stop)
    (fun _ reached step => Nat.le_trans reached step.stop_le) between (Nat.le_refl _) all).2
  rw [Pool.afterRun_append]
  exact Nat.le_trans (between.within offset member) onwards

/-- There is a farthest place. -/
theorem exists_farthest (balanced : Balanced pool) (uses : List (Use σ τ)) {offset : Nat}
    (member : offset ∈ offsets pool) :
    ∃ farthest, IsGreatest {offset | Reached pool uses offset} farthest :=
  BddAbove.exists_isGreatest_of_nonempty ⟨_, fun _ reached => reached.le_stop balanced⟩
    ⟨offset, .begun member uses⟩

/-! ## What one read adds -/

omit [Sink τ] in
theorem mem_offsets_put (found : pool.cursor? index = some cursor) (record : Buffered σ)
    (next : Cursor) {offset : Nat} (member : offset ∈ offsets pool) :
    offset = cursor.offset ∨ offset ∈ offsets (pool.put index record next) := by
  obtain ⟨before, after, cursors_eq, put_eq, -⟩ := Pool.exists_cursors_eq found
  simp only [offsets, cursors_eq, put_eq, List.map_append, List.map_cons, List.mem_append,
    List.mem_cons] at member ⊢
  tauto

omit [Sink τ] in
theorem offset_mem_offsets (found : pool.cursor? index = some cursor) :
    cursor.offset ∈ offsets pool :=
  List.mem_map_of_mem (Pool.mem_cursors_iff.mpr ⟨index, found⟩)

omit [Sink τ] in
/-- Filling that comes back takes in no more than was ordered. -/
theorem Fills.stop_le {record : Buffered σ} {shortfall : Nat} {fill : Fill σ}
    (fills : Fills record shortfall fill) (intact : fill.intact = true) :
    fill.record.window.stop ≤ record.window.stop + (record.order shortfall).1 := by
  cases fills with
  | released => exact Nat.le_add_right _ _
  | crowded => cases intact
  | broken => cases intact
  | filled notes held fits drawn longer =>
      rw [longer.stop]
      exact Nat.add_le_add_left (size_le_of_draw_eq_some drawn) _

/-- Unless it is poisoned, the window ends less than a block past an offset that was reached
before, or past a copy. -/
def Abreast (reached : Nat → Prop) (pool : Pool (engine σ)) : Prop :=
  pool.record.custody.poisoned = false →
    ∃ offset, (reached offset ∨ offset ∈ offsets pool) ∧
      pool.record.window.stop ≤ offset + (pool.record.blockSize - 1)

namespace Abreast

variable {reached : Nat → Prop}

omit [Sink τ] in
theorem mono (abreast : Abreast reached pool) {wider : Nat → Prop}
    (wide : ∀ offset, reached offset → wider offset) : Abreast wider pool := by
  intro sound
  obtain ⟨offset, stood, near⟩ := abreast sound
  exact ⟨offset, stood.imp_left (wide offset), near⟩

omit [Sink τ] in
/-- A read goes on from where the copy stood, and orders no more than whole blocks past where it
is to get to. -/
theorem read (abreast : Abreast reached pool) (balanced : Balanced pool)
    (found : pool.cursor? index = some cursor) {want : Nat}
    {turn : Turn (Buffered σ) Cursor ByteArray} (reads : Reads want pool.record cursor turn) :
    Abreast reached (pool.put index turn.record turn.cursor) := by
  have inside := balanced.within _ (offset_mem_offsets found)
  have moved := offset_mem_offsets (Pool.cursor?_put_self found turn.record turn.cursor)
  intro sound
  rw [Pool.record_put] at sound ⊢
  rw [reads.blockSize_eq]
  cases reads with
  | ended =>
      rw [Pool.put_self found]
      exact abreast sound
  | poisoned =>
      rw [Pool.put_self found]
      exact abreast sound
  | broke _ _ _ _ fills broken =>
      rw [(fills.of_broken broken).1] at sound
      cases sound
  | served going unpoisoned enough delivers =>
      have onwards : cursor.offset ≤ turn.cursor.offset := by
        rw [delivers.offset]
        omega
      obtain ⟨offset, stood, near⟩ := abreast unpoisoned
      rw [delivers.trimmed.stop]
      rcases stood with before | member
      · exact ⟨offset, Or.inl before, near⟩
      · rcases mem_offsets_put found turn.record turn.cursor member with rfl | still
        · exact ⟨turn.cursor.offset, Or.inr moved, by omega⟩
        · exact ⟨offset, Or.inr still, near⟩
  | @filled fill _ going unpoisoned running short fills intact delivers =>
      have ordered := order_le pool.record (cursor.offset + want - pool.record.window.stop)
      have reach := fills.stop_le intact
      have there := delivers.offset
      rw [delivers.trimmed.stop]
      exact ⟨turn.cursor.offset, Or.inr moved, by omega⟩

/-- What some reads of a copy keep. -/
theorem reads (abreast : Abreast reached pool) (balanced : Balanced pool) (index : Nat)
    (buffers : List Buffer) :
    Abreast reached (pool.afterRun (buffers.map (Use.read index : Buffer → Use σ τ))) := by
  have kept := Pool.reads_keep (τ := τ)
    (P := fun next => Abreast reached next ∧ Balanced next) index
    (fun ⟨abreast, balanced⟩ found buffer => by
      obtain ⟨turn, reads, -, state⟩ := exists_reads balanced found buffer
      rw [state]
      exact ⟨abreast.read balanced found reads, balanced.read found reads⟩)
    ⟨abreast, balanced⟩ buffers
  exact kept.1

omit [Sink τ] in
/-- Where the window does not grow, it ends where it did. -/
theorem idle (abreast : Abreast reached pool) {next : Pool (engine σ)}
    (blocks : next.record.blockSize = pool.record.blockSize)
    (stop : next.record.window.stop = pool.record.window.stop)
    (sound : next.record.custody.poisoned = false → pool.record.custody.poisoned = false) :
    Abreast (fun offset => reached offset ∨ offset ∈ offsets pool) next := by
  intro unpoisoned
  obtain ⟨offset, stood, near⟩ := abreast (sound unpoisoned)
  exact ⟨offset, Or.inl stood, by rwa [stop, blocks]⟩

omit [Sink τ] in
theorem step (abreast : Abreast reached pool) (balanced : Balanced pool)
    {lends : (σ → Option Unit × σ) → Prop} {next : Pool (engine σ)}
    (step : Step lends pool next) :
    Abreast (fun offset => reached offset ∨ offset ∈ offsets pool) next := by
  cases step with
  | read found reads => exact (abreast.read balanced found reads).mono fun _ => Or.inl
  | copied => exact abreast.idle rfl rfl id
  | blank => exact abreast.idle rfl rfl id
  | left _ _ _ trimmed => exact abreast.idle rfl trimmed.stop id
  | last =>
      refine abreast.idle rfl (Window.stop_clear _) fun sound => ?_
      rwa [Pool.record_remove, Custody.poisoned_close] at sound
  | visited => exact abreast.idle rfl rfl poisoned_of_visit

/-- A use leaves the window less than a block past what was reached before it or by it. -/
theorem use (abreast : Abreast reached pool) (balanced : Balanced pool) (use : Use σ τ) :
    Abreast (fun offset => reached offset ∨ offset ∈ offsets pool) (pool.use use).2 := by
  rcases reads_or_step_use balanced use.lends_any with ⟨index, buffers, came⟩ | step
  · rw [came]
    exact (abreast.reads balanced index buffers).mono fun _ => Or.inl
  · exact abreast.step balanced step

/-- The same for a run. -/
theorem afterRun (abreast : Abreast reached pool) (balanced : Balanced pool)
    (uses : List (Use σ τ)) :
    Abreast (fun offset => reached offset ∨ Reached pool uses offset) (pool.afterRun uses) := by
  induction uses generalizing pool reached with
  | nil => exact abreast.mono fun _ => Or.inl
  | cons use rest ih =>
      refine (ih (abreast.use balanced use) (balanced_afterRun balanced [use])).mono ?_
      rintro offset ((before | member) | later)
      · exact Or.inl before
      · exact Or.inr (.begun member _)
      · exact Or.inr later.cons

end Abreast

end

/-! ## Every run -/

section

variable {σ τ : Type} [Source σ] [Sink τ]

/-- In every state that a new buffered body can be brought to, as long as it is not poisoned and a
copy is open: the window ends less than a block past the farthest offset that any copy has stood at,
so it keeps less than a block more than lies between there and the slowest copy, and the source has
given no more than that. -/
theorem afterRun_fresh_ahead (source : σ) (length : Option Nat) (blockSize : Nat)
    (uses : List (Use σ τ)) :
    let begun := fresh (⟨source, []⟩ : Recorded σ) length blockSize
    let pool := begun.afterRun (uses.map Use.unseen)
    pool.record.custody.poisoned = false → 0 < pool.openCount →
      ∃ farthest slowest,
        IsGreatest {offset | Reached begun (uses.map Use.unseen) offset} farthest ∧
          (offsets pool).min? = some slowest ∧
          pool.record.window.stop ≤ farthest + (max blockSize 1 - 1) ∧
          pool.record.window.kept.length ≤ farthest - slowest + (max blockSize 1 - 1) ∧
          pool.record.custody.source.given ≤ farthest + (max blockSize 1 - 1) := by
  intro begun pool sound some_open
  have new : Balanced begun := balanced_fresh _ _ _
  have balanced : Balanced pool := balanced_afterRun new _
  have metered : Metered pool.record := metered_afterRun_fresh _ _ _ _
  have blocks : pool.record.blockSize = max blockSize 1 := blockSize_afterRun_fresh _ _ _ _
  have first : (0 : Nat) ∈ offsets begun := List.mem_singleton_self _
  have start : Abreast (fun _ => False) begun := fun _ => ⟨0, Or.inr first, Nat.zero_le _⟩
  obtain ⟨farthest, greatest⟩ := exists_farthest new (uses.map Use.unseen) first
  obtain ⟨offset, stood, near⟩ := start.afterRun new (uses.map Use.unseen) sound
  have reached : Reached begun (uses.map Use.unseen) offset := by
    rcases stood with (nowhere | reached) | member
    · exact nowhere.elim
    · exact reached
    · exact ⟨uses.map Use.unseen, [], (List.append_nil _).symm, member⟩
  have abreast : pool.record.window.stop ≤ farthest + (max blockSize 1 - 1) := by
    have before := greatest.2 reached
    rw [← blocks]
    exact Nat.le_trans near (Nat.add_le_add_right before _)
  have slowest := min?_offsets balanced some_open
  have spans := Window.stop_eq pool.record.window
  refine ⟨farthest, _, greatest, slowest, abreast, by omega, ?_⟩
  rw [metered.given sound]
  exact abreast

/-- The faster of two copies is closed after five bytes: the window has all of two blocks, three
bytes more than it read. -/
theorem afterRun_fresh_ahead_of_closed :
    let device : Device := { content := ⟨#[1, 2, 3, 4, 5, 6, 7, 8, 9, 10]⟩ }
    let uses : List (Use Device Gauge) := [.copy 0, .read 1 (.fresh 5), .close 1]
    let begun := fresh (⟨device, []⟩ : Recorded Device) none 4
    let pool := begun.afterRun (uses.map Use.unseen)
    offsets pool = [0] ∧ pool.record.window.stop = 8 ∧
      ∃ farthest, IsGreatest {offset | Reached begun (uses.map Use.unseen) offset} farthest ∧
        5 ≤ farthest ∧ pool.record.window.kept.length ≤ farthest + 3 := by
  intro device uses begun pool
  have here : offsets pool = [0] := by decide +kernel
  have stop : pool.record.window.stop = 8 := by decide +kernel
  obtain ⟨farthest, slowest, greatest, -, abreast, kept, -⟩ :=
    afterRun_fresh_ahead device none 4 uses (by decide +kernel) (by decide +kernel)
  change pool.record.window.stop ≤ farthest + 3 at abreast
  change pool.record.window.kept.length ≤ farthest - slowest + 3 at kept
  exact ⟨here, stop, farthest, greatest, by omega, by omega⟩

end

end Payload.Buffered
