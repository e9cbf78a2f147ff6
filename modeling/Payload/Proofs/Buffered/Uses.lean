import Payload.Proofs.Accounts
import Payload.Proofs.Buffered.Balance

/-!
# Every use of a buffered body is made of steps

A use either leaves the pool as it is or takes steps: one step for most uses, and one for each round
where a copy is read out.  So what every step keeps on balanced books, every run over the copies of
a buffered body keeps.
-/

namespace Payload.Buffered

open Relation

variable {σ τ : Type} [Source σ] [Sink τ]

/-- The copies of a new body over a source: one, at the start. -/
def fresh (source : σ) (length : Option Nat) (blockSize : Nat) : Pool (engine σ) :=
  ⟨start source length blockSize, [some {}]⟩

theorem balanced_fresh (source : σ) (length : Option Nat) (blockSize : Nat) :
    Balanced (fresh source length blockSize) where
  tallied offset := by
    by_cases here : offset = 0
    · subst here
      rfl
    · have apart : 0 ≠ offset := Ne.symm here
      simp [fresh, start, offsets, Pool.cursors, Tally.count_single, here, apart]
  counted := rfl
  slowest _ := rfl
  within offset member := by
    have first : offset = 0 := by
      simpa [fresh, offsets, Pool.cursors] using member
    exact first ▸ Nat.zero_le _
  held := iff_of_true rfl Nat.one_pos

variable {lends : (σ → Option Unit × σ) → Prop} {pool next : Pool (engine σ)} {index : Nat}
  {cursor : Cursor}

/-! ## Leaving -/

/-- A copy that leaves others behind drops what only it had not read. -/
theorem close_eq_of_others (balanced : Balanced pool) (found : pool.cursor? index = some cursor)
    (others : 1 < pool.record.live) :
    ∃ window notes,
      pool.record.close cursor =
        ⟨.done (),
          { pool.record with
            cursors := pool.record.cursors.release cursor.offset
            live := pool.record.live - 1
            window },
          cursor, notes⟩ ∧
      (pool.record.cursors.release cursor.offset).least? = some window.start ∧
      Trimmed pool.record.window window := by
  have tidy := balanced.tidy (Pool.openCount_pos found)
  have known {offset : Nat}
      (there : 0 < (pool.record.cursors.release cursor.offset).count offset) :
      0 < pool.record.cursors.count offset := by
    rw [Tally.count_release] at there
    exact Nat.lt_of_lt_of_le there (Nat.sub_le _ _)
  have another : ∃ offset, 0 < (pool.record.cursors.release cursor.offset).count offset := by
    have fewer := Pool.openCount_remove found pool.record
    have counted := balanced.counted
    have remains : 0 < (offsets (pool.remove index pool.record)).length := by
      rw [offsets, List.length_map, ← Pool.openCount]
      omega
    obtain ⟨offset, member⟩ := List.exists_mem_of_length_pos remains
    refine ⟨offset, ?_⟩
    rw [Tally.count_release, balanced.tallied, ← count_offsets_remove found pool.record]
    exact List.count_pos_iff.mpr member
  obtain ⟨offset, there⟩ := another
  obtain ⟨least, found_least⟩ :=
    Option.isSome_iff_exists.mp (Tally.least?_isSome_of_count_pos there)
  have standing := known (Tally.count_pos_of_least?_eq_some found_least)
  obtain ⟨window, notes, trimming, start_eq, trimmed⟩ :=
    trim?_eq_some { pool.record with
      cursors := pool.record.cursors.release cursor.offset
      live := pool.record.live - 1 } found_least (tidy.start_le standing)
      (tidy.within least standing)
  refine ⟨window, notes, ?_, start_eq.symm ▸ found_least, trimmed⟩
  unfold close
  dsimp only
  rw [if_pos (Nat.sub_pos_of_lt others), trimming]

/-- The last copy that leaves closes the source. -/
theorem close_eq_of_alone {record : Buffered σ} (alone : record.live = 1) (cursor : Cursor) :
    record.close cursor =
      ⟨(record.custody.close .closingBuffered).1,
        { record with
          custody := (record.custody.close .closingBuffered).2.1
          cursors := record.cursors.release cursor.offset
          live := 0
          window := record.window.clear
          terminal := none },
        cursor, (record.custody.close .closingBuffered).2.2⟩ := by
  unfold close
  simp [alone]

/-- What comes of closing an open copy. -/
inductive Departs (record : Buffered σ) (cursor : Cursor) :
    Turn (Buffered σ) Cursor Unit → Prop where
  | left {window : Window} {notes : List Note} (others : 1 < record.live)
      (least : (record.cursors.release cursor.offset).least? = some window.start)
      (trimmed : Trimmed record.window window) :
      Departs record cursor
        ⟨.done (),
          { record with
            cursors := record.cursors.release cursor.offset
            live := record.live - 1
            window },
          cursor, notes⟩
  | last (alone : record.live = 1) :
      Departs record cursor
        ⟨(record.custody.close .closingBuffered).1,
          { record with
            custody := (record.custody.close .closingBuffered).2.1
            cursors := record.cursors.release cursor.offset
            live := 0
            window := record.window.clear
            terminal := none },
          cursor, (record.custody.close .closingBuffered).2.2⟩

/-- A copy leaves others behind, or is the last one. -/
theorem departs_close (balanced : Balanced pool) (found : pool.cursor? index = some cursor) :
    Departs pool.record cursor (pool.record.close cursor) := by
  by_cases others : 1 < pool.record.live
  · obtain ⟨window, notes, closes, least, trimmed⟩ := close_eq_of_others balanced found others
    rw [closes]
    exact .left others least trimmed
  · have counted := balanced.counted
    have some_open := Pool.openCount_pos found
    have alone : pool.record.live = 1 := by omega
    rw [close_eq_of_alone alone]
    exact .last alone

/-- To leave poisons nothing. -/
theorem poisoned_close (balanced : Balanced pool) (found : pool.cursor? index = some cursor) :
    (pool.close index).state.record.custody.poisoned = pool.record.custody.poisoned := by
  have departs := departs_close balanced found
  rw [(Pool.close_of_open found).2]
  change (pool.record.close cursor).record.custody.poisoned = _
  generalize pool.record.close cursor = turn at departs ⊢
  cases departs with
  | left => rfl
  | last => exact Custody.poisoned_close _ _

/-! ## Joining -/

theorem copy_of_poisoned (found : pool.cursor? index = some cursor)
    (poisoned : pool.record.custody.poisoned = true) :
    (pool.copy index).reply = .failed ⟨.copy, .poisoned⟩ ∧ (pool.copy index).state = pool := by
  have copies : (engine σ).copy pool.record cursor =
      ⟨.failed ⟨.copy, .poisoned⟩, pool.record, cursor, []⟩ := if_pos poisoned
  have acted := Pool.copy_of_unmade found (by rw [copies]; nofun)
  rw [copies, Pool.put_self found] at acted
  exact acted

/-- A copy joins at the end, where the one it is made of stands. -/
theorem copy_of_sound (found : pool.cursor? index = some cursor)
    (sound : pool.record.custody.poisoned = false) :
    (pool.copy index).reply = .done () ∧
      (pool.copy index).state =
        pool.add { pool.record with
          cursors := pool.record.cursors.attach cursor.offset
          live := pool.record.live + 1 } (some cursor) := by
  have copies : (engine σ).copy pool.record cursor =
      ⟨.done cursor, { pool.record with
        cursors := pool.record.cursors.attach cursor.offset
        live := pool.record.live + 1 }, cursor, []⟩ := if_neg (by simp [sound])
  have acted := Pool.copy_of_done found (congrArg Turn.reply copies)
  rw [copies, Pool.put_eq_withRecord found] at acted
  exact acted

/-- To join calls nothing and poisons nothing. -/
theorem custody_copy (pool : Pool (engine σ)) (index : Nat) :
    (pool.copy index).state.record.custody = pool.record.custody := by
  cases found : pool.cursor? index with
  | none => rw [(Pool.copy_of_closed found).2, Pool.record_add]
  | some cursor =>
      by_cases poisoned : pool.record.custody.poisoned = true
      · rw [(copy_of_poisoned found poisoned).2]
      · rw [(copy_of_sound found (by simpa using poisoned)).2, Pool.record_add]

/-! ## Uses -/

theorem Balanced.live_pos (balanced : Balanced pool) (found : pool.cursor? index = some cursor) :
    0 < pool.record.live := by
  rw [balanced.counted]
  exact Pool.openCount_pos found

/-- To read an open copy comes to one of the reads listed. -/
theorem exists_reads (balanced : Balanced pool) (found : pool.cursor? index = some cursor)
    (buffer : Buffer) :
    ∃ turn, Reads buffer.size pool.record cursor turn ∧
      (pool.read index buffer).reply = turn.reply ∧
      (pool.read index buffer).state = pool.put index turn.record turn.cursor :=
  ⟨pool.record.read buffer.size cursor,
    reads_read (balanced.tidy (Pool.openCount_pos found)) (balanced.standing found) buffer.size,
    Pool.act_of_open found .read ((engine σ).read buffer)⟩

theorem step_read (balanced : Balanced pool) (found : pool.cursor? index = some cursor)
    (buffer : Buffer) : Step lends pool (pool.read index buffer).state := by
  obtain ⟨turn, reads, -, state⟩ := exists_reads balanced found buffer
  rw [state]
  exact .read found reads

theorem step_close (balanced : Balanced pool) (found : pool.cursor? index = some cursor) :
    Step lends pool (pool.close index).state := by
  have departs := departs_close balanced found
  rw [(Pool.close_of_open found).2]
  change Step lends pool (pool.remove index (pool.record.close cursor).record)
  generalize pool.record.close cursor = turn at departs ⊢
  cases departs with
  | left others least trimmed => exact .left found others least trimmed
  | last alone => exact .last found alone

/-- Reads of one copy, one after the other, are steps. -/
theorem steps_reads (balanced : Balanced pool) (index : Nat) (buffers : List Buffer) :
    ReflTransGen (Step lends) pool
      (pool.afterRun (buffers.map (Use.read index : Buffer → Use σ τ))) := by
  have kept := Pool.reads_keep (τ := τ)
    (P := fun next => Balanced next ∧ ReflTransGen (Step lends) pool next) index
    (fun ⟨balanced, steps⟩ found buffer =>
      have step : Step lends _ _ := step_read balanced found buffer
      ⟨balanced.step step, steps.tail step⟩)
    ⟨balanced, .refl⟩ buffers
  exact kept.2

/-- Reading a copy out leaves what some reads of it leave, each into no more than a block. -/
theorem exists_short_reads_of_writeTo (found : pool.cursor? index = some cursor) (sink : τ) :
    ∃ buffers : List Buffer, (∀ buffer ∈ buffers, buffer.size ≤ pool.record.blockSize) ∧
      (pool.writeTo index sink).1.state =
        pool.afterRun (buffers.map (Use.read index : Buffer → Use σ τ)) := by
  rw [(Pool.writeTo_of_open found sink).2.1]
  change ∃ buffers : List Buffer, _ ∧ pool.put index (writeTo sink pool.record cursor).1.record
    (writeTo sink pool.record cursor).1.cursor = _
  unfold writeTo
  dsimp only
  split
  · exact ⟨[], by simp, Pool.put_self found⟩
  · obtain ⟨buffers, sized, state⟩ := Pool.exists_reads_of_pump found
      (.fresh (scratch pool.record.blockSize (pool.record.remaining cursor))) sink
    refine ⟨buffers, fun buffer member => ?_, state⟩
    rw [sized buffer member]
    exact scratch_le _ _

/-- Reading a copy out leaves what some reads of it leave. -/
theorem exists_reads_of_writeTo (found : pool.cursor? index = some cursor) (sink : τ) :
    ∃ buffers : List Buffer, (pool.writeTo index sink).1.state =
      pool.afterRun (buffers.map (Use.read index : Buffer → Use σ τ)) := by
  obtain ⟨buffers, -, state⟩ := exists_short_reads_of_writeTo found sink
  exact ⟨buffers, state⟩

/-- A buffered body is not read at a position. -/
theorem state_readAt (pool : Pool (engine σ)) (index : Nat) (buffer : Buffer) (offset : Nat) :
    (pool.readAt index buffer offset).state = pool := by
  cases found : pool.cursor? index with
  | none => exact (Pool.act_of_closed found _ _).2
  | some cursor => exact (Pool.act_of_open found _ _).2.trans (Pool.put_self found)

/-- A buffered body is not moved. -/
theorem state_seek (pool : Pool (engine σ)) (index : Nat) (offset whence : Int) :
    (pool.seek index offset whence).state = pool := by
  cases found : pool.cursor? index with
  | none => exact (Pool.act_of_closed found _ _).2
  | some cursor => exact (Pool.act_of_open found _ _).2.trans (Pool.put_self found)

/-- To lend the source moves no copy. -/
theorem state_visit_of_open {α : Type} (found : pool.cursor? index = some cursor)
    (callback : σ → Option α × σ) :
    (pool.visit index callback).state =
      pool.withRecord { pool.record with
        custody := (pool.record.custody.visit callback).2 } := by
  rw [(Pool.visit_of_open found callback).2]
  exact Pool.put_eq_withRecord found _

/-- The copies of a buffered body move only as they are read on or read out. -/
theorem still : (engine σ).Still where
  readAt _ _ _ _ := rfl
  copy record cursor := by
    change (record.copy cursor).cursor = cursor
    unfold copy
    split <;> rfl
  visit _ _ _ := rfl

/-- Every use leaves what some reads of a copy leave, or what one step leaves. -/
theorem reads_or_step_use (balanced : Balanced pool) {use : Use σ τ} (lent : use.Lends lends) :
    (∃ index, ∃ buffers : List Buffer, (pool.use use).2 =
        pool.afterRun (buffers.map (Use.read index : Buffer → Use σ τ))) ∨
      Step lends pool (pool.use use).2 := by
  have idle {next : Pool (engine σ)} (same : next = pool) :
      ∃ index, ∃ buffers : List Buffer,
        next = pool.afterRun (buffers.map (Use.read index : Buffer → Use σ τ)) :=
    ⟨0, [], same⟩
  have stepped {next last : Pool (engine σ)} (same : next = last) (step : Step lends pool last) :
      Step lends pool next := same ▸ step
  cases found : pool.cursor? use.index with
  | none =>
      rcases Pool.state_use_of_closed found with same | blank
      · exact Or.inl (idle same)
      · exact Or.inr (stepped blank .blank)
  | some cursor =>
      cases use with
      | read index buffer => exact Or.inl ⟨index, [buffer], rfl⟩
      | readAt index buffer offset => exact Or.inl (idle (state_readAt pool index buffer offset))
      | seek index offset whence => exact Or.inl (idle (state_seek pool index offset whence))
      | writeTo index sink => exact Or.inl ⟨index, exists_reads_of_writeTo found sink⟩
      | copy index =>
          cases sound : pool.record.custody.poisoned with
          | true => exact Or.inl (idle (copy_of_poisoned found sound).2)
          | false => exact Or.inr (stepped (copy_of_sound found sound).2 (.copied found sound))
      | close index => exact Or.inr (step_close balanced found)
      | drop index =>
          exact Or.inr (stepped (Pool.state_drop pool index) (step_close balanced found))
      | visit index callback =>
          exact Or.inr (stepped (state_visit_of_open found callback) (.visited found lent))

/-- Every use is made of steps. -/
theorem steps_use (balanced : Balanced pool) {use : Use σ τ} (lent : use.Lends lends) :
    ReflTransGen (Step lends) pool (pool.use use).2 := by
  rcases reads_or_step_use balanced lent with ⟨index, buffers, reads⟩ | step
  · rw [reads]
    exact steps_reads balanced index buffers
  · exact .single step

/-! ## What steps keep, runs keep -/

/-- What every step keeps on balanced books, a use keeps. -/
theorem use_keeps (lends : (σ → Option Unit × σ) → Prop) {I : Pool (engine σ) → Prop}
    (keeps : ∀ {pool next}, Balanced pool → I pool → Step lends pool next → I next)
    (balanced : Balanced pool) (holds : I pool) {use : Use σ τ} (lent : use.Lends lends) :
    Balanced (pool.use use).2 ∧ I (pool.use use).2 := by
  have steps := steps_use balanced lent
  generalize (pool.use use).2 = last at steps
  induction steps with
  | refl => exact ⟨balanced, holds⟩
  | tail _ step ih => exact ⟨ih.1.step step, keeps ih.1 ih.2 step⟩

/-- What every step keeps on balanced books, a run keeps. -/
theorem afterRun_keeps (lends : (σ → Option Unit × σ) → Prop) {I : Pool (engine σ) → Prop}
    (keeps : ∀ {pool next}, Balanced pool → I pool → Step lends pool next → I next)
    (balanced : Balanced pool) (holds : I pool) {uses : List (Use σ τ)}
    (lent : ∀ use ∈ uses, use.Lends lends) :
    Balanced (pool.afterRun uses) ∧ I (pool.afterRun uses) :=
  runAll_keeps (P := fun pool => Balanced pool ∧ I pool)
    (fun use member _ kept => use_keeps lends keeps kept.1 kept.2 (lent use member))
    ⟨balanced, holds⟩

/-- Every run over the copies of a body keeps its books. -/
theorem balanced_afterRun (balanced : Balanced pool) (uses : List (Use σ τ)) :
    Balanced (pool.afterRun uses) :=
  (afterRun_keeps (fun _ => True) (I := fun _ => True) (fun _ _ _ => trivial) balanced
    trivial (fun use _ => use.lends_any)).1

/-! ## Calls that come back -/

theorem poisoned_read (balanced : Balanced pool) (found : pool.cursor? index = some cursor)
    (want : Nat) (came : (pool.record.read want cursor).reply ≠ .broke) :
    (pool.record.read want cursor).record.custody.poisoned = pool.record.custody.poisoned :=
  (reads_read (balanced.tidy (Pool.openCount_pos found)) (balanced.standing found)
    want).poisoned_eq came

/-- Whether what the copies share is poisoned. -/
def spoiled (record : Buffered σ) : Bool :=
  record.custody.poisoned

omit [Source σ] [Sink τ] in
/-- The end or the failure that a copy has met is what a read can fail with. -/
theorem accounts_terminal {record next : Buffered σ} (terminal : Terminal)
    (same : next.spoiled = record.spoiled) :
    Accounts true spoiled (some .read) record next
      (.failed (terminal.error .read) : Reply ByteArray) := by
  cases terminal with
  | ended => exact .failed (.endOfStream rfl (Or.inl rfl)) same
  | failed fault => exact .failed (.fault fault rfl) same

omit [Sink τ] in
theorem Reads.accounts {want : Nat} {record : Buffered σ}
    {turn : Turn (Buffered σ) Cursor ByteArray} (reads : Reads want record cursor turn) :
    Accounts true spoiled (some .read) record turn.record turn.reply := by
  have delivered {goal : Nat} {filled : Buffered σ} (delivers : Delivers goal filled cursor turn)
      (same : filled.spoiled = record.spoiled) :
      Accounts true spoiled (some .read) record turn.record turn.reply := by
    have kept : turn.record.spoiled = record.spoiled :=
      (congrArg Custody.poisoned delivers.custody).trans same
    rcases delivers.reply with ⟨bytes, done, -⟩ | ⟨terminal, -, -, failed⟩
    · rw [done]
      exact .done bytes kept
    · rw [failed]
      exact accounts_terminal terminal kept
  cases reads with
  | ended => exact accounts_terminal _ rfl
  | poisoned going poisoned => exact .failed (.poisoned rfl poisoned) rfl
  | broke => exact .broke
  | served going sound enough delivers => exact delivered delivers rfl
  | filled going sound running short fills intact delivers =>
      exact delivered delivers (fills.poisoned_eq intact)

omit [Sink τ] in
/-- A copy is read on while it is read out, and the books are kept. -/
theorem Balanced.reads_put {record : Buffered σ} {current : Cursor}
    (still : Balanced (pool.put index record current)) (found : pool.cursor? index = some cursor)
    (buffer : Buffer) :
    Reads buffer.size record current (record.read buffer.size current) ∧
      Balanced (pool.put index (record.read buffer.size current).record
        (record.read buffer.size current).cursor) := by
  have here := Pool.cursor?_put_self found record current
  have reads := reads_read (still.tidy (Pool.openCount_pos here)) (still.standing here) buffer.size
  have onwards := still.read here reads
  rw [Pool.put_put] at onwards
  exact ⟨reads, onwards⟩

theorem accounts_writeTo (balanced : Balanced pool) (found : pool.cursor? index = some cursor)
    (sink : τ) :
    Accounts true spoiled (some .writeTo) pool.record (writeTo sink pool.record cursor).1.record
      (writeTo sink pool.record cursor).1.reply := by
  unfold writeTo
  dsimp only
  split
  · exact .broke
  · exact pump_accounts (I := fun record current => Balanced (pool.put index record current))
      (fun buffer _ _ _ still _ => (still.reads_put found buffer).2)
      (fun buffer _ _ still => (still.reads_put found buffer).1.accounts) _ sink
      (by rwa [Pool.put_self found])

/-- The calls of a buffered body account for how they come out. -/
theorem accountable (balanced : Balanced pool) (found : pool.cursor? index = some cursor) :
    (engine σ).Accountable τ true spoiled pool.record cursor where
  read buffer := (reads_read (balanced.tidy (Pool.openCount_pos found)) (balanced.standing found)
    buffer.size).accounts
  readAt _ _ := .failed (.unsupported rfl rfl) rfl
  seek _ _ := .failed (.unsupported rfl rfl) rfl
  writeTo := accounts_writeTo balanced found
  copy := by
    change Accounts _ _ _ _ (pool.record.copy cursor).record (pool.record.copy cursor).reply
    unfold copy
    split
    · rename_i poisoned
      exact .failed (.poisoned rfl poisoned) rfl
    · exact .done cursor rfl
  close := by
    change Accounts _ _ _ _ (pool.record.close cursor).record (pool.record.close cursor).reply
    have departs := departs_close balanced found
    generalize pool.record.close cursor = turn at departs ⊢
    cases departs with
    | left => exact .done () rfl
    | last =>
        obtain ⟨fails, spares⟩ := pool.record.custody.accounts_close .closingBuffered
        exact ⟨fails, spares⟩
  visit callback := by
    obtain ⟨fails, spares⟩ := pool.record.custody.accounts_visit callback
    exact ⟨fails, spares⟩

/-- A use that comes back poisons nothing. -/
theorem poisoned_use (balanced : Balanced pool) {use : Use σ τ}
    (came : (pool.use use).1.brokeOff = false) :
    (pool.use use).2.record.custody.poisoned = pool.record.custody.poisoned := by
  cases found : pool.cursor? use.index with
  | none => rw [Pool.record_use_of_closed found]
  | some cursor =>
      refine (Pool.accounts_use found (accountable balanced found)).spares fun broke => ?_
      rw [Receipt.outcome_eq_broke_iff.mp broke] at came
      cases came

/-- A run in which every call comes back poisons nothing. -/
theorem poisoned_run (balanced : Balanced pool) {uses : List (Use σ τ)}
    (came : ∀ receipt ∈ (pool.run uses).1, receipt.brokeOff = false) :
    (pool.afterRun uses).record.custody.poisoned = pool.record.custody.poisoned := by
  induction uses generalizing pool with
  | nil => rfl
  | cons use rest ih =>
      have still : Balanced (pool.use use).2 :=
        (use_keeps (fun _ => True) (I := fun _ => True) (fun _ _ _ => trivial) balanced trivial
          use.lends_any).1
      rw [Pool.run_cons] at came
      have came_back := came _ List.mem_cons_self
      calc
        ((pool.use use).2.afterRun rest).record.custody.poisoned =
            (pool.use use).2.record.custody.poisoned :=
          ih still fun receipt member => came receipt (List.mem_cons_of_mem _ member)
        _ = pool.record.custody.poisoned := poisoned_use balanced came_back

end Payload.Buffered
