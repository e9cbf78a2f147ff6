import Payload.Proofs.Buffered.Uses
import Payload.Source.Tape

/-!
# The checks on a buffered body never fail

The operations on a buffered body check their positions against the window before they touch it.
With the books balanced no such check fails.  A read breaks off only where the window is filled for
it: there may be no room for so much, the source may break off, and it may claim to have given more
than it was asked for.  To leave breaks off only where the last copy closes the source and that
breaks off.
-/

namespace Payload.Buffered

variable {σ τ : Type} [Source σ] [Sink τ]

/-! ## What stops a fill -/

/-- What the source answers when so many bytes are missing from the window. -/
def answer (record : Buffered σ) (shortfall : Nat) : Reading (record.order shortfall).1 :=
  (Source.readSteady (record.order shortfall).1 (Source.patience record.custody.source + 1)
    record.custody.source).1

/-- What can stop the window from being filled. -/
inductive Thwarted (record : Buffered σ) (shortfall : Nat) : Prop where
  /-- There cannot be so much room. -/
  | crowded (overflow : maxAllocation < record.window.size + (record.order shortfall).1)
  /-- The source breaks off. -/
  | broke (ordered : (record.order shortfall).1 ≠ 0) (broke : record.answer shortfall = .broke)
  /-- The source claims to have given more than there is room for. -/
  | overclaimed {transfer : Transfer (record.order shortfall).1}
      (ordered : (record.order shortfall).1 ≠ 0)
      (answered : record.answer shortfall = .done transfer)
      (excess : (record.order shortfall).1 < transfer.count)

theorem draw_eq_none_iff {known : Bool} {count : Nat} {source : σ} :
    (draw known count source).1 = none ↔
      count ≠ 0 ∧
        ((Source.readSteady count (Source.patience source + 1) source).1 = .broke ∨
          ∃ transfer, (Source.readSteady count (Source.patience source + 1) source).1 =
            .done transfer ∧ count < transfer.count) := by
  unfold draw
  split
  · rename_i nothing
    simp [nothing]
  · rename_i ordered
    dsimp only
    cases (Source.readSteady count (Source.patience source + 1) source).1 with
    | done transfer => simp [intake?, Transfer.received?_eq_none_iff, ordered]
    | failed fault => simp [intake?]
    | broke => simp [intake?, ordered]

theorem intact_eq_false_iff {record : Buffered σ} (held : record.custody.held = true)
    {shortfall : Nat} {fill : Fill σ} (fills : Fills record shortfall fill) :
    fill.intact = false ↔ Thwarted record shortfall := by
  cases fills with
  | released gone =>
      rw [held] at gone
      cases gone
  | crowded held overflow => exact iff_of_true rfl (.crowded overflow)
  | broken held fits drawn =>
      have empty := congrArg Prod.fst drawn
      obtain ⟨ordered, broke | ⟨transfer, answered, excess⟩⟩ := draw_eq_none_iff.mp empty
      · exact iff_of_true rfl (.broke ordered broke)
      · exact iff_of_true rfl (.overclaimed ordered answered excess)
  | filled notes held fits drawn longer =>
      have given := congrArg Prod.fst drawn
      refine iff_of_false nofun fun thwarted => ?_
      have empty : (draw record.length.isSome (record.order shortfall).1
          record.custody.source).1 = none := by
        cases thwarted with
        | crowded overflow => exact absurd fits (Nat.not_le.mpr overflow)
        | broke ordered broke => exact draw_eq_none_iff.mpr ⟨ordered, Or.inl broke⟩
        | overclaimed ordered answered excess =>
            exact draw_eq_none_iff.mpr ⟨ordered, Or.inr ⟨_, answered, excess⟩⟩
      rw [empty] at given
      cases given

/-! ## What breaks off -/

variable {pool : Pool (engine σ)} {index : Nat} {cursor : Cursor}

/-- A read breaks off exactly where it has the window filled and that is stopped. -/
theorem reply_read_eq_broke_iff (balanced : Balanced pool)
    (found : pool.cursor? index = some cursor) (buffer : Buffer) :
    (pool.read index buffer).reply = .broke ↔
      cursor.terminal = none ∧ pool.record.custody.poisoned = false ∧
        pool.record.terminal = none ∧ pool.record.window.stop < cursor.offset + buffer.size ∧
        Thwarted pool.record (cursor.offset + buffer.size - pool.record.window.stop) := by
  have some_open := Pool.openCount_pos found
  have held := balanced.held.mpr some_open
  have reads := reads_read (balanced.tidy some_open) (balanced.standing found) buffer.size
  rw [Pool.read, (Pool.act_of_open found _ _).1]
  change (pool.record.read buffer.size cursor).reply = .broke ↔ _
  generalize pool.record.read buffer.size cursor = turn at reads ⊢
  constructor
  · intro broke
    cases reads with
    | ended met => cases broke
    | poisoned going poisoned => cases broke
    | broke going sound running short fills broken =>
        exact ⟨going, sound, running, short, (intact_eq_false_iff held fills).mp broken⟩
    | served going sound enough delivers => exact absurd broke delivers.reply_ne_broke
    | filled going sound running short fills intact delivers =>
        exact absurd broke delivers.reply_ne_broke
  · rintro ⟨going, sound, running, short, thwarted⟩
    cases reads with
    | ended met =>
        rw [going] at met
        cases met
    | poisoned _ poisoned =>
        rw [sound] at poisoned
        cases poisoned
    | broke => rfl
    | served _ _ enough =>
        rcases enough with stopped | covered
        · exact absurd running stopped
        · exact absurd covered (Nat.not_le.mpr short)
    | filled _ _ _ _ fills intact =>
        rw [(intact_eq_false_iff held fills).mpr thwarted] at intact
        cases intact

theorem reply_close_of_others (balanced : Balanced pool)
    (found : pool.cursor? index = some cursor) (others : pool.openCount ≠ 1) :
    (pool.close index).reply = .done () := by
  rw [(Pool.close_of_open found).1]
  change (pool.record.close cursor).reply = _
  have departs := departs_close balanced found
  generalize pool.record.close cursor = turn at departs ⊢
  cases departs with
  | left => rfl
  | last alone => exact absurd (balanced.counted.symm.trans alone) others

/-- The last copy hands on what closing the source comes to. -/
theorem reply_close_of_alone (balanced : Balanced pool)
    (found : pool.cursor? index = some cursor) (alone : pool.openCount = 1) :
    (pool.close index).reply =
      (Source.close pool.record.custody.source).1.mapFailure fun fault =>
        ⟨.close, .fault fault⟩ := by
  have held := balanced.held.mpr (Pool.openCount_pos found)
  have closes := close_eq_of_alone (balanced.counted.trans alone) cursor
  rw [(Pool.close_of_open found).1]
  change (pool.record.close cursor).reply = _
  rw [closes, Custody.close, if_pos held]

/-- To leave breaks off exactly where the last copy closes the source and that breaks off. -/
theorem reply_close_eq_broke_iff (balanced : Balanced pool)
    (found : pool.cursor? index = some cursor) :
    (pool.close index).reply = .broke ↔
      pool.openCount = 1 ∧ (Source.close pool.record.custody.source).1 = .broke := by
  by_cases alone : pool.openCount = 1
  · rw [reply_close_of_alone balanced found alone, Outcome.mapFailure_eq_broke_iff]
    exact ⟨fun broke => ⟨alone, broke⟩, And.right⟩
  · rw [reply_close_of_others balanced found alone]
    exact iff_of_false nofun fun both => alone both.1

theorem reply_drop_eq_broke_iff (balanced : Balanced pool)
    (found : pool.cursor? index = some cursor) :
    (pool.drop index).reply = .broke ↔
      pool.openCount = 1 ∧ (Source.close pool.record.custody.source).1 = .broke := by
  rw [← reply_close_eq_broke_iff balanced found, Pool.reply_drop_of_open found]
  cases (pool.close index).reply <;> simp

/-! ## The window only moves on -/

theorem Reads.start_le {want : Nat} {record : Buffered σ}
    {turn : Turn (Buffered σ) Cursor ByteArray}
    (reads : Reads want record cursor turn) :
    record.window.start ≤ turn.record.window.start := by
  cases reads with
  | ended => exact Nat.le_refl _
  | poisoned => exact Nat.le_refl _
  | broke _ _ _ _ fills => exact Nat.le_of_eq fills.refilled.start.symm
  | served _ _ _ delivers => exact delivers.trimmed.start_le
  | filled _ _ _ _ fills _ delivers => exact fills.refilled.start ▸ delivers.trimmed.start_le

theorem Step.start_le {lends : (σ → Option Unit × σ) → Prop} {next : Pool (engine σ)}
    (step : Step lends pool next) : pool.record.window.start ≤ next.record.window.start := by
  cases step with
  | read found reads => exact reads.start_le
  | copied => exact Nat.le_refl _
  | blank => exact Nat.le_refl _
  | left found others least trimmed => exact trimmed.start_le
  | last => exact Nat.le_add_right _ _
  | visited => exact Nat.le_refl _

theorem start_le_afterRun (balanced : Balanced pool) (uses : List (Use σ τ)) :
    pool.record.window.start ≤ (pool.afterRun uses).record.window.start :=
  (afterRun_keeps (fun _ => True)
    (I := fun next => pool.record.window.start ≤ next.record.window.start)
    (fun _ reached step => Nat.le_trans reached step.start_le) balanced (Nat.le_refl _)
    (fun use _ => use.lends_any)).2

/-! ## Every run -/

/-- A copy that is open stands inside the window, so delivering up to any goal passes its checks. -/
theorem checks_pass (balanced : Balanced pool) (found : pool.cursor? index = some cursor)
    {goal : Nat} (ahead : cursor.offset ≤ goal) :
    (pool.record.window.slice? cursor.offset (min goal pool.record.window.stop)).isSome ∧
      (pool.record.advance? cursor.offset (min goal pool.record.window.stop)).isSome := by
  have tidy := balanced.tidy (Pool.openCount_pos found)
  have standing := balanced.standing found
  have onwards : cursor.offset ≤ min goal pool.record.window.stop :=
    Nat.le_min.mpr ⟨ahead, tidy.within _ standing⟩
  have within := Nat.min_le_right goal pool.record.window.stop
  obtain ⟨window, cursors, notes, moving, -⟩ := advance?_eq_some tidy standing onwards within
  constructor
  · exact Window.slice?_isSome_iff.mpr ⟨tidy.start_le standing, onwards, within⟩
  · rw [moving]
    rfl

theorem min?_offsets (balanced : Balanced pool) (some_open : 0 < pool.openCount) :
    (offsets pool).min? = some pool.record.window.start := by
  have tidy := balanced.tidy some_open
  have member {offset : Nat} :
      0 < pool.record.cursors.count offset ↔ offset ∈ offsets pool := by
    rw [balanced.tallied, List.count_pos_iff]
  rw [List.min?_eq_some_iff]
  constructor
  · exact member.mp (Tally.count_pos_of_least?_eq_some tidy.least)
  · exact fun offset there => tidy.start_le (member.mpr there)

/-- In every state that a new buffered body can be brought to, the tally is the multiset of the
offsets of its open copies, with their number beside it, and the window starts at the slowest of
them and ends past them all.  The window never moves back.  A read of an open copy breaks off
exactly where filling the window is stopped, and leaving does where closing the source breaks
off. -/
theorem afterRun_fresh_balanced (source : σ) (length : Option Nat) (blockSize : Nat)
    (uses later : List (Use σ τ)) :
    let pool := (fresh source length blockSize).afterRun uses
    (∀ offset, pool.record.cursors.count offset = (offsets pool).count offset) ∧
      (∀ entry ∈ pool.record.cursors.entries, 0 < entry.2) ∧
      pool.record.live = pool.openCount ∧
      (0 < pool.openCount → (offsets pool).min? = some pool.record.window.start) ∧
      (∀ offset ∈ offsets pool, offset ≤ pool.record.window.stop) ∧
      pool.record.window.start ≤ (pool.afterRun later).record.window.start ∧
      ∀ index cursor, pool.cursor? index = some cursor →
        0 < pool.record.live ∧
        (∀ goal, cursor.offset ≤ goal →
          (pool.record.window.slice? cursor.offset (min goal pool.record.window.stop)).isSome ∧
            (pool.record.advance? cursor.offset (min goal pool.record.window.stop)).isSome) ∧
        (∀ buffer, (pool.read index buffer).reply = .broke ↔
          cursor.terminal = none ∧ pool.record.custody.poisoned = false ∧
            pool.record.terminal = none ∧
            pool.record.window.stop < cursor.offset + buffer.size ∧
            Thwarted pool.record (cursor.offset + buffer.size - pool.record.window.stop)) ∧
        (∀ sink : τ, ∃ buffers : List Buffer, (pool.writeTo index sink).1.state =
          pool.afterRun (buffers.map (Use.read index : Buffer → Use σ τ))) ∧
        ((pool.close index).reply = .broke ↔
          pool.openCount = 1 ∧ (Source.close pool.record.custody.source).1 = .broke) ∧
        ((pool.drop index).reply = .broke ↔
          pool.openCount = 1 ∧ (Source.close pool.record.custody.source).1 = .broke) := by
  intro pool
  have balanced : Balanced pool := balanced_afterRun (balanced_fresh source length blockSize) uses
  refine ⟨balanced.tallied, pool.record.cursors.ordered.positive, balanced.counted,
    min?_offsets balanced, balanced.within, start_le_afterRun balanced later, ?_⟩
  intro index cursor found
  refine ⟨balanced.live_pos found, fun _ => checks_pass balanced found,
    reply_read_eq_broke_iff balanced found, fun sink => exists_reads_of_writeTo found sink,
    reply_close_eq_broke_iff balanced found, reply_drop_eq_broke_iff balanced found⟩

/-- Of three copies the one at the start has left, so the window starts where the others stand. -/
theorem afterRun_fresh_balanced_of_left :
    let pool := (fresh (Tape.mk ⟨#[1, 2, 3, 4, 5, 6]⟩ 0) none 4).afterRun
      ([.copy 0, .read 1 (.fresh 3), .copy 1, .close 0] : List (Use Tape Gauge))
    0 < pool.openCount ∧ (offsets pool).min? = some pool.record.window.start ∧
      3 ∈ offsets pool ∧ 3 ≤ pool.record.window.stop ∧
      pool.cursor? 1 = some ⟨3, none⟩ ∧ 0 < pool.record.live ∧
      (pool.record.window.slice? 3 (min 5 pool.record.window.stop)).isSome ∧
      (pool.record.advance? 3 (min 5 pool.record.window.stop)).isSome := by
  intro pool
  have books := afterRun_fresh_balanced (Tape.mk ⟨#[1, 2, 3, 4, 5, 6]⟩ 0) none 4
    ([.copy 0, .read 1 (.fresh 3), .copy 1, .close 0] : List (Use Tape Gauge)) []
  obtain ⟨-, -, -, slowest, within, -, copies⟩ := books
  obtain ⟨live, checks, -⟩ := copies 1 ⟨3, none⟩ (by decide)
  exact ⟨by decide, slowest (by decide), by decide, within 3 (by decide), by decide, live,
    checks 5 (by decide)⟩

end Payload.Buffered
