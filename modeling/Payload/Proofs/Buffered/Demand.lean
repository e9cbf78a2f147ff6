import Payload.Proofs.Buffered.Metering
import Payload.Proofs.Scripted

/-!
# What a buffered body asks of its source

A read asks the source only for what the window lacks, in whole blocks and never for more than a
known length leaves, and it asks again only where the source interrupted.  The window ends where the
source has given so much, so nothing is asked for twice.  When a copy is read out the source is
asked for one block at a time.
-/

namespace Payload.Buffered

variable {σ τ : Type}

/-- How many bytes a source is asked for when the window ends at `stop` and has to reach `goal`:
whole blocks, as far as offsets go, but no more than a known length leaves. -/
def demand (blockSize : Nat) (length : Option Nat) (stop goal : Nat) : Nat :=
  let blocks := min ((goal - stop + blockSize - 1) / blockSize * blockSize) maxOffset
  match length with
  | none => blocks
  | some length => min blocks (length - stop)

theorem order_eq_demand (record : Buffered σ) (goal : Nat) :
    (record.order (goal - record.window.stop)).1 =
      demand record.blockSize record.length record.window.stop goal := by
  unfold order demand
  cases record.length with
  | none => rfl
  | some length =>
      dsimp only
      split
      · rename_i all
        exact (Nat.min_eq_right all).symm
      · rename_i more
        exact (Nat.min_eq_left (Nat.le_of_not_le more)).symm

theorem stop_add_demand_le {stop length : Nat} (within : stop ≤ length) (blockSize goal : Nat) :
    stop + demand blockSize (some length) stop goal ≤ length :=
  calc
    stop + demand blockSize (some length) stop goal ≤ stop + (length - stop) :=
      Nat.add_le_add_left (Nat.min_le_right _ _) _
    _ = length := Nat.add_sub_cancel' within

/-- For a block or less one block is asked for. -/
theorem demand_le_block {blockSize stop goal : Nat} (positive : 0 < blockSize)
    (small : goal - stop ≤ blockSize) (length : Option Nat) :
    demand blockSize length stop goal ≤ blockSize := by
  have single : (goal - stop + blockSize - 1) / blockSize ≤ 1 :=
    Nat.le_of_lt_succ (Nat.div_lt_of_lt_mul (by omega))
  have blocks : min ((goal - stop + blockSize - 1) / blockSize * blockSize) maxOffset ≤
      blockSize :=
    calc
      _ ≤ (goal - stop + blockSize - 1) / blockSize * blockSize := Nat.min_le_left _ _
      _ ≤ 1 * blockSize := Nat.mul_le_mul_right _ single
      _ = blockSize := Nat.one_mul _
  cases length with
  | none => exact blocks
  | some length => exact Nat.le_trans (Nat.min_le_left _ _) blocks

variable [Source σ] [Sink τ]

/-! ## The size of the blocks -/

theorem Fills.blockSize_eq {record : Buffered σ} {shortfall : Nat} {fill : Fill σ}
    (fills : Fills record shortfall fill) : fill.record.blockSize = record.blockSize := by
  cases fills <;> rfl

theorem Reads.blockSize_eq {record : Buffered σ} {want : Nat} {cursor : Cursor}
    {turn : Turn (Buffered σ) Cursor ByteArray} (reads : Reads want record cursor turn) :
    turn.record.blockSize = record.blockSize := by
  cases reads with
  | ended => rfl
  | poisoned => rfl
  | broke going sound running short fills => exact fills.blockSize_eq
  | served going sound enough delivers => exact delivers.blockSize
  | filled going sound running short fills intact delivers =>
      exact delivers.blockSize.trans fills.blockSize_eq

theorem Step.blockSize_eq {lends : (σ → Option Unit × σ) → Prop} {pool next : Pool (engine σ)}
    (step : Step lends pool next) : next.record.blockSize = pool.record.blockSize := by
  cases step with
  | read found reads => exact reads.blockSize_eq
  | copied => rfl
  | blank => rfl
  | left => rfl
  | last => rfl
  | visited => rfl

theorem blockSize_afterRun {pool : Pool (engine σ)} (balanced : Balanced pool)
    (uses : List (Use σ τ)) : (pool.afterRun uses).record.blockSize = pool.record.blockSize :=
  (afterRun_keeps (fun _ => True)
    (I := fun next => next.record.blockSize = pool.record.blockSize)
    (fun _ same step => step.blockSize_eq.trans same) balanced rfl fun use _ => use.lends_any).2

theorem blockSize_afterRun_fresh (source : σ) (length : Option Nat) (blockSize : Nat)
    (uses : List (Use σ τ)) :
    ((fresh source length blockSize).afterRun uses).record.blockSize = max blockSize 1 :=
  blockSize_afterRun (balanced_fresh _ _ _) uses

/-! ## The calls of a use -/

section

variable {pool : Pool (engine (Recorded σ))} {index : Nat}

/-- What a read of a copy asks of the source. -/
theorem logs_read (balanced : Balanced pool) (index : Nat) (buffer : Buffer) :
    ∃ made, (pool.read index buffer).state.record.custody.source.entries =
        made ++ pool.record.custody.source.entries ∧
      (made ≠ [] → ∃ cursor, pool.cursor? index = some cursor ∧ cursor.terminal = none ∧
        pool.record.terminal = none ∧ pool.record.window.stop < cursor.offset + buffer.size ∧
        demand pool.record.blockSize pool.record.length pool.record.window.stop
          (cursor.offset + buffer.size) ≠ 0 ∧
        Requests (demand pool.record.blockSize pool.record.length pool.record.window.stop
          (cursor.offset + buffer.size)) made) := by
  cases found : pool.cursor? index with
  | none =>
      rw [Pool.read, (Pool.act_of_closed found _ _).2]
      exact ⟨[], rfl, absurd rfl⟩
  | some cursor =>
      obtain ⟨made, logs, called⟩ := (reads_read (balanced.tidy (Pool.openCount_pos found))
        (balanced.standing found) buffer.size).logs
      have requests := logs.requests
      have asked := logs.asked
      rw [order_eq_demand] at requests asked
      rw [Pool.read, (Pool.act_of_open found .read ((engine (Recorded σ)).read buffer)).2]
      refine ⟨made, logs.entries, fun some_call => ?_⟩
      obtain ⟨going, -, running, short⟩ := called some_call
      exact ⟨cursor, rfl, going, running, short, asked some_call, requests⟩

/-- Reads of no more than a block ask for a block or less. -/
theorem calls_reads (balanced : Balanced pool) {blockSize : Nat} (positive : 0 < blockSize)
    (blocks : pool.record.blockSize = blockSize) (index : Nat) {buffers : List Buffer}
    (small : ∀ buffer ∈ buffers, buffer.size ≤ blockSize) :
    ∃ made, (pool.afterRun (buffers.map
          (Use.read index : Buffer → Use (Recorded σ) τ))).record.custody.source.entries =
        made ++ pool.record.custody.source.entries ∧
      ∀ entry ∈ made, ∃ want ≤ blockSize, entry.call = .read want := by
  induction buffers generalizing pool with
  | nil => exact ⟨[], rfl, by simp⟩
  | cons buffer rest ih =>
      obtain ⟨first, entries, called⟩ := logs_read balanced index buffer
      have kept : Balanced (pool.read index buffer).state ∧
          (pool.read index buffer).state.record.blockSize = blockSize :=
        use_keeps (fun _ => True) (I := fun pool => pool.record.blockSize = blockSize)
          (fun _ same step => step.blockSize_eq.trans same) balanced blocks
          (Use.lends_any (.read index buffer : Use (Recorded σ) τ))
      obtain ⟨later, further, asks⟩ := ih kept.1 kept.2 fun other member =>
        small other (List.mem_cons_of_mem _ member)
      refine ⟨later ++ first, ?_, fun entry member => ?_⟩
      · rw [List.map_cons, Pool.afterRun_cons, List.append_assoc, ← entries]
        exact further
      · rcases List.mem_append.mp member with recent | early
        · exact asks entry recent
        · obtain ⟨cursor, found, -, -, short, -, requests⟩ := called (List.ne_nil_of_mem early)
          have inside := (balanced.tidy (Pool.openCount_pos found)).within _
            (balanced.standing found)
          have fits := small buffer List.mem_cons_self
          refine ⟨_, ?_, requests.asks entry early⟩
          rw [blocks]
          exact demand_le_block positive (by omega) _

/-- What reading a copy out asks of the source. -/
theorem calls_writeTo (balanced : Balanced pool) {blockSize : Nat} (positive : 0 < blockSize)
    (blocks : pool.record.blockSize = blockSize) (index : Nat) (sink : τ) :
    ∃ made, (pool.writeTo index sink).1.state.record.custody.source.entries =
        made ++ pool.record.custody.source.entries ∧
      ∀ entry ∈ made, ∃ want ≤ blockSize, entry.call = .read want := by
  cases found : pool.cursor? index with
  | none =>
      rw [(Pool.writeTo_of_closed found sink).2.1]
      exact ⟨[], rfl, by simp⟩
  | some cursor =>
      obtain ⟨buffers, small, state⟩ := exists_short_reads_of_writeTo found sink
      rw [state]
      exact calls_reads balanced positive blocks index (blocks ▸ small)

end

/-! ## The end of a known length -/

section

variable {pool : Pool (engine σ)} {index : Nat}

/-- Once so many bytes have arrived as there are, a read that comes back leaves the end on
record. -/
theorem terminal_read_of_full (balanced : Balanced pool) (agreed : Agreed pool)
    (measured : Measured pool.record) (sound : pool.record.custody.poisoned = false)
    {length : Nat} (known : pool.record.length = some length)
    (full : pool.record.window.stop = length) {cursor : Cursor}
    (found : pool.cursor? index = some cursor) {buffer : Buffer} (asks : 0 < buffer.size)
    (came : (pool.read index buffer).reply ≠ .broke) :
    (pool.read index buffer).state.record.terminal = some .ended := by
  have some_open := Pool.openCount_pos found
  have held := balanced.held.mpr some_open
  have tidy := balanced.tidy some_open
  have acted := Pool.act_of_open found .read ((engine σ).read buffer)
  have reads := reads_read tidy (balanced.standing found) buffer.size
  have on_record (stopped : pool.record.terminal ≠ none) : pool.record.terminal = some .ended := by
    rcases measured.full sound held length known full with ended | ⟨-, running⟩
    · exact ended
    · exact absurd running stopped
  rw [Pool.read, acted.1] at came
  rw [Pool.read, acted.2]
  change (pool.record.read buffer.size cursor).reply ≠ .broke at came
  change (pool.record.read buffer.size cursor).record.terminal = _
  generalize pool.record.read buffer.size cursor = turn at reads came ⊢
  cases reads with
  | @ended terminal met =>
      have stopped := (agreed cursor (Pool.mem_cursors_iff.mpr ⟨index, found⟩) terminal met).1
      apply on_record
      rw [stopped]
      exact Option.some_ne_none terminal
  | poisoned going poisoned =>
      rw [sound] at poisoned
      cases poisoned
  | broke => exact absurd rfl came
  | served going unpoisoned enough delivers =>
      rw [delivers.terminal]
      apply on_record
      rcases enough with stopped | covered
      · exact stopped
      · intro running
        rcases measured.full sound held length known full with ended | ⟨rfl, -⟩
        · rw [running] at ended
          cases ended
        · omega
  | filled going unpoisoned running short fills intact delivers =>
      have kept := fills.length_of_known known
      have limit := (measured.fill running fills).within length kept
      have onwards := fills.refilled.stop_le
      rw [delivers.terminal]
      cases fills with
      | released gone =>
          rw [held] at gone
          cases gone
      | crowded => cases intact
      | broken => cases intact
      | filled notes _ fits drawn longer =>
          exact measured.terminal_take_in known drawn longer
            (Nat.le_antisymm limit (full ▸ onwards))

end

/-- However the copies of a new buffered body were used, as long as every call came back: the window
ends where the source has given so much.  A read asks the source only where no end is on record and
the window does not reach far enough, always for as many bytes as `demand` says, and again only
after an interruption; reading out asks for a block or less.  A known length is never asked past,
and once that much has arrived the source is not asked again and the end is on record. -/
theorem afterRun_fresh_demand (source : σ) (declared : Option Nat) (blockSize : Nat)
    {uses : List (Use σ τ)}
    (came : ∀ receipt ∈ ((fresh (⟨source, []⟩ : Recorded σ) declared blockSize).run
      (uses.map Use.unseen)).1, receipt.brokeOff = false) :
    let pool : Pool (engine (Recorded σ)) :=
      (fresh ⟨source, []⟩ declared blockSize).afterRun (uses.map Use.unseen)
    let entries := pool.record.custody.source.entries
    let length := pool.record.length
    let stop := pool.record.window.stop
    pool.record.custody.source.given = stop ∧
      (∀ index buffer, ∃ made,
        (pool.read index buffer).state.record.custody.source.entries = made ++ entries ∧
        (made ≠ [] → ∃ cursor, pool.cursor? index = some cursor ∧ cursor.terminal = none ∧
          pool.record.terminal = none ∧ stop < cursor.offset + buffer.size ∧
          demand (max blockSize 1) length stop (cursor.offset + buffer.size) ≠ 0 ∧
          Requests (demand (max blockSize 1) length stop (cursor.offset + buffer.size)) made)) ∧
      (∀ index (sink : τ), ∃ made,
        (pool.writeTo index sink).1.state.record.custody.source.entries = made ++ entries ∧
        ∀ entry ∈ made, ∃ want ≤ max blockSize 1, entry.call = .read want) ∧
      ∀ known, length = some known →
        (∀ goal, stop + demand (max blockSize 1) length stop goal ≤ known) ∧
        (stop = known →
          (0 < known → 0 < pool.openCount → pool.record.terminal = some .ended) ∧
          ∀ index buffer,
            (pool.read index buffer).state.record.custody.source.entries = entries ∧
            (∀ cursor, pool.cursor? index = some cursor → 0 < buffer.size →
              (pool.read index buffer).reply ≠ .broke →
              (pool.read index buffer).state.record.terminal = some .ended)) := by
  intro pool entries length stop
  have new := balanced_fresh (⟨source, []⟩ : Recorded σ) declared blockSize
  have balanced : Balanced pool := balanced_afterRun new _
  have agreed : Agreed pool := agreed_afterRun new (agreed_fresh _ _ _) _
  have metered : Metered pool.record := metered_afterRun_fresh source declared blockSize uses
  have blocks : pool.record.blockSize = max blockSize 1 := blockSize_afterRun_fresh _ _ _ _
  have sound : pool.record.custody.poisoned = false := poisoned_run new came
  have positive : 0 < max blockSize 1 := Nat.lt_of_lt_of_le Nat.one_pos (Nat.le_max_right _ _)
  have reads (index : Nat) (buffer : Buffer) := logs_read balanced index buffer
  rw [blocks] at reads
  refine ⟨metered.given sound, reads, calls_writeTo balanced positive blocks, ?_⟩
  intro known length_eq
  have within : stop ≤ known := metered.measured.within known length_eq
  have limited (goal : Nat) : stop + demand (max blockSize 1) length stop goal ≤ known := by
    rw [length_eq]
    exact stop_add_demand_le within _ _
  refine ⟨limited, fun full => ⟨fun some_bytes some_open => ?_, fun index buffer => ⟨?_, ?_⟩⟩⟩
  · rcases metered.measured.full sound (balanced.held.mpr some_open) known length_eq full with
      ended | ⟨none, -⟩
    · exact ended
    · exact absurd none (Nat.ne_of_gt some_bytes)
  · obtain ⟨made, further, called⟩ := reads index buffer
    cases made with
    | nil => exact further
    | cons latest earlier =>
        obtain ⟨cursor, -, -, -, -, some_bytes, -⟩ := called (List.cons_ne_nil _ _)
        have limit := limited (cursor.offset + buffer.size)
        have nothing : demand (max blockSize 1) length stop (cursor.offset + buffer.size) = 0 := by
          omega
        exact absurd nothing some_bytes
  · intro cursor found asks back
    exact terminal_read_of_full balanced agreed metered.measured sound length_eq full found asks
      back

/-- A source of seven bytes that gives three at a time and interrupts the second read, for a body
of six bytes in blocks of four: the first block is cut short, and the rest is asked for twice. -/
theorem afterRun_fresh_demand_of_interrupted :
    let device : Device :=
      { content := ⟨#[1, 2, 3, 4, 5, 6, 7]⟩, chunk := some 3,
        reads := [.plain, .fault ⟨.interrupted, .plain⟩] }
    let uses : List (Use Device Gauge) := [.copy 0, .read 0 (.fresh 2)]
    let pool : Pool (engine (Recorded Device)) :=
      (fresh ⟨device, []⟩ (some 6) 4).afterRun (uses.map Use.unseen)
    (∀ receipt ∈ ((fresh (⟨device, []⟩ : Recorded Device) (some 6) 4).run
        (uses.map Use.unseen)).1, receipt.brokeOff = false) ∧
      pool.record.window.stop = 3 ∧ pool.record.custody.source.given = 3 ∧
      ∃ made, (pool.read 1 (.fresh 5)).state.record.custody.source.entries =
          made ++ pool.record.custody.source.entries ∧
        made = [⟨.read 3, .number 3⟩, ⟨.read 3, .failed .interrupted⟩] ∧ Requests 3 made := by
  intro device uses pool
  have came : ∀ receipt ∈ ((fresh (⟨device, []⟩ : Recorded Device) (some 6) 4).run
      (uses.map Use.unseen)).1, receipt.brokeOff = false := by
    decide +kernel
  have stop : pool.record.window.stop = 3 := by decide +kernel
  have after : (pool.read 1 (.fresh 5)).state.record.custody.source.entries =
      [⟨.read 3, .number 3⟩, ⟨.read 3, .failed .interrupted⟩] ++
        pool.record.custody.source.entries := by
    decide +kernel
  have stands : pool.cursor? 1 = some ⟨0, none⟩ := by decide +kernel
  have count : demand (max 4 1) pool.record.length pool.record.window.stop (0 + 5) = 3 := by
    decide +kernel
  have ran : (fresh (⟨device, []⟩ : Recorded Device) (some 6) 4).afterRun
      (uses.map Use.unseen) = pool := rfl
  have demands := afterRun_fresh_demand device (some 6) 4 came
  rw [ran] at demands
  -- From here on the run itself is not looked into again.
  clear_value pool
  obtain ⟨given, reads, -, -⟩ := demands
  obtain ⟨made, entries, called⟩ := reads 1 (.fresh 5)
  have made_eq := List.append_cancel_right (entries.symm.trans after)
  obtain ⟨cursor, found, -, -, -, -, requests⟩ := called (by simp [made_eq])
  obtain rfl : cursor = ⟨0, none⟩ := Option.some.inj (found.symm.trans stands)
  refine ⟨came, stop, given.trans stop, made, entries, made_eq, ?_⟩
  rw [← count]
  exact requests

end Payload.Buffered
