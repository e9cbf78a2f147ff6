import Payload.Engine.Buffered

/-!
# What a read of a buffered copy can come to

The record of a buffered body is tidy when its window starts at the slowest copy and every copy
stands inside of it.  On a tidy record trimming, moving a cursor and delivering always work, so a
read breaks off nowhere but in the source, or where the window outgrows what can be allocated.
`Fills` and `Reads` list all that filling the window and reading can come to; what is shown of
buffered bodies is shown from these two lists.
-/

namespace Payload.Buffered

variable {σ : Type}

/-! ## Trimming and moving -/

/-- The window starts at the slowest copy, and no copy stands past its end. -/
structure Tidy (record : Buffered σ) : Prop where
  least : record.cursors.least? = some record.window.start
  within : ∀ offset, 0 < record.cursors.count offset → offset ≤ record.window.stop

theorem Tidy.start_le {record : Buffered σ} (tidy : record.Tidy) {offset : Nat}
    (standing : 0 < record.cursors.count offset) : record.window.start ≤ offset :=
  Tally.least_le_of_count_pos tidy.least standing

/-- The window of a record after it was trimmed, and perhaps nothing was dropped. -/
structure Trimmed (window trimmed : Window) : Prop where
  start_le : window.start ≤ trimmed.start
  stop : trimmed.stop = window.stop
  kept : trimmed.kept = window.kept.drop (trimmed.start - window.start)

theorem Trimmed.refl (window : Window) : Trimmed window window where
  start_le := Nat.le_refl _
  stop := rfl
  kept := by simp

theorem trim?_eq_some (record : Buffered σ) {least : Nat}
    (found : record.cursors.least? = some least) (above : record.window.start ≤ least)
    (within : least ≤ record.window.stop) :
    ∃ window notes, record.trim? = some ({ record with window }, notes) ∧
      window.start = least ∧ Trimmed record.window window := by
  unfold trim?
  rw [found]
  dsimp only
  rw [if_neg (Nat.not_lt.mpr above)]
  split
  · rename_i same
    exact ⟨record.window, [], rfl, same.symm, Trimmed.refl _⟩
  · obtain ⟨trimmed, trimming, start_eq, kept_eq, stop_eq⟩ :=
      Window.exists_trimTo?_eq_some above within
    refine ⟨trimmed, [.trimming record.window.start least], by rw [trimming]; rfl, start_eq, ?_⟩
    exact ⟨by rw [start_eq]; exact above, stop_eq, by rw [start_eq]; exact kept_eq⟩

/-- How many cursors stand at `offset` after one moved. -/
def movedCount (cursors : Tally) (first last offset : Nat) : Nat :=
  cursors.count offset - (if offset = first then 1 else 0) + if offset = last then 1 else 0

theorem movedCount_self {cursors : Tally} {first : Nat} (standing : 0 < cursors.count first)
    (offset : Nat) : movedCount cursors first first offset = cursors.count offset := by
  unfold movedCount
  split
  · rename_i here
    subst here
    omega
  · rfl

theorem of_movedCount_pos {cursors : Tally} {first last offset : Nat}
    (there : 0 < movedCount cursors first last offset) :
    0 < cursors.count offset ∨ offset = last := by
  unfold movedCount at there
  by_cases final : offset = last
  · exact Or.inr final
  · rw [if_neg final] at there
    exact Or.inl (by omega)

/-- A cursor moves onwards inside the window, and the window is tidy again. -/
theorem advance?_eq_some {record : Buffered σ} (tidy : record.Tidy) {first last : Nat}
    (standing : 0 < record.cursors.count first) (onwards : first ≤ last)
    (within : last ≤ record.window.stop) :
    ∃ window cursors notes,
      record.advance? first last = some ({ record with window, cursors }, notes) ∧
      (∀ offset, cursors.count offset = movedCount record.cursors first last offset) ∧
      ({ record with window, cursors } : Buffered σ).Tidy ∧ Trimmed record.window window := by
  unfold advance?
  split
  · rename_i same
    subst same
    exact ⟨record.window, record.cursors, [], rfl, fun offset => (movedCount_self standing _).symm,
      tidy, Trimmed.refl _⟩
  · rename_i moves
    have above := tidy.start_le standing
    rw [if_pos ⟨above, within⟩]
    have counts (offset : Nat) : ((record.cursors.release first).attach last).count offset =
        movedCount record.cursors first last offset := by
      rw [Tally.count_attach, Tally.count_release, movedCount]
    have arrived : 0 < ((record.cursors.release first).attach last).count last := by
      rw [counts, movedCount]
      simp
    have others {offset : Nat}
        (there : 0 < ((record.cursors.release first).attach last).count offset) :
        0 < record.cursors.count offset ∨ offset = last :=
      of_movedCount_pos (counts offset ▸ there)
    have inside {offset : Nat}
        (there : 0 < ((record.cursors.release first).attach last).count offset) :
        offset ≤ record.window.stop := by
      rcases others there with old | rfl
      · exact tidy.within offset old
      · exact within
    dsimp only
    split
    · obtain ⟨least, found⟩ :=
        Option.isSome_iff_exists.mp (Tally.least?_isSome_of_count_pos arrived)
      have there := Tally.count_pos_of_least?_eq_some found
      have notBelow : record.window.start ≤ least := by
        rcases others there with old | rfl
        · exact tidy.start_le old
        · omega
      obtain ⟨window, notes, trimming, start_eq, trimmed⟩ :=
        trim?_eq_some { record with
          cursors := (record.cursors.release first).attach last } found notBelow (inside there)
      refine ⟨window, _, notes, trimming, counts, ⟨?_, ?_⟩, trimmed⟩
      · exact start_eq.symm ▸ found
      · intro offset standing
        exact trimmed.stop.symm ▸ inside standing
    · rename_i later
      -- The slowest copy did not move, so the window still starts where it stands.
      have least : ((record.cursors.release first).attach last).least? =
          some record.window.start := by
        refine Tally.least?_eq_some_iff.mpr ⟨?_, fun offset there => ?_⟩
        · have slowest := Tally.count_pos_of_least?_eq_some tidy.least
          rw [counts, movedCount, if_neg (Ne.symm later)]
          omega
        · rcases others there with old | rfl
          · exact tidy.start_le old
          · omega
      exact ⟨record.window, _, [], rfl, counts, ⟨least, fun _ => inside⟩, Trimmed.refl _⟩

/-! ## Delivering -/

/-- The bytes that a window keeps from one offset up to another. -/
def between (window : Window) (first last : Nat) : List UInt8 :=
  (window.kept.drop (first - window.start)).take (last - first)

/-- What delivering up to `goal` comes to: the bytes that the window has, or the end that is met
where it has none. -/
structure Delivers (goal : Nat) (record : Buffered σ) (cursor : Cursor)
    (turn : Turn (Buffered σ) Cursor ByteArray) : Prop where
  custody : turn.record.custody = record.custody
  terminal : turn.record.terminal = record.terminal
  live : turn.record.live = record.live
  length : turn.record.length = record.length
  blockSize : turn.record.blockSize = record.blockSize
  tidy : turn.record.Tidy
  trimmed : Trimmed record.window turn.record.window
  counts : ∀ offset, turn.record.cursors.count offset =
    movedCount record.cursors cursor.offset turn.cursor.offset offset
  offset : turn.cursor.offset = min goal record.window.stop
  met : turn.cursor.terminal = if record.window.stop < goal then record.terminal else none
  reply : (∃ bytes, turn.reply = .done bytes ∧
      bytes.data.toList = between record.window cursor.offset turn.cursor.offset ∧
      (bytes.size = 0 → turn.cursor.terminal = none)) ∨
    ∃ terminal, turn.cursor.terminal = some terminal ∧ turn.cursor.offset = cursor.offset ∧
      turn.reply = .failed (terminal.error .read)

theorem Delivers.noting {goal : Nat} {record : Buffered σ} {cursor : Cursor}
    {turn : Turn (Buffered σ) Cursor ByteArray} (delivers : Delivers goal record cursor turn)
    (notes : List Note) : Delivers goal record cursor (turn.noting notes) := by
  obtain ⟨custody, terminal, live, length, blockSize, tidy, trimmed, counts, offset, met, reply⟩ :=
    delivers
  exact ⟨custody, terminal, live, length, blockSize, tidy, trimmed, counts, offset, met, reply⟩

theorem Delivers.reply_ne_broke {goal : Nat} {record : Buffered σ} {cursor : Cursor}
    {turn : Turn (Buffered σ) Cursor ByteArray} (delivers : Delivers goal record cursor turn) :
    turn.reply ≠ .broke := by
  intro broke
  rcases delivers.reply with ⟨bytes, reply, -, -⟩ | ⟨terminal, -, -, reply⟩
  · rw [reply] at broke
    cases broke
  · rw [reply] at broke
    cases broke

theorem Delivers.meets {goal : Nat} {record : Buffered σ} {cursor : Cursor}
    {turn : Turn (Buffered σ) Cursor ByteArray}
    (delivers : Delivers goal record cursor turn) {terminal : Terminal}
    (met : turn.cursor.terminal = some terminal) :
    turn.record.terminal = some terminal ∧ turn.cursor.offset = turn.record.window.stop := by
  rw [delivers.met] at met
  split at met
  · rename_i beyond
    rw [delivers.terminal, delivers.offset, delivers.trimmed.stop]
    exact ⟨met, Nat.min_eq_right (Nat.le_of_lt beyond)⟩
  · cases met

theorem length_between {window : Window} {first last : Nat} (above : window.start ≤ first)
    (within : last ≤ window.stop) : (between window first last).length = last - first := by
  rw [Window.stop_eq] at within
  rw [between, List.length_take, List.length_drop]
  omega

theorem size_of_between {window : Window} {first last : Nat} {bytes : ByteArray}
    (content : bytes.data.toList = between window first last) (above : window.start ≤ first)
    (within : last ≤ window.stop) : bytes.size = last - first := by
  rw [← ByteArray.size_data, ← Array.length_toList, content]
  exact length_between above within

theorem delivers_deliver {record : Buffered σ} (tidy : record.Tidy) {cursor : Cursor}
    (standing : 0 < record.cursors.count cursor.offset) {goal : Nat}
    (ahead : cursor.offset ≤ goal) : Delivers goal record cursor (record.deliver goal cursor) := by
  have above := tidy.start_le standing
  have inside := tidy.within _ standing
  have onwards : cursor.offset ≤ min goal record.window.stop := by omega
  have within : min goal record.window.stop ≤ record.window.stop := Nat.min_le_right _ _
  obtain ⟨bytes, sliced⟩ :=
    Option.isSome_iff_exists.mp (Window.slice?_isSome_iff.mpr ⟨above, onwards, within⟩)
  have content := Window.toList_of_slice?_eq_some sliced
  obtain ⟨window, cursors, notes, moving, counts, tidied, trimmed⟩ :=
    advance?_eq_some tidy standing onwards within
  have beyond : min goal record.window.stop < goal ↔ record.window.stop < goal := by omega
  have size_eq : bytes.size = min goal record.window.stop - cursor.offset :=
    size_of_between content above within
  unfold deliver
  simp only [sliced, moving, beyond]
  refine ⟨rfl, rfl, rfl, rfl, rfl, tidied, trimmed, counts, rfl, rfl, ?_⟩
  dsimp only
  cases met : if record.window.stop < goal then record.terminal else none with
  | none => exact Or.inl ⟨bytes, rfl, content, fun _ => rfl⟩
  | some terminal =>
      dsimp only
      split
      · exact Or.inr ⟨terminal, rfl, by omega, rfl⟩
      · rename_i some_bytes
        exact Or.inl ⟨bytes, rfl, content, fun empty => absurd empty some_bytes⟩

/-! ## Filling -/

/-- What a window takes in from one fill: bytes, and the end or the failure that the source came
to. -/
structure Intake where
  bytes : ByteArray
  stopped : Option Terminal

/-- What a reading is taken for, by a body that knows its length or does not.  A reading that broke
off or is absurd is nothing to take in. -/
def intake? (known : Bool) {count : Nat} : Reading count → Option Intake
  | .done transfer => (transfer.received? zeros).map fun content =>
    if content.size = 0 then ⟨.empty, some (if known then .failed endedEarly else .ended)⟩
    else ⟨content, none⟩
  | .failed fault => some ⟨.empty, some (.failed fault)⟩
  | .broke => none

theorem size_le_of_intake?_eq_some {known : Bool} {count : Nat} {reading : Reading count}
    {intake : Intake} (taken : intake? known reading = some intake) :
    intake.bytes.size ≤ count := by
  unfold intake? at taken
  split at taken
  · rename_i transfer
    obtain ⟨content, received, rfl⟩ := Option.map_eq_some_iff.mp taken
    split
    · exact Nat.zero_le _
    · exact Transfer.size_le_of_received?_eq_some size_zeros received
  · cases taken
    exact Nat.zero_le _
  · cases taken

/-- What a source gives to an order of so many bytes, and the source after it.  Where nothing is
ordered it is not asked. -/
def draw [Source σ] (known : Bool) (count : Nat) (source : σ) : Option Intake × σ :=
  if count = 0 then
    (some ⟨.empty, none⟩, source)
  else
    let step := Source.readSteady count (Source.patience source + 1) source
    (intake? known step.1, step.2)

theorem size_le_of_draw_eq_some [Source σ] {known : Bool} {count : Nat} {source next : σ}
    {intake : Intake} (drawn : draw known count source = (some intake, next)) :
    intake.bytes.size ≤ count := by
  unfold draw at drawn
  split at drawn
  · cases drawn
    exact Nat.zero_le _
  · exact size_le_of_intake?_eq_some (Prod.mk.inj drawn).1

/-- The end or the failure on record after an intake into so much room. -/
def terminalAfter (count : Nat) (reaches : Bool) (intake : Intake) : Option Terminal :=
  if intake.stopped.isNone && reaches && intake.bytes.size == count then some .ended
  else intake.stopped

/-- The length on record when a window ending at `stop` came to this terminal. -/
def lengthAfter (length : Option Nat) (terminal : Option Terminal) (stop : Nat) : Option Nat :=
  if terminal = some .ended then some (length.getD stop) else length

/-- A window with bytes added at its end. -/
structure Extended (window extended : Window) (bytes : ByteArray) : Prop where
  start : extended.start = window.start
  kept : extended.kept = window.kept ++ bytes.data.toList

theorem Extended.stop {window extended : Window} {bytes : ByteArray}
    (longer : Extended window extended bytes) : extended.stop = window.stop + bytes.size := by
  have size : bytes.data.toList.length = bytes.size := by simp
  rw [Window.stop_eq, Window.stop_eq, longer.start, longer.kept, List.length_append, size,
    Nat.add_assoc]

/-- Bytes that fit are settled, and the room left over is given back. -/
theorem settle_eq (record : Buffered σ) {window : Window} {count : Nat} {intake : Intake}
    (grown : record.window = window.grow count) (fits : intake.bytes.size ≤ count)
    (reaches : Bool) :
    ∃ extended notes, Extended window extended intake.bytes ∧
      record.settle count reaches intake.bytes intake.stopped =
        ⟨true,
          { record with
            window := extended
            terminal := terminalAfter count reaches intake
            length := lengthAfter record.length (terminalAfter count reaches intake)
              extended.stop },
          notes⟩ := by
  obtain ⟨extended, shrinking, start_eq, kept_eq⟩ := Window.shrinkTail?_fill_grow window fits
  unfold settle
  simp only [grown, shrinking]
  exact ⟨extended, _, ⟨start_eq, kept_eq⟩, rfl⟩

/-- All that filling can come to. -/
inductive Fills [Source σ] (record : Buffered σ) (shortfall : Nat) : Fill σ → Prop where
  /-- The source was closed before. -/
  | released (gone : record.custody.held = false) : Fills record shortfall ⟨true, record, []⟩
  /-- There cannot be so much room. -/
  | crowded (held : record.custody.held = true)
      (overflow : maxAllocation < record.window.size + (record.order shortfall).1) :
      Fills record shortfall (.broken record)
  /-- The source broke off, or claims more than there is room for. -/
  | broken {source : σ} (held : record.custody.held = true)
      (fits : record.window.size + (record.order shortfall).1 ≤ maxAllocation)
      (drawn : draw record.length.isSome (record.order shortfall).1 record.custody.source =
        (none, source)) :
      Fills record shortfall
        (.broken { record with
          custody := record.custody.returning false source
          window := record.window.grow (record.order shortfall).1 })
  | filled {intake : Intake} {source : σ} {extended : Window} (notes : List Note)
      (held : record.custody.held = true)
      (fits : record.window.size + (record.order shortfall).1 ≤ maxAllocation)
      (drawn : draw record.length.isSome (record.order shortfall).1 record.custody.source =
        (some intake, source))
      (longer : Extended record.window extended intake.bytes) :
      Fills record shortfall
        ⟨true,
          { record with
            custody := record.custody.returning false source
            window := extended
            terminal := terminalAfter (record.order shortfall).1 (record.order shortfall).2 intake
            length := lengthAfter record.length
              (terminalAfter (record.order shortfall).1 (record.order shortfall).2 intake)
              extended.stop },
          notes⟩

/-- Taking up what the source gives settles what is drawn from it, if anything is. -/
theorem take_eq [Source σ] (record : Buffered σ) {count : Nat} (ordered : count ≠ 0)
    (reaches : Bool) :
    record.take count reaches =
      match draw record.length.isSome count record.custody.source with
      | (some intake, source) =>
        ({ record with custody := record.custody.returning false source } : Buffered σ).settle
          count reaches intake.bytes intake.stopped
      | (none, source) =>
        .broken { record with custody := record.custody.returning false source } := by
  rw [draw, if_neg ordered, take]
  dsimp only
  split
  · rename_i transfer reading
    rw [reading, intake?]
    cases transfer.received? zeros with
    | none => rfl
    | some content =>
        dsimp only [Option.map_some]
        split <;> rfl
  · rename_i fault reading
    rw [reading, intake?]
  · rename_i reading
    rw [reading, intake?]

theorem returning_self (custody : Custody σ) :
    custody.returning false custody.source = custody := by
  simp [Custody.returning]

theorem fills_fill [Source σ] (record : Buffered σ) (shortfall : Nat) :
    Fills record shortfall (record.fill shortfall) := by
  have settled {intake : Intake} {source : σ} (held : record.custody.held = true)
      (fits : record.window.size + (record.order shortfall).1 ≤ maxAllocation)
      (drawn : draw record.length.isSome (record.order shortfall).1 record.custody.source =
        (some intake, source)) :
      Fills record shortfall
        (({ record with
            custody := record.custody.returning false source
            window := record.window.grow (record.order shortfall).1 } : Buffered σ).settle
          (record.order shortfall).1 (record.order shortfall).2 intake.bytes intake.stopped) := by
    obtain ⟨extended, notes, longer, settles⟩ := settle_eq { record with
      custody := record.custody.returning false source
      window := record.window.grow (record.order shortfall).1 } rfl
      (size_le_of_draw_eq_some drawn) (record.order shortfall).2
    rw [settles]
    exact .filled notes held fits drawn longer
  unfold fill
  split
  · rename_i held
    dsimp only
    split
    · rename_i overflow
      exact .crowded held overflow
    · rename_i overflow
      have fits := Nat.le_of_not_lt overflow
      split
      · rename_i nothing
        have drawn : draw record.length.isSome (record.order shortfall).1 record.custody.source =
            (some ⟨.empty, none⟩, record.custody.source) := by
          rw [draw, if_pos nothing]
        simpa only [returning_self, nothing] using settled held fits drawn
      · rename_i ordered
        rw [take_eq _ ordered]
        split
        · rename_i intake source drawn
          exact settled held fits drawn
        · rename_i source drawn
          exact .broken held fits drawn
  · rename_i gone
    exact .released (by simpa using gone)

/-- What filling leaves alone, whatever comes of it. -/
structure Refilled (record next : Buffered σ) : Prop where
  held : next.custody.held = record.custody.held
  cursors : next.cursors = record.cursors
  live : next.live = record.live
  start : next.window.start = record.window.start
  stop_le : record.window.stop ≤ next.window.stop

theorem Fills.refilled [Source σ] {record : Buffered σ} {shortfall : Nat} {fill : Fill σ}
    (fills : Fills record shortfall fill) : Refilled record fill.record := by
  cases fills with
  | released => exact ⟨rfl, rfl, rfl, rfl, Nat.le_refl _⟩
  | crowded => exact ⟨rfl, rfl, rfl, rfl, Nat.le_refl _⟩
  | broken =>
      refine ⟨rfl, rfl, rfl, Window.start_grow _ _, ?_⟩
      change record.window.stop ≤ (record.window.grow _).stop
      rw [Window.stop_eq, Window.stop_eq, Window.start_grow, Window.kept_grow, List.length_append]
      omega
  | filled notes held fits drawn longer =>
      exact ⟨rfl, rfl, rfl, longer.start, longer.stop ▸ Nat.le_add_right _ _⟩

/-- Filling that comes back poisons nothing. -/
theorem Fills.poisoned_eq [Source σ] {record : Buffered σ} {shortfall : Nat} {fill : Fill σ}
    (fills : Fills record shortfall fill) (intact : fill.intact = true) :
    fill.record.custody.poisoned = record.custody.poisoned := by
  cases fills with
  | released => rfl
  | crowded => cases intact
  | broken => cases intact
  | filled => exact Bool.or_false _

/-- Filling that does not come back poisons what the copies share, and puts no end on record. -/
theorem Fills.of_broken [Source σ] {record : Buffered σ} {shortfall : Nat} {fill : Fill σ}
    (fills : Fills record shortfall fill) (broken : fill.intact = false) :
    fill.record.custody.poisoned = true ∧ fill.record.terminal = record.terminal := by
  cases fills with
  | released => cases broken
  | crowded => exact ⟨rfl, rfl⟩
  | broken => exact ⟨rfl, rfl⟩
  | filled => cases broken

theorem Refilled.tidy {record next : Buffered σ} (refilled : Refilled record next)
    (tidy : record.Tidy) : next.Tidy where
  least := by
    rw [refilled.cursors, refilled.start]
    exact tidy.least
  within offset standing := by
    rw [refilled.cursors] at standing
    exact Nat.le_trans (tidy.within offset standing) refilled.stop_le

/-! ## Reading -/

/-- All that a read of `want` bytes can come to. -/
inductive Reads [Source σ] (want : Nat) (record : Buffered σ) (cursor : Cursor) :
    Turn (Buffered σ) Cursor ByteArray → Prop where
  /-- The copy has met an end before. -/
  | ended {terminal : Terminal} (met : cursor.terminal = some terminal) :
      Reads want record cursor ⟨.failed (terminal.error .read), record, cursor, []⟩
  | poisoned (going : cursor.terminal = none) (poisoned : record.custody.poisoned = true) :
      Reads want record cursor ⟨.failed ⟨.read, .poisoned⟩, record, cursor, []⟩
  /-- The window does not reach far enough, and cannot be filled. -/
  | broke {fill : Fill σ} (going : cursor.terminal = none)
      (sound : record.custody.poisoned = false) (running : record.terminal = none)
      (short : record.window.stop < cursor.offset + want)
      (fills : Fills record (cursor.offset + want - record.window.stop) fill)
      (broken : fill.intact = false) :
      Reads want record cursor ⟨.broke, fill.record, cursor, fill.notes⟩
  /-- The window has all that there is to have. -/
  | served {turn : Turn (Buffered σ) Cursor ByteArray} (going : cursor.terminal = none)
      (sound : record.custody.poisoned = false)
      (enough : record.terminal ≠ none ∨ cursor.offset + want ≤ record.window.stop)
      (delivers : Delivers (cursor.offset + want) record cursor turn) :
      Reads want record cursor turn
  /-- The window is filled first. -/
  | filled {fill : Fill σ} {turn : Turn (Buffered σ) Cursor ByteArray}
      (going : cursor.terminal = none) (sound : record.custody.poisoned = false)
      (running : record.terminal = none) (short : record.window.stop < cursor.offset + want)
      (fills : Fills record (cursor.offset + want - record.window.stop) fill)
      (intact : fill.intact = true)
      (delivers : Delivers (cursor.offset + want) fill.record cursor turn) :
      Reads want record cursor turn

/-- A read that comes back poisons nothing. -/
theorem Reads.poisoned_eq [Source σ] {want : Nat} {record : Buffered σ} {cursor : Cursor}
    {turn : Turn (Buffered σ) Cursor ByteArray} (reads : Reads want record cursor turn)
    (came : turn.reply ≠ .broke) : turn.record.custody.poisoned = record.custody.poisoned := by
  cases reads with
  | ended => rfl
  | poisoned => rfl
  | broke => exact absurd rfl came
  | served going sound enough delivers => exact congrArg Custody.poisoned delivers.custody
  | filled going sound running short fills intact delivers =>
      exact (congrArg Custody.poisoned delivers.custody).trans (fills.poisoned_eq intact)

theorem reads_read [Source σ] {record : Buffered σ} (tidy : record.Tidy) {cursor : Cursor}
    (standing : 0 < record.cursors.count cursor.offset) (want : Nat) :
    Reads want record cursor (record.read want cursor) := by
  have above := tidy.start_le standing
  have ahead : cursor.offset ≤ cursor.offset + want := Nat.le_add_right _ _
  unfold read
  split
  · rename_i terminal met
    exact .ended met
  · rename_i going
    split
    · rename_i poisoned
      exact .poisoned going poisoned
    · rename_i unpoisoned
      have sound : record.custody.poisoned = false := by simpa using unpoisoned
      rw [if_neg (Nat.not_lt.mpr above)]
      dsimp only
      split
      · rename_i lacking
        have lacks : record.terminal = none ∧ record.window.stop < cursor.offset + want := by
          simpa using lacking
        have fills := fills_fill record (cursor.offset + want - record.window.stop)
        split
        · rename_i intact
          have refilled := fills.refilled
          have delivers := delivers_deliver (refilled.tidy tidy)
            (refilled.cursors.symm ▸ standing) ahead
          exact .filled going sound lacks.1 lacks.2 fills intact (delivers.noting _)
        · rename_i broken
          exact .broke going sound lacks.1 lacks.2 fills (by simpa using broken)
      · rename_i enough
        have covered : record.terminal ≠ none ∨ cursor.offset + want ≤ record.window.stop := by
          simpa [Classical.or_iff_not_imp_left] using enough
        exact .served going sound covered (delivers_deliver tidy standing ahead)

end Payload.Buffered
