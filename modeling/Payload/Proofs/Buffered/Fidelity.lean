import Payload.Proofs.Buffered.Ending
import Payload.Proofs.Stream

/-!
# The window is a stretch of the stream

A buffered body over a sequential source keeps a stretch of the source's stream and nothing else.
The stretch ends where the source stands, and never past the length that the body was declared to
have.  Once an end is on record it is the one that stream and length call for, and the window ends
there.  Whatever the source's pieces and the body's blocks, filling the window keeps this, and so
does everything else that is asked of the copies.
-/

namespace Payload.Buffered

variable {σ : Type}

/-! ## Where a stream ends for a body -/

/-- How far a stream reaches for a body that was declared to have this length, or none. -/
def reach (declared : Option Nat) (stream : List UInt8) : Nat :=
  match declared with
  | none => stream.length
  | some length => min length stream.length

theorem reach_le (declared : Option Nat) (stream : List UInt8) :
    reach declared stream ≤ stream.length := by
  cases declared with
  | none => exact Nat.le_refl _
  | some length => exact Nat.min_le_right _ _

/-- What a body that knows its length, or does not, takes the end of its source for. -/
def stoppedBy (known : Bool) : Terminal → Terminal
  | .ended => if known then .failed endedEarly else .ended
  | .failed fault => .failed fault

@[simp]
theorem stoppedBy_false (sequel : Terminal) : stoppedBy false sequel = sequel := by
  cases sequel <;> rfl

/-- The end that all copies come to. -/
def ending (declared : Option Nat) (stream : List UInt8) (sequel : Terminal) : Terminal :=
  match declared with
  | none => sequel
  | some length => if length ≤ stream.length then .ended else stoppedBy true sequel

/-- The record keeps a stretch of the stream, and ends where and how it should. -/
structure Faithful (yields : List UInt8 → σ → Prop) (sequel : Terminal) (stream : List UInt8)
    (declared : Option Nat) (blockSize : Nat) (record : Buffered σ) : Prop where
  kept : record.window.kept = span stream record.window.start record.window.stop
  within : record.window.stop ≤ reach declared stream
  running : record.terminal = none →
    yields (stream.drop record.window.stop) record.custody.source ∧ record.length = declared
  stopped : ∀ terminal, record.terminal = some terminal →
    record.window.stop = reach declared stream ∧ terminal = ending declared stream sequel
  blocks : record.blockSize = max blockSize 1

theorem Faithful.blocks_pos {yields : List UInt8 → σ → Prop} {sequel : Terminal}
    {stream : List UInt8} {declared : Option Nat} {blockSize : Nat} {record : Buffered σ}
    (faithful : Faithful yields sequel stream declared blockSize record) : 0 < record.blockSize :=
  faithful.blocks ▸ Nat.lt_of_lt_of_le Nat.one_pos (Nat.le_max_right _ _)

/-! ## What is drawn from a sequential source -/

/-- What can be drawn from a source that has these bytes left. -/
inductive Draws (yields : List UInt8 → σ → Prop) (sequel : Terminal) (known : Bool)
    (rest : List UInt8) (count : Nat) : Option Intake × σ → Prop where
  | gave {bytes : ByteArray} {next : σ} (some_bytes : count ≠ 0 → bytes.size ≠ 0)
      (ahead : bytes.data.toList <+: rest) (onwards : yields (rest.drop bytes.size) next) :
      Draws yields sequel known rest count (some ⟨bytes, none⟩, next)
  | spent {next : σ} (asked : count ≠ 0) (nothing : rest = []) :
      Draws yields sequel known rest count
        (some ⟨.empty, some (stoppedBy known sequel)⟩, next)

theorem draws_draw [Source σ] {yields : List UInt8 → σ → Prop} {sequel : Terminal}
    (sequential : Source.Sequential yields sequel) {rest : List UInt8} {source : σ}
    (left : yields rest source) (known : Bool) (count : Nat) :
    Draws yields sequel known rest count (draw known count source) := by
  unfold draw
  split
  · rename_i nothing
    exact .gave (fun asked => absurd nothing asked) List.nil_prefix left
  · rename_i asked
    have comes := sequential.comes_readSteady (Nat.pos_of_ne_zero asked)
      (Source.patience source + 1) left (Nat.lt_succ_self _)
    generalize Source.readSteady count (Source.patience source + 1) source = step at comes ⊢
    cases comes with
    | piece some_bytes ahead onwards =>
        simp only [intake?, Transfer.received?, Option.map_some, if_neg some_bytes]
        exact .gave (fun _ => some_bytes) ahead onwards
    | @ended transfer next spent ends nothing =>
        obtain ⟨content, received, empty⟩ := Transfer.received?_of_count_eq_zero size_zeros nothing
        simp only [intake?, received, Option.map_some, if_pos empty]
        rw [ends]
        exact .spent asked spent
    | failed spent fails =>
        rw [fails]
        exact .spent asked spent

/-! ## What is ordered -/

theorem order_of_unknown {record : Buffered σ} (unknown : record.length = none) (shortfall : Nat) :
    (record.order shortfall).2 = false := by
  unfold order
  rw [unknown]

/-- With a known length no more is ordered than it leaves, and the order that reaches the end is for
all of that. -/
theorem order_of_known {record : Buffered σ} {length : Nat} (known : record.length = some length)
    (shortfall : Nat) :
    (record.order shortfall).1 ≤ length - record.window.stop ∧
      ((record.order shortfall).2 = true →
        (record.order shortfall).1 = length - record.window.stop) := by
  unfold order
  rw [known]
  dsimp only
  split
  · exact ⟨Nat.le_refl _, fun _ => rfl⟩
  · rename_i more
    exact ⟨Nat.le_of_not_le more, nofun⟩

/-- The last block that is ordered may go past what is missing, by less than a block. -/
theorem order_le (record : Buffered σ) (shortfall : Nat) :
    (record.order shortfall).1 ≤ shortfall + record.blockSize - 1 := by
  have rounded : min ((shortfall + record.blockSize - 1) / record.blockSize * record.blockSize)
      maxOffset ≤ shortfall + record.blockSize - 1 :=
    calc
      _ ≤ (shortfall + record.blockSize - 1) / record.blockSize * record.blockSize :=
        Nat.min_le_left _ _
      _ ≤ shortfall + record.blockSize - 1 := Nat.div_mul_le_self _ _
  unfold order
  cases record.length with
  | none => exact rounded
  | some length =>
      dsimp only
      split
      · rename_i all
        exact Nat.le_trans all rounded
      · exact rounded

/-- Nothing is ordered only where the known length leaves nothing. -/
theorem reaches_of_order_eq_zero {record : Buffered σ} (blocks : 0 < record.blockSize)
    {shortfall : Nat} (missing : 0 < shortfall) (nothing : (record.order shortfall).1 = 0) :
    (record.order shortfall).2 = true := by
  have several : 0 < (shortfall + record.blockSize - 1) / record.blockSize :=
    Nat.div_pos (by omega) blocks
  have rounded : 0 < min ((shortfall + record.blockSize - 1) / record.blockSize *
      record.blockSize) maxOffset :=
    Nat.lt_min.mpr ⟨Nat.mul_pos several blocks, by decide⟩
  unfold order at nothing ⊢
  cases known : record.length with
  | none =>
      rw [known] at nothing
      exact absurd nothing (Nat.ne_of_gt rounded)
  | some length =>
      rw [known] at nothing
      dsimp only at nothing ⊢
      split at nothing
      · rename_i all
        rw [if_pos all]
      · exact absurd nothing (Nat.ne_of_gt rounded)

/-! ## Filling -/

variable {yields : List UInt8 → σ → Prop} {sequel : Terminal} {stream : List UInt8}
  {declared : Option Nat} {blockSize : Nat} {record : Buffered σ}

/-- A stretch of the stream goes on with what comes next in the stream. -/
theorem Extended.kept_eq_span {window extended : Window} {bytes : ByteArray}
    (longer : Extended window extended bytes)
    (kept : window.kept = span stream window.start window.stop)
    (ahead : bytes.data.toList <+: stream.drop window.stop) :
    extended.kept = span stream extended.start extended.stop := by
  have next : bytes.data.toList = span stream window.stop (window.stop + bytes.size) := by
    simpa using eq_span_of_prefix ahead
  calc
    extended.kept = window.kept ++ bytes.data.toList := longer.kept
    _ = span stream window.start window.stop ++
        span stream window.stop (window.stop + bytes.size) := by rw [kept, next]
    _ = span stream window.start (window.stop + bytes.size) :=
        span_append stream (Nat.le_add_right _ _) (Nat.le_add_right _ _)
    _ = span stream extended.start extended.stop := by rw [longer.start, longer.stop]

/-- No more is ordered than there is within reach, and the order for all that is left reaches the
end. -/
theorem Faithful.stop_add (faithful : Faithful yields sequel stream declared blockSize record)
    (running : record.terminal = none) {shortfall count : Nat}
    (ordered : count ≤ (record.order shortfall).1)
    (inside : count ≤ stream.length - record.window.stop) :
    record.window.stop + count ≤ reach declared stream ∧
      ((record.order shortfall).2 = true → count = (record.order shortfall).1 →
        record.window.stop + count = reach declared stream ∧
          ending declared stream sequel = .ended) := by
  have length_eq := (faithful.running running).2
  have within := faithful.within
  cases declared with
  | none =>
      change _ ≤ stream.length at within
      change _ ≤ stream.length ∧ _
      rw [order_of_unknown length_eq]
      exact ⟨by omega, nofun⟩
  | some length =>
      change _ ≤ min length stream.length at within
      obtain ⟨limited, whole⟩ := order_of_known length_eq shortfall
      constructor
      · change _ ≤ min length stream.length
        omega
      · intro reaches full
        have all := whole reaches
        have covered : length ≤ stream.length := by omega
        constructor
        · change _ = min length stream.length
          omega
        · exact if_pos covered

/-- A record stays faithful when it takes in what comes next in the stream. -/
theorem Faithful.take_in (faithful : Faithful yields sequel stream declared blockSize record)
    (running : record.terminal = none) {shortfall : Nat} {bytes : ByteArray} {source : σ}
    {extended : Window} (longer : Extended record.window extended bytes)
    (size_le : bytes.size ≤ (record.order shortfall).1)
    (ahead : bytes.data.toList <+: stream.drop record.window.stop)
    (onwards : yields ((stream.drop record.window.stop).drop bytes.size) source) :
    Faithful yields sequel stream declared blockSize
      { record with
        custody := record.custody.returning false source
        window := extended
        terminal :=
          terminalAfter (record.order shortfall).1 (record.order shortfall).2 ⟨bytes, none⟩
        length := lengthAfter record.length
          (terminalAfter (record.order shortfall).1 (record.order shortfall).2 ⟨bytes, none⟩)
          extended.stop } := by
  have length_eq := (faithful.running running).2
  have inside : bytes.size ≤ stream.length - record.window.stop := by
    simpa using ahead.length_le
  obtain ⟨within, whole⟩ := faithful.stop_add running size_le inside
  constructor
  · exact longer.kept_eq_span faithful.kept ahead
  · change extended.stop ≤ _
    rw [longer.stop]
    exact within
  · intro goes_on
    change terminalAfter _ _ _ = none at goes_on
    constructor
    · change yields (stream.drop extended.stop) source
      rw [longer.stop, ← List.drop_drop]
      exact onwards
    · change lengthAfter record.length (terminalAfter _ _ _) _ = declared
      rw [goes_on]
      exact length_eq
  · intro terminal stops
    change terminalAfter _ _ _ = some terminal at stops
    unfold terminalAfter at stops
    split at stops
    · rename_i full
      cases stops
      have all : (record.order shortfall).2 = true ∧ bytes.size = (record.order shortfall).1 := by
        simpa using full
      obtain ⟨reached, ended⟩ := whole all.1 all.2
      change extended.stop = _ ∧ _
      rw [longer.stop]
      exact ⟨reached, ended.symm⟩
    · cases stops
  · exact faithful.blocks

/-- A record stays faithful when its source is over. -/
theorem Faithful.run_out (faithful : Faithful yields sequel stream declared blockSize record)
    (running : record.terminal = none) {shortfall : Nat} {source : σ} {extended : Window}
    (longer : Extended record.window extended .empty) (asked : (record.order shortfall).1 ≠ 0)
    (spent : stream.drop record.window.stop = []) :
    Faithful yields sequel stream declared blockSize
      { record with
        custody := record.custody.returning false source
        window := extended
        terminal := some (stoppedBy record.length.isSome sequel)
        length := lengthAfter record.length (some (stoppedBy record.length.isSome sequel))
          extended.stop } := by
  have length_eq := (faithful.running running).2
  have within := faithful.within
  have inside := List.drop_eq_nil_iff.mp spent
  have stop_eq : extended.stop = record.window.stop := longer.stop
  have ends : record.window.stop = reach declared stream ∧
      stoppedBy record.length.isSome sequel = ending declared stream sequel := by
    rw [length_eq]
    cases declared with
    | none =>
        change _ ≤ stream.length at within
        exact ⟨Nat.le_antisymm within inside, stoppedBy_false sequel⟩
    | some length =>
        change _ ≤ min length stream.length at within
        have ordered := (order_of_known length_eq shortfall).1
        have short : ¬length ≤ stream.length := by omega
        constructor
        · change _ = min length stream.length
          omega
        · exact (if_neg short).symm
  constructor
  · exact longer.kept_eq_span faithful.kept List.nil_prefix
  · change extended.stop ≤ _
    rw [stop_eq]
    exact within
  · nofun
  · intro terminal stops
    cases stops
    change extended.stop = _ ∧ _
    rw [stop_eq]
    exact ends
  · exact faithful.blocks

/-- Filling keeps the window a stretch of the stream. -/
theorem Faithful.fill [Source σ]
    (faithful : Faithful yields sequel stream declared blockSize record)
    (sequential : Source.Sequential yields sequel) (running : record.terminal = none)
    {shortfall : Nat} {fill : Fill σ} (fills : Fills record shortfall fill) :
    Faithful yields sequel stream declared blockSize fill.record := by
  have draws := draws_draw sequential (faithful.running running).1 record.length.isSome
    (record.order shortfall).1
  cases fills with
  | released => exact faithful
  | crowded =>
      exact ⟨faithful.kept, faithful.within, faithful.running, faithful.stopped, faithful.blocks⟩
  | broken held fits drawn =>
      rw [drawn] at draws
      cases draws
  | filled notes held fits drawn longer =>
      have size_le := size_le_of_draw_eq_some drawn
      rw [drawn] at draws
      cases draws with
      | gave some_bytes ahead onwards =>
          exact faithful.take_in running longer size_le ahead onwards
      | spent asked nothing => exact faithful.run_out running longer asked nothing

/-- Filling from a sequential source comes back wherever there can be room for what is ordered. -/
theorem Faithful.intact [Source σ]
    (faithful : Faithful yields sequel stream declared blockSize record)
    (sequential : Source.Sequential yields sequel) (running : record.terminal = none)
    {shortfall : Nat} (room : record.window.size + (record.order shortfall).1 ≤ maxAllocation)
    {fill : Fill σ} (fills : Fills record shortfall fill) : fill.intact = true := by
  have draws := draws_draw sequential (faithful.running running).1 record.length.isSome
    (record.order shortfall).1
  cases fills with
  | released => rfl
  | crowded held overflow => exact absurd room (Nat.not_le.mpr overflow)
  | broken held fits drawn =>
      rw [drawn] at draws
      cases draws
  | filled => rfl

/-- What is drawn are bytes, unless the source has stopped. -/
theorem some_bytes_of_draw [Source σ] {known : Bool} {count : Nat} {source next : σ}
    {intake : Intake} (drawn : draw known count source = (some intake, next)) (asked : count ≠ 0)
    (going : intake.stopped = none) : intake.bytes.size ≠ 0 := by
  rw [draw, if_neg asked] at drawn
  have taken : intake? known _ = some intake := congrArg Prod.fst drawn
  unfold intake? at taken
  split at taken
  · obtain ⟨content, received, rfl⟩ := Option.map_eq_some_iff.mp taken
    split at going
    · cases going
    · rename_i some_bytes
      rw [if_neg some_bytes]
      exact some_bytes
  · cases taken
    cases going
  · cases taken

/-- Filling that comes back brought bytes, or the end, whatever the source is like. -/
theorem lt_stop_of_fills [Source σ] (blocks : 0 < record.blockSize)
    (held : record.custody.held = true) {shortfall : Nat} (missing : 0 < shortfall)
    {fill : Fill σ} (fills : Fills record shortfall fill) (intact : fill.intact = true) :
    record.window.stop < fill.record.window.stop ∨ fill.record.terminal ≠ none := by
  cases fills with
  | released gone =>
      rw [held] at gone
      cases gone
  | crowded => cases intact
  | broken => cases intact
  | @filled intake source extended notes held fits drawn longer =>
      change record.window.stop < extended.stop ∨ terminalAfter _ _ intake ≠ none
      rw [longer.stop]
      by_cases nothing : (record.order shortfall).1 = 0
      · have size_le := size_le_of_draw_eq_some drawn
        have empty := Nat.le_zero.mp (nothing ▸ size_le)
        have reaches := reaches_of_order_eq_zero blocks missing nothing
        right
        cases stopped : intake.stopped <;> simp [terminalAfter, stopped, nothing, reaches, empty]
      · cases stopped : intake.stopped with
        | none =>
            exact Or.inl (Nat.lt_add_of_pos_right
              (Nat.pos_of_ne_zero (some_bytes_of_draw drawn nothing stopped)))
        | some terminal => exact Or.inr (by simp [terminalAfter, stopped])

/-! ## Reading -/

/-- Trimming the window keeps a record faithful, and so does what does not touch the window. -/
theorem Faithful.trimmed (faithful : Faithful yields sequel stream declared blockSize record)
    {next : Buffered σ} (trimmed : Trimmed record.window next.window)
    (terminal : next.terminal = record.terminal)
    (source : next.custody.source = record.custody.source) (length : next.length = record.length)
    (blocks : next.blockSize = record.blockSize) :
    Faithful yields sequel stream declared blockSize next := by
  constructor
  · rw [trimmed.kept, trimmed.stop, faithful.kept]
    exact drop_span stream trimmed.start_le
  · rw [trimmed.stop]
    exact faithful.within
  · rw [terminal, trimmed.stop, source, length]
    exact faithful.running
  · rw [terminal, trimmed.stop]
    exact faithful.stopped
  · rw [blocks]
    exact faithful.blocks

theorem Faithful.deliver (faithful : Faithful yields sequel stream declared blockSize record)
    {goal : Nat} {cursor : Cursor} {turn : Turn (Buffered σ) Cursor ByteArray}
    (delivers : Delivers goal record cursor turn) :
    Faithful yields sequel stream declared blockSize turn.record :=
  faithful.trimmed delivers.trimmed delivers.terminal
    (congrArg Custody.source delivers.custody) delivers.length delivers.blockSize

/-- What a read of `want` bytes tells of the stream. -/
inductive Tells (sequel : Terminal) (stream : List UInt8) (declared : Option Nat)
    (blockSize want : Nat) (record : Buffered σ) (cursor : Cursor)
    (turn : Turn (Buffered σ) Cursor ByteArray) : Prop where
  /-- The bytes from the cursor on, and at least one if any were asked for. -/
  | gives {bytes : ByteArray} (done : turn.reply = .done bytes)
      (onwards : cursor.offset ≤ turn.cursor.offset)
      (within : turn.cursor.offset ≤ reach declared stream)
      (content : bytes.data.toList = span stream cursor.offset turn.cursor.offset)
      (some_bytes : 0 < want → cursor.offset < turn.cursor.offset)
  /-- The end, when everything was given. -/
  | ends (failed : turn.reply = .failed ((ending declared stream sequel).error .read))
      (there : cursor.offset = reach declared stream)
      (stays : turn.cursor.offset = cursor.offset)
  | poisoned (poisoned : record.custody.poisoned = true)
      (failed : turn.reply = .failed ⟨.read, .poisoned⟩) (stays : turn.cursor = cursor)
  /-- There cannot be so much room. -/
  | broke (broke : turn.reply = .broke) (stays : turn.cursor = cursor)
      (overflow : maxAllocation < stream.length + want + max blockSize 1)

section

variable {want : Nat} {cursor : Cursor} {turn : Turn (Buffered σ) Cursor ByteArray}

theorem Tells.of_done (tells : Tells sequel stream declared blockSize want record cursor turn)
    {bytes : ByteArray} (done : turn.reply = .done bytes) :
    cursor.offset ≤ turn.cursor.offset ∧ turn.cursor.offset ≤ reach declared stream ∧
      bytes.data.toList = span stream cursor.offset turn.cursor.offset ∧
      (0 < want → cursor.offset < turn.cursor.offset) := by
  cases tells with
  | gives gave onwards within content some_bytes =>
      rw [done] at gave
      cases gave
      exact ⟨onwards, within, content, some_bytes⟩
  | ends failed =>
      rw [done] at failed
      cases failed
  | poisoned _ failed =>
      rw [done] at failed
      cases failed
  | broke broke =>
      rw [done] at broke
      cases broke

theorem Tells.of_failed (tells : Tells sequel stream declared blockSize want record cursor turn)
    {error : Error} (failed : turn.reply = .failed error) :
    turn.cursor.offset = cursor.offset ∧
      ((error = (ending declared stream sequel).error .read ∧
          cursor.offset = reach declared stream) ∨
        (error = ⟨.read, .poisoned⟩ ∧ record.custody.poisoned = true)) := by
  cases tells with
  | gives gave =>
      rw [failed] at gave
      cases gave
  | ends ended there stays =>
      rw [failed] at ended
      cases ended
      exact ⟨stays, Or.inl ⟨rfl, there⟩⟩
  | poisoned poisoned refused stays =>
      rw [failed] at refused
      cases refused
      exact ⟨congrArg Cursor.offset stays, Or.inr ⟨rfl, poisoned⟩⟩
  | broke broke =>
      rw [failed] at broke
      cases broke

theorem Tells.of_broke (tells : Tells sequel stream declared blockSize want record cursor turn)
    (broke : turn.reply = .broke) :
    turn.cursor.offset = cursor.offset ∧
      maxAllocation < stream.length + want + max blockSize 1 := by
  cases tells with
  | gives gave =>
      rw [broke] at gave
      cases gave
  | ends failed =>
      rw [broke] at failed
      cases failed
  | poisoned _ failed =>
      rw [broke] at failed
      cases failed
  | broke _ stays overflow => exact ⟨congrArg Cursor.offset stays, overflow⟩

end

/-- What is delivered from a faithful record is true. -/
theorem tells_of_delivers {source : Buffered σ}
    (faithful : Faithful yields sequel stream declared blockSize record)
    (tidy : record.Tidy) {cursor : Cursor} (standing : 0 < record.cursors.count cursor.offset)
    {want : Nat} {turn : Turn (Buffered σ) Cursor ByteArray}
    (delivers : Delivers (cursor.offset + want) record cursor turn)
    (enough : 0 < want → record.terminal ≠ none ∨ cursor.offset < record.window.stop) :
    Tells sequel stream declared blockSize want source cursor turn := by
  have above := tidy.start_le standing
  have inside := tidy.within _ standing
  have offset_eq := delivers.offset
  have within : turn.cursor.offset ≤ record.window.stop :=
    offset_eq ▸ Nat.min_le_right _ _
  have onwards : cursor.offset ≤ turn.cursor.offset := by omega
  rcases delivers.reply with ⟨bytes, done, content, whole⟩ | ⟨terminal, meets, stays, failed⟩
  · refine .gives done onwards (Nat.le_trans within faithful.within) ?_ ?_
    · rw [content, between, faithful.kept]
      exact take_drop_span stream above within
    · intro asks
      refine Nat.lt_of_le_of_ne onwards fun same => ?_
      have met := delivers.met
      rw [whole (by rw [size_of_between content above within, ← same, Nat.sub_self])] at met
      rcases enough asks with stopped | more
      · have beyond : record.window.stop < cursor.offset + want := by omega
        rw [if_pos beyond] at met
        exact stopped met.symm
      · omega
  · obtain ⟨on_record, there⟩ := delivers.meets meets
    obtain ⟨stop_eq, rfl⟩ := faithful.stopped terminal (delivers.terminal ▸ on_record)
    rw [delivers.trimmed.stop, stays, stop_eq] at there
    exact .ends failed there stays

/-! ## The copies -/

/-- The books are balanced, the copies agree on the end, and while one is open the record is
faithful to the stream. -/
structure Truthful [Source σ] (yields : List UInt8 → σ → Prop) (sequel : Terminal)
    (stream : List UInt8) (declared : Option Nat) (blockSize : Nat) (pool : Pool (engine σ)) :
    Prop where
  balanced : Balanced pool
  agreed : Agreed pool
  faithful : 0 < pool.openCount → Faithful yields sequel stream declared blockSize pool.record

namespace Truthful

variable [Source σ] {pool next : Pool (engine σ)} {index : Nat} {cursor : Cursor}

theorem fresh {source : σ} (starts : yields stream source) (blockSize : Nat) :
    Truthful yields sequel stream declared blockSize (fresh source declared blockSize) where
  balanced := balanced_fresh source declared blockSize
  agreed := agreed_fresh source declared blockSize
  faithful _ :=
    { kept := rfl
      within := Nat.zero_le _
      running := fun _ => ⟨starts, rfl⟩
      stopped := nofun
      blocks := rfl }

/-- A read tells the truth about the stream, and leaves the record faithful. -/
theorem read (truthful : Truthful yields sequel stream declared blockSize pool)
    (sequential : Source.Sequential yields sequel) (found : pool.cursor? index = some cursor)
    {want : Nat} {turn : Turn (Buffered σ) Cursor ByteArray}
    (reads : Reads want pool.record cursor turn) :
    Tells sequel stream declared blockSize want pool.record cursor turn ∧
      Faithful yields sequel stream declared blockSize turn.record := by
  have some_open := Pool.openCount_pos found
  have faithful := truthful.faithful some_open
  have tidy := truthful.balanced.tidy some_open
  have held := truthful.balanced.held.mpr some_open
  have standing := truthful.balanced.standing found
  have inside := tidy.within _ standing
  cases reads with
  | @ended terminal met =>
      obtain ⟨on_record, there⟩ :=
        truthful.agreed cursor (Pool.mem_cursors_iff.mpr ⟨index, found⟩) terminal met
      obtain ⟨stop_eq, rfl⟩ := faithful.stopped terminal on_record
      exact ⟨.ends rfl (there.trans stop_eq) rfl, faithful⟩
  | poisoned going poisoned => exact ⟨.poisoned poisoned rfl rfl, faithful⟩
  | broke going sound running short fills broken =>
      refine ⟨?_, faithful.fill sequential running fills⟩
      have draws := draws_draw sequential (faithful.running running).1 pool.record.length.isSome
        (pool.record.order (cursor.offset + want - pool.record.window.stop)).1
      cases fills with
      | released => cases broken
      | crowded held overflow =>
          have ordered :=
            order_le pool.record (cursor.offset + want - pool.record.window.stop)
          have kept := Nat.le_trans faithful.within (reach_le declared stream)
          have small : pool.record.window.size ≤ pool.record.window.stop := Nat.le_add_left _ _
          have blocks := faithful.blocks
          exact .broke rfl rfl (by omega)
      | broken held fits drawn =>
          rw [drawn] at draws
          cases draws
      | filled => cases broken
  | served going sound enough delivers =>
      refine ⟨tells_of_delivers faithful tidy standing delivers ?_, faithful.deliver delivers⟩
      intro asks
      rcases enough with stopped | covered
      · exact Or.inl stopped
      · exact Or.inr (by omega)
  | @filled fill _ going sound running short fills intact delivers =>
      have refilled := fills.refilled
      have filled := faithful.fill sequential running fills
      have brought :=
        lt_stop_of_fills faithful.blocks_pos held (Nat.sub_pos_of_lt short) fills intact
      refine ⟨tells_of_delivers filled (refilled.tidy tidy) (refilled.cursors.symm ▸ standing)
        delivers ?_, filled.deliver delivers⟩
      intro _
      rcases brought with more | stopped
      · exact Or.inr (Nat.lt_of_le_of_lt inside more)
      · exact Or.inl stopped

/-- Every step that lends the source to no callback keeps to the truth. -/
theorem step (truthful : Truthful yields sequel stream declared blockSize pool)
    (sequential : Source.Sequential yields sequel) (step : Step (fun _ => False) pool next) :
    Truthful yields sequel stream declared blockSize next where
  balanced := truthful.balanced.step step
  agreed := truthful.agreed.step truthful.balanced step
  faithful some_open := by
    have faithful := truthful.faithful (step.openCount_pos some_open)
    have counted := (truthful.balanced.step step).counted
    cases step with
    | read found reads => exact (truthful.read sequential found reads).2
    | copied => exact faithful.trimmed (.refl _) rfl rfl rfl rfl
    | blank => exact faithful
    | left found others least trimmed => exact faithful.trimmed trimmed rfl rfl rfl rfl
    | last =>
        rw [← counted] at some_open
        exact absurd some_open (Nat.lt_irrefl 0)
    | visited found lent => exact lent.elim

end Truthful

end Payload.Buffered
