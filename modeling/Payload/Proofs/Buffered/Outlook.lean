import Payload.Proofs.Outlook

/-!
# What is ahead of a buffered copy

Ahead of a copy are the bytes that the window keeps from its place on, then those of the source, up
to the known length if there is one, and then the end.  Filling takes bytes from ahead of the window
into it, and delivering takes the copy past bytes that were ahead of it.
-/

namespace Payload

/-- The chart for a body that knows where the stream is to end, or does not: there it ends, and an
end before is a failure. -/
def Chart.upTo (bound : Option Nat) (chart : Chart) : Chart := fun position =>
  if bound.any (· ≤ position) then .error .ended
  else (chart position).mapError (Buffered.stoppedBy bound.isSome)

theorem Chart.upTo_of_lt {bound : Option Nat} {position : Nat}
    (before : ∀ last, bound = some last → position < last) (chart : Chart) :
    chart.upTo bound position =
      (chart position).mapError (Buffered.stoppedBy bound.isSome) := by
  rw [upTo, if_neg]
  cases bound with
  | none => exact nofun
  | some last => simpa using before last rfl

theorem Chart.upTo_of_ge {last position : Nat} (past : last ≤ position) (chart : Chart) :
    chart.upTo (some last) position = .error .ended :=
  if_pos (by simpa using past)

namespace Buffered

variable {σ : Type} [Source σ] {chart : Chart} {stands : Nat → σ → Prop}

/-- A record that can fill its window from a source with this chart, which stands at this
position. -/
structure Views (chart : Chart) (stands : Nat → σ → Prop) (position : Nat) (record : Buffered σ) :
    Prop where
  charted : Source.Charted chart stands
  stands : stands position record.custody.source
  sound : record.custody.poisoned = false

/-- Where the source stands when the window reaches the known length. -/
def bound (record : Buffered σ) (position : Nat) : Option Nat :=
  record.length.map fun length => position + (length - record.window.stop)

/-- What is ahead of the window, where the source stands at this position. -/
def beyond (chart : Chart) (position : Nat) (record : Buffered σ) : Outlook :=
  fun whole terminal =>
    match record.terminal with
    | some stopped => whole = [] ∧ terminal = stopped
    | none => (chart.upTo (record.bound position)).Ends position whole terminal

/-- What is ahead of a copy. -/
def outlook (chart : Chart) (position : Nat) (record : Buffered σ) (cursor : Cursor) : Outlook :=
  fun whole terminal =>
    match cursor.terminal with
    | some met => whole = [] ∧ terminal = met
    | none =>
      ∃ rest, whole = record.window.kept.drop (cursor.offset - record.window.start) ++ rest ∧
        beyond chart position record rest terminal

omit [Source σ] in
theorem beyond_of_terminal {position : Nat} {record : Buffered σ} {stopped : Terminal}
    (on_record : record.terminal = some stopped) (whole : List UInt8) (terminal : Terminal) :
    beyond chart position record whole terminal ↔ whole = [] ∧ terminal = stopped := by
  rw [beyond, on_record]

omit [Source σ] in
theorem outlook_of_met {position : Nat} {record : Buffered σ} {cursor : Cursor} {met : Terminal}
    (stopped : cursor.terminal = some met) (whole : List UInt8) (terminal : Terminal) :
    outlook chart position record cursor whole terminal ↔ whole = [] ∧ terminal = met := by
  rw [outlook, stopped]

omit [Source σ] in
theorem beyond_congr {position : Nat} {record next : Buffered σ}
    (terminal : next.terminal = record.terminal) (length : next.length = record.length)
    (stop : next.window.stop = record.window.stop) :
    beyond chart position next = beyond chart position record := by
  unfold beyond bound
  rw [terminal, length, stop]

/-! ## Filling -/

/-- What can be drawn from a source that stands at this position. -/
inductive DrawsFrom (chart : Chart) (stands : Nat → σ → Prop) (known : Bool)
    (position count : Nat) : Option Intake × σ → Prop where
  | gave {bytes : ByteArray} {next : σ} (shows : chart.Shows position bytes.data.toList)
      (goes : stands (position + bytes.size) next) :
      DrawsFrom chart stands known position count (some ⟨bytes, none⟩, next)
  | stopped {terminal : Terminal} {last : Nat} {next : σ} (asked : count ≠ 0)
      (stops : chart position = .error terminal) (still : stands last next) :
      DrawsFrom chart stands known position count
        (some ⟨.empty, some (stoppedBy known terminal)⟩, next)

theorem drawsFrom_draw (charted : Source.Charted chart stands) {position : Nat} {source : σ}
    (there : stands position source) (known : Bool) (count : Nat) :
    DrawsFrom chart stands known position count (draw known count source) := by
  unfold draw
  split
  · exact .gave trivial there
  · rename_i asked
    have attests := charted.attests_readSteady (Nat.pos_of_ne_zero asked)
      (Source.patience source + 1) there (Nat.lt_succ_self _)
    generalize Source.readSteady count (Source.patience source + 1) source = step at attests ⊢
    cases attests with
    | bytes some_bytes shows goes =>
        simp only [intake?, Transfer.received?, Option.map_some, if_neg some_bytes]
        exact .gave shows goes
    | ended nothing ends still =>
        obtain ⟨content, received, empty⟩ := Transfer.received?_of_count_eq_zero size_zeros nothing
        simp only [intake?, received, Option.map_some, if_pos empty]
        exact .stopped asked ends still
    | failed fails final still => exact .stopped asked fails still

omit [Source σ] in
/-- What is ordered of the source lies before the known length. -/
theorem upTo_bound_of_ordered {record : Buffered σ} {shortfall index : Nat}
    (ordered : index < (record.order shortfall).1) (chart : Chart) (position : Nat) :
    chart.upTo (record.bound position) (position + index) =
      (chart (position + index)).mapError (stoppedBy record.length.isSome) := by
  rw [Chart.upTo_of_lt, bound, Option.isSome_map]
  intro last bounded
  obtain ⟨length, known, rfl⟩ := Option.map_eq_some_iff.mp bounded
  have most := (order_of_known known shortfall).1
  omega

omit [Source σ] in
/-- The window has come to the known length, and so has the source. -/
theorem upTo_bound_of_finished {record : Buffered σ} {shortfall : Nat}
    (finishes : (record.order shortfall).2 = true) (chart : Chart) (position : Nat) :
    chart.upTo (record.bound position) (position + (record.order shortfall).1) =
      .error .ended := by
  cases known : record.length with
  | none =>
      rw [order_of_unknown known] at finishes
      cases finishes
  | some length =>
      rw [bound, known, (order_of_known known shortfall).2 finishes]
      exact Chart.upTo_of_ge (Nat.le_refl _) chart

omit [Source σ] in
/-- What came leaves ahead of the window what was ahead of the bytes that came. -/
theorem beyond_of_gave {position shortfall : Nat} {record next : Buffered σ} {bytes : ByteArray}
    (small : bytes.size ≤ (record.order shortfall).1)
    (stops : next.terminal =
      terminalAfter (record.order shortfall).1 (record.order shortfall).2 ⟨bytes, none⟩)
    (learns : next.length = lengthAfter record.length next.terminal next.window.stop)
    (further : next.window.stop = record.window.stop + bytes.size)
    (later : List UInt8) (terminal : Terminal) :
    beyond chart (position + bytes.size) next later terminal ↔
      (chart.upTo (record.bound position)).Ends (position + bytes.size) later terminal := by
  by_cases finished :
    (record.order shortfall).2 = true ∧ bytes.size = (record.order shortfall).1
  · have on_record : next.terminal = some .ended := by
      simp [stops, terminalAfter, finished]
    rw [beyond_of_terminal on_record]
    refine (Chart.ends_of_error ?_ terminal).symm
    rw [finished.2]
    exact upTo_bound_of_finished finished.1 chart position
  · have running : next.terminal = none := by
      rw [stops]
      simpa [terminalAfter] using finished
    have same_length : next.length = record.length := by
      rw [learns, running, lengthAfter, if_neg (by simp)]
    have same_bound : next.bound (position + bytes.size) = record.bound position := by
      unfold bound
      rw [same_length, further]
      refine Option.map_congr fun length known => ?_
      have most := (order_of_known known shortfall).1
      omega
    rw [beyond, running, same_bound]

/-- Filling takes bytes from ahead of the window into it. -/
theorem Views.fills {position : Nat} {record : Buffered σ}
    (views : record.Views chart stands position) (held : record.custody.held = true)
    (running : record.terminal = none) {shortfall : Nat} {fill : Fill σ}
    (fills : Fills record shortfall fill) (intact : fill.intact = true) :
    ∃ place given, fill.record.Views chart stands place ∧
      fill.record.window.kept = record.window.kept ++ given ∧
      ∀ rest terminal, beyond chart position record rest terminal ↔
        ∃ later, rest = given ++ later ∧ beyond chart place fill.record later terminal := by
  cases fills with
  | released gone =>
      rw [held] at gone
      cases gone
  | crowded => cases intact
  | broken => cases intact
  | @filled intake source extended notes _ fits drawn longer =>
      have draws := drawsFrom_draw views.charted views.stands record.length.isSome
        (record.order shortfall).1
      have small : intake.bytes.size ≤ (record.order shortfall).1 := size_le_of_draw_eq_some drawn
      have sound : (record.custody.returning false source).poisoned = false := by
        simp [Custody.returning, views.sound]
      rw [drawn] at draws
      cases draws with
      | @gave bytes _ shows goes =>
          refine ⟨position + bytes.size, bytes.data.toList, ⟨views.charted, goes, sound⟩,
            longer.kept, fun rest terminal => ?_⟩
          have size_eq : bytes.data.toList.length = bytes.size := by simp
          have shown : (chart.upTo (record.bound position)).Shows position bytes.data.toList := by
            refine shows.mono fun index byte within found => ?_
            have ordered : index < (record.order shortfall).1 :=
              Nat.lt_of_lt_of_le (size_eq ▸ within) small
            rw [upTo_bound_of_ordered ordered, found]
            rfl
          rw [beyond, running, Chart.ends_of_shows shown, size_eq]
          exact exists_congr fun later => and_congr_right fun _ =>
            (beyond_of_gave small rfl rfl longer.stop later terminal).symm
      | @stopped terminal last _ asked stops still =>
          refine ⟨last, [], ⟨views.charted, still, sound⟩, longer.kept, fun rest met => ?_⟩
          have found : chart.upTo (record.bound position) position =
              .error (stoppedBy record.length.isSome terminal) := by
            have here := upTo_bound_of_ordered (Nat.pos_of_ne_zero asked) chart position
            rw [Nat.add_zero, stops] at here
            exact here
          have on_record : terminalAfter (record.order shortfall).1 (record.order shortfall).2
              ⟨.empty, some (stoppedBy record.length.isSome terminal)⟩ =
                some (stoppedBy record.length.isSome terminal) := by
            simp [terminalAfter]
          rw [beyond, running, Chart.ends_of_error found]
          simp only [List.nil_append, exists_eq_left']
          exact (beyond_of_terminal on_record rest met).symm

omit [Source σ] in
/-- The same is ahead of a copy when the window has taken some of it. -/
theorem outlook_of_longer {position place : Nat} {record next : Buffered σ} {cursor : Cursor}
    {given : List UInt8} (going : cursor.terminal = none)
    (within : cursor.offset ≤ record.window.stop)
    (start : next.window.start = record.window.start)
    (kept_eq : next.window.kept = record.window.kept ++ given)
    (ahead : ∀ rest terminal, beyond chart position record rest terminal ↔
      ∃ later, rest = given ++ later ∧ beyond chart place next later terminal) :
    outlook chart position record cursor = outlook chart place next cursor := by
  funext whole terminal
  have kept_le : cursor.offset - record.window.start ≤ record.window.kept.length := by
    rw [Window.stop_eq] at within
    omega
  simp only [outlook, going, start, kept_eq, List.drop_append_of_le_length kept_le,
    List.append_assoc, ahead, eq_iff_iff]
  constructor
  · rintro ⟨_, rfl, later, rfl, beyond⟩
    exact ⟨later, rfl, beyond⟩
  · rintro ⟨later, rfl, beyond⟩
    exact ⟨_, rfl, later, rfl, beyond⟩

/-! ## Delivering -/

omit [Source σ] in
/-- What is ahead of a copy after it was delivered to is what was ahead past its new place. -/
theorem Delivers.outlook_iff {goal position : Nat} {record : Buffered σ} {cursor : Cursor}
    {turn : Turn (Buffered σ) Cursor ByteArray} (delivers : Delivers goal record cursor turn)
    (tidy : record.Tidy) (standing : 0 < record.cursors.count cursor.offset)
    (whole : List UInt8) (terminal : Terminal) :
    outlook chart position turn.record turn.cursor whole terminal ↔
      ∃ rest, whole = record.window.kept.drop (turn.cursor.offset - record.window.start) ++ rest ∧
        beyond chart position record rest terminal := by
  have above := tidy.start_le standing
  cases met : turn.cursor.terminal with
  | some stopped =>
      obtain ⟨on_record, at_stop⟩ := delivers.meets met
      have nothing : record.window.kept.drop (turn.cursor.offset - record.window.start) = [] := by
        refine List.drop_eq_nil_of_le ?_
        rw [at_stop, delivers.trimmed.stop, Window.stop_eq]
        omega
      rw [outlook_of_met met, nothing]
      simp only [List.nil_append, exists_eq_left']
      exact (beyond_of_terminal (delivers.terminal ▸ on_record) whole terminal).symm
  | none =>
      have here : 0 < turn.record.cursors.count turn.cursor.offset := by
        rw [delivers.counts, movedCount]
        simp
      have after := delivers.tidy.start_le here
      have start_le := delivers.trimmed.start_le
      have left : turn.record.window.start - record.window.start +
          (turn.cursor.offset - turn.record.window.start) =
            turn.cursor.offset - record.window.start := by omega
      rw [outlook, met, delivers.trimmed.kept, List.drop_drop, left,
        beyond_congr delivers.terminal delivers.length delivers.trimmed.stop]

omit [Source σ] in
/-- Delivering gives the first of what is ahead, or meets the end. -/
theorem Delivers.follows {want position : Nat} {record : Buffered σ} {cursor : Cursor}
    {turn : Turn (Buffered σ) Cursor ByteArray}
    (delivers : Delivers (cursor.offset + want) record cursor turn) (tidy : record.Tidy)
    (standing : 0 < record.cursors.count cursor.offset) (going : cursor.terminal = none)
    (asks : 0 < want)
    (enough : record.terminal ≠ none ∨ cursor.offset < record.window.stop) :
    Outlook.Follows (outlook chart position record cursor)
      (outlook chart position turn.record turn.cursor) turn.reply := by
  have advances := delivers.advances tidy standing fun _ => enough
  have after (whole : List UInt8) (terminal : Terminal) :
      outlook chart position turn.record turn.cursor whole terminal ↔ _ :=
    delivers.outlook_iff tidy standing whole terminal
  have above := tidy.start_le standing
  rcases delivers.reply with ⟨bytes, reply, given, -⟩ | ⟨terminal, met, stays, reply⟩
  · have some_bytes := advances.some_bytes bytes reply asks
    have moved := advances.moves bytes reply
    have first : record.window.kept.drop (cursor.offset - record.window.start) =
        bytes.data.toList ++
          record.window.kept.drop (turn.cursor.offset - record.window.start) := by
      have further : turn.cursor.offset - record.window.start =
          cursor.offset - record.window.start + (turn.cursor.offset - cursor.offset) := by omega
      rw [given, between, further, ← List.drop_drop, List.take_append_drop]
    rw [reply]
    refine .gave (Nat.ne_of_gt some_bytes) fun whole terminal => ?_
    rw [outlook, going]
    simp only [after, first, List.append_assoc]
    constructor
    · rintro ⟨rest, rfl, ahead⟩
      exact ⟨_, rfl, rest, rfl, ahead⟩
    · rintro ⟨_, rfl, rest, rfl, ahead⟩
      exact ⟨rest, rfl, ahead⟩
  · rw [reply]
    refine .met (fun whole other => ?_) (outlook_of_met met)
    rw [outlook, going]
    dsimp only
    rw [← stays, ← after, outlook_of_met met]

omit [Source σ] in
/-- The end that a delivery reports is the one that the copy has met. -/
theorem Delivers.met_of_failed {goal : Nat} {record : Buffered σ} {cursor : Cursor}
    {turn : Turn (Buffered σ) Cursor ByteArray} (delivers : Delivers goal record cursor turn)
    (terminal : Terminal) (failed : turn.reply = .failed (terminal.error .read)) :
    turn.cursor.terminal = some terminal := by
  rcases delivers.reply with ⟨bytes, reply, -⟩ | ⟨met, on_cursor, -, reply⟩
  · rw [failed] at reply
    cases reply
  · rw [on_cursor, Terminal.error_inj (Outcome.failed.inj (failed.symm.trans reply))]

/-! ## Reading -/

/-- A read of an open copy that comes back gives the first of what is ahead, or meets the end. -/
theorem Views.follows_read {pool : Pool (engine σ)} (orderly : Orderly pool) {index position : Nat}
    {cursor : Cursor} (found : pool.cursor? index = some cursor)
    (views : pool.record.Views chart stands position) {want : Nat} (asks : 0 < want)
    (came : (pool.record.read want cursor).reply ≠ .broke) :
    ∃ place, (pool.record.read want cursor).record.Views chart stands place ∧
      Outlook.Follows (outlook chart position pool.record cursor)
        (outlook chart place (pool.record.read want cursor).record
          (pool.record.read want cursor).cursor)
        (pool.record.read want cursor).reply ∧
      ∀ terminal, (pool.record.read want cursor).reply = .failed (terminal.error .read) →
        (pool.record.read want cursor).cursor.terminal = some terminal := by
  have some_open := Pool.openCount_pos found
  have tidy := orderly.balanced.tidy some_open
  have standing := orderly.balanced.standing found
  have held := orderly.balanced.held.mpr some_open
  have reads := orderly.reads found want
  generalize pool.record.read want cursor = turn at reads came ⊢
  cases reads with
  | @ended terminal met =>
      refine ⟨position, views, .met (outlook_of_met met) (outlook_of_met met),
        fun other failed => ?_⟩
      rw [met, Terminal.error_inj (Outcome.failed.inj failed)]
  | poisoned going poisoned =>
      rw [views.sound] at poisoned
      cases poisoned
  | broke => exact absurd rfl came
  | served going sound enough delivers =>
      have some_ahead : pool.record.terminal ≠ none ∨ cursor.offset < pool.record.window.stop :=
        enough.imp_right fun covered => by omega
      refine ⟨position, ⟨views.charted, ?_, ?_⟩,
        delivers.follows tidy standing going asks some_ahead, delivers.met_of_failed⟩
      · rw [delivers.custody]
        exact views.stands
      · rw [delivers.custody]
        exact views.sound
  | @filled fill _ going sound running short fills intact delivers =>
      obtain ⟨place, given, next, kept_eq, ahead⟩ := views.fills held running fills intact
      have refilled := fills.refilled
      have standing' : 0 < fill.record.cursors.count cursor.offset :=
        refilled.cursors.symm ▸ standing
      have within := tidy.within _ standing
      have some_ahead : fill.record.terminal ≠ none ∨ cursor.offset < fill.record.window.stop := by
        rcases lt_stop_of_fills orderly.blocks held (Nat.sub_pos_of_lt short) fills intact with
          more | stopped
        · exact Or.inr (Nat.lt_of_le_of_lt within more)
        · exact Or.inl stopped
      rw [outlook_of_longer going within refilled.start kept_eq ahead]
      refine ⟨place, ⟨next.charted, ?_, ?_⟩,
        delivers.follows (refilled.tidy tidy) standing' going asks some_ahead,
        delivers.met_of_failed⟩
      · rw [delivers.custody]
        exact next.stands
      · rw [delivers.custody]
        exact next.sound

/-! ## Room -/

/-- The window can keep so many more bytes, and two blocks, or whatever the known length may be. -/
def Affords (record : Buffered σ) (cursor : Cursor) (count : Nat) : Prop :=
  cursor.offset - record.window.start + count + 2 * record.blockSize ≤ maxAllocation + 1 ∨
    ∃ length ≤ maxAllocation, record.length = some length

omit [Source σ] in
/-- A block that the body is read out in can be allocated. -/
theorem Affords.scratch_le {record : Buffered σ} {cursor : Cursor} {count : Nat}
    (affords : record.Affords cursor count) :
    scratch record.blockSize (record.remaining cursor) ≤ maxAllocation := by
  rcases affords with room | ⟨length, small, known⟩
  · have within := Payload.scratch_le record.blockSize (record.remaining cursor)
    omega
  · unfold remaining
    have some_room : 1 ≤ maxAllocation := by decide
    split
    · change min (max 0 1) record.blockSize ≤ maxAllocation
      omega
    · rw [known]
      change min (max (length - cursor.offset) 1) record.blockSize ≤ maxAllocation
      omega

/-- With room for its window a copy is read, no more than a block at a time, without breaking
off. -/
theorem Views.came {pool : Pool (engine σ)} (orderly : Orderly pool) {index position count : Nat}
    {cursor : Cursor} (found : pool.cursor? index = some cursor)
    (views : pool.record.Views chart stands position) (affords : pool.record.Affords cursor count)
    {want : Nat} (small : want ≤ pool.record.blockSize) :
    (pool.record.read want cursor).reply ≠ .broke := by
  have tidy := orderly.balanced.tidy (Pool.openCount_pos found)
  have above := tidy.start_le (orderly.balanced.standing found)
  have inside := tidy.within _ (orderly.balanced.standing found)
  have reads := orderly.reads found want
  intro broke
  generalize pool.record.read want cursor = turn at reads broke
  cases reads with
  | ended => cases broke
  | poisoned => cases broke
  | served going sound enough delivers => exact delivers.reply_ne_broke broke
  | filled going sound running short fills intact delivers =>
      exact delivers.reply_ne_broke broke
  | broke going sound running short fills broken =>
      cases fills with
      | released => cases broken
      | filled => cases broken
      | crowded held overflow =>
          have size_eq : pool.record.window.stop =
            pool.record.window.start + pool.record.window.size := rfl
          have blocks := orderly.blocks
          rcases affords with room | ⟨length, small, known⟩
          · have ordered := order_le pool.record (cursor.offset + want - pool.record.window.stop)
            omega
          · have ordered :=
              (order_of_known known (cursor.offset + want - pool.record.window.stop)).1
            have within := orderly.measured.within length known
            omega
      | broken held fits drawn =>
          have draws := drawsFrom_draw views.charted views.stands pool.record.length.isSome
            (pool.record.order (cursor.offset + want - pool.record.window.stop)).1
          rw [drawn] at draws
          cases draws

/-- Bytes that were read no longer need room. -/
theorem Affords.afterReads {τ : Type} [Sink τ] {pool : Pool (engine σ)} (orderly : Orderly pool)
    {index count : Nat} {cursor : Cursor} (found : pool.cursor? index = some cursor)
    {buffers : List Buffer} {pieces : List ByteArray}
    (gave : (pool.run (buffers.map (Use.read index : Buffer → Use σ τ))).1 =
      pieces.map fun piece => .bytes (.done piece))
    (affords : pool.record.Affords cursor (byteCount pieces + count)) {last : Cursor}
    (there : (pool.afterRun (buffers.map (Use.read index : Buffer → Use σ τ))).cursor? index =
      some last) :
    (pool.afterRun (buffers.map (Use.read index : Buffer → Use σ τ))).record.Affords last
      count := by
  obtain ⟨reached, here, moved, -⟩ := forwards.moved orderly found gave
  obtain rfl : last = reached := Option.some.inj (there.symm.trans here)
  rcases affords with room | ⟨length, small, known⟩
  · have trimmed := start_le_afterRun orderly.balanced
      (buffers.map (Use.read index : Buffer → Use σ τ))
    have same := blockSize_afterRun orderly.balanced
      (buffers.map (Use.read index : Buffer → Use σ τ))
    refine Or.inl ?_
    rw [same]
    omega
  · exact Or.inr ⟨length, small, length_afterRun orderly.balanced known _⟩

end Buffered

end Payload
