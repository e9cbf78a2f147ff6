import Payload.Proofs.Facing
import Payload.Proofs.States

/-!
# Buffered bodies over sources of which one lags

A buffered body reads its source on after an interruption while the room in its window is held open,
so an interruption is over before the window takes anything in.  What is drawn from two sources of
which one lags is the same, and everything else that a buffered body does goes by its record.
-/

namespace Payload.Buffered

variable {φ σ : Type}

/-- The same record over two sources, of which one lags behind the other while they are held. -/
inductive Faces (stands : φ → σ → Prop) (record : Buffered φ) : Buffered σ → Prop where
  | of {source : σ} (standing : record.custody.held = true → stands record.custody.source source) :
      Faces stands record { record with custody := record.custody.entrust source }

variable {stands : φ → σ → Prop} {record : Buffered φ} {other : Buffered σ}

/-- Whatever becomes of the custody, the rest of the record is the same. -/
theorem faces_of_custody {custody : Custody φ} {custody' : Custody σ}
    (faces : Custody.Faces stands custody custody') (window : Window) (terminal : Option Terminal)
    (cursors : Tally) (live : Nat) (length : Option Nat) (blockSize : Nat) :
    Faces stands ⟨custody, window, terminal, cursors, live, length, blockSize⟩
      ⟨custody', window, terminal, cursors, live, length, blockSize⟩ := by
  obtain ⟨standing⟩ := faces
  exact .of standing

/-! ## What goes by the record -/

/-- Trimming and moving go by the record. -/
theorem Faces.trim? (faces : Faces stands record other) :
    Option.Rel (fun out out' => Faces stands out.1 out'.1 ∧ out.2 = out'.2) record.trim?
      other.trim? := by
  obtain ⟨standing⟩ := faces
  rename_i source
  have custody : Custody.Faces stands record.custody (record.custody.entrust source) := .of standing
  unfold Buffered.trim?
  dsimp only
  cases record.cursors.least? with
  | none => exact .some ⟨faces_of_custody custody .., rfl⟩
  | some least =>
      dsimp only
      by_cases behind : least < record.window.start
      · rw [if_pos behind, if_pos behind]
        exact .none
      · rw [if_neg behind, if_neg behind]
        by_cases there : least = record.window.start
        · rw [if_pos there, if_pos there]
          exact .some ⟨faces_of_custody custody .., rfl⟩
        · rw [if_neg there, if_neg there]
          cases record.window.trimTo? least with
          | none => exact .none
          | some window => exact .some ⟨faces_of_custody custody .., rfl⟩

theorem Faces.advance? (faces : Faces stands record other) (first last : Nat) :
    Option.Rel (fun out out' => Faces stands out.1 out'.1 ∧ out.2 = out'.2)
      (record.advance? first last) (other.advance? first last) := by
  obtain ⟨standing⟩ := faces
  rename_i source
  have custody : Custody.Faces stands record.custody (record.custody.entrust source) := .of standing
  unfold Buffered.advance?
  dsimp only
  by_cases stays : first = last
  · rw [if_pos stays, if_pos stays]
    exact .some ⟨faces_of_custody custody .., rfl⟩
  · rw [if_neg stays, if_neg stays]
    by_cases inside : record.window.start ≤ first ∧ last ≤ record.window.stop
    · rw [if_pos inside, if_pos inside]
      by_cases slowest : first = record.window.start
      · rw [if_pos slowest, if_pos slowest]
        exact (faces_of_custody custody ..).trim?
      · rw [if_neg slowest, if_neg slowest]
        exact .some ⟨faces_of_custody custody .., rfl⟩
    · rw [if_neg inside, if_neg inside]
      exact .none

theorem Faces.same (faces : Faces stands record other) :
    other.window = record.window ∧ other.terminal = record.terminal ∧
      other.length = record.length ∧ other.blockSize = record.blockSize ∧
      other.custody.poisoned = record.custody.poisoned ∧
      other.custody.held = record.custody.held := by
  obtain ⟨-⟩ := faces
  exact ⟨rfl, rfl, rfl, rfl, rfl, rfl⟩

theorem Faces.standing (faces : Faces stands record other) (held : record.custody.held = true) :
    stands record.custody.source other.custody.source := by
  obtain ⟨standing⟩ := faces
  exact standing held

theorem Faces.poison (faces : Faces stands record other) :
    Faces stands record.poison other.poison := by
  obtain ⟨standing⟩ := faces
  rename_i source
  have custody : Custody.Faces stands { record.custody with poisoned := true }
      ({ record.custody with poisoned := true }.entrust source) := .of standing
  exact faces_of_custody custody ..

theorem Faces.deliver (faces : Faces stands record other) (goal : Nat) (cursor : Cursor) :
    Turn.Alike (Faces stands) (record.deliver goal cursor) (other.deliver goal cursor) := by
  obtain ⟨window, -⟩ := faces.same
  have moved := faces.advance? cursor.offset (min goal record.window.stop)
  unfold Buffered.deliver
  rw [window]
  dsimp only
  cases record.window.slice? cursor.offset (min goal record.window.stop) with
  | none => exact ⟨rfl, rfl, faces.poison⟩
  | some bytes =>
      generalize record.advance? _ _ = here at moved ⊢
      generalize other.advance? _ _ = there at moved ⊢
      cases moved with
      | none => exact ⟨rfl, rfl, faces.poison⟩
      | @some out out' alike =>
          obtain ⟨still, -⟩ := alike
          obtain ⟨-, terminal, -⟩ := still.same
          dsimp only
          rw [terminal]
          exact ⟨rfl, rfl, still⟩

/-! ## Filling the window -/

/-- Fills that both came back, or neither, with such records. -/
structure Fill.Alike (stands : φ → σ → Prop) (fill : Fill φ) (other : Fill σ) : Prop where
  intact : fill.intact = other.intact
  record : Faces stands fill.record other.record

theorem Faces.settle (faces : Faces stands record other) (count : Nat) (reaches : Bool)
    (bytes : ByteArray) (stopped : Option Terminal) :
    Fill.Alike stands (record.settle count reaches bytes stopped)
      (other.settle count reaches bytes stopped) := by
  have poisoned := faces.poison
  obtain ⟨standing⟩ := faces
  rename_i source
  have custody : Custody.Faces stands record.custody (record.custody.entrust source) := .of standing
  unfold Buffered.settle
  dsimp only
  cases (record.window.fill count bytes).shrinkTail? (count - bytes.size) with
  | none => exact ⟨rfl, poisoned⟩
  | some window => exact ⟨rfl, faces_of_custody custody ..⟩

variable [Source φ] [Source σ] {good : φ → Prop} {fair : σ → Prop}

/-- What is drawn from both sources is the same. -/
theorem draw_alike (lagging : Source.Lagging good fair stands) {source : φ} {facing : σ}
    (standing : stands source facing) (known : Bool) (count : Nat) :
    (draw known count source).1 = (draw known count facing).1 ∧
      stands (draw known count source).2 (draw known count facing).2 := by
  unfold draw
  split
  · exact ⟨rfl, standing⟩
  · obtain ⟨alike, still⟩ := lagging.readSteady count standing
      (Nat.lt_succ_self (Source.patience source)) (Nat.lt_succ_self (Source.patience facing))
    exact ⟨congrArg (intake? known) alike, still⟩

theorem Faces.fill (faces : Faces stands record other)
    (lagging : Source.Lagging good fair stands) (shortfall : Nat) :
    Fill.Alike stands (record.fill shortfall) (other.fill shortfall) := by
  have poisoned := faces.poison
  obtain ⟨standing⟩ := faces
  rename_i source
  have custody : Custody.Faces stands record.custody (record.custody.entrust source) := .of standing
  have ordered : ({ record with custody := record.custody.entrust source } : Buffered σ).order
    shortfall = record.order shortfall := rfl
  unfold Buffered.fill
  rw [ordered]
  generalize record.order shortfall = order
  obtain ⟨count, reaches⟩ := order
  dsimp only
  by_cases held : record.custody.held = true
  · rw [if_pos held, if_pos (show (record.custody.entrust source).held = true from held)]
    by_cases overflow : maxAllocation < record.window.size + count
    · rw [if_pos overflow, if_pos overflow]
      exact ⟨rfl, poisoned⟩
    · rw [if_neg overflow, if_neg overflow]
      by_cases nothing : count = 0
      · rw [if_pos nothing, if_pos nothing]
        exact (faces_of_custody custody ..).settle 0 reaches .empty none
      · rw [if_neg nothing, if_neg nothing, take_eq _ nothing, take_eq _ nothing]
        dsimp only [Custody.entrust]
        obtain ⟨alike, still⟩ :=
          draw_alike lagging (standing held) record.length.isSome count
        generalize draw record.length.isSome count record.custody.source = here at alike still ⊢
        generalize draw record.length.isSome count source = there at alike still ⊢
        obtain ⟨intake, next⟩ := here
        obtain ⟨intake', last⟩ := there
        obtain rfl : intake = intake' := alike
        have returned := Custody.faces_returning record.custody source false still
        cases intake with
        | none => exact ⟨rfl, (faces_of_custody returned ..).poison⟩
        | some intake => exact (faces_of_custody returned ..).settle count reaches _ _
  · rw [if_neg held, if_neg (show ¬(record.custody.entrust source).held = true from held)]
    exact ⟨rfl, .of standing⟩

/-! ## The operations -/

theorem Faces.read (faces : Faces stands record other)
    (lagging : Source.Lagging good fair stands) (want : Nat) (cursor : Cursor) :
    Turn.Alike (Faces stands) (record.read want cursor) (other.read want cursor) := by
  obtain ⟨window, terminal, -, -, poisoned, -⟩ := faces.same
  have filled := faces.fill lagging (cursor.offset + want - record.window.stop)
  unfold Buffered.read
  rw [window, terminal, poisoned]
  dsimp only
  cases cursor.terminal with
  | some met => exact ⟨rfl, rfl, faces⟩
  | none =>
      dsimp only
      by_cases spoiled : record.custody.poisoned = true
      · rw [if_pos spoiled, if_pos spoiled]
        exact ⟨rfl, rfl, faces⟩
      · rw [if_neg spoiled, if_neg spoiled]
        by_cases behind : cursor.offset < record.window.start
        · rw [if_pos behind, if_pos behind]
          exact ⟨rfl, rfl, faces.poison⟩
        · rw [if_neg behind, if_neg behind]
          by_cases lacks : (record.terminal.isNone &&
              decide (record.window.stop < cursor.offset + want)) = true
          · rw [if_pos lacks, if_pos lacks, ← filled.intact]
            by_cases intact :
                (record.fill (cursor.offset + want - record.window.stop)).intact = true
            · rw [if_pos intact, if_pos intact]
              obtain ⟨reply, place, still⟩ := filled.record.deliver (cursor.offset + want) cursor
              exact ⟨reply, place, still⟩
            · rw [if_neg intact, if_neg intact]
              exact ⟨rfl, rfl, filled.record⟩
          · rw [if_neg lacks, if_neg lacks]
            exact faces.deliver (cursor.offset + want) cursor

omit [Source φ] [Source σ] in
theorem Faces.copy (faces : Faces stands record other) (cursor : Cursor) :
    Turn.Alike (Faces stands) (record.copy cursor) (other.copy cursor) := by
  obtain ⟨standing⟩ := faces
  rename_i source
  have custody : Custody.Faces stands record.custody (record.custody.entrust source) := .of standing
  unfold Buffered.copy
  dsimp only
  by_cases spoiled : record.custody.poisoned = true
  · rw [if_pos spoiled,
      if_pos (show (record.custody.entrust source).poisoned = true from spoiled)]
    exact ⟨rfl, rfl, .of standing⟩
  · rw [if_neg spoiled,
      if_neg (show ¬(record.custody.entrust source).poisoned = true from spoiled)]
    exact ⟨rfl, rfl, faces_of_custody custody ..⟩

/-- The last copies that leave close their sources, which comes to the same. -/
theorem Faces.close (faces : Faces stands record other)
    (lagging : Source.Lagging good fair stands) (cursor : Cursor) :
    Turn.Alike (Faces stands) (record.close cursor) (other.close cursor) := by
  obtain ⟨standing⟩ := faces
  rename_i source
  have custody : Custody.Faces stands record.custody (record.custody.entrust source) := .of standing
  have left := faces_of_custody custody record.window record.terminal
    (record.cursors.release cursor.offset) (record.live - 1) record.length record.blockSize
  unfold Buffered.close
  dsimp only
  by_cases others : 0 < record.live - 1
  · rw [if_pos others, if_pos others]
    have trimmed := left.trim?
    generalize Buffered.trim? _ = here at trimmed ⊢
    generalize Buffered.trim? _ = there at trimmed ⊢
    cases trimmed with
    | none => exact ⟨rfl, rfl, left.poison⟩
    | some alike => exact ⟨rfl, rfl, alike.1⟩
  · rw [if_neg others, if_neg others]
    obtain ⟨alike, onwards⟩ := custody.close lagging .closingBuffered
    exact ⟨alike, rfl, faces_of_custody onwards ..⟩

omit [Source φ] [Source σ] in
theorem Faces.visit (faces : Faces stands record other) {callback : φ → Option Unit × φ}
    {callback' : σ → Option Unit × σ} (joined : Source.Joined stands callback callback')
    (cursor : Cursor) :
    Turn.Alike (Faces stands) (record.visit callback cursor) (other.visit callback' cursor) := by
  obtain ⟨standing⟩ := faces
  obtain ⟨alike, onwards⟩ := (Custody.Faces.of standing).visit joined
  exact ⟨alike, rfl, faces_of_custody onwards ..⟩

/-- Buffered bodies over two sources, of which one lags behind the other. -/
theorem faces (lagging : Source.Lagging good fair stands) :
    Engine.Faces (Faces stands) (Source.Joined stands) (engine φ) (engine σ) where
  read faces buffer := faces.read lagging buffer.size
  readAt faces _ _ _ := ⟨rfl, rfl, faces⟩
  seek faces _ _ _ := ⟨rfl, rfl, faces⟩
  copy faces := faces.copy
  close faces := faces.close lagging
  visit faces := faces.visit

/-- A copy is read out alike. -/
theorem Faces.writeTo {υ τ : Type} [Sink υ] [Sink τ] {willing : υ → Prop} {ready : τ → Prop}
    {poured : υ → τ → Prop} (faces : Faces stands record other)
    (lagging : Source.Lagging good fair stands) (sinks : Sink.Lagging willing ready poured)
    {sink : υ} {into : τ} (standing : poured sink into) (cursor : Cursor) :
    Turn.Alike (Faces stands) (record.writeTo sink cursor).1 (other.writeTo into cursor).1 ∧
      poured (record.writeTo sink cursor).2 (other.writeTo into cursor).2 := by
  obtain ⟨-, -, length, block, -, -⟩ := faces.same
  have remaining_eq : other.remaining cursor = record.remaining cursor := by
    unfold remaining
    rw [length]
  unfold Buffered.writeTo
  rw [remaining_eq, block]
  dsimp only
  split
  · exact ⟨⟨rfl, rfl, faces⟩, standing⟩
  · exact sinks.pump (fun faces buffer cursor => faces.read lagging buffer.size cursor) _ standing
      faces cursor

end Payload.Buffered
