import Payload.Proofs.Buffered.Ending
import Payload.Proofs.Buffered.Metering

/-!
# A buffered body reports what its source said

A failure on record is the last thing that the source said, word for word, and it stays so for as
long as a copy is open: nothing is asked of the source any more.  The one failure that no source
reports is that of a source with nothing more to give before the declared length.
-/

namespace Payload

variable {σ τ : Type} [Source σ]

namespace Overheard

/-- What reading on after interruptions comes to is what was heard last. -/
theorem head?_readSteady (want tries : Nat) (overheard : Overheard σ)
    (came : (Source.readSteady want tries overheard).1 ≠ .broke) :
    (Source.readSteady want tries overheard).2.answers.head? =
      some ((Source.readSteady want tries overheard).1.map Transfer.count) := by
  induction tries generalizing overheard with
  | zero => exact absurd rfl came
  | succ tries ih =>
      have heard : (Source.read want overheard).2.answers.head? =
          some ((Source.read want overheard).1.map Transfer.count) := rfl
      unfold Source.readSteady at came ⊢
      rcases reading : Source.read want overheard with ⟨answer, next⟩
      rw [reading] at heard came
      cases answer with
      | done transfer => exact heard
      | broke => exact absurd rfl came
      | failed fault =>
          dsimp only at came ⊢
          split
          · rename_i again
            rw [if_pos again] at came
            exact ih next came
          · exact heard

/-- Reading on that does not come back has not heard last that there is nothing. -/
theorem wet_readSteady (want tries : Nat) (overheard : Overheard σ)
    (broke : (Source.readSteady want tries overheard).1 = .broke) :
    (Source.readSteady want tries overheard).2.answers = overheard.answers ∨
      ¬(Source.readSteady want tries overheard).2.Dry := by
  induction tries generalizing overheard with
  | zero => exact Or.inl rfl
  | succ tries ih =>
      have heard : (Source.read want overheard).2.answers.head? =
          some ((Source.read want overheard).1.map Transfer.count) := rfl
      unfold Source.readSteady at broke ⊢
      rcases reading : Source.read want overheard with ⟨answer, next⟩
      rw [reading] at heard broke
      cases answer with
      | done transfer => cases broke
      | broke => exact Or.inr fun dry => by cases heard.symm.trans dry
      | failed fault =>
          dsimp only at broke ⊢
          split
          · rename_i again
            rw [if_pos again] at broke
            rcases ih next broke with same | wet_later
            · refine Or.inr fun dry => ?_
              rw [Dry, same] at dry
              cases heard.symm.trans dry
            · exact Or.inr wet_later
          · rename_i final
            rw [if_neg final] at broke
            cases broke

/-- This failure is what was heard last, or stands for a last answer that gave nothing. -/
def Told (fault : Fault) (overheard : Overheard σ) : Prop :=
  overheard.answers.head? = some (.failed fault) ∨
    fault = Buffered.endedEarly ∧ overheard.Dry

omit [Source σ] in
/-- The reads of a callback are not heard. -/
theorem answers_visit {α : Type} (custody : Custody (Overheard σ))
    (callback : σ → Option α × σ) :
    (custody.visit (unheard callback)).2.source.answers = custody.source.answers := by
  rcases custody.source_visit (unheard callback) with same | called
  · rw [same]
  · rw [called]
    rfl

end Overheard

/-- The end or the failure that an answer to a read is taken for, where the length of the stream is
known or not. -/
def Answer.stops? (known : Bool) : Answer Nat → Option Terminal
  | .done 0 => some (if known then .failed Buffered.endedEarly else .ended)
  | .done (_ + 1) => none
  | .failed fault => some (.failed fault)
  | .broke => none

namespace Buffered

/-- What is drawn stops as the last answer has it. -/
theorem heard_of_draw {known : Bool} {count : Nat} {source next : Overheard σ} {intake : Intake}
    (ordered : count ≠ 0) (drawn : draw known count source = (some intake, next)) :
    ∃ answer, next.answers.head? = some answer ∧ intake.stopped = answer.stops? known := by
  rw [draw, if_neg ordered] at drawn
  obtain ⟨taken, rfl⟩ := Prod.mk.inj drawn
  have heard := source.head?_readSteady count (Source.patience source + 1)
  generalize (Source.readSteady count (Source.patience source + 1) source).1 = came
    at taken heard
  refine ⟨_, heard ?_, ?_⟩
  · rintro rfl
    cases taken
  · cases came with
    | broke => cases taken
    | failed fault =>
        cases taken
        rfl
    | done transfer =>
        obtain ⟨content, received, rfl⟩ := Option.map_eq_some_iff.mp taken
        have size_eq := Transfer.size_of_received?_eq_some size_zeros received
        change _ = Answer.stops? known (.done transfer.count)
        rw [← size_eq]
        split
        · rename_i nothing
          rw [nothing]
          rfl
        · rename_i some_bytes
          obtain ⟨more, size_eq⟩ := Nat.exists_eq_succ_of_ne_zero some_bytes
          rw [size_eq]
          rfl

/-- What cannot be drawn did not stop at a last answer that there is nothing. -/
theorem wet_of_draw {known : Bool} {count : Nat} {source next : Overheard σ}
    (drawn : draw known count source = (none, next)) :
    next.answers = source.answers ∨ ¬next.Dry := by
  unfold draw at drawn
  split at drawn
  · cases drawn
  · obtain ⟨taken, rfl⟩ := Prod.mk.inj drawn
    have heard := source.head?_readSteady count (Source.patience source + 1)
    have wet := source.wet_readSteady count (Source.patience source + 1)
    generalize (Source.readSteady count (Source.patience source + 1) source).1 = came
      at taken heard wet
    cases came with
    | broke => exact wet rfl
    | failed fault => cases taken
    | done transfer =>
        have excess := Transfer.received?_eq_none_iff.mp (Option.map_eq_none_iff.mp taken)
        refine Or.inr fun dry => ?_
        have nothing := Outcome.done.inj (Option.some.inj ((heard nofun).symm.trans dry))
        rw [nothing] at excess
        exact absurd excess (Nat.not_lt_zero count)

/-- What filling can hear: nothing, or a last answer that it stops by unless it has all there is. -/
inductive Hears (record next : Buffered (Overheard σ)) : Prop where
  | nothing (answers : next.custody.source.answers = record.custody.source.answers)
      (held : next.custody.held = record.custody.held)
      (unfailed : ∀ fault, next.terminal ≠ some (.failed fault))
  | answer (answer : Answer Nat) (held : record.custody.held = true)
      (heard : next.custody.source.answers.head? = some answer)
      (stops : next.terminal = answer.stops? record.length.isSome ∨
        answer.stops? record.length.isSome = none ∧ next.terminal = some .ended)

theorem Fills.hears {record : Buffered (Overheard σ)} {shortfall : Nat} {fill : Fill (Overheard σ)}
    (fills : Fills record shortfall fill) (intact : fill.intact = true)
    (running : record.terminal = none) : Hears record fill.record := by
  cases fills with
  | released => exact .nothing rfl rfl (by rw [running]; nofun)
  | crowded => cases intact
  | broken => cases intact
  | @filled intake source extended notes held fits drawn longer =>
      by_cases nothing : (record.order shortfall).1 = 0
      · rw [draw, if_pos nothing] at drawn
        obtain ⟨rfl, rfl⟩ := Prod.mk.inj drawn |>.imp Option.some.inj id
        refine .nothing rfl rfl fun fault failed => ?_
        change terminalAfter _ _ _ = _ at failed
        unfold terminalAfter at failed
        split at failed <;> cases failed
      · obtain ⟨answer, heard, stopped⟩ := heard_of_draw nothing drawn
        refine .answer answer held heard ?_
        rw [← stopped]
        change terminalAfter _ _ intake = _ ∨ _ ∧ terminalAfter _ _ intake = _
        unfold terminalAfter
        split
        · rename_i all
          simp only [Bool.and_eq_true, Option.isNone_iff_eq_none] at all
          exact Or.inr ⟨all.1.1, rfl⟩
        · exact Or.inl rfl

/-! ## The failure on record -/

/-- A failure on record was told, and a source that gave nothing has left what that is taken for:
the end, or a failure where a length was declared.  One that was not is learned with the end. -/
structure Heeds (declared : Bool) (record : Buffered (Overheard σ)) : Prop where
  failed : ∀ fault, record.terminal = some (.failed fault) → record.custody.source.Told fault
  going : record.custody.poisoned = false → record.custody.held = true → record.terminal = none →
    record.length.isSome = declared
  dry : record.custody.poisoned = false → record.custody.held = true →
    record.custody.source.Dry → record.terminal = Answer.stops? declared (.done 0)

variable {declared : Bool}

theorem Fills.heeds {record : Buffered (Overheard σ)} {shortfall : Nat} {fill : Fill (Overheard σ)}
    (fills : Fills record shortfall fill) (intact : fill.intact = true)
    (sound : record.custody.poisoned = false) (running : record.terminal = none)
    (heeds : Heeds declared record) : Heeds declared fill.record := by
  have going (_ : fill.record.custody.poisoned = false) (held : fill.record.custody.held = true)
      (further : fill.record.terminal = none) : fill.record.length.isSome = declared := by
    cases fills with
    | released => exact heeds.going sound held further
    | crowded => cases intact
    | broken => cases intact
    | filled notes held =>
        rw [← heeds.going sound held running]
        change terminalAfter _ _ _ = none at further
        change (lengthAfter _ (terminalAfter _ _ _) _).isSome = _
        rw [further]
        rfl
  cases fills.hears intact running with
  | nothing answers held unfailed =>
      refine ⟨fun fault failed => absurd failed (unfailed fault), going, fun _ working heard => ?_⟩
      rw [held] at working
      rw [Overheard.Dry, answers] at heard
      cases running.symm.trans (heeds.dry sound working heard)
  | answer answer held heard stops =>
      rw [heeds.going sound held running] at stops
      refine ⟨fun fault failed => ?_, going, fun _ _ dry => ?_⟩
      · have stopped : answer.stops? declared = some (.failed fault) := by
          rcases stops with same | ⟨-, ended⟩
          · exact same.symm.trans failed
          · cases ended.symm.trans failed
        rcases answer with (_ | count) | other | _
        · change some _ = some _ at stopped
          split at stopped
          · cases stopped
            exact Or.inr ⟨rfl, heard⟩
          · cases stopped
        · cases stopped
        · cases stopped
          exact Or.inl heard
        · cases stopped
      · obtain rfl := Option.some.inj (heard.symm.trans dry)
        rcases stops with same | ⟨unstopped, -⟩
        · exact same
        · cases unstopped

theorem Reads.heeds {want : Nat} {record : Buffered (Overheard σ)} {cursor : Cursor}
    {turn : Turn (Buffered (Overheard σ)) Cursor ByteArray} (reads : Reads want record cursor turn)
    (heeds : Heeds declared record) : Heeds declared turn.record := by
  have delivered {goal : Nat} {filled : Buffered (Overheard σ)}
      (delivers : Delivers goal filled cursor turn) (heeds : Heeds declared filled) :
      Heeds declared turn.record := by
    obtain ⟨failed, going, dry⟩ := heeds
    rw [← delivers.terminal, ← delivers.custody] at failed dry
    rw [← delivers.terminal, ← delivers.custody, ← delivers.length] at going
    exact ⟨failed, going, dry⟩
  cases reads with
  | ended => exact heeds
  | poisoned => exact heeds
  | broke going sound running short fills broken =>
      obtain ⟨poisoned, same⟩ := fills.of_broken broken
      refine ⟨fun fault failed => ?_, fun sound => ?_, fun sound => ?_⟩
      · rw [same, running] at failed
        cases failed
      · cases poisoned.symm.trans sound
      · cases poisoned.symm.trans sound
  | served going sound enough delivers => exact delivered delivers heeds
  | filled going sound running short fills intact delivers =>
      exact delivered delivers (fills.heeds intact sound running heeds)

theorem Heeds.step {lends : (σ → Option Unit × σ) → Prop} {pool next : Pool (engine (Overheard σ))}
    (heeds : Heeds declared pool.record)
    (step : Step (fun callback => ∃ inside, lends inside ∧ callback = Overheard.unheard inside)
      pool next) : Heeds declared next.record := by
  cases step with
  | read found reads => exact reads.heeds heeds
  | copied => exact ⟨heeds.failed, heeds.going, heeds.dry⟩
  | blank => exact heeds
  | left => exact ⟨heeds.failed, heeds.going, heeds.dry⟩
  | last =>
      have closed (held : (pool.record.custody.close .closingBuffered).2.1.held = true) :
          False := by
        rw [Custody.held_close] at held
        cases held
      exact ⟨nofun, fun _ held => (closed held).elim, fun _ held => (closed held).elim⟩
  | visited found lent =>
      obtain ⟨inside, -, rfl⟩ := lent
      have same := Overheard.answers_visit pool.record.custody inside
      refine ⟨fun fault failed => ?_, fun sound held further => ?_, fun sound held heard => ?_⟩
      · have told := heeds.failed fault failed
        rwa [Overheard.Told, Overheard.Dry, ← same] at told
      · rw [Pool.record_withRecord, Custody.held_visit] at held
        exact heeds.going (poisoned_of_visit sound) held further
      · rw [Pool.record_withRecord, Custody.held_visit] at held
        rw [Pool.record_withRecord, Overheard.Dry, same] at heard
        exact heeds.dry (poisoned_of_visit sound) held heard

theorem heeds_fresh (source : Overheard σ) (length : Option Nat) (blockSize : Nat)
    (begun : source.answers = []) :
    Heeds length.isSome (fresh source length blockSize).record := by
  refine ⟨nofun, fun _ _ _ => rfl, fun _ _ heard => ?_⟩
  change source.answers.head? = _ at heard
  rw [begun] at heard
  cases heard

/-! ## What is reported -/

section

variable [Sink τ] {pool : Pool (engine σ)} {index : Nat} {cursor : Cursor} {terminal : Terminal}

omit [Sink τ] in
/-- Once an end is on record a read changes nothing about it, and fails with it or on a poisoned
record. -/
theorem Reads.of_stopped {want : Nat} {record : Buffered σ}
    {turn : Turn (Buffered σ) Cursor ByteArray} (reads : Reads want record cursor turn)
    (stopped : record.terminal = some terminal)
    (agrees : ∀ met, cursor.terminal = some met → met = terminal) :
    turn.record.terminal = some terminal ∧ ∀ error, turn.reply = .failed error →
      error = terminal.error .read ∨ record.spoiled = true ∧ error = ⟨.read, .poisoned⟩ := by
  cases reads with
  | ended met =>
      refine ⟨stopped, fun error failed => Or.inl ?_⟩
      cases failed
      rw [agrees _ met]
  | poisoned going poisoned =>
      refine ⟨stopped, fun error failed => Or.inr ?_⟩
      cases failed
      exact ⟨poisoned, rfl⟩
  | broke going sound running =>
      rw [running] at stopped
      cases stopped
  | served going sound enough delivers =>
      refine ⟨delivers.terminal.trans stopped, fun error failed => Or.inl ?_⟩
      rcases delivers.reply with ⟨bytes, done, -⟩ | ⟨other, met, -, reply⟩
      · rw [done] at failed
        cases failed
      · have on_record := (delivers.meets met).1
        rw [delivers.terminal, stopped] at on_record
        rw [reply] at failed
        cases failed
        cases on_record
        rfl
  | filled going sound running =>
      rw [running] at stopped
      cases stopped

/-- Once an end is on record, reading out fails with it, on a poisoned record, or as the sink
does. -/
theorem error_of_writeTo (balanced : Balanced pool) (agreed : Agreed pool)
    (found : pool.cursor? index = some cursor) (stopped : pool.record.terminal = some terminal)
    {sink : τ} {error : Error}
    (failed : (writeTo sink pool.record cursor).1.reply = .failed error) :
    error = terminal.error .writeTo ∨
      pool.record.spoiled = true ∧ error = ⟨.writeTo, .poisoned⟩ ∨
      ∃ bytes, ∃ last next : τ, ∃ fault, Sink.takeAll bytes last = (.failed fault, next) ∧
        error = ⟨.writeTo, .fault fault⟩ := by
  have agrees {record : Buffered σ} {current : Cursor}
      (still : Agreed (pool.put index record current)) (settled : record.terminal = some terminal)
      (met : Terminal) (meets : current.terminal = some met) : met = terminal := by
    have here := Pool.cursor?_put_self found record current
    have on_record := (still current (Pool.mem_cursors_iff.mpr ⟨index, here⟩) met meets).1
    exact Option.some.inj (on_record.symm.trans settled)
  unfold writeTo at failed
  dsimp only at failed
  split at failed
  · cases failed
  · obtain ⟨reached, last, record, current, ⟨still, agree, settled, same⟩, pumped⟩ :=
      pump_rule (engine σ).read
        (I := fun _ (_ : τ) record current => Balanced (pool.put index record current) ∧
          Agreed (pool.put index record current) ∧ record.terminal = some terminal ∧
          record.spoiled = pool.record.spoiled)
        (fun _ _ record current buffer bytes _ ⟨still, agree, settled, same⟩ _ done _ => by
          obtain ⟨reads, onwards⟩ := still.reads_put found buffer
          have agreeing := agree.read (Pool.cursor?_put_self found record current) reads
          rw [Pool.put_put] at agreeing
          have spares := reads.accounts.spares
          change (record.read buffer.size current).reply = _ at done
          rw [done] at spares
          exact ⟨onwards, agreeing, (reads.of_stopped settled (agrees agree settled)).1,
            (spares nofun).trans same⟩)
        (.fresh (scratch pool.record.blockSize (pool.record.remaining cursor))) sink rfl
        ⟨by rwa [Pool.put_self found], by rwa [Pool.put_self found], stopped, rfl⟩
    change (pump (engine σ).read _ sink _ _).1.reply = _ at failed
    generalize pump (engine σ).read _ sink _ _ = out at pumped failed
    cases pumped with
    | endless => cases failed
    | @stopped buffer other notes sized stops =>
        have reads := (still.reads_put found buffer).1
        have reports := (reads.of_stopped settled (agrees agree settled)).2 other stops
        dsimp only at failed
        split at failed
        · cases failed
        · cases failed
          rcases reports with rfl | ⟨spoiled, rfl⟩
          · cases terminal with
            | ended => exact Or.inl rfl
            | failed fault => exact Or.inl rfl
          · exact Or.inr (Or.inl ⟨same.symm.trans spoiled, rfl⟩)
    | broke => cases failed
    | @refused buffer bytes fault next notes sized done offer =>
        cases failed
        exact Or.inr (Or.inr ⟨bytes, last, next, fault, offer, rfl⟩)
    | swallowed => cases failed

end

end Buffered

end Payload
