import Payload.Proofs.Buffered.Delivery
import Payload.Proofs.Buffered.Metering

/-!
# Reading from a generous source

A generous source gives all that it is asked for, as far as it has so much.  So a window that is
filled from it reaches as far as was asked for or as far as the stream does, and a read goes just as
far.  When it meets the end depends on whether the length is known: a body that was told it meets
the end when it is asked past it, any other only when nothing is left to come.
-/

namespace Payload.Buffered

variable {σ : Type} {yields : List UInt8 → σ → Prop} {stream : List UInt8} {declared : Option Nat}
  {blockSize : Nat} {record : Buffered σ}

/-! ## Honest lengths -/

/-- If a length was declared, it is this one. -/
def Honest (declared : Option Nat) (length : Nat) : Prop :=
  ∀ known, declared = some known → known = length

theorem Honest.reach_eq (honest : Honest declared stream.length) :
    reach declared stream = stream.length := by
  cases declared with
  | none => rfl
  | some known =>
      obtain rfl := honest known rfl
      exact Nat.min_self _

theorem Honest.ending_eq (honest : Honest declared stream.length) :
    ending declared stream .ended = .ended := by
  cases declared with
  | none => rfl
  | some known => exact if_pos (Nat.le_of_eq (honest known rfl))

/-- The source gives all that it has, a length that was declared is true, and memory could hold the
bytes. -/
structure Fair [Source σ] (yields : List UInt8 → σ → Prop) (declared : Option Nat) (length : Nat) :
    Prop where
  generous : Source.Generous yields
  honest : Honest declared length
  small : length ≤ maxAllocation

theorem Fair.toList [Source σ] {data : ByteArray} (fair : Fair yields declared data.size) :
    Fair yields declared data.data.toList.length := by
  simpa using fair

/-! ## Filling -/

/-- At least what is missing is ordered, unless that is beyond all offsets or a known length leaves
less. -/
theorem le_order (blocks : 0 < record.blockSize) (shortfall : Nat) :
    min shortfall maxOffset ≤ (record.order shortfall).1 ∨
      ∃ length, record.length = some length ∧
        (record.order shortfall).1 = length - record.window.stop := by
  have rounded : shortfall ≤
      (shortfall + record.blockSize - 1) / record.blockSize * record.blockSize := by
    have next := Nat.lt_div_mul_add (a := shortfall + record.blockSize - 1) blocks
    omega
  have enough : min shortfall maxOffset ≤
      min ((shortfall + record.blockSize - 1) / record.blockSize * record.blockSize) maxOffset := by
    omega
  unfold order
  cases record.length with
  | none => exact Or.inl enough
  | some length =>
      dsimp only
      split
      · exact Or.inr ⟨length, rfl, rfl⟩
      · exact Or.inl enough

variable [Source σ]

/-- From a generous source as much is drawn as it has and was ordered. -/
theorem size_of_draw (generous : Source.Generous yields) {rest : List UInt8} {source next : σ}
    (left : yields rest source) {known : Bool} {count : Nat} {intake : Intake}
    (drawn : draw known count source = (some intake, next)) :
    intake.bytes.size = min count rest.length := by
  unfold draw at drawn
  split at drawn
  · rename_i nothing
    cases drawn
    rw [nothing, Nat.zero_min]
    rfl
  · rename_i ordered
    have asks := Nat.pos_of_ne_zero ordered
    have comes := generous.sequential.comes_readSteady asks (Source.patience source + 1) left
      (Nat.lt_succ_self _)
    have gives {content : ByteArray} {fits : content.size ≤ count} {after : σ}
        (came : Source.readSteady count (Source.patience source + 1) source =
          (.done (.bytes content fits), after)) : content.size = min count rest.length :=
      generous.size_readSteady asks _ left came
    generalize Source.readSteady count (Source.patience source + 1) source = step
      at comes drawn gives
    cases comes with
    | piece some_bytes ahead onwards =>
        simp only [intake?, Transfer.received?, Option.map_some, if_neg some_bytes] at drawn
        cases drawn
        exact gives rfl
    | ended spent ends nothing =>
        obtain ⟨content, received, empty⟩ := Transfer.received?_of_count_eq_zero size_zeros nothing
        simp only [intake?, received, Option.map_some, if_pos empty] at drawn
        cases drawn
        rw [spent]
        exact (Nat.min_zero _).symm
    | failed spent fails => cases fails

/-- Filling that comes back reaches as far as it was asked to, or as the stream does.  It finds the
end if the length is known, and otherwise only once nothing is left to come. -/
theorem Faithful.reaches (faithful : Faithful yields .ended stream declared blockSize record)
    (fair : Fair yields declared stream.length) (running : record.terminal = none)
    (held : record.custody.held = true) {goal : Nat} (short : record.window.stop < goal)
    {fill : Fill σ} (fills : Fills record (goal - record.window.stop) fill)
    (intact : fill.intact = true) :
    min goal stream.length ≤ fill.record.window.stop ∧
      (stream.length < goal → declared ≠ none ∨ record.window.stop = stream.length →
        fill.record.terminal ≠ none) := by
  obtain ⟨left, length_eq⟩ := faithful.running running
  have within := faithful.within
  rw [fair.honest.reach_eq] at within
  have small := fair.small
  have addressed : maxAllocation ≤ maxOffset := by decide
  have ordered := le_order faithful.blocks_pos (goal - record.window.stop)
  have draws := draws_draw fair.generous.sequential left record.length.isSome
    (record.order (goal - record.window.stop)).1
  cases fills with
  | released gone =>
      rw [held] at gone
      cases gone
  | crowded => cases intact
  | broken => cases intact
  | @filled intake source extended notes _ fits drawn longer =>
      have size_eq := size_of_draw fair.generous left drawn
      have stop_eq := longer.stop
      rw [List.length_drop] at size_eq
      rw [drawn] at draws
      change min goal stream.length ≤ extended.stop ∧
        (_ → _ → terminalAfter _ _ intake ≠ none)
      have far : min goal stream.length ≤ extended.stop := by
        rcases ordered with enough | ⟨length, known, all⟩
        · omega
        · have same := fair.honest length (length_eq.symm.trans known)
          omega
      refine ⟨far, fun beyond ends => ?_⟩
      cases declared with
      | none =>
          have spent : record.window.stop = stream.length := ends.resolve_left (absurd rfl)
          have asked : (record.order (goal - record.window.stop)).1 ≠ 0 := by
            rcases ordered with enough | ⟨length, known, -⟩
            · have some_offset : 0 < maxOffset := by decide
              omega
            · rw [length_eq] at known
              cases known
          cases draws with
          | gave some_bytes => exact absurd (by simp_all) (some_bytes asked)
          | spent => simp [terminalAfter]
      | some known =>
          obtain rfl := fair.honest known rfl
          have limited := (order_of_known length_eq (goal - record.window.stop)).1
          have all : (record.order (goal - record.window.stop)).2 = true :=
            reaches_of_order_eq_left length_eq (by omega)
          have full : intake.bytes.size = (record.order (goal - record.window.stop)).1 := by omega
          cases draws with
          | gave => simp [terminalAfter, all, full]
          | spent asked nothing =>
              have inside := List.drop_eq_nil_iff.mp nothing
              omega

/-- To a body that knows the length, a generous source never gives cause to break off. -/
theorem Faithful.intact_of_known
    (faithful : Faithful yields .ended stream declared blockSize record)
    (fair : Fair yields declared stream.length) (known : declared ≠ none)
    (running : record.terminal = none) {shortfall : Nat} {fill : Fill σ}
    (fills : Fills record shortfall fill) : fill.intact = true := by
  obtain ⟨length, declares⟩ := Option.ne_none_iff_exists'.mp known
  have length_eq := (faithful.running running).2.trans declares
  have limited := (order_of_known length_eq shortfall).1
  have same := fair.honest length declares
  have within := faithful.within
  rw [fair.honest.reach_eq] at within
  have small := fair.small
  have inside : record.window.size ≤ record.window.stop := Nat.le_add_left _ _
  exact faithful.intact fair.generous.sequential running (by omega) fills

/-! ## Reading -/

/-- A read that went as far as was asked for, or as there are bytes.  It met the end where more was
asked for and the length was known or nothing was left. -/
structure Whole (declared : Option Nat) (length want : Nat) (cursor : Cursor)
    (turn : Turn (Buffered σ) Cursor ByteArray) : Prop where
  offset : turn.cursor.offset = min (cursor.offset + want) length
  beyond : turn.cursor.terminal ≠ none → length < cursor.offset + want
  met : length < cursor.offset + want → declared ≠ none ∨ cursor.offset = length →
    turn.cursor.terminal ≠ none
  done : turn.cursor.terminal = none → ∃ bytes, turn.reply = .done bytes

section

variable {pool : Pool (engine σ)} {index want : Nat} {cursor : Cursor}
  {turn : Turn (Buffered σ) Cursor ByteArray}

omit [Source σ] in
theorem Delivers.whole (delivers : Delivers (cursor.offset + want) record cursor turn)
    {length : Nat} (within : record.window.stop ≤ length)
    (far : min (cursor.offset + want) length ≤ record.window.stop)
    (ends : length < cursor.offset + want → declared ≠ none ∨ cursor.offset = length →
      record.terminal ≠ none) : Whole declared length want cursor turn := by
  have offset_eq := delivers.offset
  have met_eq := delivers.met
  constructor
  · omega
  · intro met
    rw [met_eq] at met
    split at met
    · omega
    · exact absurd rfl met
  · intro beyond known
    rw [met_eq, if_pos (by omega)]
    exact ends beyond known
  · intro going
    rcases delivers.reply with ⟨bytes, done, -⟩ | ⟨terminal, met, -⟩
    · exact ⟨bytes, done⟩
    · rw [going] at met
      cases met

/-- A read of a copy that has not met the end goes as far as it can, if it comes back. -/
theorem Truthful.whole (truthful : Truthful yields .ended stream declared blockSize pool)
    (fair : Fair yields declared stream.length) (found : pool.cursor? index = some cursor)
    (going : cursor.terminal = none) (sound : pool.record.custody.poisoned = false)
    (reads : Reads want pool.record cursor turn) (came : turn.reply ≠ .broke) :
    Whole declared stream.length want cursor turn := by
  have some_open := Pool.openCount_pos found
  have faithful := truthful.faithful some_open
  have inside :=
    (truthful.balanced.tidy some_open).within _ (truthful.balanced.standing found)
  have reach_eq := fair.honest.reach_eq
  cases reads with
  | ended met =>
      rw [going] at met
      cases met
  | poisoned _ poisoned =>
      rw [sound] at poisoned
      cases poisoned
  | broke => exact absurd rfl came
  | served _ _ enough delivers =>
      have within := faithful.within
      rcases enough with stopped | covered
      · obtain ⟨terminal, on_record⟩ := Option.ne_none_iff_exists'.mp stopped
        have there := (faithful.stopped terminal on_record).1
        exact delivers.whole (by omega) (by omega) fun _ _ => stopped
      · exact delivers.whole (by omega) (by omega) (by omega)
  | @filled fill _ _ _ running short fills intact delivers =>
      have within := (faithful.fill fair.generous.sequential running fills).within
      have before := faithful.within
      obtain ⟨far, ends⟩ := faithful.reaches fair running (truthful.balanced.held.mpr some_open)
        short fills intact
      refine delivers.whole (by omega) far fun beyond known => ends beyond ?_
      exact known.imp_right fun there => by omega

/-- Where the length is known every read comes back. -/
theorem Truthful.came_of_known (truthful : Truthful yields .ended stream declared blockSize pool)
    (fair : Fair yields declared stream.length) (known : declared ≠ none)
    (found : pool.cursor? index = some cursor) (reads : Reads want pool.record cursor turn) :
    turn.reply ≠ .broke := by
  cases reads with
  | ended => nofun
  | poisoned => nofun
  | broke going sound running short fills broken =>
      have intact := (truthful.faithful (Pool.openCount_pos found)).intact_of_known fair known
        running fills
      rw [broken] at intact
      cases intact
  | served going sound enough delivers => exact delivers.reply_ne_broke
  | filled going sound running short fills intact delivers => exact delivers.reply_ne_broke

end

end Payload.Buffered
