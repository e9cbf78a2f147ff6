import Payload.Proofs.Buffered.Checks
import Payload.Proofs.Buffered.Ending
import Payload.Proofs.Buffered.Metering
import Payload.Proofs.Trouble

/-!
# A buffered body whose source went wrong

A fill that breaks off leaves the window with room that was never filled, and poisons the record.
No copy has moved by then, no end was put on record and no copy has left, so closing still works;
and every way to the window passes the poisoned flag, so what is in the room is never given out.
-/

namespace Payload.Buffered

open Relation

variable {σ τ : Type} [Source σ] [Sink τ]

/-! ## Trouble while the window is filled -/

/-- Where something is drawn from the source there was no trouble. -/
theorem draw_of_troubled {known : Bool} {count : Nat} {recorded : Recorded σ} {made : List Entry}
    (entries : (draw known count recorded).2.entries = made ++ recorded.entries)
    (troubled : ∃ entry ∈ made, entry.Troubled) : (draw known count recorded).1 = none := by
  obtain ⟨entry, member, troubled⟩ := troubled
  by_cases nothing : count = 0
  · rw [draw, if_pos nothing, List.self_eq_append_left] at entries
    rw [entries] at member
    cases member
  · rw [draw, if_neg nothing] at entries
    obtain ⟨asked, asks, requests, marks⟩ :=
      requests_readSteady count (Source.patience recorded + 1) recorded
    obtain rfl : made = asked := List.append_cancel_right (entries.symm.trans asks)
    refine draw_eq_none_iff.mpr ⟨nothing, ?_⟩
    by_cases broke :
        (Source.readSteady count (Source.patience recorded + 1) recorded).1 = .broke
    · exact Or.inl broke
    · obtain ⟨-, latest⟩ := marks broke
      rw [requests.head?_of_troubled member troubled] at latest
      rw [Option.some.inj latest] at troubled
      exact (Entry.troubled_iff_of_read _ (Or.inl rfl) _).mp troubled

theorem Fills.intact_of_troubled {record : Buffered (Recorded σ)} {shortfall : Nat}
    {fill : Fill (Recorded σ)} (fills : Fills record shortfall fill) {made : List Entry}
    (entries : fill.record.custody.source.entries = made ++ record.custody.source.entries)
    (troubled : ∃ entry ∈ made, entry.Troubled) : fill.intact = false := by
  cases fills with
  | released =>
      obtain ⟨entry, member, -⟩ := troubled
      rw [List.self_eq_append_left.mp entries] at member
      cases member
  | crowded => rfl
  | broken => rfl
  | filled notes held fits drawn longer =>
      have nothing : (draw record.length.isSome (record.order shortfall).1
          record.custody.source).1 = none :=
        draw_of_troubled (by rw [drawn]; exact entries) troubled
      rw [drawn] at nothing
      cases nothing

/-- A read that leaves trouble on record breaks off. -/
theorem Reads.reply_of_troubled {want : Nat} {record : Buffered (Recorded σ)} {cursor : Cursor}
    {turn : Turn (Buffered (Recorded σ)) Cursor ByteArray} (reads : Reads want record cursor turn)
    {made : List Entry}
    (entries : turn.record.custody.source.entries = made ++ record.custody.source.entries)
    (troubled : ∃ entry ∈ made, entry.Troubled) : turn.reply = .broke := by
  have some_calls : turn.record.custody.source.entries ≠ record.custody.source.entries := by
    intro same
    obtain ⟨entry, member, -⟩ := troubled
    rw [same, List.self_eq_append_left] at entries
    rw [entries] at member
    cases member
  cases reads with
  | ended => exact absurd rfl some_calls
  | poisoned => exact absurd rfl some_calls
  | broke => rfl
  | served going sound enough delivers =>
      exact absurd (by rw [delivers.custody]) some_calls
  | filled going sound running short fills intact delivers =>
      rw [delivers.custody] at entries
      rw [fills.intact_of_troubled entries troubled] at intact
      cases intact

/-! ## What trouble leaves -/

/-- The copies, of which one is open, and all that is on record of them are as they were before. -/
structure Undisturbed (before next : Pool (engine σ)) : Prop where
  some_open : 0 < before.openCount
  copies : next.copies = before.copies
  cursors : next.record.cursors = before.record.cursors
  live : next.record.live = before.record.live
  terminal : next.record.terminal = before.record.terminal
  length : next.record.length = before.record.length
  poisoned : next.record.custody.poisoned = true

section

variable {pool : Pool (engine σ)} {index : Nat} {cursor : Cursor}

/-- A read that breaks off disturbs no copy. -/
theorem undisturbed_read (balanced : Balanced pool) {buffer : Buffer}
    (broke : (pool.read index buffer).reply = .broke) :
    Undisturbed pool (pool.read index buffer).state := by
  obtain ⟨cursor, found, -⟩ := Pool.exists_open_of_act broke (by simp)
  obtain ⟨turn, reads, reply, state⟩ := exists_reads balanced found buffer
  rw [reply] at broke
  rw [state]
  cases reads with
  | ended => cases broke
  | poisoned => cases broke
  | served going sound enough delivers => exact absurd broke delivers.reply_ne_broke
  | filled going sound running short fills intact delivers =>
      exact absurd broke delivers.reply_ne_broke
  | broke going sound running short fills broken =>
      rw [Pool.put_eq_withRecord found]
      cases fills with
      | released => cases broken
      | crowded => exact ⟨Pool.openCount_pos found, rfl, rfl, rfl, rfl, rfl, rfl⟩
      | broken => exact ⟨Pool.openCount_pos found, rfl, rfl, rfl, rfl, rfl, rfl⟩
      | filled => cases broken

/-- A callback that breaks off disturbs no copy. -/
theorem undisturbed_visit {callback : σ → Option Unit × σ}
    (broke : (pool.visit index callback).reply = .broke) :
    Undisturbed pool (pool.visit index callback).state := by
  cases found : pool.cursor? index with
  | none =>
      rw [(Pool.visit_of_closed found callback).1] at broke
      cases broke
  | some cursor =>
      rw [(Pool.visit_of_open found callback).1] at broke
      rw [state_visit_of_open found callback]
      exact ⟨Pool.openCount_pos found, rfl, rfl, rfl, rfl, rfl, Custody.poisoned_of_broke broke⟩

end

section

variable {pool : Pool (engine (Recorded σ))} {index : Nat} {cursor : Cursor}

/-- Reads on balanced books break off on trouble. -/
theorem candid :
    Candid Buffered.custody fun pool : Pool (engine (Recorded σ)) => Balanced pool where
  keeps {pool} index buffer balanced := by
    cases found : pool.cursor? index with
    | none =>
        rw [Pool.read, (Pool.act_of_closed found _ _).2]
        exact balanced
    | some cursor =>
        have step : Step (fun _ => True) pool (pool.read index buffer).state :=
          step_read balanced found buffer
        exact balanced.step step
  onwards {pool} index buffer balanced := by
    cases found : pool.cursor? index with
    | none =>
        rw [Pool.read, (Pool.act_of_closed found _ _).2]
        exact List.suffix_refl _
    | some cursor =>
        obtain ⟨turn, reads, -, state⟩ := exists_reads balanced found buffer
        obtain ⟨made, logs, -⟩ := reads.logs
        rw [state]
        exact ⟨made, logs.entries.symm⟩
  breaks {pool} index buffer balanced troubles := by
    cases found : pool.cursor? index with
    | none =>
        rw [Pool.read, (Pool.act_of_closed found _ _).2] at troubles
        exact absurd troubles (not_troubles_of_entries_eq rfl)
    | some cursor =>
        obtain ⟨turn, reads, reply, state⟩ := exists_reads balanced found buffer
        rw [state] at troubles
        obtain ⟨made, entries, troubled⟩ := troubles
        exact reply.trans (reads.reply_of_troubled entries troubled)

theorem spared_close (balanced : Balanced pool) (index : Nat) :
    Spared Buffered.custody pool (pool.close index).state := by
  cases found : pool.cursor? index with
  | none => exact .of_eq (Pool.close_of_closed found).2
  | some cursor =>
      rw [(Pool.close_of_open found).2]
      change Spared Buffered.custody pool (pool.remove index (pool.record.close cursor).record)
      have departs := departs_close balanced found
      generalize pool.record.close cursor = turn at departs ⊢
      cases departs with
      | left => exact Or.inl rfl
      | last => exact Or.inr ⟨_, rfl⟩

/-- Where reading a copy out runs into trouble, its last read disturbs no copy. -/
theorem exists_undisturbed_of_writeTo (balanced : Balanced pool) {sink : τ}
    (troubles : Troubles Buffered.custody pool (pool.writeTo index sink).1.state) :
    ∃ before, Pool.Underway pool (.writeTo index sink) before ∧
      Undisturbed before (pool.writeTo index sink).1.state := by
  cases found : pool.cursor? index with
  | none =>
      rw [(Pool.writeTo_of_closed found sink).2.1] at troubles
      exact absurd troubles (not_troubles_of_entries_eq rfl)
  | some cursor =>
      rw [(Pool.writeTo_of_open found sink).2.1] at troubles ⊢
      change Troubles _ pool (pool.put index (writeTo sink pool.record cursor).1.record
        (writeTo sink pool.record cursor).1.cursor) at troubles
      change ∃ before, Pool.Underway pool (.writeTo index sink) before ∧
        Undisturbed before (pool.put index (writeTo sink pool.record cursor).1.record
          (writeTo sink pool.record cursor).1.cursor)
      unfold writeTo at troubles ⊢
      dsimp only at troubles ⊢
      split at troubles
      · rw [Pool.put_self found] at troubles
        exact absurd troubles (not_troubles_of_entries_eq rfl)
      · rename_i room
        rw [if_neg room]
        obtain ⟨before, other, underway, still, last, state⟩ :=
          candid.exists_broke_of_pump balanced found _ sink sink troubles
        have broke := candid.breaks index other still last
        exact ⟨before, underway, state ▸ undisturbed_read still broke⟩

/-- Where something goes wrong in a use, it leaves the copies as they were just before. -/
theorem exists_undisturbed (balanced : Balanced pool) {use : Use σ τ}
    (spoils : Spoils Buffered.custody pool use.unseen) :
    ∃ before, Pool.Underway pool use.unseen before ∧
      Undisturbed before (pool.use use.unseen).2 := by
  cases use with
  | read index buffer =>
      have troubles := spoils.resolve_right nofun
      exact ⟨pool, .begun _,
        undisturbed_read balanced (candid.breaks index buffer balanced troubles)⟩
  | readAt index buffer offset =>
      exact absurd spoils (Spared.not_spoils (.of_eq (state_readAt pool index buffer offset)) nofun)
  | seek index offset whence =>
      exact absurd spoils (Spared.not_spoils (.of_eq (state_seek pool index offset whence)) nofun)
  | writeTo index sink =>
      exact exists_undisturbed_of_writeTo balanced (spoils.resolve_right nofun)
  | copy index =>
      exact absurd spoils (Spared.not_spoils (Or.inl (custody_copy pool index)) nofun)
  | close index => exact absurd spoils (Spared.not_spoils (spared_close balanced index) nofun)
  | drop index =>
      have spared := spared_close balanced index
      rw [← Pool.state_drop] at spared
      exact absurd spoils (Spared.not_spoils spared nofun)
  | visit index callback =>
      exact ⟨pool, .begun _, undisturbed_visit (spoils.reply_of_visit fun _ => rfl)⟩

end

/-! ## What is left of a poisoned body -/

section

variable {lends : (σ → Option Unit × σ) → Prop} {pool next : Pool (engine σ)}

/-- On a poisoned record no copy joins and none moves. -/
theorem Step.stands_of_poisoned (step : Step lends pool next)
    (poisoned : pool.record.custody.poisoned = true) {index : Nat} {cursor : Cursor}
    (there : next.cursor? index = some cursor) : pool.cursor? index = some cursor := by
  cases step with
  | read found reads =>
      cases reads with
      | ended => rwa [Pool.put_self found] at there
      | poisoned => rwa [Pool.put_self found] at there
      | broke going sound => exact absurd (sound.symm.trans poisoned) Bool.false_ne_true
      | served going sound => exact absurd (sound.symm.trans poisoned) Bool.false_ne_true
      | filled going sound => exact absurd (sound.symm.trans poisoned) Bool.false_ne_true
  | copied found sound => exact absurd (sound.symm.trans poisoned) Bool.false_ne_true
  | blank =>
      rw [Pool.cursor?_add] at there
      split at there
      · cases there
      · exact there
  | left => exact Pool.cursor?_of_remove there
  | last => exact Pool.cursor?_of_remove there
  | visited => exact there

end

section

variable {lends : (Recorded σ → Option Unit × Recorded σ) → Prop}
  {start pool next : Pool (engine (Recorded σ))} {index : Nat} {cursor : Cursor}

/-- On a poisoned record the source is spared. -/
theorem Step.spared_of_poisoned (step : Step lends pool next)
    (poisoned : pool.record.custody.poisoned = true) : Spared Buffered.custody pool next := by
  cases step with
  | read found reads =>
      cases reads with
      | ended => exact Or.inl rfl
      | poisoned => exact Or.inl rfl
      | broke going sound => exact absurd (sound.symm.trans poisoned) Bool.false_ne_true
      | served going sound => exact absurd (sound.symm.trans poisoned) Bool.false_ne_true
      | filled going sound => exact absurd (sound.symm.trans poisoned) Bool.false_ne_true
  | copied => exact Or.inl rfl
  | blank => exact Or.inl rfl
  | left => exact Or.inl rfl
  | last => exact Or.inr ⟨_, rfl⟩
  | visited =>
      exact Or.inl (congrArg Prod.snd (Custody.visit_of_poisoned poisoned _))

/-- Since it was poisoned, the open copies stand where they stood, and the source is shut. -/
structure Stuck (start pool : Pool (engine (Recorded σ))) : Prop where
  shut : Shut Buffered.custody start.record.custody.source.entries pool
  stands : ∀ index cursor, pool.cursor? index = some cursor → start.cursor? index = some cursor

theorem Stuck.step (stuck : Stuck start pool) (balanced : Balanced pool)
    (step : Step lends pool next) : Stuck start next where
  shut := stuck.shut.spared balanced.held (balanced.step step).held
    (step.spared_of_poisoned stuck.shut.poisoned)
  stands index cursor there :=
    stuck.stands index cursor (step.stands_of_poisoned stuck.shut.poisoned there)

/-- What can still be done with a body that was poisoned. -/
structure Barren (start pool : Pool (engine (Recorded σ))) : Prop where
  stuck : Stuck start pool
  /-- No read gives anything, and be it no bytes. -/
  withholds : ∀ index buffer bytes, (pool.read index buffer).reply ≠ .done bytes ∧
    ∀ offset, (pool.readAt index buffer offset).reply ≠ .done bytes
  /-- A copy that has met an end reports it as ever. -/
  met : ∀ index cursor terminal, pool.cursor? index = some cursor →
    cursor.terminal = some terminal →
      (∀ buffer, (pool.read index buffer).reply = .failed (terminal.error .read) ∧
        (pool.read index buffer).state = pool) ∧
      ∀ {τ : Type} [Sink τ] (sink : τ), (pool.writeTo index sink).1.reply = terminal.written 0 ∧
        (pool.writeTo index sink).1.state = pool ∧ (pool.writeTo index sink).2 = sink
  /-- Any other is refused, and nothing is written.  Reading out breaks off before where there
  cannot be room for a block. -/
  refused : ∀ index cursor, pool.cursor? index = some cursor → cursor.terminal = none →
    (∀ buffer, (pool.read index buffer).reply = .failed ⟨.read, .poisoned⟩ ∧
      (pool.read index buffer).state = pool) ∧
    ∀ {τ : Type} [Sink τ] (sink : τ),
      (pool.writeTo index sink).1.reply =
          (if scratch pool.record.blockSize (pool.remaining index) ≤ maxAllocation
            then .failed ⟨.writeTo, .poisoned⟩ else .broke) ∧
        (pool.writeTo index sink).1.state = pool ∧ (pool.writeTo index sink).2 = sink
  /-- No copy is made. -/
  copies : ∀ index cursor, pool.cursor? index = some cursor →
    (pool.copy index).reply = .failed ⟨.copy, .poisoned⟩ ∧ (pool.copy index).state = pool
  /-- Neither the window nor the source is shown. -/
  hidden : ∀ index, pool.range index = none ∧
    ∀ {α : Type} (callback : Recorded σ → Option α × Recorded σ),
      (pool.visit index callback).reply = .done none ∧ (pool.visit index callback).state = pool
  /-- A copy that is closed or dropped is gone, and no other is.  The last one hands on what closing
  the source comes to. -/
  leaves : ∀ index cursor, pool.cursor? index = some cursor →
    (∀ other, (pool.close index).state.cursor? other =
      if other = index then none else pool.cursor? other) ∧
    (pool.drop index).state = (pool.close index).state ∧
    (pool.close index).reply =
      if pool.openCount = 1 then
        (Source.close pool.record.custody.source).1.mapFailure fun fault => ⟨.close, .fault fault⟩
      else .done ()

theorem writeTo_of_poisoned (found : pool.cursor? index = some cursor)
    (going : cursor.terminal = none) (poisoned : pool.record.custody.poisoned = true) (sink : τ) :
    (pool.writeTo index sink).1.reply =
        (if scratch pool.record.blockSize (pool.remaining index) ≤ maxAllocation
          then .failed ⟨.writeTo, .poisoned⟩ else .broke) ∧
      (pool.writeTo index sink).1.state = pool ∧ (pool.writeTo index sink).2 = sink := by
  have left : pool.remaining index = pool.record.remaining cursor := by
    rw [Pool.remaining, found]
    rfl
  have writes : (engine (Recorded σ)).writeTo sink pool.record cursor =
      (⟨if scratch pool.record.blockSize (pool.remaining index) ≤ maxAllocation
          then .failed ⟨.writeTo, .poisoned⟩ else .broke, pool.record, cursor, []⟩, sink) := by
    change writeTo sink pool.record cursor = _
    rw [writeTo, left]
    by_cases room : scratch pool.record.blockSize (pool.record.remaining cursor) ≤ maxAllocation
    · have refuses (want : Nat) : pool.record.read want cursor =
          ⟨.failed ⟨.read, .poisoned⟩, pool.record, cursor, []⟩ := by
        rw [Buffered.read, going]
        exact if_pos poisoned
      rw [if_neg (Nat.not_lt.mpr room), if_pos room,
        pump_of_failed sink (congrArg Turn.reply (refuses _)), refuses]
      rfl
    · rw [if_pos (Nat.lt_of_not_le room), if_neg room]
  have written := Pool.writeTo_of_open found sink
  rw [writes, Pool.put_self found] at written
  exact written

theorem visit_of_poisoned (poisoned : pool.record.custody.poisoned = true) {α : Type}
    (callback : Recorded σ → Option α × Recorded σ) :
    (pool.visit index callback).reply = .done none ∧ (pool.visit index callback).state = pool := by
  refine Pool.visit_of_idle index fun cursor => ?_
  change visit callback pool.record cursor = _
  rw [visit, Custody.visit_of_poisoned poisoned]

theorem Stuck.barren (stuck : Stuck start pool) (balanced : Balanced pool) :
    Barren start pool where
  stuck := stuck
  withholds index buffer bytes := by
    constructor
    · intro came
      obtain ⟨cursor, found, -⟩ := Pool.exists_open_of_act came (by simp)
      cases met : cursor.terminal with
      | none =>
          rw [(read_of_poisoned found met stuck.shut.poisoned buffer).1] at came
          cases came
      | some terminal =>
          rw [(read_of_met found met buffer).1] at came
          cases came
    · intro offset came
      obtain ⟨cursor, -, gave⟩ := Pool.exists_open_of_act came (by simp)
      cases gave
  met index cursor terminal found met :=
    ⟨read_of_met found met, fun sink => writeTo_of_met found met sink⟩
  refused index cursor found going :=
    ⟨read_of_poisoned found going stuck.shut.poisoned,
      fun sink => writeTo_of_poisoned found going stuck.shut.poisoned sink⟩
  copies index cursor found := copy_of_poisoned found stuck.shut.poisoned
  hidden index := by
    refine ⟨?_, visit_of_poisoned stuck.shut.poisoned⟩
    cases found : pool.cursor? index with
    | none => rw [Pool.range, found]
    | some cursor =>
        rw [Pool.range, found]
        exact if_pos stuck.shut.poisoned
  leaves index cursor found := by
    refine ⟨Pool.cursor?_close found, Pool.state_drop pool index, ?_⟩
    split
    · rename_i alone
      exact reply_close_of_alone balanced found alone
    · rename_i others
      exact reply_close_of_others balanced found others

/-- Whatever is asked of a poisoned body, it stays barren. -/
theorem barren_afterRun (balanced : Balanced pool) (some_open : 0 < pool.openCount)
    (poisoned : pool.record.custody.poisoned = true) (later : List (Use σ τ)) :
    Barren pool (pool.afterRun (later.map Use.unseen)) := by
  have begun : Stuck pool pool := ⟨.begun poisoned some_open, fun _ _ there => there⟩
  obtain ⟨still, stuck⟩ := afterRun_keeps _ (I := Stuck pool)
    (fun balanced stuck step => stuck.step balanced step) balanced begun
    (Use.lends_map_unseen later)
  exact stuck.barren still

end

end Payload.Buffered
