import Payload.Proofs.Buffered.Uses
import Payload.Source.Tape

/-!
# The end of a buffered stream is met by every copy

The end or failure that the source came to is on record once, and every copy that gets there takes
it over.  From then on nothing changes about it: not the end itself, not the window's last offset,
and the source is not called again while a copy is open.  A copy that has met the end answers every
read with it, and so do its copies; a copy that is behind is given what the window keeps, and meets
the end after that.

What is poisoned stays so.  A copy that is behind is then refused what the window keeps.
-/

namespace Payload

/-- What reading out comes to at this end, when so many bytes have been passed on. -/
def Terminal.written (total : Nat) : Terminal → Reply Nat
  | .ended => .done total
  | .failed fault => .failed ⟨.writeTo, .fault fault⟩

/-- Reading out reports an end as the end of the bytes, and a failure as its own. -/
theorem Terminal.written_eq (terminal : Terminal) (total : Nat) :
    (if (terminal.error .read).isEnd then Outcome.done total
      else .failed ((terminal.error .read).during .writeTo)) = terminal.written total := by
  cases terminal <;> rfl

namespace Buffered

variable {σ τ α : Type} [Source σ] [Sink τ] {lends : (σ → Option Unit × σ) → Prop}
  {pool next : Pool (engine σ)} {index : Nat} {cursor : Cursor} {terminal : Terminal}

/-! ## Agreement -/

/-- The copies that have met an end have met the one on record, at the end of the window. -/
def Agreed (pool : Pool (engine σ)) : Prop :=
  ∀ cursor ∈ pool.cursors, ∀ terminal, cursor.terminal = some terminal →
    pool.record.terminal = some terminal ∧ cursor.offset = pool.record.window.stop

/-- Delivering keeps the copies in agreement, if the record delivered from agrees with them. -/
theorem Agreed.deliver (agreed : Agreed pool) (found : pool.cursor? index = some cursor)
    {goal : Nat}
    {turn : Turn (Buffered σ) Cursor ByteArray} (delivers : Delivers goal pool.record cursor turn) :
    Agreed (pool.put index turn.record turn.cursor) := by
  intro other member terminal met
  rcases Pool.mem_cursors_put found member with old | rfl
  · rw [Pool.record_put, delivers.terminal, delivers.trimmed.stop]
    exact agreed other old terminal met
  · exact delivers.meets met

/-- While no end is on record no copy has met one, and the record may be exchanged for any other. -/
theorem Agreed.of_running (agreed : Agreed pool) (running : pool.record.terminal = none)
    (record : Buffered σ) : Agreed (pool.withRecord record) := by
  intro other member terminal met
  have on_record := (agreed other member terminal met).1
  rw [running] at on_record
  cases on_record

theorem Agreed.read (agreed : Agreed pool) (found : pool.cursor? index = some cursor) {want : Nat}
    {turn : Turn (Buffered σ) Cursor ByteArray} (reads : Reads want pool.record cursor turn) :
    Agreed (pool.put index turn.record turn.cursor) := by
  cases reads with
  | ended => exact (Pool.put_self found).symm ▸ agreed
  | poisoned => exact (Pool.put_self found).symm ▸ agreed
  | broke going sound running short fills =>
      exact Pool.put_eq_withRecord found _ ▸ agreed.of_running running _
  | served going sound enough delivers => exact agreed.deliver found delivers
  | @filled fill _ going sound running short fills intact delivers =>
      exact (agreed.of_running running fill.record).deliver found delivers

/-- Every step keeps the copies in agreement. -/
theorem Agreed.step (agreed : Agreed pool) (balanced : Balanced pool)
    (step : Step lends pool next) :
    Agreed next := by
  have counted := (balanced.step step).counted
  cases step with
  | read found reads => exact agreed.read found reads
  | copied found sound =>
      intro other member
      rw [Pool.cursors_add_some] at member
      rcases List.mem_append.mp member with old | new
      · exact agreed other old
      · rw [List.mem_singleton.mp new]
        exact agreed _ (Pool.mem_cursors_iff.mpr ⟨_, found⟩)
  | blank =>
      intro other member
      rw [Pool.cursors_add_none] at member
      exact agreed other member
  | left found others least trimmed =>
      intro other member
      change ∀ terminal, _ → pool.record.terminal = some terminal ∧ other.offset = _
      rw [Pool.record_remove, trimmed.stop]
      exact agreed other (Pool.mem_cursors_remove found member)
  | last found alone =>
      intro other member
      have some_open : 0 < Pool.openCount _ := List.length_pos_of_mem member
      rw [← counted] at some_open
      exact absurd some_open (Nat.lt_irrefl 0)
  | visited found lent => exact agreed

/-! ## What is on record stays -/

theorem Step.openCount_pos (step : Step lends pool next) (some_open : 0 < next.openCount) :
    0 < pool.openCount := by
  cases step with
  | read found => exact Pool.openCount_pos found
  | copied found => exact Pool.openCount_pos found
  | blank => rwa [Pool.openCount, Pool.cursors_add_none] at some_open
  | left found => exact Pool.openCount_pos found
  | last found => exact Pool.openCount_pos found
  | visited found => exact Pool.openCount_pos found

/-- A record that ends so, there, and with a source that looks like this. -/
structure Settled (view : σ → α) (terminal : Terminal) (stop : Nat) (seen : α)
    (record : Buffered σ) : Prop where
  terminal : record.terminal = some terminal
  stop : record.window.stop = stop
  seen : view record.custody.source = seen

/-- Once an end is on record it stays there for as long as a copy is open, and nothing reaches the
source but what callbacks do to it. -/
theorem Settled.step {view : σ → α} {stop : Nat} {seen : α}
    (settled : Settled view terminal stop seen pool.record) (balanced : Balanced pool)
    (blind : ∀ callback, lends callback → ∀ source, view (callback source).2 = view source)
    (step : Step lends pool next) (some_open : 0 < next.openCount) :
    Settled view terminal stop seen next.record := by
  have counted := (balanced.step step).counted
  cases step with
  | read found reads =>
      have stopped : pool.record.terminal ≠ none := by
        rw [settled.terminal]
        exact Option.some_ne_none terminal
      cases reads with
      | ended => exact settled
      | poisoned => exact settled
      | broke going sound running => exact absurd running stopped
      | served going sound enough delivers =>
          constructor
          · exact delivers.terminal.trans settled.terminal
          · exact delivers.trimmed.stop.trans settled.stop
          · exact (congrArg (view ∘ Custody.source) delivers.custody).trans settled.seen
      | filled going sound running => exact absurd running stopped
  | copied => exact ⟨settled.terminal, settled.stop, settled.seen⟩
  | blank => exact settled
  | left found others least trimmed =>
      exact ⟨settled.terminal, trimmed.stop.trans settled.stop, settled.seen⟩
  | last =>
      rw [← counted] at some_open
      exact absurd some_open (Nat.lt_irrefl 0)
  | @visited _ _ callback found lent =>
      refine ⟨settled.terminal, settled.stop, Eq.trans ?_ settled.seen⟩
      rcases pool.record.custody.source_visit callback with same | called
      · exact congrArg view same
      · exact (congrArg view called).trans (blind callback lent _)

theorem settled_afterRun (lends : (σ → Option Unit × σ) → Prop) {view : σ → α}
    (balanced : Balanced pool)
    (stopped : pool.record.terminal = some terminal)
    (blind : ∀ callback, lends callback → ∀ source, view (callback source).2 = view source)
    {uses : List (Use σ τ)} (lent : ∀ use ∈ uses, use.Lends lends)
    (some_open : 0 < (pool.afterRun uses).openCount) :
    Settled view terminal pool.record.window.stop (view pool.record.custody.source)
      (pool.afterRun uses).record :=
  (afterRun_keeps lends
    (I := fun next => 0 < next.openCount →
      Settled view terminal pool.record.window.stop (view pool.record.custody.source) next.record)
    (fun balanced settled step some_open =>
      (settled (step.openCount_pos some_open)).step balanced blind step some_open)
    balanced (fun _ => ⟨stopped, rfl, rfl⟩) lent).2 some_open

/-! ## Copies that have met the end -/

/-- A copy that has met an end stays where it is until it is closed. -/
theorem Step.met (step : Step lends pool next) (met : cursor.terminal = some terminal)
    (within : index < pool.copies.length)
    (still : pool.cursor? index = some cursor ∨ pool.cursor? index = none) :
    index < next.copies.length ∧
      (next.cursor? index = some cursor ∨ next.cursor? index = none) := by
  have leaves (other : Nat) (record : Buffered σ) :
      index < (pool.remove other record).copies.length ∧
        ((pool.remove other record).cursor? index = some cursor ∨
          (pool.remove other record).cursor? index = none) := by
    refine ⟨by simpa [Pool.remove] using within, ?_⟩
    rw [Pool.cursor?_remove]
    split
    · exact Or.inr rfl
    · exact still
  cases step with
  | @read other want current turn found reads =>
      refine ⟨by simpa [Pool.put] using within, ?_⟩
      by_cases same : other = index
      · subst same
        rw [found] at still
        have here : current = cursor := by simpa using still
        subst here
        cases reads with
        | ended => exact Or.inl (Pool.cursor?_put_self found _ _)
        | poisoned => exact Or.inl (Pool.cursor?_put_self found _ _)
        | broke => exact Or.inl (Pool.cursor?_put_self found _ _)
        | served going =>
            rw [met] at going
            cases going
        | filled going =>
            rw [met] at going
            cases going
      · rw [Pool.cursor?_put_of_ne same]
        exact still
  | copied =>
      rw [Pool.cursor?_add_of_lt within]
      exact ⟨by simpa [Pool.add] using Nat.lt_succ_of_lt within, still⟩
  | blank =>
      rw [Pool.cursor?_add_of_lt within]
      exact ⟨by simpa [Pool.add] using Nat.lt_succ_of_lt within, still⟩
  | left => exact leaves _ _
  | last => exact leaves _ _
  | visited => exact ⟨within, still⟩

theorem met_afterRun (balanced : Balanced pool) (found : pool.cursor? index = some cursor)
    (met : cursor.terminal = some terminal) (uses : List (Use σ τ)) :
    (pool.afterRun uses).cursor? index = some cursor ∨
      (pool.afterRun uses).cursor? index = none :=
  (afterRun_keeps (fun _ => True)
    (I := fun next => index < next.copies.length ∧
      (next.cursor? index = some cursor ∨ next.cursor? index = none))
    (fun _ still step => step.met met still.1 still.2) balanced
    ⟨Pool.lt_length_of_cursor?_eq_some found, Or.inl found⟩ (fun use _ => use.lends_any)).2.2

/-- A copy that has met an end reports it to every read, and nothing changes. -/
theorem read_of_met (found : pool.cursor? index = some cursor)
    (met : cursor.terminal = some terminal) (buffer : Buffer) :
    (pool.read index buffer).reply = .failed (terminal.error .read) ∧
      (pool.read index buffer).state = pool := by
  apply Pool.act_of_idle found
  change pool.record.read buffer.size cursor = _
  rw [Buffered.read, met]

theorem remaining_of_met (found : pool.cursor? index = some cursor)
    (met : cursor.terminal = some terminal) : pool.remaining index = some 0 := by
  rw [Pool.remaining, found]
  change pool.record.remaining cursor = some 0
  rw [remaining, met]
  rfl

theorem ended_of_met (found : pool.cursor? index = some cursor)
    (met : cursor.terminal = some terminal) : pool.ended index = true := by
  rw [Pool.ended, found]
  change cursor.terminal.isSome = true
  rw [met]
  rfl

/-- Reading out a copy that has met an end writes nothing. -/
theorem writeTo_of_met (found : pool.cursor? index = some cursor)
    (met : cursor.terminal = some terminal) (sink : τ) :
    (pool.writeTo index sink).1.reply = terminal.written 0 ∧
      (pool.writeTo index sink).1.state = pool ∧ (pool.writeTo index sink).2 = sink := by
  have writes : (engine σ).writeTo sink pool.record cursor =
      (⟨terminal.written 0, pool.record, cursor, []⟩, sink) := by
    change writeTo sink pool.record cursor = _
    have nothing : pool.record.remaining cursor = some 0 := by
      rw [remaining, met]
      rfl
    have small : scratch pool.record.blockSize (some 0) ≤ maxAllocation :=
      Nat.le_trans (Nat.min_le_left _ _) (by decide)
    have met (buffer : Buffer) : read buffer.size pool.record cursor =
        ⟨.failed (terminal.error .read), pool.record, cursor, []⟩ := by
      rw [Buffered.read, met]
    rw [writeTo, nothing, if_neg (Nat.not_lt.mpr small)]
    refine (pump_of_failed sink (congrArg Turn.reply (met _))).trans ?_
    rw [met]
    cases terminal <;> rfl
  have written := Pool.writeTo_of_open found sink
  rw [writes, Pool.put_self found] at written
  exact written

/-- A copy of a copy is where that one is, also at an end. -/
theorem cursor?_copy (found : pool.cursor? index = some cursor)
    (made : (pool.copy index).reply = .done ()) :
    (pool.copy index).state.cursor? pool.copies.length = some cursor := by
  by_cases poisoned : pool.record.custody.poisoned = true
  · rw [(copy_of_poisoned found poisoned).1] at made
    cases made
  · have sound : pool.record.custody.poisoned = false := by simpa using poisoned
    rw [(copy_of_sound found sound).2]
    simp [Pool.add, Pool.cursor?]

/-! ## Copies that are behind -/

theorem read_of_poisoned (found : pool.cursor? index = some cursor)
    (going : cursor.terminal = none) (poisoned : pool.record.custody.poisoned = true)
    (buffer : Buffer) :
    (pool.read index buffer).reply = .failed ⟨.read, .poisoned⟩ ∧
      (pool.read index buffer).state = pool := by
  apply Pool.act_of_idle found
  change pool.record.read buffer.size cursor = _
  rw [Buffered.read, going]
  exact if_pos poisoned

/-- Once an end is on record a read delivers what the window has, and meets the end with the first
read that asks for more. -/
theorem read_of_behind (balanced : Balanced pool) (found : pool.cursor? index = some cursor)
    (going : cursor.terminal = none) (stopped : pool.record.terminal = some terminal)
    (sound : pool.record.custody.poisoned = false) (buffer : Buffer) :
    (pool.read index buffer).state.cursor? index =
        some ⟨min (cursor.offset + buffer.size) pool.record.window.stop,
          if pool.record.window.stop < cursor.offset + buffer.size then some terminal else none⟩ ∧
      (cursor.offset = pool.record.window.stop → 0 < buffer.size →
        (pool.read index buffer).reply = .failed (terminal.error .read)) ∧
      (cursor.offset < pool.record.window.stop ∨ buffer.size = 0 →
        ∃ bytes, (pool.read index buffer).reply = .done bytes ∧
          bytes.data.toList = between pool.record.window cursor.offset
            (min (cursor.offset + buffer.size) pool.record.window.stop)) := by
  have tidy := balanced.tidy (Pool.openCount_pos found)
  have standing := balanced.standing found
  have within := tidy.within _ standing
  have reads : pool.record.read buffer.size cursor =
      pool.record.deliver (cursor.offset + buffer.size) cursor := by
    rw [Buffered.read, going]
    dsimp only
    rw [if_neg (by simp [sound]), if_neg (Nat.not_lt.mpr (tidy.start_le standing)), stopped]
    rfl
  have delivers := delivers_deliver tidy standing (Nat.le_add_right cursor.offset buffer.size)
  rw [← reads] at delivers
  have acted := Pool.act_of_open found .read ((engine σ).read buffer)
  rw [Pool.read, acted.1, acted.2, Pool.cursor?_put_self found]
  change some (pool.record.read buffer.size cursor).cursor = _ ∧
    (_ → _ → (pool.record.read buffer.size cursor).reply = _) ∧
    (_ → ∃ bytes, (pool.record.read buffer.size cursor).reply = _ ∧ _)
  generalize pool.record.read buffer.size cursor = turn at delivers ⊢
  have met := delivers.met
  rw [stopped] at met
  rw [← delivers.offset, ← met]
  refine ⟨rfl, ?_, ?_⟩
  · intro there asks
    have beyond : pool.record.window.stop < cursor.offset + buffer.size := by omega
    rw [if_pos beyond] at met
    rcases delivers.reply with ⟨bytes, done, content, whole⟩ | ⟨other, meets, stays, failed⟩
    · have inside : turn.cursor.offset ≤ pool.record.window.stop :=
        delivers.offset ▸ Nat.min_le_right _ _
      have size := size_of_between content (tidy.start_le standing) inside
      have nothing : turn.cursor.terminal = none := whole (by omega)
      rw [nothing] at met
      cases met
    · rw [meets] at met
      cases met
      exact failed
  · intro some_left
    rcases delivers.reply with ⟨bytes, done, content, whole⟩ | ⟨other, meets, stays, failed⟩
    · exact ⟨bytes, done, content⟩
    · rw [meets] at met
      split at met
      · rename_i beyond
        have there := stays.symm.trans delivers.offset
        omega
      · cases met

/-! ## Every run -/

theorem agreed_afterRun (balanced : Balanced pool) (agreed : Agreed pool) (uses : List (Use σ τ)) :
    Agreed (pool.afterRun uses) :=
  (afterRun_keeps (fun _ => True) (fun balanced agreed step => agreed.step balanced step)
    balanced agreed (fun use _ => use.lends_any)).2

theorem agreed_fresh (source : σ) (length : Option Nat) (blockSize : Nat) :
    Agreed (fresh source length blockSize) := by
  intro cursor member terminal met
  rw [List.mem_singleton.mp member] at met
  cases met

/-- In every state that a new buffered body can be brought to, a copy that has met an end has met
the one on record, at the end of the window; it reports it to every read and writes nothing more,
also its copies do, and it stays so until it is closed.  An end on record stays there for as long as
a copy is open, with the window ending where it does and no further call to the source.  A copy that
is behind is given what the window keeps, and meets the end with the first read that asks for more;
only on a poisoned record is it refused. -/
theorem afterRun_fresh_agreed (source : σ) (length : Option Nat) (blockSize : Nat)
    (uses : List (Use σ τ)) :
    let pool : Pool (engine (Recorded σ)) :=
      (fresh ⟨source, []⟩ length blockSize).afterRun (uses.map Use.unseen)
    (∀ index cursor terminal, pool.cursor? index = some cursor →
      cursor.terminal = some terminal →
      pool.record.terminal = some terminal ∧ cursor.offset = pool.record.window.stop ∧
        (∀ buffer, (pool.read index buffer).reply = .failed (terminal.error .read) ∧
          (pool.read index buffer).state = pool) ∧
        (∀ sink : τ, (pool.writeTo index sink).1.reply = terminal.written 0 ∧
          (pool.writeTo index sink).1.state = pool ∧ (pool.writeTo index sink).2 = sink) ∧
        pool.remaining index = some 0 ∧ pool.ended index = true ∧
        ((pool.copy index).reply = .done () →
          (pool.copy index).state.cursor? pool.copies.length = some cursor) ∧
        ∀ later : List (Use σ τ),
          (pool.afterRun (later.map Use.unseen)).cursor? index = some cursor ∨
            (pool.afterRun (later.map Use.unseen)).cursor? index = none) ∧
      ∀ terminal, pool.record.terminal = some terminal →
        (∀ later : List (Use σ τ), 0 < (pool.afterRun (later.map Use.unseen)).openCount →
          Settled Recorded.entries terminal pool.record.window.stop
            pool.record.custody.source.entries (pool.afterRun (later.map Use.unseen)).record) ∧
        ∀ index cursor, pool.cursor? index = some cursor → cursor.terminal = none →
          ∀ buffer,
            (pool.record.custody.poisoned = true →
              (pool.read index buffer).reply = .failed ⟨.read, .poisoned⟩ ∧
                (pool.read index buffer).state = pool) ∧
            (pool.record.custody.poisoned = false →
              (pool.read index buffer).state.cursor? index =
                  some ⟨min (cursor.offset + buffer.size) pool.record.window.stop,
                    if pool.record.window.stop < cursor.offset + buffer.size then some terminal
                    else none⟩ ∧
                (cursor.offset = pool.record.window.stop → 0 < buffer.size →
                  (pool.read index buffer).reply = .failed (terminal.error .read)) ∧
                (cursor.offset < pool.record.window.stop ∨ buffer.size = 0 →
                  ∃ bytes, (pool.read index buffer).reply = .done bytes ∧
                    bytes.data.toList = between pool.record.window cursor.offset
                      (min (cursor.offset + buffer.size) pool.record.window.stop))) := by
  intro pool
  have new := balanced_fresh (⟨source, []⟩ : Recorded σ) length blockSize
  have balanced : Balanced pool := balanced_afterRun new _
  have agreed : Agreed pool := agreed_afterRun new (agreed_fresh _ _ _) _
  constructor
  · intro index cursor terminal found met
    obtain ⟨on_record, there⟩ :=
      agreed cursor (Pool.mem_cursors_iff.mpr ⟨index, found⟩) terminal met
    exact ⟨on_record, there, read_of_met found met, writeTo_of_met found met,
      remaining_of_met found met, ended_of_met found met, cursor?_copy found,
      fun later => met_afterRun balanced found met _⟩
  · intro terminal stopped
    constructor
    · intro later some_open
      refine settled_afterRun (fun callback => ∃ inside, callback = Recorded.unseen inside)
        balanced stopped ?_ ?_ some_open
      · rintro _ ⟨inside, rfl⟩ recorded
        rfl
      · intro use member
        obtain ⟨plain, -, rfl⟩ := List.mem_map.mp member
        exact plain.lends_unseen
    · intro index cursor found going buffer
      exact ⟨fun poisoned => read_of_poisoned found going poisoned buffer,
        fun sound => read_of_behind balanced found going stopped sound buffer⟩

/-- One copy has read six bytes to their end, and the other one is at the start. -/
theorem afterRun_fresh_agreed_of_behind :
    let pool : Pool (engine (Recorded Tape)) :=
      (fresh ⟨⟨⟨#[1, 2, 3, 4, 5, 6]⟩, 0⟩, []⟩ none 4).afterRun
        (([.copy 0, .read 0 (.fresh 9), .read 0 (.fresh 9)] : List (Use Tape Gauge)).map Use.unseen)
    pool.cursor? 0 = some ⟨6, some .ended⟩ ∧ pool.record.terminal = some .ended ∧
      (pool.read 0 (.fresh 0)).reply = .failed ⟨.read, .endOfStream⟩ ∧
      pool.cursor? 1 = some ⟨0, none⟩ ∧
      (pool.read 1 (.fresh 9)).state.cursor? 1 = some ⟨6, some .ended⟩ ∧
      ∃ bytes, (pool.read 1 (.fresh 9)).reply = .done bytes ∧
        bytes.data.toList = [1, 2, 3, 4, 5, 6] := by
  intro pool
  obtain ⟨met, on_record⟩ := afterRun_fresh_agreed (⟨⟨#[1, 2, 3, 4, 5, 6]⟩, 0⟩ : Tape) none 4
    ([.copy 0, .read 0 (.fresh 9), .read 0 (.fresh 9)] : List (Use Tape Gauge))
  obtain ⟨ends, -, reads, -⟩ := met 0 ⟨6, some .ended⟩ .ended (by decide +kernel) rfl
  obtain ⟨-, behind⟩ := on_record .ended ends
  obtain ⟨-, read⟩ := behind 1 ⟨0, none⟩ (by decide +kernel) rfl (.fresh 9)
  obtain ⟨after, -, answers⟩ := read (by decide +kernel)
  obtain ⟨bytes, done, content⟩ := answers (Or.inl (by decide +kernel))
  have kept : between pool.record.window 0 (min (0 + 9) pool.record.window.stop) =
      [1, 2, 3, 4, 5, 6] := by
    decide +kernel
  refine ⟨by decide +kernel, ends, (reads (.fresh 0)).1, by decide +kernel, ?_, bytes, done,
    content.trans kept⟩
  rw [after]
  decide +kernel

/-- On a poisoned record a copy that is behind is refused, although the window keeps six bytes for
it. -/
theorem behind_refused_of_poisoned :
    let pool : Pool (engine (Recorded Tape)) :=
      (fresh ⟨⟨⟨#[1, 2, 3, 4, 5, 6]⟩, 0⟩, []⟩ none 4).afterRun
        (([.copy 0, .read 0 (.fresh 9), .read 0 (.fresh 9), .visit 0 fun tape => (none, tape)] :
          List (Use Tape Gauge)).map Use.unseen)
    pool.record.terminal = some .ended ∧ pool.cursor? 1 = some ⟨0, none⟩ ∧
      between pool.record.window 0 3 = [1, 2, 3] ∧
      (pool.read 1 (.fresh 3)).reply = .failed ⟨.read, .poisoned⟩ ∧
      ¬∃ bytes, (pool.read 1 (.fresh 3)).reply = .done bytes := by
  intro pool
  have refused : (pool.read 1 (.fresh 3)).reply = .failed ⟨.read, .poisoned⟩ := by
    decide +kernel
  refine ⟨by decide +kernel, by decide +kernel, by decide +kernel, refused, ?_⟩
  rintro ⟨bytes, done⟩
  rw [refused] at done
  cases done

end Buffered

end Payload
