import Payload.Proofs.Buffered.Delivery
import Payload.Proofs.Buffered.Demand

/-!
# The length of a buffered stream

A length that a buffered body was declared to have stays, whatever the source does.  One that it was
not told it learns from the read that gives nothing more, and then it is what the source has given.
What a copy has left is counted against that length, so once it is known how much that is, a copy
that reports the end has been handed just so much.
-/

namespace Payload.Buffered

variable {σ τ : Type} [Source σ] [Sink τ] {willing : τ → Prop} {content : τ → List UInt8}
  {pool : Pool (engine σ)} {index : Nat} {cursor : Cursor}

/-! ## A known length -/

theorem remaining_of_going (found : pool.cursor? index = some cursor)
    (going : cursor.terminal = none) :
    pool.remaining index = pool.record.length.map (· - cursor.offset) := by
  rw [Pool.remaining, found]
  change pool.record.remaining cursor = _
  rw [remaining, going]
  rfl

/-- What is known to be left of a copy never becomes unknown. -/
theorem remaining_afterRun (balanced : Balanced pool) (within : index < pool.copies.length)
    (known : pool.remaining index ≠ none) (uses : List (Use σ τ)) :
    (pool.afterRun uses).remaining index ≠ none := by
  have closed {next : Pool (engine σ)} (missing : next.cursor? index = none) :
      next.remaining index ≠ none := by
    simp [Pool.remaining, missing]
  cases found : pool.cursor? index with
  | none => exact closed (Pool.cursor?_afterRun_of_closed within found uses)
  | some cursor =>
      cases going : cursor.terminal with
      | none =>
          rw [remaining_of_going found going] at known
          obtain ⟨length, length_eq⟩ : ∃ length, pool.record.length = some length := by
            simpa [Option.ne_none_iff_exists'] using known
          have still := length_afterRun balanced length_eq uses
          cases left : (pool.afterRun uses).cursor? index with
          | none => exact closed left
          | some current =>
              cases met : current.terminal with
              | none => simp [remaining_of_going left met, still]
              | some terminal => simp [remaining_of_met left met]
      | some terminal =>
          rcases met_afterRun balanced found going uses with stays | missing
          · simp [remaining_of_met stays going]
          · exact closed missing

/-! ## How a length is learned -/

section

variable {pool : Pool (engine (Recorded σ))}

theorem metered_read (balanced : Balanced pool) (metered : Metered pool.record) (index : Nat)
    (buffer : Buffer) :
    Balanced (pool.read index buffer).state ∧ Metered (pool.read index buffer).state.record := by
  cases found : pool.cursor? index with
  | none =>
      rw [Pool.read, (Pool.act_of_closed found _ _).2]
      exact ⟨balanced, metered⟩
  | some cursor =>
      have step : Step (fun callback => ∃ inside, callback = Recorded.unseen inside) pool
          (pool.read index buffer).state := step_read balanced found buffer
      exact ⟨balanced.step step, metered.step step⟩

/-- A read that makes the length known had a read of the source give nothing, and the length is what
the source has given. -/
theorem Reads.learned (metered : Metered pool.record) (unknown : pool.record.length = none)
    (found : pool.cursor? index = some cursor) {want : Nat}
    {turn : Turn (Buffered (Recorded σ)) Cursor ByteArray}
    (reads : Reads want pool.record cursor turn) {length : Nat}
    (learned : turn.record.length = some length) :
    turn.record.terminal = some .ended ∧ turn.record.custody.source.given = length ∧
      ∃ want made, turn.record.custody.source.entries =
        ⟨.read want, .number 0⟩ :: made ++ pool.record.custody.source.entries := by
  have step : Step (fun callback => ∃ inside, callback = Recorded.unseen inside) pool
      (pool.put index turn.record turn.cursor) := .read found reads
  have next : Metered turn.record := metered.step step
  obtain ⟨made, logs, called⟩ := reads.logs
  obtain ⟨latest, ended, same⟩ := logs.learned unknown (learned ▸ Option.some_ne_none length)
  cases made with
  | nil => cases latest
  | cons first earlier =>
      obtain rfl : first = ⟨.read _, .number 0⟩ := Option.some.inj latest
      obtain ⟨-, sound, -, -⟩ := called (List.cons_ne_nil _ _)
      have on_record := next.measured.ended ended
      rw [learned] at on_record
      exact ⟨ended, (next.given (same.trans sound)).trans (Option.some.inj on_record).symm, _,
        earlier, logs.entries⟩

theorem learned_read (balanced : Balanced pool) (metered : Metered pool.record)
    (unknown : pool.record.length = none) (index : Nat) (buffer : Buffer) {length : Nat}
    (learned : (pool.read index buffer).state.record.length = some length) :
    (pool.read index buffer).state.record.terminal = some .ended ∧
      0 < (pool.read index buffer).state.openCount ∧
      (pool.read index buffer).state.record.custody.source.given = length ∧
      ∃ want made, (pool.read index buffer).state.record.custody.source.entries =
        ⟨.read want, .number 0⟩ :: made ++ pool.record.custody.source.entries := by
  cases found : pool.cursor? index with
  | none =>
      rw [Pool.read, (Pool.act_of_closed found _ _).2, unknown] at learned
      cases learned
  | some cursor =>
      obtain ⟨turn, reads, -, state⟩ := exists_reads balanced found buffer
      rw [state] at learned ⊢
      obtain ⟨ended, given⟩ := reads.learned metered unknown found learned
      refine ⟨ended, ?_, given⟩
      rw [Pool.openCount_put found]
      exact Pool.openCount_pos found

theorem openCount_le_afterRun_reads (pool : Pool (engine (Recorded σ))) (index : Nat)
    (buffers : List Buffer) :
    pool.openCount ≤ (pool.afterRun (buffers.map
      (Use.read index : Buffer → Use (Recorded σ) τ))).openCount := by
  refine runAll_keeps
    (P := fun next : Pool (engine (Recorded σ)) => pool.openCount ≤ next.openCount)
    (fun use member current enough => ?_) (Nat.le_refl _)
  obtain ⟨buffer, -, rfl⟩ := List.mem_map.mp member
  refine Nat.le_trans enough (Nat.le_of_not_lt fun fewer => ?_)
  rcases Pool.leaves_of_openCount_lt fewer with closes | drops
  · cases closes
  · cases drops

/-- Once the end is on record further reads ask the source for nothing. -/
theorem entries_afterRun_reads (balanced : Balanced pool) {terminal : Terminal}
    (stopped : pool.record.terminal = some terminal) (some_open : 0 < pool.openCount) (index : Nat)
    (buffers : List Buffer) :
    (pool.afterRun (buffers.map
        (Use.read index : Buffer → Use (Recorded σ) τ))).record.custody.source.entries =
      pool.record.custody.source.entries := by
  have lent : ∀ use ∈ buffers.map (Use.read index : Buffer → Use (Recorded σ) τ),
      use.Lends fun _ => False := by
    intro use member
    obtain ⟨buffer, -, rfl⟩ := List.mem_map.mp member
    trivial
  have still_open := openCount_le_afterRun_reads (τ := τ) pool index buffers
  have settled : Settled Recorded.entries terminal pool.record.window.stop
      pool.record.custody.source.entries (pool.afterRun (buffers.map
        (Use.read index : Buffer → Use (Recorded σ) τ))).record :=
    settled_afterRun (fun _ => False) balanced stopped (fun _ lent => lent.elim) lent
      (Nat.lt_of_lt_of_le some_open still_open)
  exact settled.seen

/-- Of several reads it is the source's latest answer that makes the length known. -/
theorem learned_reads (balanced : Balanced pool) (metered : Metered pool.record)
    (unknown : pool.record.length = none) (index : Nat) (buffers : List Buffer) {length : Nat}
    (learned : (pool.afterRun (buffers.map
      (Use.read index : Buffer → Use (Recorded σ) τ))).record.length = some length) :
    let next := pool.afterRun (buffers.map (Use.read index : Buffer → Use (Recorded σ) τ))
    next.record.custody.source.given = length ∧
      ∃ want made, next.record.custody.source.entries =
        ⟨.read want, .number 0⟩ :: made ++ pool.record.custody.source.entries := by
  induction buffers generalizing pool with
  | nil =>
      rw [List.map_nil, Pool.afterRun_nil, unknown] at learned
      cases learned
  | cons buffer rest ih =>
      obtain ⟨still, further⟩ := metered_read balanced metered index buffer
      rw [List.map_cons, Pool.afterRun_cons] at learned ⊢
      change ((pool.read index buffer).state.afterRun _).record.length = _ at learned
      change ((pool.read index buffer).state.afterRun _).record.custody.source.given = _ ∧ _
      cases known : (pool.read index buffer).state.record.length with
      | none =>
          obtain ⟨given, want, made, entries⟩ := ih still further known learned
          obtain ⟨before, earlier, -⟩ := logs_read balanced index buffer
          refine ⟨given, want, made ++ before, ?_⟩
          rw [List.cons_append, List.append_assoc, ← earlier]
          exact entries
      | some first =>
          obtain ⟨ended, some_open, given, want, made, entries⟩ :=
            learned_read balanced metered unknown index buffer known
          have same := length_afterRun still known
            (rest.map (Use.read index : Buffer → Use (Recorded σ) τ))
          rw [learned] at same
          have quiet := entries_afterRun_reads (τ := τ) still ended some_open index rest
          refine ⟨?_, want, made, quiet.trans entries⟩
          rw [Recorded.given, quiet]
          exact given.trans (Option.some.inj same).symm

end

/-- Whatever is asked of a copy, only a read of the source that gives nothing makes the length
known, and that is the latest call to it. -/
theorem learned_use {pool : Pool (engine (Recorded σ))} (balanced : Balanced pool)
    (metered : Metered pool.record) (unknown : pool.record.length = none)
    (use : Use (Recorded σ) τ) {length : Nat}
    (learned : (pool.use use).2.record.length = some length) :
    (pool.use use).2.record.custody.source.given = length ∧
      ∃ want made, (pool.use use).2.record.custody.source.entries =
        ⟨.read want, .number 0⟩ :: made ++ pool.record.custody.source.entries := by
  rcases reads_or_step_use balanced use.lends_any with ⟨index, buffers, reads⟩ | step
  · rw [reads] at learned ⊢
    exact learned_reads balanced metered unknown index buffers learned
  · generalize (pool.use use).2 = next at step learned ⊢
    cases step with
    | read found reads => exact (reads.learned metered unknown found learned).2
    | _ => cases unknown.symm.trans learned

/-! ## What a copy is handed -/

/-- How many bytes a reply has. -/
def replied : Reply ByteArray → Nat
  | .done bytes => bytes.size
  | _ => 0

omit [Source σ] in
theorem Delivers.offset_eq {record : Buffered σ} (tidy : record.Tidy)
    (standing : 0 < record.cursors.count cursor.offset) {want : Nat}
    {turn : Turn (Buffered σ) Cursor ByteArray}
    (delivers : Delivers (cursor.offset + want) record cursor turn) :
    turn.cursor.offset = cursor.offset + replied turn.reply := by
  have above := tidy.start_le standing
  have inside := tidy.within _ standing
  have offset_eq := delivers.offset
  rcases delivers.reply with ⟨bytes, done, content, -⟩ | ⟨terminal, -, stays, failed⟩
  · have size_eq := size_of_between content above (by omega)
    rw [done]
    change _ = cursor.offset + bytes.size
    omega
  · rw [failed]
    exact stays

/-- A read moves a copy by as many bytes as it gives. -/
theorem offset_read (balanced : Balanced pool) (found : pool.cursor? index = some cursor)
    (want : Nat) :
    (pool.record.read want cursor).cursor.offset =
      cursor.offset + replied (pool.record.read want cursor).reply := by
  have tidy := balanced.tidy (Pool.openCount_pos found)
  have standing := balanced.standing found
  have reads := reads_read tidy standing want
  generalize pool.record.read want cursor = turn at reads ⊢
  cases reads with
  | ended => rfl
  | poisoned => rfl
  | broke => rfl
  | served going sound enough delivers => exact delivers.offset_eq tidy standing
  | filled going sound running short fills intact delivers =>
      have refilled := fills.refilled
      exact delivers.offset_eq (refilled.tidy tidy) (refilled.cursors.symm ▸ standing)

/-- Reading a copy out moves it by as many bytes as the sink has then taken. -/
theorem offset_writeTo (balanced : Balanced pool) (sinks : Sink.Willing willing content)
    (found : pool.cursor? index = some cursor) {sink : τ} (ready : willing sink) :
    (writeTo sink pool.record cursor).1.cursor.offset =
      cursor.offset +
        ((content (writeTo sink pool.record cursor).2).drop (content sink).length).length := by
  have moves {record : Buffered σ} {current : Cursor}
      (still : Balanced (pool.put index record current)) (buffer : Buffer) :
      ((engine σ).read buffer record current).cursor.offset =
        current.offset + replied ((engine σ).read buffer record current).reply :=
    offset_read still (Pool.cursor?_put_self found record current) buffer.size
  unfold writeTo
  dsimp only
  split
  · simp
  · refine pump_moves sinks (engine σ).read Cursor.offset
      (I := fun record current => Balanced (pool.put index record current))
      (fun buffer _ _ still => (still.reads_put found buffer).2)
      (fun buffer _ _ bytes still done => ?_) (fun buffer _ _ still nothing => ?_) _ ready
      (by rwa [Pool.put_self found])
    · have moved := moves still buffer
      rwa [done] at moved
    · refine (moves still buffer).trans ?_
      cases reply : ((engine σ).read buffer _ _).reply with
      | done bytes => exact absurd reply (nothing bytes)
      | failed => rfl
      | broke => rfl

omit [Source σ] [Sink τ] in
theorem length_handed_read (content : τ → List UInt8) (index : Nat) (buffer : Buffer)
    (reply : Reply ByteArray) :
    (handed content index (.read index buffer : Use σ τ) (.bytes reply)).length =
      replied reply := by
  cases reply with
  | done bytes => simp [replied, handed]
  | failed error => rfl
  | broke => rfl

/-- A use moves a copy by as many bytes as it hands to it. -/
theorem offset_use (balanced : Balanced pool) (sinks : Sink.Willing willing content)
    (found : pool.cursor? index = some cursor) {use : Use σ τ} (pours : use.Pours willing)
    {current : Cursor} (left : (pool.use use).2.cursor? index = some current) :
    current.offset = cursor.offset + (handed content index use (pool.use use).1).length := by
  cases Pool.means_use still found use with
  | read buffer asked =>
      subst asked
      have acts : Pool.Acts pool cursor (.read index buffer : Use σ τ) _ := Pool.acts_of_open found
      generalize pool.use (.read index buffer : Use σ τ) = out at acts left ⊢
      cases acts
      obtain rfl := Option.some.inj ((Pool.cursor?_put_self found _ _).symm.trans left)
      rw [length_handed_read]
      exact offset_read balanced found buffer.size
  | readOut sink asked =>
      subst asked
      have acts : Pool.Acts pool cursor (.writeTo index sink : Use σ τ) _ := Pool.acts_of_open found
      generalize pool.use (.writeTo index sink : Use σ τ) = out at acts left ⊢
      cases acts
      obtain rfl := Option.some.inj ((Pool.cursor?_put_self found _ _).symm.trans left)
      simp only [handed, if_true]
      exact offset_writeTo balanced sinks found pours
  | sought offset whence asked =>
      subst asked
      change (pool.seek index offset whence).state.cursor? index = some current at left
      rw [state_seek, found] at left
      cases left
      rfl
  | idle unread unpoured stays =>
      rw [handed_of_unread unread unpoured]
      rcases stays with same | gone
      · rw [same] at left
        cases left
        rfl
      · rw [gone] at left
        cases left

/-- A run moves a copy by as many bytes as it hands to it. -/
theorem offset_afterRun (balanced : Balanced pool) (sinks : Sink.Willing willing content)
    (found : pool.cursor? index = some cursor) {uses : List (Use σ τ)}
    (pours : ∀ use ∈ uses, use.Pours willing) {current : Cursor}
    (left : (pool.afterRun uses).cursor? index = some current) :
    current.offset = cursor.offset + (handedAll content index uses (pool.run uses).1).length := by
  induction uses generalizing pool cursor with
  | nil =>
      obtain rfl : current = cursor := Option.some.inj (left.symm.trans found)
      rfl
  | cons use rest ih =>
      have still : Balanced (pool.use use).2 := balanced_afterRun balanced [use]
      rw [Pool.run_cons, handedAll_cons, List.length_append]
      rw [Pool.afterRun_cons] at left
      cases there : (pool.use use).2.cursor? index with
      | none =>
          have within := Nat.lt_of_lt_of_le (Pool.lt_length_of_cursor?_eq_some found)
            (Pool.length_le_use pool use)
          rw [Pool.cursor?_afterRun_of_closed within there rest] at left
          cases left
      | some between =>
          have first := offset_use balanced sinks found (pours use List.mem_cons_self) there
          have second := ih still there
            (fun later member => pours later (List.mem_cons_of_mem _ member)) left
          omega

/-! ## Reporting the end -/

/-- A copy that reports the end stands where the stream ends. -/
theorem length_of_read_ended (balanced : Balanced pool) (agreed : Agreed pool)
    (measured : Measured pool.record) {buffer : Buffer}
    (ends : (pool.read index buffer).reply = .failed ⟨.read, .endOfStream⟩) :
    ∃ current, pool.cursor? index = some current ∧
      (pool.read index buffer).state.record.length = some current.offset := by
  cases found : pool.cursor? index with
  | none =>
      rw [Pool.read, (Pool.act_of_closed found _ _).1] at ends
      cases ends
  | some current =>
      have acted := Pool.act_of_open found .read ((engine σ).read buffer)
      have reads := reads_read (balanced.tidy (Pool.openCount_pos found))
        (balanced.standing found) buffer.size
      rw [Pool.read, acted.1] at ends
      rw [Pool.read, acted.2]
      change (pool.record.read buffer.size current).reply = _ at ends
      refine ⟨current, rfl, ?_⟩
      change (pool.record.read buffer.size current).record.length = _
      have after := measured.read reads
      generalize pool.record.read buffer.size current = turn at reads ends after ⊢
      have at_end {goal : Nat} {record : Buffered σ}
          (delivers : Delivers goal record current turn) :
          turn.record.length = some current.offset := by
        rcases delivers.reply with ⟨bytes, done, -⟩ | ⟨terminal, meets, stays, failed⟩
        · rw [done] at ends
          cases ends
        · rw [failed] at ends
          obtain ⟨on_record, there⟩ := delivers.meets meets
          cases terminal with
          | failed fault => cases ends
          | ended => rw [after.ended on_record, ← there, stays]
      cases reads with
      | @ended terminal met =>
          obtain ⟨on_record, there⟩ :=
            agreed current (Pool.mem_cursors_iff.mpr ⟨index, found⟩) terminal met
          cases terminal with
          | failed fault => cases ends
          | ended => rw [measured.ended on_record, there]
      | poisoned => cases ends
      | broke => cases ends
      | served going sound enough delivers => exact at_end delivers
      | filled going sound running short fills intact delivers => exact at_end delivers

/-- A copy of which it was known how much it had left stands that much further when it reports the
end. -/
theorem offset_of_read_ended (balanced : Balanced pool) (agreed : Agreed pool)
    (measured : Measured pool.record) (found : pool.cursor? index = some cursor) {left : Nat}
    (known : pool.remaining index = some left) (uses : List (Use σ τ)) {buffer : Buffer}
    (ends : ((pool.afterRun uses).read index buffer).reply = .failed ⟨.read, .endOfStream⟩) :
    ∃ current, (pool.afterRun uses).cursor? index = some current ∧
      current.offset = cursor.offset + left := by
  have kept := afterRun_keeps (fun _ => True)
    (I := fun pool => Agreed pool ∧ Measured pool.record)
    (fun balanced kept step => ⟨kept.1.step balanced step, kept.2.step step⟩) balanced
    ⟨agreed, measured⟩ (fun use _ => use.lends_any : ∀ use ∈ uses, use.Lends fun _ => True)
  obtain ⟨current, there, length_eq⟩ := length_of_read_ended kept.1 kept.2.1 kept.2.2 ends
  refine ⟨current, there, ?_⟩
  cases going : cursor.terminal with
  | some terminal =>
      rw [remaining_of_met found going] at known
      cases known
      rcases met_afterRun balanced found going uses with stays | missing
      · obtain rfl : current = cursor := Option.some.inj (there.symm.trans stays)
        rfl
      · rw [missing] at there
        cases there
  | none =>
      rw [remaining_of_going found going, Option.map_eq_some_iff] at known
      obtain ⟨length, length_known, rfl⟩ := known
      have inside := (balanced.tidy (Pool.openCount_pos found)).within _ (balanced.standing found)
      have limit := measured.within length length_known
      have same := length_afterRun balanced length_known (uses ++ [.read index buffer])
      rw [Pool.afterRun_append] at same
      obtain rfl : current.offset = length := Option.some.inj (length_eq.symm.trans same)
      omega

/-- In every state that a new buffered body can be brought to: a length that is known, declared or
not, stays.  One that is not becomes known only when a read of the source gives nothing, and is
then what the source has given.  A copy that has met no end stands inside the window and the window
inside the length, and what the copy has left is counted against that; once known, what is left
never becomes unknown.  A copy of which it is known how much it has left is handed just so much
before it reports the end. -/
theorem afterRun_fresh_measured (sinks : Sink.Willing willing content) (source : σ)
    (declared : Option Nat) (blockSize : Nat) (uses : List (Use σ τ)) :
    let pool : Pool (engine (Recorded σ)) :=
      (fresh ⟨source, []⟩ declared blockSize).afterRun (uses.map Use.unseen)
    (∀ length, declared = some length → pool.record.length = some length) ∧
      (∀ length, pool.record.length = some length → ∀ later : List (Use σ τ),
        (pool.afterRun (later.map Use.unseen)).record.length = some length) ∧
      (pool.record.length = none → ∀ (use : Use σ τ) length,
        (pool.use use.unseen).2.record.length = some length →
          (pool.use use.unseen).2.record.custody.source.given = length ∧
            ∃ want made, (pool.use use.unseen).2.record.custody.source.entries =
              ⟨.read want, .number 0⟩ :: made ++ pool.record.custody.source.entries) ∧
      ∀ index cursor, pool.cursor? index = some cursor →
        (cursor.terminal = none → ∀ length, pool.record.length = some length →
          cursor.offset ≤ length ∧ pool.record.window.stop ≤ length ∧
            pool.remaining index = some (length - cursor.offset)) ∧
        ∀ later : List (Use σ τ),
          (pool.remaining index ≠ none →
            (pool.afterRun (later.map Use.unseen)).remaining index ≠ none) ∧
          ∀ left buffer, pool.remaining index = some left →
            ((pool.afterRun (later.map Use.unseen)).read index buffer).reply =
              .failed ⟨.read, .endOfStream⟩ →
            (∃ current, (pool.afterRun (later.map Use.unseen)).cursor? index = some current ∧
              current.offset = cursor.offset + left) ∧
            ((∀ use ∈ later, use.Pours willing) →
              (handedAll content index (later.map Use.unseen)
                (pool.run (later.map Use.unseen)).1).length = left) := by
  intro pool
  have new := balanced_fresh (⟨source, []⟩ : Recorded σ) declared blockSize
  have balanced : Balanced pool := balanced_afterRun new _
  have agreed : Agreed pool := agreed_afterRun new (agreed_fresh _ _ _) _
  have metered : Metered pool.record := metered_afterRun_fresh source declared blockSize uses
  refine ⟨?_, ?_, ?_, ?_⟩
  · rintro length rfl
    exact length_afterRun new rfl _
  · intro length known later
    exact length_afterRun balanced known _
  · intro unknown use length learned
    exact learned_use balanced metered unknown use.unseen learned
  · intro index cursor found
    constructor
    · intro going length known
      have inside := (balanced.tidy (Pool.openCount_pos found)).within _ (balanced.standing found)
      have limit := metered.measured.within length known
      refine ⟨Nat.le_trans inside limit, limit, ?_⟩
      rw [remaining_of_going found going, known]
      rfl
    · intro later
      constructor
      · intro known
        exact remaining_afterRun balanced (Pool.lt_length_of_cursor?_eq_some found) known _
      · intro left buffer known ends
        obtain ⟨current, there, offset_eq⟩ :=
          offset_of_read_ended balanced agreed metered.measured found known _ ends
        refine ⟨⟨current, there, offset_eq⟩, fun pours => ?_⟩
        have pours_unseen : ∀ use ∈ later.map Use.unseen, use.Pours willing := by
          intro use member
          obtain ⟨plain, asked, rfl⟩ := List.mem_map.mp member
          have pours_plain := pours plain asked
          cases plain <;> exact pours_plain
        have moved := offset_afterRun balanced sinks found pours_unseen there
        omega

/-- One of two copies reads seven bytes to their end, and so the other one knows that it has six
left; it is handed them one by one through a sink and reports the end. -/
theorem afterRun_fresh_measured_of_learned :
    let device : Device := { content := ⟨#[1, 2, 3, 4, 5, 6, 7]⟩, chunk := some 3 }
    let gauge : Gauge := { script := [.fault ⟨.interrupted, .plain⟩], chunk := some 1 }
    let uses : List (Use Device Gauge) := [.copy 0, .read 1 (.fresh 1), .writeTo 0 gauge]
    let later : List (Use Device Gauge) := [.close 0, .writeTo 1 gauge]
    let pool : Pool (engine (Recorded Device)) :=
      (fresh ⟨device, []⟩ none 2).afterRun (uses.map Use.unseen)
    Sink.Willing Gauge.Ready (fun gauge : Gauge => gauge.content.data.toList) ∧
      pool.record.length = some 7 ∧ pool.cursor? 1 = some ⟨1, none⟩ ∧
      pool.remaining 1 = some 6 ∧
      (handedAll (fun gauge : Gauge => gauge.content.data.toList) 1 (later.map Use.unseen)
        (pool.run (later.map Use.unseen)).1).length = 6 := by
  intro device gauge uses later pool
  obtain ⟨-, -, -, copies⟩ :=
    afterRun_fresh_measured Gauge.willing_ready device none 2 uses
  have stands : pool.cursor? 1 = some ⟨1, none⟩ := by decide +kernel
  have known : pool.record.length = some 7 := by cbv
  obtain ⟨going, ends⟩ := copies 1 ⟨1, none⟩ stands
  obtain ⟨-, -, left⟩ := going rfl 7 known
  have ready : gauge.Ready :=
    { mild := by simp [gauge, Gauge.Cue.Mild, Fault.interrupts]
      chunk := by decide }
  have reports : ((pool.afterRun (later.map Use.unseen)).read 1 (.fresh 4)).reply =
      .failed ⟨.read, .endOfStream⟩ := by
    cbv
  refine ⟨Gauge.willing_ready, known, stands, left, ((ends later).2 6 (.fresh 4) left reports).2 ?_⟩
  simp [later, Use.Pours, ready]

end Payload.Buffered
