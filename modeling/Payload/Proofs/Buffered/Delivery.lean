import Mathlib
import Payload.Proofs.Buffered.Emptying
import Payload.Proofs.Scripted

/-!
# Every copy is given the stream

Over a sequential source every copy of a buffered body is given the source's stream from where it
was made, by reads of any sizes and by being read out into sinks, whatever the other copies do in
between.  It meets no end before it was given all that there is for it, and the end that it meets
then is the one that stream and length call for.
-/

namespace Payload.Buffered

section

variable {σ τ : Type} {content : τ → List UInt8} {index : Nat}

/-! ## What a copy is handed -/

/-- The bytes that a use hands to a copy, in a buffer or by way of a sink. -/
def handed (content : τ → List UInt8) (index : Nat) : Use σ τ → Receipt τ → List UInt8
  | .read asked _, .bytes (.done bytes) => if asked = index then bytes.data.toList else []
  | .writeTo asked sink, .written _ last =>
    if asked = index then (content last).drop (content sink).length else []
  | _, _ => []

/-- The bytes that a run hands to a copy. -/
def handedAll (content : τ → List UInt8) (index : Nat) (uses : List (Use σ τ))
    (receipts : List (Receipt τ)) : List UInt8 :=
  (List.zipWith (handed content index) uses receipts).flatten

theorem handed_of_ne {use : Use σ τ} (other : use.index ≠ index) (receipt : Receipt τ) :
    handed content index use receipt = [] := by
  unfold handed
  split
  · exact if_neg other
  · exact if_neg other
  · rfl

theorem handed_of_unread {use : Use σ τ} (unread : ∀ buffer, use ≠ .read index buffer)
    (unpoured : ∀ sink, use ≠ .writeTo index sink) (receipt : Receipt τ) :
    handed content index use receipt = [] := by
  unfold handed
  split
  · refine if_neg ?_
    rintro rfl
    exact unread _ rfl
  · refine if_neg ?_
    rintro rfl
    exact unpoured _ rfl
  · rfl

theorem handedAll_cons (content : τ → List UInt8) (index : Nat) (use : Use σ τ)
    (rest : List (Use σ τ)) (receipt : Receipt τ) (receipts : List (Receipt τ)) :
    handedAll content index (use :: rest) (receipt :: receipts) =
      handed content index use receipt ++ handedAll content index rest receipts :=
  rfl

variable {ρ κ : Type} [Sink τ] {engine : Engine σ ρ κ} {pool : Pool engine}

/-- A closed copy is handed nothing. -/
theorem handed_of_closed (missing : pool.cursor? index = none) (use : Use σ τ) :
    handed content index use (pool.use use).1 = [] := by
  by_cases same : use.index = index
  · cases use with
    | read asked buffer =>
        obtain rfl : asked = index := same
        have acted := Pool.act_of_closed missing .read (engine.read buffer)
        change handed content asked (.read asked buffer : Use σ τ)
          (.bytes (pool.read asked buffer).reply) = []
        rw [Pool.read, acted.1]
        rfl
    | writeTo asked sink =>
        obtain rfl : asked = index := same
        have acted := Pool.writeTo_of_closed missing sink
        change handed content asked (.writeTo asked sink : Use σ τ)
          (.written (pool.writeTo asked sink).1.reply (pool.writeTo asked sink).2) = []
        rw [acted.2.2]
        exact (if_pos rfl).trans (List.drop_length)
    | _ => rfl
  · exact handed_of_ne same _

theorem handedAll_of_closed (within : index < pool.copies.length)
    (missing : pool.cursor? index = none) (uses : List (Use σ τ)) :
    handedAll content index uses (pool.run uses).1 = [] ∧
      (pool.afterRun uses).cursor? index = none := by
  induction uses generalizing pool with
  | nil => exact ⟨rfl, missing⟩
  | cons use rest ih =>
      obtain ⟨still_within, still_missing⟩ := Pool.use_of_closed within missing use
      rw [Pool.run_cons, handedAll_cons, handed_of_closed missing use]
      exact ih still_within still_missing

end

variable {σ τ : Type} [Source σ] [Sink τ] {yields : List UInt8 → σ → Prop} {sequel : Terminal}
  {stream : List UInt8} {declared : Option Nat} {blockSize : Nat} {willing : τ → Prop}
  {content : τ → List UInt8} {pool : Pool (engine σ)} {index : Nat} {cursor : Cursor}

/-! ## Uses and runs -/

/-- These are the bytes from one place of a copy up to where it is left, if it still is. -/
structure Hands (stream : List UInt8) (declared : Option Nat) (index first last : Nat)
    (bytes : List UInt8) (next : Pool (engine σ)) : Prop where
  onwards : first ≤ last
  within : last ≤ reach declared stream
  bytes : bytes = span stream first last
  left : ∀ current, next.cursor? index = some current → current.offset = last

theorem Hands.nothing {next : Pool (engine σ)} {first : Nat}
    (within : first ≤ reach declared stream)
    (left : ∀ current, next.cursor? index = some current → current.offset = first) :
    Hands stream declared index first first [] next :=
  ⟨Nat.le_refl _, within, (span_self _ _).symm, left⟩

/-- What a copy is handed when it is read. -/
theorem Truthful.hands_read (truthful : Truthful yields sequel stream declared blockSize pool)
    (sequential : Source.Sequential yields sequel) (found : pool.cursor? index = some cursor)
    (content : τ → List UInt8) (buffer : Buffer) :
    ∃ last, Hands stream declared index cursor.offset last
      (handed content index (.read index buffer : Use σ τ)
        (pool.use (.read index buffer : Use σ τ)).1)
      (pool.use (.read index buffer : Use σ τ)).2 := by
  have tells := (truthful.tells sequential found buffer.size).1
  have acts : Pool.Acts pool cursor (.read index buffer : Use σ τ) _ := Pool.acts_of_open found
  generalize pool.use (.read index buffer : Use σ τ) = out at acts ⊢
  cases acts
  change ∃ last, Hands _ _ _ _ last
    (handed content index (.read index buffer : Use σ τ)
      (.bytes (pool.record.read buffer.size cursor).reply))
    (pool.put index (pool.record.read buffer.size cursor).record
      (pool.record.read buffer.size cursor).cursor)
  have left := Pool.cursor?_put_self found (pool.record.read buffer.size cursor).record
    (pool.record.read buffer.size cursor).cursor
  generalize pool.record.read buffer.size cursor = turn at tells left ⊢
  have stayed (stays : turn.cursor.offset = cursor.offset) (current : Cursor)
      (there : (pool.put index turn.record turn.cursor).cursor? index = some current) :
      current.offset = cursor.offset := by
    rw [left] at there
    cases there
    exact stays
  have within := truthful.offset_le found
  cases tells with
  | gives done onwards reaches content_eq =>
      refine ⟨turn.cursor.offset, onwards, reaches, ?_, ?_⟩
      · rw [done]
        exact (if_pos rfl).trans content_eq
      · intro current there
        rw [left] at there
        cases there
        rfl
  | ends failed there stays =>
      rw [failed]
      exact ⟨_, .nothing within (stayed stays)⟩
  | poisoned _ failed stays =>
      rw [failed]
      exact ⟨_, .nothing within (stayed (congrArg Cursor.offset stays))⟩
  | broke broke stays =>
      rw [broke]
      exact ⟨_, .nothing within (stayed (congrArg Cursor.offset stays))⟩

/-- What a copy is handed when it is read out. -/
theorem Truthful.hands_writeTo (truthful : Truthful yields sequel stream declared blockSize pool)
    (sequential : Source.Sequential yields sequel) (sinks : Sink.Willing willing content)
    (found : pool.cursor? index = some cursor) {sink : τ} (ready : willing sink) :
    ∃ last, Hands stream declared index cursor.offset last
      (handed content index (.writeTo index sink : Use σ τ)
        (pool.use (.writeTo index sink : Use σ τ)).1)
      (pool.use (.writeTo index sink : Use σ τ)).2 := by
  have writes := truthful.writes sequential sinks found ready
  have acts : Pool.Acts pool cursor (.writeTo index sink : Use σ τ) _ := Pool.acts_of_open found
  generalize pool.use (.writeTo index sink : Use σ τ) = out at acts ⊢
  cases acts
  refine ⟨(writeTo sink pool.record cursor).1.cursor.offset, writes.onwards, writes.within, ?_, ?_⟩
  · simp only [handed, if_true]
    exact (congrArg (List.drop _) writes.content).trans List.drop_left
  · intro current there
    obtain rfl := Option.some.inj ((Pool.cursor?_put_self found _ _).symm.trans there)
    rfl

/-- What a copy is handed by any other use: nothing. -/
theorem hands_of_idle (within : cursor.offset ≤ reach declared stream) {next : Pool (engine σ)}
    (idle : next.cursor? index = none ∨ next.cursor? index = some cursor) :
    ∃ last, Hands stream declared index cursor.offset last [] next := by
  refine ⟨_, .nothing within fun current there => ?_⟩
  rcases idle with closed | stays
  · rw [closed] at there
    cases there
  · rw [stays] at there
    cases there
    rfl

/-- A use hands a copy the stretch of the stream that it moves past. -/
theorem Truthful.hands (truthful : Truthful yields sequel stream declared blockSize pool)
    (sequential : Source.Sequential yields sequel) (sinks : Sink.Willing willing content)
    (found : pool.cursor? index = some cursor) {use : Use σ τ} (plain : use.Plain willing) :
    ∃ last, Hands stream declared index cursor.offset last
      (handed content index use (pool.use use).1) (pool.use use).2 := by
  have within := truthful.offset_le found
  cases Pool.means_use still found use with
  | read buffer asked =>
      subst asked
      exact truthful.hands_read sequential found content buffer
  | readOut sink asked =>
      subst asked
      exact truthful.hands_writeTo sequential sinks found plain
  | sought offset whence asked =>
      subst asked
      have stays : (pool.seek index offset whence).state.cursor? index = some cursor := by
        rw [state_seek]
        exact found
      exact hands_of_idle within (Or.inr stays)
  | idle unread unpoured left =>
      rw [handed_of_unread unread unpoured]
      exact hands_of_idle within left.symm

theorem Truthful.use (truthful : Truthful yields sequel stream declared blockSize pool)
    (sequential : Source.Sequential yields sequel) {use : Use σ τ} (plain : use.Plain willing) :
    Truthful yields sequel stream declared blockSize (pool.use use).2 :=
  (use_keeps (fun _ => False) (fun _ truthful step => Truthful.step truthful sequential step)
    truthful.balanced truthful plain.lends).2

/-- The truth is kept by every run that lends the source to no callback. -/
theorem Truthful.afterRun (truthful : Truthful yields sequel stream declared blockSize pool)
    (sequential : Source.Sequential yields sequel) {uses : List (Use σ τ)}
    (plain : ∀ use ∈ uses, use.Plain willing) :
    Truthful yields sequel stream declared blockSize (pool.afterRun uses) :=
  (afterRun_keeps (fun _ => False) (fun _ truthful step => Truthful.step truthful sequential step)
    truthful.balanced truthful fun use member => (plain use member).lends).2

/-- A run hands a copy the stretch of the stream that it moves past. -/
theorem Truthful.hands_run (truthful : Truthful yields sequel stream declared blockSize pool)
    (sequential : Source.Sequential yields sequel) (sinks : Sink.Willing willing content)
    (found : pool.cursor? index = some cursor) {uses : List (Use σ τ)}
    (plain : ∀ use ∈ uses, use.Plain willing) :
    ∃ last, Hands stream declared index cursor.offset last
      (handedAll content index uses (pool.run uses).1) (pool.afterRun uses) := by
  induction uses generalizing pool cursor with
  | nil => exact hands_of_idle (truthful.offset_le found) (Or.inr found)
  | cons use rest ih =>
      have plain_use := plain use List.mem_cons_self
      have plain_rest : ∀ later ∈ rest, later.Plain willing := fun later member =>
        plain later (List.mem_cons_of_mem _ member)
      obtain ⟨middle, first⟩ := truthful.hands sequential sinks found plain_use
      have still := truthful.use sequential plain_use
      rw [Pool.run_cons, handedAll_cons, Pool.afterRun_cons]
      cases there : (pool.use use).2.cursor? index with
      | none =>
          have within := Nat.lt_of_lt_of_le (Pool.lt_length_of_cursor?_eq_some found)
            (Pool.length_le_use pool use)
          obtain ⟨nothing, closed⟩ := handedAll_of_closed within there rest
          refine ⟨middle, first.onwards, first.within, ?_, fun current left => ?_⟩
          · rw [nothing, List.append_nil]
            exact first.bytes
          · rw [closed] at left
            cases left
      | some current =>
          have second := ih still there plain_rest
          rw [first.left current there] at second
          obtain ⟨last, second⟩ := second
          refine ⟨last, Nat.le_trans first.onwards second.onwards, second.within, ?_, second.left⟩
          rw [first.bytes, second.bytes, span_append stream first.onwards second.onwards]

/-! ## What a copy reports -/

/-- What a copy answers when it is read. -/
theorem Truthful.reports (truthful : Truthful yields sequel stream declared blockSize pool)
    (sequential : Source.Sequential yields sequel) (found : pool.cursor? index = some cursor)
    (buffer : Buffer) :
    (∃ bytes, (pool.read index buffer).reply = .done bytes ∧
        bytes.data.toList = span stream cursor.offset (cursor.offset + bytes.size) ∧
        cursor.offset + bytes.size ≤ reach declared stream ∧
        (0 < buffer.size → 0 < bytes.size)) ∨
      ((pool.read index buffer).reply = .failed ((ending declared stream sequel).error .read) ∧
        cursor.offset = reach declared stream) ∨
      ((pool.read index buffer).reply = .failed ⟨.read, .poisoned⟩ ∧
        pool.record.custody.poisoned = true) ∨
      ((pool.read index buffer).reply = .broke ∧
        maxAllocation < stream.length + buffer.size + max blockSize 1) := by
  rw [Pool.read, (Pool.act_of_open found .read ((engine σ).read buffer)).1]
  change (∃ bytes, (pool.record.read buffer.size cursor).reply = _ ∧ _) ∨
    ((pool.record.read buffer.size cursor).reply = _ ∧ _) ∨
    ((pool.record.read buffer.size cursor).reply = _ ∧ _) ∨
    ((pool.record.read buffer.size cursor).reply = _ ∧ _)
  have tells := (truthful.tells sequential found buffer.size).1
  generalize pool.record.read buffer.size cursor = turn at tells ⊢
  cases tells with
  | @gives bytes done onwards within content_eq some_bytes =>
      have size_eq := size_of_span content_eq (Nat.le_trans within (reach_le declared stream))
      have up_to : cursor.offset + bytes.size = turn.cursor.offset := by omega
      refine Or.inl ⟨bytes, done, ?_, ?_, fun asks => ?_⟩
      · rw [up_to]
        exact content_eq
      · exact up_to ▸ within
      · have brought := some_bytes asks
        omega
  | ends failed there => exact Or.inr (Or.inl ⟨failed, there⟩)
  | poisoned poisoned failed => exact Or.inr (Or.inr (Or.inl ⟨failed, poisoned⟩))
  | broke broke _ overflow => exact Or.inr (Or.inr (Or.inr ⟨broke, overflow⟩))

/-- What a copy answers when it is read out. -/
theorem Truthful.reports_out (truthful : Truthful yields sequel stream declared blockSize pool)
    (sequential : Source.Sequential yields sequel) (sinks : Sink.Willing willing content)
    (found : pool.cursor? index = some cursor) {sink : τ} (ready : willing sink) :
    ((pool.writeTo index sink).1.reply =
          (ending declared stream sequel).written (reach declared stream - cursor.offset) ∧
        content (pool.writeTo index sink).2 =
          content sink ++ span stream cursor.offset (reach declared stream)) ∨
      ((pool.writeTo index sink).1.reply = .failed ⟨.writeTo, .poisoned⟩ ∧
        pool.record.custody.poisoned = true) ∨
      ((pool.writeTo index sink).1.reply = .broke ∧
        maxAllocation < stream.length + max blockSize 1 + max blockSize 1) := by
  have acted := Pool.writeTo_of_open found sink
  have writes := truthful.writes sequential sinks found ready
  have content_eq := writes.content
  rw [acted.1, acted.2.2]
  change ((writeTo sink pool.record cursor).1.reply = _ ∧
      content (writeTo sink pool.record cursor).2 = _) ∨
    ((writeTo sink pool.record cursor).1.reply = _ ∧ _) ∨
    ((writeTo sink pool.record cursor).1.reply = _ ∧ _)
  rcases writes.reply with ⟨done, there⟩ | ⟨failed, poisoned⟩ | ⟨broke, overflow⟩
  · rw [there] at done content_eq
    exact Or.inl ⟨done, content_eq⟩
  · exact Or.inr (Or.inl ⟨failed, poisoned⟩)
  · exact Or.inr (Or.inr ⟨broke, overflow⟩)

/-- A copy that has met an end has met the right one, and is there. -/
theorem Truthful.met (truthful : Truthful yields sequel stream declared blockSize pool)
    (found : pool.cursor? index = some cursor) {terminal : Terminal}
    (met : cursor.terminal = some terminal) :
    cursor.offset = reach declared stream ∧ terminal = ending declared stream sequel := by
  obtain ⟨on_record, there⟩ :=
    truthful.agreed cursor (Pool.mem_cursors_iff.mpr ⟨index, found⟩) terminal met
  obtain ⟨stop_eq, ends⟩ :=
    (truthful.faithful (Pool.openCount_pos found)).stopped terminal on_record
  exact ⟨there.trans stop_eq, ends⟩

/-- Whatever is asked of the copies of a new body over a sequential source, and then goes on to be
asked: a copy that is open in between is handed the stretch of the stream from where it is then up
to where it is left.  It has met no end but the one that stream and length call for, and that only
where it was handed all there is.  A read gives what comes next, or reports that end, and reading
out hands on all the rest; but for room that no body can have, and what a call broke off in. -/
theorem afterRun_fresh_faithful (sequential : Source.Sequential yields sequel)
    (sinks : Sink.Willing willing content) {source : σ} (starts : yields stream source)
    (declared : Option Nat) (blockSize : Nat) {uses later : List (Use σ τ)}
    (plain : ∀ use ∈ uses, use.Plain willing) (plain_later : ∀ use ∈ later, use.Plain willing) :
    let pool := (fresh source declared blockSize).afterRun uses
    let last := pool.afterRun later
    ((∀ receipt ∈ (pool.run later).1, receipt.brokeOff = false) →
        last.record.custody.poisoned = pool.record.custody.poisoned) ∧
      ∀ index cursor, pool.cursor? index = some cursor →
        ∃ stop, cursor.offset ≤ stop ∧ stop ≤ reach declared stream ∧
          handedAll content index later (pool.run later).1 = span stream cursor.offset stop ∧
          ∀ current, last.cursor? index = some current →
            current.offset = stop ∧
            (∀ terminal, current.terminal = some terminal →
              stop = reach declared stream ∧ terminal = ending declared stream sequel) ∧
            (∀ buffer : Buffer,
              (∃ bytes, (last.read index buffer).reply = .done bytes ∧
                  bytes.data.toList = span stream stop (stop + bytes.size) ∧
                  stop + bytes.size ≤ reach declared stream ∧
                  (0 < buffer.size → 0 < bytes.size)) ∨
                ((last.read index buffer).reply =
                    .failed ((ending declared stream sequel).error .read) ∧
                  stop = reach declared stream) ∨
                ((last.read index buffer).reply = .failed ⟨.read, .poisoned⟩ ∧
                  last.record.custody.poisoned = true) ∨
                ((last.read index buffer).reply = .broke ∧
                  maxAllocation < stream.length + buffer.size + max blockSize 1)) ∧
            ∀ sink : τ, willing sink →
              ((last.writeTo index sink).1.reply =
                    (ending declared stream sequel).written (reach declared stream - stop) ∧
                  content (last.writeTo index sink).2 =
                    content sink ++ span stream stop (reach declared stream)) ∨
                ((last.writeTo index sink).1.reply = .failed ⟨.writeTo, .poisoned⟩ ∧
                  last.record.custody.poisoned = true) ∨
                ((last.writeTo index sink).1.reply = .broke ∧
                  maxAllocation < stream.length + max blockSize 1 + max blockSize 1) := by
  intro pool last
  have truthful : Truthful yields sequel stream declared blockSize pool :=
    (Truthful.fresh starts blockSize).afterRun sequential plain
  have truthful_last : Truthful yields sequel stream declared blockSize last :=
    truthful.afterRun sequential plain_later
  refine ⟨poisoned_run truthful.balanced, fun index cursor found => ?_⟩
  obtain ⟨stop, hands⟩ := truthful.hands_run sequential sinks found plain_later
  refine ⟨stop, hands.onwards, hands.within, hands.bytes, fun current left => ?_⟩
  obtain rfl : current.offset = stop := hands.left current left
  refine ⟨rfl, fun terminal met => truthful_last.met left met, fun buffer => ?_,
    fun sink ready => ?_⟩
  · exact truthful_last.reports sequential left buffer
  · exact truthful_last.reports_out sequential sinks left ready

/-- Three copies over a source of seven bytes that was declared to have nine, and that interrupts
and cuts its reads short: the second copy is handed the six bytes from where it is, and then told
that the source ended early. -/
theorem afterRun_fresh_faithful_of_short :
    let device : Device :=
      { content := ⟨#[1, 2, 3, 4, 5, 6, 7]⟩, chunk := some 3,
        reads := [.fault ⟨.interrupted, .plain⟩, .atMost 1] }
    let gauge : Gauge := { script := [.fault ⟨.interrupted, .plain⟩], chunk := some 1 }
    let later : List (Use Device Gauge) :=
      [.copy 1, .read 2 (.fresh 9), .read 1 (.fresh 4), .close 0, .writeTo 1 gauge]
    let pool := (fresh device (some 9) 2).afterRun
      ([.copy 0, .read 0 (.fresh 2), .read 1 (.fresh 1)] : List (Use Device Gauge))
    pool.cursor? 1 = some ⟨1, none⟩ ∧
      handedAll (fun gauge : Gauge => gauge.content.data.toList) 1 later (pool.run later).1 =
        [2, 3, 4, 5, 6, 7] ∧
      ∀ current, (pool.afterRun later).cursor? 1 = some current →
        current = ⟨7, some (.failed endedEarly)⟩ := by
  intro device gauge later pool
  have plays : Device.Plays .ended [1, 2, 3, 4, 5, 6, 7] device :=
    { mild := by simp [device, Device.ReadCue.Mild, Fault.interrupts]
      chunk := by decide
      final := by decide
      inside := by decide
      rest := by decide
      sequel := rfl }
  have ready : gauge.Ready :=
    { mild := by simp [gauge, Gauge.Cue.Mild, Fault.interrupts]
      chunk := by decide }
  have stands : pool.cursor? 1 = some ⟨1, none⟩ := by decide +kernel
  have plain : ∀ use ∈ ([.copy 0, .read 0 (.fresh 2), .read 1 (.fresh 1)] :
      List (Use Device Gauge)), use.Plain Gauge.Ready := by
    simp [Use.Plain]
  have plain_later : ∀ use ∈ later, use.Plain Gauge.Ready := by
    simp [later, Use.Plain, ready]
  obtain ⟨-, copies⟩ := afterRun_fresh_faithful (Device.sequential_plays .ended)
    Gauge.willing_ready plays (some 9) 2 plain plain_later
  obtain ⟨stop, -, -, hands, left⟩ := copies 1 ⟨1, none⟩ stands
  have final : (pool.afterRun later).cursor? 1 = some ⟨7, some (.failed endedEarly)⟩ := by
    cbv
  obtain ⟨rfl, -⟩ := left _ final
  refine ⟨stands, hands.trans (by decide), fun current there => ?_⟩
  rw [final] at there
  exact (Option.some.inj there).symm

end Payload.Buffered
