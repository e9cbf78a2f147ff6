import Payload.Proofs.Buffered.Length
import Payload.Proofs.Direct.Ending
import Payload.Proofs.Failures

/-!
# A declared length that the source does not keep to

A body that is read in sequence owes its copies the length that it was opened with.  They come to
the end with just so many bytes, and when the source has nothing more before that, they fail with
what says so, from then on and every one of them.  A body that is read where it stands counts
against the length as well, but it takes a source that has nothing for the end.
-/

namespace Payload

open Buffered (handedAll)

variable {σ τ : Type} [Source σ] [Sink τ]

namespace Buffered

omit [Source σ] in
/-- What is delivered where an end is on record are bytes, or that end. -/
theorem Delivers.gives {want : Nat} {record : Buffered σ} {cursor : Cursor}
    {turn : Turn (Buffered σ) Cursor ByteArray} {terminal : Terminal} (tidy : record.Tidy)
    (standing : 0 < record.cursors.count cursor.offset)
    (delivers : Delivers (cursor.offset + want) record cursor turn)
    (stopped : record.terminal = some terminal) (asks : 0 < want) :
    turn.reply = .failed (terminal.error .read) ∨
      ∃ bytes, turn.reply = .done bytes ∧ bytes.size ≠ 0 := by
  rcases delivers.reply with ⟨bytes, done, -, spare⟩ | ⟨other, meets, -, failed⟩
  · refine Or.inr ⟨bytes, done, fun nothing => ?_⟩
    have there := delivers.offset
    have met := delivers.met
    have moved := delivers.offset_eq tidy standing
    rw [spare nothing, stopped] at met
    rw [done] at moved
    change _ = cursor.offset + bytes.size at moved
    split at met
    · cases met
    · omega
  · have on_record := (delivers.meets meets).1
    rw [delivers.terminal, stopped] at on_record
    rw [failed, Option.some.inj on_record]
    exact Or.inl rfl

/-- Once an end is on record, a read gives bytes or fails with it. -/
theorem Reads.gives_of_stopped {want : Nat} {record : Buffered σ} {cursor : Cursor}
    {turn : Turn (Buffered σ) Cursor ByteArray} {terminal : Terminal} (tidy : record.Tidy)
    (standing : 0 < record.cursors.count cursor.offset) (reads : Reads want record cursor turn)
    (stopped : record.terminal = some terminal)
    (agrees : ∀ met, cursor.terminal = some met → met = terminal)
    (sound : record.spoiled = false) (asks : 0 < want) :
    turn.reply = .failed (terminal.error .read) ∨
      ∃ bytes, turn.reply = .done bytes ∧ bytes.size ≠ 0 := by
  cases reads with
  | ended met => exact Or.inl (by rw [agrees _ met])
  | poisoned going poisoned => cases poisoned.symm.trans sound
  | broke going sound running => cases running.symm.trans stopped
  | served going sound enough delivers => exact delivers.gives tidy standing stopped asks
  | filled going sound running => cases running.symm.trans stopped

/-- A read that hears that there is nothing, before the declared length, gives bytes that there were
or fails with what says so. -/
theorem Reads.gives_of_dry {want : Nat} {record : Buffered (Overheard σ)} {cursor : Cursor}
    {turn : Turn (Buffered (Overheard σ)) Cursor ByteArray} (tidy : record.Tidy)
    (standing : 0 < record.cursors.count cursor.offset) (reads : Reads want record cursor turn)
    (heeds : Heeds true record)
    (asked : turn.record.custody.source.answers ≠ record.custody.source.answers)
    (dry : turn.record.custody.source.Dry) :
    turn.reply = .failed ⟨.read, .fault endedEarly⟩ ∨
      ∃ bytes, turn.reply = .done bytes ∧ bytes.size ≠ 0 := by
  cases reads with
  | ended => exact absurd rfl asked
  | poisoned => exact absurd rfl asked
  | served going sound enough delivers => exact absurd (by rw [delivers.custody]) asked
  | broke going sound running short fills broken =>
      cases fills with
      | released => cases broken
      | crowded => exact absurd rfl asked
      | filled => cases broken
      | broken held fits drawn =>
          rcases wet_of_draw drawn with same | wet
          · exact absurd same asked
          · exact absurd dry wet
  | filled going sound running short fills intact delivers =>
      have refilled := fills.refilled
      have asks : 0 < want := by
        have inside := tidy.within _ standing
        omega
      rw [delivers.custody] at asked dry
      cases fills.hears intact running with
      | nothing answers => exact absurd answers asked
      | answer answer held heard stops =>
          obtain rfl := Option.some.inj (heard.symm.trans dry)
          rw [heeds.going sound held running] at stops
          rcases stops with stopped | ⟨unstopped, -⟩
          · exact delivers.gives (refilled.tidy tidy) (refilled.cursors.symm ▸ standing) stopped
              asks
          · cases unstopped

/-- A copy that has something left has met no end. -/
theorem going_of_remaining {record : Buffered σ} {cursor : Cursor} {left length : Nat}
    (known : (engine σ).remaining record cursor = some left) (some_left : left ≠ 0)
    (length_eq : record.length = some length) :
    cursor.terminal = none ∧ length - cursor.offset = left := by
  change record.remaining cursor = _ at known
  rw [remaining] at known
  split at known
  · exact absurd (Option.some.inj known).symm some_left
  · rename_i going
    rw [length_eq] at known
    exact ⟨by simpa using going, Option.some.inj known⟩

/-- No run takes a copy past a length that is known. -/
theorem offset_le_of_measured {pool : Pool (engine σ)} {index length : Nat} {current : Cursor}
    {uses : List (Use σ τ)} (balanced : Balanced pool) (measured : Measured pool.record)
    (there : (pool.afterRun uses).cursor? index = some current)
    (known : (pool.afterRun uses).record.length = some length) : current.offset ≤ length := by
  obtain ⟨still, limits⟩ := afterRun_keeps (fun _ => True)
    (I := fun pool => Measured pool.record) (fun _ measured step => measured.step step) balanced
    measured (fun use _ => use.lends_any : ∀ use ∈ uses, use.Lends fun _ => True)
  have inside := (still.tidy (Pool.openCount_pos there)).within _ (still.standing there)
  exact Nat.le_trans inside (limits.within length known)

end Buffered

namespace Body

/-- In this run the copy was read to where the source gave nothing. -/
def Dries (body : Body (Overheard σ)) (index : Nat) (uses : List (Use (Overheard σ) τ)) : Prop :=
  ∃ before use after, uses = before ++ use :: after ∧ use.index = index ∧
    ∃ source, ((body.afterRun before).use use).2.source? = some source ∧ source.Dry

theorem dries_of_direct {pool : Pool (Direct.engine (Overheard σ))} {index : Nat}
    {uses : List (Use (Overheard σ) τ)} (dries : Direct.Dries pool index uses) :
    (Body.direct pool).Dries index uses := by
  obtain ⟨before, use, after, rfl, asked, dry⟩ := dries
  refine ⟨before, use, after, rfl, asked, _, ?_, dry⟩
  rw [afterRun_direct, use_direct]
  rfl

/-- A body that was opened with this length declared. -/
inductive Declared (length : Nat) : Body (Overheard σ) → Prop where
  | direct {pool : Pool (Direct.engine (Overheard σ))} (same : pool.record.length = length) :
      Declared length (.direct pool)
  | buffered {pool : Pool (Buffered.engine (Overheard σ))} (balanced : Buffered.Balanced pool)
      (agreed : Buffered.Agreed pool) (measured : Buffered.Measured pool.record)
      (heeds : Buffered.Heeds true pool.record) (known : pool.record.length = some length) :
      Declared length (.buffered pool)

variable {length : Nat} {body : Body (Overheard σ)}

/-- A body opened with a declared length has one copy, and that has so much left. -/
theorem Declared.of_open {source : σ} {options : Options} (declared : options.length = some length)
    (some_bytes : length ≠ 0)
    (opened : (Body.open (⟨source, []⟩ : Overheard σ) options).reply = .done body) :
    body.Declared length ∧ body.copies = 1 ∧ body.remaining 0 = some length := by
  have silent := Overheard.answers_open source options
  obtain ⟨base, known, picks, told⟩ := Opening.picks_of_open opened
  obtain rfl := told length declared
  cases picks with
  | empty => exact absurd rfl some_bytes
  | addressed => exact ⟨.direct rfl, rfl, rfl⟩
  | seeking => exact ⟨.direct rfl, rfl, rfl⟩
  | sequential =>
      exact ⟨.buffered (Buffered.balanced_fresh _ _ _) (Buffered.agreed_fresh _ _ _)
        (Buffered.measured_fresh _ _ _) (Buffered.heeds_fresh _ (some length) _ silent) rfl, rfl,
        rfl⟩

theorem Declared.use (declared : body.Declared length) (use : Use σ τ) :
    (body.use use.unheard).2.Declared length := by
  cases declared with
  | direct same =>
      rw [use_direct]
      exact .direct ((Direct.length_afterRun _ [use.unheard]).trans same)
  | buffered balanced agreed measured heeds known =>
      rw [use_buffered]
      obtain ⟨balanced, agreed, measured, heeds, known⟩ := Buffered.use_keeps _
        (I := fun pool => Buffered.Agreed pool ∧ Buffered.Measured pool.record ∧
          Buffered.Heeds true pool.record ∧ pool.record.length = some length)
        (fun balanced ⟨agreed, measured, heeds, known⟩ step =>
          ⟨agreed.step balanced step, measured.step step, heeds.step step,
            step.length_of_known known⟩)
        balanced ⟨agreed, measured, heeds, known⟩ (Use.lends_unheard use.lends_any)
      exact .buffered balanced agreed measured heeds known

theorem Declared.afterRun (declared : body.Declared length) (uses : List (Use σ τ)) :
    (body.afterRun (uses.map Use.unheard)).Declared length := by
  refine runAll_keeps (fun use member current declared => ?_) declared
  obtain ⟨plain, -, rfl⟩ := List.mem_map.mp member
  exact declared.use plain

/-! ## What a copy is owed -/

/-- What a copy that had so much left is owed by a run that handed it so much: the rest counts as
left until it meets an end, and the end is reported when it was handed all of it or, where the body
is read in place, when the source gave it nothing. -/
structure Owes (body : Body (Overheard σ)) (index left : Nat) (uses : List (Use (Overheard σ) τ))
    (given : Nat) : Prop where
  counts : (body.afterRun uses).isClosed index = false →
    (body.afterRun uses).ended index = false →
      given ≤ left ∧ (body.afterRun uses).remaining index = some (left - given)
  ends : ∀ buffer, ((body.afterRun uses).read index buffer).reply = .failed ⟨.read, .endOfStream⟩ →
    given = left ∨ body.sequential = false ∧ body.Dries index (uses ++ [.read index buffer])

variable {willing : τ → Prop} {content : τ → List UInt8} {index left : Nat}
  {uses : List (Use (Overheard σ) τ)}

theorem owes_direct {pool : Pool (Direct.engine (Overheard σ))}
    (sinks : Sink.Willing willing content) (known : pool.remaining index = some left)
    (some_left : left ≠ 0) (pours : ∀ use ∈ uses, use.Pours willing)
    (unmoved : ∀ pair ∈ uses.zip (pool.run uses).1, ¬Direct.Sought index pair.1 pair.2) :
    (Body.direct pool).Owes index left uses
      (handedAll content index uses (pool.run uses).1).length := by
  obtain ⟨cursor, found, here⟩ := Pool.exists_open_of_remaining known some_left
  obtain ⟨going, left_eq⟩ := Direct.going_of_remaining here some_left
  have stands : Direct.Stands pool.record.length False cursor :=
    ⟨by omega, fun met => by cases going.symm.trans met⟩
  constructor
  · intro opened further
    rw [afterRun_direct] at opened further ⊢
    obtain ⟨current, there⟩ := Pool.isClosed_eq_false_iff.mp opened
    change (pool.afterRun uses).ended index = false at further
    change _ ∧ (pool.afterRun uses).remaining index = _
    rw [Pool.ended_of_open there] at further
    rw [Pool.remaining_of_open there, Direct.remaining_of_going further, Direct.length_afterRun]
    obtain ⟨moved, arrives⟩ := stands.afterRun sinks found pours unmoved there
    have inside := arrives.within
    exact ⟨by omega, congrArg some (by omega)⟩
  · intro buffer ends
    rw [afterRun_direct] at ends
    rcases stands.of_read_ended sinks found pours unmoved ends with all | (never | dries)
    · exact Or.inl (by omega)
    · exact never.elim
    · exact Or.inr ⟨rfl, dries_of_direct dries⟩

theorem owes_buffered {pool : Pool (Buffered.engine (Overheard σ))}
    (balanced : Buffered.Balanced pool) (agreed : Buffered.Agreed pool)
    (measured : Buffered.Measured pool.record) (length_eq : pool.record.length = some length)
    (sinks : Sink.Willing willing content) (known : pool.remaining index = some left)
    (some_left : left ≠ 0) (pours : ∀ use ∈ uses, use.Pours willing) :
    (Body.buffered pool).Owes index left uses
      (handedAll content index uses (pool.run uses).1).length := by
  obtain ⟨cursor, found, here⟩ := Pool.exists_open_of_remaining known some_left
  obtain ⟨-, left_eq⟩ := Buffered.going_of_remaining here some_left length_eq
  constructor
  · intro opened further
    rw [afterRun_buffered] at opened further ⊢
    obtain ⟨current, there⟩ := Pool.isClosed_eq_false_iff.mp opened
    change (pool.afterRun uses).ended index = false at further
    change _ ∧ (pool.afterRun uses).remaining index = _
    rw [Pool.ended_of_open there] at further
    have same := Buffered.length_afterRun balanced length_eq uses
    rw [Buffered.remaining_of_going there
      (Option.isNone_iff_eq_none.mp (Option.isSome_eq_false_iff.mp further)), same,
      Option.map_some]
    have moved := Buffered.offset_afterRun balanced sinks found pours there
    have inside := Buffered.offset_le_of_measured balanced measured there same
    exact ⟨by omega, congrArg some (by omega)⟩
  · intro buffer ends
    rw [afterRun_buffered] at ends
    obtain ⟨current, there, arrives⟩ :=
      Buffered.offset_of_read_ended balanced agreed measured found known uses ends
    have moved := Buffered.offset_afterRun balanced sinks found pours there
    exact Or.inl (by omega)

/-- Over any run that does not move it a copy gets what it is owed. -/
theorem Declared.owes (declared : body.Declared length) (sinks : Sink.Willing willing content)
    (known : body.remaining index = some left) (some_left : left ≠ 0)
    (pours : ∀ use ∈ uses, use.Pours willing)
    (unmoved : ∀ pair ∈ uses.zip (body.run uses).1, ¬Direct.Sought index pair.1 pair.2) :
    body.Owes index left uses (handedAll content index uses (body.run uses).1).length := by
  cases declared with
  | direct same =>
      rw [run_direct] at unmoved ⊢
      exact owes_direct sinks known some_left pours unmoved
  | buffered balanced agreed measured heeds length_eq =>
      rw [run_buffered]
      exact owes_buffered balanced agreed measured length_eq sinks known some_left pours

/-! ## A source that has nothing more -/

/-- What a read comes to when it hears that there is nothing. -/
theorem Declared.read_of_dry (declared : body.Declared length) {buffer : Buffer}
    {heard next : Overheard σ} (was : body.source? = some heard)
    (became : (body.read index buffer).state.source? = some next)
    (asked : next.answers ≠ heard.answers) (dry : next.Dry) :
    (body.sequential = true →
      (body.read index buffer).reply = .failed ⟨.read, .fault Buffered.endedEarly⟩ ∨
        ∃ bytes, (body.read index buffer).reply = .done bytes ∧ bytes.size ≠ 0) ∧
    (body.sequential = false →
      (body.read index buffer).reply = .failed ⟨.read, .endOfStream⟩) := by
  cases declared with
  | @direct pool same =>
      cases was
      cases became
      refine ⟨fun sequential => (by cases sequential), fun _ => ?_⟩
      change (pool.read index buffer).reply = _
      change (pool.read index buffer).state.record.custody.source.answers ≠ _ at asked
      change (pool.read index buffer).state.record.custody.source.Dry at dry
      cases found : pool.cursor? index with
      | none =>
          rw [Pool.read, (Pool.act_of_closed found _ _).2] at asked
          exact absurd rfl asked
      | some cursor =>
          have acted := Pool.act_of_open found .read
            ((Direct.engine (Overheard σ)).read buffer)
          rw [Pool.read, acted.2] at asked dry
          rw [Pool.read, acted.1]
          exact (Direct.reads buffer pool.record cursor).ends_of_dry asked dry
  | @buffered pool balanced agreed measured heeds length_eq =>
      cases was
      cases became
      refine ⟨fun _ => ?_, fun direct => by cases direct⟩
      change (pool.read index buffer).reply = _ ∨ ∃ bytes, (pool.read index buffer).reply = _ ∧ _
      change (pool.read index buffer).state.record.custody.source.answers ≠ _ at asked
      change (pool.read index buffer).state.record.custody.source.Dry at dry
      cases found : pool.cursor? index with
      | none =>
          rw [Pool.read, (Pool.act_of_closed found _ _).2] at asked
          exact absurd rfl asked
      | some cursor =>
          obtain ⟨turn, reads, reply, state⟩ := Buffered.exists_reads balanced found buffer
          rw [state] at asked dry
          rw [reply]
          exact reads.gives_of_dry (balanced.tidy (Pool.openCount_pos found))
            (balanced.standing found) heeds asked dry

/-- The source fell short of the declared length, and nothing else is reported to reads that the
bytes there are do not serve. -/
structure FallsShort (τ : Type) [Sink τ] (body : Body (Overheard σ)) : Prop where
  sticks : body.Sticks τ Buffered.endedEarly
  read : ∀ index buffer, body.isClosed index = false → body.spoiled = false → 0 < buffer.size →
    (body.read index buffer).reply = .failed ⟨.read, .fault Buffered.endedEarly⟩ ∨
      ∃ bytes, (body.read index buffer).reply = .done bytes ∧ bytes.size ≠ 0

theorem Declared.fallsShort (declared : body.Declared length)
    (short : body.terminal? = some (.failed Buffered.endedEarly)) : body.FallsShort τ := by
  cases declared with
  | direct => cases short
  | @buffered pool balanced agreed measured heeds length_eq =>
      have tended : (Body.buffered pool).Tended fun _ => True := .buffered balanced agreed heeds
      refine ⟨tended.sticks short, fun index buffer opened sound asks => ?_⟩
      obtain ⟨cursor, found⟩ := Pool.isClosed_eq_false_iff.mp opened
      obtain ⟨turn, reads, reply, -⟩ := Buffered.exists_reads balanced found buffer
      change (pool.read index buffer).reply = _ ∨ ∃ bytes, (pool.read index buffer).reply = _ ∧ _
      rw [reply]
      refine reads.gives_of_stopped (balanced.tidy (Pool.openCount_pos found))
        (balanced.standing found) short (fun met meets => ?_) sound asks
      have on_record := (agreed cursor (Pool.mem_cursors_iff.mpr ⟨index, found⟩) met meets).1
      exact Option.some.inj (on_record.symm.trans short)

/-- A sequence that heard last that there is nothing has the failure on record, and keeps it for as
long as a copy is open. -/
theorem Declared.terminal_of_dry (declared : body.Declared length) {heard : Overheard σ}
    (was : body.source? = some heard) (dry : heard.Dry) (sequential : body.sequential = true)
    (some_open : 0 < body.openCopies) (sound : body.spoiled = false)
    (still_open : 0 < (body.afterRun uses).openCopies) :
    (body.afterRun uses).terminal? = some (.failed Buffered.endedEarly) := by
  cases declared with
  | direct => cases sequential
  | @buffered pool balanced agreed measured heeds length_eq =>
      cases was
      rw [afterRun_buffered] at still_open ⊢
      have stopped := heeds.dry sound (balanced.held.mpr some_open) dry
      have settled : Buffered.Settled (fun _ => ()) (.failed Buffered.endedEarly)
          pool.record.window.stop () (pool.afterRun uses).record :=
        Buffered.settled_afterRun (fun _ => True) balanced stopped (fun _ _ _ => rfl)
          (fun use _ => use.lends_any) still_open
      exact settled.terminal

/-! ## Every run -/

/-- In every state that a body opened with a declared length can be brought to, over any source: a
copy that has so much left is handed all of it before it reports the end, unless the body is read in
place and the source gave the copy nothing; until then the rest counts as left.  So the first copy
is owed the whole length.  A read that hears that there is nothing reports the end where the body is
read in place.  In a sequence it gives bytes that there were, or fails with what says so, and this
failure then sticks to all copies for as long as one is open. -/
theorem open_owes_declared (sinks : Sink.Willing willing content) {source : σ} {options : Options}
    (declared : options.length = some length) (some_bytes : length ≠ 0)
    {begun : Body (Overheard σ)}
    (opened : (Body.open (⟨source, []⟩ : Overheard σ) options).reply = .done begun)
    (uses : List (Use σ τ)) :
    let body := begun.afterRun (uses.map Use.unheard)
    (begun.copies = 1 ∧ begun.remaining 0 = some length) ∧
    (∀ index left, body.remaining index = some left → left ≠ 0 → ∀ later : List (Use σ τ),
      (∀ use ∈ later, use.Pours willing) →
      (∀ pair ∈ (later.map Use.unheard).zip (body.run (later.map Use.unheard)).1,
        ¬Direct.Sought index pair.1 pair.2) →
      body.Owes index left (later.map Use.unheard)
        (handedAll content index (later.map Use.unheard)
          (body.run (later.map Use.unheard)).1).length) ∧
    (∀ index buffer heard next, body.source? = some heard →
      (body.read index buffer).state.source? = some next → next.answers ≠ heard.answers →
      next.Dry →
        (body.sequential = true →
          (body.read index buffer).reply = .failed ⟨.read, .fault Buffered.endedEarly⟩ ∨
            ∃ bytes, (body.read index buffer).reply = .done bytes ∧ bytes.size ≠ 0) ∧
        (body.sequential = false →
          (body.read index buffer).reply = .failed ⟨.read, .endOfStream⟩)) ∧
    ∀ heard, body.source? = some heard → heard.Dry → body.sequential = true →
      0 < body.openCopies → body.spoiled = false → ∀ later : List (Use σ τ),
        0 < (body.afterRun (later.map Use.unheard)).openCopies →
          (body.afterRun (later.map Use.unheard)).FallsShort τ := by
  intro body
  obtain ⟨start, copies, whole⟩ := Declared.of_open declared some_bytes opened
  have owing : body.Declared length := start.afterRun uses
  refine ⟨⟨copies, whole⟩, fun index left known some_left later pours unmoved => ?_,
    fun index buffer heard next was became asked dry => owing.read_of_dry was became asked dry,
    fun heard was dry sequential some_open sound later still_open => ?_⟩
  · refine owing.owes sinks known some_left (fun use member => ?_) unmoved
    obtain ⟨plain, asked, rfl⟩ := List.mem_map.mp member
    have poured := pours plain asked
    cases plain <;> exact poured
  · exact (owing.afterRun later).fallsShort
      (owing.terminal_of_dry was dry sequential some_open sound still_open)

/-- A source with three bytes of which five were declared.  In sequence they are handed over, two
are left, and instead of the end both copies report that it came too early.  Read in place the
source makes the end. -/
theorem open_owes_declared_of_short :
    let device : Device := { content := ⟨#[1, 2, 3]⟩ }
    let placed : Device := { device with addressable := true }
    let options : Options := { length := some 5, rawBlockSize := 4 }
    let uses : List (Use Device Gauge) := [.copy 0, .read 0 (.fresh 4)]
    let spent : List (Use Device Gauge) := [.copy 0, .read 0 (.fresh 4), .read 0 (.fresh 1)]
    let later : List (Use Device Gauge) := [.read 1 (.fresh 2), .close 0]
    let sequence : Body (Overheard Device) := .overSequence ⟨device, []⟩ (some 5) 4
    let direct : Body (Overheard Device) := .overDirect ⟨placed, []⟩ .addressed 0 5
    (Body.open (⟨device, []⟩ : Overheard Device) options).reply = .done sequence ∧
      (sequence.afterRun (uses.map Use.unheard)).remaining 0 = some 2 ∧
      (∀ buffer, ((sequence.afterRun (uses.map Use.unheard)).read 0 buffer).reply ≠
        .failed ⟨.read, .endOfStream⟩) ∧
      ((sequence.afterRun (spent.map Use.unheard)).afterRun
        (later.map Use.unheard)).FallsShort Gauge ∧
      (Body.open (⟨placed, []⟩ : Overheard Device) options).reply = .done direct ∧
      ((direct.afterRun (uses.map Use.unheard)).read 0 (.fresh 1)).reply =
        .failed ⟨.read, .endOfStream⟩ := by
  intro device placed options uses spent later sequence direct
  have opens : (Body.open (⟨device, []⟩ : Overheard Device) options).reply = .done sequence := rfl
  have places : (Body.open (⟨placed, []⟩ : Overheard Device) options).reply = .done direct := rfl
  obtain ⟨⟨-, whole⟩, owes, -, -⟩ := open_owes_declared Gauge.willing_ready rfl
    (by decide : 5 ≠ 0) opens ([] : List (Use Device Gauge))
  obtain ⟨-, -, -, falls⟩ := open_owes_declared Gauge.willing_ready rfl
    (by decide : 5 ≠ 0) opens spent
  obtain ⟨-, -, ends, -⟩ := open_owes_declared Gauge.willing_ready rfl
    (by decide : 5 ≠ 0) places uses
  have unmoved (pair : Use (Overheard Device) Gauge × Receipt Gauge)
      (member : pair ∈ (uses.map Use.unheard).zip (sequence.run (uses.map Use.unheard)).1) :
      ¬Direct.Sought 0 pair.1 pair.2 := by
    have asked := (List.of_mem_zip member).1
    simp only [uses, List.map_cons, List.map_nil, Use.unheard, List.mem_cons, List.not_mem_nil,
      or_false] at asked
    rcases asked with asked | asked <;> simp [asked, Direct.Sought]
  have given : (handedAll (fun gauge : Gauge => gauge.content.data.toList) 0
      (uses.map Use.unheard) (sequence.run (uses.map Use.unheard)).1).length = 3 := by
    decide +kernel
  have owed : sequence.Owes 0 5 (uses.map Use.unheard) 3 := by
    rw [← given]
    exact owes 0 5 whole (by decide) uses (by simp [uses, Use.Pours]) unmoved
  refine ⟨opens, (owed.counts (by decide +kernel) (by decide +kernel)).2, fun buffer came => ?_,
    ?_, places, ?_⟩
  · rcases owed.ends buffer came with all | ⟨direct, -⟩
    · cases all
    · cases direct
  · exact falls _ rfl (by decide +kernel) rfl (by decide +kernel) (by decide +kernel) later
      (by decide +kernel)
  · exact (ends 0 (.fresh 1) _ _ rfl rfl (by decide +kernel) (by decide +kernel)).2 rfl

/-- Three bytes of which five were declared, read in place at positions or by moving the source: the
copy reports the end with two bytes left, and then counts none. -/
theorem open_ends_short :
    let placed : Device := { content := ⟨#[1, 2, 3]⟩, addressable := true }
    let moved : Device := { content := ⟨#[1, 2, 3]⟩, seekable := true }
    let short (source : Device) (body : Body Device) : Prop :=
      (Body.open source { length := some 5 }).reply = .done body ∧
        (body.read 0 (.fresh 4)).reply = .done ⟨#[1, 2, 3]⟩ ∧
        (body.read 0 (.fresh 4)).state.remaining 0 = some 2 ∧
        ((body.read 0 (.fresh 4)).state.read 0 (.fresh 4)).reply =
          .failed ⟨.read, .endOfStream⟩ ∧
        ((body.read 0 (.fresh 4)).state.read 0 (.fresh 4)).state.remaining 0 = some 0
    short placed (.overDirect placed .addressed 0 5) ∧
      short moved (.overDirect moved .seeking 0 5) := by
  intro placed moved short
  exact ⟨⟨rfl, by decide +kernel, by decide +kernel, by decide +kernel, by decide +kernel⟩,
    ⟨rfl, by decide +kernel, by decide +kernel, by decide +kernel, by decide +kernel⟩⟩

end Body

end Payload
