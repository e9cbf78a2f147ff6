import Payload.Proofs.Buffered.Outlook
import Payload.Proofs.Failures
import Payload.Proofs.Steering
import Payload.Proofs.Termination

/-!
# Reading out is reading on

A copy can be read to its end, into buffers of any sizes, or read out into a sink in one call.  The
two come to the same where the source has at each position what it has there, whoever asks: a loop
of reads gives the bytes that are ahead of the copy and meets the end behind them, and reading out
writes these bytes and reports that end.  So neither the sizes of the buffers nor the size of the
pieces that are read out makes a difference.
-/

namespace Payload

variable {σ τ : Type} [Source σ] [Sink τ] {chart : Chart} {stands : Nat → σ → Prop} {index : Nat}

/-- These bytes and this end are ahead, and no others. -/
def Outlook.Only (outlook : Outlook) (whole : List UInt8) (terminal : Terminal) : Prop :=
  ∀ bytes met, outlook bytes met ↔ bytes = whole ∧ met = terminal

/-- A byte stream is given what a read gave, or nothing where the end was met. -/
theorem Reply.of_asStream_done {reply : Reply ByteArray} {bytes : ByteArray}
    (done : reply.asStream = .done bytes) :
    reply = .done bytes ∨
      bytes = .empty ∧ ∃ error, reply = .failed error ∧ error.isEnd = true := by
  cases reply with
  | done given =>
      cases done
      exact Or.inl rfl
  | broke => cases done
  | failed error =>
      simp only [asStream] at done
      split at done
      · rename_i ends
        cases done
        exact Or.inr ⟨rfl, error, rfl, ends⟩
      · cases done

theorem Reply.of_asStream_failed {reply : Reply ByteArray} {failure : Failure}
    (failed : reply.asStream = .failed failure) :
    ∃ error, reply = .failed error ∧ failure = .wrapped error := by
  cases reply with
  | done given => cases failed
  | broke => cases failed
  | failed error =>
      simp only [asStream] at failed
      split at failed
      · cases failed
      · cases failed
        exact ⟨error, rfl, rfl⟩

namespace Body

/-! ## What a copy looks at -/

/-- What is ahead of an open copy. -/
inductive Looks (chart : Chart) (stands : Nat → σ → Prop) (index : Nat) :
    Body σ → Outlook → Prop where
  | memory {pool : Pool (Memory.engine σ)} {cursor : Cursor}
      (found : pool.cursor? index = some cursor) (inside : ¬Memory.Overrun pool.record cursor) :
      Looks chart stands index (.memory pool) (Memory.outlook pool.record cursor)
  | direct {pool : Pool (Direct.engine σ)} {cursor : Cursor}
      (found : pool.cursor? index = some cursor) (views : pool.record.Views chart stands) :
      Looks chart stands index (.direct pool) (Direct.outlook chart pool.record cursor)
  | buffered {pool : Pool (Buffered.engine σ)} {position : Nat} {cursor : Buffered.Cursor}
      (found : pool.cursor? index = some cursor) (orderly : Buffered.Orderly pool)
      (views : pool.record.Views chart stands position) :
      Looks chart stands index (.buffered pool)
        (Buffered.outlook chart position pool.record cursor)

theorem Looks.orderly {body : Body σ} {before : Outlook}
    (looks : body.Looks chart stands index before) : body.Orderly := by
  cases looks with
  | memory => exact .memory _
  | direct => exact .direct _
  | buffered found orderly => exact .buffered orderly

theorem Looks.isClosed {body : Body σ} {before : Outlook}
    (looks : body.Looks chart stands index before) : body.isClosed index = false := by
  cases looks with
  | memory found => exact Pool.isClosed_eq_false_iff.mpr ⟨_, found⟩
  | direct found => exact Pool.isClosed_eq_false_iff.mpr ⟨_, found⟩
  | buffered found => exact Pool.isClosed_eq_false_iff.mpr ⟨_, found⟩

/-- A copy that has nothing left, and says so when it is read. -/
structure Drained (body : Body σ) (index : Nat) : Prop where
  remaining : body.remaining index = some 0
  ends : ∀ buffer : Buffer, 0 < buffer.size →
    (body.read index buffer).reply = .failed ⟨.read, .endOfStream⟩

/-- A read that comes back gives the first of what is ahead, or meets the end. -/
theorem Looks.read {body : Body σ} {before : Outlook}
    (looks : body.Looks chart stands index before) {buffer : Buffer} (asks : 0 < buffer.size)
    (came : (body.read index buffer).reply ≠ .broke) :
    ∃ after, (body.read index buffer).state.Looks chart stands index after ∧
      Outlook.Follows before after (body.read index buffer).reply ∧
      ((body.read index buffer).reply = .failed ⟨.read, .endOfStream⟩ →
        (body.read index buffer).state.Drained index) := by
  cases looks with
  | @memory pool cursor found inside =>
      obtain ⟨reply, state⟩ := Pool.act_of_open found .read ((Memory.engine σ).read buffer)
      have here := Pool.cursor?_put_self found
        ((Memory.engine σ).read buffer pool.record cursor).record
        ((Memory.engine σ).read buffer pool.record cursor).cursor
      have read_reply : ((Body.memory pool).read index buffer).reply = _ := reply
      have read_state : ((Body.memory pool).read index buffer).state = _ :=
        congrArg Body.memory state
      have still : ¬Memory.Overrun (Memory.read buffer.size pool.record cursor).record
          (Memory.read buffer.size pool.record cursor).cursor := by
        rw [Memory.record_read]
        exact Memory.not_overrun_read inside
      have follows := Memory.follows_read asks inside
      rw [read_reply, read_state]
      refine ⟨_, .memory here still, ?_, fun failed => ?_⟩
      · change Outlook.Follows _ (Memory.outlook (Memory.read buffer.size pool.record cursor).record
          _) _
        rwa [Memory.record_read]
      have atEnd := Memory.steers.atEnd here (Memory.ended_of_failed failed)
      exact ⟨atEnd.remaining, fun other _ => (atEnd.refused other).1⟩
  | @direct pool cursor found views =>
      obtain ⟨reply, state⟩ := Pool.act_of_open found .read ((Direct.engine σ).read buffer)
      have here := Pool.cursor?_put_self found
        ((Direct.engine σ).read buffer pool.record cursor).record
        ((Direct.engine σ).read buffer pool.record cursor).cursor
      have read_reply : ((Body.direct pool).read index buffer).reply = _ := reply
      have read_state : ((Body.direct pool).read index buffer).state = _ :=
        congrArg Body.direct state
      obtain ⟨follows, still, ends⟩ := views.follows_read asks cursor
      rw [read_reply, read_state]
      refine ⟨_, .direct here still, follows, fun failed => ?_⟩
      have atEnd := Direct.steers.atEnd here (ends failed)
      exact ⟨atEnd.remaining, fun other _ => (atEnd.refused other).1⟩
  | @buffered pool position cursor found orderly views =>
      obtain ⟨reply, state⟩ := Pool.act_of_open found .read ((Buffered.engine σ).read buffer)
      have here := Pool.cursor?_put_self found
        ((Buffered.engine σ).read buffer pool.record cursor).record
        ((Buffered.engine σ).read buffer pool.record cursor).cursor
      have read_reply : ((Body.buffered pool).read index buffer).reply = _ := reply
      have read_state : ((Body.buffered pool).read index buffer).state = _ :=
        congrArg Body.buffered state
      rw [read_reply] at came
      obtain ⟨place, still, follows, met⟩ := views.follows_read orderly found asks came
      rw [read_reply, read_state]
      refine ⟨_, .buffered here (Buffered.forwards.keeps orderly found buffer) still, follows,
        fun failed => ?_⟩
      have ended := met .ended failed
      exact ⟨Buffered.remaining_of_met here ended,
        fun other _ => (Buffered.read_of_met here ended other).1⟩

/-! ## Loops of reads -/

/-- Reading a copy on, into buffers of any sizes, until a read meets the end. -/
inductive ReadsOut (index : Nat) : Body σ → List UInt8 → Terminal → Prop where
  | met {body : Body σ} {buffer : Buffer} {terminal : Terminal} (asks : 0 < buffer.size)
      (failed : (body.read index buffer).reply = .failed (terminal.error .read)) :
      ReadsOut index body [] terminal
  | gave {body : Body σ} {buffer : Buffer} {bytes : ByteArray} {rest : List UInt8}
      {terminal : Terminal} (asks : 0 < buffer.size)
      (done : (body.read index buffer).reply = .done bytes)
      (later : ReadsOut index (body.read index buffer).state rest terminal) :
      ReadsOut index body (bytes.data.toList ++ rest) terminal

/-- Reading a copy as a byte stream, until a read gives nothing or fails. -/
inductive StreamsOut (index : Nat) : Noted σ → List UInt8 → Terminal → Prop where
  | ended {noted : Noted σ} {want : Nat} {bytes : ByteArray} (asks : 0 < want)
      (done : (streamRead index want noted).1 = .done bytes) (nothing : bytes.size = 0) :
      StreamsOut index noted [] .ended
  | failed {noted : Noted σ} {want : Nat} {fault : Fault} (asks : 0 < want)
      (failed : (streamRead index want noted).1 = .failed (.wrapped ⟨.read, .fault fault⟩)) :
      StreamsOut index noted [] (.failed fault)
  | gave {noted : Noted σ} {want : Nat} {bytes : ByteArray} {rest : List UInt8}
      {terminal : Terminal} (asks : 0 < want)
      (done : (streamRead index want noted).1 = .done bytes) (some_bytes : bytes.size ≠ 0)
      (later : StreamsOut index (streamRead index want noted).2 rest terminal) :
      StreamsOut index noted (bytes.data.toList ++ rest) terminal

/-- What a loop of reads comes to is all that is ahead of the copy. -/
theorem Looks.only_of_readsOut {body : Body σ} {whole : List UInt8} {terminal : Terminal}
    (readsOut : body.ReadsOut index whole terminal) {before : Outlook}
    (looks : body.Looks chart stands index before) : before.Only whole terminal := by
  induction readsOut generalizing before with
  | met asks failed =>
      obtain ⟨after, -, follows, -⟩ := looks.read asks (by rw [failed]; exact nofun)
      rw [failed] at follows
      generalize same : (Outcome.failed (Terminal.error .read _) : Reply ByteArray) = reply
        at follows
      cases follows with
      | gave => cases same
      | met only stays =>
          obtain rfl := Terminal.error_inj (Outcome.failed.inj same)
          exact only
  | gave asks done later ih =>
      obtain ⟨after, still, follows, -⟩ := looks.read asks (by rw [done]; exact nofun)
      rw [done] at follows
      cases follows with
      | gave some_bytes goes =>
          intro whole met
          rw [goes]
          simp only [ih still _ _]
          constructor
          · rintro ⟨rest, rfl, rfl, rfl⟩
            exact ⟨rfl, rfl⟩
          · rintro ⟨rfl, rfl⟩
            exact ⟨_, rfl, rfl, rfl⟩

/-- As a byte stream a copy is read as it is. -/
theorem Looks.readsOut_of_streamsOut {noted : Noted σ} {whole : List UInt8} {terminal : Terminal}
    (streamsOut : StreamsOut index noted whole terminal) {before : Outlook}
    (looks : noted.body.Looks chart stands index before) :
    noted.body.ReadsOut index whole terminal := by
  induction streamsOut generalizing before with
  | @ended noted want bytes asks done nothing =>
      have some_room : 0 < (Buffer.fresh want).size := asks
      rcases Reply.of_asStream_done done with came | ⟨-, error, came, ends⟩
      · obtain ⟨after, -, follows, -⟩ := looks.read some_room (by rw [came]; exact nofun)
        rw [came] at follows
        cases follows with
        | gave some_bytes => exact absurd nothing some_bytes
      · obtain ⟨after, -, follows, -⟩ := looks.read some_room (by rw [came]; exact nofun)
        rw [came] at follows
        cases follows with
        | @met terminal =>
            cases terminal with
            | ended => exact .met some_room came
            | failed fault => cases ends
  | @failed noted want fault asks failed =>
      obtain ⟨error, came, same⟩ := Reply.of_asStream_failed failed
      cases same
      have some_room : 0 < (Buffer.fresh want).size := asks
      exact .met some_room came
  | @gave noted want bytes rest terminal asks done some_bytes later ih =>
      have some_room : 0 < (Buffer.fresh want).size := asks
      rcases Reply.of_asStream_done done with came | ⟨rfl, -⟩
      · obtain ⟨after, still, -, -⟩ := looks.read some_room (by rw [came]; exact nofun)
        exact .gave some_room came (ih still)
      · exact absurd rfl some_bytes

/-! ## Reading out -/

/-- Reads that give bytes give the first of what is ahead. -/
theorem Looks.afterReads {body : Body σ} {before : Outlook}
    (looks : body.Looks chart stands index before) {buffers : List Buffer}
    (asks : ∀ buffer ∈ buffers, 0 < buffer.size) {pieces : List ByteArray}
    (gave : body.Gave τ index buffers pieces) :
    ∃ after,
      (body.afterRun (buffers.map (Use.read index : Buffer → Use σ τ))).Looks chart stands index
        after ∧
      ∀ whole terminal, before whole terminal ↔
        ∃ rest, whole = (pieces.flatMap fun piece => piece.data.toList) ++ rest ∧
          after rest terminal := by
  induction buffers generalizing body before pieces with
  | nil =>
      obtain rfl : pieces = [] := List.map_eq_nil_iff.mp gave.symm
      exact ⟨before, looks, by simp⟩
  | cons buffer buffers ih =>
      obtain ⟨bytes, rest, rfl, done, later⟩ := gave_cons_iff.mp gave
      obtain ⟨between, still, follows, -⟩ :=
        looks.read (asks buffer List.mem_cons_self) (by rw [done]; exact nofun)
      obtain ⟨after, there, ahead⟩ :=
        ih still (fun other member => asks other (List.mem_cons_of_mem _ member)) later
      refine ⟨after, there, fun whole terminal => ?_⟩
      rw [done] at follows
      cases follows with
      | gave some_bytes goes =>
          simp only [goes, ahead, List.flatMap_cons, List.append_assoc]
          constructor
          · rintro ⟨_, rfl, further, rfl, holds⟩
            exact ⟨further, rfl, holds⟩
          · rintro ⟨further, rfl, holds⟩
            exact ⟨_, rfl, further, rfl, holds⟩

/-- A buffered body has room in memory for so many bytes in its window. -/
def Affords (body : Body σ) (index count : Nat) : Prop :=
  ∀ pool cursor, body = .buffered pool → pool.cursor? index = some cursor →
    pool.record.Affords cursor count

/-- The last read of a run of reads. -/
theorem last_of_writesOut {body : Body σ} {size : Nat} {sink : τ} {buffers : List Buffer}
    {final : Buffer} {pieces : List ByteArray} {reply : Reply ByteArray}
    {out : Effect (Body σ) Nat × τ}
    (ends : WritesOut (fun buffers => body.run (buffers.map (Use.read index : Buffer → Use σ τ)))
      size sink buffers final pieces reply out) :
    let stopped := body.afterRun (buffers.map (Use.read index : Buffer → Use σ τ))
    (stopped.read index final).reply = reply ∧ out.1.state = (stopped.read index final).state := by
  intro stopped
  have apart : body.run ((buffers ++ [final]).map (Use.read index : Buffer → Use σ τ)) =
      ((body.run (buffers.map (Use.read index : Buffer → Use σ τ))).1 ++
        [.bytes (stopped.read index final).reply], (stopped.read index final).state) := by
    rw [List.map_append]
    exact runAll_append _ _ _
  have last := ends.last
  have state := ends.state
  rw [apart] at last state
  rw [ends.gave] at last
  exact ⟨Receipt.bytes.inj (List.cons.inj (List.append_cancel_left last)).1, state⟩

/-- With room in memory no read breaks off that asks for no more than a block. -/
theorem Looks.came_afterReads {body : Body σ} {before : Outlook}
    (looks : body.Looks chart stands index before) {buffers : List Buffer}
    (asks : ∀ buffer ∈ buffers, 0 < buffer.size) {pieces : List ByteArray}
    (gave : body.Gave τ index buffers pieces) {count : Nat}
    (affords : body.Affords index (byteCount pieces + count)) {final : Buffer}
    (some_room : 0 < final.size)
    (small : ∀ pool, body = .buffered pool → final.size ≤ pool.record.blockSize) :
    ((body.afterRun (buffers.map (Use.read index : Buffer → Use σ τ))).read index final).reply ≠
      .broke := by
  obtain ⟨after, there, -⟩ := looks.afterReads asks gave
  have unrefused : (.broke : Reply ByteArray) ≠ .failed ⟨.read, .closed⟩ := fun same => by
    cases same
  intro broke
  cases looks with
  | @memory pool cursor found inside =>
      rw [afterRun, run_memory] at there broke
      obtain ⟨last, found', broke⟩ := Pool.exists_open_of_act broke unrefused
      have overrun := (Memory.reply_read_eq_broke_iff.mp broke).2
      cases there with
      | memory here inside' =>
          obtain rfl := Option.some.inj (here.symm.trans found')
          exact inside' overrun
  | @direct pool cursor found views =>
      rw [afterRun_direct] at there broke
      obtain ⟨last, -, broke⟩ := Pool.exists_open_of_act broke unrefused
      cases there with
      | direct here still => exact (still.follows_read some_room last).1.ne_broke broke
  | @buffered pool position cursor found orderly views =>
      rw [afterRun_buffered] at there broke
      obtain ⟨last, found', broke⟩ := Pool.exists_open_of_act broke unrefused
      rw [Gave, run_buffered] at gave
      cases there with
      | buffered here orderly' still =>
          have room := (affords pool cursor rfl found).afterReads orderly found gave found'
          have same := Buffered.blockSize_afterRun orderly.balanced
            (buffers.map (Use.read index : Buffer → Use σ τ))
          exact still.came orderly' found' room (same.symm ▸ small pool rfl) broke

/-- Reading out a copy that is not in memory comes to a last read. -/
theorem Looks.exists_writesOut {body : Body σ} {before : Outlook}
    (looks : body.Looks chart stands index before) {whole : List UInt8} {terminal : Terminal}
    (holds : before whole terminal) (affords : body.Affords index whole.length) {block : Nat}
    (cuts : body.scratch? index = some block) (sink : τ) :
    ∃ buffers final pieces reply,
      WritesOut (fun buffers => body.run (buffers.map (Use.read index : Buffer → Use σ τ))) block
        sink buffers final pieces reply (body.writeTo index sink) := by
  have fits : block ≤ maxAllocation := by
    cases looks with
    | memory => cases cuts
    | direct =>
        cases cuts
        exact Nat.le_trans (scratch_le _ _) (by decide)
    | @buffered pool position cursor found =>
        have block_eq : scratch pool.record.blockSize (pool.remaining index) = block :=
          Option.some.inj cuts
        rw [Pool.remaining_of_open found] at block_eq
        exact block_eq ▸ (affords pool cursor rfl found).scratch_le
  have atMost (buffers : List Buffer) (pieces : List ByteArray)
      (asks : ∀ buffer ∈ buffers, 0 < buffer.size) (gave : body.Gave τ index buffers pieces) :
      byteCount pieces ≤ whole.length := by
    obtain ⟨after, -, ahead⟩ := looks.afterReads asks gave
    obtain ⟨rest, rfl, -⟩ := (ahead whole terminal).mp holds
    rw [List.length_append, length_flatMap_toList]
    exact Nat.le_add_right _ _
  obtain ⟨buffers, final, pieces, reply, ends, -⟩ :=
    looks.orderly.exists_writesOut atMost looks.isClosed cuts fits sink
  exact ⟨buffers, final, pieces, reply, ends⟩

/-- What reading out comes to where these bytes and this end are ahead of the copy. -/
structure Pours (content : τ → List UInt8) (whole : List UInt8) (terminal : Terminal) (sink : τ)
    (index : Nat) (out : Effect (Body σ) Nat × τ) : Prop where
  /-- The end is reported as the end, with the number of the bytes, and a failure as a failure of
  reading out. -/
  reply : out.1.reply = terminal.written whole.length
  /-- The sink has received these bytes and no others. -/
  given : content out.2 = content sink ++ whole
  drained : terminal = .ended → out.1.state.Drained index

/-- A copy that stands behind the last of the bytes in memory has nothing left. -/
theorem drained_of_spent {pool : Pool (Memory.engine σ)} {cursor : Cursor}
    (found : pool.cursor? index = some cursor) (spent : pool.record.size = cursor.offset) :
    (Body.memory pool : Body σ).Drained index where
  remaining := by
    have inside : ¬Memory.Overrun pool.record cursor :=
      fun overrun => Nat.ne_of_lt overrun.2 spent
    refine (Pool.remaining_of_open found).trans ((Memory.remaining_eq inside).trans ?_)
    rw [Cursor.remaining, spent, Nat.sub_self, ite_self]
  ends buffer asks := by
    refine (Pool.act_of_open found .read ((Memory.engine σ).read buffer)).1.trans ?_
    have reads := Memory.reads buffer.size pool.record cursor
    change (Memory.read buffer.size pool.record cursor).reply = _
    generalize Memory.read buffer.size pool.record cursor = turn at reads ⊢
    cases reads with
    | ended => rfl
    | nothing _ nothing => exact absurd nothing (Nat.ne_of_gt asks)
    | overrun _ overrun => exact absurd spent (Nat.ne_of_lt overrun.2)
    | spent => rfl
    | gave _ _ within => exact absurd spent (Nat.ne_of_gt within)

/-- Bytes in memory are offered as they lie there. -/
theorem pours_memory {willing : τ → Prop} {content : τ → List UInt8}
    (sinks : Sink.Willing willing content) {pool : Pool (Memory.engine σ)} {cursor : Cursor}
    (found : pool.cursor? index = some cursor) (inside : ¬Memory.Overrun pool.record cursor)
    {whole : List UInt8} {terminal : Terminal}
    (holds : Memory.outlook pool.record cursor whole terminal) {sink : τ} (ready : willing sink) :
    Pours content whole terminal sink index ((Body.memory pool : Body σ).writeTo index sink) := by
  obtain ⟨reply, state, takes⟩ := Pool.writeTo_of_open found sink
  obtain ⟨rfl, rfl⟩ := holds
  cases ended : cursor.ended with
  | true =>
      have nothing : (Memory.engine σ).writeTo sink pool.record cursor =
          (⟨.done 0, pool.record, cursor, []⟩, sink) := if_pos ended
      rw [nothing] at reply state takes
      have atEnd := Memory.steers.atEnd (Pool.cursor?_put_self found pool.record cursor) ended
      rw [← state] at atEnd
      refine ⟨reply, (congrArg content takes).trans (List.append_nil _).symm, fun _ =>
        ⟨atEnd.remaining, fun buffer _ => (atEnd.refused buffer).1⟩⟩
  | false =>
      have within : cursor.offset ≤ pool.record.size :=
        Nat.not_lt.mp fun past => inside ⟨ended, past⟩
      obtain ⟨next, writes, -, content_eq⟩ :=
        Memory.writeTo_willing sinks pool.record ready ended within
      have all : (Memory.engine σ).writeTo sink pool.record cursor = _ := writes
      rw [all] at reply state takes
      have length_eq : (pool.record.data.toList.drop cursor.offset).length =
          pool.record.size - cursor.offset := by simp
      have here := Pool.cursor?_put_self found pool.record
        { cursor with offset := pool.record.size }
      have drained : (Body.memory (pool.writeTo index sink).1.state : Body σ).Drained index :=
        state ▸ drained_of_spent here rfl
      simp only [Bool.false_eq_true, if_false]
      exact ⟨reply.trans (congrArg Outcome.done length_eq.symm),
        (congrArg content takes).trans content_eq, fun _ => drained⟩

/-- Where a loop of reads would come to these bytes and this end, so does reading out. -/
theorem Looks.pours {willing : τ → Prop} {content : τ → List UInt8}
    (sinks : Sink.Willing willing content) {body : Body σ} {before : Outlook}
    (looks : body.Looks chart stands index before) {whole : List UInt8} {terminal : Terminal}
    (holds : before whole terminal) (affords : body.Affords index whole.length) {sink : τ}
    (ready : willing sink) :
    Pours content whole terminal sink index (body.writeTo index sink) := by
  cases cuts : body.scratch? index with
  | none =>
      cases looks with
      | memory found inside => exact pours_memory sinks found inside holds ready
      | direct => cases cuts
      | buffered => cases cuts
  | some block =>
      have some_room : 0 < block := looks.orderly.scratch_pos cuts
      obtain ⟨buffers, final, pieces, reply, ends⟩ :=
        looks.exists_writesOut holds affords cuts sink
      have asks : ∀ buffer ∈ buffers, 0 < buffer.size := fun buffer member =>
        (ends.sized buffer (List.mem_append_left _ member)).symm ▸ some_room
      have final_eq : final.size = block :=
        ends.sized final (List.mem_append_right _ List.mem_cons_self)
      have small (pool : Pool (Buffered.engine σ)) (buffered : body = .buffered pool) :
          final.size ≤ pool.record.blockSize := by
        subst buffered
        have block_eq : scratch pool.record.blockSize (pool.remaining index) = block :=
          Option.some.inj cuts
        rw [final_eq, ← block_eq]
        exact scratch_le _ _
      obtain ⟨after, there, ahead⟩ := looks.afterReads asks ends.gave
      obtain ⟨rest, rfl, left⟩ := (ahead whole terminal).mp holds
      rw [List.length_append, length_flatMap_toList] at affords
      have came := looks.came_afterReads asks ends.gave affords (final_eq ▸ some_room) small
      obtain ⟨next, -, follows, drains⟩ := there.read (final_eq ▸ some_room) came
      obtain ⟨reply_eq, state_eq⟩ := last_of_writesOut ends
      rw [reply_eq] at follows drains
      rw [← state_eq] at drains
      obtain ⟨between, passed, closes⟩ := ends.closes
      obtain ⟨willing, given⟩ := passed.content_eq sinks ready
      generalize body.writeTo index sink = out at closes drains ⊢
      obtain ⟨effect, last⟩ := out
      obtain ⟨replied, state, notes⟩ := effect
      dsimp only at closes drains
      cases follows with
      | @gave bytes =>
          obtain ⟨_, took, -⟩ := sinks.takeAll bytes willing
          cases closes with
          | refused offer =>
              rw [took] at offer
              cases offer
          | swallowed offer =>
              rw [took] at offer
              cases offer
      | met only stays =>
          obtain ⟨rfl, rfl⟩ := (only _ _).mp left
          cases closes with
          | stopped =>
              rw [List.append_nil]
              refine ⟨?_, given, ?_⟩
              · rw [length_flatMap_toList]
                exact Terminal.written_eq _ _
              · rintro rfl
                exact drains rfl

/-! ## Every state -/

/-- A body over a source that has at each position what the chart says, if it is over one. -/
inductive Charted (chart : Chart) (stands : Nat → σ → Prop) : Body σ → Prop where
  | memory (pool : Pool (Memory.engine σ)) : Charted chart stands (.memory pool)
  | direct {pool : Pool (Direct.engine σ)} {position : Nat}
      (mapped : Source.Mapped pool.record.access chart stands)
      (there : stands position pool.record.custody.source) : Charted chart stands (.direct pool)
  | buffered {pool : Pool (Buffered.engine σ)} {position : Nat}
      (charted : Source.Charted chart stands)
      (there : stands position pool.record.custody.source) :
      Charted chart stands (.buffered pool)

/-- A buffered body over a sequential source that stays where its stream is over. -/
theorem Charted.of_sequential {yields : List UInt8 → σ → Prop} {sequel : Terminal}
    (sequential : Source.Sequential yields sequel)
    (stays : ∀ {source want}, yields [] source → 0 < want → yields [] (Source.read want source).2)
    {stream : List UInt8} {position : Nat} {pool : Pool (Buffered.engine σ)}
    (there : yields (stream.drop position) pool.record.custody.source) :
    Charted (Chart.ofStream stream sequel)
      (fun position source => yields (stream.drop position) source) (.buffered pool) :=
  .buffered (sequential.charted stays stream) there

/-- While a copy of a direct body is open, the source is held. -/
theorem New.held_afterRun {begun : Body σ} (new : New begun) (uses : List (Use σ τ))
    {pool : Pool (Direct.engine σ)} (left : begun.afterRun uses = .direct pool)
    (some_open : 0 < pool.openCount) : pool.record.custody.held = true := by
  cases new with
  | closed =>
      rw [Body.closed, afterRun, run_memory] at left
      cases left
  | ofBytes data =>
      rw [Body.ofBytes, afterRun, run_memory] at left
      cases left
  | overSequence source length blockSize =>
      rw [Body.overSequence, afterRun_buffered] at left
      cases left
  | overDirect source access base length =>
      rw [Body.overDirect, afterRun_direct] at left
      cases left
      have attended : Attended Direct.custody Direct.sharers (fun _ => True)
          ((Direct.fresh source access base length).afterRun uses) :=
        Direct.afterRun_keeps
          (fun attended step => attended.handled (fun _ _ => trivial) (fun _ _ _ _ => trivial)
            step.handled)
          ⟨rfl, iff_of_true rfl Nat.one_pos, fun _ => trivial⟩ fun use _ => use.lends_any
      exact attended.held.mpr some_open

/-- Some loop of reads, of the copy itself or of its byte stream, comes to these bytes and then to
this end. -/
def ComesTo (body : Body σ) (index : Nat) (whole : List UInt8) (terminal : Terminal) : Prop :=
  body.ReadsOut index whole terminal ∨
    ∃ latest, StreamsOut index ⟨body, latest⟩ whole terminal

/-- Where such a loop comes to its end, its first read has come back. -/
theorem ComesTo.exists_came {body : Body σ} {whole : List UInt8} {terminal : Terminal}
    (comes : body.ComesTo index whole terminal) :
    ∃ buffer : Buffer, 0 < buffer.size ∧ (body.read index buffer).reply ≠ .broke := by
  rcases comes with readsOut | ⟨latest, streamsOut⟩
  · cases readsOut with
    | met asks failed => exact ⟨_, asks, by rw [failed]; exact nofun⟩
    | gave asks done => exact ⟨_, asks, by rw [done]; exact nofun⟩
  · have came {want : Nat} (back : (streamRead index want ⟨body, latest⟩).1 ≠ .broke) :
        (body.read index (.fresh want)).reply ≠ .broke := by
      intro broke
      refine back ?_
      change (body.read index (.fresh want)).reply.asStream = _
      rw [broke]
      rfl
    cases streamsOut with
    | ended asks done => exact ⟨_, asks, came (by rw [done]; exact nofun)⟩
    | failed asks failed => exact ⟨_, asks, came (by rw [failed]; exact nofun)⟩
    | gave asks done => exact ⟨_, asks, came (by rw [done]; exact nofun)⟩

/-- Whatever was asked of a new body before, an open copy of it of which reads come back has
something ahead, unless what the copies share is poisoned. -/
theorem Charted.exists_looks {begun : Body σ} (new : New begun) (uses : List (Use σ τ))
    (charted : (begun.afterRun uses).Charted chart stands)
    (sound : (begun.afterRun uses).spoiled = false)
    (opened : (begun.afterRun uses).isClosed index = false) {buffer : Buffer}
    (asks : 0 < buffer.size)
    (came : ((begun.afterRun uses).read index buffer).reply ≠ .broke) :
    ∃ before, (begun.afterRun uses).Looks chart stands index before := by
  have orderly := new.orderly.afterRun uses
  have held (pool : Pool (Direct.engine σ)) (left : begun.afterRun uses = .direct pool) :=
    new.held_afterRun uses left
  generalize begun.afterRun uses = body at charted sound opened came orderly held
  cases charted with
  | memory pool =>
      obtain ⟨cursor, found⟩ := Pool.isClosed_eq_false_iff.mp opened
      refine ⟨_, .memory found fun overrun => came ?_⟩
      exact (Pool.act_of_open found .read ((Memory.engine σ).read buffer)).1.trans
        (Memory.reply_read_eq_broke_iff.mpr ⟨Nat.ne_of_gt asks, overrun⟩)
  | @direct pool position mapped there =>
      obtain ⟨cursor, found⟩ := Pool.isClosed_eq_false_iff.mp opened
      have kept := held pool rfl (Pool.openCount_pos found)
      exact ⟨_, .direct found ⟨mapped, ⟨position, there⟩, sound, kept⟩⟩
  | @buffered pool position charted there =>
      obtain ⟨cursor, found⟩ := Pool.isClosed_eq_false_iff.mp opened
      cases orderly with
      | buffered orderly => exact ⟨_, .buffered found orderly ⟨charted, there, sound⟩⟩

theorem Looks.only_of_comesTo {body : Body σ} {before : Outlook}
    (looks : body.Looks chart stands index before) {whole : List UInt8} {terminal : Terminal}
    (comes : body.ComesTo index whole terminal) : before.Only whole terminal := by
  rcases comes with readsOut | ⟨latest, streamsOut⟩
  · exact looks.only_of_readsOut readsOut
  · have noted : (⟨body, latest⟩ : Noted σ).body.Looks chart stands index before := looks
    exact looks.only_of_readsOut (noted.readsOut_of_streamsOut streamsOut)

/-- Whatever was asked of a new body before, if what its copies share is not poisoned and its source
has at each position what it has there: where some loop of reads of an open copy comes to these
bytes and this end, every such loop does, and reading out writes these bytes and no others to any
willing sink and reports that end.  A buffered body needs room in memory for as many bytes. -/
theorem afterRun_new_pours {υ : Type} [Sink υ] {willing : τ → Prop} {content : τ → List UInt8}
    (sinks : Sink.Willing willing content) {begun : Body σ} (new : New begun)
    (uses : List (Use σ υ)) (charted : (begun.afterRun uses).Charted chart stands)
    (sound : (begun.afterRun uses).spoiled = false)
    (opened : (begun.afterRun uses).isClosed index = false) {whole : List UInt8}
    {terminal : Terminal} (comes : (begun.afterRun uses).ComesTo index whole terminal)
    (affords : (begun.afterRun uses).Affords index whole.length) :
    (∀ bytes met, (begun.afterRun uses).ComesTo index bytes met →
        bytes = whole ∧ met = terminal) ∧
      ∀ sink, willing sink →
        Pours content whole terminal sink index ((begun.afterRun uses).writeTo index sink) := by
  obtain ⟨buffer, asks, came⟩ := comes.exists_came
  obtain ⟨before, looks⟩ := charted.exists_looks new uses sound opened asks came
  have only := looks.only_of_comesTo comes
  have holds : before whole terminal := (only whole terminal).mpr ⟨rfl, rfl⟩
  refine ⟨fun bytes met other => ?_, fun sink ready =>
    looks.pours sinks holds affords ready⟩
  exact (only bytes met).mp ((looks.only_of_comesTo other bytes met).mpr ⟨rfl, rfl⟩)

/-- A device that interrupts a read, gives its bytes by twos and fails at the sixth, and a tape of
which a copy has three bytes left: what reads into buffers of any sizes come to, a sink that takes
three bytes at most is given. -/
theorem afterRun_new_pours_of_failing :
    let content (gauge : Gauge) : List UInt8 := gauge.content.data.toList
    let gauge : Gauge := { script := [.atMost 1], chunk := some 3 }
    let device : Device :=
      { content := ⟨#[1, 2, 3, 4, 5, 6]⟩
        chunk := some 2
        failAt := some 5
        reads := [.fault ⟨.interrupted, .plain⟩] }
    let tape : Tape := { content := ⟨#[1, 2, 3, 4, 5, 6]⟩ }
    let begun : List (Use Device Gauge) := [.read 0 (.fresh 1)]
    let onTape : List (Use Tape Gauge) := [.read 0 (.fresh 1)]
    Pours content [2, 3, 4, 5] (.failed device.fault) gauge 0
        (((overSequence device none 4).afterRun begun).writeTo 0 gauge) ∧
      Pours content [3, 4, 5] .ended gauge 0
        (((overDirect tape .addressed 1 4).afterRun onTape).writeTo 0 gauge) := by
  intro content gauge device tape begun onTape
  have ready : gauge.Ready := ⟨List.forall_mem_singleton.mpr Nat.one_pos, by decide⟩
  constructor
  · let pool := (Buffered.fresh device none 4).afterRun begun
    have body_eq : (overSequence device none 4).afterRun begun = .buffered pool :=
      afterRun_buffered _ _
    have plays : Device.Plays (.failed device.fault) (([1, 2, 3, 4, 5] : List UInt8).drop 2)
        pool.record.custody.source := by
      have spent : pool.record.custody.source.reads = [] := by decide +kernel
      exact ⟨by rw [spent]; exact nofun, by decide +kernel, by decide +kernel, by decide +kernel,
        by decide +kernel, by decide +kernel⟩
    have charted := Charted.of_sequential (Device.sequential_plays (.failed device.fault))
      (fun plays asks => plays.stays asks) plays
    have comes : (Body.buffered pool).ReadsOut 0 [2, 3, 4, 5] (.failed device.fault) :=
      @ReadsOut.gave _ _ 0 _ (.fresh 3) ⟨#[2, 3, 4]⟩ [5] _ (by decide) (by decide +kernel)
        (@ReadsOut.gave _ _ 0 _ (.fresh 9) ⟨#[5]⟩ [] _ (by decide) (by decide +kernel)
          (@ReadsOut.met _ _ 0 _ (.fresh 2) _ (by decide) (by decide +kernel)))
    have affords : (Body.buffered pool).Affords 0 4 := by
      rintro _ cursor ⟨⟩ found
      have here : pool.cursor? 0 = some ⟨1, none⟩ := by decide +kernel
      obtain rfl := Option.some.inj (here.symm.trans found)
      exact Or.inl (by decide +kernel)
    have pours := afterRun_new_pours Gauge.willing_ready (.overSequence device none 4) begun
      (body_eq ▸ charted) (by decide +kernel) (by decide +kernel) (.inl (body_eq ▸ comes))
      (body_eq ▸ affords)
    exact pours.2 gauge ready
  · let pool := (Direct.fresh tape .addressed 1 4).afterRun onTape
    have body_eq : (overDirect tape .addressed 1 4).afterRun onTape = .direct pool :=
      afterRun_direct _ _
    have addressed : pool.record.access = .addressed := by decide +kernel
    have addressable : tape.content.size ≤ maxOffset + 1 := by decide
    have charted : (Body.direct pool).Charted (Chart.ofStream tape.content.data.toList .ended)
        fun _ next => next.content = tape.content :=
      @Charted.direct _ _ _ _ pool 0 (addressed ▸ Tape.mapped addressable) (by decide +kernel)
    have comes : (Body.direct pool).ReadsOut 0 [3, 4, 5] .ended :=
      @ReadsOut.gave _ _ 0 _ (.fresh 2) ⟨#[3, 4]⟩ [5] _ (by decide) (by decide +kernel)
        (@ReadsOut.gave _ _ 0 _ (.fresh 7) ⟨#[5]⟩ [] _ (by decide) (by decide +kernel)
          (@ReadsOut.met _ _ 0 _ (.fresh 1) _ (by decide) (by decide +kernel)))
    have affords : (Body.direct pool).Affords 0 3 := by
      rintro _ _ ⟨⟩
    have pours := afterRun_new_pours Gauge.willing_ready (.overDirect tape .addressed 1 4) onTape
      (body_eq ▸ charted) (by decide +kernel) (by decide +kernel) (.inl (body_eq ▸ comes))
      (body_eq ▸ affords)
    exact pours.2 gauge ready

end Body

end Payload
