import Payload.Proofs.Arrival
import Payload.Proofs.Rounds

/-!
# Loops of reads come to an end

A read that is asked for bytes gives some, or says why not, so a loop of such reads stops after no
more of them than there are bytes to come, and one.  A read that never comes back is the source's
doing, or that of a window without room for so much, or that of a sink that has claimed more of the
bytes in memory than there are.
-/

namespace Payload

open Relation

variable {σ τ : Type} [Source σ] [Sink τ] {good : σ → Prop}

/-! ## What a read breaks off for -/

/-- Calls to this source lead to one that breaks off, or claims more than it was asked for. -/
def Source.LeadsAstray (source : σ) : Prop :=
  ∃ last, ReflTransGen Source.Works source last ∧ Source.Strays last

namespace Direct

/-- A question that is not answered is the source's doing. -/
theorem leadsAstray_of_settles {direct : Direct σ} {operation : Operation} {buffer : Buffer}
    {want position left : Nat} (more : left ≠ 0) {out : Reply ByteArray × Direct σ}
    (settles : Settles operation buffer want position left direct out) (broke : out.1 = .broke) :
    Source.LeadsAstray direct.custody.source := by
  cases settles with
  | exhausted spent => exact absurd spent more
  | gave => cases broke
  | failed => cases broke
  | refused => cases broke
  | absurd asked excess =>
      rcases ask_eq_done asked with ⟨-, reading, -⟩ | ⟨stands, source, -, sought, reading, -⟩
      · exact ⟨_, .refl, .overclaimsAt reading.symm excess⟩
      · exact ⟨_, .single (Source.works_of_seek sought), .overclaims reading.symm excess⟩
  | broke asked =>
      rcases ask_eq_done asked with ⟨-, reading, -⟩ | ⟨stands, source, -, sought, reading, -⟩
      · exact ⟨_, .refl, .readAt reading.symm⟩
      · exact ⟨_, .single (Source.works_of_seek sought), .read reading.symm⟩
  | lost asked =>
      obtain ⟨-, source, sought, -⟩ := ask_eq_broke asked
      exact ⟨_, .refl, .seek (congrArg Prod.fst sought)⟩

/-- A read from a patient source breaks off only where the source does not keep to the rules. -/
theorem leadsAstray_of_read (patient : Source.Patient good) {direct : Direct σ}
    (fine : good direct.custody.source) {buffer : Buffer} {cursor : Cursor}
    (broke : (direct.read buffer cursor).reply = .broke) :
    Source.LeadsAstray direct.custody.source := by
  have reads := reads buffer direct cursor
  generalize direct.read buffer cursor = turn at reads broke
  cases reads with
  | ended => cases broke
  | nothing => cases broke
  | past => cases broke
  | dry => cases broke
  | gave => cases broke
  | failed => cases broke
  | broke going asks within fetched =>
      have came := congrArg Prod.fst fetched
      unfold fetch at came
      dsimp only at came
      split at came
      · cases came
      · obtain ⟨left, last, more, -, -, reached, settles⟩ :=
          exists_settles patient buffer (I := fun _ => True) (fun _ _ _ _ _ _ _ => trivial) fine
            trivial (Nat.lt_succ_self _)
        obtain ⟨astray, works, strays⟩ := leadsAstray_of_settles more settles came
        exact ⟨astray, reached.trans works, strays⟩

end Direct

namespace Buffered

/-- A window that is to be filled has no room, or its source does not keep to the rules. -/
theorem leadsAstray_of_thwarted (patient : Source.Patient good) {record : Buffered σ}
    (fine : good record.custody.source) {shortfall : Nat} (thwarted : Thwarted record shortfall) :
    maxAllocation < record.window.size + (record.order shortfall).1 ∨
      Source.LeadsAstray record.custody.source := by
  obtain ⟨last, -, reached, same, -⟩ := patient.exists_readSteady_eq
    (record.order shortfall).1
    (I := fun last => ReflTransGen Source.Works record.custody.source last)
    (fun _ reached _ _ => reached.tail (.read _)) _ fine .refl (Nat.lt_succ_self _)
  have answer : record.answer shortfall = (Source.read (record.order shortfall).1 last).1 :=
    congrArg Prod.fst same
  cases thwarted with
  | crowded overflow => exact Or.inl overflow
  | broke ordered broke => exact Or.inr ⟨last, reached, .read (answer.symm.trans broke)⟩
  | overclaimed ordered answered excess =>
      exact Or.inr ⟨last, reached, .overclaims (answer.symm.trans answered) excess⟩

end Buffered

/-! ## What is left of a body of known length -/

/-- To move past bytes that were left leaves as many fewer. -/
theorem Cursor.remaining_le {length count : Nat} {cursor next : Cursor}
    (going : cursor.ended = false) (moved : next.offset = cursor.offset + count)
    (within : count ≤ length - cursor.offset) :
    count + next.remaining length ≤ cursor.remaining length := by
  rw [remaining, remaining, going, if_neg Bool.false_ne_true]
  split <;> omega

theorem Memory.remaining_read {want : Nat} {data : ByteArray} {cursor : Cursor} {bytes : ByteArray}
    (done : (read want data cursor).reply = .done bytes) :
    bytes.size + (read want data cursor).cursor.remaining data.size ≤
      cursor.remaining data.size := by
  have moved := (advances_read want data cursor).moves bytes done
  have reads := reads want data cursor
  generalize read want data cursor = turn at reads done moved ⊢
  cases reads with
  | ended => cases done
  | overrun => cases done
  | spent => cases done
  | nothing going =>
      cases done
      exact Cursor.remaining_le going moved (Nat.zero_le _)
  | gave going asks within =>
      cases done
      refine Cursor.remaining_le going moved ?_
      rw [size_stretch]
      exact Nat.min_le_right _ _

theorem Direct.remaining_read {buffer : Buffer} {direct : Direct σ} {cursor : Cursor}
    {bytes : ByteArray} (done : (direct.read buffer cursor).reply = .done bytes) :
    bytes.size + (direct.read buffer cursor).cursor.remaining direct.length ≤
      cursor.remaining direct.length := by
  have reads := reads buffer direct cursor
  have moved := reads.advances.moves bytes done
  generalize direct.read buffer cursor = turn at reads done moved ⊢
  cases reads with
  | ended => cases done
  | past => cases done
  | dry => cases done
  | failed => cases done
  | broke => cases done
  | nothing going =>
      cases done
      exact Cursor.remaining_le going moved (Nat.zero_le _)
  | gave going asks within fetched =>
      cases done
      exact Cursor.remaining_le going moved
        (Nat.le_trans (size_le_of_fetch fetched) (Nat.min_le_right _ _))

/-- A known length stays, and no copy gets beyond it. -/
theorem Buffered.remaining_read {pool : Pool (engine σ)} (orderly : Orderly pool) {index left : Nat}
    {cursor : Cursor} (found : pool.cursor? index = some cursor)
    (known : pool.record.remaining cursor = some left) {want : Nat} {bytes : ByteArray}
    (done : (pool.record.read want cursor).reply = .done bytes) :
    ∃ fewer, (pool.record.read want cursor).record.remaining
        (pool.record.read want cursor).cursor = some fewer ∧ bytes.size + fewer ≤ left := by
  have moved := (orderly.advances found want).moves bytes done
  have step : Step (fun _ => True) pool _ := .read found (orderly.reads found want)
  have next := orderly.step step
  have here := Pool.cursor?_put_self found (pool.record.read want cursor).record
    (pool.record.read want cursor).cursor
  have inside := (next.balanced.tidy (Pool.openCount_pos here)).within _
    (next.balanced.standing here)
  have going : cursor.terminal = none := by
    cases met : cursor.terminal with
    | none => rfl
    | some terminal =>
        rw [read, met] at done
        cases done
  rw [remaining, going] at known
  obtain ⟨length, length_eq, rfl⟩ := Option.map_eq_some_iff.mp known
  have same : (pool.record.read want cursor).record.length = some length :=
    step.length_of_known length_eq
  have within := next.measured.within length same
  change (pool.record.read want cursor).cursor.offset ≤
    (pool.record.read want cursor).record.window.stop at inside
  change (pool.record.read want cursor).record.window.stop ≤ length at within
  unfold remaining
  split
  · exact ⟨0, rfl, by omega⟩
  · rw [same]
    exact ⟨length - (pool.record.read want cursor).cursor.offset, rfl, by omega⟩

namespace Body

/-- A read leaves such a body. -/
theorem Fit.use_read (patient : Source.Patient good) {body : Body σ} (fit : body.Fit good)
    (index : Nat) (buffer : Buffer) : (body.use (.read index buffer : Use σ τ)).2.Fit good := by
  cases fit with
  | memory pool => exact .memory _
  | @direct pool fine =>
      rw [use_direct]
      refine .direct ?_
      cases found : pool.cursor? index with
      | none => rwa [Pool.record_use_of_closed (show _ = none from found)]
      | some cursor =>
          rw [Pool.use_read_of_open found]
          exact patient.worked fine (Direct.reads buffer pool.record cursor).served.works
  | @buffered pool orderly fine =>
      rw [use_buffered]
      cases found : pool.cursor? index with
      | none =>
          refine .buffered (orderly.afterRun [(.read index buffer : Use σ τ)]) ?_
          rwa [Pool.record_use_of_closed (show _ = none from found)]
      | some cursor =>
          refine .buffered (orderly.afterRun [(.read index buffer : Use σ τ)]) ?_
          rw [Pool.use_read_of_open found]
          exact patient.worked fine (orderly.reads found buffer.size).works

theorem Fit.afterReads (patient : Source.Patient good) {body : Body σ} (fit : body.Fit good)
    (index : Nat) (buffers : List Buffer) :
    (body.afterRun (buffers.map (Use.read index : Buffer → Use σ τ))).Fit good := by
  refine runAll_keeps (fun use member current fit => ?_) fit
  obtain ⟨buffer, -, rfl⟩ := List.mem_map.mp member
  exact fit.use_read patient index buffer

/-- There may be no room in the window for what a read asks for, in whole blocks. -/
def Crowded (body : Body σ) (index want : Nat) : Prop :=
  ∃ pool cursor, body = .buffered pool ∧ pool.cursor? index = some cursor ∧
    maxAllocation + 1 <
      cursor.offset - pool.record.window.start + want + pool.record.blockSize

/-- A sink has carried the copy past the bytes in memory. -/
def Overrun (body : Body σ) (index : Nat) : Prop :=
  ∃ pool cursor, body = .memory pool ∧ pool.cursor? index = some cursor ∧
    Memory.Overrun pool.record cursor

/-- What a read that never comes back is put down to. -/
def Thwarts (body : Body σ) (index want : Nat) : Prop :=
  body.Overrun index ∨ body.Crowded index want ∨
    ∃ source, body.source? = some source ∧ Source.LeadsAstray source

theorem Fit.thwarts_of_broke (patient : Source.Patient good) {body : Body σ}
    (fit : body.Fit good) {index : Nat} {buffer : Buffer}
    (broke : (body.read index buffer).reply = .broke) : body.Thwarts index buffer.size := by
  cases fit with
  | memory pool =>
      obtain ⟨cursor, found, broke⟩ := Pool.exists_open_of_act broke nofun
      exact Or.inl ⟨pool, cursor, rfl, found, (Memory.reply_read_eq_broke_iff.mp broke).2⟩
  | @direct pool fine =>
      obtain ⟨cursor, found, broke⟩ := Pool.exists_open_of_act broke nofun
      exact Or.inr (.inr ⟨_, rfl, Direct.leadsAstray_of_read patient fine broke⟩)
  | @buffered pool orderly fine =>
      obtain ⟨cursor, found, -⟩ := Pool.exists_open_of_act broke nofun
      obtain ⟨-, -, -, short, thwarted⟩ :=
        (Buffered.reply_read_eq_broke_iff orderly.balanced found buffer).mp broke
      rcases Buffered.leadsAstray_of_thwarted patient fine thwarted with overflow | astray
      · refine Or.inr (.inl ⟨pool, cursor, rfl, found, ?_⟩)
        have ordered := Buffered.order_le pool.record
          (cursor.offset + buffer.size - pool.record.window.stop)
        have tidy := orderly.balanced.tidy (Pool.openCount_pos found)
        have above := tidy.start_le (orderly.balanced.standing found)
        have inside := tidy.within _ (orderly.balanced.standing found)
        have blocks := orderly.blocks
        have sum : pool.record.window.stop = pool.record.window.start + pool.record.window.size :=
          rfl
        omega
      · exact Or.inr (.inr ⟨_, rfl, astray⟩)

/-- Sinks that take no more than they are offered carry no copy past the bytes in memory. -/
theorem New.not_overrun {modest : τ → Prop} (sinks : Sink.Modest modest) {begun : Body σ}
    (new : New begun) {uses : List (Use σ τ)} (pours : ∀ use ∈ uses, use.Pours modest)
    (index : Nat) : ¬(begun.afterRun uses).Overrun index := by
  rintro ⟨pool, cursor, left, found, -, past⟩
  have there : (begun.afterRun uses).place? index = some (cursor, pool.record.size) := by
    rw [left]
    exact congrArg (Option.map fun cursor => (cursor, pool.record.size)) found
  exact Nat.not_le.mpr past (inside_afterRun sinks new pours there)

/-! ## Loops of reads -/

/-- Reads of a copy that all give bytes give no more than so many. -/
def AtMost (τ : Type) [Sink τ] (body : Body σ) (index bound : Nat) : Prop :=
  ∀ buffers pieces, body.Gave τ index buffers pieces → byteCount pieces ≤ bound

/-- Reads of a copy all give bytes, or one of them is the first that does not. -/
theorem gave_or_stops (body : Body σ) (index : Nat) (buffers : List Buffer) :
    (∃ pieces, body.Gave τ index buffers pieces) ∨
      ∃ first buffer later pieces, buffers = first ++ buffer :: later ∧
        body.Gave τ index first pieces ∧
        ∀ bytes, ((body.afterRun (first.map (Use.read index : Buffer → Use σ τ))).read index
          buffer).reply ≠ .done bytes := by
  induction buffers generalizing body with
  | nil => exact Or.inl ⟨[], rfl⟩
  | cons buffer buffers ih =>
      by_cases gives : ∃ bytes, (body.read index buffer).reply = .done bytes
      · obtain ⟨bytes, done⟩ := gives
        rcases ih (body.use (.read index buffer : Use σ τ)).2 with
          ⟨pieces, gave⟩ | ⟨first, other, later, pieces, rfl, gave, stops⟩
        · exact Or.inl ⟨bytes :: pieces, gave_cons_iff.mpr ⟨bytes, pieces, rfl, done, gave⟩⟩
        · exact Or.inr ⟨buffer :: first, other, later, bytes :: pieces, rfl,
            gave_cons_iff.mpr ⟨bytes, pieces, rfl, done, gave⟩, stops⟩
      · exact Or.inr ⟨[], buffer, buffers, [], rfl, rfl, fun bytes done => gives ⟨bytes, done⟩⟩

/-- What a read gives was left to the copy before. -/
theorem Orderly.remaining_read {body : Body σ} (orderly : body.Orderly) {index left : Nat}
    (known : body.remaining index = some left) {buffer : Buffer} {bytes : ByteArray}
    (done : (body.read index buffer).reply = .done bytes) :
    ∃ fewer, (body.use (.read index buffer : Use σ τ)).2.remaining index = some fewer ∧
      bytes.size + fewer ≤ left := by
  cases orderly with
  | memory pool =>
      obtain ⟨cursor, found, done⟩ := Pool.exists_open_of_act done nofun
      have left_eq := (Pool.remaining_of_open found).symm.trans known
      have inside := Memory.not_overrun_of_remaining left_eq
      rw [Memory.remaining_eq inside] at left_eq
      have still : ¬Memory.Overrun (Memory.read buffer.size pool.record cursor).record
          (Memory.read buffer.size pool.record cursor).cursor := by
        rw [Memory.record_read]
        exact Memory.not_overrun_read inside
      rw [use_memory, Pool.use_read_of_open found]
      refine ⟨_, (Pool.remaining_of_open (Pool.cursor?_put_self found _ _)).trans
        (Memory.remaining_eq still), ?_⟩
      rw [← Option.some.inj left_eq]
      change _ + Cursor.remaining (Memory.read buffer.size pool.record cursor).record.size _ ≤ _
      rw [Memory.record_read]
      exact Memory.remaining_read done
  | direct pool =>
      obtain ⟨cursor, found, done⟩ := Pool.exists_open_of_act done nofun
      have left_eq := (Pool.remaining_of_open found).symm.trans known
      rw [use_direct, Pool.use_read_of_open found]
      refine ⟨_, Pool.remaining_of_open (Pool.cursor?_put_self found _ _), ?_⟩
      rw [← Option.some.inj left_eq]
      change _ + Cursor.remaining (pool.record.read buffer cursor).record.length _ ≤ _
      rw [(Direct.reads buffer pool.record cursor).served.length]
      exact Direct.remaining_read done
  | @buffered pool orderly =>
      obtain ⟨cursor, found, done⟩ := Pool.exists_open_of_act done nofun
      have left_eq := (Pool.remaining_of_open found).symm.trans known
      rw [use_buffered, Pool.use_read_of_open found]
      obtain ⟨fewer, still, within⟩ := Buffered.remaining_read orderly found left_eq done
      exact ⟨fewer, (Pool.remaining_of_open (Pool.cursor?_put_self found _ _)).trans still, within⟩

/-- No more bytes are to come than a copy says it has left. -/
theorem Orderly.atMost_remaining {body : Body σ} (orderly : body.Orderly) {index left : Nat}
    (known : body.remaining index = some left) : body.AtMost τ index left := by
  intro buffers
  induction buffers generalizing body left with
  | nil =>
      intro pieces gave
      obtain rfl : pieces = [] := List.map_eq_nil_iff.mp gave.symm
      exact Nat.zero_le _
  | cons buffer buffers ih =>
      intro pieces gave
      obtain ⟨bytes, rest, rfl, done, later⟩ := gave_cons_iff.mp gave
      obtain ⟨fewer, still, within⟩ := orderly.remaining_read (τ := τ) known done
      have others := ih (orderly.afterRun [(.read index buffer : Use σ τ)]) still rest later
      simp only [byteCount_cons] at others ⊢
      omega

/-- Of the reads into these buffers no more than so many give bytes before the first that does
not. -/
def StopsWithin (τ : Type) [Sink τ] (body : Body σ) (index bound : Nat) (buffers : List Buffer) :
    Prop :=
  ∃ first buffer later pieces, buffers = first ++ buffer :: later ∧ first.length ≤ bound ∧
    body.Gave τ index first pieces ∧
    let stopped := body.afterRun (first.map (Use.read index : Buffer → Use σ τ))
    (∀ bytes, (stopped.read index buffer).reply ≠ .done bytes) ∧
      ((stopped.read index buffer).reply = .broke → stopped.Thwarts index buffer.size)

theorem Fit.stopsWithin (patient : Source.Patient good) {body : Body σ} (fit : body.Fit good)
    {index bound : Nat} (atMost : body.AtMost τ index bound) {buffers : List Buffer}
    (asks : ∀ buffer ∈ buffers, 0 < buffer.size) (more : bound < buffers.length) :
    body.StopsWithin τ index bound buffers := by
  rcases body.gave_or_stops (τ := τ) index buffers with
    ⟨pieces, gave⟩ | ⟨first, buffer, later, pieces, rfl, gave, stops⟩
  · have all := fit.orderly.length_le asks gave
    have most := atMost buffers pieces gave
    omega
  · have some := fit.orderly.length_le
      (fun other member => asks other (List.mem_append_left _ member)) gave
    have most := atMost first pieces gave
    exact ⟨first, buffer, later, pieces, rfl, by omega, gave, stops,
      (fit.afterReads patient index first).thwarts_of_broke patient⟩

/-- What a byte stream takes for the end is the end, if it asked for any bytes. -/
theorem Orderly.streamRead_ends_iff {body : Body σ} (orderly : body.Orderly) (index : Nat)
    {want : Nat} (asks : 0 < want) (latest : List Note) :
    (∃ bytes, (streamRead index want ⟨body, latest⟩).1 = .done bytes ∧ bytes.size = 0) ↔
      ∃ error, (body.read index (.fresh want)).reply = .failed error ∧ error.isEnd = true := by
  have sized (bytes : ByteArray) (done : (body.read index (.fresh want)).reply = .done bytes) :
      0 < bytes.size :=
    (orderly.size_read done).1 asks
  change (∃ bytes, (body.read index (.fresh want)).reply.asStream = .done bytes ∧ _) ↔ _
  cases came : (body.read index (.fresh want)).reply with
  | done bytes =>
      have some_bytes := sized bytes came
      simp only [Reply.asStream]
      constructor
      · rintro ⟨_, ⟨⟩, nothing⟩
        omega
      · rintro ⟨_, ⟨⟩, -⟩
  | broke => simp [Reply.asStream]
  | failed error =>
      simp only [Reply.asStream]
      split
      · rename_i ends
        exact iff_of_true ⟨.empty, rfl, rfl⟩ ⟨error, rfl, ends⟩
      · rename_i further
        simp [further]

/-! ## Every state -/

/-- Whatever was asked of a new body before, if its source then interrupts no more often than it
announces: a read that is asked for bytes gives at least one and no more than that, and comes back,
unless the source strays, the window has no room, or an earlier sink claimed more of the bytes in
memory than there were; what a byte stream takes for the end is the end.  Where no more than so many
bytes are to come, and there are no more than the copy says it has left, every longer loop of reads
stops at one that gives none, after no more than so many that do; and so does reading the copy out,
piece by piece. -/
theorem afterRun_new_terminates (patient : Source.Patient good) {begun : Body σ}
    (new : New begun) (uses : List (Use σ τ))
    (fine : ∀ source, (begun.afterRun uses).source? = some source → good source) (index : Nat) :
    let body := begun.afterRun uses
    (∀ buffer : Buffer, 0 < buffer.size →
      (∀ bytes, (body.read index buffer).reply = .done bytes →
          1 ≤ bytes.size ∧ bytes.size ≤ buffer.size) ∧
        ((body.read index buffer).reply = .broke → body.Thwarts index buffer.size)) ∧
      (∀ modest : τ → Prop, Sink.Modest modest → (∀ use ∈ uses, use.Pours modest) →
        ¬body.Overrun index) ∧
      (∀ want latest, 0 < want →
        ((∃ bytes, (streamRead index want ⟨body, latest⟩).1 = .done bytes ∧ bytes.size = 0) ↔
          ∃ error, (body.read index (.fresh want)).reply = .failed error ∧
            error.isEnd = true)) ∧
      (∀ left, body.remaining index = some left → body.AtMost τ index left) ∧
      ∀ bound, body.AtMost τ index bound →
        (∀ buffers : List Buffer, (∀ buffer ∈ buffers, 0 < buffer.size) →
          bound < buffers.length → body.StopsWithin τ index bound buffers) ∧
        ∀ (sink : τ) (block : Nat), body.isClosed index = false →
          body.scratch? index = some block → block ≤ maxAllocation →
          ∃ buffers final pieces reply,
            WritesOut (fun buffers => body.run (buffers.map (Use.read index : Buffer → Use σ τ)))
              block sink buffers final pieces reply (body.writeTo index sink) ∧
            buffers.length ≤ bound := by
  intro body
  have orderly : body.Orderly := new.orderly.afterRun uses
  have fit : body.Fit good := orderly.fit fine
  refine ⟨fun buffer asks => ⟨fun bytes done => ?_, fit.thwarts_of_broke patient⟩,
    fun modest sinks pours => new.not_overrun sinks pours index,
    fun want latest asks => orderly.streamRead_ends_iff index asks latest,
    fun left => orderly.atMost_remaining, fun bound atMost =>
    ⟨fun buffers => fit.stopsWithin patient atMost, fun sink block opened cuts fits =>
      orderly.exists_writesOut (fun buffers pieces _ => atMost buffers pieces) opened cuts fits
        sink⟩⟩
  obtain ⟨some_bytes, within⟩ := orderly.size_read done
  exact ⟨some_bytes asks, within⟩

/-- A device that interrupts a read and then cuts one short has four bytes left: of five reads one
gives nothing, and reading out comes to its end. -/
theorem afterRun_new_terminates_of_interrupted :
    let device : Device :=
      { content := ⟨#[1, 2, 3, 4, 5]⟩
        reads := [.plain, .fault ⟨.interrupted, .plain⟩, .atMost 1] }
    let body := (overSequence device (some 5) 2).afterRun
      ([.read 0 (.fresh 1)] : List (Use Device Gauge))
    body.StopsWithin Gauge 0 4 (List.replicate 5 (.fresh 1)) ∧
      ∃ buffers final pieces reply,
        WritesOut (fun buffers => body.run (buffers.map (Use.read 0 : Buffer → Use Device Gauge)))
          2 {} buffers final pieces reply (body.writeTo 0 ({} : Gauge)) ∧ buffers.length ≤ 4 := by
  intro device body
  have punctual : body.source?.all (fun device => !device.fault.interrupts) = true := by
    decide +kernel
  have fine : ∀ source, body.source? = some source → source.Punctual := fun source held => by
    simpa [Device.Punctual] using (Option.all_eq_true _ _).mp punctual source held
  obtain ⟨-, -, -, remains, bounded⟩ := afterRun_new_terminates Device.patient_punctual
    (.overSequence device (some 5) 2) ([.read 0 (.fresh 1)] : List (Use Device Gauge)) fine 0
  obtain ⟨stops, writes⟩ := bounded 4 (remains 4 (by decide +kernel))
  exact ⟨stops _ (by decide +kernel) (by decide +kernel),
    writes {} 2 (by decide +kernel) (by decide +kernel) (by decide +kernel)⟩

end Body

end Payload
