import Payload.Proofs.Closing
import Payload.Proofs.Memory
import Payload.Proofs.Pairing
import Payload.Proofs.Steering
import Payload.Reader
import Payload.Source.Restricted
import Payload.Source.Tape

/-!
# A direct body over bytes is like those bytes in memory

A direct body over a tape computes the place of each byte from its base and its length, and asks the
tape for it at a position or after having moved it there.  Where the tape itself stands makes no
difference: copies may share it, and callbacks may read and move it.  So each copy answers just as
a copy of the bytes in memory does, also when it is read and moved as a byte stream.
-/

namespace Payload

/-! ## Operations, also of a byte stream -/

/-- What can be asked of a copy, as a copy or as a byte stream. -/
inductive Deed (σ τ : Type) where
  | use (use : Use σ τ)
  | streamRead (index want : Nat)
  | streamSeek (index : Nat) (origin : Origin)

namespace Deed

variable {σ τ : Type}

/-- What comes of a deed. -/
inductive Answer (τ : Type) where
  | receipt (receipt : Receipt τ)
  | stream (outcome : Outcome Failure ByteArray)
  | place (outcome : Outcome Failure Nat)

/-- The use that a byte stream makes of its copy. -/
def asUse : Deed σ τ → Use σ τ
  | use asked => asked
  | streamRead index want => .read index (.fresh want)
  | streamSeek index origin => .seek index origin.split.1 origin.split.2

/-- What a byte stream makes of what came of its use. -/
def answer : Deed σ τ → Receipt τ → Answer τ
  | streamRead _ _, .bytes reply => .stream reply.asStream
  | streamSeek _ _, .position reply => .place (reply.mapFailure .wrapped)
  | _, receipt => .receipt receipt

end Deed

namespace Body

variable {σ τ : Type} [Source σ] [Sink τ]

/-- Do one thing to a copy. -/
def perform (body : Body σ) : Deed σ τ → Deed.Answer τ × Body σ
  | .use use =>
    let step := body.use use
    (.receipt step.1, step.2)
  | .streamRead index want =>
    let step := streamRead index want ⟨body, []⟩
    (.stream step.1, step.2.body)
  | .streamSeek index origin =>
    let step := body.seekStream index origin
    (.place step.1, step.2.body)

theorem perform_eq (body : Body σ) (deed : Deed σ τ) :
    body.perform deed =
      (deed.answer (body.use deed.asUse).1, (body.use deed.asUse).2) := by
  cases deed <;> rfl

/-- Do one thing after the other. -/
def afterDeeds (deeds : List (Deed σ τ)) (body : Body σ) : Body σ :=
  (runAll perform deeds body).2

end Body

/-! ## Tapes as direct bodies have them -/

/-- A stretch of a stretch is a stretch of the whole. -/
theorem stretch_stretch (data : ByteArray) {base length offset : Nat} (inside : offset ≤ length)
    (want : Nat) :
    stretch (stretch data base length) offset want =
      stretch data (base + offset) (min want (length - offset)) := by
  have stop : min (base + (offset + want)) (base + length) =
      base + offset + min want (length - offset) := by
    omega
  rw [stretch, stretch, stretch, ByteArray.extract_extract, stop]

namespace Tape

/-- A tape of these bytes, wherever it stands: handed over whole and read at positions, or handed
over to be moved and read. -/
inductive Handed (data : ByteArray) : Restricted Tape → Access → Prop where
  | whole (position : Nat) : Handed data ⟨⟨data, position⟩, .everything⟩ .addressed
  | seeking (position : Nat) : Handed data ⟨⟨data, position⟩, .seeking⟩ .seeking

end Tape

namespace Direct

variable {data : ByteArray} {direct : Direct (Restricted Tape)}

/-- The record has a tape of these bytes, and has it to itself. -/
structure Holds (data : ByteArray) (direct : Direct (Restricted Tape)) : Prop where
  sound : direct.custody.poisoned = false
  handed : Tape.Handed data direct.custody.source direct.access

/-- Asked at a position, the tape gives the bytes from there on. -/
theorem ask_of_holds (holds : Holds data direct) (held : direct.custody.held = true)
    (operation : Operation) (want : Nat) {position : Nat} (addressed : position ≤ maxOffset) :
    ∃ next, direct.ask operation want position =
        (.done (.done (.bytes (stretch data position want) (size_stretch_le _ _ _))), next) ∧
      Holds data next := by
  obtain ⟨⟨source, _, _⟩, access, base, length, sharers⟩ := direct
  obtain ⟨sound, handed⟩ := holds
  cases sound
  cases held
  cases handed with
  | whole stands => exact ⟨_, rfl, rfl, .whole stands⟩
  | seeking stands =>
      have there : (Origin.start position).aim? stands data.size = some position :=
        Origin.aim?_eq_some_iff.mpr ⟨rfl, addressed⟩
      refine ⟨⟨⟨⟨⟨data, position + (stretch data position want).size⟩, .seeking⟩, true, false⟩,
        .seeking, base, length, sharers⟩, ?_, rfl, .seeking _⟩
      simp only [ask, seekRead, Source.seek, Restricted.passing, Tape.seek, there]
      rfl

/-- Bytes of the body are fetched from where they are in the tape. -/
theorem fetch_of_holds (holds : Holds data direct) (held : direct.custody.held = true)
    (operation : Operation) (buffer : Buffer) (want : Nat) {offset : Nat}
    (addressed : direct.base + offset ≤ maxOffset) :
    ∃ next, direct.fetch operation buffer want offset =
        (.done (stretch data (direct.base + offset) want), next) ∧ Holds data next := by
  obtain ⟨next, asked, still⟩ := ask_of_holds holds held operation want addressed
  refine ⟨next, ?_, still⟩
  rw [fetch, if_neg (Nat.not_lt.mpr addressed), askSteady, asked]
  rfl

/-- The part of the bytes that the body consists of. -/
structure Spans (data : ByteArray) (direct : Direct (Restricted Tape)) : Prop where
  within : direct.base + direct.length ≤ data.size
  addressed : data.size ≤ maxOffset

theorem Spans.size_stretch (spans : Spans data direct) :
    (stretch data direct.base direct.length).size = direct.length := by
  have within := spans.within
  rw [Payload.size_stretch]
  omega

/-- A read turns out as in memory. -/
theorem read_of_holds (holds : Holds data direct) (spans : Spans data direct)
    (held : direct.custody.held = true) (buffer : Buffer) {cursor : Cursor}
    (inside : cursor.offset ≤ direct.length) :
    let memory := Memory.read buffer.size (stretch data direct.base direct.length) cursor
    (direct.read buffer cursor).reply = memory.reply ∧
      (direct.read buffer cursor).cursor = memory.cursor ∧
      Holds data (direct.read buffer cursor).record := by
  have within := spans.within
  have addressed := spans.addressed
  unfold read Memory.read
  rw [spans.size_stretch]
  split
  · exact ⟨rfl, rfl, holds⟩
  · split
    · exact ⟨rfl, rfl, holds⟩
    · rename_i asks
      rw [if_neg (Nat.not_lt.mpr inside)]
      by_cases spent : direct.length = cursor.offset
      · rw [if_pos (Nat.le_of_eq spent), if_pos spent]
        exact ⟨rfl, rfl, holds⟩
      · have reachable : direct.base + cursor.offset ≤ maxOffset := by omega
        obtain ⟨next, fetched, still⟩ := fetch_of_holds holds held .read buffer
          (min buffer.size (direct.length - cursor.offset)) reachable
        have size_eq : (stretch data (direct.base + cursor.offset)
            (min buffer.size (direct.length - cursor.offset))).size =
              min buffer.size (direct.length - cursor.offset) := by
          rw [Payload.size_stretch]
          omega
        rw [if_neg (show ¬direct.length ≤ cursor.offset by omega), if_neg spent]
        dsimp only
        rw [fetched, stretch_stretch data inside]
        dsimp only
        rw [size_eq, if_neg (by omega)]
        refine ⟨rfl, ?_, still⟩
        simp

/-- A read at a position turns out as in memory. -/
theorem readAt_of_holds (holds : Holds data direct) (spans : Spans data direct)
    (held : direct.custody.held = true) (buffer : Buffer) (offset : Nat) (cursor : Cursor) :
    let memory := Memory.readAt buffer.size offset (stretch data direct.base direct.length) cursor
    (direct.readAt buffer offset cursor).reply = memory.reply ∧
      (direct.readAt buffer offset cursor).cursor = memory.cursor ∧
      Holds data (direct.readAt buffer offset cursor).record := by
  have within := spans.within
  have addressed := spans.addressed
  unfold readAt Memory.readAt
  rw [spans.size_stretch]
  split
  · exact ⟨rfl, rfl, holds⟩
  · rename_i asks
    split
    · exact ⟨rfl, rfl, holds⟩
    · rename_i further
      have reachable : direct.base + offset ≤ maxOffset := by omega
      obtain ⟨next, fetched, still⟩ := fetch_of_holds holds held .readAt buffer
        (min buffer.size (direct.length - offset)) reachable
      have some_bytes : (stretch data (direct.base + offset)
          (min buffer.size (direct.length - offset))).size ≠ 0 := by
        rw [Payload.size_stretch]
        omega
      rw [fetched, stretch_stretch data (Nat.le_of_not_le further)]
      dsimp only
      rw [if_neg some_bytes]
      exact ⟨rfl, rfl, still⟩

/-! ## The copies -/

/-- A callback that comes back and does no more to a tape of these bytes than to move it. -/
def Gentle (data : ByteArray) (access : Access)
    (callback : Restricted Tape → Option Unit × Restricted Tape) : Prop :=
  ∀ source, Tape.Handed data source access →
    (callback source).1 ≠ none ∧ Tape.Handed data (callback source).2 access

/-- A record that serves its copies as it should: it has its tape for as long as a copy is open. -/
structure Serves (data : ByteArray) (access : Access) (base length : Nat)
    (pool : Pool (engine (Restricted Tape))) : Prop where
  holds : Holds data pool.record
  access : pool.record.access = access
  base : pool.record.base = base
  length : pool.record.length = length
  counted : pool.record.sharers = pool.openCount
  held : 0 < pool.openCount → pool.record.custody.held = true

variable {τ : Type} [Sink τ] {access : Access} {base length index : Nat}
  {pool next : Pool (engine (Restricted Tape))}

theorem Serves.spans (serves : Serves data access base length pool)
    (within : base + length ≤ data.size) (addressed : data.size ≤ maxOffset) :
    Spans data pool.record where
  within := by
    rw [serves.base, serves.length]
    exact within
  addressed := addressed

/-- A copy was served from the same record, and its tape is still there. -/
theorem Serves.put (serves : Serves data access base length pool) {cursor place : Cursor}
    (found : pool.cursor? index = some cursor) {record : Direct (Restricted Tape)}
    (served : Served pool.record record) (holds : Holds data record) :
    Serves data access base length (pool.put index record place) where
  holds := holds
  access := served.access.trans serves.access
  base := served.base.trans serves.base
  length := served.length.trans serves.length
  counted := by
    rw [Pool.openCount_put found]
    exact served.sharers.trans serves.counted
  held some_open := by
    rw [Pool.openCount_put found] at some_open
    exact served.held.trans (serves.held some_open)

theorem Serves.held_of_open (serves : Serves data access base length pool) {cursor : Cursor}
    (found : pool.cursor? index = some cursor) : pool.record.custody.held = true :=
  serves.held (Pool.openCount_pos found)

theorem Serves.copy (serves : Serves data access base length pool) (index : Nat) :
    Serves data access base length (pool.copy index).state := by
  cases found : pool.cursor? index with
  | none =>
      rw [(Pool.copy_of_closed found).2]
      have same : (pool.add pool.record none).openCount = pool.openCount := by
        rw [Pool.openCount, Pool.openCount, Pool.cursors_add_none]
      obtain ⟨holds, access, base, length, counted, held⟩ := serves
      rw [← same] at counted held
      exact ⟨holds, access, base, length, counted, held⟩
  | some cursor =>
      rw [(Pool.copy_of_done found rfl).2]
      constructor
      · exact ⟨serves.holds.sound, serves.holds.handed⟩
      · exact serves.access
      · exact serves.base
      · exact serves.length
      · rw [Pool.openCount_add_some, Pool.openCount_put found, ← serves.counted]
        rfl
      · exact fun _ => serves.held_of_open found

theorem close_of_handed {source : Restricted Tape} (handed : Tape.Handed data source access) :
    Source.close source = (.done (), source) := by
  cases handed <;> rfl

/-- Closing works, and closes the tape if nobody is left. -/
theorem Serves.close (serves : Serves data access base length pool) {cursor : Cursor}
    (found : pool.cursor? index = some cursor) :
    (pool.record.close cursor).reply = .done () ∧
      Serves data access base length
        (pool.remove index (pool.record.close cursor).record) := by
  have counted := serves.counted
  have fewer (record : Direct (Restricted Tape)) := Pool.openCount_remove found record
  by_cases others : 1 < pool.record.sharers
  · rw [Direct.close, if_pos others]
    exact ⟨rfl, ⟨serves.holds.sound, serves.holds.handed⟩, serves.access, serves.base,
      serves.length, Nat.sub_eq_of_eq_add (counted.trans (fewer _).symm),
      fun _ => serves.held_of_open found⟩
  · rw [Direct.close, if_neg others]
    dsimp only
    rw [Custody.close, if_pos (serves.held_of_open found),
      close_of_handed serves.holds.handed]
    refine ⟨rfl, ⟨serves.holds.sound, serves.holds.handed⟩, serves.access, serves.base,
      serves.length, Nat.sub_eq_of_eq_add (counted.trans (fewer _).symm), fun some_open => ?_⟩
    have several := Nat.add_lt_add_right some_open 1
    rw [fewer, ← counted] at several
    exact absurd several others

/-- A gentle callback leaves the record as it should be. -/
theorem Serves.visit (serves : Serves data access base length pool) {cursor : Cursor}
    (found : pool.cursor? index = some cursor)
    {callback : Restricted Tape → Option Unit × Restricted Tape}
    (gentle : Gentle data access callback) :
    Serves data access base length
      (pool.put index { pool.record with custody := (pool.record.custody.visit callback).2 }
        cursor) := by
  have handed := serves.holds.handed
  rw [serves.access] at handed
  obtain ⟨back, still⟩ := gentle _ handed
  have visited : (pool.record.custody.visit callback).2 =
      pool.record.custody.returning false (callback pool.record.custody.source).2 := by
    rw [Custody.visit, serves.holds.sound, serves.held_of_open found]
    rcases called : callback pool.record.custody.source with ⟨_ | value, source⟩
    · rw [called] at back
      exact absurd rfl back
    · rfl
  rw [visited]
  constructor
  · constructor
    · exact Bool.or_eq_false_iff.mpr ⟨serves.holds.sound, rfl⟩
    · change Tape.Handed data (callback pool.record.custody.source).2 pool.record.access
      rw [serves.access]
      exact still
  · exact serves.access
  · exact serves.base
  · exact serves.length
  · rw [Pool.openCount_put found]
    exact serves.counted
  · exact fun _ => serves.held_of_open found

end Direct

/-! ## The copies of both bodies -/

namespace Direct

/-- A direct body over a tape, and the bytes that it consists of in memory: all copies stand at the
same places. -/
structure Mirrors (data : ByteArray) (access : Access) (base length : Nat)
    (pool : Pool (engine (Restricted Tape))) (other : Pool (Memory.engine (Restricted Tape))) :
    Prop where
  serves : Serves data access base length pool
  bytes : other.record = stretch data base length
  paired : Pool.Paired Eq pool other

variable {τ : Type} [Sink τ] {data : ByteArray} {access : Access} {base length index : Nat}
  {pool : Pool (engine (Restricted Tape))} {other : Pool (Memory.engine (Restricted Tape))}

namespace Mirrors

theorem record_eq (mirrors : Mirrors data access base length pool other) :
    other.record = stretch data pool.record.base pool.record.length := by
  rw [mirrors.serves.base, mirrors.serves.length]
  exact mirrors.bytes

theorem length_eq (mirrors : Mirrors data access base length pool other)
    (within : base + length ≤ data.size) : other.record.size = pool.record.length := by
  rw [mirrors.bytes, mirrors.serves.length, size_stretch]
  omega

/-- What a copy does is done alike, if it is served alike on the same record. -/
theorem act (mirrors : Mirrors data access base length pool other) {α : Type}
    {operation : Operation}
    {turn : Direct (Restricted Tape) → Cursor → Turn (Direct (Restricted Tape)) Cursor α}
    {turn' : ByteArray → Cursor → Turn ByteArray Cursor α}
    (kept : (other.act index operation turn').state.record = other.record)
    (alike : ∀ cursor, pool.cursor? index = some cursor →
      (turn pool.record cursor).reply = (turn' other.record cursor).reply ∧
        (turn pool.record cursor).cursor = (turn' other.record cursor).cursor ∧
        Served pool.record (turn pool.record cursor).record ∧
        Holds data (turn pool.record cursor).record) :
    (pool.act index operation turn).reply = (other.act index operation turn').reply ∧
      Mirrors data access base length (pool.act index operation turn).state
        (other.act index operation turn').state := by
  refine ⟨mirrors.paired.reply_act ?_, ?_, kept.trans mirrors.bytes, mirrors.paired.act ?_⟩
  · rintro cursor _ found there rfl
    exact (alike cursor found).1
  · cases found : pool.cursor? index with
    | none =>
        rw [(Pool.act_of_closed found _ _).2]
        exact mirrors.serves
    | some cursor =>
        obtain ⟨-, -, served, holds⟩ := alike cursor found
        rw [(Pool.act_of_open found _ _).2]
        exact mirrors.serves.put found served holds
  · rintro cursor _ found there rfl
    exact (alike cursor found).2.1

theorem close (mirrors : Mirrors data access base length pool other) (index : Nat) :
    (pool.close index).reply = (other.close index).reply ∧
      Serves data access base length (pool.close index).state := by
  constructor
  · apply mirrors.paired.reply_close
    intro cursor place found there
    exact (mirrors.serves.close found).1
  · cases found : pool.cursor? index with
    | none =>
        rw [(Pool.close_of_closed found).2]
        exact mirrors.serves
    | some cursor =>
        rw [(Pool.close_of_open found).2]
        exact (mirrors.serves.close found).2

/-- Every use leaves the copies at the same places, and answers the same unless it lends the
source, which bytes in memory do not have. -/
theorem use (mirrors : Mirrors data access base length pool other)
    (inside : Payload.Spans Direct.length length pool) (within : base + length ≤ data.size)
    (addressed : data.size ≤ maxOffset) {use : Use (Restricted Tape) τ}
    (spares : use.Spares (Gentle data access)) :
    Mirrors data access base length (pool.use use).2 (other.use use).2 ∧
      (use.Spares (fun _ => False) → (pool.use use).1 = (other.use use).1) := by
  have spans := mirrors.serves.spans within addressed
  have kept : (other.use use).2.record = other.record := by
    apply Memory.record_use
    cases use <;> trivial
  cases use with
  | read index buffer =>
      have acted := mirrors.act kept fun cursor found => by
        have read := read_of_holds mirrors.serves.holds spans
          (mirrors.serves.held_of_open found) buffer (inside.1 ▸ inside.2 index cursor found)
        rw [← mirrors.record_eq] at read
        exact ⟨read.1, read.2.1, served_read buffer _ _, read.2.2⟩
      exact ⟨acted.2, fun _ => congrArg Receipt.bytes acted.1⟩
  | readAt index buffer offset =>
      have acted := mirrors.act kept fun cursor found => by
        have read := readAt_of_holds mirrors.serves.holds spans
          (mirrors.serves.held_of_open found) buffer offset cursor
        rw [← mirrors.record_eq] at read
        exact ⟨read.1, read.2.1, served_readAt buffer offset _ _, read.2.2⟩
      exact ⟨acted.2, fun _ => congrArg Receipt.bytes acted.1⟩
  | seek index offset whence =>
      have acted : (pool.seek index offset whence).reply = (other.seek index offset whence).reply ∧
          Mirrors data access base length (pool.seek index offset whence).state
            (other.seek index offset whence).state :=
        mirrors.act kept fun cursor found => by
          have sought := cursor.seek_alike pool.record.length offset whence pool.record other.record
          change (cursor.seek pool.record.length offset whence pool.record).reply =
              (cursor.seek other.record.size offset whence other.record).reply ∧
            (cursor.seek pool.record.length offset whence pool.record).cursor =
              (cursor.seek other.record.size offset whence other.record).cursor ∧
            Served pool.record
              (cursor.seek pool.record.length offset whence pool.record).record ∧
            Holds data (cursor.seek pool.record.length offset whence pool.record).record
          rw [mirrors.length_eq within, record_seek]
          exact ⟨sought.1, sought.2, .refl _, mirrors.serves.holds⟩
      exact ⟨acted.2, fun _ => congrArg Receipt.position acted.1⟩
  | writeTo index sink => exact spares.elim
  | copy index =>
      obtain ⟨reply, paired⟩ := mirrors.paired.copy
        (fun {_} _ => ⟨rfl, rfl⟩) (fun {_} _ => ⟨rfl, rfl⟩)
      exact ⟨⟨mirrors.serves.copy index, kept.trans mirrors.bytes, paired⟩,
        fun _ => congrArg Receipt.plain reply⟩
  | close index =>
      obtain ⟨reply, serves⟩ := mirrors.close index
      exact ⟨⟨serves, kept.trans mirrors.bytes, mirrors.paired.close index⟩,
        fun _ => congrArg Receipt.plain reply⟩
  | drop index =>
      obtain ⟨reply, serves⟩ := mirrors.close index
      rw [← Pool.state_drop] at serves
      exact ⟨⟨serves, kept.trans mirrors.bytes, mirrors.paired.drop index⟩,
        fun _ => congrArg Receipt.plain (mirrors.paired.reply_drop reply)⟩
  | visit index callback =>
      refine ⟨⟨?_, kept.trans mirrors.bytes, ?_⟩, False.elim⟩
      · change Serves data access base length (pool.visit index callback).state
        cases found : pool.cursor? index with
        | none =>
            rw [(Pool.visit_of_closed found callback).2]
            exact mirrors.serves
        | some cursor =>
            rw [(Pool.visit_of_open found callback).2]
            exact mirrors.serves.visit found spares
      · exact mirrors.paired.visit (fun {_} _ => rfl) (fun {_} _ => rfl)

end Mirrors

theorem mirrors_fresh {source : Restricted Tape} (handed : Tape.Handed data source access)
    (base length : Nat) :
    Mirrors data access base length
      ⟨{ custody := { source }, access, base, length }, [some {}]⟩
      ⟨stretch data base length, [some {}]⟩ where
  serves := ⟨⟨rfl, handed⟩, rfl, rfl, rfl, rfl, fun _ => rfl⟩
  bytes := rfl
  paired := ⟨rfl, fun index => by
    cases index with
    | zero => exact .some rfl
    | succ index => exact .none⟩

end Direct

/-! ## The bodies -/

namespace Body

variable {τ : Type} [Sink τ] {data : ByteArray} {source : Restricted Tape} {access : Access}
  {base length : Nat}

/-- Two bodies whose copies stand at the same places within them. -/
inductive Mirrored (data : ByteArray) (access : Access) (base length : Nat) :
    Body (Restricted Tape) → Body (Restricted Tape) → Prop where
  | pools {pool : Pool (Direct.engine (Restricted Tape))}
      {other : Pool (Memory.engine (Restricted Tape))}
      (mirrors : Direct.Mirrors data access base length pool other)
      (inside : Spans Direct.length length pool) :
      Mirrored data access base length (.direct pool) (.memory other)

theorem Mirrored.perform {body other : Body (Restricted Tape)}
    (mirrored : Mirrored data access base length body other)
    (within : base + length ≤ data.size) (addressed : data.size ≤ maxOffset)
    {deed : Deed (Restricted Tape) τ} (spares : deed.asUse.Spares (Direct.Gentle data access)) :
    Mirrored data access base length (body.perform deed).2 (other.perform deed).2 ∧
      (deed.asUse.Spares (fun _ => False) → (body.perform deed).1 = (other.perform deed).1) := by
  cases mirrored with
  | @pools pool _ mirrors inside =>
      obtain ⟨still, alike⟩ := mirrors.use inside within addressed spares
      have kept : Spans Direct.length length (pool.use deed.asUse).2 :=
        inside.use Direct.steers Sink.modest_none (spares.pours _)
      rw [perform_eq, perform_eq, use_direct, use_memory]
      exact ⟨.pools still kept, fun plain => congrArg deed.answer (alike plain)⟩

theorem Mirrored.asked {body other : Body (Restricted Tape)}
    (mirrored : Mirrored data access base length body other)
    (within : base + length ≤ data.size) (index : Nat) :
    body.remaining index = other.remaining index ∧ body.ended index = other.ended index := by
  cases mirrored with
  | @pools pool other mirrors inside =>
      have size_eq := mirrors.length_eq within
      constructor
      · apply mirrors.paired.remaining_eq
        rintro cursor _ found rfl
        have stands : cursor.offset ≤ other.record.size := by
          rw [size_eq, inside.1]
          exact inside.2 index cursor found
        rw [Direct.steers.remaining_eq _ _ fun _ => size_eq ▸ stands,
          Memory.steers.remaining_eq _ _ fun _ => stands, size_eq]
      · apply mirrors.paired.ended_eq
        rintro cursor _ rfl
        rfl

theorem Mirrored.afterDeeds {body other : Body (Restricted Tape)}
    (mirrored : Mirrored data access base length body other)
    (within : base + length ≤ data.size) (addressed : data.size ≤ maxOffset)
    {deeds : List (Deed (Restricted Tape) τ)}
    (spares : ∀ deed ∈ deeds, deed.asUse.Spares (Direct.Gentle data access)) :
    Mirrored data access base length (body.afterDeeds deeds) (other.afterDeeds deeds) := by
  induction deeds generalizing body other with
  | nil => exact mirrored
  | cons deed rest ih =>
      apply ih
      · exact (mirrored.perform within addressed (spares deed List.mem_cons_self)).1
      · exact fun later member => spares later (List.mem_cons_of_mem _ member)

/-- Whatever was done to the copies of a direct body over a tape, and whatever callbacks did with
the tape but to change it: the body is like the bytes that it consists of in memory.  It answers
every read, also at a position, every move, every copy and every close alike, also as a byte stream,
and says the same of what is left and whether it has come to an end. -/
theorem overDirect_like_ofBytes (handed : Tape.Handed data source access)
    (within : base + length ≤ data.size) (addressed : data.size ≤ maxOffset)
    {deeds : List (Deed (Restricted Tape) τ)}
    (spares : ∀ deed ∈ deeds, deed.asUse.Spares (Direct.Gentle data access)) :
    let body := (overDirect source access base length).afterDeeds deeds
    let other := (ofBytes (stretch data base length)).afterDeeds deeds
    (∀ index, body.remaining index = other.remaining index ∧
        body.ended index = other.ended index) ∧
      ∀ deed : Deed (Restricted Tape) τ, deed.asUse.Spares (fun _ => False) →
        (body.perform deed).1 = (other.perform deed).1 := by
  intro body other
  have begun : Mirrored data access base length (overDirect source access base length)
      (ofBytes (stretch data base length)) :=
    .pools (Direct.mirrors_fresh handed base length)
      (spans_alone Direct.length _ (by rintro _ ⟨⟩; rfl))
  have mirrored : Mirrored data access base length body other :=
    begun.afterDeeds within addressed spares
  refine ⟨mirrored.asked within, fun deed plain => ?_⟩
  exact (mirrored.perform within addressed (plain.mono fun _ => False.elim)).2 plain

/-- A body of four of six bytes, over a tape that is moved before each read and that a callback has
read from: a byte stream that went back two bytes from the end reads them as from memory. -/
theorem overDirect_like_ofBytes_of_moved :
    let data : ByteArray := ⟨#[1, 2, 3, 4, 5, 6]⟩
    let source : Restricted Tape := ⟨⟨data, 6⟩, .seeking⟩
    let deeds : List (Deed (Restricted Tape) Gauge) :=
      [.use (.copy 0), .use (.read 0 (.fresh 9)),
        .use (.visit 1 fun source => (some (), (Source.read 2 source).2)),
        .streamSeek 1 (.finish (-2))]
    let body := (overDirect source .seeking 1 4).afterDeeds deeds
    let other := (ofBytes (stretch data 1 4)).afterDeeds deeds
    let last : Deed (Restricted Tape) Gauge := .streamRead 1 5
    Tape.Handed data source .seeking ∧ 1 + 4 ≤ data.size ∧ data.size ≤ maxOffset ∧
      (∀ deed ∈ deeds, deed.asUse.Spares (Direct.Gentle data .seeking)) ∧
      other.remaining 1 = some 2 ∧ body.remaining 1 = some 2 ∧ other.ended 0 = true ∧
      body.ended 0 = true ∧ (body.perform last).1 = (other.perform last).1 := by
  intro data source deeds body other last
  have handed : Tape.Handed data source .seeking := .seeking 6
  have within : 1 + 4 ≤ data.size := by decide
  have addressed : data.size ≤ maxOffset := by decide
  have gentle : Direct.Gentle data .seeking fun source => (some (), (Source.read 2 source).2) := by
    intro source handed
    cases handed with
    | seeking position => exact ⟨nofun, .seeking _⟩
  have spares : ∀ deed ∈ deeds, deed.asUse.Spares (Direct.Gentle data .seeking) := by
    simp [deeds, Deed.asUse, Use.Spares, gentle]
  obtain ⟨asked, alike⟩ := overDirect_like_ofBytes handed within addressed spares
  have left : other.remaining 1 = some 2 := by decide +kernel
  have ended : other.ended 0 = true := by decide +kernel
  exact ⟨handed, within, addressed, spares, left, (asked 1).1.trans left, ended,
    (asked 0).2.trans ended, alike last trivial⟩

end Body

end Payload
