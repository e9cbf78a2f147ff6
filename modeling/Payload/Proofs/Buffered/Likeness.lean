import Payload.Proofs.Buffered.Generosity
import Payload.Proofs.Closing
import Payload.Proofs.Memory
import Payload.Proofs.Pairing

/-!
# A buffered body over a generous source is like its bytes in memory

A buffered body knows that it has come to the end from its window, from the end on record and from a
length that it was told; bytes in memory only look at where the copy stands.  Over a source that
gives all that it is asked for, both come to the same, in whatever order the copies are read: at
every read if the length is known, and at every read that asks for bytes if it is not.

Two things tell the bodies apart.  The last copy over a source closes it, which may fail.  And where
the length is not known, whole blocks are asked for past the end, so there may be no room for them.
-/

namespace Payload

namespace Buffered

variable {σ : Type} [Source σ] {yields : List UInt8 → σ → Prop} {declared : Option Nat}
  {blockSize : Nat} {record : Buffered σ}

/-! ## The places of both copies -/

/-- A copy of the buffered body and one of the bytes in memory that stand at the same place.  They
have both met the end if the length is known, and else the one in memory may be ahead. -/
structure Twin (declared : Option Nat) (length : Nat) (cursor : Cursor) (place : Payload.Cursor) :
    Prop where
  offset : place.offset = cursor.offset
  inside : cursor.offset ≤ length
  there : place.ended = true → cursor.offset = length
  met : cursor.terminal ≠ none → place.ended = true
  known : declared ≠ none → place.ended = true → cursor.terminal ≠ none

/-- What a copy in memory gives of the bytes is what comes next up to where it is left. -/
theorem eq_stretch {data bytes : ByteArray} {offset want : Nat}
    (content : bytes.data.toList =
      span data.data.toList offset (min (offset + want) data.data.toList.length)) :
    bytes = stretch data offset want := by
  apply ByteArray.ext
  apply Array.toList_inj.mp
  rw [content, toList_stretch, span, span, List.take_eq_take_iff, List.length_drop]
  omega

section

variable {data : ByteArray} {want : Nat} {cursor : Cursor} {place : Payload.Cursor}
  {turn : Turn (Buffered σ) Cursor ByteArray}

omit [Source σ] in
/-- A read into an empty buffer moves neither copy. -/
theorem Twin.read_nothing (twin : Twin declared data.size cursor place)
    (going : cursor.terminal = none) (whole : Whole declared data.size 0 cursor turn)
    (given : ∀ bytes, turn.reply = .done bytes →
      bytes.data.toList = span data.data.toList cursor.offset turn.cursor.offset) :
    Twin declared data.size turn.cursor (Memory.read 0 data place).cursor ∧
      (declared ≠ none → turn.reply = (Memory.read 0 data place).reply) := by
  have inside := twin.inside
  have stays : turn.cursor.offset = cursor.offset := by
    rw [whole.offset]
    exact Nat.min_eq_left inside
  have goes_on : turn.cursor.terminal = none :=
    Classical.byContradiction fun met => Nat.not_lt.mpr inside (whole.beyond met)
  have place_eq : (Memory.read 0 data place).cursor = place := by
    unfold Memory.read
    split
    · rfl
    · rfl
  rw [place_eq]
  constructor
  · constructor
    · exact twin.offset.trans stays.symm
    · exact stays ▸ inside
    · exact fun ended => stays.trans (twin.there ended)
    · exact fun met => absurd goes_on met
    · exact fun known ended => absurd going (twin.known known ended)
  · intro known
    obtain ⟨bytes, done⟩ := whole.done goes_on
    have content := given bytes done
    rw [stays, span_self] at content
    have empty : bytes = .empty := by
      apply ByteArray.ext
      exact Array.toList_inj.mp content
    have unmet : ¬place.ended = true := fun ended => twin.known known ended going
    rw [done, empty, Memory.read, if_neg unmet]
    rfl

omit [Source σ] in
/-- A read short of the end gives what there is, and meets the end if that is less than was asked
for. -/
theorem Twin.read_some (twin : Twin declared data.size cursor place)
    (whole : Whole declared data.size want cursor turn) (asks : want ≠ 0)
    (short : cursor.offset < data.size) {bytes : ByteArray} (done : turn.reply = .done bytes)
    (content : bytes.data.toList = span data.data.toList cursor.offset turn.cursor.offset) :
    Twin declared data.size turn.cursor (Memory.read want data place).cursor ∧
      turn.reply = (Memory.read want data place).reply := by
  have offset_eq := whole.offset
  have length_eq : data.data.toList.length = data.size := by simp
  have unmet : ¬place.ended = true := fun ended => Nat.ne_of_lt short (twin.there ended)
  have size_eq := size_stretch data cursor.offset want
  rw [offset_eq, ← length_eq] at content
  obtain rfl := eq_stretch content
  rw [Memory.read, if_neg unmet, if_neg asks, twin.offset, if_neg (Nat.not_lt_of_gt short),
    if_neg (Nat.ne_of_gt short)]
  dsimp only
  refine ⟨⟨?_, ?_, ?_, ?_, ?_⟩, done⟩
  · change cursor.offset + (stretch data cursor.offset want).size = turn.cursor.offset
    omega
  · omega
  · intro ended
    have beyond := of_decide_eq_true ended
    omega
  · intro met
    have beyond := whole.beyond met
    apply decide_eq_true
    omega
  · intro known ended
    have beyond := of_decide_eq_true ended
    exact whole.met (by omega) (Or.inl known)

omit [Source σ] in
/-- A read where nothing is left reports the end, and both copies have met it. -/
theorem Twin.read_past (twin : Twin declared data.size cursor place)
    (whole : Whole declared data.size want cursor turn) (asks : want ≠ 0)
    (there : cursor.offset = data.size) (failed : turn.reply = .failed ⟨.read, .endOfStream⟩) :
    Twin declared data.size turn.cursor (Memory.read want data place).cursor ∧
      turn.reply = (Memory.read want data place).reply := by
  have offset_eq := whole.offset
  have stays : turn.cursor.offset = cursor.offset := by omega
  have met := whole.met (by omega) (Or.inr there)
  have spent : data.size = place.offset := (twin.offset.trans there).symm
  have last : (Memory.read want data place).cursor.offset = place.offset ∧
      (Memory.read want data place).cursor.ended = true ∧
      (Memory.read want data place).reply = .failed ⟨.read, .endOfStream⟩ := by
    by_cases ended : place.ended = true
    · rw [Memory.read, if_pos ended]
      exact ⟨rfl, ended, rfl⟩
    · rw [Memory.read, if_neg ended, if_neg asks, if_neg (Nat.not_lt.mpr (Nat.le_of_eq spent.symm)),
        if_pos spent]
      exact ⟨rfl, rfl, rfl⟩
  obtain ⟨offset, ended, reply⟩ := last
  rw [failed, reply]
  refine ⟨⟨?_, ?_, ?_, ?_, ?_⟩, rfl⟩
  · rw [offset, stays, twin.offset]
  · exact stays ▸ twin.inside
  · exact fun _ => stays.trans there
  · exact fun _ => ended
  · exact fun _ _ => met

omit [Source σ] in
/-- Both reads leave the copies at the same place, and come out the same if bytes were asked for or
the length is known. -/
theorem Twin.read (twin : Twin declared data.size cursor place)
    (going : cursor.terminal = none) (whole : Whole declared data.size want cursor turn)
    (honest : Honest declared data.data.toList.length) (sound : record.custody.poisoned = false)
    (tells : Tells .ended data.data.toList declared blockSize want record cursor turn)
    (came : turn.reply ≠ .broke) :
    Twin declared data.size turn.cursor (Memory.read want data place).cursor ∧
      ((declared = none → want ≠ 0) → turn.reply = (Memory.read want data place).reply) := by
  have length_eq : data.data.toList.length = data.size := by simp
  have reach_eq := honest.reach_eq
  by_cases nothing : want = 0
  · subst nothing
    obtain ⟨still, alike⟩ := twin.read_nothing going whole fun bytes done =>
      (tells.of_done done).2.2.1
    exact ⟨still, fun asks => alike fun unknown => asks unknown rfl⟩
  · cases tells with
    | gives done onwards within content some_bytes =>
        have further := some_bytes (Nat.pos_of_ne_zero nothing)
        obtain ⟨still, alike⟩ := twin.read_some whole nothing (by omega) done content
        exact ⟨still, fun _ => alike⟩
    | ends failed there stays =>
        rw [honest.ending_eq] at failed
        obtain ⟨still, alike⟩ := twin.read_past whole nothing (by omega) failed
        exact ⟨still, fun _ => alike⟩
    | poisoned poisoned =>
        rw [sound] at poisoned
        cases poisoned
    | broke broke => exact absurd broke came

end

/-! ## The copies of both bodies -/

/-- Copies that only read on, join and leave poison nothing unless a read breaks off. -/
theorem poisoned_use_of_inSequence {τ : Type} [Sink τ] {pool : Pool (engine σ)}
    (balanced : Balanced pool) {use : Use σ τ} (inSequence : use.InSequence)
    (came : (pool.use use).1 ≠ .bytes .broke) :
    (pool.use use).2.record.custody.poisoned = pool.record.custody.poisoned := by
  have leaves (index : Nat) :
      (pool.close index).state.record.custody.poisoned = pool.record.custody.poisoned := by
    cases found : pool.cursor? index with
    | none => rw [(Pool.close_of_closed found).2]
    | some cursor => exact poisoned_close balanced found
  cases use with
  | read index buffer =>
      apply poisoned_use balanced
      exact Outcome.brokeOff_eq_false_iff.mpr fun broke => came (congrArg Receipt.bytes broke)
  | copy index => exact congrArg Custody.poisoned (custody_copy pool index)
  | close index => exact leaves index
  | drop index =>
      change (pool.drop index).state.record.custody.poisoned = _
      rw [Pool.state_drop]
      exact leaves index
  | _ => exact inSequence.elim

/-- The copies of a buffered body over a stream of these bytes, and those of the bytes in memory:
all stand at the same places. -/
structure Mirrors (yields : List UInt8 → σ → Prop) (data : ByteArray) (declared : Option Nat)
    (blockSize : Nat) (pool : Pool (engine σ)) (other : Pool (Memory.engine σ)) : Prop where
  truthful : Truthful yields .ended data.data.toList declared blockSize pool
  sound : pool.record.custody.poisoned = false
  length : ∀ known, declared = some known → pool.record.length = some known
  bytes : other.record = data
  paired : Pool.Paired (Twin declared data.size) pool other

namespace Mirrors

variable {τ : Type} [Sink τ] {data : ByteArray} {pool : Pool (engine σ)}
  {other : Pool (Memory.engine σ)} {index : Nat} {cursor : Cursor} {place : Payload.Cursor}

theorem fresh {source : σ} (starts : yields data.data.toList source) (declared : Option Nat)
    (blockSize : Nat) :
    Mirrors yields data declared blockSize (fresh source declared blockSize)
      ⟨data, [some {}]⟩ where
  truthful := .fresh starts blockSize
  sound := rfl
  length := fun _ => id
  bytes := rfl
  paired := ⟨rfl, fun index => by
    cases index with
    | zero => exact .some ⟨rfl, Nat.zero_le _, nofun, nofun, nofun⟩
    | succ index => exact .none⟩

/-- A read that comes back turns out as in memory. -/
theorem read (mirrors : Mirrors yields data declared blockSize pool other)
    (fair : Fair yields declared data.size) (found : pool.cursor? index = some cursor)
    (twin : Twin declared data.size cursor place) {want : Nat}
    (came : (pool.record.read want cursor).reply ≠ .broke) :
    Twin declared data.size (pool.record.read want cursor).cursor
        (Memory.read want other.record place).cursor ∧
      ((declared = none → want ≠ 0) →
        (pool.record.read want cursor).reply = (Memory.read want other.record place).reply) := by
  have tells := (mirrors.truthful.tells fair.generous.sequential found want).1
  have honest := fair.toList.honest
  rw [mirrors.bytes]
  cases going : cursor.terminal with
  | none =>
      have reads := reads_read (mirrors.truthful.balanced.tidy (Pool.openCount_pos found))
        (mirrors.truthful.balanced.standing found) want
      have whole := mirrors.truthful.whole fair.toList found going mirrors.sound reads came
      rw [Array.length_toList, ByteArray.size_data] at whole
      exact twin.read going whole honest mirrors.sound tells came
  | some terminal =>
      have stopped := mirrors.truthful.agreed cursor (Pool.mem_cursors_iff.mpr ⟨index, found⟩)
        terminal going
      have ended := twin.met (going ▸ Option.some_ne_none terminal)
      have last := (mirrors.truthful.faithful (Pool.openCount_pos found)).stopped terminal stopped.1
      have terminal_eq : terminal = .ended := last.2.trans honest.ending_eq
      have reads : pool.record.read want cursor =
          ⟨.failed ⟨.read, .endOfStream⟩, pool.record, cursor, []⟩ := by
        rw [Buffered.read, going, terminal_eq]
        rfl
      rw [reads, Memory.read, if_pos ended]
      exact ⟨twin, fun _ => rfl⟩

/-- Copies are made alike. -/
theorem copy (mirrors : Mirrors yields data declared blockSize pool other) (index : Nat) :
    (pool.copy index).reply = (other.copy index).reply ∧
      Pool.Paired (Twin declared data.size) (pool.copy index).state (other.copy index).state := by
  have made {cursor : Cursor} : (engine σ).copy pool.record cursor =
      ⟨.done cursor, { pool.record with
        cursors := pool.record.cursors.attach cursor.offset
        live := pool.record.live + 1 }, cursor, []⟩ := if_neg (by simp [mirrors.sound])
  apply mirrors.paired.copy
  · exact fun {cursor} _ => ⟨congrArg Turn.reply made, congrArg Turn.cursor made⟩
  · exact fun {place} _ => ⟨rfl, rfl⟩

/-- A use in sequence that comes back leaves all copies at the same places. -/
theorem use (mirrors : Mirrors yields data declared blockSize pool other)
    (fair : Fair yields declared data.size) {use : Use σ τ} (inSequence : use.InSequence)
    (came : (pool.use use).1 ≠ .bytes .broke) :
    Mirrors yields data declared blockSize (pool.use use).2 (other.use use).2 := by
  have balanced := mirrors.truthful.balanced
  have kept (known : Nat) (declares : declared = some known) :
      (pool.use use).2.record.length = some known :=
    length_afterRun balanced (mirrors.length known declares) [use]
  have bytes : (other.use use).2.record = data :=
    (Memory.record_use other (inSequence.spares _)).trans mirrors.bytes
  have truthful : Truthful yields .ended data.data.toList declared blockSize (pool.use use).2 :=
    mirrors.truthful.use fair.generous.sequential (inSequence.plain fun _ => False)
  have sound := (poisoned_use_of_inSequence balanced inSequence came).trans mirrors.sound
  cases use with
  | read index buffer =>
      refine ⟨truthful, sound, kept, bytes, mirrors.paired.act ?_⟩
      intro cursor place found there twin
      refine (mirrors.read fair found twin fun broke => came ?_).1
      exact congrArg Receipt.bytes ((Pool.act_of_open found _ _).1.trans broke)
  | copy index =>
      exact ⟨truthful, sound, kept, bytes, (mirrors.copy index).2⟩
  | close index => exact ⟨truthful, sound, kept, bytes, mirrors.paired.close index⟩
  | drop index => exact ⟨truthful, sound, kept, bytes, mirrors.paired.drop index⟩
  | _ => exact inSequence.elim

/-- Where the length is known no read breaks off. -/
theorem came_of_known (mirrors : Mirrors yields data declared blockSize pool other)
    (fair : Fair yields declared data.size) (known : declared ≠ none) (index : Nat)
    (buffer : Buffer) : (pool.read index buffer).reply ≠ .broke := by
  intro broke
  obtain ⟨cursor, found, gave⟩ := Pool.exists_open_of_act broke (by simp)
  exact mirrors.truthful.came_of_known fair.toList known found
    (reads_read (mirrors.truthful.balanced.tidy (Pool.openCount_pos found))
      (mirrors.truthful.balanced.standing found) buffer.size) gave

theorem afterRun (mirrors : Mirrors yields data declared blockSize pool other)
    (fair : Fair yields declared data.size) {uses : List (Use σ τ)}
    (inSequence : ∀ use ∈ uses, use.InSequence)
    (came : declared = none → ∀ receipt ∈ (pool.run uses).1, receipt ≠ .bytes .broke) :
    Mirrors yields data declared blockSize (pool.afterRun uses) (other.afterRun uses) := by
  induction uses generalizing pool other with
  | nil => exact mirrors
  | cons use rest ih =>
      rw [Pool.run_cons] at came
      have back : (pool.use use).1 ≠ .bytes .broke := by
        by_cases known : declared = none
        · exact came known _ List.mem_cons_self
        · cases use with
          | read index buffer =>
              intro broke
              exact mirrors.came_of_known fair known index buffer (Receipt.bytes.inj broke)
          | copy index => nofun
          | close index => nofun
          | drop index => nofun
          | _ => exact (inSequence _ List.mem_cons_self).elim
      apply ih
      · exact mirrors.use fair (inSequence use List.mem_cons_self) back
      · exact fun later member => inSequence later (List.mem_cons_of_mem _ member)
      · exact fun unknown receipt member =>
          came unknown receipt (List.mem_cons_of_mem _ member)

/-- A read comes out as in memory, unless there is no room for the blocks that it asks for. -/
theorem reply_read (mirrors : Mirrors yields data declared blockSize pool other)
    (fair : Fair yields declared data.size) (index : Nat) {buffer : Buffer}
    (asks : declared = none → buffer.size ≠ 0) :
    (pool.read index buffer).reply = (other.read index buffer).reply ∨
      (pool.read index buffer).reply = .broke ∧ declared = none ∧
        maxAllocation < data.size + buffer.size + max blockSize 1 := by
  rcases mirrors.paired.closed_or_open index with
    ⟨missing, absent⟩ | ⟨cursor, place, found, there, twin⟩
  · left
    rw [Pool.read, Pool.read, (Pool.act_of_closed missing _ _).1, (Pool.act_of_closed absent _ _).1]
  · have reply : (pool.read index buffer).reply = (pool.record.read buffer.size cursor).reply :=
      (Pool.act_of_open found _ _).1
    by_cases broke : (pool.record.read buffer.size cursor).reply = .broke
    · right
      have unknown : declared = none := Classical.byContradiction fun known =>
        mirrors.came_of_known fair known index buffer (reply.trans broke)
      have tells := (mirrors.truthful.tells fair.generous.sequential found buffer.size).1
      have overflow := (tells.of_broke broke).2
      rw [Array.length_toList, ByteArray.size_data] at overflow
      exact ⟨reply.trans broke, unknown, overflow⟩
    · left
      rw [reply, Pool.read, (Pool.act_of_open there _ _).1]
      exact (mirrors.read fair found twin broke).2 asks

end Mirrors

end Buffered

/-! ## The bodies -/

namespace Body

variable {σ τ : Type} [Source σ] [Sink τ]

/-- Closing or dropping a copy of either body comes out alike, but that the last copy over a source
answers with what closing the source comes to. -/
inductive LeavesLike (body other : Body σ) (index : Nat) : Prop where
  | alike (close : (body.close index).reply = (other.close index).reply)
      (drop : (body.drop index).reply = (other.drop index).reply) : LeavesLike body other index
  | last {source : σ} (opened : body.isClosed index = false) (alone : body.openCopies = 1)
      (held : body.source? = some source)
      (close : (body.close index).reply =
        (Source.close source).1.mapFailure fun fault => ⟨.close, .fault fault⟩)
      (drop : (body.drop index).reply =
        match (body.close index).reply with
        | .failed _ => .done ()
        | reply => reply)
      (close_other : (other.close index).reply = .done ())
      (drop_other : (other.drop index).reply = .done ()) : LeavesLike body other index

end Body

namespace Buffered.Mirrors

variable {σ : Type} [Source σ] {yields : List UInt8 → σ → Prop} {data : ByteArray}
  {declared : Option Nat} {blockSize : Nat} {pool : Pool (engine σ)}
  {other : Pool (Memory.engine σ)}

theorem leavesLike (mirrors : Mirrors yields data declared blockSize pool other) (index : Nat) :
    Body.LeavesLike (.buffered pool) (.memory other) index := by
  have balanced := mirrors.truthful.balanced
  have whenAlike (close : (pool.close index).reply = (other.close index).reply) :
      Body.LeavesLike (.buffered pool) (.memory other) index :=
    .alike close (mirrors.paired.reply_drop close)
  rcases mirrors.paired.closed_or_open index with
    ⟨missing, absent⟩ | ⟨cursor, place, found, there, -⟩
  · apply whenAlike
    rw [(Pool.close_of_closed missing).1, (Pool.close_of_closed absent).1]
  · have closes : (other.close index).reply = .done () := (Pool.close_of_open there).1
    by_cases alone : pool.openCount = 1
    · refine .last (Pool.isClosed_eq_false_iff.mpr ⟨cursor, found⟩) alone rfl
        (reply_close_of_alone balanced found alone) (Pool.reply_drop_of_open found) closes ?_
      change (other.drop index).reply = _
      rw [Pool.reply_drop_of_open there, closes]
    · apply whenAlike
      rw [closes, reply_close_of_others balanced found alone]

/-- With a known length both bodies say the same of what is left and of the end. -/
theorem asked (mirrors : Mirrors yields data declared blockSize pool other)
    (honest : Honest declared data.size) (known : declared ≠ none) (index : Nat) :
    pool.remaining index = other.remaining index ∧ pool.ended index = other.ended index := by
  obtain ⟨length, declares⟩ := Option.ne_none_iff_exists'.mp known
  have length_eq : pool.record.length = some data.size :=
    (mirrors.length length declares).trans (congrArg some (honest length declares))
  have met {cursor : Cursor} {place : Payload.Cursor}
      (twin : Twin declared data.size cursor place) : cursor.terminal.isSome = place.ended := by
    cases met : cursor.terminal with
    | none =>
        have unmet : ¬place.ended = true := fun ended => twin.known known ended met
        simpa using unmet
    | some terminal => exact (twin.met (met ▸ Option.some_ne_none terminal)).symm
  constructor
  · apply mirrors.paired.remaining_eq
    intro cursor place _ twin
    have inside : ¬Memory.Overrun other.record place := by
      rintro ⟨-, past⟩
      rw [mirrors.bytes, twin.offset] at past
      exact Nat.not_le.mpr past twin.inside
    rw [Memory.remaining_eq inside]
    change pool.record.remaining cursor = _
    rw [remaining, met twin, mirrors.bytes, length_eq, Payload.Cursor.remaining, twin.offset]
    split <;> rfl
  · apply mirrors.paired.ended_eq
    intro cursor place twin
    exact met twin

end Buffered.Mirrors

namespace Body

variable {σ τ : Type} [Source σ] [Sink τ] {yields : List UInt8 → σ → Prop}

/-- Whatever was done to the copies of a buffered body over a source that gives all that is asked
of it, by reading on, copying, closing and dropping: the body is like the bytes of the source in
memory.  If the true length was declared, every read comes out the same, and so does what the body
says of what is left and of the end.  If none was, the same holds of every read that asks for bytes,
as long as there is room for the blocks that it asks for in turn. -/
theorem overSequence_like_ofBytes (generous : Source.Generous yields) {source : σ}
    {data : ByteArray} (starts : yields data.data.toList source)
    (small : data.size ≤ maxAllocation) {declared : Option Nat}
    (honest : Buffered.Honest declared data.size) (blockSize : Nat) {uses : List (Use σ τ)}
    (inSequence : ∀ use ∈ uses, use.InSequence)
    (came : declared = none →
      ∀ receipt ∈ ((overSequence source declared blockSize).run uses).1, receipt ≠ .bytes .broke) :
    let body := (overSequence source declared blockSize).afterRun uses
    let other : Body σ := (ofBytes data).afterRun uses
    (declared ≠ none → ∀ index, body.remaining index = other.remaining index ∧
        body.ended index = other.ended index) ∧
      (∀ index (buffer : Buffer), (declared = none → buffer.size ≠ 0) →
        (body.read index buffer).reply = (other.read index buffer).reply ∨
          (body.read index buffer).reply = .broke ∧ declared = none ∧
            maxAllocation < data.size + buffer.size + max blockSize 1) ∧
      (∀ index, (body.copy index).reply = (other.copy index).reply) ∧
      ∀ index, LeavesLike body other index := by
  intro body other
  have begun := Buffered.Mirrors.fresh starts declared blockSize
  have run : (overSequence source declared blockSize).run uses =
      (((Buffered.fresh source declared blockSize).run uses).1,
        .buffered ((Buffered.fresh source declared blockSize).run uses).2) :=
    run_buffered uses _
  rw [run] at came
  have fair : Buffered.Fair yields declared data.size := ⟨generous, honest, small⟩
  have mirrors := begun.afterRun fair inSequence came
  have body_eq : body = .buffered ((Buffered.fresh source declared blockSize).afterRun uses) :=
    congrArg Prod.snd run
  have other_eq : other = .memory (Pool.afterRun uses ⟨data, [some {}]⟩) :=
    congrArg Prod.snd (run_memory uses _)
  rw [body_eq, other_eq]
  refine ⟨mirrors.asked honest, ?_, fun index => (mirrors.copy index).1, mirrors.leavesLike⟩
  exact fun index buffer => mirrors.reply_read fair index

/-- Two copies over five bytes that arrive after an interruption: with the length known, the one
that stays knows what it has to come, and without it still gets all of it. -/
theorem overSequence_like_ofBytes_of_left :
    let data : ByteArray := ⟨#[1, 2, 3, 4, 5]⟩
    let source : Device := { content := data, reads := [.fault ⟨.interrupted, .plain⟩] }
    let uses : List (Use Device Gauge) := [.copy 0, .read 0 (.fresh 3), .close 0]
    let body := (overSequence source (some 5) 2).afterRun uses
    let blind := (overSequence source none 2).afterRun uses
    let other : Body Device := (ofBytes data).afterRun uses
    Device.Flows data.data.toList source ∧ data.size ≤ maxAllocation ∧
      Buffered.Honest (some 5) data.size ∧ Buffered.Honest none data.size ∧
      (∀ use ∈ uses, use.InSequence) ∧
      (∀ receipt ∈ ((overSequence source none 2).run uses).1, receipt ≠ .bytes .broke) ∧
      other.remaining 1 = some 5 ∧ body.remaining 1 = some 5 ∧
      (body.read 1 (.fresh 0)).reply = (other.read 1 (.fresh 0)).reply ∧
      (blind.read 1 (.fresh 9)).reply = (other.read 1 (.fresh 9)).reply ∧
      LeavesLike blind other 1 := by
  intro data source uses body blind other
  have flows : Device.Flows data.data.toList source :=
    { plays :=
        { mild := by simp [source, Device.ReadCue.Mild, Fault.interrupts]
          chunk := by decide
          final := by decide
          inside := by decide
          rest := by decide
          sequel := rfl }
      chunk := rfl
      failAt := rfl
      uncut := by simp [source] }
  have small : data.size ≤ maxAllocation := by decide
  have honest : Buffered.Honest (some 5) data.size := by
    intro known declares
    cases declares
    rfl
  have blindly : Buffered.Honest none data.size := by
    intro known declares
    cases declares
  have inSequence : ∀ use ∈ uses, use.InSequence := by simp [uses, Use.InSequence]
  have came : ∀ receipt ∈ ((overSequence source none 2).run uses).1, receipt ≠ .bytes .broke := by
    have back : ∀ receipt ∈ ((overSequence source none 2).run uses).1,
        receipt.brokeOff = false := by
      decide +kernel
    intro receipt member broke
    have came_back := back receipt member
    rw [broke] at came_back
    cases came_back
  have left : other.remaining 1 = some 5 := by decide +kernel
  have ran : (overSequence source (some 5) 2).afterRun uses = body := rfl
  have ran_blind : (overSequence source none 2).afterRun uses = blind := rfl
  have ran_other : (ofBytes data : Body Device).afterRun uses = other := rfl
  have alike := overSequence_like_ofBytes Device.generous_flows flows small honest 2 inSequence
    (by simp)
  have alike_blind := overSequence_like_ofBytes Device.generous_flows flows small blindly 2
    inSequence fun _ => came
  rw [ran, ran_other] at alike
  rw [ran_blind, ran_other] at alike_blind
  -- From here on the runs themselves are not looked into again.
  clear_value body blind other
  obtain ⟨asked, reads, -, -⟩ := alike
  obtain ⟨-, reads_blind, -, leaves⟩ := alike_blind
  refine ⟨flows, small, honest, blindly, inSequence, came, left, ?_, ?_, ?_, leaves 1⟩
  · exact (asked (by simp) 1).1.trans left
  · exact (reads 1 (.fresh 0) (by simp)).resolve_right (by simp)
  · refine (reads_blind 1 (.fresh 9) fun _ => by decide).resolve_right ?_
    rintro ⟨-, -, overflow⟩
    exact absurd overflow (by decide)

/-- Two bodies over a byte that are not like it in memory: one over a source whose closing fails,
and one that does not know the length and has blocks that there is no room for. -/
theorem overSequence_unlike_ofBytes :
    let data : ByteArray := ⟨#[1]⟩
    let stuck : Device := { content := data, closing := .fault (.saying .other "stuck") }
    let plain : Device := { content := data }
    Device.Flows data.data.toList stuck ∧ Device.Flows data.data.toList plain ∧
      Buffered.Honest (some 1) data.size ∧
      ((overSequence stuck (some 1) 4).close 0).reply =
        .failed ⟨.close, .fault (.saying .other "stuck")⟩ ∧
      ((ofBytes data : Body Device).close 0).reply = .done () ∧
      ((overSequence plain none 0x8000000000000000).read 0 (.fresh 1)).reply = .broke ∧
      ((ofBytes data : Body Device).read 0 (.fresh 1)).reply = .done data := by
  intro data stuck plain
  have flows (closing : Device.Closing) :
      Device.Flows data.data.toList { content := data, closing } :=
    { plays :=
        { mild := nofun
          chunk := nofun
          final := rfl
          inside := Nat.zero_le _
          rest := rfl
          sequel := rfl }
      chunk := rfl
      failAt := rfl
      uncut := nofun }
  refine ⟨flows _, flows _, ?_, ?_, rfl, ?_, ?_⟩
  · intro known declares
    cases declares
    rfl
  · decide +kernel
  · decide +kernel
  · decide +kernel

end Body

end Payload
