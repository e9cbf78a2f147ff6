import Payload.Proofs.Buffered.Fidelity

/-!
# Reading a copy out

Over a sequential source reading a copy out into a willing sink passes on all the bytes that are
left for it, and stops with the end that stream and length call for.  Each round passes on one byte
or more, of which there are only so many, so it does not go on for ever.
-/

namespace Payload.Buffered

variable {σ τ : Type} [Source σ] [Sink τ] {yields : List UInt8 → σ → Prop} {sequel : Terminal}
  {stream : List UInt8} {declared : Option Nat} {blockSize : Nat} {willing : τ → Prop}
  {content : τ → List UInt8} {pool : Pool (engine σ)} {index : Nat} {cursor : Cursor}

namespace Truthful

theorem offset_le (truthful : Truthful yields sequel stream declared blockSize pool)
    (found : pool.cursor? index = some cursor) : cursor.offset ≤ reach declared stream := by
  have some_open := Pool.openCount_pos found
  have tidy := truthful.balanced.tidy some_open
  exact Nat.le_trans (tidy.within _ (truthful.balanced.standing found))
    (truthful.faithful some_open).within

/-- A read of an open copy tells the truth, and so will the next one. -/
theorem tells (truthful : Truthful yields sequel stream declared blockSize pool)
    (sequential : Source.Sequential yields sequel) (found : pool.cursor? index = some cursor)
    (want : Nat) :
    Tells sequel stream declared blockSize want pool.record cursor
        (pool.record.read want cursor) ∧
      Truthful yields sequel stream declared blockSize
        (pool.put index (pool.record.read want cursor).record
          (pool.record.read want cursor).cursor) := by
  have reads := reads_read (truthful.balanced.tidy (Pool.openCount_pos found))
    (truthful.balanced.standing found) want
  exact ⟨(truthful.read sequential found reads).1,
    truthful.step sequential (.read found reads)⟩

end Truthful

/-! ## Reading a copy out -/

/-- What reading a copy out comes to: it goes on to where it is left, and the sink has the bytes
up to there.  It comes to an end only where the stream does. -/
structure Writes (content : τ → List UInt8) (sequel : Terminal) (stream : List UInt8)
    (declared : Option Nat) (blockSize : Nat) (record : Buffered σ) (sink : τ) (cursor : Cursor)
    (out : Turn (Buffered σ) Cursor Nat × τ) : Prop where
  onwards : cursor.offset ≤ out.1.cursor.offset
  within : out.1.cursor.offset ≤ reach declared stream
  content : content out.2 = content sink ++ span stream cursor.offset out.1.cursor.offset
  reply :
    (out.1.reply =
        (ending declared stream sequel).written (out.1.cursor.offset - cursor.offset) ∧
      out.1.cursor.offset = reach declared stream) ∨
    (out.1.reply = .failed ⟨.writeTo, .poisoned⟩ ∧ record.custody.poisoned = true) ∨
    (out.1.reply = .broke ∧ maxAllocation < stream.length + max blockSize 1 + max blockSize 1)
  sound : out.1.reply ≠ .broke →
    out.1.record.custody.poisoned = record.custody.poisoned

/-- Where reading a copy out has got to. -/
structure Progress (yields : List UInt8 → σ → Prop) (willing : τ → Prop)
    (content : τ → List UInt8) (sequel : Terminal) (stream : List UInt8) (declared : Option Nat)
    (blockSize : Nat) (pool : Pool (engine σ)) (index : Nat) (cursor : Cursor) (sink : τ)
    (total : Nat) (latest : τ) (record : Buffered σ) (current : Cursor) : Prop where
  truthful : Truthful yields sequel stream declared blockSize (pool.put index record current)
  onwards : cursor.offset ≤ current.offset
  total : total = current.offset - cursor.offset
  content : content latest = content sink ++ span stream cursor.offset current.offset
  willing : willing latest
  sound : record.custody.poisoned = pool.record.custody.poisoned

/-- A round that passes bytes on gets further, and so leaves fewer to come. -/
theorem Progress.round (sequential : Source.Sequential yields sequel)
    (sinks : Sink.Willing willing content) (found : pool.cursor? index = some cursor)
    {sink latest next : τ} {total : Nat} {record : Buffered σ} {current : Cursor}
    (progress : Progress yields willing content sequel stream declared blockSize pool index cursor
      sink total latest record current)
    {want : Nat} (asks : 0 < want) {bytes : ByteArray}
    (done : (record.read want current).reply = .done bytes)
    (offer : Sink.takeAll bytes latest = (.done (), next)) :
    Progress yields willing content sequel stream declared blockSize pool index cursor sink
        (total + bytes.size) next (record.read want current).record
        (record.read want current).cursor ∧
      reach declared stream - (record.read want current).cursor.offset <
        reach declared stream - current.offset := by
  have here := Pool.cursor?_put_self found record current
  obtain ⟨tells, truthful⟩ := progress.truthful.tells sequential here want
  have sound := poisoned_read progress.truthful.balanced here want
  rw [Pool.put_put] at truthful
  rw [Pool.record_put] at tells truthful sound
  generalize record.read want current = turn at done tells truthful sound ⊢
  obtain ⟨further, within, content_eq, some_bytes⟩ := tells.of_done done
  have onwards := progress.onwards
  have brought := some_bytes asks
  have size_eq := size_of_span content_eq (Nat.le_trans within (reach_le declared stream))
  obtain ⟨last, took, still, kept⟩ := sinks.takeAll bytes progress.willing
  rw [took] at offer
  cases offer
  refine ⟨?_, by omega⟩
  constructor
  · exact truthful
  · exact Nat.le_trans onwards further
  · rw [progress.total]
    omega
  · rw [kept, progress.content, content_eq, List.append_assoc, span_append stream onwards further]
  · exact still
  · rw [← progress.sound]
    apply sound
    rw [done]
    nofun

omit [Sink τ] in
/-- The last round hands nothing on. -/
theorem Progress.ends (found : pool.cursor? index = some cursor) {sink latest : τ}
    {total : Nat} {record : Buffered σ} {current : Cursor}
    (progress : Progress yields willing content sequel stream declared blockSize pool index cursor
      sink total latest record current)
    {turn : Turn (Buffered σ) Cursor Nat} (stays : turn.cursor.offset = current.offset)
    (reply : (turn.reply = (ending declared stream sequel).written total ∧
        current.offset = reach declared stream) ∨
      (turn.reply = .failed ⟨.writeTo, .poisoned⟩ ∧ record.custody.poisoned = true) ∨
      (turn.reply = .broke ∧ maxAllocation < stream.length + max blockSize 1 + max blockSize 1))
    (sound : turn.reply ≠ .broke →
      turn.record.custody.poisoned = record.custody.poisoned) :
    Writes content sequel stream declared blockSize pool.record sink cursor
      (turn, latest) := by
  have here := Pool.cursor?_put_self found record current
  have within := progress.truthful.offset_le here
  constructor
  · exact stays.symm ▸ progress.onwards
  · exact stays.symm ▸ within
  · rw [stays]
    exact progress.content
  · rw [stays, ← progress.total, ← progress.sound]
    exact reply
  · intro came
    exact (sound came).trans progress.sound

/-- Where the last round leaves a copy. -/
theorem Progress.writes (sequential : Source.Sequential yields sequel)
    (sinks : Sink.Willing willing content) (found : pool.cursor? index = some cursor)
    {sink latest : τ} {total : Nat} {record : Buffered σ} {current : Cursor}
    (progress : Progress yields willing content sequel stream declared blockSize pool index cursor
      sink total latest record current)
    {size : Nat} (asks : 0 < size) (small : size ≤ max blockSize 1)
    {out : Turn (Buffered σ) Cursor Nat × τ}
    (pumped : Pumped (engine σ).read size total latest record current out) :
    Writes content sequel stream declared blockSize pool.record sink cursor out := by
  have here := Pool.cursor?_put_self found record current
  have tells (buffer : Buffer) : Tells sequel stream declared blockSize buffer.size record current
      ((engine σ).read buffer record current) :=
    (progress.truthful.tells sequential here buffer.size).1
  have sound (buffer : Buffer) (came : ((engine σ).read buffer record current).reply ≠ .broke) :
      ((engine σ).read buffer record current).record.custody.poisoned = record.custody.poisoned :=
    poisoned_read progress.truthful.balanced here buffer.size came
  cases pumped with
  | endless notes sized never =>
      refine absurd never (Pumping.outcome?_ne_none
        (I := Progress yields willing content sequel stream declared blockSize pool index cursor
          sink)
        (fun _ current => reach declared stream - current.offset) ?_ sized progress)
      exact fun total latest record current buffer bytes next progress sized done offer =>
        progress.round sequential sinks found (sized.symm ▸ asks) done offer
  | @stopped buffer error notes sized failed =>
      have came : ((engine σ).read buffer record current).reply ≠ .broke := by
        rw [failed]
        nofun
      obtain ⟨stays, ends | poisoned⟩ := (tells buffer).of_failed failed
      · obtain ⟨rfl, there⟩ := ends
        exact progress.ends found stays (Or.inl ⟨Terminal.written_eq _ _, there⟩) fun _ =>
          sound buffer came
      · obtain ⟨rfl, poisoned⟩ := poisoned
        exact progress.ends found stays (Or.inr (Or.inl ⟨rfl, poisoned⟩)) fun _ =>
          sound buffer came
  | @broke buffer notes sized broke =>
      obtain ⟨stays, overflow⟩ := (tells buffer).of_broke broke
      exact progress.ends found stays (Or.inr (Or.inr ⟨rfl, by omega⟩)) (absurd rfl)
  | refused notes sized done offer =>
      obtain ⟨last, took, -, -⟩ := sinks.takeAll _ progress.willing
      rw [took] at offer
      cases offer
  | swallowed notes sized done offer =>
      obtain ⟨last, took, -, -⟩ := sinks.takeAll _ progress.willing
      rw [took] at offer
      cases offer

/-- Reading out an open copy into a willing sink. -/
theorem Truthful.writes (truthful : Truthful yields sequel stream declared blockSize pool)
    (sequential : Source.Sequential yields sequel) (sinks : Sink.Willing willing content)
    (found : pool.cursor? index = some cursor) {sink : τ} (ready : willing sink) :
    Writes content sequel stream declared blockSize pool.record sink cursor
      (writeTo sink pool.record cursor) := by
  have faithful := truthful.faithful (Pool.openCount_pos found)
  have small := scratch_le pool.record.blockSize (pool.record.remaining cursor)
  have asks := scratch_pos faithful.blocks_pos (pool.record.remaining cursor)
  rw [faithful.blocks] at small asks
  unfold writeTo
  dsimp only
  rw [faithful.blocks]
  split
  · exact ⟨Nat.le_refl _, truthful.offset_le found, by simp,
      Or.inr (Or.inr ⟨rfl, by omega⟩), absurd rfl⟩
  · have start : Progress yields willing content sequel stream declared blockSize pool index cursor
        sink 0 sink pool.record cursor :=
      { truthful := by
          rw [Pool.put_self found]
          exact truthful
        onwards := Nat.le_refl _
        total := (Nat.sub_self _).symm
        content := by simp
        willing := ready
        sound := rfl }
    obtain ⟨total, latest, record, current, progress, pumped⟩ :=
      pump_rule (engine σ).read
        (I := Progress yields willing content sequel stream declared blockSize pool index cursor
          sink)
        (fun total latest record current buffer bytes next progress sized done offer =>
          (progress.round sequential sinks found (sized.symm ▸ asks) done offer).1)
        (.fresh _) sink rfl start
    exact progress.writes sequential sinks found asks small pumped

end Payload.Buffered
