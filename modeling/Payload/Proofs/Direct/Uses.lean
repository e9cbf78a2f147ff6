import Payload.Proofs.Direct.Reading

/-!
# Every use of a direct body is made of steps

A use either leaves the pool as it is or takes steps: one step for most uses, and one for each round
where a copy is read out.  So what every step keeps, every run over the copies of a direct body
keeps.
-/

namespace Payload.Direct

open Relation

variable {σ τ : Type} [Source σ] [Sink τ]

/-- The copies of a new body over a source: one, at the start. -/
def fresh (source : σ) (access : Access) (base length : Nat) : Pool (engine σ) :=
  ⟨{ custody := { source }, access, base, length }, [some {}]⟩

/-- What can happen to the copies and their record in one step.  The source is only lent to
callbacks that `lends` allows. -/
inductive Step (lends : (σ → Option Unit × σ) → Prop) (pool : Pool (engine σ)) :
    Pool (engine σ) → Prop where
  | read {index : Nat} {cursor : Cursor} {buffer : Buffer} {turn : Turn (Direct σ) Cursor ByteArray}
      (found : pool.cursor? index = some cursor)
      (reads : Reads buffer pool.record cursor turn) :
      Step lends pool (pool.put index turn.record turn.cursor)
  | readAt {cursor : Cursor} {buffer : Buffer} {offset : Nat}
      {turn : Turn (Direct σ) Cursor ByteArray} (some_open : 0 < pool.openCount)
      (reads : ReadsAt buffer offset pool.record cursor turn) :
      Step lends pool (pool.withRecord turn.record)
  | sought {index : Nat} {cursor : Cursor} {position : Nat}
      (found : pool.cursor? index = some cursor) (within : position ≤ pool.record.length) :
      Step lends pool (pool.put index pool.record { offset := position })
  | copied {index : Nat} {cursor : Cursor} (found : pool.cursor? index = some cursor) :
      Step lends pool (pool.add { pool.record with sharers := pool.record.sharers + 1 }
        (some cursor))
  /-- A copy of a closed copy is closed. -/
  | blank : Step lends pool (pool.add pool.record none)
  | left {index : Nat} {cursor : Cursor} (found : pool.cursor? index = some cursor)
      (others : 1 < pool.record.sharers) :
      Step lends pool (pool.remove index { pool.record with sharers := pool.record.sharers - 1 })
  | last {index : Nat} {cursor : Cursor} (found : pool.cursor? index = some cursor)
      (alone : pool.record.sharers ≤ 1) :
      Step lends pool (pool.remove index { pool.record with
        sharers := pool.record.sharers - 1
        custody := (pool.record.custody.close .closingDirect).2.1 })
  | visited {callback : σ → Option Unit × σ} (some_open : 0 < pool.openCount)
      (lent : lends callback) :
      Step lends pool (pool.withRecord { pool.record with
        custody := (pool.record.custody.visit callback).2 })

variable {lends : (σ → Option Unit × σ) → Prop} {pool : Pool (engine σ)} {index : Nat}
  {cursor : Cursor}

theorem step_read (found : pool.cursor? index = some cursor) (buffer : Buffer) :
    Step lends pool (pool.read index buffer).state := by
  rw [Pool.read, (Pool.act_of_open found _ _).2]
  exact .read found (reads buffer pool.record cursor)

theorem cursor_readAt (buffer : Buffer) (offset : Nat) (direct : Direct σ) (cursor : Cursor) :
    (direct.readAt buffer offset cursor).cursor = cursor := by
  have reads := readsAt buffer offset direct cursor
  generalize direct.readAt buffer offset cursor = turn at reads ⊢
  cases reads <;> rfl

/-- To read at an offset moves no copy. -/
theorem state_readAt_of_open (found : pool.cursor? index = some cursor) (buffer : Buffer)
    (offset : Nat) :
    (pool.readAt index buffer offset).state =
      pool.withRecord (pool.record.readAt buffer offset cursor).record := by
  rw [Pool.readAt, (Pool.act_of_open found _ _).2]
  change pool.put index (pool.record.readAt buffer offset cursor).record
    (pool.record.readAt buffer offset cursor).cursor = _
  rw [cursor_readAt, Pool.put_eq_withRecord found]

theorem step_close (found : pool.cursor? index = some cursor) :
    Step lends pool (pool.close index).state := by
  rw [(Pool.close_of_open found).2]
  change Step lends pool (pool.remove index (pool.record.close cursor).record)
  by_cases others : 1 < pool.record.sharers
  · rw [close, if_pos others]
    exact .left found others
  · rw [close, if_neg others]
    exact .last found (Nat.le_of_not_lt others)

/-- A copy is moved within the body, or stays where it is. -/
theorem state_seek_of_open (found : pool.cursor? index = some cursor) (offset whence : Int) :
    ((pool.seek index offset whence).state = pool ∧
        ∀ position, (pool.seek index offset whence).reply ≠ .done position) ∨
      ∃ position ≤ pool.record.length,
        (pool.seek index offset whence).reply = .done position ∧
          (pool.seek index offset whence).state =
            pool.put index pool.record { offset := position } := by
  rcases Pool.seek_of_open found rfl with ⟨stays, error, refused⟩ | arrives
  · refine Or.inl ⟨stays, fun position => ?_⟩
    rw [refused]
    nofun
  · exact Or.inr arrives

/-- A copy joins at the end, where the one it is made of stands. -/
theorem state_copy_of_open (found : pool.cursor? index = some cursor) :
    (pool.copy index).state =
      pool.add { pool.record with sharers := pool.record.sharers + 1 } (some cursor) := by
  have joined := (Pool.copy_of_done found rfl).2
  rw [joined]
  change (pool.put index _ cursor).add _ _ = _
  rw [Pool.put_eq_withRecord found]
  rfl

/-- To lend the source moves no copy. -/
theorem state_visit_of_open {α : Type} (found : pool.cursor? index = some cursor)
    (callback : σ → Option α × σ) :
    (pool.visit index callback).state =
      pool.withRecord { pool.record with
        custody := (pool.record.custody.visit callback).2 } := by
  rw [(Pool.visit_of_open found callback).2]
  exact Pool.put_eq_withRecord found _

/-- The copies of a direct body move only as they are read on, read out or sought. -/
theorem still : (engine σ).Still where
  readAt := cursor_readAt
  copy _ _ := rfl
  visit _ _ _ := rfl

/-- Reading a copy out leaves what some reads of it leave. -/
theorem exists_reads_of_writeTo (found : pool.cursor? index = some cursor) (sink : τ) :
    ∃ buffers : List Buffer, (pool.writeTo index sink).1.state =
      pool.afterRun (buffers.map (Use.read index : Buffer → Use σ τ)) := by
  rw [(Pool.writeTo_of_open found sink).2.1]
  obtain ⟨buffers, -, state⟩ := Pool.exists_reads_of_pump found
    (.fresh (scratch defaultBlock (some (cursor.remaining pool.record.length)))) sink
  exact ⟨buffers, state⟩

/-- A read that gives bytes leaves less to read. -/
theorem Reads.fewer {buffer : Buffer} {cursor : Cursor} {turn : Turn (Direct σ) Cursor ByteArray}
    (reads : Reads buffer direct cursor turn) (asks : 0 < buffer.size) {bytes : ByteArray}
    (done : turn.reply = .done bytes) :
    turn.record.length - turn.cursor.offset < direct.length - cursor.offset := by
  have length := reads.served.length
  cases reads with
  | ended => cases done
  | nothing going none => omega
  | past => cases done
  | dry => cases done
  | gave going asks within fetched some_bytes =>
      dsimp only at length ⊢
      omega
  | failed => cases done
  | broke => cases done

/-- Reading a copy out comes to an end: there are only so many bytes. -/
theorem outcome?_ne_none {buffer : Buffer} (asks : 0 < buffer.size) (total : Nat) (sink : τ)
    (direct : Direct σ) (cursor : Cursor) :
    Pumping.outcome? read ⟨total, buffer, direct, cursor⟩ sink ≠ none :=
  Pumping.outcome?_ne_none (I := fun _ _ _ _ => True)
    (fun direct cursor => direct.length - cursor.offset)
    (fun _ _ direct cursor buffer _ _ _ sized done _ =>
      ⟨trivial, (reads buffer direct cursor).fewer (sized.symm ▸ asks) done⟩) rfl trivial

/-- Reads of one copy, one after the other, are steps. -/
theorem steps_reads (pool : Pool (engine σ)) (index : Nat) (buffers : List Buffer) :
    ReflTransGen (Step lends) pool
      (pool.afterRun (buffers.map (Use.read index : Buffer → Use σ τ))) :=
  Pool.reads_keep (P := ReflTransGen (Step lends) pool) index
    (fun steps found buffer => steps.tail (step_read found buffer)) .refl buffers

/-- Every use is made of steps. -/
theorem steps_use (pool : Pool (engine σ)) {use : Use σ τ} (lent : use.Lends lends) :
    ReflTransGen (Step lends) pool (pool.use use).2 := by
  have ends {next last : Pool (engine σ)} (same : next = last)
      (steps : ReflTransGen (Step lends) pool last) : ReflTransGen (Step lends) pool next :=
    same ▸ steps
  cases found : pool.cursor? use.index with
  | none =>
      rcases Pool.state_use_of_closed found with same | blank
      · exact ends same .refl
      · exact ends blank (.single .blank)
  | some cursor =>
      have some_open := Pool.openCount_pos found
      cases use with
      | read index buffer => exact .single (step_read found buffer)
      | readAt index buffer offset =>
          have reads := readsAt buffer offset pool.record cursor
          exact ends (state_readAt_of_open found buffer offset) (.single (.readAt some_open reads))
      | seek index offset whence =>
          rcases state_seek_of_open found offset whence with
            ⟨stays, -⟩ | ⟨position, within, -, goes⟩
          · exact ends stays .refl
          · exact ends goes (.single (.sought found within))
      | writeTo index sink =>
          obtain ⟨buffers, state⟩ := exists_reads_of_writeTo found sink
          exact ends state (steps_reads pool index buffers)
      | copy index => exact ends (state_copy_of_open found) (.single (.copied found))
      | close index => exact .single (step_close found)
      | drop index => exact ends (Pool.state_drop pool index) (.single (step_close found))
      | visit index callback =>
          exact ends (state_visit_of_open found callback) (.single (.visited some_open lent))

/-! ## What steps keep, runs keep -/

/-- What every step keeps, a use keeps. -/
theorem use_keeps {I : Pool (engine σ) → Prop}
    (keeps : ∀ {pool next}, I pool → Step lends pool next → I next) (holds : I pool)
    {use : Use σ τ} (lent : use.Lends lends) : I (pool.use use).2 := by
  have steps := steps_use pool lent
  generalize (pool.use use).2 = last at steps
  induction steps with
  | refl => exact holds
  | tail _ step ih => exact keeps ih step

/-- What every step keeps, a run keeps. -/
theorem afterRun_keeps {I : Pool (engine σ) → Prop}
    (keeps : ∀ {pool next}, I pool → Step lends pool next → I next) (holds : I pool)
    {uses : List (Use σ τ)} (lent : ∀ use ∈ uses, use.Lends lends) : I (pool.afterRun uses) :=
  runAll_keeps (P := I) (fun use member _ kept => use_keeps keeps kept (lent use member)) holds

end Payload.Direct
