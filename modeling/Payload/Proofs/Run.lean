import Payload.Proofs.Copies
import Payload.Source.Overheard
import Payload.Source.Recorded

/-!
# Runs over the copies of a body

A use asks one copy for one operation, and a run is any sequence of uses, over any of the copies in
any order.  What a run keeps is what every single use keeps, so a property of all runs is shown on
one use; where a body is read out into a sink it is shown on one round of that.

A recorded source writes down the calls that the body makes.  A callback that the source is lent to
works on the source inside, so its own calls stay off the record.
-/

namespace Payload

/-! ## Steps one after the other -/

/-- Take steps one after the other, and collect what each of them gives. -/
def runAll {α β state : Type} (step : state → α → β × state) : List α → state → List β × state
  | [], current => ([], current)
  | act :: rest, current =>
    let taken := step current act
    let others := runAll step rest taken.2
    (taken.1 :: others.1, others.2)

section

variable {α β state : Type} {step : state → α → β × state}

@[simp]
theorem runAll_nil (current : state) : runAll step [] current = ([], current) :=
  rfl

theorem runAll_cons (act : α) (rest : List α) (current : state) :
    runAll step (act :: rest) current =
      ((step current act).1 :: (runAll step rest (step current act).2).1,
        (runAll step rest (step current act).2).2) :=
  rfl

theorem runAll_append (first second : List α) (current : state) :
    runAll step (first ++ second) current =
      ((runAll step first current).1 ++ (runAll step second (runAll step first current).2).1,
        (runAll step second (runAll step first current).2).2) := by
  induction first generalizing current with
  | nil => rfl
  | cons act rest ih => simp [runAll_cons, ih]

theorem length_runAll (acts : List α) (current : state) :
    (runAll step acts current).1.length = acts.length := by
  induction acts generalizing current with
  | nil => rfl
  | cons act rest ih => rw [runAll_cons, List.length_cons, List.length_cons, ih]

/-- What every step keeps, all of them keep. -/
theorem runAll_keeps {P : state → Prop} {acts : List α}
    (keeps : ∀ act ∈ acts, ∀ current, P current → P (step current act).2)
    {current : state} (holds : P current) : P (runAll step acts current).2 := by
  induction acts generalizing current with
  | nil => exact holds
  | cons act rest ih =>
      rw [runAll_cons]
      exact ih (fun later member => keeps later (List.mem_cons_of_mem _ member))
        (keeps act List.mem_cons_self current holds)

end

/-! ## Uses of a body -/

/-- One operation asked of one copy, of a body over a source in `σ` and with sinks in `τ`. -/
inductive Use (σ τ : Type) where
  | read (index : Nat) (buffer : Buffer)
  | readAt (index : Nat) (buffer : Buffer) (offset : Nat)
  | seek (index : Nat) (offset whence : Int)
  | writeTo (index : Nat) (sink : τ)
  | copy (index : Nat)
  | close (index : Nat)
  | drop (index : Nat)
  | visit (index : Nat) (callback : σ → Option Unit × σ)

/-- What comes of a use. -/
inductive Receipt (τ : Type) where
  | bytes (reply : Reply ByteArray)
  | position (reply : Reply Nat)
  | written (reply : Reply Nat) (sink : τ)
  | plain (reply : Reply Unit)
  | lent (reply : Reply (Option Unit))

/-- Whether the call never came back. -/
def Receipt.brokeOff {τ : Type} : Receipt τ → Bool
  | bytes reply => reply.brokeOff
  | position reply => reply.brokeOff
  | written reply _ => reply.brokeOff
  | plain reply => reply.brokeOff
  | lent reply => reply.brokeOff

namespace Use

variable {σ τ : Type}

/-- The copy that is asked. -/
def index : Use σ τ → Nat
  | read index _ => index
  | readAt index _ _ => index
  | seek index _ _ => index
  | writeTo index _ => index
  | copy index => index
  | close index => index
  | drop index => index
  | visit index _ => index

/-- The source is lent to no callback but those allowed. -/
def Lends (lends : (σ → Option Unit × σ) → Prop) : Use σ τ → Prop
  | visit _ callback => lends callback
  | _ => True

/-- The same use of a body over a recorded source, with the calls of a callback off the record. -/
def unseen : Use σ τ → Use (Recorded σ) τ
  | read index buffer => read index buffer
  | readAt index buffer offset => readAt index buffer offset
  | seek index offset whence => seek index offset whence
  | writeTo index sink => writeTo index sink
  | copy index => copy index
  | close index => close index
  | drop index => drop index
  | visit index callback => visit index (Recorded.unseen callback)

/-- The same use of a body over an overheard source, with the reads of a callback unheard. -/
def unheard : Use σ τ → Use (Overheard σ) τ
  | read index buffer => read index buffer
  | readAt index buffer offset => readAt index buffer offset
  | seek index offset whence => seek index offset whence
  | writeTo index sink => writeTo index sink
  | copy index => copy index
  | close index => close index
  | drop index => drop index
  | visit index callback => visit index (Overheard.unheard callback)

/-- The source is not lent, and what is read out goes to sinks of this kind. -/
def Plain (willing : τ → Prop) : Use σ τ → Prop
  | visit _ _ => False
  | writeTo _ sink => willing sink
  | _ => True

/-- What is read out goes to sinks of this kind. -/
def Pours (willing : τ → Prop) : Use σ τ → Prop
  | writeTo _ sink => willing sink
  | _ => True

/-- Nothing is read out, and the source is lent to no callback but those allowed. -/
def Spares (lends : (σ → Option Unit × σ) → Prop) : Use σ τ → Prop
  | writeTo _ _ => False
  | visit _ callback => lends callback
  | _ => True

/-- The copy is read on, copied, closed or dropped, and nothing else. -/
def InSequence : Use σ τ → Prop
  | read _ _ => True
  | copy _ => True
  | close _ => True
  | drop _ => True
  | _ => False

theorem Plain.lends {willing : τ → Prop} {use : Use σ τ} (plain : use.Plain willing) :
    use.Lends fun _ => False := by
  cases use with
  | visit index callback => exact plain
  | _ => trivial

theorem Spares.mono {lends allows : (σ → Option Unit × σ) → Prop}
    {use : Use σ τ} (spares : use.Spares lends)
    (wider : ∀ callback, lends callback → allows callback) : use.Spares allows := by
  cases use with
  | visit index callback => exact wider callback spares
  | _ => exact spares

theorem Spares.pours {lends : (σ → Option Unit × σ) → Prop} {use : Use σ τ}
    (spares : use.Spares lends) (willing : τ → Prop) : use.Pours willing := by
  cases use with
  | writeTo index sink => exact spares.elim
  | _ => trivial

theorem InSequence.plain {use : Use σ τ} (inSequence : use.InSequence) (willing : τ → Prop) :
    use.Plain willing := by
  cases use with
  | writeTo index sink => exact inSequence.elim
  | visit index callback => exact inSequence.elim
  | _ => trivial

theorem InSequence.spares {use : Use σ τ} (inSequence : use.InSequence)
    (lends : (σ → Option Unit × σ) → Prop) : use.Spares lends := by
  cases use with
  | writeTo index sink => exact inSequence.elim
  | visit index callback => exact inSequence.elim
  | _ => trivial

theorem lends_unseen (use : Use σ τ) :
    use.unseen.Lends fun callback => ∃ inside, callback = Recorded.unseen inside := by
  cases use with
  | visit index callback => exact ⟨callback, rfl⟩
  | _ => trivial

theorem lends_map_unseen (uses : List (Use σ τ)) :
    ∀ use ∈ uses.map unseen,
      use.Lends fun callback => ∃ inside, callback = Recorded.unseen inside := by
  intro use member
  obtain ⟨plain, -, rfl⟩ := List.mem_map.mp member
  exact plain.lends_unseen

theorem lends_unheard {lends : (σ → Option Unit × σ) → Prop} {use : Use σ τ}
    (lent : use.Lends lends) :
    use.unheard.Lends fun callback => ∃ inside, lends inside ∧
      callback = Overheard.unheard inside := by
  cases use with
  | visit index callback => exact ⟨callback, lent, rfl⟩
  | _ => trivial

theorem lends_any (use : Use σ τ) : use.Lends fun _ => True := by
  cases use <;> trivial

end Use

section

variable {σ ρ κ τ : Type} [Sink τ] {engine : Engine σ ρ κ}

/-- An engine that moves a copy only where the copy is read on, read out or sought. -/
structure Engine.Still (engine : Engine σ ρ κ) : Prop where
  readAt : ∀ buffer offset record cursor,
    (engine.readAt buffer offset record cursor).cursor = cursor
  copy : ∀ record cursor, (engine.copy record cursor).cursor = cursor
  visit : ∀ (callback : σ → Option Unit × σ) record cursor,
    (engine.visit callback record cursor).cursor = cursor

namespace Pool

/-- Ask for one operation. -/
def use (pool : Pool engine) : Use σ τ → Receipt τ × Pool engine
  | .read index buffer =>
    let effect := pool.read index buffer
    (.bytes effect.reply, effect.state)
  | .readAt index buffer offset =>
    let effect := pool.readAt index buffer offset
    (.bytes effect.reply, effect.state)
  | .seek index offset whence =>
    let effect := pool.seek index offset whence
    (.position effect.reply, effect.state)
  | .writeTo index sink =>
    let step := pool.writeTo index sink
    (.written step.1.reply step.2, step.1.state)
  | .copy index =>
    let effect := pool.copy index
    (.plain effect.reply, effect.state)
  | .close index =>
    let effect := pool.close index
    (.plain effect.reply, effect.state)
  | .drop index =>
    let effect := pool.drop index
    (.plain effect.reply, effect.state)
  | .visit index callback =>
    let effect := pool.visit index callback
    (.lent effect.reply, effect.state)

/-- Ask for one operation after the other. -/
def run (uses : List (Use σ τ)) (pool : Pool engine) : List (Receipt τ) × Pool engine :=
  runAll Pool.use uses pool

/-- The pool that a run leaves. -/
def afterRun (uses : List (Use σ τ)) (pool : Pool engine) : Pool engine :=
  (pool.run uses).2

@[simp]
theorem afterRun_nil (pool : Pool engine) : pool.afterRun ([] : List (Use σ τ)) = pool :=
  rfl

@[simp]
theorem afterRun_cons (use : Use σ τ) (rest : List (Use σ τ)) (pool : Pool engine) :
    pool.afterRun (use :: rest) = (pool.use use).2.afterRun rest :=
  rfl

theorem run_cons (use : Use σ τ) (rest : List (Use σ τ)) (pool : Pool engine) :
    (pool.run (use :: rest)).1 = (pool.use use).1 :: ((pool.use use).2.run rest).1 :=
  rfl

theorem afterRun_append (first second : List (Use σ τ)) (pool : Pool engine) :
    pool.afterRun (first ++ second) = (pool.afterRun first).afterRun second := by
  simp [afterRun, run, runAll_append]

/-! ## What a use can change -/

/-- How a use of an open copy comes out, by the turn that its engine takes: what is handed back, and
the pool that is left. -/
inductive Acts (pool : Pool engine) (cursor : κ) : Use σ τ → Receipt τ × Pool engine → Prop where
  | read (index : Nat) (buffer : Buffer) :
      Acts pool cursor (.read index buffer)
        (.bytes (engine.read buffer pool.record cursor).reply,
          pool.put index (engine.read buffer pool.record cursor).record
            (engine.read buffer pool.record cursor).cursor)
  | readAt (index : Nat) (buffer : Buffer) (offset : Nat) :
      Acts pool cursor (.readAt index buffer offset)
        (.bytes (engine.readAt buffer offset pool.record cursor).reply,
          pool.put index (engine.readAt buffer offset pool.record cursor).record
            (engine.readAt buffer offset pool.record cursor).cursor)
  | seek (index : Nat) (offset whence : Int) :
      Acts pool cursor (.seek index offset whence)
        (.position (engine.seek offset whence pool.record cursor).reply,
          pool.put index (engine.seek offset whence pool.record cursor).record
            (engine.seek offset whence pool.record cursor).cursor)
  | writeTo (index : Nat) (sink : τ) :
      Acts pool cursor (.writeTo index sink)
        (.written (engine.writeTo sink pool.record cursor).1.reply
            (engine.writeTo sink pool.record cursor).2,
          pool.put index (engine.writeTo sink pool.record cursor).1.record
            (engine.writeTo sink pool.record cursor).1.cursor)
  | copied (index : Nat) {twin : κ} (made : (engine.copy pool.record cursor).reply = .done twin) :
      Acts pool cursor (.copy index)
        (.plain (.done ()),
          (pool.put index (engine.copy pool.record cursor).record
            (engine.copy pool.record cursor).cursor).add
              (engine.copy pool.record cursor).record (some twin))
  | uncopied (index : Nat)
      (unmade : ∀ twin, (engine.copy pool.record cursor).reply ≠ .done twin) :
      Acts pool cursor (.copy index)
        (.plain ((engine.copy pool.record cursor).reply.map fun _ => ()),
          pool.put index (engine.copy pool.record cursor).record
            (engine.copy pool.record cursor).cursor)
  | close (index : Nat) :
      Acts pool cursor (.close index)
        (.plain (engine.close pool.record cursor).reply,
          pool.remove index (engine.close pool.record cursor).record)
  /-- A failure of that is not handed back. -/
  | drop (index : Nat) :
      Acts pool cursor (.drop index)
        (.plain
            (match (engine.close pool.record cursor).reply with
            | .failed _ => .done ()
            | reply => reply),
          pool.remove index (engine.close pool.record cursor).record)
  | visit (index : Nat) (callback : σ → Option Unit × σ) :
      Acts pool cursor (.visit index callback)
        (.lent (engine.visit callback pool.record cursor).reply,
          pool.put index (engine.visit callback pool.record cursor).record
            (engine.visit callback pool.record cursor).cursor)

theorem Acts.of_eq {pool next next' : Pool engine} {cursor : κ} {use : Use σ τ}
    {receipt receipt' : Receipt τ} (acts : Acts pool cursor use (receipt, next))
    (same : receipt' = receipt) (left : next' = next) : Acts pool cursor use (receipt', next') := by
  rw [same, left]
  exact acts

/-- Every use of an open copy is a turn of the engine. -/
theorem acts_of_open {pool : Pool engine} {use : Use σ τ} {cursor : κ}
    (found : pool.cursor? use.index = some cursor) : Acts pool cursor use (pool.use use) := by
  cases use with
  | read index buffer =>
      obtain ⟨reply, state⟩ := act_of_open found .read (engine.read buffer)
      exact (Acts.read index buffer).of_eq (congrArg Receipt.bytes reply) state
  | readAt index buffer offset =>
      obtain ⟨reply, state⟩ := act_of_open found .readAt (engine.readAt buffer offset)
      exact (Acts.readAt index buffer offset).of_eq (congrArg Receipt.bytes reply) state
  | seek index offset whence =>
      obtain ⟨reply, state⟩ := act_of_open found .seek (engine.seek offset whence)
      exact (Acts.seek index offset whence).of_eq (congrArg Receipt.position reply) state
  | writeTo index sink =>
      obtain ⟨reply, state, sinks⟩ := writeTo_of_open found sink
      exact (Acts.writeTo index sink).of_eq (congr (congrArg Receipt.written reply) sinks) state
  | copy index =>
      by_cases made : ∃ twin, (engine.copy pool.record cursor).reply = .done twin
      · obtain ⟨twin, made⟩ := made
        obtain ⟨reply, state⟩ := copy_of_done found made
        exact (Acts.copied index made).of_eq (congrArg Receipt.plain reply) state
      · have unmade := not_exists.mp made
        obtain ⟨reply, state⟩ := copy_of_unmade found unmade
        exact (Acts.uncopied index unmade).of_eq (congrArg Receipt.plain reply) state
  | close index =>
      obtain ⟨reply, state⟩ := close_of_open found
      exact (Acts.close index).of_eq (congrArg Receipt.plain reply) state
  | drop index =>
      have reply := reply_drop_of_open found
      rw [(close_of_open found).1] at reply
      exact (Acts.drop index).of_eq (congrArg Receipt.plain reply)
        ((state_drop pool index).trans (close_of_open found).2)
  | visit index callback =>
      obtain ⟨reply, state⟩ := visit_of_open found callback
      exact (Acts.visit index callback).of_eq (congrArg Receipt.lent reply) state

/-- A use of a closed copy does nothing, but that a copy of it is closed as well. -/
theorem state_use_of_closed {pool : Pool engine} {use : Use σ τ}
    (missing : pool.cursor? use.index = none) :
    (pool.use use).2 = pool ∨ (pool.use use).2 = pool.add pool.record none := by
  cases use with
  | read index buffer => exact Or.inl (act_of_closed missing _ _).2
  | readAt index buffer offset => exact Or.inl (act_of_closed missing _ _).2
  | seek index offset whence => exact Or.inl (act_of_closed missing _ _).2
  | writeTo index sink => exact Or.inl (writeTo_of_closed missing sink).2.1
  | copy index => exact Or.inr (copy_of_closed missing).2
  | close index => exact Or.inl (close_of_closed missing).2
  | drop index => exact Or.inl ((state_drop pool index).trans (close_of_closed missing).2)
  | visit index callback => exact Or.inl (visit_of_closed missing callback).2

/-- A use of a closed copy does nothing to the record. -/
theorem record_use_of_closed {pool : Pool engine} {use : Use σ τ}
    (missing : pool.cursor? use.index = none) : (pool.use use).2.record = pool.record := by
  rcases state_use_of_closed missing with same | blank
  · rw [same]
  · rw [blank, record_add]

/-- What a read of an open copy keeps, reads of it keep, one after the other. -/
theorem reads_keep {P : Pool engine → Prop} (index : Nat)
    (keeps : ∀ {pool cursor}, P pool → pool.cursor? index = some cursor →
      ∀ buffer, P (pool.read index buffer).state)
    {pool : Pool engine} (holds : P pool) (buffers : List Buffer) :
    P (pool.afterRun (buffers.map (Use.read index : Buffer → Use σ τ))) := by
  refine runAll_keeps (fun use member current kept => ?_) holds
  obtain ⟨buffer, -, rfl⟩ := List.mem_map.mp member
  change P (current.read index buffer).state
  cases found : current.cursor? index with
  | none =>
      rw [read, (act_of_closed found _ _).2]
      exact kept
  | some cursor => exact keeps kept found buffer

/-- What a use can do to the copies, whatever the kind of body. -/
inductive Changed (pool : Pool engine) (use : Use σ τ) : Pool engine → Prop where
  | same : Changed pool use pool
  | put {cursor : κ} (found : pool.cursor? use.index = some cursor) (record : ρ) (next : κ) :
      Changed pool use (pool.put use.index record next)
  | joined {cursor : κ} (found : pool.cursor? use.index = some cursor) (record : ρ)
      (next twin : κ) :
      Changed pool use ((pool.put use.index record next).add record (some twin))
  /-- A copy of a closed copy is closed. -/
  | blank : Changed pool use (pool.add pool.record none)
  /-- Copies only go by being closed or dropped. -/
  | removed {cursor : κ} (found : pool.cursor? use.index = some cursor)
      (leaves : use = .close use.index ∨ use = .drop use.index) (record : ρ) :
      Changed pool use (pool.remove use.index record)

theorem changed_use (pool : Pool engine) (use : Use σ τ) : Changed pool use (pool.use use).2 := by
  cases found : pool.cursor? use.index with
  | none =>
      rcases state_use_of_closed found with same | blank
      · rw [same]
        exact .same
      · rw [blank]
        exact .blank
  | some cursor =>
      have acts := acts_of_open found
      generalize pool.use use = out at acts ⊢
      cases acts with
      | copied index made => exact .joined found _ _ _
      | close index => exact .removed found (Or.inl rfl) _
      | drop index => exact .removed found (Or.inr rfl) _
      | _ => exact .put found _ _

/-- Once all copies are closed nothing happens to the record any more. -/
theorem use_of_all_closed {pool : Pool engine} (all_closed : pool.openCount = 0)
    (use : Use σ τ) :
    (pool.use use).2.record = pool.record ∧ (pool.use use).2.openCount = 0 := by
  rcases state_use_of_closed (cursor?_eq_none_of_openCount all_closed use.index) with same | blank
  · rw [same]
    exact ⟨rfl, all_closed⟩
  · rw [blank, openCount, cursors_add_none]
    exact ⟨rfl, all_closed⟩

/-- The number of open copies only falls where one is closed or dropped. -/
theorem leaves_of_openCount_lt {pool : Pool engine} {use : Use σ τ}
    (fewer : (pool.use use).2.openCount < pool.openCount) :
    use = .close use.index ∨ use = .drop use.index := by
  have changed := changed_use pool use
  generalize (pool.use use).2 = next at changed fewer
  cases changed with
  | same => exact absurd fewer (Nat.lt_irrefl _)
  | put found =>
      rw [openCount_put found] at fewer
      exact absurd fewer (Nat.lt_irrefl _)
  | joined found =>
      rw [openCount_add_some, openCount_put found] at fewer
      exact absurd fewer (Nat.not_lt.mpr (Nat.le_succ _))
  | blank =>
      rw [openCount, cursors_add_none] at fewer
      exact absurd fewer (Nat.lt_irrefl _)
  | removed found leaves => exact leaves

/-- A use of one copy does nothing to another that is open. -/
theorem cursor?_use_of_ne {pool : Pool engine} {index : Nat} {cursor : κ}
    (found : pool.cursor? index = some cursor) {use : Use σ τ} (other : use.index ≠ index) :
    (pool.use use).2.cursor? index = some cursor := by
  have within := lt_length_of_cursor?_eq_some found
  have changed := changed_use pool use
  generalize (pool.use use).2 = next at changed ⊢
  cases changed with
  | same => exact found
  | put _ record next =>
      rw [cursor?_put_of_ne other]
      exact found
  | joined _ record next twin =>
      have still : index < (pool.put use.index record next).copies.length := by
        simpa [put] using within
      rw [cursor?_add_of_lt still, cursor?_put_of_ne other]
      exact found
  | blank =>
      rw [cursor?_add_of_lt within]
      exact found
  | removed _ leaves record =>
      rw [cursor?_remove_of_ne other]
      exact found

/-- No copy is forgotten. -/
theorem length_le_use (pool : Pool engine) (use : Use σ τ) :
    pool.copies.length ≤ (pool.use use).2.copies.length := by
  have changed := changed_use pool use
  generalize (pool.use use).2 = next at changed ⊢
  cases changed with
  | same => exact Nat.le_refl _
  | put => simp [put]
  | joined => simp [put, add]
  | blank => simp [add]
  | removed => simp [remove]

/-- A copy that is closed stays closed. -/
theorem use_of_closed {pool : Pool engine} {index : Nat} (within : index < pool.copies.length)
    (missing : pool.cursor? index = none) (use : Use σ τ) :
    index < (pool.use use).2.copies.length ∧ (pool.use use).2.cursor? index = none := by
  refine ⟨Nat.lt_of_lt_of_le within (length_le_use pool use), ?_⟩
  have changed := changed_use pool use
  generalize (pool.use use).2 = next at changed ⊢
  have apart {cursor : κ} (found : pool.cursor? use.index = some cursor) : use.index ≠ index := by
    rintro rfl
    rw [missing] at found
    cases found
  cases changed with
  | same => exact missing
  | put found record next =>
      rw [cursor?_put_of_ne (apart found)]
      exact missing
  | joined found record next twin =>
      have still : index < (pool.put use.index record next).copies.length := by
        simpa [put] using within
      rw [cursor?_add_of_lt still, cursor?_put_of_ne (apart found)]
      exact missing
  | blank =>
      rw [cursor?_add_of_lt within]
      exact missing
  | removed found leaves record =>
      rw [cursor?_remove_of_ne (apart found)]
      exact missing

/-- What a use can mean to a copy that is open, and to the pool that it leaves. -/
inductive Means (index : Nat) (cursor : κ) (use : Use σ τ) (next : Pool engine) : Prop where
  | read (buffer : Buffer) (asked : use = .read index buffer)
  | readOut (sink : τ) (asked : use = .writeTo index sink)
  | sought (offset whence : Int) (asked : use = .seek index offset whence)
  /-- The copy is left where it is, or closed. -/
  | idle (unread : ∀ buffer, use ≠ .read index buffer)
      (unpoured : ∀ sink, use ≠ .writeTo index sink)
      (left : next.cursor? index = some cursor ∨ next.cursor? index = none)

/-- With an engine that keeps still a copy only moves where it is read on, read out or sought. -/
theorem means_use (still : engine.Still) {pool : Pool engine} {index : Nat} {cursor : κ}
    (found : pool.cursor? index = some cursor) (use : Use σ τ) :
    Means index cursor use (pool.use use).2 := by
  have stays (record : ρ) {place : κ} (same : place = cursor) :
      (pool.put index record place).cursor? index = some cursor :=
    (cursor?_put_self found record place).trans (congrArg some same)
  by_cases same : use.index = index
  · subst same
    have acts := acts_of_open found
    generalize pool.use use = out at acts ⊢
    cases acts with
    | read index buffer => exact .read buffer rfl
    | writeTo index sink => exact .readOut sink rfl
    | seek index offset whence => exact .sought offset whence rfl
    | readAt index buffer offset =>
        exact .idle (by simp) (by simp) (Or.inl (stays _ (still.readAt buffer offset _ _)))
    | copied index made =>
        have within : index < (pool.put index (engine.copy pool.record cursor).record
            (engine.copy pool.record cursor).cursor).copies.length := by
          rw [put, List.length_set]
          exact lt_length_of_cursor?_eq_some found
        exact .idle (by simp) (by simp)
          (Or.inl ((cursor?_add_of_lt within _ _).trans (stays _ (still.copy _ _))))
    | uncopied index unmade => exact .idle (by simp) (by simp) (Or.inl (stays _ (still.copy _ _)))
    | close index => exact .idle (by simp) (by simp) (Or.inr (cursor?_remove_self _ _ _))
    | drop index => exact .idle (by simp) (by simp) (Or.inr (cursor?_remove_self _ _ _))
    | visit index callback =>
        exact .idle (by simp) (by simp) (Or.inl (stays _ (still.visit callback _ _)))
  · exact .idle (fun buffer asked => same (asked ▸ rfl)) (fun sink asked => same (asked ▸ rfl))
      (Or.inl (cursor?_use_of_ne found same))

theorem cursor?_afterRun_of_closed {pool : Pool engine} {index : Nat}
    (within : index < pool.copies.length) (missing : pool.cursor? index = none)
    (uses : List (Use σ τ)) : (pool.afterRun uses).cursor? index = none :=
  (runAll_keeps
    (P := fun pool : Pool engine => index < pool.copies.length ∧ pool.cursor? index = none)
    (fun use _ _ closed => use_of_closed closed.1 closed.2 use) ⟨within, missing⟩).2

end Pool

end

end Payload
