import Payload.Proofs.Memory
import Payload.Proofs.States

/-!
# No failure is an interruption

Every loop over a source or a sink asks again after an interruption, so what such a loop fails with
is final.  What a read or reading out fails with comes from such a loop, from the checks before it
or from the terminal on record; and the terminal on record comes from such a loop itself.  Only the
calls that are made once can fail with an interruption: to close a source, and to move it.
-/

namespace Payload

/-- An error behind which there is no interruption. -/
def Error.Final (error : Error) : Prop :=
  ∀ fault, error.cause = .fault fault → fault.interrupts = false

/-- An end, or a failure that is no interruption. -/
def Terminal.Final (terminal : Terminal) : Prop :=
  ∀ fault, terminal = .failed fault → fault.interrupts = false

/-- A read or reading out did not fail with an interruption. -/
def Receipt.Final {τ : Type} : Receipt τ → Prop
  | bytes reply => ∀ error, reply = .failed error → error.Final
  | written reply _ => ∀ error, reply = .failed error → error.Final
  | _ => True

theorem Error.final_fault {operation : Operation} {fault : Fault}
    (final : fault.interrupts = false) : Error.Final ⟨operation, .fault fault⟩ := by
  rintro _ ⟨⟩
  exact final

theorem Terminal.Final.error {terminal : Terminal} (final : terminal.Final)
    (operation : Operation) : (terminal.error operation).Final := by
  cases terminal with
  | ended => exact nofun
  | failed fault => exact Error.final_fault (final fault rfl)

variable {σ τ ρ κ : Type}

/-! ## The loops -/

theorem Source.final_readSteady [Source σ] {want tries : Nat} {source : σ} {fault : Fault}
    (failed : (Source.readSteady want tries source).1 = .failed fault) :
    fault.interrupts = false := by
  induction tries generalizing source with
  | zero => cases failed
  | succ tries ih =>
      unfold Source.readSteady at failed
      split at failed
      · split at failed
        · exact ih failed
        · rename_i final
          cases failed
          simpa using final
      · rename_i reading next other came
        obtain rfl : reading = .failed fault := failed
        exact absurd rfl (other fault)

theorem Sink.final_takeFrom [Sink τ] {bytes : ByteArray} {tries start : Nat} {sink : τ}
    {fault : Fault} (failed : (Sink.takeFrom bytes tries start sink).1 = .failed fault) :
    fault.interrupts = false := by
  induction tries generalizing start sink with
  | zero => cases failed
  | succ tries ih =>
      unfold Sink.takeFrom at failed
      split at failed
      · cases failed
      · split at failed
        · cases failed
          rfl
        · split at failed
          · cases failed
          · exact ih failed
        · split at failed
          · exact ih failed
          · rename_i final
            cases failed
            simpa using final
        · cases failed

/-- Reading out fails with no interruption where its reads do not. -/
theorem final_pump [Sink τ] {read : Buffer → ρ → κ → Turn ρ κ ByteArray} {I : ρ → κ → Prop}
    (keeps : ∀ buffer record cursor, I record cursor →
      I (read buffer record cursor).record (read buffer record cursor).cursor)
    (final : ∀ buffer record cursor, I record cursor →
      ∀ error, (read buffer record cursor).reply = .failed error → error.Final)
    (buffer : Buffer) (sink : τ) {record : ρ} {cursor : κ} (holds : I record cursor) {error : Error}
    (failed : (pump read buffer sink record cursor).1.reply = .failed error) : error.Final := by
  obtain ⟨reached, last, record', cursor', kept, pumped⟩ :=
    pump_rule read (I := fun _ (_ : τ) => I)
      (fun _ _ record cursor buffer _ _ held _ _ _ => keeps buffer record cursor held)
      buffer sink rfl holds
  generalize pump read buffer sink record cursor = out at pumped failed
  cases pumped with
  | endless => cases failed
  | broke => cases failed
  | swallowed => cases failed
  | refused notes sized done offer =>
      cases failed
      exact Error.final_fault (Sink.final_takeFrom (congrArg Prod.fst offer))
  | @stopped buffer met notes sized stopped =>
      dsimp only at failed
      split at failed
      · cases failed
      · cases failed
        exact final buffer record' cursor' kept met stopped

/-! ## Bytes in memory -/

namespace Memory

theorem final_read {want : Nat} {data : ByteArray} {cursor : Cursor} {error : Error}
    (failed : (read want data cursor).reply = .failed error) : error.Final := by
  have reads := reads want data cursor
  generalize read want data cursor = turn at reads failed
  cases reads with
  | ended =>
      cases failed
      exact nofun
  | spent =>
      cases failed
      exact nofun
  | nothing => cases failed
  | overrun => cases failed
  | gave => cases failed

theorem final_readAt {want offset : Nat} {data : ByteArray} {cursor : Cursor} {error : Error}
    (failed : (readAt want offset data cursor).reply = .failed error) : error.Final := by
  unfold readAt at failed
  split at failed
  · cases failed
  · split at failed
    · cases failed
      exact nofun
    · cases failed

theorem final_spill [Sink τ] {data : ByteArray} {tries total : Nat} {sink : τ} {cursor : Cursor}
    {error : Error} (failed : (spill data tries total sink cursor).1.reply = .failed error) :
    error.Final := by
  induction tries generalizing total sink cursor with
  | zero => cases failed
  | succ tries ih =>
      unfold spill at failed
      split at failed
      · cases failed
      · split at failed
        · cases failed
        · split at failed
          · cases failed
            exact Error.final_fault rfl
          · split at failed
            · cases failed
            · exact ih failed
          · split at failed
            · exact ih failed
            · rename_i final
              cases failed
              exact Error.final_fault (by simpa using final)
          · cases failed

theorem final_writeTo [Sink τ] {sink : τ} {data : ByteArray} {cursor : Cursor} {error : Error}
    (failed : (writeTo sink data cursor).1.reply = .failed error) : error.Final := by
  unfold writeTo at failed
  split at failed
  · cases failed
  · exact final_spill failed

end Memory

/-! ## Direct bodies -/

/-- Sources that, where they can be moved, can be moved to any position that can be addressed. -/
structure Source.Moves [Source σ] (good : σ → Prop) : Prop where
  works : ∀ {source next}, good source → Works source next → good next
  seek : ∀ {source}, good source → seekable source = true → ∀ position ≤ maxOffset,
    ∃ place moved, Source.seek (.start position) source = (.done place, moved)

theorem Source.Moves.worked [Source σ] {good : σ → Prop} (moves : Moves good) {source next : σ}
    (fine : good source) (worked : Relation.ReflTransGen Works source next) : good next := by
  induction worked with
  | refl => exact fine
  | tail _ works ih => exact moves.works ih works

namespace Direct

variable [Source σ] {good : σ → Prop} {direct : Direct σ}

/-- If the source is moved for every read, it is one that can be. -/
structure Movable (good : σ → Prop) (direct : Direct σ) : Prop where
  moves : direct.access = .seeking → Source.Moves good
  fine : direct.access = .seeking → direct.custody.held = true → good direct.custody.source

theorem Movable.served {next : Direct σ} (movable : Movable good direct)
    (served : Served direct next) : Movable good next where
  moves access := movable.moves (served.access.symm.trans access)
  fine access held :=
    have moved := served.access.symm.trans access
    (movable.moves moved).worked (movable.fine moved (served.held.symm.trans held)) served.works

/-- A question that is not put to the source does not fail with an interruption. -/
theorem Movable.final_ask {next : Direct σ} (movable : Movable good direct) {operation : Operation}
    {want position : Nat} (addressable : position ≤ maxOffset) {error : Error}
    (asked : direct.ask operation want position = (.failed error, next)) : error.Final := by
  unfold ask at asked
  split at asked
  · cases asked
    exact nofun
  · split at asked
    · cases asked
      exact nofun
    · rename_i held
      replace held : direct.custody.held = true := by simpa using held
      split at asked
      · split at asked
        · cases asked
        · cases asked
          exact nofun
      · rename_i access
        split at asked
        · rename_i offered
          obtain ⟨place, moved, sought⟩ :=
            (movable.moves access).seek (movable.fine access held) offered position addressable
          rw [seekRead, sought] at asked
          cases asked
        · cases asked
          exact nofun

theorem Movable.final_fetch (movable : Movable good direct) {operation : Operation}
    {buffer : Buffer} {want offset : Nat} {error : Error}
    (failed : (direct.fetch operation buffer want offset).1 = .failed error) : error.Final := by
  unfold fetch at failed
  dsimp only at failed
  split at failed
  · cases failed
    exact Error.final_fault rfl
  · rename_i within
    have keeps (current : Direct σ) (fault : Fault) (next : Direct σ)
        (movable : Movable good current)
        (asked : current.ask operation want (direct.base + offset) =
          (.done (.failed fault), next)) : Movable good next := by
      have served := served_ask operation want (direct.base + offset) current
      rw [asked] at served
      exact movable.served served
    obtain ⟨left, last, still, settles⟩ := askSteady_rule buffer (I := fun _ => Movable good)
      (fun _ current fault next movable asked _ => keeps current fault next movable asked)
      (Source.patience direct.custody.source + 1) movable
    generalize direct.askSteady operation buffer want _ _ = out at settles failed
    cases settles with
    | exhausted => cases failed
    | gave => cases failed
    | absurd => cases failed
    | broke => cases failed
    | lost => cases failed
    | failed asked final =>
        cases failed
        exact Error.final_fault final
    | refused asked =>
        cases failed
        exact still.final_ask (Nat.le_of_not_lt within) asked

theorem Movable.final_read (movable : Movable good direct) {buffer : Buffer} {cursor : Cursor}
    {error : Error} (failed : (direct.read buffer cursor).reply = .failed error) :
    error.Final := by
  have reads := reads buffer direct cursor
  generalize direct.read buffer cursor = turn at reads failed
  cases reads with
  | ended =>
      cases failed
      exact nofun
  | nothing => cases failed
  | past =>
      cases failed
      exact nofun
  | dry =>
      cases failed
      exact nofun
  | gave => cases failed
  | broke => cases failed
  | failed going asks within fetched =>
      cases failed
      exact movable.final_fetch (congrArg Prod.fst fetched)

theorem Movable.final_readAt (movable : Movable good direct) {buffer : Buffer} {offset : Nat}
    {cursor : Cursor} {error : Error}
    (failed : (direct.readAt buffer offset cursor).reply = .failed error) : error.Final := by
  have reads := readsAt buffer offset direct cursor
  generalize direct.readAt buffer offset cursor = turn at reads failed
  cases reads with
  | nothing => cases failed
  | past =>
      cases failed
      exact nofun
  | dry =>
      cases failed
      exact nofun
  | gave => cases failed
  | broke => cases failed
  | failed asks within fetched =>
      cases failed
      exact movable.final_fetch (congrArg Prod.fst fetched)

theorem Movable.final_writeTo [Sink τ] (movable : Movable good direct) {sink : τ} {cursor : Cursor}
    {error : Error} (failed : (writeTo sink direct cursor).1.reply = .failed error) :
    error.Final :=
  final_pump (I := fun direct _ => Movable good direct)
    (fun buffer _ cursor movable => movable.served (reads buffer _ cursor).served)
    (fun _ _ _ movable _ failed => movable.final_read failed) _ sink movable failed

end Direct

/-! ## Buffered bodies -/

namespace Buffered

variable [Source σ] {lends : (σ → Option Unit × σ) → Prop} {record : Buffered σ} {cursor : Cursor}

/-- The source came to no end yet, or to one that is not an interruption. -/
def Resolved (record : Buffered σ) : Prop :=
  ∀ terminal, record.terminal = some terminal → terminal.Final

theorem final_draw {known : Bool} {count : Nat} {source next : σ} {intake : Intake}
    (drawn : draw known count source = (some intake, next)) {terminal : Terminal}
    (stopped : intake.stopped = some terminal) : terminal.Final := by
  unfold draw at drawn
  split at drawn
  · cases drawn
    cases stopped
  · obtain ⟨taken, -⟩ := Prod.mk.inj drawn
    unfold intake? at taken
    split at taken
    · obtain ⟨content, -, rfl⟩ := Option.map_eq_some_iff.mp taken
      split at stopped
      · cases known with
        | true =>
            cases stopped
            rintro _ ⟨⟩
            rfl
        | false =>
            cases stopped
            exact nofun
      · cases stopped
    · rename_i fault failed
      cases taken
      cases stopped
      rintro _ ⟨⟩
      exact Source.final_readSteady failed
    · cases taken

theorem Resolved.fill (resolved : Resolved record) {shortfall : Nat} {fill : Fill σ}
    (fills : Fills record shortfall fill) : Resolved fill.record := by
  cases fills with
  | released => exact resolved
  | crowded => exact resolved
  | broken => exact resolved
  | filled notes held fits drawn longer =>
      intro terminal met
      change terminalAfter _ _ _ = some terminal at met
      unfold terminalAfter at met
      split at met
      · cases met
        exact nofun
      · exact final_draw drawn met

theorem Resolved.read (resolved : Resolved record) {want : Nat}
    {turn : Turn (Buffered σ) Cursor ByteArray} (reads : Reads want record cursor turn) :
    Resolved turn.record := by
  cases reads with
  | ended => exact resolved
  | poisoned => exact resolved
  | broke going sound running short fills => exact resolved.fill fills
  | served going sound enough delivers =>
      unfold Resolved
      rw [delivers.terminal]
      exact resolved
  | filled going sound running short fills intact delivers =>
      unfold Resolved
      rw [delivers.terminal]
      exact resolved.fill fills

/-- No step puts an interruption on record. -/
theorem Resolved.step {pool next : Pool (engine σ)} (resolved : Resolved pool.record)
    (step : Step lends pool next) : Resolved next.record := by
  cases step with
  | read found reads => exact resolved.read reads
  | copied => exact resolved
  | blank => exact resolved
  | left => exact resolved
  | last => exact nofun
  | visited => exact resolved

omit [Source σ] in
theorem resolved_start (source : σ) (length : Option Nat) (blockSize : Nat) :
    Resolved (start source length blockSize) :=
  nofun

theorem Resolved.afterRun [Sink τ] {pool : Pool (engine σ)} (resolved : Resolved pool.record)
    (balanced : Balanced pool) (uses : List (Use σ τ)) :
    Resolved (pool.afterRun uses).record :=
  (afterRun_keeps (fun _ => True) (I := fun pool => Resolved pool.record)
    (fun _ resolved step => resolved.step step) balanced resolved fun use _ => use.lends_any).2

omit [Source σ] in
theorem Delivers.final {goal : Nat} {turn : Turn (Buffered σ) Cursor ByteArray}
    (delivers : Delivers goal record cursor turn) (resolved : Resolved record) {error : Error}
    (failed : turn.reply = .failed error) : error.Final := by
  rcases delivers.reply with ⟨bytes, reply, -, -⟩ | ⟨terminal, met, -, reply⟩
  · rw [reply] at failed
    cases failed
  · rw [reply] at failed
    cases failed
    have on_record := (delivers.meets met).1
    rw [delivers.terminal] at on_record
    exact (resolved terminal on_record).error .read

/-- What a read fails with is on record, or was found to be in the way. -/
theorem Reads.final {pool : Pool (engine σ)} {index want : Nat}
    {turn : Turn (Buffered σ) Cursor ByteArray} (reads : Reads want pool.record cursor turn)
    (found : pool.cursor? index = some cursor) (agreed : Agreed pool)
    (resolved : Resolved pool.record) {error : Error} (failed : turn.reply = .failed error) :
    error.Final := by
  cases reads with
  | @ended terminal met =>
      cases failed
      have on_record := (agreed cursor (Pool.mem_cursors_iff.mpr ⟨_, found⟩) terminal met).1
      exact (resolved terminal on_record).error .read
  | poisoned =>
      cases failed
      exact nofun
  | broke => cases failed
  | served going sound enough delivers => exact delivers.final resolved failed
  | filled going sound running short fills intact delivers =>
      exact delivers.final (resolved.fill fills) failed

theorem final_writeTo [Sink τ] {pool : Pool (engine σ)} {index : Nat} (orderly : Orderly pool)
    (resolved : Resolved pool.record) (found : pool.cursor? index = some cursor) {sink : τ}
    {error : Error} (failed : (writeTo sink pool.record cursor).1.reply = .failed error) :
    error.Final := by
  unfold writeTo at failed
  dsimp only at failed
  split at failed
  · cases failed
  · refine final_pump
      (I := fun record current => Orderly (pool.put index record current) ∧ Resolved record)
      (fun buffer record current holds => ?_) (fun buffer record current holds error failed => ?_)
      _ sink ⟨(Pool.put_self found).symm ▸ orderly, resolved⟩ failed
    · obtain ⟨reads, onwards⟩ := holds.1.reads_put found buffer.size
      exact ⟨onwards, holds.2.read reads⟩
    · obtain ⟨reads, -⟩ := holds.1.reads_put found buffer.size
      exact reads.final (Pool.cursor?_put_self found record current) holds.1.agreed holds.2 failed

end Buffered

/-! ## Receipts -/

theorem Pool.final_act {α : Type} {engine : Engine σ ρ κ} {pool : Pool engine} {index : Nat}
    {operation : Operation} {turn : ρ → κ → Turn ρ κ α}
    (final : ∀ cursor error, pool.cursor? index = some cursor →
      (turn pool.record cursor).reply = .failed error → error.Final)
    {error : Error} (failed : (pool.act index operation turn).reply = .failed error) :
    error.Final := by
  cases found : pool.cursor? index with
  | none =>
      cases (act_of_closed found operation turn).1.symm.trans failed
      exact nofun
  | some cursor =>
      exact final cursor error found ((act_of_open found operation turn).1.symm.trans failed)

theorem Pool.final_use [Sink τ] {engine : Engine σ ρ κ} {pool : Pool engine} {use : Use σ τ}
    (read : ∀ buffer cursor error, pool.cursor? use.index = some cursor →
      (engine.read buffer pool.record cursor).reply = .failed error → error.Final)
    (readAt : ∀ buffer offset cursor error, pool.cursor? use.index = some cursor →
      (engine.readAt buffer offset pool.record cursor).reply = .failed error → error.Final)
    (writeTo : ∀ (sink : τ) cursor error, pool.cursor? use.index = some cursor →
      (engine.writeTo sink pool.record cursor).1.reply = .failed error → error.Final) :
    (pool.use use).1.Final := by
  cases use with
  | read index buffer => exact fun error failed => Pool.final_act (read buffer) failed
  | readAt index buffer offset =>
      exact fun error failed => Pool.final_act (readAt buffer offset) failed
  | writeTo index sink =>
      intro error failed
      cases found : pool.cursor? index with
      | none =>
          cases (Pool.writeTo_of_closed found sink).1.symm.trans failed
          exact nofun
      | some cursor =>
          exact writeTo sink cursor error found
            ((Pool.writeTo_of_open found sink).1.symm.trans failed)
  | seek => trivial
  | copy => trivial
  | close => trivial
  | drop => trivial
  | visit => trivial

end Payload
