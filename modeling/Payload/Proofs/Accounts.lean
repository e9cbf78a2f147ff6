import Payload.Engine.Custody
import Payload.Proofs.Pump

/-!
# Why an operation fails

An operation fails under its own name, whichever copy met the cause first, and each operation has
only some of the causes.  `Fails` lists them for an open copy.  A call accounts for how it came out
when its failure is on that list, and when it has poisoned nothing unless it broke off.  If the
calls of an engine do, then so does every use of an open copy; a closed copy says that it is closed,
whatever it is asked for.
-/

namespace Payload

/-- Whether a copy is asked to go by offsets, as only some kinds of bodies can. -/
def Operation.positions : Operation → Bool
  | readAt => true
  | seek => true
  | _ => false

/-- What can be wrong with an operation on an open copy, whose body is read in sequence or not, and
is poisoned or not. -/
inductive Fails (sequential poisoned : Bool) (operation : Operation) : Cause → Prop where
  | unsupported (sequence : sequential = true) (positions : operation.positions = true) :
      Fails sequential poisoned operation .unsupported
  | endOfStream (offered : (sequential && operation.positions) = false)
      (reads : operation = .read ∨ operation = .readAt) :
      Fails sequential poisoned operation .endOfStream
  | seek (error : SeekError) (offered : (sequential && operation.positions) = false)
      (seeks : operation = .seek) : Fails sequential poisoned operation (.seek error)
  | poisoned (offered : (sequential && operation.positions) = false) (spoiled : poisoned = true) :
      Fails sequential poisoned operation .poisoned
  /-- The source or the sink failed. -/
  | fault (fault : Fault) (offered : (sequential && operation.positions) = false) :
      Fails sequential poisoned operation (.fault fault)

/-- What stops a read stops reading out, unless it is the end. -/
theorem Fails.of_read {sequential poisoned : Bool} {cause : Cause}
    (fails : Fails sequential poisoned .read cause) (further : cause ≠ .endOfStream) :
    Fails sequential poisoned .writeTo cause := by
  cases fails with
  | unsupported sequence positions => cases positions
  | endOfStream => exact absurd rfl further
  | seek error offered seeks => cases seeks
  | poisoned offered spoiled => exact .poisoned offered spoiled
  | fault fault offered => exact .fault fault offered

/-- A call that was asked for an operation, or for nothing that can fail, and turned one record into
the next: a failure names the operation and one of its causes, and unless the call broke off it
poisoned nothing. -/
structure Accounts {ρ α : Type} (sequential : Bool) (poisoned : ρ → Bool)
    (asked : Option Operation) (record next : ρ) (reply : Reply α) : Prop where
  fails : ∀ error, reply = .failed error →
    asked = some error.operation ∧
      Fails sequential (poisoned record) error.operation error.cause
  spares : reply ≠ .broke → poisoned next = poisoned record

namespace Accounts

variable {ρ α β : Type} {sequential : Bool} {poisoned : ρ → Bool} {asked : Option Operation}
  {record next : ρ}

theorem done (value : α) (same : poisoned next = poisoned record) :
    Accounts sequential poisoned asked record next (.done value : Reply α) :=
  ⟨nofun, fun _ => same⟩

theorem broke : Accounts sequential poisoned asked record next (.broke : Reply α) :=
  ⟨nofun, absurd rfl⟩

theorem failed {operation : Operation} {cause : Cause}
    (fails : Fails sequential (poisoned record) operation cause)
    (same : poisoned next = poisoned record) :
    Accounts sequential poisoned (some operation) record next
      (.failed ⟨operation, cause⟩ : Reply α) := by
  constructor
  · intro error said
    cases said
    exact ⟨rfl, fails⟩
  · exact fun _ => same

theorem map {reply : Reply α} (accounts : Accounts sequential poisoned asked record next reply)
    (value : α → β) : Accounts sequential poisoned asked record next (reply.map value) := by
  cases reply with
  | done came => exact done (value came) (accounts.spares nofun)
  | failed error =>
      refine ⟨fun other said => ?_, fun _ => accounts.spares nofun⟩
      cases said
      exact accounts.fails error rfl
  | broke => exact broke

end Accounts

/-! ## Reading out -/

/-- Reading out accounts for how it comes out, wherever its reads do. -/
theorem pump_accounts {ρ κ τ : Type} [Sink τ] {sequential : Bool} {poisoned : ρ → Bool}
    {read : Buffer → ρ → κ → Turn ρ κ ByteArray} {I : ρ → κ → Prop}
    (keeps : ∀ buffer record cursor bytes, I record cursor →
      (read buffer record cursor).reply = .done bytes →
      I (read buffer record cursor).record (read buffer record cursor).cursor)
    (accounts : ∀ buffer record cursor, I record cursor →
      Accounts sequential poisoned (some .read) record (read buffer record cursor).record
        (read buffer record cursor).reply)
    (buffer : Buffer) (sink : τ) {record : ρ} {cursor : κ} (holds : I record cursor) :
    Accounts sequential poisoned (some .writeTo) record
      (pump read buffer sink record cursor).1.record
      (pump read buffer sink record cursor).1.reply := by
  obtain ⟨reached, last, record', cursor', ⟨kept, same⟩, pumped⟩ :=
    pump_rule read
      (I := fun _ (_ : τ) record' cursor' => I record' cursor' ∧
        poisoned record' = poisoned record)
      (fun _ _ record' cursor' buffer bytes _ ⟨kept, same⟩ _ done _ =>
        ⟨keeps buffer record' cursor' bytes kept done,
          ((accounts buffer record' cursor' kept).spares (by rw [done]; nofun)).trans same⟩)
      buffer sink rfl ⟨holds, rfl⟩
  generalize pump read buffer sink record cursor = out at pumped ⊢
  cases pumped with
  | endless => exact .broke
  | @stopped buffer error notes sized failed =>
      obtain ⟨fails, spares⟩ := accounts buffer record' cursor' kept
      rw [failed] at fails spares
      have spared := (spares nofun).trans same
      obtain ⟨named, caused⟩ := fails error rfl
      dsimp only
      split
      · exact .done reached spared
      · rename_i further
        have read : error.operation = .read := (Option.some.inj named).symm
        rw [read, same] at caused
        exact .failed (caused.of_read (by simpa [Error.isEnd] using further)) spared
  | broke => exact .broke
  | @refused buffer bytes fault next notes sized done =>
      have spares := (accounts buffer record' cursor' kept).spares
      rw [done] at spares
      exact .failed (.fault fault (Bool.and_false _)) ((spares nofun).trans same)
  | swallowed => exact .broke

/-! ## Moving -/

/-- A seek is refused for what is wrong with it, or works. -/
theorem Cursor.accounts_seek {ρ : Type} (poisoned : ρ → Bool) (length : Nat) (offset whence : Int)
    (record : ρ) (cursor : Cursor) :
    Accounts false poisoned (some .seek) record
      (cursor.seek length offset whence record).record
      (cursor.seek length offset whence record).reply := by
  rcases cursor.seek_cases length offset whence record with
    ⟨error, refused⟩ | ⟨position, within, arrives⟩
  · rw [refused]
    exact .failed (.seek error rfl rfl) rfl
  · rw [arrives]
    exact .done position rfl

/-! ## The custody of a source -/

section

variable {σ α : Type} {sequential : Bool}

/-- To lend a source fails nothing. -/
theorem Custody.accounts_visit (custody : Custody σ) (callback : σ → Option α × σ) :
    Accounts sequential Custody.poisoned none custody (custody.visit callback).2
      (custody.visit callback).1 := by
  refine ⟨fun error failed => ?_, Custody.poisoned_visit⟩
  unfold visit at failed
  split at failed
  · cases failed
  · split at failed
    · cases failed
    · cases failed

/-- To close a source fails as the source does, and poisons nothing. -/
theorem Custody.accounts_close [Source σ] (custody : Custody σ) (note : Note) :
    Accounts sequential Custody.poisoned (some .close) custody (custody.close note).2.1
      (custody.close note).1 := by
  unfold close
  split
  · dsimp only
    cases (Source.close custody.source).1 with
    | done value => exact .done value rfl
    | failed fault => exact .failed (.fault fault (Bool.and_false _)) rfl
    | broke => exact .broke
  · exact .done () rfl

end

/-! ## Every use -/

variable {σ ρ κ τ : Type} [Sink τ]

/-- The operation that is asked for.  To drop a copy or to lend its source is none that fails. -/
def Use.operation? : Use σ τ → Option Operation
  | read _ _ => some .read
  | readAt _ _ _ => some .readAt
  | seek _ _ _ => some .seek
  | writeTo _ _ => some .writeTo
  | copy _ => some .copy
  | close _ => some .close
  | drop _ => none
  | visit _ _ => none

/-- How a use came out, whatever it gave. -/
def Receipt.outcome : Receipt τ → Reply Unit
  | bytes reply => reply.map fun _ => ()
  | position reply => reply.map fun _ => ()
  | written reply _ => reply.map fun _ => ()
  | plain reply => reply
  | lent reply => reply.map fun _ => ()

omit [Sink τ] in
theorem Receipt.outcome_eq_broke_iff {receipt : Receipt τ} :
    receipt.outcome = .broke ↔ receipt.brokeOff = true := by
  have mapped {α : Type} (reply : Reply α) :
      reply.map (fun _ => ()) = .broke ↔ reply.brokeOff = true := by
    cases reply <;> simp [Outcome.map, Outcome.brokeOff]
  cases receipt with
  | plain reply => cases reply <;> simp [outcome, brokeOff, Outcome.brokeOff]
  | _ => exact mapped _

/-- Every call of an engine on this record accounts for how it comes out. -/
structure Engine.Accountable (τ : Type) [Sink τ] (engine : Engine σ ρ κ) (sequential : Bool)
    (poisoned : ρ → Bool) (record : ρ) (cursor : κ) : Prop where
  read : ∀ buffer, Accounts sequential poisoned (some .read) record
    (engine.read buffer record cursor).record (engine.read buffer record cursor).reply
  readAt : ∀ buffer offset, Accounts sequential poisoned (some .readAt) record
    (engine.readAt buffer offset record cursor).record
    (engine.readAt buffer offset record cursor).reply
  seek : ∀ offset whence, Accounts sequential poisoned (some .seek) record
    (engine.seek offset whence record cursor).record
    (engine.seek offset whence record cursor).reply
  writeTo : ∀ sink : τ, Accounts sequential poisoned (some .writeTo) record
    (engine.writeTo sink record cursor).1.record (engine.writeTo sink record cursor).1.reply
  copy : Accounts sequential poisoned (some .copy) record
    (engine.copy record cursor).record (engine.copy record cursor).reply
  close : Accounts sequential poisoned (some .close) record
    (engine.close record cursor).record (engine.close record cursor).reply
  visit : ∀ callback : σ → Option Unit × σ, Accounts sequential poisoned none record
    (engine.visit callback record cursor).record (engine.visit callback record cursor).reply

namespace Pool

variable {engine : Engine σ ρ κ} {pool : Pool engine}

/-- Every use of an open copy accounts for how it comes out. -/
theorem accounts_use {cursor : κ} {sequential : Bool} {poisoned : ρ → Bool} {use : Use σ τ}
    (found : pool.cursor? use.index = some cursor)
    (accounts : engine.Accountable τ sequential poisoned pool.record cursor) :
    Accounts sequential poisoned use.operation? pool.record (pool.use use).2.record
      (pool.use use).1.outcome := by
  have acts := acts_of_open found
  generalize pool.use use = out at acts ⊢
  cases acts with
  | read index buffer => exact (accounts.read buffer).map _
  | readAt index buffer offset => exact (accounts.readAt buffer offset).map _
  | seek index offset whence => exact (accounts.seek offset whence).map _
  | writeTo index sink => exact (accounts.writeTo sink).map _
  | copied index made => exact .done () (accounts.copy.spares (by rw [made]; nofun))
  | uncopied index unmade => exact accounts.copy.map _
  | close index => exact accounts.close
  | drop index =>
      have closed := accounts.close
      cases came : (engine.close pool.record cursor).reply with
      | done value => exact .done value (closed.spares (by rw [came]; nofun))
      | failed error => exact .done () (closed.spares (by rw [came]; nofun))
      | broke => exact .broke
  | visit index callback => exact (accounts.visit callback).map _

/-- A closed copy says that it is closed, under whatever it is asked for, but to be copied, dropped
or to lend its source; and nothing happens to the record. -/
theorem outcome_of_closed {use : Use σ τ} (missing : pool.cursor? use.index = none) :
    (pool.use use).1.outcome =
      match use.operation? with
      | none => .done ()
      | some .copy => .done ()
      | some operation => .failed ⟨operation, .closed⟩ := by
  cases use with
  | read index buffer =>
      exact congrArg (Outcome.map fun _ => ()) (act_of_closed missing .read (engine.read buffer)).1
  | readAt index buffer offset =>
      exact congrArg (Outcome.map fun _ => ())
        (act_of_closed missing .readAt (engine.readAt buffer offset)).1
  | seek index offset whence =>
      exact congrArg (Outcome.map fun _ => ())
        (act_of_closed missing .seek (engine.seek offset whence)).1
  | writeTo index sink =>
      exact congrArg (Outcome.map fun _ => ()) (writeTo_of_closed missing sink).1
  | copy index => exact (copy_of_closed missing).1
  | close index => exact (close_of_closed missing).1
  | drop index =>
      change (pool.drop index).reply = .done ()
      change pool.cursor? index = none at missing
      simp [drop, missing]
  | visit index callback =>
      exact congrArg (Outcome.map fun _ => ()) (visit_of_closed missing callback).1

end Pool

end Payload
