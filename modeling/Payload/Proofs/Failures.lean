import Payload.Proofs.Buffered.Heeding
import Payload.Proofs.Direct.Accounts
import Payload.Proofs.Direct.Fidelity
import Payload.Proofs.Memory
import Payload.Proofs.Opening
import Payload.Source.Device

/-!
# What an error of a body says

An error names the operation that was asked for, and its cause tells what the matter was: that this
very copy is closed, that its body cannot do what was asked, that there are no more bytes, that a
seek leads nowhere, that a call broke off while it had what the copies share to itself, or that the
source or the sink failed.  A failure that sticks to a body reports what the source said, at
whichever copy and under whichever operation it comes up.
-/

namespace Payload

section

variable {σ τ : Type}

/-- Who listens to a source changes nothing about what it offers. -/
theorem Source.Constant.overheard [Source σ] {good : σ → Prop} (constant : Source.Constant good) :
    Source.Constant fun source : Overheard σ => good source.source where
  works there works := by
    cases works with
    | read want => exact constant.works there (.read want)
    | readAt want position => exact constant.works there (.readAt want position)
    | seek origin => exact constant.works there (.seek origin)
  offers access there still := by
    cases access with
    | addressed => exact constant.offers .addressed there still
    | seeking => exact constant.offers .seeking there still

/-- To open a source does not read it. -/
theorem Overheard.answers_open [Source σ] (source : σ) (options : Options) :
    (Body.open (⟨source, []⟩ : Overheard σ) options).source.answers = [] := by
  have unheard : Opening.Keeps fun source : Overheard σ => source.answers = [] :=
    ⟨fun _ silent => silent, fun _ _ silent => silent, fun _ silent => silent⟩
  have begun : (⟨source, []⟩ : Overheard σ).answers = [] := rfl
  exact unheard.opened begun options

@[simp]
theorem Use.index_unheard (use : Use σ τ) : use.unheard.index = use.index := by
  cases use <;> rfl

@[simp]
theorem Use.operation?_unheard (use : Use σ τ) : use.unheard.operation? = use.operation? := by
  cases use <;> rfl

end

namespace Body

variable {σ τ : Type} [Source σ] [Sink τ]

/-- Whether the body is read in sequence, with its bytes kept. -/
def sequential : Body σ → Bool
  | buffered _ => true
  | _ => false

/-- Whether what the copies share is poisoned. -/
def spoiled : Body σ → Bool
  | memory _ => false
  | direct pool => pool.record.spoiled
  | buffered pool => pool.record.spoiled

/-- The end or the failure that the source has come to, where it is kept. -/
def terminal? : Body σ → Option Terminal
  | buffered pool => pool.record.terminal
  | _ => none

/-- A body as it can be made: closed, of bytes in memory, or opened over a source that is such a one
by then. -/
inductive Made (good : σ → Prop) : Body (Overheard σ) → Prop where
  | closed : Made good .closed
  | ofBytes (data : ByteArray) : Made good (.ofBytes data)
  | opened (source : σ) (options : Options) {body : Body (Overheard σ)}
      (made : (Body.open (⟨source, []⟩ : Overheard σ) options).reply = .done body)
      (fine : good (Body.open (⟨source, []⟩ : Overheard σ) options).source.source) : Made good body

/-! ## What stays true of a body -/

/-- A body whose source, while a copy is open, is there and goes on offering what it was picked
for, and whose failure on record, if any, is one that the source told. -/
inductive Tended (good : σ → Prop) : Body (Overheard σ) → Prop where
  | memory (pool : Pool (Memory.engine (Overheard σ))) : Tended good (.memory pool)
  | direct {pool : Pool (Direct.engine (Overheard σ))}
      (attended : Attended Direct.custody Direct.sharers
        (fun source : Overheard σ => good source.source) pool)
      (offered : ∀ source : Overheard σ, good source.source →
        pool.record.access.offered source = true) : Tended good (.direct pool)
  | buffered {pool : Pool (Buffered.engine (Overheard σ))} {declared : Bool}
      (balanced : Buffered.Balanced pool) (agreed : Buffered.Agreed pool)
      (heeds : Buffered.Heeds declared pool.record) : Tended good (.buffered pool)

variable {good : σ → Prop} {body : Body (Overheard σ)}

theorem Made.tended (made : body.Made good) (constant : Source.Constant good) :
    body.Tended good ∧ body.spoiled = false := by
  have direct {source : Overheard σ} (fine : good source.source) (access : Access)
      (offers : access.offered source = true) (base length : Nat) :
      Tended good (.overDirect source access base length) :=
    .direct ⟨rfl, iff_of_true rfl Nat.one_pos, fun _ => fine⟩ fun other there =>
      (constant.overheard.offers access there fine).trans offers
  have sequence {source : Overheard σ} (silent : source.answers = []) (length : Option Nat)
      (blockSize : Nat) : Tended good (.overSequence source length blockSize) :=
    .buffered (Buffered.balanced_fresh source length blockSize)
      (Buffered.agreed_fresh source length blockSize)
      (Buffered.heeds_fresh source length blockSize silent)
  cases made with
  | closed => exact ⟨.memory _, rfl⟩
  | ofBytes data => exact ⟨.memory _, rfl⟩
  | opened source options made fine =>
      have silent := Overheard.answers_open source options
      obtain ⟨base, length, picks, -⟩ := Opening.picks_of_open made
      cases picks with
      | empty => exact ⟨.memory _, rfl⟩
      | addressed some_bytes addressable => exact ⟨direct fine .addressed addressable _ _, rfl⟩
      | seeking some_bytes unaddressable seekable => exact ⟨direct fine .seeking seekable _ _, rfl⟩
      | sequential => exact ⟨sequence silent _ _, rfl⟩
      | endless => exact ⟨sequence silent _ _, rfl⟩

theorem Tended.use (tended : body.Tended good) (constant : Source.Constant good) {use : Use σ τ}
    (lent : use.Lends (Source.Leaves good)) : (body.use use.unheard).2.Tended good := by
  have lends := Use.lends_unheard lent
  cases tended with
  | memory pool =>
      rw [use_memory]
      exact .memory _
  | direct attended offered =>
      rw [use_direct]
      obtain ⟨attended, offered⟩ := Direct.use_keeps
        (I := fun pool => Attended Direct.custody Direct.sharers
            (fun source : Overheard σ => good source.source) pool ∧
          ∀ source : Overheard σ, good source.source → pool.record.access.offered source = true)
        (fun ⟨attended, offered⟩ step =>
          ⟨attended.handled constant.overheard.works
            (fun _ ⟨inside, leaves, unheard⟩ source there => unheard ▸ leaves source.source there)
            step.handled, step.access_eq ▸ offered⟩) ⟨attended, offered⟩ lends
      exact .direct attended offered
  | @buffered pool declared balanced agreed heeds =>
      rw [use_buffered]
      obtain ⟨balanced, agreed, heeds⟩ := Buffered.use_keeps _
        (I := fun pool => Buffered.Agreed pool ∧ Buffered.Heeds declared pool.record)
        (fun balanced ⟨agreed, heeds⟩ step => ⟨agreed.step balanced step, heeds.step step⟩)
        balanced ⟨agreed, heeds⟩ lends
      exact .buffered balanced agreed heeds

theorem Tended.afterRun (tended : body.Tended good) (constant : Source.Constant good)
    {uses : List (Use σ τ)} (lent : ∀ use ∈ uses, use.Lends (Source.Leaves good)) :
    (body.afterRun (uses.map Use.unheard)).Tended good := by
  refine runAll_keeps (fun use member current tended => ?_) tended
  obtain ⟨plain, asked, rfl⟩ := List.mem_map.mp member
  exact tended.use constant (lent plain asked)

/-! ## Every use -/

/-- Every use of an open copy accounts for how it comes out. -/
theorem Tended.accounts (tended : body.Tended good) (constant : Source.Constant good)
    {use : Use (Overheard σ) τ} (opened : body.isClosed use.index = false) :
    Accounts body.sequential spoiled use.operation? body (body.use use).2
      (body.use use).1.outcome := by
  cases tended with
  | memory pool =>
      obtain ⟨cursor, found⟩ := Pool.isClosed_eq_false_iff.mp opened
      rw [use_memory]
      obtain ⟨fails, spares⟩ := Pool.accounts_use found (Memory.accountable pool.record cursor)
      exact ⟨fails, spares⟩
  | direct attended offered =>
      obtain ⟨cursor, found⟩ := Pool.isClosed_eq_false_iff.mp opened
      have some_open := Pool.openCount_pos found
      have ready : Direct.Ready (fun source : Overheard σ => good source.source) _ :=
        ⟨attended.held.mpr some_open, attended.source some_open, offered⟩
      rw [use_direct]
      obtain ⟨fails, spares⟩ :=
        Pool.accounts_use found (ready.accountable constant.overheard cursor)
      exact ⟨fails, spares⟩
  | buffered balanced agreed heeds =>
      obtain ⟨cursor, found⟩ := Pool.isClosed_eq_false_iff.mp opened
      rw [use_buffered]
      obtain ⟨fails, spares⟩ := Pool.accounts_use found (Buffered.accountable balanced found)
      exact ⟨fails, spares⟩

/-- A closed copy says that it is closed, unless it is copied, dropped or asked for its source. -/
theorem outcome_of_closed {body : Body σ} {use : Use σ τ}
    (closed : body.isClosed use.index = true) :
    (body.use use).1.outcome =
        (match use.operation? with
        | none => .done ()
        | some .copy => .done ()
        | some operation => .failed ⟨operation, .closed⟩) ∧
      (body.use use).2.spoiled = body.spoiled := by
  cases body with
  | memory pool =>
      rw [use_memory]
      exact ⟨Pool.outcome_of_closed (Pool.isClosed_eq_true_iff.mp closed), rfl⟩
  | direct pool =>
      have missing := Pool.isClosed_eq_true_iff.mp closed
      rw [use_direct]
      exact ⟨Pool.outcome_of_closed missing,
        congrArg Direct.spoiled (Pool.record_use_of_closed missing)⟩
  | buffered pool =>
      have missing := Pool.isClosed_eq_true_iff.mp closed
      rw [use_buffered]
      exact ⟨Pool.outcome_of_closed missing,
        congrArg Buffered.spoiled (Pool.record_use_of_closed missing)⟩

/-- A copy of a closed copy is closed. -/
theorem copy_of_closed {body : Body σ} {index : Nat} (closed : body.isClosed index = true) :
    (body.copy index).reply = .done () ∧
      (body.copy index).state.isClosed body.copies = true := by
  cases body with
  | memory pool =>
      have missing := Pool.isClosed_eq_true_iff.mp closed
      exact ⟨(Pool.copy_of_closed missing).1, Pool.isClosed_copy missing⟩
  | direct pool =>
      have missing := Pool.isClosed_eq_true_iff.mp closed
      exact ⟨(Pool.copy_of_closed missing).1, Pool.isClosed_copy missing⟩
  | buffered pool =>
      have missing := Pool.isClosed_eq_true_iff.mp closed
      exact ⟨(Pool.copy_of_closed missing).1, Pool.isClosed_copy missing⟩

/-! ## What broke off -/

/-- In this run a call broke off that had what the copies share to itself, and poisoned it. -/
def Spoils (begun : Body σ) (uses : List (Use σ τ)) : Prop :=
  ∃ before use after, uses = before ++ use :: after ∧
    (begun.afterRun before).spoiled = false ∧
    ((begun.afterRun before).use use).1.outcome = .broke ∧
    ((begun.afterRun before).use use).2.spoiled = true

theorem Spoils.cons {begun : Body σ} {use : Use σ τ} {rest : List (Use σ τ)}
    (spoils : (begun.use use).2.Spoils rest) : begun.Spoils (use :: rest) := by
  obtain ⟨before, other, after, rfl, sound, broke, spoiled⟩ := spoils
  exact ⟨use :: before, other, after, rfl, sound, broke, spoiled⟩

/-- A use that comes back poisons nothing. -/
theorem Tended.outcome_of_spoiled (tended : body.Tended good) (constant : Source.Constant good)
    {use : Use (Overheard σ) τ} (sound : body.spoiled = false)
    (spoiled : (body.use use).2.spoiled = true) : (body.use use).1.outcome = .broke := by
  cases opened : body.isClosed use.index with
  | true =>
      rw [(outcome_of_closed opened).2, sound] at spoiled
      cases spoiled
  | false =>
      by_cases broke : (body.use use).1.outcome = .broke
      · exact broke
      · rw [(tended.accounts constant opened).spares broke, sound] at spoiled
        cases spoiled

/-- What is poisoned was poisoned by a call that broke off. -/
theorem Tended.spoils (tended : body.Tended good) (constant : Source.Constant good)
    (sound : body.spoiled = false) {uses : List (Use σ τ)}
    (lent : ∀ use ∈ uses, use.Lends (Source.Leaves good))
    (spoiled : (body.afterRun (uses.map Use.unheard)).spoiled = true) :
    body.Spoils (uses.map Use.unheard) := by
  induction uses generalizing body with
  | nil =>
      change body.spoiled = true at spoiled
      rw [sound] at spoiled
      cases spoiled
  | cons use rest ih =>
      obtain ⟨first, later⟩ := List.forall_mem_cons.mp lent
      cases now : (body.use use.unheard).2.spoiled with
      | true =>
          exact ⟨[], use.unheard, rest.map Use.unheard, rfl, sound,
            tended.outcome_of_spoiled constant sound now, now⟩
      | false => exact (ih (tended.use constant first) now later spoiled).cons

/-! ## Errors -/

/-- What an error says of the copy that was asked for an operation. -/
structure Explains (body : Body σ) (index : Nat) (asked : Option Operation) (spoils : Prop)
    (error : Error) : Prop where
  named : asked = some error.operation
  closed : error.cause = .closed ↔ body.isClosed index = true ∧ error.operation ≠ .copy
  unsupported : error.cause = .unsupported ↔
    body.isClosed index = false ∧ body.sequential = true ∧
      (error.operation = .readAt ∨ error.operation = .seek)
  ended : error.cause = .endOfStream → error.operation = .read ∨ error.operation = .readAt
  misplaced : ∀ reason, error.cause = .seek reason → error.operation = .seek
  poisoned : error.cause = .poisoned → spoils

theorem positions_eq_true_iff {operation : Operation} :
    operation.positions = true ↔ operation = .readAt ∨ operation = .seek := by
  cases operation <;> simp [Operation.positions]

/-- A closed copy fails with nothing but that it is closed. -/
theorem explains_of_closed {body : Body σ} {use : Use σ τ} {spoils : Prop} {error : Error}
    (closed : body.isClosed use.index = true) (failed : (body.use use).1.outcome = .failed error) :
    body.Explains use.index use.operation? spoils error := by
  rw [(outcome_of_closed closed).1] at failed
  split at failed
  · cases failed
  · cases failed
  · rename_i operation other asked
    cases failed
    refine ⟨asked, iff_of_true rfl ⟨closed, other⟩, ?_, nofun, nofun, nofun⟩
    rw [closed]
    exact iff_of_false nofun fun opened => by cases opened.1

/-- An open copy fails with one of the causes of what it was asked for. -/
theorem Tended.explains_of_open (tended : body.Tended good) (constant : Source.Constant good)
    {use : Use (Overheard σ) τ} {spoils : Prop} (spoiled : body.spoiled = true → spoils)
    {error : Error} (opened : body.isClosed use.index = false)
    (failed : (body.use use).1.outcome = .failed error) :
    body.Explains use.index use.operation? spoils error := by
  obtain ⟨asked, fails⟩ := (tended.accounts constant opened).fails error failed
  have unclosed : ¬(body.isClosed use.index = true ∧ error.operation ≠ .copy) := by
    rw [opened]
    exact fun closed => by cases closed.1
  have offers (offered : (body.sequential && error.operation.positions) = false) :
      ¬(body.isClosed use.index = false ∧ body.sequential = true ∧
        (error.operation = .readAt ∨ error.operation = .seek)) := by
    rintro ⟨-, sequential, positions⟩
    rw [sequential, positions_eq_true_iff.mpr positions] at offered
    cases offered
  obtain ⟨operation, cause⟩ := error
  cases fails with
  | unsupported sequence positions =>
      exact ⟨asked, iff_of_false nofun unclosed,
        iff_of_true rfl ⟨opened, sequence, positions_eq_true_iff.mp positions⟩, nofun, nofun, nofun⟩
  | endOfStream offered reads =>
      exact ⟨asked, iff_of_false nofun unclosed, iff_of_false nofun (offers offered),
        fun _ => reads, nofun, nofun⟩
  | seek reason offered seeks =>
      exact ⟨asked, iff_of_false nofun unclosed, iff_of_false nofun (offers offered), nofun,
        fun _ _ => seeks, nofun⟩
  | poisoned offered broken =>
      exact ⟨asked, iff_of_false nofun unclosed, iff_of_false nofun (offers offered), nofun, nofun,
        fun _ => spoiled broken⟩
  | fault fault offered =>
      exact ⟨asked, iff_of_false nofun unclosed, iff_of_false nofun (offers offered), nofun, nofun,
        nofun⟩

/-- A body that is read in sequence is not read at a position, and not moved. -/
theorem unsupported_of_sequential {body : Body σ} {use : Use σ τ} {operation : Operation}
    (opened : body.isClosed use.index = false) (sequential : body.sequential = true)
    (asked : use.operation? = some operation) (positions : operation.positions = true) :
    (body.use use).1.outcome = .failed ⟨operation, .unsupported⟩ := by
  cases body with
  | memory pool => cases sequential
  | direct pool => cases sequential
  | buffered pool =>
      obtain ⟨cursor, found⟩ := Pool.isClosed_eq_false_iff.mp opened
      rw [use_buffered]
      cases use with
      | readAt index buffer offset =>
          cases asked
          exact congrArg (Outcome.map fun _ => ()) (Pool.act_of_open found _ _).1
      | seek index offset whence =>
          cases asked
          exact congrArg (Outcome.map fun _ => ()) (Pool.act_of_open found _ _).1
      | drop => cases asked
      | visit => cases asked
      | _ =>
          cases asked
          cases positions

/-! ## Failures that stick -/

/-- A failure that the source came to, as the copies report it: it is what the source said, and a
copy that has met it fails with it whatever it is asked to read. -/
structure Sticks (τ : Type) [Sink τ] (fault : Fault) (body : Body (Overheard σ)) : Prop where
  told : ∃ source, body.source? = some source ∧ source.Told fault
  read : ∀ index buffer error, (body.read index buffer).reply = .failed error →
    body.isClosed index = false →
    error = ⟨.read, .fault fault⟩ ∨ body.spoiled = true ∧ error = ⟨.read, .poisoned⟩
  writeTo : ∀ index, ∀ sink : τ, ∀ error, (body.writeTo index sink).1.reply = .failed error →
    body.isClosed index = false →
    error = ⟨.writeTo, .fault fault⟩ ∨ body.spoiled = true ∧ error = ⟨.writeTo, .poisoned⟩ ∨
      ∃ bytes, ∃ last next : τ, ∃ refusal, Sink.takeAll bytes last = (.failed refusal, next) ∧
        error = ⟨.writeTo, .fault refusal⟩
  met : ∀ index, body.isClosed index = false → body.ended index = true →
    (∀ buffer, (body.read index buffer).reply = .failed ⟨.read, .fault fault⟩) ∧
      ∀ sink : τ, (body.writeTo index sink).1.reply = .failed ⟨.writeTo, .fault fault⟩

theorem Tended.sticks (tended : body.Tended good) {fault : Fault}
    (failed : body.terminal? = some (.failed fault)) : body.Sticks τ fault := by
  cases tended with
  | memory pool => cases failed
  | direct => cases failed
  | @buffered pool declared balanced agreed heeds =>
      change pool.record.terminal = some (.failed fault) at failed
      have agrees {index : Nat} {cursor : Buffered.Cursor}
          (found : pool.cursor? index = some cursor) (met : Terminal)
          (meets : cursor.terminal = some met) : met = .failed fault :=
        Option.some.inj
          ((agreed cursor (Pool.mem_cursors_iff.mpr ⟨index, found⟩) met meets).1.symm.trans failed)
      refine ⟨⟨_, rfl, heeds.failed fault failed⟩, ?_, ?_, ?_⟩
      · intro index buffer error came opened
        obtain ⟨cursor, found⟩ := Pool.isClosed_eq_false_iff.mp opened
        obtain ⟨turn, reads, reply, -⟩ := Buffered.exists_reads balanced found buffer
        exact (reads.of_stopped failed (agrees found)).2 error (reply.symm.trans came)
      · intro index sink error came opened
        obtain ⟨cursor, found⟩ := Pool.isClosed_eq_false_iff.mp opened
        exact Buffered.error_of_writeTo balanced agreed found failed
          ((Pool.writeTo_of_open found sink).1.symm.trans came)
      · intro index opened ended
        obtain ⟨cursor, found⟩ := Pool.isClosed_eq_false_iff.mp opened
        change pool.ended index = true at ended
        rw [Pool.ended_of_open found] at ended
        obtain ⟨met, meets⟩ := Option.isSome_iff_exists.mp ended
        obtain rfl := agrees found met meets
        exact ⟨fun buffer => (Buffered.read_of_met found meets buffer).1,
          fun sink => (Buffered.writeTo_of_met found meets sink).1⟩

/-! ## Every run -/

omit [Source σ] [Sink τ] in
theorem constant_device (seekable addressable : Bool) :
    Source.Constant fun device : Device =>
      device.seekable = seekable ∧ device.addressable = addressable where
  works := by
    rintro device next there works
    cases works with
    | read want => exact there
    | readAt want position => exact there
    | seek origin =>
        change (Device.seek origin device).2.seekable = _ ∧
          (Device.seek origin device).2.addressable = _
        unfold Device.seek
        split
        · exact there
        · exact there
        · exact there
        · split <;> exact there
  offers access there still := by
    cases access with
    | addressed => exact there.2.trans still.2.symm
    | seeking => exact there.1.trans still.1.symm

/-- In every state that a body of any kind can be brought to, if its source goes on offering the
same: an error names the operation that was asked for.  Its cause is that the copy is closed where
it is, and then only to be copied works, giving another closed copy; it is that the operation is
not supported where the body is read in sequence and asked to go by offsets; the end is reported by
reads alone, a refused seek by seeks alone; and what the copies share is poisoned only where a call
broke off that had it to itself.  Everything else is a fault of the source or the sink.  A failure
that sticks is what the source said, whichever copy reports it. -/
theorem afterRun_made_explained (constant : Source.Constant good) {begun : Body (Overheard σ)}
    (made : begun.Made good) {uses : List (Use σ τ)}
    (lent : ∀ use ∈ uses, use.Lends (Source.Leaves good)) :
    let body := begun.afterRun (uses.map Use.unheard)
    (∀ (use : Use σ τ) (error : Error), (body.use use.unheard).1.outcome = .failed error →
      body.Explains use.index use.operation? (begun.Spoils (uses.map Use.unheard)) error) ∧
    (∀ (use : Use σ τ) (operation : Operation), use.operation? = some operation →
      (body.isClosed use.index = true → operation ≠ .copy →
        (body.use use.unheard).1.outcome = .failed ⟨operation, .closed⟩) ∧
      (body.isClosed use.index = false → body.sequential = true →
        operation = .readAt ∨ operation = .seek →
        (body.use use.unheard).1.outcome = .failed ⟨operation, .unsupported⟩)) ∧
    (∀ index, body.isClosed index = true →
      (body.copy index).reply = .done () ∧
        (body.copy index).state.isClosed body.copies = true) ∧
    ∀ fault, body.terminal? = some (.failed fault) → body.Sticks τ fault := by
  intro body
  obtain ⟨start, sound⟩ := made.tended constant
  have tended : body.Tended good := start.afterRun constant lent
  refine ⟨fun use error failed => ?_, fun use operation asked => ⟨?_, ?_⟩,
    fun index closed => copy_of_closed closed, fun fault failed => tended.sticks failed⟩
  · rw [← use.index_unheard, ← use.operation?_unheard]
    cases opened : body.isClosed use.unheard.index with
    | true => exact explains_of_closed opened failed
    | false =>
        exact tended.explains_of_open constant (start.spoils constant sound lent) opened failed
  · intro closed other
    rw [← use.index_unheard] at closed
    rw [← use.operation?_unheard] at asked
    rw [(outcome_of_closed closed).1, asked]
    cases operation <;> first | rfl | exact absurd rfl other
  · intro opened sequential positions
    rw [← use.index_unheard] at opened
    rw [← use.operation?_unheard] at asked
    exact unsupported_of_sequential opened sequential asked (positions_eq_true_iff.mpr positions)

/-- A device gives four bytes and then fails, which one copy meets when it is read out: another one
reports the same when it is read, no copy is read at a position, and the one that was closed says
so. -/
theorem afterRun_made_explained_of_faulty :
    let fault : Fault := .saying .other "gone"
    let device : Device := { content := ⟨#[1, 2, 3, 4, 5, 6]⟩, reads := [.plain, .fault fault] }
    let begun : Body (Overheard Device) := .overSequence ⟨device, []⟩ none 4
    let uses : List (Use Device Gauge) :=
      [.copy 0, .copy 0, .close 2, .read 0 (.fresh 4), .visit 0 fun device => (some (), device),
        .writeTo 1 {}]
    let body := begun.afterRun (uses.map Use.unheard)
    (∃ source, body.source? = some source ∧ source.Told fault) ∧
      (body.writeTo 1 ({} : Gauge)).1.reply = .failed ⟨.writeTo, .fault fault⟩ ∧
      (body.read 0 (.fresh 9)).reply = .failed ⟨.read, .fault fault⟩ ∧
      (body.use (.readAt 0 (.fresh 1) 0 : Use Device Gauge).unheard).1.outcome =
        .failed ⟨.readAt, .unsupported⟩ ∧
      (body.use (.close 2 : Use Device Gauge).unheard).1.outcome = .failed ⟨.close, .closed⟩ ∧
      (body.copy 2).reply = .done () := by
  intro fault device begun uses body
  have made : begun.Made fun device => device.seekable = false ∧ device.addressable = false :=
    .opened device { rawBlockSize := 4 } rfl ⟨rfl, rfl⟩
  have lent : ∀ use ∈ uses, use.Lends
      (Source.Leaves fun device => device.seekable = false ∧ device.addressable = false) := by
    have leaves : Source.Leaves
        (fun device : Device => device.seekable = false ∧ device.addressable = false)
        (fun device => (some (), device)) := fun _ there => there
    simpa [uses, Use.Lends] using leaves
  obtain ⟨-, refuses, copies, sticks⟩ :=
    afterRun_made_explained (constant_device false false) made lent
  have on_record : body.terminal? = some (.failed fault) := by cbv
  have ended : body.ended 1 = true := by cbv
  have sticking := sticks fault on_record
  exact ⟨sticking.told, (sticking.met 1 (by decide +kernel) ended).2 {}, by cbv,
    (refuses (.readAt 0 (.fresh 1) 0) .readAt rfl).2 (by decide +kernel) rfl (Or.inl rfl),
    (refuses (.close 2) .close rfl).1 (by decide +kernel) (by decide),
    (copies 2 (by decide +kernel)).1⟩

end Body

end Payload
