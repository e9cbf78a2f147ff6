import Payload.Body
import Payload.Proofs.Buffered.Checks
import Payload.Proofs.Sharing
import Payload.Source.Device

/-!
# A source is closed once, by its last copy

The copies of a body share one source, and none of them but the last one to leave closes it, be it
by closing or by being dropped.  Only closing the last copy can fail, with what closing the source
failed with; to drop it instead changes nothing but that answer.
-/

namespace Payload

open Relation

/-! ## Uses of a body of any kind -/

namespace Body

variable {σ τ : Type} [Source σ] [Sink τ]

/-- Ask for one operation. -/
def use (body : Body σ) : Use σ τ → Receipt τ × Body σ
  | .read index buffer =>
    let effect := body.read index buffer
    (.bytes effect.reply, effect.state)
  | .readAt index buffer offset =>
    let effect := body.readAt index buffer offset
    (.bytes effect.reply, effect.state)
  | .seek index offset whence =>
    let effect := body.seek index offset whence
    (.position effect.reply, effect.state)
  | .writeTo index sink =>
    let step := body.writeTo index sink
    (.written step.1.reply step.2, step.1.state)
  | .copy index =>
    let effect := body.copy index
    (.plain effect.reply, effect.state)
  | .close index =>
    let effect := body.close index
    (.plain effect.reply, effect.state)
  | .drop index =>
    let effect := body.drop index
    (.plain effect.reply, effect.state)
  | .visit index callback =>
    let effect := body.visit index callback
    (.lent effect.reply, effect.state)

/-- Ask for one operation after the other. -/
def run (uses : List (Use σ τ)) (body : Body σ) : List (Receipt τ) × Body σ :=
  runAll Body.use uses body

/-- The body that a run leaves. -/
def afterRun (uses : List (Use σ τ)) (body : Body σ) : Body σ :=
  (body.run uses).2

/-- How many copies are open. -/
def openCopies (body : Body σ) : Nat :=
  body.ask fun pool => pool.openCount

/-- How many copies share the source, by the count that the body keeps itself. -/
def sharers? : Body σ → Option Nat
  | memory _ => none
  | direct pool => some pool.record.sharers
  | buffered pool => some pool.record.live

/-- A new body over this source. -/
inductive Over (source : σ) : Body σ → Prop where
  | direct (access : Access) (base length : Nat) :
      Over source (.overDirect source access base length)
  | sequence (length : Option Nat) (blockSize : Nat) :
      Over source (.overSequence source length blockSize)

theorem use_memory (pool : Pool (Memory.engine σ)) (use : Use σ τ) :
    (Body.memory pool).use use = ((pool.use use).1, .memory (pool.use use).2) := by
  cases use <;> rfl

theorem use_direct (pool : Pool (Direct.engine σ)) (use : Use σ τ) :
    (Body.direct pool).use use = ((pool.use use).1, .direct (pool.use use).2) := by
  cases use <;> rfl

theorem use_buffered (pool : Pool (Buffered.engine σ)) (use : Use σ τ) :
    (Body.buffered pool).use use = ((pool.use use).1, .buffered (pool.use use).2) := by
  cases use <;> rfl

@[simp]
theorem run_nil (body : Body σ) : body.run ([] : List (Use σ τ)) = ([], body) :=
  rfl

theorem run_cons (use : Use σ τ) (rest : List (Use σ τ)) (body : Body σ) :
    body.run (use :: rest) =
      ((body.use use).1 :: ((body.use use).2.run rest).1, ((body.use use).2.run rest).2) :=
  rfl

theorem run_memory (uses : List (Use σ τ)) (pool : Pool (Memory.engine σ)) :
    (Body.memory pool).run uses = ((pool.run uses).1, .memory (pool.run uses).2) := by
  induction uses generalizing pool with
  | nil => rfl
  | cons use rest ih =>
      rw [run_cons, use_memory, ih]
      rfl

theorem run_direct (uses : List (Use σ τ)) (pool : Pool (Direct.engine σ)) :
    (Body.direct pool).run uses = ((pool.run uses).1, .direct (pool.run uses).2) := by
  induction uses generalizing pool with
  | nil => rfl
  | cons use rest ih =>
      rw [run_cons, use_direct, ih]
      rfl

theorem run_buffered (uses : List (Use σ τ)) (pool : Pool (Buffered.engine σ)) :
    (Body.buffered pool).run uses = ((pool.run uses).1, .buffered (pool.run uses).2) := by
  induction uses generalizing pool with
  | nil => rfl
  | cons use rest ih =>
      rw [run_cons, use_buffered, ih]
      rfl

theorem afterRun_direct (uses : List (Use σ τ)) (pool : Pool (Direct.engine σ)) :
    (Body.direct pool).afterRun uses = .direct (pool.afterRun uses) :=
  congrArg Prod.snd (run_direct uses pool)

theorem afterRun_buffered (uses : List (Use σ τ)) (pool : Pool (Buffered.engine σ)) :
    (Body.buffered pool).afterRun uses = .buffered (pool.afterRun uses) :=
  congrArg Prod.snd (run_buffered uses pool)

/-! ## Dropping instead of closing -/

theorem state_drop (body : Body σ) (index : Nat) :
    (body.drop index).state = (body.close index).state := by
  cases body with
  | memory pool => exact congrArg Body.memory (pool.state_drop index)
  | direct pool => exact congrArg Body.direct (pool.state_drop index)
  | buffered pool => exact congrArg Body.buffered (pool.state_drop index)

end Body

/-- The same uses, but that some of them drop a copy instead of closing it. -/
inductive Use.Softened {σ τ : Type} : List (Use σ τ) → List (Use σ τ) → Prop where
  | nil : Softened [] []
  | same (use : Use σ τ) {rest others : List (Use σ τ)} (softened : Softened rest others) :
      Softened (use :: rest) (use :: others)
  | dropped (index : Nat) {rest others : List (Use σ τ)} (softened : Softened rest others) :
      Softened (.close index :: rest) (.drop index :: others)

namespace Body

variable {σ τ : Type} [Source σ] [Sink τ]

/-- To drop copies instead of closing them leaves the same, and no other use comes out
differently. -/
theorem run_softened {uses others : List (Use σ τ)} (softened : Use.Softened uses others)
    (body : Body σ) :
    (body.run others).2 = (body.run uses).2 ∧
      ∀ position : Nat, uses[position]? = others[position]? →
        (body.run others).1[position]? = (body.run uses).1[position]? := by
  induction softened generalizing body with
  | nil => exact ⟨rfl, fun _ _ => rfl⟩
  | same use softened ih =>
      obtain ⟨last, receipts⟩ := ih (body.use use).2
      rw [run_cons, run_cons]
      refine ⟨last, fun position alike => ?_⟩
      cases position with
      | zero => rfl
      | succ position => exact receipts position alike
  | dropped index softened ih =>
      obtain ⟨last, receipts⟩ := ih (body.close index).state
      have left : (body.use (.drop index : Use σ τ)).2 = (body.close index).state :=
        body.state_drop index
      rw [run_cons, run_cons, left]
      refine ⟨last, fun position alike => ?_⟩
      cases position with
      | zero => cases alike
      | succ position => exact receipts position alike

/-! ## Bodies over a recorded source -/

/-- A body that keeps its source as it should. -/
inductive Kept : Body (Recorded σ) → Prop where
  | direct {pool : Pool (Direct.engine (Recorded σ))}
      (entrusted : Entrusted Direct.custody Direct.sharers pool) : Kept (.direct pool)
  | buffered {pool : Pool (Buffered.engine (Recorded σ))} (balanced : Buffered.Balanced pool)
      (entrusted : Entrusted Buffered.custody Buffered.live pool) : Kept (.buffered pool)

theorem Over.kept {recorded : Recorded σ} {body : Body (Recorded σ)} (begun : Over recorded body)
    (unclosed : recorded.Unclosed) : Kept body := by
  cases begun with
  | direct access base length =>
      exact .direct (Direct.entrusted_fresh unclosed access base length)
  | sequence length blockSize =>
      exact .buffered (Buffered.balanced_fresh recorded length blockSize)
        ⟨rfl, iff_of_true rfl Nat.one_pos, fun _ => unclosed, nofun⟩

theorem Kept.use {body : Body (Recorded σ)} (kept : Kept body) (use : Use σ τ) :
    Kept (body.use use.unseen).2 := by
  cases kept with
  | direct entrusted =>
      rw [use_direct]
      exact .direct (entrusted.handled_many (Direct.handled_use _ use.lends_unseen))
  | buffered balanced entrusted =>
      rw [use_buffered]
      exact .buffered (Buffered.balanced_afterRun balanced [use.unseen])
        (entrusted.handled_many (Buffered.handled_use balanced use.lends_unseen))

theorem Kept.afterRun {body : Body (Recorded σ)} (kept : Kept body) (uses : List (Use σ τ)) :
    Kept (body.afterRun (uses.map Use.unseen)) := by
  refine runAll_keeps (fun use member current kept => ?_) kept
  obtain ⟨plain, -, rfl⟩ := List.mem_map.mp member
  exact kept.use plain

theorem Kept.counted {body : Body (Recorded σ)} (kept : Kept body) :
    body.sharers? = some body.openCopies := by
  cases kept with
  | direct entrusted => exact congrArg some entrusted.counted
  | buffered balanced entrusted => exact congrArg some entrusted.counted

/-- The source of a body is not closed while a copy is open, and by the last call after that. -/
theorem Kept.source {body : Body (Recorded σ)} (kept : Kept body) :
    ∃ recorded, body.source? = some recorded ∧
      (0 < body.openCopies → recorded.Unclosed) ∧ (body.openCopies = 0 → recorded.ClosedLast) := by
  cases kept with
  | direct entrusted => exact ⟨_, rfl, entrusted.working, entrusted.closed⟩
  | buffered balanced entrusted => exact ⟨_, rfl, entrusted.working, entrusted.closed⟩

/-- Nothing reaches the source once all copies are closed. -/
theorem Kept.use_of_all_closed {body : Body (Recorded σ)} (kept : Kept body)
    (all_closed : body.openCopies = 0) (use : Use (Recorded σ) τ) :
    (body.use use).2.source? = body.source? ∧ (body.use use).2.openCopies = 0 := by
  cases kept with
  | @direct pool entrusted =>
      rw [use_direct]
      obtain ⟨record_eq, still⟩ := Pool.use_of_all_closed all_closed use
      exact ⟨congrArg (fun record : Direct (Recorded σ) => some record.custody.source) record_eq,
        still⟩
  | @buffered pool balanced entrusted =>
      rw [use_buffered]
      obtain ⟨record_eq, still⟩ := Pool.use_of_all_closed all_closed use
      exact ⟨congrArg (fun record : Buffered (Recorded σ) => some record.custody.source) record_eq,
        still⟩

/-- The number of open copies only falls where one is closed or dropped. -/
theorem Kept.leaves {body : Body (Recorded σ)} (kept : Kept body) {use : Use (Recorded σ) τ}
    (fewer : (body.use use).2.openCopies < body.openCopies) :
    use = .close use.index ∨ use = .drop use.index := by
  cases kept with
  | direct entrusted =>
      rw [use_direct] at fewer
      exact Pool.leaves_of_openCount_lt fewer
  | buffered balanced entrusted =>
      rw [use_buffered] at fewer
      exact Pool.leaves_of_openCount_lt fewer

/-! ## Closing -/

/-- A closed copy refuses to be closed again, and stays closed. -/
theorem close_of_closed {body : Body σ} {index : Nat} (closed : body.isClosed index = true) :
    (body.close index).reply = .failed ⟨.close, .closed⟩ ∧ (body.close index).state = body := by
  cases body with
  | memory pool =>
      obtain ⟨reply, state⟩ := Pool.close_of_closed (Pool.isClosed_eq_true_iff.mp closed)
      exact ⟨reply, congrArg Body.memory state⟩
  | direct pool =>
      obtain ⟨reply, state⟩ := Pool.close_of_closed (Pool.isClosed_eq_true_iff.mp closed)
      exact ⟨reply, congrArg Body.direct state⟩
  | buffered pool =>
      obtain ⟨reply, state⟩ := Pool.close_of_closed (Pool.isClosed_eq_true_iff.mp closed)
      exact ⟨reply, congrArg Body.buffered state⟩

/-- Closing a copy while others are open, or the last one. -/
theorem Kept.reply_close {body : Body (Recorded σ)} (kept : Kept body) {index : Nat}
    (opened : body.isClosed index = false) :
    (body.openCopies ≠ 1 → (body.close index).reply = .done ()) ∧
      (body.openCopies = 1 → ∃ recorded, body.source? = some recorded ∧
        (body.close index).reply = (Source.close recorded).1.mapFailure fun fault =>
          ⟨.close, .fault fault⟩) := by
  cases kept with
  | direct entrusted =>
      obtain ⟨cursor, found⟩ := Pool.isClosed_eq_false_iff.mp opened
      exact ⟨Direct.reply_close_of_others entrusted found,
        fun alone => ⟨_, rfl, Direct.reply_close_of_alone entrusted found alone⟩⟩
  | buffered balanced entrusted =>
      obtain ⟨cursor, found⟩ := Pool.isClosed_eq_false_iff.mp opened
      exact ⟨Buffered.reply_close_of_others balanced found,
        fun alone => ⟨_, rfl, Buffered.reply_close_of_alone balanced found alone⟩⟩

/-- A copy that is closed is gone, and answers the same when it is dropped, but for a failure. -/
theorem close_of_open {body : Body σ} {index : Nat} (opened : body.isClosed index = false) :
    (body.close index).state.openCopies + 1 = body.openCopies ∧
      (body.close index).state.isClosed index = true ∧
      (body.drop index).reply =
        match (body.close index).reply with
        | .failed _ => .done ()
        | reply => reply := by
  cases body with
  | memory pool =>
      obtain ⟨cursor, found⟩ := Pool.isClosed_eq_false_iff.mp opened
      exact ⟨Pool.openCount_close found, Pool.isClosed_close found, Pool.reply_drop_of_open found⟩
  | direct pool =>
      obtain ⟨cursor, found⟩ := Pool.isClosed_eq_false_iff.mp opened
      exact ⟨Pool.openCount_close found, Pool.isClosed_close found, Pool.reply_drop_of_open found⟩
  | buffered pool =>
      obtain ⟨cursor, found⟩ := Pool.isClosed_eq_false_iff.mp opened
      exact ⟨Pool.openCount_close found, Pool.isClosed_close found, Pool.reply_drop_of_open found⟩

theorem use_of_closed {body : Body σ} {index : Nat} (within : index < body.copies)
    (closed : body.isClosed index = true) (use : Use σ τ) :
    index < (body.use use).2.copies ∧ (body.use use).2.isClosed index = true := by
  cases body with
  | memory pool =>
      obtain ⟨still, missing⟩ := Pool.use_of_closed within (Pool.isClosed_eq_true_iff.mp closed) use
      rw [use_memory]
      exact ⟨still, Pool.isClosed_eq_true_iff.mpr missing⟩
  | direct pool =>
      obtain ⟨still, missing⟩ := Pool.use_of_closed within (Pool.isClosed_eq_true_iff.mp closed) use
      rw [use_direct]
      exact ⟨still, Pool.isClosed_eq_true_iff.mpr missing⟩
  | buffered pool =>
      obtain ⟨still, missing⟩ := Pool.use_of_closed within (Pool.isClosed_eq_true_iff.mp closed) use
      rw [use_buffered]
      exact ⟨still, Pool.isClosed_eq_true_iff.mpr missing⟩

/-- A copy that is closed stays closed. -/
theorem isClosed_afterRun {body : Body σ} {index : Nat} (within : index < body.copies)
    (closed : body.isClosed index = true) (uses : List (Use σ τ)) :
    (body.afterRun uses).isClosed index = true :=
  (runAll_keeps (P := fun body : Body σ => index < body.copies ∧ body.isClosed index = true)
    (fun use _ _ still => use_of_closed still.1 still.2 use) ⟨within, closed⟩).2

/-! ## Every run -/

/-- Whatever is asked of the copies of a body over a source: the number that the body keeps is that
of the open copies; the source is not closed while a copy is open, and when none is it was closed
once, by the last call to it.  Copies only go by being closed or dropped.  Closing the last one
comes to what closing the source comes to, closing any other open one works, and a closed one
refuses.  And a run in which copies are dropped instead of closed leaves the same, with every other
use coming out as it did. -/
theorem afterRun_closed_once {recorded : Recorded σ} {body : Body (Recorded σ)}
    (unclosed : recorded.Unclosed) (begun : Over recorded body) (uses : List (Use σ τ)) :
    let after := body.afterRun (uses.map Use.unseen)
    after.sharers? = some after.openCopies ∧
      (∃ last, after.source? = some last ∧ (0 < after.openCopies → last.Unclosed) ∧
        (after.openCopies = 0 → last.ClosedLast)) ∧
      (∀ use : Use (Recorded σ) τ, (after.use use).2.openCopies < after.openCopies →
        use = .close use.index ∨ use = .drop use.index) ∧
      (after.openCopies = 0 → ∀ use : Use (Recorded σ) τ,
        (after.use use).2.source? = after.source? ∧ (after.use use).2.openCopies = 0) ∧
      (∀ index, after.isClosed index = true →
        ((after.close index).reply = .failed ⟨.close, .closed⟩ ∧
            (after.close index).state = after) ∧
          (index < after.copies → ∀ later : List (Use (Recorded σ) τ),
            (after.afterRun later).isClosed index = true)) ∧
      (∀ index, after.isClosed index = false →
        ((after.openCopies ≠ 1 → (after.close index).reply = .done ()) ∧
          (after.openCopies = 1 → ∃ last, after.source? = some last ∧
            (after.close index).reply = (Source.close last).1.mapFailure fun fault =>
              ⟨.close, .fault fault⟩)) ∧
          (after.close index).state.openCopies + 1 = after.openCopies ∧
          (after.close index).state.isClosed index = true ∧
          (after.drop index).reply =
            match (after.close index).reply with
            | .failed _ => .done ()
            | reply => reply) ∧
      ∀ later others : List (Use (Recorded σ) τ), Use.Softened later others →
        (after.run others).2 = (after.run later).2 ∧
          ∀ position : Nat, later[position]? = others[position]? →
            (after.run others).1[position]? = (after.run later).1[position]? := by
  intro after
  have kept : Kept after := (begun.kept unclosed).afterRun uses
  refine ⟨kept.counted, kept.source, fun _ => kept.leaves, fun all_closed => ?_, ?_, ?_, ?_⟩
  · exact kept.use_of_all_closed all_closed
  · intro index closed
    exact ⟨close_of_closed closed, fun within => isClosed_afterRun within closed⟩
  · intro index opened
    exact ⟨kept.reply_close opened, close_of_open opened⟩
  · intro later others softened
    exact run_softened softened after

/-- Two copies over a source whose closing fails: the one that leaves first is fine, and the other
one reports the fault. -/
theorem afterRun_closed_once_of_faulty :
    let source : Recorded Device :=
      ⟨{ content := ⟨#[1, 2, 3]⟩, closing := .fault (.saying .other "stuck") }, []⟩
    let after := (overSequence source none 4).afterRun
      (([.copy 0, .read 0 (.fresh 2), .close 0] : List (Use Device Gauge)).map Use.unseen)
    after.sharers? = some after.openCopies ∧ after.openCopies = 1 ∧
      (after.close 0).reply = .failed ⟨.close, .closed⟩ ∧
      (after.close 1).reply = .failed ⟨.close, .fault (.saying .other "stuck")⟩ ∧
      (after.drop 1).reply = .done () ∧
      (after.run ([.drop 1, .read 1 (.fresh 1)] : List (Use (Recorded Device) Gauge))).2 =
        (after.run ([.close 1, .read 1 (.fresh 1)] : List (Use (Recorded Device) Gauge))).2 := by
  intro source after
  have unclosed : source.Unclosed := nofun
  obtain ⟨counted, -, -, -, closed, opened, softened⟩ := afterRun_closed_once unclosed
    (.sequence none 4) ([.copy 0, .read 0 (.fresh 2), .close 0] : List (Use Device Gauge))
  have stuck : (after.close 1).reply = .failed ⟨.close, .fault (.saying .other "stuck")⟩ := by
    decide +kernel
  obtain ⟨-, -, -, drops⟩ := opened 1 (by decide +kernel)
  rw [stuck] at drops
  exact ⟨counted, by decide +kernel, (closed 0 (by decide +kernel)).1.1, stuck, drops,
    (softened _ _ (.dropped 1 (.same _ .nil))).1⟩

end Body

end Payload
