import Payload.Proofs.Run
import Payload.Proofs.Stream
import Payload.Pump

/-!
# Reading out, round by round

What holds before a copy is read out, and is kept by each round that passes bytes on, holds before
the last round as well; the last round is one read that fails, or one offer that the sink does not
take.  So a copy that was read out is where some reads of it, one after the other, leave it.  Where
no round is the last one, reads give bytes, and the sink takes them, as often as one likes.
-/

namespace Payload

section

variable {ρ κ τ : Type} [Sink τ]

/-! ## One round after the other -/

/-- What reading out comes to, round by round, with `total` bytes passed on before. -/
inductive PumpsTo (read : Buffer → ρ → κ → Turn ρ κ ByteArray) :
    Nat → Buffer → τ → ρ → κ → Turn ρ κ Nat × τ → Prop where
  /-- A read reports the end or a failure. -/
  | stopped {total : Nat} {buffer : Buffer} {sink : τ} {record : ρ} {cursor : κ} {error : Error}
      (failed : (read buffer record cursor).reply = .failed error) :
      PumpsTo read total buffer sink record cursor
        ((read buffer record cursor).replying
          (if error.isEnd then .done total else .failed (error.during .writeTo)), sink)
  /-- A read does not come back. -/
  | broke {total : Nat} {buffer : Buffer} {sink : τ} {record : ρ} {cursor : κ}
      (broke : (read buffer record cursor).reply = .broke) :
      PumpsTo read total buffer sink record cursor
        ((read buffer record cursor).replying .broke, sink)
  /-- The sink refuses what was read. -/
  | refused {total : Nat} {buffer : Buffer} {sink next : τ} {record : ρ} {cursor : κ}
      {bytes : ByteArray} {fault : Fault} (done : (read buffer record cursor).reply = .done bytes)
      (offer : Sink.takeAll bytes sink = (.failed fault, next)) :
      PumpsTo read total buffer sink record cursor
        ((read buffer record cursor).replying (.failed ⟨.writeTo, .fault fault⟩), next)
  /-- The sink does not come back. -/
  | swallowed {total : Nat} {buffer : Buffer} {sink next : τ} {record : ρ} {cursor : κ}
      {bytes : ByteArray} (done : (read buffer record cursor).reply = .done bytes)
      (offer : Sink.takeAll bytes sink = (.broke, next)) :
      PumpsTo read total buffer sink record cursor
        ((read buffer record cursor).replying .broke, next)
  /-- The sink takes what was read. -/
  | passed {total : Nat} {buffer : Buffer} {sink next : τ} {record : ρ} {cursor : κ}
      {bytes : ByteArray} {out : Turn ρ κ Nat × τ}
      (done : (read buffer record cursor).reply = .done bytes)
      (offer : Sink.takeAll bytes sink = (.done (), next))
      (rest : PumpsTo read (total + bytes.size) (buffer.write bytes) next
        (read buffer record cursor).record (read buffer record cursor).cursor out) :
      PumpsTo read total buffer sink record cursor
        (out.1.noting (read buffer record cursor).notes, out.2)

variable {read : Buffer → ρ → κ → Turn ρ κ ByteArray} {size total : Nat} {buffer : Buffer}
  {sink : τ} {record : ρ} {cursor : κ}

theorem Pumping.outcome?_of_passed {bytes : ByteArray} {next : τ}
    (done : (read buffer record cursor).reply = .done bytes)
    (offer : Sink.takeAll bytes sink = (.done (), next)) :
    Pumping.outcome? read ⟨total, buffer, record, cursor⟩ sink =
      (Pumping.outcome? read ⟨total + bytes.size, buffer.write bytes,
          (read buffer record cursor).record, (read buffer record cursor).cursor⟩ next).map
        fun rest => (rest.1.noting (read buffer record cursor).notes, rest.2) := by
  rw [Pumping.outcome?, Option.map_eq_bind]
  simp only [done, offer]
  rfl

/-- The loop has an outcome where rounds come to it, and no other. -/
theorem Pumping.outcome?_eq_some_iff {out : Turn ρ κ Nat × τ} :
    Pumping.outcome? read ⟨total, buffer, record, cursor⟩ sink = some out ↔
      PumpsTo read total buffer sink record cursor out := by
  constructor
  · refine Pumping.outcome?.partial_correctness read (fun stage sink out =>
      PumpsTo read stage.total stage.buffer sink stage.record stage.cursor out) ?_
      ⟨total, buffer, record, cursor⟩ sink out
    intro further ih ⟨total, buffer, record, cursor⟩ sink out round
    dsimp only at round
    split at round
    · rename_i error failed
      have stops : PumpsTo read total buffer sink record cursor _ := .stopped failed
      split at round <;> rename_i ends <;> cases round <;> simpa [ends] using stops
    · rename_i broke
      cases round
      exact .broke broke
    · rename_i bytes done
      split at round
      · rename_i next offer
        obtain ⟨rest, came, same⟩ := Option.bind_eq_some_iff.mp round
        cases same
        exact .passed done offer (ih _ _ _ came)
      · rename_i fault next offer
        cases round
        exact .refused done offer
      · rename_i next offer
        cases round
        exact .swallowed done offer
  · intro pumps
    induction pumps with
    | @stopped total buffer sink record cursor error failed =>
        rw [Pumping.outcome?]
        simp only [failed]
        split <;> rfl
    | broke broke =>
        rw [Pumping.outcome?]
        simp only [broke]
    | refused done offer =>
        rw [Pumping.outcome?]
        simp only [done, offer]
    | swallowed done offer =>
        rw [Pumping.outcome?]
        simp only [done, offer]
    | passed done offer _ ih => rw [Pumping.outcome?_of_passed done offer, ih, Option.map_some]

/-- A loop that goes on for ever passes bytes on, and then goes on for ever. -/
theorem Pumping.exists_passed_of_outcome?_eq_none
    (never : Pumping.outcome? read ⟨total, buffer, record, cursor⟩ sink = none) :
    ∃ bytes next, (read buffer record cursor).reply = .done bytes ∧
      Sink.takeAll bytes sink = (.done (), next) ∧
      Pumping.outcome? read ⟨total + bytes.size, buffer.write bytes,
        (read buffer record cursor).record, (read buffer record cursor).cursor⟩ next = none := by
  have no_last {out : Turn ρ κ Nat × τ} :
      ¬PumpsTo read total buffer sink record cursor out := fun pumps => by
    rw [Pumping.outcome?_eq_some_iff.mpr pumps] at never
    cases never
  cases came : (read buffer record cursor).reply with
  | failed error => exact absurd (.stopped came) no_last
  | broke => exact absurd (.broke came) no_last
  | done bytes =>
      rcases offer : Sink.takeAll bytes sink with ⟨answer, next⟩
      cases answer with
      | failed fault => exact absurd (.refused came offer) no_last
      | broke => exact absurd (.swallowed came offer) no_last
      | done =>
          rw [Pumping.outcome?_of_passed came offer] at never
          exact ⟨bytes, next, rfl, offer, Option.map_eq_none_iff.mp never⟩

/-! ## The last round -/

/-- How reading out can come to an end, with `total` bytes passed on. -/
inductive Pumped (read : Buffer → ρ → κ → Turn ρ κ ByteArray) (size total : Nat) (sink : τ)
    (record : ρ) (cursor : κ) : Turn ρ κ Nat × τ → Prop where
  /-- It goes on for ever. -/
  | endless {buffer : Buffer} (notes : List Note) (sized : buffer.size = size)
      (never : Pumping.outcome? read ⟨total, buffer, record, cursor⟩ sink = none) :
      Pumped read size total sink record cursor (⟨.broke, record, cursor, notes⟩, sink)
  /-- A read reports the end or a failure. -/
  | stopped {buffer : Buffer} {error : Error} (notes : List Note) (sized : buffer.size = size)
      (failed : (read buffer record cursor).reply = .failed error) :
      Pumped read size total sink record cursor
        (⟨if error.isEnd then .done total else .failed (error.during .writeTo),
          (read buffer record cursor).record, (read buffer record cursor).cursor, notes⟩, sink)
  /-- A read does not come back. -/
  | broke {buffer : Buffer} (notes : List Note) (sized : buffer.size = size)
      (broke : (read buffer record cursor).reply = .broke) :
      Pumped read size total sink record cursor
        (⟨.broke, (read buffer record cursor).record, (read buffer record cursor).cursor, notes⟩,
          sink)
  /-- The sink refuses what was read. -/
  | refused {buffer : Buffer} {bytes : ByteArray} {fault : Fault} {next : τ} (notes : List Note)
      (sized : buffer.size = size) (done : (read buffer record cursor).reply = .done bytes)
      (offer : Sink.takeAll bytes sink = (.failed fault, next)) :
      Pumped read size total sink record cursor
        (⟨.failed ⟨.writeTo, .fault fault⟩, (read buffer record cursor).record,
          (read buffer record cursor).cursor, notes⟩, next)
  /-- The sink does not come back. -/
  | swallowed {buffer : Buffer} {bytes : ByteArray} {next : τ} (notes : List Note)
      (sized : buffer.size = size) (done : (read buffer record cursor).reply = .done bytes)
      (offer : Sink.takeAll bytes sink = (.broke, next)) :
      Pumped read size total sink record cursor
        (⟨.broke, (read buffer record cursor).record, (read buffer record cursor).cursor, notes⟩,
          next)

theorem Pumped.noting {out : Turn ρ κ Nat × τ}
    (pumped : Pumped read size total sink record cursor out) (notes : List Note) :
    Pumped read size total sink record cursor (out.1.noting notes, out.2) := by
  cases pumped with
  | endless later sized never => exact .endless _ sized never
  | stopped later sized failed => exact .stopped _ sized failed
  | broke later sized broke => exact .broke _ sized broke
  | refused later sized done offer => exact .refused _ sized done offer
  | swallowed later sized done offer => exact .swallowed _ sized done offer

/-- The last round leaves the copy where it found it, or as one more read does. -/
theorem Pumped.state_cases {out : Turn ρ κ Nat × τ}
    (pumped : Pumped read size total sink record cursor out) :
    (out.1.record = record ∧ out.1.cursor = cursor) ∨
      ∃ buffer : Buffer, buffer.size = size ∧ out.1.record = (read buffer record cursor).record ∧
        out.1.cursor = (read buffer record cursor).cursor := by
  cases pumped with
  | endless => exact Or.inl ⟨rfl, rfl⟩
  | stopped _ sized => exact Or.inr ⟨_, sized, rfl, rfl⟩
  | broke _ sized => exact Or.inr ⟨_, sized, rfl, rfl⟩
  | refused _ sized => exact Or.inr ⟨_, sized, rfl, rfl⟩
  | swallowed _ sized => exact Or.inr ⟨_, sized, rfl, rfl⟩

/-- The rule of the loop: what every round keeps that passes bytes on holds before the last one. -/
theorem PumpsTo.rule {I : Nat → τ → ρ → κ → Prop}
    (keeps : ∀ total sink record cursor buffer bytes next, I total sink record cursor →
      buffer.size = size → (read buffer record cursor).reply = .done bytes →
      Sink.takeAll bytes sink = (.done (), next) →
      I (total + bytes.size) next (read buffer record cursor).record
        (read buffer record cursor).cursor)
    {out : Turn ρ κ Nat × τ} (pumps : PumpsTo read total buffer sink record cursor out)
    (sized : buffer.size = size) (holds : I total sink record cursor) :
    ∃ reached sink' record' cursor', I reached sink' record' cursor' ∧
      Pumped read size reached sink' record' cursor' out := by
  induction pumps with
  | @stopped total buffer sink record cursor error failed =>
      exact ⟨total, sink, record, cursor, holds, .stopped _ sized failed⟩
  | @broke total buffer sink record cursor broke =>
      exact ⟨total, sink, record, cursor, holds, .broke _ sized broke⟩
  | @refused total buffer sink next record cursor bytes fault done offer =>
      exact ⟨total, sink, record, cursor, holds, .refused _ sized done offer⟩
  | @swallowed total buffer sink next record cursor bytes done offer =>
      exact ⟨total, sink, record, cursor, holds, .swallowed _ sized done offer⟩
  | @passed total buffer sink next record cursor bytes out done offer rest ih =>
      obtain ⟨reached, sink', record', cursor', kept, pumped⟩ :=
        ih ((Buffer.size_write buffer bytes).trans sized)
          (keeps _ _ _ _ _ _ _ holds sized done offer)
      exact ⟨reached, sink', record', cursor', kept, pumped.noting _⟩

/-- A loop comes to an end where something falls with every round that passes bytes on. -/
theorem Pumping.outcome?_ne_none {I : Nat → τ → ρ → κ → Prop} (rank : ρ → κ → Nat)
    (falls : ∀ total sink record cursor buffer bytes next, I total sink record cursor →
      buffer.size = size → (read buffer record cursor).reply = .done bytes →
      Sink.takeAll bytes sink = (.done (), next) →
      I (total + bytes.size) next (read buffer record cursor).record
          (read buffer record cursor).cursor ∧
        rank (read buffer record cursor).record (read buffer record cursor).cursor <
          rank record cursor)
    (sized : buffer.size = size) (holds : I total sink record cursor) :
    Pumping.outcome? read ⟨total, buffer, record, cursor⟩ sink ≠ none := by
  intro never
  generalize most : rank record cursor = bound
  induction bound using Nat.strongRecOn generalizing total buffer sink record cursor with
  | ind bound ih =>
      obtain ⟨bytes, next, done, offer, still⟩ := Pumping.exists_passed_of_outcome?_eq_none never
      obtain ⟨kept, fewer⟩ := falls _ _ _ _ _ _ _ holds sized done offer
      exact ih _ (most ▸ fewer) ((Buffer.size_write buffer bytes).trans sized) kept still rfl

theorem pump_rule (read : Buffer → ρ → κ → Turn ρ κ ByteArray) {I : Nat → τ → ρ → κ → Prop}
    (keeps : ∀ total sink record cursor buffer bytes next, I total sink record cursor →
      buffer.size = size → (read buffer record cursor).reply = .done bytes →
      Sink.takeAll bytes sink = (.done (), next) →
      I (total + bytes.size) next (read buffer record cursor).record
        (read buffer record cursor).cursor)
    (buffer : Buffer) (sink : τ) (sized : buffer.size = size) (holds : I 0 sink record cursor) :
    ∃ reached sink' record' cursor', I reached sink' record' cursor' ∧
      Pumped read size reached sink' record' cursor' (pump read buffer sink record cursor) := by
  unfold pump
  cases ends : Pumping.outcome? read ⟨0, buffer, record, cursor⟩ sink with
  | none => exact ⟨0, sink, record, cursor, holds, .endless [] sized ends⟩
  | some out => exact (Pumping.outcome?_eq_some_iff.mp ends).rule keeps sized holds

/-- Where the first read fails, that is what reading out comes to. -/
theorem pump_of_failed (sink : τ) {error : Error}
    (failed : (read buffer record cursor).reply = .failed error) :
    pump read buffer sink record cursor =
      ((read buffer record cursor).replying
        (if error.isEnd then .done 0 else .failed (error.during .writeTo)), sink) := by
  rw [pump, Pumping.outcome?_eq_some_iff.mpr (.stopped failed)]
  rfl

/-- What every read keeps, reading out keeps. -/
theorem pump_keeps (read : Buffer → ρ → κ → Turn ρ κ ByteArray) {I : ρ → κ → Prop}
    (keeps : ∀ buffer record cursor, I record cursor →
      I (read buffer record cursor).record (read buffer record cursor).cursor)
    (buffer : Buffer) (sink : τ) (holds : I record cursor) :
    I (pump read buffer sink record cursor).1.record
      (pump read buffer sink record cursor).1.cursor := by
  obtain ⟨reached, last, record', cursor', kept, pumped⟩ :=
    pump_rule read (I := fun _ (_ : τ) => I)
      (fun _ _ record cursor buffer _ _ held _ _ _ => keeps buffer record cursor held)
      buffer sink rfl holds
  rcases pumped.state_cases with ⟨same, stays⟩ | ⟨other, -, same, stays⟩
  · rw [same, stays]
    exact kept
  · rw [same, stays]
    exact keeps _ _ _ kept

/-- Where every read moves a cursor by as many bytes as it gives, reading out moves it by as many
bytes as a willing sink has then taken, unless it goes on for ever. -/
theorem pump_moves {willing : τ → Prop} {content : τ → List UInt8}
    (sinks : Sink.Willing willing content) (read : Buffer → ρ → κ → Turn ρ κ ByteArray)
    (offset : κ → Nat) {I : ρ → κ → Prop}
    (keeps : ∀ buffer record cursor, I record cursor →
      I (read buffer record cursor).record (read buffer record cursor).cursor)
    (gives : ∀ buffer record cursor bytes, I record cursor →
      (read buffer record cursor).reply = .done bytes →
      offset (read buffer record cursor).cursor = offset cursor + bytes.size)
    (idles : ∀ buffer record cursor, I record cursor →
      (∀ bytes, (read buffer record cursor).reply ≠ .done bytes) →
      offset (read buffer record cursor).cursor = offset cursor)
    (buffer : Buffer) (ready : willing sink) (holds : I record cursor) :
    offset (pump read buffer sink record cursor).1.cursor =
      offset cursor + ((content (pump read buffer sink record cursor).2).drop
        (content sink).length).length := by
  rw [List.length_drop]
  obtain ⟨reached, latest, record', current, ⟨kept, willing, onwards, taken⟩, pumped⟩ :=
    pump_rule read
      (I := fun _ latest record current => I record current ∧ willing latest ∧
        offset cursor ≤ offset current ∧
        (content latest).length + offset cursor = (content sink).length + offset current)
      (fun _ latest record current buffer bytes _ held _ done offer => by
        obtain ⟨held, willing, onwards, taken⟩ := held
        have moved := gives buffer record current bytes held done
        obtain ⟨last, took, ready, content_eq⟩ := sinks.takeAll bytes willing
        rw [took] at offer
        cases offer
        refine ⟨keeps buffer record current held, ready, by omega, ?_⟩
        rw [content_eq, List.length_append, moved]
        simp
        omega)
      buffer sink rfl ⟨holds, ready, Nat.le_refl _, rfl⟩
  have so_far : offset current =
      offset cursor + ((content latest).length - (content sink).length) := by
    omega
  have stays (buffer : Buffer)
      (nothing : ∀ bytes, (read buffer record' current).reply ≠ .done bytes) :
      offset (read buffer record' current).cursor =
        offset cursor + ((content latest).length - (content sink).length) :=
    (idles buffer record' current kept nothing).trans so_far
  have takes {bytes : ByteArray} {outcome : Outcome Fault Unit} {last : τ}
      (offer : Sink.takeAll bytes latest = (outcome, last)) : outcome = .done () := by
    obtain ⟨_, took, -⟩ := sinks.takeAll bytes willing
    rw [took] at offer
    exact (congrArg Prod.fst offer).symm
  generalize pump read buffer sink record cursor = out at pumped ⊢
  cases pumped with
  | endless => exact so_far
  | stopped _ _ failed => exact stays _ (by rw [failed]; nofun)
  | broke _ _ broke => exact stays _ (by rw [broke]; nofun)
  | refused _ _ _ offer => cases takes offer
  | swallowed _ _ _ offer => cases takes offer

end

/-! ## Two loops beside each other -/

/-- Outcomes of reading out that differ in nothing but what is related. -/
def Beside {ρ ρ' κ υ τ : Type} (R : ρ → ρ' → κ → Prop) (stands : υ → τ → Prop)
    (out : Turn ρ κ Nat × υ) (out' : Turn ρ' κ Nat × τ) : Prop :=
  out.1.reply = out'.1.reply ∧ out.1.cursor = out'.1.cursor ∧
    R out.1.record out'.1.record out.1.cursor ∧ stands out.2 out'.2

section

variable {ρ ρ' κ υ τ : Type} [Sink υ] [Sink τ]

/-- Over related records and into sinks that stand opposite each other, every round comes to the
same. -/
structure InStep (size : Nat) (read : Buffer → ρ → κ → Turn ρ κ ByteArray)
    (read' : Buffer → ρ' → κ → Turn ρ' κ ByteArray) (R : ρ → ρ' → κ → Prop)
    (stands : υ → τ → Prop) : Prop where
  agree : ∀ buffer record record' cursor, buffer.size = size → R record record' cursor →
    (read buffer record cursor).reply = (read' buffer record' cursor).reply ∧
      (read buffer record cursor).cursor = (read' buffer record' cursor).cursor ∧
      R (read buffer record cursor).record (read' buffer record' cursor).record
        (read buffer record cursor).cursor
  takes : ∀ bytes {sink other}, stands sink other →
    (Sink.takeAll bytes sink).1 = (Sink.takeAll bytes other).1 ∧
      stands (Sink.takeAll bytes sink).2 (Sink.takeAll bytes other).2

variable {read : Buffer → ρ → κ → Turn ρ κ ByteArray}
  {read' : Buffer → ρ' → κ → Turn ρ' κ ByteArray} {R : ρ → ρ' → κ → Prop} {stands : υ → τ → Prop}
  {size : Nat}

theorem InStep.symm (inStep : InStep size read read' R stands) :
    InStep size read' read (fun record' record cursor => R record record' cursor)
      (fun other sink => stands sink other) where
  agree buffer record' record cursor sized related := by
    obtain ⟨reply, place, still⟩ := inStep.agree buffer record record' cursor sized related
    exact ⟨reply.symm, place.symm, place ▸ still⟩
  takes bytes _ _ standing := by
    obtain ⟨same, onwards⟩ := inStep.takes bytes standing
    exact ⟨same.symm, onwards⟩

/-- Where the one loop comes to an end, so does the other. -/
theorem InStep.exists_pumpsTo (inStep : InStep size read read' R stands) {total : Nat}
    {buffer : Buffer} {sink : υ} {record : ρ} {cursor : κ} {out : Turn ρ κ Nat × υ}
    (pumps : PumpsTo read total buffer sink record cursor out) (sized : buffer.size = size)
    {other : τ} {record' : ρ'} (standing : stands sink other) (related : R record record' cursor) :
    ∃ out', PumpsTo read' total buffer other record' cursor out' ∧ Beside R stands out out' := by
  induction pumps generalizing other record' with
  | @stopped total buffer sink record cursor error failed =>
      obtain ⟨reply, place, still⟩ := inStep.agree buffer record record' cursor sized related
      exact ⟨_, .stopped (reply.symm.trans failed), rfl, place, still, standing⟩
  | @broke total buffer sink record cursor broke =>
      obtain ⟨reply, place, still⟩ := inStep.agree buffer record record' cursor sized related
      exact ⟨_, .broke (reply.symm.trans broke), rfl, place, still, standing⟩
  | @refused total buffer sink next record cursor bytes fault done offer =>
      obtain ⟨reply, place, still⟩ := inStep.agree buffer record record' cursor sized related
      obtain ⟨same, onwards⟩ := inStep.takes bytes standing
      rw [offer] at same onwards
      exact ⟨_, .refused (reply.symm.trans done) (Prod.ext same.symm rfl), rfl, place, still,
        onwards⟩
  | @swallowed total buffer sink next record cursor bytes done offer =>
      obtain ⟨reply, place, still⟩ := inStep.agree buffer record record' cursor sized related
      obtain ⟨same, onwards⟩ := inStep.takes bytes standing
      rw [offer] at same onwards
      exact ⟨_, .swallowed (reply.symm.trans done) (Prod.ext same.symm rfl), rfl, place, still,
        onwards⟩
  | @passed total buffer sink next record cursor bytes out done offer rest ih =>
      obtain ⟨reply, place, still⟩ := inStep.agree buffer record record' cursor sized related
      obtain ⟨same, onwards⟩ := inStep.takes bytes standing
      rw [offer] at same onwards
      obtain ⟨out', pumps, beside⟩ :=
        ih ((Buffer.size_write buffer bytes).trans sized) onwards still
      rw [place] at pumps
      exact ⟨_, .passed (reply.symm.trans done) (Prod.ext same.symm rfl) pumps, beside⟩

/-- Reading out comes to the same over two records whose reads come to the same, and into two sinks
that take the same, be it that it goes on for ever. -/
theorem InStep.pump (inStep : InStep size read read' R stands) (buffer : Buffer) {sink : υ}
    {other : τ} {record : ρ} {record' : ρ'} {cursor : κ} (sized : buffer.size = size)
    (standing : stands sink other) (related : R record record' cursor) :
    Beside R stands (Payload.pump read buffer sink record cursor)
      (Payload.pump read' buffer other record' cursor) := by
  unfold Payload.pump
  cases ends : Pumping.outcome? read ⟨0, buffer, record, cursor⟩ sink with
  | some out =>
      obtain ⟨out', pumps, beside⟩ :=
        inStep.exists_pumpsTo (Pumping.outcome?_eq_some_iff.mp ends) sized standing related
      rw [Pumping.outcome?_eq_some_iff.mpr pumps]
      exact beside
  | none =>
      cases ends' : Pumping.outcome? read' ⟨0, buffer, record', cursor⟩ other with
      | none => exact ⟨rfl, rfl, related, standing⟩
      | some out' =>
          obtain ⟨out, pumps, -⟩ := inStep.symm.exists_pumpsTo
            (Pumping.outcome?_eq_some_iff.mp ends') sized standing related
          rw [Pumping.outcome?_eq_some_iff.mpr pumps] at ends
          cases ends

end

/-- Reading out into one and the same sink. -/
theorem pump_agree {ρ ρ' κ τ : Type} [Sink τ] {read : Buffer → ρ → κ → Turn ρ κ ByteArray}
    {read' : Buffer → ρ' → κ → Turn ρ' κ ByteArray} {R : ρ → ρ' → Prop} {size : Nat}
    (agree : ∀ buffer record record' cursor, buffer.size = size → R record record' →
      (read buffer record cursor).reply = (read' buffer record' cursor).reply ∧
        (read buffer record cursor).cursor = (read' buffer record' cursor).cursor ∧
        R (read buffer record cursor).record (read' buffer record' cursor).record)
    (buffer : Buffer) (sink : τ) {record : ρ} {record' : ρ'} {cursor : κ}
    (sized : buffer.size = size) (related : R record record') :
    Beside (fun record record' _ => R record record') Eq (pump read buffer sink record cursor)
      (pump read' buffer sink record' cursor) := by
  have inStep : InStep size read read' (fun record record' _ => R record record') (@Eq τ) :=
    { agree
      takes := by
        rintro bytes sink _ rfl
        exact ⟨rfl, rfl⟩ }
  exact inStep.pump buffer sized rfl related

/-! ## Pieces offered one after the other -/

/-- How many bytes these pieces have together. -/
def byteCount : List ByteArray → Nat
  | [] => 0
  | piece :: rest => piece.size + byteCount rest

@[simp]
theorem byteCount_nil : byteCount [] = 0 :=
  rfl

@[simp]
theorem byteCount_cons (piece : ByteArray) (rest : List ByteArray) :
    byteCount (piece :: rest) = piece.size + byteCount rest :=
  rfl

@[simp]
theorem byteCount_append (first second : List ByteArray) :
    byteCount (first ++ second) = byteCount first + byteCount second := by
  induction first with
  | nil => simp
  | cons piece rest ih => rw [List.cons_append, byteCount_cons, byteCount_cons, ih, Nat.add_assoc]

theorem byteCount_singleton (bytes : ByteArray) : byteCount [bytes] = bytes.size :=
  rfl

theorem length_flatMap_toList (pieces : List ByteArray) :
    (pieces.flatMap fun piece => piece.data.toList).length = byteCount pieces := by
  induction pieces with
  | nil => rfl
  | cons piece rest ih => simp [ih]

/-- The sink takes all of these pieces, one after the other. -/
inductive Sink.Passed {τ : Type} [Sink τ] (sink : τ) : List ByteArray → τ → Prop where
  | start : Passed sink [] sink
  | further {pieces : List ByteArray} {bytes : ByteArray} {between last : τ}
      (passed : Passed sink pieces between)
      (offer : Sink.takeAll bytes between = (.done (), last)) :
      Passed sink (pieces ++ [bytes]) last

/-- A willing sink has then kept all of them. -/
theorem Sink.Passed.content_eq {τ : Type} [Sink τ] {willing : τ → Prop} {content : τ → List UInt8}
    (sinks : Sink.Willing willing content) {sink last : τ} {pieces : List ByteArray}
    (passed : Passed sink pieces last) (ready : willing sink) :
    willing last ∧
      content last = content sink ++ pieces.flatMap fun piece => piece.data.toList := by
  induction passed with
  | start => exact ⟨ready, by simp⟩
  | @further pieces bytes between last passed offer ih =>
      obtain ⟨next, took, still, content_eq⟩ := sinks.takeAll bytes ih.1
      rw [took] at offer
      cases offer
      exact ⟨still, by rw [content_eq, ih.2]; simp⟩

/-! ## Reading out as a run of reads -/

namespace Pool

variable {σ ρ κ τ : Type} [Sink τ] {engine : Engine σ ρ κ}

theorem use_read_of_open {pool : Pool engine} {index : Nat} {cursor : κ}
    (found : pool.cursor? index = some cursor) (buffer : Buffer) :
    pool.use (.read index buffer : Use σ τ) =
      (.bytes (engine.read buffer pool.record cursor).reply,
        pool.put index (engine.read buffer pool.record cursor).record
          (engine.read buffer pool.record cursor).cursor) := by
  obtain ⟨reply, state⟩ := act_of_open found .read (engine.read buffer)
  exact Prod.ext (congrArg Receipt.bytes reply) state

/-- What each read keeps that gives bytes, reads keep that all give bytes. -/
theorem gave_rule {index : Nat} {buffers : List Buffer}
    {I : List ByteArray → Pool engine → Prop}
    (keeps : ∀ {pieces pool cursor buffer bytes}, I pieces pool → buffer ∈ buffers →
      pool.cursor? index = some cursor →
      (engine.read buffer pool.record cursor).reply = .done bytes →
        I (pieces ++ [bytes]) (pool.put index (engine.read buffer pool.record cursor).record
          (engine.read buffer pool.record cursor).cursor))
    (before : List ByteArray) {pieces : List ByteArray} {pool : Pool engine} (holds : I before pool)
    (gave : (pool.run (buffers.map (Use.read index : Buffer → Use σ τ))).1 =
      pieces.map fun piece => .bytes (.done piece)) :
    I (before ++ pieces) (pool.afterRun (buffers.map (Use.read index : Buffer → Use σ τ))) := by
  induction buffers generalizing before pieces pool with
  | nil =>
      obtain rfl : pieces = [] := List.map_eq_nil_iff.mp gave.symm
      simpa using holds
  | cons buffer buffers ih =>
      rw [List.map_cons, run_cons] at gave
      cases pieces with
      | nil => cases gave
      | cons bytes pieces =>
          obtain ⟨first, later⟩ := List.cons.inj gave
          have reply : (pool.read index buffer).reply = .done bytes := Receipt.bytes.inj first
          obtain ⟨cursor, found, done⟩ := exists_open_of_act reply nofun
          have next := keeps holds List.mem_cons_self found done
          rw [List.map_cons, afterRun_cons, List.append_cons]
          rw [use_read_of_open found] at later ⊢
          exact ih (fun held member => keeps held (List.mem_cons_of_mem _ member)) _ next later

theorem state_use_read_put {pool : Pool engine} {index : Nat} {cursor : κ}
    (found : pool.cursor? index = some cursor) (buffer : Buffer) (record : ρ) (current : κ) :
    ((pool.put index record current).use (.read index buffer : Use σ τ)).2 =
      pool.put index (engine.read buffer record current).record
        (engine.read buffer record current).cursor := by
  rw [use_read_of_open (cursor?_put_self found record current)]
  exact put_put _ _ _ _ _ _

theorem receipt_use_read_put {pool : Pool engine} {index : Nat} {cursor : κ}
    (found : pool.cursor? index = some cursor) (buffer : Buffer) (record : ρ) (current : κ) :
    ((pool.put index record current).use (.read index buffer : Use σ τ)).1 =
      .bytes (engine.read buffer record current).reply := by
  rw [use_read_of_open (cursor?_put_self found record current)]
  rfl

/-- Reads of a copy, into buffers of one size, have given these pieces, and the sink has taken
them. -/
structure Poured (pool : Pool engine) (index size : Nat) (sink : τ) (buffers : List Buffer)
    (pieces : List ByteArray) (record : ρ) (current : κ) (last : τ) : Prop where
  sized : ∀ buffer ∈ buffers, buffer.size = size
  gave : (pool.run (buffers.map (Use.read index : Buffer → Use σ τ))).1 =
    pieces.map fun piece => .bytes (.done piece)
  state : pool.put index record current =
    pool.afterRun (buffers.map (Use.read index : Buffer → Use σ τ))
  passed : Sink.Passed sink pieces last

namespace Poured

variable {pool : Pool engine} {index size : Nat} {cursor : κ} {sink last : τ}
  {buffers : List Buffer} {pieces : List ByteArray} {record : ρ} {current : κ}

/-- What one more read leaves. -/
theorem onward (poured : Poured pool index size sink buffers pieces record current last)
    (found : pool.cursor? index = some cursor) (other : Buffer) :
    pool.put index (engine.read other record current).record
        (engine.read other record current).cursor =
      pool.afterRun ((buffers ++ [other]).map (Use.read index : Buffer → Use σ τ)) := by
  rw [List.map_append, afterRun_append, ← poured.state]
  exact (state_use_read_put (τ := τ) found other record current).symm

/-- What one more read comes to. -/
theorem gave_onward (poured : Poured pool index size sink buffers pieces record current last)
    (found : pool.cursor? index = some cursor) (other : Buffer) :
    (pool.run ((buffers ++ [other]).map (Use.read index : Buffer → Use σ τ))).1 =
      (pieces.map fun piece => .bytes (.done piece)) ++
        [.bytes (engine.read other record current).reply] := by
  rw [List.map_append, run, runAll_append, ← poured.gave]
  change _ ++ [((pool.afterRun (buffers.map (Use.read index : Buffer → Use σ τ))).use
    (.read index other : Use σ τ)).1] = _
  rw [← poured.state, receipt_use_read_put found]
  rfl

theorem further (poured : Poured pool index size sink buffers pieces record current last)
    (found : pool.cursor? index = some cursor) {other : Buffer} (fits : other.size = size)
    {bytes : ByteArray} (done : (engine.read other record current).reply = .done bytes) {next : τ}
    (offer : Sink.takeAll bytes last = (.done (), next)) :
    Poured pool index size sink (buffers ++ [other]) (pieces ++ [bytes])
      (engine.read other record current).record (engine.read other record current).cursor next where
  sized := List.forall_mem_append.mpr ⟨poured.sized, List.forall_mem_singleton.mpr fits⟩
  gave := by
    rw [poured.gave_onward found, done, List.map_append]
    rfl
  state := poured.onward found other
  passed := poured.passed.further offer

/-- Nothing was read yet. -/
theorem begun (found : pool.cursor? index = some cursor) :
    Poured pool index size sink [] [] pool.record cursor sink where
  sized := List.forall_mem_nil _
  gave := rfl
  state := put_self found
  passed := .start

/-- Where reading out goes on for ever from here, there are as many more rounds as one likes. -/
theorem exists_longer (poured : Poured pool index size sink buffers pieces record current last)
    (found : pool.cursor? index = some cursor) {total : Nat} {buffer : Buffer}
    (fits : buffer.size = size)
    (never : Pumping.outcome? engine.read ⟨total, buffer, record, current⟩ last = none)
    (count : Nat) :
    ∃ longer pieces record current last,
      Poured pool index size sink longer pieces record current last ∧
        buffers.length + count ≤ longer.length := by
  induction count generalizing buffers pieces record current last total buffer with
  | zero => exact ⟨buffers, pieces, record, current, last, poured, Nat.le_refl _⟩
  | succ count ih =>
      obtain ⟨bytes, next, done, offer, still⟩ := Pumping.exists_passed_of_outcome?_eq_none never
      obtain ⟨longer, given, final, place, left, further, enough⟩ :=
        ih (poured.further found fits done offer) ((Buffer.size_write buffer bytes).trans fits)
          still
      rw [List.length_append, List.length_singleton] at enough
      exact ⟨longer, given, final, place, left, further, by omega⟩

end Poured

/-- Before the last round of reading out, each round so far was one read that gave bytes and one
offer that was taken. -/
theorem exists_poured_of_pump {pool : Pool engine} {index : Nat} {cursor : κ}
    (found : pool.cursor? index = some cursor) (buffer : Buffer) (sink : τ) :
    ∃ buffers pieces record current last,
      Poured pool index buffer.size sink buffers pieces record current last ∧
        Pumped engine.read buffer.size (byteCount pieces) last record current
          (pump engine.read buffer sink pool.record cursor) := by
  obtain ⟨reached, last, record, current, ⟨buffers, pieces, poured, rfl⟩, pumped⟩ :=
    pump_rule engine.read
      (I := fun reached last record current => ∃ buffers pieces,
        Poured pool index buffer.size sink buffers pieces record current last ∧
          byteCount pieces = reached)
      (fun _ _ _ _ other bytes _ ⟨buffers, pieces, poured, sum⟩ fits done offer =>
        ⟨buffers ++ [other], pieces ++ [bytes], poured.further found fits done offer,
          by rw [byteCount_append, byteCount_singleton, sum]⟩)
      buffer sink rfl ⟨[], [], .begun found, rfl⟩
  exact ⟨buffers, pieces, record, current, last, poured, pumped⟩

/-- Reading out leaves what some reads of the copy leave, all into buffers of one size. -/
theorem exists_reads_of_pump {pool : Pool engine} {index : Nat} {cursor : κ}
    (found : pool.cursor? index = some cursor) (buffer : Buffer) (sink : τ) :
    ∃ buffers : List Buffer, (∀ other ∈ buffers, other.size = buffer.size) ∧
      pool.put index (pump engine.read buffer sink pool.record cursor).1.record
          (pump engine.read buffer sink pool.record cursor).1.cursor =
        pool.afterRun (buffers.map (Use.read index : Buffer → Use σ τ)) := by
  obtain ⟨buffers, pieces, record, current, last, poured, pumped⟩ :=
    exists_poured_of_pump found buffer sink
  rcases pumped.state_cases with ⟨same, stays⟩ | ⟨other, fits, same, stays⟩
  · rw [same, stays]
    exact ⟨buffers, poured.sized, poured.state⟩
  · rw [same, stays]
    exact ⟨buffers ++ [other],
      List.forall_mem_append.mpr ⟨poured.sized, List.forall_mem_singleton.mpr fits⟩,
      poured.onward found other⟩

/-- How far a use may have got: it has not begun or, where a copy is read out, reads of it have
given bytes so far. -/
inductive Underway (pool : Pool engine) : Use σ τ → Pool engine → Prop where
  | begun (use : Use σ τ) : Underway pool use pool
  | reading (index : Nat) (sink : τ) {buffers : List Buffer}
      (gave : ∀ receipt ∈ (pool.run (buffers.map (Use.read index : Buffer → Use σ τ))).1,
        ∃ bytes, receipt = .bytes (.done bytes)) :
      Underway pool (.writeTo index sink)
        (pool.afterRun (buffers.map (Use.read index : Buffer → Use σ τ)))

/-- Reading out leaves what is left underway, or what one more read leaves. -/
theorem exists_underway_of_pump {pool : Pool engine} {index : Nat} {cursor : κ}
    (found : pool.cursor? index = some cursor) (buffer : Buffer) (first sink : τ) :
    ∃ before, Underway pool (.writeTo index first : Use σ τ) before ∧
      (pool.put index (pump engine.read buffer sink pool.record cursor).1.record
          (pump engine.read buffer sink pool.record cursor).1.cursor = before ∨
        ∃ other, pool.put index (pump engine.read buffer sink pool.record cursor).1.record
            (pump engine.read buffer sink pool.record cursor).1.cursor =
          (before.use (.read index other : Use σ τ)).2) := by
  obtain ⟨buffers, pieces, record, current, last, poured, pumped⟩ :=
    exists_poured_of_pump found buffer sink
  have gave : ∀ receipt ∈ (pool.run (buffers.map (Use.read index : Buffer → Use σ τ))).1,
      ∃ bytes, receipt = .bytes (.done bytes) := by
    intro receipt member
    rw [poured.gave] at member
    obtain ⟨piece, -, rfl⟩ := List.mem_map.mp member
    exact ⟨piece, rfl⟩
  refine ⟨_, .reading index first gave, ?_⟩
  rcases pumped.state_cases with ⟨same, stays⟩ | ⟨other, -, same, stays⟩
  · rw [same, stays]
    exact Or.inl poured.state
  · rw [same, stays, ← poured.state]
    exact Or.inr ⟨other, (state_use_read_put (τ := τ) found other record current).symm⟩

end Pool

end Payload
