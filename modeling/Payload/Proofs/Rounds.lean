import Payload.Proofs.Yielding

/-!
# How reading out ends

A copy that is not in memory is read out in rounds, each a read and an offer of what it gave.  In
every round but the last the read gives bytes and the sink takes them.  Reading out goes on for ever
only over bytes without end: as each read gives at least one, there are then more of them to come
than any number.
-/

namespace Payload

variable {σ τ : Type} [Source σ] [Sink τ]

/-! ## Reads that all give bytes -/

namespace Body

/-- A read gives at least one byte where it was asked for some, and no more than it was asked
for. -/
theorem Orderly.size_read {body : Body σ} (orderly : body.Orderly) {index : Nat} {buffer : Buffer}
    {bytes : ByteArray} (done : (body.read index buffer).reply = .done bytes) :
    (0 < buffer.size → 0 < bytes.size) ∧ bytes.size ≤ buffer.size := by
  cases orderly with
  | memory pool =>
      obtain ⟨cursor, found, done⟩ := Pool.exists_open_of_act done nofun
      have advances := Memory.forwards.advances trivial found buffer
      exact ⟨advances.some_bytes bytes done, advances.size_le bytes done⟩
  | direct pool =>
      obtain ⟨cursor, found, done⟩ := Pool.exists_open_of_act done nofun
      have advances := Direct.forwards.advances trivial found buffer
      exact ⟨advances.some_bytes bytes done, advances.size_le bytes done⟩
  | buffered orderly =>
      obtain ⟨cursor, found, done⟩ := Pool.exists_open_of_act done nofun
      have advances := Buffered.forwards.advances orderly found buffer
      exact ⟨advances.some_bytes bytes done, advances.size_le bytes done⟩

/-- Reads of a copy into these buffers have given these pieces. -/
def Gave (τ : Type) [Sink τ] (body : Body σ) (index : Nat) (buffers : List Buffer)
    (pieces : List ByteArray) : Prop :=
  (body.run (buffers.map (Use.read index : Buffer → Use σ τ))).1 =
    pieces.map fun piece => .bytes (.done piece)

theorem gave_cons_iff {body : Body σ} {index : Nat} {buffer : Buffer} {buffers : List Buffer}
    {pieces : List ByteArray} :
    body.Gave τ index (buffer :: buffers) pieces ↔
      ∃ bytes rest, pieces = bytes :: rest ∧ (body.read index buffer).reply = .done bytes ∧
        (body.use (.read index buffer : Use σ τ)).2.Gave τ index buffers rest := by
  rw [Gave, List.map_cons, run_cons]
  constructor
  · intro gave
    cases pieces with
    | nil => cases gave
    | cons bytes rest =>
        obtain ⟨first, later⟩ := List.cons.inj gave
        exact ⟨bytes, rest, rfl, Receipt.bytes.inj first, later⟩
  · rintro ⟨bytes, rest, rfl, done, later⟩
    exact List.cons_eq_cons.mpr ⟨congrArg Receipt.bytes done, later⟩

/-- Reads into buffers that are not empty are no more than the bytes they give. -/
theorem Orderly.length_le {body : Body σ} (orderly : body.Orderly) {index : Nat}
    {buffers : List Buffer} (asks : ∀ buffer ∈ buffers, 0 < buffer.size)
    {pieces : List ByteArray} (gave : body.Gave τ index buffers pieces) :
    buffers.length ≤ byteCount pieces := by
  induction buffers generalizing body pieces with
  | nil => exact Nat.zero_le _
  | cons buffer buffers ih =>
      obtain ⟨bytes, rest, rfl, done, later⟩ := gave_cons_iff.mp gave
      have some_bytes := (orderly.size_read done).1 (asks buffer List.mem_cons_self)
      have others := ih (orderly.afterRun [(.read index buffer : Use σ τ)])
        (fun other member => asks other (List.mem_cons_of_mem _ member)) later
      simp only [byteCount_cons, List.length_cons] at others ⊢
      omega

theorem Orderly.scratch_pos {body : Body σ} (orderly : body.Orderly) {index block : Nat}
    (cuts : body.scratch? index = some block) : 0 < block := by
  cases orderly with
  | memory pool => cases cuts
  | direct pool =>
      cases cuts
      exact Payload.scratch_pos (by decide) _
  | buffered orderly =>
      cases cuts
      exact Payload.scratch_pos orderly.blocks _

end Body

/-! ## The last round -/

/-- What the last round comes to, by the reply to its read. -/
inductive Closes (total : Nat) (sink : τ) : Reply ByteArray → Reply Nat × τ → Prop where
  | stopped (error : Error) :
      Closes total sink (.failed error)
        (if error.isEnd then .done total else .failed (error.during .writeTo), sink)
  | broke : Closes total sink .broke (.broke, sink)
  | refused {bytes : ByteArray} {fault : Fault} {next : τ}
      (offer : Sink.takeAll bytes sink = (.failed fault, next)) :
      Closes total sink (.done bytes) (.failed ⟨.writeTo, .fault fault⟩, next)
  | swallowed {bytes : ByteArray} {next : τ}
      (offer : Sink.takeAll bytes sink = (.broke, next)) :
      Closes total sink (.done bytes) (.broke, next)

/-- Reading out was a run of reads into buffers of one size.  All but the last gave bytes, which the
sink took. -/
structure WritesOut {state : Type} (run : List Buffer → List (Receipt τ) × state) (size : Nat)
    (sink : τ) (buffers : List Buffer) (final : Buffer) (pieces : List ByteArray)
    (reply : Reply ByteArray) (out : Effect state Nat × τ) : Prop where
  sized : ∀ buffer ∈ buffers ++ [final], buffer.size = size
  gave : (run buffers).1 = pieces.map fun piece => .bytes (.done piece)
  last : (run (buffers ++ [final])).1 =
    (pieces.map fun piece => .bytes (.done piece)) ++ [.bytes reply]
  closes : ∃ between, Sink.Passed sink pieces between ∧
    Closes (byteCount pieces) between reply (out.1.reply, out.2)
  state : out.1.state = (run (buffers ++ [final])).2

theorem WritesOut.map {state other : Type} {run : List Buffer → List (Receipt τ) × state}
    {size : Nat} {sink : τ} {buffers : List Buffer} {final : Buffer} {pieces : List ByteArray}
    {reply : Reply ByteArray} {out : Effect state Nat × τ}
    (writesOut : WritesOut run size sink buffers final pieces reply out) (lift : state → other)
    {run' : List Buffer → List (Receipt τ) × other}
    (same : ∀ buffers, run' buffers = ((run buffers).1, lift (run buffers).2)) (notes : List Note) :
    WritesOut run' size sink buffers final pieces reply
      (⟨out.1.reply, lift out.1.state, notes⟩, out.2) where
  sized := writesOut.sized
  gave := by rw [same, writesOut.gave]
  last := by rw [same, writesOut.last]
  closes := writesOut.closes
  state := by rw [same, writesOut.state]

/-- How reading out comes out: it ends with a last read, or there are reads that give bytes, one
after the other, as many as one likes. -/
inductive ComesOut {state : Type} (run : List Buffer → List (Receipt τ) × state) (size : Nat)
    (sink : τ) (out : Effect state Nat × τ) : Prop where
  | ends {buffers : List Buffer} {final : Buffer} {pieces : List ByteArray}
      {reply : Reply ByteArray}
      (writesOut : WritesOut run size sink buffers final pieces reply out) :
      ComesOut run size sink out
  | endless
      (longer : ∀ count, ∃ (buffers : List Buffer) (pieces : List ByteArray),
        (∀ buffer ∈ buffers, buffer.size = size) ∧
          (run buffers).1 = pieces.map (fun piece => .bytes (.done piece)) ∧
          count ≤ buffers.length)
      {pieces : List ByteArray} (passed : Sink.Passed sink pieces out.2) :
      ComesOut run size sink out

theorem ComesOut.map {state other : Type} {run : List Buffer → List (Receipt τ) × state}
    {size : Nat} {sink : τ} {out : Effect state Nat × τ} (comesOut : ComesOut run size sink out)
    (lift : state → other) {run' : List Buffer → List (Receipt τ) × other}
    (same : ∀ buffers, run' buffers = ((run buffers).1, lift (run buffers).2)) (notes : List Note) :
    ComesOut run' size sink (⟨out.1.reply, lift out.1.state, notes⟩, out.2) := by
  cases comesOut with
  | ends writesOut => exact .ends (writesOut.map lift same notes)
  | endless longer passed =>
      refine .endless (fun count => ?_) passed
      obtain ⟨buffers, pieces, sized, gave, enough⟩ := longer count
      exact ⟨buffers, pieces, sized, by rw [same, gave], enough⟩

namespace Pool

variable {ρ κ : Type} {engine : Engine σ ρ κ}

omit [Source σ] in
/-- Reading out a copy by the loop is a run of reads of it. -/
theorem comesOut_of_pump {pool : Pool engine} {index : Nat} {cursor : κ}
    (found : pool.cursor? index = some cursor) {buffer : Buffer} {sink : τ}
    (writes : engine.writeTo sink pool.record cursor =
      pump engine.read buffer sink pool.record cursor) :
    ComesOut (fun buffers => pool.run (buffers.map (Use.read index : Buffer → Use σ τ)))
      buffer.size sink (pool.writeTo index sink) := by
  obtain ⟨buffers, pieces, record, current, last, poured, pumped⟩ :=
    exists_poured_of_pump found buffer sink
  rw [← writes] at pumped
  obtain ⟨replied, state, sinks⟩ := writeTo_of_open found sink
  have onward (other : Buffer) (fits : other.size = buffer.size)
      (closes : Closes (byteCount pieces) last (engine.read other record current).reply
        ((engine.writeTo sink pool.record cursor).1.reply,
          (engine.writeTo sink pool.record cursor).2))
      (same : (engine.writeTo sink pool.record cursor).1.record =
        (engine.read other record current).record)
      (stays : (engine.writeTo sink pool.record cursor).1.cursor =
        (engine.read other record current).cursor) :
      ComesOut (fun buffers => pool.run (buffers.map (Use.read index : Buffer → Use σ τ)))
        buffer.size sink (pool.writeTo index sink) := by
    have writesOut : WritesOut
        (fun buffers => pool.run (buffers.map (Use.read index : Buffer → Use σ τ))) buffer.size
        sink buffers other pieces (engine.read other record current).reply
        (pool.writeTo index sink) :=
      { sized := List.forall_mem_append.mpr ⟨poured.sized, List.forall_mem_singleton.mpr fits⟩
        gave := poured.gave
        last := poured.gave_onward found other
        closes := ⟨last, poured.passed, by rwa [replied, sinks]⟩
        state := by
          rw [state, same, stays]
          exact poured.onward found other }
    exact .ends writesOut
  generalize engine.writeTo sink pool.record cursor = out at pumped onward sinks
  cases pumped with
  | endless notes sized never =>
      refine .endless (fun count => ?_) (by rw [sinks]; exact poured.passed)
      obtain ⟨longer, given, _, _, _, further, enough⟩ :=
        poured.exists_longer found sized never count
      exact ⟨longer, given, further.sized, further.gave,
        Nat.le_trans (Nat.le_add_left _ _) enough⟩
  | stopped notes sized failed => exact onward _ sized (by rw [failed]; exact .stopped _) rfl rfl
  | broke notes sized broke => exact onward _ sized (by rw [broke]; exact .broke) rfl rfl
  | refused notes sized done offer =>
      exact onward _ sized (by rw [done]; exact .refused offer) rfl rfl
  | swallowed notes sized done offer =>
      exact onward _ sized (by rw [done]; exact .swallowed offer) rfl rfl

end Pool

namespace Body

/-- The same for a body whose copies are not in memory. -/
theorem comesOut_of_scratch {body : Body σ} {index block : Nat}
    (opened : body.isClosed index = false) (cuts : body.scratch? index = some block)
    (fits : block ≤ maxAllocation) (sink : τ) :
    ComesOut (fun buffers => body.run (buffers.map (Use.read index : Buffer → Use σ τ))) block
      sink (body.writeTo index sink) := by
  cases body with
  | memory pool => cases cuts
  | direct pool =>
      obtain ⟨cursor, found⟩ := Pool.isClosed_eq_false_iff.mp opened
      have block_eq : scratch defaultBlock (pool.remaining index) = block := Option.some.inj cuts
      rw [Pool.remaining_of_open found] at block_eq
      subst block_eq
      have writes : (Direct.engine σ).writeTo sink pool.record cursor =
          pump (Direct.engine σ).read
            (.fresh (scratch defaultBlock (some (cursor.remaining pool.record.length)))) sink
            pool.record cursor := rfl
      exact (Pool.comesOut_of_pump found writes).map Body.direct (fun _ => run_direct _ pool) _
  | buffered pool =>
      obtain ⟨cursor, found⟩ := Pool.isClosed_eq_false_iff.mp opened
      have block_eq : scratch pool.record.blockSize (pool.remaining index) = block :=
        Option.some.inj cuts
      rw [Pool.remaining_of_open found] at block_eq
      subst block_eq
      have writes : (Buffered.engine σ).writeTo sink pool.record cursor =
          pump (Buffered.engine σ).read
            (.fresh (scratch pool.record.blockSize (pool.record.remaining cursor))) sink
            pool.record cursor := if_neg (Nat.not_lt.mpr fits)
      exact (Pool.comesOut_of_pump found writes).map Body.buffered (fun _ => run_buffered _ pool) _

/-- Where no more than so many bytes are to come, reading out ends after no more reads that give
some. -/
theorem Orderly.exists_writesOut {body : Body σ} (orderly : body.Orderly) {index bound : Nat}
    (atMost : ∀ buffers pieces, (∀ buffer ∈ buffers, 0 < buffer.size) →
      body.Gave τ index buffers pieces → byteCount pieces ≤ bound)
    (opened : body.isClosed index = false) {block : Nat}
    (cuts : body.scratch? index = some block) (fits : block ≤ maxAllocation) (sink : τ) :
    ∃ buffers final pieces reply,
      WritesOut (fun buffers => body.run (buffers.map (Use.read index : Buffer → Use σ τ))) block
        sink buffers final pieces reply (body.writeTo index sink) ∧ buffers.length ≤ bound := by
  have some_room : 0 < block := orderly.scratch_pos cuts
  have fewer {buffers : List Buffer} {pieces : List ByteArray}
      (sized : ∀ buffer ∈ buffers, buffer.size = block)
      (gave : body.Gave τ index buffers pieces) : buffers.length ≤ bound := by
    have asks (buffer : Buffer) (member : buffer ∈ buffers) : 0 < buffer.size :=
      (sized buffer member).symm ▸ some_room
    exact Nat.le_trans (orderly.length_le asks gave) (atMost buffers pieces asks gave)
  cases comesOut_of_scratch opened cuts fits sink with
  | ends writesOut =>
      exact ⟨_, _, _, _, writesOut, fewer
        (fun buffer member => writesOut.sized buffer (List.mem_append_left _ member))
        writesOut.gave⟩
  | endless longer =>
      obtain ⟨buffers, pieces, sized, gave, enough⟩ := longer (bound + 1)
      exact absurd (fewer sized gave) (Nat.not_le.mpr enough)

end Body

end Payload
