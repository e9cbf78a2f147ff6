import Payload.Proofs.Lagging
import Payload.Proofs.Memory

/-!
# Bodies that face each other

Two bodies of one kind over two sources face each other when their copies are the same and so are
their records, all but the source.  Every use comes out alike and leaves them so, if every turn of
one copy does; `Engine.Faces` asks that of the turns, but for reading out, which is asked for where
it is used.  Bytes in memory have no source, so they only have to be offered to sinks alike.
-/

namespace Payload

/-- Turns that answer alike and leave the copy at the same place, with records that go together. -/
structure Turn.Alike {ρ ρ' κ α : Type} (R : ρ → ρ' → Prop) (turn : Turn ρ κ α)
    (other : Turn ρ' κ α) : Prop where
  reply : turn.reply = other.reply
  cursor : turn.cursor = other.cursor
  record : R turn.record other.record

/-! ## The same use of both bodies -/

/-- The same use, with the callbacks that the source is lent to and the sinks read out into
exchanged for others. -/
def Use.map {σ φ υ τ : Type} (lend : (σ → Option Unit × σ) → φ → Option Unit × φ) (pour : υ → τ) :
    Use σ υ → Use φ τ
  | read index buffer => read index buffer
  | readAt index buffer offset => readAt index buffer offset
  | seek index offset whence => seek index offset whence
  | writeTo index sink => writeTo index (pour sink)
  | copy index => copy index
  | close index => close index
  | drop index => drop index
  | visit index callback => visit index (lend callback)

/-- The same receipt, with the sink exchanged for another. -/
def Receipt.map {υ τ : Type} (pour : υ → τ) : Receipt υ → Receipt τ
  | bytes reply => bytes reply
  | position reply => position reply
  | written reply sink => written reply (pour sink)
  | plain reply => plain reply
  | lent reply => lent reply

variable {φ σ ρ ρ' κ υ τ α : Type}

/-- Engines whose turns on records that go together come out alike, but for reading out. -/
structure Engine.Faces (R : ρ → ρ' → Prop)
    (together : (φ → Option Unit × φ) → (σ → Option Unit × σ) → Prop) (engine : Engine φ ρ κ)
    (facing : Engine σ ρ' κ) : Prop where
  read : ∀ {record record'}, R record record' → ∀ buffer cursor,
    Turn.Alike R (engine.read buffer record cursor) (facing.read buffer record' cursor)
  readAt : ∀ {record record'}, R record record' → ∀ buffer offset cursor,
    Turn.Alike R (engine.readAt buffer offset record cursor)
      (facing.readAt buffer offset record' cursor)
  seek : ∀ {record record'}, R record record' → ∀ offset whence cursor,
    Turn.Alike R (engine.seek offset whence record cursor)
      (facing.seek offset whence record' cursor)
  copy : ∀ {record record'}, R record record' → ∀ cursor,
    Turn.Alike R (engine.copy record cursor) (facing.copy record' cursor)
  close : ∀ {record record'}, R record record' → ∀ cursor,
    Turn.Alike R (engine.close record cursor) (facing.close record' cursor)
  visit : ∀ {record record'}, R record record' → ∀ {callback callback'},
    together callback callback' → ∀ cursor,
      Turn.Alike R (engine.visit callback record cursor) (facing.visit callback' record' cursor)

/-- Where reads come out alike, so does reading out into two sinks of which one lags behind the
other. -/
theorem Sink.Lagging.pump [Sink υ] [Sink τ] {good : υ → Prop} {fair : τ → Prop}
    {stands : υ → τ → Prop} (sinks : Sink.Lagging good fair stands) {R : ρ → ρ' → Prop}
    {read : Buffer → ρ → κ → Turn ρ κ ByteArray} {read' : Buffer → ρ' → κ → Turn ρ' κ ByteArray}
    (alike : ∀ {record record'}, R record record' → ∀ buffer cursor,
      Turn.Alike R (read buffer record cursor) (read' buffer record' cursor))
    (buffer : Buffer) {sink : υ} {other : τ} (standing : stands sink other) {record : ρ}
    {record' : ρ'} (together : R record record') (cursor : κ) :
    Turn.Alike R (Payload.pump read buffer sink record cursor).1
        (Payload.pump read' buffer other record' cursor).1 ∧
      stands (Payload.pump read buffer sink record cursor).2
        (Payload.pump read' buffer other record' cursor).2 := by
  have inStep : InStep buffer.size read read' (fun record record' _ => R record record') stands :=
    { agree := fun buffer record record' cursor _ together =>
        have turns := alike together buffer cursor
        ⟨turns.reply, turns.cursor, turns.record⟩
      takes := fun bytes _ _ standing => sinks.takeAll bytes standing }
  obtain ⟨reply, place, still, onwards⟩ := inStep.pump buffer rfl standing together
  exact ⟨⟨reply, place, still⟩, onwards⟩

namespace Pool

variable {engine : Engine φ ρ κ} {facing : Engine σ ρ' κ} {R : ρ → ρ' → Prop}
  {together : (φ → Option Unit × φ) → (σ → Option Unit × σ) → Prop} {pool : Pool engine}
  {other : Pool facing} {index : Nat}

/-- The same copies, of records that go together. -/
structure Faces (R : ρ → ρ' → Prop) (pool : Pool engine) (other : Pool facing) : Prop where
  record : R pool.record other.record
  copies : pool.copies = other.copies

namespace Faces

/-- The two copies of one number are both closed, or both open at one place. -/
theorem closed_or_open (faces : Faces R pool other) (index : Nat) :
    (pool.cursor? index = none ∧ other.cursor? index = none) ∨
      ∃ cursor, pool.cursor? index = some cursor ∧ other.cursor? index = some cursor := by
  have same : other.cursor? index = pool.cursor? index := by
    rw [cursor?, cursor?, faces.copies]
  rw [same]
  cases pool.cursor? index with
  | none => exact Or.inl ⟨rfl, rfl⟩
  | some cursor => exact Or.inr ⟨cursor, rfl, rfl⟩

theorem put (faces : Faces R pool other) (index : Nat) {turn : Turn ρ κ α} {turn' : Turn ρ' κ α}
    (alike : Turn.Alike R turn turn') :
    Faces R (pool.put index turn.record turn.cursor)
      (other.put index turn'.record turn'.cursor) where
  record := alike.record
  copies := by
    rw [Pool.put, Pool.put, faces.copies, alike.cursor]

/-- Copies that act come out alike if their turns do. -/
theorem act (faces : Faces R pool other) (index : Nat) (operation : Operation)
    {turn : ρ → κ → Turn ρ κ α} {turn' : ρ' → κ → Turn ρ' κ α}
    (alike : ∀ cursor, Turn.Alike R (turn pool.record cursor) (turn' other.record cursor)) :
    (pool.act index operation turn).reply = (other.act index operation turn').reply ∧
      Faces R (pool.act index operation turn).state (other.act index operation turn').state := by
  rcases faces.closed_or_open index with ⟨found, same⟩ | ⟨cursor, found, same⟩
  · obtain ⟨reply, state⟩ := act_of_closed found operation turn
    obtain ⟨reply', state'⟩ := act_of_closed same operation turn'
    rw [reply, reply', state, state']
    exact ⟨rfl, faces⟩
  · obtain ⟨reply, state⟩ := act_of_open found operation turn
    obtain ⟨reply', state'⟩ := act_of_open same operation turn'
    rw [reply, reply', state, state']
    exact ⟨(alike cursor).reply, faces.put index (alike cursor)⟩

/-- A copy is read out alike if its turn is. -/
theorem writeTo [Sink υ] [Sink τ] (faces : Faces R pool other) {pour : υ → τ} (sink : υ)
    (alike : ∀ cursor, pool.cursor? index = some cursor →
      Turn.Alike R (engine.writeTo sink pool.record cursor).1
          (facing.writeTo (pour sink) other.record cursor).1 ∧
        pour (engine.writeTo sink pool.record cursor).2 =
          (facing.writeTo (pour sink) other.record cursor).2) :
    (pool.writeTo index sink).1.reply = (other.writeTo index (pour sink)).1.reply ∧
      pour (pool.writeTo index sink).2 = (other.writeTo index (pour sink)).2 ∧
      Faces R (pool.writeTo index sink).1.state (other.writeTo index (pour sink)).1.state := by
  rcases faces.closed_or_open index with ⟨found, same⟩ | ⟨cursor, found, same⟩
  · obtain ⟨reply, state, sinks⟩ := writeTo_of_closed found sink
    obtain ⟨reply', state', sinks'⟩ := writeTo_of_closed same (pour sink)
    rw [reply, reply', state, state', sinks, sinks']
    exact ⟨rfl, rfl, faces⟩
  · obtain ⟨turns, poured⟩ := alike cursor found
    obtain ⟨reply, state, sinks⟩ := writeTo_of_open found sink
    obtain ⟨reply', state', sinks'⟩ := writeTo_of_open same (pour sink)
    rw [reply, reply', state, state', sinks, sinks']
    exact ⟨turns.reply, poured, faces.put index turns⟩

/-- Copies are made alike if their turns come out alike. -/
theorem copy (faces : Faces R pool other) (index : Nat)
    (alike : ∀ cursor, Turn.Alike R (engine.copy pool.record cursor)
      (facing.copy other.record cursor)) :
    (pool.copy index).reply = (other.copy index).reply ∧
      Faces R (pool.copy index).state (other.copy index).state := by
  rcases faces.closed_or_open index with ⟨found, same⟩ | ⟨cursor, found, same⟩
  · obtain ⟨reply, state⟩ := copy_of_closed found
    obtain ⟨reply', state'⟩ := copy_of_closed same
    rw [reply, reply', state, state']
    exact ⟨rfl, faces.record, congrArg (· ++ [none]) faces.copies⟩
  · have turns := alike cursor
    have left := faces.put index turns
    by_cases made : ∃ twin, (engine.copy pool.record cursor).reply = .done twin
    · obtain ⟨twin, made⟩ := made
      obtain ⟨reply, state⟩ := copy_of_done found made
      obtain ⟨reply', state'⟩ := copy_of_done same (turns.reply.symm.trans made)
      rw [reply, reply', state, state']
      exact ⟨rfl, turns.record, congrArg (· ++ [some twin]) left.copies⟩
    · have unmade := not_exists.mp made
      obtain ⟨reply, state⟩ := copy_of_unmade found unmade
      obtain ⟨reply', state'⟩ := copy_of_unmade same (turns.reply ▸ unmade)
      rw [reply, reply', state, state', turns.reply]
      exact ⟨rfl, left⟩

/-- Copies are closed alike if their turns come out alike. -/
theorem close (faces : Faces R pool other) (index : Nat)
    (alike : ∀ cursor, Turn.Alike R (engine.close pool.record cursor)
      (facing.close other.record cursor)) :
    (pool.close index).reply = (other.close index).reply ∧
      Faces R (pool.close index).state (other.close index).state := by
  rcases faces.closed_or_open index with ⟨found, same⟩ | ⟨cursor, found, same⟩
  · obtain ⟨reply, state⟩ := close_of_closed found
    obtain ⟨reply', state'⟩ := close_of_closed same
    rw [reply, reply', state, state']
    exact ⟨rfl, faces⟩
  · obtain ⟨reply, state⟩ := close_of_open found
    obtain ⟨reply', state'⟩ := close_of_open same
    rw [reply, reply', state, state']
    exact ⟨(alike cursor).reply, (alike cursor).record,
      congrArg (·.set index none) faces.copies⟩

theorem drop (faces : Faces R pool other) (index : Nat)
    (alike : ∀ cursor, Turn.Alike R (engine.close pool.record cursor)
      (facing.close other.record cursor)) :
    (pool.drop index).reply = (other.drop index).reply ∧
      Faces R (pool.drop index).state (other.drop index).state := by
  obtain ⟨reply, left⟩ := faces.close index alike
  rw [state_drop, state_drop]
  refine ⟨?_, left⟩
  rcases faces.closed_or_open index with ⟨found, same⟩ | ⟨cursor, found, same⟩
  · rw [Pool.drop, Pool.drop, found, same]
  · rw [reply_drop_of_open found, reply_drop_of_open same, reply]

/-- The source is lent alike if the turns come out alike. -/
theorem visit (faces : Faces R pool other) (index : Nat) {callback : φ → Option Unit × φ}
    {callback' : σ → Option Unit × σ}
    (alike : ∀ cursor, Turn.Alike R (engine.visit callback pool.record cursor)
      (facing.visit callback' other.record cursor)) :
    (pool.visit index callback).reply = (other.visit index callback').reply ∧
      Faces R (pool.visit index callback).state (other.visit index callback').state := by
  rcases faces.closed_or_open index with ⟨found, same⟩ | ⟨cursor, found, same⟩
  · obtain ⟨reply, state⟩ := visit_of_closed found callback
    obtain ⟨reply', state'⟩ := visit_of_closed same callback'
    rw [reply, reply', state, state']
    exact ⟨rfl, faces⟩
  · obtain ⟨reply, state⟩ := visit_of_open found callback
    obtain ⟨reply', state'⟩ := visit_of_open same callback'
    rw [reply, reply', state, state']
    exact ⟨(alike cursor).reply, faces.put index (alike cursor)⟩

/-- Every use comes out alike and leaves the pools facing each other. -/
theorem use [Sink υ] [Sink τ] (faces : Faces R pool other)
    (engines : Engine.Faces R together engine facing)
    {lend : (σ → Option Unit × σ) → φ → Option Unit × φ} {pour : υ → τ} {use : Use σ υ}
    (lent : use.Lends fun callback => together (lend callback) callback)
    (writes : ∀ index sink, use = .writeTo index sink → ∀ cursor, pool.cursor? index = some cursor →
      Turn.Alike R (engine.writeTo sink pool.record cursor).1
          (facing.writeTo (pour sink) other.record cursor).1 ∧
        pour (engine.writeTo sink pool.record cursor).2 =
          (facing.writeTo (pour sink) other.record cursor).2) :
    (pool.use (use.map lend id)).1.map pour = (other.use (use.map id pour)).1 ∧
      Faces R (pool.use (use.map lend id)).2 (other.use (use.map id pour)).2 := by
  have record := faces.record
  cases use with
  | read index buffer =>
      obtain ⟨reply, left⟩ := faces.act index .read (engines.read record buffer)
      exact ⟨congrArg Receipt.bytes reply, left⟩
  | readAt index buffer offset =>
      obtain ⟨reply, left⟩ := faces.act index .readAt (engines.readAt record buffer offset)
      exact ⟨congrArg Receipt.bytes reply, left⟩
  | seek index offset whence =>
      obtain ⟨reply, left⟩ := faces.act index .seek (engines.seek record offset whence)
      exact ⟨congrArg Receipt.position reply, left⟩
  | writeTo index sink =>
      obtain ⟨reply, sinks, left⟩ := faces.writeTo sink (writes index sink rfl)
      refine ⟨?_, left⟩
      change Receipt.written (pool.writeTo index sink).1.reply (pour (pool.writeTo index sink).2) =
        Receipt.written (other.writeTo index (pour sink)).1.reply
          (other.writeTo index (pour sink)).2
      rw [reply, sinks]
  | copy index =>
      obtain ⟨reply, left⟩ := faces.copy index (engines.copy record)
      exact ⟨congrArg Receipt.plain reply, left⟩
  | close index =>
      obtain ⟨reply, left⟩ := faces.close index (engines.close record)
      exact ⟨congrArg Receipt.plain reply, left⟩
  | drop index =>
      obtain ⟨reply, left⟩ := faces.drop index (engines.close record)
      exact ⟨congrArg Receipt.plain reply, left⟩
  | visit index callback =>
      obtain ⟨reply, left⟩ := faces.visit index (engines.visit record lent)
      exact ⟨congrArg Receipt.lent reply, left⟩

end Faces

end Pool

/-! ## A source in common custody -/

/-- Two callbacks that come out alike on two such sources and leave them such. -/
def Source.Joined (stands : φ → σ → Prop) (callback : φ → Option Unit × φ)
    (callback' : σ → Option Unit × σ) : Prop :=
  ∀ source other, stands source other → (callback source).1 = (callback' other).1 ∧
    stands (callback source).2 (callback' other).2

namespace Custody

/-- The same custody of another source. -/
def entrust (custody : Custody φ) (source : σ) : Custody σ :=
  { custody with source }

/-- The same custody of two sources, of which one lags behind the other while they are held. -/
inductive Faces (stands : φ → σ → Prop) (custody : Custody φ) : Custody σ → Prop where
  | of {source : σ} (standing : custody.held = true → stands custody.source source) :
      Faces stands custody (custody.entrust source)

variable {stands : φ → σ → Prop} {custody : Custody φ} {other : Custody σ}

theorem faces_returning (custody : Custody φ) (source : σ) (broken : Bool) {last : σ} {next : φ}
    (still : stands next last) :
    Faces stands (custody.returning broken next)
      ((custody.entrust source).returning broken last) := by
  have standing : (custody.returning broken next).held = true →
      stands (custody.returning broken next).source last := fun _ => still
  exact .of standing

theorem Faces.close [Source φ] [Source σ] {good : φ → Prop} {fair : σ → Prop}
    (faces : Faces stands custody other) (lagging : Source.Lagging good fair stands) (note : Note) :
    (custody.close note).1 = (other.close note).1 ∧
      Faces stands (custody.close note).2.1 (other.close note).2.1 := by
  obtain ⟨standing⟩ := faces
  rename_i source
  cases held : custody.held with
  | true =>
      have closed : (custody.entrust source).held = true := held
      rw [Custody.close, Custody.close, if_pos held, if_pos closed]
      refine ⟨?_, .of nofun⟩
      dsimp only
      rw [lagging.close (standing held)]
      rfl
  | false =>
      have released : ¬custody.held = true := by simp [held]
      rw [Custody.close, Custody.close, if_neg released,
        if_neg (show ¬(custody.entrust source).held = true from released)]
      exact ⟨rfl, .of standing⟩

theorem Faces.visit (faces : Faces stands custody other) {callback : φ → Option Unit × φ}
    {callback' : σ → Option Unit × σ} (joined : Source.Joined stands callback callback') :
    (custody.visit callback).1 = (other.visit callback').1 ∧
      Faces stands (custody.visit callback).2 (other.visit callback').2 := by
  obtain ⟨standing⟩ := faces
  rename_i source
  unfold Custody.visit
  split
  · rename_i lent
    rw [if_pos (show ((custody.entrust source).poisoned || !(custody.entrust source).held) = true
      from lent)]
    exact ⟨rfl, .of standing⟩
  · rename_i lent
    rw [if_neg (show ¬((custody.entrust source).poisoned || !(custody.entrust source).held) = true
      from lent)]
    have held : custody.held = true := by
      simp at lent
      exact lent.2
    have together := joined custody.source (custody.entrust source).source (standing held)
    rcases called : callback custody.source with ⟨value, next⟩
    rcases called' : callback' (custody.entrust source).source with ⟨value', last⟩
    rw [called, called'] at together
    obtain ⟨alike, still⟩ := together
    obtain rfl : value = value' := alike
    cases value with
    | none => exact ⟨rfl, faces_returning custody _ true still⟩
    | some value => exact ⟨rfl, faces_returning custody _ false still⟩

end Custody

/-! ## Bytes in memory -/

namespace Memory

/-- Bytes in memory have nothing to do with the source. -/
theorem faces (together : (φ → Option Unit × φ) → (σ → Option Unit × σ) → Prop) :
    Engine.Faces Eq together (engine φ) (engine σ) where
  read := by
    rintro data _ rfl buffer cursor
    exact ⟨rfl, rfl, rfl⟩
  readAt := by
    rintro data _ rfl buffer offset cursor
    exact ⟨rfl, rfl, rfl⟩
  seek := by
    rintro data _ rfl offset whence cursor
    exact ⟨rfl, rfl, rfl⟩
  copy := by
    rintro data _ rfl cursor
    exact ⟨rfl, rfl, rfl⟩
  close := by
    rintro data _ rfl cursor
    exact ⟨rfl, rfl, rfl⟩
  visit := by
    rintro data _ rfl callback callback' - cursor
    exact ⟨rfl, rfl, rfl⟩

theorem spill_of_interrupted [Sink τ] {data : ByteArray} {cursor : Cursor} {sink next : τ}
    {fault : Fault} (left : cursor.offset < data.size)
    (offer : Sink.write data cursor.offset sink = (.failed fault, next))
    (again : fault.interrupts = true) (tries total : Nat) :
    spill data (tries + 1) total sink cursor = spill data tries total next cursor := by
  rw [spill, if_neg (Nat.not_lt_of_gt left), if_neg (Nat.ne_of_gt left), offer]
  exact if_pos again

variable [Sink υ] [Sink τ] {good : υ → Prop} {fair : τ → Prop} {stands : υ → τ → Prop}

/-- The bytes are offered alike. -/
theorem spill_alike (lagging : Sink.Lagging good fair stands) (data : ByteArray)
    {tries tries' : Nat} (total : Nat) {sink : υ} {other : τ} {cursor : Cursor}
    (standing : stands sink other)
    (enough : data.size - cursor.offset + Sink.patience sink < tries)
    (enough' : data.size - cursor.offset + Sink.patience other < tries') :
    Turn.Alike Eq (spill data tries total sink cursor).1
        (spill data tries' total other cursor).1 ∧
      stands (spill data tries total sink cursor).2 (spill data tries' total other cursor).2 := by
  induction tries generalizing tries' total sink other cursor with
  | zero => cases enough
  | succ tries ih =>
      cases tries' with
      | zero => cases enough'
      | succ tries' =>
          rcases Nat.lt_trichotomy data.size cursor.offset with past | stands | whole
          · rw [spill, spill, if_pos past, if_pos past]
            exact ⟨⟨rfl, rfl, rfl⟩, standing⟩
          · have inside : ¬data.size < cursor.offset := Nat.not_lt_of_le (Nat.le_of_eq stands.symm)
            rw [spill, spill, if_neg inside, if_neg inside, if_pos stands, if_pos stands]
            exact ⟨⟨rfl, rfl, rfl⟩, standing⟩
          have inside : ¬data.size < cursor.offset := Nat.not_lt_of_gt whole
          have more : data.size ≠ cursor.offset := Nat.ne_of_gt whole
          have beside := lagging.write data cursor.offset standing
          have fine := lagging.left standing
          have fine' := lagging.right standing
          rcases offer : Sink.write data cursor.offset sink with ⟨answer, next⟩
          rcases facing : Sink.write data cursor.offset other with ⟨answer', last⟩
          rw [offer, facing] at beside
          cases beside with
          | behind again still =>
              have fewer := lagging.patient.interrupted fine offer again
              rw [spill_of_interrupted whole offer again]
              exact ih total still (by omega) enough'
          | level still =>
              rw [spill, spill, if_neg inside, if_neg inside, if_neg more, if_neg more, offer,
                facing]
              cases answer with
              | failed fault =>
                  dsimp only
                  split
                  · rename_i again
                    have fewer := lagging.patient.interrupted fine offer again
                    have fewer' := lagging.patient'.interrupted fine' facing again
                    exact ih total still (by omega) (by omega)
                  · exact ⟨⟨rfl, rfl, rfl⟩, still⟩
              | broke => exact ⟨⟨rfl, rfl, rfl⟩, still⟩
              | done taken =>
                  have no_more := lagging.patient.taken fine offer
                  have no_more' := lagging.patient'.taken fine' facing
                  cases taken with
                  | zero => exact ⟨⟨rfl, rfl, rfl⟩, still⟩
                  | succ taken =>
                      by_cases full : max data.size maxOffset < cursor.offset + (taken + 1)
                      · simp only [full, if_true]
                        exact ⟨⟨rfl, rfl, rfl⟩, still⟩
                      · simp only [full, if_false]
                        exact ih (total + (taken + 1)) still (by dsimp only; omega)
                          (by dsimp only; omega)

/-- A copy in memory is read out alike. -/
theorem writeTo_alike (lagging : Sink.Lagging good fair stands) {sink : υ} {other : τ}
    (standing : stands sink other) (data : ByteArray) (cursor : Cursor) :
    Turn.Alike Eq (writeTo sink data cursor).1 (writeTo other data cursor).1 ∧
      stands (writeTo sink data cursor).2 (writeTo other data cursor).2 := by
  unfold writeTo
  split
  · exact ⟨⟨rfl, rfl, rfl⟩, standing⟩
  · exact spill_alike lagging data 0 standing (by omega) (by omega)

end Memory

end Payload
