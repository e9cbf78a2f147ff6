import Mathlib.Data.List.Forall2
import Payload.Proofs.Direct.Uses
import Payload.Proofs.Memory
import Payload.Proofs.Pairing
import Payload.Proofs.Scripted

/-!
# Reading at positions and moving first come to the same

Two sources give the same bytes, or fail alike, wherever they are read, the one at a position and
the other once it was moved there.  Where the second one stands makes no difference, for it is moved
before each read: whatever an earlier read, a failure or a callback left it at.  So two bodies over
them answer alike and leave their copies at the same places.
-/

namespace Payload

/-! ## Sources that go by one rule -/

/-- A rule for what a read of so many bytes at a position gives, by which it gives bytes or fails
without asking for the same again. -/
def Source.Steady (rule : (want position : Nat) → Reading want) : Prop :=
  ∀ want position, (∃ content fits, rule want position = .done (.bytes content fits)) ∨
    ∃ fault, rule want position = .failed fault ∧ fault.interrupts = false

/-- Two sources that go by the rule, the one read at positions and the other moved there and then
read, and that stay so whatever is read and come to the same when they are closed. -/
structure Source.Matched {σ σ' : Type} [Source σ] [Source σ']
    (rule : (want position : Nat) → Reading want) (matched : σ → σ' → Prop) : Prop where
  addressable : ∀ {source other}, matched source other → Source.addressable source = true
  seekable : ∀ {source other}, matched source other → Source.seekable other = true
  read : ∀ {source other} want {position}, matched source other → position ≤ maxOffset →
    (Source.readAt want position source).1 = rule want position ∧
      ∃ stands next, Source.seek (.start position) other = (.done stands, next) ∧
        (Source.read want next).1 = rule want position ∧
        matched (Source.readAt want position source).2 (Source.read want next).2
  close : ∀ {source other}, matched source other →
    (Source.close source).1 = (Source.close other).1

/-- Two callbacks that come back and leave two such sources such. -/
def Source.Together {σ σ' : Type} (matched : σ → σ' → Prop) (callback : σ → Option Unit × σ)
    (callback' : σ' → Option Unit × σ') : Prop :=
  ∀ source other, matched source other → (callback source).1 = some () ∧
    (callback' other).1 = some () ∧ matched (callback source).2 (callback' other).2

/-- The same use of two bodies, but for the callbacks that their sources are lent to. -/
inductive Use.Alike {σ σ' τ : Type}
    (lends : (σ → Option Unit × σ) → (σ' → Option Unit × σ') → Prop) :
    Use σ τ → Use σ' τ → Prop where
  | read (index : Nat) (buffer : Buffer) : Alike lends (.read index buffer) (.read index buffer)
  | readAt (index : Nat) (buffer : Buffer) (offset : Nat) :
      Alike lends (.readAt index buffer offset) (.readAt index buffer offset)
  | seek (index : Nat) (offset whence : Int) :
      Alike lends (.seek index offset whence) (.seek index offset whence)
  | writeTo (index : Nat) (sink : τ) : Alike lends (.writeTo index sink) (.writeTo index sink)
  | copy (index : Nat) : Alike lends (.copy index) (.copy index)
  | close (index : Nat) : Alike lends (.close index) (.close index)
  | drop (index : Nat) : Alike lends (.drop index) (.drop index)
  | visit (index : Nat) {callback : σ → Option Unit × σ} {callback' : σ' → Option Unit × σ'}
      (lent : lends callback callback') :
      Alike lends (.visit index callback) (.visit index callback')

namespace Direct

variable {σ σ' τ : Type} [Source σ] [Source σ'] [Sink τ]
  {rule : (want position : Nat) → Reading want} {matched : σ → σ' → Prop} {direct : Direct σ}
  {other : Direct σ'}

/-! ## Records -/

/-- Records of the same body over two such sources, neither of them poisoned. -/
structure Agrees (matched : σ → σ' → Prop) (direct : Direct σ) (other : Direct σ') : Prop where
  addressed : direct.access = .addressed
  seeking : other.access = .seeking
  base : direct.base = other.base
  length : direct.length = other.length
  sharers : direct.sharers = other.sharers
  sound : direct.custody.poisoned = false ∧ other.custody.poisoned = false
  held : direct.custody.held = other.custody.held
  source : other.custody.held = true → matched direct.custody.source other.custody.source

/-- Asked at a position, both sources answer by the rule. -/
theorem Agrees.ask (agrees : Agrees matched direct other) (pair : Source.Matched rule matched)
    (steady : Source.Steady rule) (operation : Operation) (want : Nat) {position : Nat}
    (addressable : position ≤ maxOffset) :
    (direct.ask operation want position).1 = (other.ask operation want position).1 ∧
      ((direct.ask operation want position).1 = .done (rule want position) ∨
        ∃ error, (direct.ask operation want position).1 = .failed error) ∧
      Agrees matched (direct.ask operation want position).2 (other.ask operation want position).2 :=
  by
  obtain ⟨addressed, seeking, base, length, sharers, ⟨sound, sound'⟩, held, source⟩ := agrees
  cases kept : other.custody.held with
  | false =>
      have released : direct.custody.held = false := held.trans kept
      simp only [Direct.ask, sound, sound', kept, released]
      exact ⟨rfl, Or.inr ⟨_, rfl⟩, addressed, seeking, base, length, sharers, ⟨sound, sound'⟩, held,
        source⟩
  | true =>
      have kept' : direct.custody.held = true := held.trans kept
      have matching := source kept
      obtain ⟨gives, stands, next, sought, gives', still⟩ := pair.read want matching addressable
      have back : (rule want position).brokeOff = false := by
        rcases steady want position with ⟨content, fits, given⟩ | ⟨fault, fails, -⟩
        · rw [given]
          rfl
        · rw [fails]
          rfl
      have here : direct.ask operation want position = (.done (rule want position),
          direct.returning false (Source.readAt want position direct.custody.source).2) := by
        simp only [Direct.ask, sound, kept', addressed, pair.addressable matching, gives]
        rfl
      have there : other.ask operation want position = (.done (rule want position),
          other.returning false (Source.read want next).2) := by
        simp only [Direct.ask, sound', kept, seeking, pair.seekable matching, seekRead, sought,
          gives', back]
        rfl
      rw [here, there]
      exact ⟨rfl, Or.inl rfl, addressed, seeking, base, length, sharers,
        ⟨Bool.or_eq_false_iff.mpr ⟨sound, rfl⟩, Bool.or_eq_false_iff.mpr ⟨sound', rfl⟩⟩, held,
        fun _ => still⟩

/-- What is fetched is the same, whatever the patience of either source. -/
theorem Agrees.fetch (agrees : Agrees matched direct other) (pair : Source.Matched rule matched)
    (steady : Source.Steady rule) (operation : Operation) (buffer : Buffer) (want offset : Nat) :
    (direct.fetch operation buffer want offset).1 = (other.fetch operation buffer want offset).1 ∧
      Agrees matched (direct.fetch operation buffer want offset).2
        (other.fetch operation buffer want offset).2 := by
  unfold Direct.fetch
  rw [agrees.base]
  dsimp only
  split
  · exact ⟨rfl, agrees⟩
  · rename_i addressable
    obtain ⟨alike, answer, still⟩ := agrees.ask pair steady operation want
      (Nat.le_of_not_lt addressable)
    unfold askSteady
    generalize direct.ask operation want (other.base + offset) = here at alike answer still ⊢
    generalize other.ask operation want (other.base + offset) = there at alike still ⊢
    obtain ⟨reply, next⟩ := here
    obtain ⟨reply', next'⟩ := there
    obtain rfl : reply = reply' := alike
    rcases answer with rfl | ⟨error, rfl⟩
    · rcases steady want (other.base + offset) with ⟨content, fits, given⟩ | ⟨fault, fails, final⟩
      · rw [given]
        exact ⟨rfl, still⟩
      · rw [fails]
        dsimp only
        rw [if_neg (by simp [final]), if_neg (by simp [final])]
        exact ⟨rfl, still⟩
    · exact ⟨rfl, still⟩

/-! ## Reads -/

section

variable {R : Direct σ → Direct σ' → Prop}

/-- Where the same is fetched the same is read. -/
theorem read_alike_of_fetch (length : direct.length = other.length) (before : R direct other)
    {buffer : Buffer} {cursor : Cursor}
    (fetched :
      let want := min buffer.size (other.length - cursor.offset)
      (direct.fetch .read buffer want cursor.offset).1 =
          (other.fetch .read buffer want cursor.offset).1 ∧
        R (direct.fetch .read buffer want cursor.offset).2
          (other.fetch .read buffer want cursor.offset).2) :
    (direct.read buffer cursor).reply = (other.read buffer cursor).reply ∧
      (direct.read buffer cursor).cursor = (other.read buffer cursor).cursor ∧
      R (direct.read buffer cursor).record (other.read buffer cursor).record := by
  obtain ⟨alike, still⟩ := fetched
  unfold Direct.read
  rw [length]
  split
  · exact ⟨rfl, rfl, before⟩
  · split
    · exact ⟨rfl, rfl, before⟩
    · split
      · exact ⟨rfl, rfl, before⟩
      · dsimp only
        generalize direct.fetch _ _ _ _ = here at alike still ⊢
        generalize other.fetch _ _ _ _ = there at alike still ⊢
        obtain ⟨reply, next⟩ := here
        obtain ⟨reply', next'⟩ := there
        obtain rfl : reply = reply' := alike
        cases reply with
        | done bytes =>
            dsimp only
            split
            · exact ⟨rfl, rfl, still⟩
            · exact ⟨rfl, rfl, still⟩
        | failed error => exact ⟨rfl, rfl, still⟩
        | broke => exact ⟨rfl, rfl, still⟩

theorem readAt_alike_of_fetch (length : direct.length = other.length) (before : R direct other)
    {buffer : Buffer} {offset : Nat} {cursor : Cursor}
    (fetched :
      let want := min buffer.size (other.length - offset)
      (direct.fetch .readAt buffer want offset).1 = (other.fetch .readAt buffer want offset).1 ∧
        R (direct.fetch .readAt buffer want offset).2
          (other.fetch .readAt buffer want offset).2) :
    (direct.readAt buffer offset cursor).reply = (other.readAt buffer offset cursor).reply ∧
      (direct.readAt buffer offset cursor).cursor = (other.readAt buffer offset cursor).cursor ∧
      R (direct.readAt buffer offset cursor).record
        (other.readAt buffer offset cursor).record := by
  obtain ⟨alike, still⟩ := fetched
  unfold Direct.readAt
  rw [length]
  split
  · exact ⟨rfl, rfl, before⟩
  · split
    · exact ⟨rfl, rfl, before⟩
    · generalize direct.fetch _ _ _ _ = here at alike still ⊢
      generalize other.fetch _ _ _ _ = there at alike still ⊢
      obtain ⟨reply, next⟩ := here
      obtain ⟨reply', next'⟩ := there
      obtain rfl : reply = reply' := alike
      cases reply with
      | done bytes =>
          dsimp only
          split
          · exact ⟨rfl, rfl, still⟩
          · exact ⟨rfl, rfl, still⟩
      | failed error => exact ⟨rfl, rfl, still⟩
      | broke => exact ⟨rfl, rfl, still⟩

end

theorem Agrees.read (agrees : Agrees matched direct other) (pair : Source.Matched rule matched)
    (steady : Source.Steady rule) (buffer : Buffer) (cursor : Cursor) :
    (direct.read buffer cursor).reply = (other.read buffer cursor).reply ∧
      (direct.read buffer cursor).cursor = (other.read buffer cursor).cursor ∧
      Agrees matched (direct.read buffer cursor).record (other.read buffer cursor).record :=
  read_alike_of_fetch agrees.length agrees (agrees.fetch pair steady .read buffer _ _)

theorem Agrees.readAt (agrees : Agrees matched direct other) (pair : Source.Matched rule matched)
    (steady : Source.Steady rule) (buffer : Buffer) (offset : Nat) (cursor : Cursor) :
    (direct.readAt buffer offset cursor).reply = (other.readAt buffer offset cursor).reply ∧
      (direct.readAt buffer offset cursor).cursor = (other.readAt buffer offset cursor).cursor ∧
      Agrees matched (direct.readAt buffer offset cursor).record
        (other.readAt buffer offset cursor).record :=
  readAt_alike_of_fetch agrees.length agrees (agrees.fetch pair steady .readAt buffer _ _)

theorem Agrees.writeTo (agrees : Agrees matched direct other) (pair : Source.Matched rule matched)
    (steady : Source.Steady rule) (sink : τ) (cursor : Cursor) :
    (writeTo sink direct cursor).1.reply = (writeTo sink other cursor).1.reply ∧
      (writeTo sink direct cursor).1.cursor = (writeTo sink other cursor).1.cursor ∧
      Agrees matched (writeTo sink direct cursor).1.record (writeTo sink other cursor).1.record ∧
      (writeTo sink direct cursor).2 = (writeTo sink other cursor).2 := by
  unfold Direct.writeTo
  rw [agrees.length]
  exact pump_agree (R := Agrees matched)
    (fun buffer direct other cursor _ agrees => agrees.read pair steady buffer cursor) _ sink rfl
    agrees

/-! ## Copies -/

/-- The bodies agree, and their copies stand at the same places. -/
structure Level (matched : σ → σ' → Prop) (pool : Pool (engine σ)) (facing : Pool (engine σ')) :
    Prop where
  agrees : Agrees matched pool.record facing.record
  paired : Pool.Paired Eq pool facing

namespace Level

variable {pool : Pool (engine σ)} {facing : Pool (engine σ')} {index : Nat}

/-- What copies of one number do comes out alike, if it does from the same place. -/
theorem act (level : Level matched pool facing) {α : Type} {operation : Operation}
    {turn : Direct σ → Cursor → Turn (Direct σ) Cursor α}
    {turn' : Direct σ' → Cursor → Turn (Direct σ') Cursor α}
    (alike : ∀ cursor, (turn pool.record cursor).reply = (turn' facing.record cursor).reply ∧
      (turn pool.record cursor).cursor = (turn' facing.record cursor).cursor ∧
      Agrees matched (turn pool.record cursor).record (turn' facing.record cursor).record) :
    (pool.act index operation turn).reply = (facing.act index operation turn').reply ∧
      Level matched (pool.act index operation turn).state
        (facing.act index operation turn').state := by
  refine ⟨level.paired.reply_act ?_, ?_, level.paired.act ?_⟩
  · rintro cursor _ - - rfl
    exact (alike cursor).1
  · rcases level.paired.closed_or_open index with
      ⟨missing, absent⟩ | ⟨cursor, _, found, there, rfl⟩
    · rw [(Pool.act_of_closed missing _ _).2, (Pool.act_of_closed absent _ _).2]
      exact level.agrees
    · rw [(Pool.act_of_open found _ _).2, (Pool.act_of_open there _ _).2]
      exact (alike cursor).2.2
  · rintro cursor _ - - rfl
    exact (alike cursor).2.1

theorem writeTo (level : Level matched pool facing) (pair : Source.Matched rule matched)
    (steady : Source.Steady rule) (index : Nat) (sink : τ) :
    (pool.writeTo index sink).1.reply = (facing.writeTo index sink).1.reply ∧
      (pool.writeTo index sink).2 = (facing.writeTo index sink).2 ∧
      Level matched (pool.writeTo index sink).1.state (facing.writeTo index sink).1.state := by
  rcases level.paired.closed_or_open index with ⟨missing, absent⟩ | ⟨cursor, _, found, there, rfl⟩
  · obtain ⟨reply, state, sinks⟩ := Pool.writeTo_of_closed missing sink
    obtain ⟨reply', state', sinks'⟩ := Pool.writeTo_of_closed absent sink
    rw [reply, reply', state, state', sinks, sinks']
    exact ⟨rfl, rfl, level⟩
  · obtain ⟨reply, place, still, kept⟩ := level.agrees.writeTo pair steady sink cursor
    obtain ⟨replied, state, sinks⟩ := Pool.writeTo_of_open found sink
    obtain ⟨replied', state', sinks'⟩ := Pool.writeTo_of_open there sink
    rw [replied, replied', state, state', sinks, sinks']
    exact ⟨reply, kept, still, level.paired.put found there _ _ place⟩

theorem copy (level : Level matched pool facing) (index : Nat) :
    (pool.copy index).reply = (facing.copy index).reply ∧
      Level matched (pool.copy index).state (facing.copy index).state := by
  have copied : (pool.copy index).reply = (facing.copy index).reply ∧
      Pool.Paired Eq (pool.copy index).state (facing.copy index).state :=
    level.paired.copy (fun {_} _ => ⟨rfl, rfl⟩) (fun {_} _ => ⟨rfl, rfl⟩)
  refine ⟨copied.1, ?_, copied.2⟩
  rcases level.paired.closed_or_open index with ⟨missing, absent⟩ | ⟨cursor, _, found, there, rfl⟩
  · rw [(Pool.copy_of_closed missing).2, (Pool.copy_of_closed absent).2]
    exact level.agrees
  · rw [state_copy_of_open found, state_copy_of_open there]
    obtain ⟨addressed, seeking, base, length, sharers, sound, held, source⟩ := level.agrees
    exact ⟨addressed, seeking, base, length, congrArg (· + 1) sharers, sound, held, source⟩

/-- The last copies that leave close their sources, which comes to the same. -/
theorem close (level : Level matched pool facing) (pair : Source.Matched rule matched)
    (index : Nat) :
    (pool.close index).reply = (facing.close index).reply ∧
      Level matched (pool.close index).state (facing.close index).state := by
  obtain ⟨addressed, seeking, base, length, sharers, sound, held, source⟩ := level.agrees
  have closes (cursor place : Cursor) :
      (pool.record.close cursor).reply = (facing.record.close place).reply ∧
        Agrees matched (pool.record.close cursor).record (facing.record.close place).record := by
    unfold Direct.close
    rw [sharers]
    dsimp only
    split
    · exact ⟨rfl, addressed, seeking, base, length, rfl, sound, held, source⟩
    · unfold Custody.close
      dsimp only
      rw [held]
      split
      · rename_i kept
        refine ⟨?_, addressed, seeking, base, length, rfl, sound, rfl, nofun⟩
        rw [pair.close (source kept)]
      · exact ⟨rfl, addressed, seeking, base, length, rfl, sound, held, source⟩
  refine ⟨level.paired.reply_close ?_, ?_, level.paired.close index⟩
  · intro cursor place found there
    exact (closes cursor place).1
  · rcases level.paired.closed_or_open index with
      ⟨missing, absent⟩ | ⟨cursor, place, found, there, -⟩
    · rw [(Pool.close_of_closed missing).2, (Pool.close_of_closed absent).2]
      exact level.agrees
    · rw [(Pool.close_of_open found).2, (Pool.close_of_open there).2]
      exact (closes cursor place).2

/-- Callbacks that leave both sources such are called alike. -/
theorem visit (level : Level matched pool facing) {callback : σ → Option Unit × σ}
    {callback' : σ' → Option Unit × σ'} (together : Source.Together matched callback callback')
    (index : Nat) :
    (pool.visit index callback).reply = (facing.visit index callback').reply ∧
      Level matched (pool.visit index callback).state (facing.visit index callback').state := by
  rcases level.paired.closed_or_open index with ⟨missing, absent⟩ | ⟨cursor, _, found, there, rfl⟩
  · rw [(Pool.visit_of_closed missing _).1, (Pool.visit_of_closed absent _).1,
      (Pool.visit_of_closed missing _).2, (Pool.visit_of_closed absent _).2]
    exact ⟨rfl, level⟩
  · have still := level.paired.put found there
    rw [(Pool.visit_of_open found _).1, (Pool.visit_of_open there _).1,
      (Pool.visit_of_open found _).2, (Pool.visit_of_open there _).2]
    obtain ⟨addressed, seeking, base, length, sharers, ⟨sound, sound'⟩, held, source⟩ :=
      level.agrees
    have called : (pool.record.custody.visit callback).1 =
          (facing.record.custody.visit callback').1 ∧
        Agrees matched { pool.record with custody := (pool.record.custody.visit callback).2 }
          { facing.record with custody := (facing.record.custody.visit callback').2 } := by
      unfold Custody.visit
      rw [sound, sound', held]
      cases kept : facing.record.custody.held with
      | false =>
          exact ⟨rfl, addressed, seeking, base, length, sharers, ⟨sound, sound'⟩, held, source⟩
      | true =>
          obtain ⟨back, back', onwards⟩ := together _ _ (source kept)
          rcases came : callback pool.record.custody.source with ⟨value, next⟩
          rcases came' : callback' facing.record.custody.source with ⟨value', next'⟩
          rw [came] at back onwards
          rw [came'] at back' onwards
          subst back back'
          exact ⟨rfl, addressed, seeking, base, length, sharers,
            ⟨Bool.or_eq_false_iff.mpr ⟨sound, rfl⟩, Bool.or_eq_false_iff.mpr ⟨sound', rfl⟩⟩, held,
            fun _ => onwards⟩
    exact ⟨called.1, called.2, still _ _ rfl⟩

/-- Every use comes out alike. -/
theorem use (level : Level matched pool facing) (pair : Source.Matched rule matched)
    (steady : Source.Steady rule) {use : Use σ τ} {use' : Use σ' τ}
    (alike : Use.Alike (Source.Together matched) use use') :
    (pool.use use).1 = (facing.use use').1 ∧
      Level matched (pool.use use).2 (facing.use use').2 := by
  cases alike with
  | read index buffer =>
      have acted : (pool.read index buffer).reply = (facing.read index buffer).reply ∧
          Level matched (pool.read index buffer).state (facing.read index buffer).state :=
        level.act fun cursor => level.agrees.read pair steady buffer cursor
      exact ⟨congrArg Receipt.bytes acted.1, acted.2⟩
  | readAt index buffer offset =>
      have acted : (pool.readAt index buffer offset).reply =
            (facing.readAt index buffer offset).reply ∧
          Level matched (pool.readAt index buffer offset).state
            (facing.readAt index buffer offset).state :=
        level.act fun cursor => level.agrees.readAt pair steady buffer offset cursor
      exact ⟨congrArg Receipt.bytes acted.1, acted.2⟩
  | seek index offset whence =>
      have acted : (pool.seek index offset whence).reply =
            (facing.seek index offset whence).reply ∧
          Level matched (pool.seek index offset whence).state
            (facing.seek index offset whence).state := by
        apply level.act
        intro cursor
        change (cursor.seek pool.record.length offset whence pool.record).reply =
            (cursor.seek facing.record.length offset whence facing.record).reply ∧
          (cursor.seek pool.record.length offset whence pool.record).cursor =
            (cursor.seek facing.record.length offset whence facing.record).cursor ∧
          Agrees matched (cursor.seek pool.record.length offset whence pool.record).record
            (cursor.seek facing.record.length offset whence facing.record).record
        rw [record_seek, record_seek, level.agrees.length]
        have sought :=
          cursor.seek_alike facing.record.length offset whence pool.record facing.record
        exact ⟨sought.1, sought.2, level.agrees⟩
      exact ⟨congrArg Receipt.position acted.1, acted.2⟩
  | writeTo index sink =>
      obtain ⟨reply, sinks, still⟩ := level.writeTo pair steady index sink
      refine ⟨?_, still⟩
      change Receipt.written (pool.writeTo index sink).1.reply (pool.writeTo index sink).2 =
        Receipt.written (facing.writeTo index sink).1.reply (facing.writeTo index sink).2
      rw [reply, sinks]
  | copy index =>
      obtain ⟨reply, still⟩ := level.copy index
      exact ⟨congrArg Receipt.plain reply, still⟩
  | close index =>
      obtain ⟨reply, still⟩ := level.close pair index
      exact ⟨congrArg Receipt.plain reply, still⟩
  | drop index =>
      obtain ⟨reply, still⟩ := level.close pair index
      refine ⟨congrArg Receipt.plain (level.paired.reply_drop reply), ?_⟩
      change Level matched (pool.drop index).state (facing.drop index).state
      rw [Pool.state_drop, Pool.state_drop]
      exact still
  | visit index lent =>
      obtain ⟨reply, still⟩ := level.visit lent index
      exact ⟨congrArg Receipt.lent reply, still⟩

theorem run (level : Level matched pool facing) (pair : Source.Matched rule matched)
    (steady : Source.Steady rule) {uses : List (Use σ τ)} {uses' : List (Use σ' τ)}
    (alike : List.Forall₂ (Use.Alike (Source.Together matched)) uses uses') :
    (pool.run uses).1 = (facing.run uses').1 ∧
      Level matched (pool.afterRun uses) (facing.afterRun uses') := by
  induction alike generalizing pool facing with
  | nil => exact ⟨rfl, level⟩
  | cons first rest ih =>
      obtain ⟨receipt, still⟩ := level.use pair steady first
      obtain ⟨receipts, last⟩ := ih still
      refine ⟨?_, last⟩
      rw [Pool.run_cons, Pool.run_cons, receipt, receipts]

end Level

/-- Whatever is asked, in the same order, of the copies of two bodies of the same base and length,
the one over a source that is read at positions and the other over one that is moved and then read,
and whatever callbacks do to them but to stop going by the rule: both give the same replies and
leave the same in the sinks, and every copy is at the same place, has as much left and has come to
its end alike. -/
theorem run_fresh_agree (pair : Source.Matched rule matched) (steady : Source.Steady rule)
    {source : σ} {source' : σ'} (begun : matched source source') (base length : Nat)
    {uses : List (Use σ τ)} {uses' : List (Use σ' τ)}
    (alike : List.Forall₂ (Use.Alike (Source.Together matched)) uses uses') :
    let pool := fresh source .addressed base length
    let facing := fresh source' .seeking base length
    (pool.run uses).1 = (facing.run uses').1 ∧
      (pool.afterRun uses).copies.length = (facing.afterRun uses').copies.length ∧
      ∀ index, (pool.afterRun uses).cursor? index = (facing.afterRun uses').cursor? index ∧
        (pool.afterRun uses).remaining index = (facing.afterRun uses').remaining index ∧
        (pool.afterRun uses).ended index = (facing.afterRun uses').ended index := by
  intro pool facing
  have level : Level matched pool facing :=
    { agrees := ⟨rfl, rfl, rfl, rfl, rfl, ⟨rfl, rfl⟩, rfl, fun _ => begun⟩
      paired := ⟨rfl, fun index => by
        cases index with
        | zero => exact .some rfl
        | succ index => exact .none⟩ }
  obtain ⟨receipts, last⟩ := level.run pair steady alike
  refine ⟨receipts, last.paired.length, fun index => ⟨?_, ?_, ?_⟩⟩
  · rcases last.paired.closed_or_open index with ⟨missing, absent⟩ | ⟨cursor, _, found, there, rfl⟩
    · rw [missing, absent]
    · rw [found, there]
  · apply last.paired.remaining_eq
    rintro cursor _ - rfl
    change some (cursor.remaining (pool.afterRun uses).record.length) =
      some (cursor.remaining (facing.afterRun uses').record.length)
    rw [last.agrees.length]
  · apply last.paired.ended_eq
    rintro cursor _ rfl
    rfl

end Direct

/-! ## Devices that go by one plan -/

namespace Device

/-- A device without a script that has the content and the limits of the plan. -/
structure Regular (plan device : Device) : Prop where
  content : device.content = plan.content
  chunk : device.chunk = plan.chunk
  failAt : device.failAt = plan.failAt
  fault : device.fault = plan.fault
  reads : device.reads = []
  seeks : device.seeks = []

/-- Two such devices, wherever they stand, that are closed alike. -/
structure Twins (plan device other : Device) : Prop where
  regular : Regular plan device
  regular' : Regular plan other
  addressable : device.addressable = true
  seekable : other.seekable = true
  closing : device.closing = other.closing

theorem Regular.readCued {plan device : Device} (regular : Regular plan device)
    (want position : Nat) :
    device.readCued want position device.reads.head? = plan.supplyAt want position none := by
  rw [regular.reads]
  change device.supplyAt want position none = _
  unfold supplyAt
  rw [regular.content, regular.chunk, regular.failAt, regular.fault]

theorem Regular.read {plan device : Device} (regular : Regular plan device) (want : Nat) :
    Regular plan (Source.read want device).2 :=
  ⟨regular.content, regular.chunk, regular.failAt, regular.fault,
    congrArg List.tail regular.reads, regular.seeks⟩

theorem steady_supplyAt {plan : Device} (final : plan.fault.interrupts = false) :
    Source.Steady fun want position => plan.supplyAt want position none := by
  intro want position
  have yields (count : Nat) (fits : count ≤ want) : ∃ content fits,
      Source.yields want (stretch plan.content position count) = .done (.bytes content fits) :=
    ⟨_, _, dif_pos (Nat.le_trans (size_stretch_le _ _ _) fits)⟩
  dsimp only
  unfold supplyAt
  cases plan.failAt with
  | none => exact Or.inl (yields _ (Nat.min_le_left _ _))
  | some failAt =>
      dsimp only
      split
      · exact Or.inr ⟨_, rfl, final⟩
      · exact Or.inl (yields _ (Nat.min_le_left _ _))

theorem matched_twins (plan : Device) :
    Source.Matched (fun want position => plan.supplyAt want position none) (Twins plan) where
  addressable twins := twins.addressable
  seekable twins := twins.seekable
  read {device other} want position twins reachable := by
    have regular := twins.regular
    have there : (Origin.start position).aim? other.position other.content.size = some position :=
      Origin.aim?_eq_some_iff.mpr ⟨rfl, reachable⟩
    have sought : Source.seek (.start position) other =
        (.done position, { other with position, seeks := other.seeks.tail }) := by
      change other.seek (.start position) = _
      simp only [Device.seek, twins.regular'.seeks, there]
      rfl
    have moved : Regular plan { other with position, seeks := other.seeks.tail } :=
      ⟨twins.regular'.content, twins.regular'.chunk, twins.regular'.failAt, twins.regular'.fault,
        twins.regular'.reads, congrArg List.tail twins.regular'.seeks⟩
    refine ⟨regular.readCued want position, position, _, sought, moved.readCued want position,
      ⟨?_, moved.read want, twins.addressable, twins.seekable, twins.closing⟩⟩
    exact ⟨regular.content, regular.chunk, regular.failAt, regular.fault,
      congrArg List.tail regular.reads, regular.seeks⟩
  close {device other} twins := by
    change device.closeAnswer = other.closeAnswer
    unfold closeAnswer
    rw [twins.closing]

end Device

namespace Direct

/-- Six bytes, of which one read gives two at most, and which fail from the fifth on: the device
that is moved stands elsewhere, and is read from and moved by callbacks as well. -/
theorem run_fresh_agree_of_disturbed :
    let plan : Device :=
      { content := ⟨#[1, 2, 3, 4, 5, 6]⟩
        chunk := some 2
        failAt := some 4 }
    let device : Device := { plan with addressable := true }
    let other : Device := { plan with seekable := true, position := 5 }
    let gauge : Gauge := { script := [.atMost 1] }
    let advance : Device → Option Unit × Device := fun device => (some (), (Source.read 3 device).2)
    let asked (visit : Use Device Gauge) : List (Use Device Gauge) :=
      [.read 0 (.fresh 3), .copy 0, visit, .readAt 1 (.fresh 4) 2, .seek 1 (-1) 1, .writeTo 1 gauge,
        .close 1, .read 0 (.fresh 1), .read 0 (.fresh 2), .drop 0]
    let pool := (fresh device .addressed 1 5).run (asked (.visit 1 fun device => (some (), device)))
    let facing := (fresh other .seeking 1 5).run (asked (.visit 1 advance))
    Source.Steady (fun want position => plan.supplyAt want position none) ∧
      Device.Twins plan device other ∧ pool.1 = facing.1 ∧ pool.1.length = 10 := by
  intro plan device other gauge advance asked pool facing
  have steady : Source.Steady fun want position => plan.supplyAt want position none :=
    Device.steady_supplyAt rfl
  have twins : Device.Twins plan device other :=
    ⟨⟨rfl, rfl, rfl, rfl, rfl, rfl⟩, ⟨rfl, rfl, rfl, rfl, rfl, rfl⟩, rfl, rfl, rfl⟩
  have together : Source.Together (Device.Twins plan) (fun device => (some (), device)) advance :=
    fun _ other twins => ⟨rfl, rfl, twins.regular, twins.regular'.read 3, twins.addressable,
      twins.seekable, twins.closing⟩
  have alike : List.Forall₂ (Use.Alike (Source.Together (Device.Twins plan)))
      (asked (.visit 1 fun device => (some (), device))) (asked (.visit 1 advance)) :=
    .cons (.read _ _) <| .cons (.copy _) <| .cons (.visit _ together) <| .cons (.readAt _ _ _) <|
      .cons (.seek _ _ _) <| .cons (.writeTo _ _) <| .cons (.close _) <| .cons (.read _ _) <|
      .cons (.read _ _) <| .cons (.drop _) .nil
  have agree := run_fresh_agree (Device.matched_twins plan) steady twins 1 5 alike
  exact ⟨steady, twins, agree.1, rfl⟩

end Direct

end Payload
