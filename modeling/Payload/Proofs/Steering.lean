import Payload.Proofs.Direct.Fidelity
import Payload.Proofs.Memory
import Payload.Source.Device

/-!
# Where the copies of a body of known length can stand

Bodies in memory and direct bodies know their length and give each copy a cursor of the same kind.
`Steers` is what their engines have in common: no copy gets past the length, and one at its end
stays there, whatever it is asked for, until it is moved.  Only a seek moves it, and no seek works
with the source.
-/

namespace Payload

/-! ## Sinks -/

/-- Sinks that take no more than they are offered. -/
structure Sink.Modest {τ : Type} [Sink τ] (modest : τ → Prop) : Prop where
  taken : ∀ {bytes start sink count}, modest sink →
    (Sink.write bytes start sink).1 = .done count → count ≤ bytes.size - start
  still : ∀ {bytes start sink}, modest sink → modest (Sink.write bytes start sink).2

theorem Sink.modest_none {τ : Type} [Sink τ] : Sink.Modest fun _ : τ => False where
  taken := False.elim
  still := False.elim

/-- No gauge takes more than it is offered. -/
theorem Gauge.modest_any : Sink.Modest fun _ : Gauge => True where
  taken := by
    intro bytes start gauge count _ came
    change (Gauge.write bytes start gauge).1 = .done count at came
    have limited {limit : Nat}
        (cued : Cue.limit (bytes.size - start) gauge.script.head? = .ok limit) :
        limit ≤ bytes.size - start := by
      unfold Cue.limit at cued
      split at cued
      · cases cued
        exact Nat.min_le_left _ _
      · cases cued
      · cases cued
        exact Nat.le_refl _
    unfold Gauge.write at came
    dsimp only at came
    split at came
    · cases came
    · rename_i limit cued
      cases came
      exact Nat.le_trans (Nat.min_le_left _ _) (limited cued)
  still _ := trivial

/-! ## Engines that know the length -/

/-- A turn that leaves the length as it is, and its copy within it. -/
def Turn.Within {ρ α : Type} (length : ρ → Nat) (record : ρ) (turn : Turn ρ Cursor α) : Prop :=
  length turn.record = length record ∧ turn.cursor.offset ≤ length record

/-- An engine whose copies stand within a length that is read off the record. -/
structure Steers {σ ρ : Type} (engine : Engine σ ρ Cursor) (length : ρ → Nat) : Prop where
  ended_eq : ∀ cursor, engine.ended cursor = cursor.ended
  remaining_eq : ∀ record cursor, (cursor.ended = false → cursor.offset ≤ length record) →
    engine.remaining record cursor = some (cursor.remaining (length record))
  seek_eq : ∀ offset whence record cursor,
    engine.seek offset whence record cursor = cursor.seek (length record) offset whence record
  /-- At the end there is nothing to read. -/
  read_of_ended : ∀ buffer record cursor, cursor.ended = true →
    engine.read buffer record cursor = ⟨.failed ⟨.read, .endOfStream⟩, record, cursor, []⟩
  /-- An empty buffer is filled by nothing. -/
  read_nothing : ∀ buffer record cursor, cursor.ended = false → buffer.size = 0 →
    engine.read buffer record cursor = ⟨.done .empty, record, cursor, []⟩
  read_within : ∀ buffer record cursor, cursor.offset ≤ length record →
    (engine.read buffer record cursor).Within length record
  readAt_nothing : ∀ buffer offset record cursor, buffer.size = 0 →
    engine.readAt buffer offset record cursor = ⟨.done .empty, record, cursor, []⟩
  readAt_past : ∀ buffer offset record cursor, 0 < buffer.size → length record ≤ offset →
    engine.readAt buffer offset record cursor =
      ⟨.failed ⟨.readAt, .endOfStream⟩, record, cursor, []⟩
  readAt_stays : ∀ buffer offset record cursor,
    length (engine.readAt buffer offset record cursor).record = length record ∧
      (engine.readAt buffer offset record cursor).cursor = cursor
  /-- At the end there is nothing to read out. -/
  writeTo_of_ended : ∀ {τ : Type} [Sink τ] (sink : τ) record cursor, cursor.ended = true →
    (engine.writeTo sink record cursor).1 = ⟨.done 0, record, cursor, []⟩
  writeTo_within : ∀ {τ : Type} [Sink τ] {modest : τ → Prop}, Sink.Modest modest →
    ∀ {sink : τ}, modest sink → ∀ record cursor, cursor.offset ≤ length record →
      (engine.writeTo sink record cursor).1.Within length record
  copy_stays : ∀ record cursor,
    (engine.copy record cursor).reply = .done cursor ∧
      length (engine.copy record cursor).record = length record ∧
      (engine.copy record cursor).cursor = cursor
  close_stays : ∀ record cursor, length (engine.close record cursor).record = length record
  visit_stays : ∀ {α : Type} (callback : σ → Option α × σ) record cursor,
    length (engine.visit callback record cursor).record = length record ∧
      (engine.visit callback record cursor).cursor = cursor

namespace Memory

variable {σ τ : Type} [Sink τ] {modest : τ → Prop}

/-- The copies of a new body over bytes in memory: one, at the start. -/
def fresh (data : ByteArray) : Pool (engine σ) :=
  ⟨data, [some {}]⟩

theorem within_read (want : Nat) (data : ByteArray) {cursor : Cursor}
    (inside : cursor.offset ≤ data.size) :
    (read want data cursor).Within ByteArray.size data := by
  refine ⟨congrArg ByteArray.size (record_read want data cursor), ?_⟩
  have reads := reads want data cursor
  generalize read want data cursor = turn at reads ⊢
  cases reads with
  | gave =>
      dsimp only
      rw [size_stretch]
      omega
  | _ => exact inside

/-- A modest sink leads no copy past the bytes. -/
theorem within_spill (sinks : Sink.Modest modest) (data : ByteArray) (tries total : Nat)
    {sink : τ} (ready : modest sink) {cursor : Cursor} (inside : cursor.offset ≤ data.size) :
    (spill data tries total sink cursor).1.Within ByteArray.size data := by
  induction tries generalizing total sink cursor with
  | zero => exact ⟨rfl, inside⟩
  | succ tries ih =>
      have still : modest (Sink.write data cursor.offset sink).2 := sinks.still ready
      unfold spill
      rw [if_neg (Nat.not_lt.mpr inside)]
      split
      · exact ⟨rfl, inside⟩
      · split
        · exact ⟨rfl, inside⟩
        · rename_i taken next _ offer
          have took := sinks.taken ready (congrArg Prod.fst offer)
          rw [offer] at still
          split
          · exact ⟨rfl, inside⟩
          · exact ih (total + taken) still (by dsimp only; omega)
        · rename_i fault next offer
          rw [offer] at still
          split
          · exact ih total still inside
          · exact ⟨rfl, inside⟩
        · exact ⟨rfl, inside⟩

theorem steers : Steers (engine σ) ByteArray.size where
  ended_eq _ := rfl
  remaining_eq _ _ inside :=
    Memory.remaining_eq fun overrun => Nat.not_le.mpr overrun.2 (inside overrun.1)
  seek_eq _ _ _ _ := rfl
  read_of_ended _ _ _ ended := if_pos ended
  read_nothing buffer data cursor going nothing := by
    change read buffer.size data cursor = _
    simp [read, going, nothing]
  read_within buffer data _ inside := within_read buffer.size data inside
  readAt_nothing _ _ _ _ nothing := if_pos nothing
  readAt_past buffer offset data cursor asks past := by
    change readAt buffer.size offset data cursor = _
    rw [readAt, if_neg (Nat.ne_of_gt asks), if_pos past]
  readAt_stays buffer offset data cursor := by
    refine ⟨congrArg ByteArray.size (record_readAt buffer.size offset data cursor), ?_⟩
    change (readAt buffer.size offset data cursor).cursor = cursor
    unfold readAt
    split
    · rfl
    · split <;> rfl
  writeTo_of_ended sink data cursor ended := by
    change (writeTo sink data cursor).1 = _
    rw [writeTo, if_pos ended]
  writeTo_within sinks sink ready data cursor inside := by
    change (writeTo sink data cursor).1.Within ByteArray.size data
    unfold writeTo
    split
    · exact ⟨rfl, inside⟩
    · exact within_spill sinks data _ _ ready inside
  copy_stays _ _ := ⟨rfl, rfl, rfl⟩
  close_stays _ _ := rfl
  visit_stays _ _ _ := ⟨rfl, rfl⟩

end Memory

namespace Direct

variable {σ : Type} [Source σ]

/-- A read takes no copy past the length. -/
theorem Reads.inside {buffer : Buffer} {direct : Direct σ} {cursor : Cursor}
    {turn : Turn (Direct σ) Cursor ByteArray} (reads : Reads buffer direct cursor turn)
    (inside : cursor.offset ≤ direct.length) : turn.cursor.offset ≤ direct.length := by
  cases reads with
  | gave going asks within fetched =>
      have fits := size_le_of_fetch fetched
      dsimp only
      omega
  | _ => exact inside

theorem within_read (buffer : Buffer) (direct : Direct σ) {cursor : Cursor}
    (inside : cursor.offset ≤ direct.length) :
    (direct.read buffer cursor).Within length direct :=
  ⟨(reads buffer direct cursor).served.length, (reads buffer direct cursor).inside inside⟩

theorem steers : Steers (engine σ) length where
  ended_eq _ := rfl
  remaining_eq _ _ _ := rfl
  seek_eq _ _ _ _ := rfl
  read_of_ended _ _ _ ended := if_pos ended
  read_nothing buffer direct cursor going nothing := by
    change direct.read buffer cursor = _
    simp [read, going, nothing]
  read_within buffer direct _ inside := within_read buffer direct inside
  readAt_nothing _ _ _ _ nothing := if_pos nothing
  readAt_past buffer offset direct cursor asks past := by
    change direct.readAt buffer offset cursor = _
    rw [readAt, if_neg (Nat.ne_of_gt asks), if_pos past]
  readAt_stays buffer offset direct cursor :=
    ⟨(readsAt buffer offset direct cursor).served.length,
      cursor_readAt buffer offset direct cursor⟩
  writeTo_of_ended sink direct cursor ended := by
    let buffer : Buffer := .fresh (scratch defaultBlock (some (cursor.remaining direct.length)))
    have ends : direct.read buffer cursor =
        ⟨.failed ⟨.read, .endOfStream⟩, direct, cursor, []⟩ :=
      if_pos ended
    change (pump read buffer sink direct cursor).1 = _
    rw [pump_of_failed sink (congrArg Turn.reply ends), ends]
    rfl
  writeTo_within _ sink _ direct cursor inside :=
    pump_keeps read (I := fun record (current : Cursor) =>
        length record = length direct ∧ current.offset ≤ length direct)
      (fun buffer record current kept => by
        have within := within_read buffer record (kept.1.symm ▸ kept.2)
        exact ⟨within.1.trans kept.1, kept.1 ▸ within.2⟩)
      _ sink ⟨rfl, inside⟩
  copy_stays _ _ := ⟨rfl, rfl, rfl⟩
  close_stays direct cursor := by
    change (direct.close cursor).record.length = direct.length
    unfold close
    dsimp only
    split <;> rfl
  visit_stays _ _ _ := ⟨rfl, rfl⟩

end Direct

/-! ## Runs -/

section

variable {σ ρ τ : Type} [Sink τ] {engine : Engine σ ρ Cursor} {length : ρ → Nat}

/-- The body has this length, and its open copies stand within it. -/
def Spans (length : ρ → Nat) (total : Nat) (pool : Pool engine) : Prop :=
  length pool.record = total ∧
    ∀ index cursor, pool.cursor? index = some cursor → cursor.offset ≤ total

variable {total : Nat} {pool : Pool engine} {modest : τ → Prop}

omit [Sink τ] in
/-- One copy, closed or at the start, is within every length. -/
theorem spans_alone (length : ρ → Nat) (record : ρ) {copy : Option Cursor}
    (start : ∀ cursor, copy = some cursor → cursor.offset = 0) :
    Spans length (length record) (⟨record, [copy]⟩ : Pool engine) := by
  refine ⟨rfl, fun index cursor found => ?_⟩
  cases index with
  | zero => exact start cursor found ▸ Nat.zero_le _
  | succ index => cases found

omit [Sink τ] in
theorem Spans.put (spans : Spans length total pool) {index : Nat} {cursor : Cursor}
    (found : pool.cursor? index = some cursor) {record : ρ} {next : Cursor}
    (kept : length record = length pool.record) (inside : next.offset ≤ length pool.record) :
    Spans length total (pool.put index record next) := by
  refine ⟨kept.trans spans.1, fun other current there => ?_⟩
  by_cases same : index = other
  · subst same
    rw [Pool.cursor?_put_self found] at there
    cases there
    exact spans.1 ▸ inside
  · rw [Pool.cursor?_put_of_ne same] at there
    exact spans.2 other current there

omit [Sink τ] in
theorem Spans.add (spans : Spans length total pool) {record : ρ} {twin : Option Cursor}
    (kept : length record = length pool.record)
    (inside : ∀ cursor, twin = some cursor → cursor.offset ≤ total) :
    Spans length total (pool.add record twin) := by
  refine ⟨kept.trans spans.1, fun other current there => ?_⟩
  rw [Pool.cursor?_add] at there
  split at there
  · exact inside current there
  · exact spans.2 other current there

omit [Sink τ] in
theorem Spans.remove (spans : Spans length total pool) (index : Nat) {record : ρ}
    (kept : length record = length pool.record) :
    Spans length total (pool.remove index record) :=
  ⟨kept.trans spans.1, fun other current there =>
    spans.2 other current (Pool.cursor?_of_remove there)⟩

/-- Nothing that is asked of a copy leads any of them past the length. -/
theorem Spans.use (steers : Steers engine length) (sinks : Sink.Modest modest)
    (spans : Spans length total pool) {use : Use σ τ} (pours : use.Pours modest) :
    Spans length total (pool.use use).2 := by
  cases found : pool.cursor? use.index with
  | none =>
      rcases Pool.state_use_of_closed found with same | blank
      · rw [same]
        exact spans
      · rw [blank]
        exact spans.add rfl nofun
  | some cursor =>
      have inside : cursor.offset ≤ length pool.record := spans.1 ▸ spans.2 _ _ found
      have acts := Pool.acts_of_open found
      generalize pool.use use = out at acts ⊢
      cases acts with
      | read index buffer =>
          have within := steers.read_within buffer pool.record cursor inside
          exact spans.put found within.1 within.2
      | readAt index buffer offset =>
          have stays := steers.readAt_stays buffer offset pool.record cursor
          exact spans.put found stays.1 (stays.2.symm ▸ inside)
      | seek index offset whence =>
          dsimp only
          rw [steers.seek_eq]
          rcases cursor.seek_cases (length pool.record) offset whence pool.record with
            ⟨error, refused⟩ | ⟨position, within, sought⟩
          · rw [refused]
            exact spans.put found rfl inside
          · rw [sought]
            exact spans.put found rfl within
      | writeTo index sink =>
          have within := steers.writeTo_within sinks pours pool.record cursor inside
          exact spans.put found within.1 within.2
      | copied index made =>
          obtain ⟨twinned, kept, stays⟩ := steers.copy_stays pool.record cursor
          refine (spans.put found kept (stays.symm ▸ inside)).add rfl fun twin joins => ?_
          cases made.symm.trans twinned
          cases joins
          exact spans.1 ▸ inside
      | uncopied index unmade =>
          exact absurd (steers.copy_stays pool.record cursor).1 (unmade cursor)
      | close index => exact spans.remove index (steers.close_stays _ _)
      | drop index => exact spans.remove index (steers.close_stays _ _)
      | visit index callback =>
          have stays := steers.visit_stays callback pool.record cursor
          exact spans.put found stays.1 (stays.2.symm ▸ inside)

theorem Spans.afterRun (steers : Steers engine length) (sinks : Sink.Modest modest)
    (spans : Spans length total pool) {uses : List (Use σ τ)}
    (pours : ∀ use ∈ uses, use.Pours modest) : Spans length total (pool.afterRun uses) :=
  runAll_keeps (P := Spans length total)
    (fun use member _ kept => kept.use steers sinks (pours use member)) spans

end

/-! ## The end of a copy -/

/-- A copy at its end: nothing is left, and a read of it says so and changes nothing. -/
structure Pool.AtEnd {σ ρ κ : Type} {engine : Engine σ ρ κ} (pool : Pool engine) (index : Nat) :
    Prop where
  ended : pool.ended index = true
  remaining : pool.remaining index = some 0
  refused : ∀ buffer, (pool.read index buffer).reply = .failed ⟨.read, .endOfStream⟩ ∧
    (pool.read index buffer).state = pool

section

open Direct (Sought)

variable {σ ρ τ : Type} [Sink τ] {engine : Engine σ ρ Cursor} {length : ρ → Nat}
  {pool : Pool engine} {index : Nat} {cursor : Cursor}

omit [Sink τ] in
theorem Steers.atEnd (steers : Steers engine length) (found : pool.cursor? index = some cursor)
    (ended : cursor.ended = true) : pool.AtEnd index where
  ended := (Pool.ended_of_open found).trans ((steers.ended_eq cursor).trans ended)
  remaining := by
    have stands (going : cursor.ended = false) : cursor.offset ≤ length pool.record := by
      rw [ended] at going
      cases going
    rw [Pool.remaining_of_open found, steers.remaining_eq _ _ stands, Cursor.remaining,
      if_pos ended]
  refused buffer :=
    Pool.act_of_idle found .read (steers.read_of_ended buffer pool.record cursor ended)

/-- A copy of a copy stands where that one does. -/
theorem Steers.cursor?_copy (steers : Steers engine length)
    (found : pool.cursor? index = some cursor) :
    (pool.copy index).state.cursor? pool.copies.length = some cursor ∧
      (pool.copy index).state.cursor? index = some cursor := by
  obtain ⟨made, -, stays⟩ := steers.copy_stays pool.record cursor
  have size : (pool.put index (engine.copy pool.record cursor).record cursor).copies.length =
      pool.copies.length := List.length_set
  rw [(Pool.copy_of_done found made).2, stays, Pool.cursor?_add, Pool.cursor?_add, size, if_pos rfl,
    if_neg (Nat.ne_of_lt (Pool.lt_length_of_cursor?_eq_some found)), Pool.cursor?_put_self found]
  exact ⟨rfl, rfl⟩

omit [Sink τ] in
theorem Steers.still (steers : Steers engine length) : engine.Still where
  readAt buffer offset record cursor := (steers.readAt_stays buffer offset record cursor).2
  copy record cursor := (steers.copy_stays record cursor).2.2
  visit callback record cursor := (steers.visit_stays callback record cursor).2

/-- A copy at its end stays where it is, or leaves, unless it is moved. -/
theorem Steers.stays_use (steers : Steers engine length)
    (found : pool.cursor? index = some cursor) (ended : cursor.ended = true) (use : Use σ τ)
    (unmoved : ¬Sought index use (pool.use use).1) :
    (pool.use use).2.cursor? index = some cursor ∨ (pool.use use).2.cursor? index = none := by
  cases Pool.means_use steers.still found use with
  | idle unread unpoured left => exact left
  | read buffer asked =>
      subst asked
      have same : (pool.read index buffer).state = pool :=
        ((steers.atEnd found ended).refused buffer).2
      exact Or.inl ((congrArg (Pool.cursor? · index) same).trans found)
  | readOut sink asked =>
      subst asked
      refine Or.inl ?_
      change (pool.writeTo index sink).1.state.cursor? index = _
      rw [(Pool.writeTo_of_open found sink).2.1, steers.writeTo_of_ended sink _ _ ended,
        Pool.put_self found]
      exact found
  | sought offset whence asked =>
      subst asked
      rcases Pool.seek_of_open found (steers.seek_eq offset whence _ _) with
        ⟨same, -⟩ | ⟨position, -, done, -⟩
      · exact Or.inl ((congrArg (Pool.cursor? · index) same).trans found)
      · change ¬Sought index (.seek index offset whence : Use σ τ)
          (.position (pool.seek index offset whence).reply) at unmoved
        rw [done] at unmoved
        exact absurd rfl unmoved

/-- The same for a run. -/
theorem Steers.stays_afterRun (steers : Steers engine length)
    (found : pool.cursor? index = some cursor) (ended : cursor.ended = true)
    {uses : List (Use σ τ)}
    (unmoved : ∀ pair ∈ uses.zip (pool.run uses).1, ¬Sought index pair.1 pair.2) :
    (pool.afterRun uses).cursor? index = some cursor ∨
      (pool.afterRun uses).cursor? index = none := by
  induction uses generalizing pool with
  | nil => exact Or.inl found
  | cons use rest ih =>
      rw [Pool.run_cons, List.zip_cons_cons] at unmoved
      rw [Pool.afterRun_cons]
      rcases steers.stays_use found ended use (unmoved _ List.mem_cons_self) with stays | gone
      · exact ih stays fun pair member => unmoved pair (List.mem_cons_of_mem _ member)
      · have within := Nat.lt_of_lt_of_le (Pool.lt_length_of_cursor?_eq_some found)
          (Pool.length_le_use pool use)
        exact Or.inr (Pool.cursor?_afterRun_of_closed within gone rest)

/-! ## Every run -/

/-- What an open copy can rely on in a body of this length, wherever it stands. -/
structure Steered (τ : Type) [Sink τ] (total : Nat) (pool : Pool engine) (index : Nat)
    (cursor : Cursor) : Prop where
  inside : cursor.offset ≤ total
  ended_eq : pool.ended index = cursor.ended
  /-- A seek that does not work changes nothing. -/
  refused : ∀ offset whence,
    (∀ position, (pool.seek index offset whence).reply ≠ .done position) →
      (pool.seek index offset whence).state = pool
  /-- A seek that works leaves the record alone and the copy where it says, not at its end. -/
  sought : ∀ offset whence position, (pool.seek index offset whence).reply = .done position →
    position ≤ total ∧
      (pool.seek index offset whence).state = pool.put index pool.record { offset := position }
  /-- At its end a copy stays until it is moved, and what is copied from it is there as well. -/
  ended : cursor.ended = true → ∀ later : List (Use σ τ),
    (∀ pair ∈ later.zip (pool.run later).1, ¬Sought index pair.1 pair.2) →
      let next := pool.afterRun later
      next.isClosed index = true ∨
        next.AtEnd index ∧ (next.copy index).state.AtEnd next.copies.length
  /-- Before its end a copy counts down to the length. -/
  going : cursor.ended = false → pool.remaining index = some (total - cursor.offset) ∧
    ∀ buffer, buffer.size = 0 → (pool.read index buffer).reply = .done .empty ∧
      (pool.read index buffer).state = pool
  readAt_stays : ∀ buffer offset other,
    (pool.readAt index buffer offset).state.cursor? other = pool.cursor? other
  readAt_nothing : ∀ buffer offset, buffer.size = 0 →
    (pool.readAt index buffer offset).reply = .done .empty ∧
      (pool.readAt index buffer offset).state = pool
  /-- Every position past the last byte is the end. -/
  readAt_past : ∀ buffer offset, 0 < buffer.size → total ≤ offset →
    (pool.readAt index buffer offset).reply = .failed ⟨.readAt, .endOfStream⟩ ∧
      (pool.readAt index buffer offset).state = pool

theorem Spans.steered {total : Nat} (spans : Spans length total pool)
    (steers : Steers engine length) (found : pool.cursor? index = some cursor) :
    Steered τ total pool index cursor where
  inside := spans.2 index cursor found
  ended_eq := (Pool.ended_of_open found).trans (steers.ended_eq cursor)
  refused offset whence unmoved := by
    rcases Pool.seek_of_open found (steers.seek_eq offset whence _ _) with
      ⟨stays, -⟩ | ⟨position, -, done, -⟩
    · exact stays
    · exact absurd done (unmoved position)
  sought offset whence position came := by
    rcases Pool.seek_of_open found (steers.seek_eq offset whence _ _) with
      ⟨-, error, refuses⟩ | ⟨arrived, within, done, arrives⟩
    · rw [refuses] at came
      cases came
    · rw [done] at came
      cases came
      exact ⟨spans.1 ▸ within, arrives⟩
  ended ended later unmoved := by
    rcases steers.stays_afterRun found ended unmoved with stays | gone
    · exact Or.inr ⟨steers.atEnd stays ended, steers.atEnd (steers.cursor?_copy stays).1 ended⟩
    · exact Or.inl (Pool.isClosed_eq_true_iff.mpr gone)
  going going := by
    refine ⟨?_, fun buffer nothing =>
      Pool.act_of_idle found .read (steers.read_nothing buffer _ _ going nothing)⟩
    have inside : cursor.offset ≤ length pool.record := spans.1 ▸ spans.2 index cursor found
    rw [Pool.remaining_of_open found, steers.remaining_eq _ _ fun _ => inside, Cursor.remaining,
      spans.1, going]
    rfl
  readAt_stays buffer offset other := by
    rw [Pool.readAt, (Pool.act_of_open found _ _).2, (steers.readAt_stays _ _ _ _).2,
      Pool.put_eq_withRecord found]
    rfl
  readAt_nothing buffer offset nothing :=
    Pool.act_of_idle found .readAt (steers.readAt_nothing buffer offset _ _ nothing)
  readAt_past buffer offset asks past :=
    Pool.act_of_idle found .readAt
      (steers.readAt_past buffer offset _ _ asks (spans.1.symm ▸ past))

end

/-- Whatever is asked of the copies of a body in memory, or of one that reads its source in place,
whatever the source does: every open copy stands within the length and is steered by its seeks
alone.  Where a pool is left as it is, so is the source, and one that writes its calls down has
written nothing. -/
theorem afterRun_fresh_steered {σ τ : Type} [Source σ] [Sink τ] {modest : τ → Prop}
    (sinks : Sink.Modest modest) {uses : List (Use σ τ)}
    (pours : ∀ use ∈ uses, use.Pours modest) :
    (∀ data : ByteArray,
      let pool : Pool (Memory.engine σ) := (Memory.fresh data).afterRun uses
      ∀ index cursor, pool.cursor? index = some cursor →
        Steered τ data.size pool index cursor) ∧
    ∀ (source : σ) (access : Access) (base length : Nat),
      let pool := (Direct.fresh source access base length).afterRun uses
      ∀ index cursor, pool.cursor? index = some cursor → Steered τ length pool index cursor := by
  have alone {index : Nat} {cursor : Cursor}
      (found : ([some {}] : List (Option Cursor))[index]?.join = some cursor) :
      cursor.offset = 0 := by
    cases index with
    | zero =>
        cases found
        rfl
    | succ index => cases found
  constructor
  · intro data pool index cursor found
    have begun : Spans ByteArray.size data.size (Memory.fresh data : Pool (Memory.engine σ)) :=
      ⟨rfl, fun _ _ there => alone there ▸ Nat.zero_le _⟩
    exact (begun.afterRun Memory.steers sinks pours).steered Memory.steers found
  · intro source access base length pool index cursor found
    have begun : Spans Direct.length length (Direct.fresh source access base length) :=
      ⟨rfl, fun _ _ there => alone there ▸ Nat.zero_le _⟩
    exact (begun.afterRun Direct.steers sinks pours).steered Direct.steers found

/-- A device that was taken for five bytes long and has three, and the three bytes themselves: read
past the end, copied and moved, the first copy goes on, and the second stays at its end through all
that does not move it. -/
theorem afterRun_fresh_steered_of_short :
    let data : ByteArray := ⟨#[1, 2, 3]⟩
    let device : Recorded Device := ⟨{ content := data, addressable := true }, []⟩
    let uses : List (Use (Recorded Device) Gauge) :=
      [.read 0 (.fresh 9), .read 0 (.fresh 9), .copy 0, .seek 0 (-1) 2]
    let later : List (Use (Recorded Device) Gauge) :=
      [.writeTo 1 ({} : Gauge), .readAt 1 (.fresh 2) 1, .seek 0 0 0]
    let pool := (Direct.fresh device .addressed 0 5).afterRun uses
    let kept : Pool (Memory.engine (Recorded Device)) := (Memory.fresh data).afterRun uses
    (pool.remaining 0 = some 1 ∧ (pool.seek 1 (-9) 1).state = pool ∧
      (pool.afterRun later).AtEnd 1) ∧
    kept.remaining 0 = some 1 ∧ (kept.seek 1 (-9) 1).state = kept ∧
      (kept.afterRun later).AtEnd 1 := by
  intro data device uses later pool kept
  have pours : ∀ use ∈ uses, use.Pours fun _ => True := by simp [uses, Use.Pours]
  obtain ⟨inMemory, inPlace⟩ := afterRun_fresh_steered Gauge.modest_any pours
  have first := inPlace device .addressed 0 5 0 ⟨4, false⟩ (by decide +kernel)
  have second := inPlace device .addressed 0 5 1 ⟨3, true⟩ (by decide +kernel)
  have first_kept := inMemory data 0 ⟨2, false⟩ (by decide +kernel)
  have second_kept := inMemory data 1 ⟨3, true⟩ (by decide +kernel)
  have refuses : (pool.seek 1 (-9) 1).reply = .failed ⟨.seek, .seek (.negativeComputed (-6))⟩ := by
    decide +kernel
  have refuses_kept :
      (kept.seek 1 (-9) 1).reply = .failed ⟨.seek, .seek (.negativeComputed (-6))⟩ := by
    decide +kernel
  have unmoved (receipts : List (Receipt Gauge)) :
      ∀ pair ∈ later.zip receipts, ¬Direct.Sought 1 pair.1 pair.2 := by
    intro pair member
    have asked := (List.of_mem_zip member).1
    simp only [later, List.mem_cons, List.not_mem_nil, or_false] at asked
    rcases asked with asked | asked | asked
    · simp [asked, Direct.Sought]
    · simp [asked, Direct.Sought]
    · rw [asked]
      rcases pair.2 with _ | (_ | _ | _) | _ | _ | _ <;> simp [Direct.Sought]
  have ended := (second.ended rfl later (unmoved _)).resolve_left (by decide +kernel)
  have ended_kept := (second_kept.ended rfl later (unmoved _)).resolve_left (by decide +kernel)
  refine ⟨⟨(first.going rfl).1, second.refused _ _ fun _ => ?_, ended.1⟩, (first_kept.going rfl).1,
    second_kept.refused _ _ fun _ => ?_, ended_kept.1⟩
  · rw [refuses]
    exact fun done => by cases done
  · rw [refuses_kept]
    exact fun done => by cases done

end Payload
