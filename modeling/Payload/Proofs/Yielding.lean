import Payload.Proofs.Announcing
import Payload.Proofs.Buffered.Length
import Payload.Proofs.Memory
import Payload.Proofs.States
import Payload.Reader

/-!
# A read gives bytes or says why not

Who reads a byte stream takes a read of no bytes for its end, so no read of a copy that is asked for
some may give none.  A read that gives bytes moves the copy past them; that makes every loop of
reads come to an end where the bytes do.
-/

namespace Payload

/-! ## One read -/

/-- Where the turn gives bytes, these are no more than were asked for, and at least one if any were;
and the copy moves past them. -/
structure Turn.Advances {ρ κ : Type} (offset : κ → Nat) (want : Nat) (cursor : κ)
    (turn : Turn ρ κ ByteArray) : Prop where
  some_bytes : ∀ bytes, turn.reply = .done bytes → 0 < want → 0 < bytes.size
  size_le : ∀ bytes, turn.reply = .done bytes → bytes.size ≤ want
  moves : ∀ bytes, turn.reply = .done bytes → offset turn.cursor = offset cursor + bytes.size

/-- A turn that gives nothing advances as it should. -/
theorem Turn.advances_of_idle {ρ κ : Type} {offset : κ → Nat} {want : Nat} {cursor : κ}
    {turn : Turn ρ κ ByteArray} (idle : ∀ bytes, turn.reply ≠ .done bytes) :
    turn.Advances offset want cursor :=
  ⟨fun bytes done => absurd done (idle bytes), fun bytes done => absurd done (idle bytes),
    fun bytes done => absurd done (idle bytes)⟩

/-- A turn that is asked for nothing, and stays where it is. -/
theorem Turn.advances_of_nothing {ρ κ : Type} {offset : κ → Nat} {want : Nat} {cursor : κ}
    {record : ρ} (nothing : want = 0) :
    (⟨.done .empty, record, cursor, []⟩ : Turn ρ κ ByteArray).Advances offset want cursor where
  some_bytes _ _ asks := absurd nothing (Nat.ne_of_gt asks)
  size_le := by
    rintro bytes ⟨⟩
    exact Nat.zero_le _
  moves := by
    rintro bytes ⟨⟩
    rfl

theorem Memory.advances_read (want : Nat) (data : ByteArray) (cursor : Cursor) :
    (read want data cursor).Advances Cursor.offset want cursor := by
  have reads := reads want data cursor
  generalize read want data cursor = turn at reads ⊢
  cases reads with
  | ended => exact Turn.advances_of_idle nofun
  | nothing going nothing => exact Turn.advances_of_nothing nothing
  | overrun => exact Turn.advances_of_idle nofun
  | spent => exact Turn.advances_of_idle nofun
  | gave going asks within =>
      have size_eq := size_stretch data cursor.offset want
      refine ⟨?_, ?_, ?_⟩
      · rintro bytes ⟨⟩ asks
        omega
      · rintro bytes ⟨⟩
        exact size_stretch_le _ _ _
      · rintro bytes ⟨⟩
        rfl

theorem Direct.Reads.advances {σ : Type} [Source σ] {buffer : Buffer} {direct : Direct σ}
    {cursor : Cursor} {turn : Turn (Direct σ) Cursor ByteArray}
    (reads : Reads buffer direct cursor turn) :
    turn.Advances Cursor.offset buffer.size cursor := by
  cases reads with
  | ended => exact Turn.advances_of_idle nofun
  | nothing going nothing => exact Turn.advances_of_nothing nothing
  | past => exact Turn.advances_of_idle nofun
  | dry => exact Turn.advances_of_idle nofun
  | gave going asks within fetched some_bytes =>
      refine ⟨?_, ?_, ?_⟩
      · rintro bytes ⟨⟩ -
        exact Nat.pos_of_ne_zero some_bytes
      · rintro bytes ⟨⟩
        exact Nat.le_trans (size_le_of_fetch fetched) (Nat.min_le_left _ _)
      · rintro bytes ⟨⟩
        rfl
  | failed => exact Turn.advances_of_idle nofun
  | broke => exact Turn.advances_of_idle nofun

namespace Buffered

variable {σ : Type} [Source σ]

omit [Source σ] in
/-- Delivering advances a copy, if there is something to deliver or an end to meet. -/
theorem Delivers.advances {record : Buffered σ} {cursor : Cursor} {want : Nat}
    {turn : Turn (Buffered σ) Cursor ByteArray}
    (delivers : Delivers (cursor.offset + want) record cursor turn) (tidy : record.Tidy)
    (standing : 0 < record.cursors.count cursor.offset)
    (enough : 0 < want → record.terminal ≠ none ∨ cursor.offset < record.window.stop) :
    turn.Advances Cursor.offset want cursor := by
  have above := tidy.start_le standing
  have inside := tidy.within _ standing
  have offset_eq := delivers.offset
  have moved := delivers.offset_eq tidy standing
  have size_eq {bytes : ByteArray} (done : turn.reply = .done bytes) :
      turn.cursor.offset = cursor.offset + bytes.size := by
    rw [moved, done]
    rfl
  refine ⟨fun bytes done asks => ?_, fun bytes done => ?_, fun _ => size_eq⟩
  · have moves := size_eq done
    rcases delivers.reply with ⟨given, gave, -, whole⟩ | ⟨terminal, -, -, failed⟩
    · rw [done] at gave
      cases gave
      refine Nat.pos_of_ne_zero fun none => ?_
      have met := whole none
      rw [delivers.met] at met
      rcases enough asks with stopped | more
      · rw [if_pos (by omega)] at met
        exact stopped met
      · omega
    · rw [done] at failed
      cases failed
  · have moves := size_eq done
    omega

/-- A read of an open copy gives bytes, or says why not. -/
theorem Orderly.advances {pool : Pool (engine σ)} (orderly : Orderly pool) {index : Nat}
    {cursor : Cursor} (found : pool.cursor? index = some cursor) (want : Nat) :
    (pool.record.read want cursor).Advances Cursor.offset want cursor := by
  have some_open := Pool.openCount_pos found
  have tidy := orderly.balanced.tidy some_open
  have standing := orderly.balanced.standing found
  have held := orderly.balanced.held.mpr some_open
  have reads := orderly.reads found want
  generalize pool.record.read want cursor = turn at reads ⊢
  cases reads with
  | ended => exact Turn.advances_of_idle nofun
  | poisoned => exact Turn.advances_of_idle nofun
  | broke => exact Turn.advances_of_idle nofun
  | served going sound enough delivers =>
      refine delivers.advances tidy standing fun asks => ?_
      rcases enough with stopped | covered
      · exact Or.inl stopped
      · exact Or.inr (by omega)
  | filled going sound running short fills intact delivers =>
      have refilled := fills.refilled
      have within := tidy.within _ standing
      refine delivers.advances (refilled.tidy tidy) (refilled.cursors.symm ▸ standing) fun _ => ?_
      rcases lt_stop_of_fills orderly.blocks held (Nat.sub_pos_of_lt short) fills intact with
        more | stopped
      · exact Or.inr (Nat.lt_of_le_of_lt within more)
      · exact Or.inl stopped

end Buffered

/-! ## Reads that all give bytes -/

/-- An engine whose reads advance a copy, as long as this holds of the pool, as they leave it. -/
structure Engine.Forwards {σ ρ κ : Type} (engine : Engine σ ρ κ) (offset : κ → Nat)
    (I : Pool engine → Prop) : Prop where
  advances : ∀ {pool : Pool engine} {index : Nat} {cursor : κ}, I pool →
    pool.cursor? index = some cursor → ∀ buffer,
      (engine.read buffer pool.record cursor).Advances offset buffer.size cursor
  keeps : ∀ {pool : Pool engine} {index : Nat} {cursor : κ}, I pool →
    pool.cursor? index = some cursor → ∀ buffer,
      I (pool.put index (engine.read buffer pool.record cursor).record
        (engine.read buffer pool.record cursor).cursor)

theorem Memory.forwards {σ : Type} : (engine σ).Forwards Cursor.offset fun _ => True where
  advances _ _ _ := advances_read _ _ _
  keeps _ _ _ := trivial

theorem Direct.forwards {σ : Type} [Source σ] :
    (engine σ).Forwards Cursor.offset fun _ => True where
  advances _ _ buffer := (reads buffer _ _).advances
  keeps _ _ _ := trivial

theorem Buffered.forwards {σ : Type} [Source σ] : (engine σ).Forwards Cursor.offset Orderly where
  advances orderly found buffer := orderly.advances found buffer.size
  keeps {pool index cursor} orderly found buffer := by
    have again : pool.put index pool.record cursor = pool := Pool.put_self found
    exact (Orderly.reads_put (again.symm ▸ orderly) found buffer.size).2

section

variable {σ ρ κ τ : Type} [Sink τ] {engine : Engine σ ρ κ} {offset : κ → Nat}
  {I : Pool engine → Prop} {pool : Pool engine} {index : Nat} {buffers : List Buffer}
  {pieces : List ByteArray}

/-- Reads that all give bytes move the copy past all of these. -/
theorem Engine.Forwards.moved (forwards : engine.Forwards offset I) (holds : I pool) {cursor : κ}
    (found : pool.cursor? index = some cursor)
    (gave : (pool.run (buffers.map (Use.read index : Buffer → Use σ τ))).1 =
      pieces.map fun piece => .bytes (.done piece)) :
    ∃ last, (pool.afterRun (buffers.map (Use.read index : Buffer → Use σ τ))).cursor? index =
        some last ∧ offset last = offset cursor + byteCount pieces ∧
      I (pool.afterRun (buffers.map (Use.read index : Buffer → Use σ τ))) := by
  refine Pool.gave_rule
    (I := fun pieces pool => ∃ last, pool.cursor? index = some last ∧
      offset last = offset cursor + byteCount pieces ∧ I pool)
    (fun {pieces pool place buffer bytes} before _ found done => ?_) []
    ⟨cursor, found, rfl, holds⟩ gave
  obtain ⟨last, here, reached, holds⟩ := before
  obtain rfl : last = place := Option.some.inj (here.symm.trans found)
  refine ⟨_, Pool.cursor?_put_self found _ _, ?_, forwards.keeps holds found buffer⟩
  rw [(forwards.advances holds found buffer).moves bytes done, reached, byteCount_append,
    byteCount_singleton, Nat.add_assoc]

/-- Each of the pieces fits its buffer, and is not empty if that is not. -/
theorem Engine.Forwards.forall_pieces (forwards : engine.Forwards offset I) (holds : I pool)
    {P : ByteArray → Prop} (each : ∀ buffer ∈ buffers, ∀ bytes : ByteArray,
      bytes.size ≤ buffer.size → (0 < buffer.size → 0 < bytes.size) → P bytes)
    (gave : (pool.run (buffers.map (Use.read index : Buffer → Use σ τ))).1 =
      pieces.map fun piece => .bytes (.done piece)) : ∀ piece ∈ pieces, P piece := by
  refine (Pool.gave_rule (I := fun pieces pool => (∀ piece ∈ pieces, P piece) ∧ I pool)
    (fun {pieces pool place buffer bytes} before member found done => ?_) []
    ⟨nofun, holds⟩ gave).1
  have advances := forwards.advances before.2 found buffer
  exact ⟨List.forall_mem_append.mpr ⟨before.1, List.forall_mem_singleton.mpr
      (each buffer member bytes (advances.size_le bytes done) (advances.some_bytes bytes done))⟩,
    forwards.keeps before.2 found buffer⟩

end

end Payload
