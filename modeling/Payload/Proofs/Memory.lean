import Payload.Engine.Memory
import Payload.Proofs.Accounts

/-!
# Bytes in memory stay as they are

Nothing that is asked of a copy changes the bytes that the copies share, so all that an operation
can change is the place of that copy.  Nothing can be poisoned, only a sink can fail, and only a
copy that a sink has carried past the bytes breaks off.
-/

namespace Payload

/-- To move a cursor does nothing to the record. -/
theorem record_seek {ρ : Type} {length : Nat} {offset whence : Int} (record : ρ)
    (cursor : Cursor) : (cursor.seek length offset whence record).record = record := by
  unfold Cursor.seek
  split <;> rfl

/-- Where a cursor is moved to does not depend on the record. -/
theorem Cursor.seek_alike {ρ ρ' : Type} (length : Nat) (offset whence : Int) (record : ρ)
    (record' : ρ') (cursor : Cursor) :
    (cursor.seek length offset whence record).reply =
        (cursor.seek length offset whence record').reply ∧
      (cursor.seek length offset whence record).cursor =
        (cursor.seek length offset whence record').cursor := by
  unfold seek
  split <;> exact ⟨rfl, rfl⟩

namespace Memory

variable {σ : Type}

/-- The copy is to go on from a place past the bytes. -/
def Overrun (data : ByteArray) (cursor : Cursor) : Prop :=
  cursor.ended = false ∧ data.size < cursor.offset

/-- What a read comes to. -/
inductive Reads (want : Nat) (data : ByteArray) (cursor : Cursor) :
    Turn ByteArray Cursor ByteArray → Prop where
  | ended (ended : cursor.ended = true) :
      Reads want data cursor ⟨.failed ⟨.read, .endOfStream⟩, data, cursor, []⟩
  | nothing (going : cursor.ended = false) (nothing : want = 0) :
      Reads want data cursor ⟨.done .empty, data, cursor, []⟩
  | overrun (asks : want ≠ 0) (overrun : Overrun data cursor) :
      Reads want data cursor ⟨.broke, data, cursor, []⟩
  | spent (going : cursor.ended = false) (asks : want ≠ 0) (spent : data.size = cursor.offset) :
      Reads want data cursor
        ⟨.failed ⟨.read, .endOfStream⟩, data, { cursor with ended := true }, []⟩
  | gave (going : cursor.ended = false) (asks : want ≠ 0) (within : cursor.offset < data.size) :
      Reads want data cursor
        ⟨.done (stretch data cursor.offset want), data,
          ⟨cursor.offset + (stretch data cursor.offset want).size,
            (stretch data cursor.offset want).size < want⟩, []⟩

theorem reads (want : Nat) (data : ByteArray) (cursor : Cursor) :
    Reads want data cursor (read want data cursor) := by
  unfold read
  split
  · rename_i ended
    exact .ended ended
  · rename_i going
    have going : cursor.ended = false := by simpa using going
    split
    · rename_i nothing
      exact .nothing going nothing
    · rename_i asks
      split
      · rename_i past
        exact .overrun asks ⟨going, past⟩
      · rename_i inside
        split
        · rename_i spent
          exact .spent going asks spent
        · rename_i more
          exact .gave going asks (by omega)

@[simp]
theorem record_read (want : Nat) (data : ByteArray) (cursor : Cursor) :
    (read want data cursor).record = data := by
  have reads := reads want data cursor
  generalize read want data cursor = turn at reads ⊢
  cases reads <;> rfl

/-- A read breaks off past the bytes, and nowhere else. -/
theorem reply_read_eq_broke_iff {want : Nat} {data : ByteArray} {cursor : Cursor} :
    (read want data cursor).reply = .broke ↔ want ≠ 0 ∧ Overrun data cursor := by
  have reads := reads want data cursor
  generalize read want data cursor = turn at reads ⊢
  constructor
  · intro broke
    cases reads with
    | overrun asks overrun => exact ⟨asks, overrun⟩
    | _ => cases broke
  · rintro ⟨asks, going, past⟩
    cases reads with
    | ended ended =>
        rw [ended] at going
        cases going
    | nothing _ nothing => exact absurd nothing asks
    | overrun => rfl
    | spent _ _ spent => omega
    | gave _ _ within => omega

/-- No read leads a copy past the bytes. -/
theorem not_overrun_read {want : Nat} {data : ByteArray} {cursor : Cursor}
    (inside : ¬Overrun data cursor) : ¬Overrun data (read want data cursor).cursor := by
  have reads := reads want data cursor
  generalize read want data cursor = turn at reads ⊢
  rintro ⟨going, past⟩
  cases reads with
  | ended => exact inside ⟨going, past⟩
  | nothing => exact inside ⟨going, past⟩
  | overrun => exact inside ⟨going, past⟩
  | spent => cases going
  | gave _ _ within =>
      have size_eq := size_stretch data cursor.offset want
      dsimp only at past
      omega

/-- What is left can be told unless the copy stands past the bytes. -/
theorem bytesRemaining_eq_broke_iff {data : ByteArray} {cursor : Cursor} :
    bytesRemaining data cursor = .broke ↔ Overrun data cursor := by
  simp [bytesRemaining, Overrun]

theorem remaining_eq {data : ByteArray} {cursor : Cursor} (inside : ¬Overrun data cursor) :
    (engine σ).remaining data cursor = some (cursor.remaining data.size) := by
  have told : (engine σ).bytesRemaining data cursor =
      .done (some (cursor.remaining data.size)) :=
    if_neg (by simpa [Overrun] using inside)
  rw [Engine.remaining, told]

theorem not_overrun_of_remaining {data : ByteArray} {cursor : Cursor} {left : Nat}
    (known : (engine σ).remaining data cursor = some left) : ¬Overrun data cursor := by
  intro overrun
  have told : (engine σ).bytesRemaining data cursor = .broke :=
    bytesRemaining_eq_broke_iff.mpr overrun
  rw [Engine.remaining, told] at known
  cases known

@[simp]
theorem record_readAt (want offset : Nat) (data : ByteArray) (cursor : Cursor) :
    (readAt want offset data cursor).record = data := by
  unfold readAt
  split
  · rfl
  · split <;> rfl

/-- The bytes in memory never change. -/
theorem record_use {τ : Type} [Sink τ] (pool : Pool (engine σ)) {use : Use σ τ}
    (spares : use.Spares fun _ => True) : (pool.use use).2.record = pool.record := by
  cases found : pool.cursor? use.index with
  | none => exact Pool.record_use_of_closed found
  | some cursor =>
      have acts := Pool.acts_of_open found
      generalize pool.use use = out at acts ⊢
      cases acts with
      | read index buffer => exact record_read _ _ _
      | readAt index buffer offset => exact record_readAt _ _ _ _
      | seek index offset whence => exact record_seek _ _
      | writeTo index sink => exact spares.elim
      | _ => rfl

/-- Offering fails only as the sink does. -/
theorem accounts_spill {τ : Type} [Sink τ] (data : ByteArray) (tries total : Nat) (sink : τ)
    (cursor : Cursor) :
    Accounts false (fun _ => false) (some .writeTo) data
      (spill data tries total sink cursor).1.record
      (spill data tries total sink cursor).1.reply := by
  have refused (fault : Fault) :
      Accounts false (fun _ => false) (some .writeTo) data data
        (.failed ⟨.writeTo, .fault fault⟩ : Reply Nat) :=
    .failed (.fault fault rfl) rfl
  induction tries generalizing total sink cursor with
  | zero => exact .broke
  | succ tries ih =>
      unfold spill
      split
      · exact .broke
      · split
        · exact .done total rfl
        · split
          · exact refused _
          · split
            · exact .broke
            · exact ih _ _ _
          · split
            · exact ih _ _ _
            · exact refused _
          · exact .broke

/-- A willing sink takes all that is left, and the copy follows it. -/
theorem spill_willing {τ : Type} [Sink τ] {willing : τ → Prop} {content : τ → List UInt8}
    (sinks : Sink.Willing willing content) (data : ByteArray) (tries total : Nat) {sink : τ}
    (ready : willing sink) {cursor : Cursor} (inside : cursor.offset ≤ data.size)
    (enough : data.size - cursor.offset + Sink.patience sink < tries) :
    ∃ next, spill data tries total sink cursor =
        (⟨.done (total + (data.size - cursor.offset)), data,
          { cursor with offset := data.size }, []⟩, next) ∧
      willing next ∧ content next = content sink ++ data.data.toList.drop cursor.offset := by
  induction tries generalizing total sink cursor with
  | zero => cases enough
  | succ tries ih =>
      have size_eq : data.data.toList.length = data.size := by simp
      unfold spill
      rw [if_neg (Nat.not_lt.mpr inside)]
      split
      · rename_i stands
        have spent : data.data.toList.drop cursor.offset = [] :=
          List.drop_eq_nil_iff.mpr (by omega)
        rw [spent, List.append_nil, stands, Nat.sub_self]
        exact ⟨sink, rfl, ready, rfl⟩
      · rename_i more
        have takes : Sink.Takes willing content data cursor.offset sink :=
          sinks.takes ready (by omega)
        rcases offer : Sink.write data cursor.offset sink with ⟨answer, next⟩
        cases takes with
        | interrupted fails again fewer still kept =>
            rw [offer] at fails fewer still kept
            subst fails
            dsimp only
            rw [if_pos again]
            dsimp only at fewer
            have left : data.size - cursor.offset + Sink.patience next < tries := by omega
            obtain ⟨last, spills, willing, content_eq⟩ := ih total still inside left
            exact ⟨last, spills, willing, by rw [content_eq, kept]⟩
        | @taken count takes some_bytes offered patient still kept =>
            rw [offer] at takes patient still kept
            subst takes
            dsimp only at patient
            obtain ⟨fewer, rfl⟩ : ∃ fewer, count = fewer + 1 := Nat.exists_eq_add_one.mpr some_bytes
            have onwards : cursor.offset + (fewer + 1) ≤ data.size := by omega
            have left : data.size - (cursor.offset + (fewer + 1)) + Sink.patience next < tries := by
              omega
            obtain ⟨last, spills, willing, content_eq⟩ := ih (total + (fewer + 1)) still
              (show ({ cursor with offset := cursor.offset + (fewer + 1) } : Cursor).offset ≤
                data.size from onwards) left
            have sum : total + (fewer + 1) + (data.size - (cursor.offset + (fewer + 1))) =
                total + (data.size - cursor.offset) := by omega
            have fits : ¬max data.size maxOffset < cursor.offset + (fewer + 1) := by omega
            simp only [fits, if_false]
            refine ⟨last, ?_, willing, ?_⟩
            · rw [spills, sum]
            · have rest : data.data.toList.drop cursor.offset =
                  span data.data.toList cursor.offset (cursor.offset + (fewer + 1)) ++
                    data.data.toList.drop (cursor.offset + (fewer + 1)) := by
                rw [span, Nat.add_sub_cancel_left, ← List.drop_drop, List.take_append_drop]
              rw [content_eq, kept, List.append_assoc, rest]

/-- Reading out what is left to a willing sink. -/
theorem writeTo_willing {τ : Type} [Sink τ] {willing : τ → Prop} {content : τ → List UInt8}
    (sinks : Sink.Willing willing content) (data : ByteArray) {sink : τ} (ready : willing sink)
    {cursor : Cursor} (going : cursor.ended = false) (inside : cursor.offset ≤ data.size) :
    ∃ next, writeTo sink data cursor =
        (⟨.done (data.size - cursor.offset), data, { cursor with offset := data.size }, []⟩,
          next) ∧
      willing next ∧ content next = content sink ++ data.data.toList.drop cursor.offset := by
  have enough : data.size - cursor.offset + Sink.patience sink <
      data.size + Sink.patience sink + 1 := by omega
  rw [writeTo, if_neg (by simp [going])]
  simpa using spill_willing sinks data _ 0 ready inside enough

/-- The calls of a body in memory account for how they come out. -/
theorem accountable {τ : Type} [Sink τ] (data : ByteArray) (cursor : Cursor) :
    (engine σ).Accountable τ false (fun _ => false) data cursor where
  read buffer := by
    change Accounts _ _ _ _ (read buffer.size data cursor).record
      (read buffer.size data cursor).reply
    have reads := reads buffer.size data cursor
    generalize read buffer.size data cursor = turn at reads ⊢
    cases reads with
    | ended => exact .failed (.endOfStream rfl (Or.inl rfl)) rfl
    | nothing => exact .done _ rfl
    | overrun => exact .broke
    | spent => exact .failed (.endOfStream rfl (Or.inl rfl)) rfl
    | gave => exact .done _ rfl
  readAt buffer offset := by
    change Accounts _ _ _ _ (readAt buffer.size offset data cursor).record
      (readAt buffer.size offset data cursor).reply
    unfold readAt
    split
    · exact .done _ rfl
    · split
      · exact .failed (.endOfStream rfl (Or.inr rfl)) rfl
      · exact .done _ rfl
  seek offset whence := cursor.accounts_seek (fun _ => false) data.size offset whence data
  writeTo sink := by
    change Accounts _ _ _ _ (writeTo sink data cursor).1.record (writeTo sink data cursor).1.reply
    unfold writeTo
    split
    · exact .done 0 rfl
    · exact accounts_spill data _ 0 sink cursor
  copy := .done cursor rfl
  close := .done () rfl
  visit _ := .done none rfl

end Memory

end Payload
