import Payload.Proofs.Buffered.Uses
import Payload.Proofs.Sliding

/-!
# What a buffered body holds

A buffered body keeps what its slowest copy has not read yet.  The bytes before that are dead, and
stay in the window only while they are fewer than those kept.  No use changes that, not even one
that breaks off half way: a body holds at most twice the bytes that it keeps.
-/

namespace Payload.Buffered

variable {σ : Type} {record : Buffered σ}

theorem tight_trim? {trimmed : Buffered σ} {notes : List Note}
    (trimming : record.trim? = some (trimmed, notes)) (tight : record.window.Tight) :
    trimmed.window.Tight := by
  unfold trim? at trimming
  split at trimming
  · cases trimming
    exact tight
  · rename_i least _
    split at trimming
    · cases trimming
    · split at trimming
      · cases trimming
        exact tight
      · obtain ⟨window, taken, same⟩ := Option.map_eq_some_iff.mp trimming
        cases same
        have slid : record.window.slide? (.trim least) = some window := taken
        exact tight.slide slid

theorem tight_advance? {first last : Nat} {moved : Buffered σ} {notes : List Note}
    (moving : record.advance? first last = some (moved, notes)) (tight : record.window.Tight) :
    moved.window.Tight := by
  unfold advance? at moving
  split at moving
  · cases moving
    exact tight
  · split at moving
    · dsimp only at moving
      split at moving
      · exact tight_trim? moving tight
      · cases moving
        exact tight
    · cases moving

/-- Room that was made is filled and given back, or all of it stays where the fill breaks off. -/
theorem tight_settle {window : Window} (tight : window.Tight) {count : Nat}
    (grown : record.window = window.grow count) {bytes : ByteArray} (fits : bytes.size ≤ count)
    (reaches : Bool) (stopped : Option Terminal) :
    (record.settle count reaches bytes stopped).record.window.Tight := by
  unfold settle
  split
  · change record.window.Tight
    rw [grown]
    exact tight.grow count
  · rename_i shrunk shrinking
    rw [grown] at shrinking
    have slid : window.slide?
        (.extend count bytes fits (count - bytes.size) (Nat.sub_le _ _)) = some shrunk := shrinking
    exact tight.slide slid

theorem tight_deliver (tight : record.window.Tight) (goal : Nat) (cursor : Cursor) :
    (record.deliver goal cursor).record.window.Tight := by
  unfold deliver
  dsimp only
  split
  · rename_i moving
    exact tight_advance? moving tight
  · exact tight

theorem tight_copy (tight : record.window.Tight) (cursor : Cursor) :
    (record.copy cursor).record.window.Tight := by
  unfold copy
  split <;> exact tight

section

variable [Source σ]

theorem tight_fill (tight : record.window.Tight) (shortfall : Nat) :
    (record.fill shortfall).record.window.Tight := by
  unfold fill
  split
  · generalize record.order shortfall = ordered
    obtain ⟨count, reaches⟩ := ordered
    dsimp only
    split
    · exact tight
    · split
      · rename_i nothing
        subst nothing
        exact tight_settle tight rfl (Nat.le_refl 0) _ _
      · rename_i some_bytes
        rw [take_eq _ some_bytes]
        split
        · rename_i drawn
          exact tight_settle tight rfl (size_le_of_draw_eq_some drawn) _ _
        · exact tight.grow _
  · exact tight

theorem tight_read (tight : record.window.Tight) (want : Nat) (cursor : Cursor) :
    (record.read want cursor).record.window.Tight := by
  unfold read
  split
  · exact tight
  · split
    · exact tight
    · split
      · exact tight
      · dsimp only
        split
        · have filled := tight_fill tight (cursor.offset + want - record.window.stop)
          split
          · exact tight_deliver filled _ _
          · exact filled
        · exact tight_deliver tight _ _

theorem tight_writeTo {τ : Type} [Sink τ] (tight : record.window.Tight) (sink : τ)
    (cursor : Cursor) : (record.writeTo sink cursor).1.record.window.Tight := by
  unfold writeTo
  dsimp only
  split
  · exact tight
  · exact pump_keeps _ (I := fun (current : Buffered σ) _ => current.window.Tight)
      (fun buffer _ cursor kept => tight_read kept buffer.size cursor) _ _ tight

theorem tight_close (tight : record.window.Tight) (cursor : Cursor) :
    (record.close cursor).record.window.Tight := by
  unfold close
  dsimp only
  split
  · split
    · rename_i trimming
      exact tight_trim? trimming tight
    · exact tight
  · exact Or.inl rfl

end

/-! ## Every run -/

section

variable {τ : Type} [Source σ] [Sink τ] {pool : Pool (engine σ)}

theorem tight_use (tight : pool.record.window.Tight) (use : Use σ τ) :
    (pool.use use).2.record.window.Tight := by
  cases found : pool.cursor? use.index with
  | none =>
      rw [Pool.record_use_of_closed found]
      exact tight
  | some cursor =>
      have acts := Pool.acts_of_open found
      generalize pool.use use = out at acts ⊢
      cases acts with
      | read index buffer => exact tight_read tight buffer.size cursor
      | readAt index buffer offset => exact tight
      | seek index offset whence => exact tight
      | writeTo index sink => exact tight_writeTo tight sink cursor
      | copied index => exact tight_copy tight cursor
      | uncopied index => exact tight_copy tight cursor
      | close index => exact tight_close tight cursor
      | drop index => exact tight_close tight cursor
      | visit index callback => exact tight

/-- Whatever is done with the copies of a buffered body, and whatever its source does: its window
has no dead bytes or fewer than it keeps, so the backing bytes are at most twice those kept. -/
theorem tight_afterRun_fresh (source : σ) (length : Option Nat) (blockSize : Nat)
    (uses : List (Use σ τ)) :
    let window := ((fresh source length blockSize).afterRun uses).record.window
    window.Tight ∧ window.data.size ≤ 2 * window.kept.length := by
  intro window
  have tight : window.Tight :=
    runAll_keeps (P := fun pool : Pool (engine σ) => pool.record.window.Tight)
      (fun use _ _ kept => tight_use kept use) (Or.inl rfl)
  rw [Window.length_kept]
  exact ⟨tight, tight.size_data_le⟩

end

end Payload.Buffered
