import Payload.Bytes

/-!
# A sliding window over a stream

A window keeps the consecutive bytes of a stream from `start` to `stop`.  Bytes come in at the end
and go at the front.  Trimming only moves `head` into the backing bytes; the bytes before it are
dropped when they have become as many as those kept, or when room at the end would otherwise have to
be bought.  When that happens cannot be seen from outside: what a window is to its users is `start`
and the list of the bytes kept, and there is one lemma for each operation on that list.

The operations whose argument can be out of range give nothing then.
-/

namespace Payload

structure Window where
  /-- The backing bytes, of which those before `head` are dead. -/
  data : ByteArray := .empty
  head : Nat := 0
  /-- The offset of the first byte kept. -/
  start : Nat := 0
  /-- The size up to which the backing bytes grow in place. -/
  capacity : Nat := 0
  head_le : head ≤ data.size := by exact Nat.zero_le _

namespace Window

/-- A window at the start of a stream that keeps nothing yet. -/
def empty : Window where

/-- The number of bytes kept. -/
def size (window : Window) : Nat :=
  window.data.size - window.head

/-- The offset after the last byte kept. -/
def stop (window : Window) : Nat :=
  window.start + window.size

/-- The bytes kept. -/
def kept (window : Window) : List UInt8 :=
  window.data.data.toList.drop window.head

@[simp]
theorem kept_empty : empty.kept = [] :=
  rfl

theorem length_kept (window : Window) : window.kept.length = window.size := by
  simp [kept, size]

theorem stop_eq (window : Window) : window.stop = window.start + window.kept.length := by
  rw [length_kept, stop]

/-- The bytes between two offsets. -/
def slice? (window : Window) (first last : Nat) : Option ByteArray :=
  if window.start ≤ first ∧ first ≤ last ∧ last ≤ window.stop then
    some (window.data.extract
      (window.head + (first - window.start)) (window.head + (last - window.start)))
  else
    none

theorem slice?_isSome_iff {window : Window} {first last : Nat} :
    (window.slice? first last).isSome ↔
      window.start ≤ first ∧ first ≤ last ∧ last ≤ window.stop := by
  unfold slice?
  split <;> simp_all

theorem toList_of_slice?_eq_some {window : Window} {first last : Nat} {bytes : ByteArray}
    (sliced : window.slice? first last = some bytes) :
    bytes.data.toList =
      (window.kept.drop (first - window.start)).take (last - first) := by
  unfold slice? at sliced
  split at sliced
  · rename_i bounded
    cases sliced
    have width : window.head + (last - window.start) - (window.head + (first - window.start)) =
        last - first := by
      omega
    simp only [ByteArray.data_extract, Array.toList_extract, List.extract_eq_take_drop, kept,
      List.drop_drop, width]
  · cases sliced

/-! ## Growing at the end -/

/-- Drop the dead bytes. -/
def compact (window : Window) : Window :=
  { window with
    data := window.data.extract window.head window.data.size
    head := 0
    head_le := Nat.zero_le _ }

@[simp]
theorem start_compact (window : Window) : window.compact.start = window.start :=
  rfl

@[simp]
theorem kept_compact (window : Window) : window.compact.kept = window.kept := by
  have all : window.data.size - window.head =
      (window.data.data.toList.drop window.head).length := by
    simp
  simp only [compact, kept, ByteArray.data_extract, Array.toList_extract, List.extract_eq_take_drop,
    List.drop_zero, all, List.take_length]

/-- The window with the dead bytes dropped if room for `count` more has to be bought. -/
def prepare (window : Window) (count : Nat) : Window :=
  if 0 < window.head ∧ window.capacity < window.data.size + count then window.compact else window

@[simp]
theorem start_prepare (window : Window) (count : Nat) :
    (window.prepare count).start = window.start := by
  unfold prepare
  split <;> rfl

@[simp]
theorem kept_prepare (window : Window) (count : Nat) :
    (window.prepare count).kept = window.kept := by
  unfold prepare
  split
  · exact window.kept_compact
  · rfl

/-- Add bytes at the end. -/
def append (window : Window) (bytes : ByteArray) : Window :=
  { window with
    data := window.data ++ bytes
    capacity := max window.capacity (window.data.size + bytes.size)
    head_le := by
      rw [ByteArray.size_append]
      exact Nat.le_add_right_of_le window.head_le }

@[simp]
theorem start_append (window : Window) (bytes : ByteArray) :
    (window.append bytes).start = window.start :=
  rfl

@[simp]
theorem kept_append (window : Window) (bytes : ByteArray) :
    (window.append bytes).kept = window.kept ++ bytes.data.toList := by
  have within : window.head ≤ window.data.data.toList.length := by
    simpa using window.head_le
  simp only [kept, append, ByteArray.data_append, Array.toList_append]
  exact List.drop_append_of_le_length within

/-- Add so many zero bytes at the end, to be filled. -/
def grow (window : Window) (count : Nat) : Window :=
  (window.prepare count).append (zeros count)

@[simp]
theorem start_grow (window : Window) (count : Nat) :
    (window.grow count).start = window.start := by
  simp [grow]

@[simp]
theorem kept_grow (window : Window) (count : Nat) :
    (window.grow count).kept = window.kept ++ List.replicate count 0 := by
  simp [grow]

/-- Put bytes at the front of the last `count`, as far as there is room. -/
def fill (window : Window) (count : Nat) (bytes : ByteArray) : Window :=
  { window with
    data := bytes.copySlice 0 window.data (window.data.size - count) (min bytes.size count)
    head_le := by
      have within := window.head_le
      simp only [ByteArray.copySlice_eq_append, ByteArray.size_append, ByteArray.size_extract,
        ByteArray.size_data]
      omega }

@[simp]
theorem start_fill (window : Window) (count : Nat) (bytes : ByteArray) :
    (window.fill count bytes).start = window.start :=
  rfl

theorem kept_fill {window : Window} {count : Nat} {bytes : ByteArray}
    (fits : bytes.size ≤ count) (room : count ≤ window.size) :
    (window.fill count bytes).kept =
      window.kept.take (window.size - count) ++ bytes.data.toList ++
        window.kept.drop (window.size - count + bytes.size) := by
  have headWithin := window.head_le
  unfold size at room
  have front : window.head ≤ (window.data.data.toList.take (window.data.size - count)).length := by
    simp only [List.length_take, Array.length_toList, ByteArray.size_data]
    omega
  have place : window.head + (window.data.size - window.head - count + bytes.size) =
      window.data.size - count + bytes.size := by
    omega
  have lead : window.data.size - count - window.head =
      window.data.size - window.head - count := by
    omega
  simp only [kept, fill, size, ByteArray.copySlice_eq_append, ByteArray.data_append,
    ByteArray.data_extract, Array.toList_append, Array.toList_extract, List.extract_eq_take_drop,
    ByteArray.size_data, List.drop_zero, Nat.sub_zero, Nat.zero_add, Nat.min_eq_left fits,
    Nat.min_self, List.drop_drop, place, List.append_assoc]
  have bytesWhole : bytes.data.toList.take bytes.size = bytes.data.toList :=
    List.take_of_length_le (by simp)
  have restWhole : (window.data.data.toList.drop (window.data.size - count + bytes.size)).take
      (window.data.size - (window.data.size - count + bytes.size)) =
        window.data.data.toList.drop (window.data.size - count + bytes.size) :=
    List.take_of_length_le (by simp)
  rw [List.drop_append_of_le_length front, List.drop_take, lead, bytesWhole, restWhole]

/-! ## Taking off at either end -/

/-- Take bytes off the end. -/
def shrinkTail? (window : Window) (count : Nat) : Option Window :=
  if within : count ≤ window.size then
    some
      { window with
        data := window.data.extract 0 (window.data.size - count)
        head_le := by
          have headWithin := window.head_le
          unfold size at within
          rw [ByteArray.size_extract]
          omega }
  else
    none

theorem shrinkTail?_isSome_iff {window : Window} {count : Nat} :
    (window.shrinkTail? count).isSome ↔ count ≤ window.size := by
  unfold shrinkTail?
  split <;> simp_all

theorem of_shrinkTail?_eq_some {window shrunk : Window} {count : Nat}
    (shrinking : window.shrinkTail? count = some shrunk) :
    shrunk.start = window.start ∧ shrunk.kept = window.kept.take (window.size - count) := by
  unfold shrinkTail? at shrinking
  split at shrinking
  · cases shrinking
    refine ⟨rfl, ?_⟩
    have lead : window.data.size - count - window.head =
        window.data.size - window.head - count := by
      omega
    simp only [kept, size, ByteArray.data_extract, Array.toList_extract,
      List.extract_eq_take_drop, List.drop_zero, Nat.sub_zero, List.drop_take, lead]
  · cases shrinking

/-- Making room, filling part of it and giving the rest back appends the bytes. -/
theorem shrinkTail?_fill_grow (window : Window) {count : Nat} {bytes : ByteArray}
    (fits : bytes.size ≤ count) :
    ∃ grown, ((window.grow count).fill count bytes).shrinkTail? (count - bytes.size) = some grown ∧
      grown.start = window.start ∧ grown.kept = window.kept ++ bytes.data.toList := by
  have grownSize : (window.grow count).size = window.size + count := by
    rw [← length_kept, kept_grow, List.length_append, List.length_replicate, length_kept]
  have room : count ≤ (window.grow count).size := by
    omega
  have filled := kept_fill fits room
  have filledSize : ((window.grow count).fill count bytes).size = window.size + count := by
    rw [← length_kept, filled]
    simp only [List.length_append, List.length_take, List.length_drop, length_kept,
      Array.length_toList, ByteArray.size_data]
    omega
  have enough : count - bytes.size ≤ ((window.grow count).fill count bytes).size := by
    omega
  obtain ⟨grown, shrinking⟩ := Option.isSome_iff_exists.mp (shrinkTail?_isSome_iff.mpr enough)
  obtain ⟨start_eq, kept_eq⟩ := of_shrinkTail?_eq_some shrinking
  refine ⟨grown, shrinking, by simpa using start_eq, ?_⟩
  have lead : (window.grow count).size - count = window.kept.length := by
    rw [length_kept]
    omega
  rw [kept_eq, filled, lead, kept_grow, List.take_append_of_le_length (Nat.le_refl _),
    List.take_length]
  have all : ((window.grow count).fill count bytes).size - (count - bytes.size) =
      (window.kept ++ bytes.data.toList).length := by
    simp only [List.length_append, length_kept, Array.length_toList, ByteArray.size_data]
    omega
  rw [all, List.take_append_of_le_length (Nat.le_refl _), List.take_length]

/-- Drop the bytes before an offset. -/
def trimTo? (window : Window) (offset : Nat) : Option Window :=
  if within : window.start ≤ offset ∧ offset ≤ window.stop then
    let trimmed : Window :=
      { window with
        head := window.head + (offset - window.start)
        start := offset
        head_le := by
          have headWithin := window.head_le
          have bound := within.2
          unfold stop size at bound
          omega }
    if trimmed.head = trimmed.data.size then
      some { start := offset, capacity := window.capacity }
    else if trimmed.size ≤ trimmed.head then
      some trimmed.compact
    else
      some trimmed
  else
    none

theorem trimTo?_isSome_iff {window : Window} {offset : Nat} :
    (window.trimTo? offset).isSome ↔ window.start ≤ offset ∧ offset ≤ window.stop := by
  unfold trimTo?
  split
  · rename_i within
    simp only [within, and_self, iff_true]
    split
    · rfl
    · split <;> rfl
  · simp_all

/-- Trimming keeps what lies at and after the offset, whatever becomes of the backing bytes. -/
theorem of_trimTo?_eq_some {window trimmed : Window} {offset : Nat}
    (trimming : window.trimTo? offset = some trimmed) :
    trimmed.start = offset ∧ trimmed.kept = window.kept.drop (offset - window.start) := by
  unfold trimTo? at trimming
  split at trimming
  · dsimp only at trimming
    split at trimming
    · rename_i drained
      cases trimming
      refine ⟨rfl, ?_⟩
      simp only [kept, List.drop_drop, drained]
      simp
    · split at trimming
      · cases trimming
        refine ⟨rfl, ?_⟩
        rw [kept_compact]
        simp [kept, List.drop_drop]
      · cases trimming
        exact ⟨rfl, by simp [kept, List.drop_drop]⟩
  · cases trimming

/-- Trimming works at every offset that is kept or comes next, and the end stays. -/
theorem exists_trimTo?_eq_some {window : Window} {offset : Nat} (above : window.start ≤ offset)
    (within : offset ≤ window.stop) :
    ∃ trimmed, window.trimTo? offset = some trimmed ∧ trimmed.start = offset ∧
      trimmed.kept = window.kept.drop (offset - window.start) ∧ trimmed.stop = window.stop := by
  obtain ⟨trimmed, trimming⟩ :=
    Option.isSome_iff_exists.mp (trimTo?_isSome_iff.mpr ⟨above, within⟩)
  obtain ⟨start_eq, kept_eq⟩ := of_trimTo?_eq_some trimming
  refine ⟨trimmed, trimming, start_eq, kept_eq, ?_⟩
  rw [stop_eq] at within
  rw [stop_eq, stop_eq, start_eq, kept_eq, List.length_drop]
  omega

/-- Drop all bytes.  The stream goes on where it was. -/
def clear (window : Window) : Window :=
  { start := window.stop }

@[simp]
theorem start_clear (window : Window) : window.clear.start = window.stop :=
  rfl

@[simp]
theorem kept_clear (window : Window) : window.clear.kept = [] :=
  rfl

end Window

end Payload
