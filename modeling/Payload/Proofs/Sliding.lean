import Payload.Window

/-!
# A window is a queue that counts what has left it

To its users a window is the offset of its first byte and the bytes it keeps, and so is a plain
queue of bytes.  The two take the same steps: bytes come in at the end, as many as are left of the
room made for them, go at the front up to an offset, or all go at once.  When the dead bytes of a
window are dropped depends on the capacity that its backing bytes happen to have, so that may be any
before each step; it never shows, and the dead bytes never get to be as many as those kept.
-/

namespace Payload

/-- The bytes of a stream from an offset on. -/
structure Queue where
  start : Nat := 0
  bytes : List UInt8 := []
  deriving DecidableEq, Repr

namespace Queue

/-- The offset after the last byte. -/
def stop (queue : Queue) : Nat :=
  queue.start + queue.bytes.length

/-- The bytes between two offsets. -/
def slice? (queue : Queue) (first last : Nat) : Option (List UInt8) :=
  if queue.start ≤ first ∧ first ≤ last ∧ last ≤ queue.stop then
    some ((queue.bytes.drop (first - queue.start)).take (last - first))
  else
    none

/-- Add bytes at the end. -/
def append (queue : Queue) (bytes : List UInt8) : Queue :=
  { queue with bytes := queue.bytes ++ bytes }

/-- Drop the bytes before an offset, which must be that of a byte or the one after the last. -/
def trimTo? (queue : Queue) (offset : Nat) : Option Queue :=
  if queue.start ≤ offset ∧ offset ≤ queue.stop then
    some ⟨offset, queue.bytes.drop (offset - queue.start)⟩
  else
    none

/-- Drop all bytes. -/
def clear (queue : Queue) : Queue :=
  ⟨queue.stop, []⟩

end Queue

/-! ## Steps -/

/-- A change to a window that its users can ask for. -/
inductive Slide where
  /-- Make room for `count` bytes at the end, write to the front of it and give the last `surplus`
  of it back. -/
  | extend (count : Nat) (content : ByteArray) (fits : content.size ≤ count) (surplus : Nat)
      (within : surplus ≤ count)
  | trim (offset : Nat)
  | clear

/-- What is left of room for `count` bytes: what was written to the front of it and zeros after
that, but for the surplus. -/
def Slide.left (count : Nat) (content : ByteArray) (surplus : Nat) : List UInt8 :=
  (content.data.toList ++ List.replicate (count - content.size) 0).take (count - surplus)

def Queue.slide? (queue : Queue) : Slide → Option Queue
  | .extend count content _ surplus _ => some (queue.append (Slide.left count content surplus))
  | .trim offset => queue.trimTo? offset
  | .clear => some queue.clear

/-- The queue after these changes, if none of them is out of range. -/
def Queue.slides? (queue : Queue) : List Slide → Option Queue
  | [] => some queue
  | slide :: rest => (queue.slide? slide).bind fun next => next.slides? rest

namespace Window

/-- The window with another capacity. -/
def withCapacity (window : Window) (capacity : Nat) : Window :=
  { window with capacity }

/-- The room for `count` bytes at the end of a window, with these bytes written to it. -/
def extended (window : Window) (count : Nat) (content : ByteArray) : Window :=
  (window.grow count).fill count content

def slide? (window : Window) : Slide → Option Window
  | .extend count content _ surplus _ => (window.extended count content).shrinkTail? surplus
  | .trim offset => window.trimTo? offset
  | .clear => some window.clear

/-- The window after these changes, if none of them is out of range, with the capacity that it has
before each of them. -/
def slides? (window : Window) : List (Nat × Slide) → Option Window
  | [] => some window
  | (capacity, slide) :: rest =>
    ((window.withCapacity capacity).slide? slide).bind fun next => next.slides? rest

/-- What a window is to its users. -/
def queue (window : Window) : Queue :=
  ⟨window.start, window.kept⟩

theorem stop_queue (window : Window) : window.queue.stop = window.stop :=
  window.stop_eq.symm

/-! ## The same step -/

theorem size_grow (window : Window) (count : Nat) :
    (window.grow count).size = window.size + count := by
  rw [← length_kept, kept_grow, List.length_append, List.length_replicate, length_kept]

theorem kept_extended (window : Window) {count : Nat} {content : ByteArray}
    (fits : content.size ≤ count) :
    (window.extended count content).kept =
      window.kept ++
        (content.data.toList ++ List.replicate (count - content.size) (0 : UInt8)) := by
  have size := window.size_grow count
  have front : (window.grow count).size - count = window.kept.length := by
    rw [size, length_kept, Nat.add_sub_cancel]
  rw [extended, kept_fill fits (by omega), front, kept_grow, List.take_left, List.append_assoc,
    ← List.drop_drop, List.drop_left, List.drop_replicate]

theorem size_extended (window : Window) {count : Nat} {content : ByteArray}
    (fits : content.size ≤ count) :
    (window.extended count content).size = window.size + count := by
  rw [← length_kept, kept_extended window fits, ← length_kept]
  simp only [List.length_append, List.length_replicate, Array.length_toList, ByteArray.size_data]
  omega

/-- What is left of the room is what comes in at the end. -/
theorem exists_extend (window : Window) {count : Nat} {content : ByteArray}
    (fits : content.size ≤ count) {surplus : Nat} (within : surplus ≤ count) :
    ∃ next, (window.extended count content).shrinkTail? surplus = some next ∧
      next.queue = window.queue.append (Slide.left count content surplus) := by
  have size := window.size_extended fits
  have room : surplus ≤ (window.extended count content).size := by
    omega
  obtain ⟨next, shrinking⟩ := Option.isSome_iff_exists.mp (shrinkTail?_isSome_iff.mpr room)
  obtain ⟨start_eq, kept_eq⟩ := of_shrinkTail?_eq_some shrinking
  have start_extended : (window.extended count content).start = window.start :=
    window.start_grow count
  have taken : (window.extended count content).size - surplus =
      window.kept.length + (count - surplus) := by
    rw [size, length_kept]
    omega
  rw [taken, kept_extended window fits, List.take_length_add_append] at kept_eq
  refine ⟨next, shrinking, ?_⟩
  rw [queue, start_eq, kept_eq, start_extended]
  rfl

/-- A window and the queue that it is take a step together, or neither of them does. -/
theorem map_queue_slide? (window : Window) (slide : Slide) :
    (window.slide? slide).map queue = window.queue.slide? slide := by
  cases slide with
  | extend count content fits surplus within =>
      obtain ⟨next, taken, same⟩ := window.exists_extend fits within
      rw [slide?, taken, Option.map_some, same]
      rfl
  | trim offset =>
      rw [slide?, Queue.slide?, Queue.trimTo?, stop_queue]
      split
      · rename_i bounded
        obtain ⟨trimmed, trimming, start_eq, kept_eq, -⟩ :=
          exists_trimTo?_eq_some bounded.1 bounded.2
        rw [trimming, Option.map_some, queue, start_eq, kept_eq]
        rfl
      · rename_i beyond
        have refused : window.trimTo? offset = none :=
          Option.not_isSome_iff_eq_none.mp fun there => beyond (trimTo?_isSome_iff.mp there)
        rw [refused]
        rfl
  | clear =>
      rw [slide?, Queue.slide?, Option.map_some, Queue.clear, stop_queue]
      rfl

/-- The same for any number of steps, whatever the capacity before each of them. -/
theorem map_queue_slides? (window : Window) (slides : List (Nat × Slide)) :
    (window.slides? slides).map queue = window.queue.slides? (slides.map Prod.snd) := by
  induction slides generalizing window with
  | nil => rfl
  | cons first rest ih =>
      obtain ⟨capacity, slide⟩ := first
      have stepped : ((window.withCapacity capacity).slide? slide).map queue =
          window.queue.slide? slide := map_queue_slide? _ slide
      rw [slides?, List.map_cons, Queue.slides?, ← stepped]
      cases (window.withCapacity capacity).slide? slide with
      | none => rfl
      | some next => exact ih next

theorem map_slice? (window : Window) (first last : Nat) :
    (window.slice? first last).map (fun bytes => bytes.data.toList) =
      window.queue.slice? first last := by
  rw [Queue.slice?, stop_queue]
  split
  · rename_i bounded
    obtain ⟨bytes, sliced⟩ := Option.isSome_iff_exists.mp (slice?_isSome_iff.mpr bounded)
    rw [sliced, Option.map_some, toList_of_slice?_eq_some sliced]
    rfl
  · rename_i beyond
    have refused : window.slice? first last = none :=
      Option.not_isSome_iff_eq_none.mp fun there => beyond (slice?_isSome_iff.mp there)
    rw [refused]
    rfl

/-! ## Dead bytes -/

/-- There are no dead bytes, or fewer than are kept. -/
def Tight (window : Window) : Prop :=
  window.head = 0 ∨ window.head < window.size

theorem Tight.size_data_le {window : Window} (tight : window.Tight) :
    window.data.size ≤ 2 * window.size := by
  have split : window.data.size = window.head + window.size :=
    (Nat.add_sub_cancel' window.head_le).symm
  rcases tight with none | fewer
  · omega
  · omega

/-- To grow does not lead past this, for dead bytes are dropped or stay, and those kept stay too. -/
theorem Tight.of_longer {window next : Window} (tight : window.Tight) {count : Nat}
    (head_eq : next.head = (window.prepare count).head) (longer : window.size ≤ next.size) :
    next.Tight := by
  unfold Tight
  rw [head_eq, prepare]
  split
  · exact Or.inl rfl
  · exact tight.imp_right fun fewer => Nat.lt_of_lt_of_le fewer longer

theorem Tight.grow {window : Window} (tight : window.Tight) (count : Nat) :
    (window.grow count).Tight :=
  tight.of_longer rfl (by rw [size_grow]; exact Nat.le_add_right _ _)

theorem Tight.extended {window : Window} (tight : window.Tight) {count : Nat}
    {content : ByteArray} (fits : content.size ≤ count) :
    (window.extended count content).Tight :=
  tight.of_longer rfl (by rw [size_extended window fits]; exact Nat.le_add_right _ _)

/-- No step leaves as many dead bytes as are kept. -/
theorem Tight.slide {window next : Window} (tight : window.Tight) {slide : Slide}
    (taken : window.slide? slide = some next) : next.Tight := by
  cases slide with
  | extend count content fits surplus within =>
      have head_eq : next.head = (window.prepare count).head := by
        rw [slide?, shrinkTail?] at taken
        split at taken
        · cases taken
          rfl
        · cases taken
      obtain ⟨last, shrinking, same⟩ := window.exists_extend fits within
      obtain rfl := Option.some.inj (shrinking.symm.trans taken)
      have kept_eq : last.kept = window.kept ++ Slide.left count content surplus :=
        congrArg Queue.bytes same
      refine tight.of_longer head_eq ?_
      rw [← length_kept, ← length_kept, kept_eq, List.length_append]
      exact Nat.le_add_right _ _
  | trim offset =>
      rw [slide?, trimTo?] at taken
      split at taken
      · dsimp only at taken
        split at taken
        · cases taken
          exact Or.inl rfl
        · split at taken
          · cases taken
            exact Or.inl rfl
          · rename_i above
            cases taken
            exact Or.inr (Nat.lt_of_not_le above)
      · cases taken
  | clear =>
      cases taken
      exact Or.inl rfl

theorem Tight.slides {window next : Window} (tight : window.Tight) {slides : List (Nat × Slide)}
    (taken : window.slides? slides = some next) : next.Tight := by
  induction slides generalizing window with
  | nil =>
      cases taken
      exact tight
  | cons first rest ih =>
      obtain ⟨between, once, onwards⟩ := Option.bind_eq_some_iff.mp taken
      have same : (window.withCapacity first.1).Tight := tight
      exact ih (same.slide once) onwards

/-! ## Every sequence of steps -/

/-- A window that is this queue to its users, also while room at its end is made and written to, and
holds at most twice the bytes of it. -/
structure Shows (window : Window) (queue : Queue) : Prop where
  start : window.start = queue.start
  stop : window.stop = queue.stop
  slice : ∀ first last,
    (window.slice? first last).map (fun bytes => bytes.data.toList) = queue.slice? first last
  compact : window.compact.queue = queue
  tight : window.Tight
  size_data_le : window.data.size ≤ 2 * window.size
  grown : ∀ capacity count,
    let grown := (window.withCapacity capacity).grow count
    grown.queue = queue.append (List.replicate count 0) ∧ grown.Tight
  written : ∀ capacity count (content : ByteArray), content.size ≤ count →
    let written := (window.withCapacity capacity).extended count content
    written.queue = queue.append (Slide.left count content 0) ∧ written.Tight

theorem Tight.shows {window : Window} (tight : window.Tight) : window.Shows window.queue where
  start := rfl
  stop := window.stop_eq
  slice := window.map_slice?
  compact := congrArg (Queue.mk window.start) window.kept_compact
  tight := tight
  size_data_le := tight.size_data_le
  grown capacity count := by
    have same : (window.withCapacity capacity).Tight := tight
    refine ⟨?_, same.grow count⟩
    rw [queue, start_grow, kept_grow]
    rfl
  written capacity count content fits := by
    have same : (window.withCapacity capacity).Tight := tight
    refine ⟨?_, same.extended fits⟩
    have whole : Slide.left count content 0 =
        content.data.toList ++ List.replicate (count - content.size) 0 :=
      List.take_of_length_le (by simp; omega)
    rw [queue, kept_extended _ fits, whole]
    exact congrArg (fun start => Queue.mk start _) (start_grow _ count)

/-- Whatever steps are taken from the start of a stream, and whatever capacity there is before each
of them: a window takes them all if the queue does, and then shows what the queue has; and if one of
them is out of range for the queue, it is so for the window. -/
theorem slides_empty_shows (slides : List (Nat × Slide)) :
    (Queue.slides? {} (slides.map Prod.snd) = none ∧ empty.slides? slides = none) ∨
      ∃ queue window, Queue.slides? {} (slides.map Prod.snd) = some queue ∧
        empty.slides? slides = some window ∧ window.Shows queue := by
  have same := map_queue_slides? empty slides
  change _ = Queue.slides? {} (slides.map Prod.snd) at same
  rw [← same]
  cases taken : empty.slides? slides with
  | none => exact Or.inl ⟨rfl, rfl⟩
  | some window =>
      have begun : empty.Tight := Or.inl rfl
      exact Or.inr ⟨window.queue, window, rfl, rfl, (begun.slides taken).shows⟩

/-- The same four steps with the dead byte dropped when room is made and with it kept. -/
example :
    let bytes : ByteArray := ⟨#[1, 2, 3]⟩
    let slides (capacity : Nat) : List (Nat × Slide) :=
      [(0, .extend 3 bytes (by decide) 0 (by decide)), (0, .trim 1),
        (capacity, .extend 4 bytes (by decide) 2 (by decide)), (0, .trim 2)]
    let taken (capacity : Nat) := empty.slides? (slides capacity)
    (taken 0).map head = some 1 ∧ (taken 9).map head = some 2 ∧
      (taken 0).map queue = some ⟨2, [3, 1, 2]⟩ ∧
      (taken 9).map queue = some ⟨2, [3, 1, 2]⟩ := by
  decide +kernel

end Window

end Payload
