/-!
# A tally of offsets

A tally counts how many cursors stand at each offset, the least offset first.  It holds no offset
that nobody stands at.  To its users it is the function `count`; attaching and releasing a cursor
change that function at one offset by one.
-/

namespace Payload

namespace Tally

/-- One more cursor at `offset`. -/
def insert (offset : Nat) : List (Nat × Nat) → List (Nat × Nat)
  | [] => [(offset, 1)]
  | (first, count) :: rest =>
    if offset < first then (offset, 1) :: (first, count) :: rest
    else if offset = first then (first, count + 1) :: rest
    else (first, count) :: insert offset rest

/-- One cursor fewer at `offset`. -/
def remove (offset : Nat) : List (Nat × Nat) → List (Nat × Nat)
  | [] => []
  | (first, count) :: rest =>
    if offset = first then
      if count ≤ 1 then rest else (first, count - 1) :: rest
    else (first, count) :: remove offset rest

/-- How many cursors a list of entries has at `offset`. -/
def countIn (offset : Nat) : List (Nat × Nat) → Nat
  | [] => 0
  | (first, count) :: rest => if offset = first then count else countIn offset rest

/-- Offsets that ascend, each with at least one cursor. -/
structure Ordered (entries : List (Nat × Nat)) : Prop where
  ascending : entries.Pairwise fun first second => first.1 < second.1
  positive : ∀ entry ∈ entries, 0 < entry.2

/-! ## Lists of entries -/

theorem Ordered.nil : Ordered [] :=
  ⟨List.Pairwise.nil, by simp⟩

theorem ordered_cons_iff {entry : Nat × Nat} {rest : List (Nat × Nat)} :
    Ordered (entry :: rest) ↔
      0 < entry.2 ∧ (∀ later ∈ rest, entry.1 < later.1) ∧ Ordered rest := by
  constructor
  · rintro ⟨ascending, positive⟩
    rw [List.pairwise_cons] at ascending
    exact ⟨positive entry (by simp), ascending.1, ascending.2,
      fun later member => positive later (List.mem_cons_of_mem _ member)⟩
  · rintro ⟨entryPositive, below, ascending, positive⟩
    refine ⟨List.pairwise_cons.mpr ⟨below, ascending⟩, ?_⟩
    intro member inside
    rcases List.mem_cons.mp inside with rfl | inside
    · exact entryPositive
    · exact positive member inside

theorem fst_of_mem_insert {offset : Nat} {entries : List (Nat × Nat)} {entry : Nat × Nat}
    (member : entry ∈ insert offset entries) :
    entry.1 = offset ∨ ∃ old ∈ entries, old.1 = entry.1 := by
  induction entries with
  | nil =>
      simp only [insert, List.mem_singleton] at member
      exact Or.inl (by rw [member])
  | cons head rest ih =>
      rcases head with ⟨first, count⟩
      simp only [insert] at member
      split at member
      · rcases List.mem_cons.mp member with rfl | member
        · exact Or.inl rfl
        · exact Or.inr ⟨entry, member, rfl⟩
      · split at member
        · rcases List.mem_cons.mp member with rfl | member
          · exact Or.inr ⟨(first, count), by simp, rfl⟩
          · exact Or.inr ⟨entry, List.mem_cons_of_mem _ member, rfl⟩
        · rcases List.mem_cons.mp member with rfl | member
          · exact Or.inr ⟨(first, count), by simp, rfl⟩
          · rcases ih member with same | ⟨old, inside, same⟩
            · exact Or.inl same
            · exact Or.inr ⟨old, List.mem_cons_of_mem _ inside, same⟩

theorem fst_of_mem_remove {offset : Nat} {entries : List (Nat × Nat)} {entry : Nat × Nat}
    (member : entry ∈ remove offset entries) : ∃ old ∈ entries, old.1 = entry.1 := by
  induction entries with
  | nil => cases member
  | cons head rest ih =>
      rcases head with ⟨first, count⟩
      simp only [remove] at member
      split at member
      · split at member
        · exact ⟨entry, List.mem_cons_of_mem _ member, rfl⟩
        · rcases List.mem_cons.mp member with rfl | member
          · exact ⟨(first, count), by simp, rfl⟩
          · exact ⟨entry, List.mem_cons_of_mem _ member, rfl⟩
      · rcases List.mem_cons.mp member with rfl | member
        · exact ⟨(first, count), by simp, rfl⟩
        · rcases ih member with ⟨old, inside, same⟩
          exact ⟨old, List.mem_cons_of_mem _ inside, same⟩

theorem Ordered.insert (offset : Nat) {entries : List (Nat × Nat)} (ordered : Ordered entries) :
    Ordered (insert offset entries) := by
  induction entries with
  | nil => exact ordered_cons_iff.mpr ⟨Nat.one_pos, by simp, Ordered.nil⟩
  | cons head rest ih =>
      rcases head with ⟨first, count⟩
      have parts := ordered_cons_iff.mp ordered
      simp only [Tally.insert]
      split
      · rename_i before
        refine ordered_cons_iff.mpr ⟨Nat.one_pos, ?_, ordered⟩
        intro later member
        rcases List.mem_cons.mp member with rfl | member
        · exact before
        · exact Nat.lt_trans before (parts.2.1 later member)
      · split
        · exact ordered_cons_iff.mpr ⟨Nat.succ_pos _, parts.2.1, parts.2.2⟩
        · refine ordered_cons_iff.mpr ⟨parts.1, ?_, ih parts.2.2⟩
          intro later member
          rcases fst_of_mem_insert member with same | ⟨old, inside, same⟩
          · show first < later.1
            omega
          · rw [← same]
            exact parts.2.1 old inside

theorem Ordered.remove (offset : Nat) {entries : List (Nat × Nat)} (ordered : Ordered entries) :
    Ordered (remove offset entries) := by
  induction entries with
  | nil => exact Ordered.nil
  | cons head rest ih =>
      rcases head with ⟨first, count⟩
      have parts := ordered_cons_iff.mp ordered
      simp only [Tally.remove]
      split
      · split
        · exact parts.2.2
        · rename_i several
          exact ordered_cons_iff.mpr ⟨Nat.sub_pos_of_lt (by omega), parts.2.1, parts.2.2⟩
      · refine ordered_cons_iff.mpr ⟨parts.1, ?_, ih parts.2.2⟩
        intro later member
        rcases fst_of_mem_remove member with ⟨old, inside, same⟩
        rw [← same]
        exact parts.2.1 old inside

theorem countIn_eq_zero {offset : Nat} {entries : List (Nat × Nat)}
    (absent : ∀ entry ∈ entries, entry.1 ≠ offset) : countIn offset entries = 0 := by
  induction entries with
  | nil => rfl
  | cons head rest ih =>
      have different : offset ≠ head.1 := fun same => absent head (by simp) same.symm
      rw [countIn, if_neg different]
      exact ih fun entry member => absent entry (List.mem_cons_of_mem _ member)

theorem countIn_insert (offset other : Nat) {entries : List (Nat × Nat)}
    (ordered : Ordered entries) :
    countIn other (insert offset entries) =
      countIn other entries + if other = offset then 1 else 0 := by
  induction entries with
  | nil => simp [insert, countIn]
  | cons head rest ih =>
      rcases head with ⟨first, count⟩
      have parts := ordered_cons_iff.mp ordered
      have beyond (before : offset < first) : countIn offset rest = 0 :=
        countIn_eq_zero fun entry member same => by
          have := parts.2.1 entry member
          omega
      simp only [insert]
      by_cases before : offset < first
      · by_cases same : other = offset
        · subst same
          simp [countIn, before, Nat.ne_of_lt before, beyond before]
        · simp [countIn, before, same]
      · by_cases here : offset = first
        · by_cases same : other = first <;> simp [countIn, here, same]
        · by_cases same : other = first
          · have apart : other ≠ offset := by omega
            simp [countIn, before, here, same, Ne.symm here]
          · simp [countIn, before, here, same, ih parts.2.2]

theorem countIn_remove (offset other : Nat) {entries : List (Nat × Nat)}
    (ordered : Ordered entries) :
    countIn other (remove offset entries) =
      countIn other entries - if other = offset then 1 else 0 := by
  induction entries with
  | nil => simp [remove, countIn]
  | cons head rest ih =>
      rcases head with ⟨first, count⟩
      have parts := ordered_cons_iff.mp ordered
      have gone : countIn first rest = 0 :=
        countIn_eq_zero fun entry member same => by
          have := parts.2.1 entry member
          omega
      simp only [remove]
      by_cases here : offset = first
      · by_cases last : count ≤ 1
        · by_cases same : other = first
          · have := parts.1
            simp [countIn, here, last, same, gone]
          · simp [countIn, here, last, same]
        · by_cases same : other = first <;> simp [countIn, here, last, same]
      · by_cases same : other = first
        · simp [countIn, here, same, Ne.symm here]
        · simp [countIn, here, same, ih parts.2.2]

end Tally

structure Tally where
  /-- The offsets with their counts. -/
  entries : List (Nat × Nat) := []
  ordered : Tally.Ordered entries := by exact Tally.Ordered.nil

namespace Tally

/-- One cursor, at `offset`. -/
def single (offset : Nat) : Tally where
  entries := [(offset, 1)]
  ordered := Ordered.nil.insert offset

def attach (tally : Tally) (offset : Nat) : Tally :=
  ⟨insert offset tally.entries, tally.ordered.insert offset⟩

/-- Let a cursor go.  Where none stands nothing changes. -/
def release (tally : Tally) (offset : Nat) : Tally :=
  ⟨remove offset tally.entries, tally.ordered.remove offset⟩

/-- The least offset that a cursor stands at. -/
def least? (tally : Tally) : Option Nat :=
  tally.entries.head?.map Prod.fst

/-- How many cursors stand at `offset`. -/
def count (tally : Tally) (offset : Nat) : Nat :=
  countIn offset tally.entries

@[simp]
theorem count_single (offset other : Nat) :
    (single offset).count other = if other = offset then 1 else 0 := by
  simp [single, count, countIn]

@[simp]
theorem count_attach (tally : Tally) (offset other : Nat) :
    (tally.attach offset).count other =
      tally.count other + if other = offset then 1 else 0 :=
  countIn_insert offset other tally.ordered

@[simp]
theorem count_release (tally : Tally) (offset other : Nat) :
    (tally.release offset).count other =
      tally.count other - if other = offset then 1 else 0 :=
  countIn_remove offset other tally.ordered

/-- No cursor stands before the least offset. -/
theorem least_le_of_count_pos {tally : Tally} {least offset : Nat}
    (found : tally.least? = some least) (standing : 0 < tally.count offset) :
    least ≤ offset := by
  rcases tally with ⟨entries, ordered⟩
  cases entries with
  | nil => cases found
  | cons head rest =>
      have parts := ordered_cons_iff.mp ordered
      cases found
      refine Nat.le_of_not_lt fun before => ?_
      have none : countIn offset (head :: rest) = 0 := by
        refine countIn_eq_zero fun entry member same => ?_
        rcases List.mem_cons.mp member with rfl | member
        · omega
        · have := parts.2.1 entry member
          omega
      rw [count, none] at standing
      exact Nat.lt_irrefl 0 standing

/-- Some cursor stands at the least offset. -/
theorem count_pos_of_least?_eq_some {tally : Tally} {least : Nat}
    (found : tally.least? = some least) : 0 < tally.count least := by
  rcases tally with ⟨entries, ordered⟩
  cases entries with
  | nil => cases found
  | cons head rest =>
      cases found
      simpa [count, countIn] using (ordered_cons_iff.mp ordered).1

/-- Where some cursor stands there is a least offset. -/
theorem least?_isSome_of_count_pos {tally : Tally} {offset : Nat}
    (standing : 0 < tally.count offset) : tally.least?.isSome := by
  rcases tally with ⟨entries, ordered⟩
  cases entries with
  | nil => cases standing
  | cons head rest => rfl

theorem least?_eq_some_iff {tally : Tally} {least : Nat} :
    tally.least? = some least ↔
      0 < tally.count least ∧ ∀ offset, 0 < tally.count offset → least ≤ offset := by
  constructor
  · intro found
    exact ⟨count_pos_of_least?_eq_some found, fun _ => least_le_of_count_pos found⟩
  · rintro ⟨standing, lowest⟩
    obtain ⟨other, found⟩ := Option.isSome_iff_exists.mp (least?_isSome_of_count_pos standing)
    have upper := least_le_of_count_pos found standing
    have lower := lowest other (count_pos_of_least?_eq_some found)
    rw [found, Nat.le_antisymm upper lower]

end Tally

end Payload
