import Payload.Pool

/-!
# The copies of a pool

An operation on one copy is a turn of the engine on the record and that copy's cursor, and puts back
what the turn leaves; a copy that is closed refuses and changes nothing.  Making a copy adds a
cursor at the end, and closing one takes its cursor away.  What holds of the open copies is read off
the list of their cursors.
-/

namespace Payload

variable {σ ρ κ τ : Type} {engine : Engine σ ρ κ}

namespace Pool

/-! ## One copy's part of a pool -/

/-- The pool with this record, and this cursor for one copy. -/
def put (pool : Pool engine) (index : Nat) (record : ρ) (cursor : κ) : Pool engine :=
  ⟨record, pool.copies.set index (some cursor)⟩

@[simp]
theorem record_put (pool : Pool engine) (index : Nat) (record : ρ) (cursor : κ) :
    (pool.put index record cursor).record = record :=
  rfl

theorem getElem?_of_cursor?_eq_some {pool : Pool engine} {index : Nat} {cursor : κ}
    (found : pool.cursor? index = some cursor) : pool.copies[index]? = some (some cursor) := by
  unfold cursor? at found
  exact Option.join_eq_some_iff.mp found

theorem lt_length_of_cursor?_eq_some {pool : Pool engine} {index : Nat} {cursor : κ}
    (found : pool.cursor? index = some cursor) : index < pool.copies.length := by
  have entry := getElem?_of_cursor?_eq_some found
  exact (List.getElem?_eq_some_iff.mp entry).1

theorem isClosed_eq_true_iff {pool : Pool engine} {index : Nat} :
    pool.isClosed index = true ↔ pool.cursor? index = none :=
  Option.isNone_iff_eq_none

theorem isClosed_eq_false_iff {pool : Pool engine} {index : Nat} :
    pool.isClosed index = false ↔ ∃ cursor, pool.cursor? index = some cursor := by
  rw [isClosed]
  cases pool.cursor? index <;> simp

theorem remaining_of_open {pool : Pool engine} {index : Nat} {cursor : κ}
    (found : pool.cursor? index = some cursor) :
    pool.remaining index = engine.remaining pool.record cursor := by
  rw [remaining, found]

theorem ended_of_open {pool : Pool engine} {index : Nat} {cursor : κ}
    (found : pool.cursor? index = some cursor) : pool.ended index = engine.ended cursor := by
  rw [ended, found]
  rfl

/-- A copy that has something left is open. -/
theorem exists_open_of_remaining {pool : Pool engine} {index left : Nat}
    (known : pool.remaining index = some left) (some_left : left ≠ 0) :
    ∃ cursor, pool.cursor? index = some cursor ∧
      engine.remaining pool.record cursor = some left := by
  cases found : pool.cursor? index with
  | none =>
      rw [remaining, found] at known
      exact absurd (Option.some.inj known).symm some_left
  | some cursor => exact ⟨cursor, rfl, (remaining_of_open found).symm.trans known⟩

theorem cursor?_put_self {pool : Pool engine} {index : Nat} {cursor : κ}
    (found : pool.cursor? index = some cursor) (record : ρ) (next : κ) :
    (pool.put index record next).cursor? index = some next := by
  have within := lt_length_of_cursor?_eq_some found
  simp [put, cursor?, within]

theorem cursor?_put_of_ne {index other : Nat} (distinct : index ≠ other) (pool : Pool engine)
    (record : ρ) (next : κ) : (pool.put index record next).cursor? other = pool.cursor? other := by
  simp [put, cursor?, distinct]

@[simp]
theorem put_put (pool : Pool engine) (index : Nat) (record next : ρ) (cursor last : κ) :
    (pool.put index record cursor).put index next last = pool.put index next last := by
  simp [put]

theorem put_self {pool : Pool engine} {index : Nat} {cursor : κ}
    (found : pool.cursor? index = some cursor) : pool.put index pool.record cursor = pool := by
  have same : pool.copies.set index (some cursor) = pool.copies := by
    apply List.ext_getElem?
    intro place
    rw [List.getElem?_set]
    split
    · rename_i here
      subst here
      rw [if_pos (lt_length_of_cursor?_eq_some found), getElem?_of_cursor?_eq_some found]
    · rfl
  rw [put, same]

/-- The pool with this record, and the copies as they are. -/
def withRecord (pool : Pool engine) (record : ρ) : Pool engine :=
  ⟨record, pool.copies⟩

@[simp]
theorem record_withRecord (pool : Pool engine) (record : ρ) :
    (pool.withRecord record).record = record :=
  rfl

theorem put_eq_withRecord {pool : Pool engine} {index : Nat} {cursor : κ}
    (found : pool.cursor? index = some cursor) (record : ρ) :
    pool.put index record cursor = pool.withRecord record := by
  have same : (pool.put index pool.record cursor).copies = pool.copies :=
    congrArg Pool.copies (put_self found)
  exact congrArg (Pool.mk record) same

/-- A copy that is open acts by its engine. -/
theorem act_of_open {α : Type} {pool : Pool engine} {index : Nat} {cursor : κ}
    (found : pool.cursor? index = some cursor) (operation : Operation)
    (turn : ρ → κ → Turn ρ κ α) :
    (pool.act index operation turn).reply = (turn pool.record cursor).reply ∧
      (pool.act index operation turn).state =
        pool.put index (turn pool.record cursor).record (turn pool.record cursor).cursor := by
  simp [act, found, after, put]

/-- Where acting changes nothing about a copy, it changes nothing at all. -/
theorem act_of_idle {α : Type} {pool : Pool engine} {index : Nat} {cursor : κ}
    (found : pool.cursor? index = some cursor) (operation : Operation)
    {turn : ρ → κ → Turn ρ κ α} {reply : Reply α}
    (idle : turn pool.record cursor = ⟨reply, pool.record, cursor, []⟩) :
    (pool.act index operation turn).reply = reply ∧
      (pool.act index operation turn).state = pool := by
  have acted := act_of_open found operation turn
  rw [idle, put_self found] at acted
  exact acted

/-- A copy that is not open refuses, and nothing changes. -/
theorem act_of_closed {α : Type} {pool : Pool engine} {index : Nat}
    (missing : pool.cursor? index = none) (operation : Operation)
    (turn : ρ → κ → Turn ρ κ α) :
    (pool.act index operation turn).reply = .failed ⟨operation, .closed⟩ ∧
      (pool.act index operation turn).state = pool := by
  simp [act, missing]

/-- What a copy answers, other than that it is closed, is what its engine does. -/
theorem exists_open_of_act {α : Type} {pool : Pool engine} {index : Nat} {operation : Operation}
    {turn : ρ → κ → Turn ρ κ α} {reply : Reply α}
    (answered : (pool.act index operation turn).reply = reply)
    (going : reply ≠ .failed ⟨operation, .closed⟩) :
    ∃ cursor, pool.cursor? index = some cursor ∧ (turn pool.record cursor).reply = reply := by
  cases found : pool.cursor? index with
  | none =>
      rw [(act_of_closed found operation turn).1] at answered
      exact absurd answered.symm going
  | some cursor =>
      rw [(act_of_open found operation turn).1] at answered
      exact ⟨cursor, rfl, answered⟩

/-- A copy that is moved by its cursor arrives within the body, or nothing happens. -/
theorem seek_of_open {engine : Engine σ ρ Payload.Cursor} {pool : Pool engine} {index : Nat}
    {cursor : Payload.Cursor} (found : pool.cursor? index = some cursor) {length : Nat}
    {offset whence : Int}
    (moves : engine.seek offset whence pool.record cursor =
      cursor.seek length offset whence pool.record) :
    ((pool.seek index offset whence).state = pool ∧
        ∃ error, (pool.seek index offset whence).reply = .failed ⟨.seek, .seek error⟩) ∨
      ∃ position ≤ length, (pool.seek index offset whence).reply = .done position ∧
        (pool.seek index offset whence).state =
          pool.put index pool.record { offset := position } := by
  have acted := act_of_open found .seek (engine.seek offset whence)
  rw [moves] at acted
  rw [seek, acted.1, acted.2]
  rcases cursor.seek_cases length offset whence pool.record with
    ⟨error, refused⟩ | ⟨position, within, arrives⟩
  · rw [refused]
    exact Or.inl ⟨put_self found, error, rfl⟩
  · rw [arrives]
    exact Or.inr ⟨position, within, rfl, rfl⟩

/-- Reading a copy out, while it is open. -/
theorem writeTo_of_open [Sink τ] {pool : Pool engine} {index : Nat} {cursor : κ}
    (found : pool.cursor? index = some cursor) (sink : τ) :
    (pool.writeTo index sink).1.reply = (engine.writeTo sink pool.record cursor).1.reply ∧
      (pool.writeTo index sink).1.state =
        pool.put index (engine.writeTo sink pool.record cursor).1.record
          (engine.writeTo sink pool.record cursor).1.cursor ∧
      (pool.writeTo index sink).2 = (engine.writeTo sink pool.record cursor).2 := by
  simp [writeTo, found, after, put]

theorem writeTo_of_closed [Sink τ] {pool : Pool engine} {index : Nat}
    (missing : pool.cursor? index = none) (sink : τ) :
    (pool.writeTo index sink).1.reply = .failed ⟨.writeTo, .closed⟩ ∧
      (pool.writeTo index sink).1.state = pool ∧ (pool.writeTo index sink).2 = sink := by
  simp [writeTo, missing]

/-- The source is lent to a callback while the copy asked is open. -/
theorem visit_of_open {α : Type} {pool : Pool engine} {index : Nat} {cursor : κ}
    (found : pool.cursor? index = some cursor) (callback : σ → Option α × σ) :
    (pool.visit index callback).reply = (engine.visit callback pool.record cursor).reply ∧
      (pool.visit index callback).state =
        pool.put index (engine.visit callback pool.record cursor).record
          (engine.visit callback pool.record cursor).cursor := by
  simp [visit, found, after, put]

theorem visit_of_closed {α : Type} {pool : Pool engine} {index : Nat}
    (missing : pool.cursor? index = none) (callback : σ → Option α × σ) :
    (pool.visit index callback).reply = .done none ∧
      (pool.visit index callback).state = pool := by
  simp [visit, missing]

/-- Where nothing is lent, nothing changes, be the copy open or not. -/
theorem visit_of_idle {α : Type} {pool : Pool engine} (index : Nat)
    {callback : σ → Option α × σ}
    (idle : ∀ cursor, engine.visit callback pool.record cursor =
      ⟨.done none, pool.record, cursor, []⟩) :
    (pool.visit index callback).reply = .done none ∧ (pool.visit index callback).state = pool := by
  cases found : pool.cursor? index with
  | none => exact visit_of_closed found callback
  | some cursor =>
      have lent := visit_of_open found callback
      rw [idle, put_self found] at lent
      exact lent

/-- To let go of a copy leaves what closing it leaves. -/
theorem state_drop (pool : Pool engine) (index : Nat) :
    (pool.drop index).state = (pool.close index).state := by
  unfold drop
  split
  · rename_i missing
    simp [close, missing]
  · dsimp only
    split <;> rfl

/-- To let go of an open copy answers what closing it answers, but for a failure of that. -/
theorem reply_drop_of_open {pool : Pool engine} {index : Nat} {cursor : κ}
    (found : pool.cursor? index = some cursor) :
    (pool.drop index).reply =
      match (pool.close index).reply with
      | .failed _ => .done ()
      | reply => reply := by
  unfold drop
  rw [found]
  dsimp only
  cases closes : (pool.close index).reply with
  | done value => exact closes
  | failed error => rfl
  | broke => exact closes

/-! ## The open copies -/

/-- The cursors of the open copies, in the order of their making. -/
def cursors (pool : Pool engine) : List κ :=
  pool.copies.filterMap id

/-- How many copies are open. -/
def openCount (pool : Pool engine) : Nat :=
  pool.cursors.length

/-- The pool with this record and one copy closed. -/
def remove (pool : Pool engine) (index : Nat) (record : ρ) : Pool engine :=
  ⟨record, pool.copies.set index none⟩

/-- The pool with this record and one more copy, open or closed. -/
def add (pool : Pool engine) (record : ρ) (copy : Option κ) : Pool engine :=
  ⟨record, pool.copies ++ [copy]⟩

/-- A copy that is closed is gone, whatever comes of closing it. -/
theorem close_of_open {pool : Pool engine} {index : Nat} {cursor : κ}
    (found : pool.cursor? index = some cursor) :
    (pool.close index).reply = (engine.close pool.record cursor).reply ∧
      (pool.close index).state = pool.remove index (engine.close pool.record cursor).record := by
  simp [close, found, remove]

theorem close_of_closed {pool : Pool engine} {index : Nat}
    (missing : pool.cursor? index = none) :
    (pool.close index).reply = .failed ⟨.close, .closed⟩ ∧ (pool.close index).state = pool := by
  simp [close, missing]

/-- A copy of a closed copy is closed. -/
theorem copy_of_closed {pool : Pool engine} {index : Nat}
    (missing : pool.cursor? index = none) :
    (pool.copy index).reply = .done () ∧ (pool.copy index).state = pool.add pool.record none := by
  simp [copy, missing, add]

/-- A copy that is made joins at the end. -/
theorem copy_of_done {pool : Pool engine} {index : Nat} {cursor twin : κ}
    (found : pool.cursor? index = some cursor)
    (made : (engine.copy pool.record cursor).reply = .done twin) :
    (pool.copy index).reply = .done () ∧
      (pool.copy index).state =
        (pool.put index (engine.copy pool.record cursor).record
          (engine.copy pool.record cursor).cursor).add
            (engine.copy pool.record cursor).record (some twin) := by
  simp [copy, found, made, add, put]

/-- Where no copy is made none joins. -/
theorem copy_of_unmade {pool : Pool engine} {index : Nat} {cursor : κ}
    (found : pool.cursor? index = some cursor)
    (unmade : ∀ twin, (engine.copy pool.record cursor).reply ≠ .done twin) :
    (pool.copy index).reply = (engine.copy pool.record cursor).reply.map (fun _ => ()) ∧
      (pool.copy index).state =
        pool.put index (engine.copy pool.record cursor).record
          (engine.copy pool.record cursor).cursor := by
  rw [copy, found]
  dsimp only
  cases copies : (engine.copy pool.record cursor).reply with
  | done twin => exact absurd copies (unmade twin)
  | failed error => exact ⟨rfl, rfl⟩
  | broke => exact ⟨rfl, rfl⟩

@[simp]
theorem record_remove (pool : Pool engine) (index : Nat) (record : ρ) :
    (pool.remove index record).record = record :=
  rfl

@[simp]
theorem record_add (pool : Pool engine) (record : ρ) (copy : Option κ) :
    (pool.add record copy).record = record :=
  rfl

theorem cursor?_add_of_lt {pool : Pool engine} {index : Nat} (within : index < pool.copies.length)
    (record : ρ) (copy : Option κ) : (pool.add record copy).cursor? index = pool.cursor? index := by
  simp [add, cursor?, List.getElem?_append_left within]

theorem cursor?_add (pool : Pool engine) (record : ρ) (copy : Option κ) (index : Nat) :
    (pool.add record copy).cursor? index =
      if index = pool.copies.length then copy else pool.cursor? index := by
  rcases Nat.lt_trichotomy index pool.copies.length with before | here | beyond
  · rw [cursor?_add_of_lt before, if_neg (Nat.ne_of_lt before)]
  · subst here
    rw [if_pos rfl]
    simp [Pool.add, cursor?]
  · have absent : (pool.copies ++ [copy])[index]? = none := by
      apply List.getElem?_eq_none
      rw [List.length_append]
      exact beyond
    have missing : pool.copies[index]? = none := List.getElem?_eq_none (Nat.le_of_lt beyond)
    rw [if_neg (Nat.ne_of_gt beyond), cursor?, cursor?, missing]
    exact congrArg Option.join absent

/-- A copy of a closed copy is closed. -/
theorem isClosed_copy {pool : Pool engine} {index : Nat} (missing : pool.cursor? index = none) :
    (pool.copy index).state.isClosed pool.copies.length = true := by
  rw [(copy_of_closed missing).2, isClosed_eq_true_iff, cursor?_add, if_pos rfl]

theorem cursor?_remove_self (pool : Pool engine) (index : Nat) (record : ρ) :
    (pool.remove index record).cursor? index = none := by
  rw [remove, cursor?, List.getElem?_set]
  split
  · split <;> rfl
  · contradiction

theorem cursor?_remove_of_ne {index other : Nat} (distinct : index ≠ other) (pool : Pool engine)
    (record : ρ) : (pool.remove index record).cursor? other = pool.cursor? other := by
  simp [remove, cursor?, distinct]

theorem cursor?_remove (pool : Pool engine) (gone index : Nat) (record : ρ) :
    (pool.remove gone record).cursor? index =
      if index = gone then none else pool.cursor? index := by
  split
  · rename_i here
    rw [here, cursor?_remove_self]
  · rename_i apart
    exact cursor?_remove_of_ne (Ne.symm apart) _ _

/-- A copy that is there when another is gone was there before. -/
theorem cursor?_of_remove {pool : Pool engine} {gone index : Nat} {record : ρ} {cursor : κ}
    (there : (pool.remove gone record).cursor? index = some cursor) :
    pool.cursor? index = some cursor := by
  rw [cursor?_remove] at there
  split at there
  · cases there
  · exact there

@[simp]
theorem cursors_withRecord (pool : Pool engine) (record : ρ) :
    (pool.withRecord record).cursors = pool.cursors :=
  rfl

theorem mem_cursors_iff {pool : Pool engine} {cursor : κ} :
    cursor ∈ pool.cursors ↔ ∃ index, pool.cursor? index = some cursor := by
  rw [cursors, List.mem_filterMap]
  simp [cursor?, List.mem_iff_getElem?, Option.join_eq_some_iff]

/-- An open copy has its place among the cursors, and only that place changes with it. -/
theorem exists_cursors_eq {pool : Pool engine} {index : Nat} {cursor : κ}
    (found : pool.cursor? index = some cursor) :
    ∃ before after, pool.cursors = before ++ cursor :: after ∧
      (∀ record next, (pool.put index record next).cursors = before ++ next :: after) ∧
      ∀ record, (pool.remove index record).cursors = before ++ after := by
  have within := lt_length_of_cursor?_eq_some found
  have entry : pool.copies[index] = some cursor :=
    (List.getElem?_eq_some_iff.mp (getElem?_of_cursor?_eq_some found)).2
  have here : pool.copies =
      pool.copies.take index ++ some cursor :: pool.copies.drop (index + 1) := by
    rw [← entry, List.getElem_cons_drop, List.take_append_drop]
  refine ⟨(pool.copies.take index).filterMap id, (pool.copies.drop (index + 1)).filterMap id,
    ?_, ?_, ?_⟩
  · calc
      pool.cursors = (pool.copies.take index ++
          some cursor :: pool.copies.drop (index + 1)).filterMap id := congrArg _ here
      _ = _ := by simp
  · intro record next
    simp [cursors, put, List.set_eq_take_append_cons_drop, within]
  · intro record
    simp [cursors, remove, List.set_eq_take_append_cons_drop, within]

theorem mem_cursors_put {pool : Pool engine} {index : Nat} {cursor : κ}
    (found : pool.cursor? index = some cursor) {record : ρ} {next other : κ}
    (member : other ∈ (pool.put index record next).cursors) :
    other ∈ pool.cursors ∨ other = next := by
  obtain ⟨before, after, cursors_eq, put_eq, -⟩ := exists_cursors_eq found
  rw [put_eq] at member
  rw [cursors_eq]
  rcases List.mem_append.mp member with earlier | later
  · exact Or.inl (List.mem_append_left _ earlier)
  · rcases List.mem_cons.mp later with rfl | later
    · exact Or.inr rfl
    · exact Or.inl (List.mem_append_right _ (List.mem_cons_of_mem _ later))

theorem mem_cursors_remove {pool : Pool engine} {index : Nat} {cursor : κ}
    (found : pool.cursor? index = some cursor) {record : ρ} {other : κ}
    (member : other ∈ (pool.remove index record).cursors) : other ∈ pool.cursors := by
  obtain ⟨before, after, cursors_eq, -, remove_eq⟩ := exists_cursors_eq found
  rw [remove_eq] at member
  rw [cursors_eq]
  rcases List.mem_append.mp member with earlier | later
  · exact List.mem_append_left _ earlier
  · exact List.mem_append_right _ (List.mem_cons_of_mem _ later)

theorem openCount_of_copies {pool next : Pool engine} (same : next.copies = pool.copies) :
    next.openCount = pool.openCount := by
  rw [openCount, openCount, cursors, cursors, same]

theorem openCount_put {pool : Pool engine} {index : Nat} {cursor : κ}
    (found : pool.cursor? index = some cursor) (record : ρ) (next : κ) :
    (pool.put index record next).openCount = pool.openCount := by
  obtain ⟨before, after, cursors_eq, put_eq, -⟩ := exists_cursors_eq found
  simp [openCount, cursors_eq, put_eq]

theorem openCount_remove {pool : Pool engine} {index : Nat} {cursor : κ}
    (found : pool.cursor? index = some cursor) (record : ρ) :
    (pool.remove index record).openCount + 1 = pool.openCount := by
  obtain ⟨before, after, cursors_eq, -, remove_eq⟩ := exists_cursors_eq found
  simp [openCount, cursors_eq, remove_eq, Nat.add_assoc]

theorem openCount_pos {pool : Pool engine} {index : Nat} {cursor : κ}
    (found : pool.cursor? index = some cursor) : 0 < pool.openCount :=
  List.length_pos_of_mem (mem_cursors_iff.mpr ⟨index, found⟩)

@[simp]
theorem cursors_add_some (pool : Pool engine) (record : ρ) (cursor : κ) :
    (pool.add record (some cursor)).cursors = pool.cursors ++ [cursor] := by
  simp [cursors, add]

@[simp]
theorem cursors_add_none (pool : Pool engine) (record : ρ) :
    (pool.add record none).cursors = pool.cursors := by
  simp [cursors, add]

theorem cursor?_eq_none_of_openCount {pool : Pool engine} (all_closed : pool.openCount = 0)
    (index : Nat) : pool.cursor? index = none := by
  cases found : pool.cursor? index with
  | none => rfl
  | some cursor =>
      have some_open := openCount_pos found
      rw [all_closed] at some_open
      exact absurd some_open (Nat.lt_irrefl 0)

theorem openCount_add_some (pool : Pool engine) (record : ρ) (cursor : κ) :
    (pool.add record (some cursor)).openCount = pool.openCount + 1 := by
  simp [openCount]

/-- A copy that is closed is gone, and no other is. -/
theorem cursor?_close {pool : Pool engine} {index : Nat} {cursor : κ}
    (found : pool.cursor? index = some cursor) (other : Nat) :
    (pool.close index).state.cursor? other =
      if other = index then none else pool.cursor? other := by
  rw [(close_of_open found).2]
  exact cursor?_remove pool index other _

theorem openCount_close {pool : Pool engine} {index : Nat} {cursor : κ}
    (found : pool.cursor? index = some cursor) :
    (pool.close index).state.openCount + 1 = pool.openCount := by
  rw [(close_of_open found).2]
  exact openCount_remove found _

theorem isClosed_close {pool : Pool engine} {index : Nat} {cursor : κ}
    (found : pool.cursor? index = some cursor) :
    (pool.close index).state.isClosed index = true := by
  rw [(close_of_open found).2, isClosed_eq_true_iff]
  exact cursor?_remove_self _ _ _

end Pool

end Payload
