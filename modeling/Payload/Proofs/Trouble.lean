import Payload.Proofs.Sharing

/-!
# Where a source goes wrong

A call to the source goes wrong where it breaks off or claims more bytes than there was room for.
`Troubles` says so of the calls between two pools, for any kind of body.  Reads break off on the
first such call, so a use that meets trouble meets it in its last read; all reads before it gave
bytes.

What is poisoned then is shut: the source is left alone until the last copy closes it.
-/

namespace Payload

variable {σ ρ κ : Type}

/-! ## A source that is left alone -/

section

variable [Source σ] {engine : Engine (Recorded σ) ρ κ} {custody : ρ → Custody (Recorded σ)}
  {pool next : Pool engine}

/-- The source was not called, unless to close it. -/
def Spared (custody : ρ → Custody (Recorded σ)) (pool next : Pool engine) : Prop :=
  custody next.record = custody pool.record ∨
    ∃ note, custody next.record = ((custody pool.record).close note).2.1

theorem Spared.of_eq (same : next = pool) : Spared custody pool next :=
  Or.inl (by rw [same])

/-- Nothing that the copies share can be used any more.  While one of them is open the source is not
called, and the last one to leave closes it. -/
structure Shut (custody : ρ → Custody (Recorded σ)) (seen : List Entry) (pool : Pool engine) :
    Prop where
  poisoned : (custody pool.record).poisoned = true
  waiting : 0 < pool.openCount → (custody pool.record).source.entries = seen
  closed : pool.openCount = 0 →
    ∃ mark, (custody pool.record).source.entries = ⟨.close, mark⟩ :: seen

omit [Source σ] in
theorem Shut.begun (poisoned : (custody pool.record).poisoned = true)
    (some_open : 0 < pool.openCount) :
    Shut custody (custody pool.record).source.entries pool where
  poisoned := poisoned
  waiting _ := rfl
  closed all_closed := absurd all_closed (Nat.ne_of_gt some_open)

theorem Shut.spared {seen : List Entry} (shut : Shut custody seen pool)
    (held : (custody pool.record).held = true ↔ 0 < pool.openCount)
    (still : (custody next.record).held = true ↔ 0 < next.openCount)
    (spared : Spared custody pool next) : Shut custody seen next := by
  have unchanged (same : custody next.record = custody pool.record) : Shut custody seen next := by
    have alike : 0 < next.openCount ↔ 0 < pool.openCount := by
      rw [← still, ← held, same]
    refine ⟨same ▸ shut.poisoned, fun some_open => same ▸ shut.waiting (alike.mp some_open),
      fun all_closed => same ▸ shut.closed ?_⟩
    omega
  rcases spared with same | ⟨note, closes⟩
  · exact unchanged same
  · by_cases had : (custody pool.record).held = true
    · rw [closes, Custody.held_close] at still
      refine ⟨?_, fun some_open => (Bool.false_ne_true (still.mpr some_open)).elim, fun _ => ?_⟩
      · rw [closes, Custody.poisoned_close]
        exact shut.poisoned
      · rw [closes, Custody.close, if_pos had, ← shut.waiting (held.mp had)]
        exact ⟨_, rfl⟩
    · apply unchanged
      rw [closes, Custody.close, if_neg had]

end

/-! ## Trouble -/

section

variable {engine : Engine (Recorded σ) ρ κ} {custody : ρ → Custody (Recorded σ)}
  {pool before middle next : Pool engine}

/-- Only calls were added to the record of the source. -/
def Extends (custody : ρ → Custody (Recorded σ)) (pool next : Pool engine) : Prop :=
  (custody pool.record).source.entries <:+ (custody next.record).source.entries

/-- Among the calls that were added is one like this. -/
def Adds (custody : ρ → Custody (Recorded σ)) (P : Entry → Prop) (pool next : Pool engine) : Prop :=
  ∃ made, (custody next.record).source.entries = made ++ (custody pool.record).source.entries ∧
    ∃ entry ∈ made, P entry

/-- Among the calls that were added one went wrong. -/
abbrev Troubles (custody : ρ → Custody (Recorded σ)) (pool next : Pool engine) : Prop :=
  Adds custody Entry.Troubled pool next

theorem adds_iff {P : Entry → Prop} {made : List Entry}
    (entries : (custody next.record).source.entries =
      made ++ (custody pool.record).source.entries) :
    Adds custody P pool next ↔ ∃ entry ∈ made, P entry := by
  constructor
  · rintro ⟨others, same, found⟩
    obtain rfl : others = made := List.append_cancel_right (same.symm.trans entries)
    exact found
  · exact fun found => ⟨made, entries, found⟩

theorem not_troubles_of_entries_eq
    (same : (custody next.record).source.entries = (custody pool.record).source.entries) :
    ¬Troubles custody pool next := by
  rw [Troubles, adds_iff (same.trans (List.nil_append _).symm)]
  simp

/-- To close a source is no trouble. -/
theorem Spared.not_troubles [Source σ] (spared : Spared custody pool next) :
    ¬Troubles custody pool next := by
  rcases spared with same | ⟨note, closes⟩
  · exact not_troubles_of_entries_eq (by rw [same])
  · rw [Custody.close] at closes
    split at closes
    · have entries : (custody next.record).source.entries =
          [⟨.close, .ofAnswer (fun _ => .fine) (Source.close (custody pool.record).source).1⟩] ++
            (custody pool.record).source.entries := by
        rw [closes]
        rfl
      rw [Troubles, adds_iff entries]
      simp [Entry.Troubled]
    · exact not_troubles_of_entries_eq (by rw [closes])

/-- Trouble comes on one part of the way or on the other. -/
theorem Troubles.split (first : Extends custody pool middle)
    (second : Extends custody middle next) (troubles : Troubles custody pool next) :
    Troubles custody pool middle ∨ Troubles custody middle next := by
  obtain ⟨early, first⟩ := first
  obtain ⟨late, second⟩ := second
  obtain ⟨made, entries, entry, member, troubled⟩ := troubles
  rw [← second, ← first, ← List.append_assoc, List.append_cancel_right_eq] at entries
  rw [← entries] at member
  rcases List.mem_append.mp member with here | here
  · exact Or.inr ⟨late, second.symm, entry, here, troubled⟩
  · exact Or.inl ⟨early, first.symm, entry, here, troubled⟩

/-- In this use a call to the source goes wrong, or the callback that it is lent to does. -/
def Spoils {τ : Type} [Sink τ] (custody : ρ → Custody (Recorded σ)) (pool : Pool engine)
    (use : Use (Recorded σ) τ) : Prop :=
  Troubles custody pool (pool.use use).2 ∨ (pool.use use).1 = .lent .broke

theorem Spared.not_spoils [Source σ] {τ : Type} [Sink τ] {use : Use (Recorded σ) τ}
    (spared : Spared custody pool (pool.use use).2) (unlent : (pool.use use).1 ≠ .lent .broke) :
    ¬Spoils custody pool use :=
  not_or.mpr ⟨spared.not_troubles, unlent⟩

/-- Where lending the source spoils anything it is the callback that breaks off, as nothing that the
callback does to the source is on record. -/
theorem Spoils.reply_of_visit {τ : Type} [Sink τ] {index : Nat} {callback : σ → Option Unit × σ}
    (lends : ∀ cursor, custody (engine.visit (Recorded.unseen callback) pool.record cursor).record =
      ((custody pool.record).visit (Recorded.unseen callback)).2)
    (spoils : Spoils custody pool
      (.visit index (Recorded.unseen callback) : Use (Recorded σ) τ)) :
    (pool.visit index (Recorded.unseen callback)).reply = .broke := by
  refine Receipt.lent.inj (spoils.resolve_left (not_troubles_of_entries_eq ?_))
  change (custody (pool.visit index (Recorded.unseen callback)).state.record).source.entries = _
  cases found : pool.cursor? index with
  | none => rw [(Pool.visit_of_closed found _).2]
  | some cursor =>
      rw [(Pool.visit_of_open found _).2, Pool.record_put, lends]
      exact entries_visit _ _

/-- Reads keep to the record of the source and break off on trouble, wherever `I` holds, which they
keep. -/
structure Candid (custody : ρ → Custody (Recorded σ)) (I : Pool engine → Prop) : Prop where
  keeps : ∀ {pool} index buffer, I pool → I (pool.read index buffer).state
  onwards : ∀ {pool} index buffer, I pool → Extends custody pool (pool.read index buffer).state
  breaks : ∀ {pool} index buffer, I pool → Troubles custody pool (pool.read index buffer).state →
    (pool.read index buffer).reply = .broke

variable {τ : Type} [Sink τ] {I : Pool engine → Prop}

/-- For as long as reads give bytes there is no trouble. -/
theorem Candid.calm (candid : Candid custody I) {use : Use (Recorded σ) τ} (holds : I pool)
    (underway : Pool.Underway pool use before) :
    I before ∧ Extends custody pool before ∧ ¬Troubles custody pool before := by
  cases underway with
  | begun => exact ⟨holds, List.suffix_refl _, not_troubles_of_entries_eq rfl⟩
  | @reading index sink buffers gave =>
      induction buffers generalizing pool with
      | nil => exact ⟨holds, List.suffix_refl _, not_troubles_of_entries_eq rfl⟩
      | cons buffer rest ih =>
          rw [List.map_cons, Pool.run_cons] at gave
          obtain ⟨first, later⟩ := List.forall_mem_cons.mp gave
          obtain ⟨bytes, came⟩ := first
          obtain ⟨kept, onwards, calm⟩ := ih (candid.keeps index buffer holds) later
          have extended := candid.onwards index buffer holds
          refine ⟨kept, extended.trans onwards, fun troubles => ?_⟩
          rcases troubles.split extended onwards with here | there
          · have broke := candid.breaks index buffer holds here
            have done : (pool.read index buffer).reply = .done bytes := Receipt.bytes.inj came
            rw [done] at broke
            cases broke
          · exact calm there

/-- Where reading a copy out runs into trouble, it is its last read that breaks off. -/
theorem Candid.exists_broke_of_pump (candid : Candid custody I) {index : Nat} {cursor : κ}
    (holds : I pool) (found : pool.cursor? index = some cursor) (buffer : Buffer) (first sink : τ)
    (troubles : Troubles custody pool
      (pool.put index (pump engine.read buffer sink pool.record cursor).1.record
        (pump engine.read buffer sink pool.record cursor).1.cursor)) :
    ∃ before other,
      Pool.Underway pool (.writeTo index first : Use (Recorded σ) τ) before ∧ I before ∧
        Troubles custody before (before.read index other).state ∧
        pool.put index (pump engine.read buffer sink pool.record cursor).1.record
            (pump engine.read buffer sink pool.record cursor).1.cursor =
          (before.read index other).state := by
  obtain ⟨before, underway, stays | ⟨other, reads⟩⟩ :=
    Pool.exists_underway_of_pump found buffer first sink
  · rw [stays] at troubles
    exact absurd troubles (candid.calm holds underway).2.2
  · obtain ⟨kept, onwards, calm⟩ := candid.calm holds underway
    rw [reads] at troubles
    have last : Extends custody before (before.use (.read index other : Use (Recorded σ) τ)).2 :=
      candid.onwards index other kept
    exact ⟨before, other, underway, kept,
      (troubles.split onwards last).resolve_left calm, reads⟩

end

end Payload
