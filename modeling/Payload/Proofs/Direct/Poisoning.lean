import Payload.Proofs.Direct.Logging
import Payload.Proofs.Direct.Uses
import Payload.Proofs.Trouble

/-!
# A direct body whose source went wrong

A source that is moved is used by one call at a time, and poisons what the copies share when it
breaks off.  A read at a position uses it together with others and poisons nothing, and neither does
a source that claims too much: the copies then stand where they stood, over what is left of the
source, and read on.

On a poisoned body only those reads are refused that would ask the source.
-/

namespace Payload.Direct

open Relation

variable {σ τ : Type}

/-! ## Reads of a poisoned body -/

/-- The error of a read that would ask the source of a poisoned body. -/
def refusal (operation : Operation) (offset : Nat) (direct : Direct σ) : Error :=
  if maxOffset < direct.base + offset then
    ⟨operation, .fault (.saying .invalidInput "offset past the addressable end of the source")⟩
  else
    ⟨operation, .poisoned⟩

theorem isEnd_refusal (operation : Operation) (offset : Nat) (direct : Direct σ) :
    (direct.refusal operation offset).isEnd = false := by
  unfold refusal
  split <;> rfl

variable [Source σ] [Sink τ]

section

variable {direct : Direct σ}

theorem fetch_of_poisoned (poisoned : direct.custody.poisoned = true) (operation : Operation)
    (buffer : Buffer) (want offset : Nat) :
    direct.fetch operation buffer want offset =
      (.failed (direct.refusal operation offset), direct) := by
  unfold fetch refusal
  dsimp only
  split
  · rfl
  · rw [askSteady, ask, if_pos poisoned]

theorem read_of_poisoned (poisoned : direct.custody.poisoned = true) (buffer : Buffer)
    (cursor : Cursor) :
    direct.read buffer cursor =
      if cursor.ended then ⟨.failed ⟨.read, .endOfStream⟩, direct, cursor, []⟩
      else if buffer.size = 0 then ⟨.done .empty, direct, cursor, []⟩
      else if direct.length ≤ cursor.offset then
        ⟨.failed ⟨.read, .endOfStream⟩, direct, { cursor with ended := true }, []⟩
      else ⟨.failed (direct.refusal .read cursor.offset), direct, cursor, []⟩ := by
  rw [read]
  dsimp only
  rw [fetch_of_poisoned poisoned]

theorem readAt_of_poisoned (poisoned : direct.custody.poisoned = true) (buffer : Buffer)
    (offset : Nat) (cursor : Cursor) :
    direct.readAt buffer offset cursor =
      if buffer.size = 0 then ⟨.done .empty, direct, cursor, []⟩
      else if direct.length ≤ offset then ⟨.failed ⟨.readAt, .endOfStream⟩, direct, cursor, []⟩
      else ⟨.failed (direct.refusal .readAt offset), direct, cursor, []⟩ := by
  rw [readAt, fetch_of_poisoned poisoned]

/-- Reading a poisoned body out writes nothing. -/
theorem writeTo_of_poisoned (poisoned : direct.custody.poisoned = true) (sink : τ)
    (cursor : Cursor) :
    (writeTo sink direct cursor).2 = sink ∧
      (writeTo sink direct cursor).1.record = direct ∧
      (writeTo sink direct cursor).1.reply =
        if cursor.ended = true ∨ direct.length ≤ cursor.offset then .done 0
        else .failed (direct.refusal .writeTo cursor.offset) := by
  have refuses : (direct.refusal .read cursor.offset).during .writeTo =
      direct.refusal .writeTo cursor.offset := by
    unfold refusal
    split <;> rfl
  generalize fresh : Buffer.fresh (scratch defaultBlock (some (cursor.remaining direct.length))) =
    buffer
  have asks : buffer.size ≠ 0 := by
    have positive : 0 < scratch defaultBlock (some (cursor.remaining direct.length)) :=
      scratch_pos (by decide) _
    rw [← fresh]
    exact Nat.ne_of_gt positive
  have first := read_of_poisoned poisoned buffer cursor
  rw [writeTo, fresh]
  cases ended : cursor.ended with
  | true =>
      rw [if_pos ended] at first
      rw [pump_of_failed sink (congrArg Turn.reply first), first]
      simp [Error.isEnd, Turn.replying]
  | false =>
      rw [if_neg (by simp [ended]), if_neg asks] at first
      by_cases past : direct.length ≤ cursor.offset
      · rw [if_pos past] at first
        rw [pump_of_failed sink (congrArg Turn.reply first), first]
        simp [past, Error.isEnd, Turn.replying]
      · rw [if_neg past] at first
        rw [pump_of_failed sink (congrArg Turn.reply first), first]
        simp [past, isEnd_refusal, Turn.replying, refuses]

end

/-! ## What trouble leaves -/

/-- The copies, of which one is open, and all of the record but the source are as they were before.
Nothing was poisoned then. -/
structure Undisturbed (pool next : Pool (engine σ)) : Prop where
  some_open : 0 < pool.openCount
  copies : next.copies = pool.copies
  access : next.record.access = pool.record.access
  base : next.record.base = pool.record.base
  length : next.record.length = pool.record.length
  sharers : next.record.sharers = pool.record.sharers
  held : next.record.custody.held = pool.record.custody.held
  sound : pool.record.custody.poisoned = false

theorem Served.undisturbed {pool : Pool (engine σ)} {record : Direct σ}
    (served : Served pool.record record) (some_open : 0 < pool.openCount)
    (sound : pool.record.custody.poisoned = false) :
    Undisturbed pool (pool.withRecord record) :=
  ⟨some_open, rfl, served.access, served.base, served.length, served.sharers, served.held, sound⟩

/-- Where nothing is poisoned either, the copies read on over what is left of the source. -/
theorem Undisturbed.resumes {pool next : Pool (engine σ)} (undisturbed : Undisturbed pool next)
    (sound : next.record.custody.poisoned = false) :
    next = pool.withRecord (pool.record.returning false next.record.custody.source) := by
  obtain ⟨-, copies, access, base, length, sharers, held, was_sound⟩ := undisturbed
  obtain ⟨⟨⟨source, still, poisoned⟩, _, _, _, _⟩, others⟩ := next
  simp only at copies access base length sharers held sound
  subst copies access base length sharers held sound
  simp [Pool.withRecord, returning, Custody.returning, was_sound]

/-- A read that breaks off moves no copy. -/
theorem Reads.cursor_of_broke {direct : Direct σ} {buffer : Buffer} {cursor : Cursor}
    {turn : Turn (Direct σ) Cursor ByteArray} (reads : Reads buffer direct cursor turn)
    (broke : turn.reply = .broke) : turn.cursor = cursor := by
  cases reads with
  | broke => rfl
  | _ => cases broke

theorem Reads.record_of_poisoned {direct : Direct σ} {buffer : Buffer} {cursor : Cursor}
    {turn : Turn (Direct σ) Cursor ByteArray} (reads : Reads buffer direct cursor turn)
    (poisoned : direct.custody.poisoned = true) : turn.record = direct :=
  reads.keeps (P := (· = direct)) rfl fun _ _ =>
    congrArg Prod.snd (fetch_of_poisoned poisoned _ _ _ _)

theorem ReadsAt.record_of_poisoned {direct : Direct σ} {buffer : Buffer} {offset : Nat}
    {cursor : Cursor} {turn : Turn (Direct σ) Cursor ByteArray}
    (reads : ReadsAt buffer offset direct cursor turn)
    (poisoned : direct.custody.poisoned = true) : turn.record = direct :=
  reads.keeps (P := (· = direct)) rfl fun _ _ =>
    congrArg Prod.snd (fetch_of_poisoned poisoned _ _ _ _)

section

variable {pool next last : Pool (engine (Recorded σ))} {index : Nat} {cursor : Cursor}

/-- The way from one pool to another is logged. -/
def Logged (pool next : Pool (engine (Recorded σ))) : Prop :=
  ∃ made, Logs pool.record next.record made

theorem Logged.trans (first : Logged pool next) (second : Logged next last) :
    Logged pool last := by
  obtain ⟨made, logs⟩ := first
  obtain ⟨later, onwards⟩ := second
  exact ⟨later ++ made, logs.trans onwards⟩

theorem Logged.onwards (logged : Logged pool next) : Extends Direct.custody pool next := by
  obtain ⟨made, logs⟩ := logged
  exact ⟨made, logs.entries.symm⟩

theorem Logged.sound (logged : Logged pool next) (sound : next.record.custody.poisoned = false) :
    pool.record.custody.poisoned = false := by
  obtain ⟨made, logs⟩ := logged
  cases poisoned : pool.record.custody.poisoned with
  | false => rfl
  | true => exact absurd (logs.poisoned.mpr (Or.inl poisoned)) (by simp [sound])

/-- What the copies share is poisoned where a call breaks off that has the source to itself. -/
theorem Logged.poisoned_iff (logged : Logged pool next)
    (sound : pool.record.custody.poisoned = false) :
    next.record.custody.poisoned = true ↔ pool.record.access = .seeking ∧
      Adds Direct.custody (fun entry => entry.mark = .broke) pool next := by
  obtain ⟨made, logs⟩ := logged
  rw [logs.poisoned, adds_iff logs.entries, sound]
  simp

/-- Where a poisoned record is left alone, there is trouble only if it was sound. -/
theorem sound_of_troubles (troubles : Troubles Direct.custody pool next)
    (rests : pool.record.custody.poisoned = true → next.record = pool.record) :
    pool.record.custody.poisoned = false := by
  cases poisoned : pool.record.custody.poisoned with
  | false => rfl
  | true => exact absurd troubles (not_troubles_of_entries_eq (by rw [rests poisoned]))

/-- A read is logged, breaks off on trouble, and disturbs no copy then. -/
theorem logged_read (pool : Pool (engine (Recorded σ))) (index : Nat) (buffer : Buffer) :
    Logged pool (pool.read index buffer).state ∧
      (Troubles Direct.custody pool (pool.read index buffer).state →
        (pool.read index buffer).reply = .broke ∧
          Undisturbed pool (pool.read index buffer).state) := by
  cases found : pool.cursor? index with
  | none =>
      rw [Pool.read, (Pool.act_of_closed found _ _).2]
      exact ⟨⟨[], .nothing _⟩, fun troubles => absurd troubles (not_troubles_of_entries_eq rfl)⟩
  | some cursor =>
      have reads := reads buffer pool.record cursor
      obtain ⟨made, logs, breaks⟩ := reads.logs
      have acted := Pool.act_of_open found .read ((engine (Recorded σ)).read buffer)
      rw [Pool.read, acted.1, acted.2]
      refine ⟨⟨made, logs⟩, fun troubles => ?_⟩
      have broke := breaks ((adds_iff logs.entries).mp troubles)
      have sound := sound_of_troubles troubles reads.record_of_poisoned
      refine ⟨broke, ?_⟩
      change Undisturbed pool (pool.put index (pool.record.read buffer cursor).record
        (pool.record.read buffer cursor).cursor)
      rw [reads.cursor_of_broke broke, Pool.put_eq_withRecord found]
      exact reads.served.undisturbed (Pool.openCount_pos found) sound

theorem logged_readAt (pool : Pool (engine (Recorded σ))) (index : Nat) (buffer : Buffer)
    (offset : Nat) :
    Logged pool (pool.readAt index buffer offset).state ∧
      (Troubles Direct.custody pool (pool.readAt index buffer offset).state →
        Undisturbed pool (pool.readAt index buffer offset).state) := by
  cases found : pool.cursor? index with
  | none =>
      rw [Pool.readAt, (Pool.act_of_closed found _ _).2]
      exact ⟨⟨[], .nothing _⟩, fun troubles => absurd troubles (not_troubles_of_entries_eq rfl)⟩
  | some cursor =>
      have reads := readsAt buffer offset pool.record cursor
      obtain ⟨made, logs, -⟩ := reads.logs
      rw [state_readAt_of_open found]
      refine ⟨⟨made, logs⟩, fun troubles => ?_⟩
      have sound := sound_of_troubles troubles reads.record_of_poisoned
      exact reads.served.undisturbed (Pool.openCount_pos found) sound

theorem candid (start : Pool (engine (Recorded σ))) : Candid Direct.custody (Logged start) where
  keeps index buffer logged := logged.trans (logged_read _ index buffer).1
  onwards index buffer _ := (logged_read _ index buffer).1.onwards
  breaks index buffer _ troubles := ((logged_read _ index buffer).2 troubles).1

theorem spared_seek (pool : Pool (engine (Recorded σ))) (index : Nat) (offset whence : Int) :
    Spared Direct.custody pool (pool.seek index offset whence).state := by
  cases found : pool.cursor? index with
  | none => exact .of_eq (Pool.act_of_closed found _ _).2
  | some cursor =>
      rcases state_seek_of_open found offset whence with ⟨stays, -⟩ | ⟨_, -, -, goes⟩
      · exact .of_eq stays
      · exact Or.inl (by rw [goes, Pool.record_put])

theorem spared_copy (pool : Pool (engine (Recorded σ))) (index : Nat) :
    Spared Direct.custody pool (pool.copy index).state := by
  cases found : pool.cursor? index with
  | none => exact Or.inl (by rw [(Pool.copy_of_closed found).2, Pool.record_add])
  | some cursor => exact Or.inl (by rw [state_copy_of_open found, Pool.record_add])

theorem spared_close (pool : Pool (engine (Recorded σ))) (index : Nat) :
    Spared Direct.custody pool (pool.close index).state := by
  cases found : pool.cursor? index with
  | none => exact .of_eq (Pool.close_of_closed found).2
  | some cursor =>
      rw [(Pool.close_of_open found).2]
      change Spared Direct.custody pool (pool.remove index (pool.record.close cursor).record)
      rw [close]
      split
      · exact Or.inl rfl
      · exact Or.inr ⟨_, rfl⟩

/-- Whether what happened poisons what the copies share: a call that had the source to itself broke
off, or the callback that the source was lent to. -/
def Poisons (pool : Pool (engine (Recorded σ))) (use : Use (Recorded σ) τ) : Prop :=
  (pool.use use).1 = .lent .broke ∨
    pool.record.access = .seeking ∧
      Adds Direct.custody (fun entry => entry.mark = .broke) pool (pool.use use).2

/-- Where reading a copy out runs into trouble, its last read disturbs no copy, and it poisons what
they share where it has the source to itself. -/
theorem exists_undisturbed_of_writeTo {sink : τ}
    (troubles : Troubles Direct.custody pool (pool.writeTo index sink).1.state) :
    ∃ before, Pool.Underway pool (.writeTo index sink) before ∧
      Undisturbed before (pool.writeTo index sink).1.state ∧
      ((pool.writeTo index sink).1.state.record.custody.poisoned = true ↔
        Poisons pool (.writeTo index sink : Use (Recorded σ) τ)) := by
  cases found : pool.cursor? index with
  | none =>
      rw [(Pool.writeTo_of_closed found sink).2.1] at troubles
      exact absurd troubles (not_troubles_of_entries_eq rfl)
  | some cursor =>
      have written := (Pool.writeTo_of_open found sink).2.1
      rw [written] at troubles
      obtain ⟨before, other, underway, logged, last, state⟩ :=
        (candid pool).exists_broke_of_pump ⟨[], .nothing _⟩ found _ sink sink troubles
      have left : (pool.writeTo index sink).1.state = (before.read index other).state :=
        written.trans state
      obtain ⟨onwards, disturbs⟩ := logged_read before index other
      have undisturbed := (disturbs last).2
      have sound := logged.sound undisturbed.sound
      rw [← left] at onwards
      exact ⟨before, underway, left ▸ undisturbed,
        ((logged.trans onwards).poisoned_iff sound).trans (or_iff_right nofun).symm⟩

/-- A callback that breaks off disturbs no copy, and poisons what they share. -/
theorem undisturbed_visit {pool : Pool (engine σ)} {callback : σ → Option Unit × σ}
    (broke : (pool.visit index callback).reply = .broke) :
    Undisturbed pool (pool.visit index callback).state ∧
      (pool.visit index callback).state.record.custody.poisoned = true := by
  cases found : pool.cursor? index with
  | none =>
      rw [(Pool.visit_of_closed found callback).1] at broke
      cases broke
  | some cursor =>
      rw [(Pool.visit_of_open found callback).1] at broke
      change (pool.record.custody.visit callback).1 = .broke at broke
      have sound : pool.record.custody.poisoned = false := by
        cases poisoned : pool.record.custody.poisoned with
        | false => rfl
        | true =>
            rw [Custody.visit_of_poisoned poisoned] at broke
            cases broke
      rw [state_visit_of_open found callback]
      exact ⟨⟨Pool.openCount_pos found, rfl, rfl, rfl, rfl, rfl, Custody.held_visit _ _, sound⟩,
        Custody.poisoned_of_broke broke⟩

/-- Where something goes wrong in a use, it leaves the copies as they were just before, and poisons
what they share or leaves them to read on. -/
theorem exists_undisturbed {use : Use σ τ} (spoils : Spoils Direct.custody pool use.unseen) :
    ∃ before, Pool.Underway pool use.unseen before ∧
      Undisturbed before (pool.use use.unseen).2 ∧
      ((pool.use use.unseen).2.record.custody.poisoned = true ↔ Poisons pool use.unseen) := by
  cases use with
  | read index buffer =>
      obtain ⟨logged, disturbs⟩ := logged_read pool index buffer
      have undisturbed := (disturbs (spoils.resolve_right nofun)).2
      refine ⟨pool, .begun _, undisturbed, (logged.poisoned_iff undisturbed.sound).trans ?_⟩
      exact (or_iff_right nofun).symm
  | readAt index buffer offset =>
      obtain ⟨logged, disturbs⟩ := logged_readAt pool index buffer offset
      have undisturbed := disturbs (spoils.resolve_right nofun)
      refine ⟨pool, .begun _, undisturbed, (logged.poisoned_iff undisturbed.sound).trans ?_⟩
      exact (or_iff_right nofun).symm
  | seek index offset whence =>
      exact absurd spoils (Spared.not_spoils (spared_seek pool index offset whence) nofun)
  | writeTo index sink => exact exists_undisturbed_of_writeTo (spoils.resolve_right nofun)
  | copy index => exact absurd spoils (Spared.not_spoils (spared_copy pool index) nofun)
  | close index => exact absurd spoils (Spared.not_spoils (spared_close pool index) nofun)
  | drop index =>
      have spared := spared_close pool index
      rw [← Pool.state_drop] at spared
      exact absurd spoils (Spared.not_spoils spared nofun)
  | visit index callback =>
      have broke := spoils.reply_of_visit fun _ => rfl
      obtain ⟨undisturbed, poisoned⟩ := undisturbed_visit broke
      exact ⟨pool, .begun _, undisturbed,
        iff_of_true poisoned (Or.inl (congrArg Receipt.lent broke))⟩

end

/-! ## What is left of a poisoned body -/

section

variable {lends : (Recorded σ → Option Unit × Recorded σ) → Prop}
  {start pool next : Pool (engine (Recorded σ))} {index : Nat} {cursor : Cursor}

/-- On a poisoned record the source is spared. -/
theorem Step.spared_of_poisoned (step : Step lends pool next)
    (poisoned : pool.record.custody.poisoned = true) : Spared Direct.custody pool next := by
  cases step with
  | read found reads => exact Or.inl (congrArg custody (reads.record_of_poisoned poisoned))
  | readAt some_open reads => exact Or.inl (congrArg custody (reads.record_of_poisoned poisoned))
  | sought => exact Or.inl rfl
  | copied => exact Or.inl rfl
  | blank => exact Or.inl rfl
  | left => exact Or.inl rfl
  | last => exact Or.inr ⟨_, rfl⟩
  | visited => exact Or.inl (congrArg Prod.snd (Custody.visit_of_poisoned poisoned _))

/-- What can still be done with a body that was poisoned. -/
structure Barren (start pool : Pool (engine (Recorded σ))) : Prop where
  shut : Shut Direct.custody start.record.custody.source.entries pool
  /-- No read gives a byte, and none that asks for bytes comes back well. -/
  withholds : ∀ index buffer bytes, 0 < buffer.size →
    (pool.read index buffer).reply ≠ .done bytes ∧
      ∀ offset, (pool.readAt index buffer offset).reply ≠ .done bytes
  /-- A copy that has met the end reports it as ever. -/
  ended : ∀ index cursor, pool.cursor? index = some cursor → cursor.ended = true → ∀ buffer,
    (pool.read index buffer).reply = .failed ⟨.read, .endOfStream⟩ ∧
      (pool.read index buffer).state = pool
  /-- A read that would ask the source is refused. -/
  refused : ∀ index cursor buffer, pool.cursor? index = some cursor → 0 < buffer.size →
    (cursor.ended = false → cursor.offset < pool.record.length →
      (pool.read index buffer).reply = .failed (pool.record.refusal .read cursor.offset) ∧
        (pool.read index buffer).state = pool) ∧
    ∀ offset, offset < pool.record.length →
      (pool.readAt index buffer offset).reply = .failed (pool.record.refusal .readAt offset) ∧
        (pool.readAt index buffer offset).state = pool
  /-- Reading out writes nothing. -/
  written : ∀ index cursor, pool.cursor? index = some cursor →
    ∀ {τ : Type} [Sink τ] (sink : τ), (pool.writeTo index sink).2 = sink ∧
      (pool.writeTo index sink).1.reply =
        if cursor.ended = true ∨ pool.record.length ≤ cursor.offset then .done 0
        else .failed (pool.record.refusal .writeTo cursor.offset)
  /-- The source is not shown. -/
  hidden : ∀ index {α : Type} (callback : Recorded σ → Option α × Recorded σ),
    (pool.visit index callback).reply = .done none ∧ (pool.visit index callback).state = pool
  /-- A copy that is closed or dropped is gone, and no other is.  The last one hands on what closing
  the source comes to. -/
  leaves : ∀ index cursor, pool.cursor? index = some cursor →
    (∀ other, (pool.close index).state.cursor? other =
      if other = index then none else pool.cursor? other) ∧
    (pool.drop index).state = (pool.close index).state ∧
    (pool.close index).reply =
      if pool.openCount = 1 then
        (Source.close pool.record.custody.source).1.mapFailure fun fault => ⟨.close, .fault fault⟩
      else .done ()

theorem visit_of_poisoned (poisoned : pool.record.custody.poisoned = true) {α : Type}
    (callback : Recorded σ → Option α × Recorded σ) :
    (pool.visit index callback).reply = .done none ∧ (pool.visit index callback).state = pool := by
  refine Pool.visit_of_idle index fun cursor => ?_
  change visit callback pool.record cursor = _
  rw [visit, Custody.visit_of_poisoned poisoned]

theorem barren (shut : Shut Direct.custody start.record.custody.source.entries pool)
    (entrusted : Entrusted Direct.custody Direct.sharers pool) : Barren start pool where
  shut := shut
  withholds index buffer bytes asks := by
    constructor
    · intro came
      obtain ⟨cursor, -, gave⟩ := Pool.exists_open_of_act came (by simp)
      change (pool.record.read buffer cursor).reply = _ at gave
      rw [read_of_poisoned shut.poisoned, if_neg (Nat.ne_of_gt asks)] at gave
      split at gave
      · cases gave
      · split at gave <;> cases gave
    · intro offset came
      obtain ⟨cursor, -, gave⟩ := Pool.exists_open_of_act came (by simp)
      change (pool.record.readAt buffer offset cursor).reply = _ at gave
      rw [readAt_of_poisoned shut.poisoned, if_neg (Nat.ne_of_gt asks)] at gave
      split at gave <;> cases gave
  ended index cursor found ended buffer := by
    apply Pool.act_of_idle found
    change pool.record.read buffer cursor = _
    rw [read_of_poisoned shut.poisoned, if_pos ended]
  refused index cursor buffer found asks := by
    constructor
    · intro going within
      apply Pool.act_of_idle found
      change pool.record.read buffer cursor = _
      rw [read_of_poisoned shut.poisoned, if_neg (Nat.ne_of_gt asks),
        if_neg (Nat.not_le.mpr within), going]
      rfl
    · intro offset within
      apply Pool.act_of_idle found
      change pool.record.readAt buffer offset cursor = _
      rw [readAt_of_poisoned shut.poisoned, if_neg (Nat.ne_of_gt asks),
        if_neg (Nat.not_le.mpr within)]
  written index cursor found _ _ sink := by
    obtain ⟨kept, -, reply⟩ := writeTo_of_poisoned shut.poisoned sink cursor
    obtain ⟨replied, -, left⟩ := Pool.writeTo_of_open found sink
    exact ⟨left.trans kept, replied.trans reply⟩
  hidden index _ callback := visit_of_poisoned shut.poisoned callback
  leaves index cursor found := by
    refine ⟨Pool.cursor?_close found, Pool.state_drop pool index, ?_⟩
    split
    · rename_i alone
      exact reply_close_of_alone entrusted found alone
    · rename_i others
      exact reply_close_of_others entrusted found others

/-- Whatever is asked of a poisoned body, it stays barren. -/
theorem barren_afterRun (entrusted : Entrusted Direct.custody Direct.sharers pool)
    (some_open : 0 < pool.openCount) (poisoned : pool.record.custody.poisoned = true)
    (later : List (Use σ τ)) : Barren pool (pool.afterRun (later.map Use.unseen)) := by
  obtain ⟨still, shut⟩ := afterRun_keeps
    (I := fun next => Entrusted Direct.custody Direct.sharers next ∧
      Shut Direct.custody pool.record.custody.source.entries next)
    (fun ⟨entrusted, shut⟩ step => ⟨entrusted.handled step.handled, shut.spared entrusted.held
      (entrusted.handled step.handled).held (step.spared_of_poisoned shut.poisoned)⟩)
    ⟨entrusted, .begun poisoned some_open⟩ (Use.lends_map_unseen later)
  exact barren shut still

end

end Payload.Direct
