import Payload.Proofs.Buffered.Uses
import Payload.Proofs.Calls
import Payload.Proofs.Direct.Uses

/-!
# Copies that share a source

Direct and buffered bodies count their open copies in their own ways, and both leave the source to
the last of them.  `Handled` is what an operation can do to the number of open copies, to the number
on record and to the source, whatever the kind of body.  From it follows, for both kinds, that the
number on record is right, that the source is held for as long as a copy is open, and that it is
closed once, by the last call to it.
-/

namespace Payload

open Relation

variable {σ ρ κ : Type} [Source σ] {engine : Engine σ ρ κ}

/-- What an operation does to the source and to the number of those who share it.  The source is
only lent to callbacks that `lends` allows. -/
inductive Handled (custody : ρ → Custody σ) (sharers : ρ → Nat)
    (lends : (σ → Option Unit × σ) → Prop) (pool next : Pool engine) : Prop where
  /-- The source is worked with. -/
  | worked (some_open : 0 < pool.openCount) (same : next.openCount = pool.openCount)
      (counted : sharers next.record = sharers pool.record)
      (held : (custody next.record).held = (custody pool.record).held)
      (works : ReflTransGen Source.Works (custody pool.record).source (custody next.record).source)
  /-- A copy joins. -/
  | joined (some_open : 0 < pool.openCount) (more : next.openCount = pool.openCount + 1)
      (counted : sharers next.record = sharers pool.record + 1)
      (kept : custody next.record = custody pool.record)
  /-- A closed copy is copied. -/
  | blank (same : next.openCount = pool.openCount) (kept : next.record = pool.record)
  /-- A copy leaves others behind. -/
  | left (others : 1 < sharers pool.record) (fewer : next.openCount + 1 = pool.openCount)
      (counted : sharers next.record = sharers pool.record - 1)
      (kept : custody next.record = custody pool.record)
  /-- The last copy leaves and closes the source. -/
  | last (note : Note) (alone : sharers pool.record ≤ 1)
      (fewer : next.openCount + 1 = pool.openCount)
      (counted : sharers next.record = sharers pool.record - 1)
      (closed : custody next.record = ((custody pool.record).close note).2.1)
  /-- The source is lent to a callback. -/
  | visited {callback : σ → Option Unit × σ} (lent : lends callback)
      (same : next.openCount = pool.openCount)
      (counted : sharers next.record = sharers pool.record)
      (kept : custody next.record = ((custody pool.record).visit callback).2)

/-! ## Both kinds of bodies -/

theorem Buffered.works_draw (known : Bool) (count : Nat) (source : σ) :
    ReflTransGen Source.Works source (draw known count source).2 := by
  unfold draw
  split
  · exact .refl
  · exact Source.works_readSteady _ _ _

theorem Buffered.Fills.works {record : Buffered σ} {shortfall : Nat} {fill : Fill σ}
    (fills : Fills record shortfall fill) :
    ReflTransGen Source.Works record.custody.source fill.record.custody.source := by
  have drew := works_draw record.length.isSome (record.order shortfall).1 record.custody.source
  cases fills with
  | released => exact .refl
  | crowded => exact .refl
  | broken held fits drawn =>
      rw [drawn] at drew
      exact drew
  | filled notes held fits drawn longer =>
      rw [drawn] at drew
      exact drew

/-- Whatever a read comes to, the source is only worked with. -/
theorem Buffered.Reads.works {record : Buffered σ} {want : Nat} {cursor : Buffered.Cursor}
    {turn : Turn (Buffered σ) Buffered.Cursor ByteArray} (reads : Reads want record cursor turn) :
    ReflTransGen Source.Works record.custody.source turn.record.custody.source := by
  cases reads with
  | ended => exact .refl
  | poisoned => exact .refl
  | broke going sound running short fills => exact fills.works
  | served going sound enough delivers =>
      rw [delivers.custody]
  | filled going sound running short fills intact delivers =>
      rw [delivers.custody]
      exact fills.works

/-- Nobody joins or leaves with a read. -/
theorem Buffered.Reads.handled {pool : Pool (Buffered.engine σ)} {index want : Nat}
    {cursor : Buffered.Cursor} {turn : Turn (Buffered σ) Buffered.Cursor ByteArray}
    {lends : (σ → Option Unit × σ) → Prop} (found : pool.cursor? index = some cursor)
    (reads : Reads want pool.record cursor turn) :
    Handled Buffered.custody Buffered.live lends pool
      (pool.put index turn.record turn.cursor) := by
  have some_open := Pool.openCount_pos found
  have same := Pool.openCount_put found turn.record turn.cursor
  have works := reads.works
  cases reads with
  | ended => exact .worked some_open same rfl rfl works
  | poisoned => exact .worked some_open same rfl rfl works
  | broke going sound running short fills =>
      exact .worked some_open same fills.refilled.live fills.refilled.held works
  | served going sound enough delivers =>
      exact .worked some_open same delivers.live (congrArg Custody.held delivers.custody) works
  | filled going sound running short fills intact delivers =>
      exact .worked some_open same (delivers.live.trans fills.refilled.live)
        ((congrArg Custody.held delivers.custody).trans fills.refilled.held) works

theorem Buffered.Step.handled {pool next : Pool (Buffered.engine σ)}
    {lends : (σ → Option Unit × σ) → Prop} (step : Step lends pool next) :
    Handled Buffered.custody Buffered.live lends pool next := by
  cases step with
  | read found reads => exact reads.handled found
  | copied found sound =>
      exact .joined (Pool.openCount_pos found) (Pool.openCount_add_some _ _ _) rfl rfl
  | blank => exact .blank (by rw [Pool.openCount, Pool.openCount, Pool.cursors_add_none]) rfl
  | left found others least trimmed =>
      exact .left others (Pool.openCount_remove found _) rfl rfl
  | last found alone =>
      exact .last _ (Nat.le_of_eq alone) (Pool.openCount_remove found _)
        (by rw [alone]; rfl) rfl
  | visited found lent => exact .visited lent rfl rfl rfl

theorem Buffered.handled_use {τ : Type} [Sink τ] {pool : Pool (Buffered.engine σ)}
    {lends : (σ → Option Unit × σ) → Prop} (balanced : Balanced pool) {use : Use σ τ}
    (lent : use.Lends lends) :
    ReflTransGen (Handled Buffered.custody Buffered.live lends) pool (pool.use use).2 :=
  (steps_use balanced lent).lift id fun _ _ step => step.handled

theorem Direct.Step.handled {pool next : Pool (Direct.engine σ)}
    {lends : (σ → Option Unit × σ) → Prop} (step : Step lends pool next) :
    Handled Direct.custody Direct.sharers lends pool next := by
  cases step with
  | read found reads =>
      exact .worked (Pool.openCount_pos found) (Pool.openCount_put found _ _) reads.served.sharers
        reads.served.held reads.served.works
  | readAt some_open reads =>
      exact .worked some_open rfl reads.served.sharers reads.served.held reads.served.works
  | sought found =>
      exact .worked (Pool.openCount_pos found) (Pool.openCount_put found _ _) rfl rfl .refl
  | copied found =>
      exact .joined (Pool.openCount_pos found) (Pool.openCount_add_some _ _ _) rfl rfl
  | blank => exact .blank (by rw [Pool.openCount, Pool.openCount, Pool.cursors_add_none]) rfl
  | left found others => exact .left others (Pool.openCount_remove found _) rfl rfl
  | last found alone => exact .last _ alone (Pool.openCount_remove found _) rfl rfl
  | visited some_open lent => exact .visited lent rfl rfl rfl

theorem Direct.handled_use {τ : Type} [Sink τ] (pool : Pool (Direct.engine σ))
    {lends : (σ → Option Unit × σ) → Prop} {use : Use σ τ} (lent : use.Lends lends) :
    ReflTransGen (Handled Direct.custody Direct.sharers lends) pool (pool.use use).2 :=
  (steps_use pool lent).lift id fun _ _ step => step.handled

/-! ## What holds of both -/

/-- The number of copies on record is right, and for as long as one is open the source is held and
is such a source. -/
structure Attended (custody : ρ → Custody σ) (sharers : ρ → Nat) (good : σ → Prop)
    (pool : Pool engine) : Prop where
  counted : sharers pool.record = pool.openCount
  held : (custody pool.record).held = true ↔ 0 < pool.openCount
  source : 0 < pool.openCount → good (custody pool.record).source

/-- Every operation keeps that, if working with the source and lending it do. -/
theorem Attended.handled {custody : ρ → Custody σ} {sharers : ρ → Nat} {good : σ → Prop}
    {lends : (σ → Option Unit × σ) → Prop} {pool next : Pool engine}
    (attended : Attended custody sharers good pool)
    (works : ∀ {source next}, good source → Source.Works source next → good next)
    (leaves : ∀ callback, lends callback → ∀ source, good source → good (callback source).2)
    (handled : Handled custody sharers lends pool next) : Attended custody sharers good next := by
  cases handled with
  | worked some_open same counted held worked =>
      constructor
      · rw [counted, same, attended.counted]
      · rw [held, same, attended.held]
      · intro _
        generalize (custody next.record).source = last at worked
        induction worked with
        | refl => exact attended.source some_open
        | tail _ once ih => exact works ih once
  | joined some_open more counted kept =>
      constructor
      · rw [counted, more, attended.counted]
      · rw [kept, more, attended.held]
        exact iff_of_true some_open (Nat.succ_pos _)
      · exact fun _ => kept ▸ attended.source some_open
  | blank same kept =>
      constructor
      · rw [kept, same, attended.counted]
      · rw [kept, same, attended.held]
      · rw [kept, same]
        exact attended.source
  | left others fewer counted kept =>
      have counts := attended.counted
      have before : 0 < pool.openCount := by omega
      have after : 0 < next.openCount := by omega
      constructor
      · omega
      · rw [kept, attended.held]
        exact iff_of_true before after
      · exact fun _ => kept ▸ attended.source before
  | last note alone fewer counted closed =>
      have counts := attended.counted
      constructor
      · omega
      · rw [closed, Custody.held_close]
        exact iff_of_false Bool.false_ne_true (by omega)
      · intro some_open
        omega
  | @visited callback lent same counted kept =>
      constructor
      · rw [counted, same, attended.counted]
      · rw [kept, Custody.held_visit, same, attended.held]
      · rw [same, kept]
        intro some_open
        have before := attended.source some_open
        rcases (custody pool.record).source_visit callback with untouched | called
        · rwa [untouched]
        · rw [called]
          exact leaves callback lent _ before

/-- The number of copies on record is right, and the source is held and not closed for as long as
one is open. -/
structure Entrusted {engine : Engine (Recorded σ) ρ κ} (custody : ρ → Custody (Recorded σ))
    (sharers : ρ → Nat) (pool : Pool engine) : Prop where
  counted : sharers pool.record = pool.openCount
  held : (custody pool.record).held = true ↔ 0 < pool.openCount
  working : 0 < pool.openCount → (custody pool.record).source.Unclosed
  closed : pool.openCount = 0 → (custody pool.record).source.ClosedLast

omit [Source σ] in
/-- The calls that a callback makes stay off the record. -/
theorem entries_visit {α : Type} (custody : Custody (Recorded σ))
    (callback : σ → Option α × σ) :
    (custody.visit (Recorded.unseen callback)).2.source.entries = custody.source.entries := by
  rcases custody.source_visit (Recorded.unseen callback) with same | called
  · rw [same]
  · rw [called]
    rfl

/-- Every operation keeps what is entrusted, if callbacks keep the calls on record as they are. -/
theorem Entrusted.handled {engine : Engine (Recorded σ) ρ κ}
    {custody : ρ → Custody (Recorded σ)} {sharers : ρ → Nat} {pool next : Pool engine}
    (entrusted : Entrusted custody sharers pool)
    (handled : Handled custody sharers (fun callback => ∃ inside, callback = Recorded.unseen inside)
      pool next) : Entrusted custody sharers next := by
  have attended : Attended custody sharers Recorded.Unclosed pool :=
    ⟨entrusted.counted, entrusted.held, entrusted.working⟩
  obtain ⟨counted, held, working⟩ := attended.handled Recorded.Unclosed.works
    (fun _ ⟨_, unseen⟩ _ unclosed => unseen ▸ unclosed) handled
  refine ⟨counted, held, working, fun none_open => ?_⟩
  cases handled with
  | worked some_open same =>
      rw [same] at none_open
      exact absurd some_open (Nat.not_lt.mpr (Nat.le_of_eq none_open))
  | joined _ more =>
      rw [more] at none_open
      cases none_open
  | blank same kept =>
      rw [kept]
      exact entrusted.closed (same ▸ none_open)
  | left others fewer =>
      have counts := entrusted.counted
      omega
  | last note alone fewer _ closed =>
      have before : 0 < pool.openCount := by omega
      rw [closed, Custody.close, if_pos (entrusted.held.mpr before)]
      exact (entrusted.working before).close
  | visited lent same _ kept =>
      obtain ⟨inside, rfl⟩ := lent
      rw [kept, Recorded.ClosedLast, entries_visit]
      exact entrusted.closed (same ▸ none_open)

theorem Entrusted.handled_many {engine : Engine (Recorded σ) ρ κ}
    {custody : ρ → Custody (Recorded σ)} {sharers : ρ → Nat} {pool next : Pool engine}
    (entrusted : Entrusted custody sharers pool)
    (handled : ReflTransGen
      (Handled custody sharers fun callback => ∃ inside, callback = Recorded.unseen inside)
      pool next) : Entrusted custody sharers next := by
  induction handled with
  | refl => exact entrusted
  | tail _ handled ih => exact ih.handled handled

theorem Direct.entrusted_fresh {recorded : Recorded σ} (unclosed : recorded.Unclosed)
    (access : Access) (base length : Nat) :
    Entrusted Direct.custody Direct.sharers (fresh recorded access base length) :=
  ⟨rfl, iff_of_true rfl Nat.one_pos, fun _ => unclosed, nofun⟩

theorem Direct.entrusted_afterRun {τ : Type} [Sink τ] {pool : Pool (Direct.engine (Recorded σ))}
    (entrusted : Entrusted Direct.custody Direct.sharers pool) (uses : List (Use σ τ)) :
    Entrusted Direct.custody Direct.sharers (pool.afterRun (uses.map Use.unseen)) :=
  afterRun_keeps (fun entrusted step => entrusted.handled step.handled) entrusted
    (Use.lends_map_unseen uses)

/-! ## Leaving -/

theorem Direct.reply_close_of_others {pool : Pool (Direct.engine (Recorded σ))} {index : Nat}
    {cursor : Cursor} (entrusted : Entrusted Direct.custody Direct.sharers pool)
    (found : pool.cursor? index = some cursor) (others : pool.openCount ≠ 1) :
    (pool.close index).reply = .done () := by
  have some_open := Pool.openCount_pos found
  have counted := entrusted.counted
  have several : 1 < pool.record.sharers := by omega
  rw [(Pool.close_of_open found).1]
  change (pool.record.close cursor).reply = _
  rw [close, if_pos several]

/-- The last copy hands on what closing the source comes to. -/
theorem Direct.reply_close_of_alone {pool : Pool (Direct.engine (Recorded σ))} {index : Nat}
    {cursor : Cursor} (entrusted : Entrusted Direct.custody Direct.sharers pool)
    (found : pool.cursor? index = some cursor) (alone : pool.openCount = 1) :
    (pool.close index).reply =
      (Source.close pool.record.custody.source).1.mapFailure fun fault =>
        ⟨.close, .fault fault⟩ := by
  have held := entrusted.held.mpr (Pool.openCount_pos found)
  have counted := entrusted.counted
  have single : ¬1 < pool.record.sharers := by omega
  rw [(Pool.close_of_open found).1]
  change (pool.record.close cursor).reply = _
  rw [close, if_neg single]
  dsimp only
  rw [Custody.close, if_pos held]

end Payload
