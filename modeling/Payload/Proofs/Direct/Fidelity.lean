import Payload.Proofs.Buffered.Delivery
import Payload.Proofs.Direct.Logging
import Payload.Proofs.Direct.Uses

/-!
# No byte is lost or given twice where a source is read in place

The source fails, gives less than it was asked for or breaks off whenever it likes, but what it
gives to a read at a position are its bytes from there on.  A copy moves just past the bytes that it
is given and stays where it is when it is given none.  So from one place to the next it is given the
stretch between them, and nothing that another copy does shows in it.
-/

namespace Payload

theorem Source.Positioned.recorded {σ : Type} [Source σ] {access : Access} {data : List UInt8}
    {good : σ → Prop} (positioned : Positioned access data good) :
    Positioned access data fun recorded : Recorded σ => good recorded.source where
  addressed able _ want position trusted := positioned.addressed able want position trusted
  moved able _ position trusted := positioned.moved able position trusted
  read able source next position stands want trusted sought := by
    have inside : Source.seek (.start position) source.source = (.done stands, next.source) :=
      congrArg (fun step => (step.1, step.2.source)) sought
    exact positioned.read able want trusted inside

/-- A callback after which such a source is one still. -/
def Source.Leaves {σ α : Type} (good : σ → Prop) (callback : σ → Option α × σ) : Prop :=
  ∀ source, good source → good (callback source).2

theorem Use.lends_unseen_leaves {σ τ : Type} {good : σ → Prop} {use : Use σ τ}
    (lent : use.Lends (Source.Leaves good)) :
    use.unseen.Lends (Source.Leaves fun recorded : Recorded σ => good recorded.source) := by
  cases use with
  | visit index callback => exact fun recorded trusted => lent recorded.source trusted
  | _ => trivial

/-- The latest call was a read, and nothing came of it. -/
def Recorded.Dry {σ : Type} (recorded : Recorded σ) : Prop :=
  ∃ entry, recorded.entries.head? = some entry ∧ entry.Gave 0

namespace Direct

variable {σ τ : Type} [Source σ] [Sink τ] {access : Access} {data : List UInt8} {good : σ → Prop}
  {direct : Direct σ} {base length : Nat}

/-! ## What is fetched -/

/-- The record has such a source for as long as it holds it. -/
structure Relies (good : σ → Prop) (access : Access) (direct : Direct σ) : Prop where
  access : direct.access = access
  source : direct.custody.held = true → good direct.custody.source

theorem Relies.ask (relies : Relies good access direct)
    (positioned : Source.Positioned access data good) (operation : Operation)
    (want position : Nat) :
    Relies good access (direct.ask operation want position).2 ∧
      ∀ reading, (direct.ask operation want position).1 = .done reading →
        Source.Finds data position reading := by
  have asks := asks operation want position direct
  obtain ⟨access_eq, source⟩ := relies
  generalize direct.ask operation want position = out at asks ⊢
  cases asks with
  | poisoned => exact ⟨⟨access_eq, source⟩, nofun⟩
  | released => exact ⟨⟨access_eq, source⟩, nofun⟩
  | unsupported => exact ⟨⟨access_eq, source⟩, nofun⟩
  | addressed sound held there =>
      obtain ⟨finds, still⟩ :=
        positioned.addressed (access_eq.symm.trans there) want position (source held)
      refine ⟨⟨access_eq, fun _ => still⟩, fun reading came => ?_⟩
      cases came
      exact finds
  | stuck sound held there sought =>
      have still := positioned.moved (access_eq.symm.trans there) position (source held)
      rw [sought] at still
      exact ⟨⟨access_eq, fun _ => still⟩, nofun⟩
  | lost sound held there sought =>
      have still := positioned.moved (access_eq.symm.trans there) position (source held)
      rw [sought] at still
      exact ⟨⟨access_eq, fun _ => still⟩, nofun⟩
  | moved sound held there sought =>
      obtain ⟨finds, still⟩ :=
        positioned.read (access_eq.symm.trans there) want (source held) sought
      refine ⟨⟨access_eq, fun _ => still⟩, fun reading came => ?_⟩
      cases came
      exact finds

/-- What is fetched are the bytes from the offset on. -/
theorem Relies.fetch (relies : Relies good access direct)
    (positioned : Source.Positioned access data good) (operation : Operation) (buffer : Buffer)
    (want offset : Nat) :
    Relies good access (direct.fetch operation buffer want offset).2 ∧
      ∀ bytes, (direct.fetch operation buffer want offset).1 = .done bytes →
        bytes.data.toList <+: data.drop (direct.base + offset) ∧ bytes.size ≤ want := by
  rcases fetch_rule operation buffer want offset (I := Relies good access)
      (fun current fault next relies asked _ => by
        have after := (relies.ask positioned operation want (direct.base + offset)).1
        rwa [asked] at after) relies with ⟨fault, far⟩ | ⟨left, last, relied, settles⟩
  · rw [far]
    exact ⟨relies, nofun⟩
  · obtain ⟨after, finds⟩ := relied.ask positioned operation want (direct.base + offset)
    generalize direct.fetch operation buffer want offset = out at settles ⊢
    cases settles with
    | exhausted => exact ⟨relied, nofun⟩
    | gave asked received =>
        rw [asked] at after finds
        obtain ⟨content, fits, rfl, ahead⟩ := finds _ rfl _ rfl
        cases received
        refine ⟨after, fun bytes came => ?_⟩
        cases came
        exact ⟨ahead, fits⟩
    | absurd asked =>
        rw [asked] at after
        exact ⟨after, nofun⟩
    | failed asked =>
        rw [asked] at after
        exact ⟨after, nofun⟩
    | broke asked =>
        rw [asked] at after
        exact ⟨after, nofun⟩
    | refused asked =>
        rw [asked] at after
        exact ⟨after, nofun⟩
    | lost asked =>
        rw [asked] at after
        exact ⟨after, nofun⟩

/-! ## Reads at the cursor -/

section

variable {buffer : Buffer} {offset : Nat} {cursor : Cursor}
  {turn : Turn (Direct σ) Cursor ByteArray}

theorem Reads.relies (reads : Reads buffer direct cursor turn)
    (positioned : Source.Positioned access data good) (relies : Relies good access direct) :
    Relies good access turn.record :=
  reads.keeps relies fun _ _ => (relies.fetch positioned _ _ _ _).1

theorem ReadsAt.relies (reads : ReadsAt buffer offset direct cursor turn)
    (positioned : Source.Positioned access data good) (relies : Relies good access direct) :
    Relies good access turn.record :=
  reads.keeps relies fun _ _ => (relies.fetch positioned _ _ _ _).1

/-- A read that fails, other than for the end, leaves the cursor alone. -/
theorem Reads.cursor_of_failed (reads : Reads buffer direct cursor turn) {error : Error}
    (failed : turn.reply = .failed error) (cause : error.cause ≠ .endOfStream) :
    turn.cursor = cursor := by
  cases reads with
  | ended => rfl
  | nothing => rfl
  | past =>
      cases failed
      exact absurd rfl cause
  | dry =>
      cases failed
      exact absurd rfl cause
  | gave => cases failed
  | failed => rfl
  | broke => rfl

/-- A read that gives nothing moves nothing. -/
theorem Reads.offset_of_idle (reads : Reads buffer direct cursor turn)
    (idle : ∀ bytes, turn.reply ≠ .done bytes) : turn.cursor.offset = cursor.offset := by
  cases reads with
  | gave => exact absurd rfl (idle _)
  | _ => rfl

/-- A read that gives bytes gives those from the cursor on, and moves it past them. -/
theorem Reads.given (reads : Reads buffer direct cursor turn)
    (positioned : Source.Positioned access data good) (relies : Relies good access direct)
    {bytes : ByteArray} (done : turn.reply = .done bytes) :
    bytes.data.toList = span data (direct.base + cursor.offset)
        (direct.base + cursor.offset + bytes.size) ∧
      turn.cursor.offset = cursor.offset + bytes.size ∧ (0 < buffer.size → 0 < bytes.size) ∧
      (cursor.offset ≤ direct.length → cursor.offset + bytes.size ≤ direct.length) := by
  have fetched := (relies.fetch positioned .read buffer
    (min buffer.size (direct.length - cursor.offset)) cursor.offset).2
  cases reads with
  | ended => cases done
  | nothing going asks =>
      cases done
      refine ⟨(span_self data _).symm, rfl, fun some_room => ?_, id⟩
      exact absurd asks (Nat.ne_of_gt some_room)
  | past => cases done
  | dry => cases done
  | gave going asks within came some_bytes =>
      cases done
      rw [came] at fetched
      obtain ⟨ahead, fits⟩ := fetched _ rfl
      refine ⟨?_, rfl, fun _ => Nat.pos_of_ne_zero some_bytes, fun _ => by omega⟩
      simpa using eq_span_of_prefix ahead
  | failed => cases done
  | broke => cases done

/-- No read leaves a cursor past the end. -/
theorem Reads.offset_le (reads : Reads buffer direct cursor turn)
    (positioned : Source.Positioned access data good) (relies : Relies good access direct)
    (inside : cursor.offset ≤ direct.length) : turn.cursor.offset ≤ direct.length := by
  by_cases done : ∃ bytes, turn.reply = .done bytes
  · obtain ⟨bytes, done⟩ := done
    obtain ⟨-, moves, -, within⟩ := reads.given positioned relies done
    rw [moves]
    exact within inside
  · rw [reads.offset_of_idle fun bytes came => done ⟨bytes, came⟩]
    exact inside

end

/-- The end shows only where more was asked for than was left, or where the source gave nothing. -/
theorem Reads.ended_only {direct : Direct (Recorded σ)} {buffer : Buffer} {cursor : Cursor}
    {turn : Turn (Direct (Recorded σ)) Cursor ByteArray} (reads : Reads buffer direct cursor turn)
    (inside : cursor.offset ≤ direct.length) (going : cursor.ended = false)
    (ended : turn.cursor.ended = true) :
    (turn.cursor.offset = direct.length ∧ direct.length < cursor.offset + buffer.size) ∨
      turn.record.custody.source.Dry := by
  have fetches := logs_fetch .read buffer (min buffer.size (direct.length - cursor.offset))
    cursor.offset direct
  cases reads with
  | ended already =>
      rw [going] at already
      cases already
  | nothing =>
      rw [going] at ended
      cases ended
  | past _ asks past => exact Or.inl ⟨Nat.le_antisymm inside past, by omega⟩
  | dry _ asks within came nothing =>
      rw [came] at fetches
      obtain ⟨made, logs, -, gave⟩ := fetches
      obtain ⟨entry, latest, given⟩ := gave _ rfl
      rw [nothing] at given
      refine Or.inr ⟨entry, ?_, given⟩
      rw [logs.entries, List.head?_append, latest]
      rfl
  | @gave bytes next _ asks within came some_bytes =>
      simp only [Bool.and_eq_true, decide_eq_true_eq, beq_iff_eq] at ended
      have final : cursor.offset + bytes.size = direct.length := by omega
      exact Or.inl ⟨final, by omega⟩
  | failed =>
      rw [going] at ended
      cases ended
  | broke =>
      rw [going] at ended
      cases ended

/-- Where the end shows after a read, it showed before or the copy is there, or the source gave
nothing. -/
theorem Reads.told {direct : Direct (Recorded σ)} {buffer : Buffer} {cursor : Cursor}
    {turn : Turn (Direct (Recorded σ)) Cursor ByteArray} (reads : Reads buffer direct cursor turn)
    (inside : cursor.offset ≤ direct.length)
    (told : cursor.ended = true → cursor.offset = direct.length ∨ direct.custody.source.Dry)
    (ended : turn.cursor.ended = true) :
    turn.cursor.offset = direct.length ∨ turn.record.custody.source.Dry := by
  cases before : cursor.ended with
  | false =>
      rcases reads.ended_only inside before ended with ⟨there, -⟩ | dry
      · exact Or.inl there
      · exact Or.inr dry
  | true =>
      cases reads with
      | ended => exact told before
      | nothing going => cases going.symm.trans before
      | past going => cases going.symm.trans before
      | dry going => cases going.symm.trans before
      | gave going => cases going.symm.trans before
      | failed going => cases going.symm.trans before
      | broke going => cases going.symm.trans before

/-! ## Every copy -/

/-- The record has such a source for as long as it holds it, and no copy stands past the end. -/
structure Trusts (good : σ → Prop) (access : Access) (base length : Nat) (pool : Pool (engine σ)) :
    Prop where
  relies : Relies good access pool.record
  base : pool.record.base = base
  length : pool.record.length = length
  within : ∀ cursor ∈ pool.cursors, cursor.offset ≤ pool.record.length

theorem trusts_fresh {source : σ} (starts : good source) (access : Access) (base length : Nat) :
    Trusts good access base length (fresh source access base length) where
  relies := ⟨rfl, fun _ => starts⟩
  base := rfl
  length := rfl
  within cursor member := by
    have first : cursor = {} := by simpa [fresh, Pool.cursors] using member
    rw [first]
    exact Nat.zero_le _

section

variable {pool next : Pool (engine σ)} {index : Nat} {cursor : Cursor}

theorem Trusts.offset_le (trusts : Trusts good access base length pool)
    (found : pool.cursor? index = some cursor) : cursor.offset ≤ pool.record.length :=
  trusts.within cursor (Pool.mem_cursors_iff.mpr ⟨index, found⟩)

/-- Every step leaves such a source and the copies within the body. -/
theorem Trusts.step (trusts : Trusts good access base length pool)
    (positioned : Source.Positioned access data good)
    (step : Step (Source.Leaves good) pool next) : Trusts good access base length next := by
  obtain ⟨relies, base_eq, length_eq, within⟩ := trusts
  cases step with
  | @read index cursor buffer turn found reads =>
      have served := reads.served
      have inside := within cursor (Pool.mem_cursors_iff.mpr ⟨index, found⟩)
      refine ⟨reads.relies positioned relies, served.base.trans base_eq,
        served.length.trans length_eq, fun other member => ?_⟩
      rw [Pool.record_put, served.length]
      rcases Pool.mem_cursors_put found member with old | rfl
      · exact within other old
      · exact reads.offset_le positioned relies inside
  | readAt some_open reads =>
      have served := reads.served
      refine ⟨reads.relies positioned relies, served.base.trans base_eq,
        served.length.trans length_eq, fun other member => ?_⟩
      rw [Pool.record_withRecord, served.length]
      exact within other member
  | sought found arrives =>
      refine ⟨relies, base_eq, length_eq, fun other member => ?_⟩
      rcases Pool.mem_cursors_put found member with old | rfl
      · exact within other old
      · exact arrives
  | @copied index cursor found =>
      refine ⟨⟨relies.access, relies.source⟩, base_eq, length_eq, fun other member => ?_⟩
      rw [Pool.cursors_add_some] at member
      rcases List.mem_append.mp member with old | new
      · exact within other old
      · rw [List.mem_singleton.mp new]
        exact within cursor (Pool.mem_cursors_iff.mpr ⟨index, found⟩)
  | blank =>
      refine ⟨relies, base_eq, length_eq, fun other member => ?_⟩
      rw [Pool.cursors_add_none] at member
      exact within other member
  | left found others =>
      exact ⟨⟨relies.access, relies.source⟩, base_eq, length_eq,
        fun other member => within other (Pool.mem_cursors_remove found member)⟩
  | last found alone =>
      refine ⟨⟨relies.access, fun held => ?_⟩, base_eq, length_eq,
        fun other member => within other (Pool.mem_cursors_remove found member)⟩
      rw [Pool.record_remove, Custody.held_close] at held
      cases held
  | @visited callback some_open lent =>
      refine ⟨⟨relies.access, fun held => ?_⟩, base_eq, length_eq, within⟩
      rw [Pool.record_withRecord, Custody.held_visit] at held
      rw [Pool.record_withRecord]
      rcases pool.record.custody.source_visit callback with same | called
      · rw [same]
        exact relies.source held
      · rw [called]
        exact lent _ (relies.source held)

theorem Trusts.afterRun (trusts : Trusts good access base length pool)
    (positioned : Source.Positioned access data good) {uses : List (Use σ τ)}
    (lent : ∀ use ∈ uses, use.Lends (Source.Leaves good)) :
    Trusts good access base length (pool.afterRun uses) :=
  afterRun_keeps (fun trusts step => Trusts.step trusts positioned step) trusts lent

end

/-! ## What a copy is given -/

/-- Whether this is a seek of the copy, and one that worked. -/
def Sought (index : Nat) : Use σ τ → Receipt τ → Prop
  | .seek asked _ _, .position (.done _) => asked = index
  | _, _ => False

/-- These are the bytes from one place of a copy up to where it is left, if it still is. -/
structure Hands (data : List UInt8) (base index first last : Nat) (bytes : List UInt8)
    (next : Pool (engine σ)) : Prop where
  onwards : first ≤ last
  bytes : bytes = span data (base + first) (base + last)
  left : ∀ current, next.cursor? index = some current → current.offset = last

section

open Buffered (handed handedAll)

variable {willing : τ → Prop} {content : τ → List UInt8} {pool next : Pool (engine σ)}
  {index : Nat} {cursor : Cursor}

/-- What a use can mean to a copy that is open. -/
inductive Moves (pool : Pool (engine σ)) (index : Nat) (cursor : Cursor) (use : Use σ τ) :
    Prop where
  | read (buffer : Buffer) (asked : use = .read index buffer)
  | readOut (sink : τ) (asked : use = .writeTo index sink)
  | sought (position : Nat) (sought : Sought index use (pool.use use).1)
      (there : (pool.use use).2.cursor? index = some { offset := position })
  /-- Nothing is given, and the copy is left where it is or closed. -/
  | idle (nothing : ∀ content : τ → List UInt8, handed content index use (pool.use use).1 = [])
      (left : ∀ current, (pool.use use).2.cursor? index = some current → current = cursor)

theorem moves_use (found : pool.cursor? index = some cursor) (use : Use σ τ) :
    Moves pool index cursor use := by
  have stays {next : Pool (engine σ)} (same : next.cursor? index = some cursor) (current : Cursor)
      (there : next.cursor? index = some current) : current = cursor :=
    Option.some.inj (there.symm.trans same)
  cases Pool.means_use still found use with
  | read buffer asked => exact .read buffer asked
  | readOut sink asked => exact .readOut sink asked
  | sought offset whence asked =>
      subst asked
      rcases state_seek_of_open found offset whence with ⟨same, -⟩ | ⟨position, -, done, arrives⟩
      · refine .idle (fun _ => rfl) (stays ?_)
        change (pool.seek index offset whence).state.cursor? index = _
        rw [same]
        exact found
      · refine .sought position ?_ ?_
        · change Sought index (.seek index offset whence : Use σ τ)
            (.position (pool.seek index offset whence).reply)
          rw [done]
          rfl
        · change (pool.seek index offset whence).state.cursor? index = _
          rw [arrives, Pool.cursor?_put_self found]
  | idle unread unpoured left =>
      refine .idle (fun content => Buffered.handed_of_unread unread unpoured _) ?_
      rcases left with same | gone
      · exact stays same
      · intro current there
        rw [gone] at there
        cases there

theorem hands_of_idle
    (idle : ∀ current, next.cursor? index = some current → current.offset = cursor.offset) :
    ∃ last, Hands data base index cursor.offset last [] next :=
  ⟨_, Nat.le_refl _, (span_self _ _).symm, idle⟩

/-- What a copy is given when it is read. -/
theorem Trusts.hands_read (trusts : Trusts good access base length pool)
    (positioned : Source.Positioned access data good) (found : pool.cursor? index = some cursor)
    (content : τ → List UInt8) (buffer : Buffer) :
    ∃ last, Hands data base index cursor.offset last
      (handed content index (.read index buffer : Use σ τ)
        (pool.use (.read index buffer : Use σ τ)).1)
      (pool.use (.read index buffer : Use σ τ)).2 := by
  have reads := reads buffer pool.record cursor
  have acts : Pool.Acts pool cursor (.read index buffer : Use σ τ) _ := Pool.acts_of_open found
  generalize pool.use (.read index buffer : Use σ τ) = out at acts ⊢
  cases acts
  change ∃ last, Hands _ _ _ _ last
    (handed content index (.read index buffer : Use σ τ)
      (.bytes (pool.record.read buffer cursor).reply))
    (pool.put index (pool.record.read buffer cursor).record
      (pool.record.read buffer cursor).cursor)
  have left := Pool.cursor?_put_self found (pool.record.read buffer cursor).record
    (pool.record.read buffer cursor).cursor
  generalize pool.record.read buffer cursor = turn at reads left ⊢
  have stands (current : Cursor)
      (there : (pool.put index turn.record turn.cursor).cursor? index = some current) :
      current = turn.cursor := by
    rw [left] at there
    exact (Option.some.inj there).symm
  cases reply : turn.reply with
  | done bytes =>
      obtain ⟨bytes_eq, moves, -⟩ := reads.given positioned trusts.relies reply
      rw [trusts.base] at bytes_eq
      refine ⟨turn.cursor.offset, by omega, ?_, fun current there => by rw [stands current there]⟩
      rw [moves, ← Nat.add_assoc]
      exact (if_pos rfl).trans bytes_eq
  | failed error =>
      refine hands_of_idle fun current there => ?_
      rw [stands current there]
      exact reads.offset_of_idle fun bytes done => by cases reply.symm.trans done
  | broke =>
      refine hands_of_idle fun current there => ?_
      rw [stands current there]
      exact reads.offset_of_idle fun bytes done => by cases reply.symm.trans done

/-- What a willing sink is given when a copy is read out. -/
theorem Relies.writes (relies : Relies good access direct)
    (positioned : Source.Positioned access data good) (sinks : Sink.Willing willing content)
    {sink : τ} (ready : willing sink) (cursor : Cursor) :
    cursor.offset ≤ (writeTo sink direct cursor).1.cursor.offset ∧
      content (writeTo sink direct cursor).2 = content sink ++
        span data (direct.base + cursor.offset)
          (direct.base + (writeTo sink direct cursor).1.cursor.offset) := by
  unfold writeTo
  dsimp only
  obtain ⟨total, later, record, current, ⟨relied, base_eq, taking, onwards, taken⟩, pumped⟩ :=
    pump_rule (read (σ := σ))
      (I := fun _ later record current => Relies good access record ∧
        record.base = direct.base ∧ willing later ∧ cursor.offset ≤ current.offset ∧
        content later = content sink ++
          span data (direct.base + cursor.offset) (direct.base + current.offset))
      (fun _ later record current buffer bytes next held sized done offer => by
        obtain ⟨relied, base_eq, taking, onwards, taken⟩ := held
        have reads := reads buffer record current
        obtain ⟨bytes_eq, moves, -⟩ := reads.given positioned relied done
        obtain ⟨last, offered, still, kept⟩ := sinks.takeAll bytes taking
        rw [offer] at offered
        cases offered
        refine ⟨reads.relies positioned relied, reads.served.base.trans base_eq, still,
          by omega, ?_⟩
        rw [kept, taken, bytes_eq, base_eq, moves, List.append_assoc, Nat.add_assoc,
          span_append data (by omega) (by omega)])
      (.fresh (scratch defaultBlock (some (cursor.remaining direct.length)))) sink rfl
      ⟨relies, rfl, ready, Nat.le_refl _, by simp⟩
  have idle (buffer : Buffer)
      (none_given : ∀ bytes, (read buffer record current).reply ≠ .done bytes) :
      (read buffer record current).cursor.offset = current.offset :=
    (reads buffer record current).offset_of_idle none_given
  have takes (bytes : ByteArray) {outcome : Outcome Fault Unit} {last : τ}
      (offer : Sink.takeAll bytes later = (outcome, last)) : outcome = .done () := by
    obtain ⟨_, offered, -⟩ := sinks.takeAll bytes taking
    rw [offer] at offered
    exact congrArg Prod.fst offered
  generalize pump read _ sink direct cursor = out at pumped ⊢
  cases pumped with
  | endless => exact ⟨onwards, taken⟩
  | @stopped buffer error notes sized failed =>
      have stays := idle buffer fun bytes done => by cases failed.symm.trans done
      dsimp only
      rw [stays]
      exact ⟨onwards, taken⟩
  | @broke buffer notes sized broke =>
      have stays := idle buffer fun bytes done => by cases broke.symm.trans done
      dsimp only
      rw [stays]
      exact ⟨onwards, taken⟩
  | refused notes sized done offer => cases takes _ offer
  | swallowed notes sized done offer => cases takes _ offer

theorem Trusts.hands_writeTo (trusts : Trusts good access base length pool)
    (positioned : Source.Positioned access data good) (sinks : Sink.Willing willing content)
    (found : pool.cursor? index = some cursor) {sink : τ} (ready : willing sink) :
    ∃ last, Hands data base index cursor.offset last
      (handed content index (.writeTo index sink : Use σ τ)
        (pool.use (.writeTo index sink : Use σ τ)).1)
      (pool.use (.writeTo index sink : Use σ τ)).2 := by
  obtain ⟨onwards, taken⟩ := trusts.relies.writes positioned sinks ready cursor
  rw [trusts.base] at taken
  have acts : Pool.Acts pool cursor (.writeTo index sink : Use σ τ) _ := Pool.acts_of_open found
  generalize pool.use (.writeTo index sink : Use σ τ) = out at acts ⊢
  cases acts
  refine ⟨(writeTo sink pool.record cursor).1.cursor.offset, onwards, ?_, ?_⟩
  · simp only [handed, if_true]
    exact (congrArg (List.drop _) taken).trans List.drop_left
  · intro current there
    obtain rfl := Option.some.inj ((Pool.cursor?_put_self found _ _).symm.trans there)
    rfl

/-- A use gives a copy the stretch that it moves past, unless it is a seek of it. -/
theorem Trusts.hands (trusts : Trusts good access base length pool)
    (positioned : Source.Positioned access data good) (sinks : Sink.Willing willing content)
    (found : pool.cursor? index = some cursor) {use : Use σ τ}
    (pours : use.index = index → use.Pours willing)
    (unmoved : ¬Sought index use (pool.use use).1) :
    ∃ last, Hands data base index cursor.offset last
      (handed content index use (pool.use use).1) (pool.use use).2 := by
  cases moves_use found use with
  | read buffer asked =>
      subst asked
      exact trusts.hands_read positioned found content buffer
  | readOut sink asked =>
      subst asked
      exact trusts.hands_writeTo positioned sinks found (pours rfl)
  | sought position sought => exact absurd sought unmoved
  | idle nothing left =>
      rw [nothing]
      exact hands_of_idle fun current there => congrArg Cursor.offset (left current there)

/-- Between two seeks a copy is given the stretch that it moves past. -/
theorem Trusts.hands_run (trusts : Trusts good access base length pool)
    (positioned : Source.Positioned access data good) (sinks : Sink.Willing willing content)
    (found : pool.cursor? index = some cursor) {uses : List (Use σ τ)}
    (lent : ∀ use ∈ uses, use.Lends (Source.Leaves good))
    (pours : ∀ use ∈ uses, use.index = index → use.Pours willing)
    (unmoved : ∀ pair ∈ uses.zip (pool.run uses).1, ¬Sought index pair.1 pair.2) :
    ∃ last, Hands data base index cursor.offset last
      (handedAll content index uses (pool.run uses).1) (pool.afterRun uses) := by
  induction uses generalizing pool cursor with
  | nil =>
      refine hands_of_idle fun current there => ?_
      rw [Pool.afterRun_nil, found] at there
      cases there
      rfl
  | cons use rest ih =>
      rw [Pool.run_cons, List.zip_cons_cons] at unmoved
      obtain ⟨middle, first⟩ := trusts.hands positioned sinks found (pours use List.mem_cons_self)
        (unmoved _ List.mem_cons_self)
      have still : Trusts good access base length (pool.use use).2 :=
        use_keeps (fun trusts step => Trusts.step trusts positioned step) trusts
          (lent use List.mem_cons_self)
      rw [Pool.run_cons, Buffered.handedAll_cons, Pool.afterRun_cons]
      cases there : (pool.use use).2.cursor? index with
      | none =>
          have within := Nat.lt_of_lt_of_le (Pool.lt_length_of_cursor?_eq_some found)
            (Pool.length_le_use pool use)
          obtain ⟨nothing, closed⟩ := Buffered.handedAll_of_closed within there rest
          refine ⟨middle, first.onwards, ?_, fun current left => ?_⟩
          · rw [nothing, List.append_nil]
            exact first.bytes
          · rw [closed] at left
            cases left
      | some current =>
          have second := ih still there
            (fun later member => lent later (List.mem_cons_of_mem _ member))
            (fun later member => pours later (List.mem_cons_of_mem _ member))
            (fun pair member => unmoved pair (List.mem_cons_of_mem _ member))
          rw [first.left current there] at second
          obtain ⟨last, second⟩ := second
          refine ⟨last, Nat.le_trans first.onwards second.onwards, ?_, second.left⟩
          rw [first.bytes, second.bytes, span_append data
            (Nat.add_le_add_left first.onwards _) (Nat.add_le_add_left second.onwards _)]

end

/-! ## When the end shows -/

/-- Whether a use reads a copy past the end: with one read, or by reading it out, which goes on
until the end is met. -/
def Overreaches (length : Nat) (cursor : Cursor) : Use σ τ → Prop
  | .read _ buffer => length < cursor.offset + buffer.size
  | .writeTo _ _ => True
  | _ => False

/-- A copy that is read out comes to the end at the end, or where the source gave nothing. -/
theorem Relies.ended_writeTo {direct : Direct (Recorded σ)} {good : Recorded σ → Prop}
    (relies : Relies good access direct) (positioned : Source.Positioned access data good)
    (sink : τ) {cursor : Cursor} (inside : cursor.offset ≤ direct.length)
    (going : cursor.ended = false)
    (ended : (writeTo sink direct cursor).1.cursor.ended = true) :
    (writeTo sink direct cursor).1.cursor.offset = direct.length ∨
      (writeTo sink direct cursor).1.record.custody.source.Dry := by
  revert ended
  unfold writeTo
  dsimp only
  obtain ⟨total, later, record, current, ⟨relied, length_eq, within, told⟩, pumped⟩ :=
    pump_rule (read (σ := Recorded σ))
      (I := fun _ (_ : τ) record current => Relies good access record ∧
        record.length = direct.length ∧ current.offset ≤ direct.length ∧
        (current.ended = true → current.offset = direct.length ∨ record.custody.source.Dry))
      (fun _ _ record current buffer bytes next held sized done offer => by
        obtain ⟨relied, length_eq, within, told⟩ := held
        have reads := reads buffer record current
        have arrives := reads.offset_le positioned relied (length_eq.symm ▸ within)
        refine ⟨reads.relies positioned relied, reads.served.length.trans length_eq,
          length_eq ▸ arrives, fun ended => ?_⟩
        exact length_eq ▸ reads.told (length_eq.symm ▸ within) (length_eq.symm ▸ told) ended)
      (.fresh (scratch defaultBlock (some (cursor.remaining direct.length)))) sink rfl
      ⟨relies, rfl, inside, fun ended => by rw [going] at ended; cases ended⟩
  have last (buffer : Buffer) (ended : (read buffer record current).cursor.ended = true) :
      (read buffer record current).cursor.offset = direct.length ∨
        (read buffer record current).record.custody.source.Dry := by
    have reads := reads buffer record current
    exact length_eq ▸ reads.told (length_eq.symm ▸ within) (length_eq.symm ▸ told) ended
  generalize pump read _ sink direct cursor = out at pumped ⊢
  cases pumped with
  | endless => exact told
  | stopped => exact last _
  | broke => exact last _
  | refused => exact last _
  | swallowed => exact last _

section

variable {pool : Pool (engine (Recorded σ))} {good : Recorded σ → Prop} {index : Nat}
  {cursor : Cursor}

/-- The end shows only after the copy itself was read: past the end, and it is there then, or to
where the source gave nothing. -/
theorem Trusts.ended_use (trusts : Trusts good access base length pool)
    (positioned : Source.Positioned access data good) (found : pool.cursor? index = some cursor)
    (going : cursor.ended = false) (use : Use (Recorded σ) τ) {current : Cursor}
    (there : (pool.use use).2.cursor? index = some current) (ended : current.ended = true) :
    use.index = index ∧
      (Overreaches length cursor use ∧ current.offset = length ∨
        (pool.use use).2.record.custody.source.Dry) := by
  have inside := trusts.offset_le found
  cases moves_use found use with
  | read buffer asked =>
      subst asked
      refine ⟨rfl, ?_⟩
      have reads := reads buffer pool.record cursor
      have acts : Pool.Acts pool cursor (.read index buffer : Use (Recorded σ) τ) _ :=
        Pool.acts_of_open found
      generalize pool.use (.read index buffer : Use (Recorded σ) τ) = out at acts there ⊢
      cases acts
      obtain rfl := Option.some.inj ((Pool.cursor?_put_self found _ _).symm.trans there)
      rcases reads.ended_only inside going ended with ⟨there, past⟩ | dry
      · rw [trusts.length] at there past
        exact Or.inl ⟨past, there⟩
      · exact Or.inr dry
  | readOut sink asked =>
      subst asked
      refine ⟨rfl, ?_⟩
      have acts : Pool.Acts pool cursor (.writeTo index sink : Use (Recorded σ) τ) _ :=
        Pool.acts_of_open found
      generalize pool.use (.writeTo index sink : Use (Recorded σ) τ) = out at acts there ⊢
      cases acts
      obtain rfl := Option.some.inj ((Pool.cursor?_put_self found _ _).symm.trans there)
      rcases trusts.relies.ended_writeTo positioned sink inside going ended with there | dry
      · exact Or.inl ⟨trivial, there.trans trusts.length⟩
      · exact Or.inr dry
  | sought position sought arrives =>
      rw [arrives] at there
      cases there
      cases ended
  | idle nothing left =>
      rw [left current there, going] at ended
      cases ended

end

/-! ## Every run -/

/-- What an open copy of a body over such a source can rely on, wherever it stands. -/
structure Reliable (good : σ → Prop) (willing : τ → Prop) (content : τ → List UInt8)
    (data : List UInt8) (base length : Nat) (pool : Pool (engine (Recorded σ))) (index : Nat)
    (cursor : Cursor) : Prop where
  /-- A read that fails, other than for the end, changes nothing about the copy. -/
  failed : ∀ buffer error, (pool.read index buffer).reply = .failed error →
    error.cause ≠ .endOfStream →
      (pool.read index buffer).state.cursor? index = some cursor ∧
        (pool.read index buffer).state.remaining index = pool.remaining index
  /-- A read that gives bytes gives those from the copy's place on, and moves it past them. -/
  given : ∀ buffer bytes, (pool.read index buffer).reply = .done bytes → 0 < buffer.size →
    0 < bytes.size ∧
      bytes.data.toList = span data (base + cursor.offset) (base + cursor.offset + bytes.size) ∧
      ∃ ended, (pool.read index buffer).state.cursor? index =
        some ⟨cursor.offset + bytes.size, ended⟩
  /-- A seek that works moves the copy to where it says. -/
  sought : ∀ offset whence position, (pool.seek index offset whence).reply = .done position →
    (pool.seek index offset whence).state.cursor? index = some { offset := position }
  /-- Until it is moved, the copy is given the stretch up to where it is left. -/
  stretch : ∀ later : List (Use σ τ), (∀ use ∈ later, use.Lends (Source.Leaves good)) →
    (∀ use ∈ later, use.index = index → use.Pours willing) →
    (∀ pair ∈ (later.map Use.unseen).zip (pool.run (later.map Use.unseen)).1,
      ¬Sought index pair.1 pair.2) →
    ∃ stop, cursor.offset ≤ stop ∧
      Buffered.handedAll content index (later.map Use.unseen)
          (pool.run (later.map Use.unseen)).1 =
        span data (base + cursor.offset) (base + stop) ∧
      ∀ current, (pool.afterRun (later.map Use.unseen)).cursor? index = some current →
        current.offset = stop
  /-- Reading out, to any sink, leaves what reads leave. -/
  readOut : ∀ sink : τ, ∃ buffers : List Buffer, (pool.writeTo index sink).1.state =
    pool.afterRun (buffers.map (Use.read index : Buffer → Use (Recorded σ) τ))
  /-- The end shows only after the copy itself was read past the end, and is there, or to where the
  source gave nothing. -/
  ended : cursor.ended = false → ∀ (use : Use (Recorded σ) τ) (current : Cursor),
    (pool.use use).2.cursor? index = some current → current.ended = true →
      use.index = index ∧
        (Overreaches length cursor use ∧ current.offset = length ∨
          (pool.use use).2.record.custody.source.Dry)
  /-- Nothing that is asked of another copy moves this one. -/
  others : ∀ use : Use (Recorded σ) τ, use.index ≠ index →
    (pool.use use).2.cursor? index = some cursor

omit [Source σ] [Sink τ] in
theorem lends_map_unseen {good : σ → Prop} {uses : List (Use σ τ)}
    (lent : ∀ use ∈ uses, use.Lends (Source.Leaves good)) :
    ∀ use ∈ uses.map Use.unseen,
      use.Lends (Source.Leaves fun recorded : Recorded σ => good recorded.source) := by
  intro use member
  obtain ⟨plain, inside, rfl⟩ := List.mem_map.mp member
  exact Use.lends_unseen_leaves (lent plain inside)

theorem Trusts.reliable {willing : τ → Prop} {content : τ → List UInt8}
    {pool : Pool (engine (Recorded σ))} {index : Nat} {cursor : Cursor}
    (trusts : Trusts (fun recorded : Recorded σ => good recorded.source) access base length pool)
    (positioned : Source.Positioned access data good) (sinks : Sink.Willing willing content)
    (found : pool.cursor? index = some cursor) :
    Reliable good willing content data base length pool index cursor := by
  have observed := positioned.recorded
  have read (buffer : Buffer) := reads buffer pool.record cursor
  have replied (buffer : Buffer) :
      (pool.read index buffer).reply = (pool.record.read buffer cursor).reply :=
    (Pool.act_of_open found .read ((engine (Recorded σ)).read buffer)).1
  have left (buffer : Buffer) : (pool.read index buffer).state =
      pool.put index (pool.record.read buffer cursor).record
        (pool.record.read buffer cursor).cursor :=
    (Pool.act_of_open found .read ((engine (Recorded σ)).read buffer)).2
  constructor
  · intro buffer error came cause
    rw [replied] at came
    have stays := (read buffer).cursor_of_failed came cause
    have still := Pool.cursor?_put_self found (pool.record.read buffer cursor).record cursor
    rw [left, stays]
    refine ⟨still, ?_⟩
    rw [Pool.remaining, Pool.remaining, still, found]
    change some (cursor.remaining (pool.record.read buffer cursor).record.length) =
      some (cursor.remaining pool.record.length)
    rw [(read buffer).served.length]
  · intro buffer bytes came asks
    rw [replied] at came
    obtain ⟨bytes_eq, moves, some_bytes, -⟩ := (read buffer).given observed trusts.relies came
    rw [trusts.base] at bytes_eq
    refine ⟨some_bytes asks, bytes_eq, (pool.record.read buffer cursor).cursor.ended, ?_⟩
    rw [left, Pool.cursor?_put_self found, ← moves]
  · intro offset whence position came
    rcases state_seek_of_open found offset whence with ⟨-, refuses⟩ | ⟨goal, -, done, arrives⟩
    · exact absurd came (refuses position)
    · rw [done] at came
      cases came
      rw [arrives, Pool.cursor?_put_self found]
  · intro later lent pours unmoved
    have pours_unseen : ∀ use ∈ later.map Use.unseen,
        use.index = index → use.Pours willing := by
      intro use member
      obtain ⟨plain, inside, rfl⟩ := List.mem_map.mp member
      have poured := pours plain inside
      cases plain <;> exact poured
    obtain ⟨stop, hands⟩ := trusts.hands_run observed sinks found (lends_map_unseen lent)
      pours_unseen unmoved
    exact ⟨stop, hands.onwards, hands.bytes, hands.left⟩
  · exact fun sink => exists_reads_of_writeTo found sink
  · exact fun going use current there ended =>
      trusts.ended_use observed found going use there ended
  · exact fun use other => Pool.cursor?_use_of_ne found other

/-- Whatever is asked of the copies of a body over such a source, at whichever calls it fails, gives
less than it was asked for or breaks off: every open copy is read without loss and without
repetition, and to read one at an offset moves none. -/
theorem afterRun_fresh_reliable {willing : τ → Prop} {content : τ → List UInt8}
    (positioned : Source.Positioned access data good) (sinks : Sink.Willing willing content)
    {recorded : Recorded σ} (starts : good recorded.source) (base length : Nat)
    {uses : List (Use σ τ)} (lent : ∀ use ∈ uses, use.Lends (Source.Leaves good)) :
    let pool := (fresh recorded access base length).afterRun (uses.map Use.unseen)
    (∀ index cursor, pool.cursor? index = some cursor →
      Reliable good willing content data base length pool index cursor) ∧
    ∀ asked buffer offset index,
      (pool.readAt asked buffer offset).state.cursor? index = pool.cursor? index := by
  intro pool
  have begun : Trusts (fun recorded : Recorded σ => good recorded.source) access base length
      (fresh recorded access base length) := by
    apply trusts_fresh
    exact starts
  have trusts := begun.afterRun positioned.recorded (lends_map_unseen lent)
  refine ⟨fun index cursor found => trusts.reliable positioned sinks found, ?_⟩
  intro asked buffer offset index
  cases found : pool.cursor? asked with
  | none => rw [Pool.readAt, (Pool.act_of_closed found _ _).2]
  | some cursor =>
      rw [state_readAt_of_open found]
      rfl

/-- A device that gives single bytes, fails and is interrupted, moved for each read and by a
callback as well: the first copy stays where it is when its read fails, and the second is given the
four bytes of the body all the same. -/
theorem afterRun_fresh_reliable_of_faulty :
    let data : List UInt8 := [1, 2, 3, 4, 5, 6]
    let stuck : Fault := .saying .other "stuck"
    let device : Device :=
      { content := ⟨#[1, 2, 3, 4, 5, 6]⟩
        seekable := true
        reads := [.atMost 1, .fault stuck, .atMost 1, .fault stuck, .fault ⟨.interrupted, .plain⟩] }
    let gauge : Gauge := { script := [.atMost 1] }
    let uses : List (Use Device Gauge) := [.copy 0, .read 0 (.fresh 2)]
    let pool := (fresh (⟨device, []⟩ : Recorded Device) .seeking 1 4).afterRun
      (uses.map Use.unseen)
    let later : List (Use Device Gauge) :=
      [.visit 0 fun device => (some (), (Source.read 2 device).2), .read 1 (.fresh 3),
        .read 0 (.fresh 1), .writeTo 1 gauge]
    device.Sincere data ∧ pool.cursor? 0 = some ⟨1, false⟩ ∧ pool.cursor? 1 = some {} ∧
      (pool.read 0 (.fresh 1)).reply = .failed ⟨.read, .fault stuck⟩ ∧
      (pool.read 0 (.fresh 1)).state.cursor? 0 = some ⟨1, false⟩ ∧
      (pool.afterRun (later.map Use.unseen)).cursor? 1 = some ⟨4, true⟩ ∧
      Buffered.handedAll (fun gauge : Gauge => gauge.content.data.toList) 1
          (later.map Use.unseen) (pool.run (later.map Use.unseen)).1 =
        span data 1 5 := by
  intro data stuck device gauge uses pool later
  have sincere : device.Sincere data := ⟨rfl, by simp [device], by simp [device]⟩
  have ready : gauge.Ready :=
    { mild := by simp [gauge, Gauge.Cue.Mild]
      chunk := by decide }
  have leaves : Source.Leaves (Device.Sincere data) fun device =>
      (some (), (Source.read 2 device).2) := fun _ sincere => sincere.tails _
  have starts : Device.Sincere data (⟨device, []⟩ : Recorded Device).source := sincere
  have lent : ∀ use ∈ uses, use.Lends (Source.Leaves (Device.Sincere data)) := by
    simp [uses, Use.Lends]
  obtain ⟨reliable, -⟩ := afterRun_fresh_reliable (Device.positioned_sincere .seeking data)
    Gauge.willing_ready starts 1 4 lent
  have first : pool.cursor? 0 = some ⟨1, false⟩ := by decide +kernel
  have second : pool.cursor? 1 = some {} := by decide +kernel
  have fails : (pool.read 0 (.fresh 1)).reply = .failed ⟨.read, .fault stuck⟩ := by
    decide +kernel
  have last : (pool.afterRun (later.map Use.unseen)).cursor? 1 = some ⟨4, true⟩ := by cbv
  have unmoved (pair : Use (Recorded Device) Gauge × Receipt Gauge)
      (member : pair ∈ (later.map Use.unseen).zip (pool.run (later.map Use.unseen)).1) :
      ¬Sought 1 pair.1 pair.2 := by
    have asked := (List.of_mem_zip member).1
    simp only [later, List.map_cons, List.map_nil, Use.unseen, List.mem_cons,
      List.not_mem_nil, or_false] at asked
    rcases asked with asked | asked | asked | asked <;> simp [asked, Sought]
  obtain ⟨stop, -, given, left⟩ := (reliable 1 _ second).stretch later
    (by simp [later, Use.Lends, leaves]) (by simp [later, Use.Pours, ready]) unmoved
  obtain rfl := left _ last
  obtain ⟨stays, -⟩ := (reliable 0 _ first).failed _ _ fails (by simp)
  exact ⟨sincere, first, second, fails, stays, last, given⟩

end Direct

end Payload
