import Payload.Proofs.Direct.Agreement
import Payload.Proofs.Direct.Ending
import Payload.Proofs.Direct.Logging
import Payload.Proofs.Steering

/-!
# A direct body keeps to its stretch of the source

A direct body stands for `length` bytes of its source from `base` on.  Every call that it makes is
on record, and the record is made of questions: each asks for at least one byte, at the place in the
source that an offset of the body has there, for none past the length, and at a position that can be
addressed.  An offset that has no such place is not asked for at all.
-/

namespace Payload

/-- Questions for bytes, the latest first: reads at a position, and reads in sequence of a source
that was moved there by the call before.  A move that does not work is not followed by a read. -/
inductive Asked (aims : Nat → Nat → Prop) : List Entry → Prop where
  | nothing : Asked aims []
  | addressed {position want : Nat} {mark : Mark} {earlier : List Entry}
      (aimed : aims position want) (before : Asked aims earlier) :
      Asked aims (⟨.readAt position want, mark⟩ :: earlier)
  | moved {position want stands : Nat} {mark : Mark} {earlier : List Entry}
      (aimed : aims position want) (before : Asked aims earlier) :
      Asked aims (⟨.read want, mark⟩ :: ⟨.seek (.start position), .number stands⟩ :: earlier)
  | stuck {position want : Nat} {mark : Mark} {earlier : List Entry}
      (aimed : aims position want) (fails : ∀ stands, mark ≠ .number stands)
      (before : Asked aims earlier) :
      Asked aims (⟨.seek (.start position), mark⟩ :: earlier)

namespace Asked

variable {aims wider : Nat → Nat → Prop} {made earlier : List Entry}

theorem mono (asked : Asked aims made)
    (widens : ∀ position want, aims position want → wider position want) : Asked wider made := by
  induction asked with
  | nothing => exact .nothing
  | addressed aimed _ ih => exact .addressed (widens _ _ aimed) ih
  | moved aimed _ ih => exact .moved (widens _ _ aimed) ih
  | stuck aimed fails _ ih => exact .stuck (widens _ _ aimed) fails ih

theorem append (asked : Asked aims made) (before : Asked aims earlier) :
    Asked aims (made ++ earlier) := by
  induction asked with
  | nothing => exact before
  | addressed aimed _ ih => exact .addressed aimed ih
  | moved aimed _ ih => exact .moved aimed ih
  | stuck aimed fails _ ih => exact .stuck aimed fails ih

end Asked

namespace Direct

variable {σ : Type} [Source σ]

/-! ## Fetching -/

/-- What an offset is refused with that has no position in the source. -/
def unaddressable : Fault :=
  .saying .invalidInput "offset past the addressable end of the source"

/-- The body's bytes from an offset on, as many as `want`, are asked for in their place. -/
structure Aims (base length offset position want : Nat) : Prop where
  place : position = base + offset
  some_bytes : 0 < want
  inside : offset + want ≤ length
  addressable : position ≤ maxOffset

/-- The entries that a question, or several, put on record; none where the source is gone. -/
structure Records (aims : Nat → Nat → Prop) (direct next : Direct (Recorded σ))
    (made : List Entry) : Prop where
  entries : next.custody.source.entries = made ++ direct.custody.source.entries
  asked : Asked aims made
  held : next.custody.held = direct.custody.held
  released : direct.custody.held = false → made = []

omit [Source σ] in
theorem Records.nothing (aims : Nat → Nat → Prop) (direct : Direct (Recorded σ)) :
    Records aims direct direct [] :=
  ⟨rfl, .nothing, rfl, fun _ => rfl⟩

omit [Source σ] in
theorem Records.trans {aims : Nat → Nat → Prop} {direct next last : Direct (Recorded σ)}
    {made later : List Entry} (first : Records aims direct next made)
    (second : Records aims next last later) : Records aims direct last (later ++ made) where
  entries := by rw [second.entries, first.entries, List.append_assoc]
  asked := second.asked.append first.asked
  held := second.held.trans first.held
  released gone := by
    rw [first.released gone, second.released (first.held.trans gone)]
    rfl

theorem records_ask (operation : Operation) (want position : Nat) (direct : Direct (Recorded σ)) :
    ∃ made, Records (fun place asks => place = position ∧ asks = want) direct
      (direct.ask operation want position).2 made := by
  have asks := asks operation want position direct
  generalize direct.ask operation want position = out at asks ⊢
  have here {P : Prop} (held : direct.custody.held = true) (gone : direct.custody.held = false) :
      P := by
    rw [held] at gone
    cases gone
  cases asks with
  | poisoned => exact ⟨[], .nothing _ direct⟩
  | released => exact ⟨[], .nothing _ direct⟩
  | unsupported => exact ⟨[], .nothing _ direct⟩
  | addressed sound held access =>
      exact ⟨[_], rfl, .addressed ⟨rfl, rfl⟩ .nothing, rfl, here held⟩
  | stuck sound held access sought =>
      exact ⟨[_], Recorded.entries_of_seek sought, .stuck ⟨rfl, rfl⟩ (by rintro _ ⟨⟩) .nothing, rfl,
        here held⟩
  | lost sound held access sought =>
      exact ⟨[_], Recorded.entries_of_seek sought, .stuck ⟨rfl, rfl⟩ (by rintro _ ⟨⟩) .nothing, rfl,
        here held⟩
  | moved sound held access sought =>
      exact ⟨[_, _], congrArg (List.cons _) (Recorded.entries_of_seek sought),
        .moved ⟨rfl, rfl⟩ .nothing, rfl, here held⟩

theorem Settles.state_cases {direct : Direct σ} {operation : Operation} {buffer : Buffer}
    {want position tries : Nat} {out : Reply ByteArray × Direct σ}
    (settles : Settles operation buffer want position tries direct out) :
    out.2 = direct ∨ out.2 = (direct.ask operation want position).2 := by
  cases settles with
  | exhausted => exact Or.inl rfl
  | gave asked => exact Or.inr (by rw [asked])
  | absurd asked => exact Or.inr (by rw [asked])
  | failed asked => exact Or.inr (by rw [asked])
  | broke asked => exact Or.inr (by rw [asked])
  | refused asked => exact Or.inr (by rw [asked])
  | lost asked => exact Or.inr (by rw [asked])

theorem records_askSteady (operation : Operation) (buffer : Buffer) (want position tries : Nat)
    (direct : Direct (Recorded σ)) :
    ∃ made, Records (fun place asks => place = position ∧ asks = want) direct
      (direct.askSteady operation buffer want position tries).2 made := by
  obtain ⟨left, last, ⟨made, records⟩, settles⟩ :=
    askSteady_rule buffer
      (I := fun _ current => ∃ made,
        Records (fun place asks => place = position ∧ asks = want) direct current made)
      (fun _ current fault next ⟨made, records⟩
          (asked : current.ask operation want position = (.done (.failed fault), next)) _ => by
        obtain ⟨more, further⟩ := records_ask operation want position current
        rw [asked] at further
        exact ⟨more ++ made, records.trans further⟩)
      tries ⟨[], .nothing _ direct⟩
  rcases settles.state_cases with same | once
  · rw [same]
    exact ⟨made, records⟩
  · obtain ⟨more, further⟩ := records_ask operation want position last
    rw [once]
    exact ⟨more ++ made, records.trans further⟩

/-- Where there is no position to ask at, there is no question. -/
theorem fetch_of_far {direct : Direct σ} {offset : Nat} (far : maxOffset < direct.base + offset)
    (operation : Operation) (buffer : Buffer) (want : Nat) :
    direct.fetch operation buffer want offset =
      (.failed ⟨operation, .fault unaddressable⟩, direct) :=
  if_pos far

/-- What is fetched is asked for in its place. -/
theorem records_fetch {direct : Direct (Recorded σ)} {want offset : Nat} (some_bytes : 0 < want)
    (inside : offset + want ≤ direct.length) (operation : Operation) (buffer : Buffer) :
    ∃ made,
      Records (fun position asks =>
          Aims direct.base direct.length offset position asks ∧ asks = want)
        direct (direct.fetch operation buffer want offset).2 made ∧
      ∀ bytes, (direct.fetch operation buffer want offset).1 = .done bytes →
        ∃ entry, made.head? = some entry ∧ entry.Gave bytes.size := by
  by_cases far : maxOffset < direct.base + offset
  · rw [fetch_of_far far]
    exact ⟨[], .nothing _ direct, by rintro _ ⟨⟩⟩
  · obtain ⟨made, logs, -, gave⟩ := logs_fetch operation buffer want offset direct
    have near : direct.fetch operation buffer want offset =
        direct.askSteady operation buffer want (direct.base + offset)
          (Source.patience direct.custody.source + 1) := if_neg far
    rw [near] at logs gave ⊢
    obtain ⟨same, records⟩ := records_askSteady operation buffer want (direct.base + offset)
      (Source.patience direct.custody.source + 1) direct
    obtain rfl : same = made :=
      List.append_cancel_right (records.entries.symm.trans logs.entries)
    refine ⟨same, ⟨records.entries, records.asked.mono ?_, records.held, records.released⟩, gave⟩
    rintro position asks ⟨rfl, rfl⟩
    exact ⟨⟨rfl, some_bytes, inside, Nat.le_of_not_lt far⟩, rfl⟩

/-! ## Reads -/

/-- What a read at an offset, that of the cursor or another, does with the record: nothing, and then
it gives nothing either, or it fetches as many of the bytes there as the buffer has room for. -/
inductive Accesses (operation : Operation) (buffer : Buffer) (offset : Nat) (direct : Direct σ)
    (turn : Turn (Direct σ) Cursor ByteArray) : Prop where
  | idle (same : turn.record = direct)
      (nothing : ∀ bytes, turn.reply = .done bytes → bytes.size = 0)
  | fetched (asks : 0 < buffer.size) (within : offset < direct.length)
      (record_eq : turn.record =
        (direct.fetch operation buffer (min buffer.size (direct.length - offset)) offset).2)
      (gives : ∀ bytes, turn.reply = .done bytes →
        (direct.fetch operation buffer (min buffer.size (direct.length - offset)) offset).1 =
          .done bytes)

theorem Reads.accesses {buffer : Buffer} {direct : Direct σ} {cursor : Cursor}
    {turn : Turn (Direct σ) Cursor ByteArray} (reads : Reads buffer direct cursor turn) :
    Accesses .read buffer cursor.offset direct turn := by
  cases reads with
  | ended => exact .idle rfl (by rintro _ ⟨⟩)
  | nothing =>
      refine .idle rfl ?_
      rintro _ ⟨⟩
      rfl
  | past => exact .idle rfl (by rintro _ ⟨⟩)
  | dry going asks within fetched =>
      exact .fetched asks within (by rw [fetched]) (by rintro _ ⟨⟩)
  | gave going asks within fetched =>
      refine .fetched asks within (by rw [fetched]) ?_
      rintro _ ⟨⟩
      rw [fetched]
  | failed going asks within fetched =>
      exact .fetched asks within (by rw [fetched]) (by rintro _ ⟨⟩)
  | broke going asks within fetched =>
      exact .fetched asks within (by rw [fetched]) (by rintro _ ⟨⟩)

theorem ReadsAt.accesses {buffer : Buffer} {offset : Nat} {direct : Direct σ} {cursor : Cursor}
    {turn : Turn (Direct σ) Cursor ByteArray} (reads : ReadsAt buffer offset direct cursor turn) :
    Accesses .readAt buffer offset direct turn := by
  cases reads with
  | nothing =>
      refine .idle rfl ?_
      rintro _ ⟨⟩
      rfl
  | past => exact .idle rfl (by rintro _ ⟨⟩)
  | dry asks within fetched => exact .fetched asks within (by rw [fetched]) (by rintro _ ⟨⟩)
  | gave asks within fetched =>
      refine .fetched asks within (by rw [fetched]) ?_
      rintro _ ⟨⟩
      rw [fetched]
  | failed asks within fetched => exact .fetched asks within (by rw [fetched]) (by rintro _ ⟨⟩)
  | broke asks within fetched => exact .fetched asks within (by rw [fetched]) (by rintro _ ⟨⟩)

/-- The calls that a read at an offset puts on record, and what it gives of the last one. -/
structure Draws (base length offset size : Nat) (direct next : Direct (Recorded σ))
    (reply : Reply ByteArray) (made : List Entry) : Prop where
  records : Records (fun position want =>
    Aims base length offset position want ∧ want = min size (length - offset)) direct next made
  given : ∀ bytes, reply = .done bytes → bytes.size ≠ 0 →
    offset + bytes.size ≤ length ∧ ∃ entry, made.head? = some entry ∧ entry.Gave bytes.size

theorem Accesses.draws {operation : Operation} {direct : Direct (Recorded σ)} {buffer : Buffer}
    {offset : Nat} {turn : Turn (Direct (Recorded σ)) Cursor ByteArray}
    (accesses : Accesses operation buffer offset direct turn) :
    ∃ made, Draws direct.base direct.length offset buffer.size direct turn.record turn.reply
      made := by
  cases accesses with
  | idle same nothing =>
      rw [same]
      exact ⟨[], .nothing _ direct, fun bytes done some_bytes =>
        absurd (nothing bytes done) some_bytes⟩
  | fetched asks within record_eq gives =>
      have some_bytes : 0 < min buffer.size (direct.length - offset) := by omega
      have inside : offset + min buffer.size (direct.length - offset) ≤ direct.length := by omega
      obtain ⟨made, records, gave⟩ := records_fetch some_bytes inside operation buffer
      rw [record_eq]
      refine ⟨made, records, fun bytes done _ => ⟨?_, gave bytes (gives bytes done)⟩⟩
      have fits := size_le_of_fetch (Prod.ext (gives bytes done) rfl)
      omega

/-! ## Every call -/

/-- The calls to the source: questions for its bytes from `base` on, as many as `length`, and last
that which closes it. -/
inductive Confined (base length : Nat) (custody : Custody (Recorded σ)) : Prop where
  | held (asked : Asked (fun position want => ∃ offset, Aims base length offset position want)
      custody.source.entries)
  | closed {mark : Mark} {made : List Entry} (released : custody.held = false)
      (entries : custody.source.entries = ⟨.close, mark⟩ :: made)
      (asked : Asked (fun position want => ∃ offset, Aims base length offset position want) made)

namespace Confined

variable {base length : Nat} {custody : Custody (Recorded σ)}

omit [Source σ] in
theorem served {direct next : Direct (Recorded σ)} {offset size : Nat} {reply : Reply ByteArray}
    {made : List Entry} (confined : Confined base length direct.custody)
    (draws : Draws base length offset size direct next reply made) :
    Confined base length next.custody := by
  have records := draws.records
  cases confined with
  | held asked =>
      refine .held ?_
      rw [records.entries]
      exact (records.asked.mono fun _ _ aimed => ⟨offset, aimed.1⟩).append asked
  | closed released entries asked =>
      have same := records.entries
      rw [records.released released, List.nil_append] at same
      exact .closed (records.held.trans released) (same.trans entries) asked

theorem close (confined : Confined base length custody) (note : Note) :
    Confined base length (custody.close note).2.1 := by
  unfold Custody.close
  split
  · rename_i held
    cases confined with
    | held asked => exact .closed rfl rfl asked
    | closed released =>
        rw [held] at released
        cases released
  · exact confined

omit [Source σ] in
theorem visit (confined : Confined base length custody) (inside : σ → Option Unit × σ) :
    Confined base length (custody.visit (Recorded.unseen inside)).2 := by
  have entries : (custody.visit (Recorded.unseen inside)).2.source.entries =
      custody.source.entries := by
    rcases custody.source_visit (Recorded.unseen inside) with same | called
    · rw [same]
    · rw [called]
      rfl
  cases confined with
  | held asked => exact .held (entries ▸ asked)
  | closed released closes asked =>
      exact .closed ((Custody.held_visit _ _).trans released) (entries.trans closes) asked

end Confined

/-! ## Every run -/

/-- The body keeps its place and its length, its copies stand within it, and its calls to the source
are confined. -/
structure Bounded (base length : Nat) (pool : Pool (engine (Recorded σ))) : Prop where
  base_eq : pool.record.base = base
  spans : Spans Direct.length length pool
  confined : Confined base length pool.record.custody

variable {base length : Nat} {pool next : Pool (engine (Recorded σ))}

theorem bounded_fresh (source : σ) (access : Access) (base length : Nat) :
    Bounded base length (fresh (⟨source, []⟩ : Recorded σ) access base length) where
  base_eq := rfl
  spans := by
    refine spans_alone _ _ ?_
    rintro _ ⟨⟩
    rfl
  confined := .held .nothing

theorem Bounded.draws (bounded : Bounded base length pool) {operation : Operation}
    {buffer : Buffer} {offset : Nat} {turn : Turn (Direct (Recorded σ)) Cursor ByteArray}
    (accesses : Accesses operation buffer offset pool.record turn) :
    ∃ made, Draws base length offset buffer.size pool.record turn.record turn.reply made := by
  rw [← bounded.base_eq, ← bounded.spans.1]
  exact accesses.draws

/-- No step leads a copy past the length or the body past its stretch of the source. -/
theorem Bounded.step (bounded : Bounded base length pool)
    (step : Step (fun callback => ∃ inside, callback = Recorded.unseen inside) pool next) :
    Bounded base length next := by
  have within := bounded.spans
  cases step with
  | @read index cursor buffer turn found reads =>
      obtain ⟨made, draws⟩ := bounded.draws reads.accesses
      have inside : turn.cursor.offset ≤ pool.record.length :=
        reads.inside (within.1.symm ▸ within.2 index cursor found)
      exact ⟨reads.served.base.trans bounded.base_eq, within.put found reads.served.length inside,
        bounded.confined.served draws⟩
  | readAt some_open reads =>
      obtain ⟨made, draws⟩ := bounded.draws reads.accesses
      exact ⟨reads.served.base.trans bounded.base_eq,
        ⟨reads.served.length.trans within.1, within.2⟩, bounded.confined.served draws⟩
  | sought found arrives =>
      exact ⟨bounded.base_eq, within.put found rfl arrives, bounded.confined⟩
  | copied found =>
      refine ⟨bounded.base_eq, within.add rfl ?_, bounded.confined⟩
      rintro _ ⟨⟩
      exact within.2 _ _ found
  | blank => exact ⟨bounded.base_eq, within.add rfl (by rintro _ ⟨⟩), bounded.confined⟩
  | left found others => exact ⟨bounded.base_eq, within.remove _ rfl, bounded.confined⟩
  | last found alone =>
      exact ⟨bounded.base_eq, within.remove _ rfl, bounded.confined.close _⟩
  | visited some_open lent =>
      obtain ⟨inside, rfl⟩ := lent
      exact ⟨bounded.base_eq, ⟨within.1, within.2⟩, bounded.confined.visit inside⟩

/-! ## Offsets without a position -/

section

variable {τ : Type} [Sink τ] {direct : Direct σ} {cursor : Cursor} {offset : Nat}

omit [Sink τ] in
theorem read_of_far {buffer : Buffer} (asks : 0 < buffer.size) (going : cursor.ended = false)
    (within : cursor.offset < direct.length) (far : maxOffset < direct.base + cursor.offset) :
    direct.read buffer cursor = ⟨.failed ⟨.read, .fault unaddressable⟩, direct, cursor, []⟩ := by
  have goes_on : ¬cursor.ended = true := by simp [going]
  rw [read, if_neg goes_on, if_neg (Nat.ne_of_gt asks), if_neg (Nat.not_le_of_gt within)]
  simp only [fetch_of_far far]

omit [Sink τ] in
theorem readAt_of_far {buffer : Buffer} (asks : 0 < buffer.size) (within : offset < direct.length)
    (far : maxOffset < direct.base + offset) (cursor : Cursor) :
    direct.readAt buffer offset cursor =
      ⟨.failed ⟨.readAt, .fault unaddressable⟩, direct, cursor, []⟩ := by
  rw [readAt, if_neg (Nat.ne_of_gt asks), if_neg (Nat.not_le_of_gt within)]
  simp only [fetch_of_far far]

theorem writeTo_of_far (going : cursor.ended = false) (within : cursor.offset < direct.length)
    (far : maxOffset < direct.base + cursor.offset) (sink : τ) :
    direct.writeTo sink cursor =
      (⟨.failed ⟨.writeTo, .fault unaddressable⟩, direct, cursor, []⟩, sink) := by
  have some_room : 0 < scratch defaultBlock (some (cursor.remaining direct.length)) :=
    scratch_pos (by decide) _
  have refuses : direct.read (.fresh (scratch defaultBlock (some (cursor.remaining direct.length))))
      cursor = ⟨.failed ⟨.read, .fault unaddressable⟩, direct, cursor, []⟩ :=
    read_of_far some_room going within far
  rw [writeTo]
  refine (pump_of_failed sink (congrArg Turn.reply refuses)).trans ?_
  rw [refuses]
  rfl

omit [Sink τ] in
/-- A read that gives nothing, and not for being at the end, where there is no position. -/
theorem Reads.reply_of_far {buffer : Buffer} {turn : Turn (Direct σ) Cursor ByteArray}
    (reads : Reads buffer direct cursor turn) (none_given : ∀ bytes, turn.reply ≠ .done bytes)
    (going : turn.cursor.ended = false) (far : maxOffset < direct.base + turn.cursor.offset) :
    turn.reply = .failed ⟨.read, .fault unaddressable⟩ := by
  cases reads with
  | ended ended =>
      rw [ended] at going
      cases going
  | past => cases going
  | dry => cases going
  | nothing => exact absurd rfl (none_given _)
  | gave => exact absurd rfl (none_given _)
  | failed going' asks within fetched =>
      rw [fetch_of_far far] at fetched
      cases fetched
      rfl
  | broke going' asks within fetched =>
      rw [fetch_of_far far] at fetched
      cases fetched

/-- A copy that was read out into a willing sink, and is left before its end where there is no
position. -/
theorem reply_writeTo_of_far {willing : τ → Prop} {content : τ → List UInt8}
    (sinks : Sink.Willing willing content) {sink : τ} (ready : willing sink)
    (going : (direct.writeTo sink cursor).1.cursor.ended = false)
    (far : maxOffset < direct.base + (direct.writeTo sink cursor).1.cursor.offset) :
    (direct.writeTo sink cursor).1.reply = .failed ⟨.writeTo, .fault unaddressable⟩ := by
  have some_room : 0 < scratch defaultBlock (some (cursor.remaining direct.length)) :=
    scratch_pos (by decide) _
  unfold writeTo at going far ⊢
  dsimp only at going far ⊢
  obtain ⟨total, later, record, current, ⟨taking, base_eq⟩, pumped⟩ :=
    pump_rule (read (σ := σ))
      (I := fun _ later record _ => willing later ∧ record.base = direct.base)
      (fun _ later record current buffer bytes next held sized done offer => by
        obtain ⟨taking, base_eq⟩ := held
        obtain ⟨last, offered, still, -⟩ := sinks.takeAll bytes taking
        rw [offer] at offered
        cases offered
        exact ⟨still, (reads buffer record current).served.base.trans base_eq⟩)
      (.fresh (scratch defaultBlock (some (cursor.remaining direct.length)))) sink rfl
      ⟨ready, rfl⟩
  have takes (bytes : ByteArray) {outcome : Outcome Fault Unit} {last : τ}
      (offer : Sink.takeAll bytes later = (outcome, last)) : outcome = .done () := by
    obtain ⟨_, offered, -⟩ := sinks.takeAll bytes taking
    rw [offer] at offered
    exact congrArg Prod.fst offered
  generalize pump read _ sink direct cursor = out at pumped going far ⊢
  rw [← base_eq] at far
  cases pumped with
  | endless notes sized never =>
      exact absurd never (outcome?_ne_none (sized.symm ▸ some_room) _ _ _ _)
  | @stopped buffer error notes sized failed =>
      have refused := (reads buffer record current).reply_of_far
        (fun bytes done => by cases failed.symm.trans done) going far
      cases failed.symm.trans refused
      rfl
  | @broke buffer notes sized broke =>
      have refused := (reads buffer record current).reply_of_far
        (fun bytes done => by cases broke.symm.trans done) going far
      cases broke.symm.trans refused
  | refused notes sized done offer => cases takes _ offer
  | swallowed notes sized done offer => cases takes _ offer

end

/-! ## What every run keeps to -/

/-- What holds of a body over `length` bytes of its source from `base` on. -/
structure Confines (τ : Type) [Sink τ] (base length : Nat) (pool : Pool (engine (Recorded σ))) :
    Prop where
  confined : Confined base length pool.record.custody
  inside : ∀ index cursor, pool.cursor? index = some cursor → cursor.offset ≤ length
  /-- A read asks for the bytes at the cursor, and moves it past those it gives. -/
  read : ∀ index cursor buffer, pool.cursor? index = some cursor →
    let effect := pool.read index buffer
    (∃ made, Draws base length cursor.offset buffer.size pool.record effect.state.record
      effect.reply made) ∧
      ∀ bytes, effect.reply = .done bytes → ∃ ended,
        effect.state.cursor? index = some ⟨cursor.offset + bytes.size, ended⟩
  /-- A read at an offset asks for the bytes there. -/
  readAt : ∀ index cursor buffer offset, pool.cursor? index = some cursor →
    let effect := pool.readAt index buffer offset
    ∃ made, Draws base length offset buffer.size pool.record effect.state.record effect.reply made
  read_far : ∀ index cursor buffer, pool.cursor? index = some cursor → cursor.ended = false →
    0 < buffer.size → cursor.offset < length → maxOffset < base + cursor.offset →
      (pool.read index buffer).reply = .failed ⟨.read, .fault unaddressable⟩ ∧
        (pool.read index buffer).state = pool
  readAt_far : ∀ index cursor buffer offset, pool.cursor? index = some cursor →
    0 < buffer.size → offset < length → maxOffset < base + offset →
      (pool.readAt index buffer offset).reply = .failed ⟨.readAt, .fault unaddressable⟩ ∧
        (pool.readAt index buffer offset).state = pool
  writeTo_far : ∀ index cursor (sink : τ), pool.cursor? index = some cursor →
    cursor.ended = false → cursor.offset < length → maxOffset < base + cursor.offset →
      (pool.writeTo index sink).1.reply = .failed ⟨.writeTo, .fault unaddressable⟩ ∧
        (pool.writeTo index sink).1.state = pool ∧ (pool.writeTo index sink).2 = sink
  /-- To be read out into a sink that takes all, and to come on the way to where there is no
  position. -/
  readOut_far : ∀ {willing : τ → Prop} {content : τ → List UInt8}, Sink.Willing willing content →
    ∀ index sink last, willing sink →
      (pool.writeTo index sink).1.state.cursor? index = some last → last.ended = false →
      maxOffset < base + last.offset →
        (pool.writeTo index sink).1.reply = .failed ⟨.writeTo, .fault unaddressable⟩

theorem Bounded.confines (τ : Type) [Sink τ] (bounded : Bounded base length pool) :
    Confines τ base length pool := by
  have base_eq := bounded.base_eq
  have length_eq := bounded.spans.1
  constructor
  case confined => exact bounded.confined
  case inside => exact bounded.spans.2
  case read =>
    intro index cursor buffer found
    have reads := reads buffer pool.record cursor
    have acted := Pool.act_of_open found .read ((engine (Recorded σ)).read buffer)
    dsimp only
    rw [Pool.read, acted.1, acted.2]
    refine ⟨bounded.draws reads.accesses, fun bytes done => ?_⟩
    rw [Pool.cursor?_put_self found]
    exact ⟨_, congrArg some (congrArg (Cursor.mk · _) (reads.offset_eq done))⟩
  case readAt =>
    intro index cursor buffer offset found
    have acted := Pool.act_of_open found .readAt ((engine (Recorded σ)).readAt buffer offset)
    dsimp only
    rw [Pool.readAt, acted.1, acted.2]
    exact bounded.draws (readsAt buffer offset pool.record cursor).accesses
  case read_far =>
    intro index cursor buffer found going asks within far
    rw [← base_eq] at far
    rw [← length_eq] at within
    exact Pool.act_of_idle found .read (read_of_far asks going within far)
  case readAt_far =>
    intro index cursor buffer offset found asks within far
    rw [← base_eq] at far
    rw [← length_eq] at within
    exact Pool.act_of_idle found .readAt (readAt_of_far asks within far cursor)
  case writeTo_far =>
    intro index cursor sink found going within far
    rw [← base_eq] at far
    rw [← length_eq] at within
    have refused := writeTo_of_far going within far sink
    obtain ⟨reply, state, left⟩ := Pool.writeTo_of_open found sink
    change _ = (writeTo sink pool.record cursor).1.reply at reply
    change _ = pool.put index (writeTo sink pool.record cursor).1.record
      (writeTo sink pool.record cursor).1.cursor at state
    change _ = (writeTo sink pool.record cursor).2 at left
    rw [refused] at reply state left
    exact ⟨reply, state.trans (Pool.put_self found), left⟩
  case readOut_far =>
    intro willing content sinks index sink last ready there going far
    cases found : pool.cursor? index with
    | none =>
        rw [(Pool.writeTo_of_closed found sink).2.1, found] at there
        cases there
    | some cursor =>
        obtain ⟨reply, state, -⟩ := Pool.writeTo_of_open found sink
        rw [state, Pool.cursor?_put_self found] at there
        cases there
        rw [← base_eq] at far
        exact reply.trans (reply_writeTo_of_far sinks ready going far)

/-- A body that reads its source where it stands, with whatever base and length, whatever is asked
of its copies and whatever the source does: each read of the source asks for one byte or more, at
the position that lies as far past the base as the offset read at, and for nothing past the length;
and at an offset for which there is no position nothing is asked, the copy stays where it is, and
that is what it reports.  No copy gets past the length. -/
theorem afterRun_fresh_confined {τ : Type} [Sink τ] (source : σ) (access : Access)
    (base length : Nat) (uses : List (Use σ τ)) :
    Confines τ base length
      ((fresh (⟨source, []⟩ : Recorded σ) access base length).afterRun
        (uses.map Use.unseen)) := by
  have bounded : Bounded base length
      ((fresh (⟨source, []⟩ : Recorded σ) access base length).afterRun (uses.map Use.unseen)) :=
    afterRun_keeps Bounded.step (bounded_fresh source access base length)
      (Use.lends_map_unseen uses)
  exact bounded.confines τ

/-- A body that was opened two bytes before the last position and is taken for six bytes long: once
these two are read there is nowhere to go on, for a read, for one at a later offset, or to read it
out. -/
theorem afterRun_fresh_confined_of_far :
    let device : Device := { addressable := true, reads := [.overstate 0] }
    let uses : List (Use Device Gauge) := [.read 0 (.fresh 2)]
    let pool := (fresh (⟨device, []⟩ : Recorded Device) .addressed 0xfffffffffffffffe 6).afterRun
      (uses.map Use.unseen)
    pool.record.custody.source.calls = [⟨.readAt 0xfffffffffffffffe 2, .number 2⟩] ∧
      ((pool.read 0 (.fresh 1)).reply = .failed ⟨.read, .fault unaddressable⟩ ∧
        (pool.read 0 (.fresh 1)).state = pool) ∧
      ((pool.readAt 0 (.fresh 9) 3).reply = .failed ⟨.readAt, .fault unaddressable⟩ ∧
        (pool.readAt 0 (.fresh 9) 3).state = pool) ∧
      (pool.writeTo 0 ({} : Gauge)).1.reply = .failed ⟨.writeTo, .fault unaddressable⟩ := by
  intro device uses pool
  have confines : Confines Gauge 0xfffffffffffffffe 6 pool :=
    afterRun_fresh_confined device .addressed 0xfffffffffffffffe 6 uses
  have stands : pool.cursor? 0 = some ⟨2, false⟩ := by decide +kernel
  have far : maxOffset < 0xfffffffffffffffe + 2 := by decide
  exact ⟨by decide +kernel,
    confines.read_far 0 _ (.fresh 1) stands rfl (by decide) (by decide) far,
    confines.readAt_far 0 _ (.fresh 9) 3 stands (by decide) (by decide) (by decide),
    (confines.writeTo_far 0 _ {} stands rfl (by decide) far).1⟩

end Direct

end Payload
