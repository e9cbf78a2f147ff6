import Payload.Proofs.Buffered.Emptying
import Payload.Proofs.Direct.Uses
import Payload.Proofs.Honesty
import Payload.Proofs.Memory

/-!
# Reading one copy on to its end

A copy that is read on, into buffers of any size that are not empty, delivers the bytes ahead of it
piece by piece and after that nothing but the end, again and again.  This is shown of each kind of
body on one read; the only place where such a read can break off is a window that outgrows what can
be allocated.
-/

namespace Payload

variable {σ τ : Type}

/-! ## Replies that deliver bytes -/

/-- Replies to reads that deliver these bytes in pieces, and after the last piece only the end. -/
inductive Drains : List UInt8 → List (Receipt τ) → Prop where
  | stop (rest : List UInt8) : Drains rest []
  | piece {rest : List UInt8} {bytes : ByteArray} {replies : List (Receipt τ)}
      (some_bytes : bytes.size ≠ 0) (ahead : bytes.data.toList <+: rest)
      (onwards : Drains (rest.drop bytes.size) replies) :
      Drains rest (.bytes (.done bytes) :: replies)
  | ended {replies : List (Receipt τ)} (onwards : Drains [] replies) :
      Drains [] (.bytes (.failed ⟨.read, .endOfStream⟩) :: replies)

/-- The pieces are the first of the bytes, and all of them once the end shows, as it does after no
more reads than there are bytes. -/
theorem Drains.exists_pieces {rest : List UInt8} {replies : List (Receipt τ)}
    (drains : Drains rest replies) :
    ∃ (pieces : List ByteArray) (ends : Nat),
      replies = pieces.map (fun piece => .bytes (.done piece)) ++
          List.replicate ends (.bytes (.failed ⟨.read, .endOfStream⟩)) ∧
        (∀ piece ∈ pieces, piece.size ≠ 0) ∧
        pieces.flatMap (fun piece => piece.data.toList) <+: rest ∧
        (0 < ends → pieces.flatMap (fun piece => piece.data.toList) = rest) ∧
        (rest.length < replies.length → 0 < ends) := by
  induction drains with
  | stop rest => exact ⟨[], 0, rfl, nofun, List.nil_prefix, nofun, nofun⟩
  | @piece rest bytes replies some_bytes ahead onwards ih =>
      obtain ⟨pieces, ends, rfl, nonempty, given, whole, enough⟩ := ih
      have size_eq : bytes.data.toList.length = bytes.size := by simp
      have parts : bytes.data.toList ++ rest.drop bytes.size = rest := by
        obtain ⟨tail, rfl⟩ := ahead
        rw [← size_eq, List.drop_left]
      refine ⟨bytes :: pieces, ends, rfl, ?_, ?_, fun finished => ?_, fun more => enough ?_⟩
      · rintro piece (_ | ⟨_, member⟩)
        · exact some_bytes
        · exact nonempty piece member
      · rw [List.flatMap_cons, ← parts]
        exact (List.prefix_append_right_inj _).mpr given
      · rw [List.flatMap_cons, whole finished, parts]
      · have shorter := ahead.length_le
        rw [List.length_drop]
        rw [List.length_cons] at more
        omega
  | @ended replies onwards ih =>
      obtain ⟨pieces, ends, rfl, nonempty, given, -, -⟩ := ih
      have nothing : pieces = [] := by
        cases pieces with
        | nil => rfl
        | cons piece pieces =>
            rw [List.flatMap_cons] at given
            have empty := (List.append_eq_nil_iff.mp (List.prefix_nil.mp given)).1
            have size_eq : piece.data.toList.length = piece.size := by simp
            rw [empty] at size_eq
            exact absurd size_eq.symm (nonempty piece List.mem_cons_self)
      subst nothing
      exact ⟨[], ends + 1, rfl, nofun, List.nil_prefix, fun _ => rfl, fun _ => Nat.succ_pos _⟩

/-- What one read may come to where these bytes are ahead, with the state after it. -/
inductive Gives {state : Type} (onwards : List UInt8 → state → Prop) (rest : List UInt8) :
    Receipt τ × state → Prop where
  | piece {bytes : ByteArray} {next : state} (some_bytes : bytes.size ≠ 0)
      (ahead : bytes.data.toList <+: rest) (goes : onwards (rest.drop bytes.size) next) :
      Gives onwards rest (.bytes (.done bytes), next)
  | ended {next : state} (spent : rest = []) (still : onwards [] next) :
      Gives onwards rest (.bytes (.failed ⟨.read, .endOfStream⟩), next)

section

variable {ρ κ : Type} [Sink τ] {engine : Engine σ ρ κ} {index : Nat}
  {onwards : List UInt8 → Pool engine → Prop}

/-- Where each read gives some of the bytes ahead or the end, all of them together drain. -/
theorem drains_run {buffers : List Buffer}
    (gives : ∀ {rest pool}, onwards rest pool → ∀ buffer ∈ buffers,
      Gives onwards rest (pool.use (.read index buffer : Use σ τ)))
    {rest : List UInt8} {pool : Pool engine} (ahead : onwards rest pool) :
    Drains rest (pool.run (buffers.map (Use.read index : Buffer → Use σ τ))).1 := by
  induction buffers generalizing rest pool with
  | nil => exact .stop rest
  | cons buffer buffers ih =>
      have first := gives ahead buffer List.mem_cons_self
      have later {rest pool} (ahead : onwards rest pool) :
          Drains rest (pool.run (buffers.map (Use.read index : Buffer → Use σ τ))).1 :=
        ih (fun ahead buffer member => gives ahead buffer (List.mem_cons_of_mem _ member)) ahead
      rw [List.map_cons, Pool.run_cons]
      generalize pool.use (.read index buffer : Use σ τ) = step at first ⊢
      cases first with
      | piece some_bytes prefixed goes => exact .piece some_bytes prefixed (later goes)
      | ended spent still =>
          subst spent
          exact .ended (later still)

end

/-! ## Bytes in memory -/

namespace Memory

/-- The copy is open, with these bytes ahead. -/
def Ahead (index : Nat) (rest : List UInt8) (pool : Pool (engine σ)) : Prop :=
  ∃ cursor, pool.cursor? index = some cursor ∧ cursor.offset ≤ pool.record.size ∧
    rest = pool.record.data.toList.drop cursor.offset ∧ (cursor.ended = true → rest = [])

theorem gives_read [Sink τ] {index : Nat} {rest : List UInt8} {pool : Pool (engine σ)}
    (ahead : Ahead index rest pool) {buffer : Buffer} (asks : 0 < buffer.size) :
    Gives (Ahead index) rest (pool.use (.read index buffer : Use σ τ)) := by
  obtain ⟨cursor, found, inside, rfl, ended⟩ := ahead
  have length_eq : pool.record.data.toList.length = pool.record.size := by simp
  rw [Pool.use_read_of_open found]
  change Gives _ _ (.bytes (read buffer.size pool.record cursor).reply,
    pool.put index (read buffer.size pool.record cursor).record
      (read buffer.size pool.record cursor).cursor)
  have reads := reads buffer.size pool.record cursor
  generalize read buffer.size pool.record cursor = turn at reads ⊢
  cases reads with
  | ended finished =>
      rw [ended finished, Pool.put_self found]
      exact .ended rfl ⟨cursor, found, inside, (ended finished).symm, fun _ => rfl⟩
  | nothing _ nothing => exact absurd nothing (Nat.ne_of_gt asks)
  | overrun _ overrun => exact absurd overrun.2 (Nat.not_lt.mpr inside)
  | spent _ _ stands =>
      have spent : pool.record.data.toList.drop cursor.offset = [] :=
        List.drop_eq_nil_iff.mpr (by omega)
      exact .ended spent ⟨_, Pool.cursor?_put_self found _ _, inside, spent.symm, fun _ => rfl⟩
  | gave _ _ within =>
      have size_eq := size_stretch pool.record cursor.offset buffer.size
      refine .piece (by omega) ?_
        ⟨_, Pool.cursor?_put_self found _ _, ?_, List.drop_drop, fun short => ?_⟩
      · rw [toList_stretch, span]
        exact List.take_prefix _ _
      · change cursor.offset + _ ≤ pool.record.size
        omega
      · replace short := of_decide_eq_true short
        rw [List.drop_drop, List.drop_eq_nil_iff]
        omega

end Memory

/-! ## Sources that are read where they stand -/

/-- Whether a source with this offer can be addressed in this way. -/
def Source.Offer.allows (offer : Source.Offer) : Access → Bool
  | .addressed => offer.addressable
  | .seeking => offer.seekable

namespace Direct

variable [Source σ] {offer : Source.Offer} {data : List UInt8} {stands : Nat → σ → Prop}
  {direct : Direct σ} {index : Nat} {rest : List UInt8} {pool : Pool (engine σ)}

/-- The record has its source at hand, which stands somewhere in the data, and lies within it. -/
structure Sees (offer : Source.Offer) (data : List UInt8) (stands : Nat → σ → Prop)
    (direct : Direct σ) : Prop where
  held : direct.custody.held = true
  sound : direct.custody.poisoned = false
  allowed : offer.allows direct.access = true
  source : ∃ position, stands position direct.custody.source
  within : direct.base + direct.length ≤ data.length

/-- An honest source answers at once what it is asked. -/
theorem Sees.asked (sees : Sees offer data stands direct)
    (honest : Source.Honest offer data stands) (operation : Operation) {want position : Nat}
    (asks : 0 < want) (inside : position ≤ data.length) :
    ∃ reading source, direct.ask operation want position =
        (.done reading, direct.returning false source) ∧
      Source.Serves (data.drop position) want (fun _ source => ∃ place, stands place source)
        (reading, source) := by
  obtain ⟨place, there⟩ := sees.source
  have allowed := sees.allowed
  unfold ask
  rw [if_neg (by simp [sees.sound]), if_neg (by simp [sees.held])]
  cases access : direct.access with
  | addressed =>
      rw [access] at allowed
      have serves := honest.readAt allowed there asks inside
      rw [if_pos ((honest.addressable there).trans allowed)]
      exact ⟨_, _, rfl, serves.mono fun _ _ still => ⟨place, still⟩⟩
  | seeking =>
      rw [access] at allowed
      obtain ⟨moved, sought, arrived⟩ := honest.seek allowed (.start position) there inside rfl
      have serves := honest.read arrived asks
      rw [if_pos ((honest.seekable there).trans allowed)]
      unfold seekRead
      rw [sought]
      dsimp only
      generalize Source.read want moved = step at serves
      cases serves with
      | piece some_bytes ahead onwards => exact ⟨_, _, rfl, .piece some_bytes ahead ⟨_, onwards⟩⟩
      | ended spent nothing still => exact ⟨_, _, rfl, .ended spent nothing ⟨_, still⟩⟩

/-- What is fetched within the data are some of the bytes there. -/
theorem Sees.fetched (sees : Sees offer data stands direct)
    (honest : Source.Honest offer data stands) (operation : Operation) (buffer : Buffer)
    (want offset : Nat) (asks : 0 < want) (inside : direct.base + offset < data.length) :
    ∃ bytes source, direct.fetch operation buffer want offset =
        (.done bytes, direct.returning false source) ∧ (∃ place, stands place source) ∧
      bytes.size ≠ 0 ∧ bytes.size ≤ want ∧
      bytes.data.toList <+: data.drop (direct.base + offset) := by
  obtain ⟨reading, source, asked, serves⟩ :=
    sees.asked honest operation asks (Nat.le_of_lt inside)
  have near : ¬maxOffset < direct.base + offset :=
    Nat.not_lt.mpr (Nat.le_trans (Nat.le_of_lt inside) honest.small)
  unfold fetch
  dsimp only
  rw [if_neg near, askSteady, asked]
  cases serves with
  | @piece content fits next some_bytes ahead onwards =>
      exact ⟨content, source, rfl, onwards, some_bytes, fits, ahead⟩
  | ended spent => exact absurd (List.drop_eq_nil_iff.mp spent) (Nat.not_le.mpr inside)

omit [Source σ] in
theorem Sees.returning (sees : Sees offer data stands direct) {source : σ}
    (there : ∃ place, stands place source) :
    Sees offer data stands (direct.returning false source) where
  held := sees.held
  sound := (Bool.or_false _).trans sees.sound
  allowed := sees.allowed
  source := there
  within := sees.within

/-- The copy is open, with these bytes ahead. -/
def Ahead (offer : Source.Offer) (data : List UInt8) (stands : Nat → σ → Prop) (index : Nat)
    (rest : List UInt8) (pool : Pool (engine σ)) : Prop :=
  Sees offer data stands pool.record ∧ ∃ cursor, pool.cursor? index = some cursor ∧
    rest = span data (pool.record.base + cursor.offset) (pool.record.base + pool.record.length) ∧
    (cursor.ended = true → rest = [])

theorem gives_read [Sink τ] (honest : Source.Honest offer data stands)
    (ahead : Ahead offer data stands index rest pool) {buffer : Buffer} (asks : 0 < buffer.size) :
    Gives (Ahead offer data stands index) rest (pool.use (.read index buffer : Use σ τ)) := by
  obtain ⟨sees, cursor, found, rest_eq, ended⟩ := ahead
  have reads := reads buffer pool.record cursor
  have fetches (within : cursor.offset < pool.record.length) :=
    sees.fetched honest .read buffer (min buffer.size (pool.record.length - cursor.offset))
      cursor.offset (by omega) (by have fits := sees.within; omega)
  rw [Pool.use_read_of_open found]
  change Gives _ _ (.bytes (pool.record.read buffer cursor).reply,
    pool.put index (pool.record.read buffer cursor).record (pool.record.read buffer cursor).cursor)
  generalize pool.record.read buffer cursor = turn at reads ⊢
  cases reads with
  | ended finished =>
      rw [Pool.put_self found]
      exact .ended (ended finished) ⟨sees, cursor, found, ended finished ▸ rest_eq, fun _ => rfl⟩
  | nothing going none => exact absurd none (Nat.ne_of_gt asks)
  | past going _ past =>
      have spent : rest = [] := rest_eq.trans (span_eq_nil data (Nat.add_le_add_left past _))
      exact .ended spent
        ⟨sees, _, Pool.cursor?_put_self found _ _, spent ▸ rest_eq, fun _ => rfl⟩
  | dry going _ within fetched nothing =>
      obtain ⟨bytes, source, came, -, some_bytes, -⟩ := fetches within
      rw [came] at fetched
      cases fetched
      exact absurd nothing some_bytes
  | @gave bytes next going _ within fetched =>
      obtain ⟨given, source, came, there, some_bytes, fits, prefixed⟩ := fetches within
      rw [came] at fetched
      cases fetched
      have size_eq : bytes.data.toList.length = bytes.size := by simp
      have onwards : rest.drop bytes.size = span data
          (pool.record.base + cursor.offset + bytes.size)
          (pool.record.base + pool.record.length) := by
        rw [rest_eq, drop_span_add]
      refine .piece some_bytes (rest_eq ▸ prefix_span prefixed (by omega))
        ⟨sees.returning there, _, Pool.cursor?_put_self found _ _, ?_, fun last => ?_⟩
      · rw [onwards, Nat.add_assoc]
        rfl
      · have all : bytes.size = min buffer.size (pool.record.length - cursor.offset) ∧
            min buffer.size (pool.record.length - cursor.offset) < buffer.size := by
          simpa [and_comm] using last
        rw [onwards]
        exact span_eq_nil data (by omega)
  | failed going _ within fetched =>
      obtain ⟨bytes, source, came, -⟩ := fetches within
      rw [came] at fetched
      cases fetched
  | broke going _ within fetched =>
      obtain ⟨bytes, source, came, -⟩ := fetches within
      rw [came] at fetched
      cases fetched

end Direct

/-! ## Sources that are read in sequence -/

namespace Buffered

variable [Source σ] {yields : List UInt8 → σ → Prop} {sequel : Terminal} {stream : List UInt8}
  {declared : Option Nat} {blockSize index want : Nat} {rest : List UInt8} {pool : Pool (engine σ)}
  {cursor : Cursor} {turn : Turn (Buffered σ) Cursor ByteArray}

/-- The window starts where the only copy stands. -/
theorem Balanced.start_eq (balanced : Balanced pool) (alone : pool.openCount = 1)
    (found : pool.cursor? index = some cursor) : pool.record.window.start = cursor.offset := by
  obtain ⟨only, cursors_eq⟩ := List.length_eq_one_iff.mp alone
  have member : cursor ∈ pool.cursors := Pool.mem_cursors_iff.mpr ⟨index, found⟩
  have slowest := Tally.count_pos_of_least?_eq_some
    (balanced.slowest (Nat.lt_of_lt_of_eq Nat.one_pos alone.symm))
  rw [cursors_eq, List.mem_singleton] at member
  rw [balanced.tallied, offsets, cursors_eq, ← member] at slowest
  simpa using List.count_pos_iff.mp slowest

/-- The window of a copy that is read on alone stays small enough to be allocated, where it is read
into buffers of this size: because these and a block are small, or because the length is. -/
def Roomy (declared : Option Nat) (blockSize want : Nat) : Prop :=
  want + blockSize ≤ maxAllocation + 1 ∨ ∃ length ≤ maxAllocation, declared = some length

/-- With such room a copy that is alone is read without breaking off. -/
theorem Truthful.came_of_roomy
    (truthful : Truthful yields sequel stream declared blockSize pool)
    (sequential : Source.Sequential yields sequel) (alone : pool.openCount = 1)
    (found : pool.cursor? index = some cursor) (roomy : Roomy declared (max blockSize 1) want)
    (reads : Reads want pool.record cursor turn) : turn.reply ≠ .broke := by
  cases reads with
  | ended => nofun
  | poisoned => nofun
  | @broke fill going sound running short fills broken =>
      have faithful := truthful.faithful (Pool.openCount_pos found)
      have start_eq := truthful.balanced.start_eq alone found
      have length_eq := (faithful.running running).2
      have stop_eq : pool.record.window.stop =
        pool.record.window.start + pool.record.window.size := rfl
      have room : pool.record.window.size +
          (pool.record.order (cursor.offset + want - pool.record.window.stop)).1 ≤
            maxAllocation := by
        rcases roomy with small | ⟨length, small, rfl⟩
        · have ordered :=
            order_le pool.record (cursor.offset + want - pool.record.window.stop)
          rw [faithful.blocks] at ordered
          omega
        · have limited := (order_of_known length_eq
            (cursor.offset + want - pool.record.window.stop)).1
          have within : pool.record.window.stop ≤ min length stream.length := faithful.within
          omega
      have intact := faithful.intact sequential running room fills
      rw [broken] at intact
      cases intact
  | served going sound enough delivers => exact delivers.reply_ne_broke
  | filled going sound running short fills intact delivers => exact delivers.reply_ne_broke

/-- The copy is open and the only one, and has these bytes ahead. -/
def Ahead (yields : List UInt8 → σ → Prop) (stream : List UInt8) (declared : Option Nat)
    (blockSize index : Nat) (rest : List UInt8) (pool : Pool (engine σ)) : Prop :=
  Truthful yields .ended stream declared blockSize pool ∧ pool.openCount = 1 ∧
    pool.record.custody.poisoned = false ∧ ∃ cursor, pool.cursor? index = some cursor ∧
      rest = span stream cursor.offset (reach declared stream)

theorem gives_read [Sink τ] (sequential : Source.Sequential yields .ended)
    (ends : ending declared stream .ended = .ended)
    (ahead : Ahead yields stream declared blockSize index rest pool) {buffer : Buffer}
    (asks : 0 < buffer.size) (roomy : Roomy declared (max blockSize 1) buffer.size) :
    Gives (Ahead yields stream declared blockSize index) rest
      (pool.use (.read index buffer : Use σ τ)) := by
  obtain ⟨truthful, alone, sound, cursor, found, rest_eq⟩ := ahead
  have reads := reads_read (truthful.balanced.tidy (Pool.openCount_pos found))
    (truthful.balanced.standing found) buffer.size
  obtain ⟨tells, later⟩ := truthful.tells sequential found buffer.size
  have came := truthful.came_of_roomy sequential alone found roomy reads
  rw [Pool.use_read_of_open found]
  change Gives _ _ (.bytes (pool.record.read buffer.size cursor).reply,
    pool.put index (pool.record.read buffer.size cursor).record
      (pool.record.read buffer.size cursor).cursor)
  generalize pool.record.read buffer.size cursor = turn at reads tells later came ⊢
  have onwards : Ahead yields stream declared blockSize index
      (span stream turn.cursor.offset (reach declared stream))
      (pool.put index turn.record turn.cursor) :=
    ⟨later, (Pool.openCount_put found _ _).trans alone, (reads.poisoned_eq came).trans sound, _,
      Pool.cursor?_put_self found _ _, rfl⟩
  cases tells with
  | @gives bytes done further within content some_bytes =>
      have inside := Nat.le_trans within (reach_le declared stream)
      have size_eq := size_of_span content inside
      have moves := some_bytes asks
      have there : cursor.offset + bytes.size = turn.cursor.offset := by omega
      rw [done, rest_eq]
      refine .piece (by omega) ?_ ?_
      · rw [content, ← span_append stream further within]
        exact List.prefix_append _ _
      · rw [drop_span_add, there]
        exact onwards
  | ends failed there stays =>
      have spent := span_eq_nil stream (Nat.le_of_eq there.symm)
      rw [failed, ends, rest_eq]
      rw [stays, spent] at onwards
      exact .ended spent onwards
  | poisoned poisoned =>
      rw [sound] at poisoned
      cases poisoned
  | broke broke => exact absurd broke came

end Buffered

end Payload
