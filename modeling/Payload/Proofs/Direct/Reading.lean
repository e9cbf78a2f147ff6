import Payload.Proofs.Direct.Serving

/-!
# Every way in which a read of a direct body can come out

A direct body asks its source at the position that it works out itself, and asks again only after an
interruption.  `Asks` is what one question can come to, `Settles` what the last one of several can,
and `Reads` and `ReadsAt` what the two reads make of that.
-/

namespace Payload

/-- Whether a source offers what this access needs. -/
def Access.offered {σ : Type} [Source σ] (source : σ) : Access → Bool
  | .addressed => Source.addressable source
  | .seeking => Source.seekable source

namespace Direct

variable {σ : Type} [Source σ]

/-! ## One question -/

/-- What asking the source once can come to. -/
inductive Asks (operation : Operation) (want position : Nat) (direct : Direct σ) :
    Reply (Reading want) × Direct σ → Prop where
  | poisoned (poisoned : direct.custody.poisoned = true) :
      Asks operation want position direct (.failed ⟨operation, .poisoned⟩, direct)
  | released (released : direct.custody.held = false) :
      Asks operation want position direct (.failed ⟨operation, .closed⟩, direct)
  | unsupported (withheld : direct.access.offered direct.custody.source = false) :
      Asks operation want position direct (.failed ⟨operation, .unsupported⟩, direct)
  | addressed (sound : direct.custody.poisoned = false) (held : direct.custody.held = true)
      (access : direct.access = .addressed) :
      Asks operation want position direct
        (.done (Source.readAt want position direct.custody.source).1,
          direct.returning false (Source.readAt want position direct.custody.source).2)
  /-- The source cannot be moved. -/
  | stuck {fault : Fault} {source : σ} (sound : direct.custody.poisoned = false)
      (held : direct.custody.held = true) (access : direct.access = .seeking)
      (sought : Source.seek (.start position) direct.custody.source = (.failed fault, source)) :
      Asks operation want position direct
        (.failed ⟨operation, .fault fault⟩, direct.returning false source)
  /-- The source breaks off while it is moved. -/
  | lost {source : σ} (sound : direct.custody.poisoned = false)
      (held : direct.custody.held = true) (access : direct.access = .seeking)
      (sought : Source.seek (.start position) direct.custody.source = (.broke, source)) :
      Asks operation want position direct (.broke, direct.returning true source)
  | moved {stands : Nat} {source : σ} (sound : direct.custody.poisoned = false)
      (held : direct.custody.held = true) (access : direct.access = .seeking)
      (sought : Source.seek (.start position) direct.custody.source = (.done stands, source)) :
      Asks operation want position direct
        (.done (Source.read want source).1,
          direct.returning (Source.read want source).1.brokeOff (Source.read want source).2)

theorem asks (operation : Operation) (want position : Nat) (direct : Direct σ) :
    Asks operation want position direct (direct.ask operation want position) := by
  unfold ask
  split
  · rename_i poisoned
    exact .poisoned poisoned
  · rename_i sound
    replace sound : direct.custody.poisoned = false := by simpa using sound
    split
    · rename_i released
      exact .released (by simpa using released)
    · rename_i held
      replace held : direct.custody.held = true := by simpa using held
      cases access : direct.access with
      | addressed =>
          dsimp only
          split
          · exact .addressed sound held access
          · rename_i withheld
            exact .unsupported (by simpa [Access.offered, access] using withheld)
      | seeking =>
          dsimp only
          split
          · unfold seekRead
            rcases sought : Source.seek (.start position) direct.custody.source with
              ⟨stands | fault | _, source⟩
            · exact .moved sound held access sought
            · exact .stuck sound held access sought
            · exact .lost sound held access sought
          · rename_i withheld
            exact .unsupported (by simpa [Access.offered, access] using withheld)

/-- A reading comes of a read at the position, or of a read of the source that was moved there. -/
theorem ask_eq_done {operation : Operation} {want position : Nat} {direct next : Direct σ}
    {reading : Reading want}
    (asked : direct.ask operation want position = (.done reading, next)) :
    (direct.access = .addressed ∧
        reading = (Source.readAt want position direct.custody.source).1 ∧
        next = direct.returning false (Source.readAt want position direct.custody.source).2) ∨
      ∃ stands source, direct.access = .seeking ∧
        Source.seek (.start position) direct.custody.source = (.done stands, source) ∧
        reading = (Source.read want source).1 ∧
        next = direct.returning (Source.read want source).1.brokeOff
          (Source.read want source).2 := by
  have asks := asks operation want position direct
  generalize direct.ask operation want position = out at asks asked
  cases asks with
  | poisoned => cases asked
  | released => cases asked
  | unsupported => cases asked
  | stuck => cases asked
  | lost => cases asked
  | addressed sound held access =>
      cases asked
      exact Or.inl ⟨access, rfl, rfl⟩
  | moved sound held access sought =>
      cases asked
      exact Or.inr ⟨_, _, access, sought, rfl, rfl⟩

/-- What is not answered at all broke off while the source was moved. -/
theorem ask_eq_broke {operation : Operation} {want position : Nat} {direct next : Direct σ}
    (asked : direct.ask operation want position = (.broke, next)) :
    direct.access = .seeking ∧ ∃ source,
      Source.seek (.start position) direct.custody.source = (.broke, source) ∧
        next = direct.returning true source := by
  have asks := asks operation want position direct
  generalize direct.ask operation want position = out at asks asked
  cases asks with
  | poisoned => cases asked
  | released => cases asked
  | unsupported => cases asked
  | stuck => cases asked
  | addressed => cases asked
  | moved => cases asked
  | lost sound held access sought =>
      cases asked
      exact ⟨access, _, sought, rfl⟩

/-! ## Asking again -/

/-- What the last question can come to, with `tries` questions left. -/
inductive Settles (operation : Operation) (buffer : Buffer) (want position tries : Nat)
    (direct : Direct σ) : Reply ByteArray × Direct σ → Prop where
  /-- The questions allowed for are over. -/
  | exhausted (spent : tries = 0) :
      Settles operation buffer want position tries direct (.broke, direct)
  | gave {transfer : Transfer want} {bytes : ByteArray} {next : Direct σ}
      (asked : direct.ask operation want position = (.done (.done transfer), next))
      (received : transfer.received? buffer.front = some bytes) :
      Settles operation buffer want position tries direct (.done bytes, next)
  /-- More bytes are claimed than there was room for. -/
  | absurd {transfer : Transfer want} {next : Direct σ}
      (asked : direct.ask operation want position = (.done (.done transfer), next))
      (excess : want < transfer.count) :
      Settles operation buffer want position tries direct (.broke, next)
  | failed {fault : Fault} {next : Direct σ}
      (asked : direct.ask operation want position = (.done (.failed fault), next))
      (final : fault.interrupts = false) :
      Settles operation buffer want position tries direct
        (.failed ⟨operation, .fault fault⟩, next)
  | broke {next : Direct σ}
      (asked : direct.ask operation want position = (.done .broke, next)) :
      Settles operation buffer want position tries direct (.broke, next)
  /-- The source was not read at all. -/
  | refused {error : Error} {next : Direct σ}
      (asked : direct.ask operation want position = (.failed error, next)) :
      Settles operation buffer want position tries direct (.failed error, next)
  | lost {next : Direct σ} (asked : direct.ask operation want position = (.broke, next)) :
      Settles operation buffer want position tries direct (.broke, next)

/-- What every interrupted question keeps, and so leaves one question fewer, holds before the last
one. -/
theorem askSteady_rule {operation : Operation} (buffer : Buffer) {want position : Nat}
    {I : Nat → Direct σ → Prop}
    (keeps : ∀ tries direct fault next, I (tries + 1) direct →
      direct.ask operation want position = (.done (.failed fault), next) →
      fault.interrupts = true → I tries next)
    (tries : Nat) {direct : Direct σ} (holds : I tries direct) :
    ∃ left last, I left last ∧ Settles operation buffer want position left last
      (direct.askSteady operation buffer want position tries) := by
  induction tries generalizing direct with
  | zero => exact ⟨0, direct, holds, .exhausted rfl⟩
  | succ tries ih =>
      unfold askSteady
      split
      · rename_i transfer next asked
        split
        · rename_i bytes received
          exact ⟨tries + 1, direct, holds, .gave asked received⟩
        · rename_i absurd
          exact ⟨tries + 1, direct, holds,
            .absurd asked (Transfer.received?_eq_none_iff.mp absurd)⟩
      · rename_i fault next asked
        split
        · rename_i again
          exact ih (keeps tries direct fault next holds asked again)
        · rename_i final
          exact ⟨tries + 1, direct, holds, .failed asked (by simpa using final)⟩
      · rename_i next asked
        exact ⟨tries + 1, direct, holds, .broke asked⟩
      · rename_i error next asked
        exact ⟨tries + 1, direct, holds, .refused asked⟩
      · rename_i next asked
        exact ⟨tries + 1, direct, holds, .lost asked⟩

/-- The rule of `fetch`: a position past the last that can be addressed is not asked for at all. -/
theorem fetch_rule (operation : Operation) (buffer : Buffer) (want offset : Nat)
    {direct : Direct σ} {I : Direct σ → Prop}
    (keeps : ∀ direct' fault next, I direct' →
      direct'.ask operation want (direct.base + offset) = (.done (.failed fault), next) →
      fault.interrupts = true → I next)
    (holds : I direct) :
    (∃ fault, direct.fetch operation buffer want offset =
        (.failed ⟨operation, .fault fault⟩, direct)) ∨
      ∃ left last, I last ∧ Settles operation buffer want (direct.base + offset) left last
        (direct.fetch operation buffer want offset) := by
  unfold fetch
  dsimp only
  split
  · exact Or.inl ⟨_, rfl⟩
  · exact Or.inr (askSteady_rule buffer (I := fun _ => I) (fun _ => keeps) _ holds)

/-- Fetching gives no more than was wanted, whatever the source claims. -/
theorem size_le_of_fetch {operation : Operation} {buffer : Buffer} {want offset : Nat}
    {direct next : Direct σ} {bytes : ByteArray}
    (fetched : direct.fetch operation buffer want offset = (.done bytes, next)) :
    bytes.size ≤ want := by
  have settled : (∃ fault, direct.fetch operation buffer want offset =
      (.failed ⟨operation, .fault fault⟩, direct)) ∨ _ :=
    fetch_rule operation buffer want offset (I := fun _ => True) (fun _ _ _ _ _ _ => trivial)
      trivial
  rcases settled with ⟨fault, refused⟩ | ⟨left, last, -, settles⟩
  · rw [fetched] at refused
    cases refused
  · rw [fetched] at settles
    cases settles with
    | gave asked received =>
        exact Transfer.size_le_of_received?_eq_some buffer.size_front received

/-! ## Reads -/

/-- What a read at the cursor makes of what it fetched. -/
inductive Reads (buffer : Buffer) (direct : Direct σ) (cursor : Cursor) :
    Turn (Direct σ) Cursor ByteArray → Prop where
  | ended (ended : cursor.ended = true) :
      Reads buffer direct cursor ⟨.failed ⟨.read, .endOfStream⟩, direct, cursor, []⟩
  | nothing (going : cursor.ended = false) (asks : buffer.size = 0) :
      Reads buffer direct cursor ⟨.done .empty, direct, cursor, []⟩
  | past (going : cursor.ended = false) (asks : 0 < buffer.size)
      (past : direct.length ≤ cursor.offset) :
      Reads buffer direct cursor
        ⟨.failed ⟨.read, .endOfStream⟩, direct, { cursor with ended := true }, []⟩
  /-- There is nothing where bytes are expected. -/
  | dry {bytes : ByteArray} {next : Direct σ} (going : cursor.ended = false)
      (asks : 0 < buffer.size) (within : cursor.offset < direct.length)
      (fetched : direct.fetch .read buffer (min buffer.size (direct.length - cursor.offset))
        cursor.offset = (.done bytes, next)) (nothing : bytes.size = 0) :
      Reads buffer direct cursor
        ⟨.failed ⟨.read, .endOfStream⟩, next, { cursor with ended := true }, []⟩
  | gave {bytes : ByteArray} {next : Direct σ} (going : cursor.ended = false)
      (asks : 0 < buffer.size) (within : cursor.offset < direct.length)
      (fetched : direct.fetch .read buffer (min buffer.size (direct.length - cursor.offset))
        cursor.offset = (.done bytes, next)) (some_bytes : bytes.size ≠ 0) :
      Reads buffer direct cursor
        ⟨.done bytes, next, ⟨cursor.offset + bytes.size,
          min buffer.size (direct.length - cursor.offset) < buffer.size &&
            bytes.size == min buffer.size (direct.length - cursor.offset)⟩, []⟩
  | failed {error : Error} {next : Direct σ} (going : cursor.ended = false)
      (asks : 0 < buffer.size) (within : cursor.offset < direct.length)
      (fetched : direct.fetch .read buffer (min buffer.size (direct.length - cursor.offset))
        cursor.offset = (.failed error, next)) :
      Reads buffer direct cursor ⟨.failed error, next, cursor, []⟩
  | broke {next : Direct σ} (going : cursor.ended = false) (asks : 0 < buffer.size)
      (within : cursor.offset < direct.length)
      (fetched : direct.fetch .read buffer (min buffer.size (direct.length - cursor.offset))
        cursor.offset = (.broke, next)) :
      Reads buffer direct cursor ⟨.broke, next, cursor, []⟩

theorem reads (buffer : Buffer) (direct : Direct σ) (cursor : Cursor) :
    Reads buffer direct cursor (direct.read buffer cursor) := by
  unfold read
  split
  · rename_i ended
    exact .ended ended
  · rename_i going
    replace going : cursor.ended = false := by simpa using going
    split
    · rename_i asks
      exact .nothing going asks
    · rename_i asks
      replace asks : 0 < buffer.size := Nat.pos_of_ne_zero asks
      split
      · rename_i past
        exact .past going asks past
      · rename_i within
        replace within : cursor.offset < direct.length := Nat.lt_of_not_le within
        dsimp only
        split
        · rename_i bytes next fetched
          split
          · rename_i nothing
            exact .dry going asks within fetched nothing
          · rename_i some_bytes
            exact .gave going asks within fetched some_bytes
        · rename_i error next fetched
          exact .failed going asks within fetched
        · rename_i next fetched
          exact .broke going asks within fetched

/-- A read leaves the record as it is, or as fetching leaves it; and it breaks off when the fetching
does. -/
theorem Reads.record_eq {buffer : Buffer} {direct : Direct σ} {cursor : Cursor}
    {turn : Turn (Direct σ) Cursor ByteArray} (reads : Reads buffer direct cursor turn) :
    turn.record = direct ∨
      turn.record = (direct.fetch .read buffer
        (min buffer.size (direct.length - cursor.offset)) cursor.offset).2 ∧
      ((direct.fetch .read buffer
        (min buffer.size (direct.length - cursor.offset)) cursor.offset).1 = .broke →
          turn.reply = .broke) := by
  cases reads with
  | ended => exact Or.inl rfl
  | nothing => exact Or.inl rfl
  | past => exact Or.inl rfl
  | dry going asks within fetched => exact Or.inr (by simp [fetched])
  | gave going asks within fetched => exact Or.inr (by simp [fetched])
  | failed going asks within fetched => exact Or.inr (by simp [fetched])
  | broke going asks within fetched => exact Or.inr (by simp [fetched])

/-- A read keeps what holds of the record, if fetching does. -/
theorem Reads.keeps {P : Direct σ → Prop} {buffer : Buffer} {direct : Direct σ} {cursor : Cursor}
    {turn : Turn (Direct σ) Cursor ByteArray} (reads : Reads buffer direct cursor turn)
    (before : P direct)
    (fetches : ∀ want offset, P (direct.fetch .read buffer want offset).2) : P turn.record := by
  rcases reads.record_eq with same | ⟨fetched, -⟩
  · exact same ▸ before
  · exact fetched ▸ fetches _ _

theorem Reads.served {buffer : Buffer} {direct : Direct σ} {cursor : Cursor}
    {turn : Turn (Direct σ) Cursor ByteArray} (reads : Reads buffer direct cursor turn) :
    Served direct turn.record :=
  reads.keeps (.refl direct) fun _ _ => served_fetch _ _ _ _ _

/-- What a read at an offset makes of what it fetched. -/
inductive ReadsAt (buffer : Buffer) (offset : Nat) (direct : Direct σ) (cursor : Cursor) :
    Turn (Direct σ) Cursor ByteArray → Prop where
  | nothing (asks : buffer.size = 0) :
      ReadsAt buffer offset direct cursor ⟨.done .empty, direct, cursor, []⟩
  | past (asks : 0 < buffer.size) (past : direct.length ≤ offset) :
      ReadsAt buffer offset direct cursor
        ⟨.failed ⟨.readAt, .endOfStream⟩, direct, cursor, []⟩
  | dry {bytes : ByteArray} {next : Direct σ} (asks : 0 < buffer.size)
      (within : offset < direct.length)
      (fetched : direct.fetch .readAt buffer (min buffer.size (direct.length - offset)) offset =
        (.done bytes, next)) (nothing : bytes.size = 0) :
      ReadsAt buffer offset direct cursor ⟨.failed ⟨.readAt, .endOfStream⟩, next, cursor, []⟩
  | gave {bytes : ByteArray} {next : Direct σ} (asks : 0 < buffer.size)
      (within : offset < direct.length)
      (fetched : direct.fetch .readAt buffer (min buffer.size (direct.length - offset)) offset =
        (.done bytes, next)) (some_bytes : bytes.size ≠ 0) :
      ReadsAt buffer offset direct cursor ⟨.done bytes, next, cursor, []⟩
  | failed {error : Error} {next : Direct σ} (asks : 0 < buffer.size)
      (within : offset < direct.length)
      (fetched : direct.fetch .readAt buffer (min buffer.size (direct.length - offset)) offset =
        (.failed error, next)) :
      ReadsAt buffer offset direct cursor ⟨.failed error, next, cursor, []⟩
  | broke {next : Direct σ} (asks : 0 < buffer.size) (within : offset < direct.length)
      (fetched : direct.fetch .readAt buffer (min buffer.size (direct.length - offset)) offset =
        (.broke, next)) :
      ReadsAt buffer offset direct cursor ⟨.broke, next, cursor, []⟩

theorem readsAt (buffer : Buffer) (offset : Nat) (direct : Direct σ) (cursor : Cursor) :
    ReadsAt buffer offset direct cursor (direct.readAt buffer offset cursor) := by
  unfold readAt
  split
  · rename_i asks
    exact .nothing asks
  · rename_i asks
    replace asks : 0 < buffer.size := Nat.pos_of_ne_zero asks
    split
    · rename_i past
      exact .past asks past
    · rename_i within
      replace within : offset < direct.length := Nat.lt_of_not_le within
      split
      · rename_i bytes next fetched
        split
        · rename_i nothing
          exact .dry asks within fetched nothing
        · rename_i some_bytes
          exact .gave asks within fetched some_bytes
      · rename_i error next fetched
        exact .failed asks within fetched
      · rename_i next fetched
        exact .broke asks within fetched

/-- A read at an offset leaves the record as it is, or as fetching leaves it; and it breaks off when
the fetching does. -/
theorem ReadsAt.record_eq {buffer : Buffer} {offset : Nat} {direct : Direct σ} {cursor : Cursor}
    {turn : Turn (Direct σ) Cursor ByteArray} (reads : ReadsAt buffer offset direct cursor turn) :
    turn.record = direct ∨
      turn.record = (direct.fetch .readAt buffer
        (min buffer.size (direct.length - offset)) offset).2 ∧
      ((direct.fetch .readAt buffer (min buffer.size (direct.length - offset)) offset).1 = .broke →
        turn.reply = .broke) := by
  cases reads with
  | nothing => exact Or.inl rfl
  | past => exact Or.inl rfl
  | dry asks within fetched => exact Or.inr (by simp [fetched])
  | gave asks within fetched => exact Or.inr (by simp [fetched])
  | failed asks within fetched => exact Or.inr (by simp [fetched])
  | broke asks within fetched => exact Or.inr (by simp [fetched])

theorem ReadsAt.keeps {P : Direct σ → Prop} {buffer : Buffer} {offset : Nat} {direct : Direct σ}
    {cursor : Cursor} {turn : Turn (Direct σ) Cursor ByteArray}
    (reads : ReadsAt buffer offset direct cursor turn) (before : P direct)
    (fetches : ∀ want offset, P (direct.fetch .readAt buffer want offset).2) : P turn.record := by
  rcases reads.record_eq with same | ⟨fetched, -⟩
  · exact same ▸ before
  · exact fetched ▸ fetches _ _

theorem ReadsAt.served {buffer : Buffer} {offset : Nat} {direct : Direct σ} {cursor : Cursor}
    {turn : Turn (Direct σ) Cursor ByteArray} (reads : ReadsAt buffer offset direct cursor turn) :
    Served direct turn.record :=
  reads.keeps (.refl direct) fun _ _ => served_fetch _ _ _ _ _

end Direct

end Payload
