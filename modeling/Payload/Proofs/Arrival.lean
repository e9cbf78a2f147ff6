import Payload.Opening
import Payload.Proofs.States
import Payload.Proofs.Steering
import Payload.Reader

/-!
# Where a seek arrives

A seek names a number over all integers.  One before the start is refused, and one past the end
comes to the end.  A body works this out in signed 64-bit numbers, where its position and its length
count as the last of these if they lie past it.  So a body whose length is a signed number is moved
exactly as asked, and a longer one as if it ended at the last signed number.
-/

namespace Payload

namespace Seek

/-- The number that a seek names, if it knows the origin. -/
def target? (offset whence : Int) (position length : Nat) : Option Int :=
  if whence = fromStart then some offset
  else if whence = fromHere then some (position + offset)
  else if whence = fromFinish then some (length + offset)
  else none

/-- What a seek comes to over all integers. -/
def exact (offset whence : Int) (position length : Nat) : Except SeekError Nat :=
  match target? offset whence position length with
  | none => .error (.unknownWhence whence)
  | some target =>
    if target < 0 then
      .error (if whence = fromStart then .negativeStart offset else .negativeComputed target)
    else
      .ok (min target.toNat length)

/-- What a position or a length counts as. -/
def counted (number : Nat) : Nat :=
  min number maxSigned.toNat

theorem counted_of_le {number : Nat} (signed : number ≤ maxSigned) : counted number = number := by
  unfold counted maxSigned at *
  omega

theorem saturate_natCast (number : Nat) : saturate number = counted number := by
  unfold saturate counted minSigned maxSigned
  omega

/-- A computed target, compared with the bounds of a body. -/
def cut (target : Int) (length : Nat) : Except SeekError Nat :=
  if target < 0 then .error (.negativeComputed target) else .ok (min target.toNat length)

theorem cut_eq_iff {target other : Int} {length bound : Nat} :
    cut target length = cut other bound ↔
      (target < 0 ∧ target = other) ∨
        0 ≤ target ∧ 0 ≤ other ∧ min target.toNat length = min other.toNat bound := by
  unfold cut
  split <;> split <;> simp <;> omega

variable {offset whence : Int} {position length : Nat}

theorem origin_cases (whence : Int) :
    whence = fromStart ∨ whence = fromHere ∨ whence = fromFinish ∨
      whence ≠ fromStart ∧ whence ≠ fromHere ∧ whence ≠ fromFinish := by
  unfold fromStart fromHere fromFinish
  omega

theorem resolve_fromHere (offset : Int) (position length : Nat) :
    resolve offset fromHere position length =
      cut (saturate (saturate position + offset)) length :=
  rfl

theorem resolve_fromFinish (offset : Int) (position length : Nat) :
    resolve offset fromFinish position length = cut (saturate (saturate length + offset)) length :=
  rfl

theorem exact_fromHere (offset : Int) (position length : Nat) :
    exact offset fromHere position length = cut (position + offset) length :=
  rfl

theorem exact_fromFinish (offset : Int) (position length : Nat) :
    exact offset fromFinish position length = cut (length + offset) length :=
  rfl

/-- From the start there is nothing to work out. -/
theorem resolve_fromStart (offset : Int) (position length : Nat) :
    resolve offset fromStart position length =
      if offset < 0 then .error (.negativeStart offset) else .ok (min offset.toNat length) := by
  by_cases before : offset < 0
  · simp [resolve, goal, before]
  · simp [resolve, goal, before]

theorem exact_fromStart (offset : Int) (position length : Nat) :
    exact offset fromStart position length =
      if offset < 0 then .error (.negativeStart offset) else .ok (min offset.toNat length) := by
  simp [exact, target?]

theorem resolve_of_unknown (unknown : whence ≠ fromStart ∧ whence ≠ fromHere ∧ whence ≠ fromFinish)
    (offset : Int) (position length : Nat) :
    resolve offset whence position length = .error (.unknownWhence whence) := by
  simp [resolve, goal, unknown]

theorem exact_of_unknown (unknown : whence ≠ fromStart ∧ whence ≠ fromHere ∧ whence ≠ fromFinish)
    (offset : Int) (position length : Nat) :
    exact offset whence position length = .error (.unknownWhence whence) := by
  simp [exact, target?, unknown]

/-- A body is moved as one that ends at the last signed number. -/
theorem resolve_eq_exact_counted (low : minSigned ≤ offset) (high : offset ≤ maxSigned)
    (whence : Int) (position length : Nat) :
    resolve offset whence position length =
      exact offset whence (counted position) (counted length) := by
  have onwards (number : Nat) : cut (saturate (saturate number + offset)) length =
      cut (counted number + offset) (counted length) := by
    rw [cut_eq_iff, saturate_natCast]
    unfold saturate counted minSigned maxSigned at *
    omega
  rcases origin_cases whence with rfl | rfl | rfl | unknown
  · have same : min offset.toNat length = min offset.toNat (counted length) := by
      unfold counted maxSigned at *
      omega
    rw [resolve_fromStart, exact_fromStart, same]
  · rw [resolve_fromHere, exact_fromHere]
    exact onwards position
  · rw [resolve_fromFinish, exact_fromFinish]
    exact onwards length
  · rw [resolve_of_unknown unknown, exact_of_unknown unknown]

/-- The numbers that a target is worked out from are signed, and so is the target where the body
reaches past them. -/
def Fits (offset whence : Int) (position length : Nat) : Prop :=
  length ≤ maxSigned ∨ whence ≠ fromFinish ∧
    (whence = fromHere → position ≤ maxSigned ∧ position + offset ≤ maxSigned)

/-- That is all that a seek needs to come to what it should. -/
theorem resolve_eq_exact_iff (low : minSigned ≤ offset) (high : offset ≤ maxSigned)
    (within : position ≤ length) :
    resolve offset whence position length = exact offset whence position length ↔
      Fits offset whence position length := by
  rcases origin_cases whence with rfl | rfl | rfl | unknown
  · refine iff_of_true ?_ (Or.inr ⟨by decide, fun other => absurd other (by decide)⟩)
    rw [resolve_fromStart, exact_fromStart]
  · rw [resolve_eq_exact_counted low high, exact_fromHere, exact_fromHere, cut_eq_iff]
    unfold Fits counted fromHere fromFinish minSigned maxSigned at *
    omega
  · rw [resolve_eq_exact_counted low high, exact_fromFinish, exact_fromFinish, cut_eq_iff]
    unfold Fits counted fromHere fromFinish minSigned maxSigned at *
    omega
  · refine iff_of_true ?_ (Or.inr ⟨unknown.2.2, fun other => absurd other unknown.2.1⟩)
    rw [resolve_of_unknown unknown, exact_of_unknown unknown]

end Seek

/-! ## Moving a copy -/

section

variable {σ ρ : Type} {engine : Engine σ ρ Cursor}

/-- Where an open copy stands, and the length of its body as it is read off the record. -/
def Pool.place? (length : ρ → Nat) (pool : Pool engine) (index : Nat) : Option (Cursor × Nat) :=
  (pool.cursor? index).map fun cursor => (cursor, length pool.record)

/-- A copy goes where its seek is resolved to, and no other copy goes anywhere. -/
theorem Steers.seek_of_resolve {length : ρ → Nat} {pool : Pool engine} {index total : Nat}
    {cursor : Cursor} (steers : Steers engine length)
    (there : pool.place? length index = some (cursor, total)) {offset whence : Int} {position : Nat}
    (resolved : Seek.resolve offset whence cursor.offset total = .ok position) :
    (pool.seek index offset whence).reply = .done position ∧
      (pool.seek index offset whence).state.record = pool.record ∧
      ∀ other, (pool.seek index offset whence).state.place? length other =
        if other = index then some ({ offset := position }, total)
        else pool.place? length other := by
  obtain ⟨current, found, same⟩ := Option.map_eq_some_iff.mp there
  cases same
  have moves : engine.seek offset whence pool.record cursor =
      ⟨.done position, pool.record, { offset := position }, []⟩ := by
    rw [steers.seek_eq, Cursor.seek, resolved]
  have acted := Pool.act_of_open found .seek (engine.seek offset whence)
  rw [moves] at acted
  rw [Pool.seek, acted.1, acted.2]
  refine ⟨rfl, rfl, fun other => ?_⟩
  unfold Pool.place?
  split
  · rename_i same
    rw [same, Pool.cursor?_put_self found]
    rfl
  · rename_i apart
    rw [Pool.cursor?_put_of_ne (Ne.symm apart)]
    rfl

end

namespace Body

variable {σ τ : Type} [Source σ] [Sink τ]

/-- Where an open copy that can be moved stands, and the length of its body. -/
def place? (body : Body σ) (index : Nat) : Option (Cursor × Nat) :=
  match body with
  | memory pool => pool.place? ByteArray.size index
  | direct pool => pool.place? Direct.length index
  | buffered _ => none

theorem seekable_iff {body : Body σ} {index : Nat} :
    body.seekable index = true ↔ ∃ cursor length, body.place? index = some (cursor, length) := by
  have opens {ρ : Type} {engine : Engine σ ρ Cursor} (pool : Pool engine) (length : ρ → Nat) :
      (!pool.isClosed index && true) = true ↔
        ∃ cursor total, pool.place? length index = some (cursor, total) := by
    rw [Bool.and_true, Pool.isClosed, Pool.place?]
    cases pool.cursor? index <;> simp
  cases body with
  | memory pool => exact opens pool ByteArray.size
  | direct pool => exact opens pool Direct.length
  | buffered pool =>
      constructor
      · intro movable
        change (!pool.isClosed index && false) = true at movable
        rw [Bool.and_false] at movable
        cases movable
      · rintro ⟨_, _, there⟩
        cases there

/-- A stream seek takes this copy here, away from its end, and does nothing else. -/
structure Arrives (body : Body σ) (index : Nat) (origin : Origin) (position : Nat) : Prop where
  reply : (body.seekStream index origin).1 = .done position
  place : ∀ other, (body.seekStream index origin).2.body.place? other =
    if other = index then (body.place? index).map fun place => ({ offset := position }, place.2)
    else body.place? other
  source : (body.seekStream index origin).2.body.source? = body.source?

variable {body : Body σ} {index : Nat} {cursor : Cursor} {length : Nat}

/-- A stream seek arrives where it is resolved to. -/
theorem arrives_of_resolve (there : body.place? index = some (cursor, length)) {origin : Origin}
    {position : Nat}
    (resolved : Seek.resolve origin.split.1 origin.split.2 cursor.offset length = .ok position) :
    body.Arrives index origin position := by
  cases body with
  | memory pool =>
      obtain ⟨reply, -, place⟩ := Memory.steers.seek_of_resolve there resolved
      refine ⟨congrArg (Outcome.mapFailure Failure.wrapped) reply, fun other => ?_, rfl⟩
      rw [there]
      exact place other
  | direct pool =>
      obtain ⟨reply, record, place⟩ := Direct.steers.seek_of_resolve there resolved
      refine ⟨congrArg (Outcome.mapFailure Failure.wrapped) reply, fun other => ?_,
        congrArg (fun record : Direct σ => some record.custody.source) record⟩
      rw [there]
      exact place other
  | buffered pool => cases there

/-- What a copy that stands here in a body of this length can be moved to as a stream. -/
structure Roams (body : Body σ) (index : Nat) (cursor : Cursor) (length : Nat) : Prop where
  start : ∀ position, body.Arrives index (.start position) (min position (Seek.counted length))
  finish : body.Arrives index (.finish 0) (Seek.counted length)
  here : body.Arrives index (.here 0) (Seek.counted cursor.offset)
  /-- Where the length is a signed number, that is what was asked for. -/
  exactly : length ≤ Seek.maxSigned →
    (∀ position, body.Arrives index (.start position) (min position length)) ∧
      body.Arrives index (.finish 0) length ∧ body.Arrives index (.here 0) cursor.offset

theorem roams (there : body.place? index = some (cursor, length))
    (inside : cursor.offset ≤ length) : body.Roams index cursor length := by
  have start (position : Nat) :
      body.Arrives index (.start position) (min position (Seek.counted length)) := by
    refine arrives_of_resolve there ?_
    change Seek.resolve (Seek.saturate position) Seek.fromStart _ _ = _
    rw [Seek.resolve_fromStart, Seek.saturate_natCast,
      if_neg (Int.not_lt.mpr (Int.natCast_nonneg _)), Int.toNat_natCast]
    unfold Seek.counted
    rw [Nat.min_assoc, Nat.min_comm length]
  have from_end {offset : Nat} (within : Seek.counted offset ≤ Seek.counted length) :
      Seek.cut (Seek.counted offset + 0) (Seek.counted length) = .ok (Seek.counted offset) := by
    unfold Seek.cut
    rw [Int.add_zero, if_neg (Int.not_lt.mpr (Int.natCast_nonneg _)), Int.toNat_natCast,
      Nat.min_eq_left within]
  have finish : body.Arrives index (.finish 0) (Seek.counted length) := by
    refine arrives_of_resolve there ?_
    change Seek.resolve 0 Seek.fromFinish _ _ = _
    rw [Seek.resolve_eq_exact_counted (by decide) (by decide), Seek.exact_fromFinish]
    exact from_end (Nat.le_refl _)
  have here : body.Arrives index (.here 0) (Seek.counted cursor.offset) := by
    refine arrives_of_resolve there ?_
    change Seek.resolve 0 Seek.fromHere _ _ = _
    rw [Seek.resolve_eq_exact_counted (by decide) (by decide), Seek.exact_fromHere]
    exact from_end (by unfold Seek.counted; omega)
  refine ⟨start, finish, here, fun signed => ?_⟩
  have signed_offset : (cursor.offset : Int) ≤ Seek.maxSigned :=
    Int.le_trans (Int.ofNat_le.mpr inside) signed
  rw [Seek.counted_of_le signed] at start finish
  rw [Seek.counted_of_le signed_offset] at here
  exact ⟨start, finish, here⟩

/-! ## Every run -/

/-- No run takes a copy past the length of its body. -/
theorem inside_afterRun {modest : τ → Prop} (sinks : Sink.Modest modest) (new : body.New)
    {uses : List (Use σ τ)} (pours : ∀ use ∈ uses, use.Pours modest)
    (there : (body.afterRun uses).place? index = some (cursor, length)) :
    cursor.offset ≤ length := by
  have within {ρ : Type} {engine : Engine σ ρ Cursor} {read_off : ρ → Nat} {total : Nat}
      {pool : Pool engine} (spans : Spans read_off total pool)
      (there : pool.place? read_off index = some (cursor, length)) : cursor.offset ≤ length := by
    obtain ⟨current, found, same⟩ := Option.map_eq_some_iff.mp there
    cases same
    exact spans.1 ▸ spans.2 index cursor found
  cases new with
  | closed =>
      rw [closed, Body.afterRun, run_memory] at there
      refine within ((spans_alone _ _ ?_).afterRun Memory.steers sinks pours) there
      rintro _ ⟨⟩
  | ofBytes data =>
      rw [ofBytes, Body.afterRun, run_memory] at there
      refine within ((spans_alone _ data ?_).afterRun Memory.steers sinks pours) there
      rintro _ ⟨⟩
      rfl
  | overDirect source access base total =>
      rw [overDirect, afterRun_direct] at there
      refine within ((spans_alone _ _ ?_).afterRun Direct.steers sinks pours) there
      rintro _ ⟨⟩
      rfl
  | overSequence source total blockSize =>
      rw [overSequence, afterRun_buffered] at there
      cases there

/-- Whatever is sought, over all numbers: a body resolves it as one that ends at the last signed
number, which is what was asked for in just those cases that get along without the numbers past it.
So whatever a run has left of a body, a copy of it that can be moved stands within the length, and
arrives as a stream wherever it should, as far as the signed numbers reach. -/
theorem afterRun_new_roams {modest : τ → Prop} (sinks : Sink.Modest modest) (new : body.New)
    {uses : List (Use σ τ)} (pours : ∀ use ∈ uses, use.Pours modest) :
    (∀ offset whence : Int, Seek.minSigned ≤ offset → offset ≤ Seek.maxSigned →
      ∀ position length : Nat, position ≤ length →
        Seek.resolve offset whence position length =
          Seek.exact offset whence (Seek.counted position) (Seek.counted length) ∧
        (Seek.resolve offset whence position length = Seek.exact offset whence position length ↔
          Seek.Fits offset whence position length)) ∧
    ∀ index, (body.afterRun uses).seekable index = true → ∃ cursor length,
      (body.afterRun uses).place? index = some (cursor, length) ∧ cursor.offset ≤ length ∧
        (body.afterRun uses).Roams index cursor length := by
  constructor
  · intro offset whence low high position length within
    exact ⟨Seek.resolve_eq_exact_counted low high whence position length,
      Seek.resolve_eq_exact_iff low high within⟩
  · intro index movable
    obtain ⟨cursor, length, there⟩ := seekable_iff.mp movable
    have inside := inside_afterRun sinks new pours there
    exact ⟨cursor, length, there, inside, roams there inside⟩

/-- A copy that was read past the last signed number, of a body that reaches further, and one at the
end of three bytes: asked where they stand, the first goes back to that number, and the second stays
where it is. -/
theorem afterRun_new_roams_of_past :
    let device : Device := { addressable := true, reads := [.overstate 0] }
    let past : List (Use Device Gauge) := [.seek 0 Seek.maxSigned 0, .read 0 (.fresh 2)]
    let long := (overDirect device .addressed 0 0x8000000000000008).afterRun past
    let all : List (Use Device Gauge) := [.read 0 (.fresh 9)]
    let kept := (ofBytes (σ := Device) ⟨#[1, 2, 3]⟩).afterRun all
    (long.place? 0 = some (⟨0x8000000000000001, false⟩, 0x8000000000000008) ∧
      long.Arrives 0 (.here 0) 0x7fffffffffffffff ∧
      long.Arrives 0 (.start 0xffffffffffffffff) 0x7fffffffffffffff) ∧
    kept.place? 0 = some (⟨3, true⟩, 3) ∧ kept.Arrives 0 (.here 0) 3 ∧
      kept.Arrives 0 (.start 0xffffffffffffffff) 3 := by
  intro device past long all kept
  have pours : ∀ use ∈ past, use.Pours fun _ => True := by simp [past, Use.Pours]
  have pours_all : ∀ use ∈ all, use.Pours fun _ => True := by simp [all, Use.Pours]
  have roams := afterRun_new_roams Gauge.modest_any
    (.overDirect device .addressed 0 0x8000000000000008) pours
  have roams_kept := afterRun_new_roams Gauge.modest_any (.ofBytes (σ := Device) ⟨#[1, 2, 3]⟩)
    pours_all
  have stands : long.place? 0 = some (⟨0x8000000000000001, false⟩, 0x8000000000000008) := by
    decide +kernel
  have stands_kept : kept.place? 0 = some (⟨3, true⟩, 3) := by decide +kernel
  obtain ⟨cursor, length, there, -, far⟩ := roams.2 0 rfl
  obtain ⟨current, total, here, -, near⟩ := roams_kept.2 0 rfl
  cases stands.symm.trans there
  cases stands_kept.symm.trans here
  obtain ⟨start, -, stays⟩ := near.exactly (by decide)
  exact ⟨⟨stands, far.here, far.start _⟩, stands_kept, stays, start _⟩

/-- A body with a declared length past the signed numbers cannot be moved to its end; and from
beyond them a copy that asks where it stands is moved, and one that goes back by as far as can be
asked for is refused. -/
theorem open_roams_short :
    let device : Device := { content := ⟨#[1, 2, 3]⟩, addressable := true }
    let length := 0x8000000000000000
    (∃ body, (Body.open device { length := some length }).reply = .done body ∧
      body.place? 0 = some ({}, length) ∧
      (body.seekStream 0 (.finish 0)).1 = .done 0x7fffffffffffffff ∧
      (body.seekStream 0 (.start length)).1 = .done 0x7fffffffffffffff) ∧
    Seek.resolve 0 Seek.fromHere length length = .ok 0x7fffffffffffffff ∧
    Seek.resolve Seek.minSigned Seek.fromHere length length = .error (.negativeComputed (-1)) ∧
    Seek.exact Seek.minSigned Seek.fromHere length length = .ok 0 := by
  intro device length
  have full : Seek.saturate length = Seek.maxSigned := by decide +kernel
  have stops : Seek.resolve 0 Seek.fromHere length length = .ok 0x7fffffffffffffff := by
    have goal : Seek.goal 0 Seek.fromHere length length = .ok 0x7fffffffffffffff := by
      change Except.ok (Seek.saturate (Seek.saturate length + 0)) = _
      rw [full]
      exact congrArg Except.ok (by decide +kernel)
    rw [Seek.resolve, goal]
    exact congrArg Except.ok (by decide +kernel)
  have refuses :
      Seek.resolve Seek.minSigned Seek.fromHere length length =
        .error (.negativeComputed (-1)) := by
    have goal : Seek.goal Seek.minSigned Seek.fromHere length length = .ok (-1) := by
      change Except.ok (Seek.saturate (Seek.saturate length + Seek.minSigned)) = _
      rw [full]
      exact congrArg Except.ok (by decide +kernel)
    rw [Seek.resolve, goal]
    rfl
  have goes : Seek.exact Seek.minSigned Seek.fromHere length length = .ok 0 := by
    have target : Seek.target? Seek.minSigned Seek.fromHere length length = some 0 := by
      decide +kernel
    rw [Seek.exact, target]
    exact congrArg Except.ok (by decide +kernel)
  exact ⟨⟨.overDirect device .addressed 0 length, rfl, rfl, by decide, by decide⟩, stops, refuses,
    goes⟩

end Body

end Payload
