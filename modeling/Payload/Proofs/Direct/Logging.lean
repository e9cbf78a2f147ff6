import Payload.Proofs.Direct.Reading

/-!
# What the reads of a direct body leave on record

Every call that a direct body makes to its source is one that it needs for a read, and the first one
that goes wrong is the last of that read.  So a read that comes back has met no trouble; and what
the copies share is poisoned only by a call that breaks off while it has the source to itself.
-/

namespace Payload

namespace Direct

variable {σ : Type} [Source σ] {direct next last : Direct (Recorded σ)}
  {made later : List Entry}

/-- The calls that were made on the way from one record to another, the latest first, and what they
poisoned. -/
structure Logs (direct next : Direct (Recorded σ)) (made : List Entry) : Prop where
  entries : next.custody.source.entries = made ++ direct.custody.source.entries
  poisoned : next.custody.poisoned = true ↔ direct.custody.poisoned = true ∨
    direct.access = .seeking ∧ ∃ entry ∈ made, entry.mark = .broke
  access : next.access = direct.access

namespace Logs

omit [Source σ] in
theorem nothing (direct : Direct (Recorded σ)) : Logs direct direct [] where
  entries := rfl
  poisoned := by simp
  access := rfl

omit [Source σ] in
theorem trans (first : Logs direct next made) (second : Logs next last later) :
    Logs direct last (later ++ made) where
  entries := by rw [second.entries, first.entries, List.append_assoc]
  poisoned := by
    rw [second.poisoned, first.poisoned, first.access, or_assoc, ← and_or_left]
    simp [or_and_right, exists_or, or_comm]
  access := second.access.trans first.access

end Logs

/-! ## One question -/

/-- Whether the answer to a question is one that a read breaks off on. -/
def Breaks {want : Nat} (reply : Reply (Reading want)) : Prop :=
  reply = .broke ∨ reply = .done .broke ∨
    ∃ transfer, reply = .done (.done transfer) ∧ want < transfer.count

theorem breaks_iff_troubled {want : Nat} (call : Call)
    (reads : call = .read want ∨ ∃ position, call = .readAt position want)
    (reading : Reading want) :
    Breaks (.done reading : Reply (Reading want)) ↔
      Entry.Troubled ⟨call, .ofAnswer Mark.ofTransfer reading⟩ := by
  rw [Entry.troubled_iff_of_read call reads reading]
  simp [Breaks]

theorem brokeOff_iff_mark {want : Nat} (call : Call) (reading : Reading want) :
    reading.brokeOff = true ↔
      (⟨call, .ofAnswer Mark.ofTransfer reading⟩ : Entry).mark = .broke := by
  cases reading <;> simp [Outcome.brokeOff, Mark.ofAnswer, Mark.ofTransfer]

/-- One question leaves at most a move and a read on record, and trouble only with an answer that a
read breaks off on. -/
theorem logs_ask (operation : Operation) (want position : Nat) (direct : Direct (Recorded σ)) :
    ∃ made, Logs direct (direct.ask operation want position).2 made ∧
      ((∃ entry ∈ made, entry.Troubled) → Breaks (direct.ask operation want position).1) ∧
      ∀ transfer, (direct.ask operation want position).1 = .done (.done transfer) →
        ∃ entry, made.head? = some entry ∧ entry.Gave transfer.count := by
  have asks := asks operation want position direct
  generalize direct.ask operation want position = out at asks ⊢
  cases asks with
  | poisoned => exact ⟨[], .nothing direct, by simp, nofun⟩
  | released => exact ⟨[], .nothing direct, by simp, nofun⟩
  | unsupported => exact ⟨[], .nothing direct, by simp, nofun⟩
  | addressed sound held access =>
      refine ⟨[⟨.readAt position want, .ofAnswer Mark.ofTransfer
        (Source.readAt want position direct.custody.source).1⟩], ⟨rfl, ?_, rfl⟩, ?_, ?_⟩
      · simp [returning, Custody.returning, sound, access]
      · rintro ⟨entry, member, troubled⟩
        rw [List.mem_singleton.mp member] at troubled
        exact (breaks_iff_troubled _ (Or.inr ⟨position, rfl⟩) _).mpr troubled
      · intro transfer came
        have read := Outcome.done.inj came
        refine ⟨_, rfl, ?_, want, Or.inr ⟨position, rfl⟩⟩
        rw [read]
        rfl
  | @stuck fault source sound held access sought =>
      refine ⟨[⟨.seek (.start position), .failed fault.kind⟩],
        ⟨Recorded.entries_of_seek sought, ?_, rfl⟩, ?_, nofun⟩
      · simp [returning, Custody.returning, sound]
      · simp [Entry.Troubled]
  | lost sound held access sought =>
      refine ⟨[⟨.seek (.start position), .broke⟩], ⟨Recorded.entries_of_seek sought, ?_, rfl⟩,
        fun _ => Or.inl rfl, by simp⟩
      simp [returning, Custody.returning, access]
  | @moved stands source sound held access sought =>
      have moved := Recorded.entries_of_seek sought
      refine ⟨[⟨.read want, .ofAnswer Mark.ofTransfer (Source.read want source).1⟩,
        ⟨.seek (.start position), .number stands⟩], ⟨?_, ?_, rfl⟩, ?_, ?_⟩
      · exact congrArg (List.cons _) moved
      · have alike := brokeOff_iff_mark (.read want) (Source.read want source).1
        simpa [returning, Custody.returning, sound, access] using alike
      · rintro ⟨entry, member, troubled⟩
        rcases List.mem_cons.mp member with rfl | member
        · exact (breaks_iff_troubled _ (Or.inl rfl) _).mpr troubled
        · rw [List.mem_singleton.mp member] at troubled
          exact troubled.elim
      · intro transfer came
        have read := Outcome.done.inj came
        refine ⟨_, rfl, ?_, want, Or.inl rfl⟩
        rw [read]
        rfl

/-! ## Reads -/

/-- After calls without trouble, trouble is with the calls that came then. -/
theorem exists_troubled_append {more : List Entry} (calm : ¬∃ entry ∈ made, entry.Troubled)
    (troubled : ∃ entry ∈ more ++ made, entry.Troubled) : ∃ entry ∈ more, entry.Troubled := by
  obtain ⟨entry, member, trouble⟩ := troubled
  rcases List.mem_append.mp member with late | early
  · exact ⟨entry, late, trouble⟩
  · exact absurd ⟨entry, early, trouble⟩ calm

/-- Whatever is fetched, trouble only comes of a fetch that breaks off; and what it gives is what
the source gave last. -/
theorem logs_fetch (operation : Operation) (buffer : Buffer) (want offset : Nat)
    (direct : Direct (Recorded σ)) :
    ∃ made, Logs direct (direct.fetch operation buffer want offset).2 made ∧
      ((∃ entry ∈ made, entry.Troubled) →
        (direct.fetch operation buffer want offset).1 = .broke) ∧
      ∀ bytes, (direct.fetch operation buffer want offset).1 = .done bytes →
        ∃ entry, made.head? = some entry ∧ entry.Gave bytes.size := by
  rcases fetch_rule operation buffer want offset
      (I := fun current => ∃ made, Logs direct current made ∧ ¬∃ entry ∈ made, entry.Troubled)
      (fun current fault next ⟨made, logs, calm⟩ asked _ => by
        obtain ⟨more, logged, troubled, -⟩ :=
          logs_ask operation want (direct.base + offset) current
        rw [asked] at logged troubled
        refine ⟨more ++ made, logs.trans logged, fun trouble => ?_⟩
        simpa [Breaks] using troubled (exists_troubled_append calm trouble))
      ⟨[], .nothing direct, by simp⟩ with ⟨fault, far⟩ | ⟨left, last, ⟨made, logs, calm⟩, settles⟩
  · rw [far]
    exact ⟨[], .nothing direct, by simp, nofun⟩
  · obtain ⟨more, logged, troubled, gave⟩ :=
      logs_ask operation want (direct.base + offset) last
    have onwards := logs.trans logged
    have trouble (there : ∃ entry ∈ more ++ made, entry.Troubled) :=
      troubled (exists_troubled_append calm there)
    generalize direct.fetch operation buffer want offset = out at settles ⊢
    cases settles with
    | exhausted => exact ⟨made, logs, fun _ => rfl, nofun⟩
    | @gave transfer bytes next asked received =>
        rw [asked] at onwards trouble gave
        obtain ⟨entry, latest, given⟩ := gave transfer rfl
        rw [← Transfer.size_of_received?_eq_some buffer.size_front received] at given
        refine ⟨more ++ made, onwards, fun there => ?_, fun other came => ?_⟩
        · have breaks := trouble there
          have taken : ¬want < transfer.count := fun excess => by
            rw [Transfer.received?_eq_none_iff.mpr excess] at received
            cases received
          simp [Breaks, taken] at breaks
        · cases came
          exact ⟨entry, by rw [List.head?_append, latest]; rfl, given⟩
    | absurd asked =>
        rw [asked] at onwards
        exact ⟨more ++ made, onwards, fun _ => rfl, nofun⟩
    | failed asked =>
        rw [asked] at onwards trouble
        exact ⟨more ++ made, onwards, fun there => by simpa [Breaks] using trouble there, nofun⟩
    | broke asked =>
        rw [asked] at onwards
        exact ⟨more ++ made, onwards, fun _ => rfl, nofun⟩
    | refused asked =>
        rw [asked] at onwards trouble
        exact ⟨more ++ made, onwards, fun there => by simpa [Breaks] using trouble there, nofun⟩
    | lost asked =>
        rw [asked] at onwards
        exact ⟨more ++ made, onwards, fun _ => rfl, nofun⟩

/-- A read that comes back has met no trouble. -/
theorem Reads.logs {buffer : Buffer} {cursor : Cursor}
    {turn : Turn (Direct (Recorded σ)) Cursor ByteArray} (reads : Reads buffer direct cursor turn) :
    ∃ made, Logs direct turn.record made ∧
      ((∃ entry ∈ made, entry.Troubled) → turn.reply = .broke) := by
  rcases reads.record_eq with same | ⟨fetched, breaks⟩
  · rw [same]
    exact ⟨[], .nothing direct, by simp⟩
  · obtain ⟨made, logs, troubled, -⟩ := logs_fetch .read buffer
      (min buffer.size (direct.length - cursor.offset)) cursor.offset direct
    rw [fetched]
    exact ⟨made, logs, fun there => breaks (troubled there)⟩

theorem ReadsAt.logs {buffer : Buffer} {offset : Nat} {cursor : Cursor}
    {turn : Turn (Direct (Recorded σ)) Cursor ByteArray}
    (reads : ReadsAt buffer offset direct cursor turn) :
    ∃ made, Logs direct turn.record made ∧
      ((∃ entry ∈ made, entry.Troubled) → turn.reply = .broke) := by
  rcases reads.record_eq with same | ⟨fetched, breaks⟩
  · rw [same]
    exact ⟨[], .nothing direct, by simp⟩
  · obtain ⟨made, logs, troubled, -⟩ := logs_fetch .readAt buffer
      (min buffer.size (direct.length - offset)) offset direct
    rw [fetched]
    exact ⟨made, logs, fun there => breaks (troubled there)⟩

end Direct

end Payload
