import Mathlib.Algebra.GroupWithZero.Nat
import Mathlib.Logic.Relation
import Payload.Source.Recorded

/-!
# Working with a source

Between making a body and closing its source, a body reads the source, reads it at a position and
moves it, and does nothing else with it.  `Source.Works` is one such call; what a source can be
brought to by several is its closure.  On a recorded source each of them leaves one entry, and none
of these entries is a close.

The record also says what the source was asked for and how many bytes came of it.  Reading on after
interruptions asks for the same again and again, and all its calls but the last were interrupted.
-/

namespace Payload

open Relation

variable {σ : Type}

/-- One call to a source, other than to close it. -/
inductive Source.Works [Source σ] (source : σ) : σ → Prop where
  | read (want : Nat) : Works source (Source.read want source).2
  | readAt (want position : Nat) : Works source (Source.readAt want position source).2
  | seek (origin : Origin) : Works source (Source.seek origin source).2

namespace Source

theorem works_of_seek [Source σ] {origin : Origin} {answer : Answer Nat} {source next : σ}
    (sought : Source.seek origin source = (answer, next)) : Works source next := by
  have works : Works source (Source.seek origin source).2 := .seek origin
  rwa [sought] at works

/-- Reading on after interruptions is reading. -/
theorem works_readSteady [Source σ] (want tries : Nat) (source : σ) :
    ReflTransGen Works source (readSteady want tries source).2 := by
  induction tries generalizing source with
  | zero => exact .refl
  | succ tries ih =>
      have once : Works source (Source.read want source).2 := .read want
      unfold readSteady
      split
      · rename_i fault next reading
        rw [reading] at once
        split
        · exact .head once (ih next)
        · exact .single once
      · rename_i reading next _ came
        rw [came] at once
        exact .single once

end Source

namespace Recorded

/-- A source that was never closed. -/
def Unclosed (recorded : Recorded σ) : Prop :=
  ∀ entry ∈ recorded.entries, entry.call ≠ .close

/-- A source that was closed once, by the last call to it. -/
def ClosedLast (recorded : Recorded σ) : Prop :=
  ∃ mark earlier, recorded.entries = ⟨.close, mark⟩ :: earlier ∧
    ∀ entry ∈ earlier, entry.call ≠ .close

theorem Unclosed.works [Source σ] {recorded next : Recorded σ} (unclosed : recorded.Unclosed)
    (works : Source.Works recorded next) : next.Unclosed := by
  intro entry member
  cases works with
  | read want =>
      rcases List.mem_cons.mp member with rfl | old
      · nofun
      · exact unclosed entry old
  | readAt want position =>
      rcases List.mem_cons.mp member with rfl | old
      · nofun
      · exact unclosed entry old
  | seek origin =>
      rcases List.mem_cons.mp member with rfl | old
      · nofun
      · exact unclosed entry old

theorem Unclosed.close [Source σ] {recorded : Recorded σ} (unclosed : recorded.Unclosed) :
    ClosedLast (Source.close recorded).2 :=
  ⟨_, recorded.entries, rfl, unclosed⟩

end Recorded

/-! ## What was asked for and what was given -/

/-- How many bytes the source says it gave, where it was read in sequence. -/
def Entry.given : Entry → Nat
  | ⟨.read _, .number count⟩ => count
  | _ => 0

/-- How many bytes the source says it gave to all reads in sequence. -/
def Recorded.given (recorded : Recorded σ) : Nat :=
  (recorded.entries.map Entry.given).sum

theorem Recorded.given_of_entries {recorded next : Recorded σ} {made : List Entry}
    (entries : next.entries = made ++ recorded.entries) :
    next.given = (made.map Entry.given).sum + recorded.given := by
  simp [given, entries]

theorem Recorded.entries_of_seek [Source σ] {recorded next : Recorded σ} {origin : Origin}
    {answer : Answer Nat} (sought : Source.seek origin recorded = (answer, next)) :
    next.entries = ⟨.seek origin, .ofAnswer Mark.number answer⟩ :: recorded.entries := by
  rw [← show (Source.seek origin recorded).1 = answer from congrArg Prod.fst sought,
    ← show (Source.seek origin recorded).2 = next from congrArg Prod.snd sought]
  rfl

/-- Whether this is a read or a move that broke off, or a read that claims more bytes than there was
room for. -/
def Entry.Troubled : Entry → Prop
  | ⟨.size, _⟩ => False
  | ⟨.close, _⟩ => False
  | ⟨_, .broke⟩ => True
  | ⟨.read want, .number count⟩ => want < count
  | ⟨.readAt _ want, .number count⟩ => want < count
  | _ => False

/-- A read goes wrong where it breaks off or claims more than there was room for. -/
theorem Entry.troubled_iff_of_read {want : Nat} (call : Call)
    (reads : call = .read want ∨ ∃ position, call = .readAt position want)
    (reading : Reading want) :
    Entry.Troubled ⟨call, .ofAnswer Mark.ofTransfer reading⟩ ↔
      reading = .broke ∨ ∃ transfer, reading = .done transfer ∧ want < transfer.count := by
  rcases reads with rfl | ⟨position, rfl⟩
  · cases reading <;> simp [Troubled, Mark.ofAnswer, Mark.ofTransfer]
  · cases reading <;> simp [Troubled, Mark.ofAnswer, Mark.ofTransfer]

/-- Whether this is a read, in sequence or at a position, that gave so many bytes. -/
def Entry.Gave (count : Nat) (entry : Entry) : Prop :=
  entry.mark = .number count ∧
    ∃ want, entry.call = .read want ∨ ∃ position, entry.call = .readAt position want

/-- Reads of so many bytes, the latest first, and all before it interrupted. -/
structure Requests (want : Nat) (made : List Entry) : Prop where
  asks : ∀ entry ∈ made, entry.call = .read want
  interrupted : ∀ entry ∈ made.tail, entry.mark = .failed .interrupted

theorem Requests.nil (want : Nat) : Requests want [] where
  asks := by simp
  interrupted := by simp

/-- An interrupted read that came before. -/
theorem Requests.after_interruption {want : Nat} {made : List Entry}
    (requests : Requests want made) :
    Requests want (made ++ [⟨.read want, .failed .interrupted⟩]) where
  asks := by
    intro entry member
    rcases List.mem_append.mp member with later | first
    · exact requests.asks entry later
    · rw [List.mem_singleton.mp first]
  interrupted := by
    cases made with
    | nil => simp
    | cons latest others =>
        intro entry member
        rcases List.mem_append.mp member with later | first
        · exact requests.interrupted entry later
        · rw [List.mem_singleton.mp first]

/-- To be interrupted is no trouble, so only the latest read can be. -/
theorem Requests.head?_of_troubled {want : Nat} {made : List Entry} (requests : Requests want made)
    {entry : Entry} (member : entry ∈ made) (troubled : entry.Troubled) :
    made.head? = some entry := by
  cases made with
  | nil => cases member
  | cons latest others =>
      rcases List.mem_cons.mp member with rfl | earlier
      · rfl
      · obtain ⟨call, mark⟩ := entry
        obtain rfl : mark = .failed .interrupted := requests.interrupted _ earlier
        cases call <;> exact troubled.elim

/-- The calls that reading on after interruptions makes: what it came to is what came of the
latest. -/
theorem requests_readSteady [Source σ] (want tries : Nat) (recorded : Recorded σ) :
    ∃ made, (Source.readSteady want tries recorded).2.entries = made ++ recorded.entries ∧
      Requests want made ∧
      ((Source.readSteady want tries recorded).1 ≠ .broke →
        (made.map Entry.given).sum =
            Entry.given ⟨.read want,
              .ofAnswer Mark.ofTransfer (Source.readSteady want tries recorded).1⟩ ∧
          made.head? = some ⟨.read want,
            .ofAnswer Mark.ofTransfer (Source.readSteady want tries recorded).1⟩) := by
  induction tries generalizing recorded with
  | zero => exact ⟨[], rfl, .nil want, absurd rfl⟩
  | succ tries ih =>
      have noted : (Source.read want recorded).2.entries =
          ⟨.read want, .ofAnswer Mark.ofTransfer (Source.read want recorded).1⟩ ::
            recorded.entries := rfl
      unfold Source.readSteady
      rcases reading : Source.read want recorded with ⟨came, next⟩
      rw [reading] at noted
      have once : ∃ made, next.entries = made ++ recorded.entries ∧ Requests want made ∧
          (came ≠ .broke →
            (made.map Entry.given).sum =
                Entry.given ⟨.read want, .ofAnswer Mark.ofTransfer came⟩ ∧
              made.head? = some ⟨.read want, .ofAnswer Mark.ofTransfer came⟩) := by
        refine ⟨[⟨.read want, .ofAnswer Mark.ofTransfer came⟩], noted, ?_, fun _ => ?_⟩
        · constructor <;> simp
        · simp
      cases came with
      | done transfer => exact once
      | broke => exact once
      | failed fault =>
          dsimp only
          split
          · rename_i again
            obtain ⟨made, entries, requests, came⟩ := ih next
            have kind : fault.kind = .interrupted := by simpa [Fault.interrupts] using again
            have first : next.entries =
                ⟨.read want, .failed .interrupted⟩ :: recorded.entries := by
              rw [noted, ← kind]
              rfl
            refine ⟨made ++ [⟨.read want, .failed .interrupted⟩], ?_,
              requests.after_interruption, fun back => ?_⟩
            · rw [entries, first, List.append_assoc, List.singleton_append]
            · obtain ⟨given, latest⟩ := came back
              constructor
              · simpa [Entry.given] using given
              · rw [List.head?_append, latest]
                rfl
          · exact once

end Payload
