import Payload.Proofs.Charting
import Payload.Proofs.Memory
import Payload.Proofs.Yielding

/-!
# What is ahead of a copy

Where the source has a chart, the state of a copy settles what reading it on can come to: some
bytes, and the end or the failure behind them.  A read that is asked for bytes gives the first of
what is ahead, and leaves the others ahead; where none are it meets the end, and stays before it.
Here this is shown of bytes in memory and of direct bodies.
-/

namespace Payload

/-- Which bytes and which end are ahead. -/
abbrev Outlook := List UInt8 → Terminal → Prop

theorem Terminal.error_inj {terminal other : Terminal} {operation : Operation}
    (same : terminal.error operation = other.error operation) : terminal = other := by
  cases terminal <;> cases other <;> cases same <;> rfl

/-- How a read replies that has so much ahead before it, and so much after. -/
inductive Outlook.Follows (before after : Outlook) : Reply ByteArray → Prop where
  | gave {bytes : ByteArray} (some_bytes : bytes.size ≠ 0)
      (goes : ∀ whole terminal, before whole terminal ↔
        ∃ rest, whole = bytes.data.toList ++ rest ∧ after rest terminal) :
      Follows before after (.done bytes)
  | met {terminal : Terminal}
      (only : ∀ whole other, before whole other ↔ whole = [] ∧ other = terminal)
      (stays : ∀ whole other, after whole other ↔ whole = [] ∧ other = terminal) :
      Follows before after (.failed (terminal.error .read))

theorem Outlook.Follows.ne_broke {before after : Outlook} {reply : Reply ByteArray}
    (follows : Follows before after reply) : reply ≠ .broke := by
  cases follows <;> exact nofun

/-! ## Bytes in memory -/

namespace Memory

/-- The bytes from the place of a copy on, and the end.  A copy at its end has only that ahead. -/
def outlook (data : ByteArray) (cursor : Cursor) : Outlook := fun whole terminal =>
  whole = (if cursor.ended then [] else data.data.toList.drop cursor.offset) ∧ terminal = .ended

theorem outlook_of_ended {data : ByteArray} {cursor : Cursor} (ended : cursor.ended = true)
    (whole : List UInt8) (terminal : Terminal) :
    outlook data cursor whole terminal ↔ whole = [] ∧ terminal = .ended := by
  rw [outlook, if_pos ended]

theorem outlook_of_spent {data : ByteArray} {cursor : Cursor} (spent : data.size = cursor.offset)
    (whole : List UInt8) (terminal : Terminal) :
    outlook data cursor whole terminal ↔ whole = [] ∧ terminal = .ended := by
  have nothing : data.data.toList.drop cursor.offset = [] :=
    List.drop_eq_nil_of_le (by simp [spent])
  rw [outlook, nothing, ite_self]

theorem follows_read {want : Nat} (asks : 0 < want) {data : ByteArray} {cursor : Cursor}
    (inside : ¬Overrun data cursor) :
    Outlook.Follows (outlook data cursor) (outlook data (read want data cursor).cursor)
      (read want data cursor).reply := by
  have reads := reads want data cursor
  generalize read want data cursor = turn at reads ⊢
  cases reads with
  | ended ended => exact .met (outlook_of_ended ended) (outlook_of_ended ended)
  | nothing going nothing => exact absurd nothing (Nat.ne_of_gt asks)
  | overrun _ overrun => exact absurd overrun inside
  | spent going _ spent => exact .met (outlook_of_spent spent) (outlook_of_ended rfl)
  | gave going _ within =>
      have size_eq := size_stretch data cursor.offset want
      have given : (stretch data cursor.offset want).data.toList =
          (data.data.toList.drop cursor.offset).take want := by
        rw [toList_stretch, span, Nat.add_sub_cancel_left]
      have left : (if decide ((stretch data cursor.offset want).size < want) = true then []
          else data.data.toList.drop (cursor.offset + (stretch data cursor.offset want).size)) =
          (data.data.toList.drop cursor.offset).drop want := by
        have length_eq : data.data.toList.length = data.size := by simp
        rw [List.drop_drop]
        split
        · rename_i short
          refine (List.drop_eq_nil_of_le ?_).symm
          have short : (stretch data cursor.offset want).size < want := by simpa using short
          omega
        · rename_i filled
          have filled : ¬(stretch data cursor.offset want).size < want := by simpa using filled
          have same : (stretch data cursor.offset want).size = want := by omega
          rw [same]
      refine .gave (by omega) fun whole terminal => ?_
      rw [outlook, if_neg (by simp [going]), given]
      constructor
      · rintro ⟨rfl, ends⟩
        exact ⟨_, (List.take_append_drop want _).symm, left.symm, ends⟩
      · rintro ⟨rest, rfl, rest_eq, ends⟩
        rw [rest_eq]
        dsimp only
        rw [left, List.take_append_drop]
        exact ⟨rfl, ends⟩

theorem ended_of_failed {want : Nat} {data : ByteArray} {cursor : Cursor} {error : Error}
    (failed : (read want data cursor).reply = .failed error) :
    (read want data cursor).cursor.ended = true := by
  have reads := reads want data cursor
  generalize read want data cursor = turn at reads failed ⊢
  cases reads with
  | ended ended => exact ended
  | spent => rfl
  | nothing => cases failed
  | overrun => cases failed
  | gave => cases failed

end Memory

/-! ## Direct bodies -/

/-- The error of a read at this position. -/
inductive Chart.Replies (chart : Chart) (operation : Operation) (position : Nat) :
    Reply ByteArray → Prop where
  | gave {bytes : ByteArray} (some_bytes : bytes.size ≠ 0)
      (shows : chart.Shows position bytes.data.toList) :
      Replies chart operation position (.done bytes)
  | dry {bytes : ByteArray} (nothing : bytes.size = 0) (ends : chart position = .error .ended) :
      Replies chart operation position (.done bytes)
  | failed {fault : Fault} (fails : chart position = .error (.failed fault)) :
      Replies chart operation position (.failed ⟨operation, .fault fault⟩)

namespace Direct

variable {σ : Type} [Source σ] {chart : Chart} {stands : Nat → σ → Prop}

/-- A record that can serve its copies from a source with this chart. -/
structure Views (chart : Chart) (stands : Nat → σ → Prop) (direct : Direct σ) : Prop where
  mapped : Source.Mapped direct.access chart stands
  stands : ∃ place, stands place direct.custody.source
  sound : direct.custody.poisoned = false
  held : direct.custody.held = true

theorem Views.returning {direct : Direct σ} (views : direct.Views chart stands) {place : Nat}
    {source : σ} (still : stands place source) :
    (direct.returning false source).Views chart stands where
  mapped := views.mapped
  stands := ⟨place, still⟩
  sound := by simp [Direct.returning, Custody.returning, views.sound]
  held := views.held

/-- What a question at this position may come to. -/
inductive Hears (chart : Chart) (stands : Nat → σ → Prop) (operation : Operation)
    (want position : Nat) (direct : Direct σ) : Reply (Reading want) × Direct σ → Prop where
  | told {reading : Reading want} {next : σ}
      (tells : Source.Tells chart (fun _ next => ∃ last, stands last next) position want
        (Source.patience direct.custody.source) (reading, next)) :
      Hears chart stands operation want position direct
        (.done reading, direct.returning false next)
  | stuck {fault : Fault} {last : Nat} {next : σ}
      (fails : chart position = .error (.failed fault)) (still : stands last next) :
      Hears chart stands operation want position direct
        (.failed ⟨operation, .fault fault⟩, direct.returning false next)

theorem Views.hears_ask {direct : Direct σ} (views : direct.Views chart stands)
    (operation : Operation) {want : Nat} (asks : 0 < want) (position : Nat) :
    Hears chart stands operation want position direct (direct.ask operation want position) := by
  obtain ⟨place, there⟩ := views.stands
  have asked := Direct.asks operation want position direct
  generalize direct.ask operation want position = out at asked ⊢
  cases asked with
  | poisoned poisoned =>
      rw [views.sound] at poisoned
      cases poisoned
  | released released =>
      rw [views.held] at released
      cases released
  | unsupported withheld =>
      rw [views.mapped.offers there] at withheld
      cases withheld
  | addressed sound held access =>
      exact .told (views.mapped.addressed access want position there asks)
  | stuck sound held access sought =>
      have reaches := views.mapped.moves access position there
      rw [sought] at reaches
      cases reaches with
      | failed fails still => exact .stuck fails still
  | lost sound held access sought =>
      have reaches := views.mapped.moves access position there
      rw [sought] at reaches
      cases reaches
  | @moved stands' source sound held access sought =>
      have reaches := views.mapped.moves access position there
      rw [sought] at reaches
      cases reaches with
      | moved arrived kept =>
          have tells := views.mapped.charted access want arrived asks
          rw [tells.brokeOff_eq]
          exact .told (tells.mono (fun place next still => ⟨place, still⟩) kept)

/-- With enough tries a question is answered by what the chart has there. -/
theorem Views.replies_askSteady (operation : Operation) (buffer : Buffer) {want : Nat}
    (asks : 0 < want) (position tries : Nat) {direct : Direct σ} (views : direct.Views chart stands)
    (enough : Source.patience direct.custody.source < tries) :
    Chart.Replies chart operation position
        (direct.askSteady operation buffer want position tries).1 ∧
      (direct.askSteady operation buffer want position tries).2.Views chart stands := by
  induction tries generalizing direct with
  | zero => cases enough
  | succ tries ih =>
      have hears := views.hears_ask operation asks position
      unfold askSteady
      generalize direct.ask operation want position = out at hears ⊢
      cases hears with
      | stuck fails still => exact ⟨.failed fails, views.returning still⟩
      | told tells =>
          cases tells with
          | interrupted again fewer still =>
              obtain ⟨last, still⟩ := still
              dsimp only
              rw [if_pos again]
              exact ih (views.returning still) (Nat.lt_of_lt_of_le fewer (Nat.le_of_lt_succ enough))
          | final attests =>
              cases attests with
              | bytes some_bytes shows goes =>
                  obtain ⟨last, still⟩ := goes
                  exact ⟨.gave some_bytes shows, views.returning still⟩
              | @ended transfer _ next nothing ends still =>
                  obtain ⟨last, still⟩ := still
                  obtain ⟨content, received, empty⟩ :=
                    Transfer.received?_of_count_eq_zero buffer.size_front nothing
                  simp only [received]
                  exact ⟨.dry empty ends, views.returning still⟩
              | failed fails final still =>
                  obtain ⟨last, still⟩ := still
                  dsimp only
                  rw [if_neg (by simp [final])]
                  exact ⟨.failed fails, views.returning still⟩

/-- What is found at each offset of a direct body. -/
def chartOf (chart : Chart) (direct : Direct σ) : Chart := fun offset =>
  if direct.length ≤ offset then
    .error .ended
  else if maxOffset < direct.base + offset then
    .error (.failed (.saying .invalidInput "offset past the addressable end of the source"))
  else
    chart (direct.base + offset)

omit [Source σ] in
theorem chartOf_congr {direct next : Direct σ} (base : next.base = direct.base)
    (length : next.length = direct.length) (chart : Chart) :
    next.chartOf chart = direct.chartOf chart := by
  funext offset
  rw [chartOf, chartOf, base, length]

theorem Views.replies_fetch {direct : Direct σ} (views : direct.Views chart stands)
    (operation : Operation) (buffer : Buffer) (want offset : Nat) (asks : 0 < want)
    (within : want ≤ direct.length - offset) :
    Chart.Replies (direct.chartOf chart) operation offset
        (direct.fetch operation buffer want offset).1 ∧
      (direct.fetch operation buffer want offset).2.Views chart stands := by
  have inside : ¬direct.length ≤ offset := by omega
  have fits {bytes : ByteArray} {next : Direct σ}
      (fetched : direct.fetch operation buffer want offset = (.done bytes, next)) :
      bytes.size ≤ want := size_le_of_fetch fetched
  unfold fetch at fits ⊢
  dsimp only at fits ⊢
  split
  · rename_i far
    exact ⟨.failed (by rw [chartOf, if_neg inside, if_pos far]), views⟩
  · rename_i near
    rw [if_neg near] at fits
    have found : direct.chartOf chart offset = chart (direct.base + offset) := by
      rw [chartOf, if_neg inside, if_neg near]
    obtain ⟨replies, still⟩ := views.replies_askSteady operation buffer asks (direct.base + offset)
      (Source.patience direct.custody.source + 1) (Nat.lt_succ_self _)
    generalize direct.askSteady operation buffer want (direct.base + offset)
      (Source.patience direct.custody.source + 1) = out at replies still fits ⊢
    obtain ⟨reply, next⟩ := out
    refine ⟨?_, still⟩
    dsimp only at replies ⊢
    cases replies with
    | @gave bytes some_bytes shows =>
        refine .gave some_bytes (shows.mono fun index byte less there => ?_)
        have small := fits rfl
        have less : index < bytes.size := by simpa using less
        rw [Nat.add_assoc] at there
        rw [chartOf, if_neg (by omega), if_neg fun far => views.mapped.far _ byte far there, there]
    | dry nothing ends => exact .dry nothing (found.trans ends)
    | failed fails => exact .failed (found.trans fails)

/-- What is ahead of a copy of a direct body. -/
def outlook (chart : Chart) (direct : Direct σ) (cursor : Cursor) : Outlook :=
  fun whole terminal =>
    if cursor.ended then whole = [] ∧ terminal = .ended
    else (direct.chartOf chart).Ends cursor.offset whole terminal

omit [Source σ] in
theorem outlook_of_ended {direct : Direct σ} {cursor : Cursor} (ended : cursor.ended = true)
    (whole : List UInt8) (terminal : Terminal) :
    outlook chart direct cursor whole terminal ↔ whole = [] ∧ terminal = .ended := by
  rw [outlook, if_pos ended]

omit [Source σ] in
theorem outlook_of_error {direct : Direct σ} {cursor : Cursor} (going : cursor.ended = false)
    {terminal : Terminal} (stops : direct.chartOf chart cursor.offset = .error terminal)
    (whole : List UInt8) (other : Terminal) :
    outlook chart direct cursor whole other ↔ whole = [] ∧ other = terminal := by
  rw [outlook, if_neg (by simp [going])]
  exact Chart.ends_of_error stops other

omit [Source σ] in
theorem outlook_congr {direct next : Direct σ} (base : next.base = direct.base)
    (length : next.length = direct.length) (cursor : Cursor) :
    outlook chart next cursor = outlook chart direct cursor := by
  unfold outlook
  rw [chartOf_congr base length]

theorem Views.follows_read {direct : Direct σ} (views : direct.Views chart stands) {buffer : Buffer}
    (asks : 0 < buffer.size) (cursor : Cursor) :
    Outlook.Follows (outlook chart direct cursor)
        (outlook chart (direct.read buffer cursor).record (direct.read buffer cursor).cursor)
        (direct.read buffer cursor).reply ∧
      (direct.read buffer cursor).record.Views chart stands ∧
      ((direct.read buffer cursor).reply = .failed ⟨.read, .endOfStream⟩ →
        (direct.read buffer cursor).cursor.ended = true) := by
  have reads := reads buffer direct cursor
  have base := reads.served.base
  have length := reads.served.length
  rw [outlook_congr base length]
  generalize direct.read buffer cursor = turn at reads ⊢
  have replies (within : cursor.offset < direct.length) :=
    views.replies_fetch .read buffer (min buffer.size (direct.length - cursor.offset)) cursor.offset
      (by omega) (Nat.min_le_right _ _)
  cases reads with
  | ended ended =>
      exact ⟨.met (outlook_of_ended ended) (outlook_of_ended ended), views, fun _ => ended⟩
  | nothing going nothing => exact absurd nothing (Nat.ne_of_gt asks)
  | past going _ past =>
      exact ⟨.met (outlook_of_error going (if_pos past)) (outlook_of_ended rfl), views,
        fun _ => rfl⟩
  | dry going _ within fetched nothing =>
      obtain ⟨replies, still⟩ := replies within
      rw [fetched] at replies still
      cases replies with
      | gave some_bytes => exact absurd nothing some_bytes
      | dry _ ends =>
          exact ⟨.met (outlook_of_error going ends) (outlook_of_ended rfl), still, fun _ => rfl⟩
  | @gave bytes next going _ within fetched some_bytes =>
      obtain ⟨replies, still⟩ := replies within
      have fits := size_le_of_fetch fetched
      rw [fetched] at replies still
      refine ⟨.gave some_bytes fun whole terminal => ?_, still, nofun⟩
      cases replies with
      | dry nothing => exact absurd nothing some_bytes
      | gave _ shows =>
          rw [outlook, if_neg (by simp [going]), Chart.ends_of_shows shows]
          refine exists_congr fun rest => and_congr_right fun _ => ?_
          rw [Array.length_toList, ByteArray.size_data]
          unfold outlook
          split
          · rename_i past_end
            -- The copy was told that it asked past the end, and it has come there.
            refine (Chart.ends_of_error (if_pos ?_) terminal)
            simp only [Bool.and_eq_true, decide_eq_true_eq, beq_iff_eq] at past_end
            omega
          · rfl
  | failed going _ within fetched =>
      obtain ⟨replies, still⟩ := replies within
      rw [fetched] at replies still
      cases replies with
      | failed fails =>
          exact ⟨.met (outlook_of_error going fails) (outlook_of_error going fails), still, nofun⟩
  | broke going _ within fetched =>
      obtain ⟨replies, -⟩ := replies within
      rw [fetched] at replies
      cases replies

end Direct

end Payload
