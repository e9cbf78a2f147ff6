import Payload.Note
import Payload.Sink
import Payload.Source

/-!
# Streams of bytes

A sequential source has a stream: reads give it piece by piece, in pieces of any size, and where it
is over they report the end or one failure.  Between the pieces a source may ask for patience.  A
source that is read at positions has its bytes there, and gives some of them or fails.  A willing
sink takes all that it is offered, in pieces of any size as well, and keeps it.
-/

namespace Payload

/-! ## Stretches of a stream -/

/-- The bytes of a stream from one offset up to another. -/
def span (stream : List UInt8) (first last : Nat) : List UInt8 :=
  (stream.drop first).take (last - first)

@[simp]
theorem span_self (stream : List UInt8) (offset : Nat) : span stream offset offset = [] := by
  simp [span]

theorem span_append {first middle last : Nat} (stream : List UInt8) (start : first ≤ middle)
    (stop : middle ≤ last) :
    span stream first middle ++ span stream middle last = span stream first last := by
  have whole : last - first = (middle - first) + (last - middle) := by omega
  have inner : stream.drop middle = (stream.drop first).drop (middle - first) := by
    rw [List.drop_drop, Nat.add_sub_cancel' start]
  rw [span, span, span, whole, List.take_add, inner]

theorem length_span {stream : List UInt8} {first last : Nat} (within : last ≤ stream.length) :
    (span stream first last).length = last - first := by
  rw [span, List.length_take, List.length_drop]
  omega

theorem size_of_span {bytes : ByteArray} {stream : List UInt8} {first last : Nat}
    (content : bytes.data.toList = span stream first last) (within : last ≤ stream.length) :
    bytes.size = last - first := by
  have length_eq := congrArg List.length content
  rw [length_span within] at length_eq
  simpa using length_eq

theorem drop_span {start middle stop : Nat} (stream : List UInt8) (later : start ≤ middle) :
    (span stream start stop).drop (middle - start) = span stream middle stop := by
  have width : stop - start - (middle - start) = stop - middle := by omega
  rw [span, span, List.drop_take, List.drop_drop, Nat.add_sub_cancel' later, width]

/-- A stretch of a stretch is a stretch of the stream. -/
theorem take_drop_span {start stop first last : Nat} (stream : List UInt8) (above : start ≤ first)
    (within : last ≤ stop) :
    ((span stream start stop).drop (first - start)).take (last - first) =
      span stream first last := by
  have narrower : min (last - first) (stop - first) = last - first := by omega
  rw [drop_span stream above, span, span, List.take_take, narrower]

/-- What comes first after an offset is the stretch from there on. -/
theorem eq_span_of_prefix {stream bytes : List UInt8} {offset : Nat}
    (ahead : bytes <+: stream.drop offset) :
    bytes = span stream offset (offset + bytes.length) := by
  rw [span, Nat.add_sub_cancel_left]
  exact List.prefix_iff_eq_take.mp ahead

/-- What comes first after an offset comes first in a stretch from there, if that is no shorter. -/
theorem prefix_span {stream bytes : List UInt8} {first last : Nat}
    (ahead : bytes <+: stream.drop first) (within : first + bytes.length ≤ last) :
    bytes <+: span stream first last :=
  List.prefix_take_iff.mpr ⟨ahead, by omega⟩

/-- What is left of a stretch is the stretch from further on. -/
theorem drop_span_add (stream : List UInt8) (first last count : Nat) :
    (span stream first last).drop count = span stream (first + count) last := by
  have further : (span stream first last).drop (first + count - first) =
      span stream (first + count) last :=
    drop_span stream (Nat.le_add_right first count)
  rwa [Nat.add_sub_cancel_left] at further

theorem span_drop (stream : List UInt8) (offset first last : Nat) :
    span (stream.drop offset) first last = span stream (offset + first) (offset + last) := by
  rw [span, span, List.drop_drop, Nat.add_sub_add_left]

theorem span_eq_nil {first last : Nat} (stream : List UInt8) (past : last ≤ first) :
    span stream first last = [] := by
  rw [span, Nat.sub_eq_zero_of_le past, List.take_zero]

theorem toList_stretch (bytes : ByteArray) (start count : Nat) :
    (stretch bytes start count).data.toList = span bytes.data.toList start (start + count) := by
  simp only [stretch, span, ByteArray.data_extract, Array.toList_extract, List.extract_eq_take_drop]

/-! ## Sequential sources -/

variable {σ τ : Type}

/-- How a source that has these bytes left may answer a read of `want` bytes. -/
inductive Source.Answers [Source σ] (yields : List UInt8 → σ → Prop) (sequel : Terminal)
    (rest : List UInt8) (want : Nat) (source : σ) : Prop where
  | interrupted {fault : Fault} (came : (Source.read want source).1 = .failed fault)
      (again : fault.interrupts = true)
      (fewer : Source.patience (Source.read want source).2 < Source.patience source)
      (still : yields rest (Source.read want source).2)
  | piece {content : ByteArray} {fits : content.size ≤ want}
      (came : (Source.read want source).1 = .done (.bytes content fits))
      (some_bytes : content.size ≠ 0) (ahead : content.data.toList <+: rest)
      (onwards : yields (rest.drop content.size) (Source.read want source).2)
  | ended {transfer : Transfer want} (spent : rest = []) (ends : sequel = .ended)
      (came : (Source.read want source).1 = .done transfer) (nothing : transfer.count = 0)
  | failed {fault : Fault} (spent : rest = []) (fails : sequel = .failed fault)
      (came : (Source.read want source).1 = .failed fault) (final : fault.interrupts = false)

/-- What a source answers says how it goes on. -/
theorem Source.Answers.mono [Source σ] {yields onwards : List UInt8 → σ → Prop} {sequel : Terminal}
    {rest : List UInt8} {want : Nat} {source : σ}
    (answers : Answers yields sequel rest want source)
    (wider : ∀ rest, yields rest (Source.read want source).2 →
      onwards rest (Source.read want source).2) : Answers onwards sequel rest want source := by
  cases answers with
  | interrupted came again fewer still => exact .interrupted came again fewer (wider _ still)
  | piece came some_bytes ahead goes => exact .piece came some_bytes ahead (wider _ goes)
  | ended spent ends came nothing => exact .ended spent ends came nothing
  | failed spent fails came final => exact .failed spent fails came final

/-- Sources that yield streams which are all followed by this end or failure. -/
structure Source.Sequential [Source σ] (yields : List UInt8 → σ → Prop) (sequel : Terminal) :
    Prop where
  answers : ∀ {rest source want}, yields rest source → 0 < want →
    Answers yields sequel rest want source

/-- What reading on after interruptions comes to at a source that has these bytes left. -/
inductive Source.Comes (yields : List UInt8 → σ → Prop) (sequel : Terminal) (rest : List UInt8)
    (want : Nat) : Reading want × σ → Prop where
  | piece {content : ByteArray} {fits : content.size ≤ want} {next : σ}
      (some_bytes : content.size ≠ 0) (ahead : content.data.toList <+: rest)
      (onwards : yields (rest.drop content.size) next) :
      Comes yields sequel rest want (.done (.bytes content fits), next)
  | ended {transfer : Transfer want} {next : σ} (spent : rest = []) (ends : sequel = .ended)
      (nothing : transfer.count = 0) : Comes yields sequel rest want (.done transfer, next)
  | failed {fault : Fault} {next : σ} (spent : rest = []) (fails : sequel = .failed fault) :
      Comes yields sequel rest want (.failed fault, next)

/-- With enough tries interruptions do not show. -/
theorem Source.Sequential.comes_readSteady [Source σ] {yields : List UInt8 → σ → Prop}
    {sequel : Terminal} (sequential : Sequential yields sequel) {rest : List UInt8} {want : Nat}
    (asks : 0 < want) (tries : Nat) {source : σ} (left : yields rest source)
    (enough : patience source < tries) :
    Comes yields sequel rest want (readSteady want tries source) := by
  induction tries generalizing source with
  | zero => cases enough
  | succ tries ih =>
      have answers := sequential.answers left asks
      unfold readSteady
      rcases reading : Source.read want source with ⟨came, next⟩
      cases answers with
      | interrupted fails again fewer still =>
          rw [reading] at fails fewer still
          subst fails
          dsimp only
          rw [if_pos again]
          exact ih still (Nat.lt_of_lt_of_le fewer (Nat.le_of_lt_succ enough))
      | piece gives some_bytes ahead onwards =>
          rw [reading] at gives onwards
          subst gives
          exact .piece some_bytes ahead onwards
      | ended spent ends gives nothing =>
          rw [reading] at gives
          subst gives
          exact .ended spent ends nothing
      | failed spent fails gives final =>
          rw [reading] at gives
          subst gives
          dsimp only
          rw [if_neg (by simp [final])]
          exact .failed spent fails

/-- Sources that yield streams which just end, and that never give less than was asked for while
they have so much. -/
structure Source.Generous [Source σ] (yields : List UInt8 → σ → Prop) : Prop where
  sequential : Sequential yields .ended
  whole : ∀ {rest source want} {content : ByteArray} {fits : content.size ≤ want},
    yields rest source → (Source.read want source).1 = .done (.bytes content fits) →
      content.size = min want rest.length

/-- Asked again after interruptions, such a source still gives all that it can. -/
theorem Source.Generous.size_readSteady [Source σ] {yields : List UInt8 → σ → Prop}
    (generous : Generous yields) {rest : List UInt8} {want : Nat} (asks : 0 < want) (tries : Nat)
    {source next : σ} (left : yields rest source) {content : ByteArray} {fits : content.size ≤ want}
    (came : readSteady want tries source = (.done (.bytes content fits), next)) :
    content.size = min want rest.length := by
  induction tries generalizing source with
  | zero => cases came
  | succ tries ih =>
      have answers := generous.sequential.answers left asks
      unfold readSteady at came
      rcases reading : Source.read want source with ⟨answer, after⟩
      rw [reading] at came
      cases answer with
      | done transfer =>
          cases came
          exact generous.whole left (congrArg Prod.fst reading)
      | broke => cases came
      | failed fault =>
          dsimp only at came
          split at came
          · rename_i again
            cases answers with
            | interrupted _ _ _ still =>
                rw [reading] at still
                exact ih still came
            | piece gives =>
                rw [reading] at gives
                cases gives
            | ended _ _ gives =>
                rw [reading] at gives
                cases gives
            | failed _ _ gives final =>
                rw [reading] at gives
                cases gives
                rw [final] at again
                cases again
          · cases came

/-! ## Sources that are read at positions -/

/-- The reading failed or broke off, or it is of these bytes from the position on. -/
def Source.Finds (data : List UInt8) (position : Nat) {want : Nat} (reading : Reading want) :
    Prop :=
  ∀ transfer, reading = .done transfer →
    ∃ content fits, transfer = .bytes content fits ∧ content.data.toList <+: data.drop position

/-- Sources that, read at a position or moved there and then read, give nothing but the bytes of the
data from there on. -/
structure Source.Positioned [Source σ] (access : Access) (data : List UInt8)
    (good : σ → Prop) : Prop where
  addressed : access = .addressed → ∀ {source} want position, good source →
    Finds data position (Source.readAt want position source).1 ∧
      good (Source.readAt want position source).2
  moved : access = .seeking → ∀ {source} position, good source →
    good (Source.seek (.start position) source).2
  read : access = .seeking → ∀ {source next position stands} want, good source →
    Source.seek (.start position) source = (.done stands, next) →
      Finds data position (Source.read want next).1 ∧ good (Source.read want next).2

/-! ## Willing sinks -/

/-- How a willing sink may answer the offer of the bytes from `start` on. -/
inductive Sink.Takes [Sink τ] (willing : τ → Prop) (content : τ → List UInt8) (bytes : ByteArray)
    (start : Nat) (sink : τ) : Prop where
  | interrupted {fault : Fault} (came : (Sink.write bytes start sink).1 = .failed fault)
      (again : fault.interrupts = true)
      (fewer : Sink.patience (Sink.write bytes start sink).2 < Sink.patience sink)
      (still : willing (Sink.write bytes start sink).2)
      (kept : content (Sink.write bytes start sink).2 = content sink)
  | taken {count : Nat} (came : (Sink.write bytes start sink).1 = .done count)
      (some_bytes : 0 < count) (offered : count ≤ bytes.size - start)
      (patient : Sink.patience (Sink.write bytes start sink).2 ≤ Sink.patience sink)
      (still : willing (Sink.write bytes start sink).2)
      (kept : content (Sink.write bytes start sink).2 =
        content sink ++ span bytes.data.toList start (start + count))

/-- Sinks that never fail and keep what they take. -/
structure Sink.Willing [Sink τ] (willing : τ → Prop) (content : τ → List UInt8) : Prop where
  takes : ∀ {bytes start sink}, willing sink → start < bytes.size →
    Takes willing content bytes start sink

theorem Sink.Willing.takeFrom [Sink τ] {willing : τ → Prop} {content : τ → List UInt8}
    (sinks : Willing willing content) (bytes : ByteArray) (tries : Nat) {start : Nat} {sink : τ}
    (ready : willing sink) (within : start ≤ bytes.size)
    (enough : bytes.size - start + patience sink < tries) :
    ∃ next, Sink.takeFrom bytes tries start sink = (.done (), next) ∧ willing next ∧
      content next = content sink ++ span bytes.data.toList start bytes.size := by
  induction tries generalizing start sink with
  | zero => cases enough
  | succ tries ih =>
      unfold Sink.takeFrom
      by_cases spent : bytes.size ≤ start
      · have there : start = bytes.size := Nat.le_antisymm within spent
        rw [if_pos spent, there, span_self]
        exact ⟨sink, rfl, ready, (List.append_nil _).symm⟩
      · have takes : Takes willing content bytes start sink :=
          sinks.takes ready (Nat.lt_of_not_le spent)
        rw [if_neg spent]
        rcases offer : Sink.write bytes start sink with ⟨came, next⟩
        cases takes with
        | interrupted fails again fewer still kept =>
            rw [offer] at fails fewer still kept
            subst fails
            dsimp only
            rw [if_pos again]
            obtain ⟨last, takes, willing, content_eq⟩ := ih still within (by omega)
            exact ⟨last, takes, willing, by rw [content_eq, kept]⟩
        | @taken count takes some_bytes offered patient still kept =>
            rw [offer] at takes patient still kept
            subst takes
            obtain ⟨fewer, rfl⟩ : ∃ fewer, count = fewer + 1 := Nat.exists_eq_add_one.mpr some_bytes
            have further : start + (fewer + 1) ≤ bytes.size := by omega
            obtain ⟨last, takes, willing, content_eq⟩ := ih still further (by omega)
            have onwards : ¬bytes.size - start < fewer + 1 := Nat.not_lt.mpr offered
            simp only [onwards, if_false]
            refine ⟨last, takes, willing, ?_⟩
            rw [content_eq, kept, List.append_assoc, span_append _ (Nat.le_add_right _ _) further]

theorem Sink.Willing.takeAll [Sink τ] {willing : τ → Prop} {content : τ → List UInt8}
    (sinks : Willing willing content) (bytes : ByteArray) {sink : τ} (ready : willing sink) :
    ∃ next, Sink.takeAll bytes sink = (.done (), next) ∧ willing next ∧
      content next = content sink ++ bytes.data.toList := by
  obtain ⟨next, takes, still, content_eq⟩ := sinks.takeFrom bytes
    (bytes.size + patience sink + 1) ready (Nat.zero_le _) (by omega)
  have whole : span bytes.data.toList 0 bytes.size = bytes.data.toList := by
    rw [span]
    exact List.take_of_length_le (by simp)
  exact ⟨next, takes, still, by rw [content_eq, whole]⟩

end Payload
