import Payload.Proofs.Direct.Reading
import Payload.Proofs.Stream
import Payload.Source.Tape

/-!
# Sources whose answers depend on the position alone

A chart says what a source has at each position: a byte, or the end or the failure that a read there
comes to.  A read gives some of the bytes from its position on, as many as it likes, or comes to
what is there instead of a byte; it may be interrupted before.  What a chart has from a position on,
up to the first position without a byte, is all that reading from there can come to.
-/

namespace Payload

/-- What is found at each position. -/
abbrev Chart := Nat → Except Terminal UInt8

namespace Chart

/-- These bytes are there from this position on. -/
def Shows (chart : Chart) : Nat → List UInt8 → Prop
  | _, [] => True
  | position, byte :: rest => chart position = .ok byte ∧ chart.Shows (position + 1) rest

/-- From this position on there are these bytes, and after them this end. -/
def Ends (chart : Chart) : Nat → List UInt8 → Terminal → Prop
  | position, [], terminal => chart position = .error terminal
  | position, byte :: rest, terminal =>
    chart position = .ok byte ∧ chart.Ends (position + 1) rest terminal

variable {chart other : Chart} {position : Nat} {bytes whole : List UInt8} {terminal : Terminal}

/-- Where no byte is, there is nothing but the end. -/
theorem ends_of_error (stops : chart position = .error terminal) (met : Terminal) :
    chart.Ends position whole met ↔ whole = [] ∧ met = terminal := by
  cases whole with
  | nil =>
      rw [Ends, stops]
      exact ⟨fun same => ⟨rfl, (Except.error.inj same).symm⟩, fun ⟨_, same⟩ => by rw [same]⟩
  | cons byte rest =>
      rw [Ends, stops]
      exact iff_of_false nofun nofun

/-- What begins with bytes that are there goes on behind them. -/
theorem ends_of_shows (shows : chart.Shows position bytes) :
    chart.Ends position whole terminal ↔
      ∃ rest, whole = bytes ++ rest ∧ chart.Ends (position + bytes.length) rest terminal := by
  induction bytes generalizing position whole with
  | nil => simp
  | cons byte bytes ih =>
      obtain ⟨first, later⟩ := shows
      have further : position + (byte :: bytes).length = position + 1 + bytes.length := by
        rw [List.length_cons]
        omega
      rw [further]
      cases whole with
      | nil =>
          rw [Ends, first]
          exact iff_of_false nofun nofun
      | cons head tail =>
          rw [Ends, first, ih later]
          constructor
          · rintro ⟨same, rest, rfl, ends⟩
            cases same
            exact ⟨rest, rfl, ends⟩
          · rintro ⟨rest, same, ends⟩
            cases same
            exact ⟨rfl, rest, rfl, ends⟩

theorem Ends.shows (ends : chart.Ends position whole terminal) : chart.Shows position whole := by
  induction whole generalizing position with
  | nil => trivial
  | cons byte rest ih => exact ⟨ends.1, ih ends.2⟩

/-- Bytes that another chart has as well are there too. -/
theorem Shows.mono {there : Nat} (shows : chart.Shows position bytes)
    (alike : ∀ index byte, index < bytes.length → chart (position + index) = .ok byte →
      other (there + index) = .ok byte) : other.Shows there bytes := by
  induction bytes generalizing position there with
  | nil => trivial
  | cons byte bytes ih =>
      obtain ⟨first, later⟩ := shows
      refine ⟨alike 0 byte (Nat.succ_pos _) first, ih later fun index byte within found => ?_⟩
      have next := alike (index + 1) byte (Nat.succ_lt_succ within)
      rw [Nat.add_assoc, Nat.add_comm 1] at found ⊢
      exact next found

/-! ### The chart of a stream -/

/-- A stream, and what comes after it. -/
def ofStream (stream : List UInt8) (sequel : Terminal) : Chart := fun position =>
  match stream[position]? with
  | some byte => .ok byte
  | none => .error sequel

variable {stream : List UInt8} {sequel : Terminal}

theorem ofStream_of_le (past : stream.length ≤ position) :
    ofStream stream sequel position = .error sequel := by
  rw [ofStream, List.getElem?_eq_none past]

theorem shows_ofStream (ahead : bytes <+: stream.drop position) :
    (ofStream stream sequel).Shows position bytes := by
  induction bytes generalizing position with
  | nil => trivial
  | cons byte bytes ih =>
      obtain ⟨rest, whole⟩ := ahead
      have first : stream[position]? = some byte := by
        rw [← List.head?_drop, ← whole]
        rfl
      have later : bytes <+: stream.drop (position + 1) := by
        rw [← List.tail_drop, ← whole]
        exact List.prefix_append bytes rest
      exact ⟨by rw [ofStream, first], ih later⟩

end Chart

namespace Source

variable {σ : Type} [Source σ]

/-- What a read at this position may come to, where it is not interrupted. -/
inductive Attests (chart : Chart) (onwards : Nat → σ → Prop) (position want : Nat) :
    Reading want × σ → Prop where
  | bytes {content : ByteArray} {fits : content.size ≤ want} {next : σ}
      (some_bytes : content.size ≠ 0) (shows : chart.Shows position content.data.toList)
      (goes : onwards (position + content.size) next) :
      Attests chart onwards position want (.done (.bytes content fits), next)
  | ended {transfer : Transfer want} {last : Nat} {next : σ} (nothing : transfer.count = 0)
      (ends : chart position = .error .ended) (still : onwards last next) :
      Attests chart onwards position want (.done transfer, next)
  | failed {fault : Fault} {last : Nat} {next : σ}
      (fails : chart position = .error (.failed fault)) (final : fault.interrupts = false)
      (still : onwards last next) :
      Attests chart onwards position want (.failed fault, next)

/-- What a read at this position may come to. -/
inductive Tells (chart : Chart) (onwards : Nat → σ → Prop) (position want patience : Nat) :
    Reading want × σ → Prop where
  | interrupted {fault : Fault} {next : σ} (again : fault.interrupts = true)
      (fewer : Source.patience next < patience) (still : onwards position next) :
      Tells chart onwards position want patience (.failed fault, next)
  | final {out : Reading want × σ} (attests : Attests chart onwards position want out) :
      Tells chart onwards position want patience out

/-- What is told of a reading says how it goes on. -/
theorem Tells.mono {chart : Chart} {onwards further : Nat → σ → Prop}
    {position want patience more : Nat} {out : Reading want × σ}
    (tells : Tells chart onwards position want patience out)
    (wider : ∀ place next, onwards place next → further place next) (most : patience ≤ more) :
    Tells chart further position want more out := by
  cases tells with
  | interrupted again fewer still =>
      exact .interrupted again (Nat.lt_of_lt_of_le fewer most) (wider _ _ still)
  | final attests =>
      cases attests with
      | bytes some_bytes shows goes => exact .final (.bytes some_bytes shows (wider _ _ goes))
      | ended nothing ends still => exact .final (.ended nothing ends (wider _ _ still))
      | failed fails final still => exact .final (.failed fails final (wider _ _ still))

theorem Tells.brokeOff_eq {chart : Chart} {onwards : Nat → σ → Prop}
    {position want patience : Nat} {out : Reading want × σ}
    (tells : Tells chart onwards position want patience out) : out.1.brokeOff = false := by
  cases tells with
  | interrupted => rfl
  | final attests => cases attests <;> rfl

/-- Sources that are read in sequence, and have at each position what the chart says. -/
def Charted (chart : Chart) (stands : Nat → σ → Prop) : Prop :=
  ∀ {position source} want, stands position source → 0 < want →
    Tells chart stands position want (patience source) (Source.read want source)

/-- A sequential source that stays where its stream is over is charted by that stream. -/
theorem Sequential.charted {yields : List UInt8 → σ → Prop} {sequel : Terminal}
    (sequential : Sequential yields sequel)
    (stays : ∀ {source want}, yields [] source → 0 < want → yields [] (Source.read want source).2)
    (stream : List UInt8) :
    Charted (Chart.ofStream stream sequel)
      fun position source => yields (stream.drop position) source := by
  intro position source want there asks
  have at_end {reading : Reading want} (spent : stream.drop position = [])
      (came : (Source.read want source).1 = reading) :
      Source.read want source = (reading, (Source.read want source).2) ∧
        Chart.ofStream stream sequel position = .error sequel ∧
        yields (stream.drop position) (Source.read want source).2 := by
    rw [spent] at there ⊢
    exact ⟨Prod.ext came rfl, Chart.ofStream_of_le (List.drop_eq_nil_iff.mp spent),
      stays there asks⟩
  cases sequential.answers there asks with
  | interrupted came again fewer still =>
      rw [show Source.read want source = (_, _) from Prod.ext came rfl]
      exact .interrupted again fewer still
  | @piece content fits came some_bytes ahead goes =>
      rw [show Source.read want source = (_, _) from Prod.ext came rfl]
      rw [List.drop_drop] at goes
      exact .final (.bytes some_bytes (Chart.shows_ofStream ahead) goes)
  | ended spent ends came nothing =>
      obtain ⟨same, past, still⟩ := at_end spent came
      rw [same]
      exact .final (.ended nothing (ends ▸ past) still)
  | failed spent fails came final =>
      obtain ⟨same, past, still⟩ := at_end spent came
      rw [same]
      exact .final (.failed (fails ▸ past) final still)

/-- With enough tries interruptions do not show. -/
theorem Charted.attests_readSteady {chart : Chart} {stands : Nat → σ → Prop}
    (charted : Charted chart stands) {want : Nat} (asks : 0 < want) (tries : Nat) {position : Nat}
    {source : σ} (there : stands position source) (enough : patience source < tries) :
    Attests chart stands position want (readSteady want tries source) := by
  induction tries generalizing source with
  | zero => cases enough
  | succ tries ih =>
      have tells := charted want there asks
      unfold readSteady
      generalize Source.read want source = out at tells ⊢
      cases tells with
      | interrupted again fewer still =>
          dsimp only
          rw [if_pos again]
          exact ih still (by omega)
      | final attests =>
          cases attests with
          | bytes some_bytes shows goes => exact .bytes some_bytes shows goes
          | ended nothing ends still => exact .ended nothing ends still
          | failed fails final still =>
              dsimp only
              rw [if_neg (by simp [final])]
              exact .failed fails final still

/-- What moving the source to this position may come to. -/
inductive Reaches (chart : Chart) (stands : Nat → σ → Prop) (position patience : Nat) :
    Answer Nat × σ → Prop where
  | moved {place : Nat} {next : σ} (there : stands position next)
      (kept : Source.patience next ≤ patience) :
      Reaches chart stands position patience (.done place, next)
  | failed {fault : Fault} {last : Nat} {next : σ}
      (fails : chart position = .error (.failed fault)) (still : stands last next) :
      Reaches chart stands position patience (.failed fault, next)

/-- Sources that are read at positions, or moved and then read, and have there what the chart
says, which has no byte past the last position that can be addressed. -/
structure Mapped (access : Access) (chart : Chart) (stands : Nat → σ → Prop) : Prop where
  offers : ∀ {position source}, stands position source → access.offered source = true
  far : ∀ position byte, maxOffset < position → chart position ≠ .ok byte
  addressed : access = .addressed → ∀ {place source} want position, stands place source → 0 < want →
    Tells chart (fun _ next => ∃ last, stands last next) position want (patience source)
      (Source.readAt want position source)
  moves : access = .seeking → ∀ {place source} position, stands place source →
    Reaches chart stands position (patience source) (Source.seek (.start position) source)
  charted : access = .seeking → Charted chart stands

end Source

/-- A tape is read where it stands, as if by its content. -/
theorem Tape.mapped {data : ByteArray} (addressable : data.size ≤ maxOffset + 1) :
    Source.Mapped .addressed (Chart.ofStream data.data.toList .ended)
      fun _ (tape : Tape) => tape.content = data where
  offers _ := rfl
  far position byte beyond := by
    rw [Chart.ofStream_of_le (by simp; omega)]
    exact nofun
  moves := nofun
  charted := nofun
  addressed _ place tape want position there asks := by
    subst there
    have given : (stretch tape.content position want).data.toList =
        (tape.content.data.toList.drop position).take want := by
      rw [toList_stretch, span, Nat.add_sub_cancel_left]
    have size_eq := size_stretch tape.content position want
    refine .final ?_
    by_cases nothing : (stretch tape.content position want).size = 0
    · refine @Source.Attests.ended _ _ _ _ _ _ place _ nothing (Chart.ofStream_of_le ?_)
        ⟨place, rfl⟩
      simp
      omega
    · refine .bytes nothing (Chart.shows_ofStream ?_) ⟨place, rfl⟩
      rw [Tape.found, given]
      exact List.take_prefix _ _

end Payload
