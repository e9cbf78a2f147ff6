import Payload.Fitful
import Payload.Proofs.Lagging

/-!
# Fitful sources lag behind those inside

A fitful source keeps to what it announces as the one inside does, for it announces the
interruptions put in as well.  It lags behind the source inside, and behind every other that no call
tells apart from that one; a fitful sink lags behind the sink inside.
-/

namespace Payload

variable {σ τ : Type}

/-! ## Sources that are told apart by no call -/

namespace Source

/-- Sources that no call tells apart. -/
structure Indistinct [Source σ] (alike : σ → σ → Prop) : Prop where
  symm : ∀ {source other}, alike source other → alike other source
  trans : ∀ {source other third}, alike source other → alike other third → alike source third
  seekable : ∀ {source other}, alike source other → seekable source = seekable other
  addressable : ∀ {source other}, alike source other → addressable source = addressable other
  read : ∀ {source other} want, alike source other →
    (Source.read want source).1 = (Source.read want other).1 ∧
      alike (Source.read want source).2 (Source.read want other).2
  readAt : ∀ {source other} want position, alike source other →
    (Source.readAt want position source).1 = (Source.readAt want position other).1 ∧
      alike (Source.readAt want position source).2 (Source.readAt want position other).2
  seek : ∀ {source other} origin, alike source other →
    (Source.seek origin source).1 = (Source.seek origin other).1 ∧
      alike (Source.seek origin source).2 (Source.seek origin other).2
  close : ∀ {source other}, alike source other →
    (Source.close source).1 = (Source.close other).1

/-- Seeking to a position works, and to seek there again makes no difference. -/
def Reseeks [Source σ] (alike : σ → σ → Prop) : Prop :=
  ∀ source, alike source source → seekable source = true → ∀ position ≤ maxOffset,
    ∃ place moved, Source.seek (.start position) source = (.done place, moved) ∧
      seekable moved = true ∧ alike (Source.seek (.start position) moved).2 moved

/-- A callback that does not tell such sources apart either. -/
def Respects (alike : σ → σ → Prop) (callback : σ → Option Unit × σ) : Prop :=
  ∀ source other, alike source other →
    (callback source).1 = (callback other).1 ∧ alike (callback source).2 (callback other).2

variable [Source σ] {alike : σ → σ → Prop}

theorem Indistinct.left (indistinct : Indistinct alike) {source other : σ}
    (same : alike source other) : alike source source :=
  indistinct.trans same (indistinct.symm same)

theorem Indistinct.right (indistinct : Indistinct alike) {source other : σ}
    (same : alike source other) : alike other other :=
  indistinct.trans (indistinct.symm same) same

/-- Where working with such sources leaves such ones, no call tells apart what is the same. -/
theorem indistinct_eq {good : σ → Prop}
    (keeps : ∀ {source next}, good source → Works source next → good next) :
    Indistinct fun source other => source = other ∧ good source where
  symm := by
    rintro source _ ⟨rfl, fine⟩
    exact ⟨rfl, fine⟩
  trans := by
    rintro source _ _ ⟨rfl, fine⟩ ⟨rfl, -⟩
    exact ⟨rfl, fine⟩
  seekable := by
    rintro source _ ⟨rfl, -⟩
    rfl
  addressable := by
    rintro source _ ⟨rfl, -⟩
    rfl
  read := by
    rintro source _ want ⟨rfl, fine⟩
    exact ⟨rfl, rfl, keeps fine (.read want)⟩
  readAt := by
    rintro source _ want position ⟨rfl, fine⟩
    exact ⟨rfl, rfl, keeps fine (.readAt want position)⟩
  seek := by
    rintro source _ origin ⟨rfl, fine⟩
    exact ⟨rfl, rfl, keeps fine (.seek origin)⟩
  close := by
    rintro source _ ⟨rfl, -⟩
    rfl

theorem patient_eq {good : σ → Prop} (patient : Patient good) :
    Patient fun source => source = source ∧ good source := by
  simpa using patient

end Source

/-! ## Fitful sources -/

namespace Fitful

section

variable [Source σ] {good : σ → Prop} {alike : σ → σ → Prop}

/-- A call leaves what is inside as it was, or as the call leaves it there. -/
theorem inside_attempt {α β : Type} (fitful : Fitful α) (call : α → Answer β × α) :
    (fitful.attempt call).2.inside = fitful.inside ∨
      (fitful.attempt call).2.inside = (call fitful.inside).2 := by
  rcases fitful.attempt_cases call with ⟨interruption, broken, -⟩ | made
  · rw [broken]
    exact Or.inl rfl
  · rw [made]
    exact Or.inr rfl

/-- What working with the source inside keeps, working with a fitful one does. -/
theorem inside_of_works
    (keeps : ∀ {source next}, good source → Source.Works source next → good next)
    {fitful next : Fitful σ} (fine : good fitful.inside) (works : Source.Works fitful next) :
    good next.inside := by
  cases works with
  | read want =>
      rcases fitful.inside_attempt (Source.read want) with same | made
      · exact same.symm ▸ fine
      · exact made.symm ▸ keeps fine (.read want)
  | readAt want position =>
      rcases fitful.inside_attempt (Source.readAt want position) with same | made
      · exact same.symm ▸ fine
      · exact made.symm ▸ keeps fine (.readAt want position)
  | seek origin => exact keeps fine (.seek origin)

/-- An interrupted call has used up an interruption of those announced, be it one put in. -/
theorem fewer_of_attempt {α β : Type} (patience : α → Nat) {fitful : Fitful α}
    {call : α → Answer β × α} {fault : Fault}
    (fewer : (call fitful.inside).1 = .failed fault →
      patience (call fitful.inside).2 < patience fitful.inside)
    (failed : (fitful.attempt call).1 = .failed fault) :
    patience (fitful.attempt call).2.inside + (fitful.attempt call).2.breaks.length <
      patience fitful.inside + fitful.breaks.length := by
  rcases fitful.attempt_cases call with ⟨interruption, broken, less⟩ | made
  · rw [broken]
    exact Nat.add_lt_add_left less _
  · rw [made] at failed ⊢
    have no_more : fitful.breaks.tail.length ≤ fitful.breaks.length := by simp
    exact Nat.add_lt_add_of_lt_of_le (fewer failed) no_more

theorem patient (patient : Source.Patient good) :
    Source.Patient fun fitful : Fitful σ => good fitful.inside where
  works fine works := inside_of_works patient.works fine works
  read fine failed again :=
    fewer_of_attempt Source.patience (fun failed => patient.read fine failed again) failed
  readAt fine failed again :=
    fewer_of_attempt Source.patience (fun failed => patient.readAt fine failed again) failed
  seek origin fine := Nat.add_le_add_right (patient.seek origin fine) _

/-- A call that is interrupted leaves what is inside standing, and any other comes out as inside. -/
theorem lags_attempt {α β γ : Type} (stands : α → γ → Prop) {fitful : Fitful α} {other : γ}
    {call : α → Answer β × α} {facing : Answer β × γ} (standing : stands fitful.inside other)
    (made : (call fitful.inside).1 = facing.1 ∧ stands (call fitful.inside).2 facing.2) :
    Lags (fun fitful other => stands fitful.inside other) other (fitful.attempt call) facing := by
  rcases fitful.attempt_cases call with ⟨interruption, broken, -⟩ | called
  · rw [broken]
    exact .behind interruption.property standing
  · rw [called, made.1]
    exact .level made.2

/-- A fitful source lags behind one that no call tells apart from that inside. -/
theorem lagging (indistinct : Source.Indistinct alike)
    (patient : Source.Patient fun source => alike source source) :
    Source.Lagging (fun fitful : Fitful σ => alike fitful.inside fitful.inside)
      (fun source => alike source source) fun fitful other => alike fitful.inside other where
  left := indistinct.left
  right := indistinct.right
  patient := Fitful.patient patient
  patient' := patient
  seekable same := indistinct.seekable same
  addressable same := indistinct.addressable same
  read want same := lags_attempt alike same (indistinct.read want same)
  readAt want position same := lags_attempt alike same (indistinct.readAt want position same)
  seek origin same := indistinct.seek origin same
  close same := indistinct.close same

theorem returning (indistinct : Source.Indistinct alike) (reseeks : Source.Reseeks alike) :
    Source.Returning fun (fitful : Fitful σ) (other : σ) => alike fitful.inside other := by
  intro fitful other same offered position addressable
  obtain ⟨place, moved, sought, still, again⟩ :=
    reseeks other (indistinct.right same) offered position addressable
  refine ⟨place, moved, sought, still, fun fitful there => ?_⟩
  obtain ⟨twice, last, returned, -, -⟩ :=
    reseeks moved (indistinct.right there) still position addressable
  obtain ⟨answers, onwards⟩ := indistinct.seek (.start position) there
  refine ⟨⟨twice, ?_⟩, indistinct.trans onwards again⟩
  change (Source.seek (.start position) fitful.inside).1 = _
  rw [answers, returned]

end

/-! ## Fitful sinks -/

section

variable [Sink τ] {fair : τ → Prop}

theorem patient_sink (patient : Sink.Patient fair) :
    Sink.Patient fun fitful : Fitful τ => fair fitful.inside where
  still {bytes start fitful} fine := by
    rcases fitful.inside_attempt (Sink.write bytes start) with same | made
    · exact same.symm ▸ fine
    · exact made.symm ▸ patient.still fine
  interrupted {bytes start fitful fault next} fine offer again := by
    have fewer := fewer_of_attempt Sink.patience
      (fun failed => patient.interrupted fine (Prod.ext failed rfl) again)
      (congrArg Prod.fst offer)
    rwa [show fitful.attempt (Sink.write bytes start) = _ from offer] at fewer
  taken {bytes start fitful count next} fine offer := by
    change fitful.attempt (Sink.write bytes start) = _ at offer
    rcases fitful.attempt_cases (Sink.write bytes start) with ⟨interruption, broken, -⟩ | made
    · rw [broken] at offer
      cases offer
    · rw [made] at offer
      obtain ⟨came, rfl⟩ := Prod.mk.inj offer
      have no_more : fitful.breaks.tail.length ≤ fitful.breaks.length := by simp
      exact Nat.add_le_add (patient.taken fine (Prod.ext came rfl)) no_more

/-- A fitful sink lags behind the one inside. -/
theorem lagging_sink (patient : Sink.Patient fair) :
    Sink.Lagging (fun fitful : Fitful τ => fair fitful.inside) fair
      fun fitful sink => fitful.inside = sink ∧ fair sink where
  left := by
    rintro fitful _ ⟨rfl, fine⟩
    exact fine
  right standing := standing.2
  patient := patient_sink patient
  patient' := patient
  write := by
    rintro fitful _ bytes start ⟨rfl, fine⟩
    exact lags_attempt (fun sink other => sink = other ∧ fair other) ⟨rfl, fine⟩
      ⟨rfl, rfl, patient.still fine⟩

end

end Fitful

/-! ## Devices and gauges -/

namespace Device

/-- Devices that interrupt only where their script says so, and with no script for seeks. -/
structure Obliging (device : Device) : Prop where
  punctual : device.Punctual
  plain : device.seeks = []

theorem Obliging.works {device next : Device} (obliging : device.Obliging)
    (works : Source.Works device next) : next.Obliging := by
  refine ⟨obliging.punctual.works works, ?_⟩
  cases works with
  | read want => exact obliging.plain
  | readAt want position => exact obliging.plain
  | seek origin =>
      change (Device.seek origin device).2.seeks = []
      have spent : device.seeks.tail = [] := by rw [obliging.plain]; rfl
      unfold Device.seek
      dsimp only
      split
      · exact spent
      · exact spent
      · exact spent
      · split <;> exact spent

theorem patient_obliging : Source.Patient Obliging where
  works obliging works := obliging.works works
  read obliging := patient_punctual.read obliging.punctual
  readAt obliging := patient_punctual.readAt obliging.punctual
  seek origin obliging := patient_punctual.seek origin obliging.punctual

theorem seek_of_obliging {device : Device} (obliging : device.Obliging) {position : Nat}
    (addressable : position ≤ maxOffset) :
    Device.seek (.start position) device = (.done position, { device with position }) := by
  have aimed : (Origin.start position).aim? device.position device.content.size = some position :=
    Origin.aim?_eq_some_iff.mpr ⟨rfl, addressable⟩
  unfold Device.seek
  simp only [obliging.plain, List.head?_nil, List.tail_nil, aimed]

theorem reseeks_obliging :
    Source.Reseeks fun device other : Device => device = other ∧ device.Obliging := by
  rintro device ⟨-, obliging⟩ offered position addressable
  have sought := seek_of_obliging obliging addressable
  have still : ({ device with position } : Device).Obliging := ⟨obliging.punctual, obliging.plain⟩
  have same : (Source.seek (.start position) { device with position }).2 =
      { device with position } := congrArg Prod.snd (seek_of_obliging still addressable)
  exact ⟨position, _, sought, offered, same, same.symm ▸ still⟩

end Device

theorem Gauge.script_write (bytes : ByteArray) (start : Nat) (gauge : Gauge) :
    (Gauge.write bytes start gauge).2.script = gauge.script.tail := by
  unfold Gauge.write
  dsimp only
  split <;> rfl

/-- A gauge interrupts only where its script says so. -/
theorem Gauge.patient_any : Sink.Patient fun _ : Gauge => True where
  still _ := trivial
  interrupted {bytes start gauge fault next} _ offer _ := by
    change Gauge.write bytes start gauge = _ at offer
    have spent := gauge.script_write bytes start
    rw [offer] at spent
    change next.script.length < gauge.script.length
    rw [spent]
    cases script : gauge.script with
    | nil =>
        rw [Gauge.write, script] at offer
        cases offer
    | cons cue later =>
        rw [List.tail_cons, List.length_cons]
        exact Nat.lt_succ_self _
  taken {bytes start gauge count next} _ offer := by
    have spent := gauge.script_write bytes start
    rw [show Gauge.write bytes start gauge = _ from offer] at spent
    change next.script.length ≤ gauge.script.length
    rw [spent, List.length_tail]
    exact Nat.sub_le _ _

end Payload
