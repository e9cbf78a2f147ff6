import Payload.Proofs.Stream
import Payload.Source.Device

/-!
# Scripts that keep to the rules

A device whose script does no more than cut reads short or interrupt them is a sequential source:
it yields its content from its position on, up to where it starts to fail or has no more.  A gauge
with such a script is a willing sink.
-/

namespace Payload

/-! ## Devices -/

namespace Device

/-- The cue does no more to a read than to cut it short or to interrupt it. -/
def ReadCue.Mild : ReadCue → Prop
  | plain => True
  | atMost count => 0 < count
  | fault ordered => ordered.interrupts = true
  | breakOff => False
  | overstate _ => False

/-- The position from which on reads give nothing. -/
def edge (device : Device) : Nat :=
  match device.failAt with
  | none => device.content.size
  | some failAt => min failAt device.content.size

/-- What reads come to from there on. -/
def sequel (device : Device) : Terminal :=
  match device.failAt with
  | none => .ended
  | some failAt => if failAt ≤ device.content.size then .failed device.fault else .ended

/-- The device has these bytes left, and then comes to this end. -/
structure Plays (sequel : Terminal) (rest : List UInt8) (device : Device) : Prop where
  mild : ∀ cue ∈ device.reads, cue.Mild
  chunk : device.chunk ≠ some 0
  final : device.fault.interrupts = false
  inside : device.position ≤ device.edge
  rest : rest = span device.content.data.toList device.position device.edge
  sequel : device.sequel = sequel

theorem edge_le (device : Device) : device.edge ≤ device.content.size := by
  unfold edge
  split
  · exact Nat.le_refl _
  · exact Nat.min_le_right _ _

variable {sequel : Terminal} {rest : List UInt8} {device : Device}

theorem Plays.length_rest (plays : Plays sequel rest device) :
    rest.length = device.edge - device.position := by
  have within : device.edge ≤ device.content.data.toList.length := by
    rw [Array.length_toList, ByteArray.size_data]
    exact device.edge_le
  rw [plays.rest, length_span within]

/-- After a read the device has what the read did not give. -/
theorem Plays.move (plays : Plays sequel rest device) (count : Nat)
    (further : device.position + count ≤ device.edge) :
    Plays sequel (rest.drop count)
      { device with position := device.position + count, reads := device.reads.tail } where
  mild cue member := plays.mild cue (List.mem_of_mem_tail member)
  chunk := plays.chunk
  final := plays.final
  inside := further
  rest := by
    have onwards : device.position ≤ device.position + count := Nat.le_add_right _ _
    calc
      rest.drop count = (span device.content.data.toList device.position device.edge).drop
          (device.position + count - device.position) := by
        rw [plays.rest, Nat.add_sub_cancel_left]
      _ = span device.content.data.toList (device.position + count) device.edge :=
        drop_span _ onwards
  sequel := plays.sequel

theorem limited_pos {count : Nat} (positive : 0 < count) {limit : Option Nat}
    (lets : limit ≠ some 0) : 0 < limited count limit := by
  cases limit with
  | none => exact positive
  | some limit =>
      have some_limit : 0 < limit := Nat.pos_of_ne_zero fun none => lets (congrArg some none)
      exact Nat.lt_min.mpr ⟨positive, some_limit⟩

/-- What a read can come to that no cue interrupts: some of the bytes left, or none at the edge. -/
inductive Gives (device : Device) (rest : List UInt8) (want : Nat) : Reading want → Prop where
  | bytes {content : ByteArray} (fits : content.size ≤ want) (ahead : content.data.toList <+: rest)
      (ends : content.size = 0 → rest = [] ∧ device.sequel = .ended) :
      Gives device rest want (.done (.bytes content fits))
  | failed (spent : rest = []) (fails : device.sequel = .failed device.fault) :
      Gives device rest want (.failed device.fault)

theorem Plays.gives_stretch (plays : Plays sequel rest device) {want count : Nat}
    (some_bytes : 0 < count) (fits : count ≤ want)
    (room : min (device.position + count) device.content.size ≤ device.edge)
    (after : device.content.size ≤ device.position → device.sequel = .ended) :
    Gives device rest want
      (Source.yields want (stretch device.content device.position count)) := by
  have size_eq := size_stretch device.content device.position count
  have inside := Nat.le_trans plays.inside device.edge_le
  have edge_le := device.edge_le
  unfold Source.yields
  rw [dif_pos (Nat.le_trans (size_stretch_le _ _ _) fits)]
  refine .bytes _ ?_ fun none => ?_
  · rw [plays.rest, span, List.prefix_take_iff]
    constructor
    · rw [toList_stretch, span]
      exact List.take_prefix _ _
    · simp only [Array.length_toList, ByteArray.size_data, size_eq]
      omega
  · have beyond : device.content.size ≤ device.position := by omega
    constructor
    · rw [← List.length_eq_zero_iff, plays.length_rest]
      omega
    · exact after beyond

theorem Plays.gives_supplyAt (plays : Plays sequel rest device) {want : Nat} (asks : 0 < want)
    {limit : Option Nat} (lets : limit ≠ some 0) :
    Gives device rest want (device.supplyAt want device.position limit) := by
  have allowed : 0 < limited (limited want limit) device.chunk :=
    limited_pos (limited_pos asks lets) plays.chunk
  have inside := plays.inside
  unfold supplyAt
  cases fails : device.failAt with
  | none =>
      have edge_eq : device.edge = device.content.size := by
        rw [edge, fails]
      have ended : device.sequel = .ended := by
        rw [Device.sequel, fails]
      exact plays.gives_stretch (by omega) (Nat.min_le_left _ _)
        (edge_eq ▸ Nat.min_le_right _ _) fun _ => ended
  | some failAt =>
      have edge_eq : device.edge = min failAt device.content.size := by
        rw [edge, fails]
      dsimp only
      split
      · rename_i past
        have reached : failAt ≤ device.content.size := by omega
        apply Gives.failed
        · rw [← List.length_eq_zero_iff, plays.length_rest]
          omega
        · rw [Device.sequel, fails]
          exact if_pos reached
      · rename_i before
        refine plays.gives_stretch (by omega) (Nat.min_le_left _ _) (by omega) fun beyond => ?_
        rw [Device.sequel, fails]
        exact if_neg (by omega)

theorem read_snd {want : Nat} {reading : Reading want}
    (came : (Source.read want device).1 = reading) :
    (Source.read want device).2 =
      { device with
        position := device.position + travelled reading
        reads := device.reads.tail } := by
  subst came
  rfl

/-- What a device answers to a read that no cue interrupts. -/
theorem Plays.answers_of_gives (plays : Plays sequel rest device) {want : Nat}
    (gives : Gives device rest want (Source.read want device).1) :
    Source.Answers (Plays sequel) sequel rest want device := by
  generalize came : (Source.read want device).1 = reading at gives
  have next := read_snd came
  cases gives with
  | @bytes content fits ahead ends =>
      by_cases none : content.size = 0
      · obtain ⟨spent, ended⟩ := ends none
        exact .ended spent (plays.sequel.symm.trans ended) came none
      · have shorter := ahead.length_le
        have inside := plays.inside
        rw [plays.length_rest, Array.length_toList, ByteArray.size_data] at shorter
        have onwards : Plays sequel (rest.drop content.size) (Source.read want device).2 := by
          rw [next]
          exact plays.move _ (by omega)
        exact .piece came none ahead onwards
  | failed spent fails => exact .failed spent (plays.sequel.symm.trans fails) came plays.final

/-- A device whose script keeps to the rules is a sequential source. -/
theorem sequential_plays (sequel : Terminal) : Source.Sequential (Plays sequel) sequel where
  answers := by
    intro rest device want plays asks
    cases cued : device.reads with
    | nil =>
        have came : (Source.read want device).1 = device.supplyAt want device.position none := by
          change device.readCued want device.position device.reads.head? = _
          rw [cued]
          rfl
        exact plays.answers_of_gives (came ▸ plays.gives_supplyAt asks nofun)
    | cons cue later =>
        have mild := plays.mild cue (cued ▸ List.mem_cons_self)
        have came : (Source.read want device).1 =
            device.readCued want device.position (some cue) := by
          change device.readCued want device.position device.reads.head? = _
          rw [cued]
          rfl
        cases cue with
        | plain => exact plays.answers_of_gives (came ▸ plays.gives_supplyAt asks nofun)
        | atMost count =>
            have lets : some count ≠ some 0 := fun none =>
              Nat.ne_of_gt mild (Option.some.inj none)
            exact plays.answers_of_gives (came ▸ plays.gives_supplyAt asks lets)
        | fault ordered =>
            apply Source.Answers.interrupted came mild
            · rw [read_snd came]
              change device.reads.tail.length + device.seeks.length <
                device.reads.length + device.seeks.length
              rw [cued]
              simp
            · rw [read_snd came]
              exact plays.move 0 plays.inside
        | breakOff => exact mild.elim
        | overstate more => exact mild.elim

/-- A device that comes to its end stays there. -/
theorem Plays.stays (plays : Plays sequel [] device) {want : Nat} (asks : 0 < want) :
    Plays sequel [] (Source.read want device).2 := by
  have at_edge : device.edge - device.position = 0 := plays.length_rest.symm
  have nowhere : travelled (Source.read want device).1 = 0 := by
    cases (sequential_plays sequel).answers plays asks with
    | interrupted came =>
        rw [came]
        rfl
    | piece came some_bytes ahead =>
        rw [List.prefix_nil] at ahead
        exact absurd (by simpa using congrArg List.length ahead) some_bytes
    | @ended transfer spent ends came nothing =>
        rw [came]
        cases transfer with
        | bytes content fits => exact nothing
        | claim count => rfl
    | failed spent fails came =>
        rw [came]
        rfl
  rw [read_snd rfl, nowhere]
  exact plays.move 0 plays.inside

/-- The device has these bytes left, and only interruptions and its end keep it from giving as many
as are asked for. -/
structure Flows (rest : List UInt8) (device : Device) : Prop where
  plays : Plays .ended rest device
  chunk : device.chunk = none
  failAt : device.failAt = none
  uncut : ∀ count, ReadCue.atMost count ∉ device.reads

theorem Flows.size_stretch (flows : Flows rest device) (want : Nat) :
    (stretch device.content device.position want).size = min want rest.length := by
  have edge : device.edge = device.content.size := by
    rw [Device.edge, flows.failAt]
  rw [Payload.size_stretch, flows.plays.length_rest, edge]

/-- A flowing device gives all that was asked for, as far as it has so much. -/
theorem Flows.supplyAt_eq (flows : Flows rest device) (want : Nat) :
    device.supplyAt want device.position none =
      .done (.bytes (stretch device.content device.position want) (size_stretch_le _ _ _)) := by
  unfold supplyAt
  rw [flows.failAt, flows.chunk]
  simp only [limited, Nat.min_self, Source.yields]
  rw [dif_pos (size_stretch_le _ _ _)]

/-- A flowing device is a generous source. -/
theorem generous_flows : Source.Generous Flows where
  sequential :=
    { answers := by
        intro rest device want flows asks
        apply ((sequential_plays .ended).answers flows.plays asks).mono
        intro rest plays
        exact ⟨plays, flows.chunk, flows.failAt,
          fun count member => flows.uncut count (List.mem_of_mem_tail member)⟩ }
  whole := by
    intro rest device want content fits flows came
    change device.readCued want device.position device.reads.head? = _ at came
    have supplied (came : device.supplyAt want device.position none = .done (.bytes content fits)) :
        content.size = min want rest.length := by
      rw [flows.supplyAt_eq] at came
      cases came
      exact flows.size_stretch want
    cases cued : device.reads with
    | nil =>
        rw [cued] at came
        exact supplied came
    | cons cue later =>
        rw [cued] at came
        cases cue with
        | plain => exact supplied came
        | atMost count => exact absurd (cued ▸ List.mem_cons_self) (flows.uncut count)
        | fault ordered => cases came
        | breakOff => cases came
        | overstate more => cases came

/-- The device has these bytes, claims no others, and stands where it says it does.  It may fail,
give less than it was asked for and break off at any call. -/
structure Sincere (data : List UInt8) (device : Device) : Prop where
  content : device.content.data.toList = data
  reads : ∀ more, ReadCue.overstate more ∉ device.reads
  seeks : ∀ position, SeekCue.answer position ∉ device.seeks

theorem Sincere.tails {data : List UInt8} (sincere : Sincere data device) (position : Nat) :
    Sincere data { device with position, reads := device.reads.tail } where
  content := sincere.content
  reads more member := sincere.reads more (List.mem_of_mem_tail member)
  seeks := sincere.seeks

theorem Sincere.finds {data : List UInt8} (sincere : Sincere data device) (want position : Nat) :
    Source.Finds data position (device.readCued want position device.reads.head?) := by
  have yields (count : Nat) (fits : count ≤ want) :
      Source.Finds data position (Source.yields want (stretch device.content position count)) := by
    intro transfer came
    rw [Source.yields, dif_pos (Nat.le_trans (size_stretch_le _ _ _) fits)] at came
    cases came
    refine ⟨_, _, rfl, ?_⟩
    rw [toList_stretch, sincere.content]
    exact List.take_prefix _ _
  have supplied (limit : Option Nat) :
      Source.Finds data position (device.supplyAt want position limit) := by
    unfold supplyAt
    split
    · exact yields _ (Nat.min_le_left _ _)
    · split
      · nofun
      · exact yields _ (Nat.min_le_left _ _)
  cases cued : device.reads with
  | nil => exact supplied none
  | cons cue later =>
      cases cue with
      | plain => exact supplied none
      | atMost count => exact supplied (some count)
      | fault ordered => nofun
      | breakOff => nofun
      | overstate more => exact absurd (cued ▸ List.mem_cons_self) (sincere.reads more)

/-- Moved to a position, such a device fails or stands there. -/
theorem Sincere.seek {data : List UInt8} (sincere : Sincere data device) (position : Nat) :
    Sincere data (Source.seek (.start position) device).2 ∧
      ∀ stands, (Source.seek (.start position) device).1 = .done stands →
        (Source.seek (.start position) device).2.position = position := by
  have tails (stands : Nat) :
      Sincere data { device with position := stands, seeks := device.seeks.tail } :=
    ⟨sincere.content, sincere.reads, fun other member =>
      sincere.seeks other (List.mem_of_mem_tail member)⟩
  change Sincere data (device.seek (.start position)).2 ∧
    ∀ stands, (device.seek (.start position)).1 = .done stands →
      (device.seek (.start position)).2.position = position
  unfold Device.seek
  dsimp only
  split
  · exact ⟨tails _, nofun⟩
  · exact ⟨tails _, nofun⟩
  · rename_i other answers
    exact absurd (List.mem_of_mem_head? answers) (sincere.seeks other)
  · split
    · rename_i goal aimed
      have there : (position : Int) = goal := (Origin.aim?_eq_some_iff.mp aimed).1
      exact ⟨tails _, fun _ _ => (Int.ofNat.inj there).symm⟩
    · exact ⟨tails _, nofun⟩

theorem positioned_sincere (access : Access) (data : List UInt8) :
    Source.Positioned access data (Sincere data) where
  addressed _ device want position sincere :=
    ⟨sincere.finds want position, sincere.tails device.position⟩
  moved _ device position sincere := (sincere.seek position).1
  read _ device next position stands want sincere sought := by
    obtain ⟨still, there⟩ := sincere.seek position
    rw [sought] at still there
    have found := still.finds want position
    rw [← there stands rfl] at found ⊢
    exact ⟨found, still.tails _⟩

end Device

/-! ## Gauges -/

namespace Gauge

/-- The cue does no more to an offer than to cut it short or to interrupt it. -/
def Cue.Mild : Cue → Prop
  | plain => True
  | atMost count => 0 < count
  | fault ordered => ordered.interrupts = true

/-- The gauge takes something of every offer that it does not interrupt. -/
structure Ready (gauge : Gauge) : Prop where
  mild : ∀ cue ∈ gauge.script, cue.Mild
  chunk : gauge.chunk ≠ some 0

variable {gauge : Gauge} {bytes : ByteArray} {start : Nat}

theorem Ready.later (ready : gauge.Ready) (content : ByteArray) (offers : List Nat) :
    Ready { gauge with script := gauge.script.tail, content, offers } where
  mild cue member := ready.mild cue (List.mem_of_mem_tail member)
  chunk := ready.chunk

/-- What a gauge takes of an offer that no cue interrupts. -/
theorem Ready.takes_of_limit (ready : gauge.Ready) {limit : Nat}
    (cued : Cue.limit (bytes.size - start) gauge.script.head? = .ok limit) (positive : 0 < limit)
    (offered : limit ≤ bytes.size - start) :
    Sink.Takes Ready (fun gauge => gauge.content.data.toList) bytes start gauge := by
  have written : Sink.write bytes start gauge =
      (.done (min limit (gauge.chunk.getD limit)),
        { gauge with
          script := gauge.script.tail
          content := gauge.content ++ stretch bytes start (min limit (gauge.chunk.getD limit))
          offers := (bytes.size - start) :: gauge.offers }) := by
    change write bytes start gauge = _
    unfold write
    dsimp only
    rw [cued]
  have some_bytes : 0 < min limit (gauge.chunk.getD limit) := by
    cases limited : gauge.chunk with
    | none => simpa using positive
    | some chunk =>
        have some_chunk : chunk ≠ 0 := fun none =>
          ready.chunk (limited.trans (congrArg some none))
        exact Nat.lt_min.mpr ⟨positive, Nat.pos_of_ne_zero some_chunk⟩
  refine .taken (congrArg Prod.fst written) some_bytes
    (Nat.le_trans (Nat.min_le_left _ _) offered) ?_ ?_ ?_
  · rw [written]
    exact (List.length_tail ▸ Nat.sub_le _ _ : gauge.script.tail.length ≤ gauge.script.length)
  · rw [written]
    exact ready.later _ _
  · rw [written]
    simp only [ByteArray.data_append, Array.toList_append, toList_stretch]

/-- A gauge whose script keeps to the rules is a willing sink. -/
theorem willing_ready : Sink.Willing Ready fun gauge => gauge.content.data.toList where
  takes := by
    intro bytes start gauge ready within
    have offered : 0 < bytes.size - start := Nat.sub_pos_of_lt within
    cases cued : gauge.script with
    | nil => exact ready.takes_of_limit (by rw [cued]; rfl) offered (Nat.le_refl _)
    | cons cue later =>
        have mild := ready.mild cue (cued ▸ List.mem_cons_self)
        cases cue with
        | plain => exact ready.takes_of_limit (by rw [cued]; rfl) offered (Nat.le_refl _)
        | atMost count =>
            exact ready.takes_of_limit (by rw [cued]; rfl) (Nat.lt_min.mpr ⟨offered, mild⟩)
              (Nat.min_le_left _ _)
        | fault ordered =>
            have written : Sink.write bytes start gauge =
                (.failed ordered,
                  { gauge with
                    script := gauge.script.tail
                    offers := (bytes.size - start) :: gauge.offers }) := by
              change write bytes start gauge = _
              unfold write
              rw [cued]
              rfl
            refine .interrupted (congrArg Prod.fst written) mild ?_ ?_ ?_
            · rw [written]
              change gauge.script.tail.length < gauge.script.length
              rw [cued]
              exact Nat.lt_succ_self _
            · rw [written]
              exact ready.later _ _
            · rw [written]

end Gauge

end Payload
