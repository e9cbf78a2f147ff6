import Payload.Proofs.Scripted

/-!
# Honest sources

However an honest source is asked, in sequence, at a position or after a seek, it sees the same
data, and it gives at least one byte until there are none left.  Which of the calls it offers, and
whether it knows its size, is left open, and so is how many bytes it gives at a time.
-/

namespace Payload

namespace Source

variable {σ : Type}

/-- What a source offers beyond being read in sequence. -/
structure Offer where
  /-- Whether it reports its size. -/
  sized : Bool
  seekable : Bool
  addressable : Bool
  deriving DecidableEq, Repr

/-- How a read may come out where these bytes come next: some of them, or nothing where there are
none.  `after` says of the next state what it must be when so many bytes were given. -/
inductive Serves (rest : List UInt8) (want : Nat) (after : Nat → σ → Prop) :
    Reading want × σ → Prop where
  | piece {content : ByteArray} {fits : content.size ≤ want} {next : σ}
      (some_bytes : content.size ≠ 0) (ahead : content.data.toList <+: rest)
      (onwards : after content.size next) :
      Serves rest want after (.done (.bytes content fits), next)
  | ended {transfer : Transfer want} {next : σ} (spent : rest = []) (nothing : transfer.count = 0)
      (still : after 0 next) : Serves rest want after (.done transfer, next)

theorem Serves.mono {rest : List UInt8} {want : Nat} {after further : Nat → σ → Prop}
    {step : Reading want × σ} (serves : Serves rest want after step)
    (wider : ∀ count next, after count next → further count next) :
    Serves rest want further step := by
  cases serves with
  | piece some_bytes ahead onwards => exact .piece some_bytes ahead (wider _ _ onwards)
  | ended spent nothing still => exact .ended spent nothing (wider _ _ still)

variable [Source σ]

/-- Sources with this offer whose calls all see this data; `stands` says where one stands. -/
structure Honest (offer : Offer) (data : List UInt8) (stands : Nat → σ → Prop) : Prop where
  small : data.length ≤ maxOffset
  inside : ∀ {position source}, stands position source → position ≤ data.length
  seekable : ∀ {position source}, stands position source →
    Source.seekable source = offer.seekable
  addressable : ∀ {position source}, stands position source →
    Source.addressable source = offer.addressable
  size : ∀ {position source}, stands position source →
    ∃ next, Source.size source = (.done (if offer.sized then some data.length else none), next) ∧
      stands position next
  read : ∀ {position source want}, stands position source → 0 < want →
    Serves (data.drop position) want (fun given => stands (position + given))
      (Source.read want source)
  /-- A read at a position leaves the source where it stands. -/
  readAt : offer.addressable = true → ∀ {position source want place}, stands position source →
    0 < want → place ≤ data.length →
      Serves (data.drop place) want (fun _ => stands position) (Source.readAt want place source)
  seek : offer.seekable = true → ∀ {position goal : Nat} {source : σ} (origin : Origin),
    stands position source → goal ≤ data.length → origin.aim position data.length = goal →
      ∃ next, Source.seek origin source = (.done goal, next) ∧ stands goal next

/-- The source stands somewhere in the data, with these bytes ahead. -/
def Ahead (data : List UInt8) (stands : Nat → σ → Prop) (rest : List UInt8) (source : σ) : Prop :=
  ∃ position, stands position source ∧ rest = data.drop position

/-- An honest source is a sequential source that just ends. -/
theorem Honest.sequential {offer : Offer} {data : List UInt8} {stands : Nat → σ → Prop}
    (honest : Honest offer data stands) : Sequential (Ahead data stands) .ended where
  answers := by
    rintro rest source want ⟨position, there, rfl⟩ asks
    have serves := honest.read there asks
    generalize reading : Source.read want source = step at serves
    cases serves with
    | piece some_bytes ahead onwards =>
        refine .piece (congrArg Prod.fst reading) some_bytes ahead ?_
        rw [reading, List.drop_drop]
        exact ⟨_, onwards, rfl⟩
    | ended spent nothing => exact .ended spent rfl (congrArg Prod.fst reading) nothing

end Source

/-! ## Devices without a script -/

namespace Device

/-- The device stands here in this data, offers this and does nothing unexpected; closing it comes
to whatever is said. -/
structure Steady (offer : Source.Offer) (closing : Closing) (data : List UInt8) (position : Nat)
    (device : Device) : Prop where
  content : device.content.data.toList = data
  stands : device.position = position
  inside : position ≤ data.length
  size : device.size = if offer.sized then .ofContent else .unknown
  seekable : device.seekable = offer.seekable
  addressable : device.addressable = offer.addressable
  chunk : device.chunk ≠ some 0
  failAt : device.failAt = none
  reads : device.reads = []
  seeks : device.seeks = []
  closing : device.closing = closing

variable {offer : Source.Offer} {closing : Closing} {data : List UInt8} {position : Nat}
  {device : Device}

theorem Steady.length_eq (steady : Steady offer closing data position device) :
    data.length = device.content.size := by
  rw [← steady.content, Array.length_toList, ByteArray.size_data]

/-- The same device, moved. -/
theorem Steady.move (steady : Steady offer closing data position device) {goal : Nat}
    (inside : goal ≤ data.length) :
    Steady offer closing data goal
      { device with position := goal, reads := device.reads.tail, seeks := device.seeks.tail } where
  content := steady.content
  stands := rfl
  inside := inside
  size := steady.size
  seekable := steady.seekable
  addressable := steady.addressable
  chunk := steady.chunk
  failAt := steady.failAt
  reads := by rw [steady.reads, List.tail_nil]
  seeks := by rw [steady.seeks, List.tail_nil]
  closing := steady.closing

/-- A steady device gives as many of the bytes at a position as its chunk allows. -/
theorem Steady.readCued_eq (steady : Steady offer closing data position device) {want : Nat}
    (asks : 0 < want) (place : Nat) :
    ∃ count fits, 0 < count ∧ device.readCued want place device.reads.head? =
      .done (.bytes (stretch device.content place count) fits) := by
  have positive : 0 < min want (limited want device.chunk) :=
    Nat.lt_min.mpr ⟨asks, limited_pos asks steady.chunk⟩
  have fits : (stretch device.content place (min want (limited want device.chunk))).size ≤ want :=
    Nat.le_trans (size_stretch_le _ _ _) (Nat.min_le_left _ _)
  refine ⟨_, fits, positive, ?_⟩
  have same : min want (min want (limited want device.chunk)) =
      min want (limited want device.chunk) := by
    omega
  rw [steady.reads]
  change device.supplyAt want place none = _
  unfold supplyAt
  rw [steady.failAt]
  change Source.yields want
    (stretch device.content place (min want (min want (limited want device.chunk)))) = _
  rw [same, Source.yields, dif_pos fits]

theorem Steady.serves (steady : Steady offer closing data position device) {want : Nat}
    (asks : 0 < want) (place : Nat) {after : Nat → Device → Prop} {next : Device}
    (goes : ∀ count, place + count ≤ data.length →
      travelled (device.readCued want place device.reads.head?) = count → after count next)
    (within : place ≤ data.length) :
    Source.Serves (data.drop place) want after
      (device.readCued want place device.reads.head?, next) := by
  obtain ⟨count, fits, positive, came⟩ := steady.readCued_eq asks place
  rw [came] at goes ⊢
  have length_eq := steady.length_eq
  have size_eq := size_stretch device.content place count
  have onwards := goes (stretch device.content place count).size (by omega) rfl
  by_cases nothing : (stretch device.content place count).size = 0
  · refine .ended (List.drop_eq_nil_iff.mpr (by omega)) nothing ?_
    rwa [nothing] at onwards
  · refine .piece nothing ?_ onwards
    rw [toList_stretch, steady.content, span]
    exact List.take_prefix _ _

/-- Steady devices are honest. -/
theorem honest_steady (offer : Source.Offer) (closing : Closing) {data : List UInt8}
    (small : data.length ≤ maxOffset) : Source.Honest offer data (Steady offer closing data) where
  small := small
  inside steady := steady.inside
  seekable steady := steady.seekable
  addressable steady := steady.addressable
  size := by
    intro position device steady
    refine ⟨device, Prod.ext ?_ rfl, steady⟩
    change device.sizeAnswer = _
    rw [sizeAnswer, steady.size, steady.length_eq]
    cases offer.sized <;> rfl
  read := by
    intro position device want steady asks
    have here := steady.stands
    subst here
    refine steady.serves asks device.position (fun count within travels => ?_) steady.inside
    rw [travels]
    exact { steady.move within with seeks := steady.seeks }
  readAt := by
    intro _ position device want place steady asks within
    refine steady.serves asks place (fun _ _ _ => ?_) within
    exact { steady with reads := by rw [steady.reads, List.tail_nil] }
  seek := by
    intro _ position goal device origin steady within aims
    have aimed : origin.aim? device.position device.content.size = some goal := by
      rw [Origin.aim?_eq_some_iff, ← steady.length_eq, steady.stands]
      exact ⟨aims, Nat.le_trans within small⟩
    refine ⟨{ device with position := goal, seeks := device.seeks.tail }, ?_, ?_⟩
    · change device.seek origin = _
      unfold Device.seek
      rw [steady.seeks, aimed]
      rfl
    · exact { steady.move within with reads := steady.reads }

end Device

end Payload
