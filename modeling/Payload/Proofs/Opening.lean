import Payload.Opening
import Payload.Proofs.Closing
import Payload.Proofs.Draining

/-!
# What is read does not depend on what was picked

Opening asks an honest source for its size, where it stands and how far its end is, and picks the
kind of body from what the source offers.  From where the source stands every kind then delivers the
same bytes.  A source that cannot be moved does not say where it stands, so it has to stand at the
start where its size or a read at a position is to be relied on.
-/

namespace Payload

variable {σ τ : Type}

namespace Source.Offer

/-- The length that a source of this size is opened with, from where it stands. -/
def known (offer : Offer) (size position : Nat) (declared : Option Nat) : Option Nat :=
  declared <|>
    if offer.seekable then some (size - position) else if offer.sized then some size else none

/-- The place in the source that its body is taken to start at. -/
def base (offer : Offer) (position : Nat) : Nat :=
  if offer.seekable then position else 0

/-- Where the source stands is told, or it does not matter. -/
inductive Placed (offer : Offer) (position : Nat) : Option Nat → Prop where
  | told {declared : Option Nat} (seekable : offer.seekable = true) :
      Placed offer position declared
  | start {declared : Option Nat} (first : position = 0) : Placed offer position declared
  /-- Nothing is declared and nothing reported, so the source is read in sequence. -/
  | unmeasured (unsized : offer.sized = false) : Placed offer position none
  /-- A length is declared, and reads cannot name their position. -/
  | sequential {length : Nat} (unaddressed : offer.addressable = false) :
      Placed offer position (some length)
  /-- There is nothing to read. -/
  | nothing : Placed offer position (some 0)

variable {offer : Offer} {size position length : Nat} {declared : Option Nat}

theorem eq_none_of_known_eq_none (unknown : offer.known size position declared = none) :
    declared = none := by
  cases declared with
  | none => rfl
  | some length => cases unknown

/-- The length is that from where the source stands. -/
theorem Placed.length_eq (placed : offer.Placed position declared)
    (known : offer.known size position declared = some length) :
    length = declared.getD (size - position) := by
  cases declared with
  | some declared => exact (Option.some.inj known).symm
  | none =>
      change (if offer.seekable then some (size - position)
        else if offer.sized then some size else none) = some length at known
      change length = size - position
      cases placed with
      | told seekable =>
          rw [if_pos seekable] at known
          exact (Option.some.inj known).symm
      | start first =>
          subst first
          split at known
          · exact (Option.some.inj known).symm
          · split at known
            · exact (Option.some.inj known).symm
            · cases known
      | unmeasured unsized =>
          split at known
          · exact (Option.some.inj known).symm
          · rw [if_neg (by simp [unsized])] at known
            cases known

/-- Where the source is read at positions, they are counted from where it stands. -/
theorem Placed.base_eq (placed : offer.Placed position declared)
    (known : offer.known size position declared = some length) (some_bytes : length ≠ 0)
    {access : Access} (allowed : offer.allows access = true) : offer.base position = position := by
  unfold base
  split
  · rfl
  · rename_i unseekable
    have addressable : offer.addressable = true := by
      cases access with
      | addressed => exact allowed
      | seeking => exact absurd allowed unseekable
    cases placed with
    | told seekable => exact absurd seekable unseekable
    | start first => exact first.symm
    | unmeasured unsized =>
        change (if offer.seekable then some (size - position)
          else if offer.sized then some size else none) = some length at known
        rw [if_neg unseekable, if_neg (by simp [unsized])] at known
        cases known
    | sequential unaddressed =>
        rw [addressable] at unaddressed
        cases unaddressed
    | nothing => exact absurd (Option.some.inj known).symm some_bytes

end Source.Offer

/-! ## Opening -/

namespace Opening

/-- What is picked over a source of this length, known or not, with `base` for its start. -/
inductive Picks [Source σ] (source : σ) (base blockSize : Nat) : Option Nat → Body σ → Prop where
  | empty : Picks source base blockSize (some 0) .empty
  | addressed {length : Nat} (some_bytes : length ≠ 0)
      (addressable : Source.addressable source = true) :
      Picks source base blockSize (some length) (.overDirect source .addressed base length)
  | seeking {length : Nat} (some_bytes : length ≠ 0)
      (unaddressable : Source.addressable source = false)
      (seekable : Source.seekable source = true) :
      Picks source base blockSize (some length) (.overDirect source .seeking base length)
  | sequential {length : Nat} (some_bytes : length ≠ 0)
      (unaddressable : Source.addressable source = false)
      (unseekable : Source.seekable source = false) :
      Picks source base blockSize (some length) (.overSequence source (some length) blockSize)
  | endless : Picks source base blockSize none (.overSequence source none blockSize)

/-- A body is picked, but for a source without bytes that cannot be closed. -/
theorem exists_picks [Source σ] (options : Options) (stand : Stand) (notes : List Note) (source : σ)
    (closes : stand.length = some 0 → (Source.close source).1 = .done ()) :
    ∃ body, (settle options stand notes source).reply = .done body ∧
      Picks source stand.base options.blockSize stand.length body := by
  unfold settle
  split
  · rename_i nothing
    dsimp only
    rw [closes nothing, nothing]
    exact ⟨_, rfl, .empty⟩
  · rename_i length some_bytes known
    have positive : length ≠ 0 := by
      rintro rfl
      exact some_bytes rfl
    rw [known]
    split
    · rename_i addressable
      exact ⟨_, rfl, .addressed positive addressable⟩
    · rename_i unaddressable
      replace unaddressable : Source.addressable source = false := by simpa using unaddressable
      split
      · rename_i seekable
        exact ⟨_, rfl, .seeking positive unaddressable seekable⟩
      · rename_i unseekable
        exact ⟨_, rfl, .sequential positive unaddressable (by simpa using unseekable)⟩
  · rename_i unknown
    rw [unknown]
    exact ⟨_, rfl, .endless⟩

/-- A source that has bytes, or may have some, is left alone. -/
theorem source_settle_of_ne [Source σ] {stand : Stand} (nothing : stand.length ≠ some 0)
    (options : Options) (notes : List Note) (source : σ) :
    (settle options stand notes source).source = source := by
  unfold settle
  split
  · rename_i empty
    exact absurd empty nothing
  · split
    · rfl
    · split <;> rfl
  · rfl

/-- Whatever opening makes is picked over the source as it leaves it. -/
theorem picks_of_settle [Source σ] {options : Options} {stand : Stand} {notes : List Note}
    {source : σ} {body : Body σ} (made : (settle options stand notes source).reply = .done body) :
    Picks (settle options stand notes source).source stand.base options.blockSize stand.length
      body := by
  by_cases nothing : stand.length = some 0
  · simp only [settle, nothing] at made ⊢
    split at made
    · cases made
      exact .empty
    · cases made
    · cases made
  · obtain ⟨picked, same, picks⟩ :=
      exists_picks options stand notes source fun empty => absurd empty nothing
    obtain rfl := Outcome.done.inj (same.symm.trans made)
    rwa [source_settle_of_ne nothing]

theorem picks_of_place [Source σ] {options : Options} {reported : Option Nat} {source : σ}
    {body : Body σ} (made : (place options reported source).reply = .done body) :
    ∃ base length, Picks (place options reported source).source base options.blockSize length body ∧
      ∀ declared, options.length = some declared → length = some declared := by
  unfold place at made ⊢
  split at made
  · rename_i seekable
    rw [if_pos seekable]
    split at made
    · exact ⟨_, _, picks_of_settle made, fun declared told => by rw [told]; rfl⟩
    · rename_i fault next missed
      split at made
      · rename_i told
        rw [if_pos told]
        exact ⟨_, _, picks_of_settle made, fun declared told => told⟩
      · cases made
    · cases made
  · rename_i unseekable
    rw [if_neg unseekable]
    exact ⟨_, _, picks_of_settle made, fun declared told => by rw [told]; rfl⟩

/-- Whatever opening makes is picked over the source as it leaves it, with the declared length if
there is one. -/
theorem picks_of_open [Source σ] {options : Options} {source : σ} {body : Body σ}
    (made : (Body.open source options).reply = .done body) :
    ∃ base length, Picks (Body.open source options).source base options.blockSize length body ∧
      ∀ declared, options.length = some declared → length = some declared := by
  unfold Body.open at made ⊢
  split at made
  · exact picks_of_place made
  · cases made
  · cases made

/-- To ask a source for its size, to move it and to close it keeps this. -/
structure Keeps [Source σ] (I : σ → Prop) : Prop where
  size : ∀ source, I source → I (Source.size source).2
  seek : ∀ origin source, I source → I (Source.seek origin source).2
  close : ∀ source, I source → I (Source.close source).2

namespace Keeps

variable [Source σ] {I : σ → Prop} {source : σ}

omit [Source σ] in
theorem andThen {α β : Type} {step : Answer α × σ} {next : α → σ → Answer β × σ} (first : I step.2)
    (onwards : ∀ value source, I source → I (next value source).2) :
    I (Outcome.andThen step next).2 := by
  rcases step with ⟨value | fault | _, source⟩
  · exact onwards value source first
  · exact first
  · exact first

theorem reported (keeps : Keeps I) (holds : I source) (declared : Option Nat) :
    I (reported declared source).2 := by
  unfold Opening.reported
  split
  · exact holds
  · exact keeps.size source holds

theorem locate (keeps : Keeps I) (holds : I source) (measure : Bool) :
    I (locate measure source).2 := by
  refine andThen (keeps.seek _ _ holds) fun base source holds => ?_
  split
  · exact andThen (keeps.seek _ _ holds) fun stop source holds =>
      andThen (keeps.seek _ _ holds) fun _ source holds => holds
  · exact holds

theorem settle (keeps : Keeps I) (holds : I source) (options : Options) (stand : Stand)
    (notes : List Note) : I (settle options stand notes source).source := by
  unfold Opening.settle
  split
  · exact keeps.close source holds
  · split
    · exact holds
    · split <;> exact holds
  · exact holds

theorem place (keeps : Keeps I) (holds : I source) (options : Options) (reported : Option Nat) :
    I (place options reported source).source := by
  unfold Opening.place
  split
  · have there := keeps.locate holds (options.length.isNone && reported.isNone)
    generalize Opening.locate _ source = found at there ⊢
    rcases found with ⟨stand | fault | _, next⟩
    · exact keeps.settle there _ _ _
    · dsimp only
      split
      · exact keeps.settle there _ _ _
      · exact there
    · exact there
  · exact keeps.settle holds _ _ _

/-- Opening does nothing else to a source. -/
theorem opened (keeps : Keeps I) (holds : I source) (options : Options) :
    I (Body.open source options).source := by
  have asked := keeps.reported holds options.length
  unfold Body.open
  generalize Opening.reported options.length source = told at asked ⊢
  rcases told with ⟨size | fault | _, next⟩
  · exact keeps.place asked _ _
  · exact asked
  · exact asked

end Keeps

/-- What is measured or reported tells how far the end is from where the source stands. -/
theorem lengthFrom_of_seekable (declared : Option Nat) (sized : Bool) (size position : Nat) :
    let reported := if declared.isSome then none else if sized then some size else none
    lengthFrom position declared
        (if declared.isNone && reported.isNone then some (size - position) else none) reported =
      (declared <|> some (size - position)) := by
  cases declared with
  | some length => rfl
  | none => cases sized <;> rfl

theorem lengthFrom_of_unseekable (declared : Option Nat) (sized : Bool) (size : Nat) :
    lengthFrom 0 declared none
        (if declared.isSome then none else if sized then some size else none) =
      (declared <|> if sized then some size else none) := by
  cases declared with
  | some length => rfl
  | none => cases sized <;> rfl

end Opening

namespace Source.Honest

variable [Source σ] {offer : Source.Offer} {data : List UInt8} {stands : Nat → σ → Prop}
  {source : σ} {position : Nat}

theorem reported (honest : Honest offer data stands) (there : stands position source)
    (declared : Option Nat) :
    ∃ next, Opening.reported declared source =
        (.done (if declared.isSome then none else if offer.sized then some data.length else none),
          next) ∧ stands position next := by
  unfold Opening.reported
  split
  · exact ⟨source, rfl, there⟩
  · exact honest.size there

theorem locate (honest : Honest offer data stands) (there : stands position source)
    (seekable : offer.seekable = true) (measure : Bool) :
    ∃ next, Opening.locate measure source =
        (.done ⟨position, if measure then some (data.length - position) else none⟩, next) ∧
      stands position next := by
  have inside := honest.inside there
  obtain ⟨first, here, stays⟩ := honest.seek seekable (.here 0) there inside (Int.add_zero _)
  unfold Opening.locate
  rw [here, Outcome.andThen_done]
  split
  · obtain ⟨last, finish, arrived⟩ :=
      honest.seek seekable (.finish 0) stays (Nat.le_refl _) (Int.add_zero _)
    obtain ⟨next, back, returned⟩ := honest.seek seekable (.start position) arrived inside rfl
    rw [finish, Outcome.andThen_done, back, Outcome.andThen_done]
    exact ⟨next, rfl, returned⟩
  · exact ⟨first, rfl, stays⟩

/-- Opening gets all its answers, and the source stands where it stood. -/
theorem open_eq_settle (honest : Honest offer data stands) (there : stands position source)
    (options : Options) :
    ∃ notes next, stands position next ∧ Body.open source options =
      Opening.settle options
        ⟨offer.base position, offer.known data.length position options.length⟩ notes next := by
  obtain ⟨asked, reports, stays⟩ := honest.reported there options.length
  unfold Body.open
  rw [reports]
  dsimp only
  unfold Opening.place
  rw [honest.seekable stays]
  unfold Source.Offer.base Source.Offer.known
  split
  · rename_i seekable
    have length_eq :=
      Opening.lengthFrom_of_seekable options.length offer.sized data.length position
    obtain ⟨next, located, returned⟩ := honest.locate stays seekable
      (options.length.isNone && (if options.length.isSome then none
        else if offer.sized then some data.length else none).isNone)
    rw [located]
    exact ⟨_, next, returned,
      congrArg (fun length => Opening.settle options ⟨position, length⟩ _ next) length_eq⟩
  · have length_eq := Opening.lengthFrom_of_unseekable options.length offer.sized data.length
    exact ⟨[], asked, stays,
      congrArg (fun length => Opening.settle options ⟨0, length⟩ [] asked) length_eq⟩

end Source.Honest

/-! ## Every kind of body -/

namespace Body

variable [Source σ] [Sink τ] {offer : Source.Offer} {data : List UInt8} {stands : Nat → σ → Prop}
  {source : σ} {buffers : List Buffer}

/-- No read into a buffer of this size makes the window of a buffered body outgrow what can be
allocated, if there is only one copy. -/
def Roomy (want : Nat) : Body σ → Prop
  | buffered pool => Buffered.Roomy pool.record.length pool.record.blockSize want
  | _ => True

theorem drains_ofBytes (content : ByteArray) (asks : ∀ buffer ∈ buffers, 0 < buffer.size) :
    Drains content.data.toList
      ((ofBytes content : Body σ).run (buffers.map (Use.read 0 : Buffer → Use σ τ))).1 := by
  rw [ofBytes, run_memory]
  exact drains_run (fun ahead buffer member => Memory.gives_read ahead (asks buffer member))
    ⟨{}, rfl, Nat.zero_le _, rfl, nofun⟩

theorem drains_overDirect (honest : Source.Honest offer data stands) {position : Nat}
    (there : stands position source) {access : Access} (allowed : offer.allows access = true)
    {base length : Nat} (within : base + length ≤ data.length)
    (asks : ∀ buffer ∈ buffers, 0 < buffer.size) :
    Drains (span data base (base + length))
      ((overDirect source access base length).run
        (buffers.map (Use.read 0 : Buffer → Use σ τ))).1 := by
  rw [overDirect, run_direct]
  exact drains_run
    (fun ahead buffer member => Direct.gives_read honest ahead (asks buffer member))
    ⟨⟨rfl, rfl, allowed, ⟨position, there⟩, within⟩, {}, rfl, rfl, nofun⟩

theorem drains_overSequence {yields : List UInt8 → σ → Prop}
    (sequential : Source.Sequential yields .ended) {stream : List UInt8}
    (starts : yields stream source) {known : Option Nat}
    (ends : Buffered.ending known stream .ended = .ended) {blockSize : Nat}
    (asks : ∀ buffer ∈ buffers,
      0 < buffer.size ∧ (overSequence source known blockSize).Roomy buffer.size) :
    Drains (span stream 0 (Buffered.reach known stream))
      ((overSequence source known blockSize).run
        (buffers.map (Use.read 0 : Buffer → Use σ τ))).1 := by
  rw [overSequence, run_buffered]
  exact drains_run
    (fun ahead buffer member => Buffered.gives_read sequential ends ahead (asks buffer member).1
      (asks buffer member).2)
    ⟨.fresh starts blockSize, rfl, rfl, {}, rfl, rfl⟩

end Body

/-- Small buffers and blocks leave room enough. -/
theorem Opening.Picks.roomy [Source σ] {source : σ} {base blockSize want : Nat}
    {length : Option Nat} {body : Body σ} (picks : Picks source base blockSize length body)
    (small : want + max blockSize 1 ≤ maxAllocation + 1) : body.Roomy want := by
  cases picks with
  | sequential => exact Or.inl small
  | endless => exact Or.inl small
  | _ => trivial

/-- Whatever is picked delivers the bytes from where the source stands. -/
theorem Opening.Picks.drains [Source σ] [Sink τ] {offer : Source.Offer} {data : List UInt8}
    {stands : Nat → σ → Prop} {source : σ} {position blockSize : Nat} {declared : Option Nat}
    {body : Body σ}
    (picks : Picks source (offer.base position) blockSize
      (offer.known data.length position declared) body)
    (honest : Source.Honest offer data stands) (there : stands position source)
    (placed : offer.Placed position declared)
    (declares : ∀ length, declared = some length → length ≤ data.length - position)
    {buffers : List Buffer} (asks : ∀ buffer ∈ buffers, 0 < buffer.size ∧ body.Roomy buffer.size) :
    Drains (span data position (position + declared.getD (data.length - position)))
      (body.run (buffers.map (Use.read 0 : Buffer → Use σ τ))).1 := by
  have inside := honest.inside there
  have ahead : Source.Ahead data stands (data.drop position) source := ⟨position, there, rfl⟩
  have fits : declared.getD (data.length - position) ≤ data.length - position := by
    cases declared with
    | none => exact Nat.le_refl _
    | some length => exact declares length rfl
  have direct (access : Access) (allowed : offer.allows access = true) {length : Nat}
      (some_bytes : length ≠ 0) (known : offer.known data.length position declared = some length)
      (asks : ∀ buffer ∈ buffers, 0 < buffer.size) :
      Drains (span data position (position + declared.getD (data.length - position)))
        ((Body.overDirect source access (offer.base position) length).run
          (buffers.map (Use.read 0 : Buffer → Use σ τ))).1 := by
    have length_eq := placed.length_eq known
    rw [placed.base_eq known some_bytes allowed, ← length_eq]
    exact Body.drains_overDirect honest there allowed (by omega) asks
  generalize known : offer.known data.length position declared = length at picks
  cases picks with
  | empty =>
      rw [← placed.length_eq known, Nat.add_zero, span_self]
      exact Body.drains_ofBytes .empty fun buffer member => (asks buffer member).1
  | addressed some_bytes addressable =>
      exact direct .addressed ((honest.addressable there).symm.trans addressable)
        some_bytes known fun buffer member => (asks buffer member).1
  | seeking some_bytes unaddressable seekable =>
      exact direct .seeking ((honest.seekable there).symm.trans seekable)
        some_bytes known fun buffer member => (asks buffer member).1
  | @sequential length some_bytes =>
      have length_eq := placed.length_eq known
      have covered : length ≤ (data.drop position).length := by
        rw [List.length_drop]
        omega
      have ends : Buffered.ending (some length) (data.drop position) .ended = .ended :=
        if_pos covered
      have drains := Body.drains_overSequence (τ := τ) honest.sequential ahead ends asks
      rw [← length_eq]
      rwa [Buffered.reach, Nat.min_eq_left covered, span_drop] at drains
  | endless =>
      have drains := Body.drains_overSequence (τ := τ) honest.sequential ahead rfl asks
      rw [Source.Offer.eq_none_of_known_eq_none known]
      rwa [Buffered.reach, span_drop, List.length_drop] at drains

namespace Body

variable [Source σ] [Sink τ] {offer : Source.Offer} {data : List UInt8} {stands : Nat → σ → Prop}
  {source : σ} {position : Nat}

/-- An honest source is opened and read on from where it stands.  With whatever offer, declared
length and blocks, and whatever kind of body is picked for them: reads into buffers that are not
empty give the bytes from there on, as many as were declared or else all, in pieces of one byte or
more, and then the end.  This takes that where it stands is told or does not matter, that it can be
closed where it has no bytes, and that no window outgrows what can be allocated. -/
theorem open_delivers (honest : Source.Honest offer data stands) (there : stands position source)
    (options : Options)
    (declares : ∀ length, options.length = some length → length ≤ data.length - position)
    (placed : offer.Placed position options.length)
    (closes : offer.known data.length position options.length = some 0 →
      ∀ next, stands position next → (Source.close next).1 = .done ()) :
    let left := options.length.getD (data.length - position)
    let wanted := span data position (position + left)
    ∃ body, (Body.open source options).reply = .done body ∧
      (∃ next, stands position next ∧
        Opening.Picks next (offer.base position) options.blockSize
          (offer.known data.length position options.length) body) ∧
      ∀ buffers : List Buffer, (∀ buffer ∈ buffers, 0 < buffer.size ∧ body.Roomy buffer.size) →
        ∃ (pieces : List ByteArray) (ends : Nat),
          (body.run (buffers.map (Use.read 0 : Buffer → Use σ τ))).1 =
              pieces.map (fun piece => .bytes (.done piece)) ++
                List.replicate ends (.bytes (.failed ⟨.read, .endOfStream⟩)) ∧
            (∀ piece ∈ pieces, piece.size ≠ 0) ∧
            pieces.flatMap (fun piece => piece.data.toList) <+: wanted ∧
            (0 < ends → pieces.flatMap (fun piece => piece.data.toList) = wanted) ∧
            (wanted.length < buffers.length → 0 < ends) := by
  intro left wanted
  obtain ⟨notes, next, stays, settles⟩ := honest.open_eq_settle there options
  obtain ⟨body, opened, picks⟩ := Opening.exists_picks options
    ⟨offer.base position, offer.known data.length position options.length⟩ notes next
    fun nothing => closes nothing next stays
  refine ⟨body, settles ▸ opened, ⟨next, stays, picks⟩, fun buffers asks => ?_⟩
  have drains : Drains wanted (body.run (buffers.map (Use.read 0 : Buffer → Use σ τ))).1 :=
    picks.drains honest stays placed declares asks
  have length_eq : (body.run (buffers.map (Use.read 0 : Buffer → Use σ τ))).1.length =
      buffers.length :=
    (length_runAll _ _).trans (List.length_map _)
  obtain ⟨pieces, ends, replies, nonempty, given, whole, enough⟩ := drains.exists_pieces
  exact ⟨pieces, ends, replies, nonempty, given, whole, length_eq ▸ enough⟩

/-- A device in the middle of its content, with one offer after the other: what is left, or what was
declared of it, is delivered and then the end. -/
theorem open_delivers_of_halfway :
    let device (offer : Source.Offer) : Device :=
      { content := ⟨#[1, 2, 3, 4, 5, 6]⟩
        position := 2
        size := if offer.sized then .ofContent else .unknown
        seekable := offer.seekable
        addressable := offer.addressable
        chunk := some 3 }
    let delivers (offer : Source.Offer) (declared : Option Nat) (wanted : List UInt8) : Prop :=
      ∃ body, (Body.open (device offer) { length := declared, rawBlockSize := 4 }).reply =
          .done body ∧
        ∃ (pieces : List ByteArray) (ends : Nat),
          (body.run (List.replicate 5 (.read 0 (.fresh 3)) : List (Use Device Gauge))).1 =
              pieces.map (fun piece => .bytes (.done piece)) ++
                List.replicate ends (.bytes (.failed ⟨.read, .endOfStream⟩)) ∧
            0 < ends ∧ pieces.flatMap (fun piece => piece.data.toList) = wanted
    delivers ⟨true, true, true⟩ none [3, 4, 5, 6] ∧
      delivers ⟨false, true, false⟩ none [3, 4, 5, 6] ∧
      delivers ⟨false, false, true⟩ none [3, 4, 5, 6] ∧
      delivers ⟨true, false, false⟩ (some 3) [3, 4, 5] ∧
      delivers ⟨true, false, true⟩ (some 0) [] := by
  intro device delivers
  have works (offer : Source.Offer) (declared : Option Nat)
      (declares : ∀ length, declared = some length → length ≤ 4)
      (placed : offer.Placed 2 declared) :
      delivers offer declared (span [1, 2, 3, 4, 5, 6] 2 (2 + declared.getD 4)) := by
    have steady : Device.Steady offer .works [1, 2, 3, 4, 5, 6] 2 (device offer) :=
      ⟨rfl, rfl, by decide, rfl, rfl, rfl, nofun, rfl, rfl, rfl, rfl⟩
    have closes (next : Device)
        (steady : Device.Steady offer .works [1, 2, 3, 4, 5, 6] 2 next) :
        (Source.close next).1 = .done () := by
      change next.closeAnswer = _
      rw [Device.closeAnswer, steady.closing]
    obtain ⟨body, opened, ⟨next, -, picks⟩, reads⟩ := open_delivers (τ := Gauge)
      (Device.honest_steady offer .works (by decide)) steady
      { length := declared, rawBlockSize := 4 } declares placed fun _ => closes
    obtain ⟨pieces, ends, replies, -, -, whole, enough⟩ :=
      reads (List.replicate 5 (.fresh 3)) fun buffer member => by
        rw [List.eq_of_mem_replicate member]
        exact ⟨Nat.succ_pos 2, picks.roomy (by decide : 3 + max 4 1 ≤ maxAllocation + 1)⟩
    have drained : 0 < ends := enough (Nat.lt_of_le_of_lt (List.length_take_le' _ _) (by decide))
    exact ⟨body, opened, pieces, ends, replies, drained, whole drained⟩
  exact ⟨works ⟨true, true, true⟩ none nofun (.told rfl),
    works ⟨false, true, false⟩ none nofun (.told rfl),
    works ⟨false, false, true⟩ none nofun (.unmeasured rfl),
    works ⟨true, false, false⟩ (some 3) (by simp) (.sequential rfl),
    works ⟨true, false, true⟩ (some 0) (by simp) .nothing⟩

/-- Sources in the middle of their content that cannot be moved: one is read from its start, and one
is expected to have as much left as it has in all.  A source that has nothing left fails to close,
and one that gives no length cannot be read in blocks beyond what can be allocated. -/
theorem open_strays :
    let data : List UInt8 := [1, 2, 3, 4, 5, 6]
    let device : Device := { content := ⟨#[1, 2, 3, 4, 5, 6]⟩, position := 2 }
    let placed : Device := { device with size := .ofContent, addressable := true }
    let counted : Device := { device with size := .ofContent }
    let stuck : Fault := .saying .other "stuck"
    let finished : Device :=
      { device with position := 6, seekable := true, closing := .fault stuck }
    (Device.Steady ⟨true, false, true⟩ .works data 2 placed ∧
      ∃ body, (Body.open placed {}).reply = .done body ∧
        (body.read 0 (.fresh 6)).reply = .done ⟨#[1, 2, 3, 4, 5, 6]⟩) ∧
    (Device.Steady ⟨true, false, false⟩ .works data 2 counted ∧
      ∃ body, (Body.open counted {}).reply = .done body ∧
        (body.read 0 (.fresh 4)).reply = .done ⟨#[3, 4, 5, 6]⟩ ∧
        ((body.read 0 (.fresh 4)).state.read 0 (.fresh 1)).reply =
          .failed ⟨.read, .fault Buffered.endedEarly⟩) ∧
    (Device.Steady ⟨false, true, false⟩ (.fault stuck) data 6 finished ∧
      ∃ error, (Body.open finished {}).reply = .failed error) ∧
    (Device.Steady ⟨false, false, false⟩ .works data 2 device ∧
      ∃ body, (Body.open device { rawBlockSize := 9223372036854775808 }).reply = .done body ∧
        (body.read 0 (.fresh 1)).reply = .broke) := by
  intro data device placed counted stuck finished
  refine ⟨⟨⟨rfl, rfl, by decide, rfl, rfl, rfl, nofun, rfl, rfl, rfl, rfl⟩,
      .overDirect placed .addressed 0 6, rfl, by decide +kernel⟩,
    ⟨⟨rfl, rfl, by decide, rfl, rfl, rfl, nofun, rfl, rfl, rfl, rfl⟩,
      .overSequence counted (some 6) defaultBlock, rfl, by decide +kernel, by decide +kernel⟩,
    ⟨⟨rfl, rfl, by decide, rfl, rfl, rfl, nofun, rfl, rfl, rfl, rfl⟩, _, rfl⟩,
    ⟨⟨rfl, rfl, by decide, rfl, rfl, rfl, nofun, rfl, rfl, rfl, rfl⟩,
      .overSequence device none 9223372036854775808, rfl, by decide +kernel⟩⟩

end Body

end Payload
