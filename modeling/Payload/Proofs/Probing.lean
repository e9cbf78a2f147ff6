import Payload.Proofs.Calls
import Payload.Proofs.Opening

/-!
# What opening asks of a source

Opening asks a source for its size unless a length is declared, then moves it, if it can be moved,
to find where it stands and how far its end is, and last closes it if it has no bytes.
`Opening.Probes` says which of these calls are made, in this order, and what comes of each answer.
A source that moves as it is told is left where it stood.
-/

namespace Payload

variable {σ : Type}

/-- Moving the source inside leaves one entry. -/
theorem Recorded.seek_eq [Source σ] {recorded : Recorded σ} {origin : Origin}
    {answer : Answer Nat} {next : σ}
    (sought : Source.seek origin recorded.source = (answer, next)) :
    Source.seek origin recorded =
      (answer, ⟨next, ⟨.seek origin, .ofAnswer Mark.number answer⟩ :: recorded.entries⟩) := by
  change recorded.after _ _ (Source.seek origin recorded.source) = _
  rw [sought]
  rfl

/-- Asking the source inside for its size leaves one entry. -/
theorem Recorded.size_eq [Source σ] {recorded : Recorded σ} {answer : Answer (Option Nat)}
    {next : σ} (asked : Source.size recorded.source = (answer, next)) :
    Source.size recorded =
      (answer, ⟨next, ⟨.size, .ofAnswer Mark.ofSize answer⟩ :: recorded.entries⟩) := by
  change recorded.after _ _ (Source.size recorded.source) = _
  rw [asked]
  rfl

/-- No read, in sequence or at a position, was made. -/
def Recorded.Unread (recorded : Recorded σ) : Prop :=
  ∀ entry ∈ recorded.entries,
    (∀ want, entry.call ≠ .read want) ∧ ∀ position want, entry.call ≠ .readAt position want

theorem Recorded.Unread.after {α : Type} {recorded : Recorded σ} (unread : recorded.Unread)
    {call : Call} {mark : α → Mark} {step : Answer α × σ}
    (other : (∀ want, call ≠ .read want) ∧ ∀ position want, call ≠ .readAt position want) :
    (recorded.after call mark step).2.Unread := by
  intro entry member
  rcases List.mem_cons.mp member with rfl | old
  · exact other
  · exact unread entry old

namespace Opening

/-! ## Finding where a source stands -/

/-- A call gives no position, so the search for where the source stands ends with it. -/
inductive Stops : Answer Nat → Answer Stand → Prop where
  | failed (fault : Fault) : Stops (.failed fault) (.failed fault)
  | broke : Stops .broke .broke

/-- The moves that find where a source stands and, to measure, how far its end is, and that then go
back: the calls, what they come to and the source as they leave it.  The first call that does not
work is the last one. -/
inductive Finds [Source σ] (source : σ) :
    Bool → List Entry → Answer Stand → σ → Prop where
  | lost {measure : Bool} {answer : Answer Nat} {found : Answer Stand} {next : σ}
      (here : Source.seek (.here 0) source = (answer, next)) (stops : Stops answer found) :
      Finds source measure [⟨.seek (.here 0), .ofAnswer Mark.number answer⟩] found next
  | placed {base : Nat} {next : σ}
      (here : Source.seek (.here 0) source = (.done base, next)) :
      Finds source false [⟨.seek (.here 0), .number base⟩] (.done ⟨base, none⟩) next
  | endless {base : Nat} {answer : Answer Nat} {found : Answer Stand} {first next : σ}
      (here : Source.seek (.here 0) source = (.done base, first))
      (finish : Source.seek (.finish 0) first = (answer, next)) (stops : Stops answer found) :
      Finds source true
        [⟨.seek (.here 0), .number base⟩,
          ⟨.seek (.finish 0), .ofAnswer Mark.number answer⟩] found next
  | astray {base stop : Nat} {answer : Answer Nat} {found : Answer Stand} {first last next : σ}
      (here : Source.seek (.here 0) source = (.done base, first))
      (finish : Source.seek (.finish 0) first = (.done stop, last))
      (back : Source.seek (.start base) last = (answer, next)) (stops : Stops answer found) :
      Finds source true
        [⟨.seek (.here 0), .number base⟩, ⟨.seek (.finish 0), .number stop⟩,
          ⟨.seek (.start base), .ofAnswer Mark.number answer⟩] found next
  | measured {base stop arrived : Nat} {first last next : σ}
      (here : Source.seek (.here 0) source = (.done base, first))
      (finish : Source.seek (.finish 0) first = (.done stop, last))
      (back : Source.seek (.start base) last = (.done arrived, next)) :
      Finds source true
        [⟨.seek (.here 0), .number base⟩, ⟨.seek (.finish 0), .number stop⟩,
          ⟨.seek (.start base), .number arrived⟩] (.done ⟨base, some (stop - base)⟩) next

theorem finds_locate [Source σ] (measure : Bool) (recorded : Recorded σ) :
    ∃ moves,
      (locate measure recorded).2.entries = moves.reverse ++ recorded.entries ∧
        Finds recorded.source measure moves (locate measure recorded).1
          (locate measure recorded).2.source := by
  unfold locate
  rcases here : Source.seek (.here 0) recorded.source with ⟨base | fault | _, first⟩
  · rw [Recorded.seek_eq here, Outcome.andThen_done]
    cases measure with
    | false => exact ⟨_, rfl, .placed here⟩
    | true =>
        rw [if_pos rfl]
        rcases finish : Source.seek (.finish 0) first with ⟨stop | fault | _, last⟩
        · rw [Recorded.seek_eq finish, Outcome.andThen_done]
          rcases back : Source.seek (.start base) last with ⟨arrived | fault | _, next⟩
          · rw [Recorded.seek_eq back, Outcome.andThen_done]
            exact ⟨_, rfl, .measured here finish back⟩
          · rw [Recorded.seek_eq back, Outcome.andThen_failed]
            exact ⟨_, rfl, .astray here finish back (.failed fault)⟩
          · rw [Recorded.seek_eq back, Outcome.andThen_broke]
            exact ⟨_, rfl, .astray here finish back .broke⟩
        · rw [Recorded.seek_eq finish, Outcome.andThen_failed]
          exact ⟨_, rfl, .endless here finish (.failed fault)⟩
        · rw [Recorded.seek_eq finish, Outcome.andThen_broke]
          exact ⟨_, rfl, .endless here finish .broke⟩
  · rw [Recorded.seek_eq here, Outcome.andThen_failed]
    exact ⟨_, rfl, .lost here (.failed fault)⟩
  · rw [Recorded.seek_eq here, Outcome.andThen_broke]
    exact ⟨_, rfl, .lost here .broke⟩

/-! ## Settling on a body -/

/-- What becomes of a source once its length is known or known to be unknown.  One without bytes is
closed at once; any other is left alone, and a body is picked for it. -/
structure Settles [Source σ] (options : Options) (base : Nat) (length : Option Nat) (last : σ)
    (closes : List Entry) (opened : Opening (Recorded σ)) : Prop where
  nothing : length = some 0 →
    closes = [⟨.close, .ofAnswer (fun _ => .fine) (Source.close last).1⟩] ∧
      opened.source.source = (Source.close last).2 ∧
      opened.reply = ((Source.close last).1.map fun _ => .empty).mapFailure fun fault =>
        ⟨.close, .fault fault⟩
  something : length ≠ some 0 →
    closes = [] ∧ opened.source.source = last ∧
      ∃ body, opened.reply = .done body ∧
        Picks opened.source base options.blockSize length body

theorem settle_of_eq_zero [Source σ] {stand : Stand} (nothing : stand.length = some 0)
    (options : Options) (notes : List Note) (source : σ) :
    (settle options stand notes source).source = (Source.close source).2 ∧
      (settle options stand notes source).reply =
        ((Source.close source).1.map fun _ => .empty).mapFailure fun fault =>
          ⟨.close, .fault fault⟩ := by
  simp only [settle, nothing, true_and]
  cases (Source.close source).1 <;> rfl

theorem settles_settle [Source σ] (options : Options) (stand : Stand) (notes : List Note)
    (recorded : Recorded σ) :
    ∃ closes,
      (settle options stand notes recorded).source.entries =
          closes.reverse ++ recorded.entries ∧
        Settles options stand.base stand.length recorded.source closes
          (settle options stand notes recorded) := by
  by_cases nothing : stand.length = some 0
  · obtain ⟨left, reply⟩ := settle_of_eq_zero nothing options notes recorded
    exact ⟨[⟨.close, .ofAnswer (fun _ => .fine) (Source.close recorded.source).1⟩],
      congrArg Recorded.entries left, fun _ => ⟨rfl, congrArg Recorded.source left, reply⟩,
      absurd nothing⟩
  · obtain ⟨body, made, picks⟩ :=
      exists_picks options stand notes recorded fun empty => absurd empty nothing
    have kept := source_settle_of_ne nothing options notes recorded
    exact ⟨[], congrArg Recorded.entries kept, fun empty => absurd empty nothing,
      fun _ => ⟨rfl, congrArg Recorded.source kept, body, made, kept.symm ▸ picks⟩⟩

/-- How opening goes on after the search for where a source stands. -/
inductive Resumes [Source σ] (options : Options) (size : Option Nat) (last : σ)
    (closes : List Entry) (opened : Opening (Recorded σ)) : Answer Stand → Prop where
  /-- The length is counted from where the source stands. -/
  | found {stand : Stand}
      (settles : Settles options stand.base
        (options.length <|> stand.length <|> size.map (· - stand.base)) last closes opened) :
      Resumes options size last closes opened (.done stand)
  /-- A declared length is counted from the start. -/
  | declared {fault : Fault} (told : options.length.isSome)
      (settles : Settles options 0 options.length last closes opened) :
      Resumes options size last closes opened (.failed fault)
  | lost {fault : Fault} (untold : options.length = none) (unclosed : closes = [])
      (left : opened.source.source = last)
      (reply : opened.reply = .failed ⟨.probeSeek, .fault fault⟩) :
      Resumes options size last closes opened (.failed fault)
  | broke (unclosed : closes = []) (left : opened.source.source = last)
      (reply : opened.reply = .broke) : Resumes options size last closes opened .broke

/-- What becomes of a source that reports this size, if it reports one. -/
structure Places [Source σ] (options : Options) (size : Option Nat) (source : σ)
    (moves closes : List Entry) (opened : Opening (Recorded σ)) : Prop where
  /-- A source that cannot be moved has its length counted from its start. -/
  unmoved : Source.seekable source = false →
    moves = [] ∧ Settles options 0 (options.length <|> size) source closes opened
  /-- Only where there is no other length is the source measured. -/
  moved : Source.seekable source = true → ∃ found last,
    Finds source (options.length.isNone && size.isNone) moves found last ∧
      Resumes options size last closes opened found

theorem resumes_place [Source σ] {options : Options} {size : Option Nat} {recorded : Recorded σ}
    (seekable : Source.seekable recorded = true) {found : Answer Stand} {next : Recorded σ}
    (located : locate (options.length.isNone && size.isNone) recorded = (found, next)) :
    ∃ closes,
      (place options size recorded).source.entries = closes.reverse ++ next.entries ∧
        Resumes options size next.source closes (place options size recorded) found := by
  unfold place
  rw [if_pos seekable, located]
  rcases found with stand | fault | _
  · obtain ⟨closes, closed, settles⟩ := settles_settle options
      ⟨stand.base, lengthFrom stand.base options.length stand.length size⟩
      (if stand.length.isSome then [.measured stand.base] else []) next
    exact ⟨closes, closed, .found settles⟩
  · dsimp only
    split
    · rename_i told
      obtain ⟨closes, closed, settles⟩ := settles_settle options ⟨0, options.length⟩
        [.positionUnknown fault] next
      exact ⟨closes, closed, .declared told settles⟩
    · rename_i untold
      exact ⟨[], rfl, .lost (by simpa using untold) rfl rfl rfl⟩
  · exact ⟨[], rfl, .broke rfl rfl rfl⟩

theorem places_place [Source σ] (options : Options) (size : Option Nat) (recorded : Recorded σ) :
    ∃ moves closes,
      (place options size recorded).source.entries =
          closes.reverse ++ (moves.reverse ++ recorded.entries) ∧
        Places options size recorded.source moves closes (place options size recorded) := by
  by_cases seekable : Source.seekable recorded.source = true
  · obtain ⟨moves, entries, finds⟩ :=
      finds_locate (options.length.isNone && size.isNone) recorded
    rcases located : locate (options.length.isNone && size.isNone) recorded with ⟨found, next⟩
    rw [located] at entries finds
    obtain ⟨closes, closed, resumes⟩ := resumes_place seekable located
    refine ⟨moves, closes, closed.trans (congrArg (closes.reverse ++ ·) entries),
      fun unseekable => ?_, fun _ => ⟨found, next.source, finds, resumes⟩⟩
    rw [seekable] at unseekable
    cases unseekable
  · have length_eq : lengthFrom 0 options.length none size = (options.length <|> size) := by
      cases options.length <;> cases size <;> rfl
    have straight : place options size recorded =
        settle options ⟨0, options.length <|> size⟩ [] recorded := by
      rw [← length_eq]
      exact if_neg seekable
    obtain ⟨closes, closed, settles⟩ :=
      settles_settle options ⟨0, options.length <|> size⟩ [] recorded
    rw [straight]
    exact ⟨[], closes, closed, fun _ => ⟨rfl, settles⟩, fun movable => absurd movable seekable⟩

/-! ## The whole of it -/

/-- What opening asks of a source, whatever each call answers, and what comes of it. -/
structure Probes [Source σ] (source : σ) (options : Options) (sizes moves closes : List Entry)
    (opened : Opening (Recorded σ)) : Prop where
  /-- These are all the calls, in this order. -/
  calls : opened.source.calls = sizes ++ moves ++ closes
  unread : opened.source.Unread
  /-- A source is asked for its size once, or never where a length is declared. -/
  sizes : sizes =
    if options.length.isSome then [] else [⟨.size, .ofAnswer Mark.ofSize (Source.size source).1⟩]
  /-- A source that fails to tell its size is neither moved nor closed. -/
  unsized : options.length = none → ∀ fault, (Source.size source).1 = .failed fault →
    moves = [] ∧ closes = [] ∧ opened.source.source = (Source.size source).2 ∧
      opened.reply = .failed ⟨.probeSize, .fault fault⟩
  broke : options.length = none → (Source.size source).1 = .broke →
    moves = [] ∧ closes = [] ∧ opened.source.source = (Source.size source).2 ∧
      opened.reply = .broke
  sized : ∀ size asked, reported options.length source = (.done size, asked) →
    Places options size asked moves closes opened

/-- Neither asking for the size nor moving nor closing is reading. -/
theorem keeps_unread [Source σ] : Keeps (Recorded.Unread : Recorded σ → Prop) where
  size _ unread := unread.after (by simp)
  seek _ _ unread := unread.after (by simp)
  close _ unread := unread.after (by simp)

/-- The size that was told, declared or reported, is what opening goes on with. -/
theorem probes_of_reported [Source σ] {source asked : σ} {options : Options} {size : Option Nat}
    {sizes : List Entry} (told : reported options.length source = (.done size, asked))
    (noted : reported options.length (⟨source, []⟩ : Recorded σ) =
      (.done size, ⟨asked, sizes.reverse⟩))
    (sizes_eq : sizes = if options.length.isSome then []
      else [⟨.size, .ofAnswer Mark.ofSize (Source.size source).1⟩]) :
    ∃ moves closes, Probes source options sizes moves closes
      (Body.open (⟨source, []⟩ : Recorded σ) options) := by
  have opens : Body.open (⟨source, []⟩ : Recorded σ) options =
      place options size ⟨asked, sizes.reverse⟩ := by
    unfold Body.open
    rw [noted]
  obtain ⟨moves, closes, entries, places⟩ := places_place options size ⟨asked, sizes.reverse⟩
  refine ⟨moves, closes, ?_⟩
  constructor
  case calls =>
    rw [opens, Recorded.calls, entries]
    simp
  case unread => exact keeps_unread.opened (by rintro _ ⟨⟩) options
  case sizes => exact sizes_eq
  case unsized =>
    intro undeclared fault fails
    rw [undeclared] at told
    cases fails.symm.trans (congrArg Prod.fst told)
  case broke =>
    intro undeclared breaks
    rw [undeclared] at told
    cases breaks.symm.trans (congrArg Prod.fst told)
  case sized =>
    intro other last again
    obtain ⟨rfl, rfl⟩ : size = other ∧ asked = last := by
      simpa using told.symm.trans again
    rw [opens]
    exact places

/-- Without an answer about its size nothing else is done with a source. -/
theorem probes_of_unsized [Source σ] {source next : σ} {options : Options}
    (undeclared : options.length = none) {answer : Answer (Option Nat)}
    {reply : Reply (Body (Recorded σ))} (asks : Source.size source = (answer, next))
    (opens : Body.open (⟨source, []⟩ : Recorded σ) options =
      { reply, source := ⟨next, [⟨.size, .ofAnswer Mark.ofSize answer⟩]⟩ })
    (silent : ∀ size, answer ≠ .done size)
    (failed : ∀ fault, answer = .failed fault → reply = .failed ⟨.probeSize, .fault fault⟩)
    (broke : answer = .broke → reply = .broke) :
    Probes source options [⟨.size, .ofAnswer Mark.ofSize answer⟩] [] []
      (Body.open (⟨source, []⟩ : Recorded σ) options) := by
  have unread : (Body.open (⟨source, []⟩ : Recorded σ) options).source.Unread :=
    keeps_unread.opened (by rintro _ ⟨⟩) options
  rw [opens] at unread ⊢
  constructor
  case calls => rfl
  case unread => exact unread
  case sizes => rw [undeclared, asks, Option.isSome_none, if_neg Bool.false_ne_true]
  case unsized =>
    intro _ fault fails
    rw [asks] at fails ⊢
    exact ⟨rfl, rfl, rfl, failed fault fails⟩
  case broke =>
    intro _ breaks
    rw [asks] at breaks ⊢
    exact ⟨rfl, rfl, rfl, broke breaks⟩
  case sized =>
    intro size last told
    rw [undeclared] at told
    exact absurd (congrArg Prod.fst (asks.symm.trans told)) (silent size)

theorem exists_probes [Source σ] (source : σ) (options : Options) :
    ∃ sizes moves closes, Probes source options sizes moves closes
      (Body.open (⟨source, []⟩ : Recorded σ) options) := by
  cases declared : options.length with
  | some length =>
      have told : reported options.length source = (.done none, source) := by
        rw [declared]
        rfl
      have noted : reported options.length (⟨source, []⟩ : Recorded σ) =
          (.done none, ⟨source, []⟩) := by
        rw [declared]
        rfl
      exact ⟨[], probes_of_reported told noted (by simp [declared])⟩
  | none =>
      rcases asks : Source.size source with ⟨answer, next⟩
      have noted : reported options.length (⟨source, []⟩ : Recorded σ) =
          (answer, ⟨next, [⟨.size, .ofAnswer Mark.ofSize answer⟩]⟩) := by
        rw [declared]
        exact Recorded.size_eq asks
      refine ⟨[⟨.size, .ofAnswer Mark.ofSize answer⟩], ?_⟩
      cases answer with
      | done size =>
          have told : reported options.length source = (.done size, next) := by
            rw [declared]
            exact asks
          exact probes_of_reported told noted (by simp [declared, asks])
      | failed fault =>
          refine ⟨[], [], probes_of_unsized declared asks (by rw [Body.open, noted])
            (by rintro _ ⟨⟩) ?_ (by rintro ⟨⟩)⟩
          rintro _ ⟨⟩
          rfl
      | broke =>
          exact ⟨[], [], probes_of_unsized declared asks (by rw [Body.open, noted])
            (by rintro _ ⟨⟩) (by rintro _ ⟨⟩) fun _ => rfl⟩

end Opening

/-! ## Where the source is left -/

/-- Sources that move as they are told, with their end at `stop`; `stands` says where one stands.
Asking for the size moves none. -/
structure Source.Obedient [Source σ] (stop : Nat) (stands : Nat → σ → Prop) : Prop where
  size : ∀ {position source}, stands position source → stands position (Source.size source).2
  here : ∀ {position source}, stands position source →
    ∃ next, Source.seek (.here 0) source = (.done position, next) ∧ stands position next
  finish : ∀ {position source}, stands position source →
    ∃ next, Source.seek (.finish 0) source = (.done stop, next) ∧ stands stop next
  /-- To a place where one has stood before. -/
  back : ∀ {goal position earlier source}, stands goal earlier → stands position source →
    ∃ next, Source.seek (.start goal) source = (.done goal, next) ∧ stands goal next

theorem Source.Honest.obedient [Source σ] {offer : Source.Offer} {data : List UInt8}
    {stands : Nat → σ → Prop} (honest : Source.Honest offer data stands)
    (seekable : offer.seekable = true) : Source.Obedient data.length stands where
  size there := by
    obtain ⟨next, asked, stays⟩ := honest.size there
    rwa [asked]
  here there := honest.seek seekable (.here 0) there (honest.inside there) (Int.add_zero _)
  finish there := honest.seek seekable (.finish 0) there (Nat.le_refl _) (Int.add_zero _)
  back {goal} _ _ _ before there :=
    honest.seek seekable (.start goal) there (honest.inside before) rfl

namespace Opening

variable [Source σ] {stop position : Nat} {stands : Nat → σ → Prop} {source : σ}

/-- An obedient source is found where it stands, measured to its end, and left in place. -/
theorem Finds.of_obedient {measure : Bool} {moves : List Entry} {found : Answer Stand} {last : σ}
    (finds : Finds source measure moves found last) (obedient : Source.Obedient stop stands)
    (there : stands position source) :
    found = .done ⟨position, if measure then some (stop - position) else none⟩ ∧
      stands position last := by
  obtain ⟨first, tells, stays⟩ := obedient.here there
  obtain ⟨far, ends, arrived⟩ := obedient.finish stays
  obtain ⟨home, returns, returned⟩ := obedient.back there arrived
  cases finds with
  | lost here stops =>
      obtain ⟨rfl, -⟩ := Prod.mk.inj (tells.symm.trans here)
      cases stops
  | placed here =>
      cases tells.symm.trans here
      exact ⟨rfl, stays⟩
  | endless here finish stops =>
      cases tells.symm.trans here
      obtain ⟨rfl, -⟩ := Prod.mk.inj (ends.symm.trans finish)
      cases stops
  | astray here finish back stops =>
      cases tells.symm.trans here
      cases ends.symm.trans finish
      obtain ⟨rfl, -⟩ := Prod.mk.inj (returns.symm.trans back)
      cases stops
  | measured here finish back =>
      cases tells.symm.trans here
      cases ends.symm.trans finish
      cases returns.symm.trans back
      exact ⟨rfl, returned⟩

/-- The source is left in such a state, but for being closed. -/
inductive Leaves [Source σ] (good : σ → Prop) (closes : List Entry)
    (opened : Opening (Recorded σ)) : Prop where
  | unclosed (none : closes = []) (stays : good opened.source.source)
  | closed {last : σ} (stays : good last) (some : closes ≠ [])
      (closes : opened.source.source = (Source.close last).2)

variable {options : Options} {length : Option Nat} {base : Nat} {good : σ → Prop} {last : σ}
  {sizes moves closes : List Entry} {opened : Opening (Recorded σ)}

theorem Settles.leaves (settles : Settles options base length last closes opened)
    (stays : good last) : Leaves good closes opened := by
  by_cases empty : length = some 0
  · obtain ⟨once, closed, -⟩ := settles.nothing empty
    exact .closed stays (by simp [once]) closed
  · obtain ⟨none, kept, -⟩ := settles.something empty
    exact .unclosed none (kept.symm ▸ stays)

theorem Resumes.leaves {size : Option Nat} {found : Answer Stand}
    (resumes : Resumes options size last closes opened found) (stays : good last) :
    Leaves good closes opened := by
  cases resumes with
  | found settles => exact settles.leaves stays
  | declared told settles => exact settles.leaves stays
  | lost untold unclosed left => exact .unclosed unclosed (left.symm ▸ stays)
  | broke unclosed left => exact .unclosed unclosed (left.symm ▸ stays)

theorem Places.leaves {size : Option Nat} (places : Places options size source moves closes opened)
    (obedient : Source.Obedient stop stands) (there : stands position source) :
    Leaves (stands position) closes opened := by
  by_cases seekable : Source.seekable source = true
  · obtain ⟨found, last, finds, resumes⟩ := places.moved seekable
    exact resumes.leaves (finds.of_obedient obedient there).2
  · obtain ⟨-, settles⟩ := places.unmoved (by simpa using seekable)
    exact settles.leaves there

/-- Opening leaves an obedient source where it stood, whatever comes of it. -/
theorem Probes.leaves (probes : Probes source options sizes moves closes opened)
    (obedient : Source.Obedient stop stands) (there : stands position source) :
    Leaves (stands position) closes opened := by
  cases declared : options.length with
  | some length =>
      have told : reported options.length source = (.done none, source) := by
        rw [declared]
        rfl
      exact (probes.sized none source told).leaves obedient there
  | none =>
      have stays := obedient.size there
      cases answer : (Source.size source).1 with
      | done size =>
          have told : reported options.length source = (.done size, (Source.size source).2) := by
            rw [declared, ← answer]
            rfl
          exact (probes.sized size _ told).leaves obedient stays
      | failed fault =>
          obtain ⟨-, none, left, -⟩ := probes.unsized declared fault answer
          exact .unclosed none (left.symm ▸ stays)
      | broke =>
          obtain ⟨-, none, left, -⟩ := probes.broke declared answer
          exact .unclosed none (left.symm ▸ stays)

end Opening

/-- Opening asks a source for its size once, or never if a length is declared.  It moves no source
that cannot be moved, asks one that can where it stands, and has it go to its end and back only
where there is no other length; the first of these moves that fails is the last one.  It closes
those without bytes, once, and no others, and it reads none.  What each answer leads to is the body
or the error that `Opening.Probes` says, and a source that moves as it is told is left where it
stood. -/
theorem Body.open_probes [Source σ] (source : σ) (options : Options) :
    let opened := Body.open (⟨source, []⟩ : Recorded σ) options
    ∃ sizes moves closes, Opening.Probes source options sizes moves closes opened ∧
      ∀ (stop : Nat) (stands : Nat → σ → Prop) (position : Nat),
        Source.Obedient stop stands → stands position source →
          Opening.Leaves (stands position) closes opened := by
  intro opened
  obtain ⟨sizes, moves, closes, probes⟩ := Opening.exists_probes source options
  exact ⟨sizes, moves, closes, probes, fun stop stands position => probes.leaves⟩

/-- A device in the middle of its content, measured and left there. -/
theorem Body.open_probes_of_halfway :
    let device : Device := { content := ⟨#[1, 2, 3, 4, 5, 6]⟩, position := 2, seekable := true }
    let opened := Body.open (⟨device, []⟩ : Recorded Device) {}
    opened.source.calls =
        [⟨.size, .nothing⟩, ⟨.seek (.here 0), .number 2⟩, ⟨.seek (.finish 0), .number 6⟩,
          ⟨.seek (.start 2), .number 2⟩] ∧
      opened.source.source.position = 2 ∧
      opened.reply = .done (.overDirect opened.source .seeking 2 4) := by
  intro device opened
  have steady : Device.Steady ⟨false, true, false⟩ .works [1, 2, 3, 4, 5, 6] 2 device :=
    ⟨rfl, rfl, by decide, rfl, rfl, rfl, by rintro ⟨⟩, rfl, rfl, rfl, rfl⟩
  have honest : Source.Honest ⟨false, true, false⟩ [1, 2, 3, 4, 5, 6]
      (Device.Steady ⟨false, true, false⟩ .works [1, 2, 3, 4, 5, 6]) :=
    Device.honest_steady _ _ (by decide)
  obtain ⟨sizes, moves, closes, -, stays⟩ := Body.open_probes device {}
  refine ⟨rfl, ?_, rfl⟩
  cases stays _ _ 2 (honest.obedient rfl) steady with
  | unclosed none there => exact there.stands
  | closed there some left =>
      rw [left]
      exact there.stands

end Payload
