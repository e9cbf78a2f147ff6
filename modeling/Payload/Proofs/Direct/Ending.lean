import Payload.Proofs.Direct.Fidelity

/-!
# Where the end of a direct body shows

A direct body keeps no end of its own: a copy comes to the end with its last byte, or with a read to
which the source answers that there is nothing, wherever that is.  It takes the source at its word,
and the length it was opened with is only where it stops asking.
-/

namespace Payload.Direct

open Buffered (handed handedAll)

variable {σ τ : Type} [Source σ] [Sink τ]

/-! ## What is heard -/

/-- No question is refused with the end. -/
theorem cause_of_ask {direct next : Direct σ} {operation : Operation} {want position : Nat}
    {error : Error} (asked : direct.ask operation want position = (.failed error, next)) :
    error.cause ≠ .endOfStream := by
  have asks := asks operation want position direct
  rw [asked] at asks
  cases asks <;> nofun

theorem heard_of_ask {direct next : Direct (Overheard σ)} {operation : Operation}
    {want position : Nat} {reading : Reading want}
    (asked : direct.ask operation want position = (.done reading, next)) :
    next.custody.source.answers.head? = some (reading.map Transfer.count) := by
  have asks := asks operation want position direct
  generalize direct.ask operation want position = out at asks asked
  cases asks with
  | addressed =>
      cases asked
      rfl
  | moved =>
      cases asked
      rfl
  | _ => cases asked

theorem settles_fetch (direct : Direct σ) (operation : Operation) (buffer : Buffer)
    (want offset : Nat) :
    (∃ fault, direct.fetch operation buffer want offset =
        (.failed ⟨operation, .fault fault⟩, direct)) ∨
      ∃ left last, Settles operation buffer want (direct.base + offset) left last
        (direct.fetch operation buffer want offset) := by
  have anything : ∀ direct : Direct σ, True := fun _ => trivial
  rcases fetch_rule operation buffer want offset (fun _ _ next _ _ _ => anything next)
      (anything direct) with far | ⟨left, last, -, settles⟩
  · exact Or.inl far
  · exact Or.inr ⟨left, last, settles⟩

/-- Fetching never fails with the end, and bytes that it gives fit. -/
theorem of_fetch (direct : Direct σ) (operation : Operation) (buffer : Buffer) (want offset : Nat) :
    (∀ error, (direct.fetch operation buffer want offset).1 = .failed error →
      error.cause ≠ .endOfStream) ∧
    ∀ bytes, (direct.fetch operation buffer want offset).1 = .done bytes → bytes.size ≤ want := by
  rcases direct.settles_fetch operation buffer want offset with ⟨fault, far⟩ | ⟨_, _, settles⟩
  · rw [far]
    refine ⟨fun error failed => ?_, nofun⟩
    cases failed
    nofun
  · generalize direct.fetch operation buffer want offset = out at settles ⊢
    refine ⟨fun error failed => ?_, fun bytes done => ?_⟩
    · cases settles with
      | failed =>
          cases failed
          nofun
      | refused asked =>
          cases failed
          exact cause_of_ask asked
      | _ => cases failed
    · cases settles with
      | gave asked received =>
          cases done
          exact Transfer.size_le_of_received?_eq_some buffer.size_front received
      | _ => cases done

/-- Bytes that are fetched are as many as the source was last heard to give. -/
theorem heard_of_fetch {direct next : Direct (Overheard σ)} {operation : Operation}
    {buffer : Buffer} {want offset : Nat} {bytes : ByteArray}
    (fetched : direct.fetch operation buffer want offset = (.done bytes, next)) :
    next.custody.source.answers.head? = some (.done bytes.size) := by
  rcases direct.settles_fetch operation buffer want offset with ⟨fault, far⟩ | ⟨_, _, settles⟩
  · cases far.symm.trans fetched
  · rw [fetched] at settles
    cases settles with
    | gave asked received =>
        rw [heard_of_ask asked, Transfer.size_of_received?_eq_some buffer.size_front received]
        rfl

/-- A question that is refused goes unheard. -/
theorem answers_of_refused {direct next : Direct (Overheard σ)} {operation : Operation}
    {want position : Nat} {reply : Reply (Reading want)}
    (asked : direct.ask operation want position = (reply, next))
    (refused : ∀ reading, reply ≠ .done reading) :
    next.custody.source.answers = direct.custody.source.answers := by
  have asks := asks operation want position direct
  rw [asked] at asks
  cases asks with
  | poisoned => rfl
  | released => rfl
  | unsupported => rfl
  | addressed => exact absurd rfl (refused _)
  | stuck sound held access sought =>
      exact congrArg (fun step : Answer Nat × Overheard σ => step.2.answers) sought.symm
  | lost sound held access sought =>
      exact congrArg (fun step : Answer Nat × Overheard σ => step.2.answers) sought.symm
  | moved => exact absurd rfl (refused _)

/-- Where fetching hears that there is nothing, it gives nothing and does not fail. -/
theorem fetch_of_dry (direct : Direct (Overheard σ)) (operation : Operation) (buffer : Buffer)
    (want offset : Nat) :
    (direct.fetch operation buffer want offset).2.custody.source.answers =
        direct.custody.source.answers ∨
      ((direct.fetch operation buffer want offset).2.custody.source.Dry →
        ∃ bytes, (direct.fetch operation buffer want offset).1 = .done bytes ∧ bytes.size = 0) := by
  rcases fetch_rule operation buffer want offset
      (I := fun current : Direct (Overheard σ) =>
        current.custody.source.answers = direct.custody.source.answers ∨
          ¬current.custody.source.Dry)
      (fun current fault next _ asked _ => Or.inr fun dry => by
        cases (heard_of_ask asked).symm.trans dry)
      (Or.inl rfl) with ⟨fault, far⟩ | ⟨left, last, kept, settles⟩
  · exact Or.inl (by rw [far])
  · generalize direct.fetch operation buffer want offset = out at settles ⊢
    have spoken {reading : Reading want} {next : Direct (Overheard σ)}
        (asked : last.ask operation want (direct.base + offset) = (.done reading, next))
        (dry : next.custody.source.Dry) : reading.map Transfer.count = .done 0 :=
      Option.some.inj ((heard_of_ask asked).symm.trans dry)
    have unheard {reply : Reply (Reading want)} {next : Direct (Overheard σ)}
        (asked : last.ask operation want (direct.base + offset) = (reply, next))
        (refused : ∀ reading, reply ≠ .done reading) {result : Prop} :
        next.custody.source.answers = direct.custody.source.answers ∨
          (next.custody.source.Dry → result) := by
      have same := answers_of_refused asked refused
      rw [Overheard.Dry, same]
      exact kept.imp_right fun wet dry => absurd dry wet
    cases settles with
    | exhausted => exact kept.imp_right fun wet dry => absurd dry wet
    | gave asked received =>
        refine Or.inr fun dry => ⟨_, rfl, ?_⟩
        rw [Transfer.size_of_received?_eq_some buffer.size_front received]
        exact Outcome.done.inj (spoken asked dry)
    | absurd asked excess =>
        refine Or.inr fun dry => ?_
        rw [Outcome.done.inj (spoken asked dry)] at excess
        exact absurd excess (Nat.not_lt_zero want)
    | failed asked => exact Or.inr fun dry => by cases spoken asked dry
    | broke asked => exact Or.inr fun dry => by cases spoken asked dry
    | refused asked => exact unheard asked nofun
    | lost asked => exact unheard asked nofun

/-! ## How a copy stands -/

/-- A copy within the body, whose end shows only at the end of it or because of this. -/
structure Stands (length : Nat) (because : Prop) (cursor : Cursor) : Prop where
  within : cursor.offset ≤ length
  ended : cursor.ended = true → cursor.offset = length ∨ because

section

variable {direct : Direct (Overheard σ)} {buffer : Buffer} {cursor : Cursor}
  {turn : Turn (Direct (Overheard σ)) Cursor ByteArray} {because : Prop}

omit [Source σ] in
theorem Stands.mono {length : Nat} {wider : Prop} (stands : Stands length because cursor)
    (further : because → wider) : Stands length wider cursor where
  within := stands.within
  ended met := (stands.ended met).imp_right further

/-- A read brings a copy to the end with its last byte, or where the source gives nothing. -/
theorem Reads.stands (reads : Reads buffer direct cursor turn)
    (stands : Stands direct.length (because ∨ direct.custody.source.Dry) cursor) :
    Stands direct.length (because ∨ turn.record.custody.source.Dry) turn.cursor := by
  have unmet {other : Cursor} (going : other.ended = false)
      (within : other.offset ≤ direct.length) :
      Stands direct.length (because ∨ turn.record.custody.source.Dry) other :=
    ⟨within, fun met => by cases going.symm.trans met⟩
  cases reads with
  | ended => exact stands
  | nothing going => exact unmet going stands.within
  | past going asks past =>
      exact ⟨stands.within, fun _ => Or.inl (Nat.le_antisymm stands.within past)⟩
  | dry going asks within fetched nothing =>
      refine ⟨stands.within, fun _ => Or.inr (Or.inr ?_)⟩
      have heard := heard_of_fetch fetched
      rwa [nothing] at heard
  | @gave bytes next going asks within fetched =>
      have fits := (direct.of_fetch _ _ _ _).2 bytes (congrArg Prod.fst fetched)
      refine ⟨by dsimp only; omega, fun met => Or.inl ?_⟩
      simp only [Bool.and_eq_true, decide_eq_true_eq, beq_iff_eq] at met
      dsimp only
      omega
  | failed going => exact unmet going stands.within
  | broke going => exact unmet going stands.within

end

/-- A read that reports the end leaves the copy there, where it was. -/
theorem Reads.met {direct : Direct σ} {buffer : Buffer} {cursor : Cursor}
    {turn : Turn (Direct σ) Cursor ByteArray} (reads : Reads buffer direct cursor turn)
    (ends : turn.reply = .failed ⟨.read, .endOfStream⟩) :
    turn.cursor.ended = true ∧ turn.cursor.offset = cursor.offset := by
  cases reads with
  | ended met => exact ⟨met, rfl⟩
  | nothing => cases ends
  | past => exact ⟨rfl, rfl⟩
  | dry => exact ⟨rfl, rfl⟩
  | gave => cases ends
  | failed going asks within fetched =>
      cases ends
      exact absurd rfl ((direct.of_fetch _ _ _ _).1 _ (congrArg Prod.fst fetched))
  | broke => cases ends

/-- Where a read hears that there is nothing, it reports the end. -/
theorem Reads.ends_of_dry {direct : Direct (Overheard σ)} {buffer : Buffer} {cursor : Cursor}
    {turn : Turn (Direct (Overheard σ)) Cursor ByteArray} (reads : Reads buffer direct cursor turn)
    (asked : turn.record.custody.source.answers ≠ direct.custody.source.answers)
    (dry : turn.record.custody.source.Dry) : turn.reply = .failed ⟨.read, .endOfStream⟩ := by
  have heard := direct.fetch_of_dry .read buffer (min buffer.size (direct.length - cursor.offset))
    cursor.offset
  have nothing {reply : Reply ByteArray} {next : Direct (Overheard σ)}
      (fetched : direct.fetch .read buffer (min buffer.size (direct.length - cursor.offset))
        cursor.offset = (reply, next))
      (asked : next.custody.source.answers ≠ direct.custody.source.answers)
      (dry : next.custody.source.Dry) : ∃ bytes, reply = .done bytes ∧ bytes.size = 0 := by
    rw [fetched] at heard
    exact heard.resolve_left asked dry
  cases reads with
  | ended => rfl
  | nothing => exact absurd rfl asked
  | past => rfl
  | dry => rfl
  | gave going asks within fetched some_bytes =>
      obtain ⟨bytes, done, empty⟩ := nothing fetched asked dry
      cases done
      exact absurd empty some_bytes
  | failed going asks within fetched =>
      obtain ⟨bytes, done, -⟩ := nothing fetched asked dry
      cases done
  | broke going asks within fetched =>
      obtain ⟨bytes, done, -⟩ := nothing fetched asked dry
      cases done

/-- A read that gives bytes moves the copy past them. -/
theorem Reads.offset_eq {direct : Direct σ} {buffer : Buffer} {cursor : Cursor}
    {turn : Turn (Direct σ) Cursor ByteArray} (reads : Reads buffer direct cursor turn)
    {bytes : ByteArray} (done : turn.reply = .done bytes) :
    turn.cursor.offset = cursor.offset + bytes.size := by
  cases reads with
  | nothing =>
      cases done
      rfl
  | gave =>
      cases done
      rfl
  | _ => cases done

/-! ## How far a copy comes -/

theorem remaining_of_going {direct : Direct σ} {cursor : Cursor} (going : cursor.ended = false) :
    (engine σ).remaining direct cursor = some (direct.length - cursor.offset) := by
  change some (cursor.remaining direct.length) = _
  rw [Cursor.remaining, going]
  rfl

/-- A copy that has something left has not come to the end. -/
theorem going_of_remaining {direct : Direct σ} {cursor : Cursor} {left : Nat}
    (known : (engine σ).remaining direct cursor = some left) (some_left : left ≠ 0) :
    cursor.ended = false ∧ direct.length - cursor.offset = left := by
  cases going : cursor.ended with
  | false =>
      rw [remaining_of_going going] at known
      exact ⟨rfl, Option.some.inj known⟩
  | true =>
      change some (cursor.remaining direct.length) = _ at known
      rw [Cursor.remaining, if_pos going] at known
      exact absurd (Option.some.inj known).symm some_left

section

variable {willing : τ → Prop} {content : τ → List UInt8} {pool : Pool (engine σ)} {index : Nat}
  {cursor current : Cursor}

/-- Reading a copy out moves it by as many bytes as the sink has then taken. -/
theorem offset_writeTo (sinks : Sink.Willing willing content) {sink : τ} (ready : willing sink)
    (direct : Direct σ) (cursor : Cursor) :
    (writeTo sink direct cursor).1.cursor.offset = cursor.offset +
      ((content (writeTo sink direct cursor).2).drop (content sink).length).length :=
  pump_moves sinks read Cursor.offset (I := fun _ _ => True) (fun _ _ _ _ => trivial)
    (fun buffer direct cursor _ _ done => (reads buffer direct cursor).offset_eq done)
    (fun buffer direct cursor _ idle => (reads buffer direct cursor).offset_of_idle idle)
    _ ready trivial

/-- A use moves a copy by as many bytes as it hands to it, unless it is a seek of it. -/
theorem offset_use (sinks : Sink.Willing willing content) (found : pool.cursor? index = some cursor)
    {use : Use σ τ} (pours : use.Pours willing) (unmoved : ¬Sought index use (pool.use use).1)
    (there : (pool.use use).2.cursor? index = some current) :
    current.offset = cursor.offset + (handed content index use (pool.use use).1).length := by
  cases moves_use found use with
  | read buffer asked =>
      subst asked
      have acted := Pool.act_of_open found .read ((engine σ).read buffer)
      have reads := reads buffer pool.record cursor
      change (pool.read index buffer).state.cursor? index = some current at there
      change _ = _ + (handed content index (.read index buffer : Use σ τ)
        (.bytes (pool.read index buffer).reply)).length
      rw [Pool.read, acted.2, Pool.cursor?_put_self found] at there
      rw [Pool.read, acted.1]
      cases there
      change (pool.record.read buffer cursor).cursor.offset = _ +
        (handed content index (.read index buffer : Use σ τ)
          (.bytes (pool.record.read buffer cursor).reply)).length
      cases reply : (pool.record.read buffer cursor).reply with
      | done bytes =>
          rw [reads.offset_eq reply]
          simp [handed]
      | failed error => exact reads.offset_of_idle fun _ done => by cases reply.symm.trans done
      | broke => exact reads.offset_of_idle fun _ done => by cases reply.symm.trans done
  | readOut sink asked =>
      subst asked
      have acted := Pool.writeTo_of_open found sink
      change (pool.writeTo index sink).1.state.cursor? index = some current at there
      change _ = _ + (handed content index (.writeTo index sink : Use σ τ)
        (.written (pool.writeTo index sink).1.reply (pool.writeTo index sink).2)).length
      rw [acted.2.1, Pool.cursor?_put_self found] at there
      rw [acted.2.2]
      cases there
      simp only [handed, if_true]
      exact offset_writeTo sinks pours pool.record cursor
  | sought position sought => exact absurd sought unmoved
  | idle nothing left =>
      rw [nothing, left current there]
      rfl

end

/-! ## Every run -/

section

variable {willing : τ → Prop} {content : τ → List UInt8} {pool : Pool (engine (Overheard σ))}
  {index : Nat} {cursor current : Cursor} {because : Prop}

/-- In this run the copy was read to where the source gave nothing. -/
def Dries (pool : Pool (engine (Overheard σ))) (index : Nat) (uses : List (Use (Overheard σ) τ)) :
    Prop :=
  ∃ before use after, uses = before ++ use :: after ∧ use.index = index ∧
    ((pool.afterRun before).use use).2.record.custody.source.Dry

theorem Dries.now {use : Use (Overheard σ) τ} (rest : List (Use (Overheard σ) τ))
    (dry : use.index = index ∧ (pool.use use).2.record.custody.source.Dry) :
    Dries pool index (use :: rest) :=
  ⟨[], use, rest, rfl, dry⟩

theorem Dries.later {use : Use (Overheard σ) τ} {rest : List (Use (Overheard σ) τ)}
    (dries : Dries (pool.use use).2 index rest) : Dries pool index (use :: rest) := by
  obtain ⟨before, other, after, rfl, dry⟩ := dries
  exact ⟨use :: before, other, after, rfl, dry⟩

theorem Dries.append {uses : List (Use (Overheard σ) τ)} (dries : Dries pool index uses)
    (rest : List (Use (Overheard σ) τ)) : Dries pool index (uses ++ rest) := by
  obtain ⟨before, other, after, rfl, dry⟩ := dries
  exact ⟨before, other, after ++ rest, List.append_assoc before (other :: after) rest, dry⟩

/-- Reading a copy out brings it to the end as reads do. -/
theorem Stands.writeTo {direct : Direct (Overheard σ)}
    (stands : Stands direct.length because cursor) (sink : τ) :
    Stands direct.length
      (because ∨ (direct.writeTo sink cursor).1.record.custody.source.Dry)
      (direct.writeTo sink cursor).1.cursor := by
  refine (pump_keeps read
    (I := fun record cursor => record.length = direct.length ∧
      Stands direct.length (because ∨ record.custody.source.Dry) cursor)
    (fun buffer record cursor ⟨same, stands⟩ => ?_) _ sink ⟨rfl, stands.mono Or.inl⟩).2
  have reads := reads buffer record cursor
  rw [← same] at stands ⊢
  exact ⟨reads.served.length, reads.stands stands⟩

/-- A use that is no seek of it leaves a copy within the body, and the end shows at the end or where
the source gave nothing. -/
theorem Stands.use (stands : Stands pool.record.length because cursor)
    (found : pool.cursor? index = some cursor) {use : Use (Overheard σ) τ}
    (unmoved : ¬Sought index use (pool.use use).1)
    (there : (pool.use use).2.cursor? index = some current) :
    Stands pool.record.length
      (because ∨ use.index = index ∧ (pool.use use).2.record.custody.source.Dry) current := by
  cases moves_use found use with
  | read buffer asked =>
      subst asked
      have acted := (Pool.act_of_open found .read ((engine (Overheard σ)).read buffer)).2
      change (pool.read index buffer).state.cursor? index = some current at there
      change Stands _ (_ ∨ _ ∧ (pool.read index buffer).state.record.custody.source.Dry) _
      rw [Pool.read, acted] at there ⊢
      rw [Pool.cursor?_put_self found] at there
      cases there
      exact ((reads buffer pool.record cursor).stands (stands.mono Or.inl)).mono
        (Or.imp_right fun dry => ⟨rfl, dry⟩)
  | readOut sink asked =>
      subst asked
      have acted := (Pool.writeTo_of_open found sink).2.1
      change (pool.writeTo index sink).1.state.cursor? index = some current at there
      change Stands _ (_ ∨ _ ∧ (pool.writeTo index sink).1.state.record.custody.source.Dry) _
      rw [acted] at there ⊢
      rw [Pool.cursor?_put_self found] at there
      cases there
      exact (stands.writeTo sink).mono (Or.imp_right fun dry => ⟨rfl, dry⟩)
  | sought position sought => exact absurd sought unmoved
  | idle nothing left =>
      rw [left current there]
      exact stands.mono Or.inl

omit [Sink τ] in
/-- The length is settled when the body is made. -/
theorem Step.length_eq {lends : (σ → Option Unit × σ) → Prop} {pool next : Pool (engine σ)}
    (step : Step lends pool next) : next.record.length = pool.record.length := by
  cases step with
  | read found reads => exact reads.served.length
  | readAt some_open reads => exact reads.served.length
  | _ => rfl

theorem length_afterRun (pool : Pool (engine σ)) (uses : List (Use σ τ)) :
    (pool.afterRun uses).record.length = pool.record.length :=
  afterRun_keeps (I := fun next => next.record.length = pool.record.length)
    (fun same step => step.length_eq.trans same) rfl
    fun use _ => use.lends_any

/-- A run moves a copy by as many bytes as it hands to it, unless it seeks the copy.  The end shows
only at the end of the body, or after a read of the copy to which the source gave nothing. -/
theorem Stands.afterRun (stands : Stands pool.record.length because cursor)
    (sinks : Sink.Willing willing content) (found : pool.cursor? index = some cursor)
    {uses : List (Use (Overheard σ) τ)} (pours : ∀ use ∈ uses, use.Pours willing)
    (unmoved : ∀ pair ∈ uses.zip (pool.run uses).1, ¬Sought index pair.1 pair.2)
    (there : (pool.afterRun uses).cursor? index = some current) :
    current.offset = cursor.offset + (handedAll content index uses (pool.run uses).1).length ∧
      Stands pool.record.length (because ∨ Dries pool index uses) current := by
  induction uses generalizing pool cursor because with
  | nil =>
      obtain rfl : current = cursor := Option.some.inj (there.symm.trans found)
      exact ⟨rfl, stands.mono Or.inl⟩
  | cons use rest ih =>
      rw [Pool.run_cons, List.zip_cons_cons] at unmoved
      rw [Pool.afterRun_cons] at there
      rw [Pool.run_cons, Buffered.handedAll_cons, List.length_append]
      have still := unmoved _ List.mem_cons_self
      cases between : (pool.use use).2.cursor? index with
      | none =>
          have within := Nat.lt_of_lt_of_le (Pool.lt_length_of_cursor?_eq_some found)
            (Pool.length_le_use pool use)
          rw [Pool.cursor?_afterRun_of_closed within between rest] at there
          cases there
      | some middle =>
          have same : (pool.use use).2.record.length = pool.record.length :=
            length_afterRun pool [use]
          have first := offset_use sinks found (pours use List.mem_cons_self) still between
          have onwards := stands.use found still between
          rw [← same] at onwards ⊢
          obtain ⟨second, last⟩ := ih onwards between
            (fun later member => pours later (List.mem_cons_of_mem _ member))
            (fun pair member => unmoved pair (List.mem_cons_of_mem _ member)) there
          refine ⟨by omega, last.mono ?_⟩
          rintro ((already | now) | later)
          · exact Or.inl already
          · exact Or.inr (.now rest now)
          · exact Or.inr later.later

/-- A copy that reports the end was handed all that was left of the body, or was read to where the
source gave nothing. -/
theorem Stands.of_read_ended (stands : Stands pool.record.length because cursor)
    (sinks : Sink.Willing willing content) (found : pool.cursor? index = some cursor)
    {uses : List (Use (Overheard σ) τ)} (pours : ∀ use ∈ uses, use.Pours willing)
    (unmoved : ∀ pair ∈ uses.zip (pool.run uses).1, ¬Sought index pair.1 pair.2) {buffer : Buffer}
    (ends : ((pool.afterRun uses).read index buffer).reply = .failed ⟨.read, .endOfStream⟩) :
    cursor.offset + (handedAll content index uses (pool.run uses).1).length = pool.record.length ∨
      because ∨ Dries pool index (uses ++ [.read index buffer]) := by
  cases left : (pool.afterRun uses).cursor? index with
  | none =>
      rw [Pool.read, (Pool.act_of_closed left _ _).1] at ends
      cases ends
  | some current =>
      have acted := Pool.act_of_open left .read ((engine (Overheard σ)).read buffer)
      obtain ⟨moved, last⟩ := stands.afterRun sinks found pours unmoved left
      rw [← length_afterRun pool uses] at last
      have reads := reads buffer (pool.afterRun uses).record current
      rw [Pool.read, acted.1] at ends
      obtain ⟨met, stays⟩ := reads.met ends
      rcases (reads.stands (last.mono Or.inl)).ended met with there | (already | dries) | dry
      · rw [length_afterRun] at there
        exact Or.inl (by omega)
      · exact Or.inr (Or.inl already)
      · exact Or.inr (Or.inr (dries.append _))
      · refine Or.inr (Or.inr ⟨uses, .read index buffer, [], rfl, rfl, ?_⟩)
        change ((pool.afterRun uses).read index buffer).state.record.custody.source.Dry
        rw [Pool.read, acted.2]
        exact dry

end

end Payload.Direct
