import Payload.Proofs.Direct.Agreement
import Payload.Proofs.Facing

/-!
# Direct bodies over sources of which one lags

A direct body asks its source again after an interruption: for the bytes at the same position or,
where the source is moved and then read, to be moved there again.  So while its questions are
interrupted it may be ahead of the body opposite only in that its source was moved already.  Once a
question is answered both have come to the same.
-/

namespace Payload

variable {φ σ : Type}

namespace Direct

/-- The same record, over another source. -/
def entrust (direct : Direct φ) (source : σ) : Direct σ :=
  { direct with custody := direct.custody.entrust source }

theorem entrust_returning (direct : Direct φ) (next : φ) (source : σ) :
    (direct.returning false next).entrust source = direct.entrust source := by
  simp [returning, Custody.returning, entrust, Custody.entrust]

variable [Source φ] [Source σ] {good : φ → Prop} {fair : σ → Prop} {stands : φ → σ → Prop}

/-- The same record over two sources, of which one lags behind the other while they are held.  Where
they are moved they come back to the same place. -/
inductive Faces (stands : φ → σ → Prop) (direct : Direct φ) : Direct σ → Prop where
  | of (returns : direct.access = .seeking → Source.Returning stands) {source : σ}
      (standing : direct.custody.held = true → stands direct.custody.source source) :
      Faces stands direct (direct.entrust source)

theorem faces_returning {direct : Direct φ}
    (returns : direct.access = .seeking → Source.Returning stands) (broken : Bool) {next : φ}
    {source : σ} (still : stands next source) :
    Faces stands (direct.returning broken next)
      ((direct.entrust source).returning broken source) := by
  have still_returns : (direct.returning broken next).access = .seeking →
      Source.Returning stands := returns
  exact .of still_returns fun _ => still

/-! ## One question -/

section

variable {direct : Direct σ} {operation : Operation} {want position : Nat}

omit [Source φ] in
theorem held_of_ask {next : Direct σ} {reading : Reading want}
    (asked : direct.ask operation want position = (.done reading, next)) :
    direct.custody.held = true := by
  have asks := asks operation want position direct
  rw [asked] at asks
  cases asks with
  | addressed sound held => exact held
  | moved sound held => exact held

theorem ask_of_poisoned (poisoned : direct.custody.poisoned = true) :
    direct.ask operation want position = (.failed ⟨operation, .poisoned⟩, direct) :=
  if_pos poisoned

theorem ask_of_released (sound : direct.custody.poisoned = false)
    (released : direct.custody.held = false) :
    direct.ask operation want position = (.failed ⟨operation, .closed⟩, direct) := by
  simp [ask, sound, released]

theorem ask_of_withheld (sound : direct.custody.poisoned = false)
    (held : direct.custody.held = true)
    (withheld : direct.access.offered direct.custody.source = false) :
    direct.ask operation want position = (.failed ⟨operation, .unsupported⟩, direct) := by
  unfold Access.offered at withheld
  unfold ask
  rw [if_neg (by simp [sound]), if_neg (by simp [held])]
  split
  · rename_i access
    rw [access] at withheld
    exact if_neg (by simp [withheld])
  · rename_i access
    rw [access] at withheld
    exact if_neg (by simp [withheld])

theorem ask_of_addressed (direct : Direct σ) (sound : direct.custody.poisoned = false)
    (held : direct.custody.held = true) (access : direct.access = .addressed)
    (offered : Source.addressable direct.custody.source = true) :
    direct.ask operation want position =
      (.done (Source.readAt want position direct.custody.source).1,
        direct.returning false (Source.readAt want position direct.custody.source).2) := by
  simp [ask, sound, held, access, offered]

theorem ask_of_moved (direct : Direct σ) (sound : direct.custody.poisoned = false)
    (held : direct.custody.held = true) (access : direct.access = .seeking)
    (offered : Source.seekable direct.custody.source = true) {place : Nat} {moved : σ}
    (sought : Source.seek (.start position) direct.custody.source = (.done place, moved)) :
    direct.ask operation want position =
      (.done (Source.read want moved).1,
        direct.returning (Source.read want moved).1.brokeOff (Source.read want moved).2) := by
  simp [ask, sound, held, access, offered, seekRead, sought]

theorem askSteady_of_interrupted {buffer : Buffer} {next : Direct σ} {fault : Fault}
    (asked : direct.ask operation want position = (.done (.failed fault), next))
    (again : fault.interrupts = true) (tries : Nat) :
    direct.askSteady operation buffer want position (tries + 1) =
      next.askSteady operation buffer want position tries := by
  rw [askSteady, asked]
  exact if_pos again

end

/-- Sources that stand alike once both are moved to the position, and of which the one can be moved
there again without the other. -/
inductive Meets (good : φ → Prop) (fair : σ → Prop) (stands : φ → σ → Prop) (position : Nat)
    (source : φ) (other : σ) : Prop where
  | there {place place' : Nat} {next : φ} {last : σ} (fine : good source) (fine' : fair other)
      (offered : Source.seekable source = true) (offered' : Source.seekable other = true)
      (sought : Source.seek (.start position) source = (.done place, next))
      (sought' : Source.seek (.start position) other = (.done place', last))
      (standing : stands next last)
      (again : ∀ source, stands source last → Source.seekable source = true ∧
        ∃ place next, Source.seek (.start position) source = (.done place, next) ∧
          stands next last) :
      Meets good fair stands position source other

theorem offered_eq (lagging : Source.Lagging good fair stands) {source : φ} {other : σ}
    (standing : stands source other) (access : Access) :
    access.offered source = access.offered other := by
  cases access with
  | addressed => exact lagging.addressable standing
  | seeking => exact lagging.seekable standing

/-- Two such sources that come back to the same place meet there. -/
theorem meets_of_stands (lagging : Source.Lagging good fair stands)
    (returns : Source.Returning stands) {source : φ} {other : σ} (standing : stands source other)
    (offered : Source.seekable other = true) {position : Nat} (addressable : position ≤ maxOffset) :
    Meets good fair stands position source other := by
  obtain ⟨place, last, sought, still, back⟩ := returns standing offered position addressable
  obtain ⟨answers, onwards⟩ := lagging.seek (.start position) standing
  rw [sought] at answers onwards
  refine .there (lagging.left standing) (lagging.right standing)
    ((lagging.seekable standing).trans offered) offered (Prod.ext answers rfl) sought onwards ?_
  intro source there
  obtain ⟨⟨twice, answered⟩, returned⟩ := back source there
  exact ⟨(lagging.seekable there).trans still, twice, _, Prod.ext answered rfl, returned⟩

/-- Where two bodies stand before a question at the position: opposite each other, or with the one
source moved there already. -/
inductive Poised (good : φ → Prop) (fair : σ → Prop) (stands : φ → σ → Prop) (position : Nat)
    (direct : Direct φ) : Direct σ → Prop where
  | level {other : Direct σ} (faces : Faces stands direct other) :
      Poised good fair stands position direct other
  | ahead {source : σ} (returns : Source.Returning stands) (access : direct.access = .seeking)
      (held : direct.custody.held = true) (sound : direct.custody.poisoned = false)
      (meets : Meets good fair stands position direct.custody.source source) :
      Poised good fair stands position direct (direct.entrust source)

/-- How a question comes out beside the one opposite: alike, or interrupted while that one is still
to be asked. -/
inductive Beside (good : φ → Prop) (fair : σ → Prop) (stands : φ → σ → Prop) (position : Nat)
    (other : Direct σ) {want : Nat} :
    Reply (Reading want) × Direct φ → Reply (Reading want) × Direct σ → Prop where
  | level {reply : Reply (Reading want)} {next : Direct φ} {last : Direct σ}
      (faces : Faces stands next last) :
      Beside good fair stands position other (reply, next) (reply, last)
  | behind {fault : Fault} {next : Direct φ} {facing : Reply (Reading want) × Direct σ}
      (again : fault.interrupts = true) (poised : Poised good fair stands position next other) :
      Beside good fair stands position other (.done (.failed fault), next) facing

section

variable {direct : Direct φ} {other : Direct σ} {operation : Operation} {want position : Nat}

theorem Meets.ask (lagging : Source.Lagging good fair stands) (returns : Source.Returning stands)
    {source : σ} (access : direct.access = .seeking) (held : direct.custody.held = true)
    (sound : direct.custody.poisoned = false)
    (meets : Meets good fair stands position direct.custody.source source) :
    Beside good fair stands position (direct.entrust source)
      (direct.ask operation want position)
      ((direct.entrust source).ask operation want position) := by
  cases meets with
  | @there place place' next last fine fine' offered offered' sought sought' standing back =>
      rw [ask_of_moved direct sound held access offered sought,
        ask_of_moved (direct.entrust source) sound held access offered' sought']
      have beside := lagging.read want standing
      generalize Source.read want next = here at beside
      generalize Source.read want last = there at beside
      cases beside with
      | @level answer next last still => exact .level (.of (fun _ => returns) fun _ => still)
      | @behind fault next there again still =>
          refine .behind again ?_
          obtain ⟨ready, place, moved, sought, onwards⟩ := back next still
          rw [← direct.entrust_returning next source]
          exact .ahead returns access held (Bool.or_eq_false_iff.mpr ⟨sound, rfl⟩)
            (.there (lagging.left still) fine' ready offered' sought sought' onwards back)

/-- Where the sources are read at positions, both bodies stay level. -/
theorem beside_of_addressed (lagging : Source.Lagging good fair stands)
    (returns : direct.access = .seeking → Source.Returning stands) {source : σ}
    (sound : direct.custody.poisoned = false) (held : direct.custody.held = true)
    (there : stands direct.custody.source source) (access : direct.access = .addressed)
    (offered : Source.addressable direct.custody.source = true) :
    Beside good fair stands position (direct.entrust source)
      (direct.ask operation want position)
      ((direct.entrust source).ask operation want position) := by
  rw [ask_of_addressed direct sound held access offered,
    ask_of_addressed (direct.entrust source) sound held access
      ((lagging.addressable there).symm.trans offered)]
  have beside := lagging.readAt want position there
  change Beside _ _ _ _ _ _ (.done (Source.readAt want position source).1,
    (direct.entrust source).returning false (Source.readAt want position source).2)
  generalize Source.readAt want position direct.custody.source = here at beside
  generalize Source.readAt want position source = facing at beside
  cases beside with
  | level still => exact .level (faces_returning returns false still)
  | @behind fault next there again still =>
      refine .behind again (.level ?_)
      rw [← direct.entrust_returning next source]
      exact faces_returning returns false still

/-- Both bodies ask alike, but that the one may be interrupted. -/
theorem Poised.ask (poised : Poised good fair stands position direct other)
    (lagging : Source.Lagging good fair stands) (operation : Operation) (want : Nat)
    (addressable : position ≤ maxOffset) :
    Beside good fair stands position other (direct.ask operation want position)
      (other.ask operation want position) := by
  cases poised with
  | ahead returns access held sound meets => exact meets.ask lagging returns access held sound
  | level faces =>
      obtain ⟨returns, standing⟩ := faces
      rename_i source
      have refused {cause : Cause}
          (asked : direct.ask operation want position = (.failed ⟨operation, cause⟩, direct))
          (asked' : (direct.entrust source).ask operation want position =
            (.failed ⟨operation, cause⟩, direct.entrust source)) :
          Beside good fair stands position (direct.entrust source)
            (direct.ask operation want position)
            ((direct.entrust source).ask operation want position) := by
        rw [asked, asked']
        exact .level (.of returns standing)
      cases sound : direct.custody.poisoned with
      | true => exact refused (ask_of_poisoned sound) (ask_of_poisoned sound)
      | false =>
          cases held : direct.custody.held with
          | false => exact refused (ask_of_released sound held) (ask_of_released sound held)
          | true =>
              have there := standing held
              have same := offered_eq lagging there direct.access
              cases offered : direct.access.offered direct.custody.source with
              | false =>
                  exact refused (ask_of_withheld sound held offered)
                    (ask_of_withheld sound held (same.symm.trans offered))
              | true =>
                  cases access : direct.access with
                  | addressed =>
                      rw [access] at offered
                      exact beside_of_addressed lagging returns sound held there access offered
                  | seeking =>
                      rw [offered, access] at same
                      exact (meets_of_stands lagging (returns access) there same.symm
                        addressable).ask lagging (returns access) access held sound

/-- Bodies that are poised have sources that interrupt no more often than they announce. -/
theorem Poised.fine (poised : Poised good fair stands position direct other)
    (lagging : Source.Lagging good fair stands) :
    (direct.custody.held = true → good direct.custody.source) ∧
      (other.custody.held = true → fair other.custody.source) := by
  cases poised with
  | level faces =>
      obtain ⟨returns, standing⟩ := faces
      exact ⟨fun held => lagging.left (standing held), fun held => lagging.right (standing held)⟩
  | ahead returns access held sound meets =>
      obtain ⟨fine, fine'⟩ := meets
      exact ⟨fun _ => fine, fun _ => fine'⟩

/-- Bodies that are poised come to the same, however often the one is interrupted. -/
theorem Poised.askSteady (poised : Poised good fair stands position direct other)
    (lagging : Source.Lagging good fair stands) (addressable : position ≤ maxOffset)
    (buffer : Buffer) {tries tries' : Nat}
    (enough : Source.patience direct.custody.source < tries)
    (enough' : Source.patience other.custody.source < tries') :
    (direct.askSteady operation buffer want position tries).1 =
        (other.askSteady operation buffer want position tries').1 ∧
      Faces stands (direct.askSteady operation buffer want position tries).2
        (other.askSteady operation buffer want position tries').2 := by
  induction tries generalizing tries' direct other with
  | zero => cases enough
  | succ tries ih =>
      cases tries' with
      | zero => cases enough'
      | succ tries' =>
          have beside := poised.ask lagging operation want addressable
          obtain ⟨fine, fine'⟩ := poised.fine lagging
          rcases asked : direct.ask operation want position with ⟨reply, next⟩
          rcases facing : other.ask operation want position with ⟨reply', last⟩
          rw [asked, facing] at beside
          cases beside with
          | behind again still =>
              have fewer :=
                (again_of_ask lagging.patient (fine (held_of_ask asked)) asked again).2.2
              rw [askSteady_of_interrupted asked again]
              exact ih still (by omega) enough'
          | level faces =>
              have settled (answer : Reply ByteArray)
                  (came : direct.askSteady operation buffer want position (tries + 1) =
                    (answer, next))
                  (came' : other.askSteady operation buffer want position (tries' + 1) =
                    (answer, last)) :
                  (direct.askSteady operation buffer want position (tries + 1)).1 =
                      (other.askSteady operation buffer want position (tries' + 1)).1 ∧
                    Faces stands (direct.askSteady operation buffer want position (tries + 1)).2
                      (other.askSteady operation buffer want position (tries' + 1)).2 := by
                rw [came, came']
                exact ⟨rfl, faces⟩
              rcases reply with (transfer | fault | _) | error | _
              · cases received : transfer.received? buffer.front with
                | some bytes =>
                    apply settled (.done bytes)
                    · simp [Direct.askSteady, asked, received]
                    · simp [Direct.askSteady, facing, received]
                | none =>
                    apply settled .broke
                    · simp [Direct.askSteady, asked, received]
                    · simp [Direct.askSteady, facing, received]
              · by_cases again : fault.interrupts = true
                · have fewer :=
                    (again_of_ask lagging.patient (fine (held_of_ask asked)) asked again).2.2
                  have fewer' :=
                    (again_of_ask lagging.patient' (fine' (held_of_ask facing)) facing again).2.2
                  rw [askSteady_of_interrupted asked again, askSteady_of_interrupted facing again]
                  exact ih (.level faces) (by omega) (by omega)
                · apply settled (.failed ⟨operation, .fault fault⟩)
                  · simp [Direct.askSteady, asked, again]
                  · simp [Direct.askSteady, facing, again]
              · apply settled .broke
                · simp [Direct.askSteady, asked]
                · simp [Direct.askSteady, facing]
              · apply settled (.failed error)
                · simp [Direct.askSteady, asked]
                · simp [Direct.askSteady, facing]
              · apply settled .broke
                · simp [Direct.askSteady, asked]
                · simp [Direct.askSteady, facing]

end

/-! ## Reads -/

section

variable {direct : Direct φ} {other : Direct σ}

theorem Faces.same (faces : Faces stands direct other) :
    other.base = direct.base ∧ other.length = direct.length ∧ other.sharers = direct.sharers := by
  obtain ⟨-, -⟩ := faces
  exact ⟨rfl, rfl, rfl⟩

/-- What is fetched is the same. -/
theorem Faces.fetch (faces : Faces stands direct other)
    (lagging : Source.Lagging good fair stands) (operation : Operation) (buffer : Buffer)
    (want offset : Nat) :
    (direct.fetch operation buffer want offset).1 = (other.fetch operation buffer want offset).1 ∧
      Faces stands (direct.fetch operation buffer want offset).2
        (other.fetch operation buffer want offset).2 := by
  obtain ⟨base, -, -⟩ := faces.same
  unfold Direct.fetch
  rw [base]
  dsimp only
  split
  · exact ⟨rfl, faces⟩
  · rename_i addressable
    exact (Poised.level faces).askSteady lagging (Nat.le_of_not_lt addressable) buffer
      (Nat.lt_succ_self _) (Nat.lt_succ_self _)

theorem Faces.read (faces : Faces stands direct other)
    (lagging : Source.Lagging good fair stands) (buffer : Buffer) (cursor : Cursor) :
    Turn.Alike (Faces stands) (direct.read buffer cursor) (other.read buffer cursor) := by
  obtain ⟨reply, place, still⟩ := read_alike_of_fetch faces.same.2.1.symm faces
    (faces.fetch lagging .read buffer (min buffer.size (other.length - cursor.offset))
      cursor.offset)
  exact ⟨reply, place, still⟩

theorem Faces.readAt (faces : Faces stands direct other)
    (lagging : Source.Lagging good fair stands) (buffer : Buffer) (offset : Nat)
    (cursor : Cursor) :
    Turn.Alike (Faces stands) (direct.readAt buffer offset cursor)
      (other.readAt buffer offset cursor) := by
  obtain ⟨reply, place, still⟩ := readAt_alike_of_fetch faces.same.2.1.symm faces
    (faces.fetch lagging .readAt buffer (min buffer.size (other.length - offset)) offset)
  exact ⟨reply, place, still⟩

/-- A copy is read out alike. -/
theorem Faces.writeTo {υ τ : Type} [Sink υ] [Sink τ] {willing : υ → Prop} {ready : τ → Prop}
    {poured : υ → τ → Prop} (faces : Faces stands direct other)
    (lagging : Source.Lagging good fair stands) (sinks : Sink.Lagging willing ready poured)
    {sink : υ} {facing : τ} (standing : poured sink facing) (cursor : Cursor) :
    Turn.Alike (Faces stands) (writeTo sink direct cursor).1 (writeTo facing other cursor).1 ∧
      poured (writeTo sink direct cursor).2 (writeTo facing other cursor).2 := by
  obtain ⟨-, length, -⟩ := faces.same
  unfold Direct.writeTo
  rw [length]
  exact sinks.pump (fun faces buffer cursor => faces.read lagging buffer cursor) _ standing faces
    cursor

/-! ## Copies -/

/-- Whatever becomes of the custody, the rest of the record is the same. -/
theorem Faces.of_custody {custody : Custody φ} {custody' : Custody σ}
    (returns : direct.access = .seeking → Source.Returning stands)
    (faces : Custody.Faces stands custody custody') (sharers : Nat) :
    Faces stands { direct with custody, sharers }
      ⟨custody', direct.access, direct.base, direct.length, sharers⟩ := by
  obtain ⟨standing⟩ := faces
  have still_returns : { direct with custody, sharers }.access = .seeking →
      Source.Returning stands := returns
  exact .of still_returns standing

/-- The last copies that leave close their sources, which comes to the same. -/
theorem Faces.close (faces : Faces stands direct other)
    (lagging : Source.Lagging good fair stands) (cursor : Cursor) :
    Turn.Alike (Faces stands) (direct.close cursor) (other.close cursor) := by
  obtain ⟨returns, standing⟩ := faces
  rename_i source
  unfold Direct.close
  by_cases others : 1 < direct.sharers
  · rw [if_pos others, if_pos (show 1 < (direct.entrust source).sharers from others)]
    exact ⟨rfl, rfl, .of_custody returns (.of standing) _⟩
  · rw [if_neg others, if_neg (show ¬1 < (direct.entrust source).sharers from others)]
    obtain ⟨alike, onwards⟩ :=
      (Custody.Faces.of standing).close lagging .closingDirect
    exact ⟨alike, rfl, .of_custody returns onwards _⟩

theorem Faces.visit (faces : Faces stands direct other) {callback : φ → Option Unit × φ}
    {callback' : σ → Option Unit × σ} (joined : Source.Joined stands callback callback')
    (cursor : Cursor) :
    Turn.Alike (Faces stands) (direct.visit callback cursor) (other.visit callback' cursor) := by
  obtain ⟨returns, standing⟩ := faces
  obtain ⟨alike, onwards⟩ := (Custody.Faces.of standing).visit joined
  exact ⟨alike, rfl, .of_custody returns onwards direct.sharers⟩

end

/-- Direct bodies over two sources, of which one lags behind the other. -/
theorem faces (lagging : Source.Lagging good fair stands) :
    Engine.Faces (Faces stands) (Source.Joined stands) (engine φ) (engine σ) where
  read faces := faces.read lagging
  readAt faces := faces.readAt lagging
  seek faces offset whence cursor := by
    obtain ⟨-, length, -⟩ := faces.same
    rename_i direct other
    change Turn.Alike _ (cursor.seek direct.length offset whence direct)
      (cursor.seek other.length offset whence other)
    rw [length]
    have sought := cursor.seek_alike direct.length offset whence direct other
    refine ⟨sought.1, sought.2, ?_⟩
    rw [record_seek, record_seek]
    exact faces
  copy faces cursor := by
    obtain ⟨returns, standing⟩ := faces
    exact ⟨rfl, rfl, .of_custody returns (.of standing) _⟩
  close faces := faces.close lagging
  visit faces := faces.visit

end Direct

end Payload
