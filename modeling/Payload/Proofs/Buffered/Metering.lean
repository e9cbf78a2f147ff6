import Payload.Proofs.Buffered.Fidelity
import Payload.Proofs.Calls

/-!
# What a buffered body asks of its source, and what it learns

A buffered body asks its source for bytes in one place only, where it fills the window.  So the
calls on the record of a source, the end of the window and the length of the stream go together:
the window ends where the source has given so much, and never past the length; the length becomes
known where the source gives nothing more; and once as many bytes are in the window as there are,
the end is on record.  None of this asks anything of the source, which may interrupt, fail, stop
short and claim what it likes.
-/

namespace Payload

@[simp]
theorem Window.stop_grow (window : Window) (count : Nat) :
    (window.grow count).stop = window.stop + count := by
  simp [Window.stop_eq, Nat.add_assoc]

@[simp]
theorem Window.stop_clear (window : Window) : window.clear.stop = window.stop := by
  simp [Window.stop_eq window.clear]

namespace Buffered

/-! ## What is drawn -/

variable {σ τ : Type} [Source σ] [Sink τ]

/-- An end or a failure comes without bytes, and the end only where the length is not known. -/
theorem stopped_of_intake?_eq_some {known : Bool} {count : Nat} {reading : Reading count}
    {intake : Intake} (taken : intake? known reading = some intake) :
    (intake.stopped ≠ none → intake.bytes.size = 0) ∧
      (intake.stopped = some .ended → known = false) := by
  unfold intake? at taken
  split at taken
  · obtain ⟨content, received, rfl⟩ := Option.map_eq_some_iff.mp taken
    split
    · cases known <;> simp
    · simp
  · cases taken
    simp
  · cases taken

theorem stopped_of_draw {known : Bool} {count : Nat} {source next : σ} {intake : Intake}
    (drawn : draw known count source = (some intake, next)) :
    (intake.stopped ≠ none → intake.bytes.size = 0) ∧
      (intake.stopped = some .ended → known = false) := by
  unfold draw at drawn
  split at drawn
  · cases drawn
    simp
  · exact stopped_of_intake?_eq_some (Prod.mk.inj drawn).1

omit [Source σ] in
/-- The order that is for all that a known length leaves says so. -/
theorem reaches_of_order_eq_left {record : Buffered σ} {length : Nat}
    (known : record.length = some length) {shortfall : Nat}
    (all : length - record.window.stop ≤ (record.order shortfall).1) :
    (record.order shortfall).2 = true := by
  unfold order at all ⊢
  rw [known] at all ⊢
  dsimp only at all ⊢
  split at all
  · rename_i whole
    rw [if_pos whole]
  · rename_i more
    exact absurd all more

/-! ## The length on record -/

/-- The length on record, where there is one, agrees with the window and the end. -/
structure Measured (record : Buffered σ) : Prop where
  within : ∀ length, record.length = some length → record.window.stop ≤ length
  ended : record.terminal = some .ended → record.length = some record.window.stop
  /-- A stream without bytes comes to its end with the first read that asks for some. -/
  full : record.custody.poisoned = false → record.custody.held = true →
    ∀ length, record.length = some length → record.window.stop = length →
      record.terminal = some .ended ∨ length = 0 ∧ record.terminal = none

omit [Source σ] in
theorem lengthAfter_of_known (length : Nat) (terminal : Option Terminal) (stop : Nat) :
    lengthAfter (some length) terminal stop = some length := by
  unfold lengthAfter
  split <;> rfl

/-- Filling keeps to a known length. -/
theorem Fills.length_of_known {record : Buffered σ} {shortfall : Nat} {fill : Fill σ}
    (fills : Fills record shortfall fill) {length : Nat} (known : record.length = some length) :
    fill.record.length = some length := by
  cases fills with
  | released => exact known
  | crowded => exact known
  | broken => exact known
  | filled notes held fits drawn longer =>
      change lengthAfter record.length _ _ = _
      rw [known, lengthAfter_of_known]

omit [Source σ] in
theorem of_lengthAfter_none_eq_some {terminal : Option Terminal} {stop length : Nat}
    (learned : lengthAfter none terminal stop = some length) :
    terminal = some .ended ∧ length = stop := by
  unfold lengthAfter at learned
  split at learned
  · rename_i ended
    exact ⟨ended, (Option.some.inj learned).symm⟩
  · cases learned

omit [Source σ] in
theorem of_terminalAfter_eq_ended {count : Nat} {reaches : Bool} {intake : Intake}
    (ended : terminalAfter count reaches intake = some .ended) :
    (reaches = true ∧ intake.bytes.size = count) ∨ intake.stopped = some .ended := by
  unfold terminalAfter at ended
  split at ended
  · rename_i all
    simp only [Bool.and_eq_true, beq_iff_eq] at all
    exact Or.inl ⟨all.1.2, all.2⟩
  · exact Or.inr ended

section

variable {record : Buffered σ} {shortfall : Nat} {intake : Intake} {source : σ}
  {extended : Window}

omit [Source σ] in
/-- A body that does not know its length learns it with the end, and it is what was taken in. -/
theorem measured_of_unknown (unknown : record.length = none)
    (custody : Custody σ) (terminal : Option Terminal) :
    Measured { record with
      custody
      window := extended
      terminal
      length := lengthAfter record.length terminal extended.stop } := by
  rw [unknown]
  constructor
  · intro length known
    exact Nat.le_of_eq (of_lengthAfter_none_eq_some known).2.symm
  · intro ended
    exact if_pos ended
  · intro _ _ length known _
    exact Or.inl (of_lengthAfter_none_eq_some known).1

/-- A body that knows its length comes to the end when it has taken in so much. -/
theorem Measured.terminal_take_in (measured : Measured record) {length : Nat}
    (known : record.length = some length)
    (drawn : draw record.length.isSome (record.order shortfall).1 record.custody.source =
      (some intake, source))
    (longer : Extended record.window extended intake.bytes) (there : extended.stop = length) :
    terminalAfter (record.order shortfall).1 (record.order shortfall).2 intake = some .ended := by
  have size_le := size_le_of_draw_eq_some drawn
  have limited := (order_of_known known shortfall).1
  have limit := measured.within length known
  have stop_eq := longer.stop
  have all : intake.bytes.size = (record.order shortfall).1 := by omega
  have left : length - record.window.stop ≤ (record.order shortfall).1 := by omega
  have going : intake.stopped = none := by
    by_cases nothing : (record.order shortfall).1 = 0
    · rw [nothing, draw, if_pos rfl] at drawn
      cases drawn
      rfl
    · exact Classical.byContradiction fun stopped =>
        nothing (all ▸ (stopped_of_draw drawn).1 stopped)
  simp [terminalAfter, going, reaches_of_order_eq_left known left, all]

theorem Measured.take_in_of_known (measured : Measured record) {length : Nat}
    (known : record.length = some length)
    (drawn : draw record.length.isSome (record.order shortfall).1 record.custody.source =
      (some intake, source))
    (longer : Extended record.window extended intake.bytes) :
    Measured { record with
      custody := record.custody.returning false source
      window := extended
      terminal := terminalAfter (record.order shortfall).1 (record.order shortfall).2 intake
      length := lengthAfter record.length
        (terminalAfter (record.order shortfall).1 (record.order shortfall).2 intake)
        extended.stop } := by
  have size_le := size_le_of_draw_eq_some drawn
  obtain ⟨limited, whole⟩ := order_of_known known shortfall
  have limit := measured.within length known
  have stop_eq := longer.stop
  have same (terminal : Option Terminal) :
      lengthAfter record.length terminal extended.stop = some length := by
    rw [known, lengthAfter_of_known]
  rw [same]
  constructor
  · intro other equal
    cases equal
    change extended.stop ≤ length
    omega
  · intro ended
    change some length = some extended.stop
    rcases of_terminalAfter_eq_ended ended with ⟨reaches, all⟩ | stopped
    · have left := whole reaches
      exact congrArg some (by omega)
    · have hidden := (stopped_of_draw drawn).2 stopped
      rw [known] at hidden
      cases hidden
  · intro _ _ other equal there
    cases equal
    exact Or.inl (measured.terminal_take_in known drawn longer there)

end

/-- Filling leaves the length in agreement with window and end. -/
theorem Measured.fill {record : Buffered σ} (measured : Measured record)
    (running : record.terminal = none) {shortfall : Nat}
    {fill : Fill σ} (fills : Fills record shortfall fill) : Measured fill.record := by
  cases fills with
  | released => exact measured
  | crowded => exact ⟨measured.within, measured.ended, nofun⟩
  | broken held fits drawn =>
      constructor
      · intro length known
        change record.length = some length at known
        have limit := measured.within length known
        have limited := (order_of_known known shortfall).1
        change (record.window.grow _).stop ≤ length
        rw [Window.stop_grow]
        omega
      · intro ended
        change record.terminal = _ at ended
        rw [running] at ended
        cases ended
      · nofun
  | filled notes held fits drawn longer =>
      rcases Option.eq_none_or_eq_some record.length with unknown | ⟨length, known⟩
      · exact measured_of_unknown unknown _ _
      · exact measured.take_in_of_known known drawn longer

omit [Source σ] in
theorem Measured.deliver {record : Buffered σ} (measured : Measured record) {goal : Nat}
    {cursor : Cursor} {turn : Turn (Buffered σ) Cursor ByteArray}
    (delivers : Delivers goal record cursor turn) : Measured turn.record := by
  constructor
  · rw [delivers.length, delivers.trimmed.stop]
    exact measured.within
  · rw [delivers.terminal, delivers.length, delivers.trimmed.stop]
    exact measured.ended
  · rw [delivers.custody, delivers.terminal, delivers.length, delivers.trimmed.stop]
    exact measured.full

theorem Measured.read {record : Buffered σ} (measured : Measured record) {want : Nat}
    {cursor : Cursor} {turn : Turn (Buffered σ) Cursor ByteArray}
    (reads : Reads want record cursor turn) : Measured turn.record := by
  cases reads with
  | ended => exact measured
  | poisoned => exact measured
  | broke going sound running short fills => exact measured.fill running fills
  | served going sound enough delivers => exact measured.deliver delivers
  | filled going sound running short fills intact delivers =>
      exact (measured.fill running fills).deliver delivers

theorem Reads.length_of_known {record : Buffered σ} {want : Nat} {cursor : Cursor}
    {turn : Turn (Buffered σ) Cursor ByteArray} (reads : Reads want record cursor turn)
    {length : Nat} (known : record.length = some length) : turn.record.length = some length := by
  cases reads with
  | ended => exact known
  | poisoned => exact known
  | broke going sound running short fills => exact fills.length_of_known known
  | served going sound enough delivers => exact delivers.length.trans known
  | filled going sound running short fills intact delivers =>
      exact delivers.length.trans (fills.length_of_known known)

section

variable {lends : (σ → Option Unit × σ) → Prop} {pool next : Pool (engine σ)}

/-- A known length never changes. -/
theorem Step.length_of_known (step : Step lends pool next) {length : Nat}
    (known : pool.record.length = some length) : next.record.length = some length := by
  cases step with
  | read found reads => exact reads.length_of_known known
  | copied => exact known
  | blank => exact known
  | left => exact known
  | last => exact known
  | visited => exact known

omit [Source σ] in
theorem poisoned_of_visit {custody : Custody σ} {callback : σ → Option Unit × σ}
    (sound : (custody.visit callback).2.poisoned = false) : custody.poisoned = false := by
  cases poisoned : custody.poisoned with
  | false => rfl
  | true =>
      unfold Custody.visit at sound
      simp [poisoned] at sound

theorem Measured.step (measured : Measured pool.record) (step : Step lends pool next) :
    Measured next.record := by
  cases step with
  | read found reads => exact measured.read reads
  | copied => exact ⟨measured.within, measured.ended, measured.full⟩
  | blank => exact measured
  | left found others least trimmed =>
      constructor
      · rw [Pool.record_remove, trimmed.stop]
        exact measured.within
      · rw [Pool.record_remove, trimmed.stop]
        exact measured.ended
      · rw [Pool.record_remove, trimmed.stop]
        exact measured.full
  | last =>
      constructor
      · rw [Pool.record_remove, Window.stop_clear]
        exact measured.within
      · nofun
      · intro _ held
        rw [Pool.record_remove, Custody.held_close] at held
        cases held
  | visited =>
      refine ⟨measured.within, measured.ended, fun sound held => ?_⟩
      rw [Pool.record_withRecord, Custody.held_visit] at held
      exact measured.full (poisoned_of_visit sound) held

end

theorem measured_fresh (source : σ) (length : Option Nat) (blockSize : Nat) :
    Measured (fresh source length blockSize).record where
  within _ _ := Nat.zero_le _
  ended := nofun
  full _ _ _ _ start := Or.inr ⟨start.symm, rfl⟩

/-! ## The calls on record -/

/-- What is drawn from a recorded source is what its calls were marked with. -/
theorem requests_draw (known : Bool) (count : Nat) (recorded : Recorded σ) :
    ∃ made, (draw known count recorded).2.entries = made ++ recorded.entries ∧
      Requests count made ∧ (made ≠ [] → count ≠ 0) ∧
      ∀ intake, (draw known count recorded).1 = some intake →
        (made.map Entry.given).sum = intake.bytes.size ∧
          (intake.stopped = some .ended → made.head? = some ⟨.read count, .number 0⟩) := by
  unfold draw
  split
  · refine ⟨[], rfl, .nil count, absurd rfl, fun intake drawn => ?_⟩
    cases drawn
    simp
  · rename_i ordered
    obtain ⟨made, entries, requests, marks⟩ :=
      requests_readSteady count (Source.patience recorded + 1) recorded
    refine ⟨made, entries, requests, fun _ => ordered, fun intake drawn => ?_⟩
    dsimp only at drawn
    generalize (Source.readSteady count (Source.patience recorded + 1) recorded).1 = came
      at drawn marks
    cases came with
    | broke => cases drawn
    | failed fault =>
        cases drawn
        exact ⟨(marks (by simp)).1, by simp⟩
    | done transfer =>
        obtain ⟨given, latest⟩ := marks (by simp)
        obtain ⟨content, received, rfl⟩ := Option.map_eq_some_iff.mp drawn
        have size_eq := Transfer.size_of_received?_eq_some size_zeros received
        rw [given, latest]
        split
        · rename_i nothing
          rw [nothing] at size_eq
          simp [Mark.ofAnswer, Mark.ofTransfer, Entry.given, ← size_eq]
        · exact ⟨size_eq.symm, by simp⟩

/-- What was asked of the source on the way from one record to another: reads of `count` bytes.
The window has grown by as many bytes as were given, unless a call broke off, and a length was
learned only from a read that gave nothing. -/
structure Logs (count : Nat) (record next : Buffered (Recorded σ)) (made : List Entry) :
    Prop where
  entries : next.custody.source.entries = made ++ record.custody.source.entries
  requests : Requests count made
  asked : made ≠ [] → count ≠ 0
  given : next.custody.poisoned = false →
    next.window.stop = record.window.stop + (made.map Entry.given).sum
  learned : record.length = none → next.length ≠ none →
    made.head? = some ⟨.read count, .number 0⟩ ∧ next.terminal = some .ended ∧
      next.custody.poisoned = record.custody.poisoned

omit [Source σ] in
theorem Logs.idle (count : Nat) {record next : Buffered (Recorded σ)}
    (source : next.custody.source = record.custody.source)
    (stop : next.window.stop = record.window.stop) (length : next.length = record.length) :
    Logs count record next [] where
  entries := congrArg Recorded.entries source
  requests := .nil count
  asked := absurd rfl
  given _ := stop
  learned unknown learned := absurd (length.trans unknown) learned

theorem Fills.logs {record : Buffered (Recorded σ)} {shortfall : Nat} {fill : Fill (Recorded σ)}
    (fills : Fills record shortfall fill) :
    ∃ made, Logs (record.order shortfall).1 record fill.record made := by
  obtain ⟨made, entries, requests, asked, marks⟩ :=
    requests_draw record.length.isSome (record.order shortfall).1 record.custody.source
  cases fills with
  | released => exact ⟨[], .idle _ rfl rfl rfl⟩
  | crowded => exact ⟨[], .idle _ rfl rfl rfl⟩
  | broken held fits drawn =>
      rw [drawn] at entries
      exact ⟨made, entries, requests, asked, nofun, absurd⟩
  | @filled intake source extended notes held fits drawn longer =>
      rw [drawn] at entries
      obtain ⟨given, ended⟩ := marks intake (congrArg Prod.fst drawn)
      refine ⟨made, entries, requests, asked, fun _ => ?_, fun unknown learned => ?_⟩
      · rw [given]
        exact longer.stop
      · change lengthAfter record.length _ _ ≠ none at learned
        obtain ⟨length, known⟩ := Option.ne_none_iff_exists'.mp learned
        rw [unknown] at known
        have stopped := (of_lengthAfter_none_eq_some known).1
        refine ⟨ended ?_, stopped, Bool.or_false _⟩
        rcases of_terminalAfter_eq_ended stopped with ⟨reaches, -⟩ | ends
        · rw [order_of_unknown unknown] at reaches
          cases reaches
        · exact ends

omit [Source σ] in
theorem Logs.deliver {count goal : Nat} {record next : Buffered (Recorded σ)}
    {made : List Entry} (logs : Logs count record next made) {cursor : Cursor}
    {turn : Turn (Buffered (Recorded σ)) Cursor ByteArray}
    (delivers : Delivers goal next cursor turn) : Logs count record turn.record made := by
  constructor
  · rw [delivers.custody]
    exact logs.entries
  · exact logs.requests
  · exact logs.asked
  · rw [delivers.custody, delivers.trimmed.stop]
    exact logs.given
  · rw [delivers.length, delivers.terminal, delivers.custody]
    exact logs.learned

/-- A read asks the source only for what the window lacks, and only while no end is on record. -/
theorem Reads.logs {record : Buffered (Recorded σ)} {want : Nat} {cursor : Cursor}
    {turn : Turn (Buffered (Recorded σ)) Cursor ByteArray}
    (reads : Reads want record cursor turn) :
    ∃ made, Logs (record.order (cursor.offset + want - record.window.stop)).1 record turn.record
        made ∧
      (made ≠ [] → cursor.terminal = none ∧ record.custody.poisoned = false ∧
        record.terminal = none ∧ record.window.stop < cursor.offset + want) := by
  cases reads with
  | ended => exact ⟨[], .idle _ rfl rfl rfl, absurd rfl⟩
  | poisoned => exact ⟨[], .idle _ rfl rfl rfl, absurd rfl⟩
  | broke going sound running short fills =>
      obtain ⟨made, logs⟩ := fills.logs
      exact ⟨made, logs, fun _ => ⟨going, sound, running, short⟩⟩
  | served going sound enough delivers =>
      exact ⟨[], .deliver (.idle _ rfl rfl rfl) delivers, absurd rfl⟩
  | filled going sound running short fills intact delivers =>
      obtain ⟨made, logs⟩ := fills.logs
      exact ⟨made, logs.deliver delivers, fun _ => ⟨going, sound, running, short⟩⟩

/-! ## Runs -/

/-- The length agrees with window and end, and the window ends where the source has given so
much. -/
structure Metered (record : Buffered (Recorded σ)) : Prop where
  measured : Measured record
  given : record.custody.poisoned = false →
    record.custody.source.given = record.window.stop

theorem Reads.poisoned_of_sound {record : Buffered σ} {want : Nat} {cursor : Cursor}
    {turn : Turn (Buffered σ) Cursor ByteArray} (reads : Reads want record cursor turn)
    (sound : turn.record.custody.poisoned = false) : record.custody.poisoned = false := by
  cases reads with
  | ended => exact sound
  | poisoned => exact sound
  | broke going unpoisoned => exact unpoisoned
  | served going unpoisoned => exact unpoisoned
  | filled going unpoisoned => exact unpoisoned

theorem Metered.step {pool next : Pool (engine (Recorded σ))} (metered : Metered pool.record)
    (step : Step (fun callback => ∃ inside, callback = Recorded.unseen inside) pool next) :
    Metered next.record where
  measured := metered.measured.step step
  given := by
    cases step with
    | read found reads =>
        intro sound
        obtain ⟨made, logs, -⟩ := reads.logs
        rw [Pool.record_put] at sound ⊢
        rw [Recorded.given_of_entries logs.entries, logs.given sound,
          metered.given (reads.poisoned_of_sound sound), Nat.add_comm]
    | copied => exact metered.given
    | blank => exact metered.given
    | left found others least trimmed =>
        rw [Pool.record_remove, trimmed.stop]
        exact metered.given
    | last =>
        intro sound
        rw [Pool.record_remove, Custody.poisoned_close] at sound
        rw [Pool.record_remove, Window.stop_clear, ← metered.given sound]
        unfold Custody.close
        split
        · exact Nat.zero_add _
        · rfl
    | @visited _ _ callback found lent =>
        intro sound
        obtain ⟨inside, rfl⟩ := lent
        change Recorded.given (pool.record.custody.visit _).2.source = pool.record.window.stop
        rw [← metered.given (poisoned_of_visit sound)]
        rcases pool.record.custody.source_visit (Recorded.unseen inside) with same | called
        · rw [same]
        · rw [called]
          rfl

theorem length_afterRun {pool : Pool (engine σ)} (balanced : Balanced pool) {length : Nat}
    (known : pool.record.length = some length) (uses : List (Use σ τ)) :
    (pool.afterRun uses).record.length = some length :=
  (afterRun_keeps (fun _ => True) (I := fun pool => pool.record.length = some length)
    (fun _ known step => step.length_of_known known) balanced known
    fun use _ => use.lends_any).2

theorem metered_afterRun_fresh (source : σ) (length : Option Nat) (blockSize : Nat)
    (uses : List (Use σ τ)) :
    Metered ((fresh (⟨source, []⟩ : Recorded σ) length blockSize).afterRun
      (uses.map Use.unseen)).record :=
  (afterRun_keeps (fun callback => ∃ inside, callback = Recorded.unseen inside)
    (I := fun pool => Metered pool.record) (fun _ metered step => metered.step step)
    (balanced_fresh _ _ _) ⟨measured_fresh _ _ _, fun _ => rfl⟩ (Use.lends_map_unseen uses)).2

end Buffered

end Payload
