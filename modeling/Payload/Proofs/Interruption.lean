import Payload.Proofs.Buffered.Facing
import Payload.Proofs.Direct.Facing
import Payload.Proofs.Failures
import Payload.Proofs.Finality
import Payload.Proofs.Fitful

/-!
# Interruptions go unnoticed

Whatever interruptions come before the reads of a body's source and the offers to the sinks that its
copies are read out into, every use comes out as it would without them and leaves the copies where
it would have left them.  No interruption is reported by a read or by reading out, and none is kept
as the end of a stream.
-/

namespace Payload

variable {φ σ τ : Type}

/-! ## The same use with interruptions and without -/

/-- The same use of a body over a fitful source. -/
def Use.fitful (use : Use σ (Fitful τ)) : Use (Fitful σ) (Fitful τ) :=
  use.map Fitful.lending id

/-- The same use with a sink that is not interrupted. -/
def Use.smooth (use : Use σ (Fitful τ)) : Use σ τ :=
  use.map id Fitful.inside

theorem Receipt.final_map {υ : Type} (pour : υ → τ) (receipt : Receipt υ) :
    (receipt.map pour).Final ↔ receipt.Final := by
  cases receipt <;> exact Iff.rfl

/-! ## Moving to the same place again -/

/-- Sources to which a fitful one comes back can be moved. -/
theorem Fitful.moves [Source σ] {alike : σ → σ → Prop}
    (patient : Source.Patient fun source => alike source source)
    (returns : Source.Returning fun (fitful : Fitful σ) source => alike fitful.inside source) :
    Source.Moves fun source => alike source source where
  works := patient.works
  seek {source} same offered position addressable := by
    have standing : alike (⟨source, []⟩ : Fitful σ).inside source := same
    obtain ⟨place, moved, sought, -⟩ := returns standing offered position addressable
    exact ⟨place, moved, sought⟩

/-- The source of a direct body that faces a fitful one can be moved, if it is moved at all. -/
theorem Direct.Faces.movable [Source σ] {alike : σ → σ → Prop} {direct : Direct (Fitful σ)}
    {other : Direct σ}
    (faces : Direct.Faces (fun fitful source => alike fitful.inside source) direct other)
    (indistinct : Source.Indistinct alike)
    (patient : Source.Patient fun source => alike source source) :
    Direct.Movable (fun source => alike source source) other := by
  obtain ⟨returns, standing⟩ := faces
  exact ⟨fun access => Fitful.moves patient (returns access),
    fun _ held => indistinct.right (standing held)⟩

namespace Body

/-! ## The same body over another source -/

section

variable [Source φ] [Source σ]

/-- How the source of a direct body is read. -/
def access? : Body σ → Option Access
  | direct pool => some pool.record.access
  | _ => none

/-- The end or the failure that an open copy of a buffered body has met. -/
def met? (body : Body σ) (index : Nat) : Option Terminal :=
  match body with
  | buffered pool => (pool.cursor? index).bind Buffered.Cursor.terminal
  | _ => none

/-- The same body over another source, if it is over one. -/
def entrust (source : σ) : Body φ → Body σ
  | memory pool => .memory ⟨pool.record, pool.copies⟩
  | direct pool => .direct ⟨pool.record.entrust source, pool.copies⟩
  | buffered pool =>
    .buffered ⟨{ pool.record with custody := pool.record.custody.entrust source }, pool.copies⟩

/-- Bodies of which nothing that can be asked of their copies differs. -/
structure Mirrors (body : Body φ) (other : Body σ) : Prop where
  copies : body.copies = other.copies
  isClosed : body.isClosed = other.isClosed
  offset? : body.offset? = other.offset?
  bytesRemaining : body.bytesRemaining = other.bytesRemaining
  ended : body.ended = other.ended
  met? : body.met? = other.met?
  range : body.range = other.range
  terminal? : body.terminal? = other.terminal?
  length? : body.length? = other.length?
  spoiled : body.spoiled = other.spoiled

theorem mirrors_entrust (body : Body φ) (source : σ) : Mirrors body (body.entrust source) := by
  cases body with
  | memory pool => exact ⟨rfl, rfl, rfl, rfl, rfl, rfl, rfl, rfl, rfl, rfl⟩
  | direct pool => exact ⟨rfl, rfl, rfl, rfl, rfl, rfl, rfl, rfl, rfl, rfl⟩
  | buffered pool => exact ⟨rfl, rfl, rfl, rfl, rfl, rfl, rfl, rfl, rfl, rfl⟩

end

/-! ## Bodies over fitful sources -/

variable [Source σ] [Sink τ] {alike : σ → σ → Prop} {fair : τ → Prop} {body : Body (Fitful σ)}
  {other : Body σ}

/-- The same body over a fitful source and over one that no call tells apart from that inside. -/
inductive Faces (alike : σ → σ → Prop) : Body (Fitful σ) → Body σ → Prop where
  | memory {pool : Pool (Memory.engine (Fitful σ))} {other : Pool (Memory.engine σ)}
      (faces : pool.Faces Eq other) : Faces alike (.memory pool) (.memory other)
  | direct {pool : Pool (Direct.engine (Fitful σ))} {other : Pool (Direct.engine σ)}
      (faces : pool.Faces (Direct.Faces fun fitful source => alike fitful.inside source) other) :
      Faces alike (.direct pool) (.direct other)
  | buffered {pool : Pool (Buffered.engine (Fitful σ))} {other : Pool (Buffered.engine σ)}
      (faces : pool.Faces (Buffered.Faces fun fitful source => alike fitful.inside source) other)
      (orderly : Buffered.Orderly other) (resolved : Buffered.Resolved other.record) :
      Faces alike (.buffered pool) (.buffered other)

/-- Nothing differs but the source. -/
theorem Faces.exists_eq_entrust (faces : Faces alike body other) (any : σ) :
    ∃ source, other = body.entrust source := by
  cases faces with
  | @memory pool other faces =>
      obtain ⟨record, copies⟩ := other
      obtain ⟨rfl, rfl⟩ : pool.record = record ∧ pool.copies = copies :=
        ⟨faces.record, faces.copies⟩
      exact ⟨any, rfl⟩
  | @direct pool other faces =>
      obtain ⟨record, copies⟩ := other
      obtain ⟨⟨-, -⟩, same⟩ := faces
      obtain rfl : pool.copies = copies := same
      exact ⟨_, rfl⟩
  | @buffered pool other faces =>
      obtain ⟨record, copies⟩ := other
      obtain ⟨⟨-⟩, same⟩ := faces
      obtain rfl : pool.copies = copies := same
      exact ⟨_, rfl⟩

/-- A use comes out alike, reports no interruption, and leaves the bodies as alike as they were. -/
theorem Faces.use (indistinct : Source.Indistinct alike)
    (patient : Source.Patient fun source => alike source source) (sinks : Sink.Patient fair)
    (faces : Faces alike body other) {use : Use σ (Fitful τ)}
    (lent : use.Lends (Source.Respects alike)) (poured : use.Pours fun sink => fair sink.inside) :
    (body.use use.fitful).1.map Fitful.inside =
        (other.use use.smooth).1 ∧
      (other.use use.smooth).1.Final ∧
      Faces alike (body.use use.fitful).2
        (other.use use.smooth).2 := by
  have lagging := Fitful.lagging indistinct patient
  have offers := Fitful.lagging_sink sinks
  have joined : use.Lends fun callback =>
      Source.Joined (fun fitful source => alike fitful.inside source) (Fitful.lending callback)
        callback := by
    cases use with
    | visit index callback => exact fun fitful source same => lent fitful.inside source same
    | _ => trivial
  cases faces with
  | @memory pool other faces =>
      obtain ⟨receipt, left⟩ : (pool.use use.fitful).1.map Fitful.inside =
          (other.use use.smooth).1 ∧ _ :=
        faces.use (Memory.faces _) joined fun index sink written cursor _ => by
          subst written
          have turns := Memory.writeTo_alike offers ⟨rfl, poured⟩ pool.record cursor
          rw [← faces.record]
          exact ⟨turns.1, turns.2.1⟩
      rw [use_memory, use_memory]
      exact ⟨receipt,
        Pool.final_use (fun _ _ _ _ => Memory.final_read) (fun _ _ _ _ _ => Memory.final_readAt)
          (fun _ _ _ _ => Memory.final_writeTo),
        .memory left⟩
  | @direct pool other faces =>
      obtain ⟨receipt, left⟩ : (pool.use use.fitful).1.map Fitful.inside =
          (other.use use.smooth).1 ∧ _ :=
        faces.use (Direct.faces lagging) joined fun index sink written cursor _ => by
          subst written
          have turns := faces.record.writeTo lagging offers ⟨rfl, poured⟩ cursor
          exact ⟨turns.1, turns.2.1⟩
      have movable := faces.record.movable indistinct patient
      rw [use_direct, use_direct]
      exact ⟨receipt,
        Pool.final_use (fun _ _ _ _ => movable.final_read) (fun _ _ _ _ _ => movable.final_readAt)
          (fun _ _ _ _ => movable.final_writeTo),
        .direct left⟩
  | @buffered pool other faces orderly resolved =>
      obtain ⟨receipt, left⟩ : (pool.use use.fitful).1.map Fitful.inside =
          (other.use use.smooth).1 ∧ _ :=
        faces.use (Buffered.faces lagging) joined fun index sink written cursor _ => by
          subst written
          have turns := faces.record.writeTo lagging offers ⟨rfl, poured⟩ cursor
          exact ⟨turns.1, turns.2.1⟩
      rw [use_buffered, use_buffered]
      refine ⟨receipt, Pool.final_use (fun buffer cursor error found => ?_) ?_ ?_,
        .buffered left (orderly.afterRun [use.smooth])
          (resolved.afterRun orderly.balanced [use.smooth])⟩
      · exact (orderly.reads found buffer.size).final found orderly.agreed resolved
      · rintro buffer offset cursor _ found ⟨⟩
        exact nofun
      · exact fun sink cursor error found => Buffered.final_writeTo orderly resolved found

/-- A run comes out alike and reports no interruption. -/
theorem Faces.run (indistinct : Source.Indistinct alike)
    (patient : Source.Patient fun source => alike source source) (sinks : Sink.Patient fair)
    (faces : Faces alike body other) {uses : List (Use σ (Fitful τ))}
    (lent : ∀ use ∈ uses, use.Lends (Source.Respects alike))
    (poured : ∀ use ∈ uses, use.Pours fun sink => fair sink.inside) :
    (body.run (uses.map Use.fitful)).1.map (Receipt.map Fitful.inside) =
        (other.run (uses.map Use.smooth)).1 ∧
      (∀ receipt ∈ (other.run (uses.map Use.smooth)).1, receipt.Final) ∧
      Faces alike (body.run (uses.map Use.fitful)).2
        (other.run (uses.map Use.smooth)).2 := by
  induction uses generalizing body other with
  | nil =>
      rw [List.map_nil, List.map_nil, run_nil, run_nil]
      exact ⟨rfl, List.forall_mem_nil _, faces⟩
  | cons use rest ih =>
      obtain ⟨receipt, final, still⟩ := faces.use indistinct patient sinks
        (lent use List.mem_cons_self) (poured use List.mem_cons_self)
      obtain ⟨receipts, finals, last⟩ := ih still
        (fun use member => lent use (List.mem_cons_of_mem _ member))
        (fun use member => poured use (List.mem_cons_of_mem _ member))
      simp only [List.map_cons, run_cons]
      refine ⟨?_, ?_, last⟩
      · rw [receipt, receipts]
      · intro answer member
        rcases List.mem_cons.mp member with rfl | later
        · exact final
        · exact finals answer later

/-- No interruption is kept as the end of a stream. -/
theorem Faces.resolved (faces : Faces alike body other) {terminal : Terminal}
    (on_record : other.terminal? = some terminal) : terminal.Final := by
  cases faces with
  | memory => cases on_record
  | direct => cases on_record
  | buffered faces orderly resolved => exact resolved terminal on_record

/-- No copy has met an interruption as the end of its stream. -/
theorem Faces.met (faces : Faces alike body other) {index : Nat} {terminal : Terminal}
    (met : other.met? index = some terminal) : terminal.Final := by
  cases faces with
  | memory => cases met
  | direct => cases met
  | @buffered pool other faces orderly resolved =>
      obtain ⟨cursor, found, there⟩ := Option.bind_eq_some_iff.mp met
      have same := orderly.agreed cursor (Pool.mem_cursors_iff.mpr ⟨_, found⟩) terminal there
      exact resolved terminal same.1

/-- A new body over a source and over a fitful one. -/
theorem New.faces (new : other.New) {fitful : Fitful σ}
    (standing : ∀ source, other.source? = some source → alike fitful.inside source)
    (returns : other.access? = some .seeking →
      Source.Returning fun (fitful : Fitful σ) source => alike fitful.inside source) :
    Faces alike (other.entrust fitful) other := by
  cases new with
  | closed => exact .memory ⟨rfl, rfl⟩
  | ofBytes data => exact .memory ⟨rfl, rfl⟩
  | overDirect source access base length =>
      have same := standing source rfl
      have start : Direct.Faces (fun fitful source => alike fitful.inside source)
          { custody := { source := fitful }, access, base, length }
          (Direct.entrust { custody := { source := fitful }, access, base, length } source) := by
        refine .of (fun moved => ?_) fun _ => same
        exact returns (congrArg some moved)
      exact .direct ⟨start, rfl⟩
  | overSequence source length blockSize =>
      have same := standing source rfl
      have start : Buffered.Faces (fun fitful source => alike fitful.inside source)
          (Buffered.start fitful length blockSize) (Buffered.start source length blockSize) :=
        .of fun _ => same
      exact .buffered ⟨start, rfl⟩ (Buffered.orderly_fresh source length blockSize)
        (Buffered.resolved_start _ _ _)

/-! ## Every run -/

/-- Uses of which none comes out differently, or leaves anything else, for the interruptions that
come between. -/
structure Unnoticed (uses : List (Use σ (Fitful τ))) (body : Body (Fitful σ)) (other : Body σ) :
    Prop where
  receipts : (body.run (uses.map Use.fitful)).1.map (Receipt.map Fitful.inside) =
    (other.run (uses.map Use.smooth)).1
  state : ∃ source, other.afterRun (uses.map Use.smooth) =
    (body.afterRun (uses.map Use.fitful)).entrust source
  mirrors : Mirrors (body.afterRun (uses.map Use.fitful)) (other.afterRun (uses.map Use.smooth))
  final : ∀ receipt ∈ (body.run (uses.map Use.fitful)).1, receipt.Final
  resolved : ∀ terminal, (body.afterRun (uses.map Use.fitful)).terminal? = some terminal →
    terminal.Final
  met : ∀ index terminal, (body.afterRun (uses.map Use.fitful)).met? index = some terminal →
    terminal.Final

/-- Whatever interruptions come before the reads of a source and the offers to sinks, no use of a
new body over it comes out differently, and the copies are left the same: where they stand, what
they have met, what is kept for them and how long the stream is.  A copy whose reading out would
never come back does not come back either.  No read and no reading out reports an interruption, and
none is put on record.  Source and sinks interrupt no more often than they announce, and callbacks
must not tell apart what no call does; where the source is moved for every read, it must move, and
come to the same place again. -/
theorem run_new_unnoticed (indistinct : Source.Indistinct alike)
    (patient : Source.Patient fun source => alike source source) (sinks : Sink.Patient fair)
    {other : Body σ} (new : other.New) {fitful : Fitful σ}
    (standing : ∀ source, other.source? = some source → alike fitful.inside source)
    (reseeks : other.access? = some .seeking → Source.Reseeks alike)
    {uses : List (Use σ (Fitful τ))}
    (lent : ∀ use ∈ uses, use.Lends (Source.Respects alike))
    (poured : ∀ use ∈ uses, use.Pours fun sink => fair sink.inside) :
    Unnoticed uses (other.entrust fitful) other := by
  have faces := new.faces standing fun moved => Fitful.returning indistinct (reseeks moved)
  obtain ⟨receipts, finals, last⟩ := faces.run indistinct patient sinks lent poured
  obtain ⟨source, same⟩ := last.exists_eq_entrust fitful.inside
  have mirrors : Mirrors ((other.entrust fitful).afterRun (uses.map Use.fitful))
      (other.afterRun (uses.map Use.smooth)) := by
    change Mirrors _ (other.run _).2
    rw [same]
    exact mirrors_entrust _ source
  refine ⟨receipts, ⟨source, same⟩, mirrors, fun receipt member => ?_, fun terminal on_record => ?_,
    fun index terminal met => ?_⟩
  · refine (receipt.final_map Fitful.inside).mp (finals _ ?_)
    rw [← receipts]
    exact List.mem_map_of_mem member
  · exact last.resolved (mirrors.terminal?.symm.trans on_record)
  · exact last.met ((congrFun mirrors.met? index).symm.trans met)

/-- A device that gives its bytes by twos, moved for every read or read in sequence, and interrupted
three times; and a sink that is interrupted while a copy is read out into it. -/
theorem run_new_unnoticed_of_moved :
    let interruption : Interruption := ⟨⟨.interrupted, .plain⟩, rfl⟩
    let device : Device := { content := ⟨#[1, 2, 3, 4, 5]⟩, seekable := true, chunk := some 2 }
    let fitful : Fitful Device := ⟨device, [some interruption, some interruption, none,
      some interruption]⟩
    let sink : Fitful Gauge := ⟨{ chunk := some 1 }, [none, some interruption]⟩
    let uses : List (Use Device (Fitful Gauge)) :=
      [.read 0 (.fresh 1), .copy 0, .visit 0 fun device => (some (), device), .writeTo 1 sink,
        .readAt 0 (.fresh 3) 2]
    Unnoticed uses (overDirect fitful .seeking 0 5) (overDirect device .seeking 0 5) ∧
      Unnoticed uses (overSequence fitful none 2) (overSequence device none 2) ∧
      ((overDirect fitful .seeking 0 5).afterRun (uses.map Use.fitful)).source?.map
        Fitful.breaks = some [] ∧
      ((overDirect device .seeking 0 5).afterRun (uses.map Use.smooth)).offset? 1 = some 5 := by
  intro interruption device fitful sink uses
  have obliging : device.Obliging := ⟨rfl, rfl⟩
  have indistinct := Source.indistinct_eq Device.Obliging.works
  have patient := Source.patient_eq Device.patient_obliging
  have lent : ∀ use ∈ uses, use.Lends
      (Source.Respects fun device other => device = other ∧ device.Obliging) := by
    simp [uses, Use.Lends, Source.Respects]
  have poured : ∀ use ∈ uses, use.Pours fun _ => True := by
    simp [uses, Use.Pours]
  refine ⟨?_, ?_, by cbv, by cbv⟩
  · change Unnoticed uses ((overDirect device .seeking 0 5).entrust fitful) _
    exact run_new_unnoticed indistinct patient Gauge.patient_any
      (.overDirect device .seeking 0 5) (by rintro _ ⟨⟩; exact ⟨rfl, obliging⟩)
      (fun _ => Device.reseeks_obliging) lent poured
  · change Unnoticed uses ((overSequence device none 2).entrust fitful) _
    exact run_new_unnoticed indistinct patient Gauge.patient_any
      (.overSequence device none 2) (by rintro _ ⟨⟩; exact ⟨rfl, obliging⟩)
      (fun moved => by cases moved) lent poured

end Body

end Payload
