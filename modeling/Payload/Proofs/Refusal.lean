import Payload.Proofs.Memory
import Payload.Proofs.Rounds
import Payload.Sink.Watched

/-!
# Reading out to a sink that refuses

A sink may refuse an offer after it has taken some of what it was offered before.  A copy of bytes
in memory then stands where the sink stopped, and goes on from there.  Any other copy stands behind
the piece that was being offered, so that what the sink did not take of it is lost to that copy, and
is no more than that piece.
-/

namespace Payload

variable {σ τ : Type} [Sink τ]

/-! ## Offers to a watched sink -/

namespace Watched

/-- A watched sink answers as the sink inside, and keeps what it said. -/
theorem write_eq {bytes : ByteArray} {start : Nat} {watched : Watched τ}
    {answer : Outcome Fault Nat} {sink : τ}
    (offer : Sink.write bytes start watched.sink = (answer, sink)) :
    Sink.write bytes start watched =
      (answer, ⟨sink, answer :: watched.answers, watched.taken ++ took bytes start answer⟩) := by
  change Watched.write bytes start watched = _
  rw [Watched.write, offer]

theorem toList_took (bytes taken : ByteArray) (start count : Nat) :
    (taken ++ took bytes start (.done count)).data.toList =
      taken.data.toList ++ span bytes.data.toList start (start + count) := by
  rw [ByteArray.data_append, Array.toList_append, took, toList_stretch]

/-- Nothing is taken where nothing was done. -/
theorem took_failed (bytes taken : ByteArray) (start : Nat) (fault : Fault) :
    (taken ++ took bytes start (.failed fault)).data.toList = taken.data.toList := by
  simp [took]

/-- A sink that is offered the bytes from `start` on has taken those up to `stop`, and refuses the
next of them with this fault. -/
structure Refuses (bytes : ByteArray) (start stop : Nat) (watched : Watched τ) (fault : Fault)
    (next : Watched τ) : Prop where
  onwards : start ≤ stop
  short : stop < bytes.size
  kept : next.taken.data.toList = watched.taken.data.toList ++ span bytes.data.toList start stop
  refusal : next.refusal? = some fault.kind
  latest : ∀ given, next.answers.head? = some (.failed given) → given = fault

omit [Sink τ] in
/-- What goes on from further into the bytes goes on from here. -/
theorem Refuses.further {bytes : ByteArray} {start middle stop : Nat}
    {watched between next : Watched τ} {fault : Fault}
    (refuses : Refuses bytes middle stop between fault next) (onwards : start ≤ middle)
    (kept : between.taken.data.toList =
      watched.taken.data.toList ++ span bytes.data.toList start middle) :
    Refuses bytes start stop watched fault next where
  onwards := Nat.le_trans onwards refuses.onwards
  short := refuses.short
  kept := by
    rw [refuses.kept, kept, List.append_assoc, span_append _ onwards refuses.onwards]
  refusal := refuses.refusal
  latest := refuses.latest

omit [Sink τ] in
/-- To take nothing is to refuse, by a fault of this kind. -/
theorem refuses_of_nothing {bytes : ByteArray} {start : Nat} (inside : start < bytes.size)
    (watched : Watched τ) {fault : Fault} (kind : fault.kind = .writeZero) (sink : τ) :
    Refuses bytes start start watched fault
      ⟨sink, .done 0 :: watched.answers, watched.taken ++ took bytes start (.done 0)⟩ where
  onwards := Nat.le_refl _
  short := inside
  kept := toList_took _ _ _ _
  refusal := congrArg some kind.symm
  latest := nofun

omit [Sink τ] in
theorem refuses_of_failed {bytes : ByteArray} {start : Nat} (inside : start < bytes.size)
    (watched : Watched τ) {fault : Fault} (final : ¬fault.interrupts = true) (sink : τ) :
    Refuses bytes start start watched fault
      ⟨sink, .failed fault :: watched.answers,
        watched.taken ++ took bytes start (.failed fault)⟩ where
  onwards := Nat.le_refl _
  short := inside
  kept := by rw [took_failed, span_self, List.append_nil]
  refusal := if_neg final
  latest := by
    rintro given latest
    cases latest
    rfl

/-- Reading out reports, as its own failure, the fault under which the sink refused its latest
offer. -/
def Reported (watched : Watched τ) (kind : FaultKind) (reply : Reply Nat) : Prop :=
  ∃ fault : Fault, reply = .failed ⟨.writeTo, .fault fault⟩ ∧ fault.kind = kind ∧
    ∀ given, watched.answers.head? = some (.failed given) → given = fault

omit [Sink τ] in
theorem Refuses.reported {bytes : ByteArray} {start stop : Nat} {watched next : Watched τ}
    {fault : Fault} (refuses : Refuses bytes start stop watched fault next) {kind : FaultKind}
    (refused : next.refusal? = some kind) {reply : Reply Nat}
    (came : reply = .failed ⟨.writeTo, .fault fault⟩) : next.Reported kind reply :=
  ⟨fault, came, Option.some.inj (refuses.refusal.symm.trans refused), refuses.latest⟩

/-- What the offer of the bytes from `start` on comes to, all of them being offered until they are
taken. -/
inductive Offered (bytes : ByteArray) (start : Nat) (watched : Watched τ) :
    Outcome Fault Unit × Watched τ → Prop where
  | taken {next : Watched τ} (willing : next.refusal? = none)
      (kept : next.taken.data.toList =
        watched.taken.data.toList ++ span bytes.data.toList start bytes.size) :
      Offered bytes start watched (.done (), next)
  | refused {stop : Nat} {fault : Fault} {next : Watched τ}
      (refuses : Refuses bytes start stop watched fault next) :
      Offered bytes start watched (.failed fault, next)
  | broke {next : Watched τ} (willing : next.refusal? = none) :
      Offered bytes start watched (.broke, next)

omit [Sink τ] in
theorem Offered.further {bytes : ByteArray} {start middle : Nat} {watched between : Watched τ}
    {out : Outcome Fault Unit × Watched τ} (offered : Offered bytes middle between out)
    (onwards : start ≤ middle) (within : middle ≤ bytes.size)
    (kept : between.taken.data.toList =
      watched.taken.data.toList ++ span bytes.data.toList start middle) :
    Offered bytes start watched out := by
  cases offered with
  | taken willing more =>
      refine .taken willing ?_
      rw [more, kept, List.append_assoc, span_append _ onwards within]
  | refused refuses => exact .refused (refuses.further onwards kept)
  | broke willing => exact .broke willing

omit [Sink τ] in
/-- An interruption leaves a sink that has refused nothing. -/
theorem refusal?_of_interrupted {fault : Fault} (again : fault.interrupts = true) (sink : τ)
    (answers : List (Outcome Fault Nat)) (taken : ByteArray) :
    (⟨sink, .failed fault :: answers, taken⟩ : Watched τ).refusal? = none := by
  simp [refusal?, refusing?, again]

theorem offered_takeFrom (bytes : ByteArray) (tries : Nat) {start : Nat} {watched : Watched τ}
    (willing : watched.refusal? = none) (within : start ≤ bytes.size) :
    Offered bytes start watched (Sink.takeFrom bytes tries start watched) := by
  induction tries generalizing start watched with
  | zero => exact .broke willing
  | succ tries ih =>
      unfold Sink.takeFrom
      split
      · rename_i past
        refine .taken willing ?_
        rw [Nat.le_antisymm within past, span_self, List.append_nil]
      · rename_i inside
        have inside : start < bytes.size := Nat.lt_of_not_le inside
        rcases offer : Sink.write bytes start watched.sink with ⟨count | fault | _, sink⟩
        · rw [write_eq offer]
          cases count with
          | zero => exact .refused (refuses_of_nothing inside watched rfl sink)
          | succ fewer =>
              simp only
              split
              · exact .broke rfl
              · exact (ih rfl (by omega)).further (by omega) (by omega) (toList_took _ _ _ _)
        · rw [write_eq offer]
          simp only
          split
          · rename_i again
            refine
              (ih (refusal?_of_interrupted again _ _ _) within).further (Nat.le_refl _) within ?_
            rw [took_failed, span_self, List.append_nil]
          · rename_i final
            exact .refused (refuses_of_failed inside watched final sink)
        · rw [write_eq offer]
          exact .broke rfl

theorem offered_takeAll (bytes : ByteArray) {watched : Watched τ}
    (willing : watched.refusal? = none) :
    Offered bytes 0 watched (Sink.takeAll bytes watched) :=
  offered_takeFrom bytes _ willing (Nat.zero_le _)

/-- A sink that was passed pieces, one after the other, has taken all of them and refused none. -/
theorem passed {watched last : Watched τ} {pieces : List ByteArray}
    (passed : Sink.Passed watched pieces last) (willing : watched.refusal? = none) :
    last.refusal? = none ∧ last.taken.data.toList =
      watched.taken.data.toList ++ pieces.flatMap fun piece => piece.data.toList := by
  induction passed with
  | start => exact ⟨willing, by simp⟩
  | @further pieces bytes between last passed offer ih =>
      have offered := offered_takeAll bytes ih.1
      rw [offer] at offered
      cases offered with
      | taken willing kept =>
          have whole : span bytes.data.toList 0 bytes.size = bytes.data.toList :=
            List.take_of_length_le (by simp)
          exact ⟨willing, by rw [kept, ih.2, whole]; simp⟩

end Watched

/-! ## Copies in memory -/

/-- What offering the rest of some bytes in memory comes to. -/
inductive Memory.Spilled (data : ByteArray) (watched : Watched τ) (cursor : Cursor) :
    Turn ByteArray Cursor Nat × Watched τ → Prop where
  | willing {turn : Turn ByteArray Cursor Nat} {next : Watched τ}
      (willing : next.refusal? = none) : Spilled data watched cursor (turn, next)
  | refused {stop : Nat} {fault : Fault} {next : Watched τ}
      (refuses : Watched.Refuses data cursor.offset stop watched fault next) :
      Spilled data watched cursor
        (⟨.failed ⟨.writeTo, .fault fault⟩, data, { cursor with offset := stop }, []⟩, next)

namespace Memory

omit [Sink τ] in
theorem Spilled.further {data : ByteArray} {watched between : Watched τ} {cursor : Cursor}
    {out : Turn ByteArray Cursor Nat × Watched τ} (middle : Nat)
    (spilled : Spilled data between { cursor with offset := middle } out)
    (onwards : cursor.offset ≤ middle)
    (kept : between.taken.data.toList =
      watched.taken.data.toList ++ span data.data.toList cursor.offset middle) :
    Spilled data watched cursor out := by
  cases spilled with
  | willing willing => exact .willing willing
  | refused refuses => exact .refused (refuses.further onwards kept)

theorem spilled_spill (data : ByteArray) (tries total : Nat) {watched : Watched τ}
    (willing : watched.refusal? = none) (cursor : Cursor) :
    Spilled data watched cursor (spill data tries total watched cursor) := by
  induction tries generalizing total watched cursor with
  | zero => exact .willing willing
  | succ tries ih =>
      unfold spill
      split
      · exact .willing willing
      · split
        · exact .willing willing
        · have inside : cursor.offset < data.size := by omega
          rcases offer : Sink.write data cursor.offset watched.sink with ⟨count | fault | _, sink⟩
          · rw [Watched.write_eq offer]
            cases count with
            | zero => exact .refused (Watched.refuses_of_nothing inside watched rfl sink)
            | succ fewer =>
                simp only
                split
                · exact .willing rfl
                · exact (ih _ rfl _).further _ (Nat.le_add_right _ _) (Watched.toList_took _ _ _ _)
          · rw [Watched.write_eq offer]
            simp only
            split
            · rename_i again
              refine Spilled.further cursor.offset
                (ih _ (Watched.refusal?_of_interrupted again _ _ _) cursor) (Nat.le_refl _) ?_
              rw [Watched.took_failed, span_self, List.append_nil]
            · rename_i final
              exact .refused (Watched.refuses_of_failed inside watched final sink)
          · rw [Watched.write_eq offer]
            exact .willing rfl

theorem spilled_writeTo (data : ByteArray) {watched : Watched τ}
    (willing : watched.refusal? = none) (cursor : Cursor) :
    Spilled data watched cursor (writeTo watched data cursor) := by
  unfold writeTo
  split
  · exact .willing willing
  · exact spilled_spill data _ 0 willing cursor

end Memory

/-! ## What is left to a copy -/

/-- A copy has these bytes left: a read gives the first of them, and to read it out gives a willing
sink all of them. -/
structure Body.Left [Source σ] (τ : Type) [Sink τ] (body : Body σ) (index : Nat)
    (rest : List UInt8) : Prop where
  read : rest ≠ [] → ∀ buffer : Buffer, 0 < buffer.size →
    ∃ bytes, (body.read index buffer).reply = .done bytes ∧
      bytes.data.toList = rest.take buffer.size
  writeTo : ∀ {willing : τ → Prop} {content : τ → List UInt8}, Sink.Willing willing content →
    ∀ {sink : τ}, willing sink →
      (body.writeTo index sink).1.reply = .done rest.length ∧
        content (body.writeTo index sink).2 = content sink ++ rest

/-- A copy in memory has the bytes left that lie from its place on. -/
theorem Body.left_memory [Source σ] {pool : Pool (Memory.engine σ)} {index : Nat} {cursor : Cursor}
    (found : pool.cursor? index = some cursor) (going : cursor.ended = false)
    (inside : cursor.offset ≤ pool.record.size) :
    Left τ (.memory pool) index (pool.record.data.toList.drop cursor.offset) where
  read more buffer asks := by
    have within : cursor.offset < pool.record.size := by
      refine Nat.lt_of_not_le fun past => more (List.drop_eq_nil_of_le ?_)
      simpa using past
    refine ⟨stretch pool.record cursor.offset buffer.size, ?_, ?_⟩
    · refine (Pool.act_of_open found .read ((Memory.engine σ).read buffer)).1.trans ?_
      change (Memory.read buffer.size pool.record cursor).reply = _
      rw [Memory.read, if_neg (by simp [going]), if_neg (Nat.ne_of_gt asks),
        if_neg (Nat.not_lt.mpr inside), if_neg (Nat.ne_of_gt within)]
    · rw [toList_stretch, span, Nat.add_sub_cancel_left]
  writeTo {willing content} sinks {sink} ready := by
    obtain ⟨next, writes, -, content_eq⟩ :=
      Memory.writeTo_willing sinks pool.record ready going inside
    obtain ⟨reply, -, sinks⟩ := Pool.writeTo_of_open found sink
    change (pool.writeTo index sink).1.reply = _ ∧ content (pool.writeTo index sink).2 = _
    rw [reply, sinks]
    change (Memory.writeTo sink pool.record cursor).1.reply = _ ∧
      content (Memory.writeTo sink pool.record cursor).2 = _
    rw [writes]
    exact ⟨by simp, content_eq⟩

/-- A copy in memory that the sink refuses stands where the sink stopped. -/
theorem Memory.exists_refuses {pool : Pool (Memory.engine σ)} {index : Nat} {cursor : Cursor}
    (found : pool.cursor? index = some cursor) {watched : Watched τ}
    (willing : watched.refusal? = none) {kind : FaultKind}
    (refused : (pool.writeTo index watched).2.refusal? = some kind) :
    cursor.ended = false ∧ ∃ stop fault,
      (pool.writeTo index watched).1.reply = .failed ⟨.writeTo, .fault fault⟩ ∧
        (pool.writeTo index watched).1.state =
          pool.put index pool.record { cursor with offset := stop } ∧
        Watched.Refuses pool.record cursor.offset stop watched fault
          (pool.writeTo index watched).2 := by
  obtain ⟨reply, state, sinks⟩ := Pool.writeTo_of_open found watched
  rw [reply, state, sinks]
  rw [sinks] at refused
  change (writeTo watched pool.record cursor).2.refusal? = some kind at refused
  change _ ∧ ∃ stop fault, (writeTo watched pool.record cursor).1.reply = _ ∧
    pool.put index (writeTo watched pool.record cursor).1.record
        (writeTo watched pool.record cursor).1.cursor = _ ∧
      Watched.Refuses _ _ _ _ _ (writeTo watched pool.record cursor).2
  have going : cursor.ended = false := by
    cases ended : cursor.ended with
    | false => rfl
    | true =>
        rw [writeTo, if_pos ended, willing] at refused
        cases refused
  have spilled := spilled_writeTo pool.record willing cursor
  generalize writeTo watched pool.record cursor = out at spilled refused ⊢
  cases spilled with
  | willing still =>
      rw [still] at refused
      cases refused
  | @refused stop fault next refuses => exact ⟨going, stop, fault, rfl, rfl, refuses⟩

/-! ## Copies that are read out in pieces -/

/-- What was taken of the pieces that reads into buffers of one size gave: all but some of the last
of them. -/
structure Strands {state : Type} (run : List Buffer → List (Receipt τ) × state) (size : Nat)
    (taken : ByteArray) (buffers : List Buffer) (pieces : List ByteArray) (after : state) :
    Prop where
  sized : ∀ buffer ∈ buffers, buffer.size = size
  gave : (run buffers).1 = pieces.map fun piece => .bytes (.done piece)
  state : after = (run buffers).2
  ahead : taken.data.toList <+: pieces.flatMap fun piece => piece.data.toList
  behind : taken.size < byteCount pieces
  near : byteCount pieces ≤ taken.size + size

omit [Sink τ] in
theorem Strands.map {state other : Type} {run : List Buffer → List (Receipt τ) × state}
    {size : Nat} {taken : ByteArray} {buffers : List Buffer} {pieces : List ByteArray}
    {after : state} (strands : Strands run size taken buffers pieces after)
    (lift : state → other) {run' : List Buffer → List (Receipt τ) × other}
    (same : ∀ buffers, run' buffers = ((run buffers).1, lift (run buffers).2)) :
    Strands run' size taken buffers pieces (lift after) where
  sized := strands.sized
  gave := by rw [same, strands.gave]
  state := by rw [same, strands.state]
  ahead := strands.ahead
  behind := strands.behind
  near := strands.near

/-- Where the last round leaves a sink refusing that was willing before, the round gave bytes, and
these were refused. -/
theorem Closes.exists_refuses {total : Nat} {watched : Watched τ}
    (willing : watched.refusal? = none) {reply : Reply ByteArray} {came : Reply Nat}
    {next : Watched τ} (closes : Closes total watched reply (came, next)) {kind : FaultKind}
    (refused : next.refusal? = some kind) :
    ∃ bytes stop fault, reply = .done bytes ∧ came = .failed ⟨.writeTo, .fault fault⟩ ∧
      Watched.Refuses bytes 0 stop watched fault next := by
  have settled (none : next.refusal? = none) : False := by
    rw [none] at refused
    cases refused
  cases closes with
  | stopped error => exact (settled willing).elim
  | broke => exact (settled willing).elim
  | @swallowed bytes _ offer =>
      have offered := Watched.offered_takeAll bytes willing
      rw [offer] at offered
      cases offered with
      | broke still => exact (settled still).elim
  | @refused bytes fault _ offer =>
      have offered := Watched.offered_takeAll bytes willing
      rw [offer] at offered
      cases offered with
      | refused refuses => exact ⟨bytes, _, fault, rfl, rfl, refuses⟩

omit [Sink τ] in
/-- Pieces that were taken before one that is refused, which fits the size. -/
theorem Strands.of_refuses {τ' state : Type} {run : List Buffer → List (Receipt τ') × state}
    {size stop : Nat} {buffers : List Buffer} {pieces : List ByteArray} {bytes : ByteArray}
    {watched next : Watched τ} {fault : Fault} {after : state}
    (sized : ∀ buffer ∈ buffers, buffer.size = size)
    (gave : (run buffers).1 = (pieces ++ [bytes]).map fun piece => .bytes (.done piece))
    (left : after = (run buffers).2)
    (kept : watched.taken.data.toList = pieces.flatMap fun piece => piece.data.toList)
    (refuses : Watched.Refuses bytes 0 stop watched fault next) (fits : bytes.size ≤ size) :
    Strands run size next.taken buffers (pieces ++ [bytes]) after := by
  have short := refuses.short
  have taken_eq : next.taken.data.toList =
      (pieces.flatMap fun piece => piece.data.toList) ++ span bytes.data.toList 0 stop := by
    rw [refuses.kept, kept]
  have size_eq : next.taken.size = byteCount pieces + stop := by
    have lengths := congrArg List.length taken_eq
    rw [List.length_append, length_flatMap_toList,
      length_span (by simpa using Nat.le_of_lt short)] at lengths
    simpa using lengths
  refine ⟨sized, gave, left, ?_, ?_, ?_⟩
  · rw [taken_eq, List.flatMap_append]
    refine (List.prefix_append_right_inj _).mpr ?_
    simpa [span] using List.take_prefix stop bytes.data.toList
  · rw [byteCount_append, byteCount_singleton, size_eq]
    omega
  · rw [byteCount_append, byteCount_singleton, size_eq]
    omega

/-- A copy that is read out in pieces, of which the sink refuses one, is left behind that piece. -/
theorem Pool.exists_strands {ρ κ : Type} {engine : Engine σ ρ κ} {offset : κ → Nat}
    {I : Pool engine → Prop} (forwards : engine.Forwards offset I) {pool : Pool engine}
    (holds : I pool) {index : Nat} {cursor : κ} (found : pool.cursor? index = some cursor)
    {buffer : Buffer} {watched : Watched τ} (unused : watched.taken = .empty)
    (willing : watched.refusal? = none)
    (writes : engine.writeTo watched pool.record cursor =
      pump engine.read buffer watched pool.record cursor) {kind : FaultKind}
    (refused : (pool.writeTo index watched).2.refusal? = some kind) :
    (pool.writeTo index watched).2.Reported kind (pool.writeTo index watched).1.reply ∧
      ∃ buffers pieces last,
        (pool.writeTo index watched).1.state.cursor? index = some last ∧
          offset last = offset cursor + byteCount pieces ∧
          Strands (fun buffers =>
              pool.run (buffers.map (Use.read index : Buffer → Use σ (Watched τ))))
            buffer.size (pool.writeTo index watched).2.taken buffers pieces
            (pool.writeTo index watched).1.state := by
  rcases comesOut_of_pump found writes with @⟨buffers, final, pieces, reply, ends⟩ | ⟨-, passed⟩
  · obtain ⟨between, passed, closes⟩ := ends.closes
    obtain ⟨still, kept⟩ := Watched.passed passed willing
    obtain ⟨bytes, stop, fault, rfl, came, refuses⟩ := closes.exists_refuses still refused
    have gave : (pool.run ((buffers ++ [final]).map
        (Use.read index : Buffer → Use σ (Watched τ)))).1 =
        (pieces ++ [bytes]).map fun piece => .bytes (.done piece) := by
      rw [ends.last, List.map_append]
      rfl
    obtain ⟨last, there, reached, -⟩ := forwards.moved holds found gave
    have fits : ∀ piece ∈ pieces ++ [bytes], piece.size ≤ buffer.size :=
      forwards.forall_pieces holds
        (fun other member piece within _ => ends.sized other member ▸ within) gave
    have so_far : between.taken.data.toList = pieces.flatMap fun piece => piece.data.toList := by
      rw [kept, unused]
      rfl
    refine ⟨refuses.reported refused came, buffers ++ [final], pieces ++ [bytes], last,
      ends.state ▸ there, reached, ?_⟩
    exact .of_refuses ends.sized gave ends.state so_far refuses
      (fits bytes (List.mem_append_right _ List.mem_cons_self))
  · rw [(Watched.passed passed willing).1] at refused
    cases refused

namespace Body

variable [Source σ]

/-- What reading out a copy comes to that the sink refuses. -/
structure Stranded (body : Body σ) (index : Nat) (kind : FaultKind)
    (out : Effect (Body σ) Nat × Watched τ) : Prop where
  /-- The error names the operation, with the sink's own fault. -/
  reported : out.2.Reported kind out.1.reply
  /-- A copy in memory stands where the sink stopped taking, is no more at its end than it was, and
  has left what the sink did not take. -/
  whole : body.scratch? index = none → ∃ offset rest, rest ≠ [] ∧
    body.offset? index = some offset ∧
    out.1.state.offset? index = some (offset + out.2.taken.size) ∧
    out.1.state.ended index = body.ended index ∧
    Left τ body index (out.2.taken.data.toList ++ rest) ∧ Left τ out.1.state index rest
  /-- Any other copy stands where reads leave it that give what the sink took and more, up to the
  end of a piece; and nothing more was read. -/
  pieces : ∀ block, body.scratch? index = some block → ∃ offset buffers pieces,
    body.offset? index = some offset ∧
      out.1.state.offset? index = some (offset + byteCount pieces) ∧
      Strands (fun buffers => body.run (buffers.map (Use.read index : Buffer → Use σ (Watched τ))))
        block out.2.taken buffers pieces out.1.state

theorem stranded_memory {pool : Pool (Memory.engine σ)} {index : Nat} {cursor : Cursor}
    (found : pool.cursor? index = some cursor) {sink : τ} {kind : FaultKind}
    (refused : (pool.writeTo index (Watched.watch sink)).2.refusal? = some kind) :
    Stranded (.memory pool) index kind
      ((Body.memory pool).writeTo index (Watched.watch sink)) := by
  obtain ⟨going, stop, fault, reply, state, refuses⟩ := Memory.exists_refuses found rfl refused
  change Stranded _ _ _ (⟨(pool.writeTo index _).1.reply, .memory (pool.writeTo index _).1.state,
    (pool.writeTo index _).1.notes⟩, (pool.writeTo index _).2)
  generalize pool.writeTo index (Watched.watch sink) = out
    at refused reply state refuses ⊢
  have here := Pool.cursor?_put_self found pool.record { cursor with offset := stop }
  have onwards := refuses.onwards
  have short := refuses.short
  have kept : out.2.taken.data.toList = span pool.record.data.toList cursor.offset stop :=
    refuses.kept
  have size_eq := size_of_span kept (by simpa using Nat.le_of_lt short)
  have rest_eq : span pool.record.data.toList cursor.offset stop ++
      pool.record.data.toList.drop stop = pool.record.data.toList.drop cursor.offset := by
    rw [span, ← Nat.add_sub_cancel' onwards, ← List.drop_drop, Nat.add_sub_cancel_left,
      List.take_append_drop]
  refine ⟨refuses.reported refused reply, fun _ => ?_, fun block cuts => (by cases cuts)⟩
  refine ⟨cursor.offset, pool.record.data.toList.drop stop, ?_, ?_, ?_, ?_, ?_, ?_⟩
  · simpa using short
  · exact congrArg (Option.map Cursor.offset) found
  · dsimp only
    rw [state, size_eq, Nat.add_sub_cancel' onwards]
    exact congrArg (Option.map Cursor.offset) here
  · dsimp only
    rw [state]
    exact (Pool.ended_of_open here).trans (Pool.ended_of_open found).symm
  · dsimp only
    rw [kept, rest_eq]
    exact left_memory found going (by omega)
  · dsimp only
    rw [state]
    exact left_memory here going (Nat.le_of_lt short)

theorem stranded_direct {pool : Pool (Direct.engine σ)} {index : Nat} {cursor : Cursor}
    (found : pool.cursor? index = some cursor) {sink : τ} {kind : FaultKind}
    (refused : (pool.writeTo index (Watched.watch sink)).2.refusal? = some kind) :
    Stranded (.direct pool) index kind
      ((Body.direct pool).writeTo index (Watched.watch sink)) := by
  obtain ⟨reported, buffers, pieces, last, there, reached, strands⟩ :=
    Pool.exists_strands Direct.forwards trivial found rfl rfl rfl refused
  refine ⟨reported, fun uncut => (by cases uncut),
    fun block cuts => ⟨cursor.offset, buffers, pieces, ?_, ?_, ?_⟩⟩
  · exact congrArg (Option.map Cursor.offset) found
  · exact (congrArg (Option.map Cursor.offset) there).trans (congrArg some reached)
  · have block_eq : scratch defaultBlock (pool.remaining index) = block := Option.some.inj cuts
    rw [Pool.remaining_of_open found] at block_eq
    exact block_eq ▸ strands.map Body.direct fun _ => run_direct _ pool

theorem stranded_buffered {pool : Pool (Buffered.engine σ)} (orderly : Buffered.Orderly pool)
    {index : Nat} {cursor : Buffered.Cursor} (found : pool.cursor? index = some cursor) {sink : τ}
    {kind : FaultKind}
    (refused : (pool.writeTo index (Watched.watch sink)).2.refusal? = some kind) :
    Stranded (.buffered pool) index kind
      ((Body.buffered pool).writeTo index (Watched.watch sink)) := by
  have writes : (Buffered.engine σ).writeTo (Watched.watch sink) pool.record cursor =
      pump (Buffered.engine σ).read
        (.fresh (scratch pool.record.blockSize (pool.record.remaining cursor)))
        (Watched.watch sink) pool.record cursor := by
    refine if_neg fun excess => ?_
    rw [(Pool.writeTo_of_open found _).2.2] at refused
    change (Buffered.writeTo (Watched.watch sink) pool.record cursor).2.refusal? = _ at refused
    rw [Buffered.writeTo, if_pos excess] at refused
    cases refused
  obtain ⟨reported, buffers, pieces, last, there, reached, strands⟩ :=
    Pool.exists_strands Buffered.forwards orderly found rfl rfl writes refused
  refine ⟨reported, fun uncut => (by cases uncut),
    fun block cuts => ⟨cursor.offset, buffers, pieces, ?_, ?_, ?_⟩⟩
  · exact congrArg (Option.map Buffered.Cursor.offset) found
  · exact (congrArg (Option.map Buffered.Cursor.offset) there).trans (congrArg some reached)
  · have block_eq : scratch pool.record.blockSize (pool.remaining index) = block :=
      Option.some.inj cuts
    rw [Pool.remaining_of_open found] at block_eq
    exact block_eq ▸ strands.map Body.buffered fun _ => run_buffered _ pool

/-- Whatever was asked of a new body before: where reading out a copy fails because the sink refused
an offer, a copy in memory goes on from where the sink stopped, and any other copy from behind the
piece that the sink refused. -/
theorem afterRun_new_stranded {begun : Body σ} (new : New begun) (uses : List (Use σ τ))
    (index : Nat) (sink : τ) {kind : FaultKind}
    (refused : ((begun.afterRun uses).writeTo index
      (Watched.watch sink)).2.refusal? = some kind) :
    Stranded (begun.afterRun uses) index kind
      ((begun.afterRun uses).writeTo index (Watched.watch sink)) := by
  have orderly : (begun.afterRun uses).Orderly := new.orderly.afterRun uses
  generalize begun.afterRun uses = body at orderly refused ⊢
  -- A copy that is not open leaves the sink as it was.
  have untouched {ρ κ : Type} {engine : Engine σ ρ κ} {pool : Pool engine}
      (missing : pool.cursor? index = none)
      (refused : (pool.writeTo index (Watched.watch sink)).2.refusal? = some kind) :
      False := by
    rw [(Pool.writeTo_of_closed missing _).2.2] at refused
    cases refused
  cases orderly with
  | memory pool =>
      cases found : pool.cursor? index with
      | none => exact (untouched found refused).elim
      | some cursor => exact stranded_memory found refused
  | direct pool =>
      cases found : pool.cursor? index with
      | none => exact (untouched found refused).elim
      | some cursor => exact stranded_direct found refused
  | @buffered pool orderly =>
      cases found : pool.cursor? index with
      | none => exact (untouched found refused).elim
      | some cursor => exact stranded_buffered orderly found refused

/-- The sink takes two bytes and then no more: the copy in memory stands behind these, the copy that
is read in pieces of four behind its piece. -/
theorem afterRun_new_stranded_of_full :
    let content : ByteArray := ⟨#[1, 2, 3, 4, 5, 6]⟩
    let gauge : Gauge := { script := [.fault ⟨.interrupted, .plain⟩, .atMost 2, .atMost 0] }
    let uses : List (Use Device Gauge) := [.read 0 (.fresh 1)]
    let whole := (ofBytes content : Body Device).afterRun uses
    let buffered := (overSequence ({ content } : Device) none 4).afterRun uses
    (Stranded whole 0 .writeZero (whole.writeTo 0 (Watched.watch gauge)) ∧
        (whole.writeTo 0 (Watched.watch gauge)).1.state.offset? 0 = some 3) ∧
      Stranded buffered 0 .writeZero (buffered.writeTo 0 (Watched.watch gauge)) ∧
        (buffered.writeTo 0 (Watched.watch gauge)).1.state.offset? 0 = some 5 :=
  ⟨⟨afterRun_new_stranded (.ofBytes _) _ 0 _ (by decide +kernel), by decide +kernel⟩,
    afterRun_new_stranded (.overSequence _ _ _) _ 0 _ (by cbv), by cbv⟩

end Body

end Payload
