import Payload.Proofs.Accounts
import Payload.Proofs.Direct.Uses

/-!
# Why an operation on a direct body fails

A direct body does not remember a failure; it asks its source again.  Of the refusals that it has
for a source that is gone, or that no longer offers what it was picked for, none is met while a copy
is open: the last copy takes the source along, and sources keep to what they offer.
-/

namespace Payload

open Relation

/-- Sources that go on offering the same, whatever they are asked. -/
structure Source.Constant {σ : Type} [Source σ] (good : σ → Prop) : Prop where
  works : ∀ {source next}, good source → Works source next → good next
  offers : ∀ {source other} (access : Access), good source → good other →
    access.offered source = access.offered other

namespace Direct

variable {σ τ : Type} [Source σ] [Sink τ] {good : σ → Prop} {direct next : Direct σ}
  {cursor : Cursor}

/-- Whether what the copies share is poisoned. -/
def spoiled (direct : Direct σ) : Bool :=
  direct.custody.poisoned

/-- The source is there, and is one that offers what the access needs. -/
structure Ready (good : σ → Prop) (direct : Direct σ) : Prop where
  held : direct.custody.held = true
  source : good direct.custody.source
  offered : ∀ source, good source → direct.access.offered source = true

omit [Sink τ] in
theorem Ready.served (ready : Ready good direct) (constant : Source.Constant good)
    (served : Served direct next) : Ready good next where
  held := served.held.trans ready.held
  source := by
    have worked := served.works
    generalize next.custody.source = last at worked
    induction worked with
    | refl => exact ready.source
    | tail _ works ih => exact constant.works ih works
  offered := served.access ▸ ready.offered

/-- A question that comes back poisons nothing. -/
theorem spoiled_ask {operation : Operation} {want position : Nat} {reply : Reply (Reading want)}
    (asked : direct.ask operation want position = (reply, next)) (came : reply ≠ .broke)
    (answered : reply ≠ .done .broke) : next.spoiled = direct.spoiled := by
  have asks := asks operation want position direct
  rw [asked] at asks
  cases asks with
  | poisoned => rfl
  | released => rfl
  | unsupported => rfl
  | addressed => exact Bool.or_false _
  | stuck => exact Bool.or_false _
  | lost => exact absurd rfl came
  | moved sound held access sought =>
      have back : (Source.read want _).1.brokeOff = false :=
        Outcome.brokeOff_eq_false_iff.mpr fun broke => answered (congrArg Outcome.done broke)
      change (_ || _) = _
      rw [back]
      exact Bool.or_false _

/-- A source that is ready refuses no question, unless what the copies share is poisoned. -/
theorem Ready.refusal (ready : Ready good direct) {operation : Operation} {want position : Nat}
    {error : Error} (asked : direct.ask operation want position = (.failed error, next)) :
    error.operation = operation ∧
      (error.cause = .poisoned ∧ direct.spoiled = true ∨ ∃ fault, error.cause = .fault fault) := by
  have asks := asks operation want position direct
  rw [asked] at asks
  cases asks with
  | poisoned poisoned => exact ⟨rfl, Or.inl ⟨rfl, poisoned⟩⟩
  | released released =>
      rw [ready.held] at released
      cases released
  | unsupported withheld =>
      rw [ready.offered _ ready.source] at withheld
      cases withheld
  | stuck => exact ⟨rfl, Or.inr ⟨_, rfl⟩⟩

/-- Fetching fails with a fault, or on a poisoned record. -/
theorem Ready.accounts_fetch (ready : Ready good direct) (constant : Source.Constant good)
    (operation : Operation) (buffer : Buffer) (want offset : Nat) :
    Accounts false spoiled (some operation) direct
      (direct.fetch operation buffer want offset).2
      (direct.fetch operation buffer want offset).1 := by
  obtain ⟨fault, past⟩ | ⟨left, last, ⟨still, same⟩, settles⟩ :=
    fetch_rule operation buffer want offset
      (I := fun current => Ready good current ∧ current.spoiled = direct.spoiled)
      (fun current fault next ⟨still, same⟩ asked _ => by
        have served := served_ask operation want (direct.base + offset) current
        rw [asked] at served
        exact ⟨still.served constant served, (spoiled_ask asked nofun nofun).trans same⟩)
      ⟨ready, rfl⟩
  · rw [past]
    exact .failed (.fault fault rfl) rfl
  · generalize direct.fetch operation buffer want offset = fetched at settles ⊢
    cases settles with
    | exhausted => exact .broke
    | gave asked received => exact .done _ ((spoiled_ask asked nofun nofun).trans same)
    | absurd => exact .broke
    | failed asked final =>
        exact .failed (.fault _ rfl) ((spoiled_ask asked nofun nofun).trans same)
    | broke => exact .broke
    | @refused error next asked =>
        have spared := (spoiled_ask asked nofun nofun).trans same
        obtain ⟨rfl, cause⟩ := still.refusal asked
        obtain ⟨operation, cause'⟩ := error
        rcases cause with ⟨rfl, spoiled⟩ | ⟨fault, rfl⟩
        · exact .failed (.poisoned rfl (same.symm.trans spoiled)) spared
        · exact .failed (.fault fault rfl) spared
    | lost => exact .broke

omit [Sink τ] in
/-- How the source is addressed is settled when the body is made. -/
theorem Step.access_eq {lends : (σ → Option Unit × σ) → Prop} {pool next : Pool (engine σ)}
    (step : Step lends pool next) : next.record.access = pool.record.access := by
  cases step with
  | read found reads => exact reads.served.access
  | readAt some_open reads => exact reads.served.access
  | _ => rfl

/-! ## The calls of a direct body -/

omit [Sink τ] in
theorem Ready.accounts_read (ready : Ready good direct) (constant : Source.Constant good)
    (buffer : Buffer) (cursor : Cursor) :
    Accounts false spoiled (some .read) direct (direct.read buffer cursor).record
      (direct.read buffer cursor).reply := by
  have fetches := ready.accounts_fetch constant .read buffer
    (min buffer.size (direct.length - cursor.offset)) cursor.offset
  have reads := reads buffer direct cursor
  have ends {next : Direct σ} (same : next.spoiled = direct.spoiled) :
      Accounts false spoiled (some .read) direct next
        (.failed ⟨.read, .endOfStream⟩ : Reply ByteArray) :=
    .failed (.endOfStream rfl (Or.inl rfl)) same
  generalize direct.read buffer cursor = turn at reads ⊢
  cases reads with
  | ended => exact ends rfl
  | nothing => exact .done _ rfl
  | past => exact ends rfl
  | dry going asks within fetched =>
      rw [fetched] at fetches
      exact ends (fetches.spares nofun)
  | gave going asks within fetched =>
      rw [fetched] at fetches
      exact fetches
  | failed going asks within fetched =>
      rw [fetched] at fetches
      exact fetches
  | broke => exact .broke

theorem Ready.accounts_readAt (ready : Ready good direct) (constant : Source.Constant good)
    (buffer : Buffer) (offset : Nat) (cursor : Cursor) :
    Accounts false spoiled (some .readAt) direct (direct.readAt buffer offset cursor).record
      (direct.readAt buffer offset cursor).reply := by
  have fetches := ready.accounts_fetch constant .readAt buffer
    (min buffer.size (direct.length - offset)) offset
  have reads := readsAt buffer offset direct cursor
  have ends {next : Direct σ} (same : next.spoiled = direct.spoiled) :
      Accounts false spoiled (some .readAt) direct next
        (.failed ⟨.readAt, .endOfStream⟩ : Reply ByteArray) :=
    .failed (.endOfStream rfl (Or.inr rfl)) same
  generalize direct.readAt buffer offset cursor = turn at reads ⊢
  cases reads with
  | nothing => exact .done _ rfl
  | past => exact ends rfl
  | dry asks within fetched =>
      rw [fetched] at fetches
      exact ends (fetches.spares nofun)
  | gave asks within fetched =>
      rw [fetched] at fetches
      exact fetches
  | failed asks within fetched =>
      rw [fetched] at fetches
      exact fetches
  | broke => exact .broke

/-- The calls of a direct body account for how they come out. -/
theorem Ready.accountable (ready : Ready good direct) (constant : Source.Constant good)
    (cursor : Cursor) : (engine σ).Accountable τ false spoiled direct cursor where
  read buffer := ready.accounts_read constant buffer cursor
  readAt buffer offset := ready.accounts_readAt constant buffer offset cursor
  seek offset whence := cursor.accounts_seek spoiled direct.length offset whence direct
  writeTo sink :=
    pump_accounts (I := fun current _ => Ready good current)
      (fun buffer current place _ still _ =>
        still.served constant (reads buffer current place).served)
      (fun buffer current place still => still.accounts_read constant buffer place) _ sink ready
  copy := .done cursor rfl
  close := by
    change Accounts _ _ _ _ (direct.close cursor).record (direct.close cursor).reply
    unfold close
    dsimp only
    split
    · exact .done () rfl
    · obtain ⟨fails, spares⟩ := direct.custody.accounts_close .closingDirect
      exact ⟨fails, spares⟩
  visit callback := by
    obtain ⟨fails, spares⟩ := direct.custody.accounts_visit callback
    exact ⟨fails, spares⟩

end Direct

end Payload
