import Payload.Proofs.Run

/-!
# Bodies that stand opposite each other

Two pools, over bodies of any two kinds, are paired when they have as many copies and each copy of
the one is open just where the copy of that number in the other is, at a place that goes with the
other one's.  Each operation keeps them paired as long as the two turns that it comes down to leave
places that go together, and it answers alike where these do.  Copies are made and go alike in any
case.
-/

namespace Payload.Pool

variable {σ ρ κ σ' ρ' κ' α : Type} {engine : Engine σ ρ κ} {facing : Engine σ' ρ' κ'}
  {twin : κ → κ' → Prop} {pool : Pool engine} {other : Pool facing} {index : Nat}

/-- As many copies, and opposite each other at places that go together. -/
structure Paired (twin : κ → κ' → Prop) (pool : Pool engine) (other : Pool facing) : Prop where
  length : pool.copies.length = other.copies.length
  opposite : ∀ index, Option.Rel twin (pool.cursor? index) (other.cursor? index)

namespace Paired

/-- The two copies of one number are both closed, or both open. -/
theorem closed_or_open (paired : Paired twin pool other) (index : Nat) :
    (pool.cursor? index = none ∧ other.cursor? index = none) ∨
      ∃ cursor place, pool.cursor? index = some cursor ∧ other.cursor? index = some place ∧
        twin cursor place := by
  have opposite := paired.opposite index
  generalize pool.cursor? index = mine at opposite ⊢
  generalize other.cursor? index = theirs at opposite ⊢
  cases opposite with
  | none => exact Or.inl ⟨rfl, rfl⟩
  | some related => exact Or.inr ⟨_, _, rfl, rfl, related⟩

/-! ## What becomes of the copies -/

theorem put (paired : Paired twin pool other) {cursor : κ} {place : κ'}
    (found : pool.cursor? index = some cursor) (there : other.cursor? index = some place)
    (record : ρ) (record' : ρ') {next : κ} {last : κ'} (related : twin next last) :
    Paired twin (pool.put index record next) (other.put index record' last) where
  length := by
    rw [Pool.put, Pool.put, List.length_set, List.length_set]
    exact paired.length
  opposite asked := by
    by_cases here : index = asked
    · subst here
      rw [cursor?_put_self found, cursor?_put_self there]
      exact .some related
    · rw [cursor?_put_of_ne here, cursor?_put_of_ne here]
      exact paired.opposite asked

theorem remove (paired : Paired twin pool other) (index : Nat) (record : ρ) (record' : ρ') :
    Paired twin (pool.remove index record) (other.remove index record') where
  length := by
    rw [Pool.remove, Pool.remove, List.length_set, List.length_set]
    exact paired.length
  opposite asked := by
    rw [cursor?_remove, cursor?_remove]
    split
    · exact .none
    · exact paired.opposite asked

theorem add (paired : Paired twin pool other) (record : ρ) (record' : ρ') {copy : Option κ}
    {twinned : Option κ'} (related : Option.Rel twin copy twinned) :
    Paired twin (pool.add record copy) (other.add record' twinned) where
  length := by
    rw [Pool.add, Pool.add, List.length_append, List.length_append]
    exact congrArg (· + 1) paired.length
  opposite index := by
    rw [cursor?_add, cursor?_add, paired.length]
    split
    · exact related
    · exact paired.opposite index

/-! ## Operations -/

section

variable {operation : Operation} {turn : ρ → κ → Turn ρ κ α} {turn' : ρ' → κ' → Turn ρ' κ' α}

/-- Copies that act stay opposite each other if their turns leave them so. -/
theorem act (paired : Paired twin pool other)
    (agree : ∀ {cursor place}, pool.cursor? index = some cursor →
      other.cursor? index = some place → twin cursor place →
      twin (turn pool.record cursor).cursor (turn' other.record place).cursor) :
    Paired twin (pool.act index operation turn).state
      (other.act index operation turn').state := by
  rcases paired.closed_or_open index with ⟨missing, absent⟩ | ⟨cursor, place, found, there, related⟩
  · rw [(act_of_closed missing _ _).2, (act_of_closed absent _ _).2]
    exact paired
  · rw [(act_of_open found _ _).2, (act_of_open there _ _).2]
    exact paired.put found there _ _ (agree found there related)

/-- Copies that act answer alike if their turns do. -/
theorem reply_act (paired : Paired twin pool other)
    (agree : ∀ {cursor place}, pool.cursor? index = some cursor →
      other.cursor? index = some place → twin cursor place →
      (turn pool.record cursor).reply = (turn' other.record place).reply) :
    (pool.act index operation turn).reply = (other.act index operation turn').reply := by
  rcases paired.closed_or_open index with ⟨missing, absent⟩ | ⟨cursor, place, found, there, related⟩
  · rw [(act_of_closed missing _ _).1, (act_of_closed absent _ _).1]
  · rw [(act_of_open found _ _).1, (act_of_open there _ _).1]
    exact agree found there related

end

/-- Copies are made alike, where both can be made and stand where the ones they are made of do. -/
theorem copy (paired : Paired twin pool other)
    (made : ∀ {cursor}, pool.cursor? index = some cursor →
      (engine.copy pool.record cursor).reply = .done cursor ∧
        (engine.copy pool.record cursor).cursor = cursor)
    (made' : ∀ {place}, other.cursor? index = some place →
      (facing.copy other.record place).reply = .done place ∧
        (facing.copy other.record place).cursor = place) :
    (pool.copy index).reply = (other.copy index).reply ∧
      Paired twin (pool.copy index).state (other.copy index).state := by
  rcases paired.closed_or_open index with ⟨missing, absent⟩ | ⟨cursor, place, found, there, related⟩
  · obtain ⟨reply, state⟩ := copy_of_closed missing
    obtain ⟨reply', state'⟩ := copy_of_closed absent
    rw [reply, reply', state, state']
    exact ⟨rfl, paired.add _ _ .none⟩
  · obtain ⟨done, stays⟩ := made found
    obtain ⟨done', stays'⟩ := made' there
    obtain ⟨reply, state⟩ := copy_of_done found done
    obtain ⟨reply', state'⟩ := copy_of_done there done'
    rw [reply, reply', state, state', stays, stays']
    exact ⟨rfl, (paired.put found there _ _ related).add _ _ (.some related)⟩

/-- A callback moves no copy, where the engines see to that. -/
theorem visit (paired : Paired twin pool other) {β : Type} {callback : σ → Option α × σ}
    {callback' : σ' → Option β × σ'}
    (stays : ∀ {cursor}, pool.cursor? index = some cursor →
      (engine.visit callback pool.record cursor).cursor = cursor)
    (stays' : ∀ {place}, other.cursor? index = some place →
      (facing.visit callback' other.record place).cursor = place) :
    Paired twin (pool.visit index callback).state (other.visit index callback').state := by
  rcases paired.closed_or_open index with ⟨missing, absent⟩ | ⟨cursor, place, found, there, related⟩
  · rw [(visit_of_closed missing _).2, (visit_of_closed absent _).2]
    exact paired
  · rw [(visit_of_open found _).2, (visit_of_open there _).2, stays found, stays' there]
    exact paired.put found there _ _ related

/-- Copies go alike, whatever comes of closing them. -/
theorem close (paired : Paired twin pool other) (index : Nat) :
    Paired twin (pool.close index).state (other.close index).state := by
  rcases paired.closed_or_open index with ⟨missing, absent⟩ | ⟨cursor, place, found, there, related⟩
  · rw [(close_of_closed missing).2, (close_of_closed absent).2]
    exact paired
  · rw [(close_of_open found).2, (close_of_open there).2]
    exact paired.remove index _ _

theorem drop (paired : Paired twin pool other) (index : Nat) :
    Paired twin (pool.drop index).state (other.drop index).state := by
  rw [state_drop, state_drop]
  exact paired.close index

theorem reply_close (paired : Paired twin pool other)
    (agree : ∀ {cursor place}, pool.cursor? index = some cursor →
      other.cursor? index = some place →
      (engine.close pool.record cursor).reply = (facing.close other.record place).reply) :
    (pool.close index).reply = (other.close index).reply := by
  rcases paired.closed_or_open index with ⟨missing, absent⟩ | ⟨cursor, place, found, there, related⟩
  · rw [(close_of_closed missing).1, (close_of_closed absent).1]
  · rw [(close_of_open found).1, (close_of_open there).1]
    exact agree found there

/-- Copies that are dropped answer alike where they would to being closed. -/
theorem reply_drop (paired : Paired twin pool other)
    (alike : (pool.close index).reply = (other.close index).reply) :
    (pool.drop index).reply = (other.drop index).reply := by
  rcases paired.closed_or_open index with ⟨missing, absent⟩ | ⟨cursor, place, found, there, related⟩
  · rw [Pool.drop, Pool.drop, missing, absent]
  · rw [reply_drop_of_open found, reply_drop_of_open there, alike]

/-! ## What can be asked of a copy -/

theorem remaining_eq (paired : Paired twin pool other) (index : Nat)
    (agree : ∀ {cursor place}, pool.cursor? index = some cursor → twin cursor place →
      engine.remaining pool.record cursor = facing.remaining other.record place) :
    pool.remaining index = other.remaining index := by
  rcases paired.closed_or_open index with ⟨missing, absent⟩ | ⟨cursor, place, found, there, related⟩
  · rw [remaining, remaining, missing, absent]
  · rw [remaining, remaining, found, there]
    exact agree found related

theorem ended_eq (paired : Paired twin pool other) (index : Nat)
    (agree : ∀ {cursor place}, twin cursor place → engine.ended cursor = facing.ended place) :
    pool.ended index = other.ended index := by
  rcases paired.closed_or_open index with ⟨missing, absent⟩ | ⟨cursor, place, found, there, related⟩
  · rw [ended, ended, missing, absent]
    rfl
  · rw [ended, ended, found, there]
    exact agree related

end Paired

end Payload.Pool
