import Payload.Engine.Direct
import Payload.Proofs.Calls
import Payload.Proofs.Pump

/-!
# What serving a copy does to the record of a direct body

A direct body keeps nothing of what it reads.  Serving a copy works with the source and can poison
it, and leaves the rest of the record as it is: how and where the source is addressed, how long the
body is and how many copies share it.
-/

namespace Payload.Direct

open Relation

variable {σ : Type} [Source σ]

/-- The source was worked with, and may be poisoned now. -/
structure Served (direct next : Direct σ) : Prop where
  access : next.access = direct.access
  base : next.base = direct.base
  length : next.length = direct.length
  sharers : next.sharers = direct.sharers
  held : next.custody.held = direct.custody.held
  works : ReflTransGen Source.Works direct.custody.source next.custody.source

namespace Served

theorem refl (direct : Direct σ) : Served direct direct :=
  ⟨rfl, rfl, rfl, rfl, rfl, .refl⟩

theorem trans {direct middle next : Direct σ} (first : Served direct middle)
    (second : Served middle next) : Served direct next where
  access := second.access.trans first.access
  base := second.base.trans first.base
  length := second.length.trans first.length
  sharers := second.sharers.trans first.sharers
  held := second.held.trans first.held
  works := first.works.trans second.works

theorem returning {direct : Direct σ} {source : σ}
    (works : ReflTransGen Source.Works direct.custody.source source) (broken : Bool) :
    Served direct (direct.returning broken source) :=
  ⟨rfl, rfl, rfl, rfl, rfl, works⟩

end Served

theorem served_seekRead (operation : Operation) (want position : Nat) (direct : Direct σ) :
    Served direct (direct.seekRead operation want position).2 := by
  have moved : Source.Works direct.custody.source
      (Source.seek (.start position) direct.custody.source).2 := .seek _
  unfold seekRead
  split
  · rename_i value source sought
    rw [sought] at moved
    exact .returning (.tail (.single moved) (.read want)) _
  · rename_i fault source sought
    rw [sought] at moved
    exact .returning (.single moved) _
  · rename_i source sought
    rw [sought] at moved
    exact .returning (.single moved) _

theorem served_ask (operation : Operation) (want position : Nat) (direct : Direct σ) :
    Served direct (direct.ask operation want position).2 := by
  unfold ask
  split
  · exact .refl direct
  · split
    · exact .refl direct
    · split
      · split
        · exact .returning (.single (.readAt want position)) _
        · exact .refl direct
      · split
        · exact served_seekRead operation want position direct
        · exact .refl direct

theorem served_askSteady (operation : Operation) (buffer : Buffer) (want position tries : Nat)
    (direct : Direct σ) :
    Served direct (direct.askSteady operation buffer want position tries).2 := by
  induction tries generalizing direct with
  | zero => exact .refl direct
  | succ tries ih =>
      have asked := served_ask operation want position direct
      unfold askSteady
      split
      · rename_i transfer next came
        rw [came] at asked
        split
        · exact asked
        · exact asked
      · rename_i fault next came
        rw [came] at asked
        split
        · exact asked.trans (ih next)
        · exact asked
      · rename_i next came
        rw [came] at asked
        exact asked
      · rename_i error next came
        rw [came] at asked
        exact asked
      · rename_i next came
        rw [came] at asked
        exact asked

theorem served_fetch (operation : Operation) (buffer : Buffer) (want offset : Nat)
    (direct : Direct σ) : Served direct (direct.fetch operation buffer want offset).2 := by
  unfold fetch
  dsimp only
  split
  · exact .refl direct
  · exact served_askSteady _ _ _ _ _ direct

theorem served_read (buffer : Buffer) (direct : Direct σ) (cursor : Cursor) :
    Served direct (direct.read buffer cursor).record := by
  unfold read
  split
  · exact .refl direct
  · split
    · exact .refl direct
    · split
      · exact .refl direct
      · have fetched := served_fetch .read buffer (min buffer.size (direct.length - cursor.offset))
          cursor.offset direct
        dsimp only
        split
        · rename_i bytes next came
          rw [came] at fetched
          split
          · exact fetched
          · exact fetched
        · rename_i error next came
          rw [came] at fetched
          exact fetched
        · rename_i next came
          rw [came] at fetched
          exact fetched

theorem served_readAt (buffer : Buffer) (offset : Nat) (direct : Direct σ) (cursor : Cursor) :
    Served direct (direct.readAt buffer offset cursor).record := by
  unfold readAt
  split
  · exact .refl direct
  · split
    · exact .refl direct
    · have fetched := served_fetch .readAt buffer (min buffer.size (direct.length - offset)) offset
        direct
      split
      · rename_i bytes next came
        rw [came] at fetched
        split
        · exact fetched
        · exact fetched
      · rename_i error next came
        rw [came] at fetched
        exact fetched
      · rename_i next came
        rw [came] at fetched
        exact fetched

end Payload.Direct
