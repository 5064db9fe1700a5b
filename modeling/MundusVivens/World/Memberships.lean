import MundusVivens.World.Neighbours

set_option autoImplicit false

/-!
# Memberships

The registry keeps the cell of every entity twice. Whatever is moved and removed, both
records agree, and they hold the cell of the last position that was passed.
-/

namespace MundusVivens

open Scalar

namespace LocationRegistry

variable {F : Type} [Scalar F]

-- One call of `UpdateEntityPosition` or `RemoveEntity`.
inductive CellCall (F : Type) where
  | update (e : Entity) (x z : F) (loc : Option (LocationComp F))
  | remove (e : Entity)

namespace CellCall

def entity : CellCall F → Entity
  | .update e .. => e
  | .remove e => e

def apply (grid : LocationRegistry F) : CellCall F → LocationRegistry F
  | .update e x z loc => (grid.updateEntityPosition e x z loc).1
  | .remove e => grid.removeEntity e

def cell : CellCall F → Option UInt64
  | .update _ x z _ => some (getCellKey x z)
  | .remove _ => none

end CellCall

-- The cell of the last coordinates passed for an entity, unless it was removed since.
def lastCell (calls : List (CellCall F)) (e : Entity) : Option UInt64 :=
  calls.foldl (fun cell call => if call.entity = e then call.cell else cell) none

/-- Both records name the same cell, in which the entity is listed once and nowhere else. -/
structure InStep (grid : LocationRegistry F) (e : Entity) (recorded : Option UInt64) : Prop where
  record : grid.entityToCell e = recorded
  listed : ∀ cell, grid.entityToCell e = some cell ↔ e ∈ grid.cellEntities cell
  once : ∀ cell, grid.entityToCell e = some cell → (grid.cellEntities cell).count e = 1 ∧
    ∀ other ≠ cell, e ∉ grid.cellEntities other

variable {grid : LocationRegistry F}

theorem moveToCell_record (e x : Entity) (a b : F) : (grid.moveToCell e a b).entityToCell x =
    if x = e then some (getCellKey a b) else grid.entityToCell x := by
  unfold moveToCell
  dsimp only
  split
  next old recorded =>
    split
    next same =>
      split
      next self => rw [self, recorded, same]
      next => rfl
    next => simp [Function.update_apply]
  next => simp [Function.update_apply]

theorem updateEntityPosition_record (e x : Entity) (a b : F) (loc : Option (LocationComp F)) :
    (grid.updateEntityPosition e a b loc).1.entityToCell x =
      if x = e then some (getCellKey a b) else grid.entityToCell x := by
  unfold updateEntityPosition
  dsimp only
  split
  next => exact moveToCell_record e x a b
  next loc =>
    obtain ⟨-, record⟩ := getOrCreateZoneId_index (grid.moveToCell e a b)
      ((grid.moveToCell e a b).getLocationNameAt a b)
    exact (congrFun record x).trans (moveToCell_record e x a b)

omit [Scalar F] in
theorem removeEntity_record (e x : Entity) : (grid.removeEntity e).entityToCell x =
    if x = e then none else grid.entityToCell x := by
  unfold removeEntity
  split
  next => simp [Function.update_apply]
  next unrecorded =>
    split
    next self => rw [self, unrecorded]
    next => rfl

theorem apply_record (call : CellCall F) (x : Entity) : (call.apply grid).entityToCell x =
    if call.entity = x then call.cell else grid.entityToCell x := by
  cases call with
  | update e a b loc =>
      refine (updateEntityPosition_record e x a b loc).trans ?_
      simp [CellCall.entity, CellCall.cell, eq_comm]
  | remove e =>
      refine (removeEntity_record e x).trans ?_
      simp [CellCall.entity, CellCall.cell, eq_comm]

theorem apply_coherent (call : CellCall F) (coherent : grid.Coherent) :
    (call.apply grid).Coherent := by
  cases call with
  | update e a b loc => exact grid.updateEntityPosition_coherent e a b loc coherent
  | remove e => exact grid.removeEntity_coherent e coherent

theorem apply_others (call : CellCall F) (coherent : grid.Coherent) (x : Entity)
    (other : x ≠ call.entity) (cell : UInt64) :
    x ∈ (call.apply grid).cellEntities cell ↔ x ∈ grid.cellEntities cell := by
  rw [(apply_coherent call coherent).recorded, coherent.recorded, apply_record,
    if_neg (Ne.symm other)]

theorem calls_coherent (calls : List (CellCall F)) (coherent : grid.Coherent) :
    (calls.foldl CellCall.apply grid).Coherent := by
  induction calls generalizing grid with
  | nil => exact coherent
  | cons call rest ih => exact ih (apply_coherent call coherent)

theorem calls_record (calls : List (CellCall F)) (e : Entity) :
    (calls.foldl CellCall.apply grid).entityToCell e =
      calls.foldl (fun cell call => if call.entity = e then call.cell else cell)
        (grid.entityToCell e) := by
  induction calls generalizing grid with
  | nil => rfl
  | cons call rest ih => rw [List.foldl_cons, List.foldl_cons, ih, apply_record]

omit [Scalar F] in
theorem Coherent.inStep (coherent : grid.Coherent) (e : Entity) :
    grid.InStep e (grid.entityToCell e) where
  record := rfl
  listed := fun cell => (coherent.recorded e cell).symm
  once := fun cell recorded => by
    refine ⟨List.count_eq_one_of_mem (coherent.nodup cell) ((coherent.recorded e cell).mpr recorded),
      fun other apart member => apart ?_⟩
    exact Option.some.inj (((coherent.recorded e other).mp member).symm.trans recorded)

/-- Whatever calls a registry without entities has seen, its two maps are in step for every entity,
and the next call leaves the others where they are. -/
theorem cells_stay_in_step (vacant : LocationRegistry F)
    (unlisted : ∀ cell, vacant.cellEntities cell = []) (unrecorded : ∀ e, vacant.entityToCell e = none)
    (calls : List (CellCall F)) :
    (∀ e, (calls.foldl CellCall.apply vacant).InStep e (lastCell calls e)) ∧
      ∀ (call : CellCall F) (x : Entity), x ≠ call.entity →
        (call.apply (calls.foldl CellCall.apply vacant)).entityToCell x =
            (calls.foldl CellCall.apply vacant).entityToCell x ∧
          ∀ cell, x ∈ (call.apply (calls.foldl CellCall.apply vacant)).cellEntities cell ↔
            x ∈ (calls.foldl CellCall.apply vacant).cellEntities cell := by
  have first : vacant.Coherent :=
    ⟨fun cell => by simp [unlisted], fun e cell => by simp [unlisted, unrecorded]⟩
  have coherent := calls_coherent calls first
  refine ⟨fun e => ?_, fun call x other => ⟨?_, apply_others call coherent x other⟩⟩
  · have last : (calls.foldl CellCall.apply vacant).entityToCell e = lastCell calls e := by
      rw [calls_record, unrecorded]
      rfl
    rw [← last]
    exact coherent.inStep e
  · rw [apply_record, if_neg (Ne.symm other)]

-- An entity crosses into the next cell and back, and another one is removed.
theorem cells_stay_in_step_crossing :
    let calls : List (CellCall ℚ) :=
      [.update 0 1 1 none, .update 1 2 2 none, .update 0 9 1 none, .update 0 1 1 none, .remove 1]
    (calls.foldl CellCall.apply empty).InStep 0 (some (cellKey 0 0)) ∧
      (calls.foldl CellCall.apply empty).InStep 1 none := by
  intro calls
  obtain ⟨steps, -⟩ := cells_stay_in_step (empty : LocationRegistry ℚ) (fun _ => rfl) (fun _ => rfl)
    calls
  have back : lastCell calls 0 = some (cellKey 0 0) := by decide +kernel
  have gone : lastCell calls 1 = none := by decide +kernel
  exact ⟨back ▸ steps 0, gone ▸ steps 1⟩

end LocationRegistry

end MundusVivens
