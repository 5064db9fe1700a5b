import Mathlib.Data.List.Nodup
import MundusVivens.World.LocationRegistry

set_option autoImplicit false

/-!
# Neighbours

The nine cells around a point are different cells, so that an index that lists every
entity at most once finds every neighbour at most once.
-/

namespace MundusVivens

open Scalar

namespace LocationRegistry

theorem cellKey_toNat (cx cz : Int) : (cellKey cx cz).toNat =
    (UInt32.ofInt cx).toNat * 2 ^ 32 + (UInt32.ofInt cz).toNat := by
  have low : (UInt32.ofInt cz).toNat < 2 ^ 32 := (UInt32.ofInt cz).toNat_lt
  have high : (UInt32.ofInt cx).toNat < 2 ^ 32 := (UInt32.ofInt cx).toNat_lt
  have fits : (UInt32.ofInt cx).toNat * 2 ^ 32 < 2 ^ 64 := by omega
  rw [cellKey, UInt64.toNat_or, UInt64.toNat_shiftLeft]
  simp only [UInt32.toNat_toUInt64]
  rw [show (32 : UInt64).toNat % 64 = 32 from rfl, Nat.shiftLeft_eq, Nat.mod_eq_of_lt fits,
    ← Nat.shiftLeft_eq, ← Nat.shiftLeft_add_eq_or_of_lt low]

theorem ofInt_toNat (c : Int) : ((UInt32.ofInt c).toNat : Int) = c % 2 ^ 32 := by
  have positive : 0 ≤ c % 2 ^ 32 := Int.emod_nonneg c (by decide)
  have bounded : c % 2 ^ 32 < 2 ^ 32 := Int.emod_lt_of_pos c (by decide)
  rw [UInt32.ofInt, UInt32.toNat_ofNat']
  omega

-- Keys tell cells apart that are fewer than 2 ^ 32 cells away from each other.
theorem cellKey_inj (cx cz cx' cz' : Int) (nearX : |cx - cx'| < 2 ^ 32)
    (nearZ : |cz - cz'| < 2 ^ 32) (same : cellKey cx cz = cellKey cx' cz') :
    cx = cx' ∧ cz = cz' := by
  have keys := congrArg UInt64.toNat same
  rw [cellKey_toNat, cellKey_toNat] at keys
  have low := (UInt32.ofInt cz).toNat_lt
  have low' := (UInt32.ofInt cz').toNat_lt
  have x := ofInt_toNat cx
  have x' := ofInt_toNat cx'
  have z := ofInt_toNat cz
  have z' := ofInt_toNat cz'
  rw [abs_lt] at nearX nearZ
  omega

variable {F : Type}

-- Every entity is in one cell at most, and there once.
structure ListsOnce (grid : LocationRegistry F) : Prop where
  nodup : ∀ cell, (grid.cellEntities cell).Nodup
  apart : ∀ e cell cell', e ∈ grid.cellEntities cell → e ∈ grid.cellEntities cell' → cell = cell'

structure Coherent (grid : LocationRegistry F) : Prop where
  nodup : ∀ cell, (grid.cellEntities cell).Nodup
  recorded : ∀ e cell, e ∈ grid.cellEntities cell ↔ grid.entityToCell e = some cell

theorem Coherent.listsOnce {grid : LocationRegistry F} (coherent : grid.Coherent) :
    grid.ListsOnce where
  nodup := coherent.nodup
  apart := fun e cell cell' here there => by
    rw [coherent.recorded] at here there
    exact Option.some.inj (here.symm.trans there)

theorem Coherent.of_same {grid grid' : LocationRegistry F} (coherent : grid.Coherent)
    (cells : grid'.cellEntities = grid.cellEntities)
    (record : grid'.entityToCell = grid.entityToCell) : grid'.Coherent := by
  refine ⟨fun cell => ?_, fun e cell => ?_⟩
  · rw [cells]
    exact coherent.nodup cell
  · rw [cells, record]
    exact coherent.recorded e cell

theorem empty_coherent : (empty : LocationRegistry F).Coherent :=
  ⟨fun _ => List.nodup_nil, fun e cell => by simp [empty]⟩

theorem mem_leaveCell (grid : LocationRegistry F) (e x : Entity) (old cell : UInt64) :
    x ∈ grid.leaveCell e old cell ↔ x ∈ grid.cellEntities cell ∧ (cell = old → x ≠ e) := by
  by_cases same : cell = old
  next => subst same; simp [leaveCell]
  next => simp [leaveCell, same]

theorem nodup_leaveCell (grid : LocationRegistry F) (e : Entity) (old cell : UInt64)
    (nodup : (grid.cellEntities cell).Nodup) : (grid.leaveCell e old cell).Nodup := by
  by_cases same : cell = old
  next => subst same; simpa [leaveCell] using nodup.filter _
  next => simpa [leaveCell, same] using nodup

theorem enterCell_coherent (grid : LocationRegistry F) (cells : UInt64 → List Entity) (e : Entity)
    (new : UInt64) (nodup : ∀ cell, (cells cell).Nodup)
    (others : ∀ x cell, x ∈ cells cell ↔ x ≠ e ∧ grid.entityToCell x = some cell) :
    Coherent
      { grid with
        entityToCell := Function.update grid.entityToCell e (some new)
        cellEntities := Function.update cells new (cells new ++ [e]) } := by
  refine ⟨fun cell => ?_, fun x cell => ?_⟩
  · by_cases same : cell = new
    next =>
      subst same
      have absent : e ∉ cells cell := fun member => ((others e cell).mp member).1 rfl
      simpa using List.nodup_append.mpr
        ⟨nodup cell, by simp, fun x member y single => by
          obtain rfl := List.mem_singleton.mp single
          rintro rfl
          exact absent member⟩
    next => simpa [same] using nodup cell
  · by_cases self : x = e
    next =>
      subst self
      have absent (cell : UInt64) : x ∉ cells cell := fun member => ((others x cell).mp member).1 rfl
      by_cases same : cell = new
      next => simp [same]
      next => simp [same, absent, Ne.symm same]
    next =>
      by_cases same : cell = new
      next => subst same; simp [self, others]
      next => simp [self, same, others]

theorem getOrCreateZoneId_index (grid : LocationRegistry F) (name : String) :
    (grid.getOrCreateZoneId name).1.cellEntities = grid.cellEntities ∧
      (grid.getOrCreateZoneId name).1.entityToCell = grid.entityToCell := by
  unfold getOrCreateZoneId
  dsimp only
  split <;> exact ⟨rfl, rfl⟩

variable [Scalar F]

theorem moveToCell_coherent (grid : LocationRegistry F) (e : Entity) (x z : F)
    (coherent : grid.Coherent) : (grid.moveToCell e x z).Coherent := by
  unfold moveToCell
  dsimp only
  split
  next old recorded =>
    split
    next => exact coherent
    next =>
      refine grid.enterCell_coherent (grid.leaveCell e old) e _
        (fun cell => grid.nodup_leaveCell e old cell (coherent.nodup cell)) fun y cell => ?_
      rw [mem_leaveCell, coherent.recorded]
      by_cases self : y = e
      next => subst self; simp [recorded, eq_comm]
      next => simp [self]
  next unrecorded =>
    refine grid.enterCell_coherent grid.cellEntities e _ coherent.nodup fun y cell => ?_
    rw [coherent.recorded]
    by_cases self : y = e
    next => subst self; simp [unrecorded]
    next => simp [self]

theorem updateEntityPosition_coherent (grid : LocationRegistry F) (e : Entity) (x z : F)
    (loc : Option (LocationComp F)) (coherent : grid.Coherent) :
    (grid.updateEntityPosition e x z loc).1.Coherent := by
  have moved := grid.moveToCell_coherent e x z coherent
  unfold updateEntityPosition
  dsimp only
  split
  next => exact moved
  next loc =>
    obtain ⟨cells, record⟩ := getOrCreateZoneId_index (grid.moveToCell e x z)
      ((grid.moveToCell e x z).getLocationNameAt x z)
    exact moved.of_same cells record

omit [Scalar F] in
theorem removeEntity_coherent (grid : LocationRegistry F) (e : Entity) (coherent : grid.Coherent) :
    (grid.removeEntity e).Coherent := by
  unfold removeEntity
  split
  next old recorded =>
    refine ⟨fun cell => grid.nodup_leaveCell e old cell (coherent.nodup cell), fun y cell => ?_⟩
    refine (grid.mem_leaveCell e y old cell).trans ?_
    rw [coherent.recorded]
    by_cases self : y = e
    next => subst self; simp [recorded, eq_comm]
    next => simp [self]
  next => exact coherent

theorem getNearbyEntities_nodup (grid : LocationRegistry F) (once : grid.ListsOnce)
    (x z radius : F) (location : Entity → Option (LocationComp F)) :
    (grid.getNearbyEntities x z radius location).Nodup := by
  have offsets : intRange (-1) 1 = [-1, 0, 1] := by decide
  have cells (i j i' j' : Int) (hi : i ∈ intRange (-1) 1) (hj : j ∈ intRange (-1) 1)
      (hi' : i' ∈ intRange (-1) 1) (hj' : j' ∈ intRange (-1) 1) (e : Entity)
      (member : e ∈ grid.cellEntities (cellKey (floor (x / cellSize) + i) (floor (z / cellSize) + j)))
      (member' : e ∈ grid.cellEntities
        (cellKey (floor (x / cellSize) + i') (floor (z / cellSize) + j'))) : i = i' ∧ j = j' := by
    simp only [offsets, List.mem_cons, List.not_mem_nil, or_false] at hi hj hi' hj'
    have same := cellKey_inj _ _ _ _ (by rw [abs_lt]; omega) (by rw [abs_lt]; omega)
      (once.apart e _ _ member member')
    omega
  have distinct : (intRange (-1) 1).Pairwise (· ≠ ·) := by decide
  unfold getNearbyEntities
  refine List.nodup_flatMap.mpr ⟨fun i hi => List.nodup_flatMap.mpr ⟨fun j hj => ?_, ?_⟩, ?_⟩
  · exact (once.nodup _).filter _
  · refine distinct.imp_of_mem fun {j j'} hj hj' other e member member' => other ?_
    exact (cells i j i j' hi hj hi hj' e (List.mem_of_mem_filter member)
      (List.mem_of_mem_filter member')).2
  · refine distinct.imp_of_mem fun {i i'} hi hi' other e member member' => other ?_
    obtain ⟨j, hj, listed⟩ := List.mem_flatMap.mp member
    obtain ⟨j', hj', listed'⟩ := List.mem_flatMap.mp member'
    exact (cells i j i' j' hi hj hi' hj' e (List.mem_of_mem_filter listed)
      (List.mem_of_mem_filter listed')).1

theorem near_of_mem (grid : LocationRegistry F) (x z radius : F)
    (location : Entity → Option (LocationComp F)) (e : Entity)
    (member : e ∈ grid.getNearbyEntities x z radius location) :
    ∃ loc, location e = some loc ∧
      le ((loc.x - x) * (loc.x - x) + (loc.z - z) * (loc.z - z)) (radius * radius) = true := by
  obtain ⟨i, -, member⟩ := List.mem_flatMap.mp member
  obtain ⟨j, -, member⟩ := List.mem_flatMap.mp member
  have near := (List.mem_filter.mp member).2
  split at near
  next => cases near
  next loc found => exact ⟨loc, found, near⟩

end LocationRegistry

end MundusVivens
