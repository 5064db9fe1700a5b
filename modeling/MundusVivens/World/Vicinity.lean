import MundusVivens.World.Memberships
import MundusVivens.Shared.Reals

set_option autoImplicit false

/-!
# Vicinity

The nine cells around a point hold everybody who is at most one cell size away, so a search
within that radius misses nobody.
-/

namespace MundusVivens

open Scalar

namespace LocationRegistry

def Adjacent (x z x' z' : ℝ) : Prop := |⌊x' / 8⌋ - ⌊x / 8⌋| ≤ 1 ∧ |⌊z' / 8⌋ - ⌊z / 8⌋| ≤ 1

theorem floor_near {x y : ℝ} (n : Nat) (near : |y - x| ≤ 8 * n) : |⌊y / 8⌋ - ⌊x / 8⌋| ≤ n := by
  obtain ⟨low, high⟩ := abs_le.mp near
  have above : ⌊y / 8⌋ ≤ ⌊x / 8⌋ + n := by
    rw [← Int.floor_add_natCast]
    exact Int.floor_mono (by linarith)
  have below : ⌊x / 8⌋ ≤ ⌊y / 8⌋ + n := by
    rw [← Int.floor_add_natCast]
    exact Int.floor_mono (by linarith)
  rw [abs_le]
  omega

theorem getCellKey_real (x z : ℝ) : getCellKey x z = cellKey ⌊x / 8⌋ ⌊z / 8⌋ := by
  have size : (cellSize : ℝ) = 8 := by norm_num [cellSize]
  unfold getCellKey
  rw [size]
  rfl

theorem abs_le_of_circle {x z r : ℝ} (positive : 0 ≤ r) (inside : x ^ 2 + z ^ 2 ≤ r ^ 2) :
    |x| ≤ r ∧ |z| ≤ r :=
  ⟨abs_le_of_sq_le_sq (by linarith [sq_nonneg z]) positive,
    abs_le_of_sq_le_sq (by linarith [sq_nonneg x]) positive⟩

variable {grid : LocationRegistry ℝ} {location : Entity → Option (LocationComp ℝ)}

theorem mem_getNearbyEntities (x z radius : ℝ) (e : Entity) :
    e ∈ grid.getNearbyEntities x z radius location ↔
      (∃ i j : Int, |i| ≤ 1 ∧ |j| ≤ 1 ∧ e ∈ grid.cellEntities (cellKey (⌊x / 8⌋ + i) (⌊z / 8⌋ + j))) ∧
        ∃ loc, location e = some loc ∧ (loc.x - x) ^ 2 + (loc.z - z) ^ 2 ≤ radius ^ 2 := by
  have size : (cellSize : ℝ) = 8 := by norm_num [cellSize]
  have around (i : Int) : i ∈ intRange (-1) 1 ↔ |i| ≤ 1 := by
    rw [show intRange (-1) 1 = [-1, 0, 1] by decide, abs_le]
    simp only [List.mem_cons, List.not_mem_nil, or_false]
    omega
  unfold getNearbyEntities
  simp only [List.mem_flatMap, List.mem_filter, around, size]
  constructor
  · rintro ⟨i, near_i, j, near_j, listed, near⟩
    split at near
    next => cases near
    next loc located =>
      rw [le_real, ← pow_two, ← pow_two, ← pow_two] at near
      exact ⟨⟨i, j, near_i, near_j, listed⟩, loc, located, near⟩
  · rintro ⟨⟨i, j, near_i, near_j, listed⟩, loc, located, near⟩
    refine ⟨i, near_i, j, near_j, listed, ?_⟩
    rw [located]
    dsimp only
    rw [le_real, ← pow_two, ← pow_two, ← pow_two]
    exact near

theorem mem_getNearbyEntities_iff (coherent : grid.Coherent) {x z radius : ℝ} {e : Entity}
    {loc : LocationComp ℝ} (positive : 0 ≤ radius) (small : radius ≤ 8 * 1000)
    (located : location e = some loc)
    (current : ∀ cell, grid.entityToCell e = some cell → cell = getCellKey loc.x loc.z) :
    e ∈ grid.getNearbyEntities x z radius location ↔
      grid.entityToCell e ≠ none ∧ Adjacent x z loc.x loc.z ∧
        (loc.x - x) ^ 2 + (loc.z - z) ^ 2 ≤ radius ^ 2 := by
  rw [mem_getNearbyEntities]
  constructor
  · rintro ⟨⟨i, j, near_i, near_j, listed⟩, other, same, near⟩
    obtain rfl := Option.some.inj (located.symm.trans same)
    have recorded := (coherent.recorded e _).mp listed
    refine ⟨by rw [recorded]; simp, ?_, near⟩
    have key := current _ recorded
    rw [getCellKey_real] at key
    obtain ⟨closeX, closeZ⟩ := abs_le_of_circle positive near
    have cellsX := floor_near 1000 (closeX.trans small)
    have cellsZ := floor_near 1000 (closeZ.trans small)
    rw [abs_le] at near_i near_j cellsX cellsZ
    -- So close to each other the keys tell the cells apart.
    obtain ⟨alongX, alongZ⟩ := cellKey_inj _ _ _ _ (by rw [abs_lt]; omega) (by rw [abs_lt]; omega) key
    unfold Adjacent
    rw [← alongX, ← alongZ, abs_le, abs_le]
    omega
  · rintro ⟨registered, ⟨nearX, nearZ⟩, near⟩
    obtain ⟨cell, recorded⟩ := Option.ne_none_iff_exists'.mp registered
    refine ⟨⟨⌊loc.x / 8⌋ - ⌊x / 8⌋, ⌊loc.z / 8⌋ - ⌊z / 8⌋, nearX, nearZ, ?_⟩, loc, located, near⟩
    rw [add_sub_cancel, add_sub_cancel, ← getCellKey_real, ← current cell recorded]
    exact (coherent.recorded e cell).mpr recorded

def validLocation (valid : Entity → Bool) (pool : Entity → Option (LocationComp ℝ)) (e : Entity) :
    Option (LocationComp ℝ) := if valid e then pool e else none

/-- Whatever calls a registry has seen, as long as its cells are those of the current coordinates
a search finds exactly the entities within the radius, each of them once. -/
theorem nearby_entities_are_exact (vacant : LocationRegistry ℝ)
    (unlisted : ∀ cell, vacant.cellEntities cell = []) (unrecorded : ∀ e, vacant.entityToCell e = none)
    (calls : List (CellCall ℝ)) (valid : Entity → Bool) (pool : Entity → Option (LocationComp ℝ))
    (current : ∀ e loc cell, pool e = some loc →
      (calls.foldl CellCall.apply vacant).entityToCell e = some cell →
        cell = getCellKey loc.x loc.z)
    (x z radius : ℝ) (positive : 0 ≤ radius) (small : radius ≤ cellSize) :
    let grid := calls.foldl CellCall.apply vacant
    (∀ e, e ∈ grid.getNearbyEntities x z radius (validLocation valid pool) ↔
        grid.entityToCell e ≠ none ∧ valid e = true ∧
          ∃ loc, pool e = some loc ∧ (loc.x - x) ^ 2 + (loc.z - z) ^ 2 ≤ radius ^ 2) ∧
      (grid.getNearbyEntities x z radius (validLocation valid pool)).Nodup := by
  intro grid
  have first : vacant.Coherent :=
    ⟨fun cell => by simp [unlisted], fun e cell => by simp [unlisted, unrecorded]⟩
  have coherent : grid.Coherent := calls_coherent calls first
  have cell : radius ≤ 8 := small.trans (by norm_num [cellSize])
  refine ⟨fun e => ?_, grid.getNearbyEntities_nodup coherent.listsOnce x z radius _⟩
  have placed : ∀ loc, validLocation valid pool e = some loc ↔ valid e = true ∧ pool e = some loc := by
    intro loc
    unfold validLocation
    split <;> simp_all
  constructor
  · intro found
    obtain ⟨-, loc, located, -⟩ := (mem_getNearbyEntities x z radius e).mp found
    obtain ⟨isValid, held⟩ := (placed loc).mp located
    obtain ⟨registered, -, near⟩ := (mem_getNearbyEntities_iff coherent positive (by linarith) located
      (fun cell => current e loc cell held)).mp found
    exact ⟨registered, isValid, loc, held, near⟩
  · rintro ⟨registered, isValid, loc, held, near⟩
    have located := (placed loc).mpr ⟨isValid, held⟩
    obtain ⟨closeX, closeZ⟩ := abs_le_of_circle positive near
    refine (mem_getNearbyEntities_iff coherent positive (by linarith) located
      (fun cell => current e loc cell held)).mpr ⟨registered, ⟨?_, ?_⟩, near⟩
    · exact floor_near 1 (by push_cast; linarith)
    · exact floor_near 1 (by push_cast; linarith)

-- An entity at the left end of a circle of radius 8, in the next cell.
noncomputable def atBorder : CellCall ℝ := .update 0 (-1) 7 none

noncomputable def borderLocation (e : Entity) : Option (LocationComp ℝ) :=
  if e = 0 then some ⟨0, "", -1, 0, 7, .unspecified, 0, 0⟩ else none

theorem nearby_entities_are_exact_border :
    0 ∈ (atBorder.apply empty).getNearbyEntities 7 7 8 (validLocation (fun _ => true) borderLocation) := by
  have record : (atBorder.apply empty).entityToCell 0 = some (getCellKey (-1 : ℝ) 7) := by
    rw [apply_record]
    simp [atBorder, CellCall.entity, CellCall.cell]
  obtain ⟨found, -⟩ := nearby_entities_are_exact empty (fun _ => rfl) (fun _ => rfl)
    [atBorder] (fun _ => true) borderLocation (by
      intro e loc cell located recorded
      unfold borderLocation at located
      split at located
      next self =>
        subst self
        obtain rfl := Option.some.inj located
        exact Option.some.inj (recorded.symm.trans record)
      next => cases located) 7 7 8 (by norm_num) (by norm_num [cellSize])
  refine (found 0).mpr ⟨by rw [List.foldl_cons, List.foldl_nil, record]; simp, rfl, _, rfl, ?_⟩
  norm_num

end LocationRegistry

end MundusVivens
