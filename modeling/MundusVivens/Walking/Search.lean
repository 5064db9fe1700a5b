import MundusVivens.World.GridMap

set_option autoImplicit false

namespace MundusVivens.GridMap

open Scalar

variable {F : Type} [Scalar F] {map m : GridMap F}

omit [Scalar F] in
theorem isWalkable_congr (same : m.grid = map.grid) : m.isWalkable = map.isWalkable := by
  funext x z
  unfold isWalkable
  rw [same]

omit [Scalar F] in
theorem lineBlocked_congr (same : m.grid = map.grid) (ix2 iz2 dx dy sx sy : Int) (fuel : Nat)
    (cx cz err : Int) : m.lineBlocked ix2 iz2 dx dy sx sy fuel cx cz err =
      map.lineBlocked ix2 iz2 dx dy sx sy fuel cx cz err := by
  induction fuel generalizing cx cz err with
  | zero => rfl
  | succ fuel ih => simp only [lineBlocked, isWalkable_congr same, ih]

theorem isPathBlocked_congr (same : m.grid = map.grid) : m.isPathBlocked = map.isPathBlocked := by
  funext x1 z1 x2 z2
  exact lineBlocked_congr same _ _ _ _ _ _ _ _ _ _

-- The first of the least nodes is on top.
def leastFirst : OpenSet F
  | [] => none
  | node :: rest =>
      match leastFirst rest with
      | none => some (node, [])
      | some (best, others) =>
          if lt best.f node.f then some (best, node :: others) else some (node, rest)

def cacheKey (startX startZ endX endZ : F) : PathCacheKey :=
  ⟨tileX startX / 8, tileZ startZ / 8, tileX endX / 8, tileZ endZ / 8⟩

def startSearch (map : GridMap F) (sx sz ex ez : Int) : Search F :=
  let cleared := SearchScratch.reset map.scratch
  ⟨{ cleared with
      gScore := Function.update cleared.gScore (sx * height + sz) zero
      visitedNodes := cleared.visitedNodes ++ [sx * height + sz] },
    [⟨sx, sz, zero, heuristic sx sz ex ez⟩], sx, sz, heuristic sx sz ex ez⟩

def traceFrom (ended : SearchEnd) (search : Search F) (ex ez : Int) : Int × Int :=
  if ended = .found then (ex, ez) else (search.bestX, search.bestZ)

-- A path of the cache that may be returned.
def cached (map : GridMap F) (key : PathCacheKey) : Option (List (GridVector2 F)) :=
  (map.cacheLookup key).filter fun waypoints => !waypoints.isEmpty

inductive Finds (map : GridMap F) (top : OpenSet F) (startX startZ endX endZ : F)
    (maxIterations : Nat) : PathResult F → GridMap F → Prop where
  | here (sameX : tileX startX = tileX endX) (sameZ : tileZ startZ = tileZ endZ) :
      Finds map top startX startZ endX endZ maxIterations
        ⟨[⟨ofInt (tileX endX), ofInt (tileZ endZ)⟩], false, false⟩ map
  | unwalkable (apart : ¬(tileX startX = tileX endX ∧ tileZ startZ = tileZ endZ))
      (wall : map.isWalkable (tileX endX) (tileZ endZ) = false) :
      Finds map top startX startZ endX endZ maxIterations ⟨[], false, true⟩ map
  | hit (apart : ¬(tileX startX = tileX endX ∧ tileZ startZ = tileZ endZ))
      (walkable : map.isWalkable (tileX endX) (tileZ endZ) = true)
      (waypoints : List (GridVector2 F))
      (stored : map.cached (cacheKey startX startZ endX endZ) = some waypoints) :
      Finds map top startX startZ endX endZ maxIterations ⟨waypoints, false, false⟩ map
  | stuck (apart : ¬(tileX startX = tileX endX ∧ tileZ startZ = tileZ endZ))
      (walkable : map.isWalkable (tileX endX) (tileZ endZ) = true)
      (miss : map.cached (cacheKey startX startZ endX endZ) = none)
      (ended : SearchEnd) (search : Search F)
      (looped : map.searchLoop top (tileX endX) (tileZ endZ) maxIterations
        (map.startSearch (tileX startX) (tileZ startZ) (tileX endX) (tileZ endZ)) = (ended, search))
      (unmoved : traceFrom ended search (tileX endX) (tileZ endZ) = (tileX startX, tileZ startZ)) :
      Finds map top startX startZ endX endZ maxIterations ⟨[], false, true⟩
        { map with scratch := search.scratch }
  | traced (apart : ¬(tileX startX = tileX endX ∧ tileZ startZ = tileZ endZ))
      (walkable : map.isWalkable (tileX endX) (tileZ endZ) = true)
      (miss : map.cached (cacheKey startX startZ endX endZ) = none)
      (ended : SearchEnd) (search : Search F)
      (looped : map.searchLoop top (tileX endX) (tileZ endZ) maxIterations
        (map.startSearch (tileX startX) (tileZ startZ) (tileX endX) (tileZ endZ)) = (ended, search))
      (moved : traceFrom ended search (tileX endX) (tileZ endZ) ≠ (tileX startX, tileZ startZ))
      (waypoints : List (GridVector2 F))
      (path : tracePath search.scratch.parent (width * height).toNat.succ
        (traceFrom ended search (tileX endX) (tileZ endZ)).1
        (traceFrom ended search (tileX endX) (tileZ endZ)).2 [] = some waypoints) :
      Finds map top startX startZ endX endZ maxIterations
        ⟨waypoints, decide (ended = .hitCap), false⟩
        (if ended = .found ∧ !waypoints.isEmpty then
          { map with
            scratch := search.scratch
            pathCache := map.cacheStore (cacheKey startX startZ endX endZ) waypoints }
        else { map with scratch := search.scratch })

theorem findPath_finds (top : OpenSet F) (startX startZ endX endZ : F) (maxIterations : Nat)
    (result : PathResult F)
    (found : map.findPath top startX startZ endX endZ maxIterations = some (result, m)) :
    map.Finds top startX startZ endX endZ maxIterations result m := by
  unfold findPath at found
  dsimp only at found
  split at found
  next same =>
    obtain ⟨rfl, rfl⟩ := by simpa using found
    exact .here same.1 same.2
  next apart =>
    split at found
    next wall =>
      obtain ⟨rfl, rfl⟩ := by simpa using found
      exact .unwalkable apart (by simpa using wall)
    next free =>
      have walkable : map.isWalkable (tileX endX) (tileZ endZ) = true := by simpa using free
      split at found
      next waypoints stored =>
        obtain ⟨rfl, rfl⟩ := by simpa using found
        exact .hit apart walkable waypoints stored
      next miss =>
        cases looped : map.searchLoop top (tileX endX) (tileZ endZ) maxIterations
            (map.startSearch (tileX startX) (tileZ startZ) (tileX endX) (tileZ endZ)) with
        | mk ended search =>
          have looped' := looped
          unfold startSearch at looped'
          dsimp only at looped'
          rw [looped'] at found
          dsimp only at found
          by_cases unmoved : traceFrom ended search (tileX endX) (tileZ endZ) =
              (tileX startX, tileZ startZ)
          next =>
            have stays : (if ended = .found then tileX endX else search.bestX) = tileX startX ∧
                (if ended = .found then tileZ endZ else search.bestZ) = tileZ startZ := by
              unfold traceFrom at unmoved
              split at unmoved <;> simp_all
            rw [if_pos stays] at found
            obtain ⟨rfl, rfl⟩ := by simpa using found
            exact .stuck apart walkable miss ended search looped unmoved
          next =>
            have at_x : (if ended = .found then tileX endX else search.bestX) =
                (traceFrom ended search (tileX endX) (tileZ endZ)).1 := by
              unfold traceFrom
              split <;> rfl
            have at_z : (if ended = .found then tileZ endZ else search.bestZ) =
                (traceFrom ended search (tileX endX) (tileZ endZ)).2 := by
              unfold traceFrom
              split <;> rfl
            rw [at_x, at_z, if_neg fun stays => unmoved (Prod.ext stays.1 stays.2)] at found
            simp only [Option.bind_eq_bind, Option.bind_eq_some_iff, Option.some.injEq,
              Prod.mk.injEq] at found
            obtain ⟨waypoints, path, rfl, rfl⟩ := found
            exact .traced apart walkable miss ended search looped unmoved waypoints path

theorem findPath_keeps (top : OpenSet F) (startX startZ endX endZ : F) (maxIterations : Nat)
    (result : PathResult F)
    (found : map.findPath top startX startZ endX endZ maxIterations = some (result, m)) :
    m.grid = map.grid ∧ m.locationCoords = map.locationCoords := by
  cases map.findPath_finds top startX startZ endX endZ maxIterations result found with
  | traced => split <;> exact ⟨rfl, rfl⟩
  | _ => exact ⟨rfl, rfl⟩

end MundusVivens.GridMap
