import MundusVivens.Walking.Scores

set_option autoImplicit false

/-!
# Traced paths

A search without a stored path always returns. Its path leads from the start over
legal moves and meets no tile twice, however the search ended.
-/

namespace MundusVivens.GridMap

open Scalar

variable {F : Type} [Scalar F] {map : GridMap F} {costs : PathCosts F} {start : Tile} {ex ez : Int}

theorem searchLoop_scored (arith : ExactTiles F) {top : OpenSet F} (heap : IsHeap top)
    (remaining : Nat) (search : Search F) (scored : Scored costs map start search)
    (ended : SearchEnd) (last : Search F)
    (looped : map.searchLoop top ex ez remaining search = (ended, last)) :
    Scored costs map start last ∧ OnMap (traceFrom ended last ex ez) ∧
      last.Touched start (traceFrom ended last ex ez) := by
  obtain ⟨-, traced⟩ := searchLoop_explored arith heap remaining search scored.toExplored ended
    last looped
  refine ⟨?_, traced⟩
  obtain ⟨_, s, holds, ends⟩ := searchLoop_ends (fun _ s => Scored costs map start s)
    (fun _ _ _ _ holds popped _ fresh => holds.expanded arith heap popped fresh)
    (fun _ _ _ _ holds popped _ => holds.popped heap popped) remaining search scored
  rcases ends with ⟨curr, rest, popped, -, -, found⟩ | ⟨-, -, capped⟩ | ⟨-, empty⟩
  · obtain ⟨rfl, rfl⟩ := Prod.mk.inj (looped.symm.trans found)
    obtain ⟨-, onMap, touched⟩ := holds.toExplored.popped heap popped
    exact (holds.popped heap popped).nearer onMap touched s.bestH
  · obtain ⟨rfl, rfl⟩ := Prod.mk.inj (looped.symm.trans capped)
    exact holds
  · obtain ⟨rfl, rfl⟩ := Prod.mk.inj (looped.symm.trans empty)
    exact holds

theorem Explored.moves {search : Search F} (explored : map.Explored start search) {tiles : List Tile}
    (path : tiles.IsChain search.Parent) : tiles.IsChain map.Move := by
  refine path.imp ?_
  rintro a b ⟨onMap, inside, linked⟩
  have moved := explored.linked b inside (linked ▸ ne_unset onMap)
  rw [linked] at moved
  exact moved.2.2

def PathQuery.loop (query : PathQuery F) (map : GridMap F) : SearchEnd × Search F :=
  map.searchLoop query.top query.goal.1 query.goal.2 query.maxIterations
    (map.startSearch query.start.1 query.start.2 query.goal.1 query.goal.2)

-- How a call ends that finds no stored path.
inductive Searches (costs : PathCosts F) (map : GridMap F) (query : PathQuery F) :
    PathResult F → Prop where
  | here (same : query.start = query.goal) :
      Searches costs map query ⟨[waypoint query.goal], false, false⟩
  | unwalkable (apart : query.start ≠ query.goal)
      (wall : map.isWalkable query.goal.1 query.goal.2 = false) :
      Searches costs map query ⟨[], false, true⟩
  | stuck (apart : query.start ≠ query.goal)
      (walkable : map.isWalkable query.goal.1 query.goal.2 = true) (ended : SearchEnd) (search : Search F)
      (looped : query.loop map = (ended, search))
      (unmoved : traceFrom ended search query.goal.1 query.goal.2 = query.start) :
      Searches costs map query ⟨[], false, true⟩
  | traced (apart : query.start ≠ query.goal)
      (walkable : map.isWalkable query.goal.1 query.goal.2 = true) (ended : SearchEnd) (search : Search F)
      (looped : query.loop map = (ended, search))
      (moved : traceFrom ended search query.goal.1 query.goal.2 ≠ query.start)
      (scored : Scored costs map query.start search) (tiles : List Tile)
      (path : tiles.IsChain search.Parent) (starts : tiles.head? = some query.start)
      (ends : tiles.getLast? = some (traceFrom ended search query.goal.1 query.goal.2)) :
      Searches costs map query ⟨tiles.map waypoint, decide (ended = .hitCap), false⟩

theorem PathQuery.apart_iff (query : PathQuery F) :
    ¬(tileX query.startX = tileX query.endX ∧ tileZ query.startZ = tileZ query.endZ) ↔
      query.start ≠ query.goal := by
  unfold PathQuery.start PathQuery.goal
  rw [Ne, Prod.mk.injEq]

theorem PathQuery.loop_scored (arith : ExactTiles F) (costs : PathCosts F) (query : PathQuery F)
    (heap : IsHeap query.top) (clean : Clean map.scratch) (ended : SearchEnd) (search : Search F)
    (looped : query.loop map = (ended, search)) :
    Scored costs map query.start search ∧
      OnMap (traceFrom ended search query.goal.1 query.goal.2) ∧
      search.Touched query.start (traceFrom ended search query.goal.1 query.goal.2) :=
  searchLoop_scored arith heap _ _
    (startSearch_scored costs clean (onMap_tile query.startX query.startZ)) ended search looped

theorem PathQuery.loop_traces (arith : ExactTiles F) (costs : PathCosts F) (query : PathQuery F)
    (heap : IsHeap query.top) (clean : Clean map.scratch) (ended : SearchEnd) (search : Search F)
    (looped : query.loop map = (ended, search)) :
    ∃ tiles : List Tile, tracePath (F := F) search.scratch.parent (width * height).toNat.succ
        (traceFrom ended search query.goal.1 query.goal.2).1
        (traceFrom ended search query.goal.1 query.goal.2).2 [] = some (tiles.map waypoint) ∧
      tiles.IsChain search.Parent ∧ tiles.head? = some query.start ∧
      tiles.getLast? = some (traceFrom ended search query.goal.1 query.goal.2) := by
  obtain ⟨scored, onMap, touched⟩ :=
    query.loop_scored arith costs heap clean ended search looped
  have inside (b : Tile) (member : b ∈ [traceFrom ended search query.goal.1 query.goal.2]) :
      OnMap b := by
    obtain rfl := List.mem_singleton.mp member
    exact onMap
  exact scored.traces (width * height).toNat.succ _ [] (List.isChain_singleton _) inside touched
    (Nat.lt_succ_self _)

theorem PathQuery.answer_total (arith : ExactTiles F) (costs : PathCosts F) (query : PathQuery F)
    (heap : IsHeap query.top) (clean : Clean map.scratch) :
    ∃ result next, query.answer map = some (result, next) := by
  cases looped : query.loop map with
  | mk ended search =>
    obtain ⟨tiles, traced, -⟩ := query.loop_traces arith costs heap clean ended search looped
    have at_x : (if ended = .found then tileX query.endX else search.bestX) =
        (traceFrom ended search query.goal.1 query.goal.2).1 := by
      unfold traceFrom
      split <;> rfl
    have at_z : (if ended = .found then tileZ query.endZ else search.bestZ) =
        (traceFrom ended search query.goal.1 query.goal.2).2 := by
      unfold traceFrom
      split <;> rfl
    unfold PathQuery.loop startSearch PathQuery.start PathQuery.goal at looped
    unfold PathQuery.answer findPath
    dsimp only at looped ⊢
    split
    next => exact ⟨_, _, rfl⟩
    next =>
      split
      next => exact ⟨_, _, rfl⟩
      next =>
        split
        next => exact ⟨_, _, rfl⟩
        next =>
          rw [looped]
          dsimp only
          rw [at_x, at_z, traced]
          split <;> exact ⟨_, _, rfl⟩

theorem PathQuery.answer_searches (arith : ExactTiles F) (costs : PathCosts F)
    (query : PathQuery F) (heap : IsHeap query.top) (clean : Clean map.scratch)
    (miss : map.cached query.key = none) :
    ∃ result next, query.answer map = some (result, next) ∧ Searches costs map query result := by
  obtain ⟨result, next, answered⟩ := query.answer_total arith costs heap clean
  refine ⟨result, next, answered, ?_⟩
  cases map.findPath_finds _ _ _ _ _ _ result answered with
  | here sameX sameZ => exact .here (Prod.ext sameX sameZ)
  | unwalkable apart wall => exact .unwalkable (query.apart_iff.mp apart) wall
  | hit _ _ _ stored => cases miss.symm.trans stored
  | stuck apart walkable _ ended search looped unmoved =>
      exact .stuck (query.apart_iff.mp apart) walkable ended search looped unmoved
  | traced apart walkable _ ended search looped moved waypoints path =>
      obtain ⟨tiles, traced, chain, starts, ends⟩ :=
        query.loop_traces arith costs heap clean ended search looped
      obtain rfl := Option.some.inj (traced.symm.trans path)
      exact .traced (query.apart_iff.mp apart) walkable ended search looped moved
        (query.loop_scored arith costs heap clean ended search looped).1 tiles chain starts ends

/-- The waypoints are those of a path of legal moves from a tile that meets no tile twice. -/
def SimplePath (map : GridMap F) (start : Tile) (waypoints : List (GridVector2 F)) : Prop :=
  ∃ tiles : List Tile, waypoints = tiles.map waypoint ∧ tiles.head? = some start ∧
    tiles.IsChain map.Move ∧ tiles.Nodup

/-- After any history of calls, a call for which no path is stored returns, and unless it reports
failure its path is simple. -/
theorem searched_path_is_simple (arith : ExactTiles F) (costs : PathCosts F)
    (blank last : GridMap F) (past : List (Runs.Transition (GridMap F) (PathQuery F)))
    (uncached : blank.pathCache = []) (fresh : blank.scratch = freshScratch)
    (history : Runs.Run call blank past last)
    (heaps : Runs.Guarded (fun _ query => IsHeap query.top) past)
    (query : PathQuery F) (heap : IsHeap query.top) (miss : last.cached query.key = none) :
    ∃ result next, query.answer last = some (result, next) ∧
      (result.isFailed = false → blank.SimplePath query.start result.waypoints) := by
  have recorded := history_recorded arith blank last past uncached fresh history heaps
  obtain ⟨result, next, answered, searches⟩ :=
    query.answer_searches arith costs heap recorded.clean miss
  refine ⟨result, next, answered, fun succeeds => ?_⟩
  cases searches with
  | here same =>
      exact ⟨[query.goal], rfl, by rw [same]; rfl, List.isChain_singleton _, List.nodup_singleton _⟩
  | unwalkable => cases succeeds
  | stuck => cases succeeds
  | traced _ _ _ search _ _ scored tiles path starts =>
      refine ⟨tiles, rfl, starts, ?_, Paths.nodup_of_acyclic scored.acyclic path⟩
      rw [← Move.congr recorded.grid]
      exact scored.toExplored.moves path

theorem searched_path_is_simple_shortWalk : ∃ result next,
    shortWalk.answer meadow = some (result, next) ∧
      (result.isFailed = false → meadow.SimplePath shortWalk.start result.waypoints) :=
  searched_path_is_simple exactTiles_rat (exactCosts _ exactValue_rat) meadow meadow [] rfl rfl
    .rest (fun _ member => by cases member) shortWalk leastFirst_heap_rat rfl

end MundusVivens.GridMap
