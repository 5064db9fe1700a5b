import MundusVivens.Walking.Frontier

set_option autoImplicit false

/-!
# Shortest paths

In exact arithmetic the octile distance never falls by more than a move costs.
So the goal leaves the queue with the least cost of all legal paths.
-/

namespace MundusVivens.GridMap

open Scalar

variable {map : GridMap ℝ} {start goal a b : Tile} {search : Search ℝ}

noncomputable def realCosts : PathCosts ℝ := exactCosts id exactValue_real

noncomputable def pathCost (tiles : List Tile) : ℝ := Paths.cost stepCost tiles

theorem heuristic_real (x1 z1 x2 z2 : Int) : (heuristic x1 z1 x2 z2 : ℝ) =
    (|x1 - x2| + |z1 - z2| : ℤ) - 0.58578644 * (min |x1 - x2| |z1 - z2| : ℤ) := by
  unfold heuristic
  simp only [ofInt, lit_real]
  push_cast
  ring

theorem distance_self : (distance goal goal : ℝ) = 0 := by
  unfold distance
  rw [heuristic_real]
  simp

theorem octile_move (move : map.Move a b) :
    let sum := |a.1 - goal.1| + |a.2 - goal.2| - (|b.1 - goal.1| + |b.2 - goal.2|)
    let least := min |a.1 - goal.1| |a.2 - goal.2| - min |b.1 - goal.1| |b.2 - goal.2|
    sum ≤ 0 ∧ -1 ≤ least ∨ sum ≤ 1 ∧ 0 ≤ least ∨
      a.1 ≠ b.1 ∧ a.2 ≠ b.2 ∧ sum ≤ 2 ∧ 1 ≤ least := by
  obtain ⟨alongX, alongZ⟩ := move.neighbours
  have axis (u v w : Int) (near : |v - u| ≤ 1) :
      |u - w| - |v - w| ≤ 1 ∧ -1 ≤ |u - w| - |v - w| ∧ (u = v → |u - w| = |v - w|) := by
    have below := abs_sub_abs_le_abs_sub (u - w) (v - w)
    have above := abs_sub_abs_le_abs_sub (v - w) (u - w)
    rw [sub_sub_sub_cancel_right] at below above
    rw [abs_sub_comm] at near
    rw [abs_sub_comm v u] at above
    exact ⟨by omega, by omega, fun same => by rw [same]⟩
  obtain ⟨lowX, highX, sameX⟩ := axis a.1 b.1 goal.1 alongX
  obtain ⟨lowZ, highZ, sameZ⟩ := axis a.2 b.2 goal.2 alongZ
  generalize |a.1 - goal.1| = ax at *
  generalize |a.2 - goal.2| = az at *
  generalize |b.1 - goal.1| = bx at *
  generalize |b.2 - goal.2| = bz at *
  omega

theorem distance_move (move : map.Move a b) :
    (distance goal a : ℝ) ≤ stepCost a b + distance goal b := by
  have change := @octile_move map goal a b move
  unfold distance stepCost
  rw [heuristic_real, heuristic_real]
  generalize |a.1 - goal.1| + |a.2 - goal.2| = sum at *
  generalize |b.1 - goal.1| + |b.2 - goal.2| = sum' at *
  generalize min |a.1 - goal.1| |a.2 - goal.2| = least at *
  generalize min |b.1 - goal.1| |b.2 - goal.2| = least' at *
  have price : (1 : ℝ) ≤ if a.1 ≠ b.1 ∧ a.2 ≠ b.2 then lit 1.41421356 else lit 1 := by
    split <;> norm_num
  have cast (m n k : Int) (less : m ≤ n + k) : (m : ℝ) ≤ n + k := by exact_mod_cast less
  rcases change with ⟨nearer, overlap⟩ | ⟨nearer, overlap⟩ | ⟨turnX, turnZ, nearer, overlap⟩
  · have nearer := cast sum sum' 0 (by omega)
    have overlap := cast least' least 1 (by omega)
    push_cast at nearer overlap
    linarith
  · have nearer := cast sum sum' 1 (by omega)
    have overlap := cast least' least 0 (by omega)
    push_cast at nearer overlap
    linarith
  · have nearer := cast sum sum' 2 (by omega)
    have overlap := cast least' least (-1) (by omega)
    rw [if_pos ⟨turnX, turnZ⟩, lit_real]
    push_cast at nearer overlap ⊢
    linarith

theorem distance_nonneg (goal a : Tile) : 0 ≤ (distance goal a : ℝ) := by
  unfold distance
  rw [heuristic_real]
  have least : min |a.1 - goal.1| |a.2 - goal.2| ≤ |a.1 - goal.1| + |a.2 - goal.2| :=
    (min_le_left _ _).trans (le_add_of_nonneg_right (abs_nonneg _))
  have positive : 0 ≤ min |a.1 - goal.1| |a.2 - goal.2| := le_min (abs_nonneg _) (abs_nonneg _)
  have least : (min |a.1 - goal.1| |a.2 - goal.2| : ℤ) ≤
      ((|a.1 - goal.1| + |a.2 - goal.2| : ℤ) : ℝ) := by exact_mod_cast least
  have positive : (0 : ℝ) ≤ (min |a.1 - goal.1| |a.2 - goal.2| : ℤ) := by exact_mod_cast positive
  linarith

theorem rank_le_iff {a b : ℝ} (cost_a : realCosts.IsCost a) (cost_b : realCosts.IsCost b) :
    realCosts.rank a ≤ realCosts.rank b ↔ a ≤ b := by
  rw [← realCosts.lt_eq_false_iff cost_b cost_a, ← Bool.not_eq_true, lt_real, not_lt]

theorem rank_lt_iff {a b : ℝ} (cost_a : realCosts.IsCost a) (cost_b : realCosts.IsCost b) :
    realCosts.rank a < realCosts.rank b ↔ a < b := by
  rw [← realCosts.lt_iff cost_a cost_b, lt_real]

theorem goal_score_le {top : OpenSet ℝ} (heap : IsHeap top)
    (scored : Scored realCosts map start search)
    (frontier : Frontier realCosts map start goal (fun _ => False) search) (onMap : OnMap start)
    {curr : AStarNode ℝ} {rest : List (AStarNode ℝ)}
    (popped : top search.openSet = some (curr, rest)) (at_goal : (curr.x, curr.z) = goal)
    {tiles : List Tile} (path : map.LegalPath start goal tiles) :
    search.score goal ≤ pathCost tiles := by
  have nodes (node : AStarNode ℝ) : node ∈ search.openSet ↔ node = curr ∨ node ∈ rest := by
    rw [(heap.perm _ _ _ popped).mem_iff, List.mem_cons]
  have total (node : AStarNode ℝ) (queued : node ∈ search.openSet) :
      node.f = node.g + distance goal (node.x, node.z) := by
    rcases frontier.estimated node queued with sum | ⟨free, estimate⟩
    · exact sum
    · rw [estimate, free]
      simp [zero]
  have among : curr ∈ search.openSet := (nodes curr).mpr (.inl rfl)
  have visited : index goal ∈ search.scratch.visitedNodes := by
    rw [← at_goal]
    exact frontier.visited scored.toExplored (scored.queued curr among).2
  have settles (a b : Tile) (settled : Settled map goal search a) (move : map.Move a b) :
      search.score b ≤ search.score a + stepCost a b := by
    have through := settled.relaxed b move
    rwa [← Bool.not_eq_true, lt_real, not_lt] at through
  obtain ⟨b, member, unsettled, bound⟩ := Paths.exists_unsettled search.score (distance goal)
    (Settled map goal search) (fun a b => distance_move) settles path.moves path.starts path.ends
    fun settled => settled.unfound rfl
  have home : search.score start = 0 := scored.home.1.trans (by simp [zero])
  rw [home, zero_add, distance_self, add_zero] at bound
  change search.score b + distance goal b ≤ pathCost tiles at bound
  have inside : OnMap b := onMap_of_chain path.moves path.starts onMap b member
  by_cases known : index b ∈ search.scratch.visitedNodes
  next =>
    obtain ⟨node, queued, at_b, held⟩ :=
      ((frontier.waits b inside known).resolve_left id).resolve_left unsettled
    have least : curr.f ≤ node.f := by
      rcases (nodes node).mp queued with rfl | left
      · exact le_refl _
      · have order := heap.least _ _ _ popped node left
        rwa [← Bool.not_eq_true, lt_real, not_lt] at order
    rw [total curr among, total node queued, at_goal, at_b, distance_self, add_zero, held] at least
    have held : search.score goal ≤ curr.g := by
      rcases (scored.entries curr among).2 with same | less
      · rw [same, at_goal]
      · rw [lt_real, at_goal] at less
        exact less.le
    exact held.trans (least.trans bound)
  next =>
    -- The cost of a path over a tile that was never reached is above every score.
    have unset : search.score b = 1000000000 := by
      unfold Search.score
      rw [(scored.clean _ known).1, lit_real]
      norm_num
    have low := (realCosts.grows (scored.isCost_score goal) (.inl rfl)).trans_lt
      (frontier.low visited scored (.inl rfl))
    rw [rank_lt_iff (scored.isCost_score goal) realCosts.unset, lit_real] at low
    have far := distance_nonneg goal b
    push_cast at low
    linarith

/-- Without a stored path, a call for a goal that can be reached leads to it over a shortest legal
path, unless the cap ends its search. -/
theorem found_path_is_shortest (blank last : GridMap ℝ)
    (past : List (Runs.Transition (GridMap ℝ) (PathQuery ℝ)))
    (uncached : blank.pathCache = []) (fresh : blank.scratch = freshScratch)
    (history : Runs.Run call blank past last)
    (heaps : Runs.Guarded (fun _ query => IsHeap query.top) past)
    (query : PathQuery ℝ) (heap : IsHeap query.top) (miss : last.cached query.key = none)
    (apart : query.start ≠ query.goal) (reachable : blank.Reachable query.start query.goal)
    (uncapped : (query.loop last).1 ≠ .hitCap) :
    ∃ result next tiles, query.answer last = some (result, next) ∧ result.isFailed = false ∧
      result.isPartial = false ∧ result.waypoints = tiles.map waypoint ∧
      blank.LegalPath query.start query.goal tiles ∧
      ∀ other, blank.LegalPath query.start query.goal other → pathCost tiles ≤ pathCost other := by
  have recorded := history_recorded exactTiles_real blank last past uncached fresh history heaps
  have onMap : OnMap query.start := onMap_tile query.startX query.startZ
  have same_moves : last.Move = blank.Move := Move.congr recorded.grid
  have reachable : last.Reachable query.start query.goal := by
    unfold Reachable at *
    rwa [same_moves]
  obtain ⟨s, scored, frontier, ends⟩ :=
    query.loop_frontier exactTiles_real realCosts heap recorded.clean
  obtain ⟨result, next, answered, searches⟩ :=
    query.answer_searches exactTiles_real realCosts heap recorded.clean miss
  rcases ends with ⟨curr, rest, popped, at_goal, looped⟩ | looped | ⟨empty, looped⟩
  · have walkable : last.isWalkable query.goal.1 query.goal.2 = true := by
      rcases Relation.ReflTransGen.cases_tail reachable with same | ⟨a, -, move⟩
      · exact absurd same.symm apart
      · exact move.walkable
    cases searches with
    | here same => exact absurd same apart
    | unwalkable _ wall => exact absurd (walkable.symm.trans wall) (by simp)
    | stuck _ _ ended search looped' unmoved =>
        obtain ⟨rfl, rfl⟩ := Prod.mk.inj (looped'.symm.trans looped)
        exact absurd unmoved.symm apart
    | traced _ _ ended search looped' moved scored' tiles path starts ends =>
        obtain ⟨rfl, rfl⟩ := Prod.mk.inj (looped'.symm.trans looped)
        refine ⟨_, next, tiles, answered, rfl, rfl, rfl, ⟨?_, starts, ends⟩, fun other legal => ?_⟩
        · rw [← same_moves]
          exact scored'.toExplored.moves path
        · have rises (a b : Tile) (link : s.Parent a b) :
              s.score a + stepCost a b ≤ s.score b :=
            (rank_le_iff (realCosts.add (scored.isCost_score a) (stepCost_isStep a b))
              (scored.isCost_score b)).mp (scored.risen a b link)
          have home : s.score query.start = 0 := scored.home.1.trans (by simp [zero])
          have traced := Paths.cost_le_score s.score rises path starts ends
          rw [home, zero_add] at traced
          refine traced.trans (goal_score_le heap scored frontier onMap popped at_goal ?_)
          exact ⟨same_moves ▸ legal.moves, legal.starts, legal.ends⟩
  · exact absurd (congrArg Prod.fst looped) uncapped
  · exact absurd rfl (frontier.settled scored onMap empty reachable).unfound

-- Two walkable tiles side by side, and a third one that no move leads to.
def ledge (F : Type) [Scalar F] : GridMap F :=
  { empty with grid := fun idx => idx = 0 || idx = 1 || idx = 3 }

noncomputable def ledgeWalk : PathQuery ℝ := ⟨leastFirst, lit 0, lit 0, lit 0, lit 1, 2⟩

theorem ledgeWalk_start : ledgeWalk.start = (0, 0) := by
  unfold ledgeWalk PathQuery.start tileX tileZ
  simp only [lit_real, round_lit_real]
  decide +kernel

theorem ledgeWalk_goal : ledgeWalk.goal = (0, 1) := by
  unfold ledgeWalk PathQuery.goal tileX tileZ
  simp only [lit_real, round_lit_real]
  decide +kernel

theorem ledgeWalk_reachable : (ledge ℝ).Reachable ledgeWalk.start ledgeWalk.goal := by
  rw [ledgeWalk_start, ledgeWalk_goal]
  exact .single ⟨by decide, by decide, by simp [ledge, isWalkable, width, height], by simp⟩

theorem ledgeWalk_loop : (ledgeWalk.loop (ledge ℝ)).1 = .found := by
  have irrefl (x : ℝ) : lt x x = false := by simp [← Bool.not_eq_true]
  have cheap : (zero : ℝ) + 1 < 1000000000 := by
    rw [zero, lit_real]
    norm_num
  have first : (ledge ℝ).expand 0 1 ⟨0, 0, zero, heuristic 0 0 0 1⟩
      ⟨⟨Function.update (fun _ => lit 1000000000) 0 zero, fun _ => (-1, -1), [0]⟩, [], 0, 0,
        heuristic 0 0 0 1⟩ =
      ⟨⟨Function.update (Function.update (fun _ => lit 1000000000) 0 zero) 1 (zero + 1),
          Function.update (fun _ => (-1, -1)) 1 (0, 0), [0, 1]⟩,
        [⟨0, 1, zero + 1, zero + 1 + heuristic 0 1 0 1⟩], 0, 0, heuristic 0 0 0 1⟩ := by
    simp [irrefl, expand, offsets, relax, isWalkable, ledge, width, height, cheap]
  unfold PathQuery.loop
  rw [ledgeWalk_start, ledgeWalk_goal]
  change ((ledge ℝ).searchLoop leastFirst 0 1 2
    ⟨⟨Function.update (fun _ => lit 1000000000) 0 zero, fun _ => (-1, -1), [0]⟩,
      [⟨0, 0, zero, heuristic 0 0 0 1⟩], 0, 0, heuristic 0 0 0 1⟩).1 = .found
  rw [searchLoop.eq_def]
  simp only [leastFirst, zero_ne_one, and_false, if_false, zero_mul, zero_add,
    Function.update_self, irrefl, Bool.false_eq_true, first]
  rw [searchLoop.eq_def]
  simp [leastFirst]

theorem found_path_is_shortest_ledge : ∃ result next tiles,
    ledgeWalk.answer (ledge ℝ) = some (result, next) ∧ result.isFailed = false ∧
      result.isPartial = false ∧ result.waypoints = tiles.map waypoint ∧
      (ledge ℝ).LegalPath ledgeWalk.start ledgeWalk.goal tiles ∧
      ∀ other, (ledge ℝ).LegalPath ledgeWalk.start ledgeWalk.goal other →
        pathCost tiles ≤ pathCost other :=
  found_path_is_shortest (ledge ℝ) (ledge ℝ) [] rfl rfl .rest (fun _ member => by cases member)
    ledgeWalk leastFirst_heap_real rfl (by rw [ledgeWalk_start, ledgeWalk_goal]; decide)
    ledgeWalk_reachable (by rw [ledgeWalk_loop]; decide)

end MundusVivens.GridMap
