import MundusVivens.Walking.Shortest

set_option autoImplicit false

/-!
# How a path is marked

Every turn of the search empties its queue further or lowers a score, so with a
high enough cap the queue runs empty. A search that ran empty near the goal hands
out a path that is marked neither partial nor failed.
-/

namespace MundusVivens.GridMap

open Scalar

variable {F : Type} [Scalar F] {map : GridMap F} {costs : PathCosts F} {start goal : Tile}
  {search search' : Search F} {curr : AStarNode F} {offset : Int × Int × F} {ex ez : Int}

-- The work that is left: what is queued, and how far the scores may still fall.
noncomputable def Search.work (costs : PathCosts F) (search : Search F) : Nat :=
  search.openSet.length +
    ∑ idx ∈ Finset.Ico 0 (width * height), costs.rank (search.scratch.gScore idx)

theorem work_relaxed (member : offset ∈ offsets) (scored : Scored costs map start search)
    (exact_g : curr.g = search.score (curr.x, curr.z))
    (relaxes : map.Relaxes ex ez curr search offset search') :
    search'.work costs ≤ search.work costs := by
  cases relaxes with
  | barred => exact le_refl _
  | kept => exact le_refl _
  | reached move better =>
      have price : IsStep offset.2.2 := by
        rw [← stepCost_neighbour curr member]
        exact stepCost_isStep _ _
      have cost_new : costs.IsCost (curr.g + offset.2.2) := by
        rw [exact_g]
        exact costs.add (scored.isCost_score _) price
      have less : costs.rank (curr.g + offset.2.2) <
          costs.rank (search.scratch.gScore (index (neighbour curr offset))) :=
        (costs.lt_iff cost_new (scored.isCost _)).mp better
      have inside : index (neighbour curr offset) ∈ Finset.Ico 0 (width * height) :=
        Finset.mem_Ico.mpr (index_inside (onMap_of_walkable move.walkable))
      have falls : ∑ idx ∈ Finset.Ico 0 (width * height), costs.rank
            ((reach ex ez curr search offset).scratch.gScore idx) <
          ∑ idx ∈ Finset.Ico 0 (width * height), costs.rank (search.scratch.gScore idx) := by
        refine Finset.sum_lt_sum (fun idx _ => ?_) ⟨_, inside, ?_⟩
        · dsimp only [reach]
          rw [Function.update_apply]
          split
          next same => exact same ▸ less.le
          next => exact le_refl _
        · dsimp only [reach]
          rw [Function.update_self]
          exact less
      have queued : (reach ex ez curr search offset).openSet.length =
          search.openSet.length + 1 := by simp [reach]
      unfold Search.work
      omega

theorem work_popped {top : OpenSet F} (heap : IsHeap top) {rest : List (AStarNode F)}
    (popped : top search.openSet = some (curr, rest)) :
    Search.work costs { search with openSet := rest } + 1 = search.work costs := by
  have count := (heap.perm _ _ _ popped).length_eq
  rw [List.length_cons] at count
  unfold Search.work
  dsimp only
  omega

theorem work_expanded (arith : ExactTiles F) {top : OpenSet F} (heap : IsHeap top)
    (scored : Scored costs map start search) {rest : List (AStarNode F)}
    (popped : top search.openSet = some (curr, rest))
    (fresh : lt (search.scratch.gScore (curr.x * height + curr.z)) curr.g = false) :
    (map.expand ex ez curr { search with openSet := rest }).work costs + 1 ≤
      search.work costs := by
  obtain ⟨-, onMap, touched⟩ := scored.toExplored.popped heap popped
  have exact_g := scored.current heap popped fresh
  have remains := scored.popped heap popped
  have start_work : Search.work costs { search with openSet := rest } + 1 = search.work costs :=
    work_popped heap popped
  have kept := (@expand_makes _ map _ (fun s =>
    (Scored costs map start s ∧ s.Touched start (curr.x, curr.z) ∧
      curr.g = s.score (curr.x, curr.z)) ∧ s.work costs + 1 ≤ search.work costs)
    (fun _ _ => True) ex ez curr ?_ { search with openSet := rest }
    (fun _ => ⟨⟨remains, touched, exact_g⟩, start_work.le⟩)
    fun _ => ⟨⟨remains.nearer onMap touched _, touched, exact_g⟩, start_work.le⟩).1.2
  · exact kept
  · rintro s s' offset member ⟨⟨scored, touched, exact_g⟩, less⟩ relaxes
    have falls := work_relaxed member scored exact_g relaxes
    obtain ⟨scored, touched, exact_g, -⟩ :=
      scored.relaxed arith member onMap touched exact_g relaxes
    exact ⟨⟨⟨scored, touched, exact_g⟩, by omega⟩, trivial, fun _ _ => trivial⟩

theorem searchLoop_uncapped (arith : ExactTiles F) {top : OpenSet F} (heap : IsHeap top)
    (scored : Scored costs map start search) (remaining : Nat)
    (enough : search.work costs ≤ remaining) :
    (map.searchLoop top ex ez remaining search).1 ≠ .hitCap := by
  obtain ⟨left, s, ⟨-, few⟩, ends⟩ := @searchLoop_ends _ map _
    (fun left s => Scored costs map start s ∧ s.work costs ≤ left) top ex ez
    (fun left s curr rest holds popped _ fresh => by
      have less : (map.expand ex ez curr { s with openSet := rest }).work costs + 1 ≤
          s.work costs := work_expanded arith heap holds.1 popped fresh
      exact ⟨holds.1.expanded arith heap popped fresh, by omega⟩)
    (fun left s curr rest holds popped _ => by
      have less : Search.work costs { s with openSet := rest } + 1 = s.work costs :=
        work_popped heap popped
      exact ⟨holds.1.popped heap popped, by omega⟩)
    remaining search ⟨scored, enough⟩
  rcases ends with ⟨curr, rest, -, -, -, found⟩ | ⟨rfl, filled, -⟩ | ⟨-, empty⟩
  · rw [found]
    simp
  · have none : s.openSet = [] := by
      unfold Search.work at few
      exact List.eq_nil_of_length_eq_zero (by omega)
    rw [none, heap.empty] at filled
    cases filled
  · rw [empty]
    simp

theorem searchLoop_more (top : OpenSet F) (remaining more : Nat) (within : remaining ≤ more)
    (search : Search F) (ends : (map.searchLoop top ex ez remaining search).1 ≠ .hitCap) :
    map.searchLoop top ex ez more search = map.searchLoop top ex ez remaining search := by
  induction remaining generalizing more search with
  | zero =>
      rw [searchLoop.eq_def] at ends
      rw [searchLoop.eq_def, searchLoop.eq_def map top ex ez 0]
      dsimp only at ends ⊢
      cases popped : top search.openSet with
      | none => rfl
      | some node => simp [popped] at ends
  | succ remaining ih =>
      obtain ⟨more, rfl⟩ : ∃ n, more = n + 1 := ⟨more - 1, by omega⟩
      rw [searchLoop.eq_def] at ends
      rw [searchLoop.eq_def, searchLoop.eq_def map top ex ez (remaining + 1)]
      dsimp only at ends ⊢
      cases popped : top search.openSet with
      | none => rfl
      | some node =>
          rw [popped] at ends
          dsimp only at ends ⊢
          split
          next => rfl
          next unfound =>
            rw [if_neg unfound] at ends
            split
            next late =>
              rw [if_pos late] at ends
              exact ih more (by omega) _ ends
            next fresh =>
              rw [if_neg fresh] at ends
              exact ih more (by omega) _ ends

def PathQuery.withCap (query : PathQuery F) (cap : Nat) : PathQuery F :=
  { query with maxIterations := cap }

/-- The call returns, and a path that stops short of the goal is marked partial or failed. -/
def Marked (map : GridMap F) (query : PathQuery F) : Prop :=
  ∃ result next, query.answer map = some (result, next) ∧
    (result.isFailed = false → result.isPartial = false →
      result.waypoints.getLast? = some (waypoint query.goal))

/-- The goal is here, is a wall or can be reached, or no tile that can be reached is nearer to it
than the start is. -/
def Foreseen (map : GridMap F) (query : PathQuery F) : Prop :=
  query.start = query.goal ∨ map.isWalkable query.goal.1 query.goal.2 = false ∨
    map.Reachable query.start query.goal ∨
    ∀ t, map.Reachable query.start t →
      lt (distance query.goal t : F) (distance query.goal query.start) = false

-- What the way a search ends says about the mark of its path.
theorem marked_iff (arith : ExactTiles F) (costs : PathCosts F) (query : PathQuery F)
    (heap : IsHeap query.top) (clean : Clean map.scratch) (miss : map.cached query.key = none) :
    map.Marked query ↔ map.Foreseen query ∨ (query.loop map).1 = .hitCap := by
  have onMap : OnMap query.start := onMap_tile query.startX query.startZ
  obtain ⟨s, scored, frontier, ends⟩ := query.loop_frontier arith costs heap clean
  obtain ⟨result, next, answered, searches⟩ := query.answer_searches arith costs heap clean miss
  have marked : map.Marked query ↔ (result.isFailed = false → result.isPartial = false →
      result.waypoints.getLast? = some (waypoint query.goal)) := by
    refine ⟨?_, fun marks => ⟨result, next, answered, marks⟩⟩
    rintro ⟨result', next', answered', marks⟩
    obtain ⟨rfl, -⟩ := Prod.mk.inj (Option.some.inj (answered'.symm.trans answered))
    exact marks
  rw [marked]
  cases searches with
  | here same => simp [Foreseen, same]
  | unwalkable _ wall => simp [Foreseen, wall]
  | stuck apart _ ended search looped unmoved =>
      refine iff_of_true (fun failed => by cases failed) ?_
      rcases ends with ⟨curr, rest, -, -, found⟩ | capped | ⟨empty, exhausted⟩
      · obtain ⟨rfl, rfl⟩ := Prod.mk.inj (looped.symm.trans found)
        exact absurd unmoved.symm apart
      · exact .inr (congrArg Prod.fst capped)
      · obtain ⟨rfl, rfl⟩ := Prod.mk.inj (looped.symm.trans exhausted)
        refine .inl (.inr (.inr (.inr fun t reachable => ?_)))
        have farther := (frontier.settled scored onMap empty reachable).farther
        have home : (search.bestX, search.bestZ) = query.start := unmoved
        rwa [frontier.best.1, home] at farther
  | traced apart walkable ended search looped moved scored' tiles path starts last =>
      have reached := reachable_of_chain (scored'.toExplored.moves path) starts last
      rw [List.getLast?_map, last]
      rcases ends with ⟨curr, rest, -, -, found⟩ | capped | ⟨empty, exhausted⟩
      · obtain ⟨rfl, rfl⟩ := Prod.mk.inj (looped.symm.trans found)
        exact iff_of_true (fun _ _ => rfl) (.inl (.inr (.inr (.inl reached))))
      · obtain ⟨rfl, rfl⟩ := Prod.mk.inj (looped.symm.trans capped)
        exact iff_of_true (fun _ whole => by cases whole) (.inr (congrArg Prod.fst capped))
      · obtain ⟨rfl, rfl⟩ := Prod.mk.inj (looped.symm.trans exhausted)
        have apart_goal (t : Tile) (reachable : map.Reachable query.start t) : t ≠ query.goal :=
          (frontier.settled scored onMap empty reachable).unfound
        -- The best tile is nearer to the goal than the start, but it is not the goal.
        refine iff_of_false (fun marks => ?_) ?_
        · have same := arith.whole _ _ scored.best.1 (onMap_tile query.endX query.endZ)
            (Option.some.inj (marks rfl rfl))
          exact apart_goal _ reached same
        · rintro ((here | wall | reachable | none) | capped)
          · exact apart here
          · exact absurd (walkable.symm.trans wall) (by simp)
          · exact apart_goal _ reachable rfl
          · have nearer := frontier.best.2.resolve_left moved
            have farther := none _ reached
            rw [frontier.best.1] at nearer
            exact absurd (nearer.symm.trans farther) (by simp)
          · rw [exhausted] at capped
            cases capped

theorem found_foreseen (arith : ExactTiles F) (costs : PathCosts F) (query : PathQuery F)
    (heap : IsHeap query.top) (clean : Clean map.scratch) (miss : map.cached query.key = none)
    (found : (query.loop map).1 = .found) : map.Foreseen query := by
  obtain ⟨result, next, -, searches⟩ := query.answer_searches arith costs heap clean miss
  cases searches with
  | here same => exact .inl same
  | unwalkable _ wall => exact .inr (.inl wall)
  | stuck _ _ ended search looped unmoved =>
      obtain rfl : ended = .found := (congrArg Prod.fst looped).symm.trans found
      exact .inl unmoved.symm
  | traced _ _ ended search looped moved scored tiles path starts last =>
      obtain rfl : ended = .found := (congrArg Prod.fst looped).symm.trans found
      have reached := reachable_of_chain (scored.toExplored.moves path) starts last
      exact .inr (.inr (.inl reached))

theorem PathQuery.loop_withCap (query : PathQuery F) (cap : Nat) :
    (query.withCap cap).loop map = map.searchLoop query.top query.goal.1 query.goal.2 cap
      (map.startSearch query.start.1 query.start.2 query.goal.1 query.goal.2) := rfl

theorem exists_turns (arith : ExactTiles F) (costs : PathCosts F) (query : PathQuery F)
    (heap : IsHeap query.top) (clean : Clean map.scratch) :
    ∃ turns, ∀ cap, ((query.withCap cap).loop map).1 = .hitCap ↔ cap < turns := by
  have scored := @startSearch_scored _ _ _ query.goal.1 query.goal.2 costs _ _ clean
    (show OnMap (query.start.1, query.start.2) from onMap_tile query.startX query.startZ)
  simp only [PathQuery.loop_withCap]
  generalize map.startSearch query.start.1 query.start.2 query.goal.1 query.goal.2 = search at *
  let ends (cap : Nat) : Prop :=
    (map.searchLoop query.top query.goal.1 query.goal.2 cap search).1 ≠ .hitCap
  have enough : ∃ cap, ends cap := ⟨_, searchLoop_uncapped arith heap scored _ (le_refl _)⟩
  refine ⟨sInf { cap | ends cap }, fun cap => ⟨fun capped => ?_, fun few => ?_⟩⟩
  · by_contra many
    have first : ends (sInf { cap | ends cap }) := Nat.sInf_mem enough
    rw [searchLoop_more query.top _ cap (Nat.le_of_not_lt many) search first] at capped
    exact first capped
  · by_contra uncapped
    exact absurd few (Nat.not_lt.mpr (Nat.sInf_le uncapped))

/-- After this number of turns the queue of the search is empty, and not before. -/
structure PathQuery.RunsEmpty (map : GridMap F) (query : PathQuery F) (turns : Nat) : Prop where
  empty : ∃ s, s.openSet = [] ∧ (query.withCap turns).loop map = (.exhausted, s)
  before : ∀ cap < turns, ((query.withCap cap).loop map).1 = .hitCap

/-- For a query without a stored path the mark can be trusted just if the query is foreseen or the cap
allows fewer turns than it takes until the queue is empty. -/
theorem path_is_marked_iff (arith : ExactTiles F) (costs : PathCosts F) (blank last : GridMap F)
    (past : List (Runs.Transition (GridMap F) (PathQuery F)))
    (uncached : blank.pathCache = []) (fresh : blank.scratch = freshScratch)
    (history : Runs.Run call blank past last)
    (heaps : Runs.Guarded (fun _ query => IsHeap query.top) past)
    (query : PathQuery F) (heap : IsHeap query.top) (miss : last.cached query.key = none) :
    ∃ turns, (blank.Foreseen query ∨ query.RunsEmpty last turns) ∧
      ∀ cap, last.Marked (query.withCap cap) ↔ blank.Foreseen query ∨ cap < turns := by
  have recorded := history_recorded arith blank last past uncached fresh history heaps
  have foreseen (cap : Nat) : last.Foreseen (query.withCap cap) = blank.Foreseen query := by
    unfold Foreseen Reachable
    rw [Move.congr recorded.grid, isWalkable_congr recorded.grid]
    rfl
  obtain ⟨turns, capped⟩ := @exists_turns _ _ last arith costs query heap recorded.clean
  refine ⟨turns, ?_, fun cap => ?_⟩
  · obtain ⟨s, -, -, ends⟩ :=
      (query.withCap turns).loop_frontier arith costs heap recorded.clean
    rcases ends with ⟨curr, rest, -, -, found⟩ | hit | ⟨empty, exhausted⟩
    · left
      rw [← foreseen turns]
      exact found_foreseen arith costs _ heap recorded.clean miss (congrArg Prod.fst found)
    · have few := (capped turns).mp (congrArg Prod.fst hit)
      exact absurd few (Nat.lt_irrefl _)
    · exact .inr ⟨⟨s, empty, exhausted⟩, fun cap few => (capped cap).mpr few⟩
  · rw [marked_iff arith costs (query.withCap cap) heap recorded.clean miss, foreseen, capped]

-- From the ledge to the tile that no move leads to.
def deadEnd : PathQuery ℚ := ⟨leastFirst, 0, 0, 0, 3, defaultIterations⟩

theorem path_is_marked_iff_deadEnd : ∃ turns,
    ((ledge ℚ).Foreseen deadEnd ∨ deadEnd.RunsEmpty (ledge ℚ) turns) ∧
      ∀ cap, (ledge ℚ).Marked (deadEnd.withCap cap) ↔ (ledge ℚ).Foreseen deadEnd ∨ cap < turns :=
  path_is_marked_iff exactTiles_rat (exactCosts _ exactValue_rat) (ledge ℚ) (ledge ℚ) [] rfl rfl
    .rest (fun _ member => by cases member) deadEnd leastFirst_heap_rat rfl

-- The search runs empty on the second tile, and hands out the path there without a mark.
theorem deadEnd_unmarked : ∃ result next, deadEnd.answer (ledge ℚ) = some (result, next) ∧
    result.isFailed = false ∧ result.isPartial = false ∧
    result.waypoints.getLast? ≠ some (waypoint deadEnd.goal) := by
  have answered : (deadEnd.answer (ledge ℚ)).any (fun answered =>
      !answered.1.isFailed && !answered.1.isPartial &&
        answered.1.waypoints.getLast? != some (waypoint deadEnd.goal)) = true := by
    decide +kernel
  obtain ⟨⟨result, next⟩, answered, marks⟩ := (Option.any_eq_true _ _).mp answered
  simp only [Bool.and_eq_true, Bool.not_eq_true', bne_iff_ne] at marks
  exact ⟨result, next, answered, marks.1.1, marks.1.2, marks.2⟩

end MundusVivens.GridMap
