import MundusVivens.Walking.Routes

set_option autoImplicit false

/-!
# Enclosed tiles

In exact arithmetic a search that runs out of tiles has seen a whole region that
is closed under legal moves. A path that is neither partial nor failed leads to
the goal unless such a region keeps the start apart from it.
-/

namespace MundusVivens.GridMap

open Scalar

/-- Some region of a few tiles holds the start, is closed under moves and leaves out the goal. -/
def Enclosed {F : Type} (map : GridMap F) (size : Nat) (start goal : Tile) : Prop :=
  ∃ region : Finset Tile, region.card ≤ size ∧ start ∈ region ∧ goal ∉ region ∧
    ∀ a ∈ region, ∀ b, map.Move a b → b ∈ region

variable {map : GridMap ℝ} {start goal : Tile} {done : Finset Tile} {bound : ℝ}
  {search search' : Search ℝ} {curr : AStarNode ℝ} {offset : Int × Int × ℝ}

-- Every tile the search came to is settled or waits in the queue with its best score.
structure Covered (map : GridMap ℝ) (start goal : Tile) (done : Finset Tile) (bound : ℝ)
    (search : Search ℝ) : Prop where
  explored : map.Explored start search
  cost : ∀ node ∈ search.openSet, node.g ≤ bound
  unset : ∀ t, OnMap t → ¬search.Touched start t →
    search.scratch.gScore (index t) = lit 1000000000
  waiting : ∀ t, OnMap t → search.Touched start t → t ∈ done ∨
    ∃ node ∈ search.openSet, (node.x, node.z) = t ∧ node.g = search.scratch.gScore (index t)
  closed : ∀ a ∈ done, ∀ b, map.Move a b → search.Touched start b
  before : goal ∉ done

theorem offset_cost (member : offset ∈ offsets) : offset.2.2 ≤ 1.5 := by
  simp only [offsets, List.mem_cons, List.not_mem_nil, or_false] at member
  rcases member with rfl | rfl | rfl | rfl | rfl | rfl | rfl | rfl <;>
  · rw [lit_real]
    norm_num

-- While a node is expanded, its own tile is neither settled nor waiting.
structure Expanding (map : GridMap ℝ) (start goal : Tile) (done : Finset Tile) (bound : ℝ)
    (curr : AStarNode ℝ) (search : Search ℝ) : Prop where
  explored : map.Explored start search
  cost : ∀ node ∈ search.openSet, node.g ≤ bound + 1.5
  unset : ∀ t, OnMap t → ¬search.Touched start t →
    search.scratch.gScore (index t) = lit 1000000000
  waiting : ∀ t, OnMap t → search.Touched start t → t = (curr.x, curr.z) ∨ t ∈ done ∨
    ∃ node ∈ search.openSet, (node.x, node.z) = t ∧ node.g = search.scratch.gScore (index t)
  closed : ∀ a ∈ done, ∀ b, map.Move a b → search.Touched start b
  here : OnMap (curr.x, curr.z) ∧ search.Touched start (curr.x, curr.z)

theorem Expanding.relaxed {ex ez : Int} (member : offset ∈ offsets) (low : curr.g ≤ bound)
    (small : bound + 1.5 < 1000000000)
    (expanding : Expanding map start goal done bound curr search)
    (relaxes : map.Relaxes ex ez curr search offset search') :
    Expanding map start goal done bound curr search' ∧
      (map.Move (curr.x, curr.z) (neighbour curr offset) →
        search'.Touched start (neighbour curr offset)) ∧
      ∀ other, (map.Move (curr.x, curr.z) (neighbour curr other) →
          search.Touched start (neighbour curr other)) →
        map.Move (curr.x, curr.z) (neighbour curr other) →
          search'.Touched start (neighbour curr other) := by
  obtain ⟨explored, came⟩ := expanding.explored.relaxed exactTiles_real expanding.here.1
    expanding.here.2 relaxes
  have price := offset_cost member
  cases relaxes with
  | barred no => exact ⟨expanding, fun move => absurd move no, fun _ => id⟩
  | kept worse =>
      refine ⟨expanding, fun move => ?_, fun _ => id⟩
      by_contra untouched
      -- An unset score is above every cost.
      rw [expanding.unset _ (onMap_of_walkable move.walkable) untouched, ← Bool.not_eq_true,
        lt_real, lit_real] at worse
      push_cast at worse
      linarith
  | reached move better =>
      have grows (t : Tile) (touched : search.Touched start t) :
          (reach ex ez curr search offset).Touched start t := touched.reach expanding.here.1
      have there : OnMap (neighbour curr offset) := onMap_of_walkable move.walkable
      have linked : (reach ex ez curr search offset).Touched start (neighbour curr offset) := by
        refine .inr ?_
        rw [show (reach ex ez curr search offset).scratch.parent (index (neighbour curr offset)) =
          (curr.x, curr.z) from Function.update_self ..]
        exact ne_unset expanding.here.1
      have score (t : Tile) (inside : OnMap t) (other : t ≠ neighbour curr offset) :
          (reach ex ez curr search offset).scratch.gScore (index t) =
            search.scratch.gScore (index t) :=
        Function.update_of_ne (fun same => other (index_injective inside there same)) ..
      have parent (t : Tile) (inside : OnMap t) (other : t ≠ neighbour curr offset) :
          (reach ex ez curr search offset).scratch.parent (index t) =
            search.scratch.parent (index t) :=
        Function.update_of_ne (fun same => other (index_injective inside there same)) ..
      refine ⟨⟨explored, fun node among => ?_, fun t inside untouched => ?_,
        fun t inside touched => ?_,
        fun a settled b moves => grows b (expanding.closed a settled b moves), expanding.here.1,
        came⟩, fun _ => linked, fun other made moves => grows _ (made moves)⟩
      · rcases List.mem_append.mp among with old | new
        · exact expanding.cost node old
        · obtain rfl := List.mem_singleton.mp new
          linarith
      · have other : t ≠ neighbour curr offset := by
          rintro rfl
          exact untouched linked
        rw [score t inside other]
        exact expanding.unset t inside fun touched => untouched (grows t touched)
      · by_cases same : t = neighbour curr offset
        next =>
          subst same
          refine .inr (.inr ⟨_, List.mem_append_right _ (List.mem_singleton_self _), rfl, ?_⟩)
          dsimp only [reach]
          rw [Function.update_self]
        next =>
          have before : search.Touched start t := by
            rcases touched with home | linked
            · exact .inl home
            · rw [parent t inside same] at linked
              exact .inr linked
          rcases expanding.waiting t inside before with self | settled | ⟨node, among, at_t, best⟩
          · exact .inl self
          · exact .inr (.inl settled)
          · refine .inr (.inr ⟨node, List.mem_append_left _ among, at_t, ?_⟩)
            rw [score t inside same]
            exact best

theorem Covered.expanded {top : OpenSet ℝ} {rest : List (AStarNode ℝ)} (heap : IsHeap top)
    (small : bound + 1.5 < 1000000000) (covered : Covered map start goal done bound search)
    (popped : top search.openSet = some (curr, rest)) (unfound : (curr.x, curr.z) ≠ goal) :
    Covered map start goal (insert (curr.x, curr.z) done) (bound + 1.5)
      (map.expand goal.1 goal.2 curr { search with openSet := rest }) := by
  obtain ⟨remains, here⟩ := covered.explored.popped heap popped
  have nodes (node : AStarNode ℝ) : node ∈ search.openSet ↔ node = curr ∨ node ∈ rest := by
    rw [(heap.perm _ _ _ popped).mem_iff, List.mem_cons]
  have low : curr.g ≤ bound := covered.cost curr ((nodes curr).mpr (.inl rfl))
  have begun : Expanding map start goal done bound curr { search with openSet := rest } := by
    refine ⟨remains, fun node among => ?_, covered.unset, fun t inside touched => ?_,
      covered.closed, here⟩
    · have old := covered.cost node ((nodes node).mpr (.inr among))
      linarith
    · rcases covered.waiting t inside touched with settled | ⟨node, among, at_t, best⟩
      · exact .inr (.inl settled)
      · rcases (nodes node).mp among with rfl | left
        · exact .inl at_t.symm
        · exact .inr (.inr ⟨node, left, at_t, best⟩)
  obtain ⟨expanding, made⟩ := expand_makes (Expanding map start goal done bound curr)
    (fun offset s => map.Move (curr.x, curr.z) (neighbour curr offset) →
      s.Touched start (neighbour curr offset))
    (fun s s' offset member holds relaxes => holds.relaxed member low small relaxes) _ (fun _ => begun)
    fun _ => ⟨⟨remains.clean, remains.queued, remains.linked, here⟩, begun.cost, begun.unset,
      begun.waiting, begun.closed, here⟩
  refine ⟨expanding.explored, expanding.cost, expanding.unset, fun t inside touched => ?_,
    fun a settled b moves => ?_, ?_⟩
  · rcases expanding.waiting t inside touched with rfl | settled | waits
    · exact .inl (Finset.mem_insert_self _ _)
    · exact .inl (Finset.mem_insert_of_mem settled)
    · exact .inr waits
  · rcases Finset.mem_insert.mp settled with rfl | old
    · obtain ⟨cost, member⟩ := exists_offset moves
      have leads : neighbour curr (b.1 - curr.x, b.2 - curr.z, cost) = b := by
        unfold neighbour
        ext <;> dsimp only <;> omega
      rw [← leads]
      refine made _ member ?_
      rw [leads]
      exact moves
    · exact expanding.closed a old b moves
  · rw [Finset.mem_insert, not_or]
    exact ⟨unfound.symm, covered.before⟩

theorem Covered.outdated {top : OpenSet ℝ} {rest : List (AStarNode ℝ)} (heap : IsHeap top)
    (covered : Covered map start goal done bound search)
    (popped : top search.openSet = some (curr, rest))
    (late : lt (search.scratch.gScore (curr.x * height + curr.z)) curr.g = true) :
    Covered map start goal done bound { search with openSet := rest } := by
  have nodes (node : AStarNode ℝ) : node ∈ search.openSet ↔ node = curr ∨ node ∈ rest := by
    rw [(heap.perm _ _ _ popped).mem_iff, List.mem_cons]
  refine ⟨(covered.explored.popped heap popped).1,
    fun node among => covered.cost node ((nodes node).mpr (.inr among)), covered.unset,
    fun t inside touched => ?_, covered.closed, covered.before⟩
  rcases covered.waiting t inside touched with settled | ⟨node, among, at_t, best⟩
  · exact .inl settled
  · rcases (nodes node).mp among with rfl | left
    · -- The node that waits has the score of its tile, so it is not the outdated one.
      rw [lt_real] at late
      have same : node.g = search.scratch.gScore (node.x * height + node.z) := by
        rw [best, ← at_t]
        rfl
      linarith
    · exact .inr ⟨node, left, at_t, best⟩

theorem startSearch_covered {sx sz : Int} (clean : Clean map.scratch) (onMap : OnMap (sx, sz)) :
    Covered map (sx, sz) goal ∅ 0 (map.startSearch sx sz goal.1 goal.2) := by
  have explored : map.Explored (sx, sz) (map.startSearch sx sz goal.1 goal.2) :=
    startSearch_explored clean onMap
  have reset := clean.reset
  refine ⟨explored, fun node member => ?_, fun t inside untouched => ?_,
    fun t inside touched => .inr ?_, fun a settled => by simp at settled, by simp⟩
  · obtain rfl := List.mem_singleton.mp member
    exact le_of_eq (by simp [zero])
  · have other : index t ≠ sx * height + sz := by
      intro same
      exact untouched (.inl (index_injective inside onMap same))
    unfold startSearch
    rw [reset]
    exact Function.update_of_ne other ..
  · obtain rfl : t = (sx, sz) := by
      refine touched.resolve_right (absurd ?_)
      unfold startSearch
      rw [reset]
      rfl
    refine ⟨⟨sx, sz, zero, heuristic sx sz goal.1 goal.2⟩, List.mem_singleton_self _, rfl, ?_⟩
    unfold startSearch
    dsimp only
    rw [show index (sx, sz) = sx * height + sz from rfl, Function.update_self]

-- A search that runs out of tiles was enclosed.
theorem exhausted_enclosed {top : OpenSet ℝ} {sx sz : Int} (heap : IsHeap top) (cap : Nat)
    (small : cap ≤ 600000000) (clean : Clean map.scratch) (onMap : OnMap (sx, sz))
    (last : Search ℝ) (looped : map.searchLoop top goal.1 goal.2 cap
      (map.startSearch sx sz goal.1 goal.2) = (.exhausted, last)) :
    map.Enclosed cap (sx, sz) goal := by
  -- Every turn of the loop settles one tile at most and adds one cost at most.
  let property (left : Nat) (s : Search ℝ) : Prop := ∃ done : Finset Tile,
    done.card + left ≤ cap ∧ Covered map (sx, sz) goal done (1.5 * (cap - left : ℝ)) s
  have room (left : Nat) : 1.5 * (cap - (left + 1 : ℕ) : ℝ) + 1.5 < 1000000000 := by
    have above : (cap : ℝ) ≤ 600000000 := by exact_mod_cast small
    have below : (0 : ℝ) ≤ left := Nat.cast_nonneg left
    push_cast
    linarith
  have next (left : Nat) : 1.5 * (cap - (left + 1 : ℕ) : ℝ) + 1.5 = 1.5 * (cap - left : ℝ) := by
    push_cast
    ring
  have expanded : ∀ left s curr rest, property (left + 1) s →
      top s.openSet = some (curr, rest) → ¬(curr.x = goal.1 ∧ curr.z = goal.2) →
      lt (s.scratch.gScore (curr.x * height + curr.z)) curr.g = false →
      property left (map.expand goal.1 goal.2 curr { s with openSet := rest }) := by
    rintro left s curr rest ⟨done, count, covered⟩ popped unfound -
    refine ⟨insert (curr.x, curr.z) done, ?_, ?_⟩
    · have grown := Finset.card_insert_le (curr.x, curr.z) done
      omega
    · rw [← next]
      exact covered.expanded heap (room left) popped fun found =>
        unfound ⟨congrArg Prod.fst found, congrArg Prod.snd found⟩
  have outdated : ∀ left s curr rest, property (left + 1) s →
      top s.openSet = some (curr, rest) →
      lt (s.scratch.gScore (curr.x * height + curr.z)) curr.g = true →
      property left { s with openSet := rest } := by
    rintro left s curr rest ⟨done, count, covered⟩ popped late
    refine ⟨done, by omega, ?_⟩
    have later := covered.outdated heap popped late
    refine ⟨later.explored, fun node among => ?_, later.unset, later.waiting, later.closed,
      later.before⟩
    have old := later.cost node among
    rw [← next]
    linarith
  obtain ⟨left, s, ⟨done, count, covered⟩, ends⟩ := searchLoop_ends property expanded outdated cap
    (map.startSearch sx sz goal.1 goal.2)
    ⟨∅, by simp, by simpa using startSearch_covered clean onMap⟩
  have empty : s.openSet = [] := by
    rcases ends with ⟨curr, rest, -, -, -, found⟩ | ⟨-, -, capped⟩ | ⟨none, -⟩
    · cases looped.symm.trans found
    · cases looped.symm.trans capped
    · by_contra filled
      have some := heap.pops _ filled
      rw [none] at some
      cases some
  have settled (t : Tile) (inside : OnMap t) (touched : s.Touched (sx, sz) t) : t ∈ done := by
    rcases covered.waiting t inside touched with settled | ⟨node, among, -⟩
    · exact settled
    · simp [empty] at among
  refine ⟨done, by omega, settled _ onMap (.inl rfl), covered.before, fun a member b moves => ?_⟩
  exact settled b (onMap_of_walkable moves.walkable) (covered.closed a member b moves)

/-- The goal is another walkable tile, and either the path stored for it ends elsewhere, or the
start is enclosed without it. -/
def Misled {F : Type} [Scalar F] (map : GridMap F) (query : PathQuery F) : Prop :=
  query.start ≠ query.goal ∧ map.isWalkable query.goal.1 query.goal.2 = true ∧
    match map.cached query.key with
    | some waypoints => waypoints.getLast? ≠ some (waypoint query.goal)
    | none => map.Enclosed query.maxIterations query.start query.goal

-- A path that is neither failed nor partial ends on the goal, unless the query is misled.
theorem complete_path_ends (query : PathQuery ℝ) (heap : IsHeap query.top)
    (small : query.maxIterations ≤ 600000000) (clean : Clean map.scratch)
    (sound : ¬map.Misled query) (result : PathResult ℝ) (m : GridMap ℝ)
    (answered : query.answer map = some (result, m)) (complete : result.isPartial = false)
    (filled : result.waypoints ≠ []) :
    result.waypoints.getLast? = some (waypoint query.goal) := by
  have other (apart : ¬(tileX query.startX = tileX query.endX ∧
      tileZ query.startZ = tileZ query.endZ)) : query.start ≠ query.goal :=
    fun same => apart ⟨congrArg Prod.fst same, congrArg Prod.snd same⟩
  cases map.findPath_finds _ _ _ _ _ _ result answered with
  | here => rfl
  | unwalkable => exact absurd rfl filled
  | stuck => exact absurd rfl filled
  | hit apart walkable waypoints found =>
      by_contra elsewhere
      refine sound ⟨other apart, walkable, ?_⟩
      rw [show map.cached query.key = some waypoints from found]
      exact elsewhere
  | traced apart walkable miss ended search looped moved waypoints path =>
      obtain ⟨explored, inside, touched⟩ := searchLoop_explored exactTiles_real heap _ _
        (startSearch_explored clean (onMap_tile query.startX query.startZ)) ended search looped
      have found : ended = .found := by
        cases ended with
        | found => rfl
        | hitCap => cases complete
        | exhausted =>
            refine absurd ⟨other apart, walkable, ?_⟩ sound
            rw [show map.cached query.key = none from miss]
            exact exhausted_enclosed heap _ small clean (onMap_tile query.startX query.startZ) search
              looped
      obtain ⟨route, leads, rfl⟩ := tracePath_route explored _ _ inside touched [] waypoints path
      rw [traceFrom, if_pos found, List.append_nil] at *
      obtain ⟨tiles, rfl, -, -, ends⟩ := leads
      rw [List.getLast?_map, ends]
      rfl

end MundusVivens.GridMap
