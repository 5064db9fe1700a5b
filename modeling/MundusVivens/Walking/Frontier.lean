import MundusVivens.Walking.Traces

set_option autoImplicit false

/-!
# The frontier of the search

Every tile the search came to is settled, or waits in the queue with its score.
So an empty queue means that no further tile can be reached.
-/

namespace MundusVivens.GridMap

open Scalar Relation

variable {F : Type} [Scalar F] {map : GridMap F} {costs : PathCosts F} {start goal t : Tile}
  {search search' : Search F} {curr : AStarNode F} {offset : Int × Int × F}
  {exempt : Tile → Prop}

def distance (goal t : Tile) : F := heuristic t.1 t.2 goal.1 goal.2

def Search.Queued (search : Search F) (t : Tile) : Prop :=
  ∃ node ∈ search.openSet, (node.x, node.z) = t ∧ node.g = search.score t

structure Settled (map : GridMap F) (goal : Tile) (search : Search F) (t : Tile) : Prop where
  unfound : t ≠ goal
  farther : lt (distance goal t) search.bestH = false
  relaxed : ∀ b, map.Move t b → lt (search.score t + stepCost t b) (search.score b) = false

-- What the search came to, apart from the tiles that are being expanded.
structure Frontier (costs : PathCosts F) (map : GridMap F) (start goal : Tile)
    (exempt : Tile → Prop) (search : Search F) : Prop where
  distinct : search.scratch.visitedNodes.Nodup
  short : ∀ idx ∈ search.scratch.visitedNodes, (0 ≤ idx ∧ idx < width * height) ∧
    costs.rank (search.scratch.gScore idx) ≤ costs.longest search.scratch.visitedNodes.length
  begun : index start ∈ search.scratch.visitedNodes
  waits : ∀ t, OnMap t → index t ∈ search.scratch.visitedNodes →
    exempt t ∨ Settled map goal search t ∨ search.Queued t
  best : search.bestH = distance goal (search.bestX, search.bestZ) ∧
    ((search.bestX, search.bestZ) = start ∨ lt search.bestH (distance goal start) = true)
  estimated : ∀ node ∈ search.openSet, node.f = node.g + distance goal (node.x, node.z) ∨
    node.g = zero ∧ node.f = distance goal (node.x, node.z)

theorem Frontier.length_le (frontier : Frontier costs map start goal exempt search) :
    search.scratch.visitedNodes.length ≤ (width * height).toNat :=
  length_le_of_nodup frontier.distinct fun idx member => (frontier.short idx member).1

theorem Frontier.low (frontier : Frontier costs map start goal exempt search) {idx : Int}
    (member : idx ∈ search.scratch.visitedNodes) (scored : Scored costs map start search)
    {price : F} (step : IsStep price) :
    costs.rank (search.scratch.gScore idx + price) < costs.rank (lit 1000000000) :=
  calc costs.rank (search.scratch.gScore idx + price)
      ≤ costs.longest (search.scratch.visitedNodes.length + 1) :=
        costs.longest_add (scored.isCost idx) step (frontier.short idx member).2
    _ ≤ costs.longest ((width * height).toNat + 1) :=
        costs.longest_mono (Nat.succ_le_succ frontier.length_le)
    _ < costs.rank (lit 1000000000) := costs.longest_lt

theorem Frontier.visited (frontier : Frontier costs map start goal exempt search)
    (explored : map.Explored start search) (touched : search.Touched start t) :
    index t ∈ search.scratch.visitedNodes := by
  rcases touched with home | linked
  · rw [home]
    exact frontier.begun
  · by_contra unvisited
    exact linked (explored.clean _ unvisited).2

theorem Settled.lower (settled : Settled map goal search t)
    (scored : Scored costs map start search) (scored' : Scored costs map start search')
    (same : search'.score t = search.score t) (best : search'.bestH = search.bestH)
    (falls : ∀ b, OnMap b → costs.rank (search'.score b) ≤ costs.rank (search.score b)) :
    Settled map goal search' t := by
  refine ⟨settled.unfound, best ▸ settled.farther, fun b move => ?_⟩
  have through := settled.relaxed b move
  have cost : costs.IsCost (search.score t + stepCost t b) :=
    costs.add (scored.isCost _) (stepCost_isStep t b)
  rw [same, costs.lt_eq_false_iff cost (scored'.isCost_score b)]
  rw [costs.lt_eq_false_iff cost (scored.isCost_score b)] at through
  exact (falls b (onMap_of_walkable move.walkable)).trans through

theorem Frontier.visits (arith : ExactTiles F) (scored : Scored costs map start search)
    (frontier : Frontier costs map start goal exempt search) (idx : Int) :
    idx ∉ search.scratch.visitedNodes ∧
        le (lit 1000000000) (search.scratch.gScore idx) = true ∨
      idx ∈ search.scratch.visitedNodes ∧
        le (lit 1000000000) (search.scratch.gScore idx) = false := by
  by_cases member : idx ∈ search.scratch.visitedNodes
  · refine .inr ⟨member, costs.below_unset (scored.isCost idx) ?_⟩
    rw [costs.lt_iff (scored.isCost idx) costs.unset]
    exact (costs.grows (scored.isCost idx) (.inl rfl)).trans_lt
      (frontier.low member scored (.inl rfl))
  · refine .inl ⟨member, ?_⟩
    rw [(scored.clean idx member).1]
    exact arith.unset

-- The tile is visited for the first time, or its score was short already.
theorem Frontier.visits_reach (arith : ExactTiles F) (scored : Scored costs map start search)
    (frontier : Frontier costs map start goal (· = (curr.x, curr.z)) search)
    (here : index (curr.x, curr.z) ∈ search.scratch.visitedNodes)
    (exact_g : curr.g = search.score (curr.x, curr.z)) (price : IsStep offset.2.2)
    (lower : costs.rank (curr.g + offset.2.2) ≤
      costs.rank (search.score (neighbour curr offset))) :
    (reach goal.1 goal.2 curr search offset).scratch.visitedNodes.Nodup ∧
      (∀ idx, idx ∈ (reach goal.1 goal.2 curr search offset).scratch.visitedNodes ↔
        idx ∈ search.scratch.visitedNodes ∨ idx = index (neighbour curr offset)) ∧
      search.scratch.visitedNodes.length ≤
        (reach goal.1 goal.2 curr search offset).scratch.visitedNodes.length ∧
      costs.rank (curr.g + offset.2.2) ≤
        costs.longest (reach goal.1 goal.2 curr search offset).scratch.visitedNodes.length := by
  dsimp only [reach]
  rcases frontier.visits arith scored (index (neighbour curr offset)) with
    ⟨first, unset⟩ | ⟨again, set⟩
  · rw [if_pos unset, List.length_append, List.length_singleton]
    refine ⟨List.nodup_append.mpr ⟨frontier.distinct, List.nodup_singleton _, ?_⟩,
      fun idx => by simp, Nat.le_succ _, ?_⟩
    · rintro idx among _ new rfl
      exact first (List.mem_singleton.mp new ▸ among)
    · rw [exact_g]
      exact costs.longest_add (scored.isCost_score _) price (frontier.short _ here).2
  · rw [if_neg (by simp [set])]
    exact ⟨frontier.distinct, fun idx => ⟨.inl, fun among => among.elim id (· ▸ again)⟩,
      le_refl _, lower.trans (frontier.short _ again).2⟩

theorem Frontier.relaxed (arith : ExactTiles F) (member : offset ∈ offsets)
    (scored : Scored costs map start search)
    (frontier : Frontier costs map start goal (· = (curr.x, curr.z)) search)
    (onMap : OnMap (curr.x, curr.z)) (touched : search.Touched start (curr.x, curr.z))
    (here : index (curr.x, curr.z) ∈ search.scratch.visitedNodes)
    (exact_g : curr.g = search.score (curr.x, curr.z))
    (relaxes : map.Relaxes goal.1 goal.2 curr search offset search') :
    Frontier costs map start goal (· = (curr.x, curr.z)) search' ∧
      index (curr.x, curr.z) ∈ search'.scratch.visitedNodes ∧
      search'.bestH = search.bestH ∧
      (map.Move (curr.x, curr.z) (neighbour curr offset) →
        lt (curr.g + offset.2.2) (search'.score (neighbour curr offset)) = false) := by
  have next_scored := scored.relaxed arith member onMap touched exact_g relaxes
  cases relaxes with
  | barred no => exact ⟨frontier, here, rfl, fun move => absurd move no⟩
  | kept worse => exact ⟨frontier, here, rfl, fun _ => worse⟩
  | reached move better =>
      obtain ⟨scored', -, -, falls⟩ := next_scored
      have there : OnMap (neighbour curr offset) := onMap_of_walkable move.walkable
      have price : IsStep offset.2.2 := by
        rw [← stepCost_neighbour curr member]
        exact stepCost_isStep _ _
      have new_score : (reach goal.1 goal.2 curr search offset).score (neighbour curr offset) =
          curr.g + offset.2.2 := score_reach_self
      have lower := falls (neighbour curr offset) there
      rw [new_score] at lower
      obtain ⟨distinct, members, grown, short⟩ :=
        frontier.visits_reach arith scored here exact_g price lower
      refine ⟨⟨distinct, fun idx among => ?_, (members _).mpr (.inl frontier.begun),
        fun t inside among => ?_, frontier.best, fun node among => ?_⟩,
        (members _).mpr (.inl here), rfl, fun _ => ?_⟩
      · by_cases same : idx = index (neighbour curr offset)
        · subst same
          refine ⟨index_inside there, ?_⟩
          rw [show (reach goal.1 goal.2 curr search offset).scratch.gScore
            (index (neighbour curr offset)) = curr.g + offset.2.2 from new_score]
          exact short
        · obtain ⟨inside, low⟩ := frontier.short idx (((members idx).mp among).resolve_right same)
          rw [show (reach goal.1 goal.2 curr search offset).scratch.gScore idx =
            search.scratch.gScore idx from Function.update_of_ne same ..]
          exact ⟨inside, low.trans (costs.longest_mono grown)⟩
      · by_cases same : t = neighbour curr offset
        · subst same
          exact .inr (.inr ⟨_, List.mem_append_right _ (List.mem_singleton_self _), rfl,
            new_score.symm⟩)
        · have before : index t ∈ search.scratch.visitedNodes := by
            refine ((members _).mp among).resolve_right fun as => ?_
            exact same (index_injective inside there as)
          have still : (reach goal.1 goal.2 curr search offset).score t = search.score t :=
            score_reach_of_ne inside there same
          rcases frontier.waits t inside before with self | settled | ⟨node, queued, at_t, held⟩
          · exact .inl self
          · exact .inr (.inl (settled.lower scored scored' still rfl falls))
          · exact .inr (.inr ⟨node, List.mem_append_left _ queued, at_t, held.trans still.symm⟩)
      · rcases List.mem_append.mp among with old | new
        · exact frontier.estimated node old
        · obtain rfl := List.mem_singleton.mp new
          exact .inl rfl
      · rw [new_score]
        exact costs.irrefl _

theorem Frontier.popped {top : OpenSet F} (heap : IsHeap top)
    (frontier : Frontier costs map start goal (fun _ => False) search) {rest : List (AStarNode F)}
    (popped : top search.openSet = some (curr, rest))
    (left : ∀ t, (curr.x, curr.z) = t → curr.g = search.score t → exempt t) :
    Frontier costs map start goal exempt { search with openSet := rest } := by
  have nodes (node : AStarNode F) : node ∈ search.openSet ↔ node = curr ∨ node ∈ rest := by
    rw [(heap.perm _ _ _ popped).mem_iff, List.mem_cons]
  refine ⟨frontier.distinct, frontier.short, frontier.begun, fun t inside among => ?_,
    frontier.best, fun node member => frontier.estimated node ((nodes node).mpr (.inr member))⟩
  rcases frontier.waits t inside among with none | ⟨unfound, farther, relaxed⟩ |
    ⟨node, queued, at_t, held⟩
  · cases none
  · exact .inr (.inl ⟨unfound, farther, relaxed⟩)
  · rcases (nodes node).mp queued with rfl | remains
    · exact .inl (left t at_t held)
    · exact .inr (.inr ⟨node, remains, at_t, held⟩)

theorem Frontier.nearer (frontier : Frontier costs map start goal exempt search)
    (nearer : lt (distance goal (curr.x, curr.z)) search.bestH = true) :
    Frontier costs map start goal exempt { search with
      bestH := distance goal (curr.x, curr.z), bestX := curr.x, bestZ := curr.z } := by
  refine ⟨frontier.distinct, frontier.short, frontier.begun, fun t inside among => ?_,
    ⟨rfl, .inr ?_⟩, frontier.estimated⟩
  · rcases frontier.waits t inside among with left | ⟨unfound, farther, relaxed⟩ | queued
    · exact .inl left
    · refine .inr (.inl ⟨unfound, Bool.eq_false_iff.mpr fun less => ?_, relaxed⟩)
      have better := costs.trans _ _ _ less nearer
      exact absurd (better.symm.trans farther) (by simp)
    · exact .inr (.inr queued)
  · obtain ⟨kept, home | better⟩ := frontier.best
    · rw [kept, home] at nearer
      exact nearer
    · exact costs.trans _ _ _ nearer better

theorem Frontier.expanded (arith : ExactTiles F) {top : OpenSet F} (heap : IsHeap top)
    (scored : Scored costs map start search)
    (frontier : Frontier costs map start goal (fun _ => False) search)
    {rest : List (AStarNode F)} (popped : top search.openSet = some (curr, rest))
    (unfound : (curr.x, curr.z) ≠ goal)
    (fresh : lt (search.scratch.gScore (curr.x * height + curr.z)) curr.g = false) :
    Frontier costs map start goal (fun _ => False)
      (map.expand goal.1 goal.2 curr { search with openSet := rest }) := by
  obtain ⟨-, onMap, touched⟩ := scored.toExplored.popped heap popped
  have exact_g := scored.current heap popped fresh
  have remains := scored.popped heap popped
  have expanding : Frontier costs map start goal (· = (curr.x, curr.z))
      { search with openSet := rest } :=
    frontier.popped heap popped fun t at_t _ => at_t.symm
  have here : index (curr.x, curr.z) ∈ search.scratch.visitedNodes :=
    frontier.visited scored.toExplored touched
  let property (s : Search F) : Prop :=
    (Scored costs map start s ∧ s.Touched start (curr.x, curr.z) ∧
      curr.g = s.score (curr.x, curr.z)) ∧
    Frontier costs map start goal (· = (curr.x, curr.z)) s ∧
    index (curr.x, curr.z) ∈ s.scratch.visitedNodes ∧
    lt (distance goal (curr.x, curr.z)) s.bestH = false
  let made (offset : Int × Int × F) (s : Search F) : Prop :=
    offset ∈ offsets → map.Move (curr.x, curr.z) (neighbour curr offset) →
      lt (curr.g + offset.2.2) (s.score (neighbour curr offset)) = false
  have relaxed (s s' : Search F) (offset : Int × Int × F) (member : offset ∈ offsets)
      (holds : property s) (relaxes : map.Relaxes goal.1 goal.2 curr s offset s') :
      property s' ∧ made offset s' ∧ ∀ other, made other s → made other s' := by
    obtain ⟨⟨scored, touched, exact_g⟩, frontier, here, farther⟩ := holds
    obtain ⟨scored', touched', exact_g', falls⟩ :=
      scored.relaxed arith member onMap touched exact_g relaxes
    obtain ⟨frontier', here', best, through⟩ :=
      frontier.relaxed arith member scored onMap touched here exact_g relaxes
    refine ⟨⟨⟨scored', touched', exact_g'⟩, frontier', here', best ▸ farther⟩,
      fun _ => through, fun other before among move => ?_⟩
    have price : IsStep other.2.2 := by
      rw [← stepCost_neighbour curr among]
      exact stepCost_isStep _ _
    have cost : costs.IsCost (curr.g + other.2.2) := by
      rw [exact_g]
      exact costs.add (scored.isCost_score _) price
    have before := before among move
    rw [costs.lt_eq_false_iff cost (scored.isCost_score _)] at before
    rw [costs.lt_eq_false_iff cost (scored'.isCost_score _)]
    exact (falls _ (onMap_of_walkable move.walkable)).trans before
  obtain ⟨⟨⟨-, -, exact_g'⟩, ⟨distinct, short, begun, waits, best, estimated⟩, -, farther⟩, made⟩ :=
    expand_makes property made relaxed { search with openSet := rest }
      (fun farther => ⟨⟨remains, touched, exact_g⟩, expanding, here, farther⟩)
      fun nearer => ⟨⟨remains.nearer onMap touched _, touched, exact_g⟩,
        expanding.nearer nearer, here, costs.irrefl _⟩
  refine ⟨distinct, short, begun, fun t inside among => .inr ?_, best, estimated⟩
  rcases waits t inside among with rfl | known
  · refine .inl ⟨unfound, farther, fun b move => ?_⟩
    obtain ⟨offset, member, rfl⟩ := exists_neighbour curr move
    rw [← exact_g', stepCost_neighbour curr member]
    exact made offset member member move
  · exact known

theorem startSearch_frontier (costs : PathCosts F) {sx sz : Int} (clean : Clean map.scratch)
    (onMap : OnMap (sx, sz)) : Frontier costs map (sx, sz) goal (fun _ => False)
      (map.startSearch sx sz goal.1 goal.2) := by
  have scored := @startSearch_scored _ _ _ goal.1 goal.2 costs _ _ clean onMap
  have visited : (map.startSearch sx sz goal.1 goal.2).scratch.visitedNodes = [index (sx, sz)] := by
    unfold startSearch
    rw [clean.reset]
    rfl
  refine ⟨visited ▸ List.nodup_singleton _, fun idx member => ?_, visited ▸ List.mem_singleton_self _,
    fun t inside member => .inr (.inr ?_), ⟨rfl, .inl rfl⟩, fun node member => ?_⟩
  · rw [visited] at member
    obtain rfl := List.mem_singleton.mp member
    refine ⟨index_inside onMap, ?_⟩
    rw [show (map.startSearch sx sz goal.1 goal.2).scratch.gScore (index (sx, sz)) = zero from
      scored.home.1, costs.rank_zero]
    exact Nat.zero_le _
  · rw [visited] at member
    obtain rfl := index_injective inside onMap (List.mem_singleton.mp member)
    exact ⟨_, List.mem_singleton_self _, rfl, scored.home.1.symm⟩
  · obtain rfl := List.mem_singleton.mp member
    exact .inr ⟨rfl, rfl⟩

theorem PathQuery.loop_frontier (arith : ExactTiles F) (costs : PathCosts F) (query : PathQuery F)
    (heap : IsHeap query.top) (clean : Clean map.scratch) :
    ∃ s, Scored costs map query.start s ∧
      Frontier costs map query.start query.goal (fun _ => False) s ∧
      ((∃ curr rest, query.top s.openSet = some (curr, rest) ∧ (curr.x, curr.z) = query.goal ∧
        query.loop map = (.found, { s with openSet := rest, bestX := curr.x, bestZ := curr.z })) ∨
      query.loop map = (.hitCap, s) ∨
      s.openSet = [] ∧ query.loop map = (.exhausted, s)) := by
  have onMap : OnMap query.start := onMap_tile query.startX query.startZ
  obtain ⟨_, s, ⟨scored, frontier⟩, ends⟩ := searchLoop_ends
    (fun _ s => Scored costs map query.start s ∧
      Frontier costs map query.start query.goal (fun _ => False) s)
    (fun _ s curr rest holds popped unfound fresh => by
      refine ⟨holds.1.expanded arith heap popped fresh,
        holds.2.expanded arith heap holds.1 popped (fun same => unfound ?_) fresh⟩
      exact ⟨congrArg Prod.fst same, congrArg Prod.snd same⟩)
    (fun _ s curr rest holds popped late => by
      refine ⟨holds.1.popped heap popped, holds.2.popped heap popped fun t at_t held => ?_⟩
      -- A node with the score of its tile is not outdated.
      rw [held, ← at_t] at late
      exact absurd (late.symm.trans (costs.irrefl _)) (by simp))
    query.maxIterations _ ⟨startSearch_scored costs clean onMap, startSearch_frontier costs clean onMap⟩
  refine ⟨s, scored, frontier, ?_⟩
  rcases ends with ⟨curr, rest, popped, atX, atZ, found⟩ | ⟨-, -, capped⟩ | ⟨none, empty⟩
  · exact .inl ⟨curr, rest, popped, Prod.ext atX atZ, found⟩
  · exact .inr (.inl capped)
  · refine .inr (.inr ⟨?_, empty⟩)
    by_contra filled
    have some := heap.pops _ filled
    rw [none] at some
    cases some

def Reachable (map : GridMap F) (start t : Tile) : Prop := ReflTransGen map.Move start t

-- Without a queue every reachable tile is settled.
theorem Frontier.settled (scored : Scored costs map start search)
    (frontier : Frontier costs map start goal (fun _ => False) search) (onMap : OnMap start)
    (empty : search.openSet = []) (reachable : map.Reachable start t) :
    Settled map goal search t := by
  have settled (t : Tile) (inside : OnMap t) (member : index t ∈ search.scratch.visitedNodes) :
      Settled map goal search t := by
    rcases frontier.waits t inside member with none | known | ⟨node, queued, -⟩
    · cases none
    · exact known
    · rw [empty] at queued
      cases queued
  suffices OnMap t ∧ index t ∈ search.scratch.visitedNodes from settled t this.1 this.2
  induction reachable with
  | refl => exact ⟨onMap, frontier.begun⟩
  | @tail a b _ move ih =>
      have through := (settled a ih.1 ih.2).relaxed b move
      refine ⟨onMap_of_walkable move.walkable, ?_⟩
      by_contra unvisited
      rw [costs.lt_eq_false_iff (costs.add (scored.isCost_score a) (stepCost_isStep a b))
        (scored.isCost_score b), show search.score b = lit 1000000000 from
        (scored.clean _ unvisited).1] at through
      exact absurd (frontier.low ih.2 scored (stepCost_isStep a b)) (Nat.not_lt.mpr through)

structure LegalPath (map : GridMap F) (a b : Tile) (tiles : List Tile) : Prop where
  moves : tiles.IsChain map.Move
  starts : tiles.head? = some a
  ends : tiles.getLast? = some b

omit [Scalar F] in
theorem onMap_of_chain {tiles : List Tile} {a : Tile} (chain : tiles.IsChain map.Move)
    (starts : tiles.head? = some a) (onMap : OnMap a) : ∀ t ∈ tiles, OnMap t := by
  induction tiles generalizing a with
  | nil => cases starts
  | cons first rest ih =>
      obtain rfl := Option.some.inj starts
      intro t member
      rcases List.mem_cons.mp member with rfl | later
      · exact onMap
      · cases rest with
        | nil => cases later
        | cons second rest =>
            obtain ⟨move, chain⟩ := List.isChain_cons_cons.mp chain
            exact ih chain rfl (onMap_of_walkable move.walkable) t later

omit [Scalar F] in
theorem reachable_of_chain {tiles : List Tile} {a b : Tile} (chain : tiles.IsChain map.Move)
    (starts : tiles.head? = some a) (ends : tiles.getLast? = some b) : map.Reachable a b := by
  induction tiles generalizing a with
  | nil => cases starts
  | cons first rest ih =>
      obtain rfl := Option.some.inj starts
      cases rest with
      | nil =>
          obtain rfl := Option.some.inj ends
          exact .refl
      | cons second rest =>
          obtain ⟨move, chain⟩ := List.isChain_cons_cons.mp chain
          exact .head move (ih chain rfl (by simpa using ends))

end MundusVivens.GridMap
