import MundusVivens.Walking.Routes
import MundusVivens.Shared.Paths

set_option autoImplicit false

/-!
# Scores of the search

A tile's parent never has a greater score than the tile. So the parents lead
back to the start without a cycle, however often a tile is reached anew.
-/

namespace MundusVivens.GridMap

open Scalar Relation

-- The two prices of a move.
def IsStep {F : Type} [Scalar F] (price : F) : Prop := price = lit 1 ∨ price = lit 1.41421356

/-- What the search relies on about the costs of paths; binary32 arithmetic has it as well. -/
structure PathCosts (F : Type) [Scalar F] where
  IsCost : F → Prop
  rank : F → Nat
  -- A bound for the ranks of the costs of so many moves.
  longest : Nat → Nat
  irrefl : ∀ a : F, lt a a = false
  trans : ∀ a b c : F, lt a b = true → lt b c = true → lt a c = true
  lt_iff : ∀ {a b}, IsCost a → IsCost b → (lt a b = true ↔ rank a < rank b)
  zero : IsCost Scalar.zero
  unset : IsCost (lit 1000000000)
  add : ∀ {a price}, IsCost a → IsStep price → IsCost (a + price)
  rank_zero : rank Scalar.zero = 0
  grows : ∀ {a price}, IsCost a → IsStep price → rank a ≤ rank (a + price)
  mono : ∀ {a b price}, IsCost a → IsCost b → IsStep price → rank a ≤ rank b →
    rank (a + price) ≤ rank (b + price)
  longest_mono : Monotone longest
  longest_add : ∀ {a price moves}, IsCost a → IsStep price → rank a ≤ longest moves →
    rank (a + price) ≤ longest (moves + 1)
  longest_lt : longest ((width * height).toNat + 1) < rank (lit 1000000000)
  below_unset : ∀ {a}, IsCost a → lt a (lit 1000000000) = true → le (lit 1000000000) a = false

variable {F : Type} [Scalar F]

theorem PathCosts.lt_eq_false_iff (costs : PathCosts F) {a b : F} (cost_a : costs.IsCost a)
    (cost_b : costs.IsCost b) : lt a b = false ↔ costs.rank b ≤ costs.rank a := by
  rw [← Bool.not_eq_true, costs.lt_iff cost_a cost_b, Nat.not_lt]

-- Arithmetic without rounding, by the real number that each scalar stands for.
structure ExactValue (value : F → ℝ) : Prop where
  lit : ∀ q : ℚ, value (lit q) = q
  add : ∀ a b, value (a + b) = value a + value b
  lt : ∀ a b, lt a b = true ↔ value a < value b
  le : ∀ a b, le a b = true ↔ value a ≤ value b

theorem ExactValue.price {value : F → ℝ} (exact_value : ExactValue value) {price : F}
    (step : IsStep price) : ∃ n : Nat, value price * 100000000 = n ∧ n ≤ 141421356 := by
  rcases step with rfl | rfl
  · exact ⟨100000000, by rw [exact_value.lit]; norm_num, by norm_num⟩
  · exact ⟨141421356, by rw [exact_value.lit]; norm_num, le_refl _⟩

-- Without rounding, the rank of a cost is the number of its hundred-millionths.
noncomputable def exactCosts (value : F → ℝ) (exact_value : ExactValue value) : PathCosts F where
  IsCost a := ∃ n : Nat, value a * 100000000 = n
  rank a := ⌊value a * 100000000⌋₊
  longest moves := moves * 141421356
  irrefl a := by rw [← Bool.not_eq_true, exact_value.lt]; exact lt_irrefl _
  trans a b c := by rw [exact_value.lt, exact_value.lt, exact_value.lt]; exact lt_trans
  lt_iff := by
    rintro a b ⟨m, cost_a⟩ ⟨n, cost_b⟩
    rw [exact_value.lt, cost_a, cost_b, Nat.floor_natCast, Nat.floor_natCast]
    rw [← Nat.cast_lt (α := ℝ), ← cost_a, ← cost_b]
    constructor <;> intro less <;> linarith
  zero := ⟨0, by rw [Scalar.zero, exact_value.lit]; norm_num⟩
  unset := ⟨100000000000000000, by rw [exact_value.lit]; norm_num⟩
  add := by
    rintro a price ⟨m, cost⟩ step
    obtain ⟨n, worth, -⟩ := exact_value.price step
    exact ⟨m + n, by rw [exact_value.add, add_mul, cost, worth, Nat.cast_add]⟩
  rank_zero := by rw [Scalar.zero, exact_value.lit]; norm_num
  grows := by
    rintro a price - step
    obtain ⟨n, worth, -⟩ := exact_value.price step
    refine Nat.floor_mono ?_
    rw [exact_value.add, add_mul, worth]
    exact le_add_of_nonneg_right (Nat.cast_nonneg n)
  mono := by
    rintro a b price ⟨m, cost_a⟩ ⟨n, cost_b⟩ - less
    refine Nat.floor_mono ?_
    rw [cost_a, cost_b, Nat.floor_natCast, Nat.floor_natCast] at less
    rw [exact_value.add, exact_value.add, add_mul, add_mul, cost_a, cost_b]
    gcongr
  longest_mono := fun m n less => Nat.mul_le_mul_right _ less
  longest_add := by
    rintro a price moves ⟨m, cost⟩ step within
    obtain ⟨n, worth, small⟩ := exact_value.price step
    rw [cost, Nat.floor_natCast] at within
    rw [exact_value.add, add_mul, cost, worth, ← Nat.cast_add, Nat.floor_natCast]
    omega
  longest_lt := by
    have value : value (lit 1000000000) * 100000000 = (100000000000000000 : Nat) := by
      rw [exact_value.lit]
      norm_num
    rw [value, Nat.floor_natCast]
    unfold width height
    omega
  below_unset := by
    intro a _ less
    rw [exact_value.lt] at less
    rw [← Bool.not_eq_true, exact_value.le]
    exact not_le.mpr less

theorem exactValue_real : ExactValue (id : ℝ → ℝ) :=
  ⟨fun _ => rfl, fun _ _ => rfl, fun _ _ => lt_real _ _, fun _ _ => le_real _ _⟩

theorem exactValue_rat : ExactValue (fun q : ℚ => (q : ℝ)) := by
  refine ⟨fun _ => rfl, Rat.cast_add, fun a b => ?_, fun a b => ?_⟩
  · rw [Rat.cast_lt]
    exact decide_eq_true_iff
  · rw [Rat.cast_le]
    exact decide_eq_true_iff

def stepCost (a b : Tile) : F :=
  if a.1 ≠ b.1 ∧ a.2 ≠ b.2 then lit 1.41421356 else lit 1

theorem stepCost_isStep (a b : Tile) : IsStep (stepCost a b : F) := by
  unfold stepCost
  split
  next => exact .inr rfl
  next => exact .inl rfl

theorem stepCost_neighbour (curr : AStarNode F) {offset : Int × Int × F}
    (member : offset ∈ offsets) :
    stepCost (curr.x, curr.z) (neighbour curr offset) = offset.2.2 := by
  simp only [offsets, List.mem_cons, List.not_mem_nil, or_false] at member
  rcases member with rfl | rfl | rfl | rfl | rfl | rfl | rfl | rfl <;> simp [stepCost, neighbour]

theorem exists_neighbour {map : GridMap F} (curr : AStarNode F) {b : Tile}
    (move : map.Move (curr.x, curr.z) b) : ∃ offset ∈ offsets, neighbour curr offset = b := by
  obtain ⟨cost, member⟩ := exists_offset (F := F) move
  refine ⟨_, member, ?_⟩
  unfold neighbour
  ext <;> dsimp only <;> omega

variable {map : GridMap F} {costs : PathCosts F} {start goal : Tile}
  {search search' : Search F} {curr : AStarNode F} {offset : Int × Int × F}

def Search.score (search : Search F) (t : Tile) : F := search.scratch.gScore (index t)

def Search.Parent (search : Search F) (a b : Tile) : Prop :=
  OnMap a ∧ OnMap b ∧ search.scratch.parent (index b) = a

structure Scored (costs : PathCosts F) (map : GridMap F) (start : Tile) (search : Search F) :
    Prop extends Explored map start search where
  isCost : ∀ idx, costs.IsCost (search.scratch.gScore idx)
  home : search.score start = zero ∧ search.scratch.parent (index start) = (-1, -1)
  entries : ∀ node ∈ search.openSet, costs.IsCost node.g ∧
    (node.g = search.score (node.x, node.z) ∨ lt (search.score (node.x, node.z)) node.g = true)
  risen : ∀ a b, search.Parent a b →
    costs.rank (search.score a + stepCost a b) ≤ costs.rank (search.score b)
  acyclic : ∀ t, ¬TransGen search.Parent t t

theorem Scored.isCost_score (scored : Scored costs map start search) (t : Tile) :
    costs.IsCost (search.score t) :=
  scored.isCost (index t)

section

variable {ex ez : Int}

theorem score_reach_self : (reach ex ez curr search offset).score (neighbour curr offset) =
    curr.g + offset.2.2 :=
  Function.update_self ..

theorem score_reach_of_ne {t : Tile} (onMap : OnMap t) (there : OnMap (neighbour curr offset))
    (other : t ≠ neighbour curr offset) :
    (reach ex ez curr search offset).score t = search.score t :=
  Function.update_of_ne (fun same => other (index_injective onMap there same)) ..

theorem parent_reach (there : OnMap (neighbour curr offset)) (a b : Tile)
    (link : (reach ex ez curr search offset).Parent a b) :
    b ≠ neighbour curr offset ∧ search.Parent a b ∨
      a = (curr.x, curr.z) ∧ b = neighbour curr offset := by
  obtain ⟨onMap, inside, linked⟩ := link
  by_cases same : b = neighbour curr offset
  · subst same
    exact .inr ⟨linked.symm.trans (Function.update_self ..), rfl⟩
  · refine .inl ⟨same, onMap, inside, ?_⟩
    rw [← linked]
    exact (Function.update_of_ne (fun as => same (index_injective inside there as)) ..).symm

theorem Scored.isCost_reach (scored : Scored costs map start search)
    (cost : costs.IsCost (curr.g + offset.2.2)) (idx : Int) :
    costs.IsCost ((reach ex ez curr search offset).scratch.gScore idx) := by
  by_cases same : idx = index (neighbour curr offset)
  · subst same
    rw [show (reach ex ez curr search offset).scratch.gScore
      (index (neighbour curr offset)) = curr.g + offset.2.2 from score_reach_self]
    exact cost
  · rw [show (reach ex ez curr search offset).scratch.gScore idx =
      search.scratch.gScore idx from Function.update_of_ne same ..]
    exact scored.isCost idx

-- An entry of the open set that the new score overtakes stays behind, out of date.
theorem Scored.entries_reach (scored : Scored costs map start search)
    (there : OnMap (neighbour curr offset))
    (better : lt (curr.g + offset.2.2) (search.score (neighbour curr offset)) = true)
    (cost : costs.IsCost (curr.g + offset.2.2)) (node : AStarNode F)
    (among : node ∈ (reach ex ez curr search offset).openSet) :
    costs.IsCost node.g ∧ (node.g = (reach ex ez curr search offset).score (node.x, node.z) ∨
      lt ((reach ex ez curr search offset).score (node.x, node.z)) node.g = true) := by
  rcases List.mem_append.mp among with old | new
  · obtain ⟨known, current⟩ := scored.entries node old
    refine ⟨known, ?_⟩
    have inside := (scored.queued node old).1
    by_cases same : (node.x, node.z) = neighbour curr offset
    · rw [same] at current ⊢
      rw [score_reach_self]
      rcases current with held | late
      · exact .inr (held ▸ better)
      · exact .inr (costs.trans _ _ _ better late)
    · rw [score_reach_of_ne inside there same]
      exact current
  · obtain rfl := List.mem_singleton.mp new
    exact ⟨cost, .inl score_reach_self.symm⟩

theorem Scored.relaxed (arith : ExactTiles F) (member : offset ∈ offsets)
    (scored : Scored costs map start search) (onMap : OnMap (curr.x, curr.z))
    (touched : search.Touched start (curr.x, curr.z))
    (exact_g : curr.g = search.score (curr.x, curr.z))
    (relaxes : map.Relaxes ex ez curr search offset search') :
    Scored costs map start search' ∧ search'.Touched start (curr.x, curr.z) ∧
      curr.g = search'.score (curr.x, curr.z) ∧
      ∀ t, OnMap t → costs.rank (search'.score t) ≤ costs.rank (search.score t) := by
  have explored := scored.toExplored.relaxed arith onMap touched relaxes
  cases relaxes with
  | barred => exact ⟨scored, touched, exact_g, fun _ _ => le_refl _⟩
  | kept => exact ⟨scored, touched, exact_g, fun _ _ => le_refl _⟩
  | reached move better =>
      have there : OnMap (neighbour curr offset) := onMap_of_walkable move.walkable
      have price : IsStep offset.2.2 := by
        rw [← stepCost_neighbour curr member]
        exact stepCost_isStep _ _
      have cost_g : costs.IsCost curr.g := by
        rw [exact_g]
        exact scored.isCost _
      have cost_new : costs.IsCost (curr.g + offset.2.2) := costs.add cost_g price
      have grown := costs.grows cost_g price
      have less : costs.rank (curr.g + offset.2.2) <
          costs.rank (search.score (neighbour curr offset)) :=
        (costs.lt_iff cost_new (scored.isCost _)).mp better
      have falls (t : Tile) (inside : OnMap t) :
          costs.rank ((reach ex ez curr search offset).score t) ≤
            costs.rank (search.score t) := by
        by_cases same : t = neighbour curr offset
        · rw [same, score_reach_self]
          exact less.le
        · rw [score_reach_of_ne inside there same]
      have isCost (idx : Int) :
          costs.IsCost ((reach ex ez curr search offset).scratch.gScore idx) :=
        scored.isCost_reach cost_new idx
      have away : (curr.x, curr.z) ≠ neighbour curr offset := move.apart
      have still : (reach ex ez curr search offset).score (curr.x, curr.z) =
          search.score (curr.x, curr.z) := score_reach_of_ne onMap there away
      refine ⟨⟨explored.1, isCost, ?_, fun node among => ?_, fun a b link => ?_, ?_⟩,
        explored.2, exact_g.trans still.symm, falls⟩
      · -- A way back to the start would cost less than nothing.
        have other : index start ≠ index (neighbour curr offset) := by
          intro same
          unfold Search.score at less
          rw [← same, show search.scratch.gScore (index start) = zero from scored.home.1,
            costs.rank_zero] at less
          exact Nat.not_lt_zero _ less
        exact ⟨(Function.update_of_ne other ..).trans scored.home.1,
          (Function.update_of_ne other ..).trans scored.home.2⟩
      · exact scored.entries_reach there better cost_new node among
      · rcases parent_reach there a b link with ⟨other, old⟩ | ⟨rfl, rfl⟩
        · rw [score_reach_of_ne link.2.1 there other]
          exact (costs.mono (isCost _) (scored.isCost _) (stepCost_isStep _ _) (falls a old.1)).trans
            (scored.risen a b old)
        · rw [still, score_reach_self, stepCost_neighbour curr member, ← exact_g]
      · refine @Paths.acyclic_redirect _ _ _ (neighbour curr offset) (curr.x, curr.z)
          scored.acyclic (fun a b link => ?_) fun path => ?_
        · exact (parent_reach there a b link).imp And.right id
        · have higher := Paths.le_of_reflTransGen (fun t => costs.rank (search.score t))
            (fun a b link => (costs.grows (scored.isCost _) (stepCost_isStep a b)).trans
              (scored.risen a b link)) path
          rw [exact_g] at grown less
          exact absurd (higher.trans grown) (Nat.not_le.mpr less)

theorem Scored.popped {top : OpenSet F} (heap : IsHeap top) (scored : Scored costs map start search)
    {rest : List (AStarNode F)} (popped : top search.openSet = some (curr, rest)) :
    Scored costs map start { search with openSet := rest } := by
  have nodes := heap.perm _ _ _ popped
  refine ⟨(scored.toExplored.popped heap popped).1, scored.isCost, scored.home,
    fun node member => ?_, scored.risen, scored.acyclic⟩
  exact scored.entries node (nodes.mem_iff.mpr (List.mem_cons_of_mem _ member))

-- A node that is not outdated holds the score of its tile.
theorem Scored.current {top : OpenSet F} (heap : IsHeap top)
    (scored : Scored costs map start search) {rest : List (AStarNode F)}
    (popped : top search.openSet = some (curr, rest))
    (fresh : lt (search.scratch.gScore (curr.x * height + curr.z)) curr.g = false) :
    curr.g = search.score (curr.x, curr.z) := by
  have among : curr ∈ search.openSet :=
    (heap.perm _ _ _ popped).mem_iff.mpr List.mem_cons_self
  rcases (scored.entries curr among).2 with held | late
  · exact held
  · exact absurd (late.symm.trans fresh) (by simp)

theorem Scored.nearer (scored : Scored costs map start search) (onMap : OnMap (curr.x, curr.z))
    (touched : search.Touched start (curr.x, curr.z)) (bestH : F) :
    Scored costs map start
      { search with bestH := bestH, bestX := curr.x, bestZ := curr.z } :=
  ⟨⟨scored.clean, scored.queued, scored.linked, onMap, touched⟩, scored.isCost, scored.home,
    scored.entries, scored.risen, scored.acyclic⟩

theorem Scored.expanded (arith : ExactTiles F) {top : OpenSet F} (heap : IsHeap top)
    (scored : Scored costs map start search) {rest : List (AStarNode F)}
    (popped : top search.openSet = some (curr, rest))
    (fresh : lt (search.scratch.gScore (curr.x * height + curr.z)) curr.g = false) :
    Scored costs map start (map.expand ex ez curr { search with openSet := rest }) := by
  obtain ⟨-, onMap, touched⟩ := scored.toExplored.popped heap popped
  have exact_g := scored.current heap popped fresh
  have remains := scored.popped heap popped
  refine (expand_makes (fun s => Scored costs map start s ∧ s.Touched start (curr.x, curr.z) ∧
    curr.g = s.score (curr.x, curr.z)) (fun _ _ => True) ?_ _ (fun _ => ⟨remains, touched, exact_g⟩)
    fun _ => ⟨remains.nearer onMap touched _, touched, exact_g⟩).1.1
  rintro s s' offset member ⟨scored, touched, exact_g⟩ relaxes
  obtain ⟨scored, touched, exact_g, -⟩ := scored.relaxed arith member onMap touched exact_g relaxes
  exact ⟨⟨scored, touched, exact_g⟩, trivial, fun _ _ => trivial⟩

theorem startSearch_scored (costs : PathCosts F) {sx sz : Int} (clean : Clean map.scratch)
    (onMap : OnMap (sx, sz)) : Scored costs map (sx, sz) (map.startSearch sx sz ex ez) := by
  have explored : map.Explored (sx, sz) (map.startSearch sx sz ex ez) :=
    startSearch_explored clean onMap
  have unlinked (a b : Tile) : ¬(map.startSearch sx sz ex ez).Parent a b := by
    rintro ⟨onMap, -, linked⟩
    unfold startSearch at linked
    rw [clean.reset] at linked
    exact ne_unset onMap linked.symm
  have score : (map.startSearch sx sz ex ez).scratch.gScore =
      Function.update (fun _ => lit 1000000000) (index (sx, sz)) zero := by
    unfold startSearch
    rw [clean.reset]
    rfl
  refine ⟨explored, fun idx => ?_, ⟨?_, ?_⟩, fun node member => ?_,
    fun a b link => absurd link (unlinked a b), fun t cycle => ?_⟩
  · rw [score, Function.update_apply]
    split
    next => exact costs.zero
    next => exact costs.unset
  · unfold Search.score
    rw [score, Function.update_self]
  · unfold startSearch
    rw [clean.reset]
    rfl
  · obtain rfl := List.mem_singleton.mp member
    refine ⟨costs.zero, .inl ?_⟩
    unfold Search.score
    rw [score, Function.update_self]
  · obtain ⟨b, link, -⟩ := TransGen.head'_iff.mp cycle
    exact unlinked _ _ link

theorem length_le_of_nodup {nodes : List Int} (nodup : nodes.Nodup)
    (inside : ∀ idx ∈ nodes, 0 ≤ idx ∧ idx < width * height) :
    nodes.length ≤ (width * height).toNat := by
  have subset : nodes.toFinset ⊆ Finset.Ico 0 (width * height) := by
    intro idx member
    exact Finset.mem_Ico.mpr (inside idx (List.mem_toFinset.mp member))
  have count := Finset.card_le_card subset
  rw [List.toFinset_card_of_nodup nodup, Int.card_Ico, sub_zero] at count
  exact count

theorem index_inside {t : Tile} (onMap : OnMap t) : 0 ≤ index t ∧ index t < width * height := by
  obtain ⟨low_x, high_x, low_z, high_z⟩ := onMap
  unfold index width height at *
  omega

theorem tiles_length_le {tiles : List Tile} (nodup : tiles.Nodup) (inside : ∀ t ∈ tiles, OnMap t) :
    tiles.length ≤ (width * height).toNat := by
  rw [← tiles.length_map (f := index)]
  refine length_le_of_nodup ?_ fun idx member => ?_
  · exact nodup.map_on fun s on_s t on_t => index_injective (inside s on_s) (inside t on_t)
  · obtain ⟨t, among, rfl⟩ := List.mem_map.mp member
    exact index_inside (inside t among)

theorem Scored.traces (scored : Scored costs map start search) (fuel : Nat) (t : Tile)
    (below : List Tile) (chain : (t :: below).IsChain search.Parent)
    (inside : ∀ b ∈ t :: below, OnMap b) (touched : search.Touched start t)
    (room : (width * height).toNat < fuel + below.length) :
    ∃ tiles : List Tile, tracePath (F := F) search.scratch.parent fuel t.1 t.2
        (below.map waypoint) = some (tiles.map waypoint) ∧
      tiles.IsChain search.Parent ∧ tiles.head? = some start ∧
      tiles.getLast? = (t :: below).getLast? := by
  have short := tiles_length_le (Paths.nodup_of_acyclic scored.acyclic chain) inside
  rw [List.length_cons] at short
  have onMap : OnMap t := inside t List.mem_cons_self
  induction fuel generalizing t below with
  | zero => omega
  | succ fuel ih =>
      rw [tracePath, if_neg (by unfold OnMap at onMap; omega)]
      dsimp only
      rw [show search.scratch.parent (t.1 * height + t.2) = search.scratch.parent (index t) from rfl]
      by_cases home : search.scratch.parent (index t) = (-1, -1)
      next =>
        -- Only the start was never linked to another tile.
        obtain rfl : t = start := touched.resolve_right (absurd home)
        obtain ⟨fuel, rfl⟩ : ∃ more, fuel = more + 1 := ⟨fuel - 1, by omega⟩
        rw [home]
        exact ⟨t :: below, rfl, chain, rfl, rfl⟩
      next =>
        obtain ⟨before, came, -⟩ := scored.linked t onMap home
        have up : (search.scratch.parent (index t) :: t :: below).IsChain search.Parent :=
          List.isChain_cons_cons.mpr ⟨⟨before, onMap, rfl⟩, chain⟩
        have inside' : ∀ b ∈ search.scratch.parent (index t) :: t :: below, OnMap b := by
          intro b member
          rcases List.mem_cons.mp member with rfl | among
          · exact before
          · exact inside b among
        have short' := tiles_length_le (Paths.nodup_of_acyclic scored.acyclic up) inside'
        obtain ⟨tiles, traced, path, starts, ends⟩ := ih _ (t :: below) up inside' came
          (by rw [List.length_cons]; omega) (by simpa using short') before
        exact ⟨tiles, traced, path, starts, ends.trans (List.getLast?_cons_cons ..)⟩

end

end MundusVivens.GridMap
