import MundusVivens.Walking.Shortest

set_option autoImplicit false

/-!
# Parents

Scores fall while the tiles behind them keep what they were given. So along a link the scores rise
by at least the step, and whatever was scored leads back to the start.
-/

namespace MundusVivens.GridMap

open Scalar

section

variable {F : Type} [Scalar F] {map : GridMap F} {start : Tile} {search search' : Search F}
  {curr : AStarNode F} {offset : Int × Int × F} {ex ez : Int}

def Search.IsScored (search : Search F) (t : Tile) : Prop :=
  lt (search.score t) (lit 1000000000) = true

def Unset (start : Tile) (search : Search F) : Prop :=
  ∀ t, OnMap t → ¬search.Touched start t → search.score t = lit 1000000000

theorem Unset.relaxed (unset : Unset start search) (onMap : OnMap (curr.x, curr.z))
    (relaxes : map.Relaxes ex ez curr search offset search') : Unset start search' := by
  cases relaxes with
  | barred => exact unset
  | kept => exact unset
  | reached move better =>
      intro t inside untouched
      have there : OnMap (neighbour curr offset) := onMap_of_walkable move.walkable
      have other : t ≠ neighbour curr offset := by
        rintro rfl
        refine untouched (.inr ?_)
        rw [show (reach ex ez curr search offset).scratch.parent (index (neighbour curr offset)) =
          (curr.x, curr.z) from Function.update_self ..]
        exact ne_unset onMap
      rw [score_reach_of_ne inside there other]
      exact unset t inside fun touched => untouched (touched.reach onMap)

theorem Unset.expanded (unset : Unset start search) (onMap : OnMap (curr.x, curr.z)) :
    Unset start (map.expand ex ez curr search) := by
  refine (expand_makes (Unset start) (fun _ _ => True) (fun s s' offset _ unset relaxes => ?_) search
    (fun _ => unset) fun _ => unset).1
  exact ⟨unset.relaxed onMap relaxes, trivial, fun _ _ => trivial⟩

theorem Unset.popped (unset : Unset start search) (rest : List (AStarNode F)) :
    Unset start { search with openSet := rest } := fun t inside untouched =>
  unset t inside untouched

theorem startSearch_unset {sx sz : Int} (clean : Clean map.scratch) (onMap : OnMap (sx, sz)) :
    Unset (sx, sz) (map.startSearch sx sz ex ez) := by
  intro t inside untouched
  have other : index t ≠ index (sx, sz) := fun same =>
    untouched (.inl (index_injective inside onMap same))
  unfold Search.score startSearch
  rw [clean.reset]
  exact Function.update_of_ne other ..

theorem searchLoop_unset (arith : ExactTiles F) {top : OpenSet F} (heap : IsHeap top)
    (remaining : Nat) (search : Search F) (explored : map.Explored start search)
    (unset : Unset start search) (ended : SearchEnd) (last : Search F)
    (looped : map.searchLoop top ex ez remaining search = (ended, last)) : Unset start last := by
  let Holds : Nat → Search F → Prop := fun _ s => map.Explored start s ∧ Unset start s
  have expanded (left : Nat) (s : Search F) (curr : AStarNode F) (rest : List (AStarNode F))
      (holds : Holds (left + 1) s) (popped : top s.openSet = some (curr, rest)) :
      Holds left (map.expand ex ez curr { s with openSet := rest }) := by
    refine ⟨holds.1.expanded arith heap popped, ?_⟩
    exact (holds.2.popped rest).expanded (holds.1.popped heap popped).2.1
  have outdated (left : Nat) (s : Search F) (curr : AStarNode F) (rest : List (AStarNode F))
      (holds : Holds (left + 1) s) (popped : top s.openSet = some (curr, rest)) :
      Holds left { s with openSet := rest } :=
    ⟨(holds.1.popped heap popped).1, holds.2.popped rest⟩
  obtain ⟨_, s, ⟨-, holds⟩, ends⟩ := searchLoop_ends Holds
    (fun left s curr rest holds popped _ _ => expanded left s curr rest holds popped)
    (fun left s curr rest holds popped _ => outdated left s curr rest holds popped)
    remaining search ⟨explored, unset⟩
  rcases ends with ⟨curr, rest, -, -, -, found⟩ | ⟨-, -, capped⟩ | ⟨-, empty⟩
  · obtain ⟨rfl, rfl⟩ := Prod.mk.inj (looped.symm.trans found)
    exact holds
  · obtain ⟨rfl, rfl⟩ := Prod.mk.inj (looped.symm.trans capped)
    exact holds
  · obtain ⟨rfl, rfl⟩ := Prod.mk.inj (looped.symm.trans empty)
    exact holds

end

/-- Links of a search whose scores rise by the steps, and lead from every scored tile to its start
over tiles that are all different. -/
structure LeadsHome (start : Tile) (search : Search ℝ) : Prop where
  home : search.scratch.parent (index start) = (-1, -1)
  rises : ∀ t, OnMap t → search.scratch.parent (index t) ≠ (-1, -1) →
    OnMap (search.scratch.parent (index t)) ∧
      search.score (search.scratch.parent (index t)) +
        stepCost (search.scratch.parent (index t)) t ≤ search.score t
  traced : ∀ t, OnMap t → search.IsScored t → ∃ tiles : List Tile,
    tracePath (F := ℝ) search.scratch.parent (width * height).toNat.succ t.1 t.2 [] =
        some (tiles.map waypoint) ∧
      tiles.IsChain search.Parent ∧ tiles.head? = some start ∧ tiles.getLast? = some t ∧
      tiles.Nodup

/-- After any history of calls every search leaves such links, on whatever way its loop ends. -/
theorem searched_parents_lead_home (blank last : GridMap ℝ)
    (past : List (Runs.Transition (GridMap ℝ) (PathQuery ℝ)))
    (uncached : blank.pathCache = []) (fresh : blank.scratch = freshScratch)
    (history : Runs.Run call blank past last)
    (heaps : Runs.Guarded (fun _ query => IsHeap query.top) past)
    (query : PathQuery ℝ) (heap : IsHeap query.top) (ended : SearchEnd) (search : Search ℝ)
    (looped : query.loop last = (ended, search)) : LeadsHome query.start search := by
  have clean := (history_recorded exactTiles_real blank last past uncached fresh history heaps).clean
  have start : OnMap query.start := onMap_tile query.startX query.startZ
  obtain ⟨scored, -, -⟩ := query.loop_scored exactTiles_real realCosts heap clean ended search looped
  have unset : Unset query.start search := searchLoop_unset exactTiles_real heap _ _
    (startSearch_explored clean start) (startSearch_unset clean start) ended search looped
  refine ⟨scored.home.2, fun t onMap linked => ?_, fun t onMap reached => ?_⟩
  · obtain ⟨before, -, -⟩ := scored.linked t onMap linked
    have cost := realCosts.add (scored.isCost_score (search.scratch.parent (index t)))
      (stepCost_isStep (search.scratch.parent (index t)) t)
    exact ⟨before, (rank_le_iff cost (scored.isCost_score t)).mp (scored.risen _ t ⟨before, onMap, rfl⟩)⟩
  · have touched : search.Touched query.start t := by
      by_contra untouched
      unfold Search.IsScored at reached
      rw [unset t onMap untouched, realCosts.irrefl] at reached
      cases reached
    have inside (b : Tile) (member : b ∈ [t]) : OnMap b := by
      rw [List.mem_singleton.mp member]
      exact onMap
    obtain ⟨tiles, traced, chain, starts, ends⟩ := scored.traces (width * height).toNat.succ t []
      (List.isChain_singleton t) inside touched (Nat.lt_succ_self _)
    exact ⟨tiles, traced, chain, starts, ends, Paths.nodup_of_acyclic scored.acyclic chain⟩

theorem searched_parents_lead_home_ledge :
    LeadsHome ledgeWalk.start (ledgeWalk.loop (ledge ℝ)).2 :=
  searched_parents_lead_home (ledge ℝ) (ledge ℝ) [] rfl rfl .rest (fun _ member => by cases member)
    ledgeWalk leastFirst_heap_real (ledgeWalk.loop (ledge ℝ)).1 _ rfl

end MundusVivens.GridMap
