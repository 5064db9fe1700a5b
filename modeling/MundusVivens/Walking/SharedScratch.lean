import MundusVivens.Walking.Routes

set_option autoImplicit false

/-!
# The scratch arrays of a thread

All maps of a thread search with the same arrays. A search begins by resetting the entries the
last one visited, so it finds them as they were allocated.
-/

namespace MundusVivens.GridMap

open Scalar

variable {F : Type} [Scalar F] {map m : GridMap F} {search : Search F} {scratch : SearchScratch F}

def withScratch (map : GridMap F) (scratch : SearchScratch F) : GridMap F :=
  { map with scratch := scratch }

-- `FindPath` on one of the maps of a thread.
structure ThreadCall (F : Type) where
  map : GridMap F
  query : PathQuery F

-- What a call leaves in the arrays of its thread.
def threadCall (call : ThreadCall F) (scratch : SearchScratch F) : Option (SearchScratch F) :=
  (call.query.answer (call.map.withScratch scratch)).map (·.2.scratch)

theorem freshScratch_clean : Clean (freshScratch : SearchScratch F) := fun _ _ => ⟨rfl, rfl⟩

theorem Clean.expanded (unset : le (lit 1000000000 : F) (lit 1000000000) = true) {ex ez : Int}
    (curr : AStarNode F) (clean : Clean search.scratch) :
    Clean (map.expand ex ez curr search).scratch := by
  refine (expand_makes (fun s => Clean s.scratch) (fun _ _ => True) ?_ search (fun _ => clean)
    fun _ => clean).1
  intro s s' offset _ holds relaxes
  exact ⟨Clean.relaxed unset holds relaxes, trivial, fun _ _ => trivial⟩

-- Whatever the queue does, the loop ends with every entry it wrote among the visited ones.
theorem Clean.searchLoop (unset : le (lit 1000000000 : F) (lit 1000000000) = true)
    {top : OpenSet F} {ex ez : Int} {remaining : Nat} (clean : Clean search.scratch)
    {ended : SearchEnd} {last : Search F}
    (looped : map.searchLoop top ex ez remaining search = (ended, last)) : Clean last.scratch := by
  obtain ⟨_, s, holds, ends⟩ := searchLoop_ends (fun _ s => Clean s.scratch)
    (fun _ _ curr _ holds _ _ _ => Clean.expanded unset curr holds)
    (fun _ _ _ _ holds _ _ => holds) remaining search clean
  rcases ends with ⟨curr, rest, -, -, -, found⟩ | ⟨-, -, capped⟩ | ⟨-, empty⟩
  · obtain ⟨-, rfl⟩ := Prod.mk.inj (looped.symm.trans found)
    exact holds
  · obtain ⟨-, rfl⟩ := Prod.mk.inj (looped.symm.trans capped)
    exact holds
  · obtain ⟨-, rfl⟩ := Prod.mk.inj (looped.symm.trans empty)
    exact holds

theorem startSearch_clean (sx sz ex ez : Int) (clean : Clean map.scratch) :
    Clean (map.startSearch sx sz ex ez).scratch := by
  unfold startSearch
  rw [clean.reset]
  intro idx unvisited
  have other : idx ≠ sx * height + sz := by simpa [freshScratch] using unvisited
  exact ⟨Function.update_of_ne other .., rfl⟩

theorem Clean.answered (unset : le (lit 1000000000 : F) (lit 1000000000) = true)
    (query : PathQuery F) (clean : Clean map.scratch) {result : PathResult F}
    (answered : query.answer map = some (result, m)) : Clean m.scratch := by
  cases map.findPath_finds _ _ _ _ _ _ result answered with
  | here => exact clean
  | unwalkable => exact clean
  | hit => exact clean
  | stuck _ _ _ ended search looped => exact (startSearch_clean _ _ _ _ clean).searchLoop unset looped
  | traced _ _ _ ended search looped =>
      have searched := (startSearch_clean _ _ _ _ clean).searchLoop unset looped
      split <;> exact searched

theorem thread_clean (unset : le (lit 1000000000 : F) (lit 1000000000) = true)
    {past : List (Runs.Transition (SearchScratch F) (ThreadCall F))} {last : SearchScratch F}
    (history : Runs.Run threadCall freshScratch past last) : Clean last := by
  refine history.preserved Clean freshScratch_clean ?_
  intro scratch call next clean called
  obtain ⟨⟨result, m⟩, answered, rfl⟩ := Option.map_eq_some_iff.mp called
  exact Clean.answered unset call.query clean answered

theorem startSearch_fresh (clean : Clean scratch) (sx sz ex ez : Int) :
    (map.withScratch scratch).startSearch sx sz ex ez =
      (map.withScratch freshScratch).startSearch sx sz ex ez := by
  unfold startSearch withScratch
  dsimp only
  rw [clean.reset, freshScratch_clean.reset]

-- Two maps with different arrays answer alike, and store the same paths.
theorem answer_fresh (query : PathQuery F) (clean : Clean scratch) :
    (query.answer (map.withScratch scratch)).map (fun a => (a.1, a.2.withScratch freshScratch)) =
      (query.answer (map.withScratch freshScratch)).map
        fun a => (a.1, a.2.withScratch freshScratch) := by
  have walkable (s : SearchScratch F) : (map.withScratch s).isWalkable = map.isWalkable := rfl
  have lookup (s : SearchScratch F) : (map.withScratch s).cacheLookup = map.cacheLookup := rfl
  have store (s : SearchScratch F) : (map.withScratch s).cacheStore = map.cacheStore := rfl
  have loops (s : SearchScratch F) : (map.withScratch s).searchLoop = map.searchLoop := by
    funext top ex ez remaining search
    exact searchLoop_congr (m := map.withScratch s) (by rfl) top ex ez remaining search
  have arrays : SearchScratch.reset (map.withScratch scratch).scratch =
      SearchScratch.reset (map.withScratch freshScratch).scratch :=
    clean.reset.trans freshScratch_clean.reset.symm
  unfold PathQuery.answer findPath
  dsimp only
  rw [walkable, walkable, lookup, lookup, store, store, loops, loops, arrays]
  split
  next => rfl
  next =>
    split
    next => rfl
    next =>
      split
      next => rfl
      next =>
        generalize map.searchLoop _ _ _ _ _ = outcome
        obtain ⟨ended, search⟩ := outcome
        dsimp only
        generalize tracePath (F := F) _ _ _ _ _ = traced
        cases traced <;> split <;> rfl

/-- Whatever calls a thread has made on whatever maps, the loop of its next search begins with
every score but the start's at 1e9 and without parents, and the call returns and stores what it
would with arrays just allocated. -/
theorem next_search_fresh (unset : le (lit 1000000000 : F) (lit 1000000000) = true)
    (past : List (Runs.Transition (SearchScratch F) (ThreadCall F))) (last : SearchScratch F)
    (history : Runs.Run threadCall freshScratch past last) (map : GridMap F)
    (query : PathQuery F) :
    let search := (map.withScratch last).startSearch query.start.1 query.start.2 query.goal.1
      query.goal.2
    (∀ idx, idx ≠ index query.start → search.scratch.gScore idx = lit 1000000000) ∧
      (∀ idx, search.scratch.parent idx = (-1, -1)) ∧
      search = (map.withScratch freshScratch).startSearch query.start.1 query.start.2 query.goal.1
        query.goal.2 ∧
      (query.answer (map.withScratch last)).map (fun a => (a.1, a.2.withScratch freshScratch)) =
        (query.answer (map.withScratch freshScratch)).map
          fun a => (a.1, a.2.withScratch freshScratch) := by
  intro search
  have clean := thread_clean unset history
  have same : search = (map.withScratch freshScratch).startSearch query.start.1 query.start.2
    query.goal.1 query.goal.2 := startSearch_fresh clean ..
  refine ⟨fun idx other => ?_, fun idx => ?_, same, answer_fresh query clean⟩
  · rw [same]
    unfold startSearch withScratch
    rw [freshScratch_clean.reset]
    exact Function.update_of_ne other ..
  · rw [same]
    unfold startSearch withScratch
    rw [freshScratch_clean.reset]
    rfl

-- A thread searches one map, then another query on a map of its own.
theorem next_search_fresh_longWalk : ∃ past last,
    Runs.Run threadCall freshScratch past last ∧ past ≠ [] ∧
      (longWalk.answer (meadow.withScratch last)).map
          (fun a => (a.1, a.2.withScratch freshScratch)) =
        (longWalk.answer (meadow.withScratch freshScratch)).map
          fun a => (a.1, a.2.withScratch freshScratch) := by
  obtain ⟨last, called⟩ := Option.isSome_iff_exists.mp
    (show (threadCall ⟨meadow, shortWalk⟩ freshScratch).isSome = true by decide +kernel)
  have history : Runs.Run threadCall freshScratch [⟨_, ⟨meadow, shortWalk⟩, last⟩] last :=
    .next .rest called
  obtain ⟨-, -, -, same⟩ :=
    next_search_fresh (by decide +kernel) _ last history meadow longWalk
  exact ⟨_, last, history, by simp, same⟩

end MundusVivens.GridMap
