import MundusVivens.Walking.Search
import MundusVivens.Shared.Runs
import MundusVivens.Shared.Reals

set_option autoImplicit false

/-!
# Routes

The paths a search may return are legal moves from tile to tile. The cache keeps
the route of one query for every query with the same buckets.
-/

namespace MundusVivens.GridMap

open Scalar

abbrev Tile := Int × Int

def OnMap (t : Tile) : Prop := 0 ≤ t.1 ∧ t.1 < width ∧ 0 ≤ t.2 ∧ t.2 < height

def index (t : Tile) : Int := t.1 * height + t.2

theorem index_injective {s t : Tile} (on_s : OnMap s) (on_t : OnMap t) (same : index s = index t) :
    s = t := by
  obtain ⟨-, -, low_s, high_s⟩ := on_s
  obtain ⟨-, -, low_t, high_t⟩ := on_t
  unfold index height at *
  ext <;> omega

variable {F : Type} {map m : GridMap F}

/-- A move of the search: to a walkable neighbour, and never around a blocked corner. -/
structure Move (map : GridMap F) (a b : Tile) : Prop where
  apart : a ≠ b
  neighbours : |b.1 - a.1| ≤ 1 ∧ |b.2 - a.2| ≤ 1
  walkable : map.isWalkable b.1 b.2 = true
  corner : b.1 ≠ a.1 → b.2 ≠ a.2 →
    map.isWalkable b.1 a.2 = true ∧ map.isWalkable a.1 b.2 = true

theorem onMap_of_walkable {t : Tile} (walkable : map.isWalkable t.1 t.2 = true) : OnMap t := by
  unfold isWalkable at walkable
  split at walkable
  next => cases walkable
  next inside =>
    unfold OnMap
    omega

variable [Scalar F]

def waypoint (t : Tile) : GridVector2 F := ⟨ofInt t.1, ofInt t.2⟩

theorem onMap_tile (x z : F) : OnMap (tileX x, tileZ z) := by
  unfold OnMap tileX tileZ clampInt width height
  dsimp only
  omega

theorem offset_bounds {offset : Int × Int × F} (member : offset ∈ offsets) :
    (offset.1, offset.2.1) ≠ (0, 0) ∧ |offset.1| ≤ 1 ∧ |offset.2.1| ≤ 1 := by
  simp only [offsets, List.mem_cons, List.not_mem_nil, or_false] at member
  rcases member with rfl | rfl | rfl | rfl | rfl | rfl | rfl | rfl <;> simp

theorem exists_offset {a b : Tile} (move : map.Move a b) :
    ∃ cost : F, (b.1 - a.1, b.2 - a.2, cost) ∈ offsets := by
  obtain ⟨alongX, alongZ⟩ := move.neighbours
  have apart : ¬(b.1 - a.1 = 0 ∧ b.2 - a.2 = 0) := by
    rintro ⟨sameX, sameZ⟩
    exact move.apart (Prod.ext (by omega) (by omega))
  generalize b.1 - a.1 = dx at *
  generalize b.2 - a.2 = dz at *
  rw [abs_le] at alongX alongZ
  have stepX : dx = -1 ∨ dx = 0 ∨ dx = 1 := by omega
  have stepZ : dz = -1 ∨ dz = 0 ∨ dz = 1 := by omega
  rcases stepX with rfl | rfl | rfl <;> rcases stepZ with rfl | rfl | rfl <;> simp_all [offsets]

def neighbour (curr : AStarNode F) (offset : Int × Int × F) : Tile :=
  (curr.x + offset.1, curr.z + offset.2.1)

-- The node stored for a neighbour that is reached on a better way.
def reach (ex ez : Int) (curr : AStarNode F) (search : Search F) (offset : Int × Int × F) :
    Search F :=
  let t := neighbour curr offset
  let g := curr.g + offset.2.2
  { search with
    scratch :=
      { gScore := Function.update search.scratch.gScore (index t) g
        parent := Function.update search.scratch.parent (index t) (curr.x, curr.z)
        visitedNodes :=
          if le (lit 1000000000) (search.scratch.gScore (index t)) then
            search.scratch.visitedNodes ++ [index t]
          else search.scratch.visitedNodes }
    openSet := search.openSet ++ [⟨t.1, t.2, g, g + heuristic t.1 t.2 ex ez⟩] }

inductive Relaxes (map : GridMap F) (ex ez : Int) (curr : AStarNode F) (search : Search F)
    (offset : Int × Int × F) : Search F → Prop where
  | barred (no : ¬map.Move (curr.x, curr.z) (neighbour curr offset)) :
      Relaxes map ex ez curr search offset search
  | kept (worse : lt (curr.g + offset.2.2)
        (search.scratch.gScore (index (neighbour curr offset))) = false) :
      Relaxes map ex ez curr search offset search
  | reached (move : map.Move (curr.x, curr.z) (neighbour curr offset))
      (better : lt (curr.g + offset.2.2)
        (search.scratch.gScore (index (neighbour curr offset))) = true) :
      Relaxes map ex ez curr search offset (reach ex ez curr search offset)

theorem relax_relaxes (ex ez : Int) (curr : AStarNode F) (search : Search F)
    (offset : Int × Int × F) (member : offset ∈ offsets) :
    map.Relaxes ex ez curr search offset (map.relax ex ez curr search offset) := by
  obtain ⟨apart, alongX, alongZ⟩ := offset_bounds member
  obtain ⟨dx, dz, cost⟩ := offset
  unfold relax
  dsimp only
  split
  next wall => exact .barred fun move => by simp [show map.isWalkable (curr.x + dx) (curr.z + dz) =
      true from move.walkable] at wall
  next free =>
    split
    next cut =>
      refine .barred fun move => ?_
      obtain ⟨turnX, turnZ, walled⟩ := cut
      obtain ⟨besideX, besideZ⟩ := move.corner (by simpa [neighbour] using turnX)
        (by simpa [neighbour] using turnZ)
      dsimp only [neighbour] at besideX besideZ
      simp [besideX, besideZ] at walled
    next uncut =>
      have move : map.Move (curr.x, curr.z) (neighbour curr (dx, dz, cost)) := by
        refine ⟨fun same => ?_, ?_, by simpa [neighbour] using free, fun turnX turnZ => ?_⟩
        · obtain ⟨sameX, sameZ⟩ := Prod.mk.inj same
          exact apart (Prod.ext (by simpa using sameX) (by simpa using sameZ))
        · simpa [neighbour] using And.intro alongX alongZ
        · have beside := not_and.mp (not_and.mp uncut (by simpa [neighbour] using turnX))
          simpa [neighbour] using beside (by simpa [neighbour] using turnZ)
      split
      next better => exact .reached move better
      next worse => exact .kept (Bool.eq_false_iff.mpr worse)

/-- `std::priority_queue`: some node is on top unless the queue is empty, and no node is less. -/
structure IsHeap (top : OpenSet F) : Prop where
  empty : top [] = none
  pops : ∀ nodes, nodes ≠ [] → (top nodes).isSome
  perm : ∀ nodes node rest, top nodes = some (node, rest) → nodes.Perm (node :: rest)
  least : ∀ nodes node rest, top nodes = some (node, rest) →
    ∀ other ∈ rest, lt other.f node.f = false

-- A property of the search and the iterations left, kept by every turn of the main loop, holds
-- where the loop ends.
theorem searchLoop_ends (property : Nat → Search F → Prop) {top : OpenSet F} {ex ez : Int}
    (expanded : ∀ remaining search curr rest, property (remaining + 1) search →
      top search.openSet = some (curr, rest) → ¬(curr.x = ex ∧ curr.z = ez) →
      lt (search.scratch.gScore (curr.x * height + curr.z)) curr.g = false →
      property remaining (map.expand ex ez curr { search with openSet := rest }))
    (outdated : ∀ remaining search curr rest, property (remaining + 1) search →
      top search.openSet = some (curr, rest) →
      lt (search.scratch.gScore (curr.x * height + curr.z)) curr.g = true →
      property remaining { search with openSet := rest })
    (remaining : Nat) (search : Search F) (holds : property remaining search) :
    ∃ left s, property left s ∧
      ((∃ curr rest, top s.openSet = some (curr, rest) ∧ curr.x = ex ∧ curr.z = ez ∧
        map.searchLoop top ex ez remaining search =
          (.found, { s with openSet := rest, bestX := curr.x, bestZ := curr.z })) ∨
      (left = 0 ∧ (top s.openSet).isSome ∧
        map.searchLoop top ex ez remaining search = (.hitCap, s)) ∨
      (top s.openSet = none ∧ map.searchLoop top ex ez remaining search = (.exhausted, s))) := by
  induction remaining generalizing search with
  | zero =>
      refine ⟨0, search, holds, .inr ?_⟩
      cases popped : top search.openSet with
      | none => exact .inr ⟨rfl, by simp [searchLoop, popped]⟩
      | some node => exact .inl ⟨rfl, rfl, by simp [searchLoop, popped]⟩
  | succ remaining ih =>
      cases popped : top search.openSet with
      | none => exact ⟨_, search, holds, .inr (.inr ⟨popped, by simp [searchLoop, popped]⟩)⟩
      | some node =>
        obtain ⟨curr, rest⟩ := node
        by_cases goal : curr.x = ex ∧ curr.z = ez
        next =>
          refine ⟨_, search, holds, .inl ⟨curr, rest, popped, goal.1, goal.2, ?_⟩⟩
          rw [searchLoop.eq_def]
          simp [popped, goal]
        next =>
          by_cases late : lt (search.scratch.gScore (curr.x * height + curr.z)) curr.g = true
          next =>
            have turn : map.searchLoop top ex ez (remaining + 1) search =
                map.searchLoop top ex ez remaining { search with openSet := rest } := by
              rw [searchLoop.eq_def]
              simp [popped, goal, late]
            rw [turn]
            exact ih _ (outdated _ search curr rest holds popped late)
          next =>
            have turn : map.searchLoop top ex ez (remaining + 1) search =
                map.searchLoop top ex ez remaining
                  (map.expand ex ez curr { search with openSet := rest }) := by
              rw [searchLoop.eq_def]
              simp [popped, goal, late]
            rw [turn]
            exact ih _ (expanded _ search curr rest holds popped goal (Bool.eq_false_iff.mpr late))

-- A property kept by every neighbour is kept by an expansion, and what each neighbour establishes
-- holds after it.
theorem expand_makes (property : Search F → Prop) (made : Int × Int × F → Search F → Prop)
    {ex ez : Int} {curr : AStarNode F}
    (relaxed : ∀ search search' offset, offset ∈ offsets → property search →
      map.Relaxes ex ez curr search offset search' →
      property search' ∧ made offset search' ∧ ∀ other, made other search → made other search')
    (search : Search F)
    (holds : lt (heuristic curr.x curr.z ex ez) search.bestH = false → property search)
    (closer : lt (heuristic curr.x curr.z ex ez) search.bestH = true → property { search with
      bestH := heuristic curr.x curr.z ex ez, bestX := curr.x, bestZ := curr.z }) :
    property (map.expand ex ez curr search) ∧
      ∀ offset ∈ offsets, made offset (map.expand ex ez curr search) := by
  have folds (steps : List (Int × Int × F)) (inside : ∀ offset ∈ steps, offset ∈ offsets)
      (s : Search F) (now : property s) :
      property (steps.foldl (map.relax ex ez curr) s) ∧
        ∀ offset, offset ∈ steps ∨ made offset s →
          made offset (steps.foldl (map.relax ex ez curr) s) := by
    induction steps generalizing s with
    | nil => exact ⟨now, fun offset made => made.resolve_left (List.not_mem_nil)⟩
    | cons first steps ih =>
        have member : first ∈ offsets := inside first (by simp)
        obtain ⟨next, here, kept⟩ := relaxed s _ first member now
          (relax_relaxes ex ez curr s first member)
        obtain ⟨holds, later⟩ := ih (fun other among => inside other (by simp [among])) _ next
        refine ⟨holds, fun offset cause => later offset ?_⟩
        rcases cause with among | before
        · rcases List.mem_cons.mp among with rfl | among
          · exact .inr here
          · exact .inl among
        · exact .inr (kept offset before)
  have all (s : Search F) (now : property s) :
      property (offsets.foldl (map.relax ex ez curr) s) ∧
        ∀ offset ∈ offsets, made offset (offsets.foldl (map.relax ex ez curr) s) := by
    obtain ⟨holds, later⟩ := folds offsets (fun _ => id) s now
    exact ⟨holds, fun offset among => later offset (.inl among)⟩
  unfold expand
  dsimp only
  split
  next nearer => exact all _ (closer nearer)
  next farther => exact all _ (holds (Bool.eq_false_iff.mpr farther))

-- Outside the visited nodes the arrays hold their initial values.
def Clean (scratch : SearchScratch F) : Prop :=
  ∀ idx, idx ∉ scratch.visitedNodes →
    scratch.gScore idx = lit 1000000000 ∧ scratch.parent idx = (-1, -1)

-- The arrays as they are allocated.
def freshScratch : SearchScratch F := ⟨fun _ => lit 1000000000, fun _ => (-1, -1), []⟩

theorem Clean.reset {scratch : SearchScratch F} (clean : Clean scratch) :
    SearchScratch.reset scratch = freshScratch := by
  let forget (s : SearchScratch F) (idx : Int) : SearchScratch F :=
    { s with
      gScore := Function.update s.gScore idx (lit 1000000000)
      parent := Function.update s.parent idx (-1, -1) }
  have forgets (nodes : List Int) (s : SearchScratch F) :
      (nodes.foldl forget s).visitedNodes = s.visitedNodes ∧ ∀ idx,
        (nodes.foldl forget s).gScore idx =
            (if idx ∈ nodes then lit 1000000000 else s.gScore idx) ∧
          (nodes.foldl forget s).parent idx = if idx ∈ nodes then (-1, -1) else s.parent idx := by
    induction nodes generalizing s with
    | nil => simp
    | cons node nodes ih =>
        obtain ⟨visited, values⟩ := ih (forget s node)
        refine ⟨visited, fun idx => ?_⟩
        obtain ⟨score, parent⟩ := values idx
        rw [List.foldl_cons, score, parent]
        by_cases here : idx = node <;> by_cases later : idx ∈ nodes <;>
          simp [forget, here, later]
  obtain ⟨visited, values⟩ := forgets scratch.visitedNodes { scratch with visitedNodes := [] }
  have score : (SearchScratch.reset scratch).gScore = fun _ => lit 1000000000 := by
    funext idx
    refine (values idx).1.trans ?_
    split
    next => rfl
    next unvisited => exact (clean idx unvisited).1
  have parent : (SearchScratch.reset scratch).parent = fun _ => (-1, -1) := by
    funext idx
    refine (values idx).2.trans ?_
    split
    next => rfl
    next unvisited => exact (clean idx unvisited).2
  have none : (SearchScratch.reset scratch).visitedNodes = [] := visited
  cases reset : SearchScratch.reset scratch
  rw [reset] at score parent none
  dsimp only at score parent none
  rw [score, parent, none]
  rfl

def Search.Touched (search : Search F) (start t : Tile) : Prop :=
  t = start ∨ search.scratch.parent (index t) ≠ (-1, -1)

-- Every tile the search came to was reached by a move from another one.
structure Explored (map : GridMap F) (start : Tile) (search : Search F) : Prop where
  clean : Clean search.scratch
  queued : ∀ node ∈ search.openSet,
    OnMap (node.x, node.z) ∧ search.Touched start (node.x, node.z)
  linked : ∀ t, OnMap t → search.scratch.parent (index t) ≠ (-1, -1) →
    OnMap (search.scratch.parent (index t)) ∧
      search.Touched start (search.scratch.parent (index t)) ∧
      map.Move (search.scratch.parent (index t)) t
  best : OnMap (search.bestX, search.bestZ) ∧ search.Touched start (search.bestX, search.bestZ)

-- What the search relies on; binary32 arithmetic has it as well.
structure ExactTiles (F : Type) [Scalar F] : Prop where
  unset : le (lit 1000000000 : F) (lit 1000000000) = true
  whole : ∀ s t, OnMap s → OnMap t → (waypoint s : GridVector2 F) = waypoint t → s = t

theorem ne_unset {t : Tile} (onMap : OnMap t) : t ≠ (-1, -1) := by
  rintro rfl
  have low := onMap.1
  simp at low

section

variable {start : Tile} {search search' : Search F} {ex ez : Int} {curr : AStarNode F}
  {offset : Int × Int × F}

theorem Search.Touched.reach (onMap : OnMap (curr.x, curr.z)) {t : Tile}
    (touched : search.Touched start t) :
    (reach ex ez curr search offset).Touched start t := by
  rcases touched with home | linked
  · exact .inl home
  · refine .inr ?_
    unfold GridMap.reach
    dsimp only
    rw [Function.update_apply]
    split
    next => exact ne_unset onMap
    next => exact linked

theorem Clean.relaxed (unset : le (lit 1000000000 : F) (lit 1000000000) = true)
    (clean : Clean search.scratch) (relaxes : map.Relaxes ex ez curr search offset search') :
    Clean search'.scratch := by
  cases relaxes with
  | barred => exact clean
  | kept => exact clean
  | reached move better =>
      intro idx unvisited
      have unvisited' : idx ∉ search.scratch.visitedNodes ∧
          (idx = index (neighbour curr offset) →
            le (lit 1000000000) (search.scratch.gScore idx) = false) := by
        dsimp only [reach] at unvisited
        split at unvisited
        next => simp_all
        next low => exact ⟨unvisited, fun same => by rw [same]; exact Bool.eq_false_iff.mpr low⟩
      obtain ⟨score, parent⟩ := clean idx unvisited'.1
      -- An entry that is written without being visited anew was visited before.
      have other : idx ≠ index (neighbour curr offset) := by
        intro same
        have high := unvisited'.2 same
        rw [score, unset] at high
        cases high
      dsimp only [reach]
      rw [Function.update_of_ne other, Function.update_of_ne other]
      exact ⟨score, parent⟩

theorem Explored.relaxed (arith : ExactTiles F) (explored : map.Explored start search)
    (onMap : OnMap (curr.x, curr.z)) (touched : search.Touched start (curr.x, curr.z))
    (relaxes : map.Relaxes ex ez curr search offset search') :
    map.Explored start search' ∧ search'.Touched start (curr.x, curr.z) := by
  cases relaxes with
  | barred => exact ⟨explored, touched⟩
  | kept => exact ⟨explored, touched⟩
  | reached move better =>
      have inside : OnMap (neighbour curr offset) := onMap_of_walkable move.walkable
      have linked_here : (reach ex ez curr search offset).scratch.parent
          (index (neighbour curr offset)) = (curr.x, curr.z) := Function.update_self ..
      refine ⟨⟨fun idx unvisited => ?_, fun node member => ?_, fun t there linked => ?_, ?_⟩,
        touched.reach onMap⟩
      · exact explored.clean.relaxed arith.unset (.reached move better) idx unvisited
      · rcases List.mem_append.mp member with old | new
        · exact ⟨(explored.queued node old).1, (explored.queued node old).2.reach onMap⟩
        · obtain rfl := List.mem_singleton.mp new
          refine ⟨inside, .inr ?_⟩
          rw [linked_here]
          exact ne_unset onMap
      · by_cases same : index t = index (neighbour curr offset)
        next =>
          obtain rfl := index_injective there inside same
          rw [linked_here]
          exact ⟨onMap, touched.reach onMap, move⟩
        next =>
          have old : (reach ex ez curr search offset).scratch.parent (index t) =
              search.scratch.parent (index t) := Function.update_of_ne same ..
          rw [old] at linked ⊢
          obtain ⟨before, came, moved⟩ := explored.linked t there linked
          exact ⟨before, came.reach onMap, moved⟩
      · exact ⟨explored.best.1, explored.best.2.reach onMap⟩

theorem Explored.popped {top : OpenSet F} (heap : IsHeap top) (explored : map.Explored start search)
    {rest : List (AStarNode F)} (popped : top search.openSet = some (curr, rest)) :
    map.Explored start { search with openSet := rest } ∧ OnMap (curr.x, curr.z) ∧
      search.Touched start (curr.x, curr.z) := by
  have nodes := heap.perm _ _ _ popped
  refine ⟨⟨explored.clean, fun node member => ?_, explored.linked, explored.best⟩, ?_⟩
  · exact explored.queued node (nodes.mem_iff.mpr (List.mem_cons_of_mem _ member))
  · exact explored.queued curr (nodes.mem_iff.mpr List.mem_cons_self)

theorem Explored.expanded (arith : ExactTiles F) {top : OpenSet F} (heap : IsHeap top)
    (explored : map.Explored start search) {rest : List (AStarNode F)}
    (popped : top search.openSet = some (curr, rest)) :
    map.Explored start (map.expand ex ez curr { search with openSet := rest }) := by
  obtain ⟨remains, onMap, touched⟩ := explored.popped heap popped
  refine (expand_makes (fun s => map.Explored start s ∧ s.Touched start (curr.x, curr.z))
    (fun _ _ => True) ?_ _ (fun _ => ⟨remains, touched⟩) fun _ => ⟨?_, touched⟩).1.1
  · intro s s' offset _ holds relaxes
    exact ⟨holds.1.relaxed arith onMap holds.2 relaxes, trivial, fun _ _ => trivial⟩
  · exact ⟨remains.clean, remains.queued, remains.linked, onMap, touched⟩

theorem startSearch_explored {sx sz : Int} (clean : Clean map.scratch) (onMap : OnMap (sx, sz)) :
    map.Explored (sx, sz) (map.startSearch sx sz ex ez) := by
  unfold startSearch
  rw [clean.reset]
  refine ⟨fun idx unvisited => ?_, fun node member => ?_, fun t _ linked => absurd rfl linked,
    onMap, .inl rfl⟩
  · have other : idx ≠ sx * height + sz := by simpa [freshScratch] using unvisited
    exact ⟨Function.update_of_ne other .., rfl⟩
  · obtain rfl := List.mem_singleton.mp member
    exact ⟨onMap, .inl rfl⟩

theorem searchLoop_explored (arith : ExactTiles F) {top : OpenSet F} (heap : IsHeap top)
    (remaining : Nat) (search : Search F) (explored : map.Explored start search)
    (ended : SearchEnd) (last : Search F)
    (looped : map.searchLoop top ex ez remaining search = (ended, last)) :
    map.Explored start last ∧ OnMap (traceFrom ended last ex ez) ∧
      last.Touched start (traceFrom ended last ex ez) := by
  obtain ⟨_, s, holds, ends⟩ := searchLoop_ends (fun _ s => map.Explored start s)
    (fun _ _ _ _ holds popped _ _ => holds.expanded arith heap popped)
    (fun _ _ _ _ holds popped _ => (holds.popped heap popped).1) remaining search explored
  rcases ends with ⟨curr, rest, popped, atX, atZ, found⟩ | ⟨-, -, capped⟩ | ⟨-, empty⟩
  · obtain ⟨rfl, rfl⟩ := Prod.mk.inj (looped.symm.trans found)
    obtain ⟨remains, onMap, touched⟩ := holds.popped heap popped
    have goal : traceFrom .found { s with openSet := rest, bestX := curr.x, bestZ := curr.z }
        ex ez = (curr.x, curr.z) := by rw [traceFrom, if_pos rfl, atX, atZ]
    rw [goal]
    exact ⟨⟨remains.clean, remains.queued, remains.linked, onMap, touched⟩, onMap, touched⟩
  · obtain ⟨rfl, rfl⟩ := Prod.mk.inj (looped.symm.trans capped)
    exact ⟨holds, holds.best⟩
  · obtain ⟨rfl, rfl⟩ := Prod.mk.inj (looped.symm.trans empty)
    exact ⟨holds, holds.best⟩

/-- The waypoints lead from one tile to another by legal moves. -/
def Route (map : GridMap F) (a b : Tile) (waypoints : List (GridVector2 F)) : Prop :=
  ∃ tiles : List Tile, waypoints = tiles.map waypoint ∧ tiles.IsChain map.Move ∧
    tiles.head? = some a ∧ tiles.getLast? = some b

theorem Route.single (t : Tile) : map.Route t t [waypoint t] :=
  ⟨[t], rfl, by simp, rfl, rfl⟩

theorem Route.snoc {a b c : Tile} {waypoints : List (GridVector2 F)}
    (route : map.Route a b waypoints) (move : map.Move b c) :
    map.Route a c (waypoints ++ [waypoint c]) := by
  obtain ⟨tiles, rfl, chain, starts, ends⟩ := route
  refine ⟨tiles ++ [c], by simp, ?_, by simp [starts], by simp⟩
  refine chain.append (List.isChain_singleton c) fun x last y first => ?_
  obtain rfl := Option.some.inj (ends.symm.trans last)
  obtain rfl : c = y := by simpa using first
  exact move

theorem tracePath_route (explored : map.Explored start search) (fuel : Nat) (t : Tile)
    (onMap : OnMap t) (touched : search.Touched start t)
    (suffix path : List (GridVector2 F))
    (traced : tracePath search.scratch.parent fuel t.1 t.2 suffix = some path) :
    ∃ route, map.Route start t route ∧ path = route ++ suffix := by
  induction fuel generalizing t suffix with
  | zero => cases traced
  | succ fuel ih =>
      rw [tracePath, if_neg (by unfold OnMap at onMap; omega)] at traced
      by_cases home : search.scratch.parent (index t) = (-1, -1)
      next =>
        -- Only the start was never linked to another tile.
        obtain rfl : t = start := touched.resolve_right (absurd home)
        dsimp only at traced
        rw [show search.scratch.parent (t.1 * height + t.2) = (-1, -1) from home] at traced
        cases fuel with
        | zero => cases traced
        | succ fuel =>
            obtain rfl := Option.some.inj traced
            exact ⟨_, .single t, rfl⟩
      next =>
        obtain ⟨before, came, move⟩ := explored.linked t onMap home
        obtain ⟨route, back, rfl⟩ := ih _ before came _ traced
        exact ⟨_, back.snoc move, by simp [waypoint]⟩

end

theorem relax_congr (same : m.grid = map.grid) : m.relax = map.relax := by
  funext ex ez curr search offset
  unfold relax
  rw [isWalkable_congr same]

theorem searchLoop_congr (same : m.grid = map.grid) (top : OpenSet F) (ex ez : Int)
    (remaining : Nat) (search : Search F) :
    m.searchLoop top ex ez remaining search = map.searchLoop top ex ez remaining search := by
  have expand_congr : m.expand = map.expand := by
    funext ex ez curr search
    unfold expand
    rw [relax_congr same]
  induction remaining generalizing search with
  | zero =>
      rw [searchLoop.eq_def, searchLoop.eq_def]
      dsimp only
      cases top search.openSet <;> rfl
  | succ remaining ih =>
      rw [searchLoop.eq_def, searchLoop.eq_def]
      dsimp only
      cases top search.openSet with
      | none => rfl
      | some popped => simp only [expand_congr, ih]

-- One call of `FindPath`, with the choices its priority queue makes.
structure PathQuery (F : Type) where
  top : OpenSet F
  startX : F
  startZ : F
  endX : F
  endZ : F
  maxIterations : Nat

namespace PathQuery

variable (query : PathQuery F)

def start : Tile := (tileX query.startX, tileZ query.startZ)

def goal : Tile := (tileX query.endX, tileZ query.endZ)

def key : PathCacheKey := cacheKey query.startX query.startZ query.endX query.endZ

def answer (map : GridMap F) : Option (PathResult F × GridMap F) :=
  map.findPath query.top query.startX query.startZ query.endX query.endZ query.maxIterations

end PathQuery

def call (query : PathQuery F) (map : GridMap F) : Option (GridMap F) :=
  (query.answer map).map (·.2)

-- What one call returns and stores: its own route, or the one stored for its buckets.
theorem answer_route (arith : ExactTiles F) (query : PathQuery F) (heap : IsHeap query.top)
    (clean : Clean map.scratch) (result : PathResult F)
    (answered : query.answer map = some (result, m)) :
    m.grid = map.grid ∧ Clean m.scratch ∧
      (∀ entry ∈ m.pathCache, entry ∈ map.pathCache ∨
        entry.1 = query.key ∧ map.Route query.start query.goal entry.2) := by
  have finds := map.findPath_finds _ _ _ _ _ _ result answered
  have keeps := map.findPath_keeps _ _ _ _ _ _ result answered
  refine ⟨keeps.1, ?_⟩
  cases finds with
  | here => exact ⟨clean, fun entry member => .inl member⟩
  | unwalkable => exact ⟨clean, fun entry member => .inl member⟩
  | hit => exact ⟨clean, fun entry member => .inl member⟩
  | stuck apart walkable miss ended search looped unmoved =>
      obtain ⟨explored, -⟩ := searchLoop_explored arith heap _ _
        (startSearch_explored clean (onMap_tile query.startX query.startZ)) ended search looped
      exact ⟨explored.clean, fun entry member => .inl member⟩
  | traced apart walkable miss ended search looped moved waypoints path =>
      obtain ⟨explored, onMap, touched⟩ := searchLoop_explored arith heap _ _
        (startSearch_explored clean (onMap_tile query.startX query.startZ)) ended search looped
      split
      next stored =>
        refine ⟨explored.clean, fun entry member => ?_⟩
        rcases List.mem_cons.mp member with rfl | old
        · obtain ⟨route, leads, rfl⟩ :=
            tracePath_route explored _ _ onMap touched [] waypoints path
          rw [traceFrom, if_pos stored.1] at leads
          rw [List.append_nil]
          exact .inr ⟨rfl, leads⟩
        · have among := (List.mem_filter.mp old).1
          split at among
          next => cases among
          next => exact .inl among
      next => exact ⟨explored.clean, fun entry member => .inl member⟩

theorem answer_uncached (query : PathQuery F) (same : m.grid = map.grid) (clean : Clean map.scratch)
    (clean' : Clean m.scratch) (miss : map.cached query.key = none)
    (miss' : m.cached query.key = none) :
    (query.answer m).map (·.1) = (query.answer map).map (·.1) := by
  unfold PathQuery.answer findPath
  dsimp only
  rw [isWalkable_congr same]
  split
  next => rfl
  next =>
    split
    next => rfl
    next =>
      unfold cached PathQuery.key cacheKey at miss miss'
      rw [miss, miss', clean.reset, clean'.reset, searchLoop_congr same]
      generalize map.searchLoop _ _ _ _ _ = outcome
      obtain ⟨ended, search⟩ := outcome
      dsimp only
      generalize tracePath (F := F) _ _ _ _ _ = traced
      cases traced <;> split <;> split <;> rfl

theorem uncached_route (arith : ExactTiles F) (query : PathQuery F) (heap : IsHeap query.top)
    (clean : Clean map.scratch) (miss : map.cached query.key = none) (result : PathResult F)
    (answered : query.answer map = some (result, m))
    (reaches : result.waypoints.getLast? = some (waypoint query.goal)) :
    map.Route query.start query.goal result.waypoints := by
  cases map.findPath_finds _ _ _ _ _ _ result answered with
  | here sameX sameZ =>
      have home : query.start = query.goal := Prod.ext sameX sameZ
      rw [home]
      exact .single _
  | unwalkable => cases reaches
  | stuck => cases reaches
  | hit _ _ waypoints stored => cases miss.symm.trans stored
  | traced apart walkable miss ended search looped moved waypoints path =>
      obtain ⟨explored, onMap, touched⟩ := searchLoop_explored arith heap _ _
        (startSearch_explored clean (onMap_tile query.startX query.startZ)) ended search looped
      obtain ⟨route, leads, rfl⟩ := tracePath_route explored _ _ onMap touched [] waypoints path
      rw [List.append_nil] at reaches ⊢
      obtain ⟨tiles, rfl, chain, starts, ends⟩ := leads
      rw [List.getLast?_map, ends] at reaches
      have last := arith.whole _ _ onMap (onMap_tile query.endX query.endZ)
        (Option.some.inj reaches)
      rw [last] at ends
      exact ⟨tiles, rfl, chain, starts, ends⟩

omit [Scalar F] in
theorem mem_of_cached {key : PathCacheKey} {waypoints : List (GridVector2 F)}
    (stored : map.cached key = some waypoints) : (key, waypoints) ∈ map.pathCache := by
  unfold cached cacheLookup at stored
  obtain ⟨found, -⟩ := Option.filter_eq_some_iff.mp stored
  obtain ⟨entry, among, rfl⟩ := Option.map_eq_some_iff.mp found
  have same : entry.1 = key := by simpa using List.find?_some among
  rw [← same]
  exact List.mem_of_find?_eq_some among

-- The paths stored by a history of calls are routes of those calls.
structure Recorded (blank : GridMap F) (past : List (Runs.Transition (GridMap F) (PathQuery F)))
    (map : GridMap F) : Prop where
  grid : map.grid = blank.grid
  clean : Clean map.scratch
  cached : ∀ entry ∈ map.pathCache, ∃ t ∈ past, t.event.key = entry.1 ∧
    blank.Route t.event.start t.event.goal entry.2

omit [Scalar F] in
theorem Move.congr (same : m.grid = map.grid) : m.Move = map.Move := by
  funext a b
  refine propext ⟨fun move => ?_, fun move => ?_⟩
  · obtain ⟨apart, near, walkable, corner⟩ := move
    rw [isWalkable_congr same] at walkable corner
    exact ⟨apart, near, walkable, corner⟩
  · obtain ⟨apart, near, walkable, corner⟩ := move
    rw [← isWalkable_congr same] at walkable corner
    exact ⟨apart, near, walkable, corner⟩

theorem Route.congr (same : m.grid = map.grid) : m.Route = map.Route := by
  funext a b waypoints
  unfold Route
  rw [Move.congr same]

theorem history_recorded (arith : ExactTiles F) (blank last : GridMap F)
    (past : List (Runs.Transition (GridMap F) (PathQuery F)))
    (uncached : blank.pathCache = []) (fresh : blank.scratch = freshScratch)
    (history : Runs.Run call blank past last)
    (heaps : Runs.Guarded (fun _ query => IsHeap query.top) past) :
    Recorded blank past last := by
  refine history.history ⟨rfl, ?_, ?_⟩ ?_ heaps
  · rw [fresh]
    exact fun _ _ => ⟨rfl, rfl⟩
  · rw [uncached]
    exact fun _ member => by cases member
  · intro past map query next _ recorded heap called
    obtain ⟨⟨result, next'⟩, answered, rfl⟩ := Option.map_eq_some_iff.mp called
    obtain ⟨grid, clean, stored⟩ := answer_route arith query heap recorded.clean result answered
    refine ⟨grid.trans recorded.grid, clean, fun entry member => ?_⟩
    rcases stored entry member with old | ⟨same, leads⟩
    · obtain ⟨t, among, same, leads⟩ := recorded.cached entry old
      exact ⟨t, List.mem_cons_of_mem _ among, same, leads⟩
    · refine ⟨⟨map, query, next'⟩, List.mem_cons_self, same.symm, ?_⟩
      rw [← Route.congr recorded.grid]
      exact leads

/-- Whenever a search on the empty cache leads to the goal, the call after a history of calls also
returns a legal route: that of the query itself when its buckets hold no path, and otherwise that
of the query itself or of an earlier query with the same buckets. -/
theorem cached_route (arith : ExactTiles F) (blank last : GridMap F)
    (past : List (Runs.Transition (GridMap F) (PathQuery F)))
    (uncached : blank.pathCache = []) (fresh : blank.scratch = freshScratch)
    (history : Runs.Run call blank past last)
    (heaps : Runs.Guarded (fun _ query => IsHeap query.top) past)
    (query : PathQuery F) (heap : IsHeap query.top) (direct : PathResult F) (searched : GridMap F)
    (answered : query.answer blank = some (direct, searched))
    (reaches : direct.waypoints.getLast? = some (waypoint query.goal)) :
    ∃ result next served, query.answer last = some (result, next) ∧
      blank.Route served.start served.goal result.waypoints ∧ served.key = query.key ∧
      (served = query ∨ last.cached query.key ≠ none ∧ ∃ t ∈ past, t.event = served) := by
  have recorded := history_recorded arith blank last past uncached fresh history heaps
  have clean : Clean blank.scratch := by
    rw [fresh]
    exact fun _ _ => ⟨rfl, rfl⟩
  have empty : blank.cached query.key = none := by
    unfold cached cacheLookup
    rw [uncached]
    rfl
  have leads := uncached_route arith query heap clean empty direct answered reaches
  cases stored : last.cached query.key with
  | none =>
      have same := answer_uncached query recorded.grid clean recorded.clean empty stored
      rw [answered, Option.map_some, Option.map_eq_some_iff] at same
      obtain ⟨⟨result, next⟩, found, rfl⟩ := same
      exact ⟨result, next, query, found, leads, rfl, .inl rfl⟩
  | some waypoints =>
      have walkable : last.isWalkable (tileX query.endX) (tileZ query.endZ) =
          blank.isWalkable (tileX query.endX) (tileZ query.endZ) := by
        rw [isWalkable_congr recorded.grid]
      cases blank.findPath_finds _ _ _ _ _ _ direct answered with
      | here sameX sameZ =>
          refine ⟨⟨[waypoint query.goal], false, false⟩, last, query, ?_, leads, rfl, .inl rfl⟩
          unfold PathQuery.answer findPath
          dsimp only
          rw [if_pos ⟨sameX, sameZ⟩]
          rfl
      | unwalkable => cases reaches
      | stuck => cases reaches
      | hit _ _ _ old => cases empty.symm.trans old
      | traced apart free =>
          obtain ⟨t, among, same, route⟩ := recorded.cached _ (mem_of_cached stored)
          refine ⟨⟨waypoints, false, false⟩, last, t.event, ?_, route, same,
            .inr ⟨by simp, t, among, rfl⟩⟩
          have stored' := stored
          unfold cached PathQuery.key cacheKey at stored'
          unfold PathQuery.answer findPath
          dsimp only
          rw [if_neg apart, walkable, free, stored']
          rfl

theorem leastFirst_heap (trans : ∀ a b c : F, lt b a = false → lt c b = false → lt c a = false)
    (asymm : ∀ a b : F, lt a b = true → lt b a = false) : IsHeap (leastFirst (F := F)) := by
  have pops (nodes : List (AStarNode F)) (filled : nodes ≠ []) : (leastFirst nodes).isSome := by
    cases nodes with
    | nil => exact absurd rfl filled
    | cons node rest =>
        rw [leastFirst]
        split
        next => rfl
        next => split <;> rfl
  have none_empty (nodes : List (AStarNode F)) (out : leastFirst nodes = none) : nodes = [] := by
    by_contra filled
    have some := pops nodes filled
    rw [out] at some
    cases some
  have perm (nodes : List (AStarNode F)) (node : AStarNode F) (rest : List (AStarNode F))
      (popped : leastFirst nodes = some (node, rest)) : nodes.Perm (node :: rest) := by
    induction nodes generalizing node rest with
    | nil => cases popped
    | cons first others ih =>
        rw [leastFirst] at popped
        split at popped
        next out =>
          obtain ⟨rfl, rfl⟩ := by simpa using popped
          rw [none_empty others out]
        next best left inner =>
          split at popped
          next =>
            obtain ⟨rfl, rfl⟩ := by simpa using popped
            exact ((ih _ _ inner).cons first).trans (List.Perm.swap _ _ _)
          next =>
            obtain ⟨rfl, rfl⟩ := by simpa using popped
            exact .refl _
  refine ⟨rfl, pops, perm, fun nodes => ?_⟩
  induction nodes with
  | nil => simp [leastFirst]
  | cons first others ih =>
      intro node rest popped other member
      rw [leastFirst] at popped
      split at popped
      next out =>
        obtain ⟨rfl, rfl⟩ := by simpa using popped
        cases member
      next best left inner =>
        split at popped
        next less =>
          obtain ⟨rfl, rfl⟩ := by simpa using popped
          rcases List.mem_cons.mp member with rfl | among
          · exact asymm _ _ less
          · exact ih _ _ inner other among
        next more =>
          obtain ⟨rfl, rfl⟩ := by simpa using popped
          have lower : lt best.f first.f = false := Bool.eq_false_iff.mpr more
          rcases List.mem_cons.mp ((perm _ _ _ inner).mem_iff.mp member) with rfl | among
          · exact lower
          · exact trans _ _ _ lower (ih _ _ inner other among)

theorem leastFirst_heap_real : IsHeap (leastFirst (F := ℝ)) := by
  refine leastFirst_heap (fun a b c => ?_) fun a b => ?_
  · simp only [← Bool.not_eq_true, lt_real]
    intro low middle high
    linarith
  · simp only [← Bool.not_eq_true, lt_real]
    exact lt_asymm

theorem leastFirst_heap_rat : IsHeap (leastFirst (F := ℚ)) := by
  have lt_rat (a b : ℚ) : lt a b = true ↔ a < b := decide_eq_true_iff
  refine leastFirst_heap (fun a b c => ?_) fun a b => ?_
  · simp only [← Bool.not_eq_true, lt_rat]
    intro low middle high
    linarith
  · simp only [← Bool.not_eq_true, lt_rat]
    exact lt_asymm

theorem exactTiles_real : ExactTiles ℝ := by
  have ofInt_real (n : Int) : (ofInt n : ℝ) = n := by simp [ofInt]
  refine ⟨by simp, fun s t _ _ same => ?_⟩
  obtain ⟨alongX, alongZ⟩ := GridVector2.mk.inj same
  rw [ofInt_real, ofInt_real] at alongX alongZ
  exact Prod.ext (by exact_mod_cast alongX) (by exact_mod_cast alongZ)

theorem exactTiles_rat : ExactTiles ℚ := by
  have ofInt_rat (n : Int) : (ofInt n : ℚ) = n := rfl
  refine ⟨by decide +kernel, fun s t _ _ same => ?_⟩
  obtain ⟨alongX, alongZ⟩ := GridVector2.mk.inj same
  rw [ofInt_rat, ofInt_rat] at alongX alongZ
  exact Prod.ext (by exact_mod_cast alongX) (by exact_mod_cast alongZ)

def meadow : GridMap ℚ := empty

def shortWalk : PathQuery ℚ := ⟨leastFirst, 7, 0, 8, 0, 10000⟩

-- The buckets are those of the short walk.
def longWalk : PathQuery ℚ := ⟨leastFirst, 6, 0, 9, 0, 10000⟩

theorem shortWalk_stored : ∃ last, Runs.Run call meadow [⟨meadow, shortWalk, last⟩] last ∧
    (longWalk.answer last).any (fun answered =>
      answered.1.waypoints = [⟨7, 0⟩, ⟨8, 0⟩]) = true := by
  have called : (call shortWalk meadow).any (fun last =>
      (longWalk.answer last).any fun answered => answered.1.waypoints = [⟨7, 0⟩, ⟨8, 0⟩]) = true := by
    decide +kernel
  obtain ⟨last, called, cached⟩ := (Option.any_eq_true _ _).mp called
  exact ⟨last, .next .rest called, cached⟩

theorem longWalk_direct : ∃ direct searched, longWalk.answer meadow = some (direct, searched) ∧
    direct.waypoints.getLast? = some (waypoint longWalk.goal) := by
  have answered : (longWalk.answer meadow).any (fun answered =>
      answered.1.waypoints.getLast? = some (waypoint longWalk.goal)) = true := by
    decide +kernel
  obtain ⟨⟨direct, searched⟩, answered, reaches⟩ := (Option.any_eq_true _ _).mp answered
  exact ⟨direct, searched, answered, of_decide_eq_true reaches⟩

theorem shortWalk_heaps (last : GridMap ℚ) : Runs.Guarded
    (fun (_ : GridMap ℚ) (query : PathQuery ℚ) => IsHeap query.top)
    [⟨meadow, shortWalk, last⟩] := by
  intro t member
  obtain rfl := List.mem_singleton.mp member
  exact leastFirst_heap_rat

theorem cached_route_longWalk : ∃ past last, Runs.Run call meadow past last ∧
    ∃ result next served, longWalk.answer last = some (result, next) ∧
      meadow.Route served.start served.goal result.waypoints ∧ served.key = longWalk.key ∧
      (served = longWalk ∨ last.cached longWalk.key ≠ none ∧ ∃ t ∈ past, t.event = served) := by
  obtain ⟨last, history, -⟩ := shortWalk_stored
  obtain ⟨direct, searched, answered, reaches⟩ := longWalk_direct
  exact ⟨_, last, history, cached_route exactTiles_rat meadow last _ rfl rfl history
    (shortWalk_heaps last) longWalk leastFirst_heap_rat direct searched answered reaches⟩

theorem cached_path_elsewhere : ∃ past last, Runs.Run call meadow past last ∧
    Runs.Guarded (fun _ query => IsHeap query.top) past ∧
    (∃ direct searched, longWalk.answer meadow = some (direct, searched) ∧
      direct.waypoints.getLast? = some (waypoint longWalk.goal)) ∧
    ∃ result next, longWalk.answer last = some (result, next) ∧
      result.waypoints.head? ≠ some (waypoint longWalk.start) ∧
      result.waypoints.getLast? ≠ some (waypoint longWalk.goal) := by
  obtain ⟨last, history, stored⟩ := shortWalk_stored
  obtain ⟨⟨result, next⟩, answered, path⟩ := (Option.any_eq_true _ _).mp stored
  have waypoints : result.waypoints = [⟨7, 0⟩, ⟨8, 0⟩] := of_decide_eq_true path
  refine ⟨_, last, history, shortWalk_heaps last, longWalk_direct, result, next, answered, ?_, ?_⟩
  · rw [waypoints]
    decide +kernel
  · rw [waypoints]
    decide +kernel

end MundusVivens.GridMap
