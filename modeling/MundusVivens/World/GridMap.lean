import MundusVivens.World.Components

set_option autoImplicit false

/-!
# The grid map

Walkable tiles, the line of sight and the path search with its cluster cache.
`thread_local` search arrays and the `mutable` cache are carried along as state.
-/

namespace MundusVivens

open Scalar

-- `for (int i = low; i <= high; ++i)`.
def intRange (low high : Int) : List Int :=
  (List.range (high - low + 1).toNat).map fun (i : Nat) => low + i

theorem mem_intRange {low high i : Int} : i ∈ intRange low high ↔ low ≤ i ∧ i ≤ high := by
  unfold intRange
  rw [List.mem_map]
  constructor
  · rintro ⟨n, inside, rfl⟩
    rw [List.mem_range] at inside
    omega
  · intro between
    exact ⟨(i - low).toNat, List.mem_range.mpr (by omega), by omega⟩

-- `std::clamp` on integers.
def clampInt (n low high : Int) : Int := max low (min n high)

theorem clampInt_self {n low high : Int} (above : low ≤ n) (below : n ≤ high) :
    clampInt n low high = n := by
  unfold clampInt
  omega

structure LocationData (F : Type) where
  name : String
  x : F
  y : F
  z : F
  type : UInt8
  regionId : UInt32
  territoryId : UInt32

structure Obstacle where
  minX : Int
  minZ : Int
  maxX : Int
  maxZ : Int

structure PathCacheKey where
  sxBucket : Int
  szBucket : Int
  exBucket : Int
  ezBucket : Int
deriving DecidableEq

structure PathResult (F : Type) where
  waypoints : List (GridVector2 F)
  isPartial : Bool
  isFailed : Bool

structure AStarNode (F : Type) where
  x : Int
  z : Int
  g : F
  f : F

-- The arrays a search leaves behind for the next one.
structure SearchScratch (F : Type) where
  gScore : Int → F
  parent : Int → Int × Int
  visitedNodes : List Int

structure GridMap (F : Type) where
  grid : Int → Bool
  locationCoords : String → Option (GridVector2 F)
  pathCache : List (PathCacheKey × List (GridVector2 F))
  scratch : SearchScratch F

-- `std::priority_queue` leaves open which of several equal minima is on top.
abbrev OpenSet (F : Type) := List (AStarNode F) → Option (AStarNode F × List (AStarNode F))

namespace GridMap

def width : Int := 2000
def height : Int := 2000

variable {F : Type} [Scalar F]

def empty : GridMap F :=
  { grid := fun _ => true
    locationCoords := fun _ => none
    pathCache := []
    scratch := ⟨fun _ => lit 1000000000, fun _ => (-1, -1), []⟩ }

def blockTile (grid : Int → Bool) (x z : Int) : Int → Bool :=
  Function.update grid (x * height + z) false

def blockRectangle (grid : Int → Bool) (obstacle : Obstacle) : Int → Bool :=
  let minX := clampInt obstacle.minX 0 (width - 1)
  let maxX := clampInt obstacle.maxX 0 (width - 1)
  let minZ := clampInt obstacle.minZ 0 (height - 1)
  let maxZ := clampInt obstacle.maxZ 0 (height - 1)
  (intRange minX maxX).foldl
    (fun grid x => (intRange minZ maxZ).foldl (fun grid z => blockTile grid x z) grid) grid

-- `obstacles` is the content of the collision file, when there is one.
def loadMap (locations : List (LocationData F)) (obstacles : Option (List Obstacle)) : GridMap F :=
  let coords : String → Option (GridVector2 F) := locations.foldl
    (fun coords loc => Function.update coords loc.name (some ⟨loc.x, loc.z⟩)) fun _ => none
  let grid :=
    match obstacles with
    | none => (intRange 30 70).foldl (fun grid z => blockTile grid 45 z) fun _ => true
    | some obstacles => obstacles.foldl blockRectangle fun _ => true
  { empty with grid := grid, locationCoords := coords }

def isWalkable (map : GridMap F) (x z : Int) : Bool :=
  if x < 0 ∨ width ≤ x ∨ z < 0 ∨ height ≤ z then false else map.grid (x * height + z)

-- The tile of a point: rounded, then clamped to the map.
def tileX (x : F) : Int := clampInt (round x) 0 (width - 1)
def tileZ (z : F) : Int := clampInt (round z) 0 (height - 1)

-- The loop of `IsPathBlocked` from the tile `(cx, cz)`; no result when the fuel runs out.
def lineBlocked (map : GridMap F) (ix2 iz2 dx dy sx sy : Int) :
    Nat → Int → Int → Int → Option Bool
  | 0, _, _, _ => none
  | fuel + 1, cx, cz, err =>
      if !map.isWalkable cx cz then some true
      else if cx = ix2 ∧ cz = iz2 then some false
      else
        let e2 := 2 * err
        let (err, cx) := if -dy < e2 then (err - dy, cx + sx) else (err, cx)
        let (err, cz) := if e2 < dx then (err + dx, cz + sy) else (err, cz)
        lineBlocked map ix2 iz2 dx dy sx sy fuel cx cz err

def isPathBlocked (map : GridMap F) (x1 z1 x2 z2 : F) : Option Bool :=
  let ix1 := tileX x1
  let iz1 := tileZ z1
  let ix2 := tileX x2
  let iz2 := tileZ z2
  let dx := |ix2 - ix1|
  let dy := |iz2 - iz1|
  let sx := if ix1 < ix2 then 1 else -1
  let sy := if iz1 < iz2 then 1 else -1
  lineBlocked map ix2 iz2 dx dy sx sy ((max dx dy).toNat + 1) ix1 iz1 (dx - dy)

def heuristic (x1 z1 x2 z2 : Int) : F :=
  let dx := |x1 - x2|
  let dz := |z1 - z2|
  ofInt (dx + dz) + (lit 1.41421356 - lit 2) * ofInt (min dx dz)

-- The eight neighbour offsets with their costs; the last four are diagonal.
def offsets : List (Int × Int × F) :=
  [(-1, 0, lit 1), (1, 0, lit 1), (0, -1, lit 1), (0, 1, lit 1),
    (-1, -1, lit 1.41421356), (-1, 1, lit 1.41421356),
    (1, -1, lit 1.41421356), (1, 1, lit 1.41421356)]

structure Search (F : Type) where
  scratch : SearchScratch F
  openSet : List (AStarNode F)
  bestX : Int
  bestZ : Int
  bestH : F

def relax (map : GridMap F) (ex ez : Int) (curr : AStarNode F) (search : Search F)
    (offset : Int × Int × F) : Search F :=
  let (dx, dz, cost) := offset
  let nx := curr.x + dx
  let nz := curr.z + dz
  if !map.isWalkable nx nz then search
  else if dx ≠ 0 ∧ dz ≠ 0 ∧ (!map.isWalkable nx curr.z || !map.isWalkable curr.x nz) then search
  else
    let tentativeG := curr.g + cost
    let nIdx := nx * height + nz
    let scratch := search.scratch
    if lt tentativeG (scratch.gScore nIdx) then
      let visited :=
        if le (lit 1000000000) (scratch.gScore nIdx) then scratch.visitedNodes ++ [nIdx]
        else scratch.visitedNodes
      { search with
        scratch :=
          { gScore := Function.update scratch.gScore nIdx tentativeG
            parent := Function.update scratch.parent nIdx (curr.x, curr.z)
            visitedNodes := visited }
        openSet := search.openSet ++ [⟨nx, nz, tentativeG, tentativeG + heuristic nx nz ex ez⟩] }
    else search

-- The body of the main loop for a node that is neither the goal nor outdated.
def expand (map : GridMap F) (ex ez : Int) (curr : AStarNode F) (search : Search F) : Search F :=
  let currH := heuristic curr.x curr.z ex ez
  let search :=
    if lt currH search.bestH then { search with bestH := currH, bestX := curr.x, bestZ := curr.z }
    else search
  offsets.foldl (relax map ex ez curr) search

inductive SearchEnd where
  | found
  | hitCap
  | exhausted
deriving DecidableEq

-- The main loop with the iterations that remain before the cap.
def searchLoop (map : GridMap F) (top : OpenSet F) (ex ez : Int) :
    Nat → Search F → SearchEnd × Search F
  | remaining, search =>
      match top search.openSet, remaining with
      | none, _ => (.exhausted, search)
      | some _, 0 => (.hitCap, search)
      | some (curr, rest), remaining + 1 =>
          let search := { search with openSet := rest }
          if curr.x = ex ∧ curr.z = ez then
            (.found, { search with bestX := curr.x, bestZ := curr.z })
          else if lt (search.scratch.gScore (curr.x * height + curr.z)) curr.g then
            searchLoop map top ex ez remaining search
          else searchLoop map top ex ez remaining (expand map ex ez curr search)

-- Follow the parents back from a tile; no result when the fuel runs out.
def tracePath (parent : Int → Int × Int) :
    Nat → Int → Int → List (GridVector2 F) → Option (List (GridVector2 F))
  | 0, _, _, _ => none
  | fuel + 1, cx, cz, path =>
      if cx = -1 ∨ cz = -1 then some path
      else
        let p := parent (cx * height + cz)
        tracePath parent fuel p.1 p.2 (⟨ofInt cx, ofInt cz⟩ :: path)

-- Reset the entries the previous search wrote.
def SearchScratch.reset (scratch : SearchScratch F) : SearchScratch F :=
  scratch.visitedNodes.foldl
    (fun scratch idx =>
      { scratch with
        gScore := Function.update scratch.gScore idx (lit 1000000000)
        parent := Function.update scratch.parent idx (-1, -1) })
    { scratch with visitedNodes := [] }

def cacheLookup (map : GridMap F) (key : PathCacheKey) : Option (List (GridVector2 F)) :=
  (map.pathCache.find? fun entry => entry.1 = key).map (·.2)

-- Keep the cache below its bound, then store the path.
def cacheStore (map : GridMap F) (key : PathCacheKey) (waypoints : List (GridVector2 F)) :
    List (PathCacheKey × List (GridVector2 F)) :=
  let cache := if 500 < map.pathCache.length then [] else map.pathCache
  (key, waypoints) :: cache.filter fun entry => entry.1 ≠ key

def defaultIterations : Nat := 10000

def findPath (map : GridMap F) (top : OpenSet F) (startX startZ endX endZ : F)
    (maxIterations : Nat) : Option (PathResult F × GridMap F) :=
  let sx := tileX startX
  let sz := tileZ startZ
  let ex := tileX endX
  let ez := tileZ endZ
  if sx = ex ∧ sz = ez then some (⟨[⟨ofInt ex, ofInt ez⟩], false, false⟩, map)
  else if !map.isWalkable ex ez then some (⟨[], false, true⟩, map)
  else
    let key : PathCacheKey := ⟨sx / 8, sz / 8, ex / 8, ez / 8⟩
    match (map.cacheLookup key).filter fun waypoints => !waypoints.isEmpty with
    | some waypoints => some (⟨waypoints, false, false⟩, map)
    | none =>
        let cleared := SearchScratch.reset map.scratch
        let sIdx := sx * height + sz
        let hStart : F := heuristic sx sz ex ez
        let scratch : SearchScratch F :=
          { cleared with
            gScore := Function.update cleared.gScore sIdx zero
            visitedNodes := cleared.visitedNodes ++ [sIdx] }
        let start : Search F := ⟨scratch, [⟨sx, sz, zero, hStart⟩], sx, sz, hStart⟩
        let (ended, search) := searchLoop map top ex ez maxIterations start
        let searched := { map with scratch := search.scratch }
        let traceX := if ended = .found then ex else search.bestX
        let traceZ := if ended = .found then ez else search.bestZ
        if traceX = sx ∧ traceZ = sz then some (⟨[], false, true⟩, searched)
        else do
          let waypoints ← tracePath search.scratch.parent (width * height).toNat.succ traceX traceZ []
          let stored :=
            if ended = .found ∧ !waypoints.isEmpty then
              { searched with pathCache := map.cacheStore key waypoints }
            else searched
          some (⟨waypoints, decide (ended = .hitCap), false⟩, stored)

end GridMap

end MundusVivens
