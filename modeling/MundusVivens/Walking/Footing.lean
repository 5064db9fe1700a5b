import MundusVivens.Walking.Arrivals

set_option autoImplicit false

/-!
# Footing

An NPC turns to the next waypoint before it quite reaches the last one, so it walks beside the
line of its waypoints. It never leaves the tiles that the path search has checked.
-/

namespace MundusVivens

open Scalar Runs GridMap

-- A way to find the tile of a coordinate, on the side of a map of this size.
structure Rounding (size : Int) (cell : ℝ → Int) : Prop where
  mono : Monotone cell
  near : ∀ (n : Int) (x : ℝ), 0 ≤ n → n < size → |x - n| < 1 / 2 → cell x = n

theorem round_rounding (size : Int) : Rounding size (Scalar.round : ℝ → Int) :=
  ⟨round_real_mono, fun _ _ _ _ near => round_real_near near⟩

theorem clamp_rounding (size : Int) :
    Rounding size fun x : ℝ => clampInt (Scalar.round x) 0 (size - 1) := by
  refine ⟨fun x y le => ?_, fun n x low high near => ?_⟩
  · have rounded : (Scalar.round x : Int) ≤ Scalar.round y := round_real_mono le
    unfold clampInt
    omega
  · rw [round_real_near near]
    unfold clampInt
    omega

def Beside (u v : Int) (x : ℝ) : Prop := min (u : ℝ) v - 1 / 10 < x ∧ x < max (u : ℝ) v + 1 / 10

theorem Beside.of_near {u : Int} {x : ℝ} (v : Int) (near : |x - u| < 1 / 10) : Beside u v x := by
  obtain ⟨above, below⟩ := abs_lt.mp near
  have low := min_le_left (u : ℝ) v
  have high := le_max_left (u : ℝ) v
  constructor <;> linarith

theorem between_min_max (x y : ℝ) {s : ℝ} (low : 0 ≤ s) (high : s ≤ 1) :
    min x y ≤ x + s * (y - x) ∧ x + s * (y - x) ≤ max x y := by
  rcases le_total x y with le | le
  · rw [min_eq_left le, max_eq_right le]
    constructor <;> nlinarith
  · rw [min_eq_right le, max_eq_left le]
    constructor <;> nlinarith

theorem Beside.onward {u v : Int} {x s : ℝ} (beside : Beside u v x) (low : 0 ≤ s) (high : s ≤ 1) :
    Beside u v (x + s * (v - x)) := by
  obtain ⟨above, below⟩ := beside
  obtain ⟨more, less⟩ := between_min_max x v low high
  have end_low : min (u : ℝ) v - 1 / 10 < v := by linarith [min_le_right (u : ℝ) v]
  have end_high : (v : ℝ) < max (u : ℝ) v + 1 / 10 := by linarith [le_max_right (u : ℝ) v]
  exact ⟨(lt_min above end_low).trans_le more, less.trans_lt (max_lt below end_high)⟩

section

variable {size : Int} {cell : ℝ → Int} {u v : Int}

theorem Rounding.whole (rounding : Rounding size cell) (low : 0 ≤ u) (high : u < size) :
    cell u = u :=
  rounding.near u u low high (by norm_num)

-- Beside a step a coordinate belongs to one of its ends.
theorem Rounding.beside (rounding : Rounding size cell) (lowU : 0 ≤ u) (highU : u < size)
    (lowV : 0 ≤ v) (highV : v < size) (step : |v - u| ≤ 1) {x : ℝ} (beside : Beside u v x) :
    cell x = u ∨ cell x = v := by
  obtain ⟨above, below⟩ := beside
  rw [← Int.cast_min] at above
  rw [← Int.cast_max] at below
  have least : min u v ≤ cell x := by
    by_cases inside : ((min u v : Int) : ℝ) ≤ x
    next =>
      rw [← rounding.whole (u := min u v) (by omega) (by omega)]
      exact rounding.mono inside
    next => exact (rounding.near _ x (by omega) (by omega) (by rw [abs_lt]; constructor <;> linarith)).ge
  have most : cell x ≤ max u v := by
    by_cases inside : x ≤ ((max u v : Int) : ℝ)
    next =>
      rw [← rounding.whole (u := max u v) (by omega) (by omega)]
      exact rounding.mono inside
    next => exact (rounding.near _ x (by omega) (by omega) (by rw [abs_lt]; constructor <;> linarith)).le
  rw [abs_le] at step
  omega

theorem Rounding.onward (rounding : Rounding size cell) (low : 0 ≤ u) (high : u < size) {x s : ℝ}
    (inside : cell x = u) (positive : 0 ≤ s) (most : s ≤ 1) : cell (x + s * (u - x)) = u := by
  obtain ⟨more, less⟩ := between_min_max x u positive most
  have whole := rounding.whole low high
  refine le_antisymm ?_ ?_
  · refine (rounding.mono less).trans ?_
    rcases le_total x u with le | le
    · rw [max_eq_right le, whole]
    · rw [max_eq_left le, inside]
  · refine le_trans ?_ (rounding.mono more)
    rcases le_total x u with le | le
    · rw [min_eq_left le, inside]
    · rw [min_eq_right le, whole]

end

section

variable {cellX cellZ : ℝ → Int} {tiles : List Tile} {map : GridMap ℝ} {x z s : ℝ} {v : Tile}

-- Where an entity stands whose next waypoint has this index: in the first tile, or beside the step
-- that leads from the waypoint it passed last.
def Stands (cellX cellZ : ℝ → Int) (tiles : List Tile) : Nat → ℝ → ℝ → Prop
  | 0, x, z => tiles.head? = some (cellX x, cellZ z)
  | i + 1, x, z => ∃ u, tiles[i]? = some u ∧ Beside u.1 ((tiles[i + 1]?).getD u).1 x ∧
      Beside u.2 ((tiles[i + 1]?).getD u).2 z

theorem walkable_of_chain {tiles : List Tile} {a : Tile} (chain : tiles.IsChain map.Move)
    (starts : tiles.head? = some a) (walkable : map.isWalkable a.1 a.2 = true) :
    ∀ t ∈ tiles, map.isWalkable t.1 t.2 = true := by
  induction tiles generalizing a with
  | nil => cases starts
  | cons first rest ih =>
      obtain rfl := Option.some.inj starts
      intro t member
      rcases List.mem_cons.mp member with rfl | later
      · exact walkable
      · cases rest with
        | nil => cases later
        | cons second rest =>
            obtain ⟨move, chain⟩ := List.isChain_cons_cons.mp chain
            exact ih chain rfl move.walkable t later

theorem Stands.onward (roundX : Rounding width cellX) (roundZ : Rounding height cellZ) {i : Nat}
    (stands : Stands cellX cellZ tiles i x z) (ahead : tiles[i]? = some v) (onMap : OnMap v)
    (low : 0 ≤ s) (high : s ≤ 1) :
    Stands cellX cellZ tiles i (x + s * (v.1 - x)) (z + s * (v.2 - z)) := by
  cases i with
  | zero =>
      have first : tiles.head? = some v := by rw [List.head?_eq_getElem?, ahead]
      obtain rfl := Option.some.inj (first.symm.trans stands)
      obtain ⟨lowX, highX, lowZ, highZ⟩ := onMap
      have sameX := roundX.onward lowX highX rfl low high
      have sameZ := roundZ.onward lowZ highZ rfl low high
      exact first.trans (congrArg some (Prod.ext sameX.symm sameZ.symm))
  | succ i =>
      obtain ⟨u, passed, besideX, besideZ⟩ := stands
      rw [ahead, Option.getD_some] at besideX besideZ
      refine ⟨u, passed, ?_, ?_⟩ <;> rw [ahead, Option.getD_some]
      · exact besideX.onward low high
      · exact besideZ.onward low high

theorem Stands.passed {i : Nat} (ahead : tiles[i]? = some v)
    (close : ((v.1 : ℝ) - x) ^ 2 + (v.2 - z) ^ 2 < 0.01) :
    Stands cellX cellZ tiles (i + 1) x z := by
  refine ⟨v, ahead, .of_near _ ?_, .of_near _ ?_⟩
  · rw [abs_lt]
    constructor <;> nlinarith [sq_nonneg ((v.2 : ℝ) - z)]
  · rw [abs_lt]
    constructor <;> nlinarith [sq_nonneg ((v.1 : ℝ) - x)]

-- All four tiles around a step are walkable, so an entity beside it is on one of them.
theorem Stands.walkable (roundX : Rounding width cellX) (roundZ : Rounding height cellZ)
    (chain : tiles.IsChain map.Move) (free : ∀ t ∈ tiles, map.isWalkable t.1 t.2 = true) {i : Nat}
    (stands : Stands cellX cellZ tiles i x z) : map.isWalkable (cellX x) (cellZ z) = true := by
  cases i with
  | zero => exact free _ (List.mem_of_mem_head? stands)
  | succ i =>
      obtain ⟨u, passed, besideX, besideZ⟩ := stands
      obtain ⟨inside, at_u⟩ := List.getElem?_eq_some_iff.mp passed
      have free_u := free u (at_u ▸ List.getElem_mem inside)
      obtain ⟨lowX, highX, lowZ, highZ⟩ := onMap_of_walkable free_u
      cases ahead : tiles[i + 1]? with
      | none =>
          rw [ahead] at besideX besideZ
          have atX := roundX.beside lowX highX lowX highX (by simp) besideX
          have atZ := roundZ.beside lowZ highZ lowZ highZ (by simp) besideZ
          rw [or_self] at atX atZ
          rw [atX, atZ]
          exact free_u
      | some v =>
          rw [ahead] at besideX besideZ
          obtain ⟨there, at_v⟩ := List.getElem?_eq_some_iff.mp ahead
          have move : map.Move u v := by
            have step := chain.getElem i there
            rw [at_u, at_v] at step
            exact step
          obtain ⟨lowX', highX', lowZ', highZ'⟩ := onMap_of_walkable move.walkable
          have atX := roundX.beside lowX highX lowX' highX' move.neighbours.1 besideX
          have atZ := roundZ.beside lowZ highZ lowZ' highZ' move.neighbours.2 besideZ
          have corners : map.isWalkable v.1 u.2 = true ∧ map.isWalkable u.1 v.2 = true := by
            by_cases straightX : v.1 = u.1
            · rw [straightX, ← straightX]
              exact ⟨straightX ▸ free_u, move.walkable⟩
            · by_cases straightZ : v.2 = u.2
              · rw [straightZ]
                exact ⟨straightZ ▸ move.walkable, free_u⟩
              · exact move.corner straightX straightZ
          rcases atX with atX | atX <;> rcases atZ with atZ | atZ <;> rw [atX, atZ]
          · exact free_u
          · exact corners.2
          · exact corners.1
          · exact move.walkable

end

variable {w w' : World ℝ} {e : Entity}

theorem seek_stays {searches spent : Nat} {choice : PathChoice ℝ}
    (seeks : w.Seeks e searches choice w' spent) : w'.reg.location e = w.reg.location e := by
  cases seeks with
  | unaimed => rfl
  | sighted loc job path =>
      obtain ⟨taken, velocity, -, own⟩ := World.seekDirectly_own (w.setJob e job) e path
        job.targetX job.targetZ
      exact congrArg Body.location own
  | kept => rfl
  | postponed => rfl
  | searched loc job path toil result map =>
      rcases World.followResult_own ({ w.setJob e job with map := map } : World ℝ) e toil loc
          { path with lastTargetX := job.targetX, lastTargetZ := job.targetZ } result with
        ⟨_, _, -, own⟩ | ⟨_, _, -, -, -, -, -, -, own⟩
      · exact congrArg Body.location own
      · exact congrArg Body.location own

def World.course (w : World ℝ) (e : Entity) : Option (List (GridVector2 ℝ) × Nat) :=
  (w.reg.pathfinding e).map fun path => (path.waypoints, path.currentWaypointIndex)

/-- The entity keeps its waypoints, and when it moves they are not used up and its speed is not
negative. -/
def KeepsCourse (e : Entity) (w : World ℝ) : Stroll ℝ → Prop
  | .seek x searches choice => x = e →
      ∀ w', stroll (.seek x searches choice) w = some w' → w'.course e = w.course e
  | .move x => x = e → (∀ vel, w.reg.velocity e = some vel → 0 ≤ vel.speed) ∧
      ∀ path, w.reg.pathfinding e = some path → path.currentWaypointIndex < path.waypoints.length
  | .others _ _ _ cleared => cleared e = false

/-- From one position to the next an entity does not pass the waypoint before it. -/
def Approached (before after : LocationComp ℝ) (target : GridVector2 ℝ) : Prop :=
  ∃ s : ℝ, 0 ≤ s ∧ s ≤ 1 ∧ after.x = before.x + s * (target.x - before.x) ∧
    after.z = before.z + s * (target.z - before.z)

-- The entity follows the tiles and stands where its next waypoint allows.
structure Treads (cellX cellZ : ℝ → Int) (tiles : List Tile) (e : Entity) (w : World ℝ) : Prop where
  follows : ∃ index, w.course e = some (tiles.map waypoint, index) ∧
    ∃ loc, w.reg.location e = some loc ∧ Stands cellX cellZ tiles index loc.x loc.z

theorem Treads.congr {cellX cellZ : ℝ → Int} {tiles : List Tile}
    (treads : Treads cellX cellZ tiles e w) (course : w'.course e = w.course e)
    (location : w'.reg.location e = w.reg.location e) : Treads cellX cellZ tiles e w' := by
  obtain ⟨index, held, loc, located, stands⟩ := treads.follows
  exact ⟨index, course.trans held, loc, location.trans located, stands⟩

theorem Treads.moved {cellX cellZ : ℝ → Int} {tiles : List Tile}
    (roundX : Rounding width cellX) (roundZ : Rounding height cellZ)
    (onMap : ∀ t ∈ tiles, OnMap t) (treads : Treads cellX cellZ tiles e w)
    (forward : ∀ vel, w.reg.velocity e = some vel → 0 ≤ vel.speed)
    (unused : ∀ path, w.reg.pathfinding e = some path →
      path.currentWaypointIndex < path.waypoints.length)
    (strides : w.Strides e w') : Treads cellX cellZ tiles e w' := by
  cases strides with
  | unready => exact treads
  | resting => exact treads.congr rfl rfl
  | reached _ _ path _ _ walker _ seeking =>
      have inside := unused path walker.path
      simp [seeking] at inside
  | steered _ _ path _ _ walker _ seeking =>
      have inside := unused path walker.path
      simp [seeking] at inside
  | finished _ _ path _ _ walker _ _ used => exact absurd (unused path walker.path) (not_lt.mpr used)
  | cutShort _ _ path _ _ walker _ _ used => exact absurd (unused path walker.path) (not_lt.mpr used)
  | followed loc toil path vel job walker _ target ahead =>
      obtain ⟨index, held, loc', located, stands⟩ := treads.follows
      obtain rfl := Option.some.inj (walker.location.symm.trans located)
      unfold World.course at held
      rw [walker.path, Option.map_some, Option.some.injEq, Prod.mk.injEq] at held
      obtain ⟨waypoints, rfl⟩ := held
      rw [waypoints, List.getElem?_map, Option.map_eq_some_iff] at ahead
      obtain ⟨v, ahead, rfl⟩ := ahead
      obtain ⟨walked, there, velocity, s, own, ⟨atX, atZ, share⟩, kept⟩ :=
        followWaypoint_own loc path vel (waypoint v) walker.location walker.path
      obtain ⟨low, high⟩ := share (forward vel walker.velocity)
      have inside : OnMap v := by
        obtain ⟨bound, at_v⟩ := List.getElem?_eq_some_iff.mp ahead
        exact onMap v (at_v ▸ List.getElem_mem bound)
      have onward := stands.onward roundX roundZ ahead inside low high
      have centre : (waypoint v : GridVector2 ℝ) = ⟨v.1, v.2⟩ := by simp [waypoint, ofInt]
      rw [centre] at atX atZ kept
      rw [← atX, ← atZ] at onward
      have course : (w.followWaypoint e loc path vel (waypoint v)).course e =
          some (walked.waypoints, walked.currentWaypointIndex) := by
        have path := congrArg Body.pathfinding own
        dsimp only at path
        exact congrArg (Option.map _) path
      have location : (w.followWaypoint e loc path vel (waypoint v)).reg.location e = some there :=
        congrArg Body.location own
      rcases kept with rfl | ⟨rfl, close⟩
      · exact ⟨_, by rw [course, waypoints], there, location, onward⟩
      · exact ⟨_, by rw [course, ← waypoints], there, location, .passed ahead close⟩

theorem Treads.strolled {cellX cellZ : ℝ → Int} {tiles : List Tile}
    (roundX : Rounding width cellX) (roundZ : Rounding height cellZ)
    (onMap : ∀ t ∈ tiles, OnMap t) (treads : Treads cellX cellZ tiles e w) (event : Stroll ℝ)
    (keeps : KeepsCourse e w event) (strolled : stroll event w = some w') :
    Treads cellX cellZ tiles e w' := by
  cases event with
  | seek x searches choice =>
      obtain ⟨⟨next, spent⟩, visited, rfl⟩ := Option.map_eq_some_iff.mp strolled
      have seeks := w.pathfinding_seeks x searches spent choice next visited
      by_cases self : x = e
      next =>
        have course := keeps self next strolled
        subst self
        exact treads.congr course (seek_stays seeks)
      next =>
        have same := seeks.walks.others e (Ne.symm self)
        exact treads.congr (congrArg (Option.map _) (congrArg Body.pathfinding same))
          (congrArg Body.location same)
  | move x =>
      have strides := w.movement_strides x w' strolled
      by_cases self : x = e
      next =>
        obtain ⟨forward, unused⟩ := keeps self
        subst self
        exact treads.moved roundX roundZ onMap forward unused strides
      next =>
        have same := strides.walks.others e (Ne.symm self)
        exact treads.congr (congrArg (Option.map _) (congrArg Body.pathfinding same))
          (congrArg Body.location same)
  | others job toil velocity cleared =>
      obtain rfl := Option.some.inj strolled
      have uncleared : cleared e = false := keeps
      refine treads.congr ?_ rfl
      unfold World.course World.reassign
      dsimp only
      rw [uncleared]
      rfl

theorem stroll_obstacles (event : Stroll ℝ) (strolled : stroll event w = some w') :
    w'.map.grid = w.map.grid := by
  cases event with
  | seek x searches choice =>
      obtain ⟨⟨next, spent⟩, visited, rfl⟩ := Option.map_eq_some_iff.mp strolled
      exact (w.pathfinding_seeks x searches spent choice next visited).walks.obstacles
  | move x => exact (w.movement_strides x w' strolled).walks.obstacles
  | others =>
      obtain rfl := Option.some.inj strolled
      rfl

theorem move_approaches (forward : ∀ vel, w.reg.velocity e = some vel → 0 ≤ vel.speed)
    (strides : w.Strides e w') (before : LocationComp ℝ) (path : PathfindingComp ℝ)
    (target : GridVector2 ℝ) (located : w.reg.location e = some before)
    (walks : w.reg.pathfinding e = some path)
    (ahead : path.waypoints[path.currentWaypointIndex]? = some target) :
    ∃ after, w'.reg.location e = some after ∧ Approached before after target := by
  have rests : Approached before before target :=
    ⟨0, le_refl 0, zero_le_one, by ring, by ring⟩
  have unused := (List.getElem?_eq_some_iff.mp ahead).1
  cases strides with
  | unready => exact ⟨before, located, rests⟩
  | resting => exact ⟨before, located, rests⟩
  | reached _ _ _ _ _ walker _ seeking =>
      obtain rfl := Option.some.inj (walker.path.symm.trans walks)
      simp [seeking] at unused
  | steered _ _ _ _ _ walker _ seeking =>
      obtain rfl := Option.some.inj (walker.path.symm.trans walks)
      simp [seeking] at unused
  | finished _ _ _ _ _ walker _ _ used =>
      obtain rfl := Option.some.inj (walker.path.symm.trans walks)
      exact absurd unused (not_lt.mpr used)
  | cutShort _ _ _ _ _ walker _ _ used =>
      obtain rfl := Option.some.inj (walker.path.symm.trans walks)
      exact absurd unused (not_lt.mpr used)
  | followed loc toil other vel job walker _ target' ahead' =>
      obtain rfl := Option.some.inj (walker.path.symm.trans walks)
      obtain rfl := Option.some.inj (walker.location.symm.trans located)
      obtain rfl := Option.some.inj (ahead.symm.trans ahead')
      obtain ⟨walked, there, velocity, s, own, ⟨atX, atZ, share⟩, -⟩ :=
        followWaypoint_own loc other vel target walker.location walker.path
      obtain ⟨low, high⟩ := share (forward vel walker.velocity)
      exact ⟨there, congrArg Body.location own, s, low, high, atX, atZ⟩

/-- As long as an NPC keeps the waypoints of a legal path, each tick leaves it on a walkable tile,
whether or not coordinates are clamped to the map, and between where it was and its waypoint. -/
theorem waypoints_are_safe (start last : World ℝ)
    (past : List (Transition (World ℝ) (Stroll ℝ))) (e : Entity) (a b : Tile)
    (waypoints : List (GridVector2 ℝ)) (loc : LocationComp ℝ)
    (route : start.map.Route a b waypoints) (walkable : start.map.isWalkable a.1 a.2 = true)
    (planned : start.course e = some (waypoints, 0)) (located : start.reg.location e = some loc)
    (run : Run stroll start past last) (keeps : Guarded (KeepsCourse e) past) :
    ((Scalar.round loc.x, Scalar.round loc.z) = a → ∃ there, last.reg.location e = some there ∧
        last.map.isWalkable (Scalar.round there.x) (Scalar.round there.z) = true) ∧
      ((tileX loc.x, tileZ loc.z) = a → ∃ there, last.reg.location e = some there ∧
        last.map.isWalkable (tileX there.x) (tileZ there.z) = true) ∧
      ∀ t ∈ past, t.event = .move e → ∀ before path target,
        t.before.reg.location e = some before → t.before.reg.pathfinding e = some path →
          path.waypoints[path.currentWaypointIndex]? = some target →
            ∃ after, t.after.reg.location e = some after ∧ Approached before after target := by
  obtain ⟨tiles, rfl, chain, starts, -⟩ := route
  have free := walkable_of_chain chain starts walkable
  have obstacles : last.map.grid = start.map.grid :=
    run.preserved (fun w => w.map.grid = start.map.grid) rfl
      fun _ event _ same strolled => (stroll_obstacles event strolled).trans same
  have safe {cellX cellZ : ℝ → Int} (roundX : Rounding width cellX) (roundZ : Rounding height cellZ)
      (home : (cellX loc.x, cellZ loc.z) = a) : ∃ there, last.reg.location e = some there ∧
        last.map.isWalkable (cellX there.x) (cellZ there.z) = true := by
    have begins : Treads cellX cellZ tiles e start :=
      ⟨0, planned, loc, located, starts.trans (congrArg some home.symm)⟩
    have treads := run.invariant begins
      (fun _ event _ treads keeps strolled => treads.strolled roundX roundZ
        (fun t member => onMap_of_walkable (free t member)) event keeps strolled) keeps
    obtain ⟨index, -, there, located, stands⟩ := treads.follows
    refine ⟨there, located, ?_⟩
    rw [isWalkable_congr obstacles]
    exact stands.walkable roundX roundZ chain free
  refine ⟨safe (round_rounding _) (round_rounding _), safe (clamp_rounding _) (clamp_rounding _),
    fun t member moves before path target located walks ahead => ?_⟩
  obtain ⟨later, earlier, rfl, -, taken⟩ := run.taken t member
  have forward := keeps t member
  rw [moves] at forward taken
  exact move_approaches (forward rfl).1 (t.before.movement_strides e t.after taken) before path
    target located walks ahead

noncomputable def eastward : PathfindingComp ℝ :=
  { PathfindingComp.initial with waypoints := [waypoint (0, 0), waypoint (1, 0)] }

noncomputable def ramblerJob : JobComp ℝ := { strollerJob with targetX := lit 1 }

-- Two fifths of a tile a tick.
noncomputable def ramble : VelocityComp ℝ := { VelocityComp.initial with speed := lit 8 }

noncomputable def rambler : World ℝ :=
  ((stroller.setJob 0 ramblerJob).setPathfinding 0 eastward).setVelocity 0 ramble

theorem ramble_speed : ramble.speed = 8 := by norm_num [ramble]

theorem rambler_walker :
    rambler.Walker 0 (newLocation "" 0 zero 0) ⟨.moving, "", 0⟩ eastward ramble ramblerJob :=
  ⟨rfl, rfl, rfl, rfl, rfl, rfl⟩

theorem rambler_turns : ∃ mid, stroll (.move 0) rambler = some mid ∧
    mid.map.grid = rambler.map.grid ∧ mid.reg.activity = rambler.reg.activity ∧
    mid.Walker 0 (newLocation "" 0 zero 0) ⟨.moving, "", 0⟩ eastward.passed ramble
      ramblerJob := by
  have moved := rambler_walker.follows rfl (waypoint (0, 0)) rfl
  have near : lt (hypot ((waypoint (0, 0) : GridVector2 ℝ).x - (newLocation "" (0 : ℝ) zero 0).x)
      ((waypoint (0, 0) : GridVector2 ℝ).z - (newLocation "" (0 : ℝ) zero 0).z)) (lit 0.1) =
        true := by
    rw [lt_real, hypot_lt_real _ _ _ (by norm_num)]
    norm_num [waypoint, newLocation, ofInt]
  exact ⟨_, moved, stroll_obstacles (.move 0) moved, (followWaypoint_keeps _ _ _ _).2,
    rambler_walker.turns _ near⟩

section

variable {x : ℝ} {loc : LocationComp ℝ} {vel : VelocityComp ℝ} {job : JobComp ℝ}

theorem eastward_distance (at_x : loc.x = x) (at_z : loc.z = 0) (before : x ≤ 1) :
    hypot ((waypoint (1, 0) : GridVector2 ℝ).x - loc.x) ((waypoint (1, 0) : GridVector2 ℝ).z - loc.z) =
      1 - x := by
  have apart : 0 ≤ 1 - x := sub_nonneg.mpr before
  rw [at_x, at_z, hypot_real]
  simpa [waypoint, ofInt] using Real.sqrt_mul_self apart

theorem eastward_strides (walker : w.Walker 0 loc ⟨.moving, "", 0⟩ eastward.passed vel job)
    (speed : vel.speed = 8) (at_x : loc.x = x) (at_z : loc.z = 0) (before : x < 3 / 5) :
    ∃ w' there turned, stroll (.move 0) w = some w' ∧ w'.map.grid = w.map.grid ∧
      w'.reg.activity = w.reg.activity ∧
      w'.Walker 0 there ⟨.moving, "", 0⟩ eastward.passed turned job ∧ turned.speed = 8 ∧
      there.x = x + 2 / 5 ∧ there.z = 0 := by
  have distance := eastward_distance at_x at_z (by linarith)
  have stride : vel.speed * World.frameTime = 2 / 5 := by
    norm_num [speed, World.frameTime]
  have moved := walker.follows rfl (waypoint (1, 0)) rfl
  obtain ⟨there, turned, same, there_x, there_z, walks⟩ := walker.strides
    (waypoint (1, 0)) (by rw [distance, lt_real, not_lt]; norm_num; linarith)
    (by rw [distance, stride, le_real, not_le]; linarith)
  have onward : (1 - x) ≠ 0 := by linarith
  refine ⟨_, there, turned, moved, stroll_obstacles (.move 0) moved,
    (followWaypoint_keeps _ _ _ _).2, walks, same.trans speed, ?_, ?_⟩
  · rw [there_x, distance, stride, at_x]
    simp [waypoint, ofInt, div_self onward]
  · rw [there_z, at_z]
    simp [waypoint, ofInt]

end

-- Two ticks, one to turn and one to stride.
theorem waypoints_are_safe_rambler : ∃ mid last, stroll (.move 0) rambler = some mid ∧
    stroll (.move 0) mid = some last ∧ ∃ there, last.reg.location 0 = some there ∧
      there.x = 2 / 5 ∧ there.z = 0 ∧
      last.map.isWalkable (Scalar.round there.x) (Scalar.round there.z) = true := by
  have walkable (x z : Int) (inside : OnMap (x, z)) : rambler.map.isWalkable x z = true := by
    obtain ⟨lowX, highX, lowZ, highZ⟩ := inside
    unfold isWalkable
    rw [if_neg (by omega)]
    rfl
  have move : rambler.map.Move (0, 0) (1, 0) :=
    ⟨by decide, by decide, walkable 1 0 (by unfold OnMap; decide), fun _ turn => absurd rfl turn⟩
  have route : rambler.map.Route (0, 0) (1, 0) [waypoint (0, 0), waypoint (1, 0)] :=
    ⟨[(0, 0), (1, 0)], rfl, List.isChain_pair.mpr move, rfl, rfl⟩
  obtain ⟨mid, turned, -, -, walker⟩ := rambler_turns
  obtain ⟨last, there, velocity, strode, -, -, walks, -, at_x, at_z⟩ :=
    eastward_strides (x := 0) walker ramble_speed rfl rfl (by norm_num)
  have run : Run stroll rambler [⟨mid, .move 0, last⟩, ⟨rambler, .move 0, mid⟩] last :=
    (Run.rest.next turned).next strode
  have keeps : Guarded (KeepsCourse 0)
      [(⟨mid, .move 0, last⟩ : Transition (World ℝ) (Stroll ℝ)), ⟨rambler, .move 0, mid⟩] := by
    refine (Guarded.cons _).mpr ⟨fun _ => ⟨fun vel held => ?_, fun path held => ?_⟩,
      (Guarded.cons _).mpr ⟨fun _ => ⟨fun vel held => ?_, fun path held => ?_⟩, .nil⟩⟩
    · obtain rfl := Option.some.inj (walker.velocity.symm.trans held)
      norm_num [ramble_speed]
    · obtain rfl := Option.some.inj (walker.path.symm.trans held)
      simp [PathfindingComp.passed, eastward, PathfindingComp.initial]
    · obtain rfl := Option.some.inj (rambler_walker.velocity.symm.trans held)
      norm_num [ramble_speed]
    · obtain rfl := Option.some.inj (rambler_walker.path.symm.trans held)
      simp [eastward, PathfindingComp.initial]
  have home : ((Scalar.round (0 : ℝ), Scalar.round (0 : ℝ)) : Tile) = (0, 0) := by
    have origin : (Scalar.round (0 : ℝ)) = 0 := round_real_near (by norm_num)
    rw [origin]
  obtain ⟨there', located, safe⟩ := (waypoints_are_safe rambler last _ 0 (0, 0) (1, 0) _ _ route
    (walkable 0 0 (by unfold OnMap; decide)) rfl rfl run keeps).1 home
  obtain rfl := Option.some.inj (walks.location.symm.trans located)
  exact ⟨mid, last, turned, strode, there, located, by rw [at_x]; norm_num, at_z, safe⟩

end MundusVivens
