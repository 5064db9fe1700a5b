import MundusVivens.Walking.Enclosure
import MundusVivens.Walking.Sight

set_option autoImplicit false

/-!
# Arrivals

`SystemMovement` puts an NPC on its target when a path that is not marked partial
is used up, wherever the target is. It is near when the path ends on the tile of
the target, so when the search was not misled and the target stays where it was.
-/

namespace MundusVivens

open Scalar Runs GridMap

section

variable {F : Type}

/-- The visits of the two systems, in any order, and what the other systems may do between them:
give jobs, toils and velocities, and clear paths. -/
inductive Stroll (F : Type) where
  | seek (e : Entity) (searches : Nat) (choice : PathChoice F)
  | move (e : Entity)
  | others (job : Pool (JobComp F)) (toil : Pool ToilComp) (velocity : Pool (VelocityComp F))
      (cleared : Entity → Bool)

def World.reassign (w : World F) (job : Pool (JobComp F)) (toil : Pool ToilComp)
    (velocity : Pool (VelocityComp F)) (cleared : Entity → Bool) : World F :=
  { w with reg :=
      { w.reg with
        job := job
        toil := toil
        velocity := velocity
        pathfinding := fun e =>
          if cleared e then (w.reg.pathfinding e).map PathfindingComp.reset
          else w.reg.pathfinding e } }

variable [Scalar F]

def stroll : Stroll F → World F → Option (World F)
  | .seek e searches choice, w => step (.pathfinding e searches choice) w
  | .move e, w => step (.movement e) w
  | .others job toil velocity cleared, w => some (w.reassign job toil velocity cleared)

theorem walk_strolls (input : FrameInput F) (w mid last : World F)
    (walked : walk input w = some (mid, last)) : ∃ past, Run stroll w past last := by
  obtain ⟨seeks, strides⟩ := walk_by walked
  have searched : ∃ past, Run stroll w past mid := by
    refine seeks.kept (fun m => ∃ past, Run stroll w past m) (fun event m m' sort before stepped => ?_)
      ⟨[], .rest⟩
    obtain ⟨past, run⟩ := before
    cases event with
    | pathfinding e searches choice =>
        have here : stroll (.seek e searches choice) m = some m' := stepped
        exact ⟨_, run.next here⟩
    | _ => cases sort
  refine strides.kept (fun m => ∃ past, Run stroll w past m) (fun event m m' sort before stepped => ?_)
    searched
  obtain ⟨past, run⟩ := before
  cases event with
  | movement e =>
      have here : stroll (.move e) m = some m' := stepped
      exact ⟨_, run.next here⟩
  | _ => cases sort

def pathQuery (choice : PathChoice F) (loc : LocationComp F) (job : JobComp F) : PathQuery F :=
  ⟨choice.top, loc.x, loc.z, job.targetX, job.targetZ, defaultIterations⟩

-- The search that is due is not misled.
def World.searchesSoundly (w : World F) (e : Entity) (choice : PathChoice F) : Prop :=
  ∀ loc job path, w.aim e choice = some (loc, job, path) → path.waypoints = [] →
    w.map.isPathBlocked loc.x loc.z job.targetX job.targetZ = some true →
    ¬w.map.Misled (pathQuery choice loc job)

-- A path that is used up and not marked partial.
def PathfindingComp.Done (path : PathfindingComp F) : Prop :=
  path.waypoints ≠ [] ∧ path.waypoints.length ≤ path.currentWaypointIndex ∧
    path.isPartial = false

def Arrival (t : Transition (World F) (Stroll F)) (e : Entity) : Prop :=
  t.event = .move e ∧ (∃ toil, t.before.reg.toil e = some toil ∧ toil.state = .moving) ∧
    ∃ toil, t.after.reg.toil e = some toil ∧ toil.state = .working

def PathfindingComp.goal (path : PathfindingComp F) : Tile :=
  (tileX path.lastTargetX, tileZ path.lastTargetZ)

end

def apart (x z : ℝ) (t : Tile) : ℝ := (t.1 - x) ^ 2 + (t.2 - z) ^ 2

-- The target of a path that is used up is within 0.9 of the tile it was looked for.
def World.targetKept (w : World ℝ) (e : Entity) : Prop :=
  ∀ job path, w.reg.job e = some job → (∃ toil, w.reg.toil e = some toil ∧ toil.state = .moving) →
    w.reg.pathfinding e = some path → path.Done →
    apart job.targetX job.targetZ path.goal ≤ 0.81

/-- The searches are sound and the targets are kept. -/
def Orderly (w : World ℝ) : Stroll ℝ → Prop
  | .seek e searches choice => IsHeap choice.top ∧
      (searches < maxPathfindsPerTick → w.searchesSoundly e choice)
  | .move e => w.targetKept e
  | .others .. => True

-- A path that is not partial ends on the tile it was looked for, and the entity is there once the
-- path is used up.
def Body.OnCourse (body : Body ℝ) : Prop :=
  ∀ path, body.pathfinding = some path → path.waypoints ≠ [] → path.isPartial = false →
    path.waypoints.getLast? = some (waypoint path.goal) ∧
      (path.waypoints.length ≤ path.currentWaypointIndex →
        ∃ loc, body.location = some loc ∧ apart loc.x loc.z path.goal < 0.01)

theorem Body.OnCourse.of_empty {body : Body ℝ} (path : PathfindingComp ℝ)
    (walks : body.pathfinding = some path) (empty : path.waypoints = []) : body.OnCourse := by
  intro other same filled
  obtain rfl := Option.some.inj (walks.symm.trans same)
  exact absurd empty filled

theorem Body.OnCourse.congr {body body' : Body ℝ} (course : body.OnCourse)
    (path : body'.pathfinding = body.pathfinding) (location : body'.location = body.location) :
    body'.OnCourse := by
  intro walked same filled complete
  rw [path] at same
  rw [location]
  exact course walked same filled complete

variable {w w' : World ℝ} {e : Entity}

theorem forgetMovedTarget_filled (path : PathfindingComp ℝ) (targetX targetZ : ℝ)
    (filled : (World.forgetMovedTarget path targetX targetZ).waypoints ≠ []) :
    World.forgetMovedTarget path targetX targetZ = path := by
  unfold World.forgetMovedTarget at filled ⊢
  dsimp only at filled ⊢
  split at filled
  next => exact absurd rfl filled
  next near => rw [if_neg near]

theorem seek_onCourse {searches spent : Nat} {choice : PathChoice ℝ} (heap : IsHeap choice.top)
    (sound : searches < maxPathfindsPerTick → w.searchesSoundly e choice)
    (clean : Clean w.map.scratch) (course : (w.body e).OnCourse)
    (seeks : w.Seeks e searches choice w' spent) : (w'.body e).OnCourse := by
  cases seeks with
  | unaimed => exact course
  | sighted loc job path =>
      obtain ⟨taken, velocity, empty, own⟩ := World.seekDirectly_own (w.setJob e job) e path
        job.targetX job.targetZ
      rw [own]
      exact .of_empty taken rfl empty
  | kept loc job path aimed blocked walking =>
      obtain ⟨-, -, -, forgot⟩ := w.aim_some e choice loc job path aimed
      have same : path = (w.reg.pathfinding e).getD .initial := by
        rw [forgot] at walking ⊢
        exact forgetMovedTarget_filled _ _ _ walking
      have held : w.reg.pathfinding e = some path := by
        cases had : w.reg.pathfinding e with
        | none =>
            rw [had] at same
            exact absurd (by rw [same]; rfl) walking
        | some old =>
            rw [had] at same
            rw [same]
            rfl
      refine course.congr ?_ ?_
      · simp [World.setPathfinding, held]
      · simp [World.setPathfinding, World.setJob]
  | postponed loc job path aimed blocked pathless =>
      exact .of_empty path (by simp [World.setPathfinding]) pathless
  | searched loc job path toil result map aimed hasToil blocked pathless left found =>
      rcases World.followResult_own ({ w.setJob e job with map := map } : World ℝ) e toil loc
          { path with lastTargetX := job.targetX, lastTargetZ := job.targetZ } result with
        ⟨given, velocity, empty, own⟩ |
          ⟨taken, velocity, filled, waypoints, begins, isPartial, atX, atZ, own⟩
      · rw [own]
        exact .of_empty given rfl empty
      · intro walked same _ complete
        rw [own] at same
        obtain rfl := Option.some.inj same
        refine ⟨?_, fun used => ?_⟩
        · rw [waypoints]
          have goal : taken.goal = (pathQuery choice loc job).goal := by
            unfold PathfindingComp.goal
            rw [atX, atZ]
            rfl
          rw [goal]
          exact complete_path_ends (pathQuery choice loc job) heap
            (show defaultIterations ≤ 600000000 by decide) clean
            (sound left loc job path aimed pathless blocked) result map found
            (isPartial.symm.trans complete) filled
        · rw [begins, waypoints] at used
          exact absurd (List.length_eq_zero_iff.mp (Nat.le_zero.mp used)) filled

theorem followWaypoint_own (loc : LocationComp ℝ) (path : PathfindingComp ℝ)
    (vel : VelocityComp ℝ) (target : GridVector2 ℝ) (located : w.reg.location e = some loc)
    (walks : w.reg.pathfinding e = some path) :
    ∃ walked there velocity s, (w.followWaypoint e loc path vel target).body e =
        { w.body e with
          pathfinding := some walked, location := some there, velocity := velocity } ∧
      (there.x = loc.x + s * (target.x - loc.x) ∧ there.z = loc.z + s * (target.z - loc.z) ∧
        (0 ≤ vel.speed → 0 ≤ s ∧ s ≤ 1)) ∧
      (walked = path ∨ walked = { path with currentWaypointIndex := path.currentWaypointIndex + 1 } ∧
        (target.x - there.x) ^ 2 + (target.z - there.z) ^ 2 < 0.01) := by
  let next : PathfindingComp ℝ :=
    { path with currentWaypointIndex := path.currentWaypointIndex + 1 }
  let dist : ℝ := hypot (target.x - loc.x) (target.z - loc.z)
  let turned : VelocityComp ℝ :=
    { vel with dirX := (target.x - loc.x) / dist, dirZ := (target.z - loc.z) / dist }
  unfold World.followWaypoint
  dsimp only
  split
  next near =>
    rw [lt_real, hypot_lt_real _ _ _ (by norm_num)] at near
    refine ⟨_, loc, w.reg.velocity e, 0, ?_, ⟨by ring, by ring, fun _ => ⟨le_refl 0, zero_le_one⟩⟩,
      .inr ⟨rfl, by norm_num at near ⊢; linarith⟩⟩
    simp [World.body_setPathfinding, ← located]
  next far =>
    have apart : 0 < dist := by
      rw [lt_real, not_lt] at far
      exact lt_of_lt_of_le (by norm_num) far
    split
    next =>
      obtain ⟨there, own, at_x, at_z⟩ := World.updateEntityPosition_placed
        ((w.setVelocity e turned).setPathfinding e next) e target.x target.z loc located
      have stands : (target.x - there.x) ^ 2 + (target.z - there.z) ^ 2 < 0.01 := by
        rw [at_x, at_z]
        norm_num
      refine ⟨next, there, some turned, 1, own.trans ?_, ⟨by rw [at_x]; ring, by rw [at_z]; ring,
        fun _ => ⟨zero_le_one, le_refl 1⟩⟩, .inr ⟨rfl, stands⟩⟩
      rw [World.body_setPathfinding, if_pos rfl, World.body_setVelocity, if_pos rfl]
    next short =>
      obtain ⟨there, own, at_x, at_z⟩ := World.updateEntityPosition_placed (w.setVelocity e turned) e
        (loc.x + turned.dirX * (vel.speed * World.frameTime))
        (loc.z + turned.dirZ * (vel.speed * World.frameTime)) loc located
      -- The share of the way that is covered in this frame.
      refine ⟨path, there, some turned, vel.speed * World.frameTime / dist, own.trans ?_,
        ⟨by rw [at_x]; ring, by rw [at_z]; ring, fun forward => ⟨?_, ?_⟩⟩, .inl rfl⟩
      · rw [World.body_setVelocity, if_pos rfl, ← walks]
        rfl
      · have frame : (0 : ℝ) ≤ World.frameTime := by norm_num [World.frameTime]
        exact div_nonneg (mul_nonneg forward frame) apart.le
      · rw [le_real, not_le] at short
        exact (div_le_one apart).mpr short.le

section

variable {loc : LocationComp ℝ} {toil : ToilComp} {path : PathfindingComp ℝ}
  {vel : VelocityComp ℝ} {job : JobComp ℝ}

def PathfindingComp.passed (path : PathfindingComp ℝ) : PathfindingComp ℝ :=
  { path with currentWaypointIndex := path.currentWaypointIndex + 1 }

theorem followWaypoint_keeps (loc : LocationComp ℝ) (path : PathfindingComp ℝ)
    (vel : VelocityComp ℝ) (target : GridVector2 ℝ) :
    (w.followWaypoint e loc path vel target).reg.identity = w.reg.identity ∧
      (w.followWaypoint e loc path vel target).reg.activity = w.reg.activity := by
  have moved (v : World ℝ) (x z : ℝ) : (v.updateEntityPosition e x z).reg.identity =
      v.reg.identity ∧ (v.updateEntityPosition e x z).reg.activity = v.reg.activity := by
    obtain ⟨grid, location, moved⟩ := v.updateEntityPosition_eq e x z
    rw [moved]
    exact ⟨rfl, rfl⟩
  unfold World.followWaypoint
  dsimp only
  split
  next => exact ⟨rfl, rfl⟩
  next => split <;> exact moved _ _ _

theorem World.Walker.of_own (walker : w.Walker e loc toil path vel job)
    {there : LocationComp ℝ} {walked : PathfindingComp ℝ} {turned : VelocityComp ℝ}
    (own : w'.body e = { w.body e with
      pathfinding := some walked, location := some there, velocity := some turned })
    (identity : w'.reg.identity = w.reg.identity) : w'.Walker e there toil walked turned job where
  location := congrArg Body.location own
  toil := (congrArg Body.toil own).trans walker.toil
  path := congrArg Body.pathfinding own
  velocity := congrArg Body.velocity own
  job := (congrArg Body.job own).trans walker.job
  identity := by rw [identity]; exact walker.identity

theorem World.Walker.turns (walker : w.Walker e loc toil path vel job) (target : GridVector2 ℝ)
    (near : lt (hypot (target.x - loc.x) (target.z - loc.z)) (lit 0.1) = true) :
    (w.followWaypoint e loc path vel target).Walker e loc toil path.passed vel job := by
  refine walker.of_own ?_ (followWaypoint_keeps loc path vel target).1
  unfold World.followWaypoint
  dsimp only
  rw [if_pos near]
  simp [World.body_setPathfinding, ← walker.location, ← walker.velocity, PathfindingComp.passed]

theorem World.Walker.reaches (walker : w.Walker e loc toil path vel job) (target : GridVector2 ℝ)
    (far : ¬lt (hypot (target.x - loc.x) (target.z - loc.z)) (lit 0.1) = true)
    (near : le (hypot (target.x - loc.x) (target.z - loc.z)) (vel.speed * World.frameTime) = true) :
    ∃ there turned, turned.speed = vel.speed ∧ there.x = target.x ∧ there.z = target.z ∧
      (w.followWaypoint e loc path vel target).Walker e there toil path.passed turned job := by
  let dist : ℝ := hypot (target.x - loc.x) (target.z - loc.z)
  let turned : VelocityComp ℝ :=
    { vel with dirX := (target.x - loc.x) / dist, dirZ := (target.z - loc.z) / dist }
  obtain ⟨there, own, at_x, at_z⟩ := World.updateEntityPosition_placed
    ((w.setVelocity e turned).setPathfinding e path.passed) e target.x target.z loc walker.location
  refine ⟨there, turned, rfl, at_x, at_z,
    walker.of_own ?_ (followWaypoint_keeps loc path vel target).1⟩
  unfold World.followWaypoint
  dsimp only
  rw [if_neg far, if_pos near]
  refine own.trans ?_
  rw [World.body_setPathfinding, if_pos rfl, World.body_setVelocity, if_pos rfl]

theorem World.Walker.strides (walker : w.Walker e loc toil path vel job) (target : GridVector2 ℝ)
    (far : ¬lt (hypot (target.x - loc.x) (target.z - loc.z)) (lit 0.1) = true)
    (short : ¬le (hypot (target.x - loc.x) (target.z - loc.z)) (vel.speed * World.frameTime) =
      true) :
    ∃ there turned, turned.speed = vel.speed ∧
      there.x = loc.x + (target.x - loc.x) / hypot (target.x - loc.x) (target.z - loc.z) *
        (vel.speed * World.frameTime) ∧
      there.z = loc.z + (target.z - loc.z) / hypot (target.x - loc.x) (target.z - loc.z) *
        (vel.speed * World.frameTime) ∧
      (w.followWaypoint e loc path vel target).Walker e there toil path turned job := by
  let dist : ℝ := hypot (target.x - loc.x) (target.z - loc.z)
  let turned : VelocityComp ℝ :=
    { vel with dirX := (target.x - loc.x) / dist, dirZ := (target.z - loc.z) / dist }
  obtain ⟨there, own, at_x, at_z⟩ := World.updateEntityPosition_placed (w.setVelocity e turned) e
    (loc.x + turned.dirX * (vel.speed * World.frameTime))
    (loc.z + turned.dirZ * (vel.speed * World.frameTime)) loc walker.location
  refine ⟨there, turned, rfl, at_x, at_z,
    walker.of_own ?_ (followWaypoint_keeps loc path vel target).1⟩
  unfold World.followWaypoint
  dsimp only
  rw [if_neg far, if_neg short]
  refine own.trans ?_
  rw [World.body_setVelocity, if_pos rfl, ← walker.path]
  rfl

theorem World.Walker.follows (walker : w.Walker e loc toil path vel job)
    (moving : toil.state = .moving) (target : GridVector2 ℝ)
    (ahead : path.waypoints[path.currentWaypointIndex]? = some target) :
    w.movement e = some (w.followWaypoint e loc path vel target) := by
  have walking : path.waypoints ≠ [] := by
    rintro empty
    simp [empty] at ahead
  obtain ⟨identity, identified⟩ := Option.isSome_iff_exists.mp walker.identity
  simp [World.movement, walker.location, walker.toil, walker.path, walker.velocity, walker.job,
    identified, moving, walking, ahead]

end

theorem move_onCourse (course : (w.body e).OnCourse) (strides : w.Strides e w') :
    (w'.body e).OnCourse := by
  cases strides with
  | unready => exact course
  | resting => exact course.congr (by simp [World.setVelocity]) (by simp [World.setVelocity])
  | reached loc toil path vel job _ _ _ _ _ arrived =>
      obtain ⟨-, -, -, -, walked, held, empty⟩ := w.arrive_own e loc toil path job w' arrived
      exact .of_empty walked held empty
  | steered loc toil path vel job walker _ seeking _ steer =>
      obtain ⟨there, own, -⟩ := World.updateEntityPosition_placed
        (w.setVelocity e { vel with dirX := steer.1, dirZ := steer.2 }) e
        (loc.x + steer.1 * (vel.speed * World.frameTime))
        (loc.z + steer.2 * (vel.speed * World.frameTime)) loc walker.location
      rw [own]
      exact .of_empty path walker.path seeking
  | finished loc toil path vel job _ _ _ _ _ _ arrived =>
      obtain ⟨-, -, -, -, walked, held, empty⟩ := w.arrive_own e loc toil path job w' arrived
      exact .of_empty walked held empty
  | cutShort loc toil path =>
      exact .of_empty path.reset (by simp [World.setPathfinding]) rfl
  | followed loc toil path vel job walker _ target ahead =>
      obtain ⟨walked, there, velocity, -, own, -, kept⟩ :=
        followWaypoint_own loc path vel target walker.location walker.path
      have inside : path.currentWaypointIndex < path.waypoints.length :=
        (List.getElem?_eq_some_iff.mp ahead).1
      rw [own]
      intro other same filled complete
      obtain rfl : walked = other := Option.some.inj same
      rcases kept with rfl | ⟨rfl, close⟩
      · exact ⟨(course walked walker.path filled complete).1, fun used => by omega⟩
      · obtain ⟨ends, -⟩ := course path walker.path filled complete
        refine ⟨ends, fun used => ⟨there, rfl, ?_⟩⟩
        have last : path.waypoints.length - 1 = path.currentWaypointIndex := by
          dsimp only at used
          omega
        rw [List.getLast?_eq_getElem?, last, ahead] at ends
        rw [Option.some.inj ends] at close
        simpa [waypoint, ofInt, apart, PathfindingComp.goal] using close

def OnCourse (w : World ℝ) : Prop := Clean w.map.scratch ∧ ∀ e, (w.body e).OnCourse

theorem seek_clean {searches spent : Nat} {choice : PathChoice ℝ} (heap : IsHeap choice.top)
    (clean : Clean w.map.scratch) (seeks : w.Seeks e searches choice w' spent) :
    Clean w'.map.scratch := by
  cases seeks with
  | searched loc job path toil result map _ _ _ _ _ found =>
      rw [World.followResult_map]
      exact (answer_route exactTiles_real (pathQuery choice loc job) heap clean result found).2.1
  | _ => exact clean

theorem stroll_onCourse (event : Stroll ℝ) (course : OnCourse w) (orderly : Orderly w event)
    (strolled : stroll event w = some w') : OnCourse w' := by
  obtain ⟨clean, course⟩ := course
  cases event with
  | seek e searches choice =>
      obtain ⟨heap, sound⟩ := orderly
      obtain ⟨⟨next, spent⟩, visited, rfl⟩ := Option.map_eq_some_iff.mp strolled
      have seeks := w.pathfinding_seeks e searches spent choice next visited
      refine ⟨seek_clean heap clean seeks, fun x => ?_⟩
      by_cases self : x = e
      next =>
        subst self
        exact seek_onCourse heap sound clean (course x) seeks
      next =>
        rw [seeks.walks.others x self]
        exact course x
  | move e =>
      have strides := w.movement_strides e w' strolled
      refine ⟨by rw [strides.map]; exact clean, fun x => ?_⟩
      by_cases self : x = e
      next =>
        subst self
        exact move_onCourse (course x) strides
      next =>
        rw [strides.walks.others x self]
        exact course x
  | others job toil velocity cleared =>
      obtain rfl := Option.some.inj strolled
      refine ⟨clean, fun x => ?_⟩
      have path : ((w.reassign job toil velocity cleared).body x).pathfinding =
          if cleared x then (w.reg.pathfinding x).map PathfindingComp.reset
          else w.reg.pathfinding x := rfl
      by_cases dropped : cleared x = true
      next =>
        rw [if_pos dropped] at path
        intro walked same filled
        rw [path] at same
        obtain ⟨old, -, rfl⟩ := Option.map_eq_some_iff.mp same
        exact absurd rfl filled
      next =>
        rw [if_neg dropped] at path
        exact (course x).congr path rfl

theorem near_of_tile {x z targetX targetZ : ℝ} (t : Tile) (drift : apart targetX targetZ t ≤ 0.81)
    (here : apart x z t < 0.01) : (targetX - x) ^ 2 + (targetZ - z) ^ 2 < 1 := by
  unfold apart at drift here
  nlinarith [sq_nonneg ((targetX - t.1) - 9 * (t.1 - x)),
    sq_nonneg ((targetZ - t.2) - 9 * (t.2 - z))]

theorem move_arrives_near (course : (w.body e).OnCourse) (kept : w.targetKept e)
    (strides : w.Strides e w') (moving : ∃ toil, w.reg.toil e = some toil ∧ toil.state = .moving)
    (working : ∃ toil, w'.reg.toil e = some toil ∧ toil.state = .working)
    (loc : LocationComp ℝ) (job : JobComp ℝ) (located : w.reg.location e = some loc)
    (hasJob : w.reg.job e = some job) :
    (job.targetX - loc.x) ^ 2 + (job.targetZ - loc.z) ^ 2 < 1 := by
  have resumes (unchanged : w'.reg.toil e = w.reg.toil e) : False := by
    obtain ⟨toil, hasToil, moves⟩ := moving
    obtain ⟨toil', hasToil', works⟩ := working
    rw [unchanged, hasToil] at hasToil'
    obtain rfl := Option.some.inj hasToil'
    rw [moves] at works
    cases works
  cases strides with
  | unready => exact (resumes rfl).elim
  | resting => exact (resumes rfl).elim
  | reached loc' toil path vel job' walker _ _ near =>
      obtain rfl := Option.some.inj (walker.location.symm.trans located)
      obtain rfl := Option.some.inj (walker.job.symm.trans hasJob)
      rw [World.distanceTo, lt_real, hypot_lt_real _ _ _ (by norm_num)] at near
      norm_num at near
      linarith
  | steered loc' toil path vel job' walker _ _ _ steer =>
      obtain ⟨there, own, -⟩ := World.updateEntityPosition_placed
        (w.setVelocity e { vel with dirX := steer.1, dirZ := steer.2 }) e
        (loc'.x + steer.1 * (vel.speed * World.frameTime))
        (loc'.z + steer.2 * (vel.speed * World.frameTime)) loc' walker.location
      exact (resumes (congrArg Body.toil own)).elim
  | finished loc' toil path vel job' walker moves walking used close =>
      obtain rfl := Option.some.inj (walker.location.symm.trans located)
      obtain rfl := Option.some.inj (walker.job.symm.trans hasJob)
      by_cases complete : path.isPartial = false
      next =>
        obtain ⟨stood, there, here⟩ := (course path walker.path walking complete).2 used
        obtain rfl := Option.some.inj (walker.location.symm.trans there)
        have drift := kept _ path hasJob ⟨toil, walker.toil, moves⟩ walker.path
          ⟨walking, used, complete⟩
        exact near_of_tile path.goal drift here
      next =>
        have near := close.resolve_right complete
        rw [World.distanceTo, lt_real, hypot_lt_real _ _ _ (by norm_num)] at near
        norm_num at near
        linarith
  | cutShort => exact (resumes rfl).elim
  | followed loc' toil path vel job' walker _ target =>
      obtain ⟨walked, there, velocity, -, own, -⟩ :=
        followWaypoint_own loc' path vel target walker.location walker.path
      exact (resumes (congrArg Body.toil own)).elim

/-- In every run in which the searches are sound and the targets are kept, an arrival is from less
than one unit away. -/
theorem arrives_near (start last : World ℝ) (past : List (Transition (World ℝ) (Stroll ℝ)))
    (clean : start.map.scratch = freshScratch)
    (pathless : ∀ e path, start.reg.pathfinding e = some path → path.waypoints = [])
    (run : Run stroll start past last) (orderly : Guarded Orderly past)
    (t : Transition (World ℝ) (Stroll ℝ)) (member : t ∈ past) (e : Entity) (arrival : Arrival t e)
    (loc : LocationComp ℝ) (job : JobComp ℝ) (located : t.before.reg.location e = some loc)
    (hasJob : t.before.reg.job e = some job) :
    (job.targetX - loc.x) ^ 2 + (job.targetZ - loc.z) ^ 2 < 1 := by
  have begins : OnCourse start := by
    refine ⟨by rw [clean]; exact fun _ _ => ⟨rfl, rfl⟩, fun x path held filled => ?_⟩
    exact absurd (pathless x path held) filled
  obtain ⟨later, earlier, rfl, before, taken⟩ := run.taken t member
  have orderly' : Guarded Orderly earlier := fun u among => orderly u (by simp [among])
  have course := before.invariant begins
    (fun w event w' course allowed strolled => stroll_onCourse event course allowed strolled)
    orderly'
  obtain ⟨moved, moving, working⟩ := arrival
  have kept := orderly t member
  rw [moved] at kept taken
  exact move_arrives_near (course.2 e) kept (t.before.movement_strides e t.after taken) moving
    working loc job located hasJob

-- A quarter of a unit is walked straight.
theorem arrives_near_stroller : ∃ past last, Run stroll stroller past last ∧
    ∃ t ∈ past, ∃ e loc job, Arrival t e ∧ t.before.reg.location e = some loc ∧
      t.before.reg.job e = some job ∧
      (job.targetX - loc.x) ^ 2 + (job.targetZ - loc.z) ^ 2 < 1 := by
  obtain ⟨mid, last, path, vel, sighted, -, -, walker, seeking, moved, arrived⟩ := stroller_strolls
  have seeks : stroll (.seek 0 0 ((plainFrame (F := ℝ)).path 0)) stroller = some mid := by
    simp [stroll, step, sighted]
  have run : Run stroll stroller [⟨mid, .move 0, last⟩, ⟨stroller, .seek 0 0 _, mid⟩] last :=
    (Run.rest.next seeks).next moved
  have orderly : Guarded Orderly
      [⟨mid, .move 0, last⟩, ⟨stroller, .seek 0 0 ((plainFrame (F := ℝ)).path 0), mid⟩] := by
    refine (Guarded.cons _).mpr ⟨?_, (Guarded.cons _).mpr ⟨⟨leastFirst_heap_real, ?_⟩, .nil⟩⟩
    · intro job other _ _ held done
      obtain rfl := Option.some.inj (walker.path.symm.trans held)
      exact absurd seeking done.1
    · intro _ loc job path aimed _ blocked
      have here : stroller.aim 0 ((plainFrame (F := ℝ)).path 0) = some (newLocation "" 0 zero 0,
        strollerJob, World.forgetMovedTarget .initial (1 / 4 : ℝ) 0) := rfl
      obtain ⟨rfl, rfl, rfl⟩ := by simpa using here.symm.trans aimed
      cases stroller_sees.symm.trans blocked
  obtain ⟨-, -, -, works, -⟩ := mid.arrive_own 0 _ _ _ _ last arrived
  have arrival : Arrival (⟨mid, .move 0, last⟩ : Transition (World ℝ) (Stroll ℝ)) 0 :=
    ⟨rfl, ⟨_, walker.toil, rfl⟩, works⟩
  exact ⟨_, last, run, _, List.mem_cons_self, 0, _, _, arrival, walker.location, walker.job,
    arrives_near stroller last _ rfl (fun e path held => by cases held) run orderly _
      List.mem_cons_self 0 arrival _ _ walker.location walker.job⟩

-- An NPC in a closet of two tiles, with its target outside.
def hermit : World ℚ := strollers [⟨0, 1, 2, 1⟩, ⟨2, 0, 2, 0⟩] [⟨0, 0, 5, 0⟩]

theorem arrival_teleports : ∃ (past : List (Transition (World ℚ) (Stroll ℚ))) (last : World ℚ),
    Run stroll hermit past last ∧ ∃ t ∈ past, ∃ e loc job, Arrival t e ∧
      t.before.reg.location e = some loc ∧ t.before.reg.job e = some job ∧
      ¬(job.targetX - loc.x) ^ 2 + (job.targetZ - loc.z) ^ 2 < 1 := by
  have passed : (followWhile stroll (fun _ _ => true)
      ((List.replicate 11 [Stroll.seek 0 0 ⟨⟨0, 0⟩, leastFirst⟩, .move 0]).flatten ++
        [.seek 0 0 ⟨⟨0, 0⟩, leastFirst⟩]) hermit).any (fun w =>
      (stroll (.move 0) w).any fun w' =>
        (w.reg.toil 0).any (·.state = .moving) && (w'.reg.toil 0).any (·.state = .working) &&
        (w.reg.location 0).any fun loc => (w.reg.job 0).any fun job =>
          1 ≤ (job.targetX - loc.x) ^ 2 + (job.targetZ - loc.z) ^ 2) = true := by
    decide +kernel
  obtain ⟨past, w, w', run, -, checked⟩ := Run.exists_of_last _ _ _ passed
  simp only [Bool.and_eq_true] at checked
  obtain ⟨⟨moving, working⟩, far⟩ := checked
  obtain ⟨toil, hasToil, moves⟩ := (Option.any_eq_true _ _).mp moving
  obtain ⟨toil', hasToil', works⟩ := (Option.any_eq_true _ _).mp working
  obtain ⟨loc, located, far⟩ := (Option.any_eq_true _ _).mp far
  obtain ⟨job, hasJob, far⟩ := (Option.any_eq_true _ _).mp far
  exact ⟨_, w', run, _, List.mem_cons_self, 0, loc, job,
    ⟨rfl, ⟨toil, hasToil, of_decide_eq_true moves⟩, toil', hasToil', of_decide_eq_true works⟩,
    located, hasJob, not_lt.mpr (of_decide_eq_true far)⟩

end MundusVivens
