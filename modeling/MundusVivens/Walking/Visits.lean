import MundusVivens.Systems.MainLoop
import MundusVivens.Systems.MovementCases
import MundusVivens.Walking.Search
import MundusVivens.World.Body

set_option autoImplicit false

namespace MundusVivens

open Scalar LocationRegistry Runs

variable {F : Type}

-- Only this entity walks; the map keeps its obstacles.
structure OnlyWalks (e : Entity) (w w' : World F) : Prop where
  others : ∀ x, x ≠ e → w'.body x = w.body x
  obstacles : w'.map.grid = w.map.grid
  coords : w'.map.locationCoords = w.map.locationCoords
  valid : w'.reg.valid = w.reg.valid
  nextEntity : w'.reg.nextEntity = w.reg.nextEntity
  identity : w'.reg.identity = w.reg.identity

namespace OnlyWalks

variable {e : Entity} {w m w' : World F}

theorem refl (e : Entity) (w : World F) : OnlyWalks e w w :=
  ⟨fun _ _ => rfl, rfl, rfl, rfl, rfl, rfl⟩

theorem trans (first : OnlyWalks e w m) (second : OnlyWalks e m w') : OnlyWalks e w w' where
  others := fun x other => (second.others x other).trans (first.others x other)
  obstacles := second.obstacles.trans first.obstacles
  coords := second.coords.trans first.coords
  valid := second.valid.trans first.valid
  nextEntity := second.nextEntity.trans first.nextEntity
  identity := second.identity.trans first.identity

end OnlyWalks

namespace World

variable (w : World F) (e : Entity)

theorem setJob_walks (job : JobComp F) : OnlyWalks e w (w.setJob e job) :=
  ⟨fun x other => by simp [body_setJob, other], rfl, rfl, rfl, rfl, rfl⟩

theorem setToil_walks (toil : ToilComp) : OnlyWalks e w (w.setToil e toil) :=
  ⟨fun x other => by simp [body_setToil, other], rfl, rfl, rfl, rfl, rfl⟩

theorem setPathfinding_walks (path : PathfindingComp F) : OnlyWalks e w (w.setPathfinding e path) :=
  ⟨fun x other => by simp [body_setPathfinding, other], rfl, rfl, rfl, rfl, rfl⟩

theorem setVelocity_walks (velocity : VelocityComp F) : OnlyWalks e w (w.setVelocity e velocity) :=
  ⟨fun x other => by simp [body_setVelocity, other], rfl, rfl, rfl, rfl, rfl⟩

theorem modifyVelocity_walks (f : VelocityComp F → VelocityComp F) :
    OnlyWalks e w (w.modifyVelocity e f) :=
  ⟨fun x other => by simp [body_modifyVelocity, other], rfl, rfl, rfl, rfl, rfl⟩

theorem setLocation_walks (loc : LocationComp F) : OnlyWalks e w (w.setLocation e loc) :=
  ⟨fun x other => by simp [body_setLocation, other], rfl, rfl, rfl, rfl, rfl⟩

theorem setActivity_walks (text : String) : OnlyWalks e w (w.setActivity e text) :=
  ⟨fun x _ => by simp, rfl, rfl, rfl, rfl, rfl⟩

variable [Scalar F]

theorem updateEntityPosition_walks (x z : F) : OnlyWalks e w (w.updateEntityPosition e x z) := by
  obtain ⟨grid, location, moved⟩ := w.updateEntityPosition_eq e x z
  exact ⟨fun n other => w.body_updateEntityPosition e x z n other, by rw [moved], by rw [moved],
    by rw [moved], by rw [moved], by rw [moved]⟩

theorem startWalking_walks : OnlyWalks e w (w.startWalking e) := w.setVelocity_walks e _

theorem giveUpPath_walks (toil : ToilComp) (path : PathfindingComp F) :
    OnlyWalks e w (w.giveUpPath e toil path) :=
  ((w.setToil_walks e _).trans (setPathfinding_walks _ e _)).trans (modifyVelocity_walks _ e _)

theorem seekDirectly_walks (path : PathfindingComp F) (targetX targetZ : F) :
    OnlyWalks e w (w.seekDirectly e path targetX targetZ) :=
  (w.setPathfinding_walks e _).trans (startWalking_walks _ e)

theorem followResult_walks (toil : ToilComp) (loc : LocationComp F) (path : PathfindingComp F)
    (result : PathResult F) : OnlyWalks e w (w.followResult e toil loc path result) := by
  unfold followResult
  dsimp only
  split
  next =>
    split
    next =>
      split
      next => exact w.giveUpPath_walks e toil _
      next => exact (w.setPathfinding_walks e _).trans (startWalking_walks _ e)
    next => exact (w.setPathfinding_walks e _).trans (startWalking_walks _ e)
  next => exact w.giveUpPath_walks e toil path

theorem followResult_map (toil : ToilComp) (loc : LocationComp F) (path : PathfindingComp F)
    (result : PathResult F) : (w.followResult e toil loc path result).map = w.map := by
  unfold followResult
  dsimp only
  split
  next =>
    split
    next => split <;> rfl
    next => rfl
  next => rfl

theorem giveUpPath_own (toil : ToilComp) (path : PathfindingComp F) :
    (w.giveUpPath e toil path).body e =
      { w.body e with
        toil := some { toil with state := .idle }
        pathfinding := some { path with waypoints := [] }
        velocity := (w.reg.velocity e).map fun _ => .still } := by
  simp only [giveUpPath, body_modifyVelocity, body_setPathfinding, body_setToil, if_true]
  rfl

theorem startWalking_own : ∃ velocity,
    (w.startWalking e).body e = { w.body e with velocity := some velocity } :=
  ⟨_, by rw [startWalking, body_setVelocity, if_pos rfl]⟩

theorem seekDirectly_own (path : PathfindingComp F) (targetX targetZ : F) :
    ∃ taken velocity, taken.waypoints = [] ∧ (w.seekDirectly e path targetX targetZ).body e =
      { w.body e with pathfinding := some taken, velocity := some velocity } := by
  let taken : PathfindingComp F :=
    { path with
      waypoints := [], currentWaypointIndex := 0, lastTargetX := targetX, lastTargetZ := targetZ
      isPartial := false, capRetryCount := 0 }
  obtain ⟨velocity, started⟩ := startWalking_own (w.setPathfinding e taken) e
  refine ⟨taken, velocity, rfl, ?_⟩
  unfold seekDirectly
  rw [started, body_setPathfinding, if_pos rfl]

theorem followResult_own (toil : ToilComp) (loc : LocationComp F) (path : PathfindingComp F)
    (result : PathResult F) :
    (∃ given velocity, given.waypoints = [] ∧ (w.followResult e toil loc path result).body e =
      { w.body e with
        toil := some { toil with state := .idle }
        pathfinding := some given
        velocity := velocity }) ∨
    ∃ taken velocity, result.waypoints ≠ [] ∧ taken.waypoints = result.waypoints ∧
      taken.currentWaypointIndex = 0 ∧ taken.isPartial = result.isPartial ∧
      taken.lastTargetX = path.lastTargetX ∧ taken.lastTargetZ = path.lastTargetZ ∧
      (w.followResult e toil loc path result).body e =
        { w.body e with pathfinding := some taken, velocity := some velocity } := by
  have walks (taken : PathfindingComp F) : ∃ velocity,
      ((w.setPathfinding e taken).startWalking e).body e =
        { w.body e with pathfinding := some taken, velocity := some velocity } := by
    obtain ⟨velocity, started⟩ := startWalking_own (w.setPathfinding e taken) e
    refine ⟨velocity, ?_⟩
    rw [started, body_setPathfinding, if_pos rfl]
  unfold followResult
  dsimp only
  split
  next usable =>
    have filled : result.waypoints ≠ [] := by
      intro none
      simp [none] at usable
    let taken : PathfindingComp F :=
      { path with
        waypoints := result.waypoints, currentWaypointIndex := 0, isPartial := result.isPartial }
    split
    next capped =>
      split
      next => exact .inl ⟨_, _, rfl, w.giveUpPath_own e toil _⟩
      next =>
        obtain ⟨velocity, walked⟩ := walks (countCap taken loc)
        exact .inr ⟨countCap taken loc, velocity, filled, rfl, rfl, rfl, rfl, rfl, walked⟩
    next =>
      obtain ⟨velocity, walked⟩ := walks { taken with capRetryCount := 0 }
      exact .inr ⟨{ taken with capRetryCount := 0 }, velocity, filled, rfl, rfl, rfl, rfl, rfl, walked⟩
  next => exact .inl ⟨_, _, rfl, w.giveUpPath_own e toil path⟩

theorem pathfinding_sighted {w : World F} {e : Entity} {choice : PathChoice F}
    {loc : LocationComp F} {job : JobComp F} {path : PathfindingComp F} (searches : Nat)
    (aimed : w.aim e choice = some (loc, job, path))
    (clear : w.map.isPathBlocked loc.x loc.z job.targetX job.targetZ = some false) :
    w.pathfinding e searches choice =
      some ((w.setJob e job).seekDirectly e path job.targetX job.targetZ, searches) := by
  unfold aim at aimed
  unfold pathfinding
  split at aimed
  next job toil loc hasJob hasToil located =>
    split at aimed
    next moving =>
      obtain ⟨rfl, rfl, rfl⟩ := by simpa using aimed
      simp [hasJob, hasToil, located, moving, clear]
    next => cases aimed
  next => cases aimed

theorem aim_congr (w' : World F) (choice : PathChoice F) (body : w'.body e = w.body e)
    (coords : w'.map.locationCoords = w.map.locationCoords) :
    w'.aim e choice = w.aim e choice := by
  have job : w'.reg.job e = w.reg.job e := congrArg Body.job body
  have toil : w'.reg.toil e = w.reg.toil e := congrArg Body.toil body
  have located : w'.reg.location e = w.reg.location e := congrArg Body.location body
  have path : w'.reg.pathfinding e = w.reg.pathfinding e := congrArg Body.pathfinding body
  unfold aim resolveTarget
  rw [job, toil, located, path, coords]

theorem Seeks.walks {w : World F} {e : Entity} {searches spent : Nat} {choice : PathChoice F}
    {w' : World F} (seeks : w.Seeks e searches choice w' spent) : OnlyWalks e w w' := by
  cases seeks with
  | unaimed => exact .refl e w
  | sighted loc job path => exact (w.setJob_walks e job).trans (seekDirectly_walks _ e path _ _)
  | kept loc job path => exact (w.setJob_walks e job).trans (setPathfinding_walks _ e path)
  | postponed loc job path => exact (w.setJob_walks e job).trans (setPathfinding_walks _ e path)
  | searched loc job path toil result map _ _ _ _ _ found =>
      obtain ⟨obstacles, coords⟩ := GridMap.findPath_keeps _ _ _ _ _ _ _ found
      have mapped : OnlyWalks e (w.setJob e job) { w.setJob e job with map := map } :=
        ⟨fun _ _ => rfl, obstacles, coords, rfl, rfl, rfl⟩
      exact ((w.setJob_walks e job).trans mapped).trans (followResult_walks _ e toil loc _ result)

def position : Option (F × F) := (w.reg.location e).map fun loc => (loc.x, loc.z)

theorem updateEntityPosition_placed (x z : F) (loc : LocationComp F)
    (located : w.reg.location e = some loc) :
    ∃ there, (w.updateEntityPosition e x z).body e = { w.body e with location := some there } ∧
      there.x = x ∧ there.z = z := by
  obtain ⟨placed, own, moved⟩ := w.updateEntityPosition_own e x z
  rw [located, Option.map_some] at moved
  obtain ⟨there, rfl, at_xz⟩ := Option.map_eq_some_iff.mp moved
  exact ⟨there, own, congrArg Prod.fst at_xz, congrArg Prod.snd at_xz⟩

theorem updateEntityPosition_position (x z : F) (loc : LocationComp F)
    (located : w.reg.location e = some loc) :
    (w.updateEntityPosition e x z).position e = some (x, z) := by
  obtain ⟨there, own, moved⟩ := w.updateEntityPosition_own e x z
  have placed : (w.updateEntityPosition e x z).reg.location e = there := congrArg Body.location own
  rw [position, placed, moved, located]
  rfl

omit [Scalar F] in
theorem Walker.congr {w w' : World F} {e : Entity} {loc : LocationComp F} {toil : ToilComp}
    {path : PathfindingComp F} {vel : VelocityComp F} {job : JobComp F}
    (walker : w.Walker e loc toil path vel job) (body : w'.body e = w.body e)
    (identity : w'.reg.identity e = w.reg.identity e) : w'.Walker e loc toil path vel job where
  location := (congrArg Body.location body).trans walker.location
  toil := (congrArg Body.toil body).trans walker.toil
  path := (congrArg Body.pathfinding body).trans walker.path
  velocity := (congrArg Body.velocity body).trans walker.velocity
  job := (congrArg Body.job body).trans walker.job
  identity := by rw [identity]; exact walker.identity

theorem movement_reached {w : World F} {e : Entity}
    {loc : LocationComp F} {toil : ToilComp} {path : PathfindingComp F} {vel : VelocityComp F}
    {job : JobComp F} (walker : w.Walker e loc toil path vel job) (moving : toil.state = .moving)
    (seeking : path.waypoints = []) (near : lt (distanceTo loc job) (lit 0.8) = true)
    (active : (w.reg.activity e).isSome) :
    ∃ w', w.movement e = some w' ∧ w.arrive e loc toil path job = some w' := by
  obtain ⟨activity, shown⟩ := Option.isSome_iff_exists.mp active
  obtain ⟨identity, identified⟩ := Option.isSome_iff_exists.mp walker.identity
  obtain ⟨w', arrived⟩ : ∃ w', w.arrive e loc toil path job = some w' := by
    simp [arrive, shown]
  refine ⟨w', ?_, arrived⟩
  unfold distanceTo at near
  simp [movement, walker.location, walker.toil, walker.path, walker.velocity, walker.job,
    identified, moving, seeking, seekTarget, near, arrived]

theorem arrive_own (loc : LocationComp F) (toil : ToilComp) (path : PathfindingComp F)
    (job : JobComp F) (w' : World F) (arrived : w.arrive e loc toil path job = some w') :
    OnlyWalks e w w' ∧ w'.map = w.map ∧ w'.position e = some (job.targetX, job.targetZ) ∧
      (∃ working, w'.reg.toil e = some working ∧ working.state = .working) ∧
      ∃ walked, w'.reg.pathfinding e = some walked ∧ walked.waypoints = [] := by
  simp only [arrive, Option.bind_eq_bind, Option.bind_eq_some_iff, Option.some.injEq] at arrived
  obtain ⟨activity, -, rfl⟩ := arrived
  generalize put_eq : w.setLocation e
    { loc with x := job.targetX, y := job.targetY, z := job.targetZ } = put
  generalize placed_eq : put.updateEntityPosition e job.targetX job.targetZ = placed
  have placed_walks : OnlyWalks e w placed := by
    rw [← placed_eq, ← put_eq]
    exact (w.setLocation_walks e _).trans (updateEntityPosition_walks _ e _ _)
  have placed_map : placed.map = w.map := by
    rw [← placed_eq, updateEntityPosition_map, ← put_eq]
    rfl
  have stands : placed.position e = some (job.targetX, job.targetZ) := by
    rw [← placed_eq]
    refine put.updateEntityPosition_position e _ _
      { loc with x := job.targetX, y := job.targetY, z := job.targetZ } ?_
    rw [← put_eq]
    simp [setLocation]
  refine ⟨?_, placed_map, stands, ?_, ?_⟩
  · exact (((placed_walks.trans (setToil_walks _ e _)).trans (setActivity_walks _ e _)).trans
      (setVelocity_walks _ e _)).trans (setPathfinding_walks _ e _)
  · exact ⟨{ toil with state := .working, durationTicks := 3, currentAction := job.intent },
      by simp [setPathfinding, setVelocity, setActivity, setToil], rfl⟩
  · exact ⟨{ path with
      waypoints := [], currentWaypointIndex := 0, isPartial := false, capRetryCount := 0 },
      by simp [setPathfinding], rfl⟩

theorem Strides.walks {w : World F} {e : Entity} {w' : World F} (strides : w.Strides e w') :
    OnlyWalks e w w' := by
  refine strides.preserves (OnlyWalks e w) (fun write before => before.trans ?_) (.refl e w)
  cases write with
  | velocity => exact setVelocity_walks _ e _
  | path => exact setPathfinding_walks _ e _
  | toil => exact setToil_walks _ e _
  | activity => exact setActivity_walks _ e _
  | step => exact updateEntityPosition_walks _ e _ _
  | put loc => exact (setLocation_walks _ e loc).trans (updateEntityPosition_walks _ e _ _)

theorem Strides.map {w : World F} {e : Entity} {w' : World F} (strides : w.Strides e w') :
    w'.map = w.map := by
  refine strides.preserves (fun m => m.map = w.map) (fun write before => Eq.trans ?_ before) rfl
  cases write with
  | step => exact updateEntityPosition_map _ e _ _
  | put => exact updateEntityPosition_map _ e _ _
  | velocity | path | toil | activity => rfl

end World

-- The movement pass visits each entity as the pass found it.
theorem movementPass_visit [Scalar F] (entities : List Entity) (mid last : World F)
    (walked : follow step (entities.map .movement) mid = some last) (distinct : entities.Nodup) :
    (∀ x, x ∉ entities → last.body x = mid.body x) ∧
      ∀ e ∈ entities, ∃ m m' : World F, m.body e = mid.body e ∧
        m.reg.identity = mid.reg.identity ∧ m.movement e = some m' ∧ last.body e = m'.body e := by
  induction entities generalizing mid with
  | nil =>
      obtain rfl : mid = last := by simpa [follow] using walked
      exact ⟨fun _ _ => rfl, fun e member => by cases member⟩
  | cons y rest ih =>
      simp only [follow, List.map_cons, List.foldlM_cons, Option.bind_eq_bind,
        Option.bind_eq_some_iff] at walked
      obtain ⟨next, visited, later⟩ := walked
      have walks := (mid.movement_strides y next visited).walks
      obtain ⟨fresh, distinct⟩ := List.nodup_cons.mp distinct
      obtain ⟨others, visits⟩ := ih next later distinct
      constructor
      · intro x outside
        obtain ⟨other, unvisited⟩ := not_or.mp (List.mem_cons.not.mp outside)
        exact (others x unvisited).trans (walks.others x other)
      · intro e member
        rcases List.mem_cons.mp member with rfl | later
        · exact ⟨mid, next, rfl, rfl, visited, others e fresh⟩
        · obtain ⟨m, m', body, ids, moved, left⟩ := visits e later
          have other : e ≠ y := by
            rintro rfl
            exact fresh later
          exact ⟨m, m', body.trans (walks.others e other), ids.trans walks.identity, moved, left⟩

end MundusVivens
