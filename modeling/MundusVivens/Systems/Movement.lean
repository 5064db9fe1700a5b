import MundusVivens.Systems.Survival

set_option autoImplicit false

namespace MundusVivens

open Scalar LocationRegistry

variable {F : Type} [Scalar F]

-- What the path finding of one entity may draw or leave open.
structure PathChoice (F : Type) where
  draw : RadiusDraw F
  top : OpenSet F

def maxPathfindsPerTick : Nat := 8

namespace World

-- A named target at (0, 0) is looked up first.
def resolveTarget (w : World F) (job : JobComp F) (choice : PathChoice F) : JobComp F :=
  if job.targetLocation ≠ "" && Scalar.eq job.targetX zero && Scalar.eq job.targetZ zero then
    let center := (w.map.locationCoords job.targetLocation).getD ⟨job.targetX, job.targetZ⟩
    let target := randomizeWithinRadius center.x center.z locationRadius choice.draw
    { job with targetX := target.1, targetZ := target.2 }
  else job

-- Drop a path whose target has moved by more than 2 units.
def forgetMovedTarget (path : PathfindingComp F) (targetX targetZ : F) : PathfindingComp F :=
  let dx := targetX - path.lastTargetX
  let dz := targetZ - path.lastTargetZ
  if lt (lit 4) (dx * dx + dz * dz) then { path with waypoints := [] } else path

def startWalking (w : World F) (e : Entity) : World F :=
  let velocity := (w.reg.velocity e).getD .initial
  w.setVelocity e { velocity with speed := w.settings.npcSpeed }

-- Give up on the target: idle, no path, and no velocity when the entity has one.
def giveUpPath (w : World F) (e : Entity) (toil : ToilComp) (path : PathfindingComp F) : World F :=
  ((w.setToil e { toil with state := .idle }).setPathfinding e
    { path with waypoints := [] }).modifyVelocity e fun _ => .still

-- The line of sight is clear: walk straight to the target.
def seekDirectly (w : World F) (e : Entity) (path : PathfindingComp F) (targetX targetZ : F) :
    World F :=
  (w.setPathfinding e
    { path with
      waypoints := []
      currentWaypointIndex := 0
      lastTargetX := targetX
      lastTargetZ := targetZ
      isPartial := false
      capRetryCount := 0 }).startWalking e

-- Count the partial paths found without progress in between.
def countCap (path : PathfindingComp F) (loc : LocationComp F) : PathfindingComp F :=
  let moved := hypot (loc.x - path.lastCapPosX) (loc.z - path.lastCapPosZ)
  { path with
    capRetryCount := if lt moved (lit 1) then path.capRetryCount + 1 else 0
    lastCapPosX := loc.x
    lastCapPosZ := loc.z }

def followResult (w : World F) (e : Entity) (toil : ToilComp) (loc : LocationComp F)
    (path : PathfindingComp F) (result : PathResult F) : World F :=
  if !result.isFailed && !result.waypoints.isEmpty then
    let taken : PathfindingComp F :=
      { path with
        waypoints := result.waypoints
        currentWaypointIndex := 0
        isPartial := result.isPartial }
    if result.isPartial then
      let counted := countCap taken loc
      if 2 ≤ counted.capRetryCount then
        w.giveUpPath e toil { counted with capRetryCount := 0 }
      else (w.setPathfinding e counted).startWalking e
    else (w.setPathfinding e { taken with capRetryCount := 0 }).startWalking e
  else w.giveUpPath e toil path

-- Returns the number of searches of this frame as well.
def pathfinding (w : World F) (e : Entity) (searches : Nat) (choice : PathChoice F) :
    Option (World F × Nat) :=
  match w.reg.job e, w.reg.toil e, w.reg.location e with
  | some job, some toil, some loc =>
      if toil.state = .moving then do
        let resolved := w.resolveTarget job choice
        let aimed := w.setJob e resolved
        let path := forgetMovedTarget ((w.reg.pathfinding e).getD .initial)
          resolved.targetX resolved.targetZ
        let blocked ← w.map.isPathBlocked loc.x loc.z resolved.targetX resolved.targetZ
        if !blocked then some (aimed.seekDirectly e path resolved.targetX resolved.targetZ, searches)
        else if !path.waypoints.isEmpty || maxPathfindsPerTick ≤ searches then
          some (aimed.setPathfinding e path, searches)
        else do
          let (result, map) ← w.map.findPath choice.top loc.x loc.z resolved.targetX
            resolved.targetZ GridMap.defaultIterations
          let searched :=
            { path with lastTargetX := resolved.targetX, lastTargetZ := resolved.targetZ }
          some ({ aimed with map := map }.followResult e toil loc searched result, searches + 1)
      else some (w, searches)
  | _, _, _ => some (w, searches)

-- The arrival branches: put the entity on the target and start working.
def arrive (w : World F) (e : Entity) (loc : LocationComp F) (toil : ToilComp)
    (path : PathfindingComp F) (job : JobComp F) : Option (World F) := do
  let put := w.setLocation e { loc with x := job.targetX, y := job.targetY, z := job.targetZ }
  let placed := put.updateEntityPosition e job.targetX job.targetZ
  let _ ← w.reg.activity e
  let working := placed.setToil e
    { toil with state := .working, durationTicks := 3, currentAction := job.intent }
  let shown := working.setActivity e job.intent
  some ((shown.setVelocity e .still).setPathfinding e
    { path with
      waypoints := [], currentWaypointIndex := 0, isPartial := false, capRetryCount := 0 })

-- Steer around an obstacle 1.5 units ahead.
def avoidObstacle (w : World F) (loc : LocationComp F) (steerX steerZ : F) : Option (F × F) := do
  let checkDist := lit 1.5
  let ahead ← w.map.isPathBlocked loc.x loc.z (loc.x + steerX * checkDist)
    (loc.z + steerZ * checkDist)
  if !ahead then some (steerX, steerZ)
  else do
    let perpX := -steerZ
    let perpZ := steerX
    let left ← w.map.isPathBlocked loc.x loc.z (loc.x + perpX * lit 1.2) (loc.z + perpZ * lit 1.2)
    let right ← w.map.isPathBlocked loc.x loc.z (loc.x - perpX * lit 1.2) (loc.z - perpZ * lit 1.2)
    let (avoidX, avoidZ) :=
      if !left then (perpX, perpZ)
      else if !right then (-perpX, -perpZ)
      else (perpX, perpZ)
    let steerX := steerX + avoidX * lit 0.7
    let steerZ := steerZ + avoidZ * lit 0.7
    let steerLen := hypot steerX steerZ
    some (if lt (lit 0.001) steerLen then (steerX / steerLen, steerZ / steerLen)
      else (steerX, steerZ))

def frameTime : F := lit 0.05

-- Direct seek: no waypoints, straight to the job target.
def seekTarget (w : World F) (e : Entity) (loc : LocationComp F) (toil : ToilComp)
    (path : PathfindingComp F) (vel : VelocityComp F) (job : JobComp F) : Option (World F) :=
  let dx := job.targetX - loc.x
  let dz := job.targetZ - loc.z
  let dist := hypot dx dz
  if lt dist (lit 0.8) then w.arrive e loc toil path job
  else do
    let (steerX, steerZ) ← w.avoidObstacle loc (dx / dist) (dz / dist)
    let steered := w.setVelocity e { vel with dirX := steerX, dirZ := steerZ }
    let moveStep := vel.speed * frameTime
    some (steered.updateEntityPosition e (loc.x + steerX * moveStep) (loc.z + steerZ * moveStep))

-- Every waypoint is used up.
def finishPath (w : World F) (e : Entity) (loc : LocationComp F) (toil : ToilComp)
    (path : PathfindingComp F) (job : JobComp F) : Option (World F) :=
  let distToFinal := hypot (job.targetX - loc.x) (job.targetZ - loc.z)
  if lt distToFinal (lit 1) || !path.isPartial then w.arrive e loc toil path job
  else some (w.setPathfinding e path.reset)

def followWaypoint (w : World F) (e : Entity) (loc : LocationComp F) (path : PathfindingComp F)
    (vel : VelocityComp F) (target : GridVector2 F) : World F :=
  let dx := target.x - loc.x
  let dz := target.z - loc.z
  let dist := hypot dx dz
  let next := { path with currentWaypointIndex := path.currentWaypointIndex + 1 }
  if lt dist (lit 0.1) then w.setPathfinding e next
  else
    let dirX := dx / dist
    let dirZ := dz / dist
    let turned := w.setVelocity e { vel with dirX := dirX, dirZ := dirZ }
    let moveStep := vel.speed * frameTime
    if le dist moveStep then
      (turned.setPathfinding e next).updateEntityPosition e target.x target.z
    else turned.updateEntityPosition e (loc.x + dirX * moveStep) (loc.z + dirZ * moveStep)

def movement (w : World F) (e : Entity) : Option (World F) :=
  match w.reg.location e, w.reg.toil e, w.reg.pathfinding e, w.reg.velocity e, w.reg.job e,
    w.reg.identity e with
  | some loc, some toil, some path, some vel, some job, some _ =>
      if toil.state = .moving then
        if path.waypoints.isEmpty then w.seekTarget e loc toil path vel job
        else
          match path.waypoints[path.currentWaypointIndex]? with
          | none => w.finishPath e loc toil path job
          | some target => some (w.followWaypoint e loc path vel target)
      else some (w.setVelocity e .still)
  | _, _, _, _, _, _ => some w

end World

end MundusVivens
