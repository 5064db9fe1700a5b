import MundusVivens.Systems.Movement
import MundusVivens.Walking.Search
import Mathlib.Logic.Relation

set_option autoImplicit false

namespace MundusVivens

open Scalar LocationRegistry

variable {F : Type} [Scalar F]

namespace World

section

variable (w : World F) (e : Entity)

-- What the path finding of a moving entity starts from: where it stands, its job with the target
-- filled in, and the path that is still good.
def aim (choice : PathChoice F) : Option (LocationComp F × JobComp F × PathfindingComp F) :=
  match w.reg.job e, w.reg.toil e, w.reg.location e with
  | some job, some toil, some loc =>
      if toil.state = .moving then
        let resolved := w.resolveTarget job choice
        some (loc, resolved, forgetMovedTarget ((w.reg.pathfinding e).getD .initial)
          resolved.targetX resolved.targetZ)
      else none
  | _, _, _ => none

theorem aim_some (choice : PathChoice F) (loc : LocationComp F) (job : JobComp F)
    (path : PathfindingComp F) (aimed : w.aim e choice = some (loc, job, path)) :
    w.reg.location e = some loc ∧
      (∃ toil, w.reg.toil e = some toil ∧ toil.state = .moving) ∧
      (∃ old, w.reg.job e = some old ∧ job = w.resolveTarget old choice) ∧
      path = forgetMovedTarget ((w.reg.pathfinding e).getD .initial) job.targetX job.targetZ := by
  unfold aim at aimed
  split at aimed
  next job toil loc hasJob hasToil located =>
    split at aimed
    next moving =>
      obtain ⟨rfl, rfl, rfl⟩ := by simpa using aimed
      exact ⟨located, ⟨toil, hasToil, moving⟩, ⟨job, hasJob, rfl⟩, rfl⟩
    next => cases aimed
  next => cases aimed

inductive Seeks (searches : Nat) (choice : PathChoice F) : World F → Nat → Prop where
  | unaimed (nowhere : w.aim e choice = none) : Seeks searches choice w searches
  | sighted (loc : LocationComp F) (job : JobComp F) (path : PathfindingComp F)
      (aimed : w.aim e choice = some (loc, job, path))
      (clear : w.map.isPathBlocked loc.x loc.z job.targetX job.targetZ = some false) :
      Seeks searches choice ((w.setJob e job).seekDirectly e path job.targetX job.targetZ) searches
  | kept (loc : LocationComp F) (job : JobComp F) (path : PathfindingComp F)
      (aimed : w.aim e choice = some (loc, job, path))
      (blocked : w.map.isPathBlocked loc.x loc.z job.targetX job.targetZ = some true)
      (walking : path.waypoints ≠ []) :
      Seeks searches choice ((w.setJob e job).setPathfinding e path) searches
  | postponed (loc : LocationComp F) (job : JobComp F) (path : PathfindingComp F)
      (aimed : w.aim e choice = some (loc, job, path))
      (blocked : w.map.isPathBlocked loc.x loc.z job.targetX job.targetZ = some true)
      (pathless : path.waypoints = []) (spent : maxPathfindsPerTick ≤ searches) :
      Seeks searches choice ((w.setJob e job).setPathfinding e path) searches
  | searched (loc : LocationComp F) (job : JobComp F) (path : PathfindingComp F) (toil : ToilComp)
      (result : PathResult F) (map : GridMap F)
      (aimed : w.aim e choice = some (loc, job, path)) (hasToil : w.reg.toil e = some toil)
      (blocked : w.map.isPathBlocked loc.x loc.z job.targetX job.targetZ = some true)
      (pathless : path.waypoints = []) (left : searches < maxPathfindsPerTick)
      (found : w.map.findPath choice.top loc.x loc.z job.targetX job.targetZ
        GridMap.defaultIterations = some (result, map)) :
      Seeks searches choice
        (({ w.setJob e job with map := map } : World F).followResult e toil loc
          { path with lastTargetX := job.targetX, lastTargetZ := job.targetZ } result)
        (searches + 1)

theorem pathfinding_seeks (searches spent : Nat) (choice : PathChoice F) (w' : World F)
    (visited : w.pathfinding e searches choice = some (w', spent)) :
    w.Seeks e searches choice w' spent := by
  unfold pathfinding at visited
  split at visited
  next job toil loc hasJob hasToil located =>
    split at visited
    next moving =>
      have aimed : w.aim e choice = some (loc, w.resolveTarget job choice,
          forgetMovedTarget ((w.reg.pathfinding e).getD .initial)
            (w.resolveTarget job choice).targetX (w.resolveTarget job choice).targetZ) := by
        simp [aim, hasJob, hasToil, located, moving]
      simp only [Option.bind_eq_bind, Option.bind_eq_some_iff] at visited
      obtain ⟨blocked, sight, visited⟩ := visited
      cases blocked with
      | false =>
          obtain ⟨rfl, rfl⟩ := by simpa using visited
          exact .sighted _ _ _ aimed sight
      | true =>
          simp only [Bool.not_true, Bool.false_eq_true, if_false] at visited
          split at visited
          next exempt =>
            obtain ⟨rfl, rfl⟩ := by simpa using visited
            by_cases walking : (forgetMovedTarget ((w.reg.pathfinding e).getD .initial)
                (w.resolveTarget job choice).targetX
                (w.resolveTarget job choice).targetZ).waypoints = []
            next => exact .postponed _ _ _ aimed sight walking (by simpa [walking] using exempt)
            next => exact .kept _ _ _ aimed sight walking
          next due =>
            obtain ⟨pathless, left⟩ := by simpa using due
            simp only [Option.bind_eq_some_iff] at visited
            obtain ⟨⟨result, map⟩, found, visited⟩ := visited
            obtain ⟨rfl, rfl⟩ := by simpa using visited
            exact .searched loc _ _ toil result map aimed hasToil sight pathless left found
    next still =>
      obtain ⟨rfl, rfl⟩ := by simpa using visited
      exact .unaimed (by simp [aim, hasJob, hasToil, located, still])
  next missing =>
    obtain ⟨rfl, rfl⟩ := by simpa using visited
    refine .unaimed ?_
    unfold aim
    split
    next job toil loc hasJob hasToil located => exact absurd located (missing job toil loc hasJob hasToil)
    next => rfl

theorem followResult_cases (toil : ToilComp) (loc : LocationComp F) (path : PathfindingComp F)
    (result : PathResult F) :
    (∃ given, w.followResult e toil loc path result = w.giveUpPath e toil given) ∨
      ∃ taken, w.followResult e toil loc path result =
        (w.setPathfinding e taken).startWalking e := by
  unfold followResult
  split
  next =>
    dsimp only
    split
    next =>
      split
      next => exact .inl ⟨_, rfl⟩
      next => exact .inr ⟨_, rfl⟩
    next => exact .inr ⟨_, rfl⟩
  next => exact .inl ⟨_, rfl⟩

structure Walker (loc : LocationComp F) (toil : ToilComp) (path : PathfindingComp F)
    (vel : VelocityComp F) (job : JobComp F) : Prop where
  location : w.reg.location e = some loc
  toil : w.reg.toil e = some toil
  path : w.reg.pathfinding e = some path
  velocity : w.reg.velocity e = some vel
  job : w.reg.job e = some job
  identity : (w.reg.identity e).isSome

def distanceTo (loc : LocationComp F) (job : JobComp F) : F :=
  hypot (job.targetX - loc.x) (job.targetZ - loc.z)

inductive Strides : World F → Prop where
  | unready (missing : ∀ loc toil path vel job, ¬w.Walker e loc toil path vel job) : Strides w
  | resting (loc : LocationComp F) (toil : ToilComp) (path : PathfindingComp F)
      (vel : VelocityComp F) (job : JobComp F) (walker : w.Walker e loc toil path vel job)
      (still : toil.state ≠ .moving) : Strides (w.setVelocity e .still)
  | reached (loc : LocationComp F) (toil : ToilComp) (path : PathfindingComp F)
      (vel : VelocityComp F) (job : JobComp F) (walker : w.Walker e loc toil path vel job)
      (moving : toil.state = .moving) (seeking : path.waypoints = [])
      (near : lt (distanceTo loc job) (lit 0.8) = true) (w' : World F)
      (arrived : w.arrive e loc toil path job = some w') : Strides w'
  | steered (loc : LocationComp F) (toil : ToilComp) (path : PathfindingComp F)
      (vel : VelocityComp F) (job : JobComp F) (walker : w.Walker e loc toil path vel job)
      (moving : toil.state = .moving) (seeking : path.waypoints = [])
      (far : lt (distanceTo loc job) (lit 0.8) = false) (steer : F × F)
      (avoided : w.avoidObstacle loc ((job.targetX - loc.x) / distanceTo loc job)
        ((job.targetZ - loc.z) / distanceTo loc job) = some steer) :
      Strides ((w.setVelocity e { vel with dirX := steer.1, dirZ := steer.2 }).updateEntityPosition
        e (loc.x + steer.1 * (vel.speed * frameTime)) (loc.z + steer.2 * (vel.speed * frameTime)))
  | finished (loc : LocationComp F) (toil : ToilComp) (path : PathfindingComp F)
      (vel : VelocityComp F) (job : JobComp F) (walker : w.Walker e loc toil path vel job)
      (moving : toil.state = .moving) (walking : path.waypoints ≠ [])
      (used : path.waypoints.length ≤ path.currentWaypointIndex)
      (close : lt (distanceTo loc job) (lit 1) = true ∨ path.isPartial = false) (w' : World F)
      (arrived : w.arrive e loc toil path job = some w') : Strides w'
  | cutShort (loc : LocationComp F) (toil : ToilComp) (path : PathfindingComp F)
      (vel : VelocityComp F) (job : JobComp F) (walker : w.Walker e loc toil path vel job)
      (moving : toil.state = .moving) (walking : path.waypoints ≠ [])
      (used : path.waypoints.length ≤ path.currentWaypointIndex) :
      Strides (w.setPathfinding e path.reset)
  | followed (loc : LocationComp F) (toil : ToilComp) (path : PathfindingComp F)
      (vel : VelocityComp F) (job : JobComp F) (walker : w.Walker e loc toil path vel job)
      (moving : toil.state = .moving) (target : GridVector2 F)
      (ahead : path.waypoints[path.currentWaypointIndex]? = some target) :
      Strides (w.followWaypoint e loc path vel target)

theorem movement_strides (w' : World F) (moved : w.movement e = some w') : w.Strides e w' := by
  unfold movement at moved
  split at moved
  next loc toil path vel job identity located hasToil hasPath hasVelocity hasJob identified =>
    have walker : w.Walker e loc toil path vel job :=
      ⟨located, hasToil, hasPath, hasVelocity, hasJob, by simp [identified]⟩
    split at moved
    next moving =>
      split at moved
      next empty =>
        have seeking : path.waypoints = [] := List.isEmpty_iff.mp empty
        unfold seekTarget at moved
        dsimp only at moved
        split at moved
        next near => exact .reached loc toil path vel job walker moving seeking near w' moved
        next far =>
          simp only [Option.bind_eq_bind, Option.bind_eq_some_iff] at moved
          obtain ⟨steer, avoided, moved⟩ := moved
          obtain rfl := Option.some.inj moved
          exact .steered loc toil path vel job walker moving seeking (by simpa [distanceTo] using far) steer
            avoided
      next filled =>
        have walking : path.waypoints ≠ [] := fun empty => filled (List.isEmpty_iff.mpr empty)
        split at moved
        next past =>
          have used : path.waypoints.length ≤ path.currentWaypointIndex :=
            List.getElem?_eq_none_iff.mp past
          unfold finishPath at moved
          dsimp only at moved
          split at moved
          next close =>
            refine .finished loc toil path vel job walker moving walking used ?_ w' moved
            simpa [distanceTo] using close
          next =>
            obtain rfl := Option.some.inj moved
            exact .cutShort loc toil path vel job walker moving walking used
        next target ahead =>
          obtain rfl := Option.some.inj moved
          exact .followed loc toil path vel job walker moving target ahead
    next still =>
      obtain rfl := Option.some.inj moved
      exact .resting loc toil path vel job walker still
  next missing =>
    obtain rfl := Option.some.inj moved
    refine .unready fun loc toil path vel job walker => ?_
    obtain ⟨identity, identified⟩ := Option.isSome_iff_exists.mp walker.identity
    exact missing loc toil path vel job identity walker.location walker.toil walker.path
      walker.velocity walker.job identified

end

variable {w w' : World F} {e : Entity}

inductive SeekWrite (e : Entity) (w : World F) : World F → Prop
  | job (job : JobComp F) : SeekWrite e w (w.setJob e job)
  | toil (toil : ToilComp) : SeekWrite e w (w.setToil e toil)
  | path (path : PathfindingComp F) : SeekWrite e w (w.setPathfinding e path)
  | velocity (velocity : VelocityComp F) : SeekWrite e w (w.setVelocity e velocity)
  | halt (f : VelocityComp F → VelocityComp F) : SeekWrite e w (w.modifyVelocity e f)
  | map (map : GridMap F) (walls : map.grid = w.map.grid)
      (places : map.locationCoords = w.map.locationCoords) : SeekWrite e w { w with map := map }

abbrev SeekWrites (e : Entity) : World F → World F → Prop := Relation.ReflTransGen (SeekWrite e)

theorem pathfinding_writes {searches spent : Nat} {choice : PathChoice F}
    (visited : w.pathfinding e searches choice = some (w', spent)) : SeekWrites e w w' := by
  have walking {m : World F} (before : SeekWrites e w m) (path : PathfindingComp F) :
      SeekWrites e w ((m.setPathfinding e path).startWalking e) :=
    (before.tail (.path path)).tail (.velocity _)
  have aimed (job : JobComp F) : SeekWrites e w (w.setJob e job) := .single (.job job)
  cases w.pathfinding_seeks e searches spent choice w' visited with
  | unaimed => exact .refl
  | sighted loc job path => exact walking (aimed job) _
  | kept loc job path => exact (aimed job).tail (.path path)
  | postponed loc job path => exact (aimed job).tail (.path path)
  | searched loc job path toil result map _ _ _ _ _ found =>
      obtain ⟨walls, places⟩ := w.map.findPath_keeps _ _ _ _ _ _ result found
      have mapped := (aimed job).tail (.map map walls places)
      rcases followResult_cases { w.setJob e job with map := map } e toil loc
        { path with lastTargetX := job.targetX, lastTargetZ := job.targetZ } result with
        ⟨given, ended⟩ | ⟨taken, ended⟩
      · rw [ended]
        exact ((mapped.tail (.toil _)).tail (.path _)).tail (.halt _)
      · rw [ended]
        exact walking mapped taken

theorem pathfinding_preserves (P : World F → Prop) {searches spent : Nat} {choice : PathChoice F}
    (respected : ∀ {m m' : World F}, SeekWrite e m m' → P m → P m')
    (visited : w.pathfinding e searches choice = some (w', spent)) (holds : P w) : P w' := by
  have writes := pathfinding_writes visited
  clear visited
  induction writes with
  | refl => exact holds
  | tail _ write ih => exact respected write ih

-- A write of `SystemMovement`. An arrival puts the entity on its target.
inductive MoveWrite (e : Entity) (w : World F) : World F → Prop
  | velocity (velocity : VelocityComp F) : MoveWrite e w (w.setVelocity e velocity)
  | path (path : PathfindingComp F) : MoveWrite e w (w.setPathfinding e path)
  | toil (toil : ToilComp) : MoveWrite e w (w.setToil e toil)
  | activity (text : String) : MoveWrite e w (w.setActivity e text)
  | step (x z : F) (located : (w.reg.location e).isSome = true) :
      MoveWrite e w (w.updateEntityPosition e x z)
  | put (loc : LocationComp F) (located : (w.reg.location e).isSome = true) :
      MoveWrite e w ((w.setLocation e loc).updateEntityPosition e loc.x loc.z)

abbrev MoveWrites (e : Entity) : World F → World F → Prop := Relation.ReflTransGen (MoveWrite e)

theorem arrive_writes {loc : LocationComp F} {toil : ToilComp} {path : PathfindingComp F}
    {job : JobComp F} (located : w.reg.location e = some loc)
    (arrived : w.arrive e loc toil path job = some w') : MoveWrites e w w' := by
  simp only [arrive, Option.bind_eq_bind, Option.bind_eq_some_iff] at arrived
  obtain ⟨activity, -, stored⟩ := arrived
  obtain rfl := Option.some.inj stored
  have put : MoveWrites e w _ := .single
    (.put { loc with x := job.targetX, y := job.targetY, z := job.targetZ } (by simp [located]))
  exact (((put.tail (.toil _)).tail (.activity _)).tail (.velocity _)).tail (.path _)

theorem followWaypoint_writes {loc : LocationComp F} {path : PathfindingComp F}
    {vel : VelocityComp F} {target : GridVector2 F} (located : w.reg.location e = some loc) :
    MoveWrites e w (w.followWaypoint e loc path vel target) := by
  unfold followWaypoint
  dsimp only
  split
  next => exact .single (.path _)
  next =>
    split
    next =>
      exact ((Relation.ReflTransGen.single (.velocity _)).tail (.path _)).tail
        (.step _ _ (by simp [setPathfinding, setVelocity, located]))
    next =>
      exact (Relation.ReflTransGen.single (.velocity _)).tail
        (.step _ _ (by simp [setVelocity, located]))

theorem Strides.writes (strides : w.Strides e w') : MoveWrites e w w' := by
  cases strides with
  | unready => exact .refl
  | resting => exact .single (.velocity _)
  | reached loc toil path vel job walker _ _ _ _ arrived =>
      exact arrive_writes walker.location arrived
  | steered loc toil path vel job walker =>
      exact (Relation.ReflTransGen.single (.velocity _)).tail
        (.step _ _ (by simp [setVelocity, walker.location]))
  | finished loc toil path vel job walker _ _ _ _ _ arrived =>
      exact arrive_writes walker.location arrived
  | cutShort => exact .single (.path _)
  | followed loc toil path vel job walker => exact followWaypoint_writes walker.location

theorem Strides.preserves (P : World F → Prop)
    (respected : ∀ {m m' : World F}, MoveWrite e m m' → P m → P m')
    (strides : w.Strides e w') (holds : P w) : P w' := by
  have writes := strides.writes
  clear strides
  induction writes with
  | refl => exact holds
  | tail _ write ih => exact respected write ih

theorem movement_preserves (P : World F → Prop)
    (respected : ∀ {m m' : World F}, MoveWrite e m m' → P m → P m')
    (moved : w.movement e = some w') (holds : P w) : P w' :=
  (w.movement_strides e w' moved).preserves P respected holds

end World

end MundusVivens
