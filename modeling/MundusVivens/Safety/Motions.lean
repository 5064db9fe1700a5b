import MundusVivens.Safety.Soundness

set_option autoImplicit false

/-!
# Motions

Only what has searched a path has a velocity, and a visit of `SystemMovement` leaves
whoever is not walking without motion.
-/

namespace MundusVivens

open Scalar BehaviorTree Runs

variable {F : Type}

-- A velocity comes with the component of the path finding.
def World.Trailed (w : World F) (x : Entity) : Prop :=
  (w.reg.velocity x).isSome = true → (w.reg.pathfinding x).isSome = true

namespace World

variable {w w' : World F} {e x : Entity}

namespace Trailed

theorem of_body (trailed : w.Trailed x) (velocity : (w'.body x).velocity = (w.body x).velocity)
    (pathfinding : (w'.body x).pathfinding = (w.body x).pathfinding) : w'.Trailed x := by
  have same : w'.reg.velocity x = w.reg.velocity x := velocity
  have path : w'.reg.pathfinding x = w.reg.pathfinding x := pathfinding
  unfold Trailed
  rw [same, path]
  exact trailed

theorem modifyVelocity (trailed : w.Trailed x) (y : Entity)
    (f : VelocityComp F → VelocityComp F) : (w.modifyVelocity y f).Trailed x := by
  intro moves
  refine trailed ?_
  by_cases same : x = y <;> simpa [World.modifyVelocity, same] using moves

theorem clearPath (trailed : w.Trailed x) (y : Entity) : (w.clearPath y).Trailed x := by
  intro moves
  have before := trailed moves
  by_cases same : x = y <;> simpa [World.clearPath, same] using before

theorem setPathfinding (trailed : w.Trailed x) (y : Entity) (path : PathfindingComp F) :
    (w.setPathfinding y path).Trailed x := by
  intro moves
  by_cases same : x = y
  next => simp [World.setPathfinding, same]
  next => simpa [World.setPathfinding, same] using trailed moves

theorem setVelocity (trailed : w.Trailed x) (y : Entity) (velocity : VelocityComp F)
    (searched : (w.reg.pathfinding y).isSome = true) : (w.setVelocity y velocity).Trailed x := by
  intro moves
  by_cases same : x = y
  next =>
    subst same
    exact searched
  next => exact trailed (by simpa [World.setVelocity, same] using moves)

end Trailed

variable [Scalar F]

theorem startWalking_trailed (trailed : w.Trailed x) (path : PathfindingComp F) :
    ((w.setPathfinding e path).startWalking e).Trailed x :=
  (trailed.setPathfinding e path).setVelocity e _ (by simp [World.setPathfinding])

theorem pathfinding_trailed (searches spent : Nat) (choice : PathChoice F) (trailed : w.Trailed x)
    (visited : w.pathfinding e searches choice = some (w', spent)) : w'.Trailed x := by
  cases w.pathfinding_seeks e searches spent choice w' visited with
  | unaimed => exact trailed
  | sighted loc job path =>
      have aimed : (w.setJob e job).Trailed x := trailed
      exact startWalking_trailed aimed _
  | kept loc job path | postponed loc job path =>
      have aimed : (w.setJob e job).Trailed x := trailed
      exact aimed.setPathfinding e path
  | searched loc job path toil result map =>
      have mapped : ({ w.setJob e job with map := map } : World F).Trailed x := trailed
      rcases followResult_cases { w.setJob e job with map := map } e toil loc
        { path with lastTargetX := job.targetX, lastTargetZ := job.targetZ } result with
        ⟨given, ended⟩ | ⟨taken, ended⟩
      · rw [ended]
        have dropped : (({ w.setJob e job with map := map } : World F).setToil e
          { toil with state := .idle }).Trailed x := mapped
        exact (dropped.setPathfinding e _).modifyVelocity e _
      · rw [ended]
        exact startWalking_trailed mapped taken

theorem movement_trailed (trailed : w.Trailed x) (moved : w.movement e = some w') :
    w'.Trailed x := by
  have sited (m : World F) (a b : F) (known : m.Trailed x) :
      (m.updateEntityPosition e a b).Trailed x := by
    obtain ⟨grid, location, put⟩ := m.updateEntityPosition_eq e a b
    rw [put]
    exact known
  have arrived (loc : LocationComp F) (toil : ToilComp) (path : PathfindingComp F)
      (job : JobComp F) (searched : (w.reg.pathfinding e).isSome = true)
      (arrives : w.arrive e loc toil path job = some w') : w'.Trailed x := by
    simp only [arrive, Option.bind_eq_bind, Option.bind_eq_some_iff] at arrives
    obtain ⟨activity, -, stored⟩ := arrives
    obtain rfl := Option.some.inj stored
    have put := sited (w.setLocation e
      { loc with x := job.targetX, y := job.targetY, z := job.targetZ }) job.targetX job.targetZ trailed
    have path : ((w.setLocation e { loc with
        x := job.targetX, y := job.targetY, z := job.targetZ }).updateEntityPosition e job.targetX
          job.targetZ).reg.pathfinding e = w.reg.pathfinding e :=
      updateEntityPosition_same _ _ _ _ .pathfinding (by simp)
    have working : ((((w.setLocation e { loc with
        x := job.targetX, y := job.targetY, z := job.targetZ }).updateEntityPosition e job.targetX
          job.targetZ).setToil e { toil with
            state := .working, durationTicks := 3, currentAction := job.intent }).setActivity e
              job.intent).Trailed x := put
    exact (working.setVelocity e _ ((congrArg Option.isSome path).trans searched)).setPathfinding e _
  cases w.movement_strides e w' moved with
  | unready => exact trailed
  | resting loc toil path vel job walker =>
      exact trailed.setVelocity e _ (by simp [walker.path])
  | reached loc toil path vel job walker _ _ _ _ arrives
  | finished loc toil path vel job walker _ _ _ _ _ arrives =>
      exact arrived loc toil path job (by simp [walker.path]) arrives
  | steered loc toil path vel job walker =>
      exact sited _ _ _ (trailed.setVelocity e _ (by simp [walker.path]))
  | cutShort loc toil path => exact trailed.setPathfinding e path.reset
  | followed loc toil path vel job walker =>
      unfold followWaypoint
      dsimp only
      have turned (dir : F × F) : (w.setVelocity e { vel with dirX := dir.1, dirZ := dir.2 }).Trailed x :=
        trailed.setVelocity e _ (by simp [walker.path])
      split
      next => exact trailed.setPathfinding e _
      next =>
        split
        next => exact sited _ _ _ ((turned (_, _)).setPathfinding e _)
        next => exact sited _ _ _ (turned (_, _))

theorem systemDeath_trailed (trailed : w.Trailed x) : (w.systemDeath e).Trailed x := by
  have stopped : (w.stopToil e).Trailed x := by
    unfold stopToil
    repeat' split
    all_goals exact trailed
  have dropped (m : World F) (known : m.Trailed x) : (m.dropWaypoints e).Trailed x := by
    unfold dropWaypoints
    split
    next => exact known.setPathfinding e _
    next => exact known
  have aimless (m : World F) (known : m.Trailed x) : (m.dropTarget e).Trailed x := by
    unfold dropTarget
    split <;> exact known
  unfold systemDeath
  repeat' split
  next => exact aimless _ (dropped _ (stopped.modifyVelocity e _))
  all_goals exact trailed

theorem busyAmbient_trailed (deltaTime : F) (trailed : w.Trailed x) :
    (w.busyAmbient deltaTime e).Trailed x := by
  by_cases same : x = e
  next =>
    subst same
    unfold busyAmbient holdStill
    split
    next busy _ toil vel _ _ _ _ moves _ =>
      dsimp only
      split
      -- The velocity that is set to zero was there before.
      next => exact trailed.setVelocity x .still (trailed (by simp [moves]))
      next => exact trailed
    next => exact trailed
  next =>
    have apart := (w.busyAmbient_within e x deltaTime).others same
    exact trailed.of_body (apart.same .velocity rfl) (apart.same .pathfinding rfl)

theorem meleeAttack_trailed (status : NodeStatus) (trailed : w.Trailed x)
    (ran : w.actionMeleeAttack e = some (status, w')) : w'.Trailed x := by
  obtain ⟨loc, combat, job, toil, -, -, -, -, attacks⟩ := meleeAttack_cases ran
  have stands : (w.standAndFight e toil).Trailed x := by
    unfold standAndFight
    split
    next =>
      have works : (w.setToil e { toil with state := .working }).Trailed x := trailed
      exact works.modifyVelocity e _
    next => exact trailed
  cases attacks with
  | aimless => exact trailed
  | chases target targetLoc name =>
      unfold chase
      split
      next => exact trailed.clearPath e
      next => exact trailed
  | waits => exact stands
  | strikes target targetLoc identity targetIdentity health _ _ _ _ _ struck =>
      have body := strike_body _ w' e x target combat identity targetIdentity health struck
      refine stands.of_body ?_ ?_ <;> (rw [body]; split <;> rfl)

theorem runLeaf_trailed (draw : BehaviorDraw) (leaf : SurvivalLeaf) (status : NodeStatus)
    (resident : w.Resident x) (trailed : w.Trailed x)
    (ran : runLeaf e draw leaf w = some (status, w')) : w'.Trailed x := by
  have within := runLeaf_within e x draw leaf status w w' resident ran
  have apart (still : leaf.scope.covers .velocity = false)
      (pathless : leaf.scope.covers .pathfinding = false) : w'.Trailed x :=
    trailed.of_body (within.same .velocity still) (within.same .pathfinding pathless)
  have crisis (checked : Crisis F) (checks : w.conditionInCrisis checked e = some (status, w')) :
      w'.Trailed x := by
    obtain ⟨needs, -, enters⟩ := inCrisis_cases checks
    cases enters with
    | enters =>
        have free : ((w.setNeeds e { needs with
          isResolvingSurvival := true, currentSurvivalType := checked.type }).eraseBusy e).Trailed x :=
            trailed
        exact free.clearPath e
    | _ => exact trailed
  have scheduled (checked : Crisis F) (checks : w.conditionIsScheduled checked e = some (status, w')) :
      w'.Trailed x := by
    obtain ⟨needs, -, starts⟩ := isScheduled_cases checks
    cases starts <;> exact trailed
  cases leaf with
  | flee =>
      obtain ⟨loc, combat, job, toil, -, -, -, -, flees⟩ := flee_cases ran
      cases flees with
      | redirects target dest =>
          have aimed : (w.setJob e { job with
            targetX := dest.1, targetZ := dest.2, targetLocation := "Wilderness" }).Trailed x := trailed
          exact aimed.clearPath e
      | _ => exact trailed
  | wander =>
      obtain ⟨loc, job, toil, -, -, -, wanders⟩ := wander_cases ran
      cases wanders with
      | setsOut =>
          refine Trailed.of_body (w := w.clearPath e) (trailed.clearPath e) ?_ ?_ <;> rfl
      | _ => exact trailed
  | moveToTarget =>
      obtain ⟨loc, job, toil, -, -, -, travels⟩ := moveToTarget_cases ran
      cases travels with
      | setsOut =>
          refine Trailed.of_body (w := w.clearPath e) (trailed.clearPath e) ?_ ?_ <;> rfl
      | _ => exact trailed
  | meleeAttack => exact meleeAttack_trailed status trailed ran
  | isHungry => exact crisis _ ran
  | isFatigued => exact crisis _ ran
  | isScheduledEat => exact scheduled _ ran
  | isScheduledSleep => exact scheduled _ ran
  | _ => exact apart rfl rfl

end World

variable [Scalar F] {w w' : World F}

theorem step_trailed (event : Event F) (x : Entity) (matched : w.Matched) (resident : w.Resident x)
    (trailed : w.Trailed x) (stepped : step event w = some w') : w'.Trailed x := by
  have within := resident_step_within event w w' x resident stepped
  have apart (still : event.scope.covers .velocity = false)
      (pathless : event.scope.covers .pathfinding = false) : w'.Trailed x :=
    trailed.of_body (within.same .velocity still) (within.same .pathfinding pathless)
  cases event with
  | busyAmbient e =>
      obtain rfl := Option.some.inj stepped
      exact World.busyAmbient_trailed _ trailed
  | behaviorTree e draw =>
      have both := World.behaviorTree_kept e draw
        (fun m => m.Matched ∧ m.Resident x ∧ m.Trailed x) (fun _ _ => True)
        (fun m here planted => here.1.planted planted)
        (fun leaf m status m' here starts _ ran => by
          refine ⟨World.runLeaf_matched draw leaf status m m' here.1 starts ran,
            (runLeaf_within e x draw leaf status m m' here.2.1 ran).resident
              (by cases leaf <;> rfl) here.2.1, ?_⟩
          exact World.runLeaf_trailed draw leaf status here.2.1 here.2.2 ran)
        w w' ⟨matched, resident, trailed⟩ stepped fun _ _ => trivial
      exact both.2.2
  | death e =>
      obtain rfl := Option.some.inj stepped
      exact World.systemDeath_trailed trailed
  | pathfinding e searches choice =>
      obtain ⟨⟨m, spent⟩, visited, rfl⟩ := Option.map_eq_some_iff.mp stepped
      exact World.pathfinding_trailed searches spent choice trailed visited
  | movement e => exact World.movement_trailed trailed stepped
  | command cmd => cases cmd <;> exact apart rfl rfl
  | _ => exact apart rfl rfl

end MundusVivens
