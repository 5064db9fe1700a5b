import MundusVivens.Jobs.Staff
import MundusVivens.Systems.Onlookers

set_option autoImplicit false

namespace MundusVivens

open Scalar BehaviorTree Runs LocationRegistry

variable {F : Type}

def World.Equipped (w : World F) (x : Entity) : Prop :=
  (w.reg.job x).isSome = true ∧ (w.reg.toil x).isSome = true

namespace World

variable {w m w' : World F} {e x : Entity}

namespace Equipped

theorem of_same (equipped : w.Equipped x) (job : w'.reg.job x = w.reg.job x)
    (toil : w'.reg.toil x = w.reg.toil x) : w'.Equipped x :=
  ⟨by rw [job]; exact equipped.1, by rw [toil]; exact equipped.2⟩

theorem within {s : Scope} (equipped : w.Equipped x) (within : Within s e x w w')
    (job : s.covers .job = false) (toil : s.covers .toil = false) : w'.Equipped x :=
  equipped.of_same (within.same .job job) (within.same .toil toil)

theorem setJob (equipped : w.Equipped x) (y : Entity) (job : JobComp F) :
    (w.setJob y job).Equipped x := by
  refine ⟨?_, equipped.2⟩
  by_cases same : x = y
  next => simp [World.setJob, same]
  next => simpa [World.setJob, same] using equipped.1

theorem setToil (equipped : w.Equipped x) (y : Entity) (toil : ToilComp) :
    (w.setToil y toil).Equipped x := by
  refine ⟨equipped.1, ?_⟩
  by_cases same : x = y
  next => simp [World.setToil, same]
  next => simpa [World.setToil, same] using equipped.2

end Equipped

theorem writeNextJob_equipped [Scalar F] (payload : JobPayload F) (draw : RadiusDraw F)
    (equipped : w.Equipped x) : (w.writeNextJob e payload draw).Equipped x :=
  (equipped.setJob e _).setToil e _

theorem applyPendingJobs_equipped [Scalar F] (jobs : List (JobPayload F))
    (draws : Nat → RadiusDraw F) (equipped : w.Equipped x) :
    (w.applyPendingJobs jobs draws).Equipped x := by
  refine List.foldlRecOn (motive := fun m : World F => m.Equipped x) _ _ equipped
    fun m known job _ => ?_
  unfold applyPendingJob
  split
  next y _ =>
    have written : (m.writeNextJob y job.1 (draws job.2)).Equipped x :=
      writeNextJob_equipped job.1 _ known
    unfold writePendingJob eraseScheduleWait
    repeat' split
    all_goals exact written
  next => exact known

theorem applyNextJobs_equipped [Scalar F] (jobs : List (JobPayload F)) (draws : Nat → RadiusDraw F)
    (equipped : w.Equipped x) (applied : w.applyNextJobs jobs draws = some w') :
    w'.Equipped x := by
  refine Folds.foldlM_keeps (fun m : World F => m.Equipped x) _ (fun m job m' known written => ?_) _
    w w' equipped applied
  unfold applyNextJob at written
  split at written
  next y _ =>
    simp only [Option.bind_eq_bind, Option.bind_eq_some_iff] at written
    obtain ⟨identity, -, stored⟩ := written
    obtain rfl := Option.some.inj stored
    exact writeNextJob_equipped job.1 _ known
  next =>
    obtain rfl := Option.some.inj written
    exact known

theorem applyReport_equipped (newJob : Option (JobPayload F)) (equipped : w.Equipped x) :
    (w.applyReport e newJob).Equipped x := by
  unfold applyReport
  split
  next =>
    split
    next => exact (equipped.setJob e _).setToil e _
    next => exact equipped
  next => exact equipped

theorem dialogueTask_equipped [Scalar F] (group : List Entity) (tick : Int) (success : Bool)
    (result : DialogueResult F) (draws : Nat → RadiusDraw F) (equipped : w.Equipped x)
    (ran : w.dialogueTask group tick success result draws = some w') : w'.Equipped x := by
  unfold dialogueTask at ran
  split at ran
  next =>
    simp only [finishDialogue, Option.bind_eq_bind, Option.bind_eq_some_iff] at ran
    obtain ⟨identities, -, planned, jobs, heard, told, dismissed⟩ := ran
    have felt : (result.emotionUpdates.foldl applyEmotionUpdate w).Equipped x := by
      refine List.foldlRecOn (motive := fun m : World F => m.Equipped x) _ _ equipped
        fun m known update _ => ?_
      unfold applyEmotionUpdate
      repeat' split
      all_goals exact known
    have installed := applyNextJobs_equipped _ draws felt jobs
    have listened := installed.within (planned.eavesdropping_within heard x x group result told) rfl rfl
    have left : Within ⟨[], [.cooldown, .activity, .busy]⟩ x x heard w' := .foldlM _
      (fun w y w' left => w.dismissParticipant_within w' x x group tick y left) group heard w'
      dismissed
    exact listened.within left rfl rfl
  next =>
    have released : Within partyScope x x w w' := .foldlM _
      (fun w y w' released => w.releaseIfValid_within w' x x y released) group w w' ran
    exact equipped.within released rfl rfl

theorem drainTask_equipped [Scalar F] (draws : Nat → RadiusDraw F) (equipped : w.Equipped x)
    (drained : w.drainTask draws = some w') : w'.Equipped x := by
  rcases w.drainTask_cases w' draws drained with
    rfl | ⟨ticket, request, reply, rest, popped, ran⟩
  · exact equipped
  have taken : ({ w with grpc := rest } : World F).Equipped x := equipped
  have touched := runTask_within _ w' x request reply draws ran
  have apart (job : request.method.taskScope.covers .job = false)
      (toil : request.method.taskScope.covers .toil = false) : w'.Equipped x :=
    taken.within touched job toil
  unfold runTask at ran
  split at ran
  next => exact apart rfl rfl
  next =>
    obtain rfl := Option.some.inj ran
    exact applyPendingJobs_equipped _ _ taken
  next =>
    obtain rfl := Option.some.inj ran
    exact applyReport_equipped _ taken
  next => exact dialogueTask_equipped _ _ _ _ _ taken ran
  next => exact apart rfl rfl
  next => exact apart rfl rfl
  next => exact apart rfl rfl
  next => exact apart rfl rfl
  next =>
    obtain rfl := Option.some.inj ran
    exact taken

theorem jobDriver_equipped [Scalar F] (equipped : w.Equipped x) (driven : w.jobDriver e = some w') :
    w'.Equipped x := by
  refine jobDriver_preserves (fun m => m.Equipped x) (fun write equipped => ?_) driven equipped
  cases write with
  | equip | finish => exact equipped.setJob e _
  | toil => exact equipped.setToil e _
  | wait _ tagged =>
      obtain ⟨-, _, rfl⟩ := setBusy_cases tagged
      exact equipped
  | activity | refill | report => exact equipped

section

variable [Scalar F] {status : NodeStatus} {draw : BehaviorDraw}

theorem inCrisis_equipped (crisis : Crisis F) (equipped : w.Equipped e)
    (ran : w.conditionInCrisis crisis e = some (status, w')) : w'.Equipped e := by
  obtain ⟨needs, -, checks⟩ := inCrisis_cases ran
  cases checks with
  | ongoing => exact equipped
  | enters => exact ⟨by simp [World.setToil, World.setJob], by simp [World.setToil]⟩
  | spared => exact equipped

omit [Scalar F] in
theorem isScheduled_equipped (crisis : Crisis F) (equipped : w.Equipped e)
    (ran : w.conditionIsScheduled crisis e = some (status, w')) : w'.Equipped e := by
  obtain ⟨needs, -, checks⟩ := isScheduled_cases ran
  cases checks <;> exact equipped

omit [Scalar F] in
theorem setOut_equipped (job : JobComp F) (toil : ToilComp) (text : String) :
    ((((w.setJob e job).clearPath e).setToil e toil).setActivity e text).Equipped e :=
  ⟨by simp [clearPath, World.setActivity, World.setToil, World.setJob],
    by simp [World.setActivity, World.setToil]⟩

theorem flee_equipped (equipped : w.Equipped e) (ran : w.actionFlee e draw = some (status, w')) :
    w'.Equipped e := by
  obtain ⟨loc, combat, job, toil, -, -, -, -, flees⟩ := flee_cases ran
  cases flees with
  | aimless => exact equipped
  | redirects => exact setOut_equipped _ _ _
  | runs => exact equipped

theorem meleeAttack_equipped (equipped : w.Equipped e)
    (ran : w.actionMeleeAttack e = some (status, w')) : w'.Equipped e := by
  obtain ⟨loc, combat, job, toil, -, -, -, -, attacks⟩ := meleeAttack_cases ran
  have standing : (w.standAndFight e toil).Equipped e := by
    unfold standAndFight
    split
    next => exact equipped.setToil e _
    next => exact equipped
  cases attacks with
  | aimless => exact equipped
  | chases target targetLoc name =>
      unfold chase
      split
      next => exact setOut_equipped _ _ _
      next => exact equipped
  | waits => exact standing
  | strikes target targetLoc identity targetIdentity health aimed located near ready hurt struck =>
      have body := strike_body _ w' e e target combat identity targetIdentity health struck
      refine standing.of_same ?_ ?_
      · split at body <;> exact congrArg Body.job body
      · split at body <;> exact congrArg Body.toil body

theorem inhibitOrAttack_equipped (equipped : w.Equipped e)
    (ran : w.actionInhibitOrAttack e = some (status, w')) : w'.Equipped e := by
  have asked (aggro : AggroComp) (npcId targetNpcId : UInt32) :
      (w.inhibit e aggro npcId targetNpcId).1.Equipped e := by
    unfold inhibit
    split <;> exact equipped
  cases inhibitOrAttack_cases ran with
  | unaware => exact equipped
  | forgets => exact equipped
  | attacks => exact equipped.setToil e _
  | givesUp => exact asked _ _ _
  | holds => exact ⟨(asked _ _ _).1, by simp [World.setActivity, World.setToil]⟩

theorem findFurniture_equipped (equipped : w.Equipped e)
    (ran : w.actionFindFurniture e draw = some (status, w')) : w'.Equipped e := by
  obtain ⟨-, needs, job, loc, toil, -, -, -, -, searches⟩ := findFurniture_cases ran
  have aimed (m : World F) (place : LocationComp F) : (m.aimJob e job toil place).Equipped e :=
    ⟨by simp [aimJob, World.setToil, World.setJob], by simp [aimJob, World.setToil]⟩
  cases searches with
  | keeps => exact equipped
  | aims dist place => exact aimed w place
  | camps name type => exact aimed _ loc
  | stays => exact aimed w loc

theorem moveToTarget_equipped (equipped : w.Equipped e)
    (ran : w.actionMoveToTarget e = some (status, w')) : w'.Equipped e := by
  obtain ⟨loc, job, toil, -, -, -, travels⟩ := moveToTarget_cases ran
  cases travels with
  | arrives => exact equipped
  | setsOut => exact equipped.setToil e _
  | walks => exact equipped

omit [Scalar F] in
theorem settle_equipped (toil : ToilComp) (texts : String × String) (equipped : w.Equipped e) :
    (w.settle e toil texts).Equipped e := by
  unfold settle
  exact equipped.setToil e _

omit [Scalar F] in
theorem occupyFurniture_equipped {needs : NeedsComp F} {loc : LocationComp F} {toil : ToilComp}
    {f : Entity} (equipped : w.Equipped e)
    (occupied : w.occupyFurniture e needs loc toil f = some w') : w'.Equipped e := by
  obtain ⟨aff, place, -, -, rfl⟩ := occupyFurniture_eq occupied
  let taken := (w.setOccupiedBy f (some e)).setNeeds e { needs with occupiedFurniture := some f }
  have sat : (taken.setLocation e { loc with x := place.x, y := place.y, z := place.z }).Equipped e :=
    equipped
  exact settle_equipped toil _ sat

theorem interactFurniture_equipped (valid : w.reg.valid e = true) (equipped : w.Equipped e)
    (ran : w.actionInteractFurniture e draw = some (status, w')) : w'.Equipped e := by
  obtain ⟨needs, loc, toil, job, identity, -, acted⟩ := interactFurniture_cases ran
  cases acted with
  | settles seeks settled =>
      cases settled with
      | seat f found taken => exact occupyFurniture_equipped equipped taken
      | camp name type full wild suits taken =>
          have within := w.spawnCamp_within e e ⟨[], [.handles, .grid]⟩ loc name type valid (by simp)
            (by simp)
          exact occupyFurniture_equipped (equipped.within within rfl rfl) taken
      | floor => exact settle_equipped toil _ equipped
  | recharges => exact equipped
  | resolves =>
      exact ⟨by simp [World.setActivity, World.setToil, World.setJob],
        by simp [World.setActivity, World.setToil]⟩

theorem wander_equipped (equipped : w.Equipped e) (ran : w.actionWander e draw = some (status, w')) :
    w'.Equipped e := by
  obtain ⟨loc, job, toil, -, -, -, wanders⟩ := wander_cases ran
  cases wanders with
  | walks | rests | halts | yields => exact equipped
  | lingers => exact equipped.setToil e _
  | ends | setsOut => exact (equipped.setJob e _).setToil e _

theorem runLeaf_equipped (leaf : SurvivalLeaf) (valid : w.reg.valid e = true)
    (equipped : w.Equipped e) (ran : runLeaf e draw leaf w = some (status, w')) :
    w'.Equipped e := by
  have apart (searches : leaf ≠ .findFurniture) (interacts : leaf ≠ .interactFurniture)
      (job : leaf.scope.covers .job = false) (toil : leaf.scope.covers .toil = false) :
      w'.Equipped e :=
    equipped.within (runLeaf_apart_within e e draw leaf status w w' searches interacts ran) job toil
  cases leaf with
  | flee => exact flee_equipped equipped ran
  | meleeAttack => exact meleeAttack_equipped equipped ran
  | inhibitOrAttack => exact inhibitOrAttack_equipped equipped ran
  | isHungry => exact inCrisis_equipped hungerCrisis equipped ran
  | isFatigued => exact inCrisis_equipped fatigueCrisis equipped ran
  | isScheduledEat => exact isScheduled_equipped hungerCrisis equipped ran
  | isScheduledSleep => exact isScheduled_equipped fatigueCrisis equipped ran
  | findFurniture => exact findFurniture_equipped equipped ran
  | moveToTarget => exact moveToTarget_equipped equipped ran
  | interactFurniture => exact interactFurniture_equipped valid equipped ran
  | wander => exact wander_equipped equipped ran
  | _ => exact apart (by simp) (by simp) rfl rfl

end

theorem busyAmbient_equipped [Scalar F] (deltaTime : F) (equipped : w.Equipped e) :
    (w.busyAmbient deltaTime e).Equipped e := by
  unfold busyAmbient holdStill
  repeat' split
  all_goals first | exact equipped | exact equipped.setToil e _

theorem systemDeath_equipped [Scalar F] (equipped : w.Equipped e) : (w.systemDeath e).Equipped e := by
  have stopped : (w.stopToil e).Equipped e := by
    unfold stopToil
    repeat' split
    all_goals first | exact equipped | exact equipped.setToil e _
  have dropped (m : World F) (known : m.Equipped e) : (m.dropWaypoints e).Equipped e := by
    unfold dropWaypoints
    split <;> exact known
  have aimless (m : World F) (known : m.Equipped e) : (m.dropTarget e).Equipped e := by
    unfold dropTarget
    split <;> exact known
  unfold systemDeath
  split
  next =>
    split
    next => exact aimless _ (dropped ((w.stopToil e).modifyVelocity e fun _ => .still) stopped)
    next => exact equipped
  next => exact equipped

theorem pathfinding_equipped [Scalar F] (searches spent : Nat) (choice : PathChoice F)
    (equipped : w.Equipped e) (visited : w.pathfinding e searches choice = some (w', spent)) :
    w'.Equipped e := by
  refine pathfinding_preserves (fun m => m.Equipped e) (fun write equipped => ?_) visited equipped
  cases write with
  | job => exact equipped.setJob e _
  | toil => exact equipped.setToil e _
  | path | velocity | halt | map => exact equipped

theorem movement_equipped [Scalar F] (equipped : w.Equipped e) (moved : w.movement e = some w') :
    w'.Equipped e := by
  have placed {m : World F} (a b : F) (known : m.Equipped e) :
      (m.updateEntityPosition e a b).Equipped e := by
    obtain ⟨grid, location, put⟩ := m.updateEntityPosition_eq e a b
    rw [put]
    exact known
  refine movement_preserves (fun m => m.Equipped e) (fun write equipped => ?_) moved equipped
  cases write with
  | step => exact placed _ _ equipped
  | put loc =>
      refine placed _ _ ?_
      exact equipped
  | toil => exact equipped.setToil e _
  | velocity | path | activity => exact equipped

end World

variable [Scalar F]

theorem step_equipped (event : Event F) (w w' : World F) (x : Entity) (resident : w.Resident x)
    (equipped : w.Equipped x) (stepped : step event w = some w') : w'.Equipped x := by
  have within := resident_step_within event w w' x resident stepped
  have apart (job : event.scope.covers .job = false) (toil : event.scope.covers .toil = false) :
      w'.Equipped x := equipped.within within job toil
  have others (other : x ≠ event.actor)
      (job : (Scope.mk [] event.scope.all).covers .job = false)
      (toil : (Scope.mk [] event.scope.all).covers .toil = false) : w'.Equipped x :=
    equipped.within (within.others other) job toil
  by_cases own : x = event.actor
  next =>
    subst own
    cases event with
    | drainTask draws => exact World.drainTask_equipped draws equipped stepped
    | jobDriver e => exact World.jobDriver_equipped equipped stepped
    | busyAmbient e =>
        obtain rfl := Option.some.inj stepped
        exact World.busyAmbient_equipped _ equipped
    | behaviorTree e draw =>
        have both := World.behaviorTree_kept e draw (fun m => m.Resident e ∧ m.Equipped e)
          (fun _ _ => True) (fun _ here _ => here.1)
          (fun leaf m status m' here _ _ ran =>
            ⟨runLeaf_resident e draw leaf m status m' here.1 ran,
              World.runLeaf_equipped leaf here.1.valid here.2 ran⟩)
          w w' ⟨resident, equipped⟩ stepped fun _ _ => trivial
        exact both.2
    | death e =>
        obtain rfl := Option.some.inj stepped
        exact World.systemDeath_equipped equipped
    | pathfinding e searches choice =>
        obtain ⟨⟨m, spent⟩, visited, rfl⟩ := Option.map_eq_some_iff.mp stepped
        exact World.pathfinding_equipped searches spent choice equipped visited
    | movement e =>
        exact World.movement_equipped equipped stepped
    | command cmd => cases cmd <;> exact apart rfl rfl
    | _ => exact apart rfl rfl
  next =>
    cases event with
    | drainTask draws => exact World.drainTask_equipped draws equipped stepped
    | command cmd => cases cmd <;> exact apart rfl rfl
    | _ => exact others own rfl rfl

theorem reachable_equipped (data : WorldBootstrapData F) (settings : SimulationSettings F)
    (obstacles : Option (List Obstacle)) (draws : Nat → NeedsDraw F) (start w : World F)
    (past : List (Transition (World F) (Event F)))
    (booted : bootstrap data settings obstacles draws = some start) (run : ServerRun start past w)
    (n : Entity) (npc : w.isNpc n = true) : w.Equipped n := by
  have equipped : w.Matched ∧ ∀ n, w.isNpc n = true → w.Equipped n := by
    refine run.preserved (fun m : World F => m.Matched ∧ ∀ n, m.isNpc n = true → m.Equipped n)
      ⟨bootstrap_matched data settings obstacles draws start booted, ?_⟩
      fun m event m' here stepped => ?_
    · refine bootstrap_npcs (fun m n => m.Equipped n) data settings obstacles draws start booted
        (fun e n m m' within known => known.within within rfl rfl) fun agent _ i m n settles => ?_
      exact ⟨by simp [settles.job], by simp [settles.toil]⟩
    · refine ⟨step_matched event m m' here.1 stepped, fun n npc => ?_⟩
      have before := step_npc event m m' n here.1 stepped npc
      exact step_equipped event m m' n (here.1.npc before) (here.2 n before) stepped
  exact equipped.2 n npc

end MundusVivens
