import MundusVivens.Accounts.Binding
import MundusVivens.Fighting.Duels
import MundusVivens.Furniture.Burials
import MundusVivens.Jobs.Equipment
import MundusVivens.Jobs.Staff

set_option autoImplicit false

/-!
# The remains

Once `SystemDeath` has visited a dead NPC it rests: whatever answers, commands and
systems follow, it stays dead where it fell, with no tree and an idle toil.
-/

namespace MundusVivens

open Scalar BehaviorTree Runs LocationRegistry

variable {F : Type}

def World.Idles (w : World F) (x : Entity) : Prop :=
  ∃ toil, w.reg.toil x = some toil ∧ toil.state = .idle

namespace World

variable {w m w' : World F} {e x : Entity}

namespace Idles

theorem of_same (idles : w.Idles x) (toil : w'.reg.toil x = w.reg.toil x) : w'.Idles x := by
  obtain ⟨kept, has, idle⟩ := idles
  exact ⟨kept, toil.trans has, idle⟩

theorem within {s : Scope} (idles : w.Idles x) (within : Within s e x w w')
    (toil : s.covers .toil = false) : w'.Idles x :=
  idles.of_same (within.same .toil toil)

theorem setToil (idles : w.Idles x) (y : Entity) (toil : ToilComp)
    (state : x = y → toil.state = .idle) : (w.setToil y toil).Idles x := by
  by_cases same : x = y
  next => exact ⟨toil, by simp [World.setToil, same], state same⟩
  next => exact idles.of_same (by simp [World.setToil, same])

end Idles

theorem restartToil_idles (idles : w.Idles x) : (w.restartToil e).Idles x :=
  idles.setToil e _ fun _ => rfl

theorem applyReport_idles (newJob : Option (JobPayload F)) (idles : w.Idles x) :
    (w.applyReport e newJob).Idles x := by
  unfold applyReport
  split
  next =>
    unfold writeReportedJob
    repeat' split
    all_goals first | exact idles | exact restartToil_idles idles
  next => exact idles

variable [Scalar F]

theorem applyPendingJobs_idles (jobs : List (JobPayload F)) (draws : Nat → RadiusDraw F)
    (idles : w.Idles x) : (w.applyPendingJobs jobs draws).Idles x := by
  refine List.foldlRecOn (motive := fun m : World F => m.Idles x) _ _ idles fun m known job _ => ?_
  unfold applyPendingJob
  split
  next y _ =>
    have written : ((m.setJob y (.ofPayload job.1 (draws job.2))).restartToil y).Idles x :=
      restartToil_idles known
    unfold writePendingJob eraseScheduleWait
    repeat' split
    all_goals exact written
  next => exact known

theorem applyNextJobs_idles (jobs : List (JobPayload F)) (draws : Nat → RadiusDraw F)
    (idles : w.Idles x) (applied : w.applyNextJobs jobs draws = some w') : w'.Idles x := by
  refine Folds.foldlM_keeps (fun m : World F => m.Idles x) _ (fun m job m' known written => ?_) _
    w w' idles applied
  unfold applyNextJob at written
  split at written
  next y _ =>
    simp only [Option.bind_eq_bind, Option.bind_eq_some_iff] at written
    obtain ⟨identity, -, stored⟩ := written
    obtain rfl := Option.some.inj stored
    have placed : (m.setJob y (.ofPayload job.1 (draws job.2))).Idles x := known
    exact restartToil_idles placed
  next =>
    obtain rfl := Option.some.inj written
    exact known

theorem dialogueTask_idles (group : List Entity) (tick : Int) (success : Bool)
    (result : DialogueResult F) (draws : Nat → RadiusDraw F) (idles : w.Idles x)
    (ran : w.dialogueTask group tick success result draws = some w') : w'.Idles x := by
  unfold dialogueTask at ran
  split at ran
  next =>
    simp only [finishDialogue, Option.bind_eq_bind, Option.bind_eq_some_iff] at ran
    obtain ⟨identities, -, planned, jobs, heard, told, dismissed⟩ := ran
    have felt : (result.emotionUpdates.foldl applyEmotionUpdate w).Idles x := by
      refine List.foldlRecOn (motive := fun m : World F => m.Idles x) _ _ idles
        fun m known update _ => ?_
      unfold applyEmotionUpdate
      repeat' split
      all_goals exact known
    have installed := applyNextJobs_idles _ draws felt jobs
    have listened := installed.within (planned.eavesdropping_within heard x x group result told) rfl
    have left : Within ⟨[], [.cooldown, .activity, .busy]⟩ x x heard w' := .foldlM _
      (fun w y w' left => w.dismissParticipant_within w' x x group tick y left) group heard w'
      dismissed
    exact listened.within left rfl
  next =>
    have released : Within partyScope x x w w' := .foldlM _
      (fun w y w' released => w.releaseIfValid_within w' x x y released) group w w' ran
    exact idles.within released rfl

theorem drainTask_idles (draws : Nat → RadiusDraw F) (idles : w.Idles x)
    (drained : w.drainTask draws = some w') : w'.Idles x := by
  rcases w.drainTask_cases w' draws drained with
    rfl | ⟨ticket, request, reply, rest, popped, ran⟩
  · exact idles
  have taken : ({ w with grpc := rest } : World F).Idles x := idles
  have touched := runTask_within _ w' x request reply draws ran
  have apart (toil : request.method.taskScope.covers .toil = false) : w'.Idles x :=
    taken.within touched toil
  unfold runTask at ran
  split at ran
  next => exact apart rfl
  next =>
    obtain rfl := Option.some.inj ran
    exact applyPendingJobs_idles _ _ taken
  next =>
    obtain rfl := Option.some.inj ran
    exact applyReport_idles _ taken
  next => exact dialogueTask_idles _ _ _ _ _ taken ran
  next => exact apart rfl
  next => exact apart rfl
  next => exact apart rfl
  next => exact apart rfl
  next =>
    obtain rfl := Option.some.inj ran
    exact taken

end World

variable [Scalar F]

-- No velocity but the zero one, and no way left to walk.
structure World.Grounded (w : World F) (x : Entity) : Prop where
  still : ∀ velocity, w.reg.velocity x = some velocity → velocity = .still
  unrouted : ∀ path, w.reg.pathfinding x = some path → path.waypoints = []

namespace World.Grounded

variable {w w' : World F} {e x : Entity}

theorem of_same (grounded : w.Grounded x) (velocity : w'.reg.velocity x = w.reg.velocity x)
    (path : w'.reg.pathfinding x = w.reg.pathfinding x) : w'.Grounded x where
  still := by rw [velocity]; exact grounded.still
  unrouted := by rw [path]; exact grounded.unrouted

theorem within {s : Scope} (grounded : w.Grounded x) (within : Within s e x w w')
    (velocity : s.covers .velocity = false) (path : s.covers .pathfinding = false) :
    w'.Grounded x :=
  grounded.of_same (within.same .velocity velocity) (within.same .pathfinding path)

theorem setVelocity (grounded : w.Grounded x) : (w.setVelocity x .still).Grounded x where
  still := by simp [World.setVelocity, eq_comm]
  unrouted := grounded.unrouted

end World.Grounded

/-- A dead NPC that `SystemDeath` has visited. -/
structure World.LiesStill (w : World F) (x : Entity) (place : LocationComp F) : Prop where
  resident : w.Resident x
  dead : w.isDead x = true
  treeless : w.reg.behaviorTree x = none
  idles : w.Idles x
  grounded : w.Grounded x
  place : w.reg.location x = some place

namespace World

variable {w w' : World F} {x : Entity} {place : LocationComp F}

theorem LiesStill.jobDriver (rests : w.LiesStill x place) (driven : w.jobDriver x = some w') :
    w'.Idles x ∧ w'.Grounded x := by
  obtain ⟨toil, has, idle⟩ := rests.idles
  unfold World.jobDriver at driven
  split at driven
  next =>
    simp only [rests.dead, if_true] at driven
    obtain rfl := Option.some.inj driven
    exact ⟨⟨toil, by simp [World.setToil, toilOrDefault, has], idle⟩, rests.grounded.of_same rfl rfl⟩
  next =>
    obtain rfl := Option.some.inj driven
    exact ⟨rests.idles, rests.grounded⟩

theorem LiesStill.busyAmbient (rests : w.LiesStill x place) (deltaTime : F) :
    (w.busyAmbient deltaTime x).Idles x ∧ (w.busyAmbient deltaTime x).Grounded x := by
  obtain ⟨toil, has, idle⟩ := rests.idles
  unfold World.busyAmbient
  split
  next busy _ kept _ _ _ _ hasToil _ _ =>
    obtain rfl := Option.some.inj (has.symm.trans hasToil)
    have held : (w.holdStill x busy.reason).Grounded x := by
      unfold holdStill
      split
      next => exact rests.grounded.setVelocity
      next => exact rests.grounded
    exact ⟨⟨{ toil with currentAction := (ambientTexts busy.reason toil.state).2 },
      by simp [World.setToil], idle⟩, held.of_same rfl rfl⟩
  next => exact ⟨rests.idles, rests.grounded⟩

theorem LiesStill.behaviorTree (rests : w.LiesStill x place) (draw : BehaviorDraw)
    (visited : w.behaviorTree x draw = some w') : w' = w := by
  simpa [World.behaviorTree, rests.treeless, eq_comm] using visited

theorem LiesStill.pathfinding (rests : w.LiesStill x place) (searches spent : Nat) (choice : PathChoice F)
    (visited : w.pathfinding x searches choice = some (w', spent)) : w' = w := by
  obtain ⟨toil, has, idle⟩ := rests.idles
  have nowhere : w.aim x choice = none := by
    cases aimed : w.aim x choice with
    | none => rfl
    | some target =>
        obtain ⟨loc, job, path⟩ := target
        obtain ⟨-, ⟨moved, hasToil, moving⟩, -⟩ := w.aim_some x choice loc job path aimed
        obtain rfl := Option.some.inj (has.symm.trans hasToil)
        simp [idle] at moving
  cases w.pathfinding_seeks x searches spent choice w' visited with
  | unaimed => rfl
  | sighted loc job path aimed | kept loc job path aimed | postponed loc job path aimed
  | searched loc job path toil result map aimed => simp [nowhere] at aimed

theorem LiesStill.movement (rests : w.LiesStill x place) (moved : w.movement x = some w') :
    w' = w ∨ w' = w.setVelocity x .still := by
  obtain ⟨toil, has, idle⟩ := rests.idles
  unfold World.movement at moved
  split at moved
  next hasToil _ _ _ _ =>
    obtain rfl := Option.some.inj (has.symm.trans hasToil)
    simp only [idle, reduceCtorEq, if_false] at moved
    exact .inr (Option.some.inj moved).symm
  next => exact .inl (Option.some.inj moved).symm

omit [Scalar F] in
theorem stopToil_idles (e : Entity) (idles : w.Idles x) : (w.stopToil e).Idles x := by
  unfold stopToil
  split
  next =>
    split
    next => exact idles
    next => exact idles.setToil e _ fun _ => rfl
  next => exact idles

theorem laidOut_idles (e : Entity) (stopped : w.Idles x) :
    (((((w.modifyVelocity e fun _ => .still).dropWaypoints e).setActivity e "사망").dropTarget
      e).eraseBehaviorTree e).Idles x := by
  have dropped (m : World F) (known : m.Idles x) : (m.dropWaypoints e).Idles x := by
    unfold dropWaypoints
    split <;> exact known
  have calmed (m : World F) (known : m.Idles x) : (m.dropTarget e).Idles x := by
    unfold dropTarget
    split <;> exact known
  have still : (w.modifyVelocity e fun _ => .still).Idles x := stopped
  have shown : (((w.modifyVelocity e fun _ => .still).dropWaypoints e).setActivity e "사망").Idles
      x := dropped _ still
  exact calmed _ shown

theorem laidOut_grounded (w : World F) (e : Entity) :
    (((((w.modifyVelocity e fun _ => .still).dropWaypoints e).setActivity e "사망").dropTarget
      e).eraseBehaviorTree e).Grounded e := by
  have calmed (m : World F) (known : m.Grounded e) : (m.dropTarget e).Grounded e := by
    unfold dropTarget
    split <;> exact known.of_same rfl rfl
  have dropped : ((w.modifyVelocity e fun _ => .still).dropWaypoints e).Grounded e := by
    unfold dropWaypoints
    split
    next path has =>
      refine ⟨?_, ?_⟩
      · simp [modifyVelocity, setPathfinding, eq_comm]
      · simp [setPathfinding, eq_comm]
    next none =>
      refine ⟨?_, ?_⟩
      · simp [modifyVelocity, eq_comm]
      · simp [none]
  have shown : (((w.modifyVelocity e fun _ => .still).dropWaypoints e).setActivity e
      "사망").Grounded e := dropped.of_same rfl rfl
  exact (calmed _ shown).of_same rfl rfl

theorem systemDeath_grounded (e : Entity) (grounded : w.Grounded x) :
    (w.systemDeath e).Grounded x := by
  by_cases own : x = e
  next =>
    subst own
    unfold systemDeath
    split
    next =>
      split
      next => exact laidOut_grounded (w.stopToil x) x
      next => exact grounded
    next => exact grounded
  next => exact grounded.within ((w.systemDeath_within e x).others own) rfl rfl

theorem systemDeath_idles (e : Entity) (idles : w.Idles x) : (w.systemDeath e).Idles x := by
  unfold systemDeath
  split
  next =>
    split
    next => exact laidOut_idles e (stopToil_idles e idles)
    next => exact idles
  next => exact idles

end World

variable {w w' : World F} {x : Entity} {place : LocationComp F}

theorem step_idles (event : Event F) (rests : w.LiesStill x place)
    (stepped : step event w = some w') : w'.Idles x := by
  have within := resident_step_within event w w' x rests.resident stepped
  have apart (toil : event.scope.covers .toil = false) : w'.Idles x :=
    rests.idles.within within toil
  have others (other : x ≠ event.actor)
      (toil : (Scope.mk [] event.scope.all).covers .toil = false) : w'.Idles x :=
    rests.idles.within (within.others other) toil
  -- On its own turn each system leaves the dead alone; on others' turns only tasks write toils.
  by_cases own : x = event.actor
  next =>
    subst own
    cases event with
    | drainTask draws => exact World.drainTask_idles draws rests.idles stepped
    | jobDriver e => exact (rests.jobDriver stepped).1
    | busyAmbient e =>
        obtain rfl := Option.some.inj stepped
        exact (rests.busyAmbient _).1
    | behaviorTree e draw =>
        rw [rests.behaviorTree draw stepped]
        exact rests.idles
    | death e =>
        obtain rfl := Option.some.inj stepped
        exact World.systemDeath_idles e rests.idles
    | pathfinding e searches choice =>
        obtain ⟨⟨m, spent⟩, visited, rfl⟩ := Option.map_eq_some_iff.mp stepped
        rw [rests.pathfinding searches spent choice visited]
        exact rests.idles
    | movement e =>
        rcases rests.movement stepped with same | stilled
        · rw [same]
          exact rests.idles
        · rw [stilled]
          exact rests.idles
    | command cmd => cases cmd <;> exact apart rfl
    | _ => exact apart rfl
  next =>
    cases event with
    | drainTask draws => exact World.drainTask_idles draws rests.idles stepped
    | command cmd => cases cmd <;> exact apart rfl
    | _ => exact others own rfl

theorem step_grounded (event : Event F) (rests : w.LiesStill x place)
    (stepped : step event w = some w') : w'.Grounded x := by
  have within := resident_step_within event w w' x rests.resident stepped
  have apart (velocity : event.scope.covers .velocity = false)
      (path : event.scope.covers .pathfinding = false) : w'.Grounded x :=
    rests.grounded.within within velocity path
  have others (other : x ≠ event.actor)
      (velocity : (Scope.mk [] event.scope.all).covers .velocity = false)
      (path : (Scope.mk [] event.scope.all).covers .pathfinding = false) : w'.Grounded x :=
    rests.grounded.within (within.others other) velocity path
  -- Nobody but the entity itself writes its velocity or path, so only its own turn counts.
  by_cases own : x = event.actor
  next =>
    subst own
    cases event with
    | jobDriver e => exact (rests.jobDriver stepped).2
    | busyAmbient e =>
        obtain rfl := Option.some.inj stepped
        exact (rests.busyAmbient _).2
    | behaviorTree e draw =>
        rw [rests.behaviorTree draw stepped]
        exact rests.grounded
    | death e =>
        obtain rfl := Option.some.inj stepped
        exact World.systemDeath_grounded e rests.grounded
    | pathfinding e searches choice =>
        obtain ⟨⟨m, spent⟩, visited, rfl⟩ := Option.map_eq_some_iff.mp stepped
        rw [rests.pathfinding searches spent choice visited]
        exact rests.grounded
    | movement e =>
        rcases rests.movement stepped with same | stilled
        · rw [same]
          exact rests.grounded
        · rw [stilled]
          exact rests.grounded.setVelocity
    | command cmd => cases cmd <;> exact apart rfl rfl
    | _ => exact apart rfl rfl
  next =>
    cases event with
    | command cmd => cases cmd <;> exact apart rfl rfl
    | _ => exact others own rfl rfl

theorem step_treeless (event : Event F) (rests : w.LiesStill x place)
    (stepped : step event w = some w') : w'.reg.behaviorTree x = none := by
  have within := resident_step_within event w w' x rests.resident stepped
  have apart (rooted : event.scope.covers .behaviorTree = false) :
      w'.reg.behaviorTree x = none := by
    have same : w'.reg.behaviorTree x = w.reg.behaviorTree x := within.same .behaviorTree rooted
    exact same.trans rests.treeless
  cases event with
  | death e =>
      obtain rfl := Option.some.inj stepped
      by_cases own : x = e
      next =>
        subst own
        unfold World.systemDeath
        repeat' split
        all_goals first | exact rests.treeless | simp [World.eraseBehaviorTree]
      next =>
        have same : (w.systemDeath e).reg.behaviorTree x = w.reg.behaviorTree x :=
          (within.others own).same .behaviorTree rfl
        exact same.trans rests.treeless
  | command cmd => cases cmd <;> exact apart rfl
  | _ => exact apart rfl

theorem step_lies (event : Event F) (roster : w.ledger.Roster) (rests : w.LiesStill x place)
    (stepped : step event w = some w') : w'.reg.location x = some place := by
  have within := resident_step_within event w w' x rests.resident stepped
  have apart (still : event.scope.covers .location = false) : w'.reg.location x = some place := by
    have same : w'.reg.location x = w.reg.location x := within.same .location still
    exact same.trans rests.place
  have others (other : x ≠ event.actor)
      (still : (Scope.mk [] event.scope.all).covers .location = false) :
      w'.reg.location x = some place := by
    have same : w'.reg.location x = w.reg.location x := (within.others other).same .location still
    exact same.trans rests.place
  cases event with
  | command cmd =>
      cases cmd with
      | move session a b c =>
          have moved : w.movePlayer session a b c = some w' := stepped
          cases bound : w.index.bySessionIndex session with
          | none =>
              simp only [World.movePlayer, bound] at moved
              rw [← Option.some.inj moved]
              exact rests.place
          -- Whoever is bound to a session wears the tag of a player, which no NPC does.
          | some player =>
              have tagged : w.reg.playerTag player = some ⟨session⟩ := roster.bound session player bound
              have other : x ≠ player := by
                rintro rfl
                simp [rests.resident.unplayed] at tagged
              have walks := w.movePlayer_within w' x session a b c moved
              simp only [bound, Option.getD_some] at walks
              have same : w'.reg.location x = w.reg.location x :=
                (walks.others other).same .location rfl
              exact same.trans rests.place
      | _ => exact apart rfl
  | movement e =>
      by_cases own : x = e
      next =>
        subst own
        rcases rests.movement stepped with same | stilled
        · rw [same]
          exact rests.place
        · rw [stilled]
          exact rests.place
      next => exact others own rfl
  | behaviorTree e draw =>
      by_cases own : x = e
      next =>
        subst own
        rw [rests.behaviorTree draw stepped]
        exact rests.place
      next => exact others own rfl
  | _ => exact apart rfl

theorem step_rests (event : Event F) (matched : w.Matched) (roster : w.ledger.Roster)
    (rests : w.LiesStill x place) (stepped : step event w = some w') : w'.LiesStill x place where
  resident := step_resident event w w' x rests.resident stepped
  dead := step_dead event w w' x matched rests.resident rests.dead stepped
  treeless := step_treeless event rests stepped
  idles := step_idles event rests stepped
  grounded := step_grounded event rests stepped
  place := step_lies event roster rests stepped

theorem systemDeath_rests (stage : w.OnStage x) (equipped : w.Equipped x)
    (dead : w.isDead x = true) (stands : w.reg.location x = some place) :
    (w.systemDeath x).LiesStill x place := by
  have within : Within World.deathScope x x w (w.systemDeath x) :=
    w.systemDeath_within x x
  have laid : w.systemDeath x = (((((w.stopToil x).modifyVelocity x fun _ => .still).dropWaypoints
      x).setActivity x "사망").dropTarget x).eraseBehaviorTree x := by
    obtain ⟨identity, known⟩ := Option.isSome_iff_exists.mp stage.named
    cases hurt : w.reg.health x with
    | none => simp [World.isDead, hurt] at dead
    | some health =>
        have fallen : health.isDead = true := by simpa [World.isDead, hurt] using dead
        simp [World.systemDeath, known, hurt, fallen]
  have stopped : (w.stopToil x).Idles x := by
    obtain ⟨toil, has⟩ := Option.isSome_iff_exists.mp equipped.2
    simp only [World.stopToil, has]
    split
    next idle => exact ⟨toil, has, idle⟩
    next => exact ⟨⟨.idle, "Dead", 0⟩, by simp [World.setToil], rfl⟩
  exact {
    resident := within.resident rfl stage.resident
    dead := by
      have mortal : (w.systemDeath x).reg.health x = w.reg.health x := within.same .health rfl
      simpa [World.isDead, mortal] using dead
    treeless := by simp [laid, World.eraseBehaviorTree]
    idles := by
      rw [laid]
      exact World.laidOut_idles x stopped
    grounded := by
      rw [laid]
      exact World.laidOut_grounded (w.stopToil x) x
    place := by
      have still : (w.systemDeath x).reg.location x = w.reg.location x := within.same .location rfl
      exact still.trans stands }

theorem run_rests {past : List (Transition (World F) (Event F))} (matched : w.Matched)
    (roster : w.ledger.Roster) (rests : w.LiesStill x place) (run : ServerRun w past w') :
    w'.LiesStill x place := by
  have kept : w'.Matched ∧ w'.ledger.Roster ∧ w'.LiesStill x place := by
    refine run.preserved (fun m : World F => m.Matched ∧ m.ledger.Roster ∧ m.LiesStill x place)
      ⟨matched, roster, rests⟩ fun m event m' here stepped => ?_
    obtain ⟨paired, listed, lying⟩ := here
    exact ⟨step_matched event m m' paired stepped,
      (Ledger.step_keeps (fun _ => True) (fun _ _ => True) (fun _ _ _ _ _ => trivial)
        (fun _ _ _ _ _ _ _ _ => trivial) event listed trivial trivial stepped).1,
      step_rests event paired listed lying stepped⟩
  exact kept.2.2

/-- Once `SystemDeath` has visited a dead NPC it rests where it fell, in every run. -/
theorem dead_rest (data : WorldBootstrapData F) (settings : SimulationSettings F)
    (obstacles : Option (List Obstacle)) (draws : Nat → NeedsDraw F) (start w w' last : World F)
    (earlier later : List (Transition (World F) (Event F))) (n : Entity)
    (booted : bootstrap data settings obstacles draws = some start)
    (run : ServerRun start earlier w) (npc : w.isNpc n = true) (dead : w.isDead n = true)
    (visited : step (.death n) w = some w') (afterwards : ServerRun w' later last) :
    ∃ place, w.reg.location n = some place ∧ last.LiesStill n place := by
  have staffed := reachable_staffed data settings obstacles draws start w earlier booted run
  have equipped := reachable_equipped data settings obstacles draws start w earlier booted run n npc
  have stage := staffed.staged n npc
  obtain ⟨place, stands⟩ := Option.isSome_iff_exists.mp stage.located
  -- The roster is needed for moves only: a session is never bound to an NPC.
  have roster := (run_cast (bootstrap_initial data settings obstacles draws start booted)
    (run.next visited)).1
  have matched := step_matched (.death n) w w' staffed.matched visited
  obtain rfl := Option.some.inj visited
  have rests := systemDeath_rests stage equipped dead stands
  exact ⟨place, stands, run_rests matched roster rests afterwards⟩

def wolvesData : WorldBootstrapData ℚ :=
  { prowlData with
    agents := ⟨7, "ella", "엘라", "Wilderness", 40, 0, 40, "평온", "대기", 1 / 2, []⟩ ::
      (List.range 10).map fun k =>
        ⟨.ofNat (20 + k), "wolf", "늑대", "Wilderness", 41, 0, 40, "평온", "대기", 1 / 2, []⟩ }

def wolves : World ℚ :=
  populate (emptyWorld wolvesData ⟨2, 60⟩ (some [])) wolvesData fun _ => ⟨100, 100⟩

theorem wolves_boot : bootstrap wolvesData ⟨2, 60⟩ (some []) (fun _ => ⟨100, 100⟩) = some wolves := by
  rw [bootstrap, if_neg (by decide), if_neg (by decide +kernel)]
  rfl

-- Each wolf sees Ella, turns on her and bites once.
def wolfHunt : List (Event ℚ) :=
  (List.range' 1 10).flatMap fun wolf =>
    .perception wolf :: List.replicate 3 (.behaviorTree wolf ⟨id, fun _ => 0⟩)

def vigil : List (Event ℚ) :=
  [.death 0, .pathfinding 0 0 ⟨⟨0, 0⟩, GridMap.leastFirst⟩, .movement 0, .jobDriver 0,
    .busyAmbient 0, .behaviorTree 0 ⟨id, fun _ => 0⟩, .perception 1,
    .behaviorTree 1 ⟨id, fun _ => 0⟩]

theorem dead_rest_wolves : ∃ earlier w w' later last place, ServerRun wolves earlier w ∧
    earlier.reverse.map (·.event) = wolfHunt ∧ step (.death 0) w = some w' ∧
    ServerRun w' later last ∧ later.reverse.map (·.event) = vigil ∧
    w.reg.location 0 = some place ∧ last.LiesStill 0 place := by
  have passed : (followWhile step (fun _ _ => true) wolfHunt wolves).any (fun w =>
      (w.isNpc 0 && w.isDead 0) && (step (.death 0) w).any fun w' =>
        (followWhile step (fun _ _ => true) vigil w').isSome) = true := by decide +kernel
  obtain ⟨earlier, w, run, -, events, passed⟩ := Run.exists_of_check _ _ _ passed
  simp only [Bool.and_eq_true] at passed
  obtain ⟨⟨npc, dead⟩, passed⟩ := passed
  obtain ⟨w', visited, passed⟩ := (Option.any_eq_true _ _).mp passed
  obtain ⟨last, followed⟩ := Option.isSome_iff_exists.mp passed
  obtain ⟨later, afterwards, order⟩ :=
    Run.exists_of_follow vigil (follow_of_followWhile _ _ _ _ followed)
  obtain ⟨place, stands, rests⟩ := dead_rest wolvesData ⟨2, 60⟩ (some []) (fun _ => ⟨100, 100⟩) wolves
    w w' last earlier later 0 wolves_boot run npc dead visited afterwards
  exact ⟨earlier, w, w', later, last, place, run, events, visited, afterwards, order, stands, rests⟩

end MundusVivens
