import MundusVivens.Safety.Arms
import MundusVivens.Safety.Residents
import MundusVivens.Systems.MovementCases

set_option autoImplicit false

/-!
# Who walks

A toil is set to `Moving` by the job driver and by the leaves of the survival tree, so
only an NPC ever walks, even where a player is given a job.
-/

namespace MundusVivens

open Scalar BehaviorTree

variable {F : Type}

namespace World

variable {w m w' : World F} {e x y : Entity} {who : Entity → Prop}

def Striding (w : World F) (x : Entity) : Prop :=
  ∃ toil, w.reg.toil x = some toil ∧ toil.state = .moving

def SetsOut (who : Entity → Prop) (w w' : World F) : Prop :=
  ∀ x, w'.Striding x → w.Striding x ∨ who x

namespace SetsOut

theorem of_eq (same : w'.reg.toil = w.reg.toil) : SetsOut who w w' := by
  intro x strides
  rw [Striding, same] at strides
  exact .inl strides

theorem trans (first : SetsOut who w m) (second : SetsOut who m w') : SetsOut who w w' := by
  intro x strides
  rcases second x strides with before | starts
  · exact first x before
  · exact .inr starts

theorem setToil (y : Entity) (toil : ToilComp) (starts : toil.state = .moving → who y) :
    SetsOut who w (w.setToil y toil) := by
  rintro x ⟨after, toils, moving⟩
  by_cases same : x = y
  next =>
    subst same
    obtain rfl : toil = after := by simpa [World.setToil] using toils
    exact .inr (starts moving)
  next => exact .inl ⟨after, by simpa [World.setToil, same] using toils, moving⟩

theorem destroy (grid : LocationRegistry F) (y : Entity) :
    SetsOut who w { w with grid := grid, reg := w.reg.destroy y } := by
  rintro x ⟨toil, toils, moving⟩
  by_cases same : x = y
  next => simp [Registry.destroy, same] at toils
  next => exact .inl ⟨toil, by simpa [Registry.destroy, same] using toils, moving⟩

theorem create : SetsOut who w { w with reg := w.reg.create } := by
  rintro x ⟨toil, toils, moving⟩
  by_cases same : x = w.reg.nextEntity
  next => simp [Registry.create, Registry.destroy, same] at toils
  next => exact .inl ⟨toil, by simpa [Registry.create, Registry.destroy, same] using toils, moving⟩

theorem foldl {β : Type} (f : World F → β → World F) (each : ∀ m b, SetsOut who m (f m b))
    (l : List β) (w : World F) : SetsOut who w (l.foldl f w) :=
  List.foldlRecOn (motive := fun m => SetsOut who w m) l f (of_eq rfl)
    fun m before b _ => before.trans (each m b)

theorem foldlM {β : Type} (f : World F → β → Option (World F))
    (each : ∀ m b m', f m b = some m' → SetsOut who m m') (l : List β) (w w' : World F)
    (folded : l.foldlM f w = some w') : SetsOut who w w' :=
  Folds.foldlM_keeps (fun m => SetsOut who w m) f
    (fun m b m' before made => before.trans (each m b m' made)) l w w' (of_eq rfl) folded

theorem mono {wider : Entity → Prop} (sets : SetsOut who w w') (admits : ∀ x, who x → wider x) :
    SetsOut wider w w' := fun x strides => (sets x strides).imp id (admits x)

end SetsOut

theorem SetsOut.of_within {s : Scope} (within : ∀ x, Within s e x w w')
    (foreign : (Scope.mk [] s.all).covers .toil = false) : SetsOut (· = e) w w' := by
  rintro x ⟨toil, toils, moving⟩
  by_cases own : x = e
  next => exact .inr own
  next =>
    have same : w'.reg.toil x = w.reg.toil x := ((within x).others own).same .toil foreign
    exact .inl ⟨toil, same ▸ toils, moving⟩

variable [Scalar F]

omit [Scalar F] in
theorem restartToil_setsOut (y : Entity) : SetsOut who w (w.restartToil y) :=
  .setToil y _ fun moving => by cases moving

theorem writeNextJob_setsOut (payload : JobPayload F) (draw : LocationRegistry.RadiusDraw F) :
    SetsOut who w (w.writeNextJob y payload draw) :=
  (SetsOut.of_eq rfl).trans (restartToil_setsOut y)

theorem applyPendingJob_setsOut (payload : JobPayload F) (draw : LocationRegistry.RadiusDraw F) :
    SetsOut who w (w.applyPendingJob payload draw) := by
  unfold applyPendingJob
  split
  next y _ =>
    have written : SetsOut who w (w.writeNextJob y payload draw) := writeNextJob_setsOut payload draw
    unfold writePendingJob eraseScheduleWait
    repeat' split
    all_goals exact written.trans (.of_eq rfl)
  next => exact .of_eq rfl

theorem applyNextJob_setsOut (payload : JobPayload F) (draw : LocationRegistry.RadiusDraw F)
    (applied : w.applyNextJob payload draw = some w') : SetsOut who w w' := by
  unfold applyNextJob at applied
  split at applied
  next y _ =>
    simp only [Option.bind_eq_bind, Option.bind_eq_some_iff] at applied
    obtain ⟨identity, -, stored⟩ := applied
    obtain rfl := Option.some.inj stored
    exact writeNextJob_setsOut payload draw
  next =>
    obtain rfl := Option.some.inj applied
    exact .of_eq rfl

omit [Scalar F] in
theorem applyReport_setsOut (newJob : Option (JobPayload F)) :
    SetsOut who w (w.applyReport y newJob) := by
  unfold applyReport
  split
  next =>
    split
    next => exact (SetsOut.of_eq rfl).trans (restartToil_setsOut y)
    next => exact .of_eq rfl
  next => exact .of_eq rfl

theorem dialogueTask_setsOut (group : List Entity) (tick : Int) (success : Bool)
    (result : DialogueResult F) (draws : Nat → LocationRegistry.RadiusDraw F)
    (ran : w.dialogueTask group tick success result draws = some w') : SetsOut who w w' := by
  have toilless {s : Scope} {m m' : World F} (within : ∀ x, Within s x x m m')
      (spared : s.covers .toil = false) : SetsOut who m m' :=
    .of_eq (funext fun x => (within x).same .toil spared)
  unfold dialogueTask at ran
  split at ran
  next =>
    simp only [finishDialogue, Option.bind_eq_bind, Option.bind_eq_some_iff] at ran
    obtain ⟨identities, -, planned, jobs, heard, told, dismissed⟩ := ran
    have felt : SetsOut who w (result.emotionUpdates.foldl applyEmotionUpdate w) := by
      refine .foldl _ (fun m update => .of_eq ?_) _ _
      unfold applyEmotionUpdate
      repeat' split
      all_goals rfl
    have installed := felt.trans (.foldlM _
      (fun m job m' applied => applyNextJob_setsOut job.1 _ applied) _ _ _ jobs)
    have listened := installed.trans (toilless
      (fun x => planned.eavesdropping_within heard x x group result told) rfl)
    refine listened.trans (.foldlM _ (fun m y m' left => ?_) _ _ _ dismissed)
    exact toilless (fun x => m.dismissParticipant_within m' x x group tick y left) rfl
  next =>
    refine .foldlM _ (fun m y m' released => ?_) _ _ _ ran
    exact toilless (fun x => m.releaseIfValid_within m' x x y released) rfl

theorem drainTask_setsOut (draws : Nat → LocationRegistry.RadiusDraw F)
    (drained : w.drainTask draws = some w') : SetsOut who w w' := by
  rcases w.drainTask_cases w' draws drained with
    rfl | ⟨ticket, request, reply, rest, popped, ran⟩
  · exact .of_eq rfl
  have taken : SetsOut who w ({ w with grpc := rest } : World F) := .of_eq rfl
  refine taken.trans ?_
  have apart (spared : request.method.taskScope.covers .toil = false) :
      SetsOut who ({ w with grpc := rest } : World F) w' :=
    .of_eq (funext fun x => (runTask_within _ w' x request reply draws ran).same .toil spared)
  unfold runTask at ran
  split at ran
  next => exact apart rfl
  next =>
    obtain rfl := Option.some.inj ran
    unfold applyPendingJobs
    refine .foldl _ (fun m job => ?_) _ _
    exact applyPendingJob_setsOut job.1 (draws job.2)
  next =>
    obtain rfl := Option.some.inj ran
    exact applyReport_setsOut _
  next => exact dialogueTask_setsOut _ _ _ _ draws ran
  next => exact apart rfl
  next => exact apart rfl
  next => exact apart rfl
  next => exact apart rfl
  next =>
    obtain rfl := Option.some.inj ran
    exact .of_eq rfl

theorem updateEntityPosition_setsOut (a b : F) : SetsOut who w (w.updateEntityPosition y a b) := by
  obtain ⟨grid, location, moved⟩ := w.updateEntityPosition_eq y a b
  rw [moved]
  exact .of_eq rfl

theorem spawnCamp_setsOut (loc : LocationComp F) (name : String) (type : AffordanceType) :
    SetsOut who w (w.spawnCamp loc name type) := by
  unfold spawnCamp
  dsimp only
  have made : SetsOut who w _ := .create
  exact (made.trans (.of_eq rfl)).trans (updateEntityPosition_setsOut _ _)

omit [Scalar F] in
theorem settle_setsOut (toil : ToilComp) (texts : String × String) :
    SetsOut (· = e) w (w.settle e toil texts) :=
  SetsOut.trans (m := w.setToil e _) (.setToil e _ fun _ => rfl) (.of_eq rfl)

omit [Scalar F] in
theorem occupyFurniture_setsOut {needs : NeedsComp F} {loc : LocationComp F} {toil : ToilComp}
    {f : Entity} (occupied : w.occupyFurniture e needs loc toil f = some w') :
    SetsOut (· = e) w w' := by
  obtain ⟨aff, place, -, -, rfl⟩ := occupyFurniture_eq occupied
  exact SetsOut.trans (.of_eq rfl) (settle_setsOut toil _)

theorem interactFurniture_setsOut (draw : BehaviorDraw) (status : NodeStatus)
    (ran : w.actionInteractFurniture e draw = some (status, w')) : SetsOut (· = e) w w' := by
  obtain ⟨needs, loc, toil, job, identity, -, acted⟩ := interactFurniture_cases ran
  cases acted with
  | settles seeks settled =>
      cases settled with
      | seat f found taken => exact occupyFurniture_setsOut taken
      | camp name type full wild suits taken =>
          exact (spawnCamp_setsOut loc name type).trans (occupyFurniture_setsOut taken)
      | floor => exact settle_setsOut toil _
  | recharges => exact .of_eq rfl
  | resolves amount left rests recovers full leaves =>
      have vacated : SetsOut (· = e) w left := by
        cases leaves with
        | floor => exact .of_eq rfl
        | seat => exact .of_eq rfl
        | camp f =>
            have freed : SetsOut (· = e) w (w.setOccupiedBy f none) := .of_eq rfl
            exact freed.trans (.destroy _ f)
      refine vacated.trans (SetsOut.trans ?_ (.of_eq rfl))
      exact SetsOut.trans (.of_eq rfl) (.setToil e _ fun _ => rfl)

theorem findFurniture_setsOut (draw : BehaviorDraw) (status : NodeStatus)
    (ran : w.actionFindFurniture e draw = some (status, w')) : SetsOut (· = e) w w' := by
  obtain ⟨-, needs, job, loc, toil, -, -, -, -, searches⟩ := findFurniture_cases ran
  have aimed (m : World F) (place : LocationComp F) : SetsOut (· = e) m (m.aimJob e job toil place) :=
    SetsOut.trans (.of_eq rfl) (.setToil e _ fun _ => rfl)
  cases searches with
  | keeps => exact .of_eq rfl
  | aims dist place => exact aimed w place
  | camps name type => exact (spawnCamp_setsOut loc name type).trans (aimed _ loc)
  | stays => exact aimed w loc

theorem runLeaf_setsOut (draw : BehaviorDraw) (leaf : SurvivalLeaf) (status : NodeStatus)
    (ran : runLeaf e draw leaf w = some (status, w')) : SetsOut (· = e) w w' := by
  have apart (searches : leaf ≠ .findFurniture) (interacts : leaf ≠ .interactFurniture)
      (foreign : (Scope.mk [] leaf.scope.all).covers .toil = false) : SetsOut (· = e) w w' :=
    .of_within (fun x => runLeaf_apart_within e x draw leaf status w w' searches interacts ran) foreign
  cases leaf with
  | findFurniture => exact findFurniture_setsOut draw status ran
  | interactFurniture => exact interactFurniture_setsOut draw status ran
  | _ => exact apart (by simp) (by simp) rfl

theorem behaviorTree_setsOut (draw : BehaviorDraw) (visited : w.behaviorTree e draw = some w') :
    SetsOut (· = e) w w' := by
  unfold behaviorTree at visited
  split at visited
  next =>
    obtain rfl := Option.some.inj visited
    exact .of_eq rfl
  next =>
    obtain ⟨⟨status, last⟩, ticked, rfl⟩ := Option.map_eq_some_iff.mp visited
    have steps := tick_steps survivalTree w last status ticked
    clear ticked visited
    induction steps with
    | refl => exact .of_eq rfl
    | tail _ made ih =>
        obtain ⟨leaf, decided, -, ran⟩ := made
        exact ih.trans (runLeaf_setsOut draw leaf decided ran)

omit [Scalar F] in
theorem cleanupPlayer_setsOut (player : Entity) : SetsOut who w (w.cleanupPlayer player) := by
  unfold cleanupPlayer
  split
  next => exact .of_eq rfl
  next tag _ =>
    split
    next => exact .of_eq rfl
    next =>
      have freed (m : World F) (npc : Entity) : SetsOut who m (m.freeNpc npc) := by
        unfold freeNpc
        split <;> exact .of_eq rfl
      have abandoned : SetsOut who w (w.abandonDialogue player) := by
        unfold abandonDialogue
        split
        next => exact .of_eq rfl
        next dialogue _ =>
          cases dialogue.npcEntity with
          | none => exact .of_eq rfl
          | some npc => exact SetsOut.trans (.of_eq rfl) (freed _ npc)
      exact abandoned.trans (SetsOut.trans (.destroy w.grid player) (.of_eq rfl))

theorem login_setsOut (session : UInt32) (playerId playerName : String)
    (logged : w.login session playerId playerName = some w') : SetsOut who w w' := by
  simp only [login, Option.bind_eq_bind, Option.bind_eq_some_iff] at logged
  obtain ⟨⟨player, bound⟩, binds, loc, -, stored⟩ := logged
  obtain rfl := Option.some.inj stored
  refine SetsOut.trans ?_ (updateEntityPosition_setsOut loc.x loc.z)
  unfold loginBind at binds
  split at binds
  next =>
    simp only [Option.bind_eq_bind, Option.bind_eq_some_iff] at binds
    obtain ⟨made, created, stored⟩ := binds
    obtain ⟨rfl, rfl⟩ := Prod.mk.inj (Option.some.inj stored)
    simp only [loginNew, Option.bind_eq_bind, Option.bind_eq_some_iff] at created
    obtain ⟨tagged, checked, stored⟩ := created
    obtain rfl := Option.some.inj stored
    rw [Registry.setPlayerTag, dif_pos (by simp [Registry.create])] at checked
    obtain rfl := Option.some.inj checked
    have fresh : SetsOut who w ({ w with reg := w.reg.create } : World F) := .create
    exact fresh.trans (.of_eq rfl)
  next =>
    simp only [Option.bind_eq_bind, Option.bind_eq_some_iff] at binds
    obtain ⟨made, again, stored⟩ := binds
    obtain ⟨rfl, rfl⟩ := Prod.mk.inj (Option.some.inj stored)
    simp only [loginAgain, Option.bind_eq_bind, Option.bind_eq_some_iff] at again
    obtain ⟨old, -, stored⟩ := again
    obtain rfl := Option.some.inj stored
    exact .of_eq rfl

theorem busyAmbient_idle {deltaTime : F} (hidden : w.reg.activity e = none) :
    w.busyAmbient deltaTime e = w := by
  unfold busyAmbient
  split
  next _ _ shown _ _ _ => simp [hidden] at shown
  next => rfl

theorem systemDeath_unhurt (unhurt : w.reg.health e = none) : w.systemDeath e = w := by
  unfold systemDeath
  split
  next hurt _ => simp [unhurt] at hurt
  next => rfl

theorem pathfinding_setsOut {searches spent : Nat} {choice : PathChoice F}
    (visited : w.pathfinding e searches choice = some (w', spent)) : SetsOut who w w' := by
  rintro x ⟨toil, toils, moving⟩
  by_cases own : x = e
  next =>
    subst own
    unfold pathfinding at visited
    split at visited
    next job before loc _ known _ =>
      split at visited
      next strides => exact .inl ⟨before, known, strides⟩
      next =>
        obtain ⟨rfl, -⟩ := Prod.mk.inj (Option.some.inj visited)
        exact .inl ⟨toil, toils, moving⟩
    next =>
      obtain ⟨rfl, -⟩ := Prod.mk.inj (Option.some.inj visited)
      exact .inl ⟨toil, toils, moving⟩
  next =>
    have same : w'.reg.toil x = w.reg.toil x :=
      ((w.pathfinding_within w' e x searches spent choice visited).others own).same .toil rfl
    exact .inl ⟨toil, same ▸ toils, moving⟩

theorem movement_setsOut (moved : w.movement e = some w') : SetsOut who w w' := by
  rintro x ⟨toil, toils, moving⟩
  by_cases own : x = e
  next =>
    subst own
    unfold movement at moved
    split at moved
    next loc before path vel job _ _ known _ _ _ _ =>
      split at moved
      next strides => exact .inl ⟨before, known, strides⟩
      next =>
        obtain rfl := Option.some.inj moved
        exact .inl ⟨toil, toils, moving⟩
    next =>
      obtain rfl := Option.some.inj moved
      exact .inl ⟨toil, toils, moving⟩
  next =>
    have same : w'.reg.toil x = w.reg.toil x :=
      ((w.movement_within w' e x moved).others own).same .toil rfl
    exact .inl ⟨toil, same ▸ toils, moving⟩

end World

variable [Scalar F] {w w' : World F}

theorem step_setsOut (event : Event F) (armed : w.Armed) (peopled : w.ledger.Peopled)
    (stepped : step event w = some w') : World.SetsOut w.Resident w w' := by
  have apart (remakes : event.remakes = false) (spared : event.scope.covers .toil = false) :
      World.SetsOut w.Resident w w' :=
    .of_eq (funext fun x => (step_within event w w' x remakes stepped).same .toil spared)
  have acts {s : Scope} {e : Entity} (resident : w.Resident e) (within : ∀ x, Within s e x w w')
      (foreign : (Scope.mk [] s.all).covers .toil = false) : World.SetsOut w.Resident w w' :=
    (World.SetsOut.of_within within foreign).mono fun x own => own ▸ resident
  have shown {e : Entity} {activity : ActivityComp} (acting : w.reg.activity e = some activity) :
      w.Resident e :=
    (w.isNpc_ledger e).mp (peopled.acting e (by simp [World.ledger, acting]))
  cases event with
  | drainTask draws => exact World.drainTask_setsOut draws stepped
  | cleanupPlayer player =>
      obtain rfl := Option.some.inj stepped
      exact World.cleanupPlayer_setsOut player
  | command cmd =>
      cases cmd with
      | login session playerId playerName =>
          exact World.login_setsOut session playerId playerName stepped
      | _ => exact apart rfl rfl
  | jobDriver e =>
      have driven : w.jobDriver e = some w' := stepped
      unfold World.jobDriver at driven
      split at driven
      next _ _ _ _ acting _ =>
        exact acts (shown acting) (fun x => w.jobDriver_within w' e x stepped) rfl
      next =>
        obtain rfl := Option.some.inj driven
        exact .of_eq rfl
  | busyAmbient e =>
      obtain rfl := Option.some.inj stepped
      cases acting : w.reg.activity e with
      | none =>
          rw [World.busyAmbient_idle acting]
          exact .of_eq rfl
      | some activity => exact acts (shown acting) (fun x => w.busyAmbient_within e x _) rfl
  | behaviorTree e draw =>
      by_cases planted : w.reg.behaviorTree e = some ()
      next =>
        exact (World.behaviorTree_setsOut draw stepped).mono
          fun x own => own ▸ armed.matched.planted planted
      next =>
        have bare := World.isNone_tree planted
        obtain rfl : w = w' := by simpa [step, World.behaviorTree, bare] using stepped
        exact .of_eq rfl
  | death e =>
      obtain rfl := Option.some.inj stepped
      cases hurt : w.reg.health e with
      | none =>
          rw [World.systemDeath_unhurt hurt]
          exact .of_eq rfl
      | some health =>
          exact acts (armed.mortal e (by simp [hurt])) (fun x => w.systemDeath_within e x) rfl
  | pathfinding e searches choice =>
      obtain ⟨⟨m, spent⟩, visited, rfl⟩ := Option.map_eq_some_iff.mp stepped
      exact World.pathfinding_setsOut visited
  | movement e => exact World.movement_setsOut stepped
  | checkOccupant f =>
      obtain rfl := Option.some.inj stepped
      rw [World.checkOccupant_idle armed.matched f]
      exact .of_eq rfl
  | resolveAffordance e =>
      rw [World.resolveAffordance_idle armed.matched w' stepped]
      exact .of_eq rfl
  | _ => exact apart rfl rfl

end MundusVivens
