import MundusVivens.Ledger.SystemEffects
import MundusVivens.Systems.Combat

set_option autoImplicit false

namespace MundusVivens

open Scalar BehaviorTree

variable {F : Type} [Scalar F]

namespace Ledger

theorem Upkeep.free {l l' : Ledger} {e : Entity} (kept : Upkeep l l') (free : l.reason e = none) :
    l'.reason e = none := by
  cases kept with
  | furnish id =>
      by_cases same : e = l.nextEntity <;> simp [Ledger.furnish, create, destroy, same, free]
  | demolish x furniture =>
      by_cases same : e = x <;> simp [destroy, same, free]
  | resume x waiting =>
      by_cases same : e = x <;> simp [release, same, free]

theorem Kept.free {l l' : Ledger} {e : Entity} (kept : l.Kept l') (free : l.reason e = none) :
    l'.reason e = none := by
  induction kept with
  | refl => exact free
  | tail _ step ih => exact step.free ih

end Ledger

namespace World

variable (w w' : World F) (e : Entity)

theorem spawnCamp_kept (loc : LocationComp F) (name : String) (type : AffordanceType) :
    w.ledger.Kept (w.spawnCamp loc name type).ledger := by
  have same : (w.spawnCamp loc name type).ledger = w.ledger.furnish 0 := by
    unfold spawnCamp
    dsimp only
    rw [ledger_updateEntityPosition, ledger_furnish]
  exact same ▸ .single (.furnish w.ledger 0)

omit [Scalar F] in
theorem aimJob_ledger (job : JobComp F) (toil : ToilComp) (place : LocationComp F) :
    (w.aimJob e job toil place).ledger = w.ledger := rfl

omit [Scalar F] in
theorem occupyFurniture_ledger (needs : NeedsComp F) (loc : LocationComp F) (toil : ToilComp)
    (furniture : Entity) (occupied : w.occupyFurniture e needs loc toil furniture = some w') :
    w'.ledger = w.ledger := by
  obtain ⟨aff, place, -, -, rfl⟩ := occupyFurniture_eq occupied
  simp [settle]

omit [Scalar F] in
theorem leaveFurniture_kept (needs : NeedsComp F) (left : w.Leaves needs w') :
    w.ledger.Kept w'.ledger := by
  cases left with
  | floor => exact .of_eq rfl
  | seat => exact .of_eq (by simp)
  | camp f aff seated stands =>
      have freed : (w.setOccupiedBy f none).ledger = w.ledger := by simp
      rw [← freed]
      exact demolish_kept _ _ f (by simp [setOccupiedBy, stands])

theorem interactFurniture_kept (draw : BehaviorDraw) (status : NodeStatus)
    (ran : w.actionInteractFurniture e draw = some (status, w')) : w.ledger.Kept w'.ledger := by
  obtain ⟨needs, loc, toil, job, identity, -, acted⟩ := interactFurniture_cases ran
  cases acted with
  | settles seeks settled =>
      cases settled with
      | seat f found taken => exact .of_eq (w.occupyFurniture_ledger w' e needs loc toil f taken)
      | camp name type full wild suits taken =>
          rw [occupyFurniture_ledger _ w' e needs loc toil _ taken]
          exact w.spawnCamp_kept loc name type
      | floor => exact .of_eq (by simp [settle])
  | recharges => exact .of_eq rfl
  | resolves amount left rests recovers full leaves =>
      rw [ledger_setActivity, ledger_setToil, ledger_setJob, ledger_issue_other _ _ rfl,
        ledger_setNeeds]
      exact w.leaveFurniture_kept left _ leaves

theorem findFurniture_kept (draw : BehaviorDraw) (status : NodeStatus)
    (ran : w.actionFindFurniture e draw = some (status, w')) : w.ledger.Kept w'.ledger := by
  obtain ⟨-, needs, job, loc, toil, -, -, -, -, searches⟩ := findFurniture_cases ran
  cases searches with
  | keeps => exact .refl
  | aims dist place => exact .of_eq (w.aimJob_ledger e job toil place)
  | camps name type =>
      rw [aimJob_ledger]
      exact w.spawnCamp_kept loc name type
  | stays => exact .of_eq (w.aimJob_ledger e job toil loc)

theorem inCrisis_ledger (crisis : Crisis F) (status : NodeStatus)
    (free : w.ledger.reason e = none)
    (ran : w.conditionInCrisis crisis e = some (status, w')) : w'.ledger = w.ledger := by
  obtain ⟨needs, -, checks⟩ := inCrisis_cases ran
  cases checks with
  | ongoing => rfl
  | enters identity job =>
      rw [ledger_setToil, ledger_setJob, ledger_issue_other _ _ rfl, ledger_clearPath,
        ledger_eraseBusy, ledger_setNeeds]
      refine w.ledger.release_free [e] fun x member => ?_
      obtain rfl := List.mem_singleton.mp member
      exact free
  | spared => rfl

omit [Scalar F] in
theorem isScheduled_ledger (crisis : Crisis F) (status : NodeStatus)
    (ran : w.conditionIsScheduled crisis e = some (status, w')) : w'.ledger = w.ledger := by
  obtain ⟨needs, -, checks⟩ := isScheduled_cases ran
  cases checks <;> rfl

theorem moveToTarget_ledger (status : NodeStatus)
    (ran : w.actionMoveToTarget e = some (status, w')) : w'.ledger = w.ledger := by
  obtain ⟨loc, job, toil, -, -, -, travels⟩ := moveToTarget_cases ran
  cases travels <;> simp

theorem flee_ledger (draw : BehaviorDraw) (status : NodeStatus)
    (ran : w.actionFlee e draw = some (status, w')) : w'.ledger = w.ledger := by
  obtain ⟨loc, combat, job, toil, -, -, -, -, flees⟩ := flee_cases ran
  cases flees <;> simp

omit [Scalar F] in
theorem hasCombatTarget_ledger (status : NodeStatus)
    (ran : w.conditionHasCombatTarget e = some (status, w')) : w'.ledger = w.ledger := by
  cases hasCombatTarget_cases ran <;> simp

omit [Scalar F] in
theorem inhibit_ledger (aggro : AggroComp) (npcId targetNpcId : UInt32) :
    (w.inhibit e aggro npcId targetNpcId).1.ledger = w.ledger := by
  unfold inhibit
  split
  next => rfl
  next => exact w.ledger_issue_other _ rfl

theorem inhibitOrAttack_ledger (status : NodeStatus)
    (ran : w.actionInhibitOrAttack e = some (status, w')) : w'.ledger = w.ledger := by
  cases inhibitOrAttack_cases ran <;> simp [inhibit_ledger]

theorem wander_ledger (draw : BehaviorDraw) (status : NodeStatus)
    (ran : w.actionWander e draw = some (status, w')) : w'.ledger = w.ledger := by
  obtain ⟨loc, job, toil, -, -, -, wanders⟩ := wander_cases ran
  cases wanders <;> simp

end World

variable {e : Entity} {draw : BehaviorDraw} {w w' : World F}

theorem runLeaf_kept (leaf : SurvivalLeaf) (peaceful : isPeaceful leaf) (status : NodeStatus)
    (free : w.ledger.reason e = none) (ran : runLeaf e draw leaf w = some (status, w')) :
    w.ledger.Kept w'.ledger := by
  cases leaf with
  | hasCombatTarget => exact .of_eq (w.hasCombatTarget_ledger w' e status ran)
  | isLowHealth => exact .of_eq (congrArg World.ledger (w.isLowHealth_pure e w' status ran).1)
  | flee => exact .of_eq (w.flee_ledger w' e draw status ran)
  | isAggroHigh => exact .of_eq (congrArg World.ledger (w.isAggroHigh_pure e w' status ran).1)
  | inhibitOrAttack => exact .of_eq (w.inhibitOrAttack_ledger w' e status ran)
  | meleeAttack => exact absurd rfl peaceful
  | isHungry => exact .of_eq (w.inCrisis_ledger w' e hungerCrisis status free ran)
  | isFatigued => exact .of_eq (w.inCrisis_ledger w' e fatigueCrisis status free ran)
  | isScheduledEat => exact .of_eq (w.isScheduled_ledger w' e hungerCrisis status ran)
  | isScheduledSleep => exact .of_eq (w.isScheduled_ledger w' e fatigueCrisis status ran)
  | findFurniture => exact w.findFurniture_kept w' e draw status ran
  | moveToTarget => exact .of_eq (w.moveToTarget_ledger w' e status ran)
  | interactFurniture => exact w.interactFurniture_kept w' e draw status ran
  | canWander => exact .of_eq (congrArg World.ledger (World.canWander_pure ran))
  | wander => exact .of_eq (w.wander_ledger w' e draw status ran)

theorem peacefulSteps_kept (free : w.ledger.reason e = none)
    (steps : PeacefulSteps e draw w w') : w.ledger.Kept w'.ledger := by
  induction steps with
  | refl => exact .refl
  | tail _ step ih =>
      obtain ⟨leaf, status, peaceful, ran⟩ := step
      exact ih.trans (runLeaf_kept leaf peaceful status (ih.free free) ran)

namespace World

theorem standAndFight_ledger (toil : ToilComp) :
    (w.standAndFight e toil).ledger = w.ledger := by
  unfold standAndFight
  split <;> rfl

omit [Scalar F] in
theorem retaliate_ledger (attacker target : Entity) :
    (w.retaliate attacker target).ledger = w.ledger := by
  unfold retaliate
  split
  next => split <;> rfl
  next => rfl

theorem landHit_ledger (target : Entity) (combat : CombatComp F)
    (identity targetIdentity : IdentityComp) (targetHealth : HealthComp F) :
    (w.landHit e target combat identity targetIdentity targetHealth).ledger =
      w.ledger.release [target] := by
  unfold landHit
  dsimp only
  rw [retaliate_ledger, ledger_eraseBusy, ledger_issue_other _ _ rfl, ledger_setActivity,
    ledger_setCombat, ledger_setHealth]

theorem strike_ledger (target : Entity) (combat : CombatComp F)
    (identity targetIdentity : IdentityComp) (targetHealth : HealthComp F)
    (struck : w.strike e target combat identity targetIdentity targetHealth = some w') :
    w'.ledger = w.ledger.release [target] := by
  rcases strike_cases struck with ⟨-, rfl⟩ | ⟨-, mine, -, rfl⟩
  · rw [landHit_ledger]
  · rw [ledger_setCombat, ledger_setHealth, landHit_ledger]

theorem meleeTurn_ledger (fighting : w.fights e = true) (turn : w.MeleeTurn e w') :
    w'.ledger = w.ledger ∨ ∃ target, w.meleeHit e = some target ∧
      w'.ledger = w.ledger.release [target] := by
  cases turn with
  | chase job toil targetLoc name =>
      refine .inl ?_
      unfold chase
      split <;> simp
  | wait toil combat target text => exact .inl (by simp [standAndFight_ledger])
  | hit toil combat target identity targetIdentity targetHealth _ _ reached struck =>
      refine .inr ⟨target, (reached fighting).2, ?_⟩
      rw [strike_ledger _ _ _ _ _ struck, standAndFight_ledger]

end World

theorem behaviorTree_ledger (visited : w.behaviorTree e draw = some w') :
    w.ledger.Kept w'.ledger ∨ ∃ target, w.meleeHit e = some target ∧
      w'.ledger = w.ledger.release [target] := by
  rcases World.behaviorTree_cases e draw w w' visited with rfl | ⟨free, steps | ⟨fighting, turn⟩⟩
  · exact .inl .refl
  · exact .inl (peacefulSteps_kept (by simp [World.ledger, free]) steps)
  · rcases World.meleeTurn_ledger fighting turn with same | hit
    · exact .inl (.of_eq same)
    · exact .inr hit

end MundusVivens
