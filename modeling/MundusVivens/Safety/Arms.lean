import MundusVivens.Fighting.Threats
import MundusVivens.Furniture.Npcs
import MundusVivens.Systems.Blows

set_option autoImplicit false

/-!
# Arms

The components by which an entity fights. Only bootstrap hands them out, and whoever
is aimed at was seen alive or struck first.
-/

namespace MundusVivens

open Scalar BehaviorTree

variable {F : Type}

structure Arms (F : Type) where
  health : Option (HealthComp F)
  combat : Option (CombatComp F)
  aggro : Option AggroComp

def Arms.none : Arms F := ⟨.none, .none, .none⟩

namespace World

variable {w m w' : World F} {e x : Entity}

def arms (w : World F) (x : Entity) : Arms F := ⟨w.reg.health x, w.reg.combat x, w.reg.aggro x⟩

def KeepsArms (w w' : World F) : Prop := ∀ x, w'.arms x = w.arms x ∨ w'.arms x = .none

namespace KeepsArms

theorem of_eq (same : w'.arms = w.arms) : w.KeepsArms w' := fun x => .inl (congrFun same x)

theorem trans (first : w.KeepsArms m) (second : m.KeepsArms w') : w.KeepsArms w' := by
  intro x
  rcases second x with same | disarmed
  · rw [same]
    exact first x
  · exact .inr disarmed

end KeepsArms

theorem arms_within {s : Scope} (within : Within s e x w w') (health : s.covers .health = false)
    (combat : s.covers .combat = false) (aggro : s.covers .aggro = false) : w'.arms x = w.arms x := by
  have sameHealth : w'.reg.health x = w.reg.health x := within.same .health health
  have sameCombat : w'.reg.combat x = w.reg.combat x := within.same .combat combat
  have sameAggro : w'.reg.aggro x = w.reg.aggro x := within.same .aggro aggro
  simp [arms, sameHealth, sameCombat, sameAggro]

theorem destroy_keepsArms (grid : LocationRegistry F) (y : Entity) :
    w.KeepsArms { w with grid := grid, reg := w.reg.destroy y } := by
  intro x
  by_cases same : x = y
  next => exact .inr (by simp [arms, Registry.destroy, same, Arms.none])
  next => exact .inl (by simp [arms, Registry.destroy, same])

theorem create_keepsArms : w.KeepsArms { w with reg := w.reg.create } := by
  intro x
  by_cases same : x = w.reg.nextEntity
  next => exact .inr (by simp [arms, Registry.create, Registry.destroy, same, Arms.none])
  next => exact .inl (by simp [arms, Registry.create, Registry.destroy, same])

theorem cleanupPlayer_keepsArms (player : Entity) : w.KeepsArms (w.cleanupPlayer player) := by
  unfold cleanupPlayer
  split
  next => exact .of_eq rfl
  next tag _ =>
    split
    next => exact .of_eq rfl
    next =>
      have freed (m : World F) (npc : Entity) : (m.freeNpc npc).arms = m.arms := by
        unfold freeNpc
        split <;> rfl
      have abandoned : w.KeepsArms (w.abandonDialogue player) := by
        refine .of_eq ?_
        unfold abandonDialogue
        split
        next => rfl
        next dialogue _ =>
          cases dialogue.npcEntity with
          | none => rfl
          | some npc => exact freed _ npc
      exact abandoned.trans ((destroy_keepsArms w.grid player).trans (.of_eq rfl))

variable [Scalar F]

theorem arms_updateEntityPosition (a b : F) :
    (w.updateEntityPosition e a b).arms = w.arms := by
  obtain ⟨grid, location, moved⟩ := w.updateEntityPosition_eq e a b
  rw [moved]
  rfl

theorem spawnCamp_keepsArms (loc : LocationComp F) (name : String) (type : AffordanceType) :
    w.KeepsArms (w.spawnCamp loc name type) := by
  unfold spawnCamp
  dsimp only
  exact create_keepsArms.trans (.of_eq (by rw [arms_updateEntityPosition]; rfl))

theorem login_keepsArms (session : UInt32) (playerId playerName : String)
    (logged : w.login session playerId playerName = some w') : w.KeepsArms w' := by
  simp only [login, Option.bind_eq_bind, Option.bind_eq_some_iff] at logged
  obtain ⟨⟨player, bound⟩, binds, loc, -, stored⟩ := logged
  obtain rfl := Option.some.inj stored
  have sited : bound.KeepsArms (bound.updateEntityPosition player loc.x loc.z) :=
    .of_eq (arms_updateEntityPosition loc.x loc.z)
  refine KeepsArms.trans ?_ sited
  unfold loginBind at binds
  split at binds
  next =>
    simp only [Option.bind_eq_bind, Option.bind_eq_some_iff] at binds
    obtain ⟨made, created, stored⟩ := binds
    obtain ⟨rfl, rfl⟩ := Prod.mk.inj (Option.some.inj stored)
    simp only [loginNew, Option.bind_eq_bind, Option.bind_eq_some_iff] at created
    obtain ⟨tagged, checked, stored⟩ := created
    obtain rfl := Option.some.inj stored
    rw [Registry.setPlayerTag, dif_pos (by simp [Registry.create])] at checked
    obtain rfl := Option.some.inj checked
    exact create_keepsArms.trans (.of_eq rfl)
  next =>
    simp only [Option.bind_eq_bind, Option.bind_eq_some_iff] at binds
    obtain ⟨made, again, stored⟩ := binds
    obtain ⟨rfl, rfl⟩ := Prod.mk.inj (Option.some.inj stored)
    simp only [loginAgain, Option.bind_eq_bind, Option.bind_eq_some_iff] at again
    obtain ⟨old, -, stored⟩ := again
    obtain rfl := Option.some.inj stored
    exact .of_eq rfl

omit [Scalar F] in
theorem occupyFurniture_arms {needs : NeedsComp F} {loc : LocationComp F} {toil : ToilComp}
    {f : Entity} (occupied : w.occupyFurniture e needs loc toil f = some w') :
    w'.arms = w.arms := by
  obtain ⟨aff, place, -, -, rfl⟩ := occupyFurniture_eq occupied
  rfl

theorem interactFurniture_keepsArms (draw : BehaviorDraw) (status : NodeStatus)
    (ran : w.actionInteractFurniture e draw = some (status, w')) : w.KeepsArms w' := by
  obtain ⟨needs, loc, toil, job, identity, -, acted⟩ := interactFurniture_cases ran
  cases acted with
  | settles seeks settled =>
      cases settled with
      | seat f found taken => exact .of_eq (occupyFurniture_arms taken)
      | camp name type full wild suits taken =>
          exact (spawnCamp_keepsArms loc name type).trans (.of_eq (occupyFurniture_arms taken))
      | floor => exact .of_eq rfl
  | recharges => exact .of_eq rfl
  | resolves amount left rests recovers full leaves =>
      have vacated : w.KeepsArms left := by
        cases leaves with
        | floor => exact .of_eq rfl
        | seat => exact .of_eq rfl
        | camp f =>
            have freed : w.KeepsArms (w.setOccupiedBy f none) := .of_eq rfl
            exact freed.trans (destroy_keepsArms _ f)
      exact vacated.trans (.of_eq rfl)

theorem findFurniture_keepsArms (draw : BehaviorDraw) (status : NodeStatus)
    (ran : w.actionFindFurniture e draw = some (status, w')) : w.KeepsArms w' := by
  obtain ⟨-, needs, job, loc, toil, -, -, -, -, searches⟩ := findFurniture_cases ran
  cases searches with
  | keeps => exact .of_eq rfl
  | aims => exact .of_eq rfl
  | camps name type => exact (spawnCamp_keepsArms loc name type).trans (.of_eq rfl)
  | stays => exact .of_eq rfl

end World

-- The target of a fight, or the threat that may become one.
def Arms.Aims (arms : Arms F) (t : Entity) : Prop :=
  (∃ combat, arms.combat = some combat ∧ combat.targetEntity = some t) ∨
    ∃ aggro, arms.aggro = some aggro ∧ aggro.threatEntity = some t

namespace World

variable {w m w' : World F} {e x : Entity} {attacker : Option Entity}

-- A new aim has hit points, or is the attacker that somebody strikes back at.
structure Rouses (attacker : Option Entity) (w w' : World F) : Prop where
  mortal : ∀ x, (w'.arms x).health.isSome = true → (w.arms x).health.isSome = true
  aimed : ∀ x t, (w'.arms x).Aims t →
    attacker = some t ∨ (w.arms t).health.isSome = true ∨ ∃ y, (w.arms y).Aims t

namespace Rouses

theorem of_keeps (keeps : w.KeepsArms w') : Rouses attacker w w' := by
  refine ⟨fun x hurt => ?_, fun x t aims => ?_⟩
  · rcases keeps x with same | disarmed
    · exact same ▸ hurt
    · simp [disarmed, Arms.none] at hurt
  · rcases keeps x with same | disarmed
    · exact .inr (.inr ⟨x, same ▸ aims⟩)
    · simp [disarmed, Arms.none, Arms.Aims] at aims

theorem of_eq (same : w'.arms = w.arms) : Rouses attacker w w' := .of_keeps (.of_eq same)

theorem trans (first : Rouses attacker w m) (second : Rouses attacker m w') :
    Rouses attacker w w' := by
  refine ⟨fun x hurt => first.mortal x (second.mortal x hurt), fun x t aims => ?_⟩
  rcases second.aimed x t aims with struck | alive | ⟨y, before⟩
  · exact .inl struck
  · exact .inr (.inl (first.mortal t alive))
  · exact first.aimed y t before

theorem setCombat (y : Entity) (combat : CombatComp F)
    (known : ∀ t, combat.targetEntity = some t →
      attacker = some t ∨ (w.arms t).health.isSome = true ∨ ∃ y, (w.arms y).Aims t) :
    Rouses attacker w (w.setCombat y combat) := by
  refine ⟨fun x hurt => hurt, fun x t aims => ?_⟩
  by_cases same : x = y
  next =>
    subst same
    rcases aims with ⟨armed, holds, aim⟩ | roused
    · obtain rfl : combat = armed := by simpa [arms, World.setCombat] using holds
      exact known t aim
    · exact .inr (.inr ⟨x, .inr roused⟩)
  next =>
    refine .inr (.inr ⟨x, ?_⟩)
    simpa [arms, World.setCombat, Arms.Aims, same] using aims

theorem setAggro (y : Entity) (aggro : AggroComp)
    (known : ∀ t, aggro.threatEntity = some t →
      attacker = some t ∨ (w.arms t).health.isSome = true ∨ ∃ y, (w.arms y).Aims t) :
    Rouses attacker w (w.setAggro y aggro) := by
  refine ⟨fun x hurt => hurt, fun x t aims => ?_⟩
  by_cases same : x = y
  next =>
    subst same
    rcases aims with fights | ⟨roused, holds, threat⟩
    · exact .inr (.inr ⟨x, .inl fights⟩)
    · obtain rfl : aggro = roused := by simpa [arms, World.setAggro] using holds
      exact known t threat
  next =>
    refine .inr (.inr ⟨x, ?_⟩)
    simpa [arms, World.setAggro, Arms.Aims, same] using aims

theorem setHealth (y : Entity) (health : HealthComp F) (hurt : (w.reg.health y).isSome = true) :
    Rouses attacker w (w.setHealth y health) := by
  refine ⟨fun x after => ?_, fun x t aims => .inr (.inr ⟨x, aims⟩)⟩
  by_cases same : x = y
  next => simpa [arms, same] using hurt
  next => simpa [arms, World.setHealth, same] using after

end Rouses

theorem aims_combat {combat : CombatComp F} {t : Entity} (armed : w.reg.combat e = some combat)
    (aim : combat.targetEntity = some t) : (w.arms e).Aims t :=
  .inl ⟨combat, armed, aim⟩

theorem aims_aggro {aggro : AggroComp} {t : Entity} (roused : w.reg.aggro e = some aggro)
    (threat : aggro.threatEntity = some t) : (w.arms e).Aims t :=
  .inr ⟨aggro, roused, threat⟩

theorem hasCombatTarget_rouses (status : NodeStatus)
    (ran : w.conditionHasCombatTarget e = some (status, w')) : Rouses attacker w w' := by
  cases hasCombatTarget_cases ran with
  | unarmed => exact .of_eq rfl
  | buries combat target => exact .setCombat e _ fun t aim => by cases aim
  | aims => exact .of_eq rfl

theorem inhibit_arms (aggro : AggroComp) (npcId targetNpcId : UInt32) :
    (w.inhibit e aggro npcId targetNpcId).1.arms = w.arms := by
  funext x
  simp [arms, inhibit_reg]

theorem retaliate_rouses (target : Entity) : Rouses (some e) w (w.retaliate e target) := by
  unfold retaliate
  split
  next combat _ =>
    split
    next => exact .setCombat target _ fun t aim => .inl aim
    next => exact .of_eq rfl
  next => exact .of_eq rfl

variable [Scalar F]

theorem inhibitOrAttack_rouses (status : NodeStatus)
    (ran : w.actionInhibitOrAttack e = some (status, w')) : Rouses attacker w w' := by
  have waits (aggro : AggroComp) (npcId targetNpcId : UInt32) (after : AggroComp)
      (roused : w.reg.aggro e = some aggro) (same : after.threatEntity = aggro.threatEntity) :
      Rouses attacker w ((w.inhibit e aggro npcId targetNpcId).1.setAggro e after) := by
    have asked : Rouses attacker w (w.inhibit e aggro npcId targetNpcId).1 :=
      .of_eq (inhibit_arms aggro npcId targetNpcId)
    refine asked.trans (.setAggro e after fun t threat => .inr (.inr ⟨e, ?_⟩))
    rw [inhibit_arms]
    exact aims_aggro roused (same ▸ threat)
  cases inhibitOrAttack_cases ran with
  | unaware => exact .of_eq rfl
  | forgets aggro roused =>
      exact .setAggro e _ fun t threat => .inr (.inr ⟨e, aims_aggro roused threat⟩)
  | attacks aggro toil threat roused toils spotted =>
      have seen : aggro.threatEntity = some threat := (Option.filter_eq_some_iff.mp spotted).1
      have known : (w.arms e).Aims threat := aims_aggro roused seen
      have armed : Rouses attacker w
          (w.setCombat e { (w.reg.combat e).getD .initial with targetEntity := some threat }) :=
        .setCombat e _ fun t aim => by
          obtain rfl := Option.some.inj aim
          exact .inr (.inr ⟨e, known⟩)
      refine (armed.trans (.setAggro e { aggro with aggroScore := 0 } fun t threat => ?_)).trans
        (.of_eq rfl)
      exact .inr (.inr ⟨e, aims_aggro roused threat⟩)
  | givesUp aggro threat identity threatIdentity roused =>
      exact waits aggro _ _ _ roused (by rw [inhibit_aggro])
  | holds aggro toil threat identity threatIdentity text roused =>
      exact (waits aggro _ _ _ roused (by rw [inhibit_aggro])).trans (.of_eq rfl)

theorem landHit_rouses (target : Entity) (combat : CombatComp F)
    (identity targetIdentity : IdentityComp) (health : HealthComp F)
    (armed : w.reg.combat e = some combat) (hurt : (w.reg.health target).isSome = true) :
    Rouses (some e) w (w.landHit e target combat identity targetIdentity health) := by
  have wounded : Rouses (some e) w
      (w.setHealth target { health with hp := health.hp - combat.attackDamage }) :=
    .setHealth target _ hurt
  have tired := wounded.trans (.setCombat e { combat with cooldownTicks := 20 } fun t aim =>
    .inr (.inr ⟨e, aims_combat armed aim⟩))
  refine Rouses.trans ?_ (retaliate_rouses target)
  exact tired.trans (.of_eq rfl)

theorem strike_rouses (target : Entity) (combat : CombatComp F)
    (identity targetIdentity : IdentityComp) (health : HealthComp F)
    (armed : w.reg.combat e = some combat) (hurt : (w.reg.health target).isSome = true)
    (struck : w.strike e target combat identity targetIdentity health = some w') :
    Rouses (some e) w w' := by
  have landed := landHit_rouses target combat identity targetIdentity health armed hurt
  rcases strike_cases struck with ⟨-, rfl⟩ | ⟨-, mine, -, rfl⟩
  · exact landed
  · have wounded := w.landHit_health e target combat identity targetIdentity health
    have slain := landed.trans (.setHealth target { health with hp := zero, isDead := true }
      (by simp [wounded]))
    exact slain.trans (.setCombat e _ fun t aim => by cases aim)

theorem meleeAttack_rouses (status : NodeStatus) (ran : w.actionMeleeAttack e = some (status, w')) :
    Rouses (some e) w w' := by
  have stands (toil : ToilComp) : (w.standAndFight e toil).arms = w.arms := by
    unfold standAndFight
    split <;> rfl
  obtain ⟨loc, combat, job, toil, located, armed, -, -, attacks⟩ := meleeAttack_cases ran
  have ready : (w.standAndFight e toil).reg.combat e = some combat :=
    (congrArg Arms.combat (congrFun (stands toil) e)).trans armed
  cases attacks with
  | aimless => exact .of_eq rfl
  | chases target targetLoc name =>
      refine .of_eq ?_
      unfold chase
      split <;> rfl
  | waits target targetLoc text =>
      have waiting : Rouses (some e) (w.standAndFight e toil) ((w.standAndFight e toil).setCombat e
          { combat with cooldownTicks := combat.cooldownTicks - 1 }) :=
        .setCombat e _ fun t aim => .inr (.inr ⟨e, aims_combat ready aim⟩)
      exact ((Rouses.of_eq (stands toil)).trans waiting).trans (.of_eq rfl)
  | strikes target targetLoc identity targetIdentity health aimed targetLocated near rested hurt struck =>
      have hurts : (w.standAndFight e toil).reg.health target = some health :=
        (congrArg Arms.health (congrFun (stands toil) target)).trans hurt
      exact (Rouses.of_eq (stands toil)).trans
        (strike_rouses target combat identity targetIdentity health ready (by simp [hurts]) struck)

theorem runLeaf_rouses (draw : BehaviorDraw) (leaf : SurvivalLeaf) (status : NodeStatus)
    (ran : runLeaf e draw leaf w = some (status, w')) : Rouses (some e) w w' := by
  have apart (searches : leaf ≠ .findFurniture) (interacts : leaf ≠ .interactFurniture)
      (health : leaf.scope.covers .health = false) (combat : leaf.scope.covers .combat = false)
      (aggro : leaf.scope.covers .aggro = false) : Rouses (some e) w w' :=
    .of_eq (funext fun x => arms_within
      (runLeaf_apart_within e x draw leaf status w w' searches interacts ran) health combat aggro)
  cases leaf with
  | hasCombatTarget => exact hasCombatTarget_rouses status ran
  | inhibitOrAttack => exact inhibitOrAttack_rouses status ran
  | meleeAttack => exact meleeAttack_rouses status ran
  | findFurniture => exact .of_keeps (findFurniture_keepsArms draw status ran)
  | interactFurniture => exact .of_keeps (interactFurniture_keepsArms draw status ran)
  | _ => exact apart (by simp) (by simp) rfl rfl rfl

theorem behaviorTree_rouses (draw : BehaviorDraw) (visited : w.behaviorTree e draw = some w') :
    Rouses (some e) w w' := by
  unfold behaviorTree at visited
  split at visited
  next =>
    obtain rfl := Option.some.inj visited
    exact .of_eq rfl
  next =>
    obtain ⟨⟨status, last⟩, ticked, rfl⟩ := Option.map_eq_some_iff.mp visited
    have steps := tick_steps survivalTree w last status ticked
    clear ticked visited
    induction steps with
    | refl => exact .of_eq rfl
    | tail _ next ih =>
        obtain ⟨leaf, decided, -, ran⟩ := next
        exact ih.trans (runLeaf_rouses draw leaf decided ran)

theorem perception_rouses (e : Entity) : Rouses attacker w (w.perception e) := by
  unfold perception
  split
  next loc aggro faction _ roused _ =>
    have keeps (after : AggroComp) (same : after.threatEntity = aggro.threatEntity) :
        Rouses attacker w (w.setAggro e after) :=
      .setAggro e after fun t threat => .inr (.inr ⟨e, aims_aggro roused (same ▸ threat)⟩)
    split
    next => exact keeps _ rfl
    next =>
      split
      next => exact .setAggro e _ fun t threat => by cases threat
      next =>
        refine .setAggro e _ fun t threat => ?_
        have unchanged (same : aggro.threatEntity = some t) :
            attacker = some t ∨ (w.arms t).health.isSome = true ∨ ∃ y, (w.arms y).Aims t :=
          .inr (.inr ⟨e, aims_aggro roused same⟩)
        rcases w.bestThreat_spec e faction (w.grid.getNearbyEntities loc.x loc.z (lit 20)
          w.reg.location) with ⟨nobody, -⟩ | ⟨found, -, gains, best, -⟩
        · rw [nobody, updateAggro] at threat
          split at threat
          next =>
            dsimp only at threat
            split at threat
            next => cases threat
            next => exact unchanged threat
          next => exact unchanged threat
        · rw [best, updateAggro] at threat
          obtain rfl := Option.some.inj threat
          exact .inr (.inl (threat_of_gain gains).2.2.1)
  next => exact .of_eq rfl

theorem systemDeath_rouses (e : Entity) : Rouses attacker w (w.systemDeath e) := by
  have stopped : (w.stopToil e).arms = w.arms := by
    unfold stopToil
    repeat' split
    all_goals rfl
  have dropped (m : World F) : (m.dropWaypoints e).arms = m.arms := by
    unfold dropWaypoints
    split <;> rfl
  have calmed (m : World F) : Rouses attacker m (m.dropTarget e) := by
    unfold dropTarget
    split
    next => exact .setCombat e _ fun t aim => by cases aim
    next => exact .of_eq rfl
  unfold systemDeath
  split
  next =>
    split
    next =>
      have still : Rouses attacker w ((w.stopToil e).modifyVelocity e fun _ => .still) :=
        .of_eq stopped
      have shown : Rouses attacker w ((((w.stopToil e).modifyVelocity e fun _ =>
          .still).dropWaypoints e).setActivity e "사망") := still.trans (.of_eq (dropped _))
      exact (shown.trans (calmed _)).trans (.of_eq rfl)
    next => exact .of_eq rfl
  next => exact .of_eq rfl

theorem applyThreat_rouses (targetNpcId : UInt32) (success : Bool) (actionCode : Int)
    (applied : w.applyThreat e targetNpcId success actionCode = some w') :
    Rouses attacker w w' := by
  unfold applyThreat at applied
  split at applied
  next =>
    obtain rfl := Option.some.inj applied
    exact .of_eq rfl
  next aggro roused =>
    have keeps (m : World F) (same : m.arms = w.arms) (after : AggroComp)
        (threat : after.threatEntity = aggro.threatEntity) : Rouses attacker w (m.setAggro e after) := by
      refine (Rouses.of_eq same).trans (.setAggro e after fun t seen => .inr (.inr ⟨e, ?_⟩))
      rw [same]
      exact aims_aggro roused (threat ▸ seen)
    split at applied
    next =>
      obtain rfl := Option.some.inj applied
      exact .of_eq rfl
    next =>
      simp only [Option.bind_eq_bind, Option.bind_eq_some_iff] at applied
      obtain ⟨identity, -, applied⟩ := applied
      split at applied
      next =>
        split at applied
        next =>
          obtain rfl := Option.some.inj applied
          have armed : Rouses attacker w (w.setCombat e
              { (w.reg.combat e).getD .initial with targetEntity := aggro.threatEntity }) :=
            .setCombat e _ fun t aim => .inr (.inr ⟨e, aims_aggro roused aim⟩)
          exact armed.trans (.setAggro e _ fun t threat =>
            .inr (.inr ⟨e, aims_aggro roused threat⟩))
        next =>
          obtain rfl := Option.some.inj applied
          exact (keeps w rfl { aggro with aggroScore := 0, isInhibited := false } rfl).trans
            (.of_eq rfl)
      next =>
        obtain rfl := Option.some.inj applied
        exact keeps w rfl _ rfl

theorem drainTask_rouses (draws : Nat → LocationRegistry.RadiusDraw F)
    (drained : w.drainTask draws = some w') : Rouses attacker w w' := by
  rcases w.drainTask_cases w' draws drained with
    rfl | ⟨ticket, request, reply, rest, popped, ran⟩
  · exact .of_eq rfl
  · have taken : Rouses attacker w ({ w with grpc := rest } : World F) := .of_eq rfl
    refine taken.trans ?_
    by_cases threat : request.method = .threatDetected
    next =>
      cases request with
      | threatDetected npcId targetNpcId score e =>
          cases reply with
          | threat success actionCode => exact applyThreat_rouses targetNpcId success actionCode ran
          | _ => exact .of_eq (by rw [← Option.some.inj ran])
      | _ => cases threat
    next =>
      have apart : request.method.taskScope.covers .combat = false ∧
          request.method.taskScope.covers .aggro = false ∧
          request.method.taskScope.covers .health = false := by
        cases method : request.method <;> first | exact ⟨rfl, rfl, rfl⟩ | exact absurd method threat
      exact .of_eq (funext fun x => arms_within (runTask_within _ w' x request reply draws ran)
        apart.2.2 apart.1 apart.2.1)

end World

variable [Scalar F] {w w' : World F}

theorem step_rouses (event : Event F) (matched : w.Matched) (stepped : step event w = some w') :
    ∃ attacker, World.Rouses attacker w w' ∧ ∀ t ∈ attacker, w.reg.behaviorTree t = some () := by
  have nobody (rouses : World.Rouses none w w') : ∃ attacker, World.Rouses attacker w w' ∧
      ∀ t ∈ attacker, w.reg.behaviorTree t = some () :=
    ⟨none, rouses, fun t struck => by cases struck⟩
  have apart (remakes : event.remakes = false) (health : event.scope.covers .health = false)
      (combat : event.scope.covers .combat = false) (aggro : event.scope.covers .aggro = false) :
      ∃ attacker, World.Rouses attacker w w' ∧ ∀ t ∈ attacker, w.reg.behaviorTree t = some () :=
    nobody (.of_eq (funext fun x =>
      World.arms_within (step_within event w w' x remakes stepped) health combat aggro))
  cases event with
  | drainTask draws => exact nobody (World.drainTask_rouses draws stepped)
  | cleanupPlayer player =>
      obtain rfl := Option.some.inj stepped
      exact nobody (.of_keeps (World.cleanupPlayer_keepsArms player))
  | command cmd =>
      cases cmd with
      | login session playerId playerName =>
          exact nobody (.of_keeps (World.login_keepsArms session playerId playerName stepped))
      | _ => exact apart rfl rfl rfl rfl
  | perception e =>
      obtain rfl := Option.some.inj stepped
      exact nobody (World.perception_rouses e)
  | behaviorTree e draw =>
      by_cases planted : w.reg.behaviorTree e = some ()
      next =>
        refine ⟨some e, World.behaviorTree_rouses draw stepped, fun t struck => ?_⟩
        obtain rfl := Option.some.inj struck
        exact planted
      next =>
        have bare := World.isNone_tree planted
        obtain rfl : w = w' := by simpa [step, World.behaviorTree, bare] using stepped
        exact nobody (.of_eq rfl)
  | death e =>
      obtain rfl := Option.some.inj stepped
      exact nobody (World.systemDeath_rouses e)
  | checkOccupant f =>
      obtain rfl := Option.some.inj stepped
      exact nobody (.of_eq (congrArg World.arms (World.checkOccupant_idle matched f)))
  | resolveAffordance e =>
      exact nobody (.of_eq (congrArg World.arms (World.resolveAffordance_idle matched w' stepped)))
  | _ => exact apart rfl rfl rfl rfl

-- Whoever has hit points, or is aimed at, is an NPC.
structure World.Armed (w : World F) : Prop where
  matched : w.Matched
  mortal : ∀ x, (w.reg.health x).isSome = true → w.Resident x
  aimed : ∀ x t, (w.arms x).Aims t → w.Resident t

omit [Scalar F] in
theorem World.Armed.rouses {attacker : Option Entity} (armed : w.Armed) (matched : w'.Matched)
    (stays : ∀ n, w.Resident n → w'.Resident n) (rouses : World.Rouses attacker w w')
    (strikes : ∀ t ∈ attacker, w.reg.behaviorTree t = some ()) : w'.Armed := by
  constructor
  case matched => exact matched
  case mortal => exact fun x hurt => stays x (armed.mortal x (rouses.mortal x hurt))
  case aimed =>
    intro x t aims
    refine stays t ?_
    rcases rouses.aimed x t aims with struck | alive | ⟨y, before⟩
    · exact armed.matched.planted (strikes t struck)
    · exact armed.mortal t alive
    · exact armed.aimed y t before

theorem step_armed (event : Event F) (armed : w.Armed) (stepped : step event w = some w') :
    w'.Armed := by
  obtain ⟨attacker, rouses, strikes⟩ := step_rouses event armed.matched stepped
  exact armed.rouses (step_matched event w w' armed.matched stepped)
    (fun n resident => step_resident event w w' n resident stepped) rouses strikes

theorem placeFurniture_armed (w : World F) (furn : FurnitureData F) (armed : w.Armed) :
    (placeFurniture w furn).Armed := by
  have keeps : w.KeepsArms (placeFurniture w furn) := by
    unfold placeFurniture
    dsimp only
    exact World.create_keepsArms.trans (.of_eq (by rw [World.arms_updateEntityPosition]; rfl))
  have rouses : World.Rouses none w (placeFurniture w furn) := .of_keeps keeps
  refine armed.rouses (placeFurniture_matched w furn armed.matched) (fun n resident => ?_)
    rouses fun t struck => by cases struck
  have other := w.reg.ne_nextEntity resident.valid
  exact (placeFurniture_within w furn n n other).resident rfl resident

theorem spawnAgent_armed (state : World F × UInt8) (agent : InitialAgentState F)
    (draw : NeedsDraw F) (armed : state.1.Armed) : (spawnAgent state agent draw).1.Armed := by
  by_cases player : agent.agentId = 1
  next =>
    rw [spawnAgent_player state agent draw player]
    exact armed
  have matched := spawnAgent_matched state agent draw armed.matched
  have settles := spawnAgent_settles state agent draw player
  have within (x : Entity) (other : x ≠ state.1.reg.nextEntity) :=
    spawnAgent_within state agent draw x x other
  have stays (n : Entity) (resident : state.1.Resident n) :
      (spawnAgent state agent draw).1.Resident n :=
    (within n (state.1.reg.ne_nextEntity resident.valid)).resident rfl resident
  have same (x : Entity) (other : x ≠ state.1.reg.nextEntity) :
      (spawnAgent state agent draw).1.arms x = state.1.arms x :=
    World.arms_within (within x other) rfl rfl rfl
  constructor
  case matched => exact matched
  case mortal =>
    intro x hurt
    by_cases new : x = state.1.reg.nextEntity
    next => exact new ▸ matched.resident settles.needs
    next =>
      have kept : (spawnAgent state agent draw).1.reg.health x = state.1.reg.health x :=
        congrArg Arms.health (same x new)
      have before : (state.1.reg.health x).isSome = true := kept ▸ hurt
      exact stays x (armed.mortal x before)
  case aimed =>
    intro x t aims
    by_cases new : x = state.1.reg.nextEntity
    next =>
      subst new
      rcases aims with ⟨combat, holds, aim⟩ | ⟨aggro, holds, threat⟩
      · obtain rfl := Option.some.inj (settles.combat.symm.trans holds)
        cases aim
      · obtain rfl := Option.some.inj (settles.aggro.symm.trans holds)
        cases threat
    next => exact stays t (armed.aimed x t (same x new ▸ aims))

theorem bootstrap_armed (data : WorldBootstrapData F) (settings : SimulationSettings F)
    (obstacles : Option (List Obstacle)) (draws : Nat → NeedsDraw F) (w : World F)
    (booted : bootstrap data settings obstacles draws = some w) : w.Armed := by
  refine bootstrap_induction World.Armed data settings obstacles draws w booted ?_
    placeFurniture_armed spawnAgent_armed
  have matched : (emptyWorld data settings obstacles).Matched := by
    refine ⟨fun n has => ?_, fun n has => ?_, fun f has => ?_, fun n f => ?_, fun n own f has => ?_⟩
    all_goals simp_all [World.fittings, emptyWorld, Registry.empty, Fittings.seat, Fittings.guest]
  refine ⟨matched, fun x hurt => ?_, fun x t aims => ?_⟩
  · simp [emptyWorld, Registry.empty] at hurt
  · simp [World.arms, emptyWorld, Registry.empty, Arms.Aims] at aims

end MundusVivens
