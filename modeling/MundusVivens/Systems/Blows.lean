import MundusVivens.Systems.Footprints

set_option autoImplicit false

/-!
# Blows

Health changes in the melee leaf only, and there by one blow to the target.
-/

namespace MundusVivens

open Scalar BehaviorTree

variable {F : Type} [Scalar F]

-- The health after a blow; at zero the target is dead.
def HealthComp.wounded (health : HealthComp F) (damage : F) : HealthComp F :=
  if le (health.hp - damage) zero then { health with hp := zero, isDead := true }
  else { health with hp := health.hp - damage }

theorem HealthComp.wounded_dead (health : HealthComp F) (damage : F) (dead : health.isDead = true) :
    (health.wounded damage).isDead = true := by
  unfold wounded
  split
  next => rfl
  next => exact dead

namespace World

variable (w w' : World F) (e : Entity)

omit [Scalar F] in
theorem retaliate_health (attacker target : Entity) :
    (w.retaliate attacker target).reg.health = w.reg.health := by
  unfold retaliate
  repeat' split
  all_goals rfl

theorem standAndFight_health (toil : ToilComp) :
    (w.standAndFight e toil).reg.health = w.reg.health := by
  unfold standAndFight
  split <;> rfl

theorem chase_health (job : JobComp F) (toil : ToilComp) (targetLoc : LocationComp F)
    (name : String) : (w.chase e job toil targetLoc name).reg.health = w.reg.health := by
  unfold chase
  split <;> rfl

theorem landHit_health (target : Entity) (combat : CombatComp F)
    (identity targetIdentity : IdentityComp) (targetHealth : HealthComp F) :
    (w.landHit e target combat identity targetIdentity targetHealth).reg.health =
      w.reg.health.set target { targetHealth with hp := targetHealth.hp - combat.attackDamage } := by
  rw [landHit, retaliate_health]
  rfl

theorem strike_health (target : Entity) (combat : CombatComp F)
    (identity targetIdentity : IdentityComp) (targetHealth : HealthComp F)
    (struck : w.strike e target combat identity targetIdentity targetHealth = some w') :
    w'.reg.health = w.reg.health.set target (targetHealth.wounded combat.attackDamage) := by
  have landed := w.landHit_health e target combat identity targetIdentity targetHealth
  rcases strike_cases struck with ⟨alive, rfl⟩ | ⟨deadly, mine, -, rfl⟩
  · rw [landed, HealthComp.wounded, if_neg alive]
  · have final : w.reg.health.set target (targetHealth.wounded combat.attackDamage) =
        (w.landHit e target combat identity targetIdentity targetHealth).reg.health.set target
          { targetHealth with hp := zero, isDead := true } := by
      rw [landed, HealthComp.wounded, if_pos deadly]
      simp [Pool.set]
    rw [final]
    rfl

-- The melee leaf strikes a target in reach, once its cooldown is over.
structure Strikes (target : Entity) : Prop where
  armed : ∃ combat, w.reg.combat e = some combat ∧ w.validTarget combat = some target ∧
    combat.cooldownTicks ≤ 0 ∧ w.inReach e target combat.attackRange = true ∧
    ∃ health, w.reg.health target = some health ∧
      w'.reg.health = w.reg.health.set target (health.wounded combat.attackDamage)

theorem meleeAttack_health (status : NodeStatus)
    (ran : w.actionMeleeAttack e = some (status, w')) :
    (status ≠ .success ∧ w'.reg.health = w.reg.health) ∨
      (status = .success ∧ ∃ target, w.Strikes w' e target) := by
  obtain ⟨loc, combat, job, toil, located, armed, -, -, attacks⟩ := meleeAttack_cases ran
  cases attacks with
  | aimless => exact .inl ⟨by simp, rfl⟩
  | chases target targetLoc name => exact .inl ⟨by simp, w.chase_health e job toil targetLoc name⟩
  | waits => exact .inl ⟨by simp, w.standAndFight_health e toil⟩
  | strikes target targetLoc identity targetIdentity health aimed targetLocated near ready hurt struck =>
      have blow := strike_health _ _ e target combat identity targetIdentity health struck
      rw [standAndFight_health] at blow
      exact .inr ⟨rfl, target, combat, armed, aimed, by simpa using ready,
        by simp [inReach, located, targetLocated, near], health, hurt, blow⟩

variable {w e}

theorem runLeaf_health (draw : BehaviorDraw) (leaf : SurvivalLeaf) (status : NodeStatus)
    (n : Entity) (resident : w.Resident n) (ran : runLeaf e draw leaf w = some (status, w')) :
    w'.reg.health n = w.reg.health n ∨ (leaf = .meleeAttack ∧ w.Strikes w' e n) := by
  have within := runLeaf_within e n draw leaf status w w' resident ran
  cases leaf with
  | meleeAttack =>
      rcases w.meleeAttack_health w' e status ran with ⟨-, same⟩ | ⟨-, target, strikes⟩
      · exact .inl (by rw [same])
      · by_cases hit : n = target
        next => exact .inr ⟨rfl, hit ▸ strikes⟩
        next =>
          obtain ⟨combat, -, -, -, -, health, -, blow⟩ := strikes.armed
          exact .inl (by simp [blow, hit])
  | _ => exact .inl (within.same .health rfl)

theorem runLeaf_dead (draw : BehaviorDraw) (leaf : SurvivalLeaf) (status : NodeStatus)
    (n : Entity) (resident : w.Resident n) (ran : runLeaf e draw leaf w = some (status, w'))
    (dead : w.isDead n = true) : w'.isDead n = true := by
  rcases runLeaf_health w' draw leaf status n resident ran with same | ⟨-, strikes⟩
  · simpa [isDead, same] using dead
  · obtain ⟨combat, -, -, -, -, health, hurt, blow⟩ := strikes.armed
    have gone : health.isDead = true := by simpa [isDead, hurt] using dead
    simp [isDead, blow, health.wounded_dead combat.attackDamage gone]

end World

end MundusVivens
