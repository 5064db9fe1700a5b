import MundusVivens.Furniture.Matching
import MundusVivens.Systems.Blows
import MundusVivens.Systems.Combat

set_option autoImplicit false

namespace MundusVivens

open Scalar BehaviorTree

variable {F : Type} [Scalar F] (e : Entity) (draw : BehaviorDraw)

def World.MayFight (w : World F) : Prop :=
  w.hasValidTarget e = true → w.hasLivingTarget e = true ∧ w.isWeak e = false

def startsInFight (leaf : SurvivalLeaf) (w : World F) : Prop :=
  leaf = .meleeAttack → w.hasLivingTarget e = true ∧ w.isWeak e = false

theorem fleeSeq_outline : Outline (runLeaf e draw) (startsInFight (F := F) e) (fun _ => True)
    fleeSeq fun status w => status = .failure → w.MayFight e := by
  refine Outline.sequence_cons (fun w => w.hasLivingTarget e = true ∧ w.hasValidTarget e = true) ?_ ?_
  · refine Outline.leaf _ (fun w _ same => by cases same) fun w status w' _ ran => ?_
    split
    next succeeded =>
      subst succeeded
      obtain ⟨rfl, fighting⟩ := w.hasCombatTarget_succeeds e w' ran
      exact fighting
    next =>
      rintro rfl aimed
      simp [w.hasCombatTarget_fails e w' ran] at aimed
  · refine Outline.sequence_cons (fun w => w.hasValidTarget e = true) ?_ ?_
    · refine Outline.leaf _ (fun w _ same => by cases same) fun w status w' fighting ran => ?_
      obtain ⟨rfl, strong⟩ := w.isLowHealth_pure e w' status ran
      split
      next => exact fighting.2
      next => exact fun failed _ => ⟨fighting.1, strong failed⟩
    · refine Outline.sequence_cons (fun _ => False) ?_ (Outline.sequence_nil fun _ => False.elim)
      refine Outline.leaf _ (fun w _ same => by cases same) fun w status w' aimed ran => ?_
      obtain rfl := w.flee_status e w' draw status aimed ran
      simp

theorem aggroSeq_outline : Outline (runLeaf e draw) (startsInFight (F := F) e)
    (fun w => w.MayFight e) aggroSeq fun status w => status = .failure → w.MayFight e := by
  refine Outline.sequence_cons (fun w => w.hasValidTarget e = false) ?_ ?_
  · refine Outline.leaf _ (fun w _ same => by cases same) fun w status w' ready ran => ?_
    obtain ⟨rfl, calm⟩ := w.isAggroHigh_pure e w' status ran
    split
    next succeeded =>
      by_contra aimed
      have failed := calm (by simpa using aimed)
      simp [failed] at succeeded
    next => exact fun _ => ready
  · refine Outline.sequence_cons (fun _ => True) ?_ (Outline.sequence_nil fun _ _ => by simp)
    refine Outline.leaf _ (fun w _ same => by cases same) fun w status w' aimless ran => ?_
    split
    next => trivial
    next =>
      rintro rfl aimed
      simp [w.inhibitOrAttack_fails e w' ran, aimless] at aimed

theorem combatSeq_outline : Outline (runLeaf e draw) (startsInFight (F := F) e)
    (fun w => w.MayFight e) combatSeq fun _ _ => True := by
  refine Outline.sequence_cons (fun w => w.hasLivingTarget e = true ∧ w.isWeak e = false) ?_ ?_
  · refine Outline.leaf _ (fun w _ same => by cases same) fun w status w' ready ran => ?_
    split
    next succeeded =>
      subst succeeded
      obtain ⟨rfl, living, aimed⟩ := w.hasCombatTarget_succeeds e w' ran
      exact ready aimed
    next => trivial
  · refine Outline.sequence_cons (fun _ => True) ?_ (Outline.sequence_nil fun _ _ => trivial)
    exact Outline.leaf _ (fun w fighting _ => fighting) fun w status w' _ _ => by simp

theorem survivalTree_fights : Outline (runLeaf e draw) (startsInFight (F := F) e) (fun _ => True)
    survivalTree fun _ _ => True := by
  refine Outline.selector_cons (fun w => w.MayFight e)
    ((fleeSeq_outline e draw).mono fun status w ends => ?_) ?_
  · split <;> simp_all
  refine Outline.selector_cons (fun w => w.MayFight e)
    ((aggroSeq_outline e draw).mono fun status w ends => ?_) ?_
  · split <;> simp_all
  refine Outline.selector_cons (fun _ => True)
    ((combatSeq_outline e draw).mono fun status w ends => by simp) ?_
  refine Outline.selector_kept _ _ fun child member => ?_
  refine Outline.of_leaves _ (fun l among w _ same => ?_) fun _ _ _ _ _ _ _ => trivial
  subst same
  simp only [peacefulSeqs, List.mem_cons, List.not_mem_nil, or_false] at member
  rcases member with rfl | rfl | rfl | rfl | rfl <;>
    simp [leaves, leavesOf, hungerSeq, fatigueSeq, schedEatSeq, schedSleepSeq, wanderSeq] at among

namespace World

variable (w w' : World F)

-- The entity that the melee leaf damages in this state.
def meleeVictim : Option Entity :=
  match w.reg.combat e, w.actionMeleeAttack e with
  | some combat, some (.success, _) => w.validTarget combat
  | _, _ => none

variable {w e}

theorem meleeVictim_cases (status : NodeStatus) (ran : w.actionMeleeAttack e = some (status, w')) :
    (w.meleeVictim e = none ∧ w'.reg.health = w.reg.health) ∨
      ∃ target, w.meleeVictim e = some target ∧ w.Strikes w' e target := by
  rcases w.meleeAttack_health w' e status ran with ⟨unfinished, same⟩ | ⟨rfl, target, strikes⟩
  · refine .inl ⟨?_, same⟩
    unfold meleeVictim
    rw [ran]
    split
    next found => simp_all
    next => rfl
  · obtain ⟨combat, armed, aimed, -⟩ := strikes.armed
    exact .inr ⟨target, by simp [meleeVictim, armed, ran, aimed], strikes⟩

variable (w) in
-- The remaining cooldown of an attacker; a new `CombatComp` starts without one.
def attackCooldown (x : Entity) : Int := ((w.reg.combat x).map (·.cooldownTicks)).getD 0

omit [Scalar F] in
theorem attackCooldown_of_combat {x : Entity} (same : w'.reg.combat x = w.reg.combat x) :
    w'.attackCooldown x = w.attackCooldown x := by
  simp [attackCooldown, same]

omit [Scalar F] in
@[simp] theorem attackCooldown_setCombat (y x : Entity) (combat : CombatComp F) :
    (w.setCombat y combat).attackCooldown x =
      if x = y then combat.cooldownTicks else w.attackCooldown x := by
  by_cases same : x = y
  next => subst same; simp [attackCooldown, setCombat]
  next => simp [attackCooldown, setCombat, same]

omit [Scalar F] in
theorem attackCooldown_aim (y x : Entity) (combat : CombatComp F) (target : Option Entity)
    (armed : w.reg.combat y = some combat) :
    (w.setCombat y { combat with targetEntity := target }).attackCooldown x =
      w.attackCooldown x := by
  rw [attackCooldown_setCombat]
  by_cases same : x = y
  next => subst same; simp [attackCooldown, armed]
  next => simp [same]

theorem attackCooldown_first_aim (y x : Entity) (target : Option Entity) :
    (w.setCombat y { (w.reg.combat y).getD .initial with targetEntity := target }).attackCooldown x =
      w.attackCooldown x := by
  rw [attackCooldown_setCombat]
  by_cases same : x = y
  next =>
    subst same
    cases combat : w.reg.combat x <;> simp [attackCooldown, combat, CombatComp.initial]
  next => simp [same]

omit [Scalar F] in
theorem retaliate_cooldown (attacker target x : Entity) :
    (w.retaliate attacker target).attackCooldown x = w.attackCooldown x := by
  unfold retaliate
  split
  next combat armed =>
    split
    next => exact attackCooldown_aim target x combat _ armed
    next => rfl
  next => rfl

theorem standAndFight_cooldown (toil : ToilComp) (x : Entity) :
    (w.standAndFight e toil).attackCooldown x = w.attackCooldown x := by
  unfold standAndFight
  split <;> rfl

theorem chase_cooldown (job : JobComp F) (toil : ToilComp) (targetLoc : LocationComp F)
    (name : String) (x : Entity) :
    (w.chase e job toil targetLoc name).attackCooldown x = w.attackCooldown x := by
  unfold chase
  split <;> rfl

theorem landHit_cooldown (target x : Entity) (combat : CombatComp F)
    (identity targetIdentity : IdentityComp) (targetHealth : HealthComp F) :
    (w.landHit e target combat identity targetIdentity targetHealth).attackCooldown x =
      if x = e then 20 else w.attackCooldown x := by
  rw [landHit, retaliate_cooldown]
  exact attackCooldown_setCombat e x { combat with cooldownTicks := 20 }

theorem strike_cooldown (target x : Entity) (combat : CombatComp F)
    (identity targetIdentity : IdentityComp) (targetHealth : HealthComp F)
    (struck : w.strike e target combat identity targetIdentity targetHealth = some w') :
    w'.attackCooldown x = if x = e then 20 else w.attackCooldown x := by
  have landed := landHit_cooldown (w := w) (e := e) target x combat identity targetIdentity targetHealth
  rcases strike_cases struck with ⟨-, rfl⟩ | ⟨-, mine, armed, rfl⟩
  · exact landed
  · exact (attackCooldown_aim e x mine none armed).trans landed

theorem meleeAttack_cooldown (status : NodeStatus)
    (ran : w.actionMeleeAttack e = some (status, w')) :
    (∀ x ≠ e, w'.attackCooldown x = w.attackCooldown x) ∧
      if (w.meleeVictim e).isSome then w.attackCooldown e ≤ 0 ∧ w'.attackCooldown e = 20
      else w.attackCooldown e ≤ w'.attackCooldown e + 1 := by
  obtain ⟨loc, combat, job, toil, -, armed, -, -, attacks⟩ := meleeAttack_cases ran
  have cooldown : w.attackCooldown e = combat.cooldownTicks := by simp [attackCooldown, armed]
  cases attacks with
  | aimless => simp [meleeVictim, ran]
  | chases target targetLoc name =>
      refine ⟨fun x _ => chase_cooldown job toil targetLoc name x, ?_⟩
      simp [meleeVictim, ran, chase_cooldown]
  | waits target targetLoc text =>
      have waiting (x : Entity) : (((w.standAndFight e toil).setCombat e
          { combat with cooldownTicks := combat.cooldownTicks - 1 }).setActivity e text
            ).attackCooldown x = if x = e then combat.cooldownTicks - 1 else w.attackCooldown x := by
        refine (attackCooldown_setCombat e x _).trans ?_
        rw [standAndFight_cooldown]
      refine ⟨fun x other => by simp [waiting, other], ?_⟩
      simp [meleeVictim, ran, waiting, cooldown]
  | strikes target targetLoc identity targetIdentity health aimed located near ready hurt struck =>
      have after (x : Entity) := strike_cooldown _ target x combat identity targetIdentity health
        struck
      simp only [standAndFight_cooldown] at after
      refine ⟨fun x other => by simp [after, other], ?_⟩
      simp [meleeVictim, armed, ran, aimed, after, cooldown, not_lt.mp ready]

theorem runLeaf_cooldown (draw : BehaviorDraw) (leaf : SurvivalLeaf) (status : NodeStatus)
    (x : Entity) (resident : w.Resident x) (apart : leaf = .meleeAttack → x ≠ e)
    (ran : runLeaf e draw leaf w = some (status, w')) :
    w'.attackCooldown x = w.attackCooldown x := by
  have within := runLeaf_within e x draw leaf status w w' resident ran
  cases leaf with
  | meleeAttack => exact (meleeAttack_cooldown w' status ran).1 x (apart rfl)
  | hasCombatTarget =>
      cases hasCombatTarget_cases ran with
      | unarmed => rfl
      | buries combat target armed => exact attackCooldown_aim e x combat none armed
      | aims => rfl
  | inhibitOrAttack =>
      have asks (aggro : AggroComp) (id target : UInt32) :
          (w.inhibit e aggro id target).1.reg.combat = w.reg.combat := by rw [inhibit_reg]
      cases inhibitOrAttack_cases ran with
      | unaware => rfl
      | forgets => rfl
      | attacks aggro toil threat => exact attackCooldown_first_aim e x (some threat)
      | givesUp => exact attackCooldown_of_combat _ (congrFun (asks _ _ _) x)
      | holds => exact attackCooldown_of_combat _ (congrFun (asks _ _ _) x)
  | _ => exact attackCooldown_of_combat w' (within.same .combat rfl)

end World

end MundusVivens
