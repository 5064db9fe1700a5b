import MundusVivens.Shared.Folds
import MundusVivens.Fighting.Inhibition
import MundusVivens.Shared.Reals

set_option autoImplicit false

namespace MundusVivens

open Scalar BehaviorTree

def Has {C : Type} (pool : Pool C) (x : Entity) (fit : C → Prop) : Prop :=
  ∃ c, pool x = some c ∧ fit c

namespace Has

variable {C : Type} {pool pool' : Pool C} {x y : Entity} {fit : C → Prop}

theorem of_same (has : Has pool x fit) (same : pool' x = pool x) : Has pool' x fit := by
  obtain ⟨c, held, fits⟩ := has
  exact ⟨c, same.trans held, fits⟩

theorem get (has : Has pool x fit) {c : C} (held : pool x = some c) : fit c := by
  obtain ⟨c', held', fits⟩ := has
  obtain rfl := Option.some.inj (held.symm.trans held')
  exact fits

theorem set (has : Has pool x fit) {c : C} (fits : x = y → fit c) : Has (pool.set y c) x fit := by
  by_cases same : x = y
  · exact ⟨c, by simp [same], fits same⟩
  · exact has.of_same (by simp [same])

theorem map (has : Has pool x fit) (f : C → C) (kept : ∀ c, fit c → fit (f c)) :
    Has (fun e => (pool e).map f) x fit := by
  obtain ⟨c, held, fits⟩ := has
  exact ⟨f c, by simp [held], kept c fits⟩

end Has

structure NeedsComp.Fit (needs : NeedsComp ℝ) : Prop where
  hunger : 0 ≤ needs.hunger ∧ needs.hunger ≤ 100
  fatigue : 0 ≤ needs.fatigue ∧ needs.fatigue ≤ 100

def CooldownComp.Fit (cooldown : CooldownComp) : Prop :=
  0 ≤ cooldown.socialEnergy ∧ cooldown.socialEnergy ≤ cooldown.maxSocialEnergy

def AggroComp.Fit (aggro : AggroComp) : Prop := 0 ≤ aggro.aggroScore ∧ aggro.aggroScore ≤ 100

structure HealthComp.Fit (health : HealthComp ℝ) : Prop where
  points : 0 ≤ health.hp ∧ health.hp ≤ health.maxHp
  dead : health.isDead = true ↔ health.hp = 0

structure CombatComp.Fit (combat : CombatComp ℝ) : Prop where
  cooldown : 0 ≤ combat.cooldownTicks ∧ combat.cooldownTicks ≤ 20
  damage : 0 ≤ combat.attackDamage

def EmotionComp.Fit (emotion : EmotionComp) : Prop := 0 ≤ emotion.decayTicksRemaining

theorem CooldownComp.initial_fit : CooldownComp.initial.Fit := by
  unfold Fit initial
  decide

theorem CombatComp.initial_fit : (CombatComp.initial : CombatComp ℝ).Fit := by
  refine ⟨by decide, ?_⟩
  rw [initial, lit_real]
  norm_num

theorem CombatComp.Fit.aim {combat : CombatComp ℝ} (fit : combat.Fit) (target : Option Entity) :
    { combat with targetEntity := target }.Fit :=
  ⟨fit.cooldown, fit.damage⟩

theorem NeedsComp.Fit.flagged {needs needs' : NeedsComp ℝ} (fit : needs.Fit)
    (hunger : needs'.hunger = needs.hunger) (fatigue : needs'.fatigue = needs.fatigue) :
    needs'.Fit :=
  ⟨hunger ▸ fit.hunger, fatigue ▸ fit.fatigue⟩

namespace World

section

variable {w w' : World ℝ} {e x : Entity}

theorem decayNeed_fit (value rate : ℝ) (skip : Bool) (fit : 0 ≤ value ∧ value ≤ 100)
    (decays : 0 ≤ rate) : 0 ≤ decayNeed value rate skip ∧ decayNeed value rate skip ≤ 100 := by
  have spent : (if skip then value else value - rate) ≤ 100 := by
    split
    next => exact fit.2
    next => linarith [fit.2]
  unfold decayNeed
  dsimp only
  by_cases below : lt (if skip then value else value - rate) zero = true
  · rw [if_pos below, zero, lit_real, Rat.cast_zero]
    norm_num
  · rw [if_neg below]
    rw [lt_real, zero, lit_real, not_lt, Rat.cast_zero] at below
    exact ⟨below, spent⟩

theorem survivalOverride_needs (has : Has w.reg.needs x NeedsComp.Fit) :
    Has (w.survivalOverride e).reg.needs x NeedsComp.Fit := by
  unfold survivalOverride
  split
  next needs loc toil job needy _ _ _ =>
    refine has.set fun same => ?_
    have fit := has.get (same ▸ needy)
    refine ⟨decayNeed_fit _ _ _ fit.hunger ?_, decayNeed_fit _ _ _ fit.fatigue ?_⟩ <;>
    · rw [lit_real]
      norm_num
  next => exact has

theorem rechargeNeed_fit (value amount : ℝ) (fit : 0 ≤ value ∧ value ≤ 100)
    (charges : 0 ≤ amount) : 0 ≤ rechargeNeed value amount ∧ rechargeNeed value amount ≤ 100 := by
  unfold rechargeNeed
  dsimp only
  split
  next =>
    rw [lit_real]
    norm_num
  next below =>
    rw [lt_real, lit_real, not_lt] at below
    push_cast at below
    exact ⟨by linarith [fit.1], below⟩

theorem recovery_nonneg (needs : NeedsComp ℝ) (amount : ℝ)
    (recovers : w.recovery needs = some amount) : 0 ≤ amount := by
  unfold recovery at recovers
  split at recovers
  next =>
    simp only [Option.bind_eq_bind, Option.bind_eq_some_iff, Option.some.injEq] at recovers
    obtain ⟨aff, -, rfl⟩ := recovers
    repeat' split
    all_goals
      simp only [zero, lit_real]
      norm_num
  next =>
    obtain rfl := Option.some.inj recovers
    split <;>
    · simp only [zero, lit_real]
      norm_num

theorem recharge_fit (needs : NeedsComp ℝ) (amount : ℝ) (fit : needs.Fit) (charges : 0 ≤ amount) :
    (recharge needs amount).Fit := by
  unfold recharge
  split
  next => exact ⟨rechargeNeed_fit _ _ fit.hunger charges, fit.fatigue⟩
  next => exact ⟨fit.hunger, rechargeNeed_fit _ _ fit.fatigue charges⟩
  next => exact fit

theorem jobDriver_needs (has : Has w.reg.needs x NeedsComp.Fit)
    (driven : w.jobDriver e = some w') : Has w'.reg.needs x NeedsComp.Fit := by
  refine jobDriver_preserves (fun m => Has m.reg.needs x NeedsComp.Fit) (fun write has => ?_)
    driven has
  cases write with
  | refill =>
      have full : 0 ≤ (lit 100 : ℝ) ∧ (lit 100 : ℝ) ≤ 100 := by
        rw [lit_real]
        norm_num
      exact has.set fun _ => ⟨full, full⟩
  | wait _ tagged =>
      obtain ⟨-, _, rfl⟩ := setBusy_cases tagged
      exact has
  | equip | finish | toil | activity | report => exact has

theorem conditionInCrisis_needs (crisis : Crisis ℝ) (status : NodeStatus)
    (has : Has w.reg.needs e NeedsComp.Fit)
    (ran : w.conditionInCrisis crisis e = some (status, w')) :
    Has w'.reg.needs e NeedsComp.Fit := by
  obtain ⟨needs, needy, checks⟩ := inCrisis_cases ran
  cases checks with
  | ongoing => exact has
  | enters => exact has.set fun _ => (has.get needy).flagged rfl rfl
  | spared => exact has

theorem conditionIsScheduled_needs (crisis : Crisis ℝ) (status : NodeStatus)
    (has : Has w.reg.needs e NeedsComp.Fit)
    (ran : w.conditionIsScheduled crisis e = some (status, w')) :
    Has w'.reg.needs e NeedsComp.Fit := by
  obtain ⟨needs, needy, checks⟩ := isScheduled_cases ran
  cases checks with
  | ongoing => exact has
  | begins => exact has.set fun _ => (has.get needy).flagged rfl rfl
  | skips => exact has

theorem occupyFurniture_needs (needs : NeedsComp ℝ) (loc : LocationComp ℝ) (toil : ToilComp)
    (furniture : Entity) (fit : needs.Fit)
    (occupied : w.occupyFurniture e needs loc toil furniture = some w') :
    Has w'.reg.needs e NeedsComp.Fit := by
  exact ⟨_, occupyFurniture_seated occupied, fit.flagged rfl rfl⟩

theorem interactFurniture_needs (draw : BehaviorDraw) (status : NodeStatus)
    (has : Has w.reg.needs e NeedsComp.Fit)
    (ran : w.actionInteractFurniture e draw = some (status, w')) :
    Has w'.reg.needs e NeedsComp.Fit := by
  obtain ⟨needs, loc, toil, job, identity, attends, acted⟩ := interactFurniture_cases ran
  have fit := has.get attends.needy
  cases acted with
  | settles seeks settled =>
      cases settled with
      | seat f found taken => exact occupyFurniture_needs needs loc toil f fit taken
      | camp name type full wild suits taken =>
          exact occupyFurniture_needs needs loc toil _ fit taken
      | floor => exact has
  | recharges amount rests recovers =>
      exact has.set fun _ => recharge_fit needs amount fit (recovery_nonneg needs amount recovers)
  | resolves amount left rests recovers full leaves =>
      have charged := recharge_fit needs amount fit (recovery_nonneg needs amount recovers)
      refine ⟨{ recharge needs amount with
        isResolvingSurvival := false
        currentSurvivalType := .none
        occupiedFurniture := none }, ?_, charged.flagged rfl rfl⟩
      simp [setActivity, setToil, setJob, issue, setNeeds]

theorem runLeaf_needs (draw : BehaviorDraw) (leaf : SurvivalLeaf) (status : NodeStatus)
    (resident : w.Resident x) (has : Has w.reg.needs x NeedsComp.Fit)
    (ran : runLeaf e draw leaf w = some (status, w')) : Has w'.reg.needs x NeedsComp.Fit := by
  have within := runLeaf_within e x draw leaf status w w' resident ran
  by_cases own : x = e
  next =>
    subst own
    cases leaf with
    | isHungry | isFatigued => exact conditionInCrisis_needs _ status has ran
    | isScheduledEat | isScheduledSleep => exact conditionIsScheduled_needs _ status has ran
    | interactFurniture => exact interactFurniture_needs draw status has ran
    | _ => exact has.of_same (within.same .needs rfl)
  next => exact has.of_same ((within.others own).same .needs (by cases leaf <;> rfl))

theorem setCooldown_energy (has : Has w.reg.cooldown x CooldownComp.Fit) (y : Entity)
    (cooldown changed : CooldownComp) (held : x = y → cooldown.Fit)
    (energy : changed.socialEnergy = cooldown.socialEnergy)
    (limit : changed.maxSocialEnergy = cooldown.maxSocialEnergy) :
    Has (w.setCooldown y changed).reg.cooldown x CooldownComp.Fit :=
  has.set fun same => by
    have fit := held same
    unfold CooldownComp.Fit at fit ⊢
    rw [energy, limit]
    exact fit

theorem getD_cooldown (has : Has w.reg.cooldown x CooldownComp.Fit) (y : Entity) (same : x = y) :
    ((w.reg.cooldown y).getD .initial).Fit := by
  subst same
  obtain ⟨cooldown, held, fit⟩ := has
  simpa [held] using fit

theorem ensureCooldown_fit (has : Has w.reg.cooldown x CooldownComp.Fit) (y : Entity) :
    Has (w.ensureCooldown y).1.reg.cooldown x CooldownComp.Fit ∧
      (x = y → (w.ensureCooldown y).2.Fit) := by
  unfold ensureCooldown
  split
  next cooldown held => exact ⟨has, fun same => has.get (same ▸ held)⟩
  next => exact ⟨has.set fun _ => CooldownComp.initial_fit, fun _ => CooldownComp.initial_fit⟩

theorem recoverEnergy_cooldown (has : Has w.reg.cooldown x CooldownComp.Fit) :
    Has (w.recoverEnergy e).reg.cooldown x CooldownComp.Fit := by
  unfold recoverEnergy
  split
  next cooldown loc held _ =>
    split
    next =>
      refine has.set fun same => ?_
      have fit := has.get (same ▸ held)
      unfold CooldownComp.Fit at fit ⊢
      dsimp only
      omega
    next => exact has
  next => exact has

theorem dailyReset_cooldown (has : Has w.reg.cooldown x CooldownComp.Fit) :
    Has w.dailyReset.reg.cooldown x CooldownComp.Fit := by
  unfold dailyReset
  split
  next =>
    refine has.map resetCooldown fun cooldown fit => ?_
    unfold CooldownComp.Fit resetCooldown at *
    dsimp only
    omega
  next => exact has

theorem dismissParticipant_cooldown (group : List Entity) (tick : Int) (y : Entity)
    (has : Has w.reg.cooldown x CooldownComp.Fit)
    (dismissed : dismissParticipant group tick w y = some w') :
    Has w'.reg.cooldown x CooldownComp.Fit := by
  unfold dismissParticipant at dismissed
  split at dismissed
  next =>
    obtain rfl := Option.some.inj dismissed
    exact has
  next =>
    simp only [Option.bind_eq_bind, Option.bind_eq_some_iff] at dismissed
    obtain ⟨activity, -, others, -, stored⟩ := dismissed
    obtain rfl := Option.some.inj stored
    refine has.set fun same => ?_
    have fit := getD_cooldown has y same
    unfold CooldownComp.Fit at fit ⊢
    dsimp only
    omega

theorem dialogueTask_cooldown (group : List Entity) (tick : Int) (success : Bool)
    (result : DialogueResult ℝ) (draws : Nat → LocationRegistry.RadiusDraw ℝ)
    (has : Has w.reg.cooldown x CooldownComp.Fit)
    (ran : w.dialogueTask group tick success result draws = some w') :
    Has w'.reg.cooldown x CooldownComp.Fit := by
  unfold dialogueTask at ran
  split at ran
  next =>
    obtain ⟨heard, spread, dismissed⟩ := w.finishDialogue_dismisses w' group tick result draws ran
    have listened : heard.reg.cooldown x = w.reg.cooldown x := (spread x x).same .cooldown rfl
    exact Folds.foldlM_keeps (fun m => Has m.reg.cooldown x CooldownComp.Fit) _
      (fun m y m' kept left => dismissParticipant_cooldown group tick y kept left) group heard w'
      (has.of_same listened) dismissed
  next =>
    have released : Within partyScope x x w w' := .foldlM _
      (fun w y w' released => w.releaseIfValid_within w' x x y released) group w w' ran
    exact has.of_same (released.same .cooldown rfl)

theorem approach_cooldown (initiator : Entity) (cooldown : CooldownComp) (locI : LocationComp ℝ)
    (draw : SocialDraw ℝ) (candidates members : List Entity)
    (has : Has w.reg.cooldown x CooldownComp.Fit) (held : x = initiator → cooldown.Fit)
    (approached : w.approach initiator cooldown locI draw candidates = some (w', members)) :
    Has w'.reg.cooldown x CooldownComp.Fit := by
  have tried := setCooldown_energy has initiator cooldown
    { cooldown with lastInitiativeTick := w.clock.tick } held rfl rfl
  cases approach_cases approached with
  | shy => exact has
  | alone => exact tried
  | refused => exact setCooldown_energy tried initiator cooldown _ held rfl rfl
  | groups started _ _ _ _ group tries _ _ _ _ sent =>
      subst tries
      have sends := requestDialogue_within _ w' x x group sent
      have same : w'.reg.cooldown x = _ := sends.same .cooldown rfl
      exact tried.of_same same

theorem socialInteraction_cooldown (processed grown : List Entity) (draw : SocialDraw ℝ)
    (initiator : Entity) (has : Has w.reg.cooldown x CooldownComp.Fit)
    (talked : w.socialInteraction processed draw initiator = some (w', grown)) :
    Has w'.reg.cooldown x CooldownComp.Fit := by
  rcases socialInteraction_cases w w' (fun m => Has m.reg.cooldown x CooldownComp.Fit)
    (fun m y kept => (ensureCooldown_fit kept y).1) processed grown draw initiator has talked with
    gathered | ⟨m, locI, candidates, members, gathered, approached⟩
  · exact gathered
  · exact approach_cooldown initiator _ locI draw candidates members gathered
      (ensureCooldown_fit has initiator).2 approached

theorem setAggro_score (has : Has w.reg.aggro x AggroComp.Fit) (y : Entity)
    (aggro changed : AggroComp) (roused : w.reg.aggro y = some aggro)
    (score : changed.aggroScore = 0 ∨ changed.aggroScore = aggro.aggroScore) :
    Has (w.setAggro y changed).reg.aggro x AggroComp.Fit :=
  has.set fun same => by
    have fit := has.get (same ▸ roused)
    unfold AggroComp.Fit at fit ⊢
    omega

theorem bestThreat_gain (faction : FactionComp) (neighbors : List Entity) :
    0 ≤ (w.bestThreat e faction neighbors).2 := by
  unfold bestThreat
  refine List.foldlRecOn (motive := fun best : Option Entity × Int => 0 ≤ best.2) neighbors _
    (Int.le_refl 0) fun best known neighbor _ => ?_
  dsimp only
  split
  next better => exact Int.le_of_lt (Int.lt_of_le_of_lt known better)
  next => exact known

omit w w' e x in
theorem updateAggro_fit (aggro : AggroComp) (best : Option Entity × Int) (gains : 0 ≤ best.2)
    (fit : aggro.Fit) : (updateAggro aggro best).Fit := by
  unfold updateAggro
  unfold AggroComp.Fit at *
  dsimp only
  split
  next threat gain =>
    have more : 0 ≤ gain := gains
    dsimp only
    omega
  next =>
    split
    next =>
      have cooled : 0 ≤ max 0 (aggro.aggroScore - 10) ∧ max 0 (aggro.aggroScore - 10) ≤ 100 := by
        omega
      split
      all_goals exact cooled
    next => exact fit

theorem perception_aggro (has : Has w.reg.aggro x AggroComp.Fit) :
    Has (w.perception e).reg.aggro x AggroComp.Fit := by
  unfold perception
  split
  next loc aggro faction _ roused _ =>
    split
    next => exact setAggro_score has e aggro _ roused (.inl rfl)
    next =>
      split
      next => exact setAggro_score has e aggro _ roused (.inl rfl)
      next =>
        exact has.set fun same =>
          updateAggro_fit aggro _ (bestThreat_gain faction _) (has.get (same ▸ roused))
  next => exact has

theorem applyThreat_aggro (targetNpcId : UInt32) (success : Bool) (actionCode : Int)
    (has : Has w.reg.aggro x AggroComp.Fit)
    (applied : w.applyThreat e targetNpcId success actionCode = some w') :
    Has w'.reg.aggro x AggroComp.Fit := by
  unfold applyThreat at applied
  split at applied
  next =>
    obtain rfl := Option.some.inj applied
    exact has
  next aggro roused =>
    split at applied
    next =>
      obtain rfl := Option.some.inj applied
      exact has
    next =>
      simp only [Option.bind_eq_bind, Option.bind_eq_some_iff] at applied
      obtain ⟨identity, -, applied⟩ := applied
      split at applied
      next =>
        split at applied
        next =>
          obtain rfl := Option.some.inj applied
          exact setAggro_score has e aggro _ roused (.inl rfl)
        next =>
          obtain rfl := Option.some.inj applied
          exact setAggro_score has e aggro _ roused (.inl rfl)
      next =>
        obtain rfl := Option.some.inj applied
        exact setAggro_score has e aggro _ roused (.inr rfl)

theorem inhibitOrAttack_aggro (status : NodeStatus) (has : Has w.reg.aggro x AggroComp.Fit)
    (ran : w.actionInhibitOrAttack e = some (status, w')) :
    Has w'.reg.aggro x AggroComp.Fit := by
  have asked (aggro : AggroComp) (npcId targetNpcId : UInt32) :
      (w.inhibit e aggro npcId targetNpcId).1.reg.aggro = w.reg.aggro := by rw [inhibit_reg]
  cases inhibitOrAttack_cases ran with
  | unaware => exact has
  | forgets aggro roused => exact setAggro_score has e aggro _ roused (.inl rfl)
  | attacks aggro toil threat roused => exact setAggro_score has e aggro _ roused (.inl rfl)
  | givesUp aggro threat identity threatIdentity roused =>
      exact setAggro_score (has.of_same (congrFun (asked _ _ _) x)) e aggro _
        ((congrFun (asked _ _ _) e).trans roused) (.inl rfl)
  | holds aggro toil threat identity threatIdentity text roused =>
      exact setAggro_score (has.of_same (congrFun (asked _ _ _) x)) e aggro _
        ((congrFun (asked _ _ _) e).trans roused) (.inr (by rw [inhibit_aggro]))

theorem runLeaf_aggro (draw : BehaviorDraw) (leaf : SurvivalLeaf) (status : NodeStatus)
    (resident : w.Resident x) (has : Has w.reg.aggro x AggroComp.Fit)
    (ran : runLeaf e draw leaf w = some (status, w')) : Has w'.reg.aggro x AggroComp.Fit := by
  have within := runLeaf_within e x draw leaf status w w' resident ran
  cases leaf with
  | inhibitOrAttack => exact inhibitOrAttack_aggro status has ran
  | _ => exact has.of_same (within.same .aggro rfl)

omit w w' e x in
theorem wounded_fit (health : HealthComp ℝ) (damage : ℝ) (fit : health.Fit) (hurts : 0 ≤ damage) :
    (health.wounded damage).Fit := by
  obtain ⟨⟨low, high⟩, dead⟩ := fit
  unfold HealthComp.wounded
  split
  next =>
    refine ⟨?_, by simp [zero]⟩
    rw [zero, lit_real, Rat.cast_zero]
    exact ⟨le_refl 0, low.trans high⟩
  next alive =>
    rw [le_real, zero, lit_real, not_le, Rat.cast_zero] at alive
    refine ⟨⟨alive.le, by linarith⟩, fun gone => ?_, fun empty => ?_⟩
    · linarith [dead.mp gone]
    · linarith [show health.hp - damage = 0 from empty]

theorem runLeaf_health_fit (draw : BehaviorDraw) (leaf : SurvivalLeaf) (status : NodeStatus)
    (resident : w.Resident x) (has : Has w.reg.health x HealthComp.Fit)
    (armed : Has w.reg.combat e CombatComp.Fit)
    (ran : runLeaf e draw leaf w = some (status, w')) : Has w'.reg.health x HealthComp.Fit := by
  rcases runLeaf_health w' draw leaf status x resident ran with same | ⟨-, strikes⟩
  · exact has.of_same same
  · obtain ⟨combat, held, -, -, -, health, hurt, blow⟩ := strikes.armed
    rw [blow]
    exact has.set fun _ => wounded_fit health _ (has.get hurt) (armed.get held).damage

theorem standAndFight_combat (toil : ToilComp) :
    (w.standAndFight e toil).reg.combat = w.reg.combat := by
  unfold standAndFight
  split <;> rfl

theorem aim_combat (has : Has w.reg.combat x CombatComp.Fit) (y : Entity) (combat : CombatComp ℝ)
    (armed : w.reg.combat y = some combat) (target : Option Entity) :
    Has (w.setCombat y { combat with targetEntity := target }).reg.combat x CombatComp.Fit :=
  has.set fun same => (has.get (same ▸ armed)).aim target

theorem first_aim_combat (has : Has w.reg.combat x CombatComp.Fit) (y : Entity)
    (target : Option Entity) :
    Has (w.setCombat y { (w.reg.combat y).getD .initial with targetEntity := target }).reg.combat x
      CombatComp.Fit :=
  has.set fun same => by
    subst same
    obtain ⟨combat, held, fit⟩ := has
    simpa [held] using fit.aim target

theorem retaliate_combat (attacker target : Entity) (has : Has w.reg.combat x CombatComp.Fit) :
    Has (w.retaliate attacker target).reg.combat x CombatComp.Fit := by
  unfold retaliate
  split
  next combat armed =>
    split
    next => exact aim_combat has target combat armed _
    next => exact has
  next => exact has

theorem landHit_combat (target : Entity) (combat : CombatComp ℝ)
    (identity targetIdentity : IdentityComp) (targetHealth : HealthComp ℝ)
    (has : Has w.reg.combat x CombatComp.Fit) (armed : w.reg.combat e = some combat) :
    Has (w.landHit e target combat identity targetIdentity targetHealth).reg.combat x
      CombatComp.Fit := by
  unfold landHit
  refine retaliate_combat e target (has.set fun same => ?_)
  have fit : combat.Fit := has.get (same ▸ armed)
  exact ⟨by simp, fit.damage⟩

theorem meleeAttack_combat (status : NodeStatus) (has : Has w.reg.combat x CombatComp.Fit)
    (ran : w.actionMeleeAttack e = some (status, w')) : Has w'.reg.combat x CombatComp.Fit := by
  obtain ⟨loc, combat, job, toil, -, armed, -, -, attacks⟩ := meleeAttack_cases ran
  have standing := congrFun (standAndFight_combat (w := w) (e := e) toil)
  cases attacks with
  | aimless => exact has
  | chases target targetLoc name =>
      refine has.of_same ?_
      unfold chase
      split <;> rfl
  | waits =>
      refine (has.of_same (standing x)).set fun same => ?_
      have fit := has.get (same ▸ armed)
      exact ⟨by have := fit.cooldown; dsimp only; omega, fit.damage⟩
  | strikes target targetLoc identity targetIdentity health aimed located near ready hurt struck =>
      have landed := landHit_combat target combat identity targetIdentity health
        (has.of_same (standing x)) ((standing e).trans armed)
      rcases strike_cases struck with ⟨-, rfl⟩ | ⟨-, mine, held, rfl⟩
      · exact landed
      · exact aim_combat landed e mine held none

theorem runLeaf_combat (draw : BehaviorDraw) (leaf : SurvivalLeaf) (status : NodeStatus)
    (resident : w.Resident x) (has : Has w.reg.combat x CombatComp.Fit)
    (ran : runLeaf e draw leaf w = some (status, w')) : Has w'.reg.combat x CombatComp.Fit := by
  have within := runLeaf_within e x draw leaf status w w' resident ran
  cases leaf with
  | hasCombatTarget =>
      cases hasCombatTarget_cases ran with
      | unarmed => exact has
      | buries combat target armed => exact aim_combat has e combat armed none
      | aims => exact has
  | inhibitOrAttack =>
      have asks (aggro : AggroComp) (id target : UInt32) :
          (w.inhibit e aggro id target).1.reg.combat = w.reg.combat := by rw [inhibit_reg]
      cases inhibitOrAttack_cases ran with
      | unaware => exact has
      | forgets => exact has
      | attacks aggro toil threat => exact first_aim_combat has e (some threat)
      | givesUp => exact has.of_same (congrFun (asks _ _ _) x)
      | holds => exact has.of_same (congrFun (asks _ _ _) x)
  | meleeAttack => exact meleeAttack_combat status has ran
  | _ => exact has.of_same (within.same .combat rfl)

theorem applyThreat_combat (targetNpcId : UInt32) (success : Bool) (actionCode : Int)
    (has : Has w.reg.combat x CombatComp.Fit)
    (applied : w.applyThreat e targetNpcId success actionCode = some w') :
    Has w'.reg.combat x CombatComp.Fit := by
  unfold applyThreat at applied
  split at applied
  next =>
    obtain rfl := Option.some.inj applied
    exact has
  next aggro _ =>
    split at applied
    next =>
      obtain rfl := Option.some.inj applied
      exact has
    next =>
      simp only [Option.bind_eq_bind, Option.bind_eq_some_iff] at applied
      obtain ⟨identity, -, applied⟩ := applied
      split at applied
      next =>
        split at applied
        next =>
          obtain rfl := Option.some.inj applied
          exact first_aim_combat has e aggro.threatEntity
        next =>
          obtain rfl := Option.some.inj applied
          exact has
      next =>
        obtain rfl := Option.some.inj applied
        exact has

theorem applyThreat_cooldown_fit (targetNpcId : UInt32) (success : Bool) (actionCode : Int)
    (has : Has w.reg.cooldown x CooldownComp.Fit)
    (applied : w.applyThreat e targetNpcId success actionCode = some w') :
    Has w'.reg.cooldown x CooldownComp.Fit := by
  unfold applyThreat at applied
  split at applied
  next =>
    obtain rfl := Option.some.inj applied
    exact has
  next aggro _ =>
    split at applied
    next =>
      obtain rfl := Option.some.inj applied
      exact has
    next =>
      simp only [Option.bind_eq_bind, Option.bind_eq_some_iff] at applied
      obtain ⟨identity, -, applied⟩ := applied
      split at applied
      next =>
        split at applied
        next =>
          obtain rfl := Option.some.inj applied
          exact has
        next =>
          obtain rfl := Option.some.inj applied
          exact setCooldown_energy (w := w.setAggro e _) has e _ _ (getD_cooldown has e) rfl rfl
      next =>
        obtain rfl := Option.some.inj applied
        exact has

theorem systemDeath_combat (has : Has w.reg.combat x CombatComp.Fit) :
    Has (w.systemDeath e).reg.combat x CombatComp.Fit := by
  have stops : (w.stopToil e).reg.combat = w.reg.combat := by
    unfold stopToil
    repeat' split
    all_goals rfl
  have forgets (m : World ℝ) : (m.dropWaypoints e).reg.combat = m.reg.combat := by
    unfold dropWaypoints
    split <;> rfl
  have drops (m : World ℝ) (has : Has m.reg.combat x CombatComp.Fit) :
      Has (m.dropTarget e).reg.combat x CombatComp.Fit := by
    unfold dropTarget
    split
    next combat armed => exact aim_combat has e combat armed none
    next => exact has
  unfold systemDeath
  split
  next =>
    split
    next =>
      refine drops _ (has.of_same (congrFun ?_ x))
      exact (forgets _).trans stops
    next => exact has
  next => exact has

end

section

variable {F : Type} [Scalar F] {w w' : World F} {x : Entity}

theorem infectEmotion_fit (y : Entity) (emotion : EmotionComp) (source : UInt8) (count : Nat)
    (roll : F) (has : Has w.reg.emotion x EmotionComp.Fit) :
    Has (w.infectEmotion y emotion source count roll).reg.emotion x EmotionComp.Fit := by
  unfold infectEmotion
  dsimp only
  split
  next => exact has.set fun _ => by simp [EmotionComp.Fit, catchEmotion]
  next => exact has

theorem emotionDecay_fit (draw : DecayDraw F) (has : Has w.reg.emotion x EmotionComp.Fit) :
    Has (w.emotionDecay draw).reg.emotion x EmotionComp.Fit := by
  unfold emotionDecay
  refine List.foldlRecOn (motive := fun m : World F => Has m.reg.emotion x EmotionComp.Fit) _ _ has
    fun m known y _ => ?_
  unfold decayEntity
  split
  next emotion identity _ felt _ =>
    have ticked : (decayEmotion emotion).Fit ∨ ¬emotion.Fit := by
      unfold EmotionComp.Fit decayEmotion
      repeat' split
      all_goals grind
    have shown : Has (m.setEmotion y (decayEmotion emotion)).reg.emotion x EmotionComp.Fit :=
      known.set fun same => ticked.resolve_right fun unfit => unfit (known.get (same ▸ felt))
    dsimp only
    split
    next => exact shown
    next =>
      split
      next => exact shown
      next => exact infectEmotion_fit y _ _ _ _ shown
  next => exact known

omit [Scalar F] in
theorem applyEmotionUpdate_fit (update : AgentEmotionUpdate)
    (has : Has w.reg.emotion x EmotionComp.Fit) :
    Has (w.applyEmotionUpdate update).reg.emotion x EmotionComp.Fit := by
  unfold applyEmotionUpdate
  split
  next => exact has
  next =>
    split
    next =>
      refine has.set fun _ => ?_
      unfold EmotionComp.Fit EmotionRegistry.updateTicks
      dsimp only
      repeat' split
      all_goals decide
    next => exact has

theorem dialogueTask_emotion (group : List Entity) (tick : Int) (success : Bool)
    (result : DialogueResult F) (draws : Nat → LocationRegistry.RadiusDraw F)
    (has : Has w.reg.emotion x EmotionComp.Fit)
    (ran : w.dialogueTask group tick success result draws = some w') :
    Has w'.reg.emotion x EmotionComp.Fit := by
  obtain ⟨updates, later⟩ := w.dialogueTask_feels w' group tick success result draws ran
  have felt : Has (updates.foldl applyEmotionUpdate w).reg.emotion x EmotionComp.Fit :=
    List.foldlRecOn (motive := fun m : World F => Has m.reg.emotion x EmotionComp.Fit)
      updates applyEmotionUpdate has fun m known update _ => applyEmotionUpdate_fit update known
  exact felt.of_same ((later x x).same .emotion rfl)

end

end World

end MundusVivens
