import MundusVivens.Systems.LeafCases

set_option autoImplicit false

/-!
# Fights

When a visit of the survival tree comes to the melee leaf, it does so in the
state it started from, and the leaf decides the tick.
-/

namespace MundusVivens

open Scalar BehaviorTree

variable {F : Type} [Scalar F]

namespace World

def hasLivingTarget (w : World F) (e : Entity) : Bool :=
  match w.reg.combat e with
  | some combat =>
      match w.validTarget combat with
      | some target => !w.isDead target
      | none => false
  | none => false

def isWeak (w : World F) (e : Entity) : Bool :=
  match w.reg.health e with
  | some health => lt health.hp (lit 30)
  | none => false

def fights (w : World F) (e : Entity) : Bool :=
  (w.reg.behaviorTree e).isSome && (w.reg.busy e).isNone && w.hasLivingTarget e && !w.isWeak e

def inReach (w : World F) (e target : Entity) (range : F) : Bool :=
  match w.reg.location e, w.reg.location target with
  | some loc, some targetLoc =>
      !lt range (hypot (targetLoc.x - loc.x) (targetLoc.z - loc.z))
  | _, _ => false

def meleeTarget (w : World F) (e : Entity) : Option Entity :=
  if w.fights e then
    match w.reg.combat e with
    | some combat =>
        match w.validTarget combat with
        | some target => if w.inReach e target combat.attackRange then some target else none
        | none => none
    | none => none
  else none

def meleeHit (w : World F) (e : Entity) : Option Entity :=
  match w.reg.combat e with
  | some combat => if 0 < combat.cooldownTicks then none else w.meleeTarget e
  | none => none

-- The visit stops an attacker on the move and lets it work.
def standsToFight (w : World F) (e : Entity) : Bool :=
  (w.meleeTarget e).isSome &&
    match w.reg.toil e with
    | some toil => toil.state = .moving
    | none => false

variable (w : World F) (e : Entity)

omit [Scalar F] in
theorem hasCombatTarget_pure (m : World F) (status : NodeStatus) (target : m.hasValidTarget e = false)
    (ran : m.conditionHasCombatTarget e = some (status, w)) : status = .failure ∧ w = m := by
  cases hasCombatTarget_cases ran with
  | unarmed => exact ⟨rfl, rfl⟩
  | buries combat aim armed aimed valid => simp [hasValidTarget, armed, aimed, valid] at target
  | aims combat aim armed aimed valid => simp [hasValidTarget, armed, aimed, valid] at target

omit [Scalar F] in
theorem hasCombatTarget_fails (m : World F)
    (failed : w.conditionHasCombatTarget e = some (.failure, m)) : m.hasValidTarget e = false := by
  cases hasCombatTarget_cases failed with
  | unarmed gone => exact gone
  | buries => simp [hasValidTarget, setCombat]

omit [Scalar F] in
theorem hasCombatTarget_succeeds (m : World F)
    (succeeded : w.conditionHasCombatTarget e = some (.success, m)) :
    m = w ∧ w.hasLivingTarget e = true ∧ w.hasValidTarget e = true := by
  cases hasCombatTarget_cases succeeded with
  | aims combat target armed aimed valid alive =>
      exact ⟨rfl, by simp [hasLivingTarget, armed, validTarget, aimed, valid, alive],
        by simp [hasValidTarget, armed, aimed, valid]⟩

omit [Scalar F] in
theorem hasCombatTarget_status (m : World F) (status : NodeStatus)
    (ran : w.conditionHasCombatTarget e = some (status, m)) :
    status = .failure ∨ status = .success := by
  cases hasCombatTarget_cases ran <;> simp

omit [Scalar F] in
theorem hasValidTarget_eq (combat : CombatComp F) (armed : w.reg.combat e = some combat) :
    w.hasValidTarget e = (w.validTarget combat).isSome := by
  cases aimed : combat.targetEntity with
  | none => simp [hasValidTarget, armed, validTarget, aimed]
  | some target =>
      cases valid : w.reg.valid target <;> simp [hasValidTarget, armed, validTarget, aimed, valid]

theorem isLowHealth_pure (m : World F) (status : NodeStatus)
    (ran : w.conditionIsLowHealth e = some (status, m)) :
    m = w ∧ (status = .failure → w.isWeak e = false) := by
  unfold conditionIsLowHealth at ran
  unfold isWeak
  split at ran
  next unhurt => simp_all
  next health hurt =>
    obtain ⟨rfl, rfl⟩ := Prod.mk.inj (Option.some.inj ran)
    refine ⟨rfl, fun failed => ?_⟩
    simp only [hurt]
    split at failed
    next => cases failed
    next strong => simpa using strong

omit [Scalar F] in
theorem isAggroHigh_pure (m : World F) (status : NodeStatus)
    (ran : w.conditionIsAggroHigh e = some (status, m)) :
    m = w ∧ (w.hasValidTarget e = true → status = .failure) := by
  unfold conditionIsAggroHigh at ran
  split at ran
  next aimed => simp_all
  next aimless =>
    have nothing : ¬w.hasValidTarget e = true := aimless
    split at ran
    next => simp_all
    next => split at ran <;> simp_all

theorem flee_status (m : World F) (draw : BehaviorDraw) (status : NodeStatus)
    (target : w.hasValidTarget e = true) (ran : w.actionFlee e draw = some (status, m)) :
    status = .running := by
  obtain ⟨loc, combat, job, toil, -, armed, -, -, flees⟩ := flee_cases ran
  cases flees with
  | aimless gone => simp [w.hasValidTarget_eq e combat armed, gone] at target
  | redirects => rfl
  | runs => rfl

theorem inhibitOrAttack_fails (m : World F)
    (failed : w.actionInhibitOrAttack e = some (.failure, m)) :
    m.hasValidTarget e = w.hasValidTarget e := by
  cases inhibitOrAttack_cases failed with
  | unaware => rfl
  | forgets => rfl
  | givesUp => simp [hasValidTarget, setAggro, inhibit_reg]

inductive MeleeTurn (w : World F) (e : Entity) : World F → Prop where
  | chase (job : JobComp F) (toil : ToilComp) (targetLoc : LocationComp F) (name : String)
      (employed : w.reg.job e = some job) (active : w.reg.toil e = some toil) :
      MeleeTurn w e (w.chase e job toil targetLoc name)
  | wait (toil : ToilComp) (combat : CombatComp F) (target : Entity) (text : String)
      (active : w.reg.toil e = some toil)
      (reached : w.fights e = true → w.meleeTarget e = some target) :
      MeleeTurn w e (((w.standAndFight e toil).setCombat e combat).setActivity e text)
  | hit (toil : ToilComp) (combat : CombatComp F) (target : Entity)
      (identity targetIdentity : IdentityComp) (targetHealth : HealthComp F) (w' : World F)
      (active : w.reg.toil e = some toil)
      (reached : w.fights e = true → w.meleeTarget e = some target ∧ w.meleeHit e = some target)
      (struck : (w.standAndFight e toil).strike e target combat identity targetIdentity
        targetHealth = some w') :
      MeleeTurn w e w'

theorem melee_turn (m : World F) (status : NodeStatus) (target : w.hasValidTarget e = true)
    (ran : w.actionMeleeAttack e = some (status, m)) :
    status ≠ .failure ∧ w.MeleeTurn e m := by
  obtain ⟨loc, combat, job, toil, located, armed, employed, active, attacks⟩ := meleeAttack_cases ran
  have reached (aim : Entity) (aimLoc : LocationComp F) (aimed : w.validTarget combat = some aim)
      (aimLocated : w.reg.location aim = some aimLoc)
      (near : lt combat.attackRange (hypot (aimLoc.x - loc.x) (aimLoc.z - loc.z)) = false)
      (fighting : w.fights e = true) : w.meleeTarget e = some aim := by
    have close : w.inReach e aim combat.attackRange = true := by
      simp [inReach, located, aimLocated, near]
    simp [meleeTarget, fighting, armed, aimed, close]
  cases attacks with
  | aimless gone => simp [w.hasValidTarget_eq e combat armed, gone] at target
  | chases aim aimLoc name => exact ⟨by simp, .chase job toil aimLoc name employed active⟩
  | waits aim aimLoc text aimed aimLocated near =>
      exact ⟨by simp, .wait toil _ aim text active (reached aim aimLoc aimed aimLocated near)⟩
  | strikes aim aimLoc identity aimIdentity health aimed aimLocated near ready hurt struck =>
      refine ⟨by simp, .hit toil combat aim identity aimIdentity health m active
        (fun fighting => ⟨reached aim aimLoc aimed aimLocated near fighting, ?_⟩) struck⟩
      simp [meleeHit, armed, ready, reached aim aimLoc aimed aimLocated near fighting]

end World

def isPeaceful (leaf : SurvivalLeaf) : Prop := leaf ≠ .meleeAttack

abbrev PeacefulSteps (e : Entity) (draw : BehaviorDraw) : World F → World F → Prop :=
  LeafSteps (runLeaf e draw) isPeaceful

variable (e : Entity) (draw : BehaviorDraw)

theorem tick_peaceful (node : Node SurvivalLeaf) (peaceful : ∀ l ∈ leaves node, isPeaceful l)
    (w w' : World F) (status : NodeStatus)
    (ticked : tick (runLeaf e draw) node w = some (status, w')) : PeacefulSteps e draw w w' :=
  (tick_steps node w w' status ticked).mono peaceful

theorem peacefulSeqs_steps (w w' : World F) (status : NodeStatus)
    (ticked : tickSelector (runLeaf e draw) peacefulSeqs w = some (status, w')) :
    PeacefulSteps e draw w w' :=
  (tickSelector_steps peacefulSeqs w w' status ticked).mono fun l member => by
    rintro rfl
    simp [peacefulSeqs, leavesOf, leaves, hungerSeq, fatigueSeq, schedEatSeq, schedSleepSeq,
      wanderSeq] at member

theorem fleeSeq_fails (w m : World F)
    (failed : tick (runLeaf e draw) fleeSeq w = some (.failure, m)) :
    m.hasValidTarget e = false ∨
      (m = w ∧ w.hasValidTarget e = true ∧ w.hasLivingTarget e = true ∧ w.isWeak e = false) := by
  rw [fleeSeq, tick] at failed
  rcases tickSequence_cons _ _ _ _ _ failed with ⟨-, ran⟩ | ⟨first, found, rest⟩
  · exact .inl (w.hasCombatTarget_fails e m (by simpa [tick, runLeaf] using ran))
  obtain ⟨rfl, living, valid⟩ :=
    w.hasCombatTarget_succeeds e first (by simpa [tick, runLeaf] using found)
  rcases tickSequence_cons _ _ _ _ _ rest with ⟨-, ran⟩ | ⟨second, weak, flight⟩
  · obtain ⟨rfl, strong⟩ := first.isLowHealth_pure e m _ (by simpa [tick, runLeaf] using ran)
    exact .inr ⟨rfl, valid, living, strong rfl⟩
  obtain ⟨rfl, -⟩ := first.isLowHealth_pure e second _ (by simpa [tick, runLeaf] using weak)
  rcases tickSequence_cons _ _ _ _ _ flight with ⟨-, ran⟩ | ⟨third, -, ended⟩
  · have running := second.flee_status e m draw _ valid (by simpa [tick, runLeaf] using ran)
    cases running
  · simp [tickSequence] at ended

theorem aggroSeq_fails (w m : World F)
    (failed : tick (runLeaf e draw) aggroSeq w = some (.failure, m)) :
    m.hasValidTarget e = w.hasValidTarget e ∧ (w.hasValidTarget e = true → m = w) := by
  rw [aggroSeq, tick] at failed
  rcases tickSequence_cons _ _ _ _ _ failed with ⟨-, ran⟩ | ⟨first, high, rest⟩
  · obtain ⟨rfl, -⟩ := w.isAggroHigh_pure e m _ (by simpa [tick, runLeaf] using ran)
    exact ⟨rfl, fun _ => rfl⟩
  obtain ⟨rfl, calm⟩ := w.isAggroHigh_pure e first _ (by simpa [tick, runLeaf] using high)
  have aimless : first.hasValidTarget e = false := by
    by_contra aimed
    cases calm (by simpa using aimed)
  rcases tickSequence_cons _ _ _ _ _ rest with ⟨-, ran⟩ | ⟨second, -, ended⟩
  · have same := first.inhibitOrAttack_fails e m (by simpa [tick, runLeaf] using ran)
    exact ⟨same, fun aimed => by simp [aimless] at aimed⟩
  · simp [tickSequence] at ended

-- A relation that holds of every way through the tree but the melee leaf.
structure HoldsInPeace (R : World F → World F → Prop) : Prop where
  trans : ∀ w m w', R w m → R m w' → R w w'
  flees : ∀ w w' status, tick (runLeaf e draw) fleeSeq w = some (status, w') → R w w'
  calms : ∀ w w' status, tick (runLeaf e draw) aggroSeq w = some (status, w') → R w w'
  looks : ∀ w w' status, w.conditionHasCombatTarget e = some (status, w') → R w w'
  rests : ∀ w w' status, tickSelector (runLeaf e draw) peacefulSeqs w = some (status, w') → R w w'

theorem survivalTree_relates (R : World F → World F → Prop) (peace : HoldsInPeace e draw R)
    (w w' : World F) (status : NodeStatus)
    (ticked : tick (runLeaf e draw) survivalTree w = some (status, w')) :
    R w w' ∨ (w.hasLivingTarget e = true ∧ w.isWeak e = false ∧ w.MeleeTurn e w') := by
  rw [survivalTree, tick] at ticked
  rcases tickSelector_cons _ _ _ _ _ ticked with ⟨-, ran⟩ | ⟨first, fled, ticked⟩
  · exact .inl (peace.flees w w' status ran)
  have toFirst := peace.flees w first _ fled
  rcases tickSelector_cons _ _ _ _ _ ticked with ⟨-, ran⟩ | ⟨second, calmed, ticked⟩
  · exact .inl (peace.trans w first w' toFirst (peace.calms first w' status ran))
  have toSecond := peace.trans w first second toFirst (peace.calms first second _ calmed)
  obtain ⟨target, untouched⟩ := aggroSeq_fails e draw first second calmed
  have combat (m : World F) (decided : NodeStatus)
      (ran : tick (runLeaf e draw) combatSeq second = some (decided, m)) :
      (decided = .failure ∧ R second m) ∨
        (decided ≠ .failure ∧ w.hasLivingTarget e = true ∧ w.isWeak e = false ∧
          w.MeleeTurn e m) := by
    rw [combatSeq, tick] at ran
    rcases tickSequence_cons _ _ _ _ _ ran with ⟨unsuccessful, looked⟩ | ⟨third, found, attack⟩
    · simp only [tick, runLeaf] at looked
      rcases second.hasCombatTarget_status e m decided looked with rfl | rfl
      · exact .inl ⟨rfl, peace.looks second m _ looked⟩
      · exact absurd rfl unsuccessful
    · obtain ⟨rfl, -, valid⟩ :=
        second.hasCombatTarget_succeeds e third (by simpa [tick, runLeaf] using found)
      rcases fleeSeq_fails e draw w first fled with aimless | ⟨rfl, aimed, living, strong⟩
      · simp [target, aimless] at valid
      obtain rfl := untouched aimed
      rcases tickSequence_cons _ _ _ _ _ attack with ⟨-, attacked⟩ | ⟨fourth, attacked, ended⟩
      · obtain ⟨decides, turn⟩ :=
          third.melee_turn e m decided valid (by simpa [tick, runLeaf] using attacked)
        exact .inr ⟨decides, living, strong, turn⟩
      · obtain ⟨rfl, rfl⟩ : decided = .success ∧ m = fourth := by
          simpa [tickSequence, eq_comm] using ended
        obtain ⟨decides, turn⟩ :=
          third.melee_turn e m _ valid (by simpa [tick, runLeaf] using attacked)
        exact .inr ⟨by simp, living, strong, turn⟩
  rcases tickSelector_cons _ _ _ _ _ ticked with ⟨unfailed, ran⟩ | ⟨third, lost, ticked⟩
  · rcases combat w' status ran with ⟨failed, -⟩ | ⟨-, fought⟩
    · exact absurd failed unfailed
    · exact .inr fought
  · rcases combat third .failure lost with ⟨-, looked⟩ | ⟨unfailed, -⟩
    · have toThird := peace.trans w second third toSecond looked
      exact .inl (peace.trans w third w' toThird (peace.rests third w' status ticked))
    · exact absurd rfl unfailed

theorem World.behaviorTree_relates (R : World F → World F → Prop) (peace : HoldsInPeace e draw R)
    (w w' : World F) (visited : w.behaviorTree e draw = some w') :
    w' = w ∨ (w.reg.busy e = none ∧ (R w w' ∨ (w.fights e = true ∧ w.MeleeTurn e w'))) := by
  unfold World.behaviorTree at visited
  split at visited
  next => exact .inl (Option.some.inj visited).symm
  next checked =>
    obtain ⟨planted, free⟩ : (w.reg.behaviorTree e).isSome = true ∧ w.reg.busy e = none := by
      simpa [Option.isSome_iff_ne_none] using checked
    obtain ⟨⟨status, last⟩, ticked, rfl⟩ := Option.map_eq_some_iff.mp visited
    refine .inr ⟨free, ?_⟩
    rcases survivalTree_relates e draw R peace w last status ticked with
      related | ⟨living, strong, turn⟩
    · exact .inl related
    · exact .inr ⟨by simp [World.fights, planted, free, living, strong], turn⟩

theorem peacefulSteps_peace : HoldsInPeace e draw (PeacefulSteps (F := F) e draw) where
  trans := fun _ _ _ first second => first.trans second
  flees := fun w w' status ticked =>
    tick_peaceful e draw fleeSeq (by simp [fleeSeq, leaves, leavesOf, isPeaceful]) w w' status ticked
  calms := fun w w' status ticked =>
    tick_peaceful e draw aggroSeq (by simp [aggroSeq, leaves, leavesOf, isPeaceful]) w w' status ticked
  looks := fun w w' status looked => .single ⟨.hasCombatTarget, status, by simp [isPeaceful], looked⟩
  rests := fun w w' status ticked => peacefulSeqs_steps e draw w w' status ticked

-- What a visit of the tree does: nothing, peaceful steps, or one turn of a fight.
theorem World.behaviorTree_cases (w w' : World F)
    (visited : w.behaviorTree e draw = some w') :
    w' = w ∨ (w.reg.busy e = none ∧
      (PeacefulSteps e draw w w' ∨ (w.fights e = true ∧ w.MeleeTurn e w'))) :=
  w.behaviorTree_relates e draw _ (peacefulSteps_peace e draw) w' visited

end MundusVivens
