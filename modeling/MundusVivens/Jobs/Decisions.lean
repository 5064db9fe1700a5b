import MundusVivens.Jobs.Commitment

set_option autoImplicit false

namespace MundusVivens

open Scalar BehaviorTree

variable {F : Type}

-- Whatever needs the entity has, a crisis is being resolved.
def World.InCrisis (w : World F) (e : Entity) : Prop :=
  ∀ needs, w.reg.needs e = some needs → needs.isResolvingSurvival = true

variable [Scalar F]

namespace World

variable (w w' : World F) (e : Entity)

omit [Scalar F] in
theorem InCrisis.resolving {w : World F} {e : Entity} (crisis : w.InCrisis e)
    (needs : NeedsComp F) (has : w.reg.needs e = some needs) : w.isResolving e = true := by
  simp [isResolving, has, crisis needs has]

omit [Scalar F] in
theorem InCrisis.of_needs {w w' : World F} {e : Entity} (crisis : w.InCrisis e)
    (same : w'.reg.needs e = w.reg.needs e) : w'.InCrisis e := by
  rw [InCrisis, same]
  exact crisis

omit [Scalar F] in
theorem InCrisis.of_flag {w : World F} {e : Entity} (needs : NeedsComp F)
    (has : w.reg.needs e = some needs) (flag : needs.isResolvingSurvival = true) :
    w.InCrisis e := by
  intro other same
  rw [← Option.some.inj (has.symm.trans same)]
  exact flag

theorem inCrisis_steady (crisis : Crisis F) (status : NodeStatus)
    (ran : w.conditionInCrisis crisis e = some (status, w')) :
    Steady e w w' ∧ (status = .success → w'.InCrisis e) := by
  obtain ⟨needs, hasNeeds, checks⟩ := inCrisis_cases ran
  cases checks with
  | ongoing resolving =>
      exact ⟨(Spared.refl w).steady, fun _ => .of_flag needs hasNeeds resolving⟩
  | enters =>
      refine ⟨.of_toil ⟨.idle, "", 0⟩ (by simp [setToil]) (by simp), fun _ => ?_⟩
      exact .of_flag { needs with isResolvingSurvival := true, currentSurvivalType := crisis.type }
        (by simp [setToil, setJob, issue, clearPath, World.eraseBusy, Registry.eraseBusy, setNeeds]) rfl
  | spared => exact ⟨(Spared.refl w).steady, by simp⟩

omit [Scalar F] in
theorem isScheduled_steady (crisis : Crisis F) (status : NodeStatus)
    (ran : w.conditionIsScheduled crisis e = some (status, w')) :
    Steady e w w' ∧ (status = .success → w'.InCrisis e) := by
  obtain ⟨needs, hasNeeds, checks⟩ := isScheduled_cases ran
  cases checks with
  | ongoing resolving =>
      exact ⟨(Spared.refl w).steady, fun _ => .of_flag needs hasNeeds resolving⟩
  | begins =>
      exact ⟨.of_crisis (by simp [isResolving, setNeeds]), fun _ => .of_flag _ (by simp [setNeeds]; rfl) rfl⟩
  | skips => exact ⟨(Spared.refl w).steady, by simp⟩

omit [Scalar F] in
theorem aimJob_steady (job : JobComp F) (toil : ToilComp) (place : LocationComp F) :
    Steady e w (w.aimJob e job toil place) :=
  .of_toil { toil with state := .idle } (by simp [aimJob, setToil]) (by simp)

theorem spawnCamp_crisis (loc : LocationComp F) (name : String) (type : AffordanceType)
    (crisis : w.InCrisis e) : (w.spawnCamp loc name type).InCrisis e := by
  obtain ⟨old, there, camp⟩ := w.spawnCamp_body loc name type
  by_cases new : e = w.reg.nextEntity
  next =>
    subst new
    intro needs has
    cases (congrArg Body.needs camp).symm.trans has
  next => exact crisis.of_needs (congrArg Body.needs (old e new))

theorem findFurniture_steady (draw : BehaviorDraw) (status : NodeStatus)
    (ran : w.actionFindFurniture e draw = some (status, w')) :
    Steady e w w' ∧ (w.InCrisis e → w'.InCrisis e) := by
  obtain ⟨-, needs, job, loc, toil, -, -, -, -, searches⟩ := findFurniture_cases ran
  cases searches with
  | keeps => exact ⟨(Spared.refl w).steady, id⟩
  | aims dist place =>
      exact ⟨w.aimJob_steady e job toil place, fun crisis => crisis.of_needs rfl⟩
  | camps name type =>
      have idle : ((w.spawnCamp loc name type).aimJob e job toil loc).reg.toil e =
          some { toil with state := .idle } := by simp [aimJob, setToil]
      refine ⟨.of_toil _ idle (by simp), fun crisis => ?_⟩
      exact (w.spawnCamp_crisis e loc name type crisis).of_needs rfl
  | stays => exact ⟨w.aimJob_steady e job toil loc, fun crisis => crisis.of_needs rfl⟩

theorem moveToTarget_steady (status : NodeStatus)
    (ran : w.actionMoveToTarget e = some (status, w')) :
    Steady e w w' ∧ (w.InCrisis e → w'.InCrisis e) := by
  obtain ⟨loc, job, toil, -, -, -, travels⟩ := moveToTarget_cases ran
  cases travels with
  | arrives => exact ⟨(Spared.refl w).steady, id⟩
  | setsOut =>
      exact ⟨.of_toil { toil with state := .moving } (by simp [setToil, setActivity, clearPath])
        (by simp), fun crisis => crisis.of_needs rfl⟩
  | walks => exact ⟨(Spared.refl w).steady, id⟩

theorem interactFurniture_steady (draw : BehaviorDraw) (status : NodeStatus)
    (crisis : w.InCrisis e) (ran : w.actionInteractFurniture e draw = some (status, w')) :
    Steady e w w' := by
  obtain ⟨needs, loc, toil, job, identity, attends, acted⟩ := interactFurniture_cases ran
  have flag := crisis needs attends.needy
  cases acted with
  | settles seeks settled =>
      cases settled with
      | seat f found taken =>
          exact .of_crisis (occupyFurniture_resolving flag taken)
      | camp name type full wild suits taken =>
          exact .of_crisis (occupyFurniture_resolving flag taken)
      | floor => exact .of_crisis (crisis.resolving needs attends.needy)
  | recharges => exact .of_crisis (by simp [isResolving, setNeeds, flag])
  | resolves =>
      -- The recharge ends the crisis, and the job with it.
      exact .of_job { job with isActive := false } (by simp [setActivity, setToil, setJob]) rfl

omit [Scalar F] in
theorem hasCombatTarget_steady (status : NodeStatus)
    (ran : w.conditionHasCombatTarget e = some (status, w')) : Steady e w w' := by
  cases hasCombatTarget_cases ran <;> exact Spared.steady (.of_same rfl rfl rfl)

theorem flee_steady (draw : BehaviorDraw) (status : NodeStatus)
    (ran : w.actionFlee e draw = some (status, w')) : Steady e w w' := by
  obtain ⟨loc, combat, job, toil, -, -, -, -, flees⟩ := flee_cases ran
  cases flees with
  | aimless => exact (Spared.refl w).steady
  | redirects =>
      exact .of_toil { toil with state := .moving } (by simp [setToil, setActivity]) (by simp)
  | runs => exact (Spared.refl w).steady

theorem inhibitOrAttack_steady (status : NodeStatus)
    (ran : w.actionInhibitOrAttack e = some (status, w')) : Steady e w w' := by
  cases inhibitOrAttack_cases ran with
  | unaware => exact (Spared.refl w).steady
  | forgets => exact Spared.steady (.of_same rfl rfl rfl)
  | attacks aggro toil =>
      exact .of_toil { toil with state := .idle, durationTicks := 0 } (by simp [setToil]) (by simp)
  | givesUp =>
      unfold inhibit
      split <;> exact Spared.steady (.of_same rfl rfl rfl)
  | holds aggro toil =>
      exact .of_toil { toil with state := .interrupted } (by simp [setToil, setActivity]) (by simp)

theorem wander_steady (draw : BehaviorDraw) (status : NodeStatus)
    (ran : w.actionWander e draw = some (status, w')) : Steady e w w' := by
  obtain ⟨loc, job, toil, -, -, active, wanders⟩ := wander_cases ran
  cases wanders with
  | walks | halts | yields => exact (Spared.refl w).steady
  | lingers =>
      exact .of_state rfl toil { toil with durationTicks := toil.durationTicks - 1 } active
        (by simp [setToil]) rfl rfl
  | ends =>
      exact .of_toil { toil with state := .idle, currentAction := "" } (by simp [setToil, setActivity])
        (by simp)
  | rests => exact Spared.steady (.of_same rfl rfl rfl)
  | setsOut =>
      exact .of_toil { toil with state := .moving, currentAction := "배회 중" }
        (by simp [setToil, setActivity]) (by simp)

end World

variable (e : Entity) (draw : BehaviorDraw)

-- The leaves that commit nobody, whatever the world.
def isSteady : SurvivalLeaf → Bool
  | .meleeAttack | .interactFurniture => false
  | _ => true

theorem runLeaf_steady (leaf : SurvivalLeaf) (harmless : isSteady leaf = true) (w w' : World F)
    (status : NodeStatus) (ran : runLeaf e draw leaf w = some (status, w')) : Steady e w w' := by
  cases leaf with
  | hasCombatTarget => exact w.hasCombatTarget_steady w' e status ran
  | isLowHealth => exact (Spared.of_eq (w.isLowHealth_pure e w' status ran).1).steady
  | flee => exact w.flee_steady w' e draw status ran
  | isAggroHigh => exact (Spared.of_eq (w.isAggroHigh_pure e w' status ran).1).steady
  | inhibitOrAttack => exact w.inhibitOrAttack_steady w' e status ran
  | meleeAttack => cases harmless
  | isHungry => exact (w.inCrisis_steady w' e hungerCrisis status ran).1
  | isFatigued => exact (w.inCrisis_steady w' e fatigueCrisis status ran).1
  | isScheduledEat => exact (w.isScheduled_steady w' e hungerCrisis status ran).1
  | isScheduledSleep => exact (w.isScheduled_steady w' e fatigueCrisis status ran).1
  | findFurniture => exact (w.findFurniture_steady w' e draw status ran).1
  | moveToTarget => exact (w.moveToTarget_steady w' e status ran).1
  | interactFurniture => cases harmless
  | canWander => exact (Spared.of_eq (World.canWander_pure ran)).steady
  | wander => exact w.wander_steady w' e draw status ran

theorem tick_steady (node : Node SurvivalLeaf) (harmless : ∀ l ∈ leaves node, isSteady l = true)
    (w w' : World F) (status : NodeStatus)
    (ticked : tick (runLeaf e draw) node w = some (status, w')) : Steady e w w' := by
  have steps := tick_steps node w w' status ticked
  clear ticked
  induction steps with
  | refl => exact (Spared.refl w).steady
  | tail _ step ih =>
      obtain ⟨leaf, status, member, ran⟩ := step
      exact ih.trans (runLeaf_steady e draw leaf (harmless leaf member) _ _ status ran)

section

variable (condition : SurvivalLeaf) (w w' : World F) (status : NodeStatus)

theorem interact_steady (crisis : w.InCrisis e)
    (ticked : tickSequence (runLeaf e draw) [.leaf .interactFurniture] w = some (status, w')) :
    Steady e w w' := by
  rcases tickSequence_leaf _ _ _ _ _ ticked with ⟨-, used⟩ | ⟨last, used, ended⟩
  · exact w.interactFurniture_steady w' e draw status crisis used
  · obtain ⟨-, rfl⟩ : NodeStatus.success = status ∧ last = w' := by
      simpa [tickSequence] using ended
    exact w.interactFurniture_steady last e draw .success crisis used

theorem crisisSeq_steady
    (begins : ∀ m verdict, runLeaf e draw condition w = some (verdict, m) →
      Steady e w m ∧ (verdict = .success → m.InCrisis e))
    (ticked : tick (runLeaf e draw) (.sequence [.leaf condition, .leaf .findFurniture,
      .leaf .moveToTarget, .leaf .interactFurniture]) w = some (status, w')) : Steady e w w' := by
  rw [tick] at ticked
  rcases tickSequence_leaf _ _ _ _ _ ticked with ⟨-, ran⟩ | ⟨first, met, ticked⟩
  · exact (begins w' status ran).1
  obtain ⟨toFirst, crisis⟩ := begins first .success met
  rcases tickSequence_leaf _ _ _ _ _ ticked with ⟨-, ran⟩ | ⟨second, found, ticked⟩
  · exact toFirst.trans (first.findFurniture_steady w' e draw status ran).1
  obtain ⟨toSecond, found_crisis⟩ := first.findFurniture_steady second e draw .success found
  rcases tickSequence_leaf _ _ _ _ _ ticked with ⟨-, ran⟩ | ⟨third, moved, ticked⟩
  · exact (toFirst.trans toSecond).trans (second.moveToTarget_steady w' e status ran).1
  obtain ⟨toThird, moved_crisis⟩ := second.moveToTarget_steady third e .success moved
  have resolving : third.InCrisis e := moved_crisis (found_crisis (crisis rfl))
  exact ((toFirst.trans toSecond).trans toThird).trans
    (interact_steady e draw third w' status resolving ticked)

theorem schedSeq_steady
    (begins : ∀ m verdict, runLeaf e draw condition w = some (verdict, m) →
      Steady e w m ∧ (verdict = .success → m.InCrisis e))
    (ticked : tick (runLeaf e draw) (.sequence [.leaf condition, .leaf .interactFurniture]) w =
      some (status, w')) : Steady e w w' := by
  rw [tick] at ticked
  rcases tickSequence_leaf _ _ _ _ _ ticked with ⟨-, ran⟩ | ⟨first, met, ticked⟩
  · exact (begins w' status ran).1
  · obtain ⟨toFirst, crisis⟩ := begins first .success met
    exact toFirst.trans (interact_steady e draw first w' status (crisis rfl) ticked)

end

theorem peacefulSeqs_steady (w w' : World F) (status : NodeStatus)
    (ticked : tickSelector (runLeaf e draw) peacefulSeqs w = some (status, w')) :
    Steady e w w' := by
  refine tickSelector_relates (Steady e) (fun w => (Spared.refl w).steady)
    (fun w m w' => Steady.trans) peacefulSeqs (fun child member m m' verdict ran => ?_) w w' status
    ticked
  simp only [peacefulSeqs, List.mem_cons, List.not_mem_nil, or_false] at member
  rcases member with rfl | rfl | rfl | rfl | rfl
  · exact crisisSeq_steady e draw .isHungry m m' verdict
      (fun n s met => m.inCrisis_steady n e hungerCrisis s met) ran
  · exact crisisSeq_steady e draw .isFatigued m m' verdict
      (fun n s met => m.inCrisis_steady n e fatigueCrisis s met) ran
  · exact schedSeq_steady e draw .isScheduledEat m m' verdict
      (fun n s met => m.isScheduled_steady n e hungerCrisis s met) ran
  · exact schedSeq_steady e draw .isScheduledSleep m m' verdict
      (fun n s met => m.isScheduled_steady n e fatigueCrisis s met) ran
  · exact tick_steady e draw wanderSeq (by simp [wanderSeq, leaves, leavesOf, isSteady]) m m' verdict
      ran

theorem steady_peace : HoldsInPeace e draw (Steady (F := F) e) where
  trans := fun _ _ _ => Steady.trans
  flees := fun w w' status ran =>
    tick_steady e draw fleeSeq (by simp [fleeSeq, leaves, leavesOf, isSteady]) w w' status ran
  calms := fun w w' status ran =>
    tick_steady e draw aggroSeq (by simp [aggroSeq, leaves, leavesOf, isSteady]) w w' status ran
  looks := fun w w' status ran => w.hasCombatTarget_steady w' e status ran
  rests := fun w w' status ran => peacefulSeqs_steady e draw w w' status ran

-- An NPC with an active job does not stand to fight on the move.
def World.staysOnJob (w : World F) (e : Entity) : Bool :=
  !(w.standsToFight e && w.isEmployed e && !w.isResolving e)

omit [Scalar F] in
theorem Steady.of_unemployed {w w' : World F} (job : w'.reg.job e = w.reg.job e)
    (needs : w'.reg.needs e = w.reg.needs e) (free : w.isEmployed e = false ∨ w.isResolving e = true) :
    Steady e w w' := by
  intro committed
  rcases free with idle | resolving
  · have employed := committed.employed
    rw [World.isEmployed, job] at employed
    simp [World.isEmployed, employed] at idle
  · have calm := committed.calm
    rw [World.isResolving, needs] at calm
    simp [World.isResolving, calm] at resolving

theorem World.standAndFight_steady (w : World F) (toil : ToilComp)
    (active : w.reg.toil e = some toil) (target : (w.meleeTarget e).isSome)
    (stays : w.staysOnJob e = true) : Steady e w (w.standAndFight e toil) := by
  unfold standAndFight
  split
  next moving =>
    have stands : w.standsToFight e = true := by simp [standsToFight, target, active, moving]
    refine .of_unemployed e rfl rfl ?_
    simpa [staysOnJob, stands, or_comm, Bool.or_eq_true] using stays
  next => exact (Spared.refl w).steady

theorem World.MeleeTurn.steady {w w' : World F} (turn : w.MeleeTurn e w')
    (fighting : w.fights e = true) (stays : w.staysOnJob e = true) : Steady e w w' := by
  cases turn with
  | chase job toil targetLoc name employed active =>
      unfold World.chase
      split
      next =>
        exact .of_toil { toil with state := .moving } (by simp [World.setToil, World.setActivity]) (by simp)
      next => exact (Spared.refl w).steady
  | wait toil combat target text active reached =>
      have stood := w.standAndFight_steady e toil active (by simp [reached fighting]) stays
      exact stood.trans (Spared.of_body (by simp)).steady
  | hit toil combat target identity targetIdentity health _ active reached struck =>
      have stood := w.standAndFight_steady e toil active (by simp [(reached fighting).1]) stays
      have body := World.strike_body _ w' e e target combat identity targetIdentity health struck
      split at body
      next =>
        refine stood.trans (Spared.steady (.inl ⟨?_, ?_, ?_⟩))
        · exact congrArg Body.job body
        · exact congrArg Body.toil body
        · exact congrArg Body.needs body
      next => exact stood.trans (Spared.of_body body).steady

theorem World.behaviorTree_steady (w w' : World F) (x : Entity) (stays : w.staysOnJob e = true)
    (visited : w.behaviorTree e draw = some w') : Steady x w w' := by
  by_cases self : x = e
  next =>
    subst self
    rcases w.behaviorTree_relates x draw (Steady x) (steady_peace x draw) w' visited with
      same | ⟨-, steady | ⟨fighting, turn⟩⟩
    · exact (Spared.of_eq same).steady
    · exact steady
    · exact turn.steady x fighting stays
  next => exact (Spared.of_looksOn ((w.behaviorTree_concerns e draw w' visited).others x self)).steady

end MundusVivens
