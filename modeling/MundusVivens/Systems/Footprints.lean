import MundusVivens.Systems.Combat
import MundusVivens.Systems.DriverCases
import MundusVivens.Systems.MainLoop
import MundusVivens.Systems.MovementCases
import MundusVivens.World.Footprint

set_option autoImplicit false

namespace MundusVivens

open Scalar BehaviorTree LocationRegistry

variable {F : Type} [Scalar F]

namespace World

variable (w w' : World F) (e x : Entity)

def emotionScope : Scope := ⟨[], [.emotion, .emotions]⟩

omit [Scalar F] in
theorem within_emotions (s : Scope) (emotions : EmotionRegistry)
    (ids : Option EmotionRegistry.ContagionIds) (allowed : .emotions ∈ s.all) :
    Within s e x w { w with emotions := emotions, contagionIds := ids } := by
  refine (Within.after_global .emotions allowed fun q other => ?_).mpr (.refl s e x w)
  cases q <;> first | exact absurd rfl other | exact rfl

theorem infectEmotion_within (y : Entity) (emotion : EmotionComp) (source : UInt8) (count : Nat)
    (roll : F) : Within emotionScope e x w (w.infectEmotion y emotion source count roll) := by
  unfold infectEmotion
  have numbered := w.within_emotions e x emotionScope (w.emotions.internContagion w.contagionIds).1
    (some (w.emotions.internContagion w.contagionIds).2) (by simp [emotionScope])
  dsimp only
  split
  next => exact (within_setEmotion _ (by simp [emotionScope])).mpr numbered
  next => exact numbered

theorem emotionDecay_within (draw : DecayDraw F) :
    Within emotionScope e x w (w.emotionDecay draw) := by
  refine Within.foldl _ (fun w y => ?_) _ w
  unfold decayEntity
  split
  next emotion identity _ _ _ =>
    have shown : Within emotionScope e x w (w.setEmotion y (decayEmotion emotion)) := by
      simp [emotionScope]
    dsimp only
    split
    next => exact shown
    next =>
      split
      next => exact shown
      next => exact shown.trans (infectEmotion_within _ e x y _ _ _ _)
  next => exact .refl _ e x w

omit [Scalar F] in
theorem syncTick_within : Within ⟨[], [.clock, .relationships]⟩ e x w w.syncTick := by
  unfold syncTick
  split
  next =>
    have synced : Within ⟨[], [.clock, .relationships]⟩ e x w
        { w with clock := { w.clock with tickSyncedReady := false, tick := w.clock.nextTickVal } } := by
      refine (Within.after_global .clock (by simp) fun q other => ?_).mpr (.refl _ e x w)
      cases q <;> first | exact absurd rfl other | exact rfl
    refine synced.trans (Within.foldl _ (fun w delta => ?_) _ _)
    unfold applyDelta
    split <;> simp
  next => exact .refl _ e x w

omit [Scalar F] in
theorem dailyReset_within : Within ⟨[], [.clock, .cooldown]⟩ e x w w.dailyReset := by
  unfold dailyReset
  split
  next =>
    intro p foreign _
    cases p
    case clock | cooldown => simp at foreign
    all_goals exact rfl
  next => exact .refl _ e x w

def jobDriverScope : Scope :=
  ⟨[.job, .toil, .needs, .activity, .busy], [.tickets, .calls .reportJobStatus]⟩

theorem jobDriver_within (driven : w.jobDriver e = some w') :
    Within jobDriverScope e x w w' := by
  refine jobDriver_preserves (Within jobDriverScope e x w) (fun write before => ?_) driven
    (.refl _ e x w)
  cases write with
  | wait _ tagged =>
      rw [within_setBusy _ tagged (by simp [jobDriverScope])]
      exact before
  | equip | finish | toil | activity | refill | report => simpa [jobDriverScope] using before

omit [Scalar F] in
theorem recoverEnergy_within : Within ⟨[.cooldown], []⟩ e x w (w.recoverEnergy e) := by
  unfold recoverEnergy
  split
  next => split <;> simp
  next => exact .refl _ e x w

def socialScope : Scope :=
  ⟨[], [.cooldown, .activity, .busy, .tickets, .calls .triggerDialogue]⟩

omit [Scalar F] in
theorem ensureCooldown_within (y : Entity) : Within socialScope e x w (w.ensureCooldown y).1 := by
  unfold ensureCooldown
  split <;> simp [socialScope]

theorem requestDialogue_within (group : Group) (requested : w.requestDialogue group = some w') :
    Within ⟨[], [.activity, .busy, .tickets, .calls .triggerDialogue]⟩ e x w w' := by
  obtain ⟨marked, tagged, rfl⟩ := requestDialogue_cases requested
  refine Within.trans (.foldlM markRequesting (fun w y w' marked => ?_) _ w marked tagged) (by simp)
  rw [within_setBusy _ (markRequesting_cases marked).2 (by simp)]
  simp

theorem approach_within (initiator : Entity) (cooldown : CooldownComp) (locI : LocationComp F)
    (draw : SocialDraw F) (candidates members : List Entity)
    (approached : w.approach initiator cooldown locI draw candidates = some (w', members)) :
    Within socialScope e x w w' := by
  cases approach_cases approached with
  | shy => exact .refl _ e x w
  | alone | refused => simp [socialScope]
  | groups started _ _ _ _ group tries _ _ _ _ sent =>
      have tried : Within socialScope e x w started := by simp [tries, socialScope]
      exact tried.trans ((requestDialogue_within _ w' e x group sent).mono (by decide))

theorem socialInteraction_within (processed grown : List Entity) (draw : SocialDraw F)
    (initiator : Entity)
    (talked : w.socialInteraction processed draw initiator = some (w', grown)) :
    Within socialScope e x w w' := by
  rcases socialInteraction_cases w w' (Within socialScope e x w)
    (fun m y before => before.trans (m.ensureCooldown_within e x y)) processed grown draw initiator
    (.refl _ e x w) talked with gathered | ⟨m, locI, candidates, members, gathered, approached⟩
  · exact gathered
  · exact gathered.trans (approach_within _ _ e x _ _ _ _ _ _ approached)

omit [Scalar F] in
theorem networkSync_within (rank : Entity → Nat) :
    Within ⟨[], [.tickets, .calls .batchUpdateStatus]⟩ e x w (w.networkSync rank) := by
  unfold networkSync
  dsimp only
  split <;> simp

theorem busyAmbient_within (deltaTime : F) :
    Within ⟨[.velocity, .busy, .activity, .toil], []⟩ e x w (w.busyAmbient deltaTime e) := by
  unfold busyAmbient
  split
  next =>
    dsimp only
    unfold holdStill
    split <;> simp
  next => exact .refl _ e x w

theorem perception_within : Within ⟨[.aggro], []⟩ e x w (w.perception e) := by
  unfold perception
  repeat' split
  all_goals simp

def deathScope : Scope :=
  ⟨[.toil, .velocity, .pathfinding, .activity, .combat, .behaviorTree], []⟩

theorem systemDeath_within : Within deathScope e x w (w.systemDeath e) := by
  unfold systemDeath
  split
  next =>
    split
    next =>
      have stopped : Within deathScope e x w (w.stopToil e) := by
        unfold stopToil
        repeat' split
        all_goals simp [deathScope]
      have dropped (m : World F) : Within deathScope e x m (m.dropWaypoints e) := by
        unfold dropWaypoints
        split <;> simp [deathScope]
      have calmed (m : World F) : Within deathScope e x m (m.dropTarget e) := by
        unfold dropTarget
        split <;> simp [deathScope]
      have still : Within deathScope e x w ((w.stopToil e).modifyVelocity e fun _ => .still) := by
        simpa [deathScope] using stopped
      have shown := still.trans (dropped _)
      rw [← within_setActivity (y := e) "사망" (by simp [deathScope])] at shown
      simpa [deathScope] using shown.trans (calmed _)
    next => exact .refl _ e x w
  next => exact .refl _ e x w

theorem survivalOverride_within : Within ⟨[.needs], []⟩ e x w (w.survivalOverride e) := by
  unfold survivalOverride
  split <;> simp

def pathfindingScope : Scope := ⟨[.job, .toil, .velocity, .pathfinding], [.search]⟩

theorem pathfinding_within (searches spent : Nat) (choice : PathChoice F)
    (searched : w.pathfinding e searches choice = some (w', spent)) :
    Within pathfindingScope e x w w' := by
  refine pathfinding_preserves (Within pathfindingScope e x w) (fun {m _} write before => ?_)
    searched (.refl _ e x w)
  cases write with
  | map map walls places =>
      refine (Within.after_global .search (by simp [pathfindingScope]) fun q other => ?_).mpr before
      cases q
      case walls => exact Prod.ext walls places
      all_goals first | exact absurd rfl other | exact rfl
  | job | toil | path | velocity | halt => simpa [pathfindingScope] using before

def movementScope : Scope := ⟨[.location, .toil, .activity, .velocity, .pathfinding], [.grid]⟩

theorem movement_within (moved : w.movement e = some w') : Within movementScope e x w w' := by
  refine movement_preserves (Within movementScope e x w) (fun write before => ?_) moved
    (.refl _ e x w)
  cases write with
  | step =>
      rw [within_updateEntityPosition _ _ (by simp [movementScope]) (by simp [movementScope])]
      exact before
  | put =>
      rw [within_updateEntityPosition _ _ (by simp [movementScope]) (by simp [movementScope])]
      simpa [movementScope] using before
  | velocity | path | toil | activity => simpa [movementScope] using before

omit [Scalar F] in
theorem within_setOccupiedBy_resident (s : Scope) (furniture : Entity) (occupant : Option Entity)
    (resident : w.Resident x) : Within s e x w (w.setOccupiedBy furniture occupant) := by
  intro p foreign absent
  cases p
  case affordance =>
    have unfurnished := resident.unfurnished
    by_cases same : x = furniture
    next =>
      subst same
      simp [Part.Same, setOccupiedBy, unfurnished]
    next => simp [Part.Same, setOccupiedBy, same]
  all_goals exact rfl

omit [Scalar F] in
theorem checkOccupant_within (resident : w.Resident x) :
    Within ⟨[], []⟩ e x w (w.checkOccupant e) := by
  unfold checkOccupant
  repeat' split
  all_goals first
    | exact w.within_setOccupiedBy_resident e x _ _ _ resident
    | exact .refl _ e x w

def furnitureScope : Scope := ⟨[.needs], [.grid]⟩

omit [Scalar F] in
theorem returnFurniture_within (furniture : Entity) (resident : w.Resident x)
    (returned : w.returnFurniture furniture = some w') : Within furnitureScope e x w w' := by
  cases returnFurniture_cases returned with
  | gone => exact .refl _ e x w
  | freed => exact w.within_setOccupiedBy_resident e x furnitureScope furniture none resident
  | demolished aff furnished =>
      have other : x ≠ furniture := by
        rintro rfl
        simp [resident.unfurnished] at furnished
      exact (w.within_setOccupiedBy_resident e x furnitureScope furniture none resident).trans
        (within_remove _ other (by simp [furnitureScope]))

omit [Scalar F] in
theorem resolveAffordance_within (resident : w.Resident x)
    (resolved : w.resolveAffordance e = some w') : Within furnitureScope e x w w' := by
  cases resolveAffordance_cases resolved with
  | keeps => exact .refl _ e x w
  | frees needs furniture returned _ _ _ back =>
      have back := w.returnFurniture_within returned e x furniture resident back
      simpa [furnitureScope] using back

def combatConditionScope : Scope := ⟨[.combat], []⟩

def travelScope : Scope := ⟨[.job, .toil, .activity, .pathfinding], []⟩

def aggroScope : Scope := ⟨[.aggro, .combat, .toil, .activity], [.tickets, .calls .threatDetected]⟩

def meleeScope : Scope :=
  ⟨[.job, .toil, .activity, .pathfinding, .velocity], [.health, .combat, .busy, .tickets,
    .calls .reportCombatEvent]⟩

def crisisScope : Scope :=
  ⟨[.needs, .busy, .pathfinding, .job, .toil], [.tickets, .calls .reportJobStatus]⟩

def searchScope : Scope := ⟨[.job, .toil], [.handles, .grid]⟩

def interactScope : Scope :=
  ⟨[.needs, .location, .job, .toil, .activity],
    [.handles, .grid, .tickets, .calls .reportJobStatus]⟩

omit [Scalar F] in
theorem hasCombatTarget_within (status : NodeStatus)
    (ran : w.conditionHasCombatTarget e = some (status, w')) :
    Within combatConditionScope e x w w' := by
  cases hasCombatTarget_cases ran <;> simp [combatConditionScope]

theorem flee_within (draw : BehaviorDraw) (status : NodeStatus)
    (ran : w.actionFlee e draw = some (status, w')) : Within travelScope e x w w' := by
  obtain ⟨loc, combat, job, toil, -, -, -, -, flees⟩ := flee_cases ran
  cases flees <;> simp [travelScope]

theorem wander_within (draw : BehaviorDraw) (status : NodeStatus)
    (ran : w.actionWander e draw = some (status, w')) : Within travelScope e x w w' := by
  obtain ⟨loc, job, toil, -, -, -, wanders⟩ := wander_cases ran
  cases wanders <;> simp [travelScope]

theorem moveToTarget_within (status : NodeStatus)
    (ran : w.actionMoveToTarget e = some (status, w')) : Within travelScope e x w w' := by
  obtain ⟨loc, job, toil, -, -, -, travels⟩ := moveToTarget_cases ran
  cases travels <;> simp [travelScope]

theorem inhibitOrAttack_within (status : NodeStatus)
    (ran : w.actionInhibitOrAttack e = some (status, w')) : Within aggroScope e x w w' := by
  have asked (aggro : AggroComp) (npcId targetNpcId : UInt32) :
      Within aggroScope e x w (w.inhibit e aggro npcId targetNpcId).1 := by
    unfold inhibit
    split <;> simp [aggroScope]
  cases inhibitOrAttack_cases ran with
  | unaware => exact .refl _ e x w
  | forgets => simp [aggroScope]
  | attacks => simp [aggroScope]
  | givesUp aggro threat identity threatIdentity =>
      simpa [aggroScope] using asked aggro identity.npcId threatIdentity.npcId
  | holds aggro toil threat identity threatIdentity =>
      simpa [aggroScope] using asked aggro identity.npcId threatIdentity.npcId

omit [Scalar F] in
theorem retaliate_within (attacker target : Entity) :
    Within meleeScope e x w (w.retaliate attacker target) := by
  unfold retaliate
  repeat' split
  all_goals simp [meleeScope]

theorem strike_within (target : Entity) (combat : CombatComp F)
    (identity targetIdentity : IdentityComp) (targetHealth : HealthComp F)
    (struck : w.strike e target combat identity targetIdentity targetHealth = some w') :
    Within meleeScope e x w w' := by
  have landed : Within meleeScope e x w
      (w.landHit e target combat identity targetIdentity targetHealth) := by
    unfold landHit
    refine Within.trans ?_ (retaliate_within _ e x e target)
    simp [meleeScope]
  rcases strike_cases struck with ⟨-, rfl⟩ | ⟨-, mine, -, rfl⟩
  · exact landed
  · simpa [meleeScope] using landed

theorem meleeAttack_within (status : NodeStatus)
    (ran : w.actionMeleeAttack e = some (status, w')) : Within meleeScope e x w w' := by
  obtain ⟨loc, combat, job, toil, -, -, -, -, attacks⟩ := meleeAttack_cases ran
  have standing : Within meleeScope e x w (w.standAndFight e toil) := by
    unfold standAndFight
    split <;> simp [meleeScope]
  cases attacks with
  | aimless => exact .refl _ e x w
  | chases target targetLoc name =>
      unfold chase
      split <;> simp [meleeScope]
  | waits => simpa [meleeScope] using standing
  | strikes target targetLoc identity targetIdentity health aimed located near ready hurt struck =>
      exact standing.trans (strike_within _ w' e x target combat identity targetIdentity health struck)

theorem inCrisis_within (crisis : Crisis F) (status : NodeStatus)
    (ran : w.conditionInCrisis crisis e = some (status, w')) : Within crisisScope e x w w' := by
  obtain ⟨needs, -, checks⟩ := inCrisis_cases ran
  cases checks <;> simp [crisisScope]

omit [Scalar F] in
theorem isScheduled_within (crisis : Crisis F) (status : NodeStatus)
    (ran : w.conditionIsScheduled crisis e = some (status, w')) : Within crisisScope e x w w' := by
  obtain ⟨needs, -, checks⟩ := isScheduled_cases ran
  cases checks <;> simp [crisisScope]

theorem spawnCamp_within (s : Scope) (loc : LocationComp F) (name : String)
    (type : AffordanceType) (valid : w.reg.valid x = true) (handles : .handles ∈ s.all)
    (grid : .grid ∈ s.all) : Within s e x w (w.spawnCamp loc name type) := by
  have other := w.reg.ne_nextEntity valid
  have created := within_create (s := s) (e := e) other handles
  unfold spawnCamp
  dsimp only
  rw [within_updateEntityPosition _ _ (.inl other) grid]
  simpa [other] using created

theorem findFurniture_within (draw : BehaviorDraw) (status : NodeStatus)
    (valid : w.reg.valid x = true)
    (ran : w.actionFindFurniture e draw = some (status, w')) : Within searchScope e x w w' := by
  obtain ⟨-, needs, job, loc, toil, -, -, -, -, searches⟩ := findFurniture_cases ran
  cases searches with
  | keeps => exact .refl _ e x w
  | aims => simp [aimJob, searchScope]
  | camps name type =>
      have camped : Within searchScope e x w (w.spawnCamp loc name type) :=
        w.spawnCamp_within e x _ loc name type valid (by simp [searchScope]) (by simp [searchScope])
      simpa [aimJob, searchScope] using camped
  | stays => simp [aimJob, searchScope]

omit [Scalar F] in
theorem occupyFurniture_within (needs : NeedsComp F) (loc : LocationComp F) (toil : ToilComp)
    (furniture : Entity) (resident : w.Resident x)
    (occupied : w.occupyFurniture e needs loc toil furniture = some w') :
    Within interactScope e x w w' := by
  obtain ⟨aff, place, -, -, rfl⟩ := occupyFurniture_eq occupied
  have taken := w.within_setOccupiedBy_resident e x interactScope furniture (some e) resident
  simpa [settle, interactScope] using taken

omit [Scalar F] in
theorem leaveFurniture_within (needs : NeedsComp F) (resident : w.Resident x)
    (left : w.Leaves needs w') : Within interactScope e x w w' := by
  cases left with
  | floor => exact .refl interactScope e x w
  | seat f aff seated stands =>
      exact w.within_setOccupiedBy_resident e x interactScope f none resident
  | camp f aff seated stands =>
      have freed := w.within_setOccupiedBy_resident e x interactScope f none resident
      have other : x ≠ f := by
        rintro rfl
        simp [resident.unfurnished] at stands
      exact freed.trans (within_remove _ other (by simp [interactScope]))

omit [Scalar F] in
theorem leaveFurniture_location (needs : NeedsComp F) (resident : w.Resident x)
    (left : w.Leaves needs w') : w'.reg.location x = w.reg.location x := by
  cases left with
  | floor => rfl
  | seat => rfl
  | camp f aff seated stands =>
      have other : x ≠ f := by
        rintro rfl
        simp [resident.unfurnished] at stands
      simp [setOccupiedBy, Registry.destroy, other]

theorem interactFurniture_within (draw : BehaviorDraw) (status : NodeStatus)
    (resident : w.Resident x)
    (ran : w.actionInteractFurniture e draw = some (status, w')) :
    Within interactScope e x w w' := by
  obtain ⟨needs, loc, toil, job, identity, -, acted⟩ := interactFurniture_cases ran
  cases acted with
  | settles seeks settled =>
      cases settled with
      | seat f found taken =>
          exact w.occupyFurniture_within w' e x needs loc toil f resident taken
      | camp name type full wild suits taken =>
          have camped : Within interactScope e x w (w.spawnCamp loc name type) :=
            w.spawnCamp_within e x _ loc name type resident.valid (by simp [interactScope])
              (by simp [interactScope])
          exact camped.trans (occupyFurniture_within _ w' e x needs loc toil _
            (camped.resident rfl resident) taken)
      | floor => simp [settle, interactScope]
  | recharges => simp [interactScope]
  | resolves amount left rests recovers full leaves =>
      have first := w.leaveFurniture_within left e x _ resident leaves
      simpa [interactScope] using first

end World

def SurvivalLeaf.scope : SurvivalLeaf → Scope
  | .hasCombatTarget => World.combatConditionScope
  | .isLowHealth | .isAggroHigh | .canWander => ⟨[], []⟩
  | .flee | .moveToTarget | .wander => World.travelScope
  | .inhibitOrAttack => World.aggroScope
  | .meleeAttack => World.meleeScope
  | .isHungry | .isFatigued | .isScheduledEat | .isScheduledSleep => World.crisisScope
  | .findFurniture => World.searchScope
  | .interactFurniture => World.interactScope

theorem runLeaf_apart_within (e x : Entity) (draw : BehaviorDraw) (leaf : SurvivalLeaf)
    (status : NodeStatus) (w w' : World F) (searches : leaf ≠ .findFurniture)
    (interacts : leaf ≠ .interactFurniture) (ran : runLeaf e draw leaf w = some (status, w')) :
    Within leaf.scope e x w w' := by
  cases leaf with
  | hasCombatTarget => exact w.hasCombatTarget_within w' e x status ran
  | isLowHealth => exact .of_eq (w.isLowHealth_pure e w' status ran).1
  | flee => exact w.flee_within w' e x draw status ran
  | isAggroHigh => exact .of_eq (w.isAggroHigh_pure e w' status ran).1
  | inhibitOrAttack => exact w.inhibitOrAttack_within w' e x status ran
  | meleeAttack => exact w.meleeAttack_within w' e x status ran
  | isHungry => exact w.inCrisis_within w' e x hungerCrisis status ran
  | isFatigued => exact w.inCrisis_within w' e x fatigueCrisis status ran
  | isScheduledEat => exact w.isScheduled_within w' e x hungerCrisis status ran
  | isScheduledSleep => exact w.isScheduled_within w' e x fatigueCrisis status ran
  | findFurniture => exact absurd rfl searches
  | moveToTarget => exact w.moveToTarget_within w' e x status ran
  | interactFurniture => exact absurd rfl interacts
  | canWander =>
      change w.conditionCanWander e = _ at ran
      unfold World.conditionCanWander at ran
      split at ran <;>
        (obtain ⟨-, rfl⟩ := Prod.mk.inj (Option.some.inj ran); exact .refl _ e x w)
  | wander => exact w.wander_within w' e x draw status ran

theorem runLeaf_within (e x : Entity) (draw : BehaviorDraw) (leaf : SurvivalLeaf)
    (status : NodeStatus) (w w' : World F) (resident : w.Resident x)
    (ran : runLeaf e draw leaf w = some (status, w')) : Within leaf.scope e x w w' := by
  by_cases searches : leaf = .findFurniture
  next =>
    subst searches
    exact w.findFurniture_within w' e x draw status resident.valid ran
  next =>
    by_cases interacts : leaf = .interactFurniture
    next =>
      subst interacts
      exact w.interactFurniture_within w' e x draw status resident ran
    next => exact runLeaf_apart_within e x draw leaf status w w' searches interacts ran

def treeScope : Scope :=
  ⟨[.needs, .location, .job, .toil, .activity, .pathfinding, .velocity, .combat, .aggro, .busy],
    [.health, .combat, .busy, .handles, .grid, .tickets, .calls .reportJobStatus,
      .calls .threatDetected, .calls .reportCombatEvent]⟩

theorem leaf_within_tree (leaf : SurvivalLeaf) : leaf.scope.within treeScope = true := by
  cases leaf <;> decide

theorem tick_within (e x : Entity) (draw : BehaviorDraw) (node : Node SurvivalLeaf)
    (status : NodeStatus) (w w' : World F) (resident : w.Resident x)
    (ticked : tick (runLeaf e draw) node w = some (status, w')) : Within treeScope e x w w' := by
  have steps := tick_steps node w w' status ticked
  clear ticked
  induction steps with
  | refl => exact .refl _ e x w
  | tail _ step ih =>
      obtain ⟨leaf, decided, -, ran⟩ := step
      have here := runLeaf_within e x draw leaf decided _ _ (ih.resident rfl resident) ran
      exact ih.trans (here.mono (leaf_within_tree leaf))

theorem World.behaviorTree_within (w w' : World F) (e x : Entity) (draw : BehaviorDraw)
    (resident : w.Resident x) (visited : w.behaviorTree e draw = some w') :
    Within treeScope e x w w' := by
  unfold World.behaviorTree at visited
  split at visited
  next => exact .of_eq (Option.some.inj visited).symm
  next =>
    obtain ⟨⟨status, last⟩, ticked, rfl⟩ := Option.map_eq_some_iff.mp visited
    exact tick_within e x draw survivalTree status w last resident ticked

end MundusVivens
