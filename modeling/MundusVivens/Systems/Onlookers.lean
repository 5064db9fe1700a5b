import MundusVivens.Systems.Combat
import MundusVivens.World.Body

set_option autoImplicit false

/-!
# Onlookers

A visit of the survival tree concerns one entity. The bodies of all others stay
as they are, but a hit takes the busy tag of its target, and furniture comes and
goes. No visit makes an entity busy.
-/

namespace MundusVivens

open Scalar BehaviorTree

variable {F : Type}

-- The body is as before, apart from a busy tag that may be lost; or it is no worker's body.
def LooksOn (x : Entity) (w w' : World F) : Prop :=
  w'.body x = w.body x ∨ w'.body x = { w.body x with busy := none } ∨
    (w'.reg.job x = none ∧ w'.reg.busy x = none)

structure Concerns (e : Entity) (w w' : World F) : Prop where
  others : ∀ x, x ≠ e → LooksOn x w w'
  untagged : ∀ x, w.reg.busy x = none → w'.reg.busy x = none
  map : w'.map = w.map

theorem LooksOn.trans {x : Entity} {w m w' : World F} (first : LooksOn x w m)
    (second : LooksOn x m w') : LooksOn x w w' := by
  rcases second with same | lost | gone
  · rcases first with same' | lost' | ⟨job, busy⟩
    · exact .inl (same.trans same')
    · exact .inr (.inl (same.trans lost'))
    · exact .inr (.inr ⟨(congrArg Body.job same).trans job, (congrArg Body.busy same).trans busy⟩)
  · rcases first with same' | lost' | ⟨job, -⟩
    · exact .inr (.inl (by rw [lost, same']))
    · exact .inr (.inl (by rw [lost, lost']))
    · exact .inr (.inr ⟨(congrArg Body.job lost).trans job, congrArg Body.busy lost⟩)
  · exact .inr (.inr gone)

namespace Concerns

variable {e : Entity} {w m w' : World F}

theorem refl (w : World F) : Concerns e w w := ⟨fun _ _ => .inl rfl, fun _ same => same, rfl⟩

theorem trans (first : Concerns e w m) (second : Concerns e m w') : Concerns e w w' where
  others := fun x other => (first.others x other).trans (second.others x other)
  untagged := fun x free => second.untagged x (first.untagged x free)
  map := second.map.trans first.map

theorem of_bodies (same : ∀ x, w'.body x = w.body x) (map : w'.map = w.map) : Concerns e w w' :=
  ⟨fun x _ => .inl (same x), fun x free => (congrArg Body.busy (same x)).trans free, map⟩

theorem of_own (others : ∀ x, x ≠ e → w'.body x = w.body x)
    (busy : w'.reg.busy e = w.reg.busy e) (map : w'.map = w.map) : Concerns e w w' where
  map := map
  others := fun x other => .inl (others x other)
  untagged := fun x free => by
    by_cases own : x = e
    next =>
      subst own
      exact busy.trans free
    next => exact (congrArg Body.busy (others x own)).trans free

variable (before : Concerns e w m)

include before

theorem bodies (same : ∀ x, w'.body x = m.body x) (map : w'.map = m.map) : Concerns e w w' :=
  before.trans (.of_bodies same map)

theorem setJob {job : JobComp F} : Concerns e w (m.setJob e job) :=
  before.trans (.of_own (fun x other => by simp [World.body_setJob, other]) rfl rfl)

theorem setToil {toil : ToilComp} : Concerns e w (m.setToil e toil) :=
  before.trans (.of_own (fun x other => by simp [World.body_setToil, other]) rfl rfl)

theorem setNeeds {needs : NeedsComp F} : Concerns e w (m.setNeeds e needs) :=
  before.trans (.of_own (fun x other => by simp [World.body_setNeeds, other]) rfl rfl)

theorem setLocation {loc : LocationComp F} : Concerns e w (m.setLocation e loc) :=
  before.trans (.of_own (fun x other => by simp [World.body_setLocation, other]) rfl rfl)

theorem modifyVelocity {f : VelocityComp F → VelocityComp F} :
    Concerns e w (m.modifyVelocity e f) :=
  before.trans (.of_own (fun x other => by simp [World.body_modifyVelocity, other]) rfl rfl)

theorem clearPath [Scalar F] : Concerns e w (m.clearPath e) :=
  before.trans (.of_own (fun x other => by simp [World.body_clearPath, other]) rfl rfl)

theorem setActivity {text : String} : Concerns e w (m.setActivity e text) :=
  before.bodies (fun x => by simp) rfl

theorem setAggro {aggro : AggroComp} : Concerns e w (m.setAggro e aggro) :=
  before.bodies (fun x => by simp) rfl

theorem setCombat {y : Entity} {combat : CombatComp F} : Concerns e w (m.setCombat y combat) :=
  before.bodies (fun x => by simp) rfl

theorem setOccupiedBy {furniture : Entity} {occupant : Option Entity} :
    Concerns e w (m.setOccupiedBy furniture occupant) :=
  before.bodies (fun x => by simp) rfl

theorem issue {request : Request F} : Concerns e w (m.issue request) :=
  before.bodies (fun x => by simp) rfl

theorem eraseBusy {y : Entity} : Concerns e w (m.eraseBusy y) := by
  refine before.trans ⟨fun x _ => ?_, fun x free => ?_, rfl⟩
  · have body := m.body_eraseBusy y x
    split at body
    next => exact .inr (.inl body)
    next => exact .inl body
  · have body := congrArg Body.busy (m.body_eraseBusy y x)
    split at body
    next => exact body
    next => exact body.trans free

theorem destroy {y : Entity} : Concerns e w { m with reg := m.reg.destroy y } := by
  refine before.trans ⟨fun x _ => ?_, fun x free => ?_, rfl⟩
  · have body := m.body_destroy y x
    split at body
    next => exact .inr (.inr ⟨congrArg Body.job body, congrArg Body.busy body⟩)
    next => exact .inl body
  · have body := congrArg Body.busy (m.body_destroy y x)
    split at body
    next => exact body
    next => exact body.trans free

end Concerns

namespace World

variable (w w' : World F) (e x : Entity) [Scalar F]

theorem spawnCamp_body (loc : LocationComp F) (name : String) (type : AffordanceType) :
    (∀ x, x ≠ w.reg.nextEntity → (w.spawnCamp loc name type).body x = w.body x) ∧
      ∃ there, (w.spawnCamp loc name type).body w.reg.nextEntity =
        { Body.none with location := there } := by
  constructor
  · intro x old
    unfold spawnCamp
    dsimp only
    rw [body_updateEntityPosition _ _ _ _ _ old]
    simp [body_setLocation, old, body_create]
  · unfold spawnCamp
    dsimp only
    obtain ⟨there, placed, -⟩ := updateEntityPosition_own
      (((({ w with reg := w.reg.create } : World F).setIdentity w.reg.nextEntity
        ⟨0, name⟩).setLocation w.reg.nextEntity
          { newLocation loc.locationName loc.x loc.y loc.z with zoneId := loc.zoneId }).setAffordance
            w.reg.nextEntity ⟨type, none, true⟩) w.reg.nextEntity loc.x loc.z
    refine ⟨there, placed.trans ?_⟩
    simp [body_setLocation, body_create]

theorem spawnCamp_concerns (loc : LocationComp F) (name : String) (type : AffordanceType) :
    Concerns e w (w.spawnCamp loc name type) := by
  obtain ⟨old, there, camp⟩ := w.spawnCamp_body loc name type
  have looks (x : Entity) : LooksOn x w (w.spawnCamp loc name type) := by
    by_cases new : x = w.reg.nextEntity
    next =>
      subst new
      exact .inr (.inr ⟨congrArg Body.job camp, congrArg Body.busy camp⟩)
    next => exact .inl (old x new)
  refine ⟨fun x _ => looks x, fun x free => ?_, ?_⟩
  rotate_left
  · unfold spawnCamp
    exact updateEntityPosition_map _ _ _ _
  rcases looks x with same | lost | gone
  · exact (congrArg Body.busy same).trans free
  · exact congrArg Body.busy lost
  · exact gone.2

theorem inCrisis_concerns (crisis : Crisis F) (status : NodeStatus)
    (ran : w.conditionInCrisis crisis e = some (status, w')) : Concerns e w w' := by
  obtain ⟨needs, -, checks⟩ := inCrisis_cases ran
  cases checks with
  | ongoing => exact .refl w
  | enters => exact (Concerns.refl w).setNeeds.eraseBusy.clearPath.issue.setJob.setToil
  | spared => exact .refl w

omit [Scalar F] in
theorem isScheduled_concerns (crisis : Crisis F) (status : NodeStatus)
    (ran : w.conditionIsScheduled crisis e = some (status, w')) : Concerns e w w' := by
  obtain ⟨needs, -, checks⟩ := isScheduled_cases ran
  cases checks with
  | ongoing => exact .refl w
  | begins => exact (Concerns.refl w).setNeeds
  | skips => exact .refl w

theorem findFurniture_concerns (draw : BehaviorDraw) (status : NodeStatus)
    (ran : w.actionFindFurniture e draw = some (status, w')) : Concerns e w w' := by
  obtain ⟨-, needs, job, loc, toil, -, -, -, -, searches⟩ := findFurniture_cases ran
  cases searches with
  | keeps => exact .refl w
  | aims => exact (Concerns.refl w).setJob.setToil
  | camps name type => exact (w.spawnCamp_concerns e loc name type).setJob.setToil
  | stays => exact (Concerns.refl w).setJob.setToil

theorem moveToTarget_concerns (status : NodeStatus)
    (ran : w.actionMoveToTarget e = some (status, w')) : Concerns e w w' := by
  obtain ⟨loc, job, toil, -, -, -, travels⟩ := moveToTarget_cases ran
  cases travels with
  | arrives => exact .refl w
  | setsOut => exact (Concerns.refl w).setToil.setActivity.clearPath
  | walks => exact .refl w

omit [Scalar F] in
theorem occupyFurniture_concerns (needs : NeedsComp F) (loc : LocationComp F) (toil : ToilComp)
    (furniture : Entity) (occupied : w.occupyFurniture e needs loc toil furniture = some w') :
    Concerns e w w' := by
  obtain ⟨aff, place, -, -, rfl⟩ := occupyFurniture_eq occupied
  exact (Concerns.refl w).setOccupiedBy.setNeeds.setLocation.setToil.setActivity

omit [Scalar F] in
theorem leaveFurniture_concerns (needs : NeedsComp F) (left : w.Leaves needs w') :
    Concerns e w w' := by
  cases left with
  | floor => exact .refl w
  | seat => exact (Concerns.refl w).setOccupiedBy
  | camp => exact (Concerns.refl w).setOccupiedBy.destroy.bodies (fun _ => rfl) rfl

theorem interactFurniture_concerns (draw : BehaviorDraw) (status : NodeStatus)
    (ran : w.actionInteractFurniture e draw = some (status, w')) : Concerns e w w' := by
  obtain ⟨needs, loc, toil, job, identity, -, acted⟩ := interactFurniture_cases ran
  cases acted with
  | settles seeks settled =>
      cases settled with
      | seat f found taken => exact w.occupyFurniture_concerns w' e needs loc toil f taken
      | camp name type full wild suits taken =>
          exact (w.spawnCamp_concerns e loc name type).trans
            (occupyFurniture_concerns _ w' e needs loc toil _ taken)
      | floor => exact (Concerns.refl w).setToil.setActivity
  | recharges => exact (Concerns.refl w).setNeeds
  | resolves amount left rests recovers full leaves =>
      exact (w.leaveFurniture_concerns left e _ leaves).setNeeds.issue.setJob.setToil.setActivity

omit [Scalar F] in
theorem hasCombatTarget_concerns (status : NodeStatus)
    (ran : w.conditionHasCombatTarget e = some (status, w')) : Concerns e w w' := by
  cases hasCombatTarget_cases ran with
  | unarmed => exact .refl w
  | buries => exact (Concerns.refl w).setCombat
  | aims => exact .refl w

theorem flee_concerns (draw : BehaviorDraw) (status : NodeStatus)
    (ran : w.actionFlee e draw = some (status, w')) : Concerns e w w' := by
  obtain ⟨loc, combat, job, toil, -, -, -, -, flees⟩ := flee_cases ran
  cases flees with
  | aimless => exact .refl w
  | redirects => exact (Concerns.refl w).setJob.clearPath.setToil.setActivity
  | runs => exact .refl w

theorem inhibitOrAttack_concerns (status : NodeStatus)
    (ran : w.actionInhibitOrAttack e = some (status, w')) : Concerns e w w' := by
  have asked (aggro : AggroComp) (npcId targetNpcId : UInt32) :
      Concerns e w (w.inhibit e aggro npcId targetNpcId).1 := by
    unfold inhibit
    split
    next => exact .refl w
    next => exact (Concerns.refl w).issue
  cases inhibitOrAttack_cases ran with
  | unaware => exact .refl w
  | forgets => exact (Concerns.refl w).setAggro
  | attacks => exact (Concerns.refl w).setCombat.setAggro.setToil
  | givesUp aggro threat identity threatIdentity => exact (asked aggro identity.npcId threatIdentity.npcId).setAggro
  | holds aggro toil threat identity threatIdentity =>
      exact (asked aggro identity.npcId threatIdentity.npcId).setAggro.setToil.setActivity

omit [Scalar F] in
theorem retaliate_body (attacker target : Entity) :
    (w.retaliate attacker target).body x = w.body x := by
  unfold retaliate
  split
  next => split <;> simp
  next => rfl

theorem strike_body (target : Entity) (combat : CombatComp F)
    (identity targetIdentity : IdentityComp) (health : HealthComp F)
    (struck : w.strike e target combat identity targetIdentity health = some w') :
    w'.body x = if x = target then { w.body x with busy := none } else w.body x := by
  have landed : (w.landHit e target combat identity targetIdentity health).body x =
      if x = target then { w.body x with busy := none } else w.body x := by
    unfold landHit
    dsimp only
    rw [retaliate_body, body_eraseBusy, body_issue, body_setActivity, body_setCombat,
      body_setHealth]
  rcases strike_cases struck with ⟨-, rfl⟩ | ⟨-, mine, -, rfl⟩
  · exact landed
  · rw [body_setCombat, body_setHealth, landed]

omit [Scalar F] in
theorem setCombat_map (combat : CombatComp F) : (w.setCombat e combat).map = w.map := rfl

omit [Scalar F] in
theorem setHealth_map (health : HealthComp F) : (w.setHealth e health).map = w.map := rfl

omit [Scalar F] in
theorem retaliate_map (attacker target : Entity) : (w.retaliate attacker target).map = w.map := by
  unfold retaliate
  split
  next => split <;> rfl
  next => rfl

theorem strike_map (target : Entity) (combat : CombatComp F)
    (identity targetIdentity : IdentityComp) (health : HealthComp F)
    (struck : w.strike e target combat identity targetIdentity health = some w') :
    w'.map = w.map := by
  have landed : (w.landHit e target combat identity targetIdentity health).map = w.map := by
    unfold landHit
    dsimp only
    rw [retaliate_map]
    rfl
  rcases strike_cases struck with ⟨-, rfl⟩ | ⟨-, mine, -, rfl⟩
  · exact landed
  · rw [setCombat_map, setHealth_map, landed]

theorem meleeAttack_concerns (status : NodeStatus)
    (ran : w.actionMeleeAttack e = some (status, w')) : Concerns e w w' := by
  obtain ⟨loc, combat, job, toil, -, -, -, -, attacks⟩ := meleeAttack_cases ran
  have stands : Concerns e w (w.standAndFight e toil) := by
    unfold standAndFight
    split
    next => exact (Concerns.refl w).setToil.modifyVelocity
    next => exact .refl w
  cases attacks with
  | aimless => exact .refl w
  | chases target targetLoc name =>
      unfold chase
      split
      next => exact (Concerns.refl w).setJob.clearPath.setToil.setActivity
      next => exact .refl w
  | waits => exact stands.setCombat.setActivity
  | strikes target targetLoc identity targetIdentity health aimed located near ready hurt struck =>
      have body (x : Entity) := strike_body _ w' e x target combat identity targetIdentity health
        struck
      refine stands.trans ⟨fun x _ => ?_, fun x free => ?_, strike_map _ w' e target combat identity
        targetIdentity health struck⟩
      · have own := body x
        split at own
        next => exact .inr (.inl own)
        next => exact .inl own
      · have own := congrArg Body.busy (body x)
        split at own
        next => exact own
        next => exact own.trans free

theorem wander_concerns (draw : BehaviorDraw) (status : NodeStatus)
    (ran : w.actionWander e draw = some (status, w')) : Concerns e w w' := by
  obtain ⟨loc, job, toil, -, -, -, wanders⟩ := wander_cases ran
  cases wanders with
  | walks | halts | yields => exact .refl w
  | lingers => exact (Concerns.refl w).setToil
  | ends => exact (Concerns.refl w).setJob.setToil.setActivity
  | rests => exact (Concerns.refl w).setActivity
  | setsOut => exact (Concerns.refl w).setJob.clearPath.setToil.setActivity

theorem busyAmbient_body (deltaTime : F) :
    (∀ x, x ≠ e → (w.busyAmbient deltaTime e).body x = w.body x) ∧
      (w.busyAmbient deltaTime e = w ∨ ∃ toil action velocity tag, w.reg.toil e = some toil ∧
        (w.busyAmbient deltaTime e).body e =
          { w.body e with
            toil := some { toil with currentAction := action }
            velocity := velocity
            busy := (w.reg.busy e).map tag }) := by
  unfold busyAmbient
  split
  next busy _ toil _ _ tagged _ hasToil _ _ =>
    let aged (tag : BusyTag F) : BusyTag F :=
      { tag with animTimer := ambientTimer tag.reason (tag.animTimer + deltaTime) }
    let action := (ambientTexts busy.reason toil.state).2
    dsimp only
    unfold holdStill
    split
    next =>
      refine ⟨fun x other => ?_, .inr ⟨toil, action, some .still, aged, hasToil, ?_⟩⟩
      · simp [body_setToil, body_modifyBusy, body_setVelocity, other]
      · rw [body_setToil, if_pos rfl, body_setActivity, body_modifyBusy, if_pos rfl,
          body_setVelocity, if_pos rfl]
        rfl
    next =>
      refine ⟨fun x other => ?_, .inr ⟨toil, action, w.reg.velocity e, aged, hasToil, ?_⟩⟩
      · simp [body_setToil, body_modifyBusy, other]
      · rw [body_setToil, if_pos rfl, body_setActivity, body_modifyBusy, if_pos rfl]
        rfl
  next => exact ⟨fun _ _ => rfl, .inl rfl⟩

theorem systemDeath_body :
    (∀ x, x ≠ e → (w.systemDeath e).body x = w.body x) ∧
      (w.systemDeath e = w ∨ ∃ toil velocity path, (∀ t, toil = some t → t.state = .idle) ∧
        (w.systemDeath e).body e =
          { w.body e with toil := toil, velocity := velocity, pathfinding := path }) := by
  have stopped : (∀ x, x ≠ e → (w.stopToil e).body x = w.body x) ∧
      ∃ toil, (∀ t, toil = some t → t.state = .idle) ∧
        (w.stopToil e).body e = { w.body e with toil := toil } := by
    unfold stopToil
    split
    next toil active =>
      split
      next idle =>
        refine ⟨fun _ _ => rfl, w.reg.toil e, fun t same => ?_, rfl⟩
        rw [← Option.some.inj (active.symm.trans same)]
        exact idle
      next =>
        refine ⟨fun x other => by simp [body_setToil, other], some ⟨.idle, "Dead", 0⟩, ?_, ?_⟩
        · intro t same
          rw [← Option.some.inj same]
        · rw [body_setToil, if_pos rfl]
    next absent =>
      refine ⟨fun _ _ => rfl, w.reg.toil e, fun t same => ?_, rfl⟩
      cases absent.symm.trans same
  have dropped (m : World F) : (∀ x, x ≠ e → (m.dropWaypoints e).body x = m.body x) ∧
      ∃ path, (m.dropWaypoints e).body e = { m.body e with pathfinding := path } := by
    unfold dropWaypoints
    split
    next path _ =>
      refine ⟨fun x other => by simp [body_setPathfinding, other],
        some { path with waypoints := [] }, ?_⟩
      rw [body_setPathfinding, if_pos rfl]
    next => exact ⟨fun _ _ => rfl, m.reg.pathfinding e, rfl⟩
  have disarmed (m : World F) (x : Entity) : (m.dropTarget e).body x = m.body x := by
    unfold dropTarget
    split <;> simp
  unfold systemDeath
  split
  next =>
    split
    next =>
      dsimp only
      obtain ⟨others, toil, idle, own⟩ := stopped
      obtain ⟨others', path, own'⟩ := dropped ((w.stopToil e).modifyVelocity e fun _ => .still)
      refine ⟨fun x other => ?_, .inr ⟨toil, (w.stopToil e).reg.velocity e |>.map fun _ => .still,
        path, idle, ?_⟩⟩
      · rw [body_eraseBehaviorTree, disarmed, body_setActivity, others' x other,
          body_modifyVelocity, if_neg other, others x other]
      · rw [body_eraseBehaviorTree, disarmed, body_setActivity, own', body_modifyVelocity,
          if_pos rfl, own]
    next => exact ⟨fun _ _ => rfl, .inl rfl⟩
  next => exact ⟨fun _ _ => rfl, .inl rfl⟩

theorem survivalOverride_body :
    (∀ x, x ≠ e → (w.survivalOverride e).body x = w.body x) ∧
      (w.survivalOverride e).isResolving e = w.isResolving e ∧
        ∃ needs, (w.survivalOverride e).body e = { w.body e with needs := needs } := by
  unfold survivalOverride
  split
  next needs _ toil job hasNeeds _ _ _ =>
    refine ⟨fun x other => by simp [body_setNeeds, other], by simp [isResolving, setNeeds, hasNeeds], ?_⟩
    dsimp only
    rw [body_setNeeds, if_pos rfl]
    exact ⟨_, rfl⟩
  next => exact ⟨fun _ _ => rfl, rfl, w.reg.needs e, rfl⟩

theorem perception_body : (w.perception e).body x = w.body x := by
  unfold perception
  split
  next =>
    split
    next => simp
    next => split <;> simp
  next => rfl

end World

variable [Scalar F] (e : Entity) (draw : BehaviorDraw)

theorem runLeaf_concerns (leaf : SurvivalLeaf) (w w' : World F) (status : NodeStatus)
    (ran : runLeaf e draw leaf w = some (status, w')) : Concerns e w w' := by
  cases leaf with
  | hasCombatTarget => exact w.hasCombatTarget_concerns w' e status ran
  | isLowHealth =>
      rw [(w.isLowHealth_pure e w' status ran).1]
      exact .refl w
  | flee => exact w.flee_concerns w' e draw status ran
  | isAggroHigh =>
      rw [(w.isAggroHigh_pure e w' status ran).1]
      exact .refl w
  | inhibitOrAttack => exact w.inhibitOrAttack_concerns w' e status ran
  | meleeAttack => exact w.meleeAttack_concerns w' e status ran
  | isHungry => exact w.inCrisis_concerns w' e hungerCrisis status ran
  | isFatigued => exact w.inCrisis_concerns w' e fatigueCrisis status ran
  | isScheduledEat => exact w.isScheduled_concerns w' e hungerCrisis status ran
  | isScheduledSleep => exact w.isScheduled_concerns w' e fatigueCrisis status ran
  | findFurniture => exact w.findFurniture_concerns w' e draw status ran
  | moveToTarget => exact w.moveToTarget_concerns w' e status ran
  | interactFurniture => exact w.interactFurniture_concerns w' e draw status ran
  | canWander =>
      simp only [runLeaf, World.conditionCanWander] at ran
      split at ran <;> exact (Prod.mk.inj (Option.some.inj ran)).2 ▸ .refl w
  | wander => exact w.wander_concerns w' e draw status ran

theorem World.behaviorTree_concerns (w w' : World F) (visited : w.behaviorTree e draw = some w') :
    Concerns e w w' := by
  unfold World.behaviorTree at visited
  split at visited
  next => exact Option.some.inj visited ▸ .refl w
  next =>
    obtain ⟨⟨status, last⟩, ticked, rfl⟩ := Option.map_eq_some_iff.mp visited
    have steps := tick_steps survivalTree w last status ticked
    clear ticked visited
    induction steps with
    | refl => exact .refl w
    | tail _ step ih =>
        obtain ⟨leaf, status, -, ran⟩ := step
        exact ih.trans (runLeaf_concerns e draw leaf _ _ status ran)

end MundusVivens
