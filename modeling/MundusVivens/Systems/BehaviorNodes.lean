import MundusVivens.Shared.BehaviorTree
import MundusVivens.Systems.Social

set_option autoImplicit false

/-!
# The survival tree

The leaves of `BehaviorTrees.h`, one definition each, and the tree that
`CreateSurvivalTree` builds from them.
-/

namespace MundusVivens

open Scalar BehaviorTree

variable {F : Type} [Scalar F]

-- The order of the furniture view, and the values of `rand()` during the tick.
structure BehaviorDraw where
  rank : Entity → Nat
  rand : Nat → Nat

abbrev Ticked (F : Type) := NodeStatus × World F

-- What distinguishes the hunger from the fatigue crisis.
structure Crisis (F : Type) where
  type : SurvivalType
  level : NeedsComp F → F
  jobId : UInt64
  intent : String
  category : JobCategory
  context : String

def hungerCrisis : Crisis F := ⟨.hunger, (·.hunger), 999000, "식사 중", .eat, "survival_hunger"⟩

def fatigueCrisis : Crisis F :=
  ⟨.fatigue, (·.fatigue), 999001, "취침 중", .sleep, "survival_fatigue"⟩

namespace World

def isWilderness (name : String) : Bool := name = "Wilderness" || name = "황무지"

-- Flag the crisis, free the entity and give it the local job.
def enterCrisis (crisis : Crisis F) (w : World F) (e : Entity) (needs : NeedsComp F) :
    Option (Ticked F) := do
  let flagged := w.setNeeds e
    { needs with isResolvingSurvival := true, currentSurvivalType := crisis.type }
  let free := (flagged.eraseBusy e).clearPath e
  let identity ← free.reg.identity e
  let job ← free.reg.job e
  let _ ← free.reg.toil e
  let reported := free.issue (.reportJobStatus identity.npcId job.jobId 2 .environmentChange
    crisis.context w.clock.tick .log)
  let assigned := reported.setJob e
    { job with
      jobId := crisis.jobId
      intent := crisis.intent
      category := crisis.category
      isActive := true
      targetLocation := ""
      targetX := zero
      targetY := zero
      targetZ := zero }
  some (.success, assigned.setToil e ⟨.idle, "", 0⟩)

def conditionInCrisis (crisis : Crisis F) (w : World F) (e : Entity) : Option (Ticked F) := do
  let needs ← w.reg.needs e
  if needs.isResolvingSurvival then
    some (if needs.currentSurvivalType = crisis.type then .success else .failure, w)
  else if lt (crisis.level needs) (lit 15) then w.enterCrisis crisis e needs
  else some (.failure, w)

def conditionIsHungry (w : World F) (e : Entity) : Option (Ticked F) := w.conditionInCrisis hungerCrisis e

def conditionIsFatigued (w : World F) (e : Entity) : Option (Ticked F) :=
  w.conditionInCrisis fatigueCrisis e

def conditionIsScheduled (crisis : Crisis F) (w : World F) (e : Entity) : Option (Ticked F) := do
  let needs ← w.reg.needs e
  if needs.isResolvingSurvival then
    some (if needs.currentSurvivalType = crisis.type then .success else .failure, w)
  else do
    let job ← w.reg.job e
    let toil ← w.reg.toil e
    let loc ← w.reg.location e
    if job.isActive && job.category = crisis.category && toil.state = .working &&
        loc.locationName = job.targetLocation then
      some (.success, w.setNeeds e
        { needs with isResolvingSurvival := true, currentSurvivalType := crisis.type })
    else some (.failure, w)

def conditionIsScheduledEat (w : World F) (e : Entity) : Option (Ticked F) :=
  w.conditionIsScheduled hungerCrisis e

def conditionIsScheduledSleep (w : World F) (e : Entity) : Option (Ticked F) :=
  w.conditionIsScheduled fatigueCrisis e

def serves (survival : SurvivalType) (type : AffordanceType) : Bool :=
  match survival with
  | .hunger => type = .eat || type = .drink || type = .sit
  | .fatigue => type = .sleep || type = .sit
  | .none => false

-- The nearest free furniture that serves the crisis, with its distance.
def nearestFurniture (w : World F) (needs : NeedsComp F) (loc : LocationComp F)
    (rank : Entity → Nat) : F × Option (LocationComp F) :=
  (w.view rank fun e => (w.reg.affordance e).isSome && (w.reg.location e).isSome).foldl
    (fun best furniture =>
      match w.reg.affordance furniture, w.reg.location furniture with
      | some aff, some furnLoc =>
          if serves needs.currentSurvivalType aff.type && aff.occupiedBy.isNone then
            let straight := hypot (furnLoc.x - loc.x) (furnLoc.z - loc.z)
            let dist :=
              if furnLoc.zoneId ≠ loc.zoneId then straight + lit 1000 else straight
            if lt dist best.1 then (dist, some furnLoc) else best
          else best
      | _, _ => best)
    (lit 999999, none)

-- Create a temporary piece of furniture where the entity stands; its handle is the one `create`
-- hands out.
def spawnCamp (w : World F) (loc : LocationComp F) (name : String) (type : AffordanceType) :
    World F :=
  let camp := w.reg.nextEntity
  let created := { w with reg := w.reg.create }
  let identified := created.setIdentity camp ⟨0, name⟩
  let located := identified.setLocation camp
    { newLocation loc.locationName loc.x loc.y loc.z with zoneId := loc.zoneId }
  let afforded := located.setAffordance camp ⟨type, none, true⟩
  afforded.updateEntityPosition camp loc.x loc.z

def aimJob (w : World F) (e : Entity) (job : JobComp F) (toil : ToilComp)
    (place : LocationComp F) : World F :=
  (w.setJob e
    { job with
      targetLocation := place.locationName
      targetX := place.x
      targetY := place.y
      targetZ := place.z }).setToil e { toil with state := .idle }

-- No furniture nearby: camp in the wilderness, and stay in the open elsewhere.
def campOrStay (w : World F) (e : Entity) (needs : NeedsComp F) (job : JobComp F)
    (toil : ToilComp) (loc : LocationComp F) : World F :=
  if isWilderness loc.locationName then
    let camped :=
      if needs.currentSurvivalType = .hunger then w.spawnCamp loc "임시 모닥불" .eat
      else w.spawnCamp loc "임시 야영지" .sleep
    camped.aimJob e job toil loc
  else w.aimJob e job toil loc

def actionFindFurniture (w : World F) (e : Entity) (draw : BehaviorDraw) : Option (Ticked F) := do
  let needs ← w.reg.needs e
  let job ← w.reg.job e
  let loc ← w.reg.location e
  let _ ← w.reg.identity e
  let toil ← w.reg.toil e
  if job.targetLocation ≠ "" && (!Scalar.eq job.targetX zero || !Scalar.eq job.targetZ zero) then
    some (.success, w)
  else
    match w.nearestFurniture needs loc draw.rank with
    | (dist, some place) =>
        if lt dist (lit 50) then some (.success, w.aimJob e job toil place)
        else some (.success, w.campOrStay e needs job toil loc)
    | (_, none) => some (.success, w.campOrStay e needs job toil loc)

def actionMoveToTarget (w : World F) (e : Entity) : Option (Ticked F) := do
  let loc ← w.reg.location e
  let job ← w.reg.job e
  let toil ← w.reg.toil e
  let _ ← w.reg.activity e
  if loc.locationName = job.targetLocation then some (.success, w)
  else if lt (hypot (job.targetX - loc.x) (job.targetZ - loc.z)) (lit 0.8) then some (.success, w)
  else if toil.state ≠ .moving then
    let moving := (w.setToil e { toil with state := .moving }).setActivity e
      ("이동 중: " ++ job.targetLocation)
    some (.running, moving.clearPath e)
  else
    match w.reg.pathfinding e with
    | some path =>
        -- The toil is `Moving` here, so the failure is never reported.
        if toil.state = .idle && path.waypoints.isEmpty then some (.failure, w)
        else some (.running, w)
    | none => some (.running, w)

-- The first free furniture of the zone that serves the crisis.
def freeFurniture (w : World F) (needs : NeedsComp F) (loc : LocationComp F)
    (rank : Entity → Nat) : Option Entity :=
  (w.view rank fun e => (w.reg.affordance e).isSome && (w.reg.location e).isSome &&
    (w.reg.identity e).isSome).find? fun furniture =>
      match w.reg.affordance furniture, w.reg.location furniture with
      | some aff, some furnLoc =>
          decide (furnLoc.zoneId = loc.zoneId) && aff.occupiedBy.isNone &&
            serves needs.currentSurvivalType aff.type
      | _, _ => false

def furnitureTexts (eating temporary : Bool) : String × String :=
  if eating then
    ("Eating", if temporary then "황무지 야영지에서 식사 중" else "식탁에 앉아 식사 중")
  else ("Sleeping", if temporary then "황무지 야영지에서 숙면 중" else "침대에서 숙면 중")

def floorTexts (eating : Bool) : String × String :=
  if eating then ("Eating_On_Floor", "자리가 부족해 바닥에서 식사 중")
  else ("Sleeping_On_Floor", "자리가 부족해 구석에서 선잠 중")

def settle (w : World F) (e : Entity) (toil : ToilComp) (texts : String × String) : World F :=
  (w.setToil e { toil with state := .working, durationTicks := 9999, currentAction := texts.1 }
    ).setActivity e texts.2

def occupyFurniture (w : World F) (e : Entity) (needs : NeedsComp F) (loc : LocationComp F)
    (toil : ToilComp) (furniture : Entity) : Option (World F) := do
  let aff ← w.reg.affordance furniture
  let furnLoc ← w.reg.location furniture
  let taken := w.setOccupiedBy furniture (some e)
  let owned := taken.setNeeds e { needs with occupiedFurniture := some furniture }
  let moved := owned.setLocation e { loc with x := furnLoc.x, y := furnLoc.y, z := furnLoc.z }
  some (moved.settle e toil
    (furnitureTexts (needs.currentSurvivalType = .hunger) aff.isTemporary))

-- The first frame at the target: find a place to eat or sleep.
def occupyPlace (w : World F) (e : Entity) (needs : NeedsComp F) (loc : LocationComp F)
    (toil : ToilComp) (rank : Entity → Nat) : Option (World F) :=
  let eating := needs.currentSurvivalType = .hunger
  match w.freeFurniture needs loc rank with
  | some furniture => w.occupyFurniture e needs loc toil furniture
  | none =>
      if isWilderness loc.locationName then
        let camped :=
          if eating then w.spawnCamp loc "임시 모닥불" .eat else w.spawnCamp loc "임시 야영지" .sleep
        camped.occupyFurniture e needs loc toil w.reg.nextEntity
      else some (w.settle e toil (floorTexts eating))

def recovery (w : World F) (needs : NeedsComp F) : Option F :=
  match needs.occupiedFurniture with
  | some furniture => do
      let aff ← w.reg.affordance furniture
      some (match needs.currentSurvivalType with
        | .hunger => if aff.isTemporary then lit 0.25 else lit 0.5
        | .fatigue =>
            if aff.isTemporary then lit 0.0625
            else if aff.type = .sit then lit 0.083
            else lit 0.125
        | .none => zero)
  | none =>
      some (match needs.currentSurvivalType with
        | .hunger => lit 0.125
        | .fatigue => lit 0.025
        | .none => zero)

def rechargeNeed (value amount : F) : F :=
  let raised := value + amount
  if lt (lit 100) raised then lit 100 else raised

def recharge (needs : NeedsComp F) (amount : F) : NeedsComp F :=
  match needs.currentSurvivalType with
  | .hunger => { needs with hunger := rechargeNeed needs.hunger amount }
  | .fatigue => { needs with fatigue := rechargeNeed needs.fatigue amount }
  | .none => needs

def isRecharged (needs : NeedsComp F) : Bool :=
  match needs.currentSurvivalType with
  | .hunger => le (lit 95) needs.hunger
  | .fatigue => le (lit 95) needs.fatigue
  | .none => false

-- Leave the furniture; a temporary piece is removed.
def leaveFurniture (w : World F) (needs : NeedsComp F) : Option (World F) :=
  match needs.occupiedFurniture with
  | none => some w
  | some furniture => do
      let aff ← w.reg.affordance furniture
      let freed := w.setOccupiedBy furniture none
      if aff.isTemporary then
        some
          { freed with
            grid := freed.grid.removeEntity furniture
            reg := freed.reg.destroy furniture }
      else some freed

-- The need is recharged: end the crisis and the local job.
def resolveCrisis (w : World F) (e : Entity) (needs : NeedsComp F) (identity : IdentityComp)
    (job : JobComp F) : Option (World F) := do
  let left ← w.leaveFurniture needs
  let resolved := left.setNeeds e
    { needs with
      occupiedFurniture := none, isResolvingSurvival := false, currentSurvivalType := .none }
  let reported := resolved.issue (.reportJobStatus identity.npcId job.jobId 0 .unknownReason
    "survival_resolved" w.clock.tick .ignore)
  some (((reported.setJob e { job with isActive := false }).setToil e ⟨.idle, "", 0⟩
    ).setActivity e "대기")

def actionInteractFurniture (w : World F) (e : Entity) (draw : BehaviorDraw) : Option (Ticked F) := do
  let needs ← w.reg.needs e
  let loc ← w.reg.location e
  let toil ← w.reg.toil e
  let job ← w.reg.job e
  let identity ← w.reg.identity e
  let _ ← w.reg.activity e
  if needs.occupiedFurniture.isNone && toil.currentAction ≠ "Eating_On_Floor" &&
      toil.currentAction ≠ "Sleeping_On_Floor" then do
    let placed ← w.occupyPlace e needs loc toil draw.rank
    some (.running, placed)
  else do
    let amount ← w.recovery needs
    let charged := recharge needs amount
    if isRecharged charged then do
      let resolved ← w.resolveCrisis e charged identity job
      some (.success, resolved)
    else some (.running, w.setNeeds e charged)

def conditionHasCombatTarget (w : World F) (e : Entity) : Option (Ticked F) :=
  match w.reg.combat e with
  | none => some (.failure, w)
  | some combat =>
      match combat.targetEntity with
      | none => some (.failure, w)
      | some target =>
          if !w.reg.valid target then some (.failure, w)
          else if w.isDead target then
            some (.failure, w.setCombat e { combat with targetEntity := none })
          else some (.success, w)

def conditionIsLowHealth (w : World F) (e : Entity) : Option (Ticked F) :=
  match w.reg.health e with
  | none => some (.failure, w)
  | some health => some (if lt health.hp (lit 30) then .success else .failure, w)

-- The target of a chase or flight that is not null and still valid.
def validTarget (w : World F) (combat : CombatComp F) : Option Entity :=
  match combat.targetEntity with
  | some target => if w.reg.valid target then some target else none
  | none => none

def mustRedirect (w : World F) (e : Entity) (loc : LocationComp F) (job : JobComp F)
    (toil : ToilComp) : Bool :=
  if toil.state ≠ .moving then true
  else
    match w.reg.pathfinding e with
    | none => true
    | some path =>
        path.waypoints.isEmpty ||
          lt (sqrt (sq (loc.x - job.targetX) + sq (loc.z - job.targetZ))) (lit 2) ||
          (w.clock.tick + (e : Int)) % 20 = 0

-- A coordinate in [-1, 1) from one value of `rand()`.
def randUnit (roll : Nat) : F := ofInt (((roll % 200 : Nat) : Int) - 100) / lit 100

-- The direction away from the target; a random one when the two coincide.
def fleeDirection (loc targetLoc : LocationComp F) (draw : BehaviorDraw) : F × F :=
  let dx := loc.x - targetLoc.x
  let dz := loc.z - targetLoc.z
  let dist := hypot dx dz
  if lt (lit 0.01) dist then (dx / dist, dz / dist)
  else
    let dirX : F := randUnit (draw.rand 0)
    let dirZ : F := randUnit (draw.rand 1)
    let length := hypot dirX dirZ
    if lt zero length then (dirX / length, dirZ / length) else (dirX, dirZ)

def clampToMap (x : F) : F := Scalar.clamp x (lit 5) (lit 1995)

-- The first walkable destination among the rotated directions.
def fleeDestination (w : World F) (loc : LocationComp F) (dirX dirZ : F) : F × F :=
  let destX := clampToMap (loc.x + dirX * lit 15)
  let destZ := clampToMap (loc.z + dirZ * lit 15)
  if w.map.isWalkable (trunc destX) (trunc destZ) then (destX, destZ)
  else
    let rotated := [lit 0.785, lit (-0.785), lit 1.57, lit (-1.57)].map fun (angle : F) =>
      let rx := dirX * cos angle - dirZ * sin angle
      let rz := dirX * sin angle + dirZ * cos angle
      (clampToMap (loc.x + rx * lit 15), clampToMap (loc.z + rz * lit 15))
    match rotated.find? fun p => w.map.isWalkable (trunc p.1) (trunc p.2) with
    | some p => p
    | none => (clampToMap loc.x, clampToMap loc.z)

def actionFlee (w : World F) (e : Entity) (draw : BehaviorDraw) : Option (Ticked F) := do
  let loc ← w.reg.location e
  let combat ← w.reg.combat e
  let job ← w.reg.job e
  let toil ← w.reg.toil e
  let _ ← w.reg.activity e
  let _ ← w.reg.identity e
  match w.validTarget combat with
  | none => some (.failure, w)
  | some target => do
      let targetLoc ← w.reg.location target
      if w.mustRedirect e loc job toil then
        let direction := fleeDirection loc targetLoc draw
        let dest := w.fleeDestination loc direction.1 direction.2
        let redirected := w.setJob e
          { job with targetX := dest.1, targetZ := dest.2, targetLocation := "Wilderness" }
        let moving := (redirected.clearPath e).setToil e { toil with state := .moving }
        some (.running, moving.setActivity e "도망치는 중!")
      else some (.running, w)

-- The attacker is too far away: chase the target.
def chase (w : World F) (e : Entity) (job : JobComp F) (toil : ToilComp)
    (targetLoc : LocationComp F) (targetName : String) : World F :=
  if lt (lit 1.5) (Scalar.abs (job.targetX - targetLoc.x)) ||
      lt (lit 1.5) (Scalar.abs (job.targetZ - targetLoc.z)) then
    let aimed := w.setJob e
      { job with
        targetX := targetLoc.x
        targetZ := targetLoc.z
        targetLocation :=
          if targetLoc.locationName = "" then "Wilderness" else targetLoc.locationName }
    ((aimed.clearPath e).setToil e { toil with state := .moving }).setActivity e
      ("추격 중: " ++ targetName)
  else w

-- In range: an attacker on the move stops and counts as working.
def standAndFight (w : World F) (e : Entity) (toil : ToilComp) : World F :=
  if toil.state = .moving then
    (w.setToil e { toil with state := .working }).modifyVelocity e fun _ => .still
  else w

-- The target strikes back when it has no target yet.
def retaliate (w : World F) (attacker target : Entity) : World F :=
  match w.reg.combat target with
  | some combat =>
      if combat.targetEntity.isNone then
        w.setCombat target { combat with targetEntity := some attacker }
      else w
  | none => w

-- The damage and its report; the target is interrupted and strikes back.
def landHit (w : World F) (e target : Entity) (combat : CombatComp F)
    (identity targetIdentity : IdentityComp) (targetHealth : HealthComp F) : World F :=
  let hurt := w.setHealth target
    { targetHealth with hp := targetHealth.hp - combat.attackDamage }
  let tired := hurt.setCombat e { combat with cooldownTicks := 20 }
  let shown := tired.setActivity e ("공격 중: " ++ targetIdentity.displayName)
  let reported := shown.issue
    (.reportCombatEvent identity.npcId targetIdentity.npcId combat.attackDamage "MeleeWeapon")
  (reported.eraseBusy target).retaliate e target

def strike (w : World F) (e target : Entity) (combat : CombatComp F)
    (identity targetIdentity : IdentityComp) (targetHealth : HealthComp F) : Option (World F) :=
  let landed := w.landHit e target combat identity targetIdentity targetHealth
  if le (targetHealth.hp - combat.attackDamage) zero then do
    let mine ← landed.reg.combat e
    some ((landed.setHealth target { targetHealth with hp := zero, isDead := true }).setCombat e
      { mine with targetEntity := none })
  else some landed

def actionMeleeAttack (w : World F) (e : Entity) : Option (Ticked F) := do
  let loc ← w.reg.location e
  let combat ← w.reg.combat e
  let job ← w.reg.job e
  let toil ← w.reg.toil e
  let _ ← w.reg.activity e
  let identity ← w.reg.identity e
  match w.validTarget combat with
  | none => some (.failure, w)
  | some target => do
      let targetLoc ← w.reg.location target
      let targetHealth ← w.reg.health target
      let targetIdentity ← w.reg.identity target
      if lt combat.attackRange (hypot (targetLoc.x - loc.x) (targetLoc.z - loc.z)) then
        some (.running, w.chase e job toil targetLoc targetIdentity.displayName)
      else
        let standing := w.standAndFight e toil
        if 0 < combat.cooldownTicks then
          let waiting := standing.setCombat e { combat with cooldownTicks := combat.cooldownTicks - 1 }
          some (.running, waiting.setActivity e ("대치 중: " ++ targetIdentity.displayName))
        else do
          let struck ← standing.strike e target combat identity targetIdentity targetHealth
          some (.success, struck)

def conditionIsAggroHigh (w : World F) (e : Entity) : Option (Ticked F) :=
  if w.hasValidTarget e then some (.failure, w)
  else
    match w.reg.aggro e with
    | none => some (.failure, w)
    | some aggro =>
        match aggro.threatEntity with
        | some threat =>
            some (if 100 ≤ aggro.aggroScore ∧ w.reg.valid threat then .success else .failure, w)
        | none => some (.failure, w)

def isSentient (w : World F) (e : Entity) : Bool :=
  match w.reg.sentience e with
  | some sentience => sentience.isSentient
  | none => true

-- Ask the AI server for its judgement when the inhibition starts.
def inhibit (w : World F) (e : Entity) (aggro : AggroComp) (npcId targetNpcId : UInt32) :
    World F × AggroComp :=
  if aggro.isInhibited then (w, aggro)
  else
    let inhibited := { aggro with isInhibited := true, inhibitWaitTicks := 0 }
    (w.issue (.threatDetected npcId targetNpcId aggro.aggroScore e), inhibited)

def actionInhibitOrAttack (w : World F) (e : Entity) : Option (Ticked F) :=
  match w.reg.aggro e with
  | none => some (.failure, w)
  | some aggro => do
      let identity ← w.reg.identity e
      let toil ← w.reg.toil e
      let _ ← w.reg.activity e
      match aggro.threatEntity.filter (w.reg.valid ·) with
      | none =>
          some (.failure, w.setAggro e { aggro with aggroScore := 0, isInhibited := false })
      | some threat => do
          let threatIdentity ← w.reg.identity threat
          if !w.isSentient e then
            let combat := (w.reg.combat e).getD .initial
            let armed := w.setCombat e { combat with targetEntity := some threat }
            let calm := armed.setAggro e { aggro with aggroScore := 0 }
            some (.success, calm.setToil e { toil with state := .idle, durationTicks := 0 })
          else
            let (asked, waiting) := w.inhibit e aggro identity.npcId threatIdentity.npcId
            let ticks := waiting.inhibitWaitTicks + 1
            if 100 < ticks then
              some (.failure, asked.setAggro e
                { waiting with inhibitWaitTicks := ticks, aggroScore := 0, isInhibited := false })
            else
              let held := asked.setAggro e { waiting with inhibitWaitTicks := ticks }
              some (.running, (held.setToil e { toil with state := .interrupted }).setActivity e
                (threatIdentity.displayName ++ "와 대치 중 (생각하는 중)"))

def isEmployed (w : World F) (e : Entity) : Bool :=
  match w.reg.job e with
  | some job => job.isActive
  | none => false

def conditionCanWander (w : World F) (e : Entity) : Option (Ticked F) :=
  if w.isEmployed e || w.isResolving e || w.hasValidTarget e || (w.reg.busy e).isSome then
    some (.failure, w)
  else some (.success, w)

-- The first of ten random points that is walkable and in the same place.
def wanderTarget (w : World F) (loc : LocationComp F) (draw : BehaviorDraw) : Option (F × F) :=
  let points := (List.range 10).map fun i =>
    let rx : F := randUnit (draw.rand (2 * i + 1)) * lit 15
    let rz : F := randUnit (draw.rand (2 * i + 2)) * lit 15
    (clampToMap (loc.x + rx), clampToMap (loc.z + rz))
  points.find? fun p =>
    w.map.isWalkable (trunc p.1) (trunc p.2) &&
      w.grid.getLocationNameAt p.1 p.2 = loc.locationName

def actionWander (w : World F) (e : Entity) (draw : BehaviorDraw) : Option (Ticked F) := do
  let loc ← w.reg.location e
  let job ← w.reg.job e
  let toil ← w.reg.toil e
  let _ ← w.reg.activity e
  let _ ← w.reg.identity e
  if toil.state = .moving then some (.running, w)
  else if toil.state = .working && job.intent = "배회 중" then
    if 0 < toil.durationTicks then
      some (.running, w.setToil e { toil with durationTicks := toil.durationTicks - 1 })
    else
      let ended := (w.setJob e { job with intent := "" }).setToil e
        { toil with state := .idle, currentAction := "" }
      some (.success, ended.setActivity e "대기")
  else if toil.state = .idle then
    if draw.rand 0 % 40 ≠ 0 then some (.running, w.setActivity e "대기")
    else
      match w.wanderTarget loc draw with
      | none => some (.failure, w)
      | some target =>
          let aimed := w.setJob e
            { job with
              targetX := target.1
              targetZ := target.2
              targetLocation := loc.locationName
              intent := "배회 중"
              priority := 0
              isActive := false }
          let moving := (aimed.clearPath e).setToil e
            { toil with state := .moving, currentAction := "배회 중" }
          some (.running, moving.setActivity e "주변 배회 중")
  else some (.failure, w)

end World

inductive SurvivalLeaf where
  | hasCombatTarget
  | isLowHealth
  | flee
  | isAggroHigh
  | inhibitOrAttack
  | meleeAttack
  | isHungry
  | isFatigued
  | isScheduledEat
  | isScheduledSleep
  | findFurniture
  | moveToTarget
  | interactFurniture
  | canWander
  | wander
deriving DecidableEq

def runLeaf (e : Entity) (draw : BehaviorDraw) : SurvivalLeaf → World F → Option (Ticked F)
  | .hasCombatTarget, w => w.conditionHasCombatTarget e
  | .isLowHealth, w => w.conditionIsLowHealth e
  | .flee, w => w.actionFlee e draw
  | .isAggroHigh, w => w.conditionIsAggroHigh e
  | .inhibitOrAttack, w => w.actionInhibitOrAttack e
  | .meleeAttack, w => w.actionMeleeAttack e
  | .isHungry, w => w.conditionIsHungry e
  | .isFatigued, w => w.conditionIsFatigued e
  | .isScheduledEat, w => w.conditionIsScheduledEat e
  | .isScheduledSleep, w => w.conditionIsScheduledSleep e
  | .findFurniture, w => w.actionFindFurniture e draw
  | .moveToTarget, w => w.actionMoveToTarget e
  | .interactFurniture, w => w.actionInteractFurniture e draw
  | .canWander, w => w.conditionCanWander e
  | .wander, w => w.actionWander e draw

def fleeSeq : Node SurvivalLeaf :=
  .sequence [.leaf .hasCombatTarget, .leaf .isLowHealth, .leaf .flee]

def aggroSeq : Node SurvivalLeaf := .sequence [.leaf .isAggroHigh, .leaf .inhibitOrAttack]

def combatSeq : Node SurvivalLeaf := .sequence [.leaf .hasCombatTarget, .leaf .meleeAttack]

def hungerSeq : Node SurvivalLeaf :=
  .sequence [.leaf .isHungry, .leaf .findFurniture, .leaf .moveToTarget, .leaf .interactFurniture]

def fatigueSeq : Node SurvivalLeaf :=
  .sequence
    [.leaf .isFatigued, .leaf .findFurniture, .leaf .moveToTarget, .leaf .interactFurniture]

def schedEatSeq : Node SurvivalLeaf :=
  .sequence [.leaf .isScheduledEat, .leaf .interactFurniture]

def schedSleepSeq : Node SurvivalLeaf :=
  .sequence [.leaf .isScheduledSleep, .leaf .interactFurniture]

def wanderSeq : Node SurvivalLeaf := .sequence [.leaf .canWander, .leaf .wander]

-- The children after combat, none of which attacks.
def peacefulSeqs : List (Node SurvivalLeaf) :=
  [hungerSeq, fatigueSeq, schedEatSeq, schedSleepSeq, wanderSeq]

def survivalTree : Node SurvivalLeaf :=
  .selector (fleeSeq :: aggroSeq :: combatSeq :: peacefulSeqs)

-- `SystemBehaviorTree` for one entity.
def World.behaviorTree (w : World F) (e : Entity) (draw : BehaviorDraw) : Option (World F) :=
  if (w.reg.behaviorTree e).isNone || (w.reg.busy e).isSome then some w
  else (tick (runLeaf e draw) survivalTree w).map (·.2)

end MundusVivens
