import MundusVivens.Systems.BehaviorNodes

set_option autoImplicit false

namespace MundusVivens

open Scalar BehaviorTree

variable {F : Type} [Scalar F]

namespace World

inductive ChecksCrisis (crisis : Crisis F) (w : World F) (e : Entity) (needs : NeedsComp F) :
    NodeStatus → World F → Prop
  | ongoing {status : NodeStatus} (resolving : needs.isResolvingSurvival = true)
      (decided : status = if needs.currentSurvivalType = crisis.type then .success else .failure) :
      ChecksCrisis crisis w e needs status w
  | enters (identity : IdentityComp) (job : JobComp F) (calm : needs.isResolvingSurvival = false)
      (low : lt (crisis.level needs) (lit 15) = true)
      (named : w.reg.identity e = some identity) (works : w.reg.job e = some job) :
      ChecksCrisis crisis w e needs .success
        ((((((w.setNeeds e
          { needs with isResolvingSurvival := true, currentSurvivalType := crisis.type }).eraseBusy
            e).clearPath e).issue (.reportJobStatus identity.npcId job.jobId 2 .environmentChange
              crisis.context w.clock.tick .log)).setJob e
          { job with
            jobId := crisis.jobId
            intent := crisis.intent
            category := crisis.category
            isActive := true
            targetLocation := ""
            targetX := zero
            targetY := zero
            targetZ := zero }).setToil e ⟨.idle, "", 0⟩)
  | spared (calm : needs.isResolvingSurvival = false)
      (enough : lt (crisis.level needs) (lit 15) = false) : ChecksCrisis crisis w e needs .failure w

theorem inCrisis_cases {crisis : Crisis F} {w w' : World F} {e : Entity} {status : NodeStatus}
    (ran : w.conditionInCrisis crisis e = some (status, w')) :
    ∃ needs, w.reg.needs e = some needs ∧ ChecksCrisis crisis w e needs status w' := by
  simp only [conditionInCrisis, Option.bind_eq_bind, Option.bind_eq_some_iff] at ran
  obtain ⟨needs, needy, ran⟩ := ran
  refine ⟨needs, needy, ?_⟩
  split at ran
  next resolving =>
    obtain ⟨decided, rfl⟩ := Prod.mk.inj (Option.some.inj ran)
    exact .ongoing resolving decided.symm
  next calm =>
    split at ran
    next low =>
      simp only [enterCrisis, Option.bind_eq_bind, Option.bind_eq_some_iff] at ran
      obtain ⟨identity, named, job, works, toil, -, stored⟩ := ran
      obtain ⟨rfl, rfl⟩ := Prod.mk.inj (Option.some.inj stored)
      exact .enters identity job (Bool.eq_false_iff.mpr calm) low named works
    next enough =>
      obtain ⟨rfl, rfl⟩ := Prod.mk.inj (Option.some.inj ran)
      exact .spared (Bool.eq_false_iff.mpr calm) (Bool.eq_false_iff.mpr enough)

inductive ChecksSchedule (crisis : Crisis F) (w : World F) (e : Entity) (needs : NeedsComp F) :
    NodeStatus → World F → Prop
  | ongoing {status : NodeStatus} (resolving : needs.isResolvingSurvival = true)
      (decided : status = if needs.currentSurvivalType = crisis.type then .success else .failure) :
      ChecksSchedule crisis w e needs status w
  | begins (job : JobComp F) (toil : ToilComp) (loc : LocationComp F)
      (calm : needs.isResolvingSurvival = false) (works : w.reg.job e = some job)
      (toils : w.reg.toil e = some toil) (stands : w.reg.location e = some loc)
      (due : (job.isActive && job.category = crisis.category && toil.state = .working &&
        loc.locationName = job.targetLocation) = true) :
      ChecksSchedule crisis w e needs .success (w.setNeeds e
        { needs with isResolvingSurvival := true, currentSurvivalType := crisis.type })
  | skips (job : JobComp F) (toil : ToilComp) (loc : LocationComp F)
      (calm : needs.isResolvingSurvival = false) (works : w.reg.job e = some job)
      (toils : w.reg.toil e = some toil) (stands : w.reg.location e = some loc)
      (idle : (job.isActive && job.category = crisis.category && toil.state = .working &&
        loc.locationName = job.targetLocation) = false) :
      ChecksSchedule crisis w e needs .failure w

omit [Scalar F] in
theorem isScheduled_cases {crisis : Crisis F} {w w' : World F} {e : Entity} {status : NodeStatus}
    (ran : w.conditionIsScheduled crisis e = some (status, w')) :
    ∃ needs, w.reg.needs e = some needs ∧ ChecksSchedule crisis w e needs status w' := by
  simp only [conditionIsScheduled, Option.bind_eq_bind, Option.bind_eq_some_iff] at ran
  obtain ⟨needs, needy, ran⟩ := ran
  refine ⟨needs, needy, ?_⟩
  split at ran
  next resolving =>
    obtain ⟨decided, rfl⟩ := Prod.mk.inj (Option.some.inj ran)
    exact .ongoing resolving decided.symm
  next calm =>
    simp only [Option.bind_eq_some_iff] at ran
    obtain ⟨job, works, toil, toils, loc, stands, ran⟩ := ran
    split at ran
    next due =>
      obtain ⟨rfl, rfl⟩ := Prod.mk.inj (Option.some.inj ran)
      exact .begins job toil loc (Bool.eq_false_iff.mpr calm) works toils stands due
    next idle =>
      obtain ⟨rfl, rfl⟩ := Prod.mk.inj (Option.some.inj ran)
      exact .skips job toil loc (Bool.eq_false_iff.mpr calm) works toils stands
        (Bool.eq_false_iff.mpr idle)

inductive Searches (w : World F) (e : Entity) (needs : NeedsComp F) (job : JobComp F)
    (loc : LocationComp F) (toil : ToilComp) (rank : Entity → Nat) : World F → Prop
  | keeps (aimed : (job.targetLocation ≠ "" &&
      (!Scalar.eq job.targetX zero || !Scalar.eq job.targetZ zero)) = true) :
      Searches w e needs job loc toil rank w
  | aims (dist : F) (place : LocationComp F)
      (aimless : (job.targetLocation ≠ "" &&
        (!Scalar.eq job.targetX zero || !Scalar.eq job.targetZ zero)) = false)
      (nearest : w.nearestFurniture needs loc rank = (dist, some place))
      (near : lt dist (lit 50) = true) :
      Searches w e needs job loc toil rank (w.aimJob e job toil place)
  | camps (name : String) (type : AffordanceType)
      (aimless : (job.targetLocation ≠ "" &&
        (!Scalar.eq job.targetX zero || !Scalar.eq job.targetZ zero)) = false)
      (wild : isWilderness loc.locationName = true) :
      Searches w e needs job loc toil rank ((w.spawnCamp loc name type).aimJob e job toil loc)
  | stays (aimless : (job.targetLocation ≠ "" &&
      (!Scalar.eq job.targetX zero || !Scalar.eq job.targetZ zero)) = false)
      (tame : isWilderness loc.locationName = false) :
      Searches w e needs job loc toil rank (w.aimJob e job toil loc)

theorem findFurniture_cases {w w' : World F} {e : Entity} {draw : BehaviorDraw}
    {status : NodeStatus} (ran : w.actionFindFurniture e draw = some (status, w')) :
    status = .success ∧ ∃ needs job loc toil, w.reg.needs e = some needs ∧
      w.reg.job e = some job ∧ w.reg.location e = some loc ∧ w.reg.toil e = some toil ∧
      Searches w e needs job loc toil draw.rank w' := by
  simp only [actionFindFurniture, Option.bind_eq_bind, Option.bind_eq_some_iff] at ran
  obtain ⟨needs, needy, job, works, loc, stands, identity, -, toil, toils, ran⟩ := ran
  split at ran
  next aimed =>
    obtain ⟨rfl, rfl⟩ := Prod.mk.inj (Option.some.inj ran)
    exact ⟨rfl, needs, job, loc, toil, needy, works, stands, toils, .keeps aimed⟩
  next aimless =>
    have aimless := Bool.eq_false_iff.mpr aimless
    have settled : Searches w e needs job loc toil draw.rank (w.campOrStay e needs job toil loc) := by
      unfold campOrStay
      split
      next wild =>
        dsimp only
        split <;> exact .camps _ _ aimless wild
      next tame => exact .stays aimless (Bool.eq_false_iff.mpr tame)
    split at ran
    next dist place nearest =>
      split at ran
      next near =>
        obtain ⟨rfl, rfl⟩ := Prod.mk.inj (Option.some.inj ran)
        exact ⟨rfl, needs, job, loc, toil, needy, works, stands, toils,
          .aims dist place aimless nearest near⟩
      next =>
        obtain ⟨rfl, rfl⟩ := Prod.mk.inj (Option.some.inj ran)
        exact ⟨rfl, needs, job, loc, toil, needy, works, stands, toils, settled⟩
    next =>
      obtain ⟨rfl, rfl⟩ := Prod.mk.inj (Option.some.inj ran)
      exact ⟨rfl, needs, job, loc, toil, needy, works, stands, toils, settled⟩

inductive Travels (w : World F) (e : Entity) (loc : LocationComp F) (job : JobComp F)
    (toil : ToilComp) : NodeStatus → World F → Prop
  | arrives (close : loc.locationName = job.targetLocation ∨
      lt (hypot (job.targetX - loc.x) (job.targetZ - loc.z)) (lit 0.8) = true) :
      Travels w e loc job toil .success w
  | setsOut (away : loc.locationName ≠ job.targetLocation)
      (far : lt (hypot (job.targetX - loc.x) (job.targetZ - loc.z)) (lit 0.8) = false)
      (rests : toil.state ≠ .moving) :
      Travels w e loc job toil .running
        (((w.setToil e { toil with state := .moving }).setActivity e
          ("이동 중: " ++ job.targetLocation)).clearPath e)
  | walks (away : loc.locationName ≠ job.targetLocation)
      (far : lt (hypot (job.targetX - loc.x) (job.targetZ - loc.z)) (lit 0.8) = false)
      (moves : toil.state = .moving) : Travels w e loc job toil .running w

theorem moveToTarget_cases {w w' : World F} {e : Entity} {status : NodeStatus}
    (ran : w.actionMoveToTarget e = some (status, w')) :
    ∃ loc job toil, w.reg.location e = some loc ∧ w.reg.job e = some job ∧
      w.reg.toil e = some toil ∧ Travels w e loc job toil status w' := by
  simp only [actionMoveToTarget, Option.bind_eq_bind, Option.bind_eq_some_iff] at ran
  obtain ⟨loc, stands, job, works, toil, toils, activity, -, ran⟩ := ran
  refine ⟨loc, job, toil, stands, works, toils, ?_⟩
  split at ran
  next here =>
    obtain ⟨rfl, rfl⟩ := Prod.mk.inj (Option.some.inj ran)
    exact .arrives (.inl here)
  next away =>
    split at ran
    next close =>
      obtain ⟨rfl, rfl⟩ := Prod.mk.inj (Option.some.inj ran)
      exact .arrives (.inr close)
    next far =>
      have far := Bool.eq_false_iff.mpr far
      split at ran
      next rests =>
        obtain ⟨rfl, rfl⟩ := Prod.mk.inj (Option.some.inj ran)
        exact .setsOut away far rests
      next moves =>
        have moves : toil.state = .moving := by simpa using moves
        split at ran
        next =>
          -- The failure asks for an idle toil.
          rw [if_neg (by simp [moves])] at ran
          obtain ⟨rfl, rfl⟩ := Prod.mk.inj (Option.some.inj ran)
          exact .walks away far moves
        next =>
          obtain ⟨rfl, rfl⟩ := Prod.mk.inj (Option.some.inj ran)
          exact .walks away far moves

omit [Scalar F] in
theorem occupyFurniture_eq {w w' : World F} {e f : Entity} {needs : NeedsComp F}
    {loc : LocationComp F} {toil : ToilComp}
    (occupied : w.occupyFurniture e needs loc toil f = some w') :
    ∃ aff place, w.reg.affordance f = some aff ∧ w.reg.location f = some place ∧
      w' = (((w.setOccupiedBy f (some e)).setNeeds e
        { needs with occupiedFurniture := some f }).setLocation e
          { loc with x := place.x, y := place.y, z := place.z }).settle e toil
            (furnitureTexts (needs.currentSurvivalType = .hunger) aff.isTemporary) := by
  simp only [occupyFurniture, Option.bind_eq_bind, Option.bind_eq_some_iff] at occupied
  obtain ⟨aff, stands, place, located, stored⟩ := occupied
  exact ⟨aff, place, stands, located, (Option.some.inj stored).symm⟩

omit [Scalar F] in
theorem occupyFurniture_seated {w w' : World F} {e f : Entity} {needs : NeedsComp F}
    {loc : LocationComp F} {toil : ToilComp}
    (occupied : w.occupyFurniture e needs loc toil f = some w') :
    w'.reg.needs e = some { needs with occupiedFurniture := some f } := by
  obtain ⟨aff, place, -, -, rfl⟩ := occupyFurniture_eq occupied
  have seated : ((w.setOccupiedBy f (some e)).setNeeds e
      { needs with occupiedFurniture := some f }).reg.needs e =
        some { needs with occupiedFurniture := some f } := by simp [setNeeds]
  exact seated

omit [Scalar F] in
theorem occupyFurniture_resolving {w w' : World F} {e f : Entity} {needs : NeedsComp F}
    {loc : LocationComp F} {toil : ToilComp} (resolving : needs.isResolvingSurvival = true)
    (occupied : w.occupyFurniture e needs loc toil f = some w') : w'.isResolving e = true := by
  rw [isResolving, occupyFurniture_seated occupied]
  exact resolving

-- Where the NPC eats or sleeps: on a free piece, at a camp of its own or on the floor.
inductive Settles (w : World F) (e : Entity) (needs : NeedsComp F) (loc : LocationComp F)
    (toil : ToilComp) (rank : Entity → Nat) : World F → Prop
  | seat {w' : World F} (f : Entity) (found : w.freeFurniture needs loc rank = some f)
      (taken : w.occupyFurniture e needs loc toil f = some w') : Settles w e needs loc toil rank w'
  | camp {w' : World F} (name : String) (type : AffordanceType)
      (full : w.freeFurniture needs loc rank = none) (wild : isWilderness loc.locationName = true)
      (suits : needs.currentSurvivalType ≠ .none → serves needs.currentSurvivalType type = true)
      (taken : (w.spawnCamp loc name type).occupyFurniture e needs loc toil w.reg.nextEntity =
        some w') : Settles w e needs loc toil rank w'
  | floor (full : w.freeFurniture needs loc rank = none)
      (tame : isWilderness loc.locationName = false) :
      Settles w e needs loc toil rank
        (w.settle e toil (floorTexts (needs.currentSurvivalType = .hunger)))

theorem occupyPlace_cases {w w' : World F} {e : Entity} {needs : NeedsComp F}
    {loc : LocationComp F} {toil : ToilComp} {rank : Entity → Nat}
    (placed : w.occupyPlace e needs loc toil rank = some w') :
    Settles w e needs loc toil rank w' := by
  unfold occupyPlace at placed
  dsimp only at placed
  split at placed
  next f found => exact .seat f found placed
  next full =>
    split at placed
    next wild =>
      split at placed
      next eating =>
        exact .camp _ .eat full wild (fun _ => by rw [eating]; rfl) placed
      next fasting =>
        refine .camp _ .sleep full wild (fun known => ?_) placed
        cases type : needs.currentSurvivalType with
        | none => exact absurd type known
        | hunger => simp [type] at fasting
        | fatigue => rfl
    next tame =>
      obtain rfl := Option.some.inj placed
      exact .floor full (Bool.eq_false_iff.mpr tame)

inductive Leaves (w : World F) (needs : NeedsComp F) : World F → Prop
  | floor (unseated : needs.occupiedFurniture = none) : Leaves w needs w
  | seat (f : Entity) (aff : AffordanceComp) (seated : needs.occupiedFurniture = some f)
      (stands : w.reg.affordance f = some aff) (lasting : aff.isTemporary = false) :
      Leaves w needs (w.setOccupiedBy f none)
  | camp (f : Entity) (aff : AffordanceComp) (seated : needs.occupiedFurniture = some f)
      (stands : w.reg.affordance f = some aff) (temporary : aff.isTemporary = true) :
      Leaves w needs
        { w.setOccupiedBy f none with
          grid := w.grid.removeEntity f
          reg := (w.setOccupiedBy f none).reg.destroy f }

omit [Scalar F] in
theorem leaveFurniture_cases {w left : World F} {needs : NeedsComp F}
    (leaves : w.leaveFurniture needs = some left) : Leaves w needs left := by
  unfold leaveFurniture at leaves
  split at leaves
  next unseated =>
    obtain rfl := Option.some.inj leaves
    exact .floor unseated
  next f seated =>
    simp only [Option.bind_eq_bind, Option.bind_eq_some_iff] at leaves
    obtain ⟨aff, stands, leaves⟩ := leaves
    split at leaves
    next temporary =>
      obtain rfl := Option.some.inj leaves
      exact .camp f aff seated stands temporary
    next lasting =>
      obtain rfl := Option.some.inj leaves
      exact .seat f aff seated stands (Bool.eq_false_iff.mpr lasting)

@[simp] theorem recharge_isResolvingSurvival (needs : NeedsComp F) (amount : F) :
    (recharge needs amount).isResolvingSurvival = needs.isResolvingSurvival := by
  unfold recharge
  split <;> rfl

@[simp] theorem recharge_currentSurvivalType (needs : NeedsComp F) (amount : F) :
    (recharge needs amount).currentSurvivalType = needs.currentSurvivalType := by
  unfold recharge
  split <;> rfl

@[simp] theorem recharge_occupiedFurniture (needs : NeedsComp F) (amount : F) :
    (recharge needs amount).occupiedFurniture = needs.occupiedFurniture := by
  unfold recharge
  split <;> rfl

def seeksSeat (needs : NeedsComp F) (toil : ToilComp) : Bool :=
  needs.occupiedFurniture.isNone && toil.currentAction ≠ "Eating_On_Floor" &&
    toil.currentAction ≠ "Sleeping_On_Floor"

structure Attends (w : World F) (e : Entity) (needs : NeedsComp F) (loc : LocationComp F)
    (toil : ToilComp) (job : JobComp F) (identity : IdentityComp) : Prop where
  needy : w.reg.needs e = some needs
  stands : w.reg.location e = some loc
  toils : w.reg.toil e = some toil
  works : w.reg.job e = some job
  named : w.reg.identity e = some identity
  acts : (w.reg.activity e).isSome = true

inductive Interacts (w : World F) (e : Entity) (needs : NeedsComp F) (loc : LocationComp F)
    (toil : ToilComp) (job : JobComp F) (identity : IdentityComp) (rank : Entity → Nat) :
    NodeStatus → World F → Prop
  | settles {w' : World F} (seeks : seeksSeat needs toil = true)
      (settled : Settles w e needs loc toil rank w') :
      Interacts w e needs loc toil job identity rank .running w'
  | recharges (amount : F) (rests : seeksSeat needs toil = false)
      (recovers : w.recovery needs = some amount) (low : isRecharged (recharge needs amount) = false) :
      Interacts w e needs loc toil job identity rank .running
        (w.setNeeds e (recharge needs amount))
  | resolves (amount : F) (left : World F) (rests : seeksSeat needs toil = false)
      (recovers : w.recovery needs = some amount) (full : isRecharged (recharge needs amount) = true)
      (leaves : Leaves w (recharge needs amount) left) :
      Interacts w e needs loc toil job identity rank .success
        (((((left.setNeeds e
          { recharge needs amount with
            occupiedFurniture := none
            isResolvingSurvival := false
            currentSurvivalType := .none }).issue (.reportJobStatus identity.npcId job.jobId 0
              .unknownReason "survival_resolved" w.clock.tick .ignore)).setJob e
                { job with isActive := false }).setToil e ⟨.idle, "", 0⟩).setActivity e "대기")

theorem interactFurniture_cases {w w' : World F} {e : Entity} {draw : BehaviorDraw}
    {status : NodeStatus} (ran : w.actionInteractFurniture e draw = some (status, w')) :
    ∃ needs loc toil job identity, Attends w e needs loc toil job identity ∧
      Interacts w e needs loc toil job identity draw.rank status w' := by
  simp only [actionInteractFurniture, Option.bind_eq_bind, Option.bind_eq_some_iff] at ran
  obtain ⟨needs, needy, loc, stands, toil, toils, job, works, identity, named, activity, acts, ran⟩ :=
    ran
  refine ⟨needs, loc, toil, job, identity, ⟨needy, stands, toils, works, named, by simp [acts]⟩, ?_⟩
  split at ran
  next seeks =>
    simp only [Option.bind_eq_some_iff] at ran
    obtain ⟨placed, places, stored⟩ := ran
    obtain ⟨rfl, rfl⟩ := Prod.mk.inj (Option.some.inj stored)
    exact .settles seeks (occupyPlace_cases places)
  next rests =>
    simp only [Option.bind_eq_some_iff] at ran
    obtain ⟨amount, recovers, ran⟩ := ran
    split at ran
    next full =>
      simp only [resolveCrisis, Option.bind_eq_bind, Option.bind_eq_some_iff] at ran
      obtain ⟨resolved, ⟨left, leaves, resolves⟩, stored⟩ := ran
      obtain ⟨rfl, rfl⟩ := Prod.mk.inj (Option.some.inj stored)
      obtain rfl := Option.some.inj resolves
      exact .resolves amount left (Bool.eq_false_iff.mpr rests) recovers full
        (leaveFurniture_cases leaves)
    next low =>
      obtain ⟨rfl, rfl⟩ := Prod.mk.inj (Option.some.inj ran)
      exact .recharges amount (Bool.eq_false_iff.mpr rests) recovers (Bool.eq_false_iff.mpr low)

theorem Attends.seeks {w : World F} {e : Entity} {needs : NeedsComp F} {loc : LocationComp F}
    {toil : ToilComp} {job : JobComp F} {identity : IdentityComp} {draw : BehaviorDraw}
    (attends : Attends w e needs loc toil job identity) (seeks : seeksSeat needs toil = true) :
    w.actionInteractFurniture e draw =
      (w.occupyPlace e needs loc toil draw.rank).map fun w' => (.running, w') := by
  obtain ⟨activity, acts⟩ := Option.isSome_iff_exists.mp attends.acts
  unfold seeksSeat at seeks
  simp only [actionInteractFurniture, attends.needy, attends.stands, attends.toils, attends.works,
    attends.named, acts, Option.bind_eq_bind, Option.bind_some]
  rw [if_pos seeks]
  cases w.occupyPlace e needs loc toil draw.rank <;> rfl

theorem Attends.recharges {w : World F} {e : Entity} {needs : NeedsComp F} {loc : LocationComp F}
    {toil : ToilComp} {job : JobComp F} {identity : IdentityComp} {amount : F}
    (attends : Attends w e needs loc toil job identity) (draw : BehaviorDraw)
    (rests : seeksSeat needs toil = false) (gains : w.recovery needs = some amount) :
    w.actionInteractFurniture e draw =
      if isRecharged (recharge needs amount) then
        (w.resolveCrisis e (recharge needs amount) identity job).map fun w' => (.success, w')
      else some (.running, w.setNeeds e (recharge needs amount)) := by
  obtain ⟨activity, acts⟩ := Option.isSome_iff_exists.mp attends.acts
  unfold seeksSeat at rests
  simp only [actionInteractFurniture, attends.needy, attends.stands, attends.toils, attends.works,
    attends.named, acts, Option.bind_eq_bind, Option.bind_some]
  rw [if_neg (by rw [rests]; decide), gains, Option.bind_some]
  split
  next => cases w.resolveCrisis e (recharge needs amount) identity job <;> rfl
  next => rfl

inductive Looks (w : World F) (e : Entity) : NodeStatus → World F → Prop
  | unarmed (gone : w.hasValidTarget e = false) : Looks w e .failure w
  | buries (combat : CombatComp F) (target : Entity) (armed : w.reg.combat e = some combat)
      (aimed : combat.targetEntity = some target) (valid : w.reg.valid target = true)
      (dead : w.isDead target = true) :
      Looks w e .failure (w.setCombat e { combat with targetEntity := none })
  | aims (combat : CombatComp F) (target : Entity) (armed : w.reg.combat e = some combat)
      (aimed : combat.targetEntity = some target) (valid : w.reg.valid target = true)
      (alive : w.isDead target = false) : Looks w e .success w

omit [Scalar F] in
theorem hasCombatTarget_cases {w w' : World F} {e : Entity} {status : NodeStatus}
    (ran : w.conditionHasCombatTarget e = some (status, w')) : Looks w e status w' := by
  unfold conditionHasCombatTarget at ran
  split at ran
  next unarmed =>
    obtain ⟨rfl, rfl⟩ := Prod.mk.inj (Option.some.inj ran)
    exact .unarmed (by simp [hasValidTarget, unarmed])
  next combat armed =>
    split at ran
    next aimless =>
      obtain ⟨rfl, rfl⟩ := Prod.mk.inj (Option.some.inj ran)
      exact .unarmed (by simp [hasValidTarget, armed, aimless])
    next target aimed =>
      split at ran
      next invalid =>
        obtain ⟨rfl, rfl⟩ := Prod.mk.inj (Option.some.inj ran)
        exact .unarmed (by simpa [hasValidTarget, armed, aimed] using invalid)
      next valid =>
        have valid : w.reg.valid target = true := by simpa using valid
        split at ran
        next dead =>
          obtain ⟨rfl, rfl⟩ := Prod.mk.inj (Option.some.inj ran)
          exact .buries combat target armed aimed valid dead
        next alive =>
          obtain ⟨rfl, rfl⟩ := Prod.mk.inj (Option.some.inj ran)
          exact .aims combat target armed aimed valid (Bool.eq_false_iff.mpr alive)

inductive Flees (w : World F) (e : Entity) (loc : LocationComp F) (combat : CombatComp F)
    (job : JobComp F) (toil : ToilComp) : NodeStatus → World F → Prop
  | aimless (gone : w.validTarget combat = none) : Flees w e loc combat job toil .failure w
  | redirects (target : Entity) (dest : F × F) (aimed : w.validTarget combat = some target)
      (anew : w.mustRedirect e loc job toil = true) :
      Flees w e loc combat job toil .running
        ((((w.setJob e { job with
          targetX := dest.1, targetZ := dest.2, targetLocation := "Wilderness" }).clearPath e).setToil
            e { toil with state := .moving }).setActivity e "도망치는 중!")
  | runs (target : Entity) (aimed : w.validTarget combat = some target)
      (ahead : w.mustRedirect e loc job toil = false) : Flees w e loc combat job toil .running w

theorem flee_cases {w w' : World F} {e : Entity} {draw : BehaviorDraw} {status : NodeStatus}
    (ran : w.actionFlee e draw = some (status, w')) :
    ∃ loc combat job toil, w.reg.location e = some loc ∧ w.reg.combat e = some combat ∧
      w.reg.job e = some job ∧ w.reg.toil e = some toil ∧ Flees w e loc combat job toil status w' := by
  simp only [actionFlee, Option.bind_eq_bind, Option.bind_eq_some_iff] at ran
  obtain ⟨loc, stands, combat, armed, job, works, toil, toils, activity, -, identity, -, ran⟩ := ran
  refine ⟨loc, combat, job, toil, stands, armed, works, toils, ?_⟩
  split at ran
  next gone =>
    obtain ⟨rfl, rfl⟩ := Prod.mk.inj (Option.some.inj ran)
    exact .aimless gone
  next target aimed =>
    simp only [Option.bind_eq_some_iff] at ran
    obtain ⟨targetLoc, -, ran⟩ := ran
    split at ran
    next anew =>
      obtain ⟨rfl, rfl⟩ := Prod.mk.inj (Option.some.inj ran)
      exact .redirects target _ aimed anew
    next ahead =>
      obtain ⟨rfl, rfl⟩ := Prod.mk.inj (Option.some.inj ran)
      exact .runs target aimed (Bool.eq_false_iff.mpr ahead)

inductive Attacks (w : World F) (e : Entity) (loc : LocationComp F) (combat : CombatComp F)
    (job : JobComp F) (toil : ToilComp) : NodeStatus → World F → Prop
  | aimless (gone : w.validTarget combat = none) : Attacks w e loc combat job toil .failure w
  | chases (target : Entity) (targetLoc : LocationComp F) (name : String)
      (aimed : w.validTarget combat = some target)
      (located : w.reg.location target = some targetLoc)
      (far : lt combat.attackRange (hypot (targetLoc.x - loc.x) (targetLoc.z - loc.z)) = true) :
      Attacks w e loc combat job toil .running (w.chase e job toil targetLoc name)
  | waits (target : Entity) (targetLoc : LocationComp F) (text : String)
      (aimed : w.validTarget combat = some target)
      (located : w.reg.location target = some targetLoc)
      (near : lt combat.attackRange (hypot (targetLoc.x - loc.x) (targetLoc.z - loc.z)) = false)
      (tired : 0 < combat.cooldownTicks) :
      Attacks w e loc combat job toil .running
        (((w.standAndFight e toil).setCombat e
          { combat with cooldownTicks := combat.cooldownTicks - 1 }).setActivity e text)
  | strikes {w' : World F} (target : Entity) (targetLoc : LocationComp F)
      (identity targetIdentity : IdentityComp) (health : HealthComp F)
      (aimed : w.validTarget combat = some target)
      (located : w.reg.location target = some targetLoc)
      (near : lt combat.attackRange (hypot (targetLoc.x - loc.x) (targetLoc.z - loc.z)) = false)
      (ready : ¬0 < combat.cooldownTicks) (hurt : w.reg.health target = some health)
      (struck : (w.standAndFight e toil).strike e target combat identity targetIdentity health =
        some w') : Attacks w e loc combat job toil .success w'

theorem meleeAttack_cases {w w' : World F} {e : Entity} {status : NodeStatus}
    (ran : w.actionMeleeAttack e = some (status, w')) :
    ∃ loc combat job toil, w.reg.location e = some loc ∧ w.reg.combat e = some combat ∧
      w.reg.job e = some job ∧ w.reg.toil e = some toil ∧
      Attacks w e loc combat job toil status w' := by
  simp only [actionMeleeAttack, Option.bind_eq_bind, Option.bind_eq_some_iff] at ran
  obtain ⟨loc, stands, combat, armed, job, works, toil, toils, activity, -, identity, -, ran⟩ := ran
  refine ⟨loc, combat, job, toil, stands, armed, works, toils, ?_⟩
  split at ran
  next gone =>
    obtain ⟨rfl, rfl⟩ := Prod.mk.inj (Option.some.inj ran)
    exact .aimless gone
  next target aimed =>
    simp only [Option.bind_eq_some_iff] at ran
    obtain ⟨targetLoc, located, health, hurt, targetIdentity, -, ran⟩ := ran
    split at ran
    next far =>
      obtain ⟨rfl, rfl⟩ := Prod.mk.inj (Option.some.inj ran)
      exact .chases target targetLoc _ aimed located far
    next near =>
      have near := Bool.eq_false_iff.mpr near
      split at ran
      next tired =>
        obtain ⟨rfl, rfl⟩ := Prod.mk.inj (Option.some.inj ran)
        exact .waits target targetLoc _ aimed located near tired
      next ready =>
        simp only [Option.bind_eq_some_iff] at ran
        obtain ⟨struck, strikes, stored⟩ := ran
        obtain ⟨rfl, rfl⟩ := Prod.mk.inj (Option.some.inj stored)
        exact .strikes target targetLoc identity targetIdentity health aimed located near ready hurt
          strikes

theorem strike_cases {w w' : World F} {e target : Entity} {combat : CombatComp F}
    {identity targetIdentity : IdentityComp} {health : HealthComp F}
    (struck : w.strike e target combat identity targetIdentity health = some w') :
    (¬le (health.hp - combat.attackDamage) zero = true ∧
        w' = w.landHit e target combat identity targetIdentity health) ∨
      (le (health.hp - combat.attackDamage) zero = true ∧ ∃ mine,
        (w.landHit e target combat identity targetIdentity health).reg.combat e = some mine ∧
        w' = ((w.landHit e target combat identity targetIdentity health).setHealth target
          { health with hp := zero, isDead := true }).setCombat e
            { mine with targetEntity := none }) := by
  unfold strike at struck
  dsimp only at struck
  split at struck
  next deadly =>
    simp only [Option.bind_eq_bind, Option.bind_eq_some_iff] at struck
    obtain ⟨mine, armed, stored⟩ := struck
    exact .inr ⟨deadly, mine, armed, (Option.some.inj stored).symm⟩
  next alive => exact .inl ⟨alive, (Option.some.inj struck).symm⟩

omit [Scalar F] in
theorem inhibit_reg (w : World F) (e : Entity) (aggro : AggroComp) (npcId targetNpcId : UInt32) :
    (w.inhibit e aggro npcId targetNpcId).1.reg = w.reg := by
  unfold inhibit
  split <;> rfl

omit [Scalar F] in
theorem inhibit_aggro (w : World F) (e : Entity) (aggro : AggroComp)
    (npcId targetNpcId : UInt32) :
    (w.inhibit e aggro npcId targetNpcId).2 =
      { aggro with
        isInhibited := true
        inhibitWaitTicks := if aggro.isInhibited then aggro.inhibitWaitTicks else 0 } := by
  unfold inhibit
  split
  next inhibited => simp [← inhibited]
  next free => simp

inductive Reacts (w : World F) (e : Entity) : NodeStatus → World F → Prop
  | unaware (calm : w.reg.aggro e = none) : Reacts w e .failure w
  | forgets (aggro : AggroComp) (roused : w.reg.aggro e = some aggro)
      (gone : aggro.threatEntity.filter (w.reg.valid ·) = none) :
      Reacts w e .failure (w.setAggro e { aggro with aggroScore := 0, isInhibited := false })
  | attacks (aggro : AggroComp) (toil : ToilComp) (threat : Entity)
      (roused : w.reg.aggro e = some aggro) (toils : w.reg.toil e = some toil)
      (spotted : aggro.threatEntity.filter (w.reg.valid ·) = some threat)
      (wild : w.isSentient e = false) :
      Reacts w e .success
        (((w.setCombat e
          { (w.reg.combat e).getD .initial with targetEntity := some threat }).setAggro e
            { aggro with aggroScore := 0 }).setToil e { toil with state := .idle, durationTicks := 0 })
  | givesUp (aggro : AggroComp) (threat : Entity) (identity threatIdentity : IdentityComp)
      (roused : w.reg.aggro e = some aggro)
      (spotted : aggro.threatEntity.filter (w.reg.valid ·) = some threat)
      (known : w.reg.identity threat = some threatIdentity) (sentient : w.isSentient e = true)
      (late : 100 <
        (w.inhibit e aggro identity.npcId threatIdentity.npcId).2.inhibitWaitTicks + 1) :
      Reacts w e .failure
        ((w.inhibit e aggro identity.npcId threatIdentity.npcId).1.setAggro e
          { (w.inhibit e aggro identity.npcId threatIdentity.npcId).2 with
            inhibitWaitTicks :=
              (w.inhibit e aggro identity.npcId threatIdentity.npcId).2.inhibitWaitTicks + 1
            aggroScore := 0
            isInhibited := false })
  | holds (aggro : AggroComp) (toil : ToilComp) (threat : Entity)
      (identity threatIdentity : IdentityComp) (text : String)
      (roused : w.reg.aggro e = some aggro) (toils : w.reg.toil e = some toil)
      (spotted : aggro.threatEntity.filter (w.reg.valid ·) = some threat)
      (known : w.reg.identity threat = some threatIdentity) (sentient : w.isSentient e = true)
      (early : ¬100 <
        (w.inhibit e aggro identity.npcId threatIdentity.npcId).2.inhibitWaitTicks + 1) :
      Reacts w e .running
        ((((w.inhibit e aggro identity.npcId threatIdentity.npcId).1.setAggro e
          { (w.inhibit e aggro identity.npcId threatIdentity.npcId).2 with
            inhibitWaitTicks :=
              (w.inhibit e aggro identity.npcId threatIdentity.npcId).2.inhibitWaitTicks + 1 }).setToil
                e { toil with state := .interrupted }).setActivity e text)

theorem inhibitOrAttack_cases {w w' : World F} {e : Entity} {status : NodeStatus}
    (ran : w.actionInhibitOrAttack e = some (status, w')) : Reacts w e status w' := by
  unfold actionInhibitOrAttack at ran
  split at ran
  next calm =>
    obtain ⟨rfl, rfl⟩ := Prod.mk.inj (Option.some.inj ran)
    exact .unaware calm
  next aggro roused =>
    simp only [Option.bind_eq_bind, Option.bind_eq_some_iff] at ran
    obtain ⟨identity, -, toil, toils, activity, -, ran⟩ := ran
    split at ran
    next gone =>
      obtain ⟨rfl, rfl⟩ := Prod.mk.inj (Option.some.inj ran)
      exact .forgets aggro roused gone
    next threat spotted =>
      simp only [Option.bind_eq_some_iff] at ran
      obtain ⟨threatIdentity, known, ran⟩ := ran
      split at ran
      next wild =>
        obtain ⟨rfl, rfl⟩ := Prod.mk.inj (Option.some.inj ran)
        exact .attacks aggro toil threat roused toils spotted (by simpa using wild)
      next sentient =>
        have sentient : w.isSentient e = true := by simpa using sentient
        split at ran
        next late =>
          obtain ⟨rfl, rfl⟩ := Prod.mk.inj (Option.some.inj ran)
          exact .givesUp aggro threat identity threatIdentity roused spotted known sentient late
        next early =>
          obtain ⟨rfl, rfl⟩ := Prod.mk.inj (Option.some.inj ran)
          exact .holds aggro toil threat identity threatIdentity _ roused toils spotted known sentient
            early

omit [Scalar F] in
theorem canWander_pure {w w' : World F} {e : Entity} {status : NodeStatus}
    (ran : w.conditionCanWander e = some (status, w')) : w' = w := by
  unfold conditionCanWander at ran
  split at ran <;> exact (Prod.mk.inj (Option.some.inj ran)).2.symm

inductive Wanders (w : World F) (e : Entity) (loc : LocationComp F) (job : JobComp F)
    (toil : ToilComp) (draw : BehaviorDraw) : NodeStatus → World F → Prop
  | walks (moves : toil.state = .moving) : Wanders w e loc job toil draw .running w
  | lingers (works : toil.state = .working) (strolls : job.intent = "배회 중")
      (lasts : 0 < toil.durationTicks) :
      Wanders w e loc job toil draw .running
        (w.setToil e { toil with durationTicks := toil.durationTicks - 1 })
  | ends (works : toil.state = .working) (strolls : job.intent = "배회 중")
      (done : ¬0 < toil.durationTicks) :
      Wanders w e loc job toil draw .success
        (((w.setJob e { job with intent := "" }).setToil e
          { toil with state := .idle, currentAction := "" }).setActivity e "대기")
  | rests (idle : toil.state = .idle) (stays : draw.rand 0 % 40 ≠ 0) :
      Wanders w e loc job toil draw .running (w.setActivity e "대기")
  | halts (idle : toil.state = .idle) (nowhere : w.wanderTarget loc draw = none) :
      Wanders w e loc job toil draw .failure w
  | setsOut (target : F × F) (idle : toil.state = .idle) (goes : draw.rand 0 % 40 = 0)
      (found : w.wanderTarget loc draw = some target) :
      Wanders w e loc job toil draw .running
        ((((w.setJob e
          { job with
            targetX := target.1
            targetZ := target.2
            targetLocation := loc.locationName
            intent := "배회 중"
            priority := 0
            isActive := false }).clearPath e).setToil e
              { toil with state := .moving, currentAction := "배회 중" }).setActivity e "주변 배회 중")
  | yields (awake : toil.state ≠ .idle) : Wanders w e loc job toil draw .failure w

theorem wander_cases {w w' : World F} {e : Entity} {draw : BehaviorDraw} {status : NodeStatus}
    (ran : w.actionWander e draw = some (status, w')) :
    ∃ loc job toil, w.reg.location e = some loc ∧ w.reg.job e = some job ∧
      w.reg.toil e = some toil ∧ Wanders w e loc job toil draw status w' := by
  simp only [actionWander, Option.bind_eq_bind, Option.bind_eq_some_iff] at ran
  obtain ⟨loc, stands, job, works, toil, toils, activity, -, identity, -, ran⟩ := ran
  refine ⟨loc, job, toil, stands, works, toils, ?_⟩
  split at ran
  next moves =>
    obtain ⟨rfl, rfl⟩ := Prod.mk.inj (Option.some.inj ran)
    exact .walks moves
  split at ran
  next strolling =>
    simp only [Bool.and_eq_true, decide_eq_true_eq] at strolling
    split at ran
    next lasts =>
      obtain ⟨rfl, rfl⟩ := Prod.mk.inj (Option.some.inj ran)
      exact .lingers strolling.1 strolling.2 lasts
    next done =>
      obtain ⟨rfl, rfl⟩ := Prod.mk.inj (Option.some.inj ran)
      exact .ends strolling.1 strolling.2 done
  split at ran
  next idle =>
    split at ran
    next stays =>
      obtain ⟨rfl, rfl⟩ := Prod.mk.inj (Option.some.inj ran)
      exact .rests idle stays
    next goes =>
      split at ran
      next nowhere =>
        obtain ⟨rfl, rfl⟩ := Prod.mk.inj (Option.some.inj ran)
        exact .halts idle nowhere
      next target found =>
        obtain ⟨rfl, rfl⟩ := Prod.mk.inj (Option.some.inj ran)
        exact .setsOut target idle (by simpa using goes) found
  next awake =>
    obtain ⟨rfl, rfl⟩ := Prod.mk.inj (Option.some.inj ran)
    exact .yields awake

end World

end MundusVivens
