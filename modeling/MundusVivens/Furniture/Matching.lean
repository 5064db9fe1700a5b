import MundusVivens.Accounts.Binding
import MundusVivens.Furniture.Crises
import MundusVivens.Furniture.Fittings
import MundusVivens.World.Body

set_option autoImplicit false

/-!
# The matching of NPCs and furniture

Every step of the server keeps it. Only the furniture leaf makes and breaks pairs;
the two checks of the affordance system find nothing to correct.
-/

namespace MundusVivens

open Scalar BehaviorTree Runs

variable {F : Type} [Scalar F]

omit [Scalar F] in
theorem Within.others {s : Scope} {e x : Entity} {w w' : World F} (within : Within s e x w w')
    (other : x ≠ e) : Within ⟨[], s.all⟩ e x w w' :=
  fun p foreign _ => within p foreign fun same => absurd same other

namespace World

variable (w : World F) (e x : Entity)

omit [Scalar F] in
@[simp] theorem fittings_setIdentity (identity : IdentityComp) :
    (w.setIdentity e identity).fittings = w.fittings := rfl

omit [Scalar F] in
@[simp] theorem fittings_setLocation (loc : LocationComp F) :
    (w.setLocation e loc).fittings = w.fittings := rfl

omit [Scalar F] in
@[simp] theorem fittings_setActivity (text : String) :
    (w.setActivity e text).fittings = w.fittings := rfl

omit [Scalar F] in
@[simp] theorem fittings_setJob (job : JobComp F) : (w.setJob e job).fittings = w.fittings := rfl

omit [Scalar F] in
@[simp] theorem fittings_setToil (toil : ToilComp) :
    (w.setToil e toil).fittings = w.fittings := rfl

omit [Scalar F] in
@[simp] theorem fittings_issue (request : Request F) :
    (w.issue request).fittings = w.fittings := rfl

@[simp] theorem fittings_updateEntityPosition (x z : F) :
    (w.updateEntityPosition e x z).fittings = w.fittings := by
  obtain ⟨grid, location, moved⟩ := w.updateEntityPosition_eq e x z
  rw [moved]
  rfl

omit [Scalar F] in
@[simp] theorem fittings_settle (toil : ToilComp) (texts : String × String) :
    (w.settle e toil texts).fittings = w.fittings := rfl

omit [Scalar F] in
theorem fittings_setNeeds (needs : NeedsComp F) : (w.setNeeds e needs).fittings =
    Function.update w.fittings e { w.fittings e with crisis := some needs.crisis } := by
  funext x
  by_cases same : x = e <;> simp [fittings, setNeeds, same]

omit [Scalar F] in
theorem fittings_setOccupiedBy (f : Entity) (occupant : Option Entity) (aff : AffordanceComp)
    (stands : w.reg.affordance f = some aff) : (w.setOccupiedBy f occupant).fittings =
    Function.update w.fittings f
      { w.fittings f with affordance := some { aff with occupiedBy := occupant } } := by
  funext x
  by_cases same : x = f <;> simp [fittings, setOccupiedBy, same, stands]

omit [Scalar F] in
theorem fittings_destroy (grid : LocationRegistry F) (f : Entity) :
    ({ w with grid := grid, reg := w.reg.destroy f } : World F).fittings =
      Function.update w.fittings f .gone := by
  funext x
  by_cases same : x = f <;> simp [fittings, Registry.destroy, Fitting.gone, same]

theorem fittings_spawnCamp (loc : LocationComp F) (name : String) (type : AffordanceType) :
    (w.spawnCamp loc name type).fittings =
      Function.update w.fittings w.reg.nextEntity ⟨true, false, false, none, some ⟨type, none, true⟩⟩ := by
  rw [spawnCamp, fittings_updateEntityPosition]
  funext x
  by_cases same : x = w.reg.nextEntity <;>
    simp [fittings, setAffordance, setLocation, setIdentity, Registry.create, Registry.destroy, same]

-- What the source keeps by hand.
abbrev Matched : Prop := w.fittings.Matched

variable {w e}

omit [Scalar F] in
theorem Matched.resident (matched : w.Matched) {needs : NeedsComp F}
    (needy : w.reg.needs e = some needs) : w.Resident e := by
  obtain ⟨valid, unplayed, unfurnished⟩ := matched.needful e (by simp [fittings, needy])
  exact ⟨valid, by simpa [fittings] using unplayed, unfurnished⟩

omit [Scalar F] in
theorem Matched.planted (matched : w.Matched) (planted : w.reg.behaviorTree e = some ()) :
    w.Resident e := by
  have needy := matched.living e (by simp [fittings, planted])
  obtain ⟨needs, stored⟩ := Option.isSome_iff_exists.mp needy
  obtain ⟨own, owned, -⟩ := Option.map_eq_some_iff.mp stored
  exact matched.resident owned

omit [Scalar F] in
theorem serves_free (needs : NeedsComp F) (loc : LocationComp F) (rank : Entity → Nat) (f : Entity)
    (found : w.freeFurniture needs loc rank = some f) :
    ∃ aff furnLoc, w.reg.affordance f = some aff ∧ w.reg.location f = some furnLoc ∧
      furnLoc.zoneId = loc.zoneId ∧ aff.occupiedBy = none ∧
      serves needs.currentSurvivalType aff.type = true := by
  have passed := List.find?_some found
  split at passed
  next aff furnLoc stands located =>
    simp only [Bool.and_eq_true, decide_eq_true_eq, Option.isNone_iff_eq_none] at passed
    exact ⟨aff, furnLoc, stands, located, passed.1.1, passed.1.2, passed.2⟩
  next => cases passed

omit [Scalar F] in
theorem occupyFurniture_matched (matched : w.Matched) (w' : World F) (needs : NeedsComp F)
    (loc : LocationComp F) (toil : ToilComp) (f : Entity) (aff : AffordanceComp)
    (needy : w.reg.needs e = some needs) (resolving : needs.isResolvingSurvival = true)
    (unseated : needs.occupiedFurniture = none) (stands : w.reg.affordance f = some aff)
    (free : aff.occupiedBy = none) (served : serves needs.currentSurvivalType aff.type = true)
    (occupied : w.occupyFurniture e needs loc toil f = some w') : w'.Matched := by
  obtain ⟨aff', place, -, -, rfl⟩ := occupyFurniture_eq occupied
  have apart : e ≠ f := Fittings.Matched.apart matched e f (by simp [fittings, needy]) (by
    simp [fittings, stands])
  have paired := Fittings.Matched.occupy matched e f needs.crisis aff (by simp [fittings, needy])
    resolving unseated stands free served
  rw [Matched, fittings_settle, fittings_setLocation, fittings_setNeeds,
    fittings_setOccupiedBy w f (some e) aff stands, Function.update_of_ne apart]
  exact paired

theorem spawnCamp_matched (matched : w.Matched) (loc : LocationComp F) (name : String)
    (type : AffordanceType) : (w.spawnCamp loc name type).Matched := by
  rw [Matched, fittings_spawnCamp]
  exact Fittings.Matched.build matched w.reg.nextEntity _ (w.reg.issued _ (Nat.le_refl _)) rfl
    (by simp) (by simp) (by simp) rfl rfl

theorem spawnCamp_affordance (loc : LocationComp F) (name : String) (type : AffordanceType) :
    (w.spawnCamp loc name type).reg.affordance w.reg.nextEntity = some ⟨type, none, true⟩ := by
  have built := congrFun (w.fittings_spawnCamp loc name type) w.reg.nextEntity
  rw [Function.update_self] at built
  exact congrArg Fitting.affordance built

theorem spawnCamp_needs (matched : w.Matched) (loc : LocationComp F) (name : String)
    (type : AffordanceType) (needs : NeedsComp F) (needy : w.reg.needs e = some needs) :
    (w.spawnCamp loc name type).reg.needs e = some needs := by
  have resident := matched.resident needy
  have within := w.spawnCamp_within e e ⟨[], [.handles, .grid]⟩ loc name type resident.valid
    (by simp) (by simp)
  have kept : (w.spawnCamp loc name type).reg.needs e = w.reg.needs e := within.same .needs rfl
  exact kept.trans needy

theorem recharge_crisis (needs : NeedsComp F) (amount : F) :
    (recharge needs amount).crisis = needs.crisis := by
  simp [NeedsComp.crisis]

omit [Scalar F] in
theorem Matched.setNeeds_same (matched : w.Matched) (needs charged : NeedsComp F)
    (needy : w.reg.needs e = some needs) (same : charged.crisis = needs.crisis) :
    (w.setNeeds e charged).Matched := by
  have unchanged : (w.setNeeds e charged).fittings = w.fittings := by
    rw [fittings_setNeeds, same]
    refine Function.update_eq_self_iff.mpr ?_
    simp [fittings, needy]
  rw [Matched, unchanged]
  exact matched

omit [Scalar F] in
theorem leaveFurniture_matched (matched : w.Matched) (left : World F) (needs after : NeedsComp F)
    (needy : (w.reg.needs e).map NeedsComp.crisis = some needs.crisis)
    (unseated : after.occupiedFurniture = none)
    (leaves : w.Leaves needs left) : (left.setNeeds e after).Matched := by
  have vacated (f : Entity) (aff : AffordanceComp) (seated : needs.occupiedFurniture = some f)
      (stands : w.reg.affordance f = some aff) :=
    Fittings.Matched.vacate matched e f needs.crisis after.crisis aff needy seated stands unseated
  have apart (f : Entity) (aff : AffordanceComp) (stands : w.reg.affordance f = some aff) : e ≠ f :=
    Fittings.Matched.apart matched e f (by simp [fittings, needy]) (by simp [fittings, stands])
  cases leaves with
  | floor standing =>
      have before : w.fittings.seat e = none := by
        simp [Fittings.seat, fittings, needy, NeedsComp.crisis, standing]
      rw [Matched, fittings_setNeeds]
      exact Fittings.Matched.flag matched e after.crisis (by simp [fittings, needy]) before unseated
  | seat f aff seated stands =>
      rw [Matched, fittings_setNeeds, fittings_setOccupiedBy w f none aff stands,
        Function.update_of_ne (apart f aff stands)]
      exact vacated f aff seated stands
  | camp f aff seated stands =>
      have apart := apart f aff stands
      have vacated := vacated f aff seated stands
      have calm : (w.fittings f).crisis = none := by
        by_contra has
        have bare := matched.needful f (by simpa [Option.isSome_iff_ne_none] using has)
        simp [fittings, stands] at bare
      have removed := vacated.demolish f
        (by rw [Fittings.relink_crisis, if_neg (Ne.symm apart), calm])
        (by simp [Fittings.guest, Fittings.relink_affordance _ _ _ _ _ _ apart])
      rw [Matched, fittings_setNeeds, fittings_destroy, fittings_setOccupiedBy w f none aff stands]
      rw [Fittings.relink, Function.update_comm apart] at removed
      simpa [Function.update_of_ne apart] using removed

theorem interactFurniture_matched (matched : w.Matched) (crisis : w.Resolves e) (w' : World F)
    (draw : BehaviorDraw) (status : NodeStatus)
    (ran : w.actionInteractFurniture e draw = some (status, w')) : w'.Matched := by
  obtain ⟨own, owned, resolving, known⟩ := crisis.resolves
  obtain ⟨needs, loc, toil, job, identity, attends, acted⟩ := interactFurniture_cases ran
  obtain rfl : own = needs := Option.some.inj (owned.symm.trans attends.needy)
  cases acted with
  | settles seeks settled =>
      simp only [seeksSeat, Bool.and_eq_true, Option.isNone_iff_eq_none] at seeks
      have unseated : own.occupiedFurniture = none := seeks.1.1
      cases settled with
      | seat f found taken =>
          obtain ⟨aff, -, stands, -, -, free, served⟩ := serves_free own loc draw.rank f found
          exact occupyFurniture_matched matched w' own loc toil f aff owned resolving unseated stands
            free served taken
      | camp name type full wild suits taken =>
          have known : own.currentSurvivalType ≠ .none := by
            rcases known with hungry | tired <;> simp [*]
          exact occupyFurniture_matched (spawnCamp_matched matched loc name type) w' own loc toil _ _
            (spawnCamp_needs matched loc name type own owned) resolving unseated
            (spawnCamp_affordance loc name type) rfl (suits known) taken
      | floor => exact matched
  | recharges amount => exact matched.setNeeds_same own _ owned (recharge_crisis own amount)
  | resolves amount left rests recovers full leaves =>
      rw [Matched, fittings_setActivity, fittings_setToil, fittings_setJob, fittings_issue]
      exact leaveFurniture_matched matched left _ _
        (by rw [owned, Option.map_some, recharge_crisis own amount]) rfl leaves

omit [Scalar F] in
theorem Matched.of_crisis (matched : w.Matched) (w' : World F) (needs flagged : NeedsComp F)
    (others : ∀ x, x ≠ e → w'.fittings x = w.fittings x)
    (own : w'.fittings e = { w.fittings e with crisis := some flagged.crisis })
    (needy : w.reg.needs e = some needs) (before : needs.occupiedFurniture = none)
    (after : flagged.occupiedFurniture = none) : w'.Matched := by
  have flags : w'.fittings =
      Function.update w.fittings e { w.fittings e with crisis := some flagged.crisis } := by
    funext x
    by_cases same : x = e
    next => subst same; simp [own]
    next => simp [same, others x same]
  rw [Matched, flags]
  exact Fittings.Matched.flag matched e flagged.crisis (by simp [fittings, needy])
    (by simp [Fittings.seat, fittings, needy, NeedsComp.crisis, before]) after

omit [Scalar F] in
theorem condition_matched (matched : w.Matched) (w' : World F)
    (within : ∀ x, Within crisisScope e x w w')
    (flags : w' = w ∨ ∃ needs flagged, w.reg.needs e = some needs ∧
      needs.isResolvingSurvival = false ∧ w'.reg.needs e = some flagged ∧
      flagged.occupiedFurniture = needs.occupiedFurniture) : w'.Matched := by
  rcases flags with rfl | ⟨needs, flagged, needy, calm, shown, same⟩
  · exact matched
  have unseated : needs.occupiedFurniture = none :=
    Fittings.Matched.unseated matched e needs.crisis (by simp [fittings, needy]) calm
  refine matched.of_crisis w' needs flagged (fun x other => ?_) ?_ needy unseated
    (same.trans unseated)
  · exact ((within x).others other).fittings rfl rfl rfl
  · have sameValid : w'.reg.valid e = w.reg.valid e := (within e).same .valid rfl
    have sameTag : w'.reg.playerTag e = w.reg.playerTag e := (within e).same .playerTag rfl
    have sameTree : w'.reg.behaviorTree e = w.reg.behaviorTree e :=
      (within e).same .behaviorTree rfl
    have sameAffordance : w'.reg.affordance e = w.reg.affordance e :=
      (within e).same .affordance rfl
    simp [fittings, sameValid, sameTag, sameTree, sameAffordance, shown]

theorem conditionInCrisis_flags (crisis : Crisis F) (w' : World F) (status : NodeStatus)
    (ran : w.conditionInCrisis crisis e = some (status, w')) :
    w' = w ∨ ∃ needs flagged, w.reg.needs e = some needs ∧ needs.isResolvingSurvival = false ∧
      w'.reg.needs e = some flagged ∧
      flagged.occupiedFurniture = needs.occupiedFurniture := by
  obtain ⟨needs, needy, checks⟩ := inCrisis_cases ran
  cases checks with
  | ongoing => exact .inl rfl
  | enters identity job calm =>
      refine .inr ⟨needs,
        { needs with isResolvingSurvival := true, currentSurvivalType := crisis.type }, needy,
        calm, ?_, rfl⟩
      simp [setToil, setJob, issue, clearPath, eraseBusy, Registry.eraseBusy, setNeeds]
  | spared => exact .inl rfl

omit [Scalar F] in
theorem conditionIsScheduled_flags (crisis : Crisis F) (w' : World F) (status : NodeStatus)
    (ran : w.conditionIsScheduled crisis e = some (status, w')) :
    w' = w ∨ ∃ needs flagged, w.reg.needs e = some needs ∧ needs.isResolvingSurvival = false ∧
      w'.reg.needs e = some flagged ∧
      flagged.occupiedFurniture = needs.occupiedFurniture := by
  obtain ⟨needs, needy, checks⟩ := isScheduled_cases ran
  cases checks with
  | ongoing => exact .inl rfl
  | begins job toil loc calm =>
      exact .inr ⟨needs,
        { needs with isResolvingSurvival := true, currentSurvivalType := crisis.type }, needy,
        calm, by simp [setNeeds], rfl⟩
  | skips => exact .inl rfl

theorem findFurniture_matched (matched : w.Matched) (w' : World F) (draw : BehaviorDraw)
    (status : NodeStatus) (ran : w.actionFindFurniture e draw = some (status, w')) :
    w'.Matched := by
  obtain ⟨-, needs, job, loc, toil, -, -, -, -, searches⟩ := findFurniture_cases ran
  have aimed (m : World F) (place : LocationComp F) (known : m.Matched) :
      (m.aimJob e job toil place).Matched := by
    rw [aimJob, Matched, fittings_setToil, fittings_setJob]
    exact known
  cases searches with
  | keeps => exact matched
  | aims dist place => exact aimed w place matched
  | camps name type => exact aimed _ loc (spawnCamp_matched matched loc name type)
  | stays => exact aimed w loc matched

theorem runLeaf_matched (draw : BehaviorDraw) (leaf : SurvivalLeaf) (status : NodeStatus)
    (w w' : World F) (matched : w.Matched) (crisis : startsInCrisis e leaf w)
    (ran : runLeaf e draw leaf w = some (status, w')) : w'.Matched := by
  have apart (searches : leaf ≠ .findFurniture) (interacts : leaf ≠ .interactFurniture) (x : Entity) :
      Within leaf.scope e x w w' :=
    runLeaf_apart_within e x draw leaf status w w' searches interacts ran
  have untouched (searches : leaf ≠ .findFurniture) (interacts : leaf ≠ .interactFurniture)
      (spares : leaf.scope.sparesResidents = true) (carefree : leaf.scope.covers .needs = false)
      (rooted : leaf.scope.covers .behaviorTree = false) : w'.Matched := by
    have same : w'.fittings = w.fittings :=
      funext fun x => (apart searches interacts x).fittings spares carefree rooted
    rw [Matched, same]
    exact matched
  cases leaf with
  | findFurniture => exact findFurniture_matched matched w' draw status ran
  | interactFurniture => exact interactFurniture_matched matched (crisis rfl) w' draw status ran
  | isHungry | isFatigued =>
      exact condition_matched matched w' (apart (by simp) (by simp))
        (conditionInCrisis_flags _ w' status ran)
  | isScheduledEat | isScheduledSleep =>
      exact condition_matched matched w' (apart (by simp) (by simp))
        (conditionIsScheduled_flags _ w' status ran)
  | _ => exact untouched (by simp) (by simp) rfl rfl rfl

theorem behaviorTree_matched (draw : BehaviorDraw) (w w' : World F) (matched : w.Matched)
    (visited : w.behaviorTree e draw = some w') : w'.Matched :=
  behaviorTree_kept e draw Matched (fun _ _ => True) (fun _ matched planted => matched.planted planted)
    (fun leaf w status w' here starts _ ran => runLeaf_matched draw leaf status w w' here starts ran)
    w w' matched visited fun _ _ => trivial

omit [Scalar F] in
theorem checkOccupant_idle (matched : w.Matched) (f : Entity) : w.checkOccupant f = w := by
  unfold checkOccupant
  split
  next type occupant temporary stands =>
    have seated : w.fittings.seat occupant = some f :=
      (matched.matched occupant f).mpr (by simp [Fittings.guest, fittings, stands])
    rw [seat_fittings, seatOf] at seated
    obtain ⟨needs, needy, sits⟩ := Option.bind_eq_some_iff.mp seated
    simp [(matched.resident needy).valid, needy, sits]
  next => rfl

omit [Scalar F] in
theorem resolveAffordance_stays (matched : w.Matched) (e : Entity) :
    w.resolveAffordance e = some w := by
  unfold resolveAffordance
  split
  next needs toil job needy _ _ =>
    split
    next => rfl
    next calm =>
      have unseated : needs.occupiedFurniture = none :=
        Fittings.Matched.unseated matched e needs.crisis (by simp [fittings, needy])
          (by simpa [NeedsComp.crisis] using calm)
      rw [unseated]
  next => rfl

omit [Scalar F] in
theorem resolveAffordance_idle (matched : w.Matched) (w' : World F)
    (resolved : w.resolveAffordance e = some w') : w' = w :=
  Option.some.inj (resolved.symm.trans (resolveAffordance_stays matched e))

omit [Scalar F] in
theorem Matched.of_fittings (matched : w.Matched) (w' : World F)
    (same : ∀ x, w'.fittings x = w.fittings x) : w'.Matched := by
  rw [Matched, funext same]
  exact matched

omit [Scalar F] in
theorem Matched.of_needs (matched : w.Matched) (w' : World F) (s : Scope) (e : Entity)
    (within : ∀ x, Within s e x w w') (spares : s.sparesResidents = true)
    (rooted : s.covers .behaviorTree = false)
    (same : ∀ x, (w'.reg.needs x).map NeedsComp.crisis = (w.reg.needs x).map NeedsComp.crisis) :
    w'.Matched := by
  simp only [Scope.sparesResidents, List.all_cons, List.all_nil, Bool.and_true, Bool.and_eq_true,
    Bool.not_eq_true'] at spares
  obtain ⟨valid, playerTag, affordance⟩ := spares
  refine matched.of_fittings w' fun x => ?_
  have sameValid : w'.reg.valid x = w.reg.valid x := (within x).same .valid valid
  have sameTag : w'.reg.playerTag x = w.reg.playerTag x := (within x).same .playerTag playerTag
  have sameTree : w'.reg.behaviorTree x = w.reg.behaviorTree x :=
    (within x).same .behaviorTree rooted
  have sameAffordance : w'.reg.affordance x = w.reg.affordance x :=
    (within x).same .affordance affordance
  simp [fittings, sameValid, sameTag, sameTree, sameAffordance, same x]

theorem jobDriver_crisis (w' : World F) (x : Entity) (driven : w.jobDriver e = some w') :
    (w'.reg.needs x).map NeedsComp.crisis = (w.reg.needs x).map NeedsComp.crisis := by
  refine jobDriver_preserves
    (fun m => (m.reg.needs x).map NeedsComp.crisis = (w.reg.needs x).map NeedsComp.crisis)
    (fun write before => Eq.trans ?_ before) driven rfl
  cases write with
  | refill needs needy =>
      by_cases same : x = e
      next => subst same; simp [setNeeds, needy, NeedsComp.crisis]
      next => simp [setNeeds, same]
  | wait _ tagged =>
      obtain ⟨-, _, rfl⟩ := setBusy_cases tagged
      rfl
  | equip | finish | toil | activity | report => rfl

theorem survivalOverride_crisis (x : Entity) :
    ((w.survivalOverride e).reg.needs x).map NeedsComp.crisis =
      (w.reg.needs x).map NeedsComp.crisis := by
  unfold survivalOverride
  split
  next needs _ _ _ needy _ _ _ =>
    by_cases same : x = e
    next => subst same; simp [setNeeds, needy, NeedsComp.crisis]
    next => simp [setNeeds, same]
  next => rfl

theorem systemDeath_matched (matched : w.Matched) (e : Entity) : (w.systemDeath e).Matched := by
  have within := w.systemDeath_within e
  have parts (x : Entity) : ∃ planted, (w.systemDeath e).fittings x = { w.fittings x with hasTree := planted } ∧
      (planted = (w.fittings x).hasTree ∨ (x = e ∧ planted = false)) := by
    have sameValid : (w.systemDeath e).reg.valid x = w.reg.valid x := (within x).same .valid rfl
    have sameTag : (w.systemDeath e).reg.playerTag x = w.reg.playerTag x :=
      (within x).same .playerTag rfl
    have sameNeeds : (w.systemDeath e).reg.needs x = w.reg.needs x := (within x).same .needs rfl
    have sameAffordance : (w.systemDeath e).reg.affordance x = w.reg.affordance x :=
      (within x).same .affordance rfl
    refine ⟨((w.systemDeath e).reg.behaviorTree x).isSome, ?_, ?_⟩
    · simp [fittings, sameValid, sameTag, sameNeeds, sameAffordance]
    · by_cases same : x = e
      next =>
        subst same
        unfold systemDeath
        split
        next =>
          split
          next => exact .inr ⟨rfl, by simp [eraseBehaviorTree]⟩
          next => exact .inl rfl
        next => exact .inl rfl
      next =>
        have sameTree : (w.systemDeath e).reg.behaviorTree x = w.reg.behaviorTree x :=
          ((within x).others same).same .behaviorTree rfl
        exact .inl (by rw [sameTree]; rfl)
  obtain ⟨planted, own, cause⟩ := parts e
  rcases cause with rfl | ⟨-, rfl⟩
  · refine matched.of_fittings _ fun x => ?_
    by_cases same : x = e
    next => subst same; exact own
    next =>
      obtain ⟨planted, there, rfl | ⟨here, -⟩⟩ := parts x
      · exact there
      · exact absurd here same
  · have uprooted : (w.systemDeath e).fittings =
        Function.update w.fittings e { w.fittings e with hasTree := false } := by
      funext x
      by_cases same : x = e
      next => subst same; simp [own]
      next =>
        obtain ⟨planted, there, rfl | ⟨here, -⟩⟩ := parts x
        · simpa [same] using there
        · exact absurd here same
    rw [Matched, uprooted]
    exact Fittings.Matched.uproot matched e

omit [Scalar F] in
theorem Matched.player (matched : w.Matched) {player : Entity} {tag : PlayerTag}
    (tagged : w.reg.playerTag player = some tag) :
    w.reg.needs player = none ∧ w.reg.affordance player = none := by
  constructor
  · by_contra has
    obtain ⟨needs, needy⟩ := Option.ne_none_iff_exists'.mp has
    simp [(matched.resident needy).unplayed] at tagged
  · by_contra has
    have fitted := matched.fitted player (by simpa [fittings, Option.isSome_iff_ne_none] using has)
    simp [fittings, tagged] at fitted

omit [Scalar F] in
theorem removePlayer_matched (matched : w.Matched) (player : Entity) (tag : PlayerTag)
    (tagged : w.reg.playerTag player = some tag) : (w.removePlayer player tag).Matched := by
  obtain ⟨needless, unfurnished⟩ := matched.player tagged
  have gone : (w.removePlayer player tag).fittings = Function.update w.fittings player .gone := by
    funext x
    by_cases same : x = player
    next =>
      subst same
      simp [removePlayer, fittings, Registry.destroy, Fitting.gone]
    next =>
      simpa [same] using (w.removePlayer_within player x player tag same).fittings rfl rfl rfl
  rw [Matched, gone]
  exact Fittings.Matched.demolish matched player (by simp [fittings, needless])
    (by simp [Fittings.guest, fittings, unfurnished])

omit [Scalar F] in
theorem cleanupPlayer_matched (matched : w.Matched) (player : Entity) :
    (w.cleanupPlayer player).Matched := by
  unfold cleanupPlayer
  split
  next => exact matched
  next tag tagged =>
    split
    next => exact matched
    next => exact removePlayer_matched matched player tag tagged

theorem login_matched (matched : w.Matched) (w' : World F) (sessionIndex : UInt32)
    (playerId playerName : String) (logged : w.login sessionIndex playerId playerName = some w') :
    w'.Matched := by
  simp only [login, Option.bind_eq_bind, Option.bind_eq_some_iff] at logged
  obtain ⟨⟨player, bound⟩, binds, loc, -, stored⟩ := logged
  obtain rfl := Option.some.inj stored
  rw [Matched, fittings_updateEntityPosition]
  unfold loginBind at binds
  split at binds
  next =>
    simp only [Option.bind_eq_bind, Option.bind_eq_some_iff] at binds
    obtain ⟨made, created, stored⟩ := binds
    obtain ⟨rfl, rfl⟩ := Prod.mk.inj (Option.some.inj stored)
    have entered : made.fittings =
        Function.update w.fittings w.reg.nextEntity ⟨true, true, false, none, none⟩ := by
      funext x
      by_cases same : x = w.reg.nextEntity
      next =>
        simp only [loginNew, Option.bind_eq_bind, Option.bind_eq_some_iff] at created
        obtain ⟨tagged, checked, stored⟩ := created
        obtain rfl := Option.some.inj stored
        rw [Registry.setPlayerTag, dif_pos (by simp [Registry.create])] at checked
        obtain rfl := Option.some.inj checked
        subst same
        simp [fittings, setLastSynced, setLocation, setIdentity, Registry.create, Registry.destroy]
      next =>
        simpa [same] using (w.loginNew_within made 0 x sessionIndex playerId playerName same
          created).fittings rfl rfl rfl
    rw [entered]
    exact Fittings.Matched.build matched w.reg.nextEntity _ (w.reg.issued _ (Nat.le_refl _)) rfl
      (by simp) (by simp) (by simp) rfl rfl
  next target _ =>
    simp only [Option.bind_eq_bind, Option.bind_eq_some_iff] at binds
    obtain ⟨made, again, stored⟩ := binds
    obtain ⟨rfl, rfl⟩ := Prod.mk.inj (Option.some.inj stored)
    refine Matched.of_fittings matched made fun x => ?_
    simp only [loginAgain, Option.bind_eq_bind, Option.bind_eq_some_iff] at again
    obtain ⟨old, tagged, stored⟩ := again
    obtain rfl := Option.some.inj stored
    by_cases same : x = target
    next => subst same; simp [fittings, Registry.modifyPlayerTag, tagged]
    next => simp [fittings, Registry.modifyPlayerTag, same]

end World

theorem step_matched (event : Event F) (w w' : World F) (matched : w.Matched)
    (stepped : step event w = some w') : w'.Matched := by
  have apart (remakes : event.remakes = false) (spares : event.scope.sparesResidents = true)
      (carefree : event.scope.covers .needs = false)
      (rooted : event.scope.covers .behaviorTree = false) : w'.Matched :=
    matched.of_fittings w' fun x =>
      (step_within event w w' x remakes stepped).fittings spares carefree rooted
  cases event with
  | cleanupPlayer player =>
      obtain rfl := Option.some.inj stepped
      exact World.cleanupPlayer_matched matched player
  | command cmd =>
      cases cmd with
      | login sessionIndex playerId playerName =>
          exact World.login_matched matched w' sessionIndex playerId playerName stepped
      | _ => exact apart rfl rfl rfl rfl
  | jobDriver e =>
      exact matched.of_needs w' _ e (fun x => step_within (.jobDriver e) w w' x rfl stepped) rfl rfl
        fun x => World.jobDriver_crisis w' x stepped
  | survivalOverride e =>
      obtain rfl := Option.some.inj stepped
      exact matched.of_needs _ _ e (w.survivalOverride_within e) rfl rfl
        (World.survivalOverride_crisis (w := w) (e := e))
  | behaviorTree e draw => exact World.behaviorTree_matched draw w w' matched stepped
  | death e =>
      obtain rfl := Option.some.inj stepped
      exact World.systemDeath_matched matched e
  | checkOccupant f =>
      obtain rfl := Option.some.inj stepped
      rw [World.checkOccupant_idle matched f]
      exact matched
  | resolveAffordance e =>
      rw [World.resolveAffordance_idle matched w' stepped]
      exact matched
  | _ => exact apart rfl rfl rfl rfl

theorem placeFurniture_matched (w : World F) (furn : FurnitureData F) (matched : w.Matched) :
    (placeFurniture w furn).Matched := by
  have placed : (placeFurniture w furn).fittings = Function.update w.fittings w.reg.nextEntity
      ⟨true, false, false, none, some ⟨.ofUInt8 furn.type, none, furn.isTemporary⟩⟩ := by
    rw [placeFurniture, World.fittings_updateEntityPosition]
    funext x
    by_cases same : x = w.reg.nextEntity <;>
      simp [World.fittings, World.setAffordance, World.setLocation, World.setIdentity,
        Registry.create, Registry.destroy, same]
  rw [World.Matched, placed]
  exact Fittings.Matched.build matched w.reg.nextEntity _ (w.reg.issued _ (Nat.le_refl _)) rfl
    (by simp) (by simp) (by simp) rfl rfl

theorem spawnAgent_matched (state : World F × UInt8) (agent : InitialAgentState F)
    (draw : NeedsDraw F) (matched : state.1.Matched) : (spawnAgent state agent draw).1.Matched := by
  obtain ⟨w, nextEmoId⟩ := state
  unfold spawnAgent
  dsimp only
  split
  next => exact matched
  next =>
    have spawned (m : World F) (emotions : EmotionRegistry) (id : UInt8)
        (created : m.fittings = World.fittings { w with reg := w.reg.create }) :
        (equipAgent { m with emotions := emotions } w.reg.nextEntity agent id draw).fittings =
          Function.update w.fittings w.reg.nextEntity
            ⟨true, false, true, some ⟨false, .none, none⟩, none⟩ := by
      have parts (x : Entity) := congrFun created x
      funext x
      have here := parts x
      by_cases same : x = w.reg.nextEntity
      next =>
        subst same
        simp only [World.fittings, Registry.create, Registry.destroy, Fitting.mk.injEq] at here
        simp_all [World.fittings, equipAgent, NeedsComp.crisis]
      next =>
        simp only [World.fittings, Registry.create, Registry.destroy, Fitting.mk.injEq] at here
        simp_all [World.fittings, equipAgent]
    rw [World.Matched, spawned]
    · exact Fittings.Matched.build matched w.reg.nextEntity _ (w.reg.issued _ (Nat.le_refl _)) rfl
        (by simp) (by simp) (by simp) rfl rfl
    · rw [World.fittings_updateEntityPosition]
      rfl

theorem bootstrap_matched (data : WorldBootstrapData F) (settings : SimulationSettings F)
    (obstacles : Option (List Obstacle)) (draws : Nat → NeedsDraw F) (w : World F)
    (booted : bootstrap data settings obstacles draws = some w) : w.Matched := by
  refine bootstrap_induction World.Matched data settings obstacles draws w booted ?_
    placeFurniture_matched spawnAgent_matched
  refine ⟨fun n has => ?_, fun n has => ?_, fun f has => ?_, fun n f => ?_, fun n own f has => ?_⟩
  all_goals simp_all [World.fittings, emptyWorld, Registry.empty, Fittings.seat, Fittings.guest]

theorem reachable_matched (start w : World F) (past : List (Transition (World F) (Event F)))
    (matched : start.Matched) (run : ServerRun start past w) : w.Matched :=
  run.preserved World.Matched matched fun w event w' => step_matched event w w'

/-- Furniture in use is paired with the NPC that uses it, and serves its crisis. -/
structure FurnitureMatching (w : World F) : Prop where
  paired : ∀ n f, w.seatOf n = some f ↔ w.reg.valid f = true ∧ w.guestOf f = some n
  unshared : ∀ n n' f, w.seatOf n = some f → w.seatOf n' = some f → n = n'
  served : ∀ n f, w.seatOf n = some f → w.isResolving n = true ∧
    ∃ needs aff, w.reg.needs n = some needs ∧ w.reg.affordance f = some aff ∧
      World.serves needs.currentSurvivalType aff.type = true

omit [Scalar F] in
theorem World.Matched.matching {w : World F} (matched : w.Matched) : FurnitureMatching w := by
  have links (n f : Entity) : w.seatOf n = some f ↔ w.guestOf f = some n := by
    have link := matched.matched n f
    rwa [World.seat_fittings, World.guest_fittings] at link
  constructor
  case paired =>
    intro n f
    rw [links]
    refine ⟨fun taken => ⟨?_, taken⟩, And.right⟩
    obtain ⟨aff, stands, -⟩ := Option.bind_eq_some_iff.mp taken
    exact (matched.fitted f (by simp [World.fittings, stands])).1
  case unshared =>
    intro n n' f first second
    rw [links] at first second
    simpa [first] using second
  case served =>
    intro n f seated
    obtain ⟨needs, needy, sits⟩ := Option.bind_eq_some_iff.mp seated
    obtain ⟨resolving, aff, stands, serves⟩ :=
      matched.served n needs.crisis f (by simp [World.fittings, needy]) sits
    have flagged : needs.isResolvingSurvival = true := resolving
    exact ⟨by simp [World.isResolving, needy, flagged], needs, aff, needy, stands, serves⟩

/-- In every reachable state the use of furniture is a matching. -/
theorem furniture_is_matching (data : WorldBootstrapData F) (settings : SimulationSettings F)
    (obstacles : Option (List Obstacle)) (draws : Nat → NeedsDraw F) (start w : World F)
    (past : List (Transition (World F) (Event F)))
    (booted : bootstrap data settings obstacles draws = some start)
    (run : ServerRun start past w) : FurnitureMatching w := by
  have matched := bootstrap_matched data settings obstacles draws start booted
  exact (reachable_matched start w past matched run).matching

def innData : WorldBootstrapData ℚ :=
  { locations := [⟨"여관", 10, 0, 10, 1, 1, 1⟩]
    agents := [⟨7, "ella", "엘라", "여관", 9, 0, 10, "평온", "대기", 1 / 2, []⟩]
    furniture := [⟨"식탁", 3, "여관", 10, 0, 10, false⟩, ⟨"긴 식탁", 3, "여관", 16, 0, 10, false⟩]
    npcSpeed := 2
    ticksPerGameHour := 60 }

def inn : World ℚ :=
  populate (emptyWorld innData ⟨2, 60⟩ (some [])) innData fun _ => ⟨10, 100⟩

theorem inn_boots : bootstrap innData ⟨2, 60⟩ (some []) (fun _ => ⟨10, 100⟩) = some inn := by
  rw [bootstrap, if_neg (by decide), if_neg (by decide +kernel)]
  rfl

-- Hungry Ella sits down at the first table.
theorem furniture_is_matching_inn : ∃ past last, ServerRun inn past last ∧
    past.reverse.map (·.event) = [.behaviorTree 2 ⟨id, fun _ => 0⟩] ∧
    last.seatOf 2 = some 0 ∧ FurnitureMatching last := by
  have passed : (followWhile step (fun _ _ => true) [.behaviorTree 2 ⟨id, fun _ => 0⟩] inn).any
      (fun w => w.seatOf 2 = some 0) = true := by decide +kernel
  obtain ⟨past, last, run, -, events, seated⟩ := Run.exists_of_check _ _ _ passed
  exact ⟨past, last, run, events, by simpa using seated,
    furniture_is_matching innData ⟨2, 60⟩ (some []) (fun _ => ⟨10, 100⟩) inn last past inn_boots run⟩

end MundusVivens
