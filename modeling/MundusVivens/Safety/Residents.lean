import MundusVivens.Furniture.Npcs
import MundusVivens.Jobs.Equipment
import MundusVivens.Jobs.Staff
import MundusVivens.Safety.Members

set_option autoImplicit false

namespace MundusVivens

open Scalar BehaviorTree

variable {F : Type}

theorem World.isNpc_ledger (w : World F) (n : Entity) : w.ledger.IsNpc n ↔ w.Resident n := by
  constructor
  · rintro ⟨valid, solid, untagged⟩
    exact ⟨valid, untagged, by simpa [World.ledger] using solid⟩
  · rintro ⟨valid, untagged, solid⟩
    exact ⟨valid, by simp [World.ledger, solid], untagged⟩

def World.Sited (w : World F) : Prop :=
  ∀ x, w.reg.valid x = true → (w.reg.location x).isSome = true

variable [Scalar F]

namespace World

variable {w w' : World F} {e x : Entity}

omit [Scalar F] in
theorem Sited.of_same (sited : w.Sited) (valid : ∀ x, w'.reg.valid x = true → w.reg.valid x = true)
    (stays : ∀ x, (w.reg.location x).isSome = true → (w'.reg.location x).isSome = true) : w'.Sited :=
  fun x present => stays x (sited x (valid x present))

theorem spawnCamp_sited (loc : LocationComp F) (name : String) (type : AffordanceType)
    (sited : w.Sited) : (w.spawnCamp loc name type).Sited := by
  intro x valid
  by_cases same : x = w.reg.nextEntity
  next =>
    unfold spawnCamp
    exact updateEntityPosition_located _ _ _ (by simp [setAffordance, setLocation, same])
  next =>
    have built := congrArg Fitting.valid (congrFun (w.fittings_spawnCamp loc name type) x)
    have before : w.reg.valid x = true := by
      have known : (w.fittings x).valid = true := by
        rw [Function.update_of_ne same] at built
        exact built.symm.trans valid
      exact known
    have within := w.spawnCamp_within x x ⟨[], [.handles, .grid]⟩ loc name type before (by simp)
      (by simp)
    have kept : (w.spawnCamp loc name type).reg.location x = w.reg.location x :=
      within.same .location rfl
    rw [kept]
    exact sited x before

omit [Scalar F] in
theorem occupyFurniture_sited {needs : NeedsComp F} {loc : LocationComp F} {toil : ToilComp}
    {f : Entity} (sited : w.Sited) (occupied : w.occupyFurniture e needs loc toil f = some w') :
    w'.Sited := by
  obtain ⟨aff, place, -, -, rfl⟩ := occupyFurniture_eq occupied
  exact sited.of_same (fun _ valid => valid) fun x located => setLocation_located e _ located

theorem interactFurniture_sited (draw : BehaviorDraw) (status : NodeStatus) (sited : w.Sited)
    (ran : w.actionInteractFurniture e draw = some (status, w')) : w'.Sited := by
  obtain ⟨needs, loc, toil, job, identity, -, acted⟩ := interactFurniture_cases ran
  cases acted with
  | settles seeks settled =>
      cases settled with
      | seat f found taken => exact occupyFurniture_sited sited taken
      | camp name type full wild suits taken =>
          exact occupyFurniture_sited (spawnCamp_sited loc name type sited) taken
      | floor => exact sited
  | recharges => exact sited
  | resolves amount left rests recovers full leaves =>
      have vacated : left.Sited := by
        cases leaves with
        | floor => exact sited
        | seat => exact sited
        | camp f =>
            intro x valid
            by_cases same : x = f
            next => simp [Registry.destroy, same] at valid
            next =>
              simpa [Registry.destroy, setOccupiedBy, same] using
                sited x (by simpa [Registry.destroy, setOccupiedBy, same] using valid)
      exact vacated

theorem runLeaf_sited (draw : BehaviorDraw) (leaf : SurvivalLeaf) (status : NodeStatus)
    (sited : w.Sited) (ran : runLeaf e draw leaf w = some (status, w')) : w'.Sited := by
  have apart (searches : leaf ≠ .findFurniture) (interacts : leaf ≠ .interactFurniture)
      (valid : leaf.scope.covers .valid = false) (still : leaf.scope.covers .location = false) :
      w'.Sited := by
    have within (x : Entity) := runLeaf_apart_within e x draw leaf status w w' searches interacts ran
    intro x present
    have sameValid : w'.reg.valid x = w.reg.valid x := (within x).same .valid valid
    have same : w'.reg.location x = w.reg.location x := (within x).same .location still
    rw [same]
    exact sited x (sameValid ▸ present)
  cases leaf with
  | findFurniture =>
      obtain ⟨-, needs, job, loc, toil, -, -, -, -, searches⟩ := findFurniture_cases ran
      cases searches with
      | keeps => exact sited
      | aims => exact sited
      | camps name type => exact spawnCamp_sited loc name type sited
      | stays => exact sited
  | interactFurniture => exact interactFurniture_sited draw status sited ran
  | _ => exact apart (by simp) (by simp) rfl rfl

omit [Scalar F] in
theorem cleanupPlayer_sited (player : Entity) (sited : w.Sited) :
    (w.cleanupPlayer player).Sited := by
  unfold cleanupPlayer
  split
  next => exact sited
  next tag _ =>
    split
    next => exact sited
    next =>
      intro x valid
      by_cases same : x = player
      next => simp [removePlayer, Registry.destroy, same] at valid
      next =>
        have within := w.removePlayer_within x x player tag same
        have sameValid : (w.removePlayer player tag).reg.valid x = w.reg.valid x :=
          within.same .valid rfl
        have stands : (w.removePlayer player tag).reg.location x = w.reg.location x :=
          within.same .location rfl
        rw [stands]
        exact sited x (sameValid ▸ valid)

theorem login_sited (sessionIndex : UInt32) (playerId playerName : String) (sited : w.Sited)
    (logged : w.login sessionIndex playerId playerName = some w') : w'.Sited := by
  obtain ⟨player, bound, binds, outside⟩ := w.login_outside w' 0 sessionIndex playerId playerName logged
  intro x valid
  by_cases same : x = player
  next =>
    subst same
    simp only [login, binds, Option.bind_eq_bind, Option.bind_some, Option.bind_eq_some_iff] at logged
    obtain ⟨loc, stands, stored⟩ := logged
    obtain rfl := Option.some.inj stored
    exact updateEntityPosition_located _ _ _ (by simp [stands])
  next =>
    have within := outside x same
    have sameValid : w'.reg.valid x = w.reg.valid x := within.same .valid rfl
    have stands : w'.reg.location x = w.reg.location x := within.same .location rfl
    rw [stands]
    exact sited x (sameValid ▸ valid)

end World

theorem step_sited (event : Event F) (w w' : World F) (matched : w.Matched) (sited : w.Sited)
    (stepped : step event w = some w') : w'.Sited := by
  have present (remakes : event.remakes = false) (valid : event.scope.covers .valid = false) (x : Entity)
      (there : w'.reg.valid x = true) : w.reg.valid x = true := by
    have same : w'.reg.valid x = w.reg.valid x :=
      (step_within event w w' x remakes stepped).same .valid valid
    exact same ▸ there
  have apart (remakes : event.remakes = false) (valid : event.scope.covers .valid = false)
      (still : event.scope.covers .location = false) : w'.Sited := by
    refine sited.of_same (present remakes valid) fun x located => ?_
    have same : w'.reg.location x = w.reg.location x :=
      (step_within event w w' x remakes stepped).same .location still
    rw [same]
    exact located
  cases event with
  | cleanupPlayer player =>
      obtain rfl := Option.some.inj stepped
      exact World.cleanupPlayer_sited player sited
  | command cmd =>
      cases cmd with
      | login session playerId playerName =>
          exact World.login_sited session playerId playerName sited stepped
      | move session a b c =>
          exact sited.of_same (present rfl rfl) fun x located =>
            World.movePlayer_located session a b c stepped located
      | _ => exact apart rfl rfl rfl
  | movement e =>
      exact sited.of_same (present rfl rfl) fun x located => World.movement_located stepped located
  | behaviorTree e draw =>
      have both := World.behaviorTree_kept e draw (fun m => m.Matched ∧ m.Sited) (fun _ _ => True)
        (fun m here planted => here.1.planted planted)
        (fun leaf m status m' here starts _ ran =>
          ⟨World.runLeaf_matched draw leaf status m m' here.1 starts ran,
            World.runLeaf_sited draw leaf status here.2 ran⟩)
        w w' ⟨matched, sited⟩ stepped fun _ _ => trivial
      exact both.2
  | checkOccupant f =>
      obtain rfl := Option.some.inj stepped
      rw [World.checkOccupant_idle matched f]
      exact sited
  | resolveAffordance e =>
      rw [World.resolveAffordance_idle matched w' stepped]
      exact sited
  | _ => exact apart rfl rfl rfl

namespace World

variable {w w' : World F} {e x : Entity}

theorem runLeaf_needy (draw : BehaviorDraw) (leaf : SurvivalLeaf) (status : NodeStatus)
    (resident : w.Resident x) (ran : runLeaf e draw leaf w = some (status, w'))
    (npc : w.isNpc x = true) : w'.isNpc x = true := by
  have within := runLeaf_within e x draw leaf status w w' resident ran
  have apart (carefree : leaf.scope.covers .needs = false) : w'.isNpc x = true := by
    have same : w'.reg.needs x = w.reg.needs x := within.same .needs carefree
    simpa [isNpc, same] using npc
  have others (other : x ≠ e) (carefree : (Scope.mk [] leaf.scope.all).covers .needs = false) :
      w'.isNpc x = true := by
    have same : w'.reg.needs x = w.reg.needs x := (within.others other).same .needs carefree
    simpa [isNpc, same] using npc
  have flagged (flags : w' = w ∨ ∃ needs flagged, w.reg.needs e = some needs ∧
      needs.isResolvingSurvival = false ∧ w'.reg.needs e = some flagged ∧
      flagged.occupiedFurniture = needs.occupiedFurniture) (own : x = e) : w'.isNpc x = true := by
    rcases flags with rfl | ⟨needs, after, -, -, shown, -⟩
    · exact npc
    · simp [isNpc, own, shown]
  by_cases own : x = e
  next =>
    cases leaf with
    | isHungry | isFatigued => exact flagged (conditionInCrisis_flags _ w' status ran) own
    | isScheduledEat | isScheduledSleep =>
        exact flagged (conditionIsScheduled_flags _ w' status ran) own
    | interactFurniture =>
        subst own
        obtain ⟨needs, loc, toil, job, identity, -, acted⟩ := interactFurniture_cases ran
        cases acted with
        | settles seeks settled =>
            cases settled with
            | seat f found taken => simp [isNpc, occupyFurniture_seated taken]
            | camp name type full wild suits taken => simp [isNpc, occupyFurniture_seated taken]
            | floor => exact npc
        | recharges => simp [isNpc, setNeeds]
        | resolves => simp [isNpc, setActivity, setToil, setJob, issue, setNeeds]
    | _ => exact apart rfl
  next => cases leaf <;> exact others own rfl

end World

theorem step_needy (event : Event F) (w w' : World F) (x : Entity) (matched : w.Matched)
    (npc : w.isNpc x = true) (stepped : step event w = some w') : w'.isNpc x = true := by
  have resident := matched.npc npc
  have within := resident_step_within event w w' x resident stepped
  have apart (carefree : event.scope.covers .needs = false) : w'.isNpc x = true := by
    have same : w'.reg.needs x = w.reg.needs x := within.same .needs carefree
    simpa [World.isNpc, same] using npc
  have crises (same : (w'.reg.needs x).map NeedsComp.crisis =
      (w.reg.needs x).map NeedsComp.crisis) : w'.isNpc x = true := by
    have here := congrArg Option.isSome same
    simpa [World.isNpc] using here.trans (by simpa [World.isNpc] using npc)
  cases event with
  | jobDriver e => exact crises (World.jobDriver_crisis w' x stepped)
  | survivalOverride e =>
      obtain rfl := Option.some.inj stepped
      exact crises (World.survivalOverride_crisis x)
  | behaviorTree e draw =>
      have both := World.behaviorTree_kept e draw (fun m => m.Matched ∧ m.isNpc x = true)
        (fun _ _ => True) (fun m here planted => here.1.planted planted)
        (fun leaf m status m' here starts _ ran =>
          ⟨World.runLeaf_matched draw leaf status m m' here.1 starts ran,
            World.runLeaf_needy draw leaf status (here.1.npc here.2) ran here.2⟩)
        w w' ⟨matched, npc⟩ stepped fun _ _ => trivial
      exact both.2
  | checkOccupant f =>
      obtain rfl := Option.some.inj stepped
      rwa [World.checkOccupant_idle matched f]
  | resolveAffordance e => rwa [World.resolveAffordance_idle matched w' stepped]
  | command cmd => cases cmd <;> exact apart rfl
  | _ => exact apart rfl

end MundusVivens
