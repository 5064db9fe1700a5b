import MundusVivens.Furniture.Choices
import MundusVivens.Jobs.Equipment
import MundusVivens.Shared.Reals
import MundusVivens.Walking.Cells
import MundusVivens.World.Memberships

set_option autoImplicit false

/-!
# Recoveries

An NPC that is left with the furniture node recovers: the need of its crisis does not decay, the
affordance system leaves its seat alone, and every frame adds at least the rate of the bare floor.
-/

namespace MundusVivens

open Scalar BehaviorTree Runs LocationRegistry

variable {F : Type} [Scalar F]

-- The need that the crisis is about.
def NeedsComp.crisisLevel (needs : NeedsComp F) : F :=
  match needs.currentSurvivalType with
  | .hunger => needs.hunger
  | .fatigue => needs.fatigue
  | .none => zero

-- What a frame of a recovery leaves open.
structure RecoveryDraw where
  tree : BehaviorDraw
  rank : Stage → Entity → Nat

-- `SystemSurvivalOverride` and `SystemAffordanceResolver`.
def tendNeeds (rank : Stage → Entity → Nat) (w : World F) : Option (World F) := do
  let w ← pass (rank .survival) (fun w e => (w.reg.needs e).isSome) .survivalOverride w
  let w ← pass (rank .furniture) (fun w e => (w.reg.affordance e).isSome) .checkOccupant w
  pass (rank .affordance) (fun w e => (w.reg.needs e).isSome) .resolveAffordance w

-- A tick of the furniture node, and the two systems after it.
def recoveryFrame (e : Entity) (draw : RecoveryDraw) (w : World F) : Option (World F) := do
  let ticked ← w.actionInteractFurniture e draw.tree
  tendNeeds draw.rank ticked.2

def recoveryFrames (e : Entity) : Nat → (Nat → RecoveryDraw) → World F → Option (World F)
  | 0, _, w => some w
  | n + 1, draws, w =>
      (recoveryFrame e (draws 0) w).bind (recoveryFrames e n fun i => draws (i + 1))

namespace World

structure Relieved (w : World F) (e : Entity) : Prop where
  calm : ∃ needs, w.reg.needs e = some needs ∧ needs.isResolvingSurvival = false ∧
    needs.currentSurvivalType = .none ∧ needs.occupiedFurniture = none
  inactive : ∃ job, w.reg.job e = some job ∧ job.isActive = false
  free : ∀ f, w.guestOf f ≠ some e

-- The piece that was described so is free again, and a temporary one is gone.
def Returned (w : World F) (f : Entity) (aff : AffordanceComp) : Prop :=
  if aff.isTemporary = true then
    w.reg.valid f = false ∧ w.grid.entityToCell f = none ∧ ∀ cell, f ∉ w.grid.cellEntities cell
  else w.reg.valid f = true ∧ w.reg.affordance f = some { aff with occupiedBy := none }

-- An NPC in a crisis with all that the furniture node reads.
structure Recovering (w : World F) (e : Entity) (needs : NeedsComp F) : Prop where
  matched : w.Matched
  stage : w.OnStage e
  equipped : w.Equipped e
  cells : w.grid.Coherent
  needy : w.reg.needs e = some needs
  resolving : needs.isResolvingSurvival = true
  known : needs.currentSurvivalType = .hunger ∨ needs.currentSurvivalType = .fatigue

def Rests (w : World F) (e : Entity) : Prop :=
  ∃ needs toil, w.reg.needs e = some needs ∧ w.reg.toil e = some toil ∧
    seeksSeat needs toil = false

end World

/-- The crisis is resolved after this number of frames and not earlier, and every piece that was
used in the meantime is returned. -/
structure Recovered (e : Entity) (n : Nat) (draws : Nat → RecoveryDraw) (w last : World F) :
    Prop where
  frames : recoveryFrames e n draws w = some last
  relieved : last.Relieved e
  before : ∀ k < n, ∃ m, recoveryFrames e k draws w = some m ∧ m.isResolving e = true ∧
    ∀ f aff, m.seatOf e = some f → m.reg.affordance f = some aff → last.Returned f aff

variable {w w' : World F} {e : Entity} {needs : NeedsComp F} {loc : LocationComp F}
  {toil : ToilComp} {value : F → ℝ}

-- Nothing but needs has changed, nobody's crisis has, and the need of no crisis is lower.
structure Tended (value : F → ℝ) (w w' : World F) : Prop where
  within : ∀ e x, Within ⟨[], [.needs]⟩ e x w w'
  crises : ∀ x, (w'.reg.needs x).map NeedsComp.crisis = (w.reg.needs x).map NeedsComp.crisis
  levels : ∀ x needs, w.reg.needs x = some needs → needs.isResolvingSurvival = true →
    ∃ needs', w'.reg.needs x = some needs' ∧ value needs.crisisLevel ≤ value needs'.crisisLevel

omit [Scalar F] in
theorem crisis_inj {needs needs' : NeedsComp F} (same : needs'.crisis = needs.crisis) :
    needs'.isResolvingSurvival = needs.isResolvingSurvival ∧
      needs'.currentSurvivalType = needs.currentSurvivalType ∧
      needs'.occupiedFurniture = needs.occupiedFurniture := by
  obtain ⟨resolving, rest⟩ := Crisis.State.mk.inj same
  exact ⟨resolving, rest⟩

namespace Tended

theorem refl (value : F → ℝ) (w : World F) : Tended value w w :=
  ⟨fun e x => .refl _ e x w, fun _ => rfl, fun _ needs needy _ => ⟨needs, needy, le_rfl⟩⟩

theorem crisis {x : Entity} (tended : Tended value w w') (needy : w.reg.needs x = some needs) :
    ∃ needs', w'.reg.needs x = some needs' ∧ needs'.crisis = needs.crisis := by
  have same := tended.crises x
  rw [needy, Option.map_some] at same
  exact Option.map_eq_some_iff.mp same

theorem trans {m : World F} (first : Tended value w m) (second : Tended value m w') :
    Tended value w w' where
  within := fun e x => (first.within e x).trans (second.within e x)
  crises := fun x => (second.crises x).trans (first.crises x)
  levels := by
    intro x needs needy resolving
    obtain ⟨between, there, raised⟩ := first.levels x needs needy resolving
    obtain ⟨same, here, kept⟩ := first.crisis needy
    obtain rfl : same = between := Option.some.inj (here.symm.trans there)
    have still : same.isResolvingSurvival = true := (crisis_inj kept).1.trans resolving
    obtain ⟨needs', last, again⟩ := second.levels x same here still
    exact ⟨needs', last, raised.trans again⟩

end Tended

theorem decayNeed_exempt (valued : Valued value) (level rate : F) :
    value level ≤ value (World.decayNeed level rate true) := by
  unfold World.decayNeed
  dsimp only
  rw [if_pos rfl]
  split
  next negative => exact le_of_lt ((valued.lt level zero).mp negative)
  next => exact le_rfl

theorem survivalOverride_tended (valued : Valued value) (e : Entity) :
    Tended value w (w.survivalOverride e) where
  within := fun y x => by
    by_cases same : x = e
    next =>
      subst same
      exact fun p foreign _ => (w.survivalOverride_within x x) p (by simp) (by simpa using foreign)
    next =>
      exact fun p _ _ => ((w.survivalOverride_within e x).others same) p (by simp) (by simp)
  crises := fun x => World.survivalOverride_crisis x
  levels := by
    intro x needs needy resolving
    by_cases same : x = e
    next =>
      subst same
      unfold World.survivalOverride
      rw [needy]
      split
      next own _ _ _ stored _ _ _ =>
        obtain rfl := Option.some.inj stored
        refine ⟨_, Function.update_self .., ?_⟩
        cases type : needs.currentSurvivalType with
        | hunger => simpa [NeedsComp.crisisLevel, type, resolving] using decayNeed_exempt valued _ _
        | fatigue => simpa [NeedsComp.crisisLevel, type, resolving] using decayNeed_exempt valued _ _
        | none => simp [NeedsComp.crisisLevel, type]
      next => exact ⟨needs, needy, le_rfl⟩
    next =>
      have kept : (w.survivalOverride e).reg.needs x = w.reg.needs x :=
        ((w.survivalOverride_within e x).others same).same .needs rfl
      exact ⟨needs, kept.trans needy, le_rfl⟩

theorem tendNeeds_total (valued : Valued value) (rank : Stage → Entity → Nat)
    (matched : w.Matched) : ∃ w', tendNeeds rank w = some w' ∧ w'.Matched ∧ Tended value w w' := by
  let tended (m : World F) : Prop := m.Matched ∧ Tended value w m
  -- A pass whose every visit has a result and keeps the relation.
  have passes (rank : Entity → Nat) (has : World F → Entity → Bool) (visit : Entity → Event F)
      (visits : ∀ x m, tended m → ∃ m', step (visit x) m = some m' ∧ tended m') (m : World F)
      (here : tended m) : ∃ m', pass rank has visit m = some m' ∧ tended m' :=
    follow_total visit tended _ (fun x _ m here => visits x m here) m here
  obtain ⟨decayed, decays, holds⟩ := passes (rank .survival) (fun w e => (w.reg.needs e).isSome)
    .survivalOverride (fun x m here => ⟨m.survivalOverride x, rfl,
      here.1.of_needs _ _ x (m.survivalOverride_within x) rfl rfl
        (World.survivalOverride_crisis (w := m) (e := x)),
      here.2.trans (survivalOverride_tended valued x)⟩) w ⟨matched, .refl value w⟩
  obtain ⟨checked, checks, holds⟩ := passes (rank .furniture)
    (fun w e => (w.reg.affordance e).isSome) .checkOccupant
    (fun f m here => ⟨m, congrArg some (World.checkOccupant_idle here.1 f), here⟩) decayed holds
  obtain ⟨resolved, resolves, holds⟩ := passes (rank .affordance)
    (fun w e => (w.reg.needs e).isSome) .resolveAffordance
    (fun x m here => ⟨m, World.resolveAffordance_stays here.1 x, here⟩) checked holds
  refine ⟨resolved, ?_, holds⟩
  simp only [tendNeeds, decays, checks, resolves, Option.bind_eq_bind, Option.bind_some]

namespace World

def Placed (w : World F) (e : Entity) (needs : NeedsComp F) : Prop :=
  ∃ seat toil, w.reg.needs e = some { needs with occupiedFurniture := seat } ∧
    w.reg.toil e = some toil ∧ seeksSeat { needs with occupiedFurniture := seat } toil = false ∧
    (w.reg.activity e).isSome = true

omit [Scalar F] in
theorem occupyFurniture_placed (f : Entity) (stands : (w.reg.affordance f).isSome = true)
    (located : (w.reg.location f).isSome = true) (acts : (w.reg.activity e).isSome = true) :
    ∃ w', w.occupyFurniture e needs loc toil f = some w' ∧ w'.Placed e needs := by
  obtain ⟨aff, stands⟩ := Option.isSome_iff_exists.mp stands
  obtain ⟨furnLoc, located⟩ := Option.isSome_iff_exists.mp located
  obtain ⟨w', occupied⟩ : ∃ w', w.occupyFurniture e needs loc toil f = some w' := by
    simp [occupyFurniture, stands, located]
  refine ⟨w', occupied, some f, ?_⟩
  simp only [occupyFurniture, stands, located, Option.bind_eq_bind, Option.bind_some] at occupied
  obtain rfl := Option.some.inj occupied
  simp [settle, setActivity, setToil, setLocation, setNeeds, setOccupiedBy, seeksSeat, acts]

omit [Scalar F] in
theorem settle_placed (needy : w.reg.needs e = some needs) (free : needs.occupiedFurniture = none)
    (acts : (w.reg.activity e).isSome = true) (eating : Bool) : (w.settle e toil (floorTexts eating)).Placed e needs := by
  refine ⟨none, { toil with
    state := .working, durationTicks := 9999, currentAction := (floorTexts eating).1 }, ?_⟩
  have same : { needs with occupiedFurniture := none } = needs := by rw [← free]
  rw [same]
  refine ⟨needy, by simp [settle, setActivity, setToil], ?_,
    by simp [settle, setActivity, setToil, acts]⟩
  cases eating <;> simp [seeksSeat, floorTexts]

theorem occupyPlace_placed (loc : LocationComp F) (toil : ToilComp)
    (needy : w.reg.needs e = some needs) (free : needs.occupiedFurniture = none) (stage : w.OnStage e) (rank : Entity → Nat) :
    ∃ w', w.occupyPlace e needs loc toil rank = some w' ∧ w'.Placed e needs := by
  unfold occupyPlace
  dsimp only
  split
  next f found =>
    obtain ⟨aff, furnLoc, stands, located, -⟩ := serves_free needs loc rank f found
    exact occupyFurniture_placed f (by simp [stands]) (by simp [located]) stage.shown
  next =>
    have camps (name : String) (type : AffordanceType) :
        ∃ w', (w.spawnCamp loc name type).occupyFurniture e needs loc toil w.reg.nextEntity =
          some w' ∧ w'.Placed e needs := by
      obtain ⟨campLoc, located, -⟩ := spawnCamp_location (w := w) loc name type
      have within := w.spawnCamp_within e e ⟨[], [.handles, .grid]⟩ loc name type
        stage.resident.valid (by simp) (by simp)
      have acts : (w.spawnCamp loc name type).reg.activity e = w.reg.activity e :=
        within.same .activity rfl
      exact occupyFurniture_placed _ (by simp [spawnCamp_affordance]) (by simp [located])
        (by rw [acts]; exact stage.shown)
    split
    next => split <;> exact camps _ _
    next => exact ⟨_, rfl, settle_placed needy free stage.shown _⟩

theorem recovery_bound (valued : Valued value) (matched : w.Matched)
    (needy : w.reg.needs e = some needs)
    (known : needs.currentSurvivalType = .hunger ∨ needs.currentSurvivalType = .fatigue) :
    ∃ amount, w.recovery needs = some amount ∧ value (lit 0.025) ≤ value amount := by
  have rate (q : ℚ) (least : 0.025 ≤ q) : value (lit 0.025) ≤ value (lit q) := by
    rw [valued.lit, valued.lit]
    exact_mod_cast least
  unfold recovery
  cases seated : needs.occupiedFurniture with
  | none =>
      refine ⟨_, rfl, ?_⟩
      rcases known with type | type
      all_goals
        simp only [type]
        exact rate _ (by norm_num)
  | some f =>
      obtain ⟨-, aff, stands, -⟩ := matched.served e needs.crisis f (by simp [fittings, needy]) seated
      have there : w.reg.affordance f = some aff := stands
      simp only [there, Option.bind_eq_bind, Option.bind_some]
      refine ⟨_, rfl, ?_⟩
      rcases known with type | type
      all_goals
        rw [type]
        dsimp only
        repeat' split
        all_goals exact rate _ (by norm_num)

theorem recharge_level (amount : F)
    (known : needs.currentSurvivalType = .hunger ∨ needs.currentSurvivalType = .fatigue) :
    (recharge needs amount).crisisLevel = rechargeNeed needs.crisisLevel amount := by
  rcases known with type | type <;> simp [recharge, NeedsComp.crisisLevel, type]

theorem isRecharged_iff (valued : Valued value)
    (known : needs.currentSurvivalType = .hunger ∨ needs.currentSurvivalType = .fatigue) :
    isRecharged needs = true ↔ value (lit 95) ≤ value needs.crisisLevel := by
  rw [← valued.le]
  rcases known with type | type <;> simp [isRecharged, NeedsComp.crisisLevel, type]

theorem rechargeNeed_short (valued : Valued value) (level amount : F)
    (short : value (rechargeNeed level amount) < value (lit 95)) :
    value (rechargeNeed level amount) = value level + value amount := by
  unfold rechargeNeed at short ⊢
  dsimp only at short ⊢
  split at short
  next =>
    rw [valued.lit, valued.lit] at short
    norm_num at short
  next full => rw [if_neg full, valued.add]

omit [Scalar F] in
theorem leaveFurniture_returns (matched : w.Matched) (cells : w.grid.Coherent)
    (needy : (w.reg.needs e).map NeedsComp.crisis = some needs.crisis) :
    ∃ left, w.leaveFurniture needs = some left ∧ ∀ f aff, needs.occupiedFurniture = some f →
      w.reg.affordance f = some aff → left.Returned f aff := by
  unfold leaveFurniture
  cases seated : needs.occupiedFurniture with
  | none => exact ⟨w, rfl, by simp⟩
  | some f =>
      obtain ⟨-, aff, stands, -⟩ :=
        matched.served e needs.crisis f (by simpa [fittings] using needy) seated
      have there : w.reg.affordance f = some aff := stands
      have valid : w.reg.valid f = true := (matched.fitted f (by simp [fittings, there])).1
      simp only [there, Option.bind_eq_bind, Option.bind_some]
      split
      next temporary =>
        refine ⟨_, rfl, fun g own same described => ?_⟩
        obtain rfl := Option.some.inj same
        obtain rfl := Option.some.inj (there.symm.trans described)
        have unlisted : ((w.setOccupiedBy f none).grid.removeEntity f).entityToCell f = none :=
          (removeEntity_record f f).trans (if_pos rfl)
        rw [Returned, if_pos temporary]
        refine ⟨by simp [Registry.destroy], unlisted, fun cell listed => ?_⟩
        have recorded := ((removeEntity_coherent _ f cells).recorded f cell).mp listed
        exact absurd (unlisted.symm.trans recorded) (by simp)
      next lasting =>
        refine ⟨_, rfl, fun g own same described => ?_⟩
        obtain rfl := Option.some.inj same
        obtain rfl := Option.some.inj (there.symm.trans described)
        rw [Returned, if_neg lasting]
        exact ⟨valid, by simp [setOccupiedBy, there]⟩

omit [Scalar F] in
theorem resolveCrisis_relieves (needs : NeedsComp F) (matched : w.Matched)
    (cells : w.grid.Coherent) (needy : (w.reg.needs e).map NeedsComp.crisis = some needs.crisis)
    (identity : IdentityComp) (job : JobComp F) :
    ∃ w', w.resolveCrisis e needs identity job = some w' ∧ w'.Matched ∧ w'.Relieved e ∧
      ∀ f aff, needs.occupiedFurniture = some f → w.reg.affordance f = some aff →
        w'.Returned f aff := by
  obtain ⟨left, leaves, returned⟩ := leaveFurniture_returns matched cells needy
  let calmed := { needs with
    occupiedFurniture := none, isResolvingSurvival := false, currentSurvivalType := .none }
  have vacated := leaveFurniture_matched matched left needs calmed needy rfl
    (leaveFurniture_cases leaves)
  obtain ⟨w', resolves⟩ : ∃ w', w.resolveCrisis e needs identity job = some w' := by
    simp [resolveCrisis, leaves]
  refine ⟨w', resolves, ?_⟩
  simp only [resolveCrisis, leaves, Option.bind_eq_bind, Option.bind_some] at resolves
  obtain rfl := Option.some.inj resolves
  refine ⟨?_, ⟨⟨calmed, ?_, rfl, rfl, rfl⟩, ⟨{ job with isActive := false }, ?_, rfl⟩, ?_⟩, ?_⟩
  · rw [Matched, fittings_setActivity, fittings_setToil, fittings_setJob, fittings_issue]
    exact vacated
  · simp [calmed, setActivity, setToil, setJob, issue, setNeeds]
  · simp [setActivity, setToil, setJob]
  · -- A guest would be matched with the seat that the needs do not have any more.
    intro f taken
    have seated := (vacated.matched e f).mpr taken
    rw [seat_fittings] at seated
    simp [seatOf, setNeeds, calmed] at seated
  · intro f aff seated described
    have back := returned f aff seated described
    unfold Returned at back ⊢
    exact back

theorem Relieved.tended (relieved : w.Relieved e) (tended : Tended value w w') : w'.Relieved e := by
  obtain ⟨needs, needy, calm, ended, left⟩ := relieved.calm
  obtain ⟨needs', needy', same⟩ := tended.crisis needy
  obtain ⟨resolving, type, seat⟩ := crisis_inj same
  have job : w'.reg.job e = w.reg.job e := (tended.within e e).same .job rfl
  refine ⟨⟨needs', needy', resolving.trans calm, type.trans ended, seat.trans left⟩, ?_,
    fun f taken => ?_⟩
  · rw [job]
    exact relieved.inactive
  · have affordance : w'.reg.affordance f = w.reg.affordance f :=
      (tended.within f f).same .affordance rfl
    rw [guestOf, affordance] at taken
    exact relieved.free f taken

theorem Returned.tended {f : Entity} {aff : AffordanceComp} (returned : w.Returned f aff)
    (tended : Tended value w w') : w'.Returned f aff := by
  have valid : w'.reg.valid f = w.reg.valid f := (tended.within f f).same .valid rfl
  have affordance : w'.reg.affordance f = w.reg.affordance f :=
    (tended.within f f).same .affordance rfl
  have grid : w'.grid = w.grid := (tended.within f f).same .grid rfl
  unfold Returned at returned ⊢
  rw [valid, affordance, grid]
  exact returned

theorem Rests.tended (rests : w.Rests e) (tended : Tended value w w') : w'.Rests e := by
  obtain ⟨needs, toil, needy, toils, seated⟩ := rests
  obtain ⟨needs', needy', same⟩ := tended.crisis needy
  have kept : w'.reg.toil e = w.reg.toil e := (tended.within e e).same .toil rfl
  refine ⟨needs', toil, needy', kept.trans toils, ?_⟩
  unfold seeksSeat at seated ⊢
  rw [(crisis_inj same).2.2]
  exact seated

namespace Recovering

omit [Scalar F] in
theorem resolves (recovering : w.Recovering e needs) : w.Resolves e :=
  ⟨recovering.stage.resident.valid, needs, recovering.needy, recovering.resolving, recovering.known⟩

omit [Scalar F] in
theorem isResolving (recovering : w.Recovering e needs) : w.isResolving e = true := by
  simp [World.isResolving, recovering.needy, recovering.resolving]

theorem ticked {draw : BehaviorDraw} {status : NodeStatus} {needs' : NeedsComp F}
    (recovering : w.Recovering e needs)
    (ran : w.actionInteractFurniture e draw = some (status, w'))
    (shown : (w'.reg.activity e).isSome = true) (needy : w'.reg.needs e = some needs')
    (resolving : needs'.isResolvingSurvival = needs.isResolvingSurvival)
    (type : needs'.currentSurvivalType = needs.currentSurvivalType) : w'.Recovering e needs' := by
  have resident := recovering.stage.resident
  have within := w.interactFurniture_within w' e e draw status resident ran
  have named : w'.reg.identity e = w.reg.identity e := within.same .identity rfl
  constructor
  case matched => exact interactFurniture_matched recovering.matched recovering.resolves w' draw status ran
  case stage =>
    refine ⟨runLeaf_resident e draw .interactFurniture w status w' resident ran,
      interactFurniture_located draw status resident ran recovering.stage.located, shown, ?_⟩
    rw [named]
    exact recovering.stage.named
  case equipped => exact interactFurniture_equipped resident.valid recovering.equipped ran
  case cells => exact interactFurniture_cells draw status recovering.cells ran
  case needy => exact needy
  case resolving => rw [resolving, recovering.resolving]
  case known => rw [type]; exact recovering.known

theorem tend (valued : Valued value) (recovering : w.Recovering e needs)
    (rank : Stage → Entity → Nat) :
    ∃ w' needs', tendNeeds rank w = some w' ∧ Tended value w w' ∧ w'.Recovering e needs' ∧
      value needs.crisisLevel ≤ value needs'.crisisLevel := by
  obtain ⟨w', tends, matched, tended⟩ := tendNeeds_total valued rank recovering.matched
  obtain ⟨needs', needy, raised⟩ :=
    tended.levels e needs recovering.needy recovering.resolving
  obtain ⟨own, owned, same⟩ := tended.crisis recovering.needy
  obtain rfl : own = needs' := Option.some.inj (owned.symm.trans needy)
  obtain ⟨resolving, type, -⟩ := crisis_inj same
  have within := tended.within e e
  have located : w'.reg.location e = w.reg.location e := within.same .location rfl
  have shown : w'.reg.activity e = w.reg.activity e := within.same .activity rfl
  have named : w'.reg.identity e = w.reg.identity e := within.same .identity rfl
  have grid : w'.grid = w.grid := within.same .grid rfl
  refine ⟨w', own, tends, tended, ?_, raised⟩
  constructor
  case matched => exact matched
  case stage =>
    exact ⟨within.resident rfl recovering.stage.resident,
      by rw [located]; exact recovering.stage.located, by rw [shown]; exact recovering.stage.shown,
      by rw [named]; exact recovering.stage.named⟩
  case equipped => exact recovering.equipped.within within rfl rfl
  case cells => rw [grid]; exact recovering.cells
  case needy => exact needy
  case resolving => rw [resolving, recovering.resolving]
  case known => rw [type]; exact recovering.known

theorem first_frame (valued : Valued value) (recovering : w.Recovering e needs)
    (seeks : ¬w.Rests e) (draw : RecoveryDraw) :
    ∃ w' needs', recoveryFrame e draw w = some w' ∧ w'.Recovering e needs' ∧ w'.Rests e ∧
      w.seatOf e = none ∧ value needs.crisisLevel ≤ value needs'.crisisLevel := by
  obtain ⟨job, works⟩ := Option.isSome_iff_exists.mp recovering.equipped.1
  obtain ⟨toil, toils⟩ := Option.isSome_iff_exists.mp recovering.equipped.2
  obtain ⟨loc, stands⟩ := Option.isSome_iff_exists.mp recovering.stage.located
  have seeking : seeksSeat needs toil = true := by
    by_contra sits
    exact seeks ⟨needs, toil, recovering.needy, toils, Bool.not_eq_true _ ▸ sits⟩
  have free : needs.occupiedFurniture = none := by
    unfold seeksSeat at seeking
    simp only [Bool.and_eq_true, Option.isNone_iff_eq_none] at seeking
    exact seeking.1.1
  obtain ⟨placed, places, seat, toil', needy, toils', sits, shown⟩ :=
    occupyPlace_placed loc toil recovering.needy free recovering.stage draw.tree.rank
  obtain ⟨identity, named⟩ := Option.isSome_iff_exists.mp recovering.stage.named
  have ran : w.actionInteractFurniture e draw.tree = some (.running, placed) := by
    rw [Attends.seeks ⟨recovering.needy, stands, toils, works, named, recovering.stage.shown⟩ seeking,
      places, Option.map_some]
  obtain ⟨w', needs', tends, tended, again, raised⟩ :=
    (recovering.ticked ran shown needy rfl rfl).tend valued draw.rank
  have rests : placed.Rests e := ⟨_, toil', needy, toils', sits⟩
  refine ⟨w', needs', ?_, again, rests.tended tended, ?_, raised⟩
  · simp only [recoveryFrame, ran, Option.bind_eq_bind, Option.bind_some, tends]
  · simp [seatOf, recovering.needy, free]

theorem next_frame (valued : Valued value) (recovering : w.Recovering e needs)
    (rests : w.Rests e) (draw : RecoveryDraw) :
    ∃ w', recoveryFrame e draw w = some w' ∧
      ((w'.Relieved e ∧ ∀ f aff, w.seatOf e = some f → w.reg.affordance f = some aff →
          w'.Returned f aff) ∨
        ∃ needs', w'.Recovering e needs' ∧ w'.Rests e ∧ w'.seatOf e = w.seatOf e ∧
          (∀ f, w'.reg.affordance f = w.reg.affordance f) ∧
          value needs.crisisLevel + value (lit 0.025) < value (lit 95) ∧
          value needs.crisisLevel + value (lit 0.025) ≤ value needs'.crisisLevel) := by
  obtain ⟨job, works⟩ := Option.isSome_iff_exists.mp recovering.equipped.1
  obtain ⟨loc, stands⟩ := Option.isSome_iff_exists.mp recovering.stage.located
  obtain ⟨identity, named⟩ := Option.isSome_iff_exists.mp recovering.stage.named
  obtain ⟨own, toil, needy, toils, sits⟩ := rests
  obtain rfl : own = needs := Option.some.inj (needy.symm.trans recovering.needy)
  obtain ⟨amount, gains, enough⟩ := recovery_bound valued recovering.matched needy recovering.known
  have attends : w.Attends e own loc toil job identity :=
    ⟨needy, stands, toils, works, named, recovering.stage.shown⟩
  have charges := attends.recharges draw.tree sits gains
  have same := recharge_crisis own amount
  obtain ⟨sameFlag, sameType, sameSeat⟩ := crisis_inj same
  by_cases full : isRecharged (recharge own amount) = true
  next =>
    rw [if_pos full] at charges
    obtain ⟨resolved, resolves, matched, relieved, returned⟩ :=
      resolveCrisis_relieves (recharge own amount) recovering.matched recovering.cells
        (by rw [needy, Option.map_some, same]) identity job
    rw [resolves, Option.map_some] at charges
    obtain ⟨w', tends, -, tended⟩ := tendNeeds_total valued draw.rank matched
    refine ⟨w', by simp only [recoveryFrame, charges, Option.bind_eq_bind, Option.bind_some, tends],
      .inl ⟨relieved.tended tended, fun f aff seated described => ?_⟩⟩
    rw [seatOf, needy, Option.bind_some] at seated
    exact (returned f aff (sameSeat.trans seated) described).tended tended
  next =>
    rw [if_neg full] at charges
    have charged : (w.setNeeds e (recharge own amount)).Recovering e (recharge own amount) :=
      recovering.ticked charges recovering.stage.shown (by simp [setNeeds]) sameFlag sameType
    have known := recovering.known
    rw [← sameType] at known
    have short := lt_of_not_ge fun reached => full ((isRecharged_iff valued known).mpr reached)
    rw [recharge_level amount recovering.known] at short
    have raised := rechargeNeed_short valued own.crisisLevel amount short
    obtain ⟨w', needs', tends, tended, again, kept⟩ := charged.tend valued draw.rank
    have placed : (w.setNeeds e (recharge own amount)).Rests e := by
      refine ⟨recharge own amount, toil, by simp [setNeeds], toils, ?_⟩
      unfold seeksSeat at sits ⊢
      rw [sameSeat]
      exact sits
    rw [recharge_level amount recovering.known] at kept
    refine ⟨w', by simp only [recoveryFrame, charges, Option.bind_eq_bind, Option.bind_some, tends],
      .inr ⟨needs', again, placed.tended tended, ?_, ?_, by linarith, by linarith⟩⟩
    · obtain ⟨last, stored, samePart⟩ := tended.crisis charged.needy
      rw [seatOf, stored, seatOf, needy, Option.bind_some, Option.bind_some,
        (crisis_inj samePart).2.2, sameSeat]
    · exact fun f => (tended.within f f).same .affordance rfl

end Recovering

end World

namespace Recovered

theorem cons {draws : Nat → RecoveryDraw} {n : Nat} {m last : World F}
    (frame : recoveryFrame e (draws 0) w = some m)
    (recovered : Recovered e n (fun i => draws (i + 1)) m last) (resolving : w.isResolving e = true)
    (returned : ∀ f aff, w.seatOf e = some f → w.reg.affordance f = some aff →
      last.Returned f aff) : Recovered e (n + 1) draws w last where
  frames := by rw [recoveryFrames, frame, Option.bind_some, recovered.frames]
  relieved := recovered.relieved
  before := by
    intro k below
    cases k with
    | zero => exact ⟨w, rfl, resolving, returned⟩
    | succ j =>
        obtain ⟨between, frames, rest⟩ := recovered.before j (Nat.lt_of_succ_lt_succ below)
        refine ⟨between, ?_, rest⟩
        rw [recoveryFrames, frame, Option.bind_some, frames]

theorem done {draws : Nat → RecoveryDraw} {last : World F} (relieved : last.Relieved e) :
    Recovered e 0 draws last last :=
  ⟨rfl, relieved, fun _ below => absurd below (Nat.not_lt_zero _)⟩

end Recovered

-- With `N` times the rate of the floor left, an NPC at its place is done after `N` frames.
theorem World.Recovering.rested (valued : Valued value) (N : Nat) (draws : Nat → RecoveryDraw)
    (recovering : w.Recovering e needs) (rests : w.Rests e) (some_left : 0 < N)
    (left : value (lit 95) ≤ value needs.crisisLevel + N * value (lit 0.025)) :
    ∃ n last, 0 < n ∧ n ≤ N ∧ Recovered e n draws w last := by
  induction N generalizing w needs draws with
  | zero => exact absurd some_left (Nat.lt_irrefl 0)
  | succ N ih =>
      obtain ⟨m, frame, ⟨relieved, returned⟩ | ⟨needs', again, placed, seat, pieces, short, raised⟩⟩ :=
        recovering.next_frame valued rests (draws 0)
      · exact ⟨1, m, Nat.one_pos, Nat.succ_le_succ (Nat.zero_le N),
          (Recovered.done relieved).cons frame recovering.isResolving returned⟩
      · -- What is left after the frame is positive and one rate less.
        push_cast at left
        have more : (0 : ℝ) < N * value (lit 0.025) := by linarith
        have positive : 0 < N := by
          refine Nat.pos_of_ne_zero fun none => ?_
          rw [none, Nat.cast_zero, zero_mul] at more
          exact lt_irrefl 0 more
        obtain ⟨n, last, moved, bound, recovered⟩ :=
          ih (fun i => draws (i + 1)) again placed positive (by linarith)
        refine ⟨n + 1, last, Nat.succ_pos n, Nat.succ_le_succ bound,
          recovered.cons frame recovering.isResolving fun f aff seated described => ?_⟩
        obtain ⟨start, first, -, returned⟩ := recovered.before 0 moved
        obtain rfl : m = start := Option.some.inj first
        exact returned f aff (seat.trans seated) ((pieces f).trans described)

-- From wherever the crisis has got to, at most one more frame is spent on finding a place.
theorem World.Recovering.recovers (valued : Valued value) (N : Nat) (draws : Nat → RecoveryDraw)
    (recovering : w.Recovering e needs) (some_left : 0 < N)
    (left : value (lit 95) ≤ value needs.crisisLevel + N * value (lit 0.025)) :
    ∃ n last, n ≤ N + 1 ∧ Recovered e n draws w last := by
  by_cases rests : w.Rests e
  next =>
    obtain ⟨n, last, -, bound, recovered⟩ := recovering.rested valued N draws rests some_left left
    exact ⟨n, last, Nat.le_succ_of_le bound, recovered⟩
  next =>
    obtain ⟨m, needs', frame, again, placed, unseated, kept⟩ :=
      recovering.first_frame valued rests (draws 0)
    obtain ⟨n, last, -, bound, recovered⟩ :=
      again.rested valued N (fun i => draws (i + 1)) placed some_left (by linarith)
    refine ⟨n + 1, last, Nat.succ_le_succ bound,
      recovered.cons frame recovering.isResolving fun f aff seated _ => ?_⟩
    rw [unseated] at seated
    cases seated

/-- In every reachable state an NPC that is left with the furniture node has its crisis resolved
within the frames that the bare floor would take, and gives back every piece it used. -/
theorem crises_recover (exact : Exact F) (data : WorldBootstrapData F)
    (settings : SimulationSettings F) (obstacles : Option (List Obstacle))
    (needsDraws : Nat → NeedsDraw F) (start w : World F)
    (past : List (Transition (World F) (Event F)))
    (booted : bootstrap data settings obstacles needsDraws = some start)
    (run : ServerRun start past w) (e : Entity) (needs : NeedsComp F)
    (needy : w.reg.needs e = some needs) (resolving : needs.isResolvingSurvival = true)
    (known : needs.currentSurvivalType = .hunger ∨ needs.currentSurvivalType = .fatigue)
    (low : lt needs.crisisLevel (lit 95) = true) (draws : Nat → RecoveryDraw) :
    ∃ (n : Nat) (last : World F), le (ofInt n) (lit 2 + (lit 95 - needs.crisisLevel) / lit 0.025) = true ∧
      Recovered e n draws w last := by
  obtain ⟨value, valued⟩ := exact
  have staffed := reachable_staffed data settings obstacles needsDraws start w past booted run
  have npc : w.isNpc e = true := by simp [World.isNpc, needy]
  have recovering : w.Recovering e needs :=
    ⟨staffed.matched, staffed.staged e npc,
      reachable_equipped data settings obstacles needsDraws start w past booted run e npc,
      reachable_cells data settings obstacles needsDraws start w past booted run, needy, resolving,
      known⟩
  obtain ⟨missing, frames⟩ : ∃ missing,
      missing = (value (lit 95) - value needs.crisisLevel) / value (lit 0.025) := ⟨_, rfl⟩
  have rate : 0 < value (lit 0.025) := by
    rw [valued.lit]
    norm_num
  have lacking : 0 < missing := by
    rw [frames]
    exact div_pos (sub_pos.mpr ((valued.lt _ _).mp low)) rate
  have enough : value (lit 95) ≤
      value needs.crisisLevel + (⌈missing⌉₊ : ℝ) * value (lit 0.025) := by
    have above := Nat.le_ceil missing
    rw [frames, div_le_iff₀ rate, ← frames] at above
    linarith
  obtain ⟨n, last, bound, recovered⟩ :=
    recovering.recovers valued ⌈missing⌉₊ draws (Nat.ceil_pos.mpr lacking) enough
  refine ⟨n, last, (valued.le _ _).mpr ?_, recovered⟩
  have few : (n : ℝ) ≤ ⌈missing⌉₊ + 1 := by exact_mod_cast bound
  have below := Nat.ceil_lt_add_one lacking.le
  have number : value (ofInt n) = n := by
    rw [ofInt, valued.lit]
    norm_cast
  rw [valued.add, valued.div, valued.sub, ← frames, number, valued.lit 2]
  push_cast
  linarith

-- Ella has just sat down at the first table of the inn, and gets up again.
theorem crises_recover_inn : ∃ past w needs, ServerRun inn past w ∧ w.seatOf 2 = some 0 ∧
    w.reg.needs 2 = some needs ∧ ∃ (n : Nat) (last : World ℚ),
      le (ofInt n) (lit 2 + (lit 95 - needs.crisisLevel) / lit 0.025) = true ∧
      Recovered 2 n (fun _ => ⟨⟨id, fun _ => 0⟩, fun _ => id⟩) w last := by
  have passed : (followWhile step (fun _ _ => true) [.behaviorTree 2 ⟨id, fun _ => 0⟩] inn).any
      (fun w => w.seatOf 2 = some 0 && (w.reg.needs 2).any fun needs =>
        needs.isResolvingSurvival && decide (needs.currentSurvivalType = .hunger) &&
          lt needs.crisisLevel (lit 95)) = true := by decide +kernel
  obtain ⟨past, w, run, -, -, checked⟩ := Run.exists_of_check _ _ _ passed
  rw [Bool.and_eq_true, decide_eq_true_eq] at checked
  obtain ⟨seated, checked⟩ := checked
  obtain ⟨needs, needy, checked⟩ := (Option.any_eq_true _ _).mp checked
  simp only [Bool.and_eq_true, decide_eq_true_eq] at checked
  obtain ⟨⟨resolving, hungry⟩, low⟩ := checked
  exact ⟨past, w, needs, run, seated, needy,
    crises_recover exact_rat innData ⟨2, 60⟩ (some []) (fun _ => ⟨10, 100⟩) inn w past inn_boots run 2
      needs needy resolving (.inl hungry) low _⟩

end MundusVivens
