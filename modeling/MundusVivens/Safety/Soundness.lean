import MundusVivens.Safety.Walkers
import MundusVivens.Walking.SharedScratch
import MundusVivens.Walking.Traces
import MundusVivens.Walking.Visits

set_option autoImplicit false

/-!
# Intact worlds

What the systems read without asking is there: every resident is an NPC with all
the components of one, every handle in use has a number and a place, and whatever is
aimed at, asked about or talked to is a resident.
-/

namespace MundusVivens

open Scalar BehaviorTree GridMap Runs

variable {F : Type} [Scalar F]

-- The components that the systems read of an NPC, whatever else it has.
structure World.Able (w : World F) (n : Entity) : Prop where
  needy : w.isNpc n = true
  equipped : w.Equipped n
  shown : (w.reg.activity n).isSome = true
  hurt : (w.reg.health n).isSome = true

structure World.Ordered (w : World F) : Prop where
  roster : w.ledger.Roster
  peopled : w.ledger.Peopled
  sited : w.Sited
  armed : w.Armed
  able : ∀ n, w.Resident n → w.Able n
  walkers : ∀ x, w.Striding x → w.Resident x

-- The map is ready for a search as well.
structure World.Intact (w : World F) : Prop extends w.Ordered where
  clean : Clean w.map.scratch

variable {w w' : World F}

theorem step_hurt (event : Event F) (x : Entity) (matched : w.Matched) (resident : w.Resident x)
    (hurt : (w.reg.health x).isSome = true) (stepped : step event w = some w') :
    (w'.reg.health x).isSome = true := by
  have apart (unhurt : event.scope.covers .health = false) : (w'.reg.health x).isSome = true := by
    have same : w'.reg.health x = w.reg.health x :=
      (resident_step_within event w w' x resident stepped).same .health unhurt
    rw [same]
    exact hurt
  cases event with
  | behaviorTree e draw =>
      have both := World.behaviorTree_kept e draw
        (fun m => m.Matched ∧ m.Resident x ∧ (m.reg.health x).isSome = true) (fun _ _ => True)
        (fun m here planted => here.1.planted planted)
        (fun leaf m status m' here starts _ ran => by
          refine ⟨World.runLeaf_matched draw leaf status m m' here.1 starts ran,
            (runLeaf_within e x draw leaf status m m' here.2.1 ran).resident
              (by cases leaf <;> rfl) here.2.1, ?_⟩
          rcases World.runLeaf_health m' draw leaf status x here.2.1 ran with same | ⟨-, strikes⟩
          · rw [same]
            exact here.2.2
          · obtain ⟨combat, -, -, -, -, health, -, blow⟩ := strikes.armed
            simp [blow])
        w w' ⟨matched, resident, hurt⟩ stepped fun _ _ => trivial
      exact both.2.2
  | command cmd => cases cmd <;> exact apart rfl
  | _ => exact apart rfl

theorem step_somewhere (event : Event F) (matched : w.Matched) (stepped : step event w = some w') :
    ∃ x, Within event.scope event.actor x w w' := by
  by_cases remakes : event.remakes = false
  next => exact ⟨0, step_within event w w' 0 remakes stepped⟩
  cases event with
  | cleanupPlayer player =>
      obtain rfl := Option.some.inj stepped
      refine ⟨player + 1, ?_⟩
      unfold World.cleanupPlayer
      repeat' split
      next => exact .refl _ _ _ w
      next => exact .refl _ _ _ w
      next tag _ _ => exact w.removePlayer_within _ _ player tag (Nat.succ_ne_self player)
  | command cmd =>
      cases cmd with
      | login sessionIndex playerId playerName =>
          obtain ⟨player, -, -, outside⟩ :=
            w.login_outside w' 0 sessionIndex playerId playerName stepped
          exact ⟨player + 1, outside (player + 1) (Nat.succ_ne_self player)⟩
      | _ => exact absurd rfl remakes
  | behaviorTree e draw =>
      by_cases planted : w.reg.behaviorTree e = some ()
      next => exact ⟨e, w.behaviorTree_within w' e e draw (matched.planted planted) stepped⟩
      next =>
        have bare := World.isNone_tree planted
        obtain rfl : w = w' := by simpa [step, World.behaviorTree, bare] using stepped
        exact ⟨e, .refl _ _ _ w⟩
  | checkOccupant furniture =>
      obtain rfl := Option.some.inj stepped
      exact ⟨furniture, .of_eq (World.checkOccupant_idle matched furniture)⟩
  | resolveAffordance e => exact ⟨e, .of_eq (World.resolveAffordance_idle matched w' stepped)⟩
  | _ => exact absurd rfl remakes

theorem step_clean (unset : le (lit 1000000000 : F) (lit 1000000000) = true) (event : Event F)
    (matched : w.Matched) (clean : Clean w.map.scratch) (stepped : step event w = some w') :
    Clean w'.map.scratch := by
  have apart (unmapped : event.scope.covers .search = false) : Clean w'.map.scratch := by
    obtain ⟨x, within⟩ := step_somewhere event matched stepped
    have same : (w'.map.pathCache, w'.map.scratch) = _ := within.same .search unmapped
    rw [(Prod.mk.inj same).2]
    exact clean
  cases event with
  | pathfinding e searches choice =>
      obtain ⟨⟨m, spent⟩, visited, rfl⟩ := Option.map_eq_some_iff.mp stepped
      cases w.pathfinding_seeks e searches spent choice m visited with
      | unaimed | sighted | kept | postponed => exact clean
      | searched loc job path toil result map aimed hasToil blocked pathless left found =>
          have answered : (⟨choice.top, loc.x, loc.z, job.targetX, job.targetZ,
              defaultIterations⟩ : PathQuery F).answer w.map = some (result, map) := found
          rw [World.followResult_map]
          exact clean.answered unset _ answered
  | command cmd => cases cmd <;> exact apart rfl
  | _ => exact apart rfl

theorem step_able (event : Event F) (x : Entity) (matched : w.Matched) (resident : w.Resident x)
    (able : w.Able x) (stepped : step event w = some w') : w'.Able x where
  needy := step_needy event w w' x matched able.needy stepped
  equipped := step_equipped event w w' x resident able.equipped stepped
  shown := (step_shown event w w' x resident stepped).trans able.shown
  hurt := step_hurt event x matched resident able.hurt stepped

theorem step_residents (event : Event F) (stepped : step event w = some w') (n : Entity) :
    w'.Resident n ↔ w.Resident n := by
  constructor
  · intro resident
    exact (w.isNpc_ledger n).mp (resident_before event w w' n stepped ((w'.isNpc_ledger n).mpr resident))
  · exact fun resident => step_resident event w w' n resident stepped

theorem step_ordered (event : Event F) (ordered : w.Ordered) (stepped : step event w = some w') :
    w'.Ordered := by
  have matched := ordered.armed.matched
  have people := step_peopled event w w' ordered.roster ordered.peopled stepped
  constructor
  case roster => exact people.1
  case peopled => exact people.2
  case sited => exact step_sited event w w' matched ordered.sited stepped
  case armed => exact step_armed event ordered.armed stepped
  case able =>
    intro n resident
    have before := (step_residents event stepped n).mp resident
    exact step_able event n matched before (ordered.able n before) stepped
  case walkers =>
    -- Whoever walks did so before, or has been sent out by this step, which only an NPC can be.
    intro x strides
    rcases step_setsOut event ordered.armed ordered.peopled stepped x strides with before | starts
    · exact step_resident event w w' x (ordered.walkers x before) stepped
    · exact step_resident event w w' x starts stepped

theorem step_intact (unset : le (lit 1000000000 : F) (lit 1000000000) = true) (event : Event F)
    (intact : w.Intact) (stepped : step event w = some w') : w'.Intact where
  toOrdered := step_ordered event intact.toOrdered stepped
  clean := step_clean unset event intact.armed.matched intact.clean stepped

-- The part of soundness that each agent brings along.
structure World.Settled (w : World F) : Prop where
  able : ∀ n, w.Resident n → w.Able n
  sited : w.Sited
  resting : ∀ x, ¬ w.Striding x
  clean : Clean w.map.scratch

theorem World.Settled.beside (settled : w.Settled) (new : Entity)
    (within : ∀ x, x ≠ new → Within settlingScope x x w w')
    (able : w'.Resident new → w'.Able new) (located : (w'.reg.location new).isSome = true)
    (resting : ¬ w'.Striding new) : w'.Settled := by
  constructor
  case able =>
    intro n resident
    by_cases same : n = new
    next => exact same ▸ able (same ▸ resident)
    next =>
      have apart := within n same
      have valid : w'.reg.valid n = w.reg.valid n := apart.same .valid rfl
      have tag : w'.reg.playerTag n = w.reg.playerTag n := apart.same .playerTag rfl
      have affordance : w'.reg.affordance n = w.reg.affordance n := apart.same .affordance rfl
      -- It was there before, with the same components.
      have before := settled.able n ⟨valid ▸ resident.valid, tag ▸ resident.unplayed,
        affordance ▸ resident.unfurnished⟩
      have needs : w'.reg.needs n = w.reg.needs n := apart.same .needs rfl
      have job : w'.reg.job n = w.reg.job n := apart.same .job rfl
      have toil : w'.reg.toil n = w.reg.toil n := apart.same .toil rfl
      have activity : w'.reg.activity n = w.reg.activity n := apart.same .activity rfl
      have health : w'.reg.health n = w.reg.health n := apart.same .health rfl
      constructor
      case needy => simpa [World.isNpc, needs] using before.needy
      case equipped => simpa [World.Equipped, job, toil] using before.equipped
      case shown => rw [activity]; exact before.shown
      case hurt => rw [health]; exact before.hurt
  case sited =>
    intro x valid
    by_cases same : x = new
    next => exact same ▸ located
    next =>
      have present : w'.reg.valid x = w.reg.valid x := (within x same).same .valid rfl
      have stands : w'.reg.location x = w.reg.location x := (within x same).same .location rfl
      rw [stands]
      exact settled.sited x (present ▸ valid)
  case resting =>
    intro x strides
    by_cases same : x = new
    next => exact resting (same ▸ strides)
    next =>
      have toil : w'.reg.toil x = w.reg.toil x := (within x same).same .toil rfl
      exact settled.resting x (by simpa [World.Striding, toil] using strides)
  case clean =>
    have map : (w'.map.pathCache, w'.map.scratch) = _ :=
      (within (new + 1) (Nat.succ_ne_self new)).same .search rfl
    rw [(Prod.mk.inj map).2]
    exact settled.clean

theorem placeFurniture_stands (w : World F) (furn : FurnitureData F) :
    (placeFurniture w furn).reg.affordance w.reg.nextEntity =
      some ⟨.ofUInt8 furn.type, none, furn.isTemporary⟩ := by
  rw [placeFurniture]
  refine Eq.trans (updateEntityPosition_same _ _ _ _ .affordance (by simp)) ?_
  simp [World.setAffordance]

theorem placeFurniture_toils (w : World F) (furn : FurnitureData F) :
    (placeFurniture w furn).reg.toil w.reg.nextEntity = none := by
  rw [placeFurniture]
  refine Eq.trans (updateEntityPosition_same _ _ _ _ .toil (by simp)) ?_
  simp [World.setAffordance, World.setLocation, World.setIdentity, Registry.create,
    Registry.destroy]

theorem placeFurniture_settled (w : World F) (furn : FurnitureData F) (settled : w.Settled) :
    (placeFurniture w furn).Settled := by
  refine settled.beside w.reg.nextEntity (fun x other => placeFurniture_within w furn x x other)
    (fun resident => ?_) ?_ ?_
  · have unfurnished := resident.unfurnished
    simp [placeFurniture_stands] at unfurnished
  · rw [placeFurniture]
    exact World.updateEntityPosition_located _ _ _ (by simp [World.setAffordance, World.setLocation])
  · rintro ⟨toil, toils, -⟩
    simp [placeFurniture_toils] at toils

theorem spawnAgent_settled (state : World F × UInt8) (agent : InitialAgentState F)
    (draw : NeedsDraw F) (settled : state.1.Settled) : (spawnAgent state agent draw).1.Settled := by
  by_cases player : agent.agentId = 1
  next =>
    rw [spawnAgent_player state agent draw player]
    exact settled
  have settles := spawnAgent_settles state agent draw player
  obtain ⟨located, shown⟩ := spawnAgent_located state agent draw player
  refine settled.beside state.1.reg.nextEntity
    (fun x other => spawnAgent_within state agent draw x x other) (fun _ => ?_) located ?_
  · exact ⟨by simp [World.isNpc, settles.needs], by simp [World.Equipped, settles.job, settles.toil],
      shown, by simp [settles.health]⟩
  · rintro ⟨toil, toils, moving⟩
    obtain rfl := Option.some.inj (settles.toil.symm.trans toils)
    cases moving

theorem bootstrap_settled (data : WorldBootstrapData F) (settings : SimulationSettings F)
    (obstacles : Option (List Obstacle)) (draws : Nat → NeedsDraw F)
    (booted : bootstrap data settings obstacles draws = some w) : w.Settled := by
  refine bootstrap_induction World.Settled data settings obstacles draws w booted ?_
    placeFurniture_settled spawnAgent_settled
  constructor
  case able =>
    intro n resident
    have valid := resident.valid
    simp [emptyWorld, Registry.empty] at valid
  case sited =>
    intro x valid
    simp [emptyWorld, Registry.empty] at valid
  case resting =>
    rintro x ⟨toil, toils, -⟩
    simp [emptyWorld, Registry.empty] at toils
  case clean => exact freshScratch_clean

theorem bootstrap_intact (data : WorldBootstrapData F) (settings : SimulationSettings F)
    (obstacles : Option (List Obstacle)) (draws : Nat → NeedsDraw F)
    (booted : bootstrap data settings obstacles draws = some w) : w.Intact := by
  have settled := bootstrap_settled data settings obstacles draws booted
  exact {
    roster := (bootstrap_initial data settings obstacles draws w booted).roster
    peopled := bootstrap_peopled data settings obstacles draws w booted
    sited := settled.sited
    armed := bootstrap_armed data settings obstacles draws w booted
    able := settled.able
    walkers := fun x strides => absurd strides (settled.resting x)
    clean := settled.clean }

theorem Reaches.ordered {start : World F} (data : WorldBootstrapData F)
    (settings : SimulationSettings F) (obstacles : Option (List Obstacle))
    (draws : Nat → NeedsDraw F) (booted : bootstrap data settings obstacles draws = some start)
    (reaches : Reaches start w) : w.Ordered := by
  obtain ⟨past, run⟩ := reaches
  exact run.preserved World.Ordered
    (bootstrap_intact data settings obstacles draws booted).toOrdered
    fun _ event _ here stepped => step_ordered event here stepped

theorem run_intact {start : World F} {past : List (Transition (World F) (Event F))}
    (unset : le (lit 1000000000 : F) (lit 1000000000) = true) (intact : start.Intact)
    (run : ServerRun start past w) : w.Intact :=
  run.preserved World.Intact intact fun _ event _ here stepped => step_intact unset event here stepped

end MundusVivens
