import MundusVivens.Furniture.Npcs
import MundusVivens.Ledger.Simulation
import MundusVivens.World.Settlers

set_option autoImplicit false

namespace MundusVivens

open Scalar BehaviorTree Runs

variable {F : Type} [Scalar F]

structure World.OnStage (w : World F) (x : Entity) : Prop where
  resident : w.Resident x
  located : (w.reg.location x).isSome = true
  shown : (w.reg.activity x).isSome = true
  named : (w.reg.identity x).isSome = true

theorem Ledger.apply_active (l : Ledger) (a : Act) (x : Entity) (issued : x ≠ l.nextEntity)
    (unplayed : l.playerTag x = none) (enabled : l.Enabled a) :
    (l.apply a).active x = l.active x := by
  cases a with
  | enlist session id => simp [apply, create, destroy, issued]
  | leave player tag =>
      have other : x ≠ player := by
        rintro rfl
        have tagged : l.playerTag x = some tag := enabled
        simp [unplayed] at tagged
      simp [apply, release, destroy, other]
  | opened ticket npc player sessionId =>
      simp only [apply, openDialogue]
      split <;> rfl
  | _ => rfl

theorem Ledger.kept_active {l l' : Ledger} (kept : l.Kept l') (x : Entity)
    (valid : l.valid x = true) (issued : ∀ e, l.nextEntity ≤ e → l.valid e = false)
    (unfurnished : l.furniture x = false) : l'.active x = l.active x := by
  suffices all : l'.active x = l.active x ∧ l'.valid x = true ∧ l'.furniture x = false ∧
      ∀ e, l'.nextEntity ≤ e → l'.valid e = false from all.1
  induction kept with
  | refl => exact ⟨rfl, valid, unfurnished, issued⟩
  | @tail m l' _ upkeep ih =>
      obtain ⟨same, present, plain, fresh⟩ := ih
      cases upkeep with
      | furnish id =>
          have other : x ≠ m.nextEntity := by
            rintro rfl
            simp [fresh _ (Nat.le_refl _)] at present
          refine ⟨?_, ?_, ?_, fun e late => ?_⟩
          · simpa [furnish, create, destroy, other] using same
          · simpa [furnish, create, destroy, other] using present
          · simpa [furnish, create, destroy, other] using plain
          · have later : m.nextEntity + 1 ≤ e := late
            have apart : e ≠ m.nextEntity := Nat.ne_of_gt later
            simpa [furnish, create, destroy, apart] using fresh e (Nat.le_of_succ_le later)
      | demolish e furniture =>
          have other : x ≠ e := by
            rintro rfl
            simp [plain] at furniture
          refine ⟨?_, ?_, ?_, fun y late => ?_⟩
          · simpa [destroy, other] using same
          · simpa [destroy, other] using present
          · simpa [destroy, other] using plain
          · by_cases gone : y = e
            next => simp [destroy, gone]
            next => simpa [destroy, gone] using fresh y late
      | resume e waiting => exact ⟨same, present, plain, fresh⟩

theorem step_shown (event : Event F) (w w' : World F) (x : Entity) (resident : w.Resident x)
    (stepped : step event w = some w') :
    (w'.reg.activity x).isSome = (w.reg.activity x).isSome := by
  rcases step_simulates event stepped with kept | ⟨a, -, enabled, applied⟩
  · exact Ledger.kept_active kept x resident.valid w.reg.issued
      (by simp [World.ledger, resident.unfurnished])
  · have same := w.ledger.apply_active a x (w.reg.ne_nextEntity resident.valid) resident.unplayed
      enabled
    rw [← applied] at same
    exact same

namespace World

variable {w w' : World F} {e x : Entity}

theorem updateEntityPosition_located (y : Entity) (a b : F)
    (located : (w.reg.location x).isSome = true) :
    ((w.updateEntityPosition y a b).reg.location x).isSome = true := by
  unfold updateEntityPosition
  dsimp only
  split
  next => by_cases same : x = y <;> simp [setLocation, same, located]
  next => exact located

omit [Scalar F] in
theorem setLocation_located (y : Entity) (loc : LocationComp F)
    (located : (w.reg.location x).isSome = true) :
    ((w.setLocation y loc).reg.location x).isSome = true := by
  by_cases same : x = y <;> simp [setLocation, same, located]

theorem movePlayer_located (sessionIndex : UInt32) (a b c : F)
    (moved : w.movePlayer sessionIndex a b c = some w')
    (located : (w.reg.location x).isSome = true) : (w'.reg.location x).isSome = true := by
  unfold movePlayer at moved
  split at moved
  next =>
    obtain rfl := Option.some.inj moved
    exact located
  next player _ =>
    simp only [Option.bind_eq_bind, Option.bind_eq_some_iff] at moved
    obtain ⟨loc, -, identity, -, stored⟩ := moved
    obtain rfl := Option.some.inj stored
    exact updateEntityPosition_located _ _ _ (setLocation_located _ _ located)

theorem movement_located (moved : w.movement e = some w')
    (located : (w.reg.location x).isSome = true) : (w'.reg.location x).isSome = true := by
  refine movement_preserves (fun m => (m.reg.location x).isSome = true) (fun write located => ?_)
    moved located
  cases write with
  | step => exact updateEntityPosition_located e _ _ located
  | put loc => exact updateEntityPosition_located e _ _ (setLocation_located e loc located)
  | velocity | path | toil | activity => exact located

omit [Scalar F] in
theorem occupyFurniture_located {needs : NeedsComp F} {loc : LocationComp F} {toil : ToilComp}
    {f : Entity} (occupied : w.occupyFurniture e needs loc toil f = some w') :
    (w'.reg.location e).isSome = true := by
  obtain ⟨aff, place, -, -, rfl⟩ := occupyFurniture_eq occupied
  simp [settle, setActivity, setToil, setLocation]

theorem interactFurniture_located (draw : BehaviorDraw) (status : NodeStatus)
    (resident : w.Resident x) (ran : w.actionInteractFurniture e draw = some (status, w'))
    (located : (w.reg.location x).isSome = true) : (w'.reg.location x).isSome = true := by
  by_cases same : x = e
  next =>
    subst same
    obtain ⟨needs, loc, toil, job, identity, -, acted⟩ := interactFurniture_cases ran
    cases acted with
    | settles seeks settled =>
        cases settled with
        | seat f found taken => exact occupyFurniture_located taken
        | camp name type full wild suits taken => exact occupyFurniture_located taken
        | floor => exact located
    | recharges => exact located
    | resolves amount left rests recovers full leaves =>
        have there := w.leaveFurniture_location left x _ resident leaves
        simpa [setNeeds, issue, setJob, setToil, setActivity, there] using located
  next =>
    have within := (w.interactFurniture_within w' e x draw status resident ran).others same
    have kept : w'.reg.location x = w.reg.location x := within.same .location rfl
    rw [kept]
    exact located

theorem runLeaf_located (draw : BehaviorDraw) (leaf : SurvivalLeaf) (status : NodeStatus)
    (w w' : World F) (resident : w.Resident x) (ran : runLeaf e draw leaf w = some (status, w'))
    (located : (w.reg.location x).isSome = true) : (w'.reg.location x).isSome = true := by
  by_cases sits : leaf = .interactFurniture
  next =>
    subst sits
    exact interactFurniture_located draw status resident ran located
  next =>
    have still : leaf.scope.covers .location = false := by
      cases leaf <;> first | rfl | exact absurd rfl sits
    have kept : w'.reg.location x = w.reg.location x :=
      (runLeaf_within e x draw leaf status w w' resident ran).same .location still
    rw [kept]
    exact located

end World

theorem step_onStage (event : Event F) (w w' : World F) (x : Entity) (matched : w.Matched)
    (stage : w.OnStage x) (stepped : step event w = some w') : w'.OnStage x := by
  have within := resident_step_within event w w' x stage.resident stepped
  refine ⟨step_resident event w w' x stage.resident stepped, ?_, ?_, ?_⟩
  · have apart (still : event.scope.covers .location = false) :
        (w'.reg.location x).isSome = true := by
      have kept : w'.reg.location x = w.reg.location x := within.same .location still
      rw [kept]
      exact stage.located
    cases event with
    | command cmd =>
        cases cmd with
        | move sessionIndex a b c => exact World.movePlayer_located _ _ _ _ stepped stage.located
        | _ => exact apart rfl
    | movement e => exact World.movement_located stepped stage.located
    | behaviorTree e draw =>
        have both := World.behaviorTree_kept e draw
          (fun m => m.Matched ∧ m.Resident x ∧ (m.reg.location x).isSome = true) (fun _ _ => True)
          (fun m here planted => here.1.planted planted)
          (fun leaf m status m' here starts _ ran =>
            ⟨World.runLeaf_matched draw leaf status m m' here.1 starts ran,
              (runLeaf_within e x draw leaf status m m' here.2.1 ran).resident
                (by cases leaf <;> rfl) here.2.1,
              World.runLeaf_located draw leaf status m m' here.2.1 ran here.2.2⟩)
          w w' ⟨matched, stage.resident, stage.located⟩ stepped fun _ _ => trivial
        exact both.2.2
    | _ => exact apart rfl
  · rw [step_shown event w w' x stage.resident stepped]
    exact stage.shown
  · have anonymous : event.scope.covers .identity = false := by
      cases event with
      | command cmd => cases cmd <;> rfl
      | _ => rfl
    have kept : w'.reg.identity x = w.reg.identity x := within.same .identity anonymous
    rw [kept]
    exact stage.named

structure World.Staffed (w : World F) : Prop where
  matched : w.Matched
  staged : ∀ n, w.isNpc n = true → w.OnStage n

theorem step_staffed (event : Event F) (w w' : World F) (staffed : w.Staffed)
    (stepped : step event w = some w') : w'.Staffed where
  matched := step_matched event w w' staffed.matched stepped
  staged := fun n npc => step_onStage event w w' n staffed.matched
    (staffed.staged n (step_npc event w w' n staffed.matched stepped npc)) stepped

omit [Scalar F] in
theorem Within.onStage {e n : Entity} {w w' : World F} (within : Within settlingScope e n w w')
    (stage : w.OnStage n) : w'.OnStage n := by
  have located : w'.reg.location n = w.reg.location n := within.same .location rfl
  have shown : w'.reg.activity n = w.reg.activity n := within.same .activity rfl
  have named : w'.reg.identity n = w.reg.identity n := within.same .identity rfl
  exact ⟨within.resident rfl stage.resident, by rw [located]; exact stage.located,
    by rw [shown]; exact stage.shown, by rw [named]; exact stage.named⟩

theorem placeFurniture_staffed (w : World F) (furn : FurnitureData F) (staffed : w.Staffed) :
    (placeFurniture w furn).Staffed := by
  refine ⟨placeFurniture_matched w furn staffed.matched, fun n npc => ?_⟩
  by_cases same : n = w.reg.nextEntity
  next =>
    subst same
    simp [World.isNpc, placeFurniture_needs] at npc
  next =>
    have within := placeFurniture_within w furn n n same
    exact within.onStage (staffed.staged n (within.npc_before npc))

theorem spawnAgent_located (state : World F × UInt8) (agent : InitialAgentState F)
    (draw : NeedsDraw F) (settler : agent.agentId ≠ 1) :
    ((spawnAgent state agent draw).1.reg.location state.1.reg.nextEntity).isSome = true ∧
      ((spawnAgent state agent draw).1.reg.activity state.1.reg.nextEntity).isSome = true := by
  obtain ⟨w, nextEmoId⟩ := state
  unfold spawnAgent
  dsimp only
  rw [if_neg settler]
  refine ⟨?_, by simp [equipAgent]⟩
  exact World.updateEntityPosition_located _ _ _ (by simp [World.setLocation])

theorem spawnAgent_staffed (state : World F × UInt8) (agent : InitialAgentState F)
    (draw : NeedsDraw F) (staffed : state.1.Staffed) : (spawnAgent state agent draw).1.Staffed := by
  have matched := spawnAgent_matched state agent draw staffed.matched
  refine ⟨matched, fun n npc => ?_⟩
  by_cases same : n = state.1.reg.nextEntity
  next =>
    by_cases player : agent.agentId = 1
    next =>
      rw [spawnAgent_player state agent draw player] at npc ⊢
      exact staffed.staged n npc
    next =>
      subst same
      have settles := spawnAgent_settles state agent draw player
      obtain ⟨located, shown⟩ := spawnAgent_located state agent draw player
      exact ⟨matched.resident settles.needs, located, shown, by simp [settles.identity]⟩
  next =>
    have within := spawnAgent_within state agent draw n n same
    exact within.onStage (staffed.staged n (within.npc_before npc))

theorem bootstrap_staffed (data : WorldBootstrapData F) (settings : SimulationSettings F)
    (obstacles : Option (List Obstacle)) (draws : Nat → NeedsDraw F) (w : World F)
    (booted : bootstrap data settings obstacles draws = some w) : w.Staffed := by
  refine bootstrap_induction World.Staffed data settings obstacles draws w booted ?_
    placeFurniture_staffed spawnAgent_staffed
  refine ⟨⟨fun n has => ?_, fun n has => ?_, fun f has => ?_, fun n f => ?_, fun n own f has => ?_⟩,
    fun n npc => ?_⟩
  all_goals simp_all [World.fittings, emptyWorld, Registry.empty, Fittings.seat, Fittings.guest,
    World.isNpc]

theorem reachable_staffed (data : WorldBootstrapData F) (settings : SimulationSettings F)
    (obstacles : Option (List Obstacle)) (draws : Nat → NeedsDraw F) (start w : World F)
    (past : List (Transition (World F) (Event F)))
    (booted : bootstrap data settings obstacles draws = some start)
    (run : ServerRun start past w) : w.Staffed :=
  run.preserved World.Staffed (bootstrap_staffed data settings obstacles draws start booted)
    fun m event m' => step_staffed event m m'

end MundusVivens
