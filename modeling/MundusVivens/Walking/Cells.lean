import MundusVivens.Walking.Positions

set_option autoImplicit false

namespace MundusVivens

open Scalar BehaviorTree Runs LocationRegistry

variable {F : Type} [Scalar F]

namespace World

variable {w w' : World F} {e : Entity}

theorem updateEntityPosition_cells (y : Entity) (x z : F) (coherent : w.grid.Coherent) :
    (w.updateEntityPosition y x z).grid.Coherent := by
  rw [updateEntityPosition_grid]
  exact updateEntityPosition_coherent _ _ _ _ _ coherent

theorem login_cells (sessionIndex : UInt32) (playerId playerName : String)
    (coherent : w.grid.Coherent) (logged : w.login sessionIndex playerId playerName = some w') :
    w'.grid.Coherent := by
  simp only [login, Option.bind_eq_bind, Option.bind_eq_some_iff] at logged
  obtain ⟨⟨player, bound⟩, binds, loc, -, stored⟩ := logged
  obtain rfl := Option.some.inj stored
  refine updateEntityPosition_cells _ _ _ ?_
  unfold loginBind at binds
  split at binds
  next =>
    simp only [loginNew, Option.bind_eq_bind, Option.bind_eq_some_iff] at binds
    obtain ⟨made, ⟨tagged, -, created⟩, stored⟩ := binds
    obtain ⟨rfl, rfl⟩ := Prod.mk.inj (Option.some.inj stored)
    obtain rfl := Option.some.inj created
    exact coherent
  next =>
    simp only [loginAgain, Option.bind_eq_bind, Option.bind_eq_some_iff] at binds
    obtain ⟨made, ⟨old, -, again⟩, stored⟩ := binds
    obtain ⟨rfl, rfl⟩ := Prod.mk.inj (Option.some.inj stored)
    obtain rfl := Option.some.inj again
    exact coherent

theorem movePlayer_cells (sessionIndex : UInt32) (x y z : F) (coherent : w.grid.Coherent)
    (moved : w.movePlayer sessionIndex x y z = some w') : w'.grid.Coherent := by
  unfold movePlayer at moved
  split at moved
  next =>
    obtain rfl := Option.some.inj moved
    exact coherent
  next player _ =>
    simp only [Option.bind_eq_bind, Option.bind_eq_some_iff] at moved
    obtain ⟨loc, -, identity, -, stored⟩ := moved
    obtain rfl := Option.some.inj stored
    exact updateEntityPosition_cells _ _ _ coherent

omit [Scalar F] in
theorem cleanupPlayer_cells (player : Entity) (coherent : w.grid.Coherent) :
    (w.cleanupPlayer player).grid.Coherent := by
  unfold cleanupPlayer
  split
  next => exact coherent
  next tag _ =>
    split
    next => exact coherent
    next =>
      have abandoned : (w.abandonDialogue player).grid.Coherent := by
        rw [(w.abandonDialogue_places player).1]
        exact coherent
      unfold removePlayer
      dsimp only
      split
      next => exact removeEntity_coherent _ _ abandoned
      next => exact abandoned

theorem movement_cells (coherent : w.grid.Coherent) (moved : w.movement e = some w') :
    w'.grid.Coherent := by
  refine movement_preserves (fun m => m.grid.Coherent) (fun {m _} write coherent => ?_) moved coherent
  cases write with
  | step => exact updateEntityPosition_cells e _ _ coherent
  | put loc =>
      have put : (m.setLocation e loc).grid.Coherent := coherent
      exact updateEntityPosition_cells e _ _ put
  | velocity | path | toil | activity => exact coherent

theorem spawnCamp_cells (loc : LocationComp F) (name : String) (type : AffordanceType)
    (coherent : w.grid.Coherent) : (w.spawnCamp loc name type).grid.Coherent :=
  updateEntityPosition_cells _ _ _ coherent

theorem findFurniture_cells (draw : BehaviorDraw) (status : NodeStatus)
    (coherent : w.grid.Coherent) (ran : w.actionFindFurniture e draw = some (status, w')) :
    w'.grid.Coherent := by
  obtain ⟨-, needs, job, loc, toil, -, -, -, -, searches⟩ := findFurniture_cases ran
  cases searches with
  | keeps => exact coherent
  | aims => exact coherent
  | camps name type => exact spawnCamp_cells loc name type coherent
  | stays => exact coherent

theorem interactFurniture_cells (draw : BehaviorDraw) (status : NodeStatus)
    (coherent : w.grid.Coherent) (ran : w.actionInteractFurniture e draw = some (status, w')) :
    w'.grid.Coherent := by
  obtain ⟨needs, loc, toil, job, identity, -, acted⟩ := interactFurniture_cases ran
  cases acted with
  | settles seeks settled =>
      cases settled with
      | seat f found taken =>
          rw [occupyFurniture_grid needs loc toil f taken]
          exact coherent
      | camp name type full wild suits taken =>
          rw [occupyFurniture_grid needs loc toil _ taken]
          exact spawnCamp_cells loc name type coherent
      | floor => exact coherent
  | recharges => exact coherent
  | resolves amount left rests recovers full leaves =>
      dsimp only [setActivity, setToil, setJob, issue, setNeeds]
      cases leaves with
      | floor => exact coherent
      | seat => exact coherent
      | camp f => exact removeEntity_coherent _ _ coherent

end World

theorem step_cells (event : Event F) (w w' : World F) (matched : w.Matched)
    (coherent : w.grid.Coherent) (stepped : step event w = some w') : w'.grid.Coherent := by
  have apart (remakes : event.remakes = false) (free : event.scope.covers .grid = false) :
      w'.grid.Coherent := by
    have same : w'.grid = w.grid := (step_within event w w' 0 remakes stepped).same .grid free
    rw [same]
    exact coherent
  cases event with
  | cleanupPlayer player =>
      obtain rfl := Option.some.inj stepped
      exact World.cleanupPlayer_cells player coherent
  | command cmd =>
      cases cmd with
      | login sessionIndex playerId playerName =>
          exact World.login_cells sessionIndex playerId playerName coherent stepped
      | move sessionIndex x y z => exact World.movePlayer_cells sessionIndex x y z coherent stepped
      | talkToNpc sessionIndex npcId =>
          rw [World.talkToNpc_grid sessionIndex npcId stepped]
          exact coherent
      | playerMessage | endDialogue | getAgentStatus =>
          obtain rfl := Option.some.inj stepped
          exact coherent
      | malformed =>
          obtain rfl := Option.some.inj stepped
          exact coherent
  | movement e => exact World.movement_cells coherent stepped
  | behaviorTree e draw =>
      have both := World.behaviorTree_kept e draw (fun m => m.Matched ∧ m.grid.Coherent)
        (fun _ _ => True) (fun m here planted => here.1.planted planted)
        (fun leaf m status m' here starts _ ran => by
          refine ⟨World.runLeaf_matched draw leaf status m m' here.1 starts ran, ?_⟩
          have apart (searches : leaf ≠ .findFurniture) (interacts : leaf ≠ .interactFurniture)
              (free : leaf.scope.covers .grid = false) : m'.grid.Coherent := by
            have within := runLeaf_apart_within e e draw leaf status m m' searches interacts ran
            have same : m'.grid = m.grid := within.same .grid free
            rw [same]
            exact here.2
          cases leaf with
          | findFurniture => exact World.findFurniture_cells draw status here.2 ran
          | interactFurniture => exact World.interactFurniture_cells draw status here.2 ran
          | _ => exact apart (by simp) (by simp) rfl)
        w w' ⟨matched, coherent⟩ stepped fun _ _ => trivial
      exact both.2
  | checkOccupant f =>
      obtain rfl := Option.some.inj stepped
      rw [World.checkOccupant_idle matched f]
      exact coherent
  | resolveAffordance e =>
      rw [World.resolveAffordance_idle matched w' stepped]
      exact coherent
  | _ => exact apart rfl rfl

theorem reachable_cells (data : WorldBootstrapData F) (settings : SimulationSettings F)
    (obstacles : Option (List Obstacle)) (draws : Nat → NeedsDraw F) (start w : World F)
    (past : List (Transition (World F) (Event F)))
    (booted : bootstrap data settings obstacles draws = some start) (run : ServerRun start past w) :
    w.grid.Coherent := by
  have both := run.preserved (fun m : World F => m.Matched ∧ m.grid.Coherent)
    ⟨bootstrap_matched data settings obstacles draws start booted,
      bootstrap_coherent data settings obstacles draws start booted⟩
    fun m event m' here stepped =>
      ⟨step_matched event m m' here.1 stepped, step_cells event m m' here.1 here.2 stepped⟩
  exact both.2

end MundusVivens
