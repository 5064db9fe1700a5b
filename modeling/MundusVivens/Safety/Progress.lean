import MundusVivens.Jobs.Interruptions
import MundusVivens.Safety.Handlers
import MundusVivens.Safety.Leaves
import MundusVivens.Ticks.Quiet
import MundusVivens.Walking.SightLines
import MundusVivens.Walking.Traces

set_option autoImplicit false

/-!
# Every step is defined

A step has no result where the server reads a component that is not there, divides by
zero or follows parents forever. From an intact world only two steps are like that: a
login under the number of an agent, and the request of a tick when no frame makes an hour.
-/

namespace MundusVivens

open Scalar GridMap Runs

variable {F : Type} [Scalar F]

namespace World

variable {w : World F} {e : Entity}

omit [Scalar F] in
theorem Ordered.placed_at (ordered : w.Ordered) (valid : w.reg.valid e = true) :
    ∃ loc, w.reg.location e = some loc :=
  Option.isSome_iff_exists.mp (ordered.sited e valid)

-- The reconnect branch reads the tag of whoever has the number.
theorem login_total (ordered : w.Ordered) (session : UInt32) (playerId playerName : String)
    (players : ∀ e, w.loginTarget playerId = some e → (w.reg.playerTag e).isSome = true) :
    ∃ w', w.login session playerId playerName = some w' := by
  cases known : w.loginTarget playerId with
  | none => exact w.loginNew_defined session playerId playerName known
  | some e =>
      obtain ⟨valid, -⟩ := ordered.roster.indexed _ e known
      obtain ⟨loc, located⟩ := ordered.placed_at valid
      obtain ⟨tag, tagged⟩ := Option.isSome_iff_exists.mp (players e known)
      simp [login, loginBind, known, loginAgain, tagged, located, Registry.modifyPlayerTag]

theorem loginBind_players (session : UInt32) (playerId playerName : String)
    (bound : (w.loginBind session playerId playerName).isSome = true) :
    ∀ e, w.loginTarget playerId = some e → (w.reg.playerTag e).isSome = true := by
  intro e known
  cases tagged : w.reg.playerTag e with
  | none => simp [loginBind, known, loginAgain, tagged] at bound
  | some tag => rfl

theorem movePlayer_total (intact : w.Intact) (session : UInt32) (x y z : F) :
    ∃ w', w.movePlayer session x y z = some w' := by
  unfold movePlayer
  split
  next => exact ⟨_, rfl⟩
  next player bound =>
    obtain ⟨valid, -⟩ := (IndexesValid.of_roster intact.roster).sessions session player bound
    obtain ⟨loc, located⟩ := intact.placed_at valid
    obtain ⟨identity, identified⟩ := intact.named player valid
    simp [located, identified]

theorem startTalk_total (player npc : Entity) (npcId : UInt32) (stage : w.OnStage npc)
    (valid : w.reg.valid player = true) (named : ∃ identity, w.reg.identity player = some identity) :
    ∃ w', w.startTalk player npc npcId = some w' := by
  obtain ⟨-, ⟨activity, shown⟩, -⟩ := stage.reads
  obtain ⟨identity, identified⟩ := named
  obtain ⟨one, npcTagged, same⟩ :=
    (w.setActivity npc "플레이어와 대화 대기").setBusy_total npc .dialogue stage.resident.valid
  obtain ⟨two, playerTagged, -⟩ := one.setBusy_total player .dialogue (by rw [same]; exact valid)
  simp [startTalk, identified, shown, npcTagged, playerTagged]

theorem talkToNpc_total (intact : w.Intact) (session npcId : UInt32) :
    ∃ w', w.talkToNpc session npcId = some w' := by
  unfold talkToNpc
  split
  next => exact ⟨_, rfl⟩
  next player bound =>
    obtain ⟨valid, -⟩ := (IndexesValid.of_roster intact.roster).sessions session player bound
    obtain ⟨loc, located⟩ := intact.placed_at valid
    obtain ⟨identity, identified⟩ := intact.named player valid
    simp only [located, identified, Option.bind_eq_bind, Option.bind_some]
    split
    next => exact ⟨_, rfl⟩
    next npc indexed =>
      split
      next => exact ⟨_, rfl⟩
      next =>
        split
        next => exact ⟨_, rfl⟩
        next untagged =>
          obtain ⟨present, -, solid⟩ := intact.roster.indexed npcId npc indexed
          have stage := intact.onStage ((w.isNpc_ledger npc).mp
            ⟨present, solid, by simpa [ledger] using untagged⟩)
          obtain ⟨⟨npcLoc, npcLocated⟩, -, npcIdentity, npcIdentified⟩ := stage.reads
          simp only [npcLocated, npcIdentified, Option.bind_some]
          repeat' split
          next => exact ⟨_, rfl⟩
          next => exact ⟨_, rfl⟩
          next => exact startTalk_total player npc npcId stage valid ⟨identity, identified⟩

theorem jobDriver_runs (intact : w.Intact) (e : Entity) : ∃ w', w.jobDriver e = some w' := by
  cases shown : w.reg.activity e with
  | none =>
      unfold jobDriver
      split
      next acting _ => simp [shown] at acting
      next => exact ⟨_, rfl⟩
  | some activity => exact jobDriver_total (intact.staged e (by simp [shown])).resident.valid

theorem pathfinding_total (arith : ExactTiles F) (costs : PathCosts F) (intact : w.Intact)
    (e : Entity) (searches : Nat) (choice : PathChoice F) (heap : IsHeap choice.top) :
    ∃ passed, w.pathfinding e searches choice = some passed := by
  unfold pathfinding
  split
  next job toil loc _ _ _ =>
    split
    next =>
      dsimp only
      rw [(w.map.isPathBlocked_line _ _ _ _).1]
      simp only [Option.bind_eq_bind, Option.bind_some]
      split
      next => exact ⟨_, rfl⟩
      next =>
        split
        next => exact ⟨_, rfl⟩
        next =>
          obtain ⟨result, map, found⟩ := PathQuery.answer_total arith costs
            ⟨choice.top, loc.x, loc.z, (w.resolveTarget job choice).targetX,
              (w.resolveTarget job choice).targetZ, defaultIterations⟩ heap intact.clean
          have searched : w.map.findPath choice.top loc.x loc.z (w.resolveTarget job choice).targetX
              (w.resolveTarget job choice).targetZ defaultIterations = some (result, map) := found
          rw [searched]
          exact ⟨_, rfl⟩
    next => exact ⟨_, rfl⟩
  next => exact ⟨_, rfl⟩

theorem avoidObstacle_total (loc : LocationComp F) (steerX steerZ : F) :
    ∃ steered, w.avoidObstacle loc steerX steerZ = some steered := by
  unfold avoidObstacle
  simp only [(w.map.isPathBlocked_line _ _ _ _).1, Option.bind_eq_bind, Option.bind_some]
  split <;> exact ⟨_, rfl⟩

theorem arrive_total (loc : LocationComp F) (toil : ToilComp) (path : PathfindingComp F)
    (job : JobComp F) (shown : ∃ activity, w.reg.activity e = some activity) :
    ∃ w', w.arrive e loc toil path job = some w' := by
  obtain ⟨activity, shown⟩ := shown
  simp [arrive, shown]

theorem movement_total (intact : w.Intact) (e : Entity) : ∃ w', w.movement e = some w' := by
  unfold movement
  split
  next loc toil path vel job identity _ toils _ _ _ _ =>
    split
    next moving =>
      have resident := intact.walkers e ⟨toil, toils, moving⟩
      have shown := Option.isSome_iff_exists.mp (intact.able e resident).shown
      split
      next =>
        unfold seekTarget
        dsimp only
        split
        next => exact arrive_total loc toil path job shown
        next =>
          obtain ⟨steered, avoided⟩ := w.avoidObstacle_total loc _ _
          rw [avoided]
          exact ⟨_, rfl⟩
      next =>
        split
        next =>
          unfold finishPath
          dsimp only
          split
          next => exact arrive_total loc toil path job shown
          next => exact ⟨_, rfl⟩
        next => exact ⟨_, rfl⟩
    next => exact ⟨_, rfl⟩
  next => exact ⟨_, rfl⟩

end World

/-- The login names an agent of the bootstrap data, not a player. -/
def PlayerCommand.impersonates (data : WorldBootstrapData F) (mapper : AgentIdMapper) :
    PlayerCommand F → Bool
  | .login _ playerId _ => data.castsAgent (mapper.getAgentNumericId playerId)
  | _ => false

/-- What the step leaves open is as the program has it, and it is none of the two that go wrong. -/
def Event.Sane (data : WorldBootstrapData F) (w : World F) : Event F → Prop
  | .command cmd => cmd.impersonates data w.mapper = false
  | .pathfinding _ _ choice => IsHeap choice.top
  | .requestTick _ => w.settings.ticksPerGameHour ≠ 0
  | _ => True

section

variable {data : WorldBootstrapData F} {settings : SimulationSettings F}
  {obstacles : Option (List Obstacle)} {draws : Nat → NeedsDraw F} {start w : World F}

theorem loginTarget_players_iff (booted : bootstrap data settings obstacles draws = some start)
    (reached : Reaches start w) (playerId : String) :
    (∀ e, w.loginTarget playerId = some e → (w.reg.playerTag e).isSome = true) ↔
      data.castsAgent (w.mapper.getAgentNumericId playerId) = false := by
  obtain ⟨past, run⟩ := reached
  have cast := (run_cast (bootstrap_initial data settings obstacles draws start booted) run).2
  have index := bootstrap_index data settings obstacles draws start booted
    (w.mapper.getAgentNumericId playerId)
  have target : w.loginTarget playerId =
      w.ledger.index.byNpcId (w.mapper.getAgentNumericId playerId) := rfl
  rw [← index, target, Option.isSome_eq_false_iff, Option.isNone_iff_eq_none]
  constructor
  · intro players
    by_contra agent
    obtain ⟨e, entry⟩ := Option.ne_none_iff_exists'.mp agent
    obtain ⟨indexed, untagged⟩ := cast.lasting _ e entry
    have absent : w.reg.playerTag e = none := untagged
    have tagged := players e indexed
    simp [absent] at tagged
  · intro free e indexed
    rcases cast.players _ e indexed with agent | tagged
    · have entry : start.index.byNpcId (w.mapper.getAgentNumericId playerId) = some e := agent
      simp [entry] at free
    · exact tagged

theorem reaches_intact (unset : le (lit 1000000000 : F) (lit 1000000000) = true)
    (booted : bootstrap data settings obstacles draws = some start) (reached : Reaches start w) :
    w.Intact := by
  obtain ⟨past, run⟩ := reached
  exact run_intact unset (bootstrap_intact data settings obstacles draws booted) run

theorem step_total (arith : ExactTiles F) (costs : PathCosts F)
    (booted : bootstrap data settings obstacles draws = some start) (reached : Reaches start w)
    (event : Event F) (sane : event.Sane data w) :
    ∃ w', step event w = some w' ∧ Reaches start w' := by
  have intact := reaches_intact arith.unset booted reached
  suffices runs : ∃ w', step event w = some w' by
    obtain ⟨w', stepped⟩ := runs
    exact ⟨w', stepped, reached.trans (.of_step stepped)⟩
  cases event with
  | drainTask draws => exact World.drainTask_total intact draws
  | command cmd =>
      cases cmd with
      | login session playerId playerName =>
          exact World.login_total intact.toOrdered session playerId playerName
            ((loginTarget_players_iff booted reached playerId).mpr sane)
      | move session x y z => exact World.movePlayer_total intact session x y z
      | talkToNpc session npcId => exact World.talkToNpc_total intact session npcId
      | _ => exact ⟨_, rfl⟩
  | jobDriver e => exact World.jobDriver_runs intact e
  | socialInteraction processed draw initiator =>
      obtain ⟨talked, visited⟩ := World.socialInteraction_total intact processed draw initiator
      exact ⟨talked.1, by simp [step, visited]⟩
  | behaviorTree e draw => exact World.behaviorTree_total intact e draw
  | pathfinding e searches choice =>
      obtain ⟨passed, visited⟩ := World.pathfinding_total arith costs intact e searches choice sane
      exact ⟨passed.1, by simp [step, visited]⟩
  | movement e => exact World.movement_total intact e
  | resolveAffordance e => exact ⟨w, World.resolveAffordance_stays intact.armed.matched e⟩
  | requestTick physicalTick =>
      simp only [step, World.requestTick]
      rw [if_neg sane]
      split <;> exact ⟨_, rfl⟩
  | _ => exact ⟨_, rfl⟩

end

end MundusVivens
