import MundusVivens.Ledger.Roster
import MundusVivens.Ledger.SocialEffects
import MundusVivens.Ledger.TreeEffects

set_option autoImplicit false

namespace MundusVivens

open Scalar Runs

variable {F : Type} [Scalar F]

-- The act an event performs, when it performs one.
inductive Causes (w : World F) : Event F → Ledger.Act → Prop where
  | login (session : UInt32) (playerId playerName : String)
      (unknown : w.loginTarget playerId = none) :
      Causes w (.command (.login session playerId playerName))
        (.enlist session (w.mapper.getAgentNumericId playerId))
  | relogin (session : UInt32) (playerId playerName : String) (old : PlayerTag) (e : Entity)
      (known : w.loginTarget playerId = some e) :
      Causes w (.command (.login session playerId playerName)) (.rejoin session old e)
  | talk (session npcId : UInt32) (ticket : Nat) (npc player : Entity)
      (bound : w.index.bySessionIndex session = some player)
      (indexed : w.index.byNpcId npcId = some npc) :
      Causes w (.command (.talkToNpc session npcId)) (.talk ticket npc player)
  | endDialogue (session : UInt32) (sessionId : UInt64) (ticket : Nat) :
      Causes w (.command (.endDialogue session sessionId))
        (.hangUp ticket (w.index.bySessionIndex session))
  | cleanup (player : Entity) (tag : PlayerTag) (tagged : w.reg.playerTag player = some tag)
      (gone : w.tcp.sessions tag.sessionIndex = false) :
      Causes w (.cleanupPlayer player) (.leave player tag)
  | completed (draws : Nat → LocationRegistry.RadiusDraw F) (act : Ledger.Act)
      (completes : w.Completes act) : Causes w (.drainTask draws) act
  | aborted (ticket : Nat) (outstanding : w.grpc.isOutstanding ticket = true) :
      Causes w (.abort ticket) (.lost ticket)
  | formed (processed : List Entity) (draw : World.SocialDraw F) (initiator : Entity)
      (ticket : Nat) (members : List Entity) :
      Causes w (.socialInteraction processed draw initiator) (.form ticket members)
  | hit (e target : Entity) (draw : BehaviorDraw) (landed : w.meleeHit e = some target) :
      Causes w (.behaviorTree e draw) (.strike target)
  | waited (e : Entity) : Causes w (.jobDriver e) (.wait e)

/-- One event in the ledger. -/
def Simulates (event : Event F) (w w' : World F) : Prop :=
  w.ledger.Kept w'.ledger ∨
    ∃ act, Causes w event act ∧ w.ledger.Enabled act ∧ w'.ledger = w.ledger.apply act

variable {w w' : World F}

theorem Simulates.of_eq {event : Event F} (same : w'.ledger = w.ledger) : Simulates event w w' :=
  .inl (.of_eq same)

theorem login_simulates (session : UInt32) (playerId playerName : String)
    (logged : w.login session playerId playerName = some w') :
    Simulates (.command (.login session playerId playerName)) w w' := by
  obtain ⟨e, bound, found, same⟩ := w.login_bind w' session playerId playerName logged
  rcases w.loginBind_ledger bound session playerId playerName e found with
    ⟨unknown, -, joined⟩ | ⟨known, old, tagged, rejoined⟩
  · exact .inr ⟨_, .login session playerId playerName unknown, unknown, same.trans joined⟩
  · exact .inr ⟨_, .relogin session playerId playerName old e known, ⟨tagged, _, known⟩,
      same.trans rejoined⟩

theorem command_simulates (cmd : PlayerCommand F) (ran : w.playerCommand cmd = some w') :
    Simulates (.command cmd) w w' := by
  cases cmd with
  | login session playerId playerName => exact login_simulates session playerId playerName ran
  | move session x y z => exact .of_eq (w.movePlayer_ledger w' session x y z ran)
  | talkToNpc session npcId =>
      rcases w.talkToNpc_ledger w' session npcId ran with
        same | ⟨npc, player, bound, indexed, enabled, talked⟩
      · exact .of_eq same
      · exact .inr ⟨_, .talk session npcId _ npc player bound indexed, enabled, talked⟩
  | playerMessage session sessionId message =>
      obtain rfl := Option.some.inj ran
      exact .of_eq (w.ledger_issue_other _ rfl)
  | endDialogue session sessionId =>
      obtain rfl := Option.some.inj ran
      refine .inr ⟨_, .endDialogue session sessionId w.grpc.nextTicket, ⟨w.ledger_fresh, ?_⟩,
        w.endDialogue_ledger session sessionId⟩
      exact fun player bound => ⟨session, bound⟩
  | getAgentStatus session agentId =>
      obtain rfl := Option.some.inj ran
      exact .of_eq (w.ledger_issue_other _ rfl)
  | malformed => exact .of_eq (congrArg World.ledger (Option.some.inj ran)).symm

theorem abort_simulates (ticket : Nat) : Simulates (.abort ticket) w (w.abort ticket) := by
  rcases w.grpc.pending_abort ticket with same | ⟨outstanding, removed⟩
  · exact .of_eq (Ledger.ext rfl rfl rfl rfl rfl rfl rfl rfl rfl rfl same)
  · exact .inr ⟨.lost ticket, .aborted ticket outstanding, trivial,
      Ledger.ext rfl rfl rfl rfl rfl rfl rfl rfl rfl rfl removed⟩

theorem step_simulates (event : Event F) (stepped : step event w = some w') :
    Simulates event w w' := by
  cases event with
  | connect => exact .of_eq (congrArg World.ledger (Option.some.inj stepped)).symm
  | disconnect session => exact .of_eq (congrArg World.ledger (Option.some.inj stepped)).symm
  | respond ticket reply =>
      obtain rfl := Option.some.inj stepped
      exact .of_eq (Ledger.ext rfl rfl rfl rfl rfl rfl rfl rfl rfl rfl
        (w.grpc.pending_respond ticket reply))
  | abort ticket =>
      obtain rfl := Option.some.inj stepped
      exact abort_simulates ticket
  | drainTask draws =>
      rcases w.drainTask_ledger w' draws stepped with kept | ⟨act, completes, enabled, applied⟩
      · exact .inl kept
      · exact .inr ⟨act, .completed draws act completes, enabled, applied⟩
  | cleanupPlayer player =>
      obtain rfl := Option.some.inj stepped
      rcases w.cleanupPlayer_ledger player with same | ⟨tag, tagged, gone, left⟩
      · exact .of_eq same
      · exact .inr ⟨.leave player tag, .cleanup player tag tagged gone, tagged, left⟩
  | command cmd => exact command_simulates cmd stepped
  | syncTick =>
      obtain rfl := Option.some.inj stepped
      exact .of_eq w.syncTick_ledger
  | emotionDecay draw =>
      obtain rfl := Option.some.inj stepped
      exact .of_eq (w.emotionDecay_ledger draw)
  | dailyReset =>
      obtain rfl := Option.some.inj stepped
      exact .of_eq w.dailyReset_ledger
  | requestJobs =>
      obtain rfl := Option.some.inj stepped
      exact .of_eq (w.ledger_issue_other _ rfl)
  | jobDriver e =>
      rcases w.jobDriver_ledger w' e stepped with same | ⟨enabled, waiting⟩
      · exact .of_eq same
      · exact .inr ⟨.wait e, .waited e, enabled, waiting⟩
  | recoverEnergy e =>
      obtain rfl := Option.some.inj stepped
      exact .of_eq (w.recoverEnergy_ledger e)
  | socialInteraction processed draw initiator =>
      obtain ⟨⟨after, grown⟩, talked, rfl⟩ := Option.map_eq_some_iff.mp stepped
      rcases w.socialInteraction_ledger after processed grown draw initiator talked with
        same | ⟨ticket, members, enabled, formed⟩
      · exact .of_eq same
      · exact .inr ⟨.form ticket members, .formed processed draw initiator ticket members,
          enabled, formed⟩
  | networkSync rank =>
      obtain rfl := Option.some.inj stepped
      exact .of_eq (w.networkSync_ledger rank)
  | busyAmbient e =>
      obtain rfl := Option.some.inj stepped
      exact .of_eq (w.busyAmbient_ledger e World.frameTime)
  | perception e =>
      obtain rfl := Option.some.inj stepped
      exact .of_eq (w.perception_ledger e)
  | behaviorTree e draw =>
      rcases behaviorTree_ledger stepped with kept | ⟨target, landed, released⟩
      · exact .inl kept
      · exact .inr ⟨.strike target, .hit e target draw landed, trivial, released⟩
  | death e =>
      obtain rfl := Option.some.inj stepped
      exact .of_eq (w.systemDeath_ledger e)
  | survivalOverride e =>
      obtain rfl := Option.some.inj stepped
      exact .of_eq (w.survivalOverride_ledger e)
  | pathfinding e searches choice =>
      obtain ⟨⟨after, spent⟩, searched, rfl⟩ := Option.map_eq_some_iff.mp stepped
      exact .of_eq (w.pathfinding_ledger after e searches spent choice searched)
  | movement e => exact .of_eq (w.movement_ledger w' e stepped)
  | checkOccupant furniture =>
      obtain rfl := Option.some.inj stepped
      exact .of_eq (w.checkOccupant_ledger furniture)
  | resolveAffordance e => exact .inl (w.resolveAffordance_kept w' e stepped)
  | requestTick physicalTick => exact .of_eq (w.requestTick_ledger w' physicalTick stepped)

namespace Ledger

theorem step_keeps (invariant : Ledger → Prop) (allowed : World F → Event F → Prop)
    (upkeep : ∀ l l', Roster l → invariant l → Upkeep l l' → invariant l')
    (act : ∀ (w : World F) (event : Event F) (a : Act), Roster w.ledger → invariant w.ledger →
      allowed w event → Causes w event a → w.ledger.Enabled a → invariant (w.ledger.apply a))
    (event : Event F) (roster : Roster w.ledger) (holds : invariant w.ledger)
    (guarded : allowed w event) (stepped : step event w = some w') :
    Roster w'.ledger ∧ invariant w'.ledger := by
  rcases step_simulates event stepped with kept | ⟨a, causes, enabled, applied⟩
  · generalize w'.ledger = last at kept
    induction kept with
    | refl => exact ⟨roster, holds⟩
    | tail _ next ih => exact ⟨ih.1.upkeep next, upkeep _ _ ih.1 ih.2 next⟩
  · rw [applied]
    exact ⟨roster.act a enabled, act w event a roster holds guarded causes enabled⟩

theorem run_keeps (invariant : Ledger → Prop) (allowed : World F → Event F → Prop)
    (upkeep : ∀ l l', Roster l → invariant l → Upkeep l l' → invariant l')
    (act : ∀ (w : World F) (event : Event F) (a : Act), Roster w.ledger → invariant w.ledger →
      allowed w event → Causes w event a → w.ledger.Enabled a → invariant (w.ledger.apply a))
    {start : World F} {past : List (Transition (World F) (Event F))} {last : World F}
    (roster : Roster start.ledger) (holds : invariant start.ledger)
    (run : ServerRun start past last) (guarded : Guarded allowed past) :
    Roster last.ledger ∧ invariant last.ledger := by
  let both : World F → Prop := fun w => Roster w.ledger ∧ invariant w.ledger
  have kept : ∀ w event w', both w → allowed w event → step event w = some w' → both w' :=
    fun _ event _ before guarded stepped =>
      step_keeps invariant allowed upkeep act event before.1 before.2 guarded stepped
  have initial : both start := ⟨roster, holds⟩
  have reached : both last := run.invariant initial kept guarded
  exact reached

end Ledger

end MundusVivens
