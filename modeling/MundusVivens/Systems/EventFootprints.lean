import MundusVivens.Systems.HandlerFootprints

set_option autoImplicit false

namespace MundusVivens

open Scalar Runs LocationRegistry

variable {F : Type} [Scalar F]

namespace World

variable (w w' : World F) (e x : Entity)

omit [Scalar F] in
theorem respond_within (s : Scope) (ticket : Nat) (reply : Reply F)
    (allowed : ∀ call ∈ w.grpc.calls ticket, .calls call.request.method ∈ s.all)
    (ticketed : .tickets ∈ s.all) : Within s e x w (w.respond ticket reply) := by
  unfold respond GrpcClient.respond
  split
  next request accepted outstanding =>
    have here := allowed _ outstanding
    have before : ∀ call ∈ w.grpc.calls ticket, call.request.method = request.method := by
      intro call member
      rw [outstanding] at member
      obtain rfl := Option.some.inj member
      rfl
    split
    next fits =>
      split
      next =>
        refine w.within_calls e x s _ ticket request.method (fun other elsewhere => ?_) before ?_ here
          ticketed
        · simp [GrpcClient.answer, elsewhere]
        · simp [GrpcClient.answer, -Request.method]
      next =>
        refine w.within_calls e x s _ ticket request.method (fun other elsewhere => ?_) before ?_ here
          ticketed
        · simp [GrpcClient.remove, elsewhere]
        · simp [GrpcClient.remove]
    next => exact .refl s e x w
  next => exact .refl s e x w

omit [Scalar F] in
theorem abort_within (s : Scope) (ticket : Nat)
    (allowed : ∀ call ∈ w.grpc.calls ticket, .calls call.request.method ∈ s.all)
    (ticketed : .tickets ∈ s.all) : Within s e x w (w.abort ticket) := by
  unfold abort GrpcClient.abort
  split
  next request accepted outstanding =>
    split
    next reply _ => exact w.respond_within e x s ticket reply allowed ticketed
    next =>
      refine w.within_calls e x s _ ticket request.method (fun other elsewhere => ?_) ?_ ?_
        (allowed _ outstanding) ticketed
      · simp [GrpcClient.remove, elsewhere]
      · intro call member
        rw [outstanding] at member
        obtain rfl := Option.some.inj member
        rfl
      · simp [GrpcClient.remove]
  next => exact .refl s e x w

omit [Scalar F] in
theorem requestTick_within (physicalTick : Nat) (requested : w.requestTick physicalTick = some w') :
    Within ⟨[], [.clock, .tickets, .calls .processWorldTick]⟩ e x w w' := by
  unfold requestTick at requested
  split at requested
  next => cases requested
  next =>
    split at requested
    next =>
      obtain rfl := Option.some.inj requested
      rw [within_issue _ rfl (by simp)]
      refine (Within.after_global .clock (by simp) fun q other => ?_).mpr (.refl _ e x w)
      cases q <;> first | exact absurd rfl other | exact rfl
    next => exact .of_eq (Option.some.inj requested).symm

omit [Scalar F] in
theorem abandonDialogue_within (player : Entity) :
    Within ⟨[], [.activity, .busy, .tickets, .calls .endDisconnected]⟩ e x w
      (w.abandonDialogue player) := by
  unfold abandonDialogue
  split
  next => exact .refl _ e x w
  next dialogue _ =>
    cases dialogue.npcEntity with
    | none => simp
    | some npc =>
        simp only [Option.elim_some, freeNpc]
        split <;> simp

-- What the commands and the end of a player may change about the others.
def playerScope : Scope :=
  ⟨[], [.activity, .busy, .index, .handles, .grid, .tickets, .calls .startPlayerDialogue,
    .calls .sendPlayerMessage, .calls .endPlayerDialogue, .calls .endDisconnected,
    .calls .getAgentStatus]⟩

omit [Scalar F] in
theorem within_index (s : Scope) (index : EntityIndex) (allowed : .index ∈ s.all) :
    Within s e x w { w with index := index } := by
  refine (Within.after_global .index allowed fun q other => ?_).mpr (.refl s e x w)
  cases q <;> first | exact absurd rfl other | exact rfl

omit [Scalar F] in
theorem within_removal (m : World F) (player : Entity) (grid : LocationRegistry F)
    (index : EntityIndex) (other : x ≠ player) (known : Within playerScope e x w m) :
    Within playerScope e x w { m with reg := m.reg.destroy player, grid := grid, index := index } := by
  have removed : Within playerScope e x m { m with grid := grid, reg := m.reg.destroy player } :=
    within_remove grid other (by simp [playerScope])
  exact (known.trans removed).trans (within_index _ e x playerScope index (by simp [playerScope]))

omit [Scalar F] in
theorem removePlayer_within (player : Entity) (tag : PlayerTag) (other : x ≠ player) :
    Within playerScope e x w (w.removePlayer player tag) := by
  have abandoned : Within playerScope e x w (w.abandonDialogue player) :=
    (w.abandonDialogue_within e x player).mono (by decide)
  exact w.within_removal e x _ player _ _ other abandoned

omit [Scalar F] in
theorem cleanupPlayer_within (player : Entity) (resident : w.Resident x) :
    Within playerScope e x w (w.cleanupPlayer player) := by
  unfold cleanupPlayer
  split
  next => exact .refl _ e x w
  next tag tagged =>
    have other : x ≠ player := by
      rintro rfl
      simp [resident.unplayed] at tagged
    split
    next => exact .refl _ e x w
    next => exact w.removePlayer_within e x player tag other

omit [Scalar F] in
theorem loginAgain_other (sessionIndex : UInt32) (player : Entity) (resident : w.Resident x)
    (bound : w.loginAgain sessionIndex player = some w') : x ≠ player := by
  simp only [loginAgain, Option.bind_eq_bind, Option.bind_eq_some_iff] at bound
  obtain ⟨old, tagged, -⟩ := bound
  rintro rfl
  simp [resident.unplayed] at tagged

omit [Scalar F] in
theorem loginAgain_within (sessionIndex : UInt32) (player : Entity) (other : x ≠ player)
    (bound : w.loginAgain sessionIndex player = some w') : Within playerScope e x w w' := by
  simp only [loginAgain, Option.bind_eq_bind, Option.bind_eq_some_iff] at bound
  obtain ⟨old, tagged, stored⟩ := bound
  obtain rfl := Option.some.inj stored
  have retagged : Within playerScope e x w
      { w with reg := w.reg.modifyPlayerTag player ⟨sessionIndex⟩ } := by
    intro p _ _
    cases p
    case playerTag => simp [Part.Same, Registry.modifyPlayerTag, other]
    all_goals exact rfl
  exact retagged.trans (within_index _ e x playerScope _ (by simp [playerScope]))

theorem loginNew_within (sessionIndex : UInt32) (playerId playerName : String)
    (other : x ≠ w.reg.nextEntity) (bound : w.loginNew sessionIndex playerId playerName = some w') :
    Within playerScope e x w w' := by
  simp only [loginNew, Option.bind_eq_bind, Option.bind_eq_some_iff] at bound
  obtain ⟨tagged, checked, stored⟩ := bound
  obtain rfl := Option.some.inj stored
  have created : Within playerScope e x w { w with reg := w.reg.create } :=
    within_create other (by simp [playerScope])
  have labelled : Within playerScope e x { w with reg := w.reg.create } { w with reg := tagged } := by
    rw [Registry.setPlayerTag, dif_pos (by simp [Registry.create])] at checked
    obtain rfl := Option.some.inj checked
    intro p _ _
    cases p
    case playerTag => simp [Part.Same, other]
    all_goals exact rfl
  refine Within.trans ?_ (within_index _ e x playerScope _ (by simp [playerScope]))
  simpa [playerScope, other] using created.trans labelled

theorem loginBind_within (sessionIndex : UInt32) (playerId playerName : String) (player : Entity)
    (other : x ≠ player) (binds : w.loginBind sessionIndex playerId playerName = some (player, w')) :
    Within playerScope e x w w' := by
  unfold loginBind at binds
  split at binds
  next =>
    simp only [Option.bind_eq_bind, Option.bind_eq_some_iff] at binds
    obtain ⟨made, created, stored⟩ := binds
    obtain ⟨rfl, rfl⟩ := Prod.mk.inj (Option.some.inj stored)
    exact w.loginNew_within _ e x sessionIndex playerId playerName other created
  next =>
    simp only [Option.bind_eq_bind, Option.bind_eq_some_iff] at binds
    obtain ⟨made, again, stored⟩ := binds
    obtain ⟨rfl, rfl⟩ := Prod.mk.inj (Option.some.inj stored)
    exact w.loginAgain_within _ e x sessionIndex _ other again

theorem loginBind_other (sessionIndex : UInt32) (playerId playerName : String) (player : Entity)
    (resident : w.Resident x)
    (binds : w.loginBind sessionIndex playerId playerName = some (player, w')) : x ≠ player := by
  unfold loginBind at binds
  split at binds
  next =>
    simp only [Option.bind_eq_bind, Option.bind_eq_some_iff] at binds
    obtain ⟨made, created, stored⟩ := binds
    obtain ⟨rfl, rfl⟩ := Prod.mk.inj (Option.some.inj stored)
    exact w.reg.ne_nextEntity resident.valid
  next =>
    simp only [Option.bind_eq_bind, Option.bind_eq_some_iff] at binds
    obtain ⟨made, again, stored⟩ := binds
    obtain ⟨rfl, rfl⟩ := Prod.mk.inj (Option.some.inj stored)
    exact w.loginAgain_other _ x sessionIndex _ resident again

theorem login_outside (sessionIndex : UInt32) (playerId playerName : String)
    (logged : w.login sessionIndex playerId playerName = some w') :
    ∃ player bound, w.loginBind sessionIndex playerId playerName = some (player, bound) ∧
      ∀ x, x ≠ player → Within playerScope e x w w' := by
  simp only [login, Option.bind_eq_bind, Option.bind_eq_some_iff] at logged
  obtain ⟨⟨player, bound⟩, binds, loc, -, stored⟩ := logged
  obtain rfl := Option.some.inj stored
  refine ⟨player, bound, binds, fun x other => ?_⟩
  have known := w.loginBind_within bound e x sessionIndex playerId playerName player other binds
  exact (within_updateEntityPosition _ _ (.inl other) (by simp [playerScope])).mpr known

theorem login_within (sessionIndex : UInt32) (playerId playerName : String)
    (resident : w.Resident x) (logged : w.login sessionIndex playerId playerName = some w') :
    Within playerScope e x w w' := by
  obtain ⟨player, bound, binds, outside⟩ :=
    w.login_outside w' e sessionIndex playerId playerName logged
  exact outside x (w.loginBind_other bound x sessionIndex playerId playerName player resident binds)

theorem movePlayer_within (sessionIndex : UInt32) (x' y z : F)
    (moved : w.movePlayer sessionIndex x' y z = some w') :
    Within ⟨[.location], [.grid]⟩ ((w.index.bySessionIndex sessionIndex).getD 0) x w w' := by
  unfold movePlayer at moved
  split at moved
  next => exact .of_eq (Option.some.inj moved).symm
  next player held =>
    simp only [Option.bind_eq_bind, Option.bind_eq_some_iff] at moved
    obtain ⟨loc, -, identity, -, stored⟩ := moved
    obtain rfl := Option.some.inj stored
    rw [within_updateEntityPosition _ _ (.inr (.inl ⟨by simp [held], by simp⟩)) (by simp)]
    simp [held]

theorem talkToNpc_within (sessionIndex npcId : UInt32)
    (talked : w.talkToNpc sessionIndex npcId = some w') : Within playerScope e x w w' := by
  cases talkToNpc_cases talked with
  | ignored => exact .refl _ e x w
  | begins _ player npc _ _ _ _ _ started =>
      obtain ⟨identity, first, both, -, npcTagged, tagged, rfl⟩ := startTalk_cases started
      have busy : Within playerScope e x w both := by
        rw [within_setBusy _ tagged (by simp [playerScope]),
          within_setBusy _ npcTagged (by simp [playerScope])]
        simp [playerScope]
      exact (within_issue _ rfl (by decide)).mpr busy

end World

def anyCalls : List Part :=
  [.tickets, .calls .processWorldTick, .calls .getPendingJobs, .calls .reportJobStatus,
    .calls .triggerDialogue, .calls .startPlayerDialogue, .calls .sendPlayerMessage,
    .calls .endPlayerDialogue, .calls .endDisconnected, .calls .getAgentStatus,
    .calls .injectBelief, .calls .threatDetected, .calls .reportCombatEvent,
    .calls .batchUpdateStatus]

theorem mem_anyCalls (method : Method) : .calls method ∈ anyCalls := by
  cases method <;> decide

def drainScope : Scope :=
  ⟨[], [.clock, .job, .toil, .busy, .emotion, .emotions, .cooldown, .activity, .playerDialogue,
    .aggro, .combat, .lastSynced] ++ anyCalls⟩

def Event.actor : Event F → Entity
  | .jobDriver e | .recoverEnergy e | .busyAmbient e | .perception e | .behaviorTree e _
  | .death e | .survivalOverride e | .pathfinding e _ _ | .movement e | .checkOccupant e
  | .resolveAffordance e => e
  | _ => 0

def Event.scope : Event F → Scope
  | .connect | .disconnect _ => ⟨[], [.tcp]⟩
  | .respond .. | .abort _ => ⟨[], anyCalls⟩
  | .drainTask _ => drainScope
  | .cleanupPlayer _ => World.playerScope
  | .command (.move ..) => ⟨[], [.location, .grid]⟩
  | .command _ => World.playerScope
  | .syncTick => ⟨[], [.clock, .relationships]⟩
  | .emotionDecay _ => World.emotionScope
  | .dailyReset => ⟨[], [.clock, .cooldown]⟩
  | .requestJobs => ⟨[], [.tickets, .calls .getPendingJobs]⟩
  | .jobDriver _ => World.jobDriverScope
  | .recoverEnergy _ => ⟨[.cooldown], []⟩
  | .socialInteraction .. => World.socialScope
  | .networkSync _ => ⟨[], [.tickets, .calls .batchUpdateStatus]⟩
  | .busyAmbient _ => ⟨[.velocity, .busy, .activity, .toil], []⟩
  | .perception _ => ⟨[.aggro], []⟩
  | .behaviorTree .. => treeScope
  | .death _ => World.deathScope
  | .survivalOverride _ => ⟨[.needs], []⟩
  | .pathfinding .. => World.pathfindingScope
  | .movement _ => World.movementScope
  | .checkOccupant _ => ⟨[], []⟩
  | .resolveAffordance _ => World.furnitureScope
  | .requestTick _ => ⟨[], [.clock, .tickets, .calls .processWorldTick]⟩

-- The event may make, free or remove furniture or players.
def Event.remakes : Event F → Bool
  | .cleanupPlayer _ | .command (.login ..) | .behaviorTree .. | .checkOccupant _
  | .resolveAffordance _ => true
  | _ => false

omit [Scalar F] in
theorem Method.taskScope_within (method : Method) (actor e x : Entity) (w w' : World F)
    (within : Within method.taskScope actor x w w') : Within drainScope e x w w' := by
  have smaller : (method.taskScope.own ++ method.taskScope.all).all (· ∈ drainScope.all) = true := by
    cases method <;> decide
  simp only [List.all_append, Bool.and_eq_true, List.all_eq_true, decide_eq_true_eq] at smaller
  exact fun p foreign _ => within p (fun member => foreign (smaller.2 p member))
    fun _ member => foreign (smaller.1 p member)

theorem drainTask_within (w w' : World F) (e x : Entity) (draws : Nat → RadiusDraw F)
    (drained : w.drainTask draws = some w') : Within drainScope e x w w' := by
  rcases w.drainTask_cases w' draws drained with
    rfl | ⟨ticket, request, reply, rest, popped, ran⟩
  · exact .refl _ e x _
  · have taken : Within drainScope e x w _ :=
      (w.pop_within e x ticket request reply rest popped).mono (by
        simp only [Scope.within, List.all_nil, List.all_cons, Bool.and_true, Bool.true_and,
          Bool.and_eq_true, decide_eq_true_eq]
        exact ⟨by decide, List.mem_append_right _ (mem_anyCalls _)⟩)
    have task := World.runTask_within _ w' x request reply draws ran
    exact taken.trans (request.method.taskScope_within _ e x _ w' task)

theorem step_within (event : Event F) (w w' : World F) (x : Entity)
    (apart : event.remakes = false) (stepped : step event w = some w') :
    Within event.scope event.actor x w w' := by
  cases event with
  | cleanupPlayer | behaviorTree | checkOccupant | resolveAffordance => cases apart
  | connect | disconnect =>
      obtain rfl := Option.some.inj stepped
      refine (Within.after_global .tcp (by simp [Event.scope]) fun q other => ?_).mpr (.refl _ _ x w)
      cases q <;> first | exact absurd rfl other | exact rfl
  | respond ticket reply =>
      obtain rfl := Option.some.inj stepped
      exact w.respond_within _ x _ ticket reply (fun call _ => mem_anyCalls _)
        (by simp [Event.scope, anyCalls])
  | abort ticket =>
      obtain rfl := Option.some.inj stepped
      exact w.abort_within _ x _ ticket (fun call _ => mem_anyCalls _)
        (by simp [Event.scope, anyCalls])
  | drainTask draws => exact drainTask_within w w' _ x draws stepped
  | command cmd =>
      cases cmd with
      | login => cases apart
      | move sessionIndex x' y z =>
          have moved := w.movePlayer_within w' x sessionIndex x' y z stepped
          exact fun p foreign _ => moved p (fun member => foreign (by simp_all [Event.scope]))
            fun _ member => foreign (by simp_all [Event.scope])
      | talkToNpc sessionIndex npcId => exact w.talkToNpc_within w' _ x sessionIndex npcId stepped
      | playerMessage | getAgentStatus | endDialogue =>
          obtain rfl := Option.some.inj stepped
          exact (within_issue _ rfl (by simp [Event.scope, World.playerScope])).mpr (.refl _ _ x w)
      | malformed => exact .of_eq (Option.some.inj stepped).symm
  | syncTick =>
      obtain rfl := Option.some.inj stepped
      exact w.syncTick_within _ x
  | emotionDecay draw =>
      obtain rfl := Option.some.inj stepped
      exact w.emotionDecay_within _ x draw
  | dailyReset =>
      obtain rfl := Option.some.inj stepped
      exact w.dailyReset_within _ x
  | requestJobs =>
      obtain rfl := Option.some.inj stepped
      exact (within_issue _ rfl (by simp [Event.scope])).mpr (.refl _ _ x w)
  | jobDriver e => exact w.jobDriver_within w' e x stepped
  | recoverEnergy e =>
      obtain rfl := Option.some.inj stepped
      exact w.recoverEnergy_within e x
  | socialInteraction processed draw initiator =>
      obtain ⟨⟨talked, grown⟩, visited, rfl⟩ := Option.map_eq_some_iff.mp stepped
      exact w.socialInteraction_within talked _ x processed grown draw initiator visited
  | networkSync rank =>
      obtain rfl := Option.some.inj stepped
      exact w.networkSync_within _ x rank
  | busyAmbient e =>
      obtain rfl := Option.some.inj stepped
      exact w.busyAmbient_within e x _
  | perception e =>
      obtain rfl := Option.some.inj stepped
      exact w.perception_within e x
  | death e =>
      obtain rfl := Option.some.inj stepped
      exact w.systemDeath_within e x
  | survivalOverride e =>
      obtain rfl := Option.some.inj stepped
      exact w.survivalOverride_within e x
  | pathfinding e searches choice =>
      obtain ⟨⟨searched, spent⟩, visited, rfl⟩ := Option.map_eq_some_iff.mp stepped
      exact w.pathfinding_within searched e x searches spent choice visited
  | movement e => exact w.movement_within w' e x stepped
  | requestTick physicalTick => exact w.requestTick_within w' _ x physicalTick stepped

theorem resident_step_within (event : Event F) (w w' : World F) (x : Entity)
    (resident : w.Resident x) (stepped : step event w = some w') :
    Within event.scope event.actor x w w' := by
  by_cases remakes : event.remakes = false
  next => exact step_within event w w' x remakes stepped
  next =>
    cases event with
    | cleanupPlayer player =>
        obtain rfl := Option.some.inj stepped
        exact w.cleanupPlayer_within _ x player resident
    | command cmd =>
        cases cmd with
        | login sessionIndex playerId playerName =>
            exact w.login_within w' _ x sessionIndex playerId playerName resident stepped
        | _ => exact absurd rfl remakes
    | behaviorTree e draw => exact w.behaviorTree_within w' e x draw resident stepped
    | checkOccupant furniture =>
        obtain rfl := Option.some.inj stepped
        exact w.checkOccupant_within furniture x resident
    | resolveAffordance e => exact w.resolveAffordance_within w' e x resident stepped
    | _ => exact absurd rfl remakes

theorem step_resident (event : Event F) (w w' : World F) (x : Entity) (resident : w.Resident x)
    (stepped : step event w = some w') : w'.Resident x := by
  have spares : event.scope.sparesResidents = true := by
    cases event with
    | command cmd => cases cmd <;> rfl
    | _ => rfl
  exact (resident_step_within event w w' x resident stepped).resident spares resident

end MundusVivens
