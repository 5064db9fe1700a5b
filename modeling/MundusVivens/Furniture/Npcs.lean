import MundusVivens.Furniture.Matching
import MundusVivens.World.Settlers

set_option autoImplicit false

namespace MundusVivens

open Scalar BehaviorTree Runs

variable {F : Type}

def World.isNpc (w : World F) (x : Entity) : Bool := (w.reg.needs x).isSome

theorem World.isNpc_fittings (w : World F) (x : Entity) :
    w.isNpc x = (w.fittings x).crisis.isSome := by
  simp [isNpc, fittings]

variable [Scalar F]

namespace World

variable {w w' : World F} {e x : Entity}

theorem spawnCamp_npc (loc : LocationComp F) (name : String) (type : AffordanceType)
    (npc : (w.spawnCamp loc name type).isNpc x = true) : w.isNpc x = true := by
  rw [isNpc_fittings, fittings_spawnCamp] at npc
  rw [isNpc_fittings]
  by_cases same : x = w.reg.nextEntity
  next => subst same; simp at npc
  next => simpa [same] using npc

omit [Scalar F] in
theorem occupyFurniture_npc (needs : NeedsComp F) (loc : LocationComp F) (toil : ToilComp)
    (f : Entity) (actor : w.isNpc e = true)
    (occupied : w.occupyFurniture e needs loc toil f = some w') (npc : w'.isNpc x = true) :
    w.isNpc x = true := by
  obtain ⟨aff, place, -, -, rfl⟩ := occupyFurniture_eq occupied
  by_cases same : x = e
  next => subst same; exact actor
  next => simpa [isNpc, settle, setActivity, setToil, setLocation, setNeeds, setOccupiedBy, same] using npc

omit [Scalar F] in
theorem leaveFurniture_npc (needs : NeedsComp F) (left : w.Leaves needs w')
    (npc : w'.isNpc x = true) : w.isNpc x = true := by
  cases left with
  | floor => exact npc
  | seat => exact npc
  | camp f =>
      by_cases same : x = f
      next => subst same; simp [isNpc, Registry.destroy] at npc
      next => simpa [isNpc, Registry.destroy, setOccupiedBy, same] using npc

omit [Scalar F] in
theorem setNeeds_npc (needs : NeedsComp F) (actor : w.isNpc e = true)
    (npc : (w.setNeeds e needs).isNpc x = true) : w.isNpc x = true := by
  by_cases same : x = e
  next => subst same; exact actor
  next => simpa [isNpc, setNeeds, same] using npc

theorem interactFurniture_npc (draw : BehaviorDraw) (status : NodeStatus) (matched : w.Matched)
    (ran : w.actionInteractFurniture e draw = some (status, w')) (npc : w'.isNpc x = true) :
    w.isNpc x = true := by
  obtain ⟨needs, loc, toil, job, identity, attends, acted⟩ := interactFurniture_cases ran
  have actor : w.isNpc e = true := by simp [isNpc, attends.needy]
  cases acted with
  | settles seeks settled =>
      cases settled with
      | seat f found taken => exact occupyFurniture_npc needs loc toil f actor taken npc
      | camp name type full wild suits taken =>
          have there : (w.spawnCamp loc name type).isNpc e = true := by
            simp [isNpc, spawnCamp_needs matched loc name type needs attends.needy]
          exact spawnCamp_npc loc name type (occupyFurniture_npc needs loc toil _ there taken npc)
      | floor => exact npc
  | recharges => exact setNeeds_npc _ actor npc
  | resolves amount left rests recovers full leaves =>
      by_cases same : x = e
      next => subst same; exact actor
      next =>
        have there : left.isNpc x = true := by
          simpa [isNpc, setNeeds, issue, setJob, setToil, setActivity, same] using npc
        exact leaveFurniture_npc _ leaves there

omit [Scalar F] in
theorem npc_within {s : Scope} (within : Within s e x w w') (carefree : s.covers .needs = false)
    (npc : w'.isNpc x = true) : w.isNpc x = true := by
  have same : w'.reg.needs x = w.reg.needs x := within.same .needs carefree
  simpa [isNpc, same] using npc

theorem runLeaf_npc (draw : BehaviorDraw) (leaf : SurvivalLeaf) (status : NodeStatus)
    (w w' : World F) (matched : w.Matched) (ran : runLeaf e draw leaf w = some (status, w'))
    (npc : w'.isNpc x = true) : w.isNpc x = true := by
  have apart (searches : leaf ≠ .findFurniture) (interacts : leaf ≠ .interactFurniture) :
      Within leaf.scope e x w w' :=
    runLeaf_apart_within e x draw leaf status w w' searches interacts ran
  have flagged (within : Within crisisScope e x w w')
      (flags : w' = w ∨ ∃ needs flagged, w.reg.needs e = some needs ∧
        needs.isResolvingSurvival = false ∧ w'.reg.needs e = some flagged ∧
        flagged.occupiedFurniture = needs.occupiedFurniture) : w.isNpc x = true := by
    rcases flags with rfl | ⟨needs, -, needy, -⟩
    · exact npc
    · by_cases same : x = e
      next => subst same; simp [isNpc, needy]
      next => exact npc_within (within.others same) rfl npc
  cases leaf with
  | findFurniture =>
      obtain ⟨-, needs, job, loc, toil, -, -, -, -, searches⟩ := findFurniture_cases ran
      cases searches with
      | keeps => exact npc
      | aims => exact npc
      | camps name type => exact spawnCamp_npc loc name type npc
      | stays => exact npc
  | interactFurniture => exact interactFurniture_npc draw status matched ran npc
  | isHungry | isFatigued =>
      exact flagged (apart (by simp) (by simp)) (conditionInCrisis_flags _ w' status ran)
  | isScheduledEat | isScheduledSleep =>
      exact flagged (apart (by simp) (by simp)) (conditionIsScheduled_flags _ w' status ran)
  | _ => exact npc_within (apart (by simp) (by simp)) rfl npc

end World

omit [Scalar F] in
theorem World.Matched.npc {w : World F} (matched : w.Matched) {n : Entity}
    (npc : w.isNpc n = true) : w.Resident n := by
  obtain ⟨needs, needy⟩ := Option.isSome_iff_exists.mp npc
  exact matched.resident needy

theorem step_calls (event : Event F) (w w' : World F) (method : Method) (matched : w.Matched)
    (free : event.scope.covers (.calls method) = false) (stepped : step event w = some w') :
    w'.grpc.callsTo method = w.grpc.callsTo method := by
  by_cases remakes : event.remakes = false
  next => exact (step_within event w w' 0 remakes stepped).same (.calls method) free
  have unasked (calls : w'.grpc = w.grpc) : w'.grpc.callsTo method = w.grpc.callsTo method := by
    rw [calls]
  cases event with
  | cleanupPlayer player =>
      obtain rfl := Option.some.inj stepped
      unfold World.cleanupPlayer
      repeat' split
      next => rfl
      next => rfl
      next tag _ _ =>
        have other : player + 1 ≠ player := Nat.succ_ne_self player
        exact (w.removePlayer_within 0 (player + 1) player tag other).same (.calls method) free
  | command cmd =>
      cases cmd with
      | login sessionIndex playerId playerName =>
          obtain ⟨player, -, -, outside⟩ :=
            w.login_outside w' 0 sessionIndex playerId playerName stepped
          have other : player + 1 ≠ player := Nat.succ_ne_self player
          exact (outside (player + 1) other).same (.calls method) free
      | _ => exact absurd rfl remakes
  | behaviorTree e draw =>
      by_cases planted : w.reg.behaviorTree e = some ()
      next =>
        exact (w.behaviorTree_within w' e e draw (matched.planted planted) stepped).same
          (.calls method) free
      next =>
        have bare := World.isNone_tree planted
        obtain rfl : w = w' := by simpa [step, World.behaviorTree, bare] using stepped
        rfl
  | checkOccupant furniture =>
      obtain rfl := Option.some.inj stepped
      refine unasked ?_
      unfold World.checkOccupant
      repeat' split
      all_goals rfl
  | resolveAffordance e =>
      cases owned : w.reg.needs e with
      | none =>
          refine unasked ?_
          obtain rfl : w = w' := by simpa [step, World.resolveAffordance, owned] using stepped
          rfl
      | some needs =>
          exact (w.resolveAffordance_within w' e e (matched.resident owned) stepped).same
            (.calls method) free
  | _ => exact absurd rfl remakes

namespace World

variable {w w' : World F} {x : Entity}

omit [Scalar F] in
theorem cleanupPlayer_npc (player : Entity) (npc : (w.cleanupPlayer player).isNpc x = true) :
    w.isNpc x = true := by
  unfold cleanupPlayer at npc
  split at npc
  next => exact npc
  next tag _ =>
    split at npc
    next => exact npc
    next =>
      by_cases same : x = player
      next => subst same; simp [isNpc, removePlayer, Registry.destroy] at npc
      next => exact npc_within (w.removePlayer_within player x player tag same) rfl npc

theorem loginNew_npc (sessionIndex : UInt32) (playerId playerName : String)
    (created : w.loginNew sessionIndex playerId playerName = some w')
    (npc : w'.isNpc x = true) : w.isNpc x = true := by
  by_cases same : x = w.reg.nextEntity
  next =>
    simp only [loginNew, Option.bind_eq_bind, Option.bind_eq_some_iff] at created
    obtain ⟨tagged, checked, stored⟩ := created
    obtain rfl := Option.some.inj stored
    rw [Registry.setPlayerTag, dif_pos (by simp [Registry.create])] at checked
    obtain rfl := Option.some.inj checked
    simp [isNpc, setLastSynced, setLocation, setIdentity, Registry.create, Registry.destroy,
      same] at npc
  next =>
    exact npc_within (w.loginNew_within w' 0 x sessionIndex playerId playerName same created) rfl npc

theorem login_npc (sessionIndex : UInt32) (playerId playerName : String)
    (logged : w.login sessionIndex playerId playerName = some w') (npc : w'.isNpc x = true) :
    w.isNpc x = true := by
  simp only [login, Option.bind_eq_bind, Option.bind_eq_some_iff] at logged
  obtain ⟨⟨player, bound⟩, binds, loc, -, stored⟩ := logged
  obtain rfl := Option.some.inj stored
  rw [isNpc_fittings, fittings_updateEntityPosition, ← isNpc_fittings] at npc
  unfold loginBind at binds
  split at binds
  next =>
    simp only [Option.bind_eq_bind, Option.bind_eq_some_iff] at binds
    obtain ⟨made, created, stored⟩ := binds
    obtain ⟨rfl, rfl⟩ := Prod.mk.inj (Option.some.inj stored)
    exact loginNew_npc sessionIndex playerId playerName created npc
  next =>
    simp only [Option.bind_eq_bind, Option.bind_eq_some_iff] at binds
    obtain ⟨made, again, stored⟩ := binds
    obtain ⟨rfl, rfl⟩ := Prod.mk.inj (Option.some.inj stored)
    simp only [loginAgain, Option.bind_eq_bind, Option.bind_eq_some_iff] at again
    obtain ⟨old, -, stored⟩ := again
    obtain rfl := Option.some.inj stored
    exact npc

end World

theorem step_npc (event : Event F) (w w' : World F) (x : Entity) (matched : w.Matched)
    (stepped : step event w = some w') (npc : w'.isNpc x = true) : w.isNpc x = true := by
  have apart (remakes : event.remakes = false) (carefree : event.scope.covers .needs = false) :
      w.isNpc x = true :=
    World.npc_within (step_within event w w' x remakes stepped) carefree npc
  have crises (same : (w'.reg.needs x).map NeedsComp.crisis =
      (w.reg.needs x).map NeedsComp.crisis) : w.isNpc x = true := by
    have here := congrArg Option.isSome same
    simpa [World.isNpc] using here.symm.trans (by simpa [World.isNpc] using npc)
  cases event with
  | cleanupPlayer player => exact World.cleanupPlayer_npc player (Option.some.inj stepped ▸ npc)
  | command cmd =>
      cases cmd with
      | login sessionIndex playerId playerName =>
          exact World.login_npc sessionIndex playerId playerName stepped npc
      | _ => exact apart rfl rfl
  | jobDriver e => exact crises (World.jobDriver_crisis w' x stepped)
  | survivalOverride e =>
      obtain rfl := Option.some.inj stepped
      exact crises (World.survivalOverride_crisis x)
  | behaviorTree e draw =>
      have both := World.behaviorTree_kept e draw
        (fun m => m.Matched ∧ (m.isNpc x = true → w.isNpc x = true)) (fun _ _ => True)
        (fun m kept planted => kept.1.planted planted)
        (fun leaf m status m' kept starts _ ran =>
          ⟨World.runLeaf_matched draw leaf status m m' kept.1 starts ran,
            fun there => kept.2 (World.runLeaf_npc draw leaf status m m' kept.1 ran there)⟩)
        w w' ⟨matched, id⟩ stepped fun _ _ => trivial
      exact both.2 npc
  | checkOccupant f =>
      obtain rfl := Option.some.inj stepped
      rwa [World.checkOccupant_idle matched f] at npc
  | resolveAffordance e => rwa [World.resolveAffordance_idle matched w' stepped] at npc
  | _ => exact apart rfl rfl

omit [Scalar F] in
theorem Within.npc_before {e n : Entity} {w w' : World F} (within : Within settlingScope e n w w')
    (npc : w'.isNpc n = true) : w.isNpc n = true := by
  have needs : w'.reg.needs n = w.reg.needs n := within.same .needs rfl
  simpa [World.isNpc, needs] using npc

-- What holds of each agent as it is made, and is kept while others are made, holds of every NPC
-- after bootstrap.
theorem bootstrap_npcs (property : World F → Entity → Prop) (data : WorldBootstrapData F)
    (settings : SimulationSettings F) (obstacles : Option (List Obstacle))
    (draws : Nat → NeedsDraw F) (w : World F)
    (booted : bootstrap data settings obstacles draws = some w)
    (kept : ∀ e n w w', Within settlingScope e n w w' → property w n → property w' n)
    (born : ∀ agent ∈ data.agents, ∀ i w n, Settles w n agent (draws i) → property w n)
    (n : Entity) (npc : w.isNpc n = true) : property w n := by
  refine bootstrap_by_agents (fun w => ∀ n, w.isNpc n = true → property w n) data settings obstacles
    draws w booted ?_ ?_ ?_ n npc
  · intro n npc
    simp [World.isNpc, emptyWorld, Registry.empty] at npc
  · intro w furn holds n npc
    by_cases same : n = w.reg.nextEntity
    next =>
      subst same
      simp [World.isNpc, placeFurniture_needs] at npc
    next =>
      have within := placeFurniture_within w furn n n same
      exact kept n n _ _ within (holds n (within.npc_before npc))
  · intro agent listed i state holds n npc
    by_cases player : agent.agentId = 1
    next =>
      rw [spawnAgent_player state agent (draws i) player] at npc ⊢
      exact holds n npc
    by_cases same : n = state.1.reg.nextEntity
    next =>
      subst same
      exact born agent listed i _ _ (spawnAgent_settles state agent (draws i) player)
    next =>
      have within := spawnAgent_within state agent (draws i) n n same
      exact kept n n _ _ within (holds n (within.npc_before npc))

end MundusVivens
