import MundusVivens.Systems.EventFootprints
import MundusVivens.World.Settlers

set_option autoImplicit false

/-!
# What the tick handshake alone may change

The settings, the agent ids and the walls never change. But for the events of the
tick handshake, nothing moves the clock or touches a call: requests are only added.
-/

namespace MundusVivens

open Scalar LocationRegistry BehaviorTree Runs

variable {F : Type}

def Request.isTick : Request F → Bool
  | .processWorldTick _ => true
  | _ => false

structure Constant (w w' : World F) : Prop where
  settings : w'.settings = w.settings
  mapper : w'.mapper = w.mapper
  walls : w'.map.grid = w.map.grid
  places : w'.map.locationCoords = w.map.locationCoords

def Scope.sparesConstants (s : Scope) : Bool :=
  [Part.settings, .mapper, .walls].all fun p => !s.covers p

-- The scope holds neither the clock nor the calls.
def Scope.isQuiet (s : Scope) : Bool :=
  s.sparesConstants && (.clock :: anyCalls).all fun p => !s.covers p

-- What a visit writes of the characters and the furniture.
def characterScope : Scope :=
  ⟨[], [.relationships, .location, .activity, .cooldown, .velocity, .pathfinding, .job, .toil,
    .needs, .affordance, .busy, .health, .combat, .aggro]⟩

structure Quiet (w w' : World F) : Prop where
  constant : Constant w w'
  clock : w'.clock = w.clock
  calls : ∃ requests : List (Request F), (∀ request ∈ requests, request.isTick = false) ∧
    w'.grpc = w.grpc.issueAll requests

namespace Constant

variable {w w' w'' : World F}

theorem refl (w : World F) : Constant w w := ⟨rfl, rfl, rfl, rfl⟩

theorem trans (first : Constant w w') (second : Constant w' w'') : Constant w w'' :=
  ⟨second.settings.trans first.settings, second.mapper.trans first.mapper,
    second.walls.trans first.walls, second.places.trans first.places⟩

theorem of_within {s : Scope} {e x : Entity} (within : Within s e x w w')
    (spares : s.sparesConstants = true) : Constant w w' := by
  simp only [Scope.sparesConstants, List.all_cons, List.all_nil, Bool.and_true, Bool.and_eq_true,
    Bool.not_eq_true'] at spares
  obtain ⟨settings, mapper, walls⟩ := spares
  obtain ⟨grid, places⟩ := Prod.mk.inj (within.same .walls walls)
  exact ⟨within.same .settings settings, within.same .mapper mapper, grid, places⟩

end Constant

namespace Quiet

variable {w w' w'' : World F}

theorem of_same (settings : w'.settings = w.settings) (mapper : w'.mapper = w.mapper)
    (map : w'.map = w.map) (clock : w'.clock = w.clock) (calls : w'.grpc = w.grpc) : Quiet w w' :=
  ⟨⟨settings, mapper, congrArg _ map, congrArg _ map⟩, clock, [], by simp, calls⟩

theorem refl (w : World F) : Quiet w w := .of_same rfl rfl rfl rfl rfl

theorem of_within {s : Scope} {e x : Entity} (within : Within s e x w w')
    (quiet : s.isQuiet = true) : Quiet w w' := by
  simp only [Scope.isQuiet, Bool.and_eq_true, List.all_eq_true, List.forall_mem_cons,
    Bool.not_eq_true'] at quiet
  obtain ⟨constant, clock, calls⟩ := quiet
  refine ⟨.of_within within constant, within.same .clock clock, [], by simp, ?_⟩
  exact GrpcClient.eq_of_callsTo (within.same .tickets (calls _ (by decide))) fun method =>
    within.same (.calls method) (calls _ (mem_anyCalls method))

theorem writes (within : Within characterScope 0 0 w w') : Quiet w w' := .of_within within rfl

theorem issues (requests : List (Request F))
    (other : ∀ request ∈ requests, request.isTick = false) (constant : Constant w w')
    (clock : w'.clock = w.clock) (calls : w'.grpc = w.grpc.issueAll requests) : Quiet w w' :=
  ⟨constant, clock, requests, other, calls⟩

theorem issue (request : Request F) (other : request.isTick = false) :
    Quiet w (w.issue request) :=
  issues [request] (by simpa using other) ⟨rfl, rfl, rfl, rfl⟩ rfl rfl

theorem trans (first : Quiet w w') (second : Quiet w' w'') : Quiet w w'' := by
  obtain ⟨constant, clock, requests, other, calls⟩ := first
  obtain ⟨constant', clock', requests', other', calls'⟩ := second
  refine ⟨constant.trans constant', clock'.trans clock, requests ++ requests', ?_, ?_⟩
  · intro request member
    rcases List.mem_append.mp member with early | late
    · exact other request early
    · exact other' request late
  · rw [calls', calls, GrpcClient.issueAll, GrpcClient.issueAll, GrpcClient.issueAll,
      List.foldl_append]

theorem then_same (first : Quiet w w') (settings : w''.settings = w'.settings)
    (mapper : w''.mapper = w'.mapper) (map : w''.map = w'.map) (clock : w''.clock = w'.clock)
    (calls : w''.grpc = w'.grpc) : Quiet w w'' :=
  first.trans (.of_same settings mapper map clock calls)

theorem then_writes (first : Quiet w w') (within : Within characterScope 0 0 w' w'') :
    Quiet w w'' :=
  first.trans (.writes within)

theorem after_same (second : Quiet w' w'') (settings : w'.settings = w.settings)
    (mapper : w'.mapper = w.mapper) (map : w'.map = w.map) (clock : w'.clock = w.clock)
    (calls : w'.grpc = w.grpc) : Quiet w w'' :=
  (of_same settings mapper map clock calls).trans second

theorem foldl {A : Type} (f : World F → A → World F) (quiet : ∀ w a, Quiet w (f w a))
    (items : List A) (w : World F) : Quiet w (items.foldl f w) := by
  induction items generalizing w with
  | nil => exact .refl w
  | cons item rest ih => exact (quiet w item).trans (ih (f w item))

theorem foldlM {A : Type} (f : World F → A → Option (World F))
    (quiet : ∀ w a w', f w a = some w' → Quiet w w') (items : List A) (w w' : World F)
    (folded : items.foldlM f w = some w') : Quiet w w' :=
  Folds.foldlM_related Quiet (fun w => .refl w) (fun _ _ _ first later => first.trans later) quiet
    items w w' folded

end Quiet

variable [Scalar F]

namespace World

variable (w w' : World F) (e : Entity)

theorem updateEntityPosition_quiet (x z : F) : Quiet w (w.updateEntityPosition e x z) := by
  obtain ⟨grid, location, moved⟩ := w.updateEntityPosition_eq e x z
  rw [moved]
  exact .of_same rfl rfl rfl rfl rfl

omit [Scalar F] in
theorem setBusy_quiet (tag : BusyTag F) (tagged : w.setBusy e tag = some w') : Quiet w w' := by
  obtain ⟨-, _, rfl⟩ := setBusy_cases tagged
  exact .of_same rfl rfl rfl rfl rfl

theorem loginBind_quiet (session : UInt32) (playerId playerName : String)
    (bound : w.loginBind session playerId playerName = some (e, w')) : Quiet w w' := by
  unfold loginBind at bound
  split at bound
  next =>
    simp only [loginNew, Option.bind_eq_bind, Option.bind_eq_some_iff] at bound
    obtain ⟨joined, ⟨tagged, -, made⟩, stored⟩ := bound
    obtain ⟨-, rfl⟩ := Prod.mk.inj (Option.some.inj stored)
    obtain rfl := Option.some.inj made
    exact .of_same rfl rfl rfl rfl rfl
  next =>
    simp only [loginAgain, Option.bind_eq_bind, Option.bind_eq_some_iff] at bound
    obtain ⟨joined, ⟨old, -, made⟩, stored⟩ := bound
    obtain ⟨-, rfl⟩ := Prod.mk.inj (Option.some.inj stored)
    obtain rfl := Option.some.inj made
    exact .of_same rfl rfl rfl rfl rfl

theorem login_quiet (session : UInt32) (playerId playerName : String)
    (logged : w.login session playerId playerName = some w') : Quiet w w' := by
  simp only [login, Option.bind_eq_bind, Option.bind_eq_some_iff] at logged
  obtain ⟨⟨e, bound⟩, found, loc, -, placed⟩ := logged
  obtain rfl := Option.some.inj placed
  exact (w.loginBind_quiet bound e session playerId playerName found).trans
    (bound.updateEntityPosition_quiet e _ _)

theorem talkToNpc_quiet (session npcId : UInt32) (talked : w.talkToNpc session npcId = some w') :
    Quiet w w' := by
  cases talkToNpc_cases talked with
  | ignored => exact .refl w
  | begins _ player npc _ _ _ _ _ started =>
      obtain ⟨identity, one, two, -, first, second, rfl⟩ := startTalk_cases started
      have npcBusy := (setBusy_quiet _ one npc _ first).after_same (w := w) rfl rfl rfl rfl rfl
      exact (npcBusy.trans (setBusy_quiet _ two player _ second)).trans (.issue _ rfl)

omit [Scalar F] in
theorem cleanupPlayer_quiet : Quiet w (w.cleanupPlayer e) := by
  have abandoned : Quiet w (w.abandonDialogue e) := by
    unfold abandonDialogue
    split
    next => exact .refl w
    next dialogue _ =>
      have signalled : Quiet w (w.issue (.endDisconnected dialogue.sessionId)) := .issue _ rfl
      cases dialogue.npcEntity with
      | none => exact signalled
      | some npc =>
          refine signalled.trans ?_
          simp only [Option.elim_some, freeNpc]
          split <;> exact .of_same rfl rfl rfl rfl rfl
  unfold cleanupPlayer
  split
  next => exact .refl w
  next =>
    split
    next => exact .refl w
    next => exact abandoned.then_same rfl rfl rfl rfl rfl

theorem eavesdropping_quiet (group : List Entity) (result : DialogueResult F)
    (heard : w.eavesdropping group result = some w') : Quiet w w' := by
  unfold eavesdropping at heard
  split at heard
  next => exact Option.some.inj heard ▸ .refl w
  next =>
    split at heard
    next => exact Option.some.inj heard ▸ .refl w
    next =>
      simp only [Option.bind_eq_bind, Option.bind_eq_some_iff] at heard
      obtain ⟨source, -, stored⟩ := heard
      obtain rfl := Option.some.inj stored
      refine .issues _ (fun request member => ?_) ⟨rfl, rfl, rfl, rfl⟩ rfl rfl
      obtain ⟨bystander, -, injected⟩ := List.mem_filterMap.mp member
      unfold eavesdrop at injected
      split at injected
      next => cases injected
      next =>
        simp only [Option.bind_eq_bind, Option.bind_eq_some_iff] at injected
        obtain ⟨identity, -, loc, -, content, -, stored⟩ := injected
        obtain rfl := Option.some.inj stored
        rfl

theorem dialogueTask_quiet (group : List Entity) (tick : Int) (success : Bool)
    (result : DialogueResult F) (draws : Nat → RadiusDraw F)
    (ran : w.dialogueTask group tick success result draws = some w') : Quiet w w' := by
  unfold dialogueTask at ran
  split at ran
  next =>
    simp only [finishDialogue, Option.bind_eq_bind, Option.bind_eq_some_iff] at ran
    obtain ⟨identities, -, planned, jobs, heard, told, dismissed⟩ := ran
    have felt := Quiet.foldl applyEmotionUpdate
      (fun w update => .of_within (w.applyEmotionUpdate_within 0 0 update) rfl)
      result.emotionUpdates w
    have installed := felt.trans (.of_within (applyNextJobs_within _ planned 0 0 _ draws jobs) rfl)
    refine (installed.trans (planned.eavesdropping_quiet heard group result told)).trans ?_
    exact .foldlM _ (fun w y w' left => .of_within
      (w.dismissParticipant_within w' 0 0 group tick y left) rfl) group heard w' dismissed
  next =>
    exact .foldlM _ (fun w y w' released => .of_within
      (w.releaseIfValid_within w' 0 0 y released) rfl) group w w' ran

theorem runTask_quiet (draws : Nat → RadiusDraw F) (request : Request F) (reply : Reply F)
    (other : request.isTick = false) (ran : w.runTask draws request reply = some w') :
    Quiet w w' := by
  have task := runTask_within w w' 0 request reply draws ran
  unfold runTask at ran
  split at ran
  next => cases other
  next => exact .of_within task rfl
  next => exact .of_within task rfl
  next => exact w.dialogueTask_quiet w' _ _ _ _ draws ran
  next => exact .of_within task rfl
  next => exact .of_within task rfl
  next => exact .of_within task rfl
  next => exact .of_within task rfl
  next => exact Option.some.inj ran ▸ .refl w

theorem jobDriver_quiet (driven : w.jobDriver e = some w') : Quiet w w' := by
  refine jobDriver_preserves (Quiet w) (fun write before => before.trans ?_) driven (.refl w)
  cases write with
  | wait _ tagged => exact setBusy_quiet _ _ e _ tagged
  | report => exact .issue _ rfl
  | equip | finish | toil | activity | refill => exact .of_same rfl rfl rfl rfl rfl

theorem requestDialogue_quiet (group : Group) (requested : w.requestDialogue group = some w') :
    Quiet w w' := by
  obtain ⟨marked, tagged, rfl⟩ := requestDialogue_cases requested
  refine (Quiet.foldlM markRequesting (fun w y w' marks => ?_) _ w marked tagged).trans
    (.issue _ rfl)
  exact (setBusy_quiet _ w' y _ (markRequesting_cases marks).2).after_same rfl rfl rfl rfl rfl

theorem approach_quiet (initiator : Entity) (cooldown : CooldownComp) (locI : LocationComp F)
    (draw : SocialDraw F) (candidates members : List Entity)
    (approached : w.approach initiator cooldown locI draw candidates = some (w', members)) :
    Quiet w w' := by
  cases approach_cases approached with
  | shy | alone | refused => exact .of_same rfl rfl rfl rfl rfl
  | groups started _ _ _ _ group tries _ _ _ _ sent =>
      subst tries
      exact (requestDialogue_quiet _ w' group sent).after_same rfl rfl rfl rfl rfl

theorem socialInteraction_quiet (processed grown : List Entity) (draw : SocialDraw F)
    (initiator : Entity)
    (talked : w.socialInteraction processed draw initiator = some (w', grown)) : Quiet w w' := by
  have ensured (m : World F) (y : Entity) : Quiet m (m.ensureCooldown y).1 := by
    unfold ensureCooldown
    split <;> exact .of_same rfl rfl rfl rfl rfl
  rcases socialInteraction_cases w w' (Quiet w)
    (fun m y before => before.trans (ensured m y)) processed grown draw initiator
    (.refl w) talked with gathered | ⟨m, locI, candidates, members, gathered, approached⟩
  · exact gathered
  · exact gathered.trans (approach_quiet _ _ _ _ _ _ _ _ approached)

omit [Scalar F] in
theorem networkSync_quiet (rank : Entity → Nat) : Quiet w (w.networkSync rank) := by
  unfold networkSync
  dsimp only
  split
  next => exact .refl w
  next => exact .issue _ rfl

omit [Scalar F] in
theorem checkOccupant_quiet : Quiet w (w.checkOccupant e) := by
  unfold checkOccupant
  repeat' split
  all_goals exact .of_same rfl rfl rfl rfl rfl

omit [Scalar F] in
theorem resolveAffordance_quiet (resolved : w.resolveAffordance e = some w') : Quiet w w' := by
  cases resolveAffordance_cases resolved with
  | keeps => exact .refl w
  | frees needs furniture returned _ _ _ back =>
      have returns : Quiet w returned := by
        cases returnFurniture_cases back <;> exact .of_same rfl rfl rfl rfl rfl
      exact returns.then_same rfl rfl rfl rfl rfl

theorem spawnCamp_quiet (loc : LocationComp F) (name : String) (type : AffordanceType) :
    Quiet w (w.spawnCamp loc name type) := by
  unfold spawnCamp
  dsimp only
  exact (updateEntityPosition_quiet _ _ _ _).after_same rfl rfl rfl rfl rfl

theorem findFurniture_quiet (draw : BehaviorDraw) (status : NodeStatus)
    (ran : w.actionFindFurniture e draw = some (status, w')) : Quiet w w' := by
  obtain ⟨-, needs, job, loc, toil, -, -, -, -, searches⟩ := findFurniture_cases ran
  cases searches with
  | keeps => exact .refl w
  | camps name type =>
      exact (w.spawnCamp_quiet loc name type).then_writes (by simp [aimJob, characterScope])
  | aims | stays => exact .writes (by simp [aimJob, characterScope])

omit [Scalar F] in
theorem settle_quiet (toil : ToilComp) (texts : String × String) :
    Quiet w (w.settle e toil texts) := by
  unfold settle
  exact .writes (by simp [characterScope])

omit [Scalar F] in
theorem occupyFurniture_quiet (needs : NeedsComp F) (loc : LocationComp F) (toil : ToilComp)
    (furniture : Entity) (occupied : w.occupyFurniture e needs loc toil furniture = some w') :
    Quiet w w' := by
  obtain ⟨aff, place, -, -, rfl⟩ := occupyFurniture_eq occupied
  exact Quiet.trans (.writes (by simp [characterScope])) (settle_quiet _ e toil _)

theorem interactFurniture_quiet (draw : BehaviorDraw) (status : NodeStatus)
    (ran : w.actionInteractFurniture e draw = some (status, w')) : Quiet w w' := by
  obtain ⟨needs, loc, toil, job, identity, -, acted⟩ := interactFurniture_cases ran
  cases acted with
  | settles seeks settled =>
      cases settled with
      | seat f found taken => exact w.occupyFurniture_quiet w' e needs loc toil f taken
      | camp name type full wild suits taken =>
          exact (w.spawnCamp_quiet loc name type).trans
            (occupyFurniture_quiet _ w' e needs loc toil _ taken)
      | floor => exact w.settle_quiet e toil _
  | recharges => exact .writes (by simp [characterScope])
  | resolves amount left rests recovers full leaves =>
      have first : Quiet w left := by cases leaves <;> exact .of_same rfl rfl rfl rfl rfl
      have reported := Quiet.issue (w := left.setNeeds e { recharge needs amount with
          isResolvingSurvival := false, currentSurvivalType := .none, occupiedFurniture := none })
        (.reportJobStatus identity.npcId job.jobId 0 .unknownReason "survival_resolved"
          w.clock.tick .ignore) rfl
      exact ((first.then_writes (by simp [characterScope])).trans reported).then_writes
        (by simp [characterScope])

theorem inCrisis_quiet (crisis : Crisis F) (status : NodeStatus)
    (ran : w.conditionInCrisis crisis e = some (status, w')) : Quiet w w' := by
  obtain ⟨needs, -, checks⟩ := inCrisis_cases ran
  cases checks with
  | ongoing | spared => exact .refl w
  | enters identity job =>
      have reported := Quiet.issue (w := ((w.setNeeds e { needs with
          isResolvingSurvival := true, currentSurvivalType := crisis.type }).eraseBusy e).clearPath
            e) (.reportJobStatus identity.npcId job.jobId 2 .environmentChange crisis.context
              w.clock.tick .log) rfl
      exact (Quiet.trans (.writes (by simp [characterScope])) reported).then_writes
        (by simp [characterScope])

theorem inhibitOrAttack_quiet (status : NodeStatus)
    (ran : w.actionInhibitOrAttack e = some (status, w')) : Quiet w w' := by
  have asked (aggro : AggroComp) (npcId targetNpcId : UInt32) :
      Quiet w (w.inhibit e aggro npcId targetNpcId).1 := by
    unfold inhibit
    split
    next => exact .refl w
    next => exact .issue _ rfl
  cases inhibitOrAttack_cases ran with
  | unaware => exact .refl w
  | forgets | attacks => exact .writes (by simp [characterScope])
  | givesUp aggro threat identity threatIdentity =>
      exact (asked aggro identity.npcId threatIdentity.npcId).then_writes (by simp [characterScope])
  | holds aggro toil threat identity threatIdentity =>
      exact (asked aggro identity.npcId threatIdentity.npcId).then_writes (by simp [characterScope])

omit [Scalar F] in
theorem retaliate_quiet (attacker target : Entity) : Quiet w (w.retaliate attacker target) := by
  unfold retaliate
  repeat' split
  all_goals exact .writes (by simp [characterScope])

theorem strike_quiet (target : Entity) (combat : CombatComp F)
    (identity targetIdentity : IdentityComp) (targetHealth : HealthComp F)
    (struck : w.strike e target combat identity targetIdentity targetHealth = some w') :
    Quiet w w' := by
  have landed : Quiet w (w.landHit e target combat identity targetIdentity targetHealth) := by
    unfold landHit
    extract_lets hurt tired shown reported
    have before : Quiet w shown := .writes (by simp [shown, tired, hurt, characterScope])
    have told : Quiet w reported := before.trans (.issue _ rfl)
    exact (told.then_writes (by simp [characterScope])).trans (retaliate_quiet _ e target)
  rcases strike_cases struck with ⟨-, rfl⟩ | ⟨-, mine, -, rfl⟩
  · exact landed
  · exact landed.then_writes (by simp [characterScope])

theorem meleeAttack_quiet (status : NodeStatus)
    (ran : w.actionMeleeAttack e = some (status, w')) : Quiet w w' := by
  obtain ⟨loc, combat, job, toil, -, -, -, -, attacks⟩ := meleeAttack_cases ran
  have standing : Quiet w (w.standAndFight e toil) := by
    unfold standAndFight
    split <;> exact .writes (by simp [characterScope])
  cases attacks with
  | aimless => exact .refl w
  | chases target targetLoc name =>
      unfold chase
      split <;> exact .writes (by simp [characterScope])
  | waits => exact standing.then_writes (by simp [characterScope])
  | strikes target targetLoc identity targetIdentity health aimed located near ready hurt struck =>
      exact standing.trans (strike_quiet _ w' e target combat identity targetIdentity health struck)

theorem runLeaf_quiet (draw : BehaviorDraw) (leaf : SurvivalLeaf) (status : NodeStatus)
    (ran : runLeaf e draw leaf w = some (status, w')) : Quiet w w' := by
  cases leaf with
  | inhibitOrAttack => exact w.inhibitOrAttack_quiet w' e status ran
  | meleeAttack => exact w.meleeAttack_quiet w' e status ran
  | isHungry => exact w.inCrisis_quiet w' e hungerCrisis status ran
  | isFatigued => exact w.inCrisis_quiet w' e fatigueCrisis status ran
  | isScheduledEat | isScheduledSleep =>
      obtain ⟨needs, -, checks⟩ := isScheduled_cases ran
      cases checks <;> exact .of_same rfl rfl rfl rfl rfl
  | findFurniture => exact w.findFurniture_quiet w' e draw status ran
  | interactFurniture => exact w.interactFurniture_quiet w' e draw status ran
  | hasCombatTarget | isLowHealth | flee | isAggroHigh | moveToTarget | canWander | wander =>
      exact .of_within (runLeaf_apart_within e e draw _ status w w' (by simp) (by simp) ran) rfl

theorem behaviorTree_quiet (draw : BehaviorDraw) (visited : w.behaviorTree e draw = some w') :
    Quiet w w' := by
  unfold behaviorTree at visited
  split at visited
  next => exact Option.some.inj visited ▸ .refl w
  next =>
    obtain ⟨⟨status, last⟩, ticked, rfl⟩ := Option.map_eq_some_iff.mp visited
    have steps := tick_steps survivalTree w last status ticked
    clear visited ticked
    induction steps with
    | refl => exact .refl w
    | tail _ step ih =>
        obtain ⟨leaf, decided, -, ran⟩ := step
        exact ih.trans (runLeaf_quiet _ _ e draw leaf decided ran)

end World

def Event.isTimely : Event F → Bool
  | .respond .. => true
  | .abort _ => true
  | .drainTask _ => true
  | .syncTick => true
  | .dailyReset => true
  | .requestTick _ => true
  | _ => false

variable {w w' : World F}

theorem step_quiet (event : Event F) (other : event.isTimely = false)
    (stepped : step event w = some w') : Quiet w w' := by
  by_cases apart : event.remakes = false ∧ event.scope.isQuiet = true
  next => exact .of_within (step_within event w w' 0 apart.1 stepped) apart.2
  next =>
    cases event with
    | cleanupPlayer player => exact Option.some.inj stepped ▸ w.cleanupPlayer_quiet player
    | command cmd =>
        cases cmd with
        | login session playerId playerName =>
            exact w.login_quiet w' session playerId playerName stepped
        | talkToNpc session npcId => exact w.talkToNpc_quiet w' session npcId stepped
        | playerMessage | endDialogue | getAgentStatus =>
            exact Option.some.inj stepped ▸ .issue _ rfl
        | malformed => exact Option.some.inj stepped ▸ .refl w
        | move => exact absurd ⟨rfl, rfl⟩ apart
    | requestJobs => exact Option.some.inj stepped ▸ .issue _ rfl
    | jobDriver e => exact w.jobDriver_quiet w' e stepped
    | socialInteraction processed draw initiator =>
        obtain ⟨⟨after, grown⟩, talked, rfl⟩ := Option.map_eq_some_iff.mp stepped
        exact w.socialInteraction_quiet after processed grown draw initiator talked
    | networkSync rank => exact Option.some.inj stepped ▸ w.networkSync_quiet rank
    | behaviorTree e draw => exact w.behaviorTree_quiet w' e draw stepped
    | checkOccupant furniture => exact Option.some.inj stepped ▸ w.checkOccupant_quiet furniture
    | resolveAffordance e => exact w.resolveAffordance_quiet w' e stepped
    | respond | abort | drainTask | syncTick | dailyReset | requestTick => cases other
    | _ => exact absurd ⟨rfl, rfl⟩ apart

theorem step_constant (event : Event F) (stepped : step event w = some w') : Constant w w' := by
  by_cases remakes : event.remakes = false
  next =>
    refine .of_within (step_within event w w' 0 remakes stepped) ?_
    cases event with
    | command cmd => cases cmd <;> rfl
    | _ => rfl
  next =>
    refine (step_quiet event ?_ stepped).constant
    cases event <;> first | rfl | exact absurd rfl remakes

theorem run_constant {past : List (Transition (World F) (Event F))} (run : ServerRun w past w') :
    Constant w w' :=
  run.preserved (Constant w) (.refl w) fun _ event _ same stepped =>
    same.trans (step_constant event stepped)

theorem bootstrap_settings (data : WorldBootstrapData F) (settings : SimulationSettings F)
    (obstacles : Option (List Obstacle)) (draws : Nat → NeedsDraw F)
    (booted : bootstrap data settings obstacles draws = some w) :
    w.settings = settings ∧ settings.ticksPerGameHour = (data.ticksPerGameHour.toNat : Int) := by
  refine ⟨bootstrap_spares .settings rfl rfl booted, ?_⟩
  unfold bootstrap at booted
  split at booted
  next => cases booted
  split at booted
  next => cases booted
  next agreed =>
    simp only [Bool.or_eq_true, decide_eq_true_eq, not_or, not_not] at agreed
    exact agreed.2

end MundusVivens
