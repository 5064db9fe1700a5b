import MundusVivens.Shared.Runs
import MundusVivens.Systems.BehaviorNodes

set_option autoImplicit false

/-!
# The main loop

One event is one uninterrupted piece of work: a task, a command, a system on one
entity, or something that happens on another thread. A frame of the game loop is
a sequence of events; runs admit the events in every order.
-/

namespace MundusVivens

open Scalar Runs

variable {F : Type} [Scalar F]

namespace World

def connect (w : World F) : World F :=
  { w with tcp :=
      { sessions := Function.update w.tcp.sessions w.tcp.nextSessionId true
        nextSessionId := w.tcp.nextSessionId + 1 } }

def disconnect (w : World F) (sessionIndex : UInt32) : World F :=
  { w with tcp := { w.tcp with sessions := Function.update w.tcp.sessions sessionIndex false } }

def respond (w : World F) (ticket : Nat) (reply : Reply F) : World F :=
  { w with grpc := w.grpc.respond ticket reply }

def abort (w : World F) (ticket : Nat) : World F := { w with grpc := w.grpc.abort ticket }

def applyDelta (w : World F) (delta : RelationshipDelta) : World F :=
  match w.index.byNpcId delta.fromAgentId with
  | none => w
  | some e =>
      let cache := (w.reg.relationships e).getD ⟨fun _ => none⟩
      w.setRelationships e
        ⟨Function.update cache.relationships delta.toAgentId (some ⟨delta.liking, delta.trust⟩)⟩

def syncTick (w : World F) : World F :=
  if w.clock.tickSyncedReady then
    let synced :=
      { w with clock := { w.clock with tickSyncedReady := false, tick := w.clock.nextTickVal } }
    w.clock.tempRelationshipDeltas.foldl applyDelta synced
  else w

def resetCooldown (cooldown : CooldownComp) : CooldownComp :=
  { cooldown with
    socialEnergy := cooldown.maxSocialEnergy
    cognitiveRefractoryUntil := 0
    cooldownPerTarget := fun _ => none }

def dailyReset (w : World F) : World F :=
  if w.clock.isFirstLoop || w.clock.tick % 24 = 0 then
    { w with
      clock := { w.clock with isFirstLoop := false }
      reg := { w.reg with cooldown := fun e => (w.reg.cooldown e).map resetCooldown } }
  else w

def requestJobs (w : World F) : World F := w.issue (.getPendingJobs w.clock.tick)

-- The update of an entity whose state differs from the last one synchronised.
def statusUpdate (w : World F) (e : Entity) : Option (AgentStatusUpdate F) := do
  let identity ← w.reg.identity e
  let loc ← w.reg.location e
  let emotion ← w.reg.emotion e
  let activity ← w.reg.activity e
  let sync ← w.reg.lastSynced e
  if sync.location ≠ loc.locationName || sync.emotion ≠ emotion.currentEmotion ||
      sync.activity ≠ activity.currentActivity then
    some ⟨identity.npcId, loc.locationName, loc.x, loc.y, loc.z, emotion.currentEmotion,
      activity.currentActivity⟩
  else none

def networkSync (w : World F) (rank : Entity → Nat) : World F :=
  let changed := (w.view rank fun e => (w.reg.lastSynced e).isSome).filterMap fun e =>
    (w.statusUpdate e).map fun update => (update, e)
  if changed.isEmpty then w
  else w.issue (.batchUpdateStatus (changed.map (·.1)) (changed.map (·.2)))

-- Request the next logical tick every `ticks_per_game_hour` frames.
def requestTick (w : World F) (physicalTick : Nat) : Option (World F) :=
  if w.settings.ticksPerGameHour = 0 then none
  else if (physicalTick : Int) % w.settings.ticksPerGameHour = 0 && !w.clock.isTickSyncPending then
    some ({ w with clock := { w.clock with isTickSyncPending := true } }.issue
      (.processWorldTick (w.clock.tick + 1)))
  else some w

end World

inductive Event (F : Type) where
  | connect
  | disconnect (sessionIndex : UInt32)
  | respond (ticket : Nat) (reply : Reply F)
  | abort (ticket : Nat)
  | drainTask (draws : Nat → LocationRegistry.RadiusDraw F)
  | cleanupPlayer (player : Entity)
  | command (cmd : PlayerCommand F)
  | syncTick
  | emotionDecay (draw : World.DecayDraw F)
  | dailyReset
  | requestJobs
  | jobDriver (e : Entity)
  | recoverEnergy (e : Entity)
  | socialInteraction (processed : List Entity) (draw : World.SocialDraw F) (initiator : Entity)
  | networkSync (rank : Entity → Nat)
  | busyAmbient (e : Entity)
  | perception (e : Entity)
  | behaviorTree (e : Entity) (draw : BehaviorDraw)
  | death (e : Entity)
  | survivalOverride (e : Entity)
  | pathfinding (e : Entity) (searches : Nat) (choice : PathChoice F)
  | movement (e : Entity)
  | checkOccupant (furniture : Entity)
  | resolveAffordance (e : Entity)
  | requestTick (physicalTick : Nat)

-- The events before the logical tick of a frame.
def Event.begins : Event F → Bool
  | .drainTask _ | .cleanupPlayer _ | .command _ => true
  | _ => false

-- The events of a logical tick once it is synchronised.
def Event.isLogical : Event F → Bool
  | .emotionDecay _ | .dailyReset | .requestJobs | .jobDriver _ | .recoverEnergy _
  | .socialInteraction .. | .networkSync _ => true
  | _ => false

-- The events of the systems from `SystemBusyAmbient` through `SystemMovement`.
def Event.isPhysics : Event F → Bool
  | .busyAmbient _ | .perception _ | .behaviorTree .. | .death _ | .survivalOverride _
  | .pathfinding .. | .movement _ => true
  | _ => false

def Event.tidies : Event F → Bool
  | .checkOccupant _ | .resolveAffordance _ => true
  | _ => false

def step : Event F → World F → Option (World F)
  | .connect, w => some w.connect
  | .disconnect sessionIndex, w => some (w.disconnect sessionIndex)
  | .respond ticket reply, w => some (w.respond ticket reply)
  | .abort ticket, w => some (w.abort ticket)
  | .drainTask draws, w => w.drainTask draws
  | .cleanupPlayer player, w => some (w.cleanupPlayer player)
  | .command cmd, w => w.playerCommand cmd
  | .syncTick, w => some w.syncTick
  | .emotionDecay draw, w => some (w.emotionDecay draw)
  | .dailyReset, w => some w.dailyReset
  | .requestJobs, w => some w.requestJobs
  | .jobDriver e, w => w.jobDriver e
  | .recoverEnergy e, w => some (w.recoverEnergy e)
  | .socialInteraction processed draw initiator, w =>
      (w.socialInteraction processed draw initiator).map (·.1)
  | .networkSync rank, w => some (w.networkSync rank)
  | .busyAmbient e, w => some (w.busyAmbient World.frameTime e)
  | .perception e, w => some (w.perception e)
  | .behaviorTree e draw, w => w.behaviorTree e draw
  | .death e, w => some (w.systemDeath e)
  | .survivalOverride e, w => some (w.survivalOverride e)
  | .pathfinding e searches choice, w => (w.pathfinding e searches choice).map (·.1)
  | .movement e, w => w.movement e
  | .checkOccupant furniture, w => some (w.checkOccupant furniture)
  | .resolveAffordance e, w => w.resolveAffordance e
  | .requestTick physicalTick, w => w.requestTick physicalTick

abbrev ServerRun (start : World F) := Run step start

def pass (rank : Entity → Nat) (has : World F → Entity → Bool) (visit : Entity → Event F)
    (w : World F) : Option (World F) :=
  follow step ((w.view rank (has w)).map visit) w

-- The path searches of a frame share one budget.
def pathfindingPass (choice : Entity → PathChoice F) :
    List Entity → Nat → World F → Option (World F)
  | [], _, w => some w
  | e :: rest, searches, w =>
      match w.pathfinding e searches (choice e) with
      | none => none
      | some (next, spent) => pathfindingPass choice rest spent next

-- The groups formed earlier in the pass are left alone.
def socialPass (draw : Entity → World.SocialDraw F) :
    List Entity → List Entity → World F → Option (World F)
  | [], _, w => some w
  | e :: rest, processed, w =>
      match w.socialInteraction processed (draw e) e with
      | none => none
      | some (next, grown) => socialPass draw rest grown next

-- The loops of a frame that visit a view; each view has its own order.
inductive Stage where
  | cleanup
  | jobDriver
  | recovery
  | social
  | networkSync
  | ambient
  | perception
  | tree
  | death
  | survival
  | pathfinding
  | movement
  | furniture
  | affordance
deriving DecidableEq

-- What the systems of one frame may draw or leave open.
structure FrameInput (F : Type) where
  rank : Stage → Entity → Nat
  draws : Nat → Nat → LocationRegistry.RadiusDraw F
  commands : List (PlayerCommand F)
  decay : World.DecayDraw F
  social : Entity → World.SocialDraw F
  tree : Entity → BehaviorDraw
  path : Entity → PathChoice F
  physicalTick : Nat

-- The tasks that wait when the drain begins.
def drain (input : FrameInput F) (w : World F) : Option (World F) :=
  follow step (w.grpc.queue.zipIdx.map fun task => .drainTask (input.draws task.2)) w

-- The players whose session is gone when the cleanup begins.
def cleanup (input : FrameInput F) (w : World F) : Option (World F) :=
  pass (input.rank .cleanup)
    (fun w e => ((w.reg.playerTag e).map fun tag => !w.tcp.sessions tag.sessionIndex).getD false)
    .cleanupPlayer w

-- The systems that run once a tick has been synchronised.
def logicalTick (input : FrameInput F) (w : World F) : Option (World F) :=
  if w.clock.tickSyncedReady then do
    let w ← follow step
      [.syncTick, .emotionDecay input.decay, .dailyReset, .requestJobs] w
    let w ← pass (input.rank .jobDriver) (fun w e => (w.reg.activity e).isSome) .jobDriver w
    let w ← pass (input.rank .recovery) (fun w e => (w.reg.cooldown e).isSome) .recoverEnergy w
    let speakers := w.view (input.rank .social) fun e => (w.reg.activity e).isSome
    let w ← socialPass input.social speakers [] w
    step (.networkSync (input.rank .networkSync)) w
  else some w

-- The systems from `SystemBusyAmbient` through `SystemMovement`.
def physics (input : FrameInput F) (w : World F) : Option (World F) := do
  let w ← pass (input.rank .ambient) (fun w e => (w.reg.busy e).isSome) .busyAmbient w
  let w ← pass (input.rank .perception) (fun w e => (w.reg.aggro e).isSome) .perception w
  let w ← pass (input.rank .tree) (fun w e => (w.reg.behaviorTree e).isSome)
    (fun e => .behaviorTree e (input.tree e)) w
  let w ← pass (input.rank .death) (fun w e => (w.reg.health e).isSome) .death w
  let w ← pass (input.rank .survival) (fun w e => (w.reg.needs e).isSome) .survivalOverride w
  let movers := w.view (input.rank .pathfinding) fun e => (w.reg.job e).isSome
  let w ← pathfindingPass input.path movers 0 w
  pass (input.rank .movement) (fun w e => (w.reg.pathfinding e).isSome) .movement w

def opening (input : FrameInput F) (w : World F) : Option (World F) := do
  let w ← drain input w
  let w ← cleanup input w
  let w ← follow step (input.commands.map .command) w
  logicalTick input w

def closing (input : FrameInput F) (w : World F) : Option (World F) := do
  let w ← pass (input.rank .furniture) (fun w e => (w.reg.affordance e).isSome) .checkOccupant w
  let w ← pass (input.rank .affordance) (fun w e => (w.reg.needs e).isSome) .resolveAffordance w
  step (.requestTick input.physicalTick) w

-- One call of the function that `GameLoop::Run` is given.
def frame (input : FrameInput F) (w : World F) : Option (World F) := do
  let opened ← opening input w
  let moved ← physics input opened
  closing input moved

def Reaches (w w' : World F) : Prop := ∃ past, ServerRun w past w'

namespace Reaches

variable {w w' w'' : World F}

theorem refl (w : World F) : Reaches w w := ⟨[], .rest⟩

theorem trans (first : Reaches w w') (second : Reaches w' w'') : Reaches w w'' := by
  obtain ⟨earlier, first⟩ := first
  obtain ⟨later, second⟩ := second
  exact ⟨later ++ earlier, first.append second⟩

theorem of_step {event : Event F} (stepped : step event w = some w') : Reaches w w' :=
  ⟨_, .next .rest stepped⟩

theorem of_follow {events : List (Event F)} (followed : follow step events w = some w') :
    Reaches w w' := by
  obtain ⟨past, run, -⟩ := Run.exists_of_follow events followed
  exact ⟨past, run⟩

end Reaches

def ReachesBy (kind : Event F → Bool) (w w' : World F) : Prop :=
  ∃ past, ServerRun w past w' ∧ ∀ t ∈ past, kind t.event = true

namespace ReachesBy

variable {kind : Event F → Bool} {w w' w'' : World F}

theorem refl (kind : Event F → Bool) (w : World F) : ReachesBy kind w w := ⟨[], .rest, by simp⟩

theorem mono {wider : Event F → Bool} (implied : ∀ event, kind event = true → wider event = true)
    (reaches : ReachesBy kind w w') : ReachesBy wider w w' := by
  obtain ⟨past, run, sorted⟩ := reaches
  exact ⟨past, run, fun t member => implied t.event (sorted t member)⟩

theorem reaches (reaches : ReachesBy kind w w') : Reaches w w' := by
  obtain ⟨past, run, -⟩ := reaches
  exact ⟨past, run⟩

theorem trans (first : ReachesBy kind w w') (second : ReachesBy kind w' w'') :
    ReachesBy kind w w'' := by
  obtain ⟨earlier, first, sorted⟩ := first
  obtain ⟨later, second, sorted'⟩ := second
  refine ⟨later ++ earlier, first.append second, fun t member => ?_⟩
  exact (List.mem_append.mp member).elim (sorted' t) (sorted t)

theorem of_step {event : Event F} (sort : kind event = true) (stepped : step event w = some w') :
    ReachesBy kind w w' :=
  ⟨_, .next .rest stepped, by simpa using sort⟩

theorem of_follow {events : List (Event F)} (sorted : ∀ event ∈ events, kind event = true)
    (followed : follow step events w = some w') : ReachesBy kind w w' := by
  obtain ⟨past, run, order⟩ := Run.exists_of_follow events followed
  refine ⟨past, run, fun t member => sorted _ ?_⟩
  rw [← order]
  exact List.mem_map.mpr ⟨t, List.mem_reverse.mpr member, rfl⟩

theorem of_pass (rank : Entity → Nat) (has : World F → Entity → Bool) (visit : Entity → Event F)
    (sorted : ∀ e, kind (visit e) = true) (passed : pass rank has visit w = some w') :
    ReachesBy kind w w' := by
  refine of_follow (fun event member => ?_) passed
  obtain ⟨e, -, rfl⟩ := List.mem_map.mp member
  exact sorted e

theorem of_pathfindingPass (choice : Entity → PathChoice F) (entities : List Entity)
    (sorted : ∀ e searches, kind (.pathfinding e searches (choice e)) = true) (searches : Nat)
    (passed : pathfindingPass choice entities searches w = some w') : ReachesBy kind w w' := by
  induction entities generalizing searches w with
  | nil =>
      obtain rfl : w = w' := by simpa [pathfindingPass] using passed
      exact .refl kind w
  | cons e rest ih =>
      rw [pathfindingPass] at passed
      split at passed
      next => cases passed
      next next spent visited =>
        have here : step (.pathfinding e searches (choice e)) w = some next := by
          simp [step, visited]
        exact (of_step (sorted e searches) here).trans (ih spent passed)

theorem of_socialPass (draw : Entity → World.SocialDraw F) (entities : List Entity)
    (sorted : ∀ e processed, kind (.socialInteraction processed (draw e) e) = true)
    (processed : List Entity) (passed : socialPass draw entities processed w = some w') :
    ReachesBy kind w w' := by
  induction entities generalizing processed w with
  | nil =>
      obtain rfl : w = w' := by simpa [socialPass] using passed
      exact .refl kind w
  | cons e rest ih =>
      rw [socialPass] at passed
      split at passed
      next => cases passed
      next next grown visited =>
        have here : step (.socialInteraction processed (draw e) e) w = some next := by
          simp [step, visited]
        exact (of_step (sorted e processed) here).trans (ih grown passed)

theorem kept (invariant : World F → Prop)
    (each : ∀ event w w', kind event = true → invariant w → step event w = some w' → invariant w')
    (reaches : ReachesBy kind w w') (holds : invariant w) : invariant w' := by
  obtain ⟨past, run, sorted⟩ := reaches
  exact @Run.invariant _ _ _ _ _ _ (fun _ event => kind event = true) _ holds
    (fun w event w' here sort stepped => each event w w' sort here stepped) run sorted

end ReachesBy

variable {w w' : World F}

theorem opening_begins (input : FrameInput F) (opened : opening input w = some w') :
    ∃ told, ReachesBy Event.begins w told ∧ logicalTick input told = some w' := by
  simp only [opening, Option.bind_eq_bind, Option.bind_eq_some_iff] at opened
  obtain ⟨w₁, drained, w₂, cleaned, w₃, commanded, ticked⟩ := opened
  have drains : ReachesBy Event.begins w w₁ := by
    refine .of_follow (fun event member => ?_) drained
    obtain ⟨task, -, rfl⟩ := List.mem_map.mp member
    rfl
  have commands : ReachesBy Event.begins w₂ w₃ := by
    refine .of_follow (fun event member => ?_) commanded
    obtain ⟨cmd, -, rfl⟩ := List.mem_map.mp member
    rfl
  exact ⟨w₃, (drains.trans (.of_pass _ _ _ (fun _ => rfl) cleaned)).trans commands, ticked⟩

theorem logicalTick_syncs (input : FrameInput F) (ticked : logicalTick input w = some w') :
    (w.clock.tickSyncedReady = false ∧ w' = w) ∨
      ∃ synced, w.clock.tickSyncedReady = true ∧ step .syncTick w = some synced ∧
        ReachesBy Event.isLogical synced w' := by
  unfold logicalTick at ticked
  split at ticked
  next ready =>
    simp only [Option.bind_eq_bind, Option.bind_eq_some_iff] at ticked
    obtain ⟨w₁, opened, w₂, driven, w₃, rested, w₄, talked, sent⟩ := ticked
    obtain ⟨synced, taken, later⟩ := Option.bind_eq_some_iff.mp
      (show (step .syncTick w).bind (follow step [.emotionDecay input.decay, .dailyReset,
        .requestJobs]) = some w₁ from opened)
    have begun : ReachesBy Event.isLogical synced w₁ := .of_follow (by simp [Event.isLogical]) later
    have worked := (begun.trans (.of_pass _ _ _ (fun _ => rfl) driven)).trans
      (.of_pass _ _ _ (fun _ => rfl) rested)
    exact .inr ⟨synced, ready, taken,
      (worked.trans (.of_socialPass _ _ (fun _ _ => rfl) _ talked)).trans (.of_step rfl sent)⟩
  next unready => exact .inl ⟨by simpa using unready, (Option.some.inj ticked).symm⟩

theorem physics_by (input : FrameInput F) (moved : physics input w = some w') :
    ReachesBy Event.isPhysics w w' := by
  simp only [physics, Option.bind_eq_bind, Option.bind_eq_some_iff] at moved
  obtain ⟨w₁, ambient, w₂, perceived, w₃, decided, w₄, died, w₅, decayed, w₆, searched, walked⟩ :=
    moved
  have quieted : ReachesBy Event.isPhysics w w₁ := .of_pass _ _ _ (fun _ => rfl) ambient
  have seen := quieted.trans (.of_pass _ _ _ (fun _ => rfl) perceived)
  have living := (seen.trans (.of_pass _ _ _ (fun _ => rfl) decided)).trans
    (.of_pass _ _ _ (fun _ => rfl) died)
  have aimed := (living.trans (.of_pass _ _ _ (fun _ => rfl) decayed)).trans
    (.of_pathfindingPass _ _ (fun _ _ => rfl) _ searched)
  exact aimed.trans (.of_pass _ _ _ (fun _ => rfl) walked)

theorem closing_tidies (input : FrameInput F) (closed : closing input w = some w') :
    ∃ tidied, ReachesBy Event.tidies w tidied ∧
      step (.requestTick input.physicalTick) tidied = some w' := by
  simp only [closing, Option.bind_eq_bind, Option.bind_eq_some_iff] at closed
  obtain ⟨w₁, checked, w₂, resolved, requested⟩ := closed
  exact ⟨w₂, (ReachesBy.of_pass _ _ _ (fun _ => rfl) checked).trans
    (.of_pass _ _ _ (fun _ => rfl) resolved), requested⟩

theorem opening_reaches (input : FrameInput F) (w w' : World F)
    (opened : opening input w = some w') : Reaches w w' := by
  obtain ⟨told, begins, ticked⟩ := opening_begins input opened
  rcases logicalTick_syncs input ticked with ⟨-, rfl⟩ | ⟨synced, -, taken, later⟩
  · exact begins.reaches
  · exact (begins.reaches.trans (.of_step taken)).trans later.reaches

theorem physics_reaches (input : FrameInput F) (w w' : World F)
    (moved : physics input w = some w') : Reaches w w' := (physics_by input moved).reaches

theorem closing_reaches (input : FrameInput F) (w w' : World F)
    (closed : closing input w = some w') : Reaches w w' := by
  obtain ⟨tidied, tidies, requested⟩ := closing_tidies input closed
  exact tidies.reaches.trans (.of_step requested)

theorem frame_reaches (input : FrameInput F) (w w' : World F)
    (framed : frame input w = some w') : Reaches w w' := by
  simp only [frame, Option.bind_eq_bind, Option.bind_eq_some_iff] at framed
  obtain ⟨opened, begun, moved, walked, ended⟩ := framed
  exact ((opening_reaches input w opened begun).trans (physics_reaches input opened moved walked)).trans
    (closing_reaches input moved w' ended)

end MundusVivens
