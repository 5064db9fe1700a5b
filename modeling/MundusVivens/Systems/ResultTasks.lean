import MundusVivens.Systems.PlayerCommands

set_option autoImplicit false

/-!
# Result tasks

The tasks that gRPC callbacks push to the result queue, apart from those of the
player dialogue. The main loop runs them one after the other.
-/

namespace MundusVivens

open Scalar LocationRegistry

variable {F : Type} [Scalar F]

namespace World

def isResolving (w : World F) (e : Entity) : Bool :=
  match w.reg.needs e with
  | some needs => needs.isResolvingSurvival
  | none => false

def jobOrDefault (w : World F) (e : Entity) : JobComp F := (w.reg.job e).getD .initial

def toilOrDefault (w : World F) (e : Entity) : ToilComp := (w.reg.toil e).getD .initial

-- `get_or_emplace<ToilComp>`, then `Idle` with no ticks left.
def restartToil (w : World F) (e : Entity) : World F :=
  w.setToil e { w.toilOrDefault e with state := .idle, durationTicks := 0 }

end World

-- The job the pending-jobs and the next-jobs handler write.
def JobComp.ofPayload (payload : JobPayload F) (draw : RadiusDraw F) : JobComp F :=
  let target := randomizeWithinRadius payload.targetX payload.targetZ locationRadius draw
  { jobId := payload.jobId
    targetLocation := payload.targetLocation
    targetX := target.1
    targetY := payload.targetY
    targetZ := target.2
    intent := payload.intent
    targetAgentId := payload.targetAgentId
    priority := payload.priority
    isActive := true
    category := .ofUInt8 payload.category }

-- The job the status-report handler writes; the target coordinates stay.
def JobComp.reported (job : JobComp F) (payload : JobPayload F) : JobComp F :=
  { job with
    jobId := payload.jobId
    targetLocation := payload.targetLocation
    intent := payload.intent
    targetAgentId := payload.targetAgentId
    priority := payload.priority
    category := .ofUInt8 payload.category
    isActive := true }

namespace World

def eraseScheduleWait (w : World F) (e : Entity) : World F :=
  match w.reg.busy e with
  | some busy => if busy.reason = .scheduleWait then w.eraseBusy e else w
  | none => w

def writePendingJob (w : World F) (e : Entity) (payload : JobPayload F) (draw : RadiusDraw F) :
    World F :=
  ((w.setJob e (.ofPayload payload draw)).restartToil e).eraseScheduleWait e

def writeNextJob (w : World F) (e : Entity) (payload : JobPayload F) (draw : RadiusDraw F) :
    World F :=
  (w.setJob e (.ofPayload payload draw)).restartToil e

def writeReportedJob (w : World F) (e : Entity) (job : JobComp F) (payload : JobPayload F) :
    World F :=
  (w.setJob e (job.reported payload)).restartToil e

-- The entity the pending-jobs handler installs a payload on, if it does.
def pendingJobTarget (w : World F) (payload : JobPayload F) : Option Entity :=
  match w.index.byNpcId payload.npcId with
  | none => none
  | some e =>
      if !w.reg.valid e || w.isResolving e then none
      else
        let job := w.jobOrDefault e
        if job.jobId = payload.jobId && job.isActive then none else some e

-- One iteration of the pending-jobs handler.
def applyPendingJob (w : World F) (payload : JobPayload F) (draw : RadiusDraw F) : World F :=
  match w.pendingJobTarget payload with
  | some e => w.writePendingJob e payload draw
  | none => w

def applyPendingJobs (w : World F) (jobs : List (JobPayload F)) (draws : Nat → RadiusDraw F) :
    World F :=
  jobs.zipIdx.foldl (fun w job => w.applyPendingJob job.1 (draws job.2)) w

def nextJobTarget (w : World F) (payload : JobPayload F) : Option Entity :=
  match w.index.byNpcId payload.npcId with
  | some e => if w.reg.valid e then some e else none
  | none => none

-- One iteration over `next_jobs`.
def applyNextJob (w : World F) (payload : JobPayload F) (draw : RadiusDraw F) :
    Option (World F) :=
  match w.nextJobTarget payload with
  | some e => do
      -- Only the log reads the identity.
      let _ ← w.reg.identity e
      some (w.writeNextJob e payload draw)
  | none => some w

def applyNextJobs (w : World F) (jobs : List (JobPayload F)) (draws : Nat → RadiusDraw F) :
    Option (World F) :=
  jobs.zipIdx.foldlM (fun w job => w.applyNextJob job.1 (draws job.2)) w

-- The task of the report about a job that a dialogue interrupted.
def applyReport (w : World F) (e : Entity) (newJob : Option (JobPayload F)) : World F :=
  match w.reg.job e, newJob with
  | some job, some payload => if w.reg.valid e then w.writeReportedJob e job payload else w
  | _, _ => w

-- `SOCIALIZE` and `REJECT`: drop the aggro and exempt the target for 600 ticks.
def exemptTarget (w : World F) (e : Entity) (aggro : AggroComp) (targetNpcId : UInt32) : World F :=
  let cooldown := (w.reg.cooldown e).getD .initial
  (w.setAggro e { aggro with aggroScore := 0, isInhibited := false }).setCooldown e
    { cooldown with cooldownPerTarget :=
        Function.update cooldown.cooldownPerTarget targetNpcId (some (w.clock.tick + 600)) }

-- The task of `ThreatDetectedAsync`.
def applyThreat (w : World F) (e : Entity) (targetNpcId : UInt32) (success : Bool)
    (actionCode : Int) : Option (World F) :=
  match w.reg.aggro e with
  | none => some w
  | some aggro =>
      if !w.reg.valid e then some w
      else do
        let _ ← w.reg.identity e
        if success then
          if actionCode = 0 then
            let combat := (w.reg.combat e).getD .initial
            let armed := w.setCombat e { combat with targetEntity := aggro.threatEntity }
            some (armed.setAggro e { aggro with aggroScore := 0, isInhibited := false })
          else some (w.exemptTarget e aggro targetNpcId)
        else some (w.setAggro e { aggro with isInhibited := false })

-- The task of `BatchUpdateStatusAsync`.
def applyBatch (w : World F) (updates : List (AgentStatusUpdate F))
    (targetEntities : List Entity) (success : Bool) : World F :=
  if success then
    (updates.zip targetEntities).foldl
      (fun w entry =>
        let (update, e) := entry
        if w.reg.valid e && (w.reg.lastSynced e).isSome then
          w.setLastSynced e ⟨update.location, update.emotion, update.activity⟩
        else w)
      w
  else w

-- The task of `ProcessWorldTickAsync`.
def applyTick (w : World F) (targetTick : Int) (success : Bool)
    (deltas : List RelationshipDelta) : World F :=
  let answered := { w.clock with isTickSyncPending := false }
  { w with clock :=
      if success then
        { answered with
          nextTickVal := targetTick, tempRelationshipDeltas := deltas, tickSyncedReady := true }
      else answered }

-- One emotion update of a finished dialogue.
def applyEmotionUpdate (w : World F) (update : AgentEmotionUpdate) : World F :=
  match w.index.byNpcId update.agentId with
  | none => w
  | some e =>
      match w.reg.valid e, w.reg.emotion e, w.reg.identity e with
      | true, some emotion, some _ =>
          let (emotions, id) :=
            w.emotions.internUpdate update.newEmotion update.intensity update.category
          { w with emotions := emotions }.setEmotion e
            { emotion with
              currentEmotion := update.newEmotion
              currentEmotionId := id
              decayTicksRemaining := EmotionRegistry.updateTicks update.intensity }
      | _, _, _ => w

def overheard (result : DialogueResult F) (distance : F) : Option String :=
  if le distance (lit 3) then some ("[엿들음] " ++ result.dialogueSummary)
  else if le distance (lit 8) then
    if result.keywords.isEmpty then none
    else some ("[엿들음 - 단편적 키워드] 주제: " ++ String.intercalate ", " result.keywords)
  else none

-- The mean position of the participants that have one.
def talkPosition (w : World F) (group : List Entity) : F × F × F :=
  let located := group.filterMap fun e => if w.reg.valid e then w.reg.location e else none
  let sum := located.foldl
    (fun (sum : F × F × F) loc => (sum.1 + loc.x, sum.2.1 + loc.y, sum.2.2 + loc.z))
    (zero, zero, zero)
  if located.isEmpty then sum
  else
    let count := ofInt located.length
    (sum.1 / count, sum.2.1 / count, sum.2.2 / count)

def eavesdrop (w : World F) (group : List Entity) (sourceNpcId : UInt32)
    (result : DialogueResult F) (talk : F × F × F) (e : Entity) : Option (Request F) := do
  if group.contains e || !w.reg.valid e || (w.reg.activity e).isNone then none
  else do
    let identity ← w.reg.identity e
    let loc ← w.reg.location e
    let dx := loc.x - talk.1
    let dy := loc.y - talk.2.1
    let dz := loc.z - talk.2.2
    let content ← overheard result (sqrt (dx * dx + dy * dy + dz * dz))
    some (.injectBelief identity.npcId sourceNpcId content sourceNpcId)

def eavesdropping (w : World F) (group : List Entity) (result : DialogueResult F) :
    Option (World F) :=
  match group with
  | [] => some w
  | first :: _ =>
      if !w.reg.valid first then some w
      else do
        let source ← w.reg.identity first
        let talk := w.talkPosition group
        let bystanders :=
          w.grid.getNearbyEntities talk.1 talk.2.2 (lit 8) w.reg.location
        let requests := bystanders.filterMap (w.eavesdrop group source.npcId result talk)
        some { w with grpc := w.grpc.issueAll requests }

-- The npc ids of the other participants; reading a missing identity is undefined.
def otherIds (w : World F) (group : List Entity) (e : Entity) : Option (List UInt32) :=
  (group.filter (· ≠ e)).mapM fun other => (w.reg.identity other).map (·.npcId)

-- Give a participant of a finished dialogue its cooldowns and release it.
def dismissParticipant (group : List Entity) (tick : Int) (w : World F) (e : Entity) :
    Option (World F) :=
  if !w.reg.valid e then some w
  else do
    let cooldown := (w.reg.cooldown e).getD .initial
    let _ ← w.reg.activity e
    let others ← w.otherIds group e
    let cooled :=
      { cooldown with
        socialEnergy := max 0 (cooldown.socialEnergy - 10)
        cognitiveRefractoryUntil := tick + 1
        cooldownPerTarget := others.foldl
          (fun targets id => Function.update targets id (some (tick + 2)))
          cooldown.cooldownPerTarget }
    some (((w.setCooldown e cooled).setActivity e "생각 정리 중").eraseBusy e)

-- The dialogue succeeded and every participant is still valid.
def finishDialogue (w : World F) (group : List Entity) (tick : Int) (result : DialogueResult F)
    (draws : Nat → RadiusDraw F) : Option (World F) := do
  let _ ← group.mapM w.reg.identity
  let felt := result.emotionUpdates.foldl applyEmotionUpdate w
  let planned ← felt.applyNextJobs result.nextJobs draws
  let heard ← planned.eavesdropping group result
  group.foldlM (dismissParticipant group tick) heard

-- The dialogue failed: put every valid participant back.
def cancelDialogue (w : World F) (group : List Entity) : Option (World F) :=
  group.foldlM releaseIfValid w

def dialogueTask (w : World F) (group : List Entity) (tick : Int) (success : Bool)
    (result : DialogueResult F) (draws : Nat → RadiusDraw F) : Option (World F) :=
  if success && result.success && group.all w.reg.valid then
    w.finishDialogue group tick result draws
  else w.cancelDialogue group

def runTask (w : World F) (draws : Nat → RadiusDraw F) :
    Request F → Reply F → Option (World F)
  | .processWorldTick targetTick, .tick success deltas =>
      some (w.applyTick targetTick success deltas)
  | .getPendingJobs _, .jobs true jobs => some (w.applyPendingJobs jobs draws)
  | .reportJobStatus _ _ _ _ _ _ (.install e), .report true newJob =>
      some (w.applyReport e newJob)
  | .triggerDialogue _ group tick, .dialogue success result =>
      w.dialogueTask group tick success result draws
  | .startPlayerDialogue _ _ npc player, .started success sessionId =>
      w.startedTask npc player success sessionId
  | .endPlayerDialogue _ npc player, .outcome _ => w.endedTask npc player
  | .threatDetected _ targetNpcId _ e, .threat success actionCode =>
      w.applyThreat e targetNpcId success actionCode
  | .batchUpdateStatus updates targets, .outcome success =>
      some (w.applyBatch updates targets success)
  -- The remaining tasks only log, or send a packet.
  | _, _ => some w

-- One task of `GrpcResultQueue::Drain`.
def drainTask (w : World F) (draws : Nat → RadiusDraw F) : Option (World F) :=
  match w.grpc.pop with
  | none => some w
  | some (_, request, reply, grpc) => { w with grpc := grpc }.runTask draws request reply

end World

end MundusVivens
