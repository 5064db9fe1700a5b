import MundusVivens.World.Components

set_option autoImplicit false

/-!
# Calls to the AI server

A call carries the request and what its callback captured. Once answered it
waits in the result queue until the main loop runs its task.
-/

namespace MundusVivens

structure JobPayload (F : Type) where
  npcId : UInt32
  jobId : UInt64
  targetLocation : String
  targetX : F
  targetY : F
  targetZ : F
  intent : String
  targetAgentId : UInt32
  priority : Int
  category : UInt8
deriving DecidableEq

structure AgentEmotionUpdate where
  agentId : UInt32
  newEmotion : String
  intensity : Int
  category : UInt8

structure DialogueResult (F : Type) where
  dialogueSummary : String
  emotionUpdates : List AgentEmotionUpdate
  nextJobs : List (JobPayload F)
  keywords : List String
  success : Bool

structure RelationshipDelta where
  fromAgentId : UInt32
  toAgentId : UInt32
  liking : Int
  trust : Int

structure AgentStatusUpdate (F : Type) where
  agentId : UInt32
  location : String
  x : F
  y : F
  z : F
  emotion : String
  activity : String

inductive InterruptReason where
  | unknownReason
  | dialogueBusy
  | physicalAttacked
  | environmentChange
deriving DecidableEq

inductive ReportCallback where
  -- Install the new job on this entity.
  | install (entity : Entity)
  | log
  | ignore
deriving DecidableEq

inductive Request (F : Type) where
  | processWorldTick (targetTick : Int)
  | getPendingJobs (currentTick : Int)
  | reportJobStatus (npcId : UInt32) (jobId : UInt64) (status : Int) (reason : InterruptReason)
      (detailedContext : String) (currentTick : Int) (callback : ReportCallback)
  | triggerDialogue (participantIds : List UInt32) (groupParticipants : List Entity) (tick : Int)
  | startPlayerDialogue (playerId : String) (npcId : UInt32) (npcEnt playerEnt : Entity)
  | sendPlayerMessage (sessionId : UInt64) (message : String)
  | endPlayerDialogue (sessionId : UInt64) (npcEnt playerEnt : Option Entity)
  -- The end signal of the disconnect cleanup; its callback only logs.
  | endDisconnected (sessionId : UInt64)
  | getAgentStatus (agentId : UInt32)
  | injectBelief (targetAgentId subjectId : UInt32) (content : String) (sourceAgentId : UInt32)
  | threatDetected (agentId targetAgentId : UInt32) (aggroScore : Int) (entity : Entity)
  | reportCombatEvent (attackerId victimId : UInt32) (damage : F) (weapon : String)
  | batchUpdateStatus (updates : List (AgentStatusUpdate F)) (targetEntities : List Entity)

-- The arguments a callback is invoked with.
inductive Reply (F : Type) where
  | tick (success : Bool) (relationshipDeltas : List RelationshipDelta)
  | jobs (success : Bool) (jobs : List (JobPayload F))
  | report (success : Bool) (newJob : Option (JobPayload F))
  | dialogue (success : Bool) (result : DialogueResult F)
  | started (success : Bool) (sessionId : UInt64)
  | threat (success : Bool) (actionCode : Int)
  | outcome (success : Bool)

namespace Request

variable {F : Type}

def accepts : Request F → Reply F → Bool
  | .processWorldTick _, .tick .. => true
  | .getPendingJobs _, .jobs .. => true
  | .reportJobStatus .., .report .. => true
  | .triggerDialogue .., .dialogue .. => true
  | .startPlayerDialogue .., .started .. => true
  | .threatDetected .., .threat .. => true
  | .sendPlayerMessage .., .outcome _ => true
  | .endPlayerDialogue .., .outcome _ => true
  | .endDisconnected _, .outcome _ => true
  | .getAgentStatus _, .outcome _ => true
  | .injectBelief .., .outcome _ => true
  | .reportCombatEvent .., .outcome _ => true
  | .batchUpdateStatus .., .outcome _ => true
  | _, _ => false

-- The callback pushes a task to the result queue.
def pushesTask : Request F → Bool
  | .reportJobStatus _ _ _ _ _ _ .ignore => false
  | .injectBelief .. => false
  | .reportCombatEvent .. => false
  | _ => true

-- What the coroutine's own `catch` block passes to the callback, if it invokes it.
def onException : Request F → Option (Reply F)
  | .getPendingJobs _ => some (.jobs false [])
  | .reportJobStatus .. => some (.report false none)
  | .threatDetected .. => some (.threat false 1)
  | .reportCombatEvent .. => some (.outcome false)
  | .getAgentStatus _ => some (.outcome false)
  | _ => none

end Request

structure Call (F : Type) where
  request : Request F
  -- Absent while the response is outstanding.
  reply : Option (Reply F)
  accepted : ∀ r ∈ reply, request.accepts r = true

-- `AsyncGrpcClient` and `GrpcResultQueue`: the calls by ticket, and the answered ones in order.
structure GrpcClient (F : Type) where
  nextTicket : Nat
  calls : Nat → Option (Call F)
  queue : List Nat
  unissued : ∀ ticket, nextTicket ≤ ticket → calls ticket = none

namespace GrpcClient

variable {F : Type}

def empty : GrpcClient F := ⟨0, fun _ => none, [], fun _ _ => rfl⟩

def issue (client : GrpcClient F) (request : Request F) : GrpcClient F :=
  { nextTicket := client.nextTicket + 1
    calls := Function.update client.calls client.nextTicket (some ⟨request, none, by simp⟩)
    queue := client.queue
    unissued := fun ticket bound => by
      rw [Function.update_of_ne (by omega)]
      exact client.unissued ticket (by omega) }

def issueAll (client : GrpcClient F) (requests : List (Request F)) : GrpcClient F :=
  requests.foldl issue client

def remove (client : GrpcClient F) (ticket : Nat) : GrpcClient F :=
  { client with
    calls := Function.update client.calls ticket none
    unissued := fun t bound => by
      by_cases same : t = ticket
      next => simp [same]
      next => simpa [same] using client.unissued t bound }

def answer (client : GrpcClient F) (ticket : Nat) (call : Call F)
    (outstanding : (client.calls ticket).isSome) : GrpcClient F :=
  { client with
    calls := Function.update client.calls ticket (some call)
    queue := client.queue ++ [ticket]
    unissued := fun t bound => by
      have fresh := client.unissued t bound
      rw [Function.update_of_ne (by rintro rfl; simp [fresh] at outstanding)]
      exact fresh }

-- The callback of an outstanding call runs on the gRPC thread.
def respond (client : GrpcClient F) (ticket : Nat) (reply : Reply F) : GrpcClient F :=
  match outstanding : client.calls ticket with
  | some ⟨request, none, _⟩ =>
      if fits : request.accepts reply = true then
        if request.pushesTask then
          client.answer ticket ⟨request, some reply, by simpa using fits⟩ (by simp [outstanding])
        else client.remove ticket
      else client
  | _ => client

-- The coroutine of an outstanding call leaves through its `catch` block.
def abort (client : GrpcClient F) (ticket : Nat) : GrpcClient F :=
  match client.calls ticket with
  | some ⟨request, none, _⟩ =>
      match request.onException with
      | some reply => client.respond ticket reply
      | none => client.remove ticket
  | _ => client

def pop (client : GrpcClient F) : Option (Nat × Request F × Reply F × GrpcClient F) :=
  match client.queue with
  | [] => none
  | ticket :: rest =>
      match client.calls ticket with
      | some ⟨request, some reply, _⟩ =>
          some (ticket, request, reply, { client.remove ticket with queue := rest })
      | _ => none

theorem pop_spec (client rest : GrpcClient F) (ticket : Nat) (request : Request F)
    (reply : Reply F) (popped : client.pop = some (ticket, request, reply, rest)) :
    request.accepts reply = true ∧
      (∃ accepted, client.calls ticket = some ⟨request, some reply, accepted⟩) ∧
      rest.calls = Function.update client.calls ticket none := by
  unfold pop at popped
  split at popped
  next => cases popped
  next head tail _ =>
    split at popped
    next r answer accepted call =>
      obtain ⟨rfl, rfl, rfl, rfl⟩ := by simpa using popped
      exact ⟨accepted _ rfl, ⟨accepted, call⟩, rfl⟩
    next => cases popped

end GrpcClient

end MundusVivens
