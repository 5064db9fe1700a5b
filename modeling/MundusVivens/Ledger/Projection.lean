import MundusVivens.Ledger.Ledger

set_option autoImplicit false

namespace MundusVivens

variable {F : Type}

def Request.dialogueCall : Request F → Option DialogueCall
  | .triggerDialogue _ group _ => some (.group group)
  | .startPlayerDialogue _ _ npc player => some (.start npc player)
  | .endPlayerDialogue _ npc player => some (.finish npc player)
  | _ => none

namespace GrpcClient

-- The dialogue calls whose response is outstanding or waits in the queue.
def pending (client : GrpcClient F) (ticket : Nat) : Option DialogueCall :=
  (client.calls ticket).bind fun call => call.request.dialogueCall

theorem pending_issue (client : GrpcClient F) (request : Request F) :
    (client.issue request).pending =
      Function.update client.pending client.nextTicket request.dialogueCall := by
  funext ticket
  by_cases same : ticket = client.nextTicket <;> simp [pending, issue, same]

theorem pending_fresh (client : GrpcClient F) : client.pending client.nextTicket = none := by
  simp [pending, client.unissued client.nextTicket (Nat.le_refl _)]

theorem pending_issue_other (client : GrpcClient F) (request : Request F)
    (other : request.dialogueCall = none) : (client.issue request).pending = client.pending := by
  rw [pending_issue, other, ← client.pending_fresh, Function.update_eq_self]

theorem pending_issueAll (client : GrpcClient F) (requests : List (Request F))
    (other : ∀ request ∈ requests, request.dialogueCall = none) :
    (client.issueAll requests).pending = client.pending := by
  induction requests generalizing client with
  | nil => rfl
  | cons request rest ih =>
      have here := client.pending_issue_other request (other request (by simp))
      have there := ih (client.issue request) fun r member => other r (by simp [member])
      exact there.trans here

theorem pending_remove (client : GrpcClient F) (ticket : Nat) :
    (client.remove ticket).pending = Function.update client.pending ticket none := by
  funext t
  by_cases same : t = ticket <;> simp [pending, remove, same]

theorem pending_respond (client : GrpcClient F) (ticket : Nat) (reply : Reply F) :
    (client.respond ticket reply).pending = client.pending := by
  unfold respond
  split
  next request unanswered outstanding =>
    split
    next fits =>
      split
      next =>
        funext t
        by_cases same : t = ticket <;> simp [pending, answer, same, outstanding]
      next silent =>
        have other : request.dialogueCall = none := by
          cases request <;> simp_all [Request.pushesTask, Request.dialogueCall]
        have absent : client.pending ticket = none := by simp [pending, outstanding, other]
        rw [pending_remove, ← absent, Function.update_eq_self]
    next => rfl
  next => rfl

def isOutstanding (client : GrpcClient F) (ticket : Nat) : Bool :=
  (client.calls ticket).any fun call => call.reply.isNone

theorem pending_abort (client : GrpcClient F) (ticket : Nat) :
    (client.abort ticket).pending = client.pending ∨ (client.isOutstanding ticket = true ∧
      (client.abort ticket).pending = Function.update client.pending ticket none) := by
  unfold abort
  split
  next outstanding =>
    split
    next => exact .inl (client.pending_respond _ _)
    next => exact .inr ⟨by simp [isOutstanding, outstanding], client.pending_remove _⟩
  next => exact .inl rfl

end GrpcClient

namespace World

def ledger (w : World F) : Ledger where
  nextEntity := w.reg.nextEntity
  valid := w.reg.valid
  npcId := fun e => (w.reg.identity e).map (·.npcId)
  active := fun e => (w.reg.activity e).isSome
  furniture := fun e => (w.reg.affordance e).isSome
  playerTag := w.reg.playerTag
  playerDialogue := w.reg.playerDialogue
  reason := fun e => (w.reg.busy e).map (·.reason)
  index := w.index
  mapper := w.mapper
  pending := w.grpc.pending

variable (w : World F) (e : Entity)

@[simp] theorem ledger_setLocation (loc : LocationComp F) :
    (w.setLocation e loc).ledger = w.ledger := rfl

@[simp] theorem ledger_setRelationships (cache : RelationshipCacheComp) :
    (w.setRelationships e cache).ledger = w.ledger := rfl

@[simp] theorem ledger_setEmotion (emotion : EmotionComp) :
    (w.setEmotion e emotion).ledger = w.ledger := rfl

@[simp] theorem ledger_setCooldown (cooldown : CooldownComp) :
    (w.setCooldown e cooldown).ledger = w.ledger := rfl

@[simp] theorem ledger_setVelocity (velocity : VelocityComp F) :
    (w.setVelocity e velocity).ledger = w.ledger := rfl

@[simp] theorem ledger_modifyVelocity (f : VelocityComp F → VelocityComp F) :
    (w.modifyVelocity e f).ledger = w.ledger := rfl

@[simp] theorem ledger_setPathfinding (path : PathfindingComp F) :
    (w.setPathfinding e path).ledger = w.ledger := rfl

@[simp] theorem ledger_clearPath : (w.clearPath e).ledger = w.ledger := rfl

@[simp] theorem ledger_setJob (job : JobComp F) : (w.setJob e job).ledger = w.ledger := rfl

@[simp] theorem ledger_setToil (toil : ToilComp) : (w.setToil e toil).ledger = w.ledger := rfl

@[simp] theorem ledger_setNeeds (needs : NeedsComp F) :
    (w.setNeeds e needs).ledger = w.ledger := rfl

@[simp] theorem ledger_setLastSynced (sync : LastSyncedComp) :
    (w.setLastSynced e sync).ledger = w.ledger := rfl

@[simp] theorem ledger_setHealth (health : HealthComp F) :
    (w.setHealth e health).ledger = w.ledger := rfl

@[simp] theorem ledger_setCombat (combat : CombatComp F) :
    (w.setCombat e combat).ledger = w.ledger := rfl

@[simp] theorem ledger_setAggro (aggro : AggroComp) :
    (w.setAggro e aggro).ledger = w.ledger := rfl

@[simp] theorem ledger_eraseBehaviorTree : (w.eraseBehaviorTree e).ledger = w.ledger := rfl

@[simp] theorem ledger_setActivity (text : String) :
    (w.setActivity e text).ledger = w.ledger := by
  ext x <;> simp [ledger, setActivity]
  by_cases same : x = e <;> simp [same]

@[simp] theorem ledger_setOccupiedBy (occupant : Option Entity) :
    (w.setOccupiedBy e occupant).ledger = w.ledger := by
  ext x <;> simp [ledger, setOccupiedBy]
  by_cases same : x = e <;> simp [same]

theorem ledger_create : ({ w with reg := w.reg.create } : World F).ledger = w.ledger.create := by
  ext e <;> simp [ledger, Registry.create, Registry.destroy, Ledger.create, Ledger.destroy] <;>
    by_cases same : e = w.reg.nextEntity <;> simp [same]

theorem ledger_setIdentity (identity : IdentityComp) :
    (w.setIdentity e identity).ledger =
      { w.ledger with npcId := Function.update w.ledger.npcId e (some identity.npcId) } := by
  ext x <;> simp [ledger, setIdentity]
  by_cases same : x = e <;> simp [same]

theorem ledger_setAffordance (affordance : AffordanceComp) :
    (w.setAffordance e affordance).ledger =
      { w.ledger with furniture := Function.update w.ledger.furniture e true } := by
  ext x <;> simp [ledger, setAffordance]
  by_cases same : x = e <;> simp [same]

theorem ledger_furnish (identity : IdentityComp) (loc : LocationComp F)
    (affordance : AffordanceComp) :
    (((({ w with reg := w.reg.create } : World F).setIdentity w.reg.nextEntity identity).setLocation
      w.reg.nextEntity loc).setAffordance w.reg.nextEntity affordance).ledger =
        w.ledger.furnish identity.npcId := by
  rw [ledger_setAffordance, ledger_setLocation, ledger_setIdentity, ledger_create]
  have next : w.reg.nextEntity = w.ledger.nextEntity := rfl
  simp [Ledger.furnish, Ledger.create, Ledger.destroy, Function.update_idem, next]

theorem ledger_modifyBusy (f : BusyTag F → BusyTag F) (kept : ∀ tag, (f tag).reason = tag.reason) :
    (w.modifyBusy e f).ledger = w.ledger := by
  have reasons : ((w.modifyBusy e f).ledger).reason = w.ledger.reason := by
    funext x
    by_cases same : x = e
    next => subst same; cases tag : w.reg.busy x <;> simp [ledger, modifyBusy, Registry.modifyBusy, tag, kept]
    next => simp [ledger, modifyBusy, Registry.modifyBusy, same]
  exact Ledger.ext rfl rfl rfl rfl rfl rfl rfl reasons rfl rfl rfl

@[simp] theorem ledger_eraseBusy : (w.eraseBusy e).ledger = w.ledger.release [e] := by
  have reasons : ((w.eraseBusy e).ledger).reason = (w.ledger.release [e]).reason := by
    funext x
    by_cases same : x = e <;>
      simp [ledger, eraseBusy, Registry.eraseBusy, Ledger.release, same]
  exact Ledger.ext rfl rfl rfl rfl rfl rfl rfl reasons rfl rfl rfl

theorem ledger_setBusy (tag : BusyTag F) (w' : World F) (tagged : w.setBusy e tag = some w') :
    w.ledger.valid e = true ∧ w'.grpc = w.grpc ∧
      w'.ledger = { w.ledger with
        reason := Function.update w.ledger.reason e (some tag.reason) } := by
  obtain ⟨valid, _, rfl⟩ := setBusy_cases tagged
  refine ⟨valid, rfl, ?_⟩
  have reasons : (fun x => ((w.reg.busy.set e tag) x).map (·.reason)) =
      Function.update w.ledger.reason e (some tag.reason) := by
    funext x
    by_cases same : x = e <;> simp [ledger, same]
  exact Ledger.ext rfl rfl rfl rfl rfl rfl rfl reasons rfl rfl rfl

theorem ledger_setBusy_dialogue [Scalar F] (w' : World F)
    (tagged : w.setBusy e .dialogue = some w') :
    w.ledger.valid e = true ∧ w'.grpc = w.grpc ∧ w'.ledger = w.ledger.engage [e] := by
  obtain ⟨valid, calls, stored⟩ := w.ledger_setBusy e .dialogue w' tagged
  refine ⟨valid, calls, stored.trans ?_⟩
  have reasons : Function.update w.ledger.reason e (some BusyReason.dialogue) =
      (w.ledger.engage [e]).reason := by
    funext x
    by_cases same : x = e <;> simp [Ledger.engage, same]
  exact Ledger.ext rfl rfl rfl rfl rfl rfl rfl reasons rfl rfl rfl

theorem ledger_issue (request : Request F) :
    (w.issue request).ledger =
      { w.ledger with
        pending := Function.update w.ledger.pending w.grpc.nextTicket request.dialogueCall } :=
  Ledger.ext rfl rfl rfl rfl rfl rfl rfl rfl rfl rfl (w.grpc.pending_issue request)

theorem ledger_issue_other (request : Request F) (other : request.dialogueCall = none) :
    (w.issue request).ledger = w.ledger :=
  Ledger.ext rfl rfl rfl rfl rfl rfl rfl rfl rfl rfl (w.grpc.pending_issue_other request other)

theorem ledger_issue_call (request : Request F) (call : DialogueCall)
    (same : request.dialogueCall = some call) :
    (w.issue request).ledger = w.ledger.call w.grpc.nextTicket call := by
  rw [ledger_issue, same]
  rfl

theorem ledger_fresh : w.ledger.pending w.grpc.nextTicket = none := w.grpc.pending_fresh

theorem pending_issued (ticket : Nat) (call : DialogueCall)
    (waiting : w.ledger.pending ticket = some call) : ticket < w.grpc.nextTicket := by
  by_contra unissued
  have absent := w.grpc.unissued ticket (Nat.le_of_not_lt unissued)
  simp [ledger, GrpcClient.pending, absent] at waiting

@[simp] theorem ledger_updateEntityPosition [Scalar F] (x z : F) :
    (w.updateEntityPosition e x z).ledger = w.ledger := by
  obtain ⟨grid, location, moved⟩ := w.updateEntityPosition_eq e x z
  rw [moved]
  rfl

theorem ledger_owned (invalid : w.ledger.valid e = false) :
    w.ledger.reason e = none ∧ w.ledger.playerTag e = none ∧ w.ledger.playerDialogue e = none := by
  obtain ⟨untagged, absent, silent⟩ := w.reg.owned e invalid
  exact ⟨by simp [ledger, untagged], absent, silent⟩

end World

namespace Ledger

theorem release_free (l : Ledger) (es : List Entity) (free : ∀ e ∈ es, l.reason e = none) :
    l.release es = l := by
  have reasons : (l.release es).reason = l.reason := by
    funext e
    by_cases member : e ∈ es <;> simp [release, member]
    rw [free e member]
  exact Ledger.ext rfl rfl rfl rfl rfl rfl rfl reasons rfl rfl rfl

theorem release_release (l : Ledger) (es rest : List Entity) :
    (l.release es).release rest = l.release (es ++ rest) := by
  have reasons : ((l.release es).release rest).reason = (l.release (es ++ rest)).reason := by
    funext e
    by_cases first : e ∈ es <;> by_cases second : e ∈ rest <;> simp [release, first, second]
  exact Ledger.ext rfl rfl rfl rfl rfl rfl rfl reasons rfl rfl rfl

theorem engage_engage (l : Ledger) (es rest : List Entity) :
    (l.engage es).engage rest = l.engage (es ++ rest) := by
  have reasons : ((l.engage es).engage rest).reason = (l.engage (es ++ rest)).reason := by
    funext e
    by_cases first : e ∈ es <;> by_cases second : e ∈ rest <;> simp [engage, first, second]
  exact Ledger.ext rfl rfl rfl rfl rfl rfl rfl reasons rfl rfl rfl

end Ledger

end MundusVivens
