import MundusVivens.Ticks.Handshake
import MundusVivens.Ticks.Quiet

set_option autoImplicit false

namespace MundusVivens

open Scalar Runs

variable {F : Type}

-- The arguments of a tick callback; `Request.accepts` admits no others.
def Reply.tickAnswer : Reply F → Bool × List RelationshipDelta
  | .tick success deltas => (success, deltas)
  | _ => (false, [])

namespace GrpcClient

-- The tick requests by ticket: the target tick, and the answer once there is one.
def tickRequest (client : GrpcClient F) (ticket : Nat) :
    Option (Int × Option (Bool × List RelationshipDelta)) :=
  match client.calls ticket with
  | some ⟨.processWorldTick target, reply, _⟩ => some (target, reply.map Reply.tickAnswer)
  | _ => none

variable (client : GrpcClient F)

theorem tickRequest_other (ticket : Nat) (request : Request F) (reply : Option (Reply F))
    (accepted : ∀ r ∈ reply, request.accepts r = true) (other : request.isTick = false)
    (call : client.calls ticket = some ⟨request, reply, accepted⟩) :
    client.tickRequest ticket = none := by
  unfold tickRequest
  rw [call]
  cases request <;> first | rfl | cases other

theorem tickRequest_fresh : client.tickRequest client.nextTicket = none := by
  simp [tickRequest, client.unissued client.nextTicket (Nat.le_refl _)]

theorem tickRequest_issue (request : Request F) (other : request.isTick = false) :
    (client.issue request).tickRequest = client.tickRequest := by
  funext ticket
  by_cases same : ticket = client.nextTicket
  next =>
    rw [same, client.tickRequest_fresh]
    exact tickRequest_other _ _ request none (by simp) other (by simp [issue])
  next => simp [tickRequest, issue, same]

theorem tickRequest_issueAll (requests : List (Request F))
    (other : ∀ request ∈ requests, request.isTick = false) :
    (client.issueAll requests).tickRequest = client.tickRequest := by
  induction requests generalizing client with
  | nil => rfl
  | cons request rest ih =>
      have here := client.tickRequest_issue request (other request (by simp))
      have there := ih (client.issue request) fun r member => other r (by simp [member])
      exact there.trans here

theorem tickRequest_ask (target : Int) :
    (client.issue (.processWorldTick target)).tickRequest =
      Function.update client.tickRequest client.nextTicket (some (target, none)) := by
  funext ticket
  by_cases same : ticket = client.nextTicket <;> simp [tickRequest, issue, same]

theorem tickRequest_remove (ticket : Nat) :
    (client.remove ticket).tickRequest = Function.update client.tickRequest ticket none := by
  funext t
  by_cases same : t = ticket <;> simp [tickRequest, remove, same]

def tickResponse (ticket : Nat) : Reply F → Option (Int × Bool × List RelationshipDelta)
  | .tick success deltas =>
      match client.calls ticket with
      | some ⟨.processWorldTick target, none, _⟩ => some (target, success, deltas)
      | _ => none
  | _ => none

theorem tickResponse_some (ticket : Nat) (reply : Reply F) (target : Int) (success : Bool)
    (deltas : List RelationshipDelta)
    (response : client.tickResponse ticket reply = some (target, success, deltas)) :
    reply = .tick success deltas ∧
      ∃ accepted, client.calls ticket = some ⟨.processWorldTick target, none, accepted⟩ := by
  unfold tickResponse at response
  split at response
  next =>
    split at response
    next accepted call =>
      obtain ⟨rfl, rfl, rfl⟩ := by simpa using response
      exact ⟨rfl, accepted, call⟩
    next => cases response
  next => cases response

theorem tickRequest_answered (ticket : Nat) (reply : Reply F) (target : Int) (success : Bool)
    (deltas : List RelationshipDelta)
    (response : client.tickResponse ticket reply = some (target, success, deltas)) :
    (client.respond ticket reply).tickRequest =
      Function.update client.tickRequest ticket (some (target, some (success, deltas))) := by
  obtain ⟨rfl, accepted, call⟩ := client.tickResponse_some ticket reply target success deltas response
  unfold respond
  split
  next request unanswered outstanding =>
    obtain rfl : Request.processWorldTick target = request := by
      rw [call] at outstanding
      exact (Call.mk.inj (Option.some.inj outstanding)).1
    have accepts : (Request.processWorldTick target : Request F).accepts (.tick success deltas) =
        true := rfl
    rw [dif_pos accepts]
    funext t
    by_cases same : t = ticket <;>
      simp [Request.pushesTask, tickRequest, answer, same, Reply.tickAnswer]
  next unanswerable => exact (unanswerable _ _ call).elim

theorem tickRequest_unanswered (ticket : Nat) (reply : Reply F)
    (response : client.tickResponse ticket reply = none) :
    (client.respond ticket reply).tickRequest = client.tickRequest := by
  unfold respond
  split
  next request unanswered outstanding =>
    cases timely : request.isTick with
    | true =>
        cases request <;> try cases timely
        next target =>
          cases reply with
          | tick success deltas => simp [tickResponse, outstanding] at response
          | _ => rfl
    | false =>
        have silent : client.tickRequest ticket = none :=
          client.tickRequest_other ticket request none unanswered timely outstanding
        split
        next fits =>
          split
          next =>
            funext t
            by_cases same : t = ticket
            next =>
              subst same
              rw [silent]
              exact tickRequest_other _ t request (some reply) (by simpa using fits) timely
                (by simp [answer])
            next => simp [answer, tickRequest, same]
          next => rw [tickRequest_remove, ← silent, Function.update_eq_self]
        next => rfl
  next => rfl

theorem tickRequest_abort (ticket : Nat) :
    (client.abort ticket).tickRequest = client.tickRequest ∨
      ∃ target, client.tickRequest ticket = some (target, none) ∧
        (client.abort ticket).tickRequest = Function.update client.tickRequest ticket none := by
  unfold abort
  split
  next request unanswered outstanding =>
    cases timely : request.isTick with
    | true =>
        cases request <;> try cases timely
        next target =>
          refine .inr ⟨target, by simp [tickRequest, outstanding], ?_⟩
          simp [Request.onException, tickRequest_remove]
    | false =>
        refine .inl ?_
        have silent := client.tickRequest_other ticket request none unanswered timely outstanding
        split
        next reply _ =>
          have unasked : client.tickResponse ticket reply = none := by
            unfold tickResponse
            cases reply with
            | tick success deltas =>
                rw [outstanding]
                cases request <;> first | rfl | cases timely
            | _ => rfl
          exact client.tickRequest_unanswered ticket reply unasked
        next => rw [tickRequest_remove, ← silent, Function.update_eq_self]
  next => exact .inl rfl

end GrpcClient

namespace World

def handshake (w : World F) : Handshake where
  tick := w.clock.tick
  isTickSyncPending := w.clock.isTickSyncPending
  tickSyncedReady := w.clock.tickSyncedReady
  nextTickVal := w.clock.nextTickVal
  tempRelationshipDeltas := w.clock.tempRelationshipDeltas
  request := w.grpc.tickRequest

end World

variable {w w' : World F}

theorem Quiet.handshake (quiet : Quiet w w') : w'.handshake = w.handshake := by
  obtain ⟨-, clock, requests, other, calls⟩ := quiet
  have same : w'.grpc.tickRequest = w.grpc.tickRequest := by
    rw [calls, w.grpc.tickRequest_issueAll requests other]
  simp only [World.handshake, clock, same]

variable [Scalar F]

inductive Moves (w : World F) : Event F → Handshake.Move → Prop where
  | ask (physicalTick : Nat) :
      Moves w (.requestTick physicalTick) (.ask w.grpc.nextTicket)
  | answer (ticket : Nat) (reply : Reply F) (target : Int) (success : Bool)
      (deltas : List RelationshipDelta)
      (response : w.grpc.tickResponse ticket reply = some (target, success, deltas)) :
      Moves w (.respond ticket reply) (.answer ticket target success deltas)
  | drop (ticket : Nat) : Moves w (.abort ticket) (.drop ticket)
  | complete (draws : Nat → LocationRegistry.RadiusDraw F) (ticket : Nat) (target : Int)
      (success : Bool) (deltas : List RelationshipDelta) :
      Moves w (.drainTask draws) (.complete ticket target success deltas)
  | sync : Moves w .syncTick .sync

def Event.Idle (w : World F) : Event F → Prop
  | .respond ticket reply => w.grpc.tickResponse ticket reply = none
  | .syncTick => w.clock.tickSyncedReady = false
  | _ => True

omit [Scalar F] in
theorem requestTick_moves (physicalTick : Nat) (requested : w.requestTick physicalTick = some w') :
    w'.handshake = w.handshake ∨
      (w.handshake.Enabled (.ask w.grpc.nextTicket) ∧
        w'.handshake = w.handshake.apply (.ask w.grpc.nextTicket)) := by
  unfold World.requestTick at requested
  split at requested
  next => cases requested
  split at requested
  next due =>
    obtain rfl := Option.some.inj requested
    simp only [Bool.and_eq_true, Bool.not_eq_true'] at due
    refine .inr ⟨⟨due.2, w.grpc.tickRequest_fresh⟩, ?_⟩
    exact Handshake.ext rfl rfl rfl rfl rfl (w.grpc.tickRequest_ask _)
  next => exact .inl (by rw [← Option.some.inj requested])

omit [Scalar F] in
theorem syncTick_clock (deltas : List RelationshipDelta) (w : World F) :
    Quiet w (deltas.foldl World.applyDelta w) := by
  refine Quiet.foldl _ (fun w delta => ?_) deltas w
  unfold World.applyDelta
  split <;> exact .of_same rfl rfl rfl rfl rfl

omit [Scalar F] in
theorem syncTick_moves : (w.clock.tickSyncedReady = false ∧ w.syncTick = w) ∨
    (w.handshake.Enabled .sync ∧ w.syncTick.handshake = w.handshake.apply .sync) := by
  unfold World.syncTick
  split
  next ready =>
    refine .inr ⟨ready, ?_⟩
    rw [(syncTick_clock _ _).handshake]
    rfl
  next unready => exact .inl ⟨by simpa using unready, rfl⟩

theorem drainTask_moves (draws : Nat → LocationRegistry.RadiusDraw F)
    (drained : w.drainTask draws = some w') :
    w'.handshake = w.handshake ∨ ∃ ticket target success deltas,
      w.handshake.Enabled (.complete ticket target success deltas) ∧
        w'.handshake = w.handshake.apply (.complete ticket target success deltas) := by
  unfold World.drainTask at drained
  split at drained
  next => exact .inl (by rw [← Option.some.inj drained])
  next ticket request reply rest popped =>
    obtain ⟨fits, ⟨accepted, call⟩, removed⟩ := w.grpc.pop_spec rest ticket request reply popped
    have requests : rest.tickRequest = Function.update w.grpc.tickRequest ticket none := by
      funext t
      by_cases same : t = ticket <;> simp [GrpcClient.tickRequest, removed, same]
    cases timely : request.isTick with
    | true =>
        cases request <;> try cases timely
        next target =>
          cases reply <;> try cases fits
          next success deltas =>
            refine .inr ⟨ticket, target, success, deltas, ?_, ?_⟩
            · simp [Handshake.Enabled, World.handshake, GrpcClient.tickRequest, call,
                Reply.tickAnswer]
            · simp only [World.runTask, Option.some.injEq] at drained
              rw [← drained]
              cases success <;>
                exact Handshake.ext rfl rfl rfl rfl rfl requests
    | false =>
        have silent : w.grpc.tickRequest ticket = none :=
          w.grpc.tickRequest_other ticket request (some reply) accepted timely call
        have quiet := World.runTask_quiet _ w' draws request reply timely drained
        refine .inl (quiet.handshake.trans ?_)
        refine Handshake.ext rfl rfl rfl rfl rfl ?_
        change rest.tickRequest = _
        rw [requests, ← silent, Function.update_eq_self]
        rfl

theorem step_moves (event : Event F) (stepped : step event w = some w') :
    (event.Idle w ∧ w'.handshake = w.handshake) ∨
      ∃ move, Moves w event move ∧ w.handshake.Enabled move ∧
        w'.handshake = w.handshake.apply move := by
  by_cases timely : event.isTimely = true
  next =>
    cases event with
    | respond ticket reply =>
        obtain rfl := Option.some.inj stepped
        cases response : w.grpc.tickResponse ticket reply with
        | none =>
            have same := w.grpc.tickRequest_unanswered ticket reply response
            exact .inl ⟨response, Handshake.ext rfl rfl rfl rfl rfl same⟩
        | some answer =>
            obtain ⟨target, success, deltas⟩ := answer
            have answered :=
              w.grpc.tickRequest_answered ticket reply target success deltas response
            obtain ⟨-, accepted, call⟩ :=
              w.grpc.tickResponse_some ticket reply target success deltas response
            refine .inr ⟨_, .answer ticket reply target success deltas response, ?_,
              Handshake.ext rfl rfl rfl rfl rfl answered⟩
            simp [Handshake.Enabled, World.handshake, GrpcClient.tickRequest, call]
    | abort ticket =>
        obtain rfl := Option.some.inj stepped
        rcases w.grpc.tickRequest_abort ticket with same | ⟨target, asked, dropped⟩
        · exact .inl ⟨trivial, Handshake.ext rfl rfl rfl rfl rfl same⟩
        · exact .inr ⟨_, .drop ticket, ⟨target, asked⟩,
            Handshake.ext rfl rfl rfl rfl rfl dropped⟩
    | drainTask draws =>
        rcases drainTask_moves draws stepped with
          same | ⟨ticket, target, success, deltas, enabled, completed⟩
        · exact .inl ⟨trivial, same⟩
        · exact .inr ⟨_, .complete draws ticket target success deltas, enabled, completed⟩
    | syncTick =>
        obtain rfl := Option.some.inj stepped
        rcases (syncTick_moves : (w.clock.tickSyncedReady = false ∧ _) ∨ _) with ⟨unready, same⟩ | ⟨enabled, synced⟩
        · exact .inl ⟨unready, by rw [same]⟩
        · exact .inr ⟨_, .sync, enabled, synced⟩
    | dailyReset =>
        obtain rfl := Option.some.inj stepped
        refine .inl ⟨trivial, ?_⟩
        unfold World.dailyReset
        split <;> rfl
    | requestTick physicalTick =>
        rcases requestTick_moves physicalTick stepped with same | ⟨enabled, asked⟩
        · exact .inl ⟨trivial, same⟩
        · exact .inr ⟨_, .ask physicalTick, enabled, asked⟩
    | _ => cases timely
  next =>
    have other : event.isTimely = false := by simpa using timely
    refine .inl ⟨?_, (step_quiet event other stepped).handshake⟩
    cases event <;> trivial

end MundusVivens
