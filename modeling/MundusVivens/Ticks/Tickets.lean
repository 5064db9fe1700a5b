import MundusVivens.Ticks.Simulation

set_option autoImplicit false

namespace MundusVivens

open Scalar Runs

variable {F : Type}

namespace GrpcClient

theorem respond_nextTicket (client : GrpcClient F) (ticket : Nat) (reply : Reply F) :
    (client.respond ticket reply).nextTicket = client.nextTicket := by
  unfold respond
  repeat' split
  all_goals rfl

theorem abort_nextTicket (client : GrpcClient F) (ticket : Nat) :
    (client.abort ticket).nextTicket = client.nextTicket := by
  unfold abort
  split
  next =>
    split
    next => exact client.respond_nextTicket ticket _
    next => rfl
  next => rfl

-- A call that is known later was known before with the same request, or is new.
structure Follows (client next : GrpcClient F) : Prop where
  issued : client.nextTicket ≤ next.nextTicket
  requests : ∀ ticket call, next.calls ticket = some call →
    (∃ before, client.calls ticket = some before ∧ call.request = before.request) ∨
      client.nextTicket ≤ ticket

namespace Follows

variable {client next last : GrpcClient F}

theorem refl (client : GrpcClient F) : Follows client client :=
  ⟨Nat.le_refl _, fun _ call known => .inl ⟨call, known, rfl⟩⟩

theorem trans (first : Follows client next) (second : Follows next last) : Follows client last := by
  refine ⟨Nat.le_trans first.issued second.issued, fun ticket call known => ?_⟩
  rcases second.requests ticket call known with ⟨middle, before, same⟩ | late
  · rcases first.requests ticket middle before with ⟨earliest, present, same'⟩ | late
    · exact .inl ⟨earliest, present, same.trans same'⟩
    · exact .inr late
  · exact .inr (Nat.le_trans first.issued late)

theorem issue (client : GrpcClient F) (request : Request F) :
    Follows client (client.issue request) := by
  refine ⟨Nat.le_succ _, fun ticket call known => ?_⟩
  by_cases same : ticket = client.nextTicket
  next => exact .inr (Nat.le_of_eq same.symm)
  next => exact .inl ⟨call, by simpa [GrpcClient.issue, same] using known, rfl⟩

theorem issueAll (client : GrpcClient F) (requests : List (Request F)) :
    Follows client (client.issueAll requests) := by
  induction requests generalizing client with
  | nil => exact .refl client
  | cons request rest ih => exact (issue client request).trans (ih _)

theorem remove (client : GrpcClient F) (ticket : Nat) : Follows client (client.remove ticket) := by
  refine ⟨Nat.le_refl _, fun other call known => ?_⟩
  by_cases same : other = ticket
  next => simp [GrpcClient.remove, same] at known
  next => exact .inl ⟨call, by simpa [GrpcClient.remove, same] using known, rfl⟩

theorem respond (client : GrpcClient F) (ticket : Nat) (reply : Reply F) :
    Follows client (client.respond ticket reply) := by
  unfold GrpcClient.respond
  split
  next request unanswered outstanding =>
    split
    next fits =>
      split
      next =>
        refine ⟨Nat.le_refl _, fun other call known => ?_⟩
        by_cases same : other = ticket
        next =>
          obtain rfl : (⟨request, some reply, by simpa using fits⟩ : Call F) = call := by
            simpa [answer, same] using known
          exact .inl ⟨⟨request, none, unanswered⟩, same ▸ outstanding, rfl⟩
        next => exact .inl ⟨call, by simpa [answer, same] using known, rfl⟩
      next => exact remove client ticket
    next => exact refl client
  next => exact refl client

theorem abort (client : GrpcClient F) (ticket : Nat) : Follows client (client.abort ticket) := by
  unfold GrpcClient.abort
  split
  next =>
    split
    next => exact respond client ticket _
    next => exact remove client ticket
  next => exact refl client

theorem pop (ticket : Nat) (request : Request F) (reply : Reply F)
    (popped : client.pop = some (ticket, request, reply, next)) : Follows client next := by
  unfold GrpcClient.pop at popped
  split at popped
  next => cases popped
  next head tail waiting =>
    split at popped
    next r answer accepted call =>
      obtain ⟨rfl, rfl, rfl, rfl⟩ := by simpa using popped
      exact ⟨Nat.le_refl _, (remove client head).requests⟩
    next => cases popped

end Follows

end GrpcClient

variable [Scalar F] {w w' : World F}

omit [Scalar F] in
theorem Quiet.follows (quiet : Quiet w w') : w.grpc.Follows w'.grpc := by
  obtain ⟨-, -, requests, -, calls⟩ := quiet
  rw [calls]
  exact .issueAll _ requests

theorem step_follows (event : Event F) (stepped : step event w = some w') :
    w.grpc.Follows w'.grpc := by
  by_cases timely : event.isTimely = true
  next =>
    cases event with
    | respond ticket reply => exact Option.some.inj stepped ▸ .respond w.grpc ticket reply
    | abort ticket => exact Option.some.inj stepped ▸ .abort w.grpc ticket
    | drainTask draws =>
        rcases w.drainTask_cases w' draws stepped with
          rfl | ⟨ticket, request, reply, rest, popped, ran⟩
        · exact .refl _
        · have left : w.grpc.Follows rest := .pop ticket request reply popped
          obtain ⟨fits, -, -⟩ := w.grpc.pop_spec rest ticket request reply popped
          cases tick : request.isTick with
          | true =>
              cases request <;> try cases tick
              cases reply <;> try cases fits
              exact Option.some.inj ran ▸ left
          | false => exact left.trans (World.runTask_quiet _ w' draws request reply tick ran).follows
    | syncTick =>
        obtain rfl := Option.some.inj stepped
        unfold World.syncTick
        split
        next =>
          let synced : World F :=
            { w with clock := { w.clock with tick := w.clock.nextTickVal, tickSyncedReady := false } }
          exact (syncTick_clock w.clock.tempRelationshipDeltas synced).follows
        next => exact .refl w.grpc
    | dailyReset =>
        obtain rfl := Option.some.inj stepped
        unfold World.dailyReset
        split <;> exact .refl w.grpc
    | requestTick physicalTick =>
        change w.requestTick physicalTick = some w' at stepped
        unfold World.requestTick at stepped
        split at stepped
        next => cases stepped
        split at stepped
        next => exact Option.some.inj stepped ▸ .issue w.grpc _
        next => exact Option.some.inj stepped ▸ .refl w.grpc
    | _ => cases timely
  next => exact (step_quiet event (by simpa using timely) stepped).follows

end MundusVivens
