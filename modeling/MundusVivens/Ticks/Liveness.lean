import MundusVivens.Ticks.Consumption

set_option autoImplicit false

/-!
# The handshake stays alive

A pending flag belongs to a request whose answer is outstanding or waits in the
queue, as long as no coroutine drops a tick request.
-/

namespace MundusVivens

open Scalar Runs

variable {F : Type}

namespace GrpcClient

def Queued (client : GrpcClient F) : Prop :=
  ∀ ticket call, client.calls ticket = some call → call.reply.isSome → ticket ∈ client.queue

variable {client : GrpcClient F}

theorem Queued.issue (queued : client.Queued) (request : Request F) :
    (client.issue request).Queued := by
  intro ticket call present replied
  by_cases same : ticket = client.nextTicket
  next =>
    obtain rfl : (⟨request, none, by simp⟩ : Call F) = call := by
      simpa [GrpcClient.issue, same] using present
    cases replied
  next => exact queued ticket call (by simpa [GrpcClient.issue, same] using present) replied

theorem Queued.issueAll (queued : client.Queued) (requests : List (Request F)) :
    (client.issueAll requests).Queued := by
  induction requests generalizing client with
  | nil => exact queued
  | cons request rest ih => exact ih (queued.issue request)

theorem Queued.remove (queued : client.Queued) (ticket : Nat) : (client.remove ticket).Queued := by
  intro other call present replied
  by_cases same : other = ticket
  next => simp [GrpcClient.remove, same] at present
  next => exact queued other call (by simpa [GrpcClient.remove, same] using present) replied

theorem Queued.respond (queued : client.Queued) (ticket : Nat) (reply : Reply F) :
    (client.respond ticket reply).Queued := by
  unfold GrpcClient.respond
  split
  next request unanswered outstanding =>
    split
    next fits =>
      split
      next =>
        intro other call present replied
        by_cases same : other = ticket
        next => simp [answer, same]
        next =>
          have earlier := queued other call (by simpa [answer, same] using present) replied
          exact List.mem_append_left _ earlier
      next => exact queued.remove ticket
    next => exact queued
  next => exact queued

theorem Queued.abort (queued : client.Queued) (ticket : Nat) : (client.abort ticket).Queued := by
  unfold GrpcClient.abort
  split
  next =>
    split
    next => exact queued.respond ticket _
    next => exact queued.remove ticket
  next => exact queued

theorem Queued.pop (queued : client.Queued) (ticket : Nat) (request : Request F) (reply : Reply F)
    (rest : GrpcClient F) (popped : client.pop = some (ticket, request, reply, rest)) :
    rest.Queued := by
  unfold GrpcClient.pop at popped
  split at popped
  next => cases popped
  next head tail waiting =>
    split at popped
    next r answer accepted call =>
      obtain ⟨rfl, rfl, rfl, rfl⟩ := by simpa using popped
      intro other left present replied
      have here := queued.remove head other left present replied
      simp only [GrpcClient.remove, waiting, List.mem_cons] at here
      rcases here with rfl | later
      · simp [GrpcClient.remove] at present
      · exact later
    next => cases popped

end GrpcClient

theorem Quiet.queued {w w' : World F} (quiet : Quiet w w') (queued : w.grpc.Queued) :
    w'.grpc.Queued := by
  obtain ⟨-, -, requests, -, calls⟩ := quiet
  rw [calls]
  exact queued.issueAll requests

-- The handler of the tick request waits in the result queue.
def World.TickHandlerWaits (w : World F) (ticket : Nat) : Prop :=
  ticket ∈ w.grpc.queue ∧ ∃ target reply accepted,
    w.grpc.calls ticket = some ⟨.processWorldTick target, some reply, accepted⟩

-- The previous request has not ended.
def World.TickUnderWay (w : World F) : Prop :=
  ∃ ticket, w.AsksTick ticket ∨ w.TickHandlerWaits ticket

structure World.TickAlive (w : World F) : Prop where
  pending : w.clock.isTickSyncPending = true → w.TickUnderWay
  next : ∀ physicalTick : Nat, w.settings.ticksPerGameHour ≠ 0 →
    (physicalTick : Int) % w.settings.ticksPerGameHour = 0 → ¬w.TickUnderWay →
      ∃ w', w.requestTick physicalTick = some w' ∧ w'.AsksTick w.grpc.nextTicket

/-- No tick request leaves through the `catch` blocks of its coroutine. -/
def keepsTickRequests (w : World F) : Event F → Bool
  | .abort ticket => (w.grpc.tickRequest ticket).all fun request => request.2.isSome
  | _ => true

-- A pending flag has a request.
def Handshake.Live (h : Handshake) : Prop :=
  h.isTickSyncPending = true → ∃ ticket, (h.request ticket).isSome

theorem Handshake.Live.apply {h : Handshake} (live : h.Live) (move : Handshake.Move)
    (kept : ∀ ticket, move ≠ .drop ticket) : (h.apply move).Live := by
  intro pending
  cases move with
  | ask ticket => exact ⟨ticket, by simp [Handshake.apply]⟩
  | answer ticket target success deltas => exact ⟨ticket, by simp [Handshake.apply]⟩
  | drop ticket => exact absurd rfl (kept ticket)
  | complete ticket target success deltas => simp [Handshake.apply] at pending
  | sync => exact live pending

theorem World.TickUnderWay.of_request {w : World F} (queued : w.grpc.Queued) (ticket : Nat)
    (asked : (w.grpc.tickRequest ticket).isSome) : w.TickUnderWay := by
  unfold GrpcClient.tickRequest at asked
  split at asked
  next target reply accepted call =>
    cases reply with
    | none => exact ⟨ticket, .inl ⟨target, accepted, call⟩⟩
    | some answer =>
        exact ⟨ticket, .inr ⟨queued ticket _ call rfl, target, answer, accepted, call⟩⟩
  next => cases asked

theorem World.TickAlive.of_live {w : World F} (queued : w.grpc.Queued) (live : w.handshake.Live) :
    w.TickAlive := by
  have pending : w.clock.isTickSyncPending = true → w.TickUnderWay := fun waiting => by
    obtain ⟨ticket, asked⟩ := live waiting
    exact .of_request queued ticket asked
  refine ⟨pending, fun physicalTick divisor due served => ?_⟩
  have idle : w.clock.isTickSyncPending = false := by
    by_contra waiting
    exact served (pending (by simpa using waiting))
  refine ⟨_, by simp only [requestTick, if_neg divisor, due, idle]; rfl, ?_⟩
  exact ⟨w.clock.tick + 1, by simp, by simp [issue, GrpcClient.issue]⟩

variable [Scalar F] {w w' : World F}

theorem step_queued (event : Event F) (queued : w.grpc.Queued)
    (stepped : step event w = some w') : w'.grpc.Queued := by
  by_cases timely : event.isTimely = true
  next =>
    cases event with
    | respond ticket reply => exact Option.some.inj stepped ▸ queued.respond ticket reply
    | abort ticket => exact Option.some.inj stepped ▸ queued.abort ticket
    | drainTask draws =>
        change w.drainTask draws = some w' at stepped
        unfold World.drainTask at stepped
        split at stepped
        next => exact Option.some.inj stepped ▸ queued
        next ticket request reply rest popped =>
          have left : rest.Queued := queued.pop ticket request reply rest popped
          obtain ⟨fits, -, -⟩ := w.grpc.pop_spec rest ticket request reply popped
          cases tick : request.isTick with
          | true =>
              cases request <;> try cases tick
              cases reply <;> try cases fits
              exact Option.some.inj stepped ▸ left
          | false => exact (World.runTask_quiet _ w' draws request reply tick stepped).queued left
    | syncTick =>
        obtain rfl := Option.some.inj stepped
        unfold World.syncTick
        split
        next => exact (syncTick_clock _ _).queued queued
        next => exact queued
    | dailyReset =>
        obtain rfl := Option.some.inj stepped
        unfold World.dailyReset
        split <;> exact queued
    | requestTick physicalTick =>
        change w.requestTick physicalTick = some w' at stepped
        unfold World.requestTick at stepped
        split at stepped
        next => cases stepped
        split at stepped
        next => exact Option.some.inj stepped ▸ queued.issue _
        next => exact Option.some.inj stepped ▸ queued
    | _ => cases timely
  next => exact (step_quiet event (by simpa using timely) stepped).queued queued

theorem step_live (event : Event F) (live : w.handshake.Live)
    (kept : keepsTickRequests w event = true) (stepped : step event w = some w') :
    w'.handshake.Live := by
  rcases step_moves event stepped with ⟨-, same⟩ | ⟨move, moves, enabled, moved⟩
  · rw [same]
    exact live
  · rw [moved]
    refine live.apply move fun ticket dropped => ?_
    subst dropped
    obtain ⟨target, outstanding⟩ := enabled
    have request : w.grpc.tickRequest ticket = some (target, none) := outstanding
    cases moves
    simp [keepsTickRequests, request] at kept

/-- Unless a coroutine drops a tick request, the next tick can be asked for once the previous
request has ended. -/
theorem ticks_alive (data : WorldBootstrapData F) (settings : SimulationSettings F)
    (obstacles : Option (List Obstacle)) (draws : Nat → NeedsDraw F) (start last : World F)
    (past : List (Transition (World F) (Event F)))
    (booted : bootstrap data settings obstacles draws = some start)
    (run : ServerRun start past last)
    (guarded : Guarded (fun w event => keepsTickRequests w event = true) past) :
    last.TickAlive := by
  have initial := bootstrap_handshake data settings obstacles draws start booted
  have unasked : start.grpc.Queued ∧ start.handshake.Live := by
    refine ⟨?_, by simp [initial, Handshake.Live]⟩
    simp [bootstrap_silent booted, GrpcClient.Queued, GrpcClient.empty]
  let both : World F → Prop := fun w => w.grpc.Queued ∧ w.handshake.Live
  have kept : ∀ w event w', both w → keepsTickRequests w event = true →
      step event w = some w' → both w' :=
    fun _ event _ before allowed stepped =>
      ⟨step_queued event before.1 stepped, step_live event before.2 allowed stepped⟩
  have reached : both last := run.invariant unasked kept guarded
  exact .of_live reached.1 reached.2

theorem ticks_alive_hamlet : ∃ past last, ServerRun hamlet past last ∧
    past.reverse.map (·.event) = hamletTicks ∧ last.TickAlive := by
  have passed : (followWhile step keepsTickRequests hamletTicks hamlet).any (fun _ => true) =
      true := by decide +kernel
  obtain ⟨past, last, run, guarded, events, -⟩ := Run.exists_of_check _ _ _ passed
  exact ⟨past, last, run, events, ticks_alive hamletData ⟨2, 60⟩ (some []) (fun _ => ⟨100, 100⟩)
    hamlet last past hamlet_boots run guarded⟩

-- The coroutine of the first request leaves through its `catch` block: no request is under way, and
-- none will ever be issued again.
theorem tick_request_dropped : ∃ past last, ServerRun hamlet past last ∧
    past.reverse.map (·.event) = [.requestTick 0, .abort 0] ∧ ¬last.TickAlive := by
  have passed : (followWhile step (fun _ _ => true) [.requestTick 0, .abort 0] hamlet).any
      (fun w => w.clock.isTickSyncPending && decide (w.grpc.nextTicket = 1) &&
        (w.grpc.calls 0).isNone) = true := by decide +kernel
  obtain ⟨past, last, run, -, events, stuck⟩ := Run.exists_of_check _ _ _ passed
  simp only [Bool.and_eq_true, decide_eq_true_eq, Option.isNone_iff_eq_none] at stuck
  obtain ⟨⟨pending, issued⟩, removed⟩ := stuck
  refine ⟨past, last, run, events, fun alive => ?_⟩
  have empty (ticket : Nat) : last.grpc.calls ticket = none := by
    cases ticket with
    | zero => exact removed
    | succ n => exact last.grpc.unissued _ (by omega)
  obtain ⟨ticket, ⟨target, accepted, call⟩ | ⟨-, target, reply, accepted, call⟩⟩ :=
    alive.pending pending
  · simp [empty] at call
  · simp [empty] at call

end MundusVivens
