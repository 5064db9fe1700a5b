import MundusVivens.Furniture.Npcs
import MundusVivens.Ticks.Tickets

set_option autoImplicit false

/-!
# The mirror of the statuses

`LastSyncedComp` is to mirror what the AI server holds of each NPC. It is written by
acknowledgements only, so it follows the server as long as these come for every batch that was
applied, in the order of the batches.
-/

namespace MundusVivens

open Scalar Runs

variable {F : Type}

def AgentStatusUpdate.status (update : AgentStatusUpdate F) : LastSyncedComp :=
  ⟨update.location, update.emotion, update.activity⟩

abbrev StatusBatch (F : Type) := List (AgentStatusUpdate F × Entity)

def Request.batch : Request F → Option (StatusBatch F)
  | .batchUpdateStatus updates targets => some (updates.zip targets)
  | _ => none

def GrpcClient.batch (client : GrpcClient F) (ticket : Nat) : Option (StatusBatch F) :=
  (client.calls ticket).bind (·.request.batch)

/-- The server and the AI server it reports to. -/
structure Mirror (F : Type) where
  world : World F
  -- Every batch ever sent.
  sent : Nat → Option (StatusBatch F)
  -- The tickets of the batches that the AI server has applied, newest first.
  applied : List Nat
  -- The tickets of the batches whose success was handled, newest first.
  acknowledged : List Nat
  -- What the AI server last applied for each agent.
  statuses : UInt32 → Option LastSyncedComp

inductive MirrorEvent (F : Type) where
  | game (event : Event F)
  | apply (ticket : Nat)

namespace Mirror

/-- A batch is only reported as a success after it was applied. -/
def denies (s : Mirror F) : Event F → Bool
  | .respond ticket (.outcome true) =>
      (s.world.grpc.batch ticket).isSome && !s.applied.contains ticket
  | _ => false

-- The batch whose success the event handles.
def acknowledges (s : Mirror F) : Event F → Option Nat
  | .drainTask _ =>
      match s.world.grpc.pop with
      | some (ticket, .batchUpdateStatus _ _, .outcome true, _) => some ticket
      | _ => none
  | _ => none

-- A batch is applied as a whole, after those sent before it.
def applyBatch (statuses : UInt32 → Option LastSyncedComp) (batch : StatusBatch F) :
    UInt32 → Option LastSyncedComp :=
  batch.foldl
    (fun statuses entry => Function.update statuses entry.1.agentId (some entry.1.status)) statuses

variable [Scalar F]

protected def step : MirrorEvent F → Mirror F → Option (Mirror F)
  | .game event, s =>
      if s.denies event then none
      else
        (step event s.world).map fun w =>
          { s with
            world := w
            sent := fun ticket => (w.grpc.batch ticket).or (s.sent ticket)
            acknowledged := (s.acknowledges event).toList ++ s.acknowledged }
  | .apply ticket, s =>
      match s.sent ticket with
      | none => none
      | some batch =>
          if s.applied.all fun earlier => decide (earlier < ticket) then
            some
              { s with
                applied := ticket :: s.applied, statuses := applyBatch s.statuses batch }
          else none

def initial (start : World F) (statuses : UInt32 → Option LastSyncedComp) : Mirror F :=
  ⟨start, fun _ => none, [], [], statuses⟩

/-- Whenever no batch is under way, an NPC that needs no update is held as it is. -/
def Mirrors (s : Mirror F) : Prop :=
  (∀ ticket, s.world.grpc.batch ticket = none) →
    ∀ e identity loc emotion activity, s.world.isNpc e = true →
      s.world.reg.identity e = some identity → s.world.reg.location e = some loc →
      s.world.reg.emotion e = some emotion → s.world.reg.activity e = some activity →
      s.world.statusUpdate e = none →
      s.statuses identity.npcId =
        some ⟨loc.locationName, emotion.currentEmotion, activity.currentActivity⟩

def unanswered (s : Mirror F) (ticket : Nat) : Bool :=
  (s.world.grpc.calls ticket).any fun call => call.request.batch.isSome && call.reply.isNone

def share (s : Mirror F) (ticket other : Nat) : Bool :=
  (s.sent ticket).any fun batch => (s.sent other).any fun batch' =>
    batch.any fun entry => batch'.any fun entry' => decide (entry.2 = entry'.2)

def distinguishes (w : World F) : Bool :=
  (List.range w.reg.nextEntity).all fun x => (List.range w.reg.nextEntity).all fun n =>
    (w.statusUpdate x).isNone || !w.isNpc n || decide (x = n) ||
      decide ((w.reg.identity x).map (·.npcId) ≠ (w.reg.identity n).map (·.npcId))

/-- A batch that fails is not applied, neither before nor later; successes are handled in the order
in which the batches of an entity were sent; and the npc ids tell the NPCs apart. -/
def orderly (s : Mirror F) : MirrorEvent F → Bool
  | .apply ticket => s.unanswered ticket
  | .game (.respond ticket (.outcome false)) => !s.applied.contains ticket
  | .game (.abort ticket) => !s.applied.contains ticket
  | .game (.drainTask draws) =>
      match s.acknowledges (.drainTask draws) with
      | some ticket =>
          s.acknowledged.all fun later => decide (later ≤ ticket) || !s.share later ticket
      | none => true
  | .game (.networkSync _) => distinguishes s.world
  | _ => true

end Mirror

def statusAfter (e : Entity) (status : Option LastSyncedComp) (batch : StatusBatch F) :
    Option LastSyncedComp :=
  batch.foldl (fun status entry => if entry.2 = e then some entry.1.status else status) status

def Names (batch : StatusBatch F) (e : Entity) : Prop := ∃ entry ∈ batch, entry.2 = e

section

variable {e : Entity} {status : Option LastSyncedComp} {batch : StatusBatch F}

theorem statusAfter_unnamed (unnamed : ¬ Names batch e) : statusAfter e status batch = status := by
  unfold statusAfter
  induction batch with
  | nil => rfl
  | cons entry rest ih =>
      have other : entry.2 ≠ e := fun same => unnamed ⟨entry, List.mem_cons_self, same⟩
      rw [List.foldl_cons, if_neg other]
      refine ih ?_
      rintro ⟨later, member, same⟩
      exact unnamed ⟨later, List.mem_cons_of_mem _ member, same⟩

theorem statusAfter_named (before : Option LastSyncedComp) (named : Names batch e) :
    statusAfter e status batch = statusAfter e before batch := by
  unfold statusAfter
  induction batch generalizing status before with
  | nil => obtain ⟨_, member, -⟩ := named; cases member
  | cons entry rest ih =>
      rw [List.foldl_cons, List.foldl_cons]
      by_cases here : entry.2 = e
      next => rw [if_pos here, if_pos here]
      next =>
        rw [if_neg here, if_neg here]
        obtain ⟨later, member, same⟩ := named
        rcases List.mem_cons.mp member with rfl | member
        · exact absurd same here
        · exact ih before ⟨later, member, same⟩

theorem statusAfter_isSome (batch : StatusBatch F) (some : status.isSome = true) :
    (statusAfter e status batch).isSome = true := by
  unfold statusAfter
  induction batch generalizing status with
  | nil => exact some
  | cons entry rest ih =>
      refine ih ?_
      dsimp only
      split
      next => rfl
      next => exact some

theorem Mirror.applyBatch_status (id : UInt32) (statuses : UInt32 → Option LastSyncedComp)
    (paired : ∀ entry ∈ batch, entry.1.agentId = id ↔ entry.2 = e) :
    applyBatch statuses batch id = statusAfter e (statuses id) batch := by
  unfold applyBatch statusAfter
  induction batch generalizing statuses with
  | nil => rfl
  | cons entry rest ih =>
      rw [List.foldl_cons, List.foldl_cons,
        ih _ fun later member => paired later (List.mem_cons_of_mem _ member)]
      have own := paired entry List.mem_cons_self
      by_cases same : entry.2 = e
      next => rw [if_pos same, own.mpr same, Function.update_self]
      next =>
        have other : id ≠ entry.1.agentId := fun here => same (own.mp here.symm)
        rw [if_neg same, Function.update_of_ne other]

theorem World.applyBatch_lastSynced (w : World F) (updates : List (AgentStatusUpdate F))
    (targets : List Entity) (valid : w.reg.valid e = true)
    (synced : (w.reg.lastSynced e).isSome = true) :
    (w.applyBatch updates targets true).reg.lastSynced e =
      statusAfter e (w.reg.lastSynced e) (updates.zip targets) := by
  unfold World.applyBatch statusAfter
  rw [if_pos rfl]
  induction updates.zip targets generalizing w with
  | nil => rfl
  | cons entry rest ih =>
      rw [List.foldl_cons, List.foldl_cons]
      obtain ⟨update, x⟩ := entry
      dsimp only
      split
      next alive =>
        have kept : ((w.setLastSynced x update.status).reg.lastSynced e).isSome = true := by
          by_cases same : e = x <;> simp [setLastSynced, same, synced]
        have next := ih (w.setLastSynced x update.status) valid kept
        refine next.trans (congrArg (List.foldl _ · rest) ?_)
        by_cases same : x = e
        next => simp [setLastSynced, same]
        next => simp [setLastSynced, same, Ne.symm same]
      next dead =>
        have other : x ≠ e := by
          rintro rfl
          simp [valid, synced] at dead
        rw [if_neg other]
        exact ih w valid synced

end

namespace GrpcClient

variable {client next : GrpcClient F} {ticket : Nat} {batch : StatusBatch F}

theorem batch_some :
    client.batch ticket = some batch ↔
      ∃ call, client.calls ticket = some call ∧ call.request.batch = some batch := by
  simp [GrpcClient.batch, Option.bind_eq_some_iff]

theorem batch_issued (under : client.batch ticket = some batch) : ticket < client.nextTicket := by
  by_contra late
  obtain ⟨call, known, -⟩ := batch_some.mp under
  rw [client.unissued ticket (Nat.le_of_not_lt late)] at known
  cases known

theorem callsTo_some {method : Method} {call : Call F} :
    client.callsTo method ticket = some call ↔
      client.calls ticket = some call ∧ call.request.method = method := by
  rw [callsTo, Option.filter_eq_some_iff, decide_eq_true_iff]

theorem method_of_batch {request : Request F} (some : request.batch.isSome = true) :
    request.method = .batchUpdateStatus := by
  cases request <;> first | rfl | cases some

theorem batch_of_same (same : next.callsTo .batchUpdateStatus = client.callsTo .batchUpdateStatus)
    (under : next.batch ticket = some batch) : client.batch ticket = some batch := by
  obtain ⟨call, known, batched⟩ := batch_some.mp under
  have method := method_of_batch (Option.isSome_iff_exists.mpr ⟨batch, batched⟩)
  exact batch_some.mpr ⟨call, known_of_callsTo (method ▸ same) known, batched⟩

theorem respond_batch (client : GrpcClient F) (ticket : Nat) (reply : Reply F) (t : Nat) :
    (client.respond ticket reply).batch t = client.batch t := by
  unfold respond
  split
  next request unanswered outstanding =>
    split
    next =>
      by_cases here : t = ticket
      next =>
        subst here
        split
        next => simp [GrpcClient.batch, answer, outstanding]
        next quiet =>
          have other : request.batch = none := by
            cases request <;> first | rfl | exact absurd rfl quiet
          simp [GrpcClient.batch, remove, outstanding, other]
      next => split <;> simp [GrpcClient.batch, answer, remove, here]
    next => rfl
  next => rfl

theorem respond_reply (client : GrpcClient F) (ticket : Nat) (reply : Reply F) (t : Nat)
    (call : Call F) (known : (client.respond ticket reply).calls t = some call) :
    client.calls t = some call ∨ t = ticket ∧ call.reply = some reply := by
  unfold respond at known
  split at known
  next request unanswered outstanding =>
    split at known
    next =>
      by_cases here : t = ticket
      next =>
        split at known
        next =>
          refine .inr ⟨here, ?_⟩
          simp only [answer, here, Function.update_self] at known
          rw [← Option.some.inj known]
        next => simp [remove, here] at known
      next => split at known <;> exact .inl (by simpa [answer, remove, here] using known)
    next => exact .inl known
  next => exact .inl known

theorem abort_known (client : GrpcClient F) (ticket t : Nat) (call : Call F)
    (batched : call.request.batch.isSome = true)
    (known : (client.abort ticket).calls t = some call) : client.calls t = some call := by
  unfold abort at known
  split at known
  next request unanswered outstanding =>
    split at known
    next reply excused =>
      rcases client.respond_reply ticket reply t call known with old | ⟨here, -⟩
      · exact old
      · obtain ⟨batch, batched⟩ := Option.isSome_iff_exists.mp batched
        have before := (client.respond_batch ticket reply t).symm.trans
          (batch_some.mpr ⟨call, known, batched⟩)
        obtain ⟨own, outstanding', same⟩ := batch_some.mp before
        rw [here, outstanding] at outstanding'
        obtain rfl := Option.some.inj outstanding'
        cases request <;> first | cases (same : none = some batch) | cases excused
    next =>
      by_cases here : t = ticket
      next => simp [remove, here] at known
      next => simpa [remove, here] using known
  next => exact known

theorem abort_other (client : GrpcClient F) (ticket t : Nat) (other : t ≠ ticket) :
    (client.abort ticket).batch t = client.batch t := by
  unfold abort
  split
  next =>
    split
    next reply _ => exact client.respond_batch ticket reply t
    next => simp [GrpcClient.batch, remove, other]
  next => rfl

end GrpcClient

section

variable {w w' : World F}

theorem World.networkSync_call (rank : Entity → Nat) (ticket : Nat) (call : Call F)
    (batch : StatusBatch F) (batched : call.request.batch = some batch)
    (known : (w.networkSync rank).grpc.calls ticket = some call) :
    w.grpc.calls ticket = some call ∨ ticket = w.grpc.nextTicket ∧ call.reply = none ∧
      ∀ entry ∈ batch, entry.2 < w.reg.nextEntity ∧ w.statusUpdate entry.2 = some entry.1 := by
  unfold networkSync at known
  dsimp only at known
  split at known
  next => exact .inl known
  next =>
    by_cases here : ticket = w.grpc.nextTicket
    next =>
      simp only [issue, GrpcClient.issue, here, Function.update_self] at known
      obtain rfl := Option.some.inj known
      refine .inr ⟨here, rfl, fun entry member => ?_⟩
      simp only [Request.batch, Option.some.injEq] at batched
      rw [← batched, List.zip_map', List.map_id'] at member
      obtain ⟨x, viewed, made⟩ := List.mem_filterMap.mp member
      obtain ⟨update, needed, rfl⟩ := Option.map_eq_some_iff.mp made
      simp only [view, List.mem_insertionSort, List.mem_filter, List.mem_range] at viewed
      exact ⟨viewed.1, needed⟩
    next => exact .inl (by simpa [issue, GrpcClient.issue, here] using known)

theorem World.networkSync_kept (rank : Entity → Nat) (ticket : Nat) (batch : StatusBatch F)
    (under : w.grpc.batch ticket = some batch) :
    (w.networkSync rank).grpc.batch ticket = some batch := by
  have other : ticket ≠ w.grpc.nextTicket := Nat.ne_of_lt (GrpcClient.batch_issued under)
  unfold networkSync
  dsimp only
  split
  next => exact under
  next => simpa [GrpcClient.batch, issue, GrpcClient.issue, other] using under

variable [Scalar F]

theorem step_batch_call (event : Event F) (matched : w.Matched) (stepped : step event w = some w')
    (ticket : Nat) (call : Call F) (batch : StatusBatch F)
    (batched : call.request.batch = some batch) (known : w'.grpc.calls ticket = some call) :
    w.grpc.calls ticket = some call ∨
      (∃ reply, event = .respond ticket reply ∧ call.reply = some reply ∧
        w.grpc.batch ticket = some batch) ∨
      ∃ rank, event = .networkSync rank ∧ ticket = w.grpc.nextTicket ∧ call.reply = none ∧
        ∀ entry ∈ batch, entry.2 < w.reg.nextEntity ∧ w.statusUpdate entry.2 = some entry.1 := by
  have method := GrpcClient.method_of_batch (Option.isSome_iff_exists.mpr ⟨batch, batched⟩)
  cases event with
  | respond t reply =>
      obtain rfl := Option.some.inj stepped
      rcases w.grpc.respond_reply t reply ticket call known with old | ⟨rfl, answered⟩
      · exact .inl old
      · refine .inr (.inl ⟨reply, rfl, answered, ?_⟩)
        exact (w.grpc.respond_batch ticket reply ticket).symm.trans
          (GrpcClient.batch_some.mpr ⟨call, known, batched⟩)
  | abort t =>
      obtain rfl := Option.some.inj stepped
      exact .inl (w.grpc.abort_known t ticket call (by simp [batched]) known)
  | networkSync rank =>
      obtain rfl := Option.some.inj stepped
      rcases w.networkSync_call rank ticket call batch batched known with old | sent
      · exact .inl old
      · exact .inr (.inr ⟨rank, rfl, sent⟩)
  | drainTask draws =>
      have calls := w.drainTask_calls w' draws .batchUpdateStatus (by simp) stepped ticket
      rw [GrpcClient.callsTo_some.mpr ⟨known, method⟩] at calls
      split at calls
      next => cases calls
      next => exact .inl (GrpcClient.callsTo_some.mp calls.symm).1
  | command cmd =>
      have same := step_calls (.command cmd) w w' .batchUpdateStatus matched
        (by cases cmd <;> rfl) stepped
      exact .inl (GrpcClient.known_of_callsTo (method ▸ same) known)
  | _ =>
      have same := step_calls _ w w' .batchUpdateStatus matched rfl stepped
      exact .inl (GrpcClient.known_of_callsTo (method ▸ same) known)

theorem step_batch_new (event : Event F) (matched : w.Matched) (stepped : step event w = some w')
    (ticket : Nat) (batch : StatusBatch F) (under : w'.grpc.batch ticket = some batch) :
    w.grpc.batch ticket = some batch ∨
      ∃ rank, event = .networkSync rank ∧ ticket = w.grpc.nextTicket ∧
        ∀ entry ∈ batch, entry.2 < w.reg.nextEntity ∧ w.statusUpdate entry.2 = some entry.1 := by
  obtain ⟨call, known, batched⟩ := GrpcClient.batch_some.mp under
  rcases step_batch_call event matched stepped ticket call batch batched known with
    old | ⟨-, -, -, before⟩ | ⟨rank, syncs, new, -, entries⟩
  · exact .inl (GrpcClient.batch_some.mpr ⟨call, old, batched⟩)
  · exact .inl before
  · exact .inr ⟨rank, syncs, new, entries⟩

theorem step_batch_kept (event : Event F) (matched : w.Matched) (stepped : step event w = some w')
    (ticket : Nat) (batch : StatusBatch F) (under : w.grpc.batch ticket = some batch) :
    w'.grpc.batch ticket = some batch ∨ event = .abort ticket ∨
      ∃ draws, event = .drainTask draws ∧ w.grpc.pop.map (·.1) = some ticket := by
  have apart (same : w'.grpc.callsTo .batchUpdateStatus = w.grpc.callsTo .batchUpdateStatus) :
      w'.grpc.batch ticket = some batch := GrpcClient.batch_of_same same.symm under
  cases event with
  | respond t reply =>
      obtain rfl := Option.some.inj stepped
      exact .inl ((w.grpc.respond_batch t reply ticket).trans under)
  | abort t =>
      obtain rfl := Option.some.inj stepped
      by_cases here : ticket = t
      next => exact .inr (.inl (here ▸ rfl))
      next => exact .inl ((w.grpc.abort_other t ticket here).trans under)
  | networkSync rank =>
      obtain rfl := Option.some.inj stepped
      exact .inl (w.networkSync_kept rank ticket batch under)
  | drainTask draws =>
      by_cases here : w.grpc.pop.map (·.1) = some ticket
      next => exact .inr (.inr ⟨draws, rfl, here⟩)
      next =>
        have calls := w.drainTask_calls w' draws .batchUpdateStatus (by simp) stepped ticket
        rw [if_neg here] at calls
        obtain ⟨call, known, batched⟩ := GrpcClient.batch_some.mp under
        have method := GrpcClient.method_of_batch (Option.isSome_iff_exists.mpr ⟨batch, batched⟩)
        have kept := calls.trans (GrpcClient.callsTo_some.mpr ⟨known, method⟩)
        exact .inl (GrpcClient.batch_some.mpr
          ⟨call, (GrpcClient.callsTo_some.mp kept).1, batched⟩)
  | command cmd =>
      exact .inl (apart (step_calls (.command cmd) w w' .batchUpdateStatus matched
        (by cases cmd <;> rfl) stepped))
  | _ => exact .inl (apart (step_calls _ w w' .batchUpdateStatus matched rfl stepped))

theorem World.drainTask_popped (draws : Nat → LocationRegistry.RadiusDraw F) (ticket : Nat)
    (popped : w.grpc.pop.map (·.1) = some ticket) (drained : w.drainTask draws = some w') :
    w'.grpc.batch ticket = none := by
  have calls := w.drainTask_calls w' draws .batchUpdateStatus (by simp) drained ticket
  rw [if_pos popped] at calls
  by_contra some
  obtain ⟨batch, under⟩ := Option.ne_none_iff_exists'.mp some
  obtain ⟨call, known, batched⟩ := GrpcClient.batch_some.mp under
  have method := GrpcClient.method_of_batch (Option.isSome_iff_exists.mpr ⟨batch, batched⟩)
  rw [GrpcClient.callsTo_some.mpr ⟨known, method⟩] at calls
  cases calls

omit [Scalar F] in
theorem Mirror.acknowledges_some {s : Mirror F} {event : Event F} {ticket : Nat}
    (handled : s.acknowledges event = some ticket) :
    ∃ draws updates targets rest, event = .drainTask draws ∧ s.world.grpc.pop =
      some (ticket, .batchUpdateStatus updates targets, .outcome true, rest) := by
  unfold acknowledges at handled
  split at handled
  next draws =>
    split at handled
    next t updates targets rest popped =>
      obtain rfl := Option.some.inj handled
      exact ⟨draws, updates, targets, rest, rfl, popped⟩
    next => cases handled
  next => cases handled

theorem Mirror.step_lastSynced_kept (s : Mirror F) (event : Event F) (e : Entity)
    (resident : s.world.Resident e) (unhandled : s.acknowledges event = none)
    (stepped : MundusVivens.step event s.world = some w') :
    w'.reg.lastSynced e = s.world.reg.lastSynced e := by
  have within := resident_step_within event s.world w' e resident stepped
  cases event with
  | drainTask draws =>
      have drained : s.world.drainTask draws = some w' := stepped
      unfold World.drainTask at drained
      simp only [acknowledges] at unhandled
      split at drained
      next => exact Option.some.inj drained ▸ rfl
      next ticket request reply rest popped =>
        have task := World.runTask_within _ w' e request reply draws drained
        cases request with
        | batchUpdateStatus updates targets =>
            obtain ⟨fits, -, -⟩ := s.world.grpc.pop_spec rest ticket _ reply popped
            cases reply with
            | outcome success =>
                cases success with
                | true => simp [popped] at unhandled
                | false =>
                    obtain rfl := Option.some.inj drained
                    rfl
            | _ => cases fits
        | _ => exact task.same .lastSynced rfl
  | command cmd => cases cmd <;> exact within.same .lastSynced rfl
  | _ => exact within.same .lastSynced rfl

theorem Mirror.step_lastSynced_handled (s : Mirror F) (event : Event F) (e : Entity) (ticket : Nat)
    (resident : s.world.Resident e) (synced : (s.world.reg.lastSynced e).isSome = true)
    (handled : s.acknowledges event = some ticket)
    (stepped : MundusVivens.step event s.world = some w') :
    ∃ batch call, s.world.grpc.calls ticket = some call ∧ call.request.batch = some batch ∧
      call.reply = some (.outcome true) ∧ w'.grpc.batch ticket = none ∧
      w'.reg.lastSynced e = statusAfter e (s.world.reg.lastSynced e) batch := by
  obtain ⟨draws, updates, targets, rest, rfl, popped⟩ := acknowledges_some handled
  obtain ⟨-, ⟨accepted, known⟩, -⟩ := s.world.grpc.pop_spec rest ticket _ _ popped
  have gone := s.world.drainTask_popped draws ticket (by simp [popped]) stepped
  refine ⟨updates.zip targets, _, known, rfl, rfl, gone, ?_⟩
  have drained : s.world.drainTask draws = some w' := stepped
  unfold World.drainTask at drained
  rw [popped] at drained
  obtain rfl := Option.some.inj drained
  exact World.applyBatch_lastSynced { s.world with grpc := rest } updates targets resident.valid synced

end

end MundusVivens
