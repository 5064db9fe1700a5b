import MundusVivens.Ticks.Loop
import MundusVivens.Accounts.Binding
import MundusVivens.Systems.EventFootprints

set_option autoImplicit false

/-!
# Ticks are consumed one by one

In every run of the main loop the batches of the successful answers are applied
once each, in order, and before the next tick is asked for.
-/

namespace MundusVivens

open Scalar Runs

variable {F : Type}

-- The batch of a successful response to the tick request it was sent for.
def answered (t : Transition (Loop F) (Event F)) : List Batch :=
  match t.event with
  | .respond ticket reply =>
      match t.before.world.grpc.tickResponse ticket reply with
      | some (target, true, deltas) => [⟨target, deltas⟩]
      | _ => []
  | _ => []

-- The batch the main loop takes over.
def applied (t : Transition (Loop F) (Event F)) : List Batch :=
  match t.event with
  | .syncTick =>
      let clock := t.before.world.clock
      if clock.tickSyncedReady then [⟨clock.nextTickVal, clock.tempRelationshipDeltas⟩] else []
  | _ => []

def answers (past : List (Transition (Loop F) (Event F))) : List Batch :=
  past.reverse.flatMap answered

def applications (past : List (Transition (Loop F) (Event F))) : List Batch :=
  past.reverse.flatMap applied

@[simp] theorem answers_cons (t : Transition (Loop F) (Event F))
    (past : List (Transition (Loop F) (Event F))) :
    answers (t :: past) = answers past ++ answered t := by simp [answers]

@[simp] theorem applications_cons (t : Transition (Loop F) (Event F))
    (past : List (Transition (Loop F) (Event F))) :
    applications (t :: past) = applications past ++ applied t := by simp [applications]

def World.AsksTick (w : World F) (ticket : Nat) : Prop :=
  ∃ target accepted, w.grpc.calls ticket = some ⟨.processWorldTick target, none, accepted⟩

theorem World.AsksTick.request {w : World F} {ticket : Nat} (asks : w.AsksTick ticket) :
    ∃ target, w.handshake.request ticket = some (target, none) := by
  obtain ⟨target, accepted, call⟩ := asks
  exact ⟨target, by simp [World.handshake, GrpcClient.tickRequest, call]⟩

-- What the deltas, in their order, make of the entry they are about.
def entryAfter (about : RelationshipDelta → Bool) (deltas : List RelationshipDelta)
    (entry : Option RelationshipEntry) : Option RelationshipEntry :=
  deltas.foldl
    (fun entry delta => if about delta then some ⟨delta.liking, delta.trust⟩ else entry) entry

theorem entryAfter_append (about : RelationshipDelta → Bool) (first second : List RelationshipDelta)
    (entry : Option RelationshipEntry) :
    entryAfter about (first ++ second) entry = entryAfter about second (entryAfter about first entry) :=
  List.foldl_append

theorem entryAfter_congr {about about' : RelationshipDelta → Bool}
    (same : ∀ delta, about delta = about' delta) (deltas : List RelationshipDelta)
    (entry : Option RelationshipEntry) :
    entryAfter about deltas entry = entryAfter about' deltas entry := by
  rw [funext same]

-- The delta is from whom the index gives as the entity, and about this npc id.
def World.concerns (w : World F) (e : Entity) (id : UInt32) (delta : RelationshipDelta) : Bool :=
  decide (w.index.byNpcId delta.fromAgentId = some e) && delta.toAgentId == id

variable [Scalar F]

/-- What a transition does to the tick and to the relationships. -/
structure Advances (t : Transition (Loop F) (Event F)) : Prop where
  tick : t.after.world.clock.tick = t.before.world.clock.tick + (applied t).length
  stamped : ∀ batch ∈ applied t, t.after.world.clock.tick = batch.tick
  entries : ∀ batch ∈ applied t, ∀ e id, t.after.world.relationship e id =
    entryAfter (t.before.world.concerns e id) batch.deltas (t.before.world.relationship e id)
  -- A batch changes nothing else, and without one the agents keep their relationships.
  others : ∀ batch ∈ applied t, t.after.world.reg =
    { t.before.world.reg with relationships := t.after.world.reg.relationships }
  kept : applied t = [] → ∀ e, t.before.world.Resident e →
    ∀ id, t.after.world.relationship e id = t.before.world.relationship e id

namespace World

variable {w w' : World F}

omit [Scalar F] in
theorem applyDelta_entry (delta : RelationshipDelta) (e : Entity) (id : UInt32) :
    (w.applyDelta delta).relationship e id =
      if w.concerns e id delta then some ⟨delta.liking, delta.trust⟩ else w.relationship e id := by
  unfold applyDelta concerns
  cases sender : w.index.byNpcId delta.fromAgentId with
  | none => simp
  | some x =>
      by_cases own : e = x
      next =>
        subst own
        by_cases about : id = delta.toAgentId
        next => simp [relationship, setRelationships, about]
        next =>
          cases table : w.reg.relationships e <;>
            simp [relationship, setRelationships, about, Ne.symm about, table]
      next => simp [relationship, setRelationships, own, Ne.symm own]

omit [Scalar F] in
theorem applyDelta_rest (delta : RelationshipDelta) :
    (w.applyDelta delta).index = w.index ∧
      (w.applyDelta delta).reg =
        { w.reg with relationships := (w.applyDelta delta).reg.relationships } := by
  unfold applyDelta
  split <;> exact ⟨rfl, rfl⟩

omit [Scalar F] in
theorem applyDeltas_rest (deltas : List RelationshipDelta) :
    (deltas.foldl applyDelta w).reg =
      { w.reg with relationships := (deltas.foldl applyDelta w).reg.relationships } := by
  induction deltas generalizing w with
  | nil => rfl
  | cons delta rest ih =>
      rw [List.foldl_cons, ih, (applyDelta_rest delta).2]

omit [Scalar F] in
theorem applyDeltas_clock (deltas : List RelationshipDelta) :
    (deltas.foldl applyDelta w).clock = w.clock := by
  induction deltas generalizing w with
  | nil => rfl
  | cons delta rest ih =>
      rw [List.foldl_cons, ih]
      unfold applyDelta
      split <;> rfl

omit [Scalar F] in
theorem applyDeltas_entry (deltas : List RelationshipDelta) (e : Entity) (id : UInt32) :
    (deltas.foldl applyDelta w).relationship e id =
      entryAfter (w.concerns e id) deltas (w.relationship e id) := by
  induction deltas generalizing w with
  | nil => rfl
  | cons delta rest ih =>
      have concerns : (w.applyDelta delta).concerns e id = w.concerns e id := by
        funext later
        rw [World.concerns, (applyDelta_rest delta).1]
        rfl
      rw [List.foldl_cons, ih, concerns, applyDelta_entry]
      rfl

theorem step_relationship (event : Event F) (e : Entity) (resident : w.Resident e)
    (stepped : step event w = some w')
    (quiet : event = .syncTick → w.clock.tickSyncedReady = false) (id : UInt32) :
    w'.relationship e id = w.relationship e id := by
  have within := resident_step_within event w w' e resident stepped
  have apart (free : event.scope.covers .relationships = false) :
      w'.relationship e id = w.relationship e id := by
    have same : w'.reg.relationships e = w.reg.relationships e := within.same .relationships free
    rw [relationship, same]
    rfl
  cases event with
  | syncTick =>
      obtain rfl := Option.some.inj stepped
      rw [syncTick, quiet rfl]
      rfl
  | command cmd => cases cmd <;> exact apart rfl
  | _ => exact apart rfl

end World

structure Synchronised (start : World F) (past : List (Transition (Loop F) (Event F)))
    (last : Loop F) : Prop where
  single : ∀ ticket other, last.world.AsksTick ticket → last.world.AsksTick other → ticket = other
  counted : last.world.clock.tick = start.clock.tick + (applications past).length
  numbered : (applications past).map (·.tick) =
    (List.range (applications past).length).map fun (i : Nat) => start.clock.tick + i + 1
  conserved : ∃ waiting, answers past = applications past ++ waiting ∧ waiting.length ≤ 1
  before_next : (∃ ticket, last.world.AsksTick ticket) → answers past = applications past
  advances : ∀ t ∈ past, Advances t
  -- The batches applied so far are all that happened to the relationships of an agent.
  settled : ∀ number n, start.index.byNpcId number = some n → ∀ id,
    last.world.relationship n id =
      entryAfter (fun delta => delta.fromAgentId == number && delta.toAgentId == id)
        ((applications past).flatMap (·.deltas)) (start.relationship n id)

def Accounted (start : Int) (past : List (Transition (Loop F) (Event F))) (loop : Loop F) : Prop :=
  loop.world.handshake.InStep loop.phase ∧
    loop.world.handshake.Balanced start (answers past) (applications past) ∧
      ∀ t ∈ past, Advances t

variable {start : Int} {past : List (Transition (Loop F) (Event F))} {loop next : Loop F}

omit [Scalar F] in
theorem Moves.transition {event : Event F} {move : Handshake.Move}
    (moves : Moves loop.world event move) (enabled : loop.world.handshake.Enabled move)
    (phase : loop.phase.after event = some next.phase) :
    answered ⟨loop, event, next⟩ = move.answered ∧
      applied ⟨loop, event, next⟩ = move.applied loop.world.handshake ∧
        move.fits loop.phase ∧ (loop.phase ≠ next.phase → move = .sync ∨ ∃ ticket, move = .ask ticket) := by
  obtain ⟨world, phase'⟩ := loop
  cases moves with
  | ask physicalTick =>
      refine ⟨rfl, rfl, ?_, fun _ => .inr ⟨_, rfl⟩⟩
      cases phase' with
      | early => cases phase
      | late => rfl
  | answer ticket reply target success deltas response =>
      refine ⟨?_, rfl, trivial, fun changed => ?_⟩
      · cases success <;> simp [answered, response, Handshake.Move.answered]
      · rw [Phase.after_other _ _ rfl] at phase
        exact absurd (Option.some.inj phase) changed
  | drop ticket =>
      refine ⟨rfl, rfl, trivial, fun changed => ?_⟩
      rw [Phase.after_other _ _ rfl] at phase
      exact absurd (Option.some.inj phase) changed
  | complete draws ticket target success deltas =>
      cases phase' with
      | early => exact ⟨rfl, rfl, rfl, fun changed => absurd (Option.some.inj phase) changed⟩
      | late => cases phase
  | sync =>
      have ready : world.clock.tickSyncedReady = true := enabled
      refine ⟨rfl, ?_, ?_, fun _ => .inl rfl⟩
      · simp [applied, ready, Handshake.Move.applied, World.handshake]
      · cases phase' with
        | early => rfl
        | late => cases phase

theorem InStep.after_move {h : Handshake} {phase other : Phase} {move : Handshake.Move}
    (inStep : (h.apply move).InStep phase) (before : h.InStep phase) (enabled : h.Enabled move)
    (fits : move.fits phase)
    (changed : phase ≠ other → move = .sync ∨ ∃ ticket, move = .ask ticket) :
    (h.apply move).InStep other := by
  by_cases same : phase = other
  next => exact same ▸ inStep
  next =>
    refine inStep.relax ?_ other
    rcases changed same with rfl | ⟨ticket, rfl⟩
    · rfl
    · by_contra ready
      have early := (before.ready (by simpa [Handshake.apply] using ready)).1
      simp [Handshake.Move.fits, early] at fits

omit [Scalar F] in
theorem idle_transition {event : Event F} (idle : event.Idle loop.world) :
    answered ⟨loop, event, next⟩ = [] ∧ applied ⟨loop, event, next⟩ = [] := by
  cases event with
  | respond ticket reply =>
      have silent : loop.world.grpc.tickResponse ticket reply = none := idle
      simp [answered, applied, silent]
  | syncTick =>
      have unready : loop.world.clock.tickSyncedReady = false := idle
      simp [answered, applied, unready]
  | _ => exact ⟨rfl, rfl⟩

omit [Scalar F] in
theorem idle_inStep {event : Event F} (idle : event.Idle loop.world)
    (inStep : loop.world.handshake.InStep loop.phase)
    (phase : loop.phase.after event = some next.phase) :
    loop.world.handshake.InStep next.phase := by
  by_cases ready : loop.world.handshake.tickSyncedReady = true
  next =>
    have early := (inStep.ready ready).1
    rw [early] at phase inStep
    cases event with
    | syncTick =>
        have unready : loop.world.clock.tickSyncedReady = false := idle
        have taken : loop.world.clock.tickSyncedReady = true := ready
        simp [unready] at taken
    | requestTick physicalTick => cases phase
    | _ =>
        have same : Phase.early = next.phase := Option.some.inj phase
        exact same ▸ inStep
  next => exact inStep.relax (by simpa using ready) _

theorem Advances.of_unapplied {event : Event F} (unapplied : applied ⟨loop, event, next⟩ = [])
    (tick : next.world.clock.tick = loop.world.clock.tick)
    (ran : step event loop.world = some next.world) : Advances ⟨loop, event, next⟩ := by
  constructor
  case tick => simp [unapplied, tick]
  case stamped => simp [unapplied]
  case entries => simp [unapplied]
  case others => simp [unapplied]
  case kept =>
    intro _ e resident id
    refine World.step_relationship event e resident ran (fun sync => ?_) id
    subst sync
    by_contra ready
    simp [applied, ready] at unapplied

omit [Scalar F] in
theorem applied_sync (ready : loop.world.clock.tickSyncedReady = true) :
    applied ⟨loop, .syncTick, next⟩ =
      [⟨loop.world.clock.nextTickVal, loop.world.clock.tempRelationshipDeltas⟩] := by
  simp [applied, ready]

omit [Scalar F] in
theorem Advances.of_sync (ready : loop.world.clock.tickSyncedReady = true)
    (granted : loop.world.clock.nextTickVal = loop.world.clock.tick + 1)
    (synced : next.world = loop.world.syncTick) : Advances ⟨loop, .syncTick, next⟩ := by
  have took : applied ⟨loop, .syncTick, next⟩ = _ := applied_sync ready
  rw [World.syncTick, if_pos ready] at synced
  constructor
  case tick => simp [synced, took, World.applyDeltas_clock, granted]
  case stamped => simp [synced, took, World.applyDeltas_clock]
  case entries =>
    intro batch member e id
    rw [took] at member
    obtain rfl := List.mem_singleton.mp member
    exact (congrArg (fun w : World F => w.relationship e id) synced).trans
      (World.applyDeltas_entry _ e id)
  case others =>
    intro batch _
    rw [synced]
    exact World.applyDeltas_rest _
  case kept => simp [took]

theorem accounted_step (event : Event F) (before : Accounted start past loop)
    (stepped : loopStep event loop = some next) :
    Accounted start (⟨loop, event, next⟩ :: past) next := by
  obtain ⟨inStep, balanced, advances⟩ := before
  obtain ⟨phase, ran⟩ := loopStep_some stepped
  unfold Accounted
  rw [answers_cons, applications_cons]
  rcases step_moves event ran with ⟨idle, same⟩ | ⟨move, moves, enabled, moved⟩
  · obtain ⟨unanswered, unapplied⟩ : answered ⟨loop, event, next⟩ = [] ∧
        applied ⟨loop, event, next⟩ = [] := idle_transition idle
    rw [unanswered, unapplied, same, List.append_nil, List.append_nil]
    refine ⟨idle_inStep idle inStep phase, balanced, ?_⟩
    rw [List.forall_mem_cons]
    have tick : next.world.clock.tick = loop.world.clock.tick := congrArg Handshake.tick same
    exact ⟨.of_unapplied unapplied (by simp [tick]) ran, advances⟩
  · obtain ⟨gave, took, fits, changed⟩ := moves.transition enabled phase
    rw [gave, took, moved]
    have after := inStep.apply move enabled fits
    refine ⟨InStep.after_move after inStep enabled fits changed,
      balanced.apply inStep move enabled, ?_⟩
    rw [List.forall_mem_cons]
    refine ⟨?_, advances⟩
    have tick : next.world.clock.tick = (loop.world.handshake.apply move).tick :=
      congrArg Handshake.tick moved
    cases moves with
    | sync =>
        have ready : loop.world.clock.tickSyncedReady = true := enabled
        have granted : loop.world.clock.nextTickVal = loop.world.clock.tick + 1 :=
          (inStep.ready enabled).2.2
        exact .of_sync ready granted (Option.some.inj ran).symm
    | _ =>
        refine .of_unapplied took ?_ ran
        rw [tick]
        simp [Handshake.apply, World.handshake]

theorem loopRun_server {start : World F} (run : LoopRun start past loop) :
    ∃ served, ServerRun start served loop.world := by
  induction run with
  | rest => exact ⟨[], .rest⟩
  | next _ stepped ih =>
      obtain ⟨served, before⟩ := ih
      exact ⟨_, before.next (loopStep_some stepped).2⟩

omit [Scalar F] in
theorem Advances.entry {t : Transition (Loop F) (Event F)} (advances : Advances t) (e : Entity)
    (resident : t.before.world.Resident e) (id : UInt32) :
    t.after.world.relationship e id = entryAfter (t.before.world.concerns e id)
      ((applied t).flatMap (·.deltas)) (t.before.world.relationship e id) := by
  cases took : applied t with
  | nil => exact advances.kept took e resident id
  | cons batch rest =>
      have single : rest = [] := by
        unfold applied at took
        grind
      rw [advances.entries batch (by simp [took]), single]
      simp

theorem relationships_settled {start : World F} (initial : start.ledger.Initial)
    (run : LoopRun start past loop) (advances : ∀ t ∈ past, Advances t) (number : UInt32)
    (n : Entity) (agent : start.index.byNpcId number = some n) (id : UInt32) :
    loop.world.relationship n id =
      entryAfter (fun delta => delta.fromAgentId == number && delta.toAgentId == id)
        ((applications past).flatMap (·.deltas)) (start.relationship n id) := by
  induction run with
  | rest => rfl
  | @next past loop next event run stepped ih =>
      obtain ⟨here, earlier⟩ := List.forall_mem_cons.mp advances
      obtain ⟨served, reached⟩ := loopRun_server run
      obtain ⟨roster, cast⟩ := run_cast initial reached
      obtain ⟨indexed, unplayed⟩ := cast.lasting number n agent
      obtain ⟨valid, named, unfurnished⟩ := roster.indexed number n indexed
      have resident : loop.world.Resident n :=
        ⟨valid, unplayed, by simpa [World.ledger] using unfurnished⟩
      have own (delta : RelationshipDelta) : loop.world.concerns n id delta =
          (delta.fromAgentId == number && delta.toAgentId == id) := by
        have sender : loop.world.index.byNpcId delta.fromAgentId = some n ↔
            delta.fromAgentId = number := by
          constructor
          · intro entry
            have same := (roster.indexed _ n entry).2.1.symm.trans named
            exact Option.some.inj same
          · rintro rfl
            exact indexed
        rw [World.concerns, decide_eq_decide.mpr sender]
        rfl
      rw [applications_cons, List.flatMap_append, entryAfter_append, ← ih earlier,
        ← entryAfter_congr own]
      exact here.entry n resident id

theorem Accounted.synchronised {w : World F} (initial : w.ledger.Initial) (run : LoopRun w past loop)
    (accounted : Accounted w.clock.tick past loop) : Synchronised w past loop := by
  obtain ⟨inStep, balanced, advances⟩ := accounted
  obtain ⟨waiting, conserved, short, -⟩ := balanced.conserved
  refine ⟨fun ticket other asks asksToo => ?_, balanced.counted, balanced.numbered,
    ⟨waiting, conserved, short⟩, ?_, advances, relationships_settled initial run advances⟩
  · obtain ⟨target, here⟩ := asks.request
    obtain ⟨target', there⟩ := asksToo.request
    exact inStep.single ticket other (by simp [here]) (by simp [there])
  · rintro ⟨ticket, asks⟩
    obtain ⟨target, here⟩ := asks.request
    exact balanced.settled fun batch => by simp [inStep.waits_iff here]

theorem bootstrap_handshake (data : WorldBootstrapData F) (settings : SimulationSettings F)
    (obstacles : Option (List Obstacle)) (draws : Nat → NeedsDraw F) (start : World F)
    (booted : bootstrap data settings obstacles draws = some start) :
    start.handshake = ⟨0, false, false, 0, [], fun _ => none⟩ := by
  have clock : start.clock = .initial := bootstrap_spares .clock rfl rfl booted
  rw [World.handshake, clock, bootstrap_silent booted]
  rfl

/-- In every run of the main loop, ticks and batches keep step with the answers. -/
theorem ticks_synchronised (data : WorldBootstrapData F) (settings : SimulationSettings F)
    (obstacles : Option (List Obstacle)) (draws : Nat → NeedsDraw F) (start : World F)
    (past : List (Transition (Loop F) (Event F))) (last : Loop F)
    (booted : bootstrap data settings obstacles draws = some start)
    (run : LoopRun start past last) : Synchronised start past last := by
  have initial := bootstrap_handshake data settings obstacles draws start booted
  have inStep : start.handshake.InStep .early := by
    rw [initial]
    exact ⟨by simp, by simp, by simp⟩
  have balanced : start.handshake.Balanced start.clock.tick [] [] := by
    rw [show start.clock.tick = start.handshake.tick from rfl, initial]
    exact ⟨⟨[], rfl, by simp, by simp [Handshake.Waits]⟩, by simp, by simp⟩
  let property : List (Transition (Loop F) (Event F)) → Loop F → Prop :=
    Accounted start.clock.tick
  have kept : ∀ past s event s', Run loopStep (⟨start, .early⟩ : Loop F) past s →
      property past s → True → loopStep event s = some s' →
        property (⟨s, event, s'⟩ :: past) s' :=
    fun _ _ event _ _ before _ stepped => accounted_step event before stepped
  have unguarded : Guarded (fun (_ : Loop F) (_ : Event F) => True) past := fun _ _ => trivial
  have initially : property [] ⟨start, .early⟩ := ⟨inStep, balanced, by simp⟩
  have reached : property past last := run.history initially kept unguarded
  exact reached.synchronised (bootstrap_initial data settings obstacles draws start booted) run

-- A request, its answer in the next frame, and the request after it. Nobody has the number 9.
def hamletTicks : List (Event ℚ) :=
  [.syncTick, .requestTick 0,
    .respond 0 (.tick true [⟨7, 8, 5, 6⟩, ⟨9, 8, 1, 1⟩, ⟨7, 8, 40, 60⟩, ⟨7, 1, -3, 50⟩]),
    .drainTask fun _ => ⟨0, 0⟩, .syncTick, .requestTick 60]

theorem ticks_synchronised_hamlet : ∃ past last, LoopRun hamlet past last ∧
    past.reverse.map (·.event) = hamletTicks ∧ Synchronised hamlet past last ∧
      last.world.clock.tick = 1 ∧ last.world.relationship 0 8 = some ⟨40, 60⟩ ∧
        last.world.relationship 0 1 = some ⟨-3, 50⟩ := by
  have passed : (followWhile loopStep (fun _ _ => true) hamletTicks ⟨hamlet, .early⟩).any
      (fun loop => decide (loop.world.clock.tick = 1 ∧
        loop.world.relationship 0 8 = some ⟨40, 60⟩ ∧
          loop.world.relationship 0 1 = some ⟨-3, 50⟩)) = true := by decide +kernel
  obtain ⟨past, last, run, -, events, checked⟩ := Run.exists_of_check _ _ _ passed
  obtain ⟨ticked, twice, once⟩ := of_decide_eq_true checked
  exact ⟨past, last, run, events, ticks_synchronised hamletData ⟨2, 60⟩ (some [])
    (fun _ => ⟨100, 100⟩) hamlet past last hamlet_boots run, ticked, twice, once⟩

end MundusVivens
