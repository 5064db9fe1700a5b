import MundusVivens.Systems.Footprints

set_option autoImplicit false

namespace MundusVivens

open Scalar BehaviorTree LocationRegistry

variable {F : Type} [Scalar F]

namespace World

variable (w w' : World F) (e x : Entity)

-- The parts a player dialogue has to do with.
def partyScope : Scope := ⟨[], [.activity, .busy, .playerDialogue]⟩

omit [Scalar F] in
theorem releaseIfValid_within (npc : Entity) (released : w.releaseIfValid npc = some w') :
    Within partyScope e x w w' := by
  unfold releaseIfValid at released
  split at released
  next =>
    simp only [releaseNpc, Option.bind_eq_bind, Option.bind_eq_some_iff] at released
    obtain ⟨activity, -, stored⟩ := released
    obtain rfl := Option.some.inj stored
    simp [partyScope]
  next => exact .of_eq (Option.some.inj released).symm

omit [Scalar F] in
theorem startedTask_within (npc player : Entity) (success : Bool) (sessionId : UInt64)
    (started : w.startedTask npc player success sessionId = some w') :
    Within partyScope e x w w' := by
  unfold startedTask at started
  split at started
  next =>
    simp only [Option.bind_eq_bind, Option.bind_eq_some_iff] at started
    obtain ⟨talking, shown, opened⟩ := started
    have first : Within partyScope e x w talking := by
      unfold showTalking at shown
      split at shown
      next =>
        simp only [Option.bind_eq_bind, Option.bind_eq_some_iff] at shown
        obtain ⟨activity, -, stored⟩ := shown
        obtain rfl := Option.some.inj stored
        simp [partyScope]
      next => exact .of_eq (Option.some.inj shown).symm
    refine first.trans ?_
    unfold openDialogue at opened
    split at opened
    next valid =>
      simp only [Option.bind_eq_bind, Option.bind_eq_some_iff] at opened
      obtain ⟨reg, checked, stored⟩ := opened
      rw [Registry.setPlayerDialogue, dif_pos valid] at checked
      obtain rfl := Option.some.inj checked
      obtain rfl := Option.some.inj stored
      intro p foreign _
      cases p
      case playerDialogue => simp [partyScope] at foreign
      all_goals exact rfl
    next => exact .of_eq (Option.some.inj opened).symm
  next =>
    simp only [Option.bind_eq_bind, Option.bind_eq_some_iff] at started
    obtain ⟨released, freed, stored⟩ := started
    obtain rfl := Option.some.inj stored
    refine (w.releaseIfValid_within released e x npc freed).trans ?_
    unfold eraseBusyIfValid
    split <;> simp [partyScope]

omit [Scalar F] in
theorem endedTask_within (npc player : Option Entity) (ended : w.endedTask npc player = some w') :
    Within partyScope e x w w' := by
  simp only [endedTask, Option.bind_eq_bind, Option.bind_eq_some_iff] at ended
  obtain ⟨released, freed, stored⟩ := ended
  have first : Within partyScope e x w released := by
    cases npc with
    | none => exact .of_eq (Option.some.inj freed).symm
    | some n => exact w.releaseIfValid_within released e x n freed
  refine first.trans ?_
  obtain rfl := Option.some.inj stored
  cases player with
  | none => exact .refl _ e x _
  | some p =>
      simp only [Option.elim_some, closeDialogue]
      split
      next =>
        intro p foreign _
        cases p
        case busy | playerDialogue => simp [partyScope] at foreign
        all_goals exact rfl
      next => exact .refl _ e x _

-- The parts a handler of new jobs has to do with.
def installScope : Scope := ⟨[], [.job, .toil, .busy]⟩

theorem applyPendingJobs_within (jobs : List (JobPayload F)) (draws : Nat → RadiusDraw F) :
    Within installScope e x w (w.applyPendingJobs jobs draws) := by
  refine Within.foldl _ (fun w job => ?_) _ w
  unfold applyPendingJob
  split
  next =>
    unfold writePendingJob eraseScheduleWait restartToil
    repeat' split
    all_goals simp [installScope]
  next => exact .refl _ e x w

theorem applyNextJobs_within (jobs : List (JobPayload F)) (draws : Nat → RadiusDraw F)
    (applied : w.applyNextJobs jobs draws = some w') : Within installScope e x w w' := by
  refine Within.foldlM _ (fun w job w' applied => ?_) _ w w' applied
  unfold applyNextJob at applied
  split at applied
  next =>
    simp only [Option.bind_eq_bind, Option.bind_eq_some_iff] at applied
    obtain ⟨identity, -, stored⟩ := applied
    obtain rfl := Option.some.inj stored
    simp [writeNextJob, restartToil, installScope]
  next => exact .of_eq (Option.some.inj applied).symm

omit [Scalar F] in
theorem applyReport_within (newJob : Option (JobPayload F)) :
    Within ⟨[.job, .toil], []⟩ e x w (w.applyReport e newJob) := by
  unfold applyReport
  split
  next => split <;> simp [writeReportedJob, restartToil]
  next => exact .refl _ e x w

def threatScope : Scope := ⟨[.aggro, .combat, .cooldown], []⟩

theorem applyThreat_within (targetNpcId : UInt32) (success : Bool) (actionCode : Int)
    (applied : w.applyThreat e targetNpcId success actionCode = some w') :
    Within threatScope e x w w' := by
  unfold applyThreat at applied
  split at applied
  next => exact .of_eq (Option.some.inj applied).symm
  next aggro _ =>
    split at applied
    next => exact .of_eq (Option.some.inj applied).symm
    next =>
      simp only [Option.bind_eq_bind, Option.bind_eq_some_iff] at applied
      obtain ⟨identity, -, applied⟩ := applied
      repeat' split at applied
      all_goals
        obtain rfl := Option.some.inj applied
        simp [exemptTarget, threatScope]

omit [Scalar F] in
theorem applyBatch_within (updates : List (AgentStatusUpdate F)) (targets : List Entity)
    (success : Bool) : Within ⟨[], [.lastSynced]⟩ e x w (w.applyBatch updates targets success) := by
  unfold applyBatch
  split
  next =>
    refine Within.foldl _ (fun w entry => ?_) _ w
    dsimp only
    split <;> simp
  next => exact .refl _ e x w

omit [Scalar F] in
theorem applyTick_within (targetTick : Int) (success : Bool) (deltas : List RelationshipDelta) :
    Within ⟨[], [.clock]⟩ e x w (w.applyTick targetTick success deltas) := by
  refine (Within.after_global .clock (by simp) fun q other => ?_).mpr (.refl _ e x w)
  cases q <;> first | exact absurd rfl other | exact rfl

def dialogueScope : Scope :=
  ⟨[], [.emotion, .emotions, .job, .toil, .cooldown, .activity, .busy, .playerDialogue,
    .tickets, .calls .injectBelief]⟩

-- What a finished dialogue may change before it dismisses its participants.
def hearingScope : Scope :=
  ⟨[], [.emotion, .emotions, .job, .toil, .busy, .tickets, .calls .injectBelief]⟩

omit [Scalar F] in
theorem applyEmotionUpdate_within (update : AgentEmotionUpdate) :
    Within emotionScope e x w (w.applyEmotionUpdate update) := by
  unfold applyEmotionUpdate
  split
  next => exact .refl _ e x w
  next =>
    split
    next =>
      have numbered (emotions : EmotionRegistry) :
          Within emotionScope e x w { w with emotions := emotions } := by
        refine (Within.after_global .emotions (by simp [emotionScope]) fun q other => ?_).mpr
          (.refl _ e x w)
        cases q <;> first | exact absurd rfl other | exact rfl
      exact (within_setEmotion _ (by simp [emotionScope])).mpr (numbered _)
    next => exact .refl _ e x w

omit [Scalar F] in
theorem issueAll_within (s : Scope) (requests : List (Request F))
    (allowed : ∀ request ∈ requests, s.all.contains (.calls request.method) = true)
    (ticketed : .tickets ∈ s.all) :
    Within s e x w { w with grpc := w.grpc.issueAll requests } := by
  induction requests generalizing w with
  | nil => exact .refl s e x w
  | cons request rest ih =>
      have first : Within s e x w (w.issue request) :=
        (within_issue request (allowed request (by simp)) ticketed).mpr (.refl s e x w)
      exact first.trans (ih (w.issue request) fun r member => allowed r (by simp [member]))

theorem eavesdropping_within (group : List Entity) (result : DialogueResult F)
    (heard : w.eavesdropping group result = some w') :
    Within ⟨[], [.tickets, .calls .injectBelief]⟩ e x w w' := by
  unfold eavesdropping at heard
  split at heard
  next => exact .of_eq (Option.some.inj heard).symm
  next =>
    split at heard
    next => exact .of_eq (Option.some.inj heard).symm
    next =>
      simp only [Option.bind_eq_bind, Option.bind_eq_some_iff] at heard
      obtain ⟨source, -, stored⟩ := heard
      obtain rfl := Option.some.inj stored
      refine w.issueAll_within e x _ _ (fun request member => ?_) (by simp)
      obtain ⟨bystander, -, injected⟩ := List.mem_filterMap.mp member
      unfold eavesdrop at injected
      split at injected
      next => cases injected
      next =>
        simp only [Option.bind_eq_bind, Option.bind_eq_some_iff] at injected
        obtain ⟨identity, -, loc, -, content, -, stored⟩ := injected
        obtain rfl := Option.some.inj stored
        rfl

theorem finishDialogue_dismisses (group : List Entity) (tick : Int) (result : DialogueResult F)
    (draws : Nat → RadiusDraw F) (finished : w.finishDialogue group tick result draws = some w') :
    ∃ heard, (∀ e x, Within hearingScope e x w heard) ∧
      group.foldlM (dismissParticipant group tick) heard = some w' := by
  simp only [finishDialogue, Option.bind_eq_bind, Option.bind_eq_some_iff] at finished
  obtain ⟨identities, -, planned, jobs, heard, told, dismissed⟩ := finished
  refine ⟨heard, fun e x => ?_, dismissed⟩
  have felt : Within emotionScope e x w _ :=
    .foldl applyEmotionUpdate (fun w update => w.applyEmotionUpdate_within e x update)
      result.emotionUpdates w
  have installed := (applyNextJobs_within _ planned e x _ draws jobs).mono
    (by decide : installScope.within hearingScope = true)
  have listened := (planned.eavesdropping_within heard e x group result told).mono
    (by decide : Scope.within _ hearingScope = true)
  exact ((felt.mono (by decide)).trans installed).trans listened

omit [Scalar F] in
theorem dismissParticipant_within (group : List Entity) (tick : Int) (y : Entity)
    (dismissed : dismissParticipant group tick w y = some w') :
    Within ⟨[], [.cooldown, .activity, .busy]⟩ e x w w' := by
  unfold dismissParticipant at dismissed
  split at dismissed
  next => exact .of_eq (Option.some.inj dismissed).symm
  next =>
    simp only [Option.bind_eq_bind, Option.bind_eq_some_iff] at dismissed
    obtain ⟨activity, -, others, -, stored⟩ := dismissed
    obtain rfl := Option.some.inj stored
    simp

-- What a dialogue task may change once the emotions are updated.
def aftermathScope : Scope :=
  ⟨[], [.job, .toil, .cooldown, .activity, .busy, .playerDialogue, .tickets,
    .calls .injectBelief]⟩

theorem dialogueTask_feels (group : List Entity) (tick : Int) (success : Bool)
    (result : DialogueResult F) (draws : Nat → RadiusDraw F)
    (ran : w.dialogueTask group tick success result draws = some w') :
    ∃ updates : List AgentEmotionUpdate,
      ∀ e x, Within aftermathScope e x (updates.foldl applyEmotionUpdate w) w' := by
  unfold dialogueTask at ran
  split at ran
  next =>
    simp only [finishDialogue, Option.bind_eq_bind, Option.bind_eq_some_iff] at ran
    obtain ⟨identities, -, planned, jobs, heard, told, dismissed⟩ := ran
    refine ⟨result.emotionUpdates, fun e x => ?_⟩
    have installed := applyNextJobs_within _ planned e x _ draws jobs
    have listened := planned.eavesdropping_within heard e x group result told
    have left : Within ⟨[], [.cooldown, .activity, .busy]⟩ e x heard w' := .foldlM _
      (fun w y w' left => w.dismissParticipant_within w' e x group tick y left) group heard w'
      dismissed
    exact ((installed.mono (by decide)).trans (listened.mono (by decide))).trans
      (left.mono (by decide))
  next =>
    refine ⟨[], fun e x => ?_⟩
    have released : Within partyScope e x w w' := .foldlM _
      (fun w y w' released => w.releaseIfValid_within w' e x y released) group w w' ran
    exact released.mono (by decide)

theorem dialogueTask_within (group : List Entity) (tick : Int) (success : Bool)
    (result : DialogueResult F) (draws : Nat → RadiusDraw F)
    (ran : w.dialogueTask group tick success result draws = some w') :
    Within dialogueScope e x w w' := by
  unfold dialogueTask at ran
  split at ran
  next =>
    obtain ⟨heard, spread, dismissed⟩ := w.finishDialogue_dismisses w' group tick result draws ran
    have left : Within ⟨[], [.cooldown, .activity, .busy]⟩ e x heard w' := .foldlM _
      (fun w y w' left => w.dismissParticipant_within w' e x group tick y left) group heard w'
      dismissed
    exact ((spread e x).mono (by decide)).trans (left.mono (by decide))
  next =>
    have released : Within partyScope e x w w' := .foldlM _
      (fun w y w' released => w.releaseIfValid_within w' e x y released) group w w' ran
    exact released.mono (by decide)

end World

def Request.actor : Request F → Entity
  | .reportJobStatus _ _ _ _ _ _ (.install e) => e
  | .threatDetected _ _ _ e => e
  | _ => 0

def Method.taskScope : Method → Scope
  | .processWorldTick => ⟨[], [.clock]⟩
  | .getPendingJobs => World.installScope
  | .reportJobStatus => ⟨[.job, .toil], []⟩
  | .triggerDialogue => World.dialogueScope
  | .startPlayerDialogue | .endPlayerDialogue => World.partyScope
  | .threatDetected => World.threatScope
  | .batchUpdateStatus => ⟨[], [.lastSynced]⟩
  | _ => ⟨[], []⟩

theorem World.runTask_within (w w' : World F) (x : Entity) (request : Request F) (reply : Reply F)
    (draws : Nat → RadiusDraw F) (ran : w.runTask draws request reply = some w') :
    Within request.method.taskScope request.actor x w w' := by
  unfold World.runTask at ran
  split at ran
  next =>
    obtain rfl := Option.some.inj ran
    exact w.applyTick_within _ x _ _ _
  next =>
    obtain rfl := Option.some.inj ran
    exact w.applyPendingJobs_within _ x _ _
  next =>
    obtain rfl := Option.some.inj ran
    exact w.applyReport_within _ x _
  next => exact w.dialogueTask_within w' _ x _ _ _ _ _ ran
  next => exact w.startedTask_within w' _ x _ _ _ _ ran
  next => exact w.endedTask_within w' _ x _ _ ran
  next => exact w.applyThreat_within w' _ x _ _ _ ran
  next =>
    obtain rfl := Option.some.inj ran
    exact w.applyBatch_within _ x _ _ _
  next => exact .of_eq (Option.some.inj ran).symm

namespace World

variable (w w' : World F) (e x : Entity)

omit [Scalar F] in
theorem within_calls (s : Scope) (client : GrpcClient F) (ticket : Nat) (method : Method)
    (elsewhere : ∀ other, other ≠ ticket → client.calls other = w.grpc.calls other)
    (before : ∀ call ∈ w.grpc.calls ticket, call.request.method = method)
    (after : ∀ call ∈ client.calls ticket, call.request.method = method)
    (allowed : .calls method ∈ s.all) (ticketed : .tickets ∈ s.all) :
    Within s e x w { w with grpc := client } := by
  intro q absent _
  cases q with
  | tickets => exact absurd ticketed absent
  | calls asked =>
      have foreign : method ≠ asked := fun same => absent (same ▸ allowed)
      funext other
      by_cases here : other = ticket
      next =>
        subst here
        have none_before : w.grpc.callsTo asked other = none := by
          rw [GrpcClient.callsTo, Option.filter_eq_none_iff]
          intro call stored
          simp [-Request.method, before call stored, foreign]
        have none_after : client.callsTo asked other = none := by
          rw [GrpcClient.callsTo, Option.filter_eq_none_iff]
          intro call stored
          simp [-Request.method, after call stored, foreign]
        exact none_after.trans none_before.symm
      next => simp [GrpcClient.callsTo, elsewhere other here]
  | _ => exact rfl

theorem drainTask_cases (draws : Nat → RadiusDraw F) (drained : w.drainTask draws = some w') :
    w' = w ∨ ∃ ticket request reply rest, w.grpc.pop = some (ticket, request, reply, rest) ∧
      { w with grpc := rest }.runTask draws request reply = some w' := by
  unfold drainTask at drained
  split at drained
  next => exact .inl (Option.some.inj drained).symm
  next ticket request reply rest popped => exact .inr ⟨ticket, request, reply, rest, popped, drained⟩

omit [Scalar F] in
theorem pop_within (ticket : Nat) (request : Request F) (reply : Reply F) (rest : GrpcClient F)
    (popped : w.grpc.pop = some (ticket, request, reply, rest)) :
    Within ⟨[], [.tickets, .calls request.method]⟩ e x w { w with grpc := rest } := by
  obtain ⟨-, ⟨accepted, stored⟩, removed⟩ := w.grpc.pop_spec rest ticket request reply popped
  refine w.within_calls e x _ rest ticket request.method (fun other elsewhere => ?_) ?_ ?_ (by simp)
    (by simp)
  · simp [removed, elsewhere]
  · intro call member
    rw [stored] at member
    obtain rfl := Option.some.inj member
    rfl
  · simp [removed]

theorem drainTask_calls (draws : Nat → RadiusDraw F) (method : Method)
    (other : method ≠ .injectBelief) (drained : w.drainTask draws = some w') (ticket : Nat) :
    w'.grpc.callsTo method ticket =
      if w.grpc.pop.map (·.1) = some ticket then none else w.grpc.callsTo method ticket := by
  unfold drainTask at drained
  split at drained
  next idle =>
    obtain rfl := Option.some.inj drained
    simp [idle]
  next head request reply rest popped =>
    have task := runTask_within _ w' 0 request reply draws drained
    have free : request.method.taskScope.covers (.calls method) = false := by
      cases request <;> cases method <;> first | rfl | exact absurd rfl other
    have kept : w'.grpc.callsTo method = rest.callsTo method := task.same (.calls method) free
    have removed := (w.grpc.pop_spec rest head request reply popped).2.2
    rw [kept, popped, GrpcClient.callsTo, removed]
    by_cases here : ticket = head
    next => simp [here]
    next => simp [here, Ne.symm here, GrpcClient.callsTo]

end World

end MundusVivens
