import MundusVivens.Shared.Folds
import MundusVivens.Systems.MainLoop
import MundusVivens.World.Body

set_option autoImplicit false

/-!
# The job handlers

Three result tasks install jobs. Each knows beforehand on which entities it will;
every other entity keeps its job and its toil.
-/

namespace MundusVivens

open Scalar LocationRegistry

variable {F : Type}

-- The entity keeps its job and its toil, and the choice of targets stays the same.
structure KeepsWork (x : Entity) (w w' : World F) : Prop where
  job : w'.reg.job x = w.reg.job x
  toil : w'.reg.toil x = w.reg.toil x
  needs : w'.reg.needs = w.reg.needs
  valid : w'.reg.valid = w.reg.valid
  index : w'.index = w.index

def World.IsReset (w : World F) (x : Entity) : Prop :=
  ∃ toil, w.reg.toil x = some toil ∧ toil.state = .idle ∧ toil.durationTicks = 0

namespace KeepsWork

variable {x : Entity} {w m w' : World F}

theorem refl (w : World F) : KeepsWork x w w := ⟨rfl, rfl, rfl, rfl, rfl⟩

theorem trans (first : KeepsWork x w m) (second : KeepsWork x m w') : KeepsWork x w w' :=
  ⟨second.job.trans first.job, second.toil.trans first.toil, second.needs.trans first.needs,
    second.valid.trans first.valid, second.index.trans first.index⟩

theorem foldl {A : Type} (f : World F → A → World F) (keeps : ∀ w a, KeepsWork x w (f w a))
    (items : List A) (w : World F) : KeepsWork x w (items.foldl f w) := by
  induction items generalizing w with
  | nil => exact .refl w
  | cons item rest ih => exact (keeps w item).trans (ih (f w item))

theorem foldlM {A : Type} (f : World F → A → Option (World F))
    (keeps : ∀ w a w', f w a = some w' → KeepsWork x w w') (items : List A) (w w' : World F)
    (folded : items.foldlM f w = some w') : KeepsWork x w w' :=
  Folds.foldlM_related (KeepsWork x) (fun w => .refl w) (fun _ _ _ first later => first.trans later) keeps
    items w w' folded

theorem reset (keeps : KeepsWork x w w') (before : w.IsReset x) : w'.IsReset x := by
  simpa only [World.IsReset, keeps.toil] using before

theorem installing {A : Type} (f : World F → A → Option (World F))
    (target : World F → A → Option Entity)
    (spares : ∀ w a w', f w a = some w' → target w a ≠ some x → KeepsWork x w w')
    (installs : ∀ w a w', f w a = some w' → target w a = some x → w'.IsReset x)
    (known : ∀ w m a, KeepsWork x w m → (target m a = some x ↔ target w a = some x))
    (items : List A) (w w' : World F) (folded : items.foldlM f w = some w') :
    (x ∉ items.filterMap (target w) ∧ KeepsWork x w w') ∨
      (x ∈ items.filterMap (target w) ∧ w'.IsReset x) := by
  have stays (items : List A) (m : World F) (folded : items.foldlM f m = some w')
      (idle : m.IsReset x) : w'.IsReset x := by
    induction items generalizing m with
    | nil => exact Option.some.inj folded ▸ idle
    | cons item rest ih =>
        simp only [List.foldlM_cons, Option.bind_eq_bind, Option.bind_eq_some_iff] at folded
        obtain ⟨middle, first, later⟩ := folded
        by_cases hit : target m item = some x
        next => exact ih middle later (installs m item middle first hit)
        next => exact ih middle later ((spares m item middle first hit).reset idle)
  induction items generalizing w with
  | nil =>
      obtain rfl := Option.some.inj folded
      exact .inl ⟨by simp, .refl w⟩
  | cons item rest ih =>
      simp only [List.foldlM_cons, Option.bind_eq_bind, Option.bind_eq_some_iff] at folded
      obtain ⟨middle, first, later⟩ := folded
      by_cases hit : target w item = some x
      next =>
        refine .inr ⟨?_, stays rest middle later (installs w item middle first hit)⟩
        exact List.mem_filterMap.mpr ⟨item, by simp, hit⟩
      next =>
        have keeps := spares w item middle first hit
        have same : x ∈ rest.filterMap (target middle) ↔
            x ∈ (item :: rest).filterMap (target w) := by
          simp only [List.mem_filterMap, List.mem_cons, exists_eq_or_imp, hit, false_or,
            known w middle _ keeps]
        rcases ih middle later with ⟨outside, kept⟩ | ⟨inside, idle⟩
        · exact .inl ⟨fun member => outside (same.mpr member), keeps.trans kept⟩
        · exact .inr ⟨same.mp inside, idle⟩

end KeepsWork

variable [Scalar F]

namespace World

def taskTargets (w : World F) : Request F → Reply F → List Entity
  | .getPendingJobs _, .jobs true jobs => jobs.filterMap w.pendingJobTarget
  | .reportJobStatus _ _ _ _ _ _ (.install e), .report true (some _) =>
      if w.reg.valid e && (w.reg.job e).isSome then [e] else []
  | .triggerDialogue _ group _, .dialogue success result =>
      if success && result.success && group.all w.reg.valid then
        result.nextJobs.filterMap w.nextJobTarget
      else []
  | _, _ => []

def jobTargets (w : World F) : Event F → List Entity
  | .drainTask _ =>
      match w.grpc.pop with
      | some (_, request, reply, _) => w.taskTargets request reply
      | none => []
  | _ => []

variable (w w' : World F) (e x : Entity)

-- What a result task does to an entity: it keeps its work, or its toil starts over.
def Treats (w : World F) (targets : List Entity) (w' : World F) (x : Entity) : Prop :=
  (x ∉ targets ∧ KeepsWork x w w') ∨ (x ∈ targets ∧ w'.IsReset x)

omit [Scalar F] in
variable {w w' x} in
theorem Treats.of_keeps (keeps : KeepsWork x w w') : w.Treats [] w' x := .inl ⟨by simp, keeps⟩

omit [Scalar F] in
theorem restartToil_reset : (w.restartToil e).IsReset e := by simp [IsReset, restartToil, setToil]

omit [Scalar F] in
theorem eraseScheduleWait_keeps : KeepsWork x w (w.eraseScheduleWait e) := by
  unfold eraseScheduleWait
  split
  next => split <;> exact ⟨rfl, rfl, rfl, rfl, rfl⟩
  next => exact .refl w

theorem writeNextJob_keeps (payload : JobPayload F) (draw : RadiusDraw F) (other : x ≠ e) :
    KeepsWork x w (w.writeNextJob e payload draw) :=
  ⟨by simp [writeNextJob, restartToil, setJob, setToil, other],
    by simp [writeNextJob, restartToil, setJob, setToil, other], rfl, rfl, rfl⟩

theorem writePendingJob_keeps (payload : JobPayload F) (draw : RadiusDraw F) (other : x ≠ e) :
    KeepsWork x w (w.writePendingJob e payload draw) :=
  (w.writeNextJob_keeps e x payload draw other).trans (eraseScheduleWait_keeps _ e x)

omit [Scalar F] in
theorem writeReportedJob_keeps (job : JobComp F) (payload : JobPayload F) (other : x ≠ e) :
    KeepsWork x w (w.writeReportedJob e job payload) :=
  ⟨by simp [writeReportedJob, restartToil, setJob, setToil, other],
    by simp [writeReportedJob, restartToil, setJob, setToil, other], rfl, rfl, rfl⟩

theorem pendingJobTarget_iff (payload : JobPayload F) :
    w.pendingJobTarget payload = some x ↔
      w.index.byNpcId payload.npcId = some x ∧ w.reg.valid x = true ∧ w.isResolving x = false ∧
        ¬((w.jobOrDefault x).jobId = payload.jobId ∧ (w.jobOrDefault x).isActive = true) := by
  unfold pendingJobTarget
  cases indexed : w.index.byNpcId payload.npcId with
  | none => simp
  | some y =>
      by_cases same : y = x
      next =>
        subst same
        cases valid : w.reg.valid y <;> cases calm : w.isResolving y <;> simp [valid, calm]
      next => simp [same]

theorem pendingJobTarget_known (m : World F) (payload : JobPayload F) (keeps : KeepsWork x w m) :
    m.pendingJobTarget payload = some x ↔ w.pendingJobTarget payload = some x := by
  simp only [pendingJobTarget_iff, keeps.index, keeps.valid, isResolving, keeps.needs,
    jobOrDefault, keeps.job]

theorem applyPendingJobs_treats (jobs : List (JobPayload F)) (draws : Nat → RadiusDraw F) :
    w.Treats (jobs.filterMap w.pendingJobTarget) (w.applyPendingJobs jobs draws) x := by
  have folded : jobs.zipIdx.foldlM (fun w job => some (w.applyPendingJob job.1 (draws job.2))) w =
      some (w.applyPendingJobs jobs draws) := List.foldlM_pure
  have targets : jobs.zipIdx.filterMap (fun job => w.pendingJobTarget job.1) =
      jobs.filterMap w.pendingJobTarget := by
    conv_rhs => rw [← List.zipIdx_map_fst 0 jobs]
    rw [List.filterMap_map]
    rfl
  rw [← targets]
  refine KeepsWork.installing _ (fun w job => w.pendingJobTarget job.1) ?_ ?_ ?_ _ w _ folded
  · intro m job m' applied spared
    rw [← Option.some.inj applied, applyPendingJob]
    split
    next y hit =>
      have other : x ≠ y := by
        rintro rfl
        exact spared hit
      exact m.writePendingJob_keeps y x job.1 _ other
    next => exact .refl m
  · intro m job m' applied hit
    rw [← Option.some.inj applied, applyPendingJob, hit]
    exact (eraseScheduleWait_keeps _ x x).reset (restartToil_reset _ x)
  · exact fun w m job keeps => w.pendingJobTarget_known x m job.1 keeps

theorem applyNextJobs_treats (jobs : List (JobPayload F)) (draws : Nat → RadiusDraw F)
    (applied : w.applyNextJobs jobs draws = some w') :
    w.Treats (jobs.filterMap w.nextJobTarget) w' x := by
  have targets : jobs.zipIdx.filterMap (fun job => w.nextJobTarget job.1) =
      jobs.filterMap w.nextJobTarget := by
    conv_rhs => rw [← List.zipIdx_map_fst 0 jobs]
    rw [List.filterMap_map]
    rfl
  rw [← targets]
  refine KeepsWork.installing _ (fun w job => w.nextJobTarget job.1) ?_ ?_ ?_ _ w w' applied
  · intro m job m' applied spared
    unfold applyNextJob at applied
    split at applied
    next y hit =>
      have other : x ≠ y := by
        rintro rfl
        exact spared hit
      simp only [Option.bind_eq_bind, Option.bind_eq_some_iff] at applied
      obtain ⟨identity, -, stored⟩ := applied
      rw [← Option.some.inj stored]
      exact m.writeNextJob_keeps y x job.1 _ other
    next =>
      rw [← Option.some.inj applied]
      exact .refl m
  · intro m job m' applied hit
    simp only [applyNextJob, hit, Option.bind_eq_bind, Option.bind_eq_some_iff] at applied
    obtain ⟨identity, -, stored⟩ := applied
    rw [← Option.some.inj stored]
    exact restartToil_reset _ x
  · intro w m job keeps
    simp only [nextJobTarget, keeps.index, keeps.valid]

omit [Scalar F] in
theorem applyReport_treats (payload : JobPayload F) :
    w.Treats (if w.reg.valid e && (w.reg.job e).isSome then [e] else [])
      (w.applyReport e (some payload)) x := by
  unfold applyReport
  cases employed : w.reg.job e with
  | none => simpa using Treats.of_keeps (.refl w)
  | some job =>
      by_cases valid : w.reg.valid e = true
      next =>
        simp only [valid, Option.isSome_some, Bool.and_true, if_true]
        by_cases same : x = e
        next =>
          subst same
          exact .inr ⟨by simp, restartToil_reset _ x⟩
        next => exact .inl ⟨by simpa using same, w.writeReportedJob_keeps e x job payload same⟩
      next => simpa [valid] using Treats.of_keeps (.refl w)

omit [Scalar F] in
theorem applyEmotionUpdate_keeps (update : AgentEmotionUpdate) :
    KeepsWork x w (w.applyEmotionUpdate update) := by
  unfold applyEmotionUpdate
  split
  next => exact .refl w
  next =>
    split
    next => exact ⟨rfl, rfl, rfl, rfl, rfl⟩
    next => exact .refl w

theorem eavesdropping_keeps (group : List Entity) (result : DialogueResult F)
    (spread : w.eavesdropping group result = some w') : KeepsWork x w w' := by
  unfold eavesdropping at spread
  split at spread
  next =>
    rw [← Option.some.inj spread]
    exact .refl w
  split at spread
  next =>
    rw [← Option.some.inj spread]
    exact .refl w
  next =>
    simp only [Option.bind_eq_bind, Option.bind_eq_some_iff] at spread
    obtain ⟨source, -, stored⟩ := spread
    rw [← Option.some.inj stored]
    exact ⟨rfl, rfl, rfl, rfl, rfl⟩

omit [Scalar F] in
theorem dismissParticipant_keeps (group : List Entity) (tick : Int)
    (dismissed : dismissParticipant group tick w e = some w') : KeepsWork x w w' := by
  unfold dismissParticipant at dismissed
  split at dismissed
  next =>
    rw [← Option.some.inj dismissed]
    exact .refl w
  next =>
    simp only [Option.bind_eq_bind, Option.bind_eq_some_iff] at dismissed
    obtain ⟨activity, -, others, -, stored⟩ := dismissed
    rw [← Option.some.inj stored]
    exact ⟨rfl, rfl, rfl, rfl, rfl⟩

omit [Scalar F] in
theorem releaseIfValid_keeps (released : w.releaseIfValid e = some w') : KeepsWork x w w' := by
  unfold releaseIfValid at released
  split at released
  next =>
    simp only [releaseNpc, Option.bind_eq_bind, Option.bind_eq_some_iff] at released
    obtain ⟨activity, -, stored⟩ := released
    rw [← Option.some.inj stored]
    exact ⟨rfl, rfl, rfl, rfl, rfl⟩
  next =>
    rw [← Option.some.inj released]
    exact .refl w

theorem dialogueTask_treats (group : List Entity) (tick : Int) (success : Bool)
    (result : DialogueResult F) (draws : Nat → RadiusDraw F)
    (done : w.dialogueTask group tick success result draws = some w') :
    w.Treats (if success && result.success && group.all w.reg.valid then
      result.nextJobs.filterMap w.nextJobTarget else []) w' x := by
  unfold dialogueTask at done
  split at done
  next finished =>
    rw [if_pos finished]
    simp only [finishDialogue, Option.bind_eq_bind, Option.bind_eq_some_iff] at done
    obtain ⟨identities, -, planned, installed, heard, spread, dismissed⟩ := done
    -- Only the second of the four stages installs jobs.
    have felt : KeepsWork x w (result.emotionUpdates.foldl applyEmotionUpdate w) :=
      .foldl _ (fun w update => w.applyEmotionUpdate_keeps x update) _ w
    have targets : result.nextJobs.filterMap
        (result.emotionUpdates.foldl applyEmotionUpdate w).nextJobTarget =
          result.nextJobs.filterMap w.nextJobTarget := by
      congr 1
      funext payload
      simp only [nextJobTarget, felt.index, felt.valid]
    have listened := planned.eavesdropping_keeps heard x group result spread
    have left : KeepsWork x heard w' :=
      .foldlM _ (fun w e w' => w.dismissParticipant_keeps w' e x group tick) group heard w' dismissed
    rcases applyNextJobs_treats _ planned x _ draws installed with
      ⟨outside, kept⟩ | ⟨inside, reset⟩
    · exact .inl ⟨targets ▸ outside, (felt.trans kept).trans (listened.trans left)⟩
    · exact .inr ⟨targets ▸ inside, left.reset (listened.reset reset)⟩
  next unfinished =>
    rw [if_neg unfinished]
    exact .of_keeps (.foldlM _ (fun w e w' => w.releaseIfValid_keeps w' e x) group w w' done)

omit [Scalar F] in
theorem startedTask_keeps (npc player : Entity) (success : Bool) (sessionId : UInt64)
    (started : w.startedTask npc player success sessionId = some w') : KeepsWork x w w' := by
  unfold startedTask at started
  split at started
  next =>
    simp only [Option.bind_eq_bind, Option.bind_eq_some_iff] at started
    obtain ⟨talking, shown, opened⟩ := started
    have showing : KeepsWork x w talking := by
      unfold showTalking at shown
      split at shown
      next =>
        simp only [Option.bind_eq_bind, Option.bind_eq_some_iff] at shown
        obtain ⟨activity, -, stored⟩ := shown
        rw [← Option.some.inj stored]
        exact ⟨rfl, rfl, rfl, rfl, rfl⟩
      next =>
        rw [← Option.some.inj shown]
        exact .refl w
    refine showing.trans ?_
    unfold openDialogue at opened
    split at opened
    next valid =>
      simp only [Registry.setPlayerDialogue, valid, Option.bind_eq_bind,
        Option.bind_eq_some_iff] at opened
      obtain ⟨reg, checked, stored⟩ := opened
      cases checked
      cases stored
      exact ⟨rfl, rfl, rfl, rfl, rfl⟩
    next =>
      rw [← Option.some.inj opened]
      exact .refl talking
  next =>
    simp only [Option.bind_eq_bind, Option.bind_eq_some_iff] at started
    obtain ⟨released, freed, stored⟩ := started
    refine (w.releaseIfValid_keeps released npc x freed).trans ?_
    rw [← Option.some.inj stored]
    unfold eraseBusyIfValid
    split
    next => exact ⟨rfl, rfl, rfl, rfl, rfl⟩
    next => exact .refl released

omit [Scalar F] in
theorem endedTask_keeps (npc player : Option Entity) (ended : w.endedTask npc player = some w') :
    KeepsWork x w w' := by
  simp only [endedTask, Option.bind_eq_bind, Option.bind_eq_some_iff] at ended
  obtain ⟨released, freed, stored⟩ := ended
  have first : KeepsWork x w released := by
    cases npc with
    | none =>
        obtain rfl := Option.some.inj freed
        exact .refl w
    | some npc => exact w.releaseIfValid_keeps released npc x freed
  refine first.trans ?_
  rw [← Option.some.inj stored]
  cases player with
  | none => exact .refl released
  | some player =>
      simp only [Option.elim_some, closeDialogue]
      split
      next => exact ⟨rfl, rfl, rfl, rfl, rfl⟩
      next => exact .refl released

theorem applyThreat_keeps (targetNpcId : UInt32) (success : Bool) (actionCode : Int)
    (applied : w.applyThreat e targetNpcId success actionCode = some w') : KeepsWork x w w' := by
  unfold applyThreat at applied
  split at applied
  next =>
    rw [← Option.some.inj applied]
    exact .refl w
  split at applied
  next =>
    rw [← Option.some.inj applied]
    exact .refl w
  next =>
    simp only [Option.bind_eq_bind, Option.bind_eq_some_iff] at applied
    obtain ⟨identity, -, applied⟩ := applied
    split at applied
    next => split at applied <;> exact Option.some.inj applied ▸ ⟨rfl, rfl, rfl, rfl, rfl⟩
    next => exact Option.some.inj applied ▸ ⟨rfl, rfl, rfl, rfl, rfl⟩

omit [Scalar F] in
theorem applyBatch_keeps (updates : List (AgentStatusUpdate F)) (targets : List Entity)
    (success : Bool) : KeepsWork x w (w.applyBatch updates targets success) := by
  unfold applyBatch
  split
  next =>
    refine .foldl _ (fun m entry => ?_) _ w
    obtain ⟨update, e⟩ := entry
    dsimp only
    split
    next => exact ⟨rfl, rfl, rfl, rfl, rfl⟩
    next => exact .refl m
  next => exact .refl w

theorem runTask_treats (draws : Nat → RadiusDraw F) (request : Request F) (reply : Reply F)
    (ran : w.runTask draws request reply = some w') :
    w.Treats (w.taskTargets request reply) w' x := by
  have silent {m : World F} (stored : some w = some m) : KeepsWork x w m :=
    Option.some.inj stored ▸ .refl w
  unfold runTask at ran
  split at ran
  case h_1 targetTick success deltas =>
    exact .of_keeps (Option.some.inj ran ▸ ⟨rfl, rfl, rfl, rfl, rfl⟩)
  case h_2 tick jobs => exact Option.some.inj ran ▸ w.applyPendingJobs_treats x jobs draws
  case h_3 npcId jobId status reason text tick e newJob =>
    rw [← Option.some.inj ran]
    cases newJob with
    | some payload => exact w.applyReport_treats e x payload
    | none =>
        refine .of_keeps ?_
        unfold applyReport
        split
        next absent => cases absent
        next => exact .refl w
  case h_4 ids group tick success result =>
    exact w.dialogueTask_treats w' x group tick success result draws ran
  case h_5 playerId npcId npc player success sessionId =>
    exact .of_keeps (w.startedTask_keeps w' x npc player success sessionId ran)
  case h_6 sessionId npc player success => exact .of_keeps (w.endedTask_keeps w' x npc player ran)
  case h_7 npcId targetNpcId score e success actionCode =>
    exact .of_keeps (w.applyThreat_keeps w' e x targetNpcId success actionCode ran)
  case h_8 updates targets success =>
    exact .of_keeps (Option.some.inj ran ▸ w.applyBatch_keeps x updates targets success)
  case h_9 _ not_jobs not_report not_talk _ _ _ _ =>
    have none_targeted : w.taskTargets request reply = [] := by
      unfold taskTargets
      split
      next => exact (not_jobs _ _ rfl rfl).elim
      next => exact (not_report _ _ _ _ _ _ _ _ rfl rfl).elim
      next => exact (not_talk _ _ _ _ _ rfl rfl).elim
      next => rfl
    rw [none_targeted]
    exact .of_keeps (silent ran)

theorem drainTask_treats (draws : Nat → RadiusDraw F) (drained : w.drainTask draws = some w') :
    w.Treats (w.jobTargets (.drainTask draws)) w' x := by
  unfold drainTask at drained
  unfold jobTargets
  split at drained
  next empty =>
    simp only [empty]
    exact .of_keeps (Option.some.inj drained ▸ .refl w)
  next ticket request reply grpc popped =>
    simp only [popped]
    have treated := runTask_treats _ w' x draws request reply drained
    have targets : ({ w with grpc := grpc } : World F).taskTargets request reply =
        w.taskTargets request reply := rfl
    rw [targets] at treated
    rcases treated with ⟨outside, kept⟩ | reset
    · exact .inl ⟨outside, ⟨kept.job, kept.toil, kept.needs, kept.valid, kept.index⟩⟩
    · exact .inr reset

end World

end MundusVivens
