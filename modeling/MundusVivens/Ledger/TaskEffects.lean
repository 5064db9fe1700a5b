import MundusVivens.Shared.Folds
import MundusVivens.Ledger.Projection
import MundusVivens.Systems.ResultTasks
import MundusVivens.Ledger.PlayerEffects

set_option autoImplicit false

namespace MundusVivens

open Scalar LocationRegistry

variable {F : Type} [Scalar F]

namespace World

omit [Scalar F] in
theorem foldl_ledger {A : Type} (f : World F → A → World F)
    (same : ∀ w a, (f w a).ledger = w.ledger) (items : List A) (w : World F) :
    (items.foldl f w).ledger = w.ledger := by
  induction items generalizing w with
  | nil => rfl
  | cons item rest ih => exact (ih (f w item)).trans (same w item)

omit [Scalar F] in
theorem foldlM_ledger {A : Type} (f : World F → A → Option (World F))
    (same : ∀ w a w', f w a = some w' → w'.ledger = w.ledger) (items : List A) (w w' : World F)
    (folded : items.foldlM f w = some w') : w'.ledger = w.ledger :=
  Folds.foldlM_related (fun w w' : World F => w'.ledger = w.ledger) (fun _ => rfl)
    (fun _ _ _ first later => later.trans first) same items w w' folded

omit [Scalar F] in
theorem foldlM_release (f : World F → Entity → Option (World F))
    (releases : ∀ w e w', f w e = some w' → w'.ledger = w.ledger.release [e])
    (es : List Entity) (w w' : World F) (folded : es.foldlM f w = some w') :
    w'.ledger = w.ledger.release es := by
  induction es generalizing w with
  | nil =>
      rw [← Option.some.inj folded]
      exact (w.ledger.release_free [] (by simp)).symm
  | cons e rest ih =>
      simp only [List.foldlM_cons, Option.bind_eq_bind, Option.bind_eq_some_iff] at folded
      obtain ⟨middle, first, later⟩ := folded
      rw [ih middle later, releases w e middle first, Ledger.release_release]
      rfl

variable (w w' : World F) (e : Entity)

omit [Scalar F] in
@[simp] theorem restartToil_ledger : (w.restartToil e).ledger = w.ledger := by simp [restartToil]

omit [Scalar F] in
theorem eraseScheduleWait_kept : w.ledger.Kept (w.eraseScheduleWait e).ledger := by
  unfold eraseScheduleWait
  split
  next busy tagged =>
    split
    next waiting =>
      rw [ledger_eraseBusy]
      exact .single (.resume w.ledger e (by simp [ledger, tagged, waiting]))
    next => exact .refl
  next => exact .refl

theorem applyPendingJob_kept (payload : JobPayload F) (draw : RadiusDraw F) :
    w.ledger.Kept (w.applyPendingJob payload draw).ledger := by
  unfold applyPendingJob
  split
  next e _ =>
    have kept := eraseScheduleWait_kept ((w.setJob e (.ofPayload payload draw)).restartToil e) e
    simpa [writePendingJob] using kept
  next => exact .refl

theorem applyPendingJobs_kept (jobs : List (JobPayload F)) (draws : Nat → RadiusDraw F) :
    w.ledger.Kept (w.applyPendingJobs jobs draws).ledger := by
  unfold applyPendingJobs
  generalize jobs.zipIdx = entries
  induction entries generalizing w with
  | nil => exact .refl
  | cons entry rest ih => exact (w.applyPendingJob_kept entry.1 _).trans (ih _)

theorem applyNextJobs_ledger (jobs : List (JobPayload F)) (draws : Nat → RadiusDraw F)
    (applied : w.applyNextJobs jobs draws = some w') : w'.ledger = w.ledger := by
  refine foldlM_ledger _ ?_ _ w w' applied
  intro w entry w' applied
  unfold applyNextJob at applied
  split at applied
  next =>
    simp only [Option.bind_eq_bind, Option.bind_eq_some_iff] at applied
    obtain ⟨identity, -, stored⟩ := applied
    simp [← Option.some.inj stored, writeNextJob]
  next => rw [← Option.some.inj applied]

omit [Scalar F] in
theorem applyReport_ledger (newJob : Option (JobPayload F)) :
    (w.applyReport e newJob).ledger = w.ledger := by
  unfold applyReport
  split
  next => split <;> simp [writeReportedJob]
  next => rfl

theorem applyThreat_ledger (targetNpcId : UInt32) (success : Bool) (actionCode : Int)
    (applied : w.applyThreat e targetNpcId success actionCode = some w') :
    w'.ledger = w.ledger := by
  unfold applyThreat at applied
  split at applied
  next => rw [← Option.some.inj applied]
  next aggro _ =>
    split at applied
    next => rw [← Option.some.inj applied]
    next =>
      simp only [Option.bind_eq_bind, Option.bind_eq_some_iff] at applied
      obtain ⟨identity, -, applied⟩ := applied
      cases success with
      | true =>
          rw [if_pos rfl] at applied
          split at applied <;> simp [← Option.some.inj applied, exemptTarget]
      | false => simp [← Option.some.inj applied]

omit [Scalar F] in
theorem applyBatch_ledger (updates : List (AgentStatusUpdate F)) (targets : List Entity)
    (success : Bool) : (w.applyBatch updates targets success).ledger = w.ledger := by
  unfold applyBatch
  split
  next =>
    refine foldl_ledger _ (fun w entry => ?_) _ w
    obtain ⟨update, e⟩ := entry
    dsimp only
    split <;> rfl
  next => rfl

omit [Scalar F] in
theorem applyEmotionUpdate_ledger (update : AgentEmotionUpdate) :
    (w.applyEmotionUpdate update).ledger = w.ledger := by
  unfold applyEmotionUpdate
  split
  next => rfl
  next => split <;> rfl

theorem eavesdrop_silent (group : List Entity) (sourceNpcId : UInt32) (result : DialogueResult F)
    (talk : F × F × F) (request : Request F)
    (heard : w.eavesdrop group sourceNpcId result talk e = some request) :
    request.dialogueCall = none := by
  unfold eavesdrop at heard
  split at heard
  next => cases heard
  next =>
    simp only [Option.bind_eq_bind, Option.bind_eq_some_iff] at heard
    obtain ⟨identity, -, loc, -, content, -, stored⟩ := heard
    rw [← Option.some.inj stored]
    rfl

theorem eavesdropping_ledger (group : List Entity) (result : DialogueResult F)
    (spread : w.eavesdropping group result = some w') : w'.ledger = w.ledger := by
  unfold eavesdropping at spread
  split at spread
  next => rw [← Option.some.inj spread]
  next first rest =>
    split at spread
    next => rw [← Option.some.inj spread]
    next =>
      simp only [Option.bind_eq_bind, Option.bind_eq_some_iff] at spread
      obtain ⟨source, -, stored⟩ := spread
      rw [← Option.some.inj stored]
      refine Ledger.ext rfl rfl rfl rfl rfl rfl rfl rfl rfl rfl (w.grpc.pending_issueAll _ ?_)
      intro request member
      obtain ⟨bystander, -, heard⟩ := List.mem_filterMap.mp member
      exact w.eavesdrop_silent bystander _ _ _ _ request heard

omit [Scalar F] in
theorem dismissParticipant_ledger (group : List Entity) (tick : Int)
    (dismissed : dismissParticipant group tick w e = some w') :
    w'.ledger = w.ledger.release [e] := by
  unfold dismissParticipant at dismissed
  split at dismissed
  next invalid =>
    rw [← Option.some.inj dismissed]
    exact (w.release_invalid e (by simpa using invalid)).symm
  next =>
    simp only [Option.bind_eq_bind, Option.bind_eq_some_iff] at dismissed
    obtain ⟨activity, -, others, -, stored⟩ := dismissed
    simp [← Option.some.inj stored]

theorem finishDialogue_ledger (group : List Entity) (tick : Int) (result : DialogueResult F)
    (draws : Nat → RadiusDraw F) (finished : w.finishDialogue group tick result draws = some w') :
    w'.ledger = w.ledger.release group := by
  simp only [finishDialogue, Option.bind_eq_bind, Option.bind_eq_some_iff] at finished
  obtain ⟨identities, -, planned, installed, heard, spread, dismissed⟩ := finished
  have felt := foldl_ledger applyEmotionUpdate applyEmotionUpdate_ledger result.emotionUpdates w
  have quiet : heard.ledger = w.ledger := by
    rw [planned.eavesdropping_ledger heard group result spread,
      applyNextJobs_ledger _ planned _ _ installed, felt]
  rw [← quiet]
  exact foldlM_release _ (fun w e w' => w.dismissParticipant_ledger w' e group tick) group heard w'
    dismissed

omit [Scalar F] in
theorem cancelDialogue_ledger (group : List Entity) (cancelled : w.cancelDialogue group = some w') :
    w'.ledger = w.ledger.release group :=
  foldlM_release _ (fun w e w' => w.releaseIfValid_ledger w' e) group w w' cancelled

theorem dialogueTask_ledger (group : List Entity) (tick : Int) (success : Bool)
    (result : DialogueResult F) (draws : Nat → RadiusDraw F)
    (done : w.dialogueTask group tick success result draws = some w') :
    w'.ledger = w.ledger.release group := by
  unfold dialogueTask at done
  split at done
  next => exact w.finishDialogue_ledger w' group tick result draws done
  next => exact w.cancelDialogue_ledger w' group done

omit [Scalar F] in
theorem popped_ledger (ticket : Nat) (request : Request F) (reply : Reply F)
    (grpc : GrpcClient F) (popped : w.grpc.pop = some (ticket, request, reply, grpc)) :
    w.ledger.pending ticket = request.dialogueCall ∧
      ({ w with grpc := grpc } : World F).ledger = w.ledger.close ticket := by
  obtain ⟨-, ⟨accepted, call⟩, calls⟩ := w.grpc.pop_spec grpc ticket request reply popped
  constructor
  · simp [ledger, GrpcClient.pending, call]
  · have pending : grpc.pending = Function.update w.grpc.pending ticket none := by
      funext t
      by_cases same : t = ticket <;> simp [GrpcClient.pending, calls, same]
    exact Ledger.ext rfl rfl rfl rfl rfl rfl rfl rfl rfl rfl pending

inductive Completes (w : World F) : Ledger.Act → Prop where
  | opened (ticket : Nat) (npc player : Entity) (sessionId : UInt64) (playerId : String)
      (npcId : UInt32) (grpc : GrpcClient F)
      (popped : w.grpc.pop = some (ticket, .startPlayerDialogue playerId npcId npc player,
        .started true sessionId, grpc)) :
      Completes w (.opened ticket npc player sessionId)
  | refused (ticket : Nat) (npc player : Entity) : Completes w (.refused ticket npc player)
  | hungUp (ticket : Nat) (npc player : Option Entity) (sessionId : UInt64) (reply : Reply F)
      (grpc : GrpcClient F)
      (popped : w.grpc.pop = some (ticket, .endPlayerDialogue sessionId npc player, reply, grpc)) :
      Completes w (.hungUp ticket npc player)
  | dispersed (ticket : Nat) (members : List Entity) : Completes w (.dispersed ticket members)

theorem runTask_kept (draws : Nat → RadiusDraw F) (request : Request F) (reply : Reply F)
    (other : request.dialogueCall = none) (ran : w.runTask draws request reply = some w') :
    w.ledger.Kept w'.ledger := by
  unfold runTask at ran
  split at ran
  next =>
    rw [← Option.some.inj ran]
    exact .of_eq rfl
  next =>
    rw [← Option.some.inj ran]
    exact w.applyPendingJobs_kept _ draws
  next =>
    rw [← Option.some.inj ran]
    exact .of_eq (w.applyReport_ledger _ _)
  next => cases other
  next => cases other
  next => cases other
  next => exact .of_eq (w.applyThreat_ledger w' _ _ _ _ ran)
  next =>
    rw [← Option.some.inj ran]
    exact .of_eq (w.applyBatch_ledger _ _ _)
  next => exact .of_eq (congrArg ledger (Option.some.inj ran)).symm

theorem drainTask_ledger (draws : Nat → RadiusDraw F) (drained : w.drainTask draws = some w') :
    w.ledger.Kept w'.ledger ∨
      ∃ act, w.Completes act ∧ w.ledger.Enabled act ∧ w'.ledger = w.ledger.apply act := by
  unfold drainTask at drained
  split at drained
  next =>
    rw [← Option.some.inj drained]
    exact .inl .refl
  next ticket request reply grpc popped =>
    obtain ⟨captured, closed⟩ := w.popped_ledger ticket request reply grpc popped
    obtain ⟨fits, -, -⟩ := w.grpc.pop_spec grpc ticket request reply popped
    cases request with
    | triggerDialogue ids group tick =>
        cases reply with
        | dialogue success result =>
            refine .inr ⟨.dispersed ticket group, .dispersed ticket group, captured, ?_⟩
            have released := dialogueTask_ledger _ w' group tick success result draws drained
            rw [released, closed]
            rfl
        | _ => cases fits
    | startPlayerDialogue playerId npcId npc player =>
        cases reply with
        | started success sessionId =>
            have started := startedTask_ledger _ w' npc player success sessionId drained
            rw [closed] at started
            cases success with
            | true =>
                exact .inr ⟨.opened ticket npc player sessionId,
                  .opened ticket npc player sessionId playerId npcId grpc popped, captured, started⟩
            | false =>
                exact .inr ⟨.refused ticket npc player, .refused ticket npc player, captured, started⟩
        | _ => cases fits
    | endPlayerDialogue sessionId npc player =>
        cases reply with
        | outcome success =>
            have ended := endedTask_ledger _ w' npc player drained
            rw [closed] at ended
            exact .inr ⟨.hungUp ticket npc player,
              .hungUp ticket npc player sessionId (.outcome success) grpc popped, captured, ended⟩
        | _ => cases fits
    | _ =>
        have absent : w.ledger.pending ticket = none := captured
        have same : ({ w with grpc := grpc } : World F).ledger = w.ledger := by
          rw [closed, Ledger.close, ← absent, Function.update_eq_self]
        have kept := runTask_kept _ w' draws _ reply rfl drained
        rw [same] at kept
        exact .inl kept

end World

end MundusVivens
