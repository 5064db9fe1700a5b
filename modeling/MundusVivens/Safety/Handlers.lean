import MundusVivens.Safety.Talks

set_option autoImplicit false

namespace MundusVivens

open Scalar LocationRegistry

variable {F : Type} [Scalar F]

namespace World

variable {w m w' : World F} {e n : Entity}

def Named (w : World F) : Prop := ∀ e, w.reg.valid e = true → ∃ identity, w.reg.identity e = some identity

theorem Intact.named (intact : w.Intact) : w.Named := by
  intro e valid
  have known := intact.peopled.named e valid
  exact Option.isSome_iff_exists.mp (by simpa [ledger] using known)

omit [Scalar F] in
theorem Named.of_within {s : Scope} (named : w.Named) (within : ∀ x, Within s x x w w')
    (lasting : s.covers .valid = false) (known : s.covers .identity = false) : w'.Named := by
  intro e valid
  have present : w'.reg.valid e = w.reg.valid e := (within e).same .valid lasting
  have identity : w'.reg.identity e = w.reg.identity e := (within e).same .identity known
  rw [identity]
  exact named e (present ▸ valid)

omit [Scalar F] in
theorem OnStage.release (stage : w.OnStage n) (text : String) (y : Entity) :
    ((w.setActivity y text).eraseBusy y).OnStage n := by
  refine ⟨⟨stage.resident.valid, stage.resident.unplayed, stage.resident.unfurnished⟩, stage.located,
    ?_, stage.named⟩
  by_cases same : n = y
  next => simpa [setActivity, eraseBusy, Registry.eraseBusy, same] using same ▸ stage.shown
  next => simpa [setActivity, eraseBusy, Registry.eraseBusy, same] using stage.shown

theorem applyNextJobs_total (named : w.Named) (jobs : List (JobPayload F))
    (draws : Nat → RadiusDraw F) : ∃ planned, w.applyNextJobs jobs draws = some planned := by
  obtain ⟨planned, applied, -⟩ := Folds.foldlM_total (fun m : World F => m.Named)
    (fun m job => m.applyNextJob job.1 (draws job.2)) jobs.zipIdx
    (fun job _ m known => by
      unfold applyNextJob
      split
      next e target =>
        have valid : m.reg.valid e = true := by
          unfold nextJobTarget at target
          split at target
          next y _ =>
            split at target
            next valid =>
              obtain rfl := Option.some.inj target
              exact valid
            next => cases target
          next => cases target
        obtain ⟨identity, identified⟩ := known e valid
        simp only [identified, Option.bind_eq_bind, Option.bind_some]
        exact ⟨_, rfl, known⟩
      next => exact ⟨m, rfl, known⟩) w named
  exact ⟨planned, applied⟩

theorem eavesdropping_total (named : w.Named) (group : List Entity) (result : DialogueResult F) :
    ∃ heard, w.eavesdropping group result = some heard := by
  unfold eavesdropping
  split
  next => exact ⟨_, rfl⟩
  next first rest =>
    split
    next => exact ⟨_, rfl⟩
    next valid =>
      obtain ⟨source, identified⟩ := named first (by simpa using valid)
      simp only [identified, Option.bind_eq_bind, Option.bind_some]
      exact ⟨_, rfl⟩

omit [Scalar F] in
theorem dismissParticipant_total (group : List Entity) (tick : Int)
    (stage : ∀ n ∈ group, w.OnStage n) (e : Entity) (member : e ∈ group) :
    ∃ next, dismissParticipant group tick w e = some next ∧ ∀ n ∈ group, next.OnStage n := by
  obtain ⟨-, ⟨activity, shown⟩, -⟩ := (stage e member).reads
  obtain ⟨others, known⟩ := Folds.mapM_total (fun other => (w.reg.identity other).map (·.npcId))
    (group.filter (· ≠ e)) fun other among => by
      obtain ⟨-, -, identity, named⟩ := (stage other (List.mem_of_mem_filter among)).reads
      exact ⟨identity.npcId, by rw [named]; rfl⟩
  have ids : w.otherIds group e = some others := known
  have valid := (stage e member).resident.valid
  simp only [dismissParticipant, valid, shown, ids, Bool.not_true, Bool.false_eq_true, if_false,
    Option.bind_eq_bind, Option.bind_some]
  exact ⟨_, rfl, fun n among => (setCooldown_onStage e _ (stage n among)).release _ e⟩

theorem finishDialogue_total (named : w.Named) (group : List Entity) (tick : Int)
    (result : DialogueResult F) (draws : Nat → RadiusDraw F) (stage : ∀ n ∈ group, w.OnStage n) :
    ∃ w', w.finishDialogue group tick result draws = some w' := by
  obtain ⟨identities, read⟩ := Folds.mapM_total w.reg.identity group fun e member =>
    (stage e member).reads.2.2
  let felt := result.emotionUpdates.foldl applyEmotionUpdate w
  have feels (x : Entity) : Within emotionScope x x w felt :=
    .foldl applyEmotionUpdate (fun w update => w.applyEmotionUpdate_within x x update)
      result.emotionUpdates w
  have feltNamed : felt.Named := named.of_within feels rfl rfl
  obtain ⟨planned, jobs⟩ := applyNextJobs_total feltNamed result.nextJobs draws
  have plans (x : Entity) : Within hearingScope x x w planned :=
    ((feels x).mono (by decide)).trans ((applyNextJobs_within _ planned x x _ draws jobs).mono
      (by decide : installScope.within hearingScope = true))
  obtain ⟨heard, told⟩ := eavesdropping_total (named.of_within plans rfl rfl) group result
  have hears (x : Entity) : Within hearingScope x x w heard :=
    (plans x).trans ((planned.eavesdropping_within heard x x group result told).mono
      (by decide : Scope.within _ hearingScope = true))
  have kept (n : Entity) (member : n ∈ group) : heard.OnStage n := by
    have activity : heard.reg.activity n = w.reg.activity n := (hears n).same .activity rfl
    exact (stage n member).of_within (hears n) rfl rfl (by rw [activity]) rfl
  obtain ⟨w', dismissed, -⟩ := Folds.foldlM_total (fun m : World F => ∀ n ∈ group, m.OnStage n)
    (dismissParticipant group tick) group
    (fun e member m here => dismissParticipant_total group tick here e member) heard kept
  refine ⟨w', ?_⟩
  simp only [finishDialogue, read, Option.bind_eq_bind, Option.bind_some]
  rw [show (result.emotionUpdates.foldl applyEmotionUpdate w).applyNextJobs result.nextJobs draws =
    some planned from jobs, Option.bind_some, told, Option.bind_some]
  exact dismissed

omit [Scalar F] in
theorem releaseIfValid_total (npc : Entity)
    (shown : w.reg.valid npc = true → ∃ activity, w.reg.activity npc = some activity) :
    ∃ released, w.releaseIfValid npc = some released ∧
      ∀ n, w.OnStage n → released.OnStage n := by
  unfold releaseIfValid
  split
  next valid =>
    obtain ⟨activity, shown⟩ := shown valid
    simp only [releaseNpc, shown, Option.bind_eq_bind, Option.bind_some]
    exact ⟨_, rfl, fun n stage => stage.release _ npc⟩
  next => exact ⟨w, rfl, fun n stage => stage⟩

omit [Scalar F] in
theorem cancelDialogue_total (group : List Entity) (stage : ∀ n ∈ group, w.OnStage n) :
    ∃ w', w.cancelDialogue group = some w' := by
  obtain ⟨w', released, -⟩ := Folds.foldlM_total (fun m : World F => ∀ n ∈ group, m.OnStage n)
    releaseIfValid group (fun e member m here => by
      obtain ⟨next, freed, kept⟩ := releaseIfValid_total e fun _ => (here e member).reads.2.1
      exact ⟨next, freed, fun n among => kept n (here n among)⟩) w stage
  exact ⟨w', released⟩

omit [Scalar F] in
theorem startedTask_total (npc player : Entity) (success : Bool) (sessionId : UInt64)
    (stage : w.OnStage npc) : ∃ w', w.startedTask npc player success sessionId = some w' := by
  obtain ⟨-, ⟨activity, shown⟩, -⟩ := stage.reads
  unfold startedTask
  split
  next =>
    have talks : ∃ talking, w.showTalking npc = some talking := by
      unfold showTalking
      split
      next => exact ⟨_, by rw [shown]; rfl⟩
      next => exact ⟨_, rfl⟩
    obtain ⟨talking, shows⟩ := talks
    rw [shows]
    simp only [openDialogue, Option.bind_eq_bind, Option.bind_some]
    split
    next valid =>
      rw [Registry.setPlayerDialogue, dif_pos valid]
      exact ⟨_, rfl⟩
    next => exact ⟨_, rfl⟩
  next =>
    obtain ⟨released, freed, -⟩ := releaseIfValid_total npc fun _ => ⟨activity, shown⟩
    rw [freed]
    exact ⟨_, rfl⟩

omit [Scalar F] in
theorem endedTask_total (npc player : Option Entity) (stage : ∀ n ∈ npc, w.OnStage n) :
    ∃ w', w.endedTask npc player = some w' := by
  unfold endedTask
  cases npc with
  | none => exact ⟨_, rfl⟩
  | some npc =>
      obtain ⟨released, freed, -⟩ := releaseIfValid_total npc fun _ => (stage npc rfl).reads.2.1
      simp only [Option.elim_some, freed, Option.bind_eq_bind, Option.bind_some]
      exact ⟨_, rfl⟩

theorem applyThreat_total (named : w.Named) (targetNpcId : UInt32) (success : Bool)
    (actionCode : Int) : ∃ w', w.applyThreat e targetNpcId success actionCode = some w' := by
  unfold applyThreat
  split
  next => exact ⟨_, rfl⟩
  next aggro _ =>
    split
    next => exact ⟨_, rfl⟩
    next valid =>
      obtain ⟨identity, identified⟩ := named e (by simpa using valid)
      simp only [identified, Option.bind_eq_bind, Option.bind_some]
      repeat' split
      all_goals exact ⟨_, rfl⟩

theorem drainTask_total (intact : w.Intact) (draws : Nat → RadiusDraw F) :
    ∃ w', w.drainTask draws = some w' := by
  unfold drainTask
  split
  next => exact ⟨_, rfl⟩
  next ticket request reply rest popped =>
    obtain ⟨-, ⟨accepted, stored⟩, -⟩ := w.grpc.pop_spec rest ticket request reply popped
    have named : ({ w with grpc := rest } : World F).Named := intact.named
    have stage (n : Entity) (party : ∃ call, request.dialogueCall = some call ∧ n ∈ call.npcs) :
        ({ w with grpc := rest } : World F).OnStage n := by
      obtain ⟨call, calls, member⟩ := party
      have waiting : w.ledger.pending ticket = some call := by
        simp [ledger, GrpcClient.pending, stored, calls]
      have known := intact.onStage
        ((w.isNpc_ledger n).mp (intact.peopled.parties ticket call n waiting member))
      exact ⟨⟨known.resident.valid, known.resident.unplayed, known.resident.unfurnished⟩,
        known.located, known.shown, known.named⟩
    unfold runTask
    split
    next => exact ⟨_, rfl⟩
    next => exact ⟨_, rfl⟩
    next => exact ⟨_, rfl⟩
    next ids group tick success result =>
      have members (n : Entity) (member : n ∈ group) := stage n ⟨_, rfl, member⟩
      unfold dialogueTask
      split
      next => exact finishDialogue_total named group tick result draws members
      next => exact cancelDialogue_total group members
    next npc player success sessionId =>
      exact startedTask_total npc player success sessionId
        (stage npc ⟨_, rfl, by simp [DialogueCall.npcs]⟩)
    next npc player success =>
      exact endedTask_total npc player fun n member =>
        stage n ⟨_, rfl, by simpa [DialogueCall.npcs] using member⟩
    next => exact applyThreat_total named _ _ _
    next => exact ⟨_, rfl⟩
    next => exact ⟨_, rfl⟩

end World

end MundusVivens
