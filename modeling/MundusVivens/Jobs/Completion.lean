import MundusVivens.Jobs.Decisions
import MundusVivens.Jobs.SurvivalLock

set_option autoImplicit false

/-!
# Completion

The job driver completes the job of an NPC that works on it. An NPC begins to
work by arriving, unless it stops on the move to fight; from then on it works on
the same job.
-/

namespace MundusVivens

open Scalar Runs

variable {F : Type}

-- The step reports a job as completed: the status of the report is 0.
def ReportsCompleted (jobId : UInt64) (w w' : World F) : Prop :=
  ∃ npcId reason text tick callback call, w'.grpc.calls w.grpc.nextTicket = some call ∧
    call.request = .reportJobStatus npcId jobId 0 reason text tick callback

theorem ReportsCompleted.absent {jobId : UInt64} {w w' : World F} (same : w'.grpc = w.grpc) :
    ¬ReportsCompleted jobId w w' := by
  rintro ⟨npcId, reason, text, tick, callback, call, issued, -⟩
  rw [same, w.grpc.unissued _ le_rfl] at issued
  cases issued

theorem ReportsCompleted.request {jobId : UInt64} {w w' : World F} {request : Request F}
    (same : w'.grpc = w.grpc.issue request) (reports : ReportsCompleted jobId w w') :
    ∃ npcId reason text tick callback,
      request = .reportJobStatus npcId jobId 0 reason text tick callback := by
  obtain ⟨npcId, reason, text, tick, callback, call, issued, asked⟩ := reports
  rw [same] at issued
  obtain rfl : (⟨request, none, by simp⟩ : Call F) = call := by simpa [GrpcClient.issue] using issued
  exact ⟨npcId, reason, text, tick, callback, asked⟩

variable [Scalar F]

/-- The ways an NPC begins to work by arriving: an arrival branch of the movement, and the branch
of the job driver for an NPC that is already there. -/
inductive Arrives (e : Entity) : Transition (World F) (Event F) → Prop where
  | walked (w w' : World F) (loc : LocationComp F) (toil : ToilComp) (path : PathfindingComp F)
      (job : JobComp F) (moves : w.reg.toil e = some toil) (moving : toil.state = .moving)
      (arrived : w.arrive e loc toil path job = some w') : Arrives e ⟨w, .movement e, w'⟩
  | there (w w' : World F) (loc : LocationComp F) (toil toil' : ToilComp) (job : JobComp F)
      (located : w.reg.location e = some loc) (hasJob : w.reg.job e = some job)
      (near : loc.locationName = job.targetLocation) (rests : w.toilOrDefault e = toil)
      (resting : toil.state ≠ .working) (works : w'.reg.toil e = some toil')
      (working : toil'.state = .working) : Arrives e ⟨w, .jobDriver e, w'⟩

namespace World

variable (w w' : World F) (e x : Entity)

theorem pathfinding_steady (searches spent : Nat) (choice : PathChoice F)
    (visited : w.pathfinding e searches choice = some (w', spent)) : Steady x w w' := by
  have seeks := w.pathfinding_seeks e searches spent choice w' visited
  by_cases self : x = e
  next =>
    subst self
    -- Who is visited moves, and moves or rests afterwards.
    have aims (loc : LocationComp F) (job : JobComp F) (path : PathfindingComp F)
        (aimed : w.aim x choice = some (loc, job, path)) :
        ∃ toil, w.reg.toil x = some toil ∧ toil.state = .moving :=
      (w.aim_some x choice loc job path aimed).2.1
    cases seeks with
    | unaimed => exact (Spared.refl w).steady
    | sighted loc job path aimed =>
        obtain ⟨toil, active, moving⟩ := aims loc job path aimed
        obtain ⟨taken, velocity, -, own⟩ :=
          (w.setJob x job).seekDirectly_own x path job.targetX job.targetZ
        exact .of_toil toil ((congrArg Body.toil own).trans active) (by simp [moving])
    | kept loc job path aimed =>
        obtain ⟨toil, active, moving⟩ := aims loc job path aimed
        exact .of_toil toil active (by simp [moving])
    | postponed loc job path aimed =>
        obtain ⟨toil, active, moving⟩ := aims loc job path aimed
        exact .of_toil toil active (by simp [moving])
    | searched loc job path toil result map aimed hasToil =>
        obtain ⟨toil', active, moving⟩ := aims loc job path aimed
        obtain rfl := Option.some.inj (hasToil.symm.trans active)
        rcases followResult_own ({ w.setJob x job with map := map } : World F) x toil loc
          { path with lastTargetX := job.targetX, lastTargetZ := job.targetZ } result with
          ⟨given, velocity, -, own⟩ | ⟨taken, velocity, -, -, -, -, -, -, own⟩
        · exact .of_toil { toil with state := .idle } (congrArg Body.toil own) (by simp)
        · exact .of_toil toil ((congrArg Body.toil own).trans hasToil) (by simp [moving])
  next => exact (Spared.of_body (seeks.walks.others x self)).steady

theorem arrive_job (loc : LocationComp F) (toil : ToilComp) (path : PathfindingComp F)
    (job : JobComp F) (arrived : w.arrive e loc toil path job = some w') :
    w'.reg.job e = w.reg.job e := by
  simp only [arrive, Option.bind_eq_bind, Option.bind_eq_some_iff, Option.some.injEq] at arrived
  obtain ⟨activity, -, rfl⟩ := arrived
  obtain ⟨there, own, -⟩ := (w.setLocation e { loc with
    x := job.targetX, y := job.targetY, z := job.targetZ }).updateEntityPosition_own e job.targetX
      job.targetZ
  exact congrArg Body.job own

theorem movement_commits (moved : w.movement e = some w') :
    Steady x w w' ∨
      (x = e ∧ Arrives e ⟨w, .movement e, w'⟩ ∧ w'.reg.job e = w.reg.job e) := by
  have strides := w.movement_strides e w' moved
  by_cases self : x = e
  next =>
    subst self
    cases strides with
    | unready => exact .inl (Spared.refl w).steady
    | resting => exact .inl (Spared.steady (.of_same rfl rfl rfl))
    | reached loc toil path vel job walker moving _ _ _ arrived =>
        exact .inr ⟨rfl, .walked w w' loc toil path job walker.toil moving arrived,
          w.arrive_job w' x loc toil path job arrived⟩
    | steered loc toil path vel job _ _ _ _ steer =>
        have turned : Spared x w (w.setVelocity x { vel with dirX := steer.1, dirZ := steer.2 }) :=
          .of_same rfl rfl rfl
        exact .inl (turned.trans (updateEntityPosition_spared _ x x _ _)).steady
    | finished loc toil path vel job walker moving _ _ _ _ arrived =>
        exact .inr ⟨rfl, .walked w w' loc toil path job walker.toil moving arrived,
          w.arrive_job w' x loc toil path job arrived⟩
    | cutShort => exact .inl (Spared.steady (.of_same rfl rfl rfl))
    | followed loc toil path vel job walker moving target =>
        refine .inl (Spared.steady ?_)
        unfold followWaypoint
        dsimp only
        split
        next => exact .of_same rfl rfl rfl
        next =>
          have turned (m : World F) (same : m.reg.job = w.reg.job ∧ m.reg.toil = w.reg.toil ∧
              m.reg.needs = w.reg.needs) : Spared x w m := .of_same same.1 same.2.1 same.2.2
          split
          next => exact (turned _ ⟨rfl, rfl, rfl⟩).trans (updateEntityPosition_spared _ x x _ _)
          next => exact (turned _ ⟨rfl, rfl, rfl⟩).trans (updateEntityPosition_spared _ x x _ _)
  next => exact .inl (Spared.of_body (strides.walks.others x self)).steady

-- The ways a visit of the job driver ends.
inductive Drives : World F → Prop where
  | passed (w' : World F) (steady : Steady e w w') (quiet : w'.grpc = w.grpc) : Drives w'
  | paused (w' : World F) (npcId : UInt32) (jobId : UInt64) (steady : Steady e w w')
      (asked : w'.grpc = w.grpc.issue (.reportJobStatus npcId jobId 2 .dialogueBusy
        "대화 걸려서 바쁨 상태로 전환됨" w.clock.tick (.install e))) : Drives w'
  | arrived (w' : World F) (arrives : Arrives e ⟨w, .jobDriver e, w'⟩)
      (same : w'.reg.job e = w.reg.job e) (quiet : w'.grpc = w.grpc) : Drives w'
  | completed (w' : World F) (job : JobComp F) (npcId : UInt32) (hasJob : w.reg.job e = some job)
      (committed : w.Committed e) (steady : Steady e w w')
      (asked : w'.grpc = w.grpc.issue (.reportJobStatus npcId job.jobId 0 .unknownReason
        "스케줄 완료" w.clock.tick .ignore)) : Drives w'

theorem jobDriver_others (other : x ≠ e) (driven : w.jobDriver e = some w') :
    w'.body x = w.body x := by
  refine jobDriver_preserves (fun m => m.body x = w.body x)
    (fun write before => Eq.trans ?_ before) driven rfl
  cases write with
  | equip | finish => rw [body_setJob, if_neg other]
  | toil => rw [body_setToil, if_neg other]
  | refill => rw [body_setNeeds, if_neg other]
  | wait _ tagged => rw [body_setBusy _ e x _ _ tagged, if_neg other]
  | activity | report => simp

theorem ready_steady :
    Steady e w ((w.setJob e (w.jobOrDefault e)).setToil e (w.toilOrDefault e)) := by
  cases hasJob : w.reg.job e with
  | none =>
      exact .of_job .initial (by simp [setToil, setJob, jobOrDefault, hasJob]) rfl
  | some job =>
      cases hasToil : w.reg.toil e with
      | none =>
          exact .of_toil .initial (by simp [setToil, toilOrDefault, hasToil]) (by simp [ToilComp.initial])
      | some toil =>
          refine Spared.steady (.inl ⟨?_, ?_, rfl⟩)
          · simp [setToil, setJob, jobOrDefault, hasJob]
          · simp [setToil, toilOrDefault, hasToil]

theorem completeJob_spec (identity : IdentityComp) (job : JobComp F) (toil : ToilComp)
    (done : w.completeJob e identity job toil = some w') :
    (∃ finished, w'.reg.job e = some finished ∧ finished.isActive = false) ∧
      w'.grpc = w.grpc.issue (.reportJobStatus identity.npcId job.jobId 0 .unknownReason
        "스케줄 완료" w.clock.tick .ignore) := by
  obtain ⟨waiting, tagged, rfl⟩ := completeJob_cases done
  obtain ⟨-, _, rfl⟩ := setBusy_cases tagged
  exact ⟨⟨{ job with isActive := false }, by simp [issue, setActivity, setToil, setJob], rfl⟩, rfl⟩

theorem jobOrDefault_active (active : (w.jobOrDefault e).isActive = true) :
    w.reg.job e = some (w.jobOrDefault e) := by
  cases hasJob : w.reg.job e with
  | none => simp [jobOrDefault, hasJob, JobComp.initial] at active
  | some job => simp [jobOrDefault, hasJob]

omit [Scalar F] in
theorem toilOrDefault_active (active : (w.toilOrDefault e).state ≠ .idle) :
    w.reg.toil e = some (w.toilOrDefault e) := by
  cases hasToil : w.reg.toil e with
  | none => simp [toilOrDefault, hasToil, ToilComp.initial] at active
  | some toil => simp [toilOrDefault, hasToil]

theorem idle_drives (m : World F) (loc : LocationComp F) (identity : IdentityComp) (toil : ToilComp)
    (located : w.reg.location e = some loc) (hasJob : w.reg.job e = some (w.jobOrDefault e))
    (resting : (w.toilOrDefault e).state ≠ .working) (idle : toil.state = .idle)
    (kept : m.reg.job e = w.reg.job e) (quiet : m.grpc = w.grpc)
    (pursues : Pursues m e loc identity (w.jobOrDefault e) toil w') : w.Drives e w' := by
  cases pursues with
  | departs =>
      have away : (((m.setToil e { toil with state := .moving }).setActivity e
          ("이동 중: " ++ (w.jobOrDefault e).targetLocation)).prepareJourney e loc
            (w.jobOrDefault e)).reg.toil e = some { toil with state := .moving } ∧
        (((m.setToil e { toil with state := .moving }).setActivity e
          ("이동 중: " ++ (w.jobOrDefault e).targetLocation)).prepareJourney e loc
            (w.jobOrDefault e)).grpc = m.grpc := by
        rcases prepareJourney_eq _ e loc (w.jobOrDefault e) with same | ⟨needs, -, filled⟩
        · rw [same]
          simp [setActivity, setToil]
        · rw [filled]
          simp [setNeeds, setActivity, setToil]
      exact .passed _ (.of_toil _ away.1 (by simp)) (away.2.trans quiet)
  | begins _ there =>
      refine .arrived _ (.there _ _ loc _ { toil with state := .working, durationTicks := 3 }
        (w.jobOrDefault e) located hasJob there rfl resting ?_ rfl) kept quiet
      simp [setActivity, setToil]
  | passes state => simp [idle] at state
  | works working => simp [idle] at working
  | completes _ working => simp [idle] at working

theorem jobDriver_drives (driven : w.jobDriver e = some w') : w.Drives e w' := by
  have steady := w.ready_steady e
  have kept (active : (w.jobOrDefault e).isActive = true) :
      ((w.setJob e (w.jobOrDefault e)).setToil e (w.toilOrDefault e)).reg.job e = w.reg.job e := by
    rw [w.jobOrDefault_active e active]
    simp [setToil, setJob]
  cases jobDriver_cases driven with
  | bare => exact .passed w (Spared.refl w).steady rfl
  | held => exact .passed _ steady rfl
  | pauses identity reported _ _ informed =>
      have paused : Steady e w ((reported.setToil e
          { w.toilOrDefault e with state := .interrupted }).setActivity e "대화 중") :=
        .of_toil { w.toilOrDefault e with state := .interrupted } (by simp [setActivity, setToil])
          (by simp)
      rcases informed with rfl | rfl
      · exact .passed _ paused rfl
      · exact .paused _ identity.npcId (w.jobOrDefault e).jobId paused rfl
  | resumes loc identity _ _ located _ _ active stopped pursues =>
      refine w.idle_drives w' e _ loc identity { w.toilOrDefault e with state := .idle } located
        (w.jobOrDefault_active e active) (by simp [stopped]) rfl ?_ ?_ pursues
      · exact kept active
      · rfl
  | pursues loc identity _ unheld located _ _ active pursues =>
      have hasJob := w.jobOrDefault_active e active
      cases pursues with
      | departs idle away =>
          exact w.idle_drives _ e _ loc identity (w.toilOrDefault e) located hasJob (by simp [idle])
            idle (kept active) rfl (.departs idle away)
      | begins idle there =>
          exact w.idle_drives _ e _ loc identity (w.toilOrDefault e) located hasJob (by simp [idle])
            idle (kept active) rfl (.begins idle there)
      | passes => exact .passed _ steady rfl
      | works working =>
          have hasToil := w.toilOrDefault_active e (by simp [working])
          refine .passed _ (.of_state (kept active) _ (w.toilOrDefault e).countDown hasToil
            (by simp [setToil]) ?_ rfl) rfl
          unfold ToilComp.countDown
          split <;> rfl
      | completes _ working done =>
          have hasToil := w.toilOrDefault_active e (by simp [working])
          obtain ⟨⟨finished, ended, inactive⟩, asked⟩ := completeJob_spec _ w' e _ _ _ done
          have committed : w.Committed e :=
            ⟨by simpa [isEmployed, hasJob] using active, ⟨_, hasToil, working⟩, unheld.sated⟩
          exact .completed w' _ identity.npcId hasJob committed (.of_job finished ended inactive)
            asked
  | rests =>
      exact .passed _ (.of_toil { w.toilOrDefault e with state := .idle }
        (by simp [setActivity, setToil]) (by simp)) rfl

theorem jobDriver_commits (driven : w.jobDriver e = some w') :
    Steady x w w' ∨
      (x = e ∧ Arrives e ⟨w, .jobDriver e, w'⟩ ∧ w'.reg.job e = w.reg.job e) := by
  by_cases self : x = e
  next =>
    subst self
    cases w.jobDriver_drives w' x driven with
    | passed steady quiet => exact .inl steady
    | paused npcId jobId steady asked => exact .inl steady
    | arrived arrives same quiet => exact .inr ⟨rfl, arrives, same⟩
    | completed job npcId hasJob committed steady asked => exact .inl steady
  next => exact .inl (Spared.of_body (w.jobDriver_others w' e x self driven)).steady

theorem jobDriver_reports (jobId : UInt64) (driven : w.jobDriver e = some w')
    (reports : ReportsCompleted jobId w w') :
    w.Committed e ∧ ∃ job, w.reg.job e = some job ∧ job.jobId = jobId := by
  cases w.jobDriver_drives w' e driven with
  | passed steady quiet => exact absurd reports (ReportsCompleted.absent quiet)
  | paused npcId other steady asked =>
      obtain ⟨npcId, reason, text, tick, callback, same⟩ := reports.request asked
      simp at same
  | arrived arrives same quiet => exact absurd reports (ReportsCompleted.absent quiet)
  | completed job npcId hasJob committed steady asked =>
      obtain ⟨npcId, reason, text, tick, callback, same⟩ := reports.request asked
      refine ⟨committed, job, hasJob, ?_⟩
      injection same

end World

-- Who is committed after an event was committed to the same job before and got none in between, or
-- has just arrived.
theorem step_commits (event : Event F) (w w' : World F) (x : Entity)
    (stays : ∀ e draw, event = .behaviorTree e draw → w.staysOnJob e = true)
    (stepped : step event w = some w') (committed : w'.Committed x) :
    w'.reg.job x = w.reg.job x ∧
      ((w.Committed x ∧ x ∉ w.jobTargets event) ∨ Arrives x ⟨w, event, w'⟩) := by
  have remains (untargeted : x ∉ w.jobTargets event) (steady : Steady x w w') :
      w'.reg.job x = w.reg.job x ∧
        ((w.Committed x ∧ x ∉ w.jobTargets event) ∨ Arrives x ⟨w, event, w'⟩) := by
    obtain ⟨before, same⟩ := steady committed
    exact ⟨same, .inl ⟨before, untargeted⟩⟩
  have silent : w.jobTargets event = [] → x ∉ w.jobTargets event := by
    intro empty
    simp [empty]
  by_cases spared : event.remakes = false ∧ event.scope.sparesWork = true
  next =>
    have untargeted : w.jobTargets event = [] := by
      cases event with
      | drainTask => exact absurd spared.2 (show ¬ drainScope.sparesWork = true by decide)
      | _ => rfl
    exact remains (silent untargeted) (Spared.of_within (step_within event w w' x spared.1 stepped)
      spared.2).steady
  next =>
    cases event with
    | drainTask draws =>
        rcases w.drainTask_treats w' x draws stepped with ⟨outside, kept⟩ | ⟨-, toil, active, idle, -⟩
        · exact remains outside (Spared.steady (.inl ⟨kept.job, kept.toil, congrFun kept.needs x⟩))
        · obtain ⟨other, same, working⟩ := committed.working
          obtain rfl := Option.some.inj (active.symm.trans same)
          rw [idle] at working
          cases working
    | cleanupPlayer player =>
        obtain rfl := Option.some.inj stepped
        exact remains (silent rfl) (w.cleanupPlayer_spared player x).steady
    | command cmd =>
        cases cmd with
        | login session playerId playerName =>
            exact remains (silent rfl) (w.login_spared w' x session playerId playerName stepped).steady
        | _ => exact absurd ⟨rfl, rfl⟩ spared
    | jobDriver e =>
        rcases w.jobDriver_commits w' e x stepped with steady | ⟨rfl, arrives, same⟩
        · exact remains (silent rfl) steady
        · exact ⟨same, .inr arrives⟩
    | busyAmbient e =>
        obtain rfl := Option.some.inj stepped
        exact remains (silent rfl) (w.busyAmbient_steady e x _)
    | behaviorTree e draw =>
        exact remains (silent rfl) (w.behaviorTree_steady e draw w' x (stays e draw rfl) stepped)
    | death e =>
        obtain rfl := Option.some.inj stepped
        exact remains (silent rfl) (w.systemDeath_steady e x)
    | survivalOverride e =>
        obtain rfl := Option.some.inj stepped
        exact remains (silent rfl) (w.survivalOverride_steady e x)
    | pathfinding e searches choice =>
        obtain ⟨⟨after, spent⟩, visited, rfl⟩ := Option.map_eq_some_iff.mp stepped
        exact remains (silent rfl) (w.pathfinding_steady after e x searches spent choice visited)
    | movement e =>
        rcases w.movement_commits w' e x stepped with steady | ⟨rfl, arrives, same⟩
        · exact remains (silent rfl) steady
        · exact ⟨same, .inr arrives⟩
    | checkOccupant furniture =>
        obtain rfl := Option.some.inj stepped
        exact remains (silent rfl) (w.checkOccupant_spared furniture x).steady
    | resolveAffordance e => exact remains (silent rfl) (w.resolveAffordance_steady w' e x stepped)
    | _ => exact absurd ⟨rfl, rfl⟩ spared

def Earned (past : List (Transition (World F) (Event F))) (e : Entity) (job : JobComp F) : Prop :=
  ∃ between a before, past = between ++ a :: before ∧ Arrives e a ∧ a.before.reg.job e = some job ∧
    ∀ u ∈ between, u.before.reg.job e = some job ∧ e ∉ u.before.jobTargets u.event

/-- The job driver reported a job as completed only after an arrival for it. -/
def CompletedOnArrival (past : List (Transition (World F) (Event F))) : Prop :=
  ∀ later t earlier e jobId, past = later ++ t :: earlier → t.event = .jobDriver e →
    ReportsCompleted jobId t.before t.after →
      ∃ job, t.before.reg.job e = some job ∧ job.jobId = jobId ∧ Earned earlier e job

/-- No visit of the survival tree stops an NPC on the move, with an active job, to fight. -/
def NobodyStopsToFight (w : World F) (event : Event F) : Prop :=
  ∀ e draw, event = .behaviorTree e draw → w.staysOnJob e = true

theorem run_earned (start last : World F) (past : List (Transition (World F) (Event F)))
    (idle : ∀ e, start.isEmployed e = false) (run : ServerRun start past last)
    (guarded : Guarded NobodyStopsToFight past) (e : Entity) (job : JobComp F)
    (committed : last.Committed e) (hasJob : last.reg.job e = some job) : Earned past e job := by
  let earned (past : List (Transition (World F) (Event F))) (w : World F) : Prop :=
    ∀ e job, w.Committed e → w.reg.job e = some job → Earned past e job
  have holds : earned past last := by
    refine @Run.history _ _ _ _ _ _ _ earned ?_ ?_ run guarded
    · intro e job committed
      have employed := committed.employed
      simp [idle] at employed
    · intro past w event w' _ before stays stepped e job committed hasJob
      obtain ⟨same, ⟨was, untargeted⟩ | arrives⟩ := step_commits event w w' e stays stepped committed
      · rw [same] at hasJob
        obtain ⟨between, a, earlier, rfl, arrived, had, kept⟩ := before e job was hasJob
        refine ⟨⟨w, event, w'⟩ :: between, a, earlier, rfl, arrived, had, fun u member => ?_⟩
        rcases List.mem_cons.mp member with rfl | member
        · exact ⟨hasJob, untargeted⟩
        · exact kept u member
      · rw [same] at hasJob
        exact ⟨[], _, past, rfl, arrives, hasJob, by simp⟩
  exact holds e job committed hasJob

theorem World.updateEntityPosition_job (w : World F) (e : Entity) (x z : F) :
    (w.updateEntityPosition e x z).reg.job = w.reg.job := by
  obtain ⟨grid, location, moved⟩ := w.updateEntityPosition_eq e x z
  rw [moved]

theorem placeFurniture_idle (w : World F) (furn : FurnitureData F)
    (idle : ∀ x, w.isEmployed x = false) (x : Entity) :
    (placeFurniture w furn).isEmployed x = false := by
  unfold placeFurniture
  dsimp only
  rw [World.isEmployed, World.updateEntityPosition_job]
  have before := idle x
  by_cases new : x = w.reg.nextEntity
  next => simp [World.setAffordance, World.setLocation, World.setIdentity, Registry.create,
    Registry.destroy, new]
  next => simpa [World.isEmployed, World.setAffordance, World.setLocation, World.setIdentity,
    Registry.create, Registry.destroy, new] using before

theorem spawnAgent_idle (state : World F × UInt8) (agent : InitialAgentState F) (draw : NeedsDraw F)
    (idle : ∀ x, state.1.isEmployed x = false) (x : Entity) :
    (spawnAgent state agent draw).1.isEmployed x = false := by
  unfold spawnAgent
  dsimp only
  split
  next => exact idle x
  next =>
    have before := idle x
    by_cases new : x = state.1.reg.nextEntity
    next => simp [World.isEmployed, equipAgent, new, JobComp.initial]
    next =>
      simp only [World.isEmployed, equipAgent, World.updateEntityPosition_job]
      simpa [World.isEmployed, World.setLocation, World.setIdentity, Registry.create,
        Registry.destroy, new] using before

theorem bootstrap_idle (data : WorldBootstrapData F) (settings : SimulationSettings F)
    (obstacles : Option (List Obstacle)) (draws : Nat → NeedsDraw F) (start : World F)
    (booted : bootstrap data settings obstacles draws = some start) (x : Entity) :
    start.isEmployed x = false := by
  have furnished (furniture : List (FurnitureData F)) (w : World F)
      (idle : ∀ x, w.isEmployed x = false) :
      ∀ x, (furniture.foldl placeFurniture w).isEmployed x = false := by
    induction furniture generalizing w with
    | nil => exact idle
    | cons furn rest ih => exact ih _ (placeFurniture_idle w furn idle)
  have spawned (agents : List (InitialAgentState F × Nat)) (state : World F × UInt8)
      (idle : ∀ x, state.1.isEmployed x = false) :
      ∀ x, (agents.foldl (fun state agent => spawnAgent state agent.1 (draws agent.2))
        state).1.isEmployed x = false := by
    induction agents generalizing state with
    | nil => exact idle
    | cons agent rest ih => exact ih _ (spawnAgent_idle state agent.1 _ idle)
  unfold bootstrap at booted
  split at booted
  next => cases booted
  split at booted
  next => cases booted
  next =>
    rw [← Option.some.inj booted]
    exact spawned _ _ (furnished _ _ fun _ => rfl) x

/-- In every run in which nobody stops on the move to fight while on a job, a job is completed only
after an arrival. -/
theorem completed_on_arrival (data : WorldBootstrapData F) (settings : SimulationSettings F)
    (obstacles : Option (List Obstacle)) (draws : Nat → NeedsDraw F) (start last : World F)
    (past : List (Transition (World F) (Event F)))
    (booted : bootstrap data settings obstacles draws = some start)
    (run : ServerRun start past last) (guarded : Guarded NobodyStopsToFight past) :
    CompletedOnArrival past := by
  rintro later ⟨w, event, w'⟩ earlier e jobId rfl driven reports
  obtain ⟨middle, before, -⟩ := run.split later
  cases before with
  | next before stepped =>
      obtain rfl : event = .jobDriver e := driven
      obtain ⟨committed, job, hasJob, same⟩ := w.jobDriver_reports w' e jobId stepped reports
      have guarded' : Guarded NobodyStopsToFight earlier := fun t member => guarded t (by simp [member])
      exact ⟨job, hasJob, same, run_earned start w earlier (bootstrap_idle data settings obstacles draws
        start booted) before guarded' e job committed hasJob⟩

def mealEaten : List (Event ℚ) :=
  [.requestJobs, .respond 0 (.jobs true [mealJob]), .drainTask fun _ => ⟨0, 0⟩, .jobDriver 0,
    .jobDriver 0, .jobDriver 0]

def World.completesFirst (w : World ℚ) (e : Entity) : Bool :=
  (step (.jobDriver e) w).any fun w' => (w'.grpc.calls w.grpc.nextTicket).any fun call =>
    match call.request with
    | .reportJobStatus _ jobId status _ _ _ _ => jobId = 1 && status = 0
    | _ => false

theorem World.completesFirst_reports (w : World ℚ) (e : Entity)
    (completes : w.completesFirst e = true) :
    ∃ w', step (.jobDriver e) w = some w' ∧ ReportsCompleted 1 w w' := by
  obtain ⟨w', stepped, reports⟩ := (Option.any_eq_true _ _).mp completes
  obtain ⟨call, issued, asked⟩ := (Option.any_eq_true _ _).mp reports
  refine ⟨w', stepped, ?_⟩
  split at asked
  next npcId jobId status reason text tick callback same =>
    obtain ⟨rfl, rfl⟩ : jobId = 1 ∧ status = 0 := by simpa using asked
    exact ⟨npcId, reason, text, tick, callback, call, issued, same⟩
  next => cases asked

theorem completed_on_arrival_meal : ∃ past last, ServerRun hamlet past last ∧
    past.reverse.map (·.event) = mealEaten ++ [.jobDriver 0] ∧
    (∃ t ∈ past, t.event = .jobDriver 0 ∧ ReportsCompleted 1 t.before t.after) ∧
    CompletedOnArrival past := by
  have passed : (followWhile step (fun _ _ => true) mealEaten hamlet).any
      (fun w => w.completesFirst 0) = true := by decide +kernel
  obtain ⟨past, w, run, -, events, completes⟩ := Run.exists_of_check _ _ _ passed
  obtain ⟨w', stepped, reports⟩ := w.completesFirst_reports 0 completes
  have run' := run.next stepped
  have order : (⟨w, .jobDriver 0, w'⟩ :: past).reverse.map (·.event) =
      mealEaten ++ [.jobDriver 0] := by simp [← events]
  have peaceful : Guarded NobodyStopsToFight (⟨w, .jobDriver 0, w'⟩ :: past) := by
    intro t member e draw visits
    have listed : t.event ∈ mealEaten ++ [.jobDriver 0] := by
      rw [← order]
      exact List.mem_map_of_mem (List.mem_reverse.mpr member)
    rw [visits] at listed
    simp [mealEaten] at listed
  refine ⟨_, w', run', order, ⟨_, List.mem_cons_self, rfl, reports⟩, ?_⟩
  exact completed_on_arrival hamletData ⟨2, 60⟩ (some []) (fun _ => ⟨100, 100⟩) hamlet w' _
    hamlet_boots run' peaceful

def packData : WorldBootstrapData ℚ :=
  { hamletData with
    agents := hamletData.agents ++
      ⟨8, "wolf", "늑대", "광장", 101 / 20, 0, 0, "평온", "대기", 1 / 2, []⟩ ::
      (List.range 9).map fun n =>
        ⟨UInt32.ofNat (n + 9), "wolf", "늑대", "광장", 4, 0, 0, "평온", "대기", 1 / 2, []⟩ }

def pack : World ℚ :=
  populate (emptyWorld packData ⟨2, 60⟩ (some [])) packData fun _ => ⟨100, 100⟩

-- A wolf is sent to the wood, joins the hunt on the square and strikes the last blow.
def hunt : List (Event ℚ) :=
  [.requestJobs, .respond 0 (.jobs true [⟨8, 1, "숲", 50, 0, 0, "순찰", 0, 1, 0⟩]),
    .drainTask fun _ => ⟨0, 0⟩] ++
  ((List.range 10).map fun n => .perception (n + 1)) ++
  ((List.range 10).map fun n => .behaviorTree (n + 1) ⟨id, fun _ => 0⟩) ++
  ((List.range 10).map fun n => .behaviorTree (n + 1) ⟨id, fun _ => 0⟩) ++
  [.pathfinding 1 0 ⟨⟨0, 0⟩, GridMap.leastFirst⟩, .movement 1, .behaviorTree 1 ⟨id, fun _ => 0⟩]

def sparesArrival (w : World ℚ) : Event ℚ → Bool
  | .movement e => (step (.movement e) w).all fun w' => !(w'.reg.toil 1).any (·.state = .working)
  | .jobDriver _ => false
  | _ => true

theorem pack_boots :
    bootstrap packData ⟨2, 60⟩ (some []) (fun _ => ⟨100, 100⟩) = some pack := by
  rw [bootstrap, if_neg (by decide), if_neg (by decide +kernel)]
  rfl

theorem fight_completes_job :
    bootstrap packData ⟨2, 60⟩ (some []) (fun _ => ⟨100, 100⟩) = some pack ∧
      ∃ past last, ServerRun pack past last ∧
        past.reverse.map (·.event) = hunt ++ [.jobDriver 1] ∧ ¬CompletedOnArrival past := by
  have passed : (followWhile step sparesArrival hunt pack).any
      (fun w => w.completesFirst 1) = true := by decide +kernel
  obtain ⟨past, w, run, spares, events, completes⟩ := Run.exists_of_check _ _ _ passed
  obtain ⟨w', stepped, reports⟩ := w.completesFirst_reports 1 completes
  refine ⟨pack_boots, _, w', run.next stepped, by simp [← events], fun completed => ?_⟩
  obtain ⟨job, -, -, between, a, before, rfl, arrives, -, -⟩ :=
    completed [] _ past 1 1 rfl rfl reports
  have spared := spares a (by simp)
  obtain ⟨-, -, -, -, taken⟩ := run.taken a (by simp)
  cases arrives with
  | walked m m' loc toil path job _ _ arrived =>
      obtain ⟨-, -, -, ⟨working, works, state⟩, -⟩ := m.arrive_own 1 loc toil path job m' arrived
      simp [sparesArrival, taken, works, state] at spared
  | there => cases spared

end MundusVivens
