import MundusVivens.Systems.JobDriver
import Mathlib.Logic.Relation

set_option autoImplicit false

namespace MundusVivens

open Scalar

variable {F : Type} [Scalar F]

namespace World

variable {w w' : World F} {e : Entity}

theorem prepareJourney_eq (w : World F) (e : Entity) (loc : LocationComp F) (job : JobComp F) :
    w.prepareJourney e loc job = w ∨
      ∃ needs, w.reg.needs e = some needs ∧
        w.prepareJourney e loc job =
          w.setNeeds e { needs with hunger := lit 100, fatigue := lit 100 } := by
  unfold prepareJourney
  split
  next =>
    split
    next needs needy => exact .inr ⟨needs, needy, rfl⟩
    next => exact .inl rfl
  next => exact .inl rfl

theorem completeJob_cases {identity : IdentityComp} {job : JobComp F} {toil : ToilComp}
    (done : w.completeJob e identity job toil = some w') :
    ∃ waiting, (((w.setJob e { job with isActive := false }).setToil e
        { toil with state := .idle }).setActivity e "대기").setBusy e .scheduleWait = some waiting ∧
      w' = waiting.issue (.reportJobStatus identity.npcId job.jobId 0 .unknownReason "스케줄 완료"
        w.clock.tick .ignore) := by
  simp only [completeJob, Option.bind_eq_bind, Option.bind_eq_some_iff] at done
  obtain ⟨waiting, tagged, stored⟩ := done
  exact ⟨waiting, tagged, (Option.some.inj stored).symm⟩

inductive Pursues (w : World F) (e : Entity) (loc : LocationComp F) (identity : IdentityComp)
    (job : JobComp F) (toil : ToilComp) : World F → Prop
  | departs (idle : toil.state = .idle) (away : loc.locationName ≠ job.targetLocation) :
      Pursues w e loc identity job toil
        (((w.setToil e { toil with state := .moving }).setActivity e
          ("이동 중: " ++ job.targetLocation)).prepareJourney e loc job)
  | begins (idle : toil.state = .idle) (there : loc.locationName = job.targetLocation) :
      Pursues w e loc identity job toil
        ((w.setToil e { toil with state := .working, durationTicks := 3 }).setActivity e job.intent)
  | passes (resting : toil.state = .moving ∨ toil.state = .interrupted) :
      Pursues w e loc identity job toil w
  | works (working : toil.state = .working) :
      Pursues w e loc identity job toil (w.setToil e toil.countDown)
  | completes (w' : World F) (working : toil.state = .working)
      (done : w.completeJob e identity job toil.countDown = some w') :
      Pursues w e loc identity job toil w'

theorem advanceJob_cases {loc : LocationComp F} {identity : IdentityComp} {job : JobComp F}
    {toil : ToilComp} (advanced : w.advanceJob e loc identity job toil = some w') :
    Pursues w e loc identity job toil w' := by
  unfold advanceJob at advanced
  split at advanced
  next idle =>
    split at advanced
    next away =>
      obtain rfl := Option.some.inj advanced
      exact .departs idle away
    next near =>
      obtain rfl := Option.some.inj advanced
      exact .begins idle (by simpa using near)
  next moving =>
    obtain rfl := Option.some.inj advanced
    exact .passes (.inl moving)
  next working =>
    split at advanced
    next => exact .completes w' working advanced
    next =>
      obtain rfl := Option.some.inj advanced
      exact .works working
  next interrupted =>
    obtain rfl := Option.some.inj advanced
    exact .passes (.inr interrupted)

structure Unheld (w : World F) (e : Entity) : Prop where
  living : w.isDead e = false
  sated : w.isResolving e = false
  peaceful : w.hasCombatTarget e = false
  settled : (w.jobOrDefault e).intent ≠ "배회 중"

-- The driver goes on from the world in which the entity has its job and its toil.
inductive VisitsJob (w : World F) (e : Entity) : World F → Prop
  | bare : VisitsJob w e w
  | held : VisitsJob w e ((w.setJob e (w.jobOrDefault e)).setToil e (w.toilOrDefault e))
  | pauses (identity : IdentityComp) (reported : World F) (unheld : w.Unheld e)
      (going : (w.toilOrDefault e).state ≠ .interrupted)
      (informed : reported = (w.setJob e (w.jobOrDefault e)).setToil e (w.toilOrDefault e) ∨
        reported = ((w.setJob e (w.jobOrDefault e)).setToil e (w.toilOrDefault e)).issue
          (.reportJobStatus identity.npcId (w.jobOrDefault e).jobId 2 .dialogueBusy
            "대화 걸려서 바쁨 상태로 전환됨" w.clock.tick (.install e))) :
      VisitsJob w e ((reported.setToil e
        { w.toilOrDefault e with state := .interrupted }).setActivity e "대화 중")
  | resumes (loc : LocationComp F) (identity : IdentityComp) (w' : World F) (unheld : w.Unheld e)
      (located : w.reg.location e = some loc) (shown : (w.reg.activity e).isSome = true)
      (free : w.reg.busy e = none)
      (active : (w.jobOrDefault e).isActive = true)
      (stopped : (w.toilOrDefault e).state = .interrupted)
      (pursues : Pursues ((((w.setJob e (w.jobOrDefault e)).setToil e (w.toilOrDefault e)).setToil e
        { w.toilOrDefault e with state := .idle }).setActivity e "대기") e loc identity
          (w.jobOrDefault e) { w.toilOrDefault e with state := .idle } w') :
      VisitsJob w e w'
  | pursues (loc : LocationComp F) (identity : IdentityComp) (w' : World F) (unheld : w.Unheld e)
      (located : w.reg.location e = some loc) (shown : (w.reg.activity e).isSome = true)
      (free : w.reg.busy e = none)
      (active : (w.jobOrDefault e).isActive = true)
      (pursues : Pursues ((w.setJob e (w.jobOrDefault e)).setToil e (w.toilOrDefault e)) e loc
        identity (w.jobOrDefault e) (w.toilOrDefault e) w') :
      VisitsJob w e w'
  | rests (unheld : w.Unheld e) (free : w.reg.busy e = none) :
      VisitsJob w e ((((w.setJob e (w.jobOrDefault e)).setToil e (w.toilOrDefault e)).setToil e
        { w.toilOrDefault e with state := .idle }).setActivity e "대기")

theorem jobDriver_cases (driven : w.jobDriver e = some w') : VisitsJob w e w' := by
  unfold jobDriver at driven
  split at driven
  next loc activity identity located shown named =>
    dsimp only at driven
    split at driven
    next => exact Option.some.inj driven ▸ .held
    next living =>
    split at driven
    next => exact Option.some.inj driven ▸ .held
    next sated =>
    split at driven
    next => exact Option.some.inj driven ▸ .held
    next peaceful =>
    split at driven
    next => exact Option.some.inj driven ▸ .held
    next settled =>
    have unheld : w.Unheld e :=
      ⟨by simpa using living, by simpa using sated, by simpa using peaceful, settled⟩
    split at driven
    next =>
      obtain rfl := Option.some.inj driven
      unfold pauseJob
      split
      next => exact .held
      next going =>
        refine .pauses identity _ unheld going ?_
        split
        next => exact .inr rfl
        next => exact .inl rfl
    next awake =>
      have free : w.reg.busy e = none := by simpa using awake
      unfold driveJob at driven
      split at driven
      next active =>
        split at driven
        next stopped =>
          exact .resumes loc identity w' unheld located (by simp [shown]) free active stopped
            (advanceJob_cases driven)
        next =>
          exact .pursues loc identity w' unheld located (by simp [shown]) free active
            (advanceJob_cases driven)
      next =>
        obtain rfl := Option.some.inj driven
        exact .rests unheld free
  next => exact Option.some.inj driven ▸ .bare

inductive JobWrite (e : Entity) (w : World F) : World F → Prop
  | equip : JobWrite e w (w.setJob e (w.jobOrDefault e))
  | finish (job : JobComp F) (employed : w.reg.job e = some job) :
      JobWrite e w (w.setJob e { job with isActive := false })
  | toil (toil : ToilComp) : JobWrite e w (w.setToil e toil)
  | activity (text : String) : JobWrite e w (w.setActivity e text)
  | refill (needs : NeedsComp F) (needy : w.reg.needs e = some needs) :
      JobWrite e w (w.setNeeds e { needs with hunger := lit 100, fatigue := lit 100 })
  | wait (w' : World F) (tagged : w.setBusy e .scheduleWait = some w') : JobWrite e w w'
  | report (npcId : UInt32) (jobId : UInt64) (status : Int) (reason : InterruptReason)
      (context : String) (tick : Int) (callback : ReportCallback) :
      JobWrite e w (w.issue (.reportJobStatus npcId jobId status reason context tick callback))

abbrev JobWrites (e : Entity) : World F → World F → Prop := Relation.ReflTransGen (JobWrite e)

theorem Pursues.writes {loc : LocationComp F} {identity : IdentityComp} {job : JobComp F}
    {toil : ToilComp} (pursues : Pursues w e loc identity job toil w')
    (employed : w.reg.job e = some job) : JobWrites e w w' := by
  cases pursues with
  | departs =>
      have moving : JobWrites e w ((w.setToil e { toil with state := .moving }).setActivity e
          ("이동 중: " ++ job.targetLocation)) :=
        (Relation.ReflTransGen.single (.toil _)).tail (.activity _)
      rcases prepareJourney_eq _ e loc job with same | ⟨needs, needy, filled⟩
      · rw [same]
        exact moving
      · rw [filled]
        exact moving.tail (.refill needs needy)
  | begins => exact (Relation.ReflTransGen.single (.toil _)).tail (.activity _)
  | passes => exact .refl
  | works => exact .single (.toil _)
  | completes _ working done =>
      obtain ⟨waiting, tagged, rfl⟩ := completeJob_cases done
      have stopped := (Relation.ReflTransGen.single (JobWrite.finish job employed)).tail
        (.toil { toil.countDown with state := .idle })
      exact ((stopped.tail (.activity "대기")).tail (.wait waiting tagged)).tail
        (.report _ _ _ _ _ _ _)

theorem jobDriver_writes (driven : w.jobDriver e = some w') : JobWrites e w w' := by
  have ready : JobWrites e w ((w.setJob e (w.jobOrDefault e)).setToil e (w.toilOrDefault e)) :=
    (Relation.ReflTransGen.single .equip).tail (.toil _)
  have employed : ((w.setJob e (w.jobOrDefault e)).setToil e (w.toilOrDefault e)).reg.job e =
      some (w.jobOrDefault e) := by
    simp [setToil, setJob]
  have idle := (ready.tail (.toil { w.toilOrDefault e with state := .idle })).tail
    (.activity "대기")
  cases jobDriver_cases driven with
  | bare => exact .refl
  | held => exact ready
  | pauses identity reported _ _ informed =>
      have told : JobWrites e w reported := by
        rcases informed with rfl | rfl
        · exact ready
        · exact ready.tail (.report _ _ _ _ _ _ _)
      exact (told.tail (.toil _)).tail (.activity _)
  | resumes _ _ _ _ _ _ _ _ _ pursues => exact idle.trans (pursues.writes employed)
  | pursues _ _ _ _ _ _ _ _ pursues => exact ready.trans (pursues.writes employed)
  | rests => exact idle

theorem jobDriver_preserves (P : World F → Prop)
    (respected : ∀ {m m' : World F}, JobWrite e m m' → P m → P m')
    (driven : w.jobDriver e = some w') (holds : P w) : P w' := by
  have writes := jobDriver_writes driven
  clear driven
  induction writes with
  | refl => exact holds
  | tail _ write ih => exact respected write ih

end World

end MundusVivens
