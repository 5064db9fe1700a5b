import MundusVivens.Systems.ResultTasks
import MundusVivens.World.Bootstrap

set_option autoImplicit false

/-!
# Installing a job

The three handlers write a payload to an entity, each in its own way: the report
handler keeps the target coordinates of the old job, and only the handler of the
pending jobs ends a wait for the schedule. Coordinates are reals here.
-/

namespace MundusVivens

open Scalar LocationRegistry

variable {F : Type} [Scalar F]

inductive JobHandler where
  | pendingJobs
  | nextJobs
  | newJob
deriving DecidableEq

-- The handler installs the payload on the entity; `w'` is the world after its iteration.
inductive Installs (w : World F) (e : Entity) (payload : JobPayload F) (draw : RadiusDraw F) :
    JobHandler → World F → Prop where
  | pendingJobs (target : w.pendingJobTarget payload = some e) :
      Installs w e payload draw .pendingJobs (w.applyPendingJob payload draw)
  | nextJobs (w' : World F) (target : w.nextJobTarget payload = some e)
      (applied : w.applyNextJob payload draw = some w') :
      Installs w e payload draw .nextJobs w'
  | newJob (valid : w.reg.valid e = true) (employed : (w.reg.job e).isSome) :
      Installs w e payload draw .newJob (w.applyReport e (some payload))

/-- The job that was sent: all fields of the payload, with the target near its coordinates. -/
structure JobComp.Carries (job : JobComp ℝ) (payload : JobPayload ℝ) : Prop where
  active : job.isActive = true
  jobId : job.jobId = payload.jobId
  targetLocation : job.targetLocation = payload.targetLocation
  targetY : job.targetY = payload.targetY
  near : hypot (job.targetX - payload.targetX) (job.targetZ - payload.targetZ) ≤ locationRadius
  intent : job.intent = payload.intent
  targetAgentId : job.targetAgentId = payload.targetAgentId
  priority : job.priority = payload.priority
  category : job.category = .ofUInt8 payload.category

-- The entity does not wait for its schedule.
def World.IsAwake (w : World F) (e : Entity) : Prop :=
  ∀ tag, w.reg.busy e = some tag → tag.reason ≠ .scheduleWait

structure World.Installed (w : World ℝ) (e : Entity) (payload : JobPayload ℝ) : Prop where
  job : ∃ job, w.reg.job e = some job ∧ job.Carries payload
  toil : ∃ toil, w.reg.toil e = some toil ∧ toil.state = .idle ∧ toil.durationTicks = 0
  awake : w.IsAwake e

-- The old job has the height of the payload, and a target near the one of the payload.
def World.IsAimed (w : World ℝ) (e : Entity) (payload : JobPayload ℝ) : Prop :=
  ∀ job, w.reg.job e = some job → job.targetY = payload.targetY ∧
    hypot (job.targetX - payload.targetX) (job.targetZ - payload.targetZ) ≤ locationRadius

/-- When the handler installs the payload as it was sent. -/
def JobHandler.Suits (w : World ℝ) (e : Entity) (payload : JobPayload ℝ) : JobHandler → Prop
  | .pendingJobs => True
  | .nextJobs => w.IsAwake e
  | .newJob => w.IsAwake e ∧ w.IsAimed e payload

theorem randomizeWithinRadius_near (centerX centerZ : ℝ) (draw : RadiusDraw ℝ)
    (drawn : draw.unit ≤ 1) :
    hypot ((randomizeWithinRadius centerX centerZ locationRadius draw).1 - centerX)
      ((randomizeWithinRadius centerX centerZ locationRadius draw).2 - centerZ) ≤
        (locationRadius : ℝ) := by
  have radius : (locationRadius : ℝ) = 8 := by
    change ((8 : ℚ) : ℝ) = 8
    norm_num
  have root : Real.sqrt draw.unit ≤ 1 := Real.sqrt_le_one.mpr drawn
  change Real.sqrt
    ((centerX + locationRadius * Real.sqrt draw.unit * Real.cos draw.angle - centerX) *
      (centerX + locationRadius * Real.sqrt draw.unit * Real.cos draw.angle - centerX) +
    (centerZ + locationRadius * Real.sqrt draw.unit * Real.sin draw.angle - centerZ) *
      (centerZ + locationRadius * Real.sqrt draw.unit * Real.sin draw.angle - centerZ)) ≤ _
  rw [radius]
  set r := 8 * Real.sqrt draw.unit
  have circle : (centerX + r * Real.cos draw.angle - centerX) *
        (centerX + r * Real.cos draw.angle - centerX) +
      (centerZ + r * Real.sin draw.angle - centerZ) *
        (centerZ + r * Real.sin draw.angle - centerZ) = r ^ 2 := by
    have one := Real.cos_sq_add_sin_sq draw.angle
    calc _ = r ^ 2 * (Real.cos draw.angle ^ 2 + Real.sin draw.angle ^ 2) := by ring
      _ = r ^ 2 := by rw [one, mul_one]
  have positive : 0 ≤ r := by positivity
  rw [circle, Real.sqrt_sq positive]
  linarith

theorem JobComp.ofPayload_carries (payload : JobPayload ℝ) (draw : RadiusDraw ℝ)
    (drawn : draw.unit ≤ 1) : (JobComp.ofPayload payload draw).Carries payload where
  active := rfl
  jobId := rfl
  targetLocation := rfl
  targetY := rfl
  near := randomizeWithinRadius_near payload.targetX payload.targetZ draw drawn
  intent := rfl
  targetAgentId := rfl
  priority := rfl
  category := rfl

theorem JobComp.reported_carries_iff (job : JobComp ℝ) (payload : JobPayload ℝ) :
    (job.reported payload).Carries payload ↔ job.targetY = payload.targetY ∧
      hypot (job.targetX - payload.targetX) (job.targetZ - payload.targetZ) ≤ locationRadius := by
  constructor
  · exact fun carries => ⟨carries.targetY, carries.near⟩
  · rintro ⟨height, near⟩
    exact ⟨rfl, rfl, rfl, height, near, rfl, rfl, rfl, rfl⟩

namespace World

variable (w : World ℝ) (e : Entity) (payload : JobPayload ℝ) (draw : RadiusDraw ℝ)

omit [Scalar F] in
theorem eraseScheduleWait_awake (w : World F) (e : Entity) : (w.eraseScheduleWait e).IsAwake e := by
  intro tag busy
  unfold eraseScheduleWait at busy
  split at busy
  next old tagged =>
    split at busy
    next => simp [eraseBusy, Registry.eraseBusy] at busy
    next other =>
      obtain rfl := Option.some.inj (tagged.symm.trans busy)
      exact other
  next free => simp [free] at busy

theorem writePendingJob_installed (drawn : draw.unit ≤ 1) :
    (w.writePendingJob e payload draw).Installed e payload := by
  have body : (w.writePendingJob e payload draw).reg.job e = some (.ofPayload payload draw) ∧
      (w.writePendingJob e payload draw).reg.toil e =
        some { (w.toilOrDefault e) with state := .idle, durationTicks := 0 } := by
    unfold writePendingJob eraseScheduleWait
    split
    next => split <;> exact ⟨by simp [restartToil, setJob, setToil, eraseBusy, Registry.eraseBusy],
      by simp [restartToil, setJob, setToil, eraseBusy, Registry.eraseBusy, toilOrDefault]⟩
    next => exact ⟨by simp [restartToil, setJob, setToil], by simp [restartToil, setJob, setToil, toilOrDefault]⟩
  exact ⟨⟨_, body.1, JobComp.ofPayload_carries payload draw drawn⟩, ⟨_, body.2, rfl, rfl⟩,
    eraseScheduleWait_awake _ e⟩

theorem writeNextJob_installed_iff (drawn : draw.unit ≤ 1) :
    (w.writeNextJob e payload draw).Installed e payload ↔ w.IsAwake e := by
  constructor
  · exact fun installed => installed.awake
  · intro awake
    refine ⟨⟨.ofPayload payload draw, ?_, JobComp.ofPayload_carries payload draw drawn⟩,
      ⟨{ (w.toilOrDefault e) with state := .idle, durationTicks := 0 }, ?_, rfl, rfl⟩, awake⟩
    · simp [writeNextJob, restartToil, setJob, setToil]
    · simp [writeNextJob, restartToil, setJob, setToil, toilOrDefault]

theorem writeReportedJob_installed_iff (job : JobComp ℝ) (employed : w.reg.job e = some job) :
    (w.writeReportedJob e job payload).Installed e payload ↔
      w.IsAwake e ∧ w.IsAimed e payload := by
  have written : (w.writeReportedJob e job payload).reg.job e = some (job.reported payload) := by
    simp [writeReportedJob, restartToil, setJob, setToil]
  have aimed : w.IsAimed e payload ↔ (job.reported payload).Carries payload := by
    simp [IsAimed, employed, JobComp.reported_carries_iff]
  constructor
  · intro installed
    obtain ⟨job', found, carries⟩ := installed.job
    obtain rfl := Option.some.inj (written.symm.trans found)
    exact ⟨installed.awake, aimed.mpr carries⟩
  · rintro ⟨awake, near⟩
    refine ⟨⟨_, written, aimed.mp near⟩,
      ⟨{ (w.toilOrDefault e) with state := .idle, durationTicks := 0 }, ?_, rfl, rfl⟩, awake⟩
    simp [writeReportedJob, restartToil, setJob, setToil, toilOrDefault]

end World

/-- Whichever handler installs a payload, it is installed as sent if and only if the handler
suits the state of the entity. -/
theorem installed_iff (w w' : World ℝ) (e : Entity) (payload : JobPayload ℝ)
    (draw : RadiusDraw ℝ) (handler : JobHandler) (drawn : draw.unit ≤ 1)
    (installs : Installs w e payload draw handler w') :
    w'.Installed e payload ↔ handler.Suits w e payload := by
  cases installs with
  | pendingJobs target =>
      have applied : w.applyPendingJob payload draw = w.writePendingJob e payload draw := by
        simp [World.applyPendingJob, target]
      rw [applied]
      exact iff_of_true (w.writePendingJob_installed e payload draw drawn) trivial
  | nextJobs _ target applied =>
      simp only [World.applyNextJob, target, Option.bind_eq_bind, Option.bind_eq_some_iff] at applied
      obtain ⟨identity, -, stored⟩ := applied
      rw [← Option.some.inj stored]
      exact w.writeNextJob_installed_iff e payload draw drawn
  | newJob valid employed =>
      obtain ⟨job, found⟩ := Option.isSome_iff_exists.mp employed
      have applied : w.applyReport e (some payload) = w.writeReportedJob e job payload := by
        simp [World.applyReport, found, valid]
      rw [applied]
      exact w.writeReportedJob_installed_iff e payload job found

noncomputable def smith : World ℝ :=
  let w := emptyWorld ⟨[], [], [], lit 2, 60⟩ ⟨lit 2, 60⟩ (some [])
  ({ w with reg := w.reg.create } : World ℝ).setJob 0 .initial

noncomputable def towerJob : JobPayload ℝ := ⟨7, 1, "탑", 100, 5, 100, "망보기", 0, 1, 4⟩

theorem smith_employed : smith.reg.valid 0 = true ∧ smith.reg.job 0 = some .initial := by
  constructor
  · simp [smith, World.setJob, emptyWorld, Registry.empty, Registry.create]
  · simp [smith, World.setJob]

theorem installed_iff_tower :
    (smith.applyReport 0 (some towerJob)).Installed 0 towerJob ↔
      JobHandler.newJob.Suits smith 0 towerJob :=
  installed_iff smith _ 0 towerJob ⟨0, 0⟩ .newJob (by norm_num)
    (.newJob smith_employed.1 (by simp [smith_employed.2]))

-- The new job of a report leaves the smith at the height of the old one.
theorem reported_job_misplaced :
    ∃ w' : World ℝ, Installs smith 0 towerJob ⟨0, 0⟩ .newJob w' ∧ ¬w'.Installed 0 towerJob := by
  refine ⟨_, .newJob smith_employed.1 (by simp [smith_employed.2]), fun installed => ?_⟩
  obtain ⟨job, found, carries⟩ := installed.job
  have written : (smith.applyReport 0 (some towerJob)).reg.job 0 =
      some (JobComp.initial.reported towerJob) := by
    simp [World.applyReport, smith_employed, World.writeReportedJob, World.restartToil,
      World.setJob, World.setToil]
  obtain rfl := Option.some.inj (written.symm.trans found)
  have height : ((0 : ℚ) : ℝ) = 5 := carries.targetY
  norm_num at height

end MundusVivens
