import MundusVivens.Systems.ResultTasks

set_option autoImplicit false

/-!
# The job driver

`SystemJobDriver` runs once per logical tick, `SystemBusyAmbient` once per
frame. Each definition is the body of the loop for one entity.
-/

namespace MundusVivens

open Scalar

variable {F : Type} [Scalar F]

def ToilComp.countDown (toil : ToilComp) : ToilComp :=
  if 0 < toil.durationTicks then { toil with durationTicks := toil.durationTicks - 1 } else toil

namespace World

def isDead (w : World F) (e : Entity) : Bool :=
  match w.reg.health e with
  | some health => health.isDead
  | none => false

-- The entity has a `CombatComp` whose target is not null.
def hasCombatTarget (w : World F) (e : Entity) : Bool :=
  match w.reg.combat e with
  | some combat => combat.targetEntity.isSome
  | none => false

-- The entity is busy: interrupt the toil, and report the active job.
def pauseJob (w : World F) (e : Entity) (identity : IdentityComp) (job : JobComp F)
    (toil : ToilComp) : World F :=
  if toil.state = .interrupted then w
  else
    let reported :=
      if job.isActive then
        w.issue (.reportJobStatus identity.npcId job.jobId 2 .dialogueBusy
          "대화 걸려서 바쁨 상태로 전환됨" w.clock.tick (.install e))
      else w
    (reported.setToil e { toil with state := .interrupted }).setActivity e "대화 중"

-- Recharge the needs before a journey of more than 150 units.
def prepareJourney (w : World F) (e : Entity) (loc : LocationComp F) (job : JobComp F) : World F :=
  if lt (lit 150) (hypot (job.targetX - loc.x) (job.targetZ - loc.z)) then
    match w.reg.needs e with
    | some needs => w.setNeeds e { needs with hunger := lit 100, fatigue := lit 100 }
    | none => w
  else w

-- The job is done: report it as completed and wait for the next schedule.
def completeJob (w : World F) (e : Entity) (identity : IdentityComp) (job : JobComp F)
    (toil : ToilComp) : Option (World F) := do
  let stopped := (w.setJob e { job with isActive := false }).setToil e { toil with state := .idle }
  let waiting ← (stopped.setActivity e "대기").setBusy e .scheduleWait
  some (waiting.issue (.reportJobStatus identity.npcId job.jobId 0 .unknownReason "스케줄 완료"
    w.clock.tick .ignore))

def advanceJob (w : World F) (e : Entity) (loc : LocationComp F) (identity : IdentityComp)
    (job : JobComp F) (toil : ToilComp) : Option (World F) :=
  match toil.state with
  | .idle =>
      if loc.locationName ≠ job.targetLocation then
        let moving := (w.setToil e { toil with state := .moving }).setActivity e
          ("이동 중: " ++ job.targetLocation)
        some (moving.prepareJourney e loc job)
      else
        some ((w.setToil e { toil with state := .working, durationTicks := 3 }).setActivity e
          job.intent)
  | .moving => some w
  | .working =>
      if toil.countDown.durationTicks ≤ 0 then w.completeJob e identity job toil.countDown
      else some (w.setToil e toil.countDown)
  | .interrupted => some w

def driveJob (w : World F) (e : Entity) (loc : LocationComp F) (identity : IdentityComp)
    (job : JobComp F) (toil : ToilComp) : Option (World F) :=
  if job.isActive then
    if toil.state = .interrupted then
      let resumed := { toil with state := .idle }
      ((w.setToil e resumed).setActivity e "대기").advanceJob e loc identity job resumed
    else w.advanceJob e loc identity job toil
  else some ((w.setToil e { toil with state := .idle }).setActivity e "대기")

def jobDriver (w : World F) (e : Entity) : Option (World F) :=
  match w.reg.location e, w.reg.activity e, w.reg.identity e with
  | some loc, some _, some identity =>
      let job := w.jobOrDefault e
      let toil := w.toilOrDefault e
      let ready := (w.setJob e job).setToil e toil
      if w.isDead e then some ready
      else if w.isResolving e then some ready
      else if w.hasCombatTarget e then some ready
      else if job.intent = "배회 중" then some ready
      else if (w.reg.busy e).isSome then some (ready.pauseJob e identity job toil)
      else ready.driveJob e loc identity job toil
  | _, _, _ => some w

-- The activity and the action shown while an entity is busy.
def ambientTexts (reason : BusyReason) (state : ToilState) : String × String :=
  match reason with
  | .dialogue =>
      ("대화 중", if state = .interrupted then "Dialogue_Talking" else "Dialogue_Listening")
  | .reflection => ("성찰 중", "Thinking")
  | .scheduleWait => ("스케줄 대기", "WanderingAround")

-- The animation timer after a frame; it restarts when the waiting message is printed.
def ambientTimer (reason : BusyReason) (timer : F) : F :=
  match reason with
  | .dialogue => timer
  | .reflection => if lt (lit 10) timer then zero else timer
  | .scheduleWait => if lt (lit 8) timer then zero else timer

-- Talking and thinking entities are given no velocity.
def holdStill (w : World F) (e : Entity) (reason : BusyReason) : World F :=
  if reason = .dialogue || reason = .reflection then w.setVelocity e .still else w

def busyAmbient (w : World F) (deltaTime : F) (e : Entity) : World F :=
  match w.reg.busy e, w.reg.activity e, w.reg.toil e, w.reg.velocity e, w.reg.identity e with
  | some busy, some _, some toil, some _, some _ =>
      let texts := ambientTexts busy.reason toil.state
      let timed := (w.holdStill e busy.reason).modifyBusy e fun tag =>
        { tag with animTimer := ambientTimer tag.reason (tag.animTimer + deltaTime) }
      (timed.setActivity e texts.1).setToil e { toil with currentAction := texts.2 }
  | _, _, _, _, _ => w

end World

end MundusVivens
