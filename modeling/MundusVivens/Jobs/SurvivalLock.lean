import MundusVivens.Accounts.Binding
import MundusVivens.Jobs.Handlers

set_option autoImplicit false

/-!
# The survival lock

While an NPC resolves a crisis its job is the local one. The handler of the
pending jobs looks at the lock; the other two install whatever the answer holds.
-/

namespace MundusVivens

open Scalar Runs

variable {F : Type} [Scalar F]

/-- The next jobs of a dialogue, and the new job of a report, are for NPCs without a crisis. -/
def World.sparesCrises (w : World F) : Event F → Bool
  | .drainTask _ =>
      match w.grpc.pop with
      | none => true
      | some (_, .getPendingJobs _, _, _) => true
      | some (_, request, reply, _) => (w.taskTargets request reply).all fun e => !w.isResolving e
  | _ => true

theorem World.jobTargets_calm (w : World F) (draws : Nat → LocationRegistry.RadiusDraw F)
    (spares : w.sparesCrises (.drainTask draws) = true) (e : Entity)
    (target : e ∈ w.jobTargets (.drainTask draws)) : w.isResolving e = false := by
  cases popped : w.grpc.pop with
  | none => simp [jobTargets, popped] at target
  | some entry =>
      obtain ⟨ticket, request, reply, grpc⟩ := entry
      simp only [jobTargets, popped] at target
      simp only [sparesCrises, popped] at spares
      split at spares
      next absent => cases absent
      next pending =>
        -- The handler of the pending jobs needs no guard.
        obtain ⟨rfl, rfl, rfl, rfl⟩ := by simpa using pending
        unfold taskTargets at target
        split at target
        next =>
          obtain ⟨payload, -, hit⟩ := List.mem_filterMap.mp target
          exact ((w.pendingJobTarget_iff e payload).mp hit).2.2.1
        next => contradiction
        next => contradiction
        next => cases target
      next same =>
        obtain ⟨rfl, rfl, rfl, rfl⟩ := by simpa using same
        simpa using List.all_eq_true.mp spares e target

/-- No result task touched the job or the toil of an NPC in a crisis. -/
def CrisesLocked (past : List (Transition (World F) (Event F))) : Prop :=
  ∀ t ∈ past, ∀ draws, t.event = .drainTask draws → ∀ e, t.before.isResolving e = true →
    t.after.reg.job e = t.before.reg.job e ∧ t.after.reg.toil e = t.before.reg.toil e

theorem crises_locked (start last : World F) (past : List (Transition (World F) (Event F)))
    (run : ServerRun start past last)
    (spares : Guarded (fun w event => w.sparesCrises event = true) past) : CrisesLocked past := by
  intro t member draws drained e resolving
  obtain ⟨-, -, -, -, stepped⟩ := run.taken t member
  have allowed := spares t member
  rw [drained] at stepped allowed
  rcases t.before.drainTask_treats t.after e draws stepped with ⟨-, kept⟩ | ⟨target, -⟩
  · exact ⟨kept.job, kept.toil⟩
  · simp [t.before.jobTargets_calm draws allowed e target] at resolving

def mealJob : JobPayload ℚ := ⟨7, 1, "광장", 3, 0, 0, "식사", 0, 1, 2⟩

-- Ella is given the meal, and Bob's talk interrupts it for a moment.
def mealInterrupted : List (Event ℚ) :=
  [.requestJobs, .respond 0 (.jobs true [mealJob]), .drainTask fun _ => ⟨0, 0⟩,
    .connect, .command (.login 1 "bob" "Bob"), .command (.talkToNpc 1 7), .jobDriver 0,
    .respond 1 (.started false 0), .drainTask fun _ => ⟨0, 0⟩, .jobDriver 0,
    .behaviorTree 0 ⟨id, fun _ => 0⟩]

theorem crises_locked_meal : ∃ past last, ServerRun hamlet past last ∧
    past.reverse.map (·.event) = mealInterrupted ++
      [.respond 2 (.report true none), .drainTask fun _ => ⟨0, 0⟩] ∧
    last.isResolving 0 = true ∧ CrisesLocked past := by
  have passed : (followWhile step World.sparesCrises (mealInterrupted ++
      [.respond 2 (.report true none), .drainTask fun _ => ⟨0, 0⟩]) hamlet).any
      (fun w => w.isResolving 0) = true := by decide +kernel
  obtain ⟨past, last, run, spares, events, resolving⟩ := Run.exists_of_check _ _ _ passed
  exact ⟨past, last, run, events, resolving, crises_locked hamlet last past run spares⟩

-- The answer to the report about the interruption brings a new job while Ella eats.
theorem crisis_job_replaced : ∃ past last, ServerRun hamlet past last ∧
    past.reverse.map (·.event) = (mealInterrupted ++
      [.respond 2 (.report true (some { mealJob with jobId := 2 }))]) ++
        [.drainTask fun _ => ⟨0, 0⟩] ∧ ¬CrisesLocked past := by
  let check (w w' : World ℚ) : Bool :=
    w.isResolving 0 && (w.reg.job 0).map (·.jobId) = some 1 &&
      (w'.reg.job 0).map (·.jobId) = some 2
  obtain ⟨past, w, last, run, events, checked⟩ := Run.exists_of_last (mealInterrupted ++
      [.respond 2 (.report true (some { mealJob with jobId := 2 }))])
    (.drainTask fun _ => ⟨0, 0⟩) check
    (by decide +kernel : (followWhile step (fun _ _ => true) (mealInterrupted ++
      [.respond 2 (.report true (some { mealJob with jobId := 2 }))]) hamlet).any
        (fun w => (step (.drainTask fun _ => ⟨0, 0⟩) w).any (check w)) = true)
  refine ⟨_, last, run, events, fun locked => ?_⟩
  obtain ⟨⟨resolving, before⟩, after⟩ : (w.isResolving 0 = true ∧
      (w.reg.job 0).map (·.jobId) = some 1) ∧ (last.reg.job 0).map (·.jobId) = some 2 := by
    simpa [check] using checked
  have kept := (locked _ List.mem_cons_self _ rfl 0 resolving).1
  rw [kept, before] at after
  cases after

end MundusVivens
