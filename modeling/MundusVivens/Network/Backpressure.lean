import MundusVivens.Shared.Runs
import Mathlib.Logic.Function.Basic

set_option autoImplicit false

/-!
# Backpressure

A session with 32 pending gRPC calls stops reading, and reads on once 8 are
left. The reader coroutine and the threads that count calls share two atomics
and a timer; every load, store and timer operation is one step.
-/

namespace MundusVivens.Network

open Runs

-- Where the reader coroutine of `Run` stands.
inductive Reader where
  | reading
  | tested
  | armed
  | waiting
  | ended
deriving DecidableEq

-- The reader has seen the flag set, and has not been woken since.
def Reader.isPaused : Reader → Bool
  | .tested | .armed | .waiting => true
  | _ => false

-- Where a thread stands in `IncrementPendingGrpc` or `DecrementPendingGrpc`.
inductive Caller where
  | idle
  | decrement
  | check
  | testLimit (wasSuspended : Bool)
  | testRelease (wasSuspended : Bool)
  | suspend (wasSuspended : Bool)
  | resume (wasSuspended : Bool)
  | compare (wasSuspended : Bool)
  | cancel
deriving DecidableEq

def Caller.cancels : Caller → Bool
  | .compare wasSuspended => wasSuspended
  | .cancel => true
  | _ => false

structure Backpressure where
  pendingGrpcRequests : UInt64
  isReadingSuspended : Bool
  reader : Reader
  callers : Nat → Caller

namespace Backpressure

def initial : Backpressure := ⟨0, false, .reading, fun _ => .idle⟩

def move (s : Backpressure) (thread : Nat) (caller : Caller) : Backpressure :=
  { s with callers := Function.update s.callers thread caller }

-- `backpressure_timer_.cancel()` ends the wait that has started, and no other.
def cancel (s : Backpressure) : Backpressure :=
  if s.reader = .waiting then { s with reader := .reading } else s

def proceed (s : Backpressure) (thread : Nat) : Option Backpressure :=
  match s.callers thread with
  | .idle => none
  | .decrement =>
      some ({ s with pendingGrpcRequests := s.pendingGrpcRequests - 1 }.move thread .check)
  | .check => some (s.move thread (.testLimit s.isReadingSuspended))
  | .testLimit was =>
      some (s.move thread (if 32 ≤ s.pendingGrpcRequests then .suspend was else .testRelease was))
  | .testRelease was =>
      some (s.move thread (if s.pendingGrpcRequests ≤ 8 then .resume was else .compare was))
  | .suspend was => some ({ s with isReadingSuspended := true }.move thread (.compare was))
  | .resume was => some ({ s with isReadingSuspended := false }.move thread (.compare was))
  | .compare was =>
      some (s.move thread (if !s.isReadingSuspended && was then .cancel else .idle))
  | .cancel => some (s.cancel.move thread .idle)

inductive Step where
  | test
  | arm
  | wait
  | leave
  | increment (thread : Nat)
  | decrement (thread : Nat)
  | proceed (thread : Nat)

def step (event : Step) (s : Backpressure) : Option Backpressure :=
  match event with
  -- A reader that finds the flag clear takes its packet and comes back to the test.
  | .test =>
      if s.reader = .reading then
        some (if s.isReadingSuspended then { s with reader := .tested } else s)
      else none
  | .arm => if s.reader = .tested then some { s with reader := .armed } else none
  | .wait => if s.reader = .armed then some { s with reader := .waiting } else none
  | .leave => if s.reader = .reading then some { s with reader := .ended } else none
  | .increment thread =>
      if s.callers thread = .idle then
        some ({ s with pendingGrpcRequests := s.pendingGrpcRequests + 1 }.move thread .check)
      else none
  | .decrement thread =>
      if s.callers thread = .idle then
        some (s.move thread (if 0 < s.pendingGrpcRequests then .decrement else .check))
      else none
  | .proceed thread => s.proceed thread

-- `CheckBackpressure`, when no other thread takes a step meanwhile.
def checkBackpressure (s : Backpressure) : Backpressure :=
  let wasSuspended := s.isReadingSuspended
  let checked : Backpressure :=
    if 32 ≤ s.pendingGrpcRequests then { s with isReadingSuspended := true }
    else if s.pendingGrpcRequests ≤ 8 then { s with isReadingSuspended := false }
    else s
  if !checked.isReadingSuspended && wasSuspended then checked.cancel else checked

def incrementPendingGrpc (s : Backpressure) : Backpressure :=
  checkBackpressure { s with pendingGrpcRequests := s.pendingGrpcRequests + 1 }

def decrementPendingGrpc (s : Backpressure) : Backpressure :=
  checkBackpressure
    (if 0 < s.pendingGrpcRequests then
      { s with pendingGrpcRequests := s.pendingGrpcRequests - 1 }
    else s)

-- Whole calls as single steps.
def wholeStep (event : Step) (s : Backpressure) : Option Backpressure :=
  match event with
  | .increment thread =>
      if s.callers thread = .idle then some s.incrementPendingGrpc else none
  | .decrement thread =>
      if s.callers thread = .idle then some s.decrementPendingGrpc else none
  | .proceed _ => none
  | event => step event s

-- A thread that takes the steps of its call without interruption.
inductive Alone (thread : Nat) : Backpressure → Backpressure → Prop where
  | done {s : Backpressure} (idle : s.callers thread = .idle) : Alone thread s s
  | next {s s' last : Backpressure} (proceeded : s.proceed thread = some s')
      (rest : Alone thread s' last) : Alone thread s last

section

variable (s s' : Backpressure) (thread : Nat)

@[simp] theorem move_callers (caller : Caller) : (s.move thread caller).callers thread = caller := by
  simp [move]

theorem move_other (caller : Caller) {other : Nat} (different : other ≠ thread) :
    (s.move thread caller).callers other = s.callers other := by
  simp [move, different]

@[simp] theorem move_pending (caller : Caller) :
    (s.move thread caller).pendingGrpcRequests = s.pendingGrpcRequests := rfl

@[simp] theorem move_suspended (caller : Caller) :
    (s.move thread caller).isReadingSuspended = s.isReadingSuspended := rfl

@[simp] theorem move_reader (caller : Caller) : (s.move thread caller).reader = s.reader := rfl

@[simp] theorem move_move (caller later : Caller) :
    (s.move thread caller).move thread later = s.move thread later := by
  simp [move]

@[simp] theorem cancel_callers : s.cancel.callers = s.callers := by
  unfold cancel
  split <;> rfl

@[simp] theorem cancel_flag : s.cancel.isReadingSuspended = s.isReadingSuspended := by
  unfold cancel
  split <;> rfl

theorem cancel_move (caller : Caller) : (s.move thread caller).cancel = s.cancel.move thread caller := by
  unfold cancel
  split <;> simp_all [move]

variable {s s' thread}

theorem move_idle (idle : s.callers thread = .idle) : s.move thread .idle = s := by
  simp [move, ← idle]

theorem compare_alone (was : Bool) (idle : s.callers thread = .idle) :
    Alone thread (s.move thread (.compare was))
      (if !s.isReadingSuspended && was then s.cancel else s) := by
  by_cases clear : (!s.isReadingSuspended && was) = true
  next =>
    have compared : (s.move thread (.compare was)).proceed thread = some (s.move thread .cancel) := by
      simp [proceed, clear]
    have done : s.cancel.callers thread = .idle := by simpa using idle
    have cancelled : (s.move thread .cancel).proceed thread = some s.cancel := by
      simp [proceed, cancel_move, move_idle done]
    rw [if_pos clear]
    exact .next compared (.next cancelled (.done done))
  next =>
    have compared : (s.move thread (.compare was)).proceed thread = some s := by
      simp [proceed, clear, move_idle idle]
    rw [if_neg clear]
    exact .next compared (.done idle)

theorem checkBackpressure_callers (s : Backpressure) :
    s.checkBackpressure.callers = s.callers := by
  unfold checkBackpressure
  dsimp only
  split <;> split <;> (try split) <;> simp

theorem check_alone (idle : s.callers thread = .idle) :
    Alone thread (s.move thread .check) s.checkBackpressure := by
  let was := s.isReadingSuspended
  have loaded : (s.move thread .check).proceed thread = some (s.move thread (.testLimit was)) := by
    simp [proceed, was]
  refine .next loaded ?_
  by_cases limit : 32 ≤ s.pendingGrpcRequests
  next =>
    have tested : (s.move thread (.testLimit was)).proceed thread =
        some (s.move thread (.suspend was)) := by
      simp [proceed, limit]
    have stored : (s.move thread (.suspend was)).proceed thread =
        some (({ s with isReadingSuspended := true } : Backpressure).move thread (.compare was)) := by
      simp [proceed, move]
    have checked : s.checkBackpressure = { s with isReadingSuspended := true } := by
      simp [checkBackpressure, limit]
    rw [checked]
    have compared := compare_alone (s := { s with isReadingSuspended := true }) was idle
    exact .next tested (.next stored (by simpa using compared))
  next =>
    have tested : (s.move thread (.testLimit was)).proceed thread =
        some (s.move thread (.testRelease was)) := by
      simp [proceed, limit]
    refine .next tested ?_
    by_cases release : s.pendingGrpcRequests ≤ 8
    next =>
      have tested : (s.move thread (.testRelease was)).proceed thread =
          some (s.move thread (.resume was)) := by
        simp [proceed, release]
      have stored : (s.move thread (.resume was)).proceed thread =
          some (({ s with isReadingSuspended := false } : Backpressure).move thread
            (.compare was)) := by
        simp [proceed, move]
      have compared := compare_alone (s := { s with isReadingSuspended := false }) was idle
      refine .next tested (.next stored ?_)
      simpa [checkBackpressure, limit, release, was] using compared
    next =>
      have tested : (s.move thread (.testRelease was)).proceed thread =
          some (s.move thread (.compare was)) := by
        simp [proceed, release]
      refine .next tested ?_
      simpa [checkBackpressure, limit, release, was] using compare_alone was idle

theorem increment_alone (idle : s.callers thread = .idle) : ∃ s',
    step (.increment thread) s = some s' ∧ Alone thread s' s.incrementPendingGrpc := by
  let counted : Backpressure := { s with pendingGrpcRequests := s.pendingGrpcRequests + 1 }
  exact ⟨counted.move thread .check, by simp [step, idle, counted], check_alone idle⟩

theorem decrement_alone (idle : s.callers thread = .idle) : ∃ s',
    step (.decrement thread) s = some s' ∧ Alone thread s' s.decrementPendingGrpc := by
  by_cases positive : 0 < s.pendingGrpcRequests
  next =>
    let counted : Backpressure := { s with pendingGrpcRequests := s.pendingGrpcRequests - 1 }
    have counts : (s.move thread .decrement).proceed thread = some (counted.move thread .check) := by
      simp [proceed, counted, move]
    refine ⟨s.move thread .decrement, by simp [step, idle, positive], .next counts ?_⟩
    rw [decrementPendingGrpc, if_pos positive]
    exact check_alone idle
  next =>
    refine ⟨s.move thread .check, by simp [step, idle, positive], ?_⟩
    rw [decrementPendingGrpc, if_neg positive]
    exact check_alone idle

theorem Alone.run (alone : Alone thread s s') {start : Backpressure}
    {past : List (Transition Backpressure Step)} (run : Run step start past s) :
    ∃ later, Run step start later s' := by
  induction alone generalizing past with
  | done => exact ⟨past, run⟩
  | next proceeded rest ih => exact ih (run.next (show step (.proceed thread) _ = some _ from proceeded))

theorem wholeStep_callers (event : Step) (stepped : wholeStep event s = some s') :
    s'.callers = s.callers := by
  cases event with
  | increment thread =>
      simp only [wholeStep, Option.ite_none_right_eq_some, Option.some.injEq] at stepped
      rw [← stepped.2]
      exact checkBackpressure_callers _
  | decrement thread =>
      simp only [wholeStep, Option.ite_none_right_eq_some, Option.some.injEq] at stepped
      rw [← stepped.2, decrementPendingGrpc, checkBackpressure_callers]
      split <;> rfl
  | proceed thread => cases stepped
  | test =>
      simp only [wholeStep, step, Option.ite_none_right_eq_some, Option.some.injEq] at stepped
      rw [← stepped.2]
      split <;> rfl
  | arm | wait | leave =>
      simp only [wholeStep, step, Option.ite_none_right_eq_some, Option.some.injEq] at stepped
      rw [← stepped.2]

theorem run_of_whole {start last : Backpressure} {past : List (Transition Backpressure Step)}
    (run : Run wholeStep start past last) : ∃ steps, Run step start steps last := by
  induction run with
  | rest => exact ⟨[], .rest⟩
  | @next past s s' event run stepped ih =>
      obtain ⟨steps, earlier⟩ := ih
      cases event with
      | increment thread =>
          simp only [wholeStep] at stepped
          split at stepped
          next idle =>
            obtain rfl := Option.some.inj stepped
            obtain ⟨begun, started, alone⟩ := increment_alone idle
            exact alone.run (earlier.next started)
          next => cases stepped
      | decrement thread =>
          simp only [wholeStep] at stepped
          split at stepped
          next idle =>
            obtain rfl := Option.some.inj stepped
            obtain ⟨begun, started, alone⟩ := decrement_alone idle
            exact alone.run (earlier.next started)
          next => cases stepped
      | proceed thread => cases stepped
      | test | arm | wait | leave =>
          simp only [wholeStep] at stepped
          exact ⟨_, earlier.next stepped⟩

end

def CancelToCome (s : Backpressure) : Prop := ∃ thread, (s.callers thread).cancels = true

/-- The reader waits for a wake-up that nobody will send. -/
def Lost (s : Backpressure) : Prop :=
  s.reader = .waiting ∧ s.isReadingSuspended = false ∧ ¬s.CancelToCome

/-- A reader that has seen the flag set can count on a cancel once the flag is clear. -/
def Secured (s : Backpressure) : Prop :=
  s.reader.isPaused = true → s.isReadingSuspended = false → s.CancelToCome

def CancelElsewhere (s : Backpressure) (thread : Nat) : Prop :=
  ∃ other, other ≠ thread ∧ (s.callers other).cancels = true

/-- The timer is not cancelled between the test and the wait it should end, and a call clears a
set flag only if it has read it set. -/
def keepsWakeup (s : Backpressure) : Step → Prop
  | .proceed thread =>
      match s.callers thread with
      | .cancel => s.reader = .tested ∨ s.reader = .armed → s.isReadingSuspended = false →
          s.CancelElsewhere thread
      | .resume wasSuspended => s.reader.isPaused = true → s.isReadingSuspended = true →
          wasSuspended = true ∨ s.CancelElsewhere thread
      | _ => True
  | _ => True

section

variable {s s' : Backpressure} {thread : Nat}

theorem CancelElsewhere.move (elsewhere : s.CancelElsewhere thread) (caller : Caller) :
    (s.move thread caller).CancelToCome := by
  obtain ⟨other, different, cancels⟩ := elsewhere
  exact ⟨other, by rwa [move_other _ _ _ different]⟩

theorem CancelToCome.elsewhere (coming : s.CancelToCome)
    (silent : (s.callers thread).cancels = false) : s.CancelElsewhere thread := by
  obtain ⟨other, cancels⟩ := coming
  refine ⟨other, ?_, cancels⟩
  rintro rfl
  simp [silent] at cancels

theorem Secured.move (secured : s.Secured) (silent : (s.callers thread).cancels = false)
    (caller : Caller) : (s.move thread caller).Secured := by
  intro paused clear
  have coming : s.CancelToCome := secured paused clear
  exact (coming.elsewhere silent).move caller

theorem Secured.proceed (secured : s.Secured) (kept : s.keepsWakeup (.proceed thread))
    (proceeded : s.proceed thread = some s') : s'.Secured := by
  unfold Backpressure.proceed at proceeded
  unfold keepsWakeup at kept
  cases caller : s.callers thread with
  | idle => simp [caller] at proceeded
  | decrement =>
      obtain rfl := by simpa [caller] using proceeded
      let counted : Backpressure := { s with pendingGrpcRequests := s.pendingGrpcRequests - 1 }
      have same : counted.Secured := secured
      exact same.move (by simp [counted, caller, Caller.cancels]) _
  | check =>
      obtain rfl := by simpa [caller] using proceeded
      exact secured.move (by simp [caller, Caller.cancels]) _
  | testLimit was =>
      obtain rfl := by simpa [caller] using proceeded
      exact secured.move (by simp [caller, Caller.cancels]) _
  | testRelease was =>
      obtain rfl := by simpa [caller] using proceeded
      exact secured.move (by simp [caller, Caller.cancels]) _
  | suspend was =>
      obtain rfl := by simpa [caller] using proceeded
      intro _ clear
      cases clear
  | resume was =>
      obtain rfl := by simpa [caller] using proceeded
      intro paused _
      have outcome : was = true ∨ s.CancelElsewhere thread := by
        by_cases suspended : s.isReadingSuspended = true
        next =>
          simp only [caller] at kept
          exact kept paused suspended
        next =>
          have coming : s.CancelToCome := secured paused (by simpa using suspended)
          exact .inr (coming.elsewhere (by simp [caller, Caller.cancels]))
      rcases outcome with rfl | elsewhere
      · exact ⟨thread, by simp [Caller.cancels]⟩
      · obtain ⟨other, different, cancels⟩ := elsewhere
        exact ⟨other, by rwa [move_other _ _ _ different]⟩
  | compare was =>
      obtain rfl := by simpa [caller] using proceeded
      intro paused clear
      cases was with
      | true =>
          have suspended : s.isReadingSuspended = false := clear
          exact ⟨thread, by simp [suspended, Caller.cancels]⟩
      | false => exact secured.move (by simp [caller, Caller.cancels]) _ paused clear
  | cancel =>
      obtain rfl := by simpa [caller] using proceeded
      intro paused clear
      by_cases waits : s.reader = .waiting
      next => simp [Backpressure.cancel, waits, Reader.isPaused] at paused
      next =>
        have early : s.reader = .tested ∨ s.reader = .armed := by
          cases place : s.reader <;> simp_all [Backpressure.cancel, Reader.isPaused]
        simp only [caller] at kept
        have elsewhere : s.CancelElsewhere thread := kept early (by simpa using clear)
        obtain ⟨other, different, cancels⟩ := elsewhere
        exact ⟨other, by rwa [move_other _ _ _ different, cancel_callers]⟩

theorem Secured.step (secured : s.Secured) (event : Step) (kept : s.keepsWakeup event)
    (stepped : step event s = some s') : s'.Secured := by
  cases event with
  | proceed thread => exact secured.proceed kept stepped
  | increment thread =>
      simp only [Backpressure.step] at stepped
      split at stepped
      next idle =>
        obtain rfl := Option.some.inj stepped
        let counted : Backpressure := { s with pendingGrpcRequests := s.pendingGrpcRequests + 1 }
        have same : counted.Secured := secured
        exact same.move (by simp [counted, idle, Caller.cancels]) _
      next => cases stepped
  | decrement thread =>
      simp only [Backpressure.step] at stepped
      split at stepped
      next idle =>
        obtain rfl := Option.some.inj stepped
        exact secured.move (by simp [idle, Caller.cancels]) _
      next => cases stepped
  | test =>
      simp only [Backpressure.step] at stepped
      split at stepped
      next reads =>
        obtain rfl := Option.some.inj stepped
        intro paused clear
        split at clear
        next suspended => simp [suspended] at clear
        next unsuspended => simp [unsuspended, reads, Reader.isPaused] at paused
      next => cases stepped
  | arm =>
      simp only [Backpressure.step] at stepped
      split at stepped
      next tested =>
        obtain rfl := Option.some.inj stepped
        exact fun _ clear => secured (by simp [tested, Reader.isPaused]) clear
      next => cases stepped
  | wait =>
      simp only [Backpressure.step] at stepped
      split at stepped
      next armed =>
        obtain rfl := Option.some.inj stepped
        exact fun _ clear => secured (by simp [armed, Reader.isPaused]) clear
      next => cases stepped
  | leave =>
      simp only [Backpressure.step] at stepped
      split at stepped
      next =>
        obtain rfl := Option.some.inj stepped
        intro paused
        cases paused
      next => cases stepped

end

-- A step against the guard leaves the reader without a cancel.
theorem unsecured_of_early {s s' : Backpressure} {event : Step} (early : ¬s.keepsWakeup event)
    (stepped : step event s = some s') : ¬s'.Secured := by
  cases event with
  | proceed thread =>
      unfold keepsWakeup at early
      simp only [step, Backpressure.proceed] at stepped
      cases caller : s.callers thread with
      | cancel =>
          obtain ⟨place, clear, alone⟩ : (s.reader = .tested ∨ s.reader = .armed) ∧
              s.isReadingSuspended = false ∧ ¬s.CancelElsewhere thread := by
            simpa [caller] using early
          obtain rfl := by simpa [caller] using stepped
          have unwoken : s.cancel = s := by rcases place with at_ | at_ <;> simp [cancel, at_]
          have paused : s.reader.isPaused = true := by
            rcases place with at_ | at_ <;> simp [at_, Reader.isPaused]
          intro secured
          obtain ⟨other, cancels⟩ := secured (by simpa [unwoken] using paused) (by simpa using clear)
          refine alone ⟨other, ?_, ?_⟩
          · rintro rfl
            simp [Caller.cancels] at cancels
          · by_cases same : other = thread
            next => simp [same, Caller.cancels] at cancels
            next => simpa [move_other _ _ _ same] using cancels
      | resume was =>
          obtain ⟨paused, -, unread, alone⟩ : s.reader.isPaused = true ∧
              s.isReadingSuspended = true ∧ was = false ∧ ¬s.CancelElsewhere thread := by
            simpa [caller, not_or] using early
          obtain rfl := by simpa [caller] using stepped
          intro secured
          obtain ⟨other, cancels⟩ := secured paused rfl
          by_cases same : other = thread
          next => simp [same, unread, Caller.cancels] at cancels
          next => exact alone ⟨other, same, by simpa [move_other _ _ _ same] using cancels⟩
      | _ => simp [caller] at early
  | _ => exact absurd trivial early

-- Such a reader is lost as soon as it gets to its wait.
theorem lost_of_unsecured {s : Backpressure} (unsecured : ¬s.Secured) :
    ∃ past last, Run step s past last ∧ last.Lost := by
  obtain ⟨paused, clear, finished⟩ : s.reader.isPaused = true ∧ s.isReadingSuspended = false ∧
      ¬s.CancelToCome := by simpa [Secured] using unsecured
  let asleep : Backpressure := { s with reader := .waiting }
  have lost : asleep.Lost := ⟨rfl, clear, finished⟩
  cases place : s.reader with
  | tested =>
      have armed : step .arm s = some { s with reader := .armed } := by simp [step, place]
      have waited : step .wait { s with reader := .armed } = some asleep := by simp [step, asleep]
      exact ⟨_, asleep, (Run.rest.next armed).next waited, lost⟩
  | armed =>
      have waited : step .wait s = some asleep := by simp [step, place, asleep]
      exact ⟨_, asleep, Run.rest.next waited, lost⟩
  | waiting => exact ⟨[], s, .rest, place, clear, finished⟩
  | reading => simp [place, Reader.isPaused] at paused
  | ended => simp [place, Reader.isPaused] at paused

/-- No wake-up is lost in a run whose cancels do not come too early, and any that comes too early may
lose one. -/
theorem wakeups_kept (past : List (Transition Backpressure Step)) (last : Backpressure)
    (run : Run step initial past last) :
    (Guarded keepsWakeup past → ¬last.Lost) ∧
      ∀ event next, ¬last.keepsWakeup event → step event last = some next →
        ∃ later lost, Run step next later lost ∧ lost.Lost := by
  constructor
  · intro guarded
    have initially : initial.Secured := by
      intro paused
      cases paused
    have secured : last.Secured :=
      run.invariant initially (fun _ event _ before kept => before.step event kept) guarded
    rintro ⟨waits, clear, finished⟩
    exact finished (secured (by simp [waits, Reader.isPaused]) clear)
  · exact fun event next early stepped => lost_of_unsecured (unsecured_of_early early stepped)

-- A cancel that finds the reader asleep, after a call that has read the flag set.
def cancelsAsleep (s : Backpressure) : Step → Bool
  | .proceed thread =>
      match s.callers thread with
      | .cancel => decide (s.reader = .waiting)
      | .resume wasSuspended => wasSuspended || decide (s.reader = .reading)
      | _ => true
  | _ => true

theorem keepsWakeup_of_asleep {s : Backpressure} {event : Step}
    (asleep : cancelsAsleep s event = true) : s.keepsWakeup event := by
  cases event with
  | proceed thread =>
      unfold cancelsAsleep at asleep
      unfold keepsWakeup
      cases caller : s.callers thread with
      | cancel =>
          have waits : s.reader = .waiting := by simpa [caller] using asleep
          simp [caller, waits]
      | resume was =>
          have safe : was = true ∨ s.reader = .reading := by simpa [caller] using asleep
          simp only [caller]
          intro paused _
          exact .inl (safe.resolve_right fun reads => by simp [reads, Reader.isPaused] at paused)
      | _ => simp [caller]
  | _ => trivial

-- The reader falls asleep on a full session, which is then released.
def pausedReader : List Step :=
  (List.replicate 8 (.increment 0 :: List.replicate 5 (.proceed 0))).flatten ++
    (List.replicate 24 (.increment 0 :: List.replicate 4 (.proceed 0))).flatten ++
    [.test, .arm, .wait] ++
    (List.replicate 23 (.decrement 0 :: List.replicate 5 (.proceed 0))).flatten ++
    .decrement 0 :: List.replicate 7 (.proceed 0)

theorem wakeups_kept_paused : ∃ past last, Run step initial past last ∧
    past.reverse.map (·.event) = pausedReader ∧ ¬last.Lost ∧ last.reader = .reading := by
  have passed : (followWhile step cancelsAsleep pausedReader initial).any
      (fun s => decide (s.reader = .reading)) = true := by decide +kernel
  obtain ⟨past, last, run, guarded, events, reads⟩ := Run.exists_of_check _ _ _ passed
  have kept : Guarded keepsWakeup past := guarded.mono fun s event => keepsWakeup_of_asleep
  exact ⟨past, last, run, events, (wakeups_kept past last run).1 kept, by simpa using reads⟩

-- The release comes between the test and the wait.
def lateWait : List Step :=
  List.replicate 32 (.increment 0) ++ .test :: List.replicate 24 (.decrement 0) ++ [.arm, .wait]

theorem wakeup_lost : ∃ past last, Run wholeStep initial past last ∧
    past.reverse.map (·.event) = lateWait ∧ (∃ steps, Run step initial steps last) ∧
      last.Lost := by
  have passed : (followWhile wholeStep (fun _ _ => true) lateWait initial).any
      (fun s => decide (s.reader = .waiting) && !s.isReadingSuspended) = true := by decide +kernel
  obtain ⟨past, last, run, unguarded, events, asleep⟩ := Run.exists_of_check _ _ _ passed
  let unchanged : Backpressure → Prop := fun s => s.callers = initial.callers
  have initially : unchanged initial := rfl
  have idle : unchanged last := run.invariant initially
    (fun _ event _ same _ stepped => (wholeStep_callers event stepped).trans same) unguarded
  obtain ⟨waits, clear⟩ : last.reader = .waiting ∧ last.isReadingSuspended = false := by
    simpa using asleep
  refine ⟨past, last, run, events, run_of_whole run, waits, clear, ?_⟩
  rintro ⟨thread, cancels⟩
  simp [show last.callers = _ from idle, initial, Caller.cancels] at cancels

end Backpressure

end MundusVivens.Network
