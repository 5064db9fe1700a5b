import MundusVivens.Shared.Runs
import Mathlib.Tactic.Ring

set_option autoImplicit false

/-!
# The game loop

`GameLoop::Run` calls the frame function at a fixed rate until the signal handler
clears `keep_running`. Times are in microseconds. What the steady clock shows, and
how much longer than asked a sleep takes, is left open.
-/

namespace MundusVivens.GameLoop

open Runs

-- The locals of `Run` and the flag it reads; `time` is the latest moment seen.
structure Pacer where
  tick : Nat
  nextTick : Int
  keepRunning : Bool
  time : Int
deriving DecidableEq

-- One pass of the loop: when `tick_fn` is called, what `Clock::now()` shows after it, and when the
-- sleep is over.
structure Pass where
  called : Int
  now : Int
  woken : Int
deriving DecidableEq

inductive Event where
  | pass (times : Pass)
  | interrupt
deriving DecidableEq

-- `tick_interval_` for the rate of 20 Hz that `main` asks for.
def tickInterval : Int := 1000000 / 20

def begin (now : Int) : Pacer := ⟨0, now, true, now⟩

variable (interval : Int)

-- The body of the loop. The steady clock does not run backwards, and `sleep_for` blocks for at
-- least the time it is given.
def pass (times : Pass) (s : Pacer) : Option Pacer :=
  if times.called < s.time ∨ times.now < times.called then none
  else
    let nextTick := s.nextTick + interval
    if times.now < nextTick then
      if times.woken < times.now + (nextTick - times.now) then none
      else some { s with tick := s.tick + 1, nextTick := nextTick, time := times.woken }
    else
      -- A frame was dropped: the schedule starts again from here.
      some { s with tick := s.tick + 1, nextTick := times.now, time := times.now }

def step : Event → Pacer → Option Pacer
  | .pass times, s => if s.keepRunning then pass interval times s else none
  | .interrupt, s => some { s with keepRunning := false }

variable {interval}

-- The next frame is due no earlier than one interval after this one was, and not before this one
-- has ended.
structure Paces (interval : Int) (times : Pass) (s s' : Pacer) : Prop where
  order : s.time ≤ times.called ∧ times.called ≤ times.now
  counts : s'.tick = s.tick + 1
  runs : s'.keepRunning = s.keepRunning
  due : s.nextTick + interval ≤ s'.nextTick
  ended : times.now ≤ s'.nextTick
  waits : s'.nextTick ≤ s'.time
  onTime : times.now < s.nextTick + interval →
    s'.nextTick = s.nextTick + interval ∧ s'.time = times.woken

theorem pass_paces (times : Pass) (s s' : Pacer) (passed : pass interval times s = some s') :
    Paces interval times s s' := by
  simp only [pass] at passed
  split at passed
  next => cases passed
  next forward =>
    split at passed
    next early =>
      split at passed
      next => cases passed
      next slept =>
        obtain rfl := Option.some.inj passed
        have due : s.nextTick + interval ≤ times.woken := by omega
        exact ⟨by omega, rfl, rfl, Int.le_refl _, Int.le_of_lt early, due, fun _ => ⟨rfl, rfl⟩⟩
    next late =>
      obtain rfl := Option.some.inj passed
      have due : s.nextTick + interval ≤ times.now := by omega
      exact ⟨by omega, rfl, rfl, due, Int.le_refl _, Int.le_refl _, fun early => absurd early late⟩

theorem step_pass (times : Pass) (s s' : Pacer)
    (stepped : step interval (.pass times) s = some s') :
    s.keepRunning = true ∧ Paces interval times s s' := by
  simp only [step] at stepped
  split at stepped
  next running => exact ⟨running, pass_paces times s s' stepped⟩
  next => cases stepped

def passes : List (Transition Pacer Event) → Nat
  | [] => 0
  | ⟨_, .pass _, _⟩ :: earlier => passes earlier + 1
  | ⟨_, .interrupt, _⟩ :: earlier => passes earlier

variable {past : List (Transition Pacer Event)} {s last : Pacer}

theorem run_paced (run : Run (step interval) s past last) (started : s.nextTick ≤ s.time) :
    last.tick = s.tick + passes past ∧ s.nextTick + passes past * interval ≤ last.nextTick ∧
      last.nextTick ≤ last.time := by
  induction run with
  | rest => simp [passes, started]
  | @next past m m' event run stepped ih =>
      obtain ⟨counted, due, waited⟩ := ih
      cases event with
      | pass times =>
          obtain ⟨-, paces⟩ := step_pass times m m' stepped
          have later := paces.due
          have split : ((passes past + 1 : Nat) : Int) * interval = passes past * interval + interval := by
            push_cast
            ring
          refine ⟨by rw [paces.counts, counted, passes]; omega, ?_, paces.waits⟩
          rw [passes, split]
          omega
      | interrupt =>
          obtain rfl := Option.some.inj stepped
          exact ⟨counted, due, waited⟩

theorem run_stopped (run : Run (step interval) s past last) (stopped : s.keepRunning = false) :
    last.keepRunning = false ∧ passes past = 0 := by
  induction run with
  | rest => exact ⟨stopped, rfl⟩
  | @next past m m' event run stepped ih =>
      obtain ⟨ended, none⟩ := ih
      cases event with
      | pass times =>
          obtain ⟨running, -⟩ := step_pass times m m' stepped
          rw [ended] at running
          cases running
      | interrupt =>
          obtain rfl := Option.some.inj stepped
          exact ⟨rfl, none⟩

end MundusVivens.GameLoop
