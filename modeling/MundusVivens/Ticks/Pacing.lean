import MundusVivens.Systems.Frames
import MundusVivens.Systems.GameLoop
import MundusVivens.Ticks.Consumption
import MundusVivens.Ticks.Quiet

set_option autoImplicit false

/-!
# The pace of the ticks

The game loop calls whole frames, each with its own number, and a frame asks for a
tick only when its number is a multiple of `ticks_per_game_hour`. So the game clock
never runs ahead of the wall clock.
-/

namespace MundusVivens

open Scalar Runs

variable {F : Type}

-- The ticks granted so far, with the one that is being asked for or taken over.
def World.promised (w : World F) : Int :=
  w.clock.tick + if w.clock.isTickSyncPending || w.clock.tickSyncedReady then 1 else 0

def Handshake.promised (h : Handshake) : Int :=
  h.tick + if h.isTickSyncPending || h.tickSyncedReady then 1 else 0

theorem World.promised_eq (w : World F) : w.promised = w.handshake.promised := rfl

-- Only asking makes a promise.
theorem Handshake.InStep.promised_le {h : Handshake} {phase : Phase} (inStep : h.InStep phase)
    (move : Move) (enabled : h.Enabled move) :
    (h.apply move).promised ≤ h.promised ∨
      ∃ ticket, move = .ask ticket ∧ (h.apply move).promised = h.tick + 1 := by
  cases move with
  | ask ticket => exact .inr ⟨ticket, rfl, by simp [promised, Handshake.apply]⟩
  | answer ticket target success deltas => exact .inl (Int.le_refl _)
  | drop ticket => exact .inl (Int.le_refl _)
  | complete ticket target success deltas =>
      obtain ⟨pending, unready, -⟩ := inStep.asked ticket target _ enabled
      refine .inl ?_
      cases success <;> simp [promised, Handshake.apply, pending, unready]
  | sync =>
      have ready : h.tickSyncedReady = true := enabled
      obtain ⟨-, idle, next⟩ := inStep.ready ready
      exact .inl (by simp [promised, Handshake.apply, ready, idle, next])

-- The events of a frame before the tick is synchronised.
def Event.opens : Event F → Bool
  | .drainTask _ => true
  | event => !event.isPhased

variable [Scalar F]

structure World.Keeps (w : World F) (phase : Phase) (bound : Int) : Prop where
  inStep : w.handshake.InStep phase
  promised : w.promised ≤ bound

variable {w w' : World F} {phase : Phase} {bound : Int}

theorem step_keeps (event : Event F) (keeps : w.Keeps phase bound)
    (free : event.isPhased = false ∨ event.opens = true ∧ phase = .early)
    (stepped : step event w = some w') : w'.Keeps phase bound := by
  rcases step_moves event stepped with ⟨-, same⟩ | ⟨move, moves, enabled, moved⟩
  · refine ⟨same ▸ keeps.inStep, ?_⟩
    rw [World.promised_eq, same]
    exact keeps.promised
  -- Of the moves only a request promises a tick.
  · have unasked (ticket : Nat) : move ≠ .ask ticket := by
      rintro rfl
      cases moves
      simp [Event.isPhased, Event.opens] at free
    have fits : move.fits phase := by
      cases moves with
      | ask | sync => simp [Event.isPhased, Event.opens] at free
      | answer | drop => trivial
      | complete => simpa [Event.isPhased, Event.opens, Handshake.Move.fits] using free
    refine ⟨moved ▸ keeps.inStep.apply move enabled fits, ?_⟩
    rw [World.promised_eq, moved]
    rcases keeps.inStep.promised_le move enabled with less | ⟨ticket, asked, -⟩
    · exact less.trans keeps.promised
    · exact absurd asked (unasked ticket)

theorem ReachesBy.keeps {kind : Event F → Bool} (reaches : ReachesBy kind w w')
    (free : ∀ event, kind event = true →
      event.isPhased = false ∨ event.opens = true ∧ phase = .early)
    (keeps : w.Keeps phase bound) : w'.Keeps phase bound :=
  reaches.kept (fun m => m.Keeps phase bound)
    (fun event _ _ sort here stepped => step_keeps event here (free event sort) stepped) keeps

theorem logicalTick_keeps (input : FrameInput F) (keeps : w.Keeps .early bound)
    (ticked : logicalTick input w = some w') : w'.Keeps .late bound := by
  rcases logicalTick_syncs input ticked with ⟨idle, rfl⟩ | ⟨synced, ready, taken, later⟩
  · exact ⟨keeps.inStep.relax idle .late, keeps.promised⟩
  · have late : synced.Keeps .late bound := by
      obtain rfl := Option.some.inj taken
      rcases (syncTick_moves : (w.clock.tickSyncedReady = false ∧ _) ∨ _) with
        ⟨unready, -⟩ | ⟨enabled, moved⟩
      · simp [unready] at ready
      · have after := keeps.inStep.apply .sync enabled rfl
        refine ⟨moved ▸ after.relax rfl .late, ?_⟩
        rw [World.promised_eq, moved]
        rcases keeps.inStep.promised_le .sync enabled with less | ⟨ticket, asked, -⟩
        · exact less.trans keeps.promised
        · cases asked
    exact later.keeps (fun event sort => .inl (by cases event <;> first | rfl | cases sort)) late

omit [Scalar F] in
theorem requestTick_promised (physicalTick : Nat) (inStep : w.handshake.InStep .late)
    (requested : w.requestTick physicalTick = some w') :
    w'.handshake.InStep .early ∧ (w'.promised = w.promised ∨
      (physicalTick : Int) % w.settings.ticksPerGameHour = 0 ∧ w'.promised = w.promised + 1) := by
  have unready : w.clock.tickSyncedReady = false := by
    by_contra ready
    cases (inStep.ready (by simpa [World.handshake] using ready)).1
  rcases requestTick_moves physicalTick requested with same | ⟨enabled, moved⟩
  · refine ⟨same ▸ inStep.relax unready .early, .inl ?_⟩
    rw [World.promised_eq, same]
    rfl
  · have idle : w.clock.isTickSyncPending = false := enabled.1
    have asked := inStep.apply _ enabled rfl
    refine ⟨moved ▸ asked.relax unready .early, .inr ⟨?_, ?_⟩⟩
    · unfold World.requestTick at requested
      split at requested
      next => cases requested
      next =>
        split at requested
        next due =>
          simp only [Bool.and_eq_true, decide_eq_true_eq] at due
          exact due.1
        next =>
          obtain rfl := Option.some.inj requested
          have pending : w.clock.isTickSyncPending = true := congrArg Handshake.isTickSyncPending moved
          simp [idle] at pending
    · rw [World.promised_eq, moved]
      simp [Handshake.promised, Handshake.apply, World.promised, World.handshake, idle, unready]

theorem frame_promised (input : FrameInput F) (inStep : w.handshake.InStep .early)
    (framed : frame input w = some w') :
    w.settings.ticksPerGameHour ≠ 0 ∧ w'.handshake.InStep .early ∧ (w'.promised ≤ w.promised ∨
      (input.physicalTick : Int) % w.settings.ticksPerGameHour = 0 ∧
        w'.promised ≤ w.promised + 1) := by
  have settled := (run_constant (frame_reaches input w w' framed).choose_spec).settings
  simp only [frame, Option.bind_eq_bind, Option.bind_eq_some_iff] at framed
  obtain ⟨opened, begun, moved, walked, ended⟩ := framed
  obtain ⟨told, begins, ticked⟩ := opening_begins input begun
  obtain ⟨tidied, tidies, requested⟩ := closing_tidies input ended
  have first : w.Keeps .early w.promised := ⟨inStep, Int.le_refl _⟩
  have opens (event : Event F) (sort : event.begins = true) : event.opens = true := by
    cases event <;> first | rfl | cases sort
  have prepared := begins.keeps (fun event sort => .inr ⟨opens event sort, rfl⟩) first
  have synced := logicalTick_keeps input prepared ticked
  have travelled := (physics_by input walked).keeps
    (fun event sort => .inl (by cases event <;> first | rfl | cases sort)) synced
  have late := tidies.keeps
    (fun event sort => .inl (by cases event <;> first | rfl | cases sort)) travelled
  have last : w'.settings = tidied.settings := (step_constant (.requestTick _) requested).settings
  have hours : w.settings.ticksPerGameHour ≠ 0 := by
    intro never
    rw [← settled, last] at never
    simp [step, World.requestTick, never] at requested
  refine ⟨hours, ?_⟩
  obtain ⟨early, same | ⟨due, asked⟩⟩ := requestTick_promised input.physicalTick late.inStep requested
  · exact ⟨early, .inl (same.trans_le late.promised)⟩
  · rw [← last, settled] at due
    exact ⟨early, .inr ⟨due, asked.trans_le (Int.add_le_add_right late.promised 1)⟩⟩

structure Process (F : Type) where
  pacer : GameLoop.Pacer
  world : World F

inductive Occurrence (F : Type) where
  | pass (times : GameLoop.Pass) (input : FrameInput F)
  | thread (event : Event F)
  | interrupt

-- `tick_fn(++tick)` is a frame with the number of the pass.
def processStep : Occurrence F → Process F → Option (Process F)
  | .pass times input, s =>
      if input.physicalTick = s.pacer.tick + 1 then do
        let pacer ← GameLoop.step GameLoop.tickInterval (.pass times) s.pacer
        let world ← frame input s.world
        some ⟨pacer, world⟩
      else none
  | .thread event, s => do
      let world ← roundStep (.thread event) s.world
      some { s with world := world }
  | .interrupt, s => do
      let pacer ← GameLoop.step GameLoop.tickInterval .interrupt s.pacer
      some { s with pacer := pacer }

-- What happens to the pacer, to which the threads mean nothing.
def pacings : List (Transition (Process F) (Occurrence F)) →
    List (Transition GameLoop.Pacer GameLoop.Event)
  | [] => []
  | ⟨s, .pass times _, s'⟩ :: past => ⟨s.pacer, .pass times, s'.pacer⟩ :: pacings past
  | ⟨_, .thread _, _⟩ :: past => pacings past
  | ⟨s, .interrupt, s'⟩ :: past => ⟨s.pacer, .interrupt, s'.pacer⟩ :: pacings past

abbrev ProcessRun (start : Process F) := Run processStep start

variable {start s last : Process F} {past : List (Transition (Process F) (Occurrence F))}

theorem ProcessRun.pacer (run : ProcessRun start past last) :
    Run (GameLoop.step GameLoop.tickInterval) start.pacer (pacings past) last.pacer := by
  induction run with
  | rest => exact .rest
  | @next past s s' occurrence run stepped ih =>
      cases occurrence with
      | pass times input =>
          simp only [processStep] at stepped
          split at stepped
          next =>
            simp only [Option.bind_eq_bind, Option.bind_eq_some_iff] at stepped
            obtain ⟨pacer, paced, world, -, stored⟩ := stepped
            obtain rfl := Option.some.inj stored
            exact ih.next paced
          next => cases stepped
      | thread event =>
          simp only [processStep, Option.bind_eq_bind, Option.bind_eq_some_iff] at stepped
          obtain ⟨world, -, stored⟩ := stepped
          obtain rfl := Option.some.inj stored
          exact ih
      | interrupt =>
          simp only [processStep, Option.bind_eq_bind, Option.bind_eq_some_iff] at stepped
          obtain ⟨pacer, paced, stored⟩ := stepped
          obtain rfl := Option.some.inj stored
          exact ih.next paced

-- A new multiple is reached exactly at the frames whose number is due.
theorem ediv_succ_due {n : Nat} {k : Int} (positive : 0 < k)
    (due : ((n + 1 : Nat) : Int) % k = 0) :
    ((n + 1 : Nat) : Int) / k = (n : Int) / k + 1 := by
  obtain ⟨m, multiple⟩ := Int.dvd_of_emod_eq_zero due
  have before : (n : Int) = k * (m - 1) + (k - 1) := by
    rw [Int.mul_sub]
    push_cast at multiple
    omega
  rw [multiple, Int.mul_ediv_cancel_left m (by omega), before,
    Int.mul_add_ediv_left _ _ (by omega), Int.ediv_eq_zero_of_lt (by omega) (by omega)]
  omega

-- How many hours the frames up to this one can have asked for.
def hoursDue (settings : SimulationSettings F) (pacer : GameLoop.Pacer) : Int :=
  (pacer.tick : Int) / settings.ticksPerGameHour

theorem processStep_promised (occurrence : Occurrence F) {s' : Process F}
    (positive : 0 ≤ s.world.settings.ticksPerGameHour)
    (inStep : s.world.handshake.InStep .early) (stepped : processStep occurrence s = some s') :
    s'.world.settings = s.world.settings ∧ s'.world.handshake.InStep .early ∧
      s'.world.promised - hoursDue s.world.settings s'.pacer ≤
        s.world.promised - hoursDue s.world.settings s.pacer := by
  cases occurrence with
  | pass times input =>
      simp only [processStep] at stepped
      split at stepped
      next numbered =>
        simp only [Option.bind_eq_bind, Option.bind_eq_some_iff] at stepped
        obtain ⟨pacer, paced, world, framed, stored⟩ := stepped
        obtain rfl := Option.some.inj stored
        have counts := (GameLoop.step_pass times s.pacer pacer paced).2.counts
        have settled := (run_constant (frame_reaches input _ _ framed).choose_spec).settings
        obtain ⟨hours, early, asked⟩ := frame_promised input inStep framed
        refine ⟨settled, early, ?_⟩
        simp only [hoursDue, counts]
        have later : ((s.pacer.tick : Int)) / s.world.settings.ticksPerGameHour ≤
            ((s.pacer.tick + 1 : Nat) : Int) / s.world.settings.ticksPerGameHour :=
          Int.ediv_le_ediv (by omega) (by omega)
        -- A frame asks at a due number only, and then one more hour is due.
        rcases asked with less | ⟨due, more⟩
        · omega
        · rw [numbered] at due
          have next := ediv_succ_due (by omega) due
          omega
      next => cases stepped
  | thread event =>
      simp only [processStep, roundStep, Option.bind_eq_bind, Option.bind_eq_some_iff] at stepped
      obtain ⟨world, moved, stored⟩ := stepped
      obtain rfl := Option.some.inj stored
      split at moved
      next threads =>
        have free : event.isPhased = false := by cases event <;> first | rfl | cases threads
        have kept := step_keeps event ⟨inStep, Int.le_refl _⟩ (.inl free) moved
        refine ⟨(step_constant event moved).settings, kept.inStep, ?_⟩
        exact Int.sub_le_sub_right kept.promised _
      next => cases moved
  | interrupt =>
      simp only [processStep, Option.bind_eq_bind, Option.bind_eq_some_iff] at stepped
      obtain ⟨pacer, paced, stored⟩ := stepped
      obtain rfl := Option.some.inj stored
      obtain rfl := Option.some.inj paced
      exact ⟨rfl, inStep, Int.le_refl _⟩

theorem ProcessRun.promised (run : ProcessRun s past last)
    (positive : 0 ≤ s.world.settings.ticksPerGameHour)
    (inStep : s.world.handshake.InStep .early) :
    last.world.settings = s.world.settings ∧ last.world.handshake.InStep .early ∧
      last.world.promised - hoursDue s.world.settings last.pacer ≤
        s.world.promised - hoursDue s.world.settings s.pacer := by
  induction run with
  | rest => exact ⟨rfl, inStep, Int.le_refl _⟩
  | next _ stepped ih =>
      obtain ⟨settled, here, bounded⟩ := ih
      obtain ⟨settled', early, less⟩ := processStep_promised _ (settled ▸ positive) here stepped
      rw [settled] at less
      exact ⟨settled'.trans settled, early, less.trans bounded⟩

/-- The game clock between two moments of a run. -/
structure Paced (s : Process F) (past : List (Transition (Process F) (Occurrence F)))
    (last : Process F) : Prop where
  counted : last.pacer.tick = s.pacer.tick + GameLoop.passes (pacings past)
  -- Frames are an interval apart.
  spaced : s.pacer.nextTick + GameLoop.passes (pacings past) * GameLoop.tickInterval ≤
    last.pacer.time
  -- The ticks granted or asked for are no more than the frames with a due number.
  hours : last.world.promised ≤ s.world.promised +
    (hoursDue s.world.settings last.pacer - hoursDue s.world.settings s.pacer)
  -- After the signal there are no frames any more.
  stopped : s.pacer.keepRunning = false → GameLoop.passes (pacings past) = 0

/-- In every run of the process the frames are an interval apart, and the game clock keeps below the
wall clock from any moment on. -/
theorem ticks_paced (data : WorldBootstrapData F) (settings : SimulationSettings F)
    (obstacles : Option (List Obstacle)) (draws : Nat → NeedsDraw F) (start : World F) (now : Int)
    (booted : bootstrap data settings obstacles draws = some start)
    (earlier past : List (Transition (Process F) (Occurrence F))) (s last : Process F)
    (before : ProcessRun ⟨GameLoop.begin now, start⟩ earlier s) (run : ProcessRun s past last) :
    Paced s past last ∧ last.world.clock.tick * (settings.ticksPerGameHour * GameLoop.tickInterval) ≤
      last.pacer.time - now := by
  obtain ⟨settled, positive⟩ := bootstrap_settings data settings obstacles draws booted
  have initial := bootstrap_handshake data settings obstacles draws start booted
  have inStep : start.handshake.InStep .early := by
    rw [initial]
    exact ⟨by simp, by simp, by simp⟩
  have hours : 0 ≤ start.settings.ticksPerGameHour := by
    rw [settled, positive]
    exact Int.natCast_nonneg _
  obtain ⟨settled', early, -⟩ := before.promised hours inStep
  obtain ⟨-, -, waits⟩ := GameLoop.run_paced before.pacer (Int.le_refl now)
  obtain ⟨counted, spaced, slept⟩ := GameLoop.run_paced run.pacer waits
  obtain ⟨-, -, bounded⟩ := run.promised (settled' ▸ hours) early
  have stopped (ended : s.pacer.keepRunning = false) : GameLoop.passes (pacings past) = 0 :=
    (GameLoop.run_stopped run.pacer ended).2
  refine ⟨⟨counted, spaced.trans slept, by omega, stopped⟩, ?_⟩
  -- The clock itself is bounded from the start of the process, where nothing was promised.
  have whole : ProcessRun ⟨GameLoop.begin now, start⟩ (past ++ earlier) last := before.append run
  obtain ⟨-, -, granted⟩ := whole.promised hours inStep
  obtain ⟨counted, spaced, slept⟩ := GameLoop.run_paced whole.pacer (Int.le_refl now)
  have nothing : start.promised = 0 := by
    rw [World.promised_eq, initial]
    rfl
  have owed : hoursDue start.settings (GameLoop.begin now) = 0 := by
    simp [hoursDue, GameLoop.begin]
  have ticked : last.world.clock.tick ≤ (last.pacer.tick : Int) / settings.ticksPerGameHour := by
    have told : last.world.clock.tick ≤ last.world.promised := by
      unfold World.promised
      split <;> omega
    rw [nothing, owed, settled] at granted
    unfold hoursDue at granted
    omega
  have frames : last.world.clock.tick * settings.ticksPerGameHour ≤ last.pacer.tick := by
    refine (Int.mul_le_mul_of_nonneg_right ticked (settled ▸ hours)).trans ?_
    by_cases never : settings.ticksPerGameHour = 0
    next => simp [never]
    next => exact Int.ediv_mul_le _ never
  calc last.world.clock.tick * (settings.ticksPerGameHour * GameLoop.tickInterval)
      = last.world.clock.tick * settings.ticksPerGameHour * GameLoop.tickInterval := by ring
    _ ≤ last.pacer.tick * GameLoop.tickInterval :=
        Int.mul_le_mul_of_nonneg_right frames (by decide)
    _ ≤ last.pacer.time - now := by
        have none : (GameLoop.begin now).tick = 0 := rfl
        rw [counted, none, Nat.zero_add]
        have began : (GameLoop.begin now).nextTick = now := rfl
        dsimp only at spaced slept
        omega

def brisk : World ℚ :=
  populate (emptyWorld { hamletData with ticksPerGameHour := 1 } ⟨2, 1⟩ (some []))
    { hamletData with ticksPerGameHour := 1 } fun _ => ⟨100, 100⟩

theorem brisk_boots : bootstrap { hamletData with ticksPerGameHour := 1 } ⟨2, 1⟩ (some [])
    (fun _ => ⟨100, 100⟩) = some brisk := by
  rw [bootstrap, if_neg (by decide), if_neg (by decide +kernel)]
  rfl

def plainInput (physicalTick : Nat) : FrameInput ℚ :=
  ⟨fun _ => id, fun _ _ => ⟨0, 0⟩, [], ⟨id, id, fun _ => 1⟩,
    fun _ => ⟨fun _ => 1, id, 1, 1, 1, fun _ => 1⟩, fun _ => ⟨id, fun _ => 1⟩,
    fun _ => ⟨⟨0, 0⟩, fun _ => none⟩, physicalTick⟩

-- A frame on time, an answer, a frame that comes late, and the signal.
def briskDay : List (Occurrence ℚ) :=
  [.pass ⟨0, 10, 50000⟩ (plainInput 1), .thread (.respond 0 (.tick true [])),
    .pass ⟨50000, 130000, 130000⟩ (plainInput 2), .interrupt]

theorem ticks_paced_brisk : ∃ past last, ProcessRun ⟨GameLoop.begin 0, brisk⟩ past last ∧
    past.reverse.length = 4 ∧ last.world.clock.tick = 1 ∧ Paced ⟨GameLoop.begin 0, brisk⟩ past last ∧
      last.world.clock.tick * (1 * GameLoop.tickInterval) ≤ last.pacer.time - 0 := by
  have passed : (followWhile processStep (fun _ _ => true) briskDay ⟨GameLoop.begin 0, brisk⟩).any
      (fun s => s.world.clock.tick = 1) = true := by decide +kernel
  obtain ⟨past, last, run, -, events, ticked⟩ := Run.exists_of_check _ _ _ passed
  have length := congrArg List.length events
  rw [List.length_map] at length
  obtain ⟨paced, slow⟩ := ticks_paced { hamletData with ticksPerGameHour := 1 } ⟨2, 1⟩ (some [])
    (fun _ => ⟨100, 100⟩) brisk 0 brisk_boots [] past _ last .rest run
  exact ⟨past, last, run, length, by simpa using ticked, paced, slow⟩

end MundusVivens
