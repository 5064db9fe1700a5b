import MundusVivens.Ticks.Simulation

set_option autoImplicit false

/-!
# Runs of the main loop

Within a frame the results are drained before the tick is synchronised, and the
next tick is requested after that. Nothing else of the order matters here, and
the other threads may act between any two steps.
-/

namespace MundusVivens

open Scalar Runs

variable {F : Type}

structure Loop (F : Type) where
  world : World F
  phase : Phase

-- The events whose place in the frame matters.
def Event.isPhased : Event F → Bool
  | .drainTask _ => true
  | .syncTick => true
  | .requestTick _ => true
  | _ => false

def Phase.after : Phase → Event F → Option Phase
  | .early, .drainTask _ => some .early
  | .early, .syncTick => some .late
  | .late, .requestTick _ => some .early
  | phase, event => if event.isPhased then none else some phase

theorem Phase.after_other (phase : Phase) (event : Event F) (other : event.isPhased = false) :
    phase.after event = some phase := by
  cases event <;> cases phase <;> first | rfl | cases other

variable [Scalar F]

def loopStep (event : Event F) (loop : Loop F) : Option (Loop F) := do
  let phase ← loop.phase.after event
  let world ← step event loop.world
  some ⟨world, phase⟩

abbrev LoopRun (start : World F) := Run loopStep (⟨start, .early⟩ : Loop F)

theorem loopStep_some {event : Event F} {loop next : Loop F}
    (stepped : loopStep event loop = some next) :
    loop.phase.after event = some next.phase ∧ step event loop.world = some next.world := by
  simp only [loopStep, Option.bind_eq_bind, Option.bind_eq_some_iff] at stepped
  obtain ⟨phase, moved, world, ran, stored⟩ := stepped
  obtain rfl := Option.some.inj stored
  exact ⟨moved, ran⟩

def Loop.Reaches (loop next : Loop F) : Prop := ∃ past, Run loopStep loop past next

namespace Loop.Reaches

variable {loop next last : Loop F} {w w' : World F} {phase : Phase}

theorem refl (loop : Loop F) : Reaches loop loop := ⟨[], .rest⟩

theorem trans (first : Reaches loop next) (second : Reaches next last) : Reaches loop last := by
  obtain ⟨earlier, first⟩ := first
  obtain ⟨later, second⟩ := second
  exact ⟨later ++ earlier, first.append second⟩

theorem of_step (event : Event F) (phase next : Phase) (moved : phase.after event = some next)
    (stepped : step event w = some w') : Reaches ⟨w, phase⟩ ⟨w', next⟩ :=
  ⟨[⟨⟨w, phase⟩, event, ⟨w', next⟩⟩], .next .rest (by simp [loopStep, moved, stepped])⟩

theorem of_by {kind : Event F → Bool} (kept : ∀ event, kind event = true →
    phase.after event = some phase) (reaches : ReachesBy kind w w') :
    Reaches ⟨w, phase⟩ ⟨w', phase⟩ := by
  obtain ⟨past, run, sorted⟩ := reaches
  induction run with
  | rest => exact .refl _
  | @next past m m' event run stepped ih =>
      exact (ih fun t member => sorted t (List.mem_cons_of_mem _ member)).trans
        (of_step event phase phase (kept event (sorted _ List.mem_cons_self)) stepped)

theorem of_frame (input : FrameInput F) (framed : frame input w = some w') :
    Reaches ⟨w, .early⟩ ⟨w', .early⟩ := by
  simp only [frame, Option.bind_eq_bind, Option.bind_eq_some_iff] at framed
  obtain ⟨opened, begun, moved, walked, ended⟩ := framed
  obtain ⟨told, begins, ticked⟩ := opening_begins input begun
  obtain ⟨tidied, tidies, requested⟩ := closing_tidies input ended
  have prepared : Reaches ⟨w, .early⟩ ⟨told, .early⟩ :=
    of_by (fun event sort => by cases event <;> first | rfl | cases sort) begins
  have synced : Reaches ⟨told, .early⟩ ⟨opened, .late⟩ := by
    rcases logicalTick_syncs input ticked with ⟨unready, rfl⟩ | ⟨synced, -, taken, later⟩
    -- The flag is tested in vain.
    · exact of_step .syncTick .early .late rfl (by simp [step, World.syncTick, unready])
    · exact (of_step .syncTick .early .late rfl taken).trans
        (of_by (fun event sort => by cases event <;> first | rfl | cases sort) later)
  have walks : Reaches ⟨opened, .late⟩ ⟨moved, .late⟩ :=
    of_by (fun event sort => by cases event <;> first | rfl | cases sort) (physics_by input walked)
  have settles : Reaches ⟨moved, .late⟩ ⟨tidied, .late⟩ :=
    of_by (fun event sort => by cases event <;> first | rfl | cases sort) tidies
  exact (((prepared.trans synced).trans walks).trans settles).trans
    (of_step _ .late .early rfl requested)

end Loop.Reaches

end MundusVivens
