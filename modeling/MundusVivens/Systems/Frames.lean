import MundusVivens.Systems.MainLoop

set_option autoImplicit false

namespace MundusVivens

open Scalar Runs

variable {F : Type}

-- The visits of `SystemBehaviorTree`.
def Event.isVisit : Event F → Bool
  | .behaviorTree .. => true
  | _ => false

def Event.isBurial : Event F → Bool
  | .death _ => true
  | _ => false

def Event.isThread : Event F → Bool
  | .connect | .disconnect _ | .respond .. | .abort _ => true
  | _ => false

variable [Scalar F]

theorem opening_by (input : FrameInput F) (w w' : World F)
    (opened : opening input w = some w') : ReachesBy (!·.isPhysics) w w' := by
  obtain ⟨told, begins, ticked⟩ := opening_begins input opened
  have begun : ReachesBy (!·.isPhysics) w told :=
    begins.mono fun event sort => by cases event <;> first | rfl | cases sort
  rcases logicalTick_syncs input ticked with ⟨-, rfl⟩ | ⟨synced, -, taken, later⟩
  · exact begun
  · exact (begun.trans (.of_step rfl taken)).trans
      (later.mono fun event sort => by cases event <;> first | rfl | cases sort)

theorem closing_by (input : FrameInput F) (w w' : World F)
    (closed : closing input w = some w') : ReachesBy (!·.isPhysics) w w' := by
  obtain ⟨tidied, tidies, requested⟩ := closing_tidies input closed
  exact (tidies.mono fun event sort => by cases event <;> first | rfl | cases sort).trans
    (.of_step rfl requested)

-- `SystemBusyAmbient` and `SystemPerception`.
def sensing (input : FrameInput F) (w : World F) : Option (World F) := do
  let w ← pass (input.rank .ambient) (fun w e => (w.reg.busy e).isSome) .busyAmbient w
  pass (input.rank .perception) (fun w e => (w.reg.aggro e).isSome) .perception w

-- `SystemBehaviorTree`.
def deciding (input : FrameInput F) (w : World F) : Option (World F) :=
  pass (input.rank .tree) (fun w e => (w.reg.behaviorTree e).isSome)
    (fun e => .behaviorTree e (input.tree e)) w

-- `SystemDeath`.
def burying (input : FrameInput F) (w : World F) : Option (World F) :=
  pass (input.rank .death) (fun w e => (w.reg.health e).isSome) .death w

-- `SystemSurvivalOverride`, `SystemPathfinding` and `SystemMovement`.
def walking (input : FrameInput F) (w : World F) : Option (World F) := do
  let w ← pass (input.rank .survival) (fun w e => (w.reg.needs e).isSome) .survivalOverride w
  let movers := w.view (input.rank .pathfinding) fun e => (w.reg.job e).isSome
  let w ← pathfindingPass input.path movers 0 w
  pass (input.rank .movement) (fun w e => (w.reg.pathfinding e).isSome) .movement w

theorem physics_stages (input : FrameInput F) (w w' : World F)
    (moved : physics input w = some w') :
    ∃ sensed decided buried, sensing input w = some sensed ∧ deciding input sensed = some decided ∧
      burying input decided = some buried ∧ walking input buried = some w' := by
  simp only [physics, Option.bind_eq_bind, Option.bind_eq_some_iff] at moved
  obtain ⟨w₁, ambient, w₂, perceived, w₃, decided, w₄, died, w₅, decayed, w₆, searched, walked⟩ :=
    moved
  refine ⟨w₂, w₃, w₄, ?_, decided, died, ?_⟩
  · simp [sensing, ambient, perceived]
  · simp [walking, decayed, searched, walked]

def Event.senses : Event F → Bool
  | .busyAmbient _ | .perception _ => true
  | _ => false

def Event.walks : Event F → Bool
  | .survivalOverride _ | .pathfinding .. | .movement _ => true
  | _ => false

theorem sensing_by (input : FrameInput F) (w w' : World F) (sensed : sensing input w = some w') :
    ReachesBy Event.senses w w' := by
  simp only [sensing, Option.bind_eq_bind, Option.bind_eq_some_iff] at sensed
  obtain ⟨middle, ambient, perceived⟩ := sensed
  exact (ReachesBy.of_pass _ _ _ (fun _ => rfl) ambient).trans (.of_pass _ _ _ (fun _ => rfl) perceived)

theorem walking_by (input : FrameInput F) (w w' : World F) (walked : walking input w = some w') :
    ReachesBy Event.walks w w' := by
  simp only [walking, Option.bind_eq_bind, Option.bind_eq_some_iff] at walked
  obtain ⟨w₁, decayed, w₂, searched, moved⟩ := walked
  exact ((ReachesBy.of_pass _ _ _ (fun _ => rfl) decayed).trans
    (.of_pathfindingPass _ _ (fun _ _ => rfl) _ searched)).trans (.of_pass _ _ _ (fun _ => rfl) moved)

inductive Round (F : Type) where
  | frame (input : FrameInput F)
  | thread (event : Event F)

-- A whole frame, or an event of another thread between two frames.
def roundStep : Round F → World F → Option (World F)
  | .frame input, w => frame input w
  | .thread event, w => if event.isThread then step event w else none

abbrev FrameRun (start : World F) := Run roundStep start

theorem FrameRun.reaches {start w : World F} {past : List (Transition (World F) (Round F))}
    (run : FrameRun start past w) : Reaches start w := by
  induction run with
  | rest => exact .refl start
  | @next _ s s' round _ stepped ih =>
      refine ih.trans ?_
      cases round with
      | frame input => exact frame_reaches input s s' stepped
      | thread event =>
          simp only [roundStep] at stepped
          split at stepped
          next => exact .of_step stepped
          next => cases stepped

end MundusVivens
