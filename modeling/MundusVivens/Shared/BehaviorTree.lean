import Mathlib.Data.List.Basic
import Mathlib.Logic.Relation

set_option autoImplicit false

/-!
# Behaviour trees

Composite nodes over an arbitrary set of leaves. A tick has no result when a
leaf has none.
-/

namespace BehaviorTree

inductive NodeStatus where
  | success
  | failure
  | running
deriving DecidableEq

def NodeStatus.invert : NodeStatus → NodeStatus
  | .success => .failure
  | .failure => .success
  | .running => .running

inductive Node (Leaf : Type) where
  | leaf (l : Leaf)
  | selector (children : List (Node Leaf))
  | sequence (children : List (Node Leaf))
  | inverter (child : Node Leaf)

section

variable {Leaf State : Type} (run : Leaf → State → Option (NodeStatus × State))

mutual

def tick : Node Leaf → State → Option (NodeStatus × State)
  | .leaf l, s => run l s
  | .selector children, s => tickSelector children s
  | .sequence children, s => tickSequence children s
  | .inverter child, s => (tick child s).map fun result => (result.1.invert, result.2)

-- The first child that does not fail decides.
def tickSelector : List (Node Leaf) → State → Option (NodeStatus × State)
  | [], s => some (.failure, s)
  | child :: rest, s =>
      match tick child s with
      | none => none
      | some (.failure, s') => tickSelector rest s'
      | some (status, s') => some (status, s')

-- The first child that does not succeed decides.
def tickSequence : List (Node Leaf) → State → Option (NodeStatus × State)
  | [], s => some (.success, s)
  | child :: rest, s =>
      match tick child s with
      | none => none
      | some (.success, s') => tickSequence rest s'
      | some (status, s') => some (status, s')

end

mutual

def leaves : Node Leaf → List Leaf
  | .leaf l => [l]
  | .selector children => leavesOf children
  | .sequence children => leavesOf children
  | .inverter child => leaves child

def leavesOf : List (Node Leaf) → List Leaf
  | [] => []
  | child :: rest => leaves child ++ leavesOf rest

end

-- A step of one of the allowed leaves.
def LeafStep (allowed : Leaf → Prop) (s s' : State) : Prop :=
  ∃ l status, allowed l ∧ run l s = some (status, s')

abbrev LeafSteps (allowed : Leaf → Prop) : State → State → Prop :=
  Relation.ReflTransGen (LeafStep run allowed)

variable {run}

theorem LeafStep.mono {allowed permitted : Leaf → Prop} (wider : ∀ l, allowed l → permitted l)
    {s s' : State} (step : LeafStep run allowed s s') : LeafStep run permitted s s' := by
  obtain ⟨l, status, member, ran⟩ := step
  exact ⟨l, status, wider l member, ran⟩

theorem LeafSteps.mono {allowed permitted : Leaf → Prop} (wider : ∀ l, allowed l → permitted l)
    {s s' : State} (steps : LeafSteps run allowed s s') : LeafSteps run permitted s s' :=
  Relation.ReflTransGen.mono (fun _ _ => LeafStep.mono wider) _ _ steps

mutual

theorem tick_steps (node : Node Leaf) (s s' : State) (status : NodeStatus)
    (ticked : tick run node s = some (status, s')) :
    LeafSteps run (· ∈ leaves node) s s' := by
  cases node with
  | leaf l =>
      exact .single ⟨l, status, by simp [leaves], by simpa [tick] using ticked⟩
  | selector children =>
      have steps := tickSelector_steps children s s' status (by simpa [tick] using ticked)
      simpa [leaves] using steps
  | sequence children =>
      have steps := tickSequence_steps children s s' status (by simpa [tick] using ticked)
      simpa [leaves] using steps
  | inverter child =>
      simp only [tick, Option.map_eq_some_iff, Prod.mk.injEq] at ticked
      obtain ⟨⟨status', s''⟩, ticked, -, rfl⟩ := ticked
      simpa [leaves] using tick_steps child s s'' status' ticked

theorem tickSelector_steps (children : List (Node Leaf)) (s s' : State) (status : NodeStatus)
    (ticked : tickSelector run children s = some (status, s')) :
    LeafSteps run (· ∈ leavesOf children) s s' := by
  cases children with
  | nil =>
      obtain ⟨-, rfl⟩ := by simpa [tickSelector] using ticked
      exact .refl
  | cons child rest =>
      rw [tickSelector] at ticked
      split at ticked
      next => cases ticked
      next middle first =>
        have here : LeafSteps run (· ∈ leavesOf (child :: rest)) s middle :=
          (tick_steps child s middle _ first).mono (by simp +contextual [leavesOf])
        have there : LeafSteps run (· ∈ leavesOf (child :: rest)) middle s' :=
          (tickSelector_steps rest middle s' status ticked).mono (by simp +contextual [leavesOf])
        exact here.trans there
      next decided middle _ first =>
        obtain ⟨-, rfl⟩ := by simpa using ticked
        exact (tick_steps child s middle _ first).mono (by simp +contextual [leavesOf])

theorem tickSequence_steps (children : List (Node Leaf)) (s s' : State) (status : NodeStatus)
    (ticked : tickSequence run children s = some (status, s')) :
    LeafSteps run (· ∈ leavesOf children) s s' := by
  cases children with
  | nil =>
      obtain ⟨-, rfl⟩ := by simpa [tickSequence] using ticked
      exact .refl
  | cons child rest =>
      rw [tickSequence] at ticked
      split at ticked
      next => cases ticked
      next middle first =>
        have here : LeafSteps run (· ∈ leavesOf (child :: rest)) s middle :=
          (tick_steps child s middle _ first).mono (by simp +contextual [leavesOf])
        have there : LeafSteps run (· ∈ leavesOf (child :: rest)) middle s' :=
          (tickSequence_steps rest middle s' status ticked).mono (by simp +contextual [leavesOf])
        exact here.trans there
      next decided middle _ first =>
        obtain ⟨-, rfl⟩ := by simpa using ticked
        exact (tick_steps child s middle _ first).mono (by simp +contextual [leavesOf])

end

theorem tickSelector_cons (child : Node Leaf) (rest : List (Node Leaf)) (s s' : State)
    (status : NodeStatus) (ticked : tickSelector run (child :: rest) s = some (status, s')) :
    (status ≠ .failure ∧ tick run child s = some (status, s')) ∨
      ∃ middle, tick run child s = some (.failure, middle) ∧
        tickSelector run rest middle = some (status, s') := by
  rw [tickSelector] at ticked
  split at ticked
  next => cases ticked
  next middle first => exact .inr ⟨middle, first, ticked⟩
  next decided middle unfailed first =>
    obtain ⟨rfl, rfl⟩ := by simpa using ticked
    exact .inl ⟨unfailed, first⟩

theorem tickSequence_cons (child : Node Leaf) (rest : List (Node Leaf)) (s s' : State)
    (status : NodeStatus) (ticked : tickSequence run (child :: rest) s = some (status, s')) :
    (status ≠ .success ∧ tick run child s = some (status, s')) ∨
      ∃ middle, tick run child s = some (.success, middle) ∧
        tickSequence run rest middle = some (status, s') := by
  rw [tickSequence] at ticked
  split at ticked
  next => cases ticked
  next middle first => exact .inr ⟨middle, first, ticked⟩
  next decided middle unsucceeded first =>
    obtain ⟨rfl, rfl⟩ := by simpa using ticked
    exact .inl ⟨unsucceeded, first⟩

theorem tickSequence_leaf (l : Leaf) (rest : List (Node Leaf)) (s s' : State)
    (status : NodeStatus)
    (ticked : tickSequence run (.leaf l :: rest) s = some (status, s')) :
    (status ≠ .success ∧ run l s = some (status, s')) ∨
      ∃ middle, run l s = some (.success, middle) ∧
        tickSequence run rest middle = some (status, s') := by
  simpa only [tick] using tickSequence_cons (.leaf l) rest s s' status ticked

theorem tickSequence_blocked (l : Leaf) (rest : List (Node Leaf)) (s s' : State)
    (status : NodeStatus)
    (blocked : ∀ decided m, run l s = some (decided, m) → decided = .failure ∧ m = s)
    (ticked : tickSequence run (.leaf l :: rest) s = some (status, s')) :
    status = .failure ∧ s' = s := by
  rcases tickSequence_leaf l rest s s' status ticked with ⟨-, ran⟩ | ⟨middle, ran, -⟩
  · exact blocked status s' ran
  · cases (blocked _ middle ran).1

theorem tickSelector_skip (child : Node Leaf) (rest : List (Node Leaf)) (s s' : State)
    (status : NodeStatus)
    (fails : ∀ decided m, tick run child s = some (decided, m) → decided = .failure ∧ m = s)
    (ticked : tickSelector run (child :: rest) s = some (status, s')) :
    tickSelector run rest s = some (status, s') := by
  rcases tickSelector_cons child rest s s' status ticked with ⟨unfailed, ran⟩ | ⟨middle, ran, later⟩
  · exact absurd (fails status s' ran).1 unfailed
  · rwa [(fails _ middle ran).2] at later

theorem tickSelector_relates (R : State → State → Prop) (refl : ∀ s, R s s)
    (trans : ∀ s m s', R s m → R m s' → R s s') (children : List (Node Leaf))
    (holds : ∀ child ∈ children, ∀ s s' status, tick run child s = some (status, s') → R s s')
    (s s' : State) (status : NodeStatus)
    (ticked : tickSelector run children s = some (status, s')) : R s s' := by
  induction children generalizing s with
  | nil =>
      obtain ⟨-, rfl⟩ := by simpa [tickSelector] using ticked
      exact refl s
  | cons child rest ih =>
      rcases tickSelector_cons child rest s s' status ticked with ⟨-, ran⟩ | ⟨middle, failed, ran⟩
      · exact holds child List.mem_cons_self s s' status ran
      · exact trans s middle s' (holds child List.mem_cons_self s middle _ failed)
          (ih (fun other member => holds other (List.mem_cons_of_mem _ member)) middle ran)

end

end BehaviorTree
