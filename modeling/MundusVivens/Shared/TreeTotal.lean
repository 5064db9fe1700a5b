import MundusVivens.Shared.TreeOutline

set_option autoImplicit false

/-!
# Total outlines of behaviour trees

A total outline says that a tick from a state that meets the precondition has a result,
and what holds of it.
-/

namespace BehaviorTree

variable {Leaf State : Type} {run : Leaf → State → Option (NodeStatus × State)}

variable (run) in
-- From `pre` a tick always ends, and it ends in `post`.
def Total (pre : State → Prop) (node : Node Leaf) (post : NodeStatus → State → Prop) : Prop :=
  ∀ s, pre s → ∃ status s', tick run node s = some (status, s') ∧ post status s'

def TotalLeaf (run : Leaf → State → Option (NodeStatus × State)) (invariant : State → Prop)
    (l : Leaf) : Prop :=
  ∀ s, invariant s → ∃ status s', run l s = some (status, s') ∧ invariant s'

namespace Total

variable {pre invariant : State → Prop} {post : NodeStatus → State → Prop}

theorem leaf (l : Leaf)
    (runs : ∀ s, pre s → ∃ status s', run l s = some (status, s') ∧ post status s') :
    Total run pre (.leaf l) post := by
  intro s holds
  obtain ⟨status, s', ran, ended⟩ := runs s holds
  exact ⟨status, s', by rw [tick, ran], ended⟩

theorem sequence_nil (done : ∀ s, pre s → post .success s) :
    Total run pre (.sequence []) post :=
  fun s holds => ⟨.success, s, by simp [tick, tickSequence], done s holds⟩

theorem sequence_cons {child : Node Leaf} {rest : List (Node Leaf)} (middle : State → Prop)
    (first : Total run pre child fun status s => if status = .success then middle s else post status s)
    (later : Total run middle (.sequence rest) post) :
    Total run pre (.sequence (child :: rest)) post := by
  intro s holds
  obtain ⟨status, s', ran, reached⟩ := first s holds
  cases status with
  | success =>
      obtain ⟨status, last, ended, finished⟩ := later s' (by simpa using reached)
      refine ⟨status, last, ?_, finished⟩
      rw [tick] at ended ⊢
      rw [tickSequence, ran]
      exact ended
  | failure => exact ⟨.failure, s', by rw [tick, tickSequence, ran], by simpa using reached⟩
  | running => exact ⟨.running, s', by rw [tick, tickSequence, ran], by simpa using reached⟩

theorem selector_nil (done : ∀ s, pre s → post .failure s) :
    Total run pre (.selector []) post :=
  fun s holds => ⟨.failure, s, by simp [tick, tickSelector], done s holds⟩

theorem selector_cons {child : Node Leaf} {rest : List (Node Leaf)} (middle : State → Prop)
    (first : Total run pre child fun status s => if status = .failure then middle s else post status s)
    (later : Total run middle (.selector rest) post) :
    Total run pre (.selector (child :: rest)) post := by
  intro s holds
  obtain ⟨status, s', ran, reached⟩ := first s holds
  cases status with
  | failure =>
      obtain ⟨status, last, ended, finished⟩ := later s' (by simpa using reached)
      refine ⟨status, last, ?_, finished⟩
      rw [tick] at ended ⊢
      rw [tickSelector, ran]
      exact ended
  | success => exact ⟨.success, s', by rw [tick, tickSelector, ran], by simpa using reached⟩
  | running => exact ⟨.running, s', by rw [tick, tickSelector, ran], by simpa using reached⟩

theorem selector_kept (children : List (Node Leaf))
    (each : ∀ child ∈ children, Total run invariant child fun _ => invariant) :
    Total run invariant (.selector children) fun _ => invariant := by
  induction children with
  | nil => exact selector_nil fun _ holds => holds
  | cons child rest ih =>
      refine selector_cons invariant ?_ (ih fun other member => each other (by simp [member]))
      simpa using each child List.mem_cons_self

theorem sequence_kept (children : List (Node Leaf))
    (each : ∀ child ∈ children, Total run invariant child fun _ => invariant) :
    Total run invariant (.sequence children) fun _ => invariant := by
  induction children with
  | nil => exact sequence_nil fun _ holds => holds
  | cons child rest ih =>
      refine sequence_cons invariant ?_ (ih fun other member => each other (by simp [member]))
      simpa using each child List.mem_cons_self

theorem sequence_leaves (leaves : List Leaf)
    (each : ∀ l ∈ leaves, TotalLeaf run invariant l) :
    Total run invariant (.sequence (leaves.map .leaf)) fun _ => invariant := by
  refine sequence_kept _ fun child member => ?_
  obtain ⟨l, among, rfl⟩ := List.mem_map.mp member
  exact leaf l (each l among)

end Total

end BehaviorTree
