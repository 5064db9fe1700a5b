import MundusVivens.Shared.BehaviorTree

set_option autoImplicit false

/-!
# Outlines of behaviour trees

A proof outline says what holds whenever a leaf starts, and what holds at the end
of a tick. The starts of a tick are the leaves it ran, each with its state.
-/

namespace BehaviorTree

section

variable {Leaf State : Type} (run : Leaf → State → Option (NodeStatus × State))

structure Start (Leaf State : Type) where
  leaf : Leaf
  state : State

-- Run a leaf and note its start, the newest first.
def noting (l : Leaf) (s : State × List (Start Leaf State)) :
    Option (NodeStatus × State × List (Start Leaf State)) :=
  (run l s.1).map fun result => (result.1, result.2, ⟨l, s.1⟩ :: s.2)

def starts (node : Node Leaf) (s : State) : List (Start Leaf State) :=
  ((tick (noting run) node (s, [])).map (·.2.2)).getD []

variable {run}

theorem noting_some (l : Leaf) (s s' : State) (log log' : List (Start Leaf State))
    (status : NodeStatus) (noted : noting run l (s, log) = some (status, s', log')) :
    run l s = some (status, s') ∧ log' = ⟨l, s⟩ :: log := by
  obtain ⟨⟨status', s''⟩, ran, stored⟩ := Option.map_eq_some_iff.mp noted
  obtain ⟨rfl, rfl, rfl⟩ : status' = status ∧ s'' = s' ∧ ⟨l, s⟩ :: log = log' := by
    simpa using stored
  exact ⟨ran, rfl⟩

mutual

theorem tick_noting (node : Node Leaf) (s s' : State) (status : NodeStatus)
    (ticked : tick run node s = some (status, s')) (log : List (Start Leaf State)) :
    ∃ log', tick (noting run) node (s, log) = some (status, s', log') := by
  cases node with
  | leaf l =>
      refine ⟨⟨l, s⟩ :: log, ?_⟩
      have ran : run l s = some (status, s') := by simpa [tick] using ticked
      simp [tick, noting, ran]
  | selector children =>
      obtain ⟨log', noted⟩ :=
        tickSelector_noting children s s' status (by simpa [tick] using ticked) log
      exact ⟨log', by simpa [tick] using noted⟩
  | sequence children =>
      obtain ⟨log', noted⟩ :=
        tickSequence_noting children s s' status (by simpa [tick] using ticked) log
      exact ⟨log', by simpa [tick] using noted⟩
  | inverter child =>
      simp only [tick, Option.map_eq_some_iff, Prod.mk.injEq] at ticked
      obtain ⟨⟨status', s''⟩, ticked, inverted, rfl⟩ := ticked
      obtain ⟨log', noted⟩ := tick_noting child s s'' status' ticked log
      exact ⟨log', by simpa [tick, noted] using inverted⟩

theorem tickSelector_noting (children : List (Node Leaf)) (s s' : State) (status : NodeStatus)
    (ticked : tickSelector run children s = some (status, s')) (log : List (Start Leaf State)) :
    ∃ log', tickSelector (noting run) children (s, log) = some (status, s', log') := by
  cases children with
  | nil =>
      obtain ⟨rfl, rfl⟩ := by simpa [tickSelector] using ticked
      exact ⟨log, rfl⟩
  | cons child rest =>
      rcases tickSelector_cons child rest s s' status ticked with
        ⟨unfailed, first⟩ | ⟨middle, first, later⟩
      · obtain ⟨log', noted⟩ := tick_noting child s s' status first log
        refine ⟨log', ?_⟩
        rw [tickSelector, noted]
        cases status <;> simp_all
      · obtain ⟨between, noted⟩ := tick_noting child s middle _ first log
        obtain ⟨log', ended⟩ := tickSelector_noting rest middle s' status later between
        exact ⟨log', by rw [tickSelector, noted]; exact ended⟩

theorem tickSequence_noting (children : List (Node Leaf)) (s s' : State) (status : NodeStatus)
    (ticked : tickSequence run children s = some (status, s')) (log : List (Start Leaf State)) :
    ∃ log', tickSequence (noting run) children (s, log) = some (status, s', log') := by
  cases children with
  | nil =>
      obtain ⟨rfl, rfl⟩ := by simpa [tickSequence] using ticked
      exact ⟨log, rfl⟩
  | cons child rest =>
      rcases tickSequence_cons child rest s s' status ticked with
        ⟨unsucceeded, first⟩ | ⟨middle, first, later⟩
      · obtain ⟨log', noted⟩ := tick_noting child s s' status first log
        refine ⟨log', ?_⟩
        rw [tickSequence, noted]
        cases status <;> simp_all
      · obtain ⟨between, noted⟩ := tick_noting child s middle _ first log
        obtain ⟨log', ended⟩ := tickSequence_noting rest middle s' status later between
        exact ⟨log', by rw [tickSequence, noted]; exact ended⟩

end

theorem tick_starts (node : Node Leaf) (s s' : State) (status : NodeStatus)
    (ticked : tick run node s = some (status, s')) :
    tick (noting run) node (s, []) = some (status, s', starts run node s) := by
  obtain ⟨log, noted⟩ := tick_noting node s s' status ticked []
  simp [starts, noted]

-- A property of the starts and the present state, kept by every allowed leaf.
theorem tick_history (property : List (Start Leaf State) → State → Prop)
    (guard : Leaf → State → Prop)
    (kept : ∀ log l s status s', property log s → guard l s → run l s = some (status, s') →
      property (⟨l, s⟩ :: log) s')
    (node : Node Leaf) (s s' : State) (status : NodeStatus) (initial : property [] s)
    (ticked : tick run node s = some (status, s'))
    (guarded : ∀ start ∈ starts run node s, guard start.leaf start.state) :
    property (starts run node s) s' := by
  have steps := tick_steps node _ _ status (tick_starts node s s' status ticked)
  revert guarded
  suffices all : ∀ last, LeafSteps (noting run) (· ∈ leaves node) (s, []) last →
      (∀ start ∈ last.2, guard start.leaf start.state) → property last.2 last.1 from all _ steps
  intro last steps
  induction steps with
  | refl => exact fun _ => initial
  | tail _ step ih =>
      intro guarded
      obtain ⟨l, status, -, noted⟩ := step
      obtain ⟨ran, log⟩ := noting_some l _ _ _ _ status noted
      rw [log] at guarded ⊢
      have before := ih fun start member => guarded start (List.mem_cons_of_mem _ member)
      exact kept _ l _ status _ before (guarded _ List.mem_cons_self) ran

variable (run) in
/-- Every leaf that a tick from `pre` starts meets its assertion, and the tick ends in `post`. -/
def Outline (asserts : Leaf → State → Prop) (pre : State → Prop) (node : Node Leaf)
    (post : NodeStatus → State → Prop) : Prop :=
  ∀ s log status s' log', pre s → tick (noting run) node (s, log) = some (status, s', log') →
    post status s' ∧ ∀ start ∈ log', start ∈ log ∨ asserts start.leaf start.state

namespace Outline

variable {asserts : Leaf → State → Prop} {pre : State → Prop} {node : Node Leaf}
  {post : NodeStatus → State → Prop}

theorem tick (outline : Outline run asserts pre node post) (s s' : State) (status : NodeStatus)
    (holds : pre s) (ticked : tick run node s = some (status, s')) :
    post status s' ∧ ∀ start ∈ starts run node s, asserts start.leaf start.state := by
  obtain ⟨ended, noted⟩ := outline s [] status s' _ holds (tick_starts node s s' status ticked)
  exact ⟨ended, fun start member => (noted start member).resolve_left (by simp)⟩

theorem mono {post' : NodeStatus → State → Prop} (outline : Outline run asserts pre node post)
    (weaker : ∀ status s, post status s → post' status s) : Outline run asserts pre node post' :=
  fun s log status s' log' holds ticked =>
    let ⟨ended, noted⟩ := outline s log status s' log' holds ticked
    ⟨weaker status s' ended, noted⟩

theorem leaf (l : Leaf) (asserted : ∀ s, pre s → asserts l s)
    (runs : ∀ s status s', pre s → run l s = some (status, s') → post status s') :
    Outline run asserts pre (.leaf l) post := by
  intro s log status s' log' holds ticked
  obtain ⟨ran, rfl⟩ := noting_some l s s' log log' status (by simpa [BehaviorTree.tick] using ticked)
  refine ⟨runs s status s' holds ran, fun start member => ?_⟩
  rcases List.mem_cons.mp member with rfl | earlier
  · exact .inr (asserted s holds)
  · exact .inl earlier

theorem sequence_nil (done : ∀ s, pre s → post .success s) :
    Outline run asserts pre (.sequence []) post := by
  intro s log status s' log' holds ticked
  obtain ⟨rfl, rfl, rfl⟩ := by simpa [BehaviorTree.tick, tickSequence] using ticked
  exact ⟨done s holds, fun start member => .inl member⟩

theorem sequence_cons {child : Node Leaf} {rest : List (Node Leaf)} (middle : State → Prop)
    (first : Outline run asserts pre child
      fun status s => if status = .success then middle s else post status s)
    (later : Outline run asserts middle (.sequence rest) post) :
    Outline run asserts pre (.sequence (child :: rest)) post := by
  intro s log status s' log' holds ticked
  rw [BehaviorTree.tick] at ticked
  rcases tickSequence_cons child rest _ _ status ticked with
    ⟨unsucceeded, ran⟩ | ⟨⟨between, noted⟩, ran, rest⟩
  · obtain ⟨ended, seen⟩ := first s log status s' log' holds ran
    exact ⟨by simpa [unsucceeded] using ended, seen⟩
  · obtain ⟨reached, seen⟩ := first s log _ between noted holds ran
    obtain ⟨ended, seenLater⟩ := later between noted status s' log' (by simpa using reached)
      (by simpa [BehaviorTree.tick] using rest)
    refine ⟨ended, fun start member => ?_⟩
    exact (seenLater start member).elim (seen start) .inr

theorem selector_nil (done : ∀ s, pre s → post .failure s) :
    Outline run asserts pre (.selector []) post := by
  intro s log status s' log' holds ticked
  obtain ⟨rfl, rfl, rfl⟩ := by simpa [BehaviorTree.tick, tickSelector] using ticked
  exact ⟨done s holds, fun start member => .inl member⟩

theorem selector_cons {child : Node Leaf} {rest : List (Node Leaf)} (middle : State → Prop)
    (first : Outline run asserts pre child
      fun status s => if status = .failure then middle s else post status s)
    (later : Outline run asserts middle (.selector rest) post) :
    Outline run asserts pre (.selector (child :: rest)) post := by
  intro s log status s' log' holds ticked
  rw [BehaviorTree.tick] at ticked
  rcases tickSelector_cons child rest _ _ status ticked with
    ⟨unfailed, ran⟩ | ⟨⟨between, noted⟩, ran, rest⟩
  · obtain ⟨ended, seen⟩ := first s log status s' log' holds ran
    exact ⟨by simpa [unfailed] using ended, seen⟩
  · obtain ⟨reached, seen⟩ := first s log _ between noted holds ran
    obtain ⟨ended, seenLater⟩ := later between noted status s' log' (by simpa using reached)
      (by simpa [BehaviorTree.tick] using rest)
    refine ⟨ended, fun start member => ?_⟩
    exact (seenLater start member).elim (seen start) .inr

theorem selector_kept (invariant : State → Prop) (children : List (Node Leaf))
    (each : ∀ child ∈ children, Outline run asserts invariant child fun _ => invariant) :
    Outline run asserts invariant (.selector children) fun _ => invariant := by
  induction children with
  | nil => exact selector_nil fun _ holds => holds
  | cons child rest ih =>
      refine selector_cons invariant ?_ (ih fun other member => each other (by simp [member]))
      simpa using each child List.mem_cons_self

-- A selector whose children fail only where they leave the precondition.
theorem selector_tries (children : List (Node Leaf))
    (each : ∀ child ∈ children, Outline run asserts pre child
      fun status s => status = .failure → pre s) :
    Outline run asserts pre (.selector children) fun status s => status = .failure → pre s := by
  induction children with
  | nil => exact selector_nil fun _ holds _ => holds
  | cons child rest ih =>
      refine selector_cons pre ?_ (ih fun other member => each other (by simp [member]))
      refine (each child List.mem_cons_self).mono fun status s kept => ?_
      split
      next failed => exact kept failed
      next unfailed => exact fun failed => absurd failed unfailed

theorem of_leaves (invariant : State → Prop)
    (asserted : ∀ l ∈ leaves node, ∀ s, invariant s → asserts l s)
    (kept : ∀ l ∈ leaves node, ∀ s status s', invariant s → run l s = some (status, s') →
      invariant s') :
    Outline run asserts invariant node fun _ => invariant := by
  intro s log status s' log' holds ticked
  have steps := tick_steps node _ _ status ticked
  suffices all : ∀ last, LeafSteps (noting run) (· ∈ leaves node) (s, log) last →
      invariant last.1 ∧ ∀ start ∈ last.2, start ∈ log ∨ asserts start.leaf start.state from
    all _ steps
  intro last steps
  induction steps with
  | refl => exact ⟨holds, fun start member => .inl member⟩
  | tail _ step ih =>
      obtain ⟨l, status, member, noted⟩ := step
      obtain ⟨ran, grown⟩ := noting_some l _ _ _ _ status noted
      obtain ⟨here, before⟩ := ih
      refine ⟨kept l member _ status _ here ran, fun start started => ?_⟩
      rw [grown] at started
      rcases List.mem_cons.mp started with rfl | earlier
      · exact .inr (asserted l member _ here)
      · exact before start earlier

end Outline

end

end BehaviorTree
