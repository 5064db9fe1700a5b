import MundusVivens.Shared.TreeOutline
import MundusVivens.Systems.Footprints

set_option autoImplicit false

/-!
# Crises

The furniture leaf only starts for an NPC in a crisis: each of the four sequences
that end in it begins with a condition that succeeds in a crisis only.
-/

namespace MundusVivens

open Scalar BehaviorTree

variable {F : Type} [Scalar F]

structure World.Resolves (w : World F) (e : Entity) : Prop where
  valid : w.reg.valid e = true
  resolves : ∃ needs, w.reg.needs e = some needs ∧ needs.isResolvingSurvival = true ∧
    (needs.currentSurvivalType = .hunger ∨ needs.currentSurvivalType = .fatigue)

variable (e : Entity) (draw : BehaviorDraw)

def startsInCrisis (leaf : SurvivalLeaf) (w : World F) : Prop :=
  leaf = .interactFurniture → w.Resolves e

theorem runLeaf_resident (leaf : SurvivalLeaf) (w : World F) (status : NodeStatus) (w' : World F)
    (resident : w.Resident e) (ran : runLeaf e draw leaf w = some (status, w')) :
    w'.Resident e := by
  have spares : leaf.scope.sparesResidents = true := by cases leaf <;> rfl
  exact (runLeaf_within e e draw leaf status w w' resident ran).resident spares resident

theorem conditionInCrisis_enters (crisis : Crisis F)
    (known : crisis.type = .hunger ∨ crisis.type = .fatigue) (w w' : World F)
    (resident : w.Resident e) (ran : w.conditionInCrisis crisis e = some (.success, w')) :
    w'.Resolves e := by
  simp only [World.conditionInCrisis, Option.bind_eq_bind, Option.bind_eq_some_iff] at ran
  obtain ⟨needs, needy, ran⟩ := ran
  split at ran
  next resolving =>
    split at ran
    next same =>
      obtain ⟨-, rfl⟩ := Prod.mk.inj (Option.some.inj ran)
      exact ⟨resident.valid, needs, needy, resolving, by rw [same]; exact known⟩
    next => simp at ran
  next =>
    split at ran
    next =>
      simp only [World.enterCrisis, Option.bind_eq_bind, Option.bind_eq_some_iff] at ran
      obtain ⟨identity, -, job, -, toil, -, stored⟩ := ran
      obtain ⟨-, rfl⟩ := Prod.mk.inj (Option.some.inj stored)
      refine ⟨resident.valid,
        { needs with isResolvingSurvival := true, currentSurvivalType := crisis.type }, ?_, rfl, known⟩
      simp [World.setToil, World.setJob, World.issue, World.clearPath, World.eraseBusy,
        Registry.eraseBusy, World.setNeeds]
    next => simp at ran

omit [Scalar F] in
theorem conditionIsScheduled_enters (crisis : Crisis F)
    (known : crisis.type = .hunger ∨ crisis.type = .fatigue) (w w' : World F)
    (resident : w.Resident e) (ran : w.conditionIsScheduled crisis e = some (.success, w')) :
    w'.Resolves e := by
  simp only [World.conditionIsScheduled, Option.bind_eq_bind, Option.bind_eq_some_iff] at ran
  obtain ⟨needs, needy, ran⟩ := ran
  split at ran
  next resolving =>
    split at ran
    next same =>
      obtain ⟨-, rfl⟩ := Prod.mk.inj (Option.some.inj ran)
      exact ⟨resident.valid, needs, needy, resolving, by rw [same]; exact known⟩
    next => simp at ran
  next =>
    simp only [Option.bind_eq_some_iff] at ran
    obtain ⟨job, -, toil, -, loc, -, ran⟩ := ran
    split at ran
    next =>
      obtain ⟨-, rfl⟩ := Prod.mk.inj (Option.some.inj ran)
      refine ⟨resident.valid,
        { needs with isResolvingSurvival := true, currentSurvivalType := crisis.type }, ?_, rfl, known⟩
      simp [World.setNeeds]
    next => simp at ran

omit [Scalar F] in
theorem World.Resolves.within {s : Scope} {w w' : World F} (crisis : w.Resolves e)
    (within : Within s e e w w') (lasting : s.covers .valid = false)
    (carefree : s.covers .needs = false) : w'.Resolves e := by
  obtain ⟨needs, needy, resolving, known⟩ := crisis.resolves
  have sameNeeds : w'.reg.needs e = w.reg.needs e := within.same .needs carefree
  have sameValid : w'.reg.valid e = w.reg.valid e := within.same .valid lasting
  exact ⟨sameValid.trans crisis.valid, needs, sameNeeds.trans needy, resolving, known⟩

theorem crisisSeq_outline (condition : SurvivalLeaf) (rest : List SurvivalLeaf)
    (others : condition ≠ .interactFurniture)
    (enters : ∀ w w' : World F, w.Resident e →
      runLeaf e draw condition w = some (.success, w') → w'.Resolves e)
    (travels : ∀ leaf ∈ rest, leaf = .findFurniture ∨ leaf = .moveToTarget) :
    Outline (runLeaf e draw) (startsInCrisis (F := F) e) (fun w => w.Resident e)
      (.sequence (.leaf condition :: rest.map .leaf ++ [.leaf .interactFurniture]))
      fun _ w => w.Resident e := by
  refine Outline.sequence_cons (fun w => w.Resident e ∧ w.Resolves e) ?_ ?_
  · refine Outline.leaf condition (fun w _ same => absurd same others) fun w status w' resident ran => ?_
    have stays := runLeaf_resident e draw condition w status w' resident ran
    split
    next succeeded =>
      subst succeeded
      exact ⟨stays, enters w w' resident ran⟩
    next => exact stays
  · induction rest with
    | nil =>
        refine Outline.sequence_cons (fun w => w.Resident e) ?_
          (Outline.sequence_nil fun w resident => resident)
        refine Outline.leaf _ (fun w starts _ => starts.2) fun w status w' starts ran => ?_
        simpa using runLeaf_resident e draw _ w status w' starts.1 ran
    | cons leaf rest ih =>
        refine Outline.sequence_cons (fun w => w.Resident e ∧ w.Resolves e) ?_
          (ih fun other member => travels other (by simp [member]))
        have travel := travels leaf (by simp)
        refine Outline.leaf leaf (fun w _ same => ?_) fun w status w' starts ran => ?_
        · rcases travel with rfl | rfl <;> cases same
        · have stays := runLeaf_resident e draw leaf w status w' starts.1 ran
          have carried : w'.Resolves e := by
            refine starts.2.within e (runLeaf_within e e draw leaf status w w' starts.1 ran) ?_ ?_
            all_goals rcases travel with rfl | rfl <;> rfl
          split
          next => exact ⟨stays, carried⟩
          next => exact stays

theorem apart_outline (node : Node SurvivalLeaf) (apart : .interactFurniture ∉ leaves node) :
    Outline (runLeaf e draw) (startsInCrisis (F := F) e) (fun w => w.Resident e) node
      fun _ w => w.Resident e :=
  Outline.of_leaves _ (fun _ member _ _ same => absurd (same ▸ member) apart)
    fun l _ w status w' resident ran => runLeaf_resident e draw l w status w' resident ran

theorem survivalTree_outline :
    Outline (runLeaf e draw) (startsInCrisis (F := F) e) (fun w => w.Resident e) survivalTree
      fun _ w => w.Resident e := by
  refine Outline.selector_kept _ _ fun child member => ?_
  simp only [peacefulSeqs, List.mem_cons, List.not_mem_nil, or_false] at member
  rcases member with rfl | rfl | rfl | rfl | rfl | rfl | rfl | rfl
  case inr.inr.inr.inl =>
    exact crisisSeq_outline e draw .isHungry [.findFurniture, .moveToTarget] (by simp)
      (fun w w' => conditionInCrisis_enters e hungerCrisis (.inl rfl) w w') (by simp)
  case inr.inr.inr.inr.inl =>
    exact crisisSeq_outline e draw .isFatigued [.findFurniture, .moveToTarget] (by simp)
      (fun w w' => conditionInCrisis_enters e fatigueCrisis (.inr rfl) w w') (by simp)
  case inr.inr.inr.inr.inr.inl =>
    exact crisisSeq_outline e draw .isScheduledEat [] (by simp)
      (fun w w' => conditionIsScheduled_enters e hungerCrisis (.inl rfl) w w') (by simp)
  case inr.inr.inr.inr.inr.inr.inl =>
    exact crisisSeq_outline e draw .isScheduledSleep [] (by simp)
      (fun w w' => conditionIsScheduled_enters e fatigueCrisis (.inr rfl) w w') (by simp)
  all_goals
    exact apart_outline e draw _ (by
      simp [leaves, leavesOf, fleeSeq, aggroSeq, combatSeq, wanderSeq])

omit [Scalar F] in
theorem World.isNone_tree {w : World F} {n : Entity}
    (bare : ¬w.reg.behaviorTree n = some ()) : (w.reg.behaviorTree n).isNone = true := by
  cases tree : w.reg.behaviorTree n with
  | none => rfl
  | some _ => exact absurd tree bare

-- The leaves a visit starts, with their states.
def World.visitStarts (w : World F) : List (Start SurvivalLeaf (World F)) :=
  if (w.reg.behaviorTree e).isNone || (w.reg.busy e).isSome then []
  else starts (runLeaf e draw) survivalTree w

-- A property of the starts of a visit and the present world, kept by each allowed leaf; the
-- furniture leaf starts in a crisis only.
theorem World.behaviorTree_history
    (property : List (Start SurvivalLeaf (World F)) → World F → Prop)
    (guard : SurvivalLeaf → World F → Prop) (w w' : World F) (initial : property [] w)
    (resident : w.reg.behaviorTree e = some () → w.Resident e)
    (kept : ∀ log leaf m status m', property log m → startsInCrisis e leaf m → guard leaf m →
      runLeaf e draw leaf m = some (status, m') → property (⟨leaf, m⟩ :: log) m')
    (visited : w.behaviorTree e draw = some w')
    (guarded : ∀ start ∈ w.visitStarts e draw, guard start.leaf start.state) :
    property (w.visitStarts e draw) w' := by
  unfold World.behaviorTree at visited
  unfold World.visitStarts at guarded ⊢
  split at visited
  next checked =>
    obtain rfl := Option.some.inj visited
    rw [if_pos checked]
    exact initial
  next free =>
    rw [if_neg free] at guarded ⊢
    obtain ⟨⟨status, last⟩, ticked, rfl⟩ := Option.map_eq_some_iff.mp visited
    have planted : w.reg.behaviorTree e = some () := by
      cases tree : w.reg.behaviorTree e with
      | none => simp [tree] at free
      | some _ => rfl
    have crises := ((survivalTree_outline e draw).tick w last status (resident planted) ticked).2
    exact tick_history property (fun leaf m => startsInCrisis e leaf m ∧ guard leaf m)
      (fun log leaf m status m' here allowed ran =>
        kept log leaf m status m' here allowed.1 allowed.2 ran)
      survivalTree w last status initial ticked
      fun start member => ⟨crises start member, guarded start member⟩

theorem World.behaviorTree_kept (invariant : World F → Prop) (guard : SurvivalLeaf → World F → Prop)
    (residents : ∀ w, invariant w → w.reg.behaviorTree e = some () → w.Resident e)
    (kept : ∀ leaf w status w', invariant w → startsInCrisis e leaf w → guard leaf w →
      runLeaf e draw leaf w = some (status, w') → invariant w')
    (w w' : World F) (holds : invariant w) (visited : w.behaviorTree e draw = some w')
    (guarded : ∀ start ∈ w.visitStarts e draw, guard start.leaf start.state) : invariant w' :=
  w.behaviorTree_history e draw (fun _ => invariant) guard w' holds (residents w holds)
    (fun _ leaf m status m' => kept leaf m status m') visited guarded

theorem World.visitStarts_outline {asserts : SurvivalLeaf → World F → Prop}
    {pre : World F → Prop} {post : NodeStatus → World F → Prop}
    (outline : Outline (runLeaf e draw) asserts pre survivalTree post) (w w' : World F)
    (holds : pre w) (visited : w.behaviorTree e draw = some w') :
    ∀ start ∈ w.visitStarts e draw, asserts start.leaf start.state := by
  unfold World.behaviorTree at visited
  unfold World.visitStarts
  split at visited
  next checked => simp [checked]
  next free =>
    rw [if_neg free]
    obtain ⟨⟨status, last⟩, ticked, rfl⟩ := Option.map_eq_some_iff.mp visited
    exact (outline.tick w last status holds ticked).2

end MundusVivens
