import MundusVivens.Fighting.Inhibition
import MundusVivens.Walking.Positions

set_option autoImplicit false

/-!
# Onsets

A pass of `SystemBehaviorTree` sends a needy NPC into a crisis and takes its `BusyTag`.
The tree of a busy NPC is not ticked, so that only an idle one is saved.
-/

namespace MundusVivens

open Scalar BehaviorTree Runs

variable {F : Type} [Scalar F]

namespace World

def attacks (w : World F) (n : Entity) : Event F → Bool
  | .behaviorTree e draw => (w.visitStarts e draw).any fun turn =>
      turn.leaf = .meleeAttack && turn.state.meleeVictim e = some n
  | _ => false

def lacks (w : World F) (n : Entity) : Bool :=
  (w.reg.behaviorTree n).isSome && !w.isDead n && !w.isResolving n && !w.hasCombatTarget n &&
    decide (w.aggroScore n < 100) &&
    (w.reg.needs n).any fun needs => lt needs.hunger (lit 15) || lt needs.fatigue (lit 15)

/-- A living NPC in need, in no crisis, without a combat target and with its aggro below 100. -/
structure Needy (w : World F) (n : Entity) : Prop where
  planted : w.reg.behaviorTree n = some ()
  living : w.isDead n = false
  unresolved : w.isResolving n = false
  peaceful : w.hasCombatTarget n = false
  calm : w.aggroScore n < 100
  lacking : ∃ needs, w.reg.needs n = some needs ∧
    (lt needs.hunger (lit 15) = true ∨ lt needs.fatigue (lit 15) = true)

theorem needy_of_check {w : World F} {n : Entity} (checked : w.lacks n = true) : w.Needy n := by
  simp only [lacks, Bool.and_eq_true, Bool.not_eq_true', decide_eq_true_eq] at checked
  obtain ⟨⟨⟨⟨⟨tree, living⟩, unresolved⟩, peaceful⟩, calm⟩, lacking⟩ := checked
  obtain ⟨needs, needful, low⟩ := (Option.any_eq_true _ _).mp lacking
  exact ⟨Option.isSome_iff_exists.mp tree |>.elim fun _ planted => planted, living, unresolved,
    peaceful, calm, needs, needful, by simpa using low⟩

end World

-- A call of `SystemBehaviorTree` in which nobody hits the NPC.
def peacefulPass (rank : Entity → Nat) (draws : Entity → BehaviorDraw) (n : Entity)
    (w : World F) : Option (World F) :=
  followWhile step (fun w event => !w.attacks n event)
    ((w.view rank fun e => (w.reg.behaviorTree e).isSome).map fun e => .behaviorTree e (draws e)) w

theorem peacefulPass_pass (rank : Entity → Nat) (draws : Entity → BehaviorDraw) (n : Entity)
    (w w' : World F) (passed : peacefulPass rank draws n w = some w') :
    pass rank (fun w e => (w.reg.behaviorTree e).isSome) (fun e => .behaviorTree e (draws e)) w =
      some w' :=
  follow_of_followWhile _ _ w w' passed

namespace World

variable {w w' m : World F} {e n : Entity}

-- What a hit on somebody else leaves as it is.
def sparingScope : Scope := ⟨[], [.handles, .grid, .tickets, .calls .reportJobStatus,
  .calls .threatDetected, .calls .reportCombatEvent]⟩

omit [Scalar F] in
theorem retaliate_spares (attacker target : Entity) (apart : n ≠ target) :
    Within sparingScope e n w (w.retaliate attacker target) := by
  unfold retaliate
  repeat' split
  all_goals simp [sparingScope, apart]

theorem strike_spares (target : Entity) (combat : CombatComp F)
    (identity targetIdentity : IdentityComp) (targetHealth : HealthComp F) (other : n ≠ e)
    (apart : n ≠ target)
    (struck : w.strike e target combat identity targetIdentity targetHealth = some w') :
    Within sparingScope e n w w' := by
  have landed : Within sparingScope e n w
      (w.landHit e target combat identity targetIdentity targetHealth) := by
    unfold landHit
    refine Within.trans ?_ (retaliate_spares e target apart)
    simp [sparingScope, other, apart]
  rcases strike_cases struck with ⟨-, rfl⟩ | ⟨-, mine, -, rfl⟩
  · exact landed
  · simpa [sparingScope, other, apart] using landed

theorem meleeAttack_spares (status : NodeStatus) (other : n ≠ e)
    (ran : w.actionMeleeAttack e = some (status, w')) (spared : w.meleeVictim e ≠ some n) :
    Within sparingScope e n w w' := by
  obtain ⟨loc, combat, job, toil, -, armed, -, -, attacks⟩ := meleeAttack_cases ran
  have standing : Within sparingScope e n w (w.standAndFight e toil) := by
    unfold standAndFight
    split <;> simp [sparingScope, other]
  cases attacks with
  | aimless => exact .refl _ e n w
  | chases target targetLoc name =>
      unfold chase
      split <;> simp [sparingScope, other]
  | waits => simpa [sparingScope, other] using standing
  | strikes target targetLoc identity targetIdentity health aimed located near ready hurt struck =>
      have victim : w.meleeVictim e = some target := by simp [meleeVictim, armed, ran, aimed]
      have apart : n ≠ target := by
        rintro rfl
        exact spared victim
      exact standing.trans (strike_spares target combat identity targetIdentity health other apart
        struck)

theorem runLeaf_spares (draw : BehaviorDraw) (leaf : SurvivalLeaf) (status : NodeStatus)
    (resident : w.Resident n) (other : n ≠ e) (ran : runLeaf e draw leaf w = some (status, w'))
    (spared : leaf = .meleeAttack → w.meleeVictim e ≠ some n) : Within sparingScope e n w w' := by
  by_cases melee : leaf = .meleeAttack
  next =>
    subst melee
    exact meleeAttack_spares status other ran (spared rfl)
  next =>
    have within := (runLeaf_within e n draw leaf status w w' resident ran).others other
    refine within.mono ?_
    cases leaf <;> first | decide | exact absurd rfl melee

theorem behaviorTree_spares (draw : BehaviorDraw) (matched : w.Matched) (resident : w.Resident n)
    (other : n ≠ e) (visited : w.behaviorTree e draw = some w')
    (spared : w.attacks n (.behaviorTree e draw) = false) : Within sparingScope e n w w' := by
  have history := w.behaviorTree_history e draw
    (fun _ m => m.Resident n ∧ Within sparingScope e n w m)
    (fun leaf m => leaf = .meleeAttack → m.meleeVictim e ≠ some n) w'
    ⟨resident, .refl _ e n w⟩ matched.planted
    (fun _ leaf m status m' here _ spared ran => by
      have step := runLeaf_spares draw leaf status here.1 other ran spared
      exact ⟨step.resident rfl here.1, here.2.trans step⟩)
    visited
    (fun turn member melee victim => by
      have hit := List.any_eq_false.mp spared turn member
      simp [melee, victim] at hit)
  exact history.2

theorem Needy.aimless (needy : w.Needy n) : w.hasValidTarget n = false := by
  have peaceful := needy.peaceful
  unfold hasCombatTarget at peaceful
  unfold hasValidTarget
  split <;> simp_all

theorem Needy.within (needy : w.Needy n) (within : Within sparingScope e n w w') : w'.Needy n := by
  have needs : w'.reg.needs n = w.reg.needs n := within.same .needs rfl
  have tree : w'.reg.behaviorTree n = w.reg.behaviorTree n := within.same .behaviorTree rfl
  have health : w'.reg.health n = w.reg.health n := within.same .health rfl
  have combat : w'.reg.combat n = w.reg.combat n := within.same .combat rfl
  have aggro : w'.reg.aggro n = w.reg.aggro n := within.same .aggro rfl
  constructor
  · rw [tree, needy.planted]
  · simpa [isDead, health] using needy.living
  · simpa [isResolving, needs] using needy.unresolved
  · simpa [hasCombatTarget, combat] using needy.peaceful
  · simpa [aggroScore, aggro] using needy.calm
  · simpa [needs] using needy.lacking

structure Entered (w : World F) (n : Entity) : Prop where
  free : w.reg.busy n = none
  resolving : ∃ needs, w.reg.needs n = some needs ∧ needs.isResolvingSurvival = true ∧
    needs.occupiedFurniture = none
  fresh : ∃ toil, w.reg.toil n = some toil ∧ toil.currentAction = ""

theorem enterCrisis_enters (crisis : Crisis F) (needs : NeedsComp F) (status : NodeStatus)
    (unseated : needs.occupiedFurniture = none)
    (entered : w.enterCrisis crisis n needs = some (status, w')) :
    status = .success ∧ w'.Entered n := by
  simp only [enterCrisis, Option.bind_eq_bind, Option.bind_eq_some_iff] at entered
  obtain ⟨identity, -, job, -, toil, -, stored⟩ := entered
  obtain ⟨rfl, rfl⟩ := Prod.mk.inj (Option.some.inj stored)
  refine ⟨rfl, by simp [setToil, setJob, issue, clearPath, eraseBusy, Registry.eraseBusy],
    ⟨{ needs with isResolvingSurvival := true, currentSurvivalType := crisis.type },
      by simp [setToil, setJob, issue, clearPath, eraseBusy, Registry.eraseBusy, setNeeds],
      rfl, unseated⟩, ⟨⟨.idle, "", 0⟩, by simp [setToil], rfl⟩⟩

/-- The NPC is saved: it resolves its crisis and is not busy. -/
def Rescued (w : World F) (n : Entity) : Prop := w.isResolving n = true ∧ w.reg.busy n = none

omit [Scalar F] in
theorem Rescued.within {s : Scope} (rescued : w.Rescued n) (within : Within s e n w w')
    (spares : (s.covers .needs || s.covers .busy) = false) : w'.Rescued n := by
  obtain ⟨carefree, idle⟩ := Bool.or_eq_false_iff.mp spares
  have needs : w'.reg.needs n = w.reg.needs n := within.same .needs carefree
  have busy : w'.reg.busy n = w.reg.busy n := within.same .busy idle
  exact ⟨by simpa [isResolving, needs] using rescued.1, busy.trans rescued.2⟩

omit [Scalar F] in
theorem Entered.rescued (entered : w.Entered n) : w.Rescued n := by
  obtain ⟨needs, needful, resolving, -⟩ := entered.resolving
  exact ⟨by simp [isResolving, needful, resolving], entered.free⟩

theorem Entered.findFurniture (entered : w.Entered n) (resident : w.Resident n)
    (draw : BehaviorDraw) (status : NodeStatus)
    (ran : w.actionFindFurniture n draw = some (status, w')) :
    status = .success ∧ w'.Entered n := by
  have within := w.findFurniture_within w' n n draw status resident.valid ran
  have needs : w'.reg.needs n = w.reg.needs n := within.same .needs rfl
  have busy : w'.reg.busy n = w.reg.busy n := within.same .busy rfl
  obtain ⟨succeeds, own, job, loc, toil, -, -, -, toiling, searches⟩ := findFurniture_cases ran
  suffices fresh : ∃ toil, w'.reg.toil n = some toil ∧ toil.currentAction = "" from
    ⟨succeeds, busy.trans entered.free, by simpa [needs] using entered.resolving, fresh⟩
  obtain ⟨again, there, idle⟩ := entered.fresh
  obtain rfl := Option.some.inj (toiling.symm.trans there)
  have aimed (m : World F) (place : LocationComp F) :
      ∃ next, (m.aimJob n job toil place).reg.toil n = some next ∧ next.currentAction = "" :=
    ⟨{ toil with state := .idle }, by simp [aimJob, setToil], idle⟩
  cases searches with
  | keeps => exact ⟨toil, toiling, idle⟩
  | aims dist place => exact aimed w place
  | camps name type => exact aimed _ loc
  | stays => exact aimed w loc

theorem moveToTarget_status (status : NodeStatus)
    (ran : w.actionMoveToTarget e = some (status, w')) :
    status ≠ .failure ∧ (status = .success → w' = w) := by
  obtain ⟨loc, job, toil, -, -, -, travels⟩ := moveToTarget_cases ran
  cases travels <;> simp

theorem Entered.interactFurniture (entered : w.Entered n) (resident : w.Resident n)
    (draw : BehaviorDraw) (status : NodeStatus)
    (ran : w.actionInteractFurniture n draw = some (status, w')) :
    status = .running ∧ w'.Rescued n := by
  have within := w.interactFurniture_within w' n n draw status resident ran
  have busy : w'.reg.busy n = w.reg.busy n := within.same .busy rfl
  suffices acts : status = .running ∧ w'.isResolving n = true from
    ⟨acts.1, acts.2, busy.trans entered.free⟩
  obtain ⟨own, needful, resolving, unseated⟩ := entered.resolving
  obtain ⟨work, toiling, idle⟩ := entered.fresh
  obtain ⟨needs, loc, toil, job, identity, attends, acted⟩ := interactFurniture_cases ran
  obtain rfl : own = needs := Option.some.inj (needful.symm.trans attends.needy)
  obtain rfl : work = toil := Option.some.inj (toiling.symm.trans attends.toils)
  have seeks : seeksSeat own work = true := by simp [seeksSeat, unseated, idle]
  cases acted with
  | settles _ settled =>
      refine ⟨rfl, ?_⟩
      cases settled with
      | seat f found taken => exact occupyFurniture_resolving resolving taken
      | camp name type full wild suits taken => exact occupyFurniture_resolving resolving taken
      | floor => simp [isResolving, settle, setActivity, setToil, needful, resolving]
  | recharges amount rests => cases seeks.symm.trans rests
  | resolves amount left rests => cases seeks.symm.trans rests

theorem Entered.resolves (entered : w.Entered n) (resident : w.Resident n) (draw : BehaviorDraw)
    (status : NodeStatus)
    (ticked : tickSequence (runLeaf n draw)
      [.leaf .findFurniture, .leaf .moveToTarget, .leaf .interactFurniture] w =
        some (status, w')) : status ≠ .failure ∧ w'.Rescued n := by
  rcases tickSequence_leaf _ _ _ _ _ ticked with ⟨unfinished, searched⟩ | ⟨m, searched, travel⟩
  · exact absurd (entered.findFurniture resident draw status searched).1 unfinished
  have found := (entered.findFurniture resident draw _ searched).2
  have lives := runLeaf_resident n draw .findFurniture w _ m resident searched
  rcases tickSequence_leaf _ _ _ _ _ travel with ⟨-, moved⟩ | ⟨there, moved, rest⟩
  · have within := m.moveToTarget_within w' n n status moved
    exact ⟨(moveToTarget_status status moved).1, found.rescued.within within rfl⟩
  have unmoved : there = m := (moveToTarget_status _ moved).2 rfl
  rw [unmoved] at rest
  rcases tickSequence_leaf _ _ _ _ _ rest with ⟨-, sat⟩ | ⟨last, sat, ended⟩
  · obtain ⟨rfl, rescued⟩ := found.interactFurniture lives draw status sat
    exact ⟨by simp, rescued⟩
  · have running := (found.interactFurniture lives draw _ sat).1
    cases running

omit [Scalar F] in
theorem isAggroHigh_calm (status : NodeStatus) (calm : w.aggroScore n < 100)
    (ran : w.conditionIsAggroHigh n = some (status, m)) : status = .failure ∧ m = w := by
  obtain ⟨rfl, -⟩ := w.isAggroHigh_pure n m status ran
  refine ⟨?_, rfl⟩
  unfold conditionIsAggroHigh at ran
  split at ran
  next => exact (Prod.mk.inj (Option.some.inj ran)).1.symm
  next =>
    split at ran
    next => exact (Prod.mk.inj (Option.some.inj ran)).1.symm
    next aggro roused =>
      have low : ¬100 ≤ aggro.aggroScore := by simpa [aggroScore, roused] using calm
      split at ran
      next threat _ =>
        have decided := (Prod.mk.inj (Option.some.inj ran)).1
        rwa [if_neg fun high => low high.1, eq_comm] at decided
      next => exact (Prod.mk.inj (Option.some.inj ran)).1.symm

theorem crisisSeq_tick (crisis : Crisis F) (condition : SurvivalLeaf) (draw : BehaviorDraw)
    (checks : ∀ m : World F, runLeaf n draw condition m = m.conditionInCrisis crisis n)
    (needs : NeedsComp F) (needful : w.reg.needs n = some needs)
    (unresolved : needs.isResolvingSurvival = false) (unseated : needs.occupiedFurniture = none)
    (resident : w.Resident n) (status : NodeStatus)
    (ticked : tick (runLeaf n draw) (.sequence [.leaf condition, .leaf .findFurniture,
      .leaf .moveToTarget, .leaf .interactFurniture]) w = some (status, w')) :
    if lt (crisis.level needs) (lit 15) = true then status ≠ .failure ∧ w'.Rescued n
    else status = .failure ∧ w' = w := by
  rw [tick] at ticked
  split
  next low =>
    have enters (decided : NodeStatus) (m : World F)
        (ran : runLeaf n draw condition w = some (decided, m)) :
        decided = .success ∧ m.Entered n := by
      rw [checks, conditionInCrisis, needful] at ran
      simp only [Option.bind_eq_bind, Option.bind_some, unresolved, Bool.false_eq_true, if_false,
        low, if_true] at ran
      exact enterCrisis_enters crisis needs decided unseated ran
    rcases tickSequence_leaf _ _ _ _ _ ticked with ⟨unfinished, ran⟩ | ⟨first, ran, rest⟩
    · exact absurd (enters status w' ran).1 unfinished
    · have lives := runLeaf_resident n draw condition w _ first resident ran
      exact (enters _ first ran).2.resolves lives draw status rest
  next enough =>
    refine tickSequence_blocked _ _ w w' status (fun decided m ran => ?_) ticked
    rw [checks, conditionInCrisis, needful] at ran
    simp only [Option.bind_eq_bind, Option.bind_some, unresolved, Bool.false_eq_true, if_false,
      enough] at ran
    obtain ⟨rfl, rfl⟩ := Prod.mk.inj (Option.some.inj ran)
    exact ⟨rfl, rfl⟩

theorem Needy.visit (needy : w.Needy n) (matched : w.Matched) (free : w.reg.busy n = none)
    (draw : BehaviorDraw) (visited : w.behaviorTree n draw = some w') : w'.Rescued n := by
  obtain ⟨needs, needful, lacking⟩ := needy.lacking
  have resident := matched.planted needy.planted
  have unresolved : needs.isResolvingSurvival = false := by
    simpa [isResolving, needful] using needy.unresolved
  have unseated : needs.occupiedFurniture = none :=
    Fittings.Matched.unseated matched n needs.crisis (by simp [fittings, needful])
      (by simpa [NeedsComp.crisis] using unresolved)
  unfold behaviorTree at visited
  rw [if_neg (by simp [needy.planted, free])] at visited
  obtain ⟨⟨status, last⟩, ticked, rfl⟩ := Option.map_eq_some_iff.mp visited
  rw [survivalTree, tick] at ticked
  have aimless (decided : NodeStatus) (m : World F) (rest : List (Node SurvivalLeaf))
      (ran : tick (runLeaf n draw) (.sequence (.leaf .hasCombatTarget :: rest)) w =
        some (decided, m)) : decided = .failure ∧ m = w :=
    tickSequence_blocked _ rest w m decided
      (fun decided m ran => hasCombatTarget_pure m n w decided needy.aimless ran)
      (by simpa [tick] using ran)
  -- Neither flight, nor aggro, nor combat holds the NPC up.
  have ticked := tickSelector_skip _ _ w last status (fun decided m => aimless decided m _) ticked
  have ticked := tickSelector_skip _ _ w last status (fun decided m ran =>
    tickSequence_blocked _ _ w m decided
      (fun decided m ran => isAggroHigh_calm decided needy.calm ran)
      (by simpa [aggroSeq, tick] using ran)) ticked
  have ticked := tickSelector_skip _ _ w last status (fun decided m => aimless decided m _) ticked
  rw [peacefulSeqs] at ticked
  have hunger := fun decided m => @crisisSeq_tick F _ w m n hungerCrisis .isHungry draw
    (fun _ => rfl) needs needful unresolved unseated resident decided
  have fatigue := fun decided m => @crisisSeq_tick F _ w m n fatigueCrisis .isFatigued draw
    (fun _ => rfl) needs needful unresolved unseated resident decided
  by_cases hungry : lt (hungerCrisis.level needs) (lit 15) = true
  next =>
    rcases tickSelector_cons _ _ _ _ _ ticked with ⟨-, ran⟩ | ⟨middle, ran, -⟩
    · have saved := hunger status last ran
      rw [if_pos hungry] at saved
      exact saved.2
    · have saved := hunger _ middle ran
      rw [if_pos hungry] at saved
      exact absurd rfl saved.1
  next =>
    have tired : lt (fatigueCrisis.level needs) (lit 15) = true := lacking.resolve_left hungry
    have ticked := tickSelector_skip _ _ w last status (fun decided m ran => by
      have fed := hunger decided m ran
      rwa [if_neg hungry] at fed) ticked
    rcases tickSelector_cons _ _ _ _ _ ticked with ⟨-, ran⟩ | ⟨middle, ran, -⟩
    · have saved := fatigue status last ran
      rw [if_pos tired] at saved
      exact saved.2
    · have saved := fatigue _ middle ran
      rw [if_pos tired] at saved
      exact absurd rfl saved.1

-- Visits of others that spare the NPC, from a world whose furniture is matched.
def Spares (n : Entity) (w w' : World F) : Prop :=
  w.Matched → w.Resident n → w'.Matched ∧ w'.Resident n ∧ Within sparingScope n n w w'

theorem Spares.visit (other : e ≠ n) (draw : BehaviorDraw)
    (visited : step (.behaviorTree e draw) w = some w')
    (spared : w.attacks n (.behaviorTree e draw) = false) : Spares n w w' := by
  intro matched resident
  have within := behaviorTree_spares draw matched resident (Ne.symm other) visited spared
  exact ⟨step_matched _ w w' matched visited, within.resident rfl resident,
    fun p foreign _ => within p foreign fun _ => List.not_mem_nil⟩

end World

/-- In every reachable state, a pass of `SystemBehaviorTree` in which nobody hits a needy NPC leaves
it in a crisis and without a `BusyTag` exactly when it had none before. -/
theorem crisis_begins_iff (data : WorldBootstrapData F) (settings : SimulationSettings F)
    (obstacles : Option (List Obstacle)) (draws : Nat → NeedsDraw F) (start w : World F)
    (past : List (Transition (World F) (Event F)))
    (booted : bootstrap data settings obstacles draws = some start)
    (run : ServerRun start past w) (n : Entity) (needy : w.Needy n) (rank : Entity → Nat)
    (trees : Entity → BehaviorDraw) (w' : World F)
    (passed : peacefulPass rank trees n w = some w') :
    (w'.isResolving n = true ∧ w'.reg.busy n = none) ↔ w.reg.busy n = none := by
  have matched := reachable_matched start w past
    (bootstrap_matched data settings obstacles draws start booted) run
  have resident := matched.planted needy.planted
  have known : n < w.reg.nextEntity := by
    by_contra late
    simpa [w.reg.issued n (Nat.not_lt.mp late)] using resident.valid
  obtain ⟨m, m', before, visited, after⟩ := @follow_around _ _
    (fun event (s : World F) => if !s.attacks n event then step event s else none) _
    (fun e => Event.behaviorTree e (trees e)) (World.Spares n)
    (fun w matched resident => ⟨matched, resident, .refl _ n n w⟩)
    (fun a b c first second matched resident => by
      obtain ⟨matched, resident, within⟩ := first matched resident
      obtain ⟨matched, resident, further⟩ := second matched resident
      exact ⟨matched, resident, within.trans further⟩) n
    (fun y other s s' visited => by
      split at visited
      next spared => exact World.Spares.visit other (trees y) visited (by simpa using spared)
      next => cases visited)
    _ (view_nodup w rank fun e => (w.reg.behaviorTree e).isSome)
    ((mem_view w rank _ n).mpr ⟨known, resident.valid, by simp [needy.planted]⟩) w w' passed
  obtain ⟨matched, resident, within⟩ := before matched resident
  have ran : m.behaviorTree n (trees n) = some m' := by
    split at visited
    next => exact visited
    next => cases visited
  obtain ⟨-, -, within'⟩ := after (step_matched (.behaviorTree n (trees n)) m m' matched ran)
    (step_resident (.behaviorTree n (trees n)) m m' n resident ran)
  have tag : m.reg.busy n = w.reg.busy n := within.same .busy rfl
  constructor
  · rintro ⟨resolving, -⟩
    -- The tree of a busy NPC is skipped, so that nothing happens to it.
    by_contra busy
    have skipped : m' = m := by
      unfold World.behaviorTree at ran
      rw [if_pos (by simp [tag, Option.isSome_iff_ne_none, busy])] at ran
      exact (Option.some.inj ran).symm
    rw [skipped] at within'
    simp [((needy.within within).within within').unresolved] at resolving
  · intro free
    exact ((needy.within within).visit matched (tag.trans free) (trees n) ran).within within' rfl

theorem crisis_begins_iff_glade : ∃ w', peacefulPass id (fun _ => ⟨id, fun _ => 0⟩) 2 glade = some w' ∧
    ((w'.isResolving 2 = true ∧ w'.reg.busy 2 = none) ↔ glade.reg.busy 2 = none) := by
  have passed : (peacefulPass id (fun _ => ⟨id, fun _ => 0⟩) 2 glade).isSome = true ∧
      glade.lacks 2 = true := by decide +kernel
  obtain ⟨w', peaceful⟩ := Option.isSome_iff_exists.mp passed.1
  exact ⟨w', peaceful, crisis_begins_iff gladeData ⟨2, 60⟩ (some []) (fun _ => ⟨10, 100⟩) glade glade
    [] glade_boots .rest 2 (World.needy_of_check passed.2) id _ w' peaceful⟩

-- Bob walks up to hungry Ella and talks to her.
def bobMeetsElla : List (Event ℚ) :=
  [.connect, .command (.login 1 "bob" "Bob"), .command (.move 1 40 0 40),
    .command (.talkToNpc 1 7)]

-- As long as the dialogue lasts, Ella is left hungry.
theorem busy_npc_stays_hungry : ∃ past w w', ServerRun glade past w ∧
    past.reverse.map (·.event) = bobMeetsElla ∧ w.Needy 2 ∧
    peacefulPass id (fun _ => ⟨id, fun _ => 0⟩) 2 w = some w' ∧
    w'.isResolving 2 = false ∧ (w'.reg.busy 2).isSome = true := by
  have passed : (record step bobMeetsElla [] glade).any (fun kept => kept.2.lacks 2 &&
      (peacefulPass id (fun _ => ⟨id, fun _ => 0⟩) 2 kept.2).any fun w' =>
        !w'.isResolving 2 && (w'.reg.busy 2).isSome) = true := by decide +kernel
  obtain ⟨past, w, run, events, checked⟩ := Run.exists_of_record _
    (fun _ (w : World ℚ) => w.lacks 2 &&
      (peacefulPass id (fun _ => ⟨id, fun _ => 0⟩) 2 w).any fun w' =>
        !w'.isResolving 2 && (w'.reg.busy 2).isSome) passed
  obtain ⟨lacks, after⟩ := (Bool.and_eq_true _ _).mp checked
  obtain ⟨w', peaceful, left⟩ := (Option.any_eq_true _ _).mp after
  obtain ⟨hungry, busy⟩ := (Bool.and_eq_true _ _).mp left
  exact ⟨past, w, w', run, events, World.needy_of_check lacks, peaceful, by simpa using hungry, busy⟩

end MundusVivens
