import MundusVivens.Jobs.Completion
import MundusVivens.Jobs.Decisions
import MundusVivens.Jobs.Staff

set_option autoImplicit false

/-!
# Errands

What an active job asks for: a place, by its name and its coordinates. Chases, flights, the
search for furniture and the path finding steer an NPC by the same fields.
-/

namespace MundusVivens

open Scalar BehaviorTree Runs

variable {F : Type}

structure Errand (F : Type) where
  jobId : UInt64
  targetLocation : String
  targetX : F
  targetZ : F
deriving DecidableEq

def JobComp.errand (job : JobComp F) : Errand F :=
  ⟨job.jobId, job.targetLocation, job.targetX, job.targetZ⟩

namespace World

def errand (w : World F) (e : Entity) : Option (Errand F) :=
  (w.reg.job e).bind fun job => if job.isActive then some job.errand else none

-- An errand afterwards was there before.
def Continues (n : Entity) (w w' : World F) : Prop :=
  ∀ order, w'.errand n = some order → w.errand n = some order

/-- Two states in which a job with the same id is active ask for the same place. -/
def KeepsErrand (n : Entity) (w w' : World F) : Prop :=
  ∀ order order', w.errand n = some order → w'.errand n = some order' →
    order'.jobId = order.jobId → order' = order

variable {w m w' : World F} {e n x : Entity}

namespace Continues

theorem refl (w : World F) : Continues n w w := fun _ held => held

theorem trans (first : Continues n w m) (second : Continues n m w') : Continues n w w' :=
  fun order held => first order (second order held)

theorem of_job (same : w'.reg.job n = w.reg.job n) : Continues n w w' := by
  intro order held
  simpa [errand, same] using held

theorem of_over (job : JobComp F) (has : w'.reg.job n = some job) (finished : job.isActive = false) :
    Continues n w w' := by
  intro order held
  simp [errand, has, finished] at held

theorem keeps (continues : Continues n w w') : KeepsErrand n w w' := by
  intro order order' before after _
  exact Option.some.inj ((continues order' after).symm.trans before)

end Continues

variable [Scalar F]

-- The flight takes a new destination.
def fleesAnew (w : World F) (e : Entity) : Bool :=
  match w.reg.location e, w.reg.combat e, w.reg.job e, w.reg.toil e with
  | some loc, some combat, some job, some toil =>
      (w.validTarget combat).isSome && w.mustRedirect e loc job toil
  | _, _, _, _ => false

-- The target of the fight is out of range and not where the job leads.
def chasesAnew (w : World F) (e : Entity) : Bool :=
  match w.reg.location e, w.reg.combat e, w.reg.job e with
  | some loc, some combat, some job =>
      match (w.validTarget combat).bind w.reg.location with
      | some targetLoc =>
          lt combat.attackRange (hypot (targetLoc.x - loc.x) (targetLoc.z - loc.z)) &&
            (lt (lit 1.5) (Scalar.abs (job.targetX - targetLoc.x)) ||
              lt (lit 1.5) (Scalar.abs (job.targetZ - targetLoc.z)))
      | none => false
  | _, _, _ => false

-- The job has no target, so that the search for furniture picks one.
def lacksTarget (w : World F) (e : Entity) : Bool :=
  match w.reg.job e with
  | some job => !(job.targetLocation ≠ "" && (!Scalar.eq job.targetX zero || !Scalar.eq job.targetZ zero))
  | none => false

-- A leaf that starts here writes another target to the active job.
def steersAt (w : World F) (e : Entity) : SurvivalLeaf → Bool
  | .flee => w.isEmployed e && w.fleesAnew e
  | .meleeAttack => w.isEmployed e && w.chasesAnew e
  | .findFurniture => w.isEmployed e && w.lacksTarget e
  | _ => false

-- The job names a place whose coordinates are still to be looked up.
def isUnresolved (w : World F) (e : Entity) : Bool :=
  match w.reg.job e, w.reg.toil e with
  | some job, some toil => toil.state = .moving && job.targetLocation ≠ "" &&
      Scalar.eq job.targetX zero && Scalar.eq job.targetZ zero
  | _, _ => false

/-- The event writes another target to the active job of the entity. -/
def steers (w : World F) (n : Entity) : Event F → Bool
  | .behaviorTree e draw => e = n && (w.visitStarts e draw).any fun start =>
      start.state.steersAt e start.leaf
  | .pathfinding e _ _ => e = n && w.isEmployed e && w.isUnresolved e
  | _ => false

-- The need has fallen below the threshold, and no crisis is being resolved.
def entersCrisis (w : World F) (e : Entity) (crisis : Crisis F) : Bool :=
  match w.reg.needs e with
  | some needs => !needs.isResolvingSurvival && lt (crisis.level needs) (lit 15)
  | none => false

def preemptsAt (w : World F) (e : Entity) : SurvivalLeaf → Bool
  | .isHungry => w.entersCrisis e hungerCrisis
  | .isFatigued => w.entersCrisis e fatigueCrisis
  | _ => false

-- The event gives the entity another job: a payload, or the local job of a crisis.
def replaces (w : World F) (n : Entity) : Event F → Bool
  | .behaviorTree e draw => e = n && (w.visitStarts e draw).any fun start =>
      start.state.preemptsAt e start.leaf
  | event => decide (n ∈ w.jobTargets event)

theorem flee_continues (draw : BehaviorDraw) (status : NodeStatus)
    (steady : (w.isEmployed e && w.fleesAnew e) = false)
    (ran : w.actionFlee e draw = some (status, w')) : Continues e w w' := by
  obtain ⟨loc, combat, job, toil, located, armed, employed, active, flees⟩ := flee_cases ran
  cases flees with
  | aimless => exact .refl w
  | redirects target dest aimed redirected =>
      -- The job that is redirected is not active.
      have idle : job.isActive = false := by
        simpa [isEmployed, fleesAnew, located, armed, employed, active, aimed, redirected] using steady
      refine .of_over _ (by simp [setJob, clearPath, setToil, setActivity]; rfl) ?_
      exact idle
  | runs => exact .refl w

theorem meleeAttack_continues (status : NodeStatus)
    (steady : (w.isEmployed e && w.chasesAnew e) = false)
    (ran : w.actionMeleeAttack e = some (status, w')) : Continues e w w' := by
  obtain ⟨loc, combat, job, toil, located, armed, employed, -, attacks⟩ := meleeAttack_cases ran
  have standing : (w.standAndFight e toil).reg.job = w.reg.job := by
    unfold standAndFight
    split <;> rfl
  cases attacks with
  | aimless => exact .refl w
  | chases target targetLoc name aimed targetLocated far =>
      unfold chase
      split
      next away =>
        have idle : job.isActive = false := by
          simpa [isEmployed, chasesAnew, located, armed, employed, aimed, targetLocated, far, away]
            using steady
        refine .of_over _ (by simp [setJob, clearPath, setToil, setActivity]; rfl) ?_
        exact idle
      next => exact .refl w
  | waits => exact .of_job (congrFun standing e)
  | strikes target targetLoc identity targetIdentity health aimed targetLocated near ready hurt struck =>
      have body := strike_body _ w' e e target combat identity targetIdentity health struck
      refine .of_job (Eq.trans ?_ (congrFun standing e))
      split at body <;> exact congrArg Body.job body

theorem findFurniture_continues (draw : BehaviorDraw) (status : NodeStatus)
    (steady : (w.isEmployed e && w.lacksTarget e) = false)
    (ran : w.actionFindFurniture e draw = some (status, w')) : Continues e w w' := by
  obtain ⟨-, needs, job, loc, toil, -, employed, -, -, searches⟩ := findFurniture_cases ran
  have aimed (aimless : (job.targetLocation ≠ "" &&
      (!Scalar.eq job.targetX zero || !Scalar.eq job.targetZ zero)) = false) (m : World F)
      (place : LocationComp F) : Continues e w (m.aimJob e job toil place) := by
    have idle : job.isActive = false := by
      cases active : job.isActive with
      | false => rfl
      | true =>
          have lacks : w.lacksTarget e = true := by
            simp only [lacksTarget, employed, Bool.not_eq_true']
            exact aimless
          simp [isEmployed, employed, active, lacks] at steady
    refine .of_over _ (by simp [aimJob, setJob, setToil]; rfl) ?_
    exact idle
  cases searches with
  | keeps => exact .refl w
  | aims dist place aimless => exact aimed aimless w place
  | camps name type aimless => exact aimed aimless _ loc
  | stays aimless => exact aimed aimless w loc

theorem inCrisis_continues (crisis : Crisis F) (status : NodeStatus)
    (unreplaced : w.entersCrisis e crisis = false)
    (ran : w.conditionInCrisis crisis e = some (status, w')) : Continues e w w' := by
  obtain ⟨needs, needful, checks⟩ := inCrisis_cases ran
  cases checks with
  | ongoing => exact .refl w
  | enters identity job calm low => simp [entersCrisis, needful, calm, low] at unreplaced
  | spared => exact .refl w

omit [Scalar F] in
theorem isScheduled_continues (crisis : Crisis F) (status : NodeStatus)
    (ran : w.conditionIsScheduled crisis e = some (status, w')) : Continues e w w' := by
  obtain ⟨needs, -, checks⟩ := isScheduled_cases ran
  cases checks <;> exact .of_job rfl

theorem moveToTarget_continues (status : NodeStatus)
    (ran : w.actionMoveToTarget e = some (status, w')) : Continues e w w' := by
  obtain ⟨loc, job, toil, -, -, -, travels⟩ := moveToTarget_cases ran
  cases travels <;> exact .of_job rfl

omit [Scalar F] in
theorem occupyFurniture_job (needs : NeedsComp F) (loc : LocationComp F) (toil : ToilComp)
    (f : Entity) (occupied : w.occupyFurniture e needs loc toil f = some w') :
    w'.reg.job e = w.reg.job e := by
  obtain ⟨aff, place, -, -, rfl⟩ := occupyFurniture_eq occupied
  rfl

theorem interactFurniture_continues (valid : w.reg.valid e = true) (draw : BehaviorDraw)
    (status : NodeStatus) (ran : w.actionInteractFurniture e draw = some (status, w')) : Continues e w w' := by
  obtain ⟨needs, loc, toil, job, identity, -, acted⟩ := interactFurniture_cases ran
  cases acted with
  | settles seeks settled =>
      cases settled with
      | seat f found taken => exact .of_job (occupyFurniture_job needs loc toil f taken)
      | camp name type full wild suits taken =>
          have within := w.spawnCamp_within e e ⟨[], [.handles, .grid]⟩ loc name type valid (by simp)
            (by simp)
          have camped : (w.spawnCamp loc name type).reg.job e = w.reg.job e := within.same .job rfl
          exact .of_job ((occupyFurniture_job needs loc toil _ taken).trans camped)
      | floor => exact .of_job rfl
  | recharges => exact .of_job rfl
  | resolves =>
      -- A crisis that ends takes the job with it.
      exact .of_over { job with isActive := false } (by simp [setActivity, setToil, setJob]) rfl

theorem wander_continues (draw : BehaviorDraw) (status : NodeStatus)
    (ran : w.actionWander e draw = some (status, w')) : Continues e w w' := by
  obtain ⟨loc, job, toil, -, employed, -, wanders⟩ := wander_cases ran
  cases wanders with
  | walks | halts | yields => exact .refl w
  | lingers => exact .of_job rfl
  | ends =>
      intro order held
      simpa [errand, setJob, setToil, setActivity, employed, JobComp.errand] using held
  | rests => exact .of_job rfl
  | setsOut => exact .of_over _ (by simp [setJob, clearPath, setToil, setActivity]; rfl) rfl

theorem runLeaf_continues (valid : w.reg.valid e = true) (draw : BehaviorDraw)
    (leaf : SurvivalLeaf) (status : NodeStatus) (steady : w.steersAt e leaf = false) (unreplaced : w.preemptsAt e leaf = false)
    (ran : runLeaf e draw leaf w = some (status, w')) : Continues e w w' := by
  have apart (searches : leaf ≠ .findFurniture) (interacts : leaf ≠ .interactFurniture)
      (free : leaf.scope.covers .job = false) : Continues e w w' :=
    .of_job ((runLeaf_apart_within e e draw leaf status w w' searches interacts ran).same .job free)
  cases leaf with
  | flee => exact flee_continues draw status steady ran
  | meleeAttack => exact meleeAttack_continues status steady ran
  | isHungry => exact inCrisis_continues hungerCrisis status unreplaced ran
  | isFatigued => exact inCrisis_continues fatigueCrisis status unreplaced ran
  | isScheduledEat => exact isScheduled_continues hungerCrisis status ran
  | isScheduledSleep => exact isScheduled_continues fatigueCrisis status ran
  | findFurniture => exact findFurniture_continues draw status steady ran
  | moveToTarget => exact moveToTarget_continues status ran
  | interactFurniture => exact interactFurniture_continues valid draw status ran
  | wander => exact wander_continues draw status ran
  | hasCombatTarget | isLowHealth | isAggroHigh | inhibitOrAttack | canWander =>
      exact apart (by simp) (by simp) rfl

theorem jobDriver_continues (driven : w.jobDriver n = some w') : Continues n w w' := by
  refine jobDriver_preserves (Continues n w) (fun {m _} write before => before.trans ?_) driven (.refl w)
  cases write with
  | equip =>
      intro order held
      unfold errand at held ⊢
      cases employed : m.reg.job n with
      | none => simp [setJob, jobOrDefault, employed, JobComp.initial] at held
      | some job => simpa [setJob, jobOrDefault, employed] using held
  | finish job =>
      -- A job that is done is no longer active.
      exact .of_over { job with isActive := false } (by simp [setJob]) rfl
  | wait _ tagged =>
      obtain ⟨-, _, rfl⟩ := setBusy_cases tagged
      exact .of_job rfl
  | toil | activity | refill | report => exact .of_job rfl

theorem Seeks.job {searches spent : Nat} {choice : PathChoice F}
    (seeks : w.Seeks e searches choice w' spent) :
    w'.reg.job e = w.reg.job e ∨ ∃ old toil, w.reg.job e = some old ∧ w.reg.toil e = some toil ∧
      toil.state = .moving ∧ w'.reg.job e = some (w.resolveTarget old choice) := by
  have aimed {loc : LocationComp F} {job : JobComp F} {path : PathfindingComp F}
      (aim : w.aim e choice = some (loc, job, path)) (written : w'.reg.job e = some job) :
      ∃ old toil, w.reg.job e = some old ∧ w.reg.toil e = some toil ∧ toil.state = .moving ∧
        w'.reg.job e = some (w.resolveTarget old choice) := by
    obtain ⟨-, ⟨toil, active, moving⟩, ⟨old, employed, resolved⟩, -⟩ := w.aim_some e choice loc job path aim
    exact ⟨old, toil, employed, active, moving, by rw [written, resolved]⟩
  cases seeks with
  | unaimed => exact .inl rfl
  | sighted loc job path aim =>
      exact .inr (aimed aim (by simp [seekDirectly, startWalking, setPathfinding, setVelocity, setJob]))
  | kept loc job path aim => exact .inr (aimed aim (by simp [setPathfinding, setJob]))
  | postponed loc job path aim => exact .inr (aimed aim (by simp [setPathfinding, setJob]))
  | searched loc job path toil result map aim =>
      refine .inr (aimed aim ?_)
      have followed (m : World F) (path : PathfindingComp F) :
          (m.followResult e toil loc path result).reg.job = m.reg.job := by
        unfold followResult
        dsimp only
        repeat' split
        all_goals rfl
      rw [followed]
      simp [setJob]

theorem pathfinding_continues (searches spent : Nat) (choice : PathChoice F)
    (steady : (w.isEmployed e && w.isUnresolved e) = false)
    (visited : w.pathfinding e searches choice = some (w', spent)) : Continues e w w' := by
  rcases (w.pathfinding_seeks e searches spent choice w' visited).job with
    same | ⟨old, toil, employed, active, moving, written⟩
  · exact .of_job same
  · by_cases aimless : (decide (old.targetLocation ≠ "") && Scalar.eq old.targetX zero &&
        Scalar.eq old.targetZ zero) = true
    next =>
      have idle : old.isActive = false := by
        cases runs : old.isActive with
        | false => rfl
        | true => simp_all [isEmployed, isUnresolved]
      refine .of_over _ written ?_
      unfold resolveTarget
      rw [if_pos aimless]
      exact idle
    next =>
      refine .of_job ?_
      rw [written, employed, resolveTarget, if_neg aimless]

theorem step_continues (event : Event F) (resident : w.Resident n)
    (unreplaced : w.replaces n event = false) (steady : w.steers n event = false)
    (stepped : step event w = some w') : Continues n w w' := by
  have within := resident_step_within event w w' n resident stepped
  have apart (free : event.scope.covers .job = false) : Continues n w w' :=
    .of_job (within.same .job free)
  have others (other : n ≠ event.actor)
      (free : (Scope.mk [] event.scope.all).covers .job = false) : Continues n w w' :=
    .of_job ((within.others other).same .job free)
  cases event with
  | drainTask draws =>
      rcases w.drainTask_treats w' n draws stepped with ⟨-, kept⟩ | ⟨targeted, -⟩
      · exact .of_job kept.job
      · simp [replaces, targeted] at unreplaced
  | command cmd => cases cmd <;> exact apart rfl
  | jobDriver e =>
      by_cases own : n = e
      next =>
        subst own
        exact jobDriver_continues stepped
      next => exact others own rfl
  | pathfinding e searches choice =>
      by_cases own : n = e
      next =>
        subst own
        obtain ⟨⟨m, spent⟩, visited, rfl⟩ := Option.map_eq_some_iff.mp stepped
        exact pathfinding_continues searches spent choice (by simpa [steers] using steady) visited
      next => exact others own rfl
  | behaviorTree e draw =>
      by_cases own : n = e
      next =>
        subst own
        have kept := World.behaviorTree_kept n draw
          (fun m => Continues n w m ∧ m.Resident n)
          (fun leaf m => m.steersAt n leaf = false ∧ m.preemptsAt n leaf = false)
          (fun m here _ => here.2)
          (fun leaf m status m' here _ guard ran =>
            ⟨here.1.trans (runLeaf_continues here.2.valid draw leaf status guard.1 guard.2 ran),
              runLeaf_resident n draw leaf m status m' here.2 ran⟩)
          w w' ⟨.refl w, resident⟩ stepped fun start member => ?_
        · exact kept.1
        · simp only [steers, replaces, decide_true, Bool.true_and, List.any_eq_false] at steady unreplaced
          exact ⟨by simpa using steady start member, by simpa using unreplaced start member⟩
      next => exact others own rfl
  | _ => exact apart rfl

end World

/-- The transition `t` gives the NPC a combat target; it has one until the last of the later steps. -/
structure Episode (n : Entity) (later : List (Transition (World F) (Event F)))
    (t : Transition (World F) (Event F)) (w : World F) : Prop where
  peaceful : t.before.hasCombatTarget n = false
  fights : later ≠ [] ∧ ∀ u ∈ later, u.before.hasCombatTarget n = true
  ends : w.hasCombatTarget n = false

section

variable [Scalar F]

theorem run_continues {m w : World F} {later : List (Transition (World F) (Event F))} {n : Entity}
    (run : ServerRun m later w) (resident : m.Resident n)
    (unreplaced : ∀ u ∈ later, u.before.replaces n u.event = false)
    (steady : ∀ u ∈ later, u.before.steers n u.event = false) : World.Continues n m w := by
  have both : World.Continues n m w ∧ w.Resident n := by
    refine @Run.invariant _ _ _ _ _ _
      (fun m event => m.replaces n event = false ∧ m.steers n event = false)
      (fun w : World F => World.Continues n m w ∧ w.Resident n) ⟨.refl m, resident⟩ ?_ run
      fun u member => ⟨unreplaced u member, steady u member⟩
    intro w event w' here guard stepped
    exact ⟨here.1.trans (World.step_continues event here.2 guard.1 guard.2 stepped),
      step_resident event w w' n here.2 stepped⟩
  exact both.1

/-- A fight or flight keeps the errand of a job that stays active, as long as none of its steps
steers by the job. -/
theorem episode_keeps_errand (data : WorldBootstrapData F) (settings : SimulationSettings F)
    (obstacles : Option (List Obstacle)) (draws : Nat → NeedsDraw F) (start w : World F)
    (later earlier : List (Transition (World F) (Event F))) (t : Transition (World F) (Event F))
    (booted : bootstrap data settings obstacles draws = some start)
    (run : ServerRun start (later ++ t :: earlier) w) (n : Entity)
    (npc : t.before.isNpc n = true) (_episode : Episode n later t w)
    (unreplaced : ∀ u ∈ later ++ [t], u.before.replaces n u.event = false)
    (steady : ∀ u ∈ later ++ [t], u.before.steers n u.event = false) :
    World.KeepsErrand n t.before w := by
  have split : later ++ t :: earlier = (later ++ [t]) ++ earlier := by simp
  rw [split] at run
  obtain ⟨middle, before, episode⟩ := run.split (later ++ [t])
  have begins : middle = t.before := by
    obtain ⟨next, first, -⟩ := episode.split later
    cases first with
    | next rested _ =>
        cases rested
        rfl
  subst begins
  have staffed := reachable_staffed data settings obstacles draws start _ earlier booted before
  exact (run_continues episode (staffed.staged n npc).resident unreplaced steady).keeps

end

-- Ten wolves next to Ella, one of them with a job, in the order of the frames: all look around, all
-- attack twice, and the first wolf catches up and strikes the last blow.
def packAttacks (npcId : UInt32) : List (Event ℚ) :=
  [.requestJobs, .respond 0 (.jobs true [⟨npcId, 1, "숲", 50, 0, 0, "순찰", 0, 1, 0⟩]),
    .drainTask fun _ => ⟨0, 0⟩] ++
  ((List.range 10).map fun n => .perception (n + 1)) ++
  ((List.range 10).map fun n => .behaviorTree (n + 1) ⟨id, fun _ => 0⟩) ++
  ((List.range 10).map fun n => .behaviorTree (n + 1) ⟨id, fun _ => 0⟩) ++
  [.pathfinding 1 0 ⟨⟨0, 0⟩, GridMap.leastFirst⟩, .movement 1, .behaviorTree 1 ⟨id, fun _ => 0⟩]

def endsEpisode (n : Entity) (past : List (Transition (World ℚ) (Event ℚ))) (w : World ℚ) : Bool :=
  match past.drop 22 with
  | t :: _ => !t.before.hasCombatTarget n && t.before.isNpc n && !(past.take 22).isEmpty &&
      (past.take 22).all (fun u => u.before.hasCombatTarget n) && !w.hasCombatTarget n &&
      (past.take 22 ++ [t]).all fun u => !u.before.replaces n u.event
  | [] => false

theorem episode_of_check (n : Entity) (past : List (Transition (World ℚ) (Event ℚ))) (w : World ℚ)
    (checked : endsEpisode n past w = true) : ∃ t earlier, past = past.take 22 ++ t :: earlier ∧
      t.before.isNpc n = true ∧ Episode n (past.take 22) t w ∧
      ∀ u ∈ past.take 22 ++ [t], u.before.replaces n u.event = false := by
  unfold endsEpisode at checked
  split at checked
  next t earlier rest =>
    simp only [Bool.and_eq_true, Bool.not_eq_true', List.all_eq_true] at checked
    obtain ⟨⟨⟨⟨⟨peaceful, npc⟩, some⟩, fights⟩, ends⟩, unreplaced⟩ := checked
    refine ⟨t, earlier, ?_, npc, ⟨peaceful, ⟨by simpa using some, fights⟩, ends⟩, unreplaced⟩
    rw [← rest, List.take_append_drop]
  next => cases checked

-- The first wolf chases Ella, and its job leads to the square from then on.
theorem chase_changes_errand : ∃ w later earlier t, ServerRun pack (later ++ t :: earlier) w ∧
    (later ++ t :: earlier).reverse.map (·.event) = packAttacks 8 ∧ t.before.isNpc 1 = true ∧
    Episode 1 later t w ∧ (∀ u ∈ later ++ [t], u.before.replaces 1 u.event = false) ∧
    ¬World.KeepsErrand 1 t.before w := by
  have passed : (record step (packAttacks 8) [] pack).any (fun kept =>
      endsEpisode 1 kept.1 kept.2 && kept.2.errand 1 = some ⟨1, "광장", 3, 0⟩ &&
        (kept.1.drop 22).head?.all fun t => t.before.errand 1 = some ⟨1, "숲", 50, 0⟩) = true := by
    decide +kernel
  obtain ⟨past, w, run, events, checked⟩ := Run.exists_of_record _
    (fun past (w : World ℚ) => endsEpisode 1 past w && w.errand 1 = some ⟨1, "광장", 3, 0⟩ &&
      (past.drop 22).head?.all fun t => t.before.errand 1 = some ⟨1, "숲", 50, 0⟩) passed
  simp only [Bool.and_eq_true, decide_eq_true_eq] at checked
  obtain ⟨⟨hunts, after⟩, before⟩ := checked
  obtain ⟨t, earlier, shape, npc, episode, unreplaced⟩ := episode_of_check 1 past w hunts
  have first : t.before.errand 1 = some ⟨1, "숲", 50, 0⟩ := by
    rw [shape] at before
    have long : (past.take 22).length = 22 := by
      have bound : past.length = 36 := by
        have counted := congrArg List.length events
        simpa [packAttacks] using counted
      simp [bound]
    rw [List.drop_left' long] at before
    simpa using before
  rw [shape] at run events
  refine ⟨w, _, earlier, t, run, events, npc, episode, unreplaced, fun keeps => ?_⟩
  have same := keeps _ _ first after rfl
  simp at same

-- The second wolf stands next to Ella and never has to move.
theorem episode_keeps_errand_pack : ∃ w later earlier t,
    ServerRun pack (later ++ t :: earlier) w ∧ Episode 2 later t w ∧
    t.before.errand 2 = some ⟨1, "숲", 50, 0⟩ ∧ World.KeepsErrand 2 t.before w := by
  have passed : (record step (packAttacks 9 ++ [.behaviorTree 2 ⟨id, fun _ => 0⟩]) [] pack).any
      (fun kept => endsEpisode 2 kept.1 kept.2 &&
        (kept.1.take 23).all fun u => !u.before.steers 2 u.event &&
          u.before.errand 2 = some ⟨1, "숲", 50, 0⟩) = true := by decide +kernel
  obtain ⟨past, w, run, events, checked⟩ := Run.exists_of_record _
    (fun past (w : World ℚ) => endsEpisode 2 past w &&
      (past.take 23).all fun u => !u.before.steers 2 u.event &&
        u.before.errand 2 = some ⟨1, "숲", 50, 0⟩) passed
  simp only [Bool.and_eq_true, List.all_eq_true, Bool.not_eq_true', decide_eq_true_eq] at checked
  obtain ⟨hunts, steady⟩ := checked
  obtain ⟨t, earlier, shape, npc, episode, unreplaced⟩ := episode_of_check 2 past w hunts
  have listed (u : Transition (World ℚ) (Event ℚ)) (member : u ∈ past.take 22 ++ [t]) :
      u ∈ past.take 23 := by
    have long : (past.take 22).length = 22 := by
      have bound : past.length = 37 := by
        have counted := congrArg List.length events
        simpa [packAttacks] using counted
      simp [bound]
    have newest : past.take 23 = past.take 22 ++ [t] := by
      conv_lhs => rw [shape]
      rw [List.take_append, long]
      simp
    rw [newest]
    exact member
  rw [shape] at run
  exact ⟨w, past.take 22, earlier, t, run, episode, (steady t (listed t (by simp))).2,
    episode_keeps_errand packData ⟨2, 60⟩ (some []) (fun _ => ⟨100, 100⟩) pack w (past.take 22)
      earlier t pack_boots run 2 npc episode unreplaced
      fun u member => (steady u (listed u member)).1⟩

end MundusVivens
