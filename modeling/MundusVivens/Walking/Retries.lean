import MundusVivens.Furniture.Crises
import MundusVivens.Walking.Search
import MundusVivens.World.Bootstrap

set_option autoImplicit false

/-!
# Retries

The start-up check of `ActionMoveToTarget` comes before its check for a failed search.
An NPC whose search failed is set in motion again, and the same search starts over.
-/

namespace MundusVivens

open Scalar BehaviorTree Runs

variable {F : Type} [Scalar F]

namespace World

variable {w w' : World F} {e : Entity}

def hasArrived (w : World F) (e : Entity) : Bool :=
  match w.reg.location e, w.reg.job e with
  | some loc, some job =>
      decide (loc.locationName = job.targetLocation) ||
        lt (hypot (job.targetX - loc.x) (job.targetZ - loc.z)) (lit 0.8)
  | _, _ => false

def destination (w : World F) (e : Entity) : Option (String × F × F) :=
  (w.reg.job e).map fun job => (job.targetLocation, job.targetX, job.targetZ)

-- The NPC counts as moving and has no path, so a search is due.
def SearchesAnew (w : World F) (e : Entity) : Prop :=
  (∃ toil, w.reg.toil e = some toil ∧ toil.state = .moving) ∧
    ∀ path, w.reg.pathfinding e = some path → path.waypoints = []

theorem moveToTarget_runs (status : NodeStatus)
    (ran : w.actionMoveToTarget e = some (status, w')) (away : w.hasArrived e = false) :
    status = .running ∧ w'.destination e = w.destination e ∧
      ((∃ toil, w.reg.toil e = some toil ∧ toil.state ≠ .moving) → w'.SearchesAnew e) := by
  obtain ⟨loc, job, toil, located, employed, toiling, travels⟩ := moveToTarget_cases ran
  simp only [hasArrived, located, employed, Bool.or_eq_false_iff, decide_eq_false_iff_not] at away
  cases travels with
  | arrives close =>
      rcases close with here | close
      · exact absurd here away.1
      · cases close.symm.trans away.2
  | setsOut =>
      refine ⟨rfl, rfl, fun _ => ⟨⟨{ toil with state := .moving }, ?_, rfl⟩, fun path stored => ?_⟩⟩
      · simp [clearPath, setActivity, setToil]
      · -- The path is cleared here, so that `SystemPathfinding` searches once more.
        have cleared : (w.reg.pathfinding e).map PathfindingComp.reset = some path := by
          simpa [clearPath, setActivity, setToil] using stored
        obtain ⟨old, -, rfl⟩ := Option.map_eq_some_iff.mp cleared
        rfl
  | walks away far moves =>
      refine ⟨rfl, rfl, fun standing => ?_⟩
      obtain ⟨again, there, stands⟩ := standing
      obtain rfl := Option.some.inj (toiling.symm.trans there)
      exact absurd moves stands

end World

theorem visitStarts_ran (e : Entity) (draw : BehaviorDraw) (w w' : World F)
    (visited : w.behaviorTree e draw = some w') :
    ∀ turn ∈ w.visitStarts e draw, ∃ status m', runLeaf e draw turn.leaf turn.state =
      some (status, m') := by
  unfold World.behaviorTree at visited
  unfold World.visitStarts
  split at visited
  next checked => simp [checked]
  next free =>
    rw [if_neg free]
    obtain ⟨⟨status, last⟩, ticked, rfl⟩ := Option.map_eq_some_iff.mp visited
    exact @tick_history _ _ (runLeaf e draw)
      (fun log _ => ∀ turn ∈ log, ∃ status m', runLeaf e draw turn.leaf turn.state =
        some (status, m')) (fun _ _ => True)
      (fun log leaf m status m' before _ ran turn member => by
        rcases List.mem_cons.mp member with rfl | earlier
        · exact ⟨status, m', ran⟩
        · exact before turn earlier)
      survivalTree w last status (by simp) ticked fun _ _ => trivial

/-- `SystemPathfinding` finds no path for an NPC in a crisis: it drops the NPC to `Idle`. -/
structure LosesPath (e : Entity) (t : Transition (World F) (Event F)) : Prop where
  searches : ∃ searches choice, t.event = .pathfinding e searches choice
  crisis : t.before.isResolving e = true
  moving : ∃ toil, t.before.reg.toil e = some toil ∧ toil.state = .moving
  idle : ∃ toil, t.after.reg.toil e = some toil ∧ toil.state = .idle
  pathless : ∃ path, t.after.reg.pathfinding e = some path ∧ path.waypoints = []

/-- The next tick of `ActionMoveToTarget` after a lost path, with the same target and still away
from it. -/
structure TriesAgain (e : Entity) (t : Transition (World F) (Event F))
    (between : List (Transition (World F) (Event F))) (u : Transition (World F) (Event F))
    (turn : Start SurvivalLeaf (World F)) : Prop where
  lost : LosesPath e t
  ticked : ∃ draw, u.event = .behaviorTree e draw ∧ turn ∈ u.before.visitStarts e draw
  moves : turn.leaf = .moveToTarget
  next : ∀ s ∈ between, ∀ draw, s.event = .behaviorTree e draw →
    ∀ other ∈ s.before.visitStarts e draw, other.leaf ≠ .moveToTarget
  target : turn.state.destination e = t.after.destination e
  away : turn.state.hasArrived e = false

/-- In every run the tick after a lost path returns `Running`, never `Failure`; an NPC that is still
idle is set in motion to the same target without a path, so that the search starts over. -/
theorem lost_path_is_retried (start w : World F) (e : Entity)
    (later between earlier : List (Transition (World F) (Event F)))
    (t u : Transition (World F) (Event F)) (turn : Start SurvivalLeaf (World F))
    (run : ServerRun start (later ++ u :: between ++ t :: earlier) w)
    (again : TriesAgain e t between u turn) :
    ∃ m', turn.state.actionMoveToTarget e = some (.running, m') ∧
      m'.destination e = t.after.destination e ∧
      ((∃ toil, turn.state.reg.toil e = some toil ∧ toil.state = .idle) → m'.SearchesAnew e) := by
  obtain ⟨draw, visit, member⟩ := again.ticked
  obtain ⟨-, -, -, -, stepped⟩ := run.taken u (by simp)
  rw [visit] at stepped
  obtain ⟨status, m', ran⟩ := visitStarts_ran e draw u.before u.after stepped turn member
  rw [again.moves] at ran
  have moved : turn.state.actionMoveToTarget e = some (status, m') := ran
  obtain ⟨rfl, aims, anew⟩ := World.moveToTarget_runs status moved again.away
  refine ⟨m', moved, aims.trans again.target, fun idle => anew ?_⟩
  obtain ⟨toil, toiling, stands⟩ := idle
  exact ⟨toil, toiling, by simp [stands]⟩

-- Hungry Ella near two friends; the mine is inside the rock.
def mineData : WorldBootstrapData ℚ :=
  { locations := [⟨"여관", 2004, 0, 2004, 1, 1, 1⟩]
    agents := [⟨7, "ella", "엘라", "Wilderness", 40, 0, 40, "평온", "대기", 1 / 2, []⟩,
      ⟨8, "bob", "밥", "Wilderness", 41, 0, 40, "평온", "대기", 1 / 2, []⟩,
      ⟨9, "carl", "칼", "Wilderness", 42, 0, 40, "평온", "대기", 1 / 2, []⟩]
    furniture := []
    npcSpeed := 2
    ticksPerGameHour := 60 }

def mine : World ℚ :=
  populate (emptyWorld mineData ⟨2, 60⟩ (some [⟨44, 40, 44, 40⟩])) mineData fun i =>
    if i = 0 then ⟨10, 100⟩ else ⟨100, 100⟩

def mineJob : JobPayload ℚ := ⟨7, 1, "폐광", 44, 0, 40, "채굴", 0, 1, 4⟩

-- Bob turns to Carl, who is first among his candidates, and nobody joins.
def bobAsksCarl : Event ℚ :=
  .socialInteraction [] ⟨fun _ => 1, fun i => if i = 2 then 0 else i + 1, 0, 0, 0, fun _ => 1⟩ 1

def tickElla : Event ℚ := .behaviorTree 0 ⟨id, fun _ => 0⟩

-- Ella camps, her friends send her to the mine, no path leads there, and she tries again.
def mission : List (Event ℚ) :=
  [.requestTick 60, .respond 0 (.tick true []), .drainTask fun _ => ⟨0, 0⟩, .syncTick, bobAsksCarl,
    tickElla, .respond 1 (.dialogue true ⟨"", [], [mineJob], [], true⟩),
    .drainTask fun _ => ⟨0, 0⟩, tickElla, .pathfinding 0 0 ⟨⟨0, 0⟩, GridMap.leastFirst⟩, tickElla]

def losesAndRetries : List (Transition (World ℚ) (Event ℚ)) → Bool
  | u :: t :: s :: _ =>
      s.after.isResolving 0 && (s.after.reg.toil 0).any (·.state = .moving) &&
        (t.after.reg.toil 0).any (·.state = .idle) &&
        (t.after.reg.pathfinding 0).any (·.waypoints.isEmpty) &&
        (u.before.visitStarts 0 ⟨id, fun _ => 0⟩).any fun turn =>
          turn.leaf = .moveToTarget && decide (turn.state.destination 0 = t.after.destination 0) &&
            !turn.state.hasArrived 0 &&
            (turn.state.actionMoveToTarget 0).any (·.1 = .running)
  | _ => false

theorem mission_retries : ∃ earlier t u turn last,
    ServerRun mine ([] ++ u :: [] ++ t :: earlier) last ∧
      (u :: t :: earlier).reverse.map (·.event) = mission ∧ TriesAgain 0 t [] u turn ∧
      (turn.state.actionMoveToTarget 0).map (·.1) = some .running := by
  have passed : (record step mission [] mine).any (fun kept => losesAndRetries kept.1) = true := by
    decide +kernel
  obtain ⟨past, last, run, events, checked⟩ := Run.exists_of_record _
    (fun past (_ : World ℚ) => losesAndRetries past) passed
  match past, run, events, checked with
  | u :: t :: s :: earlier, run, events, checked =>
    have linked : s.after = t.before := by
      cases run with
      | next run _ =>
        cases run with
        | next run _ => exact run.newest_after
    simp only [losesAndRetries, linked, Bool.and_eq_true, List.any_eq_true, decide_eq_true_eq,
      Bool.not_eq_true', Option.any_eq_true] at checked
    obtain ⟨⟨⟨⟨crisis, ⟨toil, toiling, moving⟩⟩, ⟨still, stays, idle⟩⟩, path, stored, pathless⟩, turn, member,
      ⟨⟨leaf, target⟩, away⟩, ⟨status, m'⟩, ran, running⟩ := checked
    obtain ⟨visit, search⟩ : u.event = tickElla ∧
        t.event = .pathfinding 0 0 ⟨⟨0, 0⟩, GridMap.leastFirst⟩ := by
      have order := congrArg List.reverse events
      simp [mission] at order
      exact ⟨order.1, order.2.1⟩
    refine ⟨s :: earlier, t, u, turn, last, run, events, ?_, by simpa [ran] using running⟩
    exact ⟨⟨⟨_, _, search⟩, crisis, ⟨toil, toiling, moving⟩, ⟨still, stays, idle⟩,
      ⟨path, stored, by simpa using pathless⟩⟩, ⟨_, visit, member⟩, leaf, by simp, target, away⟩

theorem lost_path_is_retried_mine : ∃ earlier t u turn last m',
    ServerRun mine (u :: t :: earlier) last ∧ TriesAgain 0 t [] u turn ∧
      turn.state.actionMoveToTarget 0 = some (.running, m') ∧
      m'.destination 0 = t.after.destination 0 := by
  obtain ⟨earlier, t, u, turn, last, run, -, again, -⟩ := mission_retries
  obtain ⟨m', ran, aims, -⟩ := lost_path_is_retried mine last 0 [] [] earlier t u turn run again
  exact ⟨earlier, t, u, turn, last, m', run, again, ran, aims⟩

-- The node does not report that no path leads to the mine.
theorem lost_path_is_not_reported : ∃ earlier t u turn last,
    ServerRun mine (u :: t :: earlier) last ∧
      (u :: t :: earlier).reverse.map (·.event) = mission ∧ TriesAgain 0 t [] u turn ∧
      (turn.state.actionMoveToTarget 0).map (·.1) ≠ some .failure := by
  obtain ⟨earlier, t, u, turn, last, run, events, again, running⟩ := mission_retries
  exact ⟨earlier, t, u, turn, last, run, events, again, by simp [running]⟩

end MundusVivens
