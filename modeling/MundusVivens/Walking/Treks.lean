import MundusVivens.Walking.Footing
import Mathlib.Analysis.Complex.Norm

set_option autoImplicit false

namespace MundusVivens

open Scalar Runs GridMap

theorem hypot_nonneg (x z : ℝ) : 0 ≤ hypot x z := Real.sqrt_nonneg _

theorem hypot_norm (x z : ℝ) : hypot x z = ‖(⟨x, z⟩ : ℂ)‖ := by
  rw [hypot_real, Complex.norm_def, Complex.normSq_mk]

theorem hypot_triangle (x z x' z' : ℝ) : hypot (x + x') (z + z') ≤ hypot x z + hypot x' z' := by
  simp only [hypot_norm]
  exact norm_add_le (⟨x, z⟩ : ℂ) ⟨x', z'⟩

theorem hypot_scale (s x z : ℝ) (nonneg : 0 ≤ s) : hypot (s * x) (s * z) = s * hypot x z := by
  have square : s * x * (s * x) + s * z * (s * z) = s ^ 2 * (x * x + z * z) := by ring
  rw [hypot_real, hypot_real, square, Real.sqrt_mul (sq_nonneg s), Real.sqrt_sq nonneg]

noncomputable def trek : ℝ → ℝ → List (GridVector2 ℝ) → ℝ
  | _, _, [] => 0
  | x, z, next :: rest => hypot (next.x - x) (next.z - z) + trek next.x next.z rest

theorem trek_nonneg (x z : ℝ) (waypoints : List (GridVector2 ℝ)) : 0 ≤ trek x z waypoints := by
  induction waypoints generalizing x z with
  | nil => exact le_refl 0
  | cons next rest ih => exact add_nonneg (hypot_nonneg _ _) (ih _ _)

theorem trek_shortcut (x z : ℝ) (next : GridVector2 ℝ) (rest : List (GridVector2 ℝ)) :
    trek x z rest ≤ trek x z (next :: rest) := by
  cases rest with
  | nil => exact trek_nonneg x z [next]
  | cons second rest =>
      have detour := hypot_triangle (next.x - x) (next.z - z) (second.x - next.x)
        (second.z - next.z)
      have whole : ∀ a b c : ℝ, b - a + (c - b) = c - a := fun a b c => by ring
      rw [whole, whole] at detour
      simp only [trek]
      linarith

theorem trek_step (x z stride : ℝ) (next : GridVector2 ℝ) (rest : List (GridVector2 ℝ))
    (apart : 0 < hypot (next.x - x) (next.z - z))
    (short : stride ≤ hypot (next.x - x) (next.z - z)) :
    trek (x + (next.x - x) / hypot (next.x - x) (next.z - z) * stride)
        (z + (next.z - z) / hypot (next.x - x) (next.z - z) * stride) (next :: rest) =
      trek x z (next :: rest) - stride := by
  let dist := hypot (next.x - x) (next.z - z)
  have share : 0 ≤ 1 - stride / dist := sub_nonneg.mpr ((div_le_one apart).mpr short)
  have left (a b : ℝ) : b - (a + (b - a) / dist * stride) = (1 - stride / dist) * (b - a) := by ring
  have covered : (1 - stride / dist) * dist = dist - stride := by
    rw [sub_mul, one_mul, div_mul_cancel₀ _ apart.ne']
  change hypot (next.x - (x + (next.x - x) / dist * stride))
      (next.z - (z + (next.z - z) / dist * stride)) + _ = dist + _ - stride
  rw [left, left, hypot_scale _ _ _ share, covered]
  ring

variable {w w' : World ℝ} {e : Entity} {stride left : ℝ}

-- A bound on the visits of `SystemMovement` until the path is used up: the strides of the way, and
-- one visit for each waypoint.
noncomputable def remaining (stride : ℝ) (loc : LocationComp ℝ) (path : PathfindingComp ℝ) : ℝ :=
  let ahead := path.waypoints.drop path.currentWaypointIndex
  trek loc.x loc.z ahead / stride + ahead.length

theorem remaining_nonneg (positive : 0 < stride) (loc : LocationComp ℝ)
    (path : PathfindingComp ℝ) : 0 ≤ remaining stride loc path :=
  add_nonneg (div_nonneg (trek_nonneg _ _ _) positive.le) (Nat.cast_nonneg _)

-- The entity follows a path with steps of this length, and this much of it is left.
def World.OnFoot (w : World ℝ) (e : Entity) (stride left : ℝ) : Prop :=
  ∃ loc toil path vel job, w.Walker e loc toil path vel job ∧ toil.state = .moving ∧
    path.waypoints ≠ [] ∧ vel.speed * World.frameTime = stride ∧ remaining stride loc path ≤ left

theorem remaining_ahead (loc : LocationComp ℝ) (path : PathfindingComp ℝ)
    (target : GridVector2 ℝ) (ahead : path.waypoints[path.currentWaypointIndex]? = some target) :
    remaining stride loc path =
      trek loc.x loc.z (target :: path.waypoints.drop (path.currentWaypointIndex + 1)) / stride +
        ((path.waypoints.drop (path.currentWaypointIndex + 1)).length + 1) := by
  obtain ⟨inside, at_target⟩ := List.getElem?_eq_some_iff.mp ahead
  have waypoints : path.waypoints.drop path.currentWaypointIndex =
      target :: path.waypoints.drop (path.currentWaypointIndex + 1) := by
    rw [List.drop_eq_getElem_cons inside, at_target]
  rw [remaining, waypoints, List.length_cons, Nat.cast_succ]

theorem followWaypoint_onFoot {loc : LocationComp ℝ} {toil : ToilComp} {path : PathfindingComp ℝ}
    {vel : VelocityComp ℝ} {job : JobComp ℝ} (walker : w.Walker e loc toil path vel job)
    (moving : toil.state = .moving) (target : GridVector2 ℝ)
    (ahead : path.waypoints[path.currentWaypointIndex]? = some target)
    (positive : 0 < vel.speed * World.frameTime)
    (most : remaining (vel.speed * World.frameTime) loc path ≤ left) :
    (w.followWaypoint e loc path vel target).OnFoot e (vel.speed * World.frameTime) (left - 1) := by
  let rest := path.waypoints.drop (path.currentWaypointIndex + 1)
  let stride := vel.speed * World.frameTime
  let dist : ℝ := hypot (target.x - loc.x) (target.z - loc.z)
  have walking : path.waypoints ≠ [] := by
    rintro empty
    simp [empty] at ahead
  rw [remaining_ahead loc path target ahead] at most
  -- The waypoint counts for one visit, so do the strides.
  have passes (x z : ℝ) (shorter : trek x z rest ≤ trek loc.x loc.z (target :: rest)) :
      trek x z rest / stride + rest.length ≤ left - 1 := by
    have strides := div_le_div_of_nonneg_right shorter positive.le
    linarith
  by_cases near : lt dist (lit 0.1) = true
  next =>
    exact ⟨loc, toil, path.passed, vel, job, walker.turns target near, moving, walking, rfl,
      passes loc.x loc.z (trek_shortcut _ _ _ _)⟩
  next =>
    have apart : 0 < dist := by
      have far := near
      rw [lt_real, not_lt] at far
      exact lt_of_lt_of_le (by norm_num) far
    by_cases close : le dist stride = true
    next =>
      obtain ⟨there, turned, speed, at_x, at_z, walks⟩ := walker.reaches target near close
      refine ⟨there, toil, path.passed, turned, job, walks, moving, walking, by rw [speed], ?_⟩
      change trek there.x there.z rest / stride + rest.length ≤ left - 1
      rw [at_x, at_z]
      exact passes _ _ (le_add_of_nonneg_left apart.le)
    next =>
      obtain ⟨there, turned, speed, at_x, at_z, walks⟩ := walker.strides target near close
      refine ⟨there, toil, path, turned, job, walks, moving, walking, by rw [speed], ?_⟩
      rw [le_real, not_le] at close
      have step := trek_step loc.x loc.z stride target rest apart close.le
      rw [remaining_ahead there path target ahead, at_x, at_z]
      change trek (loc.x + (target.x - loc.x) / dist * stride)
        (loc.z + (target.z - loc.z) / dist * stride) (target :: rest) / stride + _ ≤ left - 1
      rw [step, sub_div, div_self positive.ne']
      linarith

/-- The target stays where it was and out of sight, and nobody else sees to the walk. -/
def Unhindered (e : Entity) (w : World ℝ) : Stroll ℝ → Prop
  | .seek x _ choice => x = e → ∀ loc job path, w.aim e choice = some (loc, job, path) →
      w.reg.pathfinding e = some path ∧
        w.map.isPathBlocked loc.x loc.z job.targetX job.targetZ = some true
  | .move _ => True
  | .others job toil velocity cleared => job e = w.reg.job e ∧ toil e = w.reg.toil e ∧
      velocity e = w.reg.velocity e ∧ cleared e = false

/-- A visit that finds the path used up: the entity arrives, or a path that led only a part of the
way is dropped. -/
def UsesUp (t : Transition (World ℝ) (Stroll ℝ)) (e : Entity) : Prop :=
  ∃ path, t.before.reg.pathfinding e = some path ∧
    path.waypoints.length ≤ path.currentWaypointIndex ∧
    (Arrival t e ∧ (∃ job, t.before.reg.job e = some job ∧
        t.after.position e = some (job.targetX, job.targetZ)) ∨
      path.isPartial = true ∧ t.event = .move e ∧ t.after.reg.pathfinding e = some path.reset)

def Stroll.isMove (e : Entity) : Stroll ℝ → Bool
  | .move x => x == e
  | _ => false

theorem World.OnFoot.congr (onFoot : w.OnFoot e stride left) (body : w'.body e = w.body e)
    (identity : w'.reg.identity e = w.reg.identity e) : w'.OnFoot e stride left := by
  obtain ⟨loc, toil, path, vel, job, walker, rest⟩ := onFoot
  exact ⟨loc, toil, path, vel, job, walker.congr body identity, rest⟩

theorem finishPath_usesUp {loc : LocationComp ℝ} {toil : ToilComp} {path : PathfindingComp ℝ}
    {vel : VelocityComp ℝ} {job : JobComp ℝ} (walker : w.Walker e loc toil path vel job)
    (moving : toil.state = .moving) (used : path.waypoints.length ≤ path.currentWaypointIndex)
    (finished : w.finishPath e loc toil path job = some w') : UsesUp ⟨w, .move e, w'⟩ e := by
  refine ⟨path, walker.path, used, ?_⟩
  unfold World.finishPath at finished
  dsimp only at finished
  split at finished
  next =>
    obtain ⟨-, -, stands, works, -⟩ := w.arrive_own e loc toil path job w' finished
    exact .inl ⟨⟨rfl, ⟨toil, walker.toil, moving⟩, works⟩, job, walker.job, stands⟩
  next far =>
    obtain rfl := Option.some.inj finished
    have cutShort : path.isPartial = true := by simp_all
    exact .inr ⟨cutShort, rfl, by simp [World.setPathfinding]⟩

theorem movement_onFoot (onFoot : w.OnFoot e stride left) (positive : 0 < stride)
    (moved : w.movement e = some w') :
    w'.OnFoot e stride (left - 1) ∨ UsesUp ⟨w, .move e, w'⟩ e := by
  obtain ⟨loc, toil, path, vel, job, walker, moving, walking, rfl, most⟩ := onFoot
  cases ahead : path.waypoints[path.currentWaypointIndex]? with
  | none =>
      obtain ⟨name, identified⟩ := Option.isSome_iff_exists.mp walker.identity
      simp only [World.movement, walker.location, walker.toil, walker.path, walker.velocity,
        walker.job, identified, moving, if_true, List.isEmpty_iff, walking, if_false, ahead] at moved
      exact .inr (finishPath_usesUp walker moving (List.getElem?_eq_none_iff.mp ahead) moved)
  | some target =>
      obtain rfl := Option.some.inj ((walker.follows moving target ahead).symm.trans moved)
      exact .inl (followWaypoint_onFoot walker moving target ahead positive most)

theorem seek_onFoot {searches spent : Nat} {choice : PathChoice ℝ}
    (onFoot : w.OnFoot e stride left)
    (unhindered : ∀ loc job path, w.aim e choice = some (loc, job, path) →
      w.reg.pathfinding e = some path ∧
        w.map.isPathBlocked loc.x loc.z job.targetX job.targetZ = some true)
    (seeks : w.Seeks e searches choice w' spent) : w'.OnFoot e stride left := by
  have ahead := onFoot
  obtain ⟨loc, toil, path, vel, job, walker, moving, walking, speed, most⟩ := onFoot
  have pathful (found : PathfindingComp ℝ) (held : w.reg.pathfinding e = some found) :
      found.waypoints ≠ [] := by
    obtain rfl := Option.some.inj (walker.path.symm.trans held)
    exact walking
  cases seeks with
  | unaimed => exact ahead
  | sighted loc' job' path' aimed clear =>
      cases (unhindered _ _ _ aimed).2.symm.trans clear
  | kept loc' job' path' aimed =>
      obtain rfl := Option.some.inj (walker.path.symm.trans (unhindered _ _ _ aimed).1)
      refine ⟨loc, toil, path, vel, job', ⟨walker.location, walker.toil, ?_, walker.velocity, ?_,
        walker.identity⟩, moving, walking, speed, most⟩
      · simp [World.setPathfinding]
      · simp [World.setPathfinding, World.setJob]
  | postponed loc' job' path' aimed blocked pathless =>
      exact absurd pathless (pathful path' (unhindered _ _ _ aimed).1)
  | searched loc' job' path' toil' result map aimed hasToil blocked pathless =>
      exact absurd pathless (pathful path' (unhindered _ _ _ aimed).1)

theorem stroll_onFoot (event : Stroll ℝ) (onFoot : w.OnFoot e stride left) (positive : 0 < stride)
    (unhindered : Unhindered e w event) (strolled : stroll event w = some w') :
    w'.OnFoot e stride (left - if event.isMove e then 1 else 0) ∨ UsesUp ⟨w, event, w'⟩ e := by
  cases event with
  | seek x searches choice =>
      obtain ⟨⟨next, spent⟩, visited, rfl⟩ := Option.map_eq_some_iff.mp strolled
      have seeks := w.pathfinding_seeks x searches spent choice next visited
      simp only [Stroll.isMove, Bool.false_eq_true, if_false, sub_zero]
      by_cases self : x = e
      next =>
        subst self
        exact .inl (seek_onFoot onFoot (unhindered rfl) seeks)
      next =>
        exact .inl (onFoot.congr (seeks.walks.others e (Ne.symm self))
          (congrFun seeks.walks.identity e))
  | move x =>
      by_cases self : x = e
      next =>
        subst self
        simp only [Stroll.isMove, BEq.rfl, if_true]
        exact movement_onFoot onFoot positive strolled
      next =>
        have walks := (w.movement_strides x w' strolled).walks
        have other : (Stroll.move x).isMove e = false := by simp [Stroll.isMove, self]
        rw [other]
        simp only [Bool.false_eq_true, if_false, sub_zero]
        exact .inl (onFoot.congr (walks.others e (Ne.symm self)) (congrFun walks.identity e))
  | others job toil velocity cleared =>
      obtain rfl := Option.some.inj strolled
      obtain ⟨sameJob, sameToil, sameVelocity, uncleared⟩ := unhindered
      simp only [Stroll.isMove, Bool.false_eq_true, if_false, sub_zero]
      refine .inl (onFoot.congr ?_ rfl)
      simp [World.body, World.reassign, sameJob, sameToil, sameVelocity, uncleared]

/-- No path is followed forever: an NPC that walks at a positive speed, with its target out of sight
and nobody interfering, uses its path up within the strides of the way and one visit for each
waypoint. Then it is on its target, or the path was only a part of the way. -/
theorem paths_are_used_up (start last : World ℝ)
    (past : List (Transition (World ℝ) (Stroll ℝ))) (e : Entity) (loc : LocationComp ℝ)
    (toil : ToilComp) (path : PathfindingComp ℝ) (vel : VelocityComp ℝ) (job : JobComp ℝ)
    (walker : start.Walker e loc toil path vel job) (moving : toil.state = .moving)
    (walking : path.waypoints ≠ []) (forward : 0 < vel.speed)
    (run : Run stroll start past last) (unhindered : Guarded (Unhindered e) past)
    (long : remaining (vel.speed * World.frameTime) loc path <
      past.countP fun t => t.event.isMove e) :
    ∃ t ∈ past, UsesUp t e := by
  let stride := vel.speed * World.frameTime
  let bound := remaining stride loc path
  have positive : 0 < stride := by
    refine mul_pos forward ?_
    rw [World.frameTime, lit_real]
    norm_num
  have walks : (∃ t ∈ past, UsesUp t e) ∨
      last.OnFoot e stride (bound - past.countP fun t => t.event.isMove e) := by
    let property : List (Transition (World ℝ) (Stroll ℝ)) → World ℝ → Prop := fun past w =>
      (∃ t ∈ past, UsesUp t e) ∨
        w.OnFoot e stride (bound - past.countP fun t => t.event.isMove e)
    have begins : property [] start :=
      .inr ⟨loc, toil, path, vel, job, walker, moving, walking, rfl, by simp [bound, stride]⟩
    have kept (past : List (Transition (World ℝ) (Stroll ℝ))) (w : World ℝ) (event : Stroll ℝ)
        (w' : World ℝ) (_ : Run stroll start past w) (walks : property past w)
        (unhindered : Unhindered e w event) (strolled : stroll event w = some w') :
        property (⟨w, event, w'⟩ :: past) w' := by
      rcases walks with ⟨t, member, used⟩ | onFoot
      · exact .inl ⟨t, List.mem_cons_of_mem _ member, used⟩
      rcases stroll_onFoot event onFoot positive unhindered strolled with onFoot | used
      · refine .inr ?_
        rw [List.countP_cons]
        push_cast
        rwa [sub_add_eq_sub_sub]
      · exact .inl ⟨_, List.mem_cons_self, used⟩
    exact run.history begins kept unhindered
  rcases walks with used | ⟨there, toil', path', vel', job', -, -, -, -, most⟩
  · exact used
  · have nonneg := remaining_nonneg positive there path'
    linarith

section

variable {x : ℝ} {loc : LocationComp ℝ} {vel : VelocityComp ℝ} {job : JobComp ℝ}

theorem eastward_reaches (walker : w.Walker 0 loc ⟨.moving, "", 0⟩ eastward.passed vel job)
    (speed : vel.speed = 8) (at_x : loc.x = x) (at_z : loc.z = 0) (near : 3 / 5 ≤ x)
    (before : x ≤ 9 / 10) :
    ∃ w' there turned, stroll (.move 0) w = some w' ∧ w'.reg.activity = w.reg.activity ∧
      w'.Walker 0 there ⟨.moving, "", 0⟩ eastward.passed.passed turned job := by
  have distance := eastward_distance at_x at_z (by linarith)
  have moved := walker.follows rfl (waypoint (1, 0)) rfl
  obtain ⟨there, turned, -, -, -, walks⟩ := walker.reaches (waypoint (1, 0))
    (by rw [distance, lt_real, not_lt]; norm_num; linarith)
    (by rw [distance, speed, le_real]; norm_num [World.frameTime]; linarith)
  exact ⟨_, there, turned, moved, (followWaypoint_keeps _ _ _ _).2, walks⟩

theorem eastward_arrives (walker : w.Walker 0 loc ⟨.moving, "", 0⟩ eastward.passed.passed vel job)
    (shown : (w.reg.activity 0).isSome) : ∃ w', stroll (.move 0) w = some w' := by
  obtain ⟨name, identified⟩ := Option.isSome_iff_exists.mp walker.identity
  obtain ⟨activity, shown⟩ := Option.isSome_iff_exists.mp shown
  simp [stroll, step, World.movement, walker.location, walker.toil, walker.path, walker.velocity,
    walker.job, identified, World.finishPath, World.arrive, shown, eastward,
    PathfindingComp.passed, PathfindingComp.initial]

end

-- One visit for the tile underfoot, three for the way of one unit, and the one that arrives.
theorem paths_are_used_up_rambler : ∃ last past, Run stroll rambler past last ∧
    (past.map Transition.event) = List.replicate 5 (.move 0) ∧ ∃ t ∈ past, UsesUp t 0 := by
  obtain ⟨first, turned, -, shown, walker⟩ := rambler_turns
  obtain ⟨second, loc, vel, strode, -, kept, walker, speed, at_x, at_z⟩ :=
    eastward_strides (x := 0) walker ramble_speed rfl rfl (by norm_num)
  have shown := kept.trans shown
  obtain ⟨third, loc, vel, strode', -, kept, walker, speed, at_x, at_z⟩ :=
    eastward_strides walker speed at_x at_z (by norm_num)
  have shown := kept.trans shown
  obtain ⟨fourth, loc, vel, reached, kept, walker⟩ :=
    eastward_reaches walker speed at_x at_z (by norm_num) (by norm_num)
  have shown := kept.trans shown
  obtain ⟨last, arrived⟩ := eastward_arrives walker (by rw [shown]; rfl)
  have run := ((((Run.rest.next turned).next strode).next strode').next reached).next arrived
  have way : trek 0 0 [waypoint (0, 0), waypoint (1, 0)] = 1 := by
    simp [trek, hypot_real, waypoint, ofInt]
  refine ⟨last, _, run, rfl, paths_are_used_up rambler last _ 0 _ _ _ _ _ rambler_walker rfl
    (by simp [eastward]) (by norm_num [ramble_speed]) run (by simp [Unhindered]) ?_⟩
  have long : remaining (ramble.speed * World.frameTime) (newLocation "" 0 zero 0) eastward =
      9 / 2 := by
    rw [ramble_speed]
    change trek 0 0 [waypoint (0, 0), waypoint (1, 0)] / (8 * World.frameTime) + ((2 : Nat) : ℝ) = _
    rw [way]
    norm_num [World.frameTime]
  refine long.trans_lt ?_
  simp [Stroll.isMove]
  norm_num

end MundusVivens
