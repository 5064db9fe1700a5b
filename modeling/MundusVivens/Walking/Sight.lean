import MundusVivens.Shared.Reals
import MundusVivens.Walking.Visits
import MundusVivens.World.Bootstrap

set_option autoImplicit false

/-!
# Direct seek

`SystemMovement` takes an empty path for a target in sight. It is empty as well
when the searches of the frame are spent, so an NPC whose search is postponed
walks straight at a target it cannot see, unless it stands still.
-/

namespace MundusVivens

open Scalar

section

variable {F : Type} [Scalar F]

-- The line of sight to the target is blocked and there is no path: a search is due.
def World.needsSearch (w : World F) (choice : Entity → PathChoice F) (e : Entity) : Bool :=
  match w.aim e (choice e) with
  | none => false
  | some (loc, job, path) =>
      path.waypoints.isEmpty && w.map.isPathBlocked loc.x loc.z job.targetX job.targetZ = some true

-- `SystemPathfinding` finds the target in sight.
def World.seesTarget (w : World F) (choice : Entity → PathChoice F) (e : Entity) : Prop :=
  ∃ loc job path, w.aim e (choice e) = some (loc, job, path) ∧
    w.map.isPathBlocked loc.x loc.z job.targetX job.targetZ = some false

variable {w w' mid : World F} {e : Entity} {choice : Entity → PathChoice F}

theorem needsSearch_congr (body : w'.body e = w.body e) (obstacles : w'.map.grid = w.map.grid)
    (coords : w'.map.locationCoords = w.map.locationCoords) :
    w'.needsSearch choice e = w.needsSearch choice e := by
  unfold World.needsSearch
  rw [w.aim_congr e w' (choice e) body coords, GridMap.isPathBlocked_congr obstacles]

theorem seesTarget_congr (body : w'.body e = w.body e) (obstacles : w'.map.grid = w.map.grid)
    (coords : w'.map.locationCoords = w.map.locationCoords) :
    w'.seesTarget choice e ↔ w.seesTarget choice e := by
  unfold World.seesTarget
  rw [w.aim_congr e w' (choice e) body coords, GridMap.isPathBlocked_congr obstacles]

omit [Scalar F] in
theorem position_congr (body : w'.body e = w.body e) : w'.position e = w.position e := by
  have located : w'.reg.location e = w.reg.location e := congrArg Body.location body
  unfold World.position
  rw [located]

theorem World.Seeks.spent {searches spent : Nat}
    (seeks : w.Seeks e searches (choice e) w' spent) (budget : searches ≤ maxPathfindsPerTick) :
    spent = min maxPathfindsPerTick (searches + if w.needsSearch choice e then 1 else 0) := by
  cases seeks with
  | unaimed nowhere =>
      have idle : w.needsSearch choice e = false := by simp [World.needsSearch, nowhere]
      simp [idle, budget]
  | sighted loc job path aimed clear =>
      have idle : w.needsSearch choice e = false := by simp [World.needsSearch, aimed, clear]
      simp [idle, budget]
  | kept loc job path aimed blocked walking =>
      have idle : w.needsSearch choice e = false := by simp [World.needsSearch, aimed, walking]
      simp [idle, budget]
  | postponed loc job path aimed blocked pathless full =>
      omega
  | searched loc job path toil result map aimed hasToil blocked pathless left found =>
      have due : w.needsSearch choice e = true := by
        simp [World.needsSearch, aimed, blocked, pathless]
      simp only [due, if_true]
      omega

theorem pathfindingPass_others (entities : List Entity) (searches : Nat) (w mid : World F)
    (passed : pathfindingPass choice entities searches w = some mid) :
    (∀ x, x ∉ entities → mid.body x = w.body x) ∧ mid.map.grid = w.map.grid ∧
      mid.map.locationCoords = w.map.locationCoords ∧ mid.reg.valid = w.reg.valid ∧
      mid.reg.nextEntity = w.reg.nextEntity ∧ mid.reg.identity = w.reg.identity := by
  induction entities generalizing searches w with
  | nil =>
      obtain rfl : w = mid := by simpa [pathfindingPass] using passed
      exact ⟨fun _ _ => rfl, rfl, rfl, rfl, rfl, rfl⟩
  | cons y rest ih =>
      rw [pathfindingPass] at passed
      split at passed
      next => cases passed
      next next spent visited =>
        have walks := (w.pathfinding_seeks y searches spent (choice y) next visited).walks
        obtain ⟨others, grid, coords, valid, handles, ids⟩ := ih spent next passed
        refine ⟨fun x outside => ?_, grid.trans walks.obstacles, coords.trans walks.coords,
          valid.trans walks.valid, handles.trans walks.nextEntity, ids.trans walks.identity⟩
        obtain ⟨other, unvisited⟩ := not_or.mp (List.mem_cons.not.mp outside)
        exact (others x unvisited).trans (walks.others x other)

-- The visit of one entity in the pass: it is found as the pass began, and left as the pass ends,
-- and the searches made before are those that were due.
theorem pathfindingPass_visit (entities : List Entity) (searches : Nat) (w mid : World F)
    (passed : pathfindingPass choice entities searches w = some mid) (distinct : entities.Nodup)
    (budget : searches ≤ maxPathfindsPerTick) (before after : List Entity)
    (split : entities = before ++ e :: after) :
    ∃ (m m' : World F) (spent : Nat), m.body e = w.body e ∧ m.map.grid = w.map.grid ∧
      m.map.locationCoords = w.map.locationCoords ∧ m'.body e = mid.body e ∧
      m.pathfinding e (min maxPathfindsPerTick (searches + before.countP (w.needsSearch choice)))
        (choice e) = some (m', spent) := by
  induction before generalizing entities searches w with
  | nil =>
      subst split
      rw [List.nil_append, pathfindingPass] at passed
      split at passed
      next => cases passed
      next next spent visited =>
        obtain ⟨others, -⟩ := pathfindingPass_others after spent next mid passed
        have unvisited : e ∉ after := (List.nodup_cons.mp distinct).1
        refine ⟨w, next, spent, rfl, rfl, rfl, (others e unvisited).symm, ?_⟩
        simpa [budget] using visited
  | cons y before ih =>
      subst split
      rw [List.cons_append, pathfindingPass] at passed
      split at passed
      next => cases passed
      next next spent visited =>
        have seeks := w.pathfinding_seeks y searches spent (choice y) next visited
        have walks := seeks.walks
        have counted := seeks.spent budget
        obtain ⟨fresh, rest⟩ := List.nodup_cons.mp distinct
        have other (x : Entity) (member : x ∈ before ++ e :: after) : x ≠ y := by
          rintro rfl
          exact fresh member
        have within : spent ≤ maxPathfindsPerTick := by omega
        obtain ⟨m, m', last, body, grid, coords, left, reached⟩ := ih (before ++ e :: after) spent
          next passed rest within rfl
        have same : before.countP (next.needsSearch choice) =
            before.countP (w.needsSearch choice) := by
          refine List.countP_congr fun x member => ?_
          have apart := other x (List.mem_append_left _ member)
          rw [needsSearch_congr (walks.others x apart) walks.obstacles walks.coords]
        refine ⟨m, m', last, body.trans (walks.others e (other e (by simp))),
          grid.trans walks.obstacles, coords.trans walks.coords, left, ?_⟩
        rw [same] at reached
        rw [List.countP_cons, ← reached]
        congr 1
        omega

theorem needsSearch_iff {loc : LocationComp F} {job : JobComp F} {path : PathfindingComp F}
    (aimed : w.aim e (choice e) = some (loc, job, path)) :
    w.needsSearch choice e = true ↔ path.waypoints = [] ∧
      w.map.isPathBlocked loc.x loc.z job.targetX job.targetZ = some true := by
  simp [World.needsSearch, aimed]

-- Whose target is hidden keeps its path, unless it has none and may search.
theorem World.Seeks.unsearched {searches spent : Nat} {loc : LocationComp F} {job : JobComp F}
    {path : PathfindingComp F} (seeks : w.Seeks e searches (choice e) w' spent)
    (aimed : w.aim e (choice e) = some (loc, job, path))
    (blocked : w.map.isPathBlocked loc.x loc.z job.targetX job.targetZ = some true)
    (held : path.waypoints ≠ [] ∨ maxPathfindsPerTick ≤ searches) :
    w'.body e = { w.body e with job := some job, pathfinding := some path } := by
  cases seeks with
  | unaimed nowhere => simp [aimed] at nowhere
  | sighted _ _ _ aimed' clear =>
      obtain ⟨rfl, rfl, rfl⟩ := by simpa [aimed] using aimed'
      simp [blocked] at clear
  | kept _ _ _ aimed' =>
      obtain ⟨rfl, rfl, rfl⟩ := by simpa [aimed] using aimed'
      simp [World.body_setPathfinding, World.body_setJob]
  | postponed _ _ _ aimed' =>
      obtain ⟨rfl, rfl, rfl⟩ := by simpa [aimed] using aimed'
      simp [World.body_setPathfinding, World.body_setJob]
  | searched _ _ _ _ _ _ aimed' _ _ pathless room =>
      obtain ⟨rfl, rfl, rfl⟩ := by simpa [aimed] using aimed'
      rcases held with walking | full
      · exact absurd pathless walking
      · omega

theorem pathfindingPass_unsearched (entities : List Entity) (w mid : World F)
    (passed : pathfindingPass choice entities 0 w = some mid) (distinct : entities.Nodup)
    (before after : List Entity) (split : entities = before ++ e :: after) {loc : LocationComp F}
    {job : JobComp F} {path : PathfindingComp F} (aimed : w.aim e (choice e) = some (loc, job, path))
    (blocked : w.map.isPathBlocked loc.x loc.z job.targetX job.targetZ = some true)
    (held : path.waypoints ≠ [] ∨ maxPathfindsPerTick ≤ before.countP (w.needsSearch choice)) :
    mid.body e = { w.body e with job := some job, pathfinding := some path } := by
  obtain ⟨m, m', spent, body, grid, coords, left, visited⟩ :=
    pathfindingPass_visit entities 0 w mid passed distinct (Nat.zero_le _) before after split
  have here : m.aim e (choice e) = some (loc, job, path) :=
    (w.aim_congr e m _ body coords).trans aimed
  have hidden : m.map.isPathBlocked loc.x loc.z job.targetX job.targetZ = some true := by
    rw [GridMap.isPathBlocked_congr grid]
    exact blocked
  have own := (m.pathfinding_seeks e _ _ _ m' visited).unsearched here hidden
    (held.imp_right fun full => by omega)
  rw [← left, own, body]

-- Whoever has a job and a path once the paths are looked for was visited then.
theorem pathfindingPass_mover {rank rank' : Entity → Nat} {mid : World F}
    (passed : pathfindingPass choice (w.view rank fun e => (w.reg.job e).isSome) 0 w = some mid)
    (walks : e ∈ mid.view rank' fun e => (mid.reg.pathfinding e).isSome)
    (jobbed : (mid.reg.job e).isSome = true) :
    ∃ before after, (w.view rank fun e => (w.reg.job e).isSome) = before ++ e :: after := by
  refine List.append_of_mem ?_
  by_contra outside
  obtain ⟨others, -, -, valid, handles, -⟩ := pathfindingPass_others _ 0 w mid passed
  have untouched : mid.reg.job e = w.reg.job e := congrArg Body.job (others e outside)
  obtain ⟨early, present, -⟩ := (mem_view mid _ _ e).mp walks
  exact outside ((mem_view w _ _ e).mpr ⟨handles ▸ early, valid ▸ present, untouched ▸ jobbed⟩)

-- `SystemMovement` takes the entity for one that sees its target.
def World.seeksDirectly (w : World F) (e : Entity) : Prop :=
  (∃ toil, w.reg.toil e = some toil ∧ toil.state = .moving) ∧
    ∃ path, w.reg.pathfinding e = some path ∧ path.waypoints = []

theorem World.Seeks.direct {searches spent : Nat}
    (seeks : w.Seeks e searches (choice e) w' spent) (direct : w'.seeksDirectly e)
    (hasJob : (w'.reg.job e).isSome) (located : (w'.reg.location e).isSome) :
    w.seesTarget choice e ∨ ∃ loc job path, w.aim e (choice e) = some (loc, job, path) ∧
      w.needsSearch choice e = true ∧ maxPathfindsPerTick ≤ searches ∧
      w'.body e = { w.body e with job := some job, pathfinding := some path } := by
  obtain ⟨⟨toil, hasToil, moving⟩, walked, hasPath, empty⟩ := direct
  cases seeks with
  | unaimed nowhere =>
      obtain ⟨job, jobbed⟩ := Option.isSome_iff_exists.mp hasJob
      obtain ⟨loc, there⟩ := Option.isSome_iff_exists.mp located
      simp [World.aim, jobbed, there, hasToil, moving] at nowhere
  | sighted loc job path aimed clear => exact .inl ⟨loc, job, path, aimed, clear⟩
  | kept loc job path aimed blocked walking =>
      obtain rfl := by simpa [World.setPathfinding] using hasPath
      exact absurd empty walking
  | postponed loc job path aimed blocked pathless full =>
      refine .inr ⟨loc, job, path, aimed, ?_, full, ?_⟩
      · simp [World.needsSearch, aimed, blocked, pathless]
      · simp [World.body_setPathfinding, World.body_setJob]
  | searched loc job path toil' result map aimed hasToil' blocked pathless left found =>
      rcases followResult_own ({ w.setJob e job with map := map } : World F) e toil' loc
          { path with lastTargetX := job.targetX, lastTargetZ := job.targetZ } result with
        ⟨given, velocity, -, own⟩ | ⟨taken, velocity, filled, waypoints, -, -, -, -, own⟩
      · have idle : some { toil' with state := .idle } = some toil :=
          (congrArg Body.toil own).symm.trans hasToil
        rw [← Option.some.inj idle] at moving
        cases moving
      · have kept : some taken = some walked := (congrArg Body.pathfinding own).symm.trans hasPath
        rw [← Option.some.inj kept, waypoints] at empty
        exact absurd empty filled

end

theorem avoidObstacle_unit (w : World ℝ) (loc : LocationComp ℝ) (ux uz : ℝ) (s : ℝ × ℝ)
    (unit : ux * ux + uz * uz = 1) (avoided : w.avoidObstacle loc ux uz = some s) : s.1 * s.1 + s.2 * s.2 = 1 := by
  unfold World.avoidObstacle at avoided
  simp only [Option.bind_eq_bind, Option.bind_eq_some_iff] at avoided
  obtain ⟨ahead, -, avoided⟩ := avoided
  cases ahead with
  | false =>
      obtain rfl := by simpa using avoided
      exact unit
  | true =>
      simp only [Bool.not_true, Bool.false_eq_true, if_false, Option.bind_eq_some_iff] at avoided
      obtain ⟨left, -, right, -, avoided⟩ := avoided
      have turned (px pz : ℝ) (across : px = -uz ∧ pz = ux ∨ px = uz ∧ pz = -ux)
          (result : some (if lt (lit 0.001) (hypot (ux + px * lit 0.7) (uz + pz * lit 0.7)) = true then
            ((ux + px * lit 0.7) / hypot (ux + px * lit 0.7) (uz + pz * lit 0.7),
              (uz + pz * lit 0.7) / hypot (ux + px * lit 0.7) (uz + pz * lit 0.7))
            else (ux + px * lit 0.7, uz + pz * lit 0.7)) = some s) :
          s.1 * s.1 + s.2 * s.2 = 1 := by
        have square : (ux + px * lit 0.7) * (ux + px * lit 0.7) +
            (uz + pz * lit 0.7) * (uz + pz * lit 0.7) = (1.49 : ℝ) := by
          rcases across with ⟨rfl, rfl⟩ | ⟨rfl, rfl⟩ <;>
          · rw [lit_real]
            push_cast
            linear_combination 1.49 * unit
        have longer : (lit 0.001 : ℝ) < hypot (ux + px * lit 0.7) (uz + pz * lit 0.7) := by
          rw [hypot_real, square, lit_real]
          exact Real.lt_sqrt_of_sq_lt (by norm_num)
        rw [if_pos ((lt_real _ _).mpr longer)] at result
        obtain rfl := Option.some.inj result
        exact unit_real _ _ (lt_trans (by rw [lit_real]; norm_num) longer)
      cases left with
      | false => exact turned (-uz) ux (.inl ⟨rfl, rfl⟩) avoided
      | true =>
          cases right with
          | false => exact turned (- -uz) (-ux) (.inr ⟨neg_neg uz, rfl⟩) avoided
          | true => exact turned (-uz) ux (.inl ⟨rfl, rfl⟩) avoided

/-- Direct seek would displace the entity: it is close to a target it does not stand on, or far
from one and not at rest. -/
def Restless (loc : LocationComp ℝ) (job : JobComp ℝ) (vel : VelocityComp ℝ) : Prop :=
  if World.distanceTo loc job < 0.8 then (job.targetX, job.targetZ) ≠ (loc.x, loc.z)
  else vel.speed ≠ 0

theorem seek_displaces {m m' : World ℝ} {e : Entity} {loc : LocationComp ℝ} {toil : ToilComp}
    {path : PathfindingComp ℝ} {vel : VelocityComp ℝ} {job : JobComp ℝ}
    (strides : m.Strides e m') (walker : m.Walker e loc toil path vel job)
    (moving : toil.state = .moving) (empty : path.waypoints = []) :
    m'.position e ≠ m.position e ↔ Restless loc job vel := by
  have here : m.position e = some (loc.x, loc.z) := by simp [World.position, walker.location]
  rw [here]
  unfold Restless
  cases strides with
  | unready missing => exact absurd walker (missing loc toil path vel job)
  | resting _ toil' _ _ _ walker' still =>
      obtain rfl := Option.some.inj (walker.toil.symm.trans walker'.toil)
      exact absurd moving still
  | reached loc' toil' path' vel' job' walker' _ _ near _ arrived =>
      obtain rfl := Option.some.inj (walker.location.symm.trans walker'.location)
      obtain rfl := Option.some.inj (walker.job.symm.trans walker'.job)
      obtain ⟨-, -, stands, -⟩ := m.arrive_own e _ _ _ _ m' arrived
      have close : World.distanceTo loc job < 0.8 := by
        have near' := (lt_real _ _).mp near
        rw [lit_real] at near'
        push_cast at near'
        exact near'
      rw [stands, if_pos close]
      exact not_congr Option.some_inj
  | steered loc' toil' path' vel' job' walker' _ _ far steer avoided =>
      obtain rfl := Option.some.inj (walker.location.symm.trans walker'.location)
      obtain rfl := Option.some.inj (walker.job.symm.trans walker'.job)
      obtain rfl := Option.some.inj (walker.velocity.symm.trans walker'.velocity)
      have distant : ¬World.distanceTo loc job < 0.8 := by
        intro near
        have near' : lt (World.distanceTo loc job) (lit 0.8) = true := by
          rw [lt_real, lit_real]
          push_cast
          exact near
        rw [far] at near'
        cases near'
      have unit : steer.1 * steer.1 + steer.2 * steer.2 = 1 := by
        refine avoidObstacle_unit m loc _ _ steer (unit_real _ _ ?_) avoided
        have apart : (0.8 : ℝ) ≤ World.distanceTo loc job := not_lt.mp distant
        exact lt_of_lt_of_le (by norm_num) apart
      have there := World.updateEntityPosition_position
        (m.setVelocity e { vel with dirX := steer.1, dirZ := steer.2 }) e
        (loc.x + steer.1 * (vel.speed * World.frameTime))
        (loc.z + steer.2 * (vel.speed * World.frameTime)) loc walker.location
      rw [there, if_neg distant]
      have step : (World.frameTime : ℝ) ≠ 0 := by
        rw [World.frameTime, lit_real]
        norm_num
      constructor
      · intro displaced halted
        apply displaced
        simp [halted]
      · intro runs same
        obtain ⟨alongX, alongZ⟩ := Prod.mk.inj (Option.some.inj same)
        have still (s p : ℝ) (stays : p + s * (vel.speed * World.frameTime) = p) : s = 0 := by
          have product : s * (vel.speed * World.frameTime) = 0 := by linarith
          rcases mul_eq_zero.mp product with zero | zero
          · exact zero
          · exact absurd zero (mul_ne_zero runs step)
        rw [still _ _ alongX, still _ _ alongZ] at unit
        simp at unit
  | finished _ _ path' _ _ walker' _ walking =>
      obtain rfl := Option.some.inj (walker.path.symm.trans walker'.path)
      exact absurd empty walking
  | cutShort _ _ path' _ _ walker' _ walking =>
      obtain rfl := Option.some.inj (walker.path.symm.trans walker'.path)
      exact absurd empty walking
  | followed _ _ path' _ _ walker' _ target ahead =>
      obtain rfl := Option.some.inj (walker.path.symm.trans walker'.path)
      simp [empty] at ahead

section

variable {F : Type} [Scalar F]

-- The two passes of a frame: the paths are looked for, then everybody moves.
def walk (input : FrameInput F) (w : World F) : Option (World F × World F) := do
  let movers := w.view (input.rank .pathfinding) fun e => (w.reg.job e).isSome
  let mid ← pathfindingPass input.path movers 0 w
  let last ← pass (input.rank .movement) (fun w e => (w.reg.pathfinding e).isSome) .movement mid
  some (mid, last)

def Event.seeks : Event F → Bool
  | .pathfinding .. => true
  | _ => false

def Event.strides : Event F → Bool
  | .movement _ => true
  | _ => false

theorem walk_by {input : FrameInput F} {w mid last : World F}
    (walked : walk input w = some (mid, last)) :
    ReachesBy Event.seeks w mid ∧ ReachesBy Event.strides mid last := by
  simp only [walk, Option.bind_eq_bind, Option.bind_eq_some_iff, Option.some.injEq,
    Prod.mk.injEq] at walked
  obtain ⟨mid, searched, last, moved, rfl, rfl⟩ := walked
  exact ⟨.of_pathfindingPass _ _ (fun _ _ => rfl) 0 searched, .of_pass _ _ _ (fun _ => rfl) moved⟩

theorem physics_walks (input : FrameInput F) (w last : World F)
    (moved : physics input w = some last) : ∃ before mid, walk input before = some (mid, last) := by
  simp only [physics, Option.bind_eq_bind, Option.bind_eq_some_iff] at moved
  obtain ⟨w₁, -, w₂, -, w₃, -, w₄, -, w₅, -, mid, searched, walked⟩ := moved
  refine ⟨w₅, mid, ?_⟩
  simp [walk, searched, walked]

end

/-- The entity is visited after the searches of the frame are spent, sees no target, has no path
left, and is not at rest. -/
def SeeksBlindly (input : FrameInput ℝ) (w : World ℝ) (e : Entity) : Prop :=
  (∃ before after, w.view (input.rank .pathfinding) (fun e => (w.reg.job e).isSome) =
      before ++ e :: after ∧
    maxPathfindsPerTick ≤ before.countP (w.needsSearch input.path)) ∧
  w.needsSearch input.path e = true ∧ (w.reg.identity e).isSome ∧
  ∃ loc job path vel, w.aim e (input.path e) = some (loc, job, path) ∧
    w.reg.velocity e = some vel ∧ Restless loc job vel

section

variable {input : FrameInput ℝ} {w mid last : World ℝ} {e : Entity} {loc : LocationComp ℝ}
  {toil : ToilComp} {path : PathfindingComp ℝ} {vel : VelocityComp ℝ} {job : JobComp ℝ}

theorem World.Strides.walker {m m' : World ℝ} (strides : m.Strides e m')
    (displaced : m'.position e ≠ m.position e) :
    ∃ loc toil path vel job, m.Walker e loc toil path vel job := by
  cases strides with
  | unready => exact absurd rfl displaced
  | resting loc toil path vel job walker => exact ⟨loc, toil, path, vel, job, walker⟩
  | reached loc toil path vel job walker => exact ⟨loc, toil, path, vel, job, walker⟩
  | steered loc toil path vel job walker => exact ⟨loc, toil, path, vel, job, walker⟩
  | finished loc toil path vel job walker => exact ⟨loc, toil, path, vel, job, walker⟩
  | cutShort loc toil path vel job walker => exact ⟨loc, toil, path, vel, job, walker⟩
  | followed loc toil path vel job walker => exact ⟨loc, toil, path, vel, job, walker⟩

theorem movementPass_walker {rank : Entity → Nat}
    (moved : pass rank (fun w e => (w.reg.pathfinding e).isSome) .movement mid = some last)
    (displaced : last.position e ≠ mid.position e) :
    (e ∈ mid.view rank fun e => (mid.reg.pathfinding e).isSome) ∧
      ∃ loc toil path vel job, mid.Walker e loc toil path vel job := by
  obtain ⟨unmoved, visits⟩ := movementPass_visit _ mid last moved (view_nodup mid _ _)
  have member : e ∈ mid.view rank fun e => (mid.reg.pathfinding e).isSome := by
    by_contra outside
    exact displaced (position_congr (unmoved e outside))
  obtain ⟨m, m', same, ids, stepped, after⟩ := visits e member
  rw [position_congr after, ← position_congr same] at displaced
  obtain ⟨loc, toil, path, vel, job, walker⟩ := (m.movement_strides e m' stepped).walker displaced
  exact ⟨member, loc, toil, path, vel, job, walker.congr same.symm (congrFun ids e).symm⟩

theorem movementPass_displaces {rank : Entity → Nat}
    (moved : pass rank (fun w e => (w.reg.pathfinding e).isSome) .movement mid = some last)
    (member : e ∈ mid.view rank fun e => (mid.reg.pathfinding e).isSome)
    (walker : mid.Walker e loc toil path vel job) (moving : toil.state = .moving)
    (empty : path.waypoints = []) :
    last.position e ≠ mid.position e ↔ Restless loc job vel := by
  obtain ⟨-, visits⟩ := movementPass_visit _ mid last moved (view_nodup mid _ _)
  obtain ⟨m, m', same, ids, stepped, after⟩ := visits e member
  rw [position_congr after, ← position_congr same]
  exact seek_displaces (m.movement_strides e m' stepped) (walker.congr same (congrFun ids e))
    moving empty

-- Its search is postponed: it is left to walk without a path.
theorem SeeksBlindly.walks (blind : SeeksBlindly input w e)
    (searched : pathfindingPass input.path (w.view (input.rank .pathfinding) fun e =>
      (w.reg.job e).isSome) 0 w = some mid) :
    (e ∈ mid.view (input.rank .movement) fun e => (mid.reg.pathfinding e).isSome) ∧
      ∃ loc toil path vel job, mid.Walker e loc toil path vel job ∧ toil.state = .moving ∧
        path.waypoints = [] ∧ Restless loc job vel := by
  obtain ⟨⟨before, after, split, full⟩, due, identified, loc, job, path, vel, aimed, velocity,
    restless⟩ := blind
  obtain ⟨pathless, blocked⟩ := (needsSearch_iff aimed).mp due
  have waits := pathfindingPass_unsearched _ w mid searched (view_nodup w _ _) before after split
    aimed blocked (.inr full)
  obtain ⟨-, -, -, valid, handles, ids⟩ := pathfindingPass_others _ 0 w mid searched
  obtain ⟨located, ⟨toil, hasToil, moving⟩, -, -⟩ := w.aim_some e _ loc job path aimed
  have walker : mid.Walker e loc toil path vel job :=
    ⟨(congrArg Body.location waits).trans located, (congrArg Body.toil waits).trans hasToil,
      congrArg Body.pathfinding waits, (congrArg Body.velocity waits).trans velocity,
      congrArg Body.job waits, ids ▸ identified⟩
  have mover : e ∈ w.view (input.rank .pathfinding) fun e => (w.reg.job e).isSome := by simp [split]
  obtain ⟨early, present, -⟩ := (mem_view w _ _ e).mp mover
  exact ⟨(mem_view mid _ _ e).mpr ⟨handles ▸ early, valid ▸ present, by simp [walker.path]⟩,
    loc, toil, path, vel, job, walker, moving, pathless, restless⟩

theorem pathfindingPass_direct
    (searched : pathfindingPass input.path (w.view (input.rank .pathfinding) fun e =>
      (w.reg.job e).isSome) 0 w = some mid)
    (member : e ∈ mid.view (input.rank .movement) fun e => (mid.reg.pathfinding e).isSome)
    (walker : mid.Walker e loc toil path vel job) (direct : mid.seeksDirectly e)
    (restless : Restless loc job vel) : w.seesTarget input.path e ∨ SeeksBlindly input w e := by
  obtain ⟨before, after, split⟩ :=
    pathfindingPass_mover searched member (by simp [walker.job])
  obtain ⟨m, m', spent, body, grid, coords, left, visited⟩ :=
    pathfindingPass_visit _ 0 w mid searched (view_nodup w _ _) (Nat.zero_le _) before after split
  have direct' : m'.seeksDirectly e := by
    obtain ⟨⟨toil, hasToil, moving⟩, path, hasPath, empty⟩ := direct
    exact ⟨⟨toil, (congrArg Body.toil left).trans hasToil, moving⟩, path,
      (congrArg Body.pathfinding left).trans hasPath, empty⟩
  have jobbed : m'.reg.job e = some job := (congrArg Body.job left).trans walker.job
  have stands : m'.reg.location e = some loc := (congrArg Body.location left).trans walker.location
  rcases (m.pathfinding_seeks e _ _ _ m' visited).direct direct' (by simp [jobbed])
    (by simp [stands]) with sees | ⟨loc', job', path', aimed, due, full, own⟩
  · exact .inl ((seesTarget_congr body grid coords).mp sees)
  · have aimed' : w.aim e (input.path e) = some (loc', job', path') :=
      (w.aim_congr e m _ body coords).symm.trans aimed
    rw [body] at own
    obtain ⟨located, -⟩ := w.aim_some e _ loc' job' path' aimed'
    obtain rfl : loc = loc' :=
      Option.some.inj (stands.symm.trans ((congrArg Body.location own).trans located))
    obtain rfl : job = job' := Option.some.inj (jobbed.symm.trans (congrArg Body.job own))
    have velocity : w.reg.velocity e = some vel :=
      (congrArg Body.velocity (own.symm.trans left)).trans walker.velocity
    obtain ⟨-, -, -, -, -, ids⟩ := pathfindingPass_others _ 0 w mid searched
    exact .inr ⟨⟨before, after, split, by omega⟩, needsSearch_congr body grid coords ▸ due,
      ids ▸ walker.identity, loc, job, path', vel, aimed', velocity, restless⟩

end

/-- In direct seek `SystemMovement` displaces only entities that `SystemPathfinding` saw to see
their target, exactly when nobody seeks blindly. -/
theorem seeks_in_sight_iff (input : FrameInput ℝ) (w mid last : World ℝ)
    (walked : walk input w = some (mid, last)) :
    (∀ e, mid.seeksDirectly e → last.position e ≠ mid.position e → w.seesTarget input.path e) ↔
      ∀ e, ¬SeeksBlindly input w e := by
  simp only [walk, Option.bind_eq_bind, Option.bind_eq_some_iff, Option.some.injEq,
    Prod.mk.injEq] at walked
  obtain ⟨mid, searched, last, moved, rfl, rfl⟩ := walked
  constructor
  · intro sees e blind
    obtain ⟨member, loc, toil, path, vel, job, walker, moving, empty, restless⟩ :=
      blind.walks searched
    have displaced := (movementPass_displaces moved member walker moving empty).mpr restless
    obtain ⟨loc, job, path, aimed, clear⟩ :=
      sees e ⟨⟨toil, walker.toil, moving⟩, path, walker.path, empty⟩ displaced
    have hidden := ((needsSearch_iff aimed).mp blind.2.1).2
    simp [clear] at hidden
  · intro nobody e direct displaced
    obtain ⟨member, loc, toil, path, vel, job, walker⟩ := movementPass_walker moved displaced
    obtain ⟨moving, empty⟩ : toil.state = .moving ∧ path.waypoints = [] := by
      obtain ⟨⟨toil', hasToil, moving⟩, path', hasPath, empty⟩ := direct
      obtain rfl := Option.some.inj (walker.toil.symm.trans hasToil)
      obtain rfl := Option.some.inj (walker.path.symm.trans hasPath)
      exact ⟨moving, empty⟩
    have restless := (movementPass_displaces moved member walker moving empty).mp displaced
    exact (pathfindingPass_direct searched member walker direct restless).resolve_right (nobody e)

structure Stroller (F : Type) where
  x : F
  z : F
  targetX : F
  targetZ : F

def strollers {F : Type} [Scalar F] (obstacles : List Obstacle) (people : List (Stroller F)) :
    World F :=
  { emptyWorld ⟨[], [], [], lit 2, 60⟩ ⟨lit 2, 60⟩ (some obstacles) with
    reg :=
      { Registry.empty with
        nextEntity := people.length
        valid := fun e => people[e]?.isSome
        identity := fun e => people[e]?.map fun _ => ⟨0, ""⟩
        activity := fun e => people[e]?.map fun _ => ⟨""⟩
        velocity := fun e => people[e]?.map fun _ => .initial
        toil := fun e => people[e]?.map fun _ => ⟨.moving, "", 0⟩
        location := fun e => people[e]?.map fun p => newLocation "" p.x zero p.z
        job := fun e => people[e]?.map fun p =>
          { JobComp.initial with targetX := p.targetX, targetZ := p.targetZ }
        issued := fun e bound => by simp [bound]
        owned := fun _ _ => ⟨rfl, rfl, rfl⟩ } }

-- A frame without commands, with every view in the order of the handles.
def plainFrame {F : Type} [Scalar F] : FrameInput F :=
  { rank := fun _ e => e
    draws := fun _ _ => ⟨zero, zero⟩
    commands := []
    decay := ⟨id, id, fun _ => zero⟩
    social := fun _ => ⟨fun _ => zero, id, zero, zero, zero, fun _ => zero⟩
    tree := fun _ => ⟨id, id⟩
    path := fun _ => ⟨⟨zero, zero⟩, GridMap.leastFirst⟩
    physicalTick := 0 }

-- One NPC a quarter of a unit before its target.
noncomputable def stroller : World ℝ :=
  strollers [] [⟨0, 0, 1 / 4, 0⟩]

theorem stroller_sees :
    stroller.map.isPathBlocked (0 : ℝ) (0 : ℝ) (1 / 4 : ℝ) (0 : ℝ) = some false := by
  have origin : (Scalar.round (0 : ℝ)) = 0 := by
    have rounded := round_lit_real 0
    rw [Rat.cast_zero] at rounded
    rw [rounded]
    decide +kernel
  have near : (Scalar.round (1 / 4 : ℝ)) = 0 := by
    have rounded := round_lit_real (1 / 4)
    push_cast at rounded
    rw [rounded]
    decide +kernel
  unfold GridMap.isPathBlocked GridMap.tileX GridMap.tileZ
  rw [origin, near]
  rfl

noncomputable def strollerJob : JobComp ℝ := { JobComp.initial with targetX := 1 / 4, targetZ := 0 }

theorem stroller_strolls : ∃ (mid last : World ℝ) (path : PathfindingComp ℝ) (vel : VelocityComp ℝ),
    stroller.pathfinding 0 0 ((plainFrame (F := ℝ)).path 0) = some (mid, 0) ∧
      mid.reg.valid = stroller.reg.valid ∧ mid.reg.nextEntity = stroller.reg.nextEntity ∧
      mid.Walker 0 (newLocation "" 0 zero 0) ⟨.moving, "", 0⟩ path vel strollerJob ∧
      path.waypoints = [] ∧ mid.movement 0 = some last ∧
      mid.arrive 0 (newLocation "" 0 zero 0) ⟨.moving, "", 0⟩ path strollerJob = some last := by
  have aimed : stroller.aim 0 ((plainFrame (F := ℝ)).path 0) = some (newLocation "" 0 zero 0,
      strollerJob, World.forgetMovedTarget .initial (1 / 4 : ℝ) 0) := rfl
  have sighted := World.pathfinding_sighted 0 aimed stroller_sees
  generalize mid_eq : (stroller.setJob 0 strollerJob).seekDirectly 0
    (World.forgetMovedTarget .initial (1 / 4 : ℝ) 0) strollerJob.targetX strollerJob.targetZ = mid
    at sighted
  obtain ⟨path, vel, walker, seeking⟩ : ∃ path vel,
      mid.Walker 0 (newLocation "" 0 zero 0) ⟨.moving, "", 0⟩ path vel strollerJob ∧
        path.waypoints = [] := by
    rw [← mid_eq]
    exact ⟨_, _, ⟨rfl, rfl, rfl, rfl, rfl, rfl⟩, rfl⟩
  have near : lt (World.distanceTo (newLocation "" (0 : ℝ) zero 0) strollerJob) (lit 0.8) = true := by
    rw [lt_real, World.distanceTo, hypot_lt_real _ _ _ (by norm_num)]
    norm_num [strollerJob, newLocation]
  obtain ⟨last, moved, arrived⟩ := World.movement_reached walker rfl seeking near
    (by rw [← mid_eq]; rfl)
  have walks := (stroller.pathfinding_seeks 0 0 0 _ mid sighted).walks
  exact ⟨mid, last, path, vel, sighted, walks.valid, walks.nextEntity, walker, seeking, moved,
    arrived⟩

theorem stroller_walks : ∃ mid last, walk plainFrame stroller = some (mid, last) := by
  obtain ⟨mid, last, path, vel, sighted, valid, handles, walker, -, moved, -⟩ := stroller_strolls
  have movers : stroller.view ((plainFrame (F := ℝ)).rank .pathfinding)
      (fun e => (stroller.reg.job e).isSome) = [0] := by
    simp [World.view, stroller, strollers]
  have walkers : mid.view ((plainFrame (F := ℝ)).rank .movement)
      (fun e => (mid.reg.pathfinding e).isSome) = [0] := by
    simp [World.view, handles, valid, walker.path, stroller, strollers]
  refine ⟨mid, last, ?_⟩
  simp [walk, movers, pathfindingPass, sighted, pass, walkers, Runs.follow, step, moved]

theorem seeks_in_sight_iff_stroller : ∃ mid last : World ℝ,
    walk plainFrame stroller = some (mid, last) ∧
      ((∀ e, mid.seeksDirectly e → last.position e ≠ mid.position e →
          stroller.seesTarget plainFrame.path e) ↔
        ∀ e, ¬SeeksBlindly plainFrame stroller e) := by
  obtain ⟨mid, last, walked⟩ := stroller_walks
  exact ⟨mid, last, walked, seeks_in_sight_iff plainFrame stroller mid last walked⟩

-- Eight NPCs whose target is inside a rock, and one behind a wall.
def crowd : World ℚ :=
  strollers [⟨3, 0, 3, 0⟩] (List.replicate 8 ⟨0, 0, 3, 0⟩ ++ [⟨0, 0, 5, 0⟩])

theorem direct_seek_blind : ∃ (input : FrameInput ℚ) (w mid last : World ℚ) (e : Entity),
    walk input w = some (mid, last) ∧ mid.seeksDirectly e ∧ last.position e ≠ mid.position e ∧
      ¬w.seesTarget input.path e := by
  have walked : (walk plainFrame crowd).any (fun passed =>
      (passed.1.reg.toil 8).any (·.state = .moving) &&
        (passed.1.reg.pathfinding 8).any (·.waypoints.isEmpty) &&
        passed.2.position 8 ≠ passed.1.position 8 && crowd.needsSearch plainFrame.path 8) = true := by
    decide +kernel
  obtain ⟨⟨mid, last⟩, walked, checked⟩ := (Option.any_eq_true _ _).mp walked
  simp only [Bool.and_eq_true, decide_eq_true_eq] at checked
  obtain ⟨⟨⟨toil, path⟩, displaced⟩, due⟩ := checked
  obtain ⟨toil, hasToil, moving⟩ := (Option.any_eq_true _ _).mp toil
  obtain ⟨path, hasPath, empty⟩ := (Option.any_eq_true _ _).mp path
  refine ⟨plainFrame, crowd, mid, last, 8, walked, ⟨⟨toil, hasToil, by simpa using moving⟩,
    path, hasPath, List.isEmpty_iff.mp empty⟩, displaced, ?_⟩
  rintro ⟨loc, job, path, aimed, clear⟩
  simp [World.needsSearch, aimed, clear] at due

end MundusVivens
