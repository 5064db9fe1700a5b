import MundusVivens.Accounts.Binding
import MundusVivens.Systems.Onlookers
import MundusVivens.Walking.Sight

set_option autoImplicit false

/-!
# Talkers

`SystemBusyAmbient` takes the velocity of an NPC that talks or thinks, but the
path finding of the same frame gives it a new one when the toil is `Moving` and
the target is in sight. Only the toil, or a path out of sight, keeps it in place.
-/

namespace MundusVivens

open Scalar BehaviorTree Runs

section

variable {F : Type}

-- Busy with a dialogue or a reflection.
def World.isPreoccupied (w : World F) (x : Entity) : Bool :=
  match w.reg.busy x with
  | some tag => tag.reason = .dialogue || tag.reason = .reflection
  | none => false

def World.Moving (w : World F) (x : Entity) : Prop :=
  ∃ toil, w.reg.toil x = some toil ∧ toil.state = .moving

def World.coordinates (w : World F) (x : Entity) : Option (F × F × F) :=
  (w.reg.location x).map fun loc => (loc.x, loc.y, loc.z)

variable [Scalar F]

def World.Halted (w : World F) (x : Entity) : Prop :=
  ∀ velocity, w.reg.velocity x = some velocity → velocity.speed = zero

-- While it stays busy the entity keeps its place, and on the move also its job, its path and its
-- rest.
structure StandsBy (x : Entity) (w w' : World F) : Prop where
  untagged : w.reg.busy x = none → w'.reg.busy x = none
  located : w'.reg.busy x ≠ none → w'.reg.location x = w.reg.location x
  underway : w'.reg.busy x ≠ none → w'.Moving x →
    w.Moving x ∧ w'.reg.job x = w.reg.job x ∧ w'.reg.pathfinding x = w.reg.pathfinding x
  halted : w'.reg.busy x ≠ none → w'.Moving x → w.Halted x → w'.Halted x
  map : w'.map = w.map

namespace StandsBy

variable {x : Entity} {w m w' : World F}

theorem of_body (same : w'.body x = w.body x) (map : w'.map = w.map) : StandsBy x w w' where
  untagged := fun free => (congrArg Body.busy same).trans free
  located := fun _ => congrArg Body.location same
  underway := by
    rintro - ⟨toil, active, moving⟩
    exact ⟨⟨toil, (congrArg Body.toil same).symm.trans active, moving⟩, congrArg Body.job same,
      congrArg Body.pathfinding same⟩
  halted := fun _ _ still velocity has =>
    still velocity ((congrArg Body.velocity same).symm.trans has)
  map := map

theorem refl (w : World F) : StandsBy x w w := .of_body rfl rfl

theorem of_free (free : w'.reg.busy x = none) (map : w'.map = w.map) : StandsBy x w w' where
  untagged := fun _ => free
  located := fun busy => absurd free busy
  underway := fun busy => absurd free busy
  halted := fun busy => absurd free busy
  map := map

theorem trans (first : StandsBy x w m) (second : StandsBy x m w') : StandsBy x w w' where
  untagged := fun free => second.untagged (first.untagged free)
  located := fun busy =>
    (second.located busy).trans (first.located fun free => busy (second.untagged free))
  underway := fun busy moving => by
    obtain ⟨moved, job, path⟩ := second.underway busy moving
    obtain ⟨began, job', path'⟩ := first.underway (fun free => busy (second.untagged free)) moved
    exact ⟨began, job.trans job', path.trans path'⟩
  halted := fun busy moving still => by
    have moved := (second.underway busy moving).1
    exact second.halted busy moving
      (first.halted (fun free => busy (second.untagged free)) moved still)
  map := second.map.trans first.map

theorem follow (events : List (Event F)) (w w' : World F)
    (each : ∀ event ∈ events, ∀ m m', step event m = some m' → StandsBy x m m')
    (followed : Runs.follow step events w = some w') : StandsBy x w w' := by
  induction events generalizing w with
  | nil =>
      obtain rfl := Option.some.inj followed
      exact .refl w
  | cons event rest ih =>
      simp only [Runs.follow, List.foldlM_cons, Option.bind_eq_bind, Option.bind_eq_some_iff]
        at followed
      obtain ⟨middle, stepped, later⟩ := followed
      have here := each event List.mem_cons_self w middle stepped
      exact here.trans (ih middle (fun other member => each other (List.mem_cons_of_mem _ member))
        later)

theorem pass (rank : Entity → Nat) (has : World F → Entity → Bool) (visit : Entity → Event F)
    (w w' : World F) (each : ∀ e m m', step (visit e) m = some m' → StandsBy x m m')
    (passed : MundusVivens.pass rank has visit w = some w') : StandsBy x w w' := by
  refine follow _ w w' (fun event member => ?_) passed
  obtain ⟨e, -, rfl⟩ := List.mem_map.mp member
  exact each e

end StandsBy

namespace World

variable (w w' : World F) (e x : Entity)

theorem busyAmbient_map (deltaTime : F) : (w.busyAmbient deltaTime e).map = w.map := by
  unfold busyAmbient
  split
  next =>
    dsimp only
    unfold holdStill
    split <;> rfl
  next => rfl

theorem busyAmbient_velocity (deltaTime : F) (velocity : VelocityComp F)
    (has : (w.busyAmbient deltaTime e).reg.velocity x = some velocity) :
    w.reg.velocity x = some velocity ∨ velocity = .still := by
  unfold busyAmbient at has
  split at has
  next =>
    dsimp only at has
    unfold holdStill at has
    split at has
    next =>
      by_cases self : x = e
      next =>
        simp [setToil, setActivity, modifyBusy, Registry.modifyBusy, setVelocity, self] at has
        exact .inr has.symm
      next =>
        simp [setToil, setActivity, modifyBusy, Registry.modifyBusy, setVelocity, self] at has
        exact .inl has
    next => exact .inl has
  next => exact .inl has

theorem busyAmbient_standsBy (deltaTime : F) : StandsBy x w (w.busyAmbient deltaTime e) := by
  obtain ⟨others, same | ⟨toil, action, velocity, tag, active, own⟩⟩ := w.busyAmbient_body e deltaTime
  · rw [same]
    exact .refl w
  · by_cases self : x = e
    next =>
      subst self
      refine ⟨fun free => ?_, fun _ => congrArg Body.location own, fun _ moving => ?_,
        fun _ _ still velocity has => ?_, w.busyAmbient_map x deltaTime⟩
      · have busy := congrArg Body.busy own
        simpa [free] using busy
      · obtain ⟨shown, has, moving⟩ := moving
        have changed : some { toil with currentAction := action } = some shown :=
          (congrArg Body.toil own).symm.trans has
        rw [← Option.some.inj changed] at moving
        exact ⟨⟨toil, active, moving⟩, congrArg Body.job own, congrArg Body.pathfinding own⟩
      · rcases w.busyAmbient_velocity x x deltaTime velocity has with old | rfl
        · exact still velocity old
        · rfl
    next => exact .of_body (others x self) (w.busyAmbient_map e deltaTime)

theorem perception_map : (w.perception e).map = w.map := by
  unfold perception
  split
  next =>
    split
    next => rfl
    next => split <;> rfl
  next => rfl

theorem behaviorTree_standsBy (draw : BehaviorDraw) (visited : w.behaviorTree e draw = some w') :
    StandsBy x w w' := by
  have concerns := w.behaviorTree_concerns e draw w' visited
  by_cases self : x = e
  next =>
    subst self
    cases tagged : w.reg.busy x with
    | none => exact .of_free (concerns.untagged x tagged) concerns.map
    | some tag =>
        -- The tree skips the busy.
        simp only [behaviorTree, tagged, Option.isSome_some, Bool.or_true, if_true] at visited
        rw [← Option.some.inj visited]
        exact .refl w
  next =>
    rcases concerns.others x self with same | lost | ⟨-, free⟩
    · exact .of_body same concerns.map
    · exact .of_free (congrArg Body.busy lost) concerns.map
    · exact .of_free free concerns.map

omit [Scalar F] in
theorem stopToil_map : (w.stopToil e).map = w.map := by
  unfold stopToil
  split
  next => split <;> rfl
  next => rfl

omit [Scalar F] in
theorem dropWaypoints_map : (w.dropWaypoints e).map = w.map := by
  unfold dropWaypoints
  split <;> rfl

omit [Scalar F] in
theorem dropTarget_map : (w.dropTarget e).map = w.map := by
  unfold dropTarget
  split <;> rfl

theorem systemDeath_map : (w.systemDeath e).map = w.map := by
  have buried (m : World F) : (m.eraseBehaviorTree e).map = m.map := rfl
  have shown (m : World F) : (m.setActivity e "사망").map = m.map := rfl
  have halted (m : World F) : (m.modifyVelocity e fun _ => .still).map = m.map := rfl
  unfold systemDeath
  split
  next =>
    split
    next =>
      dsimp only
      rw [buried, dropTarget_map, shown, dropWaypoints_map, halted, stopToil_map]
    next => rfl
  next => rfl

theorem systemDeath_standsBy : StandsBy x w (w.systemDeath e) := by
  obtain ⟨others, alive | ⟨toil, velocity, path, idle, own⟩⟩ := w.systemDeath_body e
  · rw [alive]
    exact .refl w
  · by_cases self : x = e
    next =>
      subst self
      have rests : ¬(w.systemDeath x).Moving x := by
        rintro ⟨active, has, moving⟩
        rw [idle active ((congrArg Body.toil own).symm.trans has)] at moving
        cases moving
      exact ⟨fun free => (congrArg Body.busy own).trans free, fun _ => congrArg Body.location own,
        fun _ moving => absurd moving rests, fun _ moving => absurd moving rests,
        w.systemDeath_map x⟩
    next => exact .of_body (others x self) (w.systemDeath_map e)

theorem survivalOverride_map : (w.survivalOverride e).map = w.map := by
  unfold survivalOverride
  split <;> rfl

theorem survivalOverride_standsBy : StandsBy x w (w.survivalOverride e) := by
  obtain ⟨others, -, needs, own⟩ := w.survivalOverride_body e
  by_cases self : x = e
  next =>
    subst self
    refine ⟨fun free => (congrArg Body.busy own).trans free, fun _ => congrArg Body.location own,
      fun _ moving => ⟨?_, congrArg Body.job own, congrArg Body.pathfinding own⟩,
      fun _ _ still velocity has => ?_, w.survivalOverride_map x⟩
    · obtain ⟨toil, active, state⟩ := moving
      exact ⟨toil, (congrArg Body.toil own).symm.trans active, state⟩
    · exact still velocity ((congrArg Body.velocity own).symm.trans has)
  next => exact .of_body (others x self) (w.survivalOverride_map e)

end World

-- The systems from `SystemBusyAmbient` to `SystemSurvivalOverride`.
def decisions (input : FrameInput F) (w : World F) : Option (World F) := do
  let w ← pass (input.rank .ambient) (fun w e => (w.reg.busy e).isSome) .busyAmbient w
  let w ← pass (input.rank .perception) (fun w e => (w.reg.aggro e).isSome) .perception w
  let w ← pass (input.rank .tree) (fun w e => (w.reg.behaviorTree e).isSome)
    (fun e => .behaviorTree e (input.tree e)) w
  let w ← pass (input.rank .death) (fun w e => (w.reg.health e).isSome) .death w
  pass (input.rank .survival) (fun w e => (w.reg.needs e).isSome) .survivalOverride w

theorem physics_splits (input : FrameInput F) (w last : World F)
    (moved : physics input w = some last) :
    ∃ decided mid, decisions input w = some decided ∧ walk input decided = some (mid, last) := by
  simp only [physics, Option.bind_eq_bind, Option.bind_eq_some_iff] at moved
  obtain ⟨w₁, ambient, w₂, perceived, w₃, decided, w₄, died, w₅, decayed, mid, searched, walked⟩ :=
    moved
  refine ⟨w₅, mid, ?_, ?_⟩
  · simp [decisions, ambient, perceived, decided, died, decayed]
  · simp [walk, searched, walked]

theorem decisions_split (input : FrameInput F) (w decided : World F) (x : Entity)
    (done : decisions input w = some decided) :
    ∃ shown, pass (input.rank .ambient) (fun w e => (w.reg.busy e).isSome) .busyAmbient w =
      some shown ∧ StandsBy x shown decided := by
  simp only [decisions, Option.bind_eq_bind, Option.bind_eq_some_iff] at done
  obtain ⟨w₁, ambient, w₂, perceived, w₃, visited, w₄, died, decayed⟩ := done
  have seen : StandsBy x w₁ w₂ := .pass _ _ _ w₁ w₂ (fun e m m' stepped => by
    obtain rfl := Option.some.inj stepped
    exact .of_body (m.perception_body e x) (m.perception_map e)) perceived
  have chosen : StandsBy x w₂ w₃ := .pass _ _ (fun e => .behaviorTree e (input.tree e)) w₂ w₃
    (fun e m m' stepped => m.behaviorTree_standsBy m' e x (input.tree e) stepped) visited
  have buried : StandsBy x w₃ w₄ := .pass _ _ _ w₃ w₄ (fun e m m' stepped => by
    obtain rfl := Option.some.inj stepped
    exact m.systemDeath_standsBy e x) died
  have needy : StandsBy x w₄ decided := .pass _ _ _ w₄ decided (fun e m m' stepped => by
    obtain rfl := Option.some.inj stepped
    exact m.survivalOverride_standsBy e x) decayed
  exact ⟨w₁, ambient, ((seen.trans chosen).trans buried).trans needy⟩

theorem decisions_standsBy (input : FrameInput F) (w decided : World F) (x : Entity)
    (done : decisions input w = some decided) : StandsBy x w decided := by
  obtain ⟨shown, ambient, rest⟩ := decisions_split input w decided x done
  refine StandsBy.trans (.pass _ _ _ w shown (fun e m m' stepped => ?_) ambient) rest
  obtain rfl := Option.some.inj stepped
  exact m.busyAmbient_standsBy e x _

structure World.Reachable (w : World F) (x : Entity) : Prop where
  preoccupied : w.isPreoccupied x = true
  activity : (w.reg.activity x).isSome
  toil : (w.reg.toil x).isSome
  velocity : (w.reg.velocity x).isSome
  identity : (w.reg.identity x).isSome

theorem World.busyAmbient_reaches (w : World F) (e x : Entity) (deltaTime : F)
    (reachable : w.Reachable x) :
    (w.busyAmbient deltaTime e).Reachable x ∧ (e = x → (w.busyAmbient deltaTime e).Halted x) := by
  obtain ⟨preoccupied, activity, toil, velocity, identity⟩ := reachable
  unfold busyAmbient
  split
  next busy _ _ _ _ tagged _ _ _ _ =>
    dsimp only
    by_cases self : x = e
    next =>
      subst self
      have talks : busy.reason = .dialogue ∨ busy.reason = .reflection := by
        simpa [isPreoccupied, tagged] using preoccupied
      have holds : w.holdStill x busy.reason = w.setVelocity x .still := by
        simp [holdStill, talks]
      rw [holds]
      refine ⟨⟨?_, ?_, ?_, ?_, identity⟩, fun _ velocity' has => ?_⟩
      · simpa [isPreoccupied, setToil, setActivity, modifyBusy, Registry.modifyBusy, setVelocity,
          tagged] using talks
      · simpa [setToil, setActivity, modifyBusy, Registry.modifyBusy, setVelocity] using activity
      · simp [setToil]
      · simp [setToil, setActivity, modifyBusy, Registry.modifyBusy, setVelocity]
      · have still : VelocityComp.still = velocity' := by
          simpa [setToil, setActivity, modifyBusy, Registry.modifyBusy, setVelocity] using has
        rw [← still]
        rfl
    next =>
      refine ⟨⟨?_, ?_, ?_, ?_, ?_⟩, fun same => absurd same.symm self⟩
      all_goals
        unfold holdStill
        split <;>
          simpa [isPreoccupied, setToil, setActivity, modifyBusy, Registry.modifyBusy, setVelocity,
            self]
  next missing =>
    refine ⟨⟨preoccupied, activity, toil, velocity, identity⟩, ?_⟩
    rintro rfl
    obtain ⟨tag, tagged⟩ : ∃ tag, w.reg.busy e = some tag := by
      cases tagged : w.reg.busy e with
      | none => simp [isPreoccupied, tagged] at preoccupied
      | some tag => exact ⟨tag, rfl⟩
    obtain ⟨act, acts⟩ := Option.isSome_iff_exists.mp activity
    obtain ⟨active, works⟩ := Option.isSome_iff_exists.mp toil
    obtain ⟨speed, moves⟩ := Option.isSome_iff_exists.mp velocity
    obtain ⟨name, identified⟩ := Option.isSome_iff_exists.mp identity
    exact absurd identified (missing tag act active speed name tagged acts works moves)

theorem ambient_halts (entities : List Entity) (x : Entity) (w w' : World F)
    (reachable : w.Reachable x) (member : x ∈ entities ∨ w.Halted x)
    (passed : follow step (entities.map .busyAmbient) w = some w') : w'.Halted x := by
  induction entities generalizing w with
  | nil =>
      obtain rfl := Option.some.inj passed
      rcases member with member | still
      · cases member
      · exact still
  | cons e rest ih =>
      simp only [follow, List.map_cons, List.foldlM_cons, Option.bind_eq_bind,
        Option.bind_eq_some_iff] at passed
      obtain ⟨middle, stepped, later⟩ := passed
      obtain rfl := Option.some.inj stepped
      obtain ⟨reaches, halts⟩ := w.busyAmbient_reaches e x World.frameTime reachable
      refine ih _ reaches ?_ later
      rcases member with member | still
      · rcases List.mem_cons.mp member with rfl | member
        · exact .inr (halts rfl)
        · exact .inl member
      · refine .inr fun velocity has => ?_
        rcases w.busyAmbient_velocity e x World.frameTime velocity has with old | rfl
        · exact still velocity old
        · rfl

theorem decisions_halt (input : FrameInput F) (w decided : World F) (x : Entity)
    (valid : w.reg.valid x = true) (reachable : w.Reachable x)
    (done : decisions input w = some decided) (busy : decided.reg.busy x ≠ none)
    (moving : decided.Moving x) : decided.Halted x := by
  obtain ⟨shown, ambient, rest⟩ := decisions_split input w decided x done
  have tagged : (w.reg.busy x).isSome = true := by
    cases tagged : w.reg.busy x with
    | none => simpa [World.isPreoccupied, tagged] using reachable.preoccupied
    | some tag => rfl
  have early : x < w.reg.nextEntity := by
    by_contra late
    simp [w.reg.issued x (Nat.le_of_not_lt late)] at valid
  have viewed := (mem_view w (input.rank .ambient) (fun e => (w.reg.busy e).isSome) x).mpr
    ⟨early, valid, tagged⟩
  exact rest.halted busy moving (ambient_halts _ x w shown reachable (.inl viewed) ambient)

def World.followsPath (w : World F) (choice : PathChoice F) (x : Entity) : Bool :=
  match w.aim x choice with
  | some (loc, job, path) =>
      decide (w.map.isPathBlocked loc.x loc.z job.targetX job.targetZ = some true) &&
        decide (path.currentWaypointIndex < path.waypoints.length)
  | none => false

def World.isReached (w : World F) (x : Entity) : Bool :=
  w.reg.valid x && (w.reg.activity x).isSome && (w.reg.toil x).isSome &&
    (w.reg.velocity x).isSome && (w.reg.identity x).isSome

/-- The frame leaves the entity where it is while it talks or thinks: it is not on the move, or
it is brought to a halt on a path. -/
def World.staysPut (w : World F) (choice : PathChoice F) (x : Entity) : Bool :=
  match w.reg.toil x with
  | some toil => decide (toil.state ≠ .moving) || (w.isReached x && w.followsPath choice x)
  | none => true

theorem World.pathfinding_busy {w w' : World F} {e : Entity} {searches spent : Nat}
    {choice : PathChoice F} (visited : w.pathfinding e searches choice = some (w', spent)) :
    w'.reg.busy = w.reg.busy := by
  refine pathfinding_preserves (fun m => m.reg.busy = w.reg.busy)
    (fun write before => Eq.trans ?_ before) visited rfl
  cases write <;> rfl

theorem World.updateEntityPosition_busy (w : World F) (e : Entity) (x z : F) :
    (w.updateEntityPosition e x z).reg.busy = w.reg.busy := by
  obtain ⟨grid, location, moved⟩ := w.updateEntityPosition_eq e x z
  rw [moved]

theorem World.movement_busy {w w' : World F} {e : Entity} (moved : w.movement e = some w') :
    w'.reg.busy = w.reg.busy := by
  refine movement_preserves (fun m => m.reg.busy = w.reg.busy)
    (fun write before => Eq.trans ?_ before) moved rfl
  cases write with
  | step => exact updateEntityPosition_busy _ e _ _
  | put => exact updateEntityPosition_busy _ e _ _
  | velocity | path | toil | activity => rfl

theorem walk_busy (input : FrameInput F) (w mid last : World F)
    (walked : walk input w = some (mid, last)) : last.reg.busy = w.reg.busy := by
  obtain ⟨seeks, strides⟩ := walk_by walked
  have sought : mid.reg.busy = w.reg.busy := by
    refine seeks.kept (fun m => m.reg.busy = w.reg.busy) (fun event m m' sort before stepped => ?_) rfl
    cases event with
    | pathfinding e searches choice =>
        obtain ⟨⟨m', spent⟩, visited, rfl⟩ := Option.map_eq_some_iff.mp stepped
        exact (World.pathfinding_busy visited).trans before
    | _ => cases sort
  refine strides.kept (fun m => m.reg.busy = w.reg.busy) (fun event m m' sort before stepped => ?_) sought
  cases event with
  | movement e => exact (World.movement_busy stepped).trans before
  | _ => cases sort

omit [Scalar F] in
theorem World.Moving.congr {w w' : World F} {x : Entity} (same : w'.reg.toil x = w.reg.toil x)
    (moving : w'.Moving x) : w.Moving x := by
  obtain ⟨toil, active, state⟩ := moving
  exact ⟨toil, same.symm.trans active, state⟩

theorem pathfinding_resting {w w' : World F} {e x : Entity} {searches spent : Nat}
    {choice : PathChoice F} (visited : w.pathfinding e searches choice = some (w', spent))
    (resting : ¬w.Moving x) : w'.body x = w.body x := by
  have seeks := w.pathfinding_seeks e searches spent choice w' visited
  by_cases self : x = e
  next =>
    subst self
    have idle : w.aim x choice = none := by
      cases aimed : w.aim x choice with
      | none => rfl
      | some target =>
          exact absurd (w.aim_some x _ target.1 target.2.1 target.2.2 aimed).2.1 resting
    cases seeks with
    | unaimed => rfl
    | _ => simp_all
  next => exact seeks.walks.others x self

theorem movement_resting {w w' : World F} {e x : Entity} (visited : w.movement e = some w')
    (resting : ¬w.Moving x) :
    w'.reg.location x = w.reg.location x ∧ w'.reg.toil x = w.reg.toil x := by
  have strides := w.movement_strides e w' visited
  by_cases self : x = e
  next =>
    subst self
    have stands (loc : LocationComp F) (toil : ToilComp) (path : PathfindingComp F)
        (vel : VelocityComp F) (job : JobComp F) (walker : w.Walker x loc toil path vel job)
        (moving : toil.state = .moving) : False := resting ⟨toil, walker.toil, moving⟩
    cases strides with
    | unready => exact ⟨rfl, rfl⟩
    | resting => exact ⟨rfl, rfl⟩
    | reached loc toil path vel job walker moving =>
        exact (stands loc toil path vel job walker moving).elim
    | steered loc toil path vel job walker moving =>
        exact (stands loc toil path vel job walker moving).elim
    | finished loc toil path vel job walker moving =>
        exact (stands loc toil path vel job walker moving).elim
    | cutShort loc toil path vel job walker moving =>
        exact (stands loc toil path vel job walker moving).elim
    | followed loc toil path vel job walker moving =>
        exact (stands loc toil path vel job walker moving).elim
  next =>
    have body := strides.walks.others x self
    exact ⟨congrArg Body.location body, congrArg Body.toil body⟩

theorem walk_resting (input : FrameInput F) (w mid last : World F) (x : Entity)
    (walked : walk input w = some (mid, last)) (resting : ¬w.Moving x) :
    last.reg.location x = w.reg.location x := by
  obtain ⟨seeks, strides⟩ := walk_by walked
  have sought : mid.body x = w.body x := by
    refine seeks.kept (fun m => m.body x = w.body x) (fun event m m' sort before stepped => ?_) rfl
    cases event with
    | pathfinding e searches choice =>
        obtain ⟨⟨m', spent⟩, visited, rfl⟩ := Option.map_eq_some_iff.mp stepped
        have still : ¬m.Moving x := mt (World.Moving.congr (congrArg Body.toil before)) resting
        exact (pathfinding_resting visited still).trans before
    | _ => cases sort
  have strode : last.reg.location x = w.reg.location x ∧ last.reg.toil x = w.reg.toil x := by
    refine strides.kept
      (fun m => m.reg.location x = w.reg.location x ∧ m.reg.toil x = w.reg.toil x)
      (fun event m m' sort before stepped => ?_)
      ⟨congrArg Body.location sought, congrArg Body.toil sought⟩
    cases event with
    | movement e =>
        obtain ⟨place, toil⟩ := movement_resting stepped (mt (World.Moving.congr before.2) resting)
        exact ⟨place.trans before.1, toil.trans before.2⟩
    | _ => cases sort
  exact strode.1

end

theorem World.updateEntityPosition_coordinates (w : World ℝ) (x : Entity) (loc : LocationComp ℝ)
    (located : w.reg.location x = some loc) :
    (w.updateEntityPosition x loc.x loc.z).coordinates x = w.coordinates x := by
  unfold updateEntityPosition LocationRegistry.updateEntityPosition coordinates
  rw [located]
  simp only [setLocation, LocationRegistry.resolveZone, Pool.set_apply, if_true, Option.map_some]
  split
  next => split <;> rfl
  next => rfl

theorem followWaypoint_halted (w : World ℝ) (x : Entity) (loc : LocationComp ℝ)
    (path : PathfindingComp ℝ) (vel : VelocityComp ℝ) (target : GridVector2 ℝ)
    (located : w.reg.location x = some loc) (halted : vel.speed = zero) :
    (w.followWaypoint x loc path vel target).coordinates x = w.coordinates x := by
  have rest : vel.speed * World.frameTime = 0 := by
    rw [halted, zero, lit_real]
    simp
  unfold World.followWaypoint
  dsimp only
  split
  next => rfl
  next far =>
    have distant : ¬hypot (target.x - loc.x) (target.z - loc.z) ≤ 0 := by
      intro near
      apply far
      rw [lt_real, lit_real]
      exact lt_of_le_of_lt near (by norm_num)
    split
    next near =>
      rw [rest, le_real] at near
      exact absurd near distant
    next =>
      rw [rest]
      simp only [mul_zero, add_zero]
      exact World.updateEntityPosition_coordinates (w.setVelocity x _) x loc located

theorem coordinates_congr {w w' : World ℝ} {x : Entity}
    (same : w'.reg.location x = w.reg.location x) : w'.coordinates x = w.coordinates x := by
  unfold World.coordinates
  rw [same]

-- A walker on a path that has no speed does not come off its place.
theorem movement_halted {w w' : World ℝ} {x : Entity} {path : PathfindingComp ℝ}
    (visited : w.movement x = some w') (onPath : w.reg.pathfinding x = some path)
    (ahead : path.currentWaypointIndex < path.waypoints.length) (halted : w.Halted x) :
    w'.coordinates x = w.coordinates x := by
  have walking : path.waypoints ≠ [] := List.ne_nil_of_length_pos (by omega)
  cases w.movement_strides x w' visited with
  | unready => rfl
  | resting => rfl
  | reached _ _ path' _ _ walker _ seeking =>
      obtain rfl := Option.some.inj (onPath.symm.trans walker.path)
      exact absurd seeking walking
  | steered _ _ path' _ _ walker _ seeking =>
      obtain rfl := Option.some.inj (onPath.symm.trans walker.path)
      exact absurd seeking walking
  | finished _ _ path' _ _ walker _ _ used =>
      obtain rfl := Option.some.inj (onPath.symm.trans walker.path)
      omega
  | cutShort => rfl
  | followed loc toil path' vel job walker _ target =>
      exact followWaypoint_halted w x loc path' vel target walker.location
        (halted vel walker.velocity)

-- The path is kept: the target is out of sight, and there are waypoints.
theorem pathfindingPass_following {input : FrameInput ℝ} {w mid : World ℝ} {x : Entity}
    {loc : LocationComp ℝ} {job : JobComp ℝ} {path : PathfindingComp ℝ}
    (searched : pathfindingPass input.path (w.view (input.rank .pathfinding) fun e =>
      (w.reg.job e).isSome) 0 w = some mid)
    (aimed : w.aim x (input.path x) = some (loc, job, path))
    (blocked : w.map.isPathBlocked loc.x loc.z job.targetX job.targetZ = some true)
    (walking : path.waypoints ≠ []) :
    mid.body x = { w.body x with job := some job, pathfinding := some path } ∨
      (x ∉ mid.view (input.rank .movement) fun e => (mid.reg.pathfinding e).isSome) ∧
        mid.body x = w.body x := by
  by_cases mover : x ∈ w.view (input.rank .pathfinding) fun e => (w.reg.job e).isSome
  next =>
    obtain ⟨before, after, split⟩ := List.append_of_mem mover
    exact .inl (pathfindingPass_unsearched _ w mid searched (view_nodup w _ _) before after split
      aimed blocked (.inl walking))
  next =>
    obtain ⟨others, -⟩ := pathfindingPass_others _ 0 w mid searched
    obtain ⟨-, -, ⟨old, hasJob, -⟩, -⟩ := w.aim_some x _ loc job path aimed
    have jobbed : mid.reg.job x = some old := (congrArg Body.job (others x mover)).trans hasJob
    refine .inr ⟨fun walks => mover ?_, others x mover⟩
    obtain ⟨before, after, split⟩ := pathfindingPass_mover searched walks (by simp [jobbed])
    simp [split]

theorem walk_following (input : FrameInput ℝ) (w mid last : World ℝ) (x : Entity)
    (walked : walk input w = some (mid, last)) (follows : w.followsPath (input.path x) x = true)
    (halted : w.Halted x) : last.coordinates x = w.coordinates x := by
  simp only [walk, Option.bind_eq_bind, Option.bind_eq_some_iff, Option.some.injEq,
    Prod.mk.injEq] at walked
  obtain ⟨mid, searched, last, moved, rfl, rfl⟩ := walked
  unfold World.followsPath at follows
  split at follows
  next loc job path aimed =>
    obtain ⟨blocked, ahead⟩ : w.map.isPathBlocked loc.x loc.z job.targetX job.targetZ = some true ∧
        path.currentWaypointIndex < path.waypoints.length := by simpa using follows
    have walking : path.waypoints ≠ [] := List.ne_nil_of_length_pos (by omega)
    have found := pathfindingPass_following searched aimed blocked walking
    have place : mid.coordinates x = w.coordinates x := by
      rcases found with own | ⟨-, own⟩ <;> exact coordinates_congr (congrArg Body.location own)
    obtain ⟨unmoved, visits⟩ := movementPass_visit _ mid last moved (view_nodup mid _ _)
    by_cases walker : x ∈ mid.view (input.rank .movement) fun e => (mid.reg.pathfinding e).isSome
    next =>
      have own := found.resolve_right fun outside => outside.1 walker
      obtain ⟨n, n', body, -, stepped, ended⟩ := visits x walker
      have there : n.body x = { w.body x with job := some job, pathfinding := some path } :=
        body.trans own
      have slow : n.Halted x := fun vel runs =>
        halted vel ((congrArg Body.velocity there).symm.trans runs)
      have stood : n'.coordinates x = n.coordinates x :=
        movement_halted stepped (congrArg Body.pathfinding there) ahead slow
      calc last.coordinates x = n'.coordinates x := coordinates_congr (congrArg Body.location ended)
        _ = n.coordinates x := stood
        _ = mid.coordinates x := coordinates_congr (congrArg Body.location body)
        _ = w.coordinates x := place
    next => exact (coordinates_congr (congrArg Body.location (unmoved x walker))).trans place
  next => cases follows

-- Through the physics of a frame an entity stays where it is while it talks or thinks.
theorem physics_holds (input : FrameInput ℝ) (w last : World ℝ) (x : Entity)
    (moved : physics input w = some last) (before : w.isPreoccupied x = true)
    (after : last.isPreoccupied x = true) (stays : w.staysPut (input.path x) x = true) :
    last.coordinates x = w.coordinates x := by
  obtain ⟨decided, mid, chosen, walked⟩ := physics_splits input w last moved
  have busy : decided.reg.busy x ≠ none := by
    intro free
    rw [← walk_busy input decided mid last walked] at free
    simp [World.isPreoccupied, free] at after
  have waits := decisions_standsBy input w decided x chosen
  have place : decided.coordinates x = w.coordinates x := by
    unfold World.coordinates
    rw [waits.located busy]
  by_cases moving : decided.Moving x
  next =>
    obtain ⟨⟨toil, active, state⟩, job, path⟩ := waits.underway busy moving
    obtain ⟨reached, follows⟩ : w.isReached x = true ∧ w.followsPath (input.path x) x = true := by
      simpa [World.staysPut, active, state] using stays
    have ready : w.Reachable x ∧ w.reg.valid x = true := by
      simp only [World.isReached, Bool.and_eq_true] at reached
      obtain ⟨⟨⟨⟨valid, acts⟩, works⟩, runs⟩, named⟩ := reached
      exact ⟨⟨before, acts, works, runs, named⟩, valid⟩
    have halted := decisions_halt input w decided x ready.2 ready.1 chosen busy moving
    have follows' : decided.followsPath (input.path x) x = true := by
      obtain ⟨toil', active', state'⟩ := moving
      have aims : decided.aim x (input.path x) = w.aim x (input.path x) := by
        unfold World.aim World.resolveTarget
        rw [job, path, waits.located busy, waits.map, active, active']
        cases w.reg.job x <;> cases w.reg.location x <;> simp [state, state']
      unfold World.followsPath at follows ⊢
      rw [aims, waits.map]
      exact follows
    exact (walk_following input decided mid last x walked follows' halted).trans place
  next =>
    have still := walk_resting input decided mid last x walked moving
    unfold World.coordinates at place ⊢
    rw [still, place]

section

variable {F : Type} [Scalar F]

-- The server in steps of two sizes: the physics of a frame as a whole, and any other event.
inductive FramePart (F : Type) where
  | event (event : Event F)
  | physics (input : FrameInput F)

def framePart : FramePart F → World F → Option (World F)
  | .event event, w => step event w
  | .physics input, w => physics input w

theorem Reaches.parts {w w' : World F} (reaches : Reaches w w') :
    ∃ past, Run framePart w past w' := by
  obtain ⟨past, run⟩ := reaches
  induction run with
  | rest => exact ⟨[], .rest⟩
  | next _ stepped ih =>
      obtain ⟨past, run⟩ := ih
      have taken : framePart (.event _) _ = some _ := stepped
      exact ⟨_, run.next taken⟩

theorem frame_parts (input : FrameInput F) (w w' : World F) (framed : frame input w = some w') :
    ∃ later opened moved earlier,
      Run framePart w (later ++ ⟨opened, .physics input, moved⟩ :: earlier) w' := by
  simp only [frame, Option.bind_eq_bind, Option.bind_eq_some_iff] at framed
  obtain ⟨opened, begun, moved, walked, ended⟩ := framed
  obtain ⟨earlier, first⟩ := (opening_reaches input w opened begun).parts
  obtain ⟨later, last⟩ := (closing_reaches input moved w' ended).parts
  have taken : framePart (.physics input) opened = some moved := walked
  exact ⟨later, opened, moved, earlier, (first.next taken).append last⟩

/-- Who talks or thinks at both ends of the physics of a frame is where it was. -/
def TalkersStay (past : List (Transition (World F) (FramePart F))) : Prop :=
  ∀ t ∈ past, ∀ input, t.event = .physics input → ∀ x, t.before.isPreoccupied x = true →
    t.after.isPreoccupied x = true → t.after.coordinates x = t.before.coordinates x

/-- Nobody talks or thinks on its way, unless on a path out of sight of the target. -/
def TalkersPut (w : World F) : FramePart F → Prop
  | .physics input => ∀ x, w.isPreoccupied x = true → w.staysPut (input.path x) x = true
  | .event _ => True

end

/-- In every run in which the talkers are put when the physics begins, they stay where they are. -/
theorem talkers_stay (start last : World ℝ) (past : List (Transition (World ℝ) (FramePart ℝ)))
    (run : Run framePart start past last) (guarded : Guarded TalkersPut past) : TalkersStay past := by
  intro t member input physical x before after
  obtain ⟨-, -, -, -, taken⟩ := run.taken t member
  have put := guarded t member
  rw [physical] at taken put
  exact physics_holds input t.before t.after x taken before after (put x before)

noncomputable def listener : World ℝ :=
  { stroller with
    reg :=
      { stroller.reg with
        toil := fun e => if e = 0 then some ⟨.interrupted, "", 0⟩ else none
        busy := fun e => if e = 0 then some .dialogue else none
        owned := fun e absent => by
          have other : e ≠ 0 := by
            rintro rfl
            cases absent
          exact ⟨if_neg other, rfl, rfl⟩ } }

theorem listener_listens :
    physics plainFrame listener = some (listener.busyAmbient World.frameTime 0) := by
  rfl

theorem talkers_stay_listener :
    listener.isPreoccupied 0 = true ∧ ∃ past last, Run framePart listener past last ∧
      past.map (·.event) = [.physics plainFrame] ∧ TalkersStay past := by
  have taken : framePart (.physics plainFrame) listener =
      some (listener.busyAmbient World.frameTime 0) := listener_listens
  have run := Run.rest.next taken
  refine ⟨by simp [World.isPreoccupied, listener, BusyTag.dialogue], _, _, run, rfl,
    talkers_stay listener _ _ run ?_⟩
  refine (Guarded.cons _).mpr ⟨fun x talks => ?_, .nil⟩
  by_cases here : x = 0
  next =>
    subst here
    rfl
  next => simp [World.isPreoccupied, listener, here] at talks

-- Ella is on her way to the wood when Bob speaks to her.
def bobStops : List (FramePart ℚ) :=
  [.event .requestJobs,
    .event (.respond 0 (.jobs true [⟨7, 1, "숲", 50, 0, 0, "산책", 0, 1, 0⟩])),
    .event (.drainTask fun _ => ⟨0, 0⟩), .event (.jobDriver 0), .physics plainFrame,
    .event .connect, .event (.command (.login 1 "bob" "Bob")),
    .event (.command (.talkToNpc 1 7))]

theorem talker_walks_on : ∃ past last, Run framePart hamlet past last ∧
    past.reverse.map (·.event) = bobStops ++ [.physics plainFrame] ∧ ¬TalkersStay past := by
  let check (w w' : World ℚ) : Bool :=
    w.isPreoccupied 0 && w'.isPreoccupied 0 && w'.coordinates 0 ≠ w.coordinates 0
  obtain ⟨past, w, last, run, events, checked⟩ := Run.exists_of_last bobStops
    (.physics plainFrame) check (by decide +kernel : (followWhile framePart (fun _ _ => true) bobStops
      hamlet).any (fun w => (framePart (.physics plainFrame) w).any (check w)) = true)
  refine ⟨_, last, run, events, fun stay => ?_⟩
  obtain ⟨⟨before, after⟩, displaced⟩ : (w.isPreoccupied 0 = true ∧ last.isPreoccupied 0 = true) ∧
      last.coordinates 0 ≠ w.coordinates 0 := by simpa [check] using checked
  exact displaced (stay _ List.mem_cons_self plainFrame rfl 0 before after)

end MundusVivens
