import MundusVivens.Emotions.Moods
import MundusVivens.Safety.Casts
import MundusVivens.Safety.Motions
import MundusVivens.Systems.Snapshots
import MundusVivens.Walking.Sight

set_option autoImplicit false

namespace MundusVivens

open Scalar Runs

variable {F : Type}

def NpcSnapshot.identity (snapshot : NpcSnapshot F) : IdentityComp :=
  ⟨snapshot.npcId, snapshot.displayName⟩

structure World.Presentable (w : World F) : Prop extends w.Ordered where
  trailed : ∀ n, w.Resident n → w.Trailed n

def World.Composed [Scalar F] (w : World F) (n : Entity) : Prop :=
  ∀ vel, w.reg.velocity n = some vel → w.Striding n ∨ vel = .still

/-- The snapshot shows the NPC as it is. -/
structure World.Portrays [Scalar F] (w : World F) (n : Entity) (snapshot : NpcSnapshot F) : Prop where
  resident : w.Resident n
  identity : w.reg.identity n = some snapshot.identity
  location : ∃ loc, w.reg.location n = some loc ∧
    snapshot.location = ⟨loc.locationName, ⟨loc.x, loc.y, loc.z⟩⟩
  emotion : ∃ emotion, w.reg.emotion n = some emotion ∧ snapshot.emotion = emotion.currentEmotion
  activity : w.reg.activity n = some ⟨snapshot.activity⟩
  health : ∃ health, w.reg.health n = some health ∧ snapshot.hp = health.hp ∧
    snapshot.maxHp = health.maxHp
  velocity : snapshot.velocity = (w.reg.velocity n).map fun vel =>
    ⟨vel.dirX * vel.speed, zero, vel.dirZ * vel.speed⟩
  composed : ¬ w.Striding n →
    snapshot.velocity = none ∨ snapshot.velocity = some ⟨zero * zero, zero, zero * zero⟩

variable [Scalar F] {w w' : World F}

theorem step_presentable (event : Event F) (ready : w.Presentable)
    (stepped : step event w = some w') : w'.Presentable where
  toOrdered := step_ordered event ready.toOrdered stepped
  trailed := by
    intro n resident
    have before := (step_residents event stepped n).mp resident
    exact step_trailed event n ready.armed.matched before (ready.trailed n before) stepped

theorem bootstrap_motionless (data : WorldBootstrapData F) (settings : SimulationSettings F)
    (obstacles : Option (List Obstacle)) (draws : Nat → NeedsDraw F)
    (booted : bootstrap data settings obstacles draws = some w) (x : Entity) :
    w.reg.velocity x = none := by
  refine bootstrap_induction (fun w => ∀ x, w.reg.velocity x = none) data settings obstacles draws
    w booted (fun _ => rfl) (fun w furn none x => ?_) (fun state agent draw none x => ?_) x
  · by_cases new : x = w.reg.nextEntity
    next =>
      subst new
      rw [placeFurniture]
      refine Eq.trans (updateEntityPosition_same _ _ _ _ .velocity (by simp)) ?_
      simp [World.setAffordance, World.setLocation, World.setIdentity, Registry.create,
        Registry.destroy]
    next =>
      have same := (placeFurniture_within w furn x x new).same .velocity rfl
      exact Eq.trans same (none x)
  · by_cases new : x = state.1.reg.nextEntity
    next =>
      obtain ⟨w, nextEmoId⟩ := state
      subst new
      unfold spawnAgent
      dsimp only
      split
      next => exact none _
      next =>
        refine Eq.trans (updateEntityPosition_same _ _ _ _ .velocity (by simp)) ?_
        simp [World.setLocation, World.setIdentity, Registry.create, Registry.destroy]
    next =>
      have same := (spawnAgent_within state agent draw x x new).same .velocity rfl
      exact Eq.trans same (none x)

theorem reaches_presentable {start : World F} (data : WorldBootstrapData F)
    (settings : SimulationSettings F) (obstacles : Option (List Obstacle))
    (draws : Nat → NeedsDraw F) (booted : bootstrap data settings obstacles draws = some start)
    (reaches : Reaches start w) : w.Presentable := by
  obtain ⟨past, run⟩ := reaches
  refine run.preserved World.Presentable ?_ fun _ event _ here stepped =>
    step_presentable event here stepped
  refine ⟨(bootstrap_intact data settings obstacles draws booted).toOrdered, fun n _ moves => ?_⟩
  simp [bootstrap_motionless data settings obstacles draws booted n] at moves

omit [Scalar F] in
theorem World.Presentable.walker (ready : w.Presentable) {x : Entity} (resident : w.Resident x)
    {vel : VelocityComp F} (moves : w.reg.velocity x = some vel) :
    ∃ loc toil path job, w.Walker x loc toil path vel job := by
  obtain ⟨path, searched⟩ := Option.isSome_iff_exists.mp (ready.trailed x resident (by simp [moves]))
  obtain ⟨loc, stands⟩ := Option.isSome_iff_exists.mp (ready.sited x resident.valid)
  obtain ⟨job, works⟩ := Option.isSome_iff_exists.mp (ready.able x resident).equipped.1
  obtain ⟨toil, toils⟩ := Option.isSome_iff_exists.mp (ready.able x resident).equipped.2
  have named : (w.reg.identity x).isSome = true := by
    simpa [World.ledger] using ready.peopled.named x resident.valid
  exact ⟨loc, toil, path, job, stands, toils, searched, moves, works, named⟩

theorem movement_composed (x : Entity)
    (walkers : ∀ vel, w.reg.velocity x = some vel → ∃ loc toil path job, w.Walker x loc toil path vel job)
    (moved : w.movement x = some w') : w'.Composed x := by
  have arrived (m : World F) (path : PathfindingComp F) :
      ((m.setVelocity x .still).setPathfinding x path).Composed x := by
    intro vel moves
    refine .inr ?_
    have halts : (m.setVelocity x .still).reg.velocity x = some vel := moves
    simpa [World.setVelocity] using halts.symm
  have arrives (loc : LocationComp F) (toil : ToilComp) (path : PathfindingComp F)
      (job : JobComp F) (ends : w.arrive x loc toil path job = some w') : w'.Composed x := by
    simp only [World.arrive, Option.bind_eq_bind, Option.bind_eq_some_iff] at ends
    obtain ⟨activity, -, stored⟩ := ends
    obtain rfl := Option.some.inj stored
    exact arrived _ _
  have walks (m : World F) (a b : F) (toil : ToilComp) (toils : m.reg.toil x = some toil)
      (moving : toil.state = .moving) : (m.updateEntityPosition x a b).Composed x := by
    have kept : (m.updateEntityPosition x a b).reg.toil x = m.reg.toil x :=
      updateEntityPosition_same m x a b .toil (by simp)
    exact fun _ _ => .inl ⟨toil, kept.trans toils, moving⟩
  cases w.movement_strides x w' moved with
  | unready missing =>
      intro vel moves
      obtain ⟨loc, toil, path, job, walker⟩ := walkers vel moves
      exact absurd walker (missing loc toil path vel job)
  | resting =>
      intro vel moves
      exact .inr (by simpa [World.setVelocity] using moves.symm)
  | reached loc toil path vel job walker _ _ _ _ ends
  | finished loc toil path vel job walker _ _ _ _ _ ends => exact arrives loc toil path job ends
  | steered loc toil path vel job walker moving =>
      exact walks _ _ _ toil walker.toil moving
  | cutShort loc toil path vel job walker moving =>
      exact fun _ _ => .inl ⟨toil, walker.toil, moving⟩
  | followed loc toil path vel job walker moving =>
      unfold World.followWaypoint
      dsimp only
      repeat' split
      · exact fun _ _ => .inl ⟨toil, walker.toil, moving⟩
      all_goals exact walks _ _ _ toil walker.toil moving

theorem movements_composed (rank : Entity → Nat) (x : Entity) (ready : w.Presentable)
    (resident : w.Resident x)
    (passed : pass rank (fun w e => (w.reg.pathfinding e).isSome) .movement w = some w') :
    w'.Composed x := by
  have same {m m' : World F} (body : m'.body x = m.body x) (composed : m.Composed x) :
      m'.Composed x := by
    intro vel moves
    have toil : m'.reg.toil x = m.reg.toil x := congrArg Body.toil body
    have velocity : m'.reg.velocity x = m.reg.velocity x := congrArg Body.velocity body
    rcases composed vel (velocity.symm.trans moves) with ⟨active, toils, moving⟩ | still
    · exact .inl ⟨active, toil.trans toils, moving⟩
    · exact .inr still
  obtain ⟨unmoved, visits⟩ := movementPass_visit _ w w' passed (view_nodup w _ _)
  by_cases walker : x ∈ w.view rank fun e => (w.reg.pathfinding e).isSome
  next =>
    obtain ⟨m, m', body, ids, moved, left⟩ := visits x walker
    refine same left (movement_composed x (fun vel moves => ?_) moved)
    have velocity : m.reg.velocity x = w.reg.velocity x := congrArg Body.velocity body
    obtain ⟨loc, toil, path, job, walker⟩ := ready.walker resident (velocity.symm.trans moves)
    exact ⟨loc, toil, path, job, (congrArg Body.location body).trans walker.location,
      (congrArg Body.toil body).trans walker.toil, (congrArg Body.pathfinding body).trans walker.path,
      moves, (congrArg Body.job body).trans walker.job, by rw [ids]; exact walker.identity⟩
  next =>
    refine same (unmoved x walker) fun vel moves => ?_
    have searched := ready.trailed x resident (by simp [moves])
    exact absurd ((mem_view w rank _ x).mpr
      ⟨ready.roster.below resident.valid, resident.valid, searched⟩) walker

theorem beforeBroadcast_moved (input : FrameInput F) (shown : World F)
    (reached : ∀ m, Reaches w m → m.Presentable) (framed : beforeBroadcast input w = some shown) :
    ∃ aimed, Reaches w aimed ∧
      pass (input.rank .movement) (fun w e => (w.reg.pathfinding e).isSome) .movement aimed =
        some shown := by
  simp only [beforeBroadcast, Option.bind_eq_bind, Option.bind_eq_some_iff] at framed
  obtain ⟨opened, begun, moved, walked, checked, passed, resolved⟩ := framed
  have arrives := (opening_reaches input w opened begun).trans (physics_reaches input opened moved walked)
  have ready := (reached moved arrives).armed.matched
  obtain rfl : checked = moved := by
    refine follow_idle _ (fun event member next stepped => ?_) passed
    obtain ⟨f, -, rfl⟩ := List.mem_map.mp member
    exact (Option.some.inj stepped).symm.trans (World.checkOccupant_idle ready f)
  obtain rfl : shown = checked := by
    refine follow_idle _ (fun event member next stepped => ?_) resolved
    obtain ⟨e, -, rfl⟩ := List.mem_map.mp member
    exact World.resolveAffordance_idle ready next stepped
  simp only [physics, Option.bind_eq_bind, Option.bind_eq_some_iff] at walked
  obtain ⟨w₁, ambient, w₂, perceived, w₃, decided, w₄, died, w₅, decayed, w₆, searched, walks⟩ := walked
  have seen := (Reaches.of_follow ambient).trans (.of_follow perceived)
  have living := (seen.trans (.of_follow decided)).trans (.of_follow died)
  have aimed := (living.trans (.of_follow decayed)).trans (show ReachesBy Event.isPhysics _ _ from
    .of_pathfindingPass _ _ (fun _ _ => rfl) _ searched).reaches
  exact ⟨w₆, (opening_reaches input w opened begun).trans aimed, walks⟩

omit [Scalar F] in
theorem World.Presentable.isShown_iff (ready : w.Presentable) (felt : ∀ n, w.Resident n →
    (w.reg.emotion n).isSome = true) (e : Entity) (valid : w.reg.valid e = true) :
    w.isShown e = true ↔ w.Resident e := by
  constructor
  · intro shown
    simp only [World.isShown, Bool.and_eq_true] at shown
    have acts : w.ledger.active e = true := shown.1.2
    exact (w.isNpc_ledger e).mp (ready.peopled.acting e acts)
  · intro resident
    have named : (w.reg.identity e).isSome = true := by
      simpa [World.ledger] using ready.peopled.named e valid
    simp [World.isShown, named, ready.sited e valid, felt e resident, (ready.able e resident).shown,
      resident.unplayed]

theorem World.Presentable.introduces (ready : w.Presentable) (n : Entity) (resident : w.Resident n)
    (felt : (w.reg.emotion n).isSome = true) : ∃ snapshot, w.introduceNpc n = some snapshot ∧
      w.reg.identity n = some snapshot.identity ∧
      (∃ loc, w.reg.location n = some loc ∧
        snapshot.location = ⟨loc.locationName, ⟨loc.x, loc.y, loc.z⟩⟩) ∧
      (∃ emotion, w.reg.emotion n = some emotion ∧ snapshot.emotion = emotion.currentEmotion) ∧
      w.reg.activity n = some ⟨snapshot.activity⟩ ∧ snapshot.velocity = none := by
  have named : (w.reg.identity n).isSome = true := by
    simpa [World.ledger] using ready.peopled.named n resident.valid
  obtain ⟨identity, named⟩ := Option.isSome_iff_exists.mp named
  obtain ⟨loc, stands⟩ := Option.isSome_iff_exists.mp (ready.sited n resident.valid)
  obtain ⟨emotion, feels⟩ := Option.isSome_iff_exists.mp felt
  obtain ⟨activity, acts⟩ := Option.isSome_iff_exists.mp (ready.able n resident).shown
  have introduced : w.introduceNpc n = some
      { npcId := identity.npcId
        displayName := identity.displayName
        location := ⟨loc.locationName, ⟨loc.x, loc.y, loc.z⟩⟩
        emotion := emotion.currentEmotion
        activity := activity.currentActivity
        velocity := none
        hp := zero
        maxHp := zero } := by
    simp [World.introduceNpc, named, stands, feels, acts]
  exact ⟨_, introduced, named, ⟨loc, stands, rfl⟩, ⟨emotion, feels, rfl⟩, acts, rfl⟩

theorem World.Presentable.portrays (ready : w.Presentable) (n : Entity) (resident : w.Resident n)
    (felt : (w.reg.emotion n).isSome = true) (composed : w.Composed n) :
    ∃ snapshot, w.snapshotNpc n = some snapshot ∧ w.Portrays n snapshot := by
  obtain ⟨snapshot, introduced, named, stands, feels, acts, still⟩ :=
    ready.introduces n resident felt
  obtain ⟨health, hurt⟩ := Option.isSome_iff_exists.mp (ready.able n resident).hurt
  let velocity := (w.reg.velocity n).map fun vel : VelocityComp F =>
    (⟨vel.dirX * vel.speed, zero, vel.dirZ * vel.speed⟩ : Vector3 F)
  refine ⟨{ snapshot with hp := health.hp, maxHp := health.maxHp, velocity := velocity }, ?_,
    resident, named, stands, feels, acts, ⟨health, hurt, rfl, rfl⟩, rfl, fun rests => ?_⟩
  · cases moves : w.reg.velocity n with
    | none => simp [World.snapshotNpc, introduced, hurt, moves, velocity, still]
    | some vel => simp [World.snapshotNpc, introduced, hurt, moves, velocity]
  · cases moves : w.reg.velocity n with
    | none => exact .inl (by simp [velocity, moves])
    | some vel =>
        obtain rfl := (composed vel moves).resolve_left rests
        exact .inr (by simp [velocity, moves, VelocityComp.still])

theorem forall₂_filterMap {α β : Type} {related : α → β → Prop} (f : α → Option β) (xs : List α)
    (shows : ∀ x ∈ xs, ∃ y, f x = some y ∧ related x y) : List.Forall₂ related xs (xs.filterMap f) := by
  induction xs with
  | nil => exact .nil
  | cons x rest ih =>
      obtain ⟨y, shown, here⟩ := shows x List.mem_cons_self
      rw [List.filterMap_cons, shown]
      exact .cons here (ih fun x member => shows x (List.mem_cons_of_mem _ member))

omit [Scalar F] in
theorem World.Hosts.listed {people : List IdentityComp} (hosts : w.Hosts people) (cast : List Entity)
    (snapshots : List (NpcSnapshot F)) (distinct : cast.Nodup)
    (listed : ∀ n, n ∈ cast ↔ w.Resident n)
    (named : List.Forall₂ (fun n snapshot => w.reg.identity n = some snapshot.identity) cast
      snapshots) : (snapshots.map NpcSnapshot.identity).Perm people := by
  obtain ⟨cast', distinct', listed', names⟩ := hosts
  have same : cast.Perm cast' := (List.perm_ext_iff_of_nodup distinct distinct').mpr fun n =>
    (listed n).trans (listed' n).symm
  have shown : (snapshots.map NpcSnapshot.identity).map some = cast.map w.reg.identity := by
    clear same listed distinct
    induction named with
    | nil => rfl
    | cons here _ ih => simp [here, ih]
  refine (List.map_perm_map_iff (Option.some_injective _)).mp ?_
  rw [shown, ← names]
  exact same.map _

/-- At any time the reply to a login lists the agents of the bootstrap data, each once, and so does
the snapshot of any frame, which shows every NPC as it is; who is not walking is shown at rest. -/
theorem clients_see_cast (data : WorldBootstrapData F) (settings : SimulationSettings F)
    (obstacles : Option (List Obstacle)) (draws : Nat → NeedsDraw F) (start w : World F)
    (past : List (Transition (World F) (Event F)))
    (booted : bootstrap data settings obstacles draws = some start) (run : ServerRun start past w)
    (input : FrameInput F) (shown : World F) (framed : beforeBroadcast input w = some shown)
    (rank : Entity → Nat) :
    ((w.loginResponse data.locations rank).npcs.map NpcSnapshot.identity).Perm data.people ∧
      ((shown.worldSnapshot rank).npcs.map NpcSnapshot.identity).Perm data.people ∧
      ∃ cast : List Entity, cast.Nodup ∧
        List.Forall₂ shown.Portrays cast (shown.worldSnapshot rank).npcs := by
  have presentable {m : World F} (reaches : Reaches start m) : m.Presentable :=
    reaches_presentable data settings obstacles draws booted reaches
  have felt {m : World F} (reaches : Reaches start m) (n : Entity) (resident : m.Resident n) :
      (m.reg.emotion n).isSome = true := by
    obtain ⟨past, run⟩ := reaches
    have feels := reachable_feels start m past
      (bootstrap_matched data settings obstacles draws start booted)
      (bootstrap_feels data settings obstacles draws start booted) run n
      ((presentable ⟨past, run⟩).able n resident).needy
    obtain ⟨emotion, held, -⟩ := feels.felt
    simp [held]
  have viewed {m : World F} (reaches : Reaches start m) (n : Entity) :
      n ∈ m.view rank m.isShown ↔ m.Resident n := by
    have ready := presentable reaches
    rw [mem_view]
    constructor
    · rintro ⟨-, valid, isShown⟩
      exact (ready.isShown_iff (felt reaches) n valid).mp isShown
    · intro resident
      exact ⟨ready.roster.below resident.valid, resident.valid,
        (ready.isShown_iff (felt reaches) n resident.valid).mpr resident⟩
  have hosts {m : World F} (reaches : Reaches start m) : m.Hosts data.people :=
    reaches.hosts (bootstrap_hosts data settings obstacles draws booted)
  have here : Reaches start w := ⟨past, run⟩
  have there := here.trans (beforeBroadcast_reaches input w shown framed)
  have portraits : List.Forall₂ shown.Portrays (shown.view rank shown.isShown)
      (shown.worldSnapshot rank).npcs := by
    refine forall₂_filterMap _ _ fun n member => ?_
    have resident := (viewed there n).mp member
    -- Movement is the last to write velocities before the broadcast.
    obtain ⟨aimed, reached, walked⟩ :=
      beforeBroadcast_moved input shown (fun m later => presentable (here.trans later)) framed
    have composed : shown.Composed n := by
      refine movements_composed _ n (presentable (here.trans reached)) ?_ walked
      obtain ⟨later, run⟩ := Reaches.of_follow walked
      exact (Reaches.residents ⟨later, run⟩ n).mp resident
    exact (presentable there).portrays n resident (felt there n resident) composed
  refine ⟨?_, ?_, _, view_nodup shown rank shown.isShown, portraits⟩
  · refine (hosts here).listed (w.view rank w.isShown) _ (view_nodup w rank _) (viewed here) ?_
    refine forall₂_filterMap _ _ fun n member => ?_
    have resident := (viewed here n).mp member
    obtain ⟨snapshot, introduced, named, -⟩ :=
      (presentable here).introduces n resident (felt here n resident)
    exact ⟨snapshot, introduced, named⟩
  · exact (hosts there).listed (shown.view rank shown.isShown) _ (view_nodup shown rank _)
      (viewed there) (portraits.imp fun _ _ portrays => portrays.identity)

-- A player logs in, and Ella is sent to the wood.
def ellaSent : List (Event ℚ) :=
  [.connect, .command (.login 1 "player" "Host"), .requestJobs,
    .respond 0 (.jobs true [⟨7, 1, "숲", 50, 0, 0, "순찰", 0, 1, 0⟩]), .drainTask fun _ => ⟨0, 0⟩,
    .jobDriver 0]

-- The client sees her on her way, and nobody else.
theorem clients_see_cast_hamlet : ∃ past w shown, ServerRun hamlet past w ∧
    past.reverse.map (·.event) = ellaSent ∧ w.reg.playerTag 1 = some ⟨1⟩ ∧
      beforeBroadcast plainFrame w = some shown ∧
      (shown.worldSnapshot id).npcs.map NpcSnapshot.velocity = [some ⟨2, 0, 0⟩] ∧
      ((w.loginResponse hamletData.locations id).npcs.map NpcSnapshot.identity).Perm
        [⟨7, "엘라"⟩] ∧
      ((shown.worldSnapshot id).npcs.map NpcSnapshot.identity).Perm [⟨7, "엘라"⟩] := by
  have passed : (followWhile step (fun _ _ => true) ellaSent hamlet).any (fun w =>
      decide (w.reg.playerTag 1 = some ⟨1⟩) && (beforeBroadcast plainFrame w).any fun shown =>
        decide ((shown.worldSnapshot id).npcs.map NpcSnapshot.velocity = [some ⟨2, 0, 0⟩])) =
          true := by
    decide +kernel
  obtain ⟨past, w, run, -, events, checked⟩ := Run.exists_of_check _ _ _ passed
  obtain ⟨tagged, framed⟩ := Bool.and_eq_true_iff.mp checked
  obtain ⟨shown, framed, walks⟩ := (Option.any_eq_true _ _).mp framed
  have sees := clients_see_cast hamletData ⟨2, 60⟩ (some []) _ hamlet w past hamlet_boots run
    plainFrame shown framed id
  exact ⟨past, w, shown, run, events, of_decide_eq_true tagged, framed, of_decide_eq_true walks,
    sees.1, sees.2.1⟩

end MundusVivens
