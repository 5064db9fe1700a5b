import MundusVivens.Safety.Progress
import MundusVivens.Walking.Sight

set_option autoImplicit false

/-!
# Every frame is defined

A frame of the game loop has a result from every state the server reaches, unless a frame
makes no part of an hour, or a client logs in under the number of an agent.
-/

namespace MundusVivens

open Scalar GridMap Runs

variable {F : Type} [Scalar F]

-- `std::priority_queue` is a heap, whichever entity searches.
def FrameInput.Heaps (input : FrameInput F) : Prop := ∀ e, IsHeap (input.path e).top

section

variable {data : WorldBootstrapData F} {settings : SimulationSettings F}
  {obstacles : Option (List Obstacle)} {draws : Nat → NeedsDraw F} {start w w' : World F}
  {input : FrameInput F}

theorem follow_defined (arith : ExactTiles F) (costs : PathCosts F)
    (booted : bootstrap data settings obstacles draws = some start) (events : List (Event F))
    (sane : ∀ event ∈ events, ∀ m, Reaches start m → event.Sane data m) (reached : Reaches start w) :
    ∃ w', follow step events w = some w' ∧ Reaches start w' := by
  have followed : ∃ w', follow step (events.map id) w = some w' ∧ Reaches start w' :=
    follow_total id (Reaches start) events (fun event member m here =>
      step_total arith costs booted here event (sane event member m here)) w reached
  rwa [List.map_id] at followed

theorem pass_defined (arith : ExactTiles F) (costs : PathCosts F)
    (booted : bootstrap data settings obstacles draws = some start) (rank : Entity → Nat)
    (has : World F → Entity → Bool) (visit : Entity → Event F)
    (sane : ∀ e m, (visit e).Sane data m) (reached : Reaches start w) :
    ∃ w', pass rank has visit w = some w' ∧ Reaches start w' := by
  refine follow_defined arith costs booted _ (fun event member m _ => ?_) reached
  obtain ⟨e, -, rfl⟩ := List.mem_map.mp member
  exact sane e m

theorem pathfindingPass_defined (arith : ExactTiles F) (costs : PathCosts F)
    (booted : bootstrap data settings obstacles draws = some start) (choice : Entity → PathChoice F)
    (heap : ∀ e, IsHeap (choice e).top) (entities : List Entity) (searches : Nat)
    (reached : Reaches start w) :
    ∃ w', pathfindingPass choice entities searches w = some w' ∧ Reaches start w' := by
  induction entities generalizing searches w with
  | nil => exact ⟨w, rfl, reached⟩
  | cons e rest ih =>
      have intact := reaches_intact arith.unset booted reached
      obtain ⟨⟨m, spent⟩, visited⟩ :=
        World.pathfinding_total arith costs intact e searches (choice e) (heap e)
      have here : step (.pathfinding e searches (choice e)) w = some m := by simp [step, visited]
      obtain ⟨w', passed, there⟩ := ih spent (reached.trans (.of_step here))
      exact ⟨w', by rw [pathfindingPass, visited]; exact passed, there⟩

theorem socialPass_defined (unset : le (lit 1000000000 : F) (lit 1000000000) = true)
    (booted : bootstrap data settings obstacles draws = some start)
    (draw : Entity → World.SocialDraw F) (entities processed : List Entity)
    (reached : Reaches start w) :
    ∃ w', socialPass draw entities processed w = some w' ∧ Reaches start w' := by
  induction entities generalizing processed w with
  | nil => exact ⟨w, rfl, reached⟩
  | cons e rest ih =>
      have intact := reaches_intact unset booted reached
      obtain ⟨⟨m, grown⟩, visited⟩ := World.socialInteraction_total intact processed (draw e) e
      have here : step (.socialInteraction processed (draw e) e) w = some m := by
        simp [step, visited]
      obtain ⟨w', passed, there⟩ := ih grown (reached.trans (.of_step here))
      exact ⟨w', by rw [socialPass, visited]; exact passed, there⟩

theorem logicalTick_defined (input : FrameInput F) (arith : ExactTiles F) (costs : PathCosts F)
    (booted : bootstrap data settings obstacles draws = some start) (reached : Reaches start w) :
    ∃ w', logicalTick input w = some w' ∧ Reaches start w' := by
  unfold logicalTick
  split
  next =>
    obtain ⟨w₁, synced, reached⟩ := follow_defined arith costs booted
      [.syncTick, .emotionDecay input.decay, .dailyReset, .requestJobs]
      (fun event member m _ => by
        simp only [List.mem_cons, List.not_mem_nil, or_false] at member
        rcases member with rfl | rfl | rfl | rfl <;> trivial) reached
    obtain ⟨w₂, driven, reached⟩ := pass_defined arith costs booted (input.rank .jobDriver)
      (fun w e => (w.reg.activity e).isSome) .jobDriver (fun _ _ => trivial) reached
    obtain ⟨w₃, rested, reached⟩ := pass_defined arith costs booted (input.rank .recovery)
      (fun w e => (w.reg.cooldown e).isSome) .recoverEnergy (fun _ _ => trivial) reached
    obtain ⟨w₄, talked, reached⟩ := socialPass_defined arith.unset booted input.social
      (w₃.view (input.rank .social) fun e => (w₃.reg.activity e).isSome) [] reached
    obtain ⟨w₅, sent, reached⟩ := step_total arith costs booted reached
      (.networkSync (input.rank .networkSync)) trivial
    refine ⟨w₅, ?_, reached⟩
    simp only [synced, driven, rested, talked, sent, Option.bind_eq_bind, Option.bind_some]
  next => exact ⟨w, rfl, reached⟩

theorem opening_defined (arith : ExactTiles F) (costs : PathCosts F)
    (booted : bootstrap data settings obstacles draws = some start)
    (sane : ∀ cmd ∈ input.commands, cmd.impersonates data start.mapper = false)
    (reached : Reaches start w) :
    ∃ w', opening input w = some w' ∧ Reaches start w' := by
  obtain ⟨w₁, drained, reached⟩ := follow_defined arith costs booted
    (w.grpc.queue.zipIdx.map fun task => .drainTask (input.draws task.2))
    (fun event member m _ => by
      obtain ⟨task, -, rfl⟩ := List.mem_map.mp member
      trivial) reached
  obtain ⟨w₂, cleaned, reached⟩ := pass_defined arith costs booted (input.rank .cleanup)
    (fun w e => ((w.reg.playerTag e).map fun tag => !w.tcp.sessions tag.sessionIndex).getD false)
    .cleanupPlayer (fun _ _ => trivial) reached
  obtain ⟨w₃, commanded, reached⟩ := follow_defined arith costs booted (input.commands.map .command)
    (fun event member m here => by
      obtain ⟨cmd, among, rfl⟩ := List.mem_map.mp member
      obtain ⟨past, run⟩ := here
      have mapper : m.mapper = start.mapper := (run_constant run).mapper
      rw [Event.Sane, mapper]
      exact sane cmd among) reached
  obtain ⟨w₄, ticked, reached⟩ := logicalTick_defined input arith costs booted reached
  refine ⟨w₄, ?_, reached⟩
  have drains : drain input w = some w₁ := drained
  have cleans : cleanup input w₁ = some w₂ := cleaned
  simp only [opening, drains, cleans, commanded, ticked, Option.bind_eq_bind, Option.bind_some]

theorem physics_defined (arith : ExactTiles F) (costs : PathCosts F)
    (booted : bootstrap data settings obstacles draws = some start) (heaps : input.Heaps)
    (reached : Reaches start w) : ∃ w', physics input w = some w' ∧ Reaches start w' := by
  -- System by system: every visit starts from a reachable state, and there it is defined.
  obtain ⟨w₁, ambient, reached⟩ := pass_defined arith costs booted (input.rank .ambient)
    (fun w e => (w.reg.busy e).isSome) .busyAmbient (fun _ _ => trivial) reached
  obtain ⟨w₂, perceived, reached⟩ := pass_defined arith costs booted (input.rank .perception)
    (fun w e => (w.reg.aggro e).isSome) .perception (fun _ _ => trivial) reached
  obtain ⟨w₃, decided, reached⟩ := pass_defined arith costs booted (input.rank .tree)
    (fun w e => (w.reg.behaviorTree e).isSome) (fun e => .behaviorTree e (input.tree e))
    (fun _ _ => trivial) reached
  obtain ⟨w₄, died, reached⟩ := pass_defined arith costs booted (input.rank .death)
    (fun w e => (w.reg.health e).isSome) .death (fun _ _ => trivial) reached
  obtain ⟨w₅, decayed, reached⟩ := pass_defined arith costs booted (input.rank .survival)
    (fun w e => (w.reg.needs e).isSome) .survivalOverride (fun _ _ => trivial) reached
  obtain ⟨w₆, searched, reached⟩ := pathfindingPass_defined arith costs booted input.path heaps
    (w₅.view (input.rank .pathfinding) fun e => (w₅.reg.job e).isSome) 0 reached
  obtain ⟨w₇, walked, reached⟩ := pass_defined arith costs booted (input.rank .movement)
    (fun w e => (w.reg.pathfinding e).isSome) .movement (fun _ _ => trivial) reached
  refine ⟨w₇, ?_, reached⟩
  simp only [physics, ambient, perceived, decided, died, decayed, searched, walked,
    Option.bind_eq_bind, Option.bind_some]

theorem closing_defined (input : FrameInput F) (arith : ExactTiles F) (costs : PathCosts F)
    (booted : bootstrap data settings obstacles draws = some start)
    (hours : settings.ticksPerGameHour ≠ 0) (reached : Reaches start w) :
    ∃ w', closing input w = some w' := by
  obtain ⟨w₁, checked, reached⟩ := pass_defined arith costs booted (input.rank .furniture)
    (fun w e => (w.reg.affordance e).isSome) .checkOccupant (fun _ _ => trivial) reached
  obtain ⟨w₂, resolved, reached⟩ := pass_defined arith costs booted (input.rank .affordance)
    (fun w e => (w.reg.needs e).isSome) .resolveAffordance (fun _ _ => trivial) reached
  obtain ⟨past, run⟩ := reached
  have kept : w₂.settings = settings :=
    (run_constant run).settings.trans (bootstrap_settings data settings obstacles draws booted).1
  obtain ⟨w₃, requested, -⟩ := step_total arith costs booted ⟨past, run⟩
    (.requestTick input.physicalTick) (by rw [Event.Sane, kept]; exact hours)
  refine ⟨w₃, ?_⟩
  simp only [closing, checked, resolved, requested, Option.bind_eq_bind, Option.bind_some]

theorem commands_sane (booted : bootstrap data settings obstacles draws = some start)
    (reached : Reaches start w) (commands : List (PlayerCommand F))
    (followed : follow step (commands.map .command) w = some w') :
    ∀ cmd ∈ commands, cmd.impersonates data start.mapper = false := by
  intro cmd member
  obtain ⟨past, run, order⟩ := Run.exists_of_follow _ followed
  have taken : Event.command cmd ∈ past.reverse.map (·.event) := by
    rw [order]
    exact List.mem_map.mpr ⟨cmd, member, rfl⟩
  obtain ⟨t, among, event⟩ := List.mem_map.mp taken
  obtain ⟨later, earlier, -, before, stepped⟩ := run.taken t (List.mem_reverse.mp among)
  have here : Reaches start t.before := reached.trans ⟨earlier, before⟩
  rw [event] at stepped
  cases cmd with
  -- Only a login reads a component that may be missing: the tag of the entity it takes for a player.
  | login session playerId playerName =>
      have bound : (t.before.loginBind session playerId playerName).isSome = true := by
        have logged : t.before.login session playerId playerName = some t.after := stepped
        simp only [World.login, Option.bind_eq_bind, Option.bind_eq_some_iff] at logged
        obtain ⟨bound, binds, -⟩ := logged
        simp [binds]
      obtain ⟨earlier, reaching⟩ := here
      have mapper : t.before.mapper = start.mapper := (run_constant reaching).mapper
      have free := (loginTarget_players_iff booted ⟨earlier, reaching⟩ playerId).mp
        (World.loginBind_players session playerId playerName bound)
      rw [mapper] at free
      exact free
  | _ => rfl

theorem closing_hours (booted : bootstrap data settings obstacles draws = some start)
    (reached : Reaches start w) (closed : closing input w = some w') :
    settings.ticksPerGameHour ≠ 0 := by
  simp only [closing, Option.bind_eq_bind, Option.bind_eq_some_iff] at closed
  obtain ⟨w₁, checked, w₂, resolved, requested⟩ := closed
  obtain ⟨past, run⟩ := (reached.trans (.of_follow checked)).trans (.of_follow resolved)
  have kept : w₂.settings = settings :=
    (run_constant run).settings.trans (bootstrap_settings data settings obstacles draws booted).1
  -- `physical_tick % ticks_per_hour`.
  rintro none
  simp [step, World.requestTick, kept, none] at requested

end

/-- From every reachable state the frame runs to its end, if and only if no command of it logs in
under the number of an agent and the game hour has frames. -/
theorem frame_defined_iff (arith : ExactTiles F) (costs : PathCosts F)
    (data : WorldBootstrapData F) (settings : SimulationSettings F)
    (obstacles : Option (List Obstacle)) (draws : Nat → NeedsDraw F) (start w : World F)
    (past : List (Transition (World F) (Event F)))
    (booted : bootstrap data settings obstacles draws = some start) (run : ServerRun start past w)
    (input : FrameInput F) (heaps : input.Heaps) :
    (∃ w', frame input w = some w') ↔ settings.ticksPerGameHour ≠ 0 ∧
      ∀ cmd ∈ input.commands, cmd.impersonates data start.mapper = false := by
  have reached : Reaches start w := ⟨past, run⟩
  constructor
  · rintro ⟨w', framed⟩
    simp only [frame, Option.bind_eq_bind, Option.bind_eq_some_iff] at framed
    obtain ⟨opened, begun, moved, walked, closed⟩ := framed
    have open_reached := reached.trans (opening_reaches input w opened begun)
    have moved_reached := open_reached.trans (physics_reaches input opened moved walked)
    refine ⟨closing_hours booted moved_reached closed, ?_⟩
    simp only [opening, Option.bind_eq_bind, Option.bind_eq_some_iff] at begun
    obtain ⟨w₁, drained, w₂, cleaned, w₃, commanded, -⟩ := begun
    exact commands_sane booted ((reached.trans (.of_follow drained)).trans (.of_follow cleaned))
      input.commands commanded
  · rintro ⟨hours, sane⟩
    obtain ⟨opened, begun, reached⟩ := opening_defined arith costs booted sane reached
    obtain ⟨moved, walked, reached⟩ := physics_defined arith costs booted heaps reached
    obtain ⟨w', closed⟩ := closing_defined input arith costs booted hours reached
    exact ⟨w', by
      simp only [frame, begun, walked, closed, Option.bind_eq_bind, Option.bind_some]⟩

def loginFrame (playerId : String) : FrameInput ℚ :=
  { plainFrame with commands := [.login 1 playerId "Host"] }

-- A player may log in; under the number of the agent of the hamlet the frame goes wrong.
theorem frame_defined_iff_hamlet : (∃ w, frame (loginFrame "player") hamlet = some w) ∧
    ¬∃ w, frame (loginFrame "ella") hamlet = some w := by
  have heaps (playerId : String) : (loginFrame playerId).Heaps := fun _ => leastFirst_heap_rat
  have defined (playerId : String) := frame_defined_iff exactTiles_rat (exactCosts _ exactValue_rat)
    hamletData ⟨2, 60⟩ (some []) _ hamlet hamlet [] hamlet_boots .rest (loginFrame playerId)
    (heaps playerId)
  refine ⟨(defined "player").mpr ⟨by decide, ?_⟩, fun framed => ?_⟩
  · intro cmd member
    obtain rfl := List.mem_singleton.mp member
    decide +kernel
  · have impostor := ((defined "ella").mp framed).2 _ List.mem_cons_self
    revert impostor
    decide +kernel

end MundusVivens
