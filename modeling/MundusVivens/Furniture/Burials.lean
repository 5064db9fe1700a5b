import MundusVivens.Furniture.Npcs
import MundusVivens.Systems.Blows
import MundusVivens.Systems.Frames
import MundusVivens.Walking.Sight
import MundusVivens.World.Settlers

set_option autoImplicit false

/-!
# The dead and their furniture

An NPC is dead from the tree pass in which it dies, and loses its tree in the death
pass of that frame. From then on nothing releases the furniture it still occupies.
-/

namespace MundusVivens

open Scalar BehaviorTree Runs

variable {F : Type}

-- What death changes about an NPC, and what it should change.
structure Mortal where
  named : Bool
  hasTree : Bool
  dead : Bool
  seat : Option Entity

def World.mortal (w : World F) (n : Entity) : Mortal :=
  ⟨(w.reg.identity n).isSome, (w.reg.behaviorTree n).isSome, w.isDead n, w.seatOf n⟩

-- Outside of the tree pass and the death pass: exactly the dead have no tree, and no seat either.
structure World.AtPeace (w : World F) : Prop where
  matched : w.Matched
  named : ∀ n, w.isNpc n = true → (w.mortal n).named = true
  buried : ∀ n, w.isNpc n = true → ((w.mortal n).hasTree = false ↔ (w.mortal n).dead = true)
  unseated : ∀ n, w.isNpc n = true → (w.mortal n).dead = true → (w.mortal n).seat = none

-- During the tree pass: whoever has no tree is dead and without a seat.
structure World.Fighting (w : World F) : Prop where
  matched : w.Matched
  named : ∀ n, w.isNpc n = true → (w.mortal n).named = true
  treeless : ∀ n, w.isNpc n = true → (w.mortal n).hasTree = false →
    (w.mortal n).dead = true ∧ (w.mortal n).seat = none

theorem World.AtPeace.fighting {w : World F} (peace : w.AtPeace) : w.Fighting where
  matched := peace.matched
  named := peace.named
  treeless := fun n npc bare =>
    ⟨(peace.buried n npc).mp bare, peace.unseated n npc ((peace.buried n npc).mp bare)⟩

theorem seatOf_of_not_npc {w : World F} {n : Entity} (other : ¬ w.isNpc n = true) :
    w.seatOf n = none := by
  have needs : w.reg.needs n = none := by simpa [World.isNpc] using other
  simp [World.seatOf, needs]

variable [Scalar F]

-- The events that neither hurt anybody nor bury the dead.
def Event.isPeaceable : Event F → Bool
  | .behaviorTree .. | .death _ => false
  | _ => true

omit [Scalar F] in
theorem seatOf_crisis (w w' : World F) (n : Entity)
    (same : (w'.reg.needs n).map NeedsComp.crisis = (w.reg.needs n).map NeedsComp.crisis) :
    w'.seatOf n = w.seatOf n := by
  have seats (m : World F) :
      m.seatOf n = ((m.reg.needs n).map NeedsComp.crisis).bind (·.seat) := by
    cases needs : m.reg.needs n <;> simp [World.seatOf, needs, NeedsComp.crisis]
  rw [seats, seats, same]

omit [Scalar F] in
-- What a step out of reach of health, trees and names leaves of an NPC, but for its seat.
theorem Within.mortal {s : Scope} {e n : Entity} {w w' : World F} (within : Within s e n w w')
    (named : s.covers .identity = false) (rooted : s.covers .behaviorTree = false)
    (unhurt : s.covers .health = false) (seat : w'.seatOf n = w.seatOf n) :
    w'.mortal n = w.mortal n := by
  have sameName : w'.reg.identity n = w.reg.identity n := within.same .identity named
  have sameTree : w'.reg.behaviorTree n = w.reg.behaviorTree n := within.same .behaviorTree rooted
  have sameHealth : w'.reg.health n = w.reg.health n := within.same .health unhurt
  simp [World.mortal, World.isDead, sameName, sameTree, sameHealth, seat]

theorem peaceable_mortal (event : Event F) (w w' : World F) (n : Entity) (matched : w.Matched)
    (peaceable : event.isPeaceable = true) (stepped : step event w = some w')
    (resident : w.Resident n) : w'.mortal n = w.mortal n := by
  have within := resident_step_within event w w' n resident stepped
  have untouched (named : event.scope.covers .identity = false)
      (rooted : event.scope.covers .behaviorTree = false)
      (unhurt : event.scope.covers .health = false)
      (carefree : event.scope.covers .needs = false) : w'.mortal n = w.mortal n := by
    have needs : w'.reg.needs n = w.reg.needs n := within.same .needs carefree
    exact within.mortal named rooted unhurt (by simp [World.seatOf, needs])
  cases event with
  | behaviorTree | death => cases peaceable
  | jobDriver e =>
      exact within.mortal rfl rfl rfl (seatOf_crisis w w' n (World.jobDriver_crisis w' n stepped))
  | survivalOverride e =>
      obtain rfl := Option.some.inj stepped
      exact within.mortal rfl rfl rfl (seatOf_crisis w _ n (World.survivalOverride_crisis n))
  | resolveAffordance e => rw [World.resolveAffordance_idle matched w' stepped]
  | command cmd => cases cmd <;> exact untouched rfl rfl rfl rfl
  | _ => exact untouched rfl rfl rfl rfl

theorem peaceable_kept (property : Mortal → Prop) (event : Event F) (w w' : World F)
    (matched : w.Matched) (peaceable : event.isPeaceable = true)
    (stepped : step event w = some w')
    (holds : ∀ n, w.isNpc n = true → property (w.mortal n)) (n : Entity)
    (npc : w'.isNpc n = true) : property (w'.mortal n) := by
  have before := step_npc event w w' n matched stepped npc
  rw [peaceable_mortal event w w' n matched peaceable stepped (matched.npc before)]
  exact holds n before

theorem peaceable_atPeace (event : Event F) (w w' : World F) (peaceable : event.isPeaceable = true)
    (peace : w.AtPeace) (stepped : step event w = some w') : w'.AtPeace where
  matched := step_matched event w w' peace.matched stepped
  named := peaceable_kept (fun m => m.named = true) event w w' peace.matched peaceable stepped peace.named
  buried := peaceable_kept (fun m => m.hasTree = false ↔ m.dead = true) event w w' peace.matched
    peaceable stepped peace.buried
  unseated := peaceable_kept (fun m => m.dead = true → m.seat = none) event w w' peace.matched
    peaceable stepped peace.unseated

theorem behaviorTree_mortal (e : Entity) (draw : BehaviorDraw) (w w' : World F) (n : Entity)
    (resident : w.Resident n) (visited : w.behaviorTree e draw = some w')
    (bare : (w.reg.behaviorTree n).isSome = false) : (w'.mortal n).seat = (w.mortal n).seat := by
  by_cases same : n = e
  next =>
    subst same
    have treeless : (w.reg.behaviorTree n).isNone = true := by simpa using bare
    obtain rfl : w = w' := by simpa [World.behaviorTree, treeless] using visited
    rfl
  next =>
    have within := (w.behaviorTree_within w' e n draw resident visited).others same
    have needs : w'.reg.needs n = w.reg.needs n := within.same .needs rfl
    simp [World.mortal, World.seatOf, needs]

theorem behaviorTree_fighting (e : Entity) (draw : BehaviorDraw) (w w' : World F)
    (fighting : w.Fighting) (visited : w.behaviorTree e draw = some w') : w'.Fighting := by
  have stepped : step (.behaviorTree e draw) w = some w' := visited
  have before (n : Entity) (npc : w'.isNpc n = true) : w.Resident n :=
    fighting.matched.npc (step_npc _ w w' n fighting.matched stepped npc)
  have kept (n : Entity) (npc : w'.isNpc n = true) :
      w'.reg.identity n = w.reg.identity n ∧ w'.reg.behaviorTree n = w.reg.behaviorTree n := by
    have within := w.behaviorTree_within w' e n draw (before n npc) visited
    exact ⟨within.same .identity rfl, within.same .behaviorTree rfl⟩
  refine ⟨step_matched _ w w' fighting.matched stepped, fun n npc => ?_, fun n npc bare => ?_⟩
  · have named := fighting.named n (step_npc _ w w' n fighting.matched stepped npc)
    simpa [World.mortal, (kept n npc).1] using named
  · have bare' : (w.mortal n).hasTree = false := by
      simpa [World.mortal, (kept n npc).2] using bare
    obtain ⟨dead, unseated⟩ :=
      fighting.treeless n (step_npc _ w w' n fighting.matched stepped npc) bare'
    refine ⟨?_, (behaviorTree_mortal e draw w w' n (before n npc) visited bare').trans unseated⟩
    have both := World.behaviorTree_kept e draw
      (fun m => m.Matched ∧ m.Resident n ∧ m.isDead n = true) (fun _ _ => True)
      (fun m here planted => here.1.planted planted)
      (fun leaf m status m' here starts _ ran =>
        ⟨World.runLeaf_matched draw leaf status m m' here.1 starts ran,
          (runLeaf_within e n draw leaf status m m' here.2.1 ran).resident
            (by cases leaf <;> rfl) here.2.1,
          World.runLeaf_dead m' draw leaf status n here.2.1 ran here.2.2⟩)
      w w' ⟨fighting.matched, before n npc, dead⟩ visited fun _ _ => trivial
    exact both.2.2

theorem deciding_fighting (input : FrameInput F) (w w' : World F) (fighting : w.Fighting)
    (decided : deciding input w = some w') : w'.Fighting := by
  have reaches : ReachesBy Event.isVisit w w' := .of_pass _ _ _ (fun _ => rfl) decided
  refine reaches.kept World.Fighting (fun event m m' kind here stepped => ?_) fighting
  cases event with
  | behaviorTree e draw => exact behaviorTree_fighting e draw m m' here stepped
  | _ => cases kind

theorem systemDeath_mortal (w : World F) (e n : Entity) : (w.systemDeath e).mortal n =
    if n = e ∧ (w.mortal n).dead = true ∧ (w.mortal n).named = true then
      { w.mortal n with hasTree := false }
    else w.mortal n := by
  have within := w.systemDeath_within e n
  have sameName : (w.systemDeath e).reg.identity n = w.reg.identity n := within.same .identity rfl
  have sameHealth : (w.systemDeath e).reg.health n = w.reg.health n := within.same .health rfl
  have sameNeeds : (w.systemDeath e).reg.needs n = w.reg.needs n := within.same .needs rfl
  by_cases same : n = e
  next =>
    subst same
    cases health : w.reg.health n with
    | none => simp [World.systemDeath, World.mortal, World.isDead, health]
    | some hp =>
        cases identity : w.reg.identity n with
        | none => simp [World.systemDeath, World.mortal, identity]
        | some name =>
            by_cases dead : hp.isDead = true
            next =>
              have bare : (w.systemDeath n).reg.behaviorTree n = none := by
                simp [World.systemDeath, health, identity, dead, World.eraseBehaviorTree]
              simp [World.mortal, World.isDead, World.seatOf, sameName, sameHealth, sameNeeds,
                health, identity, dead, bare]
            next =>
              simp [World.systemDeath, World.mortal, World.isDead, health, identity, dead]
  next =>
    have sameTree : (w.systemDeath e).reg.behaviorTree n = w.reg.behaviorTree n :=
      (within.others same).same .behaviorTree rfl
    simp [World.mortal, World.isDead, World.seatOf, sameName, sameHealth, sameNeeds, sameTree, same]

theorem deaths_mortal (entities : List Entity) (w w' : World F) (n : Entity)
    (followed : follow step (entities.map .death) w = some w') : w'.mortal n =
      if n ∈ entities ∧ (w.mortal n).dead = true ∧ (w.mortal n).named = true then
        { w.mortal n with hasTree := false }
      else w.mortal n := by
  induction entities generalizing w with
  | nil =>
      obtain rfl := Option.some.inj followed
      simp
  | cons e rest ih =>
      rw [List.map_cons, follow_cons] at followed
      have later := ih (w.systemDeath e) (by simpa [step] using followed)
      clear ih followed
      rw [later, systemDeath_mortal]
      by_cases gone : (w.mortal n).dead = true ∧ (w.mortal n).named = true
      next =>
        by_cases same : n = e
        next =>
          subst same
          simp [gone.1, gone.2]
        next => simp [same, gone.1, gone.2]
      next =>
        have spared (p : Prop) : ¬(p ∧ (w.mortal n).dead = true ∧ (w.mortal n).named = true) :=
          fun both => gone both.2
        simp [spared]

theorem burying_peace (input : FrameInput F) (w w' : World F) (fighting : w.Fighting)
    (released : ∀ n, w.isDead n = true → (w.reg.behaviorTree n).isSome = true → w.seatOf n = none)
    (buried : burying input w = some w') : w'.AtPeace := by
  have reaches : ReachesBy Event.isBurial w w' := .of_pass _ _ _ (fun _ => rfl) buried
  have kept : w'.Matched ∧ ∀ n, w'.isNpc n = true → w.isNpc n = true := by
    refine reaches.kept (fun m => m.Matched ∧ ∀ n, m.isNpc n = true → w.isNpc n = true)
      (fun event m m' _ here stepped => ⟨step_matched event m m' here.1 stepped, fun n npc => ?_⟩)
      ⟨fighting.matched, fun _ => id⟩
    exact here.2 n (step_npc event m m' n here.1 stepped npc)
  have mortals (n : Entity) := deaths_mortal _ w w' n buried
  -- The view of the death pass holds every dead NPC.
  have visited (n : Entity) (npc : w.isNpc n = true) (dead : (w.mortal n).dead = true) :
      n ∈ w.view (input.rank .death) fun e => (w.reg.health e).isSome := by
    have valid := (fighting.matched.npc npc).valid
    refine (mem_view w _ _ n).mpr ⟨?_, valid, ?_⟩
    · exact Nat.lt_of_not_le fun late => by simp [w.reg.issued n late] at valid
    · have gone : w.isDead n = true := dead
      unfold World.isDead at gone
      split at gone
      next hurt => simp [hurt]
      next => cases gone
  refine ⟨kept.1, fun n npc => ?_, fun n npc => ?_, fun n npc gone => ?_⟩
  · have named := fighting.named n (kept.2 n npc)
    rw [mortals]
    split <;> simpa using named
  · have before := kept.2 n npc
    have named := fighting.named n before
    rw [mortals]
    by_cases dead : (w.mortal n).dead = true
    next => simp [visited n before dead, dead, named]
    next =>
      have living : (w.mortal n).hasTree = true := by
        by_contra bare
        exact dead (fighting.treeless n before (by simpa using bare)).1
      simp [dead, living]
  · have before := kept.2 n npc
    have dead : (w.mortal n).dead = true := by
      rw [mortals] at gone
      split at gone <;> exact gone
    have seat : (w'.mortal n).seat = (w.mortal n).seat := by
      rw [mortals]
      split <;> rfl
    rw [seat]
    by_cases planted : (w.mortal n).hasTree = true
    next => exact released n dead planted
    next => exact (fighting.treeless n before (by simpa using planted)).2

def beforeDeaths (input : FrameInput F) (w : World F) : Option (World F) := do
  let opened ← opening input w
  let sensed ← sensing input opened
  deciding input sensed

/-- Whoever loses its tree in the frame occupies no furniture then. -/
def BuriesUnseated (w : World F) : Round F → Prop
  | .frame input => ∀ m, beforeDeaths input w = some m → ∀ n, m.isDead n = true →
      (m.reg.behaviorTree n).isSome = true → m.seatOf n = none
  | .thread _ => True

theorem peaceable_by (kind : Event F → Bool) (w w' : World F)
    (peaceable : ∀ event, kind event = true → event.isPeaceable = true)
    (reaches : ReachesBy kind w w') (peace : w.AtPeace) : w'.AtPeace :=
  reaches.kept World.AtPeace
    (fun event m m' sort here stepped =>
      peaceable_atPeace event m m' (peaceable event sort) here stepped) peace

omit [Scalar F] in
theorem outside_peaceable (event : Event F) (outside : (!event.isPhysics) = true) :
    event.isPeaceable = true := by
  cases event <;> first | rfl | cases outside

theorem beforeDeaths_fighting (input : FrameInput F) (w m : World F) (peace : w.AtPeace)
    (reached : beforeDeaths input w = some m) : m.Fighting := by
  simp only [beforeDeaths, Option.bind_eq_bind, Option.bind_eq_some_iff] at reached
  obtain ⟨opened, begun, sensed, senses, decides⟩ := reached
  have first := peaceable_by _ w opened outside_peaceable (opening_by input w opened begun) peace
  have alert := peaceable_by _ opened sensed (fun event sort => by
    cases event <;> first | rfl | cases sort) (sensing_by input opened sensed senses) first
  exact deciding_fighting input sensed m alert.fighting decides

theorem frame_peace (input : FrameInput F) (w w' : World F) (peace : w.AtPeace)
    (unseated : BuriesUnseated w (.frame input)) (framed : frame input w = some w') :
    w'.AtPeace := by
  simp only [frame, Option.bind_eq_bind, Option.bind_eq_some_iff] at framed
  obtain ⟨opened, begun, moved, walked, ended⟩ := framed
  obtain ⟨sensed, decided, buried, senses, decides, buries, walks⟩ :=
    physics_stages input opened moved walked
  have reached : beforeDeaths input w = some decided := by
    simp [beforeDeaths, begun, senses, decides]
  have fighting := beforeDeaths_fighting input w decided peace reached
  have rests := burying_peace input decided buried fighting (unseated decided reached) buries
  have last := peaceable_by _ buried moved (fun event sort => by
    cases event <;> first | rfl | cases sort) (walking_by input buried moved walks) rests
  exact peaceable_by _ moved w' outside_peaceable (closing_by input moved w' ended) last

theorem step_dead (event : Event F) (w w' : World F) (n : Entity) (matched : w.Matched)
    (resident : w.Resident n) (dead : w.isDead n = true) (stepped : step event w = some w') :
    w'.isDead n = true := by
  by_cases peaceable : event.isPeaceable = true
  next =>
    have same := peaceable_mortal event w w' n matched peaceable stepped resident
    exact (congrArg Mortal.dead same).trans dead
  next =>
    cases event with
    | behaviorTree e draw =>
        have both := World.behaviorTree_kept e draw
          (fun m => m.Matched ∧ m.Resident n ∧ m.isDead n = true) (fun _ _ => True)
          (fun m here planted => here.1.planted planted)
          (fun leaf m status m' here starts _ ran =>
            ⟨World.runLeaf_matched draw leaf status m m' here.1 starts ran,
              (runLeaf_within e n draw leaf status m m' here.2.1 ran).resident
                (by cases leaf <;> rfl) here.2.1,
              World.runLeaf_dead m' draw leaf status n here.2.1 ran here.2.2⟩)
          w w' ⟨matched, resident, dead⟩ stepped fun _ _ => trivial
        exact both.2.2
    | death e =>
        obtain rfl := Option.some.inj stepped
        have same := systemDeath_mortal w e n
        have kept := congrArg Mortal.dead same
        refine kept.trans ?_
        split <;> exact dead
    | _ => exact absurd rfl peaceable

/-- What a dead NPC has given up at the end of a frame, since its beginning. -/
structure LeavesFurniture (w w' : World F) (n : Entity) : Prop where
  seat : w'.seatOf n = none
  guests : ∀ f, w'.guestOf f ≠ some n
  removed : ∀ f aff, w.seatOf n = some f → w.reg.affordance f = some aff →
    aff.isTemporary = true → w'.reg.valid f = false

theorem frame_releases (input : FrameInput F) (w w' : World F) (peace : w.AtPeace)
    (after : w'.AtPeace) (framed : frame input w = some w') (n : Entity)
    (dead : w.isDead n = true) : LeavesFurniture w w' n := by
  obtain ⟨past, run⟩ := frame_reaches input w w' framed
  have kept : w'.Matched ∧ (w'.isNpc n = true → w.isNpc n = true) ∧
      (w.isNpc n = true → w'.Resident n ∧ w'.isDead n = true) := by
    refine @Run.invariant _ _ _ _ _ _ (fun _ _ => True) (fun m => m.Matched ∧
      (m.isNpc n = true → w.isNpc n = true) ∧
      (w.isNpc n = true → m.Resident n ∧ m.isDead n = true))
      ⟨peace.matched, id, fun npc => ⟨peace.matched.npc npc, dead⟩⟩
      (fun m event m' here _ stepped => ?_) run fun _ _ => trivial
    obtain ⟨matched, back, forth⟩ := here
    refine ⟨step_matched event m m' matched stepped,
      fun npc => back (step_npc event m m' n matched stepped npc), fun npc => ?_⟩
    obtain ⟨resident, gone⟩ := forth npc
    exact ⟨step_resident event m m' n resident stepped,
      step_dead event m m' n matched resident gone stepped⟩
  have seat : w'.seatOf n = none := by
    by_cases npc : w'.isNpc n = true
    next => exact after.unseated n npc (kept.2.2 (kept.2.1 npc)).2
    next => exact seatOf_of_not_npc npc
  have before : w.seatOf n = none := by
    by_cases npc : w.isNpc n = true
    next => exact peace.unseated n npc dead
    next => exact seatOf_of_not_npc npc
  refine ⟨seat, fun f taken => ?_, fun f aff taken => ?_⟩
  · have paired := after.matched.matching.paired n f
    rw [seat, taken] at paired
    obtain ⟨aff, stands, -⟩ := Option.bind_eq_some_iff.mp taken
    have valid := (after.matched.fitted f (by simp [World.fittings, stands])).1
    simpa using paired.mpr ⟨valid, rfl⟩
  · rw [before] at taken
    cases taken

structure World.Fresh (w : World F) : Prop where
  matched : w.Matched
  lively : ∀ n, w.isNpc n = true → w.mortal n = ⟨true, true, false, none⟩

omit [Scalar F] in
theorem World.Fresh.atPeace {w : World F} (fresh : w.Fresh) : w.AtPeace where
  matched := fresh.matched
  named := fun n npc => by simp [fresh.lively n npc]
  buried := fun n npc => by simp [fresh.lively n npc]
  unseated := fun n npc _ => by simp [fresh.lively n npc]

theorem Settles.mortal {w : World F} {x : Entity} {agent : InitialAgentState F}
    {draw : NeedsDraw F} (settles : Settles w x agent draw) :
    w.mortal x = ⟨true, true, false, none⟩ := by
  simp [World.mortal, World.isDead, World.seatOf, settles.identity, settles.behaviorTree,
    settles.health, settles.needs, HealthComp.initial]

omit [Scalar F] in
theorem Within.fresh {e n : Entity} {w w' : World F} (within : Within settlingScope e n w w')
    (npc : w'.isNpc n = true) (lively : w.isNpc n = true → w.mortal n = ⟨true, true, false, none⟩) :
    w'.mortal n = ⟨true, true, false, none⟩ := by
  have needs : w'.reg.needs n = w.reg.needs n := within.same .needs rfl
  rw [within.mortal rfl rfl rfl (by simp [World.seatOf, needs])]
  exact lively (by simpa [World.isNpc, needs] using npc)

theorem placeFurniture_fresh (w : World F) (furn : FurnitureData F) (fresh : w.Fresh) :
    (placeFurniture w furn).Fresh := by
  refine ⟨placeFurniture_matched w furn fresh.matched, fun n npc => ?_⟩
  by_cases same : n = w.reg.nextEntity
  next =>
    subst same
    simp [World.isNpc, placeFurniture_needs] at npc
  next =>
    exact (placeFurniture_within w furn n n same).fresh npc (fresh.lively n)

theorem spawnAgent_fresh (state : World F × UInt8) (agent : InitialAgentState F)
    (draw : NeedsDraw F) (fresh : state.1.Fresh) : (spawnAgent state agent draw).1.Fresh := by
  refine ⟨spawnAgent_matched state agent draw fresh.matched, fun n npc => ?_⟩
  by_cases same : n = state.1.reg.nextEntity
  next =>
    by_cases player : agent.agentId = 1
    next =>
      rw [spawnAgent_player state agent draw player] at npc ⊢
      exact fresh.lively n npc
    next =>
      subst same
      exact (spawnAgent_settles state agent draw player).mortal
  next =>
    exact (spawnAgent_within state agent draw n n same).fresh npc (fresh.lively n)

theorem bootstrap_fresh (data : WorldBootstrapData F) (settings : SimulationSettings F)
    (obstacles : Option (List Obstacle)) (draws : Nat → NeedsDraw F) (w : World F)
    (booted : bootstrap data settings obstacles draws = some w) : w.Fresh := by
  refine bootstrap_induction World.Fresh data settings obstacles draws w booted ?_
    placeFurniture_fresh spawnAgent_fresh
  refine ⟨⟨fun n has => ?_, fun n has => ?_, fun f has => ?_, fun n f => ?_, fun n own f has => ?_⟩,
    fun n npc => ?_⟩
  all_goals simp_all [World.fittings, emptyWorld, Registry.empty, Fittings.seat, Fittings.guest,
    World.isNpc]

theorem round_peace (turn : Round F) (w w' : World F) (peace : w.AtPeace)
    (unseated : BuriesUnseated w turn) (turned : roundStep turn w = some w') : w'.AtPeace := by
  cases turn with
  | frame input => exact frame_peace input w w' peace unseated turned
  | thread event =>
      simp only [roundStep] at turned
      split at turned
      next outside =>
        have peaceable : event.isPeaceable = true := by
          cases event <;> first | rfl | cases outside
        exact peaceable_atPeace event w w' peaceable peace turned
      next => cases turned

/-- A frame that begins with a dead NPC ends with its furniture given up, in every run in which
nobody is buried while seated. -/
theorem dead_leave_furniture (data : WorldBootstrapData F) (settings : SimulationSettings F)
    (obstacles : Option (List Obstacle)) (draws : Nat → NeedsDraw F) (start w : World F)
    (past : List (Transition (World F) (Round F)))
    (booted : bootstrap data settings obstacles draws = some start)
    (run : FrameRun start past w) (unseated : Guarded BuriesUnseated past) :
    ∀ t ∈ past, (∃ input, t.event = .frame input) → ∀ n, t.before.isDead n = true →
      LeavesFurniture t.before t.after n := by
  intro t member framed n dead
  have peace := (bootstrap_fresh data settings obstacles draws start booted).atPeace
  have does (m : World F) (turn : Round F) (m' : World F) (here : m.AtPeace)
      (guard : BuriesUnseated m turn) (turned : roundStep turn m = some m') :
      (∃ input, turn = .frame input) → ∀ n, m.isDead n = true → LeavesFurniture m m' n := by
    rintro ⟨input, rfl⟩ n dead
    exact frame_releases input m m' here (frame_peace input m m' here guard turned) turned n dead
  exact @Run.transitions _ _ _ _ _ _ _ World.AtPeace
    (fun m turn m' => (∃ input, turn = .frame input) → ∀ n, m.isDead n = true →
      LeavesFurniture m m' n)
    peace (fun m turn m' here guard turned => round_peace turn m m' here guard turned) does
    run unseated t member framed n dead

def wolf (npcId : UInt32) : InitialAgentState ℚ :=
  ⟨npcId, "wolf", "늑대", "Wilderness", 56, 0, 40, "평온", "대기", 1 / 2, []⟩

-- Ella camps beside a stone table; ten wolves roam two cells away.
def campData : WorldBootstrapData ℚ :=
  { locations := [⟨"여관", 2004, 0, 2004, 1, 1, 1⟩]
    agents := ⟨7, "ella", "엘라", "Wilderness", 40, 0, 40, "평온", "대기", 1 / 2, []⟩ ::
      (List.range 10).map fun k => wolf (.ofNat (20 + k))
    furniture := [⟨"돌 식탁", 3, "Wilderness", 41, 0, 40, false⟩]
    npcSpeed := 300
    ticksPerGameHour := 60 }

def campNeeds (hunger : ℚ) (agent : Nat) : NeedsDraw ℚ :=
  if agent = 0 then ⟨hunger, 100⟩ else ⟨100, 100⟩

def camp (hunger : ℚ) : World ℚ :=
  populate (emptyWorld campData ⟨300, 60⟩ (some [])) campData (campNeeds hunger)

theorem camp_boots (hunger : ℚ) :
    bootstrap campData ⟨300, 60⟩ (some []) (campNeeds hunger) = some (camp hunger) := by
  rw [bootstrap, if_neg (by decide), if_neg (by decide +kernel)]
  rfl

-- Ella stays, and the wolves wander fifteen units to the west.
def ambush : FrameInput ℚ :=
  { plainFrame with
    tree := fun e => ⟨id, fun k => if e = 1 then 1 else if k = 2 then 100 else 0⟩
    physicalTick := 1 }

-- Ella dies at the table, and still occupies it after a whole frame.
theorem dead_keeps_table : ∃ past s s', FrameRun (camp 10) (⟨s, .frame ambush, s'⟩ :: past) s' ∧
    (⟨s, .frame ambush, s'⟩ :: past).reverse.map (·.event) = List.replicate 4 (.frame ambush) ∧
    s.isDead 1 = true ∧ s'.seatOf 1 = some 0 ∧ s'.guestOf 0 = some 1 ∧
    ¬LeavesFurniture s s' 1 := by
  have passed : (followWhile roundStep (fun _ _ => true) (List.replicate 3 (.frame ambush))
      (camp 10)).any (fun s => (roundStep (.frame ambush) s).any fun s' =>
        s.isDead 1 && s'.seatOf 1 = some 0 && s'.guestOf 0 = some 1) = true := by decide +kernel
  obtain ⟨past, s, s', run, events, checked⟩ := Run.exists_of_last _ _ _ passed
  simp only [Bool.and_eq_true, decide_eq_true_eq] at checked
  obtain ⟨⟨dead, seated⟩, taken⟩ := checked
  exact ⟨past, s, s', run, events, dead, seated, taken, fun left => by simp [left.seat] at seated⟩

def buriesUnseated (w : World ℚ) : Round ℚ → Bool
  | .frame input => (beforeDeaths input w).all fun m => (List.range m.reg.nextEntity).all fun n =>
      !m.isDead n || (m.reg.behaviorTree n).isNone || (m.seatOf n).isNone
  | .thread _ => true

theorem buriesUnseated_of_check (w : World ℚ) (turn : Round ℚ) (peace : w.AtPeace)
    (checked : buriesUnseated w turn = true) : BuriesUnseated w turn := by
  cases turn with
  | thread event => trivial
  | frame input =>
      intro m reached n dead planted
      simp only [buriesUnseated, reached, Option.all_some, List.all_eq_true, List.mem_range] at checked
      by_cases npc : m.isNpc n = true
      next =>
        have fighting := beforeDeaths_fighting input w m peace reached
        have valid := (fighting.matched.npc npc).valid
        have issued : n < m.reg.nextEntity :=
          Nat.lt_of_not_le fun late => by simp [m.reg.issued n late] at valid
        simpa [dead, Option.isNone_eq_false_iff.mpr planted] using checked n issued
      next => exact seatOf_of_not_npc npc

-- Ella is not hungry, and dies on her feet.
theorem dead_leave_furniture_camp : ∃ past s s',
    FrameRun (camp 100) (⟨s, .frame ambush, s'⟩ :: past) s' ∧
    s.isDead 1 = true ∧ LeavesFurniture s s' 1 := by
  have passed : (followWhile roundStep buriesUnseated (List.replicate 3 (.frame ambush))
      (camp 100)).any (fun s => (roundStep (.frame ambush) s).isSome &&
        buriesUnseated s (.frame ambush) && s.isDead 1) = true := by decide +kernel
  obtain ⟨past, s, run, checks, -, checked⟩ := Run.exists_of_check _ _ _ passed
  simp only [Bool.and_eq_true] at checked
  obtain ⟨⟨turns, unseated⟩, dead⟩ := checked
  obtain ⟨s', turned⟩ := Option.isSome_iff_exists.mp turns
  have last := run.next turned
  have peace := (bootstrap_fresh _ _ _ _ _ (camp_boots 100)).atPeace
  have guarded : Guarded BuriesUnseated (⟨s, .frame ambush, s'⟩ :: past) := by
    refine @Run.transitions _ _ _ _ _ _ (fun s turn => buriesUnseated s turn = true)
      World.AtPeace (fun s turn _ => BuriesUnseated s turn) peace ?_ ?_ last
      ((Guarded.cons _).mpr ⟨unseated, checks⟩)
    · exact fun m turn m' here check turned =>
        round_peace turn m m' here (buriesUnseated_of_check m turn here check) turned
    · exact fun m turn _ here check _ => buriesUnseated_of_check m turn here check
  exact ⟨past, s, s', last, dead, dead_leave_furniture _ _ _ _ _ s' _ (camp_boots 100) last guarded
    ⟨s, .frame ambush, s'⟩ (List.mem_cons_self) ⟨ambush, rfl⟩ 1 dead⟩

end MundusVivens
