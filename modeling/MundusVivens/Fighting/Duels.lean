import MundusVivens.Fighting.Turns
import MundusVivens.Furniture.Npcs
import MundusVivens.Shared.Cooldown
import MundusVivens.World.Settlers

set_option autoImplicit false

namespace MundusVivens

open Scalar BehaviorTree Cooldown Runs

variable {F : Type} [Scalar F]

theorem World.systemDeath_cooldown (w : World F) (e x : Entity) :
    (w.systemDeath e).attackCooldown x = w.attackCooldown x := by
  have drops (m : World F) : (m.dropTarget e).attackCooldown x = m.attackCooldown x := by
    unfold World.dropTarget
    split
    next combat armed => exact World.attackCooldown_aim e x combat none armed
    next => rfl
  have stops : (w.stopToil e).reg.combat = w.reg.combat := by
    unfold World.stopToil
    repeat' split
    all_goals rfl
  have forgets (m : World F) : (m.dropWaypoints e).reg.combat = m.reg.combat := by
    unfold World.dropWaypoints
    split <;> rfl
  unfold World.systemDeath
  split
  next =>
    split
    next =>
      refine (drops _).trans (World.attackCooldown_of_combat _ (congrFun ?_ x))
      exact (forgets _).trans stops
    next => rfl
  next => rfl

theorem World.applyThreat_cooldown (w w' : World F) (e x : Entity) (targetNpcId : UInt32)
    (success : Bool) (actionCode : Int)
    (applied : w.applyThreat e targetNpcId success actionCode = some w') :
    w'.attackCooldown x = w.attackCooldown x := by
  unfold World.applyThreat at applied
  split at applied
  next => rw [← Option.some.inj applied]
  next aggro _ =>
    split at applied
    next => rw [← Option.some.inj applied]
    next =>
      simp only [Option.bind_eq_bind, Option.bind_eq_some_iff] at applied
      obtain ⟨identity, -, applied⟩ := applied
      split at applied
      next =>
        split at applied
        next =>
          obtain rfl := Option.some.inj applied
          exact World.attackCooldown_first_aim e x aggro.threatEntity
        next => rw [← Option.some.inj applied]; rfl
      next => rw [← Option.some.inj applied]; rfl

theorem World.drainTask_cooldown (w w' : World F) (x : Entity)
    (draws : Nat → LocationRegistry.RadiusDraw F) (drained : w.drainTask draws = some w') :
    w'.attackCooldown x = w.attackCooldown x := by
  rcases w.drainTask_cases w' draws drained with
    rfl | ⟨ticket, request, reply, rest, popped, ran⟩
  · rfl
  · have popped : ({ w with grpc := rest } : World F).attackCooldown x = w.attackCooldown x := rfl
    rw [← popped]
    have within := World.runTask_within _ w' x request reply draws ran
    by_cases threat : request.method = .threatDetected
    next =>
      cases request with
      | threatDetected npcId targetNpcId score e =>
          cases reply with
          | threat success actionCode => exact World.applyThreat_cooldown _ w' e x _ _ _ ran
          | _ => rw [← Option.some.inj ran]
      | _ => cases threat
    next =>
      have apart : request.method.taskScope.covers .combat = false := by
        cases method : request.method <;> first | rfl | exact absurd method threat
      exact World.attackCooldown_of_combat w' (within.same .combat apart)

theorem World.behaviorTree_cooldown (w w' : World F) (e x : Entity) (draw : BehaviorDraw)
    (matched : w.Matched) (resident : w.Resident x) (other : x ≠ e)
    (visited : w.behaviorTree e draw = some w') : w'.attackCooldown x = w.attackCooldown x := by
  have kept := World.behaviorTree_kept e draw
    (fun m => m.Matched ∧ m.Resident x ∧ m.attackCooldown x = w.attackCooldown x) (fun _ _ => True)
    (fun m here planted => here.1.planted planted)
    (fun leaf m status m' here starts _ ran =>
      ⟨World.runLeaf_matched draw leaf status m m' here.1 starts ran,
        (runLeaf_within e x draw leaf status m m' here.2.1 ran).resident
          (by cases leaf <;> rfl) here.2.1,
        (World.runLeaf_cooldown m' draw leaf status x here.2.1 (fun _ => other) ran).trans
          here.2.2⟩)
    w w' ⟨matched, resident, rfl⟩ visited fun _ _ => trivial
  exact kept.2.2

theorem step_cooldown (event : Event F) (w w' : World F) (x : Entity) (matched : w.Matched)
    (resident : w.Resident x) (apart : ∀ draw, event ≠ .behaviorTree x draw)
    (stepped : step event w = some w') : w'.attackCooldown x = w.attackCooldown x := by
  have within := resident_step_within event w w' x resident stepped
  have unarmed (covers : event.scope.covers .combat = false) :
      w'.attackCooldown x = w.attackCooldown x :=
    World.attackCooldown_of_combat w' (within.same .combat covers)
  cases event with
  | drainTask draws => exact w.drainTask_cooldown w' x draws stepped
  | behaviorTree e draw =>
      have other : x ≠ e := by
        rintro rfl
        exact apart draw rfl
      exact w.behaviorTree_cooldown w' e x draw matched resident other stepped
  | death e =>
      obtain rfl := Option.some.inj stepped
      exact w.systemDeath_cooldown e x
  | command cmd => cases cmd <;> exact unarmed rfl
  | _ => exact unarmed rfl

structure World.Warlike (w : World F) : Prop where
  matched : w.Matched
  hurt : ∀ n, w.isNpc n = true → w.reg.behaviorTree n = some () → (w.reg.health n).isSome = true
  drained : ∀ n health, w.isNpc n = true → w.reg.health n = some health → health.isDead = true →
    health.hp = zero

omit [Scalar F] in
theorem World.Matched.npcOfTree {w : World F} (matched : w.Matched) {n : Entity}
    (planted : w.reg.behaviorTree n = some ()) : w.isNpc n = true := by
  rw [World.isNpc_fittings]
  exact matched.living n (by simp [World.fittings, planted])

theorem World.Warlike.of_same {w w' : World F} (warlike : w.Warlike) (matched : w'.Matched)
    (npcs : ∀ n, w'.isNpc n = true → w.isNpc n = true ∧ w'.reg.health n = w.reg.health n ∧
      (w'.reg.behaviorTree n = some () → w.reg.behaviorTree n = some ())) : w'.Warlike where
  matched := matched
  hurt := fun n npc planted => by
    obtain ⟨before, health, tree⟩ := npcs n npc
    rw [health]
    exact warlike.hurt n before (tree planted)
  drained := fun n health npc has dead => by
    obtain ⟨before, same, -⟩ := npcs n npc
    exact warlike.drained n health before (same ▸ has) dead

theorem HealthComp.wounded_drained (health : HealthComp F) (damage : F)
    (alive : health.isDead = false) (dead : (health.wounded damage).isDead = true) :
    (health.wounded damage).hp = zero := by
  unfold wounded at dead ⊢
  split at dead
  next deadly => rw [if_pos deadly]
  next => simp [alive] at dead

theorem runLeaf_warlike (e : Entity) (draw : BehaviorDraw) (leaf : SurvivalLeaf)
    (w w' : World F) (status : NodeStatus) (warlike : w.Warlike)
    (crisis : startsInCrisis e leaf w) (fight : startsInFight e leaf w)
    (ran : runLeaf e draw leaf w = some (status, w')) : w'.Warlike := by
  have matched := World.runLeaf_matched draw leaf status w w' warlike.matched crisis ran
  have npcs (n : Entity) (npc : w'.isNpc n = true) : w.isNpc n = true ∧ w.Resident n := by
    have before := World.runLeaf_npc draw leaf status w w' warlike.matched ran npc
    exact ⟨before, warlike.matched.npc before⟩
  have trees (n : Entity) (npc : w'.isNpc n = true) :
      w'.reg.behaviorTree n = w.reg.behaviorTree n := by
    have within := runLeaf_within e n draw leaf status w w' (npcs n npc).2 ran
    have rooted : leaf.scope.covers .behaviorTree = false := by cases leaf <;> rfl
    exact within.same .behaviorTree rooted
  have healths (n : Entity) (npc : w'.isNpc n = true) :=
    World.runLeaf_health w' draw leaf status n (npcs n npc).2 ran
  refine ⟨matched, fun n npc planted => ?_, fun n health npc has dead => ?_⟩
  · rw [trees n npc] at planted
    rcases healths n npc with same | ⟨-, strikes⟩
    · rw [same]
      exact warlike.hurt n (npcs n npc).1 planted
    · obtain ⟨combat, -, -, -, -, health, -, blow⟩ := strikes.armed
      simp [blow]
  · rcases healths n npc with same | ⟨rfl, strikes⟩
    · exact warlike.drained n health (npcs n npc).1 (same ▸ has) dead
    · obtain ⟨combat, armed, aimed, -, -, before, hurt, blow⟩ := strikes.armed
      obtain rfl : before.wounded combat.attackDamage = health := by simpa [blow] using has
      have alive : before.isDead = false := by
        simpa [World.hasLivingTarget, armed, aimed, World.isDead, hurt] using (fight rfl).1
      exact before.wounded_drained combat.attackDamage alive dead

theorem visit_startsInFight (e : Entity) (draw : BehaviorDraw) (w w' : World F)
    (visited : w.behaviorTree e draw = some w') :
    ∀ start ∈ w.visitStarts e draw, startsInFight e start.leaf start.state :=
  w.visitStarts_outline e draw (survivalTree_fights e draw) w' trivial visited

theorem step_warlike (event : Event F) (w w' : World F) (warlike : w.Warlike)
    (stepped : step event w = some w') : w'.Warlike := by
  have matched := step_matched event w w' warlike.matched stepped
  have npcs (n : Entity) (npc : w'.isNpc n = true) : w.isNpc n = true ∧ w.Resident n := by
    have before := step_npc event w w' n warlike.matched stepped npc
    exact ⟨before, warlike.matched.npc before⟩
  have apart (unhurt : event.scope.covers .health = false)
      (rooted : event.scope.covers .behaviorTree = false) : w'.Warlike := by
    refine warlike.of_same matched fun n npc => ?_
    have within := resident_step_within event w w' n (npcs n npc).2 stepped
    have health : w'.reg.health n = w.reg.health n := within.same .health unhurt
    have tree : w'.reg.behaviorTree n = w.reg.behaviorTree n := within.same .behaviorTree rooted
    exact ⟨(npcs n npc).1, health, fun planted => tree ▸ planted⟩
  cases event with
  | behaviorTree e draw =>
      exact World.behaviorTree_kept e draw World.Warlike (startsInFight e)
        (fun m here planted => here.matched.planted planted)
        (fun leaf m status m' here crisis fight ran =>
          runLeaf_warlike e draw leaf m m' status here crisis fight ran)
        w w' warlike stepped (visit_startsInFight e draw w w' stepped)
  | death e =>
      obtain rfl := Option.some.inj stepped
      refine warlike.of_same matched fun n npc => ?_
      have within := w.systemDeath_within e n
      have health : (w.systemDeath e).reg.health n = w.reg.health n := within.same .health rfl
      refine ⟨(npcs n npc).1, health, fun planted => ?_⟩
      by_cases same : n = e
      next =>
        subst same
        have idle : w.systemDeath n = w ∨ (w.systemDeath n).reg.behaviorTree n = none := by
          unfold World.systemDeath
          repeat' split
          all_goals first | exact .inl rfl | simp [World.eraseBehaviorTree]
        rcases idle with untouched | bare
        · rwa [untouched] at planted
        · simp [bare] at planted
      next =>
        have tree : (w.systemDeath e).reg.behaviorTree n = w.reg.behaviorTree n :=
          (within.others same).same .behaviorTree rfl
        exact tree ▸ planted
  | command cmd => cases cmd <;> exact apart rfl rfl
  | _ => exact apart rfl rfl

theorem bootstrap_warlike (data : WorldBootstrapData F) (settings : SimulationSettings F)
    (obstacles : Option (List Obstacle)) (draws : Nat → NeedsDraw F) (w : World F)
    (booted : bootstrap data settings obstacles draws = some w) : w.Warlike := by
  have new (w w' : World F) (e : Entity) (warlike : w.Warlike) (matched : w'.Matched)
      (others : ∀ n, n ≠ e → Within settlingScope e n w w')
      (born : w'.isNpc e = true → w'.reg.health e = some .initial) : w'.Warlike := by
    have kept (n : Entity) (other : n ≠ e) : w'.isNpc n = w.isNpc n ∧
        w'.reg.health n = w.reg.health n ∧ w'.reg.behaviorTree n = w.reg.behaviorTree n := by
      have needs : w'.reg.needs n = w.reg.needs n := (others n other).same .needs rfl
      have health : w'.reg.health n = w.reg.health n := (others n other).same .health rfl
      have tree : w'.reg.behaviorTree n = w.reg.behaviorTree n :=
        (others n other).same .behaviorTree rfl
      exact ⟨by simp [World.isNpc, needs], health, tree⟩
    refine ⟨matched, fun n npc planted => ?_, fun n health npc has dead => ?_⟩
    · by_cases same : n = e
      next => subst same; simp [born npc]
      next =>
        obtain ⟨before, health, tree⟩ := kept n same
        rw [health]
        exact warlike.hurt n (before ▸ npc) (tree ▸ planted)
    · by_cases same : n = e
      next =>
        subst same
        obtain rfl : .initial = health := by simpa [born npc] using has
        simp [HealthComp.initial] at dead
      next =>
        obtain ⟨before, same, -⟩ := kept n same
        exact warlike.drained n health (before ▸ npc) (same ▸ has) dead
  refine bootstrap_induction World.Warlike data settings obstacles draws w booted ?_ ?_ ?_
  · refine ⟨⟨fun n has => ?_, fun n has => ?_, fun f has => ?_, fun n f => ?_,
      fun n own f has => ?_⟩, fun n npc => ?_, fun n health npc => ?_⟩
    all_goals simp_all [World.fittings, emptyWorld, Registry.empty, Fittings.seat, Fittings.guest,
      World.isNpc]
  · intro w furn warlike
    refine new w _ w.reg.nextEntity warlike (placeFurniture_matched w furn warlike.matched)
      (fun n other => placeFurniture_within w furn _ n other) fun npc => ?_
    simp [World.isNpc, placeFurniture_needs] at npc
  · intro state agent draw warlike
    by_cases player : agent.agentId = 1
    next => rw [spawnAgent_player state agent draw player]; exact warlike
    next =>
      exact new state.1 _ state.1.reg.nextEntity warlike
        (spawnAgent_matched state agent draw warlike.matched)
        (fun n other => spawnAgent_within state agent draw _ n other)
        fun _ => (spawnAgent_settles state agent draw player).health

/-- The attacker is strong and alive, and its target is alive and in reach. -/
structure World.FairBlow (w : World F) (e target : Entity) : Prop where
  strong : ∃ health, w.reg.health e = some health ∧ lt health.hp (lit 30) = false ∧
    health.isDead = false
  living : ∃ health, w.reg.health target = some health ∧ health.isDead = false
  near : ∃ combat, w.reg.combat e = some combat ∧
    w.inReach e target combat.attackRange = true

theorem World.Warlike.fairBlow {w : World F} {e target : Entity} (warlike : w.Warlike)
    (ordered : lt (zero : F) (lit 30) = true) (planted : w.reg.behaviorTree e = some ())
    (fight : w.hasLivingTarget e = true ∧ w.isWeak e = false)
    (damages : w.meleeVictim e = some target) : w.FairBlow e target := by
  obtain ⟨w', ran⟩ : ∃ w', w.actionMeleeAttack e = some (.success, w') := by
    unfold World.meleeVictim at damages
    split at damages
    next after _ attacked => exact ⟨after, attacked⟩
    next => cases damages
  obtain ⟨living, strong⟩ := fight
  rcases World.meleeVictim_cases w' .success ran with ⟨spared, -⟩ | ⟨victim, struck, strikes⟩
  · simp [spared] at damages
  obtain rfl : victim = target := by simpa [struck] using damages
  obtain ⟨combat, armed, aimed, -, near, health, hurt, -⟩ := strikes.armed
  have npc := warlike.matched.npcOfTree planted
  obtain ⟨own, healthy⟩ := Option.isSome_iff_exists.mp (warlike.hurt e npc planted)
  have enough : lt own.hp (lit 30) = false := by simpa [World.isWeak, healthy] using strong
  refine ⟨⟨own, healthy, enough, ?_⟩, ⟨health, hurt, ?_⟩, combat, armed, near⟩
  · by_contra dead
    rw [warlike.drained e own npc healthy (by simpa using dead), ordered] at enough
    cases enough
  · simpa [World.hasLivingTarget, armed, aimed, World.isDead, hurt] using living

theorem visit_fair (ordered : lt (zero : F) (lit 30) = true) (e : Entity) (draw : BehaviorDraw)
    (w w' : World F) (warlike : w.Warlike) (visited : w.behaviorTree e draw = some w') :
    ∀ turn ∈ w.visitStarts e draw, turn.leaf = .meleeAttack → ∀ target,
      turn.state.meleeVictim e = some target → turn.state.FairBlow e target := by
  intro turn member melee target damages
  have fights := visit_startsInFight e draw w w' visited
  by_cases planted : w.reg.behaviorTree e = some ()
  next =>
    have history := w.behaviorTree_history e draw
      (fun log m => (m.Warlike ∧ m.reg.behaviorTree e = some ()) ∧
        ∀ start ∈ log, start.state.Warlike ∧ start.state.reg.behaviorTree e = some ())
      (startsInFight e) w' ⟨⟨warlike, planted⟩, by simp⟩ warlike.matched.planted
      (fun log leaf m status m' here crisis fight ran => by
        obtain ⟨⟨warlike, planted⟩, before⟩ := here
        have within := runLeaf_within e e draw leaf status m m' (warlike.matched.planted planted) ran
        have rooted : leaf.scope.covers .behaviorTree = false := by cases leaf <;> rfl
        have tree : m'.reg.behaviorTree e = m.reg.behaviorTree e := within.same .behaviorTree rooted
        refine ⟨⟨runLeaf_warlike e draw leaf m m' status warlike crisis fight ran,
          tree.trans planted⟩, ?_⟩
        rintro start (_ | ⟨_, earlier⟩)
        · exact ⟨warlike, planted⟩
        · exact before start earlier)
      visited fights
    obtain ⟨here, rooted⟩ := history.2 turn member
    exact here.fairBlow ordered rooted (fights turn member melee) damages
  next =>
    simp [World.visitStarts, World.isNone_tree planted] at member

-- The melee turns among some starts: whom each damages, if anybody.
def meleeTurns (e : Entity) (starts : List (Start SurvivalLeaf (World F))) : List (Option Entity) :=
  (starts.filter (·.leaf = .meleeAttack)).map fun turn => turn.state.meleeVictim e

def visitTurns (e : Entity) (t : Transition (World F) (Event F)) : List (Option Entity) :=
  match t.event with
  | .behaviorTree x draw => if x = e then meleeTurns e (t.before.visitStarts e draw) else []
  | _ => []

def attackLog (e : Entity) (past : List (Transition (World F) (Event F))) : List (Option Entity) :=
  past.flatMap (visitTurns e)

theorem visit_cooldown (e : Entity) (draw : BehaviorDraw) (w w' : World F) (matched : w.Matched)
    (visited : w.behaviorTree e draw = some w') (log : List (Option Entity))
    (spaced : Spaced 20 log) (covers : Covers 20 log (w.attackCooldown e)) :
    Spaced 20 (meleeTurns e (w.visitStarts e draw) ++ log) ∧
      Covers 20 (meleeTurns e (w.visitStarts e draw) ++ log) (w'.attackCooldown e) := by
  by_cases planted : w.reg.behaviorTree e = some ()
  next =>
    have history := w.behaviorTree_history e draw
      (fun turns m => m.Resident e ∧ Spaced 20 (meleeTurns e turns ++ log) ∧
        Covers 20 (meleeTurns e turns ++ log) (m.attackCooldown e))
      (fun _ _ => True) w' ⟨matched.planted planted, spaced, covers⟩ matched.planted
      (fun turns leaf m status m' here crisis _ ran => by
        obtain ⟨resident, spaced, covers⟩ := here
        refine ⟨runLeaf_resident e draw leaf m status m' resident ran, ?_⟩
        by_cases melee : leaf = .meleeAttack
        next =>
          subst melee
          have turned : meleeTurns e (⟨.meleeAttack, m⟩ :: turns) ++ log =
              m.meleeVictim e :: (meleeTurns e turns ++ log) := by simp [meleeTurns]
          rw [turned]
          have spends := (World.meleeAttack_cooldown m' status ran).2
          cases victim : m.meleeVictim e with
          | none =>
              simp only [victim, Option.isSome_none, Bool.false_eq_true, if_false] at spends
              exact ⟨spaced.cons_miss, covers.cons_miss spends⟩
          | some target =>
              simp only [victim, Option.isSome_some, if_true] at spends
              exact ⟨spaced.cons_hit covers spends.1, Covers.cons_hit _ (by simp [spends.2])⟩
        next =>
          have skipped : meleeTurns e (⟨leaf, m⟩ :: turns) = meleeTurns e turns := by
            simp [meleeTurns, melee]
          rw [skipped, World.runLeaf_cooldown m' draw leaf status e resident
            (fun same => absurd same melee) ran]
          exact ⟨spaced, covers⟩)
      visited fun _ _ => trivial
    exact history.2
  next =>
    have bare := World.isNone_tree planted
    obtain rfl : w = w' := by simpa [World.behaviorTree, bare] using visited
    simpa [World.visitStarts, bare, meleeTurns] using ⟨spaced, covers⟩

structure Cooling (e : Entity) (past : List (Transition (World F) (Event F))) (w : World F) :
    Prop where
  warlike : w.Warlike
  spaced : Spaced 20 (attackLog e past)
  covers : attackLog e past = [] ∨ w.Resident e ∧ Covers 20 (attackLog e past) (w.attackCooldown e)

theorem step_cooling (e : Entity) (past : List (Transition (World F) (Event F))) (w w' : World F)
    (event : Event F) (cooling : Cooling e past w) (stepped : step event w = some w') :
    Cooling e (⟨w, event, w'⟩ :: past) w' := by
  have warlike := step_warlike event w w' cooling.warlike stepped
  have grown : attackLog e (⟨w, event, w'⟩ :: past) =
      visitTurns e ⟨w, event, w'⟩ ++ attackLog e past := rfl
  have covers : Covers 20 (attackLog e past) (w.attackCooldown e) := by
    rcases cooling.covers with empty | ⟨-, covers⟩
    · rw [empty]
      exact Covers.nil
    · exact covers
  by_cases visit : ∃ draw, event = .behaviorTree e draw
  next =>
    obtain ⟨draw, rfl⟩ := visit
    have turns : visitTurns e ⟨w, .behaviorTree e draw, w'⟩ =
        meleeTurns e (w.visitStarts e draw) := by simp [visitTurns]
    rw [turns] at grown
    obtain ⟨spaced, covered⟩ :=
      visit_cooldown e draw w w' cooling.warlike.matched stepped _ cooling.spaced covers
    refine ⟨warlike, grown ▸ spaced, ?_⟩
    rw [grown]
    by_cases planted : w.reg.behaviorTree e = some ()
    next =>
      have resident := cooling.warlike.matched.planted planted
      exact .inr ⟨step_resident _ w w' e resident stepped, covered⟩
    next =>
      have bare := World.isNone_tree planted
      have visited : w.behaviorTree e draw = some w' := stepped
      obtain rfl : w = w' := by simpa [World.behaviorTree, bare] using visited
      simpa [World.visitStarts, bare, meleeTurns] using cooling.covers
  next =>
    have apart (draw : BehaviorDraw) : event ≠ .behaviorTree e draw := fun same => visit ⟨draw, same⟩
    have silent : visitTurns e ⟨w, event, w'⟩ = [] := by
      unfold visitTurns
      split
      next x draw same =>
        have other : x ≠ e := by
          rintro rfl
          exact apart draw same
        simp [other]
      next => rfl
    rw [silent, List.nil_append] at grown
    refine ⟨warlike, grown ▸ cooling.spaced, ?_⟩
    rw [grown]
    rcases cooling.covers with empty | ⟨resident, covers⟩
    · exact .inl empty
    · rw [← step_cooldown event w w' e cooling.warlike.matched resident apart stepped] at covers
      exact .inr ⟨step_resident event w w' e resident stepped, covers⟩

/-- Every blow of a run is fair, and twenty turns without a blow lie between two blows of
one attacker. -/
structure FairDuels (past : List (Transition (World F) (Event F))) : Prop where
  fair : ∀ t ∈ past, ∀ e draw, t.event = .behaviorTree e draw →
    ∀ turn ∈ t.before.visitStarts e draw, turn.leaf = .meleeAttack → ∀ target,
      turn.state.meleeVictim e = some target → turn.state.FairBlow e target
  spaced : ∀ e, Spaced 20 (attackLog e past)

/-- In every run from bootstrap the duels are fair; the order of `0` and `30` is all that this
asks of the arithmetic. -/
theorem duels_are_fair (ordered : lt (zero : F) (lit 30) = true) (data : WorldBootstrapData F)
    (settings : SimulationSettings F) (obstacles : Option (List Obstacle))
    (draws : Nat → NeedsDraw F) (start w : World F)
    (past : List (Transition (World F) (Event F)))
    (booted : bootstrap data settings obstacles draws = some start)
    (run : ServerRun start past w) : FairDuels past := by
  have warlike := bootstrap_warlike data settings obstacles draws start booted
  constructor
  case fair =>
    intro t member
    exact @Run.transitions _ _ _ _ _ _ (fun _ _ => True) World.Warlike
      (fun w event _ => ∀ e draw, event = .behaviorTree e draw →
        ∀ turn ∈ w.visitStarts e draw, turn.leaf = .meleeAttack → ∀ target,
          turn.state.meleeVictim e = some target → turn.state.FairBlow e target)
      warlike (fun w event w' here _ stepped => step_warlike event w w' here stepped)
      (fun w event w' here _ stepped e draw visit => by
        subst visit
        exact visit_fair ordered e draw w w' here stepped)
      run (fun _ _ => trivial) t member
  case spaced =>
    intro e
    have cooling : Cooling e past w :=
      @Run.history _ _ _ _ _ _ (fun _ _ => True) (fun past w => Cooling e past w)
        ⟨warlike, Spaced.nil, .inl rfl⟩
        (fun past w event w' _ here _ stepped => step_cooling e past w w' event here stepped)
        run fun _ _ => trivial
    exact cooling.spaced

def prowlData : WorldBootstrapData ℚ :=
  { locations := [⟨"여관", 2004, 0, 2004, 1, 1, 1⟩]
    agents := [⟨7, "ella", "엘라", "Wilderness", 40, 0, 40, "평온", "대기", 1 / 2, []⟩,
      ⟨20, "wolf", "늑대", "Wilderness", 41, 0, 40, "평온", "대기", 1 / 2, []⟩]
    furniture := []
    npcSpeed := 2
    ticksPerGameHour := 60 }

def prowl : World ℚ :=
  populate (emptyWorld prowlData ⟨2, 60⟩ (some [])) prowlData fun _ => ⟨100, 100⟩

theorem prowl_boots : bootstrap prowlData ⟨2, 60⟩ (some []) (fun _ => ⟨100, 100⟩) = some prowl := by
  rw [bootstrap, if_neg (by decide), if_neg (by decide +kernel)]
  rfl

-- The wolf sees Ella, turns on her, bites, waits for its cooldown and bites again.
theorem duels_are_fair_prowl : ∃ past last, ServerRun prowl past last ∧
    past.reverse.map (·.event) =
      .perception 1 :: List.replicate 23 (.behaviorTree 1 ⟨id, fun _ => 0⟩) ∧
    (last.reg.health 0).map (·.hp) = some 80 ∧ FairDuels past := by
  have passed : (followWhile step (fun _ _ => true)
      (.perception 1 :: List.replicate 23 (.behaviorTree 1 ⟨id, fun _ => 0⟩)) prowl).any
      (fun w => (w.reg.health 0).map (·.hp) = some 80) = true := by decide +kernel
  obtain ⟨past, last, run, -, events, bitten⟩ := Run.exists_of_check _ _ _ passed
  exact ⟨past, last, run, events, by simpa using bitten,
    duels_are_fair (by decide +kernel) prowlData ⟨2, 60⟩ (some []) (fun _ => ⟨100, 100⟩) prowl last
      past prowl_boots run⟩

end MundusVivens
