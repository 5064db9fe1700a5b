import MundusVivens.Counters.Writers
import MundusVivens.Fighting.Duels

set_option autoImplicit false

namespace MundusVivens

open Scalar BehaviorTree Runs

structure World.InBounds (w : World ℝ) (n : Entity) : Prop where
  needs : Has w.reg.needs n NeedsComp.Fit
  cooldown : Has w.reg.cooldown n CooldownComp.Fit
  aggro : Has w.reg.aggro n AggroComp.Fit
  health : Has w.reg.health n HealthComp.Fit
  combat : Has w.reg.combat n CombatComp.Fit
  emotion : Has w.reg.emotion n EmotionComp.Fit

structure World.Sound (w : World ℝ) : Prop where
  matched : w.Matched
  npcs : ∀ n, w.isNpc n = true → w.InBounds n

theorem World.Sound.resident {w : World ℝ} (sound : w.Sound) {n : Entity}
    (npc : w.isNpc n = true) : w.Resident n :=
  sound.matched.npc npc

section

variable {w w' : World ℝ} {n : Entity}

theorem drainTask_inBounds (draws : Nat → LocationRegistry.RadiusDraw ℝ) (bounded : w.InBounds n)
    (drained : w.drainTask draws = some w') : w'.InBounds n := by
  rcases w.drainTask_cases w' draws drained with
    rfl | ⟨ticket, request, reply, rest, popped, ran⟩
  · exact bounded
  have within := World.runTask_within _ w' n request reply draws ran
  have taken : ({ w with grpc := rest } : World ℝ).InBounds n :=
    ⟨bounded.needs, bounded.cooldown, bounded.aggro, bounded.health, bounded.combat,
      bounded.emotion⟩
  have apart (p : Part) (free : request.method.taskScope.covers p = false) :
      p.Same n { w with grpc := rest } w' := within.same p free
  cases request with
  | threatDetected npcId targetNpcId score e =>
      cases reply with
      | threat success actionCode =>
          have applied : ({ w with grpc := rest } : World ℝ).applyThreat e targetNpcId success
              actionCode = some w' := ran
          exact ⟨taken.needs.of_same (apart .needs rfl),
            World.applyThreat_cooldown_fit _ _ _ taken.cooldown applied,
            World.applyThreat_aggro _ _ _ taken.aggro applied,
            taken.health.of_same (apart .health rfl),
            World.applyThreat_combat _ _ _ taken.combat applied,
            taken.emotion.of_same (apart .emotion rfl)⟩
      | _ =>
          obtain rfl := Option.some.inj ran
          exact taken
  | triggerDialogue ids group tick =>
      cases reply with
      | dialogue success result =>
          have ended : ({ w with grpc := rest } : World ℝ).dialogueTask group tick success result
              draws = some w' := ran
          exact ⟨taken.needs.of_same (apart .needs rfl),
            World.dialogueTask_cooldown _ _ _ _ _ taken.cooldown ended,
            taken.aggro.of_same (apart .aggro rfl), taken.health.of_same (apart .health rfl),
            taken.combat.of_same (apart .combat rfl),
            World.dialogueTask_emotion _ _ _ _ _ taken.emotion ended⟩
      | _ =>
          obtain rfl := Option.some.inj ran
          exact taken
  | _ =>
      exact ⟨taken.needs.of_same (apart .needs rfl), taken.cooldown.of_same (apart .cooldown rfl),
        taken.aggro.of_same (apart .aggro rfl), taken.health.of_same (apart .health rfl),
        taken.combat.of_same (apart .combat rfl), taken.emotion.of_same (apart .emotion rfl)⟩

theorem runLeaf_sound (e : Entity) (draw : BehaviorDraw) (leaf : SurvivalLeaf)
    (status : NodeStatus) (sound : w.Sound) (planted : w.reg.behaviorTree e = some ())
    (crisis : startsInCrisis e leaf w) (ran : runLeaf e draw leaf w = some (status, w')) :
    w'.Sound := by
  refine ⟨World.runLeaf_matched draw leaf status w w' sound.matched crisis ran, fun n npc => ?_⟩
  have before := World.runLeaf_npc draw leaf status w w' sound.matched ran npc
  have resident := sound.resident before
  have bounded := sound.npcs n before
  have attacker := (sound.npcs e (sound.matched.npcOfTree planted)).combat
  have within := runLeaf_within e n draw leaf status w w' resident ran
  exact ⟨World.runLeaf_needs draw leaf status resident bounded.needs ran,
    bounded.cooldown.of_same (within.same .cooldown (by cases leaf <;> rfl)),
    World.runLeaf_aggro draw leaf status resident bounded.aggro ran,
    World.runLeaf_health_fit draw leaf status resident bounded.health attacker ran,
    World.runLeaf_combat draw leaf status resident bounded.combat ran,
    bounded.emotion.of_same (within.same .emotion (by cases leaf <;> rfl))⟩

theorem step_inBounds (event : Event ℝ) (matched : w.Matched) (resident : w.Resident n)
    (bounded : w.InBounds n) (rooted : ∀ e draw, event ≠ .behaviorTree e draw)
    (stepped : step event w = some w') : w'.InBounds n := by
  have within := resident_step_within event w w' n resident stepped
  have needs (free : event.scope.covers .needs = false) : Has w'.reg.needs n NeedsComp.Fit :=
    bounded.needs.of_same (within.same .needs free)
  have cooldown (free : event.scope.covers .cooldown = false) :
      Has w'.reg.cooldown n CooldownComp.Fit :=
    bounded.cooldown.of_same (within.same .cooldown free)
  have aggro (free : event.scope.covers .aggro = false) : Has w'.reg.aggro n AggroComp.Fit :=
    bounded.aggro.of_same (within.same .aggro free)
  have health (free : event.scope.covers .health = false) : Has w'.reg.health n HealthComp.Fit :=
    bounded.health.of_same (within.same .health free)
  have combat (free : event.scope.covers .combat = false) : Has w'.reg.combat n CombatComp.Fit :=
    bounded.combat.of_same (within.same .combat free)
  have emotion (free : event.scope.covers .emotion = false) :
      Has w'.reg.emotion n EmotionComp.Fit :=
    bounded.emotion.of_same (within.same .emotion free)
  cases event with
  | behaviorTree e draw => exact absurd rfl (rooted e draw)
  | drainTask draws => exact drainTask_inBounds draws bounded stepped
  | emotionDecay draw =>
      obtain rfl := Option.some.inj stepped
      exact ⟨needs rfl, cooldown rfl, aggro rfl, health rfl, combat rfl,
        World.emotionDecay_fit draw bounded.emotion⟩
  | dailyReset =>
      obtain rfl := Option.some.inj stepped
      exact ⟨needs rfl, World.dailyReset_cooldown bounded.cooldown, aggro rfl, health rfl,
        combat rfl, emotion rfl⟩
  | recoverEnergy e =>
      obtain rfl := Option.some.inj stepped
      exact ⟨needs rfl, World.recoverEnergy_cooldown bounded.cooldown, aggro rfl, health rfl,
        combat rfl, emotion rfl⟩
  | socialInteraction processed draw initiator =>
      obtain ⟨⟨talked, grown⟩, visited, rfl⟩ := Option.map_eq_some_iff.mp stepped
      exact ⟨needs rfl,
        World.socialInteraction_cooldown processed grown draw initiator bounded.cooldown visited,
        aggro rfl, health rfl, combat rfl, emotion rfl⟩
  | jobDriver e =>
      exact ⟨World.jobDriver_needs bounded.needs stepped, cooldown rfl, aggro rfl, health rfl,
        combat rfl, emotion rfl⟩
  | survivalOverride e =>
      obtain rfl := Option.some.inj stepped
      exact ⟨World.survivalOverride_needs bounded.needs, cooldown rfl, aggro rfl, health rfl,
        combat rfl, emotion rfl⟩
  | perception e =>
      obtain rfl := Option.some.inj stepped
      exact ⟨needs rfl, cooldown rfl, World.perception_aggro bounded.aggro, health rfl,
        combat rfl, emotion rfl⟩
  | death e =>
      obtain rfl := Option.some.inj stepped
      exact ⟨needs rfl, cooldown rfl, aggro rfl, health rfl,
        World.systemDeath_combat bounded.combat, emotion rfl⟩
  | resolveAffordance e =>
      -- Nothing is left to resolve where furniture matches its users.
      obtain rfl := World.resolveAffordance_idle matched w' stepped
      exact bounded
  | command cmd =>
      cases cmd <;> exact ⟨needs rfl, cooldown rfl, aggro rfl, health rfl, combat rfl, emotion rfl⟩
  | _ => exact ⟨needs rfl, cooldown rfl, aggro rfl, health rfl, combat rfl, emotion rfl⟩

theorem step_sound (event : Event ℝ) (sound : w.Sound) (stepped : step event w = some w') :
    w'.Sound := by
  by_cases rooted : ∀ e draw, event ≠ .behaviorTree e draw
  next =>
    refine ⟨step_matched event w w' sound.matched stepped, fun n npc => ?_⟩
    have before := step_npc event w w' n sound.matched stepped npc
    exact step_inBounds event sound.matched (sound.resident before) (sound.npcs n before) rooted
      stepped
  next =>
    push Not at rooted
    obtain ⟨e, draw, rfl⟩ := rooted
    have kept := World.behaviorTree_kept e draw
      (fun m => m.Sound ∧ (m.reg.behaviorTree e = w.reg.behaviorTree e))
      (fun _ _ => w.reg.behaviorTree e = some ())
      (fun m here planted => here.1.matched.planted planted)
      (fun leaf m status m' here crisis planted ran => by
        have rooted := here.2.trans planted
        refine ⟨runLeaf_sound e draw leaf status here.1 rooted crisis ran, ?_⟩
        have resident := here.1.matched.planted rooted
        have within := runLeaf_within e e draw leaf status m m' resident ran
        exact Eq.trans (within.same .behaviorTree (by cases leaf <;> rfl)) here.2)
      w w' ⟨sound, rfl⟩ stepped fun start member => World.planted_of_start member
    exact kept.1

end

-- What the draws of `main` and the AI server promise about the agents.
structure FairStart (data : WorldBootstrapData ℝ) (draws : Nat → NeedsDraw ℝ) : Prop where
  extroversion : ∀ agent ∈ data.agents, 0 ≤ agent.extroversion ∧ agent.extroversion ≤ 1
  needs : ∀ i, (50 ≤ (draws i).hunger ∧ (draws i).hunger ≤ 90) ∧
    (50 ≤ (draws i).fatigue ∧ (draws i).fatigue ≤ 90)

theorem agentCooldown_fit (extroversion : ℝ) (fit : 0 ≤ extroversion) :
    (agentCooldown extroversion).Fit := by
  have energy : 0 ≤ (trunc (lit 50 + extroversion * lit 100) : Int) := by
    have positive : 0 ≤ (lit 50 + extroversion * lit 100 : ℝ) := by
      simp only [lit_real]
      push_cast
      linarith
    change 0 ≤ (if (lit 50 + extroversion * lit 100 : ℝ) < 0 then _ else _ : Int)
    rw [if_neg positive.not_gt]
    exact Int.floor_nonneg.mpr positive
  exact ⟨energy, Int.le_refl _⟩

theorem HealthComp.initial_fit : (HealthComp.initial : HealthComp ℝ).Fit := by
  refine ⟨?_, ?_⟩
  · simp [initial]
  · simp [initial]

theorem bootstrap_inBounds (data : WorldBootstrapData ℝ) (settings : SimulationSettings ℝ)
    (obstacles : Option (List Obstacle)) (draws : Nat → NeedsDraw ℝ) (w : World ℝ)
    (booted : bootstrap data settings obstacles draws = some w) (fair : FairStart data draws)
    (n : Entity) (npc : w.isNpc n = true) : w.InBounds n := by
  refine bootstrap_npcs World.InBounds data settings obstacles draws w booted ?_ ?_ n npc
  · intro e n w w' within bounded
    exact ⟨bounded.needs.of_same (within.same .needs rfl),
      bounded.cooldown.of_same (within.same .cooldown rfl),
      bounded.aggro.of_same (within.same .aggro rfl),
      bounded.health.of_same (within.same .health rfl),
      bounded.combat.of_same (within.same .combat rfl),
      bounded.emotion.of_same (within.same .emotion rfl)⟩
  · intro agent listed i w n settles
    obtain ⟨hunger, fatigue⟩ := fair.needs i
    obtain ⟨id, felt⟩ := settles.emotion
    exact ⟨⟨_, settles.needs, ⟨⟨by dsimp only; linarith, by dsimp only; linarith⟩,
        ⟨by dsimp only; linarith, by dsimp only; linarith⟩⟩⟩,
      ⟨_, settles.cooldown, agentCooldown_fit _ (fair.extroversion agent listed).1⟩,
      ⟨_, settles.aggro, by simp [AggroComp.Fit, AggroComp.initial]⟩,
      ⟨_, settles.health, HealthComp.initial_fit⟩, ⟨_, settles.combat, CombatComp.initial_fit⟩,
      ⟨_, felt, Int.le_refl 0⟩⟩

/-- In every reachable world the counters of every NPC are within their bounds. -/
theorem counters_stay_in_bounds (data : WorldBootstrapData ℝ) (settings : SimulationSettings ℝ)
    (obstacles : Option (List Obstacle)) (draws : Nat → NeedsDraw ℝ) (start w : World ℝ)
    (past : List (Transition (World ℝ) (Event ℝ)))
    (booted : bootstrap data settings obstacles draws = some start) (fair : FairStart data draws)
    (run : ServerRun start past w) (n : Entity) (npc : w.isNpc n = true) : w.InBounds n := by
  have first : start.Sound :=
    ⟨bootstrap_matched data settings obstacles draws start booted,
      bootstrap_inBounds data settings obstacles draws start booted fair⟩
  have sound := run.preserved World.Sound first fun w event w' => step_sound event
  exact sound.npcs n npc

noncomputable def hermitData : WorldBootstrapData ℝ :=
  { locations := [⟨"동굴", lit 10, 0, lit 10, 1, 1, 1⟩]
    agents := [⟨7, "otto", "오토", "동굴", lit 9, 0, lit 10, "평온", "대기", 1, []⟩]
    furniture := []
    npcSpeed := lit 2
    ticksPerGameHour := 60 }

theorem hermitData_fair : FairStart hermitData fun _ => ⟨lit 60, lit 70⟩ := by
  refine ⟨fun agent listed => ?_, fun _ => ?_⟩
  · obtain rfl := List.mem_singleton.mp listed
    norm_num
  · norm_num

noncomputable def hermitage : World ℝ :=
  populate (emptyWorld hermitData ⟨lit 2, 60⟩ (some [])) hermitData fun _ => ⟨lit 60, lit 70⟩

theorem hermit_boots :
    bootstrap hermitData ⟨lit 2, 60⟩ (some []) (fun _ => ⟨lit 60, lit 70⟩) = some hermitage := by
  have speed : lt (lit 0.001) (Scalar.abs ((lit 2 : ℝ) - hermitData.npcSpeed)) = false := by
    norm_num [lt, Scalar.abs, hermitData, zero]
  rw [bootstrap, if_neg (by decide), if_neg (by rw [speed]; decide)]
  rfl

-- The hermit grows hungrier.
theorem counters_stay_in_bounds_hermit :
    (hermitage.survivalOverride 0).isNpc 0 = true ∧ (hermitage.survivalOverride 0).InBounds 0 := by
  have settled : hermitage.isNpc 0 = true := rfl
  have npc : (hermitage.survivalOverride 0).isNpc 0 = true := by
    unfold World.survivalOverride
    split
    next => simp [World.isNpc, World.setNeeds]
    next => exact settled
  have stepped : step (.survivalOverride 0) hermitage = some (hermitage.survivalOverride 0) := rfl
  exact ⟨npc, counters_stay_in_bounds hermitData ⟨lit 2, 60⟩ (some []) (fun _ => ⟨lit 60, lit 70⟩)
    hermitage _ _ hermit_boots hermitData_fair (.next .rest stepped) 0 npc⟩

end MundusVivens
