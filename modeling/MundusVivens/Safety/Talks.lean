import MundusVivens.Accounts.Indexes
import MundusVivens.Dialogue.Formation
import MundusVivens.Safety.Soundness

set_option autoImplicit false

/-!
# The dialogues run

Whoever shows an activity is an NPC with a name and a place. So `SystemSocialInteraction`
finds what it reads of the candidates, and the dialogue tasks what they read of a party.
-/

namespace MundusVivens

open Scalar LocationRegistry

variable {F : Type} [Scalar F]

namespace World

variable {w m w' : World F} {e n : Entity}

theorem Intact.onStage (intact : w.Intact) (resident : w.Resident n) : w.OnStage n where
  resident := resident
  located := intact.sited n resident.valid
  shown := (intact.able n resident).shown
  named := by
    have known := intact.peopled.named n resident.valid
    simpa [ledger] using known

-- Whoever shows an activity is an NPC on the stage.
def Staged (w : World F) : Prop := ∀ n, (w.reg.activity n).isSome = true → w.OnStage n

theorem Intact.staged (intact : w.Intact) : w.Staged :=
  fun n acts => intact.onStage ((w.isNpc_ledger n).mp (intact.peopled.acting n acts))

omit [Scalar F] in
theorem OnStage.reads (stage : w.OnStage n) : (∃ loc, w.reg.location n = some loc) ∧
    (∃ activity, w.reg.activity n = some activity) ∧
    ∃ identity, w.reg.identity n = some identity :=
  ⟨Option.isSome_iff_exists.mp stage.located, Option.isSome_iff_exists.mp stage.shown,
    Option.isSome_iff_exists.mp stage.named⟩

omit [Scalar F] in
theorem OnStage.of_within {s : Scope} {e : Entity} (stage : w.OnStage n) (within : Within s e n w w')
    (spares : s.sparesResidents = true) (still : s.covers .location = false)
    (shown : (w'.reg.activity n).isSome = (w.reg.activity n).isSome)
    (named : s.covers .identity = false) : w'.OnStage n := by
  have location : w'.reg.location n = w.reg.location n := within.same .location still
  have identity : w'.reg.identity n = w.reg.identity n := within.same .identity named
  exact ⟨within.resident spares stage.resident, by rw [location]; exact stage.located,
    by rw [shown]; exact stage.shown, by rw [identity]; exact stage.named⟩

omit [Scalar F] in
theorem setCooldown_onStage (y : Entity) (cooldown : CooldownComp) (stage : w.OnStage n) :
    (w.setCooldown y cooldown).OnStage n :=
  ⟨⟨stage.resident.valid, stage.resident.unplayed, stage.resident.unfurnished⟩, stage.located,
    stage.shown, stage.named⟩

omit [Scalar F] in
theorem ensureCooldown_onStage (y : Entity) (stage : w.OnStage n) :
    (w.ensureCooldown y).1.OnStage n := by
  unfold ensureCooldown
  split
  next => exact stage
  next => exact setCooldown_onStage y _ stage

omit [Scalar F] in
theorem ensureCooldown_staged (y : Entity) (staged : w.Staged) : (w.ensureCooldown y).1.Staged := by
  intro n acts
  refine ensureCooldown_onStage y (staged n ?_)
  unfold ensureCooldown at acts
  split at acts <;> exact acts

structure Gathers (initiator : Entity) (state : Gathering F) : Prop where
  self : state.world.OnStage initiator
  staged : state.world.Staged
  candidates : ∀ c ∈ state.candidates, state.world.OnStage c

theorem gatherNeighbor_total (processed : List Entity) (initiator : Entity) (locI : LocationComp F)
    (draw : SocialDraw F) (state : Gathering F) (neighbor : Entity)
    (gathers : Gathers initiator state) :
    ∃ next, gatherNeighbor processed initiator locI draw state neighbor = some next ∧
      Gathers initiator next := by
  have ready : Gathers initiator
      { state with world := (state.world.ensureCooldown neighbor).1 } :=
    ⟨ensureCooldown_onStage neighbor gathers.self, ensureCooldown_staged neighbor gathers.staged,
      fun c member => ensureCooldown_onStage neighbor (gathers.candidates c member)⟩
  unfold gatherNeighbor
  dsimp only
  repeat' split
  next => exact ⟨_, rfl, gathers⟩
  next => exact ⟨_, rfl, gathers⟩
  next => exact ⟨_, rfl, gathers⟩
  next => exact ⟨_, rfl, ready⟩
  next => exact ⟨_, rfl, ready.self, ready.staged, ready.candidates⟩
  next activity shown _ _ =>
    have stage := ensureCooldown_onStage neighbor (gathers.staged neighbor (by simp [shown]))
    obtain ⟨⟨locC, located⟩, -, -⟩ := stage.reads
    simp only [located, Option.bind_eq_bind, Option.bind_some]
    split
    next => exact ⟨_, rfl, ready.self, ready.staged, ready.candidates⟩
    next =>
      refine ⟨_, rfl, ready.self, ready.staged, fun c member => ?_⟩
      rcases List.mem_append.mp member with before | new
      · exact ready.candidates c before
      · obtain rfl := List.mem_singleton.mp new
        exact stage

theorem chooseTarget_total (initiator : Entity) (idI : UInt32) (locI : LocationComp F)
    (cooldown : CooldownComp) (draw : SocialDraw F) (candidates : List Entity)
    (stage : ∀ c ∈ candidates, w.OnStage c) :
    ∃ chosen, w.chooseTarget initiator idI locI cooldown draw candidates = some chosen := by
  obtain ⟨weights, weighed⟩ := Folds.mapM_total (w.targetWeight initiator idI locI cooldown)
    candidates fun c member => by
      obtain ⟨⟨locC, located⟩, -, identity, named⟩ := (stage c member).reads
      unfold targetWeight
      simp only [named, located, Option.bind_eq_bind, Option.bind_some]
      repeat' split
      all_goals exact ⟨_, rfl⟩
  simp only [chooseTarget, weighed, Option.bind_eq_bind, Option.bind_some]
  split <;> exact ⟨_, rfl⟩

theorem joinGroup_total (initiator target : Entity) (draw : SocialDraw F) (group : Group)
    (other : Entity) (stage : w.OnStage other) :
    ∃ joined, w.joinGroup initiator target draw group other = some joined := by
  obtain ⟨-, -, identity, named⟩ := stage.reads
  unfold joinGroup
  simp only [named, Option.bind_eq_bind, Option.bind_some]
  repeat' split
  all_goals exact ⟨_, rfl⟩

theorem markRequesting_total (e : Entity) (stage : w.OnStage e) :
    ∃ marked, markRequesting w e = some marked ∧ ∀ n, w.OnStage n → marked.OnStage n := by
  obtain ⟨-, ⟨activity, shown⟩, -⟩ := stage.reads
  obtain ⟨marked, tagged, -⟩ := (w.setActivity e "대화 요청 중").setBusy_total e .dialogue
    stage.resident.valid
  refine ⟨marked, by simp [markRequesting, shown, tagged], fun n known => ?_⟩
  obtain ⟨-, owned, rfl⟩ := setBusy_cases tagged
  refine ⟨⟨known.resident.valid, known.resident.unplayed, known.resident.unfurnished⟩, known.located,
    ?_, known.named⟩
  by_cases same : n = e
  next => simp [setActivity, same, shown]
  next => simpa [setActivity, same] using known.shown

theorem requestDialogue_total (group : Group) (stage : ∀ e ∈ group.members, w.OnStage e) :
    ∃ requested, w.requestDialogue group = some requested := by
  obtain ⟨marked, tagged, -⟩ := Folds.foldlM_total
    (fun m : World F => ∀ e ∈ group.members, m.OnStage e) markRequesting group.members
    (fun e member m here => by
      obtain ⟨next, made, kept⟩ := markRequesting_total e (here e member)
      exact ⟨next, made, fun x among => kept x (here x among)⟩) w stage
  simp [requestDialogue, tagged]

theorem approach_total (initiator : Entity) (cooldown : CooldownComp) (locI : LocationComp F)
    (draw : SocialDraw F) (candidates : List Entity) (crowd : candidates ≠ [])
    (self : w.OnStage initiator) (stage : ∀ c ∈ candidates, w.OnStage c) :
    ∃ approached, w.approach initiator cooldown locI draw candidates = some approached := by
  obtain ⟨first, rest, rfl⟩ := List.exists_cons_of_ne_nil crowd
  obtain ⟨⟨zone, located⟩, -, -⟩ := (stage first List.mem_cons_self).reads
  obtain ⟨-, -, identity, named⟩ := self.reads
  simp only [approach, List.head?_cons, located, named, Option.bind_eq_bind, Option.bind_some]
  split
  next => exact ⟨_, rfl⟩
  next =>
    have started (cooldown : CooldownComp) (n : Entity) (known : w.OnStage n) :
        (w.setCooldown initiator cooldown).OnStage n := setCooldown_onStage initiator cooldown known
    obtain ⟨chosen, chooses⟩ := chooseTarget_total
      (w := w.setCooldown initiator { cooldown with lastInitiativeTick := w.clock.tick }) initiator
      identity.npcId locI { cooldown with lastInitiativeTick := w.clock.tick } draw (first :: rest)
      fun c member => started _ c (stage c member)
    rw [chooses]
    simp only [Option.bind_some]
    cases chosen with
    | none => exact ⟨_, rfl⟩
    | some target =>
        have candidate := chooseTarget_mem _ initiator target identity.npcId locI _ draw _ chooses
        have ready := started { cooldown with lastInitiativeTick := w.clock.tick } target
          (stage target candidate)
        obtain ⟨-, -, targetIdentity, known⟩ := ready.reads
        simp only [known, Option.bind_some]
        split
        next => exact ⟨_, rfl⟩
        next =>
          obtain ⟨group, joined, -⟩ := Folds.foldlM_total (fun _ : Group => True)
            ((w.setCooldown initiator
              { cooldown with lastInitiativeTick := w.clock.tick }).joinGroup initiator target draw)
            (first :: rest) (fun c member group _ => by
              obtain ⟨next, joins⟩ := joinGroup_total initiator target draw group c
                (started _ c (stage c member))
              exact ⟨next, joins, trivial⟩)
            ⟨[initiator, target], [identity.npcId, targetIdentity.npcId], 0⟩ trivial
          rw [joined]
          simp only [Option.bind_some]
          obtain ⟨requested, sent⟩ := requestDialogue_total group (w := w.setCooldown initiator
            { cooldown with lastInitiativeTick := w.clock.tick }) fun e member => by
              rcases joinGroups_members _ initiator target draw _ _ group joined e member with
                pair | other
              · simp only [List.mem_cons, List.not_mem_nil, or_false] at pair
                rcases pair with rfl | rfl
                · exact started _ e self
                · exact ready
              · exact started _ e (stage e other)
          rw [sent]
          exact ⟨_, rfl⟩

theorem socialInteraction_total (intact : w.Intact) (processed : List Entity) (draw : SocialDraw F)
    (initiator : Entity) :
    ∃ talked, w.socialInteraction processed draw initiator = some talked := by
  unfold socialInteraction
  split
  next locI activity identity _ shown _ =>
    split
    next => exact ⟨_, rfl⟩
    next =>
      dsimp only
      split
      next => exact ⟨_, rfl⟩
      next =>
        have self := ensureCooldown_onStage initiator (intact.staged initiator (by simp [shown]))
        have begun : Gathers initiator ⟨(w.ensureCooldown initiator).1, 0, [initiator]⟩ :=
          ⟨self, ensureCooldown_staged initiator intact.staged, fun c member => by
            obtain rfl := List.mem_singleton.mp member
            exact self⟩
        obtain ⟨gathered, found, gathers⟩ := Folds.foldlM_total (Gathers initiator)
          (gatherNeighbor processed initiator locI draw)
          ((w.ensureCooldown initiator).1.grid.getNearbyEntities locI.x locI.z (lit 8)
            (w.ensureCooldown initiator).1.reg.location)
          (fun neighbor _ state here => gatherNeighbor_total processed initiator locI draw state
            neighbor here)
          ⟨(w.ensureCooldown initiator).1, 0, [initiator]⟩ begun
        rw [Option.bind_eq_bind, found]
        simp only [Option.bind_some]
        split
        next => exact ⟨_, rfl⟩
        next crowd =>
          have perm := shuffled_perm draw.shuffle gathered.candidates
          have many : shuffled draw.shuffle gathered.candidates ≠ [] := by
            intro empty
            have same := perm.length_eq
            simp [empty] at same
            omega
          obtain ⟨approached, turned⟩ := approach_total initiator (w.ensureCooldown initiator).2 locI
            draw _ many gathers.self fun c member => gathers.candidates c (perm.mem_iff.mp member)
          rw [Option.bind_eq_bind, turned]
          exact ⟨_, rfl⟩
  next => exact ⟨_, rfl⟩

end World

end MundusVivens
