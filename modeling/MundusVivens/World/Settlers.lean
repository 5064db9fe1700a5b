import MundusVivens.World.Bootstrap
import MundusVivens.World.Footprint
import MundusVivens.World.Neighbours

set_option autoImplicit false

namespace MundusVivens

open Scalar

variable {F : Type} [Scalar F]

def settlingScope : Scope := ⟨[], [.handles, .index, .emotions, .mapper, .grid]⟩

theorem placeFurniture_within (w : World F) (furn : FurnitureData F) (e x : Entity)
    (other : x ≠ w.reg.nextEntity) : Within settlingScope e x w (placeFurniture w furn) := by
  have created : Within settlingScope e x w { w with reg := w.reg.create } :=
    within_create other (by simp [settlingScope])
  rw [placeFurniture, within_updateEntityPosition _ _ (.inl other) (by simp [settlingScope])]
  simpa [other] using created

theorem equipAgent_within (w : World F) (y e x : Entity) (agent : InitialAgentState F)
    (emotionId : UInt8) (draw : NeedsDraw F) (other : x ≠ y) :
    Within settlingScope e x w (equipAgent w y agent emotionId draw) := by
  intro p _ _
  cases p
  case handles | index | emotions | mapper | settings | grid | walls | search | tcp | clock |
      tickets | calls =>
    exact rfl
  all_goals simp [Part.Same, equipAgent, other]

theorem spawnAgent_within (state : World F × UInt8) (agent : InitialAgentState F)
    (draw : NeedsDraw F) (e x : Entity) (other : x ≠ state.1.reg.nextEntity) :
    Within settlingScope e x state.1 (spawnAgent state agent draw).1 := by
  obtain ⟨w, nextEmoId⟩ := state
  unfold spawnAgent
  dsimp only
  split
  next => exact .refl _ e x w
  next =>
    refine Within.trans ?_ (equipAgent_within _ _ e x agent _ draw other)
    have created : Within settlingScope e x w { w with reg := w.reg.create } :=
      within_create other (by simp [settlingScope])
    have identified : Within settlingScope e x w
        (({ w with reg := w.reg.create } : World F).setIdentity w.reg.nextEntity
          ⟨agent.agentId, agent.name⟩) := by
      simpa [other] using created
    have numbered (m : World F) (emotions : EmotionRegistry) :
        Within settlingScope e x m { m with emotions := emotions } := by
      refine (Within.after_global .emotions (by simp [settlingScope]) fun q differs => ?_).mpr
        (.refl _ e x m)
      cases q <;> first | exact absurd rfl differs | exact rfl
    have indexed (m : World F) (index : EntityIndex) (mapper : AgentIdMapper) :
        Within settlingScope e x m { m with index := index, mapper := mapper } := by
      intro q foreign _
      cases q
      case index | mapper => simp [settlingScope] at foreign
      all_goals exact rfl
    refine Within.trans ?_ (numbered _ _)
    rw [within_updateEntityPosition _ _ (.inl other) (by simp [settlingScope]),
      within_setLocation _ (.inl other)]
    exact identified.trans (indexed _ _ _)

theorem updateEntityPosition_same (w : World F) (e : Entity) (x z : F) (p : Part)
    (foreign : p ≠ .location ∧ p ≠ .grid) : p.Same e w (w.updateEntityPosition e x z) := by
  have placed : Within ⟨[], [.location, .grid]⟩ e e w (w.updateEntityPosition e x z) :=
    (within_updateEntityPosition x z (.inr (.inr (by simp))) (by simp)).mpr (.refl _ e e w)
  exact placed.same p (by simp [Scope.covers, foreign])

theorem placeFurniture_needs (w : World F) (furn : FurnitureData F) :
    (placeFurniture w furn).reg.needs w.reg.nextEntity = none := by
  rw [placeFurniture]
  refine Eq.trans (updateEntityPosition_same _ _ _ _ .needs (by simp)) ?_
  simp [World.setAffordance, World.setLocation, World.setIdentity, Registry.create,
    Registry.destroy]

structure Settles (w : World F) (x : Entity) (agent : InitialAgentState F) (draw : NeedsDraw F) :
    Prop where
  valid : w.reg.valid x = true
  identity : w.reg.identity x = some ⟨agent.agentId, agent.name⟩
  needs : w.reg.needs x = some ⟨draw.hunger, draw.fatigue, false, .none, none⟩
  job : w.reg.job x = some .initial
  toil : w.reg.toil x = some .initial
  health : w.reg.health x = some .initial
  combat : w.reg.combat x = some .initial
  aggro : w.reg.aggro x = some .initial
  behaviorTree : w.reg.behaviorTree x = some ()
  cooldown : w.reg.cooldown x = some (agentCooldown agent.extroversion)
  emotion : ∃ id, w.reg.emotion x = some ⟨agent.emotion, agent.emotion, id, id, 0⟩
  lastSynced : w.reg.lastSynced x = some ⟨agent.location, agent.emotion, agent.activity⟩

theorem spawnAgent_settles (state : World F × UInt8) (agent : InitialAgentState F)
    (draw : NeedsDraw F) (settler : agent.agentId ≠ 1) :
    Settles (spawnAgent state agent draw).1 state.1.reg.nextEntity agent draw := by
  obtain ⟨w, nextEmoId⟩ := state
  unfold spawnAgent
  dsimp only
  rw [if_neg settler]
  constructor
  case valid =>
    refine Eq.trans (updateEntityPosition_same _ _ _ _ .valid (by simp)) ?_
    simp [World.setLocation, World.setIdentity, Registry.create]
  case identity =>
    refine Eq.trans (updateEntityPosition_same _ _ _ _ .identity (by simp)) ?_
    simp [World.setLocation, World.setIdentity]
  all_goals simp [equipAgent]

theorem spawnAgent_player (state : World F × UInt8) (agent : InitialAgentState F)
    (draw : NeedsDraw F) (player : agent.agentId = 1) : spawnAgent state agent draw = state := by
  obtain ⟨w, nextEmoId⟩ := state
  simp [spawnAgent, player]

theorem updateEntityPosition_grid (w : World F) (e : Entity) (x z : F) :
    (w.updateEntityPosition e x z).grid =
      (w.grid.updateEntityPosition e x z (w.reg.location e)).1 := by
  unfold World.updateEntityPosition
  dsimp only
  split <;> rfl

theorem emptyWorld_coherent (data : WorldBootstrapData F) (settings : SimulationSettings F)
    (obstacles : Option (List Obstacle)) : (emptyWorld data settings obstacles).grid.Coherent := by
  have registered (locations : List (LocationData F)) (grid : LocationRegistry F)
      (coherent : grid.Coherent) : (locations.foldl
        (fun grid loc => grid.registerLocation loc.name
          ⟨loc.x, loc.z, .ofUInt8 loc.type, loc.regionId, loc.territoryId⟩) grid).Coherent := by
    induction locations generalizing grid with
    | nil => exact coherent
    | cons loc rest ih =>
        obtain ⟨cells, record⟩ := LocationRegistry.getOrCreateZoneId_index
          { grid with locationCenters := grid.locationCenters.filter (·.1 ≠ loc.name) ++
            [(loc.name, ⟨loc.x, loc.z, .ofUInt8 loc.type, loc.regionId, loc.territoryId⟩)] } loc.name
        exact ih _ (coherent.of_same cells record)
  have baked (entries : List (String × LocationMeta F)) (grid : LocationRegistry F)
      (coherent : grid.Coherent) : (entries.foldl
        (LocationRegistry.bakeLocation GridMap.width GridMap.height) grid).Coherent := by
    induction entries generalizing grid with
    | nil => exact coherent
    | cons entry rest ih =>
        obtain ⟨cells, record⟩ := LocationRegistry.getOrCreateZoneId_index grid entry.1
        exact ih _ (coherent.of_same cells record)
  have all := registered data.locations _ LocationRegistry.empty_coherent
  exact baked _ _ (all.of_same rfl rfl)

theorem bootstrap_coherent (data : WorldBootstrapData F) (settings : SimulationSettings F)
    (obstacles : Option (List Obstacle)) (draws : Nat → NeedsDraw F) (w : World F)
    (booted : bootstrap data settings obstacles draws = some w) : w.grid.Coherent := by
  refine bootstrap_induction (fun w => w.grid.Coherent) data settings obstacles draws w booted
    (emptyWorld_coherent data settings obstacles) (fun w furn coherent => ?_)
    fun state agent draw coherent => ?_
  · rw [placeFurniture, updateEntityPosition_grid]
    exact LocationRegistry.updateEntityPosition_coherent _ _ _ _ _ coherent
  · obtain ⟨w, nextEmoId⟩ := state
    unfold spawnAgent
    dsimp only
    split
    next => exact coherent
    next =>
      have placed (m : World F) (e : Entity) (x z : F) (coherent : m.grid.Coherent) :
          (m.updateEntityPosition e x z).grid.Coherent := by
        rw [updateEntityPosition_grid]
        exact LocationRegistry.updateEntityPosition_coherent _ _ _ _ _ coherent
      exact placed _ _ _ _ coherent

theorem bootstrap_spares {data : WorldBootstrapData F} {settings : SimulationSettings F}
    {obstacles : Option (List Obstacle)} {draws : Nat → NeedsDraw F} {w : World F} (p : Part)
    (shared : p.isShared = true) (spared : settlingScope.covers p = false)
    (booted : bootstrap data settings obstacles draws = some w) :
    p.Same 0 (emptyWorld data settings obstacles) w := by
  refine bootstrap_induction (p.Same 0 (emptyWorld data settings obstacles)) data settings obstacles
    draws w booted (.refl p 0 _) (fun w furn same => ?_) fun state agent draw same => ?_
  · have kept := placeFurniture_within w furn 0 (w.reg.nextEntity + 1) (Nat.succ_ne_self _)
    exact same.trans ((kept.same p spared).anywhere shared 0)
  · have kept := spawnAgent_within state agent draw 0 (state.1.reg.nextEntity + 1)
      (Nat.succ_ne_self _)
    exact same.trans ((kept.same p spared).anywhere shared 0)

theorem bootstrap_silent {data : WorldBootstrapData F} {settings : SimulationSettings F}
    {obstacles : Option (List Obstacle)} {draws : Nat → NeedsDraw F} {w : World F}
    (booted : bootstrap data settings obstacles draws = some w) : w.grpc = .empty :=
  GrpcClient.eq_of_callsTo (bootstrap_spares .tickets rfl rfl booted) fun method =>
    bootstrap_spares (.calls method) rfl rfl booted

end MundusVivens
