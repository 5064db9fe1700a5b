import MundusVivens.World.World

set_option autoImplicit false

/-!
# Bootstrap

The part of `main` that builds the world from the data of the AI server, before
the game loop starts.
-/

namespace MundusVivens

open Scalar

structure RelationshipSnapshot where
  targetAgentId : UInt32
  liking : Int
  trust : Int

structure InitialAgentState (F : Type) where
  agentId : UInt32
  stringId : String
  name : String
  location : String
  x : F
  y : F
  z : F
  emotion : String
  activity : String
  extroversion : F
  relationships : List RelationshipSnapshot

structure FurnitureData (F : Type) where
  name : String
  type : UInt8
  parentLocation : String
  x : F
  y : F
  z : F
  isTemporary : Bool

structure WorldBootstrapData (F : Type) where
  locations : List (LocationData F)
  agents : List (InitialAgentState F)
  furniture : List (FurnitureData F)
  npcSpeed : F
  ticksPerGameHour : UInt32

structure NeedsDraw (F : Type) where
  hunger : F
  fatigue : F

namespace AgentIdMapper

-- The mapper with the default player only.
def initial : AgentIdMapper :=
  { stringToNumeric := Function.update (fun _ => none) "player" (some 1)
    numericToString := Function.update (fun _ => none) 1 (some "player") }

def registerAlias (mapper : AgentIdMapper) (name : String) (id : UInt32) : AgentIdMapper :=
  if name.isEmpty then mapper
  else
    let lower := name.map Char.toLower
    let direct := Function.update mapper.stringToNumeric name (some id)
    { mapper with
      stringToNumeric :=
        if lower ≠ name then Function.update direct lower (some id) else direct }

def registerAgent (mapper : AgentIdMapper) (id : UInt32) (stringId name : String) :
    AgentIdMapper :=
  let named := { mapper with
    numericToString := Function.update mapper.numericToString id (some stringId) }
  (named.registerAlias stringId id).registerAlias name id

end AgentIdMapper

variable {F : Type} [Scalar F]

def newLocation (name : String) (x y z : F) : LocationComp F :=
  ⟨0, name, x, y, z, .unspecified, 0, 0⟩

def emptyWorld (data : WorldBootstrapData F) (settings : SimulationSettings F)
    (obstacles : Option (List Obstacle)) : World F :=
  let registered := data.locations.foldl
    (fun grid loc => grid.registerLocation loc.name
      ⟨loc.x, loc.z, .ofUInt8 loc.type, loc.regionId, loc.territoryId⟩)
    LocationRegistry.empty
  { reg := Registry.empty
    index := ⟨fun _ => none, fun _ => none⟩
    mapper := .initial
    emotions := EmotionRegistry.bootstrapRules.registry
    contagionIds := none
    settings := settings
    grid := registered.bakeRegionMap GridMap.width GridMap.height
    map := GridMap.loadMap data.locations obstacles
    tcp := ⟨fun _ => false, 1⟩
    grpc := GrpcClient.empty
    clock := .initial }

def placeFurniture (w : World F) (furn : FurnitureData F) : World F :=
  let e := w.reg.nextEntity
  let created := { w with reg := w.reg.create }
  let identified := created.setIdentity e ⟨0, furn.name⟩
  let located := identified.setLocation e (newLocation furn.parentLocation furn.x furn.y furn.z)
  let afforded := located.setAffordance e ⟨.ofUInt8 furn.type, none, furn.isTemporary⟩
  afforded.updateEntityPosition e furn.x furn.z

def agentFaction (name : String) : FactionComp :=
  if containsText name "늑대" || containsText name "Wolf" then ⟨"Wolf"⟩
  else if containsText name "고블린" || containsText name "Goblin" then ⟨"Goblin"⟩
  else if containsText name "도적" || containsText name "Bandit" then ⟨"Bandit"⟩
  else ⟨"Human"⟩

def agentSentience (name : String) : SentienceComp :=
  ⟨!(containsText name "늑대" || containsText name "Wolf")⟩

def agentCooldown (extroversion : F) : CooldownComp :=
  let energy := trunc (lit 50 + extroversion * lit 100)
  { CooldownComp.initial with maxSocialEnergy := energy, socialEnergy := energy }

def agentRelationships (snapshots : List RelationshipSnapshot) : RelationshipCacheComp :=
  ⟨snapshots.foldl
    (fun cache snap => Function.update cache snap.targetAgentId (some ⟨snap.liking, snap.trust⟩))
    fun _ => none⟩

-- The components of an agent that nothing else depends on during bootstrap.
def equipAgent (w : World F) (e : Entity) (agent : InitialAgentState F) (emotionId : UInt8)
    (draw : NeedsDraw F) : World F :=
  { w with reg :=
      { w.reg with
        activity := w.reg.activity.set e ⟨agent.activity⟩
        emotion := w.reg.emotion.set e ⟨agent.emotion, agent.emotion, emotionId, emotionId, 0⟩
        cooldown := w.reg.cooldown.set e (agentCooldown agent.extroversion)
        job := w.reg.job.set e .initial
        toil := w.reg.toil.set e .initial
        needs := w.reg.needs.set e ⟨draw.hunger, draw.fatigue, false, .none, none⟩
        health := w.reg.health.set e .initial
        combat := w.reg.combat.set e .initial
        aggro := w.reg.aggro.set e .initial
        faction := w.reg.faction.set e (agentFaction agent.name)
        sentience := w.reg.sentience.set e (agentSentience agent.name)
        behaviorTree := w.reg.behaviorTree.set e ()
        lastSynced := w.reg.lastSynced.set e ⟨agent.location, agent.emotion, agent.activity⟩
        personality := w.reg.personality.set e ⟨agent.extroversion⟩
        relationships := w.reg.relationships.set e (agentRelationships agent.relationships) } }

-- Create the entity of one agent. The second component is `next_emo_id`.
def spawnAgent (state : World F × UInt8) (agent : InitialAgentState F) (draw : NeedsDraw F) :
    World F × UInt8 :=
  let (w, nextEmoId) := state
  -- Agent 1 is the default player.
  if agent.agentId = 1 then (w, nextEmoId)
  else
    let e := w.reg.nextEntity
    let created := { w with reg := w.reg.create }
    let identified := created.setIdentity e ⟨agent.agentId, agent.name⟩
    let indexed :=
      { identified with
        index :=
          { identified.index with
            byNpcId := Function.update identified.index.byNpcId agent.agentId (some e) }
        mapper := identified.mapper.registerAgent agent.agentId agent.stringId agent.name }
    let located := indexed.setLocation e (newLocation agent.location agent.x agent.y agent.z)
    let placed := located.updateEntityPosition e agent.x agent.z
    let emotions := EmotionRegistry.Bootstrap.agent ⟨placed.emotions, nextEmoId⟩ agent.emotion
    let emotionId := (emotions.registry.nameToId agent.emotion).getD 0
    (equipAgent { placed with emotions := emotions.registry } e agent emotionId draw,
      emotions.nextEmoId)

def populate (w : World F) (data : WorldBootstrapData F) (draws : Nat → NeedsDraw F) : World F :=
  let furnished := data.furniture.foldl placeFurniture w
  (data.agents.zipIdx.foldl (fun state agent => spawnAgent state agent.1 (draws agent.2))
    (furnished, EmotionRegistry.bootstrapRules.nextEmoId)).1

-- `main` up to the game loop; it gives up on empty data and on settings that differ.
def bootstrap (data : WorldBootstrapData F) (settings : SimulationSettings F)
    (obstacles : Option (List Obstacle)) (draws : Nat → NeedsDraw F) : Option (World F) :=
  if data.locations.isEmpty || data.agents.isEmpty then none
  else if lt (lit 0.001) (Scalar.abs (settings.npcSpeed - data.npcSpeed))
      || settings.ticksPerGameHour ≠ (data.ticksPerGameHour.toNat : Int) then none
  else some (populate (emptyWorld data settings obstacles) data draws)

theorem bootstrap_by_states (property : World F × UInt8 → Prop) (data : WorldBootstrapData F)
    (settings : SimulationSettings F) (obstacles : Option (List Obstacle))
    (draws : Nat → NeedsDraw F) (w : World F)
    (booted : bootstrap data settings obstacles draws = some w)
    (empty : property (emptyWorld data settings obstacles, EmotionRegistry.bootstrapRules.nextEmoId))
    (places : ∀ w furn nextEmoId, property (w, nextEmoId) →
      property (placeFurniture w furn, nextEmoId))
    (spawns : ∀ agent ∈ data.agents, ∀ i state, property state →
      property (spawnAgent state agent (draws i))) : ∃ nextEmoId, property (w, nextEmoId) := by
  have furnished (furniture : List (FurnitureData F)) (w : World F) (nextEmoId : UInt8)
      (holds : property (w, nextEmoId)) :
      property (furniture.foldl placeFurniture w, nextEmoId) := by
    induction furniture generalizing w with
    | nil => exact holds
    | cons furn rest ih => exact ih _ (places w furn nextEmoId holds)
  have spawned (agents : List (InitialAgentState F × Nat)) (state : World F × UInt8)
      (listed : ∀ agent ∈ agents, agent.1 ∈ data.agents) (holds : property state) : property
        (agents.foldl (fun state agent => spawnAgent state agent.1 (draws agent.2)) state) := by
    induction agents generalizing state with
    | nil => exact holds
    | cons agent rest ih =>
        have here := spawns agent.1 (listed agent List.mem_cons_self) agent.2 state holds
        exact ih _ (fun other member => listed other (List.mem_cons_of_mem _ member)) here
  unfold bootstrap at booted
  split at booted
  next => cases booted
  next =>
    split at booted
    next => cases booted
    next =>
      obtain rfl := Option.some.inj booted
      refine ⟨_, spawned _ _ (fun agent member => ?_) (furnished _ _ _ empty)⟩
      exact List.fst_mem_of_mem_zipIdx member

theorem bootstrap_by_agents (property : World F → Prop) (data : WorldBootstrapData F)
    (settings : SimulationSettings F) (obstacles : Option (List Obstacle))
    (draws : Nat → NeedsDraw F) (w : World F)
    (booted : bootstrap data settings obstacles draws = some w)
    (empty : property (emptyWorld data settings obstacles))
    (places : ∀ w furn, property w → property (placeFurniture w furn))
    (spawns : ∀ agent ∈ data.agents, ∀ i state, property state.1 →
      property (spawnAgent state agent (draws i)).1) : property w := by
  obtain ⟨_, holds⟩ := bootstrap_by_states (fun state => property state.1) data settings obstacles
    draws w booted empty (fun w furn _ => places w furn) spawns
  exact holds

theorem bootstrap_induction (property : World F → Prop) (data : WorldBootstrapData F)
    (settings : SimulationSettings F) (obstacles : Option (List Obstacle))
    (draws : Nat → NeedsDraw F) (w : World F)
    (booted : bootstrap data settings obstacles draws = some w)
    (empty : property (emptyWorld data settings obstacles))
    (places : ∀ w furn, property w → property (placeFurniture w furn))
    (spawns : ∀ state agent draw, property state.1 → property (spawnAgent state agent draw).1) :
    property w :=
  bootstrap_by_agents property data settings obstacles draws w booted empty places
    fun agent _ i state holds => spawns state agent (draws i) holds

end MundusVivens
