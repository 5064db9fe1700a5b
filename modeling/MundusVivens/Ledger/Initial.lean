import MundusVivens.Ledger.Roster
import MundusVivens.Ledger.Projection
import MundusVivens.Systems.PlayerCommands

set_option autoImplicit false

namespace MundusVivens

open Scalar

namespace Ledger

def appear (l : Ledger) (id : UInt32) (mapper : AgentIdMapper) : Ledger :=
  { l.create with
    npcId := Function.update l.npcId l.nextEntity (some id)
    active := Function.update l.active l.nextEntity true
    index := { l.index with byNpcId := Function.update l.index.byNpcId id (some l.nextEntity) }
    mapper := mapper }

structure Initial (l : Ledger) : Prop where
  issued : ∀ e, l.nextEntity ≤ e → l.valid e = false
  untagged : ∀ e, l.playerTag e = none
  silent : ∀ e, l.playerDialogue e = none
  idle : ∀ e, l.reason e = none
  quiet : ∀ ticket, l.pending ticket = none
  unbound : ∀ session, l.index.bySessionIndex session = none
  indexed : ∀ id e, l.index.byNpcId id = some e →
    l.valid e = true ∧ l.npcId e = some id ∧ l.furniture e = false
  furnished : ∀ e, l.furniture e = true → l.active e = false

namespace Initial

variable {l : Ledger}

theorem roster (initial : Initial l) : Roster l where
  issued := initial.issued
  owned := fun e _ => ⟨initial.idle e, initial.untagged e, initial.silent e⟩
  indexed := initial.indexed
  bound := fun session e entry => by simp [initial.unbound session] at entry
  players := fun e tagged => by simp [initial.untagged e] at tagged
  furnished := fun e furniture => ⟨initial.furnished e furniture, initial.untagged e⟩

theorem fresh (initial : Initial l) {e : Entity} (valid : l.valid e = true) : e ≠ l.nextEntity :=
  Nat.ne_of_lt (initial.roster.below valid)

theorem furnish (initial : Initial l) (id : UInt32) : Initial (l.furnish id) := by
  constructor
  case issued =>
    intro e above
    have later : e ≠ l.nextEntity := Nat.ne_of_gt above
    simpa [Ledger.furnish, create, later] using initial.issued e (Nat.le_of_succ_le above)
  case untagged =>
    intro e
    by_cases same : e = l.nextEntity <;>
      simp [Ledger.furnish, create, destroy, same, initial.untagged]
  case silent =>
    intro e
    by_cases same : e = l.nextEntity <;>
      simp [Ledger.furnish, create, destroy, same, initial.silent]
  case idle =>
    intro e
    by_cases same : e = l.nextEntity <;> simp [Ledger.furnish, create, destroy, same, initial.idle]
  case quiet => exact initial.quiet
  case unbound => exact initial.unbound
  case indexed =>
    intro other e entry
    have known := initial.indexed other e entry
    simpa [Ledger.furnish, create, destroy, initial.fresh known.1] using known
  case furnished =>
    intro e furnished
    by_cases same : e = l.nextEntity
    next => simp [Ledger.furnish, create, destroy, same]
    next =>
      simpa [Ledger.furnish, create, destroy, same] using
        initial.furnished e (by simpa [Ledger.furnish, create, destroy, same] using furnished)

theorem appear (initial : Initial l) (id : UInt32) (mapper : AgentIdMapper) :
    Initial (l.appear id mapper) := by
  constructor
  case issued =>
    intro e above
    have later : e ≠ l.nextEntity := Nat.ne_of_gt above
    simpa [Ledger.appear, create, later] using initial.issued e (Nat.le_of_succ_le above)
  case untagged =>
    intro e
    by_cases same : e = l.nextEntity <;>
      simp [Ledger.appear, create, destroy, same, initial.untagged]
  case silent =>
    intro e
    by_cases same : e = l.nextEntity <;>
      simp [Ledger.appear, create, destroy, same, initial.silent]
  case idle =>
    intro e
    by_cases same : e = l.nextEntity <;> simp [Ledger.appear, create, destroy, same, initial.idle]
  case quiet => exact initial.quiet
  case unbound => exact initial.unbound
  case indexed =>
    intro other e entry
    by_cases same : other = id
    next =>
      obtain rfl : l.nextEntity = e := by simpa [Ledger.appear, same] using entry
      simp [Ledger.appear, create, destroy, same]
    next =>
      have known := initial.indexed other e (by simpa [Ledger.appear, same] using entry)
      simpa [Ledger.appear, create, destroy, initial.fresh known.1] using known
  case furnished =>
    intro e furnished
    by_cases same : e = l.nextEntity
    next => simp [Ledger.appear, create, destroy, same] at furnished
    next =>
      simpa [Ledger.appear, create, destroy, same] using
        initial.furnished e (by simpa [Ledger.appear, create, destroy, same] using furnished)

end Initial

end Ledger

variable {F : Type} [Scalar F]

theorem emptyWorld_initial (data : WorldBootstrapData F) (settings : SimulationSettings F)
    (obstacles : Option (List Obstacle)) :
    (emptyWorld data settings obstacles).ledger.Initial := by
  constructor <;> intros <;>
    simp_all [emptyWorld, World.ledger, Registry.empty, GrpcClient.pending, GrpcClient.empty]

theorem placeFurniture_ledger (w : World F) (furn : FurnitureData F) :
    (placeFurniture w furn).ledger = w.ledger.furnish 0 := by
  unfold placeFurniture
  dsimp only
  rw [World.ledger_updateEntityPosition, World.ledger_furnish]

theorem equipAgent_ledger (w : World F) (e : Entity) (agent : InitialAgentState F)
    (emotionId : UInt8) (draw : NeedsDraw F) :
    (equipAgent w e agent emotionId draw).ledger =
      { w.ledger with active := Function.update w.ledger.active e true } := by
  ext x <;> simp [equipAgent, World.ledger]
  by_cases same : x = e <;> simp [same]

theorem spawnAgent_ledger (w : World F) (nextEmoId : UInt8) (agent : InitialAgentState F)
    (draw : NeedsDraw F) :
    (spawnAgent (w, nextEmoId) agent draw).1.ledger =
      if agent.agentId = 1 then w.ledger
      else w.ledger.appear agent.agentId
        (w.mapper.registerAgent agent.agentId agent.stringId agent.name) := by
  unfold spawnAgent
  dsimp only
  split
  next => rfl
  next =>
    have renumbered (m : World F) (emotions : EmotionRegistry) :
        ({ m with emotions := emotions } : World F).ledger = m.ledger := rfl
    have entered (m : World F) (index : EntityIndex) (mapper : AgentIdMapper) :
        ({ m with index := index, mapper := mapper } : World F).ledger =
          { m.ledger with index := index, mapper := mapper } := rfl
    have next : w.reg.nextEntity = w.ledger.nextEntity := rfl
    rw [equipAgent_ledger, renumbered, World.ledger_updateEntityPosition, World.ledger_setLocation,
      entered, World.ledger_setIdentity, World.ledger_create]
    simp [Ledger.appear, Ledger.create, Ledger.destroy, Function.update_idem, next]
    exact ⟨⟨rfl, rfl⟩, rfl⟩

theorem spawnAgent_initial (state : World F × UInt8) (agent : InitialAgentState F)
    (draw : NeedsDraw F) (initial : state.1.ledger.Initial) :
    (spawnAgent state agent draw).1.ledger.Initial := by
  obtain ⟨w, nextEmoId⟩ := state
  rw [spawnAgent_ledger]
  split
  next => exact initial
  next => exact initial.appear _ _

theorem populate_initial (w : World F) (data : WorldBootstrapData F) (draws : Nat → NeedsDraw F)
    (initial : w.ledger.Initial) : (populate w data draws).ledger.Initial := by
  have furnished : (data.furniture.foldl placeFurniture w).ledger.Initial := by
    generalize data.furniture = furniture
    induction furniture generalizing w with
    | nil => exact initial
    | cons furn rest ih => exact ih _ (by rw [placeFurniture_ledger]; exact initial.furnish 0)
  have spawned (agents : List (InitialAgentState F × Nat)) (state : World F × UInt8)
      (before : state.1.ledger.Initial) :
      (agents.foldl (fun state agent => spawnAgent state agent.1 (draws agent.2))
        state).1.ledger.Initial := by
    induction agents generalizing state with
    | nil => exact before
    | cons agent rest ih => exact ih _ (spawnAgent_initial state agent.1 _ before)
  exact spawned _ _ furnished

theorem bootstrap_initial (data : WorldBootstrapData F) (settings : SimulationSettings F)
    (obstacles : Option (List Obstacle)) (draws : Nat → NeedsDraw F) (w : World F)
    (booted : bootstrap data settings obstacles draws = some w) : w.ledger.Initial := by
  unfold bootstrap at booted
  split at booted
  next => cases booted
  split at booted
  next => cases booted
  next =>
    rw [← Option.some.inj booted]
    exact populate_initial _ data draws (emptyWorld_initial data settings obstacles)

end MundusVivens
