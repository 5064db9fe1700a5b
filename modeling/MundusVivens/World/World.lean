import MundusVivens.World.EmotionRegistry
import MundusVivens.World.LocationRegistry
import MundusVivens.World.Requests

set_option autoImplicit false

/-!
# The world

The registry, its context variables and the services the systems receive by
reference. Operations the source leaves undefined have no result.
-/

namespace MundusVivens

abbrev Pool (C : Type) := Entity → Option C

namespace Pool

variable {C : Type}

def set (pool : Pool C) (e : Entity) (c : C) : Pool C := Function.update pool e (some c)

def erase (pool : Pool C) (e : Entity) : Pool C := Function.update pool e none

def modify (pool : Pool C) (e : Entity) (f : C → C) : Pool C :=
  Function.update pool e ((pool e).map f)

@[simp] theorem set_apply (pool : Pool C) (e x : Entity) (c : C) :
    pool.set e c x = if x = e then some c else pool x := by
  simp [set, Function.update_apply]

@[simp] theorem erase_apply (pool : Pool C) (e x : Entity) :
    pool.erase e x = if x = e then none else pool x := by
  simp [erase, Function.update_apply]

@[simp] theorem modify_apply (pool : Pool C) (e x : Entity) (f : C → C) :
    pool.modify e f x = if x = e then (pool e).map f else pool x := by
  simp [modify, Function.update_apply]

end Pool

structure Registry (F : Type) where
  nextEntity : Entity
  valid : Entity → Bool
  identity : Pool IdentityComp
  personality : Pool (PersonalityComp F)
  relationships : Pool RelationshipCacheComp
  location : Pool (LocationComp F)
  emotion : Pool EmotionComp
  activity : Pool ActivityComp
  cooldown : Pool CooldownComp
  velocity : Pool (VelocityComp F)
  pathfinding : Pool (PathfindingComp F)
  job : Pool (JobComp F)
  toil : Pool ToilComp
  needs : Pool (NeedsComp F)
  affordance : Pool AffordanceComp
  lastSynced : Pool LastSyncedComp
  busy : Pool (BusyTag F)
  playerTag : Pool PlayerTag
  playerDialogue : Pool PlayerDialogueComp
  -- The entities with a tree; every tree is the survival tree.
  behaviorTree : Pool Unit
  health : Pool (HealthComp F)
  combat : Pool (CombatComp F)
  faction : Pool FactionComp
  sentience : Pool SentienceComp
  aggro : Pool AggroComp
  issued : ∀ e, nextEntity ≤ e → valid e = false
  owned : ∀ e, valid e = false → busy e = none ∧ playerTag e = none ∧ playerDialogue e = none

namespace Registry

variable {F : Type}

def empty : Registry F :=
  { nextEntity := 0
    valid := fun _ => false
    identity := fun _ => none
    personality := fun _ => none
    relationships := fun _ => none
    location := fun _ => none
    emotion := fun _ => none
    activity := fun _ => none
    cooldown := fun _ => none
    velocity := fun _ => none
    pathfinding := fun _ => none
    job := fun _ => none
    toil := fun _ => none
    needs := fun _ => none
    affordance := fun _ => none
    lastSynced := fun _ => none
    busy := fun _ => none
    playerTag := fun _ => none
    playerDialogue := fun _ => none
    behaviorTree := fun _ => none
    health := fun _ => none
    combat := fun _ => none
    faction := fun _ => none
    sentience := fun _ => none
    aggro := fun _ => none
    issued := fun _ _ => rfl
    owned := fun _ _ => ⟨rfl, rfl, rfl⟩ }

-- `reg.destroy(e)`.
def destroy (reg : Registry F) (e : Entity) : Registry F :=
  { nextEntity := reg.nextEntity
    valid := Function.update reg.valid e false
    identity := reg.identity.erase e
    personality := reg.personality.erase e
    relationships := reg.relationships.erase e
    location := reg.location.erase e
    emotion := reg.emotion.erase e
    activity := reg.activity.erase e
    cooldown := reg.cooldown.erase e
    velocity := reg.velocity.erase e
    pathfinding := reg.pathfinding.erase e
    job := reg.job.erase e
    toil := reg.toil.erase e
    needs := reg.needs.erase e
    affordance := reg.affordance.erase e
    lastSynced := reg.lastSynced.erase e
    busy := reg.busy.erase e
    playerTag := reg.playerTag.erase e
    playerDialogue := reg.playerDialogue.erase e
    behaviorTree := reg.behaviorTree.erase e
    health := reg.health.erase e
    combat := reg.combat.erase e
    faction := reg.faction.erase e
    sentience := reg.sentience.erase e
    aggro := reg.aggro.erase e
    issued := fun x bound => by
      by_cases same : x = e
      next => simp [same]
      next => simpa [same] using reg.issued x bound
    owned := fun x destroyed => by
      by_cases same : x = e
      next => simp [same]
      next => simpa [same] using reg.owned x (by simpa [same] using destroyed) }

-- `reg.create()`: the next handle, with no components.
def create (reg : Registry F) : Registry F :=
  { reg.destroy reg.nextEntity with
    nextEntity := reg.nextEntity + 1
    valid := Function.update reg.valid reg.nextEntity true
    issued := fun x (bound : reg.nextEntity + 1 ≤ x) => by
      rw [Function.update_of_ne (Nat.ne_of_gt bound)]
      exact reg.issued x (Nat.le_of_succ_le bound)
    owned := fun x unused => by
      by_cases same : x = reg.nextEntity
      next => simp [same] at unused
      next =>
        have cleared := reg.owned x (by simpa [same] using unused)
        simpa [destroy, same] using cleared }

-- `reg.emplace_or_replace<BusyTag>(e, ...)`.
def setBusy (reg : Registry F) (e : Entity) (tag : BusyTag F) : Option (Registry F) :=
  if valid : reg.valid e = true then
    some
      { reg with
        busy := reg.busy.set e tag
        owned := fun x unused => by
          have other : x ≠ e := by rintro rfl; simp [valid] at unused
          simpa [other] using reg.owned x unused }
  else none

-- `if (reg.all_of<BusyTag>(e)) reg.erase<BusyTag>(e)`.
def eraseBusy (reg : Registry F) (e : Entity) : Registry F :=
  { reg with
    busy := reg.busy.erase e
    owned := fun x unused => by
      have cleared := reg.owned x unused
      simp [cleared] }

def modifyBusy (reg : Registry F) (e : Entity) (f : BusyTag F → BusyTag F) : Registry F :=
  { reg with
    busy := reg.busy.modify e f
    owned := fun x unused => by
      have cleared := reg.owned x unused
      by_cases same : x = e
      next => subst same; simp [cleared]
      next => simpa [same] using cleared }

-- `reg.emplace<PlayerTag>(e, ...)`.
def setPlayerTag (reg : Registry F) (e : Entity) (tag : PlayerTag) : Option (Registry F) :=
  if valid : reg.valid e = true then
    some
      { reg with
        playerTag := reg.playerTag.set e tag
        owned := fun x unused => by
          have other : x ≠ e := by rintro rfl; simp [valid] at unused
          simpa [other] using reg.owned x unused }
  else none

-- `reg.get<PlayerTag>(e) = tag` on an entity that has one.
def modifyPlayerTag (reg : Registry F) (e : Entity) (tag : PlayerTag) : Registry F :=
  { reg with
    playerTag := reg.playerTag.modify e fun _ => tag
    owned := fun x unused => by
      have cleared := reg.owned x unused
      by_cases same : x = e
      next => subst same; simp [cleared]
      next => simpa [same] using cleared }

-- `reg.emplace_or_replace<PlayerDialogueComp>(e, ...)`.
def setPlayerDialogue (reg : Registry F) (e : Entity) (dialogue : PlayerDialogueComp) :
    Option (Registry F) :=
  if valid : reg.valid e = true then
    some
      { reg with
        playerDialogue := reg.playerDialogue.set e dialogue
        owned := fun x unused => by
          have other : x ≠ e := by rintro rfl; simp [valid] at unused
          simpa [other] using reg.owned x unused }
  else none

def erasePlayerDialogue (reg : Registry F) (e : Entity) : Registry F :=
  { reg with
    playerDialogue := reg.playerDialogue.erase e
    owned := fun x unused => by
      have cleared := reg.owned x unused
      simp [cleared] }

end Registry

-- The reverse indexes kept in the registry context.
structure EntityIndex where
  byNpcId : UInt32 → Option Entity
  bySessionIndex : UInt32 → Option Entity

structure AgentIdMapper where
  stringToNumeric : String → Option UInt32
  numericToString : UInt32 → Option String

-- Unknown strings are given the number 0.
def AgentIdMapper.getAgentNumericId (mapper : AgentIdMapper) (stringId : String) : UInt32 :=
  (mapper.stringToNumeric stringId).getD 0

def AgentIdMapper.getAgentStringId (mapper : AgentIdMapper) (numericId : UInt32) : String :=
  (mapper.numericToString numericId).getD ""

structure TcpServer where
  sessions : UInt32 → Bool
  nextSessionId : UInt32

-- The locals of `main` that the tick handshake uses.
structure TickClock where
  tick : Int
  isFirstLoop : Bool
  isTickSyncPending : Bool
  tickSyncedReady : Bool
  nextTickVal : Int
  tempRelationshipDeltas : List RelationshipDelta

def TickClock.initial : TickClock := ⟨0, true, false, false, 0, []⟩

structure World (F : Type) where
  reg : Registry F
  index : EntityIndex
  mapper : AgentIdMapper
  emotions : EmotionRegistry
  contagionIds : Option EmotionRegistry.ContagionIds
  settings : SimulationSettings F
  grid : LocationRegistry F
  map : GridMap F
  tcp : TcpServer
  grpc : GrpcClient F
  clock : TickClock

namespace World

variable {F : Type}

def setIdentity (w : World F) (e : Entity) (identity : IdentityComp) : World F :=
  { w with reg := { w.reg with identity := w.reg.identity.set e identity } }

def setLocation (w : World F) (e : Entity) (loc : LocationComp F) : World F :=
  { w with reg := { w.reg with location := w.reg.location.set e loc } }

def setRelationships (w : World F) (e : Entity) (cache : RelationshipCacheComp) : World F :=
  { w with reg := { w.reg with relationships := w.reg.relationships.set e cache } }

def setEmotion (w : World F) (e : Entity) (emotion : EmotionComp) : World F :=
  { w with reg := { w.reg with emotion := w.reg.emotion.set e emotion } }

-- `reg.get<ActivityComp>(e).current_activity = text` on an entity that has one.
def setActivity (w : World F) (e : Entity) (text : String) : World F :=
  { w with reg := { w.reg with activity := w.reg.activity.modify e fun _ => ⟨text⟩ } }

def setCooldown (w : World F) (e : Entity) (cooldown : CooldownComp) : World F :=
  { w with reg := { w.reg with cooldown := w.reg.cooldown.set e cooldown } }

def setVelocity (w : World F) (e : Entity) (velocity : VelocityComp F) : World F :=
  { w with reg := { w.reg with velocity := w.reg.velocity.set e velocity } }

def modifyVelocity (w : World F) (e : Entity) (f : VelocityComp F → VelocityComp F) : World F :=
  { w with reg := { w.reg with velocity := w.reg.velocity.modify e f } }

def setPathfinding (w : World F) (e : Entity) (path : PathfindingComp F) : World F :=
  { w with reg := { w.reg with pathfinding := w.reg.pathfinding.set e path } }

-- Clear the path of an entity that has one.
def clearPath (w : World F) (e : Entity) : World F :=
  { w with reg := { w.reg with pathfinding := w.reg.pathfinding.modify e PathfindingComp.reset } }

def setJob (w : World F) (e : Entity) (job : JobComp F) : World F :=
  { w with reg := { w.reg with job := w.reg.job.set e job } }

def setToil (w : World F) (e : Entity) (toil : ToilComp) : World F :=
  { w with reg := { w.reg with toil := w.reg.toil.set e toil } }

def setNeeds (w : World F) (e : Entity) (needs : NeedsComp F) : World F :=
  { w with reg := { w.reg with needs := w.reg.needs.set e needs } }

def setAffordance (w : World F) (e : Entity) (affordance : AffordanceComp) : World F :=
  { w with reg := { w.reg with affordance := w.reg.affordance.set e affordance } }

def setOccupiedBy (w : World F) (e : Entity) (occupant : Option Entity) : World F :=
  { w with reg :=
      { w.reg with
        affordance := w.reg.affordance.modify e fun aff => { aff with occupiedBy := occupant } } }

def setLastSynced (w : World F) (e : Entity) (sync : LastSyncedComp) : World F :=
  { w with reg := { w.reg with lastSynced := w.reg.lastSynced.set e sync } }

def setHealth (w : World F) (e : Entity) (health : HealthComp F) : World F :=
  { w with reg := { w.reg with health := w.reg.health.set e health } }

def setCombat (w : World F) (e : Entity) (combat : CombatComp F) : World F :=
  { w with reg := { w.reg with combat := w.reg.combat.set e combat } }

def setAggro (w : World F) (e : Entity) (aggro : AggroComp) : World F :=
  { w with reg := { w.reg with aggro := w.reg.aggro.set e aggro } }

def eraseBehaviorTree (w : World F) (e : Entity) : World F :=
  { w with reg := { w.reg with behaviorTree := w.reg.behaviorTree.erase e } }

def eraseBusy (w : World F) (e : Entity) : World F := { w with reg := w.reg.eraseBusy e }

def modifyBusy (w : World F) (e : Entity) (f : BusyTag F → BusyTag F) : World F :=
  { w with reg := w.reg.modifyBusy e f }

def setBusy (w : World F) (e : Entity) (tag : BusyTag F) : Option (World F) := do
  let reg ← w.reg.setBusy e tag
  some { w with reg := reg }

theorem setBusy_cases {w w' : World F} {e : Entity} {tag : BusyTag F}
    (tagged : w.setBusy e tag = some w') : w.reg.valid e = true ∧
      ∃ owned, w' = { w with reg := { w.reg with busy := w.reg.busy.set e tag, owned := owned } } := by
  simp only [setBusy, Registry.setBusy, Option.bind_eq_bind, Option.bind_eq_some_iff] at tagged
  obtain ⟨reg, checked, stored⟩ := tagged
  obtain rfl := Option.some.inj stored
  split at checked
  next valid =>
    obtain rfl := Option.some.inj checked
    exact ⟨valid, _, rfl⟩
  next => cases checked

def issue (w : World F) (request : Request F) : World F :=
  { w with grpc := w.grpc.issue request }

-- `grid.UpdateEntityPosition(e, x, z, reg)`.
def updateEntityPosition [Scalar F] (w : World F) (e : Entity) (x z : F) : World F :=
  let (grid, loc) := w.grid.updateEntityPosition e x z (w.reg.location e)
  let moved := { w with grid := grid }
  match loc with
  | some loc => moved.setLocation e loc
  | none => moved

theorem updateEntityPosition_eq [Scalar F] (w : World F) (e : Entity) (x z : F) :
    ∃ grid location, w.updateEntityPosition e x z =
      { w with grid := grid, reg := { w.reg with location := location } } := by
  unfold updateEntityPosition
  cases w.grid.updateEntityPosition e x z (w.reg.location e) with
  | mk grid loc => cases loc <;> exact ⟨_, _, rfl⟩

-- The `valid` entities that satisfy a test, in some order chosen by `rank`.
def view (w : World F) (rank : Entity → Nat) (has : Entity → Bool) : List Entity :=
  ((List.range w.reg.nextEntity).filter fun e => w.reg.valid e && has e).insertionSort
    (fun a b => rank a ≤ rank b)

end World

section

variable {F : Type}

theorem mem_view (w : World F) (rank : Entity → Nat) (has : Entity → Bool) (e : Entity) :
    e ∈ w.view rank has ↔ e < w.reg.nextEntity ∧ w.reg.valid e = true ∧ has e = true := by
  rw [World.view, (List.perm_insertionSort _ _).mem_iff]
  simp

theorem view_nodup (w : World F) (rank : Entity → Nat) (has : Entity → Bool) :
    (w.view rank has).Nodup := by
  rw [World.view, (List.perm_insertionSort _ _).nodup_iff]
  exact List.nodup_range.filter _

end

end MundusVivens
