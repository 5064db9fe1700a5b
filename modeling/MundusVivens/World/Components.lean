import MundusVivens.Shared.Scalar

set_option autoImplicit false

/-!
# Components

The component types of the registry. Enumerations that are cast from the wire
without a check keep the raw value in `other`.
-/

namespace MundusVivens

-- An entity handle. A destroyed handle is never handed out again.
abbrev Entity := Nat

structure IdentityComp where
  npcId : UInt32
  displayName : String
deriving DecidableEq

structure PersonalityComp (F : Type) where
  extroversion : F

structure RelationshipEntry where
  liking : Int
  trust : Int
deriving DecidableEq

structure RelationshipCacheComp where
  relationships : UInt32 → Option RelationshipEntry

inductive LocationType where
  | unspecified
  | pub
  | market
  | square
  | church
  | wilderness
  | residential
  | forge
  | manor
  | country
  | city
  | place
  | other (raw : UInt8)
deriving DecidableEq

def LocationType.ofUInt8 (raw : UInt8) : LocationType :=
  match raw.toNat with
  | 0 => .unspecified
  | 1 => .pub
  | 2 => .market
  | 3 => .square
  | 4 => .church
  | 5 => .wilderness
  | 6 => .residential
  | 7 => .forge
  | 8 => .manor
  | 9 => .country
  | 10 => .city
  | 11 => .place
  | _ => .other raw

structure LocationComp (F : Type) where
  zoneId : UInt32
  locationName : String
  x : F
  y : F
  z : F
  type : LocationType
  regionId : UInt32
  territoryId : UInt32

structure EmotionComp where
  currentEmotion : String
  baseEmotion : String
  currentEmotionId : UInt8
  baseEmotionId : UInt8
  decayTicksRemaining : Int
deriving DecidableEq

structure ActivityComp where
  currentActivity : String
deriving DecidableEq

structure CooldownComp where
  cooldownPerTarget : UInt32 → Option Int
  lastInitiativeTick : Int
  socialEnergy : Int
  maxSocialEnergy : Int
  cognitiveRefractoryUntil : Int

def CooldownComp.initial : CooldownComp := ⟨fun _ => none, 0, 100, 100, 0⟩

structure VelocityComp (F : Type) where
  speed : F
  dirX : F
  dirZ : F

structure GridVector2 (F : Type) where
  x : F
  z : F
deriving DecidableEq

structure PathfindingComp (F : Type) where
  waypoints : List (GridVector2 F)
  currentWaypointIndex : Nat
  lastTargetX : F
  lastTargetZ : F
  isPartial : Bool
  capRetryCount : Int
  lastCapPosX : F
  lastCapPosZ : F

inductive JobCategory where
  | unspecified
  | sleep
  | eat
  | social
  | work
  | travel
  | survival
  | combat
  | other (raw : UInt8)
deriving DecidableEq

def JobCategory.ofUInt8 (raw : UInt8) : JobCategory :=
  match raw.toNat with
  | 0 => .unspecified
  | 1 => .sleep
  | 2 => .eat
  | 3 => .social
  | 4 => .work
  | 5 => .travel
  | 6 => .survival
  | 7 => .combat
  | _ => .other raw

structure JobComp (F : Type) where
  jobId : UInt64
  targetLocation : String
  targetX : F
  targetY : F
  targetZ : F
  intent : String
  targetAgentId : UInt32
  priority : Int
  isActive : Bool
  category : JobCategory
deriving DecidableEq

inductive ToilState where
  | idle
  | moving
  | working
  | interrupted
deriving DecidableEq

structure ToilComp where
  state : ToilState
  currentAction : String
  durationTicks : Int
deriving DecidableEq

def ToilComp.initial : ToilComp := ⟨.idle, "", 0⟩

inductive SurvivalType where
  | none
  | hunger
  | fatigue
deriving DecidableEq

structure NeedsComp (F : Type) where
  hunger : F
  fatigue : F
  isResolvingSurvival : Bool
  currentSurvivalType : SurvivalType
  occupiedFurniture : Option Entity

inductive AffordanceType where
  | unspecified
  | sit
  | sleep
  | eat
  | drink
  | pray
  | other (raw : UInt8)
deriving DecidableEq

def AffordanceType.ofUInt8 (raw : UInt8) : AffordanceType :=
  match raw.toNat with
  | 0 => .unspecified
  | 1 => .sit
  | 2 => .sleep
  | 3 => .eat
  | 4 => .drink
  | 5 => .pray
  | _ => .other raw

structure AffordanceComp where
  type : AffordanceType
  occupiedBy : Option Entity
  isTemporary : Bool
deriving DecidableEq

structure LastSyncedComp where
  location : String
  emotion : String
  activity : String
deriving DecidableEq

inductive BusyReason where
  | dialogue
  | reflection
  | scheduleWait
deriving DecidableEq

structure BusyTag (F : Type) where
  reason : BusyReason
  animTimer : F

structure PlayerTag where
  sessionIndex : UInt32
deriving DecidableEq

structure PlayerDialogueComp where
  sessionId : UInt64
  npcEntity : Option Entity
deriving DecidableEq

structure HealthComp (F : Type) where
  hp : F
  maxHp : F
  isDead : Bool

structure CombatComp (F : Type) where
  targetEntity : Option Entity
  attackRange : F
  attackDamage : F
  cooldownTicks : Int

structure FactionComp where
  factionName : String
deriving DecidableEq

structure SentienceComp where
  isSentient : Bool
deriving DecidableEq

structure AggroComp where
  threatEntity : Option Entity
  aggroScore : Int
  inhibitWaitTicks : Int
  isInhibited : Bool
deriving DecidableEq

structure SimulationSettings (F : Type) where
  npcSpeed : F
  ticksPerGameHour : Int

section

variable {F : Type} [Scalar F]

open Scalar

def VelocityComp.initial : VelocityComp F := ⟨lit 2, zero, zero⟩

def VelocityComp.still : VelocityComp F := ⟨zero, zero, zero⟩

def PathfindingComp.initial : PathfindingComp F := ⟨[], 0, zero, zero, false, 0, zero, zero⟩

-- `waypoints.clear()` and `current_waypoint_index = 0`.
def PathfindingComp.reset (path : PathfindingComp F) : PathfindingComp F :=
  { path with waypoints := [], currentWaypointIndex := 0 }

def JobComp.initial : JobComp F := ⟨0, "", zero, zero, zero, "", 0, 0, false, .unspecified⟩

def HealthComp.initial : HealthComp F := ⟨lit 100, lit 100, false⟩

def CombatComp.initial : CombatComp F := ⟨none, lit 2, lit 10, 0⟩

def AggroComp.initial : AggroComp := ⟨none, 0, 0, false⟩

-- `BusyTag{}`: the default reason is a dialogue.
def BusyTag.dialogue : BusyTag F := ⟨.dialogue, zero⟩

def BusyTag.scheduleWait : BusyTag F := ⟨.scheduleWait, zero⟩

end

end MundusVivens
