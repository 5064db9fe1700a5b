import MundusVivens.Systems.MainLoop

set_option autoImplicit false

/-!
# World snapshots

What the clients are shown of the world: the payload of `SystemBroadcastWorldSnapshot`
at the end of a frame, and the reply to a login.
-/

namespace MundusVivens

open Scalar

structure Vector3 (F : Type) where
  x : F
  y : F
  z : F
deriving DecidableEq

structure LocationInfo (F : Type) where
  name : String
  position : Vector3 F

-- A vector that is not set is `none`; numbers that are not set are zero.
structure NpcSnapshot (F : Type) where
  npcId : UInt32
  displayName : String
  location : LocationInfo F
  emotion : String
  activity : String
  velocity : Option (Vector3 F)
  hp : F
  maxHp : F

structure WorldSnapshotPayload (F : Type) where
  tick : Int
  npcs : List (NpcSnapshot F)

structure LoginResponse (F : Type) where
  success : Bool
  message : String
  locations : List (LocationInfo F)
  npcs : List (NpcSnapshot F)

variable {F : Type} [Scalar F]

namespace World

-- The components both loops ask for; entities with `PlayerTag` are left out.
def isShown (w : World F) (e : Entity) : Bool :=
  (w.reg.identity e).isSome && (w.reg.location e).isSome && (w.reg.emotion e).isSome &&
    (w.reg.activity e).isSome && (w.reg.playerTag e).isNone

-- What both loops copy.
def introduceNpc (w : World F) (e : Entity) : Option (NpcSnapshot F) := do
  let identity ← w.reg.identity e
  let loc ← w.reg.location e
  let emotion ← w.reg.emotion e
  let activity ← w.reg.activity e
  some
    { npcId := identity.npcId
      displayName := identity.displayName
      location := ⟨loc.locationName, ⟨loc.x, loc.y, loc.z⟩⟩
      emotion := emotion.currentEmotion
      activity := activity.currentActivity
      velocity := none
      hp := zero
      maxHp := zero }

-- Entities without `HealthComp` are shown in full health.
def snapshotNpc (w : World F) (e : Entity) : Option (NpcSnapshot F) := do
  let snapshot ← w.introduceNpc e
  let healthy :=
    match w.reg.health e with
    | some health => { snapshot with hp := health.hp, maxHp := health.maxHp }
    | none => { snapshot with hp := lit 100, maxHp := lit 100 }
  match w.reg.velocity e with
  | some vel =>
      some { healthy with velocity := some ⟨vel.dirX * vel.speed, zero, vel.dirZ * vel.speed⟩ }
  | none => some healthy

-- The payload of `SystemBroadcastWorldSnapshot`.
def worldSnapshot (w : World F) (rank : Entity → Nat) : WorldSnapshotPayload F where
  tick := w.clock.tick
  npcs := (w.view rank w.isShown).filterMap w.snapshotNpc

-- The reply to a login, after the player has been bound.
def loginResponse (w : World F) (locations : List (LocationData F)) (rank : Entity → Nat) :
    LoginResponse F where
  success := true
  message := "로그인에 성공했습니다."
  locations := locations.map fun loc => ⟨loc.name, ⟨loc.x, loc.y, loc.z⟩⟩
  npcs := (w.view rank w.isShown).filterMap w.introduceNpc

end World

def beforeBroadcast (input : FrameInput F) (w : World F) : Option (World F) := do
  let opened ← opening input w
  let moved ← physics input opened
  let checked ← pass (input.rank .furniture) (fun w e => (w.reg.affordance e).isSome)
    .checkOccupant moved
  pass (input.rank .affordance) (fun w e => (w.reg.needs e).isSome) .resolveAffordance checked

def broadcast (input : FrameInput F) (rank : Entity → Nat) (w : World F) :
    Option (WorldSnapshotPayload F) :=
  (beforeBroadcast input w).map fun shown => shown.worldSnapshot rank

theorem frame_broadcasts (input : FrameInput F) (w : World F) :
    frame input w = (beforeBroadcast input w).bind (step (.requestTick input.physicalTick)) := by
  simp only [frame, beforeBroadcast, closing, Option.bind_eq_bind, Option.bind_assoc]

theorem beforeBroadcast_reaches (input : FrameInput F) (w shown : World F)
    (reached : beforeBroadcast input w = some shown) : Reaches w shown := by
  simp only [beforeBroadcast, Option.bind_eq_bind, Option.bind_eq_some_iff] at reached
  obtain ⟨opened, begun, moved, walked, checked, passed, resolved⟩ := reached
  exact (((opening_reaches input w opened begun).trans (physics_reaches input opened moved walked)).trans
    (.of_follow passed)).trans (.of_follow resolved)

end MundusVivens
