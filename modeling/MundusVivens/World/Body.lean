import MundusVivens.World.World

set_option autoImplicit false

namespace MundusVivens

structure Body (F : Type) where
  job : Option (JobComp F)
  toil : Option ToilComp
  needs : Option (NeedsComp F)
  location : Option (LocationComp F)
  velocity : Option (VelocityComp F)
  pathfinding : Option (PathfindingComp F)
  busy : Option (BusyTag F)

def Body.none {F : Type} : Body F :=
  ⟨.none, .none, .none, .none, .none, .none, .none⟩

namespace World

variable {F : Type}

def body (w : World F) (x : Entity) : Body F where
  job := w.reg.job x
  toil := w.reg.toil x
  needs := w.reg.needs x
  location := w.reg.location x
  velocity := w.reg.velocity x
  pathfinding := w.reg.pathfinding x
  busy := w.reg.busy x

variable (w : World F) (e x : Entity)

@[simp] theorem body_job : (w.body x).job = w.reg.job x := rfl
@[simp] theorem body_toil : (w.body x).toil = w.reg.toil x := rfl
@[simp] theorem body_needs : (w.body x).needs = w.reg.needs x := rfl
@[simp] theorem body_location : (w.body x).location = w.reg.location x := rfl
@[simp] theorem body_velocity : (w.body x).velocity = w.reg.velocity x := rfl
@[simp] theorem body_pathfinding : (w.body x).pathfinding = w.reg.pathfinding x := rfl
@[simp] theorem body_busy : (w.body x).busy = w.reg.busy x := rfl

@[simp] theorem body_setIdentity (identity : IdentityComp) :
    (w.setIdentity e identity).body x = w.body x := rfl

@[simp] theorem body_setRelationships (cache : RelationshipCacheComp) :
    (w.setRelationships e cache).body x = w.body x := rfl

@[simp] theorem body_setEmotion (emotion : EmotionComp) :
    (w.setEmotion e emotion).body x = w.body x := rfl

@[simp] theorem body_setActivity (text : String) :
    (w.setActivity e text).body x = w.body x := rfl

@[simp] theorem body_setCooldown (cooldown : CooldownComp) :
    (w.setCooldown e cooldown).body x = w.body x := rfl

@[simp] theorem body_setAffordance (affordance : AffordanceComp) :
    (w.setAffordance e affordance).body x = w.body x := rfl

@[simp] theorem body_setOccupiedBy (occupant : Option Entity) :
    (w.setOccupiedBy e occupant).body x = w.body x := rfl

@[simp] theorem body_setLastSynced (sync : LastSyncedComp) :
    (w.setLastSynced e sync).body x = w.body x := rfl

@[simp] theorem body_setHealth (health : HealthComp F) :
    (w.setHealth e health).body x = w.body x := rfl

@[simp] theorem body_setCombat (combat : CombatComp F) :
    (w.setCombat e combat).body x = w.body x := rfl

@[simp] theorem body_setAggro (aggro : AggroComp) :
    (w.setAggro e aggro).body x = w.body x := rfl

@[simp] theorem body_eraseBehaviorTree : (w.eraseBehaviorTree e).body x = w.body x := rfl

@[simp] theorem body_issue (request : Request F) : (w.issue request).body x = w.body x := rfl

theorem body_setLocation (loc : LocationComp F) : (w.setLocation e loc).body x =
    if x = e then { w.body x with location := some loc } else w.body x := by
  split <;> simp [body, setLocation, *]

theorem body_setVelocity (velocity : VelocityComp F) : (w.setVelocity e velocity).body x =
    if x = e then { w.body x with velocity := some velocity } else w.body x := by
  split <;> simp [body, setVelocity, *]

theorem body_modifyVelocity (f : VelocityComp F → VelocityComp F) :
    (w.modifyVelocity e f).body x =
      if x = e then { w.body x with velocity := (w.reg.velocity x).map f } else w.body x := by
  split <;> simp [body, modifyVelocity, *]

theorem body_setPathfinding (path : PathfindingComp F) : (w.setPathfinding e path).body x =
    if x = e then { w.body x with pathfinding := some path } else w.body x := by
  split <;> simp [body, setPathfinding, *]

theorem body_clearPath : (w.clearPath e).body x =
    if x = e then { w.body x with pathfinding := (w.reg.pathfinding x).map PathfindingComp.reset }
    else w.body x := by
  split <;> simp [body, clearPath, *]

theorem body_setJob (job : JobComp F) : (w.setJob e job).body x =
    if x = e then { w.body x with job := some job } else w.body x := by
  split <;> simp [body, setJob, *]

theorem body_setToil (toil : ToilComp) : (w.setToil e toil).body x =
    if x = e then { w.body x with toil := some toil } else w.body x := by
  split <;> simp [body, setToil, *]

theorem body_setNeeds (needs : NeedsComp F) : (w.setNeeds e needs).body x =
    if x = e then { w.body x with needs := some needs } else w.body x := by
  split <;> simp [body, setNeeds, *]

theorem body_eraseBusy : (w.eraseBusy e).body x =
    if x = e then { w.body x with busy := none } else w.body x := by
  split <;> simp [body, eraseBusy, Registry.eraseBusy, *]

theorem body_modifyBusy (f : BusyTag F → BusyTag F) : (w.modifyBusy e f).body x =
    if x = e then { w.body x with busy := (w.reg.busy x).map f } else w.body x := by
  split <;> simp [body, modifyBusy, Registry.modifyBusy, *]

theorem body_setBusy (tag : BusyTag F) (w' : World F) (tagged : w.setBusy e tag = some w') :
    w'.body x = if x = e then { w.body x with busy := some tag } else w.body x := by
  obtain ⟨-, _, rfl⟩ := setBusy_cases tagged
  split <;> simp [body, *]

theorem body_destroy : ({ w with reg := w.reg.destroy e } : World F).body x =
    if x = e then Body.none else w.body x := by
  split <;> simp [body, Body.none, Registry.destroy, *]

theorem body_create : ({ w with reg := w.reg.create } : World F).body x =
    if x = w.reg.nextEntity then Body.none else w.body x := by
  split <;> simp [body, Body.none, Registry.create, Registry.destroy, *]

theorem body_updateEntityPosition [Scalar F] (x z : F) (n : Entity) (other : n ≠ e) :
    (w.updateEntityPosition e x z).body n = w.body n := by
  unfold updateEntityPosition
  cases loc : (w.grid.updateEntityPosition e x z (w.reg.location e)) with
  | mk grid located => cases located <;> simp [body, setLocation, other]

theorem updateEntityPosition_own [Scalar F] (x z : F) :
    ∃ loc, (w.updateEntityPosition e x z).body e = { w.body e with location := loc } ∧
      loc.map (fun loc => (loc.x, loc.z)) = (w.reg.location e).map fun _ => (x, z) := by
  unfold updateEntityPosition LocationRegistry.updateEntityPosition
  cases located : w.reg.location e with
  | none => exact ⟨none, by simp [body, located], rfl⟩
  | some loc =>
      refine ⟨some ((w.grid.moveToCell e x z).resolveZone x z loc).2, ?_, ?_⟩
      · simp [body, setLocation]
      · simp [LocationRegistry.resolveZone]

theorem updateEntityPosition_map [Scalar F] (x z : F) : (w.updateEntityPosition e x z).map = w.map := by
  obtain ⟨grid, location, moved⟩ := w.updateEntityPosition_eq e x z
  rw [moved]

end World

end MundusVivens
