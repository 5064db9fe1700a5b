import MundusVivens.World.Settlers

set_option autoImplicit false

/-!
# Places

The cell recorded for an entity and the name of its place follow from its position
as long as whoever moves it tells the registry.
-/

namespace MundusVivens

open Scalar

namespace LocationRegistry

variable {F : Type}

-- Every name in the zone table leads back to a zone.
def Named (grid : LocationRegistry F) : Prop :=
  ∀ name ∈ grid.zoneToName, name = "Wilderness" ∨ (grid.nameToZone name).isSome = true

theorem Named.of_same {grid grid' : LocationRegistry F} (named : grid.Named)
    (names : grid'.zoneToName = grid.zoneToName) (zones : grid'.nameToZone = grid.nameToZone) :
    grid'.Named := by
  rw [Named, names, zones]
  exact named

theorem getOrCreateZoneId_named (grid : LocationRegistry F) (name : String)
    (named : grid.Named) : (grid.getOrCreateZoneId name).1.Named := by
  have before (n : String)
      (member : n ∈ if grid.zoneToName.isEmpty then ["Wilderness"] else grid.zoneToName) :
      n = "Wilderness" ∨ (grid.nameToZone n).isSome = true := by
    split at member
    next => exact .inl (by simpa using member)
    next => exact named n member
  unfold getOrCreateZoneId
  dsimp only
  split
  next => exact before
  next =>
    intro n member
    by_cases same : n = name
    next => exact .inr (by simp [same])
    next =>
      have earlier := before n (by simpa [same] using member)
      simpa [same] using earlier

variable [Scalar F]

-- The name of a zone: zone 0 and the zones beyond the table are wilderness.
def zoneName (names : List String) (zone : UInt32) : String :=
  if zone ≠ 0 then (names[zone.toNat]?).getD "Wilderness" else "Wilderness"

def zoneAt (grid : LocationRegistry F) (region : Int → UInt32) (x z : F) : UInt32 :=
  region (clampInt (round x) 0 (if 0 < grid.mapWidth then grid.mapWidth - 1 else 1999) *
    grid.mapHeight + clampInt (round z) 0 (if 0 < grid.mapHeight then grid.mapHeight - 1 else 1999))

theorem getLocationNameAt_baked (grid : LocationRegistry F) (region : Int → UInt32) (x z : F)
    (baked : grid.regionMap = some region) :
    grid.getLocationNameAt x z = zoneName grid.zoneToName (grid.zoneAt region x z) := by
  simp only [getLocationNameAt, baked]
  rfl

omit [Scalar F] in
theorem zoneName_known (grid : LocationRegistry F) (zone : UInt32) (named : grid.Named) :
    zoneName grid.zoneToName zone = "Wilderness" ∨
      (grid.nameToZone (zoneName grid.zoneToName zone)).isSome = true := by
  unfold zoneName
  split
  next =>
    cases entry : grid.zoneToName[zone.toNat]? with
    | none => exact .inl rfl
    | some name => exact named name (List.mem_of_getElem? entry)
  next => exact .inl rfl

theorem getLocationNameAt_known (grid : LocationRegistry F) (x z : F) (named : grid.Named) :
    grid.regionMap = none ∨ grid.getLocationNameAt x z = "Wilderness" ∨
      (grid.nameToZone (grid.getLocationNameAt x z)).isSome = true := by
  cases baked : grid.regionMap with
  | none => exact .inl rfl
  | some region =>
      rw [getLocationNameAt_baked grid region x z baked]
      exact .inr (grid.zoneName_known _ named)

theorem zoneName_padded (names : List String) (zone : UInt32) :
    zoneName (if names.isEmpty then ["Wilderness"] else names) zone = zoneName names zone ∧
      zoneName (names ++ ["Wilderness"]) zone = zoneName names zone := by
  have wild (n : Nat) : (["Wilderness"][n]?).getD "Wilderness" = "Wilderness" := by
    cases n <;> simp
  unfold zoneName
  refine ⟨?_, ?_⟩
  · cases names with
    | nil => simp [wild]
    | cons first rest => rfl
  · split
    next =>
      by_cases inside : zone.toNat < names.length
      next => simp [List.getElem?_append_left inside]
      next =>
        rw [List.getElem?_append_right (by omega), wild, List.getElem?_eq_none (by omega)]
        rfl
    next => rfl

theorem getLocationNameAt_getOrCreateZoneId (grid : LocationRegistry F) (name : String) (x z : F)
    (known : grid.regionMap = none ∨ name = "Wilderness" ∨ (grid.nameToZone name).isSome = true) :
    (grid.getOrCreateZoneId name).1.getLocationNameAt x z = grid.getLocationNameAt x z := by
  obtain ⟨region, width, height, centers⟩ :
      (grid.getOrCreateZoneId name).1.regionMap = grid.regionMap ∧
        (grid.getOrCreateZoneId name).1.mapWidth = grid.mapWidth ∧
        (grid.getOrCreateZoneId name).1.mapHeight = grid.mapHeight ∧
        (grid.getOrCreateZoneId name).1.locationCenters = grid.locationCenters := by
    unfold getOrCreateZoneId
    dsimp only
    split <;> exact ⟨rfl, rfl, rfl, rfl⟩
  cases baked : grid.regionMap with
  | none =>
      have unbaked := region.trans baked
      have closest : (grid.getOrCreateZoneId name).1.closestCenter x z = grid.closestCenter x z := by
        rw [closestCenter, centers]
        rfl
      simp only [getLocationNameAt, baked, unbaked, closest]
  | some painted =>
      rw [getLocationNameAt_baked _ painted x z (region.trans baked),
        getLocationNameAt_baked grid painted x z baked]
      simp only [zoneAt, width, height]
      have padded := zoneName_padded grid.zoneToName
      unfold getOrCreateZoneId
      dsimp only
      split
      next => exact (padded _).1
      next unknown =>
        -- Only the wilderness can be new here.
        obtain rfl : name = "Wilderness" := by simpa [baked, unknown] using known
        exact ((zoneName_padded _ _).2).trans (padded _).1

/-- The record of every registered entity, and the name of its place, follow from its position. -/
structure Follows (grid : LocationRegistry F) (location : Entity → Option (LocationComp F)) :
    Prop where
  named : grid.Named
  inStep : ∀ e cell, grid.entityToCell e = some cell → ∃ loc, location e = some loc ∧
    cell = getCellKey loc.x loc.z ∧ loc.locationName = grid.getLocationNameAt loc.x loc.z

theorem moveToCell_entityToCell (grid : LocationRegistry F) (e : Entity) (x z : F) :
    (grid.moveToCell e x z).entityToCell =
      Function.update grid.entityToCell e (some (getCellKey x z)) := by
  unfold moveToCell
  dsimp only
  split
  next cell recorded =>
    split
    next same => rw [← same, ← recorded, Function.update_eq_self]
    next => rfl
  next => rfl

theorem moveToCell_places (grid : LocationRegistry F) (e : Entity) (x z : F) :
    (grid.moveToCell e x z).zoneToName = grid.zoneToName ∧
      (grid.moveToCell e x z).nameToZone = grid.nameToZone ∧
      (grid.moveToCell e x z).getLocationNameAt = grid.getLocationNameAt := by
  unfold moveToCell
  dsimp only
  split
  next => split <;> exact ⟨rfl, rfl, rfl⟩
  next => exact ⟨rfl, rfl, rfl⟩

theorem resolveZone_name (grid : LocationRegistry F) (x z : F) (loc : LocationComp F) :
    (grid.resolveZone x z loc).2.locationName = grid.getLocationNameAt x z := by
  unfold resolveZone
  dsimp only
  split
  next => split <;> rfl
  next same =>
    simp only [ne_eq, not_or, not_not] at same
    exact same.1

theorem updateEntityPosition_follows (grid : LocationRegistry F)
    (location : Entity → Option (LocationComp F)) (e : Entity) (x z : F) (loc : LocationComp F)
    (named : grid.Named)
    (others : ∀ y cell, y ≠ e → grid.entityToCell y = some cell → ∃ loc, location y = some loc ∧
      cell = getCellKey loc.x loc.z ∧ loc.locationName = grid.getLocationNameAt loc.x loc.z)
    (placed : Entity → Option (LocationComp F)) (elsewhere : ∀ y, y ≠ e → placed y = location y)
    (here : placed e = (grid.updateEntityPosition e x z (some loc)).2) :
    (grid.updateEntityPosition e x z (some loc)).1.Follows placed := by
  obtain ⟨names, zones, same⟩ := grid.moveToCell_places e x z
  have moved : (grid.moveToCell e x z).Named := named.of_same names zones
  have known := (grid.moveToCell e x z).getLocationNameAt_known x z moved
  have places (x' z' : F) :
      (grid.updateEntityPosition e x z (some loc)).1.getLocationNameAt x' z' =
        grid.getLocationNameAt x' z' := by
    rw [← same]
    exact getLocationNameAt_getOrCreateZoneId _ _ x' z' known
  have record : (grid.updateEntityPosition e x z (some loc)).1.entityToCell =
      Function.update grid.entityToCell e (some (getCellKey x z)) := by
    rw [← moveToCell_entityToCell]
    exact (getOrCreateZoneId_index _ _).2
  refine ⟨getOrCreateZoneId_named _ _ moved, fun y cell recorded => ?_⟩
  rw [record] at recorded
  by_cases self : y = e
  next =>
    subst self
    have name := (grid.moveToCell y x z).resolveZone_name x z loc
    refine ⟨_, here, ?_, ?_⟩
    · have entered : getCellKey x z = cell := by simpa using recorded
      rw [← entered]
    · rw [places, ← same]
      exact name
  next =>
    obtain ⟨loc', stands, inCell, name⟩ := others y cell self (by simpa [self] using recorded)
    refine ⟨loc', (elsewhere y self).trans stands, inCell, ?_⟩
    rw [places]
    exact name

theorem removeEntity_follows (grid : LocationRegistry F)
    (location removed : Entity → Option (LocationComp F)) (e : Entity)
    (follows : grid.Follows location) (elsewhere : ∀ y, y ≠ e → removed y = location y) :
    (grid.removeEntity e).Follows removed := by
  have kept : (grid.removeEntity e).Named ∧
      (grid.removeEntity e).getLocationNameAt = grid.getLocationNameAt ∧
      (grid.removeEntity e).entityToCell = Function.update grid.entityToCell e none := by
    unfold removeEntity
    split
    next => exact ⟨follows.named, rfl, rfl⟩
    next unrecorded => exact ⟨follows.named, rfl, by rw [← unrecorded, Function.update_eq_self]⟩
  obtain ⟨named, places, record⟩ := kept
  refine ⟨named, fun y cell recorded => ?_⟩
  rw [record] at recorded
  by_cases self : y = e
  next => simp [self] at recorded
  next =>
    obtain ⟨loc, stands, inCell, name⟩ := follows.inStep y cell (by simpa [self] using recorded)
    exact ⟨loc, (elsewhere y self).trans stands, inCell, by rw [places]; exact name⟩

end LocationRegistry

variable {F : Type} [Scalar F]

def World.Follows (w : World F) : Prop := w.grid.Follows w.reg.location

theorem World.Follows.of_same {w w' : World F} (follows : w.Follows) (grid : w'.grid = w.grid)
    (location : ∀ e, w'.reg.location e = w.reg.location e) : w'.Follows := by
  have same : w'.reg.location = w.reg.location := funext location
  rw [World.Follows, grid, same]
  exact follows

-- Only the positions of the others matter before an entity is placed.
theorem World.updateEntityPosition_follows (w m : World F) (e : Entity) (x z : F)
    (follows : w.Follows) (grid : m.grid = w.grid) (located : (m.reg.location e).isSome = true)
    (elsewhere : ∀ y, y ≠ e → m.reg.location y = w.reg.location y) :
    (m.updateEntityPosition e x z).Follows := by
  obtain ⟨loc, stands⟩ := Option.isSome_iff_exists.mp located
  have placed (y : Entity) (other : y ≠ e) :
      (m.updateEntityPosition e x z).reg.location y = w.reg.location y := by
    simp [World.updateEntityPosition, LocationRegistry.updateEntityPosition, stands,
      World.setLocation, other, elsewhere]
  have here : (m.updateEntityPosition e x z).reg.location e =
      (m.grid.updateEntityPosition e x z (some loc)).2 := by
    simp [World.updateEntityPosition, LocationRegistry.updateEntityPosition, stands,
      World.setLocation]
  rw [World.Follows, updateEntityPosition_grid, stands]
  refine LocationRegistry.updateEntityPosition_follows _ w.reg.location e x z loc ?_
    (fun y cell _ => ?_) _ placed here
  · rw [grid]
    exact follows.named
  · rw [grid]
    exact follows.inStep y cell

theorem emptyWorld_follows (data : WorldBootstrapData F) (settings : SimulationSettings F)
    (obstacles : Option (List Obstacle)) : (emptyWorld data settings obstacles).Follows := by
  have kept (property : LocationRegistry F → Prop)
      (zones : ∀ grid name, property grid → property (grid.getOrCreateZoneId name).1)
      (same : ∀ grid grid' : LocationRegistry F, property grid →
        grid'.zoneToName = grid.zoneToName → grid'.nameToZone = grid.nameToZone →
        grid'.entityToCell = grid.entityToCell → property grid') (empty : property .empty) :
      property (emptyWorld data settings obstacles).grid := by
    have registered (locations : List (LocationData F)) (grid : LocationRegistry F)
        (holds : property grid) : property (locations.foldl
          (fun grid loc => grid.registerLocation loc.name
            ⟨loc.x, loc.z, .ofUInt8 loc.type, loc.regionId, loc.territoryId⟩) grid) := by
      induction locations generalizing grid with
      | nil => exact holds
      | cons loc rest ih => exact ih _ (zones _ _ (same grid _ holds rfl rfl rfl))
    have baked (entries : List (String × LocationMeta F)) (grid : LocationRegistry F)
        (holds : property grid) : property (entries.foldl
          (LocationRegistry.bakeLocation GridMap.width GridMap.height) grid) := by
      induction entries generalizing grid with
      | nil => exact holds
      | cons entry rest ih => exact ih _ (same _ _ (zones grid entry.1 holds) rfl rfl rfl)
    exact baked _ _ (same _ _ (registered data.locations _ empty) rfl rfl rfl)
  refine ⟨?_, fun e cell recorded => ?_⟩
  · exact kept LocationRegistry.Named (fun grid name => grid.getOrCreateZoneId_named name)
      (fun grid grid' named names zones _ => named.of_same names zones)
      (fun name member => by simp [LocationRegistry.empty] at member)
  · have unrecorded := kept (fun grid => ∀ e, grid.entityToCell e = none)
      (fun grid name none e => by rw [(grid.getOrCreateZoneId_index name).2, none])
      (fun grid grid' none _ _ record e => by rw [record, none]) (fun e => rfl) e
    simp [unrecorded] at recorded

theorem bootstrap_follows (data : WorldBootstrapData F) (settings : SimulationSettings F)
    (obstacles : Option (List Obstacle)) (draws : Nat → NeedsDraw F) (w : World F)
    (booted : bootstrap data settings obstacles draws = some w) : w.Follows := by
  refine bootstrap_induction World.Follows data settings obstacles draws w booted
    (emptyWorld_follows data settings obstacles) (fun w furn follows => ?_)
    fun state agent draw follows => ?_
  · rw [placeFurniture]
    refine World.updateEntityPosition_follows w _ _ _ _ follows rfl ?_ fun y other => ?_
    · simp [World.setAffordance, World.setLocation]
    · simp [World.setAffordance, World.setLocation, World.setIdentity, Registry.create,
        Registry.destroy, other]
  · obtain ⟨w, nextEmoId⟩ := state
    unfold spawnAgent
    dsimp only
    split
    next => exact follows
    next =>
      have follows : w.Follows := follows
      refine World.updateEntityPosition_follows w _ w.reg.nextEntity agent.x agent.z follows rfl ?_
        fun y other => ?_
      · simp [World.setLocation]
      · simp [World.setLocation, World.setIdentity, Registry.create, Registry.destroy, other]

end MundusVivens
