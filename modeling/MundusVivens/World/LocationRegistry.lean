import MundusVivens.World.GridMap

set_option autoImplicit false

/-!
# The location registry

Named places, the cells of the spatial hash and the zone table. The maps of the
source are lookup functions; `locationCenters` keeps an order because the source
iterates over it.
-/

namespace MundusVivens

open Scalar

structure LocationMeta (F : Type) where
  x : F
  z : F
  type : LocationType
  regionId : UInt32
  territoryId : UInt32

structure LocationRegistry (F : Type) where
  locationCenters : List (String × LocationMeta F)
  cellEntities : UInt64 → List Entity
  entityToCell : Entity → Option UInt64
  nameToZone : String → Option UInt32
  zoneToName : List String
  nextZoneId : UInt32
  -- `region_map_`, absent until the map is baked.
  regionMap : Option (Int → UInt32)
  mapWidth : Int
  mapHeight : Int

namespace LocationRegistry

variable {F : Type} [Scalar F]

def cellSize : F := lit 8
def locationRadius : F := lit 8

def empty : LocationRegistry F :=
  { locationCenters := []
    cellEntities := fun _ => []
    entityToCell := fun _ => none
    nameToZone := fun _ => none
    zoneToName := []
    nextZoneId := 1
    regionMap := none
    mapWidth := 0
    mapHeight := 0 }

def getOrCreateZoneId (grid : LocationRegistry F) (name : String) : LocationRegistry F × UInt32 :=
  let names := if grid.zoneToName.isEmpty then ["Wilderness"] else grid.zoneToName
  match grid.nameToZone name with
  | some zone => ({ grid with zoneToName := names }, zone)
  | none =>
      ({ grid with
          zoneToName := names ++ [name]
          nameToZone := Function.update grid.nameToZone name (some grid.nextZoneId)
          nextZoneId := grid.nextZoneId + 1 },
        grid.nextZoneId)

def lookupCenter (grid : LocationRegistry F) (name : String) : Option (LocationMeta F) :=
  (grid.locationCenters.find? fun entry => entry.1 = name).map (·.2)

def registerLocation (grid : LocationRegistry F) (name : String) (location : LocationMeta F) :
    LocationRegistry F :=
  let others := grid.locationCenters.filter fun entry => entry.1 ≠ name
  (getOrCreateZoneId { grid with locationCenters := others ++ [(name, location)] } name).1

-- Write one location into the region map.
def bakeLocation (width height : Int) (grid : LocationRegistry F)
    (entry : String × LocationMeta F) : LocationRegistry F :=
  let (grid, zone) := grid.getOrCreateZoneId entry.1
  let location := entry.2
  let minX := max 0 (floor (location.x - locationRadius))
  let maxX := min (width - 1) (ceil (location.x + locationRadius))
  let minZ := max 0 (floor (location.z - locationRadius))
  let maxZ := min (height - 1) (ceil (location.z + locationRadius))
  let paint (region : Int → UInt32) (x z : Int) : Int → UInt32 :=
    let dx := ofInt x - location.x
    let dz := ofInt z - location.z
    if le (dx * dx + dz * dz) (locationRadius * locationRadius) then
      Function.update region (x * height + z) zone
    else region
  let region := (intRange minX maxX).foldl
    (fun region x => (intRange minZ maxZ).foldl (fun region z => paint region x z) region)
    (grid.regionMap.getD fun _ => 0)
  { grid with regionMap := some region }

-- The places of the table are `int`s in the source, which holds up to 2 ^ 31 tiles.
def bakeRegionMap (grid : LocationRegistry F) (width height : Int) : LocationRegistry F :=
  grid.locationCenters.foldl (bakeLocation width height)
    { grid with mapWidth := width, mapHeight := height, regionMap := some fun _ => 0 }

-- The closest centre met first, with its distance.
def closestCenter (grid : LocationRegistry F) (x z : F) : F × String :=
  grid.locationCenters.foldl
    (fun best entry =>
      let dist := hypot (entry.2.x - x) (entry.2.z - z)
      if lt dist best.1 then (dist, entry.1) else best)
    (lit 999999, "Wilderness")

def getLocationNameAt (grid : LocationRegistry F) (x z : F) : String :=
  let ix := clampInt (round x) 0 (if 0 < grid.mapWidth then grid.mapWidth - 1 else 1999)
  let iz := clampInt (round z) 0 (if 0 < grid.mapHeight then grid.mapHeight - 1 else 1999)
  match grid.regionMap with
  | some region =>
      let zone := region (ix * grid.mapHeight + iz)
      if zone ≠ 0 then (grid.zoneToName[zone.toNat]?).getD "Wilderness" else "Wilderness"
  | none =>
      let closest := grid.closestCenter x z
      if le closest.1 locationRadius then closest.2 else "Wilderness"

-- The key of the cell `(cx, cz)`, each index cut to 32 bits.
def cellKey (cx cz : Int) : UInt64 :=
  ((UInt32.ofInt cx).toUInt64 <<< 32) ||| (UInt32.ofInt cz).toUInt64

def getCellKey (x z : F) : UInt64 := cellKey (floor (x / cellSize)) (floor (z / cellSize))

def leaveCell (grid : LocationRegistry F) (e : Entity) (cell : UInt64) : UInt64 → List Entity :=
  Function.update grid.cellEntities cell ((grid.cellEntities cell).filter (· ≠ e))

-- The first half of `UpdateEntityPosition`: move the entity to its cell.
def moveToCell (grid : LocationRegistry F) (e : Entity) (x z : F) : LocationRegistry F :=
  let newCell := getCellKey x z
  match grid.entityToCell e with
  | some cell =>
      if cell = newCell then grid
      else
        let cells := grid.leaveCell e cell
        { grid with
          entityToCell := Function.update grid.entityToCell e (some newCell)
          cellEntities := Function.update cells newCell (cells newCell ++ [e]) }
  | none =>
      { grid with
        entityToCell := Function.update grid.entityToCell e (some newCell)
        cellEntities :=
          Function.update grid.cellEntities newCell (grid.cellEntities newCell ++ [e]) }

-- The second half: resolve the zone of the position and write it to the component.
def resolveZone (grid : LocationRegistry F) (x z : F) (loc : LocationComp F) :
    LocationRegistry F × LocationComp F :=
  let resolvedLoc := grid.getLocationNameAt x z
  let (zoned, resolvedZone) := grid.getOrCreateZoneId resolvedLoc
  let entered :=
    if loc.locationName ≠ resolvedLoc ∨ loc.zoneId ≠ resolvedZone then
      let renamed := { loc with locationName := resolvedLoc, zoneId := resolvedZone }
      match grid.lookupCenter resolvedLoc with
      | some center =>
          { renamed with
            type := center.type, regionId := center.regionId, territoryId := center.territoryId }
      | none =>
          { renamed with
            type := if resolvedLoc = "Wilderness" then .wilderness else .unspecified
            regionId := 0
            territoryId := 0 }
    else loc
  (zoned, { entered with x := x, z := z })

def updateEntityPosition (grid : LocationRegistry F) (e : Entity) (x z : F)
    (loc : Option (LocationComp F)) : LocationRegistry F × Option (LocationComp F) :=
  let moved := grid.moveToCell e x z
  match loc with
  | none => (moved, none)
  | some loc =>
      let (zoned, loc) := moved.resolveZone x z loc
      (zoned, some loc)

def removeEntity (grid : LocationRegistry F) (e : Entity) : LocationRegistry F :=
  match grid.entityToCell e with
  | some cell =>
      { grid with
        cellEntities := grid.leaveCell e cell
        entityToCell := Function.update grid.entityToCell e none }
  | none => grid

-- The 3 by 3 cells around the point, filtered by the squared distance.
def getNearbyEntities (grid : LocationRegistry F) (x z radius : F)
    (location : Entity → Option (LocationComp F)) : List Entity :=
  let cx := floor (x / cellSize)
  let cz := floor (z / cellSize)
  (intRange (-1) 1).flatMap fun i => (intRange (-1) 1).flatMap fun j =>
    (grid.cellEntities (cellKey (cx + i) (cz + j))).filter fun e =>
      match location e with
      | none => false
      | some loc =>
          let dx := loc.x - x
          let dz := loc.z - z
          le (dx * dx + dz * dz) (radius * radius)

-- The two draws of `RandomizeWithinRadius`.
structure RadiusDraw (F : Type) where
  angle : F
  unit : F

def randomizeWithinRadius (centerX centerZ radius : F) (draw : RadiusDraw F) : F × F :=
  let r := radius * sqrt draw.unit
  (centerX + r * cos draw.angle, centerZ + r * sin draw.angle)

end LocationRegistry

end MundusVivens
