import MundusVivens.World.Places
import MundusVivens.World.Zones
import MundusVivens.Shared.Reals

set_option autoImplicit false

/-!
# The region map

Baking paints the disc of each location into a table of zones. Where discs overlap the location
that comes last in the map of centres keeps the tile, whether or not it is the nearest one.
-/

namespace MundusVivens

open Scalar

namespace LocationRegistry

section

variable {F : Type} [Scalar F]

def covers (x z : Int) (location : LocationMeta F) : Bool :=
  let dx := ofInt x - location.x
  let dz := ofInt z - location.z
  le (dx * dx + dz * dz) (locationRadius * locationRadius)

def discTiles (width height : Int) (location : LocationMeta F) : List (Int × Int) :=
  let minX := max 0 (floor (location.x - locationRadius))
  let maxX := min (width - 1) (ceil (location.x + locationRadius))
  let minZ := max 0 (floor (location.z - locationRadius))
  let maxZ := min (height - 1) (ceil (location.z + locationRadius))
  ((intRange minX maxX).flatMap fun x => (intRange minZ maxZ).map fun z => (x, z)).filter
    fun t => covers t.1 t.2 location

def paintTiles (height : Int) (zone : UInt32) (tiles : List (Int × Int)) (region : Int → UInt32) :
    Int → UInt32 :=
  tiles.foldl (fun region t => Function.update region (t.1 * height + t.2) zone) region

variable {grid : LocationRegistry F} {names : List String} {region : Int → UInt32}

theorem bakeLocation_paints (width height : Int) (entry : String × LocationMeta F) (zone : UInt32)
    (known : grid.getOrCreateZoneId entry.1 = (grid, zone)) (baked : grid.regionMap = some region) :
    bakeLocation width height grid entry = { grid with
      regionMap := some (paintTiles height zone (discTiles width height entry.2) region) } := by
  unfold bakeLocation paintTiles discTiles
  dsimp only
  rw [known]
  simp only [List.foldl_filter, List.foldl_flatMap, List.foldl_map, baked, Option.getD_some]
  rfl

def zoneOf (grid : LocationRegistry F) (name : String) : UInt32 := (grid.nameToZone name).getD 0

-- The zones of the tiles after these locations were baked.
def paintAll (grid : LocationRegistry F) (width height : Int) (order : List (String × LocationMeta F))
    (region : Int → UInt32) : Int → UInt32 :=
  order.foldl (fun region entry =>
    paintTiles height (grid.zoneOf entry.1) (discTiles width height entry.2) region) region

theorem bake_paints (zoned : grid.Zoned names) (width height : Int)
    (order : List (String × LocationMeta F)) (named : ∀ entry ∈ order, entry.1 ∈ names)
    (baked : grid.regionMap = some region) : order.foldl (bakeLocation width height) grid =
      { grid with regionMap := some (grid.paintAll width height order region) } := by
  induction order generalizing grid region with
  | nil =>
      unfold paintAll
      rw [List.foldl_nil, List.foldl_nil, ← baked]
  | cons entry rest ih =>
      have known := zoned.numbered.getOrCreate_known (named entry List.mem_cons_self)
      rw [List.foldl_cons, bakeLocation_paints width height entry _ known baked]
      have still : ({ grid with regionMap := some (paintTiles height (grid.zoneOf entry.1)
          (discTiles width height entry.2) region) } : LocationRegistry F).Zoned names :=
        ⟨zoned.table, zoned.known, zoned.unknown, zoned.next, zoned.distinct, zoned.centers⟩
      exact ih still (fun other among => named other (List.mem_cons_of_mem _ among)) rfl

theorem paintTiles_apply (height : Int) (zone : UInt32) (tiles : List (Int × Int)) (idx : Int) :
    paintTiles height zone tiles region idx =
      if ∃ t ∈ tiles, t.1 * height + t.2 = idx then zone else region idx := by
  unfold paintTiles
  induction tiles generalizing region with
  | nil => simp
  | cons first rest ih =>
      rw [List.foldl_cons, ih, Function.update_apply]
      by_cases here : idx = first.1 * height + first.2
      · simp [here]
      · rw [if_neg here]
        refine if_congr ?_ rfl rfl
        simp only [List.mem_cons, exists_eq_or_imp]
        exact (or_iff_right (Ne.symm here)).symm

-- The location that keeps a tile is the last one whose disc covers it.
def lastCovering (order : List (String × LocationMeta F)) (x z : Int) :
    Option (String × LocationMeta F) := (order.filter fun entry => covers x z entry.2).getLast?

end

variable {width height x z : Int} {location : LocationMeta ℝ}

noncomputable def squares (x z : Int) (location : LocationMeta ℝ) : ℝ :=
  ((x : ℝ) - location.x) ^ 2 + (z - location.z) ^ 2

/-- The centre is within the radius of the tile. -/
def InDisc (x z : Int) (location : LocationMeta ℝ) : Prop :=
  squares x z location ≤ locationRadius ^ 2

theorem inDisc_iff : InDisc x z location ↔
    ((x : ℝ) - location.x) ^ 2 + (z - location.z) ^ 2 ≤ 8 ^ 2 := by
  have radius : (locationRadius : ℝ) = 8 := by norm_num [locationRadius]
  rw [InDisc, radius, squares]

theorem covers_iff : covers x z location = true ↔ InDisc x z location := by
  have whole (n : Int) : (ofInt n : ℝ) = n := by simp [ofInt]
  unfold covers InDisc squares
  dsimp only
  rw [le_real, whole, whole, ← pow_two, ← pow_two, ← pow_two]

theorem mem_discTiles : (x, z) ∈ discTiles width height location ↔
    (0 ≤ x ∧ x < width) ∧ (0 ≤ z ∧ z < height) ∧ covers x z location = true := by
  have radius : (locationRadius : ℝ) = 8 := by norm_num [locationRadius]
  have boxed {c : ℝ} {n : Int} (near : |(n : ℝ) - c| ≤ 8) : ⌊c - 8⌋ ≤ n ∧ n ≤ ⌈c + 8⌉ := by
    obtain ⟨low, high⟩ := abs_le.mp near
    have below : (⌊c - 8⌋ : ℝ) ≤ n := (Int.floor_le _).trans (by linarith)
    have above : (n : ℝ) ≤ ⌈c + 8⌉ := le_trans (by linarith) (Int.le_ceil _)
    exact ⟨by exact_mod_cast below, by exact_mod_cast above⟩
  unfold discTiles
  rw [List.mem_filter, List.mem_flatMap, radius]
  simp only [List.mem_map, mem_intRange, Prod.mk.injEq]
  constructor
  · rintro ⟨⟨x, inX, z, inZ, rfl, rfl⟩, covered⟩
    exact ⟨by omega, by omega, covered⟩
  · rintro ⟨inX, inZ, covered⟩
    have circle := inDisc_iff.mp (covers_iff.mp covered)
    have nearX : |(x : ℝ) - location.x| ≤ 8 :=
      abs_le_of_sq_le_sq (by linarith [sq_nonneg ((z : ℝ) - location.z)]) (by norm_num)
    have nearZ : |(z : ℝ) - location.z| ≤ 8 :=
      abs_le_of_sq_le_sq (by linarith [sq_nonneg ((x : ℝ) - location.x)]) (by norm_num)
    have boxX : floor (location.x - 8) ≤ x ∧ x ≤ ceil (location.x + 8) := boxed nearX
    have boxZ : floor (location.z - 8) ≤ z ∧ z ≤ ceil (location.z + 8) := boxed nearZ
    exact ⟨⟨x, by omega, z, by omega, rfl, rfl⟩, covered⟩

theorem place_inside {height : Int} (inX : 0 ≤ x ∧ x < width) (inZ : 0 ≤ z ∧ z < height) :
    0 ≤ x * height + z ∧ x * height + z < width * height := by
  have low : 0 ≤ x * height := Int.mul_nonneg inX.1 (by omega)
  have high : (x + 1) * height ≤ width * height := Int.mul_le_mul_of_nonneg_right (by omega) (by omega)
  rw [Int.add_mul, Int.one_mul] at high
  omega

theorem place_injective {x' z' : Int} (inZ : 0 ≤ z ∧ z < height) (inZ' : 0 ≤ z' ∧ z' < height)
    (same : x' * height + z' = x * height + z) : x' = x ∧ z' = z := by
  have row (x z : Int) (inZ : 0 ≤ z ∧ z < height) : (x * height + z) % height = z := by
    rw [Int.add_comm, Int.add_mul_emod_self_right, Int.emod_eq_of_lt inZ.1 inZ.2]
  have sameZ : z' = z := by rw [← row x' z' inZ', same, row x z inZ]
  subst sameZ
  exact ⟨Int.eq_of_mul_eq_mul_right (by omega) (by omega : x' * height = x * height), rfl⟩

theorem paintTiles_disc (zone : UInt32) (region : Int → UInt32) (inX : 0 ≤ x ∧ x < width)
    (inZ : 0 ≤ z ∧ z < height) :
    paintTiles height zone (discTiles width height location) region (x * height + z) =
      if covers x z location = true then zone else region (x * height + z) := by
  rw [paintTiles_apply]
  refine if_congr ?_ rfl rfl
  constructor
  · rintro ⟨⟨x', z'⟩, painted, same⟩
    obtain ⟨inX', inZ', covered⟩ := mem_discTiles.mp painted
    obtain ⟨rfl, rfl⟩ := place_injective inZ inZ' same
    exact covered
  · exact fun covered => ⟨(x, z), mem_discTiles.mpr ⟨inX, inZ, covered⟩, rfl⟩

variable {grid : LocationRegistry ℝ} {names : List String}

theorem paintAll_tile (order : List (String × LocationMeta ℝ)) (region : Int → UInt32)
    (inX : 0 ≤ x ∧ x < width) (inZ : 0 ≤ z ∧ z < height) :
    grid.paintAll width height order region (x * height + z) =
      (lastCovering order x z).elim (region (x * height + z)) fun entry => grid.zoneOf entry.1 := by
  induction order generalizing region with
  | nil => rfl
  | cons entry rest ih =>
      have turn : grid.paintAll width height (entry :: rest) region = grid.paintAll width height rest
          (paintTiles height (grid.zoneOf entry.1) (discTiles width height entry.2) region) := rfl
      rw [turn, ih, paintTiles_disc _ _ inX inZ]
      unfold lastCovering
      rw [List.filter_cons]
      by_cases covered : covers x z entry.2 = true
      · rw [if_pos covered, if_pos covered, List.getLast?_cons]
        cases (rest.filter fun entry => covers x z entry.2).getLast? <;> rfl
      · rw [if_neg covered, if_neg covered]

theorem paintAll_outside (order : List (String × LocationMeta ℝ)) (region : Int → UInt32) {idx : Int}
    (outside : idx < 0 ∨ width * height ≤ idx) :
    grid.paintAll width height order region idx = region idx := by
  induction order generalizing region with
  | nil => rfl
  | cons entry rest ih =>
      refine (ih _).trans ?_
      dsimp only
      rw [paintTiles_apply, if_neg]
      rintro ⟨⟨x, z⟩, painted, rfl⟩
      obtain ⟨inX, inZ, -⟩ := mem_discTiles.mp painted
      have inside := place_inside inX inZ
      dsimp only at outside
      omega

/-- A size with positive sides, and as many tiles as an `int` can count. -/
structure MapSize where
  width : Int
  height : Int
  wide : 0 < width
  high : 0 < height
  fits : width * height < 2 ^ 31

def inOrder {F : Type} (grid : LocationRegistry F) (order : List (String × LocationMeta F)) :
    LocationRegistry F := { grid with locationCenters := order }

theorem bakeRegionMap_paints (zoned : grid.Zoned names) (width height : Int)
    (order : List (String × LocationMeta ℝ)) (perm : order.Perm grid.locationCenters) :
    (grid.inOrder order).bakeRegionMap width height =
      { grid.inOrder order with
        mapWidth := width
        mapHeight := height
        regionMap := some (grid.paintAll width height order fun _ => 0) } := by
  have named (entry : String × LocationMeta ℝ) (member : entry ∈ order) : entry.1 ∈ names :=
    zoned.centers.mem_iff.mp (List.mem_map_of_mem (perm.mem_iff.mp member))
  have empty : ({ grid.inOrder order with
      mapWidth := width, mapHeight := height, regionMap := some fun _ => 0 } :
        LocationRegistry ℝ).Zoned names :=
    ⟨zoned.table, zoned.known, zoned.unknown, zoned.next, zoned.distinct,
      (perm.map Prod.fst).trans zoned.centers⟩
  exact bake_paints empty width height order named rfl

theorem lastCovering_spec (order : List (String × LocationMeta ℝ)) (x z : Int) :
    (lastCovering order x z = none ∧ ∀ entry ∈ order, ¬InDisc x z entry.2) ∨
      ∃ last, lastCovering order x z = some last ∧ last ∈ order ∧ InDisc x z last.2 := by
  unfold lastCovering
  cases found : (order.filter fun entry => covers x z entry.2).getLast? with
  | none =>
      refine .inl ⟨rfl, fun entry member inside => ?_⟩
      have among : entry ∈ order.filter fun entry => covers x z entry.2 :=
        List.mem_filter.mpr ⟨member, covers_iff.mpr inside⟩
      rw [List.getLast?_eq_none_iff.mp found] at among
      cases among
  | some last =>
      obtain ⟨member, covered⟩ := List.mem_filter.mp (List.mem_of_getLast? found)
      exact .inr ⟨last, rfl, member, covers_iff.mp covered⟩

/-- Baking fewer than 2 ^ 32 locations, in whatever order, writes inside the table only, at places
an `int` can hold. A tile has a zone exactly if some centre is within the radius, and it is the zone
of such a location, whose name the zone table gives back. -/
theorem baked_zones_are_exact (registrations : List (String × LocationMeta ℝ))
    (few : (registered registrations).locationCenters.length < 2 ^ 32)
    (order : List (String × LocationMeta ℝ))
    (perm : order.Perm (registered registrations).locationCenters) (size : MapSize) :
    let baked := ((registered registrations).inOrder order).bakeRegionMap size.width size.height
    (∀ entry ∈ order, ∀ t ∈ discTiles size.width size.height entry.2,
      0 ≤ t.1 * size.height + t.2 ∧ t.1 * size.height + t.2 < size.width * size.height ∧
        t.1 * size.height + t.2 < 2 ^ 31) ∧
    ∃ region, baked.regionMap = some region ∧
      (∀ idx, idx < 0 ∨ size.width * size.height ≤ idx → region idx = 0) ∧
      ∀ x z, 0 ≤ x ∧ x < size.width → 0 ≤ z ∧ z < size.height →
        (region (x * size.height + z) ≠ 0 ↔
          ∃ entry ∈ (registered registrations).locationCenters, InDisc x z entry.2) ∧
        (region (x * size.height + z) ≠ 0 →
          ∃ entry ∈ (registered registrations).locationCenters, InDisc x z entry.2 ∧
            baked.nameToZone entry.1 = some (region (x * size.height + z)) ∧
            baked.zoneToName[(region (x * size.height + z)).toNat]? = some entry.1) := by
  intro baked
  obtain ⟨names, zoned⟩ := registered_zoned registrations
  have few' : names.length < 2 ^ 32 := by
    rw [← zoned.centers.length_eq, List.length_map]
    exact few
  have painted : baked = _ := bakeRegionMap_paints zoned size.width size.height order perm
  refine ⟨fun entry _ t among => ?_, _, by rw [painted], fun idx outside =>
    paintAll_outside order _ outside, fun x z inX inZ => ?_⟩
  · obtain ⟨inX, inZ, -⟩ := mem_discTiles.mp among
    obtain ⟨low, high⟩ := place_inside inX inZ
    exact ⟨low, high, high.trans size.fits⟩
  · rw [paintAll_tile order _ inX inZ, painted]
    rcases lastCovering_spec order x z with ⟨none, bare⟩ | ⟨last, keeps, member, inside⟩
    · rw [none]
      refine ⟨⟨fun zone => absurd rfl zone, ?_⟩, fun zone => absurd rfl zone⟩
      rintro ⟨entry, member, inside⟩
      exact absurd inside (bare entry (perm.mem_iff.mpr member))
    · rw [keeps]
      have center := perm.mem_iff.mp member
      obtain ⟨zone, known, positive, back⟩ := zoned.numbered.roundtrip few'
        (zoned.centers.mem_iff.mp (List.mem_map_of_mem center))
      have own : (registered registrations).zoneOf last.1 = zone := by
        unfold zoneOf
        rw [known]
        rfl
      simp only [Option.elim_some, own]
      exact ⟨⟨fun _ => ⟨last, center, inside⟩, fun _ => positive⟩,
        fun _ => ⟨last, center, inside, known, back⟩⟩

-- Two locations whose discs overlap.
noncomputable def hamlets : List (String × LocationMeta ℝ) :=
  [("A", ⟨0, 0, .place, 0, 0⟩), ("B", ⟨lit 10, 0, .place, 0, 0⟩)]

theorem hamlets_centers : (registered hamlets).locationCenters = hamlets := rfl

-- A tile under both discs, one under the first, and one under neither.
theorem baked_zones_are_exact_hamlets : ∃ region,
    ((registered hamlets).bakeRegionMap 20 20).regionMap = some region ∧
      region (5 * 20 + 0) ≠ 0 ∧ region (0 * 20 + 3) ≠ 0 ∧ region (19 * 20 + 19) = 0 := by
  obtain ⟨-, region, baked, -, tiles⟩ := baked_zones_are_exact hamlets
    (by rw [hamlets_centers]; simp [hamlets]) _ (.refl _) ⟨20, 20, by decide, by decide, by decide⟩
  have inside (x z : Int) (inX : 0 ≤ x ∧ x < 20) (inZ : 0 ≤ z ∧ z < 20) : region (x * 20 + z) ≠ 0 ↔
      InDisc x z (⟨0, 0, .place, 0, 0⟩ : LocationMeta ℝ) ∨
        InDisc x z (⟨lit 10, 0, .place, 0, 0⟩ : LocationMeta ℝ) := by
    rw [(tiles x z inX inZ).1, hamlets_centers]
    simp [hamlets]
  refine ⟨region, baked, (inside 5 0 (by decide) (by decide)).mpr (.inl ?_),
    (inside 0 3 (by decide) (by decide)).mpr (.inl ?_), ?_⟩
  · rw [inDisc_iff]
    norm_num
  · rw [inDisc_iff]
    norm_num
  · by_contra covered
    rcases (inside 19 19 (by decide) (by decide)).mp covered with near | near <;>
      · rw [inDisc_iff] at near
        norm_num at near

def crowdName (k : Nat) : String := String.ofList (List.replicate k 'a')

-- So many locations, of which only the last one is near the origin.
noncomputable def crowdOf (n : Nat) : List (String × LocationMeta ℝ) :=
  (List.range n).map fun k => (crowdName k, ⟨if k + 1 = n then 0 else lit 100, 0, .place, 0, 0⟩)

theorem crowdOf_wraps (n : Nat) (filled : 0 < n) (wraps : UInt32.ofNat n = 0) : ∃ region,
    ((registered (crowdOf n)).bakeRegionMap 1 1).regionMap = some region ∧ region 0 = 0 ∧
      ∃ entry ∈ (registered (crowdOf n)).locationCenters, InDisc 0 0 entry.2 := by
  have names : (crowdOf n).map Prod.fst = (List.range n).map crowdName := by
    rw [crowdOf, List.map_map]
    rfl
  have distinct : ((crowdOf n).map Prod.fst).Nodup := by
    rw [names]
    refine List.nodup_range.map fun j k same => ?_
    simpa using congrArg List.length (String.ofList_injective same)
  have zoned := registered_zoned_distinct (crowdOf n) distinct
  have last : (registered (crowdOf n)).zoneOf (crowdName (n - 1)) = 0 := by
    have at_last : ((crowdOf n).map Prod.fst)[n - 1]? = some (crowdName (n - 1)) := by
      rw [names, List.getElem?_map, List.getElem?_range (by omega)]
      rfl
    unfold zoneOf
    rw [zoned.known _ _ at_last, Nat.sub_add_cancel filled, wraps]
    rfl
  have near {entry : String × LocationMeta ℝ} (member : entry ∈ crowdOf n) :
      InDisc 0 0 entry.2 ↔ entry.1 = crowdName (n - 1) := by
    obtain ⟨k, inside, rfl⟩ := List.mem_map.mp member
    rw [List.mem_range] at inside
    rw [inDisc_iff]
    by_cases final : k + 1 = n
    · rw [if_pos final, show n - 1 = k by omega]
      norm_num
    · rw [if_neg final]
      constructor
      · intro close
        norm_num at close
      · intro same
        have length := congrArg List.length (String.ofList_injective same)
        simp only [List.length_replicate] at length
        omega
  have painted := bakeRegionMap_paints zoned 1 1 (registered (crowdOf n)).locationCenters (.refl _)
  refine ⟨_, congrArg regionMap painted, ?_, ?_⟩
  · have origin : (0 : Int) ≤ 0 ∧ (0 : Int) < 1 := by decide
    refine (paintAll_tile (registered (crowdOf n)).locationCenters (fun _ => 0) origin origin).trans ?_
    rcases lastCovering_spec (registered (crowdOf n)).locationCenters 0 0 with
      ⟨none, -⟩ | ⟨entry, keeps, member, inside⟩
    · rw [none]
      rfl
    · rw [keeps, Option.elim_some, (near (mem_registrations _ member)).mp inside, last]
  · have among : crowdName (n - 1) ∈ (crowdOf n).map Prod.fst := by
      rw [names]
      exact List.mem_map_of_mem (List.mem_range.mpr (by omega))
    obtain ⟨entry, member, same⟩ := List.mem_map.mp (zoned.centers.mem_iff.mpr among)
    exact ⟨entry, member, (near (mem_registrations _ member)).mpr same⟩

theorem last_zone_wraps : ∃ registrations : List (String × LocationMeta ℝ), ∃ region,
    ((registered registrations).bakeRegionMap 1 1).regionMap = some region ∧
      ¬(region (0 * 1 + 0) ≠ 0 ↔
        ∃ entry ∈ (registered registrations).locationCenters, InDisc 0 0 entry.2) := by
  obtain ⟨region, baked, bare, covered⟩ := crowdOf_wraps (2 ^ 32) (by norm_num) (by decide)
  exact ⟨crowdOf (2 ^ 32), region, baked, fun exact_zones => exact_zones.mpr covered bare⟩

end LocationRegistry

end MundusVivens
