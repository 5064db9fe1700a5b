import MundusVivens.World.RegionMap

set_option autoImplicit false

/-!
# Place names

Before the region map is baked the name of a place is that of the closest centre. Afterwards it
is that of the location that kept the tile, which need not be the closest one.
-/

namespace MundusVivens

open Scalar

namespace LocationRegistry

structure Nearest (locations : List (String × LocationMeta ℝ)) (x z : Int)
    (entry : String × LocationMeta ℝ) : Prop where
  member : entry ∈ locations
  least : ∀ other ∈ locations, squares x z entry.2 ≤ squares x z other.2

variable {grid : LocationRegistry ℝ} {names : List String} {x z width height : Int}

theorem closestCenter_spec (grid : LocationRegistry ℝ) (x z : ℝ) :
    (grid.closestCenter x z = (999999, "Wilderness") ∧
        ∀ entry ∈ grid.locationCenters, 999999 ≤ hypot (entry.2.x - x) (entry.2.z - z)) ∨
      ∃ closest ∈ grid.locationCenters,
        grid.closestCenter x z = (hypot (closest.2.x - x) (closest.2.z - z), closest.1) ∧
        ∀ entry ∈ grid.locationCenters,
          hypot (closest.2.x - x) (closest.2.z - z) ≤ hypot (entry.2.x - x) (entry.2.z - z) := by
  have bound : (lit 999999 : ℝ) = 999999 := by norm_num
  unfold closestCenter
  rw [bound]
  induction grid.locationCenters using List.reverseRecOn with
  | nil => exact .inl ⟨rfl, fun _ member => by cases member⟩
  | append_singleton rest last ih =>
      have both (property : String × LocationMeta ℝ → Prop) (all : ∀ entry ∈ rest, property entry)
          (final : property last) : ∀ entry ∈ rest ++ [last], property entry :=
        List.forall_mem_append.mpr ⟨all, List.forall_mem_singleton.mpr final⟩
      simp only [List.foldl_append, List.foldl_cons, List.foldl_nil]
      rcases ih with ⟨far, all⟩ | ⟨closest, member, found, all⟩
      · rw [far]
        dsimp only
        split
        next closer =>
          rw [lt_real] at closer
          exact .inr ⟨last, by simp, rfl,
            both _ (fun entry among => closer.le.trans (all entry among)) le_rfl⟩
        next farther =>
          rw [lt_real, not_lt] at farther
          exact .inl ⟨rfl, both _ all farther⟩
      · rw [found]
        dsimp only
        split
        next closer =>
          rw [lt_real] at closer
          exact .inr ⟨last, by simp, rfl,
            both _ (fun entry among => closer.le.trans (all entry among)) le_rfl⟩
        next farther =>
          rw [lt_real, not_lt] at farther
          exact .inr ⟨closest, List.mem_append_left _ member, rfl, both _ all farther⟩

theorem hypot_squares (location : LocationMeta ℝ) :
    hypot (location.x - (x : ℝ)) (location.z - (z : ℝ)) = Real.sqrt (squares x z location) := by
  rw [hypot_real]
  congr 1
  unfold squares
  ring

theorem searched_name (grid : LocationRegistry ℝ) (unbaked : grid.regionMap = none) (x z : Int) :
    ((∀ entry ∈ grid.locationCenters, ¬InDisc x z entry.2) ∧
        grid.getLocationNameAt (x : ℝ) (z : ℝ) = "Wilderness") ∨
      ∃ closest, Nearest grid.locationCenters x z closest ∧ InDisc x z closest.2 ∧
        grid.getLocationNameAt (x : ℝ) (z : ℝ) = closest.1 := by
  have radius : (locationRadius : ℝ) = 8 := by norm_num [locationRadius]
  have inDisc (location : LocationMeta ℝ) :
      InDisc x z location ↔ Real.sqrt (squares x z location) ≤ 8 := by
    rw [InDisc, radius]
    exact (Real.sqrt_le_left (by norm_num)).symm
  have name : grid.getLocationNameAt (x : ℝ) (z : ℝ) =
      if le (grid.closestCenter (x : ℝ) (z : ℝ)).1 locationRadius then
        (grid.closestCenter (x : ℝ) (z : ℝ)).2 else "Wilderness" := by
    simp only [getLocationNameAt, unbaked]
  rw [name]
  rcases grid.closestCenter_spec x z with ⟨far, all⟩ | ⟨closest, member, found, all⟩
  · rw [far, radius]
    refine .inl ⟨fun entry among inside => ?_, if_neg ?_⟩
    · rw [inDisc, ← hypot_squares] at inside
      linarith [all entry among]
    · rw [le_real]
      norm_num
  · rw [found, radius, hypot_squares]
    simp only [hypot_squares] at all
    by_cases inside : InDisc x z closest.2
    next =>
      have nonneg (location : LocationMeta ℝ) : 0 ≤ squares x z location :=
        add_nonneg (sq_nonneg _) (sq_nonneg _)
      have least (other : String × LocationMeta ℝ) (among : other ∈ grid.locationCenters) :
          squares x z closest.2 ≤ squares x z other.2 :=
        (Real.sqrt_le_sqrt_iff (nonneg _)).mp (all other among)
      exact .inr ⟨closest, ⟨member, least⟩, inside,
        if_pos ((le_real _ _).mpr ((inDisc _).mp inside))⟩
    next =>
      refine .inl ⟨fun entry among within => inside ?_, if_neg fun close => inside ?_⟩
      · rw [inDisc] at within ⊢
        exact (all entry among).trans within
      · rw [le_real] at close
        exact (inDisc _).mpr close

theorem baked_name (zoned : grid.Zoned names) (order : List (String × LocationMeta ℝ))
    (perm : order.Perm grid.locationCenters) (inX : 0 ≤ x ∧ x < width) (inZ : 0 ≤ z ∧ z < height) :
    ((grid.inOrder order).bakeRegionMap width height).getLocationNameAt (x : ℝ) (z : ℝ) =
      (lastCovering order x z).elim "Wilderness" fun last =>
        zoneName grid.zoneToName (grid.zoneOf last.1) := by
  have whole (n : Int) : (Scalar.round (n : ℝ)) = n := round_real_near (by norm_num)
  have onX : clampInt x 0 (if 0 < width then width - 1 else 1999) = x := by
    rw [if_pos (by omega)]
    exact clampInt_self (by omega) (by omega)
  have onZ : clampInt z 0 (if 0 < height then height - 1 else 1999) = z := by
    rw [if_pos (by omega)]
    exact clampInt_self (by omega) (by omega)
  rw [bakeRegionMap_paints zoned width height order perm, getLocationNameAt_baked _ _ _ _ rfl]
  unfold zoneAt
  dsimp only
  rw [whole, whole, onX, onZ, paintAll_tile order _ inX inZ]
  cases lastCovering order x z <;> rfl

theorem registered_unbaked {F : Type} (registrations : List (String × LocationMeta F)) :
    (registered registrations).regionMap = none := by
  have unpainted (grid : LocationRegistry F) (name : String) (location : LocationMeta F) :
      (grid.registerLocation name location).regionMap = grid.regionMap := by
    unfold registerLocation getOrCreateZoneId
    dsimp only
    split <;> rfl
  have all (rest : List (String × LocationMeta F)) (grid : LocationRegistry F)
      (unbaked : grid.regionMap = none) : (rest.foldl (fun grid location =>
        grid.registerLocation location.1 location.2) grid).regionMap = none := by
    induction rest generalizing grid with
    | nil => exact unbaked
    | cons first rest ih => exact ih _ ((unpainted grid _ _).trans unbaked)
  exact all registrations empty rfl

theorem Zoned.zoneName (zoned : grid.Zoned names) (few : names.length < 2 ^ 32) {name : String}
    (member : name ∈ names) :
    LocationRegistry.zoneName grid.zoneToName (grid.zoneOf name) = name := by
  obtain ⟨zone, known, positive, back⟩ := zoned.numbered.roundtrip few member
  unfold LocationRegistry.zoneName zoneOf
  rw [known, Option.getD_some, if_pos positive, back, Option.getD_some]

/-- Baking keeps the name of a tile exactly if no disc covers it, or the zone of the last location
whose disc covers it carries the name of the nearest one. With fewer than 2 ^ 32 locations this
last location has to be the nearest one itself. -/
theorem baking_keeps_name_iff (registrations : List (String × LocationMeta ℝ))
    (order : List (String × LocationMeta ℝ))
    (perm : order.Perm (registered registrations).locationCenters) (width height x z : Int)
    (inX : 0 ≤ x ∧ x < width) (inZ : 0 ≤ z ∧ z < height)
    (unique : ∀ a b, Nearest order x z a → Nearest order x z b → a = b) :
    let grid := (registered registrations).inOrder order
    let keeps := (grid.bakeRegionMap width height).getLocationNameAt (x : ℝ) (z : ℝ) =
      grid.getLocationNameAt (x : ℝ) (z : ℝ)
    (keeps ↔ ∀ last nearest, lastCovering order x z = some last → Nearest order x z nearest →
      zoneName grid.zoneToName (grid.zoneOf last.1) = nearest.1) ∧
    (order.length < 2 ^ 32 →
      (keeps ↔ ∀ last, lastCovering order x z = some last → Nearest order x z last)) := by
  intro grid keeps
  obtain ⟨names, zoned⟩ := registered_zoned registrations
  have baked := baked_name zoned order perm inX inZ
  have searched := searched_name grid (registered_unbaked registrations) x z
  have centers : (order.map Prod.fst).Perm names := (perm.map Prod.fst).trans zoned.centers
  have named {entry : String × LocationMeta ℝ} (member : entry ∈ order) : entry.1 ∈ names :=
    centers.mem_iff.mp (List.mem_map_of_mem member)
  have exactly : keeps ↔ ∀ last nearest, lastCovering order x z = some last →
      Nearest order x z nearest → zoneName grid.zoneToName (grid.zoneOf last.1) = nearest.1 := by
    dsimp only [keeps]
    rw [show ((grid.bakeRegionMap width height).getLocationNameAt (x : ℝ) (z : ℝ)) = _ from baked]
    rcases lastCovering_spec order x z with ⟨none, bare⟩ | ⟨last, covers, member, inside⟩
    · rw [none]
      rcases searched with ⟨-, wild⟩ | ⟨closest, nearest, inside, -⟩
      · rw [wild]
        simp
      · exact absurd inside (bare closest nearest.member)
    · rw [covers]
      rcases searched with ⟨bare, -⟩ | ⟨closest, nearest, -, name⟩
      · exact absurd inside (bare last member)
      · rw [name, Option.elim_some]
        constructor
        · intro same other entry found near
          rw [← Option.some.inj found, unique entry closest near nearest]
          exact same
        · intro same
          exact same last closest rfl nearest
  refine ⟨exactly, fun few => exactly.trans ?_⟩
  have few' : names.length < 2 ^ 32 := by
    rw [← centers.length_eq, List.length_map]
    exact few
  have distinct : (order.map Prod.fst).Nodup := centers.nodup_iff.mpr zoned.distinct
  constructor
  · intro same last covers
    rcases lastCovering_spec order x z with ⟨none, -⟩ | ⟨_, found, member, inside⟩
    · rw [none] at covers
      cases covers
    · obtain rfl : _ = last := Option.some.inj (found.symm.trans covers)
      rcases searched with ⟨bare, -⟩ | ⟨closest, nearest, -, -⟩
      · exact absurd inside (bare _ member)
      · have name := same _ closest covers nearest
        have own := (zoned.zoneName few' (named member)).symm.trans name
        rw [List.inj_on_of_nodup_map distinct member nearest.member own]
        exact nearest
  · intro same last nearest covers near
    rw [unique nearest last near (same last covers)]
    exact zoned.zoneName few' (named (same last covers).member)

theorem hamlets_nearest {entry : String × LocationMeta ℝ} (nearest : Nearest hamlets 7 0 entry) :
    entry = ("B", ⟨lit 10, 0, .place, 0, 0⟩) := by
  have either : entry = ("A", ⟨0, 0, .place, 0, 0⟩) ∨ entry = ("B", ⟨lit 10, 0, .place, 0, 0⟩) := by
    simpa [hamlets] using nearest.member
  rcases either with rfl | rfl
  · have least := nearest.least ("B", ⟨lit 10, 0, .place, 0, 0⟩) (by simp [hamlets])
    unfold squares at least
    norm_num at least
  · rfl

-- A tile under both discs that is nearest to the location baked last.
theorem baking_keeps_name_iff_hamlets :
    let grid := (registered hamlets).inOrder hamlets
    (grid.bakeRegionMap 20 20).getLocationNameAt ((7 : Int) : ℝ) ((0 : Int) : ℝ) =
      grid.getLocationNameAt ((7 : Int) : ℝ) ((0 : Int) : ℝ) := by
  intro grid
  have keeps := (baking_keeps_name_iff hamlets hamlets (.refl _) 20 20 7 0 (by decide) (by decide)
    fun a b first second => (hamlets_nearest first).trans (hamlets_nearest second).symm).2
      (by simp [hamlets])
  refine keeps.mpr fun last covering => ?_
  have covered : covers 7 0 (⟨lit 10, 0, .place, 0, 0⟩ : LocationMeta ℝ) = true := by
    rw [covers_iff, inDisc_iff]
    norm_num
  have among := List.mem_of_mem_filter (List.mem_of_getLast? covering)
  have final : last = ("B", ⟨lit 10, 0, .place, 0, 0⟩) := by
    unfold lastCovering hamlets at covering
    rw [List.filter_cons, List.filter_cons, if_pos covered] at covering
    split at covering <;> exact (Option.some.inj covering).symm
  refine ⟨among, fun other member => ?_⟩
  have either : other = ("A", ⟨0, 0, .place, 0, 0⟩) ∨ other = ("B", ⟨lit 10, 0, .place, 0, 0⟩) := by
    simpa [hamlets] using member
  rw [final]
  rcases either with rfl | rfl
  · unfold squares
    norm_num
  · exact le_rfl

-- A tile that is closest to the first of them goes to the second one.
theorem baking_renames :
    (registered hamlets).locationCenters = hamlets ∧
      Nearest hamlets 3 0 ("A", ⟨0, 0, .place, 0, 0⟩) ∧
      ¬Nearest hamlets 3 0 ("B", ⟨lit 10, 0, .place, 0, 0⟩) ∧
      (registered hamlets).getLocationNameAt ((3 : Int) : ℝ) ((0 : Int) : ℝ) = "A" ∧
      ((registered hamlets).bakeRegionMap 10 10).getLocationNameAt ((3 : Int) : ℝ) ((0 : Int) : ℝ) =
        "B" := by
  have centers := hamlets_centers
  have first : Nearest hamlets 3 0 ("A", ⟨0, 0, .place, 0, 0⟩) := by
    refine ⟨by simp [hamlets], ?_⟩
    unfold hamlets squares
    norm_num
  have second : ¬Nearest hamlets 3 0 ("B", ⟨lit 10, 0, .place, 0, 0⟩) := by
    intro nearest
    have least := nearest.least ("A", ⟨0, 0, .place, 0, 0⟩) (by simp [hamlets])
    unfold squares at least
    norm_num at least
  refine ⟨centers, first, second, ?_, ?_⟩
  · rcases searched_name _ (registered_unbaked hamlets) 3 0 with ⟨bare, -⟩ | ⟨closest, nearest, -, name⟩
    · have inside : InDisc 3 0 (⟨0, 0, .place, 0, 0⟩ : LocationMeta ℝ) := by
        rw [inDisc_iff]
        norm_num
      exact absurd inside (bare ("A", _) (centers ▸ first.member))
    · rw [name]
      rw [centers] at nearest
      have either : closest = ("A", ⟨0, 0, .place, 0, 0⟩) ∨ closest = ("B", ⟨lit 10, 0, .place, 0, 0⟩) := by
        simpa [hamlets] using nearest.member
      rcases either with rfl | rfl
      · rfl
      · exact absurd nearest second
  · have zoned := registered_zoned_distinct hamlets (by simp [hamlets])
    have covering : lastCovering hamlets 3 0 = some ("B", ⟨lit 10, 0, .place, 0, 0⟩) := by
      have covered : covers 3 0 (⟨lit 10, 0, .place, 0, 0⟩ : LocationMeta ℝ) = true := by
        rw [covers_iff, inDisc_iff]
        norm_num
      unfold lastCovering hamlets
      rw [List.filter_cons, List.filter_cons, if_pos covered]
      split <;> rfl
    have name := baked_name zoned hamlets (.refl _)
      (by decide : (0 : Int) ≤ 3 ∧ (3 : Int) < 10) (by decide : (0 : Int) ≤ 0 ∧ (0 : Int) < 10)
    rw [covering, Option.elim_some, zoned.zoneName (by simp [hamlets]) (by simp [hamlets])] at name
    exact name

end LocationRegistry

end MundusVivens
