import MundusVivens.World.RegionMap

set_option autoImplicit false

/-!
# Zone ids

Four calls reach the zone table, and movement is one of them. Whatever their order, the table grows
at its end only.
-/

namespace MundusVivens

open Scalar

namespace LocationRegistry

-- An order in which a map of the source may be walked.
structure Walk (A : Type) where
  order : List A → List A
  perm : ∀ items, (order items).Perm items

inductive ZoneCall (F : Type) where
  | getOrCreateZoneId (name : String)
  | registerLocation (name : String) (location : LocationMeta F)
  | bakeRegionMap (walk : Walk (String × LocationMeta F)) (size : MapSize)
  | updateEntityPosition (e : Entity) (x z : F) (loc : Option (LocationComp F))

section

variable {F : Type} [Scalar F]

def ZoneCall.run (grid : LocationRegistry F) : ZoneCall F → LocationRegistry F
  | .getOrCreateZoneId name => (grid.getOrCreateZoneId name).1
  | .registerLocation name location => grid.registerLocation name location
  | .bakeRegionMap walk size =>
      (grid.inOrder (walk.order grid.locationCenters)).bakeRegionMap size.width size.height
  | .updateEntityPosition e x z loc => (grid.updateEntityPosition e x z loc).1

variable {grid : LocationRegistry F} {names : List String} {name : String}

theorem extend_begins (names : List String) (name : String) : names <+: extend names name := by
  unfold extend
  split
  next => exact List.prefix_refl names
  next => exact List.prefix_append names [name]

namespace Numbered

omit [Scalar F] in
theorem registered (numbered : grid.Numbered names) (location : LocationMeta F) :
    (grid.registerLocation name location).Numbered (extend names name) := by
  have grown := numbered.getOrCreate name
  unfold registerLocation
  dsimp only
  rw [getOrCreate_centers]
  refine grown.of_same rfl rfl rfl fun entry among => ?_
  rcases List.mem_append.mp among with old | new
  · exact (extend_begins names name).subset (numbered.named entry (List.mem_of_mem_filter old))
  · rw [List.mem_singleton.mp new]
    unfold extend
    split
    next member => exact member
    next => simp

theorem baked (numbered : grid.Numbered names) (width height : Int)
    (order : List (String × LocationMeta F)) (named : ∀ entry ∈ order, entry.1 ∈ names) :
    (order.foldl (bakeLocation width height) grid).Numbered names := by
  induction order generalizing grid with
  | nil => exact numbered
  | cons entry rest ih =>
      refine ih ?_ fun other among => named other (List.mem_cons_of_mem _ among)
      unfold bakeLocation
      dsimp only
      rw [numbered.getOrCreate_known (named entry List.mem_cons_self)]
      exact numbered.of_same rfl rfl rfl numbered.named

theorem moved (numbered : grid.Numbered names) (e : Entity) (x z : F) :
    (grid.moveToCell e x z).Numbered names := by
  unfold moveToCell
  dsimp only
  repeat' split
  all_goals exact numbered.of_same rfl rfl rfl numbered.named

theorem run (numbered : grid.Numbered names) (call : ZoneCall F) :
    (call.run grid).Numbered names ∨ ∃ name, (call.run grid).Numbered (extend names name) := by
  cases call with
  | getOrCreateZoneId name => exact .inr ⟨name, numbered.getOrCreate name⟩
  | registerLocation name location => exact .inr ⟨name, numbered.registered location⟩
  | bakeRegionMap walk size =>
      have named (entry : String × LocationMeta F) (among : entry ∈ walk.order grid.locationCenters) :
          entry.1 ∈ names := numbered.named entry ((walk.perm _).mem_iff.mp among)
      refine .inl (baked ?_ size.width size.height (walk.order grid.locationCenters) named)
      exact numbered.of_same rfl rfl rfl named
  | updateEntityPosition e x z loc =>
      cases loc with
      | none => exact .inl (numbered.moved e x z)
      | some loc =>
          exact .inr ⟨_, (numbered.moved e x z).getOrCreate ((grid.moveToCell e x z).getLocationNameAt x z)⟩

theorem runs (numbered : grid.Numbered names) (calls : List (ZoneCall F)) :
    ∃ names', (calls.foldl ZoneCall.run grid).Numbered names' ∧ names <+: names' := by
  induction calls generalizing grid names with
  | nil => exact ⟨names, numbered, List.prefix_refl names⟩
  | cons call rest ih =>
      rcases numbered.run call with same | ⟨name, grown⟩
      · exact ih same
      · obtain ⟨names', later, longer⟩ := ih grown
        exact ⟨names', later, (extend_begins names name).trans longer⟩

omit [Scalar F] in
theorem mem_of_zone (numbered : grid.Numbered names) {zone : UInt32}
    (known : grid.nameToZone name = some zone) : name ∈ names := by
  by_contra absent
  rw [numbered.unknown name absent] at known
  cases known

omit [Scalar F] in
theorem number_of_zone (numbered : grid.Numbered names) {zone : UInt32}
    (known : grid.nameToZone name = some zone) :
    ∃ k, names[k]? = some name ∧ zone = UInt32.ofNat (k + 1) := by
  obtain ⟨k, at_k, numbered⟩ := numbered.zone_of_mem (numbered.mem_of_zone known)
  exact ⟨k, at_k, Option.some.inj (known.symm.trans numbered)⟩

omit [Scalar F] in
theorem keeps {grid' : LocationRegistry F} {names' : List String} (numbered : grid.Numbered names)
    (later : grid'.Numbered names') (longer : names <+: names') {zone : UInt32}
    (known : grid.nameToZone name = some zone) : grid'.nameToZone name = some zone := by
  obtain ⟨k, at_k, rfl⟩ := numbered.number_of_zone known
  obtain ⟨added, rfl⟩ := longer
  have inside : k < names.length := (List.getElem?_eq_some_iff.mp at_k).1
  exact later.known k name ((List.getElem?_append_left inside).trans at_k)

omit [Scalar F] in
theorem injective (numbered : grid.Numbered names) (few : names.length < 2 ^ 32) {other : String}
    {zone : UInt32} (known : grid.nameToZone name = some zone)
    (known' : grid.nameToZone other = some zone) : name = other := by
  obtain ⟨j, at_j, rfl⟩ := numbered.number_of_zone known
  obtain ⟨k, at_k, same⟩ := numbered.number_of_zone known'
  have low : j < names.length := (List.getElem?_eq_some_iff.mp at_j).1
  have high : k < names.length := (List.getElem?_eq_some_iff.mp at_k).1
  have number := congrArg UInt32.toNat same
  rw [UInt32.toNat_ofNat', UInt32.toNat_ofNat', Nat.mod_eq_of_lt (by omega),
    Nat.mod_eq_of_lt (by omega)] at number
  obtain rfl : j = k := by omega
  exact Option.some.inj (at_j.symm.trans at_k)

omit [Scalar F] in
theorem entries (numbered : grid.Numbered names) (given : names ≠ []) :
    grid.zoneToName.length = names.length + 1 ∧
      grid.nextZoneId = UInt32.ofNat grid.zoneToName.length := by
  have size : grid.zoneToName.length = names.length + 1 := by
    rw [numbered.table, if_neg given, List.length_cons]
  exact ⟨size, size ▸ numbered.next⟩

end Numbered

omit [Scalar F] in
theorem Numbered.length_le (numbered : grid.Numbered names) (all : Finset String)
    (known : ∀ name zone, grid.nameToZone name = some zone → name ∈ all) :
    names.length ≤ all.card := by
  rw [← List.toFinset_card_of_nodup numbered.distinct]
  refine Finset.card_le_card fun name among => ?_
  obtain ⟨k, -, zone⟩ := numbered.zone_of_mem (List.mem_toFinset.mp among)
  exact known name _ zone

end

end LocationRegistry

end MundusVivens
