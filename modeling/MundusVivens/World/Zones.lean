import Mathlib.Data.List.Perm.Basic
import Mathlib.Data.List.Nodup
import MundusVivens.World.LocationRegistry

set_option autoImplicit false

namespace MundusVivens

open Scalar

namespace LocationRegistry

variable {F : Type} {grid : LocationRegistry F} {names : List String}

def registered (registrations : List (String × LocationMeta F)) : LocationRegistry F :=
  registrations.foldl (fun grid location => grid.registerLocation location.1 location.2) empty

def extend (names : List String) (name : String) : List String :=
  if name ∈ names then names else names ++ [name]

-- The names have their zones in this order, and the centres are named by some of them.
structure Numbered (grid : LocationRegistry F) (names : List String) : Prop where
  table : grid.zoneToName = if names = [] then [] else "Wilderness" :: names
  known : ∀ k name, names[k]? = some name → grid.nameToZone name = some (UInt32.ofNat (k + 1))
  unknown : ∀ name, name ∉ names → grid.nameToZone name = none
  next : grid.nextZoneId = UInt32.ofNat (names.length + 1)
  distinct : names.Nodup
  named : ∀ entry ∈ grid.locationCenters, entry.1 ∈ names

theorem empty_numbered : (empty : LocationRegistry F).Numbered [] := by
  refine ⟨rfl, fun k name at_k => ?_, fun _ _ => rfl, rfl, List.nodup_nil, fun _ among => ?_⟩
  · simp at at_k
  · cases among

namespace Numbered

variable {grid' : LocationRegistry F} {name : String}

theorem of_same (numbered : grid.Numbered names) (table : grid'.zoneToName = grid.zoneToName)
    (zones : grid'.nameToZone = grid.nameToZone) (next : grid'.nextZoneId = grid.nextZoneId)
    (named : ∀ entry ∈ grid'.locationCenters, entry.1 ∈ names) : grid'.Numbered names :=
  ⟨table.trans numbered.table, by rw [zones]; exact numbered.known,
    by rw [zones]; exact numbered.unknown, next.trans numbered.next, numbered.distinct, named⟩

theorem filled (numbered : grid.Numbered names) (member : name ∈ names) :
    grid.zoneToName.isEmpty = false := by
  rw [numbered.table, if_neg (List.ne_nil_of_mem member)]
  rfl

theorem zone_of_mem (numbered : grid.Numbered names) (member : name ∈ names) :
    ∃ k, names[k]? = some name ∧ grid.nameToZone name = some (UInt32.ofNat (k + 1)) := by
  obtain ⟨k, at_k⟩ := List.mem_iff_getElem?.mp member
  exact ⟨k, at_k, numbered.known k name at_k⟩

theorem getOrCreate_known (numbered : grid.Numbered names) (member : name ∈ names) :
    grid.getOrCreateZoneId name = (grid, (grid.nameToZone name).getD 0) := by
  obtain ⟨k, -, zone⟩ := numbered.zone_of_mem member
  unfold getOrCreateZoneId
  rw [numbered.filled member, zone]
  rfl

theorem getOrCreate_new (numbered : grid.Numbered names) (absent : name ∉ names) :
    (grid.getOrCreateZoneId name).1.Numbered (names ++ [name]) := by
  unfold getOrCreateZoneId
  dsimp only
  rw [numbered.unknown name absent]
  refine ⟨?_, fun k other at_k => ?_, fun other missing => ?_, ?_, ?_, fun entry among => ?_⟩
  · dsimp only
    rw [numbered.table]
    by_cases none : names = [] <;> simp [none]
  · dsimp only
    by_cases before : k < names.length
    next =>
      rw [List.getElem?_append_left before] at at_k
      have apart : other ≠ name := fun same => absent (same ▸ List.mem_of_getElem? at_k)
      rw [Function.update_of_ne apart]
      exact numbered.known k other at_k
    next =>
      rw [List.getElem?_append_right (by omega)] at at_k
      obtain ⟨inside, rfl⟩ := List.getElem?_eq_some_iff.mp at_k
      have last : k = names.length := by
        simp only [List.length_singleton] at inside
        omega
      subst last
      simp [numbered.next]
  · dsimp only
    have apart : other ≠ name := fun same => missing (by simp [same])
    rw [Function.update_of_ne apart]
    exact numbered.unknown other fun among => missing (by simp [among])
  · dsimp only
    rw [numbered.next, List.length_append, List.length_singleton, UInt32.ofNat_add (names.length + 1)]
    rfl
  · exact List.nodup_append.mpr ⟨numbered.distinct, List.nodup_singleton _,
      fun other among last here same => absent (by
        rw [List.mem_singleton.mp here] at same
        exact same ▸ among)⟩
  · exact List.mem_append_left _ (numbered.named entry among)

theorem getOrCreate (numbered : grid.Numbered names) (name : String) :
    (grid.getOrCreateZoneId name).1.Numbered (extend names name) := by
  unfold extend
  split
  next member =>
    rw [numbered.getOrCreate_known member]
    exact numbered
  next absent => exact numbered.getOrCreate_new absent

-- With fewer than 2 ^ 32 names every zone leads back to the name it was given to.
theorem roundtrip (numbered : grid.Numbered names) (few : names.length < 2 ^ 32)
    (member : name ∈ names) : ∃ zone, grid.nameToZone name = some zone ∧ zone ≠ 0 ∧
      grid.zoneToName[zone.toNat]? = some name := by
  obtain ⟨k, at_k, zone⟩ := numbered.zone_of_mem member
  have inside : k < names.length := (List.getElem?_eq_some_iff.mp at_k).1
  have value : (UInt32.ofNat (k + 1)).toNat = k + 1 := by
    rw [UInt32.toNat_ofNat']
    exact Nat.mod_eq_of_lt (by omega)
  refine ⟨_, zone, fun zero => ?_, ?_⟩
  · rw [zero] at value
    cases value
  · rw [value, numbered.table, if_neg (List.ne_nil_of_mem member)]
    simpa using at_k

end Numbered

-- The names have their zones in this order, and each of them has one centre.
structure Zoned (grid : LocationRegistry F) (names : List String) : Prop where
  table : grid.zoneToName = if names = [] then [] else "Wilderness" :: names
  known : ∀ k name, names[k]? = some name → grid.nameToZone name = some (UInt32.ofNat (k + 1))
  unknown : ∀ name, name ∉ names → grid.nameToZone name = none
  next : grid.nextZoneId = UInt32.ofNat (names.length + 1)
  distinct : names.Nodup
  centers : (grid.locationCenters.map Prod.fst).Perm names

theorem Zoned.numbered (zoned : grid.Zoned names) : grid.Numbered names :=
  ⟨zoned.table, zoned.known, zoned.unknown, zoned.next, zoned.distinct, fun _ among =>
    zoned.centers.mem_iff.mp (List.mem_map_of_mem among)⟩

theorem empty_zoned : (empty : LocationRegistry F).Zoned [] :=
  ⟨rfl, empty_numbered.known, fun _ _ => rfl, rfl, List.nodup_nil, .refl _⟩

theorem centers_perm {centers : List (String × LocationMeta F)} (perm : (centers.map Prod.fst).Perm names)
    (distinct : names.Nodup) (name : String) (location : LocationMeta F) :
    ((centers.filter (fun entry => entry.1 ≠ name) ++ [(name, location)]).map Prod.fst).Perm
      (if name ∈ names then names else names ++ [name]) := by
  have others : (centers.filter (fun entry => entry.1 ≠ name)).map Prod.fst =
      (centers.map Prod.fst).filter (· ≠ name) := by
    rw [List.filter_map]
    rfl
  rw [List.map_append, others, List.map_singleton]
  have kept := (perm.filter (· ≠ name)).append_right [name]
  refine kept.trans ?_
  split
  next member =>
    rw [List.perm_ext_iff_of_nodup _ distinct]
    · intro other
      by_cases same : other = name <;> simp [same, member]
    · refine List.nodup_append.mpr ⟨distinct.filter _, List.nodup_singleton _, ?_⟩
      intro other among last here same
      rw [List.mem_singleton.mp here] at same
      simp [same] at among
  next absent =>
    rw [List.filter_eq_self.mpr fun other among => by
      simpa using fun same : other = name => absent (same ▸ among)]

theorem getOrCreate_centers (centers : List (String × LocationMeta F)) (name : String) :
    ({ grid with locationCenters := centers }.getOrCreateZoneId name).1 =
      { (grid.getOrCreateZoneId name).1 with locationCenters := centers } := by
  unfold getOrCreateZoneId
  dsimp only
  split <;> rfl

theorem Zoned.registered (zoned : grid.Zoned names) (name : String) (location : LocationMeta F) :
    (grid.registerLocation name location).Zoned
      (if name ∈ names then names else names ++ [name]) := by
  have centers := centers_perm zoned.centers zoned.distinct name location
  have numbered := zoned.numbered.getOrCreate name
  unfold registerLocation
  dsimp only
  rw [getOrCreate_centers]
  exact ⟨numbered.table, numbered.known, numbered.unknown, numbered.next, numbered.distinct, centers⟩

theorem registered_zoned (registrations : List (String × LocationMeta F)) :
    ∃ names, (registered registrations).Zoned names := by
  have all (rest : List (String × LocationMeta F)) (grid : LocationRegistry F) (names : List String)
      (zoned : grid.Zoned names) : ∃ names', (rest.foldl
        (fun grid location => grid.registerLocation location.1 location.2) grid).Zoned names' := by
    induction rest generalizing grid names with
    | nil => exact ⟨names, zoned⟩
    | cons first rest ih => exact ih _ _ (zoned.registered first.1 first.2)
  exact all registrations empty [] empty_zoned

theorem registered_zoned_distinct (registrations : List (String × LocationMeta F))
    (distinct : (registrations.map Prod.fst).Nodup) :
    (registered registrations).Zoned (registrations.map Prod.fst) := by
  have all (rest : List (String × LocationMeta F)) (grid : LocationRegistry F) (names : List String)
      (zoned : grid.Zoned names) (distinct : (names ++ rest.map Prod.fst).Nodup) : (rest.foldl
        (fun grid location => grid.registerLocation location.1 location.2) grid).Zoned
          (names ++ rest.map Prod.fst) := by
    induction rest generalizing grid names with
    | nil =>
        rw [List.map_nil, List.append_nil]
        exact zoned
    | cons first rest ih =>
        have absent : first.1 ∉ names := fun member =>
          (List.nodup_append.mp distinct).2.2 _ member first.1 (by simp) rfl
        have next := zoned.registered first.1 first.2
        rw [if_neg absent] at next
        have same : names ++ (first :: rest).map Prod.fst =
            (names ++ [first.1]) ++ rest.map Prod.fst := by simp
        rw [same] at distinct ⊢
        exact ih _ _ next distinct
  exact all registrations empty [] empty_zoned distinct

theorem mem_registrations (registrations : List (String × LocationMeta F))
    {entry : String × LocationMeta F} (member : entry ∈ (registered registrations).locationCenters) :
    entry ∈ registrations := by
  have centers (grid : LocationRegistry F) (name : String) (location : LocationMeta F) :
      (grid.registerLocation name location).locationCenters =
        grid.locationCenters.filter (fun entry => entry.1 ≠ name) ++ [(name, location)] := by
    unfold registerLocation getOrCreateZoneId
    dsimp only
    split <;> rfl
  have all (rest : List (String × LocationMeta F)) (grid : LocationRegistry F)
      (member : entry ∈ (rest.foldl (fun grid location =>
        grid.registerLocation location.1 location.2) grid).locationCenters) :
      entry ∈ grid.locationCenters ∨ entry ∈ rest := by
    induction rest generalizing grid with
    | nil => exact .inl member
    | cons first rest ih =>
        rcases ih _ member with before | later
        · rw [centers, List.mem_append, List.mem_singleton] at before
          rcases before with old | rfl
          · exact .inl (List.mem_of_mem_filter old)
          · exact .inr List.mem_cons_self
        · exact .inr (List.mem_cons_of_mem _ later)
  exact (all registrations empty member).resolve_left fun none => by cases none

end LocationRegistry

end MundusVivens
