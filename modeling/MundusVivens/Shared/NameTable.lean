import Mathlib.Data.List.Nodup
import Mathlib.Logic.Function.Basic

set_option autoImplicit false

/-!
# Tables that number names

A name is given the length of the row list as its number, cut to `width`
values, and its row is pushed in the same step. A log of the pushes says what
every number was meant to denote.
-/

namespace MundusVivens

variable {N R : Type} [DecidableEq N]

structure NameTable (N R : Type) where
  idOf : N → Option Nat
  rows : List R

namespace NameTable

def push (width : Nat) (table : NameTable N R) (name : N) (row : R) : NameTable N R :=
  { idOf := Function.update table.idOf name (some (table.rows.length % width))
    rows := table.rows ++ [row] }

def register (width : Nat) (table : NameTable N R) (name : N) (row : R) : NameTable N R :=
  match table.idOf name with
  | some _ => table
  | none => table.push width name row

def record (log : List (N × R)) (name : N) (row : R) : List (N × R) :=
  if name ∈ log.map Prod.fst then log else log ++ [(name, row)]

theorem record_known (log : List (N × R)) (name : N) (row : R) (present : name ∈ log.map Prod.fst) :
    record log name row = log :=
  if_pos present

theorem mem_record (log : List (N × R)) (name other : N) (row : R) :
    other ∈ (record log name row).map Prod.fst ↔ other ∈ log.map Prod.fst ∨ other = name := by
  by_cases present : name ∈ log.map Prod.fst
  · rw [record, if_pos present]
    constructor
    · exact .inl
    · rintro (old | rfl)
      · exact old
      · exact present
  · rw [record, if_neg present]
    simp

structure Represents (width : Nat) (table : NameTable N R) (log : List (N × R)) : Prop where
  nodup : (log.map Prod.fst).Nodup
  rows : table.rows = log.map Prod.snd
  known : ∀ index name row, log[index]? = some (name, row) → table.idOf name = some (index % width)
  unknown : ∀ name, name ∉ log.map Prod.fst → table.idOf name = none

/-- Every number denotes one name and indexes the row pushed for it. -/
structure Faithful (table : NameTable N R) (log : List (N × R)) : Prop where
  distinct : ∀ first second id, table.idOf first = some id → table.idOf second = some id →
    first = second
  ownRow : ∀ name id, table.idOf name = some id →
    ∃ row, (name, row) ∈ log ∧ table.rows[id]? = some row

omit [DecidableEq N] in
theorem represents_empty (width : Nat) :
    Represents width (⟨fun _ => none, []⟩ : NameTable N R) [] := by
  constructor <;> simp

theorem push_represents (width : Nat) (table : NameTable N R) (log : List (N × R))
    (represents : Represents width table log) (name : N) (row : R)
    (fresh : name ∉ log.map Prod.fst) :
    Represents width (table.push width name row) (log ++ [(name, row)]) := by
  have size : table.rows.length = log.length := by rw [represents.rows, List.length_map]
  refine ⟨?_, ?_, ?_, ?_⟩
  · rw [List.map_append, List.nodup_append]
    refine ⟨represents.nodup, List.nodup_singleton _, ?_⟩
    intro old member new last
    simp only [List.map_cons, List.map_nil, List.mem_singleton] at last
    rintro rfl
    exact fresh (last ▸ member)
  · simp [push, represents.rows]
  · intro index other otherRow entry
    by_cases last : index = log.length
    · subst last
      simp only [List.getElem?_concat_length, Option.some.injEq, Prod.mk.injEq] at entry
      obtain ⟨rfl, rfl⟩ := entry
      simp [push, size]
    · have inside : index < log.length := by
        obtain ⟨bound, -⟩ := List.getElem?_eq_some_iff.mp entry
        simp only [List.length_append, List.length_singleton] at bound
        omega
      rw [List.getElem?_append_left inside] at entry
      have different : other ≠ name := by
        rintro rfl
        exact fresh (List.mem_map.mpr ⟨_, List.mem_of_getElem? entry, rfl⟩)
      simpa [push, Function.update_of_ne different] using represents.known index other otherRow entry
  · intro other absent
    simp only [List.map_append, List.map_cons, List.map_nil, List.mem_append, List.mem_singleton,
      not_or] at absent
    simpa [push, Function.update_of_ne absent.2] using represents.unknown other absent.1

theorem register_represents (width : Nat) (table : NameTable N R) (log : List (N × R))
    (represents : Represents width table log) (name : N) (row : R) :
    Represents width (table.register width name row) (record log name row) := by
  by_cases present : name ∈ log.map Prod.fst
  · obtain ⟨⟨_, oldRow⟩, member, rfl⟩ := List.mem_map.mp present
    obtain ⟨index, entry⟩ := List.getElem?_of_mem member
    simpa [register, record, present, represents.known index _ oldRow entry] using represents
  · simpa [register, record, present, represents.unknown name present] using
      push_represents width table log represents name row present

omit [DecidableEq N] in
theorem represents_entry (width : Nat) (table : NameTable N R) (log : List (N × R))
    (represents : Represents width table log) (name : N) (id : Nat)
    (known : table.idOf name = some id) :
    ∃ index row, log[index]? = some (name, row) ∧ id = index % width := by
  by_cases present : name ∈ log.map Prod.fst
  · obtain ⟨⟨_, row⟩, member, rfl⟩ := List.mem_map.mp present
    obtain ⟨index, entry⟩ := List.getElem?_of_mem member
    have numbered := represents.known index _ row entry
    exact ⟨index, row, entry, Option.some.inj (known.symm.trans numbered)⟩
  · exact absurd (known.symm.trans (represents.unknown name present)) (by simp)

omit [DecidableEq N] in
-- The name pushed at `width` is the first to share a number, with the name pushed at 0.
theorem faithful_iff (width : Nat) (positive : 0 < width) (table : NameTable N R)
    (log : List (N × R)) (represents : Represents width table log) :
    table.Faithful log ↔ log.length ≤ width := by
  constructor
  · intro faithful
    by_contra long
    have late : width < log.length := by omega
    have early : 0 < log.length := by omega
    have first := represents.known 0 log[0].1 log[0].2 (List.getElem?_eq_getElem early)
    have second := represents.known width log[width].1 log[width].2 (List.getElem?_eq_getElem late)
    rw [Nat.zero_mod] at first
    rw [Nat.mod_self] at second
    have same := faithful.distinct _ _ 0 first second
    have injective := List.nodup_iff_injective_getElem.mp represents.nodup
    have position := @injective ⟨0, by simpa using early⟩ ⟨width, by simpa using late⟩
      (by simpa using same)
    have zero : 0 = width := congrArg Fin.val position
    omega
  · intro short
    have inside (index : Nat) (name : N) (row : R) (entry : log[index]? = some (name, row)) :
        index % width = index := by
      obtain ⟨bound, -⟩ := List.getElem?_eq_some_iff.mp entry
      exact Nat.mod_eq_of_lt (by omega)
    constructor
    · intro first second id firstKnown secondKnown
      obtain ⟨i, firstRow, firstEntry, rfl⟩ := represents_entry width table log represents _ _ firstKnown
      obtain ⟨j, secondRow, secondEntry, same⟩ := represents_entry width table log represents _ _ secondKnown
      rw [inside i _ _ firstEntry, inside j _ _ secondEntry] at same
      subst same
      exact congrArg Prod.fst (Option.some.inj (firstEntry.symm.trans secondEntry))
    · intro name id known
      obtain ⟨index, row, entry, rfl⟩ := represents_entry width table log represents _ _ known
      refine ⟨row, List.mem_of_getElem? entry, ?_⟩
      rw [inside index _ _ entry, represents.rows, List.getElem?_map, entry]
      rfl

end NameTable

end MundusVivens
