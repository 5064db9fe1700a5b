import Mathlib.Data.List.Perm.Basic
import Mathlib.Data.List.Nodup

set_option autoImplicit false

/-!
# Custody

Memory blocks that are passed from hand to hand and freed by whoever holds them last.
-/

namespace Custody

-- Blocks are numbered in the order of their allocation.
structure Blocks where
  allocated : Nat
  freed : List Nat

namespace Blocks

def initial : Blocks := ⟨0, []⟩

def allocate (blocks : Blocks) : Blocks := { blocks with allocated := blocks.allocated + 1 }

def free (blocks : Blocks) (released : List Nat) : Blocks :=
  { blocks with freed := blocks.freed ++ released }

/-- Every block is held once or was freed once. -/
def Accounted (blocks : Blocks) (held : List Nat) : Prop :=
  (blocks.freed ++ held).Perm (List.range blocks.allocated)

variable {blocks : Blocks} {held : List Nat}

theorem initial_accounted : initial.Accounted [] := List.Perm.refl _

namespace Accounted

theorem pass (accounted : blocks.Accounted held) {held' : List Nat} (passed : held.Perm held') :
    blocks.Accounted held' :=
  (passed.symm.append_left blocks.freed).trans accounted

theorem allocate (accounted : blocks.Accounted held) :
    blocks.allocate.Accounted (held ++ [blocks.allocated]) := by
  rw [Accounted, Blocks.allocate, List.range_succ, ← List.append_assoc]
  exact accounted.append_right _

theorem free {released : List Nat} (accounted : blocks.Accounted (released ++ held)) :
    (blocks.free released).Accounted held := by
  rwa [Accounted, Blocks.free, List.append_assoc]

theorem nodup (accounted : blocks.Accounted held) : (blocks.freed ++ held).Nodup :=
  accounted.nodup_iff.mpr List.nodup_range

theorem freed_once (accounted : blocks.Accounted held) : blocks.freed.Nodup :=
  (List.nodup_append.mp accounted.nodup).1

theorem held_once (accounted : blocks.Accounted held) : held.Nodup :=
  (List.nodup_append.mp accounted.nodup).2.1

theorem live (accounted : blocks.Accounted held) {block : Nat} (member : block ∈ held) :
    block ∉ blocks.freed := by
  intro freed
  exact (List.nodup_append.mp accounted.nodup).2.2 block freed block member rfl

theorem settled (accounted : blocks.Accounted []) :
    blocks.freed.Perm (List.range blocks.allocated) := by
  simpa [Accounted] using accounted

end Accounted

end Blocks

end Custody
