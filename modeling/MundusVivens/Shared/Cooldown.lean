import Mathlib.Data.List.Basic

set_option autoImplicit false

/-!
# Cooldowns

A log of turns, newest first, each with what it hit or without a hit. A counter that
covers the log makes the hits regular: it starts at the period with a hit, loses at most
one in a turn without, and is used up before the next hit.
-/

namespace Cooldown

variable {Hit : Type}

def misses (log : List (Option Hit)) : Nat := log.countP (·.isNone)

-- Between any two hits at least so many turns miss.
def Spaced (period : Nat) (log : List (Option Hit)) : Prop :=
  ∀ later between earlier hit hit', log = later ++ some hit :: between ++ some hit' :: earlier →
    period ≤ misses between

-- The counter and the misses since any hit make up the period.
def Covers (period : Nat) (log : List (Option Hit)) (left : Int) : Prop :=
  ∀ between earlier hit, log = between ++ some hit :: earlier → (period : Int) ≤ left + misses between

variable {period : Nat} {log : List (Option Hit)} {left left' : Int} {hit : Hit}

theorem Spaced.nil : Spaced period ([] : List (Option Hit)) := by
  rintro later between earlier hit hit' split
  simp at split

theorem Covers.nil : Covers period ([] : List (Option Hit)) left := by
  rintro between earlier hit split
  simp at split

theorem Spaced.cons_miss (spaced : Spaced period log) : Spaced period (none :: log) := by
  rintro (_ | ⟨turn, later⟩) between earlier hit hit' split
  · simp at split
  · obtain ⟨rfl, rfl⟩ := List.cons.inj split
    exact spaced later between earlier hit hit' rfl

theorem Covers.cons_miss (covers : Covers period log left) (loses : left ≤ left' + 1) :
    Covers period (none :: log) left' := by
  rintro (_ | ⟨turn, between⟩) earlier hit split
  · simp at split
  · obtain ⟨rfl, rfl⟩ := List.cons.inj split
    have before := covers between earlier hit rfl
    have counted : misses (none :: between) = misses between + 1 := by simp [misses]
    omega

theorem Spaced.cons_hit (spaced : Spaced period log) (covers : Covers period log left)
    (ready : left ≤ 0) : Spaced period (some hit :: log) := by
  rintro (_ | ⟨turn, later⟩) between earlier newer older split
  · obtain ⟨-, rfl⟩ := List.cons.inj split
    have waited := covers between earlier older rfl
    omega
  · obtain ⟨rfl, rfl⟩ := List.cons.inj split
    exact spaced later between earlier newer older rfl

theorem Covers.cons_hit (log : List (Option Hit)) (restarts : (period : Int) ≤ left) :
    Covers period (some hit :: log) left := by
  rintro between earlier older -
  omega

end Cooldown
