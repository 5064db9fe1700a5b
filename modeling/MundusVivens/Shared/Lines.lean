import Mathlib.Algebra.Order.Ring.Int
import Mathlib.Algebra.Order.Field.Rat
import Mathlib.Tactic.Linarith
import Mathlib.Tactic.Ring
import Mathlib.Tactic.FieldSimp

set_option autoImplicit false

/-!
# Digital lines

The line from the origin to `(dx, dy)` on a grid, one point for each step of the longer axis. The
error term of the incremental algorithm tells which coordinates change in the next step.
-/

namespace Lines

-- The rounded offset on the shorter axis of a line of `n` by `m` after `k` steps; halves are
-- rounded down.
def offset (m n k : Nat) : Nat := (2 * k * m + n - 1) / (2 * n)

-- The nearest offset is the only one in a half-open interval around the ideal line.
theorem offset_eq_iff {m n k j : Nat} (long : 0 < n) :
    offset m n k = j ↔ 2 * (k * m) ≤ 2 * (n * j) + n ∧ 2 * (n * j) < 2 * (k * m) + n := by
  unfold offset
  rw [Nat.div_eq_iff (by omega)]
  have double : j * (2 * n) = 2 * (n * j) := by ring
  have product : 2 * k * m = 2 * (k * m) := by ring
  rw [double, product]
  omega

theorem offset_near {m n k : Nat} (long : 0 < n) :
    2 * (k * m) ≤ 2 * (n * offset m n k) + n ∧ 2 * (n * offset m n k) < 2 * (k * m) + n :=
  (offset_eq_iff long).mp rfl

theorem offset_zero (m n : Nat) : offset m n 0 = 0 := by
  unfold offset
  rcases Nat.eq_zero_or_pos n with rfl | long
  · simp
  · exact Nat.div_eq_of_lt (by omega)

theorem offset_all {m n : Nat} (long : 0 < n) : offset m n n = m := by
  rw [offset_eq_iff long]
  omega

theorem offset_mono {m n k l : Nat} (le : k ≤ l) : offset m n k ≤ offset m n l := by
  unfold offset
  have product : 2 * k * m ≤ 2 * l * m := Nat.mul_le_mul_right m (by omega)
  exact Nat.div_le_div_right (by omega)

-- A step of the longer axis moves the shorter one by a unit exactly when the point before it is far
-- enough behind the ideal line.
theorem offset_succ {m n k : Nat} (steep : m ≤ n) (long : 0 < n) : offset m n (k + 1) =
    offset m n k + if 2 * (n * offset m n k) + n < 2 * ((k + 1) * m) then 1 else 0 := by
  obtain ⟨low, high⟩ := offset_near (m := m) (k := k) long
  rw [offset_eq_iff long]
  have next : (k + 1) * m = k * m + m := by ring
  split
  next behind =>
    have product : n * (offset m n k + 1) = n * offset m n k + n := by ring
    rw [product]
    omega
  next =>
    rw [Nat.add_zero (offset m n k)]
    omega

def point (dx dy k : Nat) : Nat × Nat :=
  if dy ≤ dx then (k, offset dy dx k) else (offset dx dy k, k)

-- The error term of the incremental algorithm.
def error (dx dy : Nat) (p : Nat × Nat) : Int := dx - dy - p.1 * dy + p.2 * dx

theorem point_zero (dx dy : Nat) : point dx dy 0 = (0, 0) := by
  unfold point
  split <;> rw [offset_zero]

theorem point_end (dx dy : Nat) : point dx dy (max dx dy) = (dx, dy) := by
  unfold point
  split
  next flat =>
    rw [max_eq_left flat]
    rcases Nat.eq_zero_or_pos dx with rfl | long
    · rw [offset_zero, Nat.le_zero.mp flat]
    · rw [offset_all long]
  next steep =>
    rw [max_eq_right (by omega), offset_all (by omega)]

theorem point_le {dx dy k : Nat} (within : k ≤ max dx dy) :
    (point dx dy k).1 ≤ dx ∧ (point dx dy k).2 ≤ dy := by
  have ends := point_end dx dy
  have grows : (point dx dy k).1 ≤ (point dx dy (max dx dy)).1 ∧
      (point dx dy k).2 ≤ (point dx dy (max dx dy)).2 := by
    unfold point
    split
    · exact ⟨within, offset_mono within⟩
    · exact ⟨offset_mono within, within⟩
  rw [ends] at grows
  exact grows

theorem point_succ {dx dy k : Nat} (within : k < max dx dy) : point dx dy (k + 1) =
    ((point dx dy k).1 + (if -(dy : Int) < 2 * error dx dy (point dx dy k) then 1 else 0),
      (point dx dy k).2 + (if 2 * error dx dy (point dx dy k) < (dx : Int) then 1 else 0)) := by
  unfold point error
  split
  next flat =>
    have long : 0 < dx := by omega
    obtain ⟨low, high⟩ := offset_near (m := dy) (k := k) long
    have behind : 2 * (dx * offset dy dx k) + dx < 2 * ((k + 1) * dy) ↔
        2 * ((dx : Int) - dy - k * dy + offset dy dx k * dx) < dx := by
      zify
      constructor <;> intro less <;> linarith
    have along : -(dy : Int) < 2 * ((dx : Int) - dy - k * dy + offset dy dx k * dx) := by
      rcases Nat.lt_or_eq_of_le flat with less | rfl
      · zify at low less
        linarith
      · -- On a diagonal the offset is the number of steps.
        have same : offset dy dy k = k := by
          rw [offset_eq_iff long, Nat.mul_comm dy k]
          omega
        rw [same]
        linarith [(Int.natCast_pos.mpr long : (0 : Int) < dy)]
    dsimp only
    rw [offset_succ flat long, if_pos along]
    simp only [behind]
  next steep =>
    have long : 0 < dy := by omega
    obtain ⟨low, high⟩ := offset_near (m := dx) (k := k) long
    have behind : 2 * (dy * offset dx dy k) + dy < 2 * ((k + 1) * dx) ↔
        -(dy : Int) < 2 * ((dx : Int) - dy - offset dx dy k * dy + k * dx) := by
      zify
      constructor <;> intro less <;> linarith
    have along : 2 * ((dx : Int) - dy - offset dx dy k * dy + k * dx) < dx := by
      have less : dx < dy := by omega
      zify at high less
      linarith
    dsimp only
    rw [offset_succ (by omega) long, if_pos along]
    simp only [behind]

theorem error_step (dx dy : Nat) (p : Nat × Nat) (i j : Nat) :
    error dx dy (p.1 + i, p.2 + j) = error dx dy p - i * dy + j * dx := by
  unfold error
  push_cast
  ring

theorem error_succ {dx dy k : Nat} (within : k < max dx dy) :
    let err := error dx dy (point dx dy k)
    error dx dy (point dx dy (k + 1)) =
      err - (if -(dy : Int) < 2 * err then (dy : Int) else 0) +
        if 2 * err < (dx : Int) then (dx : Int) else 0 := by
  intro err
  rw [point_succ within, error_step]
  by_cases alongX : -(dy : Int) < 2 * err <;> by_cases alongZ : 2 * err < (dx : Int) <;>
    simp [alongX, alongZ, err]

theorem offset_within_half (m n k : Nat) (within : k ≤ n) :
    |(offset m n k : ℚ) - k * m / n| ≤ 1 / 2 := by
  rcases Nat.eq_zero_or_pos n with rfl | long
  · obtain rfl := Nat.le_zero.mp within
    rw [offset_zero]
    norm_num
  · obtain ⟨low, high⟩ := offset_near (m := m) (k := k) long
    have long' : (0 : ℚ) < n := by exact_mod_cast long
    have low' : 2 * ((k : ℚ) * m) ≤ 2 * (n * offset m n k) + n := by exact_mod_cast low
    have high' : 2 * ((n : ℚ) * offset m n k) < 2 * (k * m) + n := by exact_mod_cast high
    have clear : ((offset m n k : ℚ) - k * m / n) * n = n * offset m n k - k * m := by
      field_simp
    rw [abs_le]
    constructor
    · by_contra less
      have scaled := mul_lt_mul_of_pos_right (not_le.mp less) long'
      linarith
    · by_contra more
      have scaled := mul_lt_mul_of_pos_right (not_le.mp more) long'
      linarith

end Lines
