import MundusVivens.Shared.Scalar

set_option autoImplicit false

namespace Scalar

@[simp] theorem lit_real (q : ℚ) : (lit q : ℝ) = q := rfl

@[simp] theorem lt_real (x y : ℝ) : lt x y = true ↔ x < y := by
  simp [lt]

@[simp] theorem le_real (x y : ℝ) : le x y = true ↔ x ≤ y := by
  simp [le]

theorem round_lit_real (q : ℚ) : (Scalar.round (q : ℝ) : Int) = Rat.roundAway q := by
  have half : (1 / 2 : ℝ) = ((1 / 2 : ℚ) : ℝ) := by norm_num
  unfold Scalar.round instScalarReal Rat.roundAway
  dsimp only
  rw [half]
  by_cases negative : q < 0
  · rw [if_pos negative, if_pos (by exact_mod_cast negative)]
    norm_cast
  · rw [if_neg negative, if_neg (by exact_mod_cast negative)]
    norm_cast

theorem round_real_mono : Monotone (Scalar.round : ℝ → Int) := by
  intro x y le
  unfold Scalar.round instScalarReal
  dsimp only
  split
  next negative =>
    split
    next => exact neg_le_neg (Int.floor_mono (by linarith))
    next positive =>
      have low : 0 ≤ ⌊-x + 1 / 2⌋ := Int.floor_nonneg.mpr (by linarith)
      have high : 0 ≤ ⌊y + 1 / 2⌋ := Int.floor_nonneg.mpr (by linarith)
      linarith
  next positive =>
    rw [if_neg (by linarith)]
    exact Int.floor_mono (by linarith)

theorem round_real_near {n : Int} {x : ℝ} (near : |x - n| < 1 / 2) : Scalar.round x = n := by
  obtain ⟨above, below⟩ := abs_lt.mp near
  unfold Scalar.round instScalarReal
  dsimp only
  split
  next =>
    have floor : ⌊-x + 1 / 2⌋ = -n := by
      rw [Int.floor_eq_iff]
      push_cast
      constructor <;> linarith
    rw [floor, neg_neg]
  next =>
    rw [Int.floor_eq_iff]
    constructor <;> linarith

theorem hypot_real (dx dz : ℝ) : hypot dx dz = Real.sqrt (dx * dx + dz * dz) := rfl

theorem hypot_lt_real (dx dz r : ℝ) (positive : 0 < r) :
    hypot dx dz < r ↔ dx * dx + dz * dz < r * r := by
  rw [hypot_real, Real.sqrt_lt' positive, pow_two]

theorem unit_real (x z : ℝ) (positive : 0 < hypot x z) :
    x / hypot x z * (x / hypot x z) + z / hypot x z * (z / hypot x z) = 1 := by
  have square : hypot x z * hypot x z = x * x + z * z :=
    Real.mul_self_sqrt (by nlinarith [mul_self_nonneg x, mul_self_nonneg z])
  field_simp
  rw [pow_two (hypot x z), square]
  ring

-- Literals, sums, quotients and comparisons are those of the values.
structure Valued {F : Type} [Scalar F] (value : F → ℝ) : Prop where
  lit : ∀ q : ℚ, value (Scalar.lit q) = q
  add : ∀ x y, value (x + y) = value x + value y
  sub : ∀ x y, value (x - y) = value x - value y
  div : ∀ x y, value (x / y) = value x / value y
  lt : ∀ x y, Scalar.lt x y = true ↔ value x < value y
  le : ∀ x y, Scalar.le x y = true ↔ value x ≤ value y

def Exact (F : Type) [Scalar F] : Prop := ∃ value : F → ℝ, Valued value

theorem exact_real : Exact ℝ :=
  ⟨id, ⟨lit_real, fun _ _ => rfl, fun _ _ => rfl, fun _ _ => rfl, lt_real, le_real⟩⟩

theorem exact_rat : Exact ℚ := by
  refine ⟨fun q => q, ⟨fun _ => rfl, Rat.cast_add, Rat.cast_sub, Rat.cast_div, fun x y => ?_,
    fun x y => ?_⟩⟩
  · simp [Scalar.lt]
  · simp [Scalar.le]

end Scalar
