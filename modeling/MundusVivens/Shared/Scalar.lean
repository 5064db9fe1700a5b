import Mathlib.Algebra.Order.Round
import Mathlib.Analysis.SpecialFunctions.Trigonometric.Basic
import Mathlib.Data.Rat.Sqrt
import Mathlib.Analysis.Real.Sqrt

set_option autoImplicit false

/-!
# Scalars

Coordinates, needs and probabilities are computed over a `Scalar`. The class has
no laws, so whatever is proved for every scalar also holds for binary32
arithmetic. The reals give exact arithmetic, and the rationals can be evaluated.
-/

class Scalar (F : Type) extends Add F, Sub F, Neg F, Mul F, Div F where
  -- The value of a decimal literal.
  lit : ℚ → F
  sqrt : F → F
  cos : F → F
  sin : F → F
  floor : F → Int
  ceil : F → Int
  -- `static_cast<int>(std::round(x))`.
  round : F → Int
  -- `static_cast<int>(x)`.
  trunc : F → Int
  lt : F → F → Bool
  le : F → F → Bool
  eq : F → F → Bool

namespace Scalar

variable {F : Type} [Scalar F]

def zero : F := lit 0

def ofInt (n : Int) : F := lit (n : ℚ)

def abs (x : F) : F := if lt x zero then -x else x

-- `std::clamp`.
def clamp (x low high : F) : F := if lt x low then low else if lt high x then high else x

def sq (x : F) : F := x * x

-- `std::sqrt(dx * dx + dz * dz)`.
def hypot (dx dz : F) : F := sqrt (dx * dx + dz * dz)

end Scalar

-- Halves away from zero.
def Rat.roundAway (q : ℚ) : Int := if q < 0 then -⌊-q + 1 / 2⌋ else ⌊q + 1 / 2⌋

def Rat.truncate (q : ℚ) : Int := if q < 0 then ⌈q⌉ else ⌊q⌋

-- `cos` and `sin` are the first terms of their series; the root is exact on squares.
instance : Scalar ℚ where
  lit q := q
  sqrt := Rat.sqrt
  cos x := 1 - x ^ 2 / 2
  sin x := x - x ^ 3 / 6
  floor q := ⌊q⌋
  ceil q := ⌈q⌉
  round := Rat.roundAway
  trunc := Rat.truncate
  lt a b := decide (a < b)
  le a b := decide (a ≤ b)
  eq a b := decide (a = b)

open Classical in
noncomputable instance : Scalar ℝ where
  lit q := q
  sqrt := Real.sqrt
  cos := Real.cos
  sin := Real.sin
  floor x := ⌊x⌋
  ceil x := ⌈x⌉
  round x := if x < 0 then -⌊-x + 1 / 2⌋ else ⌊x + 1 / 2⌋
  trunc x := if x < 0 then ⌈x⌉ else ⌊x⌋
  lt a b := decide (a < b)
  le a b := decide (a ≤ b)
  eq a b := decide (a = b)
