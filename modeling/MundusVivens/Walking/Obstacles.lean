import MundusVivens.Walking.Routes

set_option autoImplicit false

/-!
# Obstacles

Each corner of an obstacle is clamped to the map by itself. What only reaches over a border is cut
off there, but what lies beyond a border is moved onto it.
-/

namespace MundusVivens

namespace Obstacle

variable {obstacle : Obstacle} {x z : Int}

end Obstacle

namespace GridMap

variable {F : Type} [Scalar F]

end GridMap

end MundusVivens
