import MundusVivens.Walking.Routes
import MundusVivens.Shared.Lines

set_option autoImplicit false

/-!
# Lines of sight

The loop of `IsPathBlocked` walks a digital line from tile to tile and ends at its last one. It
does not look beside the line, where the path search does.
-/

namespace MundusVivens.GridMap

open Scalar

variable {F : Type} {map : GridMap F} {a b : Tile} {k : Nat}

-- `sx` and `sy` of the loop.
def toward (source target : Int) : Int := if source < target then 1 else -1

def spanX (a b : Tile) : Nat := (b.1 - a.1).natAbs

def spanZ (a b : Tile) : Nat := (b.2 - a.2).natAbs

def sightSteps (a b : Tile) : Nat := max (spanX a b) (spanZ a b)

def sightTile (a b : Tile) (k : Nat) : Tile :=
  let p := Lines.point (spanX a b) (spanZ a b) k
  (a.1 + toward a.1 b.1 * p.1, a.2 + toward a.2 b.2 * p.2)

def sightLine (a b : Tile) : List Tile := (List.range (sightSteps a b + 1)).map (sightTile a b)

theorem toward_span (source target : Int) :
    source + toward source target * (target - source).natAbs = target := by
  unfold toward
  split <;> omega

theorem toward_unit (source target : Int) :
    toward source target = 1 ∨ toward source target = -1 := by
  unfold toward
  split
  next => exact .inl rfl
  next => exact .inr rfl

theorem sightTile_flat (flat : spanZ a b ≤ spanX a b) : sightTile a b k =
    (a.1 + toward a.1 b.1 * k, a.2 + toward a.2 b.2 * Lines.offset (spanZ a b) (spanX a b) k) := by
  unfold sightTile Lines.point
  rw [if_pos flat]

theorem sightTile_steep (steep : spanX a b < spanZ a b) : sightTile a b k =
    (a.1 + toward a.1 b.1 * Lines.offset (spanX a b) (spanZ a b) k, a.2 + toward a.2 b.2 * k) := by
  unfold sightTile Lines.point
  rw [if_neg (not_le.mpr steep)]

theorem sightTile_zero (a b : Tile) : sightTile a b 0 = a := by
  simp [sightTile, Lines.point_zero]

theorem sightTile_end (a b : Tile) : sightTile a b (sightSteps a b) = b := by
  unfold sightTile sightSteps
  rw [Lines.point_end]
  exact Prod.ext (toward_span ..) (toward_span ..)

theorem sightTile_ne_end (within : k < sightSteps a b) : sightTile a b k ≠ b := by
  intro same
  have apart {source target : Int} {p : Nat}
      (same : source + toward source target * p = target) : p = (target - source).natAbs := by
    rcases toward_unit source target with unit | unit <;> rw [unit] at same <;> omega
  have alongX := apart (congrArg Prod.fst same)
  have alongZ := apart (congrArg Prod.snd same)
  unfold sightSteps at within
  unfold Lines.point at alongX alongZ
  split at alongX <;> split at alongZ <;> dsimp only at alongX alongZ <;> unfold spanX spanZ at * <;>
    omega

theorem sightTile_succ (within : k < sightSteps a b) :
    let err := Lines.error (spanX a b) (spanZ a b) (Lines.point (spanX a b) (spanZ a b) k)
    sightTile a b (k + 1) =
      ((sightTile a b k).1 + (if -(spanZ a b : Int) < 2 * err then toward a.1 b.1 else 0),
        (sightTile a b k).2 + (if 2 * err < (spanX a b : Int) then toward a.2 b.2 else 0)) := by
  intro err
  unfold sightTile
  rw [Lines.point_succ within]
  ext
  · dsimp only
    split <;> simp [mul_add, add_assoc]
  · dsimp only
    split <;> simp [mul_add, add_assoc]

-- The tiles the loop of `IsPathBlocked` tests.
def lineTested (map : GridMap F) (ix2 iz2 dx dy sx sy : Int) : Nat → Int → Int → Int → List Tile
  | 0, _, _, _ => []
  | fuel + 1, cx, cz, err =>
      if !map.isWalkable cx cz then [(cx, cz)]
      else if cx = ix2 ∧ cz = iz2 then [(cx, cz)]
      else
        let e2 := 2 * err
        let (err, cx') := if -dy < e2 then (err - dy, cx + sx) else (err, cx)
        let (err, cz') := if e2 < dx then (err + dx, cz + sy) else (err, cz)
        (cx, cz) :: lineTested map ix2 iz2 dx dy sx sy fuel cx' cz' err

def pathTested [Scalar F] (map : GridMap F) (x1 z1 x2 z2 : F) : List Tile :=
  let ix1 := tileX x1
  let iz1 := tileZ z1
  let ix2 := tileX x2
  let iz2 := tileZ z2
  let dx := |ix2 - ix1|
  let dy := |iz2 - iz1|
  let sx := if ix1 < ix2 then 1 else -1
  let sy := if iz1 < iz2 then 1 else -1
  lineTested map ix2 iz2 dx dy sx sy ((max dx dy).toNat + 1) ix1 iz1 (dx - dy)

theorem lineBlocked_turn (map : GridMap F) (ix2 iz2 dx dy sx sy : Int) (fuel : Nat) (cx cz err : Int)
    (walkable : map.isWalkable cx cz = true) (apart : (cx, cz) ≠ (ix2, iz2)) :
    let cx' := cx + if -dy < 2 * err then sx else 0
    let cz' := cz + if 2 * err < dx then sy else 0
    let err' := err - (if -dy < 2 * err then dy else 0) + if 2 * err < dx then dx else 0
    map.lineBlocked ix2 iz2 dx dy sx sy (fuel + 1) cx cz err =
        map.lineBlocked ix2 iz2 dx dy sx sy fuel cx' cz' err' ∧
      map.lineTested ix2 iz2 dx dy sx sy (fuel + 1) cx cz err =
        (cx, cz) :: map.lineTested ix2 iz2 dx dy sx sy fuel cx' cz' err' := by
  have away : ¬(cx = ix2 ∧ cz = iz2) := fun same => apart (Prod.ext same.1 same.2)
  rw [lineBlocked, lineTested, walkable]
  dsimp only
  rw [if_neg away, if_neg away]
  by_cases alongX : -dy < 2 * err <;> by_cases alongZ : 2 * err < dx <;>
    simp [alongX, alongZ]

theorem line_loop (map : GridMap F) (a b : Tile) (fuel k : Nat)
    (room : k + fuel = sightSteps a b) :
    let err := Lines.error (spanX a b) (spanZ a b) (Lines.point (spanX a b) (spanZ a b) k)
    let rest := (List.range' k (fuel + 1)).map (sightTile a b)
    map.lineBlocked b.1 b.2 (spanX a b) (spanZ a b) (toward a.1 b.1) (toward a.2 b.2) (fuel + 1)
        (sightTile a b k).1 (sightTile a b k).2 err =
      some (rest.any fun t => !map.isWalkable t.1 t.2) ∧
    ((∀ t ∈ rest, map.isWalkable t.1 t.2 = true) →
      map.lineTested b.1 b.2 (spanX a b) (spanZ a b) (toward a.1 b.1) (toward a.2 b.2) (fuel + 1)
        (sightTile a b k).1 (sightTile a b k).2 err = rest) := by
  induction fuel generalizing k with
  | zero =>
      obtain rfl : k = sightSteps a b := room
      have only : (List.range' (sightSteps a b) (0 + 1)).map (sightTile a b) = [b] := by
        simp [sightTile_end]
      dsimp only
      rw [only, sightTile_end, lineBlocked, lineTested]
      cases free : map.isWalkable b.1 b.2 <;> simp [free]
  | succ fuel ih =>
      dsimp only
      rw [List.range'_succ, List.map_cons, List.any_cons]
      cases walkable : map.isWalkable (sightTile a b k).1 (sightTile a b k).2 with
      | false =>
          rw [lineBlocked, lineTested, walkable]
          refine ⟨rfl, fun free => ?_⟩
          cases walkable.symm.trans (free _ List.mem_cons_self)
      | true =>
          have within : k < sightSteps a b := by omega
          obtain ⟨blocked, tested⟩ := map.lineBlocked_turn b.1 b.2 (spanX a b) (spanZ a b)
            (toward a.1 b.1) (toward a.2 b.2) (fuel + 1) (sightTile a b k).1 (sightTile a b k).2
            (Lines.error (spanX a b) (spanZ a b) (Lines.point (spanX a b) (spanZ a b) k)) walkable
            (sightTile_ne_end within)
          obtain ⟨later, rest⟩ := ih (k + 1) (by omega)
          rw [sightTile_succ within, Lines.error_succ within] at later rest
          refine ⟨blocked.trans later, fun free => ?_⟩
          rw [tested, rest fun t member => free t (List.mem_cons_of_mem _ member)]

section

variable [Scalar F]

theorem isPathBlocked_line (map : GridMap F) (x1 z1 x2 z2 : F) :
    let line := sightLine (tileX x1, tileZ z1) (tileX x2, tileZ z2)
    map.isPathBlocked x1 z1 x2 z2 = some (line.any fun t => !map.isWalkable t.1 t.2) ∧
      (map.isPathBlocked x1 z1 x2 z2 = some false → map.pathTested x1 z1 x2 z2 = line) := by
  let a : Tile := (tileX x1, tileZ z1)
  let b : Tile := (tileX x2, tileZ z2)
  obtain ⟨blocked, tested⟩ := line_loop map a b (sightSteps a b) 0 (Nat.zero_add _)
  rw [Lines.point_zero, sightTile_zero, ← List.range_eq_range'] at blocked tested
  have dx : |tileX x2 - tileX x1| = (spanX a b : Int) := Int.abs_eq_natAbs _
  have dy : |tileZ z2 - tileZ z1| = (spanZ a b : Int) := Int.abs_eq_natAbs _
  have steps : (max (spanX a b : Int) (spanZ a b)).toNat = sightSteps a b := by
    unfold sightSteps
    omega
  have err : Lines.error (spanX a b) (spanZ a b) (0, 0) = (spanX a b : Int) - spanZ a b := by
    simp [Lines.error]
  have result : map.isPathBlocked x1 z1 x2 z2 =
      some ((sightLine a b).any fun t => !map.isWalkable t.1 t.2) := by
    unfold isPathBlocked
    dsimp only
    rw [dx, dy, steps, ← err]
    exact blocked
  refine ⟨result, fun clear => ?_⟩
  have free : ∀ t ∈ sightLine a b, map.isWalkable t.1 t.2 = true := by
    have none := Option.some.inj (result.symm.trans clear)
    intro t member
    simpa using List.any_eq_false.mp none t member
  unfold pathTested
  dsimp only
  rw [dx, dy, steps, ← err]
  exact tested free

end

/-- A tile for each step of the longer axis, and on the shorter one within half a tile of the
straight line. -/
structure DigitalLine (a b : Tile) (tiles : List Tile) : Prop where
  length : tiles.length = max (b.1 - a.1).natAbs (b.2 - a.2).natAbs + 1
  starts : tiles.head? = some a
  ends : tiles.getLast? = some b
  box : ∀ t ∈ tiles, (min a.1 b.1 ≤ t.1 ∧ t.1 ≤ max a.1 b.1) ∧ min a.2 b.2 ≤ t.2 ∧ t.2 ≤ max a.2 b.2
  flat : |b.2 - a.2| ≤ |b.1 - a.1| → ∀ (k : Nat) (t : Tile), tiles[k]? = some t →
    t.1 = a.1 + toward a.1 b.1 * k ∧
      |(t.2 : ℚ) - (a.2 + k * ((b.2 - a.2 : Int) / |b.1 - a.1| : ℚ))| ≤ 1 / 2
  steep : |b.1 - a.1| < |b.2 - a.2| → ∀ (k : Nat) (t : Tile), tiles[k]? = some t →
    t.2 = a.2 + toward a.2 b.2 * k ∧
      |(t.1 : ℚ) - (a.1 + k * ((b.1 - a.1 : Int) / |b.2 - a.2| : ℚ))| ≤ 1 / 2

theorem toward_within_half (source target : Int) (n k : Nat) (within : k ≤ n) :
    |((source + toward source target * (Lines.offset (target - source).natAbs n k : Nat) : Int) : ℚ) -
      (source + k * ((target - source : Int) / (n : ℚ)))| ≤ 1 / 2 := by
  have ends := toward_span source target
  generalize (target - source).natAbs = p at ends ⊢
  have half := Lines.offset_within_half p n k within
  have span : target - source = toward source target * p := by linarith
  have factor : ((source + toward source target * (Lines.offset p n k : Nat) : Int) : ℚ) -
      (source + k * ((target - source : Int) / (n : ℚ))) =
        toward source target * ((Lines.offset p n k : ℚ) - k * p / n) := by
    rw [span]
    push_cast
    ring
  rw [factor, abs_mul]
  rcases toward_unit source target with unit | unit <;> rw [unit] <;> simpa using half

theorem toward_between (source target : Int) (p : Nat) (within : p ≤ (target - source).natAbs) :
    min source target ≤ source + toward source target * p ∧
      source + toward source target * p ≤ max source target := by
  unfold toward
  split <;> omega

theorem sightLine_digital (a b : Tile) : DigitalLine a b (sightLine a b) := by
  have found {k : Nat} {t : Tile} (at_k : (sightLine a b)[k]? = some t) :
      k ≤ sightSteps a b ∧ t = sightTile a b k := by
    obtain ⟨inside, rfl⟩ := List.getElem?_eq_some_iff.mp at_k
    exact ⟨by simpa [sightLine, Nat.lt_succ_iff] using inside, by simp [sightLine]⟩
  have widthX : |b.1 - a.1| = (spanX a b : Int) := Int.abs_eq_natAbs _
  have widthZ : |b.2 - a.2| = (spanZ a b : Int) := Int.abs_eq_natAbs _
  refine ⟨?_, ?_, ?_, fun t member => ?_, fun flat k t at_k => ?_, fun steep k t at_k => ?_⟩
  · unfold sightLine
    rw [List.length_map, List.length_range]
    rfl
  · unfold sightLine
    rw [List.range_succ_eq_map, List.map_cons, sightTile_zero]
    rfl
  · unfold sightLine
    rw [List.range_succ, List.map_append, List.map_singleton, sightTile_end]
    simp
  · obtain ⟨k, among, rfl⟩ := List.mem_map.mp member
    have within : k ≤ max (spanX a b) (spanZ a b) := Nat.lt_succ_iff.mp (List.mem_range.mp among)
    obtain ⟨nearX, nearZ⟩ := Lines.point_le within
    exact ⟨toward_between _ _ _ nearX, toward_between _ _ _ nearZ⟩
  · obtain ⟨within, rfl⟩ := found at_k
    rw [widthX, widthZ, Int.ofNat_le] at flat
    rw [sightSteps, max_eq_left flat] at within
    rw [sightTile_flat flat, widthX, Int.cast_natCast]
    exact ⟨rfl, toward_within_half _ _ _ k within⟩
  · obtain ⟨within, rfl⟩ := found at_k
    rw [widthX, widthZ, Int.ofNat_lt] at steep
    rw [sightSteps, max_eq_right steep.le] at within
    rw [sightTile_steep steep, widthZ, Int.cast_natCast]
    exact ⟨rfl, toward_within_half _ _ _ k within⟩

/-- For any two points the loop ends. What blocks the sight is a tile of the digital line between
the tiles of the points, and all of its tiles are tested when nothing does. -/
theorem sight_tests_digital_line [Scalar F] (map : GridMap F) (x1 z1 x2 z2 : F) :
    ∃ line, DigitalLine (tileX x1, tileZ z1) (tileX x2, tileZ z2) line ∧
      (∃ blocked, map.isPathBlocked x1 z1 x2 z2 = some blocked ∧
        (blocked = true ↔ ∃ t ∈ line, map.isWalkable t.1 t.2 = false)) ∧
      (map.isPathBlocked x1 z1 x2 z2 = some false → map.pathTested x1 z1 x2 z2 = line) := by
  obtain ⟨result, tested⟩ := map.isPathBlocked_line x1 z1 x2 z2
  refine ⟨_, sightLine_digital _ _, ⟨_, result, ?_⟩, tested⟩
  rw [List.any_eq_true]
  simp only [Bool.not_eq_true']

/-- Beside every step of the line along both axes both tiles are walkable. -/
def CornersFree (map : GridMap F) (a b : Tile) : Prop :=
  ∀ k < sightSteps a b, (sightTile a b (k + 1)).1 ≠ (sightTile a b k).1 →
    (sightTile a b (k + 1)).2 ≠ (sightTile a b k).2 →
      map.isWalkable (sightTile a b (k + 1)).1 (sightTile a b k).2 = true ∧
        map.isWalkable (sightTile a b k).1 (sightTile a b (k + 1)).2 = true

theorem sightTile_neighbours (within : k < sightSteps a b) :
    sightTile a b k ≠ sightTile a b (k + 1) ∧
      |(sightTile a b (k + 1)).1 - (sightTile a b k).1| ≤ 1 ∧
      |(sightTile a b (k + 1)).2 - (sightTile a b k).2| ≤ 1 := by
  refine ⟨fun same => ?_, ?_⟩
  · have alongX := congrArg Prod.fst same
    have alongZ := congrArg Prod.snd same
    unfold sightTile Lines.point at alongX alongZ
    rcases toward_unit a.1 b.1 with unitX | unitX <;> rcases toward_unit a.2 b.2 with unitZ | unitZ <;>
      rw [unitX] at alongX <;> rw [unitZ] at alongZ <;> split at alongX <;> split at alongZ <;>
        dsimp only at alongX alongZ <;> omega
  · rw [sightTile_succ within]
    dsimp only
    rcases toward_unit a.1 b.1 with unitX | unitX <;> rcases toward_unit a.2 b.2 with unitZ | unitZ <;>
      rw [unitX, unitZ] <;> constructor <;> split <;> simp

/-- The tiles tested on a clear line are moves of the path search exactly if no corner is cut, or
the line is not clear. -/
theorem seen_line_is_legal_iff [Scalar F] (map : GridMap F) (x1 z1 x2 z2 : F) :
    let a : Tile := (tileX x1, tileZ z1)
    let b : Tile := (tileX x2, tileZ z2)
    (map.isPathBlocked x1 z1 x2 z2 = some false →
        (map.pathTested x1 z1 x2 z2).IsChain map.Move) ↔
      (∃ k ≤ sightSteps a b, map.isWalkable (sightTile a b k).1 (sightTile a b k).2 = false) ∨
        map.CornersFree a b := by
  intro a b
  obtain ⟨result, tested⟩ := map.isPathBlocked_line x1 z1 x2 z2
  have chain_iff : (sightLine a b).IsChain map.Move ↔
      ∀ k < sightSteps a b, map.Move (sightTile a b k) (sightTile a b (k + 1)) := by
    unfold sightLine
    rw [List.isChain_map, List.isChain_range_succ]
  constructor
  · intro legal
    by_cases wall : ∃ k ≤ sightSteps a b,
        map.isWalkable (sightTile a b k).1 (sightTile a b k).2 = false
    next => exact .inl wall
    next =>
      have clear : map.isPathBlocked x1 z1 x2 z2 = some false := by
        rw [result, Option.some.injEq, List.any_eq_false]
        intro t member
        obtain ⟨k, among, rfl⟩ := List.mem_map.mp member
        have free := not_and.mp (not_exists.mp wall k) (Nat.lt_succ_iff.mp (List.mem_range.mp among))
        simpa using free
      have moves := legal clear
      rw [tested clear] at moves
      exact .inr fun k within => (chain_iff.mp moves k within).corner
  · rintro (⟨k, within, wall⟩ | free) clear
    · have none := List.any_eq_false.mp (Option.some.inj (result.symm.trans clear)) (sightTile a b k)
        (List.mem_map.mpr ⟨k, List.mem_range.mpr (Nat.lt_succ_iff.mpr within), rfl⟩)
      simp [wall] at none
    · rw [tested clear]
      refine chain_iff.mpr fun k within => ?_
      obtain ⟨apart, neighbours⟩ := sightTile_neighbours within
      have none := List.any_eq_false.mp (Option.some.inj (result.symm.trans clear))
        (sightTile a b (k + 1)) (List.mem_map.mpr ⟨k + 1, List.mem_range.mpr (Nat.succ_lt_succ within), rfl⟩)
      exact ⟨apart, neighbours, by simpa using none, free k within⟩

-- Two blocked tiles that touch at a corner.
def gap : GridMap ℚ := loadMap [] (some [⟨1, 0, 1, 0⟩, ⟨0, 1, 0, 1⟩])

theorem sight_cuts_corner : gap.isPathBlocked 0 0 1 1 = some false ∧
    ¬(gap.pathTested 0 0 1 1).IsChain gap.Move := by
  have clear : gap.isPathBlocked 0 0 1 1 = some false := by decide +kernel
  have line : gap.pathTested 0 0 1 1 = [(0, 0), (1, 1)] := by decide +kernel
  have wall : gap.isWalkable 1 0 = false := by decide +kernel
  refine ⟨clear, fun chain => ?_⟩
  rw [line, List.isChain_pair] at chain
  have beside := (chain.corner (by decide) (by decide)).1
  rw [wall] at beside
  cases beside

end MundusVivens.GridMap
