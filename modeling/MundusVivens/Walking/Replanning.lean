import MundusVivens.Walking.Frontier
import MundusVivens.Walking.SharedScratch

set_option autoImplicit false

/-!
# Replanning

A partial path ends at the nearest tile that its search expanded. A chain of searches, each from
the end of the path before, therefore comes to an end.
-/

namespace MundusVivens.GridMap

open Scalar

variable {F : Type} [Scalar F] {map m : GridMap F}

def tileOf (v : GridVector2 F) : Tile := (tileX v.x, tileZ v.z)

structure Planned (F : Type) where
  call : ThreadCall F
  result : PathResult F

/-- The next search for the same goal, when the NPC used up a partial path and stands in the tile
of its last waypoint. The map may have seen other searches since. -/
def replan (next : ThreadCall F) (planned : Planned F) : Option (Planned F) :=
  if planned.result.isPartial = true ∧ next.query.goal = planned.call.query.goal ∧
      planned.result.waypoints.getLast?.map tileOf = some next.query.start then
    (next.query.answer next.map).map fun answered => ⟨next, answered.1⟩
  else none

-- The queue is one of those allowed, and the arrays are those of a thread.
structure FairCall (call : ThreadCall F) : Prop where
  heap : IsHeap call.query.top
  arrays : ∃ past, Runs.Run threadCall freshScratch past call.map.scratch

theorem FairCall.clean (unset : le (lit 1000000000 : F) (lit 1000000000) = true)
    {call : ThreadCall F} (fair : FairCall call) : Clean call.map.scratch := by
  obtain ⟨past, history⟩ := fair.arrays
  exact thread_clean unset history

-- The middle of a tile is in the tile.
def CentredTiles (F : Type) [Scalar F] : Prop := ∀ t, OnMap t → tileOf (waypoint t : GridVector2 F) = t

theorem partial_path_ends_nearer (arith : ExactTiles F) (costs : PathCosts F)
    (query : PathQuery F) (heap : IsHeap query.top) (clean : Clean map.scratch)
    (result : PathResult F) (answered : query.answer map = some (result, m))
    (capped : result.isPartial = true) : ∃ t, OnMap t ∧
      result.waypoints.getLast? = some (waypoint t) ∧
      lt (distance query.goal t : F) (distance query.goal query.start) = true := by
  cases map.findPath_finds _ _ _ _ _ _ result answered with
  | here => cases capped
  | unwalkable => cases capped
  | hit => cases capped
  | stuck => cases capped
  | traced _ _ _ ended search looped moved waypoints path =>
      obtain rfl : ended = .hitCap := of_decide_eq_true capped
      obtain ⟨tiles, traced, -, -, ends⟩ :=
        query.loop_traces arith costs heap clean .hitCap search looped
      obtain rfl := Option.some.inj (traced.symm.trans path)
      obtain ⟨-, onMap, -⟩ := query.loop_scored arith costs heap clean .hitCap search looped
      refine ⟨_, onMap, by rw [List.getLast?_map, ends]; rfl, ?_⟩
      obtain ⟨s, -, frontier, outcome⟩ := query.loop_frontier arith costs heap clean
      have same : search = s := by
        rcases outcome with ⟨curr, rest, -, -, found⟩ | stopped | ⟨-, empty⟩
        · cases (Prod.mk.inj (looped.symm.trans found)).1
        · exact (Prod.mk.inj (looped.symm.trans stopped)).2
        · cases (Prod.mk.inj (looped.symm.trans empty)).1
      obtain rfl := same
      -- The best tile is either the start, where no path is traced from, or nearer than it.
      obtain ⟨estimate, home | nearer⟩ := frontier.best
      · exact absurd home moved
      · rw [estimate] at nearer
        exact nearer

-- The tiles the searches of a chain began in, the last one first.
def begun (past : List (Runs.Transition (Planned F) (ThreadCall F))) (last : Planned F) : List Tile :=
  last.call.query.start :: past.map (·.before.call.query.start)

/-- The searches so far: the present one returned its result, and each began nearer to the goal. -/
structure Approaches (past : List (Runs.Transition (Planned F) (ThreadCall F)))
    (planned : Planned F) : Prop where
  fair : FairCall planned.call
  answered : ∃ next, planned.call.query.answer planned.call.map = some (planned.result, next)
  goal : ∀ t ∈ past, t.before.call.query.goal = planned.call.query.goal
  nearer : (begun past planned).IsChain fun a b =>
    lt (distance planned.call.query.goal a : F) (distance planned.call.query.goal b) = true

theorem Approaches.ends (arith : ExactTiles F) (costs : PathCosts F)
    {past : List (Runs.Transition (Planned F) (ThreadCall F))} {planned : Planned F}
    (approaches : Approaches past planned) (capped : planned.result.isPartial = true) :
    ∃ t, OnMap t ∧ planned.result.waypoints.getLast? = some (waypoint t) ∧
      lt (distance planned.call.query.goal t : F)
        (distance planned.call.query.goal planned.call.query.start) = true := by
  obtain ⟨next, answered⟩ := approaches.answered
  exact partial_path_ends_nearer arith costs _ approaches.fair.heap
    (approaches.fair.clean arith.unset) _ answered capped

theorem Approaches.replanned (arith : ExactTiles F) (costs : PathCosts F)
    (centred : CentredTiles F) {past : List (Runs.Transition (Planned F) (ThreadCall F))}
    {planned next : Planned F} {call : ThreadCall F} (approaches : Approaches past planned)
    (fair : FairCall call) (stepped : replan call planned = some next) :
    Approaches (⟨planned, call, next⟩ :: past) next ∧
      lt (distance call.query.goal call.query.start : F)
        (distance call.query.goal planned.call.query.start) = true := by
  unfold replan at stepped
  split at stepped
  next follows =>
    obtain ⟨capped, goal, chained⟩ := follows
    obtain ⟨⟨result, m⟩, answered, rfl⟩ := Option.map_eq_some_iff.mp stepped
    obtain ⟨t, onMap, last, nearer⟩ := approaches.ends arith costs capped
    rw [last, Option.map_some, centred t onMap, Option.some.injEq] at chained
    rw [chained, ← goal] at nearer
    refine ⟨⟨fair, ⟨m, answered⟩, fun u member => ?_, ?_⟩, nearer⟩
    · rcases List.mem_cons.mp member with rfl | earlier
      · exact goal.symm
      · exact (approaches.goal u earlier).trans goal.symm
    · have before := approaches.nearer
      rw [← goal] at before
      exact List.isChain_cons_cons.mpr ⟨nearer, before⟩
  next => cases stepped

theorem replan_approaches (arith : ExactTiles F) (costs : PathCosts F) (centred : CentredTiles F)
    {first last : Planned F} {past : List (Runs.Transition (Planned F) (ThreadCall F))}
    (fair : FairCall first.call)
    (answered : ∃ next, first.call.query.answer first.call.map = some (first.result, next))
    (chain : Runs.Run replan first past last)
    (others : Runs.Guarded (fun _ call => FairCall call) past) : Approaches past last := by
  refine chain.history ⟨fair, answered, fun _ member => ?_, List.isChain_singleton _⟩ ?_ others
  · cases member
  · intro past planned call next _ approaches fair stepped
    exact (approaches.replanned arith costs centred fair stepped).1

theorem Approaches.length_le (costs : PathCosts F)
    {past : List (Runs.Transition (Planned F) (ThreadCall F))} {planned : Planned F}
    (approaches : Approaches past planned) : past.length + 1 ≤ (width * height).toNat := by
  have distinct : (begun past planned).Nodup := by
    have : Trans (fun a b : Tile => lt (distance planned.call.query.goal a : F)
        (distance planned.call.query.goal b) = true)
        (fun a b => lt (distance planned.call.query.goal a : F)
          (distance planned.call.query.goal b) = true)
        (fun a b => lt (distance planned.call.query.goal a : F)
          (distance planned.call.query.goal b) = true) := ⟨costs.trans _ _ _⟩
    refine approaches.nearer.pairwise.imp fun {a b} less same => ?_
    rw [same, costs.irrefl] at less
    cases less
  have count := tiles_length_le distinct fun t member => by
    rcases List.mem_cons.mp member with rfl | earlier
    · exact onMap_tile _ _
    · obtain ⟨u, -, rfl⟩ := List.mem_map.mp earlier
      exact onMap_tile _ _
  simpa [begun] using count

/-- In a chain of searches every search begins nearer to the goal than the one before, so the chain
is shorter than the map has tiles. It goes on exactly from a partial path, which ends nearer to the
goal than it began, and the search from there returns. -/
theorem replanning_ends (arith : ExactTiles F) (costs : PathCosts F) (centred : CentredTiles F)
    (first last : Planned F) (past : List (Runs.Transition (Planned F) (ThreadCall F)))
    (fair : FairCall first.call)
    (answered : ∃ next, first.call.query.answer first.call.map = some (first.result, next))
    (chain : Runs.Run replan first past last)
    (others : Runs.Guarded (fun _ call => FairCall call) past) :
    (∀ t ∈ past, lt (distance t.event.query.goal t.after.call.query.start : F)
        (distance t.event.query.goal t.before.call.query.start) = true) ∧
      past.length < (width * height).toNat ∧
      (last.result.isPartial = true → ∃ t, last.result.waypoints.getLast?.map tileOf = some t ∧
        lt (distance last.call.query.goal t : F)
          (distance last.call.query.goal last.call.query.start) = true ∧
        ∀ next, FairCall next → next.query.goal = last.call.query.goal → next.query.start = t →
          (replan next last).isSome = true) := by
  have approaches := replan_approaches arith costs centred fair answered chain others
  refine ⟨fun t member => ?_, approaches.length_le costs, fun capped => ?_⟩
  · obtain ⟨later, earlier, rfl, before, taken⟩ := chain.taken t member
    have until_then := replan_approaches arith costs centred fair answered before
      fun u among => others u (by simp [among])
    obtain ⟨begins, nearer⟩ :=
      until_then.replanned arith costs centred (others t member) taken
    have same : t.after.call = t.event := by
      unfold replan at taken
      split at taken
      next =>
        obtain ⟨a, -, found⟩ := Option.map_eq_some_iff.mp taken
        rw [← found]
      next => cases taken
    rw [same]
    exact nearer
  · obtain ⟨t, onMap, ends, nearer⟩ := approaches.ends arith costs capped
    have stands : last.result.waypoints.getLast?.map tileOf = some t := by
      rw [ends, Option.map_some, centred t onMap]
    refine ⟨t, stands, nearer, fun next fair goal start => ?_⟩
    obtain ⟨result, m, answered⟩ :=
      next.query.answer_total arith costs fair.heap (fair.clean arith.unset)
    unfold replan
    rw [if_pos ⟨capped, goal, start ▸ stands⟩, answered]
    rfl

theorem centredTiles_of_round (rounds : ∀ n : Int, round (ofInt n : F) = n) : CentredTiles F := by
  intro t onMap
  obtain ⟨lowX, highX, lowZ, highZ⟩ := onMap
  unfold tileOf waypoint tileX tileZ
  dsimp only
  rw [rounds, rounds, clampInt_self lowX (by omega), clampInt_self lowZ (by omega)]

theorem roundAway_intCast (n : Int) : Rat.roundAway (n : ℚ) = n := by
  have floors (k : Int) : ⌊(k : ℚ) + 1 / 2⌋ = k := by
    rw [Int.floor_eq_iff]
    constructor <;> linarith
  unfold Rat.roundAway
  split
  · have := floors (-n)
    push_cast at this
    rw [this, neg_neg]
  · exact floors n

theorem centredTiles_rat : CentredTiles ℚ := centredTiles_of_round roundAway_intCast

theorem centredTiles_real : CentredTiles ℝ :=
  centredTiles_of_round fun n => (round_lit_real n).trans (roundAway_intCast n)

-- A walk of three tiles with a cap of two nodes.
def hurriedWalk : ThreadCall ℚ := ⟨meadow, leastFirst, 0, 0, 0, 3, 2⟩

def secondWalk : ThreadCall ℚ := ⟨meadow, leastFirst, 0, 1, 0, 3, defaultIterations⟩

theorem replanning_ends_hurriedWalk : ∃ first last, first.call = hurriedWalk ∧
    first.result.isPartial = true ∧ last.result.isPartial = false ∧
    ∃ past, Runs.Run replan first past last ∧ past.length < (width * height).toNat := by
  have walked : ((hurriedWalk.query.answer hurriedWalk.map).any fun answered =>
      answered.1.isPartial && (replan secondWalk ⟨hurriedWalk, answered.1⟩).any
        fun last => !last.result.isPartial) = true := by
    decide +kernel
  obtain ⟨⟨result, m⟩, answered, onward⟩ := (Option.any_eq_true _ _).mp walked
  rw [Bool.and_eq_true, Option.any_eq_true] at onward
  obtain ⟨capped, last, stepped, complete⟩ := onward
  have fair (call : ThreadCall ℚ) (heap : call.query.top = leastFirst)
      (fresh : call.map.scratch = freshScratch) : FairCall call :=
    ⟨heap ▸ leastFirst_heap_rat, [], fresh ▸ .rest⟩
  have chain : Runs.Run replan ⟨hurriedWalk, result⟩ [⟨⟨hurriedWalk, result⟩, secondWalk, last⟩]
      last := .next .rest stepped
  obtain ⟨-, short, -⟩ := replanning_ends exactTiles_rat (exactCosts _ exactValue_rat)
    centredTiles_rat ⟨hurriedWalk, result⟩ last _ (fair _ rfl rfl) ⟨m, answered⟩ chain (by
      intro t member
      obtain rfl := List.mem_singleton.mp member
      exact fair _ rfl rfl)
  exact ⟨_, last, rfl, capped, by simpa using complete, _, chain, short⟩

end MundusVivens.GridMap
