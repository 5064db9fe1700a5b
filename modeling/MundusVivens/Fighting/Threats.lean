import MundusVivens.World.Vicinity
import MundusVivens.World.Bootstrap
import MundusVivens.Systems.Social

set_option autoImplicit false

/-!
# Threats

`SystemPerception` asks for everybody within 20 units, but the search looks into nine cells of 8
units only. The greatest threat is taken into account when it stands in one of them.
-/

namespace MundusVivens

open Scalar LocationRegistry

section

variable {F : Type} [Scalar F]

/-- Another living entity with health within the perception range. -/
structure World.InView (w : World F) (e : Entity) (loc : LocationComp F) (x : Entity) : Prop where
  other : x ≠ e
  valid : w.reg.valid x = true
  health : (w.reg.health x).isSome = true
  alive : w.isDead x = false
  near : ∃ there, w.reg.location x = some there ∧
    le ((there.x - loc.x) * (there.x - loc.x) + (there.z - loc.z) * (there.z - loc.z))
      (lit 20 * lit 20) = true

-- The registry holds every living entity with health, and everybody in the cell of his position.
structure World.Indexed (w : World F) : Prop where
  coherent : w.grid.Coherent
  current : ∀ x loc cell, w.reg.location x = some loc → w.grid.entityToCell x = some cell →
    cell = getCellKey loc.x loc.z
  registered : ∀ x, (w.reg.location x).isSome = true → (w.reg.health x).isSome = true →
    w.isDead x = false → w.grid.entityToCell x ≠ none

/-- When somebody in view is a threat, the greatest of them becomes the threat of the entity, and
the aggro rises by its gain. -/
def World.PerceivesAll (w : World F) (e : Entity) (loc : LocationComp F) (aggro : AggroComp)
    (faction : FactionComp) : Prop :=
  (∃ x, w.InView e loc x ∧ 0 < w.neighborGain e faction x) →
    ∃ aggro' threat, (w.perception e).reg.aggro e = some aggro' ∧
      aggro'.threatEntity = some threat ∧ w.InView e loc threat ∧
      (∀ x, w.InView e loc x → w.neighborGain e faction x ≤ w.neighborGain e faction threat) ∧
      aggro'.aggroScore = min 100 (aggro.aggroScore + w.neighborGain e faction threat)

variable {w : World F} {e : Entity} {faction : FactionComp}

omit [Scalar F] in
theorem World.bestThreat_spec (w : World F) (e : Entity) (faction : FactionComp)
    (neighbors : List Entity) :
    (w.bestThreat e faction neighbors = (none, 0) ∧
        ∀ x ∈ neighbors, w.neighborGain e faction x ≤ 0) ∨
      ∃ threat ∈ neighbors, 0 < w.neighborGain e faction threat ∧
        w.bestThreat e faction neighbors = (some threat, w.neighborGain e faction threat) ∧
        ∀ x ∈ neighbors, w.neighborGain e faction x ≤ w.neighborGain e faction threat := by
  induction neighbors using List.reverseRecOn with
  | nil => exact .inl ⟨rfl, fun _ member => by cases member⟩
  | append_singleton rest last ih =>
      have turn : w.bestThreat e faction (rest ++ [last]) =
          if (w.bestThreat e faction rest).2 < w.neighborGain e faction last then
            (some last, w.neighborGain e faction last)
          else w.bestThreat e faction rest := by
        rw [World.bestThreat, List.foldl_append]
        rfl
      rw [turn]
      rcases ih with ⟨nobody, none⟩ | ⟨threat, among, positive, best, greatest⟩
      · rw [nobody]
        split
        next better =>
          refine .inr ⟨last, by simp, better, rfl, fun x member => ?_⟩
          rcases List.mem_append.mp member with before | here
          · exact (none x before).trans (le_of_lt better)
          · rw [List.mem_singleton.mp here]
        next worse =>
          refine .inl ⟨rfl, fun x member => ?_⟩
          rcases List.mem_append.mp member with before | here
          · exact none x before
          · rw [List.mem_singleton.mp here]
            exact not_lt.mp worse
      · rw [best]
        split
        next better =>
          refine .inr ⟨last, by simp, positive.trans better, rfl, fun x member => ?_⟩
          rcases List.mem_append.mp member with before | here
          · exact (greatest x before).trans (le_of_lt better)
          · rw [List.mem_singleton.mp here]
        next worse =>
          refine .inr ⟨threat, by simp [among], positive, rfl, fun x member => ?_⟩
          rcases List.mem_append.mp member with before | here
          · exact greatest x before
          · rw [List.mem_singleton.mp here]
            exact not_lt.mp worse

omit [Scalar F] in
theorem threat_of_gain {x : Entity} (positive : 0 < w.neighborGain e faction x) :
    x ≠ e ∧ w.reg.valid x = true ∧ (w.reg.health x).isSome = true ∧ w.isDead x = false := by
  unfold World.neighborGain at positive
  split at positive
  next => cases positive
  next seen => simpa [and_assoc, Option.isSome_iff_ne_none] using seen

theorem perception_unarmed {loc : LocationComp F} {aggro : AggroComp}
    (located : w.reg.location e = some loc) (roused : w.reg.aggro e = some aggro)
    (belongs : w.reg.faction e = some faction) (unarmed : w.hasValidTarget e = false)
    (alive : w.isDead e = false) : (w.perception e).reg.aggro e =
      some (World.updateAggro aggro (w.bestThreat e faction
        (w.grid.getNearbyEntities loc.x loc.z (lit 20) w.reg.location))) := by
  simp [World.perception, located, roused, belongs, unarmed, alive, World.setAggro]

end

-- The entity stands in one of the nine cells around a position.
def World.Close (w : World ℝ) (loc : LocationComp ℝ) (x : Entity) : Prop :=
  ∃ there, w.reg.location x = some there ∧ Adjacent loc.x loc.z there.x there.z

variable {w : World ℝ} {e x : Entity} {loc : LocationComp ℝ} {faction : FactionComp}

theorem found_iff (indexed : w.Indexed) (positive : 0 < w.neighborGain e faction x) :
    x ∈ w.grid.getNearbyEntities loc.x loc.z (lit 20) w.reg.location ↔
      w.InView e loc x ∧ w.Close loc x := by
  obtain ⟨other, valid, health, alive⟩ := threat_of_gain positive
  have twenty : (lit 20 : ℝ) = 20 := by norm_num
  rw [twenty]
  have circle (there : LocationComp ℝ) :
      le ((there.x - loc.x) * (there.x - loc.x) + (there.z - loc.z) * (there.z - loc.z))
        (lit 20 * lit 20) = true ↔ (there.x - loc.x) ^ 2 + (there.z - loc.z) ^ 2 ≤ (20 : ℝ) ^ 2 := by
    rw [le_real, twenty, ← pow_two, ← pow_two, ← pow_two]
  constructor
  · intro found
    obtain ⟨-, there, located, near⟩ := (mem_getNearbyEntities _ _ _ _).mp found
    obtain ⟨-, adjacent, -⟩ := (mem_getNearbyEntities_iff indexed.coherent (by norm_num)
      (by norm_num) located fun cell => indexed.current x there cell located).mp found
    exact ⟨⟨other, valid, health, alive, there, located, (circle there).mpr near⟩, there, located,
      adjacent⟩
  · rintro ⟨view, there, located, adjacent⟩
    obtain ⟨same, located', near⟩ := view.near
    obtain rfl := Option.some.inj (located.symm.trans located')
    exact (mem_getNearbyEntities_iff indexed.coherent (by norm_num) (by norm_num) located
      fun cell => indexed.current x there cell located).mpr
      ⟨indexed.registered x (by rw [located]; rfl) health alive, adjacent, (circle there).mp near⟩

-- What `updateAggro` may leave that looks like a new threat of gain `gain`, when none was found.
theorem updateAggro_cooled {aggro aggro' : AggroComp} {threat : Entity} {gain : Int}
    (cooled : World.updateAggro aggro (none, 0) = aggro') (positive : 0 < gain)
    (threatens : aggro'.threatEntity = some threat)
    (score : aggro'.aggroScore = min 100 (aggro.aggroScore + gain)) :
    aggro.aggroScore = 110 ∧ aggro.threatEntity = some threat := by
  subst cooled
  unfold World.updateAggro at threatens score
  dsimp only at threatens score
  split at threatens
  next warm =>
    rw [if_pos warm] at score
    split at threatens
    next => cases threatens
    next lasts =>
      rw [if_neg lasts] at score
      dsimp only at threatens score
      exact ⟨by omega, threatens⟩
  next cold =>
    rw [if_neg cold] at score
    omega

/-- All threats in view are taken into account exactly if there is none, or one of the greatest
stands in the nine cells. Besides, a score of 110 that cools down to 100 looks like one that rose. -/
theorem perceives_all_iff (w : World ℝ) (e : Entity) (loc : LocationComp ℝ) (aggro : AggroComp)
    (faction : FactionComp) (indexed : w.Indexed) (located : w.reg.location e = some loc)
    (roused : w.reg.aggro e = some aggro) (belongs : w.reg.faction e = some faction)
    (unarmed : w.hasValidTarget e = false) (alive : w.isDead e = false) :
    w.PerceivesAll e loc aggro faction ↔
      (∀ x, w.InView e loc x → w.neighborGain e faction x ≤ 0) ∨
      (∃ x, w.InView e loc x ∧ w.Close loc x ∧
        ∀ y, w.InView e loc y → w.neighborGain e faction y ≤ w.neighborGain e faction x) ∨
      aggro.aggroScore = 110 ∧
        (∀ x, w.InView e loc x → w.Close loc x → w.neighborGain e faction x ≤ 0) ∧
        ∃ threat, aggro.threatEntity = some threat ∧ w.InView e loc threat ∧
          ∀ y, w.InView e loc y → w.neighborGain e faction y ≤ w.neighborGain e faction threat := by
  have scanned := perception_unarmed located roused belongs unarmed alive
  unfold World.PerceivesAll
  rw [scanned]
  rcases w.bestThreat_spec e faction
      (w.grid.getNearbyEntities loc.x loc.z (lit 20) w.reg.location) with
    ⟨nobody, none⟩ | ⟨best, among, positive, chosen, greatest⟩
  · -- Nobody in the nine cells is a threat, so the aggro cools down.
    have far (x : Entity) (view : w.InView e loc x) (close : w.Close loc x) :
        w.neighborGain e faction x ≤ 0 := by
      by_contra positive
      exact positive (none x ((found_iff indexed (not_le.mp positive)).mpr ⟨view, close⟩))
    rw [nobody]
    constructor
    · intro perceives
      by_cases calm : ∀ x, w.InView e loc x → w.neighborGain e faction x ≤ 0
      next => exact .inl calm
      next =>
        push Not at calm
        obtain ⟨x, view, positive⟩ := calm
        obtain ⟨aggro', threat, held, threatens, seen, most, score⟩ := perceives ⟨x, view, positive⟩
        obtain ⟨hot, kept⟩ := updateAggro_cooled (Option.some.inj held)
          (positive.trans_le (most x view)) threatens score
        exact .inr (.inr ⟨hot, far, threat, kept, seen, most⟩)
    · rintro (calm | ⟨x, view, close, most⟩ | ⟨score, -, threat, threatens, seen, most⟩)
        ⟨y, view_y, positive⟩
      · exact absurd (calm y view_y) (not_le.mpr positive)
      · have gains := most y view_y
        have none := far x view close
        omega
      · have gains := most y view_y
        refine ⟨_, threat, rfl, ?_, seen, most, ?_⟩
        · simp [World.updateAggro, score, threatens]
        · simp only [World.updateAggro, score]
          norm_num
          omega
  · obtain ⟨view, close⟩ := (found_iff indexed positive).mp among
    rw [chosen]
    constructor
    · intro perceives
      obtain ⟨aggro', threat, held, threatens, -, most, -⟩ := perceives ⟨best, view, positive⟩
      obtain rfl := Option.some.inj held
      obtain rfl := Option.some.inj threatens
      exact .inr (.inl ⟨best, view, close, most⟩)
    · intro condition _
      have most : ∀ y, w.InView e loc y → w.neighborGain e faction y ≤ w.neighborGain e faction best := by
        rcases condition with calm | ⟨x, view_x, close_x, most⟩ | ⟨-, calm, -⟩
        · exact absurd (calm best view) (not_le.mpr positive)
        · have found := (found_iff indexed (positive.trans_le (most best view))).mpr ⟨view_x, close_x⟩
          exact fun y view_y => (most y view_y).trans (greatest x found)
        · exact absurd (calm best view close) (not_le.mpr positive)
      exact ⟨_, best, rfl, rfl, view, most, rfl⟩

section

variable {F : Type} [Scalar F]

def wolfCalls (x z : F) : List (CellCall F) := [.update 0 zero zero none, .update 1 x z none]

def clearing (x z : F) : World F :=
  { emptyWorld ⟨[], [], [], lit 2, 60⟩ ⟨lit 2, 60⟩ (some []) with
    grid := (wolfCalls x z).foldl CellCall.apply LocationRegistry.empty
    reg :=
      { Registry.empty with
        nextEntity := 2
        valid := fun e => decide (e < 2)
        location := fun e =>
          if e = 0 then some (newLocation "" zero zero zero)
          else if e = 1 then some (newLocation "" x zero z) else none
        health := fun e => if e < 2 then some .initial else none
        faction := fun e => if e = 0 then some ⟨"Human"⟩ else if e = 1 then some ⟨"Wolf"⟩ else none
        aggro := fun e => if e < 2 then some .initial else none
        issued := fun _ bound => decide_eq_false (not_lt.mpr bound)
        owned := fun _ _ => ⟨rfl, rfl, rfl⟩ } }

theorem clearing_indexed (x z : F) : (clearing x z).Indexed := by
  have record (e : Entity) : (clearing x z).grid.entityToCell e =
      if e = 0 then some (getCellKey (zero : F) zero) else if e = 1 then some (getCellKey x z) else none := by
    refine (@calls_record F _ LocationRegistry.empty (wolfCalls x z) e).trans ?_
    by_cases man : e = 0
    · simp [man, wolfCalls, CellCall.entity, CellCall.cell]
    · by_cases wolf : e = 1
      · simp [wolf, wolfCalls, CellCall.entity, CellCall.cell]
      · simp [man, wolf, Ne.symm man, Ne.symm wolf, wolfCalls, CellCall.entity,
          LocationRegistry.empty]
  refine ⟨calls_coherent _ empty_coherent, fun e loc cell located recorded => ?_, fun e located _ _ => ?_⟩
  · rw [record] at recorded
    simp only [clearing] at located
    split at located
    next man =>
      rw [if_pos man] at recorded
      obtain rfl := Option.some.inj located
      exact (Option.some.inj recorded).symm
    next man =>
      rw [if_neg man] at recorded
      split at located
      next wolf =>
        rw [if_pos wolf] at recorded
        obtain rfl := Option.some.inj located
        exact (Option.some.inj recorded).symm
      next => cases located
  · rw [record]
    simp only [clearing] at located
    split at located
    next man => simp [man]
    next man =>
      split at located
      next wolf => simp [wolf]
      next => cases located

end

-- The wolf is one unit away.
theorem perceives_all_iff_clearing :
    (clearing (1 : ℝ) 0).PerceivesAll 0 (newLocation "" zero zero zero) .initial ⟨"Human"⟩ := by
  have gain : (clearing (1 : ℝ) 0).neighborGain 0 ⟨"Human"⟩ 1 = 100 := by
    simp [World.neighborGain, World.isDead, World.isExempt, World.threatGain, clearing,
      Registry.empty, HealthComp.initial]
  have view : (clearing (1 : ℝ) 0).InView 0 (newLocation "" zero zero zero) 1 := by
    refine ⟨by decide, rfl, rfl, rfl, _, rfl, ?_⟩
    rw [le_real]
    norm_num [newLocation, zero]
  have close : (clearing (1 : ℝ) 0).Close (newLocation "" zero zero zero) 1 := by
    refine ⟨_, rfl, floor_near 1 ?_, floor_near 1 ?_⟩ <;> norm_num [newLocation, zero]
  refine (perceives_all_iff (clearing 1 0) 0 _ _ _ (clearing_indexed 1 0) rfl rfl rfl rfl rfl).mpr
    (.inr (.inl ⟨1, view, close, fun y seen => ?_⟩))
  obtain rfl : y = 1 :=
    le_antisymm (Nat.lt_succ_iff.mp (of_decide_eq_true seen.valid)) (Nat.pos_of_ne_zero seen.other)
  exact le_refl _

theorem far_wolf_missed : (clearing (18 : ℚ) 0).Indexed ∧
    ¬(clearing (18 : ℚ) 0).PerceivesAll 0 (newLocation "" zero zero zero) .initial ⟨"Human"⟩ := by
  have gain : (clearing (18 : ℚ) 0).neighborGain 0 ⟨"Human"⟩ 1 = 100 := by decide +kernel
  have view : (clearing (18 : ℚ) 0).InView 0 (newLocation "" zero zero zero) 1 :=
    ⟨by decide, by decide +kernel, by decide +kernel, by decide +kernel, _, rfl, by decide +kernel⟩
  have after : (((clearing (18 : ℚ) 0).perception 0).reg.aggro 0).bind (·.threatEntity) = none := by
    decide +kernel
  refine ⟨clearing_indexed 18 0, fun perceives => ?_⟩
  obtain ⟨aggro', threat, held, threatens, -⟩ := perceives ⟨1, view, by rw [gain]; decide⟩
  rw [held, Option.bind_some, threatens] at after
  cases after

end MundusVivens
