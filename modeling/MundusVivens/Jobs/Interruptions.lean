import MundusVivens.Jobs.Staff
import MundusVivens.Systems.Frames
import MundusVivens.Walking.Sight

set_option autoImplicit false

/-!
# Interruptions

A pass of `SystemJobDriver` ends the interruption of an NPC that nothing holds back,
unless the NPC was interrupted while it wandered.
-/

namespace MundusVivens

open Scalar BehaviorTree Runs

variable {F : Type} [Scalar F]

def driverPass (rank : Entity → Nat) (w : World F) : Option (World F) :=
  pass rank (fun w e => (w.reg.activity e).isSome) .jobDriver w

/-- A living NPC is interrupted, though it is neither busy, nor in combat, nor in a crisis. -/
structure World.Stalled (w : World F) (n : Entity) : Prop where
  npc : w.isNpc n = true
  living : w.isDead n = false
  interrupted : ∃ toil, w.reg.toil n = some toil ∧ toil.state = .interrupted
  free : w.reg.busy n = none
  peaceful : w.hasCombatTarget n = false
  sated : w.isResolving n = false

-- The toil is idle, or with an active job already beyond that.
def World.Resumes (w w' : World F) (n : Entity) : Prop :=
  ∃ toil, w'.reg.toil n = some toil ∧
    if (w.jobOrDefault n).isActive then toil.state = .moving ∨ toil.state = .working
    else toil.state = .idle

namespace World

variable {w w' m : World F} {e n : Entity}

def stalls (w : World F) (n : Entity) : Bool :=
  w.isNpc n && !w.isDead n && (w.reg.toil n).any (·.state = .interrupted) && (w.reg.busy n).isNone &&
    !w.hasCombatTarget n && !w.isResolving n

omit [Scalar F] in
theorem stalled_of_check (stalls : w.stalls n = true) : w.Stalled n := by
  simp only [World.stalls, Bool.and_eq_true, Bool.not_eq_true', Option.isNone_iff_eq_none] at stalls
  obtain ⟨⟨⟨⟨⟨npc, living⟩, toil⟩, free⟩, peaceful⟩, sated⟩ := stalls
  obtain ⟨toil, toiling, state⟩ := (Option.any_eq_true _ _).mp toil
  exact ⟨npc, living, ⟨toil, toiling, by simpa using state⟩, free, peaceful, sated⟩

theorem prepareJourney_toil (loc : LocationComp F) (job : JobComp F) :
    (w.prepareJourney e loc job).reg.toil = w.reg.toil := by
  unfold prepareJourney
  split
  next => split <;> rfl
  next => rfl

theorem advanceJob_starts (loc : LocationComp F) (identity : IdentityComp) (job : JobComp F)
    (toil : ToilComp) (idle : toil.state = .idle) :
    ∃ w' next, w.advanceJob e loc identity job toil = some w' ∧ w'.reg.toil e = some next ∧
      (next.state = .moving ∨ next.state = .working) := by
  unfold advanceJob
  rw [idle]
  dsimp only
  split
  next =>
    exact ⟨_, { toil with state := .moving }, rfl,
      by simp [prepareJourney_toil, setActivity, setToil], .inl rfl⟩
  next =>
    exact ⟨_, { toil with state := .working, durationTicks := 3 }, rfl,
      by simp [setActivity, setToil], .inr rfl⟩

theorem advanceJob_total (valid : w.reg.valid e = true) (loc : LocationComp F)
    (identity : IdentityComp) (job : JobComp F) (toil : ToilComp) :
    ∃ w', w.advanceJob e loc identity job toil = some w' := by
  unfold advanceJob
  split
  next => split <;> exact ⟨_, rfl⟩
  next => exact ⟨_, rfl⟩
  next =>
    split
    next =>
      have there : (((w.setJob e { job with isActive := false }).setToil e
          { toil.countDown with state := .idle }).setActivity e "대기").reg.valid e = true := valid
      simp [completeJob, setBusy, Registry.setBusy, there]
    next => exact ⟨_, rfl⟩
  next => exact ⟨_, rfl⟩

theorem jobDriver_total (valid : w.reg.valid e = true) : ∃ w', w.jobDriver e = some w' := by
  unfold jobDriver
  split
  next loc activity identity _ _ _ =>
    dsimp only
    repeat' split
    all_goals first | exact ⟨_, rfl⟩ | skip
    unfold driveJob
    split
    next =>
      split
      next =>
        dsimp only
        refine advanceJob_total ?_ loc identity _ _
        exact valid
      next =>
        refine advanceJob_total ?_ loc identity _ _
        exact valid
    next => exact ⟨_, rfl⟩
  next => exact ⟨_, rfl⟩

theorem Stalled.visit (stalled : w.Stalled n) (stage : w.OnStage n)
    (driven : w.jobDriver n = some w') :
    if (w.jobOrDefault n).intent = "배회 중" then w'.reg.toil n = w.reg.toil n
    else w.Resumes w' n := by
  obtain ⟨loc, located⟩ := Option.isSome_iff_exists.mp stage.located
  obtain ⟨activity, shown⟩ := Option.isSome_iff_exists.mp stage.shown
  obtain ⟨identity, named⟩ := Option.isSome_iff_exists.mp stage.named
  obtain ⟨toil, toiling, interrupted⟩ := stalled.interrupted
  have current : w.toilOrDefault n = toil := by simp [toilOrDefault, toiling]
  simp only [jobDriver, located, shown, named, stalled.living, stalled.sated, stalled.peaceful,
    stalled.free, current, Bool.false_eq_true, if_false, Option.isSome_none] at driven
  split at driven
  next wanders =>
    obtain rfl := Option.some.inj driven
    simp [wanders, setToil, toiling]
  next stays =>
    rw [if_neg stays]
    unfold driveJob at driven
    split at driven
    next active =>
      dsimp only at driven
      obtain ⟨w'', next, advanced, moved, state⟩ := advanceJob_starts (e := n)
        (w := ((((w.setJob n (w.jobOrDefault n)).setToil n toil).setToil n
          { toil with state := .idle }).setActivity n "대기")) loc identity (w.jobOrDefault n)
        { toil with state := .idle } rfl
      obtain rfl := Option.some.inj (advanced.symm.trans driven)
      exact ⟨next, moved, by simpa [active] using state⟩
    next inactive =>
      obtain rfl := Option.some.inj driven
      exact ⟨{ toil with state := .idle }, by simp [setActivity, setToil], by simp [inactive]⟩

def Unvisited (n : Entity) : World F → World F → Prop := Within ⟨[], jobDriverScope.all⟩ n n

omit [Scalar F] in
theorem Unvisited.toil (unvisited : Unvisited n w w') : w'.reg.toil n = w.reg.toil n :=
  unvisited.same .toil rfl

theorem Unvisited.job (unvisited : Unvisited n w w') : w'.jobOrDefault n = w.jobOrDefault n := by
  have same : w'.reg.job n = w.reg.job n := unvisited.same .job rfl
  simp [jobOrDefault, same]

omit [Scalar F] in
theorem Stalled.unvisited (stalled : w.Stalled n) (unvisited : Unvisited n w w') :
    w'.Stalled n := by
  have needs : w'.reg.needs n = w.reg.needs n := unvisited.same .needs rfl
  have health : w'.reg.health n = w.reg.health n := unvisited.same .health rfl
  have busy : w'.reg.busy n = w.reg.busy n := unvisited.same .busy rfl
  have combat : w'.reg.combat n = w.reg.combat n := unvisited.same .combat rfl
  constructor
  · simpa [isNpc, needs] using stalled.npc
  · simpa [isDead, health] using stalled.living
  · simpa [unvisited.toil] using stalled.interrupted
  · simpa [busy] using stalled.free
  · simpa [hasCombatTarget, combat] using stalled.peaceful
  · simpa [isResolving, needs] using stalled.sated

omit [Scalar F] in
theorem OnStage.unvisited (stage : w.OnStage n) (unvisited : Unvisited n w w') : w'.OnStage n := by
  have located : w'.reg.location n = w.reg.location n := unvisited.same .location rfl
  have shown : w'.reg.activity n = w.reg.activity n := unvisited.same .activity rfl
  have named : w'.reg.identity n = w.reg.identity n := unvisited.same .identity rfl
  exact ⟨unvisited.resident rfl stage.resident, by rw [located]; exact stage.located,
    by rw [shown]; exact stage.shown, by rw [named]; exact stage.named⟩

theorem driverPass_total (rank : Entity → Nat) (w : World F) : ∃ w', driverPass rank w = some w' := by
  obtain ⟨w', passed, -⟩ := @follow_total _ _ step _ .jobDriver
    (fun m : World F => m.reg.valid = w.reg.valid) (w.view rank fun e => (w.reg.activity e).isSome)
    (fun e member m same => by
      have valid : m.reg.valid e = true := by
        rw [same]
        exact ((mem_view w rank _ e).mp member).2.1
      obtain ⟨m', driven⟩ := jobDriver_total valid
      refine ⟨m', driven, funext fun x => ?_⟩
      have kept : m'.reg.valid x = m.reg.valid x := (m.jobDriver_within m' e x driven).same .valid rfl
      rw [kept, same])
    w rfl
  exact ⟨w', passed⟩

theorem Stalled.pass (stalled : w.Stalled n) (stage : w.OnStage n) (rank : Entity → Nat)
    (passed : driverPass rank w = some w') :
    if (w.jobOrDefault n).intent = "배회 중" then w'.reg.toil n = w.reg.toil n
    else w.Resumes w' n := by
  have known : n < w.reg.nextEntity := by
    by_contra late
    simpa [w.reg.issued n (Nat.not_lt.mp late)] using stage.resident.valid
  obtain ⟨m, m', before, driven, after⟩ := @follow_around _ _ step _ Event.jobDriver
    (Unvisited n) (fun w => .refl _ n n w) (fun _ _ _ first second => first.trans second) n
    (fun y other m m' driven => by
      have within := (m.jobDriver_within m' y n driven).others (Ne.symm other)
      exact fun p foreign _ => within p foreign fun _ => List.not_mem_nil)
    _ (view_nodup w rank fun e => (w.reg.activity e).isSome)
    ((mem_view w rank _ n).mpr ⟨known, stage.resident.valid, stage.shown⟩) w w' passed
  have visited := (stalled.unvisited before).visit (stage.unvisited before) driven
  rw [before.job] at visited
  split
  next wanders =>
    rw [if_pos wanders] at visited
    rw [after.toil, visited, before.toil]
  next stays =>
    rw [if_neg stays] at visited
    obtain ⟨toil, toiling, state⟩ := visited
    exact ⟨toil, by rw [after.toil, toiling], by simpa [before.job] using state⟩

end World

/-- In every reachable state the next pass of `SystemJobDriver` takes a stalled NPC out of its
interruption exactly when the NPC does not count as wandering. -/
theorem interruption_ends_iff (data : WorldBootstrapData F) (settings : SimulationSettings F)
    (obstacles : Option (List Obstacle)) (draws : Nat → NeedsDraw F) (start w : World F)
    (past : List (Transition (World F) (Event F)))
    (booted : bootstrap data settings obstacles draws = some start)
    (run : ServerRun start past w) (n : Entity) (stalled : w.Stalled n) (rank : Entity → Nat) :
    ∃ w', driverPass rank w = some w' ∧
      (w.Resumes w' n ↔ (w.jobOrDefault n).intent ≠ "배회 중") := by
  have staffed := reachable_staffed data settings obstacles draws start w past booted run
  obtain ⟨w', passed⟩ := World.driverPass_total rank w
  have after := stalled.pass (staffed.staged n stalled.npc) rank passed
  refine ⟨w', passed, ?_⟩
  split at after
  next wanders =>
    refine ⟨fun resumes => ?_, fun stays => absurd wanders stays⟩
    obtain ⟨toil, toiling, interrupted⟩ := stalled.interrupted
    obtain ⟨next, moved, state⟩ := resumes
    obtain rfl := Option.some.inj ((after.trans toiling).symm.trans moved)
    simp [interrupted] at state
  next stays => exact ⟨fun _ => stays, fun _ => after⟩

def heathData : WorldBootstrapData ℚ :=
  { locations := [⟨"여관", 2004, 0, 2004, 1, 1, 1⟩]
    agents := [⟨7, "ella", "엘라", "Wilderness", 56, 0, 40, "평온", "대기", 1 / 2, []⟩,
      ⟨8, "goblin", "고블린", "Wilderness", 32, 0, 40, "평온", "대기", 1 / 2, []⟩]
    furniture := []
    npcSpeed := 300
    ticksPerGameHour := 60 }

def heath : World ℚ :=
  populate (emptyWorld heathData ⟨300, 60⟩ (some [])) heathData fun _ => ⟨100, 100⟩

theorem heath_boots :
    bootstrap heathData ⟨300, 60⟩ (some []) (fun _ => ⟨100, 100⟩) = some heath := by
  rw [bootstrap, if_neg (by decide), if_neg (by decide +kernel)]
  rfl

def heathFrame : FrameInput ℚ :=
  { plainFrame with
    tree := fun e => ⟨id, fun k => if e = 0 then (if k = 2 then 100 else 0) else 1⟩
    physicalTick := 1 }

-- Ella meets the goblin on her walk, and the AI server tells both to leave each other alone.
def encounter : List (Round ℚ) :=
  [.frame heathFrame, .frame heathFrame, .thread (.respond 0 (.threat true 1)),
    .thread (.respond 1 (.threat true 1)), .frame heathFrame]

theorem encounter_stalls : ∃ past last, FrameRun heath past last ∧
    past.reverse.map (·.event) = encounter ∧ last.Stalled 0 ∧
    (last.jobOrDefault 0).intent = "배회 중" := by
  have passed : (record roundStep encounter [] heath).any (fun kept =>
      kept.2.stalls 0 && (kept.2.jobOrDefault 0).intent = "배회 중") = true := by decide +kernel
  obtain ⟨past, last, run, events, checked⟩ := Run.exists_of_record _
    (fun _ (last : World ℚ) => last.stalls 0 && (last.jobOrDefault 0).intent = "배회 중") passed
  obtain ⟨stalls, wanders⟩ := (Bool.and_eq_true _ _).mp checked
  exact ⟨past, last, run, events, World.stalled_of_check stalls, by simpa using wanders⟩

theorem interruption_ends_iff_heath : ∃ past w w', ServerRun heath past w ∧ w.Stalled 0 ∧
    driverPass id w = some w' ∧ (w.Resumes w' 0 ↔ (w.jobOrDefault 0).intent ≠ "배회 중") := by
  obtain ⟨rounds, w, run, -, stalled, -⟩ := encounter_stalls
  obtain ⟨past, run⟩ := FrameRun.reaches run
  obtain ⟨w', passed, resumes⟩ := interruption_ends_iff heathData ⟨300, 60⟩ (some [])
    (fun _ => ⟨100, 100⟩) heath w past heath_boots run 0 stalled id
  exact ⟨past, w, w', run, stalled, passed, resumes⟩

-- Every pass of `SystemJobDriver` leaves Ella interrupted.
theorem wanderer_stays_interrupted : ∃ past w, FrameRun heath past w ∧
    past.reverse.map (·.event) = encounter ∧ w.Stalled 0 ∧
    ∀ rank w', driverPass rank w = some w' → ¬w.Resumes w' 0 ∧
      (w'.reg.toil 0).map (·.state) = some .interrupted := by
  obtain ⟨rounds, w, run, events, stalled, wanders⟩ := encounter_stalls
  refine ⟨rounds, w, run, events, stalled, fun rank w' passed => ?_⟩
  obtain ⟨past, reached⟩ := FrameRun.reaches run
  have staffed := reachable_staffed heathData ⟨300, 60⟩ (some []) (fun _ => ⟨100, 100⟩) heath w past
    heath_boots reached
  have after := stalled.pass (staffed.staged 0 stalled.npc) rank passed
  rw [if_pos wanders] at after
  obtain ⟨toil, toiling, interrupted⟩ := stalled.interrupted
  refine ⟨fun resumes => ?_, by simp [after, toiling, interrupted]⟩
  obtain ⟨next, moved, state⟩ := resumes
  obtain rfl := Option.some.inj ((after.trans toiling).symm.trans moved)
  simp [interrupted] at state

end MundusVivens
