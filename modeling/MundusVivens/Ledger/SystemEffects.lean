import MundusVivens.Ledger.TaskEffects
import MundusVivens.Systems.DriverCases
import MundusVivens.Systems.MainLoop
import MundusVivens.Systems.MovementCases

set_option autoImplicit false

namespace MundusVivens

open Scalar LocationRegistry

variable {F : Type} [Scalar F]

namespace World

variable (w w' : World F) (e : Entity)

omit [Scalar F] in
theorem applyDelta_ledger (delta : RelationshipDelta) :
    (w.applyDelta delta).ledger = w.ledger := by
  unfold applyDelta
  split <;> rfl

omit [Scalar F] in
theorem syncTick_ledger : w.syncTick.ledger = w.ledger := by
  unfold syncTick
  split
  next => exact (foldl_ledger applyDelta applyDelta_ledger _ _).trans rfl
  next => rfl

omit [Scalar F] in
theorem dailyReset_ledger : w.dailyReset.ledger = w.ledger := by
  unfold dailyReset
  split <;> rfl

theorem infectEmotion_ledger (emotion : EmotionComp) (source : UInt8) (count : Nat) (roll : F) :
    (w.infectEmotion e emotion source count roll).ledger = w.ledger := by
  unfold infectEmotion
  dsimp only
  split <;> rfl

theorem decayEntity_ledger (zones : UInt32 → List UInt8) (roll : Entity → F) :
    (decayEntity zones roll w e).ledger = w.ledger := by
  unfold decayEntity
  split
  next emotion _ _ _ _ =>
    dsimp only
    split
    next => rfl
    next =>
      split
      next => rfl
      next => rw [infectEmotion_ledger, ledger_setEmotion]
  next => rfl

theorem emotionDecay_ledger (draw : DecayDraw F) : (w.emotionDecay draw).ledger = w.ledger :=
  foldl_ledger _ (fun w e => w.decayEntity_ledger e _ _) _ w

omit [Scalar F] in
theorem networkSync_ledger (rank : Entity → Nat) : (w.networkSync rank).ledger = w.ledger := by
  unfold networkSync
  dsimp only
  split
  next => rfl
  next => exact w.ledger_issue_other _ rfl

omit [Scalar F] in
theorem requestTick_ledger (physicalTick : Nat) (requested : w.requestTick physicalTick = some w') :
    w'.ledger = w.ledger := by
  unfold requestTick at requested
  split at requested
  next => cases requested
  split at requested
  next =>
    rw [← Option.some.inj requested]
    exact ledger_issue_other _ _ rfl
  next => rw [← Option.some.inj requested]

theorem prepareJourney_ledger (loc : LocationComp F) (job : JobComp F) :
    (w.prepareJourney e loc job).ledger = w.ledger := by
  rcases prepareJourney_eq w e loc job with same | ⟨needs, -, filled⟩
  · rw [same]
  · rw [filled, ledger_setNeeds]

-- The job driver does nothing to the ledger, or lets the entity wait.
def Waits : Prop :=
  w'.ledger = w.ledger ∨
    (w.ledger.valid e = true ∧ w'.ledger = w.ledger.apply (.wait e))

theorem completeJob_ledger (identity : IdentityComp) (job : JobComp F) (toil : ToilComp)
    (completed : w.completeJob e identity job toil = some w') :
    w.ledger.valid e = true ∧ w'.ledger = w.ledger.apply (.wait e) := by
  obtain ⟨waiting, tagged, rfl⟩ := completeJob_cases completed
  obtain ⟨valid, -, held⟩ := ledger_setBusy _ e .scheduleWait waiting tagged
  rw [ledger_setActivity, ledger_setToil, ledger_setJob] at valid held
  refine ⟨valid, ?_⟩
  rw [ledger_issue_other _ _ rfl, held]
  rfl

theorem Pursues.ledger {loc : LocationComp F} {identity : IdentityComp} {job : JobComp F}
    {toil : ToilComp} {w w' : World F} {e : Entity}
    (pursues : Pursues w e loc identity job toil w') : w.Waits w' e := by
  cases pursues with
  | departs => exact .inl (by simp [prepareJourney_ledger])
  | begins => exact .inl (by simp)
  | passes => exact .inl rfl
  | works => exact .inl (by simp)
  | completes _ _ done => exact .inr (w.completeJob_ledger w' e identity job _ done)

theorem jobDriver_ledger (driven : w.jobDriver e = some w') :
    w'.ledger = w.ledger ∨
      (w.ledger.Enabled (.wait e) ∧ w'.ledger = w.ledger.apply (.wait e)) := by
  have waiting (shown : (w.reg.activity e).isSome = true) (free : w.reg.busy e = none)
      (m : World F) (kept : m.ledger = w.ledger) (waits : m.Waits w' e) :
      w'.ledger = w.ledger ∨
        (w.ledger.Enabled (.wait e) ∧ w'.ledger = w.ledger.apply (.wait e)) := by
    rw [Waits, kept] at waits
    rcases waits with same | ⟨valid, waiting⟩
    · exact .inl same
    · exact .inr ⟨⟨valid, by simpa [World.ledger] using shown, by simp [World.ledger, free]⟩, waiting⟩
  cases jobDriver_cases driven with
  | bare => exact .inl rfl
  | held => exact .inl (by simp)
  | pauses identity reported _ _ informed =>
      rcases informed with rfl | rfl
      · exact .inl (by simp)
      · refine .inl ?_
        rw [ledger_setActivity, ledger_setToil, ledger_issue_other _ _ rfl, ledger_setToil,
          ledger_setJob]
  | resumes _ _ _ _ _ shown free _ _ pursues => exact waiting shown free _ (by simp) pursues.ledger
  | pursues _ _ _ _ _ shown free _ pursues => exact waiting shown free _ (by simp) pursues.ledger
  | rests => exact .inl (by simp)

omit [Scalar F] in
theorem recoverEnergy_ledger : (w.recoverEnergy e).ledger = w.ledger := by
  unfold recoverEnergy
  split
  next => split <;> simp
  next => rfl

theorem holdStill_ledger (reason : BusyReason) : (w.holdStill e reason).ledger = w.ledger := by
  unfold holdStill
  split <;> rfl

theorem busyAmbient_ledger (deltaTime : F) : (w.busyAmbient deltaTime e).ledger = w.ledger := by
  unfold busyAmbient
  split
  next busy _ _ _ _ _ _ _ _ _ =>
    dsimp only
    rw [ledger_setToil, ledger_setActivity, ledger_modifyBusy, holdStill_ledger]
    exact fun _ => rfl
  next => rfl

theorem perception_ledger : (w.perception e).ledger = w.ledger := by
  unfold perception
  split
  next =>
    split
    next => simp
    next => split <;> simp
  next => rfl

omit [Scalar F] in
theorem stopToil_ledger : (w.stopToil e).ledger = w.ledger := by
  unfold stopToil
  split
  next => split <;> rfl
  next => rfl

omit [Scalar F] in
theorem dropWaypoints_ledger : (w.dropWaypoints e).ledger = w.ledger := by
  unfold dropWaypoints
  split <;> rfl

omit [Scalar F] in
theorem dropTarget_ledger : (w.dropTarget e).ledger = w.ledger := by
  unfold dropTarget
  split <;> rfl

theorem systemDeath_ledger : (w.systemDeath e).ledger = w.ledger := by
  unfold systemDeath
  split
  next =>
    split
    next =>
      simp only [ledger_eraseBehaviorTree, dropTarget_ledger, ledger_setActivity,
        dropWaypoints_ledger, ledger_modifyVelocity, stopToil_ledger]
    next => rfl
  next => rfl

theorem survivalOverride_ledger : (w.survivalOverride e).ledger = w.ledger := by
  unfold survivalOverride
  split <;> simp

theorem pathfinding_ledger (searches spent : Nat) (choice : PathChoice F)
    (searched : w.pathfinding e searches choice = some (w', spent)) : w'.ledger = w.ledger := by
  refine pathfinding_preserves (fun m => m.ledger = w.ledger)
    (fun write before => Eq.trans ?_ before) searched rfl
  cases write <;> rfl

theorem movement_ledger (moved : w.movement e = some w') : w'.ledger = w.ledger := by
  refine movement_preserves (fun m => m.ledger = w.ledger)
    (fun write before => Eq.trans ?_ before) moved rfl
  cases write <;> simp

omit [Scalar F] in
theorem checkOccupant_ledger : (w.checkOccupant e).ledger = w.ledger := by
  unfold checkOccupant
  split
  next =>
    split
    next => simp
    next =>
      split
      next => split <;> simp
      next => simp
  next => rfl

omit [Scalar F] in
theorem demolish_kept (grid : LocationRegistry F) (furniture : Entity)
    (present : (w.reg.affordance furniture).isSome) :
    w.ledger.Kept ({ w with grid := grid, reg := w.reg.destroy furniture } : World F).ledger := by
  rw [w.destroy_ledger grid w.index furniture]
  exact .single (.demolish w.ledger furniture present)

omit [Scalar F] in
theorem returnFurniture_kept (furniture : Entity)
    (returned : w.returnFurniture furniture = some w') : w.ledger.Kept w'.ledger := by
  have freed : (w.setOccupiedBy furniture none).ledger = w.ledger := by simp
  cases returnFurniture_cases returned with
  | gone => exact .of_eq rfl
  | freed => exact .of_eq freed
  | demolished aff furnished =>
      have taken := demolish_kept (w.setOccupiedBy furniture none) (w.grid.removeEntity furniture)
        furniture (by simp [setOccupiedBy, furnished])
      rwa [freed] at taken

omit [Scalar F] in
theorem resolveAffordance_kept (resolved : w.resolveAffordance e = some w') :
    w.ledger.Kept w'.ledger := by
  cases resolveAffordance_cases resolved with
  | keeps => exact .of_eq rfl
  | frees needs furniture returned _ _ _ back =>
      rw [ledger_setNeeds]
      exact w.returnFurniture_kept returned furniture back

end World

end MundusVivens
