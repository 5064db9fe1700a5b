import MundusVivens.Jobs.Handlers
import MundusVivens.Systems.EventFootprints
import MundusVivens.Systems.Onlookers
import MundusVivens.Walking.Visits

set_option autoImplicit false

/-!
# Commitment

An NPC is committed when it works on an active job and resolves no crisis. Only
an arrival, the job driver and a fight commit an NPC; every other event leaves a
committed NPC and its job as they were, or ends the commitment.
-/

namespace MundusVivens

open Scalar BehaviorTree LocationRegistry

variable {F : Type}

structure World.Committed (w : World F) (x : Entity) : Prop where
  employed : w.isEmployed x = true
  working : ∃ toil, w.reg.toil x = some toil ∧ toil.state = .working
  calm : w.isResolving x = false

-- Who is committed afterwards was committed before, to the same job.
def Steady (x : Entity) (w w' : World F) : Prop :=
  w'.Committed x → w.Committed x ∧ w'.reg.job x = w.reg.job x

def Scope.sparesWork (s : Scope) : Bool :=
  [Part.job, .toil, .needs].all fun p => !s.covers p

-- The work of the entity is as before, or the entity is gone.
def Spared (x : Entity) (w w' : World F) : Prop :=
  (w'.reg.job x = w.reg.job x ∧ w'.reg.toil x = w.reg.toil x ∧ w'.reg.needs x = w.reg.needs x) ∨
    w'.reg.job x = none

namespace Spared

variable {x : Entity} {w m w' : World F}

theorem refl (w : World F) : Spared x w w := .inl ⟨rfl, rfl, rfl⟩

theorem of_eq (same : w' = w) : Spared x w w' := by
  rw [same]
  exact .refl w

theorem of_same (job : w'.reg.job = w.reg.job) (toil : w'.reg.toil = w.reg.toil)
    (needs : w'.reg.needs = w.reg.needs) : Spared x w w' :=
  .inl ⟨congrFun job x, congrFun toil x, congrFun needs x⟩

theorem of_within {s : Scope} {e : Entity} (within : Within s e x w w')
    (spares : s.sparesWork = true) : Spared x w w' := by
  simp only [Scope.sparesWork, List.all_cons, List.all_nil, Bool.and_true, Bool.and_eq_true,
    Bool.not_eq_true'] at spares
  obtain ⟨job, toil, needs⟩ := spares
  exact .inl ⟨within.same .job job, within.same .toil toil, within.same .needs needs⟩

theorem of_body (same : w'.body x = w.body x) : Spared x w w' :=
  .inl ⟨congrArg Body.job same, congrArg Body.toil same, congrArg Body.needs same⟩

theorem trans (first : Spared x w m) (second : Spared x m w') : Spared x w w' := by
  rcases second with ⟨job, toil, needs⟩ | gone
  · rcases first with ⟨job', toil', needs'⟩ | gone
    · exact .inl ⟨job.trans job', toil.trans toil', needs.trans needs'⟩
    · exact .inr (job.trans gone)
  · exact .inr gone

theorem of_looksOn (looks : LooksOn x w w') : Spared x w w' := by
  rcases looks with same | lost | ⟨gone, -⟩
  · exact .of_body same
  · exact .inl ⟨congrArg Body.job lost, congrArg Body.toil lost, congrArg Body.needs lost⟩
  · exact .inr gone

theorem steady (spared : Spared x w w') : Steady x w w' := by
  intro committed
  rcases spared with ⟨job, toil, needs⟩ | gone
  · refine ⟨⟨?_, ?_, ?_⟩, job⟩
    · simpa [World.isEmployed, job] using committed.employed
    · simpa [toil] using committed.working
    · simpa [World.isResolving, needs] using committed.calm
  · have employed := committed.employed
    simp [World.isEmployed, gone] at employed

end Spared

namespace Steady

variable {x : Entity} {w m w' : World F}

theorem trans (first : Steady x w m) (second : Steady x m w') : Steady x w w' := by
  intro committed
  obtain ⟨between, job⟩ := second committed
  obtain ⟨before, job'⟩ := first between
  exact ⟨before, job.trans job'⟩

theorem of_toil (toil : ToilComp) (active : w'.reg.toil x = some toil)
    (off : toil.state ≠ .working) : Steady x w w' := by
  intro committed
  obtain ⟨other, same, working⟩ := committed.working
  obtain rfl := Option.some.inj (active.symm.trans same)
  exact absurd working off

theorem of_job (job : JobComp F) (has : w'.reg.job x = some job) (finished : job.isActive = false) :
    Steady x w w' := by
  intro committed
  have employed := committed.employed
  simp [World.isEmployed, has, finished] at employed

theorem of_crisis (resolving : w'.isResolving x = true) : Steady x w w' := by
  intro committed
  rw [committed.calm] at resolving
  cases resolving

theorem of_state (job : w'.reg.job x = w.reg.job x) (toil toil' : ToilComp)
    (before : w.reg.toil x = some toil) (after : w'.reg.toil x = some toil')
    (state : toil'.state = toil.state) (crisis : w'.isResolving x = w.isResolving x) :
    Steady x w w' := by
  intro committed
  refine ⟨⟨?_, ⟨toil, before, ?_⟩, crisis.symm.trans committed.calm⟩, job⟩
  · simpa [World.isEmployed, job] using committed.employed
  · obtain ⟨other, same, working⟩ := committed.working
    obtain rfl := Option.some.inj (after.symm.trans same)
    exact state.symm.trans working

end Steady

namespace World

variable (w w' : World F) (e x : Entity)

theorem destroy_spared : Spared x w { w with reg := w.reg.destroy e } := by
  have body := w.body_destroy e x
  by_cases self : x = e
  next =>
    rw [if_pos self] at body
    exact .inr (congrArg Body.job body)
  next =>
    rw [if_neg self] at body
    exact .of_body body

theorem create_spared : Spared x w { w with reg := w.reg.create } := by
  have body := w.body_create x
  by_cases self : x = w.reg.nextEntity
  next =>
    rw [if_pos self] at body
    exact .inr (congrArg Body.job body)
  next =>
    rw [if_neg self] at body
    exact .of_body body

theorem setNeeds_spared (needs : NeedsComp F) (other : x ≠ e) : Spared x w (w.setNeeds e needs) :=
  .of_body (by simp [body_setNeeds, other])

variable [Scalar F]

theorem updateEntityPosition_spared (x' z : F) : Spared x w (w.updateEntityPosition e x' z) := by
  obtain ⟨grid, location, moved⟩ := w.updateEntityPosition_eq e x' z
  rw [moved]
  exact .of_same rfl rfl rfl

theorem loginBind_spared (session : UInt32) (playerId playerName : String)
    (bound : w.loginBind session playerId playerName = some (e, w')) : Spared x w w' := by
  unfold loginBind at bound
  split at bound
  next =>
    simp only [loginNew, Registry.setPlayerTag, Option.bind_eq_bind, Option.bind_eq_some_iff]
      at bound
    obtain ⟨joined, ⟨tagged, checked, made⟩, stored⟩ := bound
    obtain ⟨-, rfl⟩ := Prod.mk.inj (Option.some.inj stored)
    obtain rfl := Option.some.inj made
    split at checked
    next =>
      obtain rfl := Option.some.inj checked
      exact (w.create_spared x).trans (.of_same rfl rfl rfl)
    next => cases checked
  next =>
    simp only [loginAgain, Option.bind_eq_bind, Option.bind_eq_some_iff] at bound
    obtain ⟨joined, ⟨old, -, made⟩, stored⟩ := bound
    obtain ⟨-, rfl⟩ := Prod.mk.inj (Option.some.inj stored)
    obtain rfl := Option.some.inj made
    exact .of_same rfl rfl rfl

theorem login_spared (session : UInt32) (playerId playerName : String)
    (logged : w.login session playerId playerName = some w') : Spared x w w' := by
  simp only [login, Option.bind_eq_bind, Option.bind_eq_some_iff] at logged
  obtain ⟨⟨e, bound⟩, found, loc, -, placed⟩ := logged
  obtain rfl := Option.some.inj placed
  exact (w.loginBind_spared bound e x session playerId playerName found).trans
    (bound.updateEntityPosition_spared e x _ _)

omit [Scalar F] in
theorem cleanupPlayer_spared : Spared x w (w.cleanupPlayer e) := by
  have abandoned : Spared x w (w.abandonDialogue e) :=
    .of_within (w.abandonDialogue_within e x e) rfl
  unfold cleanupPlayer
  split
  next => exact .refl w
  next =>
    split
    next => exact .refl w
    next =>
      exact (abandoned.trans (destroy_spared _ e x)).trans (.of_same rfl rfl rfl)

omit [Scalar F] in
theorem checkOccupant_spared : Spared x w (w.checkOccupant e) := by
  unfold checkOccupant
  repeat' split
  all_goals exact .of_same rfl rfl rfl

omit [Scalar F] in
theorem returnFurniture_spared (furniture : Entity)
    (returned : w.returnFurniture furniture = some w') : Spared x w w' := by
  have freed : Spared x w (w.setOccupiedBy furniture none) := .of_same rfl rfl rfl
  cases returnFurniture_cases returned with
  | gone => exact .refl w
  | freed => exact freed
  | demolished =>
      exact (freed.trans (destroy_spared _ furniture x)).trans (.of_same rfl rfl rfl)

omit [Scalar F] in
theorem resolveAffordance_steady (resolved : w.resolveAffordance e = some w') : Steady x w w' := by
  cases resolveAffordance_cases resolved with
  | keeps => exact (Spared.refl w).steady
  | frees needs furniture returned hasNeeds calm _ back =>
      have spared := w.returnFurniture_spared returned x furniture back
      by_cases self : x = e
      next =>
        subst self
        rcases spared with ⟨job, toil, -⟩ | gone
        · refine fun committed => ⟨⟨?_, ?_, ?_⟩, job⟩
          · simpa [isEmployed, setNeeds, job] using committed.employed
          · simpa [setNeeds, toil] using committed.working
          · simpa [isResolving, hasNeeds] using calm
        · have finished : Spared x w (returned.setNeeds x { needs with occupiedFurniture := none }) :=
            .inr gone
          exact finished.steady
      next => exact (spared.trans (returned.setNeeds_spared e x _ self)).steady

theorem survivalOverride_steady : Steady x w (w.survivalOverride e) := by
  obtain ⟨others, crisis, needs, own⟩ := w.survivalOverride_body e
  by_cases self : x = e
  next =>
    subst self
    have job : (w.survivalOverride x).reg.job x = w.reg.job x := congrArg Body.job own
    have toil : (w.survivalOverride x).reg.toil x = w.reg.toil x := congrArg Body.toil own
    refine fun committed => ⟨⟨?_, toil ▸ committed.working, crisis ▸ committed.calm⟩, job⟩
    simpa [isEmployed, job] using committed.employed
  next => exact (Spared.of_body (others x self)).steady

theorem busyAmbient_steady (deltaTime : F) : Steady x w (w.busyAmbient deltaTime e) := by
  obtain ⟨others, same | ⟨toil, action, velocity, tag, active, own⟩⟩ := w.busyAmbient_body e deltaTime
  · exact (Spared.of_eq same).steady
  · by_cases self : x = e
    next =>
      subst self
      have needs : (w.busyAmbient deltaTime x).reg.needs x = w.reg.needs x := congrArg Body.needs own
      refine .of_state (congrArg Body.job own) toil { toil with currentAction := action } active
        (congrArg Body.toil own) rfl ?_
      simp [isResolving, needs]
    next => exact (Spared.of_body (others x self)).steady

theorem systemDeath_steady : Steady x w (w.systemDeath e) := by
  obtain ⟨others, alive | ⟨toil, velocity, path, idle, own⟩⟩ := w.systemDeath_body e
  · exact (Spared.of_eq alive).steady
  · by_cases self : x = e
    next =>
      subst self
      intro committed
      obtain ⟨working, active, state⟩ := committed.working
      have rests := idle working ((congrArg Body.toil own).symm.trans active)
      rw [rests] at state
      cases state
    next => exact (Spared.of_body (others x self)).steady

end World

end MundusVivens
