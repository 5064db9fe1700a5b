import MundusVivens.Accounts.Binding
import MundusVivens.Safety.Soundness

set_option autoImplicit false

/-!
# Bystanders

A player is nothing to the simulation but a place: whatever it is sent and whatever the
AI server plans for it, it is not fought, feared, seated, talked about or moved.
-/

namespace MundusVivens

open Scalar Runs

variable {F : Type}

structure World.StandsBy (w : World F) (p : Entity) : Prop where
  resting : ¬ w.Striding p
  unhurt : w.reg.health p = none
  carefree : w.reg.needs p = none
  silent : w.reg.activity p = none
  treeless : w.reg.behaviorTree p = none
  unfought : ∀ n combat, w.reg.combat n = some combat → combat.targetEntity ≠ some p
  unfeared : ∀ n aggro, w.reg.aggro n = some aggro → aggro.threatEntity ≠ some p
  unseated : ∀ f affordance, w.reg.affordance f = some affordance → affordance.occupiedBy ≠ some p
  unpartnered : ∀ q dialogue, w.reg.playerDialogue q = some dialogue → dialogue.npcEntity ≠ some p
  uncalled : ∀ ticket call dialogue, w.grpc.calls ticket = some call →
    call.request.dialogueCall = some dialogue → p ∉ dialogue.npcs

theorem World.Ordered.standsBy [Scalar F] {w : World F} (ordered : w.Ordered) (p : Entity)
    (outsider : ¬ w.Resident p) : w.StandsBy p := by
  have matched := ordered.armed.matched
  have needless : w.reg.needs p = none := by
    cases needs : w.reg.needs p with
    | none => rfl
    | some known => exact absurd (matched.resident needs) outsider
  constructor
  case resting => exact fun strides => outsider (ordered.walkers p strides)
  case unhurt =>
    by_contra hurt
    exact outsider (ordered.armed.mortal p (Option.isSome_iff_ne_none.mpr hurt))
  case carefree => exact needless
  case silent =>
    by_contra acts
    have active : w.ledger.active p = true := Option.isSome_iff_ne_none.mpr acts
    exact outsider ((w.isNpc_ledger p).mp (ordered.peopled.acting p active))
  case treeless =>
    cases planted : w.reg.behaviorTree p with
    | none => rfl
    | some _ => exact absurd (matched.planted planted) outsider
  case unfought =>
    intro n combat armed aims
    exact outsider (ordered.armed.aimed n p (.inl ⟨combat, armed, aims⟩))
  case unfeared =>
    intro n aggro roused sees
    exact outsider (ordered.armed.aimed n p (.inr ⟨aggro, roused, sees⟩))
  case unseated =>
    intro f affordance stands occupied
    have seated : w.fittings.seat p = some f :=
      (matched.matched p f).mpr (by simp [Fittings.guest, World.fittings, stands, occupied])
    simp [World.seat_fittings, World.seatOf, needless] at seated
  case unpartnered =>
    intro q dialogue talks partner
    exact outsider ((w.isNpc_ledger p).mp (ordered.peopled.partners q dialogue p talks partner))
  case uncalled =>
    intro ticket call dialogue called asks member
    have pending : w.ledger.pending ticket = some dialogue := by
      simp [World.ledger, GrpcClient.pending, called, asks]
    exact outsider ((w.isNpc_ledger p).mp (ordered.peopled.parties ticket dialogue p pending member))

/-- In every run whoever has logged in stands by. -/
theorem players_stand_by [Scalar F] (data : WorldBootstrapData F) (settings : SimulationSettings F)
    (obstacles : Option (List Obstacle)) (draws : Nat → NeedsDraw F) (start w : World F)
    (past : List (Transition (World F) (Event F)))
    (booted : bootstrap data settings obstacles draws = some start) (run : ServerRun start past w)
    (p : Entity) (tag : PlayerTag) (tagged : w.reg.playerTag p = some tag) : w.StandsBy p := by
  have ordered := Reaches.ordered data settings obstacles draws booted ⟨past, run⟩
  refine ordered.standsBy p fun resident => ?_
  have untagged := resident.unplayed
  simp [tagged] at untagged

-- A player logs in, and the AI server sends it away.
def playerSent : List (Event ℚ) :=
  [.connect, .command (.login 1 "player" "Host"), .requestJobs,
    .respond 0 (.jobs true [⟨1, 1, "숲", 50, 0, 0, "순찰", 0, 1, 0⟩]), .drainTask fun _ => ⟨0, 0⟩,
    .jobDriver 1]

theorem players_stand_by_hamlet : ∃ past w, ServerRun hamlet past w ∧
    past.reverse.map (·.event) = playerSent ∧ (w.reg.job 1).isSome = true ∧ w.StandsBy 1 := by
  have passed : (followWhile step (fun _ _ => true) playerSent hamlet).any
      (fun w => (w.reg.job 1).isSome && decide (w.reg.playerTag 1 = some ⟨1⟩)) = true := by
    decide +kernel
  obtain ⟨past, w, run, -, events, sent⟩ := Run.exists_of_check _ _ _ passed
  simp only [Bool.and_eq_true, decide_eq_true_eq] at sent
  exact ⟨past, w, run, events, sent.1, players_stand_by hamletData ⟨2, 60⟩ (some []) _ hamlet w past
    hamlet_boots run 1 ⟨1⟩ sent.2⟩

end MundusVivens
