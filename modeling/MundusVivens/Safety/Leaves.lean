import MundusVivens.Safety.Soundness
import MundusVivens.Shared.TreeTotal

set_option autoImplicit false

/-!
# The leaves run

A leaf reads components without asking for them. Each of them has what it reads: the NPC
has its own, a target is an NPC as well, and a seat is furniture.
-/

namespace MundusVivens

open Scalar BehaviorTree

variable {F : Type} [Scalar F]

-- What a visit of the tree of an NPC can rely on all the way through.
structure World.Fit (people : Entity → Prop) (e : Entity) (w : World F) : Prop where
  self : people e
  free : w.ledger.reason e = none
  matched : w.Matched
  sited : w.Sited
  resident : ∀ n, people n → w.Resident n
  able : ∀ n, people n → w.Able n
  named : ∀ n, people n → (w.reg.identity n).isSome = true
  mortal : ∀ x, (w.reg.health x).isSome = true → people x
  aimed : ∀ x t, (w.arms x).Aims t → people t

namespace World

variable {people : Entity → Prop} {e n : Entity} {w m w' : World F} {draw : BehaviorDraw}

theorem meleeAttack_ledger (status : NodeStatus)
    (ran : w.actionMeleeAttack e = some (status, w')) :
    w'.ledger = w.ledger ∨ ∃ target, w'.ledger = w.ledger.release [target] := by
  obtain ⟨loc, combat, job, toil, -, -, -, -, attacks⟩ := meleeAttack_cases ran
  cases attacks with
  | aimless => exact .inl rfl
  | chases =>
      refine .inl ?_
      unfold chase
      split <;> simp
  | waits => exact .inl (by simp [standAndFight_ledger])
  | strikes target targetLoc identity targetIdentity health aimed targetLocated near ready hurt struck =>
      exact .inr ⟨target, by rw [strike_ledger _ _ _ _ _ struck, standAndFight_ledger]⟩

theorem runLeaf_shown (leaf : SurvivalLeaf) (status : NodeStatus) (free : w.ledger.reason e = none)
    (resident : w.Resident n) (ran : runLeaf e draw leaf w = some (status, w')) :
    w'.ledger.reason e = none ∧ (w'.reg.activity n).isSome = (w.reg.activity n).isSome := by
  by_cases peaceful : isPeaceful leaf
  next =>
    have kept := runLeaf_kept leaf peaceful status free ran
    exact ⟨kept.free free, Ledger.kept_active kept n resident.valid w.reg.issued
      (by simp [ledger, resident.unfurnished])⟩
  next =>
    obtain rfl : leaf = .meleeAttack := by simpa [isPeaceful] using peaceful
    have active (same : w'.ledger.active = w.ledger.active) :
        (w'.reg.activity n).isSome = (w.reg.activity n).isSome := congrFun same n
    rcases meleeAttack_ledger status ran with same | ⟨target, freed⟩
    · exact ⟨by rw [same]; exact free, active (congrArg Ledger.active same)⟩
    · refine ⟨?_, active ((congrArg Ledger.active freed).trans rfl)⟩
      rw [freed]
      by_cases hit : e = target <;> simp [Ledger.release, hit, free]

theorem runLeaf_hurt (leaf : SurvivalLeaf) (status : NodeStatus) (resident : w.Resident n)
    (ran : runLeaf e draw leaf w = some (status, w')) (hurt : (w.reg.health n).isSome = true) :
    (w'.reg.health n).isSome = true := by
  rcases runLeaf_health w' draw leaf status n resident ran with same | ⟨-, strikes⟩
  · rw [same]
    exact hurt
  · obtain ⟨combat, -, -, -, -, health, -, blow⟩ := strikes.armed
    simp [blow]

theorem runLeaf_able (leaf : SurvivalLeaf) (status : NodeStatus) (free : w.ledger.reason e = none)
    (resident : w.Resident n) (able : w.Able n)
    (ran : runLeaf e draw leaf w = some (status, w')) : w'.Able n := by
  have within := runLeaf_within e n draw leaf status w w' resident ran
  constructor
  case needy => exact runLeaf_needy draw leaf status resident ran able.needy
  case equipped =>
    by_cases own : n = e
    next => exact own ▸ runLeaf_equipped leaf (own ▸ resident.valid) (own ▸ able.equipped) ran
    next =>
      have apart := within.others own
      exact able.equipped.within apart (by cases leaf <;> rfl) (by cases leaf <;> rfl)
  case shown => rw [(runLeaf_shown leaf status free resident ran).2]; exact able.shown
  case hurt => exact runLeaf_hurt leaf status resident ran able.hurt

theorem Fit.leaf (fit : Fit people e w) (leaf : SurvivalLeaf) (status : NodeStatus)
    (crisis : startsInCrisis e leaf w) (ran : runLeaf e draw leaf w = some (status, w')) :
    Fit people e w' := by
  have within (n : Entity) (among : people n) : Within leaf.scope e n w w' :=
    runLeaf_within e n draw leaf status w w' (fit.resident n among) ran
  have rouses := runLeaf_rouses draw leaf status ran
  constructor
  case self => exact fit.self
  case free => exact (runLeaf_shown leaf status fit.free (fit.resident e fit.self) ran).1
  case matched => exact runLeaf_matched draw leaf status w w' fit.matched crisis ran
  case sited => exact runLeaf_sited draw leaf status fit.sited ran
  case resident =>
    exact fun n among => (within n among).resident (by cases leaf <;> rfl) (fit.resident n among)
  case able =>
    exact fun n among => runLeaf_able leaf status fit.free (fit.resident n among)
      (fit.able n among) ran
  case named =>
    intro n among
    have same : w'.reg.identity n = w.reg.identity n :=
      (within n among).same .identity (by cases leaf <;> rfl)
    rw [same]
    exact fit.named n among
  case mortal => exact fun x hurt => fit.mortal x (rouses.mortal x hurt)
  case aimed =>
    intro x t aims
    rcases rouses.aimed x t aims with struck | alive | ⟨y, before⟩
    · exact Option.some.inj struck ▸ fit.self
    · exact fit.mortal t alive
    · exact fit.aimed y t before

structure Whole (w : World F) (e : Entity) : Prop where
  needs : ∃ needs, w.reg.needs e = some needs
  job : ∃ job, w.reg.job e = some job
  toil : ∃ toil, w.reg.toil e = some toil
  location : ∃ loc, w.reg.location e = some loc
  activity : ∃ activity, w.reg.activity e = some activity
  identity : ∃ identity, w.reg.identity e = some identity

omit [Scalar F] in
theorem Fit.whole (fit : Fit people e w) : w.Whole e where
  needs := Option.isSome_iff_exists.mp (fit.able e fit.self).needy
  job := Option.isSome_iff_exists.mp (fit.able e fit.self).equipped.1
  toil := Option.isSome_iff_exists.mp (fit.able e fit.self).equipped.2
  location := Option.isSome_iff_exists.mp (fit.sited e (fit.resident e fit.self).valid)
  activity := Option.isSome_iff_exists.mp (fit.able e fit.self).shown
  identity := Option.isSome_iff_exists.mp (fit.named e fit.self)

structure Mark (w : World F) (t : Entity) : Prop where
  location : ∃ loc, w.reg.location t = some loc
  health : ∃ health, w.reg.health t = some health
  identity : ∃ identity, w.reg.identity t = some identity

omit [Scalar F] in
theorem Fit.mark {x t : Entity} (fit : Fit people e w) (aims : (w.arms x).Aims t) : w.Mark t where
  location := Option.isSome_iff_exists.mp
    (fit.sited t (fit.resident t (fit.aimed x t aims)).valid)
  health := Option.isSome_iff_exists.mp (fit.able t (fit.aimed x t aims)).hurt
  identity := Option.isSome_iff_exists.mp (fit.named t (fit.aimed x t aims))

theorem inCrisis_total (crisis : Crisis F) (whole : w.Whole e) :
    ∃ status w', w.conditionInCrisis crisis e = some (status, w') := by
  obtain ⟨needs, needy⟩ := whole.needs
  obtain ⟨job, works⟩ := whole.job
  obtain ⟨toil, toils⟩ := whole.toil
  obtain ⟨identity, named⟩ := whole.identity
  simp only [conditionInCrisis, needy, Option.bind_eq_bind, Option.bind_some]
  split
  next => exact ⟨_, _, rfl⟩
  next =>
    split
    next =>
      simp only [enterCrisis, clearPath, eraseBusy, setNeeds, Registry.eraseBusy, named, works, toils,
        Option.bind_eq_bind, Option.bind_some]
      exact ⟨_, _, rfl⟩
    next => exact ⟨_, _, rfl⟩

omit [Scalar F] in
theorem isScheduled_total (crisis : Crisis F) (whole : w.Whole e) :
    ∃ status w', w.conditionIsScheduled crisis e = some (status, w') := by
  obtain ⟨needs, needy⟩ := whole.needs
  obtain ⟨job, works⟩ := whole.job
  obtain ⟨toil, toils⟩ := whole.toil
  obtain ⟨loc, stands⟩ := whole.location
  simp only [conditionIsScheduled, needy, works, toils, stands, Option.bind_eq_bind, Option.bind_some]
  repeat' split
  all_goals exact ⟨_, _, rfl⟩

theorem findFurniture_total (draw : BehaviorDraw) (whole : w.Whole e) :
    ∃ status w', w.actionFindFurniture e draw = some (status, w') := by
  obtain ⟨needs, needy⟩ := whole.needs
  obtain ⟨job, works⟩ := whole.job
  obtain ⟨toil, toils⟩ := whole.toil
  obtain ⟨loc, stands⟩ := whole.location
  obtain ⟨identity, named⟩ := whole.identity
  simp only [actionFindFurniture, needy, works, toils, stands, named, Option.bind_eq_bind,
    Option.bind_some]
  repeat' split
  all_goals exact ⟨_, _, rfl⟩

theorem moveToTarget_total (whole : w.Whole e) :
    ∃ status w', w.actionMoveToTarget e = some (status, w') := by
  obtain ⟨job, works⟩ := whole.job
  obtain ⟨toil, toils⟩ := whole.toil
  obtain ⟨loc, stands⟩ := whole.location
  obtain ⟨activity, shown⟩ := whole.activity
  simp only [actionMoveToTarget, works, toils, stands, shown, Option.bind_eq_bind, Option.bind_some]
  repeat' split
  all_goals exact ⟨_, _, rfl⟩

theorem wander_total (draw : BehaviorDraw) (whole : w.Whole e) :
    ∃ status w', w.actionWander e draw = some (status, w') := by
  obtain ⟨job, works⟩ := whole.job
  obtain ⟨toil, toils⟩ := whole.toil
  obtain ⟨loc, stands⟩ := whole.location
  obtain ⟨activity, shown⟩ := whole.activity
  obtain ⟨identity, named⟩ := whole.identity
  simp only [actionWander, works, toils, stands, shown, named, Option.bind_eq_bind, Option.bind_some]
  repeat' split
  all_goals exact ⟨_, _, rfl⟩

omit [Scalar F] in
theorem occupyFurniture_total {f : Entity} {needs : NeedsComp F} {loc : LocationComp F}
    {toil : ToilComp} (stands : ∃ aff, w.reg.affordance f = some aff)
    (located : ∃ place, w.reg.location f = some place) :
    ∃ w', w.occupyFurniture e needs loc toil f = some w' := by
  obtain ⟨aff, stands⟩ := stands
  obtain ⟨place, located⟩ := located
  simp [occupyFurniture, stands, located]

theorem spawnCamp_located (loc : LocationComp F) (name : String) (type : AffordanceType) :
    ∃ place, (w.spawnCamp loc name type).reg.location w.reg.nextEntity = some place := by
  refine Option.isSome_iff_exists.mp ?_
  unfold spawnCamp
  exact updateEntityPosition_located _ _ _ (by simp [setAffordance, setLocation])

theorem occupyPlace_total (w : World F) (e : Entity) (needs : NeedsComp F) (loc : LocationComp F)
    (toil : ToilComp) (rank : Entity → Nat) :
    ∃ w', w.occupyPlace e needs loc toil rank = some w' := by
  unfold occupyPlace
  dsimp only
  split
  next f found =>
    obtain ⟨aff, place, stands, located, -⟩ := serves_free needs loc rank f found
    exact occupyFurniture_total ⟨aff, stands⟩ ⟨place, located⟩
  next =>
    repeat' split
    next => exact occupyFurniture_total ⟨_, spawnCamp_affordance loc _ _⟩ (spawnCamp_located loc _ _)
    next => exact occupyFurniture_total ⟨_, spawnCamp_affordance loc _ _⟩ (spawnCamp_located loc _ _)
    next => exact ⟨_, rfl⟩

omit [Scalar F] in
theorem Matched.seat_stands (matched : w.Matched) {needs : NeedsComp F} {f : Entity}
    (needy : w.reg.needs e = some needs) (sits : needs.occupiedFurniture = some f) :
    ∃ aff, w.reg.affordance f = some aff := by
  obtain ⟨-, aff, stands, -⟩ := matched.served e needs.crisis f (by simp [fittings, needy]) sits
  exact ⟨aff, stands⟩

theorem interactFurniture_total (draw : BehaviorDraw) (matched : w.Matched) (whole : w.Whole e) :
    ∃ status w', w.actionInteractFurniture e draw = some (status, w') := by
  obtain ⟨needs, needy⟩ := whole.needs
  obtain ⟨job, works⟩ := whole.job
  obtain ⟨toil, toils⟩ := whole.toil
  obtain ⟨loc, stands⟩ := whole.location
  obtain ⟨activity, shown⟩ := whole.activity
  obtain ⟨identity, named⟩ := whole.identity
  have recovers : ∃ amount, w.recovery needs = some amount := by
    unfold recovery
    split
    next f sits =>
      obtain ⟨aff, furniture⟩ := matched.seat_stands needy sits
      exact ⟨_, by rw [furniture]; rfl⟩
    next => exact ⟨_, rfl⟩
  have leaves (charged : NeedsComp F) (same : charged.occupiedFurniture = needs.occupiedFurniture) :
      ∃ left, w.leaveFurniture charged = some left := by
    unfold leaveFurniture
    split
    next => exact ⟨_, rfl⟩
    next f sits =>
      obtain ⟨aff, furniture⟩ := matched.seat_stands needy (same ▸ sits)
      simp only [furniture, Option.bind_eq_bind, Option.bind_some]
      split <;> exact ⟨_, rfl⟩
  simp only [actionInteractFurniture, needy, works, toils, stands, shown, named, Option.bind_eq_bind,
    Option.bind_some]
  split
  next =>
    obtain ⟨sited, found⟩ := w.occupyPlace_total e needs loc toil draw.rank
    exact ⟨_, sited, by rw [found]; rfl⟩
  next =>
    obtain ⟨amount, recovered⟩ := recovers
    rw [recovered]
    simp only [Option.bind_some]
    split
    next =>
      obtain ⟨left, vacated⟩ := leaves (recharge needs amount) (by
        unfold recharge
        split <;> rfl)
      simp [resolveCrisis, vacated]
    next => exact ⟨_, _, rfl⟩

omit [Scalar F] in
theorem hasCombatTarget_armed (status : NodeStatus)
    (ran : w.conditionHasCombatTarget e = some (status, w')) :
    status = .success → ∃ combat, w'.reg.combat e = some combat := by
  cases hasCombatTarget_cases ran with
  | unarmed => intro succeeded; cases succeeded
  | buries => intro succeeded; cases succeeded
  | aims combat target armed => exact fun _ => ⟨combat, armed⟩

omit [Scalar F] in
theorem validTarget_aims {combat : CombatComp F} {t : Entity} (armed : w.reg.combat e = some combat)
    (target : w.validTarget combat = some t) : (w.arms e).Aims t := by
  unfold validTarget at target
  split at target
  next t' aim =>
    split at target
    next =>
      obtain rfl := Option.some.inj target
      exact aims_combat armed aim
    next => cases target
  next => cases target

theorem flee_total (draw : BehaviorDraw) (fit : Fit people e w)
    (armed : ∃ combat, w.reg.combat e = some combat) :
    ∃ status w', w.actionFlee e draw = some (status, w') := by
  obtain ⟨job, works⟩ := fit.whole.job
  obtain ⟨toil, toils⟩ := fit.whole.toil
  obtain ⟨loc, stands⟩ := fit.whole.location
  obtain ⟨activity, shown⟩ := fit.whole.activity
  obtain ⟨identity, named⟩ := fit.whole.identity
  obtain ⟨combat, armed⟩ := armed
  simp only [actionFlee, works, toils, stands, shown, named, armed, Option.bind_eq_bind,
    Option.bind_some]
  split
  next => exact ⟨_, _, rfl⟩
  next t target =>
    obtain ⟨place, located⟩ := (fit.mark (validTarget_aims armed target)).location
    simp only [located, Option.bind_some]
    split <;> exact ⟨_, _, rfl⟩

omit [Scalar F] in
theorem retaliate_armed (attacker target : Entity) (armed : (w.reg.combat e).isSome = true) :
    ((w.retaliate attacker target).reg.combat e).isSome = true := by
  unfold retaliate
  split
  next combat _ =>
    split
    next =>
      by_cases same : e = target
      next => simp [setCombat, same]
      next => simpa [setCombat, same] using armed
    next => exact armed
  next => exact armed

theorem strike_total (w : World F) (e target : Entity) (combat : CombatComp F)
    (identity targetIdentity : IdentityComp) (health : HealthComp F) :
    ∃ w', w.strike e target combat identity targetIdentity health = some w' := by
  unfold strike
  dsimp only
  split
  next =>
    have armed : ((w.landHit e target combat identity targetIdentity health).reg.combat e).isSome =
        true := by
      unfold landHit
      exact retaliate_armed e target (by simp [setActivity, setCombat, issue, eraseBusy,
        Registry.eraseBusy])
    obtain ⟨mine, armed⟩ := Option.isSome_iff_exists.mp armed
    simp [armed]
  next => exact ⟨_, rfl⟩

theorem meleeAttack_total (fit : Fit people e w) (armed : ∃ combat, w.reg.combat e = some combat) :
    ∃ status w', w.actionMeleeAttack e = some (status, w') := by
  obtain ⟨job, works⟩ := fit.whole.job
  obtain ⟨toil, toils⟩ := fit.whole.toil
  obtain ⟨loc, stands⟩ := fit.whole.location
  obtain ⟨activity, shown⟩ := fit.whole.activity
  obtain ⟨identity, named⟩ := fit.whole.identity
  obtain ⟨combat, armed⟩ := armed
  simp only [actionMeleeAttack, works, toils, stands, shown, named, armed, Option.bind_eq_bind,
    Option.bind_some]
  split
  next => exact ⟨_, _, rfl⟩
  next t target =>
    have mark := fit.mark (validTarget_aims armed target)
    obtain ⟨place, located⟩ := mark.location
    obtain ⟨health, hurt⟩ := mark.health
    obtain ⟨targetIdentity, known⟩ := mark.identity
    simp only [located, hurt, known, Option.bind_some]
    repeat' split
    next => exact ⟨_, _, rfl⟩
    next => exact ⟨_, _, rfl⟩
    next =>
      obtain ⟨struck, hit⟩ :=
        (w.standAndFight e toil).strike_total e t combat identity targetIdentity health
      rw [hit]
      exact ⟨_, struck, rfl⟩

theorem inhibitOrAttack_total (fit : Fit people e w) :
    ∃ status w', w.actionInhibitOrAttack e = some (status, w') := by
  obtain ⟨toil, toils⟩ := fit.whole.toil
  obtain ⟨activity, shown⟩ := fit.whole.activity
  obtain ⟨identity, named⟩ := fit.whole.identity
  unfold actionInhibitOrAttack
  split
  next => exact ⟨_, _, rfl⟩
  next aggro roused =>
    simp only [toils, shown, named, Option.bind_eq_bind, Option.bind_some]
    split
    next => exact ⟨_, _, rfl⟩
    next threat present =>
      obtain ⟨threatens, -⟩ := Option.filter_eq_some_iff.mp present
      obtain ⟨threatIdentity, known⟩ := (fit.mark (aims_aggro roused threatens)).identity
      simp only [known, Option.bind_some]
      repeat' split
      all_goals exact ⟨_, _, rfl⟩

-- The leaves that read neither the weapon nor the seat.
def isPlain (leaf : SurvivalLeaf) : Prop :=
  leaf ≠ .flee ∧ leaf ≠ .meleeAttack ∧ leaf ≠ .interactFurniture

theorem runLeaf_total (draw : BehaviorDraw) (leaf : SurvivalLeaf) (fit : Fit people e w)
    (armed : leaf = .flee ∨ leaf = .meleeAttack → ∃ combat, w.reg.combat e = some combat) :
    ∃ status w', runLeaf e draw leaf w = some (status, w') := by
  cases leaf with
  | hasCombatTarget =>
      simp only [runLeaf, conditionHasCombatTarget]
      repeat' split
      all_goals exact ⟨_, _, rfl⟩
  | isLowHealth =>
      simp only [runLeaf, conditionIsLowHealth]
      split <;> exact ⟨_, _, rfl⟩
  | flee => exact flee_total draw fit (armed (.inl rfl))
  | isAggroHigh =>
      simp only [runLeaf, conditionIsAggroHigh]
      repeat' split
      all_goals exact ⟨_, _, rfl⟩
  | inhibitOrAttack => exact inhibitOrAttack_total fit
  | meleeAttack => exact meleeAttack_total fit (armed (.inr rfl))
  | isHungry => exact inCrisis_total hungerCrisis fit.whole
  | isFatigued => exact inCrisis_total fatigueCrisis fit.whole
  | isScheduledEat => exact isScheduled_total hungerCrisis fit.whole
  | isScheduledSleep => exact isScheduled_total fatigueCrisis fit.whole
  | findFurniture => exact findFurniture_total draw fit.whole
  | moveToTarget => exact moveToTarget_total fit.whole
  | interactFurniture => exact interactFurniture_total draw fit.matched fit.whole
  | canWander =>
      simp only [runLeaf, conditionCanWander]
      split <;> exact ⟨_, _, rfl⟩
  | wander => exact wander_total draw fit.whole

theorem Fit.plain (draw : BehaviorDraw) (leaf : SurvivalLeaf) (plain : isPlain leaf) :
    TotalLeaf (runLeaf e draw) (Fit (F := F) people e) leaf := by
  intro w fit
  obtain ⟨status, w', ran⟩ := runLeaf_total draw leaf fit (by simp [plain.1, plain.2.1])
  exact ⟨status, w', ran, fit.leaf leaf status (fun same => absurd same plain.2.2) ran⟩

theorem plainSeq_total (draw : BehaviorDraw) (leaves : List SurvivalLeaf)
    (plain : ∀ leaf ∈ leaves, isPlain leaf) :
    Total (runLeaf e draw) (Fit (F := F) people e) (.sequence (leaves.map .leaf))
      fun _ => Fit people e :=
  .sequence_leaves leaves fun leaf member => Fit.plain draw leaf (plain leaf member)

theorem fightSeq_total (draw : BehaviorDraw) (checks : List SurvivalLeaf) (last : SurvivalLeaf)
    (pure : ∀ leaf ∈ checks, leaf = .isLowHealth) (apart : last ≠ .interactFurniture) :
    Total (runLeaf e draw) (Fit (F := F) people e)
      (.sequence (.leaf .hasCombatTarget :: checks.map .leaf ++ [.leaf last]))
      fun _ => Fit people e := by
  refine .sequence_cons (fun m => Fit people e m ∧ ∃ combat, m.reg.combat e = some combat) ?_ ?_
  · refine .leaf _ fun w fit => ?_
    obtain ⟨status, w', ran, kept⟩ := Fit.plain draw .hasCombatTarget (by simp [isPlain]) w fit
    refine ⟨status, w', ran, ?_⟩
    split
    next succeeded => exact ⟨kept, hasCombatTarget_armed status ran succeeded⟩
    next => exact kept
  · induction checks with
    | nil =>
        refine .sequence_cons (Fit people e) (.leaf _ fun w fit => ?_) (.sequence_nil fun _ fit => fit)
        obtain ⟨status, w', ran⟩ := runLeaf_total draw last fit.1 fun _ => fit.2
        exact ⟨status, w', ran, by simpa using fit.1.leaf last status (fun same => absurd same apart) ran⟩
    | cons leaf rest ih =>
        refine .sequence_cons _ ?_ (ih fun other member => pure other (by simp [member]))
        obtain rfl := pure leaf (by simp)
        refine .leaf _ fun w fit => ?_
        obtain ⟨status, w', ran, -⟩ := Fit.plain draw .isLowHealth (by simp [isPlain]) w fit.1
        obtain rfl := (w.isLowHealth_pure e w' status ran).1
        refine ⟨status, w', ran, ?_⟩
        split
        next => exact fit
        next => exact fit.1

theorem crisisSeq_total (draw : BehaviorDraw) (condition : SurvivalLeaf) (rest : List SurvivalLeaf)
    (plain : isPlain condition)
    (enters : ∀ w w' : World F, w.Resident e →
      runLeaf e draw condition w = some (.success, w') → w'.Resolves e)
    (travels : ∀ leaf ∈ rest, leaf = .findFurniture ∨ leaf = .moveToTarget) :
    Total (runLeaf e draw) (Fit (F := F) people e)
      (.sequence (.leaf condition :: rest.map .leaf ++ [.leaf .interactFurniture]))
      fun _ => Fit people e := by
  refine .sequence_cons (fun m => Fit people e m ∧ m.Resolves e) ?_ ?_
  · refine .leaf _ fun w fit => ?_
    obtain ⟨status, w', ran, kept⟩ := Fit.plain draw condition plain w fit
    refine ⟨status, w', ran, ?_⟩
    split
    next succeeded =>
      subst succeeded
      exact ⟨kept, enters w w' (fit.resident e fit.self) ran⟩
    next => exact kept
  · induction rest with
    | nil =>
        refine .sequence_cons (Fit people e) (.leaf _ fun w fit => ?_) (.sequence_nil fun _ fit => fit)
        obtain ⟨status, w', ran⟩ := runLeaf_total draw .interactFurniture fit.1 (by simp)
        exact ⟨status, w', ran, by simpa using fit.1.leaf _ status (fun _ => fit.2) ran⟩
    | cons leaf rest ih =>
        refine .sequence_cons _ ?_ (ih fun other member => travels other (by simp [member]))
        have travel := travels leaf (by simp)
        have walks : isPlain leaf := by rcases travel with rfl | rfl <;> simp [isPlain]
        refine .leaf _ fun w fit => ?_
        obtain ⟨status, w', ran, kept⟩ := Fit.plain draw leaf walks w fit.1
        have within := runLeaf_within e e draw leaf status w w' (fit.1.resident e fit.1.self) ran
        have carried : w'.Resolves e := by
          refine fit.2.within e within ?_ ?_
          all_goals rcases travel with rfl | rfl <;> rfl
        refine ⟨status, w', ran, ?_⟩
        split
        next => exact ⟨kept, carried⟩
        next => exact kept

theorem survivalTree_total (draw : BehaviorDraw) :
    Total (runLeaf e draw) (Fit (F := F) people e) survivalTree fun _ => Fit people e := by
  refine .selector_kept _ fun child member => ?_
  simp only [peacefulSeqs, List.mem_cons, List.not_mem_nil, or_false] at member
  rcases member with rfl | rfl | rfl | rfl | rfl | rfl | rfl | rfl
  · exact fightSeq_total draw [.isLowHealth] .flee (by simp) (by simp)
  · exact plainSeq_total draw [.isAggroHigh, .inhibitOrAttack] (by simp [isPlain])
  · exact fightSeq_total draw [] .meleeAttack (by simp) (by simp)
  · exact crisisSeq_total draw .isHungry [.findFurniture, .moveToTarget] (by simp [isPlain])
      (fun w w' => conditionInCrisis_enters e hungerCrisis (.inl rfl) w w') (by simp)
  · exact crisisSeq_total draw .isFatigued [.findFurniture, .moveToTarget] (by simp [isPlain])
      (fun w w' => conditionInCrisis_enters e fatigueCrisis (.inr rfl) w w') (by simp)
  · exact crisisSeq_total draw .isScheduledEat [] (by simp [isPlain])
      (fun w w' => conditionIsScheduled_enters e hungerCrisis (.inl rfl) w w') (by simp)
  · exact crisisSeq_total draw .isScheduledSleep [] (by simp [isPlain])
      (fun w w' => conditionIsScheduled_enters e fatigueCrisis (.inr rfl) w w') (by simp)
  · exact plainSeq_total draw [.canWander, .wander] (by simp [isPlain])

theorem Intact.fit (intact : w.Intact) (resident : w.Resident e) (free : w.reg.busy e = none) :
    Fit w.Resident e w where
  self := resident
  free := by simp [ledger, free]
  matched := intact.armed.matched
  sited := intact.sited
  resident := fun _ among => among
  able := intact.able
  named := fun n among => by
    have known := intact.peopled.named n among.valid
    simpa [ledger] using known
  mortal := intact.armed.mortal
  aimed := intact.armed.aimed

theorem behaviorTree_total (intact : w.Intact) (e : Entity) (draw : BehaviorDraw) :
    ∃ w', w.behaviorTree e draw = some w' := by
  unfold behaviorTree
  split
  next => exact ⟨_, rfl⟩
  next visits =>
    simp only [Bool.or_eq_true, not_or, Bool.not_eq_true, Option.isNone_eq_false_iff,
      Option.isSome_eq_false_iff] at visits
    obtain ⟨planted, free⟩ := visits
    obtain ⟨tree, planted⟩ := Option.isSome_iff_exists.mp planted
    have resident := intact.armed.matched.planted planted
    obtain ⟨status, w', ticked, -⟩ := survivalTree_total draw w
      (intact.fit resident (Option.isNone_iff_eq_none.mp free))
    exact ⟨w', by rw [ticked]; rfl⟩

end World

end MundusVivens
