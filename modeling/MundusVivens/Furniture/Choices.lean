import MundusVivens.Walking.Positions

set_option autoImplicit false

/-!
# Choices of furniture

One node chooses the nearest piece for the target of the job, another ends the walk at the place of
that name, and a third one takes the first free piece of the zone. They agree only by luck.
-/

namespace MundusVivens

open Scalar BehaviorTree Runs LocationRegistry

variable {F : Type} [Scalar F]

namespace World

def seats (w : World F) (rank : Entity → Nat) : List Entity :=
  w.view rank fun e => (w.reg.affordance e).isSome && (w.reg.location e).isSome &&
    (w.reg.identity e).isSome

def fits (w : World F) (needs : NeedsComp F) (loc : LocationComp F) (furniture : Entity) : Bool :=
  match w.reg.affordance furniture, w.reg.location furniture with
  | some aff, some furnLoc =>
      decide (furnLoc.zoneId = loc.zoneId) && aff.occupiedBy.isNone &&
        serves needs.currentSurvivalType aff.type
  | _, _ => false

def AtTarget (w : World F) (job : JobComp F) (furniture : Entity) : Prop :=
  ∃ place, w.reg.location furniture = some place ∧
    place.x = job.targetX ∧ place.y = job.targetY ∧ place.z = job.targetZ

/-- If the entity looks for a seat and some piece fits, it has reached the target of its job by
distance, and a fitting piece away from the target comes after a fitting one at the target. -/
def ArrivesAtSeat (w : World F) (e : Entity) (rank : Entity → Nat) : Prop :=
  ∀ needs loc toil job, w.reg.needs e = some needs → w.reg.location e = some loc →
    w.reg.toil e = some toil → w.reg.job e = some job → (w.reg.identity e).isSome = true →
    (w.reg.activity e).isSome = true → seeksSeat needs toil = true →
    (∀ f ∈ w.seats rank, w.fits needs loc f = true →
      lt (hypot (job.targetX - loc.x) (job.targetZ - loc.z)) (lit 0.8) = true) ∧
    ∀ earlier f later, w.seats rank = earlier ++ f :: later → w.fits needs loc f = true →
      ¬w.AtTarget job f → ∃ g ∈ earlier, w.fits needs loc g = true ∧ w.AtTarget job g

/-- An existing piece that the furniture node occupies lies at the target of the job, within the
arrival distance of the entity. -/
def TakesTarget (w : World F) (e : Entity) (draw : BehaviorDraw) : Prop :=
  ∀ status w' f, w.actionInteractFurniture e draw = some (status, w') → w.seatOf e = none →
    w'.seatOf e = some f → w.reg.valid f = true →
    ∃ loc job place, w.reg.location e = some loc ∧ w.reg.job e = some job ∧
      w.reg.location f = some place ∧
      place.x = job.targetX ∧ place.y = job.targetY ∧ place.z = job.targetZ ∧
      lt (hypot (place.x - loc.x) (place.z - loc.z)) (lit 0.8) = true

def Nearby (loc loc' : LocationComp F) : Prop :=
  (loc'.x = loc.x ∧ loc'.z = loc.z) ∨
    lt (hypot (loc'.x - loc.x) (loc'.z - loc.z)) (lit 0.8) = true

variable {w w' : World F} {e : Entity} {draw : BehaviorDraw} {needs : NeedsComp F}
  {loc : LocationComp F} {toil : ToilComp} {rank : Entity → Nat}

omit [Scalar F] in
theorem freeFurniture_find :
    w.freeFurniture needs loc rank = (w.seats rank).find? (w.fits needs loc) := rfl

omit [Scalar F] in
theorem first_at_target_iff (job : JobComp F) :
    (∀ f, w.freeFurniture needs loc rank = some f → w.AtTarget job f) ↔
      ∀ earlier f later, w.seats rank = earlier ++ f :: later → w.fits needs loc f = true →
        ¬w.AtTarget job f → ∃ g ∈ earlier, w.fits needs loc g = true ∧ w.AtTarget job g := by
  rw [freeFurniture_find]
  constructor
  · intro first earlier f later split fitting elsewhere
    cases found : earlier.find? (w.fits needs loc) with
    | some g =>
        have whole : (w.seats rank).find? (w.fits needs loc) = some g := by
          rw [split, List.find?_append, found, Option.some_or]
        exact ⟨g, List.mem_of_find?_eq_some found, List.find?_some found, first g whole⟩
    | none =>
        have whole : (w.seats rank).find? (w.fits needs loc) = some f := by
          rw [split, List.find?_append, found, Option.none_or, List.find?_cons_of_pos fitting]
        exact absurd (first f whole) elsewhere
  · intro after f found
    obtain ⟨fitting, earlier, later, split, unfit⟩ := List.find?_eq_some_iff_append.mp found
    by_contra elsewhere
    obtain ⟨g, member, fits, -⟩ := after earlier f later split fitting elsewhere
    have excluded := unfit g member
    rw [fits] at excluded
    cases excluded

omit [Scalar F] in
theorem occupyFurniture_seat (f : Entity)
    (occupied : w.occupyFurniture e needs loc toil f = some w') : w'.seatOf e = some f := by
  rw [seatOf, occupyFurniture_seated occupied, Option.bind_some]

theorem interactFurniture_seat (status : NodeStatus) (f : Entity)
    (ran : w.actionInteractFurniture e draw = some (status, w')) (unseated : w.seatOf e = none)
    (seated : w'.seatOf e = some f) :
    ∃ needs loc toil job identity, Attends w e needs loc toil job identity ∧
      seeksSeat needs toil = true ∧
      (w.freeFurniture needs loc draw.rank = some f ∨ f = w.reg.nextEntity) := by
  obtain ⟨needs, loc, toil, job, identity, attends, acted⟩ := interactFurniture_cases ran
  have free : needs.occupiedFurniture = none := by simpa [seatOf, attends.needy] using unseated
  cases acted with
  | settles seeks settled =>
      refine ⟨needs, loc, toil, job, identity, attends, seeks, ?_⟩
      cases settled with
      | seat first found taken =>
          exact .inl (found.trans ((occupyFurniture_seat first taken).symm.trans seated))
      | camp name type full wild suits taken =>
          have same := (occupyFurniture_seat w.reg.nextEntity taken).symm.trans seated
          exact .inr (Option.some.inj same).symm
      | floor => simp [seatOf, settle, setActivity, setToil, attends.needy, free] at seated
  | recharges =>
      -- On the floor already: the recovery gives no seat.
      simp [seatOf, setNeeds, free] at seated
  | resolves => simp [seatOf, setActivity, setToil, setJob, issue, setNeeds] at seated

theorem takesTarget_iff : w.TakesTarget e draw ↔ w.ArrivesAtSeat e draw.rank := by
  constructor
  · intro takes needs loc toil job needy stands toils works named acts seeks
    have first (f : Entity) (found : w.freeFurniture needs loc draw.rank = some f) :
        w.AtTarget job f ∧ lt (hypot (job.targetX - loc.x) (job.targetZ - loc.z)) (lit 0.8) = true := by
      have member := (mem_view w draw.rank _ f).mp (List.mem_of_find?_eq_some found)
      obtain ⟨⟨affords, placed⟩, -⟩ := by simpa only [Bool.and_eq_true] using member.2.2
      obtain ⟨aff, affords⟩ := Option.isSome_iff_exists.mp affords
      obtain ⟨place, placed⟩ := Option.isSome_iff_exists.mp placed
      obtain ⟨w', occupied⟩ : ∃ w', w.occupyFurniture e needs loc toil f = some w' := by
        simp [occupyFurniture, affords, placed]
      have ran : w.actionInteractFurniture e draw = some (.running, w') := by
        obtain ⟨identity, named⟩ := Option.isSome_iff_exists.mp named
        rw [Attends.seeks ⟨needy, stands, toils, works, named, acts⟩ seeks, occupyPlace]
        simp only [found, occupied, Option.map_some]
      have unseated : w.seatOf e = none := by
        simp only [seeksSeat, Bool.and_eq_true, Option.isNone_iff_eq_none] at seeks
        simp [seatOf, needy, seeks.1.1]
      obtain ⟨loc', job', place', stands', works', placed', atX, atY, atZ, close⟩ :=
        takes .running w' f ran unseated (occupyFurniture_seat f occupied) member.2.1
      obtain rfl := Option.some.inj (stands.symm.trans stands')
      obtain rfl := Option.some.inj (works.symm.trans works')
      rw [atX, atZ] at close
      exact ⟨⟨place', placed', atX, atY, atZ⟩, close⟩
    refine ⟨fun f member fitting => ?_, (first_at_target_iff job).mp fun f found => (first f found).1⟩
    have some_fits : (w.freeFurniture needs loc draw.rank).isSome = true :=
      List.find?_isSome.mpr ⟨f, member, fitting⟩
    obtain ⟨g, found⟩ := Option.isSome_iff_exists.mp some_fits
    exact (first g found).2
  · intro arrives status w' f ran unseated seated existing
    obtain ⟨needs, loc, toil, job, identity, attends, seeks, found | rfl⟩ :=
      interactFurniture_seat status f ran unseated seated
    · obtain ⟨close, after⟩ := arrives needs loc toil job attends.needy attends.stands attends.toils
        attends.works (by simp [attends.named]) attends.acts seeks
      obtain ⟨place, placed, atX, atY, atZ⟩ := (first_at_target_iff job).mpr after f found
      refine ⟨loc, job, place, attends.stands, attends.works, placed, atX, atY, atZ, ?_⟩
      rw [atX, atZ]
      exact close f (List.mem_of_find?_eq_some found) (List.find?_some found)
    · rw [w.reg.issued _ (Nat.le_refl _)] at existing
      cases existing

theorem Nearby.refl (loc : LocationComp F) : Nearby loc loc := .inl ⟨rfl, rfl⟩

theorem interactFurniture_moves (status : NodeStatus) (resident : w.Resident e)
    (arrives : w.ArrivesAtSeat e draw.rank) (stands : w.reg.location e = some loc)
    (ran : w.actionInteractFurniture e draw = some (status, w')) :
    ∃ loc', w'.reg.location e = some loc' ∧ Nearby loc loc' := by
  obtain ⟨needs, here, toil, job, identity, attends, acted⟩ := interactFurniture_cases ran
  obtain rfl := Option.some.inj (stands.symm.trans attends.stands)
  cases acted with
  | settles seeks settled =>
      cases settled with
      | seat f found taken =>
          obtain ⟨close, after⟩ := arrives needs loc toil job attends.needy stands attends.toils
            attends.works (by simp [attends.named]) attends.acts seeks
          obtain ⟨place, there, atX, -, atZ⟩ := (first_at_target_iff job).mpr after f found
          obtain ⟨-, moved⟩ := occupyFurniture_places needs loc place toil f there taken
          refine ⟨_, (moved e).trans (if_pos rfl), .inr ?_⟩
          dsimp only
          rw [atX, atZ]
          exact close f (List.mem_of_find?_eq_some found) (List.find?_some found)
      | camp name type full wild suits taken =>
          obtain ⟨camp, there, atX, atZ⟩ := spawnCamp_location (w := w) loc name type
          obtain ⟨-, moved⟩ := occupyFurniture_places needs loc camp toil _ there taken
          exact ⟨_, (moved e).trans (if_pos rfl), .inl ⟨atX, atZ⟩⟩
      | floor => exact ⟨loc, stands, .refl loc⟩
  | recharges => exact ⟨loc, stands, .refl loc⟩
  | resolves amount left rests recovers full leaves =>
      have there := w.leaveFurniture_location left e _ resident leaves
      exact ⟨loc, there.trans stands, .refl loc⟩

theorem interactFurniture_unfailing (status : NodeStatus)
    (ran : w.actionInteractFurniture e draw = some (status, w')) : status ≠ .failure := by
  obtain ⟨needs, loc, toil, job, identity, -, acted⟩ := interactFurniture_cases ran
  cases acted <;> decide

structure Stays (home : Option (LocationComp F)) (e : Entity) (w : World F) : Prop where
  resident : w.Resident e
  located : w.reg.location e = home

variable {home : Option (LocationComp F)}

theorem Stays.leaf (stays : Stays home e w) (leaf : SurvivalLeaf) (status : NodeStatus)
    (other : leaf ≠ .interactFurniture) (ran : runLeaf e draw leaf w = some (status, w')) :
    Stays home e w' := by
  have still : leaf.scope.covers .location = false := by
    cases leaf <;> first | rfl | exact absurd rfl other
  have kept : w'.reg.location e = w.reg.location e :=
    (runLeaf_within e e draw leaf status w w' stays.resident ran).same .location still
  exact ⟨runLeaf_resident e draw leaf w status w' stays.resident ran, kept.trans stays.located⟩

theorem seatSeq_outline (before : List SurvivalLeaf) (others : .interactFurniture ∉ before) :
    Outline (runLeaf e draw) (fun _ => Stays home e) (Stays home e)
      (.sequence (before.map .leaf ++ [.leaf .interactFurniture]))
      fun status w => status = .failure → Stays home e w := by
  induction before with
  | nil =>
      refine Outline.sequence_cons (fun _ => True) ?_ (Outline.sequence_nil fun _ _ => nofun)
      refine Outline.leaf _ (fun _ stays => stays) fun w status w' stays ran => ?_
      split
      next => trivial
      next => exact fun failed => absurd failed (interactFurniture_unfailing status ran)
  | cons leaf rest ih =>
      have other : leaf ≠ .interactFurniture := by
        rintro rfl
        simp at others
      refine Outline.sequence_cons (Stays home e) ?_
        (ih fun member => others (List.mem_cons_of_mem _ member))
      refine Outline.leaf _ (fun _ stays => stays) fun w status w' stays ran => ?_
      have stayed := stays.leaf leaf status other ran
      split
      next => exact stayed
      next => exact fun _ => stayed

theorem survivalTree_stays :
    Outline (runLeaf e draw) (fun _ => Stays home e) (Stays home e) survivalTree
      fun status w => status = .failure → Stays home e w := by
  refine Outline.selector_tries _ fun child member => ?_
  have apart (node : Node SurvivalLeaf) (unseated : .interactFurniture ∉ leaves node) :
      Outline (runLeaf e draw) (fun _ => Stays home e) (Stays home e) node
        fun status w => status = .failure → Stays home e w := by
    refine (Outline.of_leaves (Stays home e) (fun _ _ _ stays => stays)
      fun l among w status w' stays ran => ?_).mono fun _ _ stays _ => stays
    exact stays.leaf l status (fun same => unseated (same ▸ among)) ran
  simp only [peacefulSeqs, List.mem_cons, List.not_mem_nil, or_false] at member
  rcases member with rfl | rfl | rfl | rfl | rfl | rfl | rfl | rfl
  case inr.inr.inr.inl => exact seatSeq_outline [.isHungry, .findFurniture, .moveToTarget] (by simp)
  case inr.inr.inr.inr.inl =>
    exact seatSeq_outline [.isFatigued, .findFurniture, .moveToTarget] (by simp)
  case inr.inr.inr.inr.inr.inl => exact seatSeq_outline [.isScheduledEat] (by simp)
  case inr.inr.inr.inr.inr.inr.inl => exact seatSeq_outline [.isScheduledSleep] (by simp)
  all_goals exact apart _ (by simp [leaves, leavesOf, fleeSeq, aggroSeq, combatSeq, wanderSeq])

/-- What a visit does about furniture and positions: every piece it occupies lies at the target
within the arrival distance, and nobody is moved farther than that. -/
structure VisitFits (w w' : World F) (e : Entity) (draw : BehaviorDraw) : Prop where
  takes : ∀ start ∈ w.visitStarts e draw, start.leaf = .interactFurniture →
    start.state.TakesTarget e draw
  near : ∀ n, w.isNpc n = true → ∀ loc, w.reg.location n = some loc →
    ∃ loc', w'.reg.location n = some loc' ∧ Nearby loc loc'

theorem visit_moves (matched : w.Matched) (visited : w.behaviorTree e draw = some w')
    (arrives : ∀ start ∈ w.visitStarts e draw, start.leaf = .interactFurniture →
      start.state.ArrivesAtSeat e draw.rank) (n : Entity) (npc : w.isNpc n = true)
    (stands : w.reg.location n = some loc) :
    ∃ loc', w'.reg.location n = some loc' ∧ Nearby loc loc' := by
  obtain ⟨needs, needy⟩ := Option.isSome_iff_exists.mp npc
  have resident : w.Resident n := matched.resident needy
  by_cases self : n = e
  next =>
    subst self
    by_cases planted : w.reg.behaviorTree n = some ()
    next =>
      have starts := w.visitStarts_outline n draw (@survivalTree_stays F _ n draw (w.reg.location n)) w'
        ⟨resident, rfl⟩ visited
      have moved := w.behaviorTree_history n draw
        (fun _ m => ∃ loc', m.reg.location n = some loc' ∧ Nearby loc loc')
        (fun leaf m => Stays (w.reg.location n) n m ∧
          (leaf = .interactFurniture → m.ArrivesAtSeat n draw.rank))
        w' ⟨loc, stands, .refl loc⟩ (fun _ => resident)
        (fun _ leaf m status m' _ _ allowed ran => by
          obtain ⟨stays, arrives⟩ := allowed
          by_cases sits : leaf = .interactFurniture
          next =>
            subst sits
            exact interactFurniture_moves status stays.resident (arrives rfl)
              (stays.located.trans stands) ran
          next => exact ⟨loc, (stays.leaf leaf status sits ran).located.trans stands, .refl loc⟩)
        visited fun start member => ⟨starts start member, arrives start member⟩
      exact moved
    next =>
      have bare := isNone_tree planted
      obtain rfl : w = w' := by simpa [behaviorTree, bare] using visited
      exact ⟨loc, stands, .refl loc⟩
  next =>
    have within := (w.behaviorTree_within w' e n draw resident visited).others self
    have kept : w'.reg.location n = w.reg.location n := within.same .location rfl
    exact ⟨loc, kept.trans stands, .refl loc⟩

end World

/-- In every run a visit occupies the piece at the target of the job, within the arrival distance,
and moves nobody farther, exactly if its NPC arrives at its seat whenever it looks for one. -/
theorem visit_fits_iff (data : WorldBootstrapData F) (settings : SimulationSettings F)
    (obstacles : Option (List Obstacle)) (draws : Nat → NeedsDraw F) (start w : World F)
    (past : List (Transition (World F) (Event F)))
    (booted : bootstrap data settings obstacles draws = some start) (run : ServerRun start past w)
    (t : Transition (World F) (Event F)) (taken : t ∈ past) (e : Entity) (draw : BehaviorDraw)
    (visits : t.event = .behaviorTree e draw) :
    World.VisitFits t.before t.after e draw ↔
      ∀ start ∈ t.before.visitStarts e draw, start.leaf = .interactFurniture →
        start.state.ArrivesAtSeat e draw.rank := by
  obtain ⟨later, earlier, -, before, stepped⟩ := run.taken t taken
  have matched : t.before.Matched := reachable_matched start t.before earlier
    (bootstrap_matched data settings obstacles draws start booted) before
  rw [visits] at stepped
  constructor
  · exact fun fits start member sits => World.takesTarget_iff.mp (fits.takes start member sits)
  · intro arrives
    exact ⟨fun start member sits => World.takesTarget_iff.mpr (arrives start member sits),
      fun n npc loc stands => World.visit_moves matched stepped arrives n npc stands⟩

-- Ella walks to the near table and is put onto the far one.
theorem far_table_is_taken : ∃ last, step (.behaviorTree 2 ⟨fun f => 9 - f, id⟩) glade = some last ∧
    last.seatOf 2 = some 1 ∧ (last.reg.job 2).map (fun job => (job.targetX, job.targetZ)) =
      some (41, 40) ∧
    (last.reg.location 2).map (fun loc => (loc.x, loc.z)) = some (500, 500) ∧
    ¬World.VisitFits glade last 2 ⟨fun f => 9 - f, id⟩ := by
  have passed : (step (.behaviorTree 2 ⟨fun f => 9 - f, id⟩) glade).any (fun w =>
      w.seatOf 2 = some 1 &&
        (w.reg.job 2).map (fun job => (job.targetX, job.targetZ)) = some (41, 40) &&
        (w.reg.location 2).map (fun loc => (loc.x, loc.z)) = some (500, 500)) = true := by
    decide +kernel
  obtain ⟨last, stepped, checked⟩ := (Option.any_eq_true _ _).mp passed
  simp only [Bool.and_eq_true, decide_eq_true_eq] at checked
  obtain ⟨⟨seated, aimed⟩, moved⟩ := checked
  refine ⟨last, stepped, seated, aimed, moved, fun fits => ?_⟩
  have stood : (glade.reg.location 2).map (fun loc => (loc.x, loc.z)) = some (40, 40) := by
    decide +kernel
  obtain ⟨loc, stands, at_start⟩ := Option.map_eq_some_iff.mp stood
  obtain ⟨loc', stands', near⟩ := fits.near 2 (by decide +kernel) loc stands
  rw [stands', Option.map_some] at moved
  obtain ⟨atX, atZ⟩ := Prod.mk.inj (Option.some.inj moved)
  obtain ⟨fromX, fromZ⟩ := Prod.mk.inj at_start
  unfold World.Nearby at near
  rw [atX, atZ, fromX, fromZ] at near
  exact absurd near (by decide +kernel)

def nookData : WorldBootstrapData ℚ :=
  { gladeData with furniture := [⟨"돌 식탁", 3, "Wilderness", 81 / 2, 0, 40, false⟩] }

def nook : World ℚ := populate (emptyWorld nookData ⟨2, 60⟩ (some [])) nookData fun _ => ⟨10, 100⟩

theorem nook_boots : bootstrap nookData ⟨2, 60⟩ (some []) (fun _ => ⟨10, 100⟩) = some nook := by
  rw [bootstrap, if_neg (by decide), if_neg (by decide +kernel)]
  rfl

def World.arrivesAtOnly (w : World ℚ) (e : Entity) (rank : Entity → Nat) : Bool :=
  ((w.reg.needs e).bind fun needs => (w.reg.location e).bind fun loc =>
    (w.reg.job e).map fun job => (w.seats rank).all fun f => !w.fits needs loc f ||
      (lt (hypot (job.targetX - loc.x) (job.targetZ - loc.z)) (lit 0.8) &&
        (w.reg.location f).any fun place =>
          place.x = job.targetX && place.y = job.targetY && place.z = job.targetZ)).getD true

theorem World.arrivesAtSeat_of_check (w : World ℚ) (e : Entity) (rank : Entity → Nat)
    (checked : w.arrivesAtOnly e rank = true) : w.ArrivesAtSeat e rank := by
  intro needs loc toil job needy stands _ works _ _ _
  simp only [arrivesAtOnly, needy, stands, works, Option.bind_some, Option.map_some,
    Option.getD_some, List.all_eq_true] at checked
  have each (f : Entity) (member : f ∈ w.seats rank) (fitting : w.fits needs loc f = true) :
      lt (hypot (job.targetX - loc.x) (job.targetZ - loc.z)) (lit 0.8) = true ∧
        w.AtTarget job f := by
    have here := checked f member
    rw [fitting, Bool.not_true, Bool.false_or, Bool.and_eq_true] at here
    obtain ⟨close, placed⟩ := here
    obtain ⟨place, there, same⟩ := (Option.any_eq_true _ _).mp placed
    simp only [Bool.and_eq_true, decide_eq_true_eq] at same
    exact ⟨close, place, there, same.1.1, same.1.2, same.2⟩
  refine ⟨fun f member fitting => (each f member fitting).1, ?_⟩
  intro earlier f later split fitting elsewhere
  exact absurd (each f (by simp [split]) fitting).2 elsewhere

-- Ella takes the table she went to.
theorem visit_fits_iff_nook : ∃ last,
    step (.behaviorTree 1 ⟨id, id⟩) nook = some last ∧ last.seatOf 1 = some 0 ∧
      World.VisitFits nook last 1 ⟨id, id⟩ := by
  have passed : (step (.behaviorTree 1 ⟨id, id⟩) nook).any (fun w => w.seatOf 1 = some 0) = true := by
    decide +kernel
  obtain ⟨last, stepped, seated⟩ := (Option.any_eq_true _ _).mp passed
  have arrives : (nook.visitStarts 1 ⟨id, id⟩).all (fun start =>
      start.leaf ≠ .interactFurniture || start.state.arrivesAtOnly 1 id) = true := by decide +kernel
  have fits := visit_fits_iff nookData ⟨2, 60⟩ (some []) (fun _ => ⟨10, 100⟩) nook last
    [⟨nook, .behaviorTree 1 ⟨id, id⟩, last⟩] nook_boots (.next .rest stepped) _
    List.mem_cons_self 1 ⟨id, id⟩ rfl
  refine ⟨last, stepped, by simpa using seated, fits.mpr fun start member sits => ?_⟩
  have here := List.all_eq_true.mp arrives start member
  exact start.state.arrivesAtSeat_of_check 1 id (by simpa [sits] using here)

end MundusVivens
