import MundusVivens.Furniture.Npcs
import MundusVivens.Walking.Sight
import MundusVivens.World.Places

set_option autoImplicit false

/-!
# Positions

Everything that moves an entity tells the registry, except for an NPC that takes a
seat: it is put onto the furniture and stays where it was on the grid.
-/

namespace MundusVivens

open Scalar BehaviorTree Runs LocationRegistry

variable {F : Type} [Scalar F]

namespace World

variable {w w' : World F} {e : Entity}

theorem follows_within {s : Scope} {actor : Entity} (follows : w.Follows)
    (within : ∀ x, Within s actor x w w') (still : s.covers .location = false)
    (apart : s.covers .grid = false) : w'.Follows :=
  follows.of_same ((within 0).same .grid apart) fun x => (within x).same .location still

theorem login_follows (sessionIndex : UInt32) (playerId playerName : String) (follows : w.Follows)
    (logged : w.login sessionIndex playerId playerName = some w') : w'.Follows := by
  simp only [login, Option.bind_eq_bind, Option.bind_eq_some_iff] at logged
  obtain ⟨⟨player, bound⟩, binds, loc, stands, stored⟩ := logged
  obtain rfl := Option.some.inj stored
  unfold loginBind at binds
  split at binds
  next =>
    simp only [Option.bind_eq_bind, Option.bind_eq_some_iff] at binds
    obtain ⟨made, created, stored⟩ := binds
    obtain ⟨rfl, rfl⟩ := Prod.mk.inj (Option.some.inj stored)
    have others (y : Entity) (other : y ≠ w.reg.nextEntity) :
        made.reg.location y = w.reg.location y :=
      (w.loginNew_within made 0 y sessionIndex playerId playerName other created).same .location rfl
    have grid : made.grid = w.grid := by
      simp only [loginNew, Option.bind_eq_bind, Option.bind_eq_some_iff] at created
      obtain ⟨tagged, -, stored⟩ := created
      obtain rfl := Option.some.inj stored
      rfl
    have located : (made.reg.location w.reg.nextEntity).isSome = true :=
      Option.isSome_iff_exists.mpr ⟨loc, stands⟩
    exact updateEntityPosition_follows w made _ _ _ follows grid located others
  next =>
    simp only [Option.bind_eq_bind, Option.bind_eq_some_iff] at binds
    obtain ⟨made, again, stored⟩ := binds
    obtain ⟨rfl, rfl⟩ := Prod.mk.inj (Option.some.inj stored)
    simp only [loginAgain, Option.bind_eq_bind, Option.bind_eq_some_iff] at again
    obtain ⟨old, -, stored⟩ := again
    obtain rfl := Option.some.inj stored
    exact updateEntityPosition_follows w _ _ _ _ follows rfl
      (Option.isSome_iff_exists.mpr ⟨loc, stands⟩) fun _ _ => rfl

theorem movePlayer_follows (sessionIndex : UInt32) (x y z : F) (follows : w.Follows)
    (moved : w.movePlayer sessionIndex x y z = some w') : w'.Follows := by
  unfold movePlayer at moved
  split at moved
  next =>
    obtain rfl := Option.some.inj moved
    exact follows
  next player _ =>
    simp only [Option.bind_eq_bind, Option.bind_eq_some_iff] at moved
    obtain ⟨loc, -, identity, -, stored⟩ := moved
    obtain rfl := Option.some.inj stored
    exact updateEntityPosition_follows w _ player x z follows rfl (by simp [setLocation])
      fun y other => by simp [setLocation, other]

theorem startTalk_grid (player npc : Entity) (npcId : UInt32)
    (started : w.startTalk player npc npcId = some w') : w'.grid = w.grid := by
  obtain ⟨identity, first, both, -, npcTagged, tagged, rfl⟩ := startTalk_cases started
  obtain ⟨-, _, rfl⟩ := setBusy_cases npcTagged
  obtain ⟨-, _, rfl⟩ := setBusy_cases tagged
  rfl

theorem talkToNpc_grid (sessionIndex npcId : UInt32)
    (talked : w.talkToNpc sessionIndex npcId = some w') : w'.grid = w.grid := by
  cases talkToNpc_cases talked with
  | ignored => rfl
  | begins _ player npc _ _ _ _ _ started => exact startTalk_grid player npc npcId started

theorem talkToNpc_follows (sessionIndex npcId : UInt32) (follows : w.Follows)
    (talked : w.talkToNpc sessionIndex npcId = some w') : w'.Follows :=
  follows.of_same (talkToNpc_grid sessionIndex npcId talked) fun x =>
    (w.talkToNpc_within w' 0 x sessionIndex npcId talked).same .location rfl

omit [Scalar F] in
theorem abandonDialogue_places (player : Entity) :
    (w.abandonDialogue player).grid = w.grid ∧
      ∀ y, (w.abandonDialogue player).reg.location y = w.reg.location y := by
  have within (x : Entity) := w.abandonDialogue_within 0 x player
  exact ⟨(within 0).same .grid rfl, fun y => (within y).same .location rfl⟩

theorem cleanupPlayer_follows (player : Entity) (follows : w.Follows) :
    (w.cleanupPlayer player).Follows := by
  unfold cleanupPlayer
  split
  next => exact follows
  next tag _ =>
    split
    next => exact follows
    next =>
      obtain ⟨grid, location⟩ := w.abandonDialogue_places player
      have elsewhere (y : Entity) (other : y ≠ player) :
          (w.removePlayer player tag).reg.location y = w.reg.location y := by
        simp [removePlayer, Registry.destroy, other, location]
      have removed := removeEntity_follows w.grid w.reg.location
        (w.removePlayer player tag).reg.location player follows elsewhere
      by_cases located : (w.reg.location player).isSome = true
      next => simpa [Follows, removePlayer, grid, located] using removed
      next =>
        -- A player without a position is not on the grid.
        have absent : w.grid.entityToCell player = none := by
          by_contra recorded
          obtain ⟨cell, recorded⟩ := Option.ne_none_iff_exists'.mp recorded
          obtain ⟨loc, stands, -⟩ := follows.inStep player cell recorded
          simp [stands] at located
        simpa [Follows, removePlayer, grid, located, removeEntity, absent] using removed

theorem movement_follows (follows : w.Follows) (moved : w.movement e = some w') : w'.Follows := by
  refine movement_preserves Follows (fun {m _} write follows => ?_) moved follows
  cases write with
  | step x z located =>
      exact updateEntityPosition_follows m m e x z follows rfl located fun _ _ => rfl
  | put loc =>
      exact updateEntityPosition_follows m (m.setLocation e loc) e loc.x loc.z follows rfl
        (by simp [setLocation]) fun y other => by simp [setLocation, other]
  | velocity | path | toil | activity => exact follows

theorem spawnCamp_location (loc : LocationComp F) (name : String) (type : AffordanceType) :
    ∃ campLoc, (w.spawnCamp loc name type).reg.location w.reg.nextEntity = some campLoc ∧
      campLoc.x = loc.x ∧ campLoc.z = loc.z := by
  have placed (m : World F) (camp : Entity) (x z : F) (here : LocationComp F)
      (stands : m.reg.location camp = some here) :
      ∃ campLoc, (m.updateEntityPosition camp x z).reg.location camp = some campLoc ∧
        campLoc.x = x ∧ campLoc.z = z := by
    refine ⟨((m.grid.moveToCell camp x z).resolveZone x z here).2, ?_, rfl, rfl⟩
    simp [updateEntityPosition, LocationRegistry.updateEntityPosition, stands, setLocation]
  refine placed _ _ loc.x loc.z
    { newLocation loc.locationName loc.x loc.y loc.z with zoneId := loc.zoneId } ?_
  simp [setAffordance, setLocation]

theorem spawnCamp_follows (loc : LocationComp F) (name : String) (type : AffordanceType)
    (follows : w.Follows) : (w.spawnCamp loc name type).Follows := by
  unfold spawnCamp
  refine updateEntityPosition_follows w _ w.reg.nextEntity loc.x loc.z follows rfl ?_
    fun y other => ?_
  · simp [setAffordance, setLocation]
  · simp [setAffordance, setLocation, setIdentity, Registry.create, Registry.destroy, other]

omit [Scalar F] in
theorem occupyFurniture_grid (needs : NeedsComp F) (loc : LocationComp F) (toil : ToilComp)
    (f : Entity) (occupied : w.occupyFurniture e needs loc toil f = some w') : w'.grid = w.grid := by
  obtain ⟨aff, place, -, -, rfl⟩ := occupyFurniture_eq occupied
  simp only [settle, setActivity, setToil, setLocation, setNeeds, setOccupiedBy]

omit [Scalar F] in
theorem occupyFurniture_places (needs : NeedsComp F) (loc furnLoc : LocationComp F)
    (toil : ToilComp) (f : Entity) (placed : w.reg.location f = some furnLoc)
    (occupied : w.occupyFurniture e needs loc toil f = some w') :
    w'.grid = w.grid ∧ ∀ y, w'.reg.location y =
      if y = e then some { loc with x := furnLoc.x, y := furnLoc.y, z := furnLoc.z }
      else w.reg.location y := by
  refine ⟨occupyFurniture_grid needs loc toil f occupied, fun y => ?_⟩
  obtain ⟨aff, place, -, there, rfl⟩ := occupyFurniture_eq occupied
  obtain rfl := Option.some.inj (placed.symm.trans there)
  by_cases self : y = e <;>
    simp [settle, setActivity, setToil, setLocation, setNeeds, setOccupiedBy, self]

theorem occupyFurniture_follows (needs : NeedsComp F) (loc furnLoc : LocationComp F)
    (toil : ToilComp) (f : Entity) (follows : w.Follows) (stands : w.reg.location e = some loc)
    (placed : w.reg.location f = some furnLoc)
    (occupied : w.occupyFurniture e needs loc toil f = some w') :
    w'.Follows ↔ ((w.grid.entityToCell e).isSome = true →
      getCellKey furnLoc.x furnLoc.z = getCellKey loc.x loc.z ∧
        w.grid.getLocationNameAt furnLoc.x furnLoc.z = w.grid.getLocationNameAt loc.x loc.z) := by
  obtain ⟨grid, location⟩ := occupyFurniture_places needs loc furnLoc toil f placed occupied
  rw [Follows, grid]
  constructor
  · intro after registered
    obtain ⟨cell, recorded⟩ := Option.isSome_iff_exists.mp registered
    obtain ⟨here, same, inCell, name⟩ := follows.inStep e cell recorded
    obtain ⟨moved, sits, inCell', name'⟩ := after.inStep e cell recorded
    obtain rfl := Option.some.inj (stands.symm.trans same)
    rw [location, if_pos rfl] at sits
    obtain rfl := Option.some.inj sits
    exact ⟨inCell'.symm.trans inCell, name'.symm.trans name⟩
  · intro near
    refine ⟨follows.named, fun y cell recorded => ?_⟩
    obtain ⟨here, same, inCell, name⟩ := follows.inStep y cell recorded
    by_cases self : y = e
    next =>
      subst self
      obtain ⟨cells, names⟩ := near (by simp [recorded])
      obtain rfl := Option.some.inj (stands.symm.trans same)
      refine ⟨{ loc with x := furnLoc.x, y := furnLoc.y, z := furnLoc.z }, ?_,
        inCell.trans cells.symm, name.trans names.symm⟩
      rw [location, if_pos rfl]
    next => exact ⟨here, by rw [location, if_neg self, same], inCell, name⟩

theorem leaveFurniture_follows (needs : NeedsComp F) (follows : w.Follows)
    (left : w.Leaves needs w') : w'.Follows := by
  cases left with
  | floor => exact follows
  | seat => exact follows
  | camp f =>
      exact removeEntity_follows w.grid w.reg.location _ f follows fun y other => by
        simp [Registry.destroy, setOccupiedBy, other]

/-- The first free piece that serves the NPC in its zone is in its cell and at its place. -/
def SeatAtHand (w : World F) (e : Entity) (rank : Entity → Nat) : Prop :=
  ∀ needs loc toil f furnLoc, w.reg.needs e = some needs → w.reg.location e = some loc →
    w.reg.toil e = some toil → seeksSeat needs toil = true →
    w.freeFurniture needs loc rank = some f → w.reg.location f = some furnLoc →
    getCellKey furnLoc.x furnLoc.z = getCellKey loc.x loc.z ∧
      w.grid.getLocationNameAt furnLoc.x furnLoc.z = w.grid.getLocationNameAt loc.x loc.z

omit [Scalar F] in
theorem freeFurniture_location (needs : NeedsComp F) (loc : LocationComp F) (rank : Entity → Nat)
    (f : Entity) (free : w.freeFurniture needs loc rank = some f) :
    ∃ furnLoc, w.reg.location f = some furnLoc := by
  have visible := List.mem_of_find?_eq_some free
  have complete := ((mem_view w rank _ f).mp visible).2.2
  simp only [Bool.and_eq_true] at complete
  exact Option.isSome_iff_exists.mp complete.1.2

theorem occupyCamp_follows (needs : NeedsComp F) (loc : LocationComp F) (toil : ToilComp)
    (name : String) (type : AffordanceType) (follows : w.Follows) (valid : w.reg.valid e = true)
    (stands : w.reg.location e = some loc)
    (occupied : (w.spawnCamp loc name type).occupyFurniture e needs loc toil w.reg.nextEntity =
      some w') : w'.Follows := by
  have camped := spawnCamp_follows loc name type follows
  have within := w.spawnCamp_within e e ⟨[], [.handles, .grid]⟩ loc name type valid (by simp)
    (by simp)
  have kept : (w.spawnCamp loc name type).reg.location e = w.reg.location e := within.same .location rfl
  obtain ⟨campLoc, placed, atX, atZ⟩ := spawnCamp_location (w := w) loc name type
  refine (occupyFurniture_follows needs loc campLoc toil _ camped (kept.trans stands) placed
    occupied).mpr fun _ => ?_
  rw [atX, atZ]
  exact ⟨rfl, rfl⟩

theorem interactFurniture_follows (draw : BehaviorDraw) (status : NodeStatus) (follows : w.Follows)
    (valid : w.reg.valid e = true) (atHand : w.SeatAtHand e draw.rank)
    (ran : w.actionInteractFurniture e draw = some (status, w')) : w'.Follows := by
  obtain ⟨needs, loc, toil, job, identity, attends, acted⟩ := interactFurniture_cases ran
  cases acted with
  | settles seeks settled =>
      cases settled with
      | seat f found taken =>
          obtain ⟨place, there⟩ := freeFurniture_location needs loc draw.rank f found
          exact (occupyFurniture_follows needs loc place toil f follows attends.stands there
            taken).mpr fun _ => atHand needs loc toil f place attends.needy attends.stands
              attends.toils seeks found there
      | camp name type full wild suits taken =>
          exact occupyCamp_follows needs loc toil name type follows valid attends.stands taken
      | floor => exact follows
  | recharges => exact follows
  | resolves amount left rests recovers full leaves =>
      exact (leaveFurniture_follows _ follows leaves).of_same rfl fun _ => rfl

theorem findFurniture_follows (draw : BehaviorDraw) (status : NodeStatus) (follows : w.Follows)
    (ran : w.actionFindFurniture e draw = some (status, w')) : w'.Follows := by
  obtain ⟨-, needs, job, loc, toil, -, -, -, -, searches⟩ := findFurniture_cases ran
  cases searches with
  | keeps => exact follows
  | aims => exact follows
  | camps name type => exact (spawnCamp_follows loc name type follows).of_same rfl fun _ => rfl
  | stays => exact follows

theorem runLeaf_follows (draw : BehaviorDraw) (leaf : SurvivalLeaf) (status : NodeStatus)
    (w w' : World F) (follows : w.Follows) (starts : startsInCrisis e leaf w)
    (atHand : leaf = .interactFurniture → w.SeatAtHand e draw.rank)
    (ran : runLeaf e draw leaf w = some (status, w')) : w'.Follows := by
  have apart (searches : leaf ≠ .findFurniture) (interacts : leaf ≠ .interactFurniture)
      (still : leaf.scope.covers .location = false) (apart : leaf.scope.covers .grid = false) :
      w'.Follows :=
    follows_within follows
      (fun x => runLeaf_apart_within e x draw leaf status w w' searches interacts ran) still apart
  cases leaf with
  | findFurniture => exact findFurniture_follows draw status follows ran
  | interactFurniture =>
      exact interactFurniture_follows draw status follows (starts rfl).valid (atHand rfl) ran
  | _ => exact apart (by simp) (by simp) rfl rfl

end World

def SeatsAtHand (w : World F) : Event F → Prop
  | .behaviorTree e draw => ∀ start ∈ w.visitStarts e draw, start.leaf = .interactFurniture →
      start.state.SeatAtHand e draw.rank
  | _ => True

theorem step_follows_map (event : Event F) (w w' : World F) (matched : w.Matched) (follows : w.Follows)
    (atHand : SeatsAtHand w event) (stepped : step event w = some w') : w'.Follows := by
  have apart (remakes : event.remakes = false) (still : event.scope.covers .location = false)
      (apart : event.scope.covers .grid = false) : w'.Follows :=
    World.follows_within follows (fun x => step_within event w w' x remakes stepped) still apart
  cases event with
  | cleanupPlayer player =>
      obtain rfl := Option.some.inj stepped
      exact World.cleanupPlayer_follows player follows
  | command cmd =>
      cases cmd with
      | login sessionIndex playerId playerName =>
          exact World.login_follows sessionIndex playerId playerName follows stepped
      | move sessionIndex x y z => exact World.movePlayer_follows sessionIndex x y z follows stepped
      | talkToNpc sessionIndex npcId =>
          exact World.talkToNpc_follows sessionIndex npcId follows stepped
      | playerMessage | endDialogue | getAgentStatus =>
          obtain rfl := Option.some.inj stepped
          exact follows
      | malformed =>
          obtain rfl := Option.some.inj stepped
          exact follows
  | movement e => exact World.movement_follows follows stepped
  | behaviorTree e draw =>
      have both := World.behaviorTree_kept e draw (fun m => m.Matched ∧ m.Follows)
        (fun leaf m => leaf = .interactFurniture → m.SeatAtHand e draw.rank)
        (fun m here planted => here.1.planted planted)
        (fun leaf m status m' here starts seat ran =>
          ⟨World.runLeaf_matched draw leaf status m m' here.1 starts ran,
            World.runLeaf_follows draw leaf status m m' here.2 starts seat ran⟩)
        w w' ⟨matched, follows⟩ stepped atHand
      exact both.2
  | checkOccupant f =>
      obtain rfl := Option.some.inj stepped
      rw [World.checkOccupant_idle matched f]
      exact follows
  | resolveAffordance e =>
      rw [World.resolveAffordance_idle matched w' stepped]
      exact follows
  | _ => exact apart rfl rfl rfl

/-- The cell and the place of every registered entity follow from its position, in every run in
which whoever looks for a seat finds it at hand. -/
theorem positions_are_known (data : WorldBootstrapData F) (settings : SimulationSettings F)
    (obstacles : Option (List Obstacle)) (draws : Nat → NeedsDraw F) (start w : World F)
    (past : List (Transition (World F) (Event F)))
    (booted : bootstrap data settings obstacles draws = some start)
    (run : ServerRun start past w) (atHand : Guarded SeatsAtHand past) :
    ∀ e cell, w.grid.entityToCell e = some cell → ∃ loc, w.reg.location e = some loc ∧
      cell = getCellKey loc.x loc.z ∧
      loc.locationName = w.grid.getLocationNameAt loc.x loc.z := by
  have both := @Run.invariant _ _ _ _ _ _ _ (fun m => m.Matched ∧ m.Follows)
    ⟨bootstrap_matched data settings obstacles draws start booted,
      bootstrap_follows data settings obstacles draws start booted⟩
    (fun m event m' here seats stepped =>
      ⟨step_matched event m m' here.1 stepped, step_follows_map event m m' here.1 here.2 seats stepped⟩)
    run atHand
  exact both.2.inStep

def gladeData : WorldBootstrapData ℚ :=
  { locations := [⟨"여관", 2004, 0, 2004, 1, 1, 1⟩]
    agents := [⟨7, "ella", "엘라", "Wilderness", 40, 0, 40, "평온", "대기", 1 / 2, []⟩]
    furniture :=
      [⟨"돌 식탁", 3, "Wilderness", 41, 0, 40, false⟩, ⟨"나무 식탁", 3, "Wilderness", 500, 0, 500, false⟩]
    npcSpeed := 2
    ticksPerGameHour := 60 }

def glade : World ℚ :=
  populate (emptyWorld gladeData ⟨2, 60⟩ (some [])) gladeData fun _ => ⟨10, 100⟩

theorem glade_boots :
    bootstrap gladeData ⟨2, 60⟩ (some []) (fun _ => ⟨10, 100⟩) = some glade := by
  rw [bootstrap, if_neg (by decide), if_neg (by decide +kernel)]
  rfl

-- A frame that meets the furniture made last first.
def lastFirst : FrameInput ℚ :=
  { plainFrame with tree := fun _ => ⟨fun f => 9 - f, id⟩, physicalTick := 1 }

-- Hungry Ella is put onto the far table, and the registry still lists her at the near one.
theorem far_seat_loses_cell : ∃ last, frame lastFirst glade = some last ∧
    last.grid.entityToCell 2 = some (cellKey 5 5) ∧
    (last.reg.location 2).map (fun loc => getCellKey loc.x loc.z) = some (cellKey 62 62) ∧
    ¬∀ e cell, last.grid.entityToCell e = some cell → ∃ loc, last.reg.location e = some loc ∧
      cell = getCellKey loc.x loc.z ∧
      loc.locationName = last.grid.getLocationNameAt loc.x loc.z := by
  have passed : (frame lastFirst glade).any (fun w =>
      w.grid.entityToCell 2 = some (cellKey 5 5) &&
        (w.reg.location 2).map (fun loc => getCellKey loc.x loc.z) = some (cellKey 62 62)) = true := by
    decide +kernel
  obtain ⟨last, framed, checked⟩ := (Option.any_eq_true _ _).mp passed
  simp only [Bool.and_eq_true, decide_eq_true_eq] at checked
  obtain ⟨recorded, moved⟩ := checked
  refine ⟨last, framed, recorded, moved, fun known => ?_⟩
  obtain ⟨loc, stands, inCell, -⟩ := known 2 _ recorded
  rw [stands, Option.map_some, ← inCell] at moved
  exact absurd (Option.some.inj moved) (by decide +kernel)

def World.seatAtHand (w : World ℚ) (e : Entity) (rank : Entity → Nat) : Bool :=
  ((w.reg.needs e).bind fun needs => (w.reg.location e).bind fun loc =>
    (w.reg.toil e).bind fun toil => (w.freeFurniture needs loc rank).bind fun f =>
      (w.reg.location f).map fun furnLoc => !World.seeksSeat needs toil ||
        (getCellKey furnLoc.x furnLoc.z = getCellKey loc.x loc.z &&
          w.grid.getLocationNameAt furnLoc.x furnLoc.z =
            w.grid.getLocationNameAt loc.x loc.z)).getD true

theorem World.seatAtHand_of_check (w : World ℚ) (e : Entity) (rank : Entity → Nat)
    (checked : w.seatAtHand e rank = true) : w.SeatAtHand e rank := by
  intro needs loc toil f furnLoc needy stands toils seeks free placed
  simpa [World.seatAtHand, needy, stands, toils, free, placed, seeks] using checked

def seatsAtHand (w : World ℚ) : Event ℚ → Bool
  | .behaviorTree e draw => (w.visitStarts e draw).all fun start =>
      start.leaf ≠ .interactFurniture || start.state.seatAtHand e draw.rank
  | _ => true

theorem seatsAtHand_of_check (w : World ℚ) (event : Event ℚ)
    (checked : seatsAtHand w event = true) : SeatsAtHand w event := by
  cases event with
  | behaviorTree e draw =>
      intro start member same
      have here := List.all_eq_true.mp checked start member
      exact start.state.seatAtHand_of_check e draw.rank (by simpa [same] using here)
  | _ => trivial

-- Ella takes the near table.
theorem positions_are_known_glade : ∃ past last, ServerRun glade past last ∧
    last.seatOf 2 = some 0 ∧ ∀ e cell, last.grid.entityToCell e = some cell →
      ∃ loc, last.reg.location e = some loc ∧ cell = getCellKey loc.x loc.z ∧
        loc.locationName = last.grid.getLocationNameAt loc.x loc.z := by
  have passed : (followWhile step seatsAtHand [.behaviorTree 2 ⟨id, id⟩] glade).any
      (fun w => w.seatOf 2 = some 0) = true := by decide +kernel
  obtain ⟨past, last, run, checks, -, seated⟩ := Run.exists_of_check _ _ _ passed
  exact ⟨past, last, run, by simpa using seated,
    positions_are_known gladeData ⟨2, 60⟩ (some []) (fun _ => ⟨10, 100⟩) glade last past glade_boots
      run (checks.mono seatsAtHand_of_check)⟩

end MundusVivens
