import MundusVivens.Shared.Folds
import MundusVivens.World.World

set_option autoImplicit false

/-!
# Footprints

What a piece of code may change: some parts of the entity it acts for, and some
parts of any entity or of the world. Everything else is as before.
-/

namespace MundusVivens

inductive Method where
  | processWorldTick
  | getPendingJobs
  | reportJobStatus
  | triggerDialogue
  | startPlayerDialogue
  | sendPlayerMessage
  | endPlayerDialogue
  | endDisconnected
  | getAgentStatus
  | injectBelief
  | threatDetected
  | reportCombatEvent
  | batchUpdateStatus
deriving DecidableEq

@[simp] def Request.method {F : Type} : Request F → Method
  | .processWorldTick _ => .processWorldTick
  | .getPendingJobs _ => .getPendingJobs
  | .reportJobStatus .. => .reportJobStatus
  | .triggerDialogue .. => .triggerDialogue
  | .startPlayerDialogue .. => .startPlayerDialogue
  | .sendPlayerMessage .. => .sendPlayerMessage
  | .endPlayerDialogue .. => .endPlayerDialogue
  | .endDisconnected _ => .endDisconnected
  | .getAgentStatus _ => .getAgentStatus
  | .injectBelief .. => .injectBelief
  | .threatDetected .. => .threatDetected
  | .reportCombatEvent .. => .reportCombatEvent
  | .batchUpdateStatus .. => .batchUpdateStatus

def GrpcClient.callsTo {F : Type} (client : GrpcClient F) (method : Method) (ticket : Nat) :
    Option (Call F) :=
  (client.calls ticket).filter (·.request.method = method)

namespace GrpcClient

variable {F : Type} {client next : GrpcClient F}

theorem known_of_callsTo {ticket : Nat} {call : Call F}
    (same : next.callsTo call.request.method = client.callsTo call.request.method)
    (known : next.calls ticket = some call) : client.calls ticket = some call := by
  have present := congrFun same ticket
  simp only [callsTo, known, Option.filter_some, decide_true, if_true] at present
  exact (Option.filter_eq_some_iff.mp present.symm).1

theorem eq_of_callsTo
    (tickets : (next.nextTicket, next.queue) = (client.nextTicket, client.queue))
    (same : ∀ method, next.callsTo method = client.callsTo method) : next = client := by
  have calls : next.calls = client.calls := by
    funext ticket
    cases known : next.calls ticket with
    | some call => exact (known_of_callsTo (same _) known).symm
    | none =>
        cases before : client.calls ticket with
        | none => rfl
        | some call => exact known.symm.trans (known_of_callsTo (same _).symm before)
  obtain ⟨nextTicket, calls', queue, unissued⟩ := client
  obtain ⟨rfl, rfl⟩ := Prod.mk.inj tickets
  obtain rfl := calls
  rfl

end GrpcClient

inductive Part where
  | valid
  | identity
  | personality
  | relationships
  | location
  | emotion
  | activity
  | cooldown
  | velocity
  | pathfinding
  | job
  | toil
  | needs
  | affordance
  | lastSynced
  | busy
  | playerTag
  | playerDialogue
  | behaviorTree
  | health
  | combat
  | faction
  | sentience
  | aggro
  | handles
  | index
  | emotions
  | mapper
  | settings
  | grid
  | walls
  | search
  | tcp
  | clock
  | tickets
  | calls (method : Method)
deriving DecidableEq

def Part.Same {F : Type} (p : Part) (x : Entity) (w w' : World F) : Prop :=
  match p with
  | .valid => w'.reg.valid x = w.reg.valid x
  | .identity => w'.reg.identity x = w.reg.identity x
  | .personality => w'.reg.personality x = w.reg.personality x
  | .relationships => w'.reg.relationships x = w.reg.relationships x
  | .location => w'.reg.location x = w.reg.location x
  | .emotion => w'.reg.emotion x = w.reg.emotion x
  | .activity => w'.reg.activity x = w.reg.activity x
  | .cooldown => w'.reg.cooldown x = w.reg.cooldown x
  | .velocity => w'.reg.velocity x = w.reg.velocity x
  | .pathfinding => w'.reg.pathfinding x = w.reg.pathfinding x
  | .job => w'.reg.job x = w.reg.job x
  | .toil => w'.reg.toil x = w.reg.toil x
  | .needs => w'.reg.needs x = w.reg.needs x
  | .affordance => w'.reg.affordance x = w.reg.affordance x
  | .lastSynced => w'.reg.lastSynced x = w.reg.lastSynced x
  | .busy => w'.reg.busy x = w.reg.busy x
  | .playerTag => w'.reg.playerTag x = w.reg.playerTag x
  | .playerDialogue => w'.reg.playerDialogue x = w.reg.playerDialogue x
  | .behaviorTree => w'.reg.behaviorTree x = w.reg.behaviorTree x
  | .health => w'.reg.health x = w.reg.health x
  | .combat => w'.reg.combat x = w.reg.combat x
  | .faction => w'.reg.faction x = w.reg.faction x
  | .sentience => w'.reg.sentience x = w.reg.sentience x
  | .aggro => w'.reg.aggro x = w.reg.aggro x
  | .handles => w'.reg.nextEntity = w.reg.nextEntity
  | .index => w'.index = w.index
  | .emotions => (w'.emotions, w'.contagionIds) = (w.emotions, w.contagionIds)
  | .mapper => w'.mapper = w.mapper
  | .settings => w'.settings = w.settings
  | .grid => w'.grid = w.grid
  | .walls => (w'.map.grid, w'.map.locationCoords) = (w.map.grid, w.map.locationCoords)
  | .search => (w'.map.pathCache, w'.map.scratch) = (w.map.pathCache, w.map.scratch)
  | .tcp => w'.tcp = w.tcp
  | .clock => w'.clock = w.clock
  | .tickets => (w'.grpc.nextTicket, w'.grpc.queue) = (w.grpc.nextTicket, w.grpc.queue)
  | .calls method => w'.grpc.callsTo method = w.grpc.callsTo method

-- Parts of the entity the code acts for, and parts of anything.
structure Scope where
  own : List Part
  all : List Part

def Scope.covers (s : Scope) (p : Part) : Bool := decide (p ∈ s.own) || decide (p ∈ s.all)

def Scope.within (s s' : Scope) : Bool := s.own.all s'.covers && s.all.all (· ∈ s'.all)

/-- Seen from `x`, code that acts for `e` changes nothing out of its scope. -/
def Within {F : Type} (s : Scope) (e x : Entity) (w w' : World F) : Prop :=
  ∀ p : Part, p ∉ s.all → (x = e → p ∉ s.own) → p.Same x w w'

-- The parts of the world, which belong to no entity.
def Part.isShared : Part → Bool
  | .handles | .index | .emotions | .mapper | .settings | .grid | .walls | .search | .tcp | .clock
  | .tickets | .calls _ => true
  | _ => false

namespace Part

variable {F : Type} {p : Part} {x : Entity} {w m w' : World F}

theorem Same.refl (p : Part) (x : Entity) (w : World F) : p.Same x w w := by
  cases p <;> exact rfl

theorem Same.trans (first : p.Same x w m) (second : p.Same x m w') : p.Same x w w' := by
  cases p <;> exact Eq.trans second first

theorem Same.symm (same : p.Same x w w') : p.Same x w' w := by
  cases p <;> exact Eq.symm same

theorem Same.anywhere (shared : p.isShared = true) (same : p.Same x w w') (y : Entity) :
    p.Same y w w' := by
  cases p <;> first | exact same | cases shared

end Part

namespace Within

variable {F : Type} {s : Scope} {e x : Entity} {w m w' : World F}

@[simp] theorem refl (s : Scope) (e x : Entity) (w : World F) : Within s e x w w :=
  fun p _ _ => .refl p x w

theorem of_eq (same : w' = w) : Within s e x w w' := by
  rw [same]
  exact .refl s e x w

theorem trans (first : Within s e x w m) (second : Within s e x m w') : Within s e x w w' :=
  fun p foreign absent => (first p foreign absent).trans (second p foreign absent)

theorem mono {s' : Scope} (wider : s.within s' = true) (within : Within s e x w w') :
    Within s' e x w w' := by
  simp only [Scope.within, Scope.covers, Bool.and_eq_true, List.all_eq_true, Bool.or_eq_true,
    decide_eq_true_eq] at wider
  intro p foreign absent
  refine within p (fun member => foreign (wider.2 p member)) fun here member => ?_
  rcases wider.1 p member with own | all
  · exact absent here own
  · exact foreign all

theorem after (same : ∀ p : Part, p ∉ s.all → (x = e → p ∉ s.own) → p.Same x m w') :
    Within s e x w w' ↔ Within s e x w m :=
  ⟨fun known p foreign absent => (known p foreign absent).trans (same p foreign absent).symm,
    fun known p foreign absent => (known p foreign absent).trans (same p foreign absent)⟩

theorem after_part (p : Part) (y : Entity)
    (allowed : x ≠ y ∨ (y = e ∧ p ∈ s.own) ∨ p ∈ s.all)
    (there : x ≠ y → p.Same x m w') (others : ∀ q : Part, q ≠ p → q.Same x m w') :
    Within s e x w w' ↔ Within s e x w m := by
  refine after fun q foreign absent => ?_
  by_cases same : q = p
  next =>
    subst same
    refine there fun here => ?_
    rcases allowed with elsewhere | ⟨acts, own⟩ | all
    · exact elsewhere here
    · exact absent (here.trans acts) own
    · exact foreign all
  next => exact others q same

theorem after_global (p : Part) (allowed : p ∈ s.all)
    (others : ∀ q : Part, q ≠ p → q.Same x m w') : Within s e x w w' ↔ Within s e x w m := by
  refine after fun q foreign _ => others q ?_
  rintro rfl
  exact foreign allowed

theorem foldl {A : Type} (f : World F → A → World F) (each : ∀ w a, Within s e x w (f w a))
    (items : List A) (w : World F) : Within s e x w (items.foldl f w) := by
  induction items generalizing w with
  | nil => exact .refl s e x w
  | cons item rest ih => exact (each w item).trans (ih (f w item))

theorem foldlM {A : Type} (f : World F → A → Option (World F))
    (each : ∀ w a w', f w a = some w' → Within s e x w w') (items : List A) (w w' : World F)
    (folded : items.foldlM f w = some w') : Within s e x w w' :=
  Folds.foldlM_related (Within s e x) (fun w => .refl s e x w) (fun _ _ _ first later => first.trans later) each
    items w w' folded

end Within

-- A valid entity that is neither a player nor a piece of furniture.
structure World.Resident {F : Type} (w : World F) (x : Entity) : Prop where
  valid : w.reg.valid x = true
  unplayed : w.reg.playerTag x = none
  unfurnished : w.reg.affordance x = none

-- Nothing in the scope makes a resident anything else.
def Scope.sparesResidents (s : Scope) : Bool :=
  [Part.valid, .playerTag, .affordance].all fun p => !s.covers p

theorem Within.same {F : Type} {s : Scope} {e x : Entity} {w w' : World F}
    (within : Within s e x w w') (p : Part) (uncovered : s.covers p = false) : p.Same x w w' := by
  have absent : p ∉ s.own ∧ p ∉ s.all := by simpa [Scope.covers] using uncovered
  exact within p absent.2 fun _ => absent.1

theorem Within.resident {F : Type} {s : Scope} {e x : Entity} {w w' : World F}
    (within : Within s e x w w') (spares : s.sparesResidents = true) (resident : w.Resident x) :
    w'.Resident x := by
  simp only [Scope.sparesResidents, List.all_cons, List.all_nil, Bool.and_true, Bool.and_eq_true,
    Bool.not_eq_true'] at spares
  obtain ⟨valid, playerTag, affordance⟩ := spares
  constructor
  case valid => exact Eq.trans (within.same .valid valid) resident.valid
  case unplayed => exact Eq.trans (within.same .playerTag playerTag) resident.unplayed
  case unfurnished => exact Eq.trans (within.same .affordance affordance) resident.unfurnished

section

variable {F : Type} {s : Scope} {e x y : Entity} {w m w' : World F}

@[simp] theorem within_setIdentity (identity : IdentityComp)
    (allowed : x ≠ y ∨ (y = e ∧ .identity ∈ s.own) ∨ .identity ∈ s.all) :
    Within s e x w (m.setIdentity y identity) ↔ Within s e x w m :=
  Within.after_part .identity y allowed (fun other => Function.update_of_ne other _ _)
    fun q other => by cases q <;> first | exact absurd rfl other | exact rfl

@[simp] theorem within_setLocation (loc : LocationComp F)
    (allowed : x ≠ y ∨ (y = e ∧ .location ∈ s.own) ∨ .location ∈ s.all) :
    Within s e x w (m.setLocation y loc) ↔ Within s e x w m :=
  Within.after_part .location y allowed (fun other => Function.update_of_ne other _ _)
    fun q other => by cases q <;> first | exact absurd rfl other | exact rfl

@[simp] theorem within_setRelationships (cache : RelationshipCacheComp)
    (allowed : x ≠ y ∨ (y = e ∧ .relationships ∈ s.own) ∨ .relationships ∈ s.all) :
    Within s e x w (m.setRelationships y cache) ↔ Within s e x w m :=
  Within.after_part .relationships y allowed (fun other => Function.update_of_ne other _ _)
    fun q other => by cases q <;> first | exact absurd rfl other | exact rfl

@[simp] theorem within_setEmotion (emotion : EmotionComp)
    (allowed : x ≠ y ∨ (y = e ∧ .emotion ∈ s.own) ∨ .emotion ∈ s.all) :
    Within s e x w (m.setEmotion y emotion) ↔ Within s e x w m :=
  Within.after_part .emotion y allowed (fun other => Function.update_of_ne other _ _)
    fun q other => by cases q <;> first | exact absurd rfl other | exact rfl

@[simp] theorem within_setActivity (text : String)
    (allowed : x ≠ y ∨ (y = e ∧ .activity ∈ s.own) ∨ .activity ∈ s.all) :
    Within s e x w (m.setActivity y text) ↔ Within s e x w m :=
  Within.after_part .activity y allowed (fun other => Function.update_of_ne other _ _)
    fun q other => by cases q <;> first | exact absurd rfl other | exact rfl

@[simp] theorem within_setCooldown (cooldown : CooldownComp)
    (allowed : x ≠ y ∨ (y = e ∧ .cooldown ∈ s.own) ∨ .cooldown ∈ s.all) :
    Within s e x w (m.setCooldown y cooldown) ↔ Within s e x w m :=
  Within.after_part .cooldown y allowed (fun other => Function.update_of_ne other _ _)
    fun q other => by cases q <;> first | exact absurd rfl other | exact rfl

@[simp] theorem within_setVelocity (velocity : VelocityComp F)
    (allowed : x ≠ y ∨ (y = e ∧ .velocity ∈ s.own) ∨ .velocity ∈ s.all) :
    Within s e x w (m.setVelocity y velocity) ↔ Within s e x w m :=
  Within.after_part .velocity y allowed (fun other => Function.update_of_ne other _ _)
    fun q other => by cases q <;> first | exact absurd rfl other | exact rfl

@[simp] theorem within_modifyVelocity (f : VelocityComp F → VelocityComp F)
    (allowed : x ≠ y ∨ (y = e ∧ .velocity ∈ s.own) ∨ .velocity ∈ s.all) :
    Within s e x w (m.modifyVelocity y f) ↔ Within s e x w m :=
  Within.after_part .velocity y allowed (fun other => Function.update_of_ne other _ _)
    fun q other => by cases q <;> first | exact absurd rfl other | exact rfl

@[simp] theorem within_setPathfinding (path : PathfindingComp F)
    (allowed : x ≠ y ∨ (y = e ∧ .pathfinding ∈ s.own) ∨ .pathfinding ∈ s.all) :
    Within s e x w (m.setPathfinding y path) ↔ Within s e x w m :=
  Within.after_part .pathfinding y allowed (fun other => Function.update_of_ne other _ _)
    fun q other => by cases q <;> first | exact absurd rfl other | exact rfl

@[simp] theorem within_clearPath
    (allowed : x ≠ y ∨ (y = e ∧ .pathfinding ∈ s.own) ∨ .pathfinding ∈ s.all) :
    Within s e x w (m.clearPath y) ↔ Within s e x w m :=
  Within.after_part .pathfinding y allowed (fun other => Function.update_of_ne other _ _)
    fun q other => by cases q <;> first | exact absurd rfl other | exact rfl

@[simp] theorem within_setJob (job : JobComp F)
    (allowed : x ≠ y ∨ (y = e ∧ .job ∈ s.own) ∨ .job ∈ s.all) :
    Within s e x w (m.setJob y job) ↔ Within s e x w m :=
  Within.after_part .job y allowed (fun other => Function.update_of_ne other _ _)
    fun q other => by cases q <;> first | exact absurd rfl other | exact rfl

@[simp] theorem within_setToil (toil : ToilComp)
    (allowed : x ≠ y ∨ (y = e ∧ .toil ∈ s.own) ∨ .toil ∈ s.all) :
    Within s e x w (m.setToil y toil) ↔ Within s e x w m :=
  Within.after_part .toil y allowed (fun other => Function.update_of_ne other _ _)
    fun q other => by cases q <;> first | exact absurd rfl other | exact rfl

@[simp] theorem within_setNeeds (needs : NeedsComp F)
    (allowed : x ≠ y ∨ (y = e ∧ .needs ∈ s.own) ∨ .needs ∈ s.all) :
    Within s e x w (m.setNeeds y needs) ↔ Within s e x w m :=
  Within.after_part .needs y allowed (fun other => Function.update_of_ne other _ _)
    fun q other => by cases q <;> first | exact absurd rfl other | exact rfl

@[simp] theorem within_setAffordance (affordance : AffordanceComp)
    (allowed : x ≠ y ∨ (y = e ∧ .affordance ∈ s.own) ∨ .affordance ∈ s.all) :
    Within s e x w (m.setAffordance y affordance) ↔ Within s e x w m :=
  Within.after_part .affordance y allowed (fun other => Function.update_of_ne other _ _)
    fun q other => by cases q <;> first | exact absurd rfl other | exact rfl

@[simp] theorem within_setOccupiedBy (occupant : Option Entity)
    (allowed : x ≠ y ∨ (y = e ∧ .affordance ∈ s.own) ∨ .affordance ∈ s.all) :
    Within s e x w (m.setOccupiedBy y occupant) ↔ Within s e x w m :=
  Within.after_part .affordance y allowed (fun other => Function.update_of_ne other _ _)
    fun q other => by cases q <;> first | exact absurd rfl other | exact rfl

@[simp] theorem within_setLastSynced (sync : LastSyncedComp)
    (allowed : x ≠ y ∨ (y = e ∧ .lastSynced ∈ s.own) ∨ .lastSynced ∈ s.all) :
    Within s e x w (m.setLastSynced y sync) ↔ Within s e x w m :=
  Within.after_part .lastSynced y allowed (fun other => Function.update_of_ne other _ _)
    fun q other => by cases q <;> first | exact absurd rfl other | exact rfl

@[simp] theorem within_setHealth (health : HealthComp F)
    (allowed : x ≠ y ∨ (y = e ∧ .health ∈ s.own) ∨ .health ∈ s.all) :
    Within s e x w (m.setHealth y health) ↔ Within s e x w m :=
  Within.after_part .health y allowed (fun other => Function.update_of_ne other _ _)
    fun q other => by cases q <;> first | exact absurd rfl other | exact rfl

@[simp] theorem within_setCombat (combat : CombatComp F)
    (allowed : x ≠ y ∨ (y = e ∧ .combat ∈ s.own) ∨ .combat ∈ s.all) :
    Within s e x w (m.setCombat y combat) ↔ Within s e x w m :=
  Within.after_part .combat y allowed (fun other => Function.update_of_ne other _ _)
    fun q other => by cases q <;> first | exact absurd rfl other | exact rfl

@[simp] theorem within_setAggro (aggro : AggroComp)
    (allowed : x ≠ y ∨ (y = e ∧ .aggro ∈ s.own) ∨ .aggro ∈ s.all) :
    Within s e x w (m.setAggro y aggro) ↔ Within s e x w m :=
  Within.after_part .aggro y allowed (fun other => Function.update_of_ne other _ _)
    fun q other => by cases q <;> first | exact absurd rfl other | exact rfl

@[simp] theorem within_eraseBehaviorTree
    (allowed : x ≠ y ∨ (y = e ∧ .behaviorTree ∈ s.own) ∨ .behaviorTree ∈ s.all) :
    Within s e x w (m.eraseBehaviorTree y) ↔ Within s e x w m :=
  Within.after_part .behaviorTree y allowed (fun other => Function.update_of_ne other _ _)
    fun q other => by cases q <;> first | exact absurd rfl other | exact rfl

@[simp] theorem within_eraseBusy
    (allowed : x ≠ y ∨ (y = e ∧ .busy ∈ s.own) ∨ .busy ∈ s.all) :
    Within s e x w (m.eraseBusy y) ↔ Within s e x w m :=
  Within.after_part .busy y allowed (fun other => Function.update_of_ne other _ _)
    fun q other => by cases q <;> first | exact absurd rfl other | exact rfl

@[simp] theorem within_modifyBusy (f : BusyTag F → BusyTag F)
    (allowed : x ≠ y ∨ (y = e ∧ .busy ∈ s.own) ∨ .busy ∈ s.all) :
    Within s e x w (m.modifyBusy y f) ↔ Within s e x w m :=
  Within.after_part .busy y allowed (fun other => Function.update_of_ne other _ _)
    fun q other => by cases q <;> first | exact absurd rfl other | exact rfl

@[simp] theorem within_issue (request : Request F)
    (allowed : s.all.contains (.calls request.method) = true) (ticketed : .tickets ∈ s.all) :
    Within s e x w (m.issue request) ↔ Within s e x w m :=
  Within.after fun q foreign _ => by
    cases q with
    | calls method =>
        funext ticket
        have method' : request.method ≠ method :=
          fun same => foreign (same ▸ List.contains_iff_mem.mp allowed)
        by_cases here : ticket = m.grpc.nextTicket
        next =>
          subst here
          have unissued := m.grpc.unissued _ (Nat.le_refl _)
          simp [World.issue, GrpcClient.issue, GrpcClient.callsTo, -Request.method, method',
            unissued]
        next => simp [World.issue, GrpcClient.issue, GrpcClient.callsTo, here]
    | tickets => exact absurd ticketed foreign
    | _ => exact rfl

theorem within_setBusy (tag : BusyTag F) (tagged : m.setBusy y tag = some w')
    (allowed : x ≠ y ∨ (y = e ∧ .busy ∈ s.own) ∨ .busy ∈ s.all) :
    Within s e x w w' ↔ Within s e x w m := by
  obtain ⟨-, _, rfl⟩ := World.setBusy_cases tagged
  exact Within.after_part .busy y allowed (fun other => by simp [Part.Same, other])
    fun q other => by cases q <;> first | exact absurd rfl other | exact rfl

theorem within_updateEntityPosition [Scalar F] (x' z : F)
    (located : x ≠ y ∨ (y = e ∧ .location ∈ s.own) ∨ .location ∈ s.all) (grid : .grid ∈ s.all) :
    Within s e x w (m.updateEntityPosition y x' z) ↔ Within s e x w m := by
  unfold World.updateEntityPosition
  cases m.grid.updateEntityPosition y x' z (m.reg.location y) with
  | mk moved loc =>
      have placed : Within s e x w { m with grid := moved } ↔ Within s e x w m :=
        Within.after_global .grid grid fun q other => by
          cases q <;> first | exact absurd rfl other | exact rfl
      cases loc with
      | none => exact placed
      | some loc => exact (within_setLocation loc located).trans placed

theorem Registry.ne_nextEntity (reg : Registry F) (valid : reg.valid x = true) :
    x ≠ reg.nextEntity := by
  rintro rfl
  simp [reg.issued _ (Nat.le_refl _)] at valid

theorem within_create (other : x ≠ m.reg.nextEntity) (allowed : .handles ∈ s.all) :
    Within s e x m { m with reg := m.reg.create } := by
  intro p foreign absent
  cases p
  case handles => exact absurd allowed foreign
  case index | emotions | mapper | settings | grid | walls | search | tcp | clock | tickets | calls =>
    exact rfl
  all_goals simp [Part.Same, Registry.create, Registry.destroy, other]

theorem within_destroy (other : x ≠ y) : Within s e x m { m with reg := m.reg.destroy y } := by
  intro p foreign absent
  cases p
  case handles | index | emotions | mapper | settings | grid | walls | search | tcp | clock |
      tickets | calls =>
    exact rfl
  all_goals simp [Part.Same, Registry.destroy, other]

theorem within_grid (grid : LocationRegistry F) (allowed : .grid ∈ s.all) :
    Within s e x m { m with grid := grid } :=
  (Within.after_global .grid allowed fun q other => by
    cases q <;> first | exact absurd rfl other | exact rfl).mpr (.refl s e x m)

theorem within_remove (grid : LocationRegistry F) (other : x ≠ y) (allowed : .grid ∈ s.all) :
    Within s e x m { m with grid := grid, reg := m.reg.destroy y } :=
  (within_grid grid allowed).trans (within_destroy other)

end

end MundusVivens
