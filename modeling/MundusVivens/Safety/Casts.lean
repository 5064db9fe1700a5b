import MundusVivens.Safety.Soundness

set_option autoImplicit false

namespace MundusVivens

open Scalar Runs

variable {F : Type}

-- The residents are these people, one entity each.
def World.Hosts (w : World F) (people : List IdentityComp) : Prop :=
  ∃ cast : List Entity, cast.Nodup ∧ (∀ n, n ∈ cast ↔ w.Resident n) ∧
    cast.map w.reg.identity = people.map some

-- The people among the agents: all but the default player.
def WorldBootstrapData.people (data : WorldBootstrapData F) : List IdentityComp :=
  (data.agents.filter fun agent => agent.agentId ≠ 1).map fun agent => ⟨agent.agentId, agent.name⟩

namespace World

variable {w w' : World F} {people : List IdentityComp}

theorem Hosts.of_same (hosts : w.Hosts people) (residents : ∀ n, w'.Resident n ↔ w.Resident n)
    (names : ∀ n, w.Resident n → w'.reg.identity n = w.reg.identity n) : w'.Hosts people := by
  obtain ⟨cast, distinct, listed, named⟩ := hosts
  refine ⟨cast, distinct, fun n => (listed n).trans (residents n).symm, ?_⟩
  rw [← named]
  exact List.map_congr_left fun n member => names n ((listed n).mp member)

theorem resident_beside {s : Scope} {e n : Entity} (within : Within s e n w w')
    (spares : s.sparesResidents = true) : w'.Resident n ↔ w.Resident n := by
  have uncovered (p : Part) (spared : p ∈ [Part.valid, .playerTag, .affordance]) :
      s.covers p = false := by
    simpa using List.all_eq_true.mp spares p spared
  have valid : w'.reg.valid n = w.reg.valid n := within.same .valid (uncovered _ (by simp))
  have tag : w'.reg.playerTag n = w.reg.playerTag n := within.same .playerTag (uncovered _ (by simp))
  have affordance : w'.reg.affordance n = w.reg.affordance n :=
    within.same .affordance (uncovered _ (by simp))
  constructor
  · intro resident
    exact ⟨valid ▸ resident.valid, tag ▸ resident.unplayed, affordance ▸ resident.unfurnished⟩
  · intro resident
    exact ⟨valid.trans resident.valid, tag.trans resident.unplayed,
      affordance.trans resident.unfurnished⟩

theorem Hosts.beside (hosts : w.Hosts people)
    (within : ∀ n, n ≠ w.reg.nextEntity → Within settlingScope n n w w')
    (outsider : ¬ w'.Resident w.reg.nextEntity) : w'.Hosts people := by
  refine hosts.of_same (fun n => ?_) fun n resident => ?_
  · by_cases same : n = w.reg.nextEntity
    next =>
      subst same
      exact iff_of_false outsider fun resident => w.reg.ne_nextEntity resident.valid rfl
    next => exact resident_beside (within n same) rfl
  · exact (within n (w.reg.ne_nextEntity resident.valid)).same .identity rfl

theorem Hosts.join (hosts : w.Hosts people) (newcomer : IdentityComp)
    (within : ∀ n, n ≠ w.reg.nextEntity → Within settlingScope n n w w')
    (resident : w'.Resident w.reg.nextEntity)
    (named : w'.reg.identity w.reg.nextEntity = some newcomer) :
    w'.Hosts (people ++ [newcomer]) := by
  obtain ⟨cast, distinct, listed, names⟩ := hosts
  have apart (n : Entity) (member : n ∈ cast) : n ≠ w.reg.nextEntity :=
    w.reg.ne_nextEntity ((listed n).mp member).valid
  refine ⟨cast ++ [w.reg.nextEntity], ?_, fun n => ?_, ?_⟩
  · refine List.nodup_append.mpr ⟨distinct, by simp, fun n member m last => ?_⟩
    rw [List.mem_singleton.mp last]
    exact apart n member
  · rw [List.mem_append, List.mem_singleton, listed]
    by_cases same : n = w.reg.nextEntity
    next => simp [same, resident]
    next => simp [same, resident_beside (within n same) rfl]
  · have kept : cast.map w'.reg.identity = cast.map w.reg.identity :=
      List.map_congr_left fun n member => (within n (apart n member)).same .identity rfl
    simp [kept, names, named]

end World

variable [Scalar F] {w w' : World F} {people : List IdentityComp}

theorem placeFurniture_hosts (w : World F) (furn : FurnitureData F) (hosts : w.Hosts people) :
    (placeFurniture w furn).Hosts people := by
  refine hosts.beside (fun n other => placeFurniture_within w furn n n other) fun resident => ?_
  have unfurnished := resident.unfurnished
  simp [placeFurniture_stands] at unfurnished

theorem spawnAgent_resident (state : World F × UInt8) (agent : InitialAgentState F)
    (draw : NeedsDraw F) (settler : agent.agentId ≠ 1) :
    (spawnAgent state agent draw).1.Resident state.1.reg.nextEntity := by
  have valid := (spawnAgent_settles state agent draw settler).valid
  obtain ⟨w, nextEmoId⟩ := state
  refine ⟨valid, ?_, ?_⟩
  · unfold spawnAgent
    dsimp only
    rw [if_neg settler]
    refine Eq.trans (updateEntityPosition_same _ _ _ _ .playerTag (by simp)) ?_
    simp [World.setLocation, World.setIdentity, Registry.create, Registry.destroy]
  · unfold spawnAgent
    dsimp only
    rw [if_neg settler]
    refine Eq.trans (updateEntityPosition_same _ _ _ _ .affordance (by simp)) ?_
    simp [World.setLocation, World.setIdentity, Registry.create, Registry.destroy]

theorem bootstrap_hosts (data : WorldBootstrapData F) (settings : SimulationSettings F)
    (obstacles : Option (List Obstacle)) (draws : Nat → NeedsDraw F)
    (booted : bootstrap data settings obstacles draws = some w) : w.Hosts data.people := by
  have furnished (furniture : List (FurnitureData F)) (w : World F) (hosts : w.Hosts []) :
      (furniture.foldl placeFurniture w).Hosts [] := by
    induction furniture generalizing w with
    | nil => exact hosts
    | cons furn rest ih => exact ih _ (placeFurniture_hosts w furn hosts)
  have spawned (agents : List (InitialAgentState F)) (first : Nat) (people : List IdentityComp)
      (state : World F × UInt8) (hosts : state.1.Hosts people) :
      ((agents.zipIdx first).foldl (fun state agent => spawnAgent state agent.1 (draws agent.2))
        state).1.Hosts (people ++ (agents.filter fun agent => agent.agentId ≠ 1).map
          fun agent => ⟨agent.agentId, agent.name⟩) := by
    induction agents generalizing first people state with
    | nil => simpa using hosts
    | cons agent rest ih =>
        rw [List.zipIdx_cons, List.foldl_cons]
        by_cases player : agent.agentId = 1
        next =>
          rw [spawnAgent_player state agent (draws first) player]
          simpa [player] using ih (first + 1) people state hosts
        next =>
          have joined := hosts.join ⟨agent.agentId, agent.name⟩
            (fun n other => spawnAgent_within state agent (draws first) n n other)
            (spawnAgent_resident state agent (draws first) player)
            (spawnAgent_settles state agent (draws first) player).identity
          simpa [player] using ih (first + 1) _ _ joined
  have empty : (emptyWorld data settings obstacles).Hosts [] := by
    refine ⟨[], List.nodup_nil, fun n => iff_of_false List.not_mem_nil fun resident => ?_, rfl⟩
    have valid := resident.valid
    simp [emptyWorld, Registry.empty] at valid
  unfold bootstrap at booted
  split at booted
  next => cases booted
  next =>
    split at booted
    next => cases booted
    next =>
      obtain rfl := Option.some.inj booted
      exact spawned data.agents 0 [] _ (furnished data.furniture _ empty)

theorem step_hosts (event : Event F) (hosts : w.Hosts people) (stepped : step event w = some w') :
    w'.Hosts people := by
  refine hosts.of_same (step_residents event stepped) fun n resident => ?_
  have named : event.scope.covers .identity = false := by
    cases event with
    | command cmd => cases cmd <;> rfl
    | _ => rfl
  exact (resident_step_within event w w' n resident stepped).same .identity named

theorem Reaches.residents (reaches : Reaches w w') (n : Entity) : w'.Resident n ↔ w.Resident n := by
  obtain ⟨past, run⟩ := reaches
  exact run.preserved (fun m => m.Resident n ↔ w.Resident n) Iff.rfl
    fun _ event _ here stepped => (step_residents event stepped n).trans here

theorem Reaches.hosts (reaches : Reaches w w') (hosts : w.Hosts people) : w'.Hosts people := by
  obtain ⟨past, run⟩ := reaches
  exact run.preserved (fun w => w.Hosts people) hosts
    fun _ event _ here stepped => step_hosts event here stepped

end MundusVivens
