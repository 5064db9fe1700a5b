import MundusVivens.Ledger.Initial
import MundusVivens.Ledger.Simulation

set_option autoImplicit false

/-!
# Which entity a login binds

The index entries of the agents last for the whole run and never belong to a
player; every other entry belongs to one. So a login binds a player exactly when
its id is not the number of an agent.
-/

namespace MundusVivens

open Scalar Runs

namespace Ledger

/-- The agents of the bootstrap index are still in the index, and the other entries are players. -/
structure Cast (agents : UInt32 → Option Entity) (aliases : AgentIdMapper) (l : Ledger) : Prop where
  mapper : l.mapper = aliases
  lasting : ∀ id e, agents id = some e → l.index.byNpcId id = some e ∧ l.playerTag e = none
  players : ∀ id e, l.index.byNpcId id = some e → agents id = some e ∨ (l.playerTag e).isSome

namespace Cast

variable {agents : UInt32 → Option Entity} {aliases : AgentIdMapper} {l l' : Ledger}

theorem same (cast : Cast agents aliases l) (lookup : l'.mapper = l.mapper)
    (tags : l'.playerTag = l.playerTag) (index : l'.index = l.index) :
    Cast agents aliases l' where
  mapper := lookup.trans cast.mapper
  lasting := by simpa only [tags, index] using cast.lasting
  players := by simpa only [tags, index] using cast.players

theorem upkeep (roster : Roster l) (cast : Cast agents aliases l) (kept : Upkeep l l') :
    Cast agents aliases l' := by
  cases kept with
  | furnish id =>
      have old {known : UInt32} {e : Entity} (entry : l.index.byNpcId known = some e) :
          e ≠ l.nextEntity := Nat.ne_of_lt (roster.below (roster.indexed known e entry).1)
      constructor
      case mapper => exact cast.mapper
      case lasting =>
        intro known e agent
        obtain ⟨entry, untagged⟩ := cast.lasting known e agent
        exact ⟨entry, by simpa [furnish, create, destroy, old entry] using untagged⟩
      case players =>
        intro known e entry
        rcases cast.players known e entry with agent | tagged
        · exact .inl agent
        · exact .inr (by simpa [furnish, create, destroy, old entry] using tagged)
  | demolish x furniture =>
      have other {known : UInt32} {e : Entity} (entry : l.index.byNpcId known = some e) :
          e ≠ x := by
        rintro rfl
        simp [(roster.indexed known e entry).2.2] at furniture
      constructor
      case mapper => exact cast.mapper
      case lasting =>
        intro known e agent
        obtain ⟨entry, untagged⟩ := cast.lasting known e agent
        exact ⟨entry, by simpa [destroy, other entry] using untagged⟩
      case players =>
        intro known e entry
        rcases cast.players known e entry with agent | tagged
        · exact .inl agent
        · exact .inr (by simpa [destroy, other entry] using tagged)
  | resume x waiting => exact cast.same rfl rfl rfl

theorem enlist (roster : Roster l) (cast : Cast agents aliases l) (session id : UInt32)
    (free : l.index.byNpcId id = none) :
    Cast agents aliases (l.apply (.enlist session id)) := by
  have old {known : UInt32} {e : Entity} (entry : l.index.byNpcId known = some e) :
      e ≠ l.nextEntity := Nat.ne_of_lt (roster.below (roster.indexed known e entry).1)
  constructor
  case mapper => exact cast.mapper
  case lasting =>
    intro known e agent
    obtain ⟨entry, untagged⟩ := cast.lasting known e agent
    have distinct : known ≠ id := by
      rintro rfl
      simp [free] at entry
    exact ⟨by simpa [apply, distinct] using entry, by simpa [apply, old entry] using untagged⟩
  case players =>
    intro known e entry
    by_cases same : known = id
    next =>
      obtain rfl : l.nextEntity = e := by simpa [apply, same] using entry
      exact .inr (by simp [apply])
    next =>
      have entry' : l.index.byNpcId known = some e := by simpa [apply, same] using entry
      rcases cast.players known e entry' with agent | tagged
      · exact .inl agent
      · exact .inr (by simpa [apply, old entry'] using tagged)

theorem rejoin (cast : Cast agents aliases l) (session : UInt32) (old : PlayerTag) (e : Entity)
    (tag : l.playerTag e = some old) : Cast agents aliases (l.apply (.rejoin session old e)) := by
  constructor
  case mapper => exact cast.mapper
  case lasting =>
    intro known x agent
    obtain ⟨entry, untagged⟩ := cast.lasting known x agent
    have distinct : x ≠ e := by
      rintro rfl
      simp [tag] at untagged
    exact ⟨entry, by simpa [apply, distinct] using untagged⟩
  case players =>
    intro known x entry
    rcases cast.players known x entry with agent | tagged
    · exact .inl agent
    · by_cases same : x = e
      next => exact .inr (by simp [apply, same])
      next => exact .inr (by simpa [apply, same] using tagged)

theorem leave (roster : Roster l) (cast : Cast agents aliases l) (player : Entity)
    (tag : PlayerTag) (tagged : l.playerTag player = some tag) :
    Cast agents aliases (l.apply (.leave player tag)) := by
  obtain ⟨id, identity, entry⟩ := roster.players player (by simp [tagged])
  constructor
  case mapper => exact cast.mapper
  case lasting =>
    intro known e agent
    obtain ⟨indexed, untagged⟩ := cast.lasting known e agent
    have other : e ≠ player := by
      rintro rfl
      simp [tagged] at untagged
    have distinct : known ≠ id := by
      rintro rfl
      exact other (Option.some.inj (indexed.symm.trans entry))
    refine ⟨?_, ?_⟩
    next => simpa [apply, identity, distinct] using indexed
    next => simpa [apply, destroy, release, other] using untagged
  case players =>
    intro known e indexed
    by_cases same : known = id
    next => simp [apply, identity, same] at indexed
    next =>
      have before : l.index.byNpcId known = some e := by
        simpa [apply, identity, same] using indexed
      have other : e ≠ player := by
        rintro rfl
        have known_id := (roster.indexed known e before).2.1
        exact same (Option.some.inj (known_id.symm.trans identity))
      rcases cast.players known e before with agent | present
      · exact .inl agent
      · exact .inr (by simpa [apply, destroy, release, other] using present)

theorem act (roster : Roster l) (cast : Cast agents aliases l) (a : Act) (enabled : l.Enabled a) :
    Cast agents aliases (l.apply a) := by
  by_cases account : a.isAccount = true
  next =>
    cases a with
    | enlist session id => exact cast.enlist roster session id enabled
    | rejoin session old e => exact cast.rejoin session old e enabled.1
    | leave player tag => exact cast.leave roster player tag enabled
    | _ => cases account
  next =>
    obtain ⟨-, -, tags, index⟩ := l.apply_accounts a (by simpa using account)
    exact cast.same (l.apply_mapper a) tags index

end Cast

theorem Initial.cast {l : Ledger} (initial : Initial l) : Cast l.index.byNpcId l.mapper l where
  mapper := rfl
  lasting := fun _ e entry => ⟨entry, initial.untagged e⟩
  players := fun _ _ entry => .inl entry

end Ledger

variable {F : Type} [Scalar F]

theorem run_cast {start w : World F} {past : List (Transition (World F) (Event F))}
    (initial : start.ledger.Initial) (run : ServerRun start past w) :
    w.ledger.Roster ∧ w.ledger.Cast start.ledger.index.byNpcId start.ledger.mapper := by
  refine Ledger.run_keeps _ (fun _ _ => True) ?_ ?_ initial.roster initial.cast run ?_
  · exact fun _ _ roster cast kept => cast.upkeep roster kept
  · exact fun _ _ a roster cast _ _ enabled => cast.act roster a enabled
  · exact fun _ _ => trivial

namespace World

/-- The login binds the session to an entity that carries a `PlayerTag`; in particular the
reconnect branch does not read a tag that is not there. -/
def BindsPlayer (w : World F) (session : UInt32) (playerId playerName : String) : Prop :=
  ∃ e bound, w.loginBind session playerId playerName = some (e, bound) ∧
    bound.index.bySessionIndex session = some e ∧ (bound.reg.playerTag e).isSome

theorem loginNew_total (w : World F) (session : UInt32) (playerId playerName : String) :
    ∃ joined, w.loginNew session playerId playerName = some joined := by
  have created : w.reg.create.valid w.reg.nextEntity = true := by simp [Registry.create]
  simp [loginNew, Registry.setPlayerTag, created]

theorem bindsPlayer_iff_target (w : World F) (session : UInt32) (playerId playerName : String) :
    w.BindsPlayer session playerId playerName ↔
      ∀ e, w.loginTarget playerId = some e → (w.reg.playerTag e).isSome := by
  constructor
  · rintro ⟨e, bound, found, -, -⟩ target known
    rcases w.loginBind_ledger bound session playerId playerName e found with
      ⟨unknown, -, -⟩ | ⟨same, old, tagged, -⟩
    · rw [unknown] at known
      cases known
    · obtain rfl := Option.some.inj (same.symm.trans known)
      simp only [ledger] at tagged
      simp [tagged]
  · intro players
    cases target : w.loginTarget playerId with
    | none =>
        obtain ⟨joined, made⟩ := w.loginNew_total session playerId playerName
        have enlisted := w.loginNew_ledger joined session playerId playerName made
        refine ⟨w.reg.nextEntity, joined, by simp [loginBind, target, made], ?_, ?_⟩
        · have index : joined.index = _ := congrArg Ledger.index enlisted
          simp [index, Ledger.apply, ledger]
        · have tags : joined.reg.playerTag = _ := congrArg Ledger.playerTag enlisted
          simp [tags, Ledger.apply, ledger]
    | some e =>
        obtain ⟨old, tagged⟩ := Option.isSome_iff_exists.mp (players e target)
        obtain ⟨joined, made⟩ : ∃ joined, w.loginAgain session e = some joined := by
          simp [loginAgain, tagged]
        obtain ⟨old, -, rejoined⟩ := w.loginAgain_ledger joined session e made
        refine ⟨e, joined, by simp [loginBind, target, made], ?_, ?_⟩
        · have index : joined.index = _ := congrArg Ledger.index rejoined
          simp [index, Ledger.apply]
        · have tags : joined.reg.playerTag = _ := congrArg Ledger.playerTag rejoined
          simp [tags, Ledger.apply]

end World

/-- The bootstrap data has an agent of this number that gets an entity. -/
def WorldBootstrapData.castsAgent (data : WorldBootstrapData F) (id : UInt32) : Bool :=
  data.agents.any fun agent => agent.agentId ≠ 1 && agent.agentId = id

theorem placeFurniture_index (furniture : List (FurnitureData F)) (w : World F) :
    (furniture.foldl placeFurniture w).ledger.index = w.ledger.index := by
  induction furniture generalizing w with
  | nil => rfl
  | cons furn rest ih => rw [List.foldl_cons, ih, placeFurniture_ledger]; rfl

theorem spawnAgents_index (draws : Nat → NeedsDraw F) (agents : List (InitialAgentState F × Nat))
    (state : World F × UInt8) (id : UInt32) :
    ((agents.foldl (fun state agent => spawnAgent state agent.1 (draws agent.2))
      state).1.ledger.index.byNpcId id).isSome =
      ((state.1.ledger.index.byNpcId id).isSome ||
        agents.any fun agent => agent.1.agentId ≠ 1 && agent.1.agentId = id) := by
  induction agents generalizing state with
  | nil => simp
  | cons agent rest ih =>
      obtain ⟨w, nextEmoId⟩ := state
      rw [List.foldl_cons, ih, spawnAgent_ledger, List.any_cons]
      by_cases default : agent.1.agentId = 1
      next => simp [default]
      next =>
        by_cases same : id = agent.1.agentId
        next => simp [default, same, Ledger.appear]
        next => simp [default, same, Ledger.appear, Ne.symm same]

theorem bootstrap_index (data : WorldBootstrapData F) (settings : SimulationSettings F)
    (obstacles : Option (List Obstacle)) (draws : Nat → NeedsDraw F) (start : World F)
    (booted : bootstrap data settings obstacles draws = some start) (id : UInt32) :
    (start.index.byNpcId id).isSome = data.castsAgent id := by
  unfold bootstrap at booted
  split at booted
  next => cases booted
  split at booted
  next => cases booted
  next =>
    rw [← Option.some.inj booted]
    have spawned := spawnAgents_index draws data.agents.zipIdx
      (data.furniture.foldl placeFurniture (emptyWorld data settings obstacles),
        EmotionRegistry.bootstrapRules.nextEmoId) id
    rw [placeFurniture_index] at spawned
    have counted : (data.agents.zipIdx.any fun agent =>
        agent.1.agentId ≠ 1 && agent.1.agentId = id) = data.castsAgent id := by
      rw [WorldBootstrapData.castsAgent]
      conv_rhs => rw [← List.zipIdx_map_fst 0 data.agents]
      rw [List.any_map]
      rfl
    rw [counted] at spawned
    exact spawned

/-- In every reachable state a login binds a player if and only if the number its id resolves
to is not the number of an agent of the bootstrap data. -/
theorem login_binds_player_iff (data : WorldBootstrapData F) (settings : SimulationSettings F)
    (obstacles : Option (List Obstacle)) (draws : Nat → NeedsDraw F) (start w : World F)
    (past : List (Transition (World F) (Event F)))
    (booted : bootstrap data settings obstacles draws = some start)
    (run : ServerRun start past w) (session : UInt32) (playerId playerName : String) :
    w.BindsPlayer session playerId playerName ↔
      data.castsAgent (start.mapper.getAgentNumericId playerId) = false := by
  have initial := bootstrap_initial data settings obstacles draws start booted
  obtain ⟨-, cast⟩ := run_cast initial run
  have lookup : w.loginTarget playerId =
      w.ledger.index.byNpcId (start.mapper.getAgentNumericId playerId) := by
    have mapper : w.mapper = start.mapper := cast.mapper
    rw [World.loginTarget, mapper]
    rfl
  have index := bootstrap_index data settings obstacles draws start booted
    (start.mapper.getAgentNumericId playerId)
  rw [w.bindsPlayer_iff_target, ← index, lookup]
  constructor
  · intro players
    by_contra agent
    obtain ⟨e, entry⟩ := Option.isSome_iff_exists.mp (by simpa only [Bool.not_eq_false] using agent)
    obtain ⟨indexed, untagged⟩ := cast.lasting _ e entry
    have tagged := players e indexed
    have absent : w.reg.playerTag e = none := untagged
    simp [absent] at tagged
  · intro free e entry
    rcases cast.players _ e entry with agent | tagged
    · have entry' : start.index.byNpcId (start.mapper.getAgentNumericId playerId) = some e := agent
      simp [entry'] at free
    · exact tagged

def hamletData : WorldBootstrapData ℚ :=
  { locations := [⟨"광장", 0, 0, 0, 3, 1, 1⟩]
    agents := [⟨7, "ella", "엘라", "광장", 3, 0, 0, "평온", "대기", 1 / 2, []⟩]
    furniture := []
    npcSpeed := 2
    ticksPerGameHour := 60 }

def hamlet : World ℚ :=
  populate (emptyWorld hamletData ⟨2, 60⟩ (some [])) hamletData fun _ => ⟨100, 100⟩

theorem hamlet_boots :
    bootstrap hamletData ⟨2, 60⟩ (some []) (fun _ => ⟨100, 100⟩) = some hamlet := by
  rw [bootstrap, if_neg (by decide), if_neg (by decide +kernel)]
  rfl

theorem login_binds_player_iff_hamlet :
    hamlet.BindsPlayer 1 "bot_1" "Bot" ↔
      hamletData.castsAgent (hamlet.mapper.getAgentNumericId "bot_1") = false :=
  login_binds_player_iff hamletData ⟨2, 60⟩ (some []) (fun _ => ⟨100, 100⟩) hamlet hamlet []
    hamlet_boots .rest 1 "bot_1" "Bot"

-- A client that logs in as the agent binds no player: the tag it reads is not there.
theorem agent_login_unbound : ∃ past w, ServerRun hamlet past w ∧
    past.reverse.map (·.event) = [.connect] ∧ ¬w.BindsPlayer 1 "ella" "Ella" := by
  have passed : (followWhile step (fun _ _ => true) [.connect] hamlet).any
      (fun w => (w.loginBind 1 "ella" "Ella").isNone) = true := by decide +kernel
  obtain ⟨past, w, run, -, events, undefined⟩ := Run.exists_of_check _ _ _ passed
  refine ⟨past, w, run, events, ?_⟩
  rintro ⟨e, bound, found, -, -⟩
  simp [found] at undefined

end MundusVivens
