import MundusVivens.Counters.Writers
import MundusVivens.Emotions.Numbering
import MundusVivens.Furniture.Npcs

set_option autoImplicit false

/-!
# Moods

An NPC stores the names of its emotions with their ids. Decay, contagion and dialogues write both,
and decay compares only the ids.
-/

namespace MundusVivens

open Runs

namespace EmotionRegistry

variable {registry : EmotionRegistry} {cached : Option ContagionIds}

theorem intern_named (registry : EmotionRegistry) (name : String) (row : EmotionRow) :
    (registry.intern name row).1.nameToId name = some (registry.intern name row).2 := by
  unfold intern
  split
  next known => exact known
  next => exact Function.update_self ..

structure Grown (before after : EmotionRegistry) : Prop where
  keeps : ∀ name id, before.nameToId name = some id → after.nameToId name = some id
  longer : before.decayTicksTable.length ≤ after.decayTicksTable.length

theorem Grown.refl (registry : EmotionRegistry) : Grown registry registry :=
  ⟨fun _ _ known => known, Nat.le_refl _⟩

theorem Grown.trans {first second third : EmotionRegistry} (earlier : Grown first second)
    (later : Grown second third) : Grown first third :=
  ⟨fun name id known => later.keeps name id (earlier.keeps name id known),
    Nat.le_trans earlier.longer later.longer⟩

theorem intern_grown (registry : EmotionRegistry) (name : String) (row : EmotionRow) :
    Grown registry (registry.intern name row).1 := by
  refine ⟨fun other id known => intern_stable registry name other row id known, ?_⟩
  unfold intern
  split
  next => exact Nat.le_refl _
  next => simp [append]

theorem internContagion_grown (registry : EmotionRegistry) (cached : Option ContagionIds) :
    Grown registry (registry.internContagion cached).1 := by
  unfold internContagion
  split
  next => exact .refl registry
  next => exact (intern_grown registry _ _).trans (intern_grown _ _ _)

-- The registry is the table of a log of names, and the cached ids are those of their names.
structure Recorded (registry : EmotionRegistry) (cached : Option ContagionIds) : Prop where
  logged : ∃ log, NameTable.Represents 256 registry.table log
  named : ∀ ids, cached = some ids →
    registry.nameToId "불안" = some ids.anxietyId ∧ registry.nameToId "경계" = some ids.alertId

theorem Recorded.intern (recorded : Recorded registry cached) (name : String) (row : EmotionRow) :
    Recorded (registry.intern name row).1 cached := by
  obtain ⟨log, represents⟩ := recorded.logged
  have keeps := (intern_grown registry name row).keeps
  constructor
  case logged =>
    refine ⟨NameTable.record log name row, ?_⟩
    rw [table_intern]
    exact NameTable.register_represents 256 _ log represents name row
  case named =>
    intro ids known
    obtain ⟨anxious, alert⟩ := recorded.named ids known
    exact ⟨keeps _ _ anxious, keeps _ _ alert⟩

theorem Recorded.contagion (recorded : Recorded registry cached) :
    Recorded (registry.internContagion cached).1 (some (registry.internContagion cached).2) := by
  cases cached with
  | some ids => exact recorded
  | none =>
      refine ⟨((recorded.intern "불안" (5, .neutral)).intern "경계" (5, .neutral)).logged, ?_⟩
      intro ids known
      obtain rfl := Option.some.inj known
      have anxious := intern_named registry "불안" (5, .neutral)
      exact ⟨(intern_grown _ _ _).keeps _ _ anxious, intern_named _ "경계" (5, .neutral)⟩

theorem logged_length {log : List (String × EmotionRow)}
    (represents : NameTable.Represents 256 registry.table log) :
    registry.decayTicksTable.length = log.length := by
  have rows := congrArg List.length represents.rows
  simpa [table, registry.aligned] using rows

theorem Recorded.distinct (recorded : Recorded registry cached)
    (short : registry.decayTicksTable.length ≤ 256) {first second : String} {id : UInt8}
    (one : registry.nameToId first = some id) (other : registry.nameToId second = some id) :
    first = second := by
  obtain ⟨log, represents⟩ := recorded.logged
  have faithful := (NameTable.faithful_iff 256 (by decide) _ log represents).mpr
    (logged_length represents ▸ short)
  exact faithful.distinct first second id.toNat (by simp [table, one]) (by simp [table, other])

theorem updateTicks_ne (intensity : Int) : updateTicks intensity ≠ 0 := by
  unfold updateTicks
  repeat' split
  all_goals decide

theorem Recorded.length_le (recorded : Recorded registry cached) (names : Finset String)
    (covers : ∀ name, (registry.nameToId name).isSome = true → name ∈ names) :
    registry.decayTicksTable.length ≤ names.card := by
  obtain ⟨log, represents⟩ := recorded.logged
  rw [logged_length represents, ← List.length_map Prod.fst,
    ← List.toFinset_card_of_nodup represents.nodup]
  refine Finset.card_le_card fun name listed => covers name ?_
  obtain ⟨⟨_, row⟩, member, rfl⟩ := List.mem_map.mp (List.mem_toFinset.mp listed)
  obtain ⟨index, entry⟩ := List.getElem?_of_mem member
  have known := represents.known index _ row entry
  cases stored : registry.nameToId _ with
  | some id => rfl
  | none => simp [table, stored] at known

theorem Recorded.names (recorded : Recorded registry cached) :
    ∃ names : Finset String, names.card ≤ registry.decayTicksTable.length ∧
      ∀ name, (registry.nameToId name).isSome = true → name ∈ names := by
  obtain ⟨log, represents⟩ := recorded.logged
  refine ⟨(log.map Prod.fst).toFinset, ?_, fun name known => ?_⟩
  · rw [logged_length represents, ← List.length_map Prod.fst]
    exact List.toFinset_card_le _
  · by_contra other
    have unknown := represents.unknown name fun listed => other (List.mem_toFinset.mpr listed)
    simp [table] at unknown
    simp [unknown] at known

end EmotionRegistry

open EmotionRegistry

/-- The ids are those of the names. While ids tell names apart, the base emotion shows when no
ticks are left. -/
structure EmotionComp.Denotes (registry : EmotionRegistry) (emotion : EmotionComp) : Prop where
  current : registry.nameToId emotion.currentEmotion = some emotion.currentEmotionId
  base : registry.nameToId emotion.baseEmotion = some emotion.baseEmotionId
  settled : registry.decayTicksTable.length ≤ 256 → emotion.decayTicksRemaining = 0 →
    emotion.currentEmotion = emotion.baseEmotion ∧ emotion.currentEmotionId = emotion.baseEmotionId

theorem EmotionComp.Denotes.grown {before after : EmotionRegistry} {emotion : EmotionComp}
    (denotes : emotion.Denotes before) (grown : Grown before after) : emotion.Denotes after :=
  ⟨grown.keeps _ _ denotes.current, grown.keeps _ _ denotes.base,
    fun short => denotes.settled (Nat.le_trans grown.longer short)⟩

namespace World

section

variable {F : Type} {w w' : World F} {n : Entity}

theorem decayEmotion_denotes {registry : EmotionRegistry} {cached : Option ContagionIds}
    {emotion : EmotionComp} (recorded : Recorded registry cached)
    (denotes : emotion.Denotes registry) : (decayEmotion emotion).Denotes registry := by
  unfold decayEmotion
  split
  next =>
    dsimp only
    split
    next => exact ⟨denotes.base, denotes.base, fun _ _ => ⟨rfl, rfl⟩⟩
    next kept =>
      refine ⟨denotes.current, denotes.base, fun short spent => ?_⟩
      have same : emotion.currentEmotionId = emotion.baseEmotionId := by
        by_contra differs
        exact kept ⟨spent, differs⟩
      -- The code compares ids, so the names are equal because ids tell them apart.
      exact ⟨recorded.distinct short denotes.current (same ▸ denotes.base), same⟩
  next => exact denotes

theorem catchEmotion_denotes {registry : EmotionRegistry} {ids : ContagionIds}
    {emotion : EmotionComp} (recorded : Recorded registry (some ids))
    (denotes : emotion.Denotes registry) (source : EmotionCategory) :
    (catchEmotion emotion ids source).Denotes registry := by
  obtain ⟨anxious, alert⟩ := recorded.named ids rfl
  refine ⟨?_, denotes.base, fun _ spent => absurd spent (by simp [catchEmotion])⟩
  unfold catchEmotion
  dsimp only
  split
  next => exact alert
  next => exact anxious

structure Feels (w : World F) (n : Entity) : Prop where
  recorded : Recorded w.emotions w.contagionIds
  felt : Has w.reg.emotion n (EmotionComp.Denotes w.emotions)

theorem Feels.of_same (feels : w.Feels n)
    (registry : (w'.emotions, w'.contagionIds) = (w.emotions, w.contagionIds))
    (emotion : w'.reg.emotion n = w.reg.emotion n) : w'.Feels n := by
  obtain ⟨names, ids⟩ := Prod.mk.inj registry
  refine ⟨?_, ?_⟩
  · rw [names, ids]
    exact feels.recorded
  · rw [names]
    exact feels.felt.of_same emotion

theorem Feels.write (feels : w.Feels n) {emotions : EmotionRegistry} {cached : Option ContagionIds}
    (recorded : Recorded emotions cached) (grown : Grown w.emotions emotions) :
    ({ w with emotions := emotions, contagionIds := cached } : World F).Feels n := by
  obtain ⟨emotion, held, denotes⟩ := feels.felt
  exact ⟨recorded, emotion, held, denotes.grown grown⟩

theorem Feels.setEmotion (feels : w.Feels n) (y : Entity) (emotion : EmotionComp)
    (denotes : n = y → emotion.Denotes w.emotions) : (w.setEmotion y emotion).Feels n :=
  ⟨feels.recorded, feels.felt.set denotes⟩

theorem Feels.infect [Scalar F] (feels : w.Feels n) (y : Entity) (emotion : EmotionComp)
    (denotes : n = y → emotion.Denotes w.emotions) (source : UInt8) (count : Nat) (roll : F) :
    (w.infectEmotion y emotion source count roll).Feels n := by
  have recorded := feels.recorded.contagion
  have grown := internContagion_grown w.emotions w.contagionIds
  have numbered := feels.write recorded grown
  unfold infectEmotion
  dsimp only
  split
  next =>
    refine numbered.setEmotion y _ fun same => ?_
    exact catchEmotion_denotes recorded ((denotes same).grown grown) _
  next => exact numbered

theorem Feels.decayEntity [Scalar F] (feels : w.Feels n) (zones : UInt32 → List UInt8)
    (roll : Entity → F) (y : Entity) : (w.decayEntity zones roll y).Feels n := by
  unfold World.decayEntity
  split
  next emotion identity _ shown _ =>
    have denotes (same : n = y) : (decayEmotion emotion).Denotes w.emotions := by
      subst same
      exact decayEmotion_denotes feels.recorded (feels.felt.get shown)
    have decayed := feels.setEmotion y (decayEmotion emotion) denotes
    dsimp only
    split
    next => exact decayed
    next =>
      split
      next => exact decayed
      next => exact decayed.infect y _ denotes _ _ _
  next => exact feels

theorem Feels.emotionDecay [Scalar F] (feels : w.Feels n) (draw : DecayDraw F) :
    (w.emotionDecay draw).Feels n :=
  List.foldlRecOn (motive := fun m : World F => m.Feels n) _ _ feels
    fun _ known y _ => known.decayEntity _ _ y

theorem Feels.update (feels : w.Feels n) (update : AgentEmotionUpdate) :
    (w.applyEmotionUpdate update).Feels n := by
  unfold applyEmotionUpdate
  split
  next => exact feels
  next y _ =>
    split
    next emotion identity _ shown _ =>
      have grown := intern_grown w.emotions update.newEmotion
        (updateTicks update.intensity, updateCategory update.category)
      have recorded := feels.recorded.intern update.newEmotion
        (updateTicks update.intensity, updateCategory update.category)
      refine (feels.write recorded grown).setEmotion y _ fun same => ?_
      subst same
      have base := (feels.felt.get shown).base
      exact ⟨intern_named w.emotions _ _, grown.keeps _ _ base,
        fun _ spent => absurd spent (updateTicks_ne update.intensity)⟩
    next => exact feels

theorem Feels.dialogueTask [Scalar F] (feels : w.Feels n) (group : List Entity) (tick : Int)
    (success : Bool) (result : DialogueResult F) (draws : Nat → LocationRegistry.RadiusDraw F)
    (ran : w.dialogueTask group tick success result draws = some w') : w'.Feels n := by
  obtain ⟨updates, later⟩ := w.dialogueTask_feels w' group tick success result draws ran
  have updated : (updates.foldl applyEmotionUpdate w).Feels n :=
    List.foldlRecOn (motive := fun m : World F => m.Feels n) updates applyEmotionUpdate feels
      fun _ known update _ => known.update update
  exact updated.of_same ((later n n).same .emotions rfl) ((later n n).same .emotion rfl)

end

end World

variable {F : Type} [Scalar F]

theorem step_feels (event : Event F) (w w' : World F) (n : Entity) (resident : w.Resident n)
    (feels : w.Feels n) (stepped : step event w = some w') : w'.Feels n := by
  have within := resident_step_within event w w' n resident stepped
  have apart (calm : event.scope.covers .emotion = false)
      (unnamed : event.scope.covers .emotions = false) : w'.Feels n :=
    feels.of_same (within.same .emotions unnamed) (within.same .emotion calm)
  cases event with
  | drainTask draws =>
      rcases w.drainTask_cases w' draws stepped with
        rfl | ⟨ticket, request, reply, rest, popped, ran⟩
      · exact feels
      have taken : ({ w with grpc := rest } : World F).Feels n := feels.of_same rfl rfl
      have touched := World.runTask_within _ w' n request reply draws ran
      have other (calm : request.method.taskScope.covers .emotion = false)
          (unnamed : request.method.taskScope.covers .emotions = false) : w'.Feels n :=
        taken.of_same (touched.same .emotions unnamed) (touched.same .emotion calm)
      cases request with
      | triggerDialogue ids group tick =>
          cases reply with
          | dialogue success result => exact taken.dialogueTask _ _ _ _ _ ran
          | _ =>
              obtain rfl := Option.some.inj ran
              exact taken
      | _ => exact other rfl rfl
  | emotionDecay draw =>
      obtain rfl := Option.some.inj stepped
      exact feels.emotionDecay draw
  | command cmd => cases cmd <;> exact apart rfl rfl
  | _ => exact apart rfl rfl

-- What bootstrap keeps, with the next id that it counts.
structure Moody (state : World F × UInt8) : Prop where
  counted : state.2 = state.1.emotions.nextId
  recorded : Recorded state.1.emotions state.1.contagionIds
  felt : ∀ n, state.1.isNpc n = true →
    Has state.1.reg.emotion n (EmotionComp.Denotes state.1.emotions)

theorem emptyWorld_moody (data : WorldBootstrapData F) (settings : SimulationSettings F)
    (obstacles : Option (List Obstacle)) :
    Moody (emptyWorld data settings obstacles, bootstrapRules.nextEmoId) := by
  obtain ⟨counted, represents⟩ := bootstrapRules_represents
  refine ⟨counted, ⟨⟨_, represents⟩, fun ids known => ?_⟩, fun n npc => ?_⟩
  · cases known
  · simp [World.isNpc, emptyWorld, Registry.empty] at npc

theorem placeFurniture_moody (w : World F) (furn : FurnitureData F) (nextEmoId : UInt8)
    (moody : Moody (w, nextEmoId)) : Moody (placeFurniture w furn, nextEmoId) := by
  have same : ((placeFurniture w furn).emotions, (placeFurniture w furn).contagionIds) =
      (w.emotions, w.contagionIds) := by
    unfold placeFurniture
    exact updateEntityPosition_same _ _ _ _ .emotions (by simp)
  obtain ⟨emotions, ids⟩ := Prod.mk.inj same
  refine ⟨?_, ?_, fun n npc => ?_⟩
  · rw [emotions]
    exact moody.counted
  · rw [emotions, ids]
    exact moody.recorded
  · have other : n ≠ w.reg.nextEntity := by
      rintro rfl
      simp [World.isNpc, placeFurniture_needs] at npc
    have within := placeFurniture_within w furn n n other
    rw [emotions]
    exact (moody.felt n (within.npc_before npc)).of_same (within.same .emotion rfl)

theorem spawnAgent_emotions (w : World F) (nextEmoId : UInt8) (agent : InitialAgentState F)
    (draw : NeedsDraw F) (settler : agent.agentId ≠ 1) :
    let next := Bootstrap.agent ⟨w.emotions, nextEmoId⟩ agent.emotion
    let id := (next.registry.nameToId agent.emotion).getD 0
    let spawned := spawnAgent (w, nextEmoId) agent draw
    spawned.1.emotions = next.registry ∧ spawned.1.contagionIds = w.contagionIds ∧
      spawned.2 = next.nextEmoId ∧ spawned.1.reg.emotion w.reg.nextEntity =
        some ⟨agent.emotion, agent.emotion, id, id, 0⟩ := by
  have placed (m : World F) (e : Entity) (x z : F) :
      (m.updateEntityPosition e x z).emotions = m.emotions ∧
        (m.updateEntityPosition e x z).contagionIds = m.contagionIds :=
    Prod.mk.inj (updateEntityPosition_same m e x z .emotions (by simp))
  unfold spawnAgent
  dsimp only
  rw [if_neg settler]
  dsimp only
  rw [(placed _ _ _ _).1]
  refine ⟨rfl, (placed _ _ _ _).2, rfl, ?_⟩
  simp [equipAgent, World.setLocation, World.setIdentity]

theorem spawnAgent_moody (state : World F × UInt8) (agent : InitialAgentState F)
    (draw : NeedsDraw F) (moody : Moody state) : Moody (spawnAgent state agent draw) := by
  by_cases player : agent.agentId = 1
  next =>
    rw [spawnAgent_player state agent draw player]
    exact moody
  obtain ⟨w, nextEmoId⟩ := state
  obtain ⟨counted, same⟩ := agent_table ⟨w.emotions, nextEmoId⟩ agent.emotion moody.counted
  obtain ⟨emotions, ids, next, born⟩ := spawnAgent_emotions w nextEmoId agent draw player
  rw [same] at emotions born
  have grown := intern_grown w.emotions agent.emotion (3, agentCategory agent.emotion)
  have named := intern_named w.emotions agent.emotion (3, agentCategory agent.emotion)
  refine ⟨?_, ?_, fun n npc => ?_⟩
  · rw [next, emotions, ← same]
    exact counted
  · rw [emotions, ids]
    exact moody.recorded.intern agent.emotion _
  rw [emotions]
  by_cases new : n = w.reg.nextEntity
  next =>
    subst new
    refine ⟨_, born, ?_, ?_, fun _ _ => ⟨rfl, rfl⟩⟩
    all_goals simp [named]
  next =>
    have within := spawnAgent_within (w, nextEmoId) agent draw n n new
    have kept : (spawnAgent (w, nextEmoId) agent draw).1.reg.emotion n = w.reg.emotion n :=
      within.same .emotion rfl
    obtain ⟨emotion, held, denotes⟩ := moody.felt n (within.npc_before npc)
    exact ⟨emotion, kept.trans held, denotes.grown grown⟩

theorem bootstrap_feels (data : WorldBootstrapData F) (settings : SimulationSettings F)
    (obstacles : Option (List Obstacle)) (draws : Nat → NeedsDraw F) (w : World F)
    (booted : bootstrap data settings obstacles draws = some w) (n : Entity)
    (npc : w.isNpc n = true) : w.Feels n := by
  obtain ⟨_, moody⟩ := bootstrap_by_states Moody data settings obstacles draws w booted
    (emptyWorld_moody data settings obstacles) placeFurniture_moody
    fun agent _ i state moody => spawnAgent_moody state agent (draws i) moody
  exact ⟨moody.recorded, moody.felt n npc⟩

theorem reachable_feels (start w : World F) (past : List (Transition (World F) (Event F)))
    (matched : start.Matched) (feels : ∀ n, start.isNpc n = true → start.Feels n)
    (run : ServerRun start past w) (n : Entity) (npc : w.isNpc n = true) : w.Feels n := by
  have kept := Run.preserved
    (fun w : World F => w.Matched ∧ ∀ n, w.isNpc n = true → w.Feels n) ⟨matched, feels⟩
    (fun w event w' here stepped => by
      refine ⟨step_matched event w w' here.1 stepped, fun n npc => ?_⟩
      have before := step_npc event w w' n here.1 stepped npc
      exact step_feels event w w' n (here.1.npc before) (here.2 n before) stepped) run
  exact kept.2 n npc

/-- In every run, whatever decays, is caught or is said: the ids of an NPC are those of its names,
and it shows its base emotion when no ticks are left. -/
theorem emotions_keep_ids (data : WorldBootstrapData F) (settings : SimulationSettings F)
    (obstacles : Option (List Obstacle)) (draws : Nat → NeedsDraw F) (start w : World F)
    (past : List (Transition (World F) (Event F)))
    (booted : bootstrap data settings obstacles draws = some start) (run : ServerRun start past w)
    (names : Finset String)
    (registered : ∀ name, (w.emotions.nameToId name).isSome = true → name ∈ names)
    (few : names.card < 256) (n : Entity) (npc : w.isNpc n = true) :
    ∃ emotion, w.reg.emotion n = some emotion ∧
      w.emotions.nameToId emotion.currentEmotion = some emotion.currentEmotionId ∧
      w.emotions.nameToId emotion.baseEmotion = some emotion.baseEmotionId ∧
      (emotion.decayTicksRemaining = 0 → emotion.currentEmotion = emotion.baseEmotion ∧
        emotion.currentEmotionId = emotion.baseEmotionId) := by
  have feels := reachable_feels start w past
    (bootstrap_matched data settings obstacles draws start booted)
    (bootstrap_feels data settings obstacles draws start booted) run n npc
  obtain ⟨emotion, held, denotes⟩ := feels.felt
  have length := feels.recorded.length_le names registered
  exact ⟨emotion, held, denotes.current, denotes.base, denotes.settled (by omega)⟩

def squareData : WorldBootstrapData ℚ :=
  { locations := [⟨"광장", 10, 0, 10, 3, 1, 1⟩]
    agents := [⟨7, "ella", "엘라", "광장", 10, 0, 10, "평온", "대기", 1 / 2, []⟩,
      ⟨8, "hans", "한스", "광장", 11, 0, 10, "평온", "대기", 1 / 2, []⟩]
    furniture := []
    npcSpeed := 2
    ticksPerGameHour := 60 }

def square : World ℚ :=
  populate (emptyWorld squareData ⟨2, 60⟩ (some [])) squareData fun _ => ⟨100, 100⟩

theorem square_boots : bootstrap squareData ⟨2, 60⟩ (some []) (fun _ => ⟨100, 100⟩) = some square := by
  rw [bootstrap, if_neg (by decide), if_neg (by decide +kernel)]
  rfl

def decayPass : Event ℚ := .emotionDecay ⟨id, id, fun _ => 0⟩

-- Ella leaves a dialogue with Hans angry. He becomes anxious, she calms down, and catches his
-- anxiety when he has lost it.
def quarrel : List (Event ℚ) :=
  [.requestTick 60, .respond 0 (.tick true []), .drainTask fun _ => ⟨0, 0⟩, .syncTick,
    .socialInteraction [] ⟨fun _ => 1, id, 0, 0, 0, fun _ => 0⟩ 0, decayPass,
    .respond 1 (.dialogue true ⟨"", [⟨7, "분노", 1, 2⟩], [], [], true⟩),
    .drainTask fun _ => ⟨0, 0⟩] ++ List.replicate 7 decayPass

def showsEmotion (w : World ℚ) (n : Entity) (current : String) (ticks : Int) : Bool :=
  (w.reg.emotion n).any fun emotion =>
    decide (emotion.currentEmotion = current) && decide (emotion.decayTicksRemaining = ticks)

theorem emotions_keep_ids_square : ∃ past w, ServerRun square past w ∧
    past.reverse.map (·.event) = quarrel ∧ showsEmotion w 0 "불안" 1 = true ∧
      showsEmotion w 1 "평온" 0 = true ∧
      ∀ n, n = 0 ∨ n = 1 → ∃ emotion, w.reg.emotion n = some emotion ∧
        w.emotions.nameToId emotion.currentEmotion = some emotion.currentEmotionId ∧
        w.emotions.nameToId emotion.baseEmotion = some emotion.baseEmotionId ∧
        (emotion.decayTicksRemaining = 0 → emotion.currentEmotion = emotion.baseEmotion ∧
          emotion.currentEmotionId = emotion.baseEmotionId) := by
  have passed : (followWhile step (fun _ _ => true) quarrel square).any (fun w =>
      showsEmotion w 0 "불안" 1 && showsEmotion w 1 "평온" 0 && w.isNpc 0 && w.isNpc 1 &&
        decide (w.emotions.decayTicksTable.length < 256)) = true := by decide +kernel
  obtain ⟨past, w, run, -, events, checked⟩ := Run.exists_of_check _ _ _ passed
  simp only [Bool.and_eq_true, decide_eq_true_eq] at checked
  obtain ⟨⟨⟨⟨anxious, calm⟩, ella⟩, hans⟩, short⟩ := checked
  have feels := reachable_feels square w past
    (bootstrap_matched squareData ⟨2, 60⟩ (some []) (fun _ => ⟨100, 100⟩) square square_boots)
    (bootstrap_feels squareData ⟨2, 60⟩ (some []) (fun _ => ⟨100, 100⟩) square square_boots) run 0 ella
  obtain ⟨names, few, registered⟩ := feels.recorded.names
  refine ⟨past, w, run, events, anxious, calm, fun n either => ?_⟩
  have npc : w.isNpc n = true := by
    rcases either with rfl | rfl
    · exact ella
    · exact hans
  exact emotions_keep_ids squareData ⟨2, 60⟩ (some []) (fun _ => ⟨100, 100⟩) square w past
    square_boots run names registered (Nat.lt_of_le_of_lt few short) n npc

end MundusVivens
