import MundusVivens.Shared.Folds
import MundusVivens.Systems.Movement

set_option autoImplicit false

namespace MundusVivens

open Scalar

variable {F : Type} [Scalar F]

namespace World

-- The visiting orders and the contagion roll of each entity.
structure DecayDraw (F : Type) where
  zoneRank : Entity → Nat
  rank : Entity → Nat
  roll : Entity → F

def emotionCategory (w : World F) (id : UInt8) : EmotionCategory :=
  (w.emotions.categoryTable[id.toNat]?).getD .neutral

-- The negative emotions shown in each zone, in visiting order.
def zoneNegativeEmotions (w : World F) (rank : Entity → Nat) : UInt32 → List UInt8 :=
  (w.view rank fun e => (w.reg.location e).isSome && (w.reg.emotion e).isSome).foldl
    (fun zones e =>
      match w.reg.location e, w.reg.emotion e with
      | some loc, some emotion =>
          if w.emotionCategory emotion.currentEmotionId = .neutral then zones
          else Function.update zones loc.zoneId (zones loc.zoneId ++ [emotion.currentEmotionId])
      | _, _ => zones)
    fun _ => []

def decayEmotion (emotion : EmotionComp) : EmotionComp :=
  if 0 < emotion.decayTicksRemaining then
    let ticked := { emotion with decayTicksRemaining := emotion.decayTicksRemaining - 1 }
    if ticked.decayTicksRemaining = 0 ∧ ticked.currentEmotionId ≠ ticked.baseEmotionId then
      { ticked with
        currentEmotion := ticked.baseEmotion, currentEmotionId := ticked.baseEmotionId }
    else ticked
  else emotion

def contagionChance (count : Nat) : F :=
  let raw := ofInt count * lit 0.15
  if lt (lit 0.45) raw then lit 0.45 else raw

def catchEmotion (emotion : EmotionComp) (ids : EmotionRegistry.ContagionIds)
    (source : EmotionCategory) : EmotionComp :=
  { emotion with
    currentEmotion := if source = .hostility then "경계" else "불안"
    currentEmotionId := if source = .hostility then ids.alertId else ids.anxietyId
    decayTicksRemaining := 5 }

-- At least one negative emotion is shown in the zone of the entity.
def infectEmotion (w : World F) (e : Entity) (emotion : EmotionComp) (source : UInt8)
    (count : Nat) (roll : F) : World F :=
  let (emotions, ids) := w.emotions.internContagion w.contagionIds
  let numbered := { w with emotions := emotions, contagionIds := some ids }
  if emotion.currentEmotionId = emotion.baseEmotionId ∧ emotion.currentEmotionId ≠ ids.anxietyId ∧
      emotion.currentEmotionId ≠ ids.alertId ∧ lt roll (contagionChance count) then
    numbered.setEmotion e (catchEmotion emotion ids (numbered.emotionCategory source))
  else numbered

def decayEntity (zones : UInt32 → List UInt8) (roll : Entity → F) (w : World F) (e : Entity) :
    World F :=
  match w.reg.busy e, w.reg.emotion e, w.reg.identity e with
  | none, some emotion, some _ =>
      let decayed := decayEmotion emotion
      let shown := w.setEmotion e decayed
      match shown.reg.location e with
      | none => shown
      | some loc =>
          match zones loc.zoneId with
          | [] => shown
          | source :: rest => shown.infectEmotion e decayed source (rest.length + 1) (roll e)
  | _, _, _ => w

def emotionDecay (w : World F) (draw : DecayDraw F) : World F :=
  let zones := w.zoneNegativeEmotions draw.zoneRank
  (w.view draw.rank fun e => (w.reg.emotion e).isSome).foldl (decayEntity zones draw.roll) w

-- The draws of one initiator: `dis(gen)` for each purpose, and the shuffle.
structure SocialDraw (F : Type) where
  focus : Nat → F
  shuffle : Nat → Nat
  initiation : F
  target : F
  acceptance : F
  join : Nat → F

def socialModifier (type : LocationType) : F :=
  match type with
  | .pub => lit 1.8
  | .market => lit 1.5
  | .square => lit 1.2
  | .church => lit 0.3
  | _ => lit 1

def isFocusedOnActivity (activity : String) (roll : F) : Bool :=
  if containsText activity "취침" || containsText activity "휴식" then true
  else if containsText activity "기도" || containsText activity "명상" then lt roll (lit 0.8)
  else false

def recoverEnergy (w : World F) (e : Entity) : World F :=
  match w.reg.cooldown e, w.reg.location e with
  | some cooldown, some loc =>
      if cooldown.socialEnergy < cooldown.maxSocialEnergy ∧
          (loc.type = .pub ∨ w.clock.tick % 10 = 0) then
        w.setCooldown e
          { cooldown with
            socialEnergy := min cooldown.maxSocialEnergy (cooldown.socialEnergy + 1) }
      else w
  | _, _ => w

-- `get_or_emplace<CooldownComp>`.
def ensureCooldown (w : World F) (e : Entity) : World F × CooldownComp :=
  match w.reg.cooldown e with
  | some cooldown => (w, cooldown)
  | none => (w.setCooldown e .initial, .initial)

-- Entities that never talk: players, the dead and those without reason.
def isSpeaker (w : World F) (e : Entity) : Bool :=
  (w.reg.playerTag e).isNone && !w.isDead e &&
    (match w.reg.sentience e with
      | some sentience => sentience.isSentient
      | none => true)

-- Entities that talk to nobody now: busy or in combat.
def isOccupied (w : World F) (e : Entity) : Bool :=
  (w.reg.busy e).isSome || w.hasCombatTarget e

-- The candidates gathered so far, with the number of focus rolls drawn.
structure Gathering (F : Type) where
  world : World F
  rolls : Nat
  candidates : List Entity

def gatherNeighbor (processed : List Entity) (initiator : Entity) (locI : LocationComp F)
    (draw : SocialDraw F) (state : Gathering F) (neighbor : Entity) : Option (Gathering F) :=
  let w := state.world
  if neighbor = initiator || processed.contains neighbor then some state
  else if !w.isSpeaker neighbor || w.isOccupied neighbor then some state
  else
    match w.reg.activity neighbor with
    | none => some state
    | some activity =>
        let (ready, cooldown) := w.ensureCooldown neighbor
        if cooldown.socialEnergy < 20 ∨ w.clock.tick ≤ cooldown.cognitiveRefractoryUntil then
          some { state with world := ready }
        else
          let rolled := { state with world := ready, rolls := state.rolls + 1 }
          if isFocusedOnActivity activity.currentActivity (draw.focus state.rolls) then some rolled
          else do
            let locC ← ready.reg.location neighbor
            if locI.locationName ≠ locC.locationName then some rolled
            else some { rolled with candidates := rolled.candidates ++ [neighbor] }

-- `std::shuffle`: any order of the positions.
def shuffled (rank : Nat → Nat) (candidates : List Entity) : List Entity :=
  (candidates.zipIdx.insertionSort fun a b => rank a.2 ≤ rank b.2).map (·.1)

def extroversion (w : World F) (e : Entity) : F :=
  match w.reg.personality e with
  | some personality => personality.extroversion
  | none => lit 0.5

def relationship (w : World F) (e : Entity) (id : UInt32) : Option RelationshipEntry := do
  let cache ← w.reg.relationships e
  cache.relationships id

def liking (w : World F) (e : Entity) (id : UInt32) : Int :=
  match w.relationship e id with
  | some entry => entry.liking
  | none => 0

def initiationChance (w : World F) (initiator : Entity) (modifier : F) : F :=
  let raw := lit 0.60 * (lit 0.3 + w.extroversion initiator) * modifier
  Scalar.clamp raw (lit 0.02) (lit 0.60)

-- The weight of a target candidate, when it is a possible target.
def targetWeight (w : World F) (initiator : Entity) (idI : UInt32) (locI : LocationComp F)
    (cooldown : CooldownComp) (candidate : Entity) : Option (Option F) :=
  if candidate = initiator || (w.reg.busy candidate).isSome then some none
  else do
    let identity ← w.reg.identity candidate
    let cooling :=
      match cooldown.cooldownPerTarget identity.npcId with
      | some release => decide (w.clock.tick < release)
      | none => false
    if cooling then some none
    else do
      let locC ← w.reg.location candidate
      if lt (lit 8) (hypot (locI.x - locC.x) (locI.z - locC.z)) then some none
      else
        let likingIC := w.liking initiator identity.npcId
        let likingCI := w.liking candidate idI
        if likingIC < -70 ∨ likingCI < -70 then some none
        else
          let weight := ofInt (likingIC + 60)
          some (some (if lt (lit 1) weight then weight else lit 1))

-- Subtract the weights from the roll until nothing is left.
def pickWeighted : List (Entity × F) → F → Option Entity
  | [], _ => none
  | (e, weight) :: rest, roll =>
      let left := roll - weight
      if le left zero then some e else pickWeighted rest left

def chooseTarget (w : World F) (initiator : Entity) (idI : UInt32) (locI : LocationComp F)
    (cooldown : CooldownComp) (draw : SocialDraw F) (candidates : List Entity) :
    Option (Option Entity) := do
  let weights ← candidates.mapM (w.targetWeight initiator idI locI cooldown)
  let targets := (candidates.zip weights).filterMap fun entry => entry.2.map fun x => (entry.1, x)
  let total := targets.foldl (fun total target => total + target.2) zero
  match pickWeighted targets (draw.target * total) with
  | some target => some (some target)
  | none => some (targets.getLast?.map (·.1))

def acceptanceChance (w : World F) (idI : UInt32) (target : Entity) (modifier : F) : F :=
  let raw := lit 0.5 + w.extroversion target * lit 0.25 + ofInt (w.liking target idI) / lit 200 +
    (modifier - lit 1) * lit 0.15
  Scalar.clamp raw (lit 0.10) (lit 0.95)

def embarrassment (extroversion : F) : Int :=
  if lt (lit 0.7) extroversion then 1 else if lt extroversion (lit 0.3) then 3 else 2

-- The chance to join a group, when the group is liked enough.
def joinChance (w : World F) (groupIds : List UInt32) (size : Nat) (other : Entity) : Option F :=
  let known := groupIds.filterMap (w.relationship other)
  let count := ofInt known.length
  let avgLiking := if known.isEmpty then zero else ofInt (known.map (·.liking)).sum / count
  let avgTrust := if known.isEmpty then lit 50 else ofInt (known.map (·.trust)).sum / count
  if lt avgLiking (lit 20) then none
  else
    let personality := lit 0.5 + w.extroversion other
    let relation := lit 1 + avgLiking / lit 100 + (avgTrust - lit 50) / lit 100
    let penalty := lit 2 / ofInt size
    some (Scalar.clamp (lit 0.25 * personality * relation * penalty) zero (lit 0.50))

-- The group so far, with the number of join rolls drawn.
structure Group where
  members : List Entity
  ids : List UInt32
  rolls : Nat

-- Let one more candidate join; a full group takes nobody.
def joinGroup (w : World F) (initiator target : Entity) (draw : SocialDraw F) (group : Group)
    (other : Entity) : Option Group :=
  if other = initiator || other = target || decide (4 ≤ group.members.length) then some group
  else if (w.reg.busy other).isSome then some group
  else do
    let identity ← w.reg.identity other
    match w.joinChance group.ids group.members.length other with
    | none => some group
    | some chance =>
        let rolled := { group with rolls := group.rolls + 1 }
        if lt (draw.join group.rolls) chance then
          some
            { rolled with
              members := group.members ++ [other], ids := group.ids ++ [identity.npcId] }
        else some rolled

def markRequesting (w : World F) (e : Entity) : Option (World F) := do
  let _ ← w.reg.activity e
  (w.setActivity e "대화 요청 중").setBusy e .dialogue

-- The group is complete: mark its members and request the dialogue.
def requestDialogue (w : World F) (group : Group) : Option (World F) := do
  let marked ← group.members.foldlM markRequesting w
  some (marked.issue (.triggerDialogue group.ids group.members w.clock.tick))

-- The initiator turns to its candidates; the members of a new group are returned.
def approach (w : World F) (initiator : Entity) (cooldown : CooldownComp) (locI : LocationComp F)
    (draw : SocialDraw F) (candidates : List Entity) : Option (World F × List Entity) := do
  let first ← candidates.head?
  let zone ← w.reg.location first
  let modifier := socialModifier zone.type
  if le (w.initiationChance initiator modifier) draw.initiation then some (w, [])
  else do
    let tried := { cooldown with lastInitiativeTick := w.clock.tick }
    let started := w.setCooldown initiator tried
    let identity ← w.reg.identity initiator
    match ← started.chooseTarget initiator identity.npcId locI tried draw candidates with
    | none => some (started, [])
    | some target => do
        let targetIdentity ← started.reg.identity target
        if le (started.acceptanceChance identity.npcId target modifier) draw.acceptance then
          let refused :=
            { tried with
              cognitiveRefractoryUntil :=
                w.clock.tick + embarrassment (started.extroversion initiator)
              cooldownPerTarget :=
                Function.update tried.cooldownPerTarget targetIdentity.npcId
                  (some (w.clock.tick + 3)) }
          some (started.setCooldown initiator refused, [])
        else do
          let pair : Group := ⟨[initiator, target], [identity.npcId, targetIdentity.npcId], 0⟩
          let group ← candidates.foldlM (started.joinGroup initiator target draw) pair
          let requested ← started.requestDialogue group
          some (requested, group.members)

-- `SystemSocialInteraction` for one initiator. The members of the groups already formed in this
-- call are in `processed`; those of a new group are added to it.
def socialInteraction (w : World F) (processed : List Entity) (draw : SocialDraw F)
    (initiator : Entity) : Option (World F × List Entity) :=
  match w.reg.location initiator, w.reg.activity initiator, w.reg.identity initiator with
  | some locI, some _, some _ =>
      if !w.isSpeaker initiator || !w.reg.valid initiator || processed.contains initiator ||
          w.isOccupied initiator then some (w, processed)
      else
        let (ready, cooldown) := w.ensureCooldown initiator
        if cooldown.socialEnergy < 20 ∨ w.clock.tick ≤ cooldown.cognitiveRefractoryUntil ∨
            w.clock.tick ≤ cooldown.lastInitiativeTick then some (ready, processed)
        else do
          let neighbors := ready.grid.getNearbyEntities locI.x locI.z (lit 8) ready.reg.location
          let gathered ← neighbors.foldlM (gatherNeighbor processed initiator locI draw)
            ⟨ready, 0, [initiator]⟩
          if gathered.candidates.length < 2 then some (gathered.world, processed)
          else do
            let (after, members) ← gathered.world.approach initiator cooldown locI draw
              (shuffled draw.shuffle gathered.candidates)
            some (after, members ++ processed)
  | _, _, _ => some (w, processed)

section

variable {w w' : World F}

theorem markRequesting_cases {e : Entity} (marked : markRequesting w e = some w') :
    (∃ activity, w.reg.activity e = some activity) ∧
      (w.setActivity e "대화 요청 중").setBusy e .dialogue = some w' := by
  simp only [markRequesting, Option.bind_eq_bind, Option.bind_eq_some_iff] at marked
  obtain ⟨activity, acts, tagged⟩ := marked
  exact ⟨⟨activity, acts⟩, tagged⟩

theorem requestDialogue_cases {group : Group} (requested : w.requestDialogue group = some w') :
    ∃ marked, group.members.foldlM markRequesting w = some marked ∧
      w' = marked.issue (.triggerDialogue group.ids group.members w.clock.tick) := by
  simp only [requestDialogue, Option.bind_eq_bind, Option.bind_eq_some_iff] at requested
  obtain ⟨marked, marks, stored⟩ := requested
  exact ⟨marked, marks, (Option.some.inj stored).symm⟩

-- What an initiator does about its candidates, with the members of the group it forms.
inductive Approaches (w : World F) (initiator : Entity) (cooldown : CooldownComp)
    (locI : LocationComp F) (draw : SocialDraw F) (candidates : List Entity) :
    World F → List Entity → Prop
  | shy : Approaches w initiator cooldown locI draw candidates w []
  | alone : Approaches w initiator cooldown locI draw candidates
      (w.setCooldown initiator { cooldown with lastInitiativeTick := w.clock.tick }) []
  | refused (targetIdentity : IdentityComp) : Approaches w initiator cooldown locI draw candidates
      ((w.setCooldown initiator { cooldown with lastInitiativeTick := w.clock.tick }).setCooldown
        initiator
        { cooldown with
          lastInitiativeTick := w.clock.tick
          cognitiveRefractoryUntil :=
            w.clock.tick + embarrassment ((w.setCooldown initiator
              { cooldown with lastInitiativeTick := w.clock.tick }).extroversion initiator)
          cooldownPerTarget :=
            Function.update cooldown.cooldownPerTarget targetIdentity.npcId
              (some (w.clock.tick + 3)) }) []
  | groups (started w' : World F) (identity targetIdentity : IdentityComp) (target : Entity)
      (group : Group)
      (tries : started = w.setCooldown initiator
        { cooldown with lastInitiativeTick := w.clock.tick })
      (named : w.reg.identity initiator = some identity)
      (chosen : started.chooseTarget initiator identity.npcId locI
        { cooldown with lastInitiativeTick := w.clock.tick } draw candidates = some (some target))
      (known : started.reg.identity target = some targetIdentity)
      (joined : candidates.foldlM (started.joinGroup initiator target draw)
        ⟨[initiator, target], [identity.npcId, targetIdentity.npcId], 0⟩ = some group)
      (sent : started.requestDialogue group = some w') :
      Approaches w initiator cooldown locI draw candidates w' group.members

theorem approach_cases {initiator : Entity} {cooldown : CooldownComp} {locI : LocationComp F}
    {draw : SocialDraw F} {candidates members : List Entity}
    (approached : w.approach initiator cooldown locI draw candidates = some (w', members)) :
    Approaches w initiator cooldown locI draw candidates w' members := by
  simp only [approach, Option.bind_eq_bind, Option.bind_eq_some_iff] at approached
  obtain ⟨first, -, zone, -, approached⟩ := approached
  split at approached
  next =>
    obtain ⟨rfl, rfl⟩ := Prod.mk.inj (Option.some.inj approached)
    exact .shy
  next =>
    simp only [Option.bind_eq_some_iff] at approached
    obtain ⟨identity, named, choice, chosen, approached⟩ := approached
    split at approached
    next =>
      obtain ⟨rfl, rfl⟩ := Prod.mk.inj (Option.some.inj approached)
      exact .alone
    next target =>
      simp only [Option.bind_eq_some_iff] at approached
      obtain ⟨targetIdentity, known, approached⟩ := approached
      split at approached
      next =>
        obtain ⟨rfl, rfl⟩ := Prod.mk.inj (Option.some.inj approached)
        exact .refused targetIdentity
      next =>
        simp only [Option.bind_eq_some_iff] at approached
        obtain ⟨group, joined, requested, sent, stored⟩ := approached
        obtain ⟨rfl, rfl⟩ := Prod.mk.inj (Option.some.inj stored)
        exact .groups _ requested identity targetIdentity target group rfl named chosen known joined
          sent

end

theorem gatherNeighbor_keeps (property : World F → Prop)
    (ready : ∀ m y, property m → property (m.ensureCooldown y).1) (processed : List Entity)
    (initiator : Entity) (locI : LocationComp F) (draw : SocialDraw F) (state next : Gathering F)
    (neighbor : Entity) (holds : property state.world)
    (gathered : gatherNeighbor processed initiator locI draw state neighbor = some next) :
    property next.world := by
  unfold gatherNeighbor at gathered
  dsimp only at gathered
  have made := ready state.world neighbor holds
  repeat' split at gathered
  all_goals try simp only [Option.bind_eq_bind, Option.bind_eq_some_iff] at gathered
  case h_2.isFalse.isFalse =>
    obtain ⟨locC, -, gathered⟩ := gathered
    split at gathered <;>
      (obtain rfl := Option.some.inj gathered; exact made)
  all_goals
    obtain rfl := Option.some.inj gathered
    first
    | exact made
    | exact holds

theorem socialInteraction_cases (w w' : World F) (property : World F → Prop)
    (ready : ∀ m y, property m → property (m.ensureCooldown y).1) (processed grown : List Entity)
    (draw : SocialDraw F) (initiator : Entity) (holds : property w)
    (talked : w.socialInteraction processed draw initiator = some (w', grown)) :
    property w' ∨ ∃ m locI candidates members, property m ∧
      m.approach initiator (w.ensureCooldown initiator).2 locI draw candidates =
        some (w', members) := by
  unfold socialInteraction at talked
  split at talked
  next locI activity identity _ _ _ =>
    split at talked
    next =>
      obtain ⟨rfl, -⟩ := Prod.mk.inj (Option.some.inj talked)
      exact .inl holds
    next =>
      have made := ready w initiator holds
      dsimp only at talked
      split at talked
      next =>
        obtain ⟨rfl, -⟩ := Prod.mk.inj (Option.some.inj talked)
        exact .inl made
      next =>
        simp only [Option.bind_eq_bind, Option.bind_eq_some_iff] at talked
        obtain ⟨gathered, found, talked⟩ := talked
        have kept := Folds.foldlM_keeps (fun state : Gathering F => property state.world) _
          (fun state y next kept visited =>
            gatherNeighbor_keeps property ready processed initiator locI draw state next y kept visited)
          _ _ gathered made found
        split at talked
        next =>
          obtain ⟨rfl, -⟩ := Prod.mk.inj (Option.some.inj talked)
          exact .inl kept
        next =>
          simp only [Option.bind_eq_some_iff] at talked
          obtain ⟨⟨after, members⟩, approached, stored⟩ := talked
          obtain ⟨rfl, -⟩ := Prod.mk.inj (Option.some.inj stored)
          exact .inr ⟨gathered.world, locI, _, members, kept, approached⟩
  next =>
    obtain ⟨rfl, -⟩ := Prod.mk.inj (Option.some.inj talked)
    exact .inl holds

-- The entity ignores this npc id until the tick of its cooldown.
def isExempt (w : World F) (e : Entity) (npcId : UInt32) : Bool :=
  match w.reg.cooldown e with
  | some cooldown =>
      match cooldown.cooldownPerTarget npcId with
      | some release => decide (w.clock.tick < release)
      | none => false
  | none => false

def threatGain (w : World F) (e : Entity) (faction : String) (neighborFaction : String)
    (neighborId : UInt32) : Int :=
  if faction ≠ neighborFaction then
    if (faction, neighborFaction) ∈
        [("Wolf", "Human"), ("Human", "Wolf"), ("Goblin", "Human"), ("Human", "Goblin")] then 100
    else if (faction, neighborFaction) ∈ [("Bandit", "Human"), ("Human", "Bandit")] then 25
    else 0
  else
    match w.relationship e neighborId with
    | some entry => if entry.liking ≤ -50 then 5 else 0
    | none => 0

-- The gain from one neighbour; the living with a health component are seen.
def neighborGain (w : World F) (e : Entity) (faction : FactionComp) (neighbor : Entity) : Int :=
  if neighbor = e || !w.reg.valid neighbor || (w.reg.health neighbor).isNone ||
      w.isDead neighbor then 0
  else
    let npcId := ((w.reg.identity neighbor).map (·.npcId)).getD 0
    let neighborFaction := ((w.reg.faction neighbor).map (·.factionName)).getD "Human"
    if w.isExempt e npcId then 0
    else w.threatGain e faction.factionName neighborFaction npcId

-- The neighbour with the highest positive gain; the first one wins a tie.
def bestThreat (w : World F) (e : Entity) (faction : FactionComp) (neighbors : List Entity) :
    Option Entity × Int :=
  neighbors.foldl
    (fun best neighbor =>
      let gain := w.neighborGain e faction neighbor
      if best.2 < gain then (some neighbor, gain) else best)
    (none, 0)

def updateAggro (aggro : AggroComp) (best : Option Entity × Int) : AggroComp :=
  match best with
  | (some threat, gain) =>
      { aggro with threatEntity := some threat, aggroScore := min 100 (aggro.aggroScore + gain) }
  | (none, _) =>
      if 0 < aggro.aggroScore then
        let cooled := { aggro with aggroScore := max 0 (aggro.aggroScore - 10) }
        if cooled.aggroScore = 0 then { cooled with threatEntity := none, isInhibited := false }
        else cooled
      else aggro

-- The combat target is not null and still valid.
def hasValidTarget (w : World F) (e : Entity) : Bool :=
  match w.reg.combat e with
  | some combat =>
      match combat.targetEntity with
      | some target => w.reg.valid target
      | none => false
  | none => false

def perception (w : World F) (e : Entity) : World F :=
  match w.reg.location e, w.reg.aggro e, w.reg.faction e with
  | some loc, some aggro, some faction =>
      if w.hasValidTarget e then w.setAggro e { aggro with aggroScore := 0, isInhibited := false }
      else if w.isDead e then
        w.setAggro e { aggro with aggroScore := 0, threatEntity := none, isInhibited := false }
      else
        let neighbors := w.grid.getNearbyEntities loc.x loc.z (lit 20) w.reg.location
        w.setAggro e (updateAggro aggro (w.bestThreat e faction neighbors))
  | _, _, _ => w

end World

end MundusVivens
