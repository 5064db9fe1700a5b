import MundusVivens.Fighting.Approvals
import MundusVivens.Fighting.Threats

set_option autoImplicit false

/-!
# Exemptions

A `REJECT` or `SOCIALIZE` keeps an NPC from seeing its target. The release is stored as a logical
tick, beside the cooldowns of dialogues, and each writer of the entry replaces what the one before
it wrote.
-/

namespace MundusVivens

open Scalar Runs

variable {F : Type} [Scalar F]

namespace World

omit [Scalar F] in
-- The npc id that a scan reads off a neighbour.
def scannedId (w : World F) (x : Entity) : UInt32 := ((w.reg.identity x).map (·.npcId)).getD 0

omit [Scalar F] in
def rawGain (w : World F) (e : Entity) (faction : FactionComp) (x : Entity) : Int :=
  w.threatGain e faction.factionName (((w.reg.faction x).map (·.factionName)).getD "Human")
    (w.scannedId x)

/-- What a scan reads when it comes to the neighbours. -/
structure Lookout (w : World F) (e : Entity) where
  loc : LocationComp F
  aggro : AggroComp
  faction : FactionComp
  located : w.reg.location e = some loc
  roused : w.reg.aggro e = some aggro
  belongs : w.reg.faction e = some faction
  unarmed : w.hasValidTarget e = false
  alive : w.isDead e = false

def Lookout.neighbors {w : World F} {e : Entity} (lookout : w.Lookout e) : List Entity :=
  w.grid.getNearbyEntities lookout.loc.x lookout.loc.z (lit 20) w.reg.location

/-- The neighbour has this npc id, and would raise the aggro. -/
structure Lookout.Fears {w : World F} {e : Entity} (lookout : w.Lookout e) (x : Entity)
    (target : UInt32) : Prop where
  near : x ∈ lookout.neighbors
  other : x ≠ e
  valid : w.reg.valid x = true
  health : (w.reg.health x).isSome = true
  alive : w.isDead x = false
  named : w.scannedId x = target
  hostile : 0 < w.rawGain e lookout.faction x

end World

/-- Nobody with this npc id adds to the aggro or becomes the threat. -/
structure Ignores (scan : Transition (World F) (Event F)) (e : Entity) (target : UInt32)
    (lookout : scan.before.Lookout e) : Prop where
  gains : ∀ x, scan.before.scannedId x = target →
    scan.before.neighborGain e lookout.faction x = 0
  aggro : scan.after.reg.aggro e = some (World.updateAggro lookout.aggro
    (scan.before.bestThreat e lookout.faction
      (lookout.neighbors.filter fun x => scan.before.scannedId x ≠ target)))

/-- The neighbour counts, and the threat that the scan finds is no smaller. -/
structure Considers (scan : Transition (World F) (Event F)) (e x : Entity)
    (lookout : scan.before.Lookout e) : Prop where
  gain : scan.before.neighborGain e lookout.faction x = scan.before.rawGain e lookout.faction x
  aggro : ∃ threat gain, scan.before.rawGain e lookout.faction x ≤ gain ∧
    scan.after.reg.aggro e = some { lookout.aggro with
      threatEntity := some threat, aggroScore := min 100 (lookout.aggro.aggroScore + gain) }

namespace World

omit [Scalar F] in
def targetCooldown (w : World F) (e : Entity) (target : UInt32) : Option Int :=
  (w.reg.cooldown e).bind (·.cooldownPerTarget target)

omit [Scalar F] in
def talksWith (w : World F) (group : List Entity) (e : Entity) (target : UInt32) : Bool :=
  group.contains e &&
    group.any fun other => decide (other ≠ e) &&
      decide ((w.reg.identity other).map (·.npcId) = some target)

-- The npc id of the candidate that the initiator chooses and that fails the acceptance test.
def refusalAmong (w : World F) (initiator : Entity) (cooldown : CooldownComp)
    (locI : LocationComp F) (draw : SocialDraw F) (candidates : List Entity) : Option UInt32 := do
  let first ← candidates.head?
  let zone ← w.reg.location first
  let modifier := socialModifier zone.type
  if le (w.initiationChance initiator modifier) draw.initiation then none
  else do
    let tried := { cooldown with lastInitiativeTick := w.clock.tick }
    let started := w.setCooldown initiator tried
    let identity ← w.reg.identity initiator
    let choice ← started.chooseTarget initiator identity.npcId locI tried draw candidates
    let target ← choice
    let targetIdentity ← started.reg.identity target
    if le (started.acceptanceChance identity.npcId target modifier) draw.acceptance then
      some targetIdentity.npcId
    else none

def refusal (w : World F) (processed : List Entity) (draw : SocialDraw F) (initiator : Entity) :
    Option UInt32 :=
  match w.reg.location initiator, w.reg.activity initiator, w.reg.identity initiator with
  | some locI, some _, some _ =>
      if !w.isSpeaker initiator || !w.reg.valid initiator || processed.contains initiator ||
          w.isOccupied initiator then none
      else
        let (ready, cooldown) := w.ensureCooldown initiator
        if cooldown.socialEnergy < 20 ∨ w.clock.tick ≤ cooldown.cognitiveRefractoryUntil ∨
            w.clock.tick ≤ cooldown.lastInitiativeTick then none
        else do
          let neighbors := ready.grid.getNearbyEntities locI.x locI.z (lit 8) ready.reg.location
          let gathered ← neighbors.foldlM (gatherNeighbor processed initiator locI draw)
            ⟨ready, 0, [initiator]⟩
          if gathered.candidates.length < 2 then none
          else
            gathered.world.refusalAmong initiator cooldown locI draw
              (shuffled draw.shuffle gathered.candidates)
  | _, _, _ => none

end World

/-- Who wrote the entry of an NPC about a target, at which logical tick. -/
inductive Writer where
  | answer (tick : Int)
  | refusal (tick : Int)
  -- The tick at which the dialogue was requested.
  | dialogue (asked : Int)
  | reset

def Writer.release : Writer → Option Int
  | .answer tick => some (tick + 600)
  | .refusal tick => some (tick + 3)
  | .dialogue asked => some (asked + 2)
  | .reset => none

-- Fewer logical ticks have passed than the writer asks for.
def Writer.Shields (now : Int) : Writer → Prop
  | .answer tick => now - tick < 600
  | .refusal tick => now - tick < 3
  | .dialogue asked => now - asked < 2
  | .reset => False

def World.taskWriter (w : World F) (e : Entity) (target : UInt32) : Option Writer :=
  match w.grpc.pop with
  | some (_, .threatDetected _ asked _ x, .threat true code, _) =>
      if x = e ∧ asked = target ∧ code ≠ 0 ∧ (w.reg.aggro x).isSome = true ∧
          w.reg.valid x = true then some (.answer w.clock.tick)
      else none
  | some (_, .triggerDialogue _ group tick, .dialogue true result, _) =>
      if result.success && group.all w.reg.valid && w.talksWith group e target then
        some (.dialogue tick)
      else none
  | _ => none

def writer (e : Entity) (target : UInt32) (t : Transition (World F) (Event F)) : Option Writer :=
  match t.event with
  | .dailyReset =>
      if t.before.clock.isFirstLoop || t.before.clock.tick % 24 = 0 then some .reset else none
  | .socialInteraction processed draw initiator =>
      if initiator = e ∧ t.before.refusal processed draw initiator = some target then
        some (.refusal t.before.clock.tick)
      else none
  | .drainTask _ => t.before.taskWriter e target
  | _ => none

def lastWriter (e : Entity) (target : UInt32) (steps : List (Transition (World F) (Event F))) :
    Option Writer :=
  steps.findSome? (writer e target)

-- A `REJECT` or `SOCIALIZE` about the target is applied to the NPC.
def exempts (e : Entity) (target : UInt32) (t : Transition (World F) (Event F)) : Bool :=
  match writer e target t with
  | some (.answer _) => true
  | _ => false

-- Frames end with the request of the next tick.
def framesIn (steps : List (Transition (World F) (Event F))) : Nat :=
  steps.countP fun t =>
    match t.event with
    | .requestTick _ => true
    | _ => false

/-- The NPC looks around, and this answer about the target was the last one before. -/
structure LooksAfter (past : List (Transition (World F) (Event F))) (e : Entity) (target : UInt32)
    (scan : Transition (World F) (Event F)) (middle : List (Transition (World F) (Event F)))
    (answer : Transition (World F) (Event F)) : Prop where
  taken : ∃ later earlier, past = later ++ scan :: (middle ++ answer :: earlier)
  scans : scan.event = .perception e
  npc : scan.before.isNpc e = true
  answered : exempts e target answer = true
  last : ∀ t ∈ middle, exempts e target t = false

/-- Each scan ignores the target up to 600 frames after the answer, and considers it again
afterwards. -/
def ExemptsFor600Frames (past : List (Transition (World F) (Event F))) : Prop :=
  ∀ e target scan middle answer, LooksAfter past e target scan middle answer →
    ∀ (lookout : scan.before.Lookout e) (x : Entity), lookout.Fears x target →
      (framesIn middle ≤ 600 → Ignores scan e target lookout) ∧
        (600 < framesIn middle → Considers scan e x lookout)

/-- Whoever wrote last since the answer asked for logical ticks that last through the 600 frames,
and have passed after them. -/
def WritersKeepTime (past : List (Transition (World F) (Event F))) : Prop :=
  ∀ e target scan middle answer, LooksAfter past e target scan middle answer →
    ∀ (lookout : scan.before.Lookout e) (x : Entity), lookout.Fears x target →
      ∀ last, lastWriter e target (middle ++ [answer]) = some last →
        (framesIn middle ≤ 600 → last.Shields scan.before.clock.tick) ∧
          (600 < framesIn middle → ¬ last.Shields scan.before.clock.tick)

namespace World

variable {w w' : World F} {e x : Entity} {target : UInt32}

omit [Scalar F] in
theorem isExempt_eq :
    w.isExempt e target = (w.targetCooldown e target).any fun release =>
      decide (w.clock.tick < release) := by
  unfold isExempt targetCooldown
  cases w.reg.cooldown e with
  | none => rfl
  | some cooldown =>
      cases entry : cooldown.cooldownPerTarget target <;> simp [entry]

omit [Scalar F] in
theorem targetCooldown_of_same (same : w'.reg.cooldown e = w.reg.cooldown e) :
    w'.targetCooldown e target = w.targetCooldown e target := by
  rw [targetCooldown, same]
  rfl

omit [Scalar F] in
theorem targetCooldown_setCooldown (y : Entity) (cooldown : CooldownComp) :
    (w.setCooldown y cooldown).targetCooldown e target =
      if e = y then cooldown.cooldownPerTarget target else w.targetCooldown e target := by
  unfold targetCooldown setCooldown
  by_cases same : e = y <;> simp [same]

omit [Scalar F] in
theorem getD_entry :
    ((w.reg.cooldown e).getD .initial).cooldownPerTarget target = w.targetCooldown e target := by
  unfold targetCooldown
  cases w.reg.cooldown e <;> rfl

omit [Scalar F] in
theorem recoverEnergy_entry (y : Entity) :
    (w.recoverEnergy y).targetCooldown e target = w.targetCooldown e target := by
  unfold recoverEnergy
  split
  next cooldown loc held _ =>
    split
    next =>
      rw [targetCooldown_setCooldown]
      split
      next same => simp [targetCooldown, same, held]
      next => rfl
    next => rfl
  next => rfl

omit [Scalar F] in
theorem ensureCooldown_entry (y : Entity) :
    (w.ensureCooldown y).1.targetCooldown e target = w.targetCooldown e target ∧
      (w.ensureCooldown y).2.cooldownPerTarget target = w.targetCooldown y target := by
  unfold ensureCooldown
  split
  next cooldown held => simp [targetCooldown, held]
  next bare =>
    refine ⟨?_, by simp [targetCooldown, bare, CooldownComp.initial]⟩
    rw [targetCooldown_setCooldown]
    split
    next same => simp [targetCooldown, same, bare, CooldownComp.initial]
    next => rfl

theorem approach_entry (initiator : Entity) (cooldown : CooldownComp) (locI : LocationComp F)
    (draw : SocialDraw F) (candidates members : List Entity)
    (held : cooldown.cooldownPerTarget target = w.targetCooldown initiator target)
    (approached : w.approach initiator cooldown locI draw candidates = some (w', members)) :
    w'.targetCooldown e target =
      if initiator = e ∧ w.refusalAmong initiator cooldown locI draw candidates = some target then
        some (w.clock.tick + 3)
      else w.targetCooldown e target := by
  have tried : (w.setCooldown initiator
      { cooldown with lastInitiativeTick := w.clock.tick }).targetCooldown e target =
        w.targetCooldown e target := by
    rw [targetCooldown_setCooldown]
    split
    next same => exact same ▸ held
    next => rfl
  simp only [approach, Option.bind_eq_bind, Option.bind_eq_some_iff] at approached
  obtain ⟨first, found, zone, stands, approached⟩ := approached
  simp only [refusalAmong, found, stands, Option.bind_eq_bind, Option.bind_some]
  split at approached
  next shy =>
    obtain ⟨rfl, -⟩ := Prod.mk.inj (Option.some.inj approached)
    simp [shy]
  next bold =>
    rw [if_neg bold]
    simp only [Option.bind_eq_some_iff] at approached
    obtain ⟨identity, named, choice, chosen, approached⟩ := approached
    simp only [named, chosen, Option.bind_some]
    split at approached
    next =>
      obtain ⟨rfl, -⟩ := Prod.mk.inj (Option.some.inj approached)
      simpa using tried
    next asked =>
      simp only [Option.bind_eq_some_iff] at approached
      obtain ⟨targetIdentity, known, approached⟩ := approached
      simp only [known, Option.bind_some]
      split at approached
      next refused =>
        obtain ⟨rfl, -⟩ := Prod.mk.inj (Option.some.inj approached)
        rw [if_pos refused, targetCooldown_setCooldown]
        by_cases own : e = initiator
        next =>
          subst own
          by_cases about : target = targetIdentity.npcId
          next => simp [about]
          next => simp [about, Ne.symm about, held]
        next => simp [own, Ne.symm own, tried]
      next accepted =>
        simp only [Option.bind_eq_some_iff] at approached
        obtain ⟨group, -, requested, sent, stored⟩ := approached
        obtain ⟨rfl, -⟩ := Prod.mk.inj (Option.some.inj stored)
        have sends := requestDialogue_within _ requested e e group sent
        rw [if_neg (by simp [accepted])]
        exact (targetCooldown_of_same (sends.same .cooldown rfl)).trans tried

theorem socialInteraction_entry (processed grown : List Entity) (draw : SocialDraw F)
    (initiator : Entity) (talked : w.socialInteraction processed draw initiator = some (w', grown)) :
    w'.targetCooldown e target =
      if initiator = e ∧ w.refusal processed draw initiator = some target then
        some (w.clock.tick + 3)
      else w.targetCooldown e target := by
  have made (m : World F) (y : Entity)
      (kept : (∀ x, m.targetCooldown x target = w.targetCooldown x target) ∧ m.clock = w.clock) :
      (∀ x, (m.ensureCooldown y).1.targetCooldown x target = w.targetCooldown x target) ∧
        (m.ensureCooldown y).1.clock = w.clock := by
    refine ⟨fun x => (ensureCooldown_entry y).1.trans (kept.1 x), Eq.trans ?_ kept.2⟩
    exact (m.ensureCooldown_within y y y).same .clock rfl
  have ready := made w initiator ⟨fun _ => rfl, rfl⟩
  unfold socialInteraction at talked
  split at talked
  next locI activity identity located acts named =>
    simp only [refusal, located, acts, named]
    split at talked
    next silent =>
      obtain ⟨rfl, -⟩ := Prod.mk.inj (Option.some.inj talked)
      rw [if_pos silent]
      simp
    next speaks =>
      rw [if_neg speaks]
      dsimp only at talked ⊢
      split at talked
      next tired =>
        obtain ⟨rfl, -⟩ := Prod.mk.inj (Option.some.inj talked)
        rw [if_pos tired, ready.1 e]
        simp
      next rested =>
        rw [if_neg rested]
        simp only [Option.bind_eq_bind, Option.bind_eq_some_iff] at talked
        obtain ⟨gathered, found, talked⟩ := talked
        obtain ⟨same, clock⟩ := Folds.foldlM_keeps (fun state : Gathering F =>
          (∀ x, state.world.targetCooldown x target = w.targetCooldown x target) ∧
            state.world.clock = w.clock) _
          (fun state y next kept visited =>
            gatherNeighbor_keeps _ made processed initiator locI draw state next y kept visited)
          _ _ gathered ready found
        simp only [found, Option.bind_eq_bind, Option.bind_some]
        split at talked
        next alone =>
          obtain ⟨rfl, -⟩ := Prod.mk.inj (Option.some.inj talked)
          simp [alone, same e]
        next company =>
          rw [if_neg company]
          simp only [Option.bind_eq_some_iff] at talked
          obtain ⟨⟨after, members⟩, approached, stored⟩ := talked
          obtain ⟨rfl, -⟩ := Prod.mk.inj (Option.some.inj stored)
          have held := (@ensureCooldown_entry _ w e target initiator).2.trans (same initiator).symm
          have written := approach_entry (e := e) initiator _ locI draw _ members held approached
          rw [same e, clock] at written
          exact written
  next missing =>
    obtain ⟨rfl, -⟩ := Prod.mk.inj (Option.some.inj talked)
    have nobody : w.refusal processed draw initiator = none := by
      unfold refusal
      split
      next locI activity identity located acts named =>
        exact (missing locI activity identity located acts named).elim
      next => rfl
    simp [nobody]

omit [Scalar F] in
theorem mem_otherIds (group : List Entity) (ids : List UInt32) (others : w.otherIds group e = some ids) :
    target ∈ ids ↔
      ∃ other ∈ group, other ≠ e ∧ (w.reg.identity other).map (·.npcId) = some target := by
  have named (list : List Entity) (ids : List UInt32)
      (mapped : list.mapM (fun other => (w.reg.identity other).map (·.npcId)) = some ids) :
      target ∈ ids ↔ ∃ other ∈ list, (w.reg.identity other).map (·.npcId) = some target := by
    induction list generalizing ids with
    | nil =>
        obtain rfl := Option.some.inj mapped
        simp
    | cons other rest ih =>
        simp only [List.mapM_cons, Option.bind_eq_bind, Option.bind_eq_some_iff] at mapped
        obtain ⟨id, first, later, rest', stored⟩ := mapped
        obtain rfl := Option.some.inj stored
        rw [List.mem_cons, ih later rest']
        simp only [List.mem_cons, exists_eq_or_imp, first, Option.some.injEq]
        exact or_congr_left eq_comm
  rw [named _ _ others]
  simp [and_assoc]

omit [Scalar F] in
theorem foldl_update_entry (ids : List UInt32) (release : Int) (table : UInt32 → Option Int) :
    ids.foldl (fun targets id => Function.update targets id (some release)) table target =
      if target ∈ ids then some release else table target := by
  induction ids generalizing table with
  | nil => rfl
  | cons id rest ih =>
      rw [List.foldl_cons, ih]
      by_cases here : target = id <;> by_cases later : target ∈ rest <;> simp [here, later]

omit [Scalar F] in
theorem talksWith_iff (group : List Entity) :
    w.talksWith group e target = true ↔ e ∈ group ∧ ∃ other ∈ group, other ≠ e ∧
      (w.reg.identity other).map (·.npcId) = some target := by
  simp [talksWith]

omit [Scalar F] in
theorem dismissParticipant_entry (group : List Entity) (tick : Int) (y : Entity)
    (valid : w.reg.valid y = true) (member : y ∈ group)
    (dismissed : dismissParticipant group tick w y = some w') :
    w'.targetCooldown e target =
      if e = y ∧ w.talksWith group e target = true then some (tick + 2)
      else w.targetCooldown e target := by
  rw [dismissParticipant, if_neg (by simp [valid])] at dismissed
  simp only [Option.bind_eq_bind, Option.bind_eq_some_iff] at dismissed
  obtain ⟨activity, -, ids, others, stored⟩ := dismissed
  obtain rfl := Option.some.inj stored
  have kept (m : World F) :
      ((m.setActivity y "생각 정리 중").eraseBusy y).targetCooldown e target =
        m.targetCooldown e target := rfl
  rw [kept, targetCooldown_setCooldown]
  by_cases own : e = y
  next =>
    subst own
    have talks : w.talksWith group e target = true ↔ target ∈ ids := by
      rw [mem_otherIds group ids others, talksWith_iff]
      exact and_iff_right member
    simp only [true_and, if_true, foldl_update_entry, talks, getD_entry]
  next => simp [own]

omit [Scalar F] in
theorem dismissParticipants_entry (group list : List Entity) (tick : Int)
    (valid : ∀ y ∈ list, w.reg.valid y = true) (members : ∀ y ∈ list, y ∈ group)
    (dismissed : list.foldlM (dismissParticipant group tick) w = some w') :
    w'.targetCooldown e target =
      if e ∈ list ∧ w.talksWith group e target = true then some (tick + 2)
      else w.targetCooldown e target := by
  induction list generalizing w with
  | nil =>
      obtain rfl := Option.some.inj dismissed
      simp
  | cons y rest ih =>
      simp only [List.foldlM_cons, Option.bind_eq_bind, Option.bind_eq_some_iff] at dismissed
      obtain ⟨m, first, later⟩ := dismissed
      have within (x : Entity) := w.dismissParticipant_within m x x group tick y first
      have valid' : ∀ z ∈ rest, m.reg.valid z = true := fun z member => by
        have same : m.reg.valid z = w.reg.valid z := (within z).same .valid rfl
        exact same.trans (valid z (List.mem_cons_of_mem y member))
      have identity : m.reg.identity = w.reg.identity := funext fun z => (within z).same .identity rfl
      have talks : m.talksWith group e target = w.talksWith group e target := by
        rw [talksWith, talksWith, identity]
      rw [ih valid' (fun z member => members z (List.mem_cons_of_mem y member)) later, talks,
        dismissParticipant_entry group tick y (valid y List.mem_cons_self)
          (members y List.mem_cons_self) first]
      simp only [List.mem_cons]
      grind

theorem dialogueTask_entry (group : List Entity) (tick : Int) (success : Bool)
    (result : DialogueResult F) (draws : Nat → LocationRegistry.RadiusDraw F)
    (ran : w.dialogueTask group tick success result draws = some w') :
    w'.targetCooldown e target =
      if success && result.success && group.all w.reg.valid && w.talksWith group e target then
        some (tick + 2)
      else w.targetCooldown e target := by
  unfold dialogueTask at ran
  split at ran
  next finished =>
    obtain ⟨heard, spread, dismissed⟩ := w.finishDialogue_dismisses w' group tick result draws ran
    have valid : ∀ y ∈ group, heard.reg.valid y = true := fun y member => by
      have same : heard.reg.valid y = w.reg.valid y := (spread y y).same .valid rfl
      simp only [Bool.and_eq_true, List.all_eq_true] at finished
      exact same.trans (finished.2 y member)
    have identity : heard.reg.identity = w.reg.identity :=
      funext fun y => (spread y y).same .identity rfl
    have talks : heard.talksWith group e target = w.talksWith group e target := by
      rw [talksWith, talksWith, identity]
    rw [dismissParticipants_entry group group tick valid (fun _ member => member) dismissed, talks,
      targetCooldown_of_same ((spread e e).same .cooldown rfl), finished, Bool.true_and]
    by_cases talk : w.talksWith group e target = true
    next => simp [talk, ((talksWith_iff group).mp talk).1]
    next => simp [talk]
  next unfinished =>
    have released : Within partyScope e e w w' := .foldlM _
      (fun w y w' released => w.releaseIfValid_within w' e e y released) group w w' ran
    rw [targetCooldown_of_same (released.same .cooldown rfl)]
    simp only [Bool.not_eq_true] at unfinished
    simp [unfinished]

theorem applyThreat_entry (x : Entity) (asked : UInt32) (success : Bool) (code : Int)
    (applied : w.applyThreat x asked success code = some w') :
    w'.targetCooldown e target =
      if x = e ∧ asked = target ∧ success = true ∧ code ≠ 0 ∧ (w.reg.aggro x).isSome = true ∧
          w.reg.valid x = true then some (w.clock.tick + 600)
      else w.targetCooldown e target := by
  unfold applyThreat at applied
  split at applied
  next calm =>
    obtain rfl := Option.some.inj applied
    simp [calm]
  next aggro roused =>
    split at applied
    next gone =>
      obtain rfl := Option.some.inj applied
      simp [show w.reg.valid x = false by simpa using gone]
    next here =>
      simp only [Option.bind_eq_bind, Option.bind_eq_some_iff] at applied
      obtain ⟨identity, -, applied⟩ := applied
      split at applied
      next answered =>
        split at applied
        next approved =>
          obtain rfl := Option.some.inj applied
          rw [if_neg (by simp [approved])]
          rfl
        next denied =>
          obtain rfl := Option.some.inj applied
          unfold exemptTarget
          rw [targetCooldown_setCooldown]
          by_cases own : x = e
          next =>
            subst own
            by_cases about : asked = target
            next => simp_all
            next => simp [about, Ne.symm about, getD_entry]
          next => simp [own, Ne.symm own, targetCooldown, setAggro]
      next failed =>
        obtain rfl := Option.some.inj applied
        rw [if_neg (by simp [failed])]
        rfl

omit [Scalar F] in
theorem getD_release {c : Prop} [Decidable c] (writer : Writer) (entry : Option Int) :
    ((if c then some writer else none).map Writer.release).getD entry =
      if c then writer.release else entry := by
  split <;> rfl

theorem drainTask_entry (draws : Nat → LocationRegistry.RadiusDraw F)
    (drained : w.drainTask draws = some w') :
    w'.targetCooldown e target =
      ((w.taskWriter e target).map Writer.release).getD (w.targetCooldown e target) := by
  unfold drainTask at drained
  unfold taskWriter
  split at drained
  next idle =>
    obtain rfl := Option.some.inj drained
    rw [idle]
    rfl
  next ticket request reply rest popped =>
    rw [popped]
    have within := runTask_within _ w' e request reply draws drained
    have apart (free : request.method.taskScope.covers .cooldown = false) :
        w'.targetCooldown e target = w.targetCooldown e target :=
      targetCooldown_of_same (within.same .cooldown free)
    cases request with
    | threatDetected npcId asked score x =>
        cases reply with
        | threat success code =>
            rw [@applyThreat_entry _ _ { w with grpc := rest } w' e target x asked success code drained]
            cases success with
            | false => simp [targetCooldown]
            | true =>
                simp only [true_and, getD_release]
                rfl
        | _ =>
            obtain rfl := Option.some.inj drained
            rfl
    | triggerDialogue ids group tick =>
        cases reply with
        | dialogue success result =>
            rw [@dialogueTask_entry _ _ { w with grpc := rest } w' e target group tick success result
              draws drained]
            cases success with
            | false => simp [targetCooldown]
            | true =>
                simp only [Bool.true_and, getD_release]
                rfl
        | _ =>
            obtain rfl := Option.some.inj drained
            rfl
    | _ => exact apart rfl

theorem step_entry (event : Event F) (resident : w.Resident e) (stepped : step event w = some w') :
    w'.targetCooldown e target =
      ((writer e target ⟨w, event, w'⟩).map Writer.release).getD (w.targetCooldown e target) := by
  have within := resident_step_within event w w' e resident stepped
  have apart (free : event.scope.covers .cooldown = false) :
      w'.targetCooldown e target = w.targetCooldown e target :=
    targetCooldown_of_same (within.same .cooldown free)
  cases event with
  | drainTask draws => exact drainTask_entry draws stepped
  | dailyReset =>
      obtain rfl := Option.some.inj stepped
      unfold writer dailyReset
      dsimp only
      split
      next => cases table : w.reg.cooldown e <;> simp [targetCooldown, table, resetCooldown, Writer.release]
      next => rfl
  | recoverEnergy x =>
      obtain rfl := Option.some.inj stepped
      exact recoverEnergy_entry x
  | socialInteraction processed draw initiator =>
      obtain ⟨⟨talked, grown⟩, visited, rfl⟩ := Option.map_eq_some_iff.mp stepped
      have written := @socialInteraction_entry _ _ w talked e target processed grown draw initiator visited
      unfold writer
      dsimp only
      rw [written, getD_release]
      rfl
  | command cmd => cases cmd <;> exact apart rfl
  | _ => exact apart rfl

end World

variable {w w' : World F} {past : List (Transition (World F) (Event F))} {e x : Entity}
variable {target : UInt32}

theorem lastWriter_append (later earlier : List (Transition (World F) (Event F))) :
    lastWriter e target (later ++ earlier) =
      (lastWriter e target later).or (lastWriter e target earlier) :=
  List.findSome?_append

theorem lastWriter_cons (t : Transition (World F) (Event F)) :
    lastWriter e target (t :: past) = (writer e target t).or (lastWriter e target past) := by
  rw [lastWriter, List.findSome?_cons]
  cases writer e target t <;> rfl

theorem entry_written (data : WorldBootstrapData F) (settings : SimulationSettings F)
    (obstacles : Option (List Obstacle)) (draws : Nat → NeedsDraw F) (start w : World F)
    (past : List (Transition (World F) (Event F)))
    (booted : bootstrap data settings obstacles draws = some start)
    (run : ServerRun start past w) (npc : w.isNpc e = true) :
    w.targetCooldown e target = (lastWriter e target past).bind Writer.release := by
  have history : w.Matched ∧ ∀ e, w.isNpc e = true →
      w.targetCooldown e target = (lastWriter e target past).bind Writer.release := by
    refine @Run.history _ _ _ _ _ _ (fun _ _ => True) (fun past w => w.Matched ∧
      ∀ e, w.isNpc e = true →
        w.targetCooldown e target = (lastWriter e target past).bind Writer.release) ?_ ?_ run
      fun _ _ => trivial
    · refine ⟨bootstrap_matched data settings obstacles draws start booted, fun e npc => ?_⟩
      refine bootstrap_npcs (fun w e => w.targetCooldown e target = none) data settings obstacles
        draws start booted ?_ ?_ e npc
      · intro x n w w' within fresh
        exact (World.targetCooldown_of_same (within.same .cooldown rfl)).trans fresh
      · intro agent _ i w n settles
        simp [World.targetCooldown, settles.cooldown, agentCooldown, CooldownComp.initial]
    · rintro past w event w' - ⟨matched, written⟩ - stepped
      refine ⟨step_matched event w w' matched stepped, fun e npc => ?_⟩
      have before := step_npc event w w' e matched stepped npc
      rw [World.step_entry event (matched.npc before) stepped, written e before, lastWriter_cons]
      cases writer e target ⟨w, event, w'⟩ <;> rfl
  exact history.2 e npc

omit [Scalar F] in
theorem Writer.shields_iff (writer : Writer) (now : Int) :
    writer.Shields now ↔ ∃ release, writer.release = some release ∧ now < release := by
  cases writer <;> simp only [Shields, release, Option.some.injEq, exists_eq_left', reduceCtorEq,
    false_and, exists_false] <;> omega

theorem exempt_iff_shields (data : WorldBootstrapData F) (settings : SimulationSettings F)
    (obstacles : Option (List Obstacle)) (draws : Nat → NeedsDraw F) (start w : World F)
    (past : List (Transition (World F) (Event F)))
    (booted : bootstrap data settings obstacles draws = some start) (run : ServerRun start past w)
    (scan answer : Transition (World F) (Event F)) (middle : List (Transition (World F) (Event F)))
    (looks : LooksAfter past e target scan middle answer) :
    ∃ last, lastWriter e target (middle ++ [answer]) = some last ∧
      (scan.before.isExempt e target = true ↔ last.Shields scan.before.clock.tick) := by
  obtain ⟨later, earlier, rfl⟩ := looks.taken
  obtain ⟨last, newest⟩ : ∃ last, lastWriter e target (middle ++ [answer]) = some last := by
    have answered := looks.answered
    unfold exempts at answered
    rw [lastWriter_append, lastWriter_cons]
    cases writes : writer e target answer with
    | none => simp [writes] at answered
    | some own => cases lastWriter e target middle <;> simp
  refine ⟨last, newest, ?_⟩
  obtain ⟨_, before, _⟩ := Run.split later run
  cases before with
  | next before stepped =>
      have entry :=
        @entry_written F _ e target data settings obstacles draws start _ _ booted before looks.npc
      have all : lastWriter e target (middle ++ answer :: earlier) = some last := by
        rw [List.append_cons, lastWriter_append, newest]
        rfl
      rw [all] at entry
      rw [World.isExempt_eq, entry, Option.any_eq_true, last.shields_iff]
      simp

omit [Scalar F] in
theorem taskWriter_answer {tick : Int} (wrote : w.taskWriter e target = some (.answer tick)) :
    tick = w.clock.tick := by
  unfold World.taskWriter at wrote
  split at wrote
  next =>
    split at wrote
    next => exact (Writer.answer.inj (Option.some.inj wrote)).symm
    next => cases wrote
  next => split at wrote <;> cases wrote
  next => cases wrote

theorem writer_of_exempts (t : Transition (World F) (Event F))
    (answered : exempts e target t = true) :
    writer e target t = some (.answer t.before.clock.tick) := by
  unfold exempts at answered
  split at answered
  next tick wrote =>
    rw [wrote]
    unfold writer at wrote
    split at wrote
    next => split at wrote <;> cases wrote
    next => split at wrote <;> cases wrote
    next => rw [taskWriter_answer wrote]
    next => cases wrote
  next => cases answered

theorem drains_of_exempts (t : Transition (World F) (Event F))
    (answered : exempts e target t = true) : ∃ draws, t.event = .drainTask draws := by
  have wrote := writer_of_exempts t answered
  unfold writer at wrote
  split at wrote
  next => split at wrote <;> cases wrote
  next => split at wrote <;> cases wrote
  next draws drains => exact ⟨draws, drains⟩
  next => cases wrote

namespace World

omit [Scalar F] in
theorem neighborGain_exempt (faction : FactionComp) (exempt : w.isExempt e (w.scannedId x) = true) :
    w.neighborGain e faction x = 0 := by
  unfold neighborGain
  split
  next => rfl
  next => exact if_pos exempt

omit [Scalar F] in
theorem neighborGain_seen (faction : FactionComp) (other : x ≠ e) (valid : w.reg.valid x = true)
    (health : (w.reg.health x).isSome = true) (alive : w.isDead x = false)
    (counted : w.isExempt e (w.scannedId x) = false) :
    w.neighborGain e faction x = w.rawGain e faction x := by
  unfold neighborGain
  split
  next hidden =>
    simp [other, valid, alive, Option.isSome_iff_ne_none.mp health] at hidden
  next => exact if_neg (by simpa [scannedId] using counted)

omit [Scalar F] in
theorem bestThreat_filter (faction : FactionComp) (keep : Entity → Bool) (neighbors : List Entity)
    (silent : ∀ x ∈ neighbors, keep x = false → w.neighborGain e faction x = 0) :
    w.bestThreat e faction neighbors = w.bestThreat e faction (neighbors.filter keep) := by
  have fold (list : List Entity) (inside : ∀ x ∈ list, x ∈ neighbors) (best : Option Entity × Int)
      (nonneg : 0 ≤ best.2) :
      list.foldl (fun best x => if best.2 < w.neighborGain e faction x then
        (some x, w.neighborGain e faction x) else best) best =
      (list.filter keep).foldl (fun best x => if best.2 < w.neighborGain e faction x then
        (some x, w.neighborGain e faction x) else best) best := by
    induction list generalizing best with
    | nil => rfl
    | cons x rest ih =>
        have inside' : ∀ y ∈ rest, y ∈ neighbors := fun y member => inside y (by simp [member])
        cases kept : keep x with
        | true =>
            rw [List.filter_cons_of_pos kept, List.foldl_cons, List.foldl_cons]
            refine ih inside' _ ?_
            split <;> omega
        | false =>
            rw [List.filter_cons_of_neg (by simp [kept]), List.foldl_cons,
              silent x (inside x (by simp)) kept, if_neg (by omega)]
            exact ih inside' best nonneg
  exact fold neighbors (fun _ member => member) (none, 0) le_rfl

end World

section

variable {scan : Transition (World F) (Event F)} {lookout : scan.before.Lookout e}

theorem ignores_iff (scanned : scan.after = scan.before.perception e) (fears : lookout.Fears x target) :
    Ignores scan e target lookout ↔ scan.before.isExempt e target = true := by
  constructor
  · intro ignores
    by_contra counted
    have silent := ignores.gains x fears.named
    rw [World.neighborGain_seen _ fears.other fears.valid fears.health
      fears.alive (by simpa [fears.named] using counted)] at silent
    have hostile := fears.hostile
    omega
  · intro exempt
    have gains : ∀ y, scan.before.scannedId y = target →
        scan.before.neighborGain e lookout.faction y = 0 := fun y named =>
      World.neighborGain_exempt _ (named ▸ exempt)
    refine ⟨gains, ?_⟩
    rw [scanned, perception_unarmed lookout.located lookout.roused lookout.belongs lookout.unarmed
      lookout.alive]
    refine congrArg (fun best => some (World.updateAggro lookout.aggro best)) ?_
    exact World.bestThreat_filter _ _ _ fun y _ named => gains y (by simpa using named)

theorem considers_iff (scanned : scan.after = scan.before.perception e)
    (fears : lookout.Fears x target) :
    Considers scan e x lookout ↔ scan.before.isExempt e target = false := by
  constructor
  · intro considers
    by_contra exempt
    have silent := scan.before.neighborGain_exempt (e := e) (x := x) lookout.faction
      (by simpa [fears.named] using exempt)
    have hostile := fears.hostile
    have gain := considers.gain
    omega
  · intro counted
    have gain := World.neighborGain_seen lookout.faction fears.other fears.valid
      fears.health fears.alive (by simpa [fears.named] using counted)
    refine ⟨gain, ?_⟩
    have hostile := fears.hostile
    rcases scan.before.bestThreat_spec e lookout.faction lookout.neighbors with
      ⟨-, nobody⟩ | ⟨threat, -, -, best, greatest⟩
    · have nothing := nobody x fears.near
      omega
    · refine ⟨threat, _, gain ▸ greatest x fears.near, ?_⟩
      rw [scanned, perception_unarmed lookout.located lookout.roused lookout.belongs
        lookout.unarmed lookout.alive]
      exact congrArg (fun best => some (World.updateAggro lookout.aggro best)) best

end

/-- In every run: a scan ignores the target through the 600 frames and considers it afterwards
exactly where the logical ticks of whoever wrote the entry last keep time with the frames. -/
theorem exemptions_last_iff (data : WorldBootstrapData F) (settings : SimulationSettings F)
    (obstacles : Option (List Obstacle)) (draws : Nat → NeedsDraw F) (start w : World F)
    (past : List (Transition (World F) (Event F)))
    (booted : bootstrap data settings obstacles draws = some start)
    (run : ServerRun start past w) : ExemptsFor600Frames past ↔ WritersKeepTime past := by
  unfold ExemptsFor600Frames WritersKeepTime
  refine forall_congr' fun e => forall_congr' fun target => forall_congr' fun scan =>
    forall_congr' fun middle => forall_congr' fun answer => forall_congr' fun looks =>
      forall_congr' fun lookout => forall_congr' fun x => forall_congr' fun fears => ?_
  obtain ⟨last, newest, shields⟩ :=
    exempt_iff_shields data settings obstacles draws start w past booted run scan answer middle looks
  have scanned : scan.after = scan.before.perception e := by
    obtain ⟨later, earlier, taken⟩ := looks.taken
    obtain ⟨-, -, -, -, stepped⟩ := run.taken scan (by simp [taken])
    rw [looks.scans] at stepped
    exact (Option.some.inj stepped).symm
  rw [ignores_iff scanned fears, considers_iff scanned fears, ← Bool.not_eq_true, shields]
  simp [newest]

def sights (w : World F) (e x : Entity) (target : UInt32) : Bool :=
  match w.reg.location e, w.reg.aggro e, w.reg.faction e with
  | some loc, some _, some faction =>
      !w.hasValidTarget e && !w.isDead e && decide (w.scannedId x = target) &&
        decide (x ∈ w.grid.getNearbyEntities loc.x loc.z (lit 20) w.reg.location) &&
          decide (0 < w.neighborGain e faction x)
  | _, _, _ => false

theorem fears_of_sights (seen : sights w e x target = true) :
    ∃ lookout : w.Lookout e, lookout.Fears x target ∧ 0 < w.neighborGain e lookout.faction x := by
  unfold sights at seen
  split at seen
  next loc aggro faction located roused belongs =>
    simp only [Bool.and_eq_true, Bool.not_eq_true', decide_eq_true_eq] at seen
    obtain ⟨⟨⟨⟨unarmed, alive⟩, named⟩, near⟩, counted⟩ := seen
    obtain ⟨other, valid, health, living⟩ := threat_of_gain counted
    refine ⟨⟨loc, aggro, faction, located, roused, belongs, unarmed, alive⟩,
      ⟨near, other, valid, health, living, named, ?_⟩, counted⟩
    by_contra harmless
    have exempt : w.isExempt e (w.scannedId x) = false := by
      by_contra exempt
      rw [w.neighborGain_exempt faction (by simpa using exempt)] at counted
      exact absurd counted (lt_irrefl 0)
    rw [World.neighborGain_seen faction other valid health living exempt] at counted
    exact harmless counted
  next => cases seen

-- The newest step sees the wolf again, two steps after the answer.
def seesWolfAgain : List (Transition (World ℚ) (Event ℚ)) → Bool
  | scan :: _ :: answer :: _ =>
      scan.before.isNpc 0 && exempts 0 20 answer && sights scan.before 0 1 20
  | _ => false

-- The answer is to leave the wolf alone, the daily reset forgets it in the same frame.
theorem exemption_is_reset : ∃ past last, ServerRun prowl past last ∧
    past.reverse.map (·.event) = [.perception 0, .behaviorTree 0 ⟨id, fun _ => 0⟩,
      .respond 0 (.threat true 1), .drainTask fun _ => ⟨0, 0⟩, .dailyReset, .perception 0] ∧
    ¬ ExemptsFor600Frames past := by
  have passed : (record step [.perception 0, .behaviorTree 0 ⟨id, fun _ => 0⟩,
      .respond 0 (.threat true 1), .drainTask fun _ => ⟨0, 0⟩, .dailyReset, .perception 0] []
      prowl).any (fun kept => seesWolfAgain kept.1) = true := by
    decide +kernel
  obtain ⟨past, last, run, events, checked⟩ := Run.exists_of_record _
    (fun past _ => seesWolfAgain past) passed
  refine ⟨past, last, run, events, fun lasts => ?_⟩
  rcases past with _ | ⟨scan, _ | ⟨reset, _ | ⟨answer, earlier⟩⟩⟩
  next => cases checked
  next => cases checked
  next => cases checked
  simp only [seesWolfAgain, Bool.and_eq_true] at checked
  obtain ⟨⟨npc, answered⟩, seen⟩ := checked
  have order := congrArg List.reverse events
  rw [List.map_reverse, List.reverse_reverse] at order
  simp only [List.map_cons, List.reverse_cons, List.reverse_nil, List.nil_append, List.cons_append,
    List.cons.injEq] at order
  obtain ⟨scans, resets, -⟩ := order
  have quiet : exempts 0 20 reset = false := by
    simp only [exempts, writer, resets]
    split <;> simp_all
  have looks : LooksAfter (scan :: reset :: answer :: earlier) 0 20 scan [reset] answer :=
    ⟨⟨[], earlier, rfl⟩, scans, npc, answered, by simpa using quiet⟩
  obtain ⟨lookout, fears, counted⟩ := fears_of_sights seen
  have ignored := (lasts 0 20 scan [reset] answer looks lookout 1 fears).1 (by simp [framesIn, resets])
  rw [ignored.gains 1 fears.named] at counted
  exact absurd counted (lt_irrefl 0)

-- Ella leaves the wolf alone while her exemption runs.
theorem exemptions_last_prowl : ∃ past last, ServerRun prowl past last ∧
    past.reverse.map (·.event) = [.perception 0, .behaviorTree 0 ⟨id, fun _ => 0⟩,
      .respond 0 (.threat true 1), .drainTask fun _ => ⟨0, 0⟩, .perception 0] ∧
    (last.reg.aggro 0).map (·.aggroScore) = some 0 ∧ ExemptsFor600Frames past := by
  have passed : (record step [.perception 0, .behaviorTree 0 ⟨id, fun _ => 0⟩,
      .respond 0 (.threat true 1), .drainTask fun _ => ⟨0, 0⟩, .perception 0] [] prowl).any
      (fun kept => kept.1.all (fun t => decide (t.before.clock.tick = 0)) &&
        decide ((kept.2.reg.aggro 0).map (·.aggroScore) = some 0)) = true := by
    decide +kernel
  obtain ⟨past, last, run, events, checked⟩ := Run.exists_of_record _
    (fun (past : List (Transition (World ℚ) (Event ℚ))) last =>
      past.all (fun t => decide (t.before.clock.tick = 0)) &&
        decide ((last.reg.aggro 0).map (·.aggroScore) = some 0)) passed
  obtain ⟨early, calm⟩ := (Bool.and_eq_true _ _).mp checked
  refine ⟨past, last, run, events, of_decide_eq_true calm, (exemptions_last_iff prowlData ⟨2, 60⟩
    (some []) (fun _ => ⟨100, 100⟩) prowl last past prowl_boots run).mpr ?_⟩
  intro e target scan middle answer looks lookout x fears writer newest
  have zero : ∀ t ∈ past, t.before.clock.tick = 0 := fun t member =>
    of_decide_eq_true (List.all_eq_true.mp early t member)
  obtain ⟨draws, drains⟩ := drains_of_exempts answer looks.answered
  obtain ⟨later, earlier, taken⟩ := looks.taken
  -- The only task of the run is the step before the newest one.
  have place : (past.map (·.event))[later.length + (middle.length + 1)]? = some (.drainTask draws) := by
    simp [taken, drains]
  have order : past.map (·.event) = [.perception 0, .drainTask fun _ => ⟨0, 0⟩,
      .respond 0 (.threat true 1), .behaviorTree 0 ⟨id, fun _ => 0⟩, .perception 0] := by
    rw [← List.reverse_reverse (past.map _), ← List.map_reverse, events]
    rfl
  have short : middle = [] := by
    rw [order] at place
    have second : later.length + (middle.length + 1) = 1 := by
      generalize later.length + (middle.length + 1) = n at place
      rcases n with _ | _ | _ | _ | _ | n <;> simp at place ⊢
    exact List.eq_nil_of_length_eq_zero (by omega)
  subst short
  have wrote : some writer = some (.answer 0) := by
    rw [← newest, List.nil_append, lastWriter_cons, writer_of_exempts answer looks.answered,
      zero answer (by simp [taken])]
    rfl
  obtain rfl := Option.some.inj wrote
  rw [zero scan (by simp [taken])]
  exact ⟨fun _ => by simp [Writer.Shields], fun late => by simp [framesIn] at late⟩

end MundusVivens
