import MundusVivens.Accounts.Binding
import MundusVivens.Counters.Writers
import MundusVivens.Jobs.Staff
import MundusVivens.Ledger.Simulation
import MundusVivens.Systems.Frames
import MundusVivens.Systems.Shutdown
import MundusVivens.Walking.Sight
import MundusVivens.Walking.Visits

set_option autoImplicit false

/-!
# Dialogues at shutdown

The shutdown looks for three activities. They are written when an NPC is marked for a
dialogue, but four systems write another activity to an NPC that still talks.
-/

namespace MundusVivens

open Scalar BehaviorTree Runs

variable {F : Type}

theorem Ledger.Kept.talks {l l' : Ledger} (kept : l.Kept l') {n : Entity}
    (talking : l'.reason n = some .dialogue) : l.reason n = some .dialogue := by
  induction kept with
  | refl => exact talking
  | tail _ upkeep ih =>
      refine ih ?_
      -- A tag after upkeep was there before.
      cases upkeep with
      | furnish id =>
          simp only [Ledger.furnish, Ledger.create, Ledger.destroy] at talking
          grind
      | demolish e furniture =>
          simp only [Ledger.destroy] at talking
          grind
      | resume e waiting =>
          simp only [Ledger.release] at talking
          grind

namespace World

-- The entity carries a `BusyTag` whose reason is a dialogue.
def isTalking (w : World F) (e : Entity) : Bool :=
  match w.reg.busy e with
  | some tag => tag.reason = .dialogue
  | none => false

/-- What the shutdown does for an NPC in a dialogue: it waits again, and one update is sent. -/
structure RestoredOnce (w : World F) (rank : Entity → Nat) (n : Entity) : Prop where
  shown : (w.shutdown rank).1.reg.activity n = some ⟨"대기"⟩
  sent : (w.stillTalking rank).count n = 1
  named : ∀ identity, w.reg.identity n = some identity →
    (w.shutdown rank).2.countP (fun update => update.agentId = identity.npcId) = 1

def Announced (w : World F) (n : Entity) : Prop :=
  w.isTalking n = true → ∀ activity, w.reg.activity n = some activity →
    showsDialogue activity.currentActivity = true

variable {w w' : World F} {e x n : Entity}

theorem isTalking_ledger :
    w.isTalking n = true ↔ w.ledger.reason n = some .dialogue := by
  unfold isTalking ledger
  cases held : w.reg.busy n <;> simp [held]

theorem Announced.of_same (announced : w.Announced n) (busy : w'.reg.busy n = w.reg.busy n)
    (activity : w'.reg.activity n = w.reg.activity n) : w'.Announced n := by
  intro talking shown held
  exact announced (by simpa [isTalking, busy] using talking) shown (activity ▸ held)

theorem announced_of_silent (silent : w'.isTalking n = false) : w'.Announced n := by
  intro talking
  simp [silent] at talking

theorem silent_of_free (free : w.reg.busy n = none) : w.isTalking n = false := by
  simp [isTalking, free]

theorem Announced.mark (announced : w.Announced n) (text : String) (tag : BusyTag F)
    (shows : showsDialogue text = true) (tagged : (w.setActivity x text).setBusy x tag = some w') :
    w'.Announced n := by
  obtain ⟨-, _, rfl⟩ := setBusy_cases tagged
  by_cases same : n = x
  · subst same
    intro _ activity held
    obtain ⟨before, -, rfl⟩ : ∃ before, w.reg.activity n = some before ∧ ⟨text⟩ = activity := by
      simpa [setActivity, Pool.modify_apply] using held
    exact shows
  · exact announced.of_same (by simp [setActivity, same]) (by simp [setActivity, same])

theorem Announced.release (announced : w.Announced n) (text : String) :
    ((w.setActivity x text).eraseBusy x).Announced n := by
  by_cases same : n = x
  · exact announced_of_silent (silent_of_free (by simp [eraseBusy, Registry.eraseBusy, same]))
  · exact announced.of_same (by simp [eraseBusy, Registry.eraseBusy, setActivity, same])
      (by simp [eraseBusy, Registry.eraseBusy, setActivity, same])

theorem Announced.erase (announced : w.Announced n) : (w.eraseBusy x).Announced n := by
  by_cases same : n = x
  · exact announced_of_silent (silent_of_free (by simp [eraseBusy, Registry.eraseBusy, same]))
  · exact announced.of_same (by simp [eraseBusy, Registry.eraseBusy, same]) rfl

theorem releaseIfValid_announced (announced : w.Announced n)
    (released : w.releaseIfValid x = some w') : w'.Announced n := by
  unfold releaseIfValid releaseNpc at released
  split at released
  next =>
    simp only [Option.bind_eq_bind, Option.bind_eq_some_iff] at released
    obtain ⟨activity, -, stored⟩ := released
    obtain rfl := Option.some.inj stored
    exact announced.release "대기"
  next =>
    obtain rfl := Option.some.inj released
    exact announced

theorem applyPendingJobs_announced [Scalar F] (jobs : List (JobPayload F))
    (draws : Nat → LocationRegistry.RadiusDraw F) (announced : w.Announced n) :
    (w.applyPendingJobs jobs draws).Announced n := by
  unfold applyPendingJobs
  refine List.foldlRecOn (motive := fun m : World F => m.Announced n) _ _ announced
    fun m known job _ => ?_
  unfold applyPendingJob
  split
  next e _ =>
    have written : ((m.setJob e (.ofPayload job.1 (draws job.2))).restartToil e).Announced n :=
      known.of_same rfl rfl
    unfold writePendingJob eraseScheduleWait
    split
    next =>
      split
      next => exact written.erase
      next => exact written
    next => exact written
  next => exact known

theorem startedTask_announced (npc player : Entity) (success : Bool) (sessionId : UInt64)
    (announced : w.Announced n) (ran : w.startedTask npc player success sessionId = some w') :
    w'.Announced n := by
  unfold startedTask at ran
  split at ran
  next =>
    simp only [Option.bind_eq_bind, Option.bind_eq_some_iff] at ran
    obtain ⟨talking, shown, opened⟩ := ran
    have told : talking.Announced n := by
      unfold showTalking at shown
      split at shown
      next =>
        simp only [Option.bind_eq_bind, Option.bind_eq_some_iff] at shown
        obtain ⟨activity, -, stored⟩ := shown
        obtain rfl := Option.some.inj stored
        by_cases same : n = npc
        · subst same
          intro _ activity held
          obtain ⟨before, -, rfl⟩ : ∃ before, w.reg.activity n = some before ∧
              ⟨"플레이어와 대화 중"⟩ = activity := by
            simpa [setActivity, Pool.modify_apply] using held
          decide
        · exact announced.of_same rfl (by simp [setActivity, same])
      next =>
        obtain rfl := Option.some.inj shown
        exact announced
    unfold openDialogue at opened
    split at opened
    next valid =>
      simp only [Option.bind_eq_bind, Option.bind_eq_some_iff, Registry.setPlayerDialogue] at opened
      obtain ⟨reg, checked, stored⟩ := opened
      obtain rfl := Option.some.inj stored
      split at checked
      next =>
        obtain rfl := Option.some.inj checked
        exact told.of_same rfl rfl
      next invalid => exact absurd valid invalid
    next =>
      obtain rfl := Option.some.inj opened
      exact told
  next =>
    simp only [Option.bind_eq_bind, Option.bind_eq_some_iff] at ran
    obtain ⟨released, let_go, stored⟩ := ran
    obtain rfl := Option.some.inj stored
    have freed := releaseIfValid_announced announced let_go
    unfold eraseBusyIfValid
    split
    next => exact freed.erase
    next => exact freed

theorem endedTask_announced (npc player : Option Entity) (announced : w.Announced n)
    (ran : w.endedTask npc player = some w') : w'.Announced n := by
  simp only [endedTask, Option.bind_eq_bind, Option.bind_eq_some_iff] at ran
  obtain ⟨released, let_go, stored⟩ := ran
  obtain rfl := Option.some.inj stored
  have freed : released.Announced n := by
    cases npc with
    | none =>
        obtain rfl := Option.some.inj let_go
        exact announced
    | some npc => exact releaseIfValid_announced announced let_go
  cases player with
  | none => exact freed
  | some player =>
      rw [Option.elim_some, closeDialogue]
      split
      next => exact (freed.erase (x := player)).of_same rfl rfl
      next => exact freed

theorem dialogueTask_announced [Scalar F] (group : List Entity) (tick : Int) (success : Bool)
    (result : DialogueResult F) (draws : Nat → LocationRegistry.RadiusDraw F)
    (announced : w.Announced n)
    (ran : w.dialogueTask group tick success result draws = some w') : w'.Announced n := by
  unfold dialogueTask at ran
  split at ran
  next =>
    simp only [finishDialogue, Option.bind_eq_bind, Option.bind_eq_some_iff] at ran
    obtain ⟨identities, -, planned, jobs, heard, told, dismissed⟩ := ran
    have felt : (result.emotionUpdates.foldl applyEmotionUpdate w).Announced n := by
      refine List.foldlRecOn (motive := fun m : World F => m.Announced n) _ _ announced
        fun m known update _ => ?_
      unfold applyEmotionUpdate
      repeat' split
      all_goals exact known
    have busied : planned.Announced n := by
      refine Folds.foldlM_keeps (fun m : World F => m.Announced n) _ (fun m job m' known applied => ?_) _
        _ planned felt jobs
      unfold applyNextJob at applied
      split at applied
      next =>
        simp only [Option.bind_eq_bind, Option.bind_eq_some_iff] at applied
        obtain ⟨identity, -, stored⟩ := applied
        obtain rfl := Option.some.inj stored
        exact known.of_same rfl rfl
      next =>
        obtain rfl := Option.some.inj applied
        exact known
    have spread := planned.eavesdropping_within heard n n group result told
    have listened : heard.Announced n :=
      busied.of_same (spread.same .busy rfl) (spread.same .activity rfl)
    refine Folds.foldlM_keeps (fun m => m.Announced n) _ (fun m y m' known left => ?_) group heard w'
      listened dismissed
    unfold dismissParticipant at left
    split at left
    next =>
      obtain rfl := Option.some.inj left
      exact known
    next =>
      simp only [Option.bind_eq_bind, Option.bind_eq_some_iff] at left
      obtain ⟨activity, -, others, -, stored⟩ := left
      obtain rfl := Option.some.inj stored
      exact Announced.release (w := m.setCooldown y _) (known.of_same rfl rfl) "생각 정리 중"
  next =>
    exact Folds.foldlM_keeps (fun m => m.Announced n) releaseIfValid
      (fun m y m' known released => releaseIfValid_announced known released) group w w' announced ran

theorem drainTask_announced [Scalar F] (draws : Nat → LocationRegistry.RadiusDraw F)
    (announced : w.Announced n) (drained : w.drainTask draws = some w') : w'.Announced n := by
  rcases w.drainTask_cases w' draws drained with
    rfl | ⟨ticket, request, reply, rest, popped, ran⟩
  · exact announced
  have taken : ({ w with grpc := rest } : World F).Announced n := announced
  have within := runTask_within _ w' n request reply draws ran
  have apart (busy : request.method.taskScope.covers .busy = false)
      (activity : request.method.taskScope.covers .activity = false) : w'.Announced n :=
    taken.of_same (within.same .busy busy) (within.same .activity activity)
  unfold runTask at ran
  split at ran
  next => exact apart rfl rfl
  next =>
    obtain rfl := Option.some.inj ran
    exact applyPendingJobs_announced _ draws taken
  next => exact apart rfl rfl
  next => exact dialogueTask_announced _ _ _ _ draws taken ran
  next => exact startedTask_announced _ _ _ _ taken ran
  next => exact endedTask_announced _ _ taken ran
  next => exact apart rfl rfl
  next => exact apart rfl rfl
  next =>
    obtain rfl := Option.some.inj ran
    exact taken

theorem abandonDialogue_announced (player : Entity) (announced : w.Announced n) :
    (w.abandonDialogue player).Announced n := by
  unfold abandonDialogue
  split
  next => exact announced
  next dialogue _ =>
    cases dialogue.npcEntity with
    | none => exact announced
    | some npc =>
        have signalled : (w.issue (.endDisconnected dialogue.sessionId)).Announced n :=
          announced.of_same rfl rfl
        rw [Option.elim_some, freeNpc]
        split
        next => exact signalled.release "대기"
        next => exact signalled

theorem cleanupPlayer_announced (player : Entity) (resident : w.Resident n)
    (announced : w.Announced n) : (w.cleanupPlayer player).Announced n := by
  unfold cleanupPlayer
  split
  next => exact announced
  next tag tagged =>
    split
    next => exact announced
    next =>
      have other : n ≠ player := by
        rintro rfl
        simp [resident.unplayed] at tagged
      have abandoned := abandonDialogue_announced player announced
      unfold removePlayer
      exact abandoned.of_same (by simp [Registry.destroy, other])
        (by simp [Registry.destroy, other])

theorem login_announced [Scalar F] (sessionIndex : UInt32) (playerId playerName : String)
    (resident : w.Resident n) (announced : w.Announced n)
    (logged : w.login sessionIndex playerId playerName = some w') : w'.Announced n := by
  simp only [login, Option.bind_eq_bind, Option.bind_eq_some_iff] at logged
  obtain ⟨⟨player, bound⟩, binds, loc, -, stored⟩ := logged
  obtain rfl := Option.some.inj stored
  have known : bound.Announced n := by
    unfold loginBind at binds
    split at binds
    next =>
      simp only [Option.bind_eq_bind, Option.bind_eq_some_iff] at binds
      obtain ⟨made, created, stored⟩ := binds
      obtain ⟨rfl, rfl⟩ := Prod.mk.inj (Option.some.inj stored)
      have other := w.reg.ne_nextEntity resident.valid
      simp only [loginNew, Option.bind_eq_bind, Option.bind_eq_some_iff] at created
      obtain ⟨tagged, checked, stored⟩ := created
      obtain rfl := Option.some.inj stored
      rw [Registry.setPlayerTag, dif_pos (by simp [Registry.create])] at checked
      obtain rfl := Option.some.inj checked
      exact announced.of_same
        (by simp [setLastSynced, setLocation, setIdentity, Registry.create, Registry.destroy, other])
        (by simp [setLastSynced, setLocation, setIdentity, Registry.create, Registry.destroy, other])
    next =>
      simp only [Option.bind_eq_bind, Option.bind_eq_some_iff] at binds
      obtain ⟨made, again, stored⟩ := binds
      obtain ⟨rfl, rfl⟩ := Prod.mk.inj (Option.some.inj stored)
      simp only [loginAgain, Option.bind_eq_bind, Option.bind_eq_some_iff] at again
      obtain ⟨old, -, stored⟩ := again
      obtain rfl := Option.some.inj stored
      exact announced.of_same rfl rfl
  have placed : Within ⟨[], [.location, .grid]⟩ player n bound
      (bound.updateEntityPosition player loc.x loc.z) :=
    (within_updateEntityPosition loc.x loc.z (.inr (.inr (by simp))) (by simp)).mpr (.refl _ _ _ _)
  exact known.of_same (placed.same .busy rfl) (placed.same .activity rfl)

theorem talkToNpc_announced [Scalar F] (roster : w.ledger.Roster) (resident : w.Resident n)
    (sessionIndex npcId : UInt32) (announced : w.Announced n)
    (talked : w.talkToNpc sessionIndex npcId = some w') : w'.Announced n := by
  cases talkToNpc_cases talked with
  | ignored => exact announced
  | begins _ player npc bound _ _ _ _ started =>
      have other : n ≠ player := by
        rintro rfl
        have tagged : w.reg.playerTag n = some ⟨sessionIndex⟩ := roster.bound sessionIndex n bound
        simp [resident.unplayed] at tagged
      obtain ⟨identity, first, both, -, npcTagged, tagged, rfl⟩ := startTalk_cases started
      have marked := announced.mark "플레이어와 대화 대기" .dialogue (by decide) npcTagged
      have within : Within ⟨[.busy], []⟩ player n first both := by
        rw [within_setBusy _ tagged (by simp)]
        exact .refl _ _ _ _
      exact marked.of_same ((within.others other).same .busy rfl)
        ((within.others other).same .activity rfl)

theorem ensureCooldown_announced (announced : w.Announced n) (y : Entity) :
    (w.ensureCooldown y).1.Announced n := by
  unfold ensureCooldown
  split
  next => exact announced
  next => exact announced.of_same rfl rfl

theorem approach_announced [Scalar F] (initiator : Entity) (cooldown : CooldownComp)
    (locI : LocationComp F) (draw : SocialDraw F) (candidates members : List Entity)
    (announced : w.Announced n)
    (approached : w.approach initiator cooldown locI draw candidates = some (w', members)) :
    w'.Announced n := by
  cases approach_cases approached with
  | shy => exact announced
  | alone | refused => exact announced.of_same rfl rfl
  | groups started _ _ _ _ group tries _ _ _ _ sent =>
      subst tries
      obtain ⟨marked, tagged, rfl⟩ := requestDialogue_cases sent
      have called : marked.Announced n := by
        refine Folds.foldlM_keeps (fun m : World F => m.Announced n) markRequesting
          (fun m y m' known marks => ?_) group.members
          (w.setCooldown initiator _) marked (announced.of_same rfl rfl) tagged
        exact known.mark "대화 요청 중" .dialogue (by decide) (markRequesting_cases marks).2
      exact called

theorem socialInteraction_announced [Scalar F] (processed grown : List Entity) (draw : SocialDraw F)
    (initiator : Entity) (announced : w.Announced n)
    (talked : w.socialInteraction processed draw initiator = some (w', grown)) :
    w'.Announced n := by
  rcases socialInteraction_cases w w' (fun m => m.Announced n)
    (fun m y known => ensureCooldown_announced known y) processed grown draw initiator announced
    talked with gathered | ⟨m, locI, candidates, members, gathered, approached⟩
  · exact gathered
  · exact approach_announced initiator _ locI draw candidates members gathered approached

section

variable [Scalar F]

-- `SystemJobDriver` interrupts the entity and shows it in a conversation.
def isPaused (w : World F) (e : Entity) : Bool :=
  !w.isDead e && !w.isResolving e && !w.hasCombatTarget e &&
    decide ((w.jobOrDefault e).intent ≠ "배회 중") &&
    decide ((w.toilOrDefault e).state ≠ .interrupted)

-- `SystemMovement` lets the entity arrive, and shows the intent of its job.
def isArriving (w : World F) (e : Entity) : Bool :=
  match w.reg.location e, w.reg.toil e, w.reg.pathfinding e, w.reg.job e with
  | some loc, some toil, some path, some job =>
      decide (toil.state = .moving) &&
        if path.waypoints.isEmpty then lt (distanceTo loc job) (lit 0.8)
        else decide (path.waypoints.length ≤ path.currentWaypointIndex) &&
          (lt (distanceTo loc job) (lit 1) || !path.isPartial)
  | _, _, _, _ => false

/-- The event writes another activity to an entity in a dialogue. -/
def hidesDialogue (w : World F) : Event F → Bool
  | .busyAmbient e => w.isTalking e && (w.reg.toil e).isSome && (w.reg.velocity e).isSome
  | .jobDriver e => w.isTalking e && w.isPaused e
  | .movement e => w.isTalking e && w.isArriving e
  | .death e => w.isTalking e && w.isDead e
  | _ => false

theorem busyAmbient_announced (announced : w.Announced n) (deltaTime : F)
    (spared : w.isTalking n = true → ((w.reg.toil n).isSome && (w.reg.velocity n).isSome) = false) :
    (w.busyAmbient deltaTime n).Announced n := by
  unfold busyAmbient
  split
  next tag activity toil velocity identity tagged _ active moving _ =>
    refine announced_of_silent ?_
    have quiet : w.isTalking n = false := by
      by_contra talking
      have := spared (by simpa using talking)
      simp [active, moving] at this
    have reason : tag.reason ≠ .dialogue := by simpa [isTalking, tagged] using quiet
    have kept : ((w.holdStill n tag.reason).reg.busy n) = some tag := by
      unfold holdStill
      split <;> exact tagged
    simp [isTalking, setToil, setActivity, modifyBusy, Registry.modifyBusy, kept, reason]
  next => exact announced

theorem Pursues.silent {loc : LocationComp F} {identity : IdentityComp} {job : JobComp F}
    {toil : ToilComp} (pursues : Pursues w n loc identity job toil w')
    (free : w.reg.busy n = none) : w'.isTalking n = false := by
  cases pursues with
  | departs =>
      refine silent_of_free ?_
      rcases prepareJourney_eq _ n loc job with same | ⟨needs, -, filled⟩
      · rw [same]
        exact free
      · rw [filled]
        exact free
  | begins => exact silent_of_free free
  | passes => exact silent_of_free free
  | works => exact silent_of_free free
  | completes _ _ done =>
      obtain ⟨waiting, tagged, rfl⟩ := completeJob_cases done
      obtain ⟨-, _, rfl⟩ := setBusy_cases tagged
      simp [isTalking, issue, BusyTag.scheduleWait]

theorem jobDriver_announced (announced : w.Announced n)
    (spared : w.isTalking n = true → w.isPaused n = false)
    (driven : w.jobDriver n = some w') : w'.Announced n := by
  have ready : ((w.setJob n (w.jobOrDefault n)).setToil n (w.toilOrDefault n)).Announced n :=
    announced.of_same rfl rfl
  cases jobDriver_cases driven with
  | bare => exact announced
  | held => exact ready
  | pauses identity reported unheld going informed =>
      have paused : w.isPaused n = true := by
        simp [isPaused, unheld.living, unheld.sated, unheld.peaceful, unheld.settled, going]
      have silent : w.isTalking n = false := by
        by_contra talking
        simp [spared (by simpa using talking)] at paused
      refine announced_of_silent ?_
      rcases informed with rfl | rfl <;> exact silent
  | resumes _ _ _ _ _ _ free _ _ pursues => exact announced_of_silent (pursues.silent free)
  | pursues _ _ _ _ _ _ free _ pursues => exact announced_of_silent (pursues.silent free)
  | rests _ free => exact announced_of_silent (silent_of_free free)

theorem systemDeath_announced (announced : w.Announced n)
    (spared : w.isTalking n = true → w.isDead n = false) : (w.systemDeath n).Announced n := by
  by_cases dead : w.isDead n = true
  next =>
    have busy : (w.systemDeath n).reg.busy n = w.reg.busy n :=
      (w.systemDeath_within n n).same .busy rfl
    refine announced_of_silent ?_
    by_contra talking
    have before : w.isTalking n = true := by simpa [isTalking, busy] using talking
    simp [spared before] at dead
  next =>
    unfold systemDeath
    split
    next health identity hurt _ =>
      have alive : health.isDead = false := by simpa [isDead, hurt] using dead
      rw [if_neg (by simp [alive])]
      exact announced
    next => exact announced

theorem movement_announced (announced : w.Announced n)
    (spared : w.isTalking n = true → w.isArriving n = false)
    (moved : w.movement n = some w') : w'.Announced n := by
  have within := w.movement_within w' n n moved
  have busy : w'.reg.busy n = w.reg.busy n := within.same .busy rfl
  have arrived (arriving : w.isArriving n = true) : w'.Announced n := by
    refine announced_of_silent ?_
    by_contra talking
    have before : w.isTalking n = true := by simpa [isTalking, busy] using talking
    simp [spared before] at arriving
  have placed (m : World F) (x z : F) :
      (m.updateEntityPosition n x z).reg.activity n = m.reg.activity n := by
    have within : Within ⟨[], [.location, .grid]⟩ n n m (m.updateEntityPosition n x z) :=
      (within_updateEntityPosition x z (.inr (.inr (by simp))) (by simp)).mpr (.refl _ _ _ _)
    exact within.same .activity rfl
  cases w.movement_strides n w' moved with
  | unready => exact announced
  | resting => exact announced.of_same rfl rfl
  | reached loc toil path vel job walker moving seeking near =>
      exact arrived (by simp [isArriving, walker.location, walker.toil, walker.path, walker.job,
        moving, seeking, near])
  | steered => exact announced.of_same busy (placed _ _ _)
  | finished loc toil path vel job walker moving walking used close =>
      exact arrived (by simp [isArriving, walker.location, walker.toil, walker.path, walker.job,
        moving, walking, used, close])
  | cutShort => exact announced.of_same rfl rfl
  | followed loc toil path vel job walker moving target =>
      refine announced.of_same busy ?_
      unfold followWaypoint
      dsimp only
      split
      next => rfl
      next => split <;> exact placed _ _ _

theorem behaviorTree_talks (draw : BehaviorDraw) (visited : w.behaviorTree e draw = some w')
    (talking : w'.isTalking n = true) : w.isTalking n = true := by
  rw [isTalking_ledger] at talking ⊢
  rcases behaviorTree_ledger visited with kept | ⟨target, -, released⟩
  · exact kept.talks talking
  · rw [released, Ledger.release] at talking
    dsimp only at talking
    split at talking
    next => cases talking
    next => exact talking

theorem behaviorTree_announced (draw : BehaviorDraw) (resident : w.Resident n)
    (announced : w.Announced n) (visited : w.behaviorTree e draw = some w') : w'.Announced n := by
  by_cases own : n = e
  next =>
    subst own
    by_cases silent : w.isTalking n = false
    next =>
      refine announced_of_silent ?_
      by_contra talking
      have before := behaviorTree_talks draw visited (by simpa using talking)
      simp [silent] at before
    next =>
      -- The tree is not ticked for a busy entity.
      have busy : (w.reg.busy n).isSome = true := by
        cases held : w.reg.busy n with
        | none => simp [isTalking, held] at silent
        | some tag => rfl
      obtain rfl : w = w' := by simpa [behaviorTree, busy] using visited
      exact announced
  next =>
    have within := (resident_step_within (.behaviorTree e draw) w w' n resident visited).others own
    have activity : w'.reg.activity n = w.reg.activity n := within.same .activity rfl
    intro talking shown held
    exact announced (behaviorTree_talks draw visited talking) shown (activity ▸ held)

theorem step_announced (event : Event F) (roster : w.ledger.Roster) (resident : w.Resident n)
    (announced : w.Announced n) (shows : w.hidesDialogue event = false)
    (stepped : step event w = some w') : w'.Announced n := by
  have within := resident_step_within event w w' n resident stepped
  have apart (busy : event.scope.covers .busy = false)
      (activity : event.scope.covers .activity = false) : w'.Announced n :=
    announced.of_same (within.same .busy busy) (within.same .activity activity)
  have others (other : n ≠ event.actor) (busy : (Scope.mk [] event.scope.all).covers .busy = false)
      (activity : (Scope.mk [] event.scope.all).covers .activity = false) : w'.Announced n :=
    announced.of_same ((within.others other).same .busy busy)
      ((within.others other).same .activity activity)
  cases event with
  | drainTask draws => exact drainTask_announced draws announced stepped
  | cleanupPlayer player =>
      obtain rfl := Option.some.inj stepped
      exact cleanupPlayer_announced player resident announced
  | command cmd =>
      cases cmd with
      | login sessionIndex playerId playerName =>
          exact login_announced sessionIndex playerId playerName resident announced stepped
      | talkToNpc sessionIndex npcId =>
          exact talkToNpc_announced roster resident sessionIndex npcId announced stepped
      | move => exact apart rfl rfl
      | _ =>
          obtain rfl := Option.some.inj stepped
          exact announced
  | socialInteraction processed draw initiator =>
      obtain ⟨⟨talked, grown⟩, visited, rfl⟩ := Option.map_eq_some_iff.mp stepped
      exact socialInteraction_announced processed grown draw initiator announced visited
  | behaviorTree e draw => exact behaviorTree_announced draw resident announced stepped
  | busyAmbient e =>
      obtain rfl := Option.some.inj stepped
      by_cases own : n = e
      next =>
        subst own
        refine busyAmbient_announced announced _ fun talking => ?_
        simpa [hidesDialogue, talking] using shows
      next => exact others own rfl rfl
  | jobDriver e =>
      by_cases own : n = e
      next =>
        subst own
        refine jobDriver_announced announced (fun talking => ?_) stepped
        simpa [hidesDialogue, talking] using shows
      next => exact others own rfl rfl
  | movement e =>
      by_cases own : n = e
      next =>
        subst own
        refine movement_announced announced (fun talking => ?_) stepped
        simpa [hidesDialogue, talking] using shows
      next => exact others own rfl rfl
  | death e =>
      obtain rfl := Option.some.inj stepped
      by_cases own : n = e
      next =>
        subst own
        refine systemDeath_announced announced fun talking => ?_
        simpa [hidesDialogue, talking] using shows
      next => exact others own rfl rfl
  | _ => exact apart rfl rfl

theorem step_felt (event : Event F) (resident : w.Resident n)
    (felt : Has w.reg.emotion n EmotionComp.Fit) (stepped : step event w = some w') :
    Has w'.reg.emotion n EmotionComp.Fit := by
  have within := resident_step_within event w w' n resident stepped
  have apart (free : event.scope.covers .emotion = false) :
      Has w'.reg.emotion n EmotionComp.Fit := felt.of_same (within.same .emotion free)
  cases event with
  | drainTask draws =>
      rcases w.drainTask_cases w' draws stepped with
        rfl | ⟨ticket, request, reply, rest, popped, ran⟩
      · exact felt
      have touched := runTask_within _ w' n request reply draws ran
      have taken : Has ({ w with grpc := rest } : World F).reg.emotion n EmotionComp.Fit := felt
      have calm (free : request.method.taskScope.covers .emotion = false) :
          Has w'.reg.emotion n EmotionComp.Fit := taken.of_same (touched.same .emotion free)
      cases request with
      | triggerDialogue ids group tick =>
          cases reply with
          | dialogue success result => exact dialogueTask_emotion _ _ _ _ _ taken ran
          | _ =>
              obtain rfl := Option.some.inj ran
              exact taken
      | _ => exact calm rfl
  | emotionDecay draw =>
      obtain rfl := Option.some.inj stepped
      exact emotionDecay_fit draw felt
  | command cmd => cases cmd <;> exact apart rfl
  | _ => exact apart rfl

end

theorem identified_of_finalUpdate {update : AgentStatusUpdate F}
    (found : w.finalUpdate n = some update) :
    ∃ identity, w.reg.identity n = some identity ∧ update.agentId = identity.npcId := by
  simp only [finalUpdate, Option.bind_eq_bind, Option.bind_eq_some_iff] at found
  obtain ⟨tag, -, identity, named, loc, -, emotion, -, activity, -, stored⟩ := found
  split at stored
  next =>
    obtain rfl := Option.some.inj stored
    exact ⟨identity, named, rfl⟩
  next => cases stored

def showsTalk (w : World F) (e : Entity) : Bool :=
  (w.reg.activity e).any fun activity => showsDialogue activity.currentActivity

-- The other components of the last view.
def isListed (w : World F) (e : Entity) : Bool :=
  (w.reg.busy e).isSome && (w.reg.identity e).isSome && (w.reg.location e).isSome &&
    (w.reg.emotion e).isSome

theorem finalUpdate_isSome :
    (w.finalUpdate n).isSome = true ↔ w.isListed n = true ∧ w.showsTalk n = true := by
  unfold finalUpdate isListed showsTalk
  cases w.reg.busy n <;> cases w.reg.identity n <;> cases w.reg.location n <;>
    cases w.reg.emotion n <;> cases w.reg.activity n <;> simp [Option.isSome_ite]

/-- Another entity of the last view shows a dialogue and has the same id. -/
def Doubled (w : World F) (n : Entity) : Prop :=
  ∃ m identity other, m ≠ n ∧ (w.isListed m = true ∧ w.showsTalk m = true) ∧
    w.reg.identity n = some identity ∧ w.reg.identity m = some other ∧
    other.npcId = identity.npcId

theorem countP_eq_one_iff {visits : List Entity} (distinct : visits.Nodup) (member : n ∈ visits)
    (p : Entity → Bool) (own : p n = true) :
    visits.countP p = 1 ↔ ∀ m ∈ visits, p m = true → m = n := by
  constructor
  · intro once m listed met
    obtain ⟨a, only⟩ := List.length_eq_one_iff.mp (List.countP_eq_length_filter ▸ once)
    have first : m ∈ visits.filter p := List.mem_filter.mpr ⟨listed, met⟩
    have second : n ∈ visits.filter p := List.mem_filter.mpr ⟨member, own⟩
    rw [only, List.mem_singleton] at first second
    exact first.trans second.symm
  · intro only
    rw [← List.count_eq_one_of_mem distinct member, List.count]
    refine List.countP_congr fun m listed => ?_
    constructor
    · intro met
      simpa using only m listed met
    · intro same
      obtain rfl : m = n := by simpa using same
      exact own

theorem named_iff (rank : Entity → Nat) (identity : IdentityComp)
    (named : w.reg.identity n = some identity) (found : (w.finalUpdate n).isSome = true) :
    (w.shutdown rank).2.countP (fun update => update.agentId = identity.npcId) = 1 ↔
      ¬w.Doubled n := by
  have sent : (w.shutdown rank).2.countP (fun update => update.agentId = identity.npcId) =
      (w.stillTalking rank).countP fun m =>
        ((w.finalUpdate m).any fun update => update.agentId = identity.npcId) := by
    rw [shutdown_updates, List.countP_filterMap]
    refine List.countP_congr fun m _ => ?_
    cases w.finalUpdate m <;> simp
  have own : ((w.finalUpdate n).any fun update => update.agentId = identity.npcId) = true := by
    obtain ⟨update, restored⟩ := Option.isSome_iff_exists.mp found
    obtain ⟨same, held, id⟩ := identified_of_finalUpdate restored
    obtain rfl := Option.some.inj (named.symm.trans held)
    simp [restored, id]
  rw [sent, countP_eq_one_iff (stillTalking_nodup rank) ((mem_stillTalking rank).mpr found) _ own]
  constructor
  · rintro only ⟨m, identity', other, apart, restored, named', held, same⟩
    obtain rfl := Option.some.inj (named.symm.trans named')
    refine apart (only m ((mem_stillTalking rank).mpr (finalUpdate_isSome.mpr restored)) ?_)
    obtain ⟨update, sent⟩ := Option.isSome_iff_exists.mp (finalUpdate_isSome.mpr restored)
    obtain ⟨held', stored, id⟩ := identified_of_finalUpdate sent
    obtain rfl := Option.some.inj (held.symm.trans stored)
    simp [sent, id, same]
  · intro single m listed met
    by_contra apart
    obtain ⟨update, restored, id⟩ := (Option.any_eq_true _ _).mp met
    obtain ⟨other, held, same⟩ := identified_of_finalUpdate restored
    exact single ⟨m, identity, other, apart, finalUpdate_isSome.mp (by simp [restored]), named, held,
      by rw [← same]; simpa using id⟩

theorem restoredOnce_iff (rank : Entity → Nat) :
    w.RestoredOnce rank n ↔ (w.finalUpdate n).isSome = true ∧ ¬w.Doubled n := by
  constructor
  · intro restored
    have listed : n ∈ w.stillTalking rank :=
      List.count_pos_iff.mp (by simp [restored.sent])
    have found := (mem_stillTalking rank).mp listed
    refine ⟨found, ?_⟩
    obtain ⟨update, sent⟩ := Option.isSome_iff_exists.mp found
    obtain ⟨identity, named, -⟩ := identified_of_finalUpdate sent
    exact (named_iff rank identity named found).mp (restored.named identity named)
  · rintro ⟨found, single⟩
    exact ⟨by rw [shutdown_activity, if_pos found],
      List.count_eq_one_of_mem (stillTalking_nodup rank) ((mem_stillTalking rank).mpr found),
      fun identity named => (named_iff rank identity named found).mpr single⟩

end World

section

variable [Scalar F]

structure World.Telling (w : World F) : Prop where
  staffed : w.Staffed
  roster : w.ledger.Roster
  announced : ∀ n, w.isNpc n = true → w.Announced n

theorem step_telling (event : Event F) (w w' : World F) (telling : w.Telling)
    (shows : w.hidesDialogue event = false) (stepped : step event w = some w') : w'.Telling := by
  refine ⟨step_staffed event w w' telling.staffed stepped, ?_, fun n npc => ?_⟩
  · exact (Ledger.step_keeps (fun _ => True) (fun _ _ => True) (fun _ _ _ _ _ => trivial)
      (fun _ _ _ _ _ _ _ _ => trivial) event telling.roster trivial trivial stepped).1
  · have before := step_npc event w w' n telling.staffed.matched stepped npc
    exact World.step_announced event telling.roster (telling.staffed.staged n before).resident
      (telling.announced n before) shows stepped

theorem bootstrap_telling (data : WorldBootstrapData F) (settings : SimulationSettings F)
    (obstacles : Option (List Obstacle)) (draws : Nat → NeedsDraw F) (w : World F)
    (booted : bootstrap data settings obstacles draws = some w) : w.Telling := by
  have initial := bootstrap_initial data settings obstacles draws w booted
  refine ⟨bootstrap_staffed data settings obstacles draws w booted, initial.roster, fun n _ => ?_⟩
  refine World.announced_of_silent ?_
  by_contra talking
  have tied := World.isTalking_ledger.mp (by simpa using talking)
  simp [initial.idle] at tied

/-- An NPC that still talks is restored once exactly if it shows a dialogue and nobody else restored
has its id. It shows one whenever no event of the run hid the dialogue. -/
theorem shutdown_restores_iff (data : WorldBootstrapData F) (settings : SimulationSettings F)
    (obstacles : Option (List Obstacle)) (draws : Nat → NeedsDraw F) (start w : World F)
    (past : List (Transition (World F) (Event F)))
    (booted : bootstrap data settings obstacles draws = some start)
    (run : ServerRun start past w) (n : Entity) (npc : w.isNpc n = true)
    (talking : w.isTalking n = true) :
    (∀ rank, w.RestoredOnce rank n ↔ w.showsTalk n = true ∧ ¬w.Doubled n) ∧
      (Guarded (fun w event => w.hidesDialogue event = false) past → w.showsTalk n = true) := by
  have stage := (reachable_staffed data settings obstacles draws start w past booted run).staged n npc
  constructor
  · intro rank
    have felt : Has w.reg.emotion n EmotionComp.Fit := by
      have feeling : w.Staffed ∧ ∀ n, w.isNpc n = true → Has w.reg.emotion n EmotionComp.Fit := by
        refine @Run.invariant _ _ _ _ _ _ (fun _ _ => True)
          (fun m : World F => m.Staffed ∧
            ∀ n, m.isNpc n = true → Has m.reg.emotion n EmotionComp.Fit)
          ⟨bootstrap_staffed data settings obstacles draws start booted, ?_⟩ ?_ run
          (fun _ _ => trivial)
        · refine bootstrap_npcs (fun m n => Has m.reg.emotion n EmotionComp.Fit) data settings
            obstacles draws start booted ?_ ?_
          · exact fun e n m m' within felt => felt.of_same (within.same .emotion rfl)
          · intro agent _ i m n settles
            obtain ⟨id, felt⟩ := settles.emotion
            exact ⟨_, felt, Int.le_refl 0⟩
        · intro m event m' here _ stepped
          refine ⟨step_staffed event m m' here.1 stepped, fun n npc => ?_⟩
          have before := step_npc event m m' n here.1.matched stepped npc
          exact World.step_felt event (here.1.staged n before).resident (here.2 n before) stepped
      exact feeling.2 n npc
    have busy : (w.reg.busy n).isSome = true := by
      cases held : w.reg.busy n with
      | none => simp [World.isTalking, held] at talking
      | some tag => rfl
    obtain ⟨emotion, feels, -⟩ := felt
    have listed : w.isListed n = true := by
      simp [World.isListed, busy, stage.named, stage.located, feels]
    rw [World.restoredOnce_iff, World.finalUpdate_isSome]
    simp [listed]
  · intro shows
    have telling : w.Telling := run.invariant
      (bootstrap_telling data settings obstacles draws start booted)
      (fun m event m' here allowed stepped => step_telling event m m' here allowed stepped) shows
    obtain ⟨activity, active⟩ := Option.isSome_iff_exists.mp stage.shown
    simp [World.showsTalk, active, telling.announced n npc talking activity active]

end

theorem World.isListed_issued {w : World ℚ} {m : Entity} (listed : w.isListed m = true) :
    m < w.reg.nextEntity := by
  by_contra late
  have gone := w.reg.issued m (Nat.not_lt.mp late)
  simp [World.isListed, (w.reg.owned m gone).1] at listed

-- Bob talks to Ella before anything else happens.
def bobCalls : List (Event ℚ) :=
  [.connect, .command (.login 1 "bob" "Bob"), .command (.talkToNpc 1 7)]

theorem shutdown_restores_ella : ∃ past w, ServerRun hamlet past w ∧
    past.reverse.map (·.event) = bobCalls ∧ w.isTalking 0 = true ∧
    ∀ rank, w.RestoredOnce rank 0 := by
  have passed : (followWhile step (fun w event => !w.hidesDialogue event) bobCalls hamlet).any
      (fun w => w.isNpc 0 && w.isTalking 0 && (List.range w.reg.nextEntity).all fun m =>
        m = 0 || !(w.isListed m && w.showsTalk m)) = true := by decide +kernel
  obtain ⟨past, w, run, calm, events, checked⟩ := Run.exists_of_check _ _ _ passed
  simp only [Bool.and_eq_true, List.all_eq_true, List.mem_range] at checked
  obtain ⟨⟨npc, talking⟩, others⟩ := checked
  have shows : Guarded (fun w event => w.hidesDialogue event = false) past :=
    calm.mono fun _ _ quiet => by simpa using quiet
  have single : ¬w.Doubled 0 := by
    rintro ⟨m, -, -, apart, ⟨listed, shown⟩, -⟩
    simpa [apart, listed, shown] using others m (World.isListed_issued listed)
  obtain ⟨restored, told⟩ := shutdown_restores_iff hamletData ⟨2, 60⟩ (some [])
    (fun _ => ⟨100, 100⟩) hamlet w past hamlet_boots run 0 npc talking
  exact ⟨past, w, run, events, talking, fun rank => (restored rank).mpr ⟨told shows, single⟩⟩

def strolling : FrameInput ℚ :=
  { plainFrame with tree := fun _ => ⟨id, fun _ => 0⟩, physicalTick := 1 }

def bobsFrame : FrameInput ℚ :=
  { plainFrame with
    commands := [.login 1 "bob" "Bob", .talkToNpc 1 7]
    tree := fun _ => ⟨id, fun _ => 0⟩
    physicalTick := 2 }

-- Ella has walked a little before Bob talks to her: the ambient system of the same frame rewrites
-- her activity, and the shutdown misses her.
theorem shutdown_misses_ella : ∃ past w, FrameRun hamlet past w ∧
    past.reverse.map (·.event) = [.frame strolling, .thread .connect, .frame bobsFrame] ∧
    w.isNpc 0 = true ∧ w.isTalking 0 = true ∧ ∀ rank, ¬w.RestoredOnce rank 0 := by
  have passed : (followWhile roundStep (fun _ _ => true)
      [.frame strolling, .thread .connect, .frame bobsFrame] hamlet).any
      (fun w => w.isNpc 0 && w.isTalking 0 && (w.finalUpdate 0).isNone) = true := by decide +kernel
  obtain ⟨past, w, run, -, events, checked⟩ := Run.exists_of_check _ _ _ passed
  simp only [Bool.and_eq_true, Option.isNone_iff_eq_none] at checked
  obtain ⟨⟨npc, talking⟩, missed⟩ := checked
  refine ⟨past, w, run, events, npc, talking, fun rank restored => ?_⟩
  have listed : 0 ∈ w.stillTalking rank := List.count_pos_iff.mp (by simp [restored.sent])
  simp [World.mem_stillTalking, missed] at listed

end MundusVivens
