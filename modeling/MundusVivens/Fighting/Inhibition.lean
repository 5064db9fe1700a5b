import MundusVivens.Fighting.Duels

set_option autoImplicit false

/-!
# Inhibition

A sentient NPC that meets a threat holds back while the AI server judges it. Its node
counts the ticks of the wait; a failed answer lets the count start over.
-/

namespace MundusVivens

open Scalar BehaviorTree Runs

variable {F : Type} [Scalar F]

namespace World

omit [Scalar F] in
def aggroScore (w : World F) (e : Entity) : Int :=
  match w.reg.aggro e with
  | some aggro => aggro.aggroScore
  | none => 0

omit [Scalar F] in
def isInhibited (w : World F) (e : Entity) : Bool :=
  match w.reg.aggro e with
  | some aggro => aggro.isInhibited
  | none => false

/-- The event drains the failed answer to a request of an NPC that still holds back. -/
def losesAnswer (w : World F) : Event F → Bool
  | .drainTask _ =>
      match w.grpc.pop with
      | some (_, .threatDetected _ _ _ e, .threat false _, _) =>
          w.isInhibited e && decide (w.aggroScore e ≠ 0)
      | _ => false
  | _ => false

end World

def holdsBack (e : Entity) (turn : Start SurvivalLeaf (World F)) : Bool :=
  turn.leaf = .inhibitOrAttack && (turn.state.actionInhibitOrAttack e).any (·.1 = .running)

def visitHolds (e : Entity) (t : Transition (World F) (Event F)) : Nat :=
  match t.event with
  | .behaviorTree x draw =>
      if x = e then (t.before.visitStarts e draw).countP (holdsBack e) else 0
  | _ => 0

-- The ticks the node of an NPC has returned `Running` since it last attacked or dropped its aggro.
def heldTicks (e : Entity) : List (Transition (World F) (Event F)) → Nat
  | [] => 0
  | t :: past => if t.after.aggroScore e = 0 then 0 else heldTicks e past + visitHolds e t

namespace World

variable {w w' : World F} {e n : Entity}

theorem inhibitOrAttack_waits (status : NodeStatus)
    (ran : w.actionInhibitOrAttack e = some (status, w')) :
    (status = .running ∧ ∃ aggro waited, w.reg.aggro e = some aggro ∧
      waited = (if aggro.isInhibited then aggro.inhibitWaitTicks else 0) + 1 ∧ waited ≤ 100 ∧
      w'.reg.aggro e = some { aggro with isInhibited := true, inhibitWaitTicks := waited }) ∨
    (status ≠ .running ∧ w'.aggroScore e = 0 ∧
      ∀ aggro', w'.reg.aggro e = some aggro' → ∃ aggro, w.reg.aggro e = some aggro ∧
        (aggro'.inhibitWaitTicks = aggro.inhibitWaitTicks ∨ 0 < aggro'.inhibitWaitTicks)) := by
  cases inhibitOrAttack_cases ran with
  | unaware calm => exact .inr ⟨by simp, by simp [aggroScore, calm], by simp [calm]⟩
  | forgets aggro roused =>
      exact .inr ⟨by simp, by simp [aggroScore, setAggro], by simp [setAggro, roused]⟩
  | attacks aggro toil threat roused =>
      exact .inr ⟨by simp, by simp [aggroScore, setAggro, setToil],
        by simp [setAggro, setToil, roused]⟩
  | givesUp aggro threat identity threatIdentity roused spotted known sentient late =>
      rw [inhibit_aggro] at late ⊢
      have positive := Int.lt_trans (by decide : (0 : Int) < 100) late
      refine .inr ⟨by simp, by simp [aggroScore, setAggro], fun aggro' stored => ?_⟩
      obtain rfl := by simpa [setAggro] using stored
      exact ⟨aggro, roused, .inr positive⟩
  | holds aggro toil threat identity threatIdentity text roused toils spotted known sentient early =>
      rw [inhibit_aggro] at early ⊢
      refine .inl ⟨rfl, aggro, _, roused, rfl, Int.not_lt.mp early, ?_⟩
      simp [setActivity, setToil, setAggro]

theorem updateAggro_keeps (aggro : AggroComp) (best : Option Entity × Int) :
    (updateAggro aggro best).inhibitWaitTicks = aggro.inhibitWaitTicks ∧
      ((updateAggro aggro best).aggroScore = 0 ∨
        (updateAggro aggro best).isInhibited = aggro.isInhibited) := by
  unfold updateAggro
  dsimp only
  repeat' split
  all_goals simp_all

theorem perception_keeps (aggro' : AggroComp) (stored : (w.perception e).reg.aggro e = some aggro') :
    ∃ aggro, w.reg.aggro e = some aggro ∧ aggro'.inhibitWaitTicks = aggro.inhibitWaitTicks ∧
      (aggro'.aggroScore = 0 ∨ aggro'.isInhibited = aggro.isInhibited) := by
  unfold perception at stored
  split at stored
  next aggro _ _ roused _ =>
    refine ⟨aggro, roused, ?_⟩
    split at stored
    next =>
      obtain rfl := by simpa [setAggro] using stored
      simp
    next =>
      split at stored
      next =>
        obtain rfl := by simpa [setAggro] using stored
        simp
      next =>
        obtain rfl := by simpa [setAggro] using stored
        exact updateAggro_keeps aggro _
  next => exact ⟨aggro', stored, rfl, .inr rfl⟩

theorem applyThreat_waits (targetNpcId : UInt32) (success : Bool) (actionCode : Int)
    (applied : w.applyThreat e targetNpcId success actionCode = some w') (aggro' : AggroComp)
    (stored : w'.reg.aggro e = some aggro') :
    ∃ aggro, w.reg.aggro e = some aggro ∧ aggro'.inhibitWaitTicks = aggro.inhibitWaitTicks ∧
      (aggro'.aggroScore = 0 ∨ aggro' = aggro ∨
        success = false ∧ aggro' = { aggro with isInhibited := false }) := by
  unfold applyThreat at applied
  split at applied
  next calm =>
    obtain rfl := Option.some.inj applied
    simp [calm] at stored
  next aggro roused =>
    refine ⟨aggro, roused, ?_⟩
    split at applied
    next =>
      obtain rfl := Option.some.inj applied
      obtain rfl := by simpa [roused] using stored
      simp
    next =>
      simp only [Option.bind_eq_bind, Option.bind_eq_some_iff] at applied
      obtain ⟨identity, -, applied⟩ := applied
      split at applied
      next =>
        split at applied
        all_goals
          obtain rfl := Option.some.inj applied
          obtain rfl := by simpa [setAggro, setCombat, exemptTarget, setCooldown] using stored
          simp
      next failed =>
        obtain rfl := Option.some.inj applied
        obtain rfl := by simpa [setAggro] using stored
        simp [by simpa using failed]

theorem drainTask_keeps (draws : Nat → LocationRegistry.RadiusDraw F)
    (drained : w.drainTask draws = some w') (answered : w.losesAnswer (.drainTask draws) = false)
    (aggro' : AggroComp) (stored : w'.reg.aggro n = some aggro') :
    ∃ aggro, w.reg.aggro n = some aggro ∧ aggro'.inhibitWaitTicks = aggro.inhibitWaitTicks ∧
      (aggro'.aggroScore = 0 ∨ aggro'.isInhibited = aggro.isInhibited) := by
  rcases w.drainTask_cases w' draws drained with
    rfl | ⟨ticket, request, reply, rest, popped, ran⟩
  · exact ⟨aggro', stored, rfl, .inr rfl⟩
  have untouched (same : w'.reg.aggro n = w.reg.aggro n) : ∃ aggro, w.reg.aggro n = some aggro ∧
      aggro'.inhibitWaitTicks = aggro.inhibitWaitTicks ∧
      (aggro'.aggroScore = 0 ∨ aggro'.isInhibited = aggro.isInhibited) :=
    ⟨aggro', same ▸ stored, rfl, .inr rfl⟩
  have task := runTask_within _ w' n request reply draws ran
  by_cases threat : request.method = .threatDetected
  next =>
    cases request <;> cases threat
    rename_i npcId targetNpcId score actor
    cases reply with
    | threat success actionCode =>
        have applied : { w with grpc := rest }.applyThreat actor targetNpcId success actionCode =
            some w' := ran
        by_cases same : n = actor
        next =>
          subst same
          obtain ⟨aggro, roused, waits, kept⟩ :=
            applyThreat_waits targetNpcId success actionCode applied aggro' stored
          have before : w.reg.aggro n = some aggro := roused
          refine ⟨aggro, before, waits, ?_⟩
          rcases kept with dropped | rfl | ⟨rfl, rfl⟩
          · exact .inl dropped
          · exact .inr rfl
          · -- A failure that changes anything is a lost answer.
            have lost : aggro.isInhibited = true → aggro.aggroScore = 0 := by
              simpa [losesAnswer, popped, isInhibited, aggroScore, before] using answered
            by_cases inhibited : aggro.isInhibited = true
            · exact .inl (lost inhibited)
            · exact .inr (by simpa using Eq.symm (by simpa using inhibited))
        next =>
          have within := (applyThreat_within _ w' actor n _ _ _ applied).others same
          exact untouched (within.same .aggro rfl)
    | _ =>
        obtain rfl := Option.some.inj ran
        exact untouched rfl
  next =>
    refine untouched (task.same .aggro ?_)
    cases request <;> first | rfl | exact absurd rfl threat

omit [Scalar F] in
theorem isAggroHigh_rouses (ran : w.conditionIsAggroHigh e = some (.success, w')) :
    100 ≤ w.aggroScore e := by
  unfold conditionIsAggroHigh at ran
  repeat' split at ran
  all_goals simp_all [aggroScore]

-- The wait that the node counts covers the ticks it held the NPC back.
structure Counts (w : World F) (e : Entity) (held : Nat) : Prop where
  patient : ∀ aggro, w.reg.aggro e = some aggro → 0 ≤ aggro.inhibitWaitTicks
  counted : held = 0 ∨ w.aggroScore e = 0 ∨ ∃ aggro, w.reg.aggro e = some aggro ∧
    aggro.isInhibited = true ∧ (held : Int) ≤ aggro.inhibitWaitTicks
  bounded : held ≤ 100

omit [Scalar F] in
theorem Counts.drop {held : Nat} (counts : w.Counts e held) : w.Counts e 0 :=
  ⟨counts.patient, .inl rfl, Nat.zero_le _⟩

omit [Scalar F] in
theorem Counts.of_same {held : Nat} (counts : w.Counts e held)
    (same : w'.reg.aggro e = w.reg.aggro e) : w'.Counts e held := by
  refine ⟨?_, ?_, counts.bounded⟩
  · rw [same]
    exact counts.patient
  · have score : w'.aggroScore e = w.aggroScore e := by simp [aggroScore, same]
    rw [same, score]
    exact counts.counted

omit [Scalar F] in
theorem Counts.of_kept {held : Nat} (counts : w.Counts e held)
    (calm : w.aggroScore e = 0 → held = 0)
    (kept : ∀ aggro', w'.reg.aggro e = some aggro' → ∃ aggro, w.reg.aggro e = some aggro ∧
      aggro'.inhibitWaitTicks = aggro.inhibitWaitTicks ∧
      (aggro'.aggroScore = 0 ∨ aggro'.isInhibited = aggro.isInhibited)) : w'.Counts e held := by
  refine ⟨fun aggro' stored => ?_, ?_, counts.bounded⟩
  · obtain ⟨aggro, roused, waits, -⟩ := kept aggro' stored
    exact waits ▸ counts.patient aggro roused
  · cases stored : w'.reg.aggro e with
    | none => exact .inr (.inl (by simp [aggroScore, stored]))
    | some aggro' =>
        obtain ⟨aggro, roused, waits, keeps⟩ := kept aggro' stored
        rcases counts.counted with nothing | score | ⟨again, there, inhibited, covered⟩
        · exact .inl nothing
        · exact .inl (calm score)
        obtain rfl : aggro = again := Option.some.inj (roused.symm.trans there)
        rcases keeps with dropped | same
        · exact .inr (.inl (by simp [aggroScore, stored, dropped]))
        · exact .inr (.inr ⟨aggro', rfl, same.trans inhibited, waits ▸ covered⟩)

theorem Counts.turn {held : Nat} (counts : w.Counts e held) (roused : 100 ≤ w.aggroScore e)
    (status : NodeStatus) (ran : w.actionInhibitOrAttack e = some (status, w')) :
    w'.Counts e (held + if status = .running then 1 else 0) := by
  rcases inhibitOrAttack_waits status ran with
    ⟨rfl, aggro, waited, before, rfl, early, after⟩ | ⟨moves, calm, waits⟩
  · have patient := counts.patient aggro before
    have covered : (held : Int) ≤ if aggro.isInhibited then aggro.inhibitWaitTicks else 0 := by
      rcases counts.counted with rfl | score | ⟨again, there, inhibited, covered⟩
      · split <;> simp [patient]
      · omega
      · obtain rfl : aggro = again := Option.some.inj (before.symm.trans there)
        simpa [inhibited] using covered
    refine ⟨fun aggro' stored => ?_, .inr (.inr ⟨_, after, rfl, ?_⟩), ?_⟩
    · obtain rfl := Option.some.inj (after.symm.trans stored)
      dsimp only
      omega
    · push_cast
      simpa using covered
    · have within : (held : Int) + 1 ≤ 100 := by omega
      simp only [if_true]
      omega
  · rw [if_neg moves]
    refine ⟨fun aggro' stored => ?_, .inr (.inl calm), counts.bounded⟩
    obtain ⟨aggro, before, same | positive⟩ := waits aggro' stored
    · exact same ▸ counts.patient aggro before
    · exact Int.le_of_lt positive

end World

section

variable (e : Entity) (draw : BehaviorDraw)

-- The node is reached with a full aggro score only.
def startsRoused (leaf : SurvivalLeaf) (w : World F) : Prop :=
  leaf = .inhibitOrAttack → 100 ≤ w.aggroScore e

theorem survivalTree_roused : Outline (runLeaf e draw) (startsRoused (F := F) e) (fun _ => True)
    survivalTree fun _ _ => True := by
  refine Outline.selector_kept _ _ fun child member => ?_
  simp only [peacefulSeqs, List.mem_cons, List.not_mem_nil, or_false] at member
  rcases member with rfl | rfl | rfl | rfl | rfl | rfl | rfl | rfl
  case inr.inl =>
    refine Outline.sequence_cons (fun w => 100 ≤ w.aggroScore e) ?_
      (Outline.sequence_cons (fun _ => True) ?_ (Outline.sequence_nil fun _ _ => trivial))
    · refine Outline.leaf _ (fun w _ same => by cases same) fun w status w' _ ran => ?_
      obtain ⟨rfl, -⟩ := w.isAggroHigh_pure e w' status ran
      split
      next succeeded => exact World.isAggroHigh_rouses (succeeded ▸ ran)
      next => trivial
    · exact Outline.leaf _ (fun w roused _ => roused) fun w status w' _ _ => by simp
  all_goals
    refine Outline.of_leaves _ (fun l among w _ same => ?_) fun _ _ _ _ _ _ _ => trivial
    subst same
    simp [leaves, leavesOf, fleeSeq, combatSeq, hungerSeq, fatigueSeq, schedEatSeq, schedSleepSeq,
      wanderSeq] at among

variable {e draw}

theorem World.planted_of_start {w : World F} {turn : Start SurvivalLeaf (World F)}
    (member : turn ∈ w.visitStarts e draw) : w.reg.behaviorTree e = some () := by
  unfold World.visitStarts at member
  split at member
  next => cases member
  next free =>
    cases tree : w.reg.behaviorTree e with
    | none => simp [tree] at free
    | some _ => rfl

theorem visit_counts (w w' : World F) (matched : w.Matched) (held : Nat)
    (counts : w.Counts e held) (visited : w.behaviorTree e draw = some w') :
    w'.Counts e (held + (w.visitStarts e draw).countP (holdsBack e)) := by
  have roused := World.visitStarts_outline e draw (survivalTree_roused e draw) w w' trivial visited
  have history := w.behaviorTree_history e draw
    (fun log m => (w.reg.behaviorTree e = some () → m.Resident e) ∧
      m.Counts e (held + log.countP (holdsBack e)))
    (fun leaf m => startsRoused e leaf m ∧ w.reg.behaviorTree e = some ())
    w' ⟨matched.planted, counts⟩ matched.planted
    (fun log leaf m status m' here _ guard ran => by
      obtain ⟨resident, counts⟩ := here
      obtain ⟨starts, planted⟩ := guard
      refine ⟨fun planted => runLeaf_resident e draw leaf m status m' (resident planted) ran, ?_⟩
      by_cases node : leaf = .inhibitOrAttack
      next =>
        subst node
        have turned := counts.turn (starts rfl) status ran
        have acted : m.actionInhibitOrAttack e = some (status, m') := ran
        rw [List.countP_cons, ← Nat.add_assoc]
        simpa [holdsBack, acted] using turned
      next =>
        have idle : (⟨leaf, m⟩ :: log).countP (holdsBack e) = log.countP (holdsBack e) := by
          rw [List.countP_cons]
          simp [holdsBack, node]
        rw [idle]
        have within := runLeaf_within e e draw leaf status m m' (resident planted) ran
        refine counts.of_same (within.same .aggro ?_)
        cases leaf <;> first | rfl | exact absurd rfl node)
    visited
    fun start member => ⟨roused start member, World.planted_of_start member⟩
  exact history.2

end

structure Waiting (past : List (Transition (World F) (Event F))) (w : World F) : Prop where
  matched : w.Matched
  counts : ∀ e, w.isNpc e = true → w.Counts e (heldTicks e past)
  calm : ∀ e, w.aggroScore e = 0 → heldTicks e past = 0

theorem heldTicks_calm (e : Entity) (t : Transition (World F) (Event F))
    (past : List (Transition (World F) (Event F))) (calm : t.after.aggroScore e = 0) :
    heldTicks e (t :: past) = 0 := by simp [heldTicks, calm]

theorem World.Counts.grown {w w' : World F} {e : Entity} {event : Event F}
    {past : List (Transition (World F) (Event F))}
    (counts : w'.Counts e (heldTicks e past + visitHolds e ⟨w, event, w'⟩)) :
    w'.Counts e (heldTicks e (⟨w, event, w'⟩ :: past)) := by
  rw [heldTicks]
  split
  next => exact counts.drop
  next => exact counts

theorem step_counts (event : Event F) (w w' : World F) (matched : w.Matched) (e : Entity)
    (npc : w.isNpc e = true) (past : List (Transition (World F) (Event F)))
    (counts : w.Counts e (heldTicks e past)) (calm : w.aggroScore e = 0 → heldTicks e past = 0)
    (answered : w.losesAnswer event = false) (stepped : step event w = some w') :
    w'.Counts e (heldTicks e past + visitHolds e ⟨w, event, w'⟩) := by
  obtain ⟨needs, needy⟩ := Option.isSome_iff_exists.mp npc
  have within := resident_step_within event w w' e (matched.resident needy) stepped
  have apart (silent : visitHolds e ⟨w, event, w'⟩ = 0)
      (same : w'.reg.aggro e = w.reg.aggro e) :
      w'.Counts e (heldTicks e past + visitHolds e ⟨w, event, w'⟩) := by
    rw [silent]
    exact counts.of_same same
  cases event with
  | behaviorTree x draw =>
      by_cases same : x = e
      next =>
        subst same
        have visited := visit_counts w w' matched _ counts stepped
        simpa [visitHolds] using visited
      next =>
        have other : e ≠ x := Ne.symm same
        exact apart (by simp [visitHolds, same]) ((within.others other).same .aggro rfl)
  | perception x =>
      by_cases same : x = e
      next =>
        subst same
        obtain rfl := Option.some.inj stepped
        exact counts.of_kept calm World.perception_keeps
      next =>
        have other : e ≠ x := Ne.symm same
        exact apart rfl ((within.others other).same .aggro rfl)
  | drainTask draws => exact counts.of_kept calm (World.drainTask_keeps draws stepped answered)
  | command cmd => cases cmd <;> exact apart rfl (within.same .aggro rfl)
  | _ => exact apart rfl (within.same .aggro rfl)

theorem bootstrap_patient (data : WorldBootstrapData F) (settings : SimulationSettings F)
    (obstacles : Option (List Obstacle)) (draws : Nat → NeedsDraw F) (w : World F)
    (booted : bootstrap data settings obstacles draws = some w) (e : Entity)
    (npc : w.isNpc e = true) : w.Counts e 0 := by
  refine bootstrap_npcs (fun w e => w.Counts e 0) data settings obstacles draws w booted ?_ ?_ e npc
  · intro x n w w' within counts
    exact counts.of_same (within.same .aggro rfl)
  · intro agent _ i w n settles
    refine ⟨fun aggro stored => ?_, .inl rfl, Nat.zero_le _⟩
    obtain rfl := Option.some.inj (settles.aggro.symm.trans stored)
    simp [AggroComp.initial]

/-- As long as no failed answer reaches an NPC that still holds back, no NPC is held for more than a
hundred ticks of the node before it attacks or drops its aggro. -/
theorem inhibition_is_bounded (data : WorldBootstrapData F) (settings : SimulationSettings F)
    (obstacles : Option (List Obstacle)) (draws : Nat → NeedsDraw F) (start w : World F)
    (past : List (Transition (World F) (Event F)))
    (booted : bootstrap data settings obstacles draws = some start)
    (run : ServerRun start past w)
    (answered : Guarded (fun w event => w.losesAnswer event = false) past) (e : Entity)
    (npc : w.isNpc e = true) : heldTicks e past ≤ 100 := by
  have waiting : Waiting past w := by
    refine @Run.history _ _ _ _ _ _ _ Waiting ?_ ?_ run answered
    · exact ⟨bootstrap_matched data settings obstacles draws start booted,
        bootstrap_patient data settings obstacles draws start booted, fun _ _ => rfl⟩
    · intro past w event w' _ waiting answered stepped
      refine ⟨step_matched event w w' waiting.matched stepped, fun e npc => ?_,
        fun e calm => heldTicks_calm e _ past calm⟩
      have before := step_npc event w w' e waiting.matched stepped npc
      exact (step_counts event w w' waiting.matched e before past (waiting.counts e before)
        (waiting.calm e) answered stepped).grown
  exact (waiting.counts e npc).bounded

-- Ella meets a wolf and holds back for a hundred ticks.
def standoff : List (Event ℚ) :=
  .perception 0 :: List.replicate 100 (.behaviorTree 0 ⟨id, fun _ => 0⟩)

theorem inhibition_is_bounded_prowl : ∃ past last, ServerRun prowl past last ∧
    past.reverse.map (·.event) = standoff ∧ heldTicks 0 past ≤ 100 := by
  have passed : (record step standoff [] prowl).any (fun kept =>
      kept.1.all (fun t => !t.before.losesAnswer t.event) && kept.2.isNpc 0) = true := by
    decide +kernel
  obtain ⟨past, last, run, events, checked⟩ := Run.exists_of_record _
    (fun (past : List (Transition (World ℚ) (Event ℚ))) last =>
      past.all (fun t => !t.before.losesAnswer t.event) && last.isNpc 0) passed
  obtain ⟨answered, npc⟩ := (Bool.and_eq_true _ _).mp checked
  have guarded : Guarded (fun w event => w.losesAnswer event = false) past := fun t member => by
    simpa using List.all_eq_true.mp answered t member
  exact ⟨past, last, run, events, inhibition_is_bounded prowlData ⟨2, 60⟩ (some [])
    (fun _ => ⟨100, 100⟩) prowl last past prowl_boots run guarded 0 npc⟩

-- When the request fails in the hundredth tick, Ella is asked to wait once more.
theorem failed_answer_restarts_wait : ∃ past last, ServerRun prowl past last ∧
    past.reverse.map (·.event) = standoff ++
      [.abort 0, .drainTask fun _ => ⟨0, 0⟩, .behaviorTree 0 ⟨id, fun _ => 0⟩] ∧
    last.isNpc 0 = true ∧ last.isSentient 0 = true ∧ heldTicks 0 past = 101 := by
  have passed : (record step (standoff ++
      [.abort 0, .drainTask fun _ => ⟨0, 0⟩, .behaviorTree 0 ⟨id, fun _ => 0⟩]) [] prowl).any
      (fun kept => kept.2.isNpc 0 && kept.2.isSentient 0 && heldTicks 0 kept.1 = 101) = true := by
    decide +kernel
  obtain ⟨past, last, run, events, checked⟩ := Run.exists_of_record _ (fun past last =>
    last.isNpc 0 && last.isSentient 0 && heldTicks 0 past = 101) passed
  simp only [Bool.and_eq_true, decide_eq_true_eq] at checked
  exact ⟨past, last, run, events, checked.1.1, checked.1.2, checked.2⟩

end MundusVivens
