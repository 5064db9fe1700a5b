import MundusVivens.Fighting.Inhibition
import MundusVivens.Ticks.Tickets
import MundusVivens.World.Settlers

set_option autoImplicit false

/-!
# Approvals

The answer to a request about a threat turns the NPC against the threat it has by then. That is
the one it asked about as long as its scans leave the threat alone while the request is under way.
-/

namespace MundusVivens

open Scalar BehaviorTree Runs

variable {F : Type} [Scalar F]

namespace World

omit [Scalar F] in
def threatOf (w : World F) (e : Entity) : Option Entity := (w.reg.aggro e).bind (·.threatEntity)

omit [Scalar F] in
-- A request of the NPC is unanswered, or its answer waits in the queue.
def AwaitsJudgement (w : World F) (e : Entity) : Prop :=
  ∃ ticket call npcId targetNpcId score, w.grpc.calls ticket = some call ∧
    call.request = .threatDetected npcId targetNpcId score e

/-- The next scan sees the threat again, or nobody while the aggro lasts. A scan of the dead sees
nothing, and one in a fight is skipped. -/
def SeesSameThreat (w : World F) (e : Entity) : Prop :=
  ∀ loc aggro faction, w.reg.location e = some loc → w.reg.aggro e = some aggro →
    w.reg.faction e = some faction → w.hasValidTarget e = false →
    if w.isDead e = true then aggro.threatEntity = none
    else
      let seen := (w.bestThreat e faction
        (w.grid.getNearbyEntities loc.x loc.z (lit 20) w.reg.location)).1
      seen = aggro.threatEntity ∨ seen = none ∧ (aggro.aggroScore ≤ 0 ∨ 10 < aggro.aggroScore)

end World

/-- No scan of a waiting NPC gives it another threat. -/
def KeepsThreats (w : World F) : Event F → Prop
  | .perception e => w.AwaitsJudgement e → w.SeesSameThreat e
  | _ => True

-- The turn of the node that sent this request, about this threat.
structure Sends (e : Entity) (turn : Start SurvivalLeaf (World F)) (ticket : Nat)
    (request : Request F) (threat : Entity) : Prop where
  node : turn.leaf = .inhibitOrAttack
  ticket : turn.state.grpc.nextTicket = ticket
  issued : ∃ status m, turn.state.actionInhibitOrAttack e = some (status, m) ∧
    m.grpc = turn.state.grpc.issue request
  about : turn.state.threatOf e = some threat
  named : ∃ identity npcId score, turn.state.reg.identity threat = some identity ∧
    request = .threatDetected npcId identity.npcId score e

def SentIn (past : List (Transition (World F) (Event F))) (e : Entity) (ticket : Nat)
    (request : Request F) (threat : Entity) : Prop :=
  ∃ ask ∈ past, ∃ draw, ask.event = .behaviorTree e draw ∧
    ∃ turn ∈ ask.before.visitStarts e draw, Sends e turn ticket request threat

/-- Whenever an approval is applied to an NPC, its target is the threat that was asked about. -/
def HitsAsked (past : List (Transition (World F) (Event F))) : Prop :=
  ∀ later t earlier, past = later ++ t :: earlier → ∀ draws, t.event = .drainTask draws →
    ∀ ticket npcId targetNpcId score e rest,
      t.before.grpc.pop =
        some (ticket, .threatDetected npcId targetNpcId score e, .threat true 0, rest) →
      (t.before.reg.aggro e).isSome = true → t.before.reg.valid e = true →
      ∃ threat, SentIn earlier e ticket (.threatDetected npcId targetNpcId score e) threat ∧
        (t.after.reg.combat e).bind (·.targetEntity) = some threat

namespace World

variable {w w' : World F} {e n : Entity}

theorem updateAggro_threat (aggro : AggroComp) (best : Option Entity × Int)
    (sees : best.1 = aggro.threatEntity ∨
      best.1 = none ∧ (aggro.aggroScore ≤ 0 ∨ 10 < aggro.aggroScore)) :
    (updateAggro aggro best).threatEntity = aggro.threatEntity := by
  obtain ⟨seen, gain⟩ := best
  cases seen with
  | some threat =>
      rcases sees with same | ⟨nobody, -⟩
      · exact same
      · cases nobody
  | none =>
      unfold updateAggro
      dsimp only
      split
      next positive =>
        split
        next spent =>
          rcases sees with same | ⟨-, low | high⟩
          · exact same
          · omega
          · omega
        next => rfl
      next => rfl

theorem perception_threat (sees : w.SeesSameThreat e) : (w.perception e).threatOf e = w.threatOf e := by
  unfold perception
  split
  next loc aggro faction stands roused belongs =>
    have before : w.threatOf e = aggro.threatEntity := by simp [threatOf, roused]
    have here := sees loc aggro faction stands roused belongs
    split
    next => simp [threatOf, setAggro, roused]
    next unarmed =>
      have calm := here (by simpa using unarmed)
      split
      next dead =>
        rw [if_pos dead] at calm
        rw [before, calm]
        simp [threatOf, setAggro]
      next alive =>
        rw [if_neg alive] at calm
        rw [before]
        simp [threatOf, setAggro, updateAggro_threat aggro _ calm]
  next => rfl

theorem applyThreat_threat (targetNpcId : UInt32) (success : Bool) (actionCode : Int)
    (applied : w.applyThreat e targetNpcId success actionCode = some w') :
    w'.threatOf e = w.threatOf e := by
  unfold applyThreat at applied
  split at applied
  next =>
    obtain rfl := Option.some.inj applied
    rfl
  next aggro roused =>
    split at applied
    next =>
      obtain rfl := Option.some.inj applied
      rfl
    next =>
      simp only [Option.bind_eq_bind, Option.bind_eq_some_iff] at applied
      obtain ⟨identity, -, applied⟩ := applied
      repeat' split at applied
      all_goals
        obtain rfl := Option.some.inj applied
        simp [threatOf, roused, setAggro, setCombat, exemptTarget, setCooldown]

theorem applyThreat_approved (targetNpcId : UInt32) (roused : (w.reg.aggro e).isSome = true)
    (valid : w.reg.valid e = true) (applied : w.applyThreat e targetNpcId true 0 = some w') :
    (w'.reg.combat e).bind (·.targetEntity) = w.threatOf e := by
  obtain ⟨aggro, roused⟩ := Option.isSome_iff_exists.mp roused
  simp only [applyThreat, roused, valid, Bool.not_true, Bool.false_eq_true, if_false, if_true,
    Option.bind_eq_bind, Option.bind_eq_some_iff] at applied
  obtain ⟨identity, -, stored⟩ := applied
  obtain rfl := Option.some.inj stored
  simp [threatOf, roused, setAggro, setCombat]

theorem inhibitOrAttack_asks (status : NodeStatus)
    (ran : w.actionInhibitOrAttack e = some (status, w')) :
    w'.threatOf e = w.threatOf e ∧ (w'.grpc = w.grpc ∨ ∃ request threat,
      w'.grpc = w.grpc.issue request ∧ w.threatOf e = some threat ∧
      ∃ identity npcId score, w.reg.identity threat = some identity ∧
        request = .threatDetected npcId identity.npcId score e) := by
  have asked (aggro : AggroComp) (threat : Entity) (npcId : UInt32) (threatIdentity : IdentityComp)
      (roused : w.reg.aggro e = some aggro)
      (spotted : aggro.threatEntity.filter (w.reg.valid ·) = some threat)
      (named : w.reg.identity threat = some threatIdentity) (m : World F)
      (grpc : m.grpc = (w.inhibit e aggro npcId threatIdentity.npcId).1.grpc) :
      m.grpc = w.grpc ∨ ∃ request threat, m.grpc = w.grpc.issue request ∧
        w.threatOf e = some threat ∧ ∃ identity npcId score, w.reg.identity threat = some identity ∧
          request = .threatDetected npcId identity.npcId score e := by
    have target : aggro.threatEntity = some threat := (Option.filter_eq_some_iff.mp spotted).1
    rw [grpc]
    unfold inhibit
    split
    next => exact .inl rfl
    next =>
      exact .inr ⟨_, threat, rfl, by simp [threatOf, roused, target], threatIdentity, npcId,
        aggro.aggroScore, named, rfl⟩
  cases inhibitOrAttack_cases ran with
  | unaware => exact ⟨rfl, .inl rfl⟩
  | forgets aggro roused => exact ⟨by simp [threatOf, setAggro, roused], .inl rfl⟩
  | attacks aggro toil threat roused =>
      exact ⟨by simp [threatOf, setAggro, setToil, roused], .inl rfl⟩
  | givesUp aggro threat identity threatIdentity roused spotted known =>
      exact ⟨by simp [threatOf, setAggro, inhibit_aggro, roused],
        asked aggro threat identity.npcId threatIdentity roused spotted known _ rfl⟩
  | holds aggro toil threat identity threatIdentity text roused toils spotted known =>
      exact ⟨by simp [threatOf, setAggro, setToil, setActivity, inhibit_aggro, roused],
        asked aggro threat identity.npcId threatIdentity roused spotted known _ rfl⟩

variable {draw : BehaviorDraw}

theorem visit_asks (matched : w.Matched) (visited : w.behaviorTree e draw = some w')
    (planted : w.reg.behaviorTree e = some ()) :
    w'.threatOf e = w.threatOf e ∧ ∀ ticket call, w'.grpc.calls ticket = some call →
      call.request.method = .threatDetected →
      (∃ before, w.grpc.calls ticket = some before ∧ call.request = before.request) ∨
        ∃ turn ∈ w.visitStarts e draw, ∃ threat, Sends e turn ticket call.request threat ∧
          w.threatOf e = some threat := by
  have history := w.behaviorTree_history e draw
    (fun turns m => m.Resident e ∧ m.threatOf e = w.threatOf e ∧
      ∀ ticket call, m.grpc.calls ticket = some call → call.request.method = .threatDetected →
        (∃ before, w.grpc.calls ticket = some before ∧ call.request = before.request) ∨
          ∃ turn ∈ turns, ∃ threat, Sends e turn ticket call.request threat ∧
            w.threatOf e = some threat)
    (fun _ _ => True) w'
    ⟨matched.planted planted, rfl, fun ticket call known _ => .inl ⟨call, known, rfl⟩⟩
    matched.planted
    (fun turns leaf m status m' here _ _ ran => by
      obtain ⟨resident, same, asked⟩ := here
      have stays := runLeaf_resident e draw leaf m status m' resident ran
      have earlier (ticket : Nat) (call : Call F) (known : m.grpc.calls ticket = some call)
          (threat : call.request.method = .threatDetected) :
          (∃ before, w.grpc.calls ticket = some before ∧ call.request = before.request) ∨
            ∃ turn ∈ ⟨leaf, m⟩ :: turns, ∃ threat, Sends e turn ticket call.request threat ∧
              w.threatOf e = some threat := by
        refine (asked ticket call known threat).imp id ?_
        rintro ⟨turn, member, sent⟩
        exact ⟨turn, List.mem_cons_of_mem _ member, sent⟩
      by_cases node : leaf = .inhibitOrAttack
      next =>
        subst node
        obtain ⟨kept, calls⟩ := inhibitOrAttack_asks status ran
        refine ⟨stays, kept.trans same, fun ticket call known threat => ?_⟩
        rcases calls with unchanged | ⟨request, about, issued, threatens, named⟩
        · exact earlier ticket call (unchanged ▸ known) threat
        · by_cases new : ticket = m.grpc.nextTicket
          · subst new
            have own : call.request = request := by
              rw [issued] at known
              simp only [GrpcClient.issue, Function.update_self] at known
              rw [← Option.some.inj known]
            refine .inr ⟨_, List.mem_cons_self, about, ⟨rfl, rfl, ⟨status, m', ran, ?_⟩, threatens, ?_⟩,
              same.symm.trans threatens⟩
            · rw [own]
              exact issued
            · rw [own]
              exact named
          · refine earlier ticket call ?_ threat
            rw [issued] at known
            simpa only [GrpcClient.issue, Function.update_of_ne new] using known
      next =>
        have within := runLeaf_within e e draw leaf status m m' resident ran
        have aggro : m'.reg.aggro e = m.reg.aggro e := by
          refine within.same .aggro ?_
          cases leaf <;> first | rfl | exact absurd rfl node
        have calls : m'.grpc.callsTo .threatDetected = m.grpc.callsTo .threatDetected := by
          refine within.same (.calls .threatDetected) ?_
          cases leaf <;> first | rfl | exact absurd rfl node
        refine ⟨stays, ?_, fun ticket call known threat => earlier ticket call ?_ threat⟩
        · rw [← same, threatOf, aggro]
          rfl
        · exact GrpcClient.known_of_callsTo (threat ▸ calls) known)
    visited fun _ _ => trivial
  exact history.2

theorem step_threat (event : Event F) (matched : w.Matched) (resident : w.Resident e)
    (waits : w.AwaitsJudgement e) (keeps : KeepsThreats w event) (stepped : step event w = some w') :
    w'.threatOf e = w.threatOf e := by
  have of_same (same : w'.reg.aggro e = w.reg.aggro e) : w'.threatOf e = w.threatOf e := by
    rw [threatOf, same]
    rfl
  have within := resident_step_within event w w' e resident stepped
  cases event with
  | perception x =>
      obtain rfl := Option.some.inj stepped
      by_cases self : e = x
      next =>
        subst self
        exact perception_threat (keeps waits)
      next => exact of_same ((within.others self).same .aggro rfl)
  | behaviorTree x draw =>
      by_cases self : e = x
      next =>
        subst self
        by_cases planted : w.reg.behaviorTree e = some ()
        next => exact (visit_asks matched stepped planted).1
        next =>
          have bare := isNone_tree planted
          obtain rfl : w = w' := by simpa [step, behaviorTree, bare] using stepped
          rfl
      next => exact of_same ((within.others self).same .aggro rfl)
  | drainTask draws =>
      rcases w.drainTask_cases w' draws stepped with rfl | ⟨ticket, request, reply, rest, -, ran⟩
      · rfl
      have task := runTask_within _ w' e request reply draws ran
      by_cases threat : request.method = .threatDetected
      next =>
        cases request <;> cases threat
        rename_i npcId targetNpcId score actor
        cases reply with
        | threat success actionCode =>
            have applied : { w with grpc := rest }.applyThreat actor targetNpcId success actionCode =
                some w' := ran
            by_cases self : e = actor
            next =>
              subst self
              have kept := applyThreat_threat targetNpcId success actionCode applied
              exact kept
            next => exact of_same ((task.others self).same .aggro rfl)
        | _ =>
            obtain rfl := Option.some.inj ran
            rfl
      next =>
        refine of_same (task.same .aggro ?_)
        cases request <;> first | rfl | exact absurd rfl threat
  | command cmd =>
      refine of_same (within.same .aggro ?_)
      cases cmd <;> rfl
  | _ => exact of_same (within.same .aggro rfl)

theorem step_asks_nothing (event : Event F) (matched : w.Matched)
    (rooted : ∀ x draw, event ≠ .behaviorTree x draw)
    (stepped : step event w = some w') (ticket : Nat) (call : Call F)
    (known : w'.grpc.calls ticket = some call) (threat : call.request.method = .threatDetected) :
    ∃ before, w.grpc.calls ticket = some before ∧ call.request = before.request := by
  have old (issued : w'.grpc.nextTicket = w.grpc.nextTicket) :
      ∃ before, w.grpc.calls ticket = some before ∧ call.request = before.request := by
    refine ((step_follows event stepped).requests ticket call known).resolve_right fun late => ?_
    rw [w'.grpc.unissued ticket (issued ▸ late)] at known
    cases known
  have apart (free : event.scope.covers (.calls .threatDetected) = false) :
      ∃ before, w.grpc.calls ticket = some before ∧ call.request = before.request :=
    ⟨call, GrpcClient.known_of_callsTo
      (threat ▸ step_calls event w w' .threatDetected matched free stepped) known, rfl⟩
  cases event with
  | respond ticket reply =>
      obtain rfl := Option.some.inj stepped
      exact old (w.grpc.respond_nextTicket ticket reply)
  | abort ticket =>
      obtain rfl := Option.some.inj stepped
      exact old (w.grpc.abort_nextTicket ticket)
  | drainTask draws =>
      have present := w.drainTask_calls w' draws .threatDetected (by simp) stepped ticket
      simp only [GrpcClient.callsTo, known, Option.filter_some, threat, decide_true, if_true] at present
      split at present
      next => cases present
      next => exact ⟨call, (Option.filter_eq_some_iff.mp present.symm).1, rfl⟩
  | behaviorTree x draw => exact absurd rfl (rooted x draw)
  | command cmd => cases cmd <;> exact apart rfl
  | _ => exact apart rfl

end World

variable {w w' : World F} {past : List (Transition (World F) (Event F))} {event : Event F}

-- Every request under way was sent about the threat its NPC still has.
def Pending (past : List (Transition (World F) (Event F))) (w : World F) : Prop :=
  ∀ ticket call npcId targetNpcId score e, w.grpc.calls ticket = some call →
    call.request = .threatDetected npcId targetNpcId score e → w.Resident e ∧
      ∃ threat, SentIn past e ticket call.request threat ∧ w.threatOf e = some threat

theorem SentIn.later {e threat : Entity} {ticket : Nat} {request : Request F}
    (sent : SentIn past e ticket request threat) (t : Transition (World F) (Event F)) :
    SentIn (t :: past) e ticket request threat := by
  obtain ⟨ask, member, sent⟩ := sent
  exact ⟨ask, List.mem_cons_of_mem t member, sent⟩

theorem Pending.kept (pending : Pending past w) (matched : w.Matched) (keeps : KeepsThreats w event)
    (stepped : step event w = some w') : Pending (⟨w, event, w'⟩ :: past) w' := by
  intro ticket call npcId targetNpcId score e known asks
  have old (before : Call F) (present : w.grpc.calls ticket = some before)
      (same : call.request = before.request) : w'.Resident e ∧ ∃ threat,
      SentIn (⟨w, event, w'⟩ :: past) e ticket call.request threat ∧ w'.threatOf e = some threat := by
    have asked := same.symm.trans asks
    obtain ⟨resident, threat, sent, has⟩ :=
      pending ticket before npcId targetNpcId score e present asked
    have waits : w.AwaitsJudgement e :=
      ⟨ticket, before, npcId, targetNpcId, score, present, asked⟩
    refine ⟨step_resident event w w' e resident stepped, threat, ?_, ?_⟩
    · rw [same]
      exact sent.later _
    · exact (w.step_threat event matched resident waits keeps stepped).trans has
  have threatens : call.request.method = .threatDetected := by rw [asks]; rfl
  by_cases visit : ∃ x draw, event = .behaviorTree x draw
  next =>
    obtain ⟨x, draw, rfl⟩ := visit
    by_cases planted : w.reg.behaviorTree x = some ()
    next =>
      obtain ⟨kept, asked⟩ := World.visit_asks matched stepped planted
      rcases asked ticket call known threatens with ⟨before, present, same⟩ | new
      · exact old before present same
      · obtain ⟨turn, member, threat, sends, has⟩ := new
        obtain ⟨identity, ownId, amount, -, named⟩ := sends.named
        obtain ⟨-, -, -, rfl⟩ : npcId = ownId ∧ targetNpcId = identity.npcId ∧ score = amount ∧
            e = x := by simpa using asks.symm.trans named
        refine ⟨step_resident _ w w' e (matched.planted planted) stepped, threat, ?_, ?_⟩
        · exact ⟨_, List.mem_cons_self, draw, rfl, turn, member, sends⟩
        · exact kept.trans has
    next =>
      have bare := World.isNone_tree planted
      obtain rfl : w = w' := by simpa [step, World.behaviorTree, bare] using stepped
      exact old call known rfl
  next =>
    have apart (x : Entity) (draw : BehaviorDraw) : event ≠ .behaviorTree x draw :=
      fun same => visit ⟨x, draw, same⟩
    obtain ⟨before, present, same⟩ :=
      w.step_asks_nothing event matched apart stepped ticket call known threatens
    exact old before present same

theorem Pending.approved (pending : Pending past w) (draws : Nat → LocationRegistry.RadiusDraw F)
    (stepped : step (.drainTask draws) w = some w') (ticket : Nat) (npcId targetNpcId : UInt32)
    (score : Int) (e : Entity) (rest : GrpcClient F)
    (popped : w.grpc.pop =
      some (ticket, .threatDetected npcId targetNpcId score e, .threat true 0, rest))
    (roused : (w.reg.aggro e).isSome = true) (valid : w.reg.valid e = true) :
    ∃ threat, SentIn past e ticket (.threatDetected npcId targetNpcId score e) threat ∧
      (w'.reg.combat e).bind (·.targetEntity) = some threat := by
  obtain ⟨-, ⟨accepted, known⟩, -⟩ := w.grpc.pop_spec rest ticket _ _ popped
  obtain ⟨-, threat, sent, has⟩ := pending ticket _ npcId targetNpcId score e known rfl
  have applied : { w with grpc := rest }.applyThreat e targetNpcId true 0 = some w' := by
    simpa [step, World.drainTask, popped, World.runTask] using stepped
  refine ⟨threat, sent, ?_⟩
  have hit := @World.applyThreat_approved _ _ { w with grpc := rest } w' e targetNpcId roused valid
    applied
  exact hit.trans has

/-- As long as the scans of a waiting NPC leave its threat alone, every approval turns it against
the one it asked about. -/
theorem approvals_hit (data : WorldBootstrapData F) (settings : SimulationSettings F)
    (obstacles : Option (List Obstacle)) (draws : Nat → NeedsDraw F) (start w : World F)
    (past : List (Transition (World F) (Event F)))
    (booted : bootstrap data settings obstacles draws = some start)
    (run : ServerRun start past w) (keeps : Guarded KeepsThreats past) : HitsAsked past := by
  have history : w.Matched ∧ Pending past w ∧ HitsAsked past := by
    refine @Run.history _ _ _ _ _ _ _ (fun past w => w.Matched ∧ Pending past w ∧ HitsAsked past)
      ?_ ?_ run keeps
    · refine ⟨bootstrap_matched data settings obstacles draws start booted, ?_, ?_⟩
      · intro ticket call _ _ _ _ known
        rw [bootstrap_silent booted, GrpcClient.empty] at known
        cases known
      · intro later t earlier split
        cases later <;> cases split
    · rintro past w event w' - ⟨matched, pending, hits⟩ keeps stepped
      refine ⟨step_matched event w w' matched stepped, pending.kept matched keeps stepped, ?_⟩
      intro later t earlier split draws drains ticket npcId targetNpcId score e rest popped
      cases later with
      | nil =>
          obtain ⟨rfl, rfl⟩ := List.cons.inj split
          subst drains
          exact pending.approved draws stepped ticket npcId targetNpcId score e rest popped
      | cons _ later =>
          exact hits later t earlier (List.cons.inj split).2 draws drains ticket npcId targetNpcId
            score e rest popped
  exact history.2.2

def strayData : WorldBootstrapData ℚ :=
  { prowlData with
    agents := [⟨7, "ella", "엘라", "Wilderness", 40, 0, 40, "평온", "대기", 1 / 2, []⟩,
      ⟨20, "wolf", "늑대", "Wilderness", 41, 0, 40, "평온", "대기", 1 / 2, []⟩,
      ⟨21, "stray", "늑대", "Wilderness", 42, 0, 40, "평온", "대기", 1 / 2, []⟩] }

def stray : World ℚ :=
  populate (emptyWorld strayData ⟨2, 60⟩ (some [])) strayData fun _ => ⟨100, 100⟩

theorem stray_boots : bootstrap strayData ⟨2, 60⟩ (some []) (fun _ => ⟨100, 100⟩) = some stray := by
  rw [bootstrap, if_neg (by decide), if_neg (by decide +kernel)]
  rfl

-- The entity `1` has the id 20 at every node of the visit.
def meetsWolf (t : Transition (World ℚ) (Event ℚ)) : Bool :=
  match t.event with
  | .behaviorTree e draw =>
      (t.before.visitStarts e draw).all fun turn =>
        decide ((turn.state.reg.identity 1).map (·.npcId) = some 20)
  | _ => true

-- The approval of an attack on the id 21 turns Ella against the entity `1`.
def missesStray (t : Transition (World ℚ) (Event ℚ)) : Bool :=
  match t.event, t.before.grpc.pop with
  | .drainTask _, some (_, .threatDetected _ targetNpcId _ e, .threat success code, _) =>
      decide (targetNpcId = 21 ∧ e = 0 ∧ success = true ∧ code = 0) &&
        (t.before.reg.aggro 0).isSome && t.before.reg.valid 0 &&
        decide ((t.after.reg.combat 0).bind (·.targetEntity) = some 1)
  | _, _ => false

-- Ella is told to leave the first wolf alone and asks about the second. The daily reset shows her
-- the first again, and the approval turns her against it.
theorem approval_hits_another : ∃ past last, ServerRun stray past last ∧
    past.reverse.map (·.event) = [.perception 0, .behaviorTree 0 ⟨id, fun _ => 0⟩,
      .respond 0 (.threat true 1), .drainTask fun _ => ⟨0, 0⟩, .perception 0,
      .behaviorTree 0 ⟨id, fun _ => 0⟩, .dailyReset, .perception 0, .respond 1 (.threat true 0),
      .drainTask fun _ => ⟨0, 0⟩] ∧ ¬ HitsAsked past := by
  have passed : (record step [.perception 0, .behaviorTree 0 ⟨id, fun _ => 0⟩,
      .respond 0 (.threat true 1), .drainTask fun _ => ⟨0, 0⟩, .perception 0,
      .behaviorTree 0 ⟨id, fun _ => 0⟩, .dailyReset, .perception 0, .respond 1 (.threat true 0),
      .drainTask fun _ => ⟨0, 0⟩] [] stray).any
      (fun kept => kept.1.all meetsWolf && kept.1.head?.any missesStray) = true := by
    decide +kernel
  obtain ⟨past, last, run, events, checked⟩ := Run.exists_of_record _
    (fun past _ => past.all meetsWolf && past.head?.any missesStray) passed
  obtain ⟨met, misses⟩ := (Bool.and_eq_true _ _).mp checked
  refine ⟨past, last, run, events, fun hits => ?_⟩
  cases past with
  | nil => cases misses
  | cons t earlier =>
      have missed : missesStray t = true := misses
      unfold missesStray at missed
      split at missed
      next draws ticket npcId targetNpcId score e success code rest drains popped =>
        simp only [Bool.and_eq_true, decide_eq_true_eq] at missed
        obtain ⟨⟨⟨⟨rfl, rfl, rfl, rfl⟩, roused⟩, valid⟩, target⟩ := missed
        obtain ⟨threat, ⟨ask, member, draw, visit, turn, taken, sends⟩, hit⟩ :=
          hits [] t earlier rfl draws drains ticket npcId 21 score 0 rest popped roused valid
        obtain rfl : 1 = threat := Option.some.inj (target.symm.trans hit)
        obtain ⟨identity, _, _, identified, request⟩ := sends.named
        have named : identity.npcId = 21 := by
          injection request with _ id _ _
          exact id.symm
        have wolf := List.all_eq_true.mp met ask (List.mem_cons_of_mem t member)
        simp only [meetsWolf, visit] at wolf
        have id := List.all_eq_true.mp wolf turn taken
        simp [identified, named] at id
      next => cases missed

-- A scan before the first request, or one that sees the threat again.
def steadyScan (t : Transition (World ℚ) (Event ℚ)) : Bool :=
  match t.event with
  | .perception e =>
      decide (t.before.grpc.nextTicket = 0) || !t.before.isDead e &&
        ((t.before.reg.location e).any fun loc => (t.before.reg.faction e).any fun faction =>
          decide ((t.before.bestThreat e faction (t.before.grid.getNearbyEntities loc.x loc.z (lit 20)
            t.before.reg.location)).1 = t.before.threatOf e))
  | _ => true

theorem keepsThreats_of_steady (t : Transition (World ℚ) (Event ℚ)) (steady : steadyScan t = true) :
    KeepsThreats t.before t.event := by
  unfold steadyScan at steady
  split at steady
  next e scans =>
    rw [scans]
    intro waits loc aggro faction stands roused belongs _
    simp only [Bool.or_eq_true, decide_eq_true_eq, Bool.and_eq_true, Bool.not_eq_true',
      stands, belongs, Option.any_some] at steady
    rcases steady with unasked | ⟨alive, same⟩
    · obtain ⟨ticket, call, _, _, _, known, -⟩ := waits
      rw [t.before.grpc.unissued ticket (unasked ▸ Nat.zero_le ticket)] at known
      cases known
    · rw [if_neg (by simp [alive])]
      exact .inl (same.trans (by simp [World.threatOf, roused]))
  next other =>
    cases event : t.event with
    | perception e => exact absurd event (other e)
    | _ => trivial

-- Ella asks about the wolf, sees it again, and the approval turns her against it.
theorem approvals_hit_prowl : ∃ past last, ServerRun prowl past last ∧
    past.reverse.map (·.event) = [.perception 0, .behaviorTree 0 ⟨id, fun _ => 0⟩, .perception 0,
      .respond 0 (.threat true 0), .drainTask fun _ => ⟨0, 0⟩] ∧
    (last.reg.combat 0).bind (·.targetEntity) = some 1 ∧ HitsAsked past := by
  have passed : (record step [.perception 0, .behaviorTree 0 ⟨id, fun _ => 0⟩, .perception 0,
      .respond 0 (.threat true 0), .drainTask fun _ => ⟨0, 0⟩] [] prowl).any
      (fun kept => kept.1.all steadyScan &&
        decide ((kept.2.reg.combat 0).bind (·.targetEntity) = some 1)) = true := by
    decide +kernel
  obtain ⟨past, last, run, events, checked⟩ := Run.exists_of_record _
    (fun past last => past.all steadyScan &&
      decide ((last.reg.combat 0).bind (·.targetEntity) = some 1)) passed
  obtain ⟨steady, hit⟩ := (Bool.and_eq_true _ _).mp checked
  have keeps : Guarded KeepsThreats past := fun t member =>
    keepsThreats_of_steady t (List.all_eq_true.mp steady t member)
  exact ⟨past, last, run, events, of_decide_eq_true hit,
    approvals_hit prowlData ⟨2, 60⟩ (some []) (fun _ => ⟨100, 100⟩) prowl last past prowl_boots run
      keeps⟩

end MundusVivens
