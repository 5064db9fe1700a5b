import MundusVivens.Network.Mirror
import MundusVivens.Accounts.Binding

set_option autoImplicit false

/-!
# What the mirror shows

A batch that is applied is ahead of the world until its success is handled. One that fails is sent
again only while the NPC still differs, so one that fails after all is not made up for.
-/

namespace MundusVivens

open Scalar Runs

variable {F : Type}

namespace Mirror

structure Tidy (s : Mirror F) : Prop where
  matched : s.world.Matched
  logged : ∀ ticket batch, s.world.grpc.batch ticket = some batch → s.sent ticket = some batch
  issued : ∀ ticket, (s.sent ticket).isSome = true → ticket < s.world.grpc.nextTicket
  served : ∀ ticket ∈ s.applied, (s.sent ticket).isSome = true
  answered : ∀ ticket call success, s.world.grpc.calls ticket = some call →
    call.request.batch.isSome = true → call.reply = some (.outcome success) →
    (ticket ∈ s.applied ↔ success = true)
  paired : ∀ e identity, s.world.isNpc e = true → s.world.reg.identity e = some identity →
    ∀ ticket batch, s.sent ticket = some batch →
      ∀ entry ∈ batch, entry.1.agentId = identity.npcId ↔ entry.2 = e

-- The batch was applied, and its success is not handled yet.
def InAir (s : Mirror F) (e : Entity) (ticket : Nat) : Prop :=
  ticket ∈ s.applied ∧ ∃ batch, s.world.grpc.batch ticket = some batch ∧ Names batch e

-- What the AI server holds of the NPC is in the last batch that is in the air, or counts as
-- synchronised.
inductive Reflects (s : Mirror F) (e : Entity) (id : UInt32) : Prop where
  | ahead (ticket : Nat) (batch : StatusBatch F) (applied : ticket ∈ s.applied)
      (under : s.world.grpc.batch ticket = some batch) (named : Names batch e)
      (held : s.statuses id = statusAfter e none batch)
      (latest : ∀ earlier, s.InAir e earlier → earlier ≤ ticket)
  | even (held : s.statuses id = s.world.reg.lastSynced e)
      (overtaken : ∀ ticket, s.InAir e ticket →
        ∃ later ∈ s.acknowledged, ticket < later ∧ ∃ batch, s.sent later = some batch ∧ Names batch e)

variable {s s' : Mirror F} {e : Entity} {id : UInt32} {ticket : Nat}

theorem share_of_names {other : Nat} {batch batch' : StatusBatch F}
    (sent : s.sent ticket = some batch) (sent' : s.sent other = some batch')
    (named : Names batch e) (named' : Names batch' e) : s.share ticket other = true := by
  obtain ⟨entry, member, same⟩ := named
  obtain ⟨entry', member', same'⟩ := named'
  simp only [share, sent, sent', Option.any_some, List.any_eq_true, decide_eq_true_eq]
  exact ⟨entry, member, entry', member', same.trans same'.symm⟩

variable [Scalar F]

theorem step_apply (stepped : Mirror.step (.apply ticket) s = some s') :
    ∃ batch, s.sent ticket = some batch ∧ (∀ earlier ∈ s.applied, earlier < ticket) ∧
      s' = { s with applied := ticket :: s.applied, statuses := applyBatch s.statuses batch } := by
  simp only [Mirror.step] at stepped
  split at stepped
  next => cases stepped
  next batch sent =>
    split at stepped
    next inOrder =>
      refine ⟨batch, sent, fun earlier member => ?_, (Option.some.inj stepped).symm⟩
      exact of_decide_eq_true (List.all_eq_true.mp inOrder earlier member)
    next => cases stepped

theorem step_game {event : Event F} (stepped : Mirror.step (.game event) s = some s') :
    s.denies event = false ∧ ∃ w', MundusVivens.step event s.world = some w' ∧
      s' = { s with
        world := w'
        sent := fun ticket => (w'.grpc.batch ticket).or (s.sent ticket)
        acknowledged := (s.acknowledges event).toList ++ s.acknowledged } := by
  simp only [Mirror.step] at stepped
  split at stepped
  next => cases stepped
  next believed =>
    obtain ⟨w', taken, made⟩ := Option.map_eq_some_iff.mp stepped
    exact ⟨by simpa using believed, w', taken, made.symm⟩

theorem Tidy.apply (tidy : s.Tidy) (orderly : s.orderly (.apply ticket) = true)
    (stepped : Mirror.step (.apply ticket) s = some s') : s'.Tidy := by
  obtain ⟨batch, sent, -, rfl⟩ := step_apply stepped
  refine ⟨tidy.matched, tidy.logged, tidy.issued, fun other applied => ?_,
    fun other call success known batched replied => ?_, tidy.paired⟩
  · rcases List.mem_cons.mp applied with rfl | applied
    · simp [sent]
    · exact tidy.served other applied
  · have outstanding : s.world.grpc.calls other = some call := known
    have different : other ≠ ticket := by
      rintro rfl
      simp [Mirror.orderly, unanswered, outstanding, replied] at orderly
    exact List.mem_cons.trans <| (or_iff_right different).trans
      (tidy.answered other call success outstanding batched replied)

theorem Reflects.apply (tidy : s.Tidy) (npc : s.world.isNpc e = true) (identity : IdentityComp)
    (known : s.world.reg.identity e = some identity) (orderly : s.orderly (.apply ticket) = true)
    (stepped : Mirror.step (.apply ticket) s = some s') (reflects : s.Reflects e identity.npcId) :
    s'.Reflects e identity.npcId := by
  obtain ⟨batch, sent, inOrder, rfl⟩ := step_apply stepped
  have held := applyBatch_status identity.npcId s.statuses
    (tidy.paired e identity npc known ticket batch sent)
  have under : s.world.grpc.batch ticket = some batch := by
    simp only [Mirror.orderly, unanswered, Option.any_eq_true, Bool.and_eq_true] at orderly
    obtain ⟨call, outstanding, batched, -⟩ := orderly
    obtain ⟨own, same⟩ := Option.isSome_iff_exists.mp batched
    have here := GrpcClient.batch_some.mpr ⟨call, outstanding, same⟩
    exact here.trans ((tidy.logged ticket own here).symm.trans sent)
  by_cases named : Names batch e
  next =>
    refine .ahead ticket batch List.mem_cons_self under named ?_ fun earlier air => ?_
    · exact held.trans (statusAfter_named none named)
    · rcases List.mem_cons.mp air.1 with rfl | applied
      · exact Nat.le_refl _
      · exact Nat.le_of_lt (inOrder earlier applied)
  next =>
    have unchanged := held.trans (statusAfter_unnamed named)
    have before (other : Nat) (air : Mirror.InAir
        { s with applied := ticket :: s.applied, statuses := applyBatch s.statuses batch } e other) :
        s.InAir e other := by
      obtain ⟨applied, batch', under', named'⟩ := air
      rcases List.mem_cons.mp applied with rfl | applied
      · obtain rfl := Option.some.inj (under.symm.trans under')
        exact absurd named' named
      · exact ⟨applied, batch', under', named'⟩
    cases reflects with
    | ahead last batch' applied under' named' held' latest =>
        exact .ahead last batch' (List.mem_cons_of_mem _ applied) under' named'
          (unchanged.trans held') fun earlier air => latest earlier (before earlier air)
    | even held' overtaken =>
        exact .even (unchanged.trans held') fun other air => overtaken other (before other air)

omit [Scalar F] in
theorem statusUpdate_agent {w : World F} {x : Entity} {update : AgentStatusUpdate F}
    (needed : w.statusUpdate x = some update) :
    (w.reg.identity x).map (·.npcId) = some update.agentId := by
  simp only [World.statusUpdate, Option.bind_eq_bind, Option.bind_eq_some_iff] at needed
  obtain ⟨identity, known, loc, -, emotion, -, activity, -, sync, -, needed⟩ := needed
  split at needed
  next =>
    obtain rfl := Option.some.inj needed
    simp [known]
  next => cases needed

theorem step_identity {w w' : World F} (event : Event F) (resident : w.Resident e)
    (stepped : MundusVivens.step event w = some w') : w'.reg.identity e = w.reg.identity e := by
  have within := resident_step_within event w w' e resident stepped
  cases event with
  | command cmd => cases cmd <;> exact within.same .identity rfl
  | _ => exact within.same .identity rfl

omit [Scalar F] in
theorem distinguishes_iff {w : World F} {x : Entity} {identity : IdentityComp}
    {update : AgentStatusUpdate F} (apart : distinguishes w = true) (npc : w.isNpc e = true)
    (resident : w.Resident e) (known : w.reg.identity e = some identity)
    (bound : x < w.reg.nextEntity) (needed : w.statusUpdate x = some update) :
    update.agentId = identity.npcId ↔ x = e := by
  have agent := statusUpdate_agent needed
  constructor
  · intro same
    have issued : e < w.reg.nextEntity := by
      by_contra late
      have invalid := w.reg.issued e (Nat.le_of_not_lt late)
      rw [resident.valid] at invalid
      cases invalid
    simp only [distinguishes, List.all_eq_true, List.mem_range] at apart
    simpa [needed, npc, agent, known, same] using apart x bound e issued
  · rintro rfl
    simpa [known] using agent.symm

theorem Tidy.logged_after (tidy : s.Tidy) (event : Event F) (w' : World F)
    (stepped : MundusVivens.step event s.world = some w') (ticket : Nat) (batch : StatusBatch F)
    (sent : (w'.grpc.batch ticket).or (s.sent ticket) = some batch) :
    s.sent ticket = some batch ∨
      ∃ rank, event = .networkSync rank ∧ ticket = s.world.grpc.nextTicket ∧
        ∀ entry ∈ batch, entry.2 < s.world.reg.nextEntity ∧
          s.world.statusUpdate entry.2 = some entry.1 := by
  rcases Option.or_eq_some_iff.mp sent with under | ⟨-, old⟩
  · rcases step_batch_new event tidy.matched stepped ticket batch under with before | new
    · exact .inl (tidy.logged ticket batch before)
    · exact .inr new
  · exact .inl old

theorem Tidy.logged_still (tidy : s.Tidy) (event : Event F) (w' : World F)
    (stepped : MundusVivens.step event s.world = some w') (ticket : Nat) (batch : StatusBatch F)
    (sent : s.sent ticket = some batch) :
    (w'.grpc.batch ticket).or (s.sent ticket) = some batch := by
  cases under : w'.grpc.batch ticket with
  | none => exact sent
  | some batch' =>
      have issued := tidy.issued ticket (by simp [sent])
      rcases step_batch_new event tidy.matched stepped ticket batch' under with
        before | ⟨-, -, new, -⟩
      · exact (tidy.logged ticket batch' before).symm.trans sent
      · exact absurd (new ▸ issued) (Nat.lt_irrefl _)

theorem Tidy.game (tidy : s.Tidy) (event : Event F) (orderly : s.orderly (.game event) = true)
    (stepped : Mirror.step (.game event) s = some s') : s'.Tidy := by
  obtain ⟨believed, w', taken, rfl⟩ := step_game stepped
  have matched := step_matched event s.world w' tidy.matched taken
  refine ⟨matched, fun ticket batch under => ?_, fun ticket sent => ?_, fun ticket applied => ?_,
    fun ticket call success known batched replied => ?_,
    fun e identity npc named ticket batch sent entry member => ?_⟩
  · have here : w'.grpc.batch ticket = some batch := under
    simp [here]
  · obtain ⟨batch, sent⟩ := Option.isSome_iff_exists.mp sent
    rcases Option.or_eq_some_iff.mp sent with under | ⟨-, old⟩
    · exact GrpcClient.batch_issued under
    · exact Nat.lt_of_lt_of_le (tidy.issued ticket (by simp [old])) (step_follows event taken).issued
  · obtain ⟨batch, sent⟩ := Option.isSome_iff_exists.mp (tidy.served ticket applied)
    exact Option.isSome_iff_exists.mpr ⟨batch, tidy.logged_still event w' taken ticket batch sent⟩
  · obtain ⟨batch, same⟩ := Option.isSome_iff_exists.mp batched
    rcases step_batch_call event tidy.matched taken ticket call batch same known with
      old | ⟨reply, rfl, answered, before⟩ | ⟨-, -, -, unanswered, -⟩
    · exact tidy.answered ticket call success old batched replied
    · obtain rfl := Option.some.inj (answered.symm.trans replied)
      cases success with
      | true => simpa [denies, before] using believed
      | false => simpa [Mirror.orderly] using orderly
    · rw [unanswered] at replied
      cases replied
  · have npc' := step_npc event s.world w' e tidy.matched taken npc
    have resident := tidy.matched.npc npc'
    have known := (step_identity event resident taken).symm.trans named
    rcases tidy.logged_after event w' taken ticket batch sent with old | ⟨rank, rfl, -, entries⟩
    · exact tidy.paired e identity npc' known ticket batch old entry member
    · obtain ⟨bound, needed⟩ := entries entry member
      exact distinguishes_iff orderly npc' resident known bound needed

theorem InAir.before (tidy : s.Tidy) (event : Event F) {w' : World F}
    (taken : MundusVivens.step event s.world = some w') {sent : Nat → Option (StatusBatch F)}
    {acknowledged : List Nat}
    (air : Mirror.InAir { s with world := w', sent := sent, acknowledged := acknowledged } e ticket) :
    s.InAir e ticket := by
  obtain ⟨applied, batch, under, named⟩ := air
  rcases step_batch_new event tidy.matched taken ticket batch under with before | ⟨-, -, new, -⟩
  · exact ⟨applied, batch, before, named⟩
  · exact absurd (new ▸ tidy.issued ticket (tidy.served ticket applied)) (Nat.lt_irrefl _)

theorem Tidy.aloft (tidy : s.Tidy) (event : Event F) {w' : World F}
    (orderly : s.orderly (.game event) = true) (applied : ticket ∈ s.applied)
    (taken : MundusVivens.step event s.world = some w') {batch : StatusBatch F}
    (under : s.world.grpc.batch ticket = some batch) :
    w'.grpc.batch ticket = some batch ∨ s.acknowledges event = some ticket := by
  rcases step_batch_kept event tidy.matched taken ticket batch under with
    kept | rfl | ⟨draws, rfl, popped⟩
  · exact .inl kept
  · simp [Mirror.orderly, applied] at orderly
  · obtain ⟨⟨t, request, reply, rest⟩, head, rfl⟩ := Option.map_eq_some_iff.mp popped
    obtain ⟨fits, ⟨accepted, known⟩, -⟩ := s.world.grpc.pop_spec rest t request reply head
    have batched : request.batch = some batch := by
      obtain ⟨call, known', batched⟩ := GrpcClient.batch_some.mp under
      obtain rfl := Option.some.inj (known.symm.trans known')
      exact batched
    cases request with
    | batchUpdateStatus updates targets =>
        cases reply with
        | outcome success =>
            have succeeded := (tidy.answered t _ success known rfl rfl).mp applied
            subst succeeded
            exact .inr (by simp [acknowledges, head])
        | _ => cases fits
    | _ => cases batched

theorem Reflects.carried (tidy : s.Tidy) (event : Event F) {w' : World F}
    (orderly : s.orderly (.game event) = true)
    (taken : MundusVivens.step event s.world = some w')
    (kept : w'.reg.lastSynced e = s.world.reg.lastSynced e)
    (unhandled : ∀ ticket, s.InAir e ticket → s.acknowledges event ≠ some ticket)
    (reflects : s.Reflects e id) :
    Mirror.Reflects
      { s with
        world := w'
        sent := fun ticket => (w'.grpc.batch ticket).or (s.sent ticket)
        acknowledged := (s.acknowledges event).toList ++ s.acknowledged } e id := by
  cases reflects with
  | ahead last batch applied under named held latest =>
      have aloft := (tidy.aloft event orderly applied taken under).resolve_right
        (unhandled last ⟨applied, batch, under, named⟩)
      exact .ahead last batch applied aloft named held fun earlier air =>
        latest earlier (air.before tidy event taken)
  | even held overtaken =>
      refine .even (held.trans kept.symm) fun ticket air => ?_
      obtain ⟨later, member, after, batch, sent, named⟩ :=
        overtaken ticket (air.before tidy event taken)
      exact ⟨later, List.mem_append_right _ member, after, batch,
        tidy.logged_still event w' taken later batch sent, named⟩

theorem Reflects.game (tidy : s.Tidy) (npc : s.world.isNpc e = true)
    (synced : (s.world.reg.lastSynced e).isSome = true) (event : Event F)
    (orderly : s.orderly (.game event) = true) (stepped : Mirror.step (.game event) s = some s')
    (reflects : s.Reflects e id) : s'.Reflects e id := by
  obtain ⟨-, w', taken, rfl⟩ := step_game stepped
  have resident := tidy.matched.npc npc
  cases handled : s.acknowledges event with
  | none =>
      have kept := s.step_lastSynced_kept event e resident handled taken
      have carried := reflects.carried tidy event orderly taken kept (by simp [handled])
      simpa [handled] using carried
  | some ticket =>
      obtain ⟨batch, call, known, batched, replied, gone, written⟩ :=
        s.step_lastSynced_handled event e ticket resident synced handled taken
      have under := GrpcClient.batch_some.mpr ⟨call, known, batched⟩
      have applied := (tidy.answered ticket call true known (by simp [batched]) replied).mpr rfl
      rw [← handled]
      by_cases named : Names batch e
      next =>
        have air : s.InAir e ticket := ⟨applied, batch, under, named⟩
        cases reflects with
        | ahead last batch' applied' under' named' held latest =>
            rcases Nat.eq_or_lt_of_le (latest ticket air) with rfl | before
            -- The newest of them is handled: now both sides hold what it says.
            · obtain rfl := Option.some.inj (under.symm.trans under')
              have same := held.trans ((statusAfter_named none named).symm.trans written.symm)
              refine .even same fun other air' => ?_
              have bound := latest other (air'.before tidy event taken)
              have different : other ≠ ticket := by
                rintro rfl
                obtain ⟨-, batch', there, -⟩ := air'
                cases gone.symm.trans there
              exact ⟨ticket, by simp [handled], Nat.lt_of_le_of_ne bound different, batch,
                tidy.logged_still event w' taken ticket batch (tidy.logged ticket batch under), named⟩
            · have aloft := (tidy.aloft event orderly applied' taken under').resolve_right
                (by simpa [handled] using Nat.ne_of_lt before)
              exact .ahead last batch' applied' aloft named' held fun earlier air =>
                latest earlier (air.before tidy event taken)
        | even held overtaken =>
            obtain ⟨later, member, after, batch', sent, named'⟩ := overtaken ticket air
            have shared := share_of_names sent (tidy.logged ticket batch under) named' named
            obtain ⟨draws, -, -, -, rfl, -⟩ := acknowledges_some handled
            simp only [Mirror.orderly, handled, List.all_eq_true] at orderly
            have inOrder := orderly later member
            simp [shared, Nat.not_le_of_lt after] at inOrder
      next =>
        have kept := written.trans (statusAfter_unnamed named)
        refine reflects.carried tidy event orderly taken kept fun other air same => ?_
        obtain rfl := Option.some.inj (handled.symm.trans same)
        obtain ⟨-, batch', there, named'⟩ := air
        obtain rfl := Option.some.inj (under.symm.trans there)
        exact named named'

theorem step_synced (npc : s.world.isNpc e = true) (tidy : s.Tidy)
    (synced : (s.world.reg.lastSynced e).isSome = true) (event : Event F) {w' : World F}
    (taken : MundusVivens.step event s.world = some w') :
    (w'.reg.lastSynced e).isSome = true := by
  have resident := tidy.matched.npc npc
  cases handled : s.acknowledges event with
  | none => rwa [s.step_lastSynced_kept event e resident handled taken]
  | some ticket =>
      obtain ⟨batch, -, -, -, -, -, written⟩ :=
        s.step_lastSynced_handled event e ticket resident synced handled taken
      rw [written]
      exact statusAfter_isSome batch synced

structure Shown (s : Mirror F) : Prop where
  tidy : s.Tidy
  synced : ∀ e, s.world.isNpc e = true → (s.world.reg.lastSynced e).isSome = true
  reflects : ∀ e identity, s.world.isNpc e = true → s.world.reg.identity e = some identity →
    s.Reflects e identity.npcId

theorem Shown.step (event : MirrorEvent F) (shown : s.Shown) (orderly : s.orderly event = true)
    (stepped : Mirror.step event s = some s') : s'.Shown := by
  cases event with
  | apply ticket =>
      obtain ⟨batch, -, -, same⟩ := step_apply stepped
      have world : s'.world = s.world := by rw [same]
      refine ⟨shown.tidy.apply orderly stepped, ?_, ?_⟩
      · rw [world]
        exact shown.synced
      · rw [world]
        exact fun e identity npc known => (shown.reflects e identity npc known).apply shown.tidy npc
          identity known orderly stepped
  | game event =>
      obtain ⟨-, w', taken, same⟩ := step_game stepped
      have world : s'.world = w' := by rw [same]
      have before (e : Entity) (npc : w'.isNpc e = true) : s.world.isNpc e = true :=
        step_npc event s.world w' e shown.tidy.matched taken npc
      refine ⟨shown.tidy.game event orderly stepped, ?_, ?_⟩
      · rw [world]
        exact fun e npc => step_synced (before e npc) shown.tidy (shown.synced e (before e npc)) event
          taken
      · rw [world]
        intro e identity npc known
        have npc' := before e npc
        have kept := step_identity event (shown.tidy.matched.npc npc') taken
        exact (shown.reflects e identity npc' (kept.symm.trans known)).game shown.tidy npc'
          (shown.synced e npc') event orderly stepped

theorem initial_shown (data : WorldBootstrapData F) (settings : SimulationSettings F)
    (obstacles : Option (List Obstacle)) (draws : Nat → NeedsDraw F) (start : World F)
    (statuses : UInt32 → Option LastSyncedComp)
    (booted : bootstrap data settings obstacles draws = some start)
    (held : ∀ agent ∈ data.agents,
      statuses agent.agentId = some ⟨agent.location, agent.emotion, agent.activity⟩) :
    (initial start statuses).Shown := by
  have unsent (ticket : Nat) : start.grpc.batch ticket = none := by
    simp [GrpcClient.batch, bootstrap_silent booted, GrpcClient.empty]
  have settled (e : Entity) (npc : start.isNpc e = true) :
      ∃ identity status, start.reg.identity e = some identity ∧
        start.reg.lastSynced e = some status ∧ statuses identity.npcId = some status := by
    refine bootstrap_npcs (fun w e => ∃ identity status, w.reg.identity e = some identity ∧
      w.reg.lastSynced e = some status ∧ statuses identity.npcId = some status) data settings
      obstacles draws start booted ?_ ?_ e npc
    · rintro e n w w' within ⟨identity, status, known, synced, same⟩
      have named : w'.reg.identity n = w.reg.identity n := within.same .identity rfl
      have kept : w'.reg.lastSynced n = w.reg.lastSynced n := within.same .lastSynced rfl
      exact ⟨identity, status, named.trans known, kept.trans synced, same⟩
    · exact fun agent listed _ _ _ settles => ⟨_, _, settles.identity, settles.lastSynced, held agent listed⟩
  refine ⟨⟨bootstrap_matched data settings obstacles draws start booted, ?_, ?_, ?_, ?_, ?_⟩, ?_, ?_⟩
  · intro ticket batch under
    cases (unsent ticket).symm.trans under
  · intro ticket sent
    cases sent
  · intro ticket applied
    cases applied
  · intro ticket call success known
    have called : start.grpc.calls ticket = some call := known
    rw [bootstrap_silent booted] at called
    cases called
  · intro e identity npc known ticket batch sent
    cases sent
  · intro e npc
    obtain ⟨-, status, -, synced, -⟩ := settled e npc
    exact Option.isSome_iff_exists.mpr ⟨status, synced⟩
  · intro e identity npc known
    obtain ⟨identity', status, known', synced, same⟩ := settled e npc
    obtain rfl := Option.some.inj (known'.symm.trans known)
    refine .even (same.trans synced.symm) fun ticket air => ?_
    cases air.1

/-- While each failed batch was not applied, successes come in order and npc ids are not shared,
whoever needs no update is held as it is. -/
theorem mirrors_while_orderly (data : WorldBootstrapData F) (settings : SimulationSettings F)
    (obstacles : Option (List Obstacle)) (draws : Nat → NeedsDraw F) (start : World F)
    (statuses : UInt32 → Option LastSyncedComp) (s : Mirror F)
    (past : List (Transition (Mirror F) (MirrorEvent F)))
    (booted : bootstrap data settings obstacles draws = some start)
    (held : ∀ agent ∈ data.agents,
      statuses agent.agentId = some ⟨agent.location, agent.emotion, agent.activity⟩)
    (run : Run Mirror.step (initial start statuses) past s)
    (guarded : Guarded (fun s event => s.orderly event = true) past) : s.Mirrors := by
  have shown : s.Shown := run.invariant (initial_shown data settings obstacles draws start statuses booted held)
    (fun s event s' shown orderly stepped => shown.step event orderly stepped) guarded
  intro idle e identity loc emotion activity npc known located felt busy unneeded
  cases shown.reflects e identity npc known with
  | ahead ticket batch _ under => cases (idle ticket).symm.trans under
  | even same _ =>
      obtain ⟨sync, synced⟩ := Option.isSome_iff_exists.mp (shown.synced e npc)
      rw [same, synced]
      simp only [World.statusUpdate, known, located, felt, busy, synced, Option.bind_eq_bind,
        Option.bind_some] at unneeded
      split at unneeded
      next => cases unneeded
      next equal =>
        simp only [Bool.not_eq_true, Bool.or_eq_false_iff, decide_eq_false_iff_not, not_not] at equal
        obtain ⟨⟨place, mood⟩, task⟩ := equal
        rw [← place, ← mood, ← task]

def hamletStatuses (id : UInt32) : Option LastSyncedComp :=
  if id = 7 then some ⟨"광장", "평온", "대기"⟩ else none

theorem hamletStatuses_held : ∀ agent ∈ hamletData.agents, hamletStatuses agent.agentId =
    some ⟨agent.location, agent.emotion, agent.activity⟩ := by decide

-- Bob asks for Ella, and her new activity is sent and applied.
def bobAsked : List (MirrorEvent ℚ) :=
  [.game .connect, .game (.command (.login 1 "bob" "Bob")), .game (.command (.talkToNpc 1 7)),
    .game (.networkSync fun e => e), .apply 1]

def isIdle (s : Mirror ℚ) : Bool :=
  ((List.range s.world.grpc.nextTicket).all fun ticket => (s.world.grpc.batch ticket).isNone) &&
    s.world.isNpc 0 && (s.world.statusUpdate 0).isNone

theorem isIdle_quiet (s : Mirror ℚ) (idle : isIdle s = true) (ticket : Nat) :
    s.world.grpc.batch ticket = none := by
  simp only [isIdle, Bool.and_eq_true, List.all_eq_true, List.mem_range, Option.isNone_iff_eq_none]
    at idle
  by_contra under
  obtain ⟨batch, under⟩ := Option.ne_none_iff_exists'.mp under
  cases (idle.1.1 ticket (GrpcClient.batch_issued under)).symm.trans under

-- The batch was applied but its deadline passed; then the dialogue fails, and Ella is as she was
-- when she was last synchronised.
theorem mirror_breaks : ∃ past s, Run Mirror.step (initial hamlet hamletStatuses) past s ∧
    past.reverse.map (·.event) = bobAsked ++ [.game (.respond 1 (.outcome false)),
      .game (.respond 0 (.started false 0)), .game (.drainTask fun _ => ⟨0, 0⟩),
      .game (.drainTask fun _ => ⟨0, 0⟩)] ∧ ¬s.Mirrors := by
  have passed : (followWhile Mirror.step (fun _ _ => true)
      (bobAsked ++ [.game (.respond 1 (.outcome false)), .game (.respond 0 (.started false 0)),
        .game (.drainTask fun _ => ⟨0, 0⟩), .game (.drainTask fun _ => ⟨0, 0⟩)])
      (initial hamlet hamletStatuses)).any (fun s => isIdle s &&
        decide ((s.statuses 7).map (·.activity) = some "플레이어와 대화 대기") &&
        decide ((s.world.reg.identity 0).map (·.npcId) = some 7) &&
        decide ((s.world.reg.activity 0).map (·.currentActivity) = some "대기") &&
        (s.world.reg.location 0).isSome && (s.world.reg.emotion 0).isSome) = true := by
    decide +kernel
  obtain ⟨past, s, run, -, events, checked⟩ := Run.exists_of_check _ _ _ passed
  refine ⟨past, s, run, events, fun mirrors => ?_⟩
  simp only [Bool.and_eq_true, decide_eq_true_eq] at checked
  obtain ⟨⟨⟨⟨⟨idle, server⟩, named⟩, waits⟩, located⟩, felt⟩ := checked
  obtain ⟨identity, known, npcId⟩ := Option.map_eq_some_iff.mp named
  obtain ⟨activity, busy, current⟩ := Option.map_eq_some_iff.mp waits
  obtain ⟨loc, located⟩ := Option.isSome_iff_exists.mp located
  obtain ⟨emotion, felt⟩ := Option.isSome_iff_exists.mp felt
  have still := isIdle_quiet s idle
  simp only [isIdle, Bool.and_eq_true, Option.isNone_iff_eq_none] at idle
  have same := mirrors still 0 identity loc emotion activity idle.1.2 known located felt busy idle.2
  rw [npcId] at same
  rw [same, Option.map_some, current] at server
  have clash : "대기" = "플레이어와 대화 대기" := Option.some.inj server
  exact absurd clash (by decide)

-- The same batch, reported as what it was.
theorem mirrors_while_orderly_ella : ∃ past s,
    Run Mirror.step (initial hamlet hamletStatuses) past s ∧
    past.reverse.map (·.event) = bobAsked ++ [.game (.respond 1 (.outcome true)),
      .game (.drainTask fun _ => ⟨0, 0⟩)] ∧
    (∀ ticket, s.world.grpc.batch ticket = none) ∧ s.Mirrors := by
  have passed : (followWhile Mirror.step orderly
      (bobAsked ++ [.game (.respond 1 (.outcome true)), .game (.drainTask fun _ => ⟨0, 0⟩)])
      (initial hamlet hamletStatuses)).any isIdle = true := by decide +kernel
  obtain ⟨past, s, run, guarded, events, idle⟩ := Run.exists_of_check _ _ _ passed
  exact ⟨past, s, run, events, isIdle_quiet s idle,
    mirrors_while_orderly hamletData ⟨2, 60⟩ (some []) (fun _ => ⟨100, 100⟩) hamlet hamletStatuses s
      past hamlet_boots hamletStatuses_held run guarded⟩

end Mirror

end MundusVivens
