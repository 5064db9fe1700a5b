import MundusVivens.Accounts.Binding
import MundusVivens.Ticks.Tickets

set_option autoImplicit false

/-!
# Whose dialogue a client speaks in

The session id of a message or an end command comes from the client, the NPC
that the end releases from the dialogue component of its player. They belong
together when the client names the id that component stores.
-/

namespace MundusVivens

open Scalar Runs

namespace Ledger

variable {l l' : Ledger}

theorem Kept.dialogues (kept : l.Kept l') :
    (∀ player d, l'.playerDialogue player = some d → l.playerDialogue player = some d) ∧
      l'.pending = l.pending := by
  induction kept with
  | refl => exact ⟨fun _ _ talking => talking, rfl⟩
  | @tail middle last _ next ih =>
      obtain ⟨talks, calls⟩ := ih
      cases next with
      | furnish id =>
          refine ⟨fun player d talking => talks player d ?_, calls⟩
          by_cases fresh : player = middle.nextEntity
          next => simp [furnish, create, destroy, fresh] at talking
          next => simpa [furnish, create, destroy, fresh] using talking
      | demolish e furniture =>
          refine ⟨fun player d talking => talks player d ?_, calls⟩
          by_cases gone : player = e
          next => simp [destroy, gone] at talking
          next => simpa [destroy, gone] using talking
      | resume e waiting => exact ⟨talks, calls⟩

theorem apply_dialogue (a : Act) (player : Entity) (d : PlayerDialogueComp)
    (talking : (l.apply a).playerDialogue player = some d) :
    l.playerDialogue player = some d ∨
      ∃ ticket npc sessionId, a = .opened ticket npc player sessionId ∧ d = ⟨sessionId, some npc⟩ := by
  cases a with
  | enlist session id =>
      by_cases fresh : player = l.nextEntity
      next => simp [apply, create, destroy, fresh] at talking
      next => exact .inl (by simpa [apply, create, destroy, fresh] using talking)
  | leave gone tag =>
      by_cases same : player = gone
      next => simp [apply, destroy, same] at talking
      next => exact .inl (by simpa [apply, destroy, release, same] using talking)
  | hungUp ticket npc ended =>
      by_cases same : some player = ended
      next => simp [apply, closeDialogue, same] at talking
      next => exact .inl (by simpa [apply, closeDialogue, release, close, same] using talking)
  | opened ticket npc p sessionId =>
      simp only [apply, openDialogue] at talking
      split at talking
      next =>
        by_cases same : player = p
        next =>
          subst same
          exact .inr ⟨ticket, npc, sessionId, rfl, by simpa using talking.symm⟩
        next => exact .inl (by simpa [close, same] using talking)
      next => exact .inl talking
  | _ => exact .inl talking

theorem apply_finish (a : Act) (ticket : Nat) (npc player : Option Entity)
    (waiting : (l.apply a).pending ticket = some (.finish npc player)) :
    l.pending ticket = some (.finish npc player) ∨
      ∃ issued, a = .hangUp issued player ∧ npc = l.partner player := by
  cases a with
  | hangUp issued p =>
      by_cases same : ticket = issued
      next =>
        obtain ⟨rfl, rfl⟩ : l.partner p = npc ∧ p = player := by
          simpa [apply, call, same] using waiting
        exact .inr ⟨issued, rfl, rfl⟩
      next => exact .inl (by simpa [apply, call, same] using waiting)
  | talk issued n p =>
      by_cases same : ticket = issued
      next => simp [apply, call, same] at waiting
      next => exact .inl (by simpa [apply, call, engage, same] using waiting)
  | form issued members =>
      by_cases same : ticket = issued
      next => simp [apply, call, same] at waiting
      next => exact .inl (by simpa [apply, call, engage, same] using waiting)
  | opened closed n p sessionId =>
      have left : (l.close closed).pending ticket = some (.finish npc player) := by
        simp only [apply, openDialogue] at waiting
        split at waiting <;> exact waiting
      by_cases same : ticket = closed
      next => simp [close, same] at left
      next => exact .inl (by simpa [close, same] using left)
  | refused closed n p | hungUp closed n p | dispersed closed members | lost closed =>
      by_cases same : ticket = closed
      next => simp [apply, release, close, closeDialogue, same] at waiting
      next => exact .inl (by simpa [apply, release, close, closeDialogue, same] using waiting)
  | _ => exact .inl waiting

end Ledger

variable {F : Type} [Scalar F]

-- A start call for this NPC and this player has been completed with this session id.
def OpenedWith (past : List (Transition (World F) (Event F))) (sessionId : UInt64)
    (npc player : Entity) : Prop :=
  ∃ t ∈ past, (∃ draws, t.event = .drainTask draws) ∧ ∃ ticket playerId npcId rest,
    t.before.grpc.pop = some (ticket, .startPlayerDialogue playerId npcId npc player,
      .started true sessionId, rest)

-- The client of the session's player has asked for the end of this dialogue.
def EndedBy (past : List (Transition (World F) (Event F))) (sessionId : UInt64)
    (player : Entity) : Prop :=
  ∃ t ∈ past, ∃ session, t.event = .command (.endDialogue session sessionId) ∧
    t.before.index.bySessionIndex session = some player

/-- The dialogue of this id is stored in the component of the session's own player. -/
structure OwnsDialogue (past : List (Transition (World F) (Event F))) (w : World F)
    (session : UInt32) (sessionId : UInt64) (npc player : Entity) : Prop where
  bound : w.index.bySessionIndex session = some player
  stored : w.reg.playerDialogue player = some ⟨sessionId, some npc⟩
  opened : OpenedWith past sessionId npc player

/-- A transition deals with the dialogue of the client's own player only. -/
structure Owned (past : List (Transition (World F) (Event F)))
    (t : Transition (World F) (Event F)) : Prop where
  message : ∀ session sessionId message,
    t.event = .command (.playerMessage session sessionId message) →
      t.after.grpc = t.before.grpc.issue (.sendPlayerMessage sessionId message) ∧
        ∃ npc player, OwnsDialogue past t.before session sessionId npc player
  finish : ∀ session sessionId, t.event = .command (.endDialogue session sessionId) →
    ∃ npc player, t.after.grpc =
        t.before.grpc.issue (.endPlayerDialogue sessionId (some npc) (some player)) ∧
      OwnsDialogue past t.before session sessionId npc player
  release : ∀ draws ticket sessionId npc player reply rest, t.event = .drainTask draws →
    t.before.grpc.pop = some (ticket, .endPlayerDialogue sessionId npc player, reply, rest) →
      ∃ n p, npc = some n ∧ player = some p ∧ OpenedWith past sessionId n p ∧
        EndedBy past sessionId p ∧
        ∀ e, (t.before.reg.busy e).isSome → t.after.reg.busy e = none → e = n ∨ e = p

def DialoguesOwned (past : List (Transition (World F) (Event F))) : Prop :=
  ∀ later t earlier, past = later ++ t :: earlier → Owned earlier t

def World.storedSession (w : World F) (session : UInt32) : Option UInt64 := do
  let player ← w.index.bySessionIndex session
  let dialogue ← w.reg.playerDialogue player
  some dialogue.sessionId

/-- The client names the dialogue of its own player. -/
def namesOwnDialogue (w : World F) : Event F → Bool
  | .command (.playerMessage session sessionId _) => w.storedSession session = some sessionId
  | .command (.endDialogue session sessionId) => w.storedSession session = some sessionId
  | _ => true

structure Traced (past : List (Transition (World F) (Event F))) (w : World F) : Prop where
  opened : ∀ player dialogue, w.reg.playerDialogue player = some dialogue →
    ∃ npc, dialogue.npcEntity = some npc ∧ OpenedWith past dialogue.sessionId npc player
  ended : ∀ ticket call sessionId npc player, w.grpc.calls ticket = some call →
    call.request = .endPlayerDialogue sessionId npc player →
      ∃ n p, npc = some n ∧ player = some p ∧ OpenedWith past sessionId n p ∧
        EndedBy past sessionId p

variable {w w' : World F} {past : List (Transition (World F) (Event F))}

omit [Scalar F] in
theorem OpenedWith.later {sessionId : UInt64} {npc player : Entity}
    (opened : OpenedWith past sessionId npc player) (t : Transition (World F) (Event F)) :
    OpenedWith (t :: past) sessionId npc player := by
  obtain ⟨u, member, drained, popped⟩ := opened
  exact ⟨u, List.mem_cons_of_mem _ member, drained, popped⟩

omit [Scalar F] in
theorem EndedBy.later {sessionId : UInt64} {player : Entity} (ended : EndedBy past sessionId player)
    (t : Transition (World F) (Event F)) : EndedBy (t :: past) sessionId player := by
  obtain ⟨u, member, sent⟩ := ended
  exact ⟨u, List.mem_cons_of_mem _ member, sent⟩

omit [Scalar F] in
theorem Traced.owns (traced : Traced past w) (session : UInt32) (sessionId : UInt64)
    (names : w.storedSession session = some sessionId) :
    ∃ npc player, OwnsDialogue past w session sessionId npc player := by
  simp only [World.storedSession, Option.bind_eq_bind, Option.bind_eq_some_iff] at names
  obtain ⟨player, bound, dialogue, stored, same⟩ := names
  obtain ⟨npc, named, opened⟩ := traced.opened player dialogue stored
  obtain rfl : dialogue.sessionId = sessionId := Option.some.inj same
  refine ⟨npc, player, bound, ?_, opened⟩
  rw [stored, ← named]

omit [Scalar F] in
theorem OwnsDialogue.partner {session : UInt32} {sessionId : UInt64} {npc player : Entity}
    (owns : OwnsDialogue past w session sessionId npc player) :
    w.dialoguePartner (some player) = some npc := by
  simp [World.dialoguePartner, owns.stored]

theorem finish_issued (event : Event F) (stepped : step event w = some w') (ticket : Nat)
    (call : Call F) (sessionId : UInt64) (npc player : Option Entity)
    (fresh : w.grpc.calls ticket = none) (known : w'.grpc.calls ticket = some call)
    (asks : call.request = .endPlayerDialogue sessionId npc player) :
    ∃ session, event = .command (.endDialogue session sessionId) ∧
      player = w.index.bySessionIndex session ∧ npc = w.dialoguePartner player := by
  have absent : w.ledger.pending ticket = none := by simp [World.ledger, GrpcClient.pending, fresh]
  have waiting : w'.ledger.pending ticket = some (.finish npc player) := by
    simp [World.ledger, GrpcClient.pending, known, asks, Request.dialogueCall]
  rcases step_simulates event stepped with kept | ⟨a, causes, enabled, applied⟩
  · rw [kept.dialogues.2, absent] at waiting
    cases waiting
  · rw [applied] at waiting
    rcases Ledger.apply_finish a ticket npc player waiting with before | ⟨issued, rfl, partner⟩
    · rw [absent] at before
      cases before
    · cases causes with
      | endDialogue session sent issued =>
          obtain rfl := Option.some.inj stepped
          have newest : ticket = w.grpc.nextTicket := by
            by_contra older
            simp [World.endDialogue, World.issue, GrpcClient.issue, older, fresh] at known
          have request : call.request = .endPlayerDialogue sent
              (w.dialoguePartner (w.index.bySessionIndex session))
              (w.index.bySessionIndex session) := by
            rw [newest] at known
            simp only [World.endDialogue, World.issue, GrpcClient.issue, Function.update_self,
              Option.some.injEq] at known
            rw [← known]
          obtain ⟨rfl, -, -⟩ := Request.endPlayerDialogue.inj (asks.symm.trans request)
          exact ⟨session, rfl, rfl, partner⟩
      | completed draws act completes => cases completes

theorem traced_step (event : Event F) (traced : Traced past w)
    (names : namesOwnDialogue w event = true) (stepped : step event w = some w') :
    Traced (⟨w, event, w'⟩ :: past) w' := by
  constructor
  case opened =>
    intro player dialogue talking
    have before : w.reg.playerDialogue player = some dialogue →
        ∃ npc, dialogue.npcEntity = some npc ∧
          OpenedWith (⟨w, event, w'⟩ :: past) dialogue.sessionId npc player := by
      intro stored
      obtain ⟨npc, named, opened⟩ := traced.opened player dialogue stored
      exact ⟨npc, named, opened.later _⟩
    have talking' : w'.ledger.playerDialogue player = some dialogue := talking
    rcases step_simulates event stepped with kept | ⟨a, causes, enabled, applied⟩
    · exact before (kept.dialogues.1 player dialogue talking')
    · rw [applied] at talking'
      rcases Ledger.apply_dialogue a player dialogue talking' with
        stored | ⟨ticket, npc, sessionId, rfl, rfl⟩
      · exact before stored
      · cases causes with
        | completed draws act completes =>
            cases completes with
            | opened _ _ _ _ playerId npcId rest popped =>
                exact ⟨npc, rfl, _, List.mem_cons_self, ⟨draws, rfl⟩, ticket, playerId, npcId, rest,
                  popped⟩
  case ended =>
    intro ticket call sessionId npc player known asks
    cases present : w.grpc.calls ticket with
    | some earlier =>
        have same : call.request = earlier.request := by
          rcases (step_follows event stepped).requests ticket call known with
            ⟨old, there, same⟩ | late
          · rw [present] at there
            rw [same, Option.some.inj there]
          · rw [w.grpc.unissued ticket late] at present
            cases present
        obtain ⟨n, p, isNpc, isPlayer, opened, ended⟩ :=
          traced.ended ticket earlier sessionId npc player present (same.symm.trans asks)
        exact ⟨n, p, isNpc, isPlayer, opened.later _, ended.later _⟩
    | none =>
        obtain ⟨session, rfl, bound, partner⟩ :=
          finish_issued event stepped ticket call sessionId npc player present known asks
        obtain ⟨n, p, owns⟩ := traced.owns session sessionId (by simpa [namesOwnDialogue] using names)
        have isPlayer : player = some p := bound.trans owns.bound
        subst isPlayer
        refine ⟨n, p, partner.trans owns.partner, rfl, owns.opened.later _, ?_⟩
        exact ⟨_, List.mem_cons_self, session, rfl, owns.bound⟩

theorem Traced.owned (traced : Traced past w) (event : Event F)
    (names : namesOwnDialogue w event = true) (stepped : step event w = some w') :
    Owned past ⟨w, event, w'⟩ := by
  constructor
  case message =>
    rintro session sessionId message rfl
    obtain rfl := Option.some.inj stepped
    exact ⟨rfl, traced.owns session sessionId (by simpa [namesOwnDialogue] using names)⟩
  case finish =>
    rintro session sessionId rfl
    obtain rfl := Option.some.inj stepped
    obtain ⟨npc, player, owns⟩ :=
      traced.owns session sessionId (by simpa [namesOwnDialogue] using names)
    refine ⟨npc, player, ?_, owns⟩
    simp only [World.endDialogue, owns.bound, owns.partner]
    rfl
  case release =>
    rintro draws ticket sessionId npc player reply rest rfl popped
    obtain ⟨fits, ⟨accepted, call⟩, -⟩ := w.grpc.pop_spec rest ticket _ reply popped
    obtain ⟨n, p, rfl, rfl, opened, ended⟩ :=
      traced.ended ticket _ sessionId npc player call rfl
    refine ⟨n, p, rfl, rfl, opened, ended, fun e busy freed => ?_⟩
    change w.drainTask draws = some w' at stepped
    simp only [World.drainTask, popped] at stepped
    cases reply with
    | outcome success =>
        have released := congrArg Ledger.reason
          (World.endedTask_ledger _ w' (some n) (some p) stepped)
        have untagged : w'.reg.busy e = none := freed
        have reason : w'.ledger.reason e = none := by simp [World.ledger, untagged]
        rw [released] at reason
        by_contra other
        have kept : ({ w with grpc := rest } : World F).ledger.reason e = none := by
          simpa [Ledger.closeDialogue, Ledger.release, not_or.mp other] using reason
        have unmarked : w.reg.busy e = none := by simpa [World.ledger] using kept
        simp [unmarked] at busy
    | _ => cases fits

/-- When every client names the dialogue stored for its own player, messages and ends concern
that dialogue only, and an end releases only its NPC. -/
theorem dialogues_owned (data : WorldBootstrapData F) (settings : SimulationSettings F)
    (obstacles : Option (List Obstacle)) (draws : Nat → NeedsDraw F) (start last : World F)
    (past : List (Transition (World F) (Event F)))
    (booted : bootstrap data settings obstacles draws = some start)
    (run : ServerRun start past last)
    (guarded : Guarded (fun w event => namesOwnDialogue w event = true) past) :
    DialoguesOwned past := by
  have initial := bootstrap_initial data settings obstacles draws start booted
  have untold : Traced [] start := by
    constructor
    case opened =>
      intro player dialogue talking
      have silent : start.reg.playerDialogue player = none := initial.silent player
      simp [silent] at talking
    case ended =>
      intro ticket call sessionId npc player known asks
      have quiet : start.grpc.pending ticket = none := initial.quiet ticket
      simp [GrpcClient.pending, known, asks, Request.dialogueCall] at quiet
  rintro later t earlier rfl
  obtain ⟨middle, before, -⟩ := run.split later
  have until_now : Guarded (fun w event => namesOwnDialogue w event = true) (t :: earlier) :=
    fun u member => guarded u (List.mem_append_right later member)
  obtain ⟨allowed, earlierGuarded⟩ := (Guarded.cons t).mp until_now
  cases before with
  | next before stepped =>
      have traced : Traced earlier _ := before.history untold
        (fun _ _ event _ _ traced names stepped => traced_step event traced names stepped)
        earlierGuarded
      exact traced.owned _ allowed stepped

-- Bob talks to Ella while another client looks on.
def bobOverheard : List (Event ℚ) :=
  [.connect, .connect, .command (.login 1 "bob" "Bob"), .command (.login 2 "player" "Host"),
    .command (.talkToNpc 1 7), .respond 0 (.started true 5), .drainTask fun _ => ⟨0, 0⟩]

theorem dialogues_owned_bob : ∃ past last, ServerRun hamlet past last ∧
    past.reverse.map (·.event) = bobOverheard ++ [.command (.playerMessage 1 5 "Hi"),
      .command (.endDialogue 1 5), .respond 2 (.outcome true), .drainTask fun _ => ⟨0, 0⟩] ∧
    DialoguesOwned past := by
  have passed : (followWhile step namesOwnDialogue (bobOverheard ++
      [.command (.playerMessage 1 5 "Hi"), .command (.endDialogue 1 5),
        .respond 2 (.outcome true), .drainTask fun _ => ⟨0, 0⟩]) hamlet).any
      (fun w => (w.reg.busy 0).isNone) = true := by decide +kernel
  obtain ⟨past, last, run, guarded, events, -⟩ := Run.exists_of_check _ _ _ passed
  exact ⟨past, last, run, events, dialogues_owned hamletData ⟨2, 60⟩ (some [])
    (fun _ => ⟨100, 100⟩) hamlet last past hamlet_boots run guarded⟩

-- The other client ends Bob's dialogue.
theorem dialogue_ended_by_stranger : ∃ past last, ServerRun hamlet past last ∧
    past.reverse.map (·.event) = bobOverheard ++ [.command (.endDialogue 2 5)] ∧
    ¬DialoguesOwned past := by
  have passed : (followWhile step (fun _ _ => true) bobOverheard hamlet).any (fun w =>
      (step (.command (.endDialogue 2 5)) w).any fun _ =>
        w.storedSession 1 = some 5 && (w.storedSession 2).isNone) = true := by decide +kernel
  obtain ⟨past, w, w', run, events, checked⟩ := Run.exists_of_last _ _ _ passed
  have silent : w.storedSession 2 = none := by
    simp only [Bool.and_eq_true, decide_eq_true_eq, Option.isNone_iff_eq_none] at checked
    exact checked.2
  refine ⟨_, w', run, events, fun owned => ?_⟩
  obtain ⟨npc, player, -, owns⟩ := (owned [] _ past rfl).finish 2 5 rfl
  have bound : w.index.bySessionIndex 2 = some player := owns.bound
  have stored : w.reg.playerDialogue player = some ⟨5, some npc⟩ := owns.stored
  simp [World.storedSession, bound, stored] at silent

end MundusVivens
