import MundusVivens.Accounts.Binding
import MundusVivens.Dialogue.Exclusive

set_option autoImplicit false

/-!
# Undisturbed dialogues

A busy tag has no owner, so whoever ends a dialogue may free an NPC that is in
another one by then. That cannot happen while no hit lands on an NPC that is
engaged, and no dialogue is ended whose NPC an earlier end command will free.
-/

namespace MundusVivens

open Scalar Runs

variable {F : Type} [Scalar F]

namespace World

variable (w : World F) (n : Entity)

def inDialogue : Bool :=
  (List.range w.grpc.nextTicket).any (fun ticket => (w.grpc.pending ticket).any (·.talksWith n)) ||
    (List.range w.reg.nextEntity).any fun player => w.ledger.partner (some player) = some n

def isClosing : Bool :=
  (List.range w.grpc.nextTicket).any fun ticket => (w.grpc.pending ticket).any (·.ends n)

omit [Scalar F] in
theorem inDialogue_of_takesPart (roster : w.ledger.Roster) (d : Dialogue)
    (part : w.ledger.TakesPart n d) : w.inDialogue n = true := by
  simp only [inDialogue, Bool.or_eq_true, List.any_eq_true, List.mem_range]
  cases part with
  | requested ticket call waiting talks =>
      refine .inl ⟨ticket, w.pending_issued ticket call waiting, ?_⟩
      have pending : w.grpc.pending ticket = some call := waiting
      simp [pending, talks]
  | opened player partner =>
      refine .inr ⟨player, ?_, by simp [partner]⟩
      obtain ⟨dialogue, talking⟩ : ∃ dialogue, w.ledger.playerDialogue player = some dialogue := by
        simp only [Ledger.partner, Option.bind_eq_bind, Option.bind_some,
          Option.bind_eq_some_iff] at partner
        obtain ⟨dialogue, talking, -⟩ := partner
        exact ⟨dialogue, talking⟩
      exact roster.below (roster.dialogue_valid talking)

omit [Scalar F] in
theorem isClosing_of_ends (ticket : Nat) (ends : w.ledger.Ends n ticket) :
    w.isClosing n = true := by
  obtain ⟨call, waiting, named⟩ := ends
  have pending : w.grpc.pending ticket = some call := waiting
  simp only [isClosing, List.any_eq_true, List.mem_range]
  exact ⟨ticket, w.pending_issued ticket call waiting, by simp [pending, named]⟩

/-- The event frees nobody who is engaged in a dialogue that goes on. -/
def undisturbed (w : World F) : Event F → Bool
  | .behaviorTree e _ =>
      (w.meleeHit e).all fun victim => !w.inDialogue victim && !w.isClosing victim
  | .command (.endDialogue session _) =>
      (w.ledger.partner (w.index.bySessionIndex session)).all fun n => !w.isClosing n
  | .cleanupPlayer player =>
      ((w.reg.playerTag player).all fun tag => w.tcp.sessions tag.sessionIndex) ||
        (w.ledger.partner (some player)).all fun n => !w.isClosing n
  | _ => true

theorem undisturbed_act (event : Event F) (a : Ledger.Act) (roster : w.ledger.Roster)
    (calm : w.undisturbed event = true) (causes : Causes w event a) : w.ledger.Undisturbed a := by
  have silent {player : Option Entity}
      (quiet : (w.ledger.partner player).all (fun n => !w.isClosing n) = true) (n : Entity)
      (partner : w.ledger.partner player = some n) (ticket : Nat) : ¬w.ledger.Ends n ticket := by
    intro ends
    simp [partner, w.isClosing_of_ends n ticket ends] at quiet
  cases causes with
  | endDialogue session sessionId ticket => exact silent calm
  | cleanup player tag tagged gone =>
      have quiet : (w.ledger.partner (some player)).all (fun n => !w.isClosing n) = true := by
        simpa [undisturbed, tagged, gone] using calm
      exact silent quiet
  | completed draws act completes => cases completes <;> trivial
  | hit e victim draw landed =>
      have free : w.inDialogue victim = false ∧ w.isClosing victim = false := by
        simpa [undisturbed, landed] using calm
      constructor
      · intro d part
        simp [w.inDialogue_of_takesPart victim roster d part] at free
      · intro ticket ends
        simp [w.isClosing_of_ends victim ticket ends] at free
  | _ => trivial

def completesDialogue (w : World F) : Event F → Bool
  | .drainTask _ => w.grpc.pop.any fun (_, request, _, _) => request.dialogueCall.isSome
  | _ => false

end World

/-- Nobody is in two dialogues, and no completion frees an NPC that is in a dialogue. -/
structure DialoguesApart (past : List (Transition (World F) (Event F))) (last : World F) :
    Prop where
  single : ∀ n d d', last.ledger.TakesPart n d → last.ledger.TakesPart n d' → d = d'
  spared : ∀ t ∈ past, t.before.completesDialogue t.event = true → ∀ n,
    (t.before.reg.busy n).isSome → t.after.reg.busy n = none → ∀ d, ¬t.after.ledger.TakesPart n d

def World.TalksApart (w : World F) : Prop :=
  w.ledger.Roster ∧ w.ledger.Callers ∧ w.ledger.Exclusive

theorem World.talksApart_step (w : World F) (event : Event F) (w' : World F)
    (apart : w.TalksApart) (calm : w.undisturbed event = true) (stepped : step event w = some w') :
    w'.TalksApart := by
  refine Ledger.step_keeps (fun l => l.Callers ∧ l.Exclusive)
    (fun w event => w.undisturbed event = true) ?_ ?_ event apart.1 apart.2 calm stepped
  · exact fun _ _ roster both kept => ⟨both.1.upkeep kept, both.2.upkeep roster kept⟩
  · exact fun w event a roster both calm causes enabled =>
      ⟨both.1.act roster a enabled,
        both.2.act roster both.1 a enabled (w.undisturbed_act event a roster calm causes)⟩

/-- In every undisturbed run each NPC is in one dialogue at a time. -/
theorem dialogues_apart (data : WorldBootstrapData F) (settings : SimulationSettings F)
    (obstacles : Option (List Obstacle)) (draws : Nat → NeedsDraw F) (start last : World F)
    (past : List (Transition (World F) (Event F)))
    (booted : bootstrap data settings obstacles draws = some start)
    (run : ServerRun start past last)
    (calm : Guarded (fun w event => w.undisturbed event = true) past) :
    DialoguesApart past last := by
  have initial := bootstrap_initial data settings obstacles draws start booted
  have begins : start.TalksApart := ⟨initial.roster, initial.callers, initial.exclusive⟩
  have exclusive : last.ledger.Exclusive := (run.invariant begins World.talksApart_step calm).2.2
  constructor
  case single => exact exclusive.single
  case spared =>
    intro t member _ n _ untagged d part
    have after : t.after.TalksApart :=
      run.transitions begins World.talksApart_step World.talksApart_step calm t member
    have busy := after.2.2.engaged n d part
    simp [World.ledger, untagged] at busy

def bobTalks : List (Event ℚ) :=
  [.connect, .command (.login 1 "bob" "Bob"), .command (.talkToNpc 1 7),
    .respond 0 (.started true 5), .drainTask fun _ => ⟨0, 0⟩]

theorem dialogues_apart_bob : ∃ past last, ServerRun hamlet past last ∧
    past.reverse.map (·.event) = bobTalks ++ [.command (.endDialogue 1 5),
      .respond 1 (.outcome true), .drainTask fun _ => ⟨0, 0⟩] ∧ DialoguesApart past last := by
  have passed : (followWhile step World.undisturbed (bobTalks ++ [.command (.endDialogue 1 5),
      .respond 1 (.outcome true), .drainTask fun _ => ⟨0, 0⟩]) hamlet).any
      (fun _ => true) = true := by decide +kernel
  obtain ⟨past, last, run, calm, events, -⟩ := Run.exists_of_check _ _ _ passed
  exact ⟨past, last, run, events, dialogues_apart hamletData ⟨2, 60⟩ (some [])
    (fun _ => ⟨100, 100⟩) hamlet last past hamlet_boots run calm⟩

-- Bob ends the dialogue twice and talks to Ella again in between.
def bobEndsTwice : List (Event ℚ) :=
  bobTalks ++ [.command (.endDialogue 1 5), .command (.endDialogue 1 5),
    .respond 1 (.outcome true), .respond 2 (.outcome true), .drainTask fun _ => ⟨0, 0⟩,
    .command (.talkToNpc 1 7)]

-- The second completion frees Ella, who waits for the answer to the new dialogue.
theorem dialogue_tag_stolen : ∃ past last, ServerRun hamlet past last ∧
    past.reverse.map (·.event) = bobEndsTwice ++ [.drainTask fun _ => ⟨0, 0⟩] ∧
    ¬DialoguesApart past last := by
  let check (w w' : World ℚ) : Bool :=
    w.completesDialogue (.drainTask fun _ => ⟨0, 0⟩) && (w.reg.busy 0).isSome &&
      (w'.reg.busy 0).isNone && w'.grpc.pending 3 = some (.start 0 1)
  obtain ⟨past, w, last, run, events, checked⟩ :=
    Run.exists_of_last bobEndsTwice (.drainTask fun _ => ⟨0, 0⟩) check
      (by decide +kernel : (followWhile step (fun _ _ => true) bobEndsTwice hamlet).any
        (fun w => (step (.drainTask fun _ => ⟨0, 0⟩) w).any (check w)) = true)
  simp only [check, Bool.and_eq_true, Option.isNone_iff_eq_none, decide_eq_true_eq] at checked
  obtain ⟨⟨⟨completes, busy⟩, freed⟩, waiting⟩ := checked
  refine ⟨_, last, run, events, fun apart => ?_⟩
  have talks : last.ledger.TakesPart 0 (.requested 3) :=
    .requested 3 _ waiting (by simp [DialogueCall.talksWith])
  exact apart.spared _ List.mem_cons_self completes 0 busy freed _ talks

end MundusVivens
