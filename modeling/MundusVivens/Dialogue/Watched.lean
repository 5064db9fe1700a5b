import MundusVivens.Accounts.Binding
import MundusVivens.Dialogue.Accounted

set_option autoImplicit false

/-!
# Watched dialogues

An NPC is left busy for good only when an answer finds the player gone or in
another dialogue, or when a request is given up without a task.
-/

namespace MundusVivens

open Scalar Runs

variable {F : Type} [Scalar F]

namespace World

variable (w : World F) (n : Entity)

def accounts : List Dialogue :=
  ((List.range w.grpc.nextTicket).filter fun ticket =>
    (w.grpc.pending ticket).any fun call => call.npcs.contains n).map .requested ++
  ((List.range w.reg.nextEntity).filter fun player =>
    (w.reg.playerTag player).isSome && w.ledger.partner (some player) = some n).map .opened

def isEngaged : Bool :=
  (w.reg.playerTag n).isNone && (w.reg.busy n).any fun tag => tag.reason = .dialogue

def outlives (gone : List Dialogue) : Bool :=
  !w.isEngaged n || (w.accounts n).any fun d => !gone.contains d

/-- The event does not end the last account of an engaged NPC. -/
def watched : Event F → Bool
  | .abort ticket =>
      !w.grpc.isOutstanding ticket || (w.grpc.pending ticket).all fun call =>
        call.npcs.all fun n => w.outlives n [.requested ticket]
  | .drainTask _ =>
      match w.grpc.pop with
      | some (ticket, .startPlayerDialogue _ _ npc player, .started true _, _) =>
          if w.reg.valid player then
            (w.ledger.partner (some player)).all fun n =>
              n = npc || w.outlives n [.requested ticket, .opened player]
          else w.outlives npc [.requested ticket]
      | some (ticket, .endPlayerDialogue _ npc player, _, _) =>
          (w.ledger.partner player).all fun n =>
            npc = some n || w.outlives n (.requested ticket :: (player.map .opened).toList)
      | _ => true
  | _ => true

omit [Scalar F] in
theorem accounts_iff (roster : w.ledger.Roster) (d : Dialogue) :
    d ∈ w.accounts n ↔ w.ledger.Accounts n d := by
  simp only [accounts, List.mem_append, List.mem_map, List.mem_filter, List.mem_range,
    Bool.and_eq_true, decide_eq_true_eq, Option.any_eq_true, List.contains_iff_mem]
  constructor
  · rintro (⟨ticket, ⟨-, call, pending, member⟩, rfl⟩ | ⟨player, ⟨-, tagged, partner⟩, rfl⟩)
    · exact .requested ticket call pending member
    · exact .opened player tagged partner
  · intro accounts
    cases accounts with
    | requested ticket call pending member =>
        exact .inl ⟨ticket, ⟨w.pending_issued ticket call pending, call, pending, member⟩, rfl⟩
    | opened player tagged partner =>
        exact .inr ⟨player, ⟨roster.below (roster.tagged_valid tagged), tagged, partner⟩, rfl⟩

omit [Scalar F] in
theorem isEngaged_iff : w.isEngaged n = true ↔ w.ledger.IsEngaged n := by
  simp [isEngaged, Ledger.IsEngaged, ledger, Option.any_eq_true]

omit [Scalar F] in
theorem outlives_iff (roster : w.ledger.Roster) (gone : List Dialogue) :
    w.outlives n gone = true ↔ w.ledger.Outlives n gone := by
  have others : (w.accounts n).any (fun d => !gone.contains d) = true ↔
      ∃ d ∉ gone, w.ledger.Accounts n d := by
    simp [accounts_iff _ _ roster, and_comm]
  rw [outlives, Bool.or_eq_true, others, Ledger.Outlives, ← isEngaged_iff, Bool.not_eq_true',
    ← Bool.not_eq_true, imp_iff_not_or]

theorem watched_act (event : Event F) (a : Ledger.Act) (roster : w.ledger.Roster)
    (guarded : w.watched event = true) (causes : Causes w event a) : w.ledger.Watched a := by
  cases causes with
  | aborted ticket outstanding =>
      intro call pending n member
      have waiting : w.grpc.pending ticket = some call := pending
      have outlived : ∀ n ∈ call.npcs, w.outlives n [.requested ticket] = true := by
        simpa [watched, outstanding, waiting] using guarded
      exact (w.outlives_iff n roster _).mp (outlived n member)
  | completed draws act completes =>
      cases completes with
      | opened ticket npc player sessionId playerId npcId grpc popped =>
          simp only [watched, popped] at guarded
          intro n
          constructor
          · intro valid other partner
            have present : w.reg.valid player = true := valid
            have outlived : w.outlives n [.requested ticket, .opened player] = true := by
              simpa [present, partner, other] using guarded
            exact (w.outlives_iff n roster _).mp outlived
          · rintro invalid rfl
            have absent : w.reg.valid player = false := invalid
            have outlived : w.outlives n [.requested ticket] = true := by
              simpa [absent] using guarded
            exact (w.outlives_iff n roster _).mp outlived
      | hungUp ticket npc player sessionId reply grpc popped =>
          simp only [watched, popped] at guarded
          intro n other partner
          have outlived : w.outlives n (.requested ticket :: (player.map .opened).toList) = true := by
            simpa [partner, other] using guarded
          exact (w.outlives_iff n roster _).mp outlived
      | refused ticket npc player => trivial
      | dispersed ticket members => trivial
  | _ => trivial

end World

/-- In every watched run each NPC that is busy with a dialogue is accounted for. -/
theorem busy_npcs_accounted (data : WorldBootstrapData F) (settings : SimulationSettings F)
    (obstacles : Option (List Obstacle)) (draws : Nat → NeedsDraw F) (start last : World F)
    (past : List (Transition (World F) (Event F)))
    (booted : bootstrap data settings obstacles draws = some start)
    (run : ServerRun start past last)
    (guarded : Guarded (fun w event => w.watched event = true) past) :
    last.ledger.Accounted := by
  have initial := bootstrap_initial data settings obstacles draws start booted
  have kept := Ledger.run_keeps (fun l => l.Callers ∧ l.Accounted)
    (fun (w : World F) event => w.watched event = true)
    (fun _ _ roster both kept => ⟨both.1.upkeep kept, both.2.upkeep roster kept⟩)
    (fun w event a roster both allowed causes enabled =>
      ⟨both.1.act roster a enabled,
        both.2.act roster both.1 a enabled (w.watched_act event a roster allowed causes)⟩)
    initial.roster ⟨initial.callers, initial.accounted⟩ run guarded
  exact kept.2.2

def bobVisits : List (Event ℚ) :=
  [.connect, .command (.login 1 "bob" "Bob"), .command (.talkToNpc 1 7),
    .respond 0 (.started true 5), .drainTask fun _ => ⟨0, 0⟩, .command (.endDialogue 1 5),
    .respond 1 (.outcome true), .drainTask fun _ => ⟨0, 0⟩]

theorem busy_npcs_accounted_bob : ∃ past last, ServerRun hamlet past last ∧
    past.reverse.map (·.event) = bobVisits ∧ last.ledger.Accounted := by
  have passed : (followWhile step World.watched bobVisits hamlet).any (fun _ => true) = true := by
    decide +kernel
  obtain ⟨past, last, run, guarded, events, -⟩ := Run.exists_of_check _ _ _ passed
  exact ⟨past, last, run, events, busy_npcs_accounted hamletData ⟨2, 60⟩ (some [])
    (fun _ => ⟨100, 100⟩) hamlet last past hamlet_boots run guarded⟩

-- Bob is gone before the answer to his request arrives.
def bobVanishes : List (Event ℚ) :=
  [.connect, .command (.login 1 "bob" "Bob"), .command (.talkToNpc 1 7), .disconnect 1,
    .cleanupPlayer 1, .respond 0 (.started true 5), .drainTask fun _ => ⟨0, 0⟩]

-- Ella stays busy, and nothing will release her.
theorem busy_npc_forgotten : ∃ past last, ServerRun hamlet past last ∧
    past.reverse.map (·.event) = bobVanishes ∧ ¬last.ledger.Accounted := by
  have passed : (followWhile step (fun _ _ => true) bobVanishes hamlet).any
      (fun w => w.isEngaged 0 && w.accounts 0 = []) = true := by decide +kernel
  obtain ⟨past, last, run, -, events, checked⟩ := Run.exists_of_check _ _ _ passed
  refine ⟨past, last, run, events, fun accounted => ?_⟩
  obtain ⟨engaged, forgotten⟩ : last.isEngaged 0 = true ∧ last.accounts 0 = [] := by
    simpa using checked
  have initial := bootstrap_initial hamletData ⟨2, 60⟩ (some []) (fun _ => ⟨100, 100⟩) hamlet
    hamlet_boots
  obtain ⟨roster, -⟩ := run_cast initial run
  obtain ⟨d, accounts⟩ := accounted 0 ((last.isEngaged_iff 0).mp engaged)
  have member := (last.accounts_iff 0 roster d).mpr accounts
  simp [forgotten] at member

end MundusVivens
