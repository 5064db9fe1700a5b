import MundusVivens.Accounts.Isolation
import MundusVivens.Safety.Progress

set_option autoImplicit false

namespace MundusVivens

open Runs

variable {F : Type} [Scalar F]

/-- A login has a free session, and is not under the number of an agent. -/
def welcome (data : WorldBootstrapData F) (w : World F) (event : Event F) : Bool :=
  sessionFree w event &&
    match event with
    | .command cmd => !cmd.impersonates data w.mapper
    | _ => true

structure Seats (t : Transition (World F) (Event F)) (session : UInt32) (playerId : String)
    (e : Entity) : Prop where
  binds : Binds t session playerId e
  tagged : t.after.reg.playerTag e = some ⟨session⟩

/-- Two logins with different ids have bound two players, and the later one took nothing from the
earlier player. -/
def Isolates (later earlier : Transition (World F) (Event F)) : Prop :=
  ∀ session playerId playerName session' playerId' playerName',
    earlier.event = .command (.login session playerId playerName) →
      later.event = .command (.login session' playerId' playerName') → playerId ≠ playerId' →
        ∃ p e, Seats earlier session playerId p ∧ Seats later session' playerId' e ∧ e ≠ p ∧
          Untouched later.before later.after p

structure Isolated (data : WorldBootstrapData F) (past : List (Transition (World F) (Event F)))
    (last : World F) : Prop where
  apart : past.Pairwise Isolates
  -- A login that is welcome is not lost: it has a next state, and a player in it.
  seats : ∀ session playerId playerName,
    welcome data last (.command (.login session playerId playerName)) = true →
      ∃ next e, step (.command (.login session playerId playerName)) last = some next ∧
        Seats ⟨last, .command (.login session playerId playerName), next⟩ session playerId e

variable {data : WorldBootstrapData F} {start w w' : World F}
variable {past : List (Transition (World F) (Event F))}

omit [Scalar F] in
theorem welcome_sessionFree (event : Event F) (allowed : welcome data w event = true) :
    sessionFree w event = true :=
  (Bool.and_eq_true_iff.mp allowed).1

theorem login_seats (session : UInt32) (playerId playerName : String)
    (logged : w.login session playerId playerName = some w') :
    ∃ e, Seats ⟨w, .command (.login session playerId playerName), w'⟩ session playerId e := by
  rcases login_act session playerId playerName logged with
    ⟨unknown, joined⟩ | ⟨e, old, target, tagged, rejoined⟩
  · have index : w'.index = _ := congrArg Ledger.index joined
    have tags : w'.reg.playerTag = _ := congrArg Ledger.playerTag joined
    exact ⟨w.reg.nextEntity, ⟨⟨playerName, rfl⟩, by simp [index, Ledger.apply, World.ledger]⟩,
      by simp [tags, Ledger.apply, World.ledger]⟩
  · have index : w'.index = _ := congrArg Ledger.index rejoined
    have tags : w'.reg.playerTag = _ := congrArg Ledger.playerTag rejoined
    exact ⟨e, ⟨⟨playerName, rfl⟩, by simp [index, Ledger.apply]⟩,
      by simp [tags, Ledger.apply]⟩

theorem logins_seated (run : ServerRun start past w) (t : Transition (World F) (Event F))
    (member : t ∈ past) (session : UInt32) (playerId playerName : String)
    (login : t.event = .command (.login session playerId playerName)) :
    ∃ e, Seats t session playerId e := by
  obtain ⟨-, -, -, -, stepped⟩ := run.taken t member
  obtain ⟨before, event, after⟩ := t
  dsimp only at login
  subst login
  exact login_seats session playerId playerName stepped

/-- In a run whose logins are welcome, and have ids with different numbers, any two logins with
different ids are isolated from each other. -/
theorem logins_isolated (data : WorldBootstrapData F) (settings : SimulationSettings F)
    (obstacles : Option (List Obstacle)) (draws : Nat → NeedsDraw F) (start last : World F)
    (past : List (Transition (World F) (Event F)))
    (booted : bootstrap data settings obstacles draws = some start)
    (run : ServerRun start past last)
    (guarded : Guarded (fun w event => welcome data w event = true) past)
    (distinct : (past.map (·.event)).Pairwise fun later earlier =>
      distinctNumbers start.mapper later earlier = true) :
    Isolated data past last := by
  have initial := bootstrap_initial data settings obstacles draws start booted
  have apart := logins_apart initial run (guarded.mono fun w event => welcome_sessionFree event) distinct
  constructor
  case apart =>
    refine apart.spared.imp_of_mem fun {later earlier} newer older spares => ?_
    intro session playerId playerName session' playerId' playerName' first second different
    obtain ⟨p, seated⟩ := logins_seated run earlier older session playerId playerName first
    obtain ⟨e, seated'⟩ := logins_seated run later newer session' playerId' playerName' second
    obtain ⟨other, untouched⟩ :=
      spares session playerId p session' playerId' e seated.binds seated'.binds different
    exact ⟨p, e, seated, seated', other, untouched⟩
  case seats =>
    intro session playerId playerName allowed
    have reached : Reaches start last := ⟨past, run⟩
    have free : data.castsAgent (last.mapper.getAgentNumericId playerId) = false := by
      simpa [PlayerCommand.impersonates] using (Bool.and_eq_true_iff.mp allowed).2
    obtain ⟨next, logged⟩ := World.login_total
      (reached.ordered data settings obstacles draws booted) session playerId playerName
        ((loginTarget_players_iff booted reached playerId).mpr free)
    obtain ⟨e, seats⟩ := login_seats session playerId playerName logged
    exact ⟨next, e, logged, seats⟩

-- Two clients, one of them the default player, and the other one once more on a third session.
def hamletGuests : List (Event ℚ) :=
  [.connect, .connect, .connect, .command (.login 1 "player" "Host"),
    .command (.login 2 "bot_1" "Bot"), .command (.login 3 "bot_1" "Bot")]

theorem logins_isolated_guests : ∃ past last, ServerRun hamlet past last ∧
    past.reverse.map (·.event) = hamletGuests ∧ Isolated hamletData past last := by
  have passed : (followWhile step (welcome hamletData) hamletGuests hamlet).any
      (fun _ => true) = true := by decide +kernel
  obtain ⟨past, last, run, guarded, events, -⟩ := Run.exists_of_check _ _ _ passed
  have order : past.map (·.event) = hamletGuests.reverse := by
    rw [← events, ← List.map_reverse, List.reverse_reverse]
  refine ⟨past, last, run, events, logins_isolated hamletData ⟨2, 60⟩ (some [])
    (fun _ => ⟨100, 100⟩) hamlet last past hamlet_boots run guarded ?_⟩
  rw [order]
  decide +kernel

-- Two bots log in with different ids, and are bound to the same entity.
theorem bots_not_isolated : ∃ past last, ServerRun hamlet past last ∧
    past.reverse.map (·.event) = [.connect, .connect, .command (.login 1 "bot_1" "Bot 1"),
      .command (.login 2 "bot_2" "Bot 2")] ∧ ¬past.Pairwise Isolates := by
  have passed : (followWhile step (fun _ _ => true)
      [.connect, .connect, .command (.login 1 "bot_1" "Bot 1")] hamlet).any
      (fun w => w.index.bySessionIndex 1 = some 1 &&
        (step (.command (.login 2 "bot_2" "Bot 2")) w).any
          fun w' => w'.index.bySessionIndex 2 = some 1) = true := by
    decide +kernel
  obtain ⟨past, middle, run, -, events, bound⟩ := Run.exists_of_check _ _ _ passed
  simp only [Bool.and_eq_true, decide_eq_true_eq, Option.any_eq_true] at bound
  obtain ⟨first, last, stepped, second⟩ := bound
  cases past with
  | nil => simp at events
  | cons t earlier =>
      obtain ⟨-, login⟩ : earlier.reverse.map (·.event) = [.connect, .connect] ∧
          t.event = .command (.login 1 "bot_1" "Bot 1") := by
        have split : earlier.reverse.map (·.event) ++ [t.event] =
            [.connect, .connect] ++ [.command (.login 1 "bot_1" "Bot 1")] := by
          simpa using events
        obtain ⟨before, newest⟩ := List.append_inj' split rfl
        exact ⟨before, List.singleton_inj.mp newest⟩
      have after := run.newest_after
      refine ⟨_, last, run.next stepped, ?_, fun isolated => ?_⟩
      · rw [List.reverse_cons, List.map_append, events]
        rfl
      obtain ⟨p, e, seated, seated', other, -⟩ := (List.pairwise_cons.mp isolated).1 t (by simp)
        1 "bot_1" "Bot 1" 2 "bot_2" "Bot 2" login rfl (by decide)
      have here : some p = some 1 := by rw [← seated.binds.2, after, first]
      have there : some e = some 1 := seated'.binds.2.symm.trans second
      exact other (Option.some.inj (there.trans here.symm))

end MundusVivens
