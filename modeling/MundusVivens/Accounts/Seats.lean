import MundusVivens.Accounts.Isolation

set_option autoImplicit false

/-!
# The session of a player

A connected session stays bound to the player that logged in on it, unless a
player whose tag still names this session logs in elsewhere.
-/

namespace MundusVivens

open Scalar Runs

namespace Ledger

structure Holds (aliases : AgentIdMapper) (session id : UInt32) (e : Entity) (l : Ledger) : Prop where
  mapper : l.mapper = aliases
  indexed : l.index.byNpcId id = some e
  bound : l.index.bySessionIndex session = some e

namespace Holds

variable {aliases : AgentIdMapper} {session id : UInt32} {e : Entity} {l l' : Ledger}

theorem same (holds : Holds aliases session id e l) (lookup : l'.mapper = l.mapper)
    (index : l'.index = l.index) : Holds aliases session id e l' where
  mapper := lookup.trans holds.mapper
  indexed := by rw [index]; exact holds.indexed
  bound := by rw [index]; exact holds.bound

theorem upkeep (holds : Holds aliases session id e l) (kept : Upkeep l l') :
    Holds aliases session id e l' := by
  cases kept with
  | furnish => exact holds.same rfl rfl
  | demolish => exact holds.same rfl rfl
  | resume => exact holds.same rfl rfl

theorem enlist (holds : Holds aliases session id e l) (seat number : UInt32)
    (free : l.index.byNpcId number = none) (other : number ≠ id → seat ≠ session) :
    Holds aliases session id e (l.apply (.enlist seat number)) := by
  have distinct : id ≠ number := by
    rintro rfl
    simp [holds.indexed] at free
  constructor
  case mapper => exact holds.mapper
  case indexed => simpa [apply, distinct] using holds.indexed
  case bound => simpa [apply, Ne.symm (other (Ne.symm distinct))] using holds.bound

theorem rejoin (holds : Holds aliases session id e l) (seat : UInt32) (old : PlayerTag) (x : Entity)
    (own : x = e → seat = session) (other : x ≠ e → seat ≠ session ∧ old.sessionIndex ≠ session) :
    Holds aliases session id e (l.apply (.rejoin seat old x)) := by
  constructor
  case mapper => exact holds.mapper
  case indexed => exact holds.indexed
  case bound =>
    by_cases same : x = e
    next => simp [apply, own same, same]
    next =>
      obtain ⟨elsewhere, kept⟩ := other same
      simpa [apply, Function.update_apply, Ne.symm elsewhere, Ne.symm kept] using holds.bound

theorem leave (roster : Roster l) (holds : Holds aliases session id e l) (player : Entity)
    (tag : PlayerTag) (tagged : l.playerTag player = some tag)
    (elsewhere : tag.sessionIndex ≠ session) :
    Holds aliases session id e (l.apply (.leave player tag)) := by
  obtain ⟨number, identity, entry⟩ := roster.players player (by simp [tagged])
  have distinct : id ≠ number := by
    rintro rfl
    obtain rfl : e = player := Option.some.inj (holds.indexed.symm.trans entry)
    have seat : tag = ⟨session⟩ := Option.some.inj (tagged.symm.trans (roster.bound _ _ holds.bound))
    exact elsewhere (by rw [seat])
  constructor
  case mapper => exact holds.mapper
  case indexed => simpa [apply, identity, distinct] using holds.indexed
  case bound => simpa [apply, Ne.symm elsewhere] using holds.bound

end Holds

end Ledger

variable {F : Type} [Scalar F]

/-- A player who logs in again leaves no connected session that belongs to somebody else. -/
def vacatesOwn (w : World F) : Event F → Bool
  | .command (.login session playerId _) =>
      (w.loginTarget playerId).all fun e => (w.reg.playerTag e).all fun old =>
        old.sessionIndex = session || !w.tcp.sessions old.sessionIndex ||
          (w.index.bySessionIndex old.sessionIndex).all fun p => p = e
  | _ => true

/-- The player of this id logs in on no other session, and nobody else on this one. -/
def keepsSeat (mapper : AgentIdMapper) (session : UInt32) (playerId : String) : Event F → Bool
  | .command (.login session' playerId' _) =>
      decide (mapper.getAgentNumericId playerId' = mapper.getAgentNumericId playerId ↔
        session' = session)
  | _ => true

/-- The login is followed by this part of the run, in which its session stays connected and
undisputed. -/
structure Seating (mapper : AgentIdMapper) (session : UInt32) (playerId : String)
    (later : List (Transition (World F) (Event F))) : Prop where
  connected : ∀ t ∈ later, t.before.tcp.sessions session = true
  undisputed : ∀ t ∈ later, keepsSeat mapper session playerId t.event = true

variable {w w' : World F}

theorem holds_act (aliases : AgentIdMapper) (session : UInt32) (playerId : String) (e : Entity)
    (event : Event F) (a : Ledger.Act) (roster : w.ledger.Roster)
    (holds : w.ledger.Holds aliases session (aliases.getAgentNumericId playerId) e)
    (vacates : vacatesOwn w event = true) (keeps : keepsSeat aliases session playerId event = true)
    (connected : w.tcp.sessions session = true) (causes : Causes w event a)
    (enabled : w.ledger.Enabled a) :
    (w.ledger.apply a).Holds aliases session (aliases.getAgentNumericId playerId) e := by
  by_cases account : a.isAccount = true
  next =>
    have mapper : w.mapper = aliases := holds.mapper
    cases causes with
    | login seat playerId' playerName unknown =>
        have undisputed := decide_eq_true_eq.mp keeps
        refine holds.enlist seat _ enabled fun different here => different ?_
        rw [mapper]
        exact undisputed.mpr here
    | relogin seat playerId' playerName old x known =>
        have undisputed := decide_eq_true_eq.mp keeps
        have indexed : w.ledger.index.byNpcId (aliases.getAgentNumericId playerId') = some x := by
          rw [← mapper]
          exact known
        refine holds.rejoin seat old x (fun own => ?_) fun different => ⟨fun here => ?_, ?_⟩
        · subst own
          have number : aliases.getAgentNumericId playerId' = aliases.getAgentNumericId playerId :=
            Option.some.inj ((roster.indexed _ _ indexed).2.1.symm.trans
              (roster.indexed _ _ holds.indexed).2.1)
          exact undisputed.mp number
        · have number := undisputed.mpr here
          rw [number, holds.indexed] at indexed
          exact different (Option.some.inj indexed).symm
        · intro vacated
          have tagged : w.reg.playerTag x = some old := enabled.1
          have bound : w.index.bySessionIndex session = some e := holds.bound
          by_cases here : session = seat
          next =>
            have number := undisputed.mpr here.symm
            rw [number, holds.indexed] at indexed
            exact different (Option.some.inj indexed).symm
          next =>
            simp only [vacatesOwn, known, Option.all_some, tagged, vacated, connected, bound] at vacates
            simp [here, Ne.symm different] at vacates
    | cleanup player tag tagged gone =>
        refine Ledger.Holds.leave roster holds player tag enabled fun here => ?_
        simp [here, connected] at gone
    | completed draws act completes => cases completes <;> cases account
    | _ => cases account
  next =>
    obtain ⟨-, -, -, index⟩ := w.ledger.apply_accounts a (by simpa using account)
    exact holds.same (w.ledger.apply_mapper a) index

theorem login_holds (session : UInt32) (playerId playerName : String)
    (logged : w.login session playerId playerName = some w') :
    ∃ e, w'.ledger.Holds w.mapper session (w.mapper.getAgentNumericId playerId) e := by
  rcases login_act session playerId playerName logged with
    ⟨-, joined⟩ | ⟨e, old, known, -, rejoined⟩
  · refine ⟨w.ledger.nextEntity, ?_⟩
    rw [joined]
    constructor
    case mapper => exact w.ledger.apply_mapper _
    case indexed => simp [Ledger.apply]
    case bound => simp [Ledger.apply]
  · refine ⟨e, ?_⟩
    rw [rejoined]
    constructor
    case mapper => exact w.ledger.apply_mapper _
    case indexed => exact known
    case bound => simp [Ledger.apply]

/-- As long as every player who logs in again leaves only a session of its own, the index leads
from a connected session to the player that logged in on it. -/
theorem sessions_kept (data : WorldBootstrapData F) (settings : SimulationSettings F)
    (obstacles : Option (List Obstacle)) (draws : Nat → NeedsDraw F) (start last : World F)
    (later earlier : List (Transition (World F) (Event F))) (t : Transition (World F) (Event F))
    (booted : bootstrap data settings obstacles draws = some start)
    (run : ServerRun start (later ++ t :: earlier) last)
    (session : UInt32) (playerId playerName : String)
    (login : t.event = .command (.login session playerId playerName))
    (seating : Seating start.mapper session playerId later)
    (guarded : Guarded (fun w event => vacatesOwn w event = true) later) :
    ∃ e, t.after.index.byNpcId (start.mapper.getAgentNumericId playerId) = some e ∧
      last.index.byNpcId (start.mapper.getAgentNumericId playerId) = some e ∧
      last.index.bySessionIndex session = some e := by
  have initial := bootstrap_initial data settings obstacles draws start booted
  obtain ⟨middle, before, after⟩ := run.split later
  obtain ⟨before', event, after'⟩ := t
  dsimp only at login
  subst login
  cases before with
  | next before logged =>
      obtain ⟨-, cast⟩ := run_cast initial before
      have mapper : before'.mapper = start.mapper := cast.mapper
      obtain ⟨e, holds⟩ := login_holds session playerId playerName logged
      rw [mapper] at holds
      have seated := (run_cast initial (before.next logged)).1
      let allowed (w : World F) (event : Event F) : Prop := vacatesOwn w event = true ∧
        keepsSeat start.mapper session playerId event = true ∧ w.tcp.sessions session = true
      have kept : Guarded allowed later := fun t member =>
        ⟨guarded t member, seating.undisputed t member, seating.connected t member⟩
      obtain ⟨-, held⟩ := Ledger.run_keeps _ allowed
        (fun _ _ _ holds kept => holds.upkeep kept)
        (fun _ event a roster holds allowed causes enabled =>
          holds_act start.mapper session playerId e event a roster holds allowed.1 allowed.2.1
            allowed.2.2 causes enabled)
        seated holds after kept
      exact ⟨e, holds.indexed, held.indexed, held.bound⟩

-- The host changes its session while the bot stays on the first one.
theorem sessions_kept_host : ∃ later t earlier last,
    ServerRun hamlet (later ++ t :: earlier) last ∧
    (later ++ t :: earlier).reverse.map (·.event) =
      [.connect, .connect, .connect, .command (.login 1 "bot_1" "Bot"),
        .command (.login 2 "player" "Host"), .command (.login 3 "player" "Host")] ∧
    ∃ e, t.after.index.byNpcId (hamlet.mapper.getAgentNumericId "bot_1") = some e ∧
      last.index.byNpcId (hamlet.mapper.getAgentNumericId "bot_1") = some e ∧
      last.index.bySessionIndex 1 = some e := by
  let allowed (w : World ℚ) (event : Event ℚ) : Bool := vacatesOwn w event &&
    keepsSeat hamlet.mapper 1 "bot_1" event && w.tcp.sessions 1
  have passed : (followWhile step (fun _ _ => true) [.connect, .connect, .connect] hamlet).any
      (fun w => (step (.command (.login 1 "bot_1" "Bot")) w).any fun w' =>
        (followWhile step allowed [.command (.login 2 "player" "Host"),
          .command (.login 3 "player" "Host")] w').any fun _ => true) = true := by decide +kernel
  obtain ⟨later, w, w', earlier, last, run, guarded, events, -⟩ :=
    Run.exists_around _ _ _ _ _ passed
  simp only [Guarded, allowed, Bool.and_eq_true] at guarded
  have seating : Seating hamlet.mapper 1 "bot_1" later :=
    ⟨fun t member => (guarded t member).2, fun t member => (guarded t member).1.2⟩
  exact ⟨later, _, earlier, last, run, events, sessions_kept hamletData ⟨2, 60⟩ (some [])
    (fun _ => ⟨100, 100⟩) hamlet last later earlier _ hamlet_boots run 1 "bot_1" "Bot" rfl seating
    fun t member => (guarded t member).1.1⟩

-- The bot leaves the first session, which the host has taken since.
theorem session_unbound : ∃ later t earlier last,
    ServerRun hamlet (later ++ t :: earlier) last ∧
    (later ++ t :: earlier).reverse.map (·.event) =
      [.connect, .connect, .command (.login 1 "bot_1" "Bot"),
        .command (.login 1 "player" "Host"), .command (.login 2 "bot_1" "Bot")] ∧
    t.event = .command (.login 1 "player" "Host") ∧
    Seating hamlet.mapper 1 "player" later ∧ last.tcp.sessions 1 = true ∧
    last.index.bySessionIndex 1 = none := by
  let allowed (w : World ℚ) (event : Event ℚ) : Bool :=
    keepsSeat hamlet.mapper 1 "player" event && w.tcp.sessions 1
  have passed : (followWhile step (fun _ _ => true)
      [.connect, .connect, .command (.login 1 "bot_1" "Bot")] hamlet).any
      (fun w => (step (.command (.login 1 "player" "Host")) w).any fun w' =>
        (followWhile step allowed [.command (.login 2 "bot_1" "Bot")] w').any fun w =>
          w.tcp.sessions 1 && (w.index.bySessionIndex 1).isNone) = true := by decide +kernel
  obtain ⟨later, w, w', earlier, last, run, guarded, events, lost⟩ :=
    Run.exists_around _ _ _ _ _ passed
  simp only [Guarded, allowed, Bool.and_eq_true] at guarded
  have seating : Seating hamlet.mapper 1 "player" later :=
    ⟨fun t member => (guarded t member).2, fun t member => (guarded t member).1⟩
  obtain ⟨connected, unbound⟩ : last.tcp.sessions 1 = true ∧
      last.index.bySessionIndex 1 = none := by simpa using lost
  exact ⟨later, _, earlier, last, run, events, rfl, seating, connected, unbound⟩

end MundusVivens
