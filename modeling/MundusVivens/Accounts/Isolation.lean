import MundusVivens.Accounts.Binding

set_option autoImplicit false

/-!
# Entities of different ids

Two logins with different ids bind different entities, and neither touches what
belongs to the other, as long as their ids resolve to different numbers and
nobody logs in on a session that is taken.
-/

namespace MundusVivens

open Scalar Runs

namespace Ledger

-- Sessions point back to their players, and the entities bound so far keep their number.
structure Seated (known : Entity → UInt32 → Prop) (l : Ledger) : Prop where
  seats : ∀ e tag, l.playerTag e = some tag → l.index.bySessionIndex tag.sessionIndex = some e
  bound : ∀ e id, known e id → e < l.nextEntity ∧ ∀ number, l.npcId e = some number → number = id

namespace Seated

variable {known : Entity → UInt32 → Prop} {l l' : Ledger}

theorem upkeep (seated : Seated known l) (kept : Upkeep l l') :
    Seated known l' := by
  cases kept with
  | furnish id =>
      constructor
      case seats =>
        intro e tag tagged
        by_cases same : e = l.nextEntity
        next => simp [furnish, create, destroy, same] at tagged
        next => exact seated.seats e tag (by simpa [furnish, create, destroy, same] using tagged)
      case bound =>
        intro e number is_known
        obtain ⟨early, named⟩ := seated.bound e number is_known
        refine ⟨Nat.lt_succ_of_lt early, fun other entry => named other ?_⟩
        simpa [furnish, Nat.ne_of_lt early] using entry
  | demolish x furniture =>
      constructor
      case seats =>
        intro e tag tagged
        by_cases same : e = x
        next => simp [destroy, same] at tagged
        next => exact seated.seats e tag (by simpa [destroy, same] using tagged)
      case bound =>
        intro e number is_known
        obtain ⟨early, named⟩ := seated.bound e number is_known
        refine ⟨early, fun other entry => named other ?_⟩
        by_cases same : e = x
        next => simp [destroy, same] at entry
        next => simpa [destroy, same] using entry
  | resume x waiting => exact ⟨seated.seats, seated.bound⟩

theorem enlist (seated : Seated known l) (session id : UInt32)
    (free : l.index.bySessionIndex session = none) :
    Seated known (l.apply (.enlist session id)) := by
  constructor
  case seats =>
    intro e tag tagged
    by_cases same : e = l.nextEntity
    next =>
      obtain rfl : (⟨session⟩ : PlayerTag) = tag := by simpa [apply, same] using tagged
      simp [apply, same]
    next =>
      have seat := seated.seats e tag (by simpa [apply, same] using tagged)
      have other : tag.sessionIndex ≠ session := by
        intro taken
        simp [taken, free] at seat
      simpa [apply, other] using seat
  case bound =>
    intro e number is_known
    obtain ⟨early, named⟩ := seated.bound e number is_known
    refine ⟨Nat.lt_succ_of_lt early, fun other entry => named other ?_⟩
    simpa [apply, Nat.ne_of_lt early] using entry

theorem rejoin (seated : Seated known l) (session : UInt32) (old : PlayerTag) (e : Entity)
    (tag : l.playerTag e = some old)
    (free : ∀ p, l.index.bySessionIndex session = some p → p = e) :
    Seated known (l.apply (.rejoin session old e)) := by
  constructor
  case seats =>
    intro x other tagged
    by_cases same : x = e
    next =>
      obtain rfl : (⟨session⟩ : PlayerTag) = other := by simpa [apply, same] using tagged
      simp [apply, same]
    next =>
      have seat := seated.seats x other (by simpa [apply, same] using tagged)
      have untaken : other.sessionIndex ≠ session := by
        intro taken
        exact same (free x (taken ▸ seat))
      have kept : other.sessionIndex ≠ old.sessionIndex := by
        intro vacated
        have own := seated.seats e old tag
        exact same (Option.some.inj ((vacated ▸ seat).symm.trans own))
      simpa [apply, Function.update_apply, untaken, kept] using seat
  case bound => exact seated.bound

theorem leave (seated : Seated known l) (player : Entity) (tag : PlayerTag)
    (tagged : l.playerTag player = some tag) :
    Seated known (l.apply (.leave player tag)) := by
  constructor
  case seats =>
    intro e other present
    by_cases same : e = player
    next => simp [apply, destroy, same] at present
    next =>
      have seat := seated.seats e other (by simpa [apply, destroy, release, same] using present)
      have kept : other.sessionIndex ≠ tag.sessionIndex := by
        intro vacated
        have own := seated.seats player tag tagged
        exact same (Option.some.inj ((vacated ▸ seat).symm.trans own))
      simpa [apply, kept] using seat
  case bound =>
    intro e number is_known
    obtain ⟨early, named⟩ := seated.bound e number is_known
    refine ⟨early, fun other entry => named other ?_⟩
    by_cases same : e = player
    next => simp [apply, destroy, same] at entry
    next => simpa [apply, destroy, release, same] using entry

end Seated

end Ledger

variable {F : Type} [Scalar F]

-- A login uses a session that is free, or already bound to the entity of its id.
def sessionFree (w : World F) : Event F → Bool
  | .command (.login session playerId _) =>
      decide (∀ p ∈ w.index.bySessionIndex session, w.loginTarget playerId = some p)
  | _ => true

-- The ids of two logins resolve to different numbers unless they are equal.
def distinctNumbers (mapper : AgentIdMapper) : Event F → Event F → Bool
  | .command (.login _ playerId _), .command (.login _ playerId' _) =>
      playerId = playerId' ||
        mapper.getAgentNumericId playerId ≠ mapper.getAgentNumericId playerId'
  | _, _ => true

def Binds (t : Transition (World F) (Event F)) (session : UInt32) (playerId : String)
    (e : Entity) : Prop :=
  (∃ playerName, t.event = .command (.login session playerId playerName)) ∧
    t.after.index.bySessionIndex session = some e

def Untouched (before after : World F) (p : Entity) : Prop :=
  after.reg.playerTag p = before.reg.playerTag p ∧
    after.reg.playerDialogue p = before.reg.playerDialogue p ∧
    ∀ session, before.index.bySessionIndex session = some p →
      after.index.bySessionIndex session = some p

-- The later login binds another entity than the earlier one did, and takes nothing from it.
def Spares (later earlier : Transition (World F) (Event F)) : Prop :=
  ∀ session playerId p session' playerId' e, Binds earlier session playerId p →
    Binds later session' playerId' e → playerId ≠ playerId' →
      e ≠ p ∧ Untouched later.before later.after p

-- The entities that logins have bound so far, with the numbers of their ids.
def BoundAs (mapper : AgentIdMapper) (past : List (Transition (World F) (Event F))) (e : Entity)
    (number : UInt32) : Prop :=
  ∃ t ∈ past, ∃ session playerId, Binds t session playerId e ∧
    number = mapper.getAgentNumericId playerId

variable {w w' : World F}

theorem login_act (session : UInt32) (playerId playerName : String)
    (logged : w.login session playerId playerName = some w') :
    (w.loginTarget playerId = none ∧
        w'.ledger = w.ledger.apply (.enlist session (w.mapper.getAgentNumericId playerId))) ∨
      ∃ e old, w.loginTarget playerId = some e ∧ w.ledger.playerTag e = some old ∧
        w'.ledger = w.ledger.apply (.rejoin session old e) := by
  obtain ⟨e, bound, found, same⟩ := w.login_bind w' session playerId playerName logged
  rcases w.loginBind_ledger bound session playerId playerName e found with
    ⟨unknown, -, joined⟩ | ⟨known, old, tagged, rejoined⟩
  · exact .inl ⟨unknown, same.trans joined⟩
  · exact .inr ⟨e, old, known, tagged, same.trans rejoined⟩

theorem seated_act (known : Entity → UInt32 → Prop) (event : Event F) (a : Ledger.Act)
    (seated : w.ledger.Seated known) (allowed : sessionFree w event = true)
    (causes : Causes w event a) (enabled : w.ledger.Enabled a) :
    (w.ledger.apply a).Seated known := by
  by_cases account : a.isAccount = true
  next =>
    cases causes with
    | login session playerId playerName unknown =>
        refine seated.enlist session _ ?_
        cases taken : w.ledger.index.bySessionIndex session with
        | none => rfl
        | some p =>
            have target := (decide_eq_true_eq.mp allowed) p taken
            simp [unknown] at target
    | relogin session playerId playerName old e found =>
        refine seated.rejoin session old e enabled.1 fun p taken => ?_
        have target := (decide_eq_true_eq.mp allowed) p taken
        exact Option.some.inj (target.symm.trans found)
    | cleanup player tag _ gone => exact seated.leave player tag enabled
    | completed draws act completes => cases completes <;> cases account
    | _ => cases account
  next =>
    obtain ⟨next, ids, tags, index⟩ := w.ledger.apply_accounts a (by simpa using account)
    constructor
    case seats => simpa only [tags, index] using seated.seats
    case bound => simpa only [next, ids] using seated.bound

theorem login_binds (known : Entity → UInt32 → Prop) (session : UInt32)
    (playerId playerName : String) (roster : w.ledger.Roster) (seated : w.ledger.Seated known)
    (allowed : sessionFree w (.command (.login session playerId playerName)) = true)
    (logged : w.login session playerId playerName = some w') (e : Entity)
    (bound : w'.index.bySessionIndex session = some e) :
    e < w'.ledger.nextEntity ∧
      w'.ledger.npcId e = some (w.mapper.getAgentNumericId playerId) ∧
      ∀ p, p < w.ledger.nextEntity → e ≠ p →
        Untouched w w' p ∧ w'.ledger.npcId p = w.ledger.npcId p := by
  have bound' : w'.ledger.index.bySessionIndex session = some e := bound
  rcases login_act session playerId playerName logged with
    ⟨unknown, joined⟩ | ⟨x, old, target, tagged, rejoined⟩
  · rw [joined] at bound' ⊢
    obtain rfl : w.ledger.nextEntity = e := by simpa [Ledger.apply] using bound'
    refine ⟨Nat.lt_succ_self _, by simp [Ledger.apply], fun p early other => ?_⟩
    have fresh : p ≠ w.ledger.nextEntity := Ne.symm other
    refine ⟨⟨?_, ?_, ?_⟩, by simp [Ledger.apply, fresh]⟩
    · have tags : w'.reg.playerTag = _ := congrArg Ledger.playerTag joined
      simp only [tags, Ledger.apply, Function.update_of_ne fresh]
      rfl
    · have talks : w'.reg.playerDialogue = _ := congrArg Ledger.playerDialogue joined
      simp only [talks, Ledger.apply, Ledger.create, Ledger.destroy, Function.update_of_ne fresh]
      rfl
    · intro other taken
      have free : other ≠ session := by
        rintro rfl
        have same := (decide_eq_true_eq.mp allowed) p taken
        simp [unknown] at same
      have index : w'.index = _ := congrArg Ledger.index joined
      simp only [index, Ledger.apply, Function.update_of_ne free]
      exact taken
  · rw [rejoined] at bound' ⊢
    obtain rfl : x = e := by simpa [Ledger.apply] using bound'
    have indexed : w.ledger.index.byNpcId (w.mapper.getAgentNumericId playerId) = some x := target
    obtain ⟨valid, number, -⟩ := roster.indexed _ x indexed
    refine ⟨roster.below valid, number, fun p early other => ⟨⟨?_, ?_, ?_⟩, rfl⟩⟩
    · have tags : w'.reg.playerTag = _ := congrArg Ledger.playerTag rejoined
      simp only [tags, Ledger.apply, Function.update_of_ne (Ne.symm other)]
      rfl
    · exact congrFun (congrArg Ledger.playerDialogue rejoined) p
    · intro seat taken
      have untaken : seat ≠ session := by
        rintro rfl
        have same := (decide_eq_true_eq.mp allowed) p taken
        exact other (Option.some.inj (target.symm.trans same))
      have kept : seat ≠ old.sessionIndex := by
        rintro rfl
        have own := seated.seats x old tagged
        exact other (Option.some.inj (own.symm.trans taken))
      have index : w'.index = _ := congrArg Ledger.index rejoined
      simp only [index, Ledger.apply, Function.update_of_ne untaken, Function.update_of_ne kept]
      exact taken

theorem seated_step (known : Entity → UInt32 → Prop) (event : Event F)
    (roster : w.ledger.Roster) (seated : w.ledger.Seated known) (allowed : sessionFree w event = true)
    (stepped : step event w = some w') : w'.ledger.Seated known :=
  (Ledger.step_keeps (Ledger.Seated known) (fun w event => sessionFree w event = true)
    (fun _ _ _ seated kept => seated.upkeep kept)
    (fun _ event a _ seated allowed causes enabled =>
      seated_act known event a seated allowed causes enabled)
    event roster seated allowed stepped).2

-- What holds after a past: the players bound in it keep their numbers, and were spared.
structure Apart (mapper : AgentIdMapper) (past : List (Transition (World F) (Event F)))
    (w : World F) : Prop where
  seated : w.ledger.Seated (BoundAs mapper past)
  spared : past.Pairwise Spares

theorem apart_step (event : Event F) (past : List (Transition (World F) (Event F)))
    (roster : w.ledger.Roster) (apart : Apart w.mapper past w) (allowed : sessionFree w event = true)
    (distinct : ∀ earlier ∈ past, distinctNumbers w.mapper event earlier.event = true)
    (stepped : step event w = some w') : Apart w.mapper (⟨w, event, w'⟩ :: past) w' := by
  have seated' := seated_step _ event roster apart.seated allowed stepped
  have binds (session : UInt32) (playerId : String) (e : Entity)
      (bound : Binds ⟨w, event, w'⟩ session playerId e) :
      e < w'.ledger.nextEntity ∧
        w'.ledger.npcId e = some (w.mapper.getAgentNumericId playerId) ∧
        ∀ p, p < w.ledger.nextEntity → e ≠ p → Untouched w w' p := by
    obtain ⟨⟨playerName, login⟩, entry⟩ := bound
    dsimp only at login
    subst login
    obtain ⟨early, number, others⟩ := login_binds _ session playerId playerName roster apart.seated
      allowed stepped e entry
    exact ⟨early, number, fun p known other => (others p known other).1⟩
  constructor
  case seated =>
    constructor
    case seats => exact seated'.seats
    case bound =>
      rintro e number ⟨t, member, session, playerId, bound, rfl⟩
      rcases List.mem_cons.mp member with rfl | member
      · obtain ⟨early, named, -⟩ := binds session playerId e bound
        exact ⟨early, fun other entry => Option.some.inj (entry.symm.trans named)⟩
      · exact seated'.bound e _ ⟨t, member, session, playerId, bound, rfl⟩
  case spared =>
    refine List.pairwise_cons.mpr ⟨?_, apart.spared⟩
    intro earlier member session playerId p session' playerId' e before bound different
    obtain ⟨-, named, untouched⟩ := binds session' playerId' e bound
    have known : BoundAs w.mapper past p (w.mapper.getAgentNumericId playerId) :=
      ⟨earlier, member, session, playerId, before, rfl⟩
    have other : e ≠ p := by
      rintro rfl
      have same := (seated'.bound e _ known).2 _ named
      obtain ⟨⟨playerName, login⟩, -⟩ := before
      obtain ⟨⟨playerName', login'⟩, -⟩ := bound
      have numbers := distinct earlier member
      dsimp only at login'
      rw [login, login'] at numbers
      simp [distinctNumbers, Ne.symm different, same] at numbers
    exact ⟨other, untouched p (apart.seated.bound p _ known).1 other⟩

theorem logins_apart {start last : World F} {past : List (Transition (World F) (Event F))}
    (initial : start.ledger.Initial) (run : ServerRun start past last)
    (guarded : Guarded (fun w event => sessionFree w event = true) past)
    (distinct : (past.map (·.event)).Pairwise fun later earlier =>
      distinctNumbers start.mapper later earlier = true) :
    Apart start.mapper past last := by
  induction run with
  | rest =>
      refine ⟨⟨fun e tag tagged => ?_, fun e number known => ?_⟩, .nil⟩
      · rw [initial.untagged e] at tagged
        cases tagged
      · obtain ⟨t, member, -⟩ := known
        cases member
  | @next past s s' event run stepped ih =>
      obtain ⟨allowed, guarded⟩ := (Guarded.cons _).mp guarded
      obtain ⟨here, distinct⟩ := List.pairwise_cons.mp distinct
      have numbers : ∀ earlier ∈ past, distinctNumbers start.mapper event earlier.event = true :=
        fun earlier member => here _ (List.mem_map_of_mem member)
      obtain ⟨roster, cast⟩ := run_cast initial run
      have mapper : s.mapper = start.mapper := cast.mapper
      have before := ih guarded distinct
      rw [← mapper] at before numbers ⊢
      exact apart_step event past roster before allowed numbers stepped

end MundusVivens
