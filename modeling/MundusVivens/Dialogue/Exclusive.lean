import MundusVivens.Dialogue.Parties

set_option autoImplicit false

/-!
# One dialogue at a time

An NPC takes part in the dialogue calls that wait for an answer and in the open
dialogues of players. It takes part in one at most, and stays busy meanwhile, as
long as nothing else frees it: a hit, a second end command, or the cleanup of a
player whose end command is still pending.
-/

namespace MundusVivens

namespace DialogueCall

def talksWith (n : Entity) : DialogueCall → Bool
  | .group members => members.contains n
  | .start npc _ => npc = n
  | .finish .. => false

-- The task of the call will release the NPC of an open dialogue.
def ends (n : Entity) : DialogueCall → Bool
  | .finish npc _ => npc = some n
  | _ => false

end DialogueCall

-- A dialogue, by its call while it is requested and by its player while it is open.
inductive Dialogue where
  | requested (ticket : Nat)
  | opened (player : Entity)
deriving DecidableEq

namespace Ledger

inductive TakesPart (l : Ledger) (n : Entity) : Dialogue → Prop where
  | requested (ticket : Nat) (call : DialogueCall) (pending : l.pending ticket = some call)
      (talks : call.talksWith n = true) : TakesPart l n (.requested ticket)
  | opened (player : Entity) (partner : l.partner (some player) = some n) :
      TakesPart l n (.opened player)

def Ends (l : Ledger) (n : Entity) (ticket : Nat) : Prop :=
  ∃ call, l.pending ticket = some call ∧ call.ends n = true

structure Exclusive (l : Ledger) : Prop where
  npcs : ∀ n d, l.TakesPart n d → l.IsNpc n
  engaged : ∀ n d, l.TakesPart n d → l.reason n = some .dialogue
  single : ∀ n d d', l.TakesPart n d → l.TakesPart n d' → d = d'
  closing : ∀ n ticket player, l.pending ticket = some (.finish (some n) player) →
    l.IsNpc n ∧ l.reason n = some .dialogue ∧
      ∀ d, l.TakesPart n d → ∃ p, player = some p ∧ d = .opened p
  once : ∀ n ticket ticket', l.Ends n ticket → l.Ends n ticket' → ticket = ticket'

namespace Exclusive

variable {l l' : Ledger}

-- Dialogues may end, as long as everybody who is still engaged stays so.
theorem shrink (exclusive : Exclusive l)
    (pending : ∀ ticket call, l'.pending ticket = some call → l.pending ticket = some call)
    (dialogues : ∀ p dialogue, l'.playerDialogue p = some dialogue →
      l.playerDialogue p = some dialogue)
    (npcs : ∀ n, l.IsNpc n → l'.IsNpc n)
    (engaged : ∀ n, l.IsNpc n → l.reason n = some .dialogue →
      ((∃ d, l'.TakesPart n d) ∨ ∃ ticket, l'.Ends n ticket) → l'.reason n = some .dialogue) :
    Exclusive l' := by
  have before {n : Entity} {d : Dialogue} (part : l'.TakesPart n d) : l.TakesPart n d := by
    cases part with
    | requested ticket call waiting talks => exact .requested ticket call (pending _ _ waiting) talks
    | opened player partner =>
        simp only [Ledger.partner, Option.bind_eq_bind, Option.bind_some,
          Option.bind_eq_some_iff] at partner
        obtain ⟨dialogue, talking, named⟩ := partner
        exact .opened player (by simp [Ledger.partner, dialogues _ _ talking, named])
  have ending {n : Entity} {ticket : Nat} (ends : l'.Ends n ticket) : l.Ends n ticket := by
    obtain ⟨call, waiting, named⟩ := ends
    exact ⟨call, pending _ _ waiting, named⟩
  constructor
  case npcs => exact fun n d part => npcs n (exclusive.npcs n d (before part))
  case engaged =>
    exact fun n d part => engaged n (exclusive.npcs n d (before part))
      (exclusive.engaged n d (before part)) (.inl ⟨d, part⟩)
  case single => exact fun n d d' part part' => exclusive.single n d d' (before part) (before part')
  case closing =>
    intro n ticket player waiting
    obtain ⟨npc, busy, own⟩ := exclusive.closing n ticket player (pending _ _ waiting)
    have held := engaged n npc busy (.inr ⟨ticket, _, waiting, by simp [DialogueCall.ends]⟩)
    exact ⟨npcs n npc, held, fun d part => own d (before part)⟩
  case once =>
    exact fun n ticket ticket' ends ends' =>
      exclusive.once n ticket ticket' (ending ends) (ending ends')

theorem upkeep (roster : Roster l) (exclusive : Exclusive l) (kept : Upkeep l l') :
    Exclusive l' := by
  have npcs (n : Entity) (npc : l.IsNpc n) : l'.IsNpc n := npc.upkeep roster kept
  cases kept with
  | furnish id =>
      refine exclusive.shrink (fun _ _ waiting => waiting) ?_ npcs ?_
      · intro p dialogue talking
        by_cases same : p = l.nextEntity
        next => simp [furnish, create, destroy, same] at talking
        next => simpa [furnish, create, destroy, same] using talking
      · intro n npc busy _
        have old : n ≠ l.nextEntity := Nat.ne_of_lt (roster.below npc.1)
        simpa [furnish, create, destroy, old] using busy
  | demolish x furniture =>
      refine exclusive.shrink (fun _ _ waiting => waiting) ?_ npcs ?_
      · intro p dialogue talking
        by_cases same : p = x
        next => simp [destroy, same] at talking
        next => simpa [destroy, same] using talking
      · intro n npc busy _
        have other : n ≠ x := by
          rintro rfl
          simp [npc.2.1] at furniture
        simpa [destroy, other] using busy
  | resume x waiting =>
      refine exclusive.shrink (fun _ _ pending => pending) (fun _ _ talking => talking) npcs ?_
      intro n npc busy _
      have other : n ≠ x := by
        rintro rfl
        simp [waiting] at busy
      simpa [release, other] using busy

theorem enlist (roster : Roster l) (exclusive : Exclusive l) (session id : UInt32)
    (enabled : l.Enabled (.enlist session id)) : Exclusive (l.apply (.enlist session id)) := by
  refine exclusive.shrink (fun _ _ waiting => waiting) ?_ (fun _ npc => npc.act roster _ enabled) ?_
  · intro p dialogue talking
    by_cases same : p = l.nextEntity
    next => simp [apply, create, destroy, same] at talking
    next => simpa [apply, create, destroy, same] using talking
  · intro n npc busy _
    have old : n ≠ l.nextEntity := Nat.ne_of_lt (roster.below npc.1)
    simpa [apply, create, destroy, old] using busy

theorem rejoin (roster : Roster l) (exclusive : Exclusive l) (session : UInt32) (old : PlayerTag)
    (e : Entity) (enabled : l.Enabled (.rejoin session old e)) :
    Exclusive (l.apply (.rejoin session old e)) :=
  exclusive.shrink (fun _ _ waiting => waiting) (fun _ _ talking => talking)
    (fun _ npc => npc.act roster _ enabled) (fun _ _ busy _ => busy)

theorem leave (roster : Roster l) (exclusive : Exclusive l) (player : Entity) (tag : PlayerTag)
    (tagged : l.playerTag player = some tag)
    (quiet : ∀ n, l.partner (some player) = some n → ∀ ticket, ¬l.Ends n ticket) :
    Exclusive (l.apply (.leave player tag)) := by
  refine exclusive.shrink (fun _ _ waiting => waiting) ?_ (fun _ npc => npc.act roster _ tagged) ?_
  · intro p dialogue talking
    by_cases same : p = player
    next => simp [apply, destroy, same] at talking
    next => simpa [apply, destroy, release, same] using talking
  · intro n npc busy still
    have stays : l.partner (some player) ≠ some n := by
      intro partner
      rcases still with ⟨d, part⟩ | ⟨ticket, ends⟩
      · cases part with
        | requested ticket call waiting talks =>
            have twice := exclusive.single n _ _ (.requested ticket call waiting talks)
              (.opened player partner)
            cases twice
        | opened q named =>
            by_cases same : q = player
            next => simp [Ledger.partner, apply, destroy, same] at named
            next =>
              have named' : l.partner (some q) = some n := by
                simpa [Ledger.partner, apply, destroy, release, same] using named
              have twice := exclusive.single n _ _ (.opened q named') (.opened player partner)
              exact same (Dialogue.opened.inj twice)
      · exact quiet n partner ticket ends
    have other : n ≠ player := by
      rintro rfl
      simp [npc.2.2] at tagged
    simp [apply, destroy, release, other, stays, busy]

theorem dismiss (exclusive : Exclusive l) (ticket : Nat) (call : DialogueCall)
    (waiting : l.pending ticket = some call) (es : List Entity)
    (freed : ∀ e ∈ es, call.talksWith e = true ∨ l.IsCaller e) :
    Exclusive ((l.close ticket).release es) := by
  have open_calls {t : Nat} {c : DialogueCall}
      (kept : ((l.close ticket).release es).pending t = some c) :
      t ≠ ticket ∧ l.pending t = some c := by
    by_cases same : t = ticket
    next => simp [close, release, same] at kept
    next => exact ⟨same, by simpa [close, release, same] using kept⟩
  refine exclusive.shrink (fun _ _ kept => (open_calls kept).2) (fun _ _ talking => talking)
    (fun _ npc => npc) ?_
  intro n npc busy still
  have spared : n ∉ es := by
    intro member
    rcases freed n member with talks | caller
    · have part : l.TakesPart n (.requested ticket) := .requested ticket call waiting talks
      rcases still with ⟨d, now⟩ | ⟨t, c, kept, ends⟩
      · cases now with
        | requested t c kept talks' =>
            obtain ⟨distinct, before⟩ := open_calls kept
            have twice := exclusive.single n _ _ (.requested t c before talks') part
            exact distinct (Dialogue.requested.inj twice)
        | opened p partner =>
            have twice := exclusive.single n _ _ (.opened p partner) part
            cases twice
      · obtain ⟨-, before⟩ := open_calls kept
        cases c with
        | finish npc player =>
            obtain rfl : npc = some n := by simpa [DialogueCall.ends] using ends
            obtain ⟨-, -, own⟩ := exclusive.closing n t player before
            obtain ⟨p, -, same⟩ := own _ part
            cases same
        | group members => cases ends
        | start npc player => cases ends
    · exact caller.ne npc rfl
  simpa [close, release, spared] using busy

theorem hungUp (callers : Callers l) (exclusive : Exclusive l) (ticket : Nat) (npc player : Option Entity)
    (waiting : l.pending ticket = some (.finish npc player)) :
    Exclusive (l.apply (.hungUp ticket npc player)) := by
  have open_calls {t : Nat} {c : DialogueCall}
      (kept : (l.apply (.hungUp ticket npc player)).pending t = some c) :
      t ≠ ticket ∧ l.pending t = some c := by
    by_cases same : t = ticket
    next => simp [apply, close, release, closeDialogue, same] at kept
    next => exact ⟨same, by simpa [apply, close, release, closeDialogue, same] using kept⟩
  have talks {p : Entity} {dialogue : PlayerDialogueComp}
      (talking : (l.apply (.hungUp ticket npc player)).playerDialogue p = some dialogue) :
      some p ≠ player ∧ l.playerDialogue p = some dialogue := by
    by_cases same : some p = player
    next => simp [apply, closeDialogue, same] at talking
    next => exact ⟨same, by simpa [apply, close, release, closeDialogue, same] using talking⟩
  refine exclusive.shrink (fun _ _ kept => (open_calls kept).2) (fun _ _ talking => (talks talking).2)
    (fun _ npc => npc) ?_
  intro n is_npc busy still
  have not_npc : npc ≠ some n := by
    rintro rfl
    obtain ⟨-, -, own⟩ := exclusive.closing n ticket player waiting
    rcases still with ⟨d, part⟩ | ⟨t, c, kept, ends⟩
    · cases part with
      | requested t c kept talks' =>
          obtain ⟨-, before⟩ := open_calls kept
          obtain ⟨p, -, same⟩ := own _ (.requested t c before talks')
          cases same
      | opened p partner =>
          simp only [Ledger.partner, Option.bind_eq_bind, Option.bind_some,
            Option.bind_eq_some_iff] at partner
          obtain ⟨dialogue, talking, named⟩ := partner
          obtain ⟨distinct, before⟩ := talks talking
          obtain ⟨q, rfl, same⟩ := own (.opened p) (.opened p (by simp [Ledger.partner, before, named]))
          exact distinct (congrArg some (Dialogue.opened.inj same))
    · obtain ⟨distinct, before⟩ := open_calls kept
      exact distinct (exclusive.once n t ticket ⟨c, before, ends⟩
        ⟨_, waiting, by simp [DialogueCall.ends]⟩)
  have not_player : player ≠ some n := by
    rintro rfl
    exact (callers ticket _ n waiting rfl).ne is_npc rfl
  simp [apply, close, release, closeDialogue, not_npc, not_player, busy]

theorem lost (exclusive : Exclusive l) (ticket : Nat) : Exclusive (l.close ticket) := by
  refine exclusive.shrink ?_ (fun _ _ talking => talking) (fun _ npc => npc)
    (fun _ _ busy _ => busy)
  intro t call kept
  by_cases same : t = ticket
  next => simp [close, same] at kept
  next => simpa [close, same] using kept

theorem strike (exclusive : Exclusive l) (victim : Entity)
    (free : ∀ d, ¬l.TakesPart victim d) (quiet : ∀ ticket, ¬l.Ends victim ticket) :
    Exclusive (l.release [victim]) := by
  refine exclusive.shrink (fun _ _ waiting => waiting) (fun _ _ talking => talking)
    (fun _ npc => npc) ?_
  intro n npc busy still
  have other : n ≠ victim := by
    rintro rfl
    rcases still with ⟨d, part⟩ | ⟨ticket, ends⟩
    · cases part with
      | requested t c waiting talks => exact free _ (.requested t c waiting talks)
      | opened p partner => exact free _ (.opened p partner)
    · exact quiet ticket ends
  simpa [release, other] using busy

theorem wait (exclusive : Exclusive l) (e : Entity) (free : l.reason e = none) :
    Exclusive (l.apply (.wait e)) := by
  refine exclusive.shrink (fun _ _ waiting => waiting) (fun _ _ talking => talking)
    (fun _ npc => npc) ?_
  intro n npc busy _
  have other : n ≠ e := by
    rintro rfl
    simp [free] at busy
  simpa [apply, other] using busy

theorem request (exclusive : Exclusive l) (ticket : Nat) (es : List Entity) (call : DialogueCall)
    (starts : ∀ npc player, call ≠ .finish npc player)
    (free : ∀ n, call.talksWith n = true → l.IsNpc n ∧ l.reason n = none ∧ n ∈ es) :
    Exclusive ((l.engage es).call ticket call) := by
  have before {t : Nat} {c : DialogueCall} (other : t ≠ ticket)
      (waiting : ((l.engage es).call ticket call).pending t = some c) : l.pending t = some c := by
    simpa [Ledger.call, engage, other] using waiting
  have newest {c : DialogueCall}
      (waiting : ((l.engage es).call ticket call).pending ticket = some c) : call = c := by
    simpa [Ledger.call, engage] using waiting
  have parts {n : Entity} {d : Dialogue} (part : ((l.engage es).call ticket call).TakesPart n d) :
      l.TakesPart n d ∨ d = .requested ticket ∧ call.talksWith n = true := by
    cases part with
    | requested t c waiting talks =>
        by_cases same : t = ticket
        next =>
          subst same
          obtain rfl := newest waiting
          exact .inr ⟨rfl, talks⟩
        next => exact .inl (.requested t c (before same waiting) talks)
    | opened player partner => exact .inl (.opened player partner)
  have idle {n : Entity} {d : Dialogue} (part : l.TakesPart n d) : call.talksWith n ≠ true := by
    intro talks
    have busy := exclusive.engaged n d part
    simp [(free n talks).2.1] at busy
  have ending {n : Entity} {t : Nat} (ends : ((l.engage es).call ticket call).Ends n t) :
      l.Ends n t := by
    obtain ⟨c, waiting, named⟩ := ends
    by_cases same : t = ticket
    next =>
      subst same
      obtain rfl := newest waiting
      cases call with
      | finish npc player => exact (starts npc player rfl).elim
      | group members => cases named
      | start npc player => cases named
    next => exact ⟨c, before same waiting, named⟩
  constructor
  case npcs =>
    intro n d part
    rcases parts part with old | ⟨-, talks⟩
    · exact exclusive.npcs n d old
    · exact (free n talks).1
  case engaged =>
    intro n d part
    by_cases member : n ∈ es
    next => simp [Ledger.call, engage, member]
    next =>
      rcases parts part with old | ⟨-, talks⟩
      · simpa [Ledger.call, engage, member] using exclusive.engaged n d old
      · exact absurd (free n talks).2.2 member
  case single =>
    intro n d d' part part'
    rcases parts part with old | ⟨rfl, talks⟩ <;> rcases parts part' with old' | ⟨rfl, talks'⟩
    · exact exclusive.single n d d' old old'
    · exact absurd talks' (idle old)
    · exact absurd talks (idle old')
    · rfl
  case closing =>
    intro n t player waiting
    have other : t ≠ ticket := by
      rintro rfl
      exact starts _ _ (newest waiting)
    obtain ⟨npc, busy, own⟩ := exclusive.closing n t player (before other waiting)
    refine ⟨npc, ?_, ?_⟩
    · by_cases member : n ∈ es
      next => simp [Ledger.call, engage, member]
      next => simpa [Ledger.call, engage, member] using busy
    · intro d part
      rcases parts part with old | ⟨-, talks⟩
      · exact own d old
      · simp [(free n talks).2.1] at busy
  case once => exact fun n t t' ends ends' => exclusive.once n t t' (ending ends) (ending ends')

theorem talk (roster : Roster l) (exclusive : Exclusive l) (ticket : Nat) (npc player : Entity)
    (enabled : l.Enabled (.talk ticket npc player)) :
    Exclusive (l.apply (.talk ticket npc player)) := by
  obtain ⟨-, untagged, free, ⟨id, indexed⟩, -⟩ := enabled
  obtain ⟨valid, -, solid⟩ := roster.indexed id npc indexed
  refine exclusive.request ticket _ _ (by simp) fun n talks => ?_
  obtain rfl : npc = n := by simpa [DialogueCall.talksWith] using talks
  exact ⟨⟨valid, solid, untagged⟩, free, by simp⟩

theorem form (roster : Roster l) (exclusive : Exclusive l) (ticket : Nat) (members : List Entity)
    (enabled : l.Enabled (.form ticket members)) : Exclusive (l.apply (.form ticket members)) := by
  refine exclusive.request ticket members _ (by simp) fun n talks => ?_
  have member : n ∈ members := by simpa [DialogueCall.talksWith] using talks
  obtain ⟨valid, active, untagged, free⟩ := enabled.2 n member
  have solid : l.furniture n = false := by
    by_contra furniture
    have inactive := (roster.furnished n (by simpa using furniture)).1
    simp [active] at inactive
  exact ⟨⟨valid, solid, untagged⟩, free, member⟩

theorem opened (exclusive : Exclusive l) (ticket : Nat) (npc player : Entity) (sessionId : UInt64)
    (waiting : l.pending ticket = some (.start npc player)) :
    Exclusive (l.apply (.opened ticket npc player sessionId)) := by
  by_cases valid : l.valid player = true
  swap
  · have same : l.apply (.opened ticket npc player sessionId) = l.close ticket := by
      simp [apply, openDialogue, close, valid]
    rw [same]
    exact exclusive.lost ticket
  have applied : l.apply (.opened ticket npc player sessionId) =
      { l.close ticket with
        playerDialogue := Function.update l.playerDialogue player (some ⟨sessionId, some npc⟩) } := by
    simp [apply, openDialogue, close, valid]
  rw [applied]
  clear applied
  set l' : Ledger := { l.close ticket with
    playerDialogue := Function.update l.playerDialogue player (some ⟨sessionId, some npc⟩) }
  have started : l.TakesPart npc (.requested ticket) :=
    .requested ticket _ waiting (by simp [DialogueCall.talksWith])
  have open_calls {t : Nat} {c : DialogueCall} (kept : l'.pending t = some c) :
      t ≠ ticket ∧ l.pending t = some c := by
    by_cases same : t = ticket
    next => simp [l', close, same] at kept
    next => exact ⟨same, by simpa [l', close, same] using kept⟩
  have parts {n : Entity} {d : Dialogue} (part : l'.TakesPart n d) :
      l.TakesPart n d ∧ d ≠ .requested ticket ∨ n = npc ∧ d = .opened player := by
    cases part with
    | requested t c kept talks =>
        obtain ⟨other, before⟩ := open_calls kept
        exact .inl ⟨.requested t c before talks, fun same => other (Dialogue.requested.inj same)⟩
    | opened p partner =>
        by_cases same : p = player
        next =>
          subst same
          have named : npc = n := by simpa [l', Ledger.partner] using partner
          exact .inr ⟨named.symm, rfl⟩
        next =>
          refine .inl ⟨.opened p ?_, by simp⟩
          simpa [l', Ledger.partner, close, same] using partner
  have alone {d : Dialogue} (part : l.TakesPart npc d ∧ d ≠ .requested ticket) : False :=
    part.2 (exclusive.single npc _ _ part.1 started)
  constructor
  case npcs =>
    intro n d part
    rcases parts part with ⟨old, -⟩ | ⟨rfl, -⟩
    · exact exclusive.npcs n d old
    · exact exclusive.npcs n _ started
  case engaged =>
    intro n d part
    rcases parts part with ⟨old, -⟩ | ⟨rfl, -⟩
    · exact exclusive.engaged n d old
    · exact exclusive.engaged n _ started
  case single =>
    intro n d d' part part'
    rcases parts part with old | ⟨rfl, rfl⟩ <;> rcases parts part' with old' | ⟨same, rfl⟩
    · exact exclusive.single n d d' old.1 old'.1
    · subst same
      exact (alone old).elim
    · exact (alone old').elim
    · rfl
  case closing =>
    intro n t p kept
    obtain ⟨npc', busy, own⟩ := exclusive.closing n t p (open_calls kept).2
    refine ⟨npc', busy, fun d part => ?_⟩
    rcases parts part with ⟨old, -⟩ | ⟨rfl, -⟩
    · exact own d old
    · obtain ⟨_, -, same⟩ := own _ started
      cases same
  case once =>
    rintro n t t' ⟨c, kept, ends⟩ ⟨c', kept', ends'⟩
    exact exclusive.once n t t' ⟨c, (open_calls kept).2, ends⟩ ⟨c', (open_calls kept').2, ends'⟩

theorem hangUp (exclusive : Exclusive l) (ticket : Nat) (player : Option Entity)
    (quiet : ∀ n, l.partner player = some n → ∀ ticket, ¬l.Ends n ticket) :
    Exclusive (l.apply (.hangUp ticket player)) := by
  have calls {t : Nat} {c : DialogueCall}
      (waiting : (l.apply (.hangUp ticket player)).pending t = some c) :
      t = ticket ∧ c = .finish (l.partner player) player ∨ t ≠ ticket ∧ l.pending t = some c := by
    by_cases same : t = ticket
    next => exact .inl ⟨same, by simpa [apply, Ledger.call, same, eq_comm] using waiting⟩
    next => exact .inr ⟨same, by simpa [apply, Ledger.call, same] using waiting⟩
  have parts {n : Entity} {d : Dialogue}
      (part : (l.apply (.hangUp ticket player)).TakesPart n d) : l.TakesPart n d := by
    cases part with
    | requested t c waiting talks =>
        rcases calls waiting with ⟨-, rfl⟩ | ⟨-, before⟩
        · cases talks
        · exact .requested t c before talks
    | opened p partner => exact .opened p partner
  constructor
  case npcs => exact fun n d part => exclusive.npcs n d (parts part)
  case engaged => exact fun n d part => exclusive.engaged n d (parts part)
  case single => exact fun n d d' part part' => exclusive.single n d d' (parts part) (parts part')
  case closing =>
    intro n t p waiting
    rcases calls waiting with ⟨-, same⟩ | ⟨-, before⟩
    · obtain ⟨partner, rfl⟩ := DialogueCall.finish.inj same
      cases p with
      | none => cases partner
      | some p =>
          have talking : l.TakesPart n (.opened p) := .opened p partner.symm
          refine ⟨exclusive.npcs n _ talking, exclusive.engaged n _ talking, fun d part => ?_⟩
          exact ⟨p, rfl, exclusive.single n _ _ (parts part) talking⟩
    · obtain ⟨npc, busy, own⟩ := exclusive.closing n t p before
      exact ⟨npc, busy, fun d part => own d (parts part)⟩
  case once =>
    have newest {n : Entity} {c : DialogueCall} (same : c = .finish (l.partner player) player)
        (ends : c.ends n = true) : l.partner player = some n := by
      simpa [same, DialogueCall.ends] using ends
    rintro n t t' ⟨c, waiting, ends⟩ ⟨c', waiting', ends'⟩
    rcases calls waiting with ⟨here, same⟩ | ⟨-, before⟩ <;>
      rcases calls waiting' with ⟨here', same'⟩ | ⟨-, before'⟩
    · exact here.trans here'.symm
    · exact absurd ⟨c', before', ends'⟩ (quiet n (newest same ends) t')
    · exact absurd ⟨c, before, ends⟩ (quiet n (newest same' ends') t)
    · exact exclusive.once n t t' ⟨c, before, ends⟩ ⟨c', before', ends'⟩

end Exclusive

/-- Nothing frees an NPC that is engaged in a dialogue which goes on. -/
def Undisturbed (l : Ledger) : Act → Prop
  | .strike victim => (∀ d, ¬l.TakesPart victim d) ∧ ∀ ticket, ¬l.Ends victim ticket
  | .hangUp _ player => ∀ n, l.partner player = some n → ∀ ticket, ¬l.Ends n ticket
  | .leave player _ => ∀ n, l.partner (some player) = some n → ∀ ticket, ¬l.Ends n ticket
  | _ => True

theorem Exclusive.act {l : Ledger} (roster : Roster l) (callers : Callers l)
    (exclusive : Exclusive l) (a : Act)
    (enabled : l.Enabled a) (undisturbed : l.Undisturbed a) : Exclusive (l.apply a) := by
  cases a with
  | enlist session id => exact exclusive.enlist roster session id enabled
  | rejoin session old e => exact exclusive.rejoin roster session old e enabled
  | leave player tag => exact exclusive.leave roster player tag enabled undisturbed
  | talk ticket npc player => exact exclusive.talk roster ticket npc player enabled
  | form ticket members => exact exclusive.form roster ticket members enabled
  | opened ticket npc player sessionId => exact exclusive.opened ticket npc player sessionId enabled
  | refused ticket npc player =>
      refine exclusive.dismiss ticket _ enabled [npc, player] fun e member => ?_
      rcases List.mem_pair.mp member with rfl | rfl
      · exact .inl (by simp [DialogueCall.talksWith])
      · exact .inr (callers ticket _ e enabled rfl)
  | hangUp ticket player => exact exclusive.hangUp ticket player undisturbed
  | hungUp ticket npc player => exact exclusive.hungUp callers ticket npc player enabled
  | dispersed ticket members =>
      exact exclusive.dismiss ticket _ enabled members fun e member =>
        .inl (by simpa [DialogueCall.talksWith] using member)
  | lost ticket => exact exclusive.lost ticket
  | strike victim => exact exclusive.strike victim undisturbed.1 undisturbed.2
  | wait e => exact exclusive.wait e enabled.2.2

theorem Initial.silence {l : Ledger} (initial : Initial l) (n : Entity) (d : Dialogue) :
    ¬l.TakesPart n d := by
  rintro (⟨ticket, call, waiting, -⟩ | ⟨player, partner⟩)
  · simp [initial.quiet ticket] at waiting
  · simp [Ledger.partner, initial.silent player] at partner

theorem Initial.exclusive {l : Ledger} (initial : Initial l) : Exclusive l where
  npcs := fun n d part => absurd part (initial.silence n d)
  engaged := fun n d part => absurd part (initial.silence n d)
  single := fun n d _ part => absurd part (initial.silence n d)
  closing := fun _ ticket _ waiting => by simp [initial.quiet ticket] at waiting
  once := fun _ ticket _ ends => by
    obtain ⟨call, waiting, -⟩ := ends
    simp [initial.quiet ticket] at waiting

end Ledger

end MundusVivens
