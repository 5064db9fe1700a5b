import MundusVivens.Dialogue.Exclusive

set_option autoImplicit false

/-!
# Who will release an NPC

An NPC in a dialogue is accounted for by a pending dialogue call or by the open
dialogue of a player. An account ends when its call is answered or given up, or
when the dialogue component is replaced or erased; nothing looks whether the NPC
has another one.
-/

namespace MundusVivens.Ledger

-- What will release the NPC.
inductive Accounts (l : Ledger) (n : Entity) : Dialogue → Prop where
  | requested (ticket : Nat) (call : DialogueCall) (pending : l.pending ticket = some call)
      (member : n ∈ call.npcs) : Accounts l n (.requested ticket)
  | opened (player : Entity) (tagged : (l.playerTag player).isSome)
      (partner : l.partner (some player) = some n) : Accounts l n (.opened player)

def IsEngaged (l : Ledger) (n : Entity) : Prop :=
  l.playerTag n = none ∧ l.reason n = some .dialogue

def Accounted (l : Ledger) : Prop := ∀ n, l.IsEngaged n → ∃ d, l.Accounts n d

-- The NPC need not be released, or something else will release it.
def Outlives (l : Ledger) (n : Entity) (gone : List Dialogue) : Prop :=
  l.IsEngaged n → ∃ d ∉ gone, l.Accounts n d

def Watched (l : Ledger) : Act → Prop
  | .opened ticket npc player _ => ∀ n,
      (l.valid player = true → n ≠ npc → l.partner (some player) = some n →
        l.Outlives n [.requested ticket, .opened player]) ∧
      (l.valid player = false → n = npc → l.Outlives n [.requested ticket])
  | .hungUp ticket npc player => ∀ n, npc ≠ some n → l.partner player = some n →
      l.Outlives n (.requested ticket :: (player.map .opened).toList)
  | .lost ticket => ∀ call, l.pending ticket = some call → ∀ n ∈ call.npcs,
      l.Outlives n [.requested ticket]
  | _ => True

variable {l l' : Ledger}

theorem Accounts.frame {n : Entity} {d : Dialogue} (accounts : l.Accounts n d)
    (pending : l'.pending = l.pending) (tags : l'.playerTag = l.playerTag)
    (dialogues : l'.playerDialogue = l.playerDialogue) : l'.Accounts n d := by
  cases accounts with
  | requested ticket call waiting member =>
      exact .requested ticket call (by rw [pending, waiting]) member
  | opened player tagged partner =>
      refine .opened player (by rwa [tags]) ?_
      simpa only [Ledger.partner, dialogues] using partner

theorem Accounts.close {n : Entity} {d : Dialogue} (accounts : l.Accounts n d) (ticket : Nat)
    (lasts : d ≠ .requested ticket) : (l.close ticket).Accounts n d := by
  cases accounts with
  | requested t c pending member =>
      have other : t ≠ ticket := fun same => lasts (by rw [same])
      exact .requested t c (by simpa [Ledger.close, other] using pending) member
  | opened player tagged partner => exact .opened player tagged partner

namespace Accounted

-- The accounts in `gone` are over; an NPC that had one is free or has another account.
theorem settle (accounted : Accounted l) (gone : List Dialogue)
    (lasting : ∀ n d, l.Accounts n d → d ∉ gone → l'.Accounts n d)
    (settled : ∀ n, l'.IsEngaged n → (∃ d, l'.Accounts n d) ∨
      l.IsEngaged n ∧ ∀ d ∈ gone, l.Accounts n d → l.Outlives n gone) : Accounted l' := by
  intro n engaged
  rcases settled n engaged with found | ⟨before, others⟩
  · exact found
  · obtain ⟨d, accounts⟩ := accounted n before
    by_cases isGone : d ∈ gone
    next =>
      obtain ⟨d', lasts, accounts'⟩ := others d isGone accounts before
      exact ⟨d', lasting n d' accounts' lasts⟩
    next => exact ⟨d, lasting n d accounts isGone⟩

theorem keep (accounted : Accounted l)
    (lasting : ∀ n d, l.Accounts n d → l'.Accounts n d)
    (settled : ∀ n, l'.IsEngaged n → (∃ d, l'.Accounts n d) ∨ l.IsEngaged n) : Accounted l' :=
  accounted.settle [] (fun n d accounts _ => lasting n d accounts) fun n engaged =>
    (settled n engaged).imp id fun before => ⟨before, by simp⟩

theorem upkeep (roster : Roster l) (accounted : Accounted l) (kept : Upkeep l l') :
    Accounted l' := by
  cases kept with
  | furnish id =>
      refine accounted.keep ?_ ?_
      · intro n d accounts
        cases accounts with
        | requested ticket call pending member => exact .requested ticket call pending member
        | opened player tagged partner =>
            have old : player ≠ l.nextEntity := Nat.ne_of_lt (roster.below (roster.tagged_valid tagged))
            exact .opened player (by simpa [furnish, create, destroy, old] using tagged)
              (by simpa [Ledger.partner, furnish, create, destroy, old] using partner)
      · intro n engaged
        by_cases same : n = l.nextEntity
        next => simp [IsEngaged, furnish, create, destroy, same] at engaged
        next => exact .inr (by simpa [IsEngaged, furnish, create, destroy, same] using engaged)
  | demolish x furniture =>
      have untagged := (roster.furnished x furniture).2
      refine accounted.keep ?_ ?_
      · intro n d accounts
        cases accounts with
        | requested ticket call pending member => exact .requested ticket call pending member
        | opened player tagged partner =>
            have other : player ≠ x := by
              rintro rfl
              simp [untagged] at tagged
            exact .opened player (by simpa [destroy, other] using tagged)
              (by simpa [Ledger.partner, destroy, other] using partner)
      · intro n engaged
        by_cases same : n = x
        next => simp [IsEngaged, destroy, same] at engaged
        next => exact .inr (by simpa [IsEngaged, destroy, same] using engaged)
  | resume x waiting =>
      refine accounted.keep (fun _ _ accounts => accounts.frame rfl rfl rfl) ?_
      rintro n ⟨untagged, busy⟩
      by_cases same : n = x
      next => simp [release, same] at busy
      next => exact .inr ⟨untagged, by simpa [release, same] using busy⟩

theorem enlist (roster : Roster l) (accounted : Accounted l) (session id : UInt32) :
    Accounted (l.apply (.enlist session id)) := by
  refine accounted.keep ?_ ?_
  · intro n d accounts
    cases accounts with
    | requested ticket call pending member => exact .requested ticket call pending member
    | opened player tagged partner =>
        have old : player ≠ l.nextEntity := Nat.ne_of_lt (roster.below (roster.tagged_valid tagged))
        exact .opened player (by simpa [apply, create, destroy, old] using tagged)
          (by simpa [Ledger.partner, apply, create, destroy, old] using partner)
  · intro n engaged
    by_cases same : n = l.nextEntity
    next => simp [IsEngaged, apply, same] at engaged
    next => exact .inr (by simpa [IsEngaged, apply, create, destroy, same] using engaged)

theorem rejoin (accounted : Accounted l) (session : UInt32) (old : PlayerTag) (e : Entity) :
    Accounted (l.apply (.rejoin session old e)) := by
  refine accounted.keep ?_ ?_
  · intro n d accounts
    cases accounts with
    | requested ticket call pending member => exact .requested ticket call pending member
    | opened player tagged partner =>
        refine .opened player ?_ partner
        by_cases same : player = e
        next => simp [apply, same]
        next => simpa [apply, same] using tagged
  · rintro n ⟨untagged, busy⟩
    by_cases same : n = e
    next => simp [apply, same] at untagged
    next => exact .inr ⟨by simpa [apply, same] using untagged, busy⟩

theorem leave (accounted : Accounted l) (player : Entity) (tag : PlayerTag) :
    Accounted (l.apply (.leave player tag)) := by
  refine accounted.settle [.opened player] ?_ ?_
  · intro n d accounts lasts
    cases accounts with
    | requested ticket call pending member => exact .requested ticket call pending member
    | opened p tagged partner =>
        have other : p ≠ player := by
          rintro rfl
          simp at lasts
        exact .opened p (by simpa [apply, destroy, release, other] using tagged)
          (by simpa [Ledger.partner, apply, destroy, release, other] using partner)
  · intro n engaged
    have other : n ≠ player := by
      rintro rfl
      simp [IsEngaged, apply, destroy] at engaged
    obtain ⟨untagged, stays, busy⟩ : l.playerTag n = none ∧ l.partner (some player) ≠ some n ∧
        l.reason n = some .dialogue := by
      simpa [IsEngaged, apply, destroy, release, other] using engaged
    refine .inr ⟨⟨untagged, busy⟩, fun d isGone accounts => ?_⟩
    obtain rfl := List.mem_singleton.mp isGone
    cases accounts with
    | opened p tagged partner => exact absurd partner stays

theorem request (accounted : Accounted l) (ticket : Nat) (es : List Entity) (call : DialogueCall)
    (fresh : l.pending ticket = none)
    (named : ∀ e ∈ es, e ∈ call.npcs ∨ (l.playerTag e).isSome) :
    Accounted ((l.engage es).call ticket call) := by
  refine accounted.keep ?_ ?_
  · intro n d accounts
    cases accounts with
    | requested t c pending member =>
        have other : t ≠ ticket := by
          rintro rfl
          simp [fresh] at pending
        exact .requested t c (by simpa [Ledger.call, engage, other] using pending) member
    | opened player tagged partner => exact .opened player tagged partner
  · rintro n ⟨untagged, busy⟩
    have plain : l.playerTag n = none := untagged
    by_cases member : n ∈ es
    next =>
      rcases named n member with npc | tagged
      · exact .inl ⟨_, .requested ticket call (by simp [Ledger.call]) npc⟩
      · simp [plain] at tagged
    next => exact .inr ⟨untagged, by simpa [Ledger.call, engage, member] using busy⟩

theorem lost (accounted : Accounted l) (ticket : Nat) (watched : l.Watched (.lost ticket)) :
    Accounted (l.close ticket) := by
  refine accounted.settle [.requested ticket] ?_ ?_
  · exact fun n d accounts lasts => accounts.close ticket (by simpa using lasts)
  · intro n engaged
    refine .inr ⟨engaged, fun d isGone accounts => ?_⟩
    obtain rfl := List.mem_singleton.mp isGone
    cases accounts with
    | requested t call pending member => exact watched call pending n member

theorem dismiss (accounted : Accounted l) (ticket : Nat) (es : List Entity)
    (freed : ∀ call, l.pending ticket = some call → ∀ n ∈ call.npcs, n ∈ es) :
    Accounted ((l.close ticket).release es) := by
  refine accounted.settle [.requested ticket] ?_ ?_
  · intro n d accounts lasts
    exact (accounts.close ticket (by simpa using lasts)).frame rfl rfl rfl
  · rintro n ⟨untagged, busy⟩
    have kept : n ∉ es ∧ l.reason n = some .dialogue := by
      by_cases member : n ∈ es
      next => simp [release, member] at busy
      next => exact ⟨member, by simpa [release, close, member] using busy⟩
    refine .inr ⟨⟨untagged, kept.2⟩, fun d isGone accounts => ?_⟩
    obtain rfl := List.mem_singleton.mp isGone
    cases accounts with
    | requested t call pending member => exact absurd (freed call pending n member) kept.1

theorem opened (callers : Callers l) (accounted : Accounted l) (ticket : Nat) (npc player : Entity)
    (sessionId : UInt64) (waiting : l.pending ticket = some (.start npc player))
    (watched : l.Watched (.opened ticket npc player sessionId)) :
    Accounted (l.apply (.opened ticket npc player sessionId)) := by
  have called {n : Entity} (accounts : l.Accounts n (.requested ticket)) : n = npc := by
    cases accounts with
    | requested t call pending member =>
        obtain rfl := Option.some.inj (waiting.symm.trans pending)
        exact List.mem_singleton.mp member
  by_cases valid : l.valid player = true
  next =>
    have applied : l.apply (.opened ticket npc player sessionId) =
        { l.close ticket with
          playerDialogue := Function.update l.playerDialogue player (some ⟨sessionId, some npc⟩) } := by
      simp [apply, openDialogue, close, valid]
    rw [applied]
    refine accounted.settle [.requested ticket, .opened player] ?_ ?_
    · intro n d accounts lasts
      obtain ⟨unanswered, otherwise⟩ : d ≠ .requested ticket ∧ d ≠ .opened player := by
        simpa using lasts
      cases accounts.close ticket unanswered with
      | requested t c pending member => exact .requested t c pending member
      | opened p tagged partner =>
          have other : p ≠ player := fun same => otherwise (by rw [same])
          exact .opened p tagged (by simpa [Ledger.partner, close, other] using partner)
    · intro n engaged
      by_cases same : n = npc
      next =>
        subst same
        have tagged := (callers ticket _ player waiting rfl).2 valid
        exact .inl ⟨_, .opened player tagged (by simp [Ledger.partner])⟩
      next =>
        refine .inr ⟨engaged, fun d isGone accounts => ?_⟩
        rcases List.mem_pair.mp isGone with rfl | rfl
        · exact absurd (called accounts) same
        · cases accounts with
          | opened p tagged partner => exact (watched n).1 valid same partner
  next =>
    have applied : l.apply (.opened ticket npc player sessionId) = l.close ticket := by
      simp [apply, openDialogue, close, valid]
    rw [applied]
    refine accounted.lost ticket fun call pending n member => ?_
    obtain rfl := Option.some.inj (waiting.symm.trans pending)
    exact (watched n).2 (by simpa using valid) (List.mem_singleton.mp member)

theorem hangUp (accounted : Accounted l) (ticket : Nat) (player : Option Entity)
    (fresh : l.pending ticket = none) : Accounted (l.apply (.hangUp ticket player)) := by
  refine accounted.keep ?_ (fun _ engaged => .inr engaged)
  intro n d accounts
  cases accounts with
  | requested t c pending member =>
      have other : t ≠ ticket := by
        rintro rfl
        simp [fresh] at pending
      exact .requested t c (by simpa [apply, Ledger.call, other] using pending) member
  | opened p tagged partner => exact .opened p tagged partner

theorem hungUp (accounted : Accounted l) (ticket : Nat) (npc player : Option Entity)
    (waiting : l.pending ticket = some (.finish npc player))
    (watched : l.Watched (.hungUp ticket npc player)) :
    Accounted (l.apply (.hungUp ticket npc player)) := by
  refine accounted.settle (.requested ticket :: (player.map .opened).toList) ?_ ?_
  · intro n d accounts lasts
    obtain ⟨unanswered, otherwise⟩ : d ≠ .requested ticket ∧ player.map .opened ≠ some d := by
      simpa [eq_comm] using lasts
    cases accounts.close ticket unanswered with
    | requested t c pending member => exact .requested t c pending member
    | opened p tagged partner =>
        have other : some p ≠ player := by
          rintro rfl
          exact otherwise rfl
        exact .opened p tagged (by
          simpa [Ledger.partner, apply, closeDialogue, release, close, other] using partner)
  · rintro n ⟨untagged, busy⟩
    have kept : npc ≠ some n ∧ l.reason n = some .dialogue := by
      by_cases released : npc = some n
      next => simp [apply, closeDialogue, release, released] at busy
      next =>
        simp only [apply, closeDialogue, release, close, Option.ite_none_left_eq_some] at busy
        exact ⟨released, busy.2⟩
    refine .inr ⟨⟨untagged, kept.2⟩, fun d isGone accounts => ?_⟩
    rcases List.mem_cons.mp isGone with rfl | opened
    · cases accounts with
      | requested t call pending member =>
          obtain rfl := Option.some.inj (waiting.symm.trans pending)
          exact absurd (Option.mem_toList.mp member) kept.1
    · obtain ⟨p, rfl, rfl⟩ : ∃ p, player = some p ∧ .opened p = d := by
        simpa [Option.mem_toList] using opened
      cases accounts with
      | opened p tagged partner => exact watched n kept.1 partner

end Accounted

theorem Accounted.act {l : Ledger} (roster : Roster l) (callers : Callers l)
    (accounted : Accounted l) (a : Act) (enabled : l.Enabled a) (watched : l.Watched a) :
    Accounted (l.apply a) := by
  cases a with
  | enlist session id => exact accounted.enlist roster session id
  | rejoin session old e => exact accounted.rejoin session old e
  | leave player tag => exact accounted.leave player tag
  | talk ticket npc player =>
      obtain ⟨fresh, -, -, -, session, bound⟩ := enabled
      refine accounted.request ticket _ _ fresh fun e member => ?_
      rcases List.mem_pair.mp member with rfl | rfl
      · exact .inl (by simp [DialogueCall.npcs])
      · exact .inr (by simp [roster.bound session e bound])
  | form ticket members =>
      exact accounted.request ticket members _ enabled.1 fun e member => .inl member
  | opened ticket npc player sessionId =>
      exact accounted.opened callers ticket npc player sessionId enabled watched
  | refused ticket npc player =>
      refine accounted.dismiss ticket _ fun call pending n member => ?_
      have waiting : l.pending ticket = some (.start npc player) := enabled
      obtain rfl := Option.some.inj (waiting.symm.trans pending)
      simp [List.mem_singleton.mp member]
  | hangUp ticket player => exact accounted.hangUp ticket player enabled.1
  | hungUp ticket npc player => exact accounted.hungUp ticket npc player enabled watched
  | dispersed ticket members =>
      refine accounted.dismiss ticket _ fun call pending n member => ?_
      have waiting : l.pending ticket = some (.group members) := enabled
      obtain rfl := Option.some.inj (waiting.symm.trans pending)
      exact member
  | lost ticket => exact accounted.lost ticket watched
  | strike victim =>
      refine accounted.keep (fun _ _ accounts => accounts.frame rfl rfl rfl) ?_
      rintro n ⟨untagged, busy⟩
      by_cases same : n = victim
      next => simp [apply, release, same] at busy
      next => exact .inr ⟨untagged, by simpa [apply, release, same] using busy⟩
  | wait e =>
      refine accounted.keep (fun _ _ accounts => accounts.frame rfl rfl rfl) ?_
      rintro n ⟨untagged, busy⟩
      by_cases same : n = e
      next => simp [apply, same] at busy
      next => exact .inr ⟨untagged, by simpa [apply, same] using busy⟩

theorem Initial.accounted {l : Ledger} (initial : Initial l) : Accounted l := by
  rintro n ⟨-, busy⟩
  simp [initial.idle n] at busy

end MundusVivens.Ledger
