import MundusVivens.Ledger.Initial

set_option autoImplicit false

namespace MundusVivens

def DialogueCall.player : DialogueCall → Option Entity
  | .group _ => none
  | .start _ player => some player
  | .finish _ player => player

namespace Ledger

def IsNpc (l : Ledger) (n : Entity) : Prop :=
  l.valid n = true ∧ l.furniture n = false ∧ l.playerTag n = none

-- A player, or what was one.
def IsCaller (l : Ledger) (p : Entity) : Prop :=
  p < l.nextEntity ∧ (l.valid p = true → (l.playerTag p).isSome)

theorem apply_people (l : Ledger) (a : Act) (other : a.isAccount = false) :
    (l.apply a).valid = l.valid ∧ (l.apply a).furniture = l.furniture := by
  cases a with
  | enlist session id => cases other
  | rejoin session old e => cases other
  | leave player tag => cases other
  | opened ticket npc player sessionId =>
      simp only [apply, openDialogue]
      split <;> exact ⟨rfl, rfl⟩
  | _ => exact ⟨rfl, rfl⟩

variable {l l' : Ledger} {n p : Entity}

theorem IsCaller.ne (caller : l.IsCaller p) (npc : l.IsNpc n) : n ≠ p := by
  rintro rfl
  have tagged := caller.2 npc.1
  simp [npc.2.2] at tagged

theorem IsCaller.of_bound (roster : Roster l) (session : UInt32)
    (bound : l.index.bySessionIndex session = some p) : l.IsCaller p := by
  have tagged : (l.playerTag p).isSome := by simp [roster.bound session p bound]
  exact ⟨roster.below (roster.tagged_valid tagged), fun _ => tagged⟩

theorem IsNpc.upkeep (roster : Roster l) (npc : l.IsNpc n) (kept : Upkeep l l') : l'.IsNpc n := by
  obtain ⟨valid, solid, untagged⟩ := npc
  cases kept with
  | furnish id =>
      have old : n ≠ l.nextEntity := Nat.ne_of_lt (roster.below valid)
      simp [IsNpc, furnish, create, destroy, old, valid, solid, untagged]
  | demolish x furniture =>
      have other : n ≠ x := by
        rintro rfl
        simp [furniture] at solid
      simp [IsNpc, destroy, other, valid, solid, untagged]
  | resume x waiting => exact ⟨valid, solid, untagged⟩

theorem IsNpc.act (roster : Roster l) (npc : l.IsNpc n) (a : Act) (enabled : l.Enabled a) :
    (l.apply a).IsNpc n := by
  by_cases account : a.isAccount = true
  next =>
    obtain ⟨valid, solid, untagged⟩ := npc
    cases a with
    | enlist session id =>
        have old : n ≠ l.nextEntity := Nat.ne_of_lt (roster.below valid)
        simp [IsNpc, apply, create, destroy, old, valid, solid, untagged]
    | rejoin session old e =>
        have other : n ≠ e := by
          rintro rfl
          simp [enabled.1] at untagged
        simp [IsNpc, apply, other, valid, solid, untagged]
    | leave player tag =>
        have tagged : l.playerTag player = some tag := enabled
        have other : n ≠ player := by
          rintro rfl
          simp [tagged] at untagged
        simp [IsNpc, apply, destroy, release, other, valid, solid, untagged]
    | _ => cases account
  next =>
    obtain ⟨valid, furniture⟩ := l.apply_people a (by simpa using account)
    obtain ⟨-, -, tags, -⟩ := l.apply_accounts a (by simpa using account)
    simpa only [IsNpc, valid, furniture, tags] using npc

theorem IsCaller.upkeep (caller : l.IsCaller p) (kept : Upkeep l l') :
    l'.IsCaller p := by
  obtain ⟨early, tagged⟩ := caller
  cases kept with
  | furnish id =>
      have old : p ≠ l.nextEntity := Nat.ne_of_lt early
      refine ⟨Nat.lt_succ_of_lt early, ?_⟩
      simpa [furnish, create, destroy, old] using tagged
  | demolish x furniture =>
      refine ⟨early, ?_⟩
      by_cases same : p = x
      next => simp [destroy, same]
      next => simpa [destroy, same] using tagged
  | resume x waiting => exact ⟨early, tagged⟩

theorem IsCaller.act (caller : l.IsCaller p) (a : Act) : (l.apply a).IsCaller p := by
  by_cases account : a.isAccount = true
  next =>
    obtain ⟨early, tagged⟩ := caller
    cases a with
    | enlist session id =>
        have old : p ≠ l.nextEntity := Nat.ne_of_lt early
        refine ⟨Nat.lt_succ_of_lt early, ?_⟩
        simpa [apply, create, destroy, old] using tagged
    | rejoin session old e =>
        refine ⟨early, ?_⟩
        by_cases same : p = e
        next => simp [apply, same]
        next => simpa [apply, same] using tagged
    | leave player tag =>
        refine ⟨early, ?_⟩
        by_cases same : p = player
        next => simp [apply, destroy, same]
        next => simpa [apply, destroy, release, same] using tagged
    | _ => cases account
  next =>
    obtain ⟨valid, -⟩ := l.apply_people a (by simpa using account)
    obtain ⟨next, -, tags, -⟩ := l.apply_accounts a (by simpa using account)
    simpa only [IsCaller, next, valid, tags] using caller

def sends (l : Ledger) : Act → Option (Nat × DialogueCall)
  | .talk ticket npc player => some (ticket, .start npc player)
  | .form ticket members => some (ticket, .group members)
  | .hangUp ticket player => some (ticket, .finish (l.partner player) player)
  | _ => none

theorem apply_pending (a : Act) (ticket : Nat) (call : DialogueCall)
    (waiting : (l.apply a).pending ticket = some call) :
    l.pending ticket = some call ∨ l.sends a = some (ticket, call) := by
  have closed {closing : Nat}
      (kept : Function.update l.pending closing none ticket = some call) :
      l.pending ticket = some call := by
    by_cases same : ticket = closing
    next => simp [same] at kept
    next => simpa [same] using kept
  have called {issued : Nat} {request : DialogueCall}
      (kept : Function.update l.pending issued (some request) ticket = some call) :
      l.pending ticket = some call ∨ some (issued, request) = some (ticket, call) := by
    by_cases same : ticket = issued
    next => exact .inr (by simpa [same] using kept)
    next => exact .inl (by simpa [same] using kept)
  cases a with
  | talk issued npc player => exact called waiting
  | form issued members => exact called waiting
  | hangUp issued player => exact called waiting
  | opened closing npc player sessionId =>
      simp only [apply, openDialogue] at waiting
      split at waiting <;> exact .inl (closed waiting)
  | refused closing npc player => exact .inl (closed waiting)
  | hungUp closing npc player => exact .inl (closed waiting)
  | dispersed closing members => exact .inl (closed waiting)
  | lost closing => exact .inl (closed waiting)
  | _ => exact .inl waiting

-- Whom a dialogue call names as its player is or was one.
def Callers (l : Ledger) : Prop :=
  ∀ ticket call p, l.pending ticket = some call → call.player = some p → l.IsCaller p

theorem Callers.upkeep (callers : Callers l) (kept : Upkeep l l') : Callers l' := by
  intro ticket call p waiting named
  have before : l.pending ticket = some call := by
    cases kept <;> exact waiting
  exact (callers ticket call p before named).upkeep kept

theorem Callers.act (roster : Roster l) (callers : Callers l) (a : Act) (enabled : l.Enabled a) :
    Callers (l.apply a) := by
  intro ticket call p waiting named
  rcases apply_pending a ticket call waiting with before | sent
  · exact (callers ticket call p before named).act a
  · have bound : ∃ session, l.index.bySessionIndex session = some p := by
      cases a with
      | talk issued npc player =>
          obtain ⟨-, rfl⟩ := Prod.mk.inj (Option.some.inj sent)
          obtain rfl := Option.some.inj named
          exact enabled.2.2.2.2
      | hangUp issued player =>
          obtain ⟨-, rfl⟩ := Prod.mk.inj (Option.some.inj sent)
          exact enabled.2 p named
      | form issued members =>
          obtain ⟨-, rfl⟩ := Prod.mk.inj (Option.some.inj sent)
          cases named
      | _ => cases sent
    obtain ⟨session, bound⟩ := bound
    exact (IsCaller.of_bound roster session bound).act a

theorem Initial.callers (initial : Initial l) : Callers l :=
  fun ticket _ _ waiting => by simp [initial.quiet ticket] at waiting

end Ledger

end MundusVivens
