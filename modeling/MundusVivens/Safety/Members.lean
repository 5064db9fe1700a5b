import MundusVivens.Dialogue.Parties
import MundusVivens.Ledger.Simulation

set_option autoImplicit false

namespace MundusVivens

namespace Ledger

structure Peopled (l : Ledger) : Prop where
  named : ∀ e, l.valid e = true → (l.npcId e).isSome = true
  acting : ∀ e, l.active e = true → l.IsNpc e
  parties : ∀ ticket call n, l.pending ticket = some call → n ∈ call.npcs → l.IsNpc n
  partners : ∀ p dialogue n, l.playerDialogue p = some dialogue → dialogue.npcEntity = some n →
    l.IsNpc n

variable {l l' : Ledger} {n : Entity}

theorem partner_eq {player : Option Entity} (named : l.partner player = some n) :
    ∃ p dialogue, player = some p ∧ l.playerDialogue p = some dialogue ∧
      dialogue.npcEntity = some n := by
  cases player with
  | none => simp [partner] at named
  | some p =>
      cases talking : l.playerDialogue p with
      | none => simp [partner, talking] at named
      | some dialogue => exact ⟨p, dialogue, rfl, talking, by simpa [partner, talking] using named⟩

namespace Peopled

theorem upkeep (roster : Roster l) (peopled : Peopled l) (kept : Upkeep l l') : Peopled l' := by
  have stays (n : Entity) (npc : l.IsNpc n) : l'.IsNpc n := npc.upkeep roster kept
  have before : (∀ e, l'.active e = true → l.active e = true) ∧ l'.pending = l.pending ∧
      ∀ p dialogue, l'.playerDialogue p = some dialogue → l.playerDialogue p = some dialogue := by
    cases kept with
    | furnish id =>
        refine ⟨fun e acts => ?_, rfl, fun p dialogue talks => ?_⟩
        · by_cases same : e = l.nextEntity
          next => simp [furnish, create, destroy, same] at acts
          next => simpa [furnish, create, destroy, same] using acts
        · by_cases same : p = l.nextEntity
          next => simp [furnish, create, destroy, same] at talks
          next => simpa [furnish, create, destroy, same] using talks
    | demolish x furniture =>
        refine ⟨fun e acts => ?_, rfl, fun p dialogue talks => ?_⟩
        · by_cases same : e = x
          next => simp [destroy, same] at acts
          next => simpa [destroy, same] using acts
        · by_cases same : p = x
          next => simp [destroy, same] at talks
          next => simpa [destroy, same] using talks
    | resume x waiting => exact ⟨fun _ acts => acts, rfl, fun _ _ talks => talks⟩
  obtain ⟨acted, calls, talked⟩ := before
  constructor
  case named =>
    intro e valid
    cases kept with
    | furnish id =>
        by_cases same : e = l.nextEntity
        next => simp [furnish, same]
        next =>
          simpa [furnish, create, destroy, same] using
            peopled.named e (by simpa [furnish, create, destroy, same] using valid)
    | demolish x furniture =>
        by_cases same : e = x
        next => simp [destroy, same] at valid
        next => simpa [destroy, same] using peopled.named e (by simpa [destroy, same] using valid)
    | resume x waiting => exact peopled.named e valid
  case acting => exact fun e acts => stays e (peopled.acting e (acted e acts))
  case parties =>
    intro ticket call n waiting member
    exact stays n (peopled.parties ticket call n (by rw [← calls]; exact waiting) member)
  case partners =>
    intro p dialogue n talks named
    exact stays n (peopled.partners p dialogue n (talked p dialogue talks) named)

theorem apply_acting (a : Act) (e : Entity) (acts : (l.apply a).active e = true) :
    l.active e = true := by
  cases a with
  | enlist session id =>
      by_cases same : e = l.nextEntity
      next => simp [apply, create, destroy, same] at acts
      next => simpa [apply, create, destroy, same] using acts
  | leave player tag =>
      by_cases same : e = player
      next => simp [apply, destroy, same] at acts
      next => simpa [apply, destroy, release, same] using acts
  | opened ticket npc player sessionId =>
      simp only [apply, openDialogue] at acts
      split at acts <;> exact acts
  | _ => exact acts

theorem apply_named (peopled : Peopled l) (a : Act) (e : Entity)
    (valid : (l.apply a).valid e = true) : ((l.apply a).npcId e).isSome = true := by
  by_cases account : a.isAccount = true
  next =>
    cases a with
    | enlist session id =>
        by_cases same : e = l.nextEntity
        next => simp [apply, same]
        next =>
          simpa [apply, same] using
            peopled.named e (by simpa [apply, create, destroy, same] using valid)
    | rejoin session old player => exact peopled.named e valid
    | leave player tag =>
        by_cases same : e = player
        next => simp [apply, destroy, same] at valid
        next =>
          simpa [apply, destroy, release, same] using
            peopled.named e (by simpa [apply, destroy, release, same] using valid)
    | _ => cases account
  next =>
    obtain ⟨handles, -⟩ := l.apply_people a (by simpa using account)
    obtain ⟨-, numbers, -⟩ := l.apply_accounts a (by simpa using account)
    rw [numbers]
    rw [handles] at valid
    exact peopled.named e valid

theorem apply_parties (roster : Roster l) (peopled : Peopled l) (a : Act) (enabled : l.Enabled a)
    (ticket : Nat) (call : DialogueCall) (waiting : (l.apply a).pending ticket = some call)
    (member : n ∈ call.npcs) : l.IsNpc n := by
  rcases apply_pending a ticket call waiting with before | sent
  · exact peopled.parties ticket call n before member
  cases a with
  | talk issued npc player =>
      obtain ⟨-, rfl⟩ := Prod.mk.inj (Option.some.inj sent)
      obtain rfl := List.mem_singleton.mp member
      obtain ⟨-, untagged, -, ⟨id, indexed⟩, -⟩ := enabled
      obtain ⟨valid, -, solid⟩ := roster.indexed id n indexed
      exact ⟨valid, solid, untagged⟩
  | form issued members =>
      obtain ⟨-, rfl⟩ := Prod.mk.inj (Option.some.inj sent)
      exact peopled.acting n (enabled.2 n member).2.1
  | hangUp issued player =>
      obtain ⟨-, rfl⟩ := Prod.mk.inj (Option.some.inj sent)
      obtain ⟨p, dialogue, -, talks, named⟩ := partner_eq (Option.mem_toList.mp member)
      exact peopled.partners p dialogue n talks named
  | _ => cases sent

theorem apply_partners (peopled : Peopled l) (a : Act) (enabled : l.Enabled a) (p : Entity)
    (dialogue : PlayerDialogueComp) (talks : (l.apply a).playerDialogue p = some dialogue)
    (named : dialogue.npcEntity = some n) : l.IsNpc n := by
  have known (before : l.playerDialogue p = some dialogue) : l.IsNpc n :=
    peopled.partners p dialogue n before named
  cases a with
  | enlist session id =>
      by_cases same : p = l.nextEntity
      next => simp [apply, create, destroy, same] at talks
      next => exact known (by simpa [apply, create, destroy, same] using talks)
  | leave player tag =>
      by_cases same : p = player
      next => simp [apply, destroy, same] at talks
      next => exact known (by simpa [apply, destroy, release, same] using talks)
  | opened ticket npc player sessionId =>
      have party : l.IsNpc npc := peopled.parties ticket _ npc enabled (by simp [DialogueCall.npcs])
      simp only [apply, openDialogue] at talks
      split at talks
      next =>
        by_cases same : p = player
        next =>
          have opened : some ⟨sessionId, some npc⟩ = some dialogue := by simpa [same] using talks
          obtain rfl := Option.some.inj opened
          obtain rfl := Option.some.inj named
          exact party
        next => exact known (by simpa [same, close] using talks)
      next => exact known talks
  | hungUp ticket npc player =>
      by_cases same : some p = player
      next => simp [apply, closeDialogue, same] at talks
      next => exact known (by simpa [apply, closeDialogue, same, release, close] using talks)
  | _ => exact known talks

theorem act (roster : Roster l) (peopled : Peopled l) (a : Act) (enabled : l.Enabled a) :
    Peopled (l.apply a) where
  named := fun e valid => apply_named peopled a e valid
  acting := fun e acts => (peopled.acting e (apply_acting a e acts)).act roster a enabled
  parties := fun ticket call _ waiting member =>
    (apply_parties roster peopled a enabled ticket call waiting member).act roster a enabled
  partners := fun p dialogue _ talks named =>
    (apply_partners peopled a enabled p dialogue talks named).act roster a enabled

theorem appear (initial : Initial l) (peopled : Peopled l) (id : UInt32) (mapper : AgentIdMapper) :
    Peopled (l.appear id mapper) := by
  have stays (n : Entity) (npc : l.IsNpc n) : (l.appear id mapper).IsNpc n := by
    obtain ⟨valid, solid, untagged⟩ := npc
    have old : n ≠ l.nextEntity := initial.fresh valid
    simp [IsNpc, Ledger.appear, create, destroy, old, valid, solid, untagged]
  constructor
  case named =>
    intro e valid
    by_cases same : e = l.nextEntity
    next => simp [Ledger.appear, same]
    next =>
      simpa [Ledger.appear, create, destroy, same] using
        peopled.named e (by simpa [Ledger.appear, create, destroy, same] using valid)
  case acting =>
    intro e acts
    by_cases same : e = l.nextEntity
    next =>
      subst same
      simp [IsNpc, Ledger.appear, create, destroy]
    next =>
      exact stays e (peopled.acting e (by
        simpa [Ledger.appear, create, destroy, same] using acts))
  case parties =>
    intro ticket call n waiting member
    exact stays n (peopled.parties ticket call n waiting member)
  case partners =>
    intro p dialogue n talks named
    by_cases same : p = l.nextEntity
    next => simp [Ledger.appear, create, destroy, same] at talks
    next =>
      exact stays n (peopled.partners p dialogue n
        (by simpa [Ledger.appear, create, destroy, same] using talks) named)

end Peopled

theorem upkeep_npc (kept : Upkeep l l') (npc : l'.IsNpc n) : l.IsNpc n := by
  cases kept with
  | furnish id =>
      by_cases same : n = l.nextEntity
      next => simp [IsNpc, furnish, same] at npc
      next => simpa [IsNpc, furnish, create, destroy, same] using npc
  | demolish x furniture =>
      by_cases same : n = x
      next => simp [IsNpc, destroy, same] at npc
      next => simpa [IsNpc, destroy, same] using npc
  | resume x waiting => exact npc

theorem apply_npc (a : Act) (enabled : l.Enabled a) (npc : (l.apply a).IsNpc n) : l.IsNpc n := by
  by_cases account : a.isAccount = true
  next =>
    cases a with
    | enlist session id =>
        by_cases same : n = l.nextEntity
        next => simp [IsNpc, apply, same] at npc
        next => simpa [IsNpc, apply, create, destroy, same] using npc
    | rejoin session old e =>
        by_cases same : n = e
        next => simp [IsNpc, apply, same] at npc
        next => simpa [IsNpc, apply, same] using npc
    | leave player tag =>
        by_cases same : n = player
        next => simp [IsNpc, apply, destroy, same] at npc
        next => simpa [IsNpc, apply, destroy, release, same] using npc
    | _ => cases account
  next =>
    obtain ⟨valid, furniture⟩ := l.apply_people a (by simpa using account)
    obtain ⟨-, -, tags, -⟩ := l.apply_accounts a (by simpa using account)
    simpa only [IsNpc, valid, furniture, tags] using npc

end Ledger

variable {F : Type} [Scalar F]

theorem step_peopled (event : Event F) (w w' : World F) (roster : w.ledger.Roster)
    (peopled : w.ledger.Peopled) (stepped : step event w = some w') :
    w'.ledger.Roster ∧ w'.ledger.Peopled :=
  Ledger.step_keeps Ledger.Peopled (fun _ _ => True)
    (fun _ _ roster peopled kept => peopled.upkeep roster kept)
    (fun _ _ a roster peopled _ _ enabled => peopled.act roster a enabled)
    event roster peopled trivial stepped

theorem resident_before (event : Event F) (w w' : World F) (n : Entity)
    (stepped : step event w = some w') (npc : w'.ledger.IsNpc n) : w.ledger.IsNpc n := by
  rcases step_simulates event stepped with kept | ⟨a, -, enabled, applied⟩
  · generalize w'.ledger = last at kept npc
    induction kept with
    | refl => exact npc
    | tail _ next ih => exact ih (Ledger.upkeep_npc next npc)
  · rw [applied] at npc
    exact Ledger.apply_npc a enabled npc

theorem bootstrap_peopled (data : WorldBootstrapData F) (settings : SimulationSettings F)
    (obstacles : Option (List Obstacle)) (draws : Nat → NeedsDraw F) (w : World F)
    (booted : bootstrap data settings obstacles draws = some w) : w.ledger.Peopled := by
  have both : w.ledger.Initial ∧ w.ledger.Peopled := by
    refine bootstrap_induction (fun w => w.ledger.Initial ∧ w.ledger.Peopled) data settings obstacles
      draws w booted ?_ ?_ ?_
    · refine ⟨emptyWorld_initial data settings obstacles, ?_⟩
      constructor <;> intros <;>
        simp_all [emptyWorld, World.ledger, Registry.empty, GrpcClient.pending, GrpcClient.empty]
    · rintro w furn ⟨initial, peopled⟩
      rw [placeFurniture_ledger]
      exact ⟨initial.furnish 0, peopled.upkeep initial.roster (.furnish _ 0)⟩
    · rintro ⟨w, nextEmoId⟩ agent draw ⟨initial, peopled⟩
      rw [spawnAgent_ledger]
      split
      next => exact ⟨initial, peopled⟩
      next => exact ⟨initial.appear _ _, peopled.appear initial _ _⟩
  exact both.2

end MundusVivens
