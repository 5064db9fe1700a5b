import MundusVivens.Systems.EventFootprints

set_option autoImplicit false

/-!
# Who uses which furniture

What an entity has to do with furniture, and the matching between the two links
that the source keeps by hand: the seat of an NPC and the guest of a piece.
-/

namespace MundusVivens

open Scalar BehaviorTree

-- The part of `NeedsComp` that the crises and the furniture have to do with.
structure Crisis.State where
  resolving : Bool
  type : SurvivalType
  seat : Option Entity
deriving DecidableEq

def NeedsComp.crisis {F : Type} (needs : NeedsComp F) : Crisis.State :=
  ⟨needs.isResolvingSurvival, needs.currentSurvivalType, needs.occupiedFurniture⟩

structure Fitting where
  valid : Bool
  isPlayer : Bool
  hasTree : Bool
  crisis : Option Crisis.State
  affordance : Option AffordanceComp

def Fitting.gone : Fitting := ⟨false, false, false, none, none⟩

abbrev Fittings := Entity → Fitting

namespace Fittings

def seat (b : Fittings) (n : Entity) : Option Entity := (b n).crisis.bind (·.seat)

def guest (b : Fittings) (f : Entity) : Option Entity := (b f).affordance.bind (·.occupiedBy)

/-- NPCs and furniture are apart, and every used piece serves the crisis of the one that uses it. -/
structure Matched (b : Fittings) : Prop where
  living : ∀ n, (b n).hasTree = true → (b n).crisis.isSome = true
  needful : ∀ n, (b n).crisis.isSome = true →
    (b n).valid = true ∧ (b n).isPlayer = false ∧ (b n).affordance = none
  fitted : ∀ f, (b f).affordance.isSome = true → (b f).valid = true ∧ (b f).isPlayer = false
  matched : ∀ n f, b.seat n = some f ↔ b.guest f = some n
  served : ∀ n crisis f, (b n).crisis = some crisis → crisis.seat = some f →
    crisis.resolving = true ∧
      ∃ aff, (b f).affordance = some aff ∧ World.serves crisis.type aff.type = true

-- The two links of one seat, both written anew.
def relink (b : Fittings) (e f : Entity) (crisis : Crisis.State) (aff : AffordanceComp) : Fittings :=
  Function.update (Function.update b f { b f with affordance := some aff }) e
    { b e with crisis := some crisis }

section

variable (b : Fittings) (e f x : Entity) (crisis : Crisis.State) (aff : AffordanceComp)

theorem relink_crisis :
    (b.relink e f crisis aff x).crisis = if x = e then some crisis else (b x).crisis := by
  by_cases here : x = e
  next => simp [relink, here]
  next =>
    by_cases there : x = f
    next => subst there; simp [relink, here]
    next => simp [relink, here, there]

theorem relink_affordance (other : e ≠ f) :
    (b.relink e f crisis aff x).affordance = if x = f then some aff else (b x).affordance := by
  by_cases there : x = f
  next => simp [relink, there, other.symm]
  next =>
    by_cases here : x = e
    next => subst here; simp [relink, other]
    next => simp [relink, here, there]

theorem relink_rest : (b.relink e f crisis aff x).valid = (b x).valid ∧
    (b.relink e f crisis aff x).isPlayer = (b x).isPlayer ∧
      (b.relink e f crisis aff x).hasTree = (b x).hasTree := by
  by_cases here : x = e
  next => simp [relink, here]
  next =>
    by_cases there : x = f
    next => subst there; simp [relink, here]
    next => simp [relink, here, there]

end

variable {b : Fittings}

namespace Matched

theorem unseated (matched : b.Matched) (n : Entity) (crisis : Crisis.State)
    (calm : (b n).crisis = some crisis) (unresolved : crisis.resolving = false) :
    crisis.seat = none := by
  cases seated : crisis.seat with
  | none => rfl
  | some f => simp [(matched.served n crisis f calm seated).1] at unresolved

theorem apart (matched : b.Matched) (n f : Entity) (needful : (b n).crisis.isSome = true)
    (fitted : (b f).affordance.isSome = true) : n ≠ f := by
  rintro rfl
  simp [(matched.needful n needful).2.2] at fitted

theorem flag (matched : b.Matched) (e : Entity) (crisis : Crisis.State)
    (needful : (b e).crisis.isSome = true) (before : b.seat e = none) (after : crisis.seat = none) :
    Matched (Function.update b e { b e with crisis := some crisis }) := by
  have seats (n : Entity) :
      seat (Function.update b e { b e with crisis := some crisis }) n = b.seat n := by
    by_cases same : n = e
    next => subst same; simpa [seat, after] using before.symm
    next => simp [seat, same]
  have guests (f : Entity) :
      guest (Function.update b e { b e with crisis := some crisis }) f = b.guest f := by
    by_cases same : f = e
    next => subst same; simp [guest]
    next => simp [guest, same]
  have affordances (f : Entity) :
      (Function.update b e { b e with crisis := some crisis } f).affordance = (b f).affordance := by
    by_cases same : f = e
    next => subst same; simp
    next => simp [same]
  refine ⟨fun n has => ?_, fun n has => ?_, fun f has => ?_, fun n f => ?_,
    fun n own f has seated => ?_⟩
  · by_cases same : n = e
    next => subst same; simp
    next => simpa [same] using matched.living n (by simpa [same] using has)
  · by_cases same : n = e
    next => subst same; simpa using matched.needful n needful
    next => simpa [same] using matched.needful n (by simpa [same] using has)
  · rw [affordances] at has
    by_cases same : f = e
    next => subst same; simpa using matched.fitted f has
    next => simpa [same] using matched.fitted f has
  · rw [seats, guests]
    exact matched.matched n f
  · rw [affordances]
    by_cases same : n = e
    next =>
      subst same
      obtain rfl : crisis = own := by simpa using has
      simp [after] at seated
    next => exact matched.served n own f (by simpa [same] using has) seated

theorem uproot (matched : b.Matched) (e : Entity) :
    Matched (Function.update b e { b e with hasTree := false }) := by
  have parts (x : Entity) : ∃ planted,
      Function.update b e { b e with hasTree := false } x = { b x with hasTree := planted } ∧
        (planted = true → (b x).hasTree = true) := by
    by_cases same : x = e
    next => subst same; exact ⟨false, by simp, by simp⟩
    next => exact ⟨(b x).hasTree, by simp [same], id⟩
  refine ⟨fun n has => ?_, fun n => ?_, fun f => ?_, fun n f => ?_, fun n own f => ?_⟩
  · obtain ⟨planted, same, before⟩ := parts n
    rw [same] at has ⊢
    exact matched.living n (before has)
  · obtain ⟨planted, same, -⟩ := parts n
    rw [same]
    exact matched.needful n
  · obtain ⟨planted, same, -⟩ := parts f
    rw [same]
    exact matched.fitted f
  · obtain ⟨planted, same, -⟩ := parts n
    obtain ⟨planted', same', -⟩ := parts f
    rw [seat, guest, same, same']
    exact matched.matched n f
  · obtain ⟨planted, same, -⟩ := parts n
    obtain ⟨planted', same', -⟩ := parts f
    rw [same, same']
    exact matched.served n own f

theorem build (matched : b.Matched) (f : Entity) (new : Fitting) (fresh : (b f).valid = false)
    (valid : new.valid = true) (living : new.hasTree = true → new.crisis.isSome = true)
    (needful : new.crisis.isSome = true → new.isPlayer = false ∧ new.affordance = none)
    (fitted : new.affordance.isSome = true → new.isPlayer = false)
    (unseated : new.crisis.bind (·.seat) = none)
    (free : new.affordance.bind (·.occupiedBy) = none) : Matched (Function.update b f new) := by
  have bare : (b f).crisis = none ∧ (b f).affordance = none := by
    constructor
    · by_contra has
      simp [(matched.needful f (by simpa [Option.isSome_iff_ne_none] using has)).1] at fresh
    · by_contra has
      simp [(matched.fitted f (by simpa [Option.isSome_iff_ne_none] using has)).1] at fresh
  have seats (n : Entity) : seat (Function.update b f new) n = b.seat n := by
    by_cases same : n = f
    next => subst same; simpa [seat, bare] using unseated
    next => simp [seat, same]
  have guests (g : Entity) : guest (Function.update b f new) g = b.guest g := by
    by_cases same : g = f
    next => subst same; simpa [guest, bare] using free
    next => simp [guest, same]
  refine ⟨fun n has => ?_, fun n has => ?_, fun g has => ?_, fun n g => ?_,
    fun n own g has seated => ?_⟩
  · by_cases same : n = f
    next => subst same; simpa using living (by simpa using has)
    next => simpa [same] using matched.living n (by simpa [same] using has)
  · by_cases same : n = f
    next => subst same; simpa [valid] using needful (by simpa using has)
    next => simpa [same] using matched.needful n (by simpa [same] using has)
  · by_cases same : g = f
    next => subst same; simpa [valid] using fitted (by simpa using has)
    next => simpa [same] using matched.fitted g (by simpa [same] using has)
  · rw [guests, seats]
    exact matched.matched n g
  · have other : n ≠ f := by
      rintro rfl
      have none_taken : new.crisis = some own := by simpa using has
      simp [none_taken, seated] at unseated
    have before : (b n).crisis = some own := by simpa [other] using has
    obtain ⟨resolving, aff, stands, serves⟩ := matched.served n own g before seated
    have elsewhere : g ≠ f := by
      rintro rfl
      simp [bare] at stands
    exact ⟨resolving, aff, by simpa [elsewhere] using stands, serves⟩

theorem demolish (matched : b.Matched) (f : Entity) (calm : (b f).crisis = none)
    (free : b.guest f = none) : Matched (Function.update b f .gone) := by
  have crises (n : Entity) : (Function.update b f .gone n).crisis = (b n).crisis := by
    by_cases same : n = f
    next => subst same; simp [Fitting.gone, calm]
    next => simp [same]
  have guests (g : Entity) : guest (Function.update b f .gone) g = b.guest g := by
    by_cases same : g = f
    next => subst same; simpa [guest, Fitting.gone] using free.symm
    next => simp [guest, same]
  refine ⟨fun n has => ?_, fun n has => ?_, fun g has => ?_, fun n g => ?_,
    fun n own g has seated => ?_⟩
  · by_cases same : n = f
    next => subst same; simp [Fitting.gone] at has
    next => simpa [same] using matched.living n (by simpa [same] using has)
  · rw [crises] at has
    have other : n ≠ f := by
      rintro rfl
      simp [calm] at has
    simpa [other] using matched.needful n has
  · by_cases same : g = f
    next => subst same; simp [Fitting.gone] at has
    next => simpa [same] using matched.fitted g (by simpa [same] using has)
  · rw [guests, ← matched.matched n g]
    simp [seat, crises]
  · rw [crises] at has
    have taken := (matched.matched n g).mp (by simp [seat, has, seated])
    have elsewhere : g ≠ f := by
      rintro rfl
      simp [free] at taken
    simpa [elsewhere] using matched.served n own g has seated

theorem relinked (matched : b.Matched) (e f : Entity) (crisis : Crisis.State) (aff : AffordanceComp)
    (needful : (b e).crisis.isSome = true) (fitted : (b f).affordance.isSome = true)
    (before : (∀ g, b.seat e = some g → g = f) ∧ ∀ n, b.guest f = some n → n = e)
    (after : (∀ g, crisis.seat = some g → g = f) ∧ ∀ n, aff.occupiedBy = some n → n = e)
    (agree : crisis.seat = some f ↔ aff.occupiedBy = some e)
    (served : crisis.seat = some f →
      crisis.resolving = true ∧ World.serves crisis.type aff.type = true) :
    (b.relink e f crisis aff).Matched := by
  have other : e ≠ f := matched.apart e f needful fitted
  have bare : (b e).affordance = none := (matched.needful e needful).2.2
  have crises (n : Entity) := b.relink_crisis e f n crisis aff
  have affordances (g : Entity) := b.relink_affordance e f g crisis aff other
  refine ⟨fun n has => ?_, fun n has => ?_, fun g has => ?_, fun n g => ?_,
    fun n own g has seated => ?_⟩
  · rw [(b.relink_rest e f n crisis aff).2.2] at has
    rw [crises]
    split
    next => rfl
    next => exact matched.living n has
  · obtain ⟨valid, player, -⟩ := b.relink_rest e f n crisis aff
    rw [crises] at has
    rw [valid, player, affordances]
    split at has
    next here =>
      subst here
      simpa [other] using matched.needful n needful
    next =>
      have unseated := matched.needful n has
      have elsewhere : n ≠ f := matched.apart n f has fitted
      simpa [elsewhere] using unseated
  · obtain ⟨valid, player, -⟩ := b.relink_rest e f g crisis aff
    rw [affordances] at has
    rw [valid, player]
    split at has
    next here => exact matched.fitted g (here ▸ fitted)
    next => exact matched.fitted g has
  -- Neither `e` nor `f` had, or gets, a partner other than the two of them.
  · have link := matched.matched n g
    rw [seat, guest, crises, affordances]
    by_cases here : n = e <;> by_cases there : g = f
    next => simpa [here, there] using agree
    next =>
      have unseated : crisis.seat ≠ some g := fun seated => there (after.1 g seated)
      have free : b.seat e ≠ some g := fun seated => there (before.1 g seated)
      simpa [here, there, unseated, free, guest] using link
    next =>
      have unvisited : aff.occupiedBy ≠ some n := fun taken => here (after.2 n taken)
      have free : b.guest f ≠ some n := fun taken => here (before.2 n taken)
      simpa [here, there, unvisited, free, seat] using link
    next => simpa [here, there, seat, guest] using link
  · rw [crises] at has
    rw [affordances]
    split at has
    next here =>
      obtain rfl := Option.some.inj has
      obtain rfl := after.1 g seated
      obtain ⟨resolving, serves⟩ := served seated
      exact ⟨resolving, aff, by simp, serves⟩
    next here =>
      have taken := (matched.matched n g).mp (by simp [seat, has, seated])
      have elsewhere : g ≠ f := by
        rintro rfl
        exact here (before.2 n taken)
      simpa [elsewhere] using matched.served n own g has seated

theorem occupy (matched : b.Matched) (e f : Entity) (crisis : Crisis.State) (aff : AffordanceComp)
    (needful : (b e).crisis = some crisis) (resolving : crisis.resolving = true)
    (unseated : crisis.seat = none) (stands : (b f).affordance = some aff)
    (free : aff.occupiedBy = none) (serves : World.serves crisis.type aff.type = true) :
    (b.relink e f { crisis with seat := some f } { aff with occupiedBy := some e }).Matched := by
  have noSeat : b.seat e = none := by simp [seat, needful, unseated]
  have noGuest : b.guest f = none := by simp [guest, stands, free]
  exact matched.relinked e f _ _ (by simp [needful]) (by simp [stands])
    ⟨by simp [noSeat], by simp [noGuest]⟩ ⟨by simp, by simp [eq_comm]⟩ (by simp)
    fun _ => ⟨resolving, serves⟩

theorem vacate (matched : b.Matched) (e f : Entity) (crisis after : Crisis.State)
    (aff : AffordanceComp) (needful : (b e).crisis = some crisis) (seated : crisis.seat = some f)
    (stands : (b f).affordance = some aff) (unseated : after.seat = none) :
    (b.relink e f after { aff with occupiedBy := none }).Matched := by
  have sits : b.seat e = some f := by simp [seat, needful, seated]
  have hosts : b.guest f = some e := (matched.matched e f).mp sits
  exact matched.relinked e f _ _ (by simp [needful]) (by simp [stands])
    ⟨by simp [sits, eq_comm], by simp [hosts, eq_comm]⟩ ⟨by simp [unseated], by simp⟩
    (by simp [unseated]) (by simp [unseated])

end Matched

end Fittings

variable {F : Type}

def World.fittings (w : World F) : Fittings := fun x =>
  ⟨w.reg.valid x, (w.reg.playerTag x).isSome, (w.reg.behaviorTree x).isSome,
    (w.reg.needs x).map NeedsComp.crisis, w.reg.affordance x⟩

def World.seatOf (w : World F) (n : Entity) : Option Entity :=
  (w.reg.needs n).bind (·.occupiedFurniture)

def World.guestOf (w : World F) (f : Entity) : Option Entity :=
  (w.reg.affordance f).bind (·.occupiedBy)

theorem World.seat_fittings (w : World F) (n : Entity) : w.fittings.seat n = w.seatOf n := by
  cases needs : w.reg.needs n <;> simp [Fittings.seat, fittings, seatOf, needs, NeedsComp.crisis]

theorem World.guest_fittings (w : World F) (f : Entity) : w.fittings.guest f = w.guestOf f := rfl

theorem Within.fittings {s : Scope} {e x : Entity} {w w' : World F} (within : Within s e x w w')
    (spares : s.sparesResidents = true) (carefree : s.covers .needs = false)
    (rooted : s.covers .behaviorTree = false) : w'.fittings x = w.fittings x := by
  simp only [Scope.sparesResidents, List.all_cons, List.all_nil, Bool.and_true, Bool.and_eq_true,
    Bool.not_eq_true'] at spares
  obtain ⟨valid, playerTag, affordance⟩ := spares
  have sameValid : w'.reg.valid x = w.reg.valid x := within.same .valid valid
  have sameTag : w'.reg.playerTag x = w.reg.playerTag x := within.same .playerTag playerTag
  have sameNeeds : w'.reg.needs x = w.reg.needs x := within.same .needs carefree
  have sameTree : w'.reg.behaviorTree x = w.reg.behaviorTree x := within.same .behaviorTree rooted
  have sameAffordance : w'.reg.affordance x = w.reg.affordance x :=
    within.same .affordance affordance
  simp [World.fittings, sameValid, sameTag, sameTree, sameNeeds, sameAffordance]

end MundusVivens
