import MundusVivens.Systems.JobDriver

set_option autoImplicit false

namespace MundusVivens

open Scalar

variable {F : Type} [Scalar F]

namespace World

def scheduled (job : JobComp F) (toil : ToilComp) (category : JobCategory) : Bool :=
  job.isActive && toil.state = .working && job.category = category

def decayNeed (value rate : F) (skip : Bool) : F :=
  let left := if skip then value else value - rate
  if lt left zero then zero else left

def survivalOverride (w : World F) (e : Entity) : World F :=
  match w.reg.needs e, w.reg.location e, w.reg.toil e, w.reg.job e with
  | some needs, some _, some toil, some job =>
      let skipHunger :=
        (needs.isResolvingSurvival && needs.currentSurvivalType = .hunger) ||
          (scheduled job toil .eat && needs.occupiedFurniture.isSome)
      let skipFatigue :=
        (needs.isResolvingSurvival && needs.currentSurvivalType = .fatigue) ||
          (scheduled job toil .sleep && needs.occupiedFurniture.isSome)
      w.setNeeds e
        { needs with
          hunger := decayNeed needs.hunger (lit 0.045) skipHunger
          fatigue := decayNeed needs.fatigue (lit 0.025) skipFatigue }
  | _, _, _, _ => w

-- Free a piece of furniture whose occupant does not use it.
def checkOccupant (w : World F) (furniture : Entity) : World F :=
  match w.reg.affordance furniture with
  | some ⟨_, some occupant, _⟩ =>
      if !w.reg.valid occupant then w.setOccupiedBy furniture none
      else
        match w.reg.needs occupant with
        | some needs =>
            if needs.occupiedFurniture = some furniture then w
            else w.setOccupiedBy furniture none
        | none => w.setOccupiedBy furniture none
  | _ => w

def keepsFurniture (w : World F) (job : JobComp F) (toil : ToilComp) (furniture : Entity) :
    Option Bool :=
  if !w.reg.valid furniture then some false
  else if scheduled job toil .sleep then do
    let aff ← w.reg.affordance furniture
    some (aff.type = .sleep || aff.type = .sit)
  else if scheduled job toil .eat then do
    let aff ← w.reg.affordance furniture
    some (aff.type = .eat || aff.type = .drink || aff.type = .sit)
  else some false

-- Give a piece of furniture back; a temporary one is removed.
def returnFurniture (w : World F) (furniture : Entity) : Option (World F) :=
  if !w.reg.valid furniture then some w
  else do
    let _ ← w.reg.affordance furniture
    let freed := w.setOccupiedBy furniture none
    match w.reg.identity furniture with
    | some identity =>
        if containsText identity.displayName "임시" then
          some
            { freed with
              grid := freed.grid.removeEntity furniture
              reg := freed.reg.destroy furniture }
        else some freed
    | none => some freed

def resolveAffordance (w : World F) (e : Entity) : Option (World F) :=
  match w.reg.needs e, w.reg.toil e, w.reg.job e with
  | some needs, some toil, some job =>
      if needs.isResolvingSurvival then some w
      else
        match needs.occupiedFurniture with
        | none => some w
        | some furniture => do
            let keep ← w.keepsFurniture job toil furniture
            if keep then some w
            else do
              let returned ← w.returnFurniture furniture
              some (returned.setNeeds e { needs with occupiedFurniture := none })
  | _, _, _ => some w

section

variable {w w' : World F}

-- What becomes of a returned piece of furniture; a camp is taken down.
inductive Returns (w : World F) (furniture : Entity) : World F → Prop
  | gone (invalid : w.reg.valid furniture = false) : Returns w furniture w
  | freed (aff : AffordanceComp) (furnished : w.reg.affordance furniture = some aff) :
      Returns w furniture (w.setOccupiedBy furniture none)
  | demolished (aff : AffordanceComp) (furnished : w.reg.affordance furniture = some aff) :
      Returns w furniture
        { w.setOccupiedBy furniture none with
          grid := w.grid.removeEntity furniture
          reg := (w.setOccupiedBy furniture none).reg.destroy furniture }

omit [Scalar F] in
theorem returnFurniture_cases {furniture : Entity}
    (returned : w.returnFurniture furniture = some w') : Returns w furniture w' := by
  unfold returnFurniture at returned
  split at returned
  next invalid => exact Option.some.inj returned ▸ .gone (by simpa using invalid)
  next =>
    simp only [Option.bind_eq_bind, Option.bind_eq_some_iff] at returned
    obtain ⟨aff, furnished, returned⟩ := returned
    split at returned
    next =>
      split at returned
      next => exact Option.some.inj returned ▸ .demolished aff furnished
      next => exact Option.some.inj returned ▸ .freed aff furnished
    next => exact Option.some.inj returned ▸ .freed aff furnished

inductive Vacates (w : World F) (e : Entity) : World F → Prop
  | keeps : Vacates w e w
  | frees (needs : NeedsComp F) (furniture : Entity) (returned : World F)
      (needy : w.reg.needs e = some needs) (calm : needs.isResolvingSurvival = false)
      (seated : needs.occupiedFurniture = some furniture)
      (back : w.returnFurniture furniture = some returned) :
      Vacates w e (returned.setNeeds e { needs with occupiedFurniture := none })

omit [Scalar F] in
theorem resolveAffordance_cases {e : Entity} (resolved : w.resolveAffordance e = some w') :
    Vacates w e w' := by
  unfold resolveAffordance at resolved
  split at resolved
  next needs toil job needy _ _ =>
    split at resolved
    next => exact Option.some.inj resolved ▸ .keeps
    next calm =>
      split at resolved
      next => exact Option.some.inj resolved ▸ .keeps
      next furniture seated =>
        simp only [Option.bind_eq_bind, Option.bind_eq_some_iff] at resolved
        obtain ⟨keep, -, resolved⟩ := resolved
        split at resolved
        next => exact Option.some.inj resolved ▸ .keeps
        next =>
          simp only [Option.bind_eq_some_iff] at resolved
          obtain ⟨returned, back, stored⟩ := resolved
          exact Option.some.inj stored ▸
            .frees needs furniture returned needy (by simpa using calm) seated back
  next => exact Option.some.inj resolved ▸ .keeps

end

def stopToil (w : World F) (e : Entity) : World F :=
  match w.reg.toil e with
  | some toil => if toil.state = ToilState.idle then w else w.setToil e ⟨.idle, "Dead", 0⟩
  | none => w

def dropWaypoints (w : World F) (e : Entity) : World F :=
  match w.reg.pathfinding e with
  | some path => w.setPathfinding e { path with waypoints := [] }
  | none => w

def dropTarget (w : World F) (e : Entity) : World F :=
  match w.reg.combat e with
  | some combat => w.setCombat e { combat with targetEntity := none }
  | none => w

def systemDeath (w : World F) (e : Entity) : World F :=
  match w.reg.health e, w.reg.identity e with
  | some health, some _ =>
      if health.isDead then
        let still := (w.stopToil e).modifyVelocity e fun _ => .still
        let shown := (still.dropWaypoints e).setActivity e "사망"
        (shown.dropTarget e).eraseBehaviorTree e
      else w
  | _, _ => w

end World

end MundusVivens
