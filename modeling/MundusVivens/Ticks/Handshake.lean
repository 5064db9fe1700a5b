import MundusVivens.World.Requests
import Mathlib.Logic.Function.Basic
import Mathlib.Data.List.Range

set_option autoImplicit false

/-!
# The tick handshake

The main loop asks for a tick, the answer waits for the next drain, and the batch
of a success waits for the next synchronisation. What was answered is what was
applied, followed by what waits.
-/

namespace MundusVivens

/-- A successful answer: the tick it grants, and its relationship deltas. -/
structure Batch where
  tick : Int
  deltas : List RelationshipDelta

-- A frame drains the results first, and asks for a tick last.
inductive Phase where
  | early
  | late
deriving DecidableEq

@[ext]
structure Handshake where
  tick : Int
  isTickSyncPending : Bool
  tickSyncedReady : Bool
  nextTickVal : Int
  tempRelationshipDeltas : List RelationshipDelta
  -- The target tick of each request, and its answer once there is one.
  request : Nat → Option (Int × Option (Bool × List RelationshipDelta))

namespace Handshake

inductive Move where
  | ask (ticket : Nat)
  | answer (ticket : Nat) (target : Int) (success : Bool) (deltas : List RelationshipDelta)
  | drop (ticket : Nat)
  | complete (ticket : Nat) (target : Int) (success : Bool) (deltas : List RelationshipDelta)
  | sync

def apply (h : Handshake) : Move → Handshake
  | .ask ticket =>
      { h with
        isTickSyncPending := true
        request := Function.update h.request ticket (some (h.tick + 1, none)) }
  | .answer ticket target success deltas =>
      { h with request := Function.update h.request ticket (some (target, some (success, deltas))) }
  | .drop ticket => { h with request := Function.update h.request ticket none }
  | .complete ticket target success deltas =>
      { h with
        isTickSyncPending := false
        tickSyncedReady := success || h.tickSyncedReady
        nextTickVal := if success then target else h.nextTickVal
        tempRelationshipDeltas := if success then deltas else h.tempRelationshipDeltas
        request := Function.update h.request ticket none }
  | .sync => { h with tickSyncedReady := false, tick := h.nextTickVal }

def Enabled (h : Handshake) : Move → Prop
  | .ask ticket => h.isTickSyncPending = false ∧ h.request ticket = none
  | .answer ticket target _ _ => h.request ticket = some (target, none)
  | .drop ticket => ∃ target, h.request ticket = some (target, none)
  | .complete ticket target success deltas =>
      h.request ticket = some (target, some (success, deltas))
  | .sync => h.tickSyncedReady = true

-- The phase in which the main loop makes the move; the other threads move in both.
def Move.fits : Move → Phase → Prop
  | .ask _, phase => phase = .late
  | .complete .., phase => phase = .early
  | .sync, phase => phase = .early
  | _, _ => True

structure InStep (phase : Phase) (h : Handshake) : Prop where
  single : ∀ ticket other, (h.request ticket).isSome → (h.request other).isSome → ticket = other
  asked : ∀ ticket target answer, h.request ticket = some (target, answer) →
    h.isTickSyncPending = true ∧ h.tickSyncedReady = false ∧ target = h.tick + 1
  ready : h.tickSyncedReady = true →
    phase = .early ∧ h.isTickSyncPending = false ∧ h.nextTickVal = h.tick + 1

-- The batch waits to be synchronised, or its answer waits to be drained.
def Waits (h : Handshake) (batch : Batch) : Prop :=
  h.tickSyncedReady = true ∧ batch = ⟨h.nextTickVal, h.tempRelationshipDeltas⟩ ∨
    ∃ ticket, h.request ticket = some (batch.tick, some (true, batch.deltas))

variable {h : Handshake} {phase : Phase}

theorem InStep.relax (inStep : h.InStep phase) (unready : h.tickSyncedReady = false)
    (other : Phase) : h.InStep other where
  single := inStep.single
  asked := inStep.asked
  ready := fun ready => by simp [unready] at ready

theorem InStep.only (inStep : h.InStep phase) {ticket : Nat}
    {asked : Int × Option (Bool × List RelationshipDelta)} (here : h.request ticket = some asked)
    (value : Option (Int × Option (Bool × List RelationshipDelta))) (other : Nat) :
    Function.update h.request ticket value other = if other = ticket then value else none := by
  by_cases same : other = ticket
  next => simp [same]
  next =>
    rw [Function.update_of_ne same, if_neg same]
    by_contra present
    exact same (inStep.single other ticket (Option.isSome_iff_ne_none.mpr present) (by simp [here]))

theorem InStep.quiet_when_ready (inStep : h.InStep phase) (ready : h.tickSyncedReady = true)
    (ticket : Nat) : h.request ticket = none := by
  by_contra present
  obtain ⟨⟨target, answer⟩, here⟩ := Option.ne_none_iff_exists'.mp present
  simp [(inStep.asked ticket target answer here).2.1] at ready

theorem InStep.apply (inStep : h.InStep phase) (move : Move) (enabled : h.Enabled move)
    (fits : move.fits phase) : (h.apply move).InStep phase := by
  cases move with
  | ask ticket =>
      obtain ⟨idle, -⟩ := enabled
      have silent (other : Nat) : h.request other = none := by
        by_contra present
        obtain ⟨⟨target, answer⟩, here⟩ := Option.ne_none_iff_exists'.mp present
        simp [(inStep.asked other target answer here).1] at idle
      have unready : h.tickSyncedReady = false := by
        by_contra ready
        have early := (inStep.ready (by simpa using ready)).1
        simp [Move.fits, early] at fits
      constructor
      case single =>
        intro a b presentA presentB
        simp only [Handshake.apply, Function.update_apply, silent] at presentA presentB
        split at presentA
        next sameA =>
          split at presentB
          next sameB => exact sameA.trans sameB.symm
          next => cases presentB
        next => cases presentA
      case asked =>
        intro other target answer here
        simp only [Handshake.apply, Function.update_apply, silent] at here
        split at here
        next =>
          obtain ⟨rfl, -⟩ := Prod.mk.inj (Option.some.inj here)
          exact ⟨rfl, unready, rfl⟩
        next => cases here
      case ready =>
        intro ready
        simp [Handshake.apply, unready] at ready
  | answer ticket target success deltas =>
      have only := inStep.only enabled
      obtain ⟨pending, unready, granted⟩ := inStep.asked ticket target none enabled
      constructor
      case single =>
        intro a b presentA presentB
        simp only [Handshake.apply, only] at presentA presentB
        split at presentA
        next sameA =>
          split at presentB
          next sameB => exact sameA.trans sameB.symm
          next => cases presentB
        next => cases presentA
      case asked =>
        intro other target' answer here
        simp only [Handshake.apply, only] at here
        split at here
        next =>
          obtain ⟨rfl, -⟩ := Prod.mk.inj (Option.some.inj here)
          exact ⟨pending, unready, granted⟩
        next => cases here
      case ready =>
        intro ready
        simp [Handshake.apply, unready] at ready
  | drop ticket =>
      obtain ⟨target, here⟩ := enabled
      have only := inStep.only here
      obtain ⟨-, unready, -⟩ := inStep.asked ticket target none here
      constructor
      case single => intro a b present; simp [Handshake.apply, only] at present
      case asked => intro other target answer there; simp [Handshake.apply, only] at there
      case ready => intro ready; simp [Handshake.apply, unready] at ready
  | complete ticket target success deltas =>
      have only := inStep.only enabled
      obtain ⟨-, unready, granted⟩ := inStep.asked ticket target _ enabled
      constructor
      case single => intro a b present; simp [Handshake.apply, only] at present
      case asked => intro other target answer there; simp [Handshake.apply, only] at there
      case ready =>
        intro ready
        have succeeded : success = true := by simpa [Handshake.apply, unready] using ready
        exact ⟨fits, rfl, by simp [Handshake.apply, succeeded, granted]⟩
  | sync =>
      have silent := inStep.quiet_when_ready enabled
      constructor
      case single => exact inStep.single
      case asked => intro other target answer there; simp [Handshake.apply, silent] at there
      case ready => intro ready; simp [Handshake.apply] at ready

def Move.answered : Move → List Batch
  | .answer _ target success deltas => if success then [⟨target, deltas⟩] else []
  | _ => []

def Move.applied (h : Handshake) : Move → List Batch
  | .sync => [⟨h.nextTickVal, h.tempRelationshipDeltas⟩]
  | _ => []

structure Balanced (start : Int) (h : Handshake) (answered applied : List Batch) : Prop where
  conserved : ∃ waiting, answered = applied ++ waiting ∧ waiting.length ≤ 1 ∧
    ∀ batch, h.Waits batch ↔ batch ∈ waiting
  counted : h.tick = start + applied.length
  numbered : applied.map (·.tick) = (List.range applied.length).map fun (i : Nat) => start + i + 1

theorem InStep.waits_iff (inStep : h.InStep phase) {ticket : Nat} {target : Int}
    {answer : Option (Bool × List RelationshipDelta)}
    (here : h.request ticket = some (target, answer)) (batch : Batch) :
    h.Waits batch ↔ batch.tick = target ∧ answer = some (true, batch.deltas) := by
  constructor
  · rintro (⟨ready, -⟩ | ⟨other, there⟩)
    · simp [(inStep.asked ticket target answer here).2.1] at ready
    · have same := inStep.single other ticket (by simp [there]) (by simp [here])
      rw [same, here] at there
      obtain ⟨rfl, rfl⟩ := Prod.mk.inj (Option.some.inj there)
      exact ⟨rfl, rfl⟩
  · rintro ⟨rfl, rfl⟩
    exact .inr ⟨ticket, here⟩

variable {start : Int} {answered applied : List Batch}

theorem Balanced.of_waits {h' : Handshake} (balanced : h.Balanced start answered applied)
    (tick : h'.tick = h.tick) (waits : ∀ batch, h'.Waits batch ↔ h.Waits batch) :
    h'.Balanced start answered applied := by
  obtain ⟨⟨waiting, conserved, short, exactly⟩, counted, numbered⟩ := balanced
  exact ⟨⟨waiting, conserved, short, fun batch => (waits batch).trans (exactly batch)⟩,
    tick.trans counted, numbered⟩

theorem Balanced.settled (balanced : h.Balanced start answered applied)
    (idle : ∀ batch, ¬h.Waits batch) : answered = applied := by
  obtain ⟨⟨waiting, conserved, -, exactly⟩, -, -⟩ := balanced
  have empty : waiting = [] := List.eq_nil_iff_forall_not_mem.mpr fun batch member =>
    idle batch ((exactly batch).mpr member)
  simpa [empty] using conserved

theorem Balanced.apply (inStep : h.InStep phase) (balanced : h.Balanced start answered applied)
    (move : Move) (enabled : h.Enabled move) :
    (h.apply move).Balanced start (answered ++ move.answered) (applied ++ move.applied h) := by
  cases move with
  | ask ticket =>
      simp only [Move.answered, Move.applied, List.append_nil]
      refine balanced.of_waits rfl fun batch => or_congr .rfl (exists_congr fun other => ?_)
      by_cases same : other = ticket
      next => simp [Handshake.apply, same, enabled.2]
      next => simp [Handshake.apply, same]
  | answer ticket target success deltas =>
      have settled := balanced.settled fun batch => by simp [inStep.waits_iff enabled]
      obtain ⟨pending, unready, -⟩ := inStep.asked ticket target none enabled
      subst settled
      refine ⟨⟨Move.answered (.answer ticket target success deltas), by simp [Move.applied],
        ?_, ?_⟩, ?_, ?_⟩
      · cases success <;> simp [Move.answered]
      · have only := inStep.only enabled
        intro batch
        simp only [Waits, Handshake.apply, only, unready]
        cases success with
        | true =>
            obtain ⟨tick, changes⟩ := batch
            simp [Move.answered, eq_comm]
        | false => simp [Move.answered]
      · simpa [Move.applied, Handshake.apply] using balanced.counted
      · simpa [Move.applied] using balanced.numbered
  | drop ticket =>
      obtain ⟨target, here⟩ := enabled
      have only := inStep.only here
      simp only [Move.answered, Move.applied, List.append_nil]
      refine balanced.of_waits rfl fun batch => ?_
      rw [inStep.waits_iff here]
      simp [Waits, Handshake.apply, only, (inStep.asked ticket target none here).2.1]
  | complete ticket target success deltas =>
      have only := inStep.only enabled
      simp only [Move.answered, Move.applied, List.append_nil]
      refine balanced.of_waits rfl fun batch => ?_
      rw [inStep.waits_iff enabled]
      obtain ⟨tick, changes⟩ := batch
      cases success with
      | true => simp [Waits, Handshake.apply, only, eq_comm]
      | false =>
          simp [Waits, Handshake.apply, only, (inStep.asked ticket target _ enabled).2.1]
  | sync =>
      have silent := inStep.quiet_when_ready enabled
      have ready : h.tickSyncedReady = true := enabled
      obtain ⟨⟨waiting, conserved, short, exactly⟩, counted, numbered⟩ := balanced
      have only : waiting = [⟨h.nextTickVal, h.tempRelationshipDeltas⟩] := by
        have member := (exactly ⟨h.nextTickVal, h.tempRelationshipDeltas⟩).mp (.inl ⟨ready, rfl⟩)
        match waiting, short, member with
        | [batch], _, member => rw [List.mem_singleton.mp member]
      have next := (inStep.ready ready).2.2
      refine ⟨⟨[], ?_, by simp, fun batch => ?_⟩, ?_, ?_⟩
      · simp [Move.answered, Move.applied, conserved, only]
      · simp [Waits, Handshake.apply, silent]
      · simp only [Handshake.apply, Move.applied, List.length_append, List.length_singleton, next]
        omega
      · rw [Move.applied, List.map_append, numbered, List.length_append, List.length_singleton,
          List.range_succ, List.map_append]
        simp [next, counted]

end Handshake

end MundusVivens
