import MundusVivens.Shared.Runs
import Mathlib.Data.List.Basic

set_option autoImplicit false

/-!
# Relays

A relay takes items in and hands them out in rounds: an opening makes everything
inside the work of the round, and the round hands its work out from the front.
Histories are newest first, the items of a history oldest first.
-/

namespace Relays

open Runs

structure Relay (State Event Item : Type) where
  step : Event → State → Option State
  enters : Event → List Item
  leaves : State → Event → List Item
  opens : Event → Bool
  -- The items inside, in the order of their leaving.
  backlog : State → List Item
  -- The items the round under way has yet to hand out.
  work : State → List Item

section

variable {State Event Item : Type} (relay : Relay State Event Item)

def entered : List (Transition State Event) → List Item
  | [] => []
  | t :: earlier => entered earlier ++ relay.enters t.event

def handed : List (Transition State Event) → List Item
  | [] => []
  | t :: earlier => handed earlier ++ relay.leaves t.before t.event

def admitted : List (Transition State Event) → List Item
  | [] => []
  | t :: earlier => if relay.opens t.event then entered relay earlier else admitted earlier

-- What one step of a relay may do to its items.
structure Moves (s : State) (event : Event) (s' : State) : Prop where
  keeps : relay.backlog s ++ relay.enters event = relay.leaves s event ++ relay.backlog s'
  opened : relay.opens event = true → relay.leaves s event = [] ∧ relay.work s' = relay.backlog s
  works : relay.opens event = false → relay.work s = relay.leaves s event ++ relay.work s'

variable {start last : State} {past : List (Transition State Event)}

theorem entered_append (later earlier : List (Transition State Event)) :
    ∃ items, entered relay (later ++ earlier) = entered relay earlier ++ items := by
  induction later with
  | nil => exact ⟨[], by simp⟩
  | cons t later ih =>
      obtain ⟨items, split⟩ := ih
      exact ⟨items ++ relay.enters t.event, by simp [entered, split]⟩

theorem handed_append (later earlier : List (Transition State Event)) :
    ∃ items, handed relay (later ++ earlier) = handed relay earlier ++ items := by
  induction later with
  | nil => exact ⟨[], by simp⟩
  | cons t later ih =>
      obtain ⟨items, split⟩ := ih
      exact ⟨items ++ relay.leaves t.before t.event, by simp [handed, split]⟩

theorem entered_admitted (later earlier : List (Transition State Event))
    (t : Transition State Event) (opening : relay.opens t.event = true) :
    entered relay earlier <+: admitted relay (later ++ t :: earlier) := by
  induction later with
  | nil => simp [admitted, opening]
  | cons u later ih =>
      rw [List.cons_append, admitted]
      split
      next =>
        obtain ⟨items, split⟩ := entered_append relay (later ++ [t]) earlier
        exact ⟨items, by simpa using split.symm⟩
      next => exact ih

section

variable {invariant : State → Prop} (initial : invariant start)
variable (kept : ∀ s event s', invariant s → relay.step event s = some s' → invariant s')
variable (moves : ∀ s event s', invariant s → relay.step event s = some s' →
  Moves relay s event s')
variable (empty : relay.backlog start = []) (idle : relay.work start = [])

include initial kept moves empty idle

theorem run_account (run : Run relay.step start past last) :
    invariant last ∧ entered relay past = handed relay past ++ relay.backlog last ∧
      handed relay past ++ relay.work last = admitted relay past := by
  induction run with
  | rest => exact ⟨initial, by simp [entered, handed, empty], by simp [handed, admitted, idle]⟩
  | @next past s s' event run stepped ih =>
      obtain ⟨sound, order, rounds⟩ := ih
      have moved := moves s event s' sound stepped
      refine ⟨kept s event s' sound stepped, ?_, ?_⟩
      · calc entered relay (⟨s, event, s'⟩ :: past)
            = handed relay past ++ (relay.backlog s ++ relay.enters event) := by
              simp [entered, order]
          _ = handed relay (⟨s, event, s'⟩ :: past) ++ relay.backlog s' := by
              simp [handed, moved.keeps]
      · simp only [handed, admitted, List.append_assoc]
        cases opening : relay.opens event with
        | true =>
            obtain ⟨nothing, all⟩ := moved.opened opening
            simp [nothing, all, order]
        | false =>
            rw [← moved.works opening]
            simpa using rounds

-- When a round is over, everything that had entered before it was opened is handed out.
theorem run_delivers (later between earlier : List (Transition State Event))
    (stop opening : Transition State Event)
    (run : Run relay.step start (later ++ stop :: (between ++ opening :: earlier)) last)
    (opens : relay.opens opening.event = true) (emptied : relay.work stop.after = []) :
    entered relay earlier <+: handed relay (later ++ stop :: (between ++ opening :: earlier)) := by
  obtain ⟨middle, first, -⟩ := run.split later
  obtain rfl := first.newest_after
  obtain ⟨-, -, rounds⟩ := run_account relay initial kept moves empty idle first
  rw [emptied, List.append_nil] at rounds
  obtain ⟨items, later⟩ := handed_append relay later (stop :: (between ++ opening :: earlier))
  have admits := entered_admitted relay (stop :: between) earlier opening opens
  rw [later, rounds]
  exact admits.trans (List.prefix_append _ _)

end

-- A stretch of a run in which nothing enters.
def Undisturbed (s : State) (rest : List (Transition State Event)) (s' : State) : Prop :=
  Run relay.step s rest s' ∧ ∀ t ∈ rest, relay.enters t.event = []

variable {relay}

theorem Undisturbed.rest (s : State) : Undisturbed relay s [] s := ⟨.rest, by simp⟩

theorem Undisturbed.first {s s' s'' : State} {event : Event}
    {rest : List (Transition State Event)} (stepped : relay.step event s = some s')
    (silent : relay.enters event = []) (after : Undisturbed relay s' rest s'') :
    Undisturbed relay s (rest ++ [⟨s, event, s'⟩]) s'' := by
  refine ⟨(Run.rest.next stepped).append after.1, fun t member => ?_⟩
  rcases List.mem_append.mp member with later | now
  · exact after.2 t later
  · obtain rfl := List.mem_singleton.mp now
    exact silent

theorem Undisturbed.append {s s' s'' : State} {first second : List (Transition State Event)}
    (before : Undisturbed relay s first s') (after : Undisturbed relay s' second s'') :
    Undisturbed relay s (second ++ first) s'' := by
  refine ⟨before.1.append after.1, fun t member => ?_⟩
  rcases List.mem_append.mp member with later | earlier
  · exact after.2 t later
  · exact before.2 t earlier

theorem Undisturbed.entered {s s' : State} {rest past : List (Transition State Event)}
    (undisturbed : Undisturbed relay s rest s') :
    entered relay (rest ++ past) = entered relay past := by
  have silent := undisturbed.2
  clear undisturbed
  induction rest with
  | nil => rfl
  | cons t rest ih =>
      have here : relay.enters t.event = [] := silent t List.mem_cons_self
      simpa [Relays.entered, here] using ih fun u member => silent u (List.mem_cons_of_mem _ member)

variable (relay)

/-- Every item is handed out once and in the order of entry: no later than the end of a round
opened after its entry, and rounds can always be brought to their end. -/
structure HandsOut (start : State) (closes : Event → Bool) : Prop where
  order : ∀ past last, Run relay.step start past last →
    entered relay past = handed relay past ++ relay.backlog last
  delivers : ∀ later stop between opening earlier last,
    Run relay.step start (later ++ stop :: (between ++ opening :: earlier)) last →
    relay.opens opening.event = true → closes stop.event = true →
    entered relay earlier <+: handed relay (later ++ stop :: (between ++ opening :: earlier))
  drains : ∀ past last, Run relay.step start past last → ∃ rest dry,
    Undisturbed relay last rest dry ∧ handed relay (rest ++ past) = entered relay past

end

end Relays
