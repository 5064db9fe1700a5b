import MundusVivens.Shared.Relay

set_option autoImplicit false

/-!
# Double buffers

Threads append to the back buffer under a lock. A consumer swaps the buffers,
walks the front buffer item by item and clears it before it swaps again. An item
need not stand for anything to be done.
-/

open Runs Relays

inductive DoubleBuffer.Place where
  | cleared
  | walking (position : Nat)
  | walked
deriving DecidableEq

structure DoubleBuffer (Item : Type) where
  back : List Item
  front : List Item
  place : DoubleBuffer.Place

namespace DoubleBuffer

inductive Event (Item : Type) where
  | push (thread : Nat) (item : Item)
  | swap
  | turn
  | leave
  | clear

section

variable {Item : Type}

def step : Event Item → DoubleBuffer Item → Option (DoubleBuffer Item)
  | .push _ item, b => some { b with back := b.back ++ [item] }
  | .swap, b => if b.place = .cleared then some ⟨b.front, b.back, .walking 0⟩ else none
  | .turn, b =>
      match b.place with
      | .walking i => if i < b.front.length then some { b with place := .walking (i + 1) } else none
      | _ => none
  | .leave, b =>
      match b.place with
      | .walking i => if i < b.front.length then none else some { b with place := .walked }
      | _ => none
  | .clear, b =>
      if b.place = .walked then some { b with front := [], place := .cleared } else none

def unread (b : DoubleBuffer Item) : List Item :=
  match b.place with
  | .walking i => b.front.drop i
  | _ => []

def pushed : Event Item → List Item
  | .push _ item => [item]
  | _ => []

def visited (b : DoubleBuffer Item) : Event Item → List Item
  | .turn => b.unread.head?.toList
  | _ => []

def isSwap : Event Item → Bool
  | .swap => true
  | _ => false

def isLeave : Event Item → Bool
  | .leave => true
  | _ => false

-- The buffer that is swapped in is empty.
def Sound (b : DoubleBuffer Item) : Prop := b.place = .cleared → b.front = []

-- What a step does to the items: they stay, one is visited, or all are taken over.
structure Handles (b : DoubleBuffer Item) (event : Event Item) (b' : DoubleBuffer Item) : Prop where
  sound : b'.Sound
  keeps : b.unread ++ b.back ++ pushed event = b.visited event ++ (b'.unread ++ b'.back)
  opened : isSwap event = true → b'.unread = b.unread ++ b.back
  works : isSwap event = false → b.unread = b.visited event ++ b'.unread
  left : isLeave event = true → b'.unread = []

theorem step_handles (b : DoubleBuffer Item) (event : Event Item) (b' : DoubleBuffer Item)
    (sound : b.Sound) (stepped : step event b = some b') : Handles b event b' := by
  cases event with
  | push thread item =>
      obtain rfl := Option.some.inj stepped
      exact ⟨sound, by simp [pushed, visited, unread], nofun, fun _ => rfl, nofun⟩
  | swap =>
      simp only [step] at stepped
      split at stepped
      next cleared =>
        obtain rfl := Option.some.inj stepped
        have empty := sound cleared
        exact ⟨nofun, by simp [pushed, visited, unread, cleared, empty],
          fun _ => by simp [unread, cleared], nofun, nofun⟩
      next => cases stepped
  | turn =>
      simp only [step] at stepped
      split at stepped
      next i walking =>
        split at stepped
        next more =>
          obtain rfl := Option.some.inj stepped
          have item : b.front.drop i = b.front[i] :: b.front.drop (i + 1) :=
            List.drop_eq_getElem_cons more
          have split : b.unread = b.visited .turn ++ b.front.drop (i + 1) := by
            simp only [visited, unread, walking]
            rw [item]
            rfl
          refine ⟨nofun, ?_, nofun, fun _ => split, nofun⟩
          rw [split]
          simp [pushed, unread]
        next => cases stepped
      next => cases stepped
  | leave =>
      simp only [step] at stepped
      split at stepped
      next i walking =>
        split at stepped
        next => cases stepped
        next passed =>
          obtain rfl := Option.some.inj stepped
          have done : b.front.drop i = [] := List.drop_eq_nil_of_le (Nat.le_of_not_lt passed)
          exact ⟨nofun, by simp [pushed, visited, unread, walking, done], nofun,
            fun _ => by simp [visited, unread, walking, done], fun _ => rfl⟩
      next => cases stepped
  | clear =>
      simp only [step] at stepped
      split at stepped
      next walked =>
        obtain rfl := Option.some.inj stepped
        exact ⟨fun _ => rfl, by simp [pushed, visited, unread, walked], nofun,
          fun _ => by simp [visited, unread, walked], nofun⟩
      next => cases stepped

theorem follow_turns (turns i : Nat) (back front : List Item) (bound : i + turns ≤ front.length) :
    follow step (List.replicate turns .turn) ⟨back, front, .walking i⟩ =
      some ⟨back, front, .walking (i + turns)⟩ := by
  induction turns generalizing i with
  | zero => rfl
  | succ turns ih =>
      have more : i < front.length := by omega
      have rest := ih (i + 1) (by omega)
      have order : i + 1 + turns = i + (turns + 1) := by omega
      rw [order] at rest
      simpa [follow, List.replicate_succ, step, more] using rest

variable {Task : Type} (task : Item → Option Task)

def relay : Relay (DoubleBuffer Item) (Event Item) Task where
  step := step
  enters := fun event => (pushed event).filterMap task
  leaves := fun b event => (b.visited event).filterMap task
  opens := isSwap
  backlog := fun b => (b.unread ++ b.back).filterMap task
  work := fun b => b.unread.filterMap task

theorem step_moves (b : DoubleBuffer Item) (event : Event Item) (b' : DoubleBuffer Item)
    (sound : b.Sound) (stepped : step event b = some b') : Moves (relay task) b event b' := by
  have handled := step_handles b event b' sound stepped
  constructor
  case keeps =>
    have kept := congrArg (List.filterMap task) handled.keeps
    simpa [relay] using kept
  case opened =>
    intro opens
    obtain rfl : event = .swap := by cases event <;> first | rfl | cases opens
    exact ⟨rfl, congrArg (List.filterMap task) (handled.opened rfl)⟩
  case works =>
    intro continues
    have kept := congrArg (List.filterMap task) (handled.works continues)
    simpa [relay] using kept

theorem walk_ends (left i : Nat) (b : DoubleBuffer Item) (walking : b.place = .walking i)
    (bound : b.front.length - i = left) :
    ∃ rest, Undisturbed (relay task) b rest { b with front := [], place := .cleared } := by
  induction left generalizing i b with
  | zero =>
      have passed : ¬i < b.front.length := by omega
      have left : (relay task).step .leave b = some { b with place := .walked } := by
        simp [relay, step, walking, passed]
      have cleared : (relay task).step .clear { b with place := .walked } =
          some { b with front := [], place := .cleared } := rfl
      exact ⟨_, ((Undisturbed.rest _).first cleared rfl).first left rfl⟩
  | succ left ih =>
      have more : i < b.front.length := by omega
      have turned : (relay task).step .turn b = some { b with place := .walking (i + 1) } := by
        simp [relay, step, walking, more]
      obtain ⟨rest, walked⟩ := ih (i + 1) { b with place := .walking (i + 1) } rfl (by simp; omega)
      exact ⟨_, walked.first turned rfl⟩

theorem round_ends (b : DoubleBuffer Item) (sound : b.Sound) :
    ∃ rest, Undisturbed (relay task) b rest { b with front := [], place := .cleared } := by
  cases place : b.place with
  | walking i => exact walk_ends task _ i b place rfl
  | walked =>
      have cleared : (relay task).step .clear b = some { b with front := [], place := .cleared } := by
        simp [relay, step, place]
      exact ⟨_, (Undisturbed.rest _).first cleared rfl⟩
  | cleared =>
      have same : ({ b with front := [], place := .cleared } : DoubleBuffer Item) = b := by
        cases b
        simp_all [Sound]
      rw [same]
      exact ⟨[], .rest b⟩

theorem handsOut (start : DoubleBuffer Item) (outside : start.unread = [])
    (unfilled : start.back = []) (sound : start.Sound) : HandsOut (relay task) start isLeave := by
  have empty : (relay task).backlog start = [] := by simp [relay, outside, unfilled]
  have idle : (relay task).work start = [] := by simp [relay, outside]
  have kept (b event b') (sound : Sound b) (stepped : (relay task).step event b = some b') :=
    (step_handles b event b' sound stepped).sound
  have account {past last} (run : Run (relay task).step start past last) :=
    run_account (relay task) sound kept (step_moves task) empty idle run
  refine ⟨fun past last run => (account run).2.1, ?_, ?_⟩
  · intro later stop between opening earlier last run opens closes
    obtain ⟨past, _, -, before, taken⟩ := run.taken stop (by simp)
    have passed := (step_handles _ _ _ (account before).1 taken).left closes
    exact run_delivers (relay task) sound kept (step_moves task) empty idle later between earlier
      stop opening run opens (by simp [relay, passed])
  · intro past last run
    obtain ⟨first, ended⟩ := round_ends task last (account run).1
    have swapped : (relay task).step .swap { last with front := [], place := .cleared } =
        some ⟨[], last.back, .walking 0⟩ := rfl
    obtain ⟨second, walked⟩ := walk_ends task _ 0 ⟨[], last.back, .walking 0⟩ rfl rfl
    have dry := ended.append (walked.first swapped rfl)
    have total := (account (run.append dry.1)).2.1
    rw [dry.entered] at total
    exact ⟨_, _, dry, by simpa [relay, unread] using total.symm⟩

end

end DoubleBuffer
