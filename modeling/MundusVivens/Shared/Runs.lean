import Mathlib.Logic.Relation

set_option autoImplicit false

/-!
# Runs of a partial step function

A step function that has no result models an operation the program leaves
undefined. A run records its transitions, newest first, so that a property may
speak about what happened before a step.
-/

namespace Runs

structure Transition (State Event : Type) where
  before : State
  event : Event
  after : State

section

variable {State Event : Type}

inductive Run (step : Event → State → Option State) (start : State) :
    List (Transition State Event) → State → Prop where
  | rest : Run step start [] start
  | next {past : List (Transition State Event)} {s s' : State} {event : Event}
      (run : Run step start past s) (stepped : step event s = some s') :
      Run step start (⟨s, event, s'⟩ :: past) s'

/-- Every transition met the guard when it was taken. -/
def Guarded (guard : State → Event → Prop) (past : List (Transition State Event)) : Prop :=
  ∀ t ∈ past, guard t.before t.event

variable {step : Event → State → Option State} {start last : State}
variable {past : List (Transition State Event)} {guard : State → Event → Prop}

@[simp] theorem Guarded.nil : Guarded guard [] := by simp [Guarded]

@[simp] theorem Guarded.cons (t : Transition State Event) :
    Guarded guard (t :: past) ↔ guard t.before t.event ∧ Guarded guard past := by
  simp [Guarded]

-- A property of the past and the present, kept by every guarded step.
theorem Run.history {property : List (Transition State Event) → State → Prop}
    (initial : property [] start)
    (kept : ∀ past s event s', Run step start past s → property past s → guard s event →
      step event s = some s' → property (⟨s, event, s'⟩ :: past) s')
    (run : Run step start past last) (guarded : Guarded guard past) : property past last := by
  induction run with
  | rest => exact initial
  | next run stepped ih =>
      obtain ⟨allowed, guarded⟩ := (Guarded.cons _).mp guarded
      exact kept _ _ _ _ run (ih guarded) allowed stepped

theorem Run.invariant {invariant : State → Prop} (initial : invariant start)
    (kept : ∀ s event s', invariant s → guard s event → step event s = some s' → invariant s')
    (run : Run step start past last) (guarded : Guarded guard past) : invariant last := by
  let property : List (Transition State Event) → State → Prop := fun _ s => invariant s
  have keptOnly : ∀ past s event s', Run step start past s → property past s → guard s event →
      step event s = some s' → property (⟨s, event, s'⟩ :: past) s' :=
    fun _ s event s' _ => kept s event s'
  exact run.history initial keptOnly guarded

theorem Run.preserved (invariant : State → Prop) (initial : invariant start)
    (kept : ∀ s event s', invariant s → step event s = some s' → invariant s')
    (run : Run step start past last) : invariant last := by
  induction run with
  | rest => exact initial
  | next run stepped ih => exact kept _ _ _ ih stepped

theorem Run.taken (run : Run step start past last) (t : Transition State Event)
    (member : t ∈ past) :
    ∃ later earlier, past = later ++ t :: earlier ∧ Run step start earlier t.before ∧
      step t.event t.before = some t.after := by
  induction run with
  | rest => cases member
  | @next past s s' event run stepped ih =>
      rcases List.mem_cons.mp member with rfl | member
      · exact ⟨[], past, rfl, run, stepped⟩
      · obtain ⟨later, earlier, rfl, before, taken⟩ := ih member
        exact ⟨⟨s, event, s'⟩ :: later, earlier, rfl, before, taken⟩

-- What every guarded step does from a state with the invariant, every transition did.
theorem Run.transitions {invariant : State → Prop}
    {property : State → Event → State → Prop} (initial : invariant start)
    (kept : ∀ s event s', invariant s → guard s event → step event s = some s' → invariant s')
    (does : ∀ s event s', invariant s → guard s event → step event s = some s' →
      property s event s')
    (run : Run step start past last) (guarded : Guarded guard past)
    (t : Transition State Event) (member : t ∈ past) : property t.before t.event t.after := by
  obtain ⟨later, earlier, rfl, before, taken⟩ := run.taken t member
  have guardedEarlier : Guarded guard earlier :=
    fun u earlierMember => guarded u (by simp [earlierMember])
  exact does _ _ _ (before.invariant initial kept guardedEarlier) (guarded t member) taken

-- The state after a list of events, oldest first.
def follow (step : Event → State → Option State) (events : List Event) (s : State) :
    Option State :=
  events.foldlM (fun s event => step event s) s

theorem follow_cons (event : Event) (events : List Event) (s : State) :
    follow step (event :: events) s = (step event s).bind (follow step events) := rfl

theorem follow_append (first second : List Event) (s : State) :
    follow step (first ++ second) s = (follow step first s).bind (follow step second) := by
  rw [follow, List.foldlM_append]
  rfl

theorem follow_idle {s s' : State} (events : List Event)
    (idle : ∀ event ∈ events, ∀ next, step event s = some next → next = s)
    (followed : follow step events s = some s') : s' = s := by
  induction events with
  | nil => exact (Option.some.inj followed).symm
  | cons event rest ih =>
      rw [follow_cons, Option.bind_eq_some_iff] at followed
      obtain ⟨m, stepped, later⟩ := followed
      obtain rfl := idle event List.mem_cons_self m stepped
      exact ih (fun event member => idle event (List.mem_cons_of_mem _ member)) later

-- Visits to distinct items, seen from one of them: something that is related before its own visit,
-- and something that is related after it.
theorem follow_around {Item : Type} (visit : Item → Event) (related : State → State → Prop)
    (refl : ∀ s, related s s) (trans : ∀ a b c, related a b → related b c → related a c) (x : Item)
    (others : ∀ y, y ≠ x → ∀ s s', step (visit y) s = some s' → related s s') (items : List Item)
    (distinct : items.Nodup) (member : x ∈ items) (s s' : State)
    (followed : follow step (items.map visit) s = some s') :
    ∃ m m', related s m ∧ step (visit x) m = some m' ∧ related m' s' := by
  have apart (rest : List Item) (absent : x ∉ rest) (s s' : State)
      (followed : follow step (rest.map visit) s = some s') : related s s' := by
    induction rest generalizing s with
    | nil =>
        obtain rfl := Option.some.inj followed
        exact refl s
    | cons y rest ih =>
        rw [List.map_cons, follow_cons, Option.bind_eq_some_iff] at followed
        obtain ⟨m, visited, later⟩ := followed
        have other : y ≠ x := by
          rintro rfl
          exact absent List.mem_cons_self
        exact trans _ _ _ (others y other s m visited)
          (ih (fun later => absent (List.mem_cons_of_mem _ later)) m later)
  induction items generalizing s with
  | nil => cases member
  | cons y rest ih =>
      rw [List.map_cons, follow_cons, Option.bind_eq_some_iff] at followed
      obtain ⟨m, visited, later⟩ := followed
      obtain ⟨first, distinct⟩ := List.nodup_cons.mp distinct
      by_cases here : y = x
      next =>
        subst here
        exact ⟨s, m, refl s, visited, apart rest first m s' later⟩
      next =>
        have there : x ∈ rest := (List.mem_cons.mp member).resolve_left (Ne.symm here)
        obtain ⟨before, after, reached, own, rest⟩ := ih distinct there m later
        exact ⟨before, after, trans _ _ _ (others y here s m visited) reached, own, rest⟩

theorem follow_total {Item : Type} (visit : Item → Event) (invariant : State → Prop)
    (items : List Item) (visits : ∀ x ∈ items, ∀ s, invariant s →
      ∃ s', step (visit x) s = some s' ∧ invariant s') (s : State) (holds : invariant s) :
    ∃ s', follow step (items.map visit) s = some s' ∧ invariant s' := by
  induction items generalizing s with
  | nil => exact ⟨s, rfl, holds⟩
  | cons x rest ih =>
      obtain ⟨m, visited, here⟩ := visits x List.mem_cons_self s holds
      obtain ⟨s', followed, there⟩ :=
        ih (fun y member => visits y (List.mem_cons_of_mem _ member)) m here
      refine ⟨s', ?_, there⟩
      rw [List.map_cons, follow_cons, visited]
      exact followed

theorem Run.append {middle : State} {earlier : List (Transition State Event)}
    (first : Run step start earlier middle) (second : Run step middle past last) :
    Run step start (past ++ earlier) last := by
  induction second with
  | rest => exact first
  | next _ stepped ih => exact .next ih stepped

theorem Run.split (later : List (Transition State Event)) {earlier : List (Transition State Event)}
    (run : Run step start (later ++ earlier) last) :
    ∃ middle, Run step start earlier middle ∧ Run step middle later last := by
  induction later generalizing last with
  | nil => exact ⟨last, run, .rest⟩
  | cons t later ih =>
      cases run with
      | next run stepped =>
          obtain ⟨middle, first, second⟩ := ih run
          exact ⟨middle, first, second.next stepped⟩

theorem Run.exists_of_follow (events : List Event)
    (followed : follow step events start = some last) :
    ∃ past, Run step start past last ∧ past.reverse.map (·.event) = events := by
  induction events generalizing start with
  | nil =>
      obtain rfl := Option.some.inj followed
      exact ⟨[], .rest, rfl⟩
  | cons event events ih =>
      simp only [follow, List.foldlM_cons, Option.bind_eq_bind, Option.bind_eq_some_iff]
        at followed
      obtain ⟨middle, stepped, rest⟩ := followed
      obtain ⟨past, run, order⟩ := ih rest
      refine ⟨past ++ [⟨start, event, middle⟩], (Run.rest.next stepped).append run, ?_⟩
      simp [← order]

theorem Run.newest_after {t : Transition State Event} (run : Run step start (t :: past) last) :
    t.after = last := by
  cases run
  rfl

theorem Guarded.mono {allowed : State → Event → Prop}
    (wider : ∀ s event, guard s event → allowed s event) (guarded : Guarded guard past) :
    Guarded allowed past :=
  fun t member => wider _ _ (guarded t member)

-- Follow a list of events as long as each is allowed.
def followWhile (step : Event → State → Option State) (allowed : State → Event → Bool)
    (events : List Event) (s : State) : Option State :=
  follow (fun event s => if allowed s event then step event s else none) events s

theorem follow_of_followWhile (allowed : State → Event → Bool) (events : List Event) (s s' : State)
    (followed : followWhile step allowed events s = some s') : follow step events s = some s' := by
  induction events generalizing s with
  | nil => exact followed
  | cons event events ih =>
      rw [followWhile, follow_cons, Option.bind_eq_some_iff] at followed
      obtain ⟨m, stepped, rest⟩ := followed
      split at stepped
      next => rw [follow_cons, stepped]; exact ih m rest
      next => cases stepped

-- Events that can be followed under a guard to a state that passes a check make up a run.
theorem Run.exists_of_check (allowed : State → Event → Bool) (events : List Event)
    (check : State → Bool) (passed : (followWhile step allowed events start).any check = true) :
    ∃ past last, Run step start past last ∧ Guarded (fun s event => allowed s event = true) past ∧
      past.reverse.map (·.event) = events ∧ check last = true := by
  cases followed : followWhile step allowed events start with
  | none => simp [followed] at passed
  | some last =>
      obtain ⟨past, run, order⟩ := Run.exists_of_follow events followed
      refine ⟨past, last, ?_, ?_, order, by simpa [followed] using passed⟩
      all_goals
        clear order passed followed
        induction run with
        | rest => first | exact .rest | exact Guarded.nil
        | next run stepped ih =>
            split at stepped
            next permitted =>
              first
              | exact ih.next stepped
              | exact (Guarded.cons _).mpr ⟨permitted, ih⟩
            next => cases stepped

theorem Run.exists_around (allowed : State → Event → Bool) (before : List Event) (event : Event)
    (after : List Event) (check : State → Bool)
    (passed : (followWhile step (fun _ _ => true) before start).any (fun s =>
      (step event s).any fun s' => (followWhile step allowed after s').any check) = true) :
    ∃ later s s' earlier last, Run step start (later ++ ⟨s, event, s'⟩ :: earlier) last ∧
      Guarded (fun s event => allowed s event = true) later ∧
      (later ++ ⟨s, event, s'⟩ :: earlier).reverse.map (·.event) = before ++ event :: after ∧
      check last = true := by
  obtain ⟨earlier, s, first, -, order, rest⟩ := Run.exists_of_check _ _ _ passed
  obtain ⟨s', stepped, rest⟩ := (Option.any_eq_true _ _).mp rest
  obtain ⟨later, last, second, guarded, order', checked⟩ := Run.exists_of_check _ _ _ rest
  refine ⟨later, s, s', earlier, last, (first.next stepped).append second, guarded, ?_, checked⟩
  simp [← order, ← order']

theorem Run.exists_of_last (events : List Event) (event : Event) (check : State → State → Bool)
    (passed : (followWhile step (fun _ _ => true) events start).any
      (fun s => (step event s).any (check s)) = true) :
    ∃ past s s', Run step start (⟨s, event, s'⟩ :: past) s' ∧
      (⟨s, event, s'⟩ :: past).reverse.map (·.event) = events ++ [event] ∧ check s s' = true := by
  obtain ⟨past, s, run, -, order, last⟩ := Run.exists_of_check _ _ _ passed
  obtain ⟨s', stepped, checked⟩ := Option.any_eq_true _ _ |>.mp last
  exact ⟨past, s, s', run.next stepped, by simp [← order], checked⟩

def record (step : Event → State → Option State) :
    List Event → List (Transition State Event) → State →
      Option (List (Transition State Event) × State)
  | [], past, s => some (past, s)
  | event :: events, past, s =>
      match step event s with
      | none => none
      | some s' => record step events (⟨s, event, s'⟩ :: past) s'

theorem Run.of_record (events : List Event) (past recorded : List (Transition State Event))
    (s last : State) (run : Run step start past s)
    (kept : record step events past s = some (recorded, last)) :
    Run step start recorded last ∧
      recorded.reverse.map (·.event) = past.reverse.map (·.event) ++ events := by
  induction events generalizing past s with
  | nil =>
      obtain ⟨rfl, rfl⟩ := Prod.mk.inj (Option.some.inj kept)
      exact ⟨run, by simp⟩
  | cons event events ih =>
      rw [record] at kept
      split at kept
      next => cases kept
      next s' stepped =>
        obtain ⟨all, order⟩ := ih _ s' (run.next stepped) kept
        exact ⟨all, by simp [order]⟩

theorem Run.exists_of_record (events : List Event)
    (check : List (Transition State Event) → State → Bool)
    (passed : (record step events [] start).any (fun kept => check kept.1 kept.2) = true) :
    ∃ past last, Run step start past last ∧ past.reverse.map (·.event) = events ∧
      check past last = true := by
  obtain ⟨⟨past, last⟩, kept, checked⟩ := (Option.any_eq_true _ _).mp passed
  obtain ⟨run, order⟩ := Run.of_record events [] past start last .rest kept
  exact ⟨past, last, run, by simpa using order, checked⟩

end

end Runs
