import Mathlib.Data.Option.Basic

set_option autoImplicit false

namespace Folds

variable {S A : Type} {f : S → A → Option S}

theorem foldlM_keeps (property : S → Prop) (f : S → A → Option S)
    (each : ∀ s a s', property s → f s a = some s' → property s') (items : List A) (s s' : S)
    (holds : property s) (folded : items.foldlM f s = some s') : property s' := by
  induction items generalizing s with
  | nil =>
      obtain rfl := Option.some.inj folded
      exact holds
  | cons item rest ih =>
      simp only [List.foldlM_cons, Option.bind_eq_bind, Option.bind_eq_some_iff] at folded
      obtain ⟨next, first, later⟩ := folded
      exact ih next (each s item next holds first) later

-- A preorder that relates the states around every item relates those around the list.
theorem foldlM_related (related : S → S → Prop) (refl : ∀ s, related s s)
    (trans : ∀ r s t, related r s → related s t → related r t)
    (each : ∀ s a s', f s a = some s' → related s s') (items : List A) (s s' : S)
    (folded : items.foldlM f s = some s') : related s s' :=
  foldlM_keeps (related s) f (fun r a t before stepped => trans s r t before (each r a t stepped))
    items s s' (refl s) folded

-- Items that each have a result wherever the invariant holds have one in turn.
theorem foldlM_total (invariant : S → Prop) (f : S → A → Option S) (items : List A)
    (each : ∀ a ∈ items, ∀ s, invariant s → ∃ s', f s a = some s' ∧ invariant s') (s : S)
    (holds : invariant s) : ∃ s', items.foldlM f s = some s' ∧ invariant s' := by
  induction items generalizing s with
  | nil => exact ⟨s, rfl, holds⟩
  | cons item rest ih =>
      obtain ⟨m, first, here⟩ := each item List.mem_cons_self s holds
      obtain ⟨s', later, there⟩ := ih (fun a member => each a (List.mem_cons_of_mem _ member)) m here
      exact ⟨s', by rw [List.foldlM_cons, first]; exact later, there⟩

theorem mapM_total {B : Type} (f : A → Option B) (items : List A)
    (each : ∀ a ∈ items, ∃ b, f a = some b) : ∃ results, items.mapM f = some results := by
  induction items with
  | nil => exact ⟨[], rfl⟩
  | cons item rest ih =>
      obtain ⟨b, first⟩ := each item List.mem_cons_self
      obtain ⟨results, later⟩ := ih fun a member => each a (List.mem_cons_of_mem _ member)
      exact ⟨b :: results, by simp [List.mapM_cons, first, later]⟩

end Folds
