import Mathlib.Algebra.Order.Group.Defs
import Mathlib.Algebra.Order.BigOperators.Group.Finset
import Mathlib.Data.List.Chain
import Mathlib.Tactic.Abel

set_option autoImplicit false

/-!
# Paths of a relation

Chains that follow parent pointers, and the cost of a path as a best-first search bounds it.
-/

namespace Paths

open Relation

variable {α : Type}

section

variable {r r' : α → α → Prop} {child parent : α}

-- A path after one link was redirected is an old path, or passes the new link.
theorem transGen_redirect
    (redirected : ∀ a b, r' a b → r a b ∨ a = parent ∧ b = child)
    {a b : α} (path : TransGen r' a b) :
    TransGen r a b ∨ ReflTransGen r a parent ∧ ReflTransGen r child b := by
  induction path with
  | single link =>
      rcases redirected _ _ link with old | ⟨rfl, rfl⟩
      · exact .inl (.single old)
      · exact .inr ⟨.refl, .refl⟩
  | tail _ link ih =>
      rcases redirected _ _ link with old | ⟨rfl, rfl⟩
      · rcases ih with before | ⟨up, down⟩
        · exact .inl (before.tail old)
        · exact .inr ⟨up, down.tail old⟩
      · rcases ih with before | ⟨up, -⟩
        · exact .inr ⟨before.to_reflTransGen, .refl⟩
        · exact .inr ⟨up, .refl⟩

-- A child may be redirected to a new parent that it is no ancestor of.
theorem acyclic_redirect (acyclic : ∀ a, ¬TransGen r a a)
    (redirected : ∀ a b, r' a b → r a b ∨ a = parent ∧ b = child)
    (apart : ¬ReflTransGen r child parent) (a : α) : ¬TransGen r' a a := by
  intro cycle
  rcases transGen_redirect redirected cycle with old | ⟨up, down⟩
  · exact acyclic a old
  · exact apart (down.trans up)

theorem nodup_of_acyclic (acyclic : ∀ a, ¬TransGen r a a) {path : List α}
    (chain : path.IsChain r) : path.Nodup := by
  have chain : path.IsChain (TransGen r) := chain.imp fun _ _ => TransGen.single
  refine (List.isChain_iff_pairwise.mp chain).imp fun link same => ?_
  rw [same] at link
  exact acyclic _ link

theorem le_of_reflTransGen (rank : α → Nat) (rises : ∀ a b, r a b → rank a ≤ rank b) {a b : α}
    (path : ReflTransGen r a b) : rank a ≤ rank b := by
  induction path with
  | refl => exact le_refl _
  | tail _ link ih => exact ih.trans (rises _ _ link)

end

section

variable {R : Type} [AddCommGroup R] [LinearOrder R] [IsOrderedAddMonoid R]
  {r : α → α → Prop} (weight : α → α → R)

def cost : List α → R
  | a :: b :: rest => weight a b + cost (b :: rest)
  | _ => 0

variable {weight}

-- An estimate that falls by no more than the weight of a link bounds the cost of a path.
theorem estimate_le_cost (estimate : α → R)
    (consistent : ∀ a b, r a b → estimate a ≤ weight a b + estimate b) {path : List α}
    (chain : path.IsChain r) {a b : α} (starts : path.head? = some a)
    (ends : path.getLast? = some b) : estimate a ≤ cost weight path + estimate b := by
  induction path generalizing a with
  | nil => cases starts
  | cons first rest ih =>
      obtain rfl := Option.some.inj starts
      cases rest with
      | nil =>
          obtain rfl := Option.some.inj ends
          simp [cost]
      | cons second rest =>
          obtain ⟨link, chain⟩ := List.isChain_cons_cons.mp chain
          have later := ih chain rfl (by simpa using ends)
          calc estimate first ≤ weight first second + estimate second := consistent _ _ link
            _ ≤ weight first second + (cost weight (second :: rest) + estimate b) := by gcongr
            _ = cost weight (first :: second :: rest) + estimate b := by rw [cost]; abel

-- On a path to a goal that is not settled, some unsettled point has a score that together with its
-- estimate is at most the cost of the path.
theorem exists_unsettled (score estimate : α → R) (settled : α → Prop)
    (consistent : ∀ a b, r a b → estimate a ≤ weight a b + estimate b)
    (settles : ∀ a b, settled a → r a b → score b ≤ score a + weight a b) {path : List α}
    (chain : path.IsChain r) {a goal : α} (starts : path.head? = some a)
    (ends : path.getLast? = some goal) (unsettled : ¬settled goal) :
    ∃ b ∈ path, ¬settled b ∧
      score b + estimate b ≤ score a + cost weight path + estimate goal := by
  induction path generalizing a with
  | nil => cases starts
  | cons first rest ih =>
      obtain rfl := Option.some.inj starts
      by_cases done : settled first
      next =>
        cases rest with
        | nil =>
            obtain rfl := Option.some.inj ends
            exact absurd done unsettled
        | cons second rest =>
            obtain ⟨link, later⟩ := List.isChain_cons_cons.mp chain
            obtain ⟨b, member, waits, bound⟩ := ih later rfl (by simpa using ends)
            refine ⟨b, List.mem_cons_of_mem _ member, waits, ?_⟩
            calc score b + estimate b
                ≤ score second + cost weight (second :: rest) + estimate goal := bound
              _ ≤ score first + weight first second + cost weight (second :: rest)
                  + estimate goal := by
                    gcongr
                    exact settles _ _ done link
              _ = score first + cost weight (first :: second :: rest) + estimate goal := by
                    rw [cost]
                    abel
      next =>
        refine ⟨first, List.mem_cons_self, done, ?_⟩
        rw [add_assoc]
        gcongr
        exact estimate_le_cost estimate consistent chain rfl ends

-- Scores that rise by at least the weight of each link bound the cost of a path.
theorem cost_le_score (score : α → R) (rises : ∀ a b, r a b → score a + weight a b ≤ score b)
    {path : List α} (chain : path.IsChain r) {a b : α} (starts : path.head? = some a)
    (ends : path.getLast? = some b) : score a + cost weight path ≤ score b := by
  induction path generalizing a with
  | nil => cases starts
  | cons first rest ih =>
      obtain rfl := Option.some.inj starts
      cases rest with
      | nil =>
          obtain rfl := Option.some.inj ends
          simp [cost]
      | cons second rest =>
          obtain ⟨link, chain⟩ := List.isChain_cons_cons.mp chain
          have later := ih chain rfl (by simpa using ends)
          calc score first + cost weight (first :: second :: rest)
              = score first + weight first second + cost weight (second :: rest) := by
                rw [cost]
                abel
            _ ≤ score second + cost weight (second :: rest) := by
                gcongr
                exact rises _ _ link
            _ ≤ score b := later

end

end Paths
