import MundusVivens.Systems.MainLoop

set_option autoImplicit false

/-!
# Shutdown

The end of `main`: NPCs that still talk are put back to waiting, and one last batch
goes to the AI server.
-/

namespace MundusVivens

variable {F : Type}

-- The activities by which the shutdown knows an NPC in a dialogue.
def showsDialogue (activity : String) : Bool :=
  activity = "대화 요청 중" || activity = "플레이어와 대화 중" || activity = "플레이어와 대화 대기"

namespace World

def finalUpdate (w : World F) (e : Entity) : Option (AgentStatusUpdate F) := do
  let _ ← w.reg.busy e
  let identity ← w.reg.identity e
  let loc ← w.reg.location e
  let emotion ← w.reg.emotion e
  let activity ← w.reg.activity e
  if showsDialogue activity.currentActivity then
    some ⟨identity.npcId, loc.locationName, loc.x, loc.y, loc.z, emotion.currentEmotion, "대기"⟩
  else none

-- The loop body: `activity` is written and `shutdown_updates` grows.
def putBack (state : World F × List (AgentStatusUpdate F)) (e : Entity) :
    World F × List (AgentStatusUpdate F) :=
  match state.1.finalUpdate e with
  | some update => (state.1.setActivity e "대기", state.2 ++ [update])
  | none => state

-- The world after the loop, and `shutdown_updates`.
def shutdown (w : World F) (rank : Entity → Nat) : World F × List (AgentStatusUpdate F) :=
  (w.view rank fun e => (w.reg.busy e).isSome).foldl putBack (w, [])

variable {w m : World F} {e x n : Entity}

theorem finalUpdate_setActivity (activity : String) (other : x ≠ e) :
    (w.setActivity e activity).finalUpdate x = w.finalUpdate x := by
  simp [finalUpdate, setActivity, other]

theorem active_of_finalUpdate {update : AgentStatusUpdate F}
    (found : w.finalUpdate e = some update) : ∃ activity, w.reg.activity e = some activity := by
  simp only [finalUpdate, Option.bind_eq_bind, Option.bind_eq_some_iff] at found
  obtain ⟨tag, -, identity, -, loc, -, emotion, -, activity, active, -⟩ := found
  exact ⟨activity, active⟩

theorem putBack_all (visits : List Entity) (updates : List (AgentStatusUpdate F))
    (distinct : visits.Nodup) :
    (visits.foldl putBack (w, updates)).2 = updates ++ visits.filterMap w.finalUpdate ∧
      ∀ x, (visits.foldl putBack (w, updates)).1.reg.activity x =
        if x ∈ visits ∧ (w.finalUpdate x).isSome then some ⟨"대기"⟩ else w.reg.activity x := by
  induction visits generalizing w updates with
  | nil => simp
  | cons e rest ih =>
      obtain ⟨fresh, distinct⟩ := List.nodup_cons.mp distinct
      rw [List.foldl_cons]
      cases found : w.finalUpdate e with
      | some update =>
          have turn : putBack (w, updates) e = (w.setActivity e "대기", updates ++ [update]) := by
            simp [putBack, found]
          rw [turn]
          obtain ⟨sent, shown⟩ := ih (w := w.setActivity e "대기") (updates ++ [update]) distinct
          have same : rest.filterMap (w.setActivity e "대기").finalUpdate =
              rest.filterMap w.finalUpdate :=
            List.filterMap_congr fun x member =>
              finalUpdate_setActivity "대기" fun same => fresh (same ▸ member)
          refine ⟨by rw [sent, same, List.filterMap_cons_some found]; simp, fun x => ?_⟩
          rw [shown x]
          by_cases here : x = e
          · subst here
            obtain ⟨activity, active⟩ := active_of_finalUpdate found
            rw [if_neg fun both => fresh both.1, if_pos ⟨List.mem_cons_self, by simp [found]⟩]
            simp [setActivity, active]
          · rw [finalUpdate_setActivity "대기" here]
            have others : (w.setActivity e "대기").reg.activity x = w.reg.activity x := by
              simp [setActivity, here]
            simp only [List.mem_cons, here, false_or, others]
      | none =>
          have turn : putBack (w, updates) e = (w, updates) := by simp [putBack, found]
          rw [turn]
          obtain ⟨sent, shown⟩ := ih (w := w) updates distinct
          refine ⟨by rw [sent, List.filterMap_cons_none found], fun x => ?_⟩
          rw [shown x]
          by_cases here : x = e
          · subst here
            simp [found]
          · simp [here]

def stillTalking (w : World F) (rank : Entity → Nat) : List Entity :=
  (w.view rank fun e => (w.reg.busy e).isSome).filter fun e => (w.finalUpdate e).isSome

theorem stillTalking_nodup (rank : Entity → Nat) : (w.stillTalking rank).Nodup :=
  (view_nodup w rank _).filter _

theorem mem_stillTalking (rank : Entity → Nat) :
    e ∈ w.stillTalking rank ↔ (w.finalUpdate e).isSome = true := by
  rw [stillTalking, List.mem_filter, mem_view]
  refine ⟨And.right, fun found => ⟨?_, found⟩⟩
  have busy : (w.reg.busy e).isSome = true := by
    cases held : w.reg.busy e with
    | none => simp [finalUpdate, held] at found
    | some tag => rfl
  have valid : w.reg.valid e = true := by
    by_contra gone
    simp [(w.reg.owned e (by simpa using gone)).1] at busy
  refine ⟨?_, valid, busy⟩
  by_contra late
  simp [w.reg.issued e (Nat.not_lt.mp late)] at valid

theorem shutdown_updates (rank : Entity → Nat) :
    (w.shutdown rank).2 = (w.stillTalking rank).filterMap w.finalUpdate := by
  rw [shutdown, (putBack_all _ [] (view_nodup w rank _)).1, List.nil_append, stillTalking,
    List.filterMap_filter]
  refine List.filterMap_congr fun e _ => ?_
  cases w.finalUpdate e <;> rfl

theorem shutdown_activity (rank : Entity → Nat) :
    (w.shutdown rank).1.reg.activity n =
      if (w.finalUpdate n).isSome then some ⟨"대기"⟩ else w.reg.activity n := by
  rw [shutdown, (putBack_all _ [] (view_nodup w rank _)).2]
  by_cases found : (w.finalUpdate n).isSome = true
  · have visited := (List.mem_filter.mp ((mem_stillTalking rank).mpr found)).1
    rw [if_pos ⟨visited, found⟩, if_pos found]
  · rw [if_neg fun both => found both.2, if_neg found]

end World

end MundusVivens
