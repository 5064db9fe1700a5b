import MundusVivens.Ledger.Projection
import MundusVivens.Systems.Social

set_option autoImplicit false

namespace MundusVivens

open Scalar

variable {F : Type} [Scalar F]

namespace World

variable (w w' : World F) (e : Entity)

omit [Scalar F] in
theorem ensureCooldown_ledger : (w.ensureCooldown e).1.ledger = w.ledger := by
  unfold ensureCooldown
  split <;> rfl

def Talkers (l : Ledger) (es : List Entity) : Prop :=
  ∀ e ∈ es, l.active e = true ∧ l.playerTag e = none ∧ l.reason e = none

omit [Scalar F] in
theorem talker_of_checks (speaks : w.isSpeaker e = true) (free : w.isOccupied e = false)
    (shown : (w.reg.activity e).isSome) :
    w.ledger.active e = true ∧ w.ledger.playerTag e = none ∧ w.ledger.reason e = none := by
  simp only [isSpeaker, Bool.and_eq_true] at speaks
  simp only [isOccupied, Bool.or_eq_false_iff] at free
  have untagged : w.reg.playerTag e = none := by simpa using speaks.1.1
  have idle : w.reg.busy e = none := by simpa using free.1
  exact ⟨shown, untagged, by simp [ledger, idle]⟩

theorem gatherNeighbor_ledger (processed : List Entity) (initiator : Entity)
    (locI : LocationComp F) (draw : SocialDraw F) (state next : Gathering F) (neighbor : Entity)
    (gathered : gatherNeighbor processed initiator locI draw state neighbor = some next)
    (same : state.world.ledger = w.ledger) (talkers : Talkers w.ledger state.candidates) :
    next.world.ledger = w.ledger ∧ Talkers w.ledger next.candidates := by
  have ready := (state.world.ensureCooldown_ledger neighbor).trans same
  unfold gatherNeighbor at gathered
  dsimp only at gathered
  split at gathered
  next => exact Option.some.inj gathered ▸ ⟨same, talkers⟩
  split at gathered
  next => exact Option.some.inj gathered ▸ ⟨same, talkers⟩
  next checked =>
    split at gathered
    next => exact Option.some.inj gathered ▸ ⟨same, talkers⟩
    next activity shown =>
      split at gathered
      next => exact Option.some.inj gathered ▸ ⟨ready, talkers⟩
      split at gathered
      next => exact Option.some.inj gathered ▸ ⟨ready, talkers⟩
      next =>
        simp only [Option.bind_eq_bind, Option.bind_eq_some_iff] at gathered
        obtain ⟨locC, -, gathered⟩ := gathered
        split at gathered
        next => exact Option.some.inj gathered ▸ ⟨ready, talkers⟩
        next =>
          obtain rfl := Option.some.inj gathered
          refine ⟨ready, fun e member => ?_⟩
          rcases List.mem_append.mp member with earlier | added
          · exact talkers e earlier
          · obtain rfl := List.mem_singleton.mp added
            simp only [Bool.or_eq_true, Bool.not_eq_true', not_or, Bool.not_eq_false,
              Bool.not_eq_true] at checked
            have talker := state.world.talker_of_checks e checked.1 checked.2 (by simp [shown])
            rwa [same] at talker

theorem gatherNeighbors_ledger (processed : List Entity) (initiator : Entity)
    (locI : LocationComp F) (draw : SocialDraw F) (neighbors : List Entity)
    (state last : Gathering F)
    (gathered : neighbors.foldlM (gatherNeighbor processed initiator locI draw) state = some last)
    (same : state.world.ledger = w.ledger) (talkers : Talkers w.ledger state.candidates) :
    last.world.ledger = w.ledger ∧ Talkers w.ledger last.candidates := by
  induction neighbors generalizing state with
  | nil => exact Option.some.inj gathered ▸ ⟨same, talkers⟩
  | cons neighbor rest ih =>
      simp only [List.foldlM_cons, Option.bind_eq_bind, Option.bind_eq_some_iff] at gathered
      obtain ⟨next, first, later⟩ := gathered
      obtain ⟨same', talkers'⟩ := w.gatherNeighbor_ledger processed initiator locI draw state next
        neighbor first same talkers
      exact ih next later same' talkers'

theorem mem_of_mem_shuffled (rank : Nat → Nat) (candidates : List Entity)
    (member : e ∈ shuffled rank candidates) : e ∈ candidates := by
  obtain ⟨⟨entry, position⟩, sorted, rfl⟩ := List.mem_map.mp member
  have indexed := (List.mem_insertionSort _).mp sorted
  exact List.fst_mem_of_mem_zipIdx indexed

theorem pickWeighted_mem (targets : List (Entity × F)) (roll : F)
    (picked : pickWeighted targets roll = some e) : e ∈ targets.map (·.1) := by
  induction targets generalizing roll with
  | nil => cases picked
  | cons target rest ih =>
      unfold pickWeighted at picked
      dsimp only at picked
      split at picked
      next =>
        obtain rfl := Option.some.inj picked
        simp
      next => exact List.mem_cons_of_mem _ (ih _ picked)

theorem chooseTarget_mem (initiator target : Entity) (idI : UInt32) (locI : LocationComp F)
    (cooldown : CooldownComp) (draw : SocialDraw F) (candidates : List Entity)
    (chosen : w.chooseTarget initiator idI locI cooldown draw candidates = some (some target)) :
    target ∈ candidates := by
  simp only [chooseTarget, Option.bind_eq_bind, Option.bind_eq_some_iff] at chosen
  obtain ⟨weights, -, chosen⟩ := chosen
  have possible : ∀ entry ∈ (candidates.zip weights).filterMap
      (fun entry => entry.2.map fun x => (entry.1, x)), entry.1 ∈ candidates := by
    intro entry member
    obtain ⟨⟨e, weight⟩, zipped, weighted⟩ := List.mem_filterMap.mp member
    obtain ⟨x, -, rfl⟩ := Option.map_eq_some_iff.mp weighted
    exact (List.of_mem_zip zipped).1
  split at chosen
  next picked found =>
    obtain rfl := Option.some.inj (Option.some.inj chosen)
    obtain ⟨entry, member, rfl⟩ := List.mem_map.mp (pickWeighted_mem _ _ _ found)
    exact possible entry member
  next =>
    obtain ⟨entry, last, rfl⟩ := Option.map_eq_some_iff.mp (Option.some.inj chosen)
    exact possible entry (List.mem_of_getLast? last)

theorem joinGroup_members (initiator target : Entity) (draw : SocialDraw F) (group next : Group)
    (other : Entity) (joined : w.joinGroup initiator target draw group other = some next) :
    ∀ e ∈ next.members, e ∈ group.members ∨ e = other := by
  unfold joinGroup at joined
  split at joined
  next => exact Option.some.inj joined ▸ fun _ => .inl
  split at joined
  next => exact Option.some.inj joined ▸ fun _ => .inl
  next =>
    simp only [Option.bind_eq_bind, Option.bind_eq_some_iff] at joined
    obtain ⟨identity, -, joined⟩ := joined
    split at joined
    next => exact Option.some.inj joined ▸ fun _ => .inl
    next =>
      split at joined
      next =>
        obtain rfl := Option.some.inj joined
        intro e member
        simpa using member
      next => exact Option.some.inj joined ▸ fun _ => .inl

theorem joinGroups_members (initiator target : Entity) (draw : SocialDraw F)
    (candidates : List Entity) (group last : Group)
    (joined : candidates.foldlM (w.joinGroup initiator target draw) group = some last) :
    ∀ e ∈ last.members, e ∈ group.members ∨ e ∈ candidates := by
  induction candidates generalizing group with
  | nil => exact Option.some.inj joined ▸ fun _ => .inl
  | cons other rest ih =>
      simp only [List.foldlM_cons, Option.bind_eq_bind, Option.bind_eq_some_iff] at joined
      obtain ⟨next, first, later⟩ := joined
      intro e member
      rcases ih next later e member with earlier | waiting
      · rcases w.joinGroup_members initiator target draw group next other first e earlier with
          known | rfl
        · exact .inl known
        · exact .inr (by simp)
      · exact .inr (List.mem_cons_of_mem _ waiting)

theorem markRequesting_ledger (marked : markRequesting w e = some w') :
    w.ledger.valid e = true ∧ w'.grpc = w.grpc ∧ w'.ledger = w.ledger.engage [e] := by
  obtain ⟨valid, calls, held⟩ := ledger_setBusy_dialogue _ e w' (markRequesting_cases marked).2
  rw [ledger_setActivity] at valid held
  exact ⟨valid, calls, held⟩

theorem markAll_ledger (members : List Entity) (marked : members.foldlM markRequesting w = some w') :
    (∀ e ∈ members, w.ledger.valid e = true) ∧ w'.grpc = w.grpc ∧
      w'.ledger = w.ledger.engage members := by
  induction members generalizing w with
  | nil =>
      obtain rfl := Option.some.inj marked
      refine ⟨by simp, rfl, ?_⟩
      simp [Ledger.engage]
  | cons e rest ih =>
      simp only [List.foldlM_cons, Option.bind_eq_bind, Option.bind_eq_some_iff] at marked
      obtain ⟨middle, first, later⟩ := marked
      obtain ⟨valid, calls, held⟩ := w.markRequesting_ledger middle e first
      obtain ⟨valid', calls', held'⟩ := ih middle later
      refine ⟨?_, calls'.trans calls, ?_⟩
      · intro x member
        rcases List.mem_cons.mp member with rfl | member
        · exact valid
        · simpa [held, Ledger.engage] using valid' x member
      · rw [held', held, Ledger.engage_engage]
        rfl

theorem requestDialogue_ledger (group : Group) (requested : w.requestDialogue group = some w') :
    (∀ e ∈ group.members, w.ledger.valid e = true) ∧
      w'.ledger = w.ledger.apply (.form w.grpc.nextTicket group.members) := by
  obtain ⟨marked, tagged, rfl⟩ := requestDialogue_cases requested
  obtain ⟨valid, calls, held⟩ := w.markAll_ledger marked group.members tagged
  refine ⟨valid, ?_⟩
  rw [ledger_issue_call _ _ (.group group.members) rfl, held, calls]
  rfl

-- Nothing happens to the ledger, or a group of idle NPCs requests a dialogue.
def Forms : Prop :=
  w'.ledger = w.ledger ∨ ∃ ticket members, w.ledger.Enabled (.form ticket members) ∧
    w'.ledger = w.ledger.apply (.form ticket members)

theorem approach_ledger (initiator : Entity) (cooldown : CooldownComp) (locI : LocationComp F)
    (draw : SocialDraw F) (candidates members : List Entity)
    (talkers : Talkers w.ledger (initiator :: candidates))
    (approached : w.approach initiator cooldown locI draw candidates = some (w', members)) :
    w.Forms w' := by
  cases approach_cases approached with
  | shy | alone | refused => exact .inl rfl
  | groups started _ identity targetIdentity target group tries _ chosen _ joined sent =>
      subst tries
      obtain ⟨valid, formed⟩ := requestDialogue_ledger _ w' group sent
      rw [ledger_setCooldown] at valid formed
      refine .inr ⟨_, group.members, ⟨w.ledger_fresh, fun e member => ?_⟩, formed⟩
      have target_mem := chooseTarget_mem _ _ _ _ _ _ _ _ chosen
      have talker := talkers e (by
        rcases joinGroups_members _ _ _ _ _ _ _ joined e member with pair | candidate
        · rcases List.mem_pair.mp pair with rfl | rfl
          · simp
          · exact List.mem_cons_of_mem _ target_mem
        · exact List.mem_cons_of_mem _ candidate)
      exact ⟨valid e member, talker⟩

theorem socialInteraction_ledger (processed grown : List Entity) (draw : SocialDraw F)
    (initiator : Entity)
    (talked : w.socialInteraction processed draw initiator = some (w', grown)) : w.Forms w' := by
  unfold socialInteraction at talked
  split at talked
  next locI activity identity _ shown _ =>
    split at talked
    next =>
      obtain ⟨rfl, -⟩ := Prod.mk.inj (Option.some.inj talked)
      exact .inl rfl
    next checked =>
      have ready := w.ensureCooldown_ledger initiator
      dsimp only at talked
      split at talked
      next =>
        obtain ⟨rfl, -⟩ := Prod.mk.inj (Option.some.inj talked)
        exact .inl ready
      next =>
        simp only [Option.bind_eq_bind, Option.bind_eq_some_iff] at talked
        obtain ⟨gathered, found, talked⟩ := talked
        simp only [Bool.or_eq_true, Bool.not_eq_true', not_or, Bool.not_eq_false,
          Bool.not_eq_true] at checked
        have speaker := w.talker_of_checks initiator checked.1.1.1 checked.2 (by simp [shown])
        have starts : Talkers w.ledger [initiator] := by
          intro e member
          obtain rfl := List.mem_singleton.mp member
          exact speaker
        obtain ⟨same, talkers⟩ := w.gatherNeighbors_ledger _ _ _ _ _ _ gathered found ready starts
        split at talked
        next =>
          obtain ⟨rfl, -⟩ := Prod.mk.inj (Option.some.inj talked)
          exact .inl same
        next =>
          simp only [Option.bind_eq_some_iff] at talked
          obtain ⟨⟨after, members⟩, approached, stored⟩ := talked
          obtain ⟨rfl, -⟩ := Prod.mk.inj (Option.some.inj stored)
          have forms := approach_ledger _ after initiator _ _ _ _ members (by
            rw [same]
            intro e member
            rcases List.mem_cons.mp member with rfl | member
            · exact speaker
            · exact talkers e (mem_of_mem_shuffled e _ _ member)) approached
          simpa [Forms, same] using forms
  next =>
    obtain ⟨rfl, -⟩ := Prod.mk.inj (Option.some.inj talked)
    exact .inl rfl

end World

end MundusVivens
