import MundusVivens.Dialogue.Formation
import MundusVivens.Systems.MainLoop
import MundusVivens.World.Settlers

set_option autoImplicit false

/-!
# The groups of one call

One call of `SystemSocialInteraction` lets every speaker take its turn. Each group
that forms keeps to itself, and its members become busy.
-/

namespace MundusVivens

open Scalar World

variable {F : Type} [Scalar F]

-- One call of `SystemSocialInteraction`.
def socialCall (rank : Entity → Nat) (draw : Entity → SocialDraw F) (w : World F) :
    Option (World F) :=
  socialPass draw (w.view rank fun e => (w.reg.activity e).isSome) [] w

-- The calls issued between two worlds are the dialogues of these groups, in their order.
structure Requested (w w' : World F) (groups : List (List Entity)) : Prop where
  issued : w'.grpc.nextTicket = w.grpc.nextTicket + groups.length
  triggers : ∀ i group, groups[i]? = some group → ∃ ids,
    (w'.grpc.calls (w.grpc.nextTicket + i)).map (·.request) =
      some (.triggerDialogue ids group w.clock.tick)

/-- The groups that a call has formed by the end. -/
structure SocialGroups (w w' : World F) (groups : List (List Entity)) : Prop where
  requested : Requested w w' groups
  disjoint : groups.Pairwise List.Disjoint
  together : ∀ group ∈ groups, w.TalksTogether group
  marked : ∀ x, w'.reg.busy x =
    if x ∈ groups.flatten then some .dialogue else w.reg.busy x

omit [Scalar F] in
theorem Requested.none {w w' : World F} (same : w'.grpc = w.grpc) : Requested w w' [] where
  issued := by simp [same]
  triggers := by simp

omit [Scalar F] in
theorem Requested.of_same {w m w' : World F} {groups : List (List Entity)}
    (requested : Requested w m groups) (same : w'.grpc = m.grpc) : Requested w w' groups := by
  refine ⟨?_, ?_⟩
  · rw [same]
    exact requested.issued
  · rw [same]
    exact requested.triggers

omit [Scalar F] in
theorem Requested.append {w m w' : World F} {groups : List (List Entity)}
    (requested : Requested w m groups) (ids : List UInt32) (group : List Entity)
    (issued : w'.grpc = m.grpc.issue (.triggerDialogue ids group w.clock.tick)) :
    Requested w w' (groups ++ [group]) := by
  have count := requested.issued
  refine ⟨by simp [issued, GrpcClient.issue, count, Nat.add_assoc], fun i other found => ?_⟩
  by_cases earlier : i < groups.length
  next =>
    rw [List.getElem?_append_left earlier] at found
    obtain ⟨ids, trigger⟩ := requested.triggers i other found
    refine ⟨ids, ?_⟩
    have old : w.grpc.nextTicket + i ≠ m.grpc.nextTicket := by omega
    simpa [issued, GrpcClient.issue, old] using trigger
  next =>
    rw [List.getElem?_append_right (by omega)] at found
    obtain ⟨bound, rfl⟩ := List.getElem?_eq_some_iff.mp found
    obtain rfl : i = groups.length := by
      simp only [List.length_singleton] at bound
      omega
    exact ⟨ids, by simp [issued, GrpcClient.issue, count]⟩

structure Gathers (start : World F) (groups : List (List Entity)) (processed : List Entity)
    (w : World F) : Prop where
  calling : Calling start processed w
  known : ∀ x, x ∈ processed ↔ x ∈ groups.flatten
  requested : Requested start w groups
  together : ∀ group ∈ groups, start.TalksTogether group
  distinct : groups.flatten.Nodup

theorem Calling.congr {start w : World F} {processed processed' : List Entity}
    (calling : Calling start processed w) (same : ∀ x, x ∈ processed' ↔ x ∈ processed) :
    Calling start processed' w where
  within := calling.within
  shown := calling.shown
  energy := calling.energy
  refractory := calling.refractory
  busy := fun x => by simp [calling.busy, same]

theorem Gathers.turn {start w w' : World F} {groups : List (List Entity)}
    {processed members : List Entity} (gathers : Gathers start groups processed w)
    (outcome : Outcome start processed w w' members) :
    ∃ groups', Gathers start groups' (members ++ processed) w' := by
  cases outcome with
  | alone calling same =>
      exact ⟨groups, calling, gathers.known, gathers.requested.of_same same, gathers.together,
        gathers.distinct⟩
  | group ids members calling issued together apart =>
      refine ⟨groups ++ [members], calling.congr (by simp), fun x => ?_,
        gathers.requested.append ids members issued, fun group member => ?_, ?_⟩
      · simp [gathers.known, or_comm]
      · rcases List.mem_append.mp member with earlier | new
        · exact gathers.together group earlier
        · obtain rfl := List.mem_singleton.mp new
          exact together
      · rw [List.flatten_append]
        refine List.nodup_append.mpr ⟨gathers.distinct, by simpa using together.distinct, ?_⟩
        rintro x earlier y later rfl
        exact apart x (by simpa using later) ((gathers.known x).mpr earlier)

theorem socialPass_gathers (draw : Entity → SocialDraw F) (start : World F)
    (once : start.grid.ListsOnce) (speakers : List Entity) (groups : List (List Entity))
    (processed : List Entity) (w w' : World F) (gathers : Gathers start groups processed w)
    (passed : socialPass draw speakers processed w = some w') :
    ∃ groups' processed', Gathers start groups' processed' w' := by
  induction speakers generalizing groups processed w with
  | nil =>
      obtain rfl : w = w' := by simpa [socialPass] using passed
      exact ⟨groups, processed, gathers⟩
  | cons e rest ih =>
      rw [socialPass] at passed
      split at passed
      next => cases passed
      next next grown talked =>
        obtain ⟨members, rfl, outcome⟩ :=
          socialInteraction_forms once gathers.calling (draw e) grown talked
        obtain ⟨groups', after⟩ := gathers.turn outcome
        exact ih groups' _ next after passed

/-- Every call of `SystemSocialInteraction` forms proper groups. -/
theorem social_groups (w w' : World F) (rank : Entity → Nat) (draw : Entity → SocialDraw F)
    (once : w.grid.ListsOnce) (called : socialCall rank draw w = some w') :
    ∃ groups, SocialGroups w w' groups := by
  have begins : Gathers w [] [] w :=
    ⟨.refl w, by simp, .none rfl, by simp, by simp⟩
  obtain ⟨groups, processed, gathers⟩ := socialPass_gathers draw w once _ [] [] w w' begins called
  refine ⟨groups, gathers.requested, (List.nodup_flatten.mp gathers.distinct).2, gathers.together,
    fun x => ?_⟩
  simp [gathers.calling.busy, gathers.known]

def tavernData : WorldBootstrapData ℚ :=
  { locations := [⟨"여관", 10, 0, 10, 1, 1, 1⟩]
    agents :=
      [⟨7, "ella", "엘라", "여관", 10, 0, 10, "평온", "대기", 1 / 2, [⟨8, 50, 50⟩, ⟨9, 50, 50⟩]⟩,
        ⟨8, "hans", "한스", "여관", 11, 0, 10, "평온", "대기", 1 / 2, [⟨7, 50, 50⟩, ⟨9, 50, 50⟩]⟩,
        ⟨9, "ida", "이다", "여관", 12, 0, 10, "평온", "대기", 1 / 2, [⟨7, 50, 50⟩, ⟨8, 50, 50⟩]⟩]
    furniture := []
    npcSpeed := 2
    ticksPerGameHour := 60 }

def tavern : World ℚ :=
  populate (emptyWorld tavernData ⟨2, 60⟩ (some [])) tavernData fun _ => ⟨100, 100⟩

theorem tavern_boots : bootstrap tavernData ⟨2, 60⟩ (some []) (fun _ => ⟨100, 100⟩) = some tavern := by
  rw [bootstrap, if_neg (by decide), if_neg (by decide +kernel)]
  rfl

def evening : World ℚ := { tavern with clock := { tavern.clock with tick := 1 } }

def openDraw : SocialDraw ℚ := ⟨fun _ => 1, id, 0, 0, 0, fun _ => 0⟩

-- Ella turns to Hans, and Ida joins them.
theorem social_groups_tavern : ∃ w' groups, socialCall id (fun _ => openDraw) evening = some w' ∧
    (∀ x < 3, (w'.reg.busy x).isSome = true) ∧ SocialGroups evening w' groups := by
  have formed : (socialCall id (fun _ => openDraw) evening).any
      (fun w' => ∀ x < 3, (w'.reg.busy x).isSome = true) = true := by decide +kernel
  obtain ⟨w', called, busy⟩ := (Option.any_eq_true _ _).mp formed
  have once : evening.grid.ListsOnce := (bootstrap_coherent _ _ _ _ _ tavern_boots).listsOnce
  obtain ⟨groups, social⟩ := social_groups evening w' id (fun _ => openDraw) once called
  exact ⟨w', groups, called, by simpa using busy, social⟩

end MundusVivens
