import MundusVivens.Ledger.SocialEffects
import MundusVivens.Systems.Footprints
import MundusVivens.World.Neighbours

set_option autoImplicit false

/-!
# How a group forms

What one initiator of `SystemSocialInteraction` does, compared with the world in
which the call began: it may tire, and it may gather one group around itself.
-/

namespace MundusVivens

open Scalar

variable {F : Type} [Scalar F]

-- The cooldown of the entity, or the one it would be given.
def World.cooldownOf (w : World F) (x : Entity) : CooldownComp := (w.reg.cooldown x).getD .initial

/-- A living, sentient NPC that is free, rested and has the energy to talk. -/
structure World.MayTalk (w : World F) (x : Entity) : Prop where
  speaker : w.isSpeaker x = true
  shown : (w.reg.activity x).isSome = true
  free : w.isOccupied x = false
  energetic : 20 ≤ (w.cooldownOf x).socialEnergy
  rested : (w.cooldownOf x).cognitiveRefractoryUntil < w.clock.tick

-- In the same place as the initiator, and within 8 units of it.
structure World.Beside (w : World F) (initiator x : Entity) : Prop where
  place : ∃ locI loc, w.reg.location initiator = some locI ∧ w.reg.location x = some loc ∧
    loc.locationName = locI.locationName ∧
    le ((loc.x - locI.x) * (loc.x - locI.x) + (loc.z - locI.z) * (loc.z - locI.z))
      (lit 8 * lit 8) = true

-- Neither dislikes the other below -70.
structure World.OnTerms (w : World F) (initiator target : Entity) : Prop where
  likings : ∃ idI idT, w.reg.identity initiator = some idI ∧ w.reg.identity target = some idT ∧
    -70 ≤ w.liking initiator idT.npcId ∧ -70 ≤ w.liking target idI.npcId

/-- A group as it is meant to be: the initiator first, its target second. -/
structure World.TalksTogether (w : World F) (group : List Entity) : Prop where
  size : 2 ≤ group.length ∧ group.length ≤ 4
  distinct : group.Nodup
  eligible : ∀ x ∈ group, w.MayTalk x
  near : ∀ initiator others, group = initiator :: others → ∀ x ∈ others, w.Beside initiator x
  friendly : ∀ initiator target others, group = initiator :: target :: others →
    w.OnTerms initiator target

-- The call that began in `start` has put the members in `processed` into groups so far.
structure Calling (start : World F) (processed : List Entity) (w : World F) : Prop where
  within : ∀ x, Within World.socialScope 0 x start w
  shown : ∀ x, (w.reg.activity x).isSome = (start.reg.activity x).isSome
  energy : ∀ x, (w.cooldownOf x).socialEnergy = (start.cooldownOf x).socialEnergy
  refractory : ∀ x, (w.cooldownOf x).cognitiveRefractoryUntil =
      (start.cooldownOf x).cognitiveRefractoryUntil ∨
    start.clock.tick ≤ (w.cooldownOf x).cognitiveRefractoryUntil
  busy : ∀ x, w.reg.busy x = if x ∈ processed then some .dialogue else start.reg.busy x

namespace Calling

variable {start w w' : World F} {processed : List Entity}

theorem refl (w : World F) : Calling w [] w where
  within := fun x => .refl _ 0 x w
  shown := fun _ => rfl
  energy := fun _ => rfl
  refractory := fun _ => .inl rfl
  busy := fun x => by simp

theorem clock (calling : Calling start processed w) : w.clock = start.clock :=
  (calling.within 0).same .clock rfl

theorem identity (calling : Calling start processed w) (x : Entity) :
    w.reg.identity x = start.reg.identity x := (calling.within x).same .identity rfl

theorem location (calling : Calling start processed w) (x : Entity) :
    w.reg.location x = start.reg.location x := (calling.within x).same .location rfl

theorem liking (calling : Calling start processed w) (x : Entity) (id : UInt32) :
    w.liking x id = start.liking x id := by
  have same : w.reg.relationships x = start.reg.relationships x :=
    (calling.within x).same .relationships rfl
  simp [World.liking, World.relationship, same]

theorem isSpeaker (calling : Calling start processed w) (x : Entity) :
    w.isSpeaker x = start.isSpeaker x := by
  have tag : w.reg.playerTag x = start.reg.playerTag x := (calling.within x).same .playerTag rfl
  have health : w.reg.health x = start.reg.health x := (calling.within x).same .health rfl
  have sentience : w.reg.sentience x = start.reg.sentience x :=
    (calling.within x).same .sentience rfl
  simp [World.isSpeaker, World.isDead, tag, health, sentience]

theorem mayTalk (calling : Calling start processed w) {x : Entity} (may : w.MayTalk x) :
    start.MayTalk x ∧ x ∉ processed := by
  have free := may.free
  simp only [World.isOccupied, Bool.or_eq_false_iff] at free
  have combat : w.reg.combat x = start.reg.combat x := (calling.within x).same .combat rfl
  have idle : w.reg.busy x = none := by simpa using free.1
  have apart : x ∉ processed := by
    intro member
    simp [calling.busy, member] at idle
  have before : start.reg.busy x = none := by simpa [calling.busy, apart] using idle
  have calm : start.hasCombatTarget x = false := by
    simpa [World.hasCombatTarget, combat] using free.2
  refine ⟨⟨?_, ?_, ?_, ?_, ?_⟩, apart⟩
  · rw [← calling.isSpeaker]
    exact may.speaker
  · rw [← calling.shown]
    exact may.shown
  · simp [World.isOccupied, before, calm]
  · rw [← calling.energy]
    exact may.energetic
  · have rested := may.rested
    rw [calling.clock] at rested
    rcases calling.refractory x with same | tired
    · rwa [same] at rested
    · exact absurd rested (not_lt.mpr tired)

theorem setCooldown (calling : Calling start processed w) (e : Entity) (cooldown : CooldownComp)
    (energy : cooldown.socialEnergy = (start.cooldownOf e).socialEnergy)
    (refractory : cooldown.cognitiveRefractoryUntil =
        (start.cooldownOf e).cognitiveRefractoryUntil ∨
      start.clock.tick ≤ cooldown.cognitiveRefractoryUntil) :
    Calling start processed (w.setCooldown e cooldown) where
  within := fun x => by simpa [World.socialScope] using calling.within x
  shown := calling.shown
  energy := fun x => by
    by_cases same : x = e
    next => subst same; simpa [World.cooldownOf, World.setCooldown] using energy
    next => simpa [World.cooldownOf, World.setCooldown, same] using calling.energy x
  refractory := fun x => by
    by_cases same : x = e
    next => subst same; simpa [World.cooldownOf, World.setCooldown] using refractory
    next => simpa [World.cooldownOf, World.setCooldown, same] using calling.refractory x
  busy := calling.busy

theorem ensureCooldown (calling : Calling start processed w) (e : Entity) :
    Calling start processed (w.ensureCooldown e).1 ∧
      (w.ensureCooldown e).2 = w.cooldownOf e ∧ (w.ensureCooldown e).1.grpc = w.grpc := by
  unfold World.ensureCooldown
  cases has : w.reg.cooldown e with
  | none =>
      have given : w.cooldownOf e = .initial := by simp [World.cooldownOf, has]
      have energy := calling.energy e
      have refractory := calling.refractory e
      rw [given] at energy refractory
      exact ⟨calling.setCooldown e .initial energy refractory, given.symm, rfl⟩
  | some cooldown => exact ⟨calling, by simp [World.cooldownOf, has], rfl⟩

end Calling

structure Candidate (start : World F) (processed : List Entity) (initiator : Entity)
    (locI : LocationComp F) (x : Entity) : Prop where
  may : start.MayTalk x
  apart : x ∉ processed
  other : x ≠ initiator
  place : ∃ loc, start.reg.location x = some loc ∧ loc.locationName = locI.locationName

namespace World

variable {start w w' : World F} {processed : List Entity} {initiator : Entity}
  {locI : LocationComp F}

theorem gatherNeighbor_adds (draw : SocialDraw F) (state next : Gathering F) (neighbor : Entity)
    (calling : Calling start processed state.world)
    (gathered : gatherNeighbor processed initiator locI draw state neighbor = some next) :
    Calling start processed next.world ∧ next.world.grpc = state.world.grpc ∧
      (next.candidates = state.candidates ∨
        next.candidates = state.candidates ++ [neighbor] ∧
          Candidate start processed initiator locI neighbor) := by
  obtain ⟨ready, cooldown, calm⟩ := calling.ensureCooldown neighbor
  unfold gatherNeighbor at gathered
  dsimp only at gathered
  split at gathered
  next => exact Option.some.inj gathered ▸ ⟨calling, rfl, .inl rfl⟩
  next known =>
    split at gathered
    next => exact Option.some.inj gathered ▸ ⟨calling, rfl, .inl rfl⟩
    next checked =>
      split at gathered
      next => exact Option.some.inj gathered ▸ ⟨calling, rfl, .inl rfl⟩
      next activity shown =>
        split at gathered
        next => exact Option.some.inj gathered ▸ ⟨ready, calm, .inl rfl⟩
        next lively =>
          split at gathered
          next => exact Option.some.inj gathered ▸ ⟨ready, calm, .inl rfl⟩
          next =>
            simp only [Option.bind_eq_bind, Option.bind_eq_some_iff] at gathered
            obtain ⟨locC, located, gathered⟩ := gathered
            split at gathered
            next => exact Option.some.inj gathered ▸ ⟨ready, calm, .inl rfl⟩
            next here =>
              obtain rfl := Option.some.inj gathered
              refine ⟨ready, calm, .inr ⟨rfl, ?_⟩⟩
              simp only [Bool.or_eq_true, Bool.not_eq_true', not_or, Bool.not_eq_false,
                Bool.not_eq_true] at checked
              simp only [cooldown, not_or, not_lt, not_le] at lively
              obtain ⟨may, apart⟩ := calling.mayTalk
                ⟨checked.1, by simp [shown], checked.2, lively.1, lively.2⟩
              rw [ready.location] at located
              simp only [Bool.or_eq_true, decide_eq_true_eq, not_or] at known
              exact ⟨may, apart, known.1, locC, located, (not_ne_iff.mp here).symm⟩

theorem gatherNeighbors_adds (draw : SocialDraw F) (neighbors : List Entity)
    (state last : Gathering F) (calling : Calling start processed state.world)
    (gathered : neighbors.foldlM (gatherNeighbor processed initiator locI draw) state =
      some last) :
    Calling start processed last.world ∧ last.world.grpc = state.world.grpc ∧
      ∃ added, last.candidates = state.candidates ++ added ∧ added.Sublist neighbors ∧
        ∀ x ∈ added, Candidate start processed initiator locI x := by
  induction neighbors generalizing state with
  | nil =>
      obtain rfl := Option.some.inj gathered
      exact ⟨calling, rfl, [], by simp, .slnil, by simp⟩
  | cons neighbor rest ih =>
      simp only [List.foldlM_cons, Option.bind_eq_bind, Option.bind_eq_some_iff] at gathered
      obtain ⟨next, first, later⟩ := gathered
      obtain ⟨between, calm, adds⟩ := gatherNeighbor_adds draw state next neighbor calling first
      obtain ⟨kept, calm', added, grown, among, candidates⟩ := ih next between later
      refine ⟨kept, calm'.trans calm, ?_⟩
      rcases adds with same | ⟨one, candidate⟩
      · exact ⟨added, by rw [grown, same], among.cons neighbor, candidates⟩
      · refine ⟨neighbor :: added, by simp [grown, one], among.cons_cons neighbor, fun x member => ?_⟩
        rcases List.mem_cons.mp member with rfl | later
        · exact candidate
        · exact candidates x later

theorem shuffled_perm (rank : Nat → Nat) (candidates : List Entity) :
    (shuffled rank candidates).Perm candidates := by
  have sorted := List.perm_insertionSort (fun a b => rank a.2 ≤ rank b.2) candidates.zipIdx
  have firsts := sorted.map Prod.fst
  rwa [List.zipIdx_map_fst] at firsts

theorem zip_mapM {A B : Type} (f : A → Option B) (items : List A) (results : List B)
    (mapped : items.mapM f = some results) : ∀ entry ∈ items.zip results, f entry.1 = some entry.2 := by
  induction items generalizing results with
  | nil => simp
  | cons item rest ih =>
      simp only [List.mapM_cons, Option.bind_eq_bind, Option.bind_eq_some_iff] at mapped
      obtain ⟨result, first, others, later, stored⟩ := mapped
      obtain rfl := Option.some.inj stored
      intro entry member
      rcases List.mem_cons.mp member with rfl | member
      · exact first
      · exact ih others later entry member

theorem chooseTarget_weighed (w : World F) (initiator target : Entity) (idI : UInt32)
    (locI : LocationComp F) (cooldown : CooldownComp) (draw : SocialDraw F)
    (candidates : List Entity)
    (chosen : w.chooseTarget initiator idI locI cooldown draw candidates = some (some target)) :
    target ∈ candidates ∧ ∃ weight, w.targetWeight initiator idI locI cooldown target =
      some (some weight) := by
  refine ⟨chooseTarget_mem w initiator target idI locI cooldown draw candidates chosen, ?_⟩
  simp only [chooseTarget, Option.bind_eq_bind, Option.bind_eq_some_iff] at chosen
  obtain ⟨weights, weighed, chosen⟩ := chosen
  have possible : ∀ entry ∈ (candidates.zip weights).filterMap
      (fun entry => entry.2.map fun x => (entry.1, x)),
      w.targetWeight initiator idI locI cooldown entry.1 = some (some entry.2) := by
    intro entry member
    obtain ⟨⟨e, weight⟩, zipped, weighted⟩ := List.mem_filterMap.mp member
    obtain ⟨x, has, rfl⟩ := Option.map_eq_some_iff.mp weighted
    have found := zip_mapM _ _ _ weighed _ zipped
    rwa [show weight = some x from has] at found
  split at chosen
  next picked found =>
    obtain rfl := Option.some.inj (Option.some.inj chosen)
    obtain ⟨entry, member, rfl⟩ := List.mem_map.mp (pickWeighted_mem _ _ _ found)
    exact ⟨entry.2, possible entry member⟩
  next =>
    obtain ⟨entry, last, rfl⟩ := Option.map_eq_some_iff.mp (Option.some.inj chosen)
    exact ⟨entry.2, possible entry (List.mem_of_getLast? last)⟩

theorem targetWeight_some (w : World F) (initiator candidate : Entity) (idI : UInt32)
    (locI : LocationComp F) (cooldown : CooldownComp) (weight : F)
    (weighed : w.targetWeight initiator idI locI cooldown candidate = some (some weight)) :
    candidate ≠ initiator ∧ ∃ identity, w.reg.identity candidate = some identity ∧
      -70 ≤ w.liking initiator identity.npcId ∧ -70 ≤ w.liking candidate idI := by
  unfold targetWeight at weighed
  split at weighed
  next => simp at weighed
  next checked =>
    simp only [Bool.or_eq_true, decide_eq_true_eq, not_or] at checked
    simp only [Option.bind_eq_bind, Option.bind_eq_some_iff] at weighed
    obtain ⟨identity, named, weighed⟩ := weighed
    refine ⟨checked.1, identity, named, ?_⟩
    by_contra hostile
    have disliked : w.liking initiator identity.npcId < -70 ∨ w.liking candidate idI < -70 := by
      omega
    simp only [disliked, if_true, ite_self] at weighed
    split at weighed
    next => split at weighed <;> simp [Option.bind_eq_some_iff] at weighed
    next => simp [Option.bind_eq_some_iff] at weighed

theorem joinGroup_adds (w : World F) (initiator target : Entity) (draw : SocialDraw F)
    (group next : Group) (other : Entity)
    (joined : w.joinGroup initiator target draw group other = some next) :
    next.members = group.members ∨
      next.members = group.members ++ [other] ∧ other ≠ initiator ∧ other ≠ target ∧
        group.members.length < 4 := by
  unfold joinGroup at joined
  split at joined
  next => exact Option.some.inj joined ▸ .inl rfl
  next checked =>
    simp only [Bool.or_eq_true, decide_eq_true_eq, not_or, not_le] at checked
    split at joined
    next => exact Option.some.inj joined ▸ .inl rfl
    next =>
      simp only [Option.bind_eq_bind, Option.bind_eq_some_iff] at joined
      obtain ⟨identity, -, joined⟩ := joined
      split at joined
      next => exact Option.some.inj joined ▸ .inl rfl
      next =>
        split at joined
        next =>
          exact Option.some.inj joined ▸ .inr ⟨rfl, checked.1.1, checked.1.2, checked.2⟩
        next => exact Option.some.inj joined ▸ .inl rfl

theorem joinGroups_adds (w : World F) (initiator target : Entity) (draw : SocialDraw F)
    (candidates : List Entity) (group last : Group)
    (joined : candidates.foldlM (w.joinGroup initiator target draw) group = some last)
    (size : group.members.length ≤ 4) :
    ∃ added, last.members = group.members ++ added ∧ added.Sublist candidates ∧
      (∀ x ∈ added, x ≠ initiator ∧ x ≠ target) ∧ last.members.length ≤ 4 := by
  induction candidates generalizing group with
  | nil =>
      obtain rfl := Option.some.inj joined
      exact ⟨[], by simp, .slnil, by simp, size⟩
  | cons other rest ih =>
      simp only [List.foldlM_cons, Option.bind_eq_bind, Option.bind_eq_some_iff] at joined
      obtain ⟨next, first, later⟩ := joined
      rcases w.joinGroup_adds initiator target draw group next other first with
        same | ⟨one, notInitiator, notTarget, room⟩
      · obtain ⟨added, grown, among, others, bound⟩ := ih next later (same ▸ size)
        exact ⟨added, by rw [grown, same], among.cons other, others, bound⟩
      · obtain ⟨added, grown, among, others, bound⟩ :=
          ih next later (by simpa [one] using room)
        refine ⟨other :: added, by simp [grown, one], among.cons_cons other, fun x member => ?_, bound⟩
        rcases List.mem_cons.mp member with rfl | later
        · exact ⟨notInitiator, notTarget⟩
        · exact others x later

theorem markRequesting_calling (calling : Calling start processed w) (e : Entity)
    (marked : markRequesting w e = some w') :
    Calling start (e :: processed) w' ∧ w'.grpc = w.grpc := by
  obtain ⟨⟨activity, shows⟩, tagged⟩ := markRequesting_cases marked
  have within (x : Entity) : Within socialScope 0 x w w' := by
    rw [within_setBusy _ tagged (by simp [socialScope])]
    simp [socialScope]
  obtain ⟨-, _, rfl⟩ := setBusy_cases tagged
  refine ⟨⟨fun x => (calling.within x).trans (within x), fun x => ?_, calling.energy,
    calling.refractory, fun x => ?_⟩, rfl⟩
  · rw [← calling.shown]
    by_cases same : x = e
    next => subst same; simp [setActivity, shows]
    next => simp [setActivity, same]
  · by_cases same : x = e
    next => simp [same]
    next => simpa [same, setActivity] using calling.busy x

theorem markAll_calling (members : List Entity) (calling : Calling start processed w)
    (marked : members.foldlM markRequesting w = some w') :
    Calling start (members.reverse ++ processed) w' ∧ w'.grpc = w.grpc := by
  induction members generalizing w processed with
  | nil =>
      obtain rfl := Option.some.inj marked
      exact ⟨calling, rfl⟩
  | cons e rest ih =>
      simp only [List.foldlM_cons, Option.bind_eq_bind, Option.bind_eq_some_iff] at marked
      obtain ⟨middle, first, later⟩ := marked
      obtain ⟨between, same⟩ := markRequesting_calling calling e first
      obtain ⟨kept, same'⟩ := ih between later
      exact ⟨by simpa using kept, same'.trans same⟩

theorem requestDialogue_calling (group : Group) (calling : Calling start processed w)
    (requested : w.requestDialogue group = some w') :
    Calling start (group.members.reverse ++ processed) w' ∧
      w'.grpc = w.grpc.issue (.triggerDialogue group.ids group.members start.clock.tick) := by
  obtain ⟨marked, marks, rfl⟩ := requestDialogue_cases requested
  obtain ⟨after, same⟩ := markAll_calling group.members calling marks
  refine ⟨⟨fun x => ?_, after.shown, after.energy, after.refractory, after.busy⟩, ?_⟩
  · simpa [socialScope] using after.within x
  · rw [← calling.clock, ← same]
    rfl

-- What an initiator has done: nothing that matters, or one group is formed and requested.
inductive Outcome (start : World F) (processed : List Entity) (w w' : World F) :
    List Entity → Prop where
  | alone (calling : Calling start processed w') (same : w'.grpc = w.grpc) :
      Outcome start processed w w' []
  | group (ids : List UInt32) (members : List Entity)
      (calling : Calling start (members.reverse ++ processed) w')
      (issued : w'.grpc = w.grpc.issue (.triggerDialogue ids members start.clock.tick))
      (together : start.TalksTogether members) (apart : ∀ x ∈ members, x ∉ processed) :
      Outcome start processed w w' members

theorem embarrassment_pos (extroversion : F) : 0 < embarrassment extroversion := by
  unfold embarrassment
  repeat' split
  all_goals decide

theorem approach_forms (calling : Calling start processed w)
    (may : start.MayTalk initiator ∧ initiator ∉ processed) (cooldown : CooldownComp)
    (energy : cooldown.socialEnergy = (start.cooldownOf initiator).socialEnergy)
    (refractory : cooldown.cognitiveRefractoryUntil =
      (start.cooldownOf initiator).cognitiveRefractoryUntil)
    (draw : SocialDraw F) (added candidates members : List Entity)
    (shuffles : candidates.Perm (initiator :: added)) (distinct : added.Nodup)
    (eligible : ∀ x ∈ added, Candidate start processed initiator locI x ∧ start.Beside initiator x)
    (approached : w.approach initiator cooldown locI draw candidates = some (w', members)) :
    Outcome start processed w w' members := by
  have tried : Calling start processed (w.setCooldown initiator
      { cooldown with lastInitiativeTick := w.clock.tick }) :=
    calling.setCooldown initiator _ energy (.inl refractory)
  cases approach_cases approached with
  | shy => exact .alone calling rfl
  | alone => exact .alone tried rfl
  | refused =>
      refine .alone (tried.setCooldown initiator _ energy (.inr ?_)) rfl
      have late := embarrassment_pos (extroversion (w.setCooldown initiator
        { cooldown with lastInitiativeTick := w.clock.tick }) initiator)
      rw [← calling.clock]
      dsimp only
      omega
  | groups started _ identity targetIdentity target group tries named chosen known joined sent =>
      subst tries
      obtain ⟨after, issued⟩ := requestDialogue_calling group tried sent
      obtain ⟨target_mem, weight, weighed⟩ :=
        chooseTarget_weighed _ _ _ _ _ _ _ _ chosen
      obtain ⟨other, targetName, targetNamed, likes, liked⟩ :=
        targetWeight_some _ _ _ _ _ _ _ weighed
      obtain ⟨joiners, grown, among, apart, bound⟩ :=
        joinGroups_adds _ initiator target draw candidates _ group joined (by simp)
      have members : group.members = initiator :: target :: joiners := by simpa using grown
      have listed (x : Entity) (member : x ∈ candidates) (unlike : x ≠ initiator) : x ∈ added :=
        (List.mem_cons.mp (shuffles.mem_iff.mp member)).resolve_left unlike
      have target_added := listed target target_mem other
      have joiners_added (x : Entity) (member : x ∈ joiners) : x ∈ added :=
        listed x (among.subset member) (apart x member).1
      have guests (x : Entity) (member : x ∈ target :: joiners) : x ∈ added := by
        rcases List.mem_cons.mp member with rfl | joins
        · exact target_added
        · exact joiners_added x joins
      obtain ⟨mayI, freeI⟩ := may
      have absent : initiator ∉ added := fun member => (eligible initiator member).1.other rfl
      have nodup : candidates.Nodup := shuffles.nodup_iff.mpr (distinct.cons absent)
      refine .group group.ids group.members after issued ⟨⟨?_, bound⟩, ?_, ?_, ?_, ?_⟩ ?_
      · simp [members]
      · rw [members]
        refine List.Nodup.cons (fun member => absent (guests _ member)) ?_
        exact (among.nodup nodup).cons fun member => (apart target member).2 rfl
      · rw [members]
        rintro x (_ | ⟨_, member⟩)
        · exact mayI
        · exact (eligible x (guests x member)).1.may
      · rw [members]
        intro first others same x member
        obtain ⟨rfl, rfl⟩ := List.cons.inj same
        exact (eligible x (guests x member)).2
      · rw [members]
        intro first second others same
        obtain ⟨rfl, rest⟩ := List.cons.inj same
        obtain ⟨rfl, -⟩ := List.cons.inj rest
        rw [tried.identity] at targetNamed
        rw [tried.liking] at likes liked
        rw [calling.identity] at named
        exact ⟨identity, targetName, named, targetNamed, likes, liked⟩
      · rw [members]
        rintro x (_ | ⟨_, member⟩)
        · exact freeI
        · exact (eligible x (guests x member)).1.apart

theorem socialInteraction_forms (once : start.grid.ListsOnce) (calling : Calling start processed w)
    (draw : SocialDraw F) (grown : List Entity)
    (talked : w.socialInteraction processed draw initiator = some (w', grown)) :
    ∃ members, grown = members ++ processed ∧ Outcome start processed w w' members := by
  unfold socialInteraction at talked
  split at talked
  next locI activity identity located shown _ =>
    split at talked
    next =>
      obtain ⟨rfl, rfl⟩ := Prod.mk.inj (Option.some.inj talked)
      exact ⟨[], rfl, .alone calling rfl⟩
    next checked =>
      obtain ⟨ready, given, calm⟩ := calling.ensureCooldown initiator
      dsimp only at talked
      split at talked
      next =>
        obtain ⟨rfl, rfl⟩ := Prod.mk.inj (Option.some.inj talked)
        exact ⟨[], rfl, .alone ready calm⟩
      next lively =>
        simp only [Option.bind_eq_bind, Option.bind_eq_some_iff] at talked
        obtain ⟨gathered, found, talked⟩ := talked
        obtain ⟨after, calm', added, candidates, among, eligible⟩ :=
          gatherNeighbors_adds draw _ _ gathered ready found
        have silent : gathered.world.grpc = w.grpc := calm'.trans calm
        split at talked
        next =>
          obtain ⟨rfl, rfl⟩ := Prod.mk.inj (Option.some.inj talked)
          exact ⟨[], rfl, .alone after silent⟩
        next =>
          simp only [Option.bind_eq_some_iff] at talked
          obtain ⟨⟨last, members⟩, approached, stored⟩ := talked
          obtain ⟨rfl, rfl⟩ := Prod.mk.inj (Option.some.inj stored)
          simp only [Bool.or_eq_true, Bool.not_eq_true', not_or, Bool.not_eq_false,
            Bool.not_eq_true] at checked
          simp only [given, not_or, not_lt, not_le] at lively
          have may := calling.mayTalk (x := initiator)
            ⟨checked.1.1.1, by simp [shown], checked.2, lively.1, lively.2.1⟩
          have rested : (w.cooldownOf initiator).cognitiveRefractoryUntil =
              (start.cooldownOf initiator).cognitiveRefractoryUntil := by
            have before := lively.2.1
            rw [calling.clock] at before
            exact (calling.refractory initiator).resolve_right (not_le.mpr before)
          have sameGrid : (w.ensureCooldown initiator).1.grid = start.grid :=
            (ready.within 0).same .grid rfl
          have placed : start.reg.location initiator = some locI := by
            rw [← calling.location]
            exact located
          refine ⟨members, rfl, ?_⟩
          have forms := approach_forms after may _ (by rw [given]; exact calling.energy initiator)
            (by rw [given]; exact rested) draw added _ members
            ((shuffled_perm draw.shuffle _).trans (by rw [candidates]; rfl))
            (among.nodup (LocationRegistry.getNearbyEntities_nodup _ (sameGrid ▸ once) _ _ _ _))
            (fun x member => ⟨eligible x member, ?_⟩) approached
          · cases forms with
            | alone kept same => exact .alone kept (same.trans silent)
            | group ids members kept issued together apart =>
                exact .group ids members kept (silent ▸ issued) together apart
          · obtain ⟨loc, found, near⟩ :=
              LocationRegistry.near_of_mem _ _ _ _ _ x (among.subset member)
            rw [ready.location] at found
            obtain ⟨loc', found', here⟩ := (eligible x member).place
            obtain rfl : loc = loc' := Option.some.inj (found.symm.trans found')
            exact ⟨locI, loc, placed, found, here, near⟩
  next =>
    obtain ⟨rfl, rfl⟩ := Prod.mk.inj (Option.some.inj talked)
    exact ⟨[], rfl, .alone calling rfl⟩

end World

end MundusVivens
