import MundusVivens.Ledger.Ledger

set_option autoImplicit false

namespace MundusVivens.Ledger

structure Roster (l : Ledger) : Prop where
  issued : ∀ e, l.nextEntity ≤ e → l.valid e = false
  owned : ∀ e, l.valid e = false →
    l.reason e = none ∧ l.playerTag e = none ∧ l.playerDialogue e = none
  indexed : ∀ id e, l.index.byNpcId id = some e →
    l.valid e = true ∧ l.npcId e = some id ∧ l.furniture e = false
  bound : ∀ session e, l.index.bySessionIndex session = some e → l.playerTag e = some ⟨session⟩
  players : ∀ e, (l.playerTag e).isSome → ∃ id, l.npcId e = some id ∧ l.index.byNpcId id = some e
  furnished : ∀ e, l.furniture e = true → l.active e = false ∧ l.playerTag e = none

namespace Roster

variable {l : Ledger}

theorem below (roster : Roster l) {e : Entity} (valid : l.valid e = true) : e < l.nextEntity := by
  by_contra above
  simp [roster.issued e (Nat.le_of_not_lt above)] at valid

theorem tagged_valid (roster : Roster l) {e : Entity} (tagged : (l.playerTag e).isSome) :
    l.valid e = true := by
  by_contra invalid
  simp [roster.owned e (by simpa using invalid)] at tagged

theorem dialogue_valid (roster : Roster l) {e : Entity} {dialogue : PlayerDialogueComp}
    (talking : l.playerDialogue e = some dialogue) : l.valid e = true := by
  by_contra invalid
  simp [roster.owned e (by simpa using invalid)] at talking

theorem change (roster : Roster l) (reason : Entity → Option BusyReason)
    (dialogue : Entity → Option PlayerDialogueComp) (pending : Nat → Option DialogueCall)
    (owned : ∀ e, l.valid e = false → reason e = none ∧ dialogue e = none) :
    Roster { l with reason := reason, playerDialogue := dialogue, pending := pending } where
  issued := roster.issued
  owned := fun e invalid => by
    obtain ⟨untagged, silent⟩ := owned e invalid
    exact ⟨untagged, (roster.owned e invalid).2.1, silent⟩
  indexed := roster.indexed
  bound := roster.bound
  players := roster.players
  furnished := roster.furnished

theorem release (roster : Roster l) (es : List Entity) : Roster (l.release es) :=
  roster.change _ _ _ fun e invalid => by
    obtain ⟨untagged, -, silent⟩ := roster.owned e invalid
    simp [untagged, silent]

theorem engage (roster : Roster l) (es : List Entity) (valid : ∀ e ∈ es, l.valid e = true) :
    Roster (l.engage es) :=
  roster.change _ _ _ fun e invalid => by
    obtain ⟨untagged, -, silent⟩ := roster.owned e invalid
    have other : e ∉ es := fun member => by simp [valid e member] at invalid
    simp [untagged, silent, other]

theorem close (roster : Roster l) (ticket : Nat) : Roster (l.close ticket) :=
  roster.change _ _ _ fun e invalid => by simp [roster.owned e invalid]

theorem call (roster : Roster l) (ticket : Nat) (dialogue : DialogueCall) :
    Roster (l.call ticket dialogue) :=
  roster.change _ _ _ fun e invalid => by simp [roster.owned e invalid]

theorem openDialogue (roster : Roster l) (npc player : Entity) (sessionId : UInt64) :
    Roster (l.openDialogue npc player sessionId) := by
  unfold Ledger.openDialogue
  split
  next valid =>
    refine roster.change _ _ _ fun e invalid => ?_
    have other : e ≠ player := by rintro rfl; simp [valid] at invalid
    simp [roster.owned e invalid, other]
  next => exact roster

theorem closeDialogue (roster : Roster l) (player : Option Entity) :
    Roster (l.closeDialogue player) :=
  roster.change _ _ _ fun e invalid => by simp [roster.owned e invalid]

theorem destroy_furniture (roster : Roster l) (e : Entity) (furniture : l.furniture e = true) :
    Roster (l.destroy e) := by
  have unindexed (id : UInt32) (x : Entity) (entry : l.index.byNpcId id = some x) : x ≠ e := by
    rintro rfl
    simp [(roster.indexed id x entry).2.2] at furniture
  have untagged : l.playerTag e = none := (roster.furnished e furniture).2
  constructor
  case issued =>
    intro x above
    by_cases same : x = e <;> simp [Ledger.destroy, same, roster.issued x above]
  case owned =>
    intro x invalid
    by_cases same : x = e
    next => simp [Ledger.destroy, same]
    next => simpa [Ledger.destroy, same] using roster.owned x (by simpa [Ledger.destroy, same] using invalid)
  case indexed =>
    intro id x entry
    simpa [Ledger.destroy, unindexed id x entry] using roster.indexed id x entry
  case bound =>
    intro session x entry
    have tag := roster.bound session x entry
    have other : x ≠ e := by rintro rfl; simp [untagged] at tag
    simpa [Ledger.destroy, other] using tag
  case players =>
    intro x tagged
    by_cases same : x = e
    next => simp [Ledger.destroy, same] at tagged
    next => simpa [Ledger.destroy, same] using roster.players x (by simpa [Ledger.destroy, same] using tagged)
  case furnished =>
    intro x furnished
    by_cases same : x = e
    next => simp [Ledger.destroy, same] at furnished
    next => simpa [Ledger.destroy, same] using roster.furnished x (by simpa [Ledger.destroy, same] using furnished)

theorem furnish (roster : Roster l) (id : UInt32) :
    Roster (l.furnish id) := by
  have fresh {x : Entity} (valid : l.valid x = true) : x ≠ l.nextEntity :=
    Nat.ne_of_lt (roster.below valid)
  constructor
  case issued =>
    intro x above
    have later : x ≠ l.nextEntity := Nat.ne_of_gt above
    simpa [Ledger.furnish, Ledger.create, later] using roster.issued x (Nat.le_of_succ_le above)
  case owned =>
    intro x invalid
    by_cases same : x = l.nextEntity
    next => simp [Ledger.furnish, Ledger.create, same] at invalid
    next =>
      simpa [Ledger.furnish, Ledger.create, Ledger.destroy, same] using
        roster.owned x (by simpa [Ledger.furnish, Ledger.create, same] using invalid)
  case indexed =>
    intro id x entry
    have known := roster.indexed id x entry
    simpa [Ledger.furnish, Ledger.create, fresh known.1] using known
  case bound =>
    intro session x entry
    have tag := roster.bound session x entry
    have other : x ≠ l.nextEntity := fresh (roster.tagged_valid (by simp [tag]))
    simpa [Ledger.furnish, Ledger.create, Ledger.destroy, other] using tag
  case players =>
    intro x tagged
    by_cases same : x = l.nextEntity
    next => simp [Ledger.furnish, Ledger.create, Ledger.destroy, same] at tagged
    next =>
      simpa [Ledger.furnish, Ledger.create, Ledger.destroy, same] using
        roster.players x (by simpa [Ledger.furnish, Ledger.create, Ledger.destroy, same] using tagged)
  case furnished =>
    intro x furnished
    by_cases same : x = l.nextEntity
    next => simp [Ledger.furnish, Ledger.create, Ledger.destroy, same]
    next =>
      simpa [Ledger.furnish, Ledger.create, Ledger.destroy, same] using
        roster.furnished x (by simpa [Ledger.furnish, same] using furnished)

theorem upkeep {l' : Ledger} (roster : Roster l) (kept : Upkeep l l') : Roster l' := by
  cases kept with
  | furnish id => exact roster.furnish id
  | demolish e furniture => exact roster.destroy_furniture e furniture
  | resume e waiting => exact roster.release [e]

theorem enlist (roster : Roster l) (session id : UInt32) (free : l.index.byNpcId id = none) :
    Roster (l.apply (.enlist session id)) := by
  have fresh {x : Entity} (valid : l.valid x = true) : x ≠ l.nextEntity :=
    Nat.ne_of_lt (roster.below valid)
  constructor
  case issued =>
    intro x above
    have later : x ≠ l.nextEntity := Nat.ne_of_gt above
    simpa [Ledger.apply, Ledger.create, later] using roster.issued x (Nat.le_of_succ_le above)
  case owned =>
    intro x invalid
    by_cases same : x = l.nextEntity
    next => simp [Ledger.apply, Ledger.create, same] at invalid
    next =>
      simpa [Ledger.apply, Ledger.create, Ledger.destroy, same] using
        roster.owned x (by simpa [Ledger.apply, Ledger.create, same] using invalid)
  case indexed =>
    intro other x entry
    by_cases same : other = id
    next =>
      obtain rfl : l.nextEntity = x := by simpa [Ledger.apply, same] using entry
      simp [Ledger.apply, Ledger.create, Ledger.destroy, same]
    next =>
      have known := roster.indexed other x (by simpa [Ledger.apply, same] using entry)
      simpa [Ledger.apply, Ledger.create, Ledger.destroy, fresh known.1] using known
  case bound =>
    intro other x entry
    by_cases same : other = session
    next =>
      obtain rfl : l.nextEntity = x := by simpa [Ledger.apply, same] using entry
      simp [Ledger.apply, same]
    next =>
      have tag := roster.bound other x (by simpa [Ledger.apply, same] using entry)
      have earlier : x ≠ l.nextEntity := fresh (roster.tagged_valid (by simp [tag]))
      simpa [Ledger.apply, earlier] using tag
  case players =>
    intro x tagged
    by_cases same : x = l.nextEntity
    next => simp [Ledger.apply, same]
    next =>
      obtain ⟨known, identity, entry⟩ :=
        roster.players x (by simpa [Ledger.apply, same] using tagged)
      have other : known ≠ id := by rintro rfl; simp [free] at entry
      exact ⟨known, by simp [Ledger.apply, same, identity], by simp [Ledger.apply, other, entry]⟩
  case furnished =>
    intro x furnished
    by_cases same : x = l.nextEntity
    next => simp [Ledger.apply, Ledger.create, Ledger.destroy, same] at furnished
    next =>
      simpa [Ledger.apply, Ledger.create, Ledger.destroy, same] using
        roster.furnished x (by simpa [Ledger.apply, Ledger.create, Ledger.destroy, same] using furnished)

theorem rejoin (roster : Roster l) (session : UInt32) (old : PlayerTag) (e : Entity)
    (tag : l.playerTag e = some old) : Roster (l.apply (.rejoin session old e)) := by
  have tagged : (l.playerTag e).isSome := by simp [tag]
  constructor
  case issued => exact roster.issued
  case owned =>
    intro x invalid
    have other : x ≠ e := by
      rintro rfl
      have valid := roster.tagged_valid tagged
      simp [Ledger.apply, valid] at invalid
    simpa [Ledger.apply, other] using roster.owned x invalid
  case indexed => exact roster.indexed
  case bound =>
    intro other x entry
    by_cases same : other = session
    next =>
      obtain rfl : e = x := by simpa [Ledger.apply, same] using entry
      simp [Ledger.apply, same]
    next =>
      by_cases vacated : other = old.sessionIndex
      next =>
        have vacant := entry
        simp only [Ledger.apply, Function.update_apply, if_neg same, if_pos vacated] at vacant
        cases vacant
      next =>
        have kept := roster.bound other x
          (by simpa [Ledger.apply, Function.update_apply, same, vacated] using entry)
        have distinct : x ≠ e := by
          rintro rfl
          rw [tag] at kept
          exact vacated (congrArg PlayerTag.sessionIndex (Option.some.inj kept)).symm
        simpa [Ledger.apply, distinct] using kept
  case players =>
    intro x present
    by_cases same : x = e
    next => simpa [Ledger.apply, same] using roster.players e tagged
    next => simpa [Ledger.apply] using roster.players x (by simpa [Ledger.apply, same] using present)
  case furnished =>
    intro x furnished
    have absent := roster.furnished x furnished
    have other : x ≠ e := by rintro rfl; simp [tag] at absent
    simpa [Ledger.apply, other] using absent

theorem leave (roster : Roster l) (player : Entity) (tag : PlayerTag)
    (tagged : l.playerTag player = some tag) : Roster (l.apply (.leave player tag)) := by
  obtain ⟨id, identity, entry⟩ := roster.players player (by simp [tagged])
  have released := roster.release (l.partner player).toList
  constructor
  case issued =>
    intro x above
    by_cases same : x = player <;>
      simp [Ledger.apply, Ledger.destroy, Ledger.release, same, roster.issued x above]
  case owned =>
    intro x invalid
    by_cases same : x = player
    next => simp [Ledger.apply, Ledger.destroy, same]
    next =>
      simpa [Ledger.apply, Ledger.destroy, same] using
        released.owned x (by simpa [Ledger.apply, Ledger.destroy, same] using invalid)
  case indexed =>
    intro other x known
    by_cases same : other = id
    next => simp [Ledger.apply, identity, same] at known
    next =>
      have kept := roster.indexed other x (by simpa [Ledger.apply, identity, same] using known)
      have distinct : x ≠ player := by
        rintro rfl
        exact same (Option.some.inj (kept.2.1.symm.trans identity))
      simpa [Ledger.apply, Ledger.destroy, Ledger.release, distinct] using kept
  case bound =>
    intro session x known
    by_cases same : session = tag.sessionIndex
    next => simp [Ledger.apply, same] at known
    next =>
      have kept := roster.bound session x (by simpa [Ledger.apply, same] using known)
      have distinct : x ≠ player := by
        rintro rfl
        rw [tagged] at kept
        exact same (congrArg PlayerTag.sessionIndex (Option.some.inj kept)).symm
      simpa [Ledger.apply, Ledger.destroy, Ledger.release, distinct] using kept
  case players =>
    intro x present
    by_cases same : x = player
    next => simp [Ledger.apply, Ledger.destroy, same] at present
    next =>
      obtain ⟨known, identified, indexed⟩ := roster.players x
        (by simpa [Ledger.apply, Ledger.destroy, Ledger.release, same] using present)
      have distinct : known ≠ id := by
        rintro rfl
        exact same (Option.some.inj (indexed.symm.trans entry))
      refine ⟨known, ?_, ?_⟩
      next => simpa [Ledger.apply, Ledger.destroy, Ledger.release, same] using identified
      next => simpa [Ledger.apply, identity, distinct] using indexed
  case furnished =>
    intro x furnished
    by_cases same : x = player
    next => simp [Ledger.apply, Ledger.destroy, same] at furnished
    next =>
      simpa [Ledger.apply, Ledger.destroy, Ledger.release, same] using roster.furnished x
        (by simpa [Ledger.apply, Ledger.destroy, Ledger.release, same] using furnished)

theorem wait (roster : Roster l) (e : Entity) (valid : l.valid e = true) :
    Roster (l.apply (.wait e)) :=
  roster.change _ _ _ fun x invalid => by
    have other : x ≠ e := by rintro rfl; simp [valid] at invalid
    simp [roster.owned x invalid, other]

theorem act (roster : Roster l) (a : Act) (enabled : l.Enabled a) : Roster (l.apply a) := by
  cases a with
  | enlist session id => exact roster.enlist session id enabled
  | rejoin session old e => exact roster.rejoin session old e enabled.1
  | leave player tag => exact roster.leave player tag enabled
  | talk ticket npc player =>
      obtain ⟨-, -, -, ⟨id, entry⟩, session, bound⟩ := enabled
      refine (roster.engage _ fun e member => ?_).call _ _
      rcases List.mem_pair.mp member with rfl | rfl
      · exact (roster.indexed id e entry).1
      · exact roster.tagged_valid (by simp [roster.bound session e bound])
  | form ticket members =>
      exact (roster.engage _ fun e member => (enabled.2 e member).1).call _ _
  | opened ticket npc player sessionId => exact (roster.close ticket).openDialogue _ _ _
  | refused ticket npc player => exact (roster.close ticket).release _
  | hangUp ticket player => exact roster.call _ _
  | hungUp ticket npc player => exact ((roster.close ticket).release _).closeDialogue _
  | dispersed ticket members => exact (roster.close ticket).release _
  | lost ticket => exact roster.close ticket
  | strike victim => exact roster.release _
  | wait e => exact roster.wait e enabled.1

end Roster

end MundusVivens.Ledger
