import MundusVivens.World.World

set_option autoImplicit false

/-!
# The ledger

Who exists, who is bound to which session, who is busy, and which dialogue calls
are in flight. An act is one change of the ledger; everything else a system does
leaves the ledger alone, up to furniture and waiting tags.
-/

namespace MundusVivens

-- A call whose task releases NPCs, with what its callback captured.
inductive DialogueCall where
  | group (members : List Entity)
  | start (npc player : Entity)
  | finish (npc player : Option Entity)
deriving DecidableEq

def DialogueCall.npcs : DialogueCall → List Entity
  | .group members => members
  | .start npc _ => [npc]
  | .finish npc _ => npc.toList

@[ext]
structure Ledger where
  nextEntity : Entity
  valid : Entity → Bool
  npcId : Entity → Option UInt32
  active : Entity → Bool
  furniture : Entity → Bool
  playerTag : Entity → Option PlayerTag
  playerDialogue : Entity → Option PlayerDialogueComp
  reason : Entity → Option BusyReason
  index : EntityIndex
  mapper : AgentIdMapper
  pending : Nat → Option DialogueCall

namespace Ledger

-- The NPC that the dialogue component of a player names.
def partner (l : Ledger) (player : Option Entity) : Option Entity := do
  let player ← player
  let dialogue ← l.playerDialogue player
  dialogue.npcEntity

def destroy (l : Ledger) (e : Entity) : Ledger :=
  { l with
    valid := Function.update l.valid e false
    npcId := Function.update l.npcId e none
    active := Function.update l.active e false
    furniture := Function.update l.furniture e false
    playerTag := Function.update l.playerTag e none
    playerDialogue := Function.update l.playerDialogue e none
    reason := Function.update l.reason e none }

def create (l : Ledger) : Ledger :=
  { l.destroy l.nextEntity with
    nextEntity := l.nextEntity + 1
    valid := Function.update l.valid l.nextEntity true }

def furnish (l : Ledger) (id : UInt32) : Ledger :=
  { l.create with
    npcId := Function.update l.npcId l.nextEntity (some id)
    furniture := Function.update l.furniture l.nextEntity true }

def close (l : Ledger) (ticket : Nat) : Ledger :=
  { l with pending := Function.update l.pending ticket none }

def release (l : Ledger) (es : List Entity) : Ledger :=
  { l with reason := fun e => if e ∈ es then none else l.reason e }

def engage (l : Ledger) (es : List Entity) : Ledger :=
  { l with reason := fun e => if e ∈ es then some .dialogue else l.reason e }

def call (l : Ledger) (ticket : Nat) (dialogue : DialogueCall) : Ledger :=
  { l with pending := Function.update l.pending ticket (some dialogue) }

inductive Act where
  | enlist (session : UInt32) (id : UInt32)
  | rejoin (session : UInt32) (old : PlayerTag) (e : Entity)
  | leave (player : Entity) (tag : PlayerTag)
  | talk (ticket : Nat) (npc player : Entity)
  | form (ticket : Nat) (members : List Entity)
  | opened (ticket : Nat) (npc player : Entity) (sessionId : UInt64)
  | refused (ticket : Nat) (npc player : Entity)
  | hangUp (ticket : Nat) (player : Option Entity)
  | hungUp (ticket : Nat) (npc player : Option Entity)
  | dispersed (ticket : Nat) (members : List Entity)
  | lost (ticket : Nat)
  | strike (victim : Entity)
  | wait (e : Entity)

def openDialogue (l : Ledger) (npc player : Entity) (sessionId : UInt64) : Ledger :=
  if l.valid player then
    { l with playerDialogue :=
        Function.update l.playerDialogue player (some ⟨sessionId, some npc⟩) }
  else l

def closeDialogue (l : Ledger) (player : Option Entity) : Ledger :=
  { l with playerDialogue := fun e => if some e = player then none else l.playerDialogue e }

def apply (l : Ledger) : Act → Ledger
  | .enlist session id =>
      { l.create with
        npcId := Function.update l.npcId l.nextEntity (some id)
        playerTag := Function.update l.playerTag l.nextEntity (some ⟨session⟩)
        index :=
          { byNpcId := Function.update l.index.byNpcId id (some l.nextEntity)
            bySessionIndex :=
              Function.update l.index.bySessionIndex session (some l.nextEntity) } }
  | .rejoin session old e =>
      { l with
        playerTag := Function.update l.playerTag e (some ⟨session⟩)
        index :=
          { l.index with
            bySessionIndex := Function.update
              (Function.update l.index.bySessionIndex old.sessionIndex none) session (some e) } }
  | .leave player tag =>
      { (l.release (l.partner player).toList).destroy player with
        index :=
          { byNpcId := (l.npcId player).elim l.index.byNpcId
              fun id => Function.update l.index.byNpcId id none
            bySessionIndex := Function.update l.index.bySessionIndex tag.sessionIndex none } }
  | .talk ticket npc player => (l.engage [npc, player]).call ticket (.start npc player)
  | .form ticket members => (l.engage members).call ticket (.group members)
  | .opened ticket npc player sessionId => (l.close ticket).openDialogue npc player sessionId
  | .refused ticket npc player => (l.close ticket).release [npc, player]
  | .hangUp ticket player => l.call ticket (.finish (l.partner player) player)
  | .hungUp ticket npc player =>
      ((l.close ticket).release (npc.toList ++ player.toList)).closeDialogue player
  | .dispersed ticket members => (l.close ticket).release members
  | .lost ticket => l.close ticket
  | .strike victim => l.release [victim]
  | .wait e => { l with reason := Function.update l.reason e (some .scheduleWait) }

def Act.isAccount : Act → Bool
  | .enlist .. => true
  | .rejoin .. => true
  | .leave .. => true
  | _ => false

theorem apply_accounts (l : Ledger) (a : Act) (other : a.isAccount = false) :
    (l.apply a).nextEntity = l.nextEntity ∧ (l.apply a).npcId = l.npcId ∧
      (l.apply a).playerTag = l.playerTag ∧ (l.apply a).index = l.index := by
  cases a with
  | enlist session id => cases other
  | rejoin session old e => cases other
  | leave player tag => cases other
  | opened ticket npc player sessionId =>
      simp only [apply, openDialogue]
      split <;> exact ⟨rfl, rfl, rfl, rfl⟩
  | _ => exact ⟨rfl, rfl, rfl, rfl⟩

theorem apply_mapper (l : Ledger) (a : Act) : (l.apply a).mapper = l.mapper := by
  cases a with
  | opened ticket npc player sessionId =>
      simp only [apply, openDialogue]
      split <;> rfl
  | _ => rfl

/-- What the code has checked when it performs the act. -/
def Enabled (l : Ledger) : Act → Prop
  | .enlist _ id => l.index.byNpcId id = none
  | .rejoin _ old e => l.playerTag e = some old ∧ ∃ id, l.index.byNpcId id = some e
  | .leave player tag => l.playerTag player = some tag
  | .talk ticket npc player =>
      l.pending ticket = none ∧ l.playerTag npc = none ∧ l.reason npc = none ∧
        (∃ id, l.index.byNpcId id = some npc) ∧
        ∃ session, l.index.bySessionIndex session = some player
  | .form ticket members =>
      l.pending ticket = none ∧ ∀ e ∈ members,
        l.valid e = true ∧ l.active e = true ∧ l.playerTag e = none ∧ l.reason e = none
  | .opened ticket npc player _ => l.pending ticket = some (.start npc player)
  | .refused ticket npc player => l.pending ticket = some (.start npc player)
  | .hangUp ticket player =>
      l.pending ticket = none ∧
        ∀ p, player = some p → ∃ session, l.index.bySessionIndex session = some p
  | .hungUp ticket npc player => l.pending ticket = some (.finish npc player)
  | .dispersed ticket members => l.pending ticket = some (.group members)
  | .lost _ => True
  | .strike _ => True
  | .wait e => l.valid e = true ∧ l.active e = true ∧ l.reason e = none

-- Changes that no system guards: furniture comes and goes, and waits end.
inductive Upkeep : Ledger → Ledger → Prop where
  | furnish (l : Ledger) (id : UInt32) : Upkeep l (l.furnish id)
  | demolish (l : Ledger) (e : Entity) (furniture : l.furniture e = true) : Upkeep l (l.destroy e)
  | resume (l : Ledger) (e : Entity) (waiting : l.reason e = some .scheduleWait) :
      Upkeep l (l.release [e])

abbrev Kept : Ledger → Ledger → Prop := Relation.ReflTransGen Upkeep

theorem Kept.of_eq {l l' : Ledger} (same : l' = l) : l.Kept l' := by
  subst same
  exact .refl

end Ledger

end MundusVivens
