import Mathlib.Data.Finset.Card
import Mathlib.Data.Finset.Dedup
import MundusVivens.Shared.NameTable

set_option autoImplicit false

/-!
# The emotion registry

Emotion names are numbered in one byte. The number indexes the tables of decay
ticks and categories, and `EmotionComp` stores it for fast comparison.
-/

namespace MundusVivens

-- `std::string::find(part) != npos`.
def containsText (text part : String) : Bool :=
  text.toList.tails.any part.toList.isPrefixOf

-- The enumeration has an 8-bit representation, and casts from the wire are not checked.
inductive EmotionCategory where
  | neutral
  | anger
  | hostility
  | fear
  | other (raw : UInt8)
deriving DecidableEq

def EmotionCategory.ofUInt8 (raw : UInt8) : EmotionCategory :=
  if raw = 0 then .neutral
  else if raw = 1 then .anger
  else if raw = 2 then .hostility
  else if raw = 3 then .fear
  else .other raw

abbrev EmotionRow := Int × EmotionCategory

structure EmotionRegistry where
  nameToId : String → Option UInt8
  decayTicksTable : List Int
  categoryTable : List EmotionCategory
  aligned : decayTicksTable.length = categoryTable.length

namespace EmotionRegistry

def empty : EmotionRegistry := ⟨fun _ => none, [], [], rfl⟩

-- `name_to_id[name] = id` and one `push_back` on each table.
def append (registry : EmotionRegistry) (name : String) (id : UInt8) (row : EmotionRow) :
    EmotionRegistry :=
  { nameToId := Function.update registry.nameToId name (some id)
    decayTicksTable := registry.decayTicksTable ++ [row.1]
    categoryTable := registry.categoryTable ++ [row.2]
    aligned := by simp [registry.aligned] }

-- `static_cast<uint8_t>(decay_ticks_table.size())`.
def nextId (registry : EmotionRegistry) : UInt8 := UInt8.ofNat registry.decayTicksTable.length

def intern (registry : EmotionRegistry) (name : String) (row : EmotionRow) :
    EmotionRegistry × UInt8 :=
  match registry.nameToId name with
  | some id => (registry, id)
  | none => (registry.append name registry.nextId row, registry.nextId)

def baseRules : List (String × Int) :=
  [("분노", 10), ("공포", 10), ("우울", 10), ("슬픔", 10), ("의심", 10), ("경계", 10), ("냉소", 10),
    ("적대", 10), ("기쁨", 6), ("놀람", 6), ("불안", 6), ("기대", 6), ("연민", 6), ("흥분", 3),
    ("유쾌", 3), ("재미", 3), ("흥미", 3), ("평온", 0), ("대기", 0)]

def baseCategory (keyword : String) : EmotionCategory :=
  if keyword = "분노" then .anger
  else if keyword = "적대" then .hostility
  else if keyword = "공포" then .fear
  else .neutral

def agentCategory (emotion : String) : EmotionCategory :=
  if containsText emotion "분노" then .anger
  else if containsText emotion "적대" then .hostility
  else if containsText emotion "공포" then .fear
  else .neutral

-- The bootstrap counts ids in `next_emo_id`, apart from the table size.
structure Bootstrap where
  registry : EmotionRegistry
  nextEmoId : UInt8

def Bootstrap.rule (state : Bootstrap) (rule : String × Int) : Bootstrap :=
  { registry := state.registry.append rule.1 state.nextEmoId (rule.2, baseCategory rule.1)
    nextEmoId := state.nextEmoId + 1 }

def Bootstrap.agent (state : Bootstrap) (emotion : String) : Bootstrap :=
  match state.registry.nameToId emotion with
  | some _ => state
  | none =>
      { registry := state.registry.append emotion state.nextEmoId (3, agentCategory emotion)
        nextEmoId := state.nextEmoId + 1 }

def bootstrapRules : Bootstrap := baseRules.foldl Bootstrap.rule ⟨empty, 0⟩

-- Base rules first, then the emotion of each agent.
def bootstrap (agentEmotions : List String) : Bootstrap :=
  agentEmotions.foldl Bootstrap.agent bootstrapRules

-- The contagion ids, cached by the first entity that needs them.
structure ContagionIds where
  anxietyId : UInt8
  alertId : UInt8

def internContagion (registry : EmotionRegistry) (cached : Option ContagionIds) :
    EmotionRegistry × ContagionIds :=
  match cached with
  | some ids => (registry, ids)
  | none =>
      let anxiety := registry.intern "불안" (5, .neutral)
      let alert := anxiety.1.intern "경계" (5, .neutral)
      (alert.1, ⟨anxiety.2, alert.2⟩)

def updateTicks (intensity : Int) : Int :=
  if intensity = 1 then 3 else if intensity = 3 then 10 else 6

def updateCategory (category : UInt8) : EmotionCategory :=
  if 0 < category then .ofUInt8 (category - 1) else .neutral

def internUpdate (registry : EmotionRegistry) (newEmotion : String) (intensity : Int)
    (category : UInt8) : EmotionRegistry × UInt8 :=
  registry.intern newEmotion (updateTicks intensity, updateCategory category)

end EmotionRegistry

end MundusVivens
