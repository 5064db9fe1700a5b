import MundusVivens.World.EmotionRegistry

set_option autoImplicit false

/-!
# What an emotion number denotes

The bootstrap, contagion and dialogue updates register names in any order. The
numbers stay faithful until the 257th name.
-/

namespace MundusVivens

namespace EmotionRegistry

def table (registry : EmotionRegistry) : NameTable String EmotionRow :=
  { idOf := fun name => (registry.nameToId name).map UInt8.toNat
    rows := registry.decayTicksTable.zip registry.categoryTable }

theorem table_append (registry : EmotionRegistry) (name : String) (row : EmotionRow) :
    (registry.append name registry.nextId row).table = registry.table.push 256 name row := by
  have size : registry.decayTicksTable.length =
      (registry.decayTicksTable.zip registry.categoryTable).length := by
    simp [List.length_zip, registry.aligned]
  simp only [table, NameTable.push, append, NameTable.mk.injEq]
  constructor
  · funext other
    by_cases same : other = name
    · subst same
      simp [nextId, ← size]
    · simp [Function.update_of_ne same]
  · rw [List.zip_append registry.aligned]
    rfl

theorem table_intern (registry : EmotionRegistry) (name : String) (row : EmotionRow) :
    (registry.intern name row).1.table = registry.table.register 256 name row := by
  have lookup : registry.table.idOf name = (registry.nameToId name).map UInt8.toNat := rfl
  cases known : registry.nameToId name with
  | none => simp only [intern, NameTable.register, lookup, known, Option.map_none, table_append]
  | some id => simp only [intern, NameTable.register, lookup, known, Option.map_some]

theorem nextId_append (registry : EmotionRegistry) (name : String) (id : UInt8) (row : EmotionRow) :
    (registry.append name id row).nextId = registry.nextId + 1 := by
  simp [nextId, append, UInt8.ofNat_add]

theorem rules_represent (rules : List (String × Int)) (state : Bootstrap)
    (log : List (String × EmotionRow)) (counted : state.nextEmoId = state.registry.nextId)
    (represents : NameTable.Represents 256 state.registry.table log)
    (nodup : (log.map Prod.fst ++ rules.map Prod.fst).Nodup) :
    (rules.foldl Bootstrap.rule state).nextEmoId = (rules.foldl Bootstrap.rule state).registry.nextId ∧
      NameTable.Represents 256 (rules.foldl Bootstrap.rule state).registry.table
        (log ++ rules.map fun rule => (rule.1, (rule.2, baseCategory rule.1))) := by
  induction rules generalizing state log with
  | nil => simpa using ⟨counted, represents⟩
  | cons rule rest ih =>
    have fresh : rule.1 ∉ log.map Prod.fst := by
      intro member
      exact (List.nodup_append.mp nodup).2.2 _ member _ (by simp) rfl
    have next := ih (state.rule rule) (log ++ [(rule.1, (rule.2, baseCategory rule.1))])
      (by simp [Bootstrap.rule, nextId_append, counted])
      (by
        simp only [Bootstrap.rule, counted, table_append]
        exact NameTable.push_represents 256 _ log represents _ _ fresh)
      (by simpa using nodup)
    simpa using next

theorem bootstrapRules_represents :
    bootstrapRules.nextEmoId = bootstrapRules.registry.nextId ∧
      NameTable.Represents 256 bootstrapRules.registry.table
        (baseRules.map fun rule => (rule.1, (rule.2, baseCategory rule.1))) := by
  have start : NameTable.Represents 256 empty.table [] := NameTable.represents_empty 256
  have base := rules_represent baseRules ⟨empty, 0⟩ [] rfl start (by decide)
  simpa [bootstrapRules] using base

theorem agent_table (state : Bootstrap) (emotion : String)
    (counted : state.nextEmoId = state.registry.nextId) :
    (state.agent emotion).nextEmoId = (state.agent emotion).registry.nextId ∧
      (state.agent emotion).registry =
        (state.registry.intern emotion (3, agentCategory emotion)).1 := by
  cases known : state.registry.nameToId emotion with
  | none => simp [Bootstrap.agent, intern, known, counted, nextId_append]
  | some id => simp [Bootstrap.agent, intern, known, counted]

theorem intern_stable (registry : EmotionRegistry) (name other : String) (row : EmotionRow)
    (id : UInt8) (known : registry.nameToId other = some id) :
    (registry.intern name row).1.nameToId other = some id := by
  unfold intern
  split
  next => exact known
  next missing =>
    have different : other ≠ name := by
      rintro rfl
      exact absurd (known.symm.trans missing) (by simp)
    simpa [append, Function.update_of_ne different] using known

end EmotionRegistry

open EmotionRegistry

-- The events after bootstrap that can register a name.
inductive Registration where
  | contagion
  | dialogueUpdate (newEmotion : String) (intensity : Int) (category : UInt8)

structure RegistryState where
  registry : EmotionRegistry
  contagionIds : Option ContagionIds

def RegistryState.apply (state : RegistryState) : Registration → RegistryState
  | .contagion =>
      let result := internContagion state.registry state.contagionIds
      ⟨result.1, some result.2⟩
  | .dialogueUpdate newEmotion intensity category =>
      { state with registry := (internUpdate state.registry newEmotion intensity category).1 }

def registryAfter (agentEmotions : List String) (registrations : List Registration) :
    RegistryState :=
  registrations.foldl RegistryState.apply ⟨(bootstrap agentEmotions).registry, none⟩

def Registration.record (log : List (String × EmotionRow)) : Registration → List (String × EmotionRow)
  | .contagion => NameTable.record (NameTable.record log "불안" (5, .neutral)) "경계" (5, .neutral)
  | .dialogueUpdate newEmotion intensity category =>
      NameTable.record log newEmotion (updateTicks intensity, updateCategory category)

def baseLog : List (String × EmotionRow) :=
  baseRules.map fun rule => (rule.1, (rule.2, baseCategory rule.1))

def agentLog (agentEmotions : List String) : List (String × EmotionRow) :=
  agentEmotions.foldl (fun log emotion => NameTable.record log emotion (3, agentCategory emotion))
    baseLog

-- The rows in the order they are pushed, each with the name it is pushed for.
def pushes (agentEmotions : List String) (registrations : List Registration) :
    List (String × EmotionRow) :=
  registrations.foldl Registration.record (agentLog agentEmotions)

def Registration.names : Registration → List String
  | .contagion => ["불안", "경계"]
  | .dialogueUpdate newEmotion _ _ => [newEmotion]

def registeredNames (agentEmotions : List String) (registrations : List Registration) :
    List String :=
  baseRules.map Prod.fst ++ agentEmotions ++ registrations.flatMap Registration.names

structure NumbersDenote (agentEmotions : List String) (registrations : List Registration) :
    Prop where
  distinct : ∀ first second id,
    (registryAfter agentEmotions registrations).registry.nameToId first = some id →
    (registryAfter agentEmotions registrations).registry.nameToId second = some id →
    first = second
  ownRow : ∀ name id,
    (registryAfter agentEmotions registrations).registry.nameToId name = some id →
    ∃ row, (name, row) ∈ pushes agentEmotions registrations ∧
      (registryAfter agentEmotions registrations).registry.decayTicksTable[id.toNat]? = some row.1 ∧
      (registryAfter agentEmotions registrations).registry.categoryTable[id.toNat]? = some row.2
  -- An id stored in an `EmotionComp` was the id of its name when it was stored.
  stored : ∀ earlierAgents earlier name id,
    earlierAgents <+: agentEmotions ∧ earlier = [] ∨
      earlierAgents = agentEmotions ∧ earlier <+: registrations →
    (registryAfter earlierAgents earlier).registry.nameToId name = some id →
    (registryAfter agentEmotions registrations).registry.nameToId name = some id

theorem agents_represent (agentEmotions : List String) (state : Bootstrap)
    (log : List (String × EmotionRow)) (counted : state.nextEmoId = state.registry.nextId)
    (represents : NameTable.Represents 256 state.registry.table log) :
    NameTable.Represents 256 (agentEmotions.foldl Bootstrap.agent state).registry.table
      (agentEmotions.foldl
        (fun log emotion => NameTable.record log emotion (3, agentCategory emotion)) log) := by
  induction agentEmotions generalizing state log with
  | nil => exact represents
  | cons emotion rest ih =>
    obtain ⟨next, same⟩ := agent_table state emotion counted
    apply ih (state.agent emotion) _ next
    rw [same, table_intern]
    exact NameTable.register_represents 256 _ log represents _ _

def Cached (state : RegistryState) (log : List (String × EmotionRow)) : Prop :=
  state.contagionIds.isSome → "불안" ∈ log.map Prod.fst ∧ "경계" ∈ log.map Prod.fst

theorem apply_represents (state : RegistryState) (registration : Registration)
    (log : List (String × EmotionRow))
    (represents : NameTable.Represents 256 state.registry.table log) (cached : Cached state log) :
    NameTable.Represents 256 (state.apply registration).registry.table (registration.record log) ∧
      Cached (state.apply registration) (registration.record log) := by
  cases registration with
  | contagion =>
    have named : "불안" ∈ (Registration.contagion.record log).map Prod.fst ∧
        "경계" ∈ (Registration.contagion.record log).map Prod.fst := by
      simp [Registration.record, NameTable.mem_record]
    refine ⟨?_, fun _ => named⟩
    cases ids : state.contagionIds with
    | none =>
      simp only [RegistryState.apply, internContagion, ids, table_intern, Registration.record]
      exact NameTable.register_represents 256 _ _
        (NameTable.register_represents 256 _ log represents _ _) _ _
    | some known =>
      obtain ⟨anxiety, alert⟩ := cached (by simp [ids])
      simp only [RegistryState.apply, internContagion, ids, Registration.record]
      rwa [NameTable.record_known log _ _ anxiety, NameTable.record_known log _ _ alert]
  | dialogueUpdate newEmotion intensity category =>
    constructor
    · simp only [RegistryState.apply, internUpdate, table_intern, Registration.record]
      exact NameTable.register_represents 256 _ log represents _ _
    · intro isCached
      obtain ⟨anxiety, alert⟩ := cached isCached
      simp [Registration.record, NameTable.mem_record, anxiety, alert]

theorem registrations_represent (registrations : List Registration) (state : RegistryState)
    (log : List (String × EmotionRow))
    (represents : NameTable.Represents 256 state.registry.table log) (cached : Cached state log) :
    NameTable.Represents 256 (registrations.foldl RegistryState.apply state).registry.table
      (registrations.foldl Registration.record log) := by
  induction registrations generalizing state log with
  | nil => exact represents
  | cons registration rest ih =>
    obtain ⟨next, nextCached⟩ := apply_represents state registration log represents cached
    exact ih _ _ next nextCached

theorem registryAfter_represents (agentEmotions : List String) (registrations : List Registration) :
    NameTable.Represents 256 (registryAfter agentEmotions registrations).registry.table
      (pushes agentEmotions registrations) := by
  obtain ⟨counted, rules⟩ := bootstrapRules_represents
  have agents := agents_represent agentEmotions bootstrapRules baseLog counted rules
  exact registrations_represent registrations ⟨(bootstrap agentEmotions).registry, none⟩ _ agents
    (fun isCached => by cases isCached)

theorem apply_stable (state : RegistryState) (registration : Registration) (name : String)
    (id : UInt8) (known : state.registry.nameToId name = some id) :
    (state.apply registration).registry.nameToId name = some id := by
  cases registration with
  | contagion =>
    cases ids : state.contagionIds with
    | none =>
      simp only [RegistryState.apply, internContagion, ids]
      exact intern_stable _ _ _ _ _ (intern_stable _ _ _ _ _ known)
    | some cached => simpa [RegistryState.apply, internContagion, ids] using known
  | dialogueUpdate newEmotion intensity category => exact intern_stable _ _ _ _ _ known

theorem registrations_stable (registrations : List Registration) (state : RegistryState)
    (name : String) (id : UInt8) (known : state.registry.nameToId name = some id) :
    (registrations.foldl RegistryState.apply state).registry.nameToId name = some id := by
  induction registrations generalizing state with
  | nil => exact known
  | cons registration rest ih => exact ih _ (apply_stable state registration name id known)

theorem agents_stable (agentEmotions : List String) (state : Bootstrap)
    (counted : state.nextEmoId = state.registry.nextId) (name : String) (id : UInt8)
    (known : state.registry.nameToId name = some id) :
    (agentEmotions.foldl Bootstrap.agent state).registry.nameToId name = some id := by
  induction agentEmotions generalizing state with
  | nil => exact known
  | cons emotion rest ih =>
    obtain ⟨next, same⟩ := agent_table state emotion counted
    apply ih (state.agent emotion) next
    rw [same]
    exact intern_stable _ _ _ _ _ known

theorem agents_counted (agentEmotions : List String) (state : Bootstrap)
    (counted : state.nextEmoId = state.registry.nextId) :
    (agentEmotions.foldl Bootstrap.agent state).nextEmoId =
      (agentEmotions.foldl Bootstrap.agent state).registry.nextId := by
  induction agentEmotions generalizing state with
  | nil => exact counted
  | cons emotion rest ih => exact ih _ (agent_table state emotion counted).1

theorem stored_ids_stable (agentEmotions earlierAgents : List String)
    (registrations earlier : List Registration) (name : String) (id : UInt8)
    (order : earlierAgents <+: agentEmotions ∧ earlier = [] ∨
      earlierAgents = agentEmotions ∧ earlier <+: registrations)
    (known : (registryAfter earlierAgents earlier).registry.nameToId name = some id) :
    (registryAfter agentEmotions registrations).registry.nameToId name = some id := by
  rcases order with ⟨⟨later, rfl⟩, rfl⟩ | ⟨rfl, later, rfl⟩
  · apply registrations_stable registrations ⟨(bootstrap (earlierAgents ++ later)).registry, none⟩
    rw [bootstrap, List.foldl_append]
    exact agents_stable later _
      (agents_counted earlierAgents _ bootstrapRules_represents.1) name id known
  · rw [registryAfter, List.foldl_append]
    exact registrations_stable later _ name id known

theorem numbers_denote_pushes (agentEmotions : List String) (registrations : List Registration) :
    NumbersDenote agentEmotions registrations ↔
      (pushes agentEmotions registrations).length ≤ 256 := by
  have represents := registryAfter_represents agentEmotions registrations
  rw [← NameTable.faithful_iff 256 (by decide) _ _ represents]
  generalize final : (registryAfter agentEmotions registrations).registry = registry at represents ⊢
  have row (index : Nat) (value : EmotionRow) : registry.table.rows[index]? = some value ↔
      registry.decayTicksTable[index]? = some value.1 ∧
        registry.categoryTable[index]? = some value.2 := by
    simp only [table, List.getElem?_zip_eq_some]
  constructor
  · intro denote
    constructor
    · intro first second id firstKnown secondKnown
      obtain ⟨firstId, firstStored, rfl⟩ := Option.map_eq_some_iff.mp firstKnown
      obtain ⟨secondId, secondStored, same⟩ := Option.map_eq_some_iff.mp secondKnown
      rw [UInt8.toNat_inj.mp same] at secondStored
      exact denote.distinct first second firstId (final ▸ firstStored) (final ▸ secondStored)
    · intro name id known
      obtain ⟨stored, isStored, rfl⟩ := Option.map_eq_some_iff.mp known
      obtain ⟨value, member, rows⟩ := denote.ownRow name stored (final ▸ isStored)
      exact ⟨value, member, (row _ _).mpr (final ▸ rows)⟩
  · intro faithful
    have lift (name : String) (id : UInt8) (known : registry.nameToId name = some id) :
        registry.table.idOf name = some id.toNat := by
      simp [table, known]
    refine ⟨?_, ?_, fun earlierAgents earlier name id => stored_ids_stable _ _ _ _ name id⟩
    · intro first second id firstKnown secondKnown
      rw [final] at firstKnown secondKnown
      exact faithful.distinct first second _ (lift _ _ firstKnown) (lift _ _ secondKnown)
    · intro name id known
      rw [final] at known ⊢
      obtain ⟨value, member, rows⟩ := faithful.ownRow name _ (lift _ _ known)
      exact ⟨value, member, (row _ _).mp rows⟩

theorem mem_agentLog (agentEmotions : List String) (log : List (String × EmotionRow)) (name : String) :
    name ∈ (agentEmotions.foldl
      (fun log emotion => NameTable.record log emotion (3, agentCategory emotion)) log).map Prod.fst ↔
      name ∈ log.map Prod.fst ∨ name ∈ agentEmotions := by
  induction agentEmotions generalizing log with
  | nil => simp
  | cons emotion rest ih => rw [List.foldl_cons, ih, NameTable.mem_record, List.mem_cons, or_assoc]

theorem mem_pushes (registrations : List Registration) (log : List (String × EmotionRow))
    (name : String) :
    name ∈ (registrations.foldl Registration.record log).map Prod.fst ↔
      name ∈ log.map Prod.fst ∨ name ∈ registrations.flatMap Registration.names := by
  induction registrations generalizing log with
  | nil => simp
  | cons registration rest ih =>
    rw [List.foldl_cons, ih, List.flatMap_cons, List.mem_append, ← or_assoc]
    apply or_congr_left
    cases registration <;>
      simp [Registration.record, Registration.names, NameTable.mem_record, or_assoc]

theorem pushes_length (agentEmotions : List String) (registrations : List Registration) :
    (pushes agentEmotions registrations).length =
      (registeredNames agentEmotions registrations).toFinset.card := by
  have nodup := (registryAfter_represents agentEmotions registrations).nodup
  have base : baseLog.map Prod.fst = baseRules.map Prod.fst := by
    rw [baseLog, List.map_map]
    rfl
  rw [← List.length_map Prod.fst, ← List.toFinset_card_of_nodup nodup]
  apply congrArg Finset.card
  ext name
  rw [List.mem_toFinset, List.mem_toFinset, pushes, mem_pushes, agentLog, mem_agentLog, base,
    registeredNames, List.mem_append, List.mem_append]

/-- Numbers denote their names exactly while at most 256 names were registered. -/
theorem numbers_denote_iff (agentEmotions : List String) (registrations : List Registration) :
    NumbersDenote agentEmotions registrations ↔
      (registeredNames agentEmotions registrations).toFinset.card ≤ 256 := by
  rw [numbers_denote_pushes, pushes_length]

-- 238 generated emotion names after the 19 base names.
def generatedEmotions : List Registration :=
  (List.range 238).map fun index => .dialogueUpdate (String.ofList (List.replicate (index + 3) 'a')) 2 1

theorem generatedEmotions_overflow :
    (registeredNames [] generatedEmotions).toFinset.card = 257 ∧ ¬ NumbersDenote [] generatedEmotions := by
  have names : registeredNames [] generatedEmotions = baseRules.map Prod.fst ++
      (List.range 238).map fun index => String.ofList (List.replicate (index + 3) 'a') := by
    simp only [registeredNames, generatedEmotions, List.append_nil, List.flatMap_map,
      Registration.names, ← List.map_eq_flatMap]
  have card : (registeredNames [] generatedEmotions).toFinset.card = 257 := by
    rw [names, List.toFinset_card_of_nodup]
    · simp [baseRules]
    · rw [List.nodup_append]
      refine ⟨by decide, ?_, ?_⟩
      · apply List.Nodup.map _ List.nodup_range
        intro first second same
        simpa using congrArg String.length same
      · intro base baseMember generated generatedMember same
        obtain ⟨index, -, rfl⟩ := List.mem_map.mp generatedMember
        have short : ∀ name ∈ baseRules.map Prod.fst, name.length = 2 := by decide
        have size := short base baseMember
        simp [same] at size
  refine ⟨card, fun denote => ?_⟩
  have bounded := (numbers_denote_pushes [] generatedEmotions).mp denote
  rw [pushes_length, card] at bounded
  exact absurd bounded (by decide)

end MundusVivens
