import MundusVivens.Accounts.Binding

set_option autoImplicit false

namespace MundusVivens

open Scalar Runs

variable {F : Type} [Scalar F]

namespace World

-- The existing entities a command reads with `reg.get`, without asking whether they exist.
def uncheckedReads (w : World F) : PlayerCommand F → List Entity
  | .login _ playerId _ => (w.loginTarget playerId).toList
  | .move session _ _ _ => (w.index.bySessionIndex session).toList
  | .talkToNpc session npcId =>
      match w.index.bySessionIndex session with
      | none => []
      | some player =>
          match w.index.byNpcId npcId with
          | none => [player]
          | some npc =>
              if player = npc || (w.reg.playerTag npc).isSome then [player] else [player, npc]
  -- The other commands ask `all_of` before they read.
  | _ => []

-- Some component that player commands read without a check is not there.
def Incomplete (w : World F) (e : Entity) : Prop :=
  w.reg.valid e = false ∨ w.reg.playerTag e = none ∨ w.reg.location e = none ∨
    w.reg.identity e = none ∨ w.reg.activity e = none

omit [Scalar F] in
theorem setBusy_total (w : World F) (e : Entity) (tag : BusyTag F) (valid : w.reg.valid e = true) :
    ∃ tagged, w.setBusy e tag = some tagged ∧ tagged.reg.valid = w.reg.valid := by
  simp [setBusy, Registry.setBusy, valid]

theorem loginAgain_undefined (w : World F) (session : UInt32) (playerId playerName : String)
    (e : Entity) (known : w.loginTarget playerId = some e)
    (undefined : w.login session playerId playerName = none) : w.Incomplete e := by
  simp only [login, loginBind, known, loginAgain, Option.bind_eq_bind] at undefined
  cases tagged : w.reg.playerTag e with
  | none => exact .inr (.inl tagged)
  | some old =>
      cases located : w.reg.location e with
      | none => exact .inr (.inr (.inl located))
      | some loc => simp [tagged, located, Registry.modifyPlayerTag] at undefined

theorem loginNew_defined (w : World F) (session : UInt32) (playerId playerName : String)
    (unknown : w.loginTarget playerId = none) :
    ∃ joined, w.login session playerId playerName = some joined := by
  have created : w.reg.create.valid w.reg.nextEntity = true := by simp [Registry.create]
  simp [login, loginBind, unknown, loginNew, Registry.setPlayerTag, created, setLastSynced,
    setLocation]

theorem startTalk_undefined (w : World F) (player npc : Entity) (npcId : UInt32)
    (undefined : w.startTalk player npc npcId = none) : w.Incomplete player ∨ w.Incomplete npc := by
  simp only [startTalk, Option.bind_eq_bind] at undefined
  cases identified : w.reg.identity player with
  | none => exact .inl (.inr (.inr (.inr (.inl identified))))
  | some identity =>
      cases active : w.reg.activity npc with
      | none => exact .inr (.inr (.inr (.inr (.inr active))))
      | some activity =>
          by_contra complete
          simp only [Incomplete, not_or, Bool.not_eq_false] at complete
          obtain ⟨⟨playerValid, -⟩, npcValid, -⟩ := complete
          obtain ⟨one, npcTagged, same⟩ :=
            (w.setActivity npc "플레이어와 대화 대기").setBusy_total npc .dialogue npcValid
          have playerValid' : one.reg.valid player = true := by rw [same]; exact playerValid
          obtain ⟨two, playerTagged, -⟩ := one.setBusy_total player .dialogue playerValid'
          simp [identified, active, npcTagged, playerTagged] at undefined

theorem talkToNpc_undefined (w : World F) (session npcId : UInt32)
    (undefined : w.talkToNpc session npcId = none) :
    ∃ e ∈ w.uncheckedReads (.talkToNpc session npcId), w.Incomplete e := by
  unfold talkToNpc at undefined
  cases bound : w.index.bySessionIndex session with
  | none => simp [bound] at undefined
  | some player =>
      have reads : player ∈ w.uncheckedReads (.talkToNpc session npcId) := by
        simp only [uncheckedReads, bound]
        split
        next => simp
        next => split <;> simp
      simp only [bound, Option.bind_eq_bind] at undefined
      cases located : w.reg.location player with
      | none => exact ⟨player, reads, .inr (.inr (.inl located))⟩
      | some playerLoc =>
          cases identified : w.reg.identity player with
          | none => exact ⟨player, reads, .inr (.inr (.inr (.inl identified)))⟩
          | some identity =>
              cases indexed : w.index.byNpcId npcId with
              | none => simp [located, identified, indexed] at undefined
              | some npc =>
                  simp only [located, identified, indexed, Option.bind_some] at undefined
                  split at undefined
                  next => cases undefined
                  next other =>
                    split at undefined
                    next => cases undefined
                    next untagged =>
                      have both : npc ∈ w.uncheckedReads (.talkToNpc session npcId) := by
                        simp [uncheckedReads, bound, indexed, other, untagged]
                      cases npcLocated : w.reg.location npc with
                      | none => exact ⟨npc, both, .inr (.inr (.inl npcLocated))⟩
                      | some npcLoc =>
                          cases npcIdentified : w.reg.identity npc with
                          | none => exact ⟨npc, both, .inr (.inr (.inr (.inl npcIdentified)))⟩
                          | some npcIdentity =>
                              simp only [npcLocated, npcIdentified, Option.bind_some] at undefined
                              split at undefined
                              next => cases undefined
                              next =>
                                split at undefined
                                next => cases undefined
                                next =>
                                  rcases w.startTalk_undefined player npc npcId undefined with
                                    lacking | lacking
                                  · exact ⟨player, reads, lacking⟩
                                  · exact ⟨npc, both, lacking⟩

theorem playerCommand_undefined (w : World F) (cmd : PlayerCommand F)
    (undefined : w.playerCommand cmd = none) : ∃ e ∈ w.uncheckedReads cmd, w.Incomplete e := by
  cases cmd with
  | login session playerId playerName =>
      cases known : w.loginTarget playerId with
      | none =>
          obtain ⟨joined, defined⟩ := w.loginNew_defined session playerId playerName known
          simp [playerCommand, defined] at undefined
      | some e =>
          exact ⟨e, by simp [uncheckedReads, known],
            w.loginAgain_undefined session playerId playerName e known undefined⟩
  | move session x y z =>
      cases bound : w.index.bySessionIndex session with
      | none => simp [playerCommand, movePlayer, bound] at undefined
      | some player =>
          refine ⟨player, by simp [uncheckedReads, bound], ?_⟩
          cases located : w.reg.location player with
          | none => exact .inr (.inr (.inl located))
          | some loc =>
              cases identified : w.reg.identity player with
              | none => exact .inr (.inr (.inr (.inl identified)))
              | some identity =>
                  simp [playerCommand, movePlayer, bound, located, identified] at undefined
  | talkToNpc session npcId => exact w.talkToNpc_undefined session npcId undefined
  | playerMessage session sessionId message => cases undefined
  | endDialogue session sessionId => cases undefined
  | getAgentStatus session agentId => cases undefined
  | malformed => cases undefined

omit [Scalar F] in
theorem uncheckedReads_indexed (w : World F) (cmd : PlayerCommand F) (e : Entity)
    (read : e ∈ w.uncheckedReads cmd) :
    (∃ id, w.index.byNpcId id = some e) ∨ ∃ session, w.index.bySessionIndex session = some e := by
  cases cmd with
  | login session playerId playerName =>
      exact .inl ⟨_, by simpa [uncheckedReads, loginTarget] using read⟩
  | move session x y z => exact .inr ⟨session, by simpa [uncheckedReads] using read⟩
  | talkToNpc session npcId =>
      cases bound : w.index.bySessionIndex session with
      | none => simp [uncheckedReads, bound] at read
      | some player =>
          cases indexed : w.index.byNpcId npcId with
          | none =>
              obtain rfl : e = player := by simpa [uncheckedReads, bound, indexed] using read
              exact .inr ⟨session, bound⟩
          | some npc =>
              simp only [uncheckedReads, bound, indexed] at read
              split at read
              next =>
                obtain rfl := List.mem_singleton.mp read
                exact .inr ⟨session, bound⟩
              next =>
                rcases List.mem_pair.mp read with rfl | rfl
                · exact .inr ⟨session, bound⟩
                · exact .inl ⟨npcId, indexed⟩
  | playerMessage session sessionId message => cases read
  | endDialogue session sessionId => cases read
  | getAgentStatus session agentId => cases read
  | malformed => cases read

structure IndexesValid (w : World F) : Prop where
  sessions : ∀ session e, w.index.bySessionIndex session = some e →
    w.reg.valid e = true ∧ ∃ tag, w.reg.playerTag e = some tag ∧ tag.sessionIndex = session
  npcs : ∀ id e, w.index.byNpcId id = some e →
    w.reg.valid e = true ∧ ∃ identity, w.reg.identity e = some identity ∧ identity.npcId = id
  reads : ∀ cmd, ∀ e ∈ w.uncheckedReads cmd, w.reg.valid e = true

omit [Scalar F] in
theorem IndexesValid.of_roster {w : World F} (roster : w.ledger.Roster) : w.IndexesValid := by
  have sessions : ∀ session e, w.index.bySessionIndex session = some e →
      w.reg.valid e = true ∧
        ∃ tag, w.reg.playerTag e = some tag ∧ tag.sessionIndex = session := by
    intro session e bound
    have tagged : w.reg.playerTag e = some ⟨session⟩ := roster.bound session e bound
    exact ⟨roster.tagged_valid (by simp [ledger, tagged]), _, tagged, rfl⟩
  have npcs : ∀ id e, w.index.byNpcId id = some e →
      w.reg.valid e = true ∧
        ∃ identity, w.reg.identity e = some identity ∧ identity.npcId = id := by
    intro id e indexed
    obtain ⟨valid, number, -⟩ := roster.indexed id e indexed
    obtain ⟨identity, identified, same⟩ := Option.map_eq_some_iff.mp number
    exact ⟨valid, identity, identified, same⟩
  refine ⟨sessions, npcs, fun cmd e read => ?_⟩
  rcases w.uncheckedReads_indexed cmd e read with ⟨id, indexed⟩ | ⟨session, bound⟩
  · exact (npcs id e indexed).1
  · exact (sessions session e bound).1

end World

/-- The indexes do not dangle in any reachable state, whatever the clients send. -/
theorem indexes_valid (data : WorldBootstrapData F) (settings : SimulationSettings F)
    (obstacles : Option (List Obstacle)) (draws : Nat → NeedsDraw F) (start w : World F)
    (past : List (Transition (World F) (Event F)))
    (booted : bootstrap data settings obstacles draws = some start)
    (run : ServerRun start past w) : w.IndexesValid :=
  .of_roster (run_cast (bootstrap_initial data settings obstacles draws start booted) run).1

-- Two players share a session, one of them reconnects, and the other one's session ends.
def hamletVisitors : List (Event ℚ) :=
  [.connect, .connect, .command (.login 1 "player" "Host"), .command (.login 1 "bot_1" "Bot"),
    .command (.login 2 "player" "Host"), .command (.move 2 3 0 4), .disconnect 1,
    .cleanupPlayer 2]

theorem indexes_valid_visitors : ∃ past w, ServerRun hamlet past w ∧
    past.reverse.map (·.event) = hamletVisitors ∧ w.IndexesValid := by
  have passed : (followWhile step (fun _ _ => true) hamletVisitors hamlet).any
      (fun _ => true) = true := by decide +kernel
  obtain ⟨past, w, run, -, events, -⟩ := Run.exists_of_check _ _ _ passed
  exact ⟨past, w, run, events, indexes_valid hamletData ⟨2, 60⟩ (some []) (fun _ => ⟨100, 100⟩)
    hamlet w past hamlet_boots run⟩

end MundusVivens
