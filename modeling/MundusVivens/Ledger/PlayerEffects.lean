import MundusVivens.Ledger.Projection
import MundusVivens.Systems.PlayerCommands

set_option autoImplicit false

namespace MundusVivens

open Scalar

variable {F : Type} [Scalar F]

namespace World

variable (w w' : World F)

theorem loginNew_ledger (session : UInt32) (playerId playerName : String)
    (joined : w.loginNew session playerId playerName = some w') :
    w'.ledger = w.ledger.apply (.enlist session (w.mapper.getAgentNumericId playerId)) := by
  simp only [loginNew, Option.bind_eq_bind, Option.bind_eq_some_iff] at joined
  obtain ⟨tagged, stored, kept⟩ := joined
  obtain rfl := Option.some.inj kept
  have created : w.reg.create.valid w.reg.nextEntity = true := by simp [Registry.create]
  simp only [Registry.setPlayerTag, created, dif_pos, Option.some.injEq] at stored
  subst stored
  ext e <;>
    simp [ledger, Registry.create, Registry.destroy, Ledger.apply, Ledger.create, Ledger.destroy,
      setIdentity, setLocation, setLastSynced] <;>
    by_cases same : e = w.reg.nextEntity <;> simp [same]

omit [Scalar F] in
theorem loginAgain_ledger (session : UInt32) (e : Entity)
    (rejoined : w.loginAgain session e = some w') :
    ∃ old, w.ledger.playerTag e = some old ∧ w'.ledger = w.ledger.apply (.rejoin session old e) := by
  simp only [loginAgain, Option.bind_eq_bind, Option.bind_eq_some_iff] at rejoined
  obtain ⟨old, tag, stored⟩ := rejoined
  obtain rfl := Option.some.inj stored
  refine ⟨old, tag, ?_⟩
  have tags : (w.reg.modifyPlayerTag e ⟨session⟩).playerTag =
      Function.update w.reg.playerTag e (some ⟨session⟩) := by
    funext x
    by_cases same : x = e <;> simp [Registry.modifyPlayerTag, same, tag]
  exact Ledger.ext rfl rfl rfl rfl rfl tags rfl rfl rfl rfl rfl

theorem loginBind_ledger (session : UInt32) (playerId playerName : String) (e : Entity)
    (bound : w.loginBind session playerId playerName = some (e, w')) :
    (w.loginTarget playerId = none ∧ e = w.reg.nextEntity ∧
        w'.ledger = w.ledger.apply (.enlist session (w.mapper.getAgentNumericId playerId))) ∨
      (w.loginTarget playerId = some e ∧ ∃ old, w.ledger.playerTag e = some old ∧
        w'.ledger = w.ledger.apply (.rejoin session old e)) := by
  unfold loginBind at bound
  cases target : w.loginTarget playerId with
  | none =>
      simp only [target, Option.bind_eq_bind, Option.bind_eq_some_iff, Option.some.injEq,
        Prod.mk.injEq] at bound
      obtain ⟨joined, created, rfl, rfl⟩ := bound
      exact .inl ⟨rfl, rfl, w.loginNew_ledger _ session playerId playerName created⟩
  | some known =>
      simp only [target, Option.bind_eq_bind, Option.bind_eq_some_iff, Option.some.injEq,
        Prod.mk.injEq] at bound
      obtain ⟨joined, rejoined, rfl, rfl⟩ := bound
      exact .inr ⟨rfl, w.loginAgain_ledger _ session known rejoined⟩

theorem login_bind (session : UInt32) (playerId playerName : String)
    (logged : w.login session playerId playerName = some w') :
    ∃ e bound, w.loginBind session playerId playerName = some (e, bound) ∧
      w'.ledger = bound.ledger := by
  simp only [login, Option.bind_eq_bind, Option.bind_eq_some_iff] at logged
  obtain ⟨⟨e, bound⟩, found, loc, -, placed⟩ := logged
  obtain rfl := Option.some.inj placed
  exact ⟨e, bound, found, bound.ledger_updateEntityPosition e _ _⟩

theorem movePlayer_ledger (session : UInt32) (x y z : F)
    (moved : w.movePlayer session x y z = some w') : w'.ledger = w.ledger := by
  unfold movePlayer at moved
  split at moved
  next => rw [← Option.some.inj moved]
  next player _ =>
    simp only [Option.bind_eq_bind, Option.bind_eq_some_iff] at moved
    obtain ⟨loc, -, identity, -, stored⟩ := moved
    obtain rfl := Option.some.inj stored
    simp

theorem startTalk_ledger (player npc : Entity) (npcId : UInt32)
    (started : w.startTalk player npc npcId = some w') :
    w'.ledger = w.ledger.apply (.talk w.grpc.nextTicket npc player) := by
  obtain ⟨identity, npcBusy, bothBusy, -, first, second, rfl⟩ := startTalk_cases started
  obtain ⟨-, calls, tagged⟩ := ledger_setBusy_dialogue _ npc npcBusy first
  obtain ⟨-, calls', tagged'⟩ := ledger_setBusy_dialogue _ player bothBusy second
  have issued := bothBusy.ledger_issue_call
    (.startPlayerDialogue (w.mapper.getAgentStringId identity.npcId) npcId npc player)
    (.start npc player) rfl
  have ticket : bothBusy.grpc.nextTicket = w.grpc.nextTicket := by rw [calls', calls]; rfl
  rw [issued, ticket, tagged', tagged, ledger_setActivity, Ledger.engage_engage]
  rfl

theorem talkToNpc_ledger (session npcId : UInt32)
    (talked : w.talkToNpc session npcId = some w') :
    w'.ledger = w.ledger ∨ ∃ npc player,
      w.ledger.index.bySessionIndex session = some player ∧
      w.ledger.index.byNpcId npcId = some npc ∧
      w.ledger.Enabled (.talk w.grpc.nextTicket npc player) ∧
      w'.ledger = w.ledger.apply (.talk w.grpc.nextTicket npc player) := by
  cases talkToNpc_cases talked with
  | ignored => exact .inl rfl
  | begins _ player npc bound indexed _ unplayed idle started =>
      exact .inr ⟨npc, player, bound, indexed,
        ⟨w.ledger_fresh, unplayed, by simp [ledger, idle], ⟨npcId, indexed⟩, session, bound⟩,
        w.startTalk_ledger w' player npc npcId started⟩

omit [Scalar F] in
theorem endDialogue_ledger (session : UInt32) (sessionId : UInt64) :
    (w.endDialogue session sessionId).ledger =
      w.ledger.apply (.hangUp w.grpc.nextTicket (w.index.bySessionIndex session)) :=
  w.ledger_issue_call _ (.finish (w.dialoguePartner (w.index.bySessionIndex session)) _) rfl

omit [Scalar F] in
theorem releaseNpc_ledger (npc : Entity) (released : w.releaseNpc npc = some w') :
    w'.ledger = w.ledger.release [npc] := by
  simp only [releaseNpc, Option.bind_eq_bind, Option.bind_eq_some_iff] at released
  obtain ⟨activity, -, stored⟩ := released
  obtain rfl := Option.some.inj stored
  simp

omit [Scalar F] in
theorem release_invalid (e : Entity) (invalid : ¬w.reg.valid e = true) :
    w.ledger.release [e] = w.ledger := by
  refine w.ledger.release_free [e] fun x member => ?_
  obtain rfl := List.mem_singleton.mp member
  exact (w.ledger_owned x (by simpa [ledger] using invalid)).1

omit [Scalar F] in
theorem releaseIfValid_ledger (npc : Entity) (released : w.releaseIfValid npc = some w') :
    w'.ledger = w.ledger.release [npc] := by
  unfold releaseIfValid at released
  split at released
  next => exact w.releaseNpc_ledger w' npc released
  next invalid =>
    obtain rfl := Option.some.inj released
    exact (w.release_invalid npc invalid).symm

omit [Scalar F] in
theorem eraseBusyIfValid_ledger (e : Entity) :
    (w.eraseBusyIfValid e).ledger = w.ledger.release [e] := by
  unfold eraseBusyIfValid
  split
  next => exact w.ledger_eraseBusy e
  next invalid => exact (w.release_invalid e invalid).symm

omit [Scalar F] in
theorem showTalking_ledger (npc : Entity) (shown : w.showTalking npc = some w') :
    w'.ledger = w.ledger := by
  unfold showTalking at shown
  split at shown
  next =>
    simp only [Option.bind_eq_bind, Option.bind_eq_some_iff] at shown
    obtain ⟨activity, -, stored⟩ := shown
    rw [← Option.some.inj stored, ledger_setActivity]
  next => rw [← Option.some.inj shown]

omit [Scalar F] in
theorem openDialogue_ledger (npc player : Entity) (sessionId : UInt64)
    (opened : w.openDialogue npc player sessionId = some w') :
    w'.ledger = w.ledger.openDialogue npc player sessionId := by
  unfold openDialogue at opened
  unfold Ledger.openDialogue
  split at opened
  next valid =>
    simp only [Registry.setPlayerDialogue, valid, dif_pos, Option.bind_eq_bind, Option.bind_some,
      Option.some.injEq] at opened
    subst opened
    exact (if_pos valid).symm
  next invalid =>
    obtain rfl := Option.some.inj opened
    exact (if_neg invalid).symm

omit [Scalar F] in
theorem startedTask_ledger (npc player : Entity) (success : Bool) (sessionId : UInt64)
    (started : w.startedTask npc player success sessionId = some w') :
    w'.ledger = if success then w.ledger.openDialogue npc player sessionId
      else w.ledger.release [npc, player] := by
  unfold startedTask at started
  cases success with
  | true =>
      simp only [if_true, Option.bind_eq_bind, Option.bind_eq_some_iff] at started
      obtain ⟨talking, shown, opened⟩ := started
      rw [if_pos rfl, openDialogue_ledger _ _ npc player sessionId opened,
        w.showTalking_ledger talking npc shown]
  | false =>
      simp only [Bool.false_eq_true, if_false, Option.bind_eq_bind, Option.bind_eq_some_iff]
        at started
      obtain ⟨released, first, stored⟩ := started
      rw [if_neg (by simp), ← Option.some.inj stored, eraseBusyIfValid_ledger,
        w.releaseIfValid_ledger released npc first, Ledger.release_release]
      rfl

omit [Scalar F] in
theorem closeDialogue_ledger (player : Entity) :
    (w.closeDialogue player).ledger = (w.ledger.release [player]).closeDialogue (some player) := by
  unfold closeDialogue
  split
  next valid =>
    rw [← ledger_eraseBusy]
    have dialogues : w.reg.playerDialogue.erase player =
        ((w.eraseBusy player).ledger.closeDialogue (some player)).playerDialogue := by
      funext x
      by_cases same : x = player <;>
        simp [Ledger.closeDialogue, same, ledger, eraseBusy, Registry.eraseBusy]
    exact Ledger.ext rfl rfl rfl rfl rfl rfl dialogues rfl rfl rfl rfl
  next invalid =>
    have silent := (w.ledger_owned player (by simpa [ledger] using invalid)).2.2
    rw [w.release_invalid player invalid]
    have dialogues : w.ledger.playerDialogue =
        (w.ledger.closeDialogue (some player)).playerDialogue := by
      funext x
      by_cases same : x = player <;> simp [Ledger.closeDialogue, same, silent]
    exact Ledger.ext rfl rfl rfl rfl rfl rfl dialogues rfl rfl rfl rfl

omit [Scalar F] in
theorem endedTask_ledger (npc player : Option Entity) (ended : w.endedTask npc player = some w') :
    w'.ledger = (w.ledger.release (npc.toList ++ player.toList)).closeDialogue player := by
  simp only [endedTask, Option.bind_eq_bind, Option.bind_eq_some_iff] at ended
  obtain ⟨released, first, stored⟩ := ended
  have freed : released.ledger = w.ledger.release npc.toList := by
    cases npc with
    | none =>
        rw [← Option.some.inj first]
        exact (w.ledger.release_free [] (by simp)).symm
    | some npc => exact w.releaseIfValid_ledger released npc first
  rw [← Ledger.release_release, ← freed, ← Option.some.inj stored]
  cases player with
  | none =>
      have same := released.ledger.release_free [] (by simp)
      rw [Option.toList_none, same]
      simp [Ledger.closeDialogue]
  | some player => exact released.closeDialogue_ledger player

omit [Scalar F] in
theorem freeNpc_ledger (npc : Entity) : (w.freeNpc npc).ledger = w.ledger.release [npc] := by
  unfold freeNpc
  split
  next => rw [ledger_eraseBusy, ledger_setActivity]
  next invalid => exact (w.release_invalid npc invalid).symm

omit [Scalar F] in
theorem abandonDialogue_ledger (player : Entity) :
    (w.abandonDialogue player).ledger = w.ledger.release (w.ledger.partner (some player)).toList := by
  unfold abandonDialogue
  cases talking : w.reg.playerDialogue player with
  | none =>
      have nobody : w.ledger.partner (some player) = none := by simp [Ledger.partner, ledger, talking]
      rw [nobody]
      exact (w.ledger.release_free [] (by simp)).symm
  | some dialogue =>
      have partner : w.ledger.partner (some player) = dialogue.npcEntity := by
        simp [Ledger.partner, ledger, talking]
      have signalled := w.ledger_issue_other (.endDisconnected dialogue.sessionId) rfl
      rw [partner, ← signalled]
      cases named : dialogue.npcEntity with
      | none =>
          simp only [named, Option.elim_none, Option.toList_none]
          exact (Ledger.release_free _ [] (by simp)).symm
      | some npc =>
          simp only [named, Option.elim_some, Option.toList_some]
          exact freeNpc_ledger _ npc

omit [Scalar F] in
theorem destroy_ledger (grid : LocationRegistry F) (index : EntityIndex) (e : Entity) :
    ({ w with reg := w.reg.destroy e, grid := grid, index := index } : World F).ledger =
      { w.ledger.destroy e with index := index } := by
  ext x <;> simp [ledger, Registry.destroy, Ledger.destroy] <;>
    by_cases same : x = e <;> simp [same]

omit [Scalar F] in
theorem cleanupPlayer_ledger (player : Entity) :
    (w.cleanupPlayer player).ledger = w.ledger ∨ ∃ tag, w.ledger.playerTag player = some tag ∧
      w.tcp.sessions tag.sessionIndex = false ∧
      (w.cleanupPlayer player).ledger = w.ledger.apply (.leave player tag) := by
  unfold cleanupPlayer
  split
  next => exact .inl rfl
  next tag tagged =>
    split
    next => exact .inl rfl
    next gone =>
      refine .inr ⟨tag, tagged, by simpa using gone, ?_⟩
      rw [removePlayer, destroy_ledger, w.abandonDialogue_ledger player]
      rfl

end World

end MundusVivens
