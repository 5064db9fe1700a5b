import MundusVivens.Network.Delivery

set_option autoImplicit false

/-!
# The sessions of the server

`AcceptLoop` numbers the sessions and registers them; `SendTo` and `BroadcastPacket` find them
through the table, from any thread, until the end of `Run` removes them.
-/

namespace MundusVivens.Network

open Runs

structure Sessions where
  nextSessionId : UInt32
  registered : List (UInt32 × Nat)
  opened : Nat
  index : Nat → UInt32
  object : Nat → WriteSide

-- `Send(PacketId::SC_HEARTBEAT_ACK, nullptr, 0)`.
def heartbeatAck : Packet := ⟨0x10FF, [], by decide⟩

inductive Call where
  | accept
  | sendTo (sessionIndex : UInt32) (packet : Packet)
  | broadcastPacket (packet : Packet)
  -- `CS_HEARTBEAT` in `HandlePacket`.
  | heartbeat (n : Nat)
  -- A step of the IO thread for one session.
  | io (n : Nat) (event : WriteSide.Step)
  | unregister (n : Nat)

namespace Sessions

def initial : Sessions := ⟨1, [], 0, fun _ => 0, fun _ => .initial⟩

def send (packet : Packet) (s : Sessions) (n : Nat) : Option Sessions :=
  (WriteSide.step (.send packet) (s.object n)).map fun side =>
    { s with object := Function.update s.object n side }

def unregisterSession (s : Sessions) (sessionIndex : UInt32) : Sessions :=
  { s with registered := s.registered.filter fun entry => entry.1 != sessionIndex }

-- One round of `AcceptLoop`; an index that is taken is overwritten.
def accept (s : Sessions) : Sessions :=
  { s with
    nextSessionId := s.nextSessionId + 1
    registered := (s.unregisterSession s.nextSessionId).registered ++ [(s.nextSessionId, s.opened)]
    opened := s.opened + 1
    index := Function.update s.index s.opened s.nextSessionId }

def sendTo (s : Sessions) (sessionIndex : UInt32) (packet : Packet) : Option Sessions :=
  match s.registered.lookup sessionIndex with
  | some n => s.send packet n
  | none => some s

def broadcastPacket (s : Sessions) (packet : Packet) : Option Sessions :=
  (s.registered.map Prod.snd).foldlM (send packet) s

def step (call : Call) (s : Sessions) : Option Sessions :=
  match call with
  | .accept => some s.accept
  | .sendTo sessionIndex packet => s.sendTo sessionIndex packet
  | .broadcastPacket packet => s.broadcastPacket packet
  | .heartbeat n =>
      if n < s.opened ∧ (s.object n).readerLeft = false then s.send heartbeatAck n else none
  | .io n event =>
      -- The table keeps an object alive.
      if n < s.opened ∧ event.isSend = false ∧
          (event.isDestroy = true → n ∉ s.registered.map Prod.snd) then
        (WriteSide.step event (s.object n)).map fun side =>
          { s with object := Function.update s.object n side }
      else none
  | .unregister n =>
      if n < s.opened ∧ (s.object n).readerLeft = true then some (s.unregisterSession (s.index n))
      else none

-- The objects in the table are different and exist; those not yet made are blank.
structure Kept (s : Sessions) : Prop where
  distinct : (s.registered.map Prod.snd).Nodup
  made : ∀ n ∈ s.registered.map Prod.snd, n < s.opened ∧ (s.object n).destroyed = false
  blank : ∀ n, s.opened ≤ n → s.object n = .initial

-- The objects of these sessions were given a packet, the others are as they were.
structure Handed (packet : Packet) (receivers : List Nat) (s s' : Sessions) : Prop where
  table : s'.registered = s.registered
  opened : s'.opened = s.opened
  sent : ∀ n ∈ receivers, WriteSide.step (.send packet) (s.object n) = some (s'.object n)
  others : ∀ n, n ∉ receivers → s'.object n = s.object n

structure Numbers (s s' : Sessions) : Prop where
  nextSessionId : s'.nextSessionId = s.nextSessionId
  opened : s'.opened = s.opened
  index : s'.index = s.index

variable {s s' : Sessions} {packet : Packet}

theorem send_handed {n : Nat} (given : s.send packet n = some s') : Handed packet [n] s s' := by
  obtain ⟨side, stepped, rfl⟩ := Option.map_eq_some_iff.mp given
  refine ⟨rfl, rfl, fun m member => ?_, fun m other => ?_⟩
  · obtain rfl := List.mem_singleton.mp member
    simp [stepped]
  · exact Function.update_of_ne (fun same => other (List.mem_singleton.mpr same)) _ _

theorem send_numbers {n : Nat} (given : s.send packet n = some s') : Numbers s s' := by
  obtain ⟨side, -, rfl⟩ := Option.map_eq_some_iff.mp given
  exact ⟨rfl, rfl, rfl⟩

theorem send_alive (n : Nat) (alive : (s.object n).destroyed = false) (packet : Packet) :
    ∃ s', s.send packet n = some s' := by
  obtain ⟨side, stepped⟩ := Option.isSome_iff_exists.mp (WriteSide.step_send_isSome alive packet)
  exact ⟨_, by rw [send, stepped]; rfl⟩

theorem Handed.trans {first second : List Nat} {m : Sessions}
    (given : Handed packet first s m) (later : Handed packet second m s')
    (apart : ∀ n ∈ first, n ∉ second) : Handed packet (first ++ second) s s' where
  table := later.table.trans given.table
  opened := later.opened.trans given.opened
  sent := by
    intro n member
    rcases List.mem_append.mp member with member | member
    · rw [later.others n (apart n member)]
      exact given.sent n member
    · rw [← given.others n (fun among => apart n among member)]
      exact later.sent n member
  others := by
    intro n other
    obtain ⟨before, after⟩ := not_or.mp (List.mem_append.not.mp other)
    exact (later.others n after).trans (given.others n before)

theorem broadcast_handed (sessions : List Nat) (distinct : sessions.Nodup)
    (given : sessions.foldlM (send packet) s = some s') : Handed packet sessions s s' := by
  induction sessions generalizing s with
  | nil =>
      obtain rfl := Option.some.inj given
      exact ⟨rfl, rfl, fun n member => (List.not_mem_nil member).elim, fun _ _ => rfl⟩
  | cons n rest ih =>
      rw [List.foldlM_cons, Option.bind_eq_bind, Option.bind_eq_some_iff] at given
      obtain ⟨m, first, later⟩ := given
      obtain ⟨fresh, distinct⟩ := List.nodup_cons.mp distinct
      refine (send_handed first).trans (ih distinct later) fun x member => ?_
      obtain rfl := List.mem_singleton.mp member
      exact fresh

theorem broadcast_numbers (sessions : List Nat)
    (given : sessions.foldlM (send packet) s = some s') : Numbers s s' := by
  induction sessions generalizing s with
  | nil =>
      obtain rfl := Option.some.inj given
      exact ⟨rfl, rfl, rfl⟩
  | cons n rest ih =>
      rw [List.foldlM_cons, Option.bind_eq_bind, Option.bind_eq_some_iff] at given
      obtain ⟨m, first, later⟩ := given
      have sent := send_numbers first
      have told := ih later
      exact ⟨told.nextSessionId.trans sent.nextSessionId, told.opened.trans sent.opened,
        told.index.trans sent.index⟩

theorem broadcast_alive (packet : Packet) (sessions : List Nat) (distinct : sessions.Nodup)
    (alive : ∀ n ∈ sessions, (s.object n).destroyed = false) :
    ∃ s', sessions.foldlM (send packet) s = some s' := by
  induction sessions generalizing s with
  | nil => exact ⟨s, rfl⟩
  | cons n rest ih =>
      obtain ⟨m, first⟩ := send_alive n (alive n List.mem_cons_self) packet
      obtain ⟨fresh, distinct⟩ := List.nodup_cons.mp distinct
      have later : ∀ x ∈ rest, (m.object x).destroyed = false := by
        intro x member
        rw [(send_handed first).others x (fun same => fresh (List.mem_singleton.mp same ▸ member))]
        exact alive x (List.mem_cons_of_mem _ member)
      obtain ⟨s', given⟩ := ih distinct later
      exact ⟨s', by rw [List.foldlM_cons, first]; exact given⟩

theorem Handed.kept {receivers : List Nat} (handed : Handed packet receivers s s')
    (kept : s.Kept) (present : ∀ n ∈ receivers, n < s.opened) : s'.Kept := by
  have alive (n : Nat) : (s'.object n).destroyed = (s.object n).destroyed := by
    by_cases member : n ∈ receivers
    · exact WriteSide.step_alive rfl (handed.sent n member)
    · rw [handed.others n member]
  refine ⟨by rw [handed.table]; exact kept.distinct, fun n member => ?_, fun n beyond => ?_⟩
  · rw [handed.table] at member
    rw [handed.opened, alive]
    exact kept.made n member
  · rw [handed.opened] at beyond
    rw [handed.others n (fun member => absurd (present n member) (Nat.not_lt.mpr beyond))]
    exact kept.blank n beyond

/-- What a session was given with a call. -/
def addressedTo (n : Nat) (t : Transition Sessions Call) : List Packet :=
  match t.event with
  | .sendTo sessionIndex packet =>
      if t.before.registered.lookup sessionIndex = some n then [packet] else []
  | .broadcastPacket packet => if n ∈ t.before.registered.map Prod.snd then [packet] else []
  | .heartbeat m => if n = m then [heartbeatAck] else []
  | _ => []

/-- What a call puts before the channel of a session. -/
def arrivals (n : Nat) (t : Transition Sessions Call) : List (Packet × Bool) :=
  match t.event with
  | .io m event => if n = m then (t.before.object n).arrival event else []
  | _ => []

-- A session takes a step of its own, or rests, and its log grows by what it was given.
def Proceeds (n : Nat) (given : List Packet) (s s' : Sessions) : Prop :=
  (s'.object n = s.object n ∨
    ∃ event, WriteSide.step event (s.object n) = some (s'.object n)) ∧
  (s'.object n).sent = (s.object n).sent ++ given

theorem proceeds_rest (n : Nat) (same : s'.object n = s.object n) : Proceeds n [] s s' :=
  ⟨.inl same, by rw [same, List.append_nil]⟩

theorem Handed.proceeds {receivers : List Nat} (handed : Handed packet receivers s s') (n : Nat) :
    Proceeds n (if n ∈ receivers then [packet] else []) s s' := by
  by_cases member : n ∈ receivers
  · rw [if_pos member]
    have stepped := handed.sent n member
    exact ⟨.inr ⟨_, stepped⟩, WriteSide.step_sent stepped⟩
  · rw [if_neg member]
    exact proceeds_rest n (handed.others n member)

theorem sendTo_cases {sessionIndex : UInt32} (given : s.sendTo sessionIndex packet = some s') :
    s.registered.lookup sessionIndex = none ∧ s' = s ∨
      ∃ n, s.registered.lookup sessionIndex = some n ∧ s.send packet n = some s' := by
  unfold sendTo at given
  split at given
  next n found => exact .inr ⟨n, found, given⟩
  next missing => exact .inl ⟨missing, (Option.some.inj given).symm⟩

theorem lookup_registered {sessionIndex : UInt32} {n : Nat}
    (found : s.registered.lookup sessionIndex = some n) : n ∈ s.registered.map Prod.snd := by
  obtain ⟨before, after, table, -⟩ := List.lookup_eq_some_iff.mp found
  simp [table]

inductive Moves (s : Sessions) : Call → Sessions → Prop where
  | accepts : Moves s .accept s.accept
  -- `Send` of some sessions: of all, of one, or of none where the index is unknown.
  | hands {s' : Sessions} (call : Call) (packet : Packet) (receivers : List Nat)
      (handed : Handed packet receivers s s') (numbers : Numbers s s')
      (present : ∀ n ∈ receivers, n < s.opened)
      (addressed : ∀ n, addressedTo n ⟨s, call, s'⟩ = if n ∈ receivers then [packet] else [])
      (quiet : ∀ n, arrivals n ⟨s, call, s'⟩ = []) : Moves s call s'
  | works (n : Nat) (event : WriteSide.Step) (side : WriteSide) (present : n < s.opened)
      (unsent : event.isSend = false)
      (spared : event.isDestroy = true → n ∉ s.registered.map Prod.snd)
      (taken : WriteSide.step event (s.object n) = some side) :
      Moves s (.io n event) { s with object := Function.update s.object n side }
  | unregisters (n : Nat) : Moves s (.unregister n) (s.unregisterSession (s.index n))

theorem Moves.hands_one {call : Call} (n : Nat) (given : s.send packet n = some s')
    (present : n < s.opened)
    (addressed : ∀ m, addressedTo m ⟨s, call, s'⟩ = if m = n then [packet] else [])
    (quiet : ∀ m, arrivals m ⟨s, call, s'⟩ = []) : Moves s call s' := by
  refine .hands call packet [n] (send_handed given) (send_numbers given) (fun m member => ?_)
    (fun m => ?_) quiet
  · obtain rfl := List.mem_singleton.mp member
    exact present
  · rw [addressed m]
    simp

theorem step_moves {call : Call} (kept : s.Kept) (stepped : step call s = some s') :
    Moves s call s' := by
  cases call with
  | accept =>
      obtain rfl := Option.some.inj stepped
      exact .accepts
  | sendTo sessionIndex packet =>
      rcases sendTo_cases stepped with ⟨missing, rfl⟩ | ⟨n, found, given⟩
      · exact .hands _ packet [] ⟨rfl, rfl, nofun, fun _ _ => rfl⟩ ⟨rfl, rfl, rfl⟩ nofun
          (fun n => by simp [addressedTo, missing]) fun _ => rfl
      · exact .hands_one n given (kept.made n (lookup_registered found)).1
          (fun m => by simp [addressedTo, found, eq_comm]) fun _ => rfl
  | broadcastPacket packet =>
      exact .hands _ packet _ (broadcast_handed _ kept.distinct stepped)
        (broadcast_numbers _ stepped) (fun n member => (kept.made n member).1) (fun _ => rfl)
        fun _ => rfl
  | heartbeat n =>
      simp only [step] at stepped
      split at stepped
      next present => exact .hands_one n stepped present.1 (fun _ => rfl) fun _ => rfl
      next => cases stepped
  | io n event =>
      simp only [step] at stepped
      split at stepped
      next allowed =>
        obtain ⟨side, taken, rfl⟩ := Option.map_eq_some_iff.mp stepped
        exact .works n event side allowed.1 allowed.2.1 allowed.2.2 taken
      next => cases stepped
  | unregister n =>
      simp only [step] at stepped
      split at stepped
      next =>
        obtain rfl := Option.some.inj stepped
        exact .unregisters n
      next => cases stepped

theorem step_proceeds {call : Call} (kept : s.Kept) (stepped : step call s = some s') (n : Nat) :
    Proceeds n (addressedTo n ⟨s, call, s'⟩) s s' := by
  cases step_moves kept stepped with
  | accepts => exact proceeds_rest n rfl
  | hands call packet receivers handed numbers present addressed quiet =>
      rw [addressed n]
      exact handed.proceeds n
  | works m event side present unsent spared taken =>
      by_cases self : n = m
      · subst self
        have quiet := WriteSide.step_unsent unsent taken
        refine ⟨.inr ⟨event, ?_⟩, ?_⟩
        · simp [taken]
        · simp [addressedTo, quiet]
      · exact proceeds_rest n (Function.update_of_ne self _ _)
  | unregisters m => exact proceeds_rest n rfl

theorem unregisterSession_sublist (s : Sessions) (sessionIndex : UInt32) :
    ((s.unregisterSession sessionIndex).registered.map Prod.snd).Sublist
      (s.registered.map Prod.snd) :=
  List.filter_sublist.map _

theorem accept_kept (kept : s.Kept) : s.accept.Kept := by
  have fewer := s.unregisterSession_sublist s.nextSessionId
  have fresh : s.opened ∉ (s.unregisterSession s.nextSessionId).registered.map Prod.snd :=
    fun member => absurd (kept.made _ (fewer.subset member)).1 (Nat.lt_irrefl _)
  refine ⟨?_, fun n member => ?_, fun n beyond => kept.blank n (Nat.le_of_succ_le beyond)⟩
  · rw [accept, List.map_append, List.nodup_append]
    refine ⟨kept.distinct.sublist fewer, List.nodup_singleton _, ?_⟩
    rintro n member _ last rfl
    obtain rfl := List.mem_singleton.mp last
    exact fresh member
  · rw [accept, List.map_append, List.mem_append] at member
    rcases member with member | last
    · obtain ⟨made, alive⟩ := kept.made n (fewer.subset member)
      exact ⟨Nat.lt_succ_of_lt made, alive⟩
    · obtain rfl := List.mem_singleton.mp last
      refine ⟨Nat.lt_succ_self _, ?_⟩
      change (s.object s.opened).destroyed = false
      rw [kept.blank _ (Nat.le_refl _)]
      rfl

theorem step_kept {call : Call} (kept : s.Kept) (stepped : step call s = some s') : s'.Kept := by
  cases step_moves kept stepped with
  | accepts => exact accept_kept kept
  | hands call packet receivers handed numbers present addressed quiet => exact handed.kept kept present
  | works m event side present unsent spared taken =>
      refine ⟨kept.distinct, fun n member => ?_, fun n beyond => ?_⟩
      · obtain ⟨made, alive⟩ := kept.made n member
        refine ⟨made, ?_⟩
        dsimp only
        by_cases self : n = m
        · subst self
          -- The table still holds the object, so this was not the destructor.
          have lives : event.isDestroy = false :=
            Bool.eq_false_iff.mpr fun destroys => spared destroys member
          rw [Function.update_self, WriteSide.step_alive lives taken]
          exact alive
        · rw [Function.update_of_ne self]
          exact alive
      · have other : n ≠ m := by
          rintro rfl
          exact absurd present (Nat.not_lt.mpr beyond)
        dsimp only
        rw [Function.update_of_ne other]
        exact kept.blank n beyond
  | unregisters n =>
      have fewer := s.unregisterSession_sublist (s.index n)
      exact ⟨kept.distinct.sublist fewer, fun n member => kept.made n (fewer.subset member),
        kept.blank⟩

-- The index of the `n`-th session: they count on from 1, and wrap.
def indexOf (n : Nat) : UInt32 := UInt32.ofNat (n + 1)

structure Numbered (s : Sessions) : Prop where
  next : s.nextSessionId = indexOf s.opened
  made : ∀ n < s.opened, s.index n = indexOf n

theorem step_numbers {call : Call} (kept : s.Kept) (stepped : step call s = some s') :
    Numbers s s' ∨ s' = s.accept := by
  cases step_moves kept stepped with
  | accepts => exact .inr rfl
  | hands call packet receivers handed numbers present addressed quiet => exact .inl numbers
  | works m event side present unsent spared taken => exact .inl ⟨rfl, rfl, rfl⟩
  | unregisters m => exact .inl ⟨rfl, rfl, rfl⟩

theorem step_opened {call : Call} (kept : s.Kept) (stepped : step call s = some s') :
    s.opened ≤ s'.opened := by
  rcases step_numbers kept stepped with same | rfl
  · exact Nat.le_of_eq same.opened.symm
  · exact Nat.le_succ _

theorem step_numbered {call : Call} (kept : s.Kept) (numbered : s.Numbered)
    (stepped : step call s = some s') : s'.Numbered := by
  rcases step_numbers kept stepped with same | rfl
  · refine ⟨?_, fun n made => ?_⟩
    · rw [same.nextSessionId, same.opened, numbered.next]
    · rw [same.index]
      exact numbered.made n (same.opened ▸ made)
  · refine ⟨?_, fun n made => ?_⟩
    · simp only [accept, numbered.next, indexOf]
      exact (UInt32.ofNat_add (s.opened + 1) 1).symm
    · simp only [accept] at made ⊢
      by_cases self : n = s.opened
      · rw [self, Function.update_self, numbered.next]
      · rw [Function.update_of_ne self]
        exact numbered.made n (by omega)

variable {past : List (Transition Sessions Call)}

theorem run_kept (run : Run step initial past s) : s.Kept := by
  have begins : initial.Kept :=
    ⟨List.nodup_nil, fun _ member => (List.not_mem_nil member).elim, fun _ _ => rfl⟩
  exact run.preserved Kept begins fun _ _ _ kept stepped => step_kept kept stepped

theorem run_numbered (run : Run step initial past s) : s.Numbered := by
  induction run with
  | rest => exact ⟨rfl, nofun⟩
  | next run stepped ih => exact step_numbered (run_kept run) ih stepped

theorem run_object (run : Run step initial past s) (n : Nat) :
    ∃ own, Run WriteSide.step .initial own (s.object n) := by
  induction run with
  | rest => exact ⟨[], .rest⟩
  | next run stepped ih =>
      obtain ⟨own, earlier⟩ := ih
      rcases (step_proceeds (run_kept run) stepped n).1 with same | ⟨event, taken⟩
      · exact ⟨own, same ▸ earlier⟩
      · exact ⟨_, earlier.next taken⟩

theorem run_sent (run : Run step initial past s) (n : Nat) :
    (s.object n).sent = past.reverse.flatMap (addressedTo n) := by
  induction run with
  | rest => rfl
  | next run stepped ih =>
      rw [(step_proceeds (run_kept run) stepped n).2, ih, List.reverse_cons, List.flatMap_append]
      simp

theorem calls_go_through (kept : s.Kept) (packet : Packet) :
    (s.broadcastPacket packet).isSome ∧ ∀ sessionIndex, (s.sendTo sessionIndex packet).isSome := by
  constructor
  · obtain ⟨s', given⟩ := broadcast_alive packet _ kept.distinct
      fun n member => (kept.made n member).2
    exact Option.isSome_iff_exists.mpr ⟨s', given⟩
  · intro sessionIndex
    unfold sendTo
    split
    next n found =>
      obtain ⟨s', given⟩ := send_alive n (kept.made n (lookup_registered found)).2 packet
      exact Option.isSome_iff_exists.mpr ⟨s', given⟩
    next => rfl

theorem step_logs {call : Call} (kept : s.Kept) (stepped : step call s = some s') (n : Nat)
    (orderly : (s.object n).Orderly) :
    (s'.object n).offered =
        (s.object n).offered ++ (arrivals n ⟨s, call, s'⟩).map Prod.fst ∧
      (s'.object n).accepted =
        (s.object n).accepted ++ WriteSide.admitted (arrivals n ⟨s, call, s'⟩) := by
  have rests (quiet : arrivals n ⟨s, call, s'⟩ = []) (same : s'.object n = s.object n) :
      (s'.object n).offered = (s.object n).offered ++ (arrivals n ⟨s, call, s'⟩).map Prod.fst ∧
        (s'.object n).accepted =
          (s.object n).accepted ++ WriteSide.admitted (arrivals n ⟨s, call, s'⟩) := by
    rw [quiet, same]
    exact ⟨(List.append_nil _).symm, (List.append_nil _).symm⟩
  cases step_moves kept stepped with
  | accepts => exact rests rfl rfl
  | hands call packet receivers handed numbers present addressed quiet =>
      by_cases member : n ∈ receivers
      · rw [quiet n]
        exact WriteSide.step_logs orderly (handed.sent n member)
      · exact rests (quiet n) (handed.others n member)
  | works m event side present unsent spared taken =>
      by_cases self : n = m
      · subst self
        simpa [arrivals] using WriteSide.step_logs orderly taken
      · refine rests ?_ (Function.update_of_ne self _ _)
        simp [arrivals, self]
  | unregisters m => exact rests rfl rfl

theorem run_logs (run : Run step initial past s) (n : Nat) :
    (s.object n).offered = (past.reverse.flatMap (arrivals n)).map Prod.fst ∧
      (s.object n).accepted = WriteSide.admitted (past.reverse.flatMap (arrivals n)) := by
  induction run with
  | rest => exact ⟨rfl, rfl⟩
  | next run stepped ih =>
      obtain ⟨own, ownRun⟩ := run_object run n
      obtain ⟨offered, accepted⟩ :=
        step_logs (run_kept run) stepped n (WriteSide.run_orderly ownRun)
      rw [offered, accepted, ih.1, ih.2, List.reverse_cons, List.flatMap_append, List.map_append,
        WriteSide.admitted_append]
      simp

/-- In every interleaving of calls, connections and the IO thread a session is given what was
broadcast while it was registered, what was addressed to it and its acknowledgements, in this
order, and nothing else. These packets come before its channel in order, which refuses none but
those that find it closed or full. Its client reads what the channel took, undamaged, in order and
without a gap: what it has not read is still under way as long as the coroutine writes, and cut off
at the end when the coroutine has given up. No call reaches a session that is gone. -/
theorem clients_read_their_own (run : Run step initial past s) (n : Nat) :
    let given := past.reverse.flatMap (addressedTo n)
    let arrived := past.reverse.flatMap (arrivals n)
    let taken := WriteSide.admitted arrived
    (s.object n).sent = given ∧
      arrived.map Prod.fst ++ (s.object n).posted.map Parcel.packet = given ∧
      (receive (s.object n).wire).delivered <+: taken ∧
      (receive (s.object n).wire).stop = .endOfStream ∧
      ((s.object n).writer.isRunning = true →
        (s.object n).wire ++ (s.object n).owed = taken.flatMap Packet.bytes) ∧
      ((s.object n).writer = .waiting →
        receive (s.object n).wire = ⟨taken, [], .endOfStream⟩) ∧
      ∀ packet, (s.broadcastPacket packet).isSome ∧
        ∀ sessionIndex, (s.sendTo sessionIndex packet).isSome := by
  intro given arrived taken
  have sent : (s.object n).sent = given := run_sent run n
  obtain ⟨offered, accepted⟩ := run_logs run n
  obtain ⟨own, ownRun⟩ := run_object run n
  have orderly := WriteSide.run_orderly ownRun
  obtain ⟨delivered, stopped, -, caught⟩ := WriteSide.client_reads_in_order ownRun
  have whole := orderly.whole
  rw [accepted] at delivered caught whole
  have queued := orderly.queued
  rw [offered, sent] at queued
  exact ⟨sent, queued, delivered, stopped, whole, caught, calls_go_through (run_kept run)⟩

open WriteSide in
-- Two clients, of which the first leaves while a snapshot is written to it.
def twoClients : List Call :=
  [.accept, .io 0 .start, .accept, .sendTo 1 loginAck, .io 1 .start, .broadcastPacket snapshot,
    .io 0 .deliver, .io 0 .receive, .io 0 .resume, .io 0 (.write 7), .io 0 .finish,
    .io 0 .deliver, .io 0 .receive, .io 0 .resume, .io 0 (.write 100), .io 1 .deliver, .io 0 .leave,
    .sendTo 1 loginAck, .io 0 .deliver, .unregister 0, .io 1 .receive, .io 1 .resume,
    .io 1 (.write 307), .broadcastPacket snapshot, .heartbeat 1, .io 1 .finish, .io 1 .deliver,
    .io 1 .receive, .io 0 .fail, .io 1 .resume, .io 1 (.write 307), .io 1 .finish, .io 1 .deliver,
    .io 1 .receive, .io 1 .resume, .io 1 (.write 4), .io 1 .finish, .io 1 .receive]

-- What comes after the first client has left is refused; the other one gets everything.
theorem clients_read_their_own_twoClients : ∃ past s, Run step initial past s ∧
    past.reverse.map (·.event) = twoClients ∧
    (s.object 0).sent = [WriteSide.loginAck, WriteSide.snapshot, WriteSide.loginAck] ∧
    (receive (s.object 0).wire).delivered <+: [WriteSide.loginAck, WriteSide.snapshot] ∧
    receive (s.object 1).wire =
      ⟨[WriteSide.snapshot, WriteSide.snapshot, heartbeatAck], [], .endOfStream⟩ := by
  have passed : (followWhile step (fun _ _ => true) twoClients initial).any (fun s =>
      decide ((s.object 0).sent =
          [WriteSide.loginAck, WriteSide.snapshot, WriteSide.loginAck]) &&
        decide ((s.object 0).accepted = [WriteSide.loginAck, WriteSide.snapshot]) &&
        decide ((s.object 1).accepted =
          [WriteSide.snapshot, WriteSide.snapshot, heartbeatAck]) &&
        (s.object 1).writer.isWaiting) = true := by
    decide +kernel
  obtain ⟨past, s, run, -, events, checked⟩ := Run.exists_of_check _ _ _ passed
  simp only [Bool.and_eq_true, decide_eq_true_eq, Writer.isWaiting_iff] at checked
  obtain ⟨⟨⟨sent, first⟩, second⟩, waits⟩ := checked
  rw [(run_logs run 0).2] at first
  rw [(run_logs run 1).2] at second
  obtain ⟨-, -, delivered, -⟩ := clients_read_their_own run 0
  obtain ⟨-, -, -, -, -, caught, -⟩ := clients_read_their_own run 1
  exact ⟨past, s, run, events, sent, first ▸ delivered, second ▸ caught waits⟩

end Sessions

end MundusVivens.Network
