import MundusVivens.Network.Handover
import MundusVivens.Network.Sessions

set_option autoImplicit false

/-!
# The commands of the clients

`Run` reads the frames of its client, `HandlePacket` queues a command for each that asks for one,
and `SystemPlayerCommands` works off the queue on the main thread.
-/

namespace MundusVivens.Network

open Runs

inductive CommandType where
  | login
  | move
  | talkToNpc
  | playerMessage
  | endDialogue
  | getAgentStatus
deriving DecidableEq

-- `PlayerCommand` with its payload as the client sent it.
structure QueuedCommand where
  type : CommandType
  sessionIndex : UInt32
  payload : List UInt8
deriving DecidableEq

inductive Handling where
  | queue (command : QueuedCommand)
  | acknowledge
  | ignore

def Handling.command : Handling → Option QueuedCommand
  | .queue command => some command
  | _ => none

def handlePacket (sessionIndex : UInt32) (packet : Packet) : Handling :=
  let cmd (type : CommandType) : Handling := .queue ⟨type, sessionIndex, packet.payload⟩
  match packet.packetId with
  | 0x0001 => cmd .login
  | 0x0002 => cmd .move
  | 0x0003 => cmd .talkToNpc
  | 0x0004 => cmd .playerMessage
  | 0x0005 => cmd .endDialogue
  | 0x0008 => cmd .getAgentStatus
  | 0x00FF => .acknowledge
  | _ => .ignore

-- What has come in from a client, and what of it `Run` has not read.
structure Inbox where
  stream : List UInt8
  unread : List UInt8

structure Intake where
  sessions : Sessions
  inbox : Nat → Inbox
  -- Each command with the session object that queued it.
  queue : CommandQueue (Nat × QueuedCommand)
  -- What `SystemPlayerCommands` has come to.
  handled : List (Nat × QueuedCommand)

-- Only `HandlePacket` makes this call.
def Call.isHeartbeat : Call → Bool
  | .heartbeat _ => true
  | _ => false

namespace Intake

def initial : Intake := ⟨.initial, fun _ => ⟨[], []⟩, .initial, []⟩

inductive Event where
  | call (call : Call)
  | arrive (n : Nat) (bytes : List UInt8)
  | read (n : Nat)
  -- A step of the main thread.
  | main (event : DoubleBuffer.Event (Nat × QueuedCommand))

def call (s : Intake) (call : Call) : Option Intake :=
  (Sessions.step call s.sessions).map fun sessions => { s with sessions := sessions }

def arrive (s : Intake) (n : Nat) (bytes : List UInt8) : Intake :=
  let inbox := s.inbox n
  { s with inbox := Function.update s.inbox n ⟨inbox.stream ++ bytes, inbox.unread ++ bytes⟩ }

def queueCommand (s : Intake) (n : Nat) (command : QueuedCommand) : Option Intake :=
  (DoubleBuffer.step (.push n (n, command)) s.queue).map fun queue => { s with queue := queue }

def handle (s : Intake) (n : Nat) : Handling → Option Intake
  | .queue command => s.queueCommand n command
  | .acknowledge => s.call (.heartbeat n)
  | .ignore => some s

def setUnread (s : Intake) (n : Nat) (rest : List UInt8) : Intake :=
  { s with inbox := Function.update s.inbox n { s.inbox n with unread := rest } }

-- One round of the loop in `Run`, when its frame has come in.
def read (s : Intake) (n : Nat) : Option Intake :=
  if n < s.sessions.opened ∧ (s.sessions.object n).readerLeft = false then
    match readFrame (s.inbox n).unread with
    | .ok (packet, rest) =>
        (s.setUnread n rest).handle n (handlePacket (s.sessions.index n) packet)
    -- The length field is looked at before the payload is waited for.
    | .error .badLength => s.call (.io n .leave)
    | .error .endOfStream => none
  else none

def step (event : Event) (s : Intake) : Option Intake :=
  match event with
  | .call call => if call.isHeartbeat then none else s.call call
  | .arrive n bytes => if n < s.sessions.opened then some (s.arrive n bytes) else none
  | .read n => s.read n
  | .main event =>
      if (DoubleBuffer.pushed event).isEmpty then
        (DoubleBuffer.step event s.queue).map fun queue =>
          { s with queue := queue, handled := s.handled ++ s.queue.visited event }
      else none

def ofSession (n : Nat) (entry : Nat × QueuedCommand) : Option QueuedCommand :=
  if entry.1 = n then some entry.2 else none

-- The commands queued for a session, those the main thread has come to first.
def commands (s : Intake) (n : Nat) : List QueuedCommand :=
  (s.handled ++ (s.queue.unread ++ s.queue.back)).filterMap (ofSession n)

def commandsIn (n : Nat) (packets : List Packet) : List QueuedCommand :=
  packets.filterMap fun packet => (handlePacket (Sessions.indexOf n) packet).command

-- Bytes come in and packets are read, whose commands are queued.
structure Advances (n : Nat) (s s' : Intake) (bytes : List UInt8) (packets : List Packet) :
    Prop where
  stream : (s'.inbox n).stream = (s.inbox n).stream ++ bytes
  unread : (s.inbox n).unread ++ bytes = packets.flatMap Packet.bytes ++ (s'.inbox n).unread
  commands : s'.commands n = s.commands n ++ commandsIn n packets

-- Nothing is lost between the clients and the main thread.
structure Tracked (s : Intake) : Prop where
  sound : s.queue.Sound
  sessions : ∃ past, Run Sessions.step .initial past s.sessions
  silent : ∀ n, s.sessions.opened ≤ n → (s.inbox n).stream = []
  told : ∀ n, ∃ packets,
    (s.inbox n).stream = packets.flatMap Packet.bytes ++ (s.inbox n).unread ∧
      s.commands n = commandsIn n packets

variable {s s' : Intake} {n : Nat}

theorem Advances.rest (inbox : s'.inbox n = s.inbox n) (commands : s'.commands n = s.commands n) :
    Advances n s s' [] [] :=
  ⟨by rw [inbox, List.append_nil], by rw [inbox, List.append_nil]; rfl,
    by rw [commands]; exact (List.append_nil _).symm⟩

theorem Advances.told {bytes : List UInt8} {packets : List Packet}
    (advances : Advances n s s' bytes packets) (tracked : s.Tracked) :
    ∃ packets, (s'.inbox n).stream = packets.flatMap Packet.bytes ++ (s'.inbox n).unread ∧
      s'.commands n = commandsIn n packets := by
  obtain ⟨earlier, stream, commands⟩ := tracked.told n
  refine ⟨earlier ++ packets, ?_, ?_⟩
  · rw [advances.stream, stream, List.append_assoc, advances.unread, List.flatMap_append,
      List.append_assoc]
  · rw [advances.commands, commands, commandsIn, commandsIn, commandsIn, List.filterMap_append]

theorem queueCommand_cases {m : Nat} {command : QueuedCommand}
    (queued : s.queueCommand m command = some s') :
    ∃ queue, DoubleBuffer.step (.push m (m, command)) s.queue = some queue ∧
      s' = { s with queue := queue } := by
  obtain ⟨queue, pushed, rfl⟩ := Option.map_eq_some_iff.mp queued
  exact ⟨queue, pushed, rfl⟩

theorem queueCommand_commands {m : Nat} {command : QueuedCommand} (sound : s.queue.Sound)
    (queued : s.queueCommand m command = some s') (n : Nat) :
    s'.commands n = s.commands n ++ (if n = m then [command] else []) := by
  obtain ⟨queue, pushed, rfl⟩ := queueCommand_cases queued
  have keeps := (DoubleBuffer.step_handles _ _ _ sound pushed).keeps
  simp only [DoubleBuffer.pushed, DoubleBuffer.visited, List.nil_append] at keeps
  rw [Intake.commands, ← keeps, ← List.append_assoc, List.filterMap_append, Intake.commands]
  by_cases self : n = m
  · simp [ofSession, self]
  · simp [ofSession, self, Ne.symm self]

theorem call_cases {call : Call} (called : s.call call = some s') :
    ∃ sessions, Sessions.step call s.sessions = some sessions ∧
      s' = { s with sessions := sessions } := by
  obtain ⟨sessions, stepped, rfl⟩ := Option.map_eq_some_iff.mp called
  exact ⟨sessions, stepped, rfl⟩

theorem call_tracked {call : Call} (tracked : s.Tracked) (called : s.call call = some s') :
    s'.Tracked := by
  obtain ⟨sessions, stepped, rfl⟩ := call_cases called
  obtain ⟨past, run⟩ := tracked.sessions
  exact ⟨tracked.sound, ⟨_, run.next stepped⟩, fun n unmade =>
    tracked.silent n (Nat.le_trans (Sessions.step_opened (Sessions.run_kept run) stepped) unmade),
    tracked.told⟩

theorem handle_commands {m : Nat} {handling : Handling} (sound : s.queue.Sound)
    (handled : s.handle m handling = some s') :
    s'.queue.Sound ∧
      ∀ n, s'.commands n = s.commands n ++ (if n = m then handling.command.toList else []) := by
  cases handling with
  | queue command =>
      refine ⟨?_, queueCommand_commands sound handled⟩
      obtain ⟨queue, pushed, rfl⟩ := queueCommand_cases handled
      exact (DoubleBuffer.step_handles _ _ _ sound pushed).sound
  | acknowledge =>
      obtain ⟨sessions, -, rfl⟩ := call_cases handled
      exact ⟨sound, fun n => by simp [Handling.command, Intake.commands]⟩
  | ignore =>
      obtain rfl := Option.some.inj handled
      exact ⟨sound, fun n => by simp [Handling.command]⟩

theorem handle_sessions {m : Nat} {handling : Handling} (handled : s.handle m handling = some s') :
    s'.inbox = s.inbox ∧ (s'.sessions = s.sessions ∨
      Sessions.step (.heartbeat m) s.sessions = some s'.sessions) := by
  cases handling with
  | queue command =>
      obtain ⟨queue, -, rfl⟩ := queueCommand_cases handled
      exact ⟨rfl, .inl rfl⟩
  | acknowledge =>
      obtain ⟨sessions, stepped, rfl⟩ := call_cases handled
      exact ⟨rfl, .inr stepped⟩
  | ignore =>
      obtain rfl := Option.some.inj handled
      exact ⟨rfl, .inl rfl⟩

theorem handle_tracked {m : Nat} {packet : Packet} {rest : List UInt8} (tracked : s.Tracked)
    (read : readFrame (s.inbox m).unread = .ok (packet, rest))
    (handled : (s.setUnread m rest).handle m (handlePacket (Sessions.indexOf m) packet) =
      some s') : s'.Tracked := by
  obtain ⟨sound, commands⟩ := handle_commands (s := s.setUnread m rest) tracked.sound handled
  obtain ⟨inbox, called⟩ := handle_sessions handled
  obtain ⟨past, run⟩ := tracked.sessions
  have stream (n : Nat) : (s'.inbox n).stream = (s.inbox n).stream := by
    rw [inbox, setUnread]
    by_cases self : n = m
    · subst self
      simp
    · simp [self]
  have opened : s.sessions.opened ≤ s'.sessions.opened := by
    rcases called with same | stepped
    · exact Nat.le_of_eq (congrArg Sessions.opened same.symm)
    · exact Sessions.step_opened (Sessions.run_kept run) stepped
  refine ⟨sound, ?_, fun n unmade => ?_, fun n => ?_⟩
  · rcases called with same | stepped
    · exact ⟨past, same ▸ run⟩
    · exact ⟨_, run.next stepped⟩
  · exact (stream n).trans (tracked.silent n (Nat.le_trans opened unmade))
  -- Its own session reads one packet, the others see nothing of it.
  · by_cases self : n = m
    · subst self
      have advances : Advances n s s' [] [packet] := by
        refine ⟨by rw [stream n, List.append_nil], ?_, ?_⟩
        · simpa [inbox, setUnread] using readFrame_ok _ rest packet read
        · rw [commands n, if_pos rfl, commandsIn]
          cases asks : (handlePacket (Sessions.indexOf n) packet).command <;>
            simp [asks, Intake.commands, setUnread]
      exact advances.told tracked
    · have advances : Advances n s s' [] [] := by
        refine .rest ?_ ?_
        · simp [inbox, setUnread, self]
        · rw [commands n, if_neg self, List.append_nil]
          rfl
      exact advances.told tracked

theorem read_tracked {m : Nat} (tracked : s.Tracked) (taken : s.read m = some s') :
    s'.Tracked := by
  unfold read at taken
  split at taken
  next allowed =>
    obtain ⟨past, run⟩ := tracked.sessions
    rw [(Sessions.run_numbered run).made m allowed.1] at taken
    split at taken
    next packet rest read => exact handle_tracked tracked read taken
    next => exact call_tracked tracked taken
    next => cases taken
  next => cases taken

theorem arrive_tracked {m : Nat} {bytes : List UInt8} (tracked : s.Tracked)
    (arrived : step (.arrive m bytes) s = some s') : s'.Tracked := by
  simp only [step] at arrived
  split at arrived
  next made =>
    obtain rfl := Option.some.inj arrived
    have others (n : Nat) (other : n ≠ m) : (s.arrive m bytes).inbox n = s.inbox n :=
      Function.update_of_ne other _ _
    refine ⟨tracked.sound, tracked.sessions, fun n unmade => ?_, fun n => ?_⟩
    · have other : n ≠ m := by
        rintro rfl
        exact Nat.not_lt.mpr unmade made
      rw [others n other]
      exact tracked.silent n unmade
    by_cases self : n = m
    · subst self
      have advances : Advances n s (s.arrive n bytes) bytes [] := by
        refine ⟨?_, ?_, (List.append_nil _).symm⟩
        · simp [arrive]
        · simp [arrive]
      exact advances.told tracked
    · have advances : Advances n s (s.arrive m bytes) [] [] := .rest (others n self) rfl
      exact advances.told tracked
  next => cases arrived

theorem main_tracked {event : DoubleBuffer.Event (Nat × QueuedCommand)} (tracked : s.Tracked)
    (worked : step (.main event) s = some s') : s'.Tracked := by
  simp only [step] at worked
  split at worked
  next unpushed =>
    obtain ⟨queue, stepped, rfl⟩ := Option.map_eq_some_iff.mp worked
    have handles := DoubleBuffer.step_handles _ _ _ tracked.sound stepped
    have keeps := handles.keeps
    rw [List.isEmpty_iff.mp unpushed, List.append_nil] at keeps
    refine ⟨handles.sound, tracked.sessions, tracked.silent, fun n => ?_⟩
    obtain ⟨packets, stream, commands⟩ := tracked.told n
    refine ⟨packets, stream, ?_⟩
    rw [← commands, Intake.commands, Intake.commands, keeps, List.append_assoc]
  next => cases worked

theorem step_tracked (event : Event) (tracked : s.Tracked) (stepped : step event s = some s') :
    s'.Tracked := by
  cases event with
  | call call =>
      simp only [step] at stepped
      split at stepped
      next => cases stepped
      next => exact call_tracked tracked stepped
  | arrive n bytes => exact arrive_tracked tracked stepped
  | read n => exact read_tracked tracked stepped
  | main event => exact main_tracked tracked stepped

variable {past : List (Transition Intake Event)}

theorem run_tracked (run : Run step initial past s) : s.Tracked := by
  have begins : initial.Tracked := ⟨nofun, ⟨[], .rest⟩, fun _ _ => rfl, fun _ => ⟨[], rfl, rfl⟩⟩
  exact run.preserved Tracked begins fun _ event _ => step_tracked event

def sent (s : Intake) (n : Nat) : List QueuedCommand :=
  commandsIn n (receive (s.inbox n).stream).delivered

def handledOf (s : Intake) (n : Nat) : List QueuedCommand :=
  s.handled.filterMap (ofSession n)

theorem receive_append (packets : List Packet) (rest : List UInt8) :
    (receive (packets.flatMap Packet.bytes ++ rest)).delivered =
      packets ++ (receive rest).delivered := by
  induction packets with
  | nil => rfl
  | cons packet packets ih =>
      rw [List.flatMap_cons, List.append_assoc, receive_ok _ _ _ (readFrame_bytes packet _), ih]
      rfl

theorem commandsIn_index {packets : List Packet} {command : QueuedCommand}
    (asked : command ∈ commandsIn n packets) : command.sessionIndex = Sessions.indexOf n := by
  obtain ⟨packet, -, asks⟩ := List.mem_filterMap.mp asked
  unfold handlePacket at asks
  dsimp only at asks
  split at asks
  all_goals cases asks
  all_goals rfl

/-- However the clients, the IO thread and the main thread take turns, the main thread comes to the
commands of each client once, in the order in which they were sent, and marked with the index of
its session; once the queue is empty and the client's bytes hold no more frame, it has come to
all of them. -/
theorem commands_get_through (run : Run step initial past s) (n : Nat) :
    s.handledOf n <+: s.sent n ∧
      (∀ command ∈ s.handledOf n, n < s.sessions.opened ∧
        command.sessionIndex = s.sessions.index n) ∧
      (s.queue.unread = [] → s.queue.back = [] → (readFrame (s.inbox n).unread).isOk = false →
        s.handledOf n = s.sent n) := by
  have tracked := run_tracked run
  obtain ⟨packets, stream, commands⟩ := tracked.told n
  have split : s.commands n =
      s.handledOf n ++ (s.queue.unread ++ s.queue.back).filterMap (ofSession n) :=
    List.filterMap_append
  have sent : s.sent n =
      commandsIn n packets ++ commandsIn n (receive (s.inbox n).unread).delivered := by
    rw [Intake.sent, stream, receive_append, commandsIn, List.filterMap_append]
    rfl
  have through : s.handledOf n <+: s.sent n := by
    rw [sent, ← commands, split, List.append_assoc]
    exact List.prefix_append _ _
  refine ⟨through, fun command member => ?_, fun walked empty waits => ?_⟩
  · have asked := through.subset member
    -- Nothing comes in for a session that has not been made.
    have made : n < s.sessions.opened := by
      refine Nat.lt_of_not_le fun unmade => ?_
      rw [Intake.sent, tracked.silent n unmade, receive_error [] .endOfStream rfl] at asked
      cases asked
    obtain ⟨past, sessions⟩ := tracked.sessions
    exact ⟨made, (commandsIn_index asked).trans ((Sessions.run_numbered sessions).made n made).symm⟩
  · have unread : (receive (s.inbox n).unread).delivered = [] := by
      cases frame : readFrame (s.inbox n).unread with
      | ok read => simp [frame, Except.isOk, Except.toBool] at waits
      | error stop => rw [receive_error _ _ frame]
    rw [sent, unread, ← commands, split, walked, empty]
    simp [commandsIn]

-- Two clients that log in, the first in two pieces, and a move and a heartbeat of the second.
def twoTalkers : List Event :=
  [.call .accept, .call .accept, .arrive 0 [0, 5, 0], .arrive 1 [0, 5, 0, 1, 8, 0, 6, 0, 2, 3, 4],
    .read 1, .arrive 0 [1, 7, 0, 3, 0], .main .clear, .main .swap, .read 0, .read 1,
    .arrive 1 [0, 4, 0, 255], .main .turn, .read 1, .main .leave, .main .clear, .main .swap,
    .main .turn, .main .turn, .main .leave]

theorem commands_get_through_twoTalkers : ∃ past s, Run step initial past s ∧
    past.reverse.map (·.event) = twoTalkers ∧
    s.handled = [(1, ⟨.login, 2, [8]⟩), (0, ⟨.login, 1, [7]⟩), (1, ⟨.move, 2, [3, 4]⟩)] ∧
    s.handledOf 0 = s.sent 0 ∧ s.handledOf 1 = s.sent 1 := by
  have passed : (followWhile step (fun _ _ => true) twoTalkers initial).any (fun s =>
      decide (s.handled = [(1, ⟨.login, 2, [8]⟩), (0, ⟨.login, 1, [7]⟩), (1, ⟨.move, 2, [3, 4]⟩)]) &&
        s.queue.unread.isEmpty && s.queue.back.isEmpty && !(readFrame (s.inbox 0).unread).isOk &&
          !(readFrame (s.inbox 1).unread).isOk) = true := by decide +kernel
  obtain ⟨past, s, run, -, events, idle⟩ := Run.exists_of_check _ _ _ passed
  simp only [Bool.and_eq_true, decide_eq_true_eq, List.isEmpty_iff, Bool.not_eq_true'] at idle
  obtain ⟨⟨⟨⟨handled, walked⟩, empty⟩, first⟩, second⟩ := idle
  exact ⟨past, s, run, events, handled, (commands_get_through run 0).2.2 walked empty first,
    (commands_get_through run 1).2.2 walked empty second⟩

end Intake

end MundusVivens.Network
