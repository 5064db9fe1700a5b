import Mathlib
import MundusVivens.Network.WriteLoop

set_option autoImplicit false

/-!
# What the client gets

The bytes on the socket against the packets given to `Send`, and against what the receive
loop of the peer makes of them.
-/

namespace MundusVivens.Network

open Runs

-- Before its catch block the coroutine writes whatever it takes.
def Writer.isRunning : Writer → Bool
  | .draining | .ended => false
  | _ => true

def Writer.owed : Writer → List UInt8
  | .received parcel => parcel.packet.bytes
  | .writing parcel written => parcel.packet.bytes.drop written
  | _ => []

-- What the coroutine has to do for its buffer, and then to find the channel empty.
def Writer.load : Writer → Nat
  | .unstarted => 3
  | .looping => 2
  | .waiting => 0
  | .received parcel => parcel.packet.bytes.length + 4
  | .writing parcel written => parcel.packet.bytes.length - written + 3
  | .draining => 1
  | .ended => 0

@[simp] theorem Writer.owed_received (parcel : Parcel) :
    (Writer.received parcel).owed = parcel.packet.bytes := rfl

@[simp] theorem Writer.owed_writing (parcel : Parcel) (written : Nat) :
    (Writer.writing parcel written).owed = parcel.packet.bytes.drop written := rfl

@[simp] theorem Writer.owed_looping : Writer.looping.owed = [] := rfl

@[simp] theorem Writer.owed_waiting : Writer.waiting.owed = [] := rfl

namespace WriteSide

def owed (s : WriteSide) : List UInt8 :=
  s.writer.owed ++ s.channel.flatMap fun parcel => parcel.packet.bytes

/-- The packets keep their order from `Send` to the wire; only where the coroutine gave up may
the last of them be cut short. -/
structure Orderly (s : WriteSide) : Prop where
  queued : s.offered ++ s.posted.map Parcel.packet = s.sent
  kept : s.accepted.Sublist s.offered
  cut : s.wire <+: s.accepted.flatMap Packet.bytes
  whole : s.writer.isRunning = true → s.wire ++ s.owed = s.accepted.flatMap Packet.bytes
  idle : s.writer = .waiting → s.channel = []

section

variable {s : WriteSide}

theorem initial_orderly : initial.Orderly := by
  constructor <;> simp [initial, owed, Writer.owed]

theorem orderly_running (queued : s.offered ++ s.posted.map Parcel.packet = s.sent)
    (kept : s.accepted.Sublist s.offered)
    (whole : s.wire ++ s.owed = s.accepted.flatMap Packet.bytes)
    (idle : s.writer = .waiting → s.channel = []) : s.Orderly :=
  ⟨queued, kept, ⟨_, whole⟩, fun _ => whole, idle⟩

theorem orderly_stopped (queued : s.offered ++ s.posted.map Parcel.packet = s.sent)
    (kept : s.accepted.Sublist s.offered) (cut : s.wire <+: s.accepted.flatMap Packet.bytes)
    (stopped : s.writer.isRunning = false) : s.Orderly := by
  refine ⟨queued, kept, cut, fun running => ?_, fun waits => ?_⟩
  · simp [stopped] at running
  · simp [waits, Writer.isRunning] at stopped

theorem Orderly.offer (orderly : s.Orderly) (parcel : Parcel) (rest : List Parcel)
    (front : s.posted = parcel :: rest) :
    (s.offered ++ [parcel.packet]) ++ rest.map Parcel.packet = s.sent := by
  rw [← orderly.queued, front]
  simp

theorem Orderly.caught_up (orderly : s.Orderly) (waits : s.writer = .waiting) :
    s.wire = s.accepted.flatMap Packet.bytes := by
  have whole := orderly.whole (by rw [waits]; rfl)
  simpa [owed, waits, orderly.idle waits] using whole

-- A coroutine that runs owes the packet last; one that is gone will not write it.
theorem Orderly.store (orderly : s.Orderly) (parcel : Parcel) (rest : List Parcel)
    (front : s.posted = parcel :: rest) (busy : s.writer ≠ .waiting) :
    Orderly { s with
      posted := rest
      channel := s.channel ++ [parcel]
      offered := s.offered ++ [parcel.packet]
      accepted := s.accepted ++ [parcel.packet] } := by
  have offer := orderly.offer parcel rest front
  cases running : s.writer.isRunning with
  | false =>
      refine orderly_stopped offer (orderly.kept.append_right _) ?_ running
      rw [List.flatMap_append]
      exact orderly.cut.trans (List.prefix_append _ _)
  | true =>
      refine orderly_running offer (orderly.kept.append_right _) ?_
        (fun waits => absurd waits busy)
      rw [List.flatMap_append, ← orderly.whole running]
      simp [owed]

-- Closing the channel ends a coroutine that waits; one that writes goes on.
theorem Orderly.leave (orderly : s.Orderly) :
    Orderly { s.close with socketOpen := false, readerLeft := true } := by
  by_cases waits : s.writer = .waiting
  · refine orderly_stopped orderly.queued orderly.kept orderly.cut ?_
    simp [close, waits, Writer.isRunning]
  · have same : s.close.writer = s.writer := by
      unfold close
      dsimp only
      split
      next waiting => exact absurd waiting waits
      next => rfl
    refine ⟨orderly.queued, orderly.kept, orderly.cut, fun running => ?_, fun waiting => ?_⟩
    · have whole := orderly.whole (same ▸ running)
      rwa [owed, ← same] at whole
    · exact absurd (same ▸ waiting) waits

theorem moves_orderly {event : Step} {s' : WriteSide} (moves : Moves s event s')
    (orderly : s.Orderly) : s'.Orderly := by
  cases moves with
  | posts parcel alive fresh =>
      refine ⟨?_, orderly.kept, orderly.cut, orderly.whole, orderly.idle⟩
      rw [← orderly.queued]
      simp
  -- The channel was empty, so what is handed over comes next on the wire.
  | hands parcel rest front waits =>
      refine orderly_running (orderly.offer parcel rest front) (orderly.kept.append_right _) ?_
        (by simp)
      rw [List.flatMap_append, ← orderly.caught_up waits]
      simp [owed, orderly.idle waits]
  | stores parcel rest front busy => exact orderly.store parcel rest front busy
  -- A packet that is refused has been offered, not accepted.
  | drops parcel rest front refused =>
      exact ⟨orderly.offer parcel rest front,
        orderly.kept.trans (List.sublist_append_left _ _), orderly.cut, orderly.whole, orderly.idle⟩
  | starts absent =>
      have whole := orderly.whole (by rw [absent]; rfl)
      rw [owed, absent] at whole
      exact orderly_running orderly.queued orderly.kept whole (by simp)
  | takes parcel rest loops front =>
      have whole := orderly.whole (by rw [loops]; rfl)
      rw [owed, loops, front] at whole
      exact orderly_running orderly.queued orderly.kept whole (by simp)
  | waits loops empty =>
      have whole := orderly.whole (by rw [loops]; rfl)
      rw [owed, loops] at whole
      exact orderly_running orderly.queued orderly.kept whole (fun _ => empty)
  | quits loops empty => exact orderly_stopped orderly.queued orderly.kept orderly.cut rfl
  | resumes parcel holds =>
      have whole := orderly.whole (by rw [holds]; rfl)
      rw [owed, holds] at whole
      exact orderly_running orderly.queued orderly.kept whole (by simp)
  -- Some bytes move from what is owed to the wire.
  | writes parcel written count holds room =>
      have whole := orderly.whole (by rw [holds]; rfl)
      have rest : (parcel.packet.bytes.drop written).take count ++
          parcel.packet.bytes.drop (written + count) = parcel.packet.bytes.drop written := by
        rw [← List.drop_drop]
        exact List.take_append_drop _ _
      refine orderly_running orderly.queued orderly.kept ?_ (by simp)
      rw [owed, holds, Writer.owed_writing, ← rest] at whole
      simpa only [owed, parcel.frame_eq, Writer.owed_writing, List.append_assoc] using whole
  | finishes parcel holds =>
      have whole := orderly.whole (by rw [holds]; rfl)
      refine orderly_running orderly.queued orderly.kept ?_ (by simp [release])
      change s.wire ++ _ = s.accepted.flatMap Packet.bytes
      rw [← whole]
      simp [owed, holds, parcel.frame_eq, release]
  -- What is on the wire stays a prefix from here on.
  | fails parcel written holds =>
      exact orderly_stopped orderly.queued orderly.kept orderly.cut rfl
  | drains parcel rest quit front =>
      have stopped : s.writer.isRunning = false := by rw [quit]; rfl
      exact orderly_stopped orderly.queued orderly.kept orderly.cut stopped
  | ends quit empty => exact orderly_stopped orderly.queued orderly.kept orderly.cut rfl
  | leaves => exact orderly.leave
  | destroys gone empty => exact orderly_stopped orderly.queued orderly.kept orderly.cut rfl

-- Nothing was refused, and all that is under way fits in the channel.
structure Spared (s : WriteSide) : Prop where
  room : s.posted.length + s.channel.length ≤ channelCapacity
  complete : s.isOpen = true → s.accepted = s.offered

/-- `Send` is called while fewer packets are under way than the channel holds. -/
def WithinCapacity (s : WriteSide) (event : Step) : Prop :=
  (∃ packet, event = .send packet) → s.posted.length + s.channel.length < channelCapacity

theorem moves_spared {event : Step} {s' : WriteSide} (moves : Moves s event s')
    (spared : s.Spared) (within : s.WithinCapacity event) : s'.Spared := by
  have room := spared.room
  cases moves with
  | posts parcel alive fresh =>
      have sparse := within ⟨_, rfl⟩
      exact ⟨by simp; omega, spared.complete⟩
  | hands parcel rest front waits =>
      rw [front, List.length_cons] at room
      exact ⟨by dsimp only; omega, fun live => congrArg (· ++ [parcel.packet]) (spared.complete live)⟩
  | stores parcel rest front busy =>
      rw [front, List.length_cons] at room
      exact ⟨by simp; omega, fun live => congrArg (· ++ [parcel.packet]) (spared.complete live)⟩
  | drops parcel rest front refused =>
      rw [front, List.length_cons] at room
      refine ⟨by simp only [release]; omega, fun live => ?_⟩
      rcases refused with shut | full
      · simp [release, shut] at live
      · omega
  | takes parcel rest loops front =>
      rw [front, List.length_cons] at room
      exact ⟨by dsimp only; omega, spared.complete⟩
  | drains parcel rest quit front =>
      rw [front, List.length_cons] at room
      exact ⟨by simp only [release]; omega, spared.complete⟩
  | leaves => exact ⟨room, fun live => by simp [close] at live⟩
  | destroys gone empty =>
      refine ⟨?_, fun live => by simp [destroy, release] at live⟩
      simp only [destroy, release, empty, List.length_nil]
      omega
  | _ => exact ⟨room, spared.complete⟩

end

variable {past : List (Transition WriteSide Step)} {s : WriteSide}

theorem run_orderly (run : Run step initial past s) : s.Orderly := by
  refine run.preserved Orderly initial_orderly ?_
  exact fun _ _ _ orderly stepped => moves_orderly (step_moves stepped) orderly

-- The channel takes another buffer.
def hasRoom (s : WriteSide) : Bool := s.isOpen && decide (s.channel.length < channelCapacity)

/-- The packet that a step puts before the channel, and whether there is room for it. -/
def arrival (s : WriteSide) : Step → List (Packet × Bool)
  | .deliver => (s.posted.take 1).map fun parcel => (parcel.packet, s.hasRoom)
  | _ => []

def admitted (arrivals : List (Packet × Bool)) : List Packet :=
  (arrivals.filter Prod.snd).map Prod.fst

theorem admitted_append (arrivals later : List (Packet × Bool)) :
    admitted (arrivals ++ later) = admitted arrivals ++ admitted later := by
  simp [admitted]

theorem deliver_logs (orderly : s.Orderly) (parcel : Parcel) (rest : List Parcel) :
    (s.deliver parcel rest).offered = s.offered ++ [parcel.packet] ∧
      (s.deliver parcel rest).accepted = s.accepted ++ admitted [(parcel.packet, s.hasRoom)] := by
  cases live : s.isOpen with
  | false => simp [deliver, trySend, admitted, hasRoom, live, release]
  | true =>
      by_cases waits : s.writer = .waiting
      · have empty := orderly.idle waits
        simp [deliver, trySend, admitted, hasRoom, live, waits, empty, channelCapacity]
      · unfold deliver trySend
        dsimp only
        by_cases room : s.channel.length < channelCapacity
        · simp [admitted, hasRoom, live, room]
        · simp [admitted, hasRoom, live, room, release]

theorem step_logs {event : Step} {s' : WriteSide} (orderly : s.Orderly)
    (stepped : step event s = some s') :
    s'.offered = s.offered ++ (s.arrival event).map Prod.fst ∧
      s'.accepted = s.accepted ++ admitted (s.arrival event) := by
  cases event with
  | deliver =>
      simp only [step] at stepped
      split at stepped
      next parcel rest front =>
        obtain rfl := Option.some.inj stepped
        simpa [arrival, front] using deliver_logs orderly parcel rest
      next => cases stepped
  | _ =>
      cases step_moves stepped <;>
        simp [arrival, admitted, release, close, destroy]

-- Whatever the threads do, the client reads packets that were sent, undamaged and in the order of
-- their sending; what the channel refused is missing, and the end of what it took may be. Once the
-- coroutine waits for more, the client has got all that the channel took.
theorem client_reads_in_order (run : Run step initial past s) :
    (Network.receive s.wire).delivered <+: s.accepted ∧
      (Network.receive s.wire).stop = .endOfStream ∧
      s.accepted.Sublist s.sent ∧
      (s.writer = .waiting → Network.receive s.wire = ⟨s.accepted, [], .endOfStream⟩) := by
  have orderly := run_orderly run
  obtain ⟨delivered, stopped⟩ := receive_cut s.accepted s.wire orderly.cut
  refine ⟨delivered, stopped, ?_, ?_⟩
  · rw [← orderly.queued]
    exact orderly.kept.trans (List.sublist_append_left _ _)
  · intro waits
    rw [orderly.caught_up waits, receive_bytes]

/-- An open session whose senders never get ahead of the channel loses nothing: what the client
has got and what is under way make up the packets sent, and an idle session has delivered them
all. -/
theorem open_session_delivers_all (run : Run step initial past s)
    (within : Guarded WithinCapacity past) (live : s.isOpen = true) :
    (s.writer.isRunning = true →
        s.wire ++ s.owed ++ s.posted.flatMap (fun parcel => parcel.packet.bytes) =
          s.sent.flatMap Packet.bytes) ∧
      (s.writer = .waiting → s.posted = [] →
        Network.receive s.wire = ⟨s.sent, [], .endOfStream⟩) := by
  have orderly := run_orderly run
  have spared : s.Spared := by
    have begins : Spared initial := ⟨by simp [initial], fun _ => rfl⟩
    refine run.invariant begins ?_ within
    exact fun _ _ _ spared within stepped => moves_spared (step_moves stepped) spared within
  have complete : s.accepted ++ s.posted.map Parcel.packet = s.sent := by
    rw [spared.complete live, orderly.queued]
  refine ⟨fun running => ?_, fun waits posted => ?_⟩
  · rw [orderly.whole running, ← complete, List.flatMap_append, List.flatMap_map]
  · rw [posted, List.map_nil, List.append_nil] at complete
    rw [orderly.caught_up waits, receive_bytes, complete]

def twoSent : List Step :=
  [.start, .receive, .send loginAck, .deliver, .resume, .send snapshot, .write 7, .deliver,
    .finish, .receive, .resume, .write 307, .finish, .receive]

theorem open_session_delivers_all_twoSent : ∃ past s, Run step initial past s ∧
    past.reverse.map (·.event) = twoSent ∧
    Network.receive s.wire = ⟨[loginAck, snapshot], [], .endOfStream⟩ := by
  have passed : (followWhile step (fun s _ => decide (s.posted.length + s.channel.length < 1024))
      twoSent initial).any (fun s => s.isOpen && s.writer.isWaiting && s.posted.isEmpty &&
        decide (s.sent = [loginAck, snapshot])) = true := by decide +kernel
  obtain ⟨past, s, run, within, events, idle⟩ := Run.exists_of_check _ _ _ passed
  simp only [Bool.and_eq_true, decide_eq_true_eq, List.isEmpty_iff] at idle
  obtain ⟨⟨⟨live, waits⟩, posted⟩, sent⟩ := idle
  have within : Guarded WithinCapacity past :=
    fun t member _ => of_decide_eq_true (within t member)
  have delivered := (open_session_delivers_all run within live).2 (Writer.isWaiting_iff.mp waits)
    posted
  exact ⟨past, s, run, events, sent ▸ delivered⟩

-- What the IO thread does for packets that are on their way; a write gets some bytes out.
def Step.isWork : Step → Bool
  | .deliver | .start | .receive | .resume | .finish | .fail | .drain => true
  | .write count => decide (0 < count)
  | _ => false

-- A bound on the steps until what is on its way is written or dropped.
def load (s : WriteSide) : Nat :=
  -- Besides its writes a packet takes four steps from the channel on, and one to get there.
  (s.posted.map fun parcel => parcel.packet.bytes.length + 5).sum +
    (s.channel.map fun parcel => parcel.packet.bytes.length + 4).sum + s.writer.load

theorem moves_load {event : Step} {s' : WriteSide} (moves : Moves s event s')
    (work : event.isWork = true) : s'.load < s.load := by
  cases moves with
  | hands parcel rest front waits =>
      simp [load, front, waits, Writer.load]
      omega
  | stores parcel rest front busy =>
      simp [load, front]
      omega
  | drops parcel rest front refused => simp [load, release, front]
  | starts absent => simp [load, absent, Writer.load]
  | takes parcel rest loops front =>
      simp [load, front, loops, Writer.load]
      omega
  | waits loops empty => simp [load, loops, Writer.load]
  | quits loops empty => simp [load, loops, Writer.load]
  | resumes parcel holds => simp [load, holds, Writer.load]
  | writes parcel written count holds room =>
      have some_out : 0 < count := of_decide_eq_true work
      rw [parcel.frame_eq] at room
      simp only [load, holds, Writer.load]
      omega
  | finishes parcel holds =>
      simp only [load, holds, release, Writer.load]
      omega
  | fails parcel written holds =>
      simp only [load, holds, release, Writer.load]
      omega
  | drains parcel rest quit front => simp [load, release, front]
  | ends quit empty => simp [load, quit, Writer.load]
  | _ => cases work

theorem idle_of_stuck (stuck : ∀ event : Step, event.isWork = true → step event s = none) :
    s.posted = [] ∧ (s.writer = .waiting ∨ s.writer = .ended ∨
      s.writer = .unstarted ∧ s.readerLeft = true) := by
  constructor
  · cases posted : s.posted with
    | nil => rfl
    | cons parcel rest =>
        have able := stuck .deliver rfl
        simp [step, posted] at able
  · cases writer : s.writer with
    | unstarted =>
        have able := stuck .start rfl
        simp only [step, writer] at able
        split at able
        next left => exact .inr (.inr ⟨rfl, left⟩)
        next => cases able
    | looping =>
        have able := stuck .receive rfl
        simp [step, writer] at able
    | waiting => exact .inl rfl
    | received parcel =>
        have able := stuck .resume rfl
        simp [step, writer] at able
    | writing parcel written =>
        have able := stuck .fail rfl
        simp [step, writer] at able
    | draining =>
        have able := stuck .drain rfl
        simp [step, writer] at able
    | ended => exact .inr (.inl rfl)

theorem stuck_of_idle (posted : s.posted = []) (waits : s.writer = .waiting) (event : Step)
    (work : event.isWork = true) : step event s = none := by
  cases event with
  | send | leave | destroy => cases work
  | deliver => simp [step, posted]
  | _ => simp [step, waits]

/-- The IO thread never gets stuck on the way out, nor is it busy forever: from any state of a run its
steps come to an end within the load, whatever their order and whether or not writes fail. Then
nothing is posted, and the coroutine is gone or waits on an empty channel while the client has read
all that the channel took. -/
theorem work_runs_out {earlier : List (Transition WriteSide Step)} {last : WriteSide}
    (reached : Run step initial earlier s) (run : Run step s past last)
    (work : ∀ t ∈ past, t.event.isWork = true) :
    past.length + last.load ≤ s.load ∧
      ((∀ event : Step, event.isWork = true → step event last = none) →
        last.posted = [] ∧
          (last.writer = .waiting ∧ last.channel = [] ∧
              Network.receive last.wire = ⟨last.accepted, [], .endOfStream⟩ ∨
            last.writer = .ended ∨ last.writer = .unstarted ∧ last.readerLeft = true)) := by
  constructor
  · clear reached
    induction run with
    | rest => simp
    | @next past m last event run stepped ih =>
        have spent := ih fun t member => work t (List.mem_cons_of_mem _ member)
        have less := moves_load (step_moves stepped) (work _ List.mem_cons_self)
        rw [List.length_cons]
        omega
  · intro stuck
    have whole := reached.append run
    obtain ⟨posted, waits | gone⟩ := idle_of_stuck stuck
    · obtain ⟨-, -, -, caught⟩ := client_reads_in_order whole
      exact ⟨posted, .inl ⟨waits, (run_orderly whole).idle waits, caught waits⟩⟩
    · exact ⟨posted, .inr gone⟩

def backlogWork : List Step :=
  [.deliver, .receive, .resume, .write 7, .finish, .deliver, .receive, .resume, .write 307, .finish,
    .receive]

theorem work_runs_out_backlog : ∃ earlier s past last, Run step initial earlier s ∧
    Run step s past last ∧ s.posted.map Parcel.packet = [loginAck, snapshot] ∧
    past.reverse.map (·.event) = backlogWork ∧ past.length + last.load ≤ s.load ∧
    last.channel = [] ∧ Network.receive last.wire = ⟨[loginAck, snapshot], [], .endOfStream⟩ := by
  have passed : (followWhile step (fun _ _ => true) [.start, .send loginAck, .send snapshot]
      initial).any (fun s => decide (s.posted.map Parcel.packet = [loginAck, snapshot]) &&
        (followWhile step (fun _ event => event.isWork) backlogWork s).any fun last =>
          last.posted.isEmpty && last.writer.isWaiting &&
            decide (last.accepted = [loginAck, snapshot])) = true := by
    decide +kernel
  obtain ⟨earlier, s, reached, -, -, begins⟩ := Run.exists_of_check _ _ _ passed
  obtain ⟨backlog, rest⟩ := Bool.and_eq_true_iff.mp begins
  obtain ⟨past, last, run, work, events, done⟩ := Run.exists_of_check _ _ _ rest
  simp only [Bool.and_eq_true, decide_eq_true_eq, List.isEmpty_iff, Writer.isWaiting_iff] at done
  obtain ⟨⟨posted, waits⟩, accepted⟩ := done
  obtain ⟨bound, idle⟩ := work_runs_out reached run work
  obtain ⟨-, ⟨-, channel, caught⟩ | ended | ⟨absent, -⟩⟩ := idle (stuck_of_idle posted waits)
  · exact ⟨earlier, s, past, last, reached, run, of_decide_eq_true backlog, events, bound, channel,
      accepted ▸ caught⟩
  · simp [waits] at ended
  · simp [waits] at absent

end WriteSide

end MundusVivens.Network
