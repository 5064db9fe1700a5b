import MundusVivens.Network.Framing
import MundusVivens.Shared.Custody
import MundusVivens.Shared.Runs

set_option autoImplicit false

/-!
# The way out of a session

`Send` may run on any thread; it posts its buffer to the IO thread, which puts it into
a channel of 1024 buffers. `WriteLoop` takes them out one by one and writes them to
the socket. The last holder of a buffer frees its heap block.
-/

namespace MundusVivens.Network

open Runs Custody

deriving instance DecidableEq for Packet

def channelCapacity : Nat := 1024

-- A buffer on its way, with the number of its heap block.
structure Parcel where
  packet : Packet
  buffer : PacketBuffer
  block : Option Nat
  made : send packet.packetId packet.payload = some buffer
  owned : block.isSome = buffer.isHeap

theorem Parcel.frame_eq (parcel : Parcel) : parcel.buffer.frame = parcel.packet.bytes := by
  have encoded := parcel.packet.encode_eq
  rw [Packet.encode, parcel.made] at encoded
  exact Option.some.inj encoded

theorem Parcel.isHeap_eq (parcel : Parcel) :
    parcel.buffer.isHeap = decide (inlineCapacity < parcel.packet.bytes.length) := by
  rw [send_isHeap _ _ _ parcel.made, Packet.bytes_length, parcel.packet.totalLength_exact]

-- Where the coroutine of `WriteLoop` stands.
inductive Writer where
  | unstarted
  | looping
  -- In `async_receive`, with the channel empty.
  | waiting
  -- `async_receive` has a buffer for it.
  | received (parcel : Parcel)
  | writing (parcel : Parcel) (written : Nat)
  -- In the catch block, emptying the channel.
  | draining
  | ended

def Writer.held : Writer → List Parcel
  | .received parcel | .writing parcel _ => [parcel]
  | _ => []

def Writer.isWaiting : Writer → Bool
  | .waiting => true
  | _ => false

theorem Writer.isWaiting_iff {writer : Writer} : writer.isWaiting = true ↔ writer = .waiting := by
  cases writer <;> simp [isWaiting]

-- The coroutine is not there: not begun, or at its end.
def Writer.isGone : Writer → Bool
  | .unstarted | .ended => true
  | _ => false

/-- What a session sends, with a log of the packets: handed to `Send`, given to the channel by the
IO thread, taken by the channel. -/
structure WriteSide where
  posted : List Parcel
  isOpen : Bool
  channel : List Parcel
  writer : Writer
  socketOpen : Bool
  readerLeft : Bool
  destroyed : Bool
  wire : List UInt8
  blocks : Blocks
  sent : List Packet
  offered : List Packet
  accepted : List Packet

namespace WriteSide

def initial : WriteSide where
  posted := []
  isOpen := true
  channel := []
  writer := .unstarted
  socketOpen := true
  readerLeft := false
  destroyed := false
  wire := []
  blocks := .initial
  sent := []
  offered := []
  accepted := []

-- `delete[]` where the buffer is on the heap.
def release (s : WriteSide) (parcels : List Parcel) : WriteSide :=
  { s with blocks := s.blocks.free (parcels.filterMap Parcel.block) }

-- `ClientSession::Send` up to the post.
def post (s : WriteSide) (packet : Packet) : Option WriteSide :=
  match made : send packet.packetId packet.payload with
  | none => none
  | some buffer =>
      let block := if buffer.isHeap then some s.blocks.allocated else none
      some
        { s with
          posted := s.posted ++
            [⟨packet, buffer, block, made, by cases heap : buffer.isHeap <;> simp [block, heap]⟩]
          blocks := if buffer.isHeap then s.blocks.allocate else s.blocks
          sent := s.sent ++ [packet] }

-- `try_send`: to the coroutine that waits, or into the channel.
def trySend (s : WriteSide) (parcel : Parcel) : Option WriteSide :=
  let taken := { s with accepted := s.accepted ++ [parcel.packet] }
  if !s.isOpen then none
  else
    match s.writer with
    | .waiting => some { taken with writer := .received parcel }
    | _ =>
        if s.channel.length < channelCapacity then
          some { taken with channel := s.channel ++ [parcel] }
        else none

-- The posted function: a buffer the channel does not take is freed.
def deliver (s : WriteSide) (parcel : Parcel) (rest : List Parcel) : WriteSide :=
  let offered := { s with posted := rest, offered := s.offered ++ [parcel.packet] }
  match offered.trySend parcel with
  | some taken => taken
  | none => offered.release [parcel]

-- `async_receive` of the coroutine; it fails on a closed channel that is empty.
def receive (s : WriteSide) : WriteSide :=
  match s.channel with
  | parcel :: rest => { s with channel := rest, writer := .received parcel }
  | [] => { s with writer := if s.isOpen then .waiting else .draining }

-- `write_channel_.close()`: a coroutine that waits is woken by an error.
def close (s : WriteSide) : WriteSide :=
  { s with
    isOpen := false
    writer := match s.writer with | .waiting => .draining | writer => writer }

-- One round of the loop that empties the channel, or its end.
def drain (s : WriteSide) : WriteSide :=
  match s.channel with
  | parcel :: rest => { s with channel := rest }.release [parcel]
  | [] => { s with writer := .ended, socketOpen := false }

def destroy (s : WriteSide) : WriteSide :=
  { s with
    isOpen := false
    channel := []
    writer := .ended
    socketOpen := false
    destroyed := true }.release s.channel

inductive Step where
  | send (packet : Packet)
  | deliver
  | start
  | receive
  | resume
  | write (count : Nat)
  | finish
  | fail
  | drain
  | leave
  | destroy

def Step.isSend : Step → Bool
  | .send _ => true
  | _ => false

def Step.isDestroy : Step → Bool
  | .destroy => true
  | _ => false

def step (event : Step) (s : WriteSide) : Option WriteSide :=
  match event with
  -- Whoever calls `Send` has a pointer to the session, and so has what is posted.
  | .send packet => if s.destroyed then none else s.post packet
  | .deliver =>
      match s.posted with
      | parcel :: rest => some (s.deliver parcel rest)
      | [] => none
  | .start =>
      match s.writer with
      | .unstarted => if s.readerLeft then none else some { s with writer := .looping }
      | _ => none
  | .receive =>
      match s.writer with
      | .looping => some s.receive
      | _ => none
  | .resume =>
      match s.writer with
      | .received parcel => some { s with writer := .writing parcel 0 }
      | _ => none
  | .write count =>
      match s.writer with
      | .writing parcel written =>
          if s.socketOpen && decide (written + count ≤ parcel.buffer.frame.length) then
            some
              { s with
                writer := .writing parcel (written + count)
                wire := s.wire ++ (parcel.buffer.frame.drop written).take count }
          else none
      | _ => none
  | .finish =>
      match s.writer with
      | .writing parcel written =>
          if written = parcel.buffer.frame.length then
            some ({ s with writer := .looping }.release [parcel])
          else none
      | _ => none
  | .fail =>
      match s.writer with
      | .writing parcel _ => some ({ s with writer := .draining }.release [parcel])
      | _ => none
  | .drain =>
      match s.writer with
      | .draining => some s.drain
      | _ => none
  -- The end of `Run`.
  | .leave =>
      if s.readerLeft then none
      else some { s.close with socketOpen := false, readerLeft := true }
  -- Nobody has a pointer to the session any more.
  | .destroy =>
      if s.readerLeft && s.writer.isGone && s.posted.isEmpty && !s.destroyed then some s.destroy
      else none

inductive Moves (s : WriteSide) : Step → WriteSide → Prop
  | posts (parcel : Parcel) (alive : s.destroyed = false)
      (fresh : parcel.block = if parcel.buffer.isHeap then some s.blocks.allocated else none) :
      Moves s (.send parcel.packet)
        { s with
          posted := s.posted ++ [parcel]
          blocks := if parcel.buffer.isHeap then s.blocks.allocate else s.blocks
          sent := s.sent ++ [parcel.packet] }
  | hands (parcel : Parcel) (rest : List Parcel) (front : s.posted = parcel :: rest)
      (waits : s.writer = .waiting) :
      Moves s .deliver
        { s with
          posted := rest
          writer := .received parcel
          offered := s.offered ++ [parcel.packet]
          accepted := s.accepted ++ [parcel.packet] }
  | stores (parcel : Parcel) (rest : List Parcel) (front : s.posted = parcel :: rest)
      (busy : s.writer ≠ .waiting) :
      Moves s .deliver
        { s with
          posted := rest
          channel := s.channel ++ [parcel]
          offered := s.offered ++ [parcel.packet]
          accepted := s.accepted ++ [parcel.packet] }
  | drops (parcel : Parcel) (rest : List Parcel) (front : s.posted = parcel :: rest)
      (refused : s.isOpen = false ∨ channelCapacity ≤ s.channel.length) :
      Moves s .deliver
        ({ s with posted := rest, offered := s.offered ++ [parcel.packet] }.release [parcel])
  | starts (absent : s.writer = .unstarted) : Moves s .start { s with writer := .looping }
  | takes (parcel : Parcel) (rest : List Parcel) (loops : s.writer = .looping)
      (front : s.channel = parcel :: rest) :
      Moves s .receive { s with channel := rest, writer := .received parcel }
  | waits (loops : s.writer = .looping) (empty : s.channel = []) :
      Moves s .receive { s with writer := .waiting }
  | quits (loops : s.writer = .looping) (empty : s.channel = []) :
      Moves s .receive { s with writer := .draining }
  | resumes (parcel : Parcel) (holds : s.writer = .received parcel) :
      Moves s .resume { s with writer := .writing parcel 0 }
  | writes (parcel : Parcel) (written count : Nat) (holds : s.writer = .writing parcel written)
      (room : written + count ≤ parcel.buffer.frame.length) :
      Moves s (.write count)
        { s with
          writer := .writing parcel (written + count)
          wire := s.wire ++ (parcel.buffer.frame.drop written).take count }
  | finishes (parcel : Parcel)
      (holds : s.writer = .writing parcel parcel.buffer.frame.length) :
      Moves s .finish ({ s with writer := .looping }.release [parcel])
  | fails (parcel : Parcel) (written : Nat) (holds : s.writer = .writing parcel written) :
      Moves s .fail ({ s with writer := .draining }.release [parcel])
  | drains (parcel : Parcel) (rest : List Parcel) (quit : s.writer = .draining)
      (front : s.channel = parcel :: rest) :
      Moves s .drain ({ s with channel := rest }.release [parcel])
  | ends (quit : s.writer = .draining) (empty : s.channel = []) :
      Moves s .drain { s with writer := .ended, socketOpen := false }
  | leaves : Moves s .leave { s.close with socketOpen := false, readerLeft := true }
  | destroys (gone : s.writer.isGone = true) (empty : s.posted = []) : Moves s .destroy s.destroy

theorem trySend_taken {s taken : WriteSide} {parcel : Parcel}
    (sent : s.trySend parcel = some taken) :
    s.writer = .waiting ∧
        taken = { s with
          accepted := s.accepted ++ [parcel.packet], writer := .received parcel } ∨
      s.writer ≠ .waiting ∧
        taken = { s with
          accepted := s.accepted ++ [parcel.packet], channel := s.channel ++ [parcel] } := by
  unfold trySend at sent
  dsimp only at sent
  split at sent
  next => cases sent
  next =>
    split at sent
    next waits => exact .inl ⟨waits, (Option.some.inj sent).symm⟩
    next busy =>
      split at sent
      next => exact .inr ⟨busy, (Option.some.inj sent).symm⟩
      next => cases sent

theorem trySend_refused {s : WriteSide} {parcel : Parcel} (refused : s.trySend parcel = none) :
    s.isOpen = false ∨ channelCapacity ≤ s.channel.length := by
  unfold trySend at refused
  dsimp only at refused
  split at refused
  next shut => exact .inl (by simpa using shut)
  next =>
    split at refused
    next => cases refused
    next =>
      split at refused
      next => cases refused
      next full => exact .inr (Nat.le_of_not_lt full)

theorem deliver_moves {s : WriteSide} (parcel : Parcel) (rest : List Parcel)
    (front : s.posted = parcel :: rest) : Moves s .deliver (s.deliver parcel rest) := by
  unfold deliver
  dsimp only
  split
  next taken sent =>
    rcases trySend_taken sent with ⟨waits, rfl⟩ | ⟨busy, rfl⟩
    · exact .hands parcel rest front waits
    · exact .stores parcel rest front busy
  next refused =>
    have refused := trySend_refused refused
    exact .drops parcel rest front refused

theorem post_moves {s s' : WriteSide} {packet : Packet} (alive : s.destroyed = false)
    (posted : s.post packet = some s') : Moves s (.send packet) s' := by
  unfold post at posted
  split at posted
  next => cases posted
  next buffer made =>
    obtain rfl := Option.some.inj posted
    exact .posts ⟨packet, buffer, _, made, _⟩ alive rfl

theorem receive_moves {s : WriteSide} (loops : s.writer = .looping) :
    Moves s .receive s.receive := by
  unfold receive
  split
  next parcel rest front => exact .takes parcel rest loops front
  next empty =>
    split
    next => exact .waits loops empty
    next => exact .quits loops empty

theorem write_moves {s s' : WriteSide} {count : Nat} (stepped : step (.write count) s = some s') :
    Moves s (.write count) s' := by
  simp only [step] at stepped
  split at stepped
  next parcel written holds =>
    split at stepped
    next allowed =>
      obtain rfl := Option.some.inj stepped
      exact .writes parcel written count holds (by simp_all)
    next => cases stepped
  next => cases stepped

theorem finish_moves {s s' : WriteSide} (stepped : step .finish s = some s') :
    Moves s .finish s' := by
  simp only [step] at stepped
  split at stepped
  next parcel written holds =>
    split at stepped
    next whole =>
      obtain rfl := Option.some.inj stepped
      exact .finishes parcel (whole ▸ holds)
    next => cases stepped
  next => cases stepped

theorem drain_moves {s : WriteSide} (quit : s.writer = .draining) : Moves s .drain s.drain := by
  unfold drain
  split
  next parcel rest front => exact .drains parcel rest quit front
  next empty => exact .ends quit empty

theorem step_moves {event : Step} {s s' : WriteSide} (stepped : step event s = some s') :
    Moves s event s' := by
  cases event with
  | send packet =>
      obtain ⟨alive, posted⟩ : s.destroyed = false ∧ s.post packet = some s' := by
        simpa [step] using stepped
      exact post_moves alive posted
  | deliver =>
      simp only [step] at stepped
      split at stepped
      next parcel rest front =>
        obtain rfl := Option.some.inj stepped
        exact deliver_moves parcel rest front
      next => cases stepped
  | start =>
      simp only [step] at stepped
      split at stepped
      next absent =>
        split at stepped
        next => cases stepped
        next =>
          obtain rfl := Option.some.inj stepped
          exact .starts absent
      next => cases stepped
  | receive =>
      simp only [step] at stepped
      split at stepped
      next loops =>
        obtain rfl := Option.some.inj stepped
        exact receive_moves loops
      next => cases stepped
  | resume =>
      simp only [step] at stepped
      split at stepped
      next parcel holds =>
        obtain rfl := Option.some.inj stepped
        exact .resumes parcel holds
      next => cases stepped
  | write count => exact write_moves stepped
  | finish => exact finish_moves stepped
  | fail =>
      simp only [step] at stepped
      split at stepped
      next parcel written holds =>
        obtain rfl := Option.some.inj stepped
        exact .fails parcel written holds
      next => cases stepped
  | drain =>
      simp only [step] at stepped
      split at stepped
      next quit =>
        obtain rfl := Option.some.inj stepped
        exact drain_moves quit
      next => cases stepped
  | leave =>
      simp only [step] at stepped
      split at stepped
      next => cases stepped
      next =>
        obtain rfl := Option.some.inj stepped
        exact .leaves
  | destroy =>
      simp only [step] at stepped
      split at stepped
      next allowed =>
        obtain rfl := Option.some.inj stepped
        simp only [Bool.and_eq_true, List.isEmpty_iff] at allowed
        exact .destroys allowed.1.1.2 allowed.1.2
      next => cases stepped

theorem step_sent {packet : Packet} {s s' : WriteSide}
    (stepped : step (.send packet) s = some s') : s'.sent = s.sent ++ [packet] := by
  cases step_moves stepped with
  | posts parcel => rfl

theorem step_unsent {event : Step} {s s' : WriteSide} (quiet : event.isSend = false)
    (stepped : step event s = some s') : s'.sent = s.sent := by
  cases step_moves stepped with
  | posts parcel => cases quiet
  | _ => rfl

theorem step_alive {event : Step} {s s' : WriteSide} (lives : event.isDestroy = false)
    (stepped : step event s = some s') : s'.destroyed = s.destroyed := by
  cases step_moves stepped with
  | destroys => cases lives
  | _ => rfl

theorem step_send_isSome {s : WriteSide} (alive : s.destroyed = false) (packet : Packet) :
    (step (.send packet) s).isSome := by
  obtain ⟨buffer, made, -⟩ := send_frame packet.packetId packet.payload packet.fits
  simp only [step, alive, Bool.false_eq_true, if_false]
  unfold post
  split
  next failed => cases failed.symm.trans made
  next => rfl

def parcels (s : WriteSide) : List Parcel := s.posted ++ s.channel ++ s.writer.held

def held (s : WriteSide) : List Nat := s.parcels.filterMap Parcel.block

theorem accounted_pass {s s' : WriteSide} (accounted : s.blocks.Accounted s.held)
    (kept : s'.blocks = s.blocks) (passed : s.parcels.Perm s'.parcels) :
    s'.blocks.Accounted s'.held := by
  rw [kept]
  exact accounted.pass (passed.filterMap Parcel.block)

theorem accounted_release {s s' : WriteSide} {released : List Parcel}
    (accounted : s.blocks.Accounted s.held) (kept : s'.blocks = s.blocks)
    (passed : s.parcels.Perm (released ++ s'.parcels)) :
    (s'.release released).blocks.Accounted (s'.release released).held := by
  have split := passed.filterMap Parcel.block
  rw [List.filterMap_append] at split
  change (s'.blocks.free _).Accounted s'.held
  rw [kept]
  exact (accounted.pass split).free

theorem moves_accounted {event : Step} {s s' : WriteSide} (moves : Moves s event s')
    (accounted : s.blocks.Accounted s.held) : s'.blocks.Accounted s'.held := by
  cases moves with
  -- Only `Send` allocates, for a packet that does not fit the inline buffer.
  | posts parcel alive fresh =>
      have passed : (parcel :: s.parcels).Perm
          (s.posted ++ [parcel] ++ s.channel ++ s.writer.held) := by
        simpa [parcels] using List.perm_middle.symm
      have held := passed.filterMap Parcel.block
      by_cases heap : parcel.buffer.isHeap = true
      · rw [if_pos heap] at fresh
        rw [List.filterMap_cons_some fresh] at held
        rw [if_pos heap]
        exact accounted.allocate.pass ((List.perm_append_singleton _ _).trans held)
      · rw [if_neg heap] at fresh
        rw [List.filterMap_cons_none fresh] at held
        rw [if_neg heap]
        exact accounted.pass held
  -- From here on a buffer changes hands or is released.
  | hands parcel rest front waits =>
      refine accounted_pass accounted rfl ?_
      simpa [parcels, front, waits, Writer.held] using
        (List.perm_append_singleton parcel (rest ++ s.channel)).symm
  | stores parcel rest front busy =>
      refine accounted_pass accounted rfl ?_
      simpa [parcels, front] using
        (List.perm_append_singleton parcel (rest ++ s.channel)).symm.append_right s.writer.held
  | drops parcel rest front refused =>
      exact accounted_release accounted rfl (by simp [parcels, front])
  | starts absent => exact accounted_pass accounted rfl (by simp [parcels, absent, Writer.held])
  | takes parcel rest loops front =>
      refine accounted_pass accounted rfl ?_
      simpa [parcels, front, loops, Writer.held] using
        (List.perm_append_singleton parcel rest).symm.append_left s.posted
  | waits loops empty =>
      exact accounted_pass accounted rfl (by simp [parcels, loops, Writer.held])
  | quits loops empty =>
      exact accounted_pass accounted rfl (by simp [parcels, loops, Writer.held])
  | resumes parcel holds =>
      exact accounted_pass accounted rfl (by simp [parcels, holds, Writer.held])
  | writes parcel written count holds room =>
      exact accounted_pass accounted rfl (by simp [parcels, holds, Writer.held])
  | finishes parcel holds =>
      refine accounted_release accounted rfl ?_
      simpa [parcels, holds, Writer.held] using
        List.perm_append_singleton parcel (s.posted ++ s.channel)
  | fails parcel written holds =>
      refine accounted_release accounted rfl ?_
      simpa [parcels, holds, Writer.held] using
        List.perm_append_singleton parcel (s.posted ++ s.channel)
  | drains parcel rest quit front =>
      exact accounted_release accounted rfl (by simp [parcels, front, quit, Writer.held])
  | ends quit empty =>
      exact accounted_pass accounted rfl (by simp [parcels, quit, Writer.held])
  -- Closing the channel frees nothing: what is in it is left to the coroutine or the destructor.
  | leaves =>
      refine accounted_pass accounted rfl ?_
      have held : s.close.writer.held = s.writer.held := by
        unfold close
        dsimp only
        split
        next waits => simp [waits, Writer.held]
        next => rfl
      simpa [parcels, close] using held ▸ List.Perm.refl _
  -- The channel is all that can hold a buffer by now.
  | destroys gone empty =>
      have free : s.writer.held = [] := by
        cases standing : s.writer with
        | received parcel => simp [standing, Writer.isGone] at gone
        | writing parcel written => simp [standing, Writer.isGone] at gone
        | _ => rfl
      refine accounted_release accounted rfl ?_
      rw [parcels, free]
      simp [parcels, empty, Writer.held]

def Cleared (s : WriteSide) : Prop :=
  s.destroyed = true → s.posted = [] ∧ s.channel = [] ∧ s.writer = .ended

theorem moves_cleared {event : Step} {s s' : WriteSide} (moves : Moves s event s')
    (cleared : s.Cleared) : s'.Cleared := by
  intro gone
  -- All steps but two need something posted, something in the channel or a coroutine.
  cases moves with
  | posts parcel alive fresh => exact absurd (alive.symm.trans gone) (by decide)
  | hands parcel rest front waits => simp [(cleared gone).1] at front
  | stores parcel rest front busy => simp [(cleared gone).1] at front
  | drops parcel rest front refused => simp [(cleared gone).1] at front
  | starts absent => simp [(cleared gone).2.2] at absent
  | takes parcel rest loops front => simp [(cleared gone).2.2] at loops
  | waits loops empty => simp [(cleared gone).2.2] at loops
  | quits loops empty => simp [(cleared gone).2.2] at loops
  | resumes parcel holds => simp [(cleared gone).2.2] at holds
  | writes parcel written count holds room => simp [(cleared gone).2.2] at holds
  | finishes parcel holds => simp [(cleared gone).2.2] at holds
  | fails parcel written holds => simp [(cleared gone).2.2] at holds
  | drains parcel rest quit front => simp [(cleared gone).2.2] at quit
  | ends quit empty => simp [(cleared gone).2.2] at quit
  | leaves =>
      obtain ⟨posted, channel, ended⟩ := cleared gone
      exact ⟨posted, channel, by simp [close, ended]⟩
  | destroys standing empty => exact ⟨empty, rfl, rfl⟩

def blocksFor (packets : List Packet) : Nat :=
  packets.countP fun packet => decide (inlineCapacity < packet.bytes.length)

theorem moves_allocated {event : Step} {s s' : WriteSide} (moves : Moves s event s')
    (counted : s.blocks.allocated = blocksFor s.sent) :
    s'.blocks.allocated = blocksFor s'.sent := by
  cases moves with
  | posts parcel alive fresh =>
      have large := parcel.isHeap_eq
      simp only [blocksFor, List.countP_append, List.countP_singleton, ← large]
      by_cases heap : parcel.buffer.isHeap = true
      · rw [if_pos heap, if_pos heap]
        exact congrArg (· + 1) counted
      · rw [if_neg heap, if_neg heap]
        exact counted
  | _ => exact counted

variable {past : List (Transition WriteSide Step)} {s : WriteSide}

theorem run_accounted (run : Run step initial past s) : s.blocks.Accounted s.held := by
  refine run.preserved (fun s => s.blocks.Accounted s.held) Blocks.initial_accounted ?_
  exact fun _ _ _ accounted stepped => moves_accounted (step_moves stepped) accounted

/-- Whoever holds a buffer, and however the IO thread, the senders and the end of the session take
turns: a heap block is freed at most once and never while its bytes are still wanted, and a
session that is destroyed leaves none behind. -/
theorem blocks_freed_once (run : Run step initial past s) :
    s.blocks.freed.Nodup ∧
      (∀ parcel ∈ s.parcels, parcel.buffer.isHeap = true →
        ∃ block, parcel.block = some block ∧ block ∉ s.blocks.freed) ∧
      (s.parcels.filterMap Parcel.block).Nodup ∧
      s.blocks.allocated = blocksFor s.sent ∧
      (s.destroyed = true → s.blocks.freed.Perm (List.range (blocksFor s.sent))) := by
  have accounted := run_accounted run
  have counted : s.blocks.allocated = blocksFor s.sent := by
    refine run.preserved (fun s => s.blocks.allocated = blocksFor s.sent) rfl ?_
    exact fun _ _ _ counted stepped => moves_allocated (step_moves stepped) counted
  have cleared : s.Cleared := by
    refine run.preserved Cleared (fun gone => by cases gone) ?_
    exact fun _ _ _ cleared stepped => moves_cleared (step_moves stepped) cleared
  refine ⟨accounted.freed_once, ?_, accounted.held_once, counted, ?_⟩
  · intro parcel member heap
    obtain ⟨block, taken⟩ := Option.isSome_iff_exists.mp (parcel.owned.trans heap)
    have held : block ∈ s.held := List.mem_filterMap.mpr ⟨parcel, member, taken⟩
    exact ⟨block, taken, accounted.live held⟩
  · intro gone
    obtain ⟨posted, channel, ended⟩ := cleared gone
    have free : s.held = [] := by simp [held, parcels, posted, channel, ended, Writer.held]
    rw [free] at accounted
    exact counted ▸ accounted.settled

def loginAck : Packet := ⟨0x1001, [8, 1, 16], by decide⟩

def snapshot : Packet := ⟨0x1002, List.replicate 303 0, by rw [List.length_replicate]; decide⟩

-- A write fails with a snapshot in the channel, and another one comes when the coroutine is gone.
def brokenOff : List Step :=
  [.start, .send snapshot, .send loginAck, .send snapshot, .deliver, .receive, .resume, .deliver,
    .deliver, .write 10, .fail, .drain, .drain, .drain, .send snapshot, .deliver, .leave, .destroy]

theorem blocks_freed_once_brokenOff : ∃ past s, Run step initial past s ∧
    past.reverse.map (·.event) = brokenOff ∧ s.blocks.freed.Perm (List.range 3) := by
  have passed : (followWhile step (fun _ _ => true) brokenOff initial).any
      (fun s => s.destroyed && decide (blocksFor s.sent = 3)) = true := by decide +kernel
  obtain ⟨past, s, run, -, events, last⟩ := Run.exists_of_check _ _ _ passed
  simp only [Bool.and_eq_true, decide_eq_true_eq] at last
  obtain ⟨-, -, -, -, settled⟩ := blocks_freed_once run
  exact ⟨past, s, run, events, last.2 ▸ settled last.1⟩

end WriteSide

end MundusVivens.Network
