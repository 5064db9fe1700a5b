import MundusVivens.Shared.DoubleBuffer

set_option autoImplicit false

/-!
# Handover to the main loop

Two queues bring work from the network threads to the main loop. What happens
under a lock is one step; a task that a task pushes is a push between two turns
of the loop.
-/

namespace MundusVivens.Network

open Runs Relays

variable {Task Command : Type}

-- `write_buffer_` and `read_buffer_`; an empty `std::function` is passed by.
abbrev GrpcResultQueue (Task : Type) := DoubleBuffer (Option Task)

namespace GrpcResultQueue

def initial : GrpcResultQueue Task := ⟨[], [], .cleared⟩

-- `Drain` with this many tasks in the buffer it has swapped in.
def drain (tasks : Nat) : List (DoubleBuffer.Event (Option Task)) :=
  .swap :: (List.replicate tasks .turn ++ [.leave, .clear])

theorem drain_follows (tasks : List (Option Task)) :
    follow DoubleBuffer.step (drain tasks.length) ⟨tasks, [], .cleared⟩ = some initial := by
  have walked := DoubleBuffer.follow_turns tasks.length 0 [] tasks (by simp)
  rw [drain, follow_cons, DoubleBuffer.step, if_pos rfl, Option.bind_some, follow_append, walked]
  simp [follow, DoubleBuffer.step, initial]

end GrpcResultQueue

-- `pending_commands_` and the static `local_commands` of `SystemPlayerCommands`.
abbrev CommandQueue (Command : Type) := DoubleBuffer Command

namespace CommandQueue

def initial : CommandQueue Command := ⟨[], [], .walked⟩

-- `SystemPlayerCommands` with this many commands. `DrainPlayerCommands` is the first two steps: the
-- commands of the last call are kept until then.
def systemPlayerCommands (commands : Nat) : List (DoubleBuffer.Event Command) :=
  .clear :: .swap :: (List.replicate commands .turn ++ [.leave])

theorem systemPlayerCommands_follows (commands kept : List Command) :
    follow DoubleBuffer.step (systemPlayerCommands commands.length) ⟨commands, kept, .walked⟩ =
      some ⟨[], commands, .walked⟩ := by
  have walked := DoubleBuffer.follow_turns commands.length 0 [] commands (by simp)
  rw [systemPlayerCommands, follow_cons, DoubleBuffer.step, if_pos rfl, Option.bind_some,
    follow_cons, DoubleBuffer.step, if_pos rfl, Option.bind_some, follow_append, walked]
  simp [follow, DoubleBuffer.step]

end CommandQueue

/-- Tasks and commands reach the main loop once each, in the order of the pushes. -/
theorem queues_hand_out (Task Command : Type) :
    HandsOut (DoubleBuffer.relay fun task : Option Task => task) GrpcResultQueue.initial
        DoubleBuffer.isLeave ∧
      HandsOut (DoubleBuffer.relay fun command : Command => some command) CommandQueue.initial
        DoubleBuffer.isLeave :=
  ⟨DoubleBuffer.handsOut _ _ rfl rfl fun _ => rfl, DoubleBuffer.handsOut _ _ rfl rfl nofun⟩

end MundusVivens.Network
