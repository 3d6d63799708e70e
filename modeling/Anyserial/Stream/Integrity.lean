import Anyserial.Stream.Machine
import Anyserial.Stream.Recording
import Anyserial.Kit.Turns

/-! What it means for the tasks on a port to leave the byte streams intact. -/
set_option autoImplicit false

namespace Anyserial

open Kit

/-- The guard that a parked coroutine holds. -/
def Frame.direction : Frame → Option Direction
  | .receiving _ _ | .receivingInto _ _ | .awaitingInput _ _ | .receivingAvailable _ _ => some .receiving
  | .sending _ _ _ | .draining | .drainingExact | .breaking => some .sending
  | .configuring _ _ => none

def Progress.direction : Progress → Option Direction
  | .parked frame => frame.direction
  | .returned _ | .raised _ => none

/-- The received bytes that a value carries. -/
def Value.bytes : Value → Bytes
  | .data bytes | .filled bytes => bytes
  | .none | .number _ | .lines _ => []

def Progress.bytes : Progress → Bytes
  | .returned value => value.bytes
  | .parked _ | .raised _ => []

/-- The values that a call may return: a chunk is not empty and no longer than requested. -/
def Call.Yields : Call → Value → Prop
  | .receive maxBytes, value =>
      ∃ bytes, value = .data bytes ∧ bytes ≠ [] ∧ (bytes.length : Int) ≤ maxBytes
  | .receiveInto buffer, value => ∃ bytes, value = .filled bytes ∧ bytes ≠ [] ∧ bytes.length ≤ buffer.nbytes
  | .receiveAvailable limit, value =>
      ∃ bytes, value = .data bytes ∧
        ((∀ bound, limit = some bound → 1 ≤ bound) → bytes ≠ [] ∧ ∀ bound, limit = some bound → (bytes.length : Int) ≤ bound)
  | _, value => value.bytes = []

/-- The bytes that a call is to write. -/
def Call.payload : Call → Bytes
  | .send data => data
  | _ => []

/-- The bytes the backend accepted are, in order, a prefix of the payload of each
send, the whole payload where the send returned. The bytes it delivered are, in
order, the chunks that the receives returned. A guard is held while, and only
while, one task is parked behind it. -/
structure StreamIntegrity {σ : Type} (state : State (Recorded σ)) : Prop where
  sends : ∃ sent : List Bytes, sent.length = state.tasks.length ∧ state.port.backend.accepted = sent.flatten ∧
    ∀ (me : Nat) (task : Task) taken, state.tasks[me]? = some task → sent[me]? = some taken →
      taken <+: task.call.payload ∧ ∀ value, task.progress = .returned value → taken = task.call.payload
  receives : state.port.backend.delivered = (state.tasks.map fun task => task.progress.bytes).flatten
  chunks : ∀ task ∈ state.tasks, ∀ value, task.progress = .returned value → task.call.Yields value
  exclusive : ∀ direction (me other : Nat) (task rival : Task), state.tasks[me]? = some task → state.tasks[other]? = some rival →
    task.progress.direction = some direction → rival.progress.direction = some direction → me = other
  guards : ∀ direction, state.port.guarded direction = true ↔
    ∃ task ∈ state.tasks, task.progress.direction = some direction

end Anyserial
