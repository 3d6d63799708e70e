import Anyserial.Exceptions
import Anyserial.Types
import Anyserial.Kit.MemoryView

/-! `send_buffer`: the cast of a buffer to bytes, and the loop of partial writes on the
view that it leaves. -/
set_option autoImplicit false

namespace Anyserial

open Kit

/-- How the backend answers one write. -/
inductive Reply where
  | accepts (count : Nat)
  | fails (err : OSErr)

/-- `waiting`: the coroutine is parked, or has not made its next write yet. -/
inductive SendEnding where
  | returned
  | refused (refusal : MemoryView.Refusal)
  | raised (exc : PyExc)
  | waiting
  deriving DecidableEq

/-- What went to the kernel, in order, and how the coroutine ended. -/
structure Sent where
  data : Bytes
  ending : SendEnding
  deriving DecidableEq

def Sent.after (written : Bytes) (sent : Sent) : Sent := { sent with data := written ++ sent.data }

section Coroutine

variable (path : String)

/-- The loop of `_send_view`. `os.write` takes contiguous buffers only, and counts bytes. -/
def sendFrom (view : MemoryView) (total : Nat) : Nat → List Reply → Sent
  | offset, [] => ⟨[], if offset < total then .waiting else .returned⟩
  | offset, reply :: replies =>
      if offset < total then
        if (view.drop offset).isC then
          match reply with
          | .accepts count =>
              let written := (view.drop offset).tobytes.take count
              (sendFrom view total (offset + written.length) replies).after written
          | .fails err =>
              if (PyExc.osError err).isRetry then sendFrom view total offset replies
              else ⟨[], .raised (errnoToException (.osError err) .io path)⟩
        else ⟨[], .refused .bufferError⟩
      else ⟨[], .returned⟩

/-- `_send_view` of an open port whose send guard is free. -/
def sendView (view : MemoryView) (replies : List Reply) : Sent :=
  match view.len with
  | .error refusal => ⟨[], .refused refusal⟩
  | .ok total => if total = 0 then ⟨[], .returned⟩ else sendFrom path view total 0 replies

def sendBuffer (data : MemoryView) (replies : List Reply) : Sent :=
  if data.itemsize ≠ 1 then
    if data.contiguous then
      match data.castB with
      | .ok view => sendView path view replies
      | .error refusal => ⟨[], .refused refusal⟩
    else sendView path (.ofBytes data.tobytes) replies
  else sendView path data replies

end Coroutine

end Anyserial
