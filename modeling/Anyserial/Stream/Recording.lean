import Anyserial.Stream.Protocol

/-! A backend that remembers what was asked of it: every call that touches the
descriptor, in order, and the bytes that went through it in each direction. -/
set_option autoImplicit false

namespace Anyserial

inductive Method where
  | openPort | close | readNonblocking | writeNonblocking | configure
  | resetInputBuffer | resetOutputBuffer | setBreak | tcdrainBlocking
  | modemLines | setControlLines | inputWaiting | outputWaiting
  | waitReadable | waitWritable | notifyClosing
  deriving DecidableEq, Repr

structure Recorded (σ : Type) where
  inner : σ
  accepted : Bytes
  delivered : Bytes
  calls : List Method

def Recorded.fresh {σ : Type} (inner : σ) : Recorded σ := ⟨inner, [], [], []⟩

section Recording

variable {σ α : Type}

def recordCall (method : Method) (body : Py σ α) : Py (Recorded σ) α := fun recorded =>
  match body recorded.inner with
  | .ok value inner => .ok value { recorded with inner := inner, calls := recorded.calls ++ [method] }
  | .error exc inner => .error exc { recorded with inner := inner, calls := recorded.calls ++ [method] }

open Kit in
theorem ends_recordCall {method : Method} {body : Py σ α} {recorded : Recorded σ} {returned : α → Recorded σ → Prop}
    {raised : PyExc → Recorded σ → Prop} :
    Ends (recordCall method body) recorded returned raised ↔
      Ends body recorded.inner
        (fun value inner => returned value { recorded with inner := inner, calls := recorded.calls ++ [method] })
        (fun exc inner => raised exc { recorded with inner := inner, calls := recorded.calls ++ [method] }) := by
  cases ran : body recorded.inner with
  | ok value inner => simp only [Ends, recordCall, ran]
  | error exc inner => simp only [Ends, recordCall, ran]

def recording (backend : SyncSerialBackend σ) : SyncSerialBackend (Recorded σ) where
  path recorded := backend.path recorded.inner
  fileno recorded := backend.fileno recorded.inner
  openPort path config := recordCall .openPort (backend.openPort path config)
  close := recordCall .close backend.close
  readNonblocking buffer := do
    let bytes ← recordCall .readNonblocking (backend.readNonblocking buffer)
    modify fun recorded => { recorded with delivered := recorded.delivered ++ bytes }
    pure bytes
  writeNonblocking data := do
    let count ← recordCall .writeNonblocking (backend.writeNonblocking data)
    modify fun recorded => { recorded with accepted := recorded.accepted ++ data.take count.toNat }
    pure count
  configure config := recordCall .configure (backend.configure config)
  resetInputBuffer := recordCall .resetInputBuffer backend.resetInputBuffer
  resetOutputBuffer := recordCall .resetOutputBuffer backend.resetOutputBuffer
  setBreak on := recordCall .setBreak (backend.setBreak on)
  tcdrainBlocking := recordCall .tcdrainBlocking backend.tcdrainBlocking
  modemLines := recordCall .modemLines backend.modemLines
  setControlLines rts dtr := recordCall .setControlLines (backend.setControlLines rts dtr)
  inputWaiting := recordCall .inputWaiting backend.inputWaiting
  outputWaiting := recordCall .outputWaiting backend.outputWaiting

def recordingLoop (loop : EventLoop σ) : EventLoop (Recorded σ) where
  waitReadable fd := recordCall .waitReadable (loop.waitReadable fd)
  waitWritable fd := recordCall .waitWritable (loop.waitWritable fd)
  notifyClosing fd := recordCall .notifyClosing (loop.notifyClosing fd)
  allocates recorded := loop.allocates recorded.inner
  sleeps recorded := loop.sleeps recorded.inner

section Steady

open Kit

variable {backend : SyncSerialBackend σ} {loop : EventLoop σ}

theorem sameFileno_recordCall {method : Method} {body : Py σ α} (kept : Keeps backend.SameFileno body) :
    Keeps (recording backend).SameFileno (recordCall method body) := by
  intro recorded
  rw [ends_recordCall]
  exact kept recorded.inner

/-- The log does not move the descriptor. -/
theorem steady_recording (steady : backend.Steady) : (recording backend).Steady where
  readNonblocking buffer recorded := by
    simp only [recording, ends_bind, ends_modify, ends_pure]
    exact sameFileno_recordCall (steady.readNonblocking buffer) recorded
  writeNonblocking data recorded := by
    simp only [recording, ends_bind, ends_modify, ends_pure]
    exact sameFileno_recordCall (steady.writeNonblocking data) recorded
  configure config := sameFileno_recordCall (steady.configure config)
  resetInputBuffer := sameFileno_recordCall steady.resetInputBuffer
  resetOutputBuffer := sameFileno_recordCall steady.resetOutputBuffer
  setBreak on := sameFileno_recordCall (steady.setBreak on)
  tcdrainBlocking := sameFileno_recordCall steady.tcdrainBlocking
  modemLines := sameFileno_recordCall steady.modemLines
  setControlLines rts dtr := sameFileno_recordCall (steady.setControlLines rts dtr)
  inputWaiting := sameFileno_recordCall steady.inputWaiting
  outputWaiting := sameFileno_recordCall steady.outputWaiting

theorem notifies_recordingLoop (notifies : loop.Notifies backend) : (recordingLoop loop).Notifies (recording backend) where
  waitReadable fd := sameFileno_recordCall (notifies.waitReadable fd)
  waitWritable fd := sameFileno_recordCall (notifies.waitWritable fd)
  notifyClosing fd recorded := by
    rw [recordingLoop, ends_recordCall]
    exact notifies.notifyClosing fd recorded.inner

end Steady

end Recording

end Anyserial
