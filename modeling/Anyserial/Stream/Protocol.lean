import Anyserial.Exceptions
import Anyserial.Config

/-! What a serial port needs of the world: the non-blocking backend protocol, and
the calls of the event loop that a port makes on a descriptor. -/
set_option autoImplicit false

namespace Anyserial

/-- A buffer to read into: its `len()`, which a view without dimensions has not, the bytes that it
holds, and whether they lie in one run. -/
structure ReadBuffer where
  len : Option Nat
  nbytes : Nat
  contiguous : Bool
  deriving DecidableEq

/-- `bytearray(size)`. -/
def ReadBuffer.ofSize (size : Nat) : ReadBuffer := ⟨some size, size, true⟩

@[simp] theorem ReadBuffer.nbytes_ofSize (size : Nat) : (ofSize size).nbytes = size := rfl

@[simp] theorem ReadBuffer.contiguous_ofSize (size : Nat) : (ofSize size).contiguous = true := rfl

/-- `SyncSerialBackend`. A read returns the bytes it put into the front of the buffer; a write
returns how many bytes it took. -/
structure SyncSerialBackend (σ : Type) where
  path : σ → String
  fileno : σ → Int
  openPort : String → SerialConfig → Py σ Unit
  close : Py σ Unit
  readNonblocking : ReadBuffer → Py σ Bytes
  writeNonblocking : Bytes → Py σ Int
  configure : SerialConfig → Py σ Unit
  resetInputBuffer : Py σ Unit
  resetOutputBuffer : Py σ Unit
  setBreak : Bool → Py σ Unit
  tcdrainBlocking : Py σ Unit
  modemLines : Py σ ModemLines
  setControlLines : Option Bool → Option Bool → Py σ Unit
  inputWaiting : Py σ Int
  outputWaiting : Py σ Int

/-- The protocol's own promise: a read stays in its buffer, and a write takes no more
than it was given. -/
structure SyncSerialBackend.Honest {σ : Type} (backend : SyncSerialBackend σ) : Prop where
  read : ∀ buffer bytes before after, backend.readNonblocking buffer before = .ok bytes after → bytes.length ≤ buffer.nbytes
  write : ∀ data count before after, backend.writeNonblocking data before = .ok count after → count ≤ data.length

/-- A relation that every method keeps, but those that open and close. -/
structure SyncSerialBackend.Preserves {σ : Type} (backend : SyncSerialBackend σ) (related : σ → σ → Prop) : Prop where
  readNonblocking : ∀ buffer, Kit.Keeps related (backend.readNonblocking buffer)
  writeNonblocking : ∀ data, Kit.Keeps related (backend.writeNonblocking data)
  configure : ∀ config, Kit.Keeps related (backend.configure config)
  resetInputBuffer : Kit.Keeps related backend.resetInputBuffer
  resetOutputBuffer : Kit.Keeps related backend.resetOutputBuffer
  setBreak : ∀ on, Kit.Keeps related (backend.setBreak on)
  tcdrainBlocking : Kit.Keeps related backend.tcdrainBlocking
  modemLines : Kit.Keeps related backend.modemLines
  setControlLines : ∀ rts dtr, Kit.Keeps related (backend.setControlLines rts dtr)
  inputWaiting : Kit.Keeps related backend.inputWaiting
  outputWaiting : Kit.Keeps related backend.outputWaiting

def SyncSerialBackend.SameFileno {σ : Type} (backend : SyncSerialBackend σ) (before after : σ) : Prop :=
  backend.fileno after = backend.fileno before

instance {σ : Type} (backend : SyncSerialBackend σ) : Std.Refl backend.SameFileno := ⟨fun _ => rfl⟩

instance {σ : Type} (backend : SyncSerialBackend σ) : IsTrans σ backend.SameFileno :=
  ⟨fun _ _ _ first second => Eq.trans second first⟩

/-- An implementation owns one descriptor from its open to its close. -/
def SyncSerialBackend.Steady {σ : Type} (backend : SyncSerialBackend σ) : Prop := backend.Preserves backend.SameFileno

/-- The part of the event loop that runs before a task is parked, and the call that
wakes the tasks parked on a descriptor. The other two fields say whether its process has
memory for a buffer of a size, and whether its clock takes the duration of a sleep. -/
structure EventLoop (σ : Type) where
  waitReadable : Int → Py σ Unit
  waitWritable : Int → Py σ Unit
  notifyClosing : Int → Py σ Unit
  allocates : σ → Int → Bool := fun _ _ => true
  sleeps : σ → Kit.Number → Bool := fun _ _ => true

/-- What is documented of the loop: a wait does not move the descriptor, and the loop can always
be told that one is about to be closed. -/
structure EventLoop.Notifies {σ : Type} (loop : EventLoop σ) (backend : SyncSerialBackend σ) : Prop where
  waitReadable : ∀ fd, Kit.Keeps backend.SameFileno (loop.waitReadable fd)
  waitWritable : ∀ fd, Kit.Keeps backend.SameFileno (loop.waitWritable fd)
  notifyClosing : ∀ fd state, Kit.Ends (loop.notifyClosing fd) state (fun _ _ => True) fun _ _ => False

/-- An event loop whose registrations are all accepted. -/
def quietLoop {σ : Type} : EventLoop σ where
  waitReadable _ := pure ()
  waitWritable _ := pure ()
  notifyClosing _ := pure ()

theorem notifies_quietLoop {σ : Type} (backend : SyncSerialBackend σ) : quietLoop.Notifies backend :=
  ⟨fun _ _ => rfl, fun _ _ => rfl, fun _ _ => trivial⟩

end Anyserial
