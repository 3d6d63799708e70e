import Anyserial.Kit.Transition
import Anyserial.Windows.Backend

/-! The hot path of the Windows backend: overlapped reads and writes of any number of
tasks, interleaved with `aclose`. A step is what one task does between two awaits. -/
set_option autoImplicit false

namespace Anyserial.Windows

open Kit

/-- How a runtime reports an overlapped operation: its result, or what it raises. -/
abbrev Completion (α : Type) := Except WinExc α

/-- A call that waits for its operation. A read fills the caller's buffer or a fresh one. -/
inductive Call where
  | read (size : Nat) (into : Bool)
  | write (total offset : Nat)
  deriving DecidableEq, Repr

inductive Task where
  | idle
  | waiting (call : Call)
  | received (data : Bytes) (into : Bool)
  | sent (total offset : Nat)
  | raised (exc : WinExc)
  deriving DecidableEq, Repr

/-- Only a handle that is not open is refused here: what the kernel makes of an operation
on an open one, at once or later, is its completion. -/
def issue (call : Kernel32Call) (handle : Handle) : Win Unit := do
  let host ← getHost
  record call handle
  if handle ∈ host.live then pure () else throw (.osError invalidHandle)

/-- An operation on the handle that is stored: asyncio asserts that there is a wrapper. -/
def dispatch (call : Kernel32Call) : Win Unit := do
  let backend ← getBackend
  if backend.runtime = some .trio then issue call backend.handle
  else if backend.handleWrapper = none then throw (.raised .assertionError)
  else issue call backend.handle

/-- On trio a read that timed out is an error, which counts as an empty completion. -/
def reportRead (runtime : Option RuntimeFlavour) (completion : Completion Bytes) : Completion Bytes :=
  match completion with
  | .error (.osError err) => if runtime = some .trio ∧ err.winerror = errorTimeout then .ok [] else completion
  | _ => completion

/-- The loop of `_readinto_until_data` from the await on, fed with the completions that
come without a yield; an empty one makes the backend issue the read again. -/
def awaitRead (size : Nat) (into : Bool) : List (Completion Bytes) → Win Task
  | [] => pure (.waiting (.read size into))
  | completion :: rest => do
      let backend ← getBackend
      let data ← translating .io backend.path (liftExcept (reportRead backend.runtime completion))
      if data = [] then do
        translating .io backend.path (dispatch .readFile)
        awaitRead size into rest
      else pure (.received data into)

/-- `receive` and `receive_into`, up to the first await. -/
def beginRead (size : Nat) (into : Bool) (completions : List (Completion Bytes)) : Win Task := do
  raiseIfClosed
  let backend ← getBackend
  translating .io backend.path (dispatch .readFile)
  awaitRead size into completions

def noProgress (path : String) : WinExc :=
  .raised (.serialError .serialDisconnectedError ⟨some (.other 0), "WriteFile returned 0 bytes", some path⟩)

/-- The loop of `send` from the await on. -/
def awaitWrite (total : Nat) : Nat → List (Completion Nat) → Win Task
  | offset, [] => pure (.waiting (.write total offset))
  | offset, completion :: rest => do
      let backend ← getBackend
      let written ← translating .io backend.path (liftExcept completion)
      if written = 0 then throw (noProgress backend.path)
      else if offset + written < total then do
        translating .io backend.path (dispatch .writeFile)
        awaitWrite total (offset + written) rest
      else pure (.sent total (offset + written))

/-- `send`, up to the first await. -/
def beginWrite (total : Nat) (completions : List (Completion Nat)) : Win Task := do
  raiseIfClosed
  let backend ← getBackend
  if 0 < total then do
    translating .io backend.path (dispatch .writeFile)
    awaitWrite total 0 completions
  else pure (.sent total 0)

structure HotState where
  world : WindowsWorld
  tasks : Nat → Task

/-- What happens next. A resumed task gets the completion of its operation first. -/
inductive HotLabel where
  | beginRead (task size : Nat) (into : Bool) (completions : List (Completion Bytes))
  | beginWrite (task total : Nat) (completions : List (Completion Nat))
  | resumeRead (task : Nat) (completion : Completion Bytes) (rest : List (Completion Bytes))
  | resumeWrite (task : Nat) (completion : Completion Nat) (rest : List (Completion Nat))
  | aclose (faults : WinFaults)

/-- The task runs on, and an exception ends it. -/
def HotState.advance (state : HotState) (task : Nat) (body : Win Task) : HotState :=
  match body state.world with
  | .ok progress world => ⟨world, Function.update state.tasks task progress⟩
  | .error exc world => ⟨world, Function.update state.tasks task (.raised exc)⟩

def hotStep (state : HotState) : HotLabel → Option HotState
  | .beginRead task size into completions =>
      match state.tasks task with
      | .waiting _ => none
      | _ => some (state.advance task (beginRead size into completions))
  | .beginWrite task total completions =>
      match state.tasks task with
      | .waiting _ => none
      | _ => some (state.advance task (beginWrite total completions))
  | .resumeRead task completion rest =>
      match state.tasks task with
      | .waiting (.read size into) => some (state.advance task (awaitRead size into (completion :: rest)))
      | _ => none
  | .resumeWrite task completion rest =>
      match state.tasks task with
      | .waiting (.write total offset) => some (state.advance task (awaitWrite total offset (completion :: rest)))
      | _ => none
  | .aclose faults =>
      let world : WindowsWorld := { state.world with host := { state.world.host with faults := faults } }
      some ⟨finalState Windows.aclose world, state.tasks⟩

end Anyserial.Windows
