import Anyserial.Kit.Ownership
import Anyserial.Kit.Transition
import Anyserial.Windows.Backend

/-! `wait_modem_event` on asyncio: any number of tasks that each lend the kernel a buffer
and an event handle for the time of one `WaitCommEvent`. The kernel finishes an operation
whenever it likes, also after its task was cancelled. -/
set_option autoImplicit false

namespace Anyserial.Windows

open Kit

structure CommEvent where
  ctsChanged : Bool
  dsrChanged : Bool
  rlsdChanged : Bool
  ring : Bool
  error : Bool
  breakReceived : Bool
  deriving DecidableEq, Repr

def evCts : Nat := 0x0008

def evDsr : Nat := 0x0010

def evRlsd : Nat := 0x0020

def evBreak : Nat := 0x0040

def evErr : Nat := 0x0080

def evRing : Nat := 0x0100

/-- What `wait_modem_event` makes of the mask. -/
def commEvent (mask : Nat) : CommEvent where
  ctsChanged := mask &&& evCts ≠ 0
  dsrChanged := mask &&& evDsr ≠ 0
  rlsdChanged := mask &&& evRlsd ≠ 0
  ring := mask &&& evRing ≠ 0
  error := mask &&& evErr ≠ 0
  breakReceived := mask &&& evBreak ≠ 0

/-- What one call lends to the kernel: the `OVERLAPPED` with its mask, at an address, and
the event handle in it. The operation tells which of the kernel's operations it is for. -/
structure CommWait where
  operation : Nat
  address : Nat
  event : Handle
  deriving DecidableEq, Repr

/-- A `WaitCommEvent` as the kernel knows it, with its mask once it is finished. -/
structure CommOperation where
  address : Nat
  event : Handle
  result : Option Nat
  deriving DecidableEq, Repr

/-- `memory` holds the masks that are allocated, `events` the open event handles with
their signals. `stray` is set once the kernel writes or signals where nothing is left to
be written or signalled, or a handle is closed that is not open. -/
structure CommWorld where
  windows : WindowsWorld
  memory : Nat → Option Nat
  events : Handle → Option Bool
  operations : List CommOperation
  abandoned : List CommWait
  stray : Bool

abbrev Comm (α : Type) := EStateM WinExc CommWorld α

/-- Where a call stands. What returned also tells the operation that it waited for. -/
inductive CommTask where
  | waiting (wait : CommWait)
  | returned (operation : Nat) (event : CommEvent)
  | raised (exc : WinExc)
  deriving DecidableEq

section Kernel

/-- The kernel finishes a pending operation: it writes the mask and signals the event. -/
def CommWorld.finish (world : CommWorld) (operation : Nat) (mask : Nat) : CommWorld :=
  match world.operations[operation]? with
  | some ⟨address, event, none⟩ =>
      { world with
        operations := world.operations.set operation ⟨address, event, some mask⟩
        memory := if (world.memory address).isSome then Function.update world.memory address (some mask) else world.memory
        events := if (world.events event).isSome then Function.update world.events event (some true) else world.events
        stray := world.stray || (world.memory address).isNone || (world.events event).isNone }
  | _ => world

def CommWorld.pending (world : CommWorld) (operation : Nat) : Bool :=
  world.operations[operation]?.any fun operation => operation.result.isNone

/-- `CreateEventW`: a manual-reset event that is not signalled, or no handle at all. -/
def createEvent (answer : Except WinErr Handle) : Comm Handle :=
  match answer with
  | .error err => throw (.osError err)
  | .ok event => do
      modify fun world => { world with events := Function.update world.events event (some false) }
      pure event

/-- `OVERLAPPED()` and `c_uint32(0)`. -/
def allocate (address : Nat) : Comm Unit :=
  modify fun world => { world with memory := Function.update world.memory address (some 0) }

/-- The buffers go with the frame that they are locals of. -/
def deallocate (address : Nat) : Comm Unit :=
  modify fun world => { world with memory := Function.update world.memory address none }

/-- `CloseHandle`, its error suppressed. -/
def closeEvent (event : Handle) : Comm Unit :=
  modify fun world => { world with
    events := Function.update world.events event none
    stray := world.stray || (world.events event).isNone }

/-- How `WaitCommEvent` answers. -/
inductive WaitAnswer where
  | finished (mask : Nat)
  | refused (err : WinErr)
  | pending
  deriving DecidableEq

def submit (wait : CommWait) : Comm Unit :=
  modify fun world => { world with operations := world.operations ++ [⟨wait.address, wait.event, none⟩] }

end Kernel

/-- What the system answers to the first segment of a call. -/
structure BeginAnswers where
  event : Except WinErr Handle
  address : Nat
  issue : WaitAnswer

/-- A new handle is not one that is open, and new memory is not in use. -/
def BeginAnswers.fresh (answers : BeginAnswers) (world : CommWorld) : Bool :=
  (world.memory answers.address).isNone &&
    match answers.event with
    | .error _ => true
    | .ok event => (world.events event).isNone

/-- What happens during `CancelIoEx` and the bounded wait after it: the operations that the
kernel finishes, and whether the wait itself fails. -/
structure CancelAnswers where
  finished : List (Nat × Nat)
  waitFails : Bool

section Coroutine

/-- `except OSError as exc: raise winerror_to_exception(exc, context="ioctl", …)`. -/
def translatingWait {α : Type} (body : Comm α) : Comm α :=
  tryCatch body fun exc => do
    let world ← get
    if exc.isOSError then throw (winerrorToException exc .ioctl world.windows.backend.path) else throw exc

/-- The end of a call whose operation is over: `finally`, the mask, and the frame. -/
def completeWait (wait : CommWait) : Comm CommTask := do
  closeEvent wait.event
  let world ← get
  deallocate wait.address
  pure (.returned wait.operation (commEvent ((world.memory wait.address).getD 0)))

/-- `WaitCommEvent` and what follows it, up to the first await. -/
def issueWait (wait : CommWait) : WaitAnswer → Comm CommTask
  | .finished mask => do
      submit wait
      modify fun world => world.finish wait.operation mask
      completeWait wait
  | .refused err => do
      closeEvent wait.event
      deallocate wait.address
      throw (.osError err)
  | .pending => do
      submit wait
      pure (.waiting wait)

/-- `wait_modem_event`, up to the first await. -/
def beginWait (answers : BeginAnswers) : Comm CommTask := do
  let world ← get
  if world.windows.backend.isOpen then
    translatingWait do
      let event ← createEvent answers.event
      allocate answers.address
      issueWait ⟨world.operations.length, answers.address, event⟩ answers.issue
  else throw (closedError world.windows.backend.path)

/-- The await raises: the operation is cancelled, and what was lent is released only if
the kernel is seen to be done with it. -/
def interruptWait (wait : CommWait) (exc : WinExc) (answers : CancelAnswers) : Comm CommTask :=
  translatingWait do
    modify fun world => answers.finished.foldl (fun world done => world.finish done.1 done.2) world
    let world ← get
    if answers.waitFails = false ∧ world.events wait.event = some true then do
      closeEvent wait.event
      deallocate wait.address
    else modify fun world => { world with abandoned := world.abandoned ++ [wait] }
    throw exc

end Coroutine

structure CommState where
  world : CommWorld
  tasks : List CommTask

def CommState.opened (windows : WindowsWorld) : CommState :=
  ⟨⟨windows, fun _ => none, fun _ => none, [], [], false⟩, []⟩

inductive CommLabel where
  | call (answers : BeginAnswers)
  | finish (operation mask : Nat)
  | wake (me : Nat)
  | interrupt (me : Nat) (exc : WinExc) (answers : CancelAnswers)
  | aclose (faults : WinFaults)

/-- What a segment makes of its call. -/
def settleWait : EStateM.Result WinExc CommWorld CommTask → CommTask × CommWorld
  | .ok task world => (task, world)
  | .error exc world => (.raised exc, world)

def CommState.continue (state : CommState) (me : Nat) (body : Comm CommTask) : CommState :=
  ⟨(settleWait (body state.world)).2, state.tasks.set me (settleWait (body state.world)).1⟩

/-- A task wakes once its event is signalled, and the kernel finishes what is pending. -/
def commStep (state : CommState) : CommLabel → Option CommState
  | .call answers =>
      if answers.fresh state.world then
        some ⟨(settleWait (beginWait answers state.world)).2,
          state.tasks ++ [(settleWait (beginWait answers state.world)).1]⟩
      else none
  | .finish operation mask =>
      if state.world.pending operation then some { state with world := state.world.finish operation mask } else none
  | .wake me =>
      match state.tasks[me]? with
      | some (.waiting wait) =>
          if state.world.events wait.event = some true then some (state.continue me (completeWait wait)) else none
      | _ => none
  | .interrupt me exc answers =>
      match state.tasks[me]? with
      | some (.waiting wait) => some (state.continue me (interruptWait wait exc answers))
      | _ => none
  | .aclose faults =>
      let windows : WindowsWorld :=
        { state.world.windows with host := { state.world.windows.host with faults := faults } }
      some { state with world := { state.world with windows := finalState Windows.aclose windows } }

end Anyserial.Windows
