import Anyserial.Kit.Transition
import Anyserial.Kit.Turns
import Anyserial.Kit.Conveyance
import Anyserial.Windows.Port

/-! Any number of tasks on one port over the Windows backend, and the kernel, which completes
their overlapped operations between the steps that they take. -/
set_option autoImplicit false

namespace Anyserial.Windows

open Kit

abbrev AsyncProgress := Standing Frame Value WinExc

instance : DecidableEq AsyncProgress := instDecidableEqStanding

structure AsyncTask where
  call : Anyserial.Call
  progress : AsyncProgress
  deriving DecidableEq

structure AsyncState where
  port : AsyncPort
  tasks : List AsyncTask

def AsyncState.opened (windows : WindowsWorld) (line : Line) (config : SerialConfig) : AsyncState :=
  ⟨.opened { windows := windows, line := line } config, []⟩

/-- What one segment is refused: calls of the kernel, memory for a buffer, or a sleep. -/
structure Refusals where
  faults : WinFaults := {}
  line : LineCall → Option WinErr := fun _ => none
  allocates : Int → Bool := fun _ => true
  sleeps : Number → Bool := fun _ => true

/-- `arrives` and `signals` are what the other end of the line and the driver do. `moved` is
the number of bytes that the kernel has moved for an operation that ends. -/
inductive AsyncLabel where
  | call (call : Anyserial.Call) (cancelled : Bool) (refusals : Refusals)
  | complete (me moved : Nat) (failed : Option WinExc)
  | wake (me : Nat) (refusals : Refusals)
  | cancel (me moved : Nat) (refusals : Refusals)
  | aclose (label : Teardown.Label) (refusals : Refusals)
  | arrives (bytes : Bytes)
  | signals (unsent status : Nat)

def onLine (f : Line → Line) (port : AsyncPort) : AsyncPort :=
  { port with backend := { port.backend with line := f port.backend.line } }

/-- The port in a segment. -/
def facing (refusals : Refusals) (port : AsyncPort) : AsyncPort :=
  { port with backend := { port.backend with
      refused := refusals.line
      allocates := refusals.allocates
      sleeps := refusals.sleeps
      windows := { port.backend.windows with host := { port.backend.windows.host with faults := refusals.faults } } } }

def settleAsync : EStateM.Result WinExc AsyncPort Outcome → AsyncProgress × AsyncPort
  | .ok (.suspended frame) port => (.parked frame, port)
  | .ok (.returned value) port => (.returned value, port)
  | .error exc port => (.raised exc, port)

def take (count : Nat) (port : AsyncPort) : AsyncPort :=
  onLine (fun line => { line with input := line.input.drop count }) port

def put (bytes : Bytes) (port : AsyncPort) : AsyncPort :=
  onLine (fun line => { line with output := line.output ++ bytes }) port

/-- How a write of `room` bytes ends of which the kernel has moved `moved`. -/
def writeCompletion (moved room : Nat) : Option WinExc → Except WinExc Nat
  | none => .ok (min moved room)
  | some exc => .error exc

/-- The kernel takes the bytes of a completed read from the queue, and those of a write from
its caller, also when that fails in the end. -/
def completeFrame (moved : Nat) (failed : Option WinExc) (port : AsyncPort) : Frame → Option (Frame × AsyncPort)
  | .reading size into none =>
      match failed with
      | none =>
          some (.reading size into (some (.ok (port.backend.line.input.take (min moved size)))), take (min moved size) port)
      | some exc => some (.reading size into (some (.error exc)), port)
  | .writing data offset none =>
      some (.writing data offset (some (writeCompletion moved (data.length - offset) failed)),
        put ((data.drop offset).take moved) port)
  | _ => none

/-- A wait ends with its completion, and a lock that was handed over is taken. -/
def Frame.ready (port : AsyncPort) (me : Nat) : Frame → Bool
  | .reading _ _ completion => completion.isSome
  | .writing _ _ completion => completion.isSome
  | .flushing | .breaking => true
  | .configuring _ acquired => acquired || port.configureLock.owner = some me

/-- What a cancellation does to the line, where it may be delivered. Trio waits for the
kernel: an operation that was done is not cancelled, and one that is moves nothing that
was to be read. asyncio gives up what it does not get. -/
def cancelFrame (moved : Nat) (port : AsyncPort) : Frame → Option AsyncPort
  | .reading size _ none =>
      if moved ≤ size ∧ (port.backend.windows.backend.runtime = some .trio → moved = 0) then some (take moved port) else none
  | .writing data offset none => some (put ((data.drop offset).take moved) port)
  | .reading _ _ (some _) => if port.backend.windows.backend.runtime = some .trio then none else some port
  | .writing _ _ (some _) => if port.backend.windows.backend.runtime = some .trio then none else some port
  | .flushing | .breaking => some port
  | .configuring _ acquired => if acquired then none else some port

/-- What the body of `aclose()` makes of the backend: nothing once the port is closed. -/
def closeOnce (port : AsyncPort) : AsyncPort :=
  if port.closed then port
  else
    match closeBackend port with
    | .ok _ after => after
    | .error _ after => after

def asyncAclose (port : AsyncPort) : Teardown.Label → Option AsyncPort
  | .call cancelled => do
      let teardown ← Teardown.step .asyncBackend port.teardown (.call cancelled)
      pure { port with teardown := teardown }
  | .resume me _ => do
      let teardown ← Teardown.step .asyncBackend port.teardown (.resume me none)
      pure { closeOnce port with teardown := teardown }
  | .cancel me => do
      let teardown ← Teardown.step .asyncBackend port.teardown (.cancel me)
      pure { port with teardown := teardown }
  | .finish me _ => do
      let teardown ← Teardown.step .asyncBackend port.teardown (.finish me none)
      pure { port with teardown := teardown }

/-- The frame that a task is parked in. -/
def AsyncState.frame (state : AsyncState) (me : Nat) : Option (Anyserial.Call × Frame) :=
  match state.tasks[me]? with
  | some ⟨call, .parked frame⟩ => some (call, frame)
  | _ => none

/-- The parked task goes on from the port as it is now. -/
def AsyncState.advance (state : AsyncState) (me : Nat) (call : Anyserial.Call) (body : Serial Outcome) (port : AsyncPort) :
    AsyncState :=
  let (progress, after) := settleAsync (body port)
  ⟨after, state.tasks.set me ⟨call, progress⟩⟩

def asyncStep (state : AsyncState) : AsyncLabel → Option AsyncState
  | .call call cancelled refusals =>
      let (progress, port) := settleAsync (AsyncPort.start state.tasks.length cancelled call (facing refusals state.port))
      some ⟨port, state.tasks ++ [⟨call, progress⟩]⟩
  | .complete me moved failed => do
      let (call, frame) ← state.frame me
      let (frame, port) ← completeFrame moved failed state.port frame
      pure ⟨port, state.tasks.set me ⟨call, .parked frame⟩⟩
  | .wake me refusals => do
      let (call, frame) ← state.frame me
      if frame.ready state.port me then
        pure (state.advance me call (AsyncPort.resume me false frame) (facing refusals state.port))
      else none
  | .cancel me moved refusals => do
      let (call, frame) ← state.frame me
      let port ← cancelFrame moved state.port frame
      pure (state.advance me call (AsyncPort.resume me true frame) (facing refusals port))
  | .aclose label refusals => do
      let port ← asyncAclose (facing refusals state.port) label
      pure { state with port := port }
  | .arrives bytes =>
      some { state with port := onLine (fun line =>
        { line with arrived := line.arrived ++ bytes, input := line.input ++ bytes }) state.port }
  | .signals unsent status =>
      some { state with port := onLine (fun line => { line with unsent := unsent, status := status }) state.port }

section Steps

variable {state next : AsyncState} {port after : AsyncPort} {me moved : Nat} {call : Anyserial.Call} {cancelled : Bool}
  {refusals : Refusals} {failed : Option WinExc}

theorem asyncStep_call : asyncStep state (.call call cancelled refusals) =
    some ⟨(settleAsync (AsyncPort.start state.tasks.length cancelled call (facing refusals state.port))).2,
      state.tasks ++ [⟨call, (settleAsync (AsyncPort.start state.tasks.length cancelled call (facing refusals state.port))).1⟩]⟩ :=
  rfl

theorem advance_eq (body : Serial Outcome) : state.advance me call body port =
    ⟨(settleAsync (body port)).2, state.tasks.set me ⟨call, (settleAsync (body port)).1⟩⟩ := rfl

theorem asyncStep_wake_iff : asyncStep state (.wake me refusals) = some next ↔
    ∃ call frame, state.frame me = some (call, frame) ∧ frame.ready state.port me = true ∧
      next = state.advance me call (AsyncPort.resume me false frame) (facing refusals state.port) := by
  simp only [asyncStep, Option.bind_eq_bind, Option.bind_eq_some_iff, Prod.exists]
  constructor
  · rintro ⟨call, frame, found, stepped⟩
    split at stepped
    · rename_i ready
      exact ⟨call, frame, found, ready, (Option.some.inj stepped).symm⟩
    · cases stepped
  · rintro ⟨call, frame, found, ready, rfl⟩
    exact ⟨call, frame, found, if_pos ready⟩

theorem asyncStep_complete_iff : asyncStep state (.complete me moved failed) = some next ↔
    ∃ call frame done port, state.frame me = some (call, frame) ∧ completeFrame moved failed state.port frame = some (done, port) ∧
      next = ⟨port, state.tasks.set me ⟨call, .parked done⟩⟩ := by
  simp only [asyncStep, Option.bind_eq_bind, Option.bind_eq_some_iff, Prod.exists]
  constructor
  · rintro ⟨call, frame, found, done, port, completed, stepped⟩
    exact ⟨call, frame, done, port, found, completed, (Option.some.inj stepped).symm⟩
  · rintro ⟨call, frame, done, port, found, completed, rfl⟩
    exact ⟨call, frame, found, done, port, completed, rfl⟩

theorem asyncStep_cancel_iff : asyncStep state (.cancel me moved refusals) = some next ↔
    ∃ call frame port, state.frame me = some (call, frame) ∧ cancelFrame moved state.port frame = some port ∧
      next = state.advance me call (AsyncPort.resume me true frame) (facing refusals port) := by
  simp only [asyncStep, Option.bind_eq_bind, Option.bind_eq_some_iff, Prod.exists]
  constructor
  · rintro ⟨call, frame, found, port, given, stepped⟩
    exact ⟨call, frame, port, found, given, (Option.some.inj stepped).symm⟩
  · rintro ⟨call, frame, port, found, given, rfl⟩
    exact ⟨call, frame, found, port, given, rfl⟩

theorem asyncStep_aclose_iff {label : Teardown.Label} : asyncStep state (.aclose label refusals) = some next ↔
    ∃ port, asyncAclose (facing refusals state.port) label = some port ∧ next = { state with port := port } := by
  simp only [asyncStep, Option.bind_eq_bind, Option.bind_eq_some_iff]
  constructor
  · rintro ⟨port, closed, stepped⟩
    exact ⟨port, closed, (Option.some.inj stepped).symm⟩
  · rintro ⟨port, closed, rfl⟩
    exact ⟨port, closed, rfl⟩

theorem asyncAclose_cases {label : Teardown.Label} (closed : asyncAclose port label = some after) :
    ∃ teardown, after = { port with teardown := teardown } ∨
      (∃ closer result, label = .resume closer result) ∧ after = { closeOnce port with teardown := teardown } := by
  cases label with
  | resume closer result =>
    simp only [asyncAclose, Option.bind_eq_bind, Option.bind_eq_some_iff] at closed
    obtain ⟨teardown, _, same⟩ := closed
    exact ⟨teardown, .inr ⟨⟨closer, result, rfl⟩, (Option.some.inj same).symm⟩⟩
  | call | cancel | finish =>
    simp only [asyncAclose, Option.bind_eq_bind, Option.bind_eq_some_iff] at closed
    obtain ⟨teardown, _, same⟩ := closed
    exact ⟨teardown, .inl (Option.some.inj same).symm⟩

end Steps

end Anyserial.Windows
