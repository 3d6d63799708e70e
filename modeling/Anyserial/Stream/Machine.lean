import Anyserial.Stream.Port
import Anyserial.Kit.Transition

/-! Any number of tasks on one port. They switch at awaits only, so a step runs one
task from the place where it is parked to the next one. -/
set_option autoImplicit false

namespace Anyserial

open Kit

abbrev Progress := Standing Frame Value PyExc

instance : DecidableEq Progress := instDecidableEqStanding

structure Task where
  call : Call
  progress : Progress
  deriving DecidableEq

structure State (σ : Type) where
  port : Port σ
  tasks : List Task

def State.opened {σ : Type} (backend : σ) (config : SerialConfig) : State σ := ⟨.opened backend config, []⟩

/-- The calls of `aclose()`: the backend's close is run when a call resumes. -/
inductive AcloseLabel where
  | call (cancelled : Bool)
  | resume (me : Nat)
  | cancel (me : Nat)
  deriving DecidableEq, Repr

inductive Label where
  | call (call : Call) (cancelled : Bool)
  | wake (me : Nat) (wake : Wake)
  | aclose (label : AcloseLabel)
  deriving DecidableEq

/-- The descriptor that a parked coroutine waits for. -/
def Frame.waitsOn : Frame → Option Int
  | .receiving _ fd | .receivingInto _ fd | .awaitingInput _ fd | .receivingAvailable _ fd | .sending _ _ fd => some fd
  | .draining | .drainingExact | .breaking | .configuring _ _ => none

/-- A wait ends by readiness, by cancellation, or because the loop was told that its descriptor
is being closed, a sleep does not see the close, and a lock that was taken at once is not
cancelled. -/
def Frame.admits {σ : Type} (port : Port σ) (me : Nat) : Frame → Wake → Bool
  | .configuring _ true, wake => wake = .ready
  | .configuring _ false, .ready => port.configureLock.owner = some me
  | .configuring _ false, wake => wake = .cancelled
  | .draining, wake | .drainingExact, wake | .breaking, wake => wake ≠ .closing
  | frame, .closing => port.notified = frame.waitsOn
  | _, _ => true

section Steps

variable {σ : Type} (backend : SyncSerialBackend σ) (loop : EventLoop σ)

def settle : EStateM.Result PyExc (Port σ) Outcome → Progress × Port σ
  | .ok (.suspended frame) port => (.parked frame, port)
  | .ok (.returned value) port => (.returned value, port)
  | .error exc port => (.raised exc, port)

/-- What the body of `aclose()` makes of the backend: nothing once the port is closed. -/
def closeOnce (port : Port σ) : Option PyExc × Port σ :=
  if port.closed then (none, port)
  else
    match Port.closeBackend backend loop port with
    | .ok _ after => (none, after)
    | .error exc after => (some exc, after)

def acloseStep (port : Port σ) : AcloseLabel → Option (Port σ)
  | .call cancelled => do
      let teardown ← Teardown.step .posix port.teardown (.call cancelled)
      pure { port with teardown := teardown }
  | .resume me => do
      let (result, after) := closeOnce backend loop port
      let teardown ← Teardown.step .posix port.teardown (.resume me result)
      pure { after with teardown := teardown }
  | .cancel me => do
      let teardown ← Teardown.step .posix port.teardown (.cancel me)
      pure { port with teardown := teardown }

def step (state : State σ) : Label → Option (State σ)
  | .call call cancelled =>
      let (progress, port) := settle (Port.start backend loop state.tasks.length cancelled call state.port)
      some ⟨port, state.tasks ++ [⟨call, progress⟩]⟩
  | .wake me wake =>
      match state.tasks[me]? with
      | some ⟨call, .parked frame⟩ =>
          if frame.admits state.port me wake then
            let (progress, port) := settle (Port.resume backend loop me wake frame state.port)
            some ⟨port, state.tasks.set me ⟨call, progress⟩⟩
          else none
      | _ => none
  | .aclose label => (acloseStep backend loop state.port label).map fun port => { state with port := port }

end Steps

end Anyserial
