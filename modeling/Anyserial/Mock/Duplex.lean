import Anyserial.Stream.Integrity
import Anyserial.Mock.Backend
import Anyserial.Kit.Conveyance

/-! `serial_port_pair`: two ports over the two ends of one pair, each with its own tasks.
In a turn one task of one port runs from the place where it is parked to its next await. -/
set_option autoImplicit false

namespace Anyserial.Mock

open Kit

/-- What the kernel and the event loop have to say in one turn: the room there is for a
send, how the registration of a descriptor ends, and what the process has memory and time
for. -/
structure Answers where
  accepts : Nat
  registers : Except PyExc Unit
  allocates : Int → Bool := fun _ => true
  sleeps : Number → Bool := fun _ => true

def Answers.loop (answers : Answers) : EventLoop Pair where
  waitReadable _ := liftExcept answers.registers
  waitWritable _ := liftExcept answers.registers
  notifyClosing _ := liftExcept answers.registers
  allocates _ := answers.allocates
  sleeps _ := answers.sleeps

/-- The pair itself, and the port on each end of it. What a port remembers of the pair is
out of date as soon as the other one has taken a turn. -/
structure Duplex where
  pair : Pair
  sides : Side → State (Recorded Pair)

def onPair {σ : Type} (state : State (Recorded σ)) (inner : σ) : State (Recorded σ) :=
  { state with port := { state.port with backend := { state.port.backend with inner := inner } } }

/-- The port of one side, on the pair as it is now. -/
def Duplex.view (duplex : Duplex) (side : Side) : State (Recorded Pair) := onPair (duplex.sides side) duplex.pair

def Duplex.tasks (duplex : Duplex) (side : Side) : List Task := (duplex.sides side).tasks

def Duplex.recorded (duplex : Duplex) (side : Side) : Recorded Pair := (duplex.sides side).port.backend

/-- `faults` is a test at work on `faults_of(port)`. -/
inductive Label where
  | turn (side : Side) (answers : Answers) (label : Anyserial.Label)
  | faults (side : Side) (plan : FaultPlan)

def stepSide (side : Side) (answers : Answers) (state : State (Recorded Pair)) (label : Anyserial.Label) :
    Option (State (Recorded Pair)) :=
  Anyserial.step (recording (backend side)) (recordingLoop answers.loop) state label

def step (duplex : Duplex) : Label → Option Duplex
  | .turn side answers label => do
      let after ← stepSide side answers
        (onPair (duplex.sides side) { duplex.pair with accepts := answers.accepts }) label
      pure ⟨after.port.backend.inner, Function.update duplex.sides side after⟩
  | .faults side plan => some { duplex with pair := duplex.pair.edit side fun state => state.setFaults plan }

/-- `MockBackend.pair`. -/
def Pair.fresh (fds : Side → Nat) (paths : Side → String) : Pair where
  ends side := ⟨⟨fds side, false, [], false⟩, paths side, false, none, false, false, .inactive, false⟩
  accepts := 0

/-- Both backends are opened, each with its own configuration or the default one. -/
def openBoth (paths : Side → String) (configs : Side → Option SerialConfig) : Py Pair Unit := do
  openPort .a (paths .a) ((configs .a).getD SerialConfig.defaults)
  openPort .b (paths .b) ((configs .b).getD SerialConfig.defaults)

def serialPortPair (fds : Side → Nat) (paths : Side → String) (configs : Side → Option SerialConfig) : Duplex :=
  let opened := finalState (openBoth paths configs) (.fresh fds paths)
  ⟨opened, fun side => .opened (.fresh opened) ((configs side).getD SerialConfig.defaults)⟩

/-- Nothing that this end's port asked of its backend drops bytes. -/
def Lossless (recorded : Recorded Pair) : Prop := .resetInputBuffer ∉ recorded.calls ∧ .close ∉ recorded.calls

/-- All that the receives of one port have returned. -/
def receivedBytes (tasks : List Task) : Bytes := (tasks.map fun task => task.progress.bytes).flatten

/-- What the tasks of the sender put into the pair, and what becomes of it: it waits in
the peer's inbox or it has left it, in order, through the peer's receives. Only a reset or
a close of the peer makes it leave in another way. -/
def EndToEnd (duplex : Duplex) (sender : Side) : Prop :=
  ∃ sent : List Bytes, sent.length = (duplex.tasks sender).length ∧
    (∀ (me : Nat) (task : Task) taken, (duplex.tasks sender)[me]? = some task → sent[me]? = some taken →
      taken <+: task.call.payload ∧ ∀ value, task.progress = .returned value → taken = task.call.payload) ∧
    Conveys (Lossless (duplex.recorded sender.peer)) sent.flatten (duplex.pair.inbox sender.peer)
      (receivedBytes (duplex.tasks sender.peer))

end Anyserial.Mock
